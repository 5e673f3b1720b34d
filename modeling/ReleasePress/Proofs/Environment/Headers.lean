import ReleasePress.Proofs.Environment.Alone
import ReleasePress.Proofs.Markdown.FrontMatter

/-!
# Headers that are given

Front matter is cut off a Markdown text whatever it holds, and it becomes `headers` only if the context has none.  What
is left of it otherwise is a warning, if it is no mapping.  Nothing that renders a text reads the warnings
(`mirrors_renderBody_alike`), so with `headers` given a text is rendered as if it had no front matter:
`Environment.alone_headersGiven`.
-/

namespace ReleasePress

open ReleasePress.Git

variable {σ α : Type}

/-- The same state but for the warnings. -/
def FilterState.Alike (t s : FilterState σ) : Prop :=
  t.repository = s.repository ∧ t.aliases = s.aliases

namespace FilterLibrary

/-! ## Filters -/

theorem mirrors_ask_alike (question : StateM σ α) : Mirrors FilterState.Alike (ask question) (ask question) := by
  rintro ⟨_, _, _⟩ ⟨_, _, _⟩ ⟨⟨⟩, ⟨⟩⟩
  exact ⟨rfl, rfl, rfl⟩

theorem mirrored_alike (repository : Repository σ) : repository.Mirrored FilterState.Alike repository where
  object _ := mirrors_ask_alike _
  revision _ := mirrors_ask_alike _
  history _ := mirrors_ask_alike _
  note _ _ := mirrors_ask_alike _

theorem mirrors_resolver_alike (library : FilterLibrary σ) :
    Mirrors FilterState.Alike library.resolver library.resolver := by
  rintro ⟨repository, aliases, _⟩ ⟨_, _, _⟩ ⟨⟨⟩, ⟨⟩⟩
  cases aliases with
  | some known =>
      rw [resolver_run_of_some rfl, resolver_run_of_some rfl]
      exact ⟨rfl, rfl, rfl⟩
  | none =>
      rw [resolver_run_of_none, resolver_run_of_none]
      exact ⟨rfl, rfl, rfl⟩

theorem mirrors_callNamed_alike (library : FilterLibrary σ) (filter : Filter) (subject : Json) (named : Fields) :
    Mirrors FilterState.Alike (library.callNamed filter subject named) (library.callNamed filter subject named) :=
  mirrors_callNamed (mirrored_alike library.repository) library.mirrors_resolver_alike filter subject named

end FilterLibrary

namespace Environment

open FrontMatter (IsComplete Block)

/-! ## Texts -/

/-- The warnings so far tell nothing in a document. -/
theorem mirrors_renderBody_alike (environment : Environment σ) (key body : String) (context : Fields) :
    Mirrors FilterState.Alike (environment.renderBody key body context) (environment.renderBody key body context) :=
  mirrors_renderBody environment.library.mirrors_callNamed_alike key body context

theorem withHeaders_of_isSome {context : Fields} (h : (Json.field? headersName context).isSome = true)
    (header : Option Fields) : withHeaders header context = context := by
  cases header with
  | none => rfl
  | some fields => exact if_pos h

/-- With `headers` given a text is rendered as its body. -/
theorem alone_eq_renderBody (environment : Environment σ) {key text body : String} {context : Fields}
    (hheaders : (Json.field? headersName context).isSome = true)
    (hbody : (FrontMatter.split (Template.isMarkdownKey key) text).1 = body) (s : FilterState σ) :
    environment.alone context s key text = ((environment.renderBody key body context).run s).1 := by
  rcases hsplit : FrontMatter.split (Template.isMarkdownKey key) text with ⟨body', header, warning⟩
  obtain rfl : body' = body := by rw [← hbody, hsplit]
  have halike : FilterState.Alike ((warn warning.toList).run s).2 s := ⟨rfl, rfl⟩
  rw [alone, renderText, hsplit, run_bind, withHeaders_of_isSome hheaders]
  exact (environment.mirrors_renderBody_alike key body' context _ _ halike).1

/-- **With `headers` given front matter is invisible.**  Whatever complete front matter stands in front of a body, the
two together have the same document or fail with the same error, and the same as the body alone unless the body has
front matter of its own. -/
theorem alone_headersGiven (environment : Environment σ) {key : String} {context : Fields}
    (hkey : Template.isMarkdownKey key = true) (hheaders : (Json.field? headersName context).isSome = true)
    (body : String) (s : FilterState σ) :
    (∀ front front', IsComplete front → IsComplete front' →
        environment.alone context s key (front ++ body) = environment.alone context s key (front' ++ body)) ∧
      ((¬ ∃ block : Block, block.PartsOf body.toList) → ∀ front, IsComplete front →
        environment.alone context s key (front ++ body) = environment.alone context s key body) := by
  have hfront {front : String} (hcomplete : IsComplete front) :
      environment.alone context s key (front ++ body) = ((environment.renderBody key body context).run s).1 := by
    have hbody : (FrontMatter.split (Template.isMarkdownKey key) (front ++ body)).1 = body := by
      rw [hkey, hcomplete.split]
    exact environment.alone_eq_renderBody hheaders hbody s
  refine ⟨fun front front' hcomplete hcomplete' => ?_, fun hnone front hcomplete => ?_⟩
  · rw [hfront hcomplete, hfront hcomplete']
  · have hbody : (FrontMatter.split (Template.isMarkdownKey key) body).1 = body := by
      rw [hkey, FrontMatter.split_of_no_parts hnone]
    rw [hfront hcomplete, environment.alone_eq_renderBody hheaders hbody]

/-- Front matter with a mapping. -/
def mappingFront : String :=
  "---\nheaders: 1\n---\n"

/-- Front matter that is no YAML. -/
def brokenFront : String :=
  "---\r\n: [\r\n---\r\n"

/-- A body that shows the headers. -/
def showing : String :=
  "\x7b\x7b headers \x7d\x7d"

theorem alone_headersGiven_broken :
    plain.alone [("headers", .string "x")] { repository := 0 } "a.md" (mappingFront ++ showing) =
        plain.alone [("headers", .string "x")] { repository := 0 } "a.md" (brokenFront ++ showing) ∧
      (plain.alone [("headers", .string "x")] { repository := 0 } "a.md" (brokenFront ++ showing)).toOption =
        some "x" := by
  have hmapping : IsComplete mappingFront :=
    ⟨⟨"---\n".toList, "headers: 1\n".toList, "---\n".toList, []⟩,
      FrontMatter.cut?_eq_some_iff.1 (by decide), rfl, by decide⟩
  have hbroken : IsComplete brokenFront :=
    ⟨⟨"---\r\n".toList, ": [\r\n".toList, "---\r\n".toList, []⟩,
      FrontMatter.cut?_eq_some_iff.1 (by decide), rfl, by decide⟩
  have hnone : ¬ ∃ block : Block, block.PartsOf showing.toList := by
    rintro ⟨block, hparts⟩
    have hcut : FrontMatter.cut? showing.toList = none := by decide
    rw [FrontMatter.cut?_eq_some_iff.2 hparts] at hcut
    cases hcut
  have hheaders : (Json.field? headersName [("headers", .string "x")]).isSome = true := rfl
  have hdocument : (plain.alone [("headers", .string "x")] { repository := 0 } "a.md" showing).toOption = some "x" := by
    decide +kernel
  obtain ⟨hsame, hbody⟩ :=
    alone_headersGiven plain (by decide : Template.isMarkdownKey "a.md" = true) hheaders showing { repository := 0 }
  exact ⟨hsame _ _ hmapping hbroken, by rw [hbody hnone _ hbroken, hdocument]⟩

end Environment

end ReleasePress
