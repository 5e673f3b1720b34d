import ReleasePress.Proofs.Filter.Settled
import ReleasePress.Proofs.Template.Contract
import ReleasePress.Proofs.Template.Entries
import ReleasePress.Proofs.Template.Mirrored

/-! # Each entry is rendered alone

Rendering an entry leaves nothing behind that a later entry could tell, over a steady repository. So the
documents of a template are those that its texts have alone (`renderTemplates_alone`): there are documents if
and only if each text has one, and otherwise the first text in the order of the keys that has none tells why. -/

namespace ReleasePress

open ReleasePress.Template

/-! ## Lists of results -/

section Results

variable {ε α β : Type} {f : α → Except ε β} {l : List α}

theorem exists_of_mapM_eq_ok {bs : List β} (h : l.mapM f = .ok bs) {a : α} (ha : a ∈ l) :
    ∃ b ∈ bs, f a = .ok b := by
  induction l generalizing bs with
  | nil => cases ha
  | cons a' l ih =>
      rw [List.mapM_cons] at h
      cases ha' : f a' with
      | error e =>
          rw [ha'] at h
          cases h
      | ok b =>
          cases hl : l.mapM f with
          | error e =>
              rw [ha', hl] at h
              cases h
          | ok bs' =>
              rw [ha', hl] at h
              obtain rfl : b :: bs' = bs := Except.ok.inj h
              rcases List.mem_cons.1 ha with rfl | ha
              · exact ⟨b, by simp, ha'⟩
              · obtain ⟨c, hc, hfound⟩ := ih hl ha
                exact ⟨c, List.mem_cons_of_mem _ hc, hfound⟩

/-- What fails first makes the whole list fail. -/
theorem exists_first_of_mapM_eq_error {e : ε} (h : l.mapM f = .error e) :
    ∃ before a after, l = before ++ a :: after ∧ f a = .error e ∧
      ∀ b ∈ before, ∃ c, f b = .ok c := by
  induction l with
  | nil => cases h
  | cons a l ih =>
      rw [List.mapM_cons] at h
      cases ha : f a with
      | error e' =>
          rw [ha] at h
          obtain rfl : e' = e := Except.error.inj h
          exact ⟨[], a, l, rfl, ha, by simp⟩
      | ok b =>
          rw [ha] at h
          have hl : l.mapM f = .error e := by
            cases hl : l.mapM f with
            | error e' =>
                rw [hl] at h
                exact h
            | ok bs =>
                rw [hl] at h
                cases h
          obtain ⟨before, a', after, rfl, ha', hbefore⟩ := ih hl
          refine ⟨a :: before, a', after, rfl, ha', ?_⟩
          simpa using ⟨⟨b, ha⟩, hbefore⟩

end Results

/-! ## The order of entries -/

namespace Template

theorem pairwise_addLeaf {root : String} {state : Entries × List Warning}
    (hsorted : state.1.Pairwise fun a b => a.1 < b.1) (leaf : Leaf) :
    (addLeaf root state leaf).1.Pairwise fun a b => a.1 < b.1 := by
  cases leaf with
  | link location => exact hsorted
  | file location bytes => exact pairwise_insertEntry hsorted

theorem pairwise_foldl_addLeaf {root : String} (leaves : List Leaf) {state : Entries × List Warning}
    (hsorted : state.1.Pairwise fun a b => a.1 < b.1) :
    (leaves.foldl (addLeaf root) state).1.Pairwise fun a b => a.1 < b.1 := by
  induction leaves generalizing state with
  | nil => exact hsorted
  | cons leaf leaves ih => exact ih (pairwise_addLeaf hsorted leaf)

theorem pairwise_walkDirectory {files : FileTree} {root : String} {entries : Entries}
    {warnings : List Warning} (hwalk : walkDirectory files root = .ok (entries, warnings)) :
    entries.Pairwise fun a b => a.1 < b.1 := by
  have hfold (node : FileNode) (warnings' : List Warning)
      (h : (leaves node).foldl (addLeaf root) ([], warnings') = (entries, warnings)) :
      entries.Pairwise fun a b => a.1 < b.1 := by
    have hsorted : ((leaves node).foldl (addLeaf root) ([], warnings')).1.Pairwise
        fun a b => a.1 < b.1 := pairwise_foldl_addLeaf (leaves node) .nil
    rwa [h] at hsorted
  rw [walkDirectory] at hwalk
  split at hwalk
  · cases hwalk
  · split at hwalk
    · cases hwalk
    · exact hfold _ _ (Except.ok.inj hwalk)
    · obtain ⟨rfl, -⟩ := Prod.mk.inj (Except.ok.inj hwalk)
      exact .nil
  · exact hfold _ _ (Except.ok.inj hwalk)

/-- The entries of a template are in the order of their keys, each key once. -/
theorem pairwise_load {files : FileTree} {roots : List String} {name : String} {entries : Entries}
    (hload : (load files roots name).1 = .ok entries) : entries.Pairwise fun a b => a.1 < b.1 := by
  rw [load] at hload
  split at hload
  · cases hload
  · rw [loadSource.eq_def] at hload
    split at hload
    · obtain rfl := Except.ok.inj hload
      exact List.pairwise_singleton ..
    · split at hload
      · cases hload
      · split at hload
        · obtain rfl := Except.ok.inj hload
          exact List.pairwise_singleton ..
        · cases hload
    · split at hload
      · next hwalk =>
          obtain rfl := Except.ok.inj hload
          exact pairwise_walkDirectory hwalk
      · cases hload

end Template

namespace Environment

variable {σ : Type} {environment : Environment σ} {context : Fields} {known : Option AliasResolver}

/-! ## One entry -/

/-- What a text gives alone, under its key and from a state of the filters in which nothing else was rendered
before. -/
def alone (environment : Environment σ) (context : Fields) (s : FilterState σ) (key text : String) :
    Except TemplateError String :=
  ((environment.renderText key text context).run s).1

/-- A text is cut into its body and its header first, and the key tells no more than whether to look for a
header. -/
theorem exists_alone_eq (environment : Environment σ) (context : Fields) (s : FilterState σ) (isMarkdown : Bool)
    (text : String) : ∃ body context' s', ∀ key, isMarkdownKey key = isMarkdown →
      environment.alone context s key text = ((environment.renderBody key body context').run s').1 := by
  rcases hsplit : FrontMatter.split isMarkdown text with ⟨body, header, warning⟩
  refine ⟨body, withHeaders header context, ((warn warning.toList).run s).2, fun key hkey => ?_⟩
  rw [alone, renderText, hkey, hsplit]
  rfl

/-- A body is rendered alike wherever calls of filters are answered alike. -/
theorem mirrors_renderBody {related : FilterState σ → FilterState σ → Prop}
    (hlibrary : ∀ filter subject arguments, Mirrors related (environment.library.callNamed filter subject arguments)
      (environment.library.callNamed filter subject arguments)) (key body : String) (context : Fields) :
    Mirrors related (environment.renderBody key body context) (environment.renderBody key body context) := by
  cases hread : Document.read? body with
  | none =>
      rw [renderBody, hread]
      exact mirrors_pure _ _
  | some document =>
      let page := environment.page key document context
      have hcompositional : Rendering.IsCompositional page.library
          fun _ step => step.MirrorsItself related := Rendering.isCompositional_mirrorsItself hlibrary
      have hrender : page.render.MirrorsItself related := hcompositional.render
      intro t s hrelated
      obtain ⟨hanswer, hfilters, -⟩ := hrender (.start t) (.start s) ⟨hrelated, rfl⟩
      constructor
      · rw [renderBody_run hread, renderBody_run hread, Rendering.outcome, Rendering.outcome, hanswer]
      · simp only [renderBody, hread]
        exact hfilters

theorem mirrors_warn (warnings : List Warning) :
    Mirrors (Both (environment.library.Knows known)) (warn warnings : FilterLibrary.Session σ Unit) (warn warnings) :=
  fun _ _ hknown => ⟨rfl, hknown⟩

/-- A text gives the same wherever the library has the same aliases, or will have them. -/
theorem renderText_run (hsteady : environment.library.repository.IsSteady) {s s' : FilterState σ}
    (hs : environment.library.Knows known s) (hs' : environment.library.Knows known s')
    (key text : String)
    (context : Fields) :
    ((environment.renderText key text context).run s').1 = environment.alone context s key text ∧
      environment.library.Knows known ((environment.renderText key text context).run s').2 := by
  have hmirrors : Mirrors (Both (environment.library.Knows known)) (environment.renderText key text context)
      (environment.renderText key text context) :=
    (mirrors_warn _).bind fun _ =>
      mirrors_renderBody (FilterLibrary.mirrors_callNamed_of_isSteady hsteady) _ _ _
  obtain ⟨hanswer, hkept, -⟩ := hmirrors s' s ⟨hs', hs⟩
  exact ⟨hanswer, hkept⟩

/-! ## All entries -/

/-- What an entry gives alone: a file that is passed through has no document. -/
def entryAlone (environment : Environment σ) (context : Fields) (s : FilterState σ) :
    String × Entry → Except TemplateError (String × Option String)
  | (key, .text text) => (environment.alone context s key text).map fun document => (key, some document)
  | (key, .passthrough) => .ok (key, none)

theorem renderEntry_run (hsteady : environment.library.repository.IsSteady) {s s' : FilterState σ}
    (hs : environment.library.Knows known s) (hs' : environment.library.Knows known s')
    (key : String) (entry : Entry) (context : Fields) :
    (((environment.renderEntry key context entry).run s').1.map fun document => (key, document)) =
        environment.entryAlone context s (key, entry) ∧
      environment.library.Knows known ((environment.renderEntry key context entry).run s').2 := by
  cases entry with
  | passthrough => exact ⟨rfl, hs'⟩
  | text text =>
      obtain ⟨hanswer, hkept⟩ := renderText_run hsteady hs hs' key text context
      rw [entryAlone, renderEntry, run_bind, hanswer]
      generalize ((environment.renderText key text context).run s').2 = after at hkept ⊢
      cases environment.alone context s key text with
      | ok document => exact ⟨rfl, hkept⟩
      | error e => exact ⟨rfl, hkept⟩

/-- Rendering some entries gives what each of them gives alone, up to the first failure. -/
theorem renderEntries_run (hsteady : environment.library.repository.IsSteady) {s s' : FilterState σ}
    (hs : environment.library.Knows known s) (hs' : environment.library.Knows known s')
    (entries : Entries) :
    ((environment.renderEntries context entries).run s').1 =
      entries.mapM (environment.entryAlone context s) := by
  induction entries generalizing s' with
  | nil => rfl
  | cons entry entries ih =>
      obtain ⟨key, entry⟩ := entry
      obtain ⟨hanswer, hkept⟩ := renderEntry_run hsteady hs hs' key entry context
      rw [renderEntries, run_bind, List.mapM_cons, ← hanswer, ← ih hkept]
      cases ((environment.renderEntry key context entry).run s').1 with
      | error e => rfl
      | ok document =>
          simp only [run_bind]
          cases ((environment.renderEntries context entries).run
            ((environment.renderEntry key context entry).run s').2).1 with
          | error e => rfl
          | ok documents => rfl

/-- Once the entries are loaded, rendering a template is rendering them. -/
theorem renderTemplates_eq {files : FileTree} {name : String} {entries : Entries}
    (hload : (Template.load files environment.roots name).1 = .ok entries) (context : Fields)
    (s : FilterState σ) :
    ∃ warnings, ((environment.renderTemplates files name context).run s).1 =
      ((environment.renderEntries context entries).run ((warn warnings).run s).2).1 := by
  rw [renderTemplates, run_bind, hload]
  exact ⟨_, rfl⟩

/-- The documents of a template have the keys of its entries. -/
theorem keys_renderTemplates {files : FileTree} {name : String} {entries : Entries} {documents : Documents}
    {s : FilterState σ} (hload : (Template.load files environment.roots name).1 = .ok entries)
    (hrender : ((environment.renderTemplates files name context).run s).1 = .ok documents) :
    documents.map Prod.fst = entries.map Prod.fst := by
  obtain ⟨warnings, heq⟩ := renderTemplates_eq hload context s
  exact environment.keys_renderEntries context entries _ (heq.symm.trans hrender)

theorem pairwise_renderTemplates {files : FileTree} {name : String} {entries : Entries} {documents : Documents}
    {s : FilterState σ} (hload : (Template.load files environment.roots name).1 = .ok entries)
    (hrender : ((environment.renderTemplates files name context).run s).1 = .ok documents) :
    documents.Pairwise fun a b => a.1 < b.1 := by
  have hkeys : (documents.map Prod.fst).Pairwise (· < ·) := by
    rw [keys_renderTemplates hload hrender]
    exact List.pairwise_map.2 (pairwise_load hload)
  exact List.pairwise_map.1 hkeys

theorem renderTemplates_run {files : FileTree} {name : String} {entries : Entries}
    (hsteady : environment.library.repository.IsSteady)
    (hload : (Template.load files environment.roots name).1 = .ok entries) (context : Fields)
    (s : FilterState σ) :
    ((environment.renderTemplates files name context).run s).1 =
      entries.mapM (environment.entryAlone context s) := by
  obtain ⟨known, hs⟩ := FilterLibrary.exists_knows hsteady s
  obtain ⟨warnings, hrun⟩ := renderTemplates_eq hload context s
  have hwarned : environment.library.Knows known ((warn warnings).run s).2 := hs
  rw [hrun, renderEntries_run hsteady hs hwarned]

theorem template?_error (key : String) (failure : Failure) :
    (failure.error key).template? = some key := by
  rw [Failure.error]
  split <;> rfl

/-- Whatever a text cannot be rendered for is told under its full key. -/
theorem template?_of_alone {s : FilterState σ} {key text : String} {error : TemplateError}
    (halone : environment.alone context s key text = .error error) : error.template? = some key := by
  obtain ⟨body, context', s', hbody⟩ :=
    environment.exists_alone_eq context s (isMarkdownKey key) text
  rw [hbody key rfl] at halone
  cases hread : Document.read? body with
  | none =>
      rw [renderBody, hread] at halone
      obtain rfl := Except.error.inj halone
      rfl
  | some document =>
      rw [renderBody_run hread] at halone
      split at halone
      · cases halone
      · obtain rfl := Except.error.inj halone
        exact template?_error key _

theorem entryAlone_eq_error_iff {s : FilterState σ} {entry : String × Entry} {error : TemplateError} :
    environment.entryAlone context s entry = .error error ↔
      ∃ text, entry.2 = .text text ∧ environment.alone context s entry.1 text = .error error := by
  obtain ⟨key, entry⟩ := entry
  cases entry with
  | passthrough => simp [entryAlone]
  | text text =>
      rw [entryAlone]
      cases halone : environment.alone context s key text <;> simp [Except.map, halone]

theorem entryAlone_text_eq_ok_iff {s : FilterState σ} {key text : String}
    {document : String × Option String} :
    environment.entryAlone context s (key, .text text) = .ok document ↔
      ∃ written, environment.alone context s key text = .ok written ∧ document = (key, some written) := by
  rw [entryAlone]
  cases halone : environment.alone context s key text <;> simp [Except.map, eq_comm]

/-- Of the entries that fail alone, the one with the least key makes all of them fail. -/
theorem exists_least_failure {entries : Entries} {s : FilterState σ} {error : TemplateError}
    (hsorted : entries.Pairwise fun a b => a.1 < b.1)
    (herror : entries.mapM (environment.entryAlone context s) = .error error) :
    ∃ key text, (key, .text text) ∈ entries ∧ environment.alone context s key text = .error error ∧
      ∀ other text', (other, .text text') ∈ entries → other < key →
        ∃ document, environment.alone context s other text' = .ok document := by
  obtain ⟨before, ⟨key, entry⟩, after, rfl, hfails, hbefore⟩ := exists_first_of_mapM_eq_error herror
  obtain ⟨text, rfl, halone⟩ := entryAlone_eq_error_iff.1 hfails
  refine ⟨key, text, by simp, halone, fun other text' hother hlt => ?_⟩
  have hother' : (other, .text text') ∈ before := by
    rcases List.mem_append.1 hother with hother | hother
    · exact hother
    · rcases List.mem_cons.1 hother with heq | hother
      · obtain ⟨rfl, -⟩ := Prod.mk.inj heq
        exact absurd hlt (lt_irrefl _)
      · have hgt := (List.pairwise_cons.1 (List.pairwise_append.1 hsorted).2.1).1 _ hother
        exact absurd hgt hlt.asymm
  obtain ⟨document, hdocument⟩ := hbefore _ hother'
  obtain ⟨written, hwritten, -⟩ := entryAlone_text_eq_ok_iff.1 hdocument
  exact ⟨written, hwritten⟩

/-- **Entries do not influence each other.** Over a steady repository a template has documents if and only if
each of its texts has one alone. The documents are then these, under the keys of the entries, with none for
the files passed through. Otherwise the error is the one that the text with the least key among those that
fail alone fails with, and it names that key. -/
theorem renderTemplates_alone {files : FileTree} {name : String} {entries : Entries} {s : FilterState σ}
    {rendered : Except TemplateError Documents} (hsteady : environment.library.repository.IsSteady)
    (hload : (Template.load files environment.roots name).1 = .ok entries)
    (hrender : ((environment.renderTemplates files name context).run s).1 = rendered) :
    ((∃ documents, rendered = .ok documents) ↔ ∀ key text, (key, .text text) ∈ entries →
        ∃ document, environment.alone context s key text = .ok document) ∧
      (∀ documents, rendered = .ok documents →
        documents.map Prod.fst = entries.map Prod.fst ∧ (documents.map Prod.fst).Pairwise (· < ·) ∧
          (∀ key text, (key, .text text) ∈ entries → ∃ document,
            environment.alone context s key text = .ok document ∧ (key, some document) ∈ documents) ∧
          ∀ key, (key, .passthrough) ∈ entries → (key, none) ∈ documents) ∧
      ∀ error, rendered = .error error → ∃ key text, (key, .text text) ∈ entries ∧
        environment.alone context s key text = .error error ∧ error.template? = some key ∧
        ∀ other text', (other, .text text') ∈ entries → other < key →
          ∃ document, environment.alone context s other text' = .ok document := by
  have hsorted := pairwise_load hload
  have hrun := renderTemplates_run hsteady hload context s
  rw [hrender] at hrun
  refine ⟨⟨?_, fun hall => ?_⟩, fun documents hdocuments =>
    ⟨keys_renderTemplates hload (hrender.trans hdocuments), ?_, ?_, ?_⟩, fun error herror => ?_⟩
  · rintro ⟨documents, hdocuments⟩ key text hentry
    obtain ⟨document, -, halone⟩ := exists_of_mapM_eq_ok (hrun.symm.trans hdocuments) hentry
    obtain ⟨written, hwritten, -⟩ := entryAlone_text_eq_ok_iff.1 halone
    exact ⟨written, hwritten⟩
  · cases hresult : rendered with
    | ok documents => exact ⟨documents, rfl⟩
    | error error =>
        obtain ⟨key, text, hentry, halone, -⟩ := exists_least_failure hsorted (hrun.symm.trans hresult)
        obtain ⟨document, hdocument⟩ := hall key text hentry
        rw [halone] at hdocument
        cases hdocument
  · exact List.pairwise_map.2 (pairwise_renderTemplates hload (hrender.trans hdocuments))
  · intro key text hentry
    obtain ⟨document, hdocument, halone⟩ := exists_of_mapM_eq_ok (hrun.symm.trans hdocuments) hentry
    obtain ⟨written, hwritten, rfl⟩ := entryAlone_text_eq_ok_iff.1 halone
    exact ⟨written, hwritten, hdocument⟩
  · intro key hentry
    obtain ⟨document, hdocument, halone⟩ := exists_of_mapM_eq_ok (hrun.symm.trans hdocuments) hentry
    obtain rfl : (key, none) = document := Except.ok.inj halone
    exact hdocument
  · obtain ⟨key, text, hentry, halone, hothers⟩ :=
      exists_least_failure hsorted (hrun.symm.trans herror)
    exact ⟨key, text, hentry, halone, template?_of_alone halone, hothers⟩

/-- A template of three texts and a file that is passed through. The first text is fine, the second is no
template, and the third uses a name that is not known. -/
def mixed : FileTree :=
  ⟨.directory [("templates", .directory [("notes", .directory [
    ("a.template.md", .file "\x7b\x7b 1 + 1 \x7d\x7d".toUTF8), ("b.template.md", .file "\x7b\x7b".toUTF8),
    ("c.template.md", .file "\x7b\x7b missing \x7d\x7d".toUTF8), ("logo.png", .file .empty)])])], "/"⟩

/-- The entries of the template. -/
def mixedEntries : Entries :=
  [("a.md", .text "\x7b\x7b 1 + 1 \x7d\x7d"), ("b.md", .text "\x7b\x7b"),
    ("c.md", .text "\x7b\x7b missing \x7d\x7d"), ("logo.png", .passthrough)]

theorem load_mixed : (Template.load mixed plain.roots "notes").1 = .ok mixedEntries := by
  have hresolve : resolve mixed plain.roots "notes" = .ok (.directory "/templates/notes") := rfl
  have hlink : ∃ entries, mixed.findLink "/templates/notes" = .ok (.directory entries) ∧
      leaves (.directory entries) = [.file ["a.template.md"] "\x7b\x7b 1 + 1 \x7d\x7d".toUTF8,
        .file ["b.template.md"] "\x7b\x7b".toUTF8,
        .file ["c.template.md"] "\x7b\x7b missing \x7d\x7d".toUTF8, .file ["logo.png"] .empty] := by
    refine ⟨_, rfl, ?_⟩
    rw [leaves, inOrder, List.mergeSort_of_pairwise (by decide)]
    simp [groups, leaves, Leaf.below]
  obtain ⟨entries, hlink, hleaves⟩ := hlink
  simp only [load, hresolve, loadSource, walkDirectory, hlink, hleaves]
  rfl

theorem renderTemplates_alone_mixed :
    plain.library.repository.IsSteady ∧
      (Template.load mixed plain.roots "notes").1 = .ok mixedEntries ∧
      ∃ error, ((plain.renderTemplates mixed "notes" []).run { repository := 0 }).1 = .error error ∧
        plain.alone [] { repository := 0 } "b.md" "\x7b\x7b" = .error error ∧
        error.template? = some "b.md" := by
  have hsteady : plain.library.repository.IsSteady := Git.Store.isSteady_repository {}
  have hfirst : (plain.alone [] { repository := 0 } "a.md" "\x7b\x7b 1 + 1 \x7d\x7d").toOption = some "2" := by
    decide +kernel
  have hsecond : plain.alone [] { repository := 0 } "b.md" "\x7b\x7b" =
      .error (.malformed "b.md" "Failed to parse 'b.md'") := by
    decide +kernel
  have hmem : ("b.md", Entry.text "\x7b\x7b") ∈ mixedEntries := by simp [mixedEntries]
  obtain ⟨hsucceeds, -, hfails⟩ := renderTemplates_alone hsteady load_mixed
    (rfl : ((plain.renderTemplates mixed "notes" []).run { repository := 0 }).1 = _)
  refine ⟨hsteady, load_mixed, ?_⟩
  cases hrendered : ((plain.renderTemplates mixed "notes" []).run { repository := 0 }).1 with
  | ok documents =>
      obtain ⟨document, hdocument⟩ := hsucceeds.1 ⟨documents, hrendered⟩ _ _ hmem
      rw [hsecond] at hdocument
      cases hdocument
  | error error =>
      obtain ⟨key, text, hentry, halone, htemplate, hothers⟩ := hfails error hrendered
      refine ⟨error, rfl, ?_⟩
      simp only [mixedEntries, List.mem_cons, Prod.mk.injEq, Entry.text.injEq, reduceCtorEq, and_false,
        List.not_mem_nil, or_false] at hentry
      rcases hentry with ⟨rfl, rfl⟩ | ⟨rfl, rfl⟩ | ⟨rfl, rfl⟩
      · rw [halone] at hfirst
        cases hfirst
      · exact ⟨halone, htemplate⟩
      · obtain ⟨document, hdocument⟩ := hothers _ _ hmem (by decide)
        rw [hsecond] at hdocument
        cases hdocument

end Environment

end ReleasePress
