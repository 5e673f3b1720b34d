import ReleasePress.Filter.Library
import ReleasePress.Proofs.State

/-!
# Filters of two repositories

Filters know of the repository only what it answers.  If two repositories answer alike from related states, and leave
related states behind, then so do all filters over them: `FilterLibrary.mirrors_callNamed`.  The aliases are apart from
the other answers, since a library asks for them once and keeps what it is told.
-/

namespace ReleasePress

open ReleasePress.Git

variable {σ τ : Type}

/-- From related states two repositories answer alike, whatever filters ask them for but the aliases. -/
structure Git.Repository.Mirrored (related : FilterState τ → FilterState σ → Prop) (other : Repository τ)
    (repository : Repository σ) : Prop where
  object : ∀ oid, Mirrors related (FilterLibrary.ask (other.object oid)) (FilterLibrary.ask (repository.object oid))
  revision : ∀ name,
    Mirrors related (FilterLibrary.ask (other.revision name)) (FilterLibrary.ask (repository.revision name))
  history : ∀ oid,
    Mirrors related (FilterLibrary.ask (other.history oid)) (FilterLibrary.ask (repository.history oid))
  note : ∀ oid notesRef,
    Mirrors related (FilterLibrary.ask (other.note oid notesRef)) (FilterLibrary.ask (repository.note oid notesRef))

namespace FilterLibrary

/-- The library over another repository. -/
def withRepository (library : FilterLibrary σ) (repository : Repository τ) : FilterLibrary τ where
  toCircumstances := library.toCircumstances
  repository := repository
  notesRef := library.notesRef
  dates := library.dates

variable {related : FilterState τ → FilterState σ → Prop} {other : Repository τ} {library : FilterLibrary σ}
variable (h : other.Mirrored related library.repository)

section Questions

include h

theorem mirrors_objectOf (text : String) :
    Mirrors related ((library.withRepository other).objectOf text) (library.objectOf text) := by
  rw [objectOf, objectOf]
  split
  · exact h.object _
  · exact h.revision _

theorem mirrors_annotated (subject : Value) :
    Mirrors related ((library.withRepository other).annotated subject) (library.annotated subject) := by
  rw [annotated.eq_def, annotated.eq_def]
  split
  · exact mirrors_pure _ _
  · exact mirrors_pure _ _
  · split
    · exact mirrors_pure _ _
    · refine (h.revision _).bind fun found => ?_
      split <;> exact mirrors_pure _ _
  · exact mirrors_pure _ _

theorem mirrors_noteOf (subject : Value) :
    Mirrors related ((library.withRepository other).noteOf subject) (library.noteOf subject) := by
  rw [noteOf, noteOf, show (library.withRepository other).notesRef = library.notesRef from rfl]
  split
  · exact mirrors_pure _ _
  · refine (mirrors_annotated h subject).bind fun found => ?_
    split
    · exact mirrors_pure _ _
    · refine (h.note _ _).bind fun note => ?_
      split <;> exact mirrors_pure _ _

theorem mirrors_attributes (subject : Value) (args : List Value) :
    Mirrors related ((library.withRepository other).attributes subject args) (library.attributes subject args) := by
  rw [attributes.eq_def, attributes.eq_def]
  split
  · refine (mirrors_noteOf h subject).bind fun note => ?_
    split <;> exact mirrors_pure _ _
  · exact mirrors_pure _ _
  · refine (mirrors_noteOf h subject).bind fun note => ?_
    split <;> exact mirrors_pure _ _
  · exact mirrors_pure _ _

theorem mirrors_revParse (subject : Value) (args : List Value) :
    Mirrors related ((library.withRepository other).revParse subject args) (library.revParse subject args) := by
  rw [revParse.eq_def, revParse.eq_def]
  split
  · split
    · exact (mirrors_objectOf h _).bind fun _ => mirrors_pure _ _
    · exact (h.object _).bind fun _ => mirrors_pure _ _
    · exact mirrors_pure _ _
  · exact mirrors_pure _ _

theorem mirrors_objectType (subject : Value) (args : List Value) :
    Mirrors related ((library.withRepository other).objectType subject args) (library.objectType subject args) := by
  rw [objectType.eq_def, objectType.eq_def]
  split
  · dsimp only
    split
    · split
      · refine (h.object _).bind fun found => ?_
        split <;> exact mirrors_pure _ _
      · exact mirrors_pure _ _
    · refine (h.object _).bind fun found => ?_
      split <;> exact mirrors_pure _ _
    · exact mirrors_pure _ _
  · exact mirrors_pure _ _

theorem mirrors_ancestors (object : Object) :
    Mirrors related ((library.withRepository other).ancestors object) (library.ancestors object) := by
  rw [ancestors, ancestors]
  split
  · exact mirrors_pure _ _
  · refine (h.history _).bind fun commits => ?_
    split <;> exact mirrors_pure _ _

theorem mirrors_commits (subject : Value) (args : List Value) :
    Mirrors related ((library.withRepository other).commits subject args) (library.commits subject args) := by
  rw [commits.eq_def, commits.eq_def]
  split
  · split
    · refine (h.object _).bind fun found => ?_
      split
      · exact (mirrors_ancestors h _).bind fun _ => mirrors_pure _ _
      · exact mirrors_pure _ _
    · exact (mirrors_ancestors h _).bind fun _ => mirrors_pure _ _
    · exact mirrors_pure _ _
  · exact mirrors_pure _ _

end Questions

theorem mirrors_aliasOf (hresolver : Mirrors related (library.withRepository other).resolver library.resolver)
    (subject : Value) (args : List Value) :
    Mirrors related ((library.withRepository other).aliasOf subject args) (library.aliasOf subject args) := by
  rw [aliasOf, aliasOf]
  split
  · exact mirrors_pure _ _
  · split
    · exact mirrors_pure _ _
    · refine hresolver.bind fun resolver => ?_
      split <;> exact mirrors_pure _ _

include h in
/-- Of `alias` it is left open which aliases it answers from. -/
theorem mirrors_call {filter : Filter} {subject : Value} {args : List Value}
    (halias : filter = .aliasOf →
      Mirrors related ((library.withRepository other).aliasOf subject args) (library.aliasOf subject args)) :
    Mirrors related ((library.withRepository other).call filter subject args) (library.call filter subject args) := by
  have hanswer :
      Mirrors related ((library.withRepository other).answer filter subject args)
        (library.answer filter subject args) := by
    cases filter with
    | attrs => exact mirrors_attributes h subject args
    | revParse => exact mirrors_revParse h subject args
    | objectType => exact mirrors_objectType h subject args
    | commits => exact mirrors_commits h subject args
    | aliasOf => exact halias rfl
    | _ => exact mirrors_pure _ _
  refine hanswer.bind fun answer => ?_
  split <;> exact mirrors_pure _ _

theorem mirrors_callNamed_of_call {other : FilterLibrary τ} (htraversal : other.traversal = library.traversal)
    {filter : Filter} {subject : Json} {named : Fields}
    (hcall : ∀ args, positional library.traversal filter named = .ok args → Mirrors related
      (other.call filter (Value.ofJson subject) args) (library.call filter (Value.ofJson subject) args)) :
    Mirrors related (other.callNamed filter subject named) (library.callNamed filter subject named) := by
  rw [callNamed, callNamed, htraversal]
  split
  · exact mirrors_pure _ _
  · next args hargs =>
      refine (hcall args hargs).bind fun answer => ?_
      split <;> exact mirrors_pure _ _

include h in
/-- Filters answer alike over repositories that do, with aliases that are the same. -/
theorem mirrors_callNamed (hresolver : Mirrors related (library.withRepository other).resolver library.resolver)
    (filter : Filter) (subject : Json) (named : Fields) :
    Mirrors related ((library.withRepository other).callNamed filter subject named)
      (library.callNamed filter subject named) :=
  mirrors_callNamed_of_call (by rfl) fun _ _ => mirrors_call h fun _ => mirrors_aliasOf hresolver _ _

end FilterLibrary

end ReleasePress
