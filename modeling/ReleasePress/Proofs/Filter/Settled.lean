import ReleasePress.Proofs.Filter.Mirrored
import ReleasePress.Proofs.Git.Steady

/-! # Filters of a steady repository

The filter library changes nothing that a later call can tell: it counts warnings, and it keeps the aliases
once it knows them. Over a steady repository these are always the same, so each call has one answer
(`mirrors_callNamed_of_isSteady`). -/

namespace ReleasePress.FilterLibrary

open ReleasePress.Git

variable {σ : Type} {library : FilterLibrary σ} {known : Option AliasResolver}

/-- The aliases that the library keeps for an answer of the repository. -/
def kept : Except RepositoryError (Option AliasResolver) → Option AliasResolver
  | .ok resolver => resolver
  | .error _ => none

/-- The library has these aliases, or will have them once it asks. -/
def Knows (library : FilterLibrary σ) (known : Option AliasResolver) (s : FilterState σ) : Prop :=
  s.aliases = some known ∨
    s.aliases = none ∧ ∀ repository, kept (library.repository.aliases.run repository).1 = known

theorem exists_knows (hsteady : library.repository.IsSteady) (s : FilterState σ) :
    ∃ known, library.Knows known s := by
  cases haliases : s.aliases with
  | some known => exact ⟨known, .inl haliases⟩
  | none =>
      obtain ⟨answer, hanswer⟩ := hsteady.aliases
      exact ⟨kept answer, .inr ⟨haliases, fun repository => by rw [(hanswer repository trivial).1]⟩⟩

/-! ## Questions -/

/-- A question to the repository leaves the aliases alone. -/
theorem settled_ask {α : Type} {question : StateM σ α} (hquestion : Settled (fun _ => True) question) :
    Settled (library.Knows known) (ask question) := by
  obtain ⟨answer, hanswer⟩ := hquestion
  exact ⟨answer, fun s hs => ⟨(hanswer s.repository trivial).1, hs⟩⟩

theorem resolver_run_of_some {s : FilterState σ} (haliases : s.aliases = some known) :
    library.resolver.run s = (known, s) := by
  obtain ⟨repository, aliases, warnings⟩ := s
  subst haliases
  rfl

/-- What the repository tells is kept, also if it is a failure, of which there is a warning then. -/
theorem resolver_run_of_none (library : FilterLibrary σ) (repository : σ) (warnings : List Warning) :
    library.resolver.run ⟨repository, none, warnings⟩ =
      let told := library.repository.aliases.run repository
      (kept told.1, ⟨told.2, some (kept told.1),
        match told.1 with
        | .ok _ => warnings
        | .error cause => .aliasesUnavailable cause :: warnings⟩) := by
  have hrun : library.resolver.run ⟨repository, none, warnings⟩ =
      ((ask library.repository.aliases >>= fun
        | .ok resolver => do
          modify fun s => { s with aliases := some resolver }
          pure resolver
        | .error cause => do
          modify fun s =>
            { s with aliases := some none, warnings := .aliasesUnavailable cause :: s.warnings }
          pure none) : Session σ (Option AliasResolver)).run ⟨repository, none, warnings⟩ := rfl
  have hask : (ask library.repository.aliases).run ⟨repository, none, warnings⟩ =
      ((library.repository.aliases.run repository).1,
        ⟨(library.repository.aliases.run repository).2, none, warnings⟩) := rfl
  rw [hrun, run_bind, hask]
  dsimp only
  cases (library.repository.aliases.run repository).1 with
  | ok resolver => rfl
  | error cause => rfl

theorem settled_resolver : Settled (library.Knows known) library.resolver := by
  refine ⟨known, fun s hs => ?_⟩
  rcases hs with hknown | ⟨hnone, hlater⟩
  · rw [resolver_run_of_some hknown]
    exact ⟨rfl, .inl hknown⟩
  · obtain ⟨repository, aliases, warnings⟩ := s
    subst hnone
    rw [resolver_run_of_none]
    exact ⟨hlater repository, .inl (congrArg some (hlater repository))⟩

/-! ## Filters -/

theorem mirrored_of_isSteady (hsteady : library.repository.IsSteady) :
    library.repository.Mirrored (Both (library.Knows known)) library.repository where
  object _ := (settled_ask (hsteady.object _)).mirrors
  revision _ := (settled_ask (hsteady.revision _)).mirrors
  history _ := (settled_ask (hsteady.history _)).mirrors
  note _ _ := (settled_ask (hsteady.note _ _)).mirrors

/-- A call has the same answer in all states with the same aliases. -/
theorem mirrors_callNamed_of_isSteady (hsteady : library.repository.IsSteady) (filter : Filter) (subject : Json)
    (named : Fields) :
    Mirrors (Both (library.Knows known)) (library.callNamed filter subject named)
      (library.callNamed filter subject named) :=
  mirrors_callNamed (mirrored_of_isSteady hsteady) settled_resolver.mirrors filter subject named

end ReleasePress.FilterLibrary
