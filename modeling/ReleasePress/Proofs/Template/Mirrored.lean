import ReleasePress.Proofs.State
import ReleasePress.Proofs.Template.Render

/-! # Steps of rendering from related states

A step reads nothing of what is so far but the scopes and what filters tell. If calls of filters from related states
give the same answer and get to related states, then so do steps, as long as the scopes are the same
(`Rendering.MirrorsItself`). This is a compositional property, so rendering a document has it over each library whose
calls mirror themselves. -/

namespace ReleasePress.Template

variable {σ α β : Type} {related : FilterState σ → FilterState σ → Prop}

/-- What is so far with related states of the filters and the same scopes. -/
def Progress.Alike (related : FilterState σ → FilterState σ → Prop) (t s : Progress σ) : Prop :=
  related t.filters s.filters ∧ t.scopes = s.scopes

namespace Rendering

/-- From what is alike so far a step gives the same result and gets to what is alike. -/
def MirrorsItself (related : FilterState σ → FilterState σ → Prop) (step : Rendering σ α) : Prop :=
  Mirrors (Progress.Alike related) step.run step.run

/-! ## Steps -/

theorem mirrorsItself_pure (a : α) : MirrorsItself related (pure a : Rendering σ α) :=
  mirrors_pure _ _

theorem mirrorsItself_fail (reason : String) : MirrorsItself related (fail reason : Rendering σ α) :=
  mirrors_pure _ _

theorem mirrorsItself_bind {step : Rendering σ α} {next : α → Rendering σ β} (hstep : MirrorsItself related step)
    (hnext : ∀ a, MirrorsItself related (next a)) : MirrorsItself related (step >>= next) := by
  rw [MirrorsItself, ExceptT.run_bind]
  refine hstep.bind fun result => ?_
  cases result with
  | ok a => exact hnext a
  | error failure => exact mirrors_pure _ _

theorem mirrorsItself_scopes {next : List Scope → Rendering σ α}
    (hnext : ∀ scopes, MirrorsItself related (next scopes)) : MirrorsItself related (do next (← get).scopes) := by
  intro t s halike
  have hsame : (do next (← get).scopes : Rendering σ α).run.run t = (next s.scopes).run.run t := by
    rw [← halike.2]
    rfl
  rw [hsame]
  exact hnext s.scopes t s halike

theorem mirrorsItself_rescope (change : List Scope → List Scope) :
    MirrorsItself related (modify fun s => { s with scopes := change s.scopes } : Rendering σ PUnit) :=
  fun _ _ halike => ⟨rfl, halike.1, congrArg change halike.2⟩

theorem mirrorsItself_rethrow {step : Rendering σ α} (change : Failure → Failure)
    (hstep : MirrorsItself related step) :
    MirrorsItself related (tryCatch step fun failure => throw (change failure)) := by
  rw [MirrorsItself, ExceptT.run_tryCatch]
  refine hstep.bind fun result => ?_
  cases result with
  | ok a => exact mirrors_pure _ _
  | error failure => exact mirrors_pure _ _

/-- Hiding refused calls changes nothing that a step could read. -/
theorem mirrorsItself_quietly {step : Rendering σ α} (hstep : MirrorsItself related step) :
    MirrorsItself related (quietly step) :=
  fun t s halike => hstep { t with hidden := true } { s with hidden := true } halike

theorem mirrorsItself_orElse (a : α) {step : Rendering σ α} (hstep : MirrorsItself related step) :
    MirrorsItself related (orElse a step) := by
  intro t s halike
  have hquietly : ((quietly step).outcome t).1 = ((quietly step).outcome s).1 ∧
      Progress.Alike related ((quietly step).outcome t).2 ((quietly step).outcome s).2 :=
    mirrorsItself_quietly hstep t s halike
  show ((orElse a step).outcome t).1 = ((orElse a step).outcome s).1 ∧
    Progress.Alike related ((orElse a step).outcome t).2 ((orElse a step).outcome s).2
  rw [outcome_orElse, outcome_orElse]
  generalize (quietly step).outcome t = first at hquietly ⊢
  generalize (quietly step).outcome s = second at hquietly ⊢
  obtain ⟨found, after⟩ := first
  obtain ⟨found', after'⟩ := second
  obtain ⟨rfl, hfilters, hscopes⟩ : found = found' ∧ Progress.Alike related after after' := hquietly
  cases found with
  | ok b => exact ⟨rfl, hfilters, hscopes⟩
  | error failure => exact ⟨rfl, hfilters, halike.2⟩

theorem mirrorsItself_summarized {step : Rendering σ α} (hstep : MirrorsItself related step) :
    MirrorsItself related (summarized step) :=
  mirrorsItself_rethrow Failure.summary (mirrorsItself_quietly hstep)

theorem mirrorsItself_ofSession {session : FilterLibrary.Session σ α} (hsession : Mirrors related session session) :
    MirrorsItself related (ofSession session) := by
  rintro t s ⟨hfilters, hscopes⟩
  obtain ⟨hanswer, hafter⟩ := hsession t.filters s.filters hfilters
  exact ⟨congrArg Except.ok hanswer, hafter, hscopes⟩

theorem mirrorsItself_refuse (name : String) (error : FilterError) :
    MirrorsItself related (refuse name error : Rendering σ α) :=
  fun _ _ halike => ⟨rfl, halike⟩

/-! ## Documents -/

theorem isCompositional_mirrorsItself {library : FilterLibrary σ}
    (hlibrary : ∀ filter subject arguments, Mirrors related (library.callNamed filter subject arguments)
      (library.callNamed filter subject arguments)) :
    IsCompositional library fun _ step => MirrorsItself related step where
  pure := mirrorsItself_pure
  fail := mirrorsItself_fail
  bind := mirrorsItself_bind
  scopes := mirrorsItself_scopes
  rescope := mirrorsItself_rescope
  rethrow hstep _ := mirrorsItself_rethrow _ hstep
  orElse := mirrorsItself_orElse
  summarized := mirrorsItself_summarized
  ask filter subject arguments := mirrorsItself_ofSession (hlibrary filter subject arguments)
  refuse := mirrorsItself_refuse

end Rendering

end ReleasePress.Template
