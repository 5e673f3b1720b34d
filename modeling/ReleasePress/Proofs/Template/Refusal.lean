import ReleasePress.Proofs.Template.Render

/-! # Refused calls of filters

Each refused call of a filter is recorded where it happens. A step reports its refused calls if the failure
it ends with names the recorded call exactly when the call did not stand where refusals are hidden. Rendering
a document reports its refused calls, since this is a compositional property; hidden calls come only from
`quietly`, that is from `orElse` and `summarized`. -/

namespace ReleasePress.Template

/-- The refused calls that do not stand where refusals are hidden. -/
def visible (refusals : List Refusal) : List FilterError :=
  refusals.filterMap fun refusal => if refusal.hidden then none else some refusal.error

/-- The refused call that a result names. -/
def told {α : Type} : Except Failure α → List FilterError
  | .ok _ => []
  | .error failure => failure.refusal.toList

namespace Rendering

variable {σ α β : Type}

/-- The visible refused calls of a step are the one that its result names, and none where refusals are
hidden to begin with. -/
def Reports (step : Rendering σ α) : Prop :=
  ∀ s : Progress σ, (step.outcome s).2.hidden = s.hidden ∧
    visible (step.outcome s).2.refusals =
      (if s.hidden then [] else told (step.outcome s).1) ++ visible s.refusals

/-! ## Steps -/

theorem reports_pure (a : α) : Reports (pure a : Rendering σ α) := by
  intro s
  simp [outcome_pure, told]

theorem reports_fail (reason : String) : Reports (fail reason : Rendering σ α) := by
  intro s
  simp [fail, outcome_throw, told, Failure.ofReason]

theorem reports_bind {step : Rendering σ α} {next : α → Rendering σ β} (hstep : Reports step)
    (hnext : ∀ a, Reports (next a)) : Reports (step >>= next) := by
  intro s
  obtain ⟨hhidden, hvisible⟩ := hstep s
  rw [outcome_bind]
  rcases houtcome : step.outcome s with ⟨result, after⟩
  rw [houtcome] at hhidden hvisible
  cases result with
  | error failure => exact ⟨hhidden, hvisible⟩
  | ok a =>
      obtain ⟨hhidden', hvisible'⟩ := hnext a after
      have hsame : visible after.refusals = visible s.refusals := by simpa [told] using hvisible
      have hbefore : after.hidden = s.hidden := hhidden
      refine ⟨hhidden'.trans hbefore, ?_⟩
      rw [hvisible', hsame, hbefore]

theorem reports_get : Reports (get : Rendering σ (Progress σ)) := by
  intro s
  have houtcome : (get : Rendering σ (Progress σ)).outcome s = (.ok s, s) := rfl
  simp [houtcome, told]

theorem reports_rescope (change : List Scope → List Scope) :
    Reports (modify fun s => { s with scopes := change s.scopes } : Rendering σ PUnit) := by
  intro s
  have houtcome : (modify fun s => { s with scopes := change s.scopes } : Rendering σ PUnit).outcome s =
      (.ok ⟨⟩, { s with scopes := change s.scopes }) := rfl
  simp [houtcome, told]

/-- A failure that is only told otherwise still names the same refused call. -/
theorem reports_rethrow {step : Rendering σ α} {change : Failure → Failure} (hstep : Reports step)
    (hchange : ∀ failure, (change failure).refusal = failure.refusal) :
    Reports (tryCatch step fun failure => throw (change failure)) := by
  intro s
  obtain ⟨hhidden, hvisible⟩ := hstep s
  rw [outcome_tryCatch]
  rcases houtcome : step.outcome s with ⟨result, after⟩
  rw [houtcome] at hhidden hvisible
  cases result with
  | ok a => exact ⟨hhidden, hvisible⟩
  | error failure =>
      simp only [outcome_throw, told, hchange]
      exact ⟨hhidden, hvisible⟩

theorem reports_ofSession (session : FilterLibrary.Session σ α) : Reports (ofSession session) := by
  intro s
  simp [outcome_ofSession, told]

/-- The one step that makes a refused call known. -/
theorem reports_refuse (name : String) (error : FilterError) :
    Reports (refuse name error : Rendering σ α) := by
  intro s
  rw [outcome_refuse]
  cases hhidden : s.hidden <;> simp [told, visible]

/-! ## Where refusals are hidden -/

/-- A step that leaves the visible refused calls as they are, whatever it gives. -/
def IsQuiet (step : Rendering σ α) : Prop :=
  ∀ s : Progress σ, (step.outcome s).2.hidden = s.hidden ∧
    visible (step.outcome s).2.refusals = visible s.refusals

theorem isQuiet_quietly {step : Rendering σ α} (hstep : Reports step) : IsQuiet (quietly step) := by
  intro s
  obtain ⟨-, hvisible⟩ := hstep { s with hidden := true }
  rw [outcome_quietly]
  exact ⟨rfl, by simpa using hvisible⟩

theorem reports_orElse (a : α) {step : Rendering σ α} (hstep : Reports step) :
    Reports (orElse a step) := by
  intro s
  obtain ⟨hhidden, hvisible⟩ := isQuiet_quietly hstep s
  rw [outcome_orElse]
  rcases houtcome : (quietly step).outcome s with ⟨result, after⟩
  rw [houtcome] at hhidden hvisible
  cases result with
  | ok a => exact ⟨hhidden, by simpa [told] using hvisible⟩
  | error failure => exact ⟨hhidden, by simpa [told] using hvisible⟩

theorem reports_summarized {step : Rendering σ α} (hstep : Reports step) :
    Reports (summarized step) := by
  intro s
  obtain ⟨hhidden, hvisible⟩ := isQuiet_quietly hstep s
  rw [outcome_summarized]
  rcases houtcome : (quietly step).outcome s with ⟨result, after⟩
  rw [houtcome] at hhidden hvisible
  cases result with
  | ok a => exact ⟨hhidden, by simpa [told] using hvisible⟩
  | error failure => exact ⟨hhidden, by simpa [told, Failure.summary] using hvisible⟩

/-! ## Documents -/

theorem isCompositional_reports (library : FilterLibrary σ) :
    IsCompositional library fun _ step => Reports step where
  pure := reports_pure
  fail := reports_fail
  bind := reports_bind
  scopes hnext := reports_bind reports_get fun s => hnext s.scopes
  rescope := reports_rescope
  rethrow := reports_rethrow
  orElse := reports_orElse
  summarized := reports_summarized
  ask _ _ _ := reports_ofSession _
  refuse := reports_refuse

end Rendering

namespace Page

open ReleasePress.Template.Rendering

variable {σ : Type}

/-- Rendering a document reports its refused calls. -/
theorem reports_render (page : Page σ) : Reports page.render :=
  (isCompositional_reports page.library).render

end Page

end ReleasePress.Template
