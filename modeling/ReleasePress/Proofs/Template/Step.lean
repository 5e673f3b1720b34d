import Mathlib.Tactic.Common
import ReleasePress.Template.Render

/-! # Properties of steps of rendering

A property of steps is compositional if the simplest steps have it and each way of putting steps together
keeps it. What a page does is put together from very few kinds of step, so a property has to be checked for
these alone (`IsCompositional`); the other ways in which steps are combined follow here. -/

namespace ReleasePress.Template.Rendering

variable {σ α β : Type}

/-- What a step gives, and what is so far after it. -/
def outcome (step : Rendering σ α) (s : Progress σ) : Except Failure α × Progress σ :=
  step.run.run s

/-! ## Outcomes -/

theorem outcome_pure (a : α) (s : Progress σ) :
    (pure a : Rendering σ α).outcome s = (.ok a, s) := rfl

theorem outcome_throw (failure : Failure) (s : Progress σ) :
    (throw failure : Rendering σ α).outcome s = (.error failure, s) := rfl

theorem outcome_bind (step : Rendering σ α) (next : α → Rendering σ β) (s : Progress σ) :
    (step >>= next).outcome s =
      match step.outcome s with
      | (.ok a, after) => (next a).outcome after
      | (.error failure, after) => (.error failure, after) := by
  simp only [outcome, ExceptT.run_bind, StateT.run_bind]
  rcases step.run.run s with ⟨result, after⟩
  cases result <;> rfl

theorem outcome_tryCatch (step : Rendering σ α) (handler : Failure → Rendering σ α) (s : Progress σ) :
    (tryCatch step handler : Rendering σ α).outcome s =
      match step.outcome s with
      | (.ok a, after) => (.ok a, after)
      | (.error failure, after) => (handler failure).outcome after := by
  simp only [outcome, ExceptT.run_tryCatch, StateT.run_bind]
  rcases step.run.run s with ⟨result, after⟩
  cases result <;> rfl

theorem outcome_quietly (step : Rendering σ α) (s : Progress σ) :
    (quietly step).outcome s =
      ((step.outcome { s with hidden := true }).1,
        { (step.outcome { s with hidden := true }).2 with hidden := s.hidden }) := rfl

theorem outcome_ofSession (session : FilterLibrary.Session σ α) (s : Progress σ) :
    (ofSession session).outcome s =
      (.ok (session.run s.filters).1, { s with filters := (session.run s.filters).2 }) := rfl

theorem outcome_refuse (name : String) (error : FilterError) (s : Progress σ) :
    (refuse name error : Rendering σ α).outcome s =
      (.error { trail := ["Filter '" ++ name ++ "' failed", error.message], refusal := some error },
        { s with refusals := ⟨error, s.hidden⟩ :: s.refusals }) := rfl

/-- The scopes that `orElse` restores are those of the state in which it begins. -/
theorem outcome_orElse (a : α) (step : Rendering σ α) (s : Progress σ) :
    (orElse a step).outcome s =
      match (quietly step).outcome s with
      | (.ok b, after) => (.ok b, after)
      | (.error _, after) => (.ok a, { after with scopes := s.scopes }) := by
  have hget : (get : Rendering σ (Progress σ)).outcome s = (.ok s, s) := rfl
  rw [orElse, outcome_bind, hget]
  simp only [outcome_tryCatch]
  rcases (quietly step).outcome s with ⟨result, after⟩
  cases result <;> rfl

theorem outcome_summarized (step : Rendering σ α) (s : Progress σ) :
    (summarized step).outcome s =
      match (quietly step).outcome s with
      | (.ok a, after) => (.ok a, after)
      | (.error failure, after) => (.error failure.summary, after) := by
  rw [summarized, outcome_tryCatch]
  rcases (quietly step).outcome s with ⟨result, after⟩
  cases result <;> rfl

/-! ## Compositional properties -/

/-- A property that the simplest steps have and that each way of putting steps together keeps, where only
the given library is asked. -/
structure IsCompositional (library : FilterLibrary σ) (p : ∀ ⦃α : Type⦄, Rendering σ α → Prop) :
    Prop where
  protected pure : ∀ {α : Type} (a : α), p (pure a)
  protected fail : ∀ {α : Type} (reason : String), p (fail reason : Rendering σ α)
  protected bind : ∀ {α β : Type} {step : Rendering σ α} {next : α → Rendering σ β},
    p step → (∀ a, p (next a)) → p (step >>= next)
  /-- Steps read nothing of what is so far but the scopes. -/
  scopes : ∀ {α : Type} {next : List Scope → Rendering σ α}, (∀ scopes, p (next scopes)) →
    p (do next (← get).scopes)
  /-- Steps change nothing of what is so far but the scopes. -/
  rescope : ∀ change : List Scope → List Scope,
    p (modify fun s => { s with scopes := change s.scopes } : Rendering σ PUnit)
  /-- A failure may be told otherwise if it still names the same refused call. -/
  rethrow : ∀ {α : Type} {step : Rendering σ α} {change : Failure → Failure}, p step →
    (∀ failure, (change failure).refusal = failure.refusal) →
    p (tryCatch step fun failure => throw (change failure))
  protected orElse : ∀ {α : Type} (a : α) {step : Rendering σ α}, p step → p (orElse a step)
  protected summarized : ∀ {α : Type} {step : Rendering σ α}, p step → p (summarized step)
  ask : ∀ filter subject arguments, p (ofSession (library.callNamed filter subject arguments))
  protected refuse : ∀ {α : Type} name error, p (refuse name error : Rendering σ α)

namespace IsCompositional

variable {library : FilterLibrary σ} {p : ∀ ⦃α : Type⦄, Rendering σ α → Prop}

protected theorem within (hp : IsCompositional library p) (what : String) {step : Rendering σ α}
    (hstep : p step) : p (within what step) :=
  hp.rethrow hstep fun _ => rfl

protected theorem enclosed (hp : IsCompositional library p) (scope : Scope) {step : Rendering σ α}
    (hstep : p step) : p (enclosed scope step) := by
  refine hp.bind (hp.rescope (scope :: ·)) fun _ => ?_
  refine hp.bind (hp.rethrow hstep fun _ => rfl) fun a => ?_
  exact hp.bind (hp.rescope List.tail) fun _ => hp.pure a

protected theorem ofExcept (hp : IsCompositional library p) (result : Except String α) :
    p (ofExcept result : Rendering σ α) := by
  cases result with
  | ok a => exact hp.pure a
  | error reason => exact hp.fail reason

protected theorem map (hp : IsCompositional library p) (f : α → β) {step : Rendering σ α}
    (hstep : p step) : p (f <$> step) := by
  rw [← bind_pure_comp]
  exact hp.bind hstep fun a => hp.pure (f a)

protected theorem mapM (hp : IsCompositional library p) {step : α → Rendering σ β} {items : List α}
    (hstep : ∀ a ∈ items, p (step a)) : p (items.mapM step) := by
  induction items with
  | nil => exact hp.pure []
  | cons a items ih =>
      rw [List.mapM_cons]
      refine hp.bind (hstep a (by simp)) fun b => ?_
      refine hp.bind (ih fun a ha => hstep a (by simp [ha])) fun bs => ?_
      exact hp.pure (b :: bs)

protected theorem untilBroken (hp : IsCompositional library p)
    {step : α → Rendering σ (String × Flow)} {items : List α} (hstep : ∀ a ∈ items, p (step a)) :
    p (untilBroken step items) := by
  induction items with
  | nil => exact hp.pure _
  | cons a items ih =>
      refine hp.bind (hstep a (by simp)) fun result => ?_
      have hrest := ih fun a ha => hstep a (by simp [ha])
      split
      · exact hp.bind hrest fun _ => hp.pure _
      · exact hp.pure _

protected theorem untilLeft (hp : IsCompositional library p)
    {step : α → Rendering σ (String × Flow)} {items : List α} (hstep : ∀ a ∈ items, p (step a)) :
    p (untilLeft step items) := by
  induction items with
  | nil => exact hp.pure _
  | cons a items ih =>
      refine hp.bind (hstep a (by simp)) fun result => ?_
      have hrest := ih fun a ha => hstep a (by simp [ha])
      split
      · exact hp.pure _
      · exact hp.bind hrest fun _ => hp.pure _

end IsCompositional

end ReleasePress.Template.Rendering
