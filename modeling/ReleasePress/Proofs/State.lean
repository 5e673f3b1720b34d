import Mathlib.Tactic.Common

/-! # Computations with a state

What a run of a computation with a state gives, as a pair of its answer and the state after it, and when one
that can fail succeeds. A computation is settled if its answer does not depend on the state, among the states
with a property that it keeps. Two computations mirror each other if they answer alike in related states, and
leave related states behind. -/

namespace ReleasePress

variable {σ ε α β : Type}

theorem run_bind (first : StateM σ α) (second : α → StateM σ β) (s : σ) :
    (first >>= second).run s = (second (first.run s).1).run (first.run s).2 := rfl

theorem run_pure (a : α) (s : σ) : (pure a : StateM σ α).run s = (a, s) := rfl

/-- A computation of two parts succeeds exactly if both do, one after the other. -/
theorem run_bind_eq_ok_iff {first : ExceptT ε (StateM σ) α} {second : α → ExceptT ε (StateM σ) β}
    {b : β} {s s' : σ} :
    (first >>= second).run.run s = (.ok b, s') ↔
      ∃ a middle, first.run.run s = (.ok a, middle) ∧ (second a).run.run middle = (.ok b, s') := by
  rw [ExceptT.run_bind, run_bind]
  rcases first.run.run s with ⟨answer, middle⟩
  cases answer with
  | error e =>
      constructor
      · rintro ⟨⟩
      · rintro ⟨a, middle, ⟨⟩, -⟩
  | ok a =>
      constructor
      · intro hsecond
        exact ⟨a, middle, rfl, hsecond⟩
      · rintro ⟨a, middle, ⟨⟩, hsecond⟩
        exact hsecond

/-- After its first part a computation of two parts goes on with the second one. -/
theorem run_bind_of_ok {first : ExceptT ε (StateM σ) α} {second : α → ExceptT ε (StateM σ) β} {a : α}
    {s s' : σ} (hfirst : first.run.run s = (.ok a, s')) :
    (first >>= second).run.run s = (second a).run.run s' := by
  rw [ExceptT.run_bind, run_bind, hfirst]

/-- A computation of two parts fails as its first part does. -/
theorem run_bind_of_error {first : ExceptT ε (StateM σ) α} {second : α → ExceptT ε (StateM σ) β} {e : ε}
    {s s' : σ} (hfirst : first.run.run s = (.error e, s')) : (first >>= second).run.run s = (.error e, s') := by
  rw [ExceptT.run_bind, run_bind, hfirst]
  rfl

/-! ## Settled computations -/

/-- The answer is the same in all states with the property, and the state after it has the property too. -/
def Settled (p : σ → Prop) (step : StateM σ α) : Prop :=
  ∃ a, ∀ s, p s → (step.run s).1 = a ∧ p (step.run s).2

theorem settled_pure (p : σ → Prop) (a : α) : Settled p (pure a : StateM σ α) :=
  ⟨a, fun _ hs => ⟨rfl, hs⟩⟩

/-- What comes next has to be settled for each answer alone, since only one of them occurs. -/
theorem Settled.bind {p : σ → Prop} {first : StateM σ α} {second : α → StateM σ β}
    (hfirst : Settled p first) (hsecond : ∀ a, Settled p (second a)) : Settled p (first >>= second) := by
  obtain ⟨a, ha⟩ := hfirst
  obtain ⟨b, hb⟩ := hsecond a
  refine ⟨b, fun s hs => ?_⟩
  obtain ⟨hanswer, hmiddle⟩ := ha s hs
  rw [run_bind, hanswer]
  exact hb _ hmiddle

/-! ## Computations that mirror each other -/

variable {τ : Type} {related : τ → σ → Prop}

/-- From related states the computations give the same answer and get to related states. -/
def Mirrors (related : τ → σ → Prop) (other : StateM τ α) (step : StateM σ α) : Prop :=
  ∀ t s, related t s → (other.run t).1 = (step.run s).1 ∧ related (other.run t).2 (step.run s).2

theorem mirrors_pure (related : τ → σ → Prop) (a : α) : Mirrors related (pure a) (pure a) :=
  fun _ _ hrelated => ⟨rfl, hrelated⟩

theorem Mirrors.bind {other : StateM τ α} {step : StateM σ α} {other' : α → StateM τ β}
    {step' : α → StateM σ β} (h : Mirrors related other step) (h' : ∀ a, Mirrors related (other' a) (step' a)) :
    Mirrors related (other >>= other') (step >>= step') := by
  intro t s hrelated
  obtain ⟨hanswer, hmiddle⟩ := h t s hrelated
  rw [run_bind, run_bind, hanswer]
  exact h' _ _ _ hmiddle

/-- Both states have the property. -/
def Both (p : σ → Prop) (t s : σ) : Prop :=
  p t ∧ p s

/-- A settled computation mirrors itself. -/
theorem Settled.mirrors {p : σ → Prop} {step : StateM σ α} (h : Settled p step) : Mirrors (Both p) step step := by
  obtain ⟨a, ha⟩ := h
  rintro t s ⟨ht, hs⟩
  exact ⟨(ha t ht).1.trans (ha s hs).1.symm, (ha t ht).2, (ha s hs).2⟩

end ReleasePress
