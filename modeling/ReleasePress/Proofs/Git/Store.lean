import Mathlib.Tactic.Common
import ReleasePress.Git.Store

/-!
# Stores that were built

A store is built from the empty one step by step.  Each step keeps the tables in order
(`Store.IsSound.apply`): an object is stored under its own id, and a note under the id of the object that
it is on.  So does every run of steps (`Store.isSound_build`).  Refs are in no such order: a name may
stand for any id, even if it is itself the text of another one.
-/

namespace ReleasePress.Git.Store

/-- A step in which a store is built. -/
inductive Step where
  | commit (summary : String) (time : Moment) (parents : List ObjectId)
  | tag (name : String) (target : ObjectId) (time : Option Moment)
  | note (target : ObjectId) (notesRef message : String) (time : Moment)
  | ref (name : String) (oid : ObjectId)
  | aliases (resolver : AliasResolver)

/-- The store after a step. -/
def Step.apply (store : Store) : Step → Store
  | commit summary time parents => (store.addCommit summary time parents).2
  | tag name target time => (store.addTag name target time).2
  | note target notesRef message time => (store.addNote target notesRef message time).2
  | ref name oid => store.addRef name oid
  | aliases resolver => { store with aliases := some resolver }

/-- The store that steps build, one after the other. -/
def build (steps : List Step) : Store :=
  steps.foldl Step.apply {}

/-- The tables are in order. -/
structure IsSound (store : Store) : Prop where
  own : ∀ oid o, (oid, o) ∈ store.objects → o.oid = oid
  not_note : ∀ oid n, (oid, Object.note n) ∉ store.objects
  target : ∀ notesRef oid n, ((notesRef, oid), n) ∈ store.notes → n.target = oid

theorem isSound_empty : IsSound {} where
  own _ _ hmem := absurd hmem List.not_mem_nil
  not_note _ _ := List.not_mem_nil
  target _ _ _ hmem := absurd hmem List.not_mem_nil

variable {store : Store}

/-- An object that is no note may be stored under its own id. -/
theorem IsSound.store_object (h : store.IsSound) {o : Object} (ho : ∀ n, o ≠ .note n) {count : Nat}
    {refs : List (String × ObjectId)} :
    IsSound { store with count, refs, objects := (o.oid, o) :: store.objects } where
  own oid found hmem := by
    rcases List.mem_cons.1 hmem with heq | hmem
    · obtain ⟨rfl, rfl⟩ := Prod.mk.inj heq
      rfl
    · exact h.own oid found hmem
  not_note oid n hmem := by
    rcases List.mem_cons.1 hmem with heq | hmem
    · exact ho n (Prod.mk.inj heq).2.symm
    · exact h.not_note oid n hmem
  target := h.target

/-- **A step keeps the tables in order.** -/
theorem IsSound.apply (h : store.IsSound) (step : Step) : (step.apply store).IsSound := by
  cases step with
  | commit summary time parents =>
      refine h.store_object (o := .commit (store.addCommit summary time parents).1) ?_
      rintro n ⟨⟩
  | tag name target time =>
      refine h.store_object (o := .tag (store.addTag name target time).1) ?_
      rintro n ⟨⟩
  | note target notesRef message time =>
      refine { h with target := fun name oid n hmem => ?_ }
      rcases List.mem_cons.1 hmem with heq | hmem
      · obtain ⟨hkey, rfl⟩ := Prod.mk.inj heq
        exact (Prod.mk.inj hkey).2.symm
      · exact h.target name oid n hmem
  | ref name oid => exact { h with }
  | aliases resolver => exact { h with }

/-- **Every run of steps leaves the tables in order.** -/
theorem isSound_build (steps : List Step) : (build steps).IsSound := by
  have hrun : ∀ store : Store, store.IsSound → (steps.foldl Step.apply store).IsSound := by
    induction steps with
    | nil => exact fun _ h => h
    | cons step steps ih => exact fun _ h => ih _ (h.apply step)
  exact hrun {} isSound_empty

/-! ## What is found -/

theorem mem_of_lookup {α β : Type} [BEq α] [LawfulBEq α] {entries : List (α × β)} {key : α} {value : β}
    (h : entries.lookup key = some value) : (key, value) ∈ entries := by
  obtain ⟨before, after, rfl, -⟩ := List.lookup_eq_some_iff.1 h
  simp

theorem object_eq_ok_iff {oid : ObjectId} {o : Object} :
    store.object oid = .ok o ↔ store.objects.lookup oid = some o := by
  cases hlookup : store.objects.lookup oid <;> simp [object, hlookup]

theorem IsSound.oid_eq (h : store.IsSound) {oid : ObjectId} {o : Object} (hfound : store.object oid = .ok o) :
    o.oid = oid :=
  h.own oid o (mem_of_lookup (object_eq_ok_iff.1 hfound))

theorem IsSound.ne_note (h : store.IsSound) {oid : ObjectId} {o : Object} (hfound : store.object oid = .ok o)
    (n : Note) : o ≠ .note n := by
  rintro rfl
  exact h.not_note oid n (mem_of_lookup (object_eq_ok_iff.1 hfound))

/-- What a revision leads to is stored under its own id, whether the revision is a ref or an id. -/
theorem IsSound.object_of_revision (h : store.IsSound) {name : String} {o : Object}
    (hfound : store.revision name = .ok o) : store.object o.oid = .ok o := by
  have hobject : ∃ oid, store.object oid = .ok o := by
    unfold revision at hfound
    split at hfound
    · cases hfound
    · split at hfound
      · next oid _ => exact ⟨oid, hfound⟩
      · split at hfound
        · next oid _ => exact ⟨oid, hfound⟩
        · cases hfound
  obtain ⟨oid, hoid⟩ := hobject
  rwa [h.oid_eq hoid]

/-- A note that was found is found again by the object that it is on. -/
theorem IsSound.note_target (h : store.IsSound) {oid : ObjectId} {notesRef : String} {n : Note}
    (hfound : store.note oid notesRef = .ok n) : store.note n.target notesRef = .ok n := by
  have hlookup : store.notes.lookup (qualifyNotesRef notesRef, oid) = some n := by
    unfold note at hfound
    split at hfound
    · next found heq =>
        cases hfound
        exact heq
    · cases hfound
  rwa [h.target _ _ _ (mem_of_lookup hlookup)]

end ReleasePress.Git.Store
