import Mathlib.Order.Bounds.Defs
import Mathlib.Order.MinMax
import Mathlib.Tactic.Common
import ReleasePress.Text.EditDistance

/-!
# The least number of edits

`editDistance` is the least number of single-character edits that turn one text into another
(`isLeast_editDistance`), where an edit may be made anywhere and edits may undo each other (`Edits`).

`distance` says the same by recursion on both texts, from their first characters on.  That it is a number of
edits is read off its recursion (`edits_distance`); that no fewer do is because one edit, wherever it is made, changes
the distance to any text by at most one (`distance_le_of_edit`).  The table looks at last characters, so its
entries are distances of reversed texts (`nextRow_row`), and edits can be reversed as well (`Edits.reverse`).
-/

namespace ReleasePress.Text

/-! ## Edits -/

/-- A single character is put in, taken out or replaced. -/
inductive Edit : List Char → List Char → Prop
  | insertion (front : List Char) (c : Char) (back : List Char) : Edit (front ++ back) (front ++ c :: back)
  | deletion (front : List Char) (c : Char) (back : List Char) : Edit (front ++ c :: back) (front ++ back)
  | replacement (front : List Char) (c d : Char) (back : List Char) : Edit (front ++ c :: back) (front ++ d :: back)

/-- So many edits, one after another, turn one text into another. -/
inductive Edits : Nat → List Char → List Char → Prop
  | refl (a : List Char) : Edits 0 a a
  | head {n : Nat} {a b c : List Char} (first : Edit a b) (rest : Edits n b c) : Edits (n + 1) a c

variable {a b : List Char} {n : Nat}

theorem Edit.cons (c : Char) (h : Edit a b) : Edit (c :: a) (c :: b) := by
  cases h with
  | insertion front d back => exact .insertion (c :: front) d back
  | deletion front d back => exact .deletion (c :: front) d back
  | replacement front d e back => exact .replacement (c :: front) d e back

theorem Edits.cons (c : Char) (h : Edits n a b) : Edits n (c :: a) (c :: b) := by
  induction h with
  | refl a => exact .refl (c :: a)
  | head first rest ih => exact .head (first.cons c) ih

theorem Edit.reverse (h : Edit a b) : Edit a.reverse b.reverse := by
  cases h with
  | insertion front c back => simpa using Edit.insertion back.reverse c front.reverse
  | deletion front c back => simpa using Edit.deletion back.reverse c front.reverse
  | replacement front c d back => simpa using Edit.replacement back.reverse c d front.reverse

theorem Edits.reverse (h : Edits n a b) : Edits n a.reverse b.reverse := by
  induction h with
  | refl a => exact .refl a.reverse
  | head first rest ih => exact .head first.reverse ih

theorem edits_reverse_iff : Edits n a.reverse b.reverse ↔ Edits n a b := by
  constructor
  · intro h
    simpa using h.reverse
  · exact Edits.reverse

theorem Edits.insert (c : Char) (h : Edits n a b) : Edits (n + 1) a (c :: b) :=
  .head (.insertion [] c a) (h.cons c)

theorem Edits.delete (c : Char) (h : Edits n a b) : Edits (n + 1) (c :: a) b :=
  .head (.deletion [] c a) h

theorem Edits.replace (c d : Char) (h : Edits n a b) : Edits (n + 1) (c :: a) (d :: b) :=
  .head (.replacement [] c d a) (h.cons d)

/-! ## The distance by first characters -/

/-- The least number of edits, by what becomes of the first characters. -/
def distance : List Char → List Char → Nat
  | [], b => b.length
  | _ :: a, [] => a.length + 1
  | c :: a, d :: b =>
    min (min (distance (c :: a) b + 1) (distance a (d :: b) + 1))
      (if c = d then distance a b else distance a b + 1)
termination_by a b => a.length + b.length

@[simp]
theorem distance_nil_left (b : List Char) : distance [] b = b.length := by
  rw [distance]

@[simp]
theorem distance_nil_right (a : List Char) : distance a [] = a.length := by
  cases a <;> simp [distance]

theorem distance_cons_cons (c d : Char) (a b : List Char) :
    distance (c :: a) (d :: b) =
      min (min (distance (c :: a) b + 1) (distance a (d :: b) + 1))
        (if c = d then distance a b else distance a b + 1) := by
  rw [distance]

theorem edits_insert_all (b : List Char) : Edits b.length [] b := by
  induction b with
  | nil => exact .refl []
  | cons d b ih => exact ih.insert d

theorem edits_delete_all (a : List Char) : Edits a.length a [] := by
  induction a with
  | nil => exact .refl []
  | cons c a ih => exact ih.delete c

/-- The distance is a number of edits. -/
theorem edits_distance (a b : List Char) : Edits (distance a b) a b := by
  induction a generalizing b with
  | nil => simpa using edits_insert_all b
  | cons c a iha =>
      induction b with
      | nil => simpa using edits_delete_all (c :: a)
      | cons d b ihb =>
          rw [distance_cons_cons]
          apply min_rec' fun n => Edits n (c :: a) (d :: b)
          · apply min_rec' fun n => Edits n (c :: a) (d :: b)
            · exact ihb.insert d
            · exact (iha (d :: b)).delete c
          · by_cases hcd : c = d
            · rw [if_pos hcd, hcd]
              exact (iha b).cons d
            · rw [if_neg hcd]
              exact (iha b).replace c d

/-! ## No fewer edits -/

theorem distance_cons_right_le (a : List Char) (d : Char) (b : List Char) : distance a (d :: b) ≤ distance a b + 1 := by
  cases a with
  | nil => simp
  | cons c a =>
      rw [distance_cons_cons]
      omega

theorem distance_cons_left_le (c : Char) (a b : List Char) : distance (c :: a) b ≤ distance a b + 1 := by
  cases b with
  | nil => simp
  | cons d b =>
      rw [distance_cons_cons]
      omega

theorem distance_le_cons_left (c : Char) (a b : List Char) : distance a b ≤ distance (c :: a) b + 1 := by
  induction b with
  | nil =>
      simp only [distance_nil_right, List.length_cons]
      omega
  | cons d b ih =>
      have hright := distance_cons_right_le a d b
      rw [distance_cons_cons]
      split <;> omega

theorem distance_replace_le (c d : Char) (a b : List Char) : distance (c :: a) b ≤ distance (d :: a) b + 1 := by
  induction b with
  | nil => simp
  | cons e b ih =>
      rw [distance_cons_cons, distance_cons_cons]
      split <;> split <;> omega

/-- What changes distances by at most one does so behind a common first character, too. -/
theorem distance_cons_le_of_forall {a a' : List Char} (h : ∀ b, distance a b ≤ distance a' b + 1) (c : Char)
    (b : List Char) : distance (c :: a) b ≤ distance (c :: a') b + 1 := by
  induction b with
  | nil => simpa using h []
  | cons d b ih =>
      have hlong := h (d :: b)
      have hshort := h b
      rw [distance_cons_cons, distance_cons_cons]
      split <;> omega

theorem distance_append_le_of_forall {a a' : List Char} (h : ∀ b, distance a b ≤ distance a' b + 1)
    (front b : List Char) : distance (front ++ a) b ≤ distance (front ++ a') b + 1 := by
  induction front generalizing b with
  | nil => exact h b
  | cons c front ih => exact distance_cons_le_of_forall ih c b

/-- One edit changes the distance to any text by at most one. -/
theorem distance_le_of_edit {a a' : List Char} (h : Edit a a') (b : List Char) :
    distance a b ≤ distance a' b + 1 := by
  cases h with
  | insertion front c back => exact distance_append_le_of_forall (distance_le_cons_left c back) front b
  | deletion front c back => exact distance_append_le_of_forall (distance_cons_left_le c back) front b
  | replacement front c d back => exact distance_append_le_of_forall (distance_replace_le c d back) front b

theorem distance_self (a : List Char) : distance a a = 0 := by
  induction a with
  | nil => simp
  | cons c a ih => simp [distance_cons_cons, ih]

theorem distance_le_of_edits (h : Edits n a b) : distance a b ≤ n := by
  induction h with
  | refl a => exact (distance_self a).le
  | head first rest ih => exact (distance_le_of_edit first _).trans (Nat.succ_le_succ ih)

theorem isLeast_distance (a b : List Char) : IsLeast {n | Edits n a b} (distance a b) :=
  ⟨edits_distance a b, fun _ h => distance_le_of_edits h⟩

/-! ## The table -/

/-- The distances of `a` to the texts that begin with more and more of `b`, last character first, behind which
comes `done`. -/
def distancesFrom (a : List Char) : List Char → List Char → List Nat
  | _, [] => []
  | done, d :: b => distance a (d :: done) :: distancesFrom a (d :: done) b

/-- The row of the text that is `a` backwards. -/
def row (a b : List Char) : List Nat :=
  distance a [] :: distancesFrom a [] b

theorem firstRow_eq (b : List Char) : firstRow b = row [] b := by
  have hfrom : ∀ done, distancesFrom [] done b = List.range' (done.length + 1) b.length := by
    induction b with
    | nil => exact fun _ => rfl
    | cons d b ih =>
        intro done
        rw [distancesFrom, ih, distance_nil_left, List.length_cons, List.length_cons, List.range'_succ]
  rw [firstRow, row, hfrom, distance_nil_left, List.range_eq_range', List.range'_succ]
  rfl

theorem nextEntries_distancesFrom (c : Char) (a done b : List Char) :
    nextEntries c (distance (c :: a) done) (distance a done) b (distancesFrom a done b) =
      distancesFrom (c :: a) done b := by
  induction b generalizing done with
  | nil => rfl
  | cons d b ih =>
      rw [distancesFrom, distancesFrom, nextEntries, ← distance_cons_cons, ih]

/-- A row of the table gives the next one. -/
theorem nextRow_row (c : Char) (a b : List Char) : nextRow b (row a b) c = row (c :: a) b := by
  have hcorner : distance a [] + 1 = distance (c :: a) [] := by simp
  rw [row, row, nextRow, hcorner, nextEntries_distancesFrom]

theorem foldl_nextRow (a before b : List Char) : a.foldl (nextRow b) (row before b) = row (a.reverse ++ before) b := by
  induction a generalizing before with
  | nil => rfl
  | cons c a ih => rw [List.foldl_cons, nextRow_row, ih, List.reverse_cons, List.append_assoc, List.singleton_append]

theorem getLast?_distancesFrom (a done b : List Char) :
    (distance a done :: distancesFrom a done b).getLast? = some (distance a (b.reverse ++ done)) := by
  induction b generalizing done with
  | nil => rfl
  | cons d b ih =>
      rw [distancesFrom, List.getLast?_cons_cons, ih, List.reverse_cons, List.append_assoc, List.singleton_append]

theorem editDistance_eq (a b : List Char) : editDistance a b = distance a.reverse b.reverse := by
  rw [editDistance, firstRow_eq, foldl_nextRow, row, getLast?_distancesFrom, List.append_nil, List.append_nil,
    Option.getD_some]

/-- The table computes the least number of edits. -/
theorem isLeast_editDistance (a b : List Char) : IsLeast {n | Edits n a b} (editDistance a b) := by
  have hreverse : {n | Edits n a b} = {n | Edits n a.reverse b.reverse} :=
    Set.ext fun _ => edits_reverse_iff.symm
  rw [editDistance_eq, hreverse]
  exact isLeast_distance a.reverse b.reverse

end ReleasePress.Text
