import Mathlib.Data.List.DropRight
import Mathlib.Tactic.Common
import ReleasePress.Text.Split

/-!
# Blanks around a text

A text is its trimmed part and blanks (`exists_blanks`), and trimming does not see blanks that are added at the ends
(`trimEnd_append_of_blank`, `trim_append_of_blank`, `trim_append_blanks`).
-/

namespace ReleasePress.Text

variable {text front back : List Char}

theorem exists_blanks (text : List Char) : ∃ blanks, (∀ c ∈ blanks, isBlank c = true) ∧ text = trimEnd text ++ blanks :=
  ⟨text.rtakeWhile isBlank, fun _ => List.mem_rtakeWhile_imp, (List.rdropWhile_append_rtakeWhile (p := isBlank)).symm⟩

theorem trimEnd_trimEnd (text : List Char) : trimEnd (trimEnd text) = trimEnd text :=
  List.rdropWhile_idempotent isBlank text

theorem trimEnd_eq_nil_iff : trimEnd text = [] ↔ ∀ c ∈ text, isBlank c = true :=
  List.rdropWhile_eq_nil_iff

theorem trim_eq_nil_iff : trim text = [] ↔ trimEnd text = [] := by
  rw [trim, trimEnd_eq_nil_iff, trimEnd_eq_nil_iff]
  constructor
  · intro h c hc
    rw [← List.takeWhile_append_dropWhile (p := isBlank) (l := text), List.mem_append] at hc
    exact hc.elim List.mem_takeWhile_imp (h c)
  · intro h c hc
    exact h c ((List.dropWhile_sublist _).subset hc)

theorem trimEnd_append_of_blank (hback : ∀ c ∈ back, isBlank c = true) : trimEnd (front ++ back) = trimEnd front := by
  rw [trimEnd, List.reverse_append, List.dropWhile_append_of_pos (by simpa using hback), trimEnd]

/-- Nothing is trimmed off in front of a character that is no blank. -/
theorem trimEnd_append_cons {c : Char} (hc : isBlank c = false) (front back : List Char) :
    trimEnd (front ++ c :: back) = front ++ c :: trimEnd back := by
  rw [trimEnd, List.reverse_append, List.reverse_cons, List.append_assoc, List.dropWhile_append, trimEnd]
  split
  · next hempty => simp [hc, List.isEmpty_iff.1 hempty]
  · simp

theorem trimEnd_append_of_ne_nil (hback : trimEnd back ≠ []) : trimEnd (front ++ back) = front ++ trimEnd back := by
  have hnot : (back.reverse.dropWhile isBlank).isEmpty = false := by
    simpa [trimEnd] using hback
  rw [trimEnd, List.reverse_append, List.dropWhile_append, if_neg (by simp [hnot]), List.reverse_append,
    List.reverse_reverse, trimEnd]

theorem trim_append_of_blank (hback : ∀ c ∈ back, isBlank c = true) : trim (text ++ back) = trim text := by
  rw [trim, trimStart, List.dropWhile_append]
  split
  · next hempty =>
      rw [List.dropWhile_eq_nil_iff.2 hback, trim, trimStart, List.isEmpty_iff.1 hempty]
  · exact trimEnd_append_of_blank hback

theorem trim_blank_append (hfront : ∀ c ∈ front, isBlank c = true) : trim (front ++ text) = trim text := by
  rw [trim, trimStart, List.dropWhile_append_of_pos hfront, trim, trimStart]

theorem trim_trimEnd (text : List Char) : trim (trimEnd text) = trim text := by
  obtain ⟨blanks, hblanks, htext⟩ := exists_blanks text
  conv_rhs => rw [htext, trim_append_of_blank hblanks]

/-- A trimmed text does not begin with a blank. -/
theorem isBlank_of_trim_eq_cons {c : Char} {rest : List Char} (htrim : trim text = c :: rest) : isBlank c = false := by
  obtain ⟨blanks, -, hstart⟩ := exists_blanks (trimStart text)
  have hdrop : text.dropWhile isBlank = c :: (rest ++ blanks) := by
    rw [← List.cons_append, ← htrim]
    exact hstart
  have hhead := List.head?_dropWhile_not isBlank text
  rw [hdrop] at hhead
  exact hhead

theorem trim_sublist (text : List Char) : (trim text).Sublist text :=
  (List.rdropWhile_prefix isBlank _).sublist.trans (List.dropWhile_sublist isBlank)

/-- A carriage return is a blank like others. -/
theorem trimEnd_dropReturn (line : List Char) : trimEnd (dropReturn line) = trimEnd line := by
  unfold dropReturn
  split
  · next rest hline =>
      rw [List.reverse_eq_iff.1 hline, List.reverse_cons, trimEnd_append_of_blank (List.forall_mem_singleton.2 rfl)]
  · rfl

end ReleasePress.Text
