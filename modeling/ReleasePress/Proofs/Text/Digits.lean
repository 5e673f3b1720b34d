import Mathlib
import ReleasePress.Calendar.Pattern.Reader

/-!
# Numerals of a fixed width

Clock fields are written with leading zeros to a fixed number of digits.  `IsNumeral width n digits`
says that `digits` is such a spelling of `n`; `isNumeral_padded` says that `Text.padded` writes one, and
the lemmas on the readers say that a numeral in front of any text gives `n` and leaves that text.
-/

namespace ReleasePress.Text

/-- `digits` spells `n` in the decimal system with exactly `width` digits. -/
structure IsNumeral (width n : Nat) (digits : List Char) : Prop where
  length_eq : digits.length = width
  isDigit : ∀ c ∈ digits, isDigit c = true
  value_eq : digitsValue digits = n

/-! ## Characters of numerals -/

theorem isDigit_of_char_isDigit {c : Char} (h : c.isDigit = true) : isDigit c = true := by
  simp only [Char.isDigit, Bool.and_eq_true, decide_eq_true_eq] at h
  simp only [isDigit, Bool.and_eq_true, decide_eq_true_eq]
  exact h

theorem toNat_of_isDigit {c : Char} (h : isDigit c = true) : 48 ≤ c.toNat ∧ c.toNat ≤ 57 := by
  simp only [isDigit, Bool.and_eq_true, decide_eq_true_eq] at h
  exact h

theorem isBlank_eq_false_of_isDigit {c : Char} (h : isDigit c = true) : isBlank c = false := by
  have hc := toNat_of_isDigit h
  simp only [isBlank, Bool.or_eq_false_iff, Bool.and_eq_false_iff, beq_eq_false_iff_ne,
    decide_eq_false_iff_not]
  omega

theorem ne_of_isDigit {c d : Char} (h : isDigit c = true) (hd : isDigit d = false) : c ≠ d := by
  rintro rfl
  rw [h] at hd
  exact Bool.noConfusion hd

theorem digitsValue_eq_ofDigitChars (digits : List Char) :
    digitsValue digits = Nat.ofDigitChars 10 digits 0 := by
  simp only [digitsValue, Nat.ofDigitChars, Nat.mul_comm]

/-! ## Padded numbers -/

theorem toList_padded (width n : Nat) :
    (padded width n).toList =
      List.replicate (width - (Nat.toDigits 10 n).length) '0' ++ Nat.toDigits 10 n := by
  simp [padded]

/-- The digits of a padded number, however many they are, spell it. -/
theorem isNumeral_padded_self (width n : Nat) :
    IsNumeral (padded width n).toList.length n (padded width n).toList := by
  refine ⟨rfl, ?_, ?_⟩
  · intro c hc
    rw [toList_padded, List.mem_append, List.mem_replicate] at hc
    rcases hc with ⟨-, rfl⟩ | hc
    · decide
    · exact isDigit_of_char_isDigit (Nat.isDigit_of_mem_toDigits (by decide) (by decide) hc)
  · rw [toList_padded, digitsValue_eq_ofDigitChars, Nat.ofDigitChars_append,
      Nat.ofDigitChars_replicate_zero, Nat.mul_zero, Nat.ofDigitChars_ten_toDigits]

/-- A number with at most `width` digits is written with exactly `width` digits. -/
theorem isNumeral_padded {width n : Nat} (hwidth : 0 < width) (hn : n < 10 ^ width) :
    IsNumeral width n (padded width n).toList := by
  have hlen : (Nat.toDigits 10 n).length ≤ width :=
    (Nat.length_toDigits_le_iff (by decide) hwidth).2 hn
  have hwhole : (padded width n).toList.length = width := by
    simp only [toList_padded, List.length_append, List.length_replicate]
    omega
  have hself := isNumeral_padded_self width n
  rwa [hwhole] at hself

/-- A number of at most `places` digits, with no zeros in front. -/
theorem isNumeral_padded_one {places n : Nat} (hplaces : 0 < places) (hn : n < 10 ^ places) :
    ∃ width, width + 1 ≤ places ∧ IsNumeral (width + 1) n (padded 1 n).toList := by
  have hlength : (Nat.toDigits 10 n).length ≤ places := (Nat.length_toDigits_le_iff (by decide) hplaces).2 hn
  have hwhole : (padded 1 n).toList.length = 1 - (Nat.toDigits 10 n).length + (Nat.toDigits 10 n).length := by
    simp [toList_padded]
  have hself := isNumeral_padded_self 1 n
  obtain ⟨width, hwidth⟩ : ∃ width, (padded 1 n).toList.length = width + 1 :=
    ⟨(padded 1 n).toList.length - 1, by omega⟩
  rw [hwidth] at hself
  exact ⟨width, by omega, hself⟩

theorem padded_ne_nil (width n : Nat) : (padded width n).toList ≠ [] := by
  rw [toList_padded]
  exact List.append_ne_nil_of_right_ne_nil _ Nat.toDigits_ne_nil

namespace IsNumeral

variable {width n : Nat} {digits rest : List Char}

theorem all_isDigit (h : IsNumeral width n digits) : digits.all Text.isDigit = true :=
  List.all_eq_true.2 h.isDigit

theorem takeWhile_append (h : IsNumeral width n digits)
    (hrest : ∀ c ∈ rest.head?, Text.isDigit c = false) :
    (digits ++ rest).takeWhile Text.isDigit = digits := by
  rw [List.takeWhile_append_of_pos h.isDigit]
  cases rest with
  | nil => simp
  | cons c rest => simp [hrest c (by simp)]

theorem dropWhile_append (h : IsNumeral width n digits)
    (hrest : ∀ c ∈ rest.head?, Text.isDigit c = false) :
    (digits ++ rest).dropWhile Text.isDigit = rest := by
  rw [List.dropWhile_append_of_pos h.isDigit]
  cases rest with
  | nil => simp
  | cons c rest => simp [hrest c (by simp)]

theorem trimStart_append (h : IsNumeral (width + 1) n digits) :
    trimStart (digits ++ rest) = digits ++ rest := by
  cases digits with
  | nil => simpa using h.length_eq
  | cons c digits =>
      have hc := isBlank_eq_false_of_isDigit (h.isDigit c (by simp))
      simp [trimStart, hc]

end IsNumeral

end ReleasePress.Text

namespace ReleasePress

open ReleasePress.Text

variable {width n : Nat} {digits rest : List Char}

/-! ## Readers -/

theorem Timestamp.digits?_append (h : IsNumeral width n digits) :
    Timestamp.digits? width (digits ++ rest) = some (n, rest) := by
  have htake : (digits ++ rest).take width = digits := by
    rw [← h.length_eq, List.take_left]
  have hdrop : (digits ++ rest).drop width = rest := by
    rw [← h.length_eq, List.drop_left]
  simp [Timestamp.digits?, htake, hdrop, h.length_eq, h.all_isDigit, h.value_eq]

/-- A reader of at most `width` digits stops after a numeral of that width, whatever follows. -/
theorem DateNumber.readDigits?_append (h : IsNumeral (width + 1) n digits)
    (hn : n < 2 ^ 63) :
    DateNumber.readDigits? (some (width + 1)) (digits ++ rest) = some ((n : Int), rest) := by
  have htake : ((digits ++ rest).takeWhile Text.isDigit).take (width + 1) = digits := by
    rw [List.takeWhile_append_of_pos h.isDigit, ← h.length_eq, List.take_left]
  have hne : digits ≠ [] := List.ne_nil_of_length_eq_add_one h.length_eq
  have hdrop : (digits ++ rest).drop digits.length = rest := List.drop_left
  have hlt : ¬ n ≥ Nat.pow 2 63 := Nat.not_le.2 hn
  simp [DateNumber.readDigits?, htake, h.value_eq, hne, hlt, hdrop]

/-- A reader of any number of digits stops where they end. -/
theorem DateNumber.readDigits?_run (h : IsNumeral width n digits) (hne : digits ≠ []) (hn : n < 2 ^ 63)
    (hrest : ∀ c ∈ rest.head?, Text.isDigit c = false) :
    DateNumber.readDigits? none (digits ++ rest) = some ((n : Int), rest) := by
  have hlt : ¬ n ≥ Nat.pow 2 63 := Nat.not_le.2 hn
  have hdrop : (digits ++ rest).drop digits.length = rest := List.drop_left
  simp [DateNumber.readDigits?, h.takeWhile_append hrest, h.value_eq, hne, hlt, hdrop]

/-- A reader of at most `places` digits stops where they end, if there are no more of them. -/
theorem DateNumber.readDigits?_short {places : Nat} (h : IsNumeral (width + 1) n digits) (hle : width + 1 ≤ places)
    (hn : n < 2 ^ 63) (hrest : ∀ c ∈ rest.head?, Text.isDigit c = false) :
    DateNumber.readDigits? (some places) (digits ++ rest) = some ((n : Int), rest) := by
  have htake : digits.take places = digits := List.take_of_length_le (by rw [h.length_eq]; exact hle)
  have hne : digits ≠ [] := List.ne_nil_of_length_eq_add_one h.length_eq
  have hdrop : (digits ++ rest).drop digits.length = rest := List.drop_left
  have hlt : ¬ n ≥ Nat.pow 2 63 := Nat.not_le.2 hn
  simp [DateNumber.readDigits?, h.takeWhile_append hrest, htake, h.value_eq, hne, hlt, hdrop]

/-- A number of the calendar stops after a numeral of its full width.  Years may have a sign, but a
numeral has none. -/
theorem DateNumber.read?_append {field : DateNumber} (hplaces : field.places = some (width + 1))
    (h : IsNumeral (width + 1) n digits) (hn : n < 2 ^ 63) :
    field.read? (digits ++ rest) = some ((n : Int), rest) := by
  have hread : DateNumber.readDigits? field.places (digits ++ rest) = some ((n : Int), rest) := by
    rw [hplaces]
    exact DateNumber.readDigits?_append h hn
  rw [DateNumber.read?, h.trimStart_append]
  split
  · next heq =>
      obtain ⟨c, cs, rfl⟩ := List.exists_cons_of_length_eq_add_one h.length_eq
      rw [List.cons_append, List.cons.injEq] at heq
      exact absurd heq.1 (ne_of_isDigit (h.isDigit c (by simp)) (by decide))
  · next heq =>
      obtain ⟨c, cs, rfl⟩ := List.exists_cons_of_length_eq_add_one h.length_eq
      rw [List.cons_append, List.cons.injEq] at heq
      exact absurd heq.1 (ne_of_isDigit (h.isDigit c (by simp)) (by decide))
  · exact hread

end ReleasePress
