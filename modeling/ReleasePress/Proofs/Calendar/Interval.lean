import Mathlib.Tactic.Common
import Mathlib.Data.List.Basic
import ReleasePress.Calendar.Interval
import ReleasePress.Proofs.Text.Digits
import ReleasePress.Proofs.Text.Split

/-!
# The grammar of intervals

An interval is read exactly if it is spelled as one and its seconds, counted without any bound, fit
(`parse?_eq_some_iff`).  The reader checks every amount, every part and every running total on its own; since no
part is shorter than its amount and no total shorter than its parts, none of these checks refuses a text
whose sum fits.
-/

namespace ReleasePress.Interval

open ReleasePress.Text

/-! ## The grammar -/

/-- The letters of the units, with their seconds. -/
def units : List (Char × Nat) :=
  [('w', 7 * 24 * 3600), ('d', 24 * 3600), ('h', 3600), ('m', 60), ('s', 1)]

/-- The text of an interval and its exact number of seconds: amounts that are each followed by a unit, and then
perhaps an amount of seconds. -/
inductive Spells : List Char → Nat → Prop where
  | bare {digits : List Char} (hdigits : ∀ c ∈ digits, isDigit c = true) :
      Spells digits (Nat.ofDigitChars 10 digits 0)
  | part {digits : List Char} {letter : Char} {unit : Nat} {text : List Char} {seconds : Nat}
      (hdigits : ∀ c ∈ digits, isDigit c = true) (hne : digits ≠ []) (hunit : (letter, unit) ∈ units)
      (htext : Spells text seconds) :
      Spells (digits ++ letter :: text) (Nat.ofDigitChars 10 digits 0 * unit + seconds)

theorem unitSeconds?_eq_some_iff {letter : Char} {unit : Nat} :
    unitSeconds? letter = some unit ↔ (letter, unit) ∈ units := by
  rw [unitSeconds?.eq_def]
  split <;> simp_all [units, eq_comm]

theorem isDigit_of_mem_units {letter : Char} {unit : Nat} (h : (letter, unit) ∈ units) :
    isDigit letter = false ∧ 1 ≤ unit := by
  simp only [units, List.mem_cons, Prod.mk.injEq, List.not_mem_nil, or_false] at h
  rcases h with ⟨rfl, rfl⟩ | ⟨rfl, rfl⟩ | ⟨rfl, rfl⟩ | ⟨rfl, rfl⟩ | ⟨rfl, rfl⟩ <;> decide

variable {digits text : List Char} {c : Char} {total seconds s : Nat}

/-- Digits alone are an amount of seconds. -/
theorem spells_digits_iff (hdigits : ∀ c ∈ digits, isDigit c = true) :
    Spells digits seconds ↔ seconds = Nat.ofDigitChars 10 digits 0 := by
  constructor
  · intro h
    cases h with
    | bare => rfl
    | part _ _ hunit =>
        have hletter := hdigits _ (List.mem_append_right _ List.mem_cons_self)
        rw [(isDigit_of_mem_units hunit).1] at hletter
        cases hletter
  · rintro rfl
    exact .bare hdigits

/-- The first character that is no digit ends the first amount and is its unit. -/
theorem spells_part_iff (hdigits : ∀ c ∈ digits, isDigit c = true) (hc : isDigit c = false) :
    Spells (digits ++ c :: text) seconds ↔ digits ≠ [] ∧ ∃ unit, (c, unit) ∈ units ∧
      ∃ rest, Spells text rest ∧ seconds = Nat.ofDigitChars 10 digits 0 * unit + rest := by
  constructor
  · intro h
    generalize htext : digits ++ c :: text = whole at h
    cases h with
    | bare hwhole =>
        have hdigit := hwhole c (by simp [← htext])
        rw [hc] at hdigit
        cases hdigit
    | part hdigits' hne hunit hrest =>
        have hletter := (isDigit_of_mem_units hunit).1
        obtain ⟨rfl, rfl, rfl⟩ := append_cons_inj hdigits hdigits' hc hletter htext
        exact ⟨hne, _, hunit, _, hrest, rfl⟩
  · rintro ⟨hne, unit, hunit, rest, hrest, rfl⟩
    exact .part hdigits hne hunit hrest

/-! ## The checked sum -/

theorem fit_eq_some_iff {n m : Nat} : fit n = some m ↔ m = n ∧ n < 2 ^ 63 := by
  simp only [fit, Option.ite_none_right_eq_some, Option.some.injEq, eq_comm, and_comm]
  rfl

theorem sum_of_digit (hc : isDigit c = true) : sum total digits (c :: text) = sum total (c :: digits) text := by
  rw [sum, if_pos hc]

theorem sum_of_end (hs : s < 2 ^ 63) :
    sum total digits [] = some s ↔ s = total + Nat.ofDigitChars 10 digits.reverse 0 := by
  rw [sum, ← digitsValue_eq_ofDigitChars]
  cases digits with
  | nil => simp [digitsValue, eq_comm]
  | cons d digits =>
      simp only [List.isEmpty_cons, Bool.false_eq_true, if_false, Option.bind_eq_bind, Option.bind_eq_some_iff,
        fit_eq_some_iff]
      constructor
      · rintro ⟨_, ⟨rfl, -⟩, rfl, -⟩
        rfl
      · rintro rfl
        exact ⟨_, ⟨rfl, by omega⟩, rfl, hs⟩

/-- A part is added if it fits, and then its amount and the total fit as well. -/
theorem sum_of_unit (hc : isDigit c = false) :
    sum total digits (c :: text) = some s ↔ digits ≠ [] ∧ ∃ unit, (c, unit) ∈ units ∧
      total + Nat.ofDigitChars 10 digits.reverse 0 * unit < 2 ^ 63 ∧
      sum (total + Nat.ofDigitChars 10 digits.reverse 0 * unit) [] text = some s := by
  rw [sum, if_neg (by simp [hc]), ← digitsValue_eq_ofDigitChars]
  cases hunit : unitSeconds? c with
  | none => simp [← unitSeconds?_eq_some_iff, hunit]
  | some unit =>
      have hpos := (isDigit_of_mem_units (unitSeconds?_eq_some_iff.1 hunit)).2
      have hamount := Nat.le_mul_of_pos_right (digitsValue digits.reverse) hpos
      simp only [← unitSeconds?_eq_some_iff, hunit, Option.some.injEq, exists_eq_left', List.isEmpty_iff]
      by_cases hnil : digits = []
      · simp [hnil]
      simp only [hnil, if_false, ne_eq, not_false_iff, true_and]
      by_cases hfits : total + digitsValue digits.reverse * unit < 2 ^ 63
      · have hamount' : fit (digitsValue digits.reverse) = some _ := fit_eq_some_iff.2 ⟨rfl, by omega⟩
        have hpart : fit (digitsValue digits.reverse * unit) = some _ := fit_eq_some_iff.2 ⟨rfl, by omega⟩
        have htotal : fit (total + digitsValue digits.reverse * unit) = some _ := fit_eq_some_iff.2 ⟨rfl, hfits⟩
        simp only [hamount', hpart, htotal, hfits, true_and]
      · have htotal : fit (total + digitsValue digits.reverse * unit) = none := by
          rw [Option.eq_none_iff_forall_ne_some]
          exact fun m hm => hfits (fit_eq_some_iff.1 hm).2
        simp only [hfits, false_and, iff_false]
        split
        · simp
        · next hamount' =>
            obtain ⟨rfl, -⟩ := fit_eq_some_iff.1 hamount'
            split
            · simp
            · next hpart =>
                obtain ⟨rfl, -⟩ := fit_eq_some_iff.1 hpart
                simp [htotal]

/-- **What is left of a text is an interval if the checked sum goes through.**  The digits read so far belong to
the first amount. -/
theorem sum_eq_some_iff (hdigits : ∀ c ∈ digits, isDigit c = true) (hs : s < 2 ^ 63) :
    sum total digits text = some s ↔ ∃ seconds, Spells (digits.reverse ++ text) seconds ∧ s = total + seconds := by
  induction text generalizing total digits with
  | nil =>
      have hreverse : ∀ c ∈ digits.reverse, isDigit c = true := by simpa using hdigits
      simp [sum_of_end hs, spells_digits_iff hreverse]
  | cons c text ih =>
      cases hc : isDigit c with
      | true =>
          have hcons : ∀ d ∈ c :: digits, isDigit d = true := List.forall_mem_cons.2 ⟨hc, hdigits⟩
          rw [sum_of_digit hc, ih hcons, List.reverse_cons, List.append_assoc, List.singleton_append]
      | false =>
          have hreverse : ∀ c ∈ digits.reverse, isDigit c = true := by simpa using hdigits
          have hnil : ∀ c ∈ ([] : List Char), isDigit c = true := by simp
          simp only [sum_of_unit hc, spells_part_iff hreverse hc, ih hnil, List.reverse_nil, List.nil_append,
            ne_eq, List.reverse_eq_nil_iff]
          constructor
          · rintro ⟨hne, unit, hunit, -, seconds, hspells, rfl⟩
            exact ⟨_, ⟨hne, unit, hunit, seconds, hspells, rfl⟩, by omega⟩
          · rintro ⟨_, ⟨hne, unit, hunit, seconds, hspells, rfl⟩, rfl⟩
            exact ⟨hne, unit, hunit, by omega, seconds, hspells, by omega⟩

/-- The seconds of an interval are read if its text is not empty and they are no more than `maxSeconds`; no
other text is read. -/
theorem parse?_eq_some_iff {text : String} {s : Nat} :
    parse? text = some s ↔ text ≠ "" ∧ Spells text.toList s ∧ s ≤ 9223372036854775 := by
  have hnil : ∀ c ∈ ([] : List Char), isDigit c = true := by simp
  have hsum (hs : s ≤ 9223372036854775) : sum 0 [] text.toList = some s ↔ Spells text.toList s := by
    simp [sum_eq_some_iff hnil (show s < 2 ^ 63 by omega)]
  rw [parse?]
  split
  · next hempty => simp [String.isEmpty_iff.1 hempty]
  · next hne =>
      rw [String.isEmpty_iff] at hne
      simp only [Option.filter_eq_some_iff, decide_eq_true_eq, ne_eq, hne, not_false_iff, true_and]
      exact and_congr_left hsum

end ReleasePress.Interval
