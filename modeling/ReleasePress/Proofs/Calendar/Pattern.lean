import Mathlib.Tactic.Common
import ReleasePress.Calendar.Pattern

/-!
# The lenient offset in a pattern

A pattern is read conversion by conversion, and a conversion is decided by the characters that it takes.  The
field for the lenient offset has the one spelling `%#z`, so whether a pattern has that field can be told from its
text: it has these three characters where a conversion begins.
-/

namespace ReleasePress.DateItem

variable {text : List Char} {items : List DateItem} {taken : Nat} {padding : DatePadding}

/-! ## What a conversion takes -/

/-- No longer name of a conversion begins with a letter of its own. -/
theorem ofConversion?_of_letter {c : Char} (h : ofLetter? c = some items) (text : List Char) :
    ofConversion? (c :: text) = some (items, 1) := by
  have hc : c ≠ ':' ∧ c ≠ '.' ∧ c ≠ '3' ∧ c ≠ '6' ∧ c ≠ '9' := by
    refine ⟨?_, ?_, ?_, ?_, ?_⟩ <;> rintro rfl <;> cases h
  obtain ⟨hcolon, hpoint, h3, h6, h9⟩ := hc
  rw [ofConversion?.eq_11]
  · rw [h, Option.map_some]
  all_goals
    intro tail hhead htext
    contradiction

/-- A conversion is decided by the characters that it takes. -/
theorem ofConversion?_take (h : ofConversion? text = some (items, taken)) :
    taken ≤ text.length ∧ ∀ rest, ofConversion? (text.take taken ++ rest) = some (items, taken) := by
  fun_cases ofConversion? text with
  | case11 c text =>
      simp only [ofConversion?, Option.map_eq_some_iff, Prod.mk.injEq] at h
      obtain ⟨_, hletter, rfl, rfl⟩ := h
      exact ⟨by simp, ofConversion?_of_letter hletter⟩
  | case12 => cases h
  | _ =>
      cases h
      exact ⟨by simp, fun rest => rfl⟩

/-- No conversion begins with a flag. -/
theorem ofFlagged?_of_conversion {found : List DateItem × Nat} (h : ofConversion? text = some found) :
    ofFlagged? text = some found := by
  fun_cases ofFlagged? text with
  | case5 => exact h
  | _ => cases h

theorem repadded?_eq_some {found : List DateItem × Nat}
    (h : repadded? padding found = some (items, taken)) :
    ∃ n, items = [.number n padding] ∧ taken = found.2 + 1 := by
  fun_cases repadded? padding found with
  | case1 n before =>
      cases h
      exact ⟨n, rfl, rfl⟩
  | case2 => simp [repadded?] at h

/-- A conversion behind a flag is decided by the characters that it takes, of which the flag is the first. -/
theorem repadded?_take (h : (ofConversion? text).bind (repadded? padding) = some (items, taken)) :
    ∃ before, taken = before + 1 ∧ before ≤ text.length ∧
      (∀ rest, (ofConversion? (text.take before ++ rest)).bind (repadded? padding) = some (items, taken)) ∧
      ∃ n, items = [.number n padding] := by
  obtain ⟨⟨plain, before⟩, hplain, hpadded⟩ := Option.bind_eq_some_iff.1 h
  obtain ⟨hle, htake⟩ := ofConversion?_take hplain
  obtain ⟨n, hitems, htaken⟩ := repadded?_eq_some hpadded
  refine ⟨before, htaken, hle, fun rest => ?_, n, hitems⟩
  rw [htake rest, Option.bind_some, hpadded]

/-- A conversion with or without a flag is decided by the characters that it takes. -/
theorem ofFlagged?_take (h : ofFlagged? text = some (items, taken)) :
    taken ≤ text.length ∧ ∀ rest, ofFlagged? (text.take taken ++ rest) = some (items, taken) := by
  fun_cases ofFlagged? text with
  | case1 | case2 | case3 =>
      obtain ⟨before, rfl, hle, htake, -⟩ := repadded?_take h
      exact ⟨by simpa using hle, htake⟩
  | case4 =>
      cases h
      exact ⟨by simp, fun rest => rfl⟩
  | case5 text hdash hzero hline hlenient =>
      rw [ofFlagged?] at h
      · obtain ⟨hle, htake⟩ := ofConversion?_take h
        exact ⟨hle, fun rest => ofFlagged?_of_conversion (htake rest)⟩
      all_goals assumption

/-! ## Which conversion is the lenient offset -/

theorem lenientOffset_notMem_of_letter {c : Char} (h : ofLetter? c = some items) :
    .field .lenientOffset ∉ items := by
  fun_cases ofLetter? c with
  | case46 => simp [ofLetter?] at h
  | _ =>
      cases h
      decide

theorem lenientOffset_notMem_of_conversion (h : ofConversion? text = some (items, taken)) :
    .field .lenientOffset ∉ items := by
  fun_cases ofConversion? text with
  | case11 c text =>
      simp only [ofConversion?, Option.map_eq_some_iff, Prod.mk.injEq] at h
      obtain ⟨_, hletter, rfl, rfl⟩ := h
      exact lenientOffset_notMem_of_letter hletter
  | case12 => cases h
  | _ =>
      cases h
      decide

/-- The only conversion with the lenient offset is `#z`. -/
theorem lenientOffset_mem_iff (h : ofFlagged? text = some (items, taken)) :
    .field .lenientOffset ∈ items ↔ ∃ after, text = '#' :: 'z' :: after := by
  fun_cases ofFlagged? text with
  | case1 | case2 | case3 =>
      obtain ⟨-, -, -, -, n, rfl⟩ := repadded?_take h
      simp
  | case4 after =>
      cases h
      simp
  | case5 text hdash hzero hline hlenient =>
      rw [ofFlagged?] at h
      · have hnone := lenientOffset_notMem_of_conversion h
        exact iff_of_false hnone fun ⟨after, htext⟩ => hlenient after htext
      all_goals assumption

theorem lenientOffset_mem_addChar (c : Char) (items : List DateItem) :
    .field .lenientOffset ∈ addChar c items ↔ .field .lenientOffset ∈ items := by
  -- `simp` would look for an equation of each case of `isBlank`.
  unfold addChar
  cases Text.isBlank c
  · simp only [Bool.false_eq_true, if_false]
    split <;> simp
  · simp only [if_true]
    split <;> simp

/-- A text has the characters of the lenient offset where a conversion begins, after `skip` characters of the
conversion before. -/
def IsLenientFrom (skip : Nat) (text : List Char) : Prop :=
  ∃ before after, text = before ++ '%' :: '#' :: 'z' :: after ∧ skip ≤ before.length ∧
    (read? skip before).isSome = true

theorem isLenientFrom_skip (skip : Nat) (c : Char) (text : List Char) :
    IsLenientFrom (skip + 1) (c :: text) ↔ IsLenientFrom skip text := by
  constructor
  · rintro ⟨before, after, htext, hskip, hread⟩
    obtain _ | ⟨d, before⟩ := before
    · simp at hskip
    · rw [List.cons_append, List.cons.injEq] at htext
      exact ⟨before, after, htext.2, by simpa using hskip, hread⟩
  · rintro ⟨before, after, rfl, hskip, hread⟩
    exact ⟨c :: before, after, rfl, by simpa using hskip, hread⟩

theorem isLenientFrom_char {c : Char} (hc : c ≠ '%') (text : List Char) :
    IsLenientFrom 0 (c :: text) ↔ IsLenientFrom 0 text := by
  constructor
  · rintro ⟨before, after, htext, -, hread⟩
    obtain _ | ⟨d, before⟩ := before
    · exact absurd (List.cons.inj htext).1 hc
    · rw [List.cons_append, List.cons.injEq] at htext
      obtain ⟨rfl, rfl⟩ := htext
      rw [read?, Option.isSome_map] at hread
      · exact ⟨before, after, rfl, Nat.zero_le _, hread⟩
      · exact hc
  · rintro ⟨before, after, rfl, -, hread⟩
    refine ⟨c :: before, after, rfl, Nat.zero_le _, ?_⟩
    rw [read?, Option.isSome_map]
    · exact hread
    · exact hc

theorem isLenientFrom_conversion (h : ofFlagged? text = some (items, taken)) :
    IsLenientFrom 0 ('%' :: text) ↔ .field .lenientOffset ∈ items ∨ IsLenientFrom taken text := by
  obtain ⟨hle, htake⟩ := ofFlagged?_take h
  rw [lenientOffset_mem_iff h]
  constructor
  · rintro ⟨before, after, htext, -, hread⟩
    obtain _ | ⟨d, before⟩ := before
    · exact .inl ⟨after, (List.cons.inj htext).2⟩
    · rw [List.cons_append, List.cons.injEq] at htext
      obtain ⟨rfl, rfl⟩ := htext
      cases hbefore : ofFlagged? before with
      | none => simp [read?, hbefore] at hread
      | some found =>
          obtain ⟨hlen, hsame⟩ := ofFlagged?_take hbefore
          have heq := hsame (before.drop found.2 ++ '%' :: '#' :: 'z' :: after)
          rw [← List.append_assoc, List.take_append_drop, h] at heq
          cases heq
          simp only [read?, hbefore, Option.isSome_map] at hread
          exact .inr ⟨before, after, rfl, hlen, hread⟩
  · rintro (⟨after, rfl⟩ | ⟨before, after, rfl, hskip, hread⟩)
    · exact ⟨[], after, rfl, Nat.zero_le _, rfl⟩
    · have hbefore := htake (before.drop taken)
      rw [List.take_append_of_le_length hskip, List.take_append_drop] at hbefore
      refine ⟨'%' :: before, after, rfl, Nat.zero_le _, ?_⟩
      simpa only [read?, hbefore, Option.isSome_map] using hread

/-- A pattern is read as a list with the lenient offset if it has the characters for it where a conversion
begins. -/
theorem lenientOffset_mem_read?_iff {skip : Nat} (h : read? skip text = some items) :
    .field .lenientOffset ∈ items ↔ IsLenientFrom skip text := by
  fun_induction read? skip text generalizing items with
  | case1 skip =>
      cases h
      simp [IsLenientFrom]
  | case2 skip c text ih => rw [isLenientFrom_skip, ih h]
  | case3 text found taken hfound ih =>
      obtain ⟨others, hothers, rfl⟩ := Option.map_eq_some_iff.1 h
      rw [List.mem_append, isLenientFrom_conversion hfound, ih hothers]
  | case4 => cases h
  | case5 c text hc ih =>
      obtain ⟨others, hothers, rfl⟩ := Option.map_eq_some_iff.1 h
      rw [lenientOffset_mem_addChar, isLenientFrom_char hc, ih hothers]

/-- Whether a pattern has the conversion `%#z`: these characters, after a text that is a pattern as well. -/
def HasLenientOffset (pattern : String) : Prop :=
  ∃ before after, pattern.toList = before ++ '%' :: '#' :: 'z' :: after ∧ (read? 0 before).isSome = true

theorem lenientOffset_mem_listOf?_iff {pattern : String} (h : listOf? pattern = some items) :
    .field .lenientOffset ∈ items ↔ HasLenientOffset pattern := by
  simp only [lenientOffset_mem_read?_iff h, IsLenientFrom, HasLenientOffset, Nat.zero_le, true_and]

end ReleasePress.DateItem
