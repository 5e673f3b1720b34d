import Mathlib
import ReleasePress.Calendar.Day

/-!
# Naming days by month

Every day in range is the day that its own year, month and day of the month name.  Conversely a day that was
found by month or by week has the names it was found by.
-/

namespace ReleasePress.Day

/-! ## Years -/

/-- The days before a year, counted in whole cycles of 400, 100, 4 and 1 years. -/
theorem beforeYear_cycles (cycle : Int) (century leapCycle year : Nat) (hcentury : century ≤ 3)
    (hleap : leapCycle ≤ 24) (hyear : year ≤ 3) :
    beforeYear (400 * cycle + 100 * century + 4 * leapCycle + year + 1) =
      146097 * cycle + 36524 * century + 1461 * leapCycle + 365 * year := by
  simp only [beforeYear]
  omega

/-- A year is a leap year if it is the last of its four, unless it ends a century that does not end a
cycle. -/
theorem isLeap_cycles (cycle : Int) (century leapCycle year : Nat) (hcentury : century ≤ 3)
    (hleap : leapCycle ≤ 24) (hyear : year ≤ 3) :
    isLeap (400 * cycle + 100 * century + 4 * leapCycle + year + 1) = true ↔
      year = 3 ∧ (leapCycle = 24 → century = 3) := by
  simp only [isLeap, Bool.and_eq_true, Bool.or_eq_true, beq_iff_eq, bne_iff_ne]
  omega

/-- A day lies in its year, as many days after the first one as `yearAndPast` says. -/
theorem yearAndPast_spec (day : Day) :
    day.number + epochShift = beforeYear day.yearAndPast.1 + day.yearAndPast.2 ∧
      day.yearAndPast.2 < yearLength day.yearAndPast.1 := by
  obtain ⟨number⟩ := day
  set count := number + epochShift with hcount
  set inCycle := (count % 146097).toNat with hinCycle
  have hlt : inCycle < 146097 := by omega
  have hcycle : count = 146097 * (count / 146097) + inCycle := by omega
  set century := min (inCycle / 36524) 3 with hcentury
  set inCentury := inCycle - century * 36524 with hinCentury
  have hcentury_le : century ≤ 3 := by omega
  have hsplit : inCycle = 36524 * century + inCentury := by omega
  have hinCentury_le : inCentury ≤ 36524 := by omega
  have hfull : inCentury = 36524 → century = 3 := by omega
  set leapCycle := inCentury / 1461 with hleapCycle
  set inLeapCycle := inCentury % 1461 with hinLeapCycle
  have hleap_le : leapCycle ≤ 24 := by omega
  have hsplit' : inCentury = 1461 * leapCycle + inLeapCycle := by omega
  have hinLeap_lt : inLeapCycle < 1461 := by omega
  set year := min (inLeapCycle / 365) 3 with hyear
  have hyear_le : year ≤ 3 := by omega
  have hview : (Day.mk number).yearAndPast =
      (400 * (count / 146097) + 100 * century + 4 * leapCycle + year + 1,
        inLeapCycle - year * 365) := rfl
  rw [hview]
  constructor
  · rw [beforeYear_cycles _ _ _ _ hcentury_le hleap_le hyear_le]
    show count = _
    omega
  · simp only [yearLength]
    split
    · omega
    · next hnot =>
        rw [isLeap_cycles _ _ _ _ hcentury_le hleap_le hyear_le] at hnot
        omega

/-! ## Months -/

/-- The month and the day after `past` days of some months: so many months before and days in it. -/
theorem monthAndDay_spec (lengths : List Nat) (past month : Nat) (hpast : past < lengths.sum) :
    ∃ before, ∃ hbefore : before < lengths.length,
      monthAndDay past month lengths =
          (month + before, past - (lengths.take before).sum + 1) ∧
        (lengths.take before).sum ≤ past ∧
        past < (lengths.take before).sum + lengths[before] := by
  induction lengths generalizing past month with
  | nil => simp at hpast
  | cons length lengths ih =>
      by_cases hlt : past < length
      · exact ⟨0, by simp, by simp [monthAndDay, hlt], by simp, by simpa using hlt⟩
      · rw [List.sum_cons] at hpast
        obtain ⟨before, hbefore, heq, hle, hlt'⟩ := ih (past - length) (month + 1) (by omega)
        refine ⟨before + 1, by simpa using hbefore, ?_, ?_, ?_⟩
        · rw [monthAndDay, if_neg hlt, heq]
          simp only [List.take_succ_cons, List.sum_cons, Prod.mk.injEq]
          omega
        · simp only [List.take_succ_cons, List.sum_cons]
          omega
        · simp only [List.take_succ_cons, List.sum_cons, List.getElem_cons_succ]
          omega

theorem sum_monthLengths (year : Int) : (monthLengths year).sum = yearLength year := by
  by_cases h : isLeap year = true <;> simp [monthLengths, yearLength, h]

theorem length_monthLengths (year : Int) : (monthLengths year).length = 12 := rfl

theorem foldl_add_eq_sum (lengths : List Nat) : lengths.foldl (· + ·) 0 = lengths.sum := by
  rw [List.sum_eq_foldl]

/-- Where a day stands in its month. -/
theorem month_spec (day : Day) :
    ∃ before, ∃ hbefore : before < (monthLengths day.year).length,
      day.month = before + 1 ∧
        day.dayOfMonth = day.yearAndPast.2 - ((monthLengths day.year).take before).sum + 1 ∧
        ((monthLengths day.year).take before).sum ≤ day.yearAndPast.2 ∧
        day.dayOfMonth ≤ (monthLengths day.year)[before] := by
  have hpast : day.yearAndPast.2 < (monthLengths day.year).sum := by
    rw [sum_monthLengths]
    exact (yearAndPast_spec day).2
  obtain ⟨before, hbefore, heq, hle, hlt⟩ := monthAndDay_spec _ _ 1 hpast
  refine ⟨before, hbefore, ?_, ?_, hle, ?_⟩
  · rw [month, heq, Nat.add_comm]
  · rw [dayOfMonth, heq]
  · rw [dayOfMonth, heq]
    omega

theorem month_bounds (day : Day) : 1 ≤ day.month ∧ day.month ≤ 12 := by
  obtain ⟨before, hbefore, hmonth, -⟩ := month_spec day
  rw [length_monthLengths] at hbefore
  omega

theorem monthLengths_le (year : Int) {before : Nat} (h : before < (monthLengths year).length) :
    (monthLengths year)[before] ≤ 31 := by
  have hmem : (monthLengths year)[before] ∈ monthLengths year := List.getElem_mem h
  generalize (monthLengths year)[before] = length at hmem
  simp only [monthLengths, List.mem_cons, List.not_mem_nil, or_false] at hmem
  split at hmem <;> omega

theorem dayOfMonth_bounds (day : Day) : 1 ≤ day.dayOfMonth ∧ day.dayOfMonth ≤ 31 := by
  obtain ⟨before, hbefore, -, hday, -, hle⟩ := month_spec day
  have h31 := monthLengths_le day.year hbefore
  omega

/-- Every day in range is the one that its year, month and day of the month name. -/
theorem ofMonth?_year_month_dayOfMonth (day : Day) (hrange : day.inRange = true) :
    ofMonth? day.year day.month day.dayOfMonth = some day := by
  obtain ⟨before, hbefore, hmonth, hday, hle, hdayLe⟩ := month_spec day
  have hlen := length_monthLengths day.year
  have hget : ((monthLengths day.year)[day.month - 1]?).getD 0 = (monthLengths day.year)[before] := by
    rw [hmonth, Nat.add_sub_cancel, List.getElem?_eq_getElem hbefore, Option.getD_some]
  have hguard : (1 ≤ day.month && day.month ≤ 12 && 1 ≤ day.dayOfMonth &&
      day.dayOfMonth ≤ ((monthLengths day.year)[day.month - 1]?).getD 0) = true := by
    simp only [hget, Bool.and_eq_true, decide_eq_true_eq]
    omega
  have hsum : ((monthLengths day.year).take (day.month - 1)).foldl (· + ·) 0 =
      ((monthLengths day.year).take before).sum := by
    rw [foldl_add_eq_sum, hmonth, Nat.add_sub_cancel]
  have hnumber := (yearAndPast_spec day).1
  have heq : (newYear day.year).add
      (((((monthLengths day.year).take (day.month - 1)).foldl (· + ·) 0 : Nat) : Int) +
        day.dayOfMonth - 1) = day := by
    rw [hsum]
    obtain ⟨number⟩ := day
    simp only [newYear, add, mk.injEq]
    show beforeYear (Day.mk number).yearAndPast.1 - epochShift + _ = number
    simp only [hday] at hnumber ⊢
    omega
  unfold ofMonth?
  simp only [hguard, if_true, heq]
  rw [checked, if_pos hrange]

/-! ## The day that a year, a month or a week names -/

theorem beforeYear_succ (year : Int) : beforeYear (year + 1) = beforeYear year + yearLength year := by
  simp only [beforeYear, yearLength, isLeap, Bool.and_eq_true, Bool.or_eq_true, beq_iff_eq, bne_iff_ne]
  split <;> omega

theorem beforeYear_mono : Monotone beforeYear :=
  monotone_int_of_le_succ fun year => by
    rw [beforeYear_succ]
    omega

/-- A day has one year in which it lies. -/
theorem yearAndPast_eq {day : Day} {year : Int} {past : Nat} (hpast : past < yearLength year)
    (hnumber : day.number + epochShift = beforeYear year + past) : day.yearAndPast = (year, past) := by
  obtain ⟨hnumber', hpast'⟩ := yearAndPast_spec day
  have hsucc := beforeYear_succ year
  have hsucc' := beforeYear_succ day.yearAndPast.1
  have hyear : day.yearAndPast.1 = year := by
    rcases lt_trichotomy day.yearAndPast.1 year with hlt | heq | hlt
    · have hle := beforeYear_mono (Int.add_one_le_of_lt hlt)
      omega
    · exact heq
    · have hle := beforeYear_mono (Int.add_one_le_of_lt hlt)
      omega
  rw [hyear] at hnumber'
  refine Prod.ext hyear ?_
  show day.yearAndPast.2 = past
  omega

/-- So many whole months and then some days of the next one. -/
theorem monthAndDay_eq {lengths : List Nat} {before : Nat} (hbefore : before < lengths.length) {rest : Nat}
    (hrest : rest < lengths[before]) (month : Nat) :
    monthAndDay ((lengths.take before).sum + rest) month lengths = (month + before, rest + 1) := by
  induction lengths generalizing before month with
  | nil => simp at hbefore
  | cons length lengths ih =>
      cases before with
      | zero =>
          rw [List.getElem_cons_zero] at hrest
          simp [monthAndDay, hrest]
      | succ before =>
          rw [List.take_succ_cons, List.sum_cons, Nat.add_assoc, monthAndDay, if_neg (by omega),
            Nat.add_sub_cancel_left, ih (by simpa using hbefore) (by simpa using hrest)]
          congr 1
          omega

/-- A day by year, month and day of the month is named so. -/
theorem ofMonth?_eq_some {year : Int} {month dayOfMonth : Nat} {day : Day}
    (h : ofMonth? year month dayOfMonth = some day) :
    day.year = year ∧ day.month = month ∧ day.dayOfMonth = dayOfMonth := by
  simp only [ofMonth?, checked, Option.ite_none_right_eq_some, Bool.and_eq_true, decide_eq_true_eq,
    Option.some.injEq, foldl_add_eq_sum] at h
  obtain ⟨⟨⟨⟨hmonth, hmonth'⟩, hday⟩, hlength⟩, -, rfl⟩ := h
  have hbefore : month - 1 < (monthLengths year).length := by
    rw [length_monthLengths]
    omega
  rw [List.getElem?_eq_getElem hbefore, Option.getD_some] at hlength
  have hfits : ((monthLengths year).take (month - 1)).sum + (monthLengths year)[month - 1] ≤ yearLength year := by
    rw [← sum_monthLengths, ← List.sum_take_succ _ _ hbefore]
    exact (List.take_sublist _ _).sum_le_sum fun _ _ => Nat.zero_le _
  have hview : ((newYear year).add (((monthLengths year).take (month - 1)).sum + dayOfMonth - 1)).yearAndPast =
      (year, ((monthLengths year).take (month - 1)).sum + (dayOfMonth - 1)) := by
    refine yearAndPast_eq (by omega) ?_
    simp only [newYear, add]
    omega
  have hinMonth : dayOfMonth - 1 < (monthLengths year)[month - 1] := by omega
  simp only [Day.year, Day.month, Day.dayOfMonth, hview, monthAndDay_eq hbefore hinMonth, true_and]
  omega

/-- A day by the year of its week, the week and the weekday is named so. -/
theorem ofIsoWeek?_eq_some {year : Int} {week weekday : Nat} {day : Day} (hweekday : weekday ≤ 6)
    (h : ofIsoWeek? year week weekday = some day) :
    day.isoYear = year ∧ day.isoWeek = week ∧ day.weekday = weekday := by
  simp only [ofIsoWeek?, checked, Option.ite_none_right_eq_some, Bool.and_eq_true, decide_eq_true_eq,
    Option.some.injEq] at h
  obtain ⟨⟨hweek, hweeks⟩, -, rfl⟩ := h
  set day := (isoNewYear year).add ((week - 1) * 7 + weekday) with hday
  -- The first day of the week year is a Monday, at most three days from the new year.
  have hfirst : (isoNewYear year).number = (newYear year).number + 3 - ((newYear year).number + 6) % 7 := by
    simp only [isoNewYear, add, Day.weekday]
    omega
  have hnext : (isoNewYear (year + 1)).number =
      (newYear (year + 1)).number + 3 - ((newYear (year + 1)).number + 6) % 7 := by
    simp only [isoNewYear, add, Day.weekday]
    omega
  have hnumber : day.number = (isoNewYear year).number + ((week - 1) * 7 + weekday) := rfl
  have hnameday : day.weekday = weekday := by
    simp only [Day.weekday, hnumber]
    omega
  have hthursday : day.thursday.number = (isoNewYear year).number + (week - 1) * 7 + 3 := by
    simp only [thursday, add, hnameday, hnumber]
    omega
  have hsucc := beforeYear_succ year
  have hview : day.thursday.yearAndPast =
      (year, (day.thursday.number - (newYear year).number).toNat) := by
    simp only [newYear] at *
    refine yearAndPast_eq ?_ ?_
    · omega
    · omega
  refine ⟨?_, ?_, hnameday⟩
  · simp only [isoYear, Day.year, hview]
  · simp only [isoWeek, ordinal, hview]
    omega

end ReleasePress.Day
