import ReleasePress.Proofs.Calendar.Day
import ReleasePress.Proofs.Calendar.Fields

/-!
# What fields tell

Fields that were read name a day, a time of day or a moment, and whatever they name they tell truly: each field
that is known is the same field of the day (`InBounds.day?`), of the time of day (`InBounds.clock?`) and of the
moment (`InBounds.moment?`), also where a count of seconds makes good for what is missing (`InBounds.local?`).
All that is needed of the reading is that each number is between its bounds.
-/

namespace ReleasePress

namespace DateFields

variable {fields fields' : DateFields} {n : Int}

/-! ## Telling a day -/

/-- What is known of year, month and day of the month is so on the day. -/
structure TellsMonth (fields : DateFields) (day : Day) : Prop where
  year : ∀ n ∈ fields.year, n = day.year
  century : ∀ n ∈ fields.century, n = day.year / 100
  yearOfCentury : ∀ n ∈ fields.yearOfCentury, n = day.year % 100
  month : ∀ n ∈ fields.month, n = day.month
  dayOfMonth : ∀ n ∈ fields.dayOfMonth, n = day.dayOfMonth

/-- What is known of the week, its year and the weekday is so on the day. -/
structure TellsIsoWeek (fields : DateFields) (day : Day) : Prop where
  isoYear : ∀ n ∈ fields.isoYear, n = day.isoYear
  isoYearOfCentury : ∀ n ∈ fields.isoYearOfCentury, n = day.isoYear % 100
  isoWeek : ∀ n ∈ fields.isoWeek, n = day.isoWeek
  weekday : ∀ n ∈ fields.weekday, n = day.weekday

/-- What is known of the number of the day in the year and of the other week numbers is so on the day. -/
structure TellsOrdinal (fields : DateFields) (day : Day) : Prop where
  ordinal : ∀ n ∈ fields.ordinal, n = day.ordinal
  weekFromSunday : ∀ n ∈ fields.weekFromSunday, n = day.weekFrom 6
  weekFromMonday : ∀ n ∈ fields.weekFromMonday, n = day.weekFrom 0

/-- Each field of a date that is known is the same field of the day. -/
structure TellsDay (fields : DateFields) (day : Day) : Prop
    extends TellsMonth fields day, TellsIsoWeek fields day, TellsOrdinal fields day where
  quarter : ∀ n ∈ fields.quarter, n = day.quarter

theorem TellsDay.of_within {day : Day} (h : fields'.TellsDay day) (hwithin : fields.Within fields') :
    fields.TellsDay day where
  year k hk := h.year k (hwithin.year k hk)
  century k hk := h.century k (hwithin.century k hk)
  yearOfCentury k hk := h.yearOfCentury k (hwithin.yearOfCentury k hk)
  month k hk := h.month k (hwithin.month k hk)
  dayOfMonth k hk := h.dayOfMonth k (hwithin.dayOfMonth k hk)
  isoYear k hk := h.isoYear k (hwithin.isoYear k hk)
  isoYearOfCentury k hk := h.isoYearOfCentury k (hwithin.isoYearOfCentury k hk)
  isoWeek k hk := h.isoWeek k (hwithin.isoWeek k hk)
  weekday k hk := h.weekday k (hwithin.weekday k hk)
  ordinal k hk := h.ordinal k (hwithin.ordinal k hk)
  weekFromSunday k hk := h.weekFromSunday k (hwithin.weekFromSunday k hk)
  weekFromMonday k hk := h.weekFromMonday k (hwithin.weekFromMonday k hk)
  quarter k hk := h.quarter k (hwithin.quarter k hk)

theorem admits_iff {field : Option Int} {value : Int} : admits field value = true ↔ ∀ n ∈ field, n = value := by
  cases field <;> simp [admits]

theorem isNone_iff_forall {field : Option Int} {p : Int → Prop} (h : field.isNone = true) :
    ∀ n ∈ field, p n := by
  rw [Option.isNone_iff_eq_none] at h
  simp [h]

variable {day : Day}

theorem tellsMonth_of_admits (h : fields.admitsMonth day = true) : fields.TellsMonth day := by
  simp only [admitsMonth, admitsCentury, Bool.and_eq_true] at h
  obtain ⟨⟨⟨hyear, hcentury⟩, hmonth⟩, hday⟩ := h
  split at hcentury
  · simp only [Bool.and_eq_true, admits_iff] at *
    exact ⟨hyear, hcentury.1, hcentury.2, hmonth, hday⟩
  · simp only [Bool.and_eq_true, admits_iff] at *
    exact ⟨hyear, isNone_iff_forall hcentury.1, isNone_iff_forall hcentury.2, hmonth, hday⟩

theorem tellsIsoWeek_of_admits (h : fields.admitsIsoWeek day = true) : fields.TellsIsoWeek day := by
  simp only [admitsIsoWeek, Bool.and_eq_true] at h
  obtain ⟨⟨⟨hyear, hofCentury⟩, hweek⟩, hweekday⟩ := h
  split at hofCentury
  · simp only [admits_iff] at *
    exact ⟨hyear, hofCentury, hweek, hweekday⟩
  · simp only [admits_iff] at *
    exact ⟨hyear, isNone_iff_forall hofCentury, hweek, hweekday⟩

theorem tellsOrdinal_of_admits (h : fields.admitsOrdinal day = true) : fields.TellsOrdinal day := by
  simp only [admitsOrdinal, Bool.and_eq_true, admits_iff] at h
  exact ⟨h.1.1, h.1.2, h.2⟩

/-- The year that was put together has each of its parts. -/
theorem wholeYear_eq_ok {year century ofCentury : Option Int} {y : Int}
    (hofCentury : Bounded 0 99 ofCentury) (h : wholeYear year century ofCentury = .ok (some y)) :
    (∀ n ∈ year, n = y) ∧ (∀ n ∈ century, n = y / 100) ∧ ∀ n ∈ ofCentury, n = y % 100 := by
  rw [wholeYear.eq_def] at h
  split at h
  · cases h
    simp
  · split at h
    · cases h
    · split at h
      · next hagree =>
          cases h
          simp only [Bool.and_eq_true, decide_eq_true_eq] at hagree
          refine ⟨by simp, ?_, ?_⟩
          · rintro n ⟨⟩
            exact hagree.1
          · rintro n ⟨⟩
            exact hagree.2
      · cases h
  · next century r =>
      simp only at h
      split at h
      · cases h
        obtain ⟨hlow, hhigh⟩ := hofCentury r rfl
        simp
        omega
      · cases h
  · next r =>
      cases h
      obtain ⟨hlow, hhigh⟩ := hofCentury r rfl
      simp
      split <;> omega
  · cases h

theorem verified_eq_ok {ok : Day → Bool} {search : Except DateFault Day}
    (h : verified ok fields search = .ok day) :
    search = .ok day ∧ ok day = true ∧ ∀ n ∈ fields.quarter, n = day.quarter := by
  rw [verified.eq_def] at h
  split at h
  · cases h
  · split at h
    · next hok =>
        cases h
        rw [Bool.and_eq_true, admits_iff] at hok
        exact ⟨rfl, hok⟩
    · cases h

theorem found_eq_ok {search : Option Day} (h : found search = .ok day) : search = some day := by
  cases search with
  | none => cases h
  | some day =>
      cases h
      rfl

theorem tellsDay_of_byWeeks
    (h : (fields.admitsMonth day && fields.admitsIsoWeek day && fields.admitsOrdinal day) = true)
    (hquarter : ∀ n ∈ fields.quarter, n = day.quarter) : fields.TellsDay day := by
  simp only [Bool.and_eq_true] at h
  exact {
    toTellsMonth := tellsMonth_of_admits h.1.1
    toTellsIsoWeek := tellsIsoWeek_of_admits h.1.2
    toTellsOrdinal := tellsOrdinal_of_admits h.2
    quarter := hquarter }

/-- A day that was found by year, month and day of the month has these. -/
theorem InBounds.tellsMonth (h : fields.InBounds) {y m d : Int}
    (hyear : wholeYear fields.year fields.century fields.yearOfCentury = .ok (some y))
    (hmonth : fields.month = some m) (hdayOfMonth : fields.dayOfMonth = some d)
    (hday : Day.ofMonth? y m.toNat d.toNat = some day) : fields.TellsMonth day := by
  obtain ⟨hyear, hcentury, hofCentury⟩ := wholeYear_eq_ok h.yearOfCentury hyear
  obtain ⟨rfl, hm, hd⟩ := Day.ofMonth?_eq_some hday
  obtain ⟨hmonthLow, -⟩ := h.month m hmonth
  obtain ⟨hdayLow, -⟩ := h.dayOfMonth d hdayOfMonth
  refine ⟨hyear, hcentury, hofCentury, ?_, ?_⟩
  · rw [hmonth, hm]
    rintro _ ⟨⟩
    omega
  · rw [hdayOfMonth, hd]
    rintro _ ⟨⟩
    omega

/-- A day that was found by week and weekday has these. -/
theorem InBounds.tellsIsoWeek (h : fields.InBounds) {y week weekday : Int}
    (hyear : wholeYear fields.isoYear none fields.isoYearOfCentury = .ok (some y))
    (hweek : fields.isoWeek = some week) (hweekday : fields.weekday = some weekday)
    (hday : Day.ofIsoWeek? y week.toNat weekday.toNat = some day) : fields.TellsIsoWeek day := by
  obtain ⟨hyear, -, hofCentury⟩ := wholeYear_eq_ok h.isoYearOfCentury hyear
  obtain ⟨hweekLow, -⟩ := h.isoWeek week hweek
  obtain ⟨hweekdayLow, hweekdayHigh⟩ := h.weekday weekday hweekday
  obtain ⟨rfl, hw, hwd⟩ := Day.ofIsoWeek?_eq_some (by omega) hday
  refine ⟨hyear, hofCentury, ?_, ?_⟩
  · rw [hweek, hw]
    rintro _ ⟨⟩
    omega
  · rw [hweekday, hwd]
    rintro _ ⟨⟩
    omega

/-- The day that fields name has each of them, whether it was found by it or checked against it. -/
theorem InBounds.day? (h : fields.InBounds) (hday : fields.day? = .ok day) : fields.TellsDay day := by
  rw [DateFields.day?.eq_def] at hday
  split at hday
  · cases hday
  next year hyear =>
  split at hday
  · cases hday
  next isoYear hisoYear =>
  simp only at hday
  split at hday
  · next y m d hmonth hdayOfMonth =>
      obtain ⟨hfound, hok, hquarter⟩ := verified_eq_ok hday
      rw [Bool.and_eq_true] at hok
      exact {
        toTellsMonth := h.tellsMonth hyear hmonth hdayOfMonth (found_eq_ok hfound)
        toTellsIsoWeek := tellsIsoWeek_of_admits hok.1
        toTellsOrdinal := tellsOrdinal_of_admits hok.2
        quarter := hquarter }
  · obtain ⟨-, hok, hquarter⟩ := verified_eq_ok hday
    exact tellsDay_of_byWeeks hok hquarter
  · obtain ⟨-, hok, hquarter⟩ := verified_eq_ok hday
    exact tellsDay_of_byWeeks hok hquarter
  · obtain ⟨-, hok, hquarter⟩ := verified_eq_ok hday
    exact tellsDay_of_byWeeks hok hquarter
  · next weekday y week hweekday hweek _ _ _ _ =>
      obtain ⟨hfound, hok, hquarter⟩ := verified_eq_ok hday
      rw [Bool.and_eq_true] at hok
      exact {
        toTellsMonth := tellsMonth_of_admits hok.1
        toTellsIsoWeek := h.tellsIsoWeek hisoYear hweek hweekday (found_eq_ok hfound)
        toTellsOrdinal := tellsOrdinal_of_admits hok.2
        quarter := hquarter }
  · cases hday

/-! ## Telling a time of day -/

/-- What is known of hour, minute and second is so on the clock. -/
structure TellsClock (fields : DateFields) (hour minute second : Nat) : Prop where
  half : ∀ n ∈ fields.half, n = hour / 12
  hourOfHalf : ∀ n ∈ fields.hourOfHalf, n = hour % 12
  minute : ∀ n ∈ fields.minute, n = minute
  second : ∀ n ∈ fields.second, n = second

/-- What the clock shows at a second of the day with nanoseconds, which count a leap second. -/
structure TellsTime (fields : DateFields) (second nanos : Nat) : Prop where
  second_lt : second < 86400
  nanos_lt : nanos < 2 * Moment.nanosPerSecond
  leap : Moment.nanosPerSecond ≤ nanos → second % 60 = 59
  tells : fields.TellsClock (second / 3600) (second / 60 % 60) (second % 60 + nanos / Moment.nanosPerSecond)

theorem TellsTime.of_within {second nanos : Nat} (h : fields'.TellsTime second nanos)
    (hwithin : fields.Within fields') : fields.TellsTime second nanos :=
  { h with
    tells := {
      half := fun k hk => h.tells.half k (hwithin.half k hk)
      hourOfHalf := fun k hk => h.tells.hourOfHalf k (hwithin.hourOfHalf k hk)
      minute := fun k hk => h.tells.minute k (hwithin.minute k hk)
      second := fun k hk => h.tells.second k (hwithin.second k hk) } }

/-- The minutes since midnight that half, hour and minute name. -/
theorem InBounds.tellsClock (h : fields.InBounds) {half hour minute : Int} (hhalf : fields.half = some half)
    (hhour : fields.hourOfHalf = some hour) (hminute : fields.minute = some minute) {second shown : Nat}
    (hminutes : ((second / 60 : Nat) : Int) = (half * 12 + hour) * 60 + minute)
    (hshown : ∀ n ∈ fields.second, n = shown) :
    fields.TellsClock (second / 3600) (second / 60 % 60) shown := by
  obtain ⟨hhalfLow, hhalfHigh⟩ := h.half half hhalf
  obtain ⟨hhourLow, hhourHigh⟩ := h.hourOfHalf hour hhour
  obtain ⟨hminuteLow, hminuteHigh⟩ := h.minute minute hminute
  refine ⟨?_, ?_, ?_, hshown⟩
  · rw [hhalf]
    rintro _ ⟨⟩
    omega
  · rw [hhour]
    rintro _ ⟨⟩
    omega
  · rw [hminute]
    rintro _ ⟨⟩
    omega

/-- The time of day that fields name has hour, minute and second, of which the second may be left out.  In a leap
second the second of the day is the last of its minute, and only there does the fraction reach a full second. -/
theorem InBounds.clock? (h : fields.InBounds) {second nanos : Nat}
    (hclock : fields.clock? = .ok (second, nanos)) : fields.TellsTime second nanos := by
  rw [DateFields.clock?] at hclock
  split at hclock
  · next half hour minute hhalf hhour hminute =>
      obtain ⟨hhalfLow, hhalfHigh⟩ := h.half half hhalf
      obtain ⟨hhourLow, hhourHigh⟩ := h.hourOfHalf hour hhour
      obtain ⟨hminuteLow, hminuteHigh⟩ := h.minute minute hminute
      have hsecond : 0 ≤ fields.second.getD 0 ∧ fields.second.getD 0 ≤ 60 := by
        cases hn : fields.second with
        | none => decide
        | some n => exact h.second n hn
      have hfraction : (fields.nanosecond.getD 0).toNat < Moment.nanosPerSecond := by
        cases hn : fields.nanosecond with
        | none => decide
        | some n =>
            have hbounds := h.nanosecond n hn
            simp only [Option.getD_some, Moment.nanosPerSecond]
            omega
      have hknown (n : Int) (hn : n ∈ fields.second) : fields.second.getD 0 = n := by
        rw [Option.mem_def.1 hn, Option.getD_some]
      simp only at hclock
      split at hclock
      · cases hclock
      · split at hclock
        · next h60 =>
            obtain ⟨hday, hnanos⟩ : _ = second ∧ _ = nanos := by simpa using hclock
            have hfull : nanos / Moment.nanosPerSecond = 1 := by
              simp only [Moment.nanosPerSecond] at *
              omega
            refine ⟨by omega, by omega, fun _ => by omega, ?_⟩
            refine h.tellsClock hhalf hhour hminute (by omega) fun n hn => ?_
            rw [← hknown n hn, h60, hfull]
            omega
        · next hne =>
            obtain ⟨hday, rfl⟩ : _ = second ∧ _ = nanos := by simpa using hclock
            have hnone : (fields.nanosecond.getD 0).toNat / Moment.nanosPerSecond = 0 :=
              Nat.div_eq_of_lt hfraction
            refine ⟨by omega, by omega, fun hle => by omega, ?_⟩
            refine h.tellsClock hhalf hhour hminute (by omega) fun n hn => ?_
            rw [hnone, ← hknown n hn]
            omega
  · cases hclock

/-! ## Telling a local time -/

/-- The day and the time of day of fields that a moment makes good for, except for its second. -/
def completedBy (m : Moment) (fields : DateFields) : Option (Day × Nat × Nat) := do
  let fields ← fields.set m.localDay.year .year
  let fields ← fields.set m.localDay.ordinal .ordinal
  let fields ← fields.set m.hour .hour
  let fields ← fields.set m.minute .minute
  match fields.day?, fields.clock? with
  | .ok day, .ok (second, nanos) => some (day, second, nanos)
  | _, _ => none

/-- A count of seconds makes good for the second first, unless that is a leap second. -/
theorem fromTimestamp_eq_some {seconds : Int} {told : Day × Nat × Nat}
    (h : fields.fromTimestamp seconds = some told) :
    ∃ m timed, (timed = fields ∨ fields.set m.second .second = some timed) ∧ timed.completedBy m = some told := by
  simp only [fromTimestamp, Option.bind_eq_bind, Option.bind_eq_some_iff] at h
  obtain ⟨m, -, h⟩ := h
  split at h
  · split at h
    · exact ⟨m, fields, .inl rfl, h⟩
    · split at h
      · exact ⟨_, fields, .inl rfl, h⟩
      · cases h
  · rw [Option.bind_some] at h
    obtain ⟨timed, hset, h⟩ := Option.bind_eq_some_iff.1 h
    exact ⟨m, timed, .inr hset, h⟩

/-- What a moment makes good for stands beside the fields that were known before. -/
theorem InBounds.completedBy (h : fields.InBounds) {m : Moment} {second nanos : Nat}
    (htold : fields.completedBy m = some (day, second, nanos)) :
    fields.TellsDay day ∧ fields.TellsTime second nanos := by
  simp only [DateFields.completedBy, Option.bind_eq_bind, Option.bind_eq_some_iff] at htold
  obtain ⟨dated, hyear, numbered, hordinal, timed, hhour, completed, hminute, htold⟩ := htold
  have hbounds := (((h.set hyear).set hordinal).set hhour).set hminute
  have hdated := (within_of_set hyear).trans (within_of_set hordinal)
  have hwithin := (hdated.trans (within_of_set hhour)).trans (within_of_set hminute)
  split at htold
  · next hday hclock =>
      cases htold
      exact ⟨(hbounds.day? hday).of_within hwithin, (hbounds.clock? hclock).of_within hwithin⟩
  · cases htold

theorem InBounds.fromTimestamp (h : fields.InBounds) {seconds : Int} {second nanos : Nat}
    (htold : fields.fromTimestamp seconds = some (day, second, nanos)) :
    fields.TellsDay day ∧ fields.TellsTime second nanos := by
  obtain ⟨m, timed, htimed, hcompleted⟩ := fromTimestamp_eq_some htold
  rcases htimed with rfl | hset
  · exact h.completedBy hcompleted
  · obtain ⟨hday, htime⟩ := (h.set hset).completedBy hcompleted
    exact ⟨hday.of_within (within_of_set hset), htime.of_within (within_of_set hset)⟩

/-- The local time that fields name has each of them. -/
theorem InBounds.local? (h : fields.InBounds) {offset : Int} {second nanos : Nat}
    (hlocal : fields.local? offset = some (day, second, nanos)) :
    fields.TellsDay day ∧ fields.TellsTime second nanos := by
  rw [DateFields.local?] at hlocal
  split at hlocal
  · next found since part hday hclock =>
      obtain ⟨rfl, rfl, rfl⟩ : found = day ∧ since = second ∧ part = nanos := by
        split at hlocal
        · simpa using hlocal
        · simp only [Option.ite_none_right_eq_some] at hlocal
          simpa using hlocal.2
      exact ⟨h.day? hday, h.clock? hclock⟩
  · split at hlocal
    · exact h.fromTimestamp hlocal
    · cases hlocal

/-! ## Telling a moment -/

/-- The offset, if it is known, is this one. -/
def TellsOffset (fields : DateFields) (offset : Int) : Prop :=
  ∀ n ∈ fields.offset, n = offset

end DateFields

/-- A clock shows a moment of a day and a second of the day on that day and at that second. -/
theorem Moment.ofLocal?_eq_some {day : Day} {second nanos : Nat} {offset : Int} {m : Moment}
    (hsecond : second < 86400) (h : ofLocal? day second nanos offset = some m) :
    m.localDay = day ∧ m.secondOfDay = second ∧ m.nanos = nanos ∧ m.offset = offset := by
  simp only [ofLocal?, checked, Option.ite_none_right_eq_some, Option.some.injEq] at h
  obtain ⟨-, rfl⟩ := h
  refine ⟨?_, ?_, rfl, rfl⟩
  · obtain ⟨number⟩ := day
    simp only [localDay, localSeconds, Day.mk.injEq]
    omega
  · simp only [secondOfDay, localSeconds]
    omega

namespace DateFields

variable {fields : DateFields} {m : Moment} {day : Day} {second nanos : Nat} {offset : Int}

theorem TellsTime.ofLocal? (h : fields.TellsTime second nanos)
    (hm : Moment.ofLocal? day second nanos offset = some m) :
    fields.TellsClock m.hour m.minute m.second := by
  obtain ⟨-, rfl, rfl, -⟩ := Moment.ofLocal?_eq_some h.second_lt hm
  exact h.tells

/-- Fields name a moment by their local time on the clock with their offset, or with offset zero if a count of
seconds stands alone. -/
theorem moment?_eq_some (h : fields.moment? = some m) :
    m.offset = fields.offset.getD 0 ∧ m.offset.natAbs < 86400 ∧
      ∃ day second nanos, fields.local? m.offset = some (day, second, nanos) ∧
        Moment.ofLocal? day second nanos m.offset = some m := by
  obtain ⟨offset, hoffset, h⟩ : ∃ offset, offset = fields.offset.getD 0 ∧
      ((fields.local? offset).bind fun told =>
        if offset.natAbs < 86400 then Moment.ofLocal? told.1 told.2.1 told.2.2 offset else none) = some m := by
    rw [moment?.eq_def] at h
    simp only [Option.bind_eq_bind] at h
    split at h
    · next offset hoffset => exact ⟨offset, by rw [hoffset, Option.getD_some], h⟩
    · next hoffset _ => exact ⟨0, by rw [hoffset, Option.getD_none], h⟩
    · cases h
  obtain ⟨⟨day, second, nanos⟩, hlocal, h⟩ := Option.bind_eq_some_iff.1 h
  obtain ⟨hlt, h⟩ := Option.ite_none_right_eq_some.1 h
  obtain rfl : m.offset = offset := by
    simp only [Moment.ofLocal?, Moment.checked, Option.ite_none_right_eq_some, Option.some.injEq] at h
    rw [← h.2]
  exact ⟨hoffset, hlt, day, second, nanos, hlocal, h⟩

/-- The moment that fields name has each of them: its day and its time of day on its own clock, and the offset of
that clock. -/
theorem InBounds.moment? (h : fields.InBounds) (hm : fields.moment? = some m) :
    fields.TellsDay m.localDay ∧ fields.TellsClock m.hour m.minute m.second ∧ fields.TellsOffset m.offset := by
  obtain ⟨hoffset, -, day, second, nanos, hlocal, hm⟩ := moment?_eq_some hm
  obtain ⟨hday, htime⟩ := h.local? hlocal
  obtain ⟨rfl, -⟩ := Moment.ofLocal?_eq_some htime.second_lt hm
  refine ⟨hday, htime.ofLocal? hm, fun n hn => ?_⟩
  rw [hoffset, Option.mem_def.1 hn, Option.getD_some]

end DateFields

end ReleasePress
