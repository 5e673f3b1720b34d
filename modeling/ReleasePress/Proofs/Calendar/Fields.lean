import Mathlib.Tactic.Common
import ReleasePress.Calendar.Pattern.Reader

/-!
# Setting fields

A reader of dates sets one field at a time, and all that can happen then is told here once: the value lies between
the bounds of its field (`InBounds.set`), it is among the fields afterwards (`has_of_set`), and nothing that was
known is dropped for it (`within_of_set`), since a field that is known must have the value already.
-/

namespace ReleasePress

namespace DateFields

/-! ## Setting a field -/

theorem agree_eq_some {old new : Option Int} {value : Int} (h : agree old value = some new) :
    new = some value := by
  cases old with
  | none => simpa [agree] using h.symm
  | some old =>
      simp only [agree, Option.ite_none_right_eq_some, Option.some.injEq] at h
      rw [← h.2, h.1]

theorem between_eq_some {low high n m : Int} (h : between low high n = some m) :
    m = n ∧ low ≤ n ∧ n ≤ high := by
  simp only [between, Option.ite_none_right_eq_some, Bool.and_eq_true, decide_eq_true_eq,
    Option.some.injEq] at h
  exact ⟨h.2.symm, h.1⟩

/-- A field whose value, if it is known, lies between two bounds. -/
def Bounded (low high : Int) (field : Option Int) : Prop :=
  ∀ n ∈ field, low ≤ n ∧ n ≤ high

theorem bounded_none (low high : Int) : Bounded low high none := by
  rintro n ⟨⟩

theorem bounded_some {low high n : Int} (hlow : low ≤ n) (hhigh : n ≤ high) : Bounded low high (some n) := by
  rintro _ ⟨⟩
  exact ⟨hlow, hhigh⟩

theorem bounded_of_agree {low high n m : Int} {old new : Option Int} (hm : between low high n = some m)
    (hnew : agree old m = some new) : Bounded low high new := by
  obtain rfl := agree_eq_some hnew
  obtain ⟨rfl, hlow, hhigh⟩ := between_eq_some hm
  exact bounded_some hlow hhigh

/-- Fields as reading leaves them: each number is between the bounds of its field.  Years, counts of seconds and
offsets have bounds of no consequence, and so have those fields that every day is checked against. -/
structure InBounds (fields : DateFields) : Prop where
  century : Bounded 0 2147483647 fields.century
  yearOfCentury : Bounded 0 99 fields.yearOfCentury
  isoYearOfCentury : Bounded 0 99 fields.isoYearOfCentury
  month : Bounded 1 12 fields.month
  isoWeek : Bounded 1 53 fields.isoWeek
  weekday : Bounded 0 6 fields.weekday
  dayOfMonth : Bounded 1 31 fields.dayOfMonth
  half : Bounded 0 1 fields.half
  hourOfHalf : Bounded 0 11 fields.hourOfHalf
  minute : Bounded 0 59 fields.minute
  second : Bounded 0 60 fields.second
  nanosecond : Bounded 0 999999999 fields.nanosecond

theorem inBounds_empty : InBounds {} := by
  constructor <;> exact bounded_none _ _

variable {fields fields' : DateFields} {n : Int} {number : DateNumber}

theorem InBounds.setHour (h : fields.InBounds) (hset : setHour n fields = some fields') :
    fields'.InBounds := by
  simp only [DateFields.setHour, Option.bind_eq_bind, Option.bind_eq_some_iff, Option.some.injEq] at hset
  obtain ⟨m, hm, half, hhalf, hour, hhour, rfl⟩ := hset
  obtain ⟨rfl, hlow, hhigh⟩ := between_eq_some hm
  obtain rfl := agree_eq_some hhalf
  obtain rfl := agree_eq_some hhour
  exact { h with half := bounded_some (by omega) (by omega), hourOfHalf := bounded_some (by omega) (by omega) }

/-- Each number is set to a value between the bounds of its field. -/
theorem InBounds.set (h : fields.InBounds) (hset : fields.set n number = some fields') :
    fields'.InBounds := by
  cases number with
  | hour => exact h.setHour hset
  | timestamp =>
      simp only [DateFields.set, Option.bind_eq_bind, Option.bind_eq_some_iff, Option.some.injEq] at hset
      obtain ⟨_, _, rfl⟩ := hset
      exact { h with }
  | hour12 =>
      simp only [DateFields.set, Option.bind_eq_bind, Option.bind_eq_some_iff, Option.some.injEq] at hset
      obtain ⟨m, hm, hour, hhour, rfl⟩ := hset
      obtain rfl := agree_eq_some hhour
      exact { h with hourOfHalf := bounded_some (by omega) (by omega) }
  | weekdayFromSunday | weekdayFromMonday =>
      simp only [DateFields.set, Option.bind_eq_bind, Option.bind_eq_some_iff, Option.some.injEq] at hset
      obtain ⟨m, hm, weekday, hweekday, rfl⟩ := hset
      obtain rfl := agree_eq_some hweekday
      obtain ⟨rfl, hlow, hhigh⟩ := between_eq_some hm
      exact { h with weekday := bounded_some (by omega) (by omega) }
  | _ =>
      simp only [DateFields.set, Option.bind_eq_bind, Option.bind_eq_some_iff, Option.some.injEq] at hset
      obtain ⟨m, hm, new, hnew, rfl⟩ := hset
      -- The field that was set is within the bounds it was checked against, and the others are as before.
      constructor <;> first | exact bounded_of_agree hm hnew | (cases h; assumption)

theorem InBounds.setOffset (h : fields.InBounds) (hset : setOffset n fields = some fields') :
    fields'.InBounds := by
  simp only [DateFields.setOffset, Option.bind_eq_bind, Option.bind_eq_some_iff, Option.some.injEq] at hset
  obtain ⟨_, _, rfl⟩ := hset
  exact { h with }

theorem InBounds.setHalf (h : fields.InBounds) (hlow : 0 ≤ n) (hhigh : n ≤ 1)
    (hset : setHalf n fields = some fields') : fields'.InBounds := by
  simp only [DateFields.setHalf, Option.bind_eq_bind, Option.bind_eq_some_iff, Option.some.injEq] at hset
  obtain ⟨_, hnew, rfl⟩ := hset
  obtain rfl := agree_eq_some hnew
  exact { h with half := bounded_some hlow hhigh }

theorem InBounds.setWeekday (h : fields.InBounds) (hlow : 0 ≤ n) (hhigh : n ≤ 6)
    (hset : setWeekday n fields = some fields') : fields'.InBounds := by
  simp only [DateFields.setWeekday, Option.bind_eq_bind, Option.bind_eq_some_iff, Option.some.injEq] at hset
  obtain ⟨_, hnew, rfl⟩ := hset
  obtain rfl := agree_eq_some hnew
  exact { h with weekday := bounded_some hlow hhigh }

/-! ## What stays known -/

/-- A field that is known keeps its value. -/
def Stays (old new : Option Int) : Prop :=
  ∀ n ∈ old, n ∈ new

theorem Stays.refl (field : Option Int) : Stays field field := fun _ hn => hn

theorem Stays.trans {first second third : Option Int} (h : Stays first second) (h' : Stays second third) :
    Stays first third := fun n hn => h' n (h n hn)

theorem stays_of_agree {old new : Option Int} {value : Int} (h : agree old value = some new) : Stays old new := by
  rintro n ⟨⟩
  simp only [agree, Option.ite_none_right_eq_some, Option.some.injEq] at h
  exact h.2.symm

/-- What is known in the first fields is known in the second ones as well. -/
structure Within (fields fields' : DateFields) : Prop where
  year : Stays fields.year fields'.year
  century : Stays fields.century fields'.century
  yearOfCentury : Stays fields.yearOfCentury fields'.yearOfCentury
  isoYear : Stays fields.isoYear fields'.isoYear
  isoYearOfCentury : Stays fields.isoYearOfCentury fields'.isoYearOfCentury
  quarter : Stays fields.quarter fields'.quarter
  month : Stays fields.month fields'.month
  weekFromSunday : Stays fields.weekFromSunday fields'.weekFromSunday
  weekFromMonday : Stays fields.weekFromMonday fields'.weekFromMonday
  isoWeek : Stays fields.isoWeek fields'.isoWeek
  weekday : Stays fields.weekday fields'.weekday
  ordinal : Stays fields.ordinal fields'.ordinal
  dayOfMonth : Stays fields.dayOfMonth fields'.dayOfMonth
  half : Stays fields.half fields'.half
  hourOfHalf : Stays fields.hourOfHalf fields'.hourOfHalf
  minute : Stays fields.minute fields'.minute
  second : Stays fields.second fields'.second
  nanosecond : Stays fields.nanosecond fields'.nanosecond
  timestamp : Stays fields.timestamp fields'.timestamp
  offset : Stays fields.offset fields'.offset

theorem Within.refl (fields : DateFields) : fields.Within fields := by
  constructor <;> exact Stays.refl _

theorem Within.trans {fields'' : DateFields} (h : fields.Within fields') (h' : fields'.Within fields'') :
    fields.Within fields'' where
  year := h.year.trans h'.year
  century := h.century.trans h'.century
  yearOfCentury := h.yearOfCentury.trans h'.yearOfCentury
  isoYear := h.isoYear.trans h'.isoYear
  isoYearOfCentury := h.isoYearOfCentury.trans h'.isoYearOfCentury
  quarter := h.quarter.trans h'.quarter
  month := h.month.trans h'.month
  weekFromSunday := h.weekFromSunday.trans h'.weekFromSunday
  weekFromMonday := h.weekFromMonday.trans h'.weekFromMonday
  isoWeek := h.isoWeek.trans h'.isoWeek
  weekday := h.weekday.trans h'.weekday
  ordinal := h.ordinal.trans h'.ordinal
  dayOfMonth := h.dayOfMonth.trans h'.dayOfMonth
  half := h.half.trans h'.half
  hourOfHalf := h.hourOfHalf.trans h'.hourOfHalf
  minute := h.minute.trans h'.minute
  second := h.second.trans h'.second
  nanosecond := h.nanosecond.trans h'.nanosecond
  timestamp := h.timestamp.trans h'.timestamp
  offset := h.offset.trans h'.offset

/-- Setting a number drops nothing: a field that is known must have the value already. -/
theorem within_of_set (hset : fields.set n number = some fields') : fields.Within fields' := by
  cases number with
  | hour =>
      simp only [DateFields.set, DateFields.setHour, Option.bind_eq_bind, Option.bind_eq_some_iff,
        Option.some.injEq] at hset
      obtain ⟨_, -, half, hhalf, hour, hhour, rfl⟩ := hset
      exact { Within.refl fields with
        half := stays_of_agree hhalf
        hourOfHalf := stays_of_agree hhour }
  | timestamp =>
      simp only [DateFields.set, Option.bind_eq_bind, Option.bind_eq_some_iff, Option.some.injEq] at hset
      obtain ⟨new, hnew, rfl⟩ := hset
      exact { Within.refl fields with timestamp := stays_of_agree hnew }
  | _ =>
      simp only [DateFields.set, Option.bind_eq_bind, Option.bind_eq_some_iff, Option.some.injEq] at hset
      obtain ⟨m, -, new, hnew, rfl⟩ := hset
      constructor <;> first | exact Stays.refl _ | exact stays_of_agree hnew

theorem within_of_setOffset (hset : setOffset n fields = some fields') : fields.Within fields' := by
  simp only [DateFields.setOffset, Option.bind_eq_bind, Option.bind_eq_some_iff, Option.some.injEq] at hset
  obtain ⟨new, hnew, rfl⟩ := hset
  exact { Within.refl fields with offset := stays_of_agree hnew }

theorem within_of_setHalf (hset : setHalf n fields = some fields') : fields.Within fields' := by
  simp only [DateFields.setHalf, Option.bind_eq_bind, Option.bind_eq_some_iff, Option.some.injEq] at hset
  obtain ⟨new, hnew, rfl⟩ := hset
  exact { Within.refl fields with half := stays_of_agree hnew }

theorem within_of_setWeekday (hset : setWeekday n fields = some fields') : fields.Within fields' := by
  simp only [DateFields.setWeekday, Option.bind_eq_bind, Option.bind_eq_some_iff, Option.some.injEq] at hset
  obtain ⟨new, hnew, rfl⟩ := hset
  exact { Within.refl fields with weekday := stays_of_agree hnew }

/-! ## What may be set -/

theorem Within.empty (fields : DateFields) : ({} : DateFields).Within fields := by
  constructor <;> rintro n ⟨⟩

/-- What may be set beside more fields may be set beside fewer. -/
theorem agree_of_stays {fewer more new : Option Int} {n : Int} (h : Stays fewer more)
    (hagree : agree more n = some new) : agree fewer n = some (some n) := by
  cases fewer with
  | none => rfl
  | some k =>
      obtain rfl : more = some k := h k rfl
      simp only [agree, Option.ite_none_right_eq_some] at hagree ⊢
      exact ⟨hagree.1, by rw [hagree.1]⟩

variable {fewer : DateFields}

/-- Setting keeps fewer fields within more. -/
theorem Within.set (h : fewer.Within fields) {number : DateNumber} (hset : fields.set n number = some fields') :
    ∃ fewer', fewer.set n number = some fewer' ∧ fewer'.Within fields' := by
  cases number with
  | hour =>
      simp only [DateFields.set, DateFields.setHour, Option.bind_eq_bind, Option.bind_eq_some_iff,
        Option.some.injEq] at hset ⊢
      obtain ⟨m, hm, half, hhalf, hour, hhour, rfl⟩ := hset
      obtain rfl := agree_eq_some hhalf
      obtain rfl := agree_eq_some hhour
      exact ⟨_, ⟨m, hm, _, agree_of_stays h.half hhalf, _, agree_of_stays h.hourOfHalf hhour, rfl⟩,
        { h with half := Stays.refl _, hourOfHalf := Stays.refl _ }⟩
  | timestamp =>
      simp only [DateFields.set, Option.bind_eq_bind, Option.bind_eq_some_iff, Option.some.injEq] at hset ⊢
      obtain ⟨new, hnew, rfl⟩ := hset
      obtain rfl := agree_eq_some hnew
      exact ⟨_, ⟨_, agree_of_stays h.timestamp hnew, rfl⟩, { h with timestamp := Stays.refl _ }⟩
  | _ =>
      simp only [DateFields.set, Option.bind_eq_bind, Option.bind_eq_some_iff, Option.some.injEq] at hset ⊢
      obtain ⟨m, hm, new, hnew, rfl⟩ := hset
      obtain rfl := agree_eq_some hnew
      cases h
      refine ⟨_, ⟨m, hm, _, agree_of_stays (by assumption) hnew, rfl⟩, ?_⟩
      constructor <;> first | assumption | exact Stays.refl _
theorem Within.setOffset (h : fewer.Within fields) (hset : DateFields.setOffset n fields = some fields') :
    ∃ fewer', DateFields.setOffset n fewer = some fewer' ∧ fewer'.Within fields' := by
  simp only [DateFields.setOffset, Option.bind_eq_bind, Option.bind_eq_some_iff, Option.some.injEq] at hset ⊢
  obtain ⟨new, hnew, rfl⟩ := hset
  obtain rfl := agree_eq_some hnew
  exact ⟨_, ⟨_, agree_of_stays h.offset hnew, rfl⟩, { h with offset := Stays.refl _ }⟩

theorem Within.setHalf (h : fewer.Within fields) (hset : DateFields.setHalf n fields = some fields') :
    ∃ fewer', DateFields.setHalf n fewer = some fewer' ∧ fewer'.Within fields' := by
  simp only [DateFields.setHalf, Option.bind_eq_bind, Option.bind_eq_some_iff, Option.some.injEq] at hset ⊢
  obtain ⟨new, hnew, rfl⟩ := hset
  obtain rfl := agree_eq_some hnew
  exact ⟨_, ⟨_, agree_of_stays h.half hnew, rfl⟩, { h with half := Stays.refl _ }⟩

theorem Within.setWeekday (h : fewer.Within fields) (hset : DateFields.setWeekday n fields = some fields') :
    ∃ fewer', DateFields.setWeekday n fewer = some fewer' ∧ fewer'.Within fields' := by
  simp only [DateFields.setWeekday, Option.bind_eq_bind, Option.bind_eq_some_iff, Option.some.injEq] at hset ⊢
  obtain ⟨new, hnew, rfl⟩ := hset
  obtain rfl := agree_eq_some hnew
  exact ⟨_, ⟨_, agree_of_stays h.weekday hnew, rfl⟩, { h with weekday := Stays.refl _ }⟩

/-! ## Numbers among the fields -/

/-- The field of a number has the value that stands for it.  Weekdays are counted from Monday, and hours are kept
as half of the day and hour of the half. -/
def Has (fields : DateFields) (n : Int) : DateNumber → Prop
  | .year => n ∈ fields.year
  | .century => n ∈ fields.century
  | .yearOfCentury => n ∈ fields.yearOfCentury
  | .isoYear => n ∈ fields.isoYear
  | .isoYearOfCentury => n ∈ fields.isoYearOfCentury
  | .quarter => n ∈ fields.quarter
  | .month => n ∈ fields.month
  | .dayOfMonth => n ∈ fields.dayOfMonth
  | .weekFromSunday => n ∈ fields.weekFromSunday
  | .weekFromMonday => n ∈ fields.weekFromMonday
  | .isoWeek => n ∈ fields.isoWeek
  | .weekdayFromSunday => (0 ≤ n ∧ n ≤ 6) ∧ (n + 6) % 7 ∈ fields.weekday
  | .weekdayFromMonday => n - 1 ∈ fields.weekday
  | .ordinal => n ∈ fields.ordinal
  | .hour => n / 12 ∈ fields.half ∧ n % 12 ∈ fields.hourOfHalf
  | .hour12 => (1 ≤ n ∧ n ≤ 12) ∧ n % 12 ∈ fields.hourOfHalf
  | .minute => n ∈ fields.minute
  | .second => n ∈ fields.second
  | .nanosecond => n ∈ fields.nanosecond
  | .timestamp => n ∈ fields.timestamp

/-- A number that was set is among the fields. -/
theorem has_of_set (hset : fields.set n number = some fields') : fields'.Has n number := by
  cases number with
  | hour =>
      simp only [DateFields.set, DateFields.setHour, Option.bind_eq_bind, Option.bind_eq_some_iff,
        Option.some.injEq] at hset
      obtain ⟨m, hm, half, hhalf, hour, hhour, rfl⟩ := hset
      obtain ⟨rfl, -⟩ := between_eq_some hm
      exact ⟨agree_eq_some hhalf, agree_eq_some hhour⟩
  | timestamp =>
      simp only [DateFields.set, Option.bind_eq_bind, Option.bind_eq_some_iff, Option.some.injEq] at hset
      obtain ⟨new, hnew, rfl⟩ := hset
      exact agree_eq_some hnew
  | hour12 | weekdayFromSunday =>
      simp only [DateFields.set, Option.bind_eq_bind, Option.bind_eq_some_iff, Option.some.injEq] at hset
      obtain ⟨m, hm, new, hnew, rfl⟩ := hset
      obtain ⟨rfl, hbounds⟩ := between_eq_some hm
      exact ⟨hbounds, agree_eq_some hnew⟩
  | _ =>
      simp only [DateFields.set, Option.bind_eq_bind, Option.bind_eq_some_iff, Option.some.injEq] at hset
      obtain ⟨m, hm, new, hnew, rfl⟩ := hset
      obtain ⟨rfl, -⟩ := between_eq_some hm
      exact agree_eq_some hnew

theorem Has.of_within (h : fields.Has n number) (hwithin : fields.Within fields') : fields'.Has n number := by
  cases number with
  | weekdayFromSunday => exact ⟨h.1, hwithin.weekday _ h.2⟩
  | weekdayFromMonday => exact hwithin.weekday _ h
  | hour => exact ⟨hwithin.half _ h.1, hwithin.hourOfHalf _ h.2⟩
  | hour12 => exact ⟨h.1, hwithin.hourOfHalf _ h.2⟩
  | year => exact hwithin.year n h
  | century => exact hwithin.century n h
  | yearOfCentury => exact hwithin.yearOfCentury n h
  | isoYear => exact hwithin.isoYear n h
  | isoYearOfCentury => exact hwithin.isoYearOfCentury n h
  | quarter => exact hwithin.quarter n h
  | month => exact hwithin.month n h
  | dayOfMonth => exact hwithin.dayOfMonth n h
  | weekFromSunday => exact hwithin.weekFromSunday n h
  | weekFromMonday => exact hwithin.weekFromMonday n h
  | isoWeek => exact hwithin.isoWeek n h
  | ordinal => exact hwithin.ordinal n h
  | minute => exact hwithin.minute n h
  | second => exact hwithin.second n h
  | nanosecond => exact hwithin.nanosecond n h
  | timestamp => exact hwithin.timestamp n h

end DateFields

end ReleasePress
