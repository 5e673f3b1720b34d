import ReleasePress.Calendar.Format
import ReleasePress.Proofs.Calendar.Reading
import ReleasePress.Proofs.Calendar.Telling

/-!
# What reading a date leaves out

A text is read as a moment in three ways, of which the first that succeeds is taken: as a moment in full, as a
local time, as a day.  The ways after the first know nothing of the offset, and the last one nothing of the time
of day, yet each of them takes fields that hold either.  So the day is always the one that was read, and just the
offset and the time of day may be dropped: `DateFormat.read?_tells` says when.
-/

namespace ReleasePress

/-! ## Numbers of a moment -/

/-- The numbers that are about the day. -/
def DateNumber.isOfDay : DateNumber → Bool
  | .hour => false
  | .hour12 => false
  | .minute => false
  | .second => false
  | .nanosecond => false
  | .timestamp => false
  | _ => true

/-- The numbers that are about hour, minute and second. -/
def DateNumber.isOfClock : DateNumber → Bool
  | .hour => true
  | .hour12 => true
  | .minute => true
  | .second => true
  | _ => false

namespace DateFields

/-- Each number of a kind that stands among the fields is that number of the moment. -/
def Tells (fields : DateFields) (kind : DateNumber → Bool) (m : Moment) : Prop :=
  ∀ n number, kind number = true → fields.Has n number → number.value m = n

variable {fields : DateFields} {m : Moment}

theorem TellsDay.tells (h : fields.TellsDay m.localDay) : fields.Tells DateNumber.isOfDay m := by
  intro n number hnumber hhas
  cases number with
  | year => exact (h.year n hhas).symm
  | century => exact (h.century n hhas).symm
  | yearOfCentury => exact (h.yearOfCentury n hhas).symm
  | isoYear => exact (h.isoYear n hhas).symm
  | isoYearOfCentury => exact (h.isoYearOfCentury n hhas).symm
  | quarter => exact (h.quarter n hhas).symm
  | month => exact (h.month n hhas).symm
  | dayOfMonth => exact (h.dayOfMonth n hhas).symm
  | weekFromSunday => exact (h.weekFromSunday n hhas).symm
  | weekFromMonday => exact (h.weekFromMonday n hhas).symm
  | isoWeek => exact (h.isoWeek n hhas).symm
  | ordinal => exact (h.ordinal n hhas).symm
  | weekdayFromSunday =>
      obtain ⟨hbounds, hhas⟩ := hhas
      have hweekday := h.weekday _ hhas
      simp only [DateNumber.value, Day.weekdayFromSunday]
      omega
  | weekdayFromMonday =>
      have hweekday := h.weekday _ hhas
      simp only [DateNumber.value]
      omega
  | _ => cases hnumber

theorem TellsClock.tells (h : fields.TellsClock m.hour m.minute m.second) : fields.Tells DateNumber.isOfClock m := by
  intro n number hnumber hhas
  cases number with
  | hour =>
      have hhalf := h.half _ hhas.1
      have hhour := h.hourOfHalf _ hhas.2
      simp only [DateNumber.value]
      omega
  | hour12 =>
      obtain ⟨hbounds, hhas⟩ := hhas
      have hhour := h.hourOfHalf _ hhas
      simp only [DateNumber.value]
      split <;> omega
  | minute => exact (h.minute n hhas).symm
  | second => exact (h.second n hhas).symm
  | _ => cases hnumber

/-- Midnight, as a time of day. -/
def midnight : Moment :=
  ⟨0, 0, 0⟩

theorem value_of_midnight {number : DateNumber} (hnumber : number.isOfClock = true) (hsecond : m.secondOfDay = 0)
    (hnanos : m.nanos = 0) : number.value m = number.value midnight := by
  cases number with
  | hour | hour12 => simp only [DateNumber.value, Moment.hour, hsecond]; rfl
  | minute => simp only [DateNumber.value, Moment.minute, hsecond]; rfl
  | second => simp only [DateNumber.value, Moment.second, hsecond, hnanos]; rfl
  | _ => cases hnumber

theorem tells_iff_of_midnight (hsecond : m.secondOfDay = 0) (hnanos : m.nanos = 0) :
    fields.Tells DateNumber.isOfClock m ↔ fields.Tells DateNumber.isOfClock midnight := by
  constructor
  · intro h n number hnumber hhas
    rw [← value_of_midnight hnumber hsecond hnanos, h n number hnumber hhas]
  · intro h n number hnumber hhas
    rw [value_of_midnight hnumber hsecond hnanos, h n number hnumber hhas]

/-! ## The three ways of reading -/

/-- The three ways in which fields name a moment on a clock with an offset, first one first. -/
inductive NamesOn (fields : DateFields) (zone : Int) (m : Moment) : Prop where
  | inFull (hmoment : fields.moment? = some m)
  | onClock {day : Day} {second nanos : Nat} (hmoment : fields.moment? = none)
      (hlocal : fields.local? 0 = some (day, second, nanos)) (hm : Moment.ofLocal? day second nanos zone = some m)
  | atMidnight {day : Day} (hmoment : fields.moment? = none) (hlocal : fields.local? 0 = none)
      (hday : fields.day? = .ok day) (hm : Moment.ofLocal? day 0 0 zone = some m)

end DateFields

namespace DateFormat

variable {format : DateFormat} {zone : Int} {text : String} {pattern : Option String} {m : Moment}

theorem exists_fields_of_read? (hread : format.read? zone text pattern = some m) :
    ∃ items fields, DateItem.listOf? (pattern.getD format.pattern) = some items ∧
      DateItem.readAll? items text = some fields ∧ fields.NamesOn zone m := by
  simp only [read?, Option.bind_eq_bind, Option.bind_eq_some_iff] at hread
  obtain ⟨items, hitems, fields, hfields, hread⟩ := hread
  refine ⟨items, fields, hitems, hfields, ?_⟩
  split at hread
  · next found hmoment =>
      cases hread
      exact .inFull hmoment
  · next hmoment =>
      split at hread
      · next hlocal => exact .onClock hmoment hlocal hread
      · next hlocal =>
          split at hread
          · next hday => exact .atMidnight hmoment hlocal hday hread
          · cases hread

/-- A text is read as what its fields name. -/
theorem read?_eq_some {items : List DateItem} {fields : DateFields}
    (hitems : DateItem.listOf? (pattern.getD format.pattern) = some items)
    (hfields : DateItem.readAll? items text = some fields) (hnames : fields.NamesOn zone m) :
    format.read? zone text pattern = some m := by
  simp only [read?, hitems, hfields, Option.bind_eq_bind, Option.bind_some]
  cases hnames with
  | inFull hmoment => rw [hmoment]
  | onClock hmoment hlocal hm => simpa only [hmoment, hlocal] using hm
  | atMidnight hmoment hlocal hday hm => simpa only [hmoment, hlocal, hday] using hm

/-- A moment that was read is on the day that was read.  The offset that was read is dropped for that of the clock
unless the text gives a moment in full, and the time of day that was read for midnight unless the text gives a
moment in full or a local time. -/
theorem read?_tells (hread : format.read? zone text pattern = some m) :
    ∃ items fields, DateItem.listOf? (pattern.getD format.pattern) = some items ∧
      DateItem.readAll? items text = some fields ∧ fields.Records items text ∧
      fields.Tells DateNumber.isOfDay m ∧
      (fields.TellsOffset m.offset ↔ fields.moment?.isSome = true ∨ fields.TellsOffset zone) ∧
      (fields.Tells DateNumber.isOfClock m ↔ fields.moment?.isSome = true ∨ (fields.local? 0).isSome = true ∨
        fields.Tells DateNumber.isOfClock DateFields.midnight) := by
  obtain ⟨items, fields, hitems, hfields, hnames⟩ := exists_fields_of_read? hread
  have hbounds := DateItem.inBounds_of_readAll? hfields
  refine ⟨items, fields, hitems, hfields, DateItem.records_of_readAll? hfields, ?_⟩
  cases hnames with
  | inFull hmoment =>
      obtain ⟨hday, hclock, hoffset⟩ := hbounds.moment? hmoment
      simp [hmoment, hday.tells, hclock.tells, hoffset]
  | onClock hmoment hlocal hm =>
      obtain ⟨hday, htime⟩ := hbounds.local? hlocal
      obtain ⟨rfl, -, -, hzone⟩ := Moment.ofLocal?_eq_some htime.second_lt hm
      have hclock := htime.ofLocal? hm
      simp [hmoment, hlocal, hday.tells, hzone, hclock.tells]
  | atMidnight hmoment hlocal hday hm =>
      obtain ⟨rfl, hsecond, hnanos, hzone⟩ := Moment.ofLocal?_eq_some (by decide) hm
      simp [hmoment, hlocal, (hbounds.day? hday).tells, hzone, DateFields.tells_iff_of_midnight hsecond hnanos]

/-- On a clock with the offset `+05:30`, a date with the offset `+09:00` that gives hour and minute as well is read
with all of them. -/
theorem read?_tells_inFull :
    (⟨standard, rfl⟩ : DateFormat).read? 19800 "01.03.2024 12:30 +0900" (some "%d.%m.%Y %H:%M %z") =
        some ⟨1709263800, 0, 32400⟩ ∧
      ∃ items fields, DateItem.listOf? "%d.%m.%Y %H:%M %z" = some items ∧
        DateItem.readAll? items "01.03.2024 12:30 +0900" = some fields ∧
        fields.Tells DateNumber.isOfDay ⟨1709263800, 0, 32400⟩ ∧ fields.TellsOffset 32400 ∧
        fields.Tells DateNumber.isOfClock ⟨1709263800, 0, 32400⟩ := by
  have hread : (⟨standard, rfl⟩ : DateFormat).read? 19800 "01.03.2024 12:30 +0900" (some "%d.%m.%Y %H:%M %z") =
      some ⟨1709263800, 0, 32400⟩ := by decide +kernel
  obtain ⟨items, fields, hitems, hfields, -, hday, hoffset, hclock⟩ := read?_tells hread
  have hmoment : fields.moment?.isSome = true := by
    cases hitems
    cases hfields
    rfl
  exact ⟨hread, items, fields, hitems, hfields, hday, hoffset.2 (.inl hmoment), hclock.2 (.inl hmoment)⟩

/-- On a clock with the offset `+05:30`, a day with the offset `+09:00` is read as midnight at `+05:30`, and a day
with the hour 15 as midnight. -/
theorem read?_drops :
    (∃ items fields m, DateItem.listOf? "%Y-%m-%d %z" = some items ∧
      DateItem.readAll? items "2024-03-01 +0900" = some fields ∧
      (⟨standard, rfl⟩ : DateFormat).read? 19800 "2024-03-01 +0900" (some "%Y-%m-%d %z") = some m ∧
      fields.offset = some 32400 ∧ m.offset = 19800) ∧
    ∃ items fields m, DateItem.listOf? "%Y-%m-%d %H" = some items ∧
      DateItem.readAll? items "2024-03-01 15" = some fields ∧
      (⟨standard, rfl⟩ : DateFormat).read? 19800 "2024-03-01 15" (some "%Y-%m-%d %H") = some m ∧
      fields.Has 15 .hour ∧ DateNumber.hour.value m = 0 :=
  ⟨⟨_, _, _, rfl, rfl, rfl, rfl, rfl⟩, _, _, _, rfl, rfl, rfl, ⟨rfl, rfl⟩, rfl⟩

end DateFormat

end ReleasePress
