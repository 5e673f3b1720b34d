import ReleasePress.Proofs.Calendar.Reading
import ReleasePress.Proofs.Calendar.Telling
import ReleasePress.Proofs.Calendar.Timestamp

/-!
# What lenient timestamps can tell

A lenient timestamp spells single digits and blanks where the writer has none, yet it names only moments
that the writer can tell in full, as far as their local year has four digits:
`Timestamp.isWritable_of_readLenient?`.  Each number is checked against its bounds when it is read, so
what the fields can hold (`DateFields.IsClock`) is known before any of them is used.
-/

namespace ReleasePress

namespace DateFields

/-- Fields as the numbers of a timestamp leave them: they are in their bounds, the offset has whole minutes, and
no count of seconds is among them. -/
structure IsClock (fields : DateFields) : Prop extends InBounds fields where
  timestamp_eq : fields.timestamp = none
  wholeMinute : ∀ n ∈ fields.offset, n % 60 = 0

theorem isClock_empty : IsClock {} :=
  { inBounds_empty with
    timestamp_eq := rfl
    wholeMinute := by simp }

variable {fields fields' : DateFields}

/-- Only a count of seconds is set in the field for it, and only offsets in theirs. -/
theorem timestamp_offset_of_set {n : Int} {number : DateNumber} (hnumber : number ≠ .timestamp)
    (hset : fields.set n number = some fields') :
    fields'.timestamp = fields.timestamp ∧ fields'.offset = fields.offset := by
  cases number with
  | timestamp => exact absurd rfl hnumber
  | hour =>
      simp only [set, setHour, Option.bind_eq_bind, Option.bind_eq_some_iff, Option.some.injEq] at hset
      obtain ⟨_, _, _, _, _, _, rfl⟩ := hset
      exact ⟨rfl, rfl⟩
  | _ =>
      simp only [set, Option.bind_eq_bind, Option.bind_eq_some_iff, Option.some.injEq] at hset
      obtain ⟨_, _, _, _, rfl⟩ := hset
      exact ⟨rfl, rfl⟩

theorem keptByTimestamps_isClock : KeptByTimestamps fun fewer fields => fewer = fields ∧ fields.IsClock where
  set := by
    rintro _ fields n number hnumber ⟨rfl, h⟩ fields' hset
    obtain ⟨htimestamp, hoffset⟩ := timestamp_offset_of_set hnumber hset
    exact ⟨fields', hset, rfl, { h.toInBounds.set hset with
      timestamp_eq := htimestamp.trans h.timestamp_eq
      wholeMinute := hoffset ▸ h.wholeMinute }⟩
  setOffset := by
    rintro _ fields n hminute ⟨rfl, h⟩ fields' hset
    refine ⟨fields', hset, rfl, ?_⟩
    have hbounds := h.toInBounds.setOffset hset
    simp only [DateFields.setOffset, Option.bind_eq_bind, Option.bind_eq_some_iff, Option.some.injEq] at hset
    obtain ⟨offset, hoffset, rfl⟩ := hset
    obtain rfl := agree_eq_some hoffset
    refine { hbounds with timestamp_eq := h.timestamp_eq, wholeMinute := ?_ }
    rintro _ ⟨⟩
    exact hminute

/-- Without a count of seconds only day and clock name the local time. -/
theorem IsClock.local? (h : fields.IsClock) {offset : Int} {day : Day} {second nanos : Nat}
    (hlocal : fields.local? offset = some (day, second, nanos)) :
    fields.clock? = .ok (second, nanos) := by
  rw [DateFields.local?] at hlocal
  split at hlocal
  · next hday hclock =>
      simp only [h.timestamp_eq, Option.some.injEq, Prod.mk.injEq] at hlocal
      obtain ⟨-, rfl, rfl⟩ := hlocal
      exact hclock
  · simp [h.timestamp_eq] at hlocal

/-- All that a moment must have to be written in full holds of the moment of such fields, except that
its year may be out of bounds. -/
theorem IsClock.isWritable_of_moment? (h : fields.IsClock) {m : Moment} (hmoment : fields.moment? = some m)
    (hyear : 0 ≤ m.localDay.year ∧ m.localDay.year ≤ 9999) : m.IsWritable := by
  obtain ⟨hoffset, hlt, day, second, nanos, hlocal, hm⟩ := moment?_eq_some hmoment
  have htime := h.toInBounds.clock? (h.local? hlocal)
  obtain ⟨-, hsecond, hnanos, -⟩ := Moment.ofLocal?_eq_some htime.second_lt hm
  have hminute : m.offset % 60 = 0 := by
    rw [hoffset]
    cases hknown : fields.offset with
    | none => rfl
    | some offset => exact h.wholeMinute offset hknown
  refine ⟨hnanos ▸ htime.nanos_lt, fun hle => ?_, hlt, hminute, hyear.1, hyear.2⟩
  have h59 := htime.leap (hnanos ▸ hle)
  rw [← hsecond, Moment.secondOfDay, Moment.localSeconds] at h59
  omega

end DateFields

/-- What a lenient timestamp names can be written in full if its local year has four digits. -/
theorem Timestamp.isWritable_of_readLenient? {text : String} {m : Moment} (hread : readLenient? text = some m)
    (hyear : 0 ≤ m.localDay.year ∧ m.localDay.year ≤ 9999) : m.IsWritable := by
  rw [readLenient?] at hread
  split at hread
  · next fields rest hfields =>
      obtain ⟨_, -, -, hclock⟩ := readFields_inStep DateFields.keptByTimestamps_isClock
        ⟨rfl, DateFields.isClock_empty⟩ text.toList fields rest hfields
      rw [Option.ite_none_right_eq_some] at hread
      exact hclock.isWritable_of_moment? hread.2 hyear
  · cases hread

end ReleasePress
