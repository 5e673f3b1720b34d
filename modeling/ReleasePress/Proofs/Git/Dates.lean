import ReleasePress.Filter.Library
import ReleasePress.Proofs.Calendar.Strict
import ReleasePress.Proofs.Git.Signature
import ReleasePress.Proofs.Value

/-!
# Dates of header lines in templates

A date has no form of its own in JSON: a template holds its text, and a filter that wants a date reads
the text again.  `Signature.survives_iff` says for which times of header lines the filters then do what
they do with the date itself: for those with a local year of four digits.  Other years are written with
a sign, which the reader of filters refuses, although the reader of signatures takes it.
-/

namespace ReleasePress

open ReleasePress.Git ReleasePress.Text

/-- A date as a filter is handed it in a template: lowered to JSON and lifted again. -/
def Value.ofTemplate (m : Moment) : Value :=
  Value.ofJson (Value.toJson (.date m))

/-- A value is as good as a date to the filters that want one. -/
structure Value.Survives (value : Value) (m : Moment) : Prop where
  asDate? : value.asDate? = some m
  formatDate : ∀ {σ : Type} (library : FilterLibrary σ) (args : List Value),
    library.formatDate value args = library.formatDate (.date m) args
  olderThan : ∀ {σ : Type} (library : FilterLibrary σ) (args : List Value),
    library.olderThan value args = library.olderThan (.date m) args

/-- The filters read a text once, as a date, and look at nothing else of it. -/
theorem Value.survives_of_asDate? {text : String} {m : Moment} (h : (Value.string text).asDate? = some m) :
    (Value.string text).Survives m where
  asDate? := h
  formatDate library args := by
    have hdate : (Value.date m).asDate? = some m := rfl
    simp only [FilterLibrary.formatDate, h, hdate]
  olderThan library args := by
    have htext : FilterLibrary.timeOf (.string text) = some m := h
    have hdate : FilterLibrary.timeOf (.date m) = some m := rfl
    unfold FilterLibrary.olderThan
    split
    · split
      · rfl
      · simp only [htext, hdate]
    · rfl

/-- Where the age of the date is asked for, a text that is no date has none. -/
theorem FilterLibrary.olderThan_of_not_date {σ : Type} {library : FilterLibrary σ} {text : String}
    {m : Moment} {args : List Value} {older : Bool} (hdate : (Value.string text).asDate? = none)
    (holder : library.olderThan (.date m) args = .ok (.bool older)) :
    library.olderThan (.string text) args = .ok .nil := by
  have htime : timeOf (.string text) = none := hdate
  unfold olderThan at holder ⊢
  split at holder
  · next interval =>
      cases hparse : Interval.parse? interval with
      | none =>
          rw [hparse] at holder
          cases holder
      | some seconds => simp only [htime, Value.ofOption]
  · cases holder

namespace Git

variable {m : Moment}

/-- A header line tells no leap second. -/
theorem IsHeaderTime.nanos_lt (h : IsHeaderTime m) : m.nanos < Moment.nanosPerSecond := by
  rw [h.nanos_eq]
  decide

theorem IsHeaderTime.isTold (h : IsHeaderTime m) (hlocal : m.localDay.inRange = true) : m.IsTold where
  nanos_lt := h.nanos_lt.trans (by decide)
  leap hle := absurd hle (Nat.not_le.2 h.nanos_lt)
  offset_lt := h.offset_lt
  wholeMinute := h.wholeMinute
  inRange_localDay := hlocal
  inRange := h.inRange

theorem IsHeaderTime.isWritable (h : IsHeaderTime m) (hlow : 0 ≤ m.localDay.year)
    (hhigh : m.localDay.year ≤ 9999) : m.IsWritable where
  nanos_lt := h.nanos_lt.trans (by decide)
  leap hle := absurd hle (Nat.not_le.2 h.nanos_lt)
  offset_lt := h.offset_lt
  wholeMinute := h.wholeMinute
  year_nonneg := hlow
  year_le := hhigh

theorem survives_of_hasPlainYear {s : Signature} (h : IsHeaderTime s.time) (hyear : s.HasPlainYear) :
    (Value.ofTemplate s.time).Survives s.time := by
  have hread : (Value.ofTemplate s.time).asDate? = some s.time :=
    Timestamp.read?_write false (h.isWritable hyear.1 hyear.2)
  exact Value.survives_of_asDate? hread

/-- **Dates of four digits survive.**  The `date` of a commit with this committer reaches a filter as the
date itself, with its instant and its offset, exactly if the local year has four digits; then every filter
of dates does with it what it does with the date.  Otherwise `format_date` refuses it and `older_than`
gives nil, although the reader of signatures takes the same text. -/
theorem Signature.survives_iff {raw : String} {s : Signature} (h : Signature.ofRaw raw = .ok s) :
    (∀ c : Commit, c.committer = s →
      (c.toJson.get? "date").map Value.ofJson = some (Value.ofTemplate s.time)) ∧
    ((Value.ofTemplate s.time).Survives s.time ↔ s.HasPlainYear) ∧
    (¬ s.HasPlainYear →
      (Value.ofTemplate s.time).asDate? = none ∧
      (∀ {σ : Type} (library : FilterLibrary σ),
        library.formatDate (Value.ofTemplate s.time) [] = .error .dateWanted ∧
          ∀ args older, library.olderThan (.date s.time) args = .ok (.bool older) →
            library.olderThan (Value.ofTemplate s.time) args = .ok .nil) ∧
      (s.time.localDay.inRange = true →
        Timestamp.readLenient? (Timestamp.write false s.time) = some s.time)) := by
  have htime := Signature.isHeaderTime_of_ofRaw h
  have hrefused : ¬ s.HasPlainYear → (Value.ofTemplate s.time).asDate? = none :=
    fun hyear => Timestamp.read?_write_of_year false hyear
  refine ⟨?_, ⟨?_, survives_of_hasPlainYear htime⟩, ?_⟩
  · rintro c rfl
    rfl
  · intro hsurvives
    by_contra hyear
    have hdate := hsurvives.asDate?
    rw [hrefused hyear] at hdate
    cases hdate
  · intro hyear
    refine ⟨hrefused hyear, fun library => ⟨?_, ?_⟩, ?_⟩
    · simp only [FilterLibrary.formatDate, hrefused hyear]
      rfl
    · intro args older holder
      exact FilterLibrary.olderThan_of_not_date (hrefused hyear) holder
    · intro hlocal
      exact Timestamp.readLenient?_write false (htime.isTold hlocal)

theorem Signature.survives_iff_recent :
    Signature.ofRaw "Bob <bob@example.org> 1700000100 +0100" =
        .ok ⟨"Bob", "bob@example.org", ⟨1700000100, 0, 3600⟩⟩ ∧
      (Value.ofTemplate ⟨1700000100, 0, 3600⟩).Survives ⟨1700000100, 0, 3600⟩ := by
  have hread : Signature.ofRaw "Bob <bob@example.org> 1700000100 +0100" =
      .ok ⟨"Bob", "bob@example.org", ⟨1700000100, 0, 3600⟩⟩ := by decide +kernel
  have hyear : Signature.HasPlainYear ⟨"Bob", "bob@example.org", ⟨1700000100, 0, 3600⟩⟩ := by
    constructor <;> decide
  exact ⟨hread, (Signature.survives_iff hread).2.1.2 hyear⟩

/-- The first second of the year 10000 is lost. -/
theorem Signature.asDate?_late :
    ∃ s, Signature.ofRaw "Ada <ada@example.org> 253402300800 +0000" = .ok s ∧
      (Value.ofJson (Value.toJson (.date s.time))).asDate? ≠ some s.time := by
  exact ⟨⟨"Ada", "ada@example.org", ⟨253402300800, 0, 0⟩⟩, by decide +kernel, by decide +kernel⟩

end Git

end ReleasePress
