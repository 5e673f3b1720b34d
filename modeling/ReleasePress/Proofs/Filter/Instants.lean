import ReleasePress.Filter.Library
import ReleasePress.Proofs.Calendar.Instant
import ReleasePress.Proofs.Environment
import ReleasePress.Proofs.Filter.Subjects

/-!
# Filters of dates

A date reaches a filter as itself, as a text in the format of RFC 3339 or as a number of seconds, and on any clock.
`format_date` and `older_than` tell none of these from each other, and `older_than` takes an object for its date:
`FilterLibrary.dates_interchangeable`.  Both filters keep the instant of a date and drop its clock, so it is enough
that all of these are read as the same instant, which is what `Value.Dates.asDate?` says.  Templates pass dates on as
texts, and these are among them (`Value.dates_ofJson_toJson`).
-/

namespace ReleasePress

open ReleasePress.Git

/-- The values that stand for an instant: dates on any clock, their texts, and the seconds since 1970. -/
inductive Value.Dates (seconds : Int) : Value → Prop
  | date (offset : Int) : Dates seconds (.date (.onClock seconds offset))
  | text {offset : Int} {text : String} (h : Timestamp.Spells (.onClock seconds offset) text) :
      Dates seconds (.string text)
  | integer : Dates seconds (.integer seconds)

/-- The objects with the date of an instant: commits and notes by their committers, and tags by their taggers. -/
inductive Git.Object.Dates (seconds : Int) : Object → Prop
  | commit {c : Commit} {offset : Int} (h : c.committer.time = .onClock seconds offset) : Dates seconds (.commit c)
  | note {n : Note} {offset : Int} (h : n.committer.time = .onClock seconds offset) : Dates seconds (.note n)
  | tag {t : Tag} {tagger : Signature} {offset : Int} (htagger : t.tagger = some tagger)
      (h : tagger.time = .onClock seconds offset) : Dates seconds (.tag t)

variable {seconds offset : Int} {value : Value} {o : Object}

/-- The offset of a text is less than a day and has whole minutes, so the text is one that can be read. -/
theorem Timestamp.read?_of_spells_onClock (hlow : 1 ≤ (Moment.dayOf seconds).year)
    (hhigh : (Moment.dayOf seconds).year ≤ 9998) {text : String}
    (h : Spells (.onClock seconds offset) text) : read? text = some (.onClock seconds offset) := by
  have hwritable : (Moment.onClock seconds offset).IsWritable := by
    obtain ⟨_, _, hoffset⟩ := h
    exact Moment.isWritable_of_year hlow hhigh hoffset.natAbs_lt hoffset.wholeMinute
  exact read?_of_spells hwritable rfl h

theorem Moment.ofSeconds?_of_year (hlow : 1 ≤ (dayOf seconds).year) (hhigh : (dayOf seconds).year ≤ 9998) :
    ofSeconds? seconds = some (onClock seconds 0) := by
  have hwritable : (onClock seconds 0).IsWritable := isWritable_of_year hlow hhigh (by decide) (by decide)
  exact if_pos hwritable.isTold.inRange

theorem Value.Dates.asDate? (hlow : 1 ≤ (Moment.dayOf seconds).year) (hhigh : (Moment.dayOf seconds).year ≤ 9998)
    (h : value.Dates seconds) : ∃ offset, value.asDate? = some (.onClock seconds offset) := by
  cases h with
  | date offset => exact ⟨offset, rfl⟩
  | text h => exact ⟨_, Timestamp.read?_of_spells_onClock hlow hhigh h⟩
  | integer => exact ⟨0, Moment.ofSeconds?_of_year hlow hhigh⟩

/-- A date that is passed on by a template, as its text, still stands for the instant. -/
theorem Value.dates_ofJson_toJson (hlow : 1 ≤ (Moment.dayOf seconds).year)
    (hhigh : (Moment.dayOf seconds).year ≤ 9998) (hoffset : offset.natAbs < 86400) (hminute : offset % 60 = 0) :
    (Value.ofJson (Value.date (.onClock seconds offset)).toJson).Dates seconds := by
  have hwritable := Moment.isWritable_of_year hlow hhigh hoffset hminute
  exact .text (Timestamp.spells_write false hwritable rfl)

namespace FilterLibrary

variable {σ : Type}

theorem timeOf_of_dates (h : o.Dates seconds) : ∃ offset, timeOf (.object o) = some (.onClock seconds offset) := by
  cases h with
  | commit h | note h => exact ⟨_, congrArg some h⟩
  | tag htagger h => exact ⟨_, by rw [timeOf, htagger, Option.map_some, h]⟩

theorem timeOf_of_asDate? {m : Moment} (h : value.asDate? = some m) : timeOf value = some m := by
  cases value with
  | object => cases h
  | _ => exact h

/-- What is read as a date is to `format_date` the same date in universal time. -/
theorem agrees_formatDate (library : FilterLibrary σ) (h : value.asDate? = some (.onClock seconds offset)) :
    library.Agrees .formatDate value (.date (.onClock seconds 0)) := by
  refine agrees_of_answer fun args => congrArg pure ?_
  simp only [formatDate, h]
  rfl

/-- What has a time is to `older_than` the same time in universal time. -/
theorem agrees_olderThan (library : FilterLibrary σ) (h : timeOf value = some (.onClock seconds offset)) :
    library.Agrees .olderThan value (.date (.onClock seconds 0)) := by
  refine agrees_of_answer fun args => congrArg pure ?_
  have hnil : value ≠ .nil := by
    rintro rfl
    cases h
  unfold olderThan
  simp only [h]
  rfl

/-- Subjects that stand for one instant are the same to the filters of dates, and an object with a date is the same to
`older_than` as its date. -/
theorem dates_interchangeable (library : FilterLibrary σ) (hlow : 1 ≤ (Moment.dayOf seconds).year)
    (hhigh : (Moment.dayOf seconds).year ≤ 9998) {a b : Value} (ha : a.Dates seconds) (hb : b.Dates seconds) :
    library.Agrees .formatDate a b ∧ library.Agrees .olderThan a b ∧
      ∀ o : Object, o.Dates seconds → library.Agrees .olderThan (.object o) a := by
  obtain ⟨_, hdateA⟩ := ha.asDate? hlow hhigh
  obtain ⟨_, hdateB⟩ := hb.asDate? hlow hhigh
  have hformatA := library.agrees_formatDate hdateA
  have hformatB := library.agrees_formatDate hdateB
  have holderA := library.agrees_olderThan (timeOf_of_asDate? hdateA)
  have holderB := library.agrees_olderThan (timeOf_of_asDate? hdateB)
  refine ⟨fun args => (hformatA args).trans (hformatB args).symm,
    fun args => (holderA args).trans (holderB args).symm, fun o ho args => ?_⟩
  obtain ⟨_, htime⟩ := timeOf_of_dates ho
  exact (library.agrees_olderThan htime args).trans (holderA args).symm

/-- Noon in universal time on the first of March 2024. -/
def marchNoon : Int :=
  1709294400

/-- The same noon on a clock in the east. -/
def marchText : String :=
  "2024-03-01t17:30:00.000+05:30"

/-- A commit of that noon from a clock in the west. -/
def marchCommit : Object :=
  .commit (Store.addCommit "Start" (.onClock marchNoon (-3600)) [] {}).1

theorem dates_interchangeable_march :
    Environment.plain.library.Agrees .formatDate (.string marchText) (.integer marchNoon) ∧
      Environment.plain.library.Agrees .olderThan (.object marchCommit) (.string marchText) := by
  have hlow : 1 ≤ (Moment.dayOf marchNoon).year := by decide
  have hhigh : (Moment.dayOf marchNoon).year ≤ 9998 := by decide
  have htext : Timestamp.Spells (.onClock marchNoon 19800) marchText :=
    .intro (by decide : 't' ∈ ['T', 't', ' ']) (.zeros 2) (.east (by decide : 330 < 1440))
  have hcommit : marchCommit.Dates marchNoon := .commit rfl
  obtain ⟨hformat, -, holder⟩ :=
    dates_interchangeable Environment.plain.library hlow hhigh (.text htext) .integer
  exact ⟨hformat, holder marchCommit hcommit⟩

end FilterLibrary

end ReleasePress
