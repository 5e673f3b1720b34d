import ReleasePress.Proofs.Calendar.Day
import ReleasePress.Proofs.Text.Digits

/-!
# Timestamps are read back

The lenient reader undoes `Timestamp.write` on every moment that a timestamp can tell in full:
`readLenient?_write`.  Both spellings of offset zero are covered, and years of any size.

The proof follows the text from left to right.  Each part is a numeral of a fixed width, so what a
reader takes is known from `IsNumeral` alone, and the fields it fills are collected in
`Moment.dateFields`.  What is left is arithmetic on the day and on the second of the day.
-/

namespace ReleasePress

open ReleasePress.Text

/-- A moment of which the timestamp tells all: the offset has whole minutes, only the last second of a
minute is a leap second, and the clock shows a date. -/
structure Moment.IsTold (m : Moment) : Prop where
  nanos_lt : m.nanos < 2 * nanosPerSecond
  leap : nanosPerSecond ≤ m.nanos → m.seconds % 60 = 59
  offset_lt : m.offset.natAbs < 86400
  wholeMinute : m.offset % 60 = 0
  inRange_localDay : m.localDay.inRange = true
  inRange : m.inRange = true

/-- A moment of which the timestamp tells all without a sign before the year, which has four digits. -/
structure Moment.IsWritable (m : Moment) : Prop where
  nanos_lt : m.nanos < 2 * nanosPerSecond
  leap : nanosPerSecond ≤ m.nanos → m.seconds % 60 = 59
  offset_lt : m.offset.natAbs < 86400
  wholeMinute : m.offset % 60 = 0
  year_nonneg : 0 ≤ m.localDay.year
  year_le : m.localDay.year ≤ 9999

namespace Moment

/-! ## The views of a moment -/

theorem hour_lt (m : Moment) : m.hour < 24 := by
  simp only [hour, secondOfDay]
  omega

theorem minute_lt (m : Moment) : m.minute < 60 := by
  simp only [minute]
  omega

/-- The clock fields name the second of the day. -/
theorem secondOfDay_eq (m : Moment) :
    m.secondOfDay = m.hour * 3600 + m.minute * 60 + m.secondOfDay % 60 := by
  simp only [hour, minute]
  omega

/-- The local day and the second of the day name the instant. -/
theorem seconds_eq (m : Moment) :
    m.localDay.number * 86400 + m.secondOfDay - m.offset = m.seconds := by
  simp only [localDay, secondOfDay, localSeconds]
  omega

/-- A day in the years 0 to 9999 is far inside the range of dates, and so is the day around it in
universal time. -/
theorem inRange_of_year {m : Moment} (hoffset : m.offset.natAbs < 86400)
    (hlow : 0 ≤ m.localDay.year) (hhigh : m.localDay.year ≤ 9999) :
    m.localDay.inRange = true ∧ m.inRange = true := by
  have hlow' : (Day.newYear (-262143)).number = -96465292 := by decide
  have hhigh' : (Day.newYear 262143).number = 95026237 := by decide
  obtain ⟨hnumber, hpast⟩ := Day.yearAndPast_spec m.localDay
  have hyear : m.localDay.yearAndPast.1 = m.localDay.year := rfl
  rw [hyear] at hnumber hpast
  have hpast' : m.localDay.yearAndPast.2 ≤ 366 := by
    rw [Day.yearLength] at hpast
    split at hpast <;> omega
  simp only [Day.beforeYear, Day.epochShift] at hnumber
  have hday : m.localDay.number = m.localSeconds / 86400 := rfl
  have hlocal : m.localSeconds = m.seconds + m.offset := rfl
  simp only [inRange, Day.inRange, hlow', hhigh', Bool.and_eq_true, decide_eq_true_eq]
  omega

theorem IsWritable.isTold {m : Moment} (h : m.IsWritable) : m.IsTold where
  nanos_lt := h.nanos_lt
  leap := h.leap
  offset_lt := h.offset_lt
  wholeMinute := h.wholeMinute
  inRange_localDay := (inRange_of_year h.offset_lt h.year_nonneg h.year_le).1
  inRange := (inRange_of_year h.offset_lt h.year_nonneg h.year_le).2

namespace IsTold

variable {m : Moment}

/-- The second of the clock is 60 in a leap second only. -/
theorem second_eq (h : m.IsTold) :
    m.second = 60 ∧ nanosPerSecond ≤ m.nanos ∧ m.secondOfDay % 60 = 59 ∨
      m.second < 60 ∧ m.nanos < nanosPerSecond ∧ m.secondOfDay % 60 = m.second := by
  have hnanos := h.nanos_lt
  have hoffset := h.wholeMinute
  by_cases hleap : nanosPerSecond ≤ m.nanos
  · have h59 := h.leap hleap
    left
    simp only [second, secondOfDay, localSeconds, nanosPerSecond] at *
    omega
  · right
    simp only [second, nanosPerSecond] at *
    omega

theorem second_le (h : m.IsTold) : m.second ≤ 60 := by
  rcases h.second_eq with ⟨hsecond, -⟩ | ⟨hsecond, -⟩ <;> omega

/-- A date in range has a year of at most six digits. -/
theorem natAbs_year_lt (h : m.IsTold) : m.localDay.year.natAbs < 1000000 := by
  have hlow : (Day.newYear (-262143)).number = -96465292 := by decide
  have hhigh : (Day.newYear 262143).number = 95026237 := by decide
  have hrange := h.inRange_localDay
  obtain ⟨hnumber, hpast⟩ := Day.yearAndPast_spec m.localDay
  have hpast' : m.localDay.yearAndPast.2 ≤ 366 := by
    rw [Day.yearLength] at hpast
    split at hpast <;> omega
  have hyear : m.localDay.yearAndPast.1 = m.localDay.year := rfl
  simp only [hyear, Day.beforeYear, Day.epochShift] at hnumber
  simp only [Day.inRange, hlow, hhigh, Bool.and_eq_true, decide_eq_true_eq] at hrange
  omega

end IsTold

/-! ## The fields of a moment -/

/-- The fields that the timestamp of a moment gives to a reader. -/
def dateFields (m : Moment) : DateFields where
  year := some m.localDay.year
  month := some m.localDay.month
  dayOfMonth := some m.localDay.dayOfMonth
  half := some ((m.hour : Int) / 12)
  hourOfHalf := some ((m.hour : Int) % 12)
  minute := some m.minute
  second := some m.second
  nanosecond := if m.fraction = 0 then none else some m.fraction
  offset := some m.offset

/-- Year, month and day of the month name the day, beside the weekday or without it. -/
theorem day?_named {day : Day} (hrange : day.inRange = true) {weekday : Option Int}
    (hweekday : ∀ n ∈ weekday, n = day.weekday) :
    ({ year := some day.year, month := some day.month, dayOfMonth := some day.dayOfMonth, weekday } : DateFields).day? =
      .ok day := by
  have hday := Day.ofMonth?_year_month_dayOfMonth day hrange
  have hadmits : DateFields.admits weekday day.weekday = true := by
    cases weekday <;> simp_all [DateFields.admits]
  have hnone (n : Int) : DateFields.admits none n = true := rfl
  simp [DateFields.day?, DateFields.wholeYear, DateFields.verified, DateFields.found, DateFields.admitsIsoWeek,
    DateFields.admitsOrdinal, hadmits, hnone, hday]

theorem day?_dateFields {m : Moment} (h : m.IsTold) : m.dateFields.day? = .ok m.localDay :=
  day?_named h.inRange_localDay (by rintro n ⟨⟩)

theorem clock?_dateFields {m : Moment} (h : m.IsTold) :
    m.dateFields.clock? = .ok (m.secondOfDay, m.nanos) := by
  have hclock := m.secondOfDay_eq
  have hfraction : ((if m.fraction = 0 then none else some (m.fraction : Int)).getD 0).toNat =
      m.fraction := by
    split <;> simp [*]
  have hhour : (m.hour : Int) / 12 * 12 + (m.hour : Int) % 12 = m.hour := by omega
  simp only [DateFields.clock?, dateFields, Option.isNone_some, Bool.and_false, Option.getD_some,
    hfraction, hhour, Bool.false_eq_true, if_false]
  rcases h.second_eq with ⟨hsecond, hnanos, h59⟩ | ⟨hsecond, hnanos, hmod⟩
  · rw [if_pos (by omega)]
    have hfrac : m.fraction + nanosPerSecond = m.nanos := by
      have hlt := h.nanos_lt
      simp only [fraction, nanosPerSecond] at *
      omega
    rw [hfrac, hclock, h59]
    congr 2
    omega
  · rw [if_neg (by omega)]
    have hfrac : m.fraction = m.nanos := Nat.mod_eq_of_lt hnanos
    rw [hfrac, hclock, hmod]
    congr 2
    omega

/-- The local day and the second of the day make the moment. -/
theorem ofLocal?_self {m : Moment} (h : m.inRange = true) :
    ofLocal? m.localDay m.secondOfDay m.nanos m.offset = some m := by
  rw [ofLocal?, m.seconds_eq, checked]
  exact if_pos h

/-- Fields that name a day and a time of day name the local time, if no count of seconds is among them. -/
theorem local?_eq {fields : DateFields} {day : Day} {second nanos : Nat} (hday : fields.day? = .ok day)
    (hclock : fields.clock? = .ok (second, nanos)) (htimestamp : fields.timestamp = none) (offset : Int) :
    fields.local? offset = some (day, second, nanos) := by
  simp only [DateFields.local?, hday, hclock, htimestamp]

/-- Fields that name the day, the time of day and the offset of a moment name the moment. -/
theorem moment?_eq {fields : DateFields} {m : Moment} (h : m.IsTold) (hday : fields.day? = .ok m.localDay)
    (hclock : fields.clock? = .ok (m.secondOfDay, m.nanos)) (hoffset : fields.offset = some m.offset)
    (htimestamp : fields.timestamp = none) : fields.moment? = some m := by
  simp only [DateFields.moment?, hoffset, local?_eq hday hclock htimestamp, Option.bind_eq_bind, Option.bind_some,
    h.offset_lt, if_true, ofLocal?_self h.inRange]

theorem moment?_dateFields {m : Moment} (h : m.IsTold) : m.dateFields.moment? = some m :=
  moment?_eq h (day?_dateFields h) (clock?_dateFields h) rfl rfl

end Moment

namespace DateFields

/-! ## Setting the fields of a moment -/

variable {fields : DateFields} {m : Moment}

theorem set_year (h : m.IsTold) (hnone : fields.year = none) :
    fields.set m.localDay.year .year = some { fields with year := some m.localDay.year } := by
  have hyear_lt := h.natAbs_year_lt
  have hin : -2147483648 ≤ m.localDay.year ∧ m.localDay.year ≤ 2147483647 := by omega
  simp [set, agree, word, between, hin, hnone]

theorem set_month (day : Day) (hnone : fields.month = none) :
    fields.set day.month .month = some { fields with month := some day.month } := by
  have hbounds := Day.month_bounds day
  have hin : (1 : Int) ≤ day.month ∧ (day.month : Int) ≤ 12 := by omega
  simp [set, agree, between, hin, hnone]

theorem set_dayOfMonth (day : Day) (hnone : fields.dayOfMonth = none) :
    fields.set day.dayOfMonth .dayOfMonth = some { fields with dayOfMonth := some day.dayOfMonth } := by
  have hbounds := Day.dayOfMonth_bounds day
  have hin : (1 : Int) ≤ day.dayOfMonth ∧ (day.dayOfMonth : Int) ≤ 31 := by omega
  simp [set, agree, between, hin, hnone]

theorem set_hour (m : Moment) (hhalf : fields.half = none) (hhour : fields.hourOfHalf = none) :
    fields.set m.hour .hour =
      some { fields with half := some ((m.hour : Int) / 12), hourOfHalf := some ((m.hour : Int) % 12) } := by
  have hlt := m.hour_lt
  have hin : (m.hour : Int) ≤ 23 := by omega
  simp [set, setHour, agree, between, hin, hhalf, hhour]

theorem set_minute (m : Moment) (hnone : fields.minute = none) :
    fields.set m.minute .minute = some { fields with minute := some m.minute } := by
  have hlt := m.minute_lt
  have hin : (m.minute : Int) ≤ 59 := by omega
  simp [set, agree, between, hin, hnone]

theorem set_second (h : m.IsTold) (hnone : fields.second = none) :
    fields.set m.second .second = some { fields with second := some m.second } := by
  have hle := h.second_le
  have hin : (m.second : Int) ≤ 60 := by omega
  simp [set, agree, between, hin, hnone]

end DateFields

namespace Timestamp

/-! ## Reading numbers -/

variable {width n : Nat} {digits rest : List Char} {fields fields' : DateFields} {field : DateNumber}

theorem readNumber_append (hplaces : field.places = some (width + 1))
    (h : IsNumeral (width + 1) n digits) (hn : n < 2 ^ 63)
    (hset : fields.set n field = some fields') :
    readNumber fields (digits ++ rest) field = some (fields', rest) := by
  simp [readNumber, DateNumber.read?_append hplaces h hn, hset]

/-- A number, its mark, and then the other numbers. -/
theorem readNumbers_append {mark : Char} {next : DateNumber} {others : List DateNumber}
    (hmark : isBlank mark = false) (hplaces : field.places = some (width + 1))
    (h : IsNumeral (width + 1) n digits) (hn : n < 2 ^ 63)
    (hset : fields.set n field = some fields') :
    readNumbers mark fields (digits ++ mark :: rest) (field :: next :: others) =
      readNumbers mark fields' rest (next :: others) := by
  simp [readNumbers, readNumber_append hplaces h hn hset, trimStart, hmark, dropHead?]

/-! ## The fraction -/

/-- A run of at most nine digits counts nanoseconds. -/
theorem nanos?_append (hpos : 0 < width) (hwidth : width ≤ 9) (h : IsNumeral width n digits)
    (hrest : ∀ c ∈ rest.head?, isDigit c = false) :
    nanos? (digits ++ rest) = some (n * Nat.pow 10 (9 - width), rest) := by
  have hne : digits ≠ [] := by
    rintro rfl
    have := h.length_eq
    simp at this
    omega
  have hkept : digits.take 9 = digits := List.take_of_length_le (by rw [h.length_eq]; exact hwidth)
  simp only [nanos?, h.takeWhile_append hrest, h.dropWhile_append hrest, hkept, h.value_eq,
    h.length_eq, List.isEmpty_eq_false_iff.2 hne, Bool.false_eq_true, if_false]

/-- A fraction that is not zero is a point and a numeral of three, six or nine digits. -/
theorem toList_writeFraction {nanos : Nat} (hzero : nanos ≠ 0) (hlt : nanos < 1000000000) :
    ∃ width n digits, (writeFraction nanos).toList = '.' :: digits ∧ IsNumeral width n digits ∧
      0 < width ∧ width ≤ 9 ∧ n * Nat.pow 10 (9 - width) = nanos := by
  simp only [writeFraction, if_neg hzero]
  split
  · next hmilli =>
      refine ⟨3, nanos / 1000000, _, String.toList_append .., isNumeral_padded ?_ ?_, ?_, ?_, ?_⟩
      · decide
      · omega
      · decide
      · decide
      · show nanos / 1000000 * 1000000 = nanos
        omega
  · split
    · next hmicro =>
        refine ⟨6, nanos / 1000, _, String.toList_append .., isNumeral_padded ?_ ?_, ?_, ?_, ?_⟩
        · decide
        · omega
        · decide
        · decide
        · show nanos / 1000 * 1000 = nanos
          omega
    · refine ⟨9, nanos, _, String.toList_append .., isNumeral_padded ?_ ?_, ?_, ?_, ?_⟩
      · decide
      · omega
      · decide
      · decide
      · show nanos * 1 = nanos
        omega

theorem readFraction_append {nanos : Nat} (hlt : nanos < 1000000000)
    (hrest : ∀ c ∈ rest.head?, isDigit c = false ∧ c ≠ '.') (hnone : fields.nanosecond = none) :
    readFraction fields ((writeFraction nanos).toList ++ rest) =
      some ({ fields with nanosecond := if nanos = 0 then none else some (nanos : Int) }, rest) := by
  by_cases hzero : nanos = 0
  · subst hzero
    have hempty : (writeFraction 0).toList = [] := rfl
    rw [hempty, List.nil_append, if_pos rfl, readFraction.eq_def]
    split
    · next text =>
        exact absurd rfl (hrest '.' (by simp)).2
    · rw [← hnone]
  · obtain ⟨width, n, digits, htext, hnum, hpos, hwidth, hvalue⟩ :=
      toList_writeFraction hzero hlt
    have hread : nanos? (digits ++ rest) = some (nanos, rest) := by
      rw [nanos?_append hpos hwidth hnum fun c hc => (hrest c hc).1, hvalue]
    have hle : (nanos : Int) ≤ 999999999 := by omega
    simp only [htext, readFraction, List.cons_append, hread, DateFields.set, DateFields.between,
      Int.natCast_nonneg, decide_true, Bool.true_and, decide_eq_true_eq, DateFields.agree, hnone,
      Option.bind_eq_bind, Option.bind_some, hle, if_true, hzero, if_false]

/-! ## The offset -/

/-- A separator of hours and minutes that skips the colon and nothing of a numeral. -/
def SkipsColon (separator : List Char → Option (List Char)) : Prop :=
  ∀ {width n : Nat} {digits : List Char}, IsNumeral (width + 1) n digits →
    separator (':' :: digits) = some digits

theorem skipSeparators_numeral (h : IsNumeral (width + 1) n digits) : skipSeparators digits = some digits := by
  obtain ⟨c, cs, rfl⟩ := List.exists_cons_of_length_eq_add_one h.length_eq
  have hdigit : isDigit c = true := h.isDigit c (by simp)
  have hcolon : c ≠ ':' := ne_of_isDigit hdigit (by decide)
  simp [skipSeparators, hcolon, isBlank_eq_false_of_isDigit hdigit]

theorem skipsColon_skipSeparators : SkipsColon skipSeparators := by
  intro width n digits h
  simpa [skipSeparators] using skipSeparators_numeral h

theorem skipsColon_dropHead : SkipsColon (dropHead? [':']) := by
  intro width n digits h
  simp [dropHead?]

variable {separator : List Char → Option (List Char)}

/-- Hours and minutes of an offset, with the text between the two. -/
def hoursAndMinutes (between : String) (minutes : Nat) : List Char :=
  (padded 2 (minutes / 60)).toList ++ (between.toList ++ (padded 2 (minutes % 60)).toList)

/-- Hours and minutes behind a sign are read as the offset that they tell, minus zero as well. -/
theorem offset?_signed {between : String}
    (hseparator : ∀ {width n : Nat} {digits : List Char}, IsNumeral (width + 1) n digits →
      separator (between.toList ++ digits) = some digits)
    (zulu : Bool) {minutes : Nat} (hlt : minutes < 1440) :
    offset? separator zulu false ('+' :: hoursAndMinutes between minutes) = some ((minutes : Int) * 60, []) ∧
      offset? separator zulu false ('-' :: hoursAndMinutes between minutes) = some (-((minutes : Int) * 60), []) := by
  have hhours : IsNumeral 2 (minutes / 60) (padded 2 (minutes / 60)).toList :=
    isNumeral_padded (by decide) (by omega)
  have hminutes : IsNumeral 2 (minutes % 60) (padded 2 (minutes % 60)).toList :=
    isNumeral_padded (by decide) (by omega)
  rw [hoursAndMinutes]
  set hh := (padded 2 (minutes / 60)).toList
  set mm := (padded 2 (minutes % 60)).toList
  have hskip : separator (between.toList ++ mm) = some mm := hseparator hminutes
  have hmm : digits? 2 mm = some (minutes % 60, []) := by
    rw [← List.append_nil mm]
    exact digits?_append hminutes
  have hsize : ((minutes / 60 : Nat) : Int) * 3600 + ((minutes % 60 : Nat) : Int) * 60 = minutes * 60 := by omega
  have hlow : minutes % 60 < 60 := Nat.mod_lt _ (by decide)
  constructor <;> cases zulu <;>
    simp only [offset?, Char.isValue, List.cons.injEq, Char.reduceEq, false_and, imp_self, implies_true, sign?,
      Bool.false_and, Bool.false_eq_true, if_true, if_false, Option.bind_eq_bind, Option.bind_some,
      digits?_append hhours, hskip, hmm, hlow, hsize]

theorem toList_writeOffset (between : String) {offset : Int} (hminute : offset % 60 = 0) :
    (writeOffset between offset).toList =
      (if offset < 0 then '-' else '+') :: hoursAndMinutes between (offset.natAbs / 60) := by
  have hround : (offset.natAbs + 30) / 60 = offset.natAbs / 60 := by omega
  by_cases hneg : offset < 0 <;> simp [writeOffset, hneg, hround, hoursAndMinutes]

/-- A reader of offsets undoes the writer on whole minutes, whatever the writer puts between hours and minutes. -/
theorem offset?_writeOffset {between : String}
    (hseparator : ∀ {width n : Nat} {digits : List Char}, IsNumeral (width + 1) n digits →
      separator (between.toList ++ digits) = some digits)
    (zulu : Bool) {offset : Int} (hlt : offset.natAbs < 86400) (hminute : offset % 60 = 0) :
    ∃ c ∈ ['+', '-'], ∃ text, (writeOffset between offset).toList = c :: text ∧
      offset? separator zulu false (c :: text) = some (offset, []) := by
  have hminutes : offset.natAbs / 60 < 1440 := by omega
  obtain ⟨hplus, hminus⟩ := offset?_signed hseparator zulu hminutes
  rw [toList_writeOffset between hminute]
  by_cases hneg : offset < 0
  · have hoffset : -((offset.natAbs / 60 : Nat) * 60 : Int) = offset := by omega
    rw [hoffset] at hminus
    exact ⟨'-', by simp, _, by rw [if_pos hneg], hminus⟩
  · have hoffset : ((offset.natAbs / 60 : Nat) * 60 : Int) = offset := by omega
    rw [hoffset] at hplus
    exact ⟨'+', by simp, _, by rw [if_neg hneg], hplus⟩

/-- Either spelling of an offset starts with a mark of its own and is read back. -/
theorem offset?_spelling (hseparator : SkipsColon separator) (zulu : Bool) {offset : Int}
    (hlt : offset.natAbs < 86400) (hminute : offset % 60 = 0) :
    ∃ c ∈ ['Z', '+', '-'], ∃ text,
      (if zulu && offset == 0 then "Z" else writeOffset ":" offset).toList = c :: text ∧
        offset? separator true false (c :: text) = some (offset, []) := by
  by_cases hz : (zulu && offset == 0) = true
  · have hzero : offset = 0 := by
      simp only [Bool.and_eq_true, beq_iff_eq] at hz
      exact hz.2
    exact ⟨'Z', by simp, [], by rw [if_pos hz]; rfl, by rw [hzero]; rfl⟩
  · rw [if_neg hz]
    have hcolon {width n : Nat} {digits : List Char} (h : IsNumeral (width + 1) n digits) :
        separator (":".toList ++ digits) = some digits := hseparator h
    obtain ⟨c, hc, text, htext, hread⟩ := offset?_writeOffset hcolon true hlt hminute
    exact ⟨c, List.mem_cons_of_mem _ hc, text, htext, hread⟩

/-! ## The whole timestamp -/

theorem toList_write (zulu : Bool) (m : Moment) :
    (write zulu m).toList =
      (writeYear m.localDay.year).toList ++ '-' :: ((padded 2 m.localDay.month).toList ++
        '-' :: ((padded 2 m.localDay.dayOfMonth).toList ++ 'T' :: ((padded 2 m.hour).toList ++
        ':' :: ((padded 2 m.minute).toList ++ ':' :: ((padded 2 m.second).toList ++
        ((writeFraction m.fraction).toList ++
        (if zulu && m.offset == 0 then "Z" else writeOffset ":" m.offset).toList)))))) := by
  simp [write, writeLocal]

/-- A year is read with its sign, if it has one, and then ends at the mark. -/
theorem read?_writeYear {year : Int} (hyear : year.natAbs < 1000000) (rest : List Char) :
    DateNumber.year.read? ((writeYear year).toList ++ '-' :: rest) = some (year, '-' :: rest) := by
  have hdash : ∀ c ∈ ('-' :: rest).head?, isDigit c = false := by
    intro c hc
    cases hc
    decide
  have hsize : year.natAbs < 2 ^ 63 := by omega
  have hread := DateNumber.readDigits?_run (isNumeral_padded_self 4 year.natAbs)
    (padded_ne_nil 4 year.natAbs) hsize hdash
  by_cases hplain : 0 ≤ year ∧ year ≤ 9999
  · obtain ⟨hlow, hhigh⟩ := hplain
    have hnumeral : IsNumeral 4 year.toNat (padded 4 year.toNat).toList :=
      isNumeral_padded (by decide) (by omega)
    have htext : writeYear year = padded 4 year.toNat := by simp [writeYear, hlow, hhigh]
    rw [htext, DateNumber.read?_append rfl hnumeral (by omega), Int.toNat_of_nonneg hlow]
  · have hguard : (decide (0 ≤ year) && decide (year ≤ 9999)) = false := by simpa using hplain
    have hsign : isBlank '-' = false ∧ isBlank '+' = false := by decide
    by_cases hneg : year < 0
    · have htext : (writeYear year).toList = '-' :: (padded 4 year.natAbs).toList := by
        simp [writeYear, hguard, hneg]
      have hvalue : -|year| = year := by rw [abs_of_neg hneg, neg_neg]
      simp [DateNumber.read?, htext, trimStart, hsign, hread, hvalue]
    · have htext : (writeYear year).toList = '+' :: (padded 4 year.natAbs).toList := by
        simp [writeYear, hguard, hneg]
      have hvalue : (year.natAbs : Int) = year := by omega
      simp [DateNumber.read?, htext, trimStart, hsign, hread, hvalue]

theorem readNumbers_date {m : Moment} (h : m.IsTold) (rest : List Char) :
    readNumbers '-' {} ((writeYear m.localDay.year).toList ++ '-' ::
        ((padded 2 m.localDay.month).toList ++ '-' ::
          ((padded 2 m.localDay.dayOfMonth).toList ++ rest))) [.year, .month, .dayOfMonth] =
      some ({ year := some m.localDay.year, month := some m.localDay.month
              dayOfMonth := some m.localDay.dayOfMonth }, rest) := by
  have hyear_lt := h.natAbs_year_lt
  obtain ⟨-, hmonth_le⟩ := Day.month_bounds m.localDay
  obtain ⟨-, hday_le⟩ := Day.dayOfMonth_bounds m.localDay
  have hdate (rest : List Char) : readNumbers '-' {} ((writeYear m.localDay.year).toList ++ '-' :: rest)
      [.year, .month, .dayOfMonth] =
        readNumbers '-' { year := some m.localDay.year } rest [.month, .dayOfMonth] := by
    have hdash : isBlank '-' = false := by decide
    simp [readNumbers, readNumber, read?_writeYear hyear_lt, DateFields.set_year h, trimStart, hdash, dropHead?]
  rw [hdate,
    readNumbers_append (by decide) rfl (isNumeral_padded (by decide) (by omega)) (by omega)
      (DateFields.set_month m.localDay rfl),
    readNumbers,
    readNumber_append rfl (isNumeral_padded (by decide) (by omega)) (by omega)
      (DateFields.set_dayOfMonth m.localDay rfl)]

theorem readNumbers_clock {m : Moment} (h : m.IsTold) (rest : List Char) :
    readNumbers ':' { year := some m.localDay.year, month := some m.localDay.month
                      dayOfMonth := some m.localDay.dayOfMonth }
        ((padded 2 m.hour).toList ++ ':' :: ((padded 2 m.minute).toList ++ ':' ::
          ((padded 2 m.second).toList ++ rest))) [.hour, .minute, .second] =
      some ({ m.dateFields with nanosecond := none, offset := none }, rest) := by
  have hhour := m.hour_lt
  have hminute := m.minute_lt
  have hsecond := h.second_le
  rw [readNumbers_append (by decide) rfl (isNumeral_padded (by decide) (by omega)) (by omega)
      (DateFields.set_hour m rfl rfl),
    readNumbers_append (by decide) rfl (isNumeral_padded (by decide) (by omega)) (by omega)
      (DateFields.set_minute m rfl),
    readNumbers,
    readNumber_append rfl (isNumeral_padded (by decide) (by omega)) (by omega) (DateFields.set_second h rfl)]
  rfl

/-- The lenient reader gets the fields of a moment from its timestamp. -/
theorem readFields_write (zulu : Bool) {m : Moment} (h : m.IsTold) :
    readFields {} (write zulu m).toList = some (m.dateFields, []) := by
  have hfraction : m.fraction < 1000000000 := Nat.mod_lt _ (by decide)
  obtain ⟨c, hc, text, hspelling, hoffset⟩ :=
    offset?_spelling skipsColon_skipSeparators zulu h.offset_lt h.wholeMinute
  have hmark : isBlank c = false ∧ isDigit c = false ∧ c ≠ '.' ∧ 'u' ≠ c.toLower := by
    simp only [List.mem_cons, List.not_mem_nil, or_false] at hc
    rcases hc with rfl | rfl | rfl <;> decide
  have htrim : trimStart (c :: text) = c :: text := by simp [trimStart, hmark.1]
  have hfolded : DateName.dropFolded? ['u', 't', 'c'] (c :: text) = none := by
    have hne := hmark.2.2.2
    simp [DateName.dropFolded?, hne]
  have hread : readFraction { m.dateFields with nanosecond := none, offset := none }
      ((writeFraction m.fraction).toList ++ c :: text) =
      some ({ m.dateFields with offset := none }, c :: text) := by
    rw [readFraction_append hfraction (by simpa using ⟨hmark.2.1, hmark.2.2.1⟩) rfl]
    rfl
  have hset : DateFields.setOffset m.offset { m.dateFields with offset := none } =
      some m.dateFields := rfl
  rw [toList_write, hspelling]
  simp only [readFields, readNumbers_date h, readNumbers_clock h, Option.bind_eq_bind,
    Option.bind_some]
  rw [hread]
  simp only [Option.bind_some, htrim, hfolded, hoffset, hset, decide_true, Bool.true_or, if_true]

/-- **Timestamps are read back.**  The lenient reader undoes the writer, with either spelling of offset
zero. -/
theorem readLenient?_write (zulu : Bool) {m : Moment} (h : m.IsTold) :
    readLenient? (write zulu m) = some m := by
  simp [readLenient?, readFields_write zulu h, trimStart, Moment.moment?_dateFields h]

end Timestamp

end ReleasePress
