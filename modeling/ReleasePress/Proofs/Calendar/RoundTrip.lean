import ReleasePress.Proofs.Calendar.Format
import ReleasePress.Proofs.Calendar.Timestamp

/-!
# Dates are read back

A text that was written in a pattern is read back in the same pattern as the moment that it was written for, as far
as the pattern tells it.  The three ways of reading a date each have a pattern here: with names and the offset the
text names the moment in full, with numbers and no offset it names a local time, and a day alone names its midnight
(`DateFormat.readsBack`).

Writing and reading meet in the text.  What the writer makes of the items of a pattern is computed once
(`DateItem.writeAll?_standard`, `writeAll?_local`, `writeAll?_day`), and then the reader goes through it from left to
right.  A number of full width ends by itself and a name by its three letters; a day without zeros in front ends
where its digits do, which is why the blank behind it matters.  A blank takes all that follow it, so what stands
behind one must not begin with another.
-/

namespace ReleasePress

open ReleasePress.Text

/-- The fields that a day alone gives to a reader. -/
def Day.dateFields (day : Day) : DateFields where
  year := some day.year
  month := some day.month
  dayOfMonth := some day.dayOfMonth

/-! ## The beginning of a second and of a day -/

namespace Moment

variable {m : Moment}

/-- The moment at the beginning of its second. -/
def truncated (m : Moment) : Moment :=
  { m with nanos := 0 }

theorem IsWritable.truncated (h : m.IsWritable) : m.truncated.IsWritable where
  nanos_lt := show 0 < 2 * nanosPerSecond by decide
  leap hle := absurd (show nanosPerSecond ≤ 0 from hle) (by decide)
  offset_lt := h.offset_lt
  wholeMinute := h.wholeMinute
  year_nonneg := h.year_nonneg
  year_le := h.year_le

/-- The midnight that the day begins with on the clock of the moment. -/
def startOfDay (m : Moment) : Moment :=
  ⟨m.localDay.number * 86400 - m.offset, 0, m.offset⟩

theorem localDay_startOfDay (m : Moment) : m.startOfDay.localDay = m.localDay := by
  simp only [startOfDay, localDay, localSeconds, Day.mk.injEq]
  omega

theorem secondOfDay_startOfDay (m : Moment) : m.startOfDay.secondOfDay = 0 := by
  simp only [startOfDay, secondOfDay, localSeconds]
  omega

theorem IsWritable.startOfDay (h : m.IsWritable) : m.startOfDay.IsWritable where
  nanos_lt := show 0 < 2 * nanosPerSecond by decide
  leap hle := absurd (show nanosPerSecond ≤ 0 from hle) (by decide)
  offset_lt := h.offset_lt
  wholeMinute := h.wholeMinute
  year_nonneg := m.localDay_startOfDay ▸ h.year_nonneg
  year_le := m.localDay_startOfDay ▸ h.year_le

/-- Outside leap seconds all but the fraction is the same at the beginning of the second. -/
theorem dateFields_truncated (hnanos : m.nanos < nanosPerSecond) :
    m.truncated.dateFields = { m.dateFields with nanosecond := none } := by
  have hsecond : m.truncated.second = m.second := by
    have hdiv : m.nanos / nanosPerSecond = 0 := Nat.div_eq_of_lt hnanos
    simp only [second, hdiv, truncated, Nat.zero_div]
    rfl
  rw [dateFields, hsecond]
  rfl

end Moment

/-! ## Texts of numbers and names -/

namespace DateNumber

theorem twoPlaces_zeros {n : Nat} (hn : n < 100) : twoPlaces .zeros n = padded 2 n := by
  have hall : ∀ k : Fin 100, twoPlaces .zeros (k : Nat) = padded 2 k := by decide +kernel
  exact hall ⟨n, hn⟩

theorem twoPlaces_nothing {n : Nat} (hn : n < 100) : twoPlaces .nothing n = padded 1 n := by
  have hall : ∀ k : Fin 100, twoPlaces .nothing (k : Nat) = padded 1 k := by decide +kernel
  exact hall ⟨n, hn⟩

variable {m : Moment}

theorem write_year (h : m.IsWritable) : year.write m .zeros = padded 4 m.localDay.year.toNat := by
  have hlow := h.year_nonneg
  have hhigh := h.year_le
  have hneg : ¬ m.localDay.year < 0 := by omega
  have hnat : m.localDay.year.natAbs = m.localDay.year.toNat := by omega
  simp [write, value, writeYear, hlow, hhigh, fill, padded, hneg, hnat]

theorem write_month (m : Moment) : month.write m .zeros = padded 2 m.localDay.month := by
  have hbounds := Day.month_bounds m.localDay
  exact twoPlaces_zeros (by omega)

theorem write_dayOfMonth (m : Moment) : dayOfMonth.write m .zeros = padded 2 m.localDay.dayOfMonth := by
  have hbounds := Day.dayOfMonth_bounds m.localDay
  exact twoPlaces_zeros (by omega)

theorem write_shortDay (m : Moment) : dayOfMonth.write m .nothing = padded 1 m.localDay.dayOfMonth := by
  have hbounds := Day.dayOfMonth_bounds m.localDay
  exact twoPlaces_nothing (by omega)

theorem write_hour (m : Moment) : hour.write m .zeros = padded 2 m.hour := by
  have hlt := m.hour_lt
  exact twoPlaces_zeros (by omega)

theorem write_minute (m : Moment) : minute.write m .zeros = padded 2 m.minute := by
  have hlt := m.minute_lt
  exact twoPlaces_zeros (by omega)

theorem write_second (h : m.IsTold) : second.write m .zeros = padded 2 m.second := by
  have hle := h.second_le
  exact twoPlaces_zeros (by omega)

end DateNumber

namespace DateName

theorem read?_shortWeekday {index : Nat} (hindex : index < 7) (rest : List Char) :
    read? false weekdays ((short weekdays index).toList ++ rest) = some (index, rest) := by
  interval_cases index <;> rfl

theorem read?_shortMonth {index : Nat} (hindex : index < 12) (rest : List Char) :
    read? false months ((short months index).toList ++ rest) = some (index, rest) := by
  interval_cases index <;> rfl

theorem trimStart_shortMonth {index : Nat} (hindex : index < 12) (rest : List Char) :
    trimStart ((short months index).toList ++ rest) = (short months index).toList ++ rest := by
  interval_cases index <;> rfl

end DateName

namespace DateItem

variable {fields fields' : DateFields} {text digits rest : List Char} {items : List DateItem}
  {number : DateNumber} {width n : Nat} {m : Moment}

/-! ## Reading one item -/

theorem readItems?_cons {item : DateItem} (h : read1? fields text item = some (fields', rest)) :
    readItems? fields text (item :: items) = readItems? fields' rest items := by
  rw [readItems?, h]

theorem readItems?_mark (c : Char) :
    readItems? fields (c :: rest) (mark c :: items) = readItems? fields rest items :=
  readItems?_cons (by simp [mark, read1?, dropHead?])

/-- A blank ends in front of what does not begin with another. -/
theorem readItems?_space (h : trimStart rest = rest) :
    readItems? fields (' ' :: rest) (.space [' '] :: items) = readItems? fields rest items := by
  have hblank : trimStart (' ' :: rest) = trimStart rest := rfl
  exact readItems?_cons (by rw [read1?, hblank, h])

theorem readItems?_number (hplaces : number.places = some (width + 1)) (h : IsNumeral (width + 1) n digits)
    (hn : n < 2 ^ 63) (hset : fields.set n number = some fields') :
    readItems? fields (digits ++ rest) (zeros number :: items) = readItems? fields' rest items :=
  readItems?_cons (by simp [zeros, read1?, DateNumber.read?_append hplaces h hn, hset])

theorem readItems?_pair (hplaces : number.places = some 2) (hn : n < 100)
    (hset : fields.set n number = some fields') :
    readItems? fields ((padded 2 n).toList ++ rest) (zeros number :: items) = readItems? fields' rest items :=
  readItems?_number hplaces (isNumeral_padded (by decide) hn) (by omega) hset

theorem readItems?_year (h : m.IsWritable) (hnone : fields.year = none) :
    readItems? fields ((padded 4 m.localDay.year.toNat).toList ++ rest) (zeros .year :: items) =
      readItems? { fields with year := some m.localDay.year } rest items := by
  have hlow := h.year_nonneg
  have hhigh := h.year_le
  have hyear : IsNumeral 4 m.localDay.year.toNat (padded 4 m.localDay.year.toNat).toList :=
    isNumeral_padded (by decide) (by omega)
  have hset : fields.set (m.localDay.year.toNat : Nat) .year = some { fields with year := some m.localDay.year } := by
    rw [Int.toNat_of_nonneg hlow]
    exact DateFields.set_year h.isTold hnone
  exact readItems?_number rfl hyear (by omega) hset

/-- A day of the month without zeros in front ends where its digits do. -/
theorem readItems?_shortDay {day : Day} (hnone : fields.dayOfMonth = none)
    (hrest : ∀ c ∈ rest.head?, isDigit c = false) :
    readItems? fields ((padded 1 day.dayOfMonth).toList ++ rest) (.number .dayOfMonth .nothing :: items) =
      readItems? { fields with dayOfMonth := some day.dayOfMonth } rest items := by
  have hbounds := Day.dayOfMonth_bounds day
  have hlt : day.dayOfMonth < 10 ^ 2 := by omega
  obtain ⟨width, hwidth, hday⟩ := isNumeral_padded_one (by decide) hlt
  have hread := DateNumber.readDigits?_short hday hwidth (by omega) hrest
  refine readItems?_cons ?_
  simp [read1?, DateNumber.read?, DateNumber.places, hday.trimStart_append, hread,
    DateFields.set_dayOfMonth day hnone]

theorem readItems?_weekday (day : Day) (hnone : fields.weekday = none) :
    readItems? fields ((DateName.short DateName.weekdays day.weekday).toList ++ rest)
        (.field .shortWeekday :: items) =
      readItems? { fields with weekday := some (day.weekday : Int) } rest items := by
  have hlt : day.weekday < 7 := by
    simp only [Day.weekday]
    omega
  refine readItems?_cons ?_
  simp [read1?, DateField.read?, DateField.read?.weekday, DateName.read?_shortWeekday hlt, DateFields.setWeekday,
    DateFields.agree, hnone]

theorem readItems?_month (day : Day) (hnone : fields.month = none) :
    readItems? fields ((DateName.short DateName.months (day.month - 1)).toList ++ rest)
        (.field .shortMonth :: items) =
      readItems? { fields with month := some day.month } rest items := by
  obtain ⟨hpos, hle⟩ := Day.month_bounds day
  have hindex : ((day.month - 1 : Nat) : Int) + 1 = day.month := by omega
  have hlt : day.month - 1 < 12 := by omega
  refine readItems?_cons ?_
  simp only [read1?, DateField.read?, DateField.read?.month, Option.bind_eq_bind, DateName.read?_shortMonth hlt,
    Option.bind_some, hindex, DateFields.set_month day hnone]

theorem trimStart_writeOffset (offset : Int) :
    trimStart (Timestamp.writeOffset "" offset).toList = (Timestamp.writeOffset "" offset).toList := by
  have hmarks : isBlank '+' = false ∧ isBlank '-' = false := by decide
  by_cases hneg : offset < 0 <;> simp [Timestamp.writeOffset, hneg, trimStart, hmarks]

theorem readItems?_offset {offset : Int} (hlt : offset.natAbs < 86400) (hminute : offset % 60 = 0)
    (hnone : fields.offset = none) :
    readItems? fields (Timestamp.writeOffset "" offset).toList [.field .offset] =
      some ({ fields with offset := some offset }, []) := by
  have hskip {width n : Nat} {digits : List Char} (h : IsNumeral (width + 1) n digits) :
      Timestamp.skipSeparators ("".toList ++ digits) = some digits := Timestamp.skipSeparators_numeral h
  obtain ⟨c, -, text, htext, hread⟩ := Timestamp.offset?_writeOffset hskip false hlt hminute
  have htrim := trimStart_writeOffset offset
  have hset : fields.setOffset offset = some { fields with offset := some offset } := by
    simp [DateFields.setOffset, DateFields.agree, hnone]
  rw [htext] at htrim ⊢
  refine readItems?_cons ?_
  simp [read1?, DateField.read?, DateField.read?.offset, htrim, hread, hset]

/-! ## Dates and times of day -/

/-- Year, month and day of the month, with dashes. -/
def dateText (m : Moment) : List Char :=
  (padded 4 m.localDay.year.toNat).toList ++ '-' :: ((padded 2 m.localDay.month).toList ++
    '-' :: (padded 2 m.localDay.dayOfMonth).toList)

/-- Weekday, month and day of the month, with names and no zeros in front. -/
def namedText (m : Moment) : List Char :=
  (DateName.short DateName.weekdays m.localDay.weekday).toList ++ ' ' ::
    ((DateName.short DateName.months (m.localDay.month - 1)).toList ++ ' ' ::
      (padded 1 m.localDay.dayOfMonth).toList)

/-- Hour, minute and second, with colons. -/
def clockText (m : Moment) : List Char :=
  (padded 2 m.hour).toList ++ ':' :: ((padded 2 m.minute).toList ++ ':' :: (padded 2 m.second).toList)

/-- The items of a date in numbers, and others behind it. -/
def datedItems (items : List DateItem) : List DateItem :=
  zeros .year :: mark '-' :: zeros .month :: mark '-' :: zeros .dayOfMonth :: items

/-- The items of a date with names, and others behind it. -/
def namedItems (items : List DateItem) : List DateItem :=
  .field .shortWeekday :: .space [' '] :: .field .shortMonth :: .space [' '] :: .number .dayOfMonth .nothing :: items

theorem readItems?_date (h : m.IsWritable) (hyear : fields.year = none) (hmonth : fields.month = none)
    (hday : fields.dayOfMonth = none) :
    readItems? fields (dateText m ++ rest) (datedItems items) =
      readItems? { fields with
        year := some m.localDay.year, month := some m.localDay.month, dayOfMonth := some m.localDay.dayOfMonth }
        rest items := by
  obtain ⟨-, hmonth_le⟩ := Day.month_bounds m.localDay
  obtain ⟨-, hday_le⟩ := Day.dayOfMonth_bounds m.localDay
  simp only [dateText, datedItems, List.append_assoc, List.cons_append]
  rw [readItems?_year h hyear, readItems?_mark,
    readItems?_pair rfl (by omega) (DateFields.set_month m.localDay ?_), readItems?_mark,
    readItems?_pair rfl (by omega) (DateFields.set_dayOfMonth m.localDay ?_)]
  · exact hday
  · exact hmonth

theorem readItems?_named (m : Moment) (hrest : ∀ c ∈ rest.head?, isDigit c = false) :
    readItems? {} (namedText m ++ rest) (namedItems items) =
      readItems? { month := some (m.localDay.month : Int), weekday := some (m.localDay.weekday : Int)
                   dayOfMonth := some (m.localDay.dayOfMonth : Int) } rest items := by
  have hmonth := Day.month_bounds m.localDay
  have hbounds := Day.dayOfMonth_bounds m.localDay
  have hlt : m.localDay.dayOfMonth < 10 ^ 2 := by omega
  obtain ⟨width, -, hday⟩ := isNumeral_padded_one (by decide) hlt
  simp only [namedText, namedItems, List.append_assoc, List.cons_append]
  rw [readItems?_weekday m.localDay rfl, readItems?_space (DateName.trimStart_shortMonth (by omega) _),
    readItems?_month m.localDay rfl, readItems?_space hday.trimStart_append, readItems?_shortDay rfl hrest]

theorem readItems?_clock (h : m.IsTold) (hhalf : fields.half = none) (hhour : fields.hourOfHalf = none)
    (hminute : fields.minute = none) (hsecond : fields.second = none) :
    readItems? fields (clockText m ++ rest) (clock ++ items) =
      readItems? { fields with
        half := some ((m.hour : Int) / 12), hourOfHalf := some ((m.hour : Int) % 12)
        minute := some m.minute, second := some m.second } rest items := by
  have hhour_lt := m.hour_lt
  have hminute_lt := m.minute_lt
  have hsecond_le := h.second_le
  simp only [clockText, clock, List.append_assoc, List.cons_append, List.nil_append]
  rw [readItems?_pair rfl (by omega) (DateFields.set_hour m hhalf hhour), readItems?_mark,
    readItems?_pair rfl (by omega) (DateFields.set_minute m ?_), readItems?_mark,
    readItems?_pair rfl (by omega) (DateFields.set_second h ?_)]
  · exact hsecond
  · exact hminute

theorem trimStart_clockText (m : Moment) (rest : List Char) :
    trimStart (clockText m ++ rest) = clockText m ++ rest := by
  have hlt := m.hour_lt
  have hhour : IsNumeral 2 m.hour (padded 2 m.hour).toList := isNumeral_padded (by decide) (by omega)
  rw [clockText, List.append_assoc, hhour.trimStart_append]

/-! ## The three patterns -/

/-- The items of a date and a time of day with names, and the offset. -/
def standardItems : List DateItem :=
  namedItems (.space [' '] :: (clock ++ [.space [' '], zeros .year, .space [' '], .field .offset]))

theorem listOf?_standard : listOf? DateFormat.standard = some standardItems := rfl

theorem listOf?_local : listOf? "%Y-%m-%d %H:%M:%S" = some (datedItems (.space [' '] :: clock)) := rfl

theorem listOf?_day : listOf? "%Y-%m-%d" = some (datedItems []) := rfl

/-- A date and a time of day with names, and the offset. -/
def standardText (m : Moment) : List Char :=
  namedText m ++ ' ' :: (clockText m ++ ' ' :: ((padded 4 m.localDay.year.toNat).toList ++ ' ' ::
    (Timestamp.writeOffset "" m.offset).toList))

theorem writeAll?_standard (name : String) (h : m.IsWritable) :
    writeAll? name m standardItems = some (String.ofList (standardText m)) := by
  simp [writeAll?, standardItems, namedItems, clock, write?, DateField.write?, zeros, mark, standardText, namedText,
    clockText, DateNumber.write_shortDay, DateNumber.write_hour, DateNumber.write_minute,
    DateNumber.write_second h.isTold, DateNumber.write_year h]

theorem writeAll?_local (name : String) (h : m.IsWritable) :
    writeAll? name m (datedItems (.space [' '] :: clock)) =
      some (String.ofList (dateText m ++ ' ' :: clockText m)) := by
  simp [writeAll?, datedItems, clock, write?, zeros, mark, dateText, clockText, DateNumber.write_year h,
    DateNumber.write_month, DateNumber.write_dayOfMonth, DateNumber.write_hour, DateNumber.write_minute,
    DateNumber.write_second h.isTold]

theorem writeAll?_day (name : String) (h : m.IsWritable) :
    writeAll? name m (datedItems []) = some (String.ofList (dateText m)) := by
  simp [writeAll?, datedItems, write?, zeros, mark, dateText, DateNumber.write_year h, DateNumber.write_month,
    DateNumber.write_dayOfMonth]

theorem readItems?_standard (h : m.IsWritable) (hnanos : m.nanos < Moment.nanosPerSecond) :
    readItems? {} (standardText m) standardItems =
      some ({ m.truncated.dateFields with weekday := some (m.localDay.weekday : Int) }, []) := by
  have hhigh := h.year_le
  have hyear : IsNumeral 4 m.localDay.year.toNat (padded 4 m.localDay.year.toNat).toList :=
    isNumeral_padded (by decide) (by omega)
  have hblank : isDigit ' ' = false := by decide
  rw [standardText, standardItems, readItems?_named m (by simpa using hblank),
    readItems?_space (trimStart_clockText m _), readItems?_clock h.isTold rfl rfl rfl rfl,
    readItems?_space hyear.trimStart_append, readItems?_year h rfl,
    readItems?_space (trimStart_writeOffset m.offset), readItems?_offset h.offset_lt h.wholeMinute rfl,
    Moment.dateFields_truncated hnanos]
  rfl

theorem readItems?_local (h : m.IsWritable) (hnanos : m.nanos < Moment.nanosPerSecond) :
    readItems? {} (dateText m ++ ' ' :: clockText m) (datedItems (.space [' '] :: clock)) =
      some ({ m.truncated.dateFields with offset := none }, []) := by
  rw [← List.append_nil (clockText m), ← List.append_nil clock, readItems?_date h rfl rfl rfl,
    readItems?_space (trimStart_clockText m []), readItems?_clock h.isTold rfl rfl rfl rfl,
    Moment.dateFields_truncated hnanos]
  rfl

theorem readItems?_day (h : m.IsWritable) :
    readItems? {} (dateText m) (datedItems []) = some (m.localDay.dateFields, []) := by
  rw [← List.append_nil (dateText m), readItems?_date h rfl rfl rfl]
  rfl

end DateItem

namespace DateFormat

variable {format : DateFormat} {zone : Int} {pattern : Option String} {universal : Bool} {m found : Moment}

/-! ## What the fields name -/

/-- A date and a time of day with the offset name the moment in full. -/
theorem namesOn_standard (zone : Int) (h : m.IsWritable) :
    ({ m.truncated.dateFields with weekday := some (m.localDay.weekday : Int) } : DateFields).NamesOn zone
      m.truncated := by
  have hrange := h.isTold.inRange_localDay
  refine .inFull (Moment.moment?_eq h.truncated.isTold (Moment.day?_named hrange ?_) ?_ rfl rfl)
  · rintro n ⟨⟩
    rfl
  · exact Moment.clock?_dateFields h.truncated.isTold

/-- A date and a time of day without an offset name the moment on the clock. -/
theorem namesOn_local (h : m.IsWritable) :
    ({ m.truncated.dateFields with offset := none } : DateFields).NamesOn m.offset m.truncated :=
  have hlocal := Moment.local?_eq (Moment.day?_dateFields h.truncated.isTold)
    (Moment.clock?_dateFields h.truncated.isTold) rfl 0
  .onClock rfl hlocal (Moment.ofLocal?_self h.truncated.isTold.inRange)

/-- A day names its midnight on the clock. -/
theorem namesOn_day (h : m.IsWritable) : m.localDay.dateFields.NamesOn m.offset m.startOfDay := by
  have hday : m.localDay.dateFields.day? = .ok m.localDay :=
    Moment.day?_named h.isTold.inRange_localDay (by rintro n ⟨⟩)
  have hlocal : m.localDay.dateFields.local? 0 = none := by
    rw [DateFields.local?, hday]
    rfl
  have hself := Moment.ofLocal?_self h.startOfDay.isTold.inRange
  rw [m.localDay_startOfDay, m.secondOfDay_startOfDay] at hself
  exact .atMidnight rfl hlocal hday hself

/-! ## There and back -/

/-- A moment that is written is read back as the moment `found`. -/
def ReadsBack (format : DateFormat) (zone : Int) (pattern : Option String) (universal : Bool) (m found : Moment) :
    Prop :=
  ∃ text, format.write zone m pattern universal = .ok text ∧ format.read? zone text pattern = some found

/-- The moment on the clock that it is written on. -/
def shown (zone : Int) (universal : Bool) (m : Moment) : Moment :=
  m.withOffset (if universal then 0 else zone)

/-- Writing and reading meet in a text of the items. -/
theorem readsBack_of_items {items : List DateItem} {text : List Char} {fields : DateFields}
    (hitems : DateItem.listOf? (pattern.getD format.pattern) = some items)
    (hwrite : ∀ name, DateItem.writeAll? name (shown zone universal m) items = some (String.ofList text))
    (hread : DateItem.readItems? {} text items = some (fields, [])) (hnames : fields.NamesOn zone found) :
    format.ReadsBack zone pattern universal m found := by
  refine ⟨String.ofList text, ?_, read?_eq_some hitems ?_ hnames⟩
  · cases universal <;>
      simp only [shown, Bool.false_eq_true, if_true, if_false] at hwrite <;>
      simp [write, hitems, hwrite]
  · simp [DateItem.readAll?, hread]

theorem isWritable_shown (hzone : zone.natAbs < 86400) (hminute : zone % 60 = 0)
    (hnanos : m.nanos < Moment.nanosPerSecond) (hlow : 0 ≤ (shown zone universal m).localDay.year)
    (hhigh : (shown zone universal m).localDay.year ≤ 9999) : (shown zone universal m).IsWritable where
  nanos_lt := Nat.lt_of_lt_of_le hnanos (by decide)
  leap hle := absurd hnanos (Nat.not_lt.2 hle)
  offset_lt := by cases universal <;> simp [shown, Moment.withOffset, hzone]
  wholeMinute := by cases universal <;> simp [shown, Moment.withOffset, hminute]
  year_nonneg := hlow
  year_le := hhigh

/-- **Dates are read back.**  Outside leap seconds, and as long as the year has at most four digits on the clock that
it is written on, a date that is written and read in the standard pattern is the same instant at the beginning of its
second, and so it is in the pattern of a local time on the local clock; in the pattern of a day it is the midnight of
its day there. -/
theorem readsBack (hzone : zone.natAbs < 86400) (hminute : zone % 60 = 0) (hnanos : m.nanos < Moment.nanosPerSecond)
    (hlow : 0 ≤ (shown zone universal m).localDay.year) (hhigh : (shown zone universal m).localDay.year ≤ 9999) :
    (pattern.getD format.pattern = standard →
      format.ReadsBack zone pattern universal m (shown zone universal m).truncated) ∧
    (pattern.getD format.pattern = "%Y-%m-%d %H:%M:%S" → universal = false →
      format.ReadsBack zone pattern universal m (shown zone universal m).truncated) ∧
    (pattern.getD format.pattern = "%Y-%m-%d" → universal = false →
      ∃ midnight, format.ReadsBack zone pattern universal m midnight ∧
        midnight.localDay = (shown zone universal m).localDay ∧ midnight.secondOfDay = 0 ∧ midnight.nanos = 0 ∧
        midnight.offset = zone) := by
  have h := isWritable_shown hzone hminute hnanos hlow hhigh
  refine ⟨fun hpattern => ?_, fun hpattern huniversal => ?_, fun hpattern huniversal => ?_⟩
  · exact readsBack_of_items (hpattern ▸ DateItem.listOf?_standard) (fun name => DateItem.writeAll?_standard name h)
      (DateItem.readItems?_standard h hnanos) (namesOn_standard zone h)
  · subst huniversal
    exact readsBack_of_items (hpattern ▸ DateItem.listOf?_local) (fun name => DateItem.writeAll?_local name h)
      (DateItem.readItems?_local h hnanos) (namesOn_local h)
  · subst huniversal
    have hback := readsBack_of_items (hpattern ▸ DateItem.listOf?_day) (fun name => DateItem.writeAll?_day name h)
      (DateItem.readItems?_day h) (namesOn_day h)
    exact ⟨_, hback, Moment.localDay_startOfDay _, Moment.secondOfDay_startOfDay _, rfl, rfl⟩

/-- Shortly before midnight of a leap day in universal time it is the first of March at `+05:45`: the date is read
back there to the second, with or without its offset, and its day as midnight of the first of March. -/
theorem readsBack_leapDay :
    (⟨standard, rfl⟩ : DateFormat).ReadsBack 20700 none true ⟨1709251199, 987654321, -3600⟩ ⟨1709251199, 0, 0⟩ ∧
      (⟨standard, rfl⟩ : DateFormat).ReadsBack 20700 none false ⟨1709251199, 987654321, -3600⟩
        ⟨1709251199, 0, 20700⟩ ∧
      (⟨standard, rfl⟩ : DateFormat).ReadsBack 20700 (some "%Y-%m-%d %H:%M:%S") false
        ⟨1709251199, 987654321, -3600⟩ ⟨1709251199, 0, 20700⟩ ∧
      ∃ midnight, (⟨standard, rfl⟩ : DateFormat).ReadsBack 20700 (some "%Y-%m-%d") false
        ⟨1709251199, 987654321, -3600⟩ midnight ∧ midnight.localDay = ⟨19783⟩ ∧ midnight.secondOfDay = 0 ∧
        midnight.nanos = 0 ∧ midnight.offset = 20700 := by
  refine ⟨?_, ?_, ?_, ?_⟩
  · exact (readsBack (by decide) (by decide) (by decide) (by decide) (by decide)).1 rfl
  · exact (readsBack (by decide) (by decide) (by decide) (by decide) (by decide)).1 rfl
  · exact (readsBack (by decide) (by decide) (by decide) (by decide) (by decide)).2.1 rfl rfl
  · exact (readsBack (by decide) (by decide) (by decide) (by decide) (by decide)).2.2 rfl rfl

end DateFormat

end ReleasePress
