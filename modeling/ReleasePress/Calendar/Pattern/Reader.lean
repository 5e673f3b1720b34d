import ReleasePress.Calendar.Pattern
import ReleasePress.Calendar.Pattern.Names
import ReleasePress.Calendar.Timestamp

/-!
# Reading moments with a date pattern

Reading a text against the items of a pattern fills in a set of fields.  A field that is read twice must
have the same value both times.  The fields then name a moment, a local time or a day, provided that
they are enough for it and do not contradict each other.

## Main declarations

* `DateFields`: the fields read from a text.
* `DateItem.readAll?`: the fields that a text gives to the items of a pattern.
* `DateFields.day?`, `DateFields.clock?`, `DateFields.local?`, `DateFields.moment?`: what the fields name.
* `Timestamp.readLenient?`: timestamps with single digits and blanks between their parts.
-/

namespace ReleasePress

open ReleasePress.Text

/-- The fields of a date and a time of day, as far as they are known.  The hour is kept as half of the day
and hour of the half. -/
structure DateFields where
  year : Option Int := none
  century : Option Int := none
  yearOfCentury : Option Int := none
  isoYear : Option Int := none
  isoYearOfCentury : Option Int := none
  quarter : Option Int := none
  month : Option Int := none
  weekFromSunday : Option Int := none
  weekFromMonday : Option Int := none
  isoWeek : Option Int := none
  /-- The weekday, from Monday as 0. -/
  weekday : Option Int := none
  ordinal : Option Int := none
  dayOfMonth : Option Int := none
  half : Option Int := none
  hourOfHalf : Option Int := none
  minute : Option Int := none
  second : Option Int := none
  nanosecond : Option Int := none
  timestamp : Option Int := none
  offset : Option Int := none
  deriving DecidableEq, Repr

/-- Why fields do not name a moment. -/
inductive DateFault where
  | notEnough
  | impossible
  | outOfRange
  deriving DecidableEq, Repr

namespace DateFields

/-- A field with a further value, which must be the one it already has. -/
def agree (old : Option Int) (value : Int) : Option (Option Int) :=
  match old with
  | none => some (some value)
  | some old => if old = value then some (some old) else none

/-- A value between two bounds. -/
def between (low high : Int) (n : Int) : Option Int :=
  if low ≤ n && n ≤ high then some n else none

/-- The bounds of integers of 32 bits with a sign, which years are limited to. -/
def word (n : Int) : Option Int :=
  between (-2147483648) 2147483647 n

/-- The value of an hour as the fields keep it. -/
def setHour (n : Int) (fields : DateFields) : Option DateFields := do
  let n ← between 0 23 n
  let half ← agree fields.half (n / 12)
  let hourOfHalf ← agree fields.hourOfHalf (n % 12)
  some { fields with half, hourOfHalf }

/-- Sets the field of a number. -/
def set (n : Int) (fields : DateFields) : DateNumber → Option DateFields
  | .year => do some { fields with year := ← agree fields.year (← word n) }
  | .century => do some { fields with century := ← agree fields.century (← between 0 2147483647 n) }
  | .yearOfCentury => do
    some { fields with yearOfCentury := ← agree fields.yearOfCentury (← between 0 99 n) }
  | .isoYear => do some { fields with isoYear := ← agree fields.isoYear (← word n) }
  | .isoYearOfCentury => do
    some { fields with isoYearOfCentury := ← agree fields.isoYearOfCentury (← between 0 99 n) }
  | .quarter => do some { fields with quarter := ← agree fields.quarter (← between 1 4 n) }
  | .month => do some { fields with month := ← agree fields.month (← between 1 12 n) }
  | .dayOfMonth => do some { fields with dayOfMonth := ← agree fields.dayOfMonth (← between 1 31 n) }
  | .weekFromSunday => do
    some { fields with weekFromSunday := ← agree fields.weekFromSunday (← between 0 53 n) }
  | .weekFromMonday => do
    some { fields with weekFromMonday := ← agree fields.weekFromMonday (← between 0 53 n) }
  | .isoWeek => do some { fields with isoWeek := ← agree fields.isoWeek (← between 1 53 n) }
  | .weekdayFromSunday => do
    some { fields with weekday := ← agree fields.weekday (((← between 0 6 n) + 6) % 7) }
  | .weekdayFromMonday => do
    some { fields with weekday := ← agree fields.weekday ((← between 1 7 n) - 1) }
  | .ordinal => do some { fields with ordinal := ← agree fields.ordinal (← between 1 366 n) }
  | .hour => setHour n fields
  | .hour12 => do
    some { fields with hourOfHalf := ← agree fields.hourOfHalf ((← between 1 12 n) % 12) }
  | .minute => do some { fields with minute := ← agree fields.minute (← between 0 59 n) }
  | .second => do some { fields with second := ← agree fields.second (← between 0 60 n) }
  | .nanosecond => do
    some { fields with nanosecond := ← agree fields.nanosecond (← between 0 999999999 n) }
  | .timestamp => do some { fields with timestamp := ← agree fields.timestamp n }

/-- Sets the offset. -/
def setOffset (n : Int) (fields : DateFields) : Option DateFields := do
  some { fields with offset := ← agree fields.offset n }

/-- Sets the half of the day. -/
def setHalf (n : Int) (fields : DateFields) : Option DateFields := do
  some { fields with half := ← agree fields.half n }

/-- Sets the weekday, from Monday as 0. -/
def setWeekday (n : Int) (fields : DateFields) : Option DateFields := do
  some { fields with weekday := ← agree fields.weekday n }

end DateFields

namespace DateNumber

/-- The most digits that a number is read from; timestamps have no bound. -/
def places : DateNumber → Option Nat
  | .year => some 4
  | .isoYear => some 4
  | .quarter => some 1
  | .weekdayFromSunday => some 1
  | .weekdayFromMonday => some 1
  | .ordinal => some 3
  | .nanosecond => some 9
  | .timestamp => none
  | _ => some 2

/-- A non-empty run of digits, of which at most `places` are read, as a number of 64 bits with a sign. -/
def readDigits? (places : Option Nat) (text : List Char) : Option (Int × List Char) :=
  let run := text.takeWhile isDigit
  let digits := match places with
    | some n => run.take n
    | none => run
  let n := digitsValue digits
  if digits.isEmpty || n ≥ Nat.pow 2 63 then none else some (n, text.drop digits.length)

/-- A number in front of a text, after blanks.  Only years have signs, and a year with a sign may have
any number of digits. -/
def read? (field : DateNumber) (text : List Char) : Option (Int × List Char) :=
  let text := trimStart text
  let signed := field = .year || field = .isoYear
  match signed, text with
  | true, '-' :: text => (readDigits? none text).map fun (n, text) => (-n, text)
  | true, '+' :: text => readDigits? none text
  | _, text => readDigits? field.places text

end DateNumber

namespace DateName

/-- The text after `head`, which may differ in ASCII case. -/
def dropFolded? : List Char → List Char → Option (List Char)
  | [], text => some text
  | _ :: _, [] => none
  | h :: head, c :: text => if h.toLower = c.toLower then dropFolded? head text else none

/-- The index of the name in front of a text and the text after its short form. -/
def readShort? (text : List Char) : Nat → List (String × String) → Option (Nat × String × List Char)
  | _, [] => none
  | index, (head, tail) :: names =>
    match dropFolded? head.toList text with
    | some rest => some (index, tail, rest)
    | none => readShort? text (index + 1) names

/-- The index of the name in front of a text, of which the long form may follow the short one. -/
def read? (long : Bool) (names : List (String × String)) (text : List Char) :
    Option (Nat × List Char) :=
  (readShort? text 0 names).map fun (index, tail, rest) =>
    (index, if long then (dropFolded? tail.toList rest).getD rest else rest)

end DateName

namespace Timestamp

/-- Skips colons and blanks. -/
def skipSeparators (text : List Char) : Option (List Char) :=
  some (text.dropWhile fun c => c = ':' || isBlank c)

/-- A number of a timestamp, for the fields. -/
def readNumber (fields : DateFields) (text : List Char) (field : DateNumber) :
    Option (DateFields × List Char) := do
  let (n, text) ← field.read? text
  some (← fields.set n field, text)

/-- Numbers of a timestamp with a mark after each but the last, and blanks before the marks. -/
def readNumbers (mark : Char) (fields : DateFields) (text : List Char) :
    List DateNumber → Option (DateFields × List Char)
  | [] => some (fields, text)
  | [last] => readNumber fields text last
  | field :: rest => do
    let (fields, text) ← readNumber fields text field
    let text ← dropHead? [mark] (trimStart text)
    readNumbers mark fields text rest

/-- A fraction, if the text starts with a point. -/
def readFraction (fields : DateFields) : List Char → Option (DateFields × List Char)
  | '.' :: text => do
    let (n, text) ← nanos? text
    some (← fields.set n .nanosecond, text)
  | text => some (fields, text)

/-- The fields of a lenient timestamp in front of a text: numbers may have fewer digits, years a sign,
blanks may stand before marks and the offset, and `UTC` stands for offset zero. -/
def readFields (fields : DateFields) (text : List Char) : Option (DateFields × List Char) := do
  let (fields, text) ← readNumbers '-' fields text [.year, .month, .dayOfMonth]
  let text ← match text with
    | c :: text => if c = 'T' || c = 't' || c = ' ' then some text else none
    | [] => none
  let (fields, text) ← readNumbers ':' fields text [.hour, .minute, .second]
  let (fields, text) ← readFraction fields text
  let text := trimStart text
  let (offset, text) ← match DateName.dropFolded? ['u', 't', 'c'] text with
    | some text => some (0, text)
    | none => offset? skipSeparators true false text
  some (← fields.setOffset offset, text)

end Timestamp

namespace DateField

/-- Reads a field in front of a text into the fields. -/
def read? (fields : DateFields) (text : List Char) : DateField → Option (DateFields × List Char)
  | .shortMonth => month false
  | .longMonth => month true
  | .shortWeekday => weekday false
  | .longWeekday => weekday true
  | .lowerHalf => half
  | .upperHalf => half
  | .fraction => Timestamp.readFraction fields text
  | .fixedFraction _ => Timestamp.readFraction fields text
  | .bareFraction digits => do
    let (n, text) ← Timestamp.digits? digits text
    some (← fields.set (n * Nat.pow 10 (9 - digits) : Nat) .nanosecond, text)
  | .zoneName => some (fields, text.dropWhile fun c => !isBlank c)
  | .offset => offset false false
  | .offsetWithColons _ => offset false false
  | .lenientOffset => offset true true
  | .timestamp => Timestamp.readFields fields text
where
  month (long : Bool) : Option (DateFields × List Char) := do
    let (index, text) ← DateName.read? long DateName.months text
    some (← fields.set (index + 1) .month, text)
  weekday (long : Bool) : Option (DateFields × List Char) := do
    let (index, text) ← DateName.read? long DateName.weekdays text
    some (← fields.setWeekday index, text)
  half : Option (DateFields × List Char) :=
    match DateName.dropFolded? ['a', 'm'] text with
    | some text => (fields.setHalf 0).map fun fields => (fields, text)
    | none =>
      match DateName.dropFolded? ['p', 'm'] text with
      | some text => (fields.setHalf 1).map fun fields => (fields, text)
      | none => none
  offset (zulu bareHours : Bool) : Option (DateFields × List Char) := do
    let (n, text) ← Timestamp.offset? Timestamp.skipSeparators zulu bareHours (trimStart text)
    some (← fields.setOffset n, text)

end DateField

namespace DateItem

/-- Reads an item in front of a text into the fields.  White space matches any white space, or none. -/
def read1? (fields : DateFields) (text : List Char) : DateItem → Option (DateFields × List Char)
  | .literal head => (dropHead? head text).map fun text => (fields, text)
  | .space _ => some (fields, trimStart text)
  | .number n _ => do
    let (value, text) ← n.read? text
    some (← fields.set value n, text)
  | .field f => f.read? fields text

/-- Reads the items one after the other. -/
def readItems? (fields : DateFields) (text : List Char) :
    List DateItem → Option (DateFields × List Char)
  | [] => some (fields, text)
  | item :: items =>
    match read1? fields text item with
    | some (fields, text) => readItems? fields text items
    | none => none

/-- The fields that the whole text gives to the items. -/
def readAll? (items : List DateItem) (text : String) : Option DateFields :=
  match readItems? {} text.toList items with
  | some (fields, []) => some fields
  | _ => none

end DateItem

namespace DateFields

/-- The year that year, century and year of the century name together.  A year of the century alone lies
between 1970 and 2069. -/
def wholeYear (year century ofCentury : Option Int) : Except DateFault (Option Int) :=
  match year, century, ofCentury with
  | year, none, none => .ok year
  | some y, century, ofCentury =>
    if y < 0 then .error .impossible
    else if century.getD (y / 100) = y / 100 && ofCentury.getD (y % 100) = y % 100 then .ok (some y)
    else .error .impossible
  | none, some century, some r =>
    let y := century * 100 + r
    if y ≤ 2147483647 then .ok (some y) else .error .outOfRange
  | none, none, some r => .ok (some (r + if r < 70 then 2000 else 1900))
  | none, some _, none => .error .notEnough

/-- Whether a field, if it is known, has the value. -/
def admits (field : Option Int) (value : Int) : Bool :=
  field.all (· == value)

/-- Whether the fields for century and year of the century admit a year; a year before 0 has neither. -/
def admitsCentury (century ofCentury : Option Int) (year : Int) : Bool :=
  if year ≥ 0 then admits century (year / 100) && admits ofCentury (year % 100)
  else century.isNone && ofCentury.isNone

/-- Whether year, month and day of the month admit the day. -/
def admitsMonth (fields : DateFields) (day : Day) : Bool :=
  admits fields.year day.year && admitsCentury fields.century fields.yearOfCentury day.year &&
    admits fields.month day.month && admits fields.dayOfMonth day.dayOfMonth

/-- Whether week, its year and the weekday admit the day. -/
def admitsIsoWeek (fields : DateFields) (day : Day) : Bool :=
  admits fields.isoYear day.isoYear &&
    (if day.isoYear ≥ 0 then admits fields.isoYearOfCentury (day.isoYear % 100)
      else fields.isoYearOfCentury.isNone) &&
    admits fields.isoWeek day.isoWeek && admits fields.weekday day.weekday

/-- Whether the number of the day in the year and the other week numbers admit the day. -/
def admitsOrdinal (fields : DateFields) (day : Day) : Bool :=
  admits fields.ordinal day.ordinal && admits fields.weekFromSunday (day.weekFrom 6) &&
    admits fields.weekFromMonday (day.weekFrom 0)

/-- The day by year, week and weekday when week 1 begins with the first weekday `start` of the year. -/
def weekDay (year week weekday : Int) (start : Int) : Except DateFault Day :=
  match Day.ofOrdinal? year 1 with
  | none => .error .outOfRange
  | some first =>
    let ordinal := 1 + (start - first.weekday) % 7 + (week - 1) * 7 + (weekday - start) % 7
    if ordinal ≤ 0 then .error .impossible
    else (Day.ofOrdinal? year ordinal.toNat).elim (.error .impossible) .ok

/-- A day that was found, or else out of range. -/
def found : Option Day → Except DateFault Day
  | some day => .ok day
  | none => .error .outOfRange

/-- A day that all the fields admit which were not used to find it. -/
def verified (ok : Day → Bool) (fields : DateFields) (day : Except DateFault Day) :
    Except DateFault Day :=
  match day with
  | .error fault => .error fault
  | .ok day =>
    if ok day && admits fields.quarter day.quarter then .ok day else .error .impossible

/-- The day that the fields name: by month, by its number in the year, or by one of the week
numberings. -/
def day? (fields : DateFields) : Except DateFault Day :=
  match wholeYear fields.year fields.century fields.yearOfCentury with
  | .error fault => .error fault
  | .ok year =>
    match wholeYear fields.isoYear none fields.isoYearOfCentury with
    | .error fault => .error fault
    | .ok isoYear =>
      let byWeeks (day : Day) : Bool :=
        fields.admitsMonth day && fields.admitsIsoWeek day && fields.admitsOrdinal day
      match year, fields.month, fields.dayOfMonth, fields.ordinal, fields.weekFromSunday,
        fields.weekFromMonday, fields.weekday, isoYear, fields.isoWeek with
      | some y, some m, some d, _, _, _, _, _, _ =>
        verified (fun day => fields.admitsIsoWeek day && fields.admitsOrdinal day) fields
          (found (Day.ofMonth? y m.toNat d.toNat))
      | some y, _, _, some o, _, _, _, _, _ =>
        verified byWeeks fields (found (Day.ofOrdinal? y o.toNat))
      | some y, _, _, _, some week, _, some weekday, _, _ =>
        verified byWeeks fields (weekDay y week weekday 6)
      | some y, _, _, _, _, some week, some weekday, _, _ =>
        verified byWeeks fields (weekDay y week weekday 0)
      | _, _, _, _, _, _, some weekday, some y, some week =>
        verified (fun day => fields.admitsMonth day && fields.admitsOrdinal day) fields
          (found (Day.ofIsoWeek? y week.toNat weekday.toNat))
      | _, _, _, _, _, _, _, _, _ => .error .notEnough

/-- The second of the day and the nanoseconds that the fields name.  Seconds may be left out; a fraction
needs them.  Second 60 is a leap second. -/
def clock? (fields : DateFields) : Except DateFault (Nat × Nat) :=
  match fields.half, fields.hourOfHalf, fields.minute with
  | some half, some hour, some minute =>
    let second := fields.second.getD 0
    if fields.nanosecond.isSome && fields.second.isNone then .error .notEnough
    else
      let nanos := (fields.nanosecond.getD 0).toNat
      let before := ((half * 12 + hour) * 60 + minute) * 60
      if second = 60 then .ok ((before + 59).toNat, nanos + Moment.nanosPerSecond)
      else .ok ((before + second).toNat, nanos)
  | _, _, _ => .error .notEnough

/-- The fault that a timestamp cannot make good: out of range before impossible. -/
def grave (a b : Option DateFault) : Option DateFault :=
  if a = some .outOfRange || b = some .outOfRange then some .outOfRange
  else if a = some .impossible || b = some .impossible then some .impossible
  else none

/-- The fault of a failed reading. -/
def faultOf {α : Type} : Except DateFault α → Option DateFault
  | .error fault => some fault
  | .ok _ => none

/-- The day and the time of day that the fields name after those of a timestamp were added. -/
def fromTimestamp (fields : DateFields) (seconds : Int) : Option (Day × Nat × Nat) := do
  let m ← Moment.ofSeconds? seconds
  let m ← if fields.second = some 60 then
      if m.second = 59 then some m
      else if m.second = 0 then some { m with seconds := m.seconds - 1 }
      else none
    else some m
  let fields ← if fields.second = some 60 then some fields else fields.set m.second .second
  let fields ← fields.set m.localDay.year .year
  let fields ← fields.set m.localDay.ordinal .ordinal
  let fields ← fields.set m.hour .hour
  let fields ← fields.set m.minute .minute
  match fields.day?, fields.clock? with
  | .ok day, .ok (second, nanos) => some (day, second, nanos)
  | _, _ => none

/-- The day and the time of day, in seconds and nanoseconds, that the fields name on a clock with the
offset.  A timestamp must agree with them or make good for what is missing. -/
def local? (offset : Int) (fields : DateFields) : Option (Day × Nat × Nat) :=
  match fields.day?, fields.clock? with
  | .ok day, .ok (second, nanos) =>
    match fields.timestamp with
    | none => some (day, second, nanos)
    | some given =>
      let seconds := day.number * 86400 + second - offset
      if given = seconds || (nanos ≥ Moment.nanosPerSecond && given = seconds + 1) then
        some (day, second, nanos)
      else none
  | day, clock =>
    match fields.timestamp, grave (faultOf day) (faultOf clock) with
    | some given, none => fields.fromTimestamp (given + offset)
    | _, _ => none

/-- The moment that the fields name.  Without an offset there must be a timestamp, which is in universal
time. -/
def moment? (fields : DateFields) : Option Moment := do
  let offset ← match fields.offset, fields.timestamp with
    | some offset, _ => some offset
    | none, some _ => some 0
    | none, none => none
  let (day, second, nanos) ← fields.local? offset
  if offset.natAbs < 86400 then Moment.ofLocal? day second nanos offset else none

end DateFields

/-- The moment of a lenient timestamp, after which only blanks may follow. -/
def Timestamp.readLenient? (text : String) : Option Moment :=
  match readFields {} text.toList with
  | some (fields, rest) => if (trimStart rest).isEmpty then fields.moment? else none
  | none => none

end ReleasePress
