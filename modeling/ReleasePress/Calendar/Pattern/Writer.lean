import ReleasePress.Calendar.Pattern
import ReleasePress.Calendar.Pattern.Names
import ReleasePress.Calendar.Timestamp

/-!
# Writing moments with a date pattern

Each item of a pattern has a text for each moment, except for the lenient offset, which can only be
read.

## Main declarations

* `DateNumber.value`: the number of a moment that an item stands for.
* `DateNumber.write`, `DateField.write?`, `DateItem.write?`: the text of an item.
* `DateItem.writeAll?`: the text of a whole pattern.
-/

namespace ReleasePress

open ReleasePress.Text

namespace DateNumber

/-- The number of a moment, in its local time. -/
def value (m : Moment) : DateNumber → Int
  | .year => m.localDay.year
  | .century => m.localDay.year / 100
  | .yearOfCentury => m.localDay.year % 100
  | .isoYear => m.localDay.isoYear
  | .isoYearOfCentury => m.localDay.isoYear % 100
  | .quarter => m.localDay.quarter
  | .month => m.localDay.month
  | .dayOfMonth => m.localDay.dayOfMonth
  | .weekFromSunday => m.localDay.weekFrom 6
  | .weekFromMonday => m.localDay.weekFrom 0
  | .isoWeek => m.localDay.isoWeek
  | .weekdayFromSunday => m.localDay.weekdayFromSunday
  | .weekdayFromMonday => m.localDay.weekday + 1
  | .ordinal => m.localDay.ordinal
  | .hour => m.hour
  | .hour12 => if m.hour % 12 = 0 then 12 else m.hour % 12
  | .minute => m.minute
  | .second => m.second
  | .nanosecond => m.fraction
  | .timestamp => m.seconds

/-- A number filled up to a width.  Zeros stand between the sign and the digits, blanks before the
sign. -/
def fill (padding : DatePadding) (width : Nat) (signed : Bool) (n : Int) : String :=
  let sign := if n < 0 then ['-'] else if signed then ['+'] else []
  let digits := Nat.toDigits 10 n.natAbs
  let missing := width - (sign.length + digits.length)
  match padding with
  | .nothing => String.ofList (sign ++ digits)
  | .zeros => String.ofList (sign ++ List.replicate missing '0' ++ digits)
  | .blanks => String.ofList (List.replicate missing ' ' ++ sign ++ digits)

/-- A number in two places.  The number is taken modulo 256 and has a single character for its tens, which
runs on from the digits when there are more than nine of them. -/
def twoPlaces (padding : DatePadding) (n : Int) : String :=
  let n := (n % 256).toNat
  let ones := Char.ofNat ('0'.toNat + n % 10)
  let tens := Char.ofNat ('0'.toNat + n / 10)
  match n / 10, padding with
  | 0, .nothing => String.ofList [ones]
  | 0, .blanks => String.ofList [' ', ones]
  | _, _ => String.ofList [tens, ones]

/-- A year in four places, or with a sign and one place more outside 0 to 9999. -/
def writeYear (padding : DatePadding) (year : Int) : String :=
  if 0 ≤ year && year ≤ 9999 then fill padding 4 false year else fill padding 5 true year

/-- The text of a number. -/
def write (m : Moment) (padding : DatePadding) (field : DateNumber) : String :=
  let n := field.value m
  match field with
  | .year => writeYear padding n
  | .isoYear => writeYear padding n
  | .quarter => toString n
  | .weekdayFromSunday => toString n
  | .weekdayFromMonday => toString n
  | .ordinal => fill padding 3 false n
  | .nanosecond => fill padding 9 false n
  | .timestamp => fill padding 9 false n
  | _ => twoPlaces padding n

end DateNumber

namespace DateField

/-- An offset with colons between hours, minutes and, for two colons, seconds; three colons stand for
hours alone. -/
def writeColons (colons : Nat) (offset : Int) : String :=
  let size := offset.natAbs
  let sign := if offset < 0 then "-" else "+"
  match colons with
  | 1 => Timestamp.writeOffset ":" offset
  | 2 => sign ++ padded 2 (size / 3600) ++ ":" ++ padded 2 (size / 60 % 60) ++ ":" ++
      padded 2 (size % 60)
  | _ => sign ++ padded 2 (size / 3600)

/-- The text of a field, with the name of the clock's zone. -/
def write? (zone : String) (m : Moment) : DateField → Option String
  | .shortMonth => some (DateName.short DateName.months (m.localDay.month - 1))
  | .longMonth => some (DateName.long DateName.months (m.localDay.month - 1))
  | .shortWeekday => some (DateName.short DateName.weekdays m.localDay.weekday)
  | .longWeekday => some (DateName.long DateName.weekdays m.localDay.weekday)
  | .lowerHalf => some (if m.hour < 12 then "am" else "pm")
  | .upperHalf => some (if m.hour < 12 then "AM" else "PM")
  | .fraction => some (Timestamp.writeFraction m.fraction)
  | .fixedFraction digits => some ("." ++ padded digits (m.fraction / Nat.pow 10 (9 - digits)))
  | .bareFraction digits => some (padded digits (m.fraction / Nat.pow 10 (9 - digits)))
  | .zoneName => some zone
  | .offset => some (Timestamp.writeOffset "" m.offset)
  | .offsetWithColons colons => some (writeColons colons m.offset)
  | .lenientOffset => none
  | .timestamp => some (Timestamp.write false m)

end DateField

namespace DateItem

/-- The text of an item. -/
def write? (zone : String) (m : Moment) : DateItem → Option String
  | .literal text => some (String.ofList text)
  | .space text => some (String.ofList text)
  | .number n padding => some (n.write m padding)
  | .field f => f.write? zone m

/-- The text of a list of items, if each of them has one. -/
def writeAll? (zone : String) (m : Moment) (items : List DateItem) : Option String :=
  (items.mapM (write? zone m)).map fun texts => String.join texts

end DateItem

end ReleasePress
