import ReleasePress.Text.Blank

/-!
# Date patterns

A date pattern is text with conversions such as `%Y` or `%-d`.  Reading it gives a list of items; a
conversion that stands for several, such as `%F`, gives all of them.  The same items are written from
a moment and read back from a text.

## Main declarations

* `DateItem`: the items, with `DateNumber` and `DateField` for numbers and other fields.
* `DateItem.listOf?`: the items of a pattern, or `none` if it has an unknown conversion.
-/

namespace ReleasePress

/-- What fills a number up to its width. -/
inductive DatePadding where
  | nothing
  | zeros
  | blanks
  deriving DecidableEq, Repr

/-- The numbers of a moment. -/
inductive DateNumber where
  | year
  | century
  | yearOfCentury
  | isoYear
  | isoYearOfCentury
  | quarter
  | month
  | dayOfMonth
  | weekFromSunday
  | weekFromMonday
  | isoWeek
  | weekdayFromSunday
  | weekdayFromMonday
  | ordinal
  | hour
  | hour12
  | minute
  | second
  | nanosecond
  | timestamp
  deriving DecidableEq, Repr

/-- The fields of a moment that are not plain numbers. -/
inductive DateField where
  | shortMonth
  | longMonth
  | shortWeekday
  | longWeekday
  | lowerHalf
  | upperHalf
  /-- The fraction with its point and as many digits as it needs. -/
  | fraction
  /-- The fraction with its point and three, six or nine digits. -/
  | fixedFraction (digits : Nat)
  /-- Three, six or nine digits of the fraction without a point. -/
  | bareFraction (digits : Nat)
  | zoneName
  /-- The offset in hours and minutes. -/
  | offset
  /-- The offset with colons, in hours, minutes or seconds. -/
  | offsetWithColons (colons : Nat)
  /-- The offset, read with optional minutes; it has no text of its own. -/
  | lenientOffset
  /-- A whole timestamp. -/
  | timestamp
  deriving DecidableEq, Repr

/-- An item of a date pattern. -/
inductive DateItem where
  | literal (text : List Char)
  | space (text : List Char)
  | number (field : DateNumber) (padding : DatePadding)
  | field (field : DateField)
  deriving DecidableEq, Repr

namespace DateItem

open ReleasePress.Text

/-- A number filled with zeros. -/
def zeros (n : DateNumber) : DateItem :=
  .number n .zeros

/-- A number filled with blanks. -/
def blanks (n : DateNumber) : DateItem :=
  .number n .blanks

/-- A single character that stands for itself. -/
def mark (c : Char) : DateItem :=
  .literal [c]

/-- Month, day and year of the century. -/
def shortDate : List DateItem :=
  [zeros .month, mark '/', zeros .dayOfMonth, mark '/', zeros .yearOfCentury]

/-- Hour, minute and second. -/
def clock : List DateItem :=
  [zeros .hour, mark ':', zeros .minute, mark ':', zeros .second]

/-- The items of a conversion named by one letter. -/
def ofLetter? : Char → Option (List DateItem)
  | 'A' => some [.field .longWeekday]
  | 'B' => some [.field .longMonth]
  | 'C' => some [zeros .century]
  | 'D' => some shortDate
  | 'F' => some [zeros .year, mark '-', zeros .month, mark '-', zeros .dayOfMonth]
  | 'G' => some [zeros .isoYear]
  | 'H' => some [zeros .hour]
  | 'I' => some [zeros .hour12]
  | 'M' => some [zeros .minute]
  | 'P' => some [.field .lowerHalf]
  | 'R' => some [zeros .hour, mark ':', zeros .minute]
  | 'S' => some [zeros .second]
  | 'T' => some clock
  | 'U' => some [zeros .weekFromSunday]
  | 'V' => some [zeros .isoWeek]
  | 'W' => some [zeros .weekFromMonday]
  | 'X' => some clock
  | 'Y' => some [zeros .year]
  | 'Z' => some [.field .zoneName]
  | 'a' => some [.field .shortWeekday]
  | 'b' => some [.field .shortMonth]
  | 'c' => some ([.field .shortWeekday, .space [' '], .field .shortMonth, .space [' '],
      blanks .dayOfMonth, .space [' ']] ++ clock ++ [.space [' '], zeros .year])
  | 'd' => some [zeros .dayOfMonth]
  | 'e' => some [blanks .dayOfMonth]
  | 'f' => some [zeros .nanosecond]
  | 'g' => some [zeros .isoYearOfCentury]
  | 'h' => some [.field .shortMonth]
  | 'j' => some [zeros .ordinal]
  | 'k' => some [blanks .hour]
  | 'l' => some [blanks .hour12]
  | 'm' => some [zeros .month]
  | 'n' => some [.space ['\n']]
  | 'p' => some [.field .upperHalf]
  | 'q' => some [.number .quarter .nothing]
  | 'r' => some [zeros .hour12, mark ':', zeros .minute, mark ':', zeros .second, .space [' '],
      .field .upperHalf]
  | 's' => some [.number .timestamp .nothing]
  | 't' => some [.space ['\t']]
  | 'u' => some [.number .weekdayFromMonday .nothing]
  | 'v' => some [blanks .dayOfMonth, mark '-', .field .shortMonth, mark '-', zeros .year]
  | 'w' => some [.number .weekdayFromSunday .nothing]
  | 'x' => some shortDate
  | 'y' => some [zeros .yearOfCentury]
  | 'z' => some [.field .offset]
  | '+' => some [.field .timestamp]
  | '%' => some [mark '%']
  | _ => none

/-- The items of the conversion after a `%` and how many characters it takes.  A conversion is a letter
or one of the longer names for offsets and fractions. -/
def ofConversion? : List Char → Option (List DateItem × Nat)
  | ':' :: ':' :: ':' :: 'z' :: _ => some ([.field (.offsetWithColons 3)], 4)
  | ':' :: ':' :: 'z' :: _ => some ([.field (.offsetWithColons 2)], 3)
  | ':' :: 'z' :: _ => some ([.field (.offsetWithColons 1)], 2)
  | '.' :: 'f' :: _ => some ([.field .fraction], 2)
  | '.' :: '3' :: 'f' :: _ => some ([.field (.fixedFraction 3)], 3)
  | '.' :: '6' :: 'f' :: _ => some ([.field (.fixedFraction 6)], 3)
  | '.' :: '9' :: 'f' :: _ => some ([.field (.fixedFraction 9)], 3)
  | '3' :: 'f' :: _ => some ([.field (.bareFraction 3)], 2)
  | '6' :: 'f' :: _ => some ([.field (.bareFraction 6)], 2)
  | '9' :: 'f' :: _ => some ([.field (.bareFraction 9)], 2)
  | c :: _ => (ofLetter? c).map fun items => (items, 1)
  | [] => none

/-- A conversion with its number filled differently.  Only a single number can be. -/
def repadded? (padding : DatePadding) : List DateItem × Nat → Option (List DateItem × Nat)
  | ([.number n _], taken) => some ([.number n padding], taken + 1)
  | _ => none

/-- The items of the conversion after a `%` with an optional flag, and how many characters it takes. -/
def ofFlagged? : List Char → Option (List DateItem × Nat)
  | '-' :: text => (ofConversion? text).bind (repadded? .nothing)
  | '0' :: text => (ofConversion? text).bind (repadded? .zeros)
  | '_' :: text => (ofConversion? text).bind (repadded? .blanks)
  | '#' :: 'z' :: _ => some ([.field .lenientOffset], 2)
  | text => ofConversion? text

/-- Puts a character that stands for itself in front of the items. -/
def addChar (c : Char) (items : List DateItem) : List DateItem :=
  if isBlank c then
    match items with
    | .space text :: items => .space (c :: text) :: items
    | items => .space [c] :: items
  else
    match items with
    | .literal text :: items => .literal (c :: text) :: items
    | items => .literal [c] :: items

/-- The items of a pattern; `skip` counts the characters that belong to the conversion read last. -/
def read? : Nat → List Char → Option (List DateItem)
  | _, [] => some []
  | skip + 1, _ :: text => read? skip text
  | 0, '%' :: text =>
    match ofFlagged? text with
    | some (items, taken) => (read? taken text).map (items ++ ·)
    | none => none
  | 0, c :: text => (read? 0 text).map (addChar c)

/-- The items of a pattern, or `none` for an unknown conversion or a `%` at the end. -/
def listOf? (pattern : String) : Option (List DateItem) :=
  read? 0 pattern.toList

end DateItem

end ReleasePress
