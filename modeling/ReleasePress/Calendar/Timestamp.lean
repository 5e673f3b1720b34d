import ReleasePress.Calendar.Moment
import ReleasePress.Text.Split

/-!
# Timestamps

The text of a moment in the format of RFC 3339: `2024-03-01T12:00:00.250+02:00`.  Years outside 0 to
9999 carry a sign, and the fraction has 0, 3, 6 or 9 digits.  Offset zero has two spellings, `Z` and
`+00:00`.

## Main declarations

* `Timestamp.write`: the text of a moment, with either spelling of offset zero.
* `Timestamp.read?`: the moment of a text that follows the format to the letter.
* `Timestamp.offset?`: an offset in front of a text, shared with the more lenient readers.
-/

namespace ReleasePress.Timestamp

open ReleasePress.Text

/-- A year: four digits, or a sign and at least four digits outside 0 to 9999. -/
def writeYear (year : Int) : String :=
  if 0 ≤ year && year ≤ 9999 then padded 4 year.toNat
  else (if year < 0 then "-" else "+") ++ padded 4 year.natAbs

/-- The fraction of a second with as many groups of three digits as it needs. -/
def writeFraction (nanos : Nat) : String :=
  if nanos = 0 then ""
  else if nanos % 1000000 = 0 then "." ++ padded 3 (nanos / 1000000)
  else if nanos % 1000 = 0 then "." ++ padded 6 (nanos / 1000)
  else "." ++ padded 9 nanos

/-- An offset as hours and minutes, rounded to the minute, with the text between the two. -/
def writeOffset (between : String) (offset : Int) : String :=
  let minutes := (offset.natAbs + 30) / 60
  (if offset < 0 then "-" else "+") ++ padded 2 (minutes / 60) ++ between ++ padded 2 (minutes % 60)

/-- Date and time of day, without the offset. -/
def writeLocal (m : Moment) : String :=
  let day := m.localDay
  writeYear day.year ++ "-" ++ padded 2 day.month ++ "-" ++ padded 2 day.dayOfMonth ++ "T" ++
    padded 2 m.hour ++ ":" ++ padded 2 m.minute ++ ":" ++ padded 2 m.second ++
    writeFraction m.fraction

/-- The timestamp of a moment.  With `zulu`, offset zero is written `Z`. -/
def write (zulu : Bool) (m : Moment) : String :=
  writeLocal m ++ (if zulu && m.offset == 0 then "Z" else writeOffset ":" m.offset)

/-- Exactly `n` digits. -/
def digits? (n : Nat) (text : List Char) : Option (Nat × List Char) :=
  let digits := text.take n
  if digits.length = n && digits.all isDigit then some (digitsValue digits, text.drop n) else none

/-- The nanoseconds of a run of digits after the point; digits past the ninth are dropped. -/
def nanos? (text : List Char) : Option (Nat × List Char) :=
  let digits := text.takeWhile isDigit
  if digits.isEmpty then none
  else
    let kept := digits.take 9
    some (digitsValue kept * Nat.pow 10 (9 - kept.length), text.dropWhile isDigit)

/-- A sign; `false` stands for plus. -/
def sign? : List Char → Option (Bool × List Char)
  | '+' :: text => some (false, text)
  | '-' :: text => some (true, text)
  | '\u2212' :: text => some (true, text)
  | _ => none

/-- An offset in seconds: a sign, two digits of hours, what `separator` skips, and two digits of
minutes below 60.  `zulu` admits `Z`, and `bareHours` admits hours at the end of the text. -/
def offset? (separator : List Char → Option (List Char)) (zulu bareHours : Bool)
    (text : List Char) : Option (Int × List Char) :=
  match zulu, text with
  | true, 'Z' :: text => some (0, text)
  | true, 'z' :: text => some (0, text)
  | _, text => do
    let (negative, text) ← sign? text
    let (hours, text) ← digits? 2 text
    let text ← separator text
    let (minutes, text) ← if bareHours && text.isEmpty then some (0, []) else digits? 2 text
    let size : Int := hours * 3600 + minutes * 60
    if minutes < 60 then some (if negative then -size else size, text) else none

/-- The moment of the clock fields, if they name one.  Second 60 is a leap second. -/
def ofFields? (year : Int) (month day hour minute second nanos : Nat) (offset : Int) :
    Option Moment := do
  let date ← Day.ofMonth? year month day
  if hour < 24 && minute < 60 && second ≤ 60 && offset.natAbs < 86400 then
    let (second, nanos) :=
      if second = 60 then (59, nanos + Moment.nanosPerSecond) else (second, nanos)
    Moment.ofLocal? date (hour * 3600 + minute * 60 + second) nanos offset
  else none

/-- The moment of a timestamp. -/
def read? (text : String) : Option Moment := do
  let (year, text) ← digits? 4 text.toList
  let text ← dropHead? ['-'] text
  let (month, text) ← digits? 2 text
  let text ← dropHead? ['-'] text
  let (day, text) ← digits? 2 text
  let text ← match text with
    | c :: text => if c = 'T' || c = 't' || c = ' ' then some text else none
    | [] => none
  let (hour, text) ← digits? 2 text
  let text ← dropHead? [':'] text
  let (minute, text) ← digits? 2 text
  let text ← dropHead? [':'] text
  let (second, text) ← digits? 2 text
  let (nanos, text) ← match text with
    | '.' :: text => nanos? text
    | text => some (0, text)
  let (offset, text) ← offset? (dropHead? [':']) true false text
  if text.isEmpty then ofFields? year month day hour minute second nanos offset else none

end ReleasePress.Timestamp
