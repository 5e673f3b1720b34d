/-!
# Calendar days

A day of the proleptic Gregorian calendar is the number of days since 1970-01-01.  Year, month, weekday
and the week numberings are views of that number, computed through the cycles of 400, 100 and 4 years
after which the calendar repeats.

## Main declarations

* `Day`: a day.
* `Day.ofMonth?`, `Day.ofOrdinal?`, `Day.ofIsoWeek?`: a day from the three ways of naming it.
* `Day.year`, `Day.ordinal`, `Day.month`, `Day.dayOfMonth`, `Day.weekday`, `Day.isoYear`, `Day.isoWeek`.
* `Day.inRange`: the years −262143 to 262142, which dates are limited to.
-/

namespace ReleasePress

/-- A day, counted from 1970-01-01. -/
structure Day where
  number : Int
  deriving DecidableEq, Repr

namespace Day

/-- The number of days from 0001-01-01 to 1970-01-01. -/
def epochShift : Int :=
  719162

/-- A year with 366 days. -/
def isLeap (year : Int) : Bool :=
  year % 4 == 0 && (year % 100 != 0 || year % 400 == 0)

/-- The number of days in a year. -/
def yearLength (year : Int) : Nat :=
  if isLeap year then 366 else 365

/-- The number of days from 0001-01-01 to the first day of a year. -/
def beforeYear (year : Int) : Int :=
  let past := year - 1
  365 * past + past / 4 - past / 100 + past / 400

/-- The lengths of the months of a year. -/
def monthLengths (year : Int) : List Nat :=
  [31, if isLeap year then 29 else 28, 31, 30, 31, 30, 31, 31, 30, 31, 30, 31]

/-- The first day of a year. -/
def newYear (year : Int) : Day :=
  ⟨beforeYear year - epochShift⟩

/-- The day `n` days later. -/
def add (day : Day) (n : Int) : Day :=
  ⟨day.number + n⟩

/-- The year of a day and how many days of that year have passed. -/
def yearAndPast (day : Day) : Int × Nat :=
  let count := day.number + epochShift
  let cycle := count / 146097
  let inCycle := (count % 146097).toNat
  let century := min (inCycle / 36524) 3
  let inCentury := inCycle - century * 36524
  let leapCycle := inCentury / 1461
  let inLeapCycle := inCentury % 1461
  let year := min (inLeapCycle / 365) 3
  (400 * cycle + 100 * century + 4 * leapCycle + year + 1, inLeapCycle - year * 365)

def year (day : Day) : Int :=
  day.yearAndPast.1

/-- The number of the day in its year, from 1. -/
def ordinal (day : Day) : Nat :=
  day.yearAndPast.2 + 1

/-- The month and the day in the month, both from 1, after `past` days of the months listed. -/
def monthAndDay (past : Nat) : Nat → List Nat → Nat × Nat
  | month, [] => (month, past + 1)
  | month, length :: lengths =>
    if past < length then (month, past + 1) else monthAndDay (past - length) (month + 1) lengths

/-- The month of a day, from 1. -/
def month (day : Day) : Nat :=
  (monthAndDay day.yearAndPast.2 1 (monthLengths day.year)).1

/-- The number of the day in its month, from 1. -/
def dayOfMonth (day : Day) : Nat :=
  (monthAndDay day.yearAndPast.2 1 (monthLengths day.year)).2

/-- The quarter of a day, from 1. -/
def quarter (day : Day) : Nat :=
  (day.month - 1) / 3 + 1

/-- The weekday, counted from Monday as 0. -/
def weekday (day : Day) : Nat :=
  ((day.number + 3) % 7).toNat

/-- The weekday, counted from Sunday as 0. -/
def weekdayFromSunday (day : Day) : Nat :=
  (day.weekday + 1) % 7

/-- The week of the year when week 1 begins with the first weekday `start` of the year, which is
counted from Monday as 0. -/
def weekFrom (start : Nat) (day : Day) : Nat :=
  (day.ordinal + 6 - (day.weekday + 7 - start) % 7) / 7

/-- The Thursday of the week, which begins on Monday.  It decides which year the week belongs to. -/
def thursday (day : Day) : Day :=
  day.add (3 - day.weekday)

/-- The year that the week of the day belongs to. -/
def isoYear (day : Day) : Int :=
  day.thursday.year

/-- The number of the week of the day in the year that it belongs to, from 1. -/
def isoWeek (day : Day) : Nat :=
  (day.thursday.ordinal - 1) / 7 + 1

/-- The Monday of the first week of a year, which is the week of the fourth of January. -/
def isoNewYear (year : Int) : Day :=
  let fourth := (newYear year).add 3
  fourth.add (-fourth.weekday)

/-- Dates lie in the years −262143 to 262142. -/
def inRange (day : Day) : Bool :=
  (newYear (-262143)).number ≤ day.number && day.number < (newYear 262143).number

/-- A day in range. -/
def checked (day : Day) : Option Day :=
  if day.inRange then some day else none

/-- A day by year, month and day of the month. -/
def ofMonth? (year : Int) (month dayOfMonth : Nat) : Option Day :=
  let lengths := monthLengths year
  if 1 ≤ month && month ≤ 12 && 1 ≤ dayOfMonth && dayOfMonth ≤ (lengths[month - 1]?).getD 0 then
    let before : Nat := (lengths.take (month - 1)).foldl (· + ·) 0
    ((newYear year).add (before + dayOfMonth - 1)).checked
  else none

/-- A day by year and its number in the year. -/
def ofOrdinal? (year : Int) (ordinal : Nat) : Option Day :=
  if 1 ≤ ordinal && ordinal ≤ yearLength year then ((newYear year).add (ordinal - 1)).checked
  else none

/-- A day by the year its week belongs to, the week and the weekday from Monday as 0. -/
def ofIsoWeek? (year : Int) (week weekday : Nat) : Option Day :=
  let first := isoNewYear year
  let weeks := ((isoNewYear (year + 1)).number - first.number) / 7
  if 1 ≤ week && week ≤ weeks then (first.add ((week - 1) * 7 + weekday)).checked else none

end Day

end ReleasePress
