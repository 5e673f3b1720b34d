import ReleasePress.Text.Split

/-!
# Intervals

A length of time written as a run of amounts with units, such as `9d3h` or `2w`.  The units are weeks,
days, hours, minutes and seconds, and a last amount without a unit counts seconds.

## Main declarations

* `Interval.unitSeconds?`: the length of a unit.
* `Interval.parse?`: the number of seconds of an interval.
-/

namespace ReleasePress.Interval

open ReleasePress.Text

/-- The largest number of seconds whose milliseconds fit 64 bits with a sign. -/
def maxSeconds : Nat :=
  9223372036854775

/-- The number of seconds in a unit. -/
def unitSeconds? : Char → Option Nat
  | 'w' => some 604800
  | 'd' => some 86400
  | 'h' => some 3600
  | 'm' => some 60
  | 's' => some 1
  | _ => none

/-- A number that fits 64 bits with a sign. -/
def fit (n : Nat) : Option Nat :=
  if n < Nat.pow 2 63 then some n else none

/-- The sum of the parts, after `total` seconds and with the digits of an amount read so far, last
digit first. -/
def sum (total : Nat) (digits : List Char) : List Char → Option Nat
  | [] =>
    if digits.isEmpty then some total
    else do fit (total + (← fit (digitsValue digits.reverse)))
  | c :: text =>
    if isDigit c then sum total (c :: digits) text
    else
      match unitSeconds? c with
      | none => none
      | some unit =>
        if digits.isEmpty then none
        else
          match fit (digitsValue digits.reverse) with
          | none => none
          | some amount =>
            match fit (amount * unit) with
            | none => none
            | some part =>
              match fit (total + part) with
              | none => none
              | some total => sum total [] text

/-- The number of seconds of an interval, or `none` for text that is not an interval and for more
seconds than `maxSeconds`. -/
def parse? (text : String) : Option Nat :=
  if text.isEmpty then none
  else (sum 0 [] text.toList).filter (· ≤ maxSeconds)

end ReleasePress.Interval
