import ReleasePress.Decimal.Layout
import ReleasePress.Text.Split

/-!
# Reading decimals

A decimal text names a real number, and the value read is the double nearest to it.

## Main declarations

* `Numeral.float?`: the double named by a text with optional sign, point and exponent.
* `Numeral.integer?`: the integer named by digits with an optional sign.
-/

namespace ReleasePress.Numeral

open ReleasePress.Text

/-- The double nearest to `digits * 10 ^ exponent`.  Exponents far outside the range of doubles are
settled without computing the power. -/
def nearest (digits : Nat) (exponent : Int) : Float :=
  if digits = 0 then 0.0
  else
    let weight := exponent + (Nat.toDigits 10 digits).length
    if weight > 400 then Float.ofScientific 1 false 400
    else if weight < -400 then 0.0
    else Float.ofScientific digits (exponent < 0) exponent.natAbs

/-- The exponent part of a decimal: nothing, or a mark, an optional sign and at least one digit. -/
def exponent? : List Char → Option Int
  | [] => some 0
  | c :: text =>
    if c = 'e' || c = 'E' then
      let (negative, digits) := match text with
        | '-' :: digits => (true, digits)
        | '+' :: digits => (false, digits)
        | digits => (false, digits)
      if digits.isEmpty || !digits.all isDigit then none
      else
        let size : Int := digitsValue (digits.take 12)
        some (if negative then -size else size)
    else none

/-- A decimal without a sign: digits, at least one, around an optional point, and an exponent. -/
def magnitude? (text : List Char) : Option Float :=
  let whole := text.takeWhile isDigit
  let rest := text.dropWhile isDigit
  let (fraction, rest) := match rest with
    | '.' :: rest => (rest.takeWhile isDigit, rest.dropWhile isDigit)
    | rest => ([], rest)
  if whole.isEmpty && fraction.isEmpty then none
  else (exponent? rest).map fun exponent =>
    nearest (digitsValue (whole ++ fraction)) (exponent - fraction.length)

/-- The infinities and the one value that is not a number, by name and in any case. -/
def named? (text : List Char) : Option Float :=
  match text.map Char.toLower with
  | ['i', 'n', 'f'] => some (1.0 / 0.0)
  | ['i', 'n', 'f', 'i', 'n', 'i', 't', 'y'] => some (1.0 / 0.0)
  | ['n', 'a', 'n'] => some (0.0 / 0.0)
  | _ => none

/-- The double named by a whole text, with an optional sign. -/
def float? (text : String) : Option Float :=
  match text.toList with
  | '-' :: rest => ((magnitude? rest).or (named? rest)).map fun x => -x
  | '+' :: rest => (magnitude? rest).or (named? rest)
  | rest => (magnitude? rest).or (named? rest)

/-- The natural number named by a non-empty run of digits. -/
def natural? (digits : List Char) : Option Nat :=
  if digits.isEmpty || !digits.all isDigit then none else some (digitsValue digits)

/-- The integer named by a whole text of digits with an optional sign. -/
def integer? (text : String) : Option Int :=
  match text.toList with
  | '-' :: digits => (natural? digits).map fun n => -(n : Int)
  | '+' :: digits => (natural? digits).map Int.ofNat
  | digits => (natural? digits).map Int.ofNat

end ReleasePress.Numeral
