import ReleasePress.Json.Basic
import ReleasePress.Text.Split

/-!
# Reading JSON text

A recursive reader for JSON documents.  Integers of 64 bits are kept exactly; every other number is the
leading digits that fit 64 bits, as a double, scaled by one power of ten.  A name given twice keeps its
first place and its last value.

## Main declarations

* `Json.parse?`: the value of a whole document.
-/

namespace ReleasePress.Json

open ReleasePress.Text

/-- A double scaled by a power of ten, in steps that stay within the range of doubles. -/
def scale (x : Float) (exponent : Int) : Nat → Float
  | 0 => 0.0
  | steps + 1 =>
    if exponent.natAbs ≤ 308 then
      let power := Float.ofScientific 1 false exponent.natAbs
      if exponent ≥ 0 then x * power else x / power
    else if x == 0.0 || exponent > 0 then (if exponent > 0 && x != 0.0 then 1.0 / 0.0 else x)
    else scale (x / Float.ofScientific 1 false 308) (exponent + 308) steps

/-- The digits that fit 64 bits, as a number, and how many digits follow them. -/
def leading (n : Nat) : List Char → Nat × Nat
  | [] => (n, 0)
  | c :: digits =>
    let next := n * 10 + (c.toNat - '0'.toNat)
    if next < Nat.pow 2 64 then leading next digits else (n, digits.length + 1)

/-- A number with a fraction or an exponent. -/
def realOf (whole fraction : List Char) (exponent : Int) : Option Number :=
  let (n, dropped) := leading 0 whole
  let (significand, left) := leading n fraction
  let shift : Int := dropped - (fraction.length - left : Nat)
  (Double.ofFloat? (scale (Float.ofNat significand) (shift + exponent) 8)).map .real

/-- The text after the number, and the number. -/
def readNumber (text : List Char) : Option (Number × List Char) := do
  let (negative, text) := match text with
    | '-' :: text => (true, text)
    | text => (false, text)
  let whole := text.takeWhile isDigit
  let text := text.dropWhile isDigit
  if whole.isEmpty || (whole.head? = some '0' && whole.length > 1) then none
  else
    let sign (n : Number) : Number := match n with
      | .real x => if negative then
          match Double.ofFloat? (-x.value) with
          | some y => .real y
          | none => .real x
        else .real x
      | .integer n => .integer n
    let (fraction, text, hasPoint) := match text with
      | '.' :: text => (text.takeWhile isDigit, text.dropWhile isDigit, true)
      | text => ([], text, false)
    if hasPoint && fraction.isEmpty then none
    else
      match text with
      | c :: text' =>
        if c = 'e' || c = 'E' then
          let (down, text') := match text' with
            | '-' :: text' => (true, text')
            | '+' :: text' => (false, text')
            | text' => (false, text')
          let digits := text'.takeWhile isDigit
          if digits.isEmpty then none
          else
            let size : Int := digitsValue (digits.take 12)
            let n ← realOf whole fraction (if down then -size else size)
            some (sign n, text'.dropWhile isDigit)
        else plain negative sign whole fraction hasPoint text
      | [] => plain negative sign whole fraction hasPoint []
where
  /-- A number without an exponent. -/
  plain (negative : Bool) (sign : Number → Number) (whole fraction : List Char) (hasPoint : Bool)
      (text : List Char) : Option (Number × List Char) :=
    let n := digitsValue whole
    if !hasPoint && n < Nat.pow 2 64 && !(negative && (n = 0 || n > Nat.pow 2 63)) then
      some (.integer (if negative then -(n : Int) else n), text)
    else (realOf whole fraction 0).map fun x => (sign x, text)

/-- The value of four hexadecimal digits. -/
def hexQuad? : List Char → Option (Nat × List Char)
  | a :: b :: c :: d :: text => do
    let value (c : Char) : Option Nat :=
      if isDigit c then some (c.toNat - '0'.toNat)
      else if 'a' ≤ c && c ≤ 'f' then some (c.toNat - 'a'.toNat + 10)
      else if 'A' ≤ c && c ≤ 'F' then some (c.toNat - 'A'.toNat + 10)
      else none
    let a ← value a
    let b ← value b
    let c ← value c
    let d ← value d
    some (((a * 16 + b) * 16 + c) * 16 + d, text)
  | _ => none

/-- The character of an escape of code units, one or a pair. -/
def readUnits (text : List Char) : Option (Char × List Char) := do
  let (high, text) ← hexQuad? text
  if 0xD800 ≤ high && high < 0xDC00 then
    match text with
    | '\\' :: 'u' :: text =>
      let (low, text) ← hexQuad? text
      if 0xDC00 ≤ low && low < 0xE000 then
        some (Char.ofNat (0x10000 + (high - 0xD800) * 0x400 + (low - 0xDC00)), text)
      else none
    | _ => none
  else if 0xDC00 ≤ high && high < 0xE000 then none
  else some (Char.ofNat high, text)

/-- The rest of a string up to its closing quote.  The fuel is the length of the text. -/
def readString (acc : List Char) : Nat → List Char → Option (String × List Char)
  | 0, _ => none
  | fuel + 1, text =>
    match text with
    | '"' :: text => some (String.ofList acc.reverse, text)
    | '\\' :: 'u' :: text =>
      match readUnits text with
      | some (c, text) => readString (c :: acc) fuel text
      | none => none
    | '\\' :: c :: text =>
      match c with
      | '"' => readString ('"' :: acc) fuel text
      | '\\' => readString ('\\' :: acc) fuel text
      | '/' => readString ('/' :: acc) fuel text
      | 'b' => readString ('\x08' :: acc) fuel text
      | 'f' => readString ('\x0c' :: acc) fuel text
      | 'n' => readString ('\n' :: acc) fuel text
      | 'r' => readString ('\r' :: acc) fuel text
      | 't' => readString ('\t' :: acc) fuel text
      | _ => none
    | c :: text => if c.toNat < 0x20 then none else readString (c :: acc) fuel text
    | [] => none

/-- The text after JSON white space. -/
def skipSpace (text : List Char) : List Char :=
  text.dropWhile fun c => c = ' ' || c = '\n' || c = '\t' || c = '\r'

mutual

/-- The value at the start of the text and the text after it. -/
def readValue : Nat → List Char → Option (Json × List Char)
  | 0, _ => none
  | fuel + 1, text =>
    match skipSpace text with
    | 'n' :: 'u' :: 'l' :: 'l' :: text => some (.null, text)
    | 't' :: 'r' :: 'u' :: 'e' :: text => some (.bool true, text)
    | 'f' :: 'a' :: 'l' :: 's' :: 'e' :: text => some (.bool false, text)
    | '"' :: text =>
      (readString [] (text.length + 1) text).map fun (s, text) => (.string s, text)
    | '[' :: text =>
      match skipSpace text with
      | ']' :: text => some (.array [], text)
      | text => readItems [] fuel text
    | '\x7b' :: text =>
      match skipSpace text with
      | '\x7d' :: text => some (.object [], text)
      | text => readFields [] fuel text
    | text => (readNumber text).map fun (n, text) => (.number n, text)

/-- The items of an array up to its closing bracket. -/
def readItems (acc : List Json) : Nat → List Char → Option (Json × List Char)
  | 0, _ => none
  | fuel + 1, text =>
    match readValue fuel text with
    | none => none
    | some (item, text) =>
      match skipSpace text with
      | ',' :: text => readItems (item :: acc) fuel text
      | ']' :: text => some (.array (item :: acc).reverse, text)
      | _ => none

/-- The fields of an object up to its closing brace. -/
def readFields (acc : Fields) : Nat → List Char → Option (Json × List Char)
  | 0, _ => none
  | fuel + 1, text =>
    match skipSpace text with
    | '"' :: text =>
      match readString [] (text.length + 1) text with
      | none => none
      | some (name, text) =>
        match skipSpace text with
        | ':' :: text =>
          match readValue fuel text with
          | none => none
          | some (value, text) =>
            match skipSpace text with
            | ',' :: text => readFields ((name, value) :: acc) fuel text
            | '\x7d' :: text => some (objectOf ((name, value) :: acc).reverse, text)
            | _ => none
        | _ => none
    | _ => none

end

/-- The value of a JSON document. -/
def parse? (text : String) : Option Json :=
  match readValue (text.length + 1) text.toList with
  | some (value, rest) => if (skipSpace rest).isEmpty then some value else none
  | none => none

end ReleasePress.Json
