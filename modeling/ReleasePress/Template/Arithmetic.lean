import ReleasePress.Decimal.Remainder
import ReleasePress.Json.Basic
import ReleasePress.Template.Outline

/-!
# Arithmetic of templates

Integers stay integers as long as both fit 64 bits of one kind; all else is computed with doubles.  A
result that is no number is `none`.

## Main declarations

* `Operator.apply`: the result of an operator.
* `Relation.holds`: whether a relation holds between two numbers.
-/

namespace ReleasePress.Template

open ReleasePress.Json (Number isSigned64 isUnsigned64)

/-- A double as a number. -/
def real? (x : Float) : Option Number :=
  (Double.ofFloat? x).map .real

/-- An exact operation on integers of a kind. -/
def exactly (fits : Int → Bool) (kind sign : String) (operation : Int → Int → Int) (a b : Int) :
    Except String (Option Number) :=
  let result := operation a b
  if fits result then .ok (some (.integer result))
  else
    .error (toString a ++ " " ++ sign ++ " " ++ toString b ++ " results in an out of bounds " ++ kind)

/-- An operation that keeps integers of one kind. -/
def keeping (sign : String) (exact : Int → Int → Int) (rounded : Float → Float → Float)
    (left right : Number) : Except String (Option Number) :=
  match left, right with
  | .integer a, .integer b =>
    if isSigned64 a && isSigned64 b then exactly isSigned64 "i64" sign exact a b
    else if isUnsigned64 a && isUnsigned64 b then exactly isUnsigned64 "u64" sign exact a b
    else .ok (real? (rounded left.toFloat right.toFloat))
  | _, _ => .ok (real? (rounded left.toFloat right.toFloat))

/-- A quotient; a whole one is an integer, as far as 64 bits go. -/
def quotient (left right : Number) : Option Number :=
  let result := left.toFloat / right.toFloat
  if result.isNaN then none
  else if result.round == result && result.isFinite then some (.integer result.toInt64.toInt)
  else real? result

/-- A remainder with the sign of the left side; `shown` is told if the right side is zero. -/
def remainder (shown : String) (left right : Number) : Except String (Option Number) :=
  match left, right with
  | .integer a, .integer b =>
    if isSigned64 a && isSigned64 b || isUnsigned64 a && isUnsigned64 b then
      if b = 0 then .error ("Tried to do a modulo by zero: " ++ shown)
      else .ok (some (.integer (a.tmod b)))
    else .ok (rounded left right)
  | _, _ => .ok (rounded left right)
where
  /-- The remainder of doubles. -/
  rounded (left right : Number) : Option Number := do
    let x ← Double.ofFloat? left.toFloat
    let y ← Double.ofFloat? right.toFloat
    (x.remainder y).map .real

/-- The result of an operator; `shown` is the text of both sides. -/
def Operator.apply (shown : String) (left right : Number) : Operator → Except String (Option Number)
  | add => keeping "+" (· + ·) (· + ·) left right
  | subtract => keeping "-" (· - ·) (· - ·) left right
  | multiply => keeping "x" (· * ·) (· * ·) left right
  | divide => .ok (quotient left right)
  | modulo => remainder shown left right

/-- Whether an order relation holds between two numbers, which are compared as doubles. -/
def Relation.holds (left right : Number) : Relation → Bool
  | less => left.toFloat < right.toFloat
  | lessOrEqual => left.toFloat ≤ right.toFloat
  | greater => left.toFloat > right.toFloat
  | greaterOrEqual => left.toFloat ≥ right.toFloat
  | equal => left.toFloat == right.toFloat
  | different => left.toFloat != right.toFloat

/-- Whether two values are equal.  Numbers are compared as doubles. -/
def equalValues : Json → Json → Bool
  | .number a, .number b => a.toFloat == b.toFloat
  | a, b => Json.same a b

/-- Whether just one of two values is a number, which then are neither equal nor different. -/
def areIncomparable : Json → Json → Bool
  | .number _, .number _ => false
  | .number _, _ | _, .number _ => true
  | _, _ => false

end ReleasePress.Template
