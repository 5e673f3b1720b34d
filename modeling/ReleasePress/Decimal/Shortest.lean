/-!
# Shortest decimal digits

A double stands for the interval of reals that round to it.  The shortest decimal that reads back as
the double is the decimal of fewest digits inside that interval, and among those the one nearest to
the double.  Everything is exact arithmetic on naturals: a double is a mantissa times a power of two,
and a decimal is a number of units of a power of ten.

## Main declarations

* `Binary`: a positive double as mantissa and exponent, with its rounding interval.
* `Decimal`: a natural number of units of a power of ten.
* `Binary.shortest`: the shortest decimal of a positive double.
-/

namespace ReleasePress

/-- A positive finite double `mantissa * 2 ^ exponent`.  The double below is only half as far away as
the double above when `narrowBelow` holds, which happens at a power of two. -/
structure Binary where
  mantissa : Nat
  exponent : Int
  narrowBelow : Bool
  deriving DecidableEq, Repr

/-- The number `digits * 10 ^ exponent`. -/
structure Decimal where
  digits : Nat
  exponent : Int
  deriving DecidableEq, Repr

namespace Binary

/-- The magnitude of a finite double, or `none` for zero. -/
def ofBits? (bits : UInt64) : Option Binary :=
  let fraction : Nat := bits.toNat % Nat.pow 2 52
  let field : Nat := bits.toNat / Nat.pow 2 52 % Nat.pow 2 11
  if field = 0 then
    if fraction = 0 then none else some ⟨fraction, -1074, false⟩
  else some ⟨Nat.pow 2 52 + fraction, Int.ofNat field - 1075, fraction == 0 && field != 1⟩

/-- Whether `a * 10 ^ i ≤ b * 2 ^ j`. -/
def decimalLe (a : Nat) (i : Int) (b : Nat) (j : Int) : Bool :=
  a * Nat.pow 10 i.toNat * Nat.pow 2 (-j).toNat ≤ b * Nat.pow 2 j.toNat * Nat.pow 10 (-i).toNat

/-- Whether `b * 2 ^ j ≤ a * 10 ^ i`. -/
def leDecimal (b : Nat) (j : Int) (a : Nat) (i : Int) : Bool :=
  b * Nat.pow 2 j.toNat * Nat.pow 10 (-i).toNat ≤ a * Nat.pow 10 i.toNat * Nat.pow 2 (-j).toNat

/-- Whether `digits * 10 ^ unit` reads back as the double.  The ends of the interval belong to it
exactly when the mantissa is even. -/
def readsBack (x : Binary) (digits : Nat) (unit : Int) : Bool :=
  let low := 4 * x.mantissa - (if x.narrowBelow then 1 else 2)
  let high := 4 * x.mantissa + 2
  let scale := x.exponent - 2
  let closed : Bool := x.mantissa % 2 == 0
  leDecimal low scale digits unit && decimalLe digits unit high scale &&
    (closed || !(decimalLe digits unit low scale) && !(leDecimal high scale digits unit))

/-- The largest number of units `10 ^ unit` not above the double. -/
def floorAt (x : Binary) (unit : Int) : Nat :=
  (x.mantissa * Nat.pow 2 x.exponent.toNat * Nat.pow 10 (-unit).toNat) /
    (Nat.pow 10 unit.toNat * Nat.pow 2 (-x.exponent).toNat)

/-- The number of decimal digits before the point, less the zeros right after it:
`10 ^ (magnitude - 1) ≤ x < 10 ^ magnitude`. -/
def magnitude (x : Binary) : Int :=
  let whole := x.floorAt 0
  if whole ≠ 0 then ((Nat.toDigits 10 whole).length : Int)
  else
    let fine := x.floorAt (-400)
    ((Nat.toDigits 10 fine).length : Int) - 400

/-- Whether the decimal below is at least as near to the double as the decimal above. -/
def lowerIsNearer (x : Binary) (digits : Nat) (unit : Int) : Bool :=
  leDecimal (2 * x.mantissa) x.exponent (2 * digits + 1) unit

/-- The nearest decimal of the unit `10 ^ unit` that reads back, if one does. -/
def nearestAt? (x : Binary) (unit : Int) : Option Decimal :=
  let below := x.floorAt unit
  match x.readsBack below unit, x.readsBack (below + 1) unit with
  | true, true => some ⟨if x.lowerIsNearer below unit then below else below + 1, unit⟩
  | true, false => some ⟨below, unit⟩
  | false, true => some ⟨below + 1, unit⟩
  | false, false => none

/-- The first decimal that reads back, trying `count` further numbers of digits. -/
def search (x : Binary) (magnitude : Int) : Nat → Nat → Decimal
  | _, 0 => ⟨x.floorAt (magnitude - 17), magnitude - 17⟩
  | places, count + 1 =>
    match x.nearestAt? (magnitude - places) with
    | some decimal => decimal
    | none => search x magnitude (places + 1) count

/-- The shortest decimal that reads back as the double. -/
def shortest (x : Binary) : Decimal :=
  search x x.magnitude 1 17

end Binary

end ReleasePress
