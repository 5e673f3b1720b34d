import ReleasePress.Decimal.Layout

/-!
# Remainders of doubles

## Main declarations

* `Double.remainder`: what is left of a double after a multiple of another one is taken off toward zero.
-/

namespace ReleasePress

namespace Binary

/-- The remainder of two magnitudes as a whole number of the power of two that divides both. -/
def remainder (x y : Binary) : Nat × Int :=
  let unit := min x.exponent y.exponent
  (x.mantissa * Nat.pow 2 (x.exponent - unit).toNat %
    (y.mantissa * Nat.pow 2 (y.exponent - unit).toNat), unit)

end Binary

namespace Double

/-- What is left of `x` after a multiple of `y` is taken off toward zero; it has the sign of `x` and is
exact.  There is no remainder of a division by zero. -/
def remainder (x y : Double) : Option Double :=
  match Binary.ofBits? y.value.abs.toBits, Binary.ofBits? x.value.abs.toBits with
  | none, _ => none
  | some _, none => some x
  | some divisor, some magnitude =>
    let (count, unit) := magnitude.remainder divisor
    let left := (Float.ofNat count).scaleB unit
    ofFloat? (if x.value < 0.0 then -left else left)

end Double

end ReleasePress
