import ReleasePress.Text.Split

/-!
# Hexadecimal digits

Escapes in several formats name characters by hexadecimal digits of either case.

## Main declarations

* `hexValue?`, `hexNumber?`: the value of a digit and of a run of digits.
* `escapedNumber?`: the character that a fixed number of digits names.
-/

namespace ReleasePress.Text

/-- The value of a hexadecimal digit. -/
def hexValue? (c : Char) : Option Nat :=
  if isDigit c then some (c.toNat - '0'.toNat)
  else if 'a' ≤ c && c ≤ 'f' then some (c.toNat - 'a'.toNat + 10)
  else if 'A' ≤ c && c ≤ 'F' then some (c.toNat - 'A'.toNat + 10)
  else none

/-- The value of hexadecimal digits. -/
def hexNumber? (digits : List Char) : Option Nat :=
  digits.foldlM (fun n c => (hexValue? c).map (n * 16 + ·)) 0

/-- The character that the first `n` digits name. -/
def escapedNumber? (n : Nat) (text : List Char) : Option Char :=
  if text.length < n then none
  else
    match hexNumber? (text.take n) with
    | none => none
    | some value => if value.isValidChar then some (Char.ofNat value) else none

end ReleasePress.Text
