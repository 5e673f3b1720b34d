/-!
# Blank characters

Trimming, paragraph breaks and date patterns all speak of white space.  They mean the `White_Space`
property of the Unicode character database, which is wider than the ASCII class of `Char`.

## Main declarations

* `isBlank`: the property itself.
-/

namespace ReleasePress.Text

/-- The Unicode property `White_Space`. -/
def isBlank (c : Char) : Bool :=
  (9 ≤ c.toNat && c.toNat ≤ 13) || c.toNat == 0x20 || c.toNat == 0x85 || c.toNat == 0xA0 ||
  c.toNat == 0x1680 || (0x2000 ≤ c.toNat && c.toNat ≤ 0x200A) || c.toNat == 0x2028 ||
  c.toNat == 0x2029 || c.toNat == 0x202F || c.toNat == 0x205F || c.toNat == 0x3000

end ReleasePress.Text
