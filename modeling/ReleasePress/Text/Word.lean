/-!
# Characters of words

## Main declarations

* `isWordPart`: letters, digits, marks and the underscore.
-/

namespace ReleasePress.Text

/-- Letters, digits, marks and the underscore; beyond ASCII they are told from other characters by their blocks. -/
def isWordPart (c : Char) : Bool :=
  let n := c.toNat
  if n < 0x80 then c.isAlphanum || c = '_'
  else n = 0xAA || n = 0xB5 || n = 0xBA ||
    (0xC0 ≤ n && n < 0x2000 && n ≠ 0xD7 && n ≠ 0xF7) ||
    (0x2C00 ≤ n && n < 0x2E00) || (0x3040 ≤ n && n < 0xD800) || (0xF900 ≤ n && n < 0xFE00) ||
    (0x10000 ≤ n && n < 0x1F000) || (0x20000 ≤ n && n < 0x40000)

end ReleasePress.Text
