/-!
# UTF-8 with errors

Output of programs need not be valid UTF-8.  Decoding it leniently puts the replacement character in the
place of each longest beginning of a character that goes no further.

## Main declarations

* `Utf8.step`: the character at the start of some bytes, or the length of what is none.
* `Utf8.decodeLossy`: the text of bytes.
-/

namespace ReleasePress.Utf8

/-- The bytes that may follow a first byte, and how many continuation bytes follow after that; `none` if
no character starts with the byte. -/
def shape? (first : UInt8) : Option (UInt8 × UInt8 × Nat) :=
  let b := first.toNat
  if 0xC2 ≤ b && b ≤ 0xDF then some (0x80, 0xBF, 0)
  else if b = 0xE0 then some (0xA0, 0xBF, 1)
  else if b = 0xED then some (0x80, 0x9F, 1)
  else if 0xE1 ≤ b && b ≤ 0xEF then some (0x80, 0xBF, 1)
  else if b = 0xF0 then some (0x90, 0xBF, 2)
  else if 0xF1 ≤ b && b ≤ 0xF3 then some (0x80, 0xBF, 2)
  else if b = 0xF4 then some (0x80, 0x8F, 2)
  else none

/-- Reads `n` continuation bytes after the bits `value`: how many were there, and the bits if all
were. -/
def continuation (value : Nat) : Nat → List UInt8 → Nat × Option Nat
  | 0, _ => (0, some value)
  | n + 1, b :: bytes =>
    if 0x80 ≤ b && b ≤ 0xBF then
      let (read, result) := continuation (value * 64 + (b.toNat - 0x80)) n bytes
      (read + 1, result)
    else (0, none)
  | _ + 1, [] => (0, none)

/-- The character at the start of some bytes, if there is one, and how many bytes it takes, or how many
bytes look like the beginning of one. -/
def step (first : UInt8) (bytes : List UInt8) : Option Char × Nat :=
  if first < 0x80 then (some (Char.ofNat first.toNat), 1)
  else
    match shape? first, bytes with
    | some (low, high, n), second :: bytes =>
      if low ≤ second && second ≤ high then
        let lead := if n = 0 then first.toNat - 0xC0 else if n = 1 then first.toNat - 0xE0
          else first.toNat - 0xF0
        let (read, value) := continuation (lead * 64 + (second.toNat - 0x80)) n bytes
        (value.map Char.ofNat, read + 2)
      else (none, 1)
    | _, _ => (none, 1)

/-- The characters of some bytes; `skip` counts the bytes of the character read last. -/
def decode : Nat → List UInt8 → List Char
  | _, [] => []
  | skip + 1, _ :: bytes => decode skip bytes
  | 0, b :: bytes =>
    let (c, taken) := step b bytes
    c.getD '\uFFFD' :: decode (taken - 1) bytes

/-- The text of bytes, with replacement characters for what is no text. -/
def decodeLossy (bytes : ByteArray) : String :=
  match String.fromUTF8? bytes with
  | some text => text
  | none => String.ofList (decode 0 bytes.toList)

end ReleasePress.Utf8
