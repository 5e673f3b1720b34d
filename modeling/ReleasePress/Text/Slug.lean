import ReleasePress.Text.Split

/-!
# Slugs

A slug is made of small letters, digits and single hyphens.  Latin letters beyond ASCII are spelled with
those of ASCII; what has no such spelling becomes a hyphen.

## Main declarations

* `slug`: the slug of a text.
-/

namespace ReleasePress.Text

/-- Spellings of the characters from U+00A0 on. -/
def latinSpellings : List String :=
  [" ", "!", "C/", "PS", "$?", "Y=", "|", "SS", "\"", "(c)", "a", "<<", "!", "", "(r)", "-", "deg",
    "+-", "2", "3", "'", "u", "P", "*", ",", "1", "o", ">>", "1/4", "1/2", "3/4", "?", "A", "A", "A",
    "A", "A", "A", "AE", "C", "E", "E", "E", "E", "I", "I", "I", "I", "D", "N", "O", "O", "O", "O",
    "O", "x", "O", "U", "U", "U", "U", "Y", "Th", "ss", "a", "a", "a", "a", "a", "a", "ae", "c", "e",
    "e", "e", "e", "i", "i", "i", "i", "d", "n", "o", "o", "o", "o", "o", "/", "o", "u", "u", "u",
    "u", "y", "th", "y", "A", "a", "A", "a", "A", "a", "C", "c", "C", "c", "C", "c", "C", "c", "D",
    "d", "D", "d", "E", "e", "E", "e", "E", "e", "E", "e", "E", "e", "G", "g", "G", "g", "G", "g",
    "G", "g", "H", "h", "H", "h", "I", "i", "I", "i", "I", "i", "I", "i", "I", "i", "IJ", "ij", "J",
    "j", "K", "k", "k", "L", "l", "L", "l", "L", "l", "L", "l", "L", "l", "N", "n", "N", "n", "N",
    "n", "'n", "ng", "NG", "O", "o", "O", "o", "O", "o", "OE", "oe", "R", "r", "R", "r", "R", "r",
    "S", "s", "S", "s", "S", "s", "S", "s", "T", "t", "T", "t", "T", "t", "U", "u", "U", "u", "U",
    "u", "U", "u", "U", "u", "U", "u", "W", "w", "Y", "y", "Y", "Z", "z", "Z", "z", "Z", "z", "s"]

/-- A character in ASCII. -/
def spelled (c : Char) : List Char :=
  if c.toNat < 0x80 then [c]
  else if c.toNat < 0xA0 then []
  else
    match latinSpellings[c.toNat - 0xA0]? with
    | some spelling => spelling.toList
    | none => ['-']

/-- The slug of ASCII text; `open_` tells whether a hyphen may come next. -/
def slugFrom (open_ : Bool) : List Char → List Char
  | [] => []
  | c :: text =>
    if c.isAlphanum then c.toLower :: slugFrom true text
    else if open_ then '-' :: slugFrom false text
    else slugFrom false text

/-- The slug of a text. -/
def slug (text : List Char) : List Char :=
  let slug := slugFrom false (text.flatMap spelled)
  (dropTail? ['-'] slug).getD slug

end ReleasePress.Text
