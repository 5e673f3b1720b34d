import ReleasePress.Text.Blank

/-!
# Cutting text apart

Everything that reads text here works on `List Char`, where a cut is an ordinary list function.  This
module holds the cuts that several readers share: at a character, at a piece of text, into lines,
and around surrounding white space.  The functions on `String` at the end only convert.

## Main declarations

* `cutAt?`, `cutLastAt?`: before and after the first or the last occurrence.
* `lines`: the lines of a text, without their line ends.
* `trim`, `trimStart`, `trimEnd`: a text without surrounding white space.
* `replaceAll`: every occurrence of one piece of text replaced by another.
-/

namespace ReleasePress.Text

/-- The text after `head`, if it starts with `head`. -/
def dropHead? : List Char → List Char → Option (List Char)
  | [], text => some text
  | _ :: _, [] => none
  | h :: head, c :: text => if h = c then dropHead? head text else none

/-- The text without `tail`, if it ends in `tail`. -/
def dropTail? (tail text : List Char) : Option (List Char) :=
  (dropHead? tail.reverse text.reverse).map List.reverse

/-- The parts before and after the first occurrence of `mark`. -/
def cutAt? (mark : List Char) : List Char → Option (List Char × List Char)
  | [] => (dropHead? mark []).map fun rest => ([], rest)
  | c :: text =>
    match dropHead? mark (c :: text) with
    | some rest => some ([], rest)
    | none => (cutAt? mark text).map fun (before, after) => (c :: before, after)

/-- The parts before and after the last occurrence of the character `c`. -/
def cutLastAt? (c : Char) (text : List Char) : Option (List Char × List Char) :=
  (cutAt? [c] text.reverse).map fun (after, before) => (before.reverse, after.reverse)

/-- Whether `piece` occurs in the text. -/
def contains (piece text : List Char) : Bool :=
  (cutAt? piece text).isSome

def trimStart (text : List Char) : List Char :=
  text.dropWhile isBlank

def trimEnd (text : List Char) : List Char :=
  (text.reverse.dropWhile isBlank).reverse

def trim (text : List Char) : List Char :=
  trimEnd (trimStart text)

/-- A line that a line feed ended, without the carriage return that may stand before it. -/
def dropReturn (line : List Char) : List Char :=
  match line.reverse with
  | '\r' :: rest => rest.reverse
  | _ => line

/-- Lines end at a line feed, with or without a carriage return before it.  A text that ends in a line
feed has no further, empty line; a last line without a line feed keeps its carriage return. -/
def linesFrom (line : List Char) : List Char → List (List Char)
  | [] => if line.isEmpty then [] else [line.reverse]
  | '\n' :: text => dropReturn line.reverse :: linesFrom [] text
  | c :: text => linesFrom (c :: line) text

/-- The lines of a text, without their line ends. -/
def lines (text : List Char) : List (List Char) :=
  linesFrom [] text

/-- Each occurrence of `old`, found from the left without overlaps, replaced by `new`.  The number
`skip` counts the characters that still belong to the occurrence found last. -/
def replaceFrom (old new : List Char) : Nat → List Char → List Char
  | _, [] => []
  | skip + 1, _ :: text => replaceFrom old new skip text
  | 0, c :: text =>
    match dropHead? old (c :: text) with
    | some _ => new ++ replaceFrom old new (old.length - 1) text
    | none => c :: replaceFrom old new 0 text

/-- Each occurrence of the non-empty text `old` replaced by `new`. -/
def replaceAll (old new text : List Char) : List Char :=
  replaceFrom old new 0 text

/-- The text cut at every occurrence of the non-empty `mark`. -/
def splitFrom (mark : List Char) (piece : List Char) : Nat → List Char → List (List Char)
  | _, [] => [piece.reverse]
  | skip + 1, _ :: text => splitFrom mark piece skip text
  | 0, c :: text =>
    match dropHead? mark (c :: text) with
    | some _ => piece.reverse :: splitFrom mark [] (mark.length - 1) text
    | none => splitFrom mark (c :: piece) 0 text

/-- The pieces between the occurrences of `mark`.  An empty mark stands before every character and at
both ends. -/
def splitAll (mark text : List Char) : List (List Char) :=
  if mark.isEmpty then [] :: text.map (fun c => [c]) ++ [[]]
  else splitFrom mark [] 0 text

/-- A digit `0` to `9`. -/
def isDigit (c : Char) : Bool :=
  '0' ≤ c && c ≤ '9'

/-- The value of a run of decimal digits. -/
def digitsValue (digits : List Char) : Nat :=
  digits.foldl (fun n c => n * 10 + (c.toNat - '0'.toNat)) 0

/-- ASCII lower case; other characters stay. -/
def lowerAscii (text : String) : String :=
  String.ofList (text.toList.map Char.toLower)

/-- Equality up to ASCII case. -/
def sameUpToCase (a b : String) : Bool :=
  lowerAscii a == lowerAscii b

/-- `trim` on strings. -/
def trimmed (text : String) : String :=
  String.ofList (trim text.toList)

/-- `trimEnd` on strings. -/
def trimmedEnd (text : String) : String :=
  String.ofList (trimEnd text.toList)

/-- Whether `text` starts with `head`. -/
def startsWith (head text : String) : Bool :=
  (dropHead? head.toList text.toList).isSome

/-- The part of a `/`-separated name after the last `/`. -/
def lastSegment (name : String) : String :=
  match cutLastAt? '/' name.toList with
  | some (_, last) => String.ofList last
  | none => name

/-- The first `n` characters. -/
def takeChars (n : Nat) (text : String) : String :=
  String.ofList (text.toList.take n)

/-- `number` written with at least `width` digits. -/
def padded (width number : Nat) : String :=
  let digits := (Nat.toDigits 10 number)
  String.ofList (List.replicate (width - digits.length) '0' ++ digits)

end ReleasePress.Text
