import ReleasePress.Text.Split

/-!
# Trailers

The last paragraph of a message can be a block of trailers: lines `Key: value`, each with further,
indented lines of its value.  A paragraph with any other line is no such block.

## Main declarations

* `Git.Trailer`: a key with its value.
* `Git.trailers`: the trailers of a message, in order.
-/

namespace ReleasePress.Git

open ReleasePress.Text

/-- A key with its value. -/
structure Trailer where
  key : List Char
  value : List Char
  deriving DecidableEq, Repr

namespace Trailer

/-- A letter or digit of ASCII. -/
def isAlphanumeric (c : Char) : Bool :=
  isDigit c || ('a' ≤ c && c ≤ 'z') || ('A' ≤ c && c ≤ 'Z')

/-- The key that may contain a blank. -/
def breakingKey : List Char :=
  "BREAKING CHANGE".toList

/-- Letters, digits, underscores and hyphens, of which the first two may start a key, or the words
`BREAKING CHANGE`. -/
def isKey (key : List Char) : Bool :=
  key == breakingKey ||
    (match key with
    | c :: rest => isAlphanumeric c && rest.all fun c => isAlphanumeric c || c == '_' || c == '-'
    | [] => false)

/-- The trailer that a line starts. -/
def ofLine? (line : List Char) : Option Trailer :=
  match cutAt? [':'] line with
  | some (key, value) => if isKey key then some ⟨key, trim value⟩ else none
  | none => none

/-- A line that goes on with the value before it. -/
def isIndented : List Char → Bool
  | c :: _ => c == ' ' || c == '\t'
  | [] => false

/-- The trailer with a further line of its value. -/
def extend (trailer : Trailer) (line : List Char) : Trailer :=
  { trailer with value := trailer.value ++ ' ' :: trim line }

/-- The trailers of the lines of a block, after those in `done`, last one first. -/
def ofLines (done : List Trailer) : List (List Char) → List Trailer
  | [] => done.reverse
  | line :: lines =>
    if isIndented line then
      match done with
      | last :: done => ofLines (last.extend line :: done) lines
      | [] => []
    else
      match ofLine? line with
      | some trailer => ofLines (trailer :: done) lines
      | none => []

end Trailer

/-- The lines after the last blank line. -/
def lastParagraph (lines : List (List Char)) : List (List Char) :=
  (lines.reverse.takeWhile fun line => !(trim line).isEmpty).reverse

/-- The trailers of a message; none if its last paragraph is not a block of trailers. -/
def trailers (message : List Char) : List Trailer :=
  Trailer.ofLines [] (lastParagraph (lines (trimEnd message)))

/-- The value of the first trailer with the key. -/
def trailerValue? (key message : String) : Option String :=
  ((trailers message.toList).find? fun trailer => trailer.key == key.toList).map fun trailer =>
    String.ofList trailer.value

end ReleasePress.Git
