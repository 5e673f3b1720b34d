/-!
# YAML tokens

The tokens that a YAML text is cut into.  Indentation shows as tokens as well: a collection that is
written with indentation starts and ends with a token of its own.

## Main declarations

* `Yaml.Token`: the tokens.
* `Yaml.Cursor`: a place in the text, with its line and column.
* `Yaml.isBreak`, `Yaml.isSpace`: the characters that separate.
-/

namespace ReleasePress.Yaml

/-- A token of a YAML text. -/
inductive Token where
  | version (major minor : Nat)
  | tagHandle (handle pre : List Char)
  | documentStart
  | documentEnd
  | blockSequenceStart
  | blockMappingStart
  | blockEnd
  | flowSequenceStart
  | flowSequenceEnd
  | flowMappingStart
  | flowMappingEnd
  | flowEntry
  | blockEntry
  | key
  | value
  | reference (name : List Char)
  | anchor (name : List Char)
  | tag (handle suffix : List Char)
  | scalar (text : List Char) (plain : Bool)
  deriving DecidableEq, Repr

/-- A place in a text and what follows it. -/
structure Cursor where
  rest : List Char
  index : Nat := 0
  line : Nat := 0
  column : Nat := 0

/-- A line break. -/
def isBreak (c : Char) : Bool :=
  c = '\n' || c = '\r' || c = '\u0085' || c = '\u2028' || c = '\u2029'

/-- A space or a tab. -/
def isSpace (c : Char) : Bool :=
  c = ' ' || c = '\t'

/-- Whether a text ends or goes on with a space or a line break. -/
def isGap : Option Char → Bool
  | none => true
  | some c => isSpace c || isBreak c

/-- A letter, a digit, an underscore or a hyphen. -/
def isWord (c : Char) : Bool :=
  c.isAlphanum || c = '_' || c = '-'

namespace Cursor

def peek (c : Cursor) : Option Char :=
  c.rest.head?

/-- The place after `n` characters of the same line. -/
def skip (n : Nat) (c : Cursor) : Cursor :=
  { c with rest := c.rest.drop n, index := c.index + n, column := c.column + n }

/-- The line break at a place, as it counts in a scalar, and the place after it. -/
def readBreak (c : Cursor) : List Char × Cursor :=
  let next (n : Nat) : Cursor :=
    { rest := c.rest.drop n, index := c.index + n, line := c.line + 1, column := 0 }
  match c.rest with
  | '\r' :: '\n' :: _ => (['\n'], next 2)
  | '\u2028' :: _ => (['\u2028'], next 1)
  | '\u2029' :: _ => (['\u2029'], next 1)
  | b :: _ => if isBreak b then (['\n'], next 1) else ([], c)
  | [] => ([], c)

/-- The characters of the line that satisfy `p` and the place after them. -/
def span (p : Char → Bool) (c : Cursor) : List Char × Cursor :=
  let run := c.rest.takeWhile p
  (run, c.skip run.length)

/-- The place after the comment at a place, if there is one. -/
def skipComment (c : Cursor) : Cursor :=
  if c.peek = some '#' then (c.span fun x => !isBreak x).2 else c

/-- Whether a line starts with three characters that mark a document. -/
def isMarker (mark : Char) (c : Cursor) : Bool :=
  c.column = 0 && c.rest.take 3 = [mark, mark, mark] && isGap c.rest[3]?

/-- Whether a line starts with the mark of the start or the end of a document. -/
def isDocumentMarker (c : Cursor) : Bool :=
  c.isMarker '-' || c.isMarker '.'

end Cursor

end ReleasePress.Yaml
