import ReleasePress.Text.Split

/-!
# Readers

A reader takes a value off the start of a text or refuses the text.  Readers are tried in order: a later
one begins where the refused one began.

## Main declarations

* `Reader`: readers, which are a monad with alternatives.
* `Reader.word`, `Reader.symbol`: fixed words, without and with white space before them.
* `Reader.many`, `Reader.optional`, `Reader.separated`: repetition.
-/

namespace ReleasePress.Template

open ReleasePress.Text

/-- A value off the start of a text, with the text that is left. -/
abbrev Reader := StateT (List Char) Option

namespace Reader

/-- White space between the parts of a tag. -/
def isGap (c : Char) : Bool :=
  c = ' ' || c = '\t' || c = '\r' || c = '\n'

/-- Characters of names. -/
def isNamePart (c : Char) : Bool :=
  c.isAlphanum || c = '_'

/-- Characters that names start with. -/
def isNameStart (c : Char) : Bool :=
  c.isAlpha || c = '_'

/-- Skips white space. -/
def gap : Reader Unit := fun text => some ((), text.dropWhile isGap)

/-- A fixed word. -/
def word (w : String) : Reader Unit := fun text =>
  (dropHead? w.toList text).map fun rest => ((), rest)

/-- A fixed word after white space. -/
def symbol (w : String) : Reader Unit := do
  gap
  word w

/-- A value after white space. -/
def spaced {α : Type} (r : Reader α) : Reader α := do
  gap
  r

/-- One character of white space. -/
def oneGap : Reader Unit := fun
  | c :: rest => if isGap c then some ((), rest) else none
  | [] => none

/-- A value if it is there. -/
def optional {α : Type} (r : Reader α) : Reader (Option α) := fun text =>
  match r text with
  | some (a, rest) => some (some a, rest)
  | none => some (none, text)

/-- Whether something is there, which is taken off. -/
def given {α : Type} (r : Reader α) : Reader Bool := fun text =>
  match r text with
  | some (_, rest) => some (true, rest)
  | none => some (false, text)

/-- At most `n` values. -/
def upTo {α : Type} (r : Reader α) : Nat → Reader (List α)
  | 0 => pure []
  | n + 1 => fun text =>
    match r text with
    | none => some ([], text)
    | some (a, rest) =>
      match upTo r n rest with
      | some (as, rest) => some (a :: as, rest)
      | none => none

/-- As many values as there are; each takes off at least one character. -/
def many {α : Type} (r : Reader α) : Reader (List α) := fun text =>
  upTo r text.length text

/-- Values with commas between them, at least one. -/
def separated {α : Type} (r : Reader α) : Reader (List α) := do
  let first ← r
  let rest ← many (do symbol ","; spaced r)
  pure (first :: rest)

/-- The longest run of characters of a class, which is not empty. -/
def run (isPart : Char → Bool) : Reader String := fun text =>
  let run := text.takeWhile isPart
  if run.isEmpty then none else some (String.ofList run, text.dropWhile isPart)

/-- A name. -/
def name : Reader String := fun text =>
  match text with
  | c :: _ => if isNameStart c then run isNamePart text else none
  | [] => none

/-- An integer without superfluous zeros, as it is spelled. -/
def integerText : Reader String := fun text =>
  let (sign, digits) := match text with
    | '-' :: digits => ("-", digits)
    | digits => ("", digits)
  match digits with
  | '0' :: rest => some (sign ++ "0", rest)
  | _ => (run isDigit digits).map fun (run, rest) => (sign ++ run, rest)

/-- An integer, a point and digits, as they are spelled. -/
def realText : Reader String := do
  let whole ← integerText
  word "."
  let fraction ← run isDigit
  pure (whole ++ "." ++ fraction)

/-- A text between two marks of one kind, in which nothing is escaped. -/
def quotedBy (mark : Char) : Reader String := fun text =>
  match text with
  | c :: rest =>
    if c = mark then
      match cutAt? [mark] rest with
      | some (inside, rest) => some (String.ofList inside, rest)
      | none => none
    else none
  | [] => none

/-- A text between double quotes, single quotes or backquotes. -/
def quoted : Reader String :=
  quotedBy '"' <|> quotedBy '\'' <|> quotedBy '\x60'

end Reader

end ReleasePress.Template
