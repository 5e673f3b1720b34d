import ReleasePress.Text.Case
import ReleasePress.Text.Digit
import ReleasePress.Text.Hex
import ReleasePress.Text.RegularExpression

/-!
# Reading regular expressions

The usual way to write them: classes in brackets, groups in parentheses, `*`, `+`, `?` and counts in braces for
repetition, `^` and `$` for the ends of a text, and escapes with a backslash.  Whether a repetition prefers few or
many rounds does not matter to the question whether it matches.

## Main declarations

* `RegularExpression.Fault`: why a text is no expression, with its place.
* `RegularExpression.read`: the expression of a text.
-/

namespace ReleasePress.Text.RegularExpression

/-- Why a text is no expression. -/
structure Fault where
  /-- How many characters there are from the fault on. -/
  left : Nat
  /-- How many of them are at fault. -/
  width : Nat
  reason : String

/-- How an expression is to be taken. -/
structure Manner where
  ignoresCase : Bool := false
  /-- The ends of a text are those of any line. -/
  byLine : Bool := false
  /-- A dot is any character at all. -/
  dotIsAll : Bool := false

/-- What is read and the text after it. -/
abbrev Reading (α : Type) := Except Fault (α × List Char)

/-- A fault at the start of a text. -/
def fault {α : Type} (text : List Char) (width : Nat) (reason : String) : Except Fault α :=
  .error ⟨text.length, width, reason⟩

/-- A class that takes a character in either case. -/
def eitherCase (accepts : Char → Bool) (c : Char) : Bool :=
  accepts c || (lowerChar c).all accepts || (upperChar c).all accepts

/-- The expression of a class of characters. -/
def ofClass (manner : Manner) (accepts : Char → Bool) : RegularExpression :=
  one (if manner.ignoresCase then eitherCase accepts else accepts)

/-- The class that a letter stands for after a backslash. -/
def classOf? : Char → Option (Char → Bool)
  | 'd' => some isDecimalDigit
  | 'D' => some fun c => !isDecimalDigit c
  | 's' => some isBlank
  | 'S' => some fun c => !isBlank c
  | 'w' => some isWordPart
  | 'W' => some fun c => !isWordPart c
  | _ => none

/-- The character that a letter stands for after a backslash. -/
def controlOf? : Char → Option Char
  | 'n' => some '\n'
  | 't' => some '\t'
  | 'r' => some '\r'
  | 'f' => some '\x0c'
  | 'v' => some '\x0b'
  | 'a' => some '\x07'
  | _ => none

/-- The character that digits after `\x` or `\u` name: in braces, or a fixed number of them. -/
def numbered? (width : Nat) : List Char → Option (Char × List Char)
  | '\x7b' :: text =>
    match cutAt? ['\x7d'] text with
    | some (digits, rest) => (escapedNumber? digits.length digits).map fun c => (c, rest)
    | none => none
  | text => (escapedNumber? width text).map fun c => (c, text.drop width)

/-- What stands after a backslash: a class or a character. -/
def escape? : List Char → Option ((Char → Bool) × Option Char × List Char)
  | [] => none
  | letter :: text =>
    let character (found : Option (Char × List Char)) :=
      found.map fun (c, rest) => ((· == c), some c, rest)
    match classOf? letter, controlOf? letter with
    | some accepts, _ => some (accepts, none, text)
    | none, some c => character (some (c, text))
    | none, none =>
      match letter with
      | 'x' => character (numbered? 2 text)
      | 'u' => character (numbered? 4 text)
      | 'U' => character (numbered? 8 text)
      | c => if c.isAlphanum || c.toNat ≥ 0x80 then none else character (some (c, text))

/-- The fault of a backslash. -/
def escapeFault {α : Type} (text : List Char) : Except Fault α :=
  match text with
  | [_] => fault text 1 "incomplete escape sequence, reached end of pattern prematurely"
  | _ => fault text 2 "unrecognized escape sequence"

/-- A place between characters that an escape stands for. -/
def edgeOf? : Char → Option RegularExpression
  | 'b' => some (edge isWordEdge)
  | 'B' => some (edge fun before after => !isWordEdge before after)
  | 'A' => some (edge fun before _ => before.isNone)
  | 'z' => some (edge fun _ after => after.isNone)
  | _ => none

/-- A class by its name between colons. -/
def namedClass? (name : String) : Option (Char → Bool) :=
  match name with
  | "alpha" => some Char.isAlpha
  | "digit" => some Char.isDigit
  | "alnum" => some Char.isAlphanum
  | "upper" => some Char.isUpper
  | "lower" => some Char.isLower
  | "space" => some fun c => c.isWhitespace || c = '\x0b' || c = '\x0c'
  | "blank" => some fun c => c = ' ' || c = '\t'
  | "punct" => some fun c => '!' ≤ c && c ≤ '~' && !c.isAlphanum
  | "word" => some fun c => c.isAlphanum || c = '_'
  | "xdigit" => some fun c => (hexValue? c).isSome
  | _ => none

/-- A member of a class in brackets: what it accepts, and the character it is if it is one. -/
def member? : List Char → Option ((Char → Bool) × Option Char × List Char)
  | '[' :: ':' :: text =>
    match cutAt? [':', ']'] text with
    | some (name, rest) => (namedClass? (String.ofList name)).map fun accepts => (accepts, none, rest)
    | none => none
  | '\\' :: text => escape? text
  | c :: text => some ((· == c), some c, text)
  | [] => none

/-- The members of a class up to its closing bracket.  `start` is the text from the opening one; `isFirst` tells that a
closing bracket would be a member. -/
def members (start : List Char) (isFirst : Bool) (accepts : Char → Bool) :
    Nat → List Char → Reading (Char → Bool)
  | 0, _ => fault start 1 "unclosed character class"
  | fuel + 1, text =>
    match text, isFirst with
    | [], _ => fault start 1 "unclosed character class"
    | ']' :: rest, false => .ok (accepts, rest)
    | text, _ =>
      match member? text with
      | none => escapeFault text
      | some (single, first, rest) =>
        match first, rest with
        | some low, '-' :: after =>
          if after.head? = some ']' then
            members start false (fun c => accepts c || single c) fuel rest
          else
            match member? after with
            | some (_, some high, rest) =>
              if high < low then
                fault text (text.length - rest.length)
                  "invalid character class range, the start must be <= the end"
              else members start false (fun c => accepts c || (low ≤ c && c ≤ high)) fuel rest
            | _ => fault start 1 "unclosed character class"
        | _, rest => members start false (fun c => accepts c || single c) fuel rest

/-- The expression of a class, after its opening bracket. -/
def bracketed (manner : Manner) (start text : List Char) : Reading RegularExpression :=
  let (negated, text) := match text with
    | '^' :: rest => (true, rest)
    | text => (false, text)
  match members start true (fun _ => false) (text.length + 1) text with
  | .error e => .error e
  | .ok (accepts, rest) =>
    let accepts := if manner.ignoresCase then eitherCase accepts else accepts
    .ok (one (fun c => accepts c != negated), rest)

/-- A number of rounds and the text after it. -/
def count? (text : List Char) : Option Nat × List Char :=
  let digits := text.takeWhile isDigit
  (if digits.isEmpty then none else some (digitsValue digits), text.drop digits.length)

/-- What a sign of repetition makes of an expression, if there is one. -/
def repetition? (text : List Char) :
    Option (Except Fault ((RegularExpression → RegularExpression) × List Char)) :=
  match text with
  | '*' :: rest => some (.ok (repeated, rest))
  | '+' :: rest => some (.ok (fun body => followed body (repeated body), rest))
  | '?' :: rest => some (.ok (fun body => either empty body, rest))
  | '\x7b' :: rest =>
    match count? rest with
    | (none, _) => some (fault text 1 "repetition quantifier expects a valid decimal")
    | (some low, '\x7d' :: rest) => some (.ok ((·.between low (some low)), rest))
    | (some low, ',' :: rest) =>
      match count? rest with
      | (high, '\x7d' :: after) =>
        if high.any (· < low) then
          some (fault text (text.length - after.length)
            "invalid repetition count range, the start must be <= the end")
        else some (.ok ((·.between low high), after))
      | _ => some (fault text text.length "unclosed counted repetition")
    | _ => some (fault text text.length "unclosed counted repetition")
  | _ => none

/-- An expression with all signs of repetition after it. -/
def withRepetitions (body : RegularExpression) : Nat → List Char → Reading RegularExpression
  | 0, text => .ok (body, text)
  | fuel + 1, text =>
    match repetition? text with
    | none => .ok (body, text)
    | some (.error e) => .error e
    | some (.ok (repeat_, rest)) =>
      withRepetitions (repeat_ body) fuel (match rest with
        | '?' :: rest => rest
        | rest => rest)

/-- The manner after the letters of a group that sets it; `on` is false after a minus sign. -/
def mannerAfter? (on : Bool) (manner : Manner) : List Char → Option (Manner × List Char)
  | 'i' :: text => mannerAfter? on { manner with ignoresCase := on } text
  | 'm' :: text => mannerAfter? on { manner with byLine := on } text
  | 's' :: text => mannerAfter? on { manner with dotIsAll := on } text
  | 'u' :: text => mannerAfter? on manner text
  | 'U' :: text => mannerAfter? on manner text
  | '-' :: text => mannerAfter? false manner text
  | text@(':' :: _) => some (manner, text)
  | text@(')' :: _) => some (manner, text)
  | _ => none

/-- What stands after an opening parenthesis: a group to be read in a manner, or a change of the manner. -/
inductive Opening where
  | group (manner : Manner) (text : List Char)
  | change (manner : Manner) (text : List Char)

/-- Reads what stands after an opening parenthesis; `start` is the text from the parenthesis. -/
def opening (manner : Manner) (start text : List Char) : Except Fault Opening :=
  let named (text : List Char) : Except Fault Opening :=
    match cutAt? ['>'] text with
    | some (_, rest) => .ok (.group manner rest)
    | none => fault start start.length "unclosed capture group name"
  let around (width : Nat) : Except Fault Opening :=
    fault start width "look-around, including look-ahead and look-behind, is not supported"
  match text with
  | '?' :: '=' :: _ => around 3
  | '?' :: '!' :: _ => around 3
  | '?' :: '<' :: '=' :: _ => around 4
  | '?' :: '<' :: '!' :: _ => around 4
  | '?' :: 'P' :: '<' :: text => named text
  | '?' :: '<' :: text => named text
  | '?' :: text =>
    match mannerAfter? true manner text with
    | some (manner, ':' :: rest) => .ok (.group manner rest)
    | some (manner, ')' :: rest) => .ok (.change manner rest)
    | _ => fault start 2 "unrecognized flag"
  | text => .ok (.group manner text)

mutual

/-- The alternatives up to the end of a group. -/
def alternatives (manner : Manner) : Nat → List Char → Reading RegularExpression
  | 0, text => .ok (empty, text)
  | fuel + 1, text =>
    match sequence manner empty fuel text with
    | .error e => .error e
    | .ok ((first, manner), '|' :: rest) =>
      match alternatives manner fuel rest with
      | .error e => .error e
      | .ok (second, rest) => .ok (either first second, rest)
    | .ok ((first, _), rest) => .ok (first, rest)

/-- One alternative after what is already read of it, with the manner at its end. -/
def sequence (manner : Manner) (read : RegularExpression) :
    Nat → List Char → Reading (RegularExpression × Manner)
  | 0, text => .ok ((read, manner), text)
  | fuel + 1, text =>
    let next (atom : RegularExpression) (rest : List Char) : Reading (RegularExpression × Manner) :=
      match withRepetitions atom rest.length rest with
      | .error e => .error e
      | .ok (atom, rest) => sequence manner (followed read atom) fuel rest
    match text with
    | [] => .ok ((read, manner), [])
    | '|' :: _ => .ok ((read, manner), text)
    | ')' :: _ => .ok ((read, manner), text)
    | '(' :: rest =>
      match opening manner text rest with
      | .error e => .error e
      | .ok (.change manner rest) => sequence manner read fuel rest
      | .ok (.group inner rest) =>
        match alternatives inner fuel rest with
        | .error e => .error e
        | .ok (body, ')' :: rest) => next body rest
        | .ok _ => fault text 1 "unclosed group"
    | '[' :: rest =>
      match bracketed manner text rest with
      | .error e => .error e
      | .ok (class_, rest) => next class_ rest
    | '.' :: rest => next (one fun c => manner.dotIsAll || c ≠ '\n') rest
    | '^' :: rest =>
      next (edge fun before _ => before.isNone || (manner.byLine && before = some '\n')) rest
    | '$' :: rest =>
      next (edge fun _ after => after.isNone || (manner.byLine && after = some '\n')) rest
    | '\\' :: rest =>
      match rest.head?.bind edgeOf?, escape? rest with
      | some place, _ => next place (rest.drop 1)
      | none, some (accepts, _, rest) => next (ofClass manner accepts) rest
      | none, none => escapeFault text
    | c :: rest =>
      if (repetition? text).isSome then fault text 1 "repetition operator missing expression"
      else next (ofClass manner (· == c)) rest

end

/-- The expression of a text. -/
def read (text : List Char) : Except Fault RegularExpression :=
  match alternatives {} (2 * text.length + 2) text with
  | .error e => .error e
  | .ok (expression, []) => .ok expression
  | .ok (_, rest) => fault rest 1 "unopened group"

/-- A fault as it is shown: the text with its part at fault marked, and the reason. -/
def Fault.report (text : List Char) (fault : Fault) : String :=
  let indent := "    "
  let before := String.ofList (List.replicate (text.length - fault.left) ' ')
  let marks := String.ofList (List.replicate (max 1 fault.width) '^')
  "regex parse error:\n" ++ indent ++ String.ofList text ++ "\n" ++ indent ++ before ++ marks ++
    "\nerror: " ++ fault.reason

end ReleasePress.Text.RegularExpression
