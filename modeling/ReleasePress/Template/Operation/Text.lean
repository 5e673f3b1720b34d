import ReleasePress.Decimal.Reader
import ReleasePress.Template.Operation.Argument
import ReleasePress.Text.Case
import ReleasePress.Text.Slug
import ReleasePress.Text.Word

/-!
# Operations on texts

## Main declarations

* `Operation.ofText`: the operation of a function on texts.
* The operations by name, which `Template.operations` lists.
-/

namespace ReleasePress.Template.Operation

open ReleasePress.Text

/-- The operation of a function on texts. -/
def ofText (name : String) (f : List Char → List Char) : Operation := fun value _ => do
  return .string (String.ofList (f (← subject name Kind.text value).toList))

/-- A text without a piece at its start, as often as it is there. -/
def stripStart (piece : List Char) : Nat → List Char → List Char
  | 0, text => text
  | n + 1, text =>
    if piece.isEmpty then text
    else
      match dropHead? piece text with
      | some rest => stripStart piece n rest
      | none => text

/-- A text without a piece at its end, as often as it is there. -/
def stripEnd (piece : List Char) (n : Nat) (text : List Char) : List Char :=
  (stripStart piece.reverse n text.reverse).reverse

/-- Takes a piece off one end of a text. -/
def strip (name : String) (f : List Char → Nat → List Char → List Char) : Operation :=
  fun value arguments => do
    let text := (← subject name Kind.text value).toList
    let piece ← required name "pat" (expected name "pat") Kind.text arguments
    return .string (String.ofList (f (unescaped piece) text.length text))

/-- Characters that belong to the one before them. -/
def isJoined (c : Char) : Bool :=
  let n := c.toNat
  (0x300 ≤ n && n ≤ 0x36F) || (0x1AB0 ≤ n && n ≤ 0x1AFF) || (0x20D0 ≤ n && n ≤ 0x20FF) ||
    (0xFE00 ≤ n && n ≤ 0xFE0F) || (0x1F3FB ≤ n && n ≤ 0x1F3FF) || n = 0x200D

/-- How many characters the first `n` visible ones take, of a text after the character `before`. -/
def visibleLength (before : Option Char) : Nat → List Char → Nat
  | _, [] => 0
  | n, c :: text =>
    let continues := match before with
      | none => false
      | some b => isJoined c || b = '\u200d' || (b = '\r' && c = '\n')
    if continues then visibleLength (some c) n text + 1
    else
      match n with
      | 0 => 0
      | n + 1 => visibleLength (some c) n text + 1

/-- Cuts a text after some visible characters. -/
def truncate : Operation := fun value arguments => do
  let text := (← subject "truncate" Kind.text value).toList
  let length ← argument "truncate" "length" Kind.count 255 arguments
  let ending ← argument "truncate" "end" Kind.text "…" arguments
  let kept := visibleLength none length text
  if text.length ≤ kept then return .string (String.ofList text)
  else return .string (String.ofList (text.take kept) ++ ending)

/-- The runs of characters that are not white space. -/
def words (text : List Char) : List (List Char) :=
  let step (c : Char) (state : List Char × List (List Char)) : List Char × List (List Char) :=
    if isBlank c then ([], if state.1.isEmpty then state.2 else state.1 :: state.2)
    else (c :: state.1, state.2)
  let (first, rest) := text.foldr step ([], [])
  if first.isEmpty then rest else first :: rest

def wordCount : Operation := fun value _ => do
  return .int (words (← subject "wordcount" Kind.text value).toList).length

/-- The first character in upper case and the rest in lower case. -/
def capitalize : List Char → List Char
  | [] => []
  | c :: text => upperChar c ++ lower text

/-- Every word in lower case with its first character in upper case.  An apostrophe goes on with a word;
`start` tells whether a word can start here. -/
def titleFrom (inWord : Bool) : List Char → List Char
  | [] => []
  | c :: text =>
    if isWordPart c then (if inWord then lowerChar c else upperChar c) ++ titleFrom true text
    else c :: titleFrom (inWord && c = '\'' && (text.dropWhile (· = '\'')).head?.any isWordPart) text

def title (text : List Char) : List Char :=
  titleFrom false text

/-- Every line break as a tag. -/
def lineBreaks (text : List Char) : List Char :=
  let tag := "<br>".toList
  replaceAll ['\n'] tag (replaceAll ['\r', '\n'] tag text)

/-- Indents all lines but the first, and blank ones only if that is asked for. -/
def indent : Operation := fun value arguments => do
  let text := (← subject "indent" Kind.text value).toList
  let mark ← argument "indent" "prefix" Kind.text "    " arguments
  let first ← argument "indent" "first" Kind.truth false arguments
  let blank ← argument "indent" "blank" Kind.truth false arguments
  let indented (line : List Char) : List Char :=
    if blank || !(trimStart line).isEmpty then mark.toList ++ line else line
  match lines text with
  | [] => return .string ""
  | head :: rest =>
    let head := if first then mark.toList ++ head else head
    return .string (String.ofList (['\n'].intercalate (head :: rest.map indented)))

/-- The text after a comment or a tag of markup. -/
def tagEnd? (text : List Char) : Option (List Char) :=
  let comment? := (dropHead? "<!--".toList text).bind fun rest =>
    match cutAt? "-->".toList rest with
    | some (inside, rest) => if inside.contains '\n' then none else some rest
    | none => none
  match comment?, text with
  | some rest, _ => some rest
  | none, '<' :: rest => (cutAt? ['>'] rest).map (·.2)
  | none, _ => none

/-- A text without comments and tags of markup. -/
def stripTags : Nat → List Char → List Char
  | 0, text => text
  | _, [] => []
  | fuel + 1, c :: text =>
    match tagEnd? (c :: text) with
    | some rest => stripTags fuel rest
    | none => c :: stripTags fuel text

/-- A text without white space between tags. -/
def spaceless : Nat → List Char → List Char
  | 0, text => text
  | _, [] => []
  | fuel + 1, c :: text =>
    let rest := text.dropWhile isBlank
    if c = '>' && rest.head? = some '<' then '>' :: spaceless fuel rest else c :: spaceless fuel text

/-- Two hexadecimal digits in upper case. -/
def hexByte (b : UInt8) : List Char :=
  [Nat.digitChar (b.toNat / 16), Nat.digitChar (b.toNat % 16)].map Char.toUpper

/-- Bytes of a text as a percent sign and two digits, but for those of some ASCII characters. -/
def percentEncode (keeps : Char → Bool) (text : List Char) : List Char :=
  text.flatMap fun c =>
    if c.toNat < 0x80 && keeps c then [c]
    else (String.ofList [c]).toUTF8.toList.flatMap fun b => '%' :: hexByte b

/-- Characters that stay as they are in a path of a link. -/
def isPathPart (c : Char) : Bool :=
  c.isAlphanum || ['-', '_', '.', '~', '/', '%'].contains c

/-- A text with some characters replaced by entities. -/
def entities (names : List (Char × String)) (text : List Char) : List Char :=
  text.flatMap fun c =>
    match names.lookup c with
    | some name => name.toList
    | none => [c]

/-- The entities of markup, with those for quotes and slashes. -/
def escapeMarkup : List Char → List Char :=
  entities [('&', "&amp;"), ('<', "&lt;"), ('>', "&gt;"), ('"', "&quot;"), ('\'', "&#x27;"),
    ('/', "&#x2F;")]

def escapeXml : List Char → List Char :=
  entities [('&', "&amp;"), ('<', "&lt;"), ('>', "&gt;"), ('"', "&quot;"), ('\'', "&apos;")]

/-- A backslash before quotes and backslashes. -/
def addSlashes (text : List Char) : List Char :=
  text.flatMap fun c => if c = '"' || c = '\'' || c = '\\' then ['\\', c] else [c]

/-- The pieces of a text between the occurrences of a mark. -/
def split : Operation := fun value arguments => do
  let text := (← subject "split" Kind.text value).toList
  let mark ← required "split" "pat" (expected "split" "pat") Kind.text arguments
  return .array ((splitAll (unescaped mark) text).map fun piece => .string (String.ofList piece))

/-- The value of a digit of a base up to thirty-six. -/
def digitOf? (base : Nat) (c : Char) : Option Nat :=
  let value :=
    if isDigit c then c.toNat - '0'.toNat
    else if 'a' ≤ c.toLower && c.toLower ≤ 'z' then c.toLower.toNat - 'a'.toNat + 10
    else base
  if value < base then some value else none

/-- The integer of a text in a base, if it fits 64 bits with its sign. -/
def integerIn? (base : Nat) (text : List Char) : Option Int :=
  let (negative, digits) := match text with
    | '-' :: digits => (true, digits)
    | '+' :: digits => (false, digits)
    | digits => (false, digits)
  if digits.isEmpty then none
  else
    match digits.mapM (digitOf? base) with
    | none => none
    | some values =>
      let size : Int := (values.foldl (fun n d => n * base + d) 0 : Nat)
      let n := if negative then -size else size
      if Json.isSigned64 n then some n else none

/-- The text after the mark of a base, as often as it is there. -/
def withoutBase (base : Nat) (text : List Char) : List Char :=
  let mark := match base with
    | 2 => ['0', 'b']
    | 8 => ['0', 'o']
    | 16 => ['0', 'x']
    | _ => []
  stripStart mark text.length text

/-- The integer part of a double, as far as 64 bits go. -/
def truncated (x : Float) : Json :=
  .int x.toInt64.toInt

/-- The integer that a text or a number stands for. -/
def integer : Operation := fun value arguments => do
  let default ← argument "int" "default" (Kind.integer "i64" (-9223372036854775808) 9223372036854775807) 0 arguments
  let base ← argument "int" "base" (Kind.integer "u32" 0 4294967295) 10 arguments
  match value with
  | .string text =>
    let trimmed := trim text.toList
    let digits := withoutBase base.toNat trimmed
    match integerIn? base.toNat digits with
    | some n => return .int n
    | none =>
      if digits.contains '.' then
        match Numeral.float? (String.ofList digits) with
        | some x => return truncated x
        | none => return .int default
      else return .int default
  | .number n => return truncated n.toFloat
  | _ => .error "Filter \x60int\x60 received an unexpected type"

/-- The double that a text or a number stands for. -/
def real : Operation := fun value arguments => do
  let default ← argument "float" "default" Kind.number 0.0 arguments
  match value with
  | .string text => return Json.ofFloat ((Numeral.float? (Text.trimmed text)).getD default)
  | .number n => return Json.ofFloat n.toFloat
  | _ => .error "Filter \x60float\x60 received an unexpected type"

end ReleasePress.Template.Operation
