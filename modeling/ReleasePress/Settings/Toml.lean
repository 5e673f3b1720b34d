import ReleasePress.Text.Hex

/-!
# Texts in TOML

Settings are texts and lists of texts, so the only TOML documents of interest are those that assign such
values to plain keys.  Every other document is refused, be it TOML or not.

## Main declarations

* `Toml.Value`: a text or a list of texts.
* `Toml.parse?`: the assignments of a document, in order.
-/

namespace ReleasePress.Toml

open ReleasePress.Text

/-- A text or a list of texts. -/
inductive Value where
  | text (text : String)
  | list (items : List String)
  deriving DecidableEq, Repr

/-- The text after spaces and tabs. -/
def skipSpace (text : List Char) : List Char :=
  text.dropWhile fun c => c = ' ' || c = '\t'

/-- A character that may not occur as it is. -/
def isControl (c : Char) : Bool :=
  (c.toNat < 0x20 && c ≠ '\t') || c.toNat = 0x7F

/-- The text after a line break. -/
def newline? : List Char → Option (List Char)
  | '\n' :: text => some text
  | '\r' :: '\n' :: text => some text
  | _ => none

/-- The text after a comment, if one is there. -/
def skipComment? : List Char → Option (List Char)
  | '#' :: text =>
    let rest := text.dropWhile fun c => !isControl c
    if rest.isEmpty || (newline? rest).isSome then some rest else none
  | text => some text

/-- The text after white space, comments and line breaks. -/
def skipLines? (text : List Char) : Nat → Option (List Char)
  | 0 => none
  | fuel + 1 =>
    match skipComment? (skipSpace text) with
    | none => none
    | some rest =>
      match newline? rest with
      | some rest => skipLines? rest fuel
      | none => some rest

/-- The character of an escape, and the text after it. -/
def escape? : List Char → Option (Char × List Char)
  | 'b' :: text => some ('\x08', text)
  | 't' :: text => some ('\t', text)
  | 'n' :: text => some ('\n', text)
  | 'f' :: text => some ('\x0c', text)
  | 'r' :: text => some ('\r', text)
  | 'e' :: text => some ('\x1b', text)
  | '"' :: text => some ('"', text)
  | '\\' :: text => some ('\\', text)
  | 'x' :: text => (escapedNumber? 2 text).map fun c => (c, text.drop 2)
  | 'u' :: text => (escapedNumber? 4 text).map fun c => (c, text.drop 4)
  | 'U' :: text => (escapedNumber? 8 text).map fun c => (c, text.drop 8)
  | _ => none

/-- The rest of a text in double quotes; `acc` holds its beginning, last character first. -/
def basic? (acc : List Char) : List Char → Nat → Option (List Char × List Char)
  | _, 0 => none
  | '"' :: text, _ + 1 => some (acc.reverse, text)
  | '\\' :: text, fuel + 1 =>
    match escape? text with
    | some (c, text) => basic? (c :: acc) text fuel
    | none => none
  | c :: text, fuel + 1 => if isControl c then none else basic? (c :: acc) text fuel
  | [], _ + 1 => none

/-- The rest of a text in single quotes. -/
def literal? (acc : List Char) : List Char → Option (List Char × List Char)
  | '\'' :: text => some (acc.reverse, text)
  | c :: text => if isControl c then none else literal? (c :: acc) text
  | [] => none

/-- The end of a text in triple quotes, which up to two further quotes may precede. -/
def closing? (quote : Char) (acc text : List Char) : Option (List Char × List Char) :=
  let run := (text.takeWhile (· = quote)).length
  if run < 3 then none
  else
    let inside := min (run - 3) 2
    some ((List.replicate inside quote ++ acc).reverse, text.drop (inside + 3))

/-- The text after a backslash that joins lines: blanks, a line break and all blanks after it. -/
def joined? (text : List Char) : Option (List Char) :=
  (newline? (skipSpace text)).map fun rest =>
    rest.dropWhile fun c => c = ' ' || c = '\t' || c = '\n' || c = '\r'

/-- The rest of a text in triple quotes.  Backslashes escape between double quotes. -/
def multiline? (quote : Char) (acc : List Char) : List Char → Nat → Option (List Char × List Char)
  | _, 0 => none
  | [], _ + 1 => none
  | c :: text, fuel + 1 =>
    match closing? quote acc (c :: text) with
    | some done => some done
    | none =>
      match newline? (c :: text) with
      | some rest => multiline? quote ('\n' :: acc) rest fuel
      | none =>
        if c = '\\' && quote = '"' then
          match joined? text with
          | some rest => multiline? quote acc rest fuel
          | none =>
            match escape? text with
            | some (c, text) => multiline? quote (c :: acc) text fuel
            | none => none
        else if isControl c then none
        else multiline? quote (c :: acc) text fuel

/-- A text in quotes. -/
def quoted? (text : List Char) : Option (String × List Char) :=
  let start (rest : List Char) : List Char := (newline? rest).getD rest
  let found := match text with
    | '"' :: '"' :: '"' :: rest => multiline? '"' [] (start rest) (rest.length + 1)
    | '\'' :: '\'' :: '\'' :: rest => multiline? '\'' [] (start rest) (rest.length + 1)
    | '"' :: rest => basic? [] rest (rest.length + 1)
    | '\'' :: rest => literal? [] rest
    | _ => none
  found.map fun (value, rest) => (String.ofList value, rest)

/-- A key: letters, digits, underscores and hyphens, or a text in quotes on one line. -/
def key? (text : List Char) : Option (String × List Char) :=
  let isBare (c : Char) : Bool := c.isAlphanum || c = '_' || c = '-'
  match text with
  | '"' :: '"' :: '"' :: _ => none
  | '\'' :: '\'' :: '\'' :: _ => none
  | '"' :: _ => quoted? text
  | '\'' :: _ => quoted? text
  | _ =>
    let bare := text.takeWhile isBare
    if bare.isEmpty then none else some (String.ofList bare, text.dropWhile isBare)

/-- The items of a list up to its closing bracket. -/
def items? (acc : List String) (text : List Char) : Nat → Option (List String × List Char)
  | 0 => none
  | fuel + 1 => do
    let text ← skipLines? text (text.length + 1)
    match text with
    | ']' :: rest => some (acc.reverse, rest)
    | _ =>
      let (item, rest) ← quoted? text
      let rest ← skipLines? rest (rest.length + 1)
      match rest with
      | ',' :: rest => items? (item :: acc) rest fuel
      | ']' :: rest => some ((item :: acc).reverse, rest)
      | _ => none

/-- A value. -/
def value? (text : List Char) : Option (Value × List Char) :=
  match text with
  | '[' :: rest => (items? [] rest (rest.length + 1)).map fun (items, rest) => (.list items, rest)
  | _ => (quoted? text).map fun (value, rest) => (.text value, rest)

/-- The assignments of a text, one a line, after those in `acc`, last one first.  No key occurs twice. -/
def assignments? (acc : List (String × Value)) (text : List Char) :
    Nat → Option (List (String × Value))
  | 0 => none
  | fuel + 1 => do
    let text ← skipLines? text (text.length + 1)
    if text.isEmpty then some acc.reverse
    else
      let (key, rest) ← key? text
      match skipSpace rest with
      | '=' :: rest =>
        let (value, rest) ← value? (skipSpace rest)
        let rest ← skipComment? (skipSpace rest)
        if (acc.lookup key).isSome || !(rest.isEmpty || (newline? rest).isSome) then none
        else assignments? ((key, value) :: acc) rest fuel
      | _ => none

/-- The assignments of a document, which a byte order mark may precede. -/
def parse? (text : String) : Option (List (String × Value)) :=
  let chars := match text.toList with
    | '\uFEFF' :: rest => rest
    | chars => chars
  assignments? [] chars (chars.length + 2)

end ReleasePress.Toml
