import ReleasePress.Markdown.Inline
import ReleasePress.Text.Case

/-!
# Links

A link gives its target after its text, or a label under which the target is defined elsewhere in the
document.

## Main declarations

* `Link.destination?`, `Link.title?`, `Link.label?`: the parts of links.
* `Link.target?`: the target after the text of a link.
* `Link.References`: the defined targets by their labels.
* `Link.definitions`: the definitions that a paragraph starts with, and the rest of it.
-/

namespace ReleasePress.Markdown.Link

open ReleasePress.Text

/-- A destination between angle brackets after the part read so far, which is given last first. -/
def angled? (url : List Char) : List Char → Option (List Char × List Char)
  | [] => none
  | '>' :: rest => some (url.reverse, rest)
  | '\\' :: [] => none
  | '\\' :: c :: rest => angled? (c :: '\\' :: url) rest
  | c :: rest => if c = '\n' || c = '<' then none else angled? (c :: url) rest

/-- Characters that end a destination without angle brackets. -/
def endsBare (c : Char) : Bool :=
  c.toNat ≤ 0x20 || c.toNat = 0x7F

/-- A destination without angle brackets after the part read so far, which is given last first and has `depth`
parentheses open, at most 32. -/
def bare? (depth : Nat) (url : List Char) : List Char → Option (List Char × List Char)
  | [] => if depth = 0 && !url.isEmpty then some (url.reverse, []) else none
  | '\\' :: c :: rest =>
    if isAsciiPunctuation c then bare? depth (c :: '\\' :: url) rest
    else bare? depth ('\\' :: url) (c :: rest)
  | c :: rest =>
    if c = '(' then if depth < 32 then bare? (depth + 1) (c :: url) rest else none
    else if c = ')' then
      match depth with
      | 0 => some (url.reverse, c :: rest)
      | depth + 1 => bare? depth (c :: url) rest
    else if endsBare c then
      if depth = 0 && !url.isEmpty then some (url.reverse, c :: rest) else none
    else bare? depth (c :: url) rest

/-- The destination that a text starts with, and the text after it. -/
def destination? : List Char → Option (List Char × List Char)
  | '<' :: text => angled? [] text
  | text => bare? 0 [] text

/-- A title up to its closing mark after the part read so far, which is given last first.  A closing mark that
is escaped ends the title only if no other one follows; it is kept in `last`. -/
def titleFrom? (closing : Char) (last : Option (List Char × List Char)) (title : List Char) :
    List Char → Option (List Char × List Char)
  | [] => last
  | '\\' :: c :: rest =>
    if c = closing then
      titleFrom? closing (some (('\\' :: title).reverse, rest)) (c :: '\\' :: title) rest
    else if isAsciiPunctuation c && c ≠ '\\' then titleFrom? closing last (c :: '\\' :: title) rest
    else titleFrom? closing last ('\\' :: title) (c :: rest)
  | c :: rest =>
    if c = closing then some (title.reverse, rest)
    else if closing = ')' && c = '(' then last
    else titleFrom? closing last (c :: title) rest

/-- The title that a text starts with, and the text after it. -/
def title? : List Char → Option (List Char × List Char)
  | '"' :: text => titleFrom? '"' none [] text
  | '\'' :: text => titleFrom? '\'' none [] text
  | '(' :: text => titleFrom? ')' none [] text
  | _ => none

/-- A label up to its closing bracket after the part read so far, which is given last first. -/
def labelFrom? (label : List Char) : List Char → Option (List Char × List Char)
  | [] => none
  | '[' :: _ => none
  | ']' :: rest => some (label.reverse, rest)
  | '\\' :: c :: rest =>
    if isAsciiPunctuation c then labelFrom? (c :: '\\' :: label) rest
    else labelFrom? ('\\' :: label) (c :: rest)
  | c :: rest => labelFrom? (c :: label) rest

/-- The label between brackets that a text starts with, without the white space around it, and the text after
it.  A label has at most 1000 bytes. -/
def label? : List Char → Option (List Char × List Char)
  | '[' :: text =>
    match labelFrom? [] text with
    | some (label, rest) =>
      if (String.ofList label).utf8ByteSize ≤ 1000 then some (trimmed label, rest) else none
    | none => none
  | _ => none

/-- The text after an opening parenthesis up to its closing one as a target, and the text after it. -/
def target? : List Char → Option (Target × List Char)
  | '(' :: text => do
    let (url, afterUrl) ← destination? (text.dropWhile isSpace)
    let gap := afterUrl.dropWhile isSpace
    let (title, rest) :=
      if gap.length = afterUrl.length then ([], gap) else (title? gap).getD ([], gap)
    match rest.dropWhile isSpace with
    | ')' :: rest => some (⟨resolved (trimmed url), resolved title⟩, rest)
    | _ => none
  | _ => none

/-- White space inside a line. -/
def isGap (c : Char) : Bool :=
  c = ' ' || c = '\t'

/-- Every run of white space as one space. -/
def collapse (inGap : Bool) : List Char → List Char
  | [] => []
  | c :: text =>
    if isBlank c then if inGap then collapse true text else ' ' :: collapse true text
    else c :: collapse false text

/-- A label as labels are compared: runs of white space are spaces, and case does not count. -/
def normalized (label : List Char) : List Char :=
  lower (upper (lower (collapse false (trimmed label))))

/-- The defined targets by their normalized labels, in the order of their definitions. -/
abbrev References := List (List Char × Target)

/-- The target of a label, which is the first that it was given. -/
def References.find? (references : References) (label : List Char) : Option Target :=
  references.lookup (normalized label)

/-- The text after spaces, of which one may be a line break. -/
def skipBreak (text : List Char) : List Char :=
  match text.dropWhile isGap with
  | '\n' :: rest => rest.dropWhile isGap
  | rest => rest

/-- The text after the end of a line. -/
def lineEnd? (text : List Char) : Option (List Char) :=
  match text.dropWhile isGap with
  | [] => some []
  | '\n' :: rest => some rest
  | _ => none

/-- A title on the rest of a line or on the next line, with the text after that line. -/
def titleLine? (text : List Char) : Option (List Char × List Char) := do
  let gap := skipBreak text
  let (title, rest) ← if gap.length = text.length then none else title? gap
  let rest ← lineEnd? rest
  return (title, rest)

/-- The definition that a text starts with, and the text after its last line.  What cannot be a title belongs
to the text after it. -/
def definition? (text : List Char) : Option ((List Char × Target) × List Char) := do
  let (label, rest) ← label? text
  guard !label.isEmpty
  let rest ← dropHead? [':'] rest
  let (url, rest) ← destination? (skipBreak rest)
  let (title, rest) ← titleLine? rest <|> (lineEnd? rest).map fun rest => ([], rest)
  return ((normalized label, ⟨resolved (trimmed url), resolved title⟩), rest)

/-- At most `n` definitions at the start of a text, and the rest of it. -/
def definitionsUpTo : Nat → List Char → References × List Char
  | 0, text => ([], text)
  | n + 1, text =>
    match definition? text with
    | some (definition, rest) =>
      let (definitions, rest) := definitionsUpTo n rest
      (definition :: definitions, rest)
    | none => ([], text)

/-- The definitions that a text starts with, and the rest of it. -/
def definitions (text : List Char) : References × List Char :=
  definitionsUpTo text.length text

end ReleasePress.Markdown.Link
