import ReleasePress.Markdown.Block
import ReleasePress.Markdown.Link
import ReleasePress.Markdown.Tag

/-!
# Lines

A line is read from its start, block by block.  Blocks are told apart by how far a line is indented, so a place in a
line knows its column; tabs reach to the next multiple of four.

## Main declarations

* `Cursor`: a place in a line.
* `lines`: the lines of a text.
* `heading?`, `Fence`, `fence?`, `underline?`, `isRule`, `marker?`: what a line can start with.
-/

namespace ReleasePress.Markdown

open ReleasePress.Text

/-- A place in a line. -/
structure Cursor where
  /-- What is left of the line. -/
  rest : List Char
  column : Nat
  deriving DecidableEq, Repr

/-- The column after the spaces and tabs at the start of a text. -/
def columnAfter (column : Nat) : List Char → Nat
  | ' ' :: rest => columnAfter (column + 1) rest
  | '\t' :: rest => columnAfter (column + (4 - column % 4)) rest
  | _ => column

/-- The place at most `n` columns of white space further on.  A tab that is only used in part leaves
spaces. -/
def skipColumns (n column : Nat) : List Char → Cursor
  | [] => ⟨[], column⟩
  | c :: rest =>
    if n = 0 then ⟨c :: rest, column⟩
    else if c = ' ' then skipColumns (n - 1) (column + 1) rest
    else if c = '\t' then
      let width := 4 - column % 4
      if width ≤ n then skipColumns (n - width) (column + width) rest
      else ⟨List.replicate (width - n) ' ' ++ rest, column + n⟩
    else ⟨c :: rest, column⟩

namespace Cursor

/-- What is left of the line after white space. -/
def content (c : Cursor) : List Char :=
  c.rest.dropWhile Link.isGap

/-- How many columns of white space come first. -/
def indent (c : Cursor) : Nat :=
  columnAfter c.column c.rest - c.column

/-- Whether only white space is left. -/
def isBlank (c : Cursor) : Bool :=
  c.content.isEmpty

/-- The place after white space. -/
def skipGap (c : Cursor) : Cursor :=
  ⟨c.content, columnAfter c.column c.rest⟩

/-- The place at most `n` columns of white space further on. -/
def skip (c : Cursor) (n : Nat) : Cursor :=
  skipColumns n c.column c.rest

/-- The place `n` characters further on, which are no tabs. -/
def drop (c : Cursor) (n : Nat) : Cursor :=
  ⟨c.rest.drop n, c.column + n⟩

end Cursor

/-- The lines of a text after the beginning of the first one, which is given last first.  A line ends at a line
feed, at a carriage return or at both. -/
def linesFrom (line : List Char) : List Char → List (List Char)
  | [] => if line.isEmpty then [] else [line.reverse]
  | '\r' :: '\n' :: text => line.reverse :: linesFrom [] text
  | c :: text =>
    if c = '\n' || c = '\r' then line.reverse :: linesFrom [] text
    else if c = '\x00' then linesFrom ('\uFFFD' :: line) text
    else linesFrom (c :: line) text

/-- The lines of a text.  A byte order mark at its start is left out. -/
def lines (text : List Char) : List (List Char) :=
  linesFrom [] ((dropHead? ['\uFEFF'] text).getD text)

/-- The text of a heading, without the marks that may close it. -/
def headingText (text : List Char) : List Char :=
  let text := trimmedEnd (text.dropWhile Link.isGap)
  match text.reverse.dropWhile (· = '#') with
  | c :: before => if Link.isGap c then trimmedEnd (c :: before).reverse else text
  | [] => []

/-- The level and the text of a heading with marks before it. -/
def heading? (content : List Char) : Option (Nat × List Char) :=
  let level := (content.takeWhile (· = '#')).length
  let text := content.drop level
  if 1 ≤ level && level ≤ 6 && text.head?.all Link.isGap then some (level, headingText text)
  else none

/-- The fence at which a block of code starts. -/
structure Fence where
  mark : Char
  length : Nat
  deriving DecidableEq, Repr

/-- A fence and what stands after it.  No backquote may stand after a fence of backquotes. -/
def fence? (content : List Char) : Option (Fence × List Char) :=
  match content with
  | mark :: _ =>
    let length := (content.takeWhile (· = mark)).length
    let info := content.drop length
    if length ≥ 3 && (mark = '~' || (mark = '\x60' && !info.contains mark)) then
      some (⟨mark, length⟩, info)
    else none
  | [] => none

/-- Whether a line closes the code after a fence. -/
def Fence.isClosedBy (fence : Fence) (c : Cursor) : Bool :=
  c.indent ≤ 3 && (c.content.takeWhile (· = fence.mark)).length ≥ fence.length &&
    (c.content.dropWhile (· = fence.mark)).all Link.isGap

/-- The level of the heading that a line under a paragraph makes of it. -/
def underline? (content : List Char) : Option Nat :=
  match content with
  | mark :: rest =>
    if (rest.dropWhile (· = mark)).all Link.isGap then
      if mark = '=' then some 1 else if mark = '-' then some 2 else none
    else none
  | [] => none

/-- Whether a line is a rule: three or more equal marks, with or without white space between them. -/
def isRule (content : List Char) : Bool :=
  match content with
  | mark :: _ =>
    ['*', '-', '_'].contains mark && content.all (fun c => c = mark || Link.isGap c) &&
      content.count mark ≥ 3
  | [] => false

/-- Whether a marker ends before the text: at white space or at the end of the line. -/
def endsMarker (text : List Char) : Bool :=
  text.head?.all isSpace

/-- The marker of an item, and its width.  A paragraph is interrupted only by an item that is not empty and, if it
is numbered, has the number one. -/
def marker? (interrupts : Bool) (content : List Char) : Option (Numbering × Nat) :=
  let mayStart (rest : List Char) : Bool :=
    endsMarker rest && !(interrupts && rest.all Link.isGap)
  let digits := content.takeWhile isDigit
  match digits, content.drop digits.length with
  | [], mark :: rest =>
    if ['*', '-', '+'].contains mark && mayStart rest then some (.bullet mark, 1) else none
  | _ :: _, mark :: rest =>
    let number := digitsValue digits
    if digits.length ≤ 9 && (mark = '.' || mark = ')') && mayStart rest &&
        !(interrupts && number ≠ 1) then
      some (.ordered number mark, digits.length + 1)
    else none
  | _, [] => none

end ReleasePress.Markdown
