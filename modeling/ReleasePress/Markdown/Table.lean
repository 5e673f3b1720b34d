import ReleasePress.Markdown.Block
import ReleasePress.Markdown.Link

/-!
# Rows of tables

A row is a line with bars between its cells; a bar that is escaped belongs to a cell.  The second row of a table
is made of hyphens and says how many columns there are and how they are aligned.

## Main declarations

* `Table.row?`: the cells of a line.
* `Table.isDelimiter`: whether a line is the second row of a table.
* `Table.alignment`: the alignment that a cell of that row gives.
* `Table.fitted`: cells for a number of columns.
-/

namespace ReleasePress.Markdown.Table

open ReleasePress.Text

/-- White space inside a row. -/
def isGap (c : Char) : Bool :=
  c = ' ' || c = '\t' || c = '\x0b' || c = '\x0c'

/-- The cell that a text starts with, with the text from the next bar on. -/
def cell : List Char → List Char × List Char
  | [] => ([], [])
  | '\\' :: '|' :: rest =>
    let (content, rest) := cell rest
    ('|' :: content, rest)
  | '|' :: rest => ([], '|' :: rest)
  | c :: rest =>
    let (content, rest) := cell rest
    (c :: content, rest)

/-- At most `n` cells. -/
def cells : Nat → List Char → List (List Char)
  | 0, _ => []
  | n + 1, text =>
    match cell text with
    | (content, '|' :: rest) => trimmed content :: cells n (rest.dropWhile isGap)
    | ([], _) => []
    | (content, _) => [trimmed content]

/-- The cells of a line, if it has any. -/
def row? (line : List Char) : Option (List (List Char)) :=
  let text := match line with
    | '|' :: rest => rest.dropWhile isGap
    | text => text
  match cells (text.length + 1) text with
  | [] => none
  | cells => some cells

/-- The text after a run of hyphens with a colon perhaps before it and after it. -/
def hyphens? (text : List Char) : Option (List Char) :=
  let text := text.dropWhile isGap
  let text := (dropHead? [':'] text).getD text
  match text with
  | '-' :: rest =>
    let rest := rest.dropWhile (· = '-')
    some (((dropHead? [':'] rest).getD rest).dropWhile isGap)
  | _ => none

/-- Whether a text goes on with at most `n` bars that have hyphens after them, and then perhaps with a bar at
its end. -/
def endsDelimiter : Nat → List Char → Bool
  | _, [] => true
  | n, '|' :: rest =>
    match n, hyphens? rest with
    | n + 1, some rest => endsDelimiter n rest
    | _, _ => rest.all isGap
  | _, _ => false

/-- Whether a line is the second row of a table. -/
def isDelimiter (line : List Char) : Bool :=
  (hyphens? ((dropHead? ['|'] line).getD line)).any fun rest => endsDelimiter rest.length rest

/-- The alignment that a cell of hyphens gives. -/
def alignment (cell : List Char) : Alignment :=
  match cell.head? == some ':', cell.getLast? == some ':' with
  | true, true => .center
  | true, false => .left
  | false, true => .right
  | false, false => .unset

/-- Cells for `n` columns: further ones are left out, and missing ones are empty. -/
def fitted (n : Nat) (cells : List (List Char)) : List (List Char) :=
  cells.take n ++ List.replicate (n - cells.length) []

end ReleasePress.Markdown.Table
