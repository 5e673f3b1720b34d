/-!
# Edit distance

The number of insertions, deletions and replacements of single characters that turn one text into
another.  It is computed row by row: the row of `a` holds the distance of `a` to every beginning of
the other text, shortest first.

## Main declarations

* `firstRow`, `nextRow`: the rows of the table.
* `editDistance`: the last entry of the last row.
-/

namespace ReleasePress.Text

/-- The distances of the empty text to the beginnings of `b`. -/
def firstRow (b : List Char) : List Nat :=
  List.range (b.length + 1)

/-- The entries of the next row after `left`, for the characters `b` and the row above from the entry
`corner` on. -/
def nextEntries (c : Char) (left corner : Nat) : List Char → List Nat → List Nat
  | x :: b, above :: row =>
    let entry := min (min (left + 1) (above + 1)) (if c = x then corner else corner + 1)
    entry :: nextEntries c entry above b row
  | _, _ => []

/-- The row of `a ++ [c]` from the row of `a`. -/
def nextRow (b : List Char) (row : List Nat) (c : Char) : List Nat :=
  match row with
  | [] => []
  | corner :: row => (corner + 1) :: nextEntries c (corner + 1) corner b row

/-- The least number of single-character edits that turn `a` into `b`. -/
def editDistance (a b : List Char) : Nat :=
  ((a.foldl (nextRow b) (firstRow b)).getLast?).getD 0

end ReleasePress.Text
