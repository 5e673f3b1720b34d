import ReleasePress.Markdown.Inline

/-!
# Blocks

A document is a sequence of blocks, some of which hold blocks.  The type of the content of paragraphs, headings and
table cells is left open: it is text at first and inline content in the end.

## Main declarations

* `Block`: blocks.
* `Block.map`: blocks with other content.
-/

namespace ReleasePress.Markdown

/-- The alignment of a column of a table. -/
inductive Alignment where
  | unset
  | left
  | center
  | right
  deriving DecidableEq, Repr

/-- How the items of a list are marked. -/
inductive Numbering where
  | bullet (mark : Char)
  /-- Numbers with a mark after them; the first item has the number `start`. -/
  | ordered (start : Nat) (mark : Char)
  deriving DecidableEq, Repr

/-- Whether items marked so can be in one list. -/
def Numbering.agrees : Numbering → Numbering → Bool
  | .bullet a, .bullet b => a = b
  | .ordered _ a, .ordered _ b => a = b
  | _, _ => false

/-- A block whose content has type `α`. -/
inductive Block (α : Type) where
  | paragraph (content : α)
  | heading (level : Nat) (content : α)
  /-- Code, with what is said about it on the line of its fence. -/
  | code (info text : List Char)
  | rule
  /-- HTML. -/
  | markup
  | quote (blocks : List (Block α))
  /-- A list; the paragraphs of a tight one are not set off. -/
  | list (numbering : Numbering) (tight : Bool) (items : List (List (Block α)))
  | table (alignments : List Alignment) (header : List α) (rows : List (List α))
  deriving Repr

mutual

/-- A block with other content. -/
def Block.map {α β : Type} (f : α → β) : Block α → Block β
  | .paragraph content => .paragraph (f content)
  | .heading level content => .heading level (f content)
  | .code info text => .code info text
  | .rule => .rule
  | .markup => .markup
  | .quote blocks => .quote (Block.mapAll f blocks)
  | .list numbering tight items => .list numbering tight (Block.mapItems f items)
  | .table alignments header rows => .table alignments (header.map f) (rows.map (·.map f))

/-- Blocks with other content. -/
def Block.mapAll {α β : Type} (f : α → β) : List (Block α) → List (Block β)
  | [] => []
  | block :: blocks => block.map f :: Block.mapAll f blocks

/-- The items of a list with other content. -/
def Block.mapItems {α β : Type} (f : α → β) : List (List (Block α)) → List (List (Block β))
  | [] => []
  | item :: items => Block.mapAll f item :: Block.mapItems f items

end

end ReleasePress.Markdown
