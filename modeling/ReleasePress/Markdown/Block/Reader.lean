import ReleasePress.Markdown.Block.Line
import ReleasePress.Markdown.Inline.Reader
import ReleasePress.Markdown.Table

/-!
# Reading blocks

A document is read line by line.  Each line first goes on with the blocks that are open, from the outside to the inside,
as far as it fits them; then it opens new ones; what is left of it is text.  Link definitions are taken out of a
paragraph when it ends, and inline content is read when all of them are known.

## Main declarations

* `Frame`: an open block.
* `Draft`: a document that is being read.
* `Draft.line`: a draft after a further line.
* `read`: the blocks of a text.
-/

namespace ReleasePress.Markdown

open ReleasePress.Text

/-- Blocks with content that is still text. -/
abbrev RawBlock := Block (List Char)

/-- What a closed block has become. -/
structure Closed where
  /-- One block; the blocks of an item. -/
  blocks : List RawBlock
  /-- Whether a blank line followed it, or the last part of it. -/
  endsBlank : Bool
  /-- Whether a blank line stands between two of its parts. -/
  isLoose : Bool := false

/-- The kinds of open blocks. -/
inductive FrameKind where
  | quote
  | list (numbering : Numbering)
  /-- An item; lines that go on with it are indented by `width`. -/
  | item (width : Nat)
  /-- A paragraph, with its lines last first, and whether it is known not to be the first row of a table. -/
  | paragraph (lines : List (List Char)) (isText : Bool)
  | heading (level : Nat) (content : List Char)
  | indented (lines : List (List Char))
  /-- Code after a fence that was indented by `indent`. -/
  | fenced (fence : Fence) (indent : Nat) (info : List Char) (lines : List (List Char))
  | markup (kind : Tag.Section)
  | rule
  /-- A table, with its rows last first. -/
  | table (alignments : List Alignment) (header : List (List Char)) (rows : List (List (List Char)))

/-- An open block. -/
structure Frame where
  kind : FrameKind
  /-- Whether the last line that it got was blank. -/
  isBlank : Bool := false
  /-- The closed blocks inside, last first. -/
  children : List Closed := []

/-- A document that is being read. -/
structure Draft where
  /-- The open blocks, innermost first. -/
  frames : List Frame := []
  /-- The closed blocks that are in no other, last first. -/
  children : List Closed := []
  references : Link.References := []

/-- The text of lines that are given last first. -/
def joined (lines : List (List Char)) : List Char :=
  ['\n'].intercalate lines.reverse

/-- The text of lines that are given last first, each with its line end. -/
def terminated (lines : List (List Char)) : List Char :=
  lines.reverse.flatMap (· ++ ['\n'])

/-- Whether all of a line is white space. -/
def isBlankLine (line : List Char) : Bool :=
  line.all Link.isGap

/-- The blocks inside a frame. -/
def Frame.blocks (frame : Frame) : List RawBlock :=
  frame.children.reverse.flatMap (·.blocks)

/-- Whether a frame ends in a blank line; a list or an item does so if its last part does. -/
def Frame.endsBlank (frame : Frame) : Bool :=
  frame.isBlank ||
    match frame.kind with
    | .list _ | .item _ => frame.children.head?.any (·.endsBlank)
    | _ => false

/-- Whether a part of a frame other than the last ends in a blank line. -/
def Frame.hasGap (frame : Frame) : Bool :=
  frame.children.tail.any (·.endsBlank)

/-- The block of a frame.  A paragraph of definitions is none. -/
def Frame.block? (frame : Frame) : Option RawBlock :=
  match frame.kind with
  | .quote => some (.quote frame.blocks)
  | .list numbering =>
    let isTight := !frame.hasGap && !frame.children.any (·.isLoose)
    some (.list numbering isTight (frame.children.reverse.map (·.blocks)))
  | .item _ => none
  | .paragraph lines _ =>
    let text := (Link.definitions (joined lines)).2
    if text.isEmpty then none else some (.paragraph text)
  | .heading level content => some (.heading level content)
  | .indented lines => some (.code [] (terminated (lines.dropWhile isBlankLine)))
  | .fenced _ _ info lines =>
    some (.code (unescaped (trimmed (Entity.decode info))) (terminated lines))
  | .markup _ => some .markup
  | .rule => some .rule
  | .table alignments header rows => some (.table alignments header rows.reverse)

/-- What a frame becomes when it is closed. -/
def Frame.closed? (frame : Frame) : Option Closed :=
  match frame.kind with
  | .item _ => some ⟨frame.blocks, frame.endsBlank, frame.hasGap⟩
  | _ => frame.block?.map fun block => { blocks := [block], endsBlank := frame.endsBlank }

/-- The definitions in a frame. -/
def Frame.definitions (frame : Frame) : Link.References :=
  match frame.kind with
  | .paragraph lines _ => (Link.definitions (joined lines)).1
  | _ => []

namespace Draft

/-- Adds a closed block inside the innermost open one. -/
def put (d : Draft) (closed : Closed) : Draft :=
  match d.frames with
  | [] => { d with children := closed :: d.children }
  | frame :: frames =>
    { d with frames := { frame with children := closed :: frame.children } :: frames }

/-- Closes the innermost open block. -/
def close (d : Draft) : Draft :=
  match d.frames with
  | [] => d
  | frame :: frames =>
    let d := { d with frames := frames, references := d.references ++ frame.definitions }
    match frame.closed? with
    | some closed => d.put closed
    | none => d

/-- Closes the `n` innermost open blocks. -/
def closeMany : Nat → Draft → Draft
  | 0, d => d
  | n + 1, d => closeMany n d.close

/-- Puts another frame in the place of the innermost one. -/
def replace (d : Draft) (kind : FrameKind) : Draft :=
  match d.frames with
  | [] => d
  | frame :: frames => { d with frames := { frame with kind := kind } :: frames }

/-- The kind of the innermost open block. -/
def top? (d : Draft) : Option FrameKind :=
  d.frames.head?.map (·.kind)

end Draft

/-- Whether a block of one kind can stand in a block of another. -/
def FrameKind.holds : FrameKind → FrameKind → Bool
  | .list _, .item _ => true
  | .quote, .item _ | .item _, .item _ => false
  | .quote, _ | .item _, _ => true
  | _, _ => false

/-- How many of the frames, innermost first, must be closed before a block of the kind can be opened. -/
def obstacles (kind : FrameKind) : List Frame → Nat
  | [] => 0
  | frame :: frames => if frame.kind.holds kind then 0 else obstacles kind frames + 1

/-- Opens a block.  The blocks around it have no blank line last. -/
def Draft.enter (d : Draft) (frame : Frame) : Draft :=
  let d := d.closeMany (obstacles frame.kind d.frames)
  { d with frames := frame :: d.frames.map ({ · with isBlank := false }) }

/-- The place after the `>` of a quote. -/
def quoteMark? (c : Cursor) : Option Cursor :=
  match c.content with
  | '>' :: _ => some ((c.skipGap.drop 1).skip 1)
  | _ => none

/-- The place in a line at which a frame goes on, if the line goes on with it; `isEmpty` tells that nothing is open
inside. -/
def Frame.goesOn? (frame : Frame) (isEmpty : Bool) (c : Cursor) : Option Cursor :=
  match frame.kind with
  | .quote => if c.indent ≤ 3 then quoteMark? c else none
  | .list _ | .rule => some c
  | .item width =>
    if c.indent ≥ width then some (c.skip width)
    else if c.isBlank && !(isEmpty && frame.children.isEmpty) then some c.skipGap
    else none
  | .paragraph _ _ => if c.isBlank then none else some c
  | .heading _ _ => none
  | .indented _ =>
    if c.indent ≥ 4 then some (c.skip 4) else if c.isBlank then some c.skipGap else none
  | .fenced _ indent _ _ => some (c.skip indent)
  | .markup kind => if c.isBlank && !kind.spansBlanks then none else some c
  | .table _ _ _ => if (Table.row? c.content).isSome then some c else none

/-- Whether a line closes the code of a frame. -/
def Frame.isClosedBy (frame : Frame) (c : Cursor) : Bool :=
  match frame.kind with
  | .fenced fence _ _ _ => fence.isClosedBy c
  | _ => false

/-- How a line goes on with open blocks. -/
structure Match where
  /-- The number of the blocks that it does not go on with. -/
  pending : Nat
  /-- The place at which the blocks end that it goes on with. -/
  cursor : Cursor
  /-- Whether it does no more than close code. -/
  isClosing : Bool := false

/-- How a line goes on with open blocks, which are given outermost first. -/
def matchFrames (c : Cursor) : List Frame → Match
  | [] => { pending := 0, cursor := c }
  | frame :: frames =>
    if frame.isClosedBy c then { pending := frames.length + 1, cursor := c, isClosing := true }
    else
      match frame.goesOn? frames.isEmpty c with
      | some c => matchFrames c frames
      | none => { pending := frames.length + 1, cursor := c }

/-- A draft in the middle of a line. -/
structure Place where
  draft : Draft
  /-- The number of open blocks that the line does not go on with. -/
  pending : Nat
  cursor : Cursor
  /-- Whether the line has opened a block. -/
  hasOpened : Bool := false
  /-- Whether nothing of the line is left. -/
  isDone : Bool := false

namespace Place

/-- The kind of the innermost block that the line goes on with. -/
def container? (p : Place) : Option FrameKind :=
  (p.draft.frames.drop p.pending).head?.map (·.kind)

/-- Whether the line goes on with a paragraph. -/
def inParagraph (p : Place) : Bool :=
  match p.container? with
  | some (.paragraph _ _) => true
  | _ => false

/-- Opens a block and goes on at a place. -/
def enter (p : Place) (frame : Frame) (cursor : Cursor) : Place :=
  { draft := (p.draft.closeMany p.pending).enter frame, pending := 0, cursor := cursor,
    hasOpened := true }

/-- Opens a block that takes the rest of the line. -/
def finish (p : Place) (frame : Frame) : Place :=
  { p.enter frame ⟨[], p.cursor.column⟩ with isDone := true }

/-- Opens a quote. -/
def quote? (p : Place) : Option Place :=
  (quoteMark? p.cursor).map (p.enter { kind := .quote })

/-- Opens a heading. -/
def heading? (p : Place) : Option Place :=
  (Markdown.heading? p.cursor.content).map fun (level, text) =>
    p.finish { kind := .heading level text }

/-- Opens code after a fence. -/
def fence? (p : Place) : Option Place :=
  (Markdown.fence? p.cursor.content).map fun (fence, info) =>
    p.finish { kind := .fenced fence p.cursor.indent info [] }

/-- Opens HTML, which may end on its first line.  A lone tag does not interrupt a paragraph. -/
def markup? (p : Place) : Option Place :=
  match Tag.section? p.cursor.content with
  | none => none
  | some kind =>
    if kind = .lone && p.inParagraph then none
    else
      let p' := p.finish { kind := .markup kind }
      some (if kind.endsWith p.cursor.content then { p' with draft := p'.draft.close } else p')

/-- Makes a heading of the paragraph above.  If that holds definitions only, the line is its text. -/
def underline? (p : Place) : Option Place :=
  match p.container?, Markdown.underline? p.cursor.content with
  | some (.paragraph lines _), some level =>
    let (definitions, text) := Link.definitions (joined lines)
    let d := { p.draft with references := p.draft.references ++ definitions }
    if text.isEmpty then
      some { p with
        draft := d.replace (.paragraph [p.cursor.content] false), isDone := true }
    else some { p with draft := d.replace (.heading level text), isDone := true }
  | _, _ => none

/-- Opens a rule. -/
def rule? (p : Place) : Option Place :=
  if isRule p.cursor.content then some (p.finish { kind := .rule }) else none

/-- The width of an item after its marker, and the place at which its text starts.  Further white space belongs to
the text if it is five columns or more, or all that is left. -/
def itemStart (afterMarker : Cursor) : Nat × Cursor :=
  let gap := afterMarker.indent
  if 1 ≤ gap && gap ≤ 4 && !afterMarker.isBlank then (gap, afterMarker.skipGap)
  else (1, afterMarker.skip 1)

/-- Opens an item, in a new list if it does not fit the one that the line goes on with. -/
def item? (p : Place) : Option Place :=
  match marker? p.inParagraph p.cursor.content with
  | none => none
  | some (numbering, width) =>
    let (gap, cursor) := itemStart (p.cursor.skipGap.drop width)
    let item : Frame := { kind := .item (p.cursor.indent + width + gap) }
    let isFurther := match p.container? with
      | some (.list open_) => open_.agrees numbering
      | _ => false
    if isFurther then some (p.enter item cursor)
    else some ((p.enter { kind := .list numbering } cursor).enter item cursor)

/-- Opens indented code. -/
def indented? (p : Place) (mayBeLazy : Bool) : Option Place :=
  if p.cursor.indent ≥ 4 && !mayBeLazy && !p.cursor.isBlank then
    some (p.finish { kind := .indented [(p.cursor.skip 4).rest] })
  else none

/-- A text in which bars are not escaped. -/
def unescapedBars : List Char → List Char
  | '\\' :: '|' :: text => '|' :: unescapedBars text
  | c :: text => c :: unescapedBars text
  | [] => []

/-- Makes a table of a paragraph whose last line is a row with as many cells as this line.  The lines before it
stay a paragraph.  A paragraph that a line of hyphens does not fit stays text. -/
def header? (p : Place) (line : List Char) (before : List (List Char)) : Option Place :=
  if !Table.isDelimiter p.cursor.content then none
  else
    match Table.row? line, Table.row? p.cursor.content with
    | some header, some cells =>
      if header.length = cells.length then
        let outer := { p.draft with frames := p.draft.frames.tail }
        let outer :=
          if before.isEmpty then outer
          else outer.put ⟨[.paragraph (trimmed (unescapedBars (joined before)))], false, false⟩
        let table := FrameKind.table (cells.map Table.alignment) header []
        some { p with draft := outer.enter { kind := table, isBlank := true }, isDone := true }
      else some { p with draft := p.draft.replace (.paragraph (line :: before) true) }
    | _, _ => some { p with draft := p.draft.replace (.paragraph (line :: before) true) }

/-- Makes a table of a paragraph, or adds a row to a table. -/
def table? (p : Place) : Option Place :=
  match p.container? with
  | some (.paragraph (line :: before) false) => p.header? line before
  | some (.table alignments header rows) =>
    if p.cursor.isBlank then none
    else
      (Table.row? p.cursor.content).map fun cells =>
        let row := Table.fitted alignments.length cells
        let table : Frame := { kind := .table alignments header (row :: rows) }
        { p with draft := { p.draft with frames := table :: p.draft.frames.tail }, isDone := true }
  | _ => none

/-- Opens the next block.  The line has opened `depth` blocks, one more than that many of which may be lists; an
indented line may be the text of a paragraph that it does not go on with. -/
def open? (p : Place) (depth : Nat) (mayBeLazy : Bool) : Option Place :=
  if p.cursor.indent ≥ 4 then p.indented? mayBeLazy
  else
    p.quote? <|> p.heading? <|> p.fence? <|> p.markup? <|> p.underline? <|> p.rule? <|>
      (if depth < 99 then p.item? else none) <|> p.table?

/-- Opens all blocks that the line opens, at most `n`. -/
def openAll : Nat → Nat → Bool → Place → Place
  | 0, _, _, p => p
  | n + 1, depth, mayBeLazy, p =>
    match p.open? depth mayBeLazy with
    | none => p
    | some next =>
      if next.isDone || !next.hasOpened then next else openAll n (depth + 1) false next

end Place

/-- A frame after a line that goes on with it and with no block inside it; `isOuter` tells that there is one. -/
def Frame.afterLine (frame : Frame) (isOuter isBlank : Bool) : Frame :=
  let canEndBlank := match frame.kind with
    | .quote | .heading _ _ | .rule | .fenced _ _ _ _ => false
    | .item _ => isOuter || !frame.children.isEmpty
    | _ => true
  { frame with isBlank := isBlank && canEndBlank }

/-- Notes that a blank line follows the last of closed blocks, which are given last first. -/
def followedByBlank : List Closed → List Closed
  | [] => []
  | closed :: before => { closed with endsBlank := true } :: before

/-- Notes whether a line is blank, in the blocks that it goes on with and in the last block inside them; all but
the `pending` innermost blocks go on. -/
def Draft.note (d : Draft) (pending : Nat) (isBlank : Bool) : Draft :=
  let isOuter := pending > 0
  let inner := d.frames.take pending
  let inner :=
    match inner.getLast? with
    | some last => if isBlank then inner.dropLast ++ [{ last with isBlank := true }] else inner
    | none => inner
  match d.frames.drop pending with
  | [] =>
    { d with
      frames := inner
      children := if isBlank && !isOuter then followedByBlank d.children else d.children }
  | frame :: outer =>
    let frame := frame.afterLine isOuter isBlank
    let frame :=
      if isBlank && !isOuter then { frame with children := followedByBlank frame.children }
      else frame
    { d with frames := inner ++ frame :: outer.map ({ · with isBlank := false }) }

/-- Whether the innermost open block is a paragraph. -/
def Draft.inParagraph (d : Draft) : Bool :=
  match d.top? with
  | some (.paragraph _ _) => true
  | _ => false

/-- Adds text to the innermost open block; `content` is the text without white space before it. -/
def Draft.addText (d : Draft) (text content : List Char) : Draft :=
  match d.top? with
  | some (.indented lines) => d.replace (.indented (text :: lines))
  | some (.fenced fence indent info lines) => d.replace (.fenced fence indent info (text :: lines))
  | some (.markup kind) => if kind.endsWith content then d.close else d
  | some (.paragraph lines isText) =>
    if content.isEmpty then d else d.replace (.paragraph (content :: lines) isText)
  | _ => if content.isEmpty then d else d.enter { kind := .paragraph [content] false }

/-- The draft after the rest of a line.  Text that opens nothing goes on with a paragraph even if the line does
not go on with the blocks around it. -/
def Place.close (p : Place) : Draft :=
  let isBlank := p.cursor.isBlank
  if p.isDone then p.draft
  else
    let d := p.draft.note p.pending isBlank
    if !p.hasOpened && p.pending > 0 && !isBlank && d.inParagraph then
      d.addText p.cursor.rest p.cursor.rest
    else (d.closeMany p.pending).addText p.cursor.rest p.cursor.content

/-- Whether a line can open blocks inside a block of this kind. -/
def FrameKind.isOpenable : Option FrameKind → Bool
  | some (.indented _) | some (.fenced _ _ _ _) | some (.markup _) => false
  | _ => true

/-- The draft after a further line. -/
def Draft.line (d : Draft) (line : List Char) : Draft :=
  let m := matchFrames ⟨line, 0⟩ d.frames.reverse
  if m.isClosing then d.close
  else
    let p : Place := { draft := d, pending := m.pending, cursor := m.cursor }
    let p :=
      if FrameKind.isOpenable p.container? then p.openAll (line.length + 1) 0 d.inParagraph else p
    p.close

/-- The blocks of a text. -/
def read (text : List Char) : List (Block (List Inline)) :=
  let d := (lines text).foldl Draft.line {}
  let d := d.closeMany d.frames.length
  Block.mapAll (Inline.read d.references) (d.children.reverse.flatMap (·.blocks))

end ReleasePress.Markdown
