import ReleasePress.Markdown.Emphasis
import ReleasePress.Markdown.Link
import ReleasePress.Markdown.Tag

/-!
# Reading inline content

Inline content is read from left to right.  Opening brackets wait for their closing ones, and runs of marks wait
until the brackets around them are settled: emphasis never crosses the border of a link.

## Main declarations

* `Inline.Reading`: what has been read.
* `Inline.read`: the inline content of a text.
-/

namespace ReleasePress.Markdown.Inline

open ReleasePress.Text

/-- An opening bracket that waits for its closing one. -/
structure Opener where
  isImage : Bool
  /-- Whether another opening bracket came after it. -/
  isFollowed : Bool
  /-- The text after it. -/
  source : List Char

/-- A piece of content or an opening bracket. -/
inductive Item where
  | piece (settled : Piece)
  | opener (waiting : Opener)

/-- What has been read. -/
structure Reading where
  /-- The items so far, last first. -/
  items : List Item := []
  /-- Whether a link ended after the last opening bracket of a link. -/
  linked : Bool := false
  /-- The last character so far that is no `~`. -/
  before : Char := '\n'

/-- An opening bracket as text. -/
def Opener.text (opener : Opener) : Inline :=
  .text (if opener.isImage then ['!', '['] else ['['])

/-- An item as a piece. -/
def Item.settled : Item → Piece
  | .piece settled => settled
  | .opener waiting => .content waiting.text

/-- Adds a piece of content. -/
def Reading.add (r : Reading) (inline : Inline) : Reading :=
  { r with items := .piece (.content inline) :: r.items }

/-- Marks the last opening bracket as followed by another one. -/
def follow : List Item → List Item
  | [] => []
  | .opener waiting :: items => .opener { waiting with isFollowed := true } :: items
  | item :: items => item :: follow items

/-- Adds an opening bracket before `source`. -/
def Reading.bracket (r : Reading) (isImage : Bool) (source : List Char) : Reading :=
  { r with
    items := .opener ⟨isImage, false, source⟩ :: follow r.items
    linked := r.linked && isImage }

/-- The last opening bracket with the pieces after it and the items before it, which are given last first. -/
def lastOpener? (inside : List Piece) : List Item → Option (List Piece × Opener × List Item)
  | [] => none
  | .opener waiting :: items => some (inside, waiting, items)
  | .piece settled :: items => lastOpener? (settled :: inside) items

/-- The text between an opening bracket and its closing one, which stands before `rest`. -/
def Opener.inside (opener : Opener) (rest : List Char) : List Char :=
  opener.source.take (opener.source.length - rest.length - 1)

/-- The target of a label after a closing bracket, and the text after the label.  Without a label, or with an
empty one, the text between the brackets is the label, unless it has brackets of its own. -/
def reference? (references : Link.References) (opener : Opener) (rest : List Char) :
    Option (Target × List Char) :=
  let (label, after) := (Link.label? rest).getD ([], rest)
  let label := if label.isEmpty && !opener.isFollowed then opener.inside rest else label
  (references.find? label).map fun target => (target, after)

/-- Reads on after a closing bracket.  It makes a link or an image if a target or the label of one follows; but
a link around another link is only text. -/
def Reading.close (references : Link.References) (r : Reading) (rest : List Char) :
    Reading × List Char :=
  match lastOpener? [] r.items with
  | none => (r.add (.text [']']), rest)
  | some (inside, opener, items) =>
    let found? :=
      if !opener.isImage && r.linked then none
      else Link.target? rest <|> reference? references opener rest
    match found? with
    | some (target, rest) =>
      let inline := if opener.isImage then Inline.image target (settle inside)
        else Inline.link target (settle inside)
      ({ r with items := .piece (.content inline) :: items, linked := r.linked || !opener.isImage },
        rest)
    | none =>
      let items := (inside.reverse.map Item.piece) ++ .piece (.content opener.text) :: items
      ({ r with items := .piece (.content (.text [']'])) :: items }, rest)

/-- Code up to a run of exactly `n` backquotes, with the text after it.  The code so far is given last character
first and ends in `run` backquotes. -/
def codeFrom? (n run : Nat) (code : List Char) : List Char → Option (List Char × List Char)
  | [] => if run = n then some ((code.drop n).reverse, []) else none
  | c :: rest =>
    if c = '\x60' then codeFrom? n (run + 1) (c :: code) rest
    else if run = n then some ((code.drop n).reverse, c :: rest)
    else codeFrom? n 0 (c :: code) rest

/-- Code without the space that may stand at either end of it.  Line breaks count as spaces. -/
def codeContent (code : List Char) : List Char :=
  let code := code.map fun c => if c = '\n' then ' ' else c
  if code.all (· = ' ') then code
  else
    match code, code.getLast? with
    | ' ' :: inside, some ' ' => inside.dropLast
    | _, _ => code

/-- Reads on at a run of backquotes; one of more than 80 starts no code. -/
def Reading.backquotes (r : Reading) (text : List Char) : Reading × List Char :=
  let run := text.takeWhile (· = '\x60')
  let rest := text.drop run.length
  match if run.length ≤ 80 then codeFrom? run.length 0 [] rest else none with
  | some (content, rest) => (r.add (.code (codeContent content)), rest)
  | none => (r.add (.text run), rest)

/-- Reads on at a run of marks; one of more than two `~` is text. -/
def Reading.marks (r : Reading) (mark : Char) (text : List Char) : Reading × List Char :=
  let run := text.takeWhile (· = mark)
  let rest := text.drop run.length
  if mark = '~' && run.length > 2 then (r.add (.text run), rest)
  else
    let after := (rest.find? (· ≠ '~')).getD '\n'
    let marks := Run.ofNeighbours mark run.length r.before after
    ({ r with items := .piece (.run marks) :: r.items }, rest)

/-- Characters that may start something else than text. -/
def isSpecial (c : Char) : Bool :=
  ['\n', '\x60', '\\', '&', '<', '*', '_', '[', ']', '!', '~'].contains c

/-- Reads on at plain text.  White space at the end of a line is dropped, and two spaces there make the break
after it a hard one. -/
def Reading.plain (r : Reading) (text : List Char) : Reading × List Char :=
  let content := text.takeWhile (!isSpecial ·)
  match text.drop content.length with
  | '\n' :: rest =>
    let lineBreak := match content.reverse with
      | ' ' :: ' ' :: _ => Inline.hardBreak
      | _ => Inline.softBreak
    ((r.add (.text (trimmedEnd content))).add lineBreak, rest.dropWhile Link.isGap)
  | rest => (r.add (.text content), rest)

/-- Reads on at the character `c` before `rest`. -/
def Reading.step (references : Link.References) (r : Reading) (c : Char) (rest : List Char) :
    Reading × List Char :=
  match c, rest with
  | '\x60', rest => r.backquotes ('\x60' :: rest)
  | '\\', '\n' :: rest => (r.add .hardBreak, rest.dropWhile Link.isGap)
  | '\\', c :: rest =>
    if isAsciiPunctuation c then (r.add (.text [c]), rest) else (r.add (.text ['\\']), c :: rest)
  | '&', rest =>
    match Entity.read? rest with
    | some (found, rest) => (r.add (.text found), rest)
    | none => (r.add (.text ['&']), rest)
  | '<', rest =>
    match Tag.autolink? rest with
    | some (inline, rest) => (r.add inline, rest)
    | none =>
      match Tag.markup? rest with
      | some after => (r.add (.markup ('<' :: rest.take (rest.length - after.length))), after)
      | none => (r.add (.text ['<']), rest)
  | '[', rest => (r.bracket false rest, rest)
  | '!', '[' :: '^' :: rest => (r.add (.text ['!']), '[' :: '^' :: rest)
  | '!', '[' :: rest => (r.bracket true rest, rest)
  | ']', rest => r.close references rest
  | c, rest =>
    if c = '*' || c = '_' || c = '~' then r.marks c (c :: rest)
    else if c = '\n' || !isSpecial c then r.plain (c :: rest)
    else (r.add (.text [c]), rest)

/-- The last character that is no `~`. -/
def lastBefore (before : Char) (text : List Char) : Char :=
  text.foldl (fun before c => if c = '~' then before else c) before

/-- Reads at most `n` steps. -/
def readFrom (references : Link.References) : Nat → Reading → List Char → Reading
  | 0, r, _ => r
  | _, r, [] => r
  | n + 1, r, c :: source =>
    let (next, rest) := r.step references c source
    let taken := (c :: source).take (source.length + 1 - rest.length)
    readFrom references n { next with before := lastBefore r.before taken } rest

/-- The inline content of a text; every step takes at least one character. -/
def read (references : Link.References) (text : List Char) : List Inline :=
  let text := trimmedEnd text
  settle ((readFrom references text.length {} text).items.reverse.map Item.settled)

end ReleasePress.Markdown.Inline
