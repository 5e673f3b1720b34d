import ReleasePress.Log
import ReleasePress.Yaml.Data

/-!
# Front matter

A Markdown document may open with a YAML header between two fences, lines of exactly three hyphens.  The
header is cut off whatever it holds; its data counts only if it is a mapping or nothing.

## Main declarations

* `FrontMatter.Block`: the parts of a text that opens with a complete header.
* `FrontMatter.cut?`: the parts of a text.
* `FrontMatter.boundaries?`: where these parts lie in the bytes of the text.
* `FrontMatter.split`: the body of a text and the fields of its header.
-/

namespace ReleasePress.FrontMatter

open ReleasePress.Text

/-- The parts of a text with a header. -/
structure Block where
  /-- The opening fence with its line break. -/
  opening : List Char
  /-- The lines between the fences. -/
  header : List Char
  /-- The closing fence with its line break, if it has one. -/
  closing : List Char
  /-- What follows. -/
  body : List Char
  deriving DecidableEq, Repr

/-- Three hyphens. -/
def fence : List Char :=
  ['-', '-', '-']

/-- Whether a line without its line feed is a fence. -/
def isFence (line : List Char) : Bool :=
  dropReturn line = fence

/-- The header, the closing fence and the body of a text after the opening fence; `header` and `line`
hold the lines and the beginning of a line before it, last character first. -/
def closeFrom? (header line : List Char) : List Char → Option (List Char × List Char × List Char)
  | [] => if isFence line.reverse then some (header.reverse, line.reverse, []) else none
  | c :: text =>
    if c = '\n' then
      if isFence line.reverse then some (header.reverse, line.reverse ++ ['\n'], text)
      else closeFrom? ('\n' :: (line ++ header)) [] text
    else closeFrom? header (c :: line) text

/-- The parts of a text after an opening fence. -/
def cutAfter? (opening text : List Char) : Option Block :=
  (closeFrom? [] [] text).map fun (header, closing, body) => { opening, header, closing, body }

/-- The parts of a text that opens with a complete header. -/
def cut? : List Char → Option Block
  | '-' :: '-' :: '-' :: '\n' :: text => cutAfter? ['-', '-', '-', '\n'] text
  | '-' :: '-' :: '-' :: '\r' :: '\n' :: text => cutAfter? ['-', '-', '-', '\r', '\n'] text
  | _ => none

/-- Where the parts of a text with a header begin, as positions in its bytes. -/
structure Boundaries where
  header : String.Pos.Raw
  closing : String.Pos.Raw
  body : String.Pos.Raw
  deriving DecidableEq, Repr

/-- Each part begins where those before it end. -/
def Block.boundaries (block : Block) : Boundaries where
  header := (String.ofList block.opening).rawEndPos
  closing := (String.ofList (block.opening ++ block.header)).rawEndPos
  body := (String.ofList (block.opening ++ block.header ++ block.closing)).rawEndPos

/-- Where the header and the body of a text lie, if it opens with a complete header. -/
def boundaries? (text : String) : Option Boundaries :=
  (cut? text.toList).map Block.boundaries

/-- What a header holds instead of a mapping. -/
def kindOf : Json → String
  | .null => "null"
  | .bool _ => "a boolean"
  | .number _ => "a number"
  | .string _ => "a string"
  | .array _ => "a sequence"
  | .object _ => "a mapping"

/-- The fields of a header, or the warning that it is ignored with. -/
def fieldsOf (header : String) : Except Warning Fields :=
  if (trimmed header).isEmpty then .ok []
  else
    match Yaml.parse? header with
    | some (.object fields) => .ok fields
    | some .null => .ok []
    | some other => .error (.headerNotMapping (kindOf other))
    | none => .error (.headerInvalid "invalid document")

/-- The body of a text, the fields of its header and a warning if the header is ignored.  Only Markdown
has headers. -/
def split (isMarkdown : Bool) (text : String) : String × Option Fields × Option Warning :=
  if !isMarkdown then (text, none, none)
  else
    match cut? text.toList with
    | none => (text, none, none)
    | some block =>
      match fieldsOf (String.ofList block.header) with
      | .ok fields => (String.ofList block.body, some fields, none)
      | .error warning => (String.ofList block.body, none, some warning)

end ReleasePress.FrontMatter
