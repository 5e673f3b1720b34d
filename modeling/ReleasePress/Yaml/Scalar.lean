import ReleasePress.Text.Hex
import ReleasePress.Yaml.Token

/-!
# YAML scalars

Scalars are written plainly, between quotes, or as blocks of indented lines.  A line break inside a
scalar is folded into a space, and further ones are kept.

## Main declarations

* `Yaml.readPlain?`, `Yaml.readQuoted?`, `Yaml.readBlock?`: the scalar at a place and the place after it.
-/

namespace ReleasePress.Yaml

open ReleasePress.Text

/-- White space between two parts of a scalar. -/
structure Gap where
  /-- Spaces before the first line break. -/
  spaces : List Char := []
  /-- Whether there was a line break. -/
  broken : Bool := false
  firstBreak : List Char := []
  furtherBreaks : List Char := []

/-- What a gap counts for: its spaces, or its line breaks, of which the first one is folded. -/
def Gap.text (gap : Gap) : List Char :=
  if !gap.broken then gap.spaces
  else if gap.firstBreak = ['\n'] then
    if gap.furtherBreaks.isEmpty then [' '] else gap.furtherBreaks
  else gap.firstBreak ++ gap.furtherBreaks

/-- Reads white space.  After a line break a tab may not stand before the column `indent`. -/
def readGap? (indent : Nat) (gap : Gap) (c : Cursor) : Nat → Option (Gap × Cursor)
  | 0 => none
  | fuel + 1 =>
    match c.peek with
    | none => some (gap, c)
    | some x =>
      if isSpace x then
        if gap.broken then
          if c.column < indent && x = '\t' then none else readGap? indent gap (c.skip 1) fuel
        else readGap? indent { gap with spaces := gap.spaces ++ [x] } (c.skip 1) fuel
      else if isBreak x then
        let (text, c) := c.readBreak
        if gap.broken then
          readGap? indent { gap with furtherBreaks := gap.furtherBreaks ++ text } c fuel
        else readGap? indent { gap with broken := true, firstBreak := text } c fuel
      else some (gap, c)

/-- The characters up to white space or a character that ends a plain scalar.  In a flow collection a
colon right before another of its marks is refused. -/
def plainRun? (flow : Bool) : List Char → Option (List Char)
  | [] => some []
  | x :: rest =>
    if isSpace x || isBreak x then some []
    else if flow && x = ':' && rest.head?.any (",?[]\x7b\x7d".toList.contains ·) then none
    else if x = ':' && isGap rest.head? then some []
    else if flow && ",[]\x7b\x7d".toList.contains x then some []
    else (plainRun? flow rest).map (x :: ·)

/-- The rest of a plain scalar after its text so far and a gap: the text, whether it ended in a gap with a
line break, and the place after it. -/
def readPlainFrom? (flow : Bool) (indent : Nat) (text : List Char) (gap : Gap) (c : Cursor) :
    Nat → Option (List Char × Bool × Cursor)
  | 0 => none
  | fuel + 1 =>
    if c.isDocumentMarker || c.peek = some '#' then some (text, gap.broken, c)
    else
      match plainRun? flow c.rest with
      | none => none
      | some run =>
        let text := if run.isEmpty then text else text ++ gap.text ++ run
        let gap : Gap := if run.isEmpty then gap else {}
        let c := c.skip run.length
        if c.peek.all fun x => !(isSpace x || isBreak x) then some (text, gap.broken, c)
        else
          match readGap? indent gap c (c.rest.length + 1) with
          | none => none
          | some (gap, c) =>
            if !flow && c.column < indent then some (text, gap.broken, c)
            else readPlainFrom? flow indent text gap c fuel

/-- A plain scalar, with whether a line break followed it. -/
def readPlain? (flow : Bool) (indent : Nat) (c : Cursor) : Option (List Char × Bool × Cursor) :=
  readPlainFrom? flow indent [] {} c (c.rest.length + 1)

/-- The character of an escape and the number of characters after the backslash that spell it. -/
def escape? : List Char → Option (Char × Nat)
  | '0' :: _ => some ('\x00', 1)
  | 'a' :: _ => some ('\x07', 1)
  | 'b' :: _ => some ('\x08', 1)
  | 't' :: _ => some ('\t', 1)
  | '\t' :: _ => some ('\t', 1)
  | 'n' :: _ => some ('\n', 1)
  | 'v' :: _ => some ('\x0b', 1)
  | 'f' :: _ => some ('\x0c', 1)
  | 'r' :: _ => some ('\r', 1)
  | 'e' :: _ => some ('\x1b', 1)
  | ' ' :: _ => some (' ', 1)
  | '"' :: _ => some ('"', 1)
  | '/' :: _ => some ('/', 1)
  | '\\' :: _ => some ('\\', 1)
  | 'N' :: _ => some ('\u0085', 1)
  | '_' :: _ => some ('\u00a0', 1)
  | 'L' :: _ => some ('\u2028', 1)
  | 'P' :: _ => some ('\u2029', 1)
  | 'x' :: text => (escapedNumber? 2 text).map fun c => (c, 3)
  | 'u' :: text => (escapedNumber? 4 text).map fun c => (c, 5)
  | 'U' :: text => (escapedNumber? 8 text).map fun c => (c, 9)
  | _ => none

/-- The rest of a scalar between quotes after its text so far, last character first.  A backslash escapes in a double-quoted one, where it also joins
lines without a space; a single quote is doubled in a single-quoted one. -/
def readQuotedFrom? (single : Bool) (text : List Char) (c : Cursor) :
    Nat → Option (List Char × Cursor)
  | 0 => none
  | fuel + 1 =>
    match c.rest with
    | [] => none
    | x :: rest =>
      if c.isDocumentMarker then none
      else if isSpace x || isBreak x then
        match readGap? 0 {} c (c.rest.length + 1) with
        | none => none
        | some (gap, c) => readQuotedFrom? single (gap.text.reverse ++ text) c fuel
      else if single then
        if x = '\'' then
          if rest.head? = some '\'' then readQuotedFrom? single ('\'' :: text) (c.skip 2) fuel
          else some (text.reverse, c.skip 1)
        else readQuotedFrom? single (x :: text) (c.skip 1) fuel
      else if x = '"' then some (text.reverse, c.skip 1)
      else if x = '\\' then
        if rest.head?.any isBreak then
          let (_, after) := (c.skip 1).readBreak
          match readGap? 0 { broken := true } after (after.rest.length + 1) with
          | none => none
          | some (gap, c) => readQuotedFrom? single (gap.text.reverse ++ text) c fuel
        else
          match escape? rest with
          | none => none
          | some (e, taken) => readQuotedFrom? single (e :: text) (c.skip (taken + 1)) fuel
      else readQuotedFrom? single (x :: text) (c.skip 1) fuel

/-- A scalar between quotes, from its opening quote on. -/
def readQuoted? (single : Bool) (c : Cursor) : Option (List Char × Cursor) :=
  readQuotedFrom? single [] (c.skip 1) (c.rest.length + 1)

/-- Reads the indentation and the empty lines before a line of a block.  The indentation is known, or else
the widest column met is reported for it. -/
def readBlockBreaks? (indent : Option Nat) (widest : Nat) (breaks : List Char) (c : Cursor) :
    Nat → Option (List Char × Nat × Cursor)
  | 0 => none
  | fuel + 1 =>
    let room := match indent with
      | some indent => indent - c.column
      | none => c.rest.length
    let c := c.skip (min room (c.rest.takeWhile (· = ' ')).length)
    let widest := max widest c.column
    if indent.all (c.column < ·) && c.peek = some '\t' then none
    else if c.peek.any isBreak then
      let (text, c) := c.readBreak
      readBlockBreaks? indent widest (breaks ++ text) c fuel
    else some (breaks, widest, c)

/-- The lines of a block: its text, its last line break and the empty lines after that. -/
def readBlockLines? (literal : Bool) (indent : Nat) (text lastBreak breaks : List Char)
    (blankBefore : Bool) (c : Cursor) : Nat → Option (List Char × List Char × List Char × Cursor)
  | 0 => none
  | fuel + 1 =>
    if c.column ≠ indent || c.rest.isEmpty then some (text, lastBreak, breaks, c)
    else
      let blank := c.peek.any isSpace
      let joint :=
        if !literal && lastBreak = ['\n'] && !blankBefore && !blank then
          if breaks.isEmpty then [' '] else []
        else lastBreak
      let (line, c) := c.span fun x => !isBreak x
      let (lineBreak, c) := c.readBreak
      match readBlockBreaks? (some indent) 0 [] c (c.rest.length + 1) with
      | none => none
      | some (further, _, c) =>
        readBlockLines? literal indent (text ++ joint ++ breaks ++ line) lineBreak further blank c
          fuel

/-- How the line breaks at the end of a block count. -/
inductive Chomping where
  | strip
  | clip
  | keep
  deriving DecidableEq

/-- The mark of a chomping. -/
def Chomping.ofChar? : Option Char → Option Chomping
  | some '+' => some .keep
  | some '-' => some .strip
  | _ => none

/-- Chomping and indentation of a block's first line, in either order.  An indentation of zero is
refused. -/
def readBlockHead? (c : Cursor) : Option (Chomping × Option Nat × Cursor) :=
  let digit? (c : Cursor) : Option Nat :=
    match c.peek with
    | some d => if isDigit d then some (d.toNat - '0'.toNat) else none
    | none => none
  match Chomping.ofChar? c.peek with
  | some chomping =>
    let c := c.skip 1
    match digit? c with
    | none => some (chomping, none, c)
    | some 0 => none
    | some n => some (chomping, some n, c.skip 1)
  | none =>
    match digit? c with
    | none => some (.clip, none, c)
    | some 0 => none
    | some n =>
      let c := c.skip 1
      match Chomping.ofChar? c.peek with
      | some chomping => some (chomping, some n, c.skip 1)
      | none => some (.clip, some n, c)

/-- A block scalar, from its mark on, inside a collection with the indentation `parent`, which is -1
outside all collections. -/
def readBlock? (literal : Bool) (parent : Int) (c : Cursor) : Option (List Char × Cursor) := do
  let (chomping, increment, c) ← readBlockHead? (c.skip 1)
  let c := (c.span isSpace).2.skipComment
  if c.peek.any fun x => !isBreak x then none
  else
    let (_, c) := c.readBreak
    let known := increment.map fun n => (if parent ≥ 0 then parent.toNat + n else n)
    let (breaks, widest, c) ← readBlockBreaks? known 0 [] c (c.rest.length + 1)
    let indent := known.getD (max widest (max (parent + 1).toNat 1))
    let (text, lastBreak, breaks, c) ←
      readBlockLines? literal indent [] [] breaks false c (c.rest.length + 1)
    match chomping with
    | .strip => some (text, c)
    | .clip => some (text ++ lastBreak, c)
    | .keep => some (text ++ lastBreak ++ breaks, c)

end ReleasePress.Yaml
