import ReleasePress.Yaml.Scalar

/-!
# The tokens of a YAML text

A text is cut into tokens from its start to its end.  What starts a key is only known at the colon after
it, so the place of a possible key is remembered and its tokens are put in front of it later.

## Main declarations

* `Yaml.Scanner`: the place reached, the tokens so far, the open collections and the possible keys.
* `Yaml.tokens?`: the tokens of a text, or `none` for a text that cannot be cut into tokens.
-/

namespace ReleasePress.Yaml

open ReleasePress.Text

/-- A place at which a key may have started. -/
structure PossibleKey where
  /-- The number of tokens before it. -/
  tokensBefore : Nat
  index : Nat
  line : Nat
  column : Nat
  /-- Whether nothing but a key may stand there. -/
  required : Bool

/-- The state of cutting a text into tokens. -/
structure Scanner where
  cursor : Cursor
  /-- The tokens so far, last one first. -/
  tokens : List Token := []
  count : Nat := 0
  /-- The indentation of the innermost collection, or -1. -/
  indent : Int := -1
  /-- The indentations of the collections around it. -/
  outer : List Int := []
  keyAllowed : Bool := true
  /-- The possible key of the text outside flow collections, or of the innermost one. -/
  possible : Option PossibleKey := none
  /-- The possible keys around the innermost flow collection. -/
  around : List (Option PossibleKey) := []

namespace Scanner

/-- Whether the place is inside a flow collection. -/
def inFlow (s : Scanner) : Bool :=
  !s.around.isEmpty

/-- Adds a token. -/
def emit (token : Token) (s : Scanner) : Scanner :=
  { s with tokens := token :: s.tokens, count := s.count + 1 }

/-- Adds a token after the first `n` tokens. -/
def emitAfter (n : Nat) (token : Token) (s : Scanner) : Scanner :=
  let later := s.tokens.take (s.count - n)
  let earlier := s.tokens.drop (s.count - n)
  { s with tokens := later ++ token :: earlier, count := s.count + 1 }

/-- Moves on. -/
def skip (n : Nat) (s : Scanner) : Scanner :=
  { s with cursor := s.cursor.skip n }

/-- Gives up a possible key, which must not have been required. -/
def forgetKey? (s : Scanner) : Option Scanner :=
  if s.possible.any (·.required) then none else some { s with possible := none }

/-- Remembers the place as a possible key if one is allowed here. -/
def rememberKey? (s : Scanner) : Option Scanner :=
  if s.keyAllowed then
    (forgetKey? s).map fun s =>
      let key : PossibleKey :=
        { tokensBefore := s.count, index := s.cursor.index, line := s.cursor.line,
          column := s.cursor.column,
          required := !s.inFlow && s.indent == (s.cursor.column : Int) }
      { s with possible := some key }
  else some s

/-- Whether a possible key is too far back: on another line, or more than 1024 characters. -/
def isStale (cursor : Cursor) (key : PossibleKey) : Bool :=
  key.line < cursor.line || key.index + 1024 < cursor.index

/-- A possible key that is not too far back; a required one must not be. -/
def freshKey? (cursor : Cursor) : Option PossibleKey → Option (Option PossibleKey)
  | none => some none
  | some key =>
    if isStale cursor key then if key.required then none else some none else some (some key)

/-- Gives up the possible keys that are too far back. -/
def dropStaleKeys? (s : Scanner) : Option Scanner := do
  let possible ← freshKey? s.cursor s.possible
  let around ← s.around.mapM (freshKey? s.cursor)
  some { s with possible, around }

/-- Opens a collection at a column if it is further in, in front of the tokens after the first `n`. -/
def openBlock (column : Nat) (n : Nat) (token : Token) (s : Scanner) : Scanner :=
  if !s.inFlow && s.indent < column then
    { s.emitAfter n token with indent := column, outer := s.indent :: s.outer }
  else s

/-- Closes the collections, at most `outer.length + 1` of them, that are further in than a column. -/
def closeBlocks (column : Int) (s : Scanner) : Scanner :=
  if s.inFlow then s else close s.outer s
where
  close : List Int → Scanner → Scanner
    | [], s => s
    | enclosing :: outer, s =>
      if s.indent > column then
        close outer { s.emit .blockEnd with indent := enclosing, outer }
      else s

/-- Skips white space, comments and line breaks.  A tab may not stand where a key may start. -/
def skipToToken (s : Scanner) : Nat → Scanner
  | 0 => s
  | fuel + 1 =>
    let c := s.cursor
    let c := if c.index = 0 && c.peek = some '\uFEFF' then c.skip 1 else c
    let tabs := s.inFlow || !s.keyAllowed
    let c := (c.span fun x => x = ' ' || (tabs && x = '\t')).2.skipComment
    if c.peek.any isBreak then
      let (_, c) := c.readBreak
      skipToToken { s with cursor := c, keyAllowed := s.keyAllowed || !s.inFlow } fuel
    else { s with cursor := c }

/-- What ends an anchor or an alias. -/
def endsAnchor (c : Option Char) : Bool :=
  isGap c || c.any ("?:,]\x7d%@\x60".toList.contains ·)

/-- The character of an escape sequence of octets in a tag, and how many octets it has. -/
def tagEscape? (text : List Char) : Option (Char × Nat) := do
  let octet (text : List Char) : Option Nat :=
    match text with
    | '%' :: a :: b :: _ => hexNumber? [a, b]
    | _ => none
  let first ← octet text
  let width := if first < 0x80 then 1 else if first / 32 = 6 then 2 else if first / 16 = 14 then 3
    else if first / 8 = 30 then 4 else 0
  if width = 0 then none
  else
    let octets ← (List.range width).mapM fun i => octet (text.drop (3 * i))
    let bytes := ByteArray.mk (octets.map UInt8.ofNat).toArray
    let decoded ← String.fromUTF8? bytes
    match decoded.toList with
    | [c] => some (c, width)
    | _ => none

/-- The part of a tag that may hold any character of an address, and the rest of the text. -/
def readAddress? (verbatim : Bool) (found : List Char) (text : List Char) :
    Nat → Option (List Char × List Char)
  | 0 => none
  | fuel + 1 =>
    match text with
    | '%' :: _ =>
      match tagEscape? text with
      | none => none
      | some (c, width) => readAddress? verbatim (c :: found) (text.drop (3 * width)) fuel
    | c :: rest =>
      if isWord c || ";/?:@&=+$.!~*'()".toList.contains c || (verbatim && ",[]".toList.contains c)
      then readAddress? verbatim (c :: found) rest fuel
      else some (found.reverse, text)
    | [] => some (found.reverse, [])

/-- A tag, from its `!` on: its handle, the rest of it, and the text after it. -/
def readTag? (text : List Char) : Option (List Char × List Char × List Char) :=
  match text with
  | '!' :: '<' :: text =>
    match readAddress? true [] text (text.length + 1) with
    | some (suffix, '>' :: rest) => if suffix.isEmpty then none else some ([], suffix, rest)
    | _ => none
  | '!' :: text =>
    let word := text.takeWhile isWord
    match text.dropWhile isWord with
    | '!' :: rest =>
      match readAddress? false [] rest (rest.length + 1) with
      | some (suffix, rest) =>
        if suffix.isEmpty then none else some ('!' :: word ++ ['!'], suffix, rest)
      | none => none
    | rest =>
      match readAddress? false word.reverse rest (rest.length + 1) with
      | some (suffix, rest) => if suffix.isEmpty then some ([], ['!'], rest) else some (['!'], suffix, rest)
      | none => none
  | _ => none

/-- The tag at the place, which a gap must follow, or a comma in a flow collection. -/
def scanTag? (s : Scanner) : Option Scanner := do
  let (handle, suffix, rest) ← readTag? s.cursor.rest
  if isGap rest.head? || (s.inFlow && rest.head? = some ',') then
    some ((s.skip (s.cursor.rest.length - rest.length)).emit (.tag handle suffix))
  else none

/-- The anchor or alias at the place. -/
def scanAnchor? (make : List Char → Token) (s : Scanner) : Option Scanner :=
  let (name, c) := (s.cursor.skip 1).span isWord
  if name.isEmpty || !endsAnchor c.peek then none
  else some ({ s with cursor := c }.emit (make name))

/-- A number of a version, of at most nine digits. -/
def readVersionPart? (c : Cursor) : Option (Nat × Cursor) :=
  let (digits, c) := c.span isDigit
  if digits.isEmpty || digits.length > 9 then none else some (digitsValue digits, c)

/-- A directive: a version or the meaning of a tag handle, and nothing after it but a comment. -/
def scanDirective? (s : Scanner) : Option Scanner := do
  let (name, c) := (s.cursor.skip 1).span isWord
  let _ ← if isGap c.peek then some () else none
  let c := (c.span isSpace).2
  let (token, c) ←
    if name = "YAML".toList then do
      let (major, c) ← readVersionPart? c
      if c.peek ≠ some '.' then none
      else
        let (minor, c) ← readVersionPart? (c.skip 1)
        some (Token.version major minor, c)
    else if name = "TAG".toList then
      match c.rest with
      | '!' :: text => do
        let word := text.takeWhile isWord
        let rest := text.dropWhile isWord
        let (handle, rest) ← match word, rest with
          | word, '!' :: rest => some ('!' :: word ++ ['!'], rest)
          | [], rest => some (['!'], rest)
          | _, _ => none
        if !rest.head?.any isSpace then none
        else
          let c := ((c.skip (c.rest.length - rest.length)).span isSpace).2
          let (address, after) ← readAddress? true [] c.rest (c.rest.length + 1)
          if address.isEmpty || !isGap after.head? then none
          else some (Token.tagHandle handle address, c.skip (c.rest.length - after.length))
      | _ => none
    else none
  let c := (c.span isSpace).2.skipComment
  if c.peek.all isBreak then
    some ({ s with cursor := (c.readBreak).2 }.emit token)
  else none

/-- An indicator of one character that is a token of its own. -/
def mark (token : Token) (s : Scanner) : Scanner :=
  (s.skip 1).emit token

/-- The start of a flow collection. -/
def openFlow? (token : Token) (s : Scanner) : Option Scanner :=
  (s.rememberKey?).map fun s =>
    mark token { s with around := s.possible :: s.around, possible := none, keyAllowed := true }

/-- The end of a flow collection. -/
def closeFlow? (token : Token) (s : Scanner) : Option Scanner :=
  (s.forgetKey?).map fun s =>
    let s := match s.around with
      | outer :: around => { s with possible := outer, around }
      | [] => s
    mark token { s with keyAllowed := false }

/-- The dash of an item. -/
def blockEntry? (s : Scanner) : Option Scanner :=
  if !s.inFlow && !s.keyAllowed then none
  else
    ((s.openBlock s.cursor.column s.count .blockSequenceStart).forgetKey?).map fun s =>
      mark .blockEntry { s with keyAllowed := true }

/-- The question mark of a key. -/
def explicitKey? (s : Scanner) : Option Scanner :=
  if !s.inFlow && !s.keyAllowed then none
  else
    ((s.openBlock s.cursor.column s.count .blockMappingStart).forgetKey?).map fun s =>
      mark .key { s with keyAllowed := !s.inFlow }

/-- The colon of a value.  If the place before it was remembered, the key there becomes one. -/
def value? (s : Scanner) : Option Scanner :=
  match s.possible with
  | some key =>
    let s := (s.emitAfter key.tokensBefore .key).openBlock key.column key.tokensBefore
      .blockMappingStart
    some (mark .value { s with possible := none, keyAllowed := false })
  | none =>
    if !s.inFlow && !s.keyAllowed then none
    else
      let s := s.openBlock s.cursor.column s.count .blockMappingStart
      some (mark .value { s with keyAllowed := !s.inFlow })

/-- A scalar between quotes. -/
def quoted? (single : Bool) (s : Scanner) : Option Scanner := do
  let s ← s.rememberKey?
  let (text, cursor) ← readQuoted? single s.cursor
  some ({ s with cursor, keyAllowed := false }.emit (.scalar text false))

/-- A block scalar. -/
def block? (literal : Bool) (s : Scanner) : Option Scanner := do
  let s ← s.forgetKey?
  let (text, cursor) ← readBlock? literal s.indent s.cursor
  some ({ s with cursor, keyAllowed := true }.emit (.scalar text false))

/-- A plain scalar. -/
def plain? (s : Scanner) : Option Scanner := do
  let s ← s.rememberKey?
  let (text, broken, cursor) ← readPlain? s.inFlow (s.indent + 1).toNat s.cursor
  some ({ s with cursor, keyAllowed := broken }.emit (.scalar text true))

/-- Whether a plain scalar may start with `c` before `next`. -/
def startsPlain (inFlow : Bool) (c : Char) (next : Option Char) : Bool :=
  !(isSpace c || isBreak c || "-?:,[]\x7b\x7d#&*!|>'\"%@\x60".toList.contains c) ||
    (c = '-' && !next.any isSpace) || (!inFlow && (c = '?' || c = ':') && !isGap next)

/-- Reads the token that starts with `c` before `next`. -/
def token? (c : Char) (next : Option Char) (s : Scanner) : Option Scanner :=
  let single := isGap next
  if s.cursor.column = 0 && c = '%' then
    ((s.closeBlocks (-1)).forgetKey?).bind fun s => scanDirective? { s with keyAllowed := false }
  else if s.cursor.isDocumentMarker then
    ((s.closeBlocks (-1)).forgetKey?).map fun s =>
      ({ s with keyAllowed := false }.skip 3).emit
        (if c = '-' then .documentStart else .documentEnd)
  else if c = '[' then s.openFlow? .flowSequenceStart
  else if c = '\x7b' then s.openFlow? .flowMappingStart
  else if c = ']' then s.closeFlow? .flowSequenceEnd
  else if c = '\x7d' then s.closeFlow? .flowMappingEnd
  else if c = ',' then
    (s.forgetKey?).map fun s => mark .flowEntry { s with keyAllowed := true }
  else if c = '-' && single then s.blockEntry?
  else if c = '?' && (s.inFlow || single) then s.explicitKey?
  else if c = ':' && (s.inFlow || single) then s.value?
  else if c = '*' then
    (s.rememberKey?).bind fun s => scanAnchor? .reference { s with keyAllowed := false }
  else if c = '&' then
    (s.rememberKey?).bind fun s => scanAnchor? .anchor { s with keyAllowed := false }
  else if c = '!' then
    (s.rememberKey?).bind fun s => scanTag? { s with keyAllowed := false }
  else if c = '|' && !s.inFlow then s.block? true
  else if c = '>' && !s.inFlow then s.block? false
  else if c = '\'' then s.quoted? true
  else if c = '"' then s.quoted? false
  else if startsPlain s.inFlow c next then s.plain?
  else none

/-- The tokens from the state on, to the end of the text. -/
def run? (s : Scanner) : Nat → Option (List Token)
  | 0 => none
  | fuel + 1 => do
    let s ← (s.skipToToken (s.cursor.rest.length + 1)).dropStaleKeys?
    let s := s.closeBlocks s.cursor.column
    match s.cursor.rest with
    | [] => ((s.closeBlocks (-1)).forgetKey?).map fun s => s.tokens.reverse
    | c :: rest =>
      let s ← s.token? c rest.head?
      run? s fuel

end Scanner

/-- A character that may occur in a YAML text. -/
def isPrintable (c : Char) : Bool :=
  c = '\t' || c = '\n' || c = '\r' || (' ' ≤ c && c ≤ '~') || c = '\u0085' ||
    (0xA0 ≤ c.toNat && c.toNat ≤ 0xFFFD) || 0x10000 ≤ c.toNat

/-- The tokens of a text. -/
def tokens? (text : List Char) : Option (List Token) :=
  if text.all isPrintable then Scanner.run? { cursor := { rest := text } } (text.length + 1)
  else none

end ReleasePress.Yaml
