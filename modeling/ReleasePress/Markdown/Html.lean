import ReleasePress.Markdown.Block.Reader

/-!
# HTML of Markdown

The HTML that a Markdown text is rendered to.  HTML inside the text and links to scripts are left out, so the result
holds no markup but that of this module.

## Main declarations

* `html`: the HTML of a text.
-/

namespace ReleasePress.Markdown

open ReleasePress.Text

/-- What stands in place of HTML in the text. -/
def omitted : List Char :=
  "<!-- raw HTML omitted -->".toList

/-- A character as text. -/
def escapeChar : Char → List Char
  | '&' => "&amp;".toList
  | '<' => "&lt;".toList
  | '>' => "&gt;".toList
  | '"' => "&quot;".toList
  | c => [c]

/-- A text with the marks of HTML escaped. -/
def escape (text : List Char) : List Char :=
  text.flatMap escapeChar

/-- A byte as a percent sign and two digits. -/
def percent (byte : UInt8) : List Char :=
  let digit (n : Nat) : Char := (Nat.digitChar n).toUpper
  ['%', digit (byte.toNat / 16), digit (byte.toNat % 16)]

/-- Characters of addresses that stand for themselves. -/
def isAddressPart (c : Char) : Bool :=
  c.isAlphanum || "-_.+!*(),%#@?=;:/$~".toList.contains c

/-- A character of an address. -/
def escapeAddressChar (c : Char) : List Char :=
  if isAddressPart c then [c]
  else if c = '&' then "&amp;".toList
  else if c = '\'' then "&#x27;".toList
  else (String.singleton c).toUTF8.toList.flatMap percent

/-- An address inside an attribute. -/
def escapeAddress (url : List Char) : List Char :=
  url.flatMap escapeAddressChar

/-- Whether an address runs something instead of leading somewhere.  Data is fine if it is an image. -/
def isDangerous (url : List Char) : Bool :=
  let startsWith (head : String) : Bool := (dropHead? head.toList (url.map Char.toLower)).isSome
  let isImage := ["png", "gif", "jpeg", "webp"].any fun kind => startsWith ("data:image/" ++ kind)
  !isImage && ["javascript:", "vbscript:", "file:", "data:"].any startsWith

/-- The address of a link or an image, which is empty if it is dangerous. -/
def address (target : Target) : List Char :=
  if isDangerous target.url then [] else escapeAddress target.url

/-- An attribute with a value that is escaped already, after a space. -/
def written (name : String) (value : List Char) : List Char :=
  ' ' :: name.toList ++ "=\"".toList ++ value ++ ['"']

/-- The attribute of a title, if there is one. -/
def titleAttribute (target : Target) : List Char :=
  if target.title.isEmpty then [] else written "title" (escape target.title)

/-- Something between the tags of an element. -/
def element (name : String) (inside : List Char) : List Char :=
  '<' :: name.toList ++ '>' :: inside ++ "</".toList ++ name.toList ++ ['>']

/-- The element of a kind of stress. -/
def Stress.element : Stress → String
  | .emphasis => "em"
  | .strong => "strong"
  | .strikethrough => "del"

mutual

/-- The text of a piece of inline content without its markup, escaped. -/
def plain : Inline → List Char
  | .text content | .code content | .markup content => escape content
  | .softBreak | .hardBreak => [' ']
  | .stressed _ inside | .link _ inside | .image _ inside => plainAll inside

/-- The text of inline content without its markup, escaped. -/
def plainAll : List Inline → List Char
  | [] => []
  | inline :: rest => plain inline ++ plainAll rest

end

mutual

/-- The HTML of a piece of inline content. -/
def inlineHtml : Inline → List Char
  | .text content => escape content
  | .code content => element "code" (escape content)
  | .markup _ => omitted
  | .softBreak => ['\n']
  | .hardBreak => "<br />\n".toList
  | .stressed stress inside => element stress.element (inlinesHtml inside)
  | .link target inside =>
    "<a".toList ++ written "href" (address target) ++ titleAttribute target ++ ['>'] ++
      inlinesHtml inside ++ "</a>".toList
  | .image target inside =>
    "<img".toList ++ written "src" (address target) ++ written "alt" (plainAll inside) ++
      titleAttribute target ++ " />".toList

/-- The HTML of inline content. -/
def inlinesHtml : List Inline → List Char
  | [] => []
  | inline :: rest => inlineHtml inline ++ inlinesHtml rest

end

/-- The HTML of a block of code.  The first word of what is said about it is its language. -/
def codeHtml (info text : List Char) : List Char :=
  let language := info.takeWhile (!isSpace ·)
  let attributes := if info.isEmpty then []
    else written "class" (escape ("language-".toList ++ language))
  "<pre><code".toList ++ attributes ++ '>' :: escape text ++ "</code></pre>\n".toList

/-- The attribute of an alignment. -/
def Alignment.field : Alignment → List Char
  | .unset => []
  | .left => written "align" "left".toList
  | .center => written "align" "center".toList
  | .right => written "align" "right".toList

/-- The HTML of the cells of a row. -/
def cellsHtml (name : String) : List Alignment → List (List Inline) → List Char
  | alignment :: alignments, cell :: cells =>
    '<' :: name.toList ++ alignment.field ++ '>' :: inlinesHtml cell ++
      "</".toList ++ name.toList ++ ">\n".toList ++ cellsHtml name alignments cells
  | _, _ => []

/-- The HTML of a row. -/
def rowHtml (name : String) (alignments : List Alignment) (cells : List (List Inline)) : List Char :=
  "<tr>\n".toList ++ cellsHtml name alignments cells ++ "</tr>\n".toList

/-- The HTML of a table.  A table without rows has no body. -/
def tableHtml (alignments : List Alignment) (header : List (List Inline))
    (rows : List (List (List Inline))) : List Char :=
  let body := if rows.isEmpty then []
    else "<tbody>\n".toList ++ rows.flatMap (rowHtml "td" alignments) ++ "</tbody>\n".toList
  "<table>\n<thead>\n".toList ++ rowHtml "th" alignments header ++ "</thead>\n".toList ++ body ++
    "</table>\n".toList

/-- The opening and the closing tag of a list. -/
def Numbering.tags : Numbering → List Char × List Char
  | .bullet _ => ("<ul>\n".toList, "</ul>\n".toList)
  | .ordered start _ =>
    let attributes := if start = 1 then [] else written "start" (toString start).toList
    ("<ol".toList ++ attributes ++ ">\n".toList, "</ol>\n".toList)

/-- Whether a new line starts after a text that follows one after which it does if `atStart`. -/
def endsLine (atStart : Bool) (text : List Char) : Bool :=
  match text.getLast? with
  | some c => c = '\n'
  | none => atStart

/-- A line break unless a new line starts anyway. -/
def freshLine (atStart : Bool) : List Char :=
  if atStart then [] else ['\n']

mutual

/-- The HTML of a block; `tight` tells that its paragraphs are not set off, and `atStart` that it starts on
a new line. -/
def blockHtml (tight atStart : Bool) : Block (List Inline) → List Char
  | .paragraph content =>
    if tight then inlinesHtml content
    else freshLine atStart ++ element "p" (inlinesHtml content) ++ ['\n']
  | .heading level content =>
    freshLine atStart ++ element ("h" ++ toString level) (inlinesHtml content) ++ ['\n']
  | .code info text => freshLine atStart ++ codeHtml info text
  | .rule => freshLine atStart ++ "<hr />\n".toList
  | .markup => freshLine atStart ++ omitted ++ ['\n']
  | .quote blocks =>
    let inside := blocksHtml false true blocks
    freshLine atStart ++ "<blockquote>\n".toList ++ inside ++ freshLine (endsLine true inside) ++
      "</blockquote>\n".toList
  | .list numbering tight items =>
    let (opening, closing) := numbering.tags
    freshLine atStart ++ opening ++ itemsHtml tight items ++ closing
  | .table alignments header rows => freshLine atStart ++ tableHtml alignments header rows

/-- The HTML of blocks. -/
def blocksHtml (tight atStart : Bool) : List (Block (List Inline)) → List Char
  | [] => []
  | block :: blocks =>
    let text := blockHtml tight atStart block
    text ++ blocksHtml tight (endsLine atStart text) blocks

/-- The HTML of the items of a list. -/
def itemsHtml (tight : Bool) : List (List (Block (List Inline))) → List Char
  | [] => []
  | item :: items =>
    "<li>".toList ++ blocksHtml tight false item ++ "</li>\n".toList ++ itemsHtml tight items

end

/-- The HTML of a Markdown text. -/
def html (text : String) : String :=
  String.ofList (blocksHtml false true (read text.toList))

end ReleasePress.Markdown
