import ReleasePress.Markdown.Entity
import ReleasePress.Text.Punctuation

/-!
# Inline content

What stands inside a paragraph, a heading or a table cell: text, breaks, code, emphasis, links and images.

## Main declarations

* `Inline`: a piece of inline content.
* `Target`: where a link or an image leads, with its title.
-/

namespace ReleasePress.Markdown

open ReleasePress.Text

/-- Where a link or an image leads. -/
structure Target where
  url : List Char
  /-- The title; most have none. -/
  title : List Char
  deriving DecidableEq, Repr

/-- The kinds of stress. -/
inductive Stress where
  | emphasis
  | strong
  | strikethrough
  deriving DecidableEq, Repr

/-- A piece of inline content. -/
inductive Inline where
  | text (content : List Char)
  | code (content : List Char)
  /-- An HTML tag, comment or instruction. -/
  | markup (content : List Char)
  | softBreak
  | hardBreak
  | stressed (stress : Stress) (inside : List Inline)
  | link (target : Target) (inside : List Inline)
  | image (target : Target) (inside : List Inline)
  deriving Repr

/-- A text without the backslashes that escape punctuation. -/
def unescaped : List Char → List Char
  | '\\' :: c :: text =>
    if isAsciiPunctuation c then c :: unescaped text else '\\' :: unescaped (c :: text)
  | c :: text => c :: unescaped text
  | [] => []

/-- White space of ASCII. -/
def isSpace (c : Char) : Bool :=
  c = ' ' || ('\t' ≤ c && c ≤ '\r')

/-- A text without white space of ASCII at its start. -/
def trimmedStart (text : List Char) : List Char :=
  text.dropWhile isSpace

/-- A text without white space of ASCII at its end. -/
def trimmedEnd (text : List Char) : List Char :=
  (text.reverse.dropWhile isSpace).reverse

/-- A text without white space of ASCII around it. -/
def trimmed (text : List Char) : List Char :=
  trimmedEnd (trimmedStart text)

/-- A text with its character references and its escapes resolved. -/
def resolved (text : List Char) : List Char :=
  unescaped (Entity.decode text)

end ReleasePress.Markdown
