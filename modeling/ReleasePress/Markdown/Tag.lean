import ReleasePress.Markdown.Inline

/-!
# HTML inside Markdown

HTML is recognised by its form: tags with their attributes, comments, instructions, declarations and CDATA
sections.  Links between angle brackets are recognised here too.

## Main declarations

* `Tag.tag?`: a tag after its `<`.
* `Tag.markup?`: any piece of HTML inside a line.
* `Tag.autolink?`: an address between angle brackets.
* `Tag.Section`, `Tag.section?`: HTML that starts a block, and where such a block ends.
-/

namespace ReleasePress.Markdown.Tag

open ReleasePress.Text

/-- The text after a tag's name. -/
def name? : List Char → Option (List Char)
  | c :: text => if c.isAlpha then some (text.dropWhile fun c => c.isAlphanum || c = '-') else none
  | [] => none

/-- Characters of values that stand without quotes. -/
def isBare (c : Char) : Bool :=
  !isSpace c && !(['"', '\'', '=', '<', '>', '\x60'].contains c)

/-- The text after the value of an attribute. -/
def value? : List Char → Option (List Char)
  | '\'' :: text => (cutAt? ['\''] text).map (·.2)
  | '"' :: text => (cutAt? ['"'] text).map (·.2)
  | c :: text => if isBare c then some (text.dropWhile isBare) else none
  | [] => none

/-- The text after an attribute's equals sign and value. -/
def assignment? (text : List Char) : Option (List Char) :=
  match text.dropWhile isSpace with
  | '=' :: rest => value? (rest.dropWhile isSpace)
  | _ => none

/-- The text after an attribute and the white space before it. -/
def attribute? : List Char → Option (List Char)
  | [] => none
  | gap :: text =>
    if !isSpace gap then none
    else
      match text.dropWhile isSpace with
      | c :: rest =>
        if c.isAlpha || c = '_' || c = ':' then
          let rest := rest.dropWhile fun c => c.isAlphanum || [':', '.', '_', '-'].contains c
          some ((assignment? rest).getD rest)
        else none
      | [] => none

/-- The text after at most `n` attributes. -/
def attributes : Nat → List Char → List Char
  | 0, text => text
  | n + 1, text =>
    match attribute? text with
    | some rest => attributes n rest
    | none => text

/-- The text after a closing angle bracket. -/
def closed? : List Char → Option (List Char)
  | '>' :: rest => some rest
  | _ => none

/-- The text after an opening or a closing tag, given the text after its `<`. -/
def tag? : List Char → Option (List Char)
  | '/' :: text => (name? text).bind fun rest => closed? (rest.dropWhile isSpace)
  | text =>
    (name? text).bind fun rest =>
      match (attributes rest.length rest).dropWhile isSpace with
      | '/' :: rest => closed? rest
      | rest => closed? rest

/-- The text after the first occurrence of `mark`. -/
def after? (mark : String) (text : List Char) : Option (List Char) :=
  (cutAt? mark.toList text).map (·.2)

/-- The text after a piece of HTML, given the text after its `<`. -/
def markup? : List Char → Option (List Char)
  | '!' :: '-' :: '-' :: text =>
    match text with
    | '>' :: rest => some rest
    | '-' :: '>' :: rest => some rest
    | text => after? "-->" text
  | '!' :: '[' :: text => (dropHead? "CDATA[".toList text).bind (after? "]]>")
  | '!' :: c :: text => if c.isAlpha then after? ">" text else none
  | '?' :: text => after? "?>" text
  | text => tag? text

/-- Characters of schemes. -/
def isSchemePart (c : Char) : Bool :=
  c.isAlphanum || ['.', '+', '-'].contains c

/-- The address of a scheme between angle brackets and the text after it. -/
def uri? (text : List Char) : Option (List Char × List Char) :=
  let scheme := text.takeWhile isSchemePart
  if !(text.head?.any Char.isAlpha) || scheme.length < 2 || scheme.length > 32 then none
  else
    match text.drop scheme.length with
    | ':' :: rest =>
      let isPart (c : Char) : Bool := c.toNat > 0x20 && c ≠ '<' && c ≠ '>'
      (closed? (rest.dropWhile isPart)).map fun after => (scheme ++ ':' :: rest.takeWhile isPart, after)
    | _ => none

/-- Whether a label of a domain name is well formed. -/
def isDomainLabel (label : List Char) : Bool :=
  label.head?.any Char.isAlphanum && label.getLast?.any Char.isAlphanum && label.length ≤ 63

/-- Characters of mail addresses before the `@`. -/
def isMailboxPart (c : Char) : Bool :=
  c.isAlphanum || ".!#$%&'*+/=?^_\x60\x7b|\x7d~-".toList.contains c

/-- A mail address between angle brackets and the text after it. -/
def mail? (text : List Char) : Option (List Char × List Char) :=
  let mailbox := text.takeWhile isMailboxPart
  match mailbox, text.dropWhile isMailboxPart with
  | _ :: _, '@' :: rest =>
    let isPart (c : Char) : Bool := c.isAlphanum || c = '-' || c = '.'
    let domain := rest.takeWhile isPart
    if (domain.splitOn '.').all isDomainLabel then
      (closed? (rest.dropWhile isPart)).map fun after => (mailbox ++ '@' :: domain, after)
    else none
  | _, _ => none

/-- The link of an address between angle brackets and the text after it, given the text after its `<`. -/
def autolink? (text : List Char) : Option (Inline × List Char) :=
  match uri? text with
  | some (address, rest) =>
    let address := Entity.decode address
    some (.link ⟨address, []⟩ [.text address], rest)
  | none =>
    (mail? text).map fun (address, rest) =>
      let address := Entity.decode address
      (.link ⟨"mailto:".toList ++ address, []⟩ [.text address], rest)

/-- The kinds of HTML that make a block. -/
inductive Section where
  /-- An element whose content is kept as it is, such as a script. -/
  | verbatim
  | comment
  | instruction
  | declaration
  | data
  /-- An element that makes a block by its name. -/
  | element
  /-- Any tag that is alone on its line. -/
  | lone
  deriving DecidableEq, Repr

/-- Elements whose content is kept as it is. -/
def verbatimNames : List String :=
  ["script", "pre", "textarea", "style"]

/-- Elements that make blocks. -/
def elementNames : List String :=
  ["address", "article", "aside", "base", "basefont", "blockquote", "body", "caption", "center",
    "col", "colgroup", "dd", "details", "dialog", "dir", "div", "dl", "dt", "fieldset", "figcaption",
    "figure", "footer", "form", "frame", "frameset", "h1", "h2", "h3", "h4", "h5", "h6", "head",
    "header", "hr", "html", "iframe", "legend", "li", "link", "main", "menu", "menuitem", "nav",
    "noframes", "ol", "optgroup", "option", "p", "param", "search", "section", "summary", "table",
    "tbody", "td", "tfoot", "th", "thead", "title", "tr", "track", "ul"]

/-- A name in small letters at the start of a text, and the text after it. -/
def nameAt (text : List Char) : String × List Char :=
  (String.ofList ((text.takeWhile Char.isAlphanum).map Char.toLower), text.dropWhile Char.isAlphanum)

/-- Whether a name ends here: at white space, at the end of the line or at the end of the tag. -/
def endsName (mayBeEmpty : Bool) : List Char → Bool
  | [] => true
  | '/' :: '>' :: _ => mayBeEmpty
  | c :: _ => isSpace c || c = '>'

/-- Whether a text after `<` starts an element that makes a block. -/
def startsElement (text : List Char) : Bool :=
  let (name, rest) := nameAt ((dropHead? ['/'] text).getD text)
  elementNames.contains name && endsName true rest

/-- Whether a text after `<` starts an element whose content is kept as it is. -/
def startsVerbatim (text : List Char) : Bool :=
  let (name, rest) := nameAt text
  verbatimNames.contains name && endsName false rest

/-- Whether a text after `<` is a tag that is alone. -/
def isLone (text : List Char) : Bool :=
  (tag? text).any fun rest => rest.all isSpace

/-- The kind of block that a line starts, after the white space at its start. -/
def section? : List Char → Option Section
  | '<' :: text =>
    if startsVerbatim text then some .verbatim
    else
      match text with
      | '!' :: '-' :: '-' :: _ => some .comment
      | '?' :: _ => some .instruction
      | '!' :: c :: rest =>
        if c.isAlpha then some .declaration
        else if c = '[' && (nameAt rest).1 = "cdata" && ((nameAt rest).2.head? = some '[') then
          some .data
        else none
      | text =>
        if startsElement text then some .element else if isLone text then some .lone else none
  | _ => none

/-- Whether a block of HTML ends with a line that holds the text. -/
def Section.endsWith (kind : Section) (line : List Char) : Bool :=
  let holds (mark : String) : Bool := contains mark.toList (line.map Char.toLower)
  match kind with
  | .verbatim => verbatimNames.any fun name => holds ("</" ++ name ++ ">")
  | .comment => holds "-->"
  | .instruction => holds "?>"
  | .declaration => holds ">"
  | .data => holds "]]>"
  | .element | .lone => false

/-- Whether a block of HTML goes on over blank lines. -/
def Section.spansBlanks : Section → Bool
  | .element | .lone => false
  | _ => true

end ReleasePress.Markdown.Tag
