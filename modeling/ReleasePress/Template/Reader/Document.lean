import ReleasePress.Template.Document
import ReleasePress.Template.Reader.Expression

/-!
# Reading documents

The grammar of text and tags.  Where a tag may stand depends on the tag around it: loops are left only
inside loops, and macros are defined only outside the other tags.  A document stands alone: one that extends
another document or imports the macros of one is refused.

## Main declarations

* `Document.read?`: the document of a text.
-/

namespace ReleasePress.Template

open ReleasePress.Text

namespace Reader

/-- What nodes stand in, which decides what nodes they can be. -/
inductive Setting where
  | top
  | loop
  | macroBody
  | block
  | filtered
  deriving DecidableEq, Repr

/-- The start of a tag, and whether it takes away white space before it. -/
def opening (mark : String) : Reader Bool := do
  word mark
  given (word "-")

/-- The end of a tag, and whether it takes away white space after it. -/
def closing (mark : String) : Reader Bool :=
  (do word ("-" ++ mark); return true) <|> (do word mark; return false)

/-- A tag with something between its marks. -/
def tag {α : Type} (inside : Reader α) : Reader (Margin × α) := do
  let before ← opening "\x7b%"
  let a ← spaced inside
  let after ← spaced (closing "%\x7d")
  return (⟨before, after⟩, a)

/-- A tag that is only a word. -/
def wordTag (w : String) : Reader Margin :=
  (·.1) <$> tag (word w)

/-- A tag that is a word, perhaps with a name. -/
def namedTag (w : String) : Reader Margin :=
  (·.1) <$> tag (do word w; optional (spaced name))

/-- A value between marks. -/
def outputTag (fuel : Nat) : Reader Node := do
  let before ← opening "\x7b\x7b"
  let value ← spaced (value fuel)
  let after ← spaced (closing "\x7d\x7d")
  return .output ⟨before, after⟩ value

/-- A comment up to its closing mark. -/
def commentTag : Reader Node := do
  let before ← opening "\x7b#"
  fun text =>
    match cutAt? ['#', '\x7d'] text with
    | some (inside, rest) => some (.comment ⟨before, inside.getLast? = some '-'⟩, rest)
    | none => none

/-- The block around, as the block it replaces has it. -/
def parentBlockTag : Reader Node := do
  let _ ← opening "\x7b\x7b"
  symbol "super()"
  let _ ← spaced (closing "\x7d\x7d")
  return .parentBlock

/-- Whether a tag starts here. -/
def startsTag : List Char → Bool
  | '\x7b' :: c :: _ => c = '\x7b' || c = '%' || c = '#'
  | _ => false

/-- The characters before the next tag. -/
def plainText : List Char → List Char × List Char
  | [] => ([], [])
  | c :: text =>
    if startsTag (c :: text) then ([], c :: text)
    else
      let (inside, rest) := plainText text
      (c :: inside, rest)

/-- Text before the next tag. -/
def textNode : Reader Node := fun text =>
  match plainText text with
  | ([], _) => none
  | (inside, rest) => some (.text (String.ofList inside), rest)

/-- The text up to a closing tag, which is taken off as well. -/
def verbatimFrom : List Char → List Char → Option ((String × Margin) × List Char)
  | inside, text =>
    match wordTag "endraw" text with
    | some (margin, rest) => some ((String.ofList inside.reverse, margin), rest)
    | none =>
      match text with
      | c :: text => verbatimFrom (c :: inside) text
      | [] => none

/-- Text in which tags are not read. -/
def verbatimTag : Reader Node := do
  let start ← wordTag "raw"
  let (text, stop) ← (verbatimFrom [] : Reader (String × Margin))
  return .verbatim start text stop

/-- A text in quotes or a list of such texts. -/
def names : Reader (List String) :=
  (do return [← quoted]) <|> (do
    word "["
    let names ← optional (spaced (separated quoted))
    let _ ← given (symbol ",")
    symbol "]"
    return names.getD [])

/-- The first of some templates that is known. -/
def insertionTag : Reader Node := do
  let (margin, names, optional) ← tag (do
    word "include"
    let names ← spaced names
    let optional ← given (do symbol "ignore"; symbol "missing")
    return (names, optional))
  return .insertion margin names optional

/-- A name that gets a value. -/
def assignTag (fuel : Nat) (w : String) (outside : Bool) : Reader Node := do
  let (margin, name, value) ← tag (do
    word w
    let name ← spaced name
    symbol "="
    let value ← spaced (value fuel)
    return (name, value))
  return .assign margin outside name value

/-- The start of a loop: key, name and container. -/
def eachTag (fuel : Nat) : Reader (Margin × Option String × String × Expression) :=
  tag (do
    word "for"
    let first ← spaced name
    let second ← optional (do symbol ","; spaced name)
    symbol "in"
    let container ← spaced (container fuel)
    return match second with
      | some second => (some first, second, container)
      | none => (none, first, container))

/-- The start of a branch. -/
def branchTag (fuel : Nat) (w : String) : Reader (Margin × Expression) :=
  tag (do word w; spaced (condition fuel))

/-- The start of a filtered part. -/
def filterTag (fuel : Nat) : Reader (Margin × Call) :=
  tag (do
    word "filter"
    spaced (call fuel <|> (do return .mk (← name) [])))

/-- A parameter with the literal that stands in for it. -/
def parameter : Reader Parameter := do
  let name ← name
  let default ← optional (do
    symbol "="
    spaced (truthLiteral <|> (.text <$> quoted) <|> realLiteral <|> integerLiteral))
  return ⟨name, default⟩

/-- The start of a definition: name and parameters. -/
def definitionTag : Reader (Margin × String × List Parameter) :=
  tag (do
    word "macro"
    let name ← spaced name
    symbol "("
    let parameters ← optional (spaced (separated parameter))
    symbol ")"
    return (name, parameters.getD []))

mutual

/-- A node in a setting. -/
def node : Nat → Setting → Reader Node
  | 0, _ => failure
  | fuel + 1, setting =>
    let depth := 12 * (fuel + 2)
    insertionTag <|>
    (if setting = .block then parentBlockTag else failure) <|>
    outputTag depth <|> commentTag <|>
    assignTag depth "set" false <|> assignTag depth "set_global" true <|>
    (if setting = .top then definition fuel else failure) <|>
    (if setting = .top || setting = .block then block fuel else failure) <|>
    choice fuel setting <|> each fuel <|>
    (if setting = .loop then
      (.leave <$> wordTag "break") <|> (.skip <$> wordTag "continue") else failure) <|>
    verbatimTag <|> filtered fuel <|> textNode

/-- A choice between branches. -/
def choice : Nat → Setting → Reader Node
  | 0, _ => failure
  | fuel + 1, setting => do
    let (margin, condition) ← branchTag (12 * (fuel + 2)) "if"
    let body ← many (node fuel setting)
    let others ← many (do
      let (margin, condition) ← branchTag (12 * (fuel + 2)) "elif"
      let body ← many (node fuel setting)
      return (margin, condition, body))
    let otherwise ← optional (do
      let margin ← wordTag "else"
      let body ← many (node fuel setting)
      return (margin, body))
    let stop ← wordTag "endif"
    return .choose ((margin, condition, body) :: others) otherwise stop

/-- A loop. -/
def each : Nat → Reader Node
  | 0 => failure
  | fuel + 1 => do
    let (start, key, name, container) ← eachTag (12 * (fuel + 2))
    let body ← many (node fuel .loop)
    let empty ← optional (do let _ ← wordTag "else"; many (node fuel .loop))
    let stop ← wordTag "endfor"
    return .each start key name container body empty stop

/-- A part that is sent through a filter. -/
def filtered : Nat → Reader Node
  | 0 => failure
  | fuel + 1 => do
    let (start, call) ← filterTag (12 * (fuel + 2))
    let body ← many (node fuel .filtered)
    let stop ← wordTag "endfilter"
    return .filtered start call body stop

/-- A block. -/
def block : Nat → Reader Node
  | 0 => failure
  | fuel + 1 => do
    let (start, name) ← tag (do word "block"; spaced name)
    let body ← many (node fuel .block)
    let stop ← namedTag "endblock"
    return .block start name body stop

/-- A definition of a macro. -/
def definition : Nat → Reader Node
  | 0 => failure
  | fuel + 1 => do
    let (start, name, parameters) ← definitionTag
    let body ← many (node fuel .macroBody)
    let stop ← namedTag "endmacro"
    return .definition start name parameters body stop

end

end Reader

/-- The macros that are defined outside other tags. -/
def definitionsOf (nodes : List Node) : List (String × Definition) :=
  nodes.filterMap fun
    | .definition _ name parameters body _ => some (name, ⟨parameters, body⟩)
    | _ => none

mutual

/-- The blocks among some nodes and inside those blocks. -/
def blocksOf : List Node → List (String × List Node)
  | [] => []
  | node :: nodes => blocksIn node ++ blocksOf nodes

/-- A block with the blocks inside it. -/
def blocksIn : Node → List (String × List Node)
  | .block _ name body _ => (name, body) :: blocksOf body
  | _ => []

end

/-- Whether no name stands twice in a list. -/
def distinct {α : Type} (named : List (String × α)) : Bool :=
  let names := named.map (·.1)
  names.eraseDups.length == names.length

/-- The document of a text.  Macros and blocks must have names of their own. -/
def Document.read? (text : String) : Option Document :=
  let text := text.toList
  match Reader.many (Reader.node (text.length + 1) .top) text with
  | some (nodes, []) =>
    let nodes := Node.trimFrom false nodes
    let definitions := definitionsOf nodes
    let blocks := blocksOf nodes
    if distinct definitions && distinct blocks then some { nodes, definitions, blocks } else none
  | _ => none

end ReleasePress.Template
