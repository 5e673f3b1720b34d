import ReleasePress.Template.Expression
import ReleasePress.Text.Split

/-!
# Template documents

A document is text with tags in between.  A hyphen at the edge of a tag takes away the white space on
that side, which `Node.trimmed` carries out once the document is read.

## Main declarations

* `Node`: a piece of text or a tag, with what stands inside it.
* `Document`: the nodes, and the macros and blocks that they define.
* `Node.trimmed`: the nodes after the white space beside hyphens is taken away.
-/

namespace ReleasePress.Template

/-- On which sides a tag takes away white space. -/
structure Margin where
  before : Bool := false
  after : Bool := false
  deriving DecidableEq, Repr

/-- A parameter of a macro with the literal that stands in for it. -/
structure Parameter where
  name : String
  default : Option Term

/-- A piece of a document.  Tags that enclose other nodes have a margin at either end. -/
inductive Node where
  | text (text : String)
  | verbatim (start : Margin) (text : String) (stop : Margin)
  | comment (margin : Margin)
  | output (margin : Margin) (value : Expression)
  /-- Sets a name, in the innermost scope or in the one outside all loops. -/
  | assign (margin : Margin) (outside : Bool) (name : String) (value : Expression)
  /-- The first branch whose condition holds, or else the last part. -/
  | choose (branches : List (Margin × Expression × List Node))
      (otherwise : Option (Margin × List Node)) (stop : Margin)
  /-- The body for each item of a container, or else the part for an empty one. -/
  | each (start : Margin) (key : Option String) (value : String) (container : Expression)
      (body : List Node) (empty : Option (List Node)) (stop : Margin)
  /-- The text of the body, sent through a filter. -/
  | filtered (start : Margin) (filter : Call) (body : List Node) (stop : Margin)
  /-- The first of some templates that is known. -/
  | insertion (margin : Margin) (names : List String) (optional : Bool)
  | block (start : Margin) (name : String) (body : List Node) (stop : Margin)
  /-- The block that the block around it replaces. -/
  | parentBlock
  | definition (start : Margin) (name : String) (parameters : List Parameter) (body : List Node)
      (stop : Margin)
  /-- Ends the loop around. -/
  | leave (margin : Margin)
  /-- Ends the turn of the loop around. -/
  | skip (margin : Margin)
  deriving Inhabited

namespace Node

/-- Takes away the white space at the end of the last node, if that is text. -/
def trimLast : List Node → List Node
  | [] => []
  | [.text content] =>
    let content := Text.trimmedEnd content
    if content.isEmpty then [] else [.text content]
  | [node] => [node]
  | node :: next :: nodes => node :: trimLast (next :: nodes)

/-- `trimLast` under a condition. -/
def trimLastIf (condition : Bool) (nodes : List Node) : List Node :=
  if condition then trimLast nodes else nodes

/-- The margins of a node at its start and at its end. -/
def margins : Node → Margin × Margin
  | .text _ | .parentBlock => ({}, {})
  | .verbatim start _ stop => (start, stop)
  | .comment margin | .output margin _ | .assign margin _ _ _ | .insertion margin _ _ | .leave margin
  | .skip margin => (margin, margin)
  | .choose ((start, _) :: _) _ stop => (start, stop)
  | .choose [] _ stop => (stop, stop)
  | .each start _ _ _ _ _ stop | .filtered start _ _ stop | .block start _ _ stop
  | .definition start _ _ _ stop => (start, stop)

/-- The text of a verbatim part between its tags. -/
def trimVerbatim (start : Margin) (content : String) (stop : Margin) : String :=
  let cs := content.toList
  let cs := if start.after then Text.trimStart cs else cs
  String.ofList (if stop.before then Text.trimEnd cs else cs)

/-- Whether the next node takes away the white space before it. -/
def startsWithHyphen : List Node → Bool
  | node :: _ => node.margins.1.before
  | [] => false

mutual

/-- The nodes without the white space beside hyphens.  With `head`, white space is taken away at the
start of the nodes. -/
def trimFrom (head : Bool) : List Node → List Node
  | [] => []
  | .text content :: nodes =>
    let content := if head then String.ofList (Text.trimStart content.toList) else content
    let content := if startsWithHyphen nodes then Text.trimmedEnd content else content
    if content.isEmpty then trimFrom false nodes else .text content :: trimFrom false nodes
  | node :: nodes => trimInside node :: trimFrom (node.margins.2.after) nodes

/-- A node with the nodes inside it trimmed. -/
def trimInside : Node → Node
  | .verbatim start content stop => .verbatim start (trimVerbatim start content stop) stop
  | .each start key value container body empty stop =>
    .each start key value container (trimLastIf stop.before (trimFrom start.after body)) empty stop
  | .filtered start filter body stop =>
    .filtered start filter (trimLastIf stop.before (trimFrom start.after body)) stop
  | .block start name body stop =>
    .block start name (trimLastIf stop.before (trimFrom start.after body)) stop
  | .definition start name parameters body stop =>
    .definition start name parameters (trimLastIf stop.before (trimFrom start.after body)) stop
  | .choose branches none stop => .choose (trimBranches stop branches) none stop
  | .choose branches (some (margin, body)) stop =>
    .choose (trimBranches margin branches)
      (some (margin, trimLastIf stop.before (trimFrom margin.after body))) stop
  | node => node

/-- The branches before a tag with the margin `stop`. -/
def trimBranches (stop : Margin) :
    List (Margin × Expression × List Node) → List (Margin × Expression × List Node)
  | [] => []
  | (margin, condition, body) :: branches =>
    let next := match branches with
      | (margin, _) :: _ => margin
      | [] => stop
    (margin, condition, trimLastIf next.before (trimFrom margin.after body)) ::
      trimBranches stop branches

end

end Node

/-- A definition of a macro. -/
structure Definition where
  parameters : List Parameter
  body : List Node

/-- A document that was read. -/
structure Document where
  nodes : List Node
  /-- The macros by name. -/
  definitions : List (String × Definition)
  /-- The blocks by name. -/
  blocks : List (String × List Node)

end ReleasePress.Template
