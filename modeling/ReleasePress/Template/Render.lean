import ReleasePress.Filter.Library
import ReleasePress.Template.Arithmetic
import ReleasePress.Template.Function
import ReleasePress.Template.Operation
import ReleasePress.Template.Reader.Document
import ReleasePress.Template.Scope
import ReleasePress.Template.Test

/-!
# Rendering documents

Rendering walks a document from the top and evaluates its expressions in the scopes of the tags around.
Whatever fails ends it, but for conditions: one on a reference or on a test does not hold if it cannot be
evaluated.

Every step into a tag, an expression or a macro takes one unit of fuel, so a macro that uses itself
without end fails.

## Main declarations

* `Failure`: why a document could not be rendered.
* `Page`: a document with its context and the filter library.
* `Page.render`: the text of a document.
-/

namespace ReleasePress.Template

open ReleasePress.Json (Number)

/-- Why a document could not be rendered. -/
structure Failure where
  /-- What failed, followed by what it failed for. -/
  trail : List String
  /-- The call of a filter that was refused, if it was one. -/
  refusal : Option FilterError := none
  /-- The innermost tag with a scope around, once it was left; its space and name if it is a macro. -/
  around : Option (Option (String × String)) := none

namespace Failure

/-- A failure for a reason of its own. -/
def ofReason (reason : String) : Failure := { trail := [reason] }

/-- A failure that made something else fail. -/
def within (what : String) (failure : Failure) : Failure :=
  { failure with trail := what :: failure.trail }

/-- A failure of which only the last thing that failed is known. -/
def summary (failure : Failure) : Failure :=
  { trail := failure.trail.take 1, around := failure.around }

/-- A failure inside a tag with a scope. -/
def inside (kind : ScopeKind) (failure : Failure) : Failure :=
  { failure with around := failure.around.or (some (match kind with
    | .expansion space name => some (space, name)
    | _ => none)) }

end Failure

/-- A call of a filter that was refused. -/
structure Refusal where
  error : FilterError
  /-- Whether the call stood where refusals are not reported. -/
  hidden : Bool
  deriving DecidableEq

/-- What rendering reads and changes. -/
structure Progress (σ : Type) where
  filters : FilterState σ
  /-- The scopes, innermost first. -/
  scopes : List Scope
  /-- The calls of filters that were refused so far, last one first. -/
  refusals : List Refusal := []
  /-- Whether something around goes on without what fails, or does not tell why it failed. -/
  hidden : Bool := false

/-- Where rendering starts. -/
def Progress.start {σ : Type} (filters : FilterState σ) : Progress σ :=
  { filters, scopes := [{ kind := .outermost }] }

/-- A step of rendering. -/
abbrev Rendering (σ : Type) := ExceptT Failure (StateM (Progress σ))

/-- Whether a loop goes on after a part of its body. -/
inductive Flow where
  | on
  | skip
  | leave
  deriving DecidableEq, Repr

/-- A document with what it is rendered from. -/
structure Page (σ : Type) where
  library : FilterLibrary σ
  /-- The name of the template. -/
  name : String
  document : Document
  context : Fields

namespace Rendering

variable {σ : Type}

/-- A failure for a reason. -/
def fail {α : Type} (reason : String) : Rendering σ α :=
  throw (Failure.ofReason reason)

/-- A result, or a failure for a reason. -/
def ofExcept {α : Type} : Except String α → Rendering σ α
  | .ok a => pure a
  | .error reason => fail reason

/-- A step whose failure makes something else fail. -/
def within {α : Type} (what : String) (step : Rendering σ α) : Rendering σ α :=
  tryCatch step fun failure => throw (failure.within what)

/-- A step whose refused calls are not reported. -/
def quietly {α : Type} (step : Rendering σ α) : Rendering σ α := fun s =>
  let (result, after) := step.run.run { s with hidden := true }
  (result, { after with hidden := s.hidden })

/-- A step, or a value that stands in for it if it fails.  What it asked the repository stays asked; the
scopes are those before. -/
def orElse {α : Type} (a : α) (step : Rendering σ α) : Rendering σ α := do
  let scopes := (← get).scopes
  tryCatch (quietly step) fun _ => do
    modify fun s => { s with scopes }
    pure a

/-- A step of whose failure only the last thing that failed is known. -/
def summarized {α : Type} (step : Rendering σ α) : Rendering σ α :=
  tryCatch (quietly step) fun failure => throw failure.summary

/-- Fails because a filter with a name refused a call. -/
def refuse {α : Type} (name : String) (error : FilterError) : Rendering σ α := do
  modify fun s => { s with refusals := ⟨error, s.hidden⟩ :: s.refusals }
  throw { trail := ["Filter '" ++ name ++ "' failed", error.message], refusal := some error }

/-- A step inside a scope of its own. -/
def enclosed {α : Type} (scope : Scope) (step : Rendering σ α) : Rendering σ α := do
  modify fun s => { s with scopes := scope :: s.scopes }
  let a ← tryCatch step fun failure => throw (failure.inside scope.kind)
  modify fun s => { s with scopes := s.scopes.tail }
  pure a

/-- Asks the filter library. -/
def ofSession {α : Type} (session : FilterLibrary.Session σ α) : Rendering σ α := do
  let s ← get
  let (a, filters) := session.run s.filters
  set { s with filters }
  pure a

/-- The texts of some steps, up to one after which the loop around does not go on. -/
def untilBroken {α : Type} (step : α → Rendering σ (String × Flow)) :
    List α → Rendering σ (String × Flow)
  | [] => pure ("", .on)
  | a :: rest => do
    match ← step a with
    | (text, .on) =>
      let (texts, flow) ← untilBroken step rest
      pure (text ++ texts, flow)
    | (text, flow) => pure (text, flow)

/-- The texts of the turns of a loop, up to one that leaves it. -/
def untilLeft {α : Type} (step : α → Rendering σ (String × Flow)) : List α → Rendering σ String
  | [] => pure ""
  | a :: rest => do
    match ← step a with
    | (text, .leave) => pure text
    | (text, _) => return text ++ (← untilLeft step rest)

end Rendering

namespace Scope

/-- Sets a name in the innermost scope. -/
def assign (name : String) (value : Json) : List Scope → List Scope
  | [] => []
  | scope :: scopes => { scope with values := Json.insertField name value scope.values } :: scopes

/-- Sets a name in the innermost scope that is not one of a loop. -/
def assignOutside (name : String) (value : Json) : List Scope → List Scope
  | [] => []
  | scope :: scopes =>
    match scope.kind with
    | .loop _ => scope :: assignOutside name value scopes
    | _ => assign name value (scope :: scopes)

end Scope

/-- What a loop runs through, as messages call it. -/
def containerName (container : Expression) : Except String String :=
  match container.term with
  | .reference reference => .ok reference.spelling
  | .call call => .ok call.name
  | .list _ => .ok "an array literal"
  | term =>
    .error ("Forloop containers have to be an ident or a function call (tried to iterate on '" ++
      term.outline ++ "')")

/-- The turns of a loop: the keys, if it has them, and the items of a container. -/
def turns (shown : String) (key : Option String) (name : String) (container : Json) :
    Except String (List Turn) :=
  let keyed := "Tried to iterate using key value on variable \x60" ++ shown ++ "\x60, but it "
  let plain (items : List Json) : Except String (List Turn) :=
    if key.isSome then .error (keyed ++ "isn't an object/map")
    else
      .ok (items.zipIdx.map fun (item, index) =>
        { key := none, name, item, index, count := items.length })
  match container with
  | .array items => plain items
  | .string text => plain (text.toList.map fun c => .string (String.ofList [c]))
  | .object fields =>
    match key with
    | none => .error (keyed ++ "is missing a key")
    | some key =>
      .ok (fields.zipIdx.map fun ((field, item), index) =>
        { key := some (key, field), name, item, index, count := fields.length })
  | _ =>
    .error ("Tried to iterate on a container (\x60" ++ shown ++ "\x60) that has a unsupported type")

/-- The text of a part of a joined text. -/
def partText (noun name : String) : Json → Except String String
  | .string text => .ok text
  | .number n => .ok n.write
  | _ => .error ("Tried to concat a value that is not a string or a number from " ++ noun ++ " " ++ name)

/-- Whether a value is in a container. -/
def isMember (item : Json) : Json → Except String Bool
  | .array items => .ok (items.any (Json.same item))
  | .string text =>
    match item with
    | .string piece => .ok (Text.contains piece.toList text.toList)
    | other =>
      .error ("Tried to check if " ++ other.outline ++ " is in a string, but it isn't a string")
  | .object fields =>
    match item with
    | .string key => .ok (Json.field? key fields).isSome
    | other =>
      .error ("Tried to check if " ++ other.outline ++ " is in a object, but it isn't a string")
  | _ => .error "The \x60in\x60 operator only supports strings, arrays and objects."

namespace Page

variable {σ : Type}

/-- What a reference leads to. -/
def lookup (page : Page σ) (reference : Reference) : Rendering σ Json := do
  let around : Surroundings :=
    { scopes := (← get).scopes, context := page.context, template := page.name }
  if reference.spelling = Surroundings.overviewName then return .string around.overview
  else Rendering.ofExcept (around.value reference)

/-- The result of a filter with evaluated arguments: filters of the library go before operations. -/
def filtered (page : Page σ) (name : String) (subject : Json) (arguments : Fields) :
    Rendering σ Json :=
  match Filter.ofName? name with
  | some filter => do
    match ← Rendering.ofSession (page.library.callNamed filter subject arguments) with
    | .ok value => pure value
    | .error refusal => Rendering.refuse name refusal
  | none =>
    match operations.lookup name with
    | some operation => Rendering.ofExcept (operation subject arguments)
    | none => Rendering.fail ("Filter '" ++ name ++ "' not found")

/-- Whether a filter with a name is known. -/
def knowsFilter (name : String) : Bool :=
  (Filter.ofName? name).isSome || (operations.lookup name).isSome

/-- The number of a value; `reason` is given for others. -/
def numberOr (reason : String) : Json → Rendering σ (Option Number)
  | .number n => pure (some n)
  | _ => Rendering.fail reason

/-- The macro of a space and a name: only those of the document itself are known, in the space `self`. -/
def definition (page : Page σ) (space name : String) : Except String Definition :=
  if space ≠ "self" || page.document.definitions.isEmpty then
    .error ("Macro namespace \x60" ++ space ++ "\x60 was not found in template \x60" ++ page.name ++
      "\x60. Have you maybe forgotten to import it, or misspelled it?")
  else
    match page.document.definitions.lookup name with
    | some definition => .ok definition
    | none =>
      .error ("Macro \x60" ++ space ++ "::" ++ name ++ "\x60 not found in template \x60" ++ page.name ++
        "\x60")

/-- Fails for want of fuel. -/
def exhausted {α : Type} : Rendering σ α :=
  Rendering.fail "The template goes on without end"

mutual

/-- The value of an expression. -/
def evaluate (page : Page σ) : Nat → Expression → Rendering σ Json
  | 0, _ => exhausted
  | fuel + 1, expression => do
    let negate (value : Json) : Json :=
      if expression.negated then .bool (!value.isTruthy) else value
    let filter (value : Json) : Rendering σ Json := do
      return negate (← filterAll page fuel expression.filters value)
    match expression.term, expression.fallback? with
    | .reference reference, some call => do
      let found ← Rendering.orElse .null (page.lookup reference)
      match found with
      | .null =>
        match call.argument? "value" with
        | some value => filter (← evaluate page fuel value)
        | none => Rendering.fail "The \x60default\x60 filter requires a \x60value\x60 argument."
      | found => filter found
    | .reference reference, none => do
      if expression.negated then
        match ← Rendering.orElse none (some <$> page.lookup reference) with
        | some value => filter value
        | none => return .bool true
      else filter (← page.lookup reference)
    | .either _ _, _ | .both _ _, _ | .comparison _ _ _, _ => do
      filter (.bool (← holds page fuel expression))
    | term, _ => do filter (← evaluateTerm page fuel term)

/-- A value sent through filters.  Two names belong to the language and change nothing here. -/
def filterAll (page : Page σ) : Nat → List Call → Json → Rendering σ Json
  | 0, _, _ => exhausted
  | _ + 1, [], value => pure value
  | fuel + 1, call :: calls, value => do
    if call.name = "safe" || call.name = "default" then filterAll page fuel calls value
    else filterAll page fuel calls (← callFilter page fuel call value)

/-- The result of one filter. -/
def callFilter (page : Page σ) : Nat → Call → Json → Rendering σ Json
  | 0, _, _ => exhausted
  | fuel + 1, call, value => do
    if knowsFilter call.name then
      Rendering.within ("Filter call '" ++ call.name ++ "' failed") (do
        page.filtered call.name value (← evaluateArguments page fuel call))
    else Rendering.fail ("Filter '" ++ call.name ++ "' not found")

/-- The values of named arguments. -/
def evaluateArguments (page : Page σ) : Nat → Call → Rendering σ Fields
  | 0, _ => exhausted
  | fuel + 1, call =>
    call.distinctArguments.mapM fun (name, value) => do
      return (name, ← evaluate page fuel value)

/-- The result of a function. -/
def callFunction (page : Page σ) : Nat → Call → Rendering σ Json
  | 0, _ => exhausted
  | fuel + 1, call => do
    match functions.lookup call.name with
    | none => Rendering.fail ("Function '" ++ call.name ++ "' not found")
    | some function =>
      Rendering.within ("Function call '" ++ call.name ++ "' failed") (do
        let arguments ← evaluateArguments page fuel call
        Rendering.ofExcept (function page.library.toCircumstances arguments))

/-- The value of a term. -/
def evaluateTerm (page : Page σ) : Nat → Term → Rendering σ Json
  | 0, _ => exhausted
  | fuel + 1, term =>
    match term with
    | .text text => pure (.string text)
    | .integer n => pure (.int n)
    | .real x => pure (.number (.real x))
    | .truth b => pure (.bool b)
    | .reference reference => page.lookup reference
    | .list items => do return .array (← items.mapM fun item => evaluate page fuel item)
    | .joined parts => do
      return .string (String.join (← parts.mapM fun part => joinedPart page fuel part))
    | .arithmetic operator left right => do
      match ← Rendering.summarized (calculate page fuel operator left right) with
      | some n => return .number n
      | none => return .string "NaN"
    | .comparison relation left right => do
      return .bool (← compare page fuel relation left right)
    | .either left right => do
      return .bool (← holds page fuel (.ofTerm (.either left right)))
    | .both left right => do
      return .bool (← holds page fuel (.ofTerm (.both left right)))
    | .member inside item container => do
      return .bool (← includes page fuel inside item container)
    | .test passing subject name arguments => do
      return .bool (← passes page fuel passing subject name arguments)
    | .call call => callFunction page fuel call
    | .expansion space call => do return .string (← expand page fuel space call)

/-- The text of a part of a joined text. -/
def joinedPart (page : Page σ) : Nat → Term → Rendering σ String
  | 0, _ => exhausted
  | fuel + 1, part =>
    match part with
    | .real x => pure (Number.real x).display
    | .reference reference => do
      Rendering.ofExcept (partText "ident" reference.spelling (← page.lookup reference))
    | .call call => do
      Rendering.ofExcept (partText "function call" call.name (← callFunction page fuel call))
    | other => do return (← evaluateTerm page fuel other).display

/-- The number of an expression, `none` if it is a number that cannot be written. -/
def number (page : Page σ) : Nat → Expression → Rendering σ (Option Number)
  | 0, _ => exhausted
  | fuel + 1, expression => do
    if expression.filters.isEmpty then
      match expression.term with
      | .reference reference =>
        numberOr ("Variable \x60" ++ reference.spelling ++
          "\x60 was used in a math operation but is not a number") (← page.lookup reference)
      | .integer n => return some (.integer n)
      | .real x => return some (.real x)
      | .arithmetic operator left right => calculate page fuel operator left right
      | .call call =>
        numberOr ("Function \x60" ++ call.name ++
          "\x60 was used in a math operation but is not returning a number")
          (← callFunction page fuel call)
      | .text text => Rendering.fail ("Tried to do math with a string: \x60" ++ text ++ "\x60")
      | .truth b => Rendering.fail ("Tried to do math with a boolean: \x60" ++ toString b ++ "\x60")
      | .joined _ => Rendering.fail "Tried to do math with a string concatenation"
      | .test _ _ name _ => Rendering.fail ("Tried to do math with a test: " ++ name)
      | other => Rendering.fail ("unimplemented math expression for " ++ other.outline)
    else
      numberOr "Tried to do math with an expression not resulting in a number"
        (← evaluate page fuel expression)

/-- The result of an operator. -/
def calculate (page : Page σ) : Nat → Operator → Expression → Expression →
    Rendering σ (Option Number)
  | 0, _, _, _ => exhausted
  | fuel + 1, operator, left, right => do
    let l ← number page fuel left
    let r ← number page fuel right
    match l, r with
    | some l, some r =>
      Rendering.ofExcept (operator.apply (left.outline ++ "/" ++ right.outline) l r)
    | _, _ => return none

/-- Whether a relation holds. -/
def compare (page : Page σ) : Nat → Relation → Expression → Expression → Rendering σ Bool
  | 0, _, _, _ => exhausted
  | fuel + 1, relation, left, right => do
    match relation with
    | .equal => do
      let l ← evaluate page fuel left
      let r ← evaluate page fuel right
      return equalValues l r
    | .different => do
      let l ← evaluate page fuel left
      let r ← evaluate page fuel right
      return !(equalValues l r) && !(areIncomparable l r)
    | order => do
      let l ← number page fuel left
      let r ← number page fuel right
      match l, r with
      | some l, some r => return order.holds l r
      | _, _ => Rendering.fail "Comparison to NaN"

/-- Whether a value is in a container, or is not in it. -/
def includes (page : Page σ) : Nat → Bool → Expression → Expression → Rendering σ Bool
  | 0, _, _, _ => exhausted
  | fuel + 1, inside, item, container => do
    let item ← evaluate page fuel item
    let container ← evaluate page fuel container
    return (← Rendering.ofExcept (isMember item container)) == inside

/-- Whether a reference passes a test, or does not pass it. -/
def passes (page : Page σ) : Nat → Bool → Reference → String → List Expression → Rendering σ Bool
  | 0, _, _, _, _ => exhausted
  | fuel + 1, passing, subject, name, arguments => do
    match Test.ofName? name with
    | none => Rendering.fail ("Test '" ++ name ++ "' not found")
    | some test => do
      let what := "Test call '" ++ name ++ "' failed"
      let arguments ← arguments.mapM fun argument =>
        Rendering.within what (evaluate page fuel argument)
      let found ← Rendering.orElse none (some <$> page.lookup subject)
      return (← Rendering.within what (Rendering.ofExcept (test.passes found arguments))) == passing

/-- Whether a condition holds.  Filters count only after references. -/
def holds (page : Page σ) : Nat → Expression → Rendering σ Bool
  | 0, _ => exhausted
  | fuel + 1, expression => do
    let plain ← match expression.term with
      | .either left right => do
        if ← holds page fuel left then pure (some true) else some <$> holds page fuel right
      | .both left right => do
        if ← holds page fuel left then some <$> holds page fuel right else pure (some false)
      | .comparison relation left right => do
        if relation = .equal || relation = .different then
          let l ← evaluate page fuel left
          let r ← evaluate page fuel right
          if areIncomparable l r then pure none
          else pure (some (equalValues l r == (relation == .equal)))
        else some <$> compare page fuel relation left right
      | .reference _ => do
        let value ← Rendering.orElse (.bool false) (evaluate page fuel expression)
        pure (some (value.isTruthy != expression.negated))
      | .arithmetic operator left right => do
        match ← calculate page fuel operator left right with
        | some n => pure (some (n.toFloat != 0.0))
        | none => pure (some false)
      | .integer n => pure (some (n != 0))
      | .real x => pure (some (x.value != 0.0))
      | .test passing subject name arguments => do
        some <$> Rendering.orElse false (passes page fuel passing subject name arguments)
      | .truth b => pure (some b)
      | .text text => pure (some (!text.isEmpty))
      | .call call => do
        match ← callFunction page fuel call with
        | .bool b => pure (some b)
        | _ =>
          Rendering.fail ("Function \x60" ++ call.name ++
            "\x60 was used in a logic expression but is not returning a bool")
      | .joined _ | .list _ => do some <$> Json.isTruthy <$> evaluate page fuel expression
      | .expansion space call => do
        let text ← expand page fuel space call
        pure (some (!text.isEmpty))
      | .member inside item container => do
        some <$> includes page fuel inside item container
    match plain with
    | some plain => return plain != expression.negated
    | none => return false

/-- The text of a macro. -/
def expand (page : Page σ) : Nat → String → Call → Rendering σ String
  | 0, _, _ => exhausted
  | fuel + 1, space, call => do
    let definition ← Rendering.ofExcept (page.definition space call.name)
    let values ← definition.parameters.mapM fun parameter => do
      match call.argument? parameter.name, parameter.default with
      | some value, _ => return (parameter.name, ← evaluate page fuel value)
      | none, some term => return (parameter.name, ← evaluateTerm page fuel term)
      | none, none =>
        Rendering.fail ("Macro \x60" ++ call.name ++ "\x60 is missing the argument \x60" ++
          parameter.name ++ "\x60")
    let (text, _) ← Rendering.enclosed { kind := .expansion space call.name, values }
      (renderAll page fuel definition.body)
    return text

/-- The text of some nodes, up to one after which the loop around does not go on. -/
def renderAll (page : Page σ) : Nat → List Node → Rendering σ (String × Flow)
  | 0, _ => exhausted
  | fuel + 1, nodes => Rendering.untilBroken (fun node => renderNode page fuel node) nodes

/-- The text of the first branch whose condition holds. -/
def renderChoice (page : Page σ) : Nat → List (Margin × Expression × List Node) →
    Option (Margin × List Node) → Rendering σ (String × Flow)
  | 0, _, _ => exhausted
  | _ + 1, [], none => pure ("", .on)
  | fuel + 1, [], some (_, body) => renderAll page fuel body
  | fuel + 1, (_, condition, body) :: branches, otherwise => do
    if ← holds page fuel condition then renderAll page fuel body
    else renderChoice page fuel branches otherwise

/-- The text of a node. -/
def renderNode (page : Page σ) : Nat → Node → Rendering σ (String × Flow)
  | 0, _ => exhausted
  | fuel + 1, node =>
    match node with
    | .text content => pure (content, .on)
    | .verbatim _ content _ => pure (content, .on)
    | .comment _ => pure ("", .on)
    | .output _ value => do return ((← evaluate page fuel value).display, .on)
    | .assign _ outside name value => do
      let value ← evaluate page fuel value
      let assign := if outside then Scope.assignOutside else Scope.assign
      modify fun s => { s with scopes := assign name value s.scopes }
      return ("", .on)
    | .choose branches otherwise _ => renderChoice page fuel branches otherwise
    | .each _ key name container body empty _ => do
      let shown ← Rendering.ofExcept (containerName container)
      let items ← Rendering.ofExcept (turns shown key name (← evaluate page fuel container))
      if items.isEmpty then
        match empty with
        | some nodes => renderAll page fuel nodes
        | none => return ("", .on)
      else
        let text ← Rendering.untilLeft (fun turn =>
          Rendering.enclosed { kind := .loop turn } (renderAll page fuel body)) items
        return (text, .on)
    | .filtered _ call body _ => do
      let (text, _) ← renderAll page fuel body
      if call.name = "safe" then return (text, .on)
      else return ((← callFilter page fuel call (.string text)).display, .on)
    | .insertion _ names optional => do
      if names.contains page.name then
        Rendering.enclosed { kind := .insertion } (renderAll page fuel page.document.nodes)
      else if optional then return ("", .on)
      else Rendering.fail ("Template '[" ++ ", ".intercalate names ++ "]' not found")
    | .block _ name body _ =>
      renderAll page fuel ((page.document.blocks.lookup name).getD body)
    | .parentBlock => Rendering.fail "Tried to use super() in the top level block"
    | .definition _ name _ _ _ =>
      if page.document.definitions.any (·.1 == name) then return ("", .on)
      else Rendering.fail ("Invalid macro definition: \x60" ++ name ++ "\x60")
    | .leave _ => return ("", .leave)
    | .skip _ => return ("", .skip)

end

/-- How deep tags, expressions and macros may go. -/
def depthLimit : Nat :=
  100000

/-- Where a failure occurred. -/
def place (page : Page σ) (failure : Failure) : String :=
  "Failed to render '" ++ page.name ++ "'" ++ match failure.around with
    | some (some (space, name)) => ": error while rendering macro \x60" ++ space ++ "::" ++ name ++ "\x60"
    | _ => ""

/-- The text of a document. -/
def render (page : Page σ) : Rendering σ String := do
  let step (node : Node) : Rendering σ (String × Flow) :=
    tryCatch (page.renderNode depthLimit node) fun failure =>
      throw (failure.within (page.place failure))
  return (← Rendering.untilBroken step page.document.nodes).1

end Page

end ReleasePress.Template
