import ReleasePress.Json.Display
import ReleasePress.Template.Expression

/-!
# Scopes and references

Names are looked up in the scopes of the tags around, innermost first, and then in the context.  The
body of a macro sees only its own scope.  Inside a loop, the name of its item and, for objects, of its
key are known, and `loop` tells where the loop is.

## Main declarations

* `Scope`: names that were set, and what kind of tag the scope belongs to.
* `Surroundings`: the scopes, the context and the name of the template.
* `Surroundings.value`: what a reference leads to, or why it leads nowhere.
-/

namespace ReleasePress.Template

/-- The turn that a loop is in. -/
structure Turn where
  /-- The name of the key and the key itself. -/
  key : Option (String × String)
  name : String
  item : Json
  /-- How many turns were before. -/
  index : Nat
  count : Nat

/-- The tag that a scope belongs to. -/
inductive ScopeKind where
  | outermost
  | insertion
  | expansion (space name : String)
  | loop (turn : Turn)

/-- Names that were set while a tag is rendered. -/
structure Scope where
  kind : ScopeKind
  values : Fields := []

namespace Turn

/-- What a loop tells about itself. -/
def about (turn : Turn) : String → Option Json
  | "loop.index" => some (.int (turn.index + 1))
  | "loop.index0" => some (.int turn.index)
  | "loop.first" => some (.bool (turn.index == 0))
  | "loop.last" => some (.bool (turn.index + 1 == turn.count))
  | _ => none

/-- The value of a path, given by its spelling, its first name and the rest. -/
def value? (turn : Turn) (spelling head : String) (path : List String) : Option Json :=
  if Text.startsWith "loop." spelling then turn.about spelling
  else if path.isEmpty && turn.key.any (·.1 == head) && head != turn.name then
    turn.key.map fun (_, key) => .string key
  else if head = turn.name then Json.follow? path turn.item
  else none

/-- The names that a loop gives a value. -/
def fields (turn : Turn) : Fields :=
  (turn.name, turn.item) :: (turn.key.map fun (name, key) => (name, .string key)).toList

end Turn

namespace Scope

/-- The value of a path in a scope. -/
def value? (scope : Scope) (spelling head : String) (path : List String) : Option Json :=
  match (Json.field? head scope.values).bind (Json.follow? path) with
  | some value => some value
  | none =>
    match scope.kind with
    | .loop turn => turn.value? spelling head path
    | _ => none

end Scope

/-- Where a reference is looked up. -/
structure Surroundings where
  /-- The scopes, innermost first. -/
  scopes : List Scope
  context : Fields
  /-- The name of the template. -/
  template : String

namespace Surroundings

/-- The value of a path in the scopes and then in the context. -/
def find? (context : Fields) (spelling head : String) (path : List String) :
    List Scope → Option Json
  | [] => (Json.field? head context).bind (Json.follow? path)
  | scope :: scopes =>
    match scope.value? spelling head path, scope.kind with
    | some value, _ => some value
    | none, .expansion _ _ => none
    | none, _ => find? context spelling head path scopes

/-- Fields with some others set as well. -/
def withFields (others fields : Fields) : Fields :=
  others.foldl (fun fields (name, value) => Json.insertField name value fields) fields

/-- All names with their values.  Of scopes that give a name a value the outermost counts, and each of them before the
context; `inner` are the names of the scopes further in. -/
def allNames (context inner : Fields) : List Scope → Fields
  | [] => withFields inner context
  | scope :: scopes =>
    let known := withFields scope.values inner
    match scope.kind with
    | .loop turn => allNames context (withFields turn.fields known) scopes
    | .expansion _ _ => known
    | _ => allNames context known scopes

/-- The text of all names with their values, in the order of the names. -/
def overview (around : Surroundings) : String :=
  let fields := allNames around.context [] around.scopes
  (Json.object (fields.mergeSort fun a b => decide (a.1 ≤ b.1))).indented

/-- The name that stands for the text of all names with their values. -/
def overviewName : String :=
  "__tera_context"

/-- Why a path leads nowhere. -/
def missing (around : Surroundings) (spelling : String) : String :=
  "Variable \x60" ++ spelling ++ "\x60 not found in context while rendering '" ++ around.template ++ "'"

/-- Whether a step stands in brackets. -/
def isBracket : Step → Bool
  | .dot _ => false
  | _ => true

/-- A path as it is shown once its brackets are gone. -/
def evaluated (path : String) : String :=
  String.ofList (Text.replaceAll ['/'] ['~', '1'] path.toList)

mutual

/-- What a reference leads to, or why it leads nowhere. -/
def value (around : Surroundings) : Reference → Except String Json
  | .path spelling head steps =>
    if steps.any isBracket then
      match path around spelling steps with
      | .error reason => .error reason
      | .ok (shown, keys) =>
        let shown := evaluated (head ++ shown)
        match find? around.context shown head keys around.scopes with
        | some value => .ok value
        | none =>
          .error (around.missing spelling ++ ": the evaluated version was \x60" ++ shown ++
            "\x60. Maybe the index is out of bounds?")
    else
      match path around spelling steps with
      | .error reason => .error reason
      | .ok (_, keys) =>
        match find? around.context spelling head keys around.scopes with
        | some value => .ok value
        | none => .error (around.missing spelling)

/-- The keys of some steps, with the text that shows them. -/
def path (around : Surroundings) (spelling : String) :
    List Step → Except String (String × List String)
  | [] => .ok ("", [])
  | step :: steps =>
    match key around spelling step with
    | .error reason => .error reason
    | .ok (shown, keys) =>
      match path around spelling steps with
      | .error reason => .error reason
      | .ok (rest, others) => .ok (shown ++ rest, keys ++ others)

/-- The key of a step, with the text that shows it. -/
def key (around : Surroundings) (spelling : String) : Step → Except String (String × List String)
  | .dot name => .ok ("." ++ name, [name])
  | .index digits =>
    if Text.startsWith "-" digits then .error (unusable spelling (around.missing digits))
    else .ok ("." ++ digits, [digits])
  | .key text => .ok (".\"" ++ text ++ "\"", [text])
  | .computed reference =>
    match value around reference with
    | .error reason => .error (unusable spelling reason)
    | .ok (.string text) => .ok (".\"" ++ text ++ "\"", [text])
    | .ok (.number n) => .ok ("." ++ n.write, Json.dotted n.write)
    | .ok _ =>
      .error ("Only variables evaluating to String or Number can be used as index (\x60" ++
        reference.spelling ++ "\x60 of \x60" ++ spelling ++ "\x60)")
where
  /-- Why a reference in brackets is of no use. -/
  unusable (spelling reason : String) : String :=
    "Variable " ++ spelling ++ " can not be evaluated because: " ++ reason

end

end Surroundings

end ReleasePress.Template
