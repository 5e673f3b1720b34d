import ReleasePress.Template.Operation.Argument
import ReleasePress.Text.Case

/-!
# Operations on lists

Lists are sorted, filtered and grouped by the value at a path into each item; without a path, by the item
itself.

## Main declarations

* The operations by name, which `Template.operations` lists.
-/

namespace ReleasePress.Template.Operation

/-- The items of a list. -/
def items (name : String) (value : Json) : Except String (List Json) :=
  subject name Kind.list value

/-- The first item, or an empty text. -/
def first : Operation := fun value _ => do
  return (← items "first" value).head?.getD (.string "")

/-- The last item, or an empty text. -/
def last : Operation := fun value _ => do
  return (← items "last" value).getLast?.getD (.string "")

/-- The item at an index, or an empty text. -/
def nth : Operation := fun value arguments => do
  let list ← items "nth" value
  if list.isEmpty then return .string ""
  else
    let n ← required "nth" "n" (unmet "nth" "n") Kind.count arguments
    return list[n]?.getD (.string "")

/-- The texts of the items with a separator between them. -/
def join : Operation := fun value arguments => do
  let list ← items "join" value
  let separator ← argument "truncate" "sep" Kind.text "" arguments
  return .string ((String.ofList (unescaped separator)).intercalate (list.map Json.display))

/-- How values of one kind are sorted, with the name of the kind. -/
structure SortKind where
  name : String
  accepts : Json → Bool
  le : Json → Json → Bool

/-- The number of a value, or zero. -/
def numberOf : Json → Float
  | .number n => n.toFloat
  | _ => 0.0

/-- The length of an array, or zero. -/
def lengthOf : Json → Nat
  | .array items => items.length
  | _ => 0

/-- Whether a truth value is not greater than another one. -/
def truthLe : Json → Json → Bool
  | .bool a, .bool b => !a || b
  | _, _ => true

/-- How values of the kind of a value are sorted; null and objects are not. -/
def sortKind : Json → Except String SortKind
  | .null => .error "Null is not a sortable value"
  | .object _ => .error "Object is not a sortable value"
  | .bool _ => .ok ⟨"bool", (fun | .bool _ => true | _ => false), truthLe⟩
  | .number _ =>
    .ok ⟨"number", (fun | .number _ => true | _ => false), fun a b => numberOf a ≤ numberOf b⟩
  | .string _ =>
    .ok ⟨"string", fun value => value.str?.isSome,
      fun a b => decide ((a.str?).getD "" ≤ (b.str?).getD "")⟩
  | .array _ =>
    .ok ⟨"array", (fun | .array _ => true | _ => false), fun a b => lengthOf a ≤ lengthOf b⟩

/-- A path that an item does not have. -/
def noField (path : String) : String :=
  "attribute '" ++ path ++ "' does not reference a field"

/-- The value at a path into an item, which must have it. -/
def fieldOf (path : String) (item : Json) : Except String Json :=
  match Json.follow? (Json.dotted path) item with
  | some value => .ok value
  | none => .error (noField path)

/-- The value at a path, which must be of the kind that is sorted. -/
def sortKey (kind : SortKind) (path : String) (item : Json) : Except String (Json × Json) := do
  let key ← fieldOf path item
  if kind.accepts key then return (key, item)
  else .error ("expected " ++ kind.name ++ " got " ++ key.compress)

/-- The items in the order of the values at a path. -/
def sort : Operation := fun value arguments => do
  match ← items "sort" value with
  | [] => return .array []
  | head :: rest =>
    let path ← argument "sort" "attribute" Kind.text "" arguments
    let kind ← sortKind (← fieldOf path head)
    let keyed ← (head :: rest).mapM (sortKey kind path)
    return .array ((keyed.mergeSort fun a b => kind.le a.1 b.1).map (·.2))

/-- What two values must agree in to count as one: texts perhaps up to case.  Only truth values, integers
and texts can be told apart so. -/
def identity (caseSensitive : Bool) : Json → Except String Json
  | .null => .error "Null is not a unique value"
  | .object _ => .error "Object is not a unique value"
  | .array _ => .error "Array is not a unique value"
  | .number (.real _) => .error "Unique floats are not supported"
  | .string text =>
    .ok (.string (if caseSensitive then text else String.ofList (Text.lower text.toList)))
  | value => .ok value

/-- A number for the kind of a value. -/
def kindIndex : Json → Nat
  | .null => 0
  | .bool _ => 1
  | .number _ => 2
  | .string _ => 3
  | .array _ => 4
  | .object _ => 5

/-- The items whose value at a path was not seen before. -/
def distinctItems (kind : Nat) (caseSensitive : Bool) (path : List String) (seen : List Json) :
    List Json → Except String (List Json)
  | [] => .ok []
  | item :: rest =>
    match Json.follow? path item with
    | none => distinctItems kind caseSensitive path seen rest
    | some key => do
      if kindIndex key ≠ kind then .error "unique filter can't compare multiple types"
      else
        let mark ← identity caseSensitive key
        if seen.any (Json.same mark) then distinctItems kind caseSensitive path seen rest
        else return item :: (← distinctItems kind caseSensitive path (mark :: seen) rest)

/-- The items of which no earlier one has the same value at a path. -/
def unique : Operation := fun value arguments => do
  match ← items "unique" value with
  | [] => return .array []
  | head :: rest =>
    let caseSensitive ← argument "unique" "case_sensitive" Kind.truth false arguments
    let path ← argument "unique" "attribute" Kind.text "" arguments
    let key ← fieldOf path head
    let _ ← identity caseSensitive key
    return .array
      (← distinctItems (kindIndex key) caseSensitive (Json.dotted path) [] (head :: rest))

/-- A position in a list; a negative one counts from the end, and there is none before the start. -/
def position (length : Nat) (x : Float) : Nat :=
  (if x >= 0.0 then x else Float.ofNat length + x).toUInt64.toNat

/-- The items between two positions. -/
def slice : Operation := fun value arguments => do
  let list ← items "slice" value
  if list.isEmpty then return .array []
  else
    let start ← argument? "slice" "start" Kind.number arguments
    let stop ← argument? "slice" "end" Kind.number arguments
    let start := (start.map (position list.length)).getD 0
    let stop := min ((stop.map (position list.length)).getD list.length) list.length
    return .array ((list.take stop).drop start)

/-- Adds an item to the group of a key. -/
def addToGroup (key : String) (item : Json) : List (String × List Json) → List (String × List Json)
  | [] => [(key, [item])]
  | (other, group) :: groups =>
    if other = key then (other, group ++ [item]) :: groups
    else (other, group) :: addToGroup key item groups

/-- The items as groups by their value at a path.  Items where that is missing or null are left out. -/
def groupBy : Operation := fun value arguments => do
  let list ← items "group_by" value
  if list.isEmpty then return .object []
  else
    let path ← required "group_by" "attribute" (unmet "group_by" "attribute") Kind.text arguments
    let add (groups : List (String × List Json)) (item : Json) : List (String × List Json) :=
      match Json.follow? (Json.dotted path) item with
      | none | some .null => groups
      | some (.string key) => addToGroup key item groups
      | some other => addToGroup other.compress item groups
    return .object ((list.foldl add []).map fun (key, group) => (key, .array group))

/-- The items whose value at a path is a given one, or only not null. -/
def keep : Operation := fun value arguments => do
  let list ← items "filter" value
  if list.isEmpty then return .array []
  else
    let path ← required "filter" "attribute" (unmet "filter" "attribute") Kind.text arguments
    let wanted := (Json.field? "value" arguments).getD .null
    let passes (item : Json) : Bool :=
      match (Json.follow? (Json.dotted path) item).getD .null, wanted with
      | .null, .null => false
      | _, .null => true
      | found, wanted => Json.same found wanted
    return .array (list.filter passes)

/-- The values of the items at a path that are not null. -/
def map : Operation := fun value arguments => do
  let list ← items "map" value
  if list.isEmpty then return .array []
  else
    let path ← required "map" "attribute" (unmet "map" "attribute") Kind.text arguments
    let found (item : Json) : Option Json := match Json.follow? (Json.dotted path) item with
      | some .null => none
      | found => found
    return .array (list.filterMap found)

/-- A list with a value or the items of another list at its end. -/
def concat : Operation := fun value arguments => do
  let list ← items "concat" value
  match Json.field? "with" arguments with
  | none => .error "The \x60concat\x60 filter has to have a \x60with\x60 argument"
  | some (.array more) => return .array (list ++ more)
  | some other => return .array (list ++ [other])

end ReleasePress.Template.Operation
