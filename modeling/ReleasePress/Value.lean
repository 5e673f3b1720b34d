import ReleasePress.Git.Encoding
import ReleasePress.Json.Writer

/-!
# Template values

Templates hold plain JSON.  Before a filter runs, its subject and its arguments are lifted into values,
which restore the objects of the repository; results are lowered again.  Dates have no form of their
own in JSON and are recognised only where a date is wanted.

## Main declarations

* `Value`: the values that filters work on.
* `Value.ofJson`, `Value.toJson`: lifting and lowering.
* `Value.asDate?`: what counts as a date.
* `Value.lookup?`: a field that is not nil.
-/

namespace ReleasePress

open ReleasePress.Git

/-- A value that filters work on. -/
inductive Value where
  | nil
  | bool (value : Bool)
  | integer (value : Int)
  | float (value : Double)
  | string (text : String)
  | date (moment : Moment)
  | sequence (items : List Value)
  | map (entries : List (String × Value))
  | object (object : Object)
  deriving Inhabited

namespace Value

/-- A number is an integer if it fits 64 bits with a sign and a float otherwise. -/
def ofNumber : Json.Number → Value
  | .integer n =>
    if Json.isSigned64 n then .integer n
    else
      match Double.ofFloat? (Float.ofInt n) with
      | some x => .float x
      | none => .nil
  | .real x => .float x

mutual

/-- Lifts a JSON value. -/
def ofJson : Json → Value
  | .null => .nil
  | .bool b => .bool b
  | .number n => ofNumber n
  | .string text => .string text
  | .array items => .sequence (ofItems items)
  | .object fields =>
    match Object.ofJson? (.object fields) with
    | some found => .object found
    | none => .map (ofFields fields)

/-- Lifts the items of an array. -/
def ofItems : List Json → List Value
  | [] => []
  | item :: items => ofJson item :: ofItems items

/-- Lifts the fields of an object. -/
def ofFields : Fields → List (String × Value)
  | [] => []
  | (name, value) :: fields => (name, ofJson value) :: ofFields fields

end

mutual

/-- Lowers a value to JSON.  Dates become timestamps. -/
def toJson : Value → Json
  | .nil => .null
  | .bool b => .bool b
  | .integer n => .int n
  | .float x => .number (.real x)
  | .string text => .string text
  | .date m => .string (Timestamp.write false m)
  | .sequence items => .array (toItems items)
  | .map entries => .object (toFields entries)
  | .object o => o.toJson

/-- Lowers the items of a sequence. -/
def toItems : List Value → List Json
  | [] => []
  | item :: items => toJson item :: toItems items

/-- Lowers the entries of a map. -/
def toFields : List (String × Value) → Fields
  | [] => []
  | (name, value) :: entries => (name, toJson value) :: toFields entries

end

def isNil : Value → Bool
  | .nil => true
  | _ => false

/-- The text of a string. -/
def str? : Value → Option String
  | .string text => some text
  | _ => none

/-- The date of a value: dates themselves, timestamps, and integers as seconds since 1970. -/
def asDate? : Value → Option Moment
  | .date m => some m
  | .string text => Timestamp.read? text
  | .integer seconds => Moment.ofSeconds? seconds
  | _ => none

/-- The name of a value's kind. -/
def kindName : Value → String
  | .nil => "nil"
  | .bool _ => "boolean"
  | .integer _ => "integer"
  | .float _ => "float"
  | .string _ => "string"
  | .date _ => "date"
  | .sequence _ => "sequence"
  | .map _ => "map"
  | .object o => o.kindName

/-- The plain text of a value. -/
def display : Value → String
  | .nil => ""
  | .bool b => toString b
  | .integer n => toString n
  | .float x => Layout.plain.write x
  | .string text => text
  | .date m => Timestamp.write false m
  | value => value.toJson.compress

/-- The value of a name in a map. -/
def named? (key : String) : List (String × Value) → Option Value
  | [] => none
  | (name, value) :: entries => if name = key then some value else named? key entries

/-- An id as a value. -/
def ofId (oid : ObjectId) : Value :=
  .string oid.text

/-- A value that may be missing. -/
def ofOption {α : Type} (lift : α → Value) : Option α → Value
  | some a => lift a
  | none => .nil

end Value

/-- A field of a signature. -/
def Git.Signature.field? (key : String) (s : Signature) : Option Value :=
  match key with
  | "name" => some (.string s.name)
  | "email" => some (.string s.email)
  | "time" => some (.date s.time)
  | _ => none

/-- A signature as a value: the map of its fields. -/
def Value.ofSignature (s : Signature) : Value :=
  .map (["name", "email", "time"].filterMap fun key => (s.field? key).map fun field => (key, field))

namespace Git

/-- A field of a pointer. -/
def Pointer.field? (key : String) (p : Pointer) : Option Value :=
  match key with
  | "oid" => some (Value.ofId p.oid)
  | "type" => some (.string p.kind.name)
  | _ => none

/-- A field of a commit. -/
def Commit.field? (key : String) (c : Commit) : Option Value :=
  match key with
  | "oid" => some (Value.ofId c.oid)
  | "type" => some (.string "commit")
  | "tree" => some (Value.ofOption Value.ofId c.tree)
  | "parents" => some (.sequence (c.parents.map Value.ofId))
  | "author" => some (Value.ofSignature c.author)
  | "committer" => some (Value.ofSignature c.committer)
  | "date" => some (.date c.date)
  | "summary" => some (.string c.summary)
  | "message" => some (.string c.message)
  | _ => none

/-- A field of a tag. -/
def Tag.field? (key : String) (t : Tag) : Option Value :=
  match key with
  | "oid" => some (Value.ofId t.oid)
  | "type" => some (.string "tag")
  | "name" => some (.string t.name)
  | "target" => some (.object (.pointer t.target))
  | "tagger" => some (Value.ofOption Value.ofSignature t.tagger)
  | "message" => some (.string t.message)
  | _ => none

/-- A field of a note. -/
def Note.field? (key : String) (n : Note) : Option Value :=
  match key with
  | "oid" => some (Value.ofId n.oid)
  | "type" => some (.string "note")
  | "target" => some (Value.ofId n.target)
  | "committer" => some (Value.ofSignature n.committer)
  | "message" => some (.string n.message)
  | _ => none

/-- A field of an object. -/
def Object.field? (key : String) : Object → Option Value
  | commit c => c.field? key
  | tag t => t.field? key
  | note n => n.field? key
  | pointer p => p.field? key

end Git

namespace Value

/-- A value unless it is nil. -/
def unlessNil (value : Value) : Option Value :=
  if value.isNil then none else some value

/-- A field of a map or an object that is there and not nil. -/
def lookup? (key : String) : Value → Option Value
  | .map entries => (named? key entries).bind unlessNil
  | .object o => (o.field? key).bind unlessNil
  | _ => none

end Value

end ReleasePress
