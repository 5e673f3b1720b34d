import ReleasePress.Json.Writer
import ReleasePress.Text.Split

/-!
# Values as templates see them

How a value is shown where a template writes it, when it counts as true, and how a path is followed
into it.

## Main declarations

* `Json.display`: the text of a value in a document.
* `Json.isTruthy`: whether a condition holds for a value.
* `Json.follow?`: the value at the end of a path.
* `Json.same`: equality up to the order of fields.
-/

namespace ReleasePress.Json

/-- The plain text of a number: no exponent and no fraction of zero. -/
def Number.display : Number → String
  | .integer n => toString n
  | .real x => Layout.plain.write x

mutual

/-- The text of a value in a document.  Null is nothing at all, and objects are not written out. -/
def display : Json → String
  | .null => ""
  | .bool true => "true"
  | .bool false => "false"
  | .number n => n.display
  | .string text => text
  | .array items => "[" ++ ", ".intercalate (displayItems items) ++ "]"
  | .object _ => "[object]"

/-- The texts of the items of an array. -/
def displayItems : List Json → List String
  | [] => []
  | item :: items => display item :: displayItems items

end

/-- Whether a condition holds for a value: zero, null and everything empty are false. -/
def isTruthy : Json → Bool
  | .null => false
  | .bool b => b
  | .number (.integer n) => n != 0
  | .number (.real x) => x.value != 0.0
  | .string text => !text.isEmpty
  | .array items => !items.isEmpty
  | .object fields => !fields.isEmpty

/-- The index that digits name: no sign and no superfluous zero. -/
def index? (digits : String) : Option Nat :=
  match digits.toList with
  | ['0'] => some 0
  | '0' :: _ => none
  | cs =>
    if cs.isEmpty || !cs.all Text.isDigit then none
    else
      let n := Text.digitsValue cs
      if n < Nat.pow 2 64 then some n else none

/-- The value at the end of a path of names and indices. -/
def follow? : List String → Json → Option Json
  | [], value => some value
  | key :: path, .object fields => (field? key fields).bind (follow? path)
  | key :: path, .array items => ((index? key).bind fun i => items[i]?).bind (follow? path)
  | _ :: _, _ => none

/-- The names and indices between the dots of a path.  Dots between double quotes do not count. -/
def pathFrom (quoted : Bool) (key : List Char) : List Char → List String
  | [] => if key.isEmpty then [] else [String.ofList key.reverse]
  | c :: text =>
    if c = '"' then pathFrom (!quoted) key text
    else if c = '.' && !quoted then String.ofList key.reverse :: pathFrom false [] text
    else pathFrom quoted (c :: key) text

/-- The names and indices of a dotted path. -/
def dotted (path : String) : List String :=
  pathFrom false [] path.toList

mutual

/-- Equality up to the order of fields.  An integer differs from a float. -/
def same : Json → Json → Bool
  | .null, .null => true
  | .bool a, .bool b => a == b
  | .number (.integer a), .number (.integer b) => a == b
  | .number (.real a), .number (.real b) => a.value == b.value
  | .string a, .string b => a == b
  | .array as, .array bs => sameItems as bs
  | .object as, .object bs => as.length == bs.length && sameFields as bs
  | _, _ => false

/-- Equality of arrays. -/
def sameItems : List Json → List Json → Bool
  | [], [] => true
  | a :: as, b :: bs => same a b && sameItems as bs
  | _, _ => false

/-- Whether all fields are also fields of another object. -/
def sameFields : Fields → Fields → Bool
  | [], _ => true
  | (name, a) :: as, bs =>
    (match field? name bs with
      | some b => same a b
      | none => false) && sameFields as bs

end

end ReleasePress.Json
