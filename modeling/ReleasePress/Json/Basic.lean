import ReleasePress.Decimal.Layout

/-!
# JSON values

The data that templates see, that front matter and context files hold, and that Git objects are
encoded as.  The fields of an object keep the order in which they were added.

## Main declarations

* `Json.Number`: an integer or a finite double; the two never compare equal as data.
* `Json`: the values.
* `Json.get?`, `Json.insertField`: fields by name; a field that is set again keeps its place.
-/

namespace ReleasePress

/-- A number of JSON data. -/
inductive Json.Number where
  | integer (value : Int)
  | real (value : Double)
  deriving DecidableEq

/-- A JSON value. -/
inductive Json where
  | null
  | bool (value : Bool)
  | number (value : Json.Number)
  | string (text : String)
  | array (items : List Json)
  | object (fields : List (String × Json))
  deriving Inhabited

/-- The fields of an object, in their order. -/
abbrev Fields := List (String × Json)

namespace Json

/-- An integer as a JSON value. -/
def int (value : Int) : Json :=
  .number (.integer value)

/-- A float as a JSON value; what is not finite becomes null. -/
def ofFloat (value : Float) : Json :=
  match Double.ofFloat? value with
  | some x => .number (.real x)
  | none => .null

/-- The value of a field. -/
def field? (key : String) : Fields → Option Json
  | [] => none
  | (name, value) :: fields => if name = key then some value else field? key fields

/-- The field of an object; other values have none. -/
def get? (key : String) : Json → Option Json
  | .object fields => field? key fields
  | _ => none

/-- The text of a string value. -/
def str? : Json → Option String
  | .string text => some text
  | _ => none

/-- Sets a field: in its place if the object has it, at the end otherwise. -/
def insertField (key : String) (value : Json) : Fields → Fields
  | [] => [(key, value)]
  | (name, old) :: fields =>
    if name = key then (name, value) :: fields else (name, old) :: insertField key value fields

/-- The object of a list of fields in which a later value for a name replaces the earlier one. -/
def objectOf (fields : Fields) : Json :=
  .object (fields.foldl (fun acc (name, value) => insertField name value acc) [])

/-- Integers of 64 bits with a sign. -/
def isSigned64 (n : Int) : Bool :=
  -9223372036854775808 ≤ n && n < 9223372036854775808

/-- Integers of 64 bits without a sign. -/
def isUnsigned64 (n : Int) : Bool :=
  0 ≤ n && n < 18446744073709551616

/-- A number as a float; integers are rounded to the nearest one. -/
def Number.toFloat : Number → Float
  | .integer n => Float.ofInt n
  | .real x => x.value

end Json

end ReleasePress
