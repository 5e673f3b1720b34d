import ReleasePress.Json.Basic

/-!
# JSON text

The text of a JSON value, compact or indented.  Control characters, quotes and backslashes in strings
are escaped; every other character stands for itself.

## Main declarations

* `Json.compress`: no white space at all.
* `Json.indented`: one item or field a line, two spaces a level.
-/

namespace ReleasePress.Json

/-- Two hexadecimal digits of a control character. -/
def hexPair (n : Nat) : List Char :=
  [(Nat.digitChar (n / 16)), (Nat.digitChar (n % 16))]

/-- A character inside a JSON string. -/
def escapeChar (c : Char) : List Char :=
  match c with
  | '"' => ['\\', '"']
  | '\\' => ['\\', '\\']
  | '\n' => ['\\', 'n']
  | '\r' => ['\\', 'r']
  | '\t' => ['\\', 't']
  | '\x08' => ['\\', 'b']
  | '\x0c' => ['\\', 'f']
  | c => if c.toNat < 0x20 then ['\\', 'u', '0', '0'] ++ hexPair c.toNat else [c]

/-- A string between quotes. -/
def quote (text : String) : String :=
  String.ofList ('"' :: text.toList.flatMap escapeChar ++ ['"'])

/-- The text of a number. -/
def Number.write : Number → String
  | .integer n => toString n
  | .real x => Layout.json.write x

mutual

/-- The text of a value without white space. -/
def compress : Json → String
  | .null => "null"
  | .bool true => "true"
  | .bool false => "false"
  | .number n => n.write
  | .string text => quote text
  | .array items => "[" ++ ",".intercalate (compressItems items) ++ "]"
  | .object fields => "\x7b" ++ ",".intercalate (compressFields fields) ++ "\x7d"

/-- The texts of the items of an array. -/
def compressItems : List Json → List String
  | [] => []
  | item :: items => compress item :: compressItems items

/-- The texts of the fields of an object. -/
def compressFields : Fields → List String
  | [] => []
  | (name, value) :: fields => (quote name ++ ":" ++ compress value) :: compressFields fields

end

/-- The line break before an item of the given depth. -/
def breakAt (depth : Nat) : String :=
  "\n" ++ String.ofList (List.replicate (2 * depth) ' ')

mutual

/-- The indented text of a value at a depth. -/
def indentedAt (depth : Nat) : Json → String
  | .array [] => "[]"
  | .array items =>
    "[" ++ ",".intercalate (indentedItems (depth + 1) items) ++ breakAt depth ++ "]"
  | .object [] => "\x7b\x7d"
  | .object fields =>
    "\x7b" ++ ",".intercalate (indentedFields (depth + 1) fields) ++ breakAt depth ++ "\x7d"
  | .null => "null"
  | .bool true => "true"
  | .bool false => "false"
  | .number n => n.write
  | .string text => quote text

/-- The indented texts of the items of an array. -/
def indentedItems (depth : Nat) : List Json → List String
  | [] => []
  | item :: items => (breakAt depth ++ indentedAt depth item) :: indentedItems depth items

/-- The indented texts of the fields of an object. -/
def indentedFields (depth : Nat) : Fields → List String
  | [] => []
  | (name, value) :: fields =>
    (breakAt depth ++ quote name ++ ": " ++ indentedAt depth value) :: indentedFields depth fields

end

/-- The text of a value with one item or field a line. -/
def indented (value : Json) : String :=
  indentedAt 0 value

end ReleasePress.Json
