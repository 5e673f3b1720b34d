import ReleasePress.Json.Display

/-!
# Subjects and arguments of operations

Operations check the kinds of what they are given and say what is wrong.

## Main declarations

* `Operation`: the result of a value and named arguments.
* `Kind`: the kinds that operations ask for.
* `subject`, `required`, `argument`: a value of a kind, or what is wrong with it.
-/

namespace ReleasePress.Template

/-- The result of a value and named arguments, or what is wrong. -/
abbrev Operation := Json → Fields → Except String Json

/-- A kind of values with its name in messages. -/
structure Kind (α : Type) where
  name : String
  read? : Json → Option α

namespace Kind

def text : Kind String := ⟨"String", Json.str?⟩

def truth : Kind Bool where
  name := "bool"
  read?
    | .bool b => some b
    | _ => none

def list : Kind (List Json) where
  name := "Vec<Value>"
  read?
    | .array items => some items
    | _ => none

/-- Integers of a range. -/
def integer (name : String) (low high : Int) : Kind Int where
  name
  read?
    | .number (.integer n) => if low ≤ n && n ≤ high then some n else none
    | _ => none

/-- Integers that count something. -/
def count : Kind Nat where
  name := "usize"
  read? value := ((integer "usize" 0 18446744073709551615).read? value).map Int.toNat

/-- Numbers, as doubles. -/
def number : Kind Float where
  name := "f64"
  read?
    | .number n => some n.toFloat
    | _ => none

end Kind

/-- The subject of an operation. -/
def subject {α : Type} (operation : String) (kind : Kind α) (value : Json) : Except String α :=
  match kind.read? value with
  | some a => .ok a
  | none =>
    .error ("Filter \x60" ++ operation ++ "\x60 was called on an incorrect value: got \x60" ++
      value.compress ++ "\x60 but expected a " ++ kind.name)

/-- A value given as an argument. -/
def given {α : Type} (operation name : String) (kind : Kind α) (value : Json) : Except String α :=
  match kind.read? value with
  | some a => .ok a
  | none =>
    .error ("Filter \x60" ++ operation ++ "\x60 received an incorrect type for arg \x60" ++ name ++
      "\x60: got \x60" ++ value.compress ++ "\x60 but expected a " ++ kind.name)

/-- An argument that may be missing. -/
def argument? {α : Type} (operation name : String) (kind : Kind α) (arguments : Fields) :
    Except String (Option α) :=
  match Json.field? name arguments with
  | none => .ok none
  | some value => (given operation name kind value).map some

/-- An argument with a value for when it is missing. -/
def argument {α : Type} (operation name : String) (kind : Kind α) (default : α)
    (arguments : Fields) : Except String α :=
  (argument? operation name kind arguments).map (·.getD default)

/-- A missing argument, in the way of operations on texts. -/
def expected (operation name : String) : String :=
  "Filter \x60" ++ operation ++ "\x60 expected an arg called \x60" ++ name ++ "\x60"

/-- A missing argument, in the way of operations on lists. -/
def unmet (operation name : String) : String :=
  "The \x60" ++ operation ++ "\x60 filter has to have an \x60" ++ name ++ "\x60 argument"

/-- An argument that must be there; `missing` is the message for when it is not. -/
def required {α : Type} (operation name missing : String) (kind : Kind α) (arguments : Fields) :
    Except String α :=
  match Json.field? name arguments with
  | none => .error missing
  | some value => given operation name kind value

/-- A text argument in which `\n` and `\t` stand for a line break and a tab. -/
def unescaped (text : String) : List Char :=
  Text.replaceAll ['\\', 't'] ['\t'] (Text.replaceAll ['\\', 'n'] ['\n'] text.toList)

end ReleasePress.Template
