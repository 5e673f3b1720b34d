import ReleasePress.Json.Display
import ReleasePress.Template.Expression

/-!
# Outlines

Messages about expressions without a name show their structure, and messages about values show the
values with their kinds.

## Main declarations

* `Expression.outline`, `Json.outline`: the structure of an expression and of a value.
-/

namespace ReleasePress

/-- A text between quotes, in which only what cannot be seen is escaped. -/
def quotedOutline (text : String) : String :=
  let escape (c : Char) : List Char := match c with
    | '"' => ['\\', '"']
    | '\\' => ['\\', '\\']
    | '\n' => ['\\', 'n']
    | '\r' => ['\\', 'r']
    | '\t' => ['\\', 't']
    | '\x00' => ['\\', '0']
    | c =>
      if c.toNat < 0x20 || c.toNat = 0x7F then
        "\\u\x7b".toList ++ Nat.toDigits 16 c.toNat ++ ['\x7d']
      else [c]
  String.ofList ('"' :: text.toList.flatMap escape ++ ['"'])

/-- A list in brackets. -/
def listOutline (items : List String) : String :=
  "[" ++ ", ".intercalate items ++ "]"

/-- Named parts in braces. -/
def partsOutline (name : String) (parts : List (String × String)) : String :=
  name ++ " \x7b " ++ ", ".intercalate (parts.map fun (key, part) => key ++ ": " ++ part) ++ " \x7d"

namespace Json

mutual

/-- A value with the kinds of its parts. -/
def outline : Json → String
  | .null => "Null"
  | .bool b => "Bool(" ++ toString b ++ ")"
  | .number n => "Number(" ++ n.write ++ ")"
  | .string text => "String(" ++ quotedOutline text ++ ")"
  | .array items => "Array " ++ listOutline (outlineItems items)
  | .object fields => "Object \x7b" ++ ", ".intercalate (outlineFields fields) ++ "\x7d"

/-- The items of an array. -/
def outlineItems : List Json → List String
  | [] => []
  | item :: items => outline item :: outlineItems items

/-- The fields of an object. -/
def outlineFields : Fields → List String
  | [] => []
  | (name, value) :: fields =>
    (quotedOutline name ++ ": " ++ outline value) :: outlineFields fields

end

end Json

namespace Template

def Operator.outline : Operator → String
  | add => "Add"
  | subtract => "Sub"
  | multiply => "Mul"
  | divide => "Div"
  | modulo => "Modulo"

def Relation.outline : Relation → String
  | less => "Lt"
  | lessOrEqual => "Lte"
  | greater => "Gt"
  | greaterOrEqual => "Gte"
  | equal => "Eq"
  | different => "NotEq"

/-- Two sides of an operator. -/
def sidesOutline (kind name left right operator : String) : String :=
  kind ++ "(" ++ partsOutline name [("lhs", left), ("rhs", right), ("operator", operator)] ++ ")"

mutual

/-- The structure of an expression. -/
def Expression.outline : Expression → String
  | .mk term negated filters =>
    partsOutline "Expr" [("val", term.outline), ("negated", toString negated),
      ("filters", listOutline (outlineCalls filters))]

/-- The structure of a term. -/
def Term.outline : Term → String
  | .text text => "String(" ++ quotedOutline text ++ ")"
  | .integer n => "Int(" ++ toString n ++ ")"
  | .real x => "Float(" ++ Layout.json.write x ++ ")"
  | .truth b => "Bool(" ++ toString b ++ ")"
  | .reference reference => "Ident(" ++ quotedOutline reference.spelling ++ ")"
  | .list items => "Array(" ++ listOutline (outlineAll items) ++ ")"
  | .joined parts =>
    "StringConcat(" ++ partsOutline "StringConcat" [("values", listOutline (outlineParts parts))] ++ ")"
  | .arithmetic operator left right =>
    sidesOutline "Math" "MathExpr" left.outline right.outline operator.outline
  | .comparison relation left right =>
    sidesOutline "Logic" "LogicExpr" left.outline right.outline relation.outline
  | .either left right => sidesOutline "Logic" "LogicExpr" left.outline right.outline "Or"
  | .both left right => sidesOutline "Logic" "LogicExpr" left.outline right.outline "And"
  | .member inside item container =>
    "In(" ++ partsOutline "In" [("lhs", item.outline), ("rhs", container.outline),
      ("negated", toString (!inside))] ++ ")"
  | .test passing subject name arguments =>
    "Test(" ++ partsOutline "Test" [("ident", quotedOutline subject.spelling),
      ("negated", toString (!passing)), ("name", quotedOutline name),
      ("args", listOutline (outlineAll arguments))] ++ ")"
  | .call call => "FunctionCall(" ++ call.outline ++ ")"
  | .expansion space (.mk name arguments) =>
    "MacroCall(" ++ partsOutline "MacroCall" [("namespace", quotedOutline space),
      ("name", quotedOutline name),
      ("args", "\x7b" ++ ", ".intercalate (outlineArguments arguments) ++ "\x7d")] ++ ")"

/-- The structure of a call. -/
def Call.outline : Call → String
  | .mk name arguments =>
    partsOutline "FunctionCall" [("name", quotedOutline name),
      ("args", "\x7b" ++ ", ".intercalate (outlineArguments arguments) ++ "\x7d")]

/-- The structures of some expressions. -/
def outlineAll : List Expression → List String
  | [] => []
  | expression :: rest => expression.outline :: outlineAll rest

/-- The structures of some terms. -/
def outlineParts : List Term → List String
  | [] => []
  | term :: rest => term.outline :: outlineParts rest

/-- The structures of some calls. -/
def outlineCalls : List Call → List String
  | [] => []
  | call :: rest => call.outline :: outlineCalls rest

/-- The structures of named arguments. -/
def outlineArguments : List (String × Expression) → List String
  | [] => []
  | (name, value) :: rest => (quotedOutline name ++ ": " ++ value.outline) :: outlineArguments rest

end

end Template

end ReleasePress
