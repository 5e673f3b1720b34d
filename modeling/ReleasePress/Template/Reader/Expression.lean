import ReleasePress.Decimal.Reader
import ReleasePress.Json.Basic
import ReleasePress.Template.Expression
import ReleasePress.Template.Reader.Basic

/-!
# Reading expressions

The grammar of expressions.  Alternatives are tried in order and never again once one of them has held,
so the order is part of the grammar: literals for truth come before references, and memberships before
comparisons.

## Main declarations

* `Reader.condition`: any expression but a list.
* `Reader.value`: a condition or a list.
-/

namespace ReleasePress.Template.Reader

open ReleasePress.Text

mutual

/-- A reference, in which no white space may stand. -/
def reference : Nat → Reader Reference
  | 0 => failure
  | fuel + 1 => fun text =>
    match (do
      let head ← name
      let steps ← many (step fuel)
      return (head, steps) : Reader (String × List Step)) text with
    | none => none
    | some ((head, steps), rest) =>
      let spelling := String.ofList (text.take (text.length - rest.length))
      some (.path spelling head steps, rest)

/-- A step of a reference. -/
def step : Nat → Reader Step
  | 0 => failure
  | fuel + 1 =>
    (do word "."; return .dot (← run isNamePart)) <|> (do
      word "["
      let inside ← (.index <$> integerText) <|> (.key <$> (quotedBy '"' <|> quotedBy '\'')) <|>
        (do
          let text ← quotedBy '\x60'
          let spelling := "\x60" ++ text ++ "\x60"
          return .computed (.path spelling spelling [])) <|>
        (.computed <$> reference fuel)
      word "]"
      return inside)

end

/-- An integer, which must fit 64 bits with its sign. -/
def integerLiteral : Reader Term := do
  match Numeral.integer? (← integerText) with
  | some n => if Json.isSigned64 n then return .integer n else failure
  | none => failure

/-- A number with a fraction. -/
def realLiteral : Reader Term := do
  match (Numeral.float? (← realText)).bind Double.ofFloat? with
  | some x => return .real x
  | none => failure

/-- A literal for truth. -/
def truthLiteral : Reader Term :=
  (do word "true"; return .truth true) <|> (do word "false"; return .truth false) <|>
    (do word "True"; return .truth true) <|> (do word "False"; return .truth false)

def operator : Reader Operator :=
  (do word "+"; return .add) <|> (do word "-"; return .subtract) <|>
    (do word "*"; return .multiply) <|> (do word "/"; return .divide) <|>
    (do word "%"; return .modulo)

def relation : Reader Relation :=
  (do word "<="; return .lessOrEqual) <|> (do word ">="; return .greaterOrEqual) <|>
    (do word "<"; return .less) <|> (do word ">"; return .greater) <|>
    (do word "=="; return .equal) <|> (do word "!="; return .different)

/-- The word of a negation or of a connective, which white space must follow. -/
def keyword (w : String) : Reader Unit := do
  word w
  oneGap

/-- Two operands of an operator as a term. -/
def arithmetic (operator : Operator) (left right : Term) : Term :=
  .arithmetic operator (.ofTerm left) (.ofTerm right)

/-- Two operands of a connective, `true` standing for "and". -/
def connect (both : Bool) (left right : Expression) : Expression :=
  .ofTerm (if both then .both left right else .either left right)

mutual

/-- Conditions joined by "and" and "or". -/
def condition : Nat → Reader Expression
  | 0 => failure
  | fuel + 1 => do
    let first ← operand fuel
    let rest ← many (do
      gap
      let both ← (do keyword "or"; return false) <|> (do keyword "and"; return true)
      let right ← spaced (operand fuel)
      return (both, right))
    return climb id connect first rest

/-- A membership or a comparison, which may be negated, or a condition in parentheses. -/
def operand : Nat → Reader Expression
  | 0 => failure
  | fuel + 1 =>
    (do
      let negated ← given (keyword "not")
      let inside ← spaced (membership fuel <|> comparison fuel)
      return if negated then inside.negate else inside) <|>
    (do
      word "("
      let inside ← spaced (condition fuel)
      symbol ")"
      return inside)

/-- Whether a value is in a container. -/
def membership : Nat → Reader Expression
  | 0 => failure
  | fuel + 1 => do
    let item ← joinedValue fuel <|> simpleValue fuel
    gap
    let outside ← given (keyword "not")
    symbol "in"
    let container ← spaced (joinedValue fuel <|> listValue fuel <|>
      (do return .ofTerm (.reference (← reference fuel))))
    return .ofTerm (.member (!outside) item container)

/-- A value, perhaps compared with another one. -/
def comparison : Nat → Reader Expression
  | 0 => failure
  | fuel + 1 => do
    let left ← joinedValue fuel <|> sum fuel
    let right ← optional (do
      gap
      let relation ← relation
      let right ← spaced (joinedValue fuel <|> sum fuel)
      return (relation, right))
    match right with
    | some (relation, right) => return .ofTerm (.comparison relation left right)
    | none => return left

/-- Filtered values between operators. -/
def sum : Nat → Reader Expression
  | 0 => failure
  | fuel + 1 => do
    let first ← simpleValue fuel
    let rest ← many (do
      gap
      let operator ← operator
      let right ← spaced (simpleValue fuel)
      return (operator, right))
    let combine (operator : Operator) (left right : Expression) : Expression :=
      .ofTerm (.arithmetic operator left right)
    return climb Operator.isTight combine first rest

/-- Terms between operators, sent through filters. -/
def simpleValue : Nat → Reader Expression
  | 0 => failure
  | fuel + 1 => do
    let term ← arithmeticTerm fuel
    let filters ← filters fuel
    return .mk term false filters

/-- Terms between operators. -/
def arithmeticTerm : Nat → Reader Term
  | 0 => failure
  | fuel + 1 => do
    let first ← factor fuel
    let rest ← many (do
      gap
      let operator ← operator
      let right ← spaced (factor fuel)
      return (operator, right))
    return climb Operator.isTight arithmetic first rest

/-- A term without operators, or terms in parentheses. -/
def factor : Nat → Reader Term
  | 0 => failure
  | fuel + 1 =>
    (do
      word "("
      let inside ← spaced (arithmeticTerm fuel)
      symbol ")"
      return inside) <|>
    truthLiteral <|> testing fuel <|> expansion fuel <|> (.call <$> call fuel) <|>
    (.reference <$> reference fuel) <|> realLiteral <|> integerLiteral

/-- Whether a reference passes a test. -/
def testing : Nat → Reader Term
  | 0 => failure
  | fuel + 1 =>
    (do
      let subject ← reference fuel
      symbol "is"
      symbol "not"
      let (name, arguments) ← spaced (testCall fuel)
      return .test false subject name arguments) <|>
    (do
      let subject ← reference fuel
      symbol "is"
      let (name, arguments) ← spaced (testCall fuel)
      return .test true subject name arguments)

/-- The name of a test and its arguments. -/
def testCall : Nat → Reader (String × List Expression)
  | 0 => failure
  | fuel + 1 => do
    let name ← name
    let arguments ← optional (do
      symbol "("
      let arguments ← spaced (separated (condition fuel <|> listValue fuel))
      symbol ")"
      return arguments)
    return (name, arguments.getD [])

/-- A macro of a namespace with its arguments. -/
def expansion : Nat → Reader Term
  | 0 => failure
  | fuel + 1 => do
    let space ← name
    symbol "::"
    let call ← spaced (call fuel)
    return .expansion space call

/-- A name with named arguments in parentheses. -/
def call : Nat → Reader Call
  | 0 => failure
  | fuel + 1 => do
    let name ← name
    symbol "("
    let arguments ← optional (spaced (separated (do
      let key ← Reader.name
      symbol "="
      let value ← spaced (condition fuel <|> listValue fuel)
      return (key, value))))
    if arguments.isSome then let _ ← given (symbol ",")
    symbol ")"
    return .mk name (arguments.getD [])

/-- The filters after a value. -/
def filters : Nat → Reader (List Call)
  | 0 => failure
  | fuel + 1 =>
    many (do
      symbol "|"
      spaced (call fuel <|> (do return .mk (← name) [])))

/-- A text or several parts joined by tildes, sent through filters. -/
def joinedValue : Nat → Reader Expression
  | 0 => failure
  | fuel + 1 => do
    let term ← joined fuel <|> (.text <$> quoted)
    let filters ← filters fuel
    return .mk term false filters

/-- At least two parts joined by tildes. -/
def joined : Nat → Reader Term
  | 0 => failure
  | fuel + 1 => do
    let first ← part fuel
    let second ← (do symbol "~"; spaced (part fuel))
    let rest ← many (do symbol "~"; spaced (part fuel))
    return .joined (first :: second :: rest)

/-- A part of a joined text. -/
def part : Nat → Reader Term
  | 0 => failure
  | fuel + 1 =>
    (.call <$> call fuel) <|> realLiteral <|> integerLiteral <|> (.text <$> quoted) <|>
      (.reference <$> reference fuel)

/-- A list sent through filters. -/
def listValue : Nat → Reader Expression
  | 0 => failure
  | fuel + 1 => do
    word "["
    let items ← optional (spaced (separated (operand fuel)))
    let _ ← given (symbol ",")
    symbol "]"
    let filters ← filters fuel
    return .mk (.list (items.getD [])) false filters

end

/-- A condition or a list. -/
def value (fuel : Nat) : Reader Expression :=
  condition fuel <|> listValue fuel

/-- A list or terms that a loop can run through. -/
def container (fuel : Nat) : Reader Expression :=
  simpleValue fuel <|> listValue fuel

end ReleasePress.Template.Reader
