import ReleasePress.Decimal.Layout

/-!
# Expressions of templates

What stands between the marks of a template: literals, references into the context, arithmetic,
comparisons, tests and calls.  A value is sent through filters from left to right.

## Main declarations

* `Reference`: a path into the context, such as `commit.parents[0]`.
* `Expression`: a term, its filters, and whether the result is negated.
* `Term`, `Call`: what an expression is made of.
-/

namespace ReleasePress.Template

mutual

/-- A path into the context. -/
inductive Reference where
  /-- The path as it is spelled, the name it starts with, and the steps from there. -/
  | path (spelling head : String) (steps : List Step)

/-- A step into a value. -/
inductive Step where
  /-- The field or the index after a dot. -/
  | dot (name : String)
  /-- An integer in brackets. -/
  | index (digits : String)
  /-- A text in brackets. -/
  | key (text : String)
  /-- A reference in brackets, whose value is the field or the index. -/
  | computed (reference : Reference)

end

/-- The path as it is spelled. -/
def Reference.spelling : Reference → String
  | path spelling _ _ => spelling

/-- An operator of arithmetic. -/
inductive Operator where
  | add
  | subtract
  | multiply
  | divide
  | modulo
  deriving DecidableEq, Repr

namespace Operator

/-- Whether an operator is applied before sums and differences. -/
def isTight : Operator → Bool
  | add | subtract => false
  | multiply | divide | modulo => true

end Operator

/-- A relation between two values. -/
inductive Relation where
  | less
  | lessOrEqual
  | greater
  | greaterOrEqual
  | equal
  | different
  deriving DecidableEq, Repr

mutual

/-- A term that is sent through filters.  If `negated`, the result is whether that is not truthy. -/
inductive Expression where
  | mk (term : Term) (negated : Bool) (filters : List Call)

/-- What a value comes from. -/
inductive Term where
  | text (text : String)
  | integer (value : Int)
  | real (value : Double)
  | truth (value : Bool)
  | reference (reference : Reference)
  | list (items : List Expression)
  /-- Texts, numbers, references and calls joined to one text. -/
  | joined (parts : List Term)
  | arithmetic (operator : Operator) (left right : Expression)
  | comparison (relation : Relation) (left right : Expression)
  | either (left right : Expression)
  | both (left right : Expression)
  /-- Whether a value is in a container, or is not in it. -/
  | member (inside : Bool) (item container : Expression)
  /-- Whether what a reference leads to, if anything, passes a test, or does not pass it. -/
  | test (passing : Bool) (subject : Reference) (name : String) (arguments : List Expression)
  | call (call : Call)
  /-- The text of a macro of a namespace. -/
  | expansion (space : String) (call : Call)

/-- A name with named arguments. -/
inductive Call where
  | mk (name : String) (arguments : List (String × Expression))

end

namespace Call

/-- The name that is called. -/
def name : Call → String
  | mk name _ => name

/-- The arguments by name. -/
def arguments : Call → List (String × Expression)
  | mk _ arguments => arguments

/-- The argument of a name; of several the last one counts. -/
def argument? (name : String) (call : Call) : Option Expression :=
  call.arguments.reverse.lookup name

/-- The arguments with each name once, at its first place and with its last value. -/
def distinctArguments (call : Call) : List (String × Expression) :=
  (call.arguments.map (·.1)).eraseDups.filterMap fun name =>
    (call.argument? name).map fun value => (name, value)

end Call

namespace Expression

/-- A term without filters. -/
def ofTerm (term : Term) : Expression :=
  mk term false []

def term : Expression → Term
  | mk term _ _ => term

def negated : Expression → Bool
  | mk _ negated _ => negated

def filters : Expression → List Call
  | mk _ _ filters => filters

/-- The same expression, negated. -/
def negate : Expression → Expression
  | mk term _ filters => mk term true filters

/-- What stands in for a missing value or null: the `default` filter, if it is the first. -/
def fallback? (expression : Expression) : Option Call :=
  match expression.filters with
  | call :: _ => if call.name = "default" then some call else none
  | [] => none

end Expression

/-- Operands between operators as one operand: tight operators first, otherwise from the left. -/
def climb {ω α : Type} (isTight : ω → Bool) (combine : ω → α → α → α) (first : α)
    (rest : List (ω × α)) : α :=
  let join (loose : Option (α × ω)) (current : α) : α := match loose with
    | some (total, operator) => combine operator total current
    | none => current
  let step (state : Option (α × ω) × α) (next : ω × α) : Option (α × ω) × α :=
    if isTight next.1 then (state.1, combine next.1 state.2 next.2)
    else (some (join state.1 state.2, next.1), next.2)
  let (loose, current) := rest.foldl step (none, first)
  join loose current

end ReleasePress.Template
