import ReleasePress.Decimal.Remainder
import ReleasePress.Json.Display
import ReleasePress.Text.RegularExpression.Reader

/-!
# Tests

A test tells whether a value, which may be missing, has a property.

## Main declarations

* `Test`: the tests, with `Test.name`.
* `Test.passes`: whether a value passes a test.
-/

namespace ReleasePress.Template

/-- The tests. -/
inductive Test where
  | defined
  | undefined
  | odd
  | even
  | string
  | number
  | divisibleBy
  | iterable
  | object
  | startingWith
  | endingWith
  | containing
  | matching
  deriving DecidableEq, Repr

namespace Test

/-- All tests. -/
def all : List Test :=
  [defined, undefined, odd, even, string, number, divisibleBy, iterable, object, startingWith,
    endingWith, containing, matching]

/-- The name that templates use. -/
def name : Test → String
  | defined => "defined"
  | undefined => "undefined"
  | odd => "odd"
  | even => "even"
  | string => "string"
  | number => "number"
  | divisibleBy => "divisibleby"
  | iterable => "iterable"
  | object => "object"
  | startingWith => "starting_with"
  | endingWith => "ending_with"
  | containing => "containing"
  | matching => "matching"

/-- The test with a name. -/
def ofName? (name : String) : Option Test :=
  all.find? fun test => test.name == name

/-- How many arguments a test takes. -/
def arity : Test → Nat
  | divisibleBy | startingWith | endingWith | containing | matching => 1
  | _ => 0

/-- The name in messages: evenness is told from oddness. -/
def shownName : Test → String
  | even => "odd"
  | test => test.name

/-- What is wrong with a use of a test. -/
def wrong (test : Test) (reason : String) : String :=
  "Tester \x60" ++ test.shownName ++ "\x60 was called " ++ reason

/-- What is wrong with a number of arguments. -/
def excess? (test : Test) (count : Nat) : Option String :=
  if test.arity = 0 && count > 0 then
    some (test.wrong "with some args but this test doesn't take args")
  else if count > test.arity then
    some (test.wrong ("with " ++ toString count ++ " args, the max number is " ++ toString test.arity))
  else none

/-- The number of a value as a double. -/
def double? : Json → Option Double
  | .number n => Double.ofFloat? n.toFloat
  | _ => none

/-- Whether a number is a multiple of another one. -/
def isMultiple (x y : Double) : Bool :=
  match x.remainder y with
  | some r => r.value == 0.0
  | none => false

/-- Whether a number is odd. -/
def isOdd (test : Test) (value : Json) : Except String Bool :=
  match double? value, Double.ofFloat? 2.0 with
  | some x, some two => .ok (!isMultiple x two)
  | _, _ => .error (test.wrong "on a variable that isn't a number")

/-- The text that a test is given as its argument. -/
def needle (test : Test) (arguments : List Json) : Except String (List Char) :=
  match arguments.head?.bind Json.str? with
  | some text => .ok text.toList
  | none => .error (test.wrong "with a parameter that isn't a string")

/-- A property of two texts. -/
def ofTexts (test : Test) (holds : List Char → List Char → Bool) (value : Json)
    (arguments : List Json) : Except String Bool :=
  match value with
  | .string text => (test.needle arguments).map fun needle => holds needle text.toList
  | _ => .error (test.wrong "on a variable that isn't a string")

/-- Whether a value that is there passes a test. -/
def passesFor (test : Test) (value : Json) (arguments : List Json) : Except String Bool :=
  match test with
  | defined => .ok true
  | undefined => .ok false
  | odd => test.isOdd value
  | even => (test.isOdd value).map not
  | string => .ok (match value with | .string _ => true | _ => false)
  | number => .ok (match value with | .number _ => true | _ => false)
  | divisibleBy =>
    match double? value, arguments.head?.bind double? with
    | none, _ => .error (test.wrong "on a variable that isn't a number")
    | _, none => .error (test.wrong "with a parameter that isn't a number")
    | some x, some y => .ok (isMultiple x y)
  | iterable => .ok (match value with | .array _ | .object _ => true | _ => false)
  | object => .ok (match value with | .object _ => true | _ => false)
  | startingWith =>
    test.ofTexts (fun needle text => (Text.dropHead? needle text).isSome) value arguments
  | endingWith =>
    test.ofTexts (fun needle text => (Text.dropTail? needle text).isSome) value arguments
  | containing =>
    match value with
    | .string text => (test.needle arguments).map fun needle => Text.contains needle text.toList
    | .array items =>
      match arguments with
      | wanted :: _ => .ok (items.any (Json.same wanted))
      | [] => .error (test.wrong "without a parameter")
    | .object fields =>
      (test.needle arguments).map fun needle =>
        (Json.field? (String.ofList needle) fields).isSome
    | _ => .error "Tester \x60containing\x60 can only be used on string, array or map"
  | matching =>
    match value with
    | .string text => do
      let written ← test.needle arguments
      match Text.RegularExpression.read written with
      | .ok expression => return expression.occursIn text.toList
      | .error fault =>
        .error ("Tester \x60matching\x60: Invalid regular expression: " ++ fault.report written)
    | _ => .error (test.wrong "on a variable that isn't a string")

/-- Whether a value, which may be missing, passes a test. -/
def passes (test : Test) (value : Option Json) (arguments : List Json) : Except String Bool :=
  match test.excess? arguments.length, value with
  | some reason, _ => .error reason
  | none, some value => test.passesFor value arguments
  | none, none =>
    match test with
    | defined => .ok false
    | undefined => .ok true
    | test => .error (test.wrong "on an undefined variable")

end Test

end ReleasePress.Template
