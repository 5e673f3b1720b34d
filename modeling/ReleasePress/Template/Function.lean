import ReleasePress.Calendar.Timestamp
import ReleasePress.Circumstances
import ReleasePress.Json.Display

/-!
# Functions

Functions make values from named arguments and from the circumstances of a run: the clock, chance and the
variables of the process.

## Main declarations

* `Function`: what a function is.
* `functions`: the functions by name.
-/

namespace ReleasePress.Template

/-- The result of named arguments, or what is wrong. -/
abbrev Function := Circumstances → Fields → Except String Json

namespace Function

/-- A natural number given as an argument; `shown` is its name in the message. -/
def natural? (function name shown : String) (arguments : Fields) : Except String (Option Nat) :=
  match Json.field? name arguments with
  | none => .ok none
  | some value =>
    match value with
    | .number (.integer n) =>
      if 0 ≤ n then .ok (some n.toNat) else .error (wrong value)
    | _ => .error (wrong value)
where
  /-- What is wrong with the argument. -/
  wrong (value : Json) : String :=
    "Function \x60" ++ function ++ "\x60 received " ++ name ++ "=" ++ value.compress ++ " but \x60" ++ shown ++
      "\x60 can only be a number"

/-- The natural numbers from a start up to an end.  A step of zero stays where it is and gives nothing. -/
def range : Function := fun _ arguments => do
  let start := (← natural? "range" "start" "start" arguments).getD 0
  let step := (← natural? "range" "step_by" "step" arguments).getD 1
  match ← natural? "range" "end" "end" arguments with
  | none => .error "Function \x60range\x60 was called without a \x60end\x60 argument"
  | some stop =>
    if start > stop then
      .error ("Function \x60range\x60 was called with a \x60start\x60 argument greater than the " ++
        "\x60end\x60 one")
    else if step = 0 then return .array []
    else
      let count := (stop - start + step - 1) / step
      return .array ((List.range count).map fun i => .int (start + i * step : Nat))

/-- A text given as an argument. -/
def text (function name : String) (arguments : Fields) : Except String String :=
  match Json.field? name arguments with
  | some (.string text) => .ok text
  | some value =>
    .error ("Function \x60" ++ function ++ "\x60 received " ++ name ++ "=" ++ value.compress ++
      " but \x60" ++ name ++ "\x60 can only be a string")
  | none =>
    .error ("Function \x60" ++ function ++ "\x60 was called without a \x60" ++ name ++
      "\x60 argument")

/-- Fails with a message. -/
def throw : Function := fun _ arguments => do
  .error (← text "throw" "message" arguments)

/-- The value of a variable of the process, or else the one that is given for want of it. -/
def processVariable : Function := fun known arguments => do
  let name ← text "get_env" "name" arguments
  match known.variableOf name, Json.field? "default" arguments with
  | some value, _ => return .string value
  | none, some value => return value
  | none, none => .error ("Environment variable \x60" ++ name ++ "\x60 not found")

/-- The present, as a timestamp or in seconds since 1970. -/
def now : Function := fun known arguments =>
  let universal := match Json.field? "utc" arguments with
    | some (.bool true) => true
    | _ => false
  match Json.field? "timestamp" arguments with
  | some (.bool true) => .ok (.int known.now.seconds)
  | _ =>
    .ok (.string (Timestamp.write false (known.now.withOffset (if universal then 0 else known.zone))))

/-- A natural number between a start and an end, picked by chance. -/
def randomNumber : Function := fun known arguments => do
  let start := (← natural? "get_random" "start" "start" arguments).getD 0
  match ← natural? "get_random" "end" "end" arguments with
  | none => .error "Function \x60get_random\x60 was called without a \x60end\x60 argument"
  | some stop =>
    if start < stop then return .int (start + known.chance (stop - start) % (stop - start) : Nat)
    else .error "Function \x60get_random\x60 was called with an empty range"

end Function

/-- The functions by name. -/
def functions : List (String × Function) :=
  [("range", Function.range), ("now", Function.now), ("throw", Function.throw),
    ("get_env", Function.processVariable), ("get_random", Function.randomNumber)]

end ReleasePress.Template
