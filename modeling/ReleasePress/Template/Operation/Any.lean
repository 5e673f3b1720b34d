import ReleasePress.Calendar.Format
import ReleasePress.Decimal.Reader
import ReleasePress.Template.Operation.Argument
import ReleasePress.Template.Outline

/-!
# Operations on numbers, dates and values of any kind

## Main declarations

* The operations by name, which `Template.operations` lists.
-/

namespace ReleasePress.Template.Operation

/-- The number of items, fields or characters. -/
def length : Operation := fun value _ =>
  match value with
  | .array items => .ok (.int items.length)
  | .object fields => .ok (.int fields.length)
  | .string text => .ok (.int text.length)
  | _ =>
    .error "Filter \x60length\x60 was used on a value that isn't an array, an object, or a string."

/-- A list or a text backwards. -/
def reverse : Operation := fun value _ =>
  match value with
  | .array items => .ok (.array items.reverse)
  | .string text => .ok (.string (String.ofList text.toList.reverse))
  | other =>
    .error ("Filter \x60reverse\x60 received an incorrect type for arg \x60value\x60: got \x60" ++
      other.compress ++ "\x60 but expected Array|String")

/-- The JSON text of a value. -/
def jsonEncode : Operation := fun value arguments =>
  match Json.field? "pretty" arguments with
  | some (.bool true) => .ok (.string value.indented)
  | _ => .ok (.string value.compress)

/-- The text of a value. -/
def asText : Operation := fun value _ =>
  .ok (.string value.display)

/-- The size of a number. -/
def abs : Operation := fun value _ =>
  match value with
  | .number (.integer n) => .ok (.int n.natAbs)
  | .number (.real x) => .ok (Json.ofFloat x.value.abs)
  | _ => .error "Filter \x60abs\x60 was used on a value that isn't a number."

/-- One word for one thing and another one for all other numbers of things. -/
def pluralize : Operation := fun value arguments => do
  let n ← subject "pluralize" Kind.number value
  let plural ← argument "pluralize" "plural" Kind.text "s" arguments
  let singular ← argument "pluralize" "singular" Kind.text "" arguments
  let smallest := Float.ofScientific 2220446049250313 true 31
  return .string (if (n.abs - 1.0).abs > smallest then plural else singular)

/-- A whole power of ten. -/
def tenTo (exponent : Int) : Float :=
  if exponent ≥ 0 then Float.ofScientific 1 false exponent.toNat
  else 1.0 / Float.ofScientific 1 false exponent.natAbs

/-- A number rounded to a precision. -/
def round : Operation := fun value arguments => do
  let x ← subject "round" Kind.number value
  let method ← argument "round" "method" Kind.text "common" arguments
  let precision ← argument "round" "precision" (Kind.integer "i32" (-2147483648) 2147483647) 0 arguments
  let unit := if precision = 0 then 1.0 else tenTo precision
  match method with
  | "common" => return Json.ofFloat ((unit * x).round / unit)
  | "ceil" => return Json.ofFloat ((unit * x).ceil / unit)
  | "floor" => return Json.ofFloat ((unit * x).floor / unit)
  | _ =>
    .error ("Filter \x60round\x60 received an incorrect value for arg \x60method\x60: got \x60" ++
      quotedOutline method ++ "\x60, only common, ceil and floor are allowed")

/-- A size in units of which the next one is `1024` times as large, with two decimal places unless it is
whole. -/
def sizeText (bytes : Nat) (units : List String) : String :=
  let rec scale (divisor : Nat) : List String → String
    | [] => toString bytes
    | unit :: units =>
      if bytes < divisor * 1024 || units.isEmpty then
        if bytes % divisor = 0 then toString (bytes / divisor) ++ " " ++ unit
        else
          let hundredths := (bytes * 200 + divisor) / (2 * divisor)
          toString (hundredths / 100) ++ "." ++ Text.padded 2 (hundredths % 100) ++ " " ++ unit
      else scale (divisor * 1024) units
  scale 1 units

/-- The size of a file for readers. -/
def fileSize : Operation := fun value arguments => do
  let bytes ← subject "filesizeformat" Kind.count value
  let binary ← argument "filesizeformat" "binary" Kind.truth false arguments
  return .string (sizeText bytes
    (if binary then ["B", "KiB", "MiB", "GiB", "TiB", "PiB", "EiB"]
      else ["B", "kB", "MB", "GB", "TB", "PB", "EB"]))

/-- The moment of a text with the name of its zone: a timestamp, or a day and a time of day, or a day
alone.  Without an offset it is universal time. -/
def momentOf (text : String) : Except String (Moment × String) :=
  let read (pattern : String) : Option (Moment × String) :=
    match DateFormat.ofPattern? pattern with
    | .ok format => (format.read? 0 text none).map fun m => (m, "UTC")
    | .error _ => none
  if text.toList.contains 'T' then
    let timestamp := (Timestamp.readLenient? text).map fun m => (m, DateFormat.zoneName m.offset)
    match timestamp.orElse fun _ => read "%Y-%m-%dT%H:%M:%S%.f" with
    | some found => .ok found
    | none => .error ("Error parsing \x60" ++ quotedOutline text ++
        "\x60 as rfc3339 date or naive datetime")
  else
    match read "%Y-%m-%d" with
    | some found => .ok found
    | none => .error ("Error parsing \x60" ++ quotedOutline text ++ "\x60 as YYYY-MM-DD date")

/-- A time zone by name, as far as it is one of universal time. -/
def zone? (name : String) : Option Int :=
  if ["UTC", "Etc/UTC", "GMT", "Etc/GMT", "Zulu", "Etc/Zulu", "UCT", "Etc/UCT", "Universal",
    "Etc/Universal", "Greenwich", "Etc/Greenwich", "GMT0", "Etc/GMT0", "GMT+0", "GMT-0"].contains name
  then some 0 else none

/-- The seconds of a number that can count them. -/
def secondsOf? : Json.Number → Option Int
  | .integer n => if Json.isSigned64 n then some n else none
  | .real _ => none

/-- The text of a date, which is a number of seconds or a text. -/
def date : Operation := fun value arguments => do
  let pattern ← argument "date" "format" Kind.text "%Y-%m-%d" arguments
  match DateItem.listOf? pattern with
  | none => .error ("Invalid date format \x60" ++ pattern ++ "\x60")
  | some items =>
    let zone ← match ← argument? "date" "timezone" Kind.text arguments with
      | none => pure none
      | some name =>
        match zone? name with
        | some offset => pure (some offset)
        | none => .error ("Error parsing \x60" ++ name ++ "\x60 as a timezone")
    let (m, name) ← match value with
      | .number n =>
        match (secondsOf? n).map Moment.ofSeconds? with
        | some (some m) => pure (m, "UTC")
        | some none =>
          .error ("Filter \x60date\x60 was invoked on an integer out of range: " ++ n.write)
        | none => .error ("Filter \x60date\x60 was invoked on a float: " ++ n.write)
      | .string text => momentOf text
      | other =>
        .error ("Filter \x60date\x60 received an incorrect type for arg \x60value\x60: got \x60" ++
          other.outline ++ "\x60 but expected i64|u64|String")
    let (m, name) := match zone with
      | some offset => (m.withOffset offset, "UTC")
      | none => (m, name)
    match DateItem.writeAll? name m items with
    | some text => return .string text
    | none => .error ("Invalid date format \x60" ++ pattern ++ "\x60")

end ReleasePress.Template.Operation
