import ReleasePress.Calendar.Pattern.Writer
import ReleasePress.Calendar.Pattern.Reader

/-!
# Date formats

A date format is a pattern to fall back on.  It writes moments in universal or local time and reads
texts in local time unless they carry an offset.

## Main declarations

* `DateFormat`: a valid default pattern.
* `DateFormat.ofPattern?`: refuses a pattern with an unknown conversion.
* `DateFormat.write`, `DateFormat.read?`.
-/

namespace ReleasePress

/-- Why a moment could not be written. -/
inductive DateFormatError where
  | invalidPattern (pattern : String)
  | unwritable (pattern : String)
  deriving DecidableEq, Repr

/-- The text of the error. -/
def DateFormatError.message : DateFormatError → String
  | .invalidPattern pattern => "'" ++ pattern ++ "' is not a valid date format"
  | .unwritable pattern => "cannot format date with pattern '" ++ pattern ++ "'"

/-- A default pattern without unknown conversions. -/
structure DateFormat where
  pattern : String
  valid : (DateItem.listOf? pattern).isSome = true
  deriving DecidableEq

namespace DateFormat

/-- The pattern that dates are written in unless another one is chosen. -/
def standard : String :=
  "%a %b %-d %H:%M:%S %Y %z"

/-- The format of a pattern. -/
def ofPattern? (pattern : String) : Except DateFormatError DateFormat :=
  if valid : (DateItem.listOf? pattern).isSome = true then .ok ⟨pattern, valid⟩
  else .error (.invalidPattern pattern)

/-- The offset of a clock as the name of its zone. -/
def zoneName (offset : Int) : String :=
  if offset % 60 = 0 then DateField.writeColons 1 offset else DateField.writeColons 2 offset

/-- Writes a moment in universal time if `universal` is set, else on the clock with the offset `zone`. -/
def write (format : DateFormat) (zone : Int) (m : Moment) (pattern : Option String)
    (universal : Bool) : Except DateFormatError String :=
  let pattern := pattern.getD format.pattern
  match DateItem.listOf? pattern with
  | none => .error (.invalidPattern pattern)
  | some items =>
    let text := if universal then DateItem.writeAll? "UTC" (m.withOffset 0) items
      else DateItem.writeAll? (zoneName zone) (m.withOffset zone) items
    match text with
    | some text => .ok text
    | none => .error (.unwritable pattern)

/-- Reads a text as a moment.  Without an offset it is read on the clock with the offset `zone`, and a day
without a time of day is its midnight there. -/
def read? (format : DateFormat) (zone : Int) (text : String) (pattern : Option String) :
    Option Moment := do
  let items ← DateItem.listOf? (pattern.getD format.pattern)
  let fields ← DateItem.readAll? items text
  match fields.moment? with
  | some m => some m
  | none =>
    match fields.local? 0 with
    | some (day, second, nanos) => Moment.ofLocal? day second nanos zone
    | none =>
      match fields.day? with
      | .ok day => Moment.ofLocal? day 0 0 zone
      | .error _ => none

end DateFormat

end ReleasePress
