import ReleasePress.Log

/-!
# Which warnings are shown

A filter of log messages is a list of directives.  A directive gives a level for the messages whose topic starts with
its target, and the one with the longest target counts.

## Main declarations

* `LogLevel`: how important a message is at least.
* `LogFilter.parse?`: the directives of a text.
* `LogFilter.shows`: whether a warning is shown.
-/

namespace ReleasePress

open ReleasePress.Text

/-- How important a message must be to be shown. -/
inductive LogLevel where
  | off
  | error
  | warn
  | info
  | debug
  | trace
  deriving DecidableEq, Repr

namespace LogLevel

/-- The level of a name in any case, or of its number. -/
def ofName? (name : String) : Option LogLevel :=
  match lowerAscii name with
  | "off" | "0" => some off
  | "error" | "1" => some error
  | "warn" | "2" => some warn
  | "info" | "3" => some info
  | "debug" | "4" => some debug
  | "trace" | "5" => some trace
  | _ => none

/-- Whether warnings are important enough. -/
def showsWarnings : LogLevel → Bool
  | off | error => false
  | warn | info | debug | trace => true

end LogLevel

/-- A level for the messages of some topics. -/
structure LogDirective where
  /-- What their topics start with. -/
  target : String
  level : LogLevel
  deriving DecidableEq, Repr

/-- Directives; of two for the same target the later one counts. -/
abbrev LogFilter := List LogDirective

/-- What a warning is about. -/
def Warning.topic : Warning → String
  | .aliasesUnavailable _ => "release_docs::templating::filters"
  | .notText _ | .unreadable _ _ | .symlinkSkipped _ | .keyTaken _ _ =>
    "release_docs::templating::loader"
  | .headerNotMapping _ | .headerInvalid _ => "release_docs::markdown::frontmatter"

namespace LogFilter

/-- Characters that a directive starts with. -/
def isStart (c : Char) : Bool :=
  c.isAlphanum || c = '-' || c = ':' || c = '_'

/-- The directive of a text: a level, a target, or a target with an equals sign and a level. -/
def directive? (text : List Char) : Option LogDirective :=
  if !(text.head?.all isStart) then none
  else
    match cutAt? ['='] text with
    | some (target, level) =>
      if level.isEmpty then some ⟨String.ofList target, .trace⟩
      else (LogLevel.ofName? (String.ofList level)).map fun level => ⟨String.ofList target, level⟩
    | none =>
      match LogLevel.ofName? (String.ofList text) with
      | some level => some ⟨"", level⟩
      | none => some ⟨String.ofList text, .trace⟩

/-- The directives of a text, which are separated by commas. -/
def parse? (text : String) : Option LogFilter :=
  ((text.toList.splitOn ',').filter (!·.isEmpty)).mapM fun piece => directive? (trim piece)

/-- The better of two directives for a topic, of which the second one came later. -/
def better (topic : String) (best : Option LogDirective) (next : LogDirective) : Option LogDirective :=
  if !startsWith next.target topic then best
  else
    match best with
    | some best => if best.target.length ≤ next.target.length then some next else some best
    | none => some next

/-- Whether a warning is shown. -/
def shows (filter : LogFilter) (warning : Warning) : Bool :=
  (filter.foldl (better warning.topic) none).any (·.level.showsWarnings)

/-- The filter for the program's own messages from a level on. -/
def ofLevel (level : LogLevel) : LogFilter :=
  [⟨"release_docs", level⟩]

end LogFilter

end ReleasePress
