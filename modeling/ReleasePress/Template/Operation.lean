import ReleasePress.Filter.Basic
import ReleasePress.Template.Operation.Any
import ReleasePress.Template.Operation.List
import ReleasePress.Template.Operation.Text
import ReleasePress.Text.EditDistance

/-!
# Operations by name

Besides the filters of the library, templates have operations that need no repository.  Two of the names,
`default` and `safe`, are part of the language itself.

## Main declarations

* `operations`: the operations by name.
* `suggestion?`: the known name that is nearest to an unknown one.
* `suggestionIn?`: the same for the name that a message says is unknown.
-/

namespace ReleasePress.Template

open Operation in
/-- The operations by name. -/
def operations : List (String × Operation) :=
  [("abs", abs), ("addslashes", ofText "addslashes" addSlashes), ("as_str", asText),
    ("capitalize", ofText "capitalize" capitalize), ("concat", concat), ("date", date),
    ("escape", ofText "escape_html" escapeMarkup), ("escape_xml", ofText "escape_xml" escapeXml),
    ("filesizeformat", fileSize), ("filter", keep), ("first", first), ("float", real),
    ("group_by", groupBy), ("indent", indent), ("int", integer), ("join", join),
    ("json_encode", jsonEncode), ("last", last), ("length", length),
    ("linebreaksbr", ofText "linebreaksbr" lineBreaks), ("lower", ofText "lower" Text.lower),
    ("map", map), ("nth", nth), ("pluralize", pluralize), ("reverse", reverse), ("round", round),
    ("slice", slice), ("slugify", ofText "slugify" Text.slug), ("sort", sort),
    ("spaceless", ofText "spaceless" fun text => spaceless (text.length + 1) text),
    ("split", split), ("striptags", ofText "striptags" fun text => stripTags (text.length + 1) text),
    ("title", ofText "title" title), ("trim", ofText "trim" Text.trim),
    ("trim_end", ofText "trim_end" Text.trimEnd), ("trim_end_matches", strip "trim_end_matches" stripEnd),
    ("trim_start", ofText "trim_start" Text.trimStart),
    ("trim_start_matches", strip "trim_start_matches" stripStart), ("truncate", truncate),
    ("unique", unique), ("upper", ofText "upper" Text.upper),
    ("urlencode", ofText "urlencode" (percentEncode isPathPart)),
    ("urlencode_strict", ofText "urlencode_strict" (percentEncode Char.isAlphanum)),
    ("wordcount", wordCount)]

/-- Every name that a filter can have: those of the library first, then those of operations and of the
language, in the order of the names. -/
def knownNames : List String :=
  Filter.all.map Filter.name ++
    ((operations.map (·.1) ++ ["default", "safe"]).mergeSort fun a b => decide (a ≤ b))

/-- The first of the nearest names, if half of the letters are right. -/
def suggestion? (unknown : String) : Option String :=
  let distance (name : String) := Text.editDistance unknown.toList name.toList
  (knownNames.filter fun name => distance name ≤ unknown.utf8ByteSize * 50 / 100).minOn? distance

/-- The name between quotes that a text says is unknown in its first words. -/
def unknownHere? (text : List Char) : Option String :=
  (Text.dropHead? "Filter '".toList text).bind fun rest =>
    let name := rest.takeWhile (· ≠ '\'')
    match Text.dropHead? "' not found".toList (rest.drop name.length) with
    | some _ => if name.isEmpty then none else some (String.ofList name)
    | none => none

/-- The name between quotes that a message says is unknown: the first one of its kind. -/
def unknownIn? : List Char → Option String
  | [] => none
  | c :: text =>
    match unknownHere? (c :: text) with
    | some name => some name
    | none => unknownIn? text

/-- The name that may have been meant by the one that a message says is unknown. -/
def suggestionIn? (message : String) : Option String :=
  (unknownIn? message.toList).bind suggestion?

/-- A message with the name that may have been meant. -/
def withSuggestion (message : String) : String :=
  match suggestionIn? message with
  | some name => message ++ "\n  Did you mean '" ++ name ++ "'?"
  | none => message

end ReleasePress.Template
