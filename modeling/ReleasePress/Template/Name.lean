import ReleasePress.Text.Split

/-!
# Names of templates

A file name is cut at its dots into a stem and segments.  The segment `template` marks a file as a
template and the segment `base` asks for a template that the program brings along; either is taken
out of the name that a document gets.

## Main declarations

* `Template.stripMarker?`: a file name without its last segment equal to a marker.
* `Template.stripInPath?`: the same for the last part of a name with slashes.
* `Template.outputKey`: the key that a template's document gets.
* `Template.isMarkdownKey`: whether a key names a Markdown document.
-/

namespace ReleasePress.Template

open ReleasePress.Text

/-- The segment that marks a file as a template. -/
def templateMarker : List Char :=
  "template".toList

/-- The segment that asks for a template which the program brings along. -/
def baseMarker : List Char :=
  "base".toList

/-- A list without its last element equal to `x`, if it has one. -/
def dropLastEqual? (x : List Char) : List (List Char) → Option (List (List Char))
  | [] => none
  | y :: ys =>
    match dropLastEqual? x ys with
    | some rest => some (y :: rest)
    | none => if y = x then some ys else none

/-- How many segments belong to the stem: the first one, or the first two if the name starts with a
dot. -/
def stemLength : List (List Char) → Nat
  | [] :: _ => 2
  | _ => 1

/-- A file name without its last segment after the stem that equals the marker. -/
def stripMarker? (marker fileName : List Char) : Option (List Char) :=
  let segments := fileName.splitOn '.'
  let stem := stemLength segments
  (dropLastEqual? marker (segments.drop stem)).map fun rest =>
    ['.'].intercalate (segments.take stem ++ rest)

/-- A name without the marker in its part after the last slash. -/
def stripInPath? (marker name : List Char) : Option (List Char) :=
  match cutLastAt? '/' name with
  | some (parent, fileName) =>
    (stripMarker? marker fileName).map fun stripped => parent ++ '/' :: stripped
  | none => stripMarker? marker name

/-- The key of the document of a template: its name without the mark of templates. -/
def outputKey (name : String) : String :=
  match stripInPath? templateMarker name.toList with
  | some key => String.ofList key
  | none => name

/-- The name of the brought-along template that a name asks for. -/
def baseName? (name : String) : Option String :=
  (stripInPath? baseMarker name.toList).map String.ofList

/-- A file name without a mark of templates at its end. -/
def dropTemplateEnd (fileName : List Char) : List Char :=
  (dropTail? ('.' :: templateMarker) fileName).getD fileName

/-- Whether a key names a Markdown document: after a mark at its end is taken off, its last part has a
non-empty stem and the extension `md` in any ASCII case. -/
def isMarkdownKey (key : String) : Bool :=
  match cutLastAt? '.' (dropTemplateEnd (lastSegment key).toList) with
  | some (stem, extension) => !stem.isEmpty && extension.map Char.toLower == ['m', 'd']
  | none => false

end ReleasePress.Template
