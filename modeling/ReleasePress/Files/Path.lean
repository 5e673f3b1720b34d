import ReleasePress.Text.Split

/-!
# Paths

Paths are kept as they are spelled.  Two spellings name the same place when their components agree:
repeated and final separators do not count, and neither does a `.` after the first component.

## Main declarations

* `Path.join`: a path relative to another one.
* `Path.components`: the parts of a path that count.
* `Path.parent?`, `Path.fileName?`.
-/

namespace ReleasePress.Path

open ReleasePress.Text

/-- Whether a path starts at the root. -/
def isAbsolute (path : String) : Bool :=
  startsWith "/" path

/-- `path` as seen from `base`; an absolute path stays what it is. -/
def join (base path : String) : String :=
  if isAbsolute path || base.isEmpty then path
  else if base.toList.getLast? = some '/' then base ++ path
  else base ++ "/" ++ path

/-- A component of a path. -/
inductive Component where
  | root
  | here
  | up
  | name (text : String)
  deriving DecidableEq, Repr

/-- The component of a piece of a path between separators. -/
def componentOf? (piece : List Char) : Option Component :=
  if piece.isEmpty || piece = ['.'] then none
  else if piece = ['.', '.'] then some .up
  else some (.name (String.ofList piece))

/-- The components of a path.  Only a `.` at the start is a component. -/
def components (path : String) : List Component :=
  let pieces := path.toList.splitOn '/'
  let start : List Component :=
    if isAbsolute path then [.root] else if pieces.head? = some ['.'] then [.here] else []
  start ++ pieces.filterMap componentOf?

/-- A path in reverse without separators and `.` components at its end. -/
def trimBack : List Char → List Char
  | ['/'] => ['/']
  | '/' :: rest => trimBack rest
  | '.' :: '/' :: rest => trimBack ('/' :: rest)
  | other => other
  termination_by path => path.length

/-- The path without its last component; the root and the empty path have no parent. -/
def parent? (path : String) : Option String :=
  if components path = [] || components path = [.root] then none
  else
    let back := (trimBack path.toList.reverse).dropWhile (· ≠ '/')
    some (String.ofList (trimBack back).reverse)

/-- The last component, if it is a name. -/
def fileName? (path : String) : Option String :=
  match (components path).getLast? with
  | some (.name text) => some text
  | _ => none

end ReleasePress.Path
