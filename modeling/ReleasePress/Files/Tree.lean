import ReleasePress.Files.Path

/-!
# File trees

A tree of directories, files and symbolic links, and what the usual operations on files do to it.  A
path is followed step by step; links on the way are followed as well, and after forty of them the
path is given up.

## Main declarations

* `FileNode`: a file, a link or a directory.
* `FileTree.find`, `FileTree.findLink`: the node that a path leads to.
* `FileTree.read`, `FileTree.write`, `FileTree.copy`, `FileTree.createDirectories`.
-/

namespace ReleasePress

/-- A file, a symbolic link or a directory. -/
inductive FileNode where
  | file (bytes : ByteArray)
  | link (target : String)
  | directory (entries : List (String × FileNode))
  deriving Inhabited

/-- Why an operation on files failed. -/
inductive FileError where
  | notFound
  | notDirectory
  | isDirectory
  | exists_
  | tooManyLinks
  | notText
  deriving DecidableEq, Repr

/-- The text of a failure. -/
def FileError.message : FileError → String
  | notFound => "No such file or directory (os error 2)"
  | notDirectory => "Not a directory (os error 20)"
  | isDirectory => "Is a directory (os error 21)"
  | exists_ => "File exists (os error 17)"
  | tooManyLinks => "Too many levels of symbolic links (os error 40)"
  | notText => "stream did not contain valid UTF-8"

/-- The place of a node: the names of the directories around it, from the root, and its own. -/
abbrev Location := List String

namespace FileNode

/-- The entry of a name. -/
def entry (name : String) : List (String × FileNode) → Option FileNode
  | [] => none
  | (other, node) :: entries => if other = name then some node else entry name entries

/-- The node at a location below a node; links are not followed. -/
def at? : FileNode → Location → Option FileNode
  | node, [] => some node
  | .directory entries, name :: rest =>
    match entry name entries with
    | some node => at? node rest
    | none => none
  | _, _ :: _ => none

/-- Sets the entry of a name: in its place if there is one, at the end otherwise. -/
def setEntry (name : String) (node : FileNode) : List (String × FileNode) → List (String × FileNode)
  | [] => [(name, node)]
  | (other, old) :: entries =>
    if other = name then (name, node) :: entries else (other, old) :: setEntry name node entries

/-- Sets the node at a location below a directory.  Nothing changes if there is no directory around the
location. -/
def put (node : FileNode) : FileNode → Location → FileNode
  | _, [] => node
  | .directory entries, [name] => .directory (setEntry name node entries)
  | .directory entries, name :: rest =>
    match entry name entries with
    | some child => .directory (setEntry name (put node child rest) entries)
    | none => .directory entries
  | other, _ :: _ => other

end FileNode

/-- A tree of files and the directory that relative paths start from. -/
structure FileTree where
  root : FileNode
  /-- An absolute path. -/
  workingDirectory : String

namespace FileTree

/-- The steps of a path: its components, and a last `.` for a separator at the end, which demands a
directory. -/
def steps (path : String) : List Path.Component :=
  let pieces := path.toList.splitOn '/'
  let start : List Path.Component := if Path.isAbsolute path then [.root] else []
  let step? (piece : List Char) : Option Path.Component :=
    if piece.isEmpty then none else if piece = ['.'] then some .here else Path.componentOf? piece
  let finish : List Path.Component := if pieces.getLast? = some [] then [.here] else []
  start ++ pieces.filterMap step? ++ finish

/-- Where a path leads: the location, in order, and its node, which may be missing if only the last name is. -/
abbrev Arrival := Except FileError (Location × Option FileNode)

/-- Takes steps from the location `done`, whose names stand in reverse.  At a link, `onLink` goes on from where the
link is with the steps of its target before the rest.  Without `last`, a link at the very end is not
followed. -/
def takeSteps (root : FileNode) (last : Bool) (onLink : Location → List Path.Component → Arrival)
    (done : Location) : List Path.Component → Arrival
  | [] => .ok (done.reverse, root.at? done.reverse)
  | step :: rest =>
    match step, root.at? done.reverse with
    | .root, _ => takeSteps root last onLink [] rest
    | _, none => .error .notFound
    | .here, some (.directory _) => takeSteps root last onLink done rest
    | .up, some (.directory _) => takeSteps root last onLink done.tail rest
    | .name name, some (.directory entries) =>
      match FileNode.entry name entries with
      | some (.link target) =>
        if rest.isEmpty && !last then .ok ((name :: done).reverse, some (.link target))
        else if target.isEmpty then .error .notFound
        else onLink done (steps target ++ rest)
      | _ => takeSteps root last onLink (name :: done) rest
    | _, some _ => .error .notDirectory

/-- Takes steps and follows at most so many links on the way. -/
def follow (root : FileNode) (last : Bool) : Nat → Location → List Path.Component → Arrival
  | 0 => takeSteps root last fun _ _ => .error .tooManyLinks
  | links + 1 => takeSteps root last (follow root last links)

/-- How many links may be on the way of a path. -/
def linkLimit : Nat :=
  40

/-- Where a path leads, with what is there. -/
def locate (tree : FileTree) (last : Bool) (path : String) : Arrival :=
  if path.isEmpty then .error .notFound
  else follow tree.root last linkLimit [] (steps (Path.join tree.workingDirectory path))

/-- The node that a path leads to. -/
def find (tree : FileTree) (path : String) : Except FileError FileNode :=
  match tree.locate true path with
  | .ok (_, some node) => .ok node
  | .ok (_, none) => .error .notFound
  | .error e => .error e

/-- The node that a path leads to, which may be a link. -/
def findLink (tree : FileTree) (path : String) : Except FileError FileNode :=
  match tree.locate false path with
  | .ok (_, some node) => .ok node
  | .ok (_, none) => .error .notFound
  | .error e => .error e

def isDirectory (tree : FileTree) (path : String) : Bool :=
  match tree.find path with
  | .ok (.directory _) => true
  | _ => false

def isFile (tree : FileTree) (path : String) : Bool :=
  match tree.find path with
  | .ok (.file _) => true
  | _ => false

/-- The bytes of a file. -/
def read (tree : FileTree) (path : String) : Except FileError ByteArray :=
  match tree.find path with
  | .ok (.file bytes) => .ok bytes
  | .ok _ => .error .isDirectory
  | .error e => .error e

/-- The text of a file. -/
def readText (tree : FileTree) (path : String) : Except FileError String :=
  match tree.read path with
  | .ok bytes =>
    match String.fromUTF8? bytes with
    | some text => .ok text
    | none => .error .notText
  | .error e => .error e

/-- Writes a file, over the one that was there. -/
def write (tree : FileTree) (path : String) (bytes : ByteArray) : Except FileError FileTree :=
  match tree.locate true path with
  | .error e => .error e
  | .ok (_, some (.directory _)) => .error .isDirectory
  | .ok (location, _) => .ok { tree with root := FileNode.put (.file bytes) tree.root location }

/-- Copies a file.  A file that is copied onto itself is emptied. -/
def copy (tree : FileTree) (source target : String) : Except FileError FileTree :=
  match tree.read source with
  | .error e => .error e
  | .ok _ =>
    match tree.write target ByteArray.empty with
    | .error e => .error e
    | .ok emptied =>
      match emptied.read source with
      | .error e => .error e
      | .ok bytes => emptied.write target bytes

/-- A path without separators at its end; the root keeps one. -/
def trimSeparators (path : String) : String :=
  match path.toList.reverse.dropWhile (· = '/') with
  | [] => if path.isEmpty then "" else "/"
  | back => String.ofList back.reverse

/-- Creates one directory, whose parent must be there. -/
def createDirectory (tree : FileTree) (path : String) : Except FileError FileTree :=
  match tree.locate false (trimSeparators path) with
  | .error e => .error e
  | .ok (_, some _) => .error .exists_
  | .ok (location, none) =>
    .ok { tree with root := FileNode.put (.directory []) tree.root location }

/-- Creates a directory and its parents as far as they are missing; `depth` bounds their number. -/
def createMissing (tree : FileTree) (path : String) : Nat → Except FileError FileTree
  | 0 => .error .notFound
  | depth + 1 =>
    match tree.createDirectory path with
    | .ok tree => .ok tree
    | .error .notFound =>
      match Path.parent? path with
      | none => .error .notFound
      | some parent =>
        let around := if parent.isEmpty then .ok tree else tree.createMissing parent depth
        match around with
        | .error e => .error e
        | .ok tree =>
          match tree.createDirectory path with
          | .ok tree => .ok tree
          | .error e => if tree.isDirectory path then .ok tree else .error e
    | .error e => if tree.isDirectory path then .ok tree else .error e

/-- Creates a directory and its parents as far as they are missing. -/
def createDirectories (tree : FileTree) (path : String) : Except FileError FileTree :=
  if path.isEmpty then .ok tree else tree.createMissing path (path.length + 1)

end FileTree

end ReleasePress
