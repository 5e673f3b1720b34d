import ReleasePress.Log
import ReleasePress.Template.Builtin
import ReleasePress.Template.Error
import ReleasePress.Template.Name

/-!
# Finding and loading templates

A name is looked up among the templates that the program brings along and then under the search roots
in their order.  A directory is loaded as a whole: files marked as templates give texts under their
name without the mark, and all other files are passed through.

## Main declarations

* `TemplateSource`: where a template was found.
* `Entry`, `Entries`: the loaded texts and files, in the order of their keys.
* `resolve`, `load`: finding and loading a template by name.
* `walkDirectory`: all entries of a directory.
-/

namespace ReleasePress

/-- Where a template was found. -/
inductive TemplateSource where
  | builtin (name contents : String)
  | file (path : String)
  | directory (path : String)
  deriving DecidableEq, Repr

/-- What a key stands for. -/
inductive Entry where
  | text (contents : String)
  | passthrough
  deriving DecidableEq, Repr

/-- Entries in the order of their keys, each key once. -/
abbrev Entries := List (String × Entry)

namespace Template

/-- Finds a template: a name that asks for one of the program's own gets it, and else the first root
that has a directory or a file of the name decides. -/
def resolve (tree : FileTree) (roots : List String) (name : String) :
    Except TemplateError TemplateSource :=
  match (baseName? name).bind fun base => (Builtin.text? base).map (base, ·) with
  | some (base, contents) => .ok (.builtin base contents)
  | none =>
    let found (root : String) : Option TemplateSource :=
      let path := Path.join root name
      if tree.isDirectory path then some (.directory path)
      else if tree.isFile path then some (.file path)
      else none
    match roots.findSome? found with
    | some source => .ok source
    | none => .error (.notFound name roots)

/-- A file or a link below a directory, with its path from there. -/
inductive Leaf where
  | file (path : Location) (bytes : ByteArray)
  | link (path : Location)

namespace Leaf

/-- A leaf as seen from the directory around. -/
def below (name : String) : Leaf → Leaf
  | file path bytes => file (name :: path) bytes
  | link path => link (name :: path)

end Leaf

/-- The groups of leaves in the order of their names, as one list. -/
def inOrder (groups : List (String × List Leaf)) : List Leaf :=
  (groups.mergeSort fun a b => decide (a.1 ≤ b.1)).flatMap fun (name, leaves) =>
    leaves.map (Leaf.below name)

mutual

/-- The files and links below a node, directories in the order of their names. -/
def leaves : FileNode → List Leaf
  | .file bytes => [.file [] bytes]
  | .link _ => [.link []]
  | .directory entries => inOrder (groups entries)

/-- The leaves below each entry of a directory. -/
def groups : List (String × FileNode) → List (String × List Leaf)
  | [] => []
  | (name, node) :: entries => (name, leaves node) :: groups entries

end

/-- Adds an entry in the order of keys.  If the key is taken, a text replaces a file that is passed through,
and otherwise the first entry stays; either way there is a warning. -/
def insertEntry (key : String) (new : Entry) : Entries → Entries × Option Warning
  | [] => ([(key, new)], none)
  | (other, old) :: entries =>
    if key = other then
      match old, new with
      | .passthrough, .text contents =>
        ((key, .text contents) :: entries, some (.keyTaken key true))
      | .text _, _ => ((key, old) :: entries, some (.keyTaken key true))
      | .passthrough, .passthrough => ((key, old) :: entries, some (.keyTaken key false))
    else if key < other then ((key, new) :: (other, old) :: entries, none)
    else
      let (entries, warning) := insertEntry key new entries
      ((other, old) :: entries, warning)

/-- The key and the entry of a file.  A file marked as a template whose bytes are no text is passed
through under its own name. -/
def entryOf (path : String) (fileName : String) (bytes : ByteArray) :
    String × Entry × Option Warning :=
  match stripMarker? templateMarker fileName.toList with
  | none => (fileName, .passthrough, none)
  | some stripped =>
    match String.fromUTF8? bytes with
    | some text => (String.ofList stripped, .text text, none)
    | none => (fileName, .passthrough, some (.notText path))

/-- The entries so far with the one of a leaf, and the warnings so far, last one first. -/
def addLeaf (root : String) (state : Entries × List Warning) (leaf : Leaf) :
    Entries × List Warning :=
  let (entries, warnings) := state
  let pathOf (location : Location) : String := location.foldl Path.join root
  match leaf with
  | .link location => (entries, .symlinkSkipped (pathOf location) :: warnings)
  | .file location bytes =>
    let path := pathOf location
    let fileName := (location.getLast?).getD ((Path.fileName? root).getD root)
    let (name, entry, unreadable) := entryOf path fileName bytes
    let key := match location.dropLast with
      | [] => if location.isEmpty then "" else name
      | around => "/".intercalate around ++ "/" ++ name
    let (entries, taken) := insertEntry key entry entries
    (entries, taken.toList ++ unreadable.toList ++ warnings)

/-- All entries of a directory and the warnings, last one first.  A link is skipped; one that is the root
itself is followed nevertheless. -/
def walkDirectory (tree : FileTree) (root : String) :
    Except TemplateError (Entries × List Warning) :=
  match tree.findLink root with
  | .error e => .error (.unreadable root e)
  | .ok (.link _) =>
    match tree.find root with
    | .error e => .error (.unreadable root e)
    | .ok (.directory entries) =>
      .ok ((leaves (.directory entries)).foldl (addLeaf root) ([], [.symlinkSkipped root]))
    | .ok _ => .ok ([], [.symlinkSkipped root])
  | .ok node => .ok ((leaves node).foldl (addLeaf root) ([], []))

/-- The only entry of a text. -/
def single (name contents : String) : Entries :=
  [(outputKey name, .text contents)]

/-- The entries of a source that was found for a name. -/
def loadSource (tree : FileTree) (roots : List String) (name : String) :
    TemplateSource → Except TemplateError Entries × List Warning
  | .builtin _ contents => (.ok (single name contents), [])
  | .file path =>
    match tree.read path with
    | .error e => (.error (.notFound name roots), [.unreadable path e.message])
    | .ok bytes =>
      match String.fromUTF8? bytes with
      | some text => (.ok (single name text), [])
      | none => (.error (.notFound name roots), [.notText path])
  | .directory path =>
    match walkDirectory tree path with
    | .ok (entries, warnings) => (.ok entries, warnings)
    | .error e => (.error e, [])

/-- Finds a template and loads its entries. -/
def load (tree : FileTree) (roots : List String) (name : String) :
    Except TemplateError Entries × List Warning :=
  match resolve tree roots name with
  | .error e => (.error e, [])
  | .ok source => loadSource tree roots name source

end Template

end ReleasePress
