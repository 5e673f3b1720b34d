import ReleasePress.Files.Tree

/-!
# Changes of files

What a run leaves behind is read off the trees before and after it.

## Main declarations

* `FileNode.files`: all regular files below a node with their locations.
* `FileTree.changes`: the files that are new or hold something else.
-/

namespace ReleasePress

mutual

/-- The regular files below a node, each with its location; links are not followed. -/
def FileNode.files : FileNode → List (Location × ByteArray)
  | .file bytes => [([], bytes)]
  | .link _ => []
  | .directory entries => FileNode.filesOfEntries entries

/-- The regular files below the entries of a directory. -/
def FileNode.filesOfEntries : List (String × FileNode) → List (Location × ByteArray)
  | [] => []
  | (name, node) :: entries =>
    (FileNode.files node).map (fun (location, bytes) => (name :: location, bytes)) ++
      FileNode.filesOfEntries entries

end

/-- The files of `after` that are missing in `before` or hold something else there. -/
def FileTree.changes (before after : FileTree) : List (Location × ByteArray) :=
  after.root.files.filter fun (location, bytes) =>
    match before.root.at? location with
    | some (.file old) => old != bytes
    | _ => true

end ReleasePress
