import ReleasePress.Files.Tree
import ReleasePress.Yaml.Data

/-!
# Alias maps in files

## Main declarations

* `AliasFile.load`: the alias map of a file.
-/

namespace ReleasePress.AliasFile

/-- Why an alias map could not be loaded from a file. -/
inductive Failure where
  | unreadable (cause : FileError)
  | malformed
  deriving DecidableEq, Repr

/-- What failed, for the file at a path. -/
def Failure.message (path : String) : Failure → String
  | unreadable _ => "Failed to read alias map: " ++ path
  | malformed => "Failed to parse alias map: " ++ path

/-- What failed, with its cause. -/
def Failure.reason (path : String) : Failure → String
  | unreadable cause => message path (unreadable cause) ++ ": " ++ cause.message
  | malformed => message path malformed ++ ": invalid document"

/-- The alias map of a file. -/
def load (tree : FileTree) (path : String) : Except Failure AliasMap :=
  match tree.readText path with
  | .error cause => .error (.unreadable cause)
  | .ok text =>
    match Yaml.aliasMap? text with
    | some aliases => .ok aliases
    | none => .error .malformed

end ReleasePress.AliasFile
