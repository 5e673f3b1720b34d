import ReleasePress.Environment

/-!
# Writing documents

Documents are written to files under an output directory, each under its key.  Files that are passed through are
copied from the directory that their template was found in.

## Main declarations

* `Output.Failure`: why writing failed.
* `Output.writeAll`: writes documents in the order of their keys, up to the first failure.
-/

namespace ReleasePress.Output

/-- Why a document could not be written. -/
inductive Failure where
  | directory (path : String) (cause : FileError)
  | file (path : String) (cause : FileError)
  | copy (source target : String) (cause : FileError)
  /-- A file is to be passed through, but its template is no directory. -/
  | sourceMissing (key : String)
  deriving DecidableEq, Repr

/-- What failed. -/
def Failure.message : Failure → String
  | directory path _ => "Failed to create directory: " ++ path
  | file path _ => "Failed to write " ++ path
  | copy source target _ => "Failed to copy " ++ source ++ " to " ++ target
  | sourceMissing key => "No source file for '" ++ key ++ "'"

/-- What it failed for. -/
def Failure.cause? : Failure → Option FileError
  | directory _ cause | file _ cause | copy _ _ cause => some cause
  | sourceMissing _ => none

/-- Changes to files, which last even if a later one fails. -/
abbrev Writing := ExceptT Failure (StateM FileTree)

/-- Changes the files or fails. -/
def change (act : FileTree → Except FileError FileTree) (failure : FileError → Failure) :
    Writing Unit := do
  match act (← get) with
  | .ok files => set files
  | .error cause => throw (failure cause)

/-- Creates the directory around a path. -/
def makeRoom (path : String) : Writing Unit :=
  match Path.parent? path with
  | some parent => change (·.createDirectories parent) (.directory parent)
  | none => pure ()

/-- Writes one document, or copies the file of its key. -/
def writeOne (output : String) (source : TemplateSource) (key : String) (document : Option String) :
    Writing Unit := do
  let target := Path.join output key
  makeRoom target
  match document, source with
  | some text, _ => change (·.write target text.toUTF8) (.file target)
  | none, .directory directory =>
    let original := Path.join directory key
    change (·.copy original target) (.copy original target)
  | none, _ => throw (.sourceMissing key)

/-- Writes documents in their order. -/
def writeAll (output : String) (source : TemplateSource) : Documents → Writing Unit
  | [] => pure ()
  | (key, document) :: documents => do
    writeOne output source key document
    writeAll output source documents

end ReleasePress.Output
