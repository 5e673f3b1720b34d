import ReleasePress.Calendar.Format
import ReleasePress.Files.Tree
import ReleasePress.Git.WorkTree
import ReleasePress.Settings.Toml

/-!
# Settings

What can be set for rendering, in a file or by a JSON object: template directories, the notes ref, the
date pattern and the alias file.  All of it is optional, and nothing else may be set.

## Main declarations

* `Settings`: the settings, with their defaults.
* `Settings.parse?`: the settings of a text.
* `Settings.load`, `Settings.discover`: settings of a file.
-/

namespace ReleasePress

/-- The settings for rendering. -/
structure Settings where
  /-- Template directories in the order of the search. -/
  templateDirs : List String := []
  /-- The notes ref that `attrs` reads. -/
  notesRef : Option String := none
  /-- The pattern to write dates in unless another one is chosen. -/
  datePattern : String := DateFormat.standard
  /-- The alias file, as seen from the top directory of the work tree. -/
  aliasFile : String := Git.defaultAliasFile
  deriving DecidableEq, Repr

namespace Settings

/-- The file that settings are found in at the top of a work tree. -/
def fileName : String :=
  "release-docs.toml"

/-- Why settings could not be loaded. -/
inductive Failure where
  | unreadable (path : String) (cause : FileError)
  | malformed (path : String)
  deriving DecidableEq, Repr

/-- What failed. -/
def Failure.message : Failure → String
  | unreadable path _ => "Failed to read config file: " ++ path
  | malformed path => "Failed to parse config file: " ++ path

/-- The setting of an assignment. -/
def setToml? (settings : Settings) (assignment : String × Toml.Value) : Option Settings :=
  match assignment with
  | ("template_dirs", .list templateDirs) => some { settings with templateDirs }
  | ("notes_ref", .text name) => some { settings with notesRef := some name }
  | ("date_format", .text datePattern) => some { settings with datePattern }
  | ("alias_file", .text aliasFile) => some { settings with aliasFile }
  | _ => none

/-- The settings of a text. -/
def parse? (text : String) : Option Settings :=
  (Toml.parse? text).bind fun assignments => assignments.foldlM setToml? {}

/-- The settings of a file. -/
def load (files : FileTree) (path : String) : Except Failure Settings :=
  match files.readText path with
  | .error cause => .error (.unreadable path cause)
  | .ok text =>
    match parse? text with
    | some settings => .ok settings
    | none => .error (.malformed path)

/-- The settings of the file at the top of a work tree, or the defaults if there is none. -/
def discover (files : FileTree) (root : String) : Except Failure Settings :=
  let path := Path.join root fileName
  if files.isFile path then load files path else .ok {}

/-- The template directories as seen from a base directory. -/
def templateDirsFrom (base : String) (settings : Settings) : List String :=
  settings.templateDirs.map (Path.join base)

end Settings

end ReleasePress
