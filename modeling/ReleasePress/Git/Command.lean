import ReleasePress.Git.Error
import ReleasePress.Text.Utf8

/-!
# Commands of Git

A command is run in an environment of its own, so that no setting of the user can lead it to another
repository, and with paths unquoted in its output.

## Main declarations

* `Git.Invocation`, `Git.Outcome`, `Git.Executable`: what is run, what comes of it, and what runs it.
* `Git.Command`: a command to be run.
* `Git.Command.run`, `Git.Command.start`: its whole output, or only what it prints.
-/

namespace ReleasePress.Git

/-- What the executable is started with. -/
structure Invocation where
  arguments : List String
  /-- Variables set besides the search path and the home directory, the last value of a name
  counting. -/
  environment : List (String × String)
  deriving DecidableEq

/-- What a run leaves behind. -/
structure Outcome where
  stdout : ByteArray
  stderr : ByteArray
  /-- Zero for success. -/
  code : Nat

/-- The executable: what comes of an invocation after those before it, last one first. -/
abbrev Executable := List Invocation → Invocation → Outcome

/-- A computation that runs the executable; its state holds the invocations so far, last one first. -/
abbrev Run := StateM (List Invocation)

/-- A command to be run. -/
structure Command where
  arguments : List String
  /-- The directory to run in. -/
  directory : Option String := none
  environment : List (String × String) := []

/-- The text output of a successful command. -/
structure Output where
  stdout : String
  stderr : String

namespace Command

/-- The command as it is shown in messages. -/
def line (command : Command) : String :=
  "git " ++ " ".intercalate command.arguments

/-- What the executable is started with: the directory and the setting for paths come first. -/
def invocation (command : Command) : Invocation where
  arguments :=
    (match command.directory with
      | some directory => ["-C", directory]
      | none => []) ++ ["-c", "core.quotePath=false"] ++ command.arguments
  environment := command.environment

/-- Whether a program can be started so: no part holds a zero character. -/
def isStartable (invocation : Invocation) : Bool :=
  !(invocation.arguments.any (·.toList.contains '\x00')) &&
    !(invocation.environment.any fun (key, value) =>
      key.toList.contains '\x00' || value.toList.contains '\x00')

/-- Starts the executable. -/
def start (executable : Executable) (command : Command) : Run (Except RepositoryError Outcome) := do
  let invocation := command.invocation
  if isStartable invocation then
    let past ← get
    set (invocation :: past)
    pure (.ok (executable past invocation))
  else pure (.error (.pipe .zeroByte))

/-- Runs a command to its end. -/
def run (executable : Executable) (command : Command) : Run (Except RepositoryError Output) := do
  match ← command.start executable with
  | .error e => pure (.error e)
  | .ok outcome =>
    let stderr := Utf8.decodeLossy outcome.stderr
    if outcome.code = 0 then pure (.ok { stdout := Utf8.decodeLossy outcome.stdout, stderr })
    else pure (.error (.commandFailed command.line stderr))

/-- The kind of an object. -/
def objectKind (oid : ObjectId) : Command :=
  { arguments := ["cat-file", "-t", oid.text] }

/-- The contents of an object. -/
def contents (kind : ObjectKind) (oid : ObjectId) : Command :=
  { arguments := ["cat-file", kind.name, oid.text] }

/-- The id of the object that a revision names. -/
def resolve (revision : String) : Command :=
  { arguments := ["rev-parse", "--verify", "--quiet", revision ++ "^\x7bobject\x7d"] }

/-- The ancestors of a commit. -/
def ancestors (oid : ObjectId) : Command :=
  { arguments := ["rev-list", oid.text] }

/-- The id of the note on an object. -/
def noteId (notesRef : String) (oid : ObjectId) : Command :=
  { arguments := ["notes", "--ref", notesRef, "list", oid.text] }

/-- The text of the note on an object. -/
def noteText (notesRef : String) (oid : ObjectId) : Command :=
  { arguments := ["notes", "--ref", notesRef, "show", oid.text] }

/-- Name, email and time of the last change of a notes ref, perhaps only of some paths. -/
def lastChange (notesRef : String) (paths : List String) : Command :=
  { arguments := ["log", "-1", "--format=%cn%x1f%ce%x1f%cI", notesRef] ++
      (if paths.isEmpty then [] else "--" :: paths) }

/-- The top directory of the work tree around a directory. -/
def topLevel : Command :=
  { arguments := ["rev-parse", "--show-toplevel"] }

end Command

end ReleasePress.Git
