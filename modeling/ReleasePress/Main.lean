import ReleasePress.CommandLine.Run
import ReleasePress.Files.Changes
import ReleasePress.Json.Reader

/-!
# The command line

The program starts no other program and lists no directory.  What it may see is told on standard input, one JSON
object on a line:

* a file that is there, as `file` with its path;
* a run of Git, as `git` with its arguments, and with `stdout`, `stderr` and `code` as far as they differ from
  nothing and zero;
* a variable of the process, as `variable` with its name and with its `value`;
* the clock, as `now` with a time, whose offset is that of local time.

## Main declarations

* `CommandLine.Notice`: a line of standard input.
* `CommandLine.Notices`: all that the lines tell.
* `main`: runs the program on its arguments.
-/

namespace ReleasePress.CommandLine

open ReleasePress.Git

/-- A line of standard input. -/
inductive Notice where
  | file (path : String)
  | git (arguments : List String) (outcome : Git.Outcome)
  | set (name value : String)
  | now (moment : Moment)

/-- The text under a key, empty if there is none. -/
def textAt (key : String) (json : Json) : String :=
  ((Json.get? key json).bind Json.str?).getD ""

/-- The exit code that a run of Git is told with. -/
def codeAt (json : Json) : Nat :=
  match Json.get? "code" json with
  | some (.number (.integer n)) => n.toNat
  | _ => 0

/-- The notice of a line, if it is one. -/
def Notice.ofJson? (json : Json) : Option Notice :=
  match Json.get? "file" json, Json.get? "git" json, Json.get? "variable" json, Json.get? "now" json with
  | some (.string path), _, _, _ => some (.file path)
  | _, some (.array arguments), _, _ =>
    some (.git (arguments.filterMap Json.str?)
      { stdout := (textAt "stdout" json).toUTF8, stderr := (textAt "stderr" json).toUTF8
        code := codeAt json })
  | _, _, some (.string name), _ => some (.set name (textAt "value" json))
  | _, _, _, some (.string time) => (Timestamp.read? time).map .now
  | _, _, _, _ => none

/-- What standard input tells. -/
structure Notices where
  files : FileTree
  runs : List (List String × Git.Outcome) := []
  assignments : List (String × String) := []
  now : Moment := ⟨0, 0, 0⟩

namespace Notices

/-- An executable that repeats the first run with the same arguments, and fails if there is none. -/
def executable (notices : Notices) : Executable := fun _ invocation =>
  match notices.runs.lookup invocation.arguments with
  | some outcome => outcome
  | none =>
    { stdout := ByteArray.empty, stderr := "fatal: this run was not told\n".toUTF8, code := 128 }

/-- What a run finds.  Of equally likely elements the first one is picked, and of a text that is no document it is not
said what is wrong with it. -/
def surroundings (notices : Notices) (logFilter : Option String) : Surroundings where
  now := notices.now
  zone := notices.now.offset
  chance := fun _ => 0
  variableOf := fun name => notices.assignments.lookup name
  traversal := .asWritten
  complaints := fun page _ => ["Failed to parse '" ++ page ++ "'"]
  files := notices.files
  executable := notices.executable
  logFilter := logFilter.filter (· ≠ "")

/-- Adds a file with its directories.  What cannot be there stays away. -/
def addFile (notices : Notices) (path : String) (bytes : ByteArray) : Notices :=
  let added := do
    let files ← notices.files.createDirectories ((Path.parent? path).getD "")
    files.write path bytes
  match added with
  | .ok files => { notices with files }
  | .error _ => notices

/-- A tree that holds only the directories around the current one. -/
def start (workingDirectory : String) : Notices :=
  let root : FileTree := { root := .directory [], workingDirectory := "/" }
  match root.createDirectories workingDirectory with
  | .ok files => { files := { files with workingDirectory } }
  | .error _ => { files := root }

end Notices

/-- The directory of a location as an absolute path. -/
def pathOf (location : Location) : String :=
  "/" ++ "/".intercalate location

/-- Takes a notice in; the bytes of a file are read here. -/
def takeIn (notices : Notices) : Notice → IO Notices
  | .file path => do return notices.addFile path (← IO.FS.readBinFile path)
  | .git arguments outcome =>
    return { notices with runs := notices.runs ++ [(arguments, outcome)] }
  | .set name value => return { notices with assignments := notices.assignments ++ [(name, value)] }
  | .now moment => return { notices with now := moment }

/-- Takes standard input in to its end; lines that are no notices do not count. -/
partial def takeAll (input : IO.FS.Stream) (notices : Notices) : IO Notices := do
  let line ← input.getLine
  if line.isEmpty then return notices
  match (Json.parse? line).bind Notice.ofJson? with
  | some notice => takeAll input (← takeIn notices notice)
  | none => takeAll input notices

/-- Writes one file with the directories around it. -/
def store (location : Location) (bytes : ByteArray) : IO Unit := do
  IO.FS.createDirAll (pathOf location.dropLast)
  IO.FS.writeBinFile (pathOf location) bytes

end ReleasePress.CommandLine

open ReleasePress ReleasePress.CommandLine in
/-- Runs the program: prints what the run prints, writes the files that it changed, and ends with its code. -/
def main (arguments : List String) : IO UInt32 := do
  let directory := (← IO.getEnv "PWD").getD "/"
  let notices ← takeAll (← IO.getStdin) (Notices.start directory)
  let outcome := run (notices.surroundings (← IO.getEnv "RUST_LOG")) arguments
  for (location, bytes) in notices.files.changes outcome.files do
    store location bytes
  IO.print outcome.stdout
  IO.eprint outcome.stderr
  return outcome.code.toUInt32
