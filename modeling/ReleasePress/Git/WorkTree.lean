import ReleasePress.Calendar.Timestamp
import ReleasePress.Files.Aliases
import ReleasePress.Git.Command
import ReleasePress.Git.Raw
import ReleasePress.Git.Repository

/-!
# Repositories on disk

A repository with a work tree, asked through the Git executable.  Answers are read from the raw output
of commands; the aliases come from a file in the work tree.

## Main declarations

* `Git.WorkTree`: the top directory and the file of the aliases.
* `Git.WorkTree.open`: the work tree around a directory.
* `Git.WorkTree.repository`: the questions that it answers.
-/

namespace ReleasePress.Git

open ReleasePress.Text

/-- A work tree. -/
structure WorkTree where
  /-- The top directory. -/
  path : String
  /-- The file of the aliases, as seen from the top directory. -/
  aliasFile : String
  deriving DecidableEq, Repr

/-- Where aliases are kept unless another file is chosen. -/
def defaultAliasFile : String :=
  ".release-docs/aliases.yml"

namespace WorkTree

/-- The work tree around a directory. -/
def open_ (executable : Executable) (directory : String) : Run (Except RepositoryError WorkTree) := do
  match ← { Command.topLevel with directory := some directory }.run executable with
  | .error e => pure (.error e)
  | .ok output => pure (.ok { path := trimmed output.stdout, aliasFile := defaultAliasFile })

/-- What a command prints when it is run in the top directory. -/
def output (executable : Executable) (tree : WorkTree) (command : Command) :
    Run (Except RepositoryError String) := do
  match ← { command with directory := some tree.path }.run executable with
  | .error e => pure (.error e)
  | .ok output => pure (.ok output.stdout)

/-- The kind of the object with an id. -/
def objectKind (executable : Executable) (tree : WorkTree) (oid : ObjectId) :
    Run (Except RepositoryError ObjectKind) := do
  match ← tree.output executable (Command.objectKind oid) with
  | .error _ => pure (.error (.objectNotFound oid.text))
  | .ok text => pure (ObjectKind.ofText (trimmed text))

/-- The commit with an id. -/
def commit (executable : Executable) (tree : WorkTree) (oid : ObjectId) :
    Run (Except RepositoryError Commit) := do
  match ← tree.output executable (Command.contents .commit oid) with
  | .error e => pure (.error e)
  | .ok raw => pure (Commit.ofRaw oid raw)

/-- The tag with an id. -/
def tag (executable : Executable) (tree : WorkTree) (oid : ObjectId) :
    Run (Except RepositoryError Tag) := do
  match ← tree.output executable (Command.contents .tag oid) with
  | .error e => pure (.error e)
  | .ok raw => pure (Tag.ofRaw oid raw)

/-- The object with an id. -/
def object (executable : Executable) (tree : WorkTree) (oid : ObjectId) :
    Run (Except RepositoryError Object) := do
  match ← tree.objectKind executable oid with
  | .error e => pure (.error e)
  | .ok .commit =>
    match ← tree.commit executable oid with
    | .ok commit => pure (.ok (.commit commit))
    | .error e => pure (.error e)
  | .ok .tag =>
    match ← tree.tag executable oid with
    | .ok tag => pure (.ok (.tag tag))
    | .error e => pure (.error e)
  | .ok kind => pure (.ok (.pointer ⟨oid, kind⟩))

/-- The object that a revision names. -/
def revision (executable : Executable) (tree : WorkTree) (name : String) :
    Run (Except RepositoryError Object) := do
  if !isRevision name then pure (.error (.invalidRevision name))
  else
    match ← tree.output executable (Command.resolve name) with
    | .error _ => pure (.error (.objectNotFound name))
    | .ok text =>
      match ObjectId.ofText (trimmed text) with
      | .error e => pure (.error e)
      | .ok oid => tree.object executable oid

/-- The lines of some bytes; a line that is no text is `none`. -/
def byteLines (line : List UInt8) : List UInt8 → List (Option String)
  | [] => if line.isEmpty then [] else [decoded line]
  | b :: bytes => if b = 10 then decoded line :: byteLines [] bytes else byteLines (b :: line) bytes
where
  decoded (line : List UInt8) : Option String :=
    String.fromUTF8? (ByteArray.mk line.reverse.toArray)

/-- The ids of the ancestors of a commit, one a line, as the executable lists them. -/
def walk (executable : Executable) (tree : WorkTree) (oid : ObjectId) :
    Run (Except RepositoryError (List (Option String))) := do
  match ← tree.objectKind executable oid with
  | .error e => pure (.error e)
  | .ok kind =>
    if kind ≠ .commit then pure (.error (.objectNotFound oid.text))
    else
      match ← { Command.ancestors oid with directory := some tree.path }.start executable with
      | .error e => pure (.error e)
      | .ok outcome => pure (.ok (byteLines [] outcome.stdout.toList))

/-- The commit of the next line. -/
def next (executable : Executable) (tree : WorkTree) (lines : List (Option String)) :
    Run (Option (Except RepositoryError Commit × List (Option String))) := do
  match lines with
  | [] => pure none
  | none :: rest => pure (some (.error (.pipe .invalidText), rest))
  | some line :: rest =>
    match ObjectId.ofText (trimmed line) with
    | .error e => pure (some (.error e, rest))
    | .ok oid => return some (← tree.commit executable oid, rest)

/-- The committer of a note: name, email and time of the last change, separated by unit separators. -/
def committerOf (log : String) : Except RepositoryError Signature :=
  let log := trim log.toList
  match cutAt? ['\x1f'] log with
  | none => .error (.parse (.unexpectedLog (String.ofList log)))
  | some (name, rest) =>
    match cutAt? ['\x1f'] rest with
    | none => .error (.parse (.unexpectedLog (String.ofList log)))
    | some (email, time) =>
      match Timestamp.read? (String.ofList time) with
      | none => .error (.parse (.invalidNoteTime (String.ofList time)))
      | some m => .ok ⟨String.ofList name, String.ofList email, m⟩

/-- The committer of the last change of a note.  The note's file may lie in a directory of two digits;
where it lies deeper, the last change of the whole notes ref counts. -/
def noteCommitter (executable : Executable) (tree : WorkTree) (notesRef : String) (oid : ObjectId) :
    Run (Except RepositoryError Signature) := do
  let digits := oid.text.toList
  let nested := String.ofList (digits.take 2) ++ "/" ++ String.ofList (digits.drop 2)
  match ← tree.output executable (Command.lastChange notesRef [oid.text, nested]) with
  | .error e => pure (.error e)
  | .ok log =>
    if (trimmed log).isEmpty then
      match ← tree.output executable (Command.lastChange notesRef []) with
      | .error e => pure (.error e)
      | .ok log => pure (committerOf log)
    else pure (committerOf log)

/-- The note on an object under a notes ref. -/
def note (executable : Executable) (tree : WorkTree) (oid : ObjectId) (notesRef : String) :
    Run (Except RepositoryError Note) := do
  let notesRef := qualifyNotesRef notesRef
  match ← tree.output executable (Command.noteId notesRef oid) with
  | .error _ => pure (.error (.noteNotFound oid notesRef))
  | .ok id =>
    match ← tree.output executable (Command.noteText notesRef oid) with
    | .error _ => pure (.error (.noteNotFound oid notesRef))
    | .ok message =>
      match ObjectId.ofText (trimmed id) with
      | .error e => pure (.error e)
      | .ok id =>
        match ← tree.noteCommitter executable notesRef oid with
        | .error e => pure (.error e)
        | .ok committer => pure (.ok { oid := id, target := oid, committer, message })

/-- The aliases of the alias file; a work tree without the file has none. -/
def aliases (files : FileTree) (tree : WorkTree) : Except RepositoryError (Option AliasResolver) :=
  let path := Path.join tree.path tree.aliasFile
  if files.isFile path then
    match AliasFile.load files path with
    | .ok aliases => .ok (some aliases.resolver)
    | .error failure => .error (.aliases path (failure.reason path))
  else .ok none

/-- The questions that a work tree answers.  What is left of a walk is the lines not yet read. -/
def repository (executable : Executable) (files : FileTree) (tree : WorkTree) :
    Repository (List Invocation) where
  object := tree.object executable
  revision := tree.revision executable
  Walk := List (Option String)
  walk := tree.walk executable
  next := tree.next executable
  bound := List.length
  note := tree.note executable
  aliases := pure (tree.aliases files)

end WorkTree

end ReleasePress.Git
