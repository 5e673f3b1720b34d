import ReleasePress.Git.ObjectId

/-!
# Failures of a repository

What can go wrong when a repository is asked for an object.

## Main declarations

* `Git.OutputFault`: output of Git that cannot be understood.
* `Git.RepositoryError`, with its text `Git.RepositoryError.message`.
-/

namespace ReleasePress.Git

/-- Output of Git that cannot be understood. -/
inductive OutputFault where
  | unknownKind (name : String)
  | unexpectedLog (output : String)
  | invalidNoteTime (time : String)
  | invalidSignature (raw : String)
  | invalidTimestamp (raw : String)
  | invalidTimezone (raw : String)
  | timestampOutOfRange (raw : String)
  | missingField (kind : ObjectKind) (oid : ObjectId) (field : String)
  deriving DecidableEq

/-- What cannot be understood, in words. -/
def OutputFault.message : OutputFault → String
  | unknownKind name => "unknown object type '" ++ name ++ "'"
  | unexpectedLog output => "unexpected notes log output '" ++ output ++ "'"
  | invalidNoteTime time => "invalid notes commit time '" ++ time ++ "'"
  | invalidSignature raw => "invalid signature '" ++ raw ++ "'"
  | invalidTimestamp raw => "invalid timestamp in '" ++ raw ++ "'"
  | invalidTimezone raw => "invalid timezone in '" ++ raw ++ "'"
  | timestampOutOfRange raw => "timestamp out of range in '" ++ raw ++ "'"
  | missingField kind oid field => kind.name ++ " " ++ oid.text ++ " has no " ++ field

/-- Failures to run a program or to read its output. -/
inductive PipeFault where
  | zeroByte
  | invalidText
  deriving DecidableEq, Repr

/-- A failure of a repository. -/
inductive RepositoryError where
  | invalidObjectId (text : String)
  | invalidRevision (text : String)
  | objectNotFound (name : String)
  | noteNotFound (oid : ObjectId) (notesRef : String)
  | commandFailed (command stderr : String)
  | parse (fault : OutputFault)
  | aliases (path reason : String)
  | pipe (fault : PipeFault)
  deriving DecidableEq

/-- The text of a failure. -/
def RepositoryError.message : RepositoryError → String
  | invalidObjectId text => "'" ++ text ++ "' is not a valid object ID"
  | invalidRevision text => "Invalid revision '" ++ text ++ "'"
  | objectNotFound name => "Object '" ++ name ++ "' not found"
  | noteNotFound oid notesRef => "No note for '" ++ oid.text ++ "' under '" ++ notesRef ++ "'"
  | commandFailed command _ => "Git command failed: " ++ command
  | parse fault => "Failed to parse git output: " ++ fault.message
  | aliases path reason => "Failed to load alias map from " ++ path ++ ": " ++ reason
  | pipe .zeroByte => "nul byte found in provided data"
  | pipe .invalidText => "stream did not contain valid UTF-8"

/-- An object id, or the failure of a text that is none. -/
def ObjectId.ofText (text : String) : Except RepositoryError ObjectId :=
  match ObjectId.parse? text with
  | some oid => .ok oid
  | none => .error (.invalidObjectId text)

/-- An object kind, or the failure of a text that names none. -/
def ObjectKind.ofText (text : String) : Except RepositoryError ObjectKind :=
  match ObjectKind.ofName? text with
  | some kind => .ok kind
  | none => .error (.parse (.unknownKind text))

end ReleasePress.Git
