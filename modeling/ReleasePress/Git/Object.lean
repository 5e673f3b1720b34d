import ReleasePress.Calendar.Moment
import ReleasePress.Git.ObjectId

/-!
# Objects of a repository

The objects that templates can hold: commits, annotated tags, notes, and pointers to objects of which
only id and kind matter.

## Main declarations

* `Git.Signature`: who did something and when.
* `Git.Commit`, `Git.Tag`, `Git.Note`, `Git.Pointer`.
* `Git.Object`: any of them.
-/

namespace ReleasePress.Git

/-- Identity and time of a commit, a tag or a note. -/
structure Signature where
  name : String
  email : String
  time : Moment
  deriving DecidableEq

/-- The id and the kind of an object. -/
structure Pointer where
  oid : ObjectId
  kind : ObjectKind
  deriving DecidableEq

/-- A commit; its summary is the first line of its message. -/
structure Commit where
  oid : ObjectId
  tree : Option ObjectId
  parents : List ObjectId
  author : Signature
  committer : Signature
  summary : String
  message : String
  deriving DecidableEq

/-- The date of a commit is its committer's time. -/
def Commit.date (commit : Commit) : Moment :=
  commit.committer.time

/-- An annotated tag. -/
structure Tag where
  oid : ObjectId
  name : String
  target : Pointer
  tagger : Option Signature
  message : String
  deriving DecidableEq

/-- A note on the object `target`, whose text is the blob `oid`. -/
structure Note where
  oid : ObjectId
  target : ObjectId
  committer : Signature
  message : String
  deriving DecidableEq

/-- An object that a template can hold. -/
inductive Object where
  | commit (commit : Commit)
  | tag (tag : Tag)
  | note (note : Note)
  | pointer (pointer : Pointer)
  deriving DecidableEq

namespace Object

/-- The id of the object itself. -/
def oid : Object → ObjectId
  | commit c => c.oid
  | tag t => t.oid
  | note n => n.oid
  | pointer p => p.oid

/-- The name of the object's kind. -/
def kindName : Object → String
  | commit _ => "commit"
  | tag _ => "tag"
  | note _ => "note"
  | pointer p => p.kind.name

end Object

end ReleasePress.Git
