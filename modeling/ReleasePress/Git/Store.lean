import ReleasePress.Git.Repository

/-!
# Repositories in memory

A store of objects that is built step by step.  Every commit, tag and note gets the next number as its
id, written in forty hexadecimal digits.

## Main declarations

* `Git.Store`: objects, refs, notes and aliases.
* `Git.Store.addCommit`, `addTag`, `addNote`, `addRef`: the steps.
* `Git.Store.repository`: the questions that a store answers; its state counts how often it was asked for
  its aliases.
-/

namespace ReleasePress.Git

/-- Objects, refs, notes and aliases.  In each list an entry replaces those after it with the same
key. -/
structure Store where
  /-- How many ids were given out. -/
  count : Nat := 0
  objects : List (ObjectId × Object) := []
  refs : List (String × ObjectId) := []
  notes : List ((String × ObjectId) × Note) := []
  aliases : Option AliasResolver := none

namespace Store

/-- The number in forty hexadecimal digits. -/
def idText (n : Nat) : String :=
  let digits := Nat.toDigits 16 n
  String.ofList (List.replicate (40 - digits.length) '0' ++ digits)

/-- The id with the given number.  Numbers that need more than forty digits share the id of zero. -/
def idOf (n : Nat) : ObjectId :=
  if valid : isObjectId (idText n) = true then ⟨idText n, valid⟩
  else ⟨String.ofList (List.replicate 40 '0'), by decide⟩

/-- The id that the next object gets. -/
def nextId (store : Store) : ObjectId :=
  idOf (store.count + 1)

/-- The only contributor of a store, at a given time. -/
def contributor (time : Moment) : Signature :=
  ⟨"Test User", "test@release-docs.example", time⟩

/-- Adds a commit whose message is its summary. -/
def addCommit (summary : String) (time : Moment) (parents : List ObjectId) (store : Store) :
    Commit × Store :=
  let commit : Commit :=
    { oid := store.nextId, tree := some ObjectId.emptyTree, parents, author := contributor time,
      committer := contributor time, summary, message := summary ++ "\n" }
  (commit, { store with
    count := store.count + 1, objects := (commit.oid, .commit commit) :: store.objects })

/-- Adds a tag on a commit, which its name then resolves to.  Without a time it has no tagger. -/
def addTag (name : String) (target : ObjectId) (time : Option Moment) (store : Store) :
    Tag × Store :=
  let tag : Tag :=
    { oid := store.nextId, name, target := ⟨target, .commit⟩, tagger := time.map contributor,
      message := "Release " ++ name ++ "\n" }
  (tag, { store with
    count := store.count + 1
    objects := (tag.oid, .tag tag) :: store.objects
    refs := (name, tag.oid) :: store.refs })

/-- Adds a note on an object under a notes ref. -/
def addNote (target : ObjectId) (notesRef message : String) (time : Moment) (store : Store) :
    Note × Store :=
  let note : Note := { oid := store.nextId, target, committer := contributor time, message }
  (note, { store with
    count := store.count + 1
    notes := ((qualifyNotesRef notesRef, target), note) :: store.notes })

/-- Makes a name resolve to an id. -/
def addRef (name : String) (oid : ObjectId) (store : Store) : Store :=
  { store with refs := (name, oid) :: store.refs }

/-- The object with an id. -/
def object (store : Store) (oid : ObjectId) : Except RepositoryError Object :=
  match store.objects.lookup oid with
  | some object => .ok object
  | none => .error (.objectNotFound oid.text)

/-- The object that a revision names: refs go before ids. -/
def revision (store : Store) (name : String) : Except RepositoryError Object :=
  if !isRevision name then .error (.invalidRevision name)
  else
    match store.refs.lookup name with
    | some oid => store.object oid
    | none =>
      match ObjectId.parse? name with
      | some oid => store.object oid
      | none => .error (.objectNotFound name)

/-- The commit with an id. -/
def commit? (store : Store) (oid : ObjectId) : Option Commit :=
  match store.objects.lookup oid with
  | some (.commit commit) => some commit
  | _ => none

/-- The commit that a walk goes to from a commit: its first parent, if the store has it. -/
def firstParent? (store : Store) (commit : Commit) : Option Commit :=
  commit.parents.head?.bind store.commit?

/-- The note on an object under a notes ref. -/
def note (store : Store) (oid : ObjectId) (notesRef : String) : Except RepositoryError Note :=
  match store.notes.lookup (qualifyNotesRef notesRef, oid) with
  | some note => .ok note
  | none => .error (.noteNotFound oid (qualifyNotesRef notesRef))

/-- The questions that a store answers.  What is left of a walk is its next commit.  A walk along parents that lead
back to where it was has no end of its own; it is cut after as many items as the store has objects. -/
def repository (store : Store) : Repository Nat where
  object oid := pure (store.object oid)
  revision name := pure (store.revision name)
  Walk := Option Commit
  walk oid := pure (match store.commit? oid with
    | some commit => .ok (some commit)
    | none => .error (.objectNotFound oid.text))
  next walk := pure (walk.map fun commit => (.ok commit, store.firstParent? commit))
  bound _ := store.objects.length
  note oid notesRef := pure (store.note oid notesRef)
  aliases := do
    modify (· + 1)
    pure (.ok store.aliases)

end Store

end ReleasePress.Git
