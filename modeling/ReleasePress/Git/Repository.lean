import ReleasePress.Git.Error
import ReleasePress.Git.Object

/-!
# Repositories

What templates may ask a repository.  Answers can depend on and change a state `σ`, such as the record
of the commands that were run.

## Main declarations

* `AliasResolver`: canonical identities and handles of contributors.
* `Git.Repository`: the questions.
* `Git.Repository.take`, `Git.Repository.history`: the beginning of a walk over the ancestors of a
  commit, and the whole of it.
-/

namespace ReleasePress

/-- Canonical identities and handles of contributors, by name and email. -/
structure AliasResolver where
  /-- The canonical `Name <email>`. -/
  identity? : String → String → Option String
  /-- The handle on a platform, which is the last argument. -/
  handle? : String → String → String → Option String

namespace Git

/-- A revision that may be asked for: it is not empty and cannot be taken for an option. -/
def isRevision (text : String) : Bool :=
  match text.toList with
  | [] => false
  | c :: _ => c != '-'

theorem isRevision_iff {text : String} :
    isRevision text = true ↔ text ≠ "" ∧ text.toList.head? ≠ some '-' := by
  rw [isRevision, ne_eq, ← String.toList_eq_nil_iff]
  cases text.toList <;> simp

/-- The questions that a repository answers. -/
structure Repository (σ : Type) where
  /-- The object with an id. -/
  object : ObjectId → StateM σ (Except RepositoryError Object)
  /-- The object that a revision names. -/
  revision : String → StateM σ (Except RepositoryError Object)
  /-- What is left of a walk over ancestors. -/
  Walk : Type
  /-- The walk over the ancestors of a commit, which begins with the commit itself. -/
  walk : ObjectId → StateM σ (Except RepositoryError Walk)
  /-- The next item of a walk and what is left after it. -/
  next : Walk → StateM σ (Option (Except RepositoryError Commit × Walk))
  /-- At least the number of items left, if the walk ends. -/
  bound : Walk → Nat
  /-- The note on an object under a notes ref. -/
  note : ObjectId → String → StateM σ (Except RepositoryError Note)
  /-- The aliases of the contributors, if the repository has any. -/
  aliases : StateM σ (Except RepositoryError (Option AliasResolver))

namespace Repository

variable {σ : Type}

/-- At most `n` items of a walk. -/
def take (repository : Repository σ) : Nat → repository.Walk →
    StateM σ (List (Except RepositoryError Commit))
  | 0, _ => pure []
  | n + 1, walk => do
    match ← repository.next walk with
    | none => pure []
    | some (item, rest) => return item :: (← take repository n rest)

/-- At most `n` commits of a walk; the first item that is none ends the walk. -/
def collect (repository : Repository σ) : Nat → repository.Walk →
    StateM σ (Except RepositoryError (List Commit))
  | 0, _ => pure (.ok [])
  | n + 1, walk => do
    match ← repository.next walk with
    | none => pure (.ok [])
    | some (.error e, _) => pure (.error e)
    | some (.ok commit, rest) =>
      match ← collect repository n rest with
      | .ok commits => pure (.ok (commit :: commits))
      | .error e => pure (.error e)

/-- All commits of the walk from a commit. -/
def history (repository : Repository σ) (from_ : ObjectId) :
    StateM σ (Except RepositoryError (List Commit)) := do
  match ← repository.walk from_ with
  | .error e => pure (.error e)
  | .ok walk => repository.collect (repository.bound walk) walk

end Repository

end Git

end ReleasePress
