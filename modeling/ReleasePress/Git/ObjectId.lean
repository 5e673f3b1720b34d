import ReleasePress.Text.Split

/-!
# Object ids and kinds

Objects of a Git database are named by a hash in lower-case hexadecimal digits, 40 or 64 of them, and
come in four kinds.

## Main declarations

* `Git.ObjectId`: a valid id.
* `Git.ObjectId.parse?`: reads an id in any letter case.
* `Git.ObjectKind`: commit, tag, tree or blob.
-/

namespace ReleasePress.Git

open ReleasePress.Text

/-- A lower-case hexadecimal digit. -/
def isHexDigit (c : Char) : Bool :=
  isDigit c || ('a' ≤ c && c ≤ 'f')

/-- The text of an object id: 40 or 64 lower-case hexadecimal digits. -/
def isObjectId (text : String) : Bool :=
  text.toList.all isHexDigit && (text.toList.length == 40 || text.toList.length == 64)

/-- The id of an object. -/
structure ObjectId where
  text : String
  valid : isObjectId text = true
  deriving DecidableEq

namespace ObjectId

/-- An id written in full, in any letter case. -/
def parse? (text : String) : Option ObjectId :=
  let lower := lowerAscii text
  if valid : isObjectId lower = true then some ⟨lower, valid⟩ else none

/-- The id of the tree without entries. -/
def emptyTree : ObjectId :=
  ⟨"4b825dc642cb6eb9a060e54bf8d69288fbee4904", by decide⟩

end ObjectId

/-- The kinds of objects. -/
inductive ObjectKind where
  | commit
  | tag
  | tree
  | blob
  deriving DecidableEq, Repr

namespace ObjectKind

def name : ObjectKind → String
  | commit => "commit"
  | tag => "tag"
  | tree => "tree"
  | blob => "blob"

/-- The kind with the given name. -/
def ofName? : String → Option ObjectKind
  | "commit" => some commit
  | "tag" => some tag
  | "tree" => some tree
  | "blob" => some blob
  | _ => none

theorem ofName?_name (kind : ObjectKind) : ofName? kind.name = some kind := by
  cases kind <;> rfl

end ObjectKind

/-- The full name of a notes ref: names outside `refs/` are short for names under `refs/notes/`. -/
def qualifyNotesRef (name : String) : String :=
  if startsWith "refs/" name then name else "refs/notes/" ++ name

end ReleasePress.Git
