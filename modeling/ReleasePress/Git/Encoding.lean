import ReleasePress.Calendar.Pattern.Reader
import ReleasePress.Git.Object
import ReleasePress.Json.Basic

/-!
# Objects as JSON

Templates see an object as a JSON object with a `type`.  Decoding restores the object from such a value;
a value that names a kind and an id but is otherwise incomplete still decodes as a pointer.

## Main declarations

* `Git.Object.toJson`: the value of an object.
* `Git.Object.ofJson?`: the object of a value.
-/

namespace ReleasePress.Git

open ReleasePress.Json

/-- An optional value as JSON. -/
def optional {α : Type} (encode : α → Json) : Option α → Json
  | some a => encode a
  | none => .null

/-- A field that may be missing or null. -/
def optional? {α : Type} (decode : Json → Option α) : Option Json → Option (Option α)
  | none => some none
  | some .null => some none
  | some value => (decode value).map some

namespace ObjectId

def toJson (oid : ObjectId) : Json :=
  .string oid.text

def ofJson? : Json → Option ObjectId
  | .string text => parse? text
  | _ => none

end ObjectId

namespace ObjectKind

/-- A kind is its name, which may also be the only name of an object that holds null. -/
def ofJson? : Json → Option ObjectKind
  | .string name => ofName? name
  | .object [(name, .null)] => ofName? name
  | _ => none

end ObjectKind

namespace Signature

def toJson (s : Signature) : Json :=
  .object [("name", .string s.name), ("email", .string s.email),
    ("time", .string (Timestamp.write true s.time))]

/-- A signature of its three parts. -/
def ofParts? : Json → Json → Json → Option Signature
  | .string name, .string email, .string time =>
    (Timestamp.readLenient? time).map fun time => ⟨name, email, time⟩
  | _, _, _ => none

/-- A signature is an object with its three fields or a list of the three. -/
def ofJson? : Json → Option Signature
  | .object fields => do
    ofParts? (← field? "name" fields) (← field? "email" fields) (← field? "time" fields)
  | .array [name, email, time] => ofParts? name email time
  | _ => none

end Signature

namespace Pointer

def toJson (p : Pointer) : Json :=
  .object [("oid", p.oid.toJson), ("type", .string p.kind.name)]

/-- A pointer of its two parts. -/
def ofParts? (oid kind : Json) : Option Pointer := do
  some ⟨← ObjectId.ofJson? oid, ← ObjectKind.ofJson? kind⟩

/-- A pointer is an object with its two fields or a list of the two. -/
def ofJson? : Json → Option Pointer
  | .object fields => do ofParts? (← field? "oid" fields) (← field? "type" fields)
  | .array [oid, kind] => ofParts? oid kind
  | _ => none

end Pointer

/-- The text of a required field. -/
def text? (key : String) (fields : Fields) : Option String :=
  (field? key fields).bind Json.str?

/-- The id of a required field. -/
def id? (key : String) (fields : Fields) : Option ObjectId :=
  (field? key fields).bind ObjectId.ofJson?

/-- The signature of a required field. -/
def signature? (key : String) (fields : Fields) : Option Signature :=
  (field? key fields).bind Signature.ofJson?

namespace Commit

/-- The fields of a commit, followed by its kind and its date. -/
def toJson (c : Commit) : Json :=
  .object [("oid", c.oid.toJson), ("tree", optional ObjectId.toJson c.tree),
    ("parents", .array (c.parents.map ObjectId.toJson)), ("author", c.author.toJson),
    ("committer", c.committer.toJson), ("summary", .string c.summary),
    ("message", .string c.message), ("type", .string "commit"),
    ("date", .string (Timestamp.write false c.date))]

/-- The parents; a commit without the field has none. -/
def parents? : Option Json → Option (List ObjectId)
  | none => some []
  | some (.array items) => items.mapM ObjectId.ofJson?
  | some _ => none

/-- The summary; a commit without the field has an empty one. -/
def summary? : Option Json → Option String
  | none => some ""
  | some value => value.str?

def ofFields? (fields : Fields) : Option Commit := do
  let oid ← id? "oid" fields
  let tree ← optional? ObjectId.ofJson? (field? "tree" fields)
  let parents ← parents? (field? "parents" fields)
  let author ← signature? "author" fields
  let committer ← signature? "committer" fields
  let summary ← summary? (field? "summary" fields)
  let message ← text? "message" fields
  some { oid, tree, parents, author, committer, summary, message }

end Commit

namespace Tag

def toJson (t : Tag) : Json :=
  .object [("oid", t.oid.toJson), ("name", .string t.name), ("target", t.target.toJson),
    ("tagger", optional Signature.toJson t.tagger), ("message", .string t.message),
    ("type", .string "tag")]

def ofFields? (fields : Fields) : Option Tag := do
  let oid ← id? "oid" fields
  let name ← text? "name" fields
  let target ← (field? "target" fields).bind Pointer.ofJson?
  let tagger ← optional? Signature.ofJson? (field? "tagger" fields)
  let message ← text? "message" fields
  some { oid, name, target, tagger, message }

end Tag

namespace Note

def toJson (n : Note) : Json :=
  .object [("oid", n.oid.toJson), ("target", n.target.toJson), ("committer", n.committer.toJson),
    ("message", .string n.message), ("type", .string "note")]

def ofFields? (fields : Fields) : Option Note := do
  let oid ← id? "oid" fields
  let target ← id? "target" fields
  let committer ← signature? "committer" fields
  let message ← text? "message" fields
  some { oid, target, committer, message }

end Note

namespace Object

/-- The JSON object of an object. -/
def toJson : Object → Json
  | commit c => c.toJson
  | tag t => t.toJson
  | note n => n.toJson
  | pointer p => p.toJson

/-- The object that the fields describe in full. -/
def ofFields? (kind : String) (fields : Fields) : Option Object :=
  match kind with
  | "commit" => (Commit.ofFields? fields).map commit
  | "tag" => (Tag.ofFields? fields).map tag
  | "note" => (Note.ofFields? fields).map note
  | _ => none

/-- The object of a JSON object with a type and an id.  One that is incomplete is a pointer, unless it
is a note. -/
def ofJson? : Json → Option Object
  | .object fields => do
    let kind ← text? "type" fields
    let oid ← id? "oid" fields
    match ofFields? kind fields with
    | some found => some found
    | none => (ObjectKind.ofName? kind).map fun kind => pointer ⟨oid, kind⟩
  | _ => none

end Object

end ReleasePress.Git
