import ReleasePress.Proofs.Calendar.Timestamp
import ReleasePress.Value

/-!
# Objects survive JSON

The JSON object of an object decodes to that object, and so does the value that a filter is handed:
`Object.json_roundTrip`.  Decoding tries the fields that the kind names first and falls back
on a bare pointer, so each kind needs a lemma of its own which says that no field is lost on the way.
-/

namespace ReleasePress

@[simp] theorem Json.field?_nil (key : String) : Json.field? key [] = none := rfl

@[simp] theorem Json.field?_cons (key name : String) (value : Json) (fields : Fields) :
    Json.field? key ((name, value) :: fields) =
      if name = key then some value else Json.field? key fields := rfl

namespace Git

open ReleasePress.Json ReleasePress.Text

/-! ## Ids and kinds -/

theorem toLower_of_isHexDigit {c : Char} (h : isHexDigit c = true) : c.toLower = c := by
  have hupper : ¬ (c.val ≥ 'A'.val ∧ c.val ≤ 'Z'.val) := by
    simp only [isHexDigit, isDigit, Bool.or_eq_true, Bool.and_eq_true, decide_eq_true_eq] at h
    rintro ⟨hA, hZ⟩
    rcases h with ⟨-, hnine⟩ | ⟨ha, -⟩
    · have hlt : 'A'.val ≤ '9'.val := UInt32.le_trans hA hnine
      exact absurd hlt (by decide)
    · have hlt : 'a'.val ≤ 'Z'.val := UInt32.le_trans ha hZ
      exact absurd hlt (by decide)
  rw [Char.toLower, dif_neg hupper]

/-- An id is spelled in lower case already, so reading it changes nothing. -/
theorem ObjectId.parse?_text (oid : ObjectId) : ObjectId.parse? oid.text = some oid := by
  obtain ⟨text, valid⟩ := oid
  have hlower : lowerAscii text = text := by
    rw [lowerAscii]
    have hmap : text.toList.map Char.toLower = text.toList := by
      refine (List.map_congr_left fun c hc => ?_).trans (List.map_id _)
      simp only [isObjectId, Bool.and_eq_true, List.all_eq_true] at valid
      exact toLower_of_isHexDigit (valid.1 c hc)
    rw [hmap, String.ofList_toList]
  simp [ObjectId.parse?, hlower, valid]

@[simp] theorem ObjectId.ofJson?_toJson (oid : ObjectId) :
    ObjectId.ofJson? oid.toJson = some oid :=
  oid.parse?_text

/-! ## Parts of objects -/

theorem Signature.ofJson?_toJson {s : Signature} (h : s.time.IsTold) :
    Signature.ofJson? s.toJson = some s := by
  simp [Signature.toJson, Signature.ofJson?, Signature.ofParts?,
    Timestamp.readLenient?_write true h]

@[simp] theorem Pointer.ofJson?_toJson (p : Pointer) : Pointer.ofJson? p.toJson = some p := by
  simp [Pointer.toJson, Pointer.ofJson?, Pointer.ofParts?, ObjectKind.ofJson?,
    ObjectKind.ofName?_name]

/-- A part that may be missing is null then, and is read back either way. -/
theorem optional?_optional {α : Type} {encode : α → Json} {decode : Json → Option α} {part : Option α}
    (h : ∀ a ∈ part, decode (encode a) = some a ∧ encode a ≠ .null) :
    optional? decode (some (optional encode part)) = some part := by
  cases part with
  | none => rfl
  | some a =>
      obtain ⟨hdecode, hne⟩ := h a rfl
      rw [optional, optional?.eq_3 _ _ hne, hdecode, Option.map_some]

theorem Commit.parents?_map (parents : List ObjectId) :
    Commit.parents? (some (.array (parents.map ObjectId.toJson))) = some parents := by
  rw [Commit.parents?]
  induction parents with
  | nil => rfl
  | cons oid parents ih => simp [ih]

/-! ## Objects -/

/-- The signatures that an object holds. -/
def Object.signatures : Object → List Signature
  | commit c => [c.author, c.committer]
  | tag t => t.tagger.toList
  | note n => [n.committer]
  | pointer _ => []

theorem Commit.ofFields?_toJson {c : Commit} (hauthor : c.author.time.IsTold)
    (hcommitter : c.committer.time.IsTold) :
    ∃ fields, c.toJson = .object fields ∧ text? "type" fields = some "commit" ∧
      id? "oid" fields = some c.oid ∧ Commit.ofFields? fields = some c := by
  refine ⟨_, rfl, by simp [text?, str?], by simp [id?], ?_⟩
  have htree : optional? ObjectId.ofJson? (some (optional ObjectId.toJson c.tree)) = some c.tree :=
    optional?_optional fun oid _ => ⟨oid.ofJson?_toJson, by simp [ObjectId.toJson]⟩
  simp [Commit.ofFields?, id?, text?, signature?, str?, Commit.summary?, htree,
    Commit.parents?_map, Signature.ofJson?_toJson hauthor, Signature.ofJson?_toJson hcommitter]

theorem Tag.ofFields?_toJson {t : Tag} (h : ∀ s ∈ t.tagger, s.time.IsTold) :
    ∃ fields, t.toJson = .object fields ∧ text? "type" fields = some "tag" ∧
      id? "oid" fields = some t.oid ∧ Tag.ofFields? fields = some t := by
  refine ⟨_, rfl, by simp [text?, str?], by simp [id?], ?_⟩
  have htagger : optional? Signature.ofJson? (some (optional Signature.toJson t.tagger)) =
      some t.tagger :=
    optional?_optional fun s hs => ⟨Signature.ofJson?_toJson (h s hs), by simp [Signature.toJson]⟩
  simp [Tag.ofFields?, id?, text?, str?, htagger]

theorem Note.ofFields?_toJson {n : Note} (h : n.committer.time.IsTold) :
    ∃ fields, n.toJson = .object fields ∧ text? "type" fields = some "note" ∧
      id? "oid" fields = some n.oid ∧ Note.ofFields? fields = some n := by
  refine ⟨_, rfl, by simp [text?, str?], by simp [id?], ?_⟩
  simp [Note.ofFields?, id?, text?, signature?, str?, Signature.ofJson?_toJson h]

/-- A pointer has no other fields than those that a bare pointer is made of. -/
theorem Pointer.ofObject?_toJson (p : Pointer) :
    Object.ofJson? p.toJson = some (.pointer p) := by
  have hkind : text? "type" [("oid", p.oid.toJson), ("type", .string p.kind.name)] =
      some p.kind.name := by simp [text?, str?]
  have hoid : id? "oid" [("oid", p.oid.toJson), ("type", .string p.kind.name)] = some p.oid := by
    simp [id?]
  have hfields : Object.ofFields? p.kind.name
      [("oid", p.oid.toJson), ("type", .string p.kind.name)] = none := by
    cases p.kind <;>
      simp [ObjectKind.name, Object.ofFields?, Commit.ofFields?, Tag.ofFields?, id?, text?,
        signature?, optional?, Commit.parents?]
  simp [Pointer.toJson, Object.ofJson?, hkind, hoid, hfields, ObjectKind.ofName?_name]

/-- The JSON object of an object decodes to it. -/
theorem Object.ofJson?_toJson {o : Object} (h : ∀ s ∈ o.signatures, s.time.IsTold) :
    Object.ofJson? o.toJson = some o := by
  cases o with
  | commit c =>
      obtain ⟨fields, htoJson, htype, hoid, hfields⟩ :=
        Commit.ofFields?_toJson (h c.author (by simp [signatures])) (h c.committer (by simp [signatures]))
      simp [toJson, htoJson, ofJson?, htype, hoid, ofFields?, hfields]
  | tag t =>
      obtain ⟨fields, htoJson, htype, hoid, hfields⟩ :=
        Tag.ofFields?_toJson fun s hs => h s (by simpa [signatures] using hs)
      simp [toJson, htoJson, ofJson?, htype, hoid, ofFields?, hfields]
  | note n =>
      obtain ⟨fields, htoJson, htype, hoid, hfields⟩ :=
        Note.ofFields?_toJson (h n.committer (by simp [signatures]))
      simp [toJson, htoJson, ofJson?, htype, hoid, ofFields?, hfields]
  | pointer p => exact p.ofObject?_toJson

theorem Object.exists_toJson_eq_object (o : Object) : ∃ fields, o.toJson = .object fields := by
  cases o <;> exact ⟨_, rfl⟩

/-- What a filter is handed for the JSON object of an object. -/
theorem Object.ofJson_toJson {o : Object} (h : ∀ s ∈ o.signatures, s.time.IsTold) :
    Value.ofJson o.toJson = .object o := by
  obtain ⟨fields, hfields⟩ := o.exists_toJson_eq_object
  have hread := Object.ofJson?_toJson h
  rw [hfields, Value.ofJson, ← hfields, hread]

/-- **Objects survive JSON.**  If each signature time of an object is one that a timestamp can tell in
full, the JSON object of the object decodes to it, and lifting its lowered value gives it back. -/
theorem Object.json_roundTrip (o : Object)
    (h : ∀ s ∈ o.signatures, s.time.IsWritable) :
    Object.ofJson? o.toJson = some o ∧
      Value.ofJson (Value.toJson (.object o)) = .object o := by
  have htold : ∀ s ∈ o.signatures, s.time.IsTold := fun s hs => (h s hs).isTold
  exact ⟨Object.ofJson?_toJson htold, Object.ofJson_toJson htold⟩

/-- A tag whose tagger signed in a leap second, half past five hours east. -/
def Object.leapSecondTag : Object :=
  .tag {
    oid := ObjectId.emptyTree
    name := "v1.0.0"
    target := ⟨ObjectId.emptyTree, .tree⟩
    tagger := some ⟨"Jane Doe", "jane@example.org", ⟨1483228799, 1250000000, 19800⟩⟩
    message := "Release\n" }

theorem Object.json_roundTrip_leapSecondTag :
    (∀ s ∈ leapSecondTag.signatures, s.time.IsWritable) ∧
      Object.ofJson? leapSecondTag.toJson = some leapSecondTag ∧
      Value.ofJson (Value.toJson (.object leapSecondTag)) = .object leapSecondTag := by
  have h : ∀ s ∈ leapSecondTag.signatures, s.time.IsWritable := by
    intro s hs
    simp only [signatures, leapSecondTag, Option.toList_some, List.mem_singleton] at hs
    subst hs
    constructor <;> decide
  exact ⟨h, Object.json_roundTrip leapSecondTag h⟩

end Git

end ReleasePress
