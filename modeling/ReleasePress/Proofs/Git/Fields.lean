import ReleasePress.Filter.Library
import ReleasePress.Json.Display
import ReleasePress.Proofs.Calendar.Spelling
import ReleasePress.Proofs.Environment
import ReleasePress.Proofs.Filter.Named
import ReleasePress.Proofs.Git.Encoding

/-!
# Fields of objects and of their JSON

A template reads a field of an object in two ways: from the JSON object that it holds, and through the
filter `get`, which is handed the object itself.  The two go by tables of their own, `Object.field?` and
`Object.toJson`.  `Object.fields_agree` says that they have the same keys, and under each key the same
value, except that the time of a signature is spelled in two ways when its offset is zero
(`SameTime`).
-/

namespace ReleasePress.Git

open ReleasePress.Json ReleasePress.Text

/-! ## Times -/

/-- Two texts of one time: at most offset zero is spelled in two ways, and no reader sees a difference. -/
structure SameTime (a b : String) : Prop where
  written : ∃ m, a = Timestamp.write false m ∧ b = Timestamp.write true m
  spelling : a = b ∨ ∃ text, a = text ++ "+00:00" ∧ b = text ++ "Z"
  read?_eq : Timestamp.read? a = Timestamp.read? b
  readLenient?_eq : Timestamp.readLenient? a = Timestamp.readLenient? b

/-- A timestamp starts with its year. -/
theorem exists_toList_writeLocal (m : Moment) :
    ∃ c rest, (Timestamp.writeLocal m).toList = c :: rest ∧ isBlank c = false := by
  obtain ⟨c, year, hyear, hc⟩ : ∃ c year,
      (Timestamp.writeYear m.localDay.year).toList = c :: year ∧ isBlank c = false := by
    have hdigits (n : Nat) : ∃ c digits, (padded 4 n).toList = c :: digits ∧ isBlank c = false := by
      obtain ⟨c, digits, hcons⟩ := List.exists_cons_of_ne_nil (padded_ne_nil 4 n)
      refine ⟨c, digits, hcons, isBlank_eq_false_of_isDigit ?_⟩
      exact (isNumeral_padded_self 4 n).isDigit c (by simp [hcons])
    unfold Timestamp.writeYear
    split
    · exact hdigits _
    · split
      · exact ⟨'-', _, String.toList_append .., by decide⟩
      · exact ⟨'+', _, String.toList_append .., by decide⟩
  have hfront : (Timestamp.writeYear m.localDay.year).toList <+: (Timestamp.writeLocal m).toList := by
    simp only [Timestamp.writeLocal, String.toList_append, List.append_assoc]
    exact List.prefix_append ..
  obtain ⟨rest, hrest⟩ := hfront
  exact ⟨c, year ++ rest, by rw [← hrest, hyear, List.cons_append], hc⟩

/-- The texts of a time with and without `Z` are the same time. -/
theorem sameTime_write (m : Moment) : SameTime (Timestamp.write false m) (Timestamp.write true m) := by
  by_cases hzero : m.offset = 0
  · have hplus : Timestamp.write false m = Timestamp.writeLocal m ++ "+00:00" := by
      rw [Timestamp.write, hzero]
      rfl
    have hzulu : Timestamp.write true m = Timestamp.writeLocal m ++ "Z" := by
      rw [Timestamp.write, hzero]
      rfl
    obtain ⟨c, rest, hlocal, hc⟩ := exists_toList_writeLocal m
    refine ⟨⟨m, rfl, rfl⟩, .inr ⟨_, hplus, hzulu⟩, ?_, ?_⟩
    · rw [hplus, hzulu, Timestamp.read?_zero]
    · rw [hplus, hzulu, Timestamp.readLenient?_zero hlocal hc]
  · have hsame : Timestamp.write false m = Timestamp.write true m := by simp [Timestamp.write, hzero]
    exact ⟨⟨m, rfl, rfl⟩, .inl hsame, congrArg Timestamp.read? hsame, congrArg Timestamp.readLenient? hsame⟩

/-! ## Values -/

/-- Two JSON values are the same, or the same signature with its time spelled in two ways. -/
inductive SameUpToSpelling : Json → Json → Prop where
  | refl (value : Json) : SameUpToSpelling value value
  | signature {name email a b : String} (h : SameTime a b) :
      SameUpToSpelling (.object [("name", .string name), ("email", .string email), ("time", .string a)])
        (.object [("name", .string name), ("email", .string email), ("time", .string b)])

theorem sameUpToSpelling_signature (s : Signature) :
    SameUpToSpelling (Value.ofSignature s).toJson s.toJson :=
  .signature (sameTime_write s.time)

/-- A part that is missing is null in both. -/
theorem sameUpToSpelling_optional {α : Type} {lift : α → Value} {encode : α → Json}
    (h : ∀ a, SameUpToSpelling (lift a).toJson (encode a)) (part : Option α) :
    SameUpToSpelling (Value.ofOption lift part).toJson (optional encode part) := by
  cases part with
  | none => exact .refl .null
  | some a => exact h a

theorem toJson_ids (oids : List ObjectId) :
    (Value.sequence (oids.map Value.ofId)).toJson = .array (oids.map ObjectId.toJson) := by
  have hitems : Value.toItems (oids.map Value.ofId) = oids.map ObjectId.toJson := by
    induction oids with
    | nil => rfl
    | cons oid oids ih => exact congrArg (List.cons _) ih
  rw [Value.toJson, hitems]

/-! ## The tables -/

/-- A key leads to the same value, or to none, in both tables. -/
abbrev SameField (field : Option Value) (json : Option Json) : Prop :=
  Option.Rel SameUpToSpelling (field.map Value.toJson) json

theorem sameField_some {value : Value} {json : Json} (h : SameUpToSpelling value.toJson json) :
    SameField (some value) (some json) :=
  .some h

theorem sameField_none {key : String} {fields : Fields} (h : key ∉ fields.map Prod.fst) :
    SameField none ((Json.object fields).get? key) := by
  have hnone : (Json.object fields).get? key = none := by
    rw [Json.get?]
    induction fields with
    | nil => rfl
    | cons field fields ih =>
        simp only [List.map_cons, List.mem_cons, not_or] at h
        rw [Json.field?, if_neg (Ne.symm h.1), ih h.2]
  rw [hnone]
  exact .none

theorem Commit.field?_toJson (c : Commit) (key : String) : SameField (c.field? key) (c.toJson.get? key) := by
  unfold Commit.field?
  split
  case h_3 => exact sameField_some (sameUpToSpelling_optional (fun oid => .refl oid.toJson) c.tree)
  case h_4 => exact sameField_some (toJson_ids c.parents ▸ .refl _)
  case h_5 => exact sameField_some (sameUpToSpelling_signature c.author)
  case h_6 => exact sameField_some (sameUpToSpelling_signature c.committer)
  case h_10 => exact sameField_none (by simp_all)
  all_goals exact sameField_some (.refl _)

theorem Pointer.field?_toJson (p : Pointer) (key : String) :
    SameField (p.field? key) (p.toJson.get? key) := by
  unfold Pointer.field?
  split
  case h_3 => exact sameField_none (by simp_all)
  all_goals exact sameField_some (.refl _)

theorem Tag.field?_toJson (t : Tag) (key : String) : SameField (t.field? key) (t.toJson.get? key) := by
  unfold Tag.field?
  split
  case h_5 => exact sameField_some (sameUpToSpelling_optional sameUpToSpelling_signature t.tagger)
  case h_7 => exact sameField_none (by simp_all)
  all_goals exact sameField_some (.refl _)

theorem Note.field?_toJson (n : Note) (key : String) : SameField (n.field? key) (n.toJson.get? key) := by
  unfold Note.field?
  split
  case h_4 => exact sameField_some (sameUpToSpelling_signature n.committer)
  case h_6 => exact sameField_none (by simp_all)
  all_goals exact sameField_some (.refl _)

theorem Object.sameField (o : Object) (key : String) : SameField (o.field? key) (o.toJson.get? key) := by
  cases o with
  | commit c => exact c.field?_toJson key
  | tag t => exact t.field?_toJson key
  | note n => exact n.field?_toJson key
  | pointer p => exact p.field?_toJson key

/-! ## The filter -/

/-- The filter `get` gives the field that the JSON object holds, and nil for one that is null or missing
there. -/
theorem Object.getField_sameUpToSpelling (o : Object) (key : String) :
    ∃ value, FilterLibrary.getField (.object o) [.string key] = .ok value ∧
      SameUpToSpelling value.toJson ((o.toJson.get? key).getD .null) := by
  have hfield := o.sameField key
  cases hvalue : o.field? key with
  | none =>
      rw [hvalue] at hfield
      have hjson : o.toJson.get? key = none := by
        generalize o.toJson.get? key = found at hfield
        cases hfield
        rfl
      refine ⟨.nil, ?_, by rw [hjson]; exact .refl .null⟩
      simp only [FilterLibrary.getField, Value.lookup?, hvalue, Option.bind_none, Option.getD_none]
  | some value =>
      rw [hvalue] at hfield
      obtain ⟨json, hjson, hsame⟩ : ∃ json, o.toJson.get? key = some json ∧
          SameUpToSpelling value.toJson json := by
        generalize o.toJson.get? key = found at hfield
        cases hfield with
        | some hsame => exact ⟨_, rfl, hsame⟩
      have hread : ((Value.unlessNil value).getD .nil).toJson = value.toJson := by
        cases value <;> rfl
      refine ⟨(Value.unlessNil value).getD .nil, ?_, by rw [hread, hjson]; exact hsame⟩
      simp only [FilterLibrary.getField, Value.lookup?, hvalue, Option.bind_some]

/-- **Fields agree.**  Every key leads to the same value in both tables, or to none, and `get` gives that
value, with nil for null.  So does `get` in a template, which is handed the JSON object, as long as the
times in it are told in full by their texts. -/
theorem Object.fields_agree {σ : Type} (library : FilterLibrary σ) (o : Object) (key : String) :
    Option.Rel SameUpToSpelling ((o.field? key).map Value.toJson) (o.toJson.get? key) ∧
      (∃ value, FilterLibrary.getField (.object o) [.string key] = .ok value ∧
        SameUpToSpelling value.toJson ((o.toJson.get? key).getD .null)) ∧
      ((∀ s ∈ o.signatures, s.time.IsTold) →
        ∃ json, library.callNamed .get o.toJson [("key", .string key)] = pure (.ok json) ∧
          SameUpToSpelling json ((Json.follow? [key] o.toJson).getD .null)) := by
  refine ⟨o.sameField key, o.getField_sameUpToSpelling key, fun htold => ?_⟩
  obtain ⟨value, hget, hsame⟩ := o.getField_sameUpToSpelling key
  have hfollow : Json.follow? [key] o.toJson = o.toJson.get? key := by
    obtain ⟨fields, hfields⟩ := o.exists_toJson_eq_object
    rw [hfields, Json.follow?]
    exact Option.bind_fun_some (Json.field? key fields)
  have hlift := Object.ofJson_toJson htold
  refine ⟨value.toJson, ?_, hfollow ▸ hsame⟩
  have hargs : FilterLibrary.positional library.traversal .get [("key", .string key)] = .ok [.string key] :=
    FilterLibrary.positional_of_known library.traversal (by rfl)
  rw [FilterLibrary.callNamed, hargs]
  simp only [FilterLibrary.call, FilterLibrary.answer, hlift, hget, pure_bind]

/-- A commit without a tree, made in universal time. -/
def universalCommit : Object :=
  .commit {
    oid := ObjectId.emptyTree
    tree := none
    parents := []
    author := ⟨"Jane Doe", "jane@example.org", ⟨1700000000, 0, 0⟩⟩
    committer := ⟨"Jane Doe", "jane@example.org", ⟨1700000000, 0, 0⟩⟩
    summary := "Start"
    message := "Start\n" }

theorem Object.fields_agree_universalCommit :
    (∀ s ∈ universalCommit.signatures, s.time.IsTold) ∧
      ∃ json, Environment.plain.library.callNamed .get universalCommit.toJson [("key", .string "author")] =
          pure (.ok json) ∧
        SameUpToSpelling json ((Json.follow? ["author"] universalCommit.toJson).getD .null) := by
  have htold : ∀ s ∈ universalCommit.signatures, s.time.IsTold := by
    intro s hs
    simp only [signatures, universalCommit, List.mem_cons, List.not_mem_nil, or_false, or_self] at hs
    subst hs
    constructor <;> decide
  exact ⟨htold, (Object.fields_agree Environment.plain.library universalCommit "author").2.2 htold⟩

end ReleasePress.Git
