import ReleasePress.Proofs.Calendar.Lenient
import ReleasePress.Proofs.Git.Encoding

/-!
# Lifting and lowering settle at once

Between two filters a value is lowered to JSON and lifted again.  The first pass makes a value canonical:
objects of the repository lose unknown fields and gain defaults, ids become lower case, large integers
become floats.  `Json.canonical_projection` says that no further pass changes anything, and that the
first one changes nothing either in a value without large integers and without objects.

The danger is in the maps.  A canonical inner map could let an outer map decode that did not decode
before.  It cannot, since decoding looks at a field only for its text, except for signatures, and there
the canonical form tells less (`Object.ofJson?_canonicalFields`).
-/

namespace ReleasePress

open ReleasePress.Git

/-! ## The canonical form -/

/-- What lifting and lowering leave of a JSON value. -/
def Json.canonical (j : Json) : Json :=
  (Value.ofJson j).toJson

/-- What lifting and lowering leave of the fields of an object that does not decode. -/
def Json.canonicalFields (fields : Fields) : Fields :=
  fields.map fun (name, value) => (name, value.canonical)

namespace Value

theorem ofItems_eq_map (items : List Json) : ofItems items = items.map ofJson := by
  induction items with
  | nil => rfl
  | cons item items ih => rw [ofItems, ih, List.map_cons]

theorem ofFields_eq_map (fields : Fields) :
    ofFields fields = fields.map fun (name, value) => (name, ofJson value) := by
  induction fields with
  | nil => rfl
  | cons field fields ih => rw [ofFields, ih, List.map_cons]

theorem toItems_eq_map (items : List Value) : toItems items = items.map toJson := by
  induction items with
  | nil => rfl
  | cons item items ih => rw [toItems, ih, List.map_cons]

theorem toFields_eq_map (entries : List (String × Value)) :
    toFields entries = entries.map fun (name, value) => (name, toJson value) := by
  induction entries with
  | nil => rfl
  | cons entry entries ih => rw [toFields, ih, List.map_cons]

theorem ofJson_object_of_some {fields : Fields} {o : Object}
    (h : Object.ofJson? (.object fields) = some o) : ofJson (.object fields) = .object o := by
  rw [ofJson, h]

theorem ofJson_object_of_none {fields : Fields} (h : Object.ofJson? (.object fields) = none) :
    ofJson (.object fields) = .map (ofFields fields) := by
  rw [ofJson, h]

end Value

namespace Json

theorem canonical_array (items : List Json) :
    canonical (.array items) = .array (items.map canonical) := by
  rw [canonical, Value.ofJson, Value.toJson, Value.ofItems_eq_map, Value.toItems_eq_map, List.map_map]
  rfl

theorem canonical_object_of_some {fields : Fields} {o : Object}
    (h : Object.ofJson? (.object fields) = some o) : canonical (.object fields) = o.toJson := by
  rw [canonical, Value.ofJson_object_of_some h, Value.toJson]

theorem canonical_object_of_none {fields : Fields} (h : Object.ofJson? (.object fields) = none) :
    canonical (.object fields) = .object (canonicalFields fields) := by
  rw [canonical, Value.ofJson_object_of_none h, Value.toJson, Value.ofFields_eq_map,
    Value.toFields_eq_map, List.map_map]
  rfl

theorem field?_canonicalFields (key : String) (fields : Fields) :
    field? key (canonicalFields fields) = (field? key fields).map canonical := by
  induction fields with
  | nil => rfl
  | cons field fields ih =>
      obtain ⟨name, value⟩ := field
      by_cases h : name = key
      · simp [canonicalFields, h]
      · simpa [canonicalFields, h] using ih

/-- Neither numbers nor objects turn into text, and texts stay what they are. -/
@[simp] theorem str?_canonical (j : Json) : j.canonical.str? = j.str? := by
  cases j with
  | null => rfl
  | bool b => rfl
  | string text => rfl
  | array items => rw [canonical_array]; rfl
  | number n =>
      cases n with
      | real x => rfl
      | integer n =>
          simp only [canonical, Value.ofJson, Value.ofNumber]
          split
          · rfl
          · split <;> rfl
  | object fields =>
      cases h : Object.ofJson? (.object fields) with
      | some o =>
          obtain ⟨fields', hfields'⟩ := o.exists_toJson_eq_object
          rw [canonical_object_of_some h, hfields']
          rfl
      | none => rw [canonical_object_of_none h]; rfl

end Json

/-! ## Decoding canonical fields -/

namespace Git

open ReleasePress.Json

theorem ObjectId.ofJson?_eq_bind (j : Json) : ObjectId.ofJson? j = j.str?.bind ObjectId.parse? := by
  cases j <;> rfl

/-- A signature is read off the texts of its parts. -/
theorem Signature.ofParts?_eq_bind (name email time : Json) :
    Signature.ofParts? name email time =
      name.str?.bind fun name => email.str?.bind fun email => time.str?.bind fun time =>
        (Timestamp.readLenient? time).map fun time => ⟨name, email, time⟩ := by
  cases name <;> cases email <;> cases time <;> rfl

@[simp] theorem text?_canonicalFields (key : String) (fields : Fields) :
    text? key (canonicalFields fields) = text? key fields := by
  simp [text?, field?_canonicalFields, Option.bind_map]

@[simp] theorem id?_canonicalFields (key : String) (fields : Fields) :
    id? key (canonicalFields fields) = id? key fields := by
  simp [id?, field?_canonicalFields, Option.bind_map, ObjectId.ofJson?_eq_bind]

/-- No object has the fields of a signature: only tags have a name, and they have no email. -/
theorem Signature.ofJson?_toJson_object (o : Object) : Signature.ofJson? o.toJson = none := by
  cases o <;> simp [Object.toJson, Commit.toJson, Tag.toJson, Note.toJson, Pointer.toJson,
    Signature.ofJson?]

/-- A map that decodes as an object may lose the fields of a signature; nothing gains them. -/
theorem Signature.ofJson?_of_canonical {j : Json} {s : Signature}
    (h : Signature.ofJson? j.canonical = some s) : Signature.ofJson? j = some s := by
  cases j with
  | null => exact h
  | bool b => exact h
  | string text => exact h
  | number n =>
      have hnone (n : Number) : Signature.ofJson? (canonical (.number n)) = none := by
        cases n with
        | real x => rfl
        | integer n =>
            simp only [canonical, Value.ofJson, Value.ofNumber]
            split
            · rfl
            · split <;> rfl
      rw [hnone] at h
      cases h
  | array items =>
      rw [canonical_array] at h
      rcases items with _ | ⟨name, _ | ⟨email, _ | ⟨time, _ | ⟨more, items⟩⟩⟩⟩
      · simp [Signature.ofJson?] at h
      · simp [Signature.ofJson?] at h
      · simp [Signature.ofJson?] at h
      · simpa [Signature.ofJson?, Signature.ofParts?_eq_bind] using h
      · simp [Signature.ofJson?] at h
  | object fields =>
      cases hobject : Object.ofJson? (.object fields) with
      | some o =>
          rw [canonical_object_of_some hobject, Signature.ofJson?_toJson_object] at h
          cases h
      | none =>
          rw [canonical_object_of_none hobject] at h
          simpa [Signature.ofJson?, field?_canonicalFields, Signature.ofParts?_eq_bind,
            Option.bind_map, Function.comp_def] using h

theorem signature?_of_canonicalFields {key : String} {fields : Fields} {s : Signature}
    (h : signature? key (canonicalFields fields) = some s) : signature? key fields = some s := by
  simp only [signature?, field?_canonicalFields, Option.bind_map, Option.bind_eq_some_iff,
    Function.comp_apply] at h ⊢
  obtain ⟨j, hj, hs⟩ := h
  exact ⟨j, hj, Signature.ofJson?_of_canonical hs⟩

theorem Note.ofFields?_of_canonicalFields {fields : Fields} {n : Note}
    (h : Note.ofFields? (canonicalFields fields) = some n) : Note.ofFields? fields = some n := by
  simp only [Note.ofFields?, id?_canonicalFields, text?_canonicalFields, Option.bind_eq_bind,
    Option.bind_eq_some_iff] at h ⊢
  obtain ⟨oid, hoid, target, htarget, committer, hcommitter, message, hmessage, heq⟩ := h
  exact ⟨oid, hoid, target, htarget, committer, signature?_of_canonicalFields hcommitter, message,
    hmessage, heq⟩

/-- **Fields that do not decode still do not when they are canonical.**  With kind and id there, only the
fields of a note can be incomplete; any other object would be a pointer. -/
theorem Object.ofJson?_canonicalFields {fields : Fields} (h : Object.ofJson? (.object fields) = none) :
    Object.ofJson? (.object (canonicalFields fields)) = none := by
  simp only [Object.ofJson?, text?_canonicalFields, id?_canonicalFields] at h ⊢
  cases hkind : text? "type" fields with
  | none => simp
  | some kind =>
      cases hoid : id? "oid" fields with
      | none => simp
      | some oid =>
          simp only [hkind, hoid, Option.bind_eq_bind, Option.bind_some] at h ⊢
          split at h
          · cases h
          · next hfields =>
              have hname : ObjectKind.ofName? kind = none := by simpa using h
              have hcanonical : Object.ofFields? kind (canonicalFields fields) = none := by
                rw [Object.ofFields?.eq_def] at hfields ⊢
                split
                · simp [ObjectKind.ofName?] at hname
                · simp [ObjectKind.ofName?] at hname
                · cases hnote : Note.ofFields? (canonicalFields fields) with
                  | none => rfl
                  | some n => simp [Note.ofFields?_of_canonicalFields hnote] at hfields
                · rfl
              simp [hcanonical, hname]

/-! ## The times of decoded objects -/

theorem Signature.exists_time_of_ofJson? {j : Json} {s : Signature} (h : Signature.ofJson? j = some s) :
    ∃ time, Timestamp.readLenient? time = some s.time := by
  have hparts {name email time : Json} (h : Signature.ofParts? name email time = some s) :
      ∃ time, Timestamp.readLenient? time = some s.time := by
    simp only [Signature.ofParts?_eq_bind, Option.bind_eq_some_iff, Option.map_eq_some_iff] at h
    obtain ⟨_, -, _, -, time, -, m, hm, rfl⟩ := h
    exact ⟨time, hm⟩
  rw [Signature.ofJson?.eq_def] at h
  split at h
  · simp only [Option.bind_eq_bind, Option.bind_eq_some_iff] at h
    obtain ⟨_, -, _, -, _, -, h⟩ := h
    exact hparts h
  · exact hparts h
  · cases h

theorem exists_time_of_signature? {key : String} {fields : Fields} {s : Signature}
    (h : signature? key fields = some s) : ∃ time, Timestamp.readLenient? time = some s.time := by
  obtain ⟨_, -, hs⟩ := Option.bind_eq_some_iff.1 h
  exact Signature.exists_time_of_ofJson? hs

/-- The signatures of a decoded object were read from timestamps. -/
theorem Object.exists_time_of_ofJson? {j : Json} {o : Object} (h : Object.ofJson? j = some o)
    {s : Signature} (hs : s ∈ o.signatures) : ∃ time, Timestamp.readLenient? time = some s.time := by
  rw [Object.ofJson?.eq_def] at h
  split at h
  · simp only [Option.bind_eq_bind, Option.bind_eq_some_iff] at h
    obtain ⟨kind, -, oid, -, h⟩ := h
    split at h
    · next found hfound =>
        obtain rfl := Option.some.inj h
        rw [Object.ofFields?.eq_def] at hfound
        split at hfound
        · obtain ⟨c, hc, rfl⟩ := Option.map_eq_some_iff.1 hfound
          simp only [Commit.ofFields?, Option.bind_eq_bind, Option.bind_eq_some_iff,
            Option.some.injEq] at hc
          obtain ⟨_, -, _, -, _, -, author, hauthor, committer, hcommitter, _, -, _, -, rfl⟩ := hc
          simp only [signatures, List.mem_cons, List.not_mem_nil, or_false] at hs
          rcases hs with rfl | rfl
          · exact exists_time_of_signature? hauthor
          · exact exists_time_of_signature? hcommitter
        · obtain ⟨t, ht, rfl⟩ := Option.map_eq_some_iff.1 hfound
          simp only [Tag.ofFields?, Option.bind_eq_bind, Option.bind_eq_some_iff,
            Option.some.injEq] at ht
          obtain ⟨_, -, _, -, _, -, tagger, htagger, _, -, rfl⟩ := ht
          simp only [signatures, Option.mem_toList] at hs
          rw [optional?.eq_def] at htagger
          split at htagger
          · simp_all
          · simp_all
          · obtain ⟨s', hs', rfl⟩ := Option.map_eq_some_iff.1 htagger
            obtain rfl : s' = s := by simpa using hs
            exact Signature.exists_time_of_ofJson? hs'
        · obtain ⟨n, hn, rfl⟩ := Option.map_eq_some_iff.1 hfound
          simp only [Note.ofFields?, Option.bind_eq_bind, Option.bind_eq_some_iff,
            Option.some.injEq] at hn
          obtain ⟨_, -, _, -, committer, hcommitter, _, -, rfl⟩ := hn
          obtain rfl : s = committer := by simpa [signatures] using hs
          exact exists_time_of_signature? hcommitter
        · cases hfound
    · obtain ⟨_, -, rfl⟩ := Option.map_eq_some_iff.1 h
      simp [signatures] at hs
  · cases h

end Git

/-! ## The projection -/

mutual

/-- The signatures of all objects in a value. -/
def Value.signatures : Value → List Signature
  | .sequence items => Value.itemSignatures items
  | .map entries => Value.entrySignatures entries
  | .object o => o.signatures
  | _ => []

/-- The signatures of all objects in the items of a sequence. -/
def Value.itemSignatures : List Value → List Signature
  | [] => []
  | item :: items => item.signatures ++ Value.itemSignatures items

/-- The signatures of all objects in the entries of a map. -/
def Value.entrySignatures : List (String × Value) → List Signature
  | [] => []
  | (_, value) :: entries => value.signatures ++ Value.entrySignatures entries

end

/-- A signature whose local year has four digits. -/
def Git.Signature.HasPlainYear (s : Signature) : Prop :=
  0 ≤ s.time.localDay.year ∧ s.time.localDay.year ≤ 9999

namespace Json

/-- Whether the fields name a kind of object, or a note, and an id. -/
def NamesObject (fields : Fields) : Prop :=
  ∃ kind ∈ ["commit", "tag", "tree", "blob", "note"], ∃ text oid,
    field? "type" fields = some (.string kind) ∧ field? "oid" fields = some (.string text) ∧
      ObjectId.parse? text = some oid

/-- A JSON value without integers past 64 bits and without maps that name an object. -/
inductive IsPlain : Json → Prop where
  | null : IsPlain .null
  | bool (b : Bool) : IsPlain (.bool b)
  | integer {n : Int} (h : isSigned64 n = true) : IsPlain (.int n)
  | real (x : Double) : IsPlain (.number (.real x))
  | string (text : String) : IsPlain (.string text)
  | array {items : List Json} (hitems : ∀ item ∈ items, IsPlain item) : IsPlain (.array items)
  | object {fields : Fields} (hnames : ¬ NamesObject fields)
      (hfields : ∀ field ∈ fields, IsPlain field.2) : IsPlain (.object fields)

/-- The names that an object with all its fields can have for its kind, or a pointer for its own. -/
theorem mem_kinds_of_isSome {kind : String} {fields : Fields}
    (h : (Object.ofFields? kind fields).isSome ∨ (ObjectKind.ofName? kind).isSome) :
    kind ∈ ["commit", "tag", "tree", "blob", "note"] := by
  rw [Object.ofFields?.eq_def, ObjectKind.ofName?.eq_def] at h
  rcases h with hfull | hpointer
  · split at hfull <;> simp at hfull ⊢
  · split at hpointer <;> simp at hpointer ⊢

/-- Only a map with a kind and an id decodes as an object. -/
theorem namesObject_of_ofJson? {fields : Fields} {o : Object}
    (h : Object.ofJson? (.object fields) = some o) : NamesObject fields := by
  simp only [Object.ofJson?, Option.bind_eq_bind, Option.bind_eq_some_iff] at h
  obtain ⟨kind, hkind, oid, hoid, h⟩ := h
  obtain ⟨kindField, hkindField, hkind⟩ := Option.bind_eq_some_iff.1 hkind
  obtain ⟨oidField, hoidField, hoid⟩ := Option.bind_eq_some_iff.1 hoid
  have hmem : kind ∈ ["commit", "tag", "tree", "blob", "note"] := by
    have hdecodes : (Object.ofFields? kind fields).isSome ∨ (ObjectKind.ofName? kind).isSome := by
      split at h
      · next found hfound => exact .inl (by rw [hfound]; rfl)
      · obtain ⟨_, hname, -⟩ := Option.map_eq_some_iff.1 h
        exact .inr (by rw [hname]; rfl)
    exact mem_kinds_of_isSome hdecodes
  cases kindField <;> simp only [str?, reduceCtorEq, Option.some.injEq] at hkind
  cases oidField <;> simp only [ObjectId.ofJson?, reduceCtorEq] at hoid
  subst hkind
  exact ⟨_, hmem, _, _, hkindField, hoidField, hoid⟩

/-- A plain value is canonical already. -/
theorem IsPlain.canonical_eq {j : Json} (h : j.IsPlain) : j.canonical = j := by
  induction h with
  | null => rfl
  | bool b => rfl
  | real x => rfl
  | string text => rfl
  | integer h => simp [canonical, Value.ofJson, Value.ofNumber, int, h, Value.toJson]
  | array _ ih =>
      rw [canonical_array, (List.map_congr_left ih).trans (List.map_id' _)]
  | @object fields hnames _ ih =>
      have hnone : Object.ofJson? (.object fields) = none := by
        rw [Option.eq_none_iff_forall_ne_some]
        intro o ho
        exact hnames (namesObject_of_ofJson? ho)
      have hfields : canonicalFields fields = fields := by
        refine (List.map_congr_left fun field hfield => ?_).trans (List.map_id' fields)
        exact Prod.ext rfl (ih field hfield)
      rw [canonical_object_of_none hnone, hfields]

/-- A decoded object survives lowering: its times were read, so they can be written. -/
theorem ofJson_toJson_of_ofJson? {j : Json} {o : Object} (h : Object.ofJson? j = some o)
    (hyears : ∀ s ∈ o.signatures, s.HasPlainYear) : Value.ofJson o.toJson = .object o := by
  refine Object.ofJson_toJson fun s hs => ?_
  obtain ⟨time, htime⟩ := Object.exists_time_of_ofJson? h hs
  exact (Timestamp.isWritable_of_readLenient? htime (hyears s hs)).isTold

mutual

/-- Lifting the canonical form gives what lifting the value itself gives. -/
theorem ofJson_canonical (j : Json) (hyears : ∀ s ∈ (Value.ofJson j).signatures, s.HasPlainYear) :
    Value.ofJson j.canonical = Value.ofJson j := by
  match j with
  | .null => rfl
  | .bool b => rfl
  | .string text => rfl
  | .number (.real x) => rfl
  | .number (.integer n) =>
      by_cases h : isSigned64 n = true
      · simp [canonical, Value.ofJson, Value.ofNumber, h, Value.toJson, int]
      · cases hfloat : Double.ofFloat? (Float.ofInt n) <;>
          simp [canonical, Value.ofJson, Value.ofNumber, h, hfloat, Value.toJson]
  | .array items =>
      rw [Value.ofJson, Value.signatures] at hyears
      rw [canonical_array, Value.ofJson, Value.ofJson, ofItems_canonical items hyears]
  | .object fields =>
      cases h : Object.ofJson? (.object fields) with
      | some o =>
          rw [Value.ofJson_object_of_some h, Value.signatures] at hyears
          rw [canonical_object_of_some h, Value.ofJson_object_of_some h, ofJson_toJson_of_ofJson? h hyears]
      | none =>
          rw [Value.ofJson_object_of_none h, Value.signatures] at hyears
          rw [canonical_object_of_none h, Value.ofJson_object_of_none h,
            Value.ofJson_object_of_none (Object.ofJson?_canonicalFields h),
            ofFields_canonicalFields fields hyears]

theorem ofItems_canonical (items : List Json)
    (hyears : ∀ s ∈ Value.itemSignatures (Value.ofItems items), s.HasPlainYear) :
    Value.ofItems (items.map canonical) = Value.ofItems items := by
  match items with
  | [] => rfl
  | item :: items =>
      simp only [Value.ofItems, Value.itemSignatures, List.mem_append, or_imp, forall_and] at hyears
      rw [List.map_cons, Value.ofItems, Value.ofItems, ofJson_canonical item hyears.1,
        ofItems_canonical items hyears.2]

theorem ofFields_canonicalFields (fields : Fields)
    (hyears : ∀ s ∈ Value.entrySignatures (Value.ofFields fields), s.HasPlainYear) :
    Value.ofFields (canonicalFields fields) = Value.ofFields fields := by
  match fields with
  | [] => rfl
  | (name, value) :: fields =>
      simp only [Value.ofFields, Value.entrySignatures, List.mem_append, or_imp, forall_and] at hyears
      have hothers := ofFields_canonicalFields fields hyears.2
      rw [canonicalFields] at hothers ⊢
      rw [List.map_cons, Value.ofFields, Value.ofFields, ofJson_canonical value hyears.1, hothers]

end

/-- **Lifting and lowering is a projection.**  As far as the local years of signatures have four digits,
the canonical form lifts to the same value as the original, and any further pass leaves it as it is.  A
plain value is its own canonical form, with its fields in their order. -/
theorem canonical_projection (j : Json) :
    ((∀ s ∈ (Value.ofJson j).signatures, s.HasPlainYear) →
      Value.ofJson j.canonical = Value.ofJson j ∧ j.canonical.canonical = j.canonical ∧
        ∀ passes, canonical^[passes + 1] j = j.canonical) ∧
      (j.IsPlain → j.canonical = j) := by
  refine ⟨fun hyears => ?_, IsPlain.canonical_eq⟩
  have hlift := ofJson_canonical j hyears
  have hfixed : j.canonical.canonical = j.canonical := congrArg Value.toJson hlift
  exact ⟨hlift, hfixed, fun passes => Function.iterate_fixed hfixed passes⟩

/-- A note without a message, whose committer also names a tag, beside a tag that a leap second
dates. -/
def unfinishedNote : Json :=
  .array [
    .object [("type", .string "note"), ("oid", .string "4B825DC642CB6EB9A060E54BF8D69288FBEE4904"),
      ("target", .string "4b825dc642cb6eb9a060e54bf8d69288fbee4904"),
      ("committer", .object [("type", .string "tag"),
        ("oid", .string "4B825DC642CB6EB9A060E54BF8D69288FBEE4904"), ("name", .string "Jane Doe"),
        ("email", .string "jane@example.org"), ("time", .string "2024-3-1 9:05:00 utc")])],
    .object [("type", .string "tag"), ("oid", .string "4B825DC642CB6EB9A060E54BF8D69288FBEE4904"),
      ("name", .string "v1.0.0"),
      ("target", .array [.string "4b825dc642cb6eb9a060e54bf8d69288fbee4904", .string "commit"]),
      ("tagger", .array [.string "Jane Doe", .string "jane@example.org",
        .string "2024-3-1 9:05:60 +05:30"]),
      ("message", .string "Release"), ("pinned", .bool true)]]

/-- A map with a kind but without an id. -/
def untaggedRelease : Json :=
  .object [("type", .string "tag"), ("oid", .string "v1.0.0"), ("count", .int 9223372036854775807)]

theorem canonical_projection_unfinishedNote :
    (∀ s ∈ (Value.ofJson unfinishedNote).signatures, s.HasPlainYear) ∧
      unfinishedNote.canonical.canonical = unfinishedNote.canonical ∧
      untaggedRelease.IsPlain ∧ untaggedRelease.canonical = untaggedRelease := by
  have hsignatures : (Value.ofJson unfinishedNote).signatures =
      [⟨"Jane Doe", "jane@example.org", ⟨1709264159, 1000000000, 19800⟩⟩] := by
    decide +kernel
  have hyears : ∀ s ∈ (Value.ofJson unfinishedNote).signatures, s.HasPlainYear := by
    rw [hsignatures]
    intro s hs
    obtain rfl := List.mem_singleton.1 hs
    exact ⟨by decide, by decide⟩
  have hplain : untaggedRelease.IsPlain := by
    refine .object ?_ fun field hfield => ?_
    · rintro ⟨_, -, text, oid, -, htext, hoid⟩
      obtain rfl : "v1.0.0" = text := by simpa using htext
      have hnone : ObjectId.parse? "v1.0.0" = none := by decide +kernel
      rw [hnone] at hoid
      cases hoid
    · simp only [List.mem_cons, List.not_mem_nil, or_false] at hfield
      rcases hfield with rfl | rfl | rfl
      · exact .string _
      · exact .string _
      · have hfits : isSigned64 9223372036854775807 = true := by decide
        exact .integer hfits
  exact ⟨hyears, ((canonical_projection unfinishedNote).1 hyears).2.1, hplain,
    (canonical_projection untaggedRelease).2 hplain⟩

end Json

end ReleasePress
