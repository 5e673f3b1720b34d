import Mathlib.Tactic.Common
import ReleasePress.Filter.Library

/-!
# Fields and members

Templates ask with `contains` whether there is something for `get` to find.  Both go through the kinds of values on
their own, and they count a field that is nil differently: `get` passes over it, `contains` counts it in a map and not
in an object.  `FilterLibrary.get_contains` says what the answer of the one tells of the other.

A field is what `Value.Holds` says, for maps and objects alike; `Value.lookup?_eq_some_iff` is the only place where the
lookup is opened.
-/

namespace ReleasePress

/-! ## Fields of values -/

namespace Value

/-- A map or an object holds a value under a key. -/
inductive Holds (key : String) : Value → Value → Prop
  | map {entries : List (String × Value)} {value : Value} (h : named? key entries = some value) :
    Holds key (.map entries) value
  | object {o : Git.Object} {value : Value} (h : o.field? key = some value) : Holds key (.object o) value

/-- A map or an object holds something other than nil under a key. -/
def HasField (key : String) (value : Value) : Prop :=
  ∃ found, value.Holds key found ∧ found ≠ .nil

/-- Whether a value is of none of the kinds that have fields or members. -/
def IsPlain : Value → Prop
  | .bool _ | .integer _ | .float _ | .string _ | .date _ => True
  | _ => False

variable {key : String} {value found : Value} {items : List Value}

theorem isNil_eq_true_iff : value.isNil = true ↔ value = .nil := by
  cases value <;> simp [isNil]

theorem unlessNil_eq_some_iff : value.unlessNil = some found ↔ value = found ∧ found ≠ .nil := by
  rw [unlessNil]
  split
  · next hnil =>
      obtain rfl := isNil_eq_true_iff.1 hnil
      constructor
      · rintro ⟨⟩
      · rintro ⟨rfl, hne⟩
        exact absurd rfl hne
  · next hnil =>
      rw [isNil_eq_true_iff] at hnil
      constructor
      · rintro ⟨⟩
        exact ⟨rfl, hnil⟩
      · rintro ⟨rfl, -⟩
        rfl

theorem lookup?_eq_some_iff : value.lookup? key = some found ↔ value.Holds key found ∧ found ≠ .nil := by
  cases value with
  | map entries =>
      simp only [lookup?, Option.bind_eq_some_iff, unlessNil_eq_some_iff]
      constructor
      · rintro ⟨_, hnamed, rfl, hne⟩
        exact ⟨.map hnamed, hne⟩
      · rintro ⟨hholds, hne⟩
        cases hholds with
        | map hnamed => exact ⟨found, hnamed, rfl, hne⟩
  | object o =>
      simp only [lookup?, Option.bind_eq_some_iff, unlessNil_eq_some_iff]
      constructor
      · rintro ⟨_, hfield, rfl, hne⟩
        exact ⟨.object hfield, hne⟩
      · rintro ⟨hholds, hne⟩
        cases hholds with
        | object hfield => exact ⟨found, hfield, rfl, hne⟩
  | _ =>
      constructor
      · rintro ⟨⟩
      · rintro ⟨⟨⟩, -⟩

theorem isSome_lookup?_iff : (value.lookup? key).isSome = true ↔ value.HasField key := by
  simp only [Option.isSome_iff_exists, lookup?_eq_some_iff, HasField]

theorem lookup?_eq_none_iff : value.lookup? key = none ↔ ¬ value.HasField key := by
  rw [← isSome_lookup?_iff, Option.not_isSome_iff_eq_none]

theorem getD_lookup?_eq_nil_iff : (value.lookup? key).getD .nil = .nil ↔ ¬ value.HasField key := by
  cases hlookup : value.lookup? key with
  | none => simp [← lookup?_eq_none_iff, hlookup]
  | some found =>
      have hne := (lookup?_eq_some_iff.1 hlookup).2
      simp [← lookup?_eq_none_iff, hlookup, hne]

theorem HasField.ne_nil (h : value.HasField key) : value ≠ .nil := by
  rintro rfl
  obtain ⟨found, ⟨⟩, -⟩ := h

/-- Only an object has a field that `contains` passes over if it is nil. -/
theorem any_field?_iff {o : Git.Object} :
    ((o.field? key).any fun field => !field.isNil) = true ↔ (Value.object o).HasField key := by
  rw [← isSome_lookup?_iff, lookup?]
  cases o.field? key with
  | none => simp
  | some field => cases hnil : field.isNil <;> simp [unlessNil, hnil]

theorem str?_eq_some_iff {text : String} : value.str? = some text ↔ value = .string text := by
  cases value <;> simp [str?]

theorem string_mem_iff {text : String} :
    (items.any fun item => item.str? == some text) = true ↔ .string text ∈ items := by
  simp only [List.any_eq_true, beq_iff_eq, str?_eq_some_iff, exists_eq_right]

/-- A map holds nil under a key. -/
def HoldsNil (key : String) (value : Value) : Prop :=
  ∃ entries, value = .map entries ∧ named? key entries = some .nil

/-- A sequence has a text among its items. -/
def Lists (text : String) (value : Value) : Prop :=
  ∃ items, value = .sequence items ∧ .string text ∈ items

/-- What `contains` counts although `get` passes over it. -/
def OnlyCounted (key : String) (value : Value) : Prop :=
  value.HoldsNil key ∨ value.Lists key

theorem onlyCounted_map_iff {entries : List (String × Value)} :
    (Value.map entries).OnlyCounted key ↔ named? key entries = some .nil := by
  simp [OnlyCounted, HoldsNil, Lists]

theorem onlyCounted_sequence_iff : (Value.sequence items).OnlyCounted key ↔ .string key ∈ items := by
  simp [OnlyCounted, HoldsNil, Lists]

theorem not_onlyCounted (hmap : ∀ entries, value ≠ .map entries) (hsequence : ∀ items, value ≠ .sequence items) :
    ¬ value.OnlyCounted key := by
  rintro (⟨entries, rfl, -⟩ | ⟨items, rfl, -⟩)
  · exact hmap entries rfl
  · exact hsequence items rfl

theorem IsPlain.not_onlyCounted (h : value.IsPlain) : ¬ value.OnlyCounted key := by
  refine Value.not_onlyCounted ?_ ?_
  · rintro entries rfl
    exact h
  · rintro items rfl
    exact h

/-- The first item that has a field. -/
def IsFirstWith (key : String) (items : List Value) (found : Value) : Prop :=
  found.HasField key ∧
    ∃ before after, items = before ++ found :: after ∧ ∀ item ∈ before, ¬ item.HasField key

theorem IsFirstWith.mem (h : IsFirstWith key items found) : found ∈ items := by
  obtain ⟨-, before, after, rfl, -⟩ := h
  exact List.mem_append_cons_self

end Value

/-! ## What `get` finds -/

namespace FilterLibrary

open ReleasePress.Value

variable {σ : Type} {key : String} {subject : Value} {items : List Value}

/-- What `get` finds for a key. -/
def got (key : String) : Value → Value
  | .sequence items => (items.find? fun item => (item.lookup? key).isSome).getD .nil
  | value => (value.lookup? key).getD .nil

theorem getField_eq (subject : Value) (key : String) : getField subject [.string key] = .ok (got key subject) := by
  cases subject <;> rfl

/-- The item that is found is the first one that has the field, and there is none if it is nil. -/
theorem isFirstWith_or_forall (key : String) (items : List Value) :
    IsFirstWith key items (got key (.sequence items)) ∨
      got key (.sequence items) = .nil ∧ ∀ item ∈ items, ¬ item.HasField key := by
  rw [got]
  cases hfind : items.find? fun item => (item.lookup? key).isSome with
  | none =>
      have hnone := List.find?_eq_none.1 hfind
      simp only [isSome_lookup?_iff] at hnone
      exact .inr ⟨rfl, hnone⟩
  | some item =>
      obtain ⟨hfield, before, after, hsplit, hbefore⟩ := List.find?_eq_some_iff_append.1 hfind
      simp only [Bool.not_eq_true', ← Bool.not_eq_true, isSome_lookup?_iff] at hfield hbefore
      exact .inl ⟨hfield, before, after, hsplit, hbefore⟩

theorem got_sequence_ne_nil_iff : got key (.sequence items) ≠ .nil ↔ ∃ item ∈ items, item.HasField key := by
  rcases isFirstWith_or_forall key items with hfirst | ⟨hnil, hnone⟩
  · exact iff_of_true hfirst.1.ne_nil ⟨_, hfirst.mem, hfirst.1⟩
  · simpa [hnil] using hnone

theorem got_ne_nil_iff (hsequence : ∀ items, subject ≠ .sequence items) :
    got key subject ≠ .nil ↔ subject.HasField key := by
  have hgot : got key subject = (subject.lookup? key).getD .nil := by
    cases subject with
    | sequence items => exact absurd rfl (hsequence items)
    | _ => rfl
  rw [hgot, Ne, getD_lookup?_eq_nil_iff, not_not]

/-! ## What `contains` answers -/

/-- Where there can be members, `contains` counts what `get` finds and what is only counted. -/
theorem exists_hasMember (hplain : ¬ subject.IsPlain) :
    ∃ found, hasMember subject [.string key] = .ok (.bool found) ∧
      (found = true ↔ got key subject ≠ .nil ∨ subject.OnlyCounted key) := by
  cases subject with
  | nil => exact ⟨false, rfl, by simp [got, lookup?, not_onlyCounted]⟩
  | sequence items =>
      refine ⟨_, rfl, ?_⟩
      rw [got_sequence_ne_nil_iff, onlyCounted_sequence_iff, ← string_mem_iff]
      simp only [List.any_eq_true, Bool.or_eq_true, isSome_lookup?_iff, and_or_left, exists_or, or_comm]
  | map entries =>
      refine ⟨_, rfl, ?_⟩
      rw [got_ne_nil_iff (by simp), onlyCounted_map_iff, ← isSome_lookup?_iff, lookup?]
      cases named? key entries with
      | none => simp
      | some value => cases hnil : value.isNil <;> simp [unlessNil, hnil, ← isNil_eq_true_iff]
  | object o =>
      refine ⟨_, rfl, ?_⟩
      rw [got_ne_nil_iff (by simp), any_field?_iff]
      simp [not_onlyCounted]
  | _ => exact absurd trivial hplain

theorem hasMember_of_isPlain (hplain : subject.IsPlain) :
    hasMember subject [.string key] = .error (.opaqueSubject subject.kindName) := by
  cases subject with
  | bool b => rfl
  | integer n => rfl
  | float x => rfl
  | string text => rfl
  | date m => rfl
  | _ => exact hplain.elim

theorem got_of_isPlain (hplain : subject.IsPlain) : got key subject = .nil := by
  cases subject with
  | sequence items => exact hplain.elim
  | map entries => exact hplain.elim
  | object o => exact hplain.elim
  | _ => rfl

/-! ## Both filters -/

/-- What a filter answers for a key. -/
def answerFor (library : FilterLibrary σ) (filter : Filter) (subject : Value) (key : String)
    (s : FilterState σ) : Except FilterError Value :=
  ((library.call filter subject [.string key]).run s).1

theorem answerFor_get (library : FilterLibrary σ) (subject : Value) (key : String) (s : FilterState σ) :
    library.answerFor .get subject key s = .ok (got key subject) := by
  have hanswer : library.answerFor .get subject key s =
      (getField subject [.string key]).mapError (FilterError.mk .get) := by
    cases subject <;> rfl
  rw [hanswer, getField_eq]
  rfl

theorem answerFor_contains (library : FilterLibrary σ) (subject : Value) (key : String) (s : FilterState σ) :
    library.answerFor .contains subject key s =
      (hasMember subject [.string key]).mapError (FilterError.mk .contains) := by
  cases subject <;> rfl

/-- What `contains` answers for a key under which `get` finds nothing. -/
structure AnswersWithout (key : String) (subject : Value) (answer : Except FilterError Value) : Prop where
  true_iff : answer = .ok (.bool true) ↔ subject.OnlyCounted key
  error_iff : ∀ e, answer = .error e ↔ subject.IsPlain ∧ e = ⟨.contains, .opaqueSubject subject.kindName⟩
  false_iff : answer = .ok (.bool false) ↔ ¬ subject.OnlyCounted key ∧ ¬ subject.IsPlain

theorem answersWithout_of_isPlain (hplain : subject.IsPlain) :
    AnswersWithout key subject (.error ⟨.contains, .opaqueSubject subject.kindName⟩) where
  true_iff := by simp [hplain.not_onlyCounted]
  error_iff e := by simp [hplain, eq_comm]
  false_iff := by simp [hplain]

theorem answersWithout_bool (hplain : ¬ subject.IsPlain) {found : Bool}
    (hfound : found = true ↔ subject.OnlyCounted key) : AnswersWithout key subject (.ok (.bool found)) where
  true_iff := by simpa using hfound
  error_iff e := by simp [hplain]
  false_iff := by simp [hplain, ← hfound]

/-- **What `contains` tells of `get`.**  Where `get` finds something, `contains` is true.  Where it finds nothing,
`contains` is true for a nil in a map and for a text among the items of a sequence, it is refused for values
that have no members, and it is false otherwise.  In a sequence `get` finds the first item with the field. -/
theorem get_contains (library : FilterLibrary σ) (subject : Value) (key : String) (s s' : FilterState σ) :
    ∃ found, library.answerFor .get subject key s = .ok found ∧
      (found ≠ .nil → library.answerFor .contains subject key s' = .ok (.bool true)) ∧
      (found = .nil → AnswersWithout key subject (library.answerFor .contains subject key s')) ∧
      ∀ items, subject = .sequence items →
        IsFirstWith key items found ∨ found = .nil ∧ ∀ item ∈ items, ¬ item.HasField key := by
  refine ⟨got key subject, answerFor_get .., ?_⟩
  rw [← and_assoc, answerFor_contains]
  constructor
  · by_cases hplain : subject.IsPlain
    · rw [hasMember_of_isPlain hplain]
      exact ⟨fun hne => absurd (got_of_isPlain hplain) hne, fun _ => answersWithout_of_isPlain hplain⟩
    · obtain ⟨found, hfound, hiff⟩ := exists_hasMember hplain
      rw [hfound]
      constructor
      · intro hne
        rw [hiff.2 (.inl hne)]
        rfl
      · intro hnil
        have hcounted : found = true ↔ subject.OnlyCounted key := by simpa [hnil] using hiff
        exact answersWithout_bool hplain hcounted
  · rintro items rfl
    exact isFirstWith_or_forall key items

end FilterLibrary

end ReleasePress
