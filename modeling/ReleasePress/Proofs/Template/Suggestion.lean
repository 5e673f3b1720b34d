import Mathlib.Data.List.TakeWhile
import ReleasePress.Proofs.Text.EditDistance
import ReleasePress.Proofs.Text.Split
import ReleasePress.Proofs.Text.Utf8
import ReleasePress.Template.Operation

/-!
# The name that may have been meant

A message about an unknown filter gets the nearest known name added.  The unknown name is the first one that a
message mentions as such (`unknownIn?_eq_some_iff`), because the search goes from the front and a name reaches up to
the next quote.  The name that is suggested is the first of those at the least distance, where the distance is a number
of edits and not merely what the table computes (`isLeast_editDistance`), and it is suggested if it is within half
the length of the unknown one.
-/

namespace ReleasePress.Template

open ReleasePress.Text

/-! ## The unknown name -/

/-- After `front`, a text says that there is no filter of a name. -/
structure SaysUnknown (front name text : List Char) : Prop where
  name_ne_nil : name ≠ []
  quote_notMem : '\'' ∉ name
  mentions : ∃ back, text = front ++ ("Filter '".toList ++ (name ++ ("' not found".toList ++ back)))

/-- The first name of which a text says that there is no such filter. -/
def IsFirstUnknown (unknown : String) (text : List Char) : Prop :=
  ∃ front, SaysUnknown front unknown.toList text ∧
    ∀ front' name, SaysUnknown front' name text → front.length ≤ front'.length

variable {front name text : List Char} {unknown : String}

theorem SaysUnknown.cons (c : Char) (h : SaysUnknown front name text) : SaysUnknown (c :: front) name (c :: text) where
  name_ne_nil := h.name_ne_nil
  quote_notMem := h.quote_notMem
  mentions := by
    obtain ⟨back, rfl⟩ := h.mentions
    exact ⟨back, rfl⟩

theorem SaysUnknown.of_cons {c d : Char} (h : SaysUnknown (c :: front) name (d :: text)) :
    c = d ∧ SaysUnknown front name text := by
  obtain ⟨back, hback⟩ := h.mentions
  obtain ⟨rfl, rfl⟩ := List.cons.inj hback
  exact ⟨rfl, h.name_ne_nil, h.quote_notMem, back, rfl⟩

theorem saysUnknown_of_unknownHere? (hhere : unknownHere? text = some unknown) :
    SaysUnknown [] unknown.toList text := by
  unfold unknownHere? at hhere
  obtain ⟨rest, hrest, hname⟩ := Option.bind_eq_some_iff.1 hhere
  dsimp only at hname
  split at hname
  · next back hback =>
      by_cases hempty : (rest.takeWhile (· ≠ '\'')).isEmpty = true
      · rw [if_pos hempty] at hname
        cases hname
      · rw [if_neg hempty] at hname
        obtain rfl := Option.some.inj hname
        rw [String.toList_ofList]
        refine ⟨by simpa using hempty, fun hquote => ?_, back, ?_⟩
        · simpa using List.mem_takeWhile_imp hquote
        · rw [List.nil_append, ← eq_takeWhile_append hback]
          exact dropHead?_eq_some_iff.1 hrest
  · cases hname

theorem unknownHere?_of_saysUnknown (h : SaysUnknown [] unknown.toList text) : unknownHere? text = some unknown := by
  obtain ⟨hne, hquote, back, rfl⟩ := h
  have hplain : ∀ c ∈ unknown.toList, decide (c ≠ '\'') = true := by
    intro c hc
    rw [decide_eq_true_eq]
    rintro rfl
    exact hquote hc
  have htake : (unknown.toList ++ ("' not found".toList ++ back)).takeWhile (· ≠ '\'') = unknown.toList :=
    takeWhile_append_cons hplain rfl (" not found".toList ++ back)
  unfold unknownHere?
  refine Option.bind_eq_some_iff.2 ⟨_, dropHead?_eq_some_iff.2 rfl, ?_⟩
  simp only [htake]
  rw [List.drop_left, dropHead?_eq_some_iff.2 rfl]
  simp [hne]

/-- A text that does not begin with a mention has it after its first character. -/
theorem SaysUnknown.tail_of_none {c : Char} (h : SaysUnknown front name (c :: text))
    (hhere : unknownHere? (c :: text) = none) : ∃ front', front = c :: front' ∧ SaysUnknown front' name text := by
  cases front with
  | nil =>
      rw [← String.toList_ofList (l := name)] at h
      rw [unknownHere?_of_saysUnknown h] at hhere
      cases hhere
  | cons d front' =>
      obtain ⟨rfl, htail⟩ := h.of_cons
      exact ⟨front', rfl, htail⟩

/-- The search finds the first name that is mentioned. -/
theorem unknownIn?_eq_some_iff : unknownIn? text = some unknown ↔ IsFirstUnknown unknown text := by
  induction text with
  | nil =>
      constructor
      · intro h
        cases h
      · rintro ⟨front, ⟨-, -, back, hback⟩, -⟩
        simp at hback
  | cons c text ih =>
      rw [unknownIn?]
      cases hhere : unknownHere? (c :: text) with
      | some found =>
          have hfound := saysUnknown_of_unknownHere? hhere
          constructor
          · intro h
            obtain rfl := Option.some.inj h
            exact ⟨[], hfound, fun _ _ _ => Nat.zero_le _⟩
          · rintro ⟨front, hfirst, hleast⟩
            obtain rfl := List.length_eq_zero_iff.1 (Nat.le_zero.1 (hleast [] found.toList hfound))
            exact hhere.symm.trans (unknownHere?_of_saysUnknown hfirst)
      | none =>
          refine ih.trans ⟨?_, ?_⟩
          · rintro ⟨front, hfirst, hleast⟩
            refine ⟨c :: front, hfirst.cons c, fun front' name h => ?_⟩
            obtain ⟨rest, rfl, htail⟩ := h.tail_of_none hhere
            exact Nat.succ_le_succ (hleast rest name htail)
          · rintro ⟨front, hfirst, hleast⟩
            obtain ⟨rest, rfl, htail⟩ := hfirst.tail_of_none hhere
            refine ⟨rest, htail, fun front' name h => ?_⟩
            exact Nat.le_of_succ_le_succ (hleast (c :: front') name (h.cons c))

/-! ## The first of the least -/

/-- The first element of a list at which a function is least. -/
def IsFirstLeast {α : Type} (f : α → Nat) (xs : List α) (x : α) : Prop :=
  ∃ before after, xs = before ++ x :: after ∧ (∀ y ∈ before, f x < f y) ∧ ∀ y ∈ after, f x ≤ f y

section Least

variable {α : Type} {f : α → Nat} {xs : List α} {x : α}

theorem minOn?_append_cons {before after : List α} (hbefore : ∀ y ∈ before, f x < f y)
    (hafter : ∀ y ∈ after, f x ≤ f y) : (before ++ x :: after).minOn? f = some x := by
  induction before with
  | nil =>
      rw [List.nil_append, List.minOn?_cons]
      cases hmin : after.minOn? f with
      | none => rfl
      | some y => exact congrArg some (minOn_eq_left (hafter y (List.minOn?_mem hmin)))
  | cons b before ih =>
      obtain ⟨hb, hrest⟩ := List.forall_mem_cons.1 hbefore
      rw [List.cons_append, List.minOn?_cons, ih hrest]
      exact congrArg some (minOn_eq_right (Nat.not_le_of_lt hb))

theorem isFirstLeast_of_minOn? (hmin : xs.minOn? f = some x) : IsFirstLeast f xs x := by
  induction xs generalizing x with
  | nil => cases hmin
  | cons y ys ih =>
      rw [List.minOn?_cons, Option.some.injEq] at hmin
      cases hrest : ys.minOn? f with
      | none =>
          have hys : ys = [] := by
            by_contra hys
            have hsome := List.isSome_minOn?_iff (f := f).2 hys
            rw [hrest] at hsome
            cases hsome
          rw [hrest] at hmin
          obtain rfl : y = x := hmin
          exact ⟨[], ys, rfl, by simp, by simp [hys]⟩
      | some z =>
          rw [hrest] at hmin
          obtain ⟨before, after, hys, hbefore, hafter⟩ := ih hrest
          by_cases hyz : f y ≤ f z
          · obtain rfl : y = x := (minOn_eq_left hyz).symm.trans hmin
            refine ⟨[], ys, rfl, by simp, fun w hw => hyz.trans ?_⟩
            rw [hys, List.mem_append, List.mem_cons] at hw
            rcases hw with hw | rfl | hw
            · exact (hbefore w hw).le
            · exact le_rfl
            · exact hafter w hw
          · obtain rfl : z = x := (minOn_eq_right hyz).symm.trans hmin
            exact ⟨y :: before, after, by rw [hys]; rfl, List.forall_mem_cons.2 ⟨Nat.lt_of_not_le hyz, hbefore⟩, hafter⟩

/-- Of the elements up to a bound, the first least one is the first least one of all. -/
theorem minOn?_filter_eq_some_iff {bound : Nat} :
    (xs.filter fun y => f y ≤ bound).minOn? f = some x ↔ IsFirstLeast f xs x ∧ f x ≤ bound := by
  constructor
  · intro hmin
    obtain ⟨before, after, hsplit, hbefore, hafter⟩ := isFirstLeast_of_minOn? hmin
    obtain ⟨before', rest, rfl, hfront, hrest⟩ := List.filter_eq_append_iff.1 hsplit
    obtain ⟨skipped, after', rfl, hskipped, hx, hback⟩ := List.filter_eq_cons_iff.1 hrest
    rw [decide_eq_true_eq] at hx
    refine ⟨⟨before' ++ skipped, after', by rw [List.append_assoc], ?_, ?_⟩, hx⟩
    · -- what the filter leaves out is beyond the bound, and so farther than the element found
      intro y hy
      by_cases hnear : f y ≤ bound
      · rcases List.mem_append.1 hy with hy | hy
        · exact hbefore y (hfront ▸ List.mem_filter.2 ⟨hy, decide_eq_true hnear⟩)
        · exact absurd (decide_eq_true hnear) (hskipped y hy)
      · omega
    · intro y hy
      by_cases hnear : f y ≤ bound
      · exact hafter y (hback ▸ List.mem_filter.2 ⟨hy, decide_eq_true hnear⟩)
      · omega
  · rintro ⟨⟨before, after, rfl, hbefore, hafter⟩, hx⟩
    have hkept : decide (f x ≤ bound) = true := decide_eq_true hx
    rw [List.filter_append, List.filter_cons, hkept, if_pos rfl]
    apply minOn?_append_cons
    · intro y hy
      exact hbefore y (List.mem_filter.1 hy).1
    · intro y hy
      exact hafter y (List.mem_filter.1 hy).1

end Least

/-! ## The suggestion -/

/-- So many edits or fewer turn one name into the other. -/
def IsWithin (bound : Nat) (unknown name : String) : Prop :=
  ∃ n ≤ bound, Edits n unknown.toList name.toList

/-- A known name is the first one at the least distance: fewer edits turn the unknown name into it than into any
known name before it, and no more than into one behind it. -/
def IsFirstNearest (unknown name : String) : Prop :=
  ∃ before after least, knownNames = before ++ name :: after ∧
    IsLeast {n | Edits n unknown.toList name.toList} least ∧
    (∀ other ∈ before, ∀ n, Edits n unknown.toList other.toList → least < n) ∧
    ∀ other ∈ after, ∀ n, Edits n unknown.toList other.toList → least ≤ n

theorem editDistance_le_iff {bound : Nat} {unknown name : String} :
    editDistance unknown.toList name.toList ≤ bound ↔ IsWithin bound unknown name := by
  obtain ⟨hedits, hleast⟩ := isLeast_editDistance unknown.toList name.toList
  constructor
  · intro hle
    exact ⟨_, hle, hedits⟩
  · rintro ⟨n, hle, hn⟩
    exact (hleast hn).trans hle

theorem isFirstNearest_of_isFirstLeast {unknown name : String}
    (h : IsFirstLeast (fun name => editDistance unknown.toList name.toList) knownNames name) :
    IsFirstNearest unknown name := by
  obtain ⟨before, after, hnames, hbefore, hafter⟩ := h
  refine ⟨before, after, _, hnames, isLeast_editDistance _ _, fun other hother n hn => ?_, fun other hother n hn => ?_⟩
  · exact (hbefore other hother).trans_le ((isLeast_editDistance _ _).2 hn)
  · exact (hafter other hother).trans ((isLeast_editDistance _ _).2 hn)

/-- Half of the letters, counted in bytes, have to be right. -/
theorem suggestion?_eq_some_iff {unknown name : String} :
    suggestion? unknown = some name ↔
      IsFirstLeast (fun name => editDistance unknown.toList name.toList) knownNames name ∧
        IsWithin (unknown.utf8ByteSize / 2) unknown name := by
  have hhalf : unknown.utf8ByteSize * 50 / 100 = unknown.utf8ByteSize / 2 := by omega
  rw [suggestion?, hhalf, ← editDistance_le_iff]
  exact minOn?_filter_eq_some_iff

theorem isSome_suggestion?_iff {unknown : String} :
    (suggestion? unknown).isSome = true ↔
      ∃ name ∈ knownNames, IsWithin (unknown.utf8ByteSize / 2) unknown name := by
  have hhalf : unknown.utf8ByteSize * 50 / 100 = unknown.utf8ByteSize / 2 := by omega
  rw [suggestion?, hhalf, List.isSome_minOn?_iff]
  simp only [ne_eq, List.filter_eq_nil_iff, decide_eq_true_eq, editDistance_le_iff, not_forall, not_not, exists_prop]

/-- **The nearest known name is suggested.**  If a message says that there is no filter of a name, and the first such
name is of ASCII, a name is suggested exactly if a known one is within half the length of the unknown one in edits, and
it is then the first of the known names at the least distance.  A message that mentions no such name gets no
suggestion. -/
theorem suggestionIn?_nearest (message : String) :
    (∀ unknown, IsFirstUnknown unknown message.toList → (∀ c ∈ unknown.toList, c.toNat < 128) →
      ((suggestionIn? message).isSome = true ↔
        ∃ name ∈ knownNames, IsWithin (unknown.length / 2) unknown name) ∧
      ∀ name, suggestionIn? message = some name → IsFirstNearest unknown name) ∧
    ((∀ front name, ¬ SaysUnknown front name message.toList) → suggestionIn? message = none) := by
  constructor
  · intro unknown hfirst hascii
    have hsuggestion : suggestionIn? message = suggestion? unknown := by
      rw [suggestionIn?, unknownIn?_eq_some_iff.2 hfirst, Option.bind_some]
    rw [hsuggestion, ← utf8ByteSize_of_ascii hascii]
    refine ⟨isSome_suggestion?_iff, fun name hname => ?_⟩
    exact isFirstNearest_of_isFirstLeast (suggestion?_eq_some_iff.1 hname).1
  · intro hnone
    have hunknown : unknownIn? message.toList = none := by
      rw [Option.eq_none_iff_forall_ne_some]
      intro unknown h
      obtain ⟨front, hfirst, -⟩ := unknownIn?_eq_some_iff.1 h
      exact hnone front unknown.toList hfirst
    rw [suggestionIn?, hunknown, Option.bind_none]

/-- A message about a name with two letters in the wrong order. -/
def misspelt : String :=
  "Failed to render 'a.md'\n  → Filter 'rev_prase' not found"

theorem suggestionIn?_nearest_misspelt : (suggestionIn? misspelt).isSome = true := by
  have hunknown : IsFirstUnknown "rev_prase" misspelt.toList := unknownIn?_eq_some_iff.1 (by decide)
  have hall : ("rev_prase".toList.all fun c => decide (c.toNat < 128)) = true := by decide
  have hascii : ∀ c ∈ "rev_prase".toList, c.toNat < 128 := fun c hc => of_decide_eq_true (List.all_eq_true.1 hall c hc)
  obtain ⟨hsome, -⟩ := (suggestionIn?_nearest misspelt).1 "rev_prase" hunknown hascii
  have hmem : "rev_parse" ∈ knownNames := List.mem_append_left _ (List.mem_map.2 ⟨.revParse, Filter.mem_all _, rfl⟩)
  refine hsome.2 ⟨"rev_parse", hmem, 2, by decide, ?_⟩
  exact .head (.replacement "rev_p".toList 'r' 'a' "ase".toList)
    (.head (.replacement "rev_pa".toList 'a' 'r' "se".toList) (.refl _))

end ReleasePress.Template
