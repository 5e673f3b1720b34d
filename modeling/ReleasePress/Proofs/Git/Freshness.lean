import Mathlib.Tactic.Common
import ReleasePress.Proofs.Git.Encoding
import ReleasePress.Proofs.Git.Store
import ReleasePress.Text.Hex

/-!
# Fresh ids

One counter numbers the commits, tags and notes of a store, and their ids are these numbers in
hexadecimal.  A number is read back from its id (`hexNumber?_idText`), so the id of the next object is
new as long as the count fits forty digits; and what is stored under an id stays there, since no later
step writes to it.  Names of refs and the keys of notes are written to again: the last step counts.
`build_answers` is what a store that was built answers to each question.
-/

namespace ReleasePress.Git

open ReleasePress.Text

/-! ## Hexadecimal numerals -/

theorem hexValue?_digitChar {d : Nat} (hd : d < 16) : hexValue? d.digitChar = some d := by
  have hall : ∀ d < 16, hexValue? (Nat.digitChar d) = some d := by decide
  exact hall d hd

theorem isHexDigit_digitChar {d : Nat} (hd : d < 16) : isHexDigit d.digitChar = true := by
  have hall : ∀ d < 16, isHexDigit (Nat.digitChar d) = true := by decide
  exact hall d hd

theorem isHexDigit_of_mem_toDigits {n : Nat} {c : Char} (h : c ∈ Nat.toDigits 16 n) :
    isHexDigit c = true := by
  induction n using Nat.strongRecOn with
  | ind n ih =>
      rw [Nat.toDigits_eq_if (by decide)] at h
      split at h
      · next hn =>
          rw [List.mem_singleton.1 h]
          exact isHexDigit_digitChar hn
      · next hn =>
          rcases List.mem_append.1 h with hfirst | hlast
          · exact ih (n / 16) (by omega) hfirst
          · rw [List.mem_singleton.1 hlast]
            exact isHexDigit_digitChar (Nat.mod_lt n (by decide))

theorem hexNumber?_concat (digits : List Char) {d : Nat} (hd : d < 16) :
    hexNumber? (digits ++ [d.digitChar]) = (hexNumber? digits).map (· * 16 + d) := by
  rw [hexNumber?, hexNumber?, List.foldlM_append]
  cases digits.foldlM (fun n c => (hexValue? c).map (n * 16 + ·)) 0 with
  | none => rfl
  | some n => simp [hexValue?_digitChar hd]

theorem hexNumber?_toDigits (n : Nat) : hexNumber? (Nat.toDigits 16 n) = some n := by
  induction n using Nat.strongRecOn with
  | ind n ih =>
      rw [Nat.toDigits_eq_if (by decide)]
      split
      · next hn =>
          have hdigit := hexNumber?_concat [] hn
          simpa [hexNumber?] using hdigit
      · next hn =>
          rw [hexNumber?_concat _ (Nat.mod_lt n (by decide)), ih (n / 16) (by omega)]
          simp only [Option.map_some, Option.some.injEq]
          omega

theorem hexNumber?_zeros_append (k : Nat) (digits : List Char) :
    hexNumber? (List.replicate k '0' ++ digits) = hexNumber? digits := by
  induction k with
  | zero => rfl
  | succ k ih =>
      rw [List.replicate_succ, List.cons_append, ← ih]
      rfl

namespace Store

/-! ## Ids of numbers -/

theorem toList_idText (n : Nat) :
    (idText n).toList =
      List.replicate (40 - (Nat.toDigits 16 n).length) '0' ++ Nat.toDigits 16 n := by
  simp [idText]

/-- The number is read back from the text. -/
theorem hexNumber?_idText (n : Nat) : hexNumber? (idText n).toList = some n := by
  rw [toList_idText, hexNumber?_zeros_append, hexNumber?_toDigits]

theorem isObjectId_idText {n : Nat} (hn : n < 16 ^ 40) : isObjectId (idText n) = true := by
  have hlength : (Nat.toDigits 16 n).length ≤ 40 :=
    (Nat.length_toDigits_le_iff (by decide) (by decide)).2 hn
  rw [isObjectId, toList_idText, Bool.and_eq_true, List.all_eq_true]
  refine ⟨fun c hc => ?_, ?_⟩
  · rcases List.mem_append.1 hc with hzero | hdigit
    · rw [(List.mem_replicate.1 hzero).2]
      decide
    · exact isHexDigit_of_mem_toDigits hdigit
  · simp only [List.length_append, List.length_replicate, Bool.or_eq_true, beq_iff_eq]
    omega

theorem text_idOf {n : Nat} (hn : n < 16 ^ 40) : (idOf n).text = idText n := by
  rw [idOf, dif_pos (isObjectId_idText hn)]

theorem idOf_injective {m n : Nat} (hm : m < 16 ^ 40) (hn : n < 16 ^ 40) (h : idOf m = idOf n) :
    m = n := by
  have htext : idText m = idText n := by rw [← text_idOf hm, ← text_idOf hn, h]
  have hread := hexNumber?_idText m
  rw [htext, hexNumber?_idText] at hread
  exact (Option.some.inj hread).symm

-- From here on ids are only compared; an id that is unfolded is computed digit by digit.
attribute [local irreducible] idOf

/-! ## What a step gives and touches -/

/-- The object that a step adds and gives back.  Refs and aliases add none. -/
def Step.added? (store : Store) : Step → Option Object
  | commit summary time parents => some (.commit (store.addCommit summary time parents).1)
  | tag name target time => some (.tag (store.addTag name target time).1)
  | note target notesRef message time => some (.note (store.addNote target notesRef message time).1)
  | ref _ _ => none
  | aliases _ => none

/-- What the steps give back one after the other. -/
def added (store : Store) : List Step → List Object
  | [] => []
  | step :: steps => (step.added? store).toList ++ added (step.apply store) steps

/-- The name that a step makes resolve to an id. -/
def Step.refName? : Step → Option String
  | tag name _ _ => some name
  | ref name _ => some name
  | _ => none

/-- The id that a step makes its name resolve to. -/
def Step.refTarget? (store : Store) : Step → Option ObjectId
  | tag name target time => some (store.addTag name target time).1.oid
  | ref _ oid => some oid
  | _ => none

/-- The full notes ref and the object that a step adds a note for. -/
def Step.noteKey? : Step → Option (String × ObjectId)
  | note target notesRef _ _ => some (qualifyNotesRef notesRef, target)
  | _ => none

variable {store : Store}

/-- Whatever is added gets the next id. -/
theorem oid_of_added? {step : Step} {o : Object} (h : step.added? store = some o) :
    o.oid = store.nextId ∧ (step.apply store).count = store.count + 1 := by
  cases step with
  | commit summary time parents =>
      cases h
      exact ⟨rfl, rfl⟩
  | tag name target time =>
      cases h
      exact ⟨rfl, rfl⟩
  | note target notesRef message time =>
      cases h
      exact ⟨rfl, rfl⟩
  | ref name oid => cases h
  | aliases resolver => cases h

theorem count_apply (store : Store) (step : Step) :
    store.count ≤ (step.apply store).count ∧ (step.apply store).count ≤ store.count + 1 := by
  cases step <;> simp [Step.apply, addCommit, addTag, addNote, addRef]

theorem count_build_le (steps : List Step) : (build steps).count ≤ steps.length := by
  have hrun : ∀ store : Store, (steps.foldl Step.apply store).count ≤ store.count + steps.length := by
    induction steps with
    | nil => exact fun store => Nat.le_refl _
    | cons step steps ih =>
        intro store
        have hstep := count_apply store step
        have hrest := ih (step.apply store)
        rw [List.foldl_cons, List.length_cons]
        omega
  have hwhole := hrun {}
  rw [Nat.zero_add] at hwhole
  exact hwhole

theorem build_append (before after : List Step) (step : Step) :
    build (before ++ step :: after) = after.foldl Step.apply (step.apply (build before)) := by
  rw [build, List.foldl_append, List.foldl_cons]
  rfl

/-! ## Distinct ids -/

/-- What is added later has later numbers. -/
theorem exists_number_of_mem_added {steps : List Step} {o : Object} (h : o ∈ added store steps) :
    ∃ i, store.count < i ∧ i ≤ store.count + steps.length ∧ o.oid = idOf i := by
  induction steps generalizing store with
  | nil => cases h
  | cons step steps ih =>
      rw [added, List.mem_append, Option.mem_toList] at h
      rw [List.length_cons]
      rcases h with hnow | hlater
      · exact ⟨store.count + 1, by omega, by omega, (oid_of_added? hnow).1⟩
      · obtain ⟨i, hlow, hhigh, hoid⟩ := ih hlater
        have hstep := count_apply store step
        exact ⟨i, by omega, by omega, hoid⟩

theorem nodup_added {steps : List Step} (hfew : store.count + steps.length < 16 ^ 40) :
    ((added store steps).map Object.oid).Nodup := by
  induction steps generalizing store with
  | nil => exact List.nodup_nil
  | cons step steps ih =>
      rw [List.length_cons] at hfew
      have hstep := count_apply store step
      have hrest : ((added (step.apply store) steps).map Object.oid).Nodup := ih (by omega)
      rw [added]
      cases hadded : step.added? store with
      | none => exact hrest
      | some o =>
          obtain ⟨hoid, hcount⟩ := oid_of_added? hadded
          rw [Option.toList_some, List.singleton_append, List.map_cons, List.nodup_cons]
          refine ⟨fun hmem => ?_, hrest⟩
          obtain ⟨later, hlater, hsame⟩ := List.mem_map.1 hmem
          obtain ⟨i, hlow, hhigh, hi⟩ := exists_number_of_mem_added hlater
          have hnumber := idOf_injective (by omega) (by omega) (hi.symm.trans (hsame.trans hoid))
          omega

/-! ## Objects -/

/-- The objects of a store are stored under ids that were given out. -/
def IsNumbered (store : Store) : Prop :=
  ∀ oid o, (oid, o) ∈ store.objects → ∃ i ≤ store.count, oid = idOf i

theorem IsNumbered.apply (h : store.IsNumbered) (step : Step) : (step.apply store).IsNumbered := by
  have hcons {o : Object} {refs : List (String × ObjectId)} :
      IsNumbered { store with
        count := store.count + 1, refs, objects := (store.nextId, o) :: store.objects } := by
    intro oid found hmem
    rcases List.mem_cons.1 hmem with heq | hmem
    · exact ⟨store.count + 1, Nat.le_refl _, (Prod.mk.inj heq).1⟩
    · obtain ⟨i, hi, hoid⟩ := h oid found hmem
      exact ⟨i, Nat.le_succ_of_le hi, hoid⟩
  cases step with
  | commit summary time parents => exact hcons
  | tag name target time => exact hcons
  | note target notesRef message time =>
      intro oid found hmem
      obtain ⟨i, hi, hoid⟩ := h oid found hmem
      exact ⟨i, Nat.le_succ_of_le hi, hoid⟩
  | ref name oid => exact h
  | aliases resolver => exact h

theorem isNumbered_build (steps : List Step) : (build steps).IsNumbered := by
  have hrun : ∀ store : Store, store.IsNumbered → (steps.foldl Step.apply store).IsNumbered := by
    induction steps with
    | nil => exact fun _ h => h
    | cons step steps ih => exact fun _ h => ih _ (h.apply step)
  exact hrun {} fun _ _ hmem => absurd hmem List.not_mem_nil

/-- Nothing is stored under an id that was not given out yet. -/
theorem IsNumbered.lookup_next (h : store.IsNumbered) (hfew : store.count + 1 < 16 ^ 40) :
    store.objects.lookup store.nextId = none := by
  rw [List.lookup_eq_none_iff]
  rintro ⟨oid, o⟩ hmem
  obtain ⟨i, hi, rfl⟩ := h oid o hmem
  rw [bne_iff_ne]
  intro heq
  have hnumber := idOf_injective hfew (by omega) heq
  omega

/-- A step leaves alone what is stored under an id that was given out before. -/
theorem lookup_objects_apply {i : Nat} (step : Step) (hi : i ≤ store.count)
    (hfew : store.count + 1 < 16 ^ 40) :
    (step.apply store).objects.lookup (idOf i) = store.objects.lookup (idOf i) := by
  have hcons (o : Object) :
      ((store.nextId, o) :: store.objects).lookup (idOf i) = store.objects.lookup (idOf i) := by
    have hne : (idOf i == store.nextId) = false := by
      rw [beq_eq_false_iff_ne]
      intro heq
      have hnumber := idOf_injective (by omega) hfew heq
      omega
    rw [List.lookup_cons, hne]
  cases step with
  | commit summary time parents => exact hcons _
  | tag name target time => exact hcons _
  | note target notesRef message time => rfl
  | ref name oid => rfl
  | aliases resolver => rfl

theorem lookup_objects_foldl {i : Nat} (steps : List Step) (hi : i ≤ store.count)
    (hfew : store.count + steps.length < 16 ^ 40) :
    (steps.foldl Step.apply store).objects.lookup (idOf i) = store.objects.lookup (idOf i) := by
  induction steps generalizing store with
  | nil => rfl
  | cons step steps ih =>
      rw [List.length_cons] at hfew
      have hstep := count_apply store step
      rw [List.foldl_cons, ih (by omega) (by omega), lookup_objects_apply step hi (by omega)]

/-- What the table of objects holds of an object that was added.  A note lies in a table of its own. -/
def stored? : Object → Option Object
  | .note _ => none
  | o => some o

/-- Right after a step its object is stored under its id, unless it is a note. -/
theorem IsNumbered.lookup_added (h : store.IsNumbered) {step : Step} {o : Object}
    (hadded : step.added? store = some o) (hfew : store.count + 1 < 16 ^ 40) :
    (step.apply store).objects.lookup o.oid = stored? o := by
  cases step with
  | commit summary time parents =>
      cases hadded
      exact List.lookup_cons_self
  | tag name target time =>
      cases hadded
      exact List.lookup_cons_self
  | note target notesRef message time =>
      cases hadded
      exact h.lookup_next hfew
  | ref name oid => cases hadded
  | aliases resolver => cases hadded

/-- At every later point the object that a step added is found by its id, unless it is a note. -/
theorem lookup_build_added {before after : List Step} {step : Step} {o : Object}
    (hfew : (before ++ step :: after).length < 16 ^ 40)
    (hadded : step.added? (build before) = some o) :
    (build (before ++ step :: after)).objects.lookup o.oid = stored? o := by
  have hcount := count_build_le before
  rw [List.length_append, List.length_cons] at hfew
  obtain ⟨hoid, hnext⟩ := oid_of_added? hadded
  rw [← (isNumbered_build before).lookup_added hadded (by omega), build_append, hoid]
  exact lookup_objects_foldl after (Nat.le_of_eq hnext.symm) (by omega)

/-! ## Refs and notes -/

/-- What each of some steps leaves alone in every store, all of them do. -/
theorem foldl_apply_eq {α : Type} (view : Store → α) {steps : List Step}
    (h : ∀ step ∈ steps, ∀ store, view (step.apply store) = view store) (store : Store) :
    view (steps.foldl Step.apply store) = view store := by
  induction steps generalizing store with
  | nil => rfl
  | cons step steps ih =>
      rw [List.foldl_cons, ih fun later hlater => h later (List.mem_cons_of_mem _ hlater)]
      exact h step List.mem_cons_self store

theorem lookup_refs_apply {step : Step} {name : String} (h : step.refName? ≠ some name) :
    (step.apply store).refs.lookup name = store.refs.lookup name := by
  have hcons {other : String} {oid : ObjectId} (hother : some other ≠ some name) :
      ((other, oid) :: store.refs).lookup name = store.refs.lookup name := by
    have hne : (name == other) = false := beq_eq_false_iff_ne.2 fun heq => hother (heq ▸ rfl)
    rw [List.lookup_cons, hne]
  cases step with
  | tag other target time => exact hcons h
  | ref other oid => exact hcons h
  | commit summary time parents => rfl
  | note target notesRef message time => rfl
  | aliases resolver => rfl

theorem lookup_notes_apply {step : Step} {key : String × ObjectId} (h : step.noteKey? ≠ some key) :
    (step.apply store).notes.lookup key = store.notes.lookup key := by
  cases step with
  | note target notesRef message time =>
      have hne : (key == (qualifyNotesRef notesRef, target)) = false :=
        beq_eq_false_iff_ne.2 fun heq => h (heq ▸ rfl)
      show (_ :: store.notes).lookup key = _
      rw [List.lookup_cons, hne]
  | commit summary time parents => rfl
  | tag name target time => rfl
  | ref name oid => rfl
  | aliases resolver => rfl

/-- The last step for a name is the one that counts. -/
theorem lookup_refs_build {before after : List Step} {step : Step} {name : String} {oid : ObjectId}
    (hname : step.refName? = some name) (htarget : step.refTarget? (build before) = some oid)
    (hlast : ∀ later ∈ after, later.refName? ≠ some name) :
    (build (before ++ step :: after)).refs.lookup name = some oid := by
  rw [build_append, foldl_apply_eq (fun store => store.refs.lookup name)
    fun later hlater store => lookup_refs_apply (hlast later hlater)]
  cases step with
  | tag other target time =>
      cases hname
      cases htarget
      exact List.lookup_cons_self
  | ref other oid =>
      cases hname
      cases htarget
      exact List.lookup_cons_self
  | commit summary time parents => cases hname
  | note target notesRef message time => cases hname
  | aliases resolver => cases hname

/-- The last note for an object under a notes ref is the one that counts. -/
theorem lookup_notes_build {before after : List Step} {step : Step} {n : Note}
    {key : String × ObjectId} (hadded : step.added? (build before) = some (.note n))
    (hkey : step.noteKey? = some key) (hlast : ∀ later ∈ after, later.noteKey? ≠ some key) :
    (build (before ++ step :: after)).notes.lookup key = some n := by
  rw [build_append, foldl_apply_eq (fun store => store.notes.lookup key)
    fun later hlater store => lookup_notes_apply (hlast later hlater)]
  cases step with
  | note target notesRef message time =>
      cases hkey
      cases hadded
      exact List.lookup_cons_self
  | commit summary time parents => cases hkey
  | tag name target time => cases hkey
  | ref name oid => cases hkey
  | aliases resolver => cases hkey

/-! ## Answers -/

theorem object_build_added {before after : List Step} {step : Step} {o : Object}
    (hfew : (before ++ step :: after).length < 16 ^ 40)
    (hadded : step.added? (build before) = some o) :
    (build (before ++ step :: after)).object o.oid =
      match stored? o with
      | some o => .ok o
      | none => .error (.objectNotFound o.oid.text) := by
  have hlookup := lookup_build_added hfew hadded
  cases hstored : stored? o with
  | none =>
      rw [hstored] at hlookup
      simp only [object, hlookup]
  | some found =>
      rw [hstored] at hlookup
      simp only [object, hlookup]

/-- A ref goes before an id, so a name is looked up as a ref if any step was for it. -/
theorem revision_of_lookup {name : String} {oid : ObjectId} (hname : isRevision name = true)
    (hlookup : store.refs.lookup name = some oid) : store.revision name = store.object oid := by
  rw [revision, hname, hlookup]
  rfl

theorem note_of_lookup {oid : ObjectId} {notesRef : String} {n : Note}
    (hlookup : store.notes.lookup (qualifyNotesRef notesRef, oid) = some n) :
    store.note oid notesRef = .ok n := by
  rw [note, hlookup]

theorem qualifyNotesRef_full {short : String} (h : startsWith "refs/" short = false) :
    qualifyNotesRef ("refs/notes/" ++ short) = qualifyNotesRef short := by
  have hfull : startsWith "refs/" ("refs/notes/" ++ short) = true := by
    simp [startsWith, dropHead?]
  rw [qualifyNotesRef, qualifyNotesRef, h, hfull]
  rfl

/-- **A built store loses and confuses nothing.**  After any steps, fewer than `2 ^ 64`, the ids that
they gave back are valid and differ from each other.  Of each of the steps the object is still found by
its id exactly as it was given back, only the id of a note leads nowhere; a name resolves to what the
last step for it named; and a note is found if no later step added one for the same object under the
same full notes ref, by either spelling of the ref. -/
theorem build_answers {steps : List Step} (hfew : steps.length < 2 ^ 64) :
    ((added {} steps).map Object.oid).Nodup ∧
      (∀ o ∈ added {} steps, ObjectId.parse? o.oid.text = some o.oid) ∧
      (∀ (before : List Step) (step : Step) (after : List Step), steps = before ++ step :: after →
        (∀ o : Object, step.added? (build before) = some o → (∀ n, o ≠ .note n) →
          (build steps).object o.oid = .ok o) ∧
        (∀ n : Note, step.added? (build before) = some (.note n) →
          (build steps).object n.oid = .error (.objectNotFound n.oid.text)) ∧
        (∀ (name : String) (oid : ObjectId), step.refName? = some name →
          step.refTarget? (build before) = some oid → (∀ later ∈ after, later.refName? ≠ some name) →
            name ≠ "" → name.toList.head? ≠ some '-' →
              (build steps).revision name = (build steps).object oid) ∧
        ∀ (n : Note) (notesRef : String), step.added? (build before) = some (.note n) →
          step.noteKey? = some (qualifyNotesRef notesRef, n.target) →
          (∀ later ∈ after, later.noteKey? ≠ some (qualifyNotesRef notesRef, n.target)) →
            (build steps).note n.target notesRef = .ok n) ∧
      ∀ (oid : ObjectId) (short : String), startsWith "refs/" short = false →
        (build steps).note oid ("refs/notes/" ++ short) = (build steps).note oid short := by
  have hlimit : steps.length < 16 ^ 40 := Nat.lt_trans hfew (by decide)
  have hnodup : ((added {} steps).map Object.oid).Nodup := by
    refine nodup_added ?_
    rwa [Nat.zero_add]
  refine ⟨hnodup, fun o _ => o.oid.parse?_text, ?_, fun oid short hshort => ?_⟩
  · rintro before step after rfl
    refine ⟨fun o hadded hnote => ?_, fun n hadded => object_build_added hlimit hadded,
      fun name oid hname htarget hlast hne hhead => ?_, fun n notesRef hadded hkey hlast => ?_⟩
    · have hstored : stored? o = some o := by
        cases o with
        | note n => exact absurd rfl (hnote n)
        | commit c => rfl
        | tag t => rfl
        | pointer p => rfl
      rw [object_build_added hlimit hadded, hstored]
    · exact revision_of_lookup (isRevision_iff.2 ⟨hne, hhead⟩) (lookup_refs_build hname htarget hlast)
    · exact note_of_lookup (lookup_notes_build hadded hkey hlast)
  · rw [note, note, qualifyNotesRef_full hshort]

/-- Steps that move a ref and replace a note. -/
def moving : List Step :=
  [.commit "Start" ⟨0, 0, 0⟩ [], .tag "v1" (idOf 1) none,
    .note (idOf 1) "attrs" "Channel: alpha\n" ⟨0, 0, 0⟩, .ref "v1" (idOf 1),
    .note (idOf 1) "refs/notes/attrs" "Channel: beta\n" ⟨0, 0, 0⟩, .commit "Next" ⟨0, 0, 0⟩ [idOf 1]]

theorem build_answers_moving :
    moving.length < 2 ^ 64 ∧
      (build moving).object (idOf 2) = .ok (.tag (addTag "v1" (idOf 1) none (build (moving.take 1))).1) ∧
      (build moving).revision "v1" = (build moving).object (idOf 1) ∧
      (build moving).object (idOf 3) = .error (.objectNotFound (idOf 3).text) ∧
      (build moving).note (idOf 1) "attrs" =
        .ok (addNote (idOf 1) "refs/notes/attrs" "Channel: beta\n" ⟨0, 0, 0⟩
          (build (moving.take 4))).1 := by
  have hfew : moving.length < 2 ^ 64 := by decide
  obtain ⟨-, -, hanswers, -⟩ := build_answers hfew
  obtain ⟨htag, -, -, -⟩ := hanswers (moving.take 1) _ (moving.drop 2) rfl
  obtain ⟨-, hold, -, -⟩ := hanswers (moving.take 2) _ (moving.drop 3) rfl
  obtain ⟨-, -, href, -⟩ := hanswers (moving.take 3) _ (moving.drop 4) rfl
  obtain ⟨-, -, -, hnew⟩ := hanswers (moving.take 4) _ (moving.drop 5) rfl
  refine ⟨hfew, htag _ rfl (by simp), href "v1" _ rfl rfl ?_ (by decide) (by decide), hold _ rfl,
    hnew _ "attrs" rfl rfl ?_⟩
  · simp [moving, Step.refName?]
  · simp [moving, Step.noteKey?]

end Store

end ReleasePress.Git
