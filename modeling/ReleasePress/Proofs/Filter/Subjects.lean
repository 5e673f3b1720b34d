import ReleasePress.Filter.Library
import ReleasePress.Proofs.Environment
import ReleasePress.Proofs.Git.Encoding
import ReleasePress.Proofs.Git.Store
import ReleasePress.Proofs.State

/-!
# Objects, pointers and ids as subjects

In a store an object, a pointer to it and the text of its id are the same to the filters that ask the
store for it: `subjects_interchangeable`.  Each filter finds its object in its own way, by id, by
revision or by the object that a note is on; what they have in common is that the tables of a store that
was built are in order (`Store.IsSound`), so that an object is found under the id that it names itself.
-/

namespace ReleasePress

open ReleasePress.Git ReleasePress.Text

/-- The text of an id, in any letter case, is read as the id. -/
theorem Git.ObjectId.parse?_of_lowerAscii {text : String} {oid : ObjectId} (h : lowerAscii text = oid.text) :
    ObjectId.parse? text = some oid := by
  simp [ObjectId.parse?, h, oid.valid]

namespace FilterLibrary

/-- The library with the store that the steps build as its repository. -/
def on (library : FilterLibrary Nat) (steps : List Store.Step) : FilterLibrary Nat :=
  { library with repository := (Store.build steps).repository }

/-- A filter does not tell two subjects from each other: calls with the same arguments give the same
answer and leave the same state. -/
def Agrees {σ : Type} (library : FilterLibrary σ) (filter : Filter) (a b : Value) : Prop :=
  ∀ args, library.call filter a args = library.call filter b args

theorem agrees_of_answer {σ : Type} {library : FilterLibrary σ} {filter : Filter} {a b : Value}
    (h : ∀ args, library.answer filter a args = library.answer filter b args) :
    library.Agrees filter a b := by
  intro args
  rw [call, call, h args]

/-- Of the filters that take no arguments the calls without any count alone. -/
theorem agrees_of_nil {σ : Type} {library : FilterLibrary σ} {filter : Filter} {a b : Value}
    (hfilter : filter ∈ [Filter.revParse, .objectType, .commits])
    (h : library.answer filter a [] = library.answer filter b []) : library.Agrees filter a b := by
  refine agrees_of_answer fun args => ?_
  cases args with
  | nil => exact h
  | cons arg args =>
      simp only [List.mem_cons, List.not_mem_nil, or_false] at hfilter
      rcases hfilter with rfl | rfl | rfl <;> rfl

theorem answer_of_call {σ : Type} {library : FilterLibrary σ} {filter : Filter} {subject value : Value}
    {args : List Value} {s : FilterState σ}
    (h : ((library.call filter subject args).run s).1 = .ok value) :
    ((library.answer filter subject args).run s).1 = .ok value := by
  rw [call, run_bind] at h
  cases hanswer : ((library.answer filter subject args).run s).1 with
  | error misuse =>
      rw [hanswer] at h
      cases h
  | ok found =>
      rw [hanswer] at h
      exact congrArg Except.ok (Except.ok.inj h)

/-- The note that `attrs` reads depends on the annotated object alone. -/
theorem agrees_attrs {σ : Type} {library : FilterLibrary σ} {a b : Value}
    (h : library.annotated a = library.annotated b) : library.Agrees .attrs a b := by
  have hnote : library.noteOf a = library.noteOf b := by rw [noteOf, noteOf, h]
  refine agrees_of_answer fun args => ?_
  show library.attributes a args = library.attributes b args
  rw [attributes.eq_def, attributes.eq_def, hnote]

section Store

variable (library : FilterLibrary Nat) (steps : List Store.Step)

/-! ## Questions to a store -/

theorem ask_object (oid : ObjectId) :
    ask ((library.on steps).repository.object oid) = pure ((Store.build steps).object oid) := rfl

theorem ask_revision (name : String) :
    ask ((library.on steps).repository.revision name) = pure ((Store.build steps).revision name) := rfl

theorem ask_note (oid : ObjectId) (notesRef : String) :
    ask ((library.on steps).repository.note oid notesRef) = pure ((Store.build steps).note oid notesRef) :=
  rfl

theorem found_eq_object_iff {answer : Except RepositoryError Object} {o : Object} :
    found answer = .object o ↔ answer = .ok o := by
  cases answer <;> simp [found]

/-- An id is looked up as such, even if it is the name of a ref. -/
theorem objectOf_id {text : String} {oid : ObjectId} (h : ObjectId.parse? text = some oid) :
    (library.on steps).objectOf text = pure ((Store.build steps).object oid) := by
  rw [objectOf, h]
  exact ask_object library steps oid

theorem objectOf_revision {text : String} (h : ObjectId.parse? text = none) :
    (library.on steps).objectOf text = pure ((Store.build steps).revision text) := by
  rw [objectOf, h]
  exact ask_revision library steps text

/-! ## A stored object -/

variable {library steps} {oid : ObjectId} {o : Object}

theorem revParse_object {x : Object} (hx : (Store.build steps).object x.oid = .ok o) :
    (library.on steps).revParse (.object x) [] = pure (.ok (.object o)) := by
  simp only [revParse, ask_object, hx, found, pure_bind]

theorem revParse_id {text : String} (h : ObjectId.parse? text = some oid)
    (ho : (Store.build steps).object oid = .ok o) :
    (library.on steps).revParse (.string text) [] = pure (.ok (.object o)) := by
  simp only [revParse, objectOf_id library steps h, ho, found, pure_bind]

theorem objectType_object {x : Object} (hx : (Store.build steps).object x.oid = .ok o) :
    (library.on steps).objectType (.object x) [] = pure (.ok (.string o.kindName)) := by
  simp only [objectType, ask_object, hx, pure_bind]

theorem objectType_id {text : String} (h : ObjectId.parse? text = some oid)
    (ho : (Store.build steps).object oid = .ok o) :
    (library.on steps).objectType (.string text) [] = pure (.ok (.string o.kindName)) := by
  simp only [objectType, h, ask_object, ho, pure_bind]

/-- Of a pointer the object is looked up first, of any other object it is there already. -/
theorem commits_object {x : Object} (hx : (Store.build steps).object x.oid = .ok o)
    (hself : x = o ∨ ∃ p, x = .pointer p) :
    (library.on steps).commits (.object x) [] =
      (library.on steps).ancestors o >>= fun value => pure (.ok value) := by
  have hpointer (p : Pointer) (hp : (Store.build steps).object p.oid = .ok o) :
      (library.on steps).commits (.object (.pointer p)) [] =
        (library.on steps).ancestors o >>= fun value => pure (.ok value) := by
    simp only [commits, ask_object, hp, pure_bind]
  rcases hself with rfl | ⟨p, rfl⟩
  · cases x with
    | pointer p => exact hpointer p hx
    | commit c => rfl
    | tag t => rfl
    | note n => rfl
  · exact hpointer p hx

theorem annotated_object (ho : ∀ n, o ≠ .note n) :
    (library.on steps).annotated (.object o) = pure (some o.oid) := by
  cases o with
  | note n => exact absurd rfl (ho n)
  | commit c => rfl
  | tag t => rfl
  | pointer p => rfl

theorem annotated_id {text : String} (h : ObjectId.parse? text = some oid) :
    (library.on steps).annotated (.string text) = pure (some oid) := by
  simp only [annotated, h]

theorem annotated_revision {text : String} (h : ObjectId.parse? text = none)
    (hfound : (Store.build steps).revision text = .ok o) :
    (library.on steps).annotated (.string text) = pure (some o.oid) := by
  simp only [annotated, h, ask_revision, hfound, pure_bind]

/-- What `rev_parse` makes of a text is the object that `attrs` takes it for. -/
theorem annotated_of_revParse {text : String} {s : FilterState Nat}
    (h : (((library.on steps).call .revParse (.string text) []).run s).1 = .ok (.object o)) :
    (library.on steps).annotated (.string text) = pure (some o.oid) ∧ ∀ n, o ≠ .note n := by
  have hsound := Store.isSound_build steps
  cases hparse : ObjectId.parse? text with
  | some oid =>
      have hcall : (library.on steps).call .revParse (.string text) [] =
          pure (.ok (found ((Store.build steps).object oid))) := by
        simp only [call, answer, revParse, objectOf_id library steps hparse, pure_bind]
      rw [hcall] at h
      have ho := found_eq_object_iff.1 (Except.ok.inj h)
      exact ⟨hsound.oid_eq ho ▸ annotated_id hparse, hsound.ne_note ho⟩
  | none =>
      have hcall : (library.on steps).call .revParse (.string text) [] =
          pure (.ok (found ((Store.build steps).revision text))) := by
        simp only [call, answer, revParse, objectOf_revision library steps hparse, pure_bind]
      rw [hcall] at h
      have ho := found_eq_object_iff.1 (Except.ok.inj h)
      exact ⟨annotated_revision hparse ho, hsound.ne_note (hsound.object_of_revision ho)⟩

theorem note_of_noteOf {subject : Value} {n : Note} {s : FilterState Nat}
    (h : (((library.on steps).noteOf subject).run s).1 = some n) :
    ∃ notesRef oid, library.notesRef = some notesRef ∧ (Store.build steps).note oid notesRef = .ok n := by
  cases href : library.notesRef with
  | none =>
      have hnone : (library.on steps).noteOf subject = pure none := by rw [noteOf, on, href]
      rw [hnone] at h
      cases h
  | some notesRef =>
      have href' : (library.on steps).notesRef = some notesRef := href
      rw [noteOf, href'] at h
      simp only [run_bind] at h
      cases hannotated : (((library.on steps).annotated subject).run s).1 with
      | none =>
          rw [hannotated] at h
          cases h
      | some oid =>
          simp only [hannotated, ask_note, run_bind, run_pure] at h
          cases hnote : (Store.build steps).note oid notesRef with
          | error e =>
              rw [hnote] at h
              cases h
          | ok note =>
              rw [hnote] at h
              cases h
              exact ⟨notesRef, oid, rfl, hnote⟩

/-- A note that `attrs` gives was found in the store. -/
theorem note_of_attrs {subject : Value} {args : List Value} {n : Note} {s : FilterState Nat}
    (h : (((library.on steps).call .attrs subject args).run s).1 = .ok (.object (.note n))) :
    ∃ notesRef oid, library.notesRef = some notesRef ∧ (Store.build steps).note oid notesRef = .ok n := by
  have hanswer : (((library.on steps).attributes subject args).run s).1 = .ok (.object (.note n)) :=
    answer_of_call h
  unfold attributes at hanswer
  split at hanswer
  · rw [run_bind] at hanswer
    cases hnote : (((library.on steps).noteOf subject).run s).1 with
    | none =>
        rw [hnote] at hanswer
        cases hanswer
    | some note =>
        rw [hnote] at hanswer
        cases hanswer
        exact note_of_noteOf hnote
  · cases hanswer
  · next key =>
      rw [run_bind] at hanswer
      cases hnote : (((library.on steps).noteOf subject).run s).1 with
      | none =>
          rw [hnote] at hanswer
          cases hanswer
      | some note =>
          rw [hnote] at hanswer
          have htext : Value.ofOption .string (trailerValue? key note.message) = .object (.note n) :=
            Except.ok.inj hanswer
          cases hvalue : trailerValue? key note.message <;> simp [hvalue, Value.ofOption] at htext
  · cases hanswer

end Store

/-! ## Subjects -/

/-- **Subjects are interchangeable.**  For every object of a store that was built in any steps, the
object, a pointer with its id and the text of its id lead to the same, whatever refs there are; `commits`
wants no text.  A string that `rev_parse` turns into the object has its note, and a note has itself. -/
theorem subjects_interchangeable (library : FilterLibrary Nat) (steps : List Store.Step) {oid : ObjectId}
    {o : Object} (hstored : (Store.build steps).object oid = .ok o) :
    (∀ (p : Pointer) (text : String), p.oid = o.oid → lowerAscii text = o.oid.text →
      (∀ filter ∈ [Filter.revParse, .objectType, .attrs],
        (library.on steps).Agrees filter (.object o) (.object (.pointer p)) ∧
          (library.on steps).Agrees filter (.object o) (.string text)) ∧
      (library.on steps).Agrees .commits (.object o) (.object (.pointer p)) ∧
      (library.on steps).call .revParse (.object o) [] = pure (.ok (.object o))) ∧
    (∀ text s, (((library.on steps).call .revParse (.string text) []).run s).1 = .ok (.object o) →
      (library.on steps).Agrees .attrs (.string text) (.object o)) ∧
    ∀ subject args n s,
      (((library.on steps).call .attrs subject args).run s).1 = .ok (.object (.note n)) →
        (library.on steps).call .attrs (.object (.note n)) [] = pure (.ok (.object (.note n))) := by
  have hsound := Store.isSound_build steps
  have hown : (Store.build steps).object o.oid = .ok o := by rwa [hsound.oid_eq hstored]
  have hnotNote := hsound.ne_note hstored
  refine ⟨fun p text hp htext => ?_, fun text s hrev => ?_, fun subject args n s hattrs => ?_⟩
  · have hpointer : (Store.build steps).object (Object.pointer p).oid = .ok o := by
      rw [show (Object.pointer p).oid = p.oid from rfl, hp]
      exact hown
    have hparse := ObjectId.parse?_of_lowerAscii htext
    refine ⟨fun filter hfilter => ?_, ?_, ?_⟩
    · simp only [List.mem_cons, List.not_mem_nil, or_false] at hfilter
      rcases hfilter with rfl | rfl | rfl
      · have hself : (library.on steps).revParse (.object o) [] = pure (.ok (.object o)) :=
          revParse_object hown
        exact ⟨agrees_of_nil (by decide) (hself.trans (revParse_object hpointer).symm),
          agrees_of_nil (by decide) (hself.trans (revParse_id hparse hown).symm)⟩
      · have hself : (library.on steps).objectType (.object o) [] = pure (.ok (.string o.kindName)) :=
          objectType_object hown
        exact ⟨agrees_of_nil (by decide) (hself.trans (objectType_object hpointer).symm),
          agrees_of_nil (by decide) (hself.trans (objectType_id hparse hown).symm)⟩
      · have hself : (library.on steps).annotated (.object o) = pure (some o.oid) :=
          annotated_object hnotNote
        have hpointed : (library.on steps).annotated (.object (.pointer p)) = pure (some o.oid) :=
          hp ▸ rfl
        exact ⟨agrees_attrs (hself.trans hpointed.symm),
          agrees_attrs (hself.trans (annotated_id hparse).symm)⟩
    · have hself : (library.on steps).commits (.object o) [] =
          (library.on steps).ancestors o >>= fun value => pure (.ok value) :=
        commits_object hown (.inl rfl)
      exact agrees_of_nil (by decide) (hself.trans (commits_object hpointer (.inr ⟨p, rfl⟩)).symm)
    · have hself : (library.on steps).revParse (.object o) [] = pure (.ok (.object o)) :=
        revParse_object hown
      simp only [call, answer, hself, pure_bind]
  · obtain ⟨hannotated, hnone⟩ := annotated_of_revParse hrev
    exact agrees_attrs (hannotated.trans (annotated_object hnone).symm)
  · obtain ⟨notesRef, oid, href, hnote⟩ := note_of_attrs hattrs
    have hread : (library.on steps).noteOf (.object (.note n)) = pure (some n) := by
      have href' : (library.on steps).notesRef = some notesRef := href
      simp only [noteOf, href', annotated, pure_bind, ask_note, hsound.note_target hnote]
    simp only [call, answer, attributes, hread, pure_bind]

/-- A library that reads notes of the ref `attrs`. -/
def annotating : FilterLibrary Nat :=
  { Environment.plain.library with notesRef := some "attrs" }

/-- Steps after which the text of the tenth commit's id is the name of a ref on the first one. -/
def shadowing : List Store.Step :=
  List.replicate 10 (.commit "Start" ⟨0, 0, 0⟩ []) ++
    [.ref "000000000000000000000000000000000000000A" (Store.idOf 1), .ref "HEAD" (Store.idOf 10),
      .note (Store.idOf 10) "attrs" "Channel: beta\n" ⟨0, 0, 0⟩]

/-- The tenth commit and its note. -/
def shadowedCommit : Object :=
  .commit (Store.addCommit "Start" ⟨0, 0, 0⟩ [] { count := 9 }).1

def shadowedNote : Note :=
  (Store.addNote (Store.idOf 10) "attrs" "Channel: beta\n" ⟨0, 0, 0⟩ { count := 10 }).1

theorem subjects_interchangeable_shadowed :
    (Store.build shadowing).object (Store.idOf 10) = .ok shadowedCommit ∧
      (annotating.on shadowing).Agrees .revParse (.object shadowedCommit)
        (.string "000000000000000000000000000000000000000A") ∧
      (annotating.on shadowing).Agrees .attrs (.string "HEAD") (.object shadowedCommit) ∧
      (annotating.on shadowing).call .attrs (.object (.note shadowedNote)) [] =
        pure (.ok (.object (.note shadowedNote))) := by
  have hstored : (Store.build shadowing).object (Store.idOf 10) = .ok shadowedCommit := by rfl
  have hrev : (((annotating.on shadowing).call .revParse (.string "HEAD") []).run
      { repository := 0 }).1 = .ok (.object shadowedCommit) := by rfl
  have hnote : (((annotating.on shadowing).call .attrs (.object shadowedCommit) []).run
      { repository := 0 }).1 = .ok (.object (.note shadowedNote)) := by rfl
  obtain ⟨hid, hname, hagain⟩ := subjects_interchangeable annotating shadowing hstored
  have hsame := hid ⟨Store.idOf 10, .blob⟩ "000000000000000000000000000000000000000A" (by rfl) (by rfl)
  exact ⟨hstored, (hsame.1 .revParse (by decide)).2, hname _ _ hrev, hagain _ _ _ _ hnote⟩

end FilterLibrary

end ReleasePress
