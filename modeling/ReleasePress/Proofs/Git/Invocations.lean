import Mathlib.Data.List.Basic
import Mathlib.Tactic.Common
import ReleasePress.Git.WorkTree
import ReleasePress.Proofs.State
import ReleasePress.Proofs.Text.Split

/-!
# What a work tree starts

A work tree asks the executable by commands of a few forms: words of its own, and places for the texts
that it is asked with.  `Makes` says of a computation that it starts only invocations with some property,
whatever was started before; it is carried through a computation step by step, so that the commands that
depend on what earlier ones printed need no case of their own.  `WorkTree.commands_guarded` says that no
text that a repository is asked with gets to where an option may stand.
-/

namespace ReleasePress.Git

open ReleasePress.Text

/-- Whatever was started before, the computation starts only invocations with the property. -/
def Makes {α : Type} (p : Invocation → Prop) (computation : Run α) : Prop :=
  ∀ past, ∃ made, (computation.run past).2 = made ++ past ∧ ∀ invocation ∈ made, p invocation

section Makes

variable {α β : Type} {p q : Invocation → Prop}

theorem makes_pure (a : α) : Makes p (pure a) :=
  fun _ => ⟨[], rfl, fun _ hmem => absurd hmem List.not_mem_nil⟩

theorem Makes.bind {first : Run α} {second : α → Run β} (hfirst : Makes p first)
    (hsecond : ∀ a, Makes p (second a)) : Makes p (first >>= second) := by
  intro past
  obtain ⟨made, hmade, hall⟩ := hfirst past
  obtain ⟨later, hlater, hall'⟩ := hsecond (first.run past).1 (made ++ past)
  refine ⟨later ++ made, ?_, fun invocation hmem => ?_⟩
  · rw [run_bind, hmade, hlater, List.append_assoc]
  · rcases List.mem_append.1 hmem with hmem | hmem
    · exact hall' invocation hmem
    · exact hall invocation hmem

theorem Makes.mono {computation : Run α} (h : Makes p computation)
    (hpq : ∀ invocation, p invocation → q invocation) : Makes q computation := by
  intro past
  obtain ⟨made, hmade, hall⟩ := h past
  exact ⟨made, hmade, fun invocation hmem => hpq invocation (hall invocation hmem)⟩

/-- A command starts its invocation or, if it cannot be started, none. -/
theorem makes_start (executable : Executable) {command : Command} (h : p command.invocation) :
    Makes p (command.start executable) := by
  intro past
  by_cases hstart : Command.isStartable command.invocation = true
  · refine ⟨[command.invocation], ?_, fun invocation hmem => ?_⟩
    · rw [Command.start, if_pos hstart]
      rfl
    · rwa [List.mem_singleton.1 hmem]
  · refine ⟨[], ?_, fun _ hmem => absurd hmem List.not_mem_nil⟩
    rw [Command.start, if_neg hstart]
    rfl

end Makes

namespace WorkTree

/-- What the executable is started with for a command in the top directory. -/
def invocation (tree : WorkTree) (command : Command) : Invocation :=
  Command.invocation { command with directory := some tree.path }

/-! ## Forms of commands -/

/-- A place in a command: for a word that is always the same, or for a text that a repository is asked
with. -/
inductive Place where
  | word (text : String)
  | revision
  | id
  /-- The id as the path of a file in a directory of two digits. -/
  | nestedId
  | notesRef
  deriving DecidableEq

/-- The words that a command begins with and the places after them. -/
structure Form where
  words : List String
  places : List Place
  deriving DecidableEq

/-- The forms of all commands of a work tree. -/
def forms : List Form :=
  [⟨["cat-file", "-t"], [.id]⟩,
    ⟨["cat-file", "commit"], [.id]⟩,
    ⟨["cat-file", "tag"], [.id]⟩,
    ⟨["rev-parse", "--verify", "--quiet"], [.revision]⟩,
    ⟨["rev-list"], [.id]⟩,
    ⟨["notes", "--ref"], [.notesRef, .word "list", .id]⟩,
    ⟨["notes", "--ref"], [.notesRef, .word "show", .id]⟩,
    ⟨["log", "-1", "--format=%cn%x1f%ce%x1f%cI"], [.notesRef, .word "--", .id, .nestedId]⟩,
    ⟨["log", "-1", "--format=%cn%x1f%ce%x1f%cI"], [.notesRef]⟩]

/-- The texts that a repository is asked with. -/
structure Texts where
  revision : String
  id : ObjectId
  notesRef : String

/-- The argument that stands in a place. -/
def Place.text (texts : Texts) : Place → String
  | word text => text
  | revision => texts.revision ++ "^\x7bobject\x7d"
  | id => texts.id.text
  | nestedId =>
    String.ofList (texts.id.text.toList.take 2) ++ "/" ++ String.ofList (texts.id.text.toList.drop 2)
  | notesRef => qualifyNotesRef texts.notesRef

/-- The settings come first, then the words of a form, then its places, of which none that holds a text
begins like an option. -/
def IsGuarded (tree : WorkTree) (texts : Texts) (invocation : Invocation) : Prop :=
  ∃ form ∈ forms,
    invocation.arguments =
        ["-C", tree.path, "-c", "core.quotePath=false"] ++ form.words ++ form.places.map (Place.text texts) ∧
      ∀ place ∈ form.places, (∀ text, place ≠ .word text) → (place.text texts).toList.head? ≠ some '-'

/-! ## Texts in their places -/

theorem exists_digits (id : ObjectId) :
    ∃ first second rest, id.text.toList = first :: second :: rest ∧ isHexDigit first = true := by
  have hvalid := id.valid
  simp only [isObjectId, Bool.and_eq_true, Bool.or_eq_true, List.all_eq_true, beq_iff_eq] at hvalid
  obtain ⟨hdigits, hlength⟩ := hvalid
  match htext : id.text.toList with
  | [] => simp [htext] at hlength
  | [first] => simp [htext] at hlength
  | first :: second :: rest => exact ⟨first, second, rest, rfl, hdigits first (by simp [htext])⟩

theorem ne_hyphen_of_isHexDigit {c : Char} (h : isHexDigit c = true) : c ≠ '-' := by
  rintro rfl
  exact absurd h (by decide)

theorem head?_qualifyNotesRef (name : String) : (qualifyNotesRef name).toList.head? = some 'r' := by
  rw [qualifyNotesRef]
  split
  · next hfull =>
      rw [startsWith, Option.isSome_iff_exists] at hfull
      obtain ⟨rest, hrest⟩ := hfull
      rw [dropHead?_eq_some_iff.1 hrest]
      rfl
  · simp

/-- Of the texts only a revision could begin like an option. -/
theorem Place.head?_text (texts : Texts) {place : Place} (hword : ∀ text, place ≠ .word text)
    (hrevision : place = .revision → isRevision texts.revision = true) :
    (place.text texts).toList.head? ≠ some '-' := by
  obtain ⟨first, second, rest, hdigits, hfirst⟩ := exists_digits texts.id
  have hne := ne_hyphen_of_isHexDigit hfirst
  cases place with
  | word text => exact absurd rfl (hword text)
  | revision =>
      obtain ⟨hempty, hhead⟩ := isRevision_iff.1 (hrevision rfl)
      rw [ne_eq, ← String.toList_eq_nil_iff] at hempty
      rw [Place.text, String.toList_append, List.head?_append_of_ne_nil _ hempty]
      exact hhead
  | id =>
      rw [Place.text, hdigits]
      simpa using hne
  | nestedId =>
      rw [Place.text, hdigits]
      simpa using hne
  | notesRef =>
      rw [Place.text, head?_qualifyNotesRef]
      decide

/-- A command of one of the forms is guarded, if it is for a revision that may be asked for. -/
theorem isGuarded_invocation (tree : WorkTree) (texts : Texts) (command : Command) (form : Form)
    (hform : form ∈ forms) (harguments : command.arguments = form.words ++ form.places.map (Place.text texts))
    (hrevision : .revision ∉ form.places ∨ isRevision texts.revision = true) :
    tree.IsGuarded texts (tree.invocation command) := by
  refine ⟨form, hform, ?_, fun place hplace hword => ?_⟩
  · simp [invocation, Command.invocation, harguments]
  · refine Place.head?_text texts hword fun heq => ?_
    rcases hrevision with hnone | hrevision
    · exact absurd (heq ▸ hplace) hnone
    · exact hrevision

/-! ## Questions to a work tree -/

variable (executable : Executable) (tree : WorkTree) (texts : Texts)

theorem makes_output {p : Invocation → Prop} {command : Command} (h : p (tree.invocation command)) :
    Makes p (tree.output executable command) := by
  have hrun : Makes p (Command.run executable { command with directory := some tree.path }) := by
    refine (makes_start executable h).bind fun started => ?_
    split
    · exact makes_pure _
    · dsimp only
      split <;> exact makes_pure _
  refine hrun.bind fun printed => ?_
  split <;> exact makes_pure _

theorem makes_objectKind : Makes (tree.IsGuarded texts) (tree.objectKind executable texts.id) := by
  have hguarded := isGuarded_invocation tree texts (Command.objectKind texts.id)
    ⟨["cat-file", "-t"], [.id]⟩ (by decide) rfl (.inl (by decide))
  refine (makes_output executable tree hguarded).bind fun printed => ?_
  split <;> exact makes_pure _

theorem makes_commit : Makes (tree.IsGuarded texts) (tree.commit executable texts.id) := by
  have hguarded := isGuarded_invocation tree texts (Command.contents .commit texts.id)
    ⟨["cat-file", "commit"], [.id]⟩ (by decide) rfl (.inl (by decide))
  refine (makes_output executable tree hguarded).bind fun printed => ?_
  split <;> exact makes_pure _

theorem makes_tag : Makes (tree.IsGuarded texts) (tree.tag executable texts.id) := by
  have hguarded := isGuarded_invocation tree texts (Command.contents .tag texts.id)
    ⟨["cat-file", "tag"], [.id]⟩ (by decide) rfl (.inl (by decide))
  refine (makes_output executable tree hguarded).bind fun printed => ?_
  split <;> exact makes_pure _

theorem makes_object : Makes (tree.IsGuarded texts) (tree.object executable texts.id) := by
  refine (makes_objectKind executable tree texts).bind fun kind => ?_
  split
  · exact makes_pure _
  · refine (makes_commit executable tree texts).bind fun commit => ?_
    split <;> exact makes_pure _
  · refine (makes_tag executable tree texts).bind fun tag => ?_
    split <;> exact makes_pure _
  · exact makes_pure _

/-- The id that the executable gives for a revision is one that it is asked with next. -/
theorem makes_revision :
    Makes (fun invocation => ∃ id, tree.IsGuarded { texts with id } invocation)
      (tree.revision executable texts.revision) := by
  rw [revision]
  split
  · exact makes_pure _
  · next hrevision =>
      have hguarded := isGuarded_invocation tree texts (Command.resolve texts.revision)
        ⟨["rev-parse", "--verify", "--quiet"], [.revision]⟩ (by decide) rfl (.inr (by simpa using hrevision))
      refine (makes_output executable tree ⟨texts.id, hguarded⟩).bind fun printed => ?_
      split
      · exact makes_pure _
      · split
        · exact makes_pure _
        · next id _ =>
            exact (makes_object executable tree { texts with id }).mono fun _ h => ⟨id, h⟩

theorem makes_walk : Makes (tree.IsGuarded texts) (tree.walk executable texts.id) := by
  have hguarded := isGuarded_invocation tree texts (Command.ancestors texts.id)
    ⟨["rev-list"], [.id]⟩ (by decide) rfl (.inl (by decide))
  refine (makes_objectKind executable tree texts).bind fun kind => ?_
  split
  · exact makes_pure _
  · split
    · exact makes_pure _
    · refine (makes_start executable hguarded).bind fun started => ?_
      split <;> exact makes_pure _

theorem makes_next (lines : List (Option String)) :
    Makes (fun invocation => ∃ id, tree.IsGuarded { texts with id } invocation)
      (tree.next executable lines) := by
  rw [next.eq_def]
  split
  · exact makes_pure _
  · exact makes_pure _
  · split
    · exact makes_pure _
    · next id _ =>
        have hcommit := (makes_commit executable tree { texts with id }).mono
          fun invocation h => (⟨id, h⟩ : ∃ id, tree.IsGuarded { texts with id } invocation)
        exact hcommit.bind fun commit => makes_pure _

/-- Every beginning of a walk, by induction on the number of its items. -/
theorem makes_take (files : FileTree) (n : Nat) (lines : List (Option String)) :
    Makes (fun invocation => ∃ id, tree.IsGuarded { texts with id } invocation)
      ((tree.repository executable files).take n lines) := by
  induction n generalizing lines with
  | zero => exact makes_pure _
  | succ n ih =>
      refine (makes_next executable tree texts lines).bind fun found => ?_
      split
      · exact makes_pure _
      · exact (ih _).bind fun items => makes_pure _

theorem makes_noteCommitter :
    Makes (tree.IsGuarded texts)
      (tree.noteCommitter executable (qualifyNotesRef texts.notesRef) texts.id) := by
  have hnested := isGuarded_invocation tree texts
    (Command.lastChange (qualifyNotesRef texts.notesRef) [texts.id.text, Place.nestedId.text texts])
    ⟨["log", "-1", "--format=%cn%x1f%ce%x1f%cI"], [.notesRef, .word "--", .id, .nestedId]⟩
    (by decide) rfl (.inl (by decide))
  have hwhole := isGuarded_invocation tree texts (Command.lastChange (qualifyNotesRef texts.notesRef) [])
    ⟨["log", "-1", "--format=%cn%x1f%ce%x1f%cI"], [.notesRef]⟩ (by decide) rfl (.inl (by decide))
  refine (makes_output executable tree hnested).bind fun log => ?_
  split
  · exact makes_pure _
  · split
    · refine (makes_output executable tree hwhole).bind fun log => ?_
      split <;> exact makes_pure _
    · exact makes_pure _

theorem makes_note :
    Makes (tree.IsGuarded texts) (tree.note executable texts.id texts.notesRef) := by
  have hid := isGuarded_invocation tree texts (Command.noteId (qualifyNotesRef texts.notesRef) texts.id)
    ⟨["notes", "--ref"], [.notesRef, .word "list", .id]⟩ (by decide) rfl (.inl (by decide))
  have htext := isGuarded_invocation tree texts (Command.noteText (qualifyNotesRef texts.notesRef) texts.id)
    ⟨["notes", "--ref"], [.notesRef, .word "show", .id]⟩ (by decide) rfl (.inl (by decide))
  refine (makes_output executable tree hid).bind fun printed => ?_
  split
  · exact makes_pure _
  · refine (makes_output executable tree htext).bind fun message => ?_
    split
    · exact makes_pure _
    · split
      · exact makes_pure _
      · refine (makes_noteCommitter executable tree texts).bind fun committer => ?_
        split <;> exact makes_pure _

/-- **No text becomes an option.**  Whatever a work tree is asked with and whatever the executable prints,
each command that a question starts, or any beginning of a walk, is of one of the forms, with the texts
in their places and none of them beginning like an option.  The aliases start no command, and a revision
that is empty or begins like an option is refused without one. -/
theorem commands_guarded (files : FileTree) :
    let repository := tree.repository executable files
    Makes (tree.IsGuarded texts) (repository.object texts.id) ∧
      Makes (fun invocation => ∃ id, tree.IsGuarded { texts with id } invocation)
        (repository.revision texts.revision) ∧
      Makes (tree.IsGuarded texts) (repository.walk texts.id) ∧
      (∀ (n : Nat) (lines : List (Option String)),
        Makes (fun invocation => ∃ id, tree.IsGuarded { texts with id } invocation)
          (repository.take n lines)) ∧
      Makes (tree.IsGuarded texts) (repository.note texts.id texts.notesRef) ∧
      (∀ past, (repository.aliases.run past).2 = past) ∧
      (texts.revision = "" ∨ texts.revision.toList.head? = some '-' →
        ∀ past, (repository.revision texts.revision).run past =
          (.error (.invalidRevision texts.revision), past)) := by
  refine ⟨makes_object executable tree texts, makes_revision executable tree texts,
    makes_walk executable tree texts, makes_take executable tree texts files,
    makes_note executable tree texts, fun _ => rfl, fun hoption past => ?_⟩
  have hrefused : isRevision texts.revision = false := by
    rw [← Bool.not_eq_true, isRevision_iff]
    rintro ⟨hempty, hhead⟩
    exact hoption.elim hempty hhead
  show (tree.revision executable texts.revision).run past = _
  rw [revision, hrefused]
  rfl

/-- An executable that prints nothing. -/
def mute : Executable := fun _ _ => ⟨.empty, .empty, 0⟩

/-- Texts of which the revision and the notes ref begin like options. -/
def hyphened : Texts := ⟨"--all", ObjectId.emptyTree, "--all"⟩

theorem commands_guarded_hyphened :
    let tree : WorkTree := ⟨"/work", defaultAliasFile⟩
    let repository := tree.repository mute ⟨.directory [], "/"⟩
    (repository.revision "--all").run [] = (.error (.invalidRevision "--all"), []) ∧
      ((repository.note ObjectId.emptyTree "--all").run []).2.length = 2 ∧
      ∀ invocation ∈ ((repository.note ObjectId.emptyTree "--all").run []).2,
        tree.IsGuarded hyphened invocation := by
  intro tree repository
  obtain ⟨-, -, -, -, hnote, -, hrefused⟩ := commands_guarded mute tree hyphened ⟨.directory [], "/"⟩
  obtain ⟨made, hmade, hall⟩ := hnote []
  rw [List.append_nil] at hmade
  refine ⟨hrefused (.inr (by decide)) [], by decide +kernel, fun invocation hmem => ?_⟩
  have hmem' : invocation ∈ made := hmade ▸ hmem
  exact hall invocation hmem'

end WorkTree

end ReleasePress.Git
