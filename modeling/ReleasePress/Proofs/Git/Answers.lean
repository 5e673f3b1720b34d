import Mathlib.Data.List.Basic
import ReleasePress.Proofs.Git.Ancestors
import ReleasePress.Proofs.Git.Invocations
import ReleasePress.Proofs.Text.Utf8

/-!
# Answers of a work tree

An answer of a work tree is put together from what several commands print.  Whatever they print, an
answer belongs to its question: it has the id and the kind that were asked for, and a walk has one item
for each line of its listing (`WorkTree.answers_belong`).  What is printed is read as text, so bytes that
are no UTF-8 are replaced on the way (`WorkTree.note_message_replaced`).
-/

namespace ReleasePress.Git

open ReleasePress.Text

/-! ## Parsed objects -/

theorem ObjectKind.name_of_ofText {text : String} {kind : ObjectKind} (h : ofText text = .ok kind) :
    kind.name = text := by
  unfold ofText ofName? at h
  split at h
  · next found hfound =>
      obtain rfl := Except.ok.inj h
      split at hfound <;> cases hfound <;> rfl
  · cases h

theorem ObjectId.parse?_of_ofText {text : String} {oid : ObjectId} (h : ofText text = .ok oid) :
    parse? text = some oid := by
  unfold ofText at h
  split at h
  · next found hfound =>
      obtain rfl := Except.ok.inj h
      exact hfound
  · cases h

theorem Commit.oid_of_ofRaw {oid : ObjectId} {raw : String} {commit : Commit}
    (h : ofRaw oid raw = .ok commit) : commit.oid = oid := by
  simp only [ofRaw, bind, Except.bind] at h
  split at h
  · cases h
  · split at h
    · cases h
    · cases h
    · obtain rfl := Except.ok.inj h
      rfl

theorem Tag.oid_of_ofRaw {oid : ObjectId} {raw : String} {tag : Tag} (h : ofRaw oid raw = .ok tag) :
    tag.oid = oid := by
  simp only [ofRaw, bind, Except.bind] at h
  split at h
  · cases h
  · split at h
    · cases h
    · cases h
    · cases h
    · obtain rfl := Except.ok.inj h
      rfl

namespace WorkTree

/-! ## Lines of bytes -/

/-- Parts without the last one, if that is empty. -/
def withoutEmptyEnd (parts : List (List UInt8)) : List (List UInt8) :=
  if parts.getLast? = some [] then parts.dropLast else parts

theorem withoutEmptyEnd_cons (part : List UInt8) {parts : List (List UInt8)} (h : parts ≠ []) :
    withoutEmptyEnd (part :: parts) = part :: withoutEmptyEnd parts := by
  obtain ⟨next, rest, rfl⟩ := List.exists_cons_of_ne_nil h
  rw [withoutEmptyEnd, withoutEmptyEnd, List.getLast?_cons_cons, List.dropLast_cons_cons]
  split <;> rfl

/-- The lines of some bytes: the parts between line feeds, the last of which counts unless it is empty. -/
def linesOf (bytes : List UInt8) : List (List UInt8) :=
  withoutEmptyEnd (bytes.splitOn 10)

/-- The text of a line. -/
def lineText? (line : List UInt8) : Option String :=
  String.fromUTF8? ⟨line.toArray⟩

theorem modifyHead_nil_append (parts : List (List UInt8)) : parts.modifyHead ([] ++ ·) = parts :=
  congrFun List.modifyHead_id parts

/-- A reader that holds the beginning of a line, last byte first, goes on with it. -/
theorem byteLines_append (bytes line : List UInt8) :
    byteLines line bytes =
      (withoutEmptyEnd ((bytes.splitOn 10).modifyHead (line.reverse ++ ·))).map lineText? := by
  induction bytes generalizing line with
  | nil =>
      cases line with
      | nil => rfl
      | cons b line => simp [byteLines, byteLines.decoded, withoutEmptyEnd, lineText?]
  | cons b bytes ih =>
      rw [byteLines, List.splitOn_cons_eq_if_modifyHead]
      by_cases hfeed : b = 10
      · have hrest := ih []
        rw [List.reverse_nil, modifyHead_nil_append] at hrest
        rw [if_pos hfeed, if_pos (beq_iff_eq.2 hfeed), hrest, List.modifyHead_cons,
          withoutEmptyEnd_cons _ (List.splitOn_ne_nil _ _), List.append_nil]
        rfl
      · have hjoin : (line.reverse ++ ·) ∘ List.cons b = ((b :: line).reverse ++ ·) := by
          funext part
          simp
        rw [if_neg hfeed, if_neg (by simpa using hfeed), List.modifyHead_modifyHead, hjoin, ih]

/-- A listing that is read byte by byte falls into its lines. -/
theorem byteLines_eq (bytes : List UInt8) : byteLines [] bytes = (linesOf bytes).map lineText? := by
  rw [byteLines_append, List.reverse_nil, modifyHead_nil_append, linesOf]

/-! ## Answers of single commands -/

variable {executable : Executable} {tree : WorkTree} {past : List Invocation}

/-- What a command prints when it is the next one. -/
def printed (executable : Executable) (tree : WorkTree) (past : List Invocation) (command : Command) :
    ByteArray :=
  (executable past (tree.invocation command)).stdout

/-- A command that gives a text was run, and gives what it printed. -/
theorem eq_of_output_eq_ok {command : Command} {text : String}
    (h : ((tree.output executable command).run past).1 = .ok text) :
    (tree.output executable command).run past =
      (.ok (Utf8.decodeLossy (printed executable tree past command)), tree.invocation command :: past) := by
  cases hstart : Command.isStartable (tree.invocation command) with
  | false =>
      have hrun := start_run_error executable past { command with directory := some tree.path } hstart
      simp only [output, Command.run, run_bind, hrun] at h
      cases h
  | true =>
      have hrun := output_run executable tree past command (tree.invocation command) rfl hstart
      rw [hrun] at h ⊢
      split at h
      · rw [if_pos ‹_›, printed]
      · cases h

theorem kind_of_objectKind_eq_ok {oid : ObjectId} {kind : ObjectKind}
    (h : ((tree.objectKind executable oid).run past).1 = .ok kind) :
    kind.name = trimmed (Utf8.decodeLossy (printed executable tree past (Command.objectKind oid))) := by
  cases hout : ((tree.output executable (Command.objectKind oid)).run past).1 with
  | error e =>
      simp only [objectKind, run_bind, hout] at h
      cases h
  | ok text =>
      simp only [objectKind, run_bind, eq_of_output_eq_ok hout, run_pure] at h
      exact ObjectKind.name_of_ofText h

theorem oid_of_commit_eq_ok {oid : ObjectId} {commit : Commit}
    (h : ((tree.commit executable oid).run past).1 = .ok commit) : commit.oid = oid := by
  cases hout : ((tree.output executable (Command.contents .commit oid)).run past).1 with
  | error e =>
      simp only [WorkTree.commit, run_bind, hout] at h
      cases h
  | ok text =>
      simp only [WorkTree.commit, run_bind, hout, run_pure] at h
      exact Commit.oid_of_ofRaw h

theorem oid_of_tag_eq_ok {oid : ObjectId} {tag : Tag}
    (h : ((tree.tag executable oid).run past).1 = .ok tag) : tag.oid = oid := by
  cases hout : ((tree.output executable (Command.contents .tag oid)).run past).1 with
  | error e =>
      simp only [WorkTree.tag, run_bind, hout] at h
      cases h
  | ok text =>
      simp only [WorkTree.tag, run_bind, hout, run_pure] at h
      exact Tag.oid_of_ofRaw h

/-! ## Answers of several commands -/

theorem object_belongs {oid : ObjectId} {object : Object}
    (h : ((tree.object executable oid).run past).1 = .ok object) :
    object.oid = oid ∧
      object.kindName =
        trimmed (Utf8.decodeLossy (printed executable tree past (Command.objectKind oid))) := by
  cases hkind : ((tree.objectKind executable oid).run past).1 with
  | error e =>
      simp only [WorkTree.object, run_bind, hkind] at h
      cases h
  | ok kind =>
      rw [← kind_of_objectKind_eq_ok hkind]
      cases kind with
      | commit =>
          simp only [WorkTree.object, run_bind, hkind] at h
          split at h
          · next commit hcommit =>
              obtain rfl := Except.ok.inj h
              exact ⟨oid_of_commit_eq_ok hcommit, rfl⟩
          · cases h
      | tag =>
          simp only [WorkTree.object, run_bind, hkind] at h
          split at h
          · next tag htag =>
              obtain rfl := Except.ok.inj h
              exact ⟨oid_of_tag_eq_ok htag, rfl⟩
          · cases h
      | tree | blob =>
          simp only [WorkTree.object, run_bind, hkind] at h
          obtain rfl := Except.ok.inj h
          exact ⟨rfl, rfl⟩

theorem revision_belongs {name : String} {object : Object}
    (h : ((tree.revision executable name).run past).1 = .ok object) :
    ObjectId.parse? (trimmed (Utf8.decodeLossy (printed executable tree past (Command.resolve name)))) =
      some object.oid := by
  rw [revision] at h
  split at h
  · cases h
  · cases hout : ((tree.output executable (Command.resolve name)).run past).1 with
    | error e =>
        simp only [run_bind, hout] at h
        cases h
    | ok text =>
        simp only [run_bind, eq_of_output_eq_ok hout] at h
        split at h
        · cases h
        · next oid hoid =>
            rw [ObjectId.parse?_of_ofText hoid, (object_belongs h).1]

theorem note_belongs {oid : ObjectId} {notesRef : String} {note : Note}
    (h : ((tree.note executable oid notesRef).run past).1 = .ok note) :
    note.target = oid ∧
      note.message = Utf8.decodeLossy (printed executable tree
        (tree.invocation (Command.noteId (qualifyNotesRef notesRef) oid) :: past)
        (Command.noteText (qualifyNotesRef notesRef) oid)) := by
  cases hid : ((tree.output executable (Command.noteId (qualifyNotesRef notesRef) oid)).run past).1 with
  | error e =>
      simp only [WorkTree.note, run_bind, hid] at h
      cases h
  | ok id =>
      simp only [WorkTree.note, run_bind, eq_of_output_eq_ok hid] at h
      split at h
      · cases h
      · next message hmessage =>
          rw [eq_of_output_eq_ok hmessage] at hmessage
          split at h
          · cases h
          · simp only [run_bind] at h
            split at h
            · cases h
            · obtain rfl := Except.ok.inj h
              exact ⟨rfl, (Except.ok.inj hmessage).symm⟩

/-- An item that is a commit is that of its line. -/
theorem parse?_of_itemOn {line : Option String} {commit : Commit}
    (h : itemOn executable tree past line = .ok commit) :
    ∃ text, line = some text ∧ ObjectId.parse? (trimmed text) = some commit.oid := by
  cases line with
  | none => cases h
  | some text =>
      rw [itemOn] at h
      split at h
      · cases h
      · next oid hoid =>
          rw [told] at h
          split at h
          · rw [Commit.oid_of_ofRaw h, ← ObjectId.parse?_of_ofText hoid]
            exact ⟨text, rfl, rfl⟩
          · cases h

/-- A walk begins with the lines of the listing. -/
theorem walk_belongs {oid : ObjectId} {walk : List (Option String)}
    (h : ((tree.walk executable oid).run past).1 = .ok walk) :
    tree.isReachable = true ∧
      walk = (linesOf (printed executable tree (tree.invocation (Command.objectKind oid) :: past)
        (Command.ancestors oid)).toList).map lineText? := by
  cases hkind : ((tree.objectKind executable oid).run past).1 with
  | error e =>
      simp only [WorkTree.walk, run_bind, hkind] at h
      cases h
  | ok kind =>
      by_cases hcommit : kind = .commit
      · subst hcommit
        rw [walk_run executable tree past hkind] at h
        refine ⟨(objectKind_run executable tree past hkind).1, ?_⟩
        rw [← byteLines_eq]
        exact (Except.ok.inj h).symm
      · simp only [WorkTree.walk, run_bind, hkind, if_pos hcommit] at h
        cases h

/-- **Answers belong to their questions.**  Whatever the executable prints and exits with, an object has the
id that was asked for and the kind that was printed for it, the object of a revision has the id that was
printed for it, and a note is on the object that was asked for, with the text that was printed: the very
one if that was UTF-8.  Of a walk, any number of items belong to as many lines of the listing, one to each
in their order, and an item that is a commit has the id on its line; so no item that is an error ends
the walk or takes the place of another line's. -/
theorem answers_belong (executable : Executable) (tree : WorkTree) (files : FileTree)
    (past : List Invocation) :
    let repository := tree.repository executable files
    (∀ oid object, ((repository.object oid).run past).1 = .ok object →
      object.oid = oid ∧
        object.kindName =
          trimmed (Utf8.decodeLossy (printed executable tree past (Command.objectKind oid)))) ∧
      (∀ name object, ((repository.revision name).run past).1 = .ok object →
        ObjectId.parse? (trimmed (Utf8.decodeLossy (printed executable tree past (Command.resolve name)))) =
          some object.oid) ∧
      (∀ oid notesRef note, ((repository.note oid notesRef).run past).1 = .ok note →
        let shown := printed executable tree
          (tree.invocation (Command.noteId (qualifyNotesRef notesRef) oid) :: past)
          (Command.noteText (qualifyNotesRef notesRef) oid)
        note.target = oid ∧ note.message = Utf8.decodeLossy shown ∧
          ∀ text, shown = text.toUTF8 → note.message = text) ∧
      ∀ oid walk, ((repository.walk oid).run past).1 = .ok walk →
        let lines := linesOf (printed executable tree (tree.invocation (Command.objectKind oid) :: past)
          (Command.ancestors oid)).toList
        ∀ (later : List Invocation) (n : Nat),
          let items := ((repository.take n walk).run later).1
          items.length = min n lines.length ∧
            ∀ (i : Nat) (commit : Commit), items[i]? = some (.ok commit) →
              ∃ line text, lines[i]? = some line ∧ lineText? line = some text ∧
                ObjectId.parse? (trimmed text) = some commit.oid := by
  refine ⟨fun oid object h => object_belongs h, fun name object h => revision_belongs h,
    fun oid notesRef note h => ?_, fun oid walk h => ?_⟩
  · obtain ⟨htarget, hmessage⟩ := note_belongs h
    refine ⟨htarget, hmessage, fun text hshown => ?_⟩
    rw [hmessage, hshown, Utf8.decodeLossy_toUTF8]
  · intro lines later n items
    obtain ⟨hreach, hwalk⟩ := walk_belongs h
    have hitems : items = WorkTree.items executable tree later ((lines.map lineText?).take n) := by
      show (((tree.repository executable files).take n walk).run later).1 = _
      rw [hwalk, take_run_of_reachable executable tree later files n _ hreach]
    rw [hitems]
    refine ⟨by rw [length_items, List.length_take, List.length_map], fun i commit hitem => ?_⟩
    obtain ⟨hi, -⟩ := List.getElem?_eq_some_iff.1 hitem
    rw [length_items] at hi
    rw [getElem_items executable tree later _ i hi, Option.some.injEq] at hitem
    obtain ⟨text, htext, hoid⟩ := parse?_of_itemOn hitem
    rw [List.getElem_take, List.getElem_map] at htext
    exact ⟨_, text, List.getElem?_eq_getElem _, htext, hoid⟩

/-- An executable that prints a note that is no UTF-8, takes every object but the empty tree for a commit,
and answers anything else with the id of the empty tree. -/
def garbling : Executable := fun _ invocation =>
  let arguments := invocation.arguments
  let stdout :=
    if arguments.contains "show" then ByteArray.mk #[0xFF, 0x0A]
    else if arguments.contains "log" then "Ada\x1fada@example.org\x1f2024-01-01T00:00:00+00:00\n".toUTF8
    else if arguments.contains "-t" then
      (if arguments.contains ObjectId.emptyTree.text then "tree\n" else "commit\n").toUTF8
    else (ObjectId.emptyTree.text ++ "\n").toUTF8
  ⟨stdout, .empty, 0⟩

def garbledTree : WorkTree := ⟨"/work", defaultAliasFile⟩

/-- The id of an object that is told to be a commit. -/
def garbledTarget : ObjectId :=
  ⟨"0000000000000000000000000000000000000100", by decide⟩

def garbledNote : Note where
  oid := ObjectId.emptyTree
  target := garbledTarget
  committer := ⟨"Ada", "ada@example.org", ⟨1704067200, 0, 0⟩⟩
  message := "\uFFFD\n"

theorem answers_belong_garbled :
    let repository := garbledTree.repository garbling ⟨.directory [], "/"⟩
    let tree : Object := .pointer ⟨ObjectId.emptyTree, .tree⟩
    (((repository.object ObjectId.emptyTree).run []).1 = .ok tree ∧ tree.oid = ObjectId.emptyTree) ∧
      (((repository.revision "HEAD").run []).1 = .ok tree ∧
        ObjectId.parse? (trimmed (Utf8.decodeLossy (printed garbling garbledTree []
          (Command.resolve "HEAD")))) = some tree.oid) ∧
      (((repository.note garbledTarget "attrs").run []).1 = .ok garbledNote ∧
        garbledNote.target = garbledTarget) ∧
      ∃ walk, ((repository.walk garbledTarget).run []).1 = .ok walk ∧
        ((repository.take 1 walk).run []).1.length = min 1 (linesOf (printed garbling garbledTree
          [garbledTree.invocation (Command.objectKind garbledTarget)]
          (Command.ancestors garbledTarget)).toList).length := by
  intro repository tree
  obtain ⟨hobject, hrevision, hnote, hwalk⟩ := answers_belong garbling garbledTree ⟨.directory [], "/"⟩ []
  have htree : ((repository.object ObjectId.emptyTree).run []).1 = .ok tree := by decide +kernel
  have hhead : ((repository.revision "HEAD").run []).1 = .ok tree := by decide +kernel
  have hgarbled : ((repository.note garbledTarget "attrs").run []).1 = .ok garbledNote := by decide +kernel
  have hkind : ((garbledTree.objectKind garbling garbledTarget).run []).1 = .ok .commit := by
    decide +kernel
  have hlisted := congrArg Prod.fst (walk_run garbling garbledTree [] hkind)
  exact ⟨⟨htree, (hobject _ _ htree).1⟩, ⟨hhead, hrevision _ _ hhead⟩,
    ⟨hgarbled, (hnote _ _ _ hgarbled).1⟩, _, hlisted, (hwalk _ _ hlisted [] 1).1⟩

/-- A note that is no UTF-8 does not get to its reader as it was printed. -/
theorem note_message_replaced :
    ((garbledTree.note garbling garbledTarget "attrs").run []).1 = .ok garbledNote ∧
      printed garbling garbledTree [garbledTree.invocation (Command.noteId "refs/notes/attrs" garbledTarget)]
          (Command.noteText "refs/notes/attrs" garbledTarget) = ⟨#[0xFF, 0x0A]⟩ ∧
      garbledNote.message.toUTF8 ≠ ⟨#[0xFF, 0x0A]⟩ := by
  exact ⟨by decide +kernel, rfl, by decide +kernel⟩

end WorkTree

end ReleasePress.Git
