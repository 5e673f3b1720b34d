import ReleasePress.Git.Store
import ReleasePress.Git.WorkTree
import ReleasePress.Proofs.State

/-! # Steady repositories

A repository is steady if it gives the same answer whenever it is asked the same question. A store is, and so
is a work tree whose executable prints the same for the same invocation, whatever was run before. -/

namespace ReleasePress.Git

/-- The same questions get the same answers, whatever was asked before. -/
structure Repository.IsSteady {σ : Type} (repository : Repository σ) : Prop where
  object : ∀ oid, Settled (fun _ => True) (repository.object oid)
  revision : ∀ name, Settled (fun _ => True) (repository.revision name)
  walk : ∀ oid, Settled (fun _ => True) (repository.walk oid)
  next : ∀ walk, Settled (fun _ => True) (repository.next walk)
  note : ∀ oid notesRef, Settled (fun _ => True) (repository.note oid notesRef)
  aliases : Settled (fun _ => True) repository.aliases

namespace Repository.IsSteady

variable {σ : Type} {repository : Repository σ}

theorem collect (hsteady : repository.IsSteady) (n : Nat) (walk : repository.Walk) :
    Settled (fun _ => True) (repository.collect n walk) := by
  induction n generalizing walk with
  | zero => exact settled_pure _ _
  | succ n ih =>
      refine (hsteady.next walk).bind fun found => ?_
      split
      · exact settled_pure _ _
      · exact settled_pure _ _
      · refine (ih _).bind fun commits => ?_
        split <;> exact settled_pure _ _

theorem history (hsteady : repository.IsSteady) (oid : ObjectId) :
    Settled (fun _ => True) (repository.history oid) := by
  refine (hsteady.walk oid).bind fun found => ?_
  split
  · exact settled_pure _ _
  · exact hsteady.collect _ _

end Repository.IsSteady

/-! ## Stores -/

theorem Store.isSteady_repository (store : Store) : store.repository.IsSteady where
  object _ := settled_pure _ _
  revision _ := settled_pure _ _
  walk _ := settled_pure _ _
  next _ := settled_pure _ _
  note _ _ := settled_pure _ _
  aliases := ⟨.ok store.aliases, fun _ _ => ⟨rfl, trivial⟩⟩

/-! ## Work trees -/

/-- What comes of an invocation does not depend on those before it. -/
def Executable.IsSteady (executable : Executable) : Prop :=
  ∀ past past' invocation, executable past invocation = executable past' invocation

variable {executable : Executable}

theorem Command.settled_start (hsteady : executable.IsSteady) (command : Command) :
    Settled (fun _ => True) (command.start executable) := by
  by_cases hstart : isStartable command.invocation = true
  · refine ⟨.ok (executable [] command.invocation), fun past _ => ⟨?_, trivial⟩⟩
    rw [hsteady [] past, start, if_pos hstart]
    rfl
  · refine ⟨.error (.pipe .zeroByte), fun past _ => ⟨?_, trivial⟩⟩
    rw [start, if_neg hstart]
    rfl

theorem Command.settled_run (hsteady : executable.IsSteady) (command : Command) :
    Settled (fun _ => True) (command.run executable) := by
  refine (command.settled_start hsteady).bind fun started => ?_
  split
  · exact settled_pure _ _
  · dsimp only
    split <;> exact settled_pure _ _

namespace WorkTree

variable (hsteady : executable.IsSteady) (tree : WorkTree)
include hsteady

theorem settled_output (command : Command) :
    Settled (fun _ => True) (tree.output executable command) := by
  refine (Command.settled_run hsteady _).bind fun printed => ?_
  split <;> exact settled_pure _ _

theorem settled_objectKind (oid : ObjectId) :
    Settled (fun _ => True) (tree.objectKind executable oid) := by
  refine (settled_output hsteady tree _).bind fun printed => ?_
  split <;> exact settled_pure _ _

theorem settled_commit (oid : ObjectId) : Settled (fun _ => True) (tree.commit executable oid) := by
  refine (settled_output hsteady tree _).bind fun printed => ?_
  split <;> exact settled_pure _ _

theorem settled_tag (oid : ObjectId) : Settled (fun _ => True) (tree.tag executable oid) := by
  refine (settled_output hsteady tree _).bind fun printed => ?_
  split <;> exact settled_pure _ _

theorem settled_object (oid : ObjectId) : Settled (fun _ => True) (tree.object executable oid) := by
  refine (settled_objectKind hsteady tree oid).bind fun kind => ?_
  split
  · exact settled_pure _ _
  · refine (settled_commit hsteady tree oid).bind fun commit => ?_
    split <;> exact settled_pure _ _
  · refine (settled_tag hsteady tree oid).bind fun tag => ?_
    split <;> exact settled_pure _ _
  · exact settled_pure _ _

theorem settled_revision (name : String) : Settled (fun _ => True) (tree.revision executable name) := by
  rw [revision]
  split
  · exact settled_pure _ _
  · refine (settled_output hsteady tree _).bind fun printed => ?_
    split
    · exact settled_pure _ _
    · split
      · exact settled_pure _ _
      · exact settled_object hsteady tree _

theorem settled_walk (oid : ObjectId) : Settled (fun _ => True) (tree.walk executable oid) := by
  refine (settled_objectKind hsteady tree oid).bind fun kind => ?_
  split
  · exact settled_pure _ _
  · split
    · exact settled_pure _ _
    · refine (Command.settled_start hsteady _).bind fun started => ?_
      split <;> exact settled_pure _ _

theorem settled_next (lines : List (Option String)) :
    Settled (fun _ => True) (tree.next executable lines) := by
  rw [next.eq_def]
  split
  · exact settled_pure _ _
  · exact settled_pure _ _
  · split
    · exact settled_pure _ _
    · exact (settled_commit hsteady tree _).bind fun _ => settled_pure _ _

theorem settled_noteCommitter (notesRef : String) (oid : ObjectId) :
    Settled (fun _ => True) (tree.noteCommitter executable notesRef oid) := by
  refine (settled_output hsteady tree _).bind fun log => ?_
  split
  · exact settled_pure _ _
  · split
    · refine (settled_output hsteady tree _).bind fun log => ?_
      split <;> exact settled_pure _ _
    · exact settled_pure _ _

theorem settled_note (oid : ObjectId) (notesRef : String) :
    Settled (fun _ => True) (tree.note executable oid notesRef) := by
  refine (settled_output hsteady tree _).bind fun id => ?_
  split
  · exact settled_pure _ _
  · refine (settled_output hsteady tree _).bind fun message => ?_
    split
    · exact settled_pure _ _
    · split
      · exact settled_pure _ _
      · refine (settled_noteCommitter hsteady tree _ _).bind fun committer => ?_
        split <;> exact settled_pure _ _

/-- The aliases come from a file, so only commands have to be steady. -/
theorem isSteady_repository (files : FileTree) : (tree.repository executable files).IsSteady where
  object := settled_object hsteady tree
  revision := settled_revision hsteady tree
  walk := settled_walk hsteady tree
  next := settled_next hsteady tree
  note := settled_note hsteady tree
  aliases := settled_pure _ _

end WorkTree

end ReleasePress.Git
