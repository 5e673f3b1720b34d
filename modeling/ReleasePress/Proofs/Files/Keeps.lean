import ReleasePress.Proofs.Files.Tree

/-! # What a change keeps

The operations on files put nodes where there was nothing or a file. Directories and links stay, and so do
the files at other locations: this is `FileTree.Keeps`, with the locations that a change may touch. A path
that led somewhere then leads to the same location afterwards, for which it is enough that directories and links
stay (`FileTree.Retains`). -/

namespace ReleasePress

namespace FileNode

/-! ## Nodes around a node that is put somewhere -/

theorem entry_setEntry_self (name : String) (node : FileNode) (entries : List (String × FileNode)) :
    entry name (setEntry name node entries) = some node := by
  induction entries with
  | nil => simp [setEntry, entry]
  | cons first entries ih =>
      obtain ⟨other, old⟩ := first
      by_cases hother : other = name
      · simp [setEntry, entry, hother]
      · simp [setEntry, entry, hother, ih]

theorem entry_setEntry_of_ne {name other : String} (hother : other ≠ name) (node : FileNode)
    (entries : List (String × FileNode)) :
    entry other (setEntry name node entries) = entry other entries := by
  induction entries with
  | nil => simp [setEntry, entry, hother.symm]
  | cons first entries ih =>
      obtain ⟨first, old⟩ := first
      by_cases hfirst : first = name
      · simp [setEntry, entry, hfirst, hother.symm]
      · simp only [setEntry, entry, hfirst, if_false, ih]

theorem put_cons {name : String} {node child : FileNode} {entries : List (String × FileNode)}
    (hchild : entry name entries = some child) {rest : Location} (hrest : rest ≠ []) :
    put node (.directory entries) (name :: rest) =
      .directory (setEntry name (put node child rest) entries) := by
  cases rest with
  | nil => exact absurd rfl hrest
  | cons next rest => simp only [put, hchild]

section Put

variable {root node : FileNode} {around : Location} {name : String} {entries : List (String × FileNode)}

theorem at?_put_below (hat : root.at? around = some (.directory entries)) (rest : Location) :
    (put node root (around ++ [name])).at? (around ++ name :: rest) = node.at? rest := by
  induction around generalizing root with
  | nil =>
      rw [at?_nil, Option.some.injEq] at hat
      subst hat
      exact at?_directory_cons (entry_setEntry_self _ _ _) rest
  | cons first around ih =>
      obtain ⟨others, child, rfl, hchild, hchildAt⟩ := exists_child hat
      rw [List.cons_append, put_cons hchild (by simp), List.cons_append,
        at?_directory_cons (entry_setEntry_self _ _ _)]
      exact ih hchildAt

theorem at?_put_around (hat : root.at? around = some (.directory entries)) {other : Location}
    (hother : other <+: around) :
    ∃ entries', (put node root (around ++ [name])).at? other = some (.directory entries') := by
  induction around generalizing root other with
  | nil =>
      rw [at?_nil, Option.some.injEq] at hat
      subst hat
      obtain rfl := List.prefix_nil.1 hother
      exact ⟨_, rfl⟩
  | cons first around ih =>
      obtain ⟨others, child, rfl, hchild, hchildAt⟩ := exists_child hat
      rw [List.cons_append, put_cons hchild (by simp)]
      cases other with
      | nil => exact ⟨_, rfl⟩
      | cons first' other =>
          obtain ⟨rfl, hrest⟩ := List.cons_prefix_cons.1 hother
          rw [at?_directory_cons (entry_setEntry_self _ _ _)]
          exact ih hchildAt hrest

theorem at?_put_beside (hat : root.at? around = some (.directory entries)) {other : Location}
    (haround : ¬other <+: around) (hbelow : ¬around ++ [name] <+: other) :
    (put node root (around ++ [name])).at? other = root.at? other := by
  induction around generalizing root other with
  | nil =>
      rw [at?_nil, Option.some.injEq] at hat
      subst hat
      cases other with
      | nil => exact absurd List.prefix_rfl haround
      | cons first other =>
          have hfirst : first ≠ name := by
            rintro rfl
            exact hbelow (by simp)
          simp only [List.nil_append, put, at?, entry_setEntry_of_ne hfirst]
  | cons first around ih =>
      obtain ⟨others, child, rfl, hchild, hchildAt⟩ := exists_child hat
      rw [List.cons_append, put_cons hchild (by simp)]
      cases other with
      | nil => exact absurd List.nil_prefix haround
      | cons first' other =>
          by_cases hfirst : first' = first
          · subst hfirst
            rw [at?_directory_cons (entry_setEntry_self _ _ _), at?_directory_cons hchild]
            refine ih hchildAt (fun hother => haround ?_) fun hother => hbelow ?_
            · exact List.cons_prefix_cons.2 ⟨rfl, hother⟩
            · exact List.cons_prefix_cons.2 ⟨rfl, hother⟩
          · simp only [at?, entry_setEntry_of_ne hfirst]

/-- Away from where a file or an empty directory is put, in place of nothing or of a file, there is the node
that was there, except that directories may have other entries. -/
theorem at?_put_of_ne (hat : root.at? around = some (.directory entries))
    (hold : ∀ entries', root.at? (around ++ [name]) ≠ some (.directory entries'))
    (hbare : ∀ first rest, node.at? (first :: rest) = none) {other : Location}
    (hother : other ≠ around ++ [name]) :
    (put node root (around ++ [name])).at? other = root.at? other ∨
      ∃ entries' entries'', root.at? other = some (.directory entries') ∧
        (put node root (around ++ [name])).at? other = some (.directory entries'') := by
  by_cases haround : other <+: around
  · obtain ⟨rest, rfl⟩ := haround
    have hput : ∃ entries'',
        (put node root (other ++ rest ++ [name])).at? other = some (.directory entries'') :=
      at?_put_around hat (List.prefix_append other rest)
    obtain ⟨entries'', hput⟩ := hput
    rw [at?_append] at hat
    obtain ⟨node', hother', hrest⟩ := Option.bind_eq_some_iff.1 hat
    cases rest with
    | nil =>
        rw [at?_nil, Option.some.injEq] at hrest
        exact .inr ⟨entries, entries'', by rw [hother', hrest], hput⟩
    | cons first rest =>
        obtain ⟨entries', child, rfl, -⟩ := exists_child hrest
        exact .inr ⟨entries', entries'', hother', hput⟩
  · by_cases hbelow : around ++ [name] <+: other
    · obtain ⟨rest, rfl⟩ := hbelow
      left
      cases rest with
      | nil => simp at hother
      | cons first rest =>
          have hnone : root.at? (around ++ [name] ++ first :: rest) = none := by
            rw [at?_append, Option.bind_eq_none_iff]
            intro node' hnode'
            cases node' with
            | file bytes => rfl
            | link target => rfl
            | directory entries' => exact absurd hnode' (hold entries')
          rw [hnone, List.append_assoc, List.singleton_append, at?_put_below hat, hbare]
    · exact .inl (at?_put_beside hat haround hbelow)

end Put

end FileNode

namespace FileTree

open FileNode

/-! ## Paths after a change -/

/-- A change that leaves directories and links where they are, and makes no link. -/
structure Retains (tree tree' : FileTree) : Prop where
  directory : ∀ {location : Location} {entries : List (String × FileNode)},
    tree.root.at? location = some (.directory entries) →
      ∃ entries', tree'.root.at? location = some (.directory entries')
  link_iff : ∀ (location : Location) (target : String),
    tree'.root.at? location = some (.link target) ↔ tree.root.at? location = some (.link target)
  workingDirectory : tree'.workingDirectory = tree.workingDirectory

namespace Retains

variable {tree tree' : FileTree} {location : Location}

theorem takeSteps {last : Bool} {onLink onLink' : Location → List Path.Component → Arrival}
    {node? : Option FileNode} (hretains : Retains tree tree')
    (honLink : ∀ done steps, onLink done steps = .ok (location, node?) →
      onLink' done steps = .ok (location, tree'.root.at? location)) {done : Location}
    {steps : List Path.Component}
    (harrival : FileTree.takeSteps tree.root last onLink done steps = .ok (location, node?)) :
    FileTree.takeSteps tree'.root last onLink' done steps =
      .ok (location, tree'.root.at? location) := by
  fun_induction FileTree.takeSteps tree.root last onLink done steps with
  | case1 done =>
      cases harrival
      rfl
  | case2 done rest ih =>
      rw [FileTree.takeSteps]
      exact ih harrival
  | case3 => cases harrival
  | case4 done rest entries hat ih =>
      obtain ⟨entries', hat'⟩ := hretains.directory hat
      simp only [FileTree.takeSteps, hat']
      exact ih harrival
  | case5 done rest entries hat ih =>
      obtain ⟨entries', hat'⟩ := hretains.directory hat
      simp only [FileTree.takeSteps, hat']
      exact ih harrival
  | case6 done rest name entries hat target hentry hend =>
      obtain ⟨entries', hat'⟩ := hretains.directory hat
      have hlink := (hretains.link_iff (done.reverse ++ [name]) target).2 (by rw [at?_concat hat, hentry])
      have hentry' := hlink
      rw [at?_concat hat'] at hentry'
      cases harrival
      simp only [FileTree.takeSteps, hat', hentry', hend, if_true, List.reverse_cons, hlink]
  | case7 => cases harrival
  | case8 done rest name entries hat target hentry hend hempty =>
      obtain ⟨entries', hat'⟩ := hretains.directory hat
      have hentry' := (hretains.link_iff (done.reverse ++ [name]) target).2 (by rw [at?_concat hat, hentry])
      rw [at?_concat hat'] at hentry'
      simp only [FileTree.takeSteps, hat', hentry', hend, hempty]
      exact honLink _ _ harrival
  | case9 done rest name entries hat hentry ih =>
      obtain ⟨entries', hat'⟩ := hretains.directory hat
      have hentry' : ∀ target, entry name entries' ≠ some (.link target) := by
        intro target hlink
        rw [← at?_concat hat', hretains.link_iff, at?_concat hat] at hlink
        exact hentry target hlink
      simp only [FileTree.takeSteps, hat']
      exact ih harrival
  | case10 => cases harrival

/-- A path leads on to the location that it led to before. -/
theorem locate {last : Bool} {path : String} {node? : Option FileNode}
    (hretains : Retains tree tree') (hlocate : tree.locate last path = .ok (location, node?)) :
    tree'.locate last path = .ok (location, tree'.root.at? location) := by
  have hfollow : ∀ {links done steps},
      follow tree.root last links done steps = .ok (location, node?) →
        follow tree'.root last links done steps = .ok (location, tree'.root.at? location) := by
    intro links done steps harrival
    induction links generalizing done steps with
    | zero => exact hretains.takeSteps (by intro _ _ h; cases h) harrival
    | succ links ih => exact hretains.takeSteps (fun _ _ harrival => ih harrival) harrival
  rw [FileTree.locate] at hlocate ⊢
  split at hlocate
  · cases hlocate
  · next hpath =>
      rw [if_neg hpath, hretains.workingDirectory]
      exact hfollow hlocate

end Retains

/-! ## What a change keeps -/

/-- What can become of a place: nothing, or a directory gets other entries, or a directory is made, or a file is
written, which only touched places suffer. -/
inductive Becomes (touched : Prop) : Option FileNode → Option FileNode → Prop
  | same (node? : Option FileNode) : Becomes touched node? node?
  | refilled (entries entries' : List (String × FileNode)) :
      Becomes touched (some (.directory entries)) (some (.directory entries'))
  | made (entries : List (String × FileNode)) : Becomes touched none (some (.directory entries))
  | written (htouched : touched) (bytes : ByteArray) : Becomes touched none (some (.file bytes))
  | overwritten (htouched : touched) (old bytes : ByteArray) :
      Becomes touched (some (.file old)) (some (.file bytes))

namespace Becomes

variable {touched touched' : Prop} {node? node?' node?'' : Option FileNode}

theorem trans (hfirst : Becomes touched node? node?') (hsecond : Becomes touched' node?' node?'') :
    Becomes (touched ∨ touched') node? node?'' := by
  cases hfirst with
  | same =>
      cases hsecond with
      | same => exact .same _
      | refilled entries entries' => exact .refilled entries entries'
      | made entries => exact .made entries
      | written htouched bytes => exact .written (.inr htouched) bytes
      | overwritten htouched old bytes => exact .overwritten (.inr htouched) old bytes
  | refilled entries entries' =>
      cases hsecond with
      | same => exact .refilled entries entries'
      | refilled _ entries'' => exact .refilled entries entries''
  | made entries =>
      cases hsecond with
      | same => exact .made entries
      | refilled _ entries' => exact .made entries'
  | written htouched bytes =>
      cases hsecond with
      | same => exact .written (.inl htouched) bytes
      | overwritten _ _ bytes' => exact .written (.inl htouched) bytes'
  | overwritten htouched old bytes =>
      cases hsecond with
      | same => exact .overwritten (.inl htouched) old bytes
      | overwritten _ _ bytes' => exact .overwritten (.inl htouched) old bytes'

theorem mono (hbecomes : Becomes touched node? node?') (htouched : touched → touched') :
    Becomes touched' node? node?' := by
  cases hbecomes with
  | same => exact .same _
  | refilled entries entries' => exact .refilled entries entries'
  | made entries => exact .made entries
  | written htouch bytes => exact .written (htouched htouch) bytes
  | overwritten htouch old bytes => exact .overwritten (htouched htouch) old bytes

theorem of_directory {entries : List (String × FileNode)}
    (hbecomes : Becomes touched (some (.directory entries)) node?) :
    ∃ entries', node? = some (.directory entries') := by
  cases hbecomes with
  | same => exact ⟨entries, rfl⟩
  | refilled _ entries' => exact ⟨entries', rfl⟩

theorem link_iff (hbecomes : Becomes touched node? node?') (target : String) :
    node?' = some (.link target) ↔ node? = some (.link target) := by
  cases hbecomes with
  | same => rfl
  | _ => simp

theorem of_none (hbecomes : Becomes touched node? none) : node? = none := by
  cases hbecomes with
  | same => rfl

theorem file_iff (hbecomes : Becomes touched node? node?') (huntouched : ¬touched) (bytes : ByteArray) :
    node?' = some (.file bytes) ↔ node? = some (.file bytes) := by
  cases hbecomes with
  | same => rfl
  | refilled => simp
  | made => simp
  | written htouched => exact absurd htouched huntouched
  | overwritten htouched => exact absurd htouched huntouched

end Becomes

/-- A change that takes nothing away, makes no link, and writes files at some locations only. -/
structure Keeps (touched : Location → Prop) (tree tree' : FileTree) : Prop where
  becomes : ∀ location,
    Becomes (touched location) (tree.root.at? location) (tree'.root.at? location)
  workingDirectory : tree'.workingDirectory = tree.workingDirectory

namespace Keeps

variable {touched touched' : Location → Prop} {tree tree' tree'' : FileTree} {location : Location}

theorem refl (touched : Location → Prop) (tree : FileTree) : Keeps touched tree tree where
  becomes := fun _ => .same _
  workingDirectory := rfl

theorem trans (hfirst : Keeps touched tree tree') (hsecond : Keeps touched' tree' tree'') :
    Keeps (fun location => touched location ∨ touched' location) tree tree'' where
  becomes := fun location => (hfirst.becomes location).trans (hsecond.becomes location)
  workingDirectory := hsecond.workingDirectory.trans hfirst.workingDirectory

theorem mono (hkeeps : Keeps touched tree tree')
    (htouched : ∀ location, touched location → touched' location) : Keeps touched' tree tree' where
  becomes := fun location => (hkeeps.becomes location).mono (htouched location)
  workingDirectory := hkeeps.workingDirectory

theorem directory (hkeeps : Keeps touched tree tree') {entries : List (String × FileNode)}
    (hat : tree.root.at? location = some (.directory entries)) :
    ∃ entries', tree'.root.at? location = some (.directory entries') := by
  have hbecomes := hkeeps.becomes location
  rw [hat] at hbecomes
  exact hbecomes.of_directory

theorem link_iff (hkeeps : Keeps touched tree tree') (location : Location) (target : String) :
    tree'.root.at? location = some (.link target) ↔ tree.root.at? location = some (.link target) :=
  (hkeeps.becomes location).link_iff target

theorem file_iff (hkeeps : Keeps touched tree tree') (huntouched : ¬touched location)
    (bytes : ByteArray) :
    tree'.root.at? location = some (.file bytes) ↔ tree.root.at? location = some (.file bytes) :=
  (hkeeps.becomes location).file_iff huntouched bytes

theorem of_none (hkeeps : Keeps touched tree tree') (hat : tree'.root.at? location = none) :
    tree.root.at? location = none := by
  have hbecomes := hkeeps.becomes location
  rw [hat] at hbecomes
  exact hbecomes.of_none

/-- Only the place where a file or an empty directory is put becomes something else. -/
theorem put {node : FileNode} {around : Location} {name : String} {entries : List (String × FileNode)}
    (hat : tree.root.at? around = some (.directory entries))
    (hold : ∀ entries', tree.root.at? (around ++ [name]) ≠ some (.directory entries'))
    (hbare : ∀ first rest, node.at? (first :: rest) = none)
    (hplace : Becomes (touched (around ++ [name])) (tree.root.at? (around ++ [name])) (some node)) :
    Keeps touched tree { tree with root := FileNode.put node tree.root (around ++ [name]) } := by
  refine ⟨fun location => ?_, rfl⟩
  by_cases hlocation : location = around ++ [name]
  · subst hlocation
    rw [at?_put_below hat, at?_nil]
    exact hplace
  · rcases at?_put_of_ne hat hold hbare hlocation with hsame | ⟨entries', entries'', hroot, hput⟩
    · rw [hsame]
      exact .same _
    · rw [hroot, hput]
      exact .refilled entries' entries''

theorem retains (hkeeps : Keeps touched tree tree') : Retains tree tree' where
  directory := hkeeps.directory
  link_iff := hkeeps.link_iff
  workingDirectory := hkeeps.workingDirectory

/-- A path leads on to the location that it led to before. -/
theorem locate {last : Bool} {path : String} {node? : Option FileNode}
    (hkeeps : Keeps touched tree tree') (hlocate : tree.locate last path = .ok (location, node?)) :
    tree'.locate last path = .ok (location, tree'.root.at? location) :=
  hkeeps.retains.locate hlocate

end Keeps

end FileTree

end ReleasePress
