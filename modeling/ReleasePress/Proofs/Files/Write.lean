import ReleasePress.Proofs.Files.Alters

/-! # Writing files

A path leads to a place in a directory, where a file can be written, copied or a directory made. Each of
these operations touches that place only, and a file that is copied onto itself is emptied. -/

namespace ReleasePress

namespace FileTree

open FileNode

/-! ## Where a path can end -/

/-- A place for a node: in a directory, unless it is the root, and not that of a link if links are
followed. -/
structure Standing (root : FileNode) (last : Bool) (location : Location) : Prop where
  around : ∀ around name, location = around ++ [name] →
    ∃ entries, root.at? around = some (.directory entries)
  followed : last = true → ∀ target, root.at? location ≠ some (.link target)

section Standing

variable {root : FileNode} {last : Bool} {location : Location} {node? : Option FileNode}

theorem standing_of_directory {entries : List (String × FileNode)} {rest : Location}
    (hat : root.at? (location ++ rest) = some (.directory entries)) : Standing root last location := by
  rw [at?_append] at hat
  obtain ⟨node, hnode, hrest⟩ := Option.bind_eq_some_iff.1 hat
  refine ⟨?_, ?_⟩
  · rintro around name rfl
    rw [at?_append] at hnode
    obtain ⟨node', hnode', hname⟩ := Option.bind_eq_some_iff.1 hnode
    obtain ⟨others, child, rfl, -⟩ := exists_child hname
    exact ⟨others, hnode'⟩
  · rintro - target hlink
    rw [hnode] at hlink
    cases hlink
    cases rest with
    | nil => cases hrest
    | cons name rest => cases hrest

theorem takeSteps_standing (hroot : Standing root last [])
    {onLink : Location → List Path.Component → Arrival}
    (honLink : ∀ done steps, Standing root last done.reverse →
      onLink done steps = .ok (location, node?) → Standing root last location) {done : Location}
    {steps : List Path.Component} (hdone : Standing root last done.reverse)
    (harrival : takeSteps root last onLink done steps = .ok (location, node?)) :
    Standing root last location := by
  fun_induction takeSteps root last onLink done steps with
  | case1 done =>
      cases harrival
      exact hdone
  | case2 done rest ih => exact ih hroot harrival
  | case3 => cases harrival
  | case4 done rest entries hat ih => exact ih hdone harrival
  | case5 done rest entries hat ih =>
      refine ih ?_ harrival
      cases done with
      | nil => exact hroot
      | cons name done =>
          rw [List.reverse_cons] at hat
          exact standing_of_directory hat
  | case6 done rest name entries hat target hentry hend =>
      cases harrival
      rw [List.reverse_cons]
      refine ⟨fun around name' hlocation => ?_, ?_⟩
      · obtain ⟨rfl, -⟩ := List.append_inj' hlocation rfl
        exact ⟨entries, hat⟩
      · rintro rfl
        simp at hend
  | case7 => cases harrival
  | case8 done rest name entries hat target hentry hend hempty => exact honLink _ _ hdone harrival
  | case9 done rest name entries hat hentry ih =>
      refine ih ?_ harrival
      rw [List.reverse_cons]
      refine ⟨fun around name' hlocation => ?_, fun _ target hlink => ?_⟩
      · obtain ⟨rfl, -⟩ := List.append_inj' hlocation rfl
        exact ⟨entries, hat⟩
      · rw [at?_concat hat] at hlink
        exact hentry target hlink
  | case10 => cases harrival

theorem locate_standing {tree : FileTree} {path : String} {entries : List (String × FileNode)}
    (hroot : tree.root = .directory entries) (hlocate : tree.locate last path = .ok (location, node?)) :
    Standing tree.root last location := by
  have hrootAt : tree.root.at? ([] ++ []) = some (.directory entries) := by
    rw [hroot]
    rfl
  have hstart : Standing tree.root last [] := standing_of_directory hrootAt
  have hfollow : ∀ {links done steps}, Standing tree.root last done.reverse →
      follow tree.root last links done steps = .ok (location, node?) →
        Standing tree.root last location := by
    intro links done steps hdone harrival
    induction links generalizing done steps with
    | zero => exact takeSteps_standing hstart (by intro _ _ _ h; cases h) hdone harrival
    | succ links ih =>
        exact takeSteps_standing hstart (fun _ _ hdone harrival => ih hdone harrival) hdone harrival
  rw [locate] at hlocate
  split at hlocate
  · cases hlocate
  · refine hfollow ?_ hlocate
    exact hstart

end Standing

/-! ## The operations -/

section Operations

variable {tree tree' : FileTree} {path : String} {bytes : ByteArray}

/-- The root of a tree is a directory. -/
def HasRoot (tree : FileTree) : Prop :=
  ∃ entries, tree.root = .directory entries

theorem Keeps.hasRoot {touched : Location → Prop} (hkeeps : Keeps touched tree tree')
    (hroot : tree.HasRoot) : tree'.HasRoot := by
  obtain ⟨entries, hroot⟩ := hroot
  have hat : tree.root.at? [] = some (.directory entries) := by rw [at?_nil, hroot]
  obtain ⟨entries', hroot'⟩ := hkeeps.directory hat
  rw [at?_nil, Option.some.injEq] at hroot'
  exact ⟨entries', hroot'⟩

theorem hasRoot_of_find {entries : List (String × FileNode)}
    (hfind : tree.find path = .ok (.directory entries)) : tree.HasRoot := by
  obtain ⟨location, hlocate⟩ := locate_of_find hfind
  have hat := locate_at? hlocate
  cases location with
  | nil =>
      rw [at?_nil, Option.some.injEq] at hat
      exact ⟨entries, hat⟩
  | cons name location =>
      obtain ⟨others, -, hroot, -⟩ := exists_child hat
      exact ⟨others, hroot⟩

theorem read_eq_ok_iff :
    tree.read path = .ok bytes ↔ ∃ location, tree.locate true path = .ok (location, some (.file bytes)) := by
  simp only [read, find]
  constructor
  · intro hread
    split at hread
    · next hfind =>
        split at hfind
        · next location node hlocate =>
            cases hfind
            cases hread
            exact ⟨location, hlocate⟩
        · cases hfind
        · cases hfind
    · cases hread
    · cases hread
  · rintro ⟨location, hlocate⟩
    rw [hlocate]

/-- What is read stays if files are written only where nothing was. -/
theorem Keeps.read (hkeeps : Keeps (tree.root.at? · = none) tree tree') (hread : tree.read path = .ok bytes) :
    tree'.read path = .ok bytes := by
  obtain ⟨location, hlocate⟩ := read_eq_ok_iff.1 hread
  have hat := locate_at? hlocate
  refine read_eq_ok_iff.2 ⟨location, ?_⟩
  rw [hkeeps.locate hlocate, (hkeeps.file_iff (by simp [hat]) bytes).2 hat]

/-- A file can be written where a path leads to a place that is no directory, and only this place changes. -/
theorem write_alters {location : Location} {node? : Option FileNode} (hroot : tree.HasRoot)
    (hlocate : tree.locate true path = .ok (location, node?))
    (hnode : ∀ entries, node? ≠ some (.directory entries)) (bytes : ByteArray) :
    ∃ tree', tree.write path bytes = .ok tree' ∧ Alters (· = location) (fun _ => False) tree tree' ∧
      tree'.root.at? location = some (.file bytes) := by
  obtain ⟨entries, hroot⟩ := hroot
  have hat := locate_at? hlocate
  obtain ⟨hstanding, hlink⟩ := locate_standing hroot hlocate
  rcases location.eq_nil_or_concat with rfl | ⟨around, name, rfl⟩
  · -- at the root there is a directory
    rw [at?_nil, hroot] at hat
    exact absurd hat.symm (hnode entries)
  · rw [List.concat_eq_append] at hlocate hat hstanding hlink ⊢
    obtain ⟨others, haround⟩ := hstanding around name rfl
    have hwrite : tree.write path bytes =
        .ok { tree with root := FileNode.put (.file bytes) tree.root (around ++ [name]) } := by
      rw [write, hlocate]
      split
      · cases ‹Except.ok _ = Except.error _›
      · next heq => exact absurd (Prod.mk.inj (Except.ok.inj heq)).2 (hnode _)
      · next heq =>
          obtain ⟨rfl, -⟩ := Prod.mk.inj (Except.ok.inj heq)
          rfl
    refine ⟨_, hwrite, (Alters.put haround ?_ (fun _ _ => rfl) (.file bytes) ?_).congr (fun _ => id) ?_, ?_⟩
    · rintro ⟨entries', hold⟩
      exact hnode entries' (hat.symm.trans hold)
    · rw [hat]
      cases node? with
      | none => exact .written rfl bytes
      | some node =>
          cases node with
          | file old => exact .overwritten rfl old bytes
          | link target => exact absurd hat (hlink rfl target)
          | directory entries' => exact absurd rfl (hnode entries')
    · simp
    · rw [at?_put_below haround [], at?_nil]

/-- Written is a file at the location that the path leads to, and nothing else. -/
theorem write_spec (hroot : tree.HasRoot) (hwrite : tree.write path bytes = .ok tree') :
    ∃ location node?, tree.locate true path = .ok (location, node?) ∧
      Keeps (· = location) tree tree' ∧ tree'.locate true path = .ok (location, some (.file bytes)) := by
  have hplace : ∃ location node?, tree.locate true path = .ok (location, node?) ∧
      ∀ entries, node? ≠ some (.directory entries) := by
    rw [write] at hwrite
    split at hwrite
    · cases hwrite
    · cases hwrite
    · next location node? hdirectory hlocate =>
        exact ⟨location, node?, hlocate, fun entries hentries => hdirectory entries hentries⟩
  obtain ⟨location, node?, hlocate, hnode⟩ := hplace
  obtain ⟨written, hwritten, halters, hat⟩ := write_alters hroot hlocate hnode bytes
  obtain rfl : written = tree' := Except.ok.inj (hwritten.symm.trans hwrite)
  exact ⟨location, node?, hlocate, halters.keeps, by rw [halters.keeps.locate hlocate, hat]⟩

/-- A copy empties its target before it reads its source again and writes what it finds. -/
theorem copy_eq_ok_iff {source target : String} :
    tree.copy source target = .ok tree' ↔ ∃ bytes emptied copied, tree.read source = .ok bytes ∧
      tree.write target .empty = .ok emptied ∧ emptied.read source = .ok copied ∧
      emptied.write target copied = .ok tree' := by
  simp only [copy]
  constructor
  · intro hcopy
    split at hcopy
    · cases hcopy
    · next bytes hread =>
        split at hcopy
        · cases hcopy
        · next emptied hempty =>
            split at hcopy
            · cases hcopy
            · next copied hcopied => exact ⟨bytes, emptied, copied, hread, hempty, hcopied, hcopy⟩
  · rintro ⟨bytes, emptied, copied, hread, hempty, hcopied, hwrite⟩
    simp only [hread, hempty, hcopied, hwrite]

/-- A copy holds what its source held, but a file that is copied onto itself is emptied. -/
theorem copy_spec {source target : String} (hroot : tree.HasRoot)
    (hcopy : tree.copy source target = .ok tree') :
    ∃ place place' node? bytes, tree.locate true source = .ok (place, some (.file bytes)) ∧
      tree.locate true target = .ok (place', node?) ∧ Keeps (· = place') tree tree' ∧
      tree'.locate true target = .ok (place', some (.file (if place = place' then .empty else bytes))) := by
  obtain ⟨bytes, emptied, copied, hread, hempty, hcopied, hwrite⟩ := copy_eq_ok_iff.1 hcopy
  obtain ⟨place, hsource⟩ := read_eq_ok_iff.1 hread
  obtain ⟨place', node?, htarget, hfirst, hemptied⟩ := write_spec hroot hempty
  obtain ⟨place'', node?', htarget', hsecond, hwritten⟩ := write_spec (hfirst.hasRoot hroot) hwrite
  obtain rfl : place' = place'' := by
    rw [hemptied] at htarget'
    exact (Prod.mk.inj (Except.ok.inj htarget')).1
  have hfound : emptied.root.at? place = some (.file copied) := by
    obtain ⟨found, hfound⟩ := read_eq_ok_iff.1 hcopied
    rw [hfirst.locate hsource] at hfound
    exact (Prod.mk.inj (Except.ok.inj hfound)).2
  have hheld : copied = if place = place' then .empty else bytes := by
    split
    · next hsame =>
        rw [hsame, locate_at? hemptied] at hfound
        cases hfound
        rfl
    · next hother =>
        rw [hfirst.file_iff hother, locate_at? hsource] at hfound
        cases hfound
        rfl
  have hkeeps : Keeps (· = place') tree tree' :=
    (hfirst.trans hsecond).mono fun location htouched => htouched.elim id id
  exact ⟨place, place', node?, bytes, hsource, htarget, hkeeps, by rw [hwritten, hheld]⟩

/-- A file can be copied to where a path leads to another place that is no directory. -/
theorem copy_alters {source target : String} {original location : Location} {node? : Option FileNode}
    (hroot : tree.HasRoot) (hsource : tree.locate true source = .ok (original, some (.file bytes)))
    (htarget : tree.locate true target = .ok (location, node?))
    (hnode : ∀ entries, node? ≠ some (.directory entries)) (hother : original ≠ location) :
    ∃ tree', tree.copy source target = .ok tree' ∧ Alters (· = location) (fun _ => False) tree tree' ∧
      tree'.root.at? location = some (.file bytes) := by
  obtain ⟨emptied, hempty, hfirst, hemptied⟩ := write_alters hroot htarget hnode .empty
  have htarget' : emptied.locate true target = .ok (location, some (.file .empty)) := by
    rw [hfirst.keeps.locate htarget, hemptied]
  have hsource' : emptied.locate true source = .ok (original, some (.file bytes)) := by
    rw [hfirst.keeps.locate hsource, (hfirst.keeps.file_iff hother bytes).2 (locate_at? hsource)]
  obtain ⟨tree', hwrite, hsecond, hat⟩ :=
    write_alters (hfirst.keeps.hasRoot hroot) htarget' (by simp) bytes
  refine ⟨tree', copy_eq_ok_iff.2 ⟨bytes, emptied, bytes, ?_, hempty, ?_, hwrite⟩, ?_, hat⟩
  · exact read_eq_ok_iff.2 ⟨original, hsource⟩
  · exact read_eq_ok_iff.2 ⟨original, hsource'⟩
  · exact (hfirst.trans hsecond).congr (fun _ => or_self_iff.1) (by simp)

/-- A directory can be made where nothing is in the directory around. -/
theorem createDirectory_alters {location : Location} (hroot : tree.HasRoot)
    (hlocate : tree.locate false (trimSeparators path) = .ok (location, none)) :
    ∃ tree', tree.createDirectory path = .ok tree' ∧
      Alters (fun _ => False) (· = location) tree tree' := by
  obtain ⟨entries, hroot⟩ := hroot
  have hat := locate_at? hlocate
  rcases location.eq_nil_or_concat with rfl | ⟨around, name, rfl⟩
  · rw [at?_nil] at hat
    cases hat
  · rw [List.concat_eq_append] at hlocate hat ⊢
    obtain ⟨others, haround⟩ := (locate_standing hroot hlocate).around around name rfl
    have hempty : (FileNode.directory []).DistinctNames := .directory .nil (by simp)
    refine ⟨{ tree with root := FileNode.put (.directory []) tree.root (around ++ [name]) }, ?_, ?_⟩
    · rw [createDirectory, hlocate]
    · refine (Alters.put haround ?_ (fun _ _ => rfl) hempty ?_).congr (fun _ => id) (by simp)
      · rintro ⟨entries', hold⟩
        rw [hat] at hold
        cases hold
      · rw [hat]
        exact .made []

theorem locate_of_createDirectory (hcreate : tree.createDirectory path = .ok tree') :
    ∃ location, tree.locate false (trimSeparators path) = .ok (location, none) := by
  rw [createDirectory] at hcreate
  split at hcreate
  · cases hcreate
  · cases hcreate
  · next location hlocate => exact ⟨location, hlocate⟩

/-- Making a directory with its parents makes directories only. -/
theorem createMissing_alters {depth : Nat} (hroot : tree.HasRoot)
    (hcreate : tree.createMissing path depth = .ok tree') :
    ∃ made, Alters (fun _ => False) made tree tree' := by
  have hone {tree tree' : FileTree} {path : String} (hroot : tree.HasRoot)
      (hcreate : tree.createDirectory path = .ok tree') : ∃ made, Alters (fun _ => False) made tree tree' := by
    obtain ⟨location, hlocate⟩ := locate_of_createDirectory hcreate
    obtain ⟨made, hmade, halters⟩ := createDirectory_alters hroot hlocate
    obtain rfl : made = tree' := Except.ok.inj (hmade.symm.trans hcreate)
    exact ⟨_, halters⟩
  induction depth generalizing tree tree' path with
  | zero => cases hcreate
  | succ depth ih =>
      simp only [createMissing] at hcreate
      split at hcreate
      · next created hcreated =>
          cases hcreate
          exact hone hroot hcreated
      · split at hcreate
        · cases hcreate
        · next parent hparent =>
            split at hcreate
            · cases hcreate
            · next around haround =>
                have haround : ∃ made, Alters (fun _ => False) made tree around := by
                  split at haround
                  · cases haround
                    exact ⟨_, .refl _ _⟩
                  · exact ih hroot haround
                obtain ⟨made, haround⟩ := haround
                split at hcreate
                · next created hcreated =>
                    cases hcreate
                    obtain ⟨made', hcreated⟩ := hone (haround.keeps.hasRoot hroot) hcreated
                    exact ⟨_, (haround.trans hcreated).congr (by simp) fun _ => Iff.rfl⟩
                · split at hcreate
                  · cases hcreate
                    exact ⟨made, haround⟩
                  · cases hcreate
      · split at hcreate
        · cases hcreate
          exact ⟨_, .refl _ _⟩
        · cases hcreate

theorem createDirectories_of_exists (hpath : path.isEmpty = false)
    (hexists : tree.createDirectory path = .error .exists_) (hdirectory : tree.isDirectory path = true) :
    tree.createDirectories path = .ok tree := by
  rw [createDirectories, hpath, if_neg Bool.false_ne_true, createMissing, hexists]
  simp only [hdirectory, if_true]

theorem createDirectories_alters (hroot : tree.HasRoot)
    (hcreate : tree.createDirectories path = .ok tree') :
    ∃ made, Alters (fun _ => False) made tree tree' := by
  rw [createDirectories] at hcreate
  split at hcreate
  · cases hcreate
    exact ⟨_, .refl _ _⟩
  · exact createMissing_alters hroot hcreate

end Operations

end FileTree

end ReleasePress
