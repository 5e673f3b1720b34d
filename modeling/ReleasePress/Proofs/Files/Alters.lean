import ReleasePress.Proofs.Files.Keeps

/-! # What a change adds

A change that keeps a tree writes files at some places and makes directories at others, and nothing else is new
after it. The names in each directory still differ from each other: this is `FileTree.Alters`, with the places
of both. It is shown for one node that is put somewhere and carries over to changes one after the other. -/

namespace ReleasePress

namespace FileNode

/-! ## Names of entries -/

theorem mem_setEntry {name name' : String} {node node' : FileNode} {entries : List (String × FileNode)}
    (hmem : (name', node') ∈ setEntry name node entries) :
    name' = name ∧ node' = node ∨ (name', node') ∈ entries := by
  induction entries with
  | nil => exact .inl (by simpa [setEntry] using hmem)
  | cons first entries ih =>
      obtain ⟨other, old⟩ := first
      by_cases hother : other = name
      · simp only [setEntry, hother, if_true, List.mem_cons, Prod.mk.injEq] at hmem ⊢
        tauto
      · simp only [setEntry, hother, if_false, List.mem_cons] at hmem ⊢
        rcases hmem with hfirst | hmem
        · exact .inr (.inl hfirst)
        · exact (ih hmem).imp_right .inr

theorem nodup_setEntry {entries : List (String × FileNode)} (hnodup : (entries.map Prod.fst).Nodup)
    (name : String) (node : FileNode) : ((setEntry name node entries).map Prod.fst).Nodup := by
  induction entries with
  | nil => simp [setEntry]
  | cons first entries ih =>
      obtain ⟨other, old⟩ := first
      rw [List.map_cons, List.nodup_cons] at hnodup
      by_cases hother : other = name
      · simp only [setEntry, hother, if_true, List.map_cons, List.nodup_cons]
        exact hother ▸ hnodup
      · simp only [setEntry, hother, if_false, List.map_cons, List.nodup_cons]
        refine ⟨fun hmem => ?_, ih hnodup.2⟩
        obtain ⟨⟨other', node'⟩, hentry, rfl⟩ := List.mem_map.1 hmem
        rcases mem_setEntry hentry with ⟨hname, -⟩ | hentry
        · exact hother hname
        · exact hnodup.1 (List.mem_map.2 ⟨_, hentry, rfl⟩)

/-- Directories have different names still after a node is put somewhere. -/
theorem DistinctNames.put {node : FileNode} (hnode : node.DistinctNames) {root : FileNode}
    (hroot : root.DistinctNames) (location : Location) : (put node root location).DistinctNames := by
  fun_induction FileNode.put node root location with
  | case1 => exact hnode
  | case2 entries name =>
      cases hroot with
      | directory hname hentry =>
          refine .directory (nodup_setEntry hname _ _) fun name' node' hmem => ?_
          rcases mem_setEntry hmem with ⟨rfl, rfl⟩ | hmem
          · exact hnode
          · exact hentry _ _ hmem
  | case3 entries name rest hrest child hchild ih =>
      cases hroot with
      | directory hname hentry =>
          refine .directory (nodup_setEntry hname _ _) fun name' node' hmem => ?_
          rcases mem_setEntry hmem with ⟨rfl, rfl⟩ | hmem
          · exact ih (hentry _ _ (mem_of_entry hchild))
          · exact hentry _ _ hmem
  | case4 => exact hroot
  | case5 => exact hroot

/-! ## Directories -/

/-- There is a directory at a location. -/
def HasDirectory (root : FileNode) (location : Location) : Prop :=
  ∃ entries, root.at? location = some (.directory entries)

/-- Around a node there are directories. -/
theorem hasDirectory_of_prefix {root node : FileNode} {location rest : Location} (hrest : rest ≠ [])
    (hat : root.at? (location ++ rest) = some node) : HasDirectory root location := by
  cases rest with
  | nil => exact absurd rfl hrest
  | cons name rest =>
      rw [at?_append] at hat
      obtain ⟨middle, hmiddle, hrest⟩ := Option.bind_eq_some_iff.1 hat
      obtain ⟨entries, child, rfl, -⟩ := exists_child hrest
      exact ⟨entries, hmiddle⟩

end FileNode

namespace FileTree

open FileNode

/-! ## Changes -/

/-- A change that writes files at touched places only and makes directories only where `made` says so. -/
structure Alters (touched made : Location → Prop) (tree tree' : FileTree) : Prop where
  keeps : Keeps touched tree tree'
  hasDirectory_iff : ∀ location,
    HasDirectory tree'.root location ↔ HasDirectory tree.root location ∨ made location
  distinctNames : tree.root.DistinctNames → tree'.root.DistinctNames

namespace Alters

variable {touched touched' made made' : Location → Prop} {tree tree' tree'' : FileTree}

theorem refl (touched : Location → Prop) (tree : FileTree) : Alters touched (fun _ => False) tree tree where
  keeps := .refl _ _
  hasDirectory_iff := fun _ => by rw [or_false]
  distinctNames := id

theorem trans (hfirst : Alters touched made tree tree') (hsecond : Alters touched' made' tree' tree'') :
    Alters (fun location => touched location ∨ touched' location)
      (fun location => made location ∨ made' location) tree tree'' where
  keeps := hfirst.keeps.trans hsecond.keeps
  hasDirectory_iff := fun location => by
    rw [hsecond.hasDirectory_iff, hfirst.hasDirectory_iff, or_assoc]
  distinctNames := fun htree => hsecond.distinctNames (hfirst.distinctNames htree)

/-- Directories that are there already need not be made. -/
theorem congr (halters : Alters touched made tree tree')
    (htouched : ∀ location, touched location → touched' location)
    (hmade : ∀ location, HasDirectory tree.root location ∨ made location ↔
      HasDirectory tree.root location ∨ made' location) : Alters touched' made' tree tree' where
  keeps := halters.keeps.mono htouched
  hasDirectory_iff := fun location => (halters.hasDirectory_iff location).trans (hmade location)
  distinctNames := halters.distinctNames

/-- A file or an empty directory is put in place of nothing or of a file. -/
theorem put {node : FileNode} {around : Location} {name : String} {entries : List (String × FileNode)}
    (hat : tree.root.at? around = some (.directory entries))
    (hold : ¬HasDirectory tree.root (around ++ [name]))
    (hbare : ∀ first rest, node.at? (first :: rest) = none) (hnode : node.DistinctNames)
    (hplace : Becomes (touched (around ++ [name])) (tree.root.at? (around ++ [name])) (some node)) :
    Alters touched (fun location => location = around ++ [name] ∧ ∃ entries', node = .directory entries') tree
      { tree with root := FileNode.put node tree.root (around ++ [name]) } where
  keeps := .put hat (fun entries' hentries => hold ⟨entries', hentries⟩) hbare hplace
  hasDirectory_iff := fun location => by
    by_cases hlocation : location = around ++ [name]
    · subst hlocation
      simp only [HasDirectory, at?_put_below hat, at?_nil, Option.some.injEq, true_and]
      exact ⟨.inr, fun hdirectory => hdirectory.resolve_left hold⟩
    · simp only [hlocation, false_and, or_false]
      rcases at?_put_of_ne hat (fun entries' hentries => hold ⟨entries', hentries⟩) hbare hlocation with
        hsame | ⟨before, after, hbefore, hafter⟩
      · rw [HasDirectory, hsame]
        rfl
      · exact iff_of_true ⟨after, hafter⟩ ⟨before, hbefore⟩
  distinctNames := fun htree => hnode.put htree _

end Alters

end FileTree

end ReleasePress
