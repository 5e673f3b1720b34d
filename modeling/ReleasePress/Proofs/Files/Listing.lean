import Mathlib.Data.List.Nodup
import ReleasePress.Files.Changes
import ReleasePress.Proofs.Files.Tree

/-! # Lists of files

The list of the files below a node has each file once, with its location, if no directory holds two nodes under
one name. -/

namespace ReleasePress

namespace FileNode

theorem mem_filesOfEntries_iff {entries : List (String × FileNode)} {location : Location} {bytes : ByteArray} :
    (location, bytes) ∈ filesOfEntries entries ↔
      ∃ name node rest, (name, node) ∈ entries ∧ location = name :: rest ∧ (rest, bytes) ∈ files node := by
  induction entries with
  | nil => simp [filesOfEntries]
  | cons entry entries ih =>
      obtain ⟨name, node⟩ := entry
      simp only [filesOfEntries, List.mem_append, List.mem_map, Prod.exists, Prod.mk.injEq, ih, List.mem_cons]
      constructor
      · rintro (⟨rest, bytes', hmem, rfl, rfl⟩ | ⟨name', node', rest, hentry, rfl, hmem⟩)
        · exact ⟨name, node, rest, .inl ⟨rfl, rfl⟩, rfl, hmem⟩
        · exact ⟨name', node', rest, .inr hentry, rfl, hmem⟩
      · rintro ⟨name', node', rest, ⟨rfl, rfl⟩ | hentry, rfl, hmem⟩
        · exact .inl ⟨rest, bytes, hmem, rfl, rfl⟩
        · exact .inr ⟨name', node', rest, hentry, rfl, hmem⟩

/-- Listed are the files at their locations. -/
theorem mem_files_iff {node : FileNode} (hdistinct : node.DistinctNames) {location : Location}
    {bytes : ByteArray} : (location, bytes) ∈ node.files ↔ node.at? location = some (.file bytes) := by
  induction location generalizing node with
  | nil =>
      cases node with
      | file held => simp [files, at?, eq_comm]
      | link target => simp [files, at?]
      | directory entries => simp [files, at?, mem_filesOfEntries_iff]
  | cons name location ih =>
      cases node with
      | file held => simp [files, at?]
      | link target => simp [files, at?]
      | directory entries =>
          cases hdistinct with
          | directory hname hnode =>
              rw [files, mem_filesOfEntries_iff]
              constructor
              · rintro ⟨name', node, rest, hentry, hlocation, hmem⟩
                obtain ⟨rfl, rfl⟩ := List.cons.inj hlocation
                rw [at?_directory_cons (entry_of_mem hname hentry)]
                exact (ih (hnode _ _ hentry)).1 hmem
              · intro hat
                obtain ⟨others, node, hentries, hchild, hat⟩ := exists_child hat
                cases hentries
                have hentry := mem_of_entry hchild
                exact ⟨name, node, location, hentry, rfl, (ih (hnode _ _ hentry)).2 hat⟩

theorem nodup_filesOfEntries {entries : List (String × FileNode)} (hname : (entries.map Prod.fst).Nodup)
    (hnode : ∀ name node, (name, node) ∈ entries → (node.files.map Prod.fst).Nodup) :
    ((filesOfEntries entries).map Prod.fst).Nodup := by
  induction entries with
  | nil => exact .nil
  | cons entry entries ih =>
      obtain ⟨name, node⟩ := entry
      rw [List.map_cons, List.nodup_cons] at hname
      have hrest := ih hname.2 fun name' node' hmem => hnode name' node' (List.mem_cons_of_mem _ hmem)
      have hfirst : (node.files.map fun entry => name :: entry.1).Nodup := by
        have hmap := (hnode name node (by simp)).map (List.cons_injective (a := name))
        rwa [List.map_map] at hmap
      rw [filesOfEntries, List.map_append, List.map_map]
      refine hfirst.append hrest fun location hmem hmem' => ?_
      obtain ⟨⟨rest, bytes⟩, -, rfl⟩ := List.mem_map.1 hmem
      obtain ⟨⟨location, bytes'⟩, hother, hlocation⟩ := List.mem_map.1 hmem'
      obtain ⟨name', node', rest', hentry, hsame, -⟩ := mem_filesOfEntries_iff.1 hother
      obtain ⟨rfl, -⟩ := List.cons.inj (hlocation.symm.trans hsame)
      exact hname.1 (List.mem_map.2 ⟨_, hentry, rfl⟩)

/-- No location is listed twice. -/
theorem nodup_files {node : FileNode} (hdistinct : node.DistinctNames) :
    (node.files.map Prod.fst).Nodup := by
  induction hdistinct with
  | file bytes => simp [files]
  | link target => simp [files]
  | directory hname hnode ih =>
      rw [files]
      exact nodup_filesOfEntries hname ih

end FileNode

/-- The files below the place that a path leads to, with their locations seen from there. -/
def FileTree.filesBelow (tree : FileTree) (path : String) : List (Location × ByteArray) :=
  match tree.find path with
  | .ok node => node.files
  | .error _ => []

end ReleasePress
