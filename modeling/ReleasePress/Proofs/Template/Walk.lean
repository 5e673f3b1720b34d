import Mathlib.Tactic.Common
import ReleasePress.Proofs.Files.Path
import ReleasePress.Proofs.Files.Tree
import ReleasePress.Proofs.Template.Marker
import ReleasePress.Template.Source

/-! # The keys of a directory

A directory is loaded leaf by leaf. Each file gives one key, which its location and its bytes determine, and
adding an entry loses no key, so the keys of a directory are those of its files (`Template.mem_keys_walk`). -/

namespace ReleasePress.Template

/-! ## Files of a node -/

/-- The file with some bytes at a location below a node; the way to it goes through no link. -/
inductive HasFile : FileNode → Location → ByteArray → Prop
  | file (bytes : ByteArray) : HasFile (.file bytes) [] bytes
  | directory {entries : List (String × FileNode)} {name : String} {node : FileNode}
      {location : Location} {bytes : ByteArray} (hentry : (name, node) ∈ entries)
      (hfile : HasFile node location bytes) : HasFile (.directory entries) (name :: location) bytes

theorem mem_groups_iff {entries : List (String × FileNode)} {group : String × List Leaf} :
    group ∈ groups entries ↔ ∃ name node, (name, node) ∈ entries ∧ group = (name, leaves node) := by
  induction entries with
  | nil => simp [groups]
  | cons entry entries ih =>
      obtain ⟨name, node⟩ := entry
      simp only [groups, List.mem_cons, ih, Prod.mk.injEq]
      constructor
      · rintro (rfl | ⟨name', node', hentry, rfl⟩)
        · exact ⟨name, node, .inl ⟨rfl, rfl⟩, rfl⟩
        · exact ⟨name', node', .inr hentry, rfl⟩
      · rintro ⟨name', node', ⟨rfl, rfl⟩ | hentry, rfl⟩
        · exact .inl rfl
        · exact .inr ⟨name', node', hentry, rfl⟩

theorem mem_leaves_directory_iff {entries : List (String × FileNode)} {leaf : Leaf} :
    leaf ∈ leaves (.directory entries) ↔
      ∃ name node leaf', (name, node) ∈ entries ∧ leaf' ∈ leaves node ∧ leaf = leaf'.below name := by
  simp only [leaves, inOrder, List.mem_flatMap, List.mem_mergeSort, mem_groups_iff, List.mem_map]
  constructor
  · rintro ⟨group, ⟨name, node, hentry, rfl⟩, leaf', hleaf, rfl⟩
    exact ⟨name, node, leaf', hentry, hleaf, rfl⟩
  · rintro ⟨name, node, leaf', hentry, hleaf, rfl⟩
    exact ⟨_, ⟨name, node, hentry, rfl⟩, leaf', hleaf, rfl⟩

/-- The leaves that are files are the files of the node. -/
theorem file_mem_leaves_iff {node : FileNode} {location : Location} {bytes : ByteArray} :
    Leaf.file location bytes ∈ leaves node ↔ HasFile node location bytes := by
  induction location generalizing node with
  | nil =>
      cases node with
      | file bytes' =>
          simp only [leaves, List.mem_singleton, Leaf.file.injEq, true_and]
          constructor
          · rintro rfl
            exact .file bytes
          · rintro ⟨⟩
            rfl
      | link target =>
          simp only [leaves, List.mem_singleton, reduceCtorEq, false_iff]
          rintro ⟨⟩
      | directory entries =>
          rw [mem_leaves_directory_iff]
          constructor
          · rintro ⟨name, node, leaf', -, -, hleaf⟩
            cases leaf' <;> cases hleaf
          · rintro ⟨⟩
  | cons name location ih =>
      cases node with
      | file bytes' =>
          simp only [leaves, List.mem_singleton, Leaf.file.injEq, reduceCtorEq, false_and, false_iff]
          rintro ⟨⟩
      | link target =>
          simp only [leaves, List.mem_singleton, reduceCtorEq, false_iff]
          rintro ⟨⟩
      | directory entries =>
          rw [mem_leaves_directory_iff]
          constructor
          · rintro ⟨name', node, leaf', hentry, hleaf', hleaf⟩
            cases leaf' with
            | link location' => cases hleaf
            | file location' bytes' =>
                obtain ⟨hlocation, rfl⟩ := Leaf.file.inj hleaf
                obtain ⟨rfl, rfl⟩ := List.cons.inj hlocation
                exact .directory hentry (ih.1 hleaf')
          · rintro ⟨⟩
            next node hentry hfile =>
              exact ⟨name, node, .file location bytes, hentry, ih.2 hfile, rfl⟩

theorem HasFile.isEntryName {node : FileNode} {location : Location} {bytes : ByteArray}
    (hfile : HasFile node location bytes) (hnamed : node.WellNamed) :
    ∀ name ∈ location, IsEntryName name := by
  induction hfile with
  | file bytes => simp
  | directory hentry hfile ih =>
      cases hnamed with
      | directory hname hnode =>
          intro name hmem
          rcases List.mem_cons.1 hmem with rfl | hmem
          · exact hname _ _ hentry
          · exact ih (hnode _ _ hentry) name hmem

theorem HasFile.ne_nil {entries : List (String × FileNode)} {location : Location} {bytes : ByteArray}
    (hfile : HasFile (.directory entries) location bytes) : location ≠ [] := by
  cases hfile
  simp

/-- With different names in each directory a file is the node at its location. -/
theorem HasFile.at? {node : FileNode} {location : Location} {bytes : ByteArray}
    (hfile : HasFile node location bytes) (hdistinct : node.DistinctNames) :
    node.at? location = some (.file bytes) := by
  induction hfile with
  | file bytes => rfl
  | directory hentry hfile ih =>
      cases hdistinct with
      | directory hname hnode =>
          rw [FileNode.at?, FileNode.entry_of_mem hname hentry]
          exact ih (hnode _ _ hentry)

/-! ## Keys -/

/-- The name that the document of a file gets. -/
def documentName (fileName : String) (bytes : ByteArray) : String :=
  (entryOf "" fileName bytes).1

/-- The key of the file at a location: only its own name can change. -/
def keyAt (location : Location) (bytes : ByteArray) : String :=
  "/".intercalate (location.dropLast ++ [documentName (location.getLast?.getD "") bytes])

theorem entryOf_fst (path fileName : String) (bytes : ByteArray) :
    (entryOf path fileName bytes).1 = documentName fileName bytes := by
  simp only [documentName, entryOf]
  cases stripMarker? templateMarker fileName.toList with
  | none => rfl
  | some stripped => cases String.fromUTF8? bytes <;> rfl

/-- A text gets the name without the mark of templates, any other file keeps its name. -/
theorem documentName_eq (fileName : String) (bytes : ByteArray) :
    documentName fileName bytes =
      if (String.fromUTF8? bytes).isSome then
        ((stripMarker? templateMarker fileName.toList).map String.ofList).getD fileName
      else fileName := by
  simp only [documentName, entryOf]
  cases stripMarker? templateMarker fileName.toList with
  | none => simp
  | some stripped => cases String.fromUTF8? bytes <;> rfl

theorem not_slash_mem_documentName {fileName : String} (hname : IsEntryName fileName)
    (bytes : ByteArray) : '/' ∉ (documentName fileName bytes).toList := by
  rw [documentName_eq]
  split
  · cases hstripped : stripMarker? templateMarker fileName.toList with
    | none => exact hname.noSlash
    | some stripped =>
        have hslash := not_mem_stripMarker? (by decide) hstripped hname.noSlash
        simpa using hslash
  · exact hname.noSlash

/-- The entry of the file at a location. -/
def entryAt (location : Location) (bytes : ByteArray) : Entry :=
  (entryOf "" (location.getLast?.getD "") bytes).2.1

theorem entryOf_entry (path fileName : String) (bytes : ByteArray) :
    (entryOf path fileName bytes).2.1 = (entryOf "" fileName bytes).2.1 := by
  simp only [entryOf]
  cases stripMarker? templateMarker fileName.toList with
  | none => rfl
  | some stripped => cases String.fromUTF8? bytes <;> rfl

theorem mem_keys_insertEntry {key : String} {new : Entry} {entries : Entries} {key' : String} :
    key' ∈ (insertEntry key new entries).1.map Prod.fst ↔ key' = key ∨ key' ∈ entries.map Prod.fst := by
  induction entries with
  | nil => simp [insertEntry]
  | cons entry entries ih =>
      obtain ⟨other, old⟩ := entry
      simp only [insertEntry]
      by_cases hkey : key = other
      · subst hkey
        cases old <;> cases new <;> simp
      · by_cases hlt : key < other
        · simp [hkey, hlt]
        · simp only [hkey, hlt, if_false, List.map_cons, List.mem_cons, ih]
          tauto

theorem keyAt_concat (around : Location) (fileName : String) (bytes : ByteArray) :
    keyAt (around ++ [fileName]) bytes = "/".intercalate (around ++ [documentName fileName bytes]) := by
  rw [keyAt, List.dropLast_concat, List.getLast?_concat]
  rfl

/-- Between its slashes a key has the names of the directories around its file and that of its document. -/
theorem splitOn_keyAt {around : Location} {fileName : String} {bytes : ByteArray}
    (hnames : ∀ name ∈ around ++ [fileName], IsEntryName name) :
    (keyAt (around ++ [fileName]) bytes).toList.splitOn '/' =
      (around ++ [documentName fileName bytes]).map String.toList := by
  rw [keyAt_concat, Path.splitOn_intercalate (by simp) fun name hmem => ?_]
  rcases List.mem_append.1 hmem with hmem | hmem
  · exact (hnames name (by simp [hmem])).noSlash
  · obtain rfl := List.mem_singleton.1 hmem
    exact not_slash_mem_documentName (hnames fileName (by simp)) bytes

/-- A file below a directory adds its entry under its key. -/
theorem addLeaf_file (root : String) (state : Entries × List Warning) {location : Location}
    (hlocation : location ≠ []) (bytes : ByteArray) :
    (addLeaf root state (.file location bytes)).1 =
      (insertEntry (keyAt location bytes) (entryAt location bytes) state.1).1 := by
  rcases location.eq_nil_or_concat with rfl | ⟨around, fileName, rfl⟩
  · exact absurd rfl hlocation
  · rw [List.concat_eq_append, keyAt_concat, entryAt, List.getLast?_concat, Option.getD_some]
    simp only [addLeaf, List.dropLast_concat, List.getLast?_concat, Option.getD_some, entryOf_fst,
      entryOf_entry _ fileName bytes]
    cases around with
    | nil => simp
    | cons first around =>
        rw [String.intercalate_append_of_ne_nil (by simp) (by simp), String.intercalate_singleton]

theorem mem_keys_addLeaf {root : String} {state : Entries × List Warning} {leaf : Leaf}
    (hlocation : ∀ location bytes, leaf = .file location bytes → location ≠ []) {key : String} :
    key ∈ (addLeaf root state leaf).1.map Prod.fst ↔
      key ∈ state.1.map Prod.fst ∨
        ∃ location bytes, leaf = .file location bytes ∧ key = keyAt location bytes := by
  cases leaf with
  | link location => simp [addLeaf]
  | file location bytes =>
      rw [addLeaf_file root state (hlocation location bytes rfl), mem_keys_insertEntry, or_comm]
      simp

theorem mem_keys_foldl {root : String} {leaves : List Leaf} {state : Entries × List Warning}
    (hlocation : ∀ location bytes, Leaf.file location bytes ∈ leaves → location ≠ []) {key : String} :
    key ∈ (leaves.foldl (addLeaf root) state).1.map Prod.fst ↔
      key ∈ state.1.map Prod.fst ∨
        ∃ location bytes, Leaf.file location bytes ∈ leaves ∧ key = keyAt location bytes := by
  induction leaves generalizing state with
  | nil => simp
  | cons leaf leaves ih =>
      have hfirst : ∀ location bytes, leaf = .file location bytes → location ≠ [] :=
        fun location bytes hleaf => hlocation location bytes (by simp [hleaf])
      have hrest : ∀ location bytes, Leaf.file location bytes ∈ leaves → location ≠ [] :=
        fun location bytes hmem => hlocation location bytes (by simp [hmem])
      rw [List.foldl_cons, ih hrest, mem_keys_addLeaf hfirst, or_assoc]
      refine or_congr_right ?_
      constructor
      · rintro (⟨location, bytes, rfl, hkey⟩ | ⟨location, bytes, hmem, hkey⟩)
        · exact ⟨location, bytes, by simp, hkey⟩
        · exact ⟨location, bytes, by simp [hmem], hkey⟩
      · rintro ⟨location, bytes, hmem, hkey⟩
        rcases List.mem_cons.1 hmem with hleaf | hmem
        · exact .inl ⟨location, bytes, hleaf.symm, hkey⟩
        · exact .inr ⟨location, bytes, hmem, hkey⟩

/-- A directory is loaded by a walk over its leaves, also through a link that leads to it. -/
theorem walkDirectory_eq {tree : FileTree} {root : String} {entries : List (String × FileNode)}
    (hfind : tree.find root = .ok (.directory entries)) :
    ∃ warnings, walkDirectory tree root =
      .ok ((leaves (.directory entries)).foldl (addLeaf root) ([], warnings)) := by
  obtain ⟨node, hlink⟩ := FileTree.findLink_of_find hfind
  rw [walkDirectory, hlink]
  cases node with
  | link target =>
      rw [hfind]
      exact ⟨_, rfl⟩
  | file bytes =>
      have hsame := FileTree.find_of_findLink (by simp) hlink
      rw [hfind] at hsame
      cases hsame
  | directory entries' =>
      have hsame := FileTree.find_of_findLink (by simp) hlink
      rw [hfind] at hsame
      cases hsame
      exact ⟨_, rfl⟩

/-- The keys of a directory are those of its files. -/
theorem mem_keys_walkDirectory {tree : FileTree} {root : String} {entries : List (String × FileNode)}
    {loaded : Entries} {warnings : List Warning} (hfind : tree.find root = .ok (.directory entries))
    (hwalk : walkDirectory tree root = .ok (loaded, warnings)) {key : String} :
    key ∈ loaded.map Prod.fst ↔
      ∃ location bytes, HasFile (.directory entries) location bytes ∧ key = keyAt location bytes := by
  obtain ⟨skipped, heq⟩ := walkDirectory_eq hfind
  have hfold : (leaves (.directory entries)).foldl (addLeaf root) ([], skipped) = (loaded, warnings) :=
    Except.ok.inj (heq.symm.trans hwalk)
  have hmem : key ∈ ((leaves (.directory entries)).foldl (addLeaf root) ([], skipped)).1.map Prod.fst ↔ _ :=
    mem_keys_foldl fun location bytes hmem => (file_mem_leaves_iff.1 hmem).ne_nil
  rw [hfold] at hmem
  simpa [file_mem_leaves_iff] using hmem

end ReleasePress.Template
