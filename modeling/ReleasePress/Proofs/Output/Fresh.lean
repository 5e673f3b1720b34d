import ReleasePress.Proofs.Files.Listing
import ReleasePress.Proofs.Files.Room
import ReleasePress.Proofs.Output.Write
import ReleasePress.Proofs.Template.SideBySide

/-! # Writing to a fresh directory

In an output directory that was made for them, documents whose keys can be written side by side are all written,
and the directory holds nothing else in the end. The invariant is what the directory holds so far: the files
written, the directories around them, and nothing besides (`Output.Holds`). One document adds its file
(`Output.writeOne_holds`), and so all of them do (`Output.writeAll_holds`). -/

namespace ReleasePress.Output

open FileNode FileTree Template

/-! ## What a directory holds -/

/-- A location on the way to another one. -/
def Above (location other : Location) : Prop :=
  location <+: other ∧ location ≠ other

theorem above_concat_iff {location around : Location} {name : String} :
    Above location (around ++ [name]) ↔ location <+: around := by
  rw [Above, List.prefix_concat_iff]
  constructor
  · rintro ⟨hsame | habove, hne⟩
    · exact absurd hsame hne
    · exact habove
  · intro habove
    refine ⟨.inr habove, ?_⟩
    rintro rfl
    simpa using habove.length_le

/-- Neither of two locations lies on the way to the other. -/
def Apart (location other : Location) : Prop :=
  ¬location <+: other ∧ ¬other <+: location

/-- At a place there is a directory that holds some files, the directories around them, and nothing else. -/
structure Holds (root : FileNode) (place : Location) (held : List (Location × ByteArray)) : Prop where
  file_iff : ∀ location bytes,
    root.at? (place ++ location) = some (.file bytes) ↔ (location, bytes) ∈ held
  hasDirectory_iff : ∀ location,
    HasDirectory root (place ++ location) ↔ location = [] ∨ ∃ file ∈ held, Above location file.1
  ne_link : ∀ location target, root.at? (place ++ location) ≠ some (.link target)

theorem holds_empty {root : FileNode} {place : Location} (hat : root.at? place = some (.directory [])) :
    Holds root place [] := by
  have hbelow (location : Location) :
      root.at? (place ++ location) = if location = [] then some (.directory []) else none := by
    rw [at?_append, hat, Option.bind_some]
    cases location <;> rfl
  refine ⟨fun location bytes => ?_, fun location => ?_, fun location target => ?_⟩
  · rw [hbelow]
    split <;> simp
  · rw [HasDirectory, hbelow]
    by_cases hlocation : location = [] <;> simp [hlocation]
  · rw [hbelow]
    split <;> simp

theorem Holds.of_mem_iff {root : FileNode} {place : Location} {held held' : List (Location × ByteArray)}
    (hholds : Holds root place held) (hmem : ∀ file, file ∈ held ↔ file ∈ held') : Holds root place held' where
  file_iff location bytes := (hholds.file_iff location bytes).trans (hmem _)
  hasDirectory_iff location := (hholds.hasDirectory_iff location).trans (by simp only [hmem])
  ne_link := hholds.ne_link

section Holds

variable {root : FileNode} {tree tree' : FileTree} {place location : Location} {held : List (Location × ByteArray)}
  {bytes : ByteArray}

/-- No file is in the way of a new one. -/
theorem Holds.clear (hholds : Holds root place held) (hapart : ∀ file ∈ held, Apart file.1 location)
    {front : Location} (habove : Above front location) : Clear root (place ++ front) := by
  cases hat : root.at? (place ++ front) with
  | none => exact .inr hat
  | some node =>
      cases node with
      | directory entries => exact .inl ⟨entries, hat⟩
      | link target => exact absurd hat (hholds.ne_link front target)
      | file bytes => exact absurd habove.1 (hapart _ ((hholds.file_iff front bytes).1 hat)).1

/-- Nothing is where a new file goes. -/
theorem Holds.at?_new (hholds : Holds root place held) (hapart : ∀ file ∈ held, Apart file.1 location)
    (hne : location ≠ []) : root.at? (place ++ location) = none := by
  cases hat : root.at? (place ++ location) with
  | none => rfl
  | some node =>
      cases node with
      | link target => exact absurd hat (hholds.ne_link _ target)
      | file bytes => exact absurd List.prefix_rfl (hapart _ ((hholds.file_iff _ bytes).1 hat)).1
      | directory entries =>
          rcases (hholds.hasDirectory_iff _).1 ⟨entries, hat⟩ with hnil | ⟨file, hfile, habove⟩
          · exact absurd hnil hne
          · exact absurd habove.1 (hapart file hfile).2

/-- A new file and the directories around it are held in addition. -/
theorem Holds.add (hholds : Holds tree.root place held) (hapart : ∀ file ∈ held, Apart file.1 location)
    (halters : Alters (· = place ++ location) (fun other => ∃ front, Above front location ∧ other = place ++ front)
      tree tree')
    (hat : tree'.root.at? (place ++ location) = some (.file bytes)) :
    Holds tree'.root place ((location, bytes) :: held) := by
  have hnew (bytes' : ByteArray) : (location, bytes') ∉ held :=
    fun hmem => (hapart _ hmem).1 List.prefix_rfl
  refine ⟨fun other bytes' => ?_, fun other => ?_, fun other target => ?_⟩
  · by_cases hother : other = location
    · subst hother
      simp [hat, hnew, eq_comm]
    · rw [halters.keeps.file_iff (by simpa using hother), hholds.file_iff]
      simp [hother]
  · simp only [halters.hasDirectory_iff, hholds.hasDirectory_iff, List.append_cancel_left_eq, exists_eq_right',
      List.mem_cons, exists_eq_or_imp]
    exact or_assoc.trans (or_congr_right or_comm)
  · rw [ne_eq, halters.keeps.link_iff]
    exact hholds.ne_link other target

end Holds

/-! ## What documents supply -/

/-- What is written for a document: its text, or what the file of its key holds. -/
inductive Supplies (tree : FileTree) (directory key : String) : Option String → ByteArray → Prop
  | text (text : String) : Supplies tree directory key (some text) text.toUTF8
  | file {bytes : ByteArray} (hread : tree.read (Path.join directory key) = .ok bytes) :
      Supplies tree directory key none bytes

section Write

variable {tree tree' made : FileTree} {output directory key : String} {document : Option String}
  {place : Location} {held : List (Location × ByteArray)} {bytes : ByteArray} {entries : List (String × FileNode)}

/-- Documents supply the same as long as files are written only where nothing was. -/
theorem Supplies.keeps (hkeeps : Keeps (tree.root.at? · = none) tree tree')
    (hsupplies : Supplies tree directory key document bytes) : Supplies tree' directory key document bytes := by
  cases hsupplies with
  | text text => exact .text text
  | file hread => exact .file (hkeeps.read hread)

/-! ## Writing -/

/-- The directories around a new file are made, and then its path leads to its place. -/
theorem makeRoom_holds (hroot : made.HasRoot) (hopens : Opens tree made output)
    (hlocate : made.locate true output = .ok (place, some (.directory entries)))
    (hholds : Holds made.root place held) (hkey : ∀ name ∈ names key, IsEntryName name)
    (hapart : ∀ file ∈ held, Apart file.1 (names key)) :
    ∃ roomy, (makeRoom (Path.join output key)).run.run tree = (.ok (), roomy) ∧
      Alters (fun _ => False) (fun location => ∃ front, Above front (names key) ∧ location = place ++ front)
        made roomy ∧
      roomy.locate true (Path.join output key) = .ok (place ++ names key, none) := by
  have houtput := ne_empty_of_locate hlocate
  have hnew := hholds.at?_new hapart (names_ne_nil key)
  obtain ⟨around, name, hnames⟩ : ∃ around name, names key = around ++ [name] :=
    ⟨_, _, (List.dropLast_append_getLast (names_ne_nil key)).symm⟩
  have hway {front : Location} (hfront : front <+: around) : Clear made.root (place ++ front) :=
    hholds.clear hapart (hnames ▸ above_concat_iff.2 hfront)
  have htarget : Path.join output key = Path.join output ("/".intercalate (around ++ [name])) := by
    rw [← hnames, intercalate_names]
  rw [hnames] at hkey hnew
  rw [hnames, htarget]
  simp only [above_concat_iff]
  obtain ⟨roomy, hcreate, halters⟩ := createDirectories_room hroot hopens hlocate
    (fun part hpart => hkey part (List.mem_append_left _ hpart)) fun front => hway
  refine ⟨roomy, ?_, halters, ?_⟩
  · rw [makeRoom, Path.parent?_join hkey houtput]
    exact change_eq_ok_iff.2 hcreate
  · obtain ⟨inner, hinner⟩ := halters.locate hlocate
    obtain ⟨others, haround⟩ : HasDirectory roomy.root (place ++ around) :=
      (halters.hasDirectory_iff _).2 (.inr ⟨around, List.prefix_rfl, rfl⟩)
    -- the last directory that was made is the one around
    have hnone : roomy.root.at? (place ++ around ++ [name]) = none := by
      rw [List.append_assoc]
      refine halters.none not_false ?_ hnew
      rintro ⟨front, hfront, hsame⟩
      exact (above_concat_iff.2 hfront).2 (List.append_cancel_left hsame).symm
    have hextends := FileTree.extends_join houtput (by simp) hkey
    rw [locate_child hextends hinner haround (Clear.ne_link (.inr hnone)), hnone, List.append_assoc]

/-- One document is written, with the directories around it, where nothing is in its way, and nothing else is. -/
theorem writeOne_holds (hroot : made.HasRoot) (hopens : Opens tree made output)
    (hlocate : made.locate true output = .ok (place, some (.directory entries)))
    (hholds : Holds made.root place held) (hkey : ∀ name ∈ names key, IsEntryName name)
    (hapart : ∀ file ∈ held, Apart file.1 (names key))
    (hsupplies : Supplies made directory key document bytes) :
    ∃ tree' dirs, (writeOne output (.directory directory) key document).run.run tree = (.ok (), tree') ∧
      Holds tree'.root place ((names key, bytes) :: held) ∧
      Alters (made.root.at? · = none) dirs made tree' := by
  obtain ⟨roomy, hmake, hroomy, hplace⟩ := makeRoom_holds hroot hopens hlocate hholds hkey hapart
  have hroomyRoot := hroomy.keeps.hasRoot hroot
  have hnone := locate_at? hplace
  have hwritten : ∃ tree',
      (writeOne output (.directory directory) key document).run.run tree = (.ok (), tree') ∧
        Alters (· = place ++ names key) (fun _ => False) roomy tree' ∧
        tree'.root.at? (place ++ names key) = some (.file bytes) := by
    cases hsupplies.keeps (hroomy.keeps.mono fun _ => False.elim) with
    | text text =>
        obtain ⟨tree', hwrite, hwritten⟩ := write_alters hroomyRoot hplace (by simp) text.toUTF8
        exact ⟨tree', run_bind_eq_ok_iff.2 ⟨(), roomy, hmake, change_eq_ok_iff.2 hwrite⟩, hwritten⟩
    | file hread =>
        obtain ⟨original, hsource⟩ := read_eq_ok_iff.1 hread
        have hother : original ≠ place ++ names key := by
          rintro rfl
          rw [locate_at? hsource] at hnone
          cases hnone
        obtain ⟨tree', hcopy, hwritten⟩ := copy_alters hroomyRoot hsource hplace (by simp) hother
        exact ⟨tree', run_bind_eq_ok_iff.2 ⟨(), roomy, hmake, change_eq_ok_iff.2 hcopy⟩, hwritten⟩
  obtain ⟨tree', hwrite, halters, hat⟩ := hwritten
  have hwhole := hroomy.trans halters
  refine ⟨tree', _, hwrite, hholds.add hapart (hwhole.congr (by simp) (by simp)) hat,
    hwhole.congr ?_ fun _ => Iff.rfl⟩
  rintro location (hfalse | rfl)
  · exact hfalse.elim
  · exact hroomy.keeps.of_none hnone

/-- All documents are written where nothing is in their way. -/
theorem writeAll_holds {documents : Documents} {bytes : String × Option String → ByteArray}
    (hroot : tree.HasRoot) (hlocate : tree.locate true output = .ok (place, some (.directory entries)))
    (hholds : Holds tree.root place held)
    (hordinary : ∀ document ∈ documents, ∀ name ∈ names document.1, IsEntryName name)
    (hheld : ∀ document ∈ documents, ∀ file ∈ held, Apart file.1 (names document.1))
    (hapart : documents.Pairwise fun document later => Apart (names document.1) (names later.1))
    (hsupplies : ∀ document ∈ documents, Supplies tree directory document.1 document.2 (bytes document)) :
    ∃ tree' dirs, (writeAll output (.directory directory) documents).run.run tree = (.ok (), tree') ∧
      Holds tree'.root place ((documents.map fun document => (names document.1, bytes document)).reverse ++ held) ∧
      Alters (tree.root.at? · = none) dirs tree tree' := by
  induction documents generalizing tree held entries with
  | nil => exact ⟨tree, _, rfl, hholds, .refl _ _⟩
  | cons document documents ih =>
      obtain ⟨hfirst, hlater⟩ := List.pairwise_cons.1 hapart
      obtain ⟨hordinaryFirst, hordinary⟩ := List.forall_mem_cons.1 hordinary
      obtain ⟨hheldFirst, hheld⟩ := List.forall_mem_cons.1 hheld
      obtain ⟨hsuppliesFirst, hsupplies⟩ := List.forall_mem_cons.1 hsupplies
      obtain ⟨written, dirs, hwrite, hholds, halters⟩ :=
        writeOne_holds hroot (.inl rfl) hlocate hholds hordinaryFirst hheldFirst hsuppliesFirst
      obtain ⟨inner, hinner⟩ := halters.locate hlocate
      obtain ⟨tree', dirs', hrest, hholds', halters'⟩ := ih (halters.keeps.hasRoot hroot) hinner hholds hordinary
        (fun document hdocument => List.forall_mem_cons.2 ⟨hfirst document hdocument, hheld document hdocument⟩)
        hlater fun document hdocument => (hsupplies document hdocument).keeps halters.keeps
      refine ⟨tree', _, run_bind_eq_ok_iff.2 ⟨(), written, hwrite, hrest⟩, ?_,
        (halters.trans halters').congr (fun location => ?_) fun _ => Iff.rfl⟩
      · rwa [List.map_cons, List.reverse_cons, List.append_assoc, List.singleton_append]
      · rintro (hbefore | hbetween)
        · exact hbefore
        · exact halters.keeps.of_none hbetween

theorem pairwise_apart {documents : Documents} (hsides : SideBySide (documents.map Prod.fst))
    (hkeys : (documents.map Prod.fst).Nodup) :
    documents.Pairwise fun document later => Apart (names document.1) (names later.1) := by
  refine (List.pairwise_map.1 hkeys).imp_of_mem fun hdocument hlater hne => ?_
  have hsame := hsides.apart _ (List.mem_map_of_mem hdocument) _ (List.mem_map_of_mem hlater)
  have hsame' := hsides.apart _ (List.mem_map_of_mem hlater) _ (List.mem_map_of_mem hdocument)
  exact ⟨fun habove => hne (hsame habove), fun habove => hne (hsame' habove).symm⟩

/-- Documents are written to an empty directory, which the first of them may find missing. -/
theorem writeAll_opens {first : String × Option String} {documents : Documents}
    {bytes : String × Option String → ByteArray} (hroot : made.HasRoot) (hopens : Opens tree made output)
    (hlocate : made.locate true output = .ok (place, some (.directory [])))
    (hsides : SideBySide ((first :: documents).map Prod.fst))
    (hkeys : ((first :: documents).map Prod.fst).Nodup)
    (hsupplies : ∀ document ∈ first :: documents,
      Supplies made directory document.1 document.2 (bytes document)) :
    ∃ tree' dirs, (writeAll output (.directory directory) (first :: documents)).run.run tree = (.ok (), tree') ∧
      Holds tree'.root place ((first :: documents).map fun document => (names document.1, bytes document)) ∧
      Alters (made.root.at? · = none) dirs made tree' := by
  obtain ⟨hapartFirst, hapart⟩ := List.pairwise_cons.1 (pairwise_apart hsides hkeys)
  obtain ⟨hsuppliesFirst, hsupplies⟩ := List.forall_mem_cons.1 hsupplies
  have hordinary : ∀ document ∈ first :: documents, ∀ name ∈ names document.1, IsEntryName name :=
    fun document hdocument => hsides.ordinary _ (List.mem_map_of_mem hdocument)
  obtain ⟨hordinaryFirst, hordinary⟩ := List.forall_mem_cons.1 hordinary
  obtain ⟨written, dirs, hwrite, hholds, halters⟩ :=
    writeOne_holds hroot hopens hlocate (holds_empty (locate_at? hlocate)) hordinaryFirst (by simp) hsuppliesFirst
  obtain ⟨inner, hinner⟩ := halters.locate hlocate
  obtain ⟨tree', dirs', hrest, hholds', halters'⟩ :=
    writeAll_holds (halters.keeps.hasRoot hroot) hinner hholds hordinary (by simpa using hapartFirst) hapart
      fun document hdocument => (hsupplies document hdocument).keeps halters.keeps
  refine ⟨tree', _, run_bind_eq_ok_iff.2 ⟨(), written, hwrite, hrest⟩, hholds'.of_mem_iff fun file => ?_,
    (halters.trans halters').congr ?_ fun _ => Iff.rfl⟩
  · simp [or_comm]
  · rintro location (hbefore | hbetween)
    · exact hbefore
    · exact halters.keeps.of_none hbetween

/-! ## A fresh directory -/

/-- A new file can be read where its key leads to. -/
theorem Holds.read (hholds : Holds tree.root place held)
    (hlocate : tree.locate true output = .ok (place, some (.directory entries)))
    (hkey : ∀ name ∈ names key, IsEntryName name) (hmem : (names key, bytes) ∈ held) :
    tree.read (Path.join output key) = .ok bytes := by
  have hat : (FileNode.directory entries).at? (names key) = some (.file bytes) := by
    have hplace := (hholds.file_iff _ _).2 hmem
    rwa [at?_append, locate_at? hlocate] at hplace
  have hextends : Extends output (names key) (Path.join output key) := by
    have hjoin := extends_join (ne_empty_of_locate hlocate) (names_ne_nil key) hkey
    rwa [intercalate_names] at hjoin
  exact read_eq_ok_iff.2 ⟨_, locate_names hextends (names_ne_nil key) hlocate hat (by simp) true⟩

/-- Listed below a directory are the files that it holds. -/
theorem Holds.filesBelow_perm (hholds : Holds tree.root place held) (hdistinct : tree.root.DistinctNames)
    (hlocate : tree.locate true output = .ok (place, some (.directory entries)))
    (hheld : (held.map Prod.fst).Nodup) : (tree.filesBelow output).Perm held := by
  have hat := locate_at? hlocate
  have hfind : tree.find output = .ok (.directory entries) := by rw [find, hlocate]
  have hbelow := find_distinctNames hdistinct hfind
  rw [filesBelow, hfind]
  refine (List.perm_ext_iff_of_nodup (nodup_files hbelow).of_map hheld.of_map).2 fun file => ?_
  rw [← hholds.file_iff, at?_append, hat, Option.bind_some]
  exact mem_files_iff hbelow

/-- Documents that can be written side by side are all written to a fresh directory, which holds them and no other
file then. -/
theorem writeAll_fresh {documents : Documents} (hroot : tree.HasRoot) (hdistinct : tree.root.DistinctNames)
    (hfresh : Fresh tree output) (hsides : SideBySide (documents.map Prod.fst))
    (hkeys : (documents.map Prod.fst).Nodup)
    (hsupplies : ∀ document ∈ documents, ∃ bytes, Supplies tree directory document.1 document.2 bytes) :
    ∃ (tree' : FileTree) (bytes : String × Option String → ByteArray),
      (writeAll output (.directory directory) documents).run.run tree = (.ok (), tree') ∧
      (tree'.filesBelow output).Perm (documents.map fun document => (names document.1, bytes document)) ∧
      ∀ document ∈ documents, Supplies tree directory document.1 document.2 (bytes document) ∧
        tree'.read (Path.join output document.1) = .ok (bytes document) := by
  choose! bytes hbytes using hsupplies
  have hmissing := hfresh.find
  obtain ⟨made, hcreated, hfound⟩ := hfresh.created
  cases documents with
  | nil => exact ⟨tree, bytes, rfl, by simp [filesBelow, hmissing], by simp⟩
  | cons first documents =>
      obtain ⟨place, hlocate⟩ := locate_of_find hfound
      obtain ⟨dirs, hmade⟩ := createDirectories_alters hroot hcreated
      obtain ⟨tree', dirs', hwrite, hholds, halters⟩ :=
        writeAll_opens (hmade.keeps.hasRoot hroot) (.inr ⟨hmissing, hcreated⟩) hlocate hsides hkeys
          fun document hdocument => (hbytes document hdocument).keeps (hmade.keeps.mono fun _ => False.elim)
      obtain ⟨entries, hplace⟩ := halters.locate hlocate
      refine ⟨tree', bytes, hwrite, ?_, fun document hdocument => ⟨hbytes document hdocument, ?_⟩⟩
      · refine hholds.filesBelow_perm (halters.distinctNames (hmade.distinctNames hdistinct)) hplace ?_
        have hnodup := hkeys.map names_injective
        rwa [List.map_map] at hnodup ⊢
      · exact hholds.read hplace (hsides.ordinary _ (List.mem_map_of_mem hdocument))
          (List.mem_map.2 ⟨document, hdocument, rfl⟩)

end Write

end ReleasePress.Output
