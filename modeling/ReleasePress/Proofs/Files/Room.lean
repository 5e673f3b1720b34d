import Mathlib.Data.List.Induction
import ReleasePress.Proofs.Files.Parent
import ReleasePress.Proofs.Files.Write

/-! # Making room below a directory

Before a file is written below an output directory, the directories around it are made, and the output directory
first if it is missing. They can be made if no file and no link is in their way, and then nothing else changes:
`FileTree.createDirectories_room` says so for output directories that are there already and for those that can
be made, with the same tree in the end. -/

namespace ReleasePress.FileTree

open FileNode

variable {tree tree' made : FileTree} {path : String} {depth : Nat}

/-! ## One directory after its parent -/

/-- Creates one directory unless it is there. -/
def ensureDirectory (tree : FileTree) (path : String) : Except FileError FileTree :=
  match tree.createDirectory path with
  | .ok tree => .ok tree
  | .error e => if tree.isDirectory path then .ok tree else .error e

theorem createMissing_of_found (hfound : tree.createDirectory path ≠ .error .notFound) (depth : Nat) :
    tree.createMissing path (depth + 1) = tree.ensureDirectory path := by
  rw [createMissing, ensureDirectory]
  cases hcreate : tree.createDirectory path with
  | ok created => rfl
  | error e =>
      have he : e ≠ .notFound := by
        rintro rfl
        exact hfound hcreate
      cases e <;> first | rfl | exact absurd rfl he

theorem createMissing_of_lost {parent : String} (hlost : tree.createDirectory path = .error .notFound)
    (hparent : Path.parent? path = some parent) (hne : parent ≠ "") (depth : Nat) :
    tree.createMissing path (depth + 1) =
      (tree.createMissing parent depth).bind fun around => around.ensureDirectory path := by
  have hempty : parent.isEmpty = false := by simpa using hne
  simp only [createMissing, hlost, hparent, hempty, Bool.false_eq_true, if_false]
  cases tree.createMissing parent depth with
  | error e => rfl
  | ok around =>
      cases hcreate : around.createDirectory path <;> simp [ensureDirectory, Except.bind, hcreate]

/-- What can be made with some parents can be made if more are allowed. -/
theorem createMissing_succ (hcreate : tree.createMissing path depth = .ok tree') :
    tree.createMissing path (depth + 1) = .ok tree' := by
  induction depth generalizing path tree' with
  | zero => cases hcreate
  | succ depth ih =>
      by_cases hlost : tree.createDirectory path = .error .notFound
      · cases hparent : Path.parent? path with
        | none => simp [createMissing, hlost, hparent] at hcreate
        | some parent =>
            by_cases hempty : parent = ""
            · subst hempty
              simpa [createMissing, hlost, hparent] using hcreate
            · rw [createMissing_of_lost hlost hparent hempty] at hcreate ⊢
              cases haround : tree.createMissing parent depth with
              | error e =>
                  rw [haround] at hcreate
                  cases hcreate
              | ok around =>
                  rw [ih haround]
                  rwa [haround] at hcreate
      · rw [createMissing_of_found hlost] at hcreate ⊢
        exact hcreate

theorem createMissing_mono {depth' : Nat} (hdepth : depth ≤ depth')
    (hcreate : tree.createMissing path depth = .ok tree') : tree.createMissing path depth' = .ok tree' := by
  obtain ⟨more, rfl⟩ := Nat.exists_eq_add_of_le hdepth
  clear hdepth
  induction more with
  | zero => exact hcreate
  | succ more ih => exact createMissing_succ ih

/-- A directory that is there need not be made. -/
theorem createMissing_of_isDirectory (htrim : trimSeparators path = path)
    (hdirectory : tree.isDirectory path = true) (depth : Nat) :
    tree.createMissing path (depth + 1) = .ok tree := by
  obtain ⟨entries, hfind⟩ := find_of_isDirectory hdirectory
  obtain ⟨node, hlink⟩ := findLink_of_find hfind
  have hexists : tree.createDirectory path = .error .exists_ := by
    rw [findLink] at hlink
    rw [createDirectory, htrim]
    split at hlink
    · next hlocate => rw [hlocate]
    · cases hlink
    · cases hlink
  rw [createMissing_of_found (by simp [hexists]), ensureDirectory, hexists]
  simp only [hdirectory, if_true]

/-! ## Directories below a directory -/

section Below

variable {output name : String} {place names : Location} {entries : List (String × FileNode)}

/-- Nothing but a directory is at a location. -/
def Clear (root : FileNode) (location : Location) : Prop :=
  HasDirectory root location ∨ root.at? location = none

theorem Alters.clear {touched made : Location → Prop} (halters : Alters touched made tree tree')
    {location : Location} (huntouched : ¬touched location) (hclear : Clear tree.root location) :
    Clear tree'.root location := by
  rcases hclear with hdirectory | hnone
  · exact .inl ((halters.hasDirectory_iff location).2 (.inl hdirectory))
  · have hbecomes := halters.keeps.becomes location
    rw [hnone] at hbecomes
    rw [Clear, HasDirectory]
    generalize tree'.root.at? location = node? at hbecomes ⊢
    cases hbecomes with
    | same => exact .inr rfl
    | made entries => exact .inl ⟨entries, rfl⟩
    | written htouched => exact absurd htouched huntouched

/-- Nothing is there still where nothing is touched or made. -/
theorem Alters.none {touched made : Location → Prop} (halters : Alters touched made tree tree')
    {location : Location} (huntouched : ¬touched location) (hunmade : ¬made location)
    (hnone : tree.root.at? location = none) : tree'.root.at? location = none := by
  refine (halters.clear huntouched (.inr hnone)).resolve_left fun hdirectory => ?_
  rcases (halters.hasDirectory_iff _).1 hdirectory with ⟨entries, hat⟩ | hmade
  · rw [hnone] at hat
    cases hat
  · exact hunmade hmade

theorem Clear.eq_directory {root node : FileNode} {location : Location} (hclear : Clear root location)
    (hat : root.at? location = some node) : ∃ entries, node = .directory entries := by
  rcases hclear with ⟨entries, hdirectory⟩ | hnone
  · exact ⟨entries, Option.some.inj (hat.symm.trans hdirectory)⟩
  · rw [hat] at hnone
    cases hnone

theorem Clear.ne_link {root : FileNode} {location : Location} (hclear : Clear root location) (target : String) :
    root.at? location ≠ some (.link target) := by
  intro hlink
  obtain ⟨entries, hentries⟩ := hclear.eq_directory hlink
  cases hentries

/-- A directory can be made in a directory below the output directory, unless it is there. -/
theorem ensureDirectory_alters (hroot : tree.HasRoot) (hextends : Extends output (names ++ [name]) path)
    (htrim : trimSeparators path = path)
    (hlocate : tree.locate true output = .ok (place, some (.directory entries)))
    (haround : HasDirectory tree.root (place ++ names)) (hclear : Clear tree.root (place ++ names ++ [name])) :
    ∃ tree', tree.ensureDirectory path = .ok tree' ∧
      Alters (fun _ => False) (· = place ++ names ++ [name]) tree tree' := by
  obtain ⟨others, haround⟩ := haround
  have hplace (last : Bool) := locate_child hextends hlocate haround hclear.ne_link last
  rcases hclear with ⟨inner, hdirectory⟩ | hnone
  · have hexists : tree.createDirectory path = .error .exists_ := by
      rw [createDirectory, htrim, hplace, hdirectory]
    have hisDirectory : tree.isDirectory path = true := by
      rw [isDirectory, find, hplace, hdirectory]
    refine ⟨tree, ?_, (Alters.refl _ tree).congr (fun _ => id) fun location => ?_⟩
    · rw [ensureDirectory, hexists]
      simp only [hisDirectory, if_true]
    · constructor
      · exact fun hlocation => .inl (hlocation.resolve_right not_false)
      · rintro (hlocation | rfl)
        · exact .inl hlocation
        · exact .inl ⟨inner, hdirectory⟩
  · have hmissing : tree.locate false (trimSeparators path) = .ok (place ++ names ++ [name], none) := by
      rw [htrim, hplace, hnone]
    obtain ⟨tree', hcreate, halters⟩ := createDirectory_alters hroot hmissing
    exact ⟨tree', by rw [ensureDirectory, hcreate], halters⟩

theorem hasDirectory_of_append {root : FileNode} {location rest : Location}
    (hdirectory : HasDirectory root (location ++ rest)) : HasDirectory root location := by
  rcases rest with _ | ⟨first, rest⟩
  · rwa [List.append_nil] at hdirectory
  · obtain ⟨entries, hat⟩ := hdirectory
    exact hasDirectory_of_prefix (by simp) hat

theorem Alters.locate {touched made : Location → Prop} (halters : Alters touched made tree tree')
    (hlocate : tree.locate true output = .ok (place, some (.directory entries))) :
    ∃ entries', tree'.locate true output = .ok (place, some (.directory entries')) := by
  obtain ⟨entries', hat⟩ := halters.keeps.directory (locate_at? hlocate)
  exact ⟨entries', by rw [halters.keeps.locate hlocate, hat]⟩

/-- An output directory that is there, or one that is missing but can be made; `made` is the tree with it. -/
def Opens (tree made : FileTree) (output : String) : Prop :=
  tree = made ∨
    tree.find output = .error .notFound ∧ tree.createDirectories (Path.trimmed output) = .ok made

theorem Opens.createMissing (hopens : Opens tree made output)
    (hlocate : made.locate true output = .ok (place, some (.directory entries))) {depth : Nat}
    (hdepth : (Path.trimmed output).length < depth) :
    tree.createMissing (Path.trimmed output) depth = .ok made := by
  have houtput := ne_empty_of_locate hlocate
  rcases hopens with rfl | ⟨-, hmade⟩
  · obtain ⟨depth, rfl⟩ : ∃ before, depth = before + 1 := ⟨depth - 1, by omega⟩
    have hdirectory : tree.isDirectory (Path.trimmed output) = true := by
      rw [isDirectory, find, (locate_trimmed_iff houtput).2 hlocate]
    exact createMissing_of_isDirectory (Path.trimSeparators_trimmed output) hdirectory depth
  · have hempty : (Path.trimmed output).isEmpty = false := by
      simpa using Path.trimmed_ne_empty houtput
    rw [createDirectories, hempty, if_neg Bool.false_ne_true] at hmade
    exact createMissing_mono hdepth hmade

/-! ## The way to a directory -/

/-- The locations on the way from a place down to one below it, with both of them. -/
def OnWay (place names location : Location) : Prop :=
  ∃ front, front <+: names ∧ location = place ++ front

theorem onWay_concat_iff {location : Location} :
    OnWay place (names ++ [name]) location ↔ OnWay place names location ∨ location = place ++ names ++ [name] := by
  simp only [OnWay, List.prefix_concat_iff, or_and_right, exists_or, exists_eq_left, List.append_assoc]
  exact or_comm

/-- Where a directory is, its way is there too. -/
theorem alters_refl_of_directory (hdirectory : HasDirectory tree.root (place ++ names)) :
    Alters (fun _ => False) (OnWay place names) tree tree := by
  refine (Alters.refl _ tree).congr (fun _ => id) fun location => ?_
  constructor
  · exact fun hlocation => .inl (hlocation.resolve_right not_false)
  · rintro (hlocation | ⟨front, ⟨rest, rfl⟩, rfl⟩)
    · exact .inl hlocation
    · rw [← List.append_assoc] at hdirectory
      exact .inl (hasDirectory_of_append hdirectory)

/-- Once the directories around are there or made, a directory is the only one that is missing. -/
theorem createMissing_next {around : FileTree} (hopens : Opens tree made output)
    (hlocate : made.locate true output = .ok (place, some (.directory entries)))
    (hnames : ∀ part ∈ names ++ [name], IsEntryName part)
    (hclear : ∀ front, front <+: names → Clear made.root (place ++ front))
    (hcreate : ∀ depth, (Path.trimmed output).length + names.length < depth →
      tree.createMissing (Path.room output names) depth = .ok around)
    (halters : Alters (fun _ => False) (OnWay place names) made around) :
    ∃ around', (∀ depth, (Path.trimmed output).length + names.length < depth →
        tree.createMissing (Path.room output (names ++ [name])) (depth + 1) =
          around'.ensureDirectory (Path.room output (names ++ [name]))) ∧
      Alters (fun _ => False) (OnWay place names) made around' := by
  have houtput := ne_empty_of_locate hlocate
  have hextends := extends_join houtput (by simp) hnames
  have htrim : trimSeparators (Path.join output ("/".intercalate (names ++ [name]))) =
      Path.join output ("/".intercalate (names ++ [name])) := Path.trimSeparators_join hnames
  rw [Path.room_concat]
  by_cases hlost : tree.createDirectory (Path.join output ("/".intercalate (names ++ [name]))) = .error .notFound
  · -- the directories around are made first
    refine ⟨around, fun depth hdepth => ?_, halters⟩
    have hroom : Path.room output names ≠ "" :=
      Path.room_ne_empty houtput fun part hpart => hnames part (List.mem_append_left _ hpart)
    rw [createMissing_of_lost hlost (Path.parent?_join hnames houtput) hroom, hcreate depth hdepth,
      Except.bind]
  · -- the directory around is there, and so is the output directory
    obtain rfl : tree = made := by
      refine hopens.resolve_right fun hmissing => hlost ?_
      rw [createDirectory, htrim, locate_of_lost hextends (by simp) houtput hmissing.1]
    refine ⟨tree, fun depth _ => createMissing_of_found hlost depth, alters_refl_of_directory ?_⟩
    refine (hclear names List.prefix_rfl).resolve_right fun hnone => hlost ?_
    rw [createDirectory, htrim,
      locate_lost hextends hlocate (fun front hfront node => (hclear front hfront).eq_directory) hnone]

/-- Room is made below an output directory where no file and no link is in the way, whether or not the output
directory itself is there already. -/
theorem createMissing_room (hroot : made.HasRoot) (hopens : Opens tree made output)
    (hlocate : made.locate true output = .ok (place, some (.directory entries)))
    (hnames : ∀ name ∈ names, IsEntryName name)
    (hclear : ∀ front, front <+: names → Clear made.root (place ++ front)) :
    ∃ tree', (∀ depth, (Path.trimmed output).length + names.length < depth →
        tree.createMissing (Path.room output names) depth = .ok tree') ∧
      Alters (fun _ => False) (OnWay place names) made tree' := by
  induction names using List.reverseRecOn with
  | nil =>
      refine ⟨made, fun depth hdepth => hopens.createMissing hlocate (by simpa using hdepth),
        alters_refl_of_directory ⟨entries, ?_⟩⟩
      rw [List.append_nil, locate_at? hlocate]
  | append_singleton names name ih =>
      have hbefore : ∀ part ∈ names, IsEntryName part := fun part hpart => hnames part (by simp [hpart])
      have hway : ∀ front, front <+: names → Clear made.root (place ++ front) :=
        fun front hfront => hclear front (hfront.trans (List.prefix_append _ _))
      obtain ⟨first, hfirst, hfirstAlters⟩ := ih hbefore hway
      obtain ⟨around, hcreate, halters⟩ := createMissing_next hopens hlocate hnames hway hfirst hfirstAlters
      have hplace : Clear made.root (place ++ names ++ [name]) := by
        rw [List.append_assoc]
        exact hclear _ List.prefix_rfl
      have haround : HasDirectory around.root (place ++ names) :=
        (halters.hasDirectory_iff _).2 (.inr ⟨names, List.prefix_rfl, rfl⟩)
      obtain ⟨inner, hinner⟩ := halters.locate hlocate
      have hextends := extends_join (ne_empty_of_locate hlocate) (by simp) hnames
      obtain ⟨tree', hensure, halters'⟩ := ensureDirectory_alters (halters.keeps.hasRoot hroot) hextends
        (Path.trimSeparators_join hnames) hinner haround (halters.clear not_false hplace)
      refine ⟨tree', fun depth hdepth => ?_, (halters.trans halters').congr (by simp) fun location => ?_⟩
      · obtain ⟨depth, rfl⟩ : ∃ before, depth = before + 1 := ⟨depth - 1, by omega⟩
        rw [List.length_append, List.length_singleton] at hdepth
        rw [hcreate depth (by omega), Path.room_concat, hensure]
      · rw [onWay_concat_iff]

theorem createDirectories_room (hroot : made.HasRoot) (hopens : Opens tree made output)
    (hlocate : made.locate true output = .ok (place, some (.directory entries)))
    (hnames : ∀ name ∈ names, IsEntryName name)
    (hclear : ∀ front, front <+: names → Clear made.root (place ++ front)) :
    ∃ tree', tree.createDirectories (Path.room output names) = .ok tree' ∧
      Alters (fun _ => False) (OnWay place names) made tree' := by
  obtain ⟨tree', hcreate, halters⟩ := createMissing_room hroot hopens hlocate hnames hclear
  have hempty : (Path.room output names).isEmpty = false := by
    simpa using Path.room_ne_empty (ne_empty_of_locate hlocate) hnames
  have hlength : (Path.trimmed output).length + names.length ≤ (Path.room output names).length :=
    Path.length_room hnames
  refine ⟨tree', ?_, halters⟩
  rw [createDirectories, hempty, if_neg Bool.false_ne_true]
  exact hcreate _ (by omega)

/-! ## Fresh directories -/

/-- An output directory that is not there yet and can be made as a new one; a separator or `.` at the end of its
path does not count. -/
structure Fresh (tree : FileTree) (output : String) : Prop where
  missing : ∀ node, tree.find output ≠ .ok node
  created : ∃ made, tree.createDirectories (Path.trimmed output) = .ok made ∧
    made.find output = .ok (.directory [])

/-- If nothing is found where a directory can be made then the path leads nowhere: it does not fail on its way. -/
theorem find_of_createMissing (houtput : output ≠ "") (hmissing : ∀ node, tree.find output ≠ .ok node)
    (hcreate : tree.createMissing (Path.trimmed output) (depth + 1) = .ok made) :
    tree.find output = .error .notFound := by
  have hdirectory : tree.isDirectory (Path.trimmed output) = false := by
    rw [← Bool.not_eq_true]
    intro hdirectory
    obtain ⟨entries, hfind⟩ := find_of_isDirectory hdirectory
    obtain ⟨location, hlocate⟩ := locate_of_find hfind
    exact hmissing (.directory entries) (by rw [find, (locate_trimmed_iff houtput).1 hlocate])
  refine find_of_trimmed houtput (find_eq_notFound_iff.2 ?_)
  by_contra hlost
  -- any other failure is one that making the directory has as well
  have hfails : ∃ e, tree.createDirectory (Path.trimmed output) = .error e ∧ e ≠ .notFound := by
    rw [createDirectory, Path.trimSeparators_trimmed]
    rcases tree.locate_last (Path.trimmed output) with hsame | ⟨location, target, hlink⟩
    · rw [hsame, IsLost] at hlost
      cases hlocate : tree.locate false (Path.trimmed output) with
      | error e => exact ⟨e, rfl, fun he => hlost (.inl (by rw [hlocate, he]))⟩
      | ok arrival =>
          obtain ⟨location, node?⟩ := arrival
          cases node? with
          | none => exact absurd (.inr ⟨location, hlocate⟩) hlost
          | some node => exact ⟨.exists_, rfl, by simp⟩
    · exact ⟨.exists_, by rw [hlink], by simp⟩
  obtain ⟨e, hfails, hother⟩ := hfails
  rw [createMissing_of_found (by simp [hfails, hother]), ensureDirectory, hfails] at hcreate
  simp [hdirectory] at hcreate

theorem Fresh.find (hfresh : Fresh tree output) : tree.find output = .error .notFound := by
  obtain ⟨hmissing, made, hcreate, hmade⟩ := hfresh
  have houtput : output ≠ "" := by
    rintro rfl
    cases hmade
  have hempty : (Path.trimmed output).isEmpty = false := by simpa using Path.trimmed_ne_empty houtput
  rw [createDirectories, hempty, if_neg Bool.false_ne_true] at hcreate
  exact find_of_createMissing houtput hmissing hcreate

theorem eq_nil_of_at? {root : FileNode} {location : Location} (hat : root.at? location = some (.directory entries))
    (hnone : ∀ name, root.at? (location ++ [name]) = none) : entries = [] := by
  cases entries with
  | nil => rfl
  | cons first rest =>
      have hfirst := hnone first.1
      rw [at?_concat hat] at hfirst
      simp [entry] at hfirst

section Absent

variable {first : String} (hlocate : tree.locate true output = .ok (place, some (.directory entries)))
  (hnames : ∀ name ∈ first :: names, IsEntryName name) (hnone : tree.root.at? (place ++ [first]) = none)

include hnone in
/-- Nothing is below a missing name. -/
theorem at?_absent (rest : Location) : tree.root.at? (place ++ first :: rest) = none := by
  have hlocation : place ++ first :: rest = place ++ [first] ++ rest := by simp
  rw [hlocation, at?_append, hnone, Option.bind_none]

include hlocate hnone in
theorem clear_absent {front : Location} (hfront : front <+: first :: names) :
    Clear tree.root (place ++ front) := by
  cases front with
  | nil => exact .inl ⟨entries, by rw [List.append_nil, locate_at? hlocate]⟩
  | cons name rest =>
      obtain ⟨rfl, -⟩ := List.cons_prefix_cons.1 hfront
      exact .inr (at?_absent hnone rest)

include hlocate hnames hnone

theorem find_absent : tree.find (Path.join output ("/".intercalate (first :: names))) = .error .notFound := by
  have hextends := extends_join (ne_empty_of_locate hlocate) (by simp) hnames
  have hplace := at?_absent hnone names
  have hclear {front : Location} (hfront : front <+: first :: names) : Clear tree.root (place ++ front) :=
    clear_absent hlocate hnone hfront
  obtain ⟨around, name, hsplit⟩ : ∃ around name, first :: names = around ++ [name] :=
    ⟨_, _, (List.dropLast_append_getLast (by simp)).symm⟩
  rw [hsplit] at hextends hplace hclear ⊢
  rw [← List.append_assoc] at hplace
  have hway {front : Location} (hfront : front <+: around) : Clear tree.root (place ++ front) :=
    hclear (hfront.trans (List.prefix_append _ _))
  rw [find]
  rcases hway List.prefix_rfl with ⟨others, haround⟩ | hmissing
  · rw [locate_child hextends hlocate haround (Clear.ne_link (.inr hplace)), hplace]
  · rw [locate_lost hextends hlocate (fun front hfront node => (hway hfront).eq_directory) hmissing]

theorem createDirectories_absent :
    ∃ made, tree.createDirectories (Path.join output ("/".intercalate (first :: names))) = .ok made ∧
      made.find (Path.join output ("/".intercalate (first :: names))) = .ok (.directory []) := by
  have hroot : tree.HasRoot := by
    have hfind : tree.find output = .ok (.directory entries) := by rw [find, hlocate]
    exact hasRoot_of_find hfind
  have hextends := extends_join (ne_empty_of_locate hlocate) (by simp) hnames
  obtain ⟨made, hcreate, halters⟩ := createDirectories_room hroot (.inl rfl) hlocate hnames
    fun front hfront => clear_absent hlocate hnone hfront
  obtain ⟨others, hmade⟩ := halters.locate hlocate
  obtain ⟨inner, hinner⟩ : HasDirectory made.root (place ++ first :: names) :=
    (halters.hasDirectory_iff _).2 (.inr ⟨_, List.prefix_rfl, rfl⟩)
  have hempty : inner = [] := by
    refine eq_nil_of_at? hinner fun name => halters.none not_false ?_ ?_
    · rintro ⟨front, hfront, hsame⟩
      rw [List.append_assoc, List.append_cancel_left_eq] at hsame
      have hlength := hfront.length_le
      rw [← hsame, List.length_append, List.length_singleton] at hlength
      omega
    · rw [List.append_assoc]
      exact at?_absent hnone _
  subst hempty
  rw [at?_append, locate_at? hmade] at hinner
  exact ⟨made, hcreate, by rw [find, locate_names hextends (by simp) hmade hinner (by simp)]⟩

/-- Below a directory, names can be made fresh if nothing has the first of them. -/
theorem fresh_join : Fresh tree (Path.join output ("/".intercalate (first :: names))) := by
  refine ⟨by simp [find_absent hlocate hnames hnone], ?_⟩
  have hcreated := createDirectories_absent hlocate hnames hnone
  obtain ⟨around, name, hsplit⟩ : ∃ around name, first :: names = around ++ [name] :=
    ⟨_, _, (List.dropLast_append_getLast (by simp)).symm⟩
  rw [hsplit] at hnames hcreated ⊢
  rwa [Path.trimmed_join hnames]

end Absent

end Below

end ReleasePress.FileTree
