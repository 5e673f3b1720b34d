import ReleasePress.Proofs.Files.Descent
import ReleasePress.Proofs.Files.Write

/-! # Trees without a file

A file that is taken out of a tree is gone from its location, and at all others there is what was there, except
that directories have other entries (`FileNode.at?_without_of_ne`). So directories and links are in both trees at
the same locations, and a path leads to one location in both of them: it leads to a directory if it did so before
(`FileTree.isDirectory_without_iff`), and to a file if it did so before and that is not the file taken out
(`FileTree.read_without_iff`). -/

namespace ReleasePress

namespace FileNode

/-! ## Nodes -/

/-- A node without what stands at a location below it. -/
def without : FileNode → Location → FileNode
  | .directory entries, [name] => .directory (entries.filter fun named => named.1 ≠ name)
  | .directory entries, name :: rest =>
    match entry name entries with
    | some child => .directory (setEntry name (child.without rest) entries)
    | none => .directory entries
  | node, _ => node

variable {root : FileNode} {location other : Location}

theorem entry_filter_self (name : String) (entries : List (String × FileNode)) :
    entry name (entries.filter fun named => named.1 ≠ name) = none := by
  induction entries with
  | nil => rfl
  | cons first entries ih =>
      obtain ⟨other, node⟩ := first
      by_cases hother : other = name
      · rw [List.filter_cons_of_neg (by simpa using hother), ih]
      · rw [List.filter_cons_of_pos (by simpa using hother)]
        simp only [entry, hother, if_false, ih]

theorem entry_filter_of_ne {name other : String} (hother : other ≠ name) (entries : List (String × FileNode)) :
    entry other (entries.filter fun named => named.1 ≠ name) = entry other entries := by
  induction entries with
  | nil => rfl
  | cons first entries ih =>
      obtain ⟨first, node⟩ := first
      by_cases hfirst : first = name
      · rw [List.filter_cons_of_neg (by simpa using hfirst), ih, entry, if_neg (by rw [hfirst]; exact hother.symm)]
      · rw [List.filter_cons_of_pos (by simpa using hfirst), entry, entry, ih]

theorem without_directory_cons {name : String} {child : FileNode} {entries : List (String × FileNode)}
    (hchild : entry name entries = some child) {rest : Location} (hrest : rest ≠ []) :
    (FileNode.directory entries).without (name :: rest) = .directory (setEntry name (child.without rest) entries) := by
  cases rest with
  | nil => exact absurd rfl hrest
  | cons next rest => simp only [without, hchild]

/-- A node that is taken out is gone. -/
theorem at?_without_self (hlocation : location ≠ []) {node : FileNode} (hat : root.at? location = some node) :
    (root.without location).at? location = none := by
  induction location generalizing root with
  | nil => exact absurd rfl hlocation
  | cons name location ih =>
      obtain ⟨entries, child, rfl, hchild, hrest⟩ := exists_child hat
      cases location with
      | nil => simp only [without, at?, entry_filter_self]
      | cons next location =>
          rw [without_directory_cons hchild (by simp), at?_directory_cons (entry_setEntry_self _ _ _)]
          exact ih (by simp) hrest

/-- Away from a file that is taken out there is the node that was there, except that directories may have other
entries. -/
theorem at?_without_of_ne {bytes : ByteArray} (hat : root.at? location = some (.file bytes))
    (hother : other ≠ location) :
    (root.without location).at? other = root.at? other ∨
      ∃ entries entries', root.at? other = some (.directory entries) ∧
        (root.without location).at? other = some (.directory entries') := by
  induction location generalizing root other with
  | nil =>
      left
      cases root <;> rfl
  | cons name location ih =>
      obtain ⟨entries, child, rfl, hchild, hrest⟩ := exists_child hat
      cases location with
      | nil =>
          rw [at?_nil, Option.some.injEq] at hrest
          subst hrest
          cases other with
          | nil => exact .inr ⟨entries, _, rfl, rfl⟩
          | cons first other =>
              left
              by_cases hfirst : first = name
              · subst hfirst
                cases other with
                | nil => exact absurd rfl hother
                | cons second other => simp only [without, at?, entry_filter_self, hchild]
              · simp only [without, at?, entry_filter_of_ne hfirst]
      | cons next location =>
          rw [without_directory_cons hchild (by simp)]
          cases other with
          | nil => exact .inr ⟨entries, _, rfl, rfl⟩
          | cons first other =>
              by_cases hfirst : first = name
              · subst hfirst
                rw [at?_directory_cons (entry_setEntry_self _ _ _), at?_directory_cons hchild]
                exact ih hrest fun heq => hother (by rw [heq])
              · left
                simp only [at?, entry_setEntry_of_ne hfirst]

end FileNode

namespace FileTree

open FileNode

/-! ## Paths that lead to a file -/

/-- Every path has a step other than the one to the root. -/
theorem exists_step (path : String) : ∃ step ∈ steps path, step ≠ .root := by
  rw [steps_eq_stepsInto]
  rcases List.eq_nil_or_concat (path.toList.splitOn '/') with hnil | ⟨pieces, last, hpieces⟩
  · exact absurd hnil (List.splitOn_ne_nil _ _)
  · rw [List.concat_eq_append] at hpieces
    by_cases hlast : last = []
    · exact ⟨.here, by simp [hpieces, hlast], by simp⟩
    · obtain ⟨step, hstep, hroot⟩ : ∃ step, stepOf? last = some step ∧ step ≠ .root := by
        by_cases hhere : last = ['.']
        · exact ⟨.here, by simp [stepOf?, hhere], by simp⟩
        · by_cases hup : last = ['.', '.']
          · exact ⟨.up, by simp [stepOf?, Path.componentOf?, hup], by simp⟩
          · exact ⟨.name (String.ofList last), by simp [stepOf?, Path.componentOf?, hlast, hhere, hup], by simp⟩
      exact ⟨step, by simp [stepsInto, hpieces, List.filterMap_append, hstep], hroot⟩

/-- From what is no directory no path leads anywhere. -/
theorem takeSteps_error {root : FileNode} (hroot : ∀ entries, root.at? [] ≠ some (.directory entries)) {last : Bool}
    {onLink : Location → List Path.Component → Arrival} {steps : List Path.Component}
    (hsteps : ∃ step ∈ steps, step ≠ .root) : ∃ error, takeSteps root last onLink [] steps = .error error := by
  induction steps with
  | nil => simp at hsteps
  | cons step steps ih =>
      by_cases hstep : step = .root
      · subst hstep
        rw [takeSteps]
        exact ih (by simpa using hsteps)
      · have hstart : ∀ entries, root.at? (List.reverse []) ≠ some (.directory entries) := hroot
        obtain ⟨error, hstuck⟩ := takeSteps_stuck root hstep hstart
        exact ⟨error, hstuck last onLink steps⟩

/-- No path leads to a file at the root. -/
theorem location_ne_nil {tree : FileTree} {last : Bool} {path : String} {location : Location} {bytes : ByteArray}
    (hlocate : tree.locate last path = .ok (location, some (.file bytes))) : location ≠ [] := by
  rintro rfl
  have hroot : ∀ entries, tree.root.at? [] ≠ some (.directory entries) := by simp [locate_at? hlocate]
  obtain ⟨onLink, hfollow⟩ := follow_eq_takeSteps tree.root last linkLimit
  obtain ⟨error, herror⟩ := takeSteps_error hroot (exists_step _)
  rw [locate_eq_follow (ne_empty_of_locate hlocate), hfollow, herror] at hlocate
  cases hlocate

/-! ## Trees -/

/-- A tree without what stands at a location. -/
def without (tree : FileTree) (location : Location) : FileTree :=
  { tree with root := tree.root.without location }

section Without

variable {tree : FileTree} {location : Location} {bytes : ByteArray} (hne : location ≠ [])
  (hat : tree.root.at? location = some (.file bytes))

include hne hat

theorem gone : (tree.without location).root.at? location = none :=
  at?_without_self hne hat

theorem directory_without_iff (other : Location) :
    (∃ entries, (tree.without location).root.at? other = some (.directory entries)) ↔
      ∃ entries, tree.root.at? other = some (.directory entries) := by
  by_cases hother : other = location
  · subst hother
    simp [gone hne hat, hat]
  · rcases at?_without_of_ne hat hother with hsame | ⟨entries, entries', hroot, hwithout⟩
    · rw [without, hsame]
    · exact ⟨fun _ => ⟨entries, hroot⟩, fun _ => ⟨entries', hwithout⟩⟩

/-- Of what is no directory only the file is gone. -/
theorem at?_without_iff {node : FileNode} (hnode : ∀ entries, node ≠ .directory entries) (other : Location) :
    (tree.without location).root.at? other = some node ↔ tree.root.at? other = some node ∧ other ≠ location := by
  by_cases hother : other = location
  · subst hother
    simp [gone hne hat]
  · rcases at?_without_of_ne hat hother with hsame | ⟨entries, entries', hroot, hwithout⟩
    · simp [without, hsame, hother]
    · simp [without, hroot, hwithout, (hnode _).symm]

theorem retains_without : Retains tree (tree.without location) where
  directory hdirectory := (directory_without_iff hne hat _).2 ⟨_, hdirectory⟩
  link_iff other target := by
    rw [at?_without_iff hne hat (by simp), and_iff_left_iff_imp]
    rintro hlink rfl
    rw [hat] at hlink
    cases hlink
  workingDirectory := rfl

theorem retains_of_without : Retains (tree.without location) tree where
  directory hdirectory := (directory_without_iff hne hat _).1 ⟨_, hdirectory⟩
  link_iff other target := ((retains_without hne hat).link_iff other target).symm
  workingDirectory := rfl

end Without

/-! ## Reading without the file -/

section Reading

variable {tree : FileTree} {location : Location} {bytes : ByteArray}

theorem isDirectory_iff {path : String} :
    tree.isDirectory path = true ↔
      ∃ place entries, tree.locate true path = .ok (place, some (.directory entries)) := by
  constructor
  · intro hdirectory
    obtain ⟨entries, hfind⟩ := find_of_isDirectory hdirectory
    obtain ⟨place, hlocate⟩ := locate_of_find hfind
    exact ⟨place, entries, hlocate⟩
  · rintro ⟨place, entries, hlocate⟩
    rw [isDirectory, find, hlocate]

theorem isFile_iff {path : String} : tree.isFile path = true ↔ ∃ held, tree.read path = .ok held := by
  rw [isFile, read]
  cases tree.find path with
  | error e => simp
  | ok node => cases node <;> simp

variable (hne : location ≠ []) (hat : tree.root.at? location = some (.file bytes))

include hne hat

/-- The same paths lead to directories. -/
theorem isDirectory_without_iff (path : String) :
    (tree.without location).isDirectory path = true ↔ tree.isDirectory path = true := by
  rw [isDirectory_iff, isDirectory_iff]
  constructor
  · rintro ⟨place, entries, hlocate⟩
    obtain ⟨entries', hdirectory⟩ := (directory_without_iff hne hat place).1 ⟨entries, locate_at? hlocate⟩
    exact ⟨place, entries', by rw [(retains_of_without hne hat).locate hlocate, hdirectory]⟩
  · rintro ⟨place, entries, hlocate⟩
    obtain ⟨entries', hdirectory⟩ := (directory_without_iff hne hat place).2 ⟨entries, locate_at? hlocate⟩
    exact ⟨place, entries', by rw [(retains_without hne hat).locate hlocate, hdirectory]⟩

/-- The same paths lead to files, but for those that led to the file. -/
theorem read_without_iff {path : String} {held : ByteArray} :
    (tree.without location).read path = .ok held ↔
      tree.read path = .ok held ∧ ∀ node?, tree.locate true path ≠ .ok (location, node?) := by
  rw [read_eq_ok_iff, read_eq_ok_iff]
  constructor
  · rintro ⟨place, hlocate⟩
    obtain ⟨hheld, hplace⟩ := (at?_without_iff hne hat (by simp) place).1 (locate_at? hlocate)
    have hback := (retains_of_without hne hat).locate hlocate
    rw [hheld] at hback
    refine ⟨⟨place, hback⟩, fun node? heq => hplace ?_⟩
    rw [hback] at heq
    cases heq
    rfl
  · rintro ⟨⟨place, hlocate⟩, helsewhere⟩
    have hplace : place ≠ location := by
      rintro rfl
      exact helsewhere _ hlocate
    have hheld := (at?_without_iff hne hat (by simp) place).2 ⟨locate_at? hlocate, hplace⟩
    exact ⟨place, by rw [(retains_without hne hat).locate hlocate, hheld]⟩

end Reading

end FileTree

end ReleasePress
