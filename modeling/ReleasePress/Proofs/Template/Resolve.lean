import ReleasePress.Proofs.Files.Descent
import ReleasePress.Proofs.Files.Write
import ReleasePress.Proofs.Template.Entries

/-! # Finding a template below another one

A name that leads below the directory of a template is looked up anew: among the templates that the program
brings along, and then under all search roots. It is found in the root of the directory nevertheless
(`Template.resolve_below`), because a root without the directory has nothing below it, and the names of the
brought-along templates have one part only. -/

namespace ReleasePress.Template

open ReleasePress.Text

/-! ## Names with a parent -/

section Parent

variable {parent fileName name : String} {marker : List Char}

theorem stripInPath?_append {parent fileName : List Char} (hslash : '/' ∉ fileName) :
    stripInPath? marker (parent ++ '/' :: fileName) =
      (stripMarker? marker fileName).map fun stripped => parent ++ '/' :: stripped := by
  rw [stripInPath?, cutLastAt?_eq_some_iff.2 ⟨rfl, hslash⟩]

/-- Only the last part of a name loses the mark of templates. -/
theorem outputKey_append (hslash : '/' ∉ fileName.toList) (hmark : LosesMark fileName name) :
    outputKey (parent ++ "/" ++ fileName) = parent ++ "/" ++ name := by
  have htext : (parent ++ "/" ++ fileName).toList = parent.toList ++ '/' :: fileName.toList := by simp
  rw [outputKey, htext, stripInPath?_append hslash, losesMark_iff.1 hmark, Option.map_some,
    ← String.toList_inj, String.toList_ofList]
  simp

theorem lastSegment_append (hslash : '/' ∉ name.toList) : lastSegment (parent ++ "/" ++ name) = name := by
  have hpieces : (parent ++ "/" ++ name).toList.splitOn '/' =
      parent.toList.splitOn '/' ++ [name.toList] := by
    have htext : (parent ++ "/" ++ name).toList = parent.toList ++ '/' :: name.toList := by simp
    rw [htext, splitOn_eq_of_not_mem hslash]
  rw [lastSegment_of_splitOn hpieces, String.ofList_toList]

theorem lastSegment_intercalate {around : Location} (haround : ∀ part ∈ around, '/' ∉ part.toList)
    (hslash : '/' ∉ name.toList) : lastSegment ("/".intercalate (around ++ [name])) = name := by
  have hpieces : ("/".intercalate (around ++ [name])).toList.splitOn '/' =
      around.map String.toList ++ [name.toList] := by
    rw [Path.splitOn_intercalate (by simp), List.map_append, List.map_singleton]
    intro part hpart
    rcases List.mem_append.1 hpart with hpart | hpart
    · exact haround part hpart
    · rwa [List.mem_singleton.1 hpart]
  rw [lastSegment_of_splitOn hpieces, String.ofList_toList]

theorem LosesMark.not_slash_mem (hmark : LosesMark fileName name) (hname : IsEntryName fileName) :
    '/' ∉ name.toList :=
  not_mem_stripMarker? (by decide) (losesMark_iff.1 hmark) hname.noSlash

/-- What stands before the last part of a path below a directory. -/
theorem exists_parent (directory : String) (hdirectory : directory ≠ "") (around : Location) :
    ∃ parent, parent ≠ "" ∧ ∀ name,
      directory ++ "/" ++ "/".intercalate (around ++ [name]) = parent ++ "/" ++ name := by
  cases around with
  | nil => exact ⟨directory, hdirectory, fun name => by simp⟩
  | cons first around =>
      refine ⟨directory ++ "/" ++ "/".intercalate (first :: around), by simp, fun name => ?_⟩
      rw [String.intercalate_append_of_ne_nil (by simp) (by simp), String.intercalate_singleton]
      simp only [String.append_assoc]

end Parent

/-! ## Templates that the program brings along -/

/-- The brought-along templates are known by paths of one part. -/
theorem exists_known_of_builtin {name contents : String} (htext : Builtin.text? name = some contents) :
    ∃ known ∈ Builtin.templates.map Prod.fst, Path.components name = Path.components known := by
  obtain ⟨⟨known, text⟩, hfind, -⟩ := Option.map_eq_some_iff.1 htext
  have hsame : Path.components known = Path.components name := by
    simpa using List.find?_some hfind
  exact ⟨known, List.mem_map_of_mem (List.mem_of_find?_eq_some hfind), hsame.symm⟩

theorem components_of_builtin {name contents : String} (htext : Builtin.text? name = some contents) :
    ∃ known, Path.components name = [.name known] := by
  obtain ⟨known, hknown, hsame⟩ := exists_known_of_builtin htext
  rw [hsame]
  simp only [Builtin.templates, List.map_cons, List.map_nil, List.mem_cons, List.not_mem_nil,
    or_false] at hknown
  rcases hknown with rfl | rfl
  · exact ⟨_, rfl⟩
  · exact ⟨_, rfl⟩

/-- A name with a mark of templates is not just a dot without the segment that asks for a brought-along
template. -/
theorem ne_dot_of_templateMarker {fileName stripped stripped' : List Char}
    (htemplate : stripMarker? templateMarker fileName = some stripped')
    (hbase : stripMarker? baseMarker fileName = some stripped) : stripped ≠ ['.'] := by
  rintro rfl
  obtain ⟨before, after, hparts, rfl⟩ := eq_of_stripMarker?_hidden hbase rfl
  obtain ⟨rfl, rfl⟩ := List.append_eq_nil_iff.1 hparts
  cases htemplate

/-- No brought-along template is found for a marked name below a directory. -/
theorem not_builtin_of_parent {parent fileName name : String} (hparent : parent ≠ "")
    (hslash : '/' ∉ fileName.toList) (hmark : LosesMark fileName name) :
    ((baseName? (parent ++ "/" ++ fileName)).bind fun base => (Builtin.text? base).map (base, ·)) = none := by
  rw [Option.bind_eq_none_iff]
  intro base hbase
  rw [Option.map_eq_none_iff, Option.eq_none_iff_forall_ne_some]
  intro contents htext
  obtain ⟨known, hcomponents⟩ := components_of_builtin htext
  have hchars : (parent ++ "/" ++ fileName).toList = parent.toList ++ '/' :: fileName.toList := by simp
  rw [baseName?, hchars, stripInPath?_append hslash] at hbase
  cases hstripped : stripMarker? baseMarker fileName.toList with
  | none =>
      rw [hstripped] at hbase
      cases hbase
  | some stripped =>
      rw [hstripped, Option.map_some, Option.map_some, Option.some.injEq] at hbase
      have hne : parent.toList ≠ [] := by simpa using hparent
      have hlast : Path.ofPieces stripped ≠ [] := by
        have hdot := ne_dot_of_templateMarker (losesMark_iff.1 hmark) hstripped
        have hempty : stripped ≠ [] := by
          rintro rfl
          exact stripMarker?_ne_nil hstripped
        rw [Path.ofPieces, List.splitOn_eq_singleton (not_mem_stripMarker? (by decide) hstripped hslash)]
        by_cases hup : stripped = ['.', '.']
        · simp [Path.componentOf?, hup]
        · simp [Path.componentOf?, hempty, hdot, hup]
      have hlength := congrArg List.length hcomponents
      rw [← hbase, Path.components_eq, String.toList_ofList, Path.start_append, if_neg hne,
        Path.ofPieces_append, ← List.append_assoc, ← Path.components_eq, List.length_append,
        List.length_singleton] at hlength
      have hfirst := List.length_pos_iff.2 (Path.components_ne_nil hparent)
      have hsecond := List.length_pos_iff.2 hlast
      omega

/-! ## Search roots -/

section Resolve

variable {files : FileTree} {roots : List String} {name root path : String}

/-- What a search root has under a name. -/
def foundAt? (files : FileTree) (name root : String) : Option TemplateSource :=
  if files.isDirectory (Path.join root name) then some (.directory (Path.join root name))
  else if files.isFile (Path.join root name) then some (.file (Path.join root name))
  else none

/-- What the search for a template says about the source that it finds. -/
theorem resolve_spec {source : TemplateSource} (hresolve : resolve files roots name = .ok source) :
    match source with
    | .builtin base contents => baseName? name = some base ∧ Builtin.text? base = some contents
    | .file path => files.isFile path = true
    | .directory path => files.isDirectory path = true := by
  simp only [resolve] at hresolve
  split at hresolve
  · next base contents hbuiltin =>
      obtain rfl := Except.ok.inj hresolve
      obtain ⟨base', hbase, htext⟩ := Option.bind_eq_some_iff.1 hbuiltin
      obtain ⟨contents', hcontents, hpair⟩ := Option.map_eq_some_iff.1 htext
      obtain ⟨rfl, rfl⟩ := Prod.mk.inj hpair
      exact ⟨hbase, hcontents⟩
  · split at hresolve
    · next found hfound =>
        obtain rfl := Except.ok.inj hresolve
        obtain ⟨root, -, hroot⟩ := List.exists_of_findSome?_eq_some hfound
        split at hroot
        · next hdirectory =>
            obtain rfl := Option.some.inj hroot
            exact hdirectory
        · split at hroot
          · next hfile =>
              obtain rfl := Option.some.inj hroot
              exact hfile
          · cases hroot
    · cases hresolve

theorem foundAt?_eq_directory_iff :
    foundAt? files name root = some (.directory path) ↔
      path = Path.join root name ∧ files.isDirectory path = true := by
  rw [foundAt?]
  split
  · next hdirectory =>
      simp only [Option.some.injEq, TemplateSource.directory.injEq]
      constructor
      · rintro rfl
        exact ⟨rfl, hdirectory⟩
      · rintro ⟨rfl, -⟩
        rfl
  · next hdirectory =>
      constructor
      · intro hfile
        split at hfile <;> cases hfile
      · rintro ⟨rfl, hdirectory'⟩
        exact absurd hdirectory' hdirectory

/-- A directory is found in the first root that has anything under the name. -/
theorem exists_root_of_resolve (hresolve : resolve files roots name = .ok (.directory path)) :
    ∃ before root after, roots = before ++ root :: after ∧ path = Path.join root name ∧
      files.isDirectory path = true ∧ ∀ other ∈ before, foundAt? files name other = none := by
  simp only [resolve] at hresolve
  split at hresolve
  · cases hresolve
  · split at hresolve
    · next found hfound =>
        obtain rfl := Except.ok.inj hresolve
        obtain ⟨before, root, after, rfl, hroot, hbefore⟩ := List.findSome?_eq_some_iff.1 hfound
        obtain ⟨rfl, hdirectory⟩ := foundAt?_eq_directory_iff.1 hroot
        exact ⟨before, root, after, rfl, rfl, hdirectory, hbefore⟩
    · cases hresolve

theorem resolve_of_not_builtin
    (hbuiltin : ((baseName? name).bind fun base => (Builtin.text? base).map (base, ·)) = none) :
    resolve files roots name =
      match roots.findSome? (foundAt? files name) with
      | some source => .ok source
      | none => .error (.notFound name roots) := by
  rw [resolve, hbuiltin]
  rfl

theorem exists_locate_of_foundAt? {source : TemplateSource} (hfound : foundAt? files name root = some source) :
    ∃ arrival, files.locate true (Path.join root name) = .ok arrival := by
  have hfind : ∃ node, files.find (Path.join root name) = .ok node := by
    rw [foundAt?] at hfound
    split at hfound
    · next hdirectory =>
        obtain ⟨entries, hfind⟩ := FileTree.find_of_isDirectory hdirectory
        exact ⟨_, hfind⟩
    · split at hfound
      · next hfile =>
          simp only [FileTree.isFile] at hfile
          split at hfile
          · next bytes hfind => exact ⟨_, hfind⟩
          · cases hfile
      · cases hfound
  obtain ⟨node, hfind⟩ := hfind
  obtain ⟨location, hlocate⟩ := FileTree.locate_of_find hfind
  exact ⟨_, hlocate⟩

/-- A marked file below the directory of a template is found by its own name, in the same search root. -/
theorem resolve_below {directory fileName : String} {around : Location}
    {entries : List (String × FileNode)} {bytes : ByteArray} (hname : name ≠ "")
    (hresolve : resolve files roots name = .ok (.directory directory))
    (hfind : files.find directory = .ok (.directory entries))
    (hnames : ∀ part ∈ around ++ [fileName], IsEntryName part)
    (hat : (FileNode.directory entries).at? (around ++ [fileName]) = some (.file bytes))
    {stripped : String} (hmark : LosesMark fileName stripped) :
    ∃ path, resolve files roots (name ++ "/" ++ "/".intercalate (around ++ [fileName])) = .ok (.file path) ∧
      files.read path = .ok bytes := by
  obtain ⟨before, root, after, rfl, rfl, -, hbefore⟩ := exists_root_of_resolve hresolve
  have hne : around ++ [fileName] ≠ [] := by simp
  -- under each root the longer name leads below what the shorter one leads to
  have hextends (root : String) : FileTree.Extends (Path.join root name) (around ++ [fileName])
      (Path.join root (name ++ "/" ++ "/".intercalate (around ++ [fileName]))) := by
    rw [String.append_assoc, Path.join_append hname, ← String.append_assoc]
    exact FileTree.extends_below (Path.join_ne_empty hname root) hne hnames
  obtain ⟨location, hlocate⟩ := FileTree.locate_of_find hfind
  have hlonger := FileTree.locate_names (hextends root) hne hlocate hat (by simp) true
  refine ⟨_, ?_, FileTree.read_eq_ok_iff.2 ⟨_, hlonger⟩⟩
  have hfound : (before ++ root :: after).findSome?
      (foundAt? files (name ++ "/" ++ "/".intercalate (around ++ [fileName]))) =
      some (.file (Path.join root (name ++ "/" ++ "/".intercalate (around ++ [fileName])))) := by
    refine List.findSome?_eq_some_iff.2 ⟨before, root, after, rfl, ?_, fun other hother => ?_⟩
    · simp [foundAt?, FileTree.isDirectory, FileTree.isFile, FileTree.find, hlonger]
    · rw [Option.eq_none_iff_forall_ne_some]
      intro source hsource
      obtain ⟨arrival, hlocate'⟩ := exists_locate_of_foundAt? hsource
      obtain ⟨location', entries', hdirectory⟩ := FileTree.exists_directory_of_extends (hextends other) hne
        (Path.join_ne_empty hname other) hlocate'
      have hisDirectory : files.isDirectory (Path.join other name) = true := by
        simp [FileTree.isDirectory, FileTree.find, hdirectory]
      have hnone := hbefore other hother
      rw [foundAt?, if_pos hisDirectory] at hnone
      cases hnone
  obtain ⟨parent, hparent, hpath⟩ := exists_parent name hname around
  have hslash := (hnames fileName (by simp)).noSlash
  rw [hpath] at hfound ⊢
  rw [resolve_of_not_builtin (not_builtin_of_parent hparent hslash hmark), hfound]

end Resolve

end ReleasePress.Template
