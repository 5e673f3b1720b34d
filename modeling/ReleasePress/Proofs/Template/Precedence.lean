import ReleasePress.Proofs.Template.Resolve

/-! # The order of the search

A name that asks for a template which the program brings along gets it, whatever the search roots hold. Any other
name is looked up under the search roots in their order, and the first root with a directory or a file of the name
decides. `Template.Finds` says this without the search itself, and `Template.finds_iff` that the search does
nothing else. -/

namespace ReleasePress.Template

open ReleasePress.Text

/-! ## Names that ask for a brought-along template -/

/-- A name with a segment `base` in its last part, and the name without it. The last part is what stands after the
last slash; between its dots it has segments, of which the first is its stem, or the first two if it starts with
a dot. A segment of the stem does not count. -/
def CarriesBase (name base : String) : Prop :=
  ∃ (front fileName : List Char) (stem before after : List (List Char)),
    (front = [] ∨ front.getLast? = some '/') ∧ '/' ∉ fileName ∧ name.toList = front ++ fileName ∧
      fileName.splitOn '.' = stem ++ (before ++ "base".toList :: after) ∧
      stem.length = (if stem.head? = some [] then 2 else 1) ∧
      base.toList = front ++ ['.'].intercalate (stem ++ (before ++ after))

/-- A marker goes from what stands after the last slash. -/
theorem stripInPath?_front {front fileName marker : List Char} (hfront : front = [] ∨ front.getLast? = some '/')
    (hslash : '/' ∉ fileName) :
    stripInPath? marker (front ++ fileName) =
      (stripMarker? marker fileName).map fun stripped => front ++ stripped := by
  rcases hfront with rfl | hlast
  · rw [List.nil_append, stripInPath?, cutLastAt?_eq_none_iff.2 hslash]
    simp
  · obtain ⟨parent, rfl⟩ := List.getLast?_eq_some_iff.1 hlast
    rw [List.append_assoc, List.singleton_append, stripInPath?_append hslash]
    simp

theorem exists_front (name : List Char) :
    ∃ front fileName, (front = [] ∨ front.getLast? = some '/') ∧ '/' ∉ fileName ∧ name = front ++ fileName := by
  cases hcut : cutLastAt? '/' name with
  | none => exact ⟨[], name, .inl rfl, cutLastAt?_eq_none_iff.1 hcut, rfl⟩
  | some cut =>
      obtain ⟨parent, fileName⟩ := cut
      obtain ⟨rfl, hslash⟩ := cutLastAt?_eq_some_iff.1 hcut
      exact ⟨parent ++ ['/'], fileName, .inr (by simp), hslash, by simp⟩

/-- The last segment `base` is one of those that a name carries. -/
theorem carriesBase_of_baseName? {name base : String} (hbase : baseName? name = some base) :
    CarriesBase name base := by
  obtain ⟨front, fileName, hfront, hslash, hname⟩ := exists_front name.toList
  obtain ⟨stripped', hstrip, rfl⟩ := Option.map_eq_some_iff.1 hbase
  rw [hname, stripInPath?_front hfront hslash, Option.map_eq_some_iff] at hstrip
  obtain ⟨stripped, hstripped, rfl⟩ := hstrip
  obtain ⟨stem, before, after, hsegments, hlength, -, rfl⟩ := stripMarker?_eq_some_iff.1 hstripped
  refine ⟨front, fileName, stem, before, after, hfront, hslash, hname, hsegments, ?_, String.toList_ofList⟩
  have hne : stem ≠ [] := by
    rintro rfl
    rw [stemLength_eq] at hlength
    split at hlength <;> cases hlength
  rw [hlength, stemLength_eq, hsegments, List.head?_append_of_ne_nil stem hne]

/-- What a path ends in is its file name, unless it is a run of at most two dots. -/
theorem fileName?_front {front stripped : List Char} (hfront : front = [] ∨ front.getLast? = some '/')
    (hslash : '/' ∉ stripped) (hempty : stripped ≠ []) (hdot : stripped ≠ ['.']) (hdots : stripped ≠ ['.', '.']) :
    Path.fileName? (String.ofList (front ++ stripped)) = some (String.ofList stripped) := by
  have hpieces : Path.ofPieces stripped = [.name (String.ofList stripped)] := by
    rw [Path.ofPieces, List.splitOn_eq_singleton hslash]
    simp [Path.componentOf?, hempty, hdot, hdots]
  have hcomponents : ∃ others, Path.components (String.ofList (front ++ stripped)) =
      others ++ [.name (String.ofList stripped)] := by
    rw [Path.components_eq, String.toList_ofList]
    rcases hfront with rfl | hlast
    · exact ⟨_, by rw [List.nil_append, hpieces]⟩
    · obtain ⟨parent, rfl⟩ := List.getLast?_eq_some_iff.1 hlast
      rw [List.append_assoc, List.singleton_append, Path.ofPieces_append, hpieces, ← List.append_assoc]
      exact ⟨_, rfl⟩
  obtain ⟨others, hcomponents⟩ := hcomponents
  rw [Path.fileName?, hcomponents, List.getLast?_concat]

theorem fileName?_known : ∀ known ∈ Builtin.templates.map Prod.fst,
    Path.fileName? known = some known ∧ "base".toList ∉ known.toList.splitOn '.' := by
  decide +kernel

/-- No brought-along template has a segment `base`, so a name that gets one carried the segment once. -/
theorem not_builtin_of_mem {front stripped : List Char} {contents : String}
    (hfront : front = [] ∨ front.getLast? = some '/') (hslash : '/' ∉ stripped)
    (hbase : "base".toList ∈ stripped.splitOn '.') :
    Builtin.text? (String.ofList (front ++ stripped)) ≠ some contents := by
  intro htext
  obtain ⟨known, hknown, hcomponents⟩ := exists_known_of_builtin htext
  obtain ⟨hfileName, hplain⟩ := fileName?_known known hknown
  have hsame : Path.fileName? (String.ofList (front ++ stripped)) = some known := by
    rw [← hfileName, Path.fileName?, Path.fileName?, hcomponents]
  have hne (dots : List Char) (hdots : "base".toList ∉ dots.splitOn '.') : stripped ≠ dots := by
    rintro rfl
    exact hdots hbase
  rw [fileName?_front hfront hslash (hne [] (by decide)) (hne ['.'] (by decide)) (hne ['.', '.'] (by decide)),
    Option.some.injEq] at hsame
  rw [← hsame, String.toList_ofList] at hplain
  exact hplain hbase

/-- A name gets a brought-along template exactly if it carries a segment without which it names one. -/
theorem builtin_iff {name base contents : String} :
    (baseName? name = some base ∧ Builtin.text? base = some contents) ↔
      CarriesBase name base ∧ Builtin.text? base = some contents := by
  constructor
  · rintro ⟨hbase, htext⟩
    exact ⟨carriesBase_of_baseName? hbase, htext⟩
  · rintro ⟨⟨front, fileName, stem, before, after, hfront, hslash, hname, hsegments, hlength, hbase⟩, htext⟩
    refine ⟨?_, htext⟩
    have hne : stem ≠ [] := by
      rintro rfl
      cases hlength
    have hsegment : ∀ segment ∈ stem ++ (before ++ after), segment ∈ fileName.splitOn '.' := by
      intro segment hsegment
      rw [hsegments]
      simp only [List.mem_append, List.mem_cons] at hsegment ⊢
      tauto
    have hsplit : (['.'].intercalate (stem ++ (before ++ after))).splitOn '.' = stem ++ (before ++ after) := by
      refine List.splitOn_intercalate '.' (fun segment hmem hdot => ?_) (by simp [hne])
      exact (mem_of_mem_splitOn (hsegment segment hmem) hdot).2 rfl
    -- a second segment `base` would be left over in the name of the template
    have hafter : "base".toList ∉ after := by
      intro hmem
      have hslash' : '/' ∉ ['.'].intercalate (stem ++ (before ++ after)) := by
        intro hmem'
        rcases mem_intercalate hmem' with hdot | ⟨segment, hsegment', hmem'⟩
        · simp at hdot
        · exact hslash (mem_of_mem_splitOn (hsegment segment hsegment') hmem').1
      have hbase' : "base".toList ∈ (['.'].intercalate (stem ++ (before ++ after))).splitOn '.' := by
        rw [hsplit]
        exact List.mem_append_right _ (List.mem_append_right _ hmem)
      rw [← String.ofList_toList (s := base), hbase] at htext
      exact not_builtin_of_mem hfront hslash' hbase' htext
    have hstripped : stripMarker? baseMarker fileName = some (['.'].intercalate (stem ++ (before ++ after))) := by
      refine stripMarker?_eq_some_iff.2 ⟨stem, before, after, hsegments, ?_, hafter, rfl⟩
      rw [hlength, stemLength_eq, hsegments, List.head?_append_of_ne_nil stem hne]
    rw [baseName?, hname, stripInPath?_front hfront hslash, hstripped, Option.map_some, Option.map_some, ← hbase,
      String.ofList_toList]

/-! ## Finding a template -/

/-- A directory or a file is at a path. -/
def IsThere (files : FileTree) (path : String) : Prop :=
  files.isDirectory path = true ∨ files.isFile path = true

/-- What a name finds: a brought-along template if it asks for one, else what the first root has that has
anything under the name. If no root has, the roots are listed as they were searched. -/
inductive Finds (files : FileTree) (roots : List String) (name : String) :
    Except TemplateError TemplateSource → Prop
  | builtin {base contents : String} (hbase : CarriesBase name base)
      (htext : Builtin.text? base = some contents) : Finds files roots name (.ok (.builtin base contents))
  | directory {before after : List String} {root : String}
      (hplain : ∀ base, CarriesBase name base → Builtin.text? base = none)
      (hroots : roots = before ++ root :: after)
      (hbefore : ∀ other ∈ before, ¬IsThere files (Path.join other name))
      (hdirectory : files.isDirectory (Path.join root name) = true) :
      Finds files roots name (.ok (.directory (Path.join root name)))
  | file {before after : List String} {root : String}
      (hplain : ∀ base, CarriesBase name base → Builtin.text? base = none)
      (hroots : roots = before ++ root :: after)
      (hbefore : ∀ other ∈ before, ¬IsThere files (Path.join other name))
      (hfile : files.isFile (Path.join root name) = true) :
      Finds files roots name (.ok (.file (Path.join root name)))
  | nowhere (hplain : ∀ base, CarriesBase name base → Builtin.text? base = none)
      (hroots : ∀ root ∈ roots, ¬IsThere files (Path.join root name)) :
      Finds files roots name (.error (.notFound name roots))

section Finds

variable {files : FileTree} {roots : List String} {name : String} {found : Except TemplateError TemplateSource}

theorem foundAt?_eq_none_iff {root : String} :
    foundAt? files name root = none ↔ ¬IsThere files (Path.join root name) := by
  rw [foundAt?, IsThere]
  split
  · next hdirectory => simp [hdirectory]
  · next hdirectory =>
      split
      · next hfile => simp [hfile]
      · next hfile => simp [hdirectory, hfile]

theorem foundAt?_eq_file {root : String} (hfile : files.isFile (Path.join root name) = true) :
    foundAt? files name root = some (.file (Path.join root name)) := by
  have hdirectory : files.isDirectory (Path.join root name) = false := by
    rw [FileTree.isFile] at hfile
    rw [FileTree.isDirectory]
    split at hfile
    · next bytes hfind => rw [hfind]
    · cases hfile
  simp [foundAt?, hdirectory, hfile]

theorem not_builtin_of_plain (hplain : ∀ base, CarriesBase name base → Builtin.text? base = none) :
    ((baseName? name).bind fun base => (Builtin.text? base).map (base, ·)) = none := by
  rw [Option.bind_eq_none_iff]
  intro base hbase
  rw [hplain base (carriesBase_of_baseName? hbase), Option.map_none]

/-- What a name finds is what the search gives. -/
theorem Finds.resolve_eq (hfinds : Finds files roots name found) : resolve files roots name = found := by
  cases hfinds with
  | builtin hbase htext =>
      obtain ⟨hname, -⟩ := builtin_iff.2 ⟨hbase, htext⟩
      rw [resolve, hname, Option.bind_some, htext]
      rfl
  | @directory before after root hplain hroots hbefore hdirectory =>
      have hfirst : roots.findSome? (foundAt? files name) = some (.directory (Path.join root name)) :=
        List.findSome?_eq_some_iff.2 ⟨before, root, after, hroots,
          foundAt?_eq_directory_iff.2 ⟨rfl, hdirectory⟩,
          fun other hother => foundAt?_eq_none_iff.2 (hbefore other hother)⟩
      rw [resolve_of_not_builtin (not_builtin_of_plain hplain), hfirst]
  | @file before after root hplain hroots hbefore hfile =>
      have hfirst : roots.findSome? (foundAt? files name) = some (.file (Path.join root name)) :=
        List.findSome?_eq_some_iff.2 ⟨before, root, after, hroots, foundAt?_eq_file hfile,
          fun other hother => foundAt?_eq_none_iff.2 (hbefore other hother)⟩
      rw [resolve_of_not_builtin (not_builtin_of_plain hplain), hfirst]
  | nowhere hplain hroots =>
      have hnone : roots.findSome? (foundAt? files name) = none :=
        List.findSome?_eq_none_iff.2 fun root hroot => foundAt?_eq_none_iff.2 (hroots root hroot)
      rw [resolve_of_not_builtin (not_builtin_of_plain hplain), hnone]

/-- The search finds something for every name. -/
theorem finds_resolve (files : FileTree) (roots : List String) (name : String) :
    Finds files roots name (resolve files roots name) := by
  by_cases hplain : ∀ base, CarriesBase name base → Builtin.text? base = none
  · rw [resolve_of_not_builtin (not_builtin_of_plain hplain)]
    cases hfirst : roots.findSome? (foundAt? files name) with
    | none =>
        exact .nowhere hplain fun root hroot =>
          foundAt?_eq_none_iff.1 (List.findSome?_eq_none_iff.1 hfirst root hroot)
    | some source =>
        obtain ⟨before, root, after, hroots, hroot, hbefore⟩ := List.findSome?_eq_some_iff.1 hfirst
        have hbefore' : ∀ other ∈ before, ¬IsThere files (Path.join other name) :=
          fun other hother => foundAt?_eq_none_iff.1 (hbefore other hother)
        rw [foundAt?] at hroot
        split at hroot
        · next hdirectory =>
            obtain rfl := Option.some.inj hroot
            exact .directory hplain hroots hbefore' hdirectory
        · split at hroot
          · next hfile =>
              obtain rfl := Option.some.inj hroot
              exact .file hplain hroots hbefore' hfile
          · cases hroot
  · push Not at hplain
    obtain ⟨base, hbase, htext⟩ := hplain
    obtain ⟨contents, hcontents⟩ := Option.ne_none_iff_exists'.1 htext
    have hfinds : Finds files roots name (.ok (.builtin base contents)) := .builtin hbase hcontents
    rw [hfinds.resolve_eq]
    exact hfinds

/-- The search finds what `Finds` says, and nothing else. -/
theorem finds_iff : Finds files roots name found ↔ found = resolve files roots name := by
  constructor
  · intro hfinds
    exact hfinds.resolve_eq.symm
  · rintro rfl
    exact finds_resolve files roots name

end Finds

end ReleasePress.Template
