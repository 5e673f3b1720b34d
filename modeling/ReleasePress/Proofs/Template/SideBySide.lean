import ReleasePress.Proofs.Template.Entries

/-! # Keys side by side

All keys of a directory can be written below one other directory if the names between their slashes are
ordinary ones and no key leads to where another key needs a directory. The names of files have both
properties, but a name without its mark is a new one: it can be made of dots alone, and it can be the name
of a directory next to the file. `Template.walkDirectory_sideBySide_iff` says that nothing else can go
wrong. -/

namespace ReleasePress.Template

/-! ## Keys as paths -/

/-- The names between the slashes of a key. -/
def names (key : String) : List String :=
  (key.toList.splitOn '/').map String.ofList

theorem names_ne_nil (key : String) : names key ≠ [] := by
  simp [names, List.splitOn_ne_nil]

/-- A key is made of its names. -/
theorem intercalate_names (key : String) : "/".intercalate (names key) = key := by
  have hseparator : "/".toList = ['/'] := rfl
  have hpieces : (names key).map String.toList = key.toList.splitOn '/' := by simp [names, Function.comp_def]
  rw [← String.toList_inj, String.toList_intercalate, hseparator, hpieces, List.intercalate_splitOn]

theorem names_injective : Function.Injective names :=
  Function.LeftInverse.injective intercalate_names

/-- Keys that can be written side by side: between slashes stand names that a directory can hold, and no key
is the beginning of the path of another one. -/
structure SideBySide (keys : List String) : Prop where
  ordinary : ∀ key ∈ keys, ∀ name ∈ names key, IsEntryName name
  apart : ∀ key ∈ keys, ∀ key' ∈ keys, names key <+: names key' → key = key'

theorem names_keyAt {around : Location} {fileName : String} {bytes : ByteArray}
    (hnames : ∀ name ∈ around ++ [fileName], IsEntryName name) :
    names (keyAt (around ++ [fileName]) bytes) = around ++ [documentName fileName bytes] := by
  rw [names, splitOn_keyAt hnames, List.map_map]
  simp

theorem documentName_of_losesMark {fileName name contents : String} (hmark : LosesMark fileName name) :
    documentName fileName contents.toUTF8 = name := by
  have htext : String.fromUTF8? contents.toUTF8 = some contents := fromUTF8?_eq_some_iff.2 rfl
  rw [documentName_eq, htext, losesMark_iff.1 hmark]
  simp

/-- A file keeps its name unless it is a text that is marked as a template. -/
theorem documentName_cases (fileName : String) (bytes : ByteArray) :
    documentName fileName bytes = fileName ∨
      ∃ contents : String, bytes = contents.toUTF8 ∧
        LosesMark fileName (documentName fileName bytes) := by
  rw [documentName_eq]
  split
  · next htext =>
      obtain ⟨contents, htext⟩ := Option.isSome_iff_exists.1 htext
      cases hstripped : stripMarker? templateMarker fileName.toList with
      | none => exact .inl rfl
      | some stripped =>
          refine .inr ⟨contents, fromUTF8?_eq_some_iff.1 htext, ?_⟩
          rw [losesMark_iff, hstripped, Option.map_some, Option.getD_some, String.toList_ofList]
  · exact .inl rfl

/-- Without its mark a name is one that a directory can hold, unless dots are all that is left. -/
theorem LosesMark.isEntryName_iff {fileName name : String} (hmark : LosesMark fileName name)
    (hname : IsEntryName fileName) :
    IsEntryName name ↔ fileName ≠ "..template" ∧ ¬IsParentMark fileName := by
  have hstripped := losesMark_iff.1 hmark
  have hdot : name.toList = ['.'] ↔ fileName = "..template" := by
    rw [← String.toList_inj, ← stripMarker?_eq_dot_iff, hstripped, Option.some.injEq]
  have hdots : name.toList = ['.', '.'] ↔ IsParentMark fileName := by
    rw [← String.ofList_toList (s := fileName), isParentMark_ofList_iff, hstripped, Option.some.injEq]
  rw [← not_congr hdots, ne_eq, ← not_congr hdot]
  constructor
  · intro hentry
    exact ⟨hentry.ne_here, hentry.ne_up⟩
  · rintro ⟨hhere, hup⟩
    refine ⟨?_, not_mem_stripMarker? (by decide) hstripped hname.noSlash, hhere, hup⟩
    intro hempty
    rw [hempty] at hstripped
    exact stripMarker?_ne_nil hstripped

/-! ## Files and directories -/

/-- There is nothing below a file. -/
theorem HasFile.not_below {node : FileNode} {location rest : Location} {bytes bytes' : ByteArray}
    (hfile : HasFile node location bytes) (hdistinct : node.DistinctNames) (hrest : rest ≠ []) :
    ¬HasFile node (location ++ rest) bytes' := by
  intro hbelow
  have hat := hbelow.at? hdistinct
  rw [FileNode.at?_append, hfile.at? hdistinct, Option.bind_some] at hat
  cases rest with
  | nil => exact hrest rfl
  | cons name rest => cases hat

theorem HasFile.exists_concat {entries : List (String × FileNode)} {location : Location}
    {bytes : ByteArray} (hfile : HasFile (.directory entries) location bytes) :
    ∃ around fileName, location = around ++ [fileName] := by
  rcases location.eq_nil_or_concat with rfl | ⟨around, fileName, rfl⟩
  · exact absurd rfl hfile.ne_nil
  · exact ⟨around, fileName, by rw [List.concat_eq_append]⟩

/-- The texts of a directory that are marked as templates keep a name without their mark, and no directory
with a file in it stands in their way. -/
def KeepsApart (entries : List (String × FileNode)) : Prop :=
  ∀ around fileName name, ∀ contents : String,
    HasFile (.directory entries) (around ++ [fileName]) contents.toUTF8 → LosesMark fileName name →
    fileName ≠ "..template" ∧ ¬IsParentMark fileName ∧
      ∀ rest bytes, rest ≠ [] → ¬HasFile (.directory entries) (around ++ name :: rest) bytes

section Keys

variable {entries : List (String × FileNode)} {keys : List String}

theorem SideBySide.keepsApart (hsides : SideBySide keys) (hnamed : (FileNode.directory entries).WellNamed)
    (hkeys : ∀ location bytes, HasFile (.directory entries) location bytes →
      keyAt location bytes ∈ keys) : KeepsApart entries := by
  intro around fileName name contents hfile hmark
  have hnames := hfile.isEntryName hnamed
  have hkey : names (keyAt (around ++ [fileName]) contents.toUTF8) = around ++ [name] := by
    rw [names_keyAt hnames, documentName_of_losesMark hmark]
  have hmem := hkeys _ _ hfile
  have hentry : IsEntryName name := by
    refine hsides.ordinary _ hmem name ?_
    rw [hkey]
    simp
  obtain ⟨hdot, hdots⟩ := (hmark.isEntryName_iff (hnames fileName (by simp))).1 hentry
  refine ⟨hdot, hdots, fun rest bytes hrest hbelow => ?_⟩
  rcases rest.eq_nil_or_concat with rfl | ⟨front, last, rfl⟩
  · exact hrest rfl
  · have hlocation : around ++ name :: front.concat last = (around ++ name :: front) ++ [last] := by simp
    rw [hlocation] at hbelow
    have hkey' : names (keyAt ((around ++ name :: front) ++ [last]) bytes) =
        (around ++ name :: front) ++ [documentName last bytes] :=
      names_keyAt (hbelow.isEntryName hnamed)
    have hprefix : names (keyAt (around ++ [fileName]) contents.toUTF8) <+:
        names (keyAt ((around ++ name :: front) ++ [last]) bytes) := by
      rw [hkey, hkey']
      exact ⟨front ++ [documentName last bytes], by simp⟩
    have hsame := hsides.apart _ hmem _ (hkeys _ _ hbelow) hprefix
    rw [hsame, hkey'] at hkey
    have hlength := congrArg List.length hkey
    simp at hlength

theorem KeepsApart.sideBySide (hkeeps : KeepsApart entries)
    (hnamed : (FileNode.directory entries).WellNamed)
    (hdistinct : (FileNode.directory entries).DistinctNames)
    (hkeys : ∀ key ∈ keys, ∃ location bytes, HasFile (.directory entries) location bytes ∧
      key = keyAt location bytes) : SideBySide keys := by
  refine ⟨fun key hkey name hname => ?_, fun key hkey key' hkey' hprefix => ?_⟩
  · obtain ⟨location, bytes, hfile, rfl⟩ := hkeys key hkey
    obtain ⟨around, fileName, rfl⟩ := hfile.exists_concat
    have hnames := hfile.isEntryName hnamed
    rw [names_keyAt hnames] at hname
    rcases List.mem_append.1 hname with haround | hlast
    · exact hnames name (by simp [haround])
    · obtain rfl := List.mem_singleton.1 hlast
      rcases documentName_cases fileName bytes with hsame | ⟨contents, rfl, hmark⟩
      · rw [hsame]
        exact hnames fileName (by simp)
      · obtain ⟨hdot, hdots, -⟩ := hkeeps _ _ _ _ hfile hmark
        exact (hmark.isEntryName_iff (hnames fileName (by simp))).2 ⟨hdot, hdots⟩
  · obtain ⟨location, bytes, hfile, rfl⟩ := hkeys key hkey
    obtain ⟨location', bytes', hfile', rfl⟩ := hkeys key' hkey'
    obtain ⟨around, fileName, rfl⟩ := hfile.exists_concat
    obtain ⟨around', fileName', rfl⟩ := hfile'.exists_concat
    rw [names_keyAt (hfile.isEntryName hnamed), names_keyAt (hfile'.isEntryName hnamed)] at hprefix
    rcases List.prefix_concat_iff.1 hprefix with hsame | hbelow
    · rw [keyAt_concat, keyAt_concat, hsame]
    · -- the document of the first file lies where the second file needs a directory
      obtain ⟨rest, rfl⟩ := hbelow
      exfalso
      have hrest : rest ++ [fileName'] ≠ [] := by simp
      rcases documentName_cases fileName bytes with hsame | ⟨contents, rfl, hmark⟩
      · rw [hsame, List.append_assoc] at hfile'
        exact hfile.not_below hdistinct hrest hfile'
      · rw [List.append_assoc, List.append_assoc] at hfile'
        exact (hkeeps _ _ _ _ hfile hmark).2.2 _ bytes' hrest hfile'

end Keys

/-- The keys of a directory can be written side by side exactly if no text that is marked as a template has
only dots left of its name or the name of a directory next to it that holds a file. -/
theorem walkDirectory_sideBySide_iff {tree : FileTree} {root : String}
    {entries : List (String × FileNode)} (hfind : tree.find root = .ok (.directory entries))
    (hnamed : (FileNode.directory entries).WellNamed)
    (hdistinct : (FileNode.directory entries).DistinctNames) :
    ∃ loaded warnings, walkDirectory tree root = .ok (loaded, warnings) ∧
      (SideBySide (loaded.map Prod.fst) ↔ KeepsApart entries) := by
  obtain ⟨warnings, hwalk⟩ := walkDirectory_eq hfind
  refine ⟨_, _, hwalk, fun hsides => ?_, fun hkeeps => ?_⟩
  · refine hsides.keepsApart hnamed fun location bytes hfile => ?_
    exact (mem_keys_walkDirectory hfind hwalk).2 ⟨location, bytes, hfile, rfl⟩
  · refine hkeeps.sideBySide hnamed hdistinct fun key hkey => ?_
    exact (mem_keys_walkDirectory hfind hwalk).1 hkey

/-- A text that is `.` without its mark of templates. -/
def hiddenText : FileTree :=
  ⟨.directory [("..template", .file .empty)], "/"⟩

theorem walkDirectory_hiddenText :
    walkDirectory hiddenText "/" = .ok ([(".", .text "")], []) ∧ ¬SideBySide ["."] := by
  refine ⟨?_, fun hsides => ?_⟩
  · have hlink : hiddenText.findLink "/" = .ok (.directory [("..template", .file .empty)]) := rfl
    have hleaves : leaves (.directory [("..template", .file .empty)]) = [.file ["..template"] .empty] := by
      simp [leaves, groups, inOrder, Leaf.below]
    rw [walkDirectory, hlink]
    simp only [hleaves]
    rfl
  · exact (hsides.ordinary "." (by simp) "." (by decide)).ne_here rfl

/-- A text that without its mark has the name of a directory next to it. -/
def crowded : List (String × FileNode) :=
  [("notes.template", .file .empty), ("notes", .directory [("draft.md", .file .empty)])]

theorem walkDirectory_sideBySide_crowded :
    ∃ loaded warnings, walkDirectory ⟨.directory crowded, "/"⟩ "/" = .ok (loaded, warnings) ∧
      ¬SideBySide (loaded.map Prod.fst) := by
  have hfind : FileTree.find ⟨.directory crowded, "/"⟩ "/" = .ok (.directory crowded) := rfl
  obtain ⟨hnamed, hdistinct⟩ := FileNode.names_of_isSound (.directory crowded) (by decide)
  obtain ⟨loaded, warnings, hwalk, hiff⟩ := walkDirectory_sideBySide_iff hfind hnamed hdistinct
  refine ⟨loaded, warnings, hwalk, fun hsides => ?_⟩
  have htemplate : HasFile (.directory crowded) ([] ++ ["notes.template"]) "".toUTF8 :=
    .directory (by simp [crowded]) (.file _)
  have hinner : HasFile (.directory [("draft.md", .file .empty)]) ["draft.md"] .empty :=
    .directory (by simp) (.file _)
  have hdraft : HasFile (.directory crowded) ([] ++ "notes" :: ["draft.md"]) .empty :=
    .directory (by simp [crowded]) hinner
  have hmark : LosesMark "notes.template" "notes" := losesMark_iff.2 rfl
  exact (hiff.1 hsides _ _ _ _ htemplate hmark).2.2 _ _ (by simp) hdraft

end ReleasePress.Template
