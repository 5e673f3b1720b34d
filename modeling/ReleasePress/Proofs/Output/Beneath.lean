import Mathlib.Tactic.Common
import ReleasePress.Proofs.Environment
import ReleasePress.Proofs.Files.Path
import ReleasePress.Proofs.Template.Resolve

/-! # Where documents are written

A document is written under the output directory joined with its key. The key is the template's own name or,
for a directory, the location of a file in it, either without the mark of templates. A name can be absolute
or lead upwards, and a mark between dots can leave `..` behind, so a key can lead out of the output
directory; `Environment.renderTemplates_beneath_iff` says exactly when it does. -/

namespace ReleasePress

open ReleasePress.Text ReleasePress.Template

namespace Template

/-! ## Keys of the files of a directory -/

theorem componentOf?_of_isEntryName {name : String} (hname : IsEntryName name) :
    Path.componentOf? name.toList = some (.name name) := by
  simp [Path.componentOf?, hname.ne_nil, hname.ne_here, hname.ne_up]

theorem depthFrom_names {names : List String} (hnames : ∀ name ∈ names, IsEntryName name) (n : Nat) :
    Path.depthFrom n ((names.map String.toList).filterMap Path.componentOf?) =
      some (n + names.length) := by
  induction names generalizing n with
  | nil => rfl
  | cons name names ih =>
      rw [List.map_cons, List.filterMap_cons_some (componentOf?_of_isEntryName (hnames name (by simp))),
        Path.depthFrom, ih fun name hname => hnames name (by simp [hname])]
      simp only [List.length_cons]
      congr 1
      omega

theorem documentName_eq_dots_iff {fileName : String} (hname : IsEntryName fileName)
    (bytes : ByteArray) :
    (documentName fileName bytes).toList = ['.', '.'] ↔
      (String.fromUTF8? bytes).isSome ∧ IsParentMark fileName := by
  have hmark : IsParentMark fileName ↔
      stripMarker? templateMarker fileName.toList = some ['.', '.'] := by
    rw [← isParentMark_ofList_iff, String.ofList_toList]
  rw [documentName_eq, hmark]
  split
  · next htext =>
      cases hstripped : stripMarker? templateMarker fileName.toList with
      | none => simp [htext, hname.ne_up]
      | some stripped => simp [htext]
  · next htext => simp [htext, hname.ne_up]

/-- The key of a file below a directory leads out of it only if the file lies right in the directory and
is `..` without its mark. -/
theorem staysBeneath_keyAt_iff {around : Location} {fileName : String} {bytes : ByteArray}
    (hnames : ∀ name ∈ around ++ [fileName], IsEntryName name) :
    Path.StaysBeneath (keyAt (around ++ [fileName]) bytes) ↔
      (around = [] → (String.fromUTF8? bytes).isSome → ¬IsParentMark fileName) := by
  have hfile : IsEntryName fileName := hnames fileName (by simp)
  have haround : ∀ name ∈ around, IsEntryName name := fun name hname => hnames name (by simp [hname])
  have hpieces : (keyAt (around ++ [fileName]) bytes).toList.splitOn '/' =
      around.map String.toList ++ [(documentName fileName bytes).toList] := by
    rw [splitOn_keyAt hnames, List.map_append, List.map_singleton]
  have hhead : (around.map String.toList).head? ≠ some [] := by
    cases around with
    | nil => simp
    | cons first around => simpa using (haround first (by simp)).ne_nil
  rw [Path.staysBeneath_iff_of_splitOn hpieces, depthFrom_names haround,
    documentName_eq_dots_iff hfile]
  constructor
  · rintro ⟨-, n, hn, hclimb⟩ rfl htext hmark
    have hpositive := hclimb ⟨htext, hmark⟩
    obtain rfl := Option.some.inj hn
    simp at hpositive
  · intro hclimb
    refine ⟨hhead, _, rfl, ?_⟩
    rintro ⟨htext, hmark⟩
    cases around with
    | nil => exact absurd hmark (hclimb rfl htext)
    | cons first around => simp

/-! ## Keys of names -/

/-- The key of a name stays beneath the output directory if the name does and, where the mark leaves `..`
behind, leads down by one directory more. -/
theorem staysBeneath_outputKey_iff (name : String) :
    Path.StaysBeneath (outputKey name) ↔ Path.StaysBeneath name ∧
      (IsParentMark (lastSegment name) →
        ∃ n, Path.depthFrom 0 (Path.components name) = some (n + 2)) := by
  obtain ⟨front, last, hname, hkey⟩ := splitOn_outputKey name
  have hmark : IsParentMark (lastSegment name) ↔
      stripMarker? templateMarker last = some ['.', '.'] := by
    rw [lastSegment_of_splitOn hname, isParentMark_ofList_iff]
  rw [Path.staysBeneath_iff_of_splitOn hkey, Path.staysBeneath_iff_of_splitOn hname, hmark]
  cases hstripped : stripMarker? templateMarker last with
  | none => simp
  | some stripped =>
      obtain ⟨hempty, hhere, hup⟩ : last ≠ [] ∧ last ≠ ['.'] ∧ last ≠ ['.', '.'] := by
        refine ⟨?_, ?_, ?_⟩
        all_goals
          rintro rfl
          cases hstripped
      have hlast : Path.componentOf? last = some (.name (String.ofList last)) := by
        simp [Path.componentOf?, hempty, hhere, hup]
      simp only [Option.getD_some, Option.some.injEq, hup, false_implies, and_true]
      constructor
      · rintro ⟨hhead, n, hn, hclimb⟩
        refine ⟨⟨hhead, n, hn⟩, fun hdots => ?_⟩
        have hpositive := hclimb hdots
        rw [Path.depthFrom_components_of_splitOn hname hhead hlast, hn]
        exact ⟨n - 1, by simp; omega⟩
      · rintro ⟨⟨hhead, n, hn⟩, hclimb⟩
        refine ⟨hhead, n, hn, fun hdots => ?_⟩
        obtain ⟨m, hm⟩ := hclimb hdots
        rw [Path.depthFrom_components_of_splitOn hname hhead hlast, hn] at hm
        simp only [Option.map_some, Option.some.injEq] at hm
        omega

theorem staysBeneath_of_builtin {name contents : String} (htext : Builtin.text? name = some contents) :
    Path.StaysBeneath name := by
  obtain ⟨known, hcomponents⟩ := components_of_builtin htext
  exact ⟨1, by rw [hcomponents]; rfl⟩

/-- A name that asks for a brought-along template has a key beneath the output directory. -/
theorem staysBeneath_outputKey_of_builtin {name base contents : String}
    (hbase : baseName? name = some base) (htext : Builtin.text? base = some contents) :
    Path.StaysBeneath (outputKey name) := by
  obtain ⟨key, hkey, rfl⟩ := Option.map_eq_some_iff.1 hbase
  obtain ⟨front, last, hname, hpieces⟩ := splitOn_stripInPath? baseMarker name.toList
  rw [hkey] at hpieces
  obtain ⟨stripped, hstripped, hpieces⟩ := hpieces
  obtain ⟨front', last', hname', hkey'⟩ := splitOn_outputKey name
  rw [hname] at hname'
  obtain ⟨rfl, hlast⟩ := List.append_inj' hname' rfl
  obtain rfl : last = last' := by simpa using hlast
  have hstays := staysBeneath_of_builtin htext
  rw [Path.staysBeneath_iff_of_splitOn (by rw [String.toList_ofList, hpieces])] at hstays
  obtain ⟨hhead, n, hn, -⟩ := hstays
  rw [Path.staysBeneath_iff_of_splitOn hkey']
  exact ⟨hhead, n, hn, fun hdots => absurd hdots (ne_dots_of_baseMarker hstripped)⟩

/-! ## Sources -/

/-- What keeps the documents of a source beneath the output directory. A file needs a name that stays
beneath it, with a directory to spare where the mark leaves `..` behind; a directory may not hold a text
whose mark leaves `..` behind. -/
def Contained (files : FileTree) (name : String) : TemplateSource → Prop
  | .builtin _ _ => True
  | .file _ =>
    Path.StaysBeneath name ∧
      (IsParentMark (lastSegment name) →
        ∃ n, Path.depthFrom 0 (Path.components name) = some (n + 2))
  | .directory path =>
    ∀ entries fileName bytes, files.find path = .ok (.directory entries) →
      (fileName, .file bytes) ∈ entries → (String.fromUTF8? bytes).isSome → ¬IsParentMark fileName

theorem forall_keys_single_iff {name contents : String} {p : String → Prop} :
    (∀ key ∈ (single name contents).map Prod.fst, p key) ↔ p (outputKey name) := by
  simp [single]

theorem forall_keys_walkDirectory_iff {files : FileTree} {path : String}
    {entries : List (String × FileNode)} {loaded : Entries} {warnings : List Warning}
    (hnamed : files.root.WellNamed) (hfind : files.find path = .ok (.directory entries))
    (hwalk : walkDirectory files path = .ok (loaded, warnings)) :
    (∀ key ∈ loaded.map Prod.fst, Path.StaysBeneath key) ↔
      ∀ fileName bytes, (fileName, .file bytes) ∈ entries → (String.fromUTF8? bytes).isSome →
        ¬IsParentMark fileName := by
  have hentries := FileTree.find_wellNamed hnamed hfind
  simp only [mem_keys_walkDirectory hfind hwalk]
  constructor
  · intro hkeys fileName bytes hmem htext
    have hfile : HasFile (.directory entries) ([] ++ [fileName]) bytes := .directory hmem (.file bytes)
    have hstays := hkeys _ ⟨_, bytes, hfile, rfl⟩
    exact (staysBeneath_keyAt_iff (hfile.isEntryName hentries)).1 hstays rfl htext
  · rintro hplain key ⟨location, bytes, hfile, rfl⟩
    rcases location.eq_nil_or_concat with rfl | ⟨around, fileName, rfl⟩
    · cases hfile
    · rw [List.concat_eq_append] at hfile ⊢
      refine (staysBeneath_keyAt_iff (hfile.isEntryName hentries)).2 ?_
      rintro rfl htext
      cases hfile with
      | directory hmem hfile =>
          cases hfile
          exact hplain fileName bytes hmem htext

theorem loadSource_file {files : FileTree} {roots : List String} {name path : String}
    {loaded : Entries} (hload : (loadSource files roots name (.file path)).1 = .ok loaded) :
    ∃ contents, loaded = single name contents := by
  simp only [loadSource] at hload
  split at hload
  · cases hload
  · split at hload
    · next text _ => exact ⟨text, (Except.ok.inj hload).symm⟩
    · cases hload

theorem forall_keys_loadSource_iff {files : FileTree} {roots : List String} {name : String}
    {source : TemplateSource} {loaded : Entries} (hnamed : files.root.WellNamed)
    (hresolve : resolve files roots name = .ok source)
    (hload : (loadSource files roots name source).1 = .ok loaded) :
    (∀ key ∈ loaded.map Prod.fst, Path.StaysBeneath key) ↔ Contained files name source := by
  have hsource := resolve_spec hresolve
  cases source with
  | builtin base contents =>
      obtain rfl := Except.ok.inj hload
      rw [forall_keys_single_iff]
      exact iff_of_true (staysBeneath_outputKey_of_builtin hsource.1 hsource.2) trivial
  | file path =>
      obtain ⟨contents, rfl⟩ := loadSource_file hload
      rw [forall_keys_single_iff]
      exact staysBeneath_outputKey_iff name
  | directory path =>
      obtain ⟨entries, hentries⟩ := FileTree.find_of_isDirectory hsource
      simp only [loadSource] at hload
      split at hload
      · next loaded' warnings hwalk =>
          obtain rfl := Except.ok.inj hload
          rw [forall_keys_walkDirectory_iff hnamed hentries hwalk]
          constructor
          · intro hplain entries' fileName bytes hentries' hmem
            rw [hentries] at hentries'
            cases hentries'
            exact hplain fileName bytes hmem
          · exact fun hcontained fileName bytes hmem => hcontained entries fileName bytes hentries hmem
      · cases hload

end Template

namespace Environment

variable {σ : Type}

/-- The documents of a template are written beneath every output directory exactly if its name and its
files are contained. -/
theorem renderTemplates_beneath_iff {environment : Environment σ} {files : FileTree} {name : String}
    {context : Fields} {s : FilterState σ} {source : TemplateSource} {documents : Documents}
    (hnamed : files.root.WellNamed) (hresolve : resolve files environment.roots name = .ok source)
    (hrender : ((environment.renderTemplates files name context).run s).1 = .ok documents) :
    (∀ key ∈ documents.map Prod.fst, ∀ output, Path.Beneath output (Path.join output key)) ↔
      Contained files name source := by
  have hbeneath : (∀ key ∈ documents.map Prod.fst, ∀ output, Path.Beneath output (Path.join output key)) ↔
      ∀ key ∈ documents.map Prod.fst, Path.StaysBeneath key := by
    simp only [Path.forall_beneath_join_iff]
  rw [hbeneath]
  obtain ⟨loaded, s', hload, hentries⟩ := exists_entries_of_renderTemplates hresolve hrender
  rw [keys_renderEntries environment context loaded s' hentries]
  exact forall_keys_loadSource_iff hnamed hresolve hload

/-- An empty text next to the directory of the templates. -/
def besideTemplates : FileTree :=
  ⟨.directory [("templates", .directory []), ("notes.md", .file .empty)], "/"⟩

theorem besideTemplates_wellNamed : besideTemplates.root.WellNamed :=
  (FileNode.names_of_isSound besideTemplates.root (by decide)).1

theorem renderTemplates_beneath_besideTemplates :
    (∀ key ∈ ["../notes.md"], ∀ output, Path.Beneath output (Path.join output key)) ↔
      Contained besideTemplates "../notes.md" (.file "/templates/../notes.md") := by
  have hrender : ((plain.renderTemplates besideTemplates "../notes.md" []).run { repository := 0 }).1 =
      .ok [("../notes.md", some "")] := rfl
  have hresolve : resolve besideTemplates plain.roots "../notes.md" =
      .ok (.file "/templates/../notes.md") := rfl
  exact renderTemplates_beneath_iff besideTemplates_wellNamed hresolve hrender

/-- A name that leads upwards makes the document leave the output directory. -/
theorem renderTemplates_leaves_output :
    ((plain.renderTemplates besideTemplates "../notes.md" []).run { repository := 0 }).1 =
        .ok [("../notes.md", some "")] ∧
      ¬Path.Beneath "out" (Path.join "out" "../notes.md") := by
  refine ⟨rfl, ?_⟩
  rintro ⟨rest, n, hrest, hdepth⟩
  have hcomponents : Path.components "out" ++ [.up, .name "notes.md"] = Path.components "out" ++ rest :=
    hrest
  obtain rfl := List.append_cancel_left hcomponents
  cases hdepth

end Environment

end ReleasePress
