import ReleasePress.Proofs.Files.Removal
import ReleasePress.Proofs.Template.Precedence

/-! # Templates that are no text

That a file is no text shows only when it is read, and then the search for the template is over: the name is not
found, even if a later root has a text under it (`Template.load_shadowed`). Without the file the search goes on
to the later roots. So the file counts as missing exactly if that search has the same outcome, because the later
roots have nothing under the name, or again a file that is no text first (`Template.load_without_iff`). -/

namespace ReleasePress.Template

/-- A path leads to a file that is no text. -/
def HoldsNoText (files : FileTree) (path : String) : Prop :=
  ∃ bytes, files.read path = .ok bytes ∧ String.fromUTF8? bytes = none

variable {files : FileTree} {roots : List String} {name path : String}

theorem HoldsNoText.isFile (h : HoldsNoText files path) : files.isFile path = true := by
  obtain ⟨bytes, hread, -⟩ := h
  exact FileTree.isFile_iff.2 ⟨bytes, hread⟩

/-! ## Names that are not found -/

/-- A name is not found if the search finds nothing or a file that is no text. -/
theorem load_eq_notFound_iff :
    (load files roots name).1 = .error (.notFound name roots) ↔
      resolve files roots name = .error (.notFound name roots) ∨
        ∃ path, resolve files roots name = .ok (.file path) ∧ HoldsNoText files path := by
  cases hresolve : resolve files roots name with
  | error e => simp [load, hresolve]
  | ok source =>
      cases source with
      | builtin base contents => simp [load, hresolve, loadSource]
      | file path =>
          obtain ⟨bytes, hread⟩ := FileTree.isFile_iff.1 (resolve_spec hresolve)
          cases htext : String.fromUTF8? bytes <;> simp [load, hresolve, loadSource, hread, htext, HoldsNoText]
      | directory path =>
          obtain ⟨entries, hfind⟩ := FileTree.find_of_isDirectory (resolve_spec hresolve)
          obtain ⟨warnings, hwalk⟩ := walkDirectory_eq hfind
          simp [load, hresolve, loadSource, hwalk]

/-! ## The tree without the file -/

section Without

variable {location : Location} {bytes : ByteArray}

/-- Without a file there is what was there, but for the file itself. -/
theorem isThere_without_iff (hne : location ≠ []) (hat : files.root.at? location = some (.file bytes)) :
    IsThere (files.without location) path ↔
      IsThere files path ∧ ∀ node?, files.locate true path ≠ .ok (location, node?) := by
  rw [IsThere, IsThere, FileTree.isDirectory_without_iff hne hat, FileTree.isFile_iff, FileTree.isFile_iff]
  simp only [FileTree.read_without_iff hne hat]
  constructor
  · rintro (hdirectory | ⟨held, hread, helsewhere⟩)
    · refine ⟨.inl hdirectory, fun node? heq => ?_⟩
      obtain ⟨place, entries, hlocate⟩ := FileTree.isDirectory_iff.1 hdirectory
      rw [heq] at hlocate
      cases hlocate
      rw [FileTree.locate_at? heq] at hat
      cases hat
    · exact ⟨.inr ⟨held, hread⟩, helsewhere⟩
  · rintro ⟨hdirectory | ⟨held, hread⟩, helsewhere⟩
    · exact .inl hdirectory
    · exact .inr ⟨held, hread, helsewhere⟩

theorem foundAt?_eq_file_iff {root : String} :
    foundAt? files name root = some (.file path) ↔ path = Path.join root name ∧ files.isFile path = true := by
  constructor
  · intro hfound
    rw [foundAt?] at hfound
    split at hfound
    · cases hfound
    · split at hfound
      · next hfile =>
          cases hfound
          exact ⟨rfl, hfile⟩
      · cases hfound
  · rintro ⟨rfl, hfile⟩
    exact foundAt?_eq_file hfile

/-- Under some roots nothing is found, or a file that is no text is what is found first. -/
def FindsNoText (files : FileTree) (roots : List String) (name : String) : Prop :=
  (∀ root ∈ roots, ¬IsThere files (Path.join root name)) ∨
    ∃ before root after, roots = before ++ root :: after ∧
      (∀ other ∈ before, ¬IsThere files (Path.join other name)) ∧ HoldsNoText files (Path.join root name)

theorem findsNoText_iff :
    FindsNoText files roots name ↔ roots.findSome? (foundAt? files name) = none ∨
      ∃ path, roots.findSome? (foundAt? files name) = some (.file path) ∧ HoldsNoText files path := by
  simp only [FindsNoText, List.findSome?_eq_none_iff, List.findSome?_eq_some_iff, foundAt?_eq_none_iff]
  refine or_congr_right ⟨?_, ?_⟩
  · rintro ⟨before, root, after, hroots, hbefore, htext⟩
    exact ⟨_, ⟨before, root, after, hroots, foundAt?_eq_file htext.isFile, hbefore⟩, htext⟩
  · rintro ⟨path, ⟨before, root, after, hroots, hroot, hbefore⟩, htext⟩
    obtain ⟨rfl, -⟩ := foundAt?_eq_file_iff.1 hroot
    exact ⟨before, root, after, hroots, hbefore, htext⟩

/-- **A template that is no text is not found.**  If the file that is found for a name is no text, the name is not
found, whatever later roots have.  In the tree without the file neither the root of the file nor those before it
have anything under the name, so the outcome there is the same exactly if the later roots have nothing under it
either, or a file that is no text first. -/
theorem load_without_iff (hresolve : resolve files roots name = .ok (.file path))
    (hlocate : files.locate true path = .ok (location, some (.file bytes)))
    (htext : String.fromUTF8? bytes = none) :
    (load files roots name).1 = .error (.notFound name roots) ∧
      ∃ before root after, roots = before ++ root :: after ∧ path = Path.join root name ∧
        (∀ other ∈ before ++ [root], ¬IsThere (files.without location) (Path.join other name)) ∧
        ((load files roots name).1 = (load (files.without location) roots name).1 ↔
          FindsNoText (files.without location) after name) := by
  have hat := FileTree.locate_at? hlocate
  have hne := FileTree.location_ne_nil hlocate
  have hfinds := finds_resolve files roots name
  rw [hresolve] at hfinds
  cases hfinds with
  | @file before after root hplain hroots hbefore hfile =>
      have hload : (load files roots name).1 = .error (.notFound name roots) :=
        load_eq_notFound_iff.2 (.inr ⟨_, hresolve, bytes, FileTree.read_eq_ok_iff.2 ⟨location, hlocate⟩, htext⟩)
      have hearlier : ∀ other ∈ before ++ [root], ¬IsThere (files.without location) (Path.join other name) := by
        intro other hother hthere
        obtain ⟨hthere, helsewhere⟩ := (isThere_without_iff hne hat).1 hthere
        rcases List.mem_append.1 hother with hother | hother
        · exact hbefore other hother hthere
        · rw [List.mem_singleton.1 hother] at helsewhere
          exact helsewhere _ hlocate
      -- without the file the search begins after its root
      have hlater : roots.findSome? (foundAt? (files.without location) name) =
          after.findSome? (foundAt? (files.without location) name) := by
        have hnone : (before ++ [root]).findSome? (foundAt? (files.without location) name) = none :=
          List.findSome?_eq_none_iff.2 fun other hother => foundAt?_eq_none_iff.2 (hearlier other hother)
        rw [hroots, List.append_cons, List.findSome?_append, hnone, Option.none_or]
      refine ⟨hload, before, root, after, hroots, rfl, hearlier, ?_⟩
      rw [hload, eq_comm, load_eq_notFound_iff, resolve_of_not_builtin (not_builtin_of_plain hplain), hlater,
        findsNoText_iff]
      cases after.findSome? (foundAt? (files.without location) name) <;> simp

end Without

/-- A file that is no text, and a text of its name under another root. -/
def shadowed : FileTree :=
  ⟨.directory [("a", .directory [("n.md", .file ⟨#[0xff]⟩)]), ("b", .directory [("n.md", .file "hi".toUTF8)])], "/"⟩

theorem load_without_iff_shadowed :
    ∃ before root after, ["a", "b"] = before ++ root :: after ∧ "a/n.md" = Path.join root "n.md" ∧
      ¬FindsNoText (shadowed.without ["a", "n.md"]) after "n.md" := by
  have hresolve : resolve shadowed ["a", "b"] "n.md" = .ok (.file "a/n.md") := rfl
  have hlocate : shadowed.locate true "a/n.md" = .ok (["a", "n.md"], some (.file ⟨#[0xff]⟩)) := rfl
  obtain ⟨hload, before, root, after, hroots, hpath, -, hiff⟩ := load_without_iff hresolve hlocate rfl
  refine ⟨before, root, after, hroots, hpath, fun hfinds => ?_⟩
  have htext : (load (shadowed.without ["a", "n.md"]) ["a", "b"] "n.md").1 = .ok [("n.md", .text "hi")] := rfl
  rw [← hiff.2 hfinds, hload] at htext
  cases htext

/-- The text is not found, although it is found without the file. -/
theorem load_shadowed :
    resolve shadowed ["a", "b"] "n.md" = .ok (.file "a/n.md") ∧
      shadowed.read "a/n.md" = .ok ⟨#[0xff]⟩ ∧ String.fromUTF8? ⟨#[0xff]⟩ = none ∧
      (load shadowed ["a", "b"] "n.md").1 = .error (.notFound "n.md" ["a", "b"]) ∧
      (load (shadowed.without ["a", "n.md"]) ["a", "b"] "n.md").1 = .ok [("n.md", .text "hi")] :=
  ⟨rfl, rfl, rfl, rfl, rfl⟩

end ReleasePress.Template
