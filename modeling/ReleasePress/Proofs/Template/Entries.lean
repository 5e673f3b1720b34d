import Mathlib.Data.List.Induction
import ReleasePress.Proofs.Template.Marker
import ReleasePress.Proofs.Template.Order
import ReleasePress.Proofs.Text.Utf8

/-! # The entries of a directory

Each regular file of a directory gives a key and an entry: a text that is marked as a template gives its
contents under its name without the mark, and any other file is passed through under its own name
(`Template.Gives`). Several files can give one key. The walk then keeps the first text, and it passes a file
through only if no text gives its key: `Template.walkDirectory_entries` says so for every tree, with the
order of a walk told from locations alone. -/

namespace ReleasePress.Template

/-! ## What a file gives -/

/-- A file name with a mark of templates, and the name without it. Between its dots the name has segments;
the stem is the first of them, or the first two if the name starts with a dot. Of the segments after the
stem the last one that is `template` goes. -/
def LosesMark (fileName name : String) : Prop :=
  ∃ stem before after : List (List Char),
    fileName.toList.splitOn '.' = stem ++ (before ++ "template".toList :: after) ∧
      stem.length = (if stem.head? = some [] then 2 else 1) ∧ "template".toList ∉ after ∧
      name.toList = ['.'].intercalate (stem ++ (before ++ after))

/-- The key and the entry of a file with a location and some bytes. -/
inductive Gives : Location → ByteArray → String → Entry → Prop
  | text {around : Location} {fileName name contents : String} (hmark : LosesMark fileName name) :
      Gives (around ++ [fileName]) contents.toUTF8 ("/".intercalate (around ++ [name])) (.text contents)
  | passthrough {around : Location} {fileName : String} {bytes : ByteArray}
      (hplain : ∀ name (contents : String), LosesMark fileName name → bytes ≠ contents.toUTF8) :
      Gives (around ++ [fileName]) bytes ("/".intercalate (around ++ [fileName])) .passthrough

theorem losesMark_iff {fileName name : String} :
    LosesMark fileName name ↔ stripMarker? templateMarker fileName.toList = some name.toList := by
  rw [stripMarker?_eq_some_iff, LosesMark]
  have hstem {stem rest : List (List Char)} (hsegments : fileName.toList.splitOn '.' = stem ++ rest)
      (hne : stem ≠ []) :
      stemLength (fileName.toList.splitOn '.') = if stem.head? = some [] then 2 else 1 := by
    rw [stemLength_eq, hsegments, List.head?_append_of_ne_nil stem hne]
  constructor
  · rintro ⟨stem, before, after, hsegments, hlength, hafter, hname⟩
    have hne : stem ≠ [] := by
      rintro rfl
      simp at hlength
    exact ⟨stem, before, after, hsegments, by rw [hlength, hstem hsegments hne], hafter, hname⟩
  · rintro ⟨stem, before, after, hsegments, hlength, hafter, hname⟩
    have hne : stem ≠ [] := by
      rintro rfl
      rw [stemLength_eq] at hlength
      split at hlength <;> cases hlength
    exact ⟨stem, before, after, hsegments, by rw [hlength, hstem hsegments hne], hafter, hname⟩

/-- A file in a directory gives the key and the entry that the walk computes for it. -/
theorem gives_concat_iff {around : Location} {fileName : String} {bytes : ByteArray} {key : String}
    {entry : Entry} :
    Gives (around ++ [fileName]) bytes key entry ↔
      key = keyAt (around ++ [fileName]) bytes ∧ entry = entryAt (around ++ [fileName]) bytes := by
  have hentry : entryAt (around ++ [fileName]) bytes = (entryOf "" fileName bytes).2.1 := by
    rw [entryAt, List.getLast?_concat, Option.getD_some]
  rw [keyAt_concat, documentName, hentry]
  constructor
  · intro hgives
    generalize hlocation : around ++ [fileName] = location at hgives
    cases hgives with
    | text hmark =>
        obtain ⟨rfl, hlast⟩ := List.append_inj' hlocation rfl
        obtain rfl := List.singleton_inj.1 hlast
        next name contents =>
          rw [losesMark_iff] at hmark
          have htext : String.fromUTF8? contents.toUTF8 = some contents := fromUTF8?_eq_some_iff.2 rfl
          simp only [entryOf, hmark, htext, String.ofList_toList, and_self]
    | passthrough hplain =>
        obtain ⟨rfl, hlast⟩ := List.append_inj' hlocation rfl
        obtain rfl := List.singleton_inj.1 hlast
        simp only [entryOf]
        cases hstripped : stripMarker? templateMarker fileName.toList with
        | none => exact ⟨rfl, rfl⟩
        | some stripped =>
            cases htext : String.fromUTF8? bytes with
            | none => exact ⟨rfl, rfl⟩
            | some contents =>
                refine absurd (fromUTF8?_eq_some_iff.1 htext) (hplain (String.ofList stripped) contents ?_)
                rw [losesMark_iff, hstripped, String.toList_ofList]
  · rintro ⟨rfl, rfl⟩
    simp only [entryOf]
    cases hstripped : stripMarker? templateMarker fileName.toList with
    | none =>
        refine .passthrough fun name contents hmark => ?_
        rw [losesMark_iff, hstripped] at hmark
        cases hmark
    | some stripped =>
        cases htext : String.fromUTF8? bytes with
        | none =>
            refine .passthrough fun name contents hmark hbytes => ?_
            rw [fromUTF8?_eq_some_iff.2 hbytes] at htext
            cases htext
        | some contents =>
            obtain rfl := fromUTF8?_eq_some_iff.1 htext
            refine .text ?_
            rw [losesMark_iff, hstripped, String.toList_ofList]

/-! ## Adding entries -/

theorem pairwise_insertEntry {key : String} {new : Entry} {entries : Entries}
    (hsorted : entries.Pairwise fun a b => a.1 < b.1) :
    (insertEntry key new entries).1.Pairwise fun a b => a.1 < b.1 := by
  induction entries with
  | nil => exact List.pairwise_singleton ..
  | cons entry entries ih =>
      obtain ⟨other, old⟩ := entry
      obtain ⟨hfirst, hrest⟩ := List.pairwise_cons.1 hsorted
      simp only [insertEntry]
      by_cases hkey : key = other
      · subst hkey
        have hkeep (entry : Entry) : ((key, entry) :: entries).Pairwise fun a b => a.1 < b.1 :=
          List.pairwise_cons.2 ⟨hfirst, hrest⟩
        cases old <;> cases new <;> simp only [if_true, hkeep]
      · by_cases hlt : key < other
        · simp only [hkey, hlt, if_true, if_false]
          refine List.pairwise_cons.2 ⟨fun entry hentry => ?_, hsorted⟩
          rcases List.mem_cons.1 hentry with rfl | hentry
          · exact hlt
          · exact hlt.trans (hfirst entry hentry)
        · simp only [hkey, hlt, if_false]
          refine List.pairwise_cons.2 ⟨fun entry hentry => ?_, ih hrest⟩
          rcases mem_keys_insertEntry.1 (List.mem_map_of_mem hentry) with hsame | hold
          · rw [hsame]
            exact lt_of_le_of_ne (not_lt.1 hlt) fun hother => hkey hother.symm
          · obtain ⟨entry', hentry', hsame⟩ := List.mem_map.1 hold
            rw [← hsame]
            exact hfirst entry' hentry'

/-- Adding an entry under a taken key leaves a text in its place; otherwise the new entry stands there. -/
theorem mem_insertEntry_iff {key : String} {new : Entry} {entries : Entries}
    (hsorted : entries.Pairwise fun a b => a.1 < b.1) {key' : String} {entry : Entry} :
    (key', entry) ∈ (insertEntry key new entries).1 ↔
      key' ≠ key ∧ (key', entry) ∈ entries ∨
        key' = key ∧ ((∃ contents, entry = .text contents ∧ (key, .text contents) ∈ entries) ∨
          entry = new ∧ ∀ contents, (key, .text contents) ∉ entries) := by
  induction entries with
  | nil =>
      simp only [insertEntry, List.mem_singleton, Prod.mk.injEq, List.not_mem_nil, and_false,
        exists_false, false_or, not_false_eq_true, implies_true, and_true]
  | cons first entries ih =>
      obtain ⟨other, old⟩ := first
      obtain ⟨hfirst, hrest⟩ := List.pairwise_cons.1 hsorted
      by_cases hkey : key = other
      · subst hkey
        have hother (entry : Entry) : (key, entry) ∉ entries := fun hmem =>
          lt_irrefl key (hfirst _ hmem)
        by_cases hkey' : key' = key
        · subst hkey'
          cases old <;> cases new <;> simp [insertEntry, hother]
        · cases old <;> cases new <;> simp [insertEntry, hkey']
      · by_cases hlt : key < other
        · have hother (entry : Entry) : (key, entry) ∉ (other, old) :: entries := by
            intro hmem
            rcases List.mem_cons.1 hmem with hsame | hmem
            · exact hkey (Prod.mk.inj hsame).1
            · exact lt_irrefl key (hlt.trans (hfirst _ hmem))
          have hinsert : (insertEntry key new ((other, old) :: entries)).1 =
              (key, new) :: (other, old) :: entries := by
            simp [insertEntry, hkey, hlt]
          rw [hinsert]
          generalize (other, old) :: entries = rest at hother
          by_cases hkey' : key' = key
          · subst hkey'
            simp [hother]
          · simp [hkey']
        · have hinsert : (insertEntry key new ((other, old) :: entries)).1 =
              (other, old) :: (insertEntry key new entries).1 := by
            simp [insertEntry, hkey, hlt]
          rw [hinsert, List.mem_cons, ih hrest]
          by_cases hkey' : key' = key
          · subst hkey'
            simp [hkey]
          · simp [hkey']

/-! ## The entries of a walk -/

/-- The key and the entry of a leaf; a link gives none. -/
def Leaf.given? : Leaf → Option (String × Entry)
  | .file location bytes => some (keyAt location bytes, entryAt location bytes)
  | .link _ => none

/-- The text that a leaf gives for a key. -/
def Leaf.text? (key : String) (leaf : Leaf) : Option String :=
  match leaf.given? with
  | some (other, .text contents) => if other = key then some contents else none
  | _ => none

theorem Leaf.text?_eq_some_iff {key contents : String} {leaf : Leaf} :
    leaf.text? key = some contents ↔ leaf.given? = some (key, .text contents) := by
  rw [text?]
  split
  · next other contents' hgiven =>
      rw [hgiven]
      split
      · next hother => simp [hother]
      · next hother => simp [hother]
  · next hgiven =>
      simp only [reduceCtorEq, false_iff]
      exact hgiven key contents

/-- What the entries are once some leaves were visited, in their order: each key once and in order, with the
first text that a leaf gives for it, and with a file passed through if no leaf gives a text. -/
structure Visited (leaves : List Leaf) (entries : Entries) : Prop where
  sorted : entries.Pairwise fun a b => a.1 < b.1
  text_iff : ∀ key contents, (key, .text contents) ∈ entries ↔
    leaves.findSome? (Leaf.text? key) = some contents
  passthrough_iff : ∀ key, (key, .passthrough) ∈ entries ↔
    leaves.findSome? (Leaf.text? key) = none ∧ ∃ leaf ∈ leaves, leaf.given? = some (key, .passthrough)

theorem visited_nil : Visited [] [] where
  sorted := .nil
  text_iff := by simp
  passthrough_iff := by simp

theorem Visited.link {leaves : List Leaf} {entries : Entries} (hvisited : Visited leaves entries)
    (location : Location) : Visited (leaves ++ [.link location]) entries where
  sorted := hvisited.sorted
  text_iff := by simp [hvisited.text_iff, Leaf.text?, Leaf.given?]
  passthrough_iff := by simp [hvisited.passthrough_iff, Leaf.text?, Leaf.given?]

/-- One more file: its entry stands under its key unless a text stands there already. -/
theorem Visited.file {leaves : List Leaf} {entries : Entries} (hvisited : Visited leaves entries)
    (location : Location) (bytes : ByteArray) :
    Visited (leaves ++ [.file location bytes])
      (insertEntry (keyAt location bytes) (entryAt location bytes) entries).1 := by
  have hfirst (key : String) : (leaves ++ [Leaf.file location bytes]).findSome? (Leaf.text? key) =
      (leaves.findSome? (Leaf.text? key)).or ((Leaf.file location bytes).text? key) := by
    rw [List.findSome?_append, List.findSome?_singleton]
  have hother {key : String} (hkey : key ≠ keyAt location bytes) :
      (Leaf.file location bytes).text? key = none := by
    rw [Option.eq_none_iff_forall_ne_some]
    intro contents htext
    rw [Leaf.text?_eq_some_iff, Leaf.given?, Option.some.injEq, Prod.mk.injEq] at htext
    exact hkey htext.1.symm
  have hnone : (∀ contents, (keyAt location bytes, .text contents) ∉ entries) ↔
      leaves.findSome? (Leaf.text? (keyAt location bytes)) = none := by
    simp only [hvisited.text_iff, Option.eq_none_iff_forall_ne_some, ne_eq]
  refine ⟨pairwise_insertEntry hvisited.sorted, fun key contents => ?_, fun key => ?_⟩
  · rw [mem_insertEntry_iff hvisited.sorted, hfirst, hnone]
    by_cases hkey : key = keyAt location bytes
    · subst hkey
      have htext : (Leaf.file location bytes).text? (keyAt location bytes) = some contents ↔
          .text contents = entryAt location bytes := by
        rw [Leaf.text?_eq_some_iff, Leaf.given?, Option.some.injEq, Prod.mk.injEq, eq_comm (b := Entry.text _)]
        simp
      cases hfind : leaves.findSome? (Leaf.text? (keyAt location bytes)) with
      | some found => simp [hvisited.text_iff, hfind, eq_comm]
      | none => simp [hvisited.text_iff, hfind, htext]
    · simp [hkey, hother hkey, hvisited.text_iff]
  · rw [mem_insertEntry_iff hvisited.sorted, hfirst, hnone]
    by_cases hkey : key = keyAt location bytes
    · subst hkey
      cases hentry : entryAt location bytes with
      | text contents => simp [Leaf.text?, Leaf.given?, hentry]
      | passthrough => simp [Leaf.text?, Leaf.given?, hentry]
    · have hgiven : (Leaf.file location bytes).given? ≠ some (key, .passthrough) := by
        intro hgiven
        exact hkey (Prod.mk.inj (Option.some.inj hgiven)).1.symm
      simp [hkey, hother hkey, hvisited.passthrough_iff, hgiven, or_and_right, exists_or]

/-- The entries after a walk over some leaves. -/
theorem visited_foldl (root : String) (leaves : List Leaf)
    (hlocation : ∀ location bytes, Leaf.file location bytes ∈ leaves → location ≠ [])
    (warnings : List Warning) :
    Visited leaves (leaves.foldl (addLeaf root) ([], warnings)).1 := by
  induction leaves using List.reverseRecOn with
  | nil => exact visited_nil
  | append_singleton leaves leaf ih =>
      have hvisited := ih fun location bytes hmem => hlocation location bytes (by simp [hmem])
      rw [List.foldl_concat]
      cases leaf with
      | link location => exact hvisited.link location
      | file location bytes =>
          rw [addLeaf_file root _ (hlocation location bytes (by simp))]
          exact hvisited.file location bytes

/-- In a list that is in order, what is found first stands at the least place. -/
theorem findSome?_eq_some_iff_least {α β : Type} {place : α → Location} {found? : α → Option β} {l : List α}
    (hsorted : l.Pairwise fun a b => place a < place b) {b : β} :
    l.findSome? found? = some b ↔
      ∃ a ∈ l, found? a = some b ∧ ∀ other ∈ l, (found? other).isSome → place a ≤ place other := by
  rw [List.findSome?_eq_some_iff]
  constructor
  · rintro ⟨before, a, after, rfl, hfound, hnone⟩
    refine ⟨a, by simp, hfound, fun other hother hsome => ?_⟩
    rcases List.mem_append.1 hother with hbefore | hafter
    · rw [hnone other hbefore] at hsome
      cases hsome
    · rcases List.mem_cons.1 hafter with rfl | hafter
      · exact le_refl _
      · exact ((List.pairwise_cons.1 (List.pairwise_append.1 hsorted).2.1).1 other hafter).le
  · rintro ⟨a, hmem, hfound, hleast⟩
    obtain ⟨before, after, rfl⟩ := List.append_of_mem hmem
    refine ⟨before, a, after, rfl, hfound, fun other hother => ?_⟩
    rw [← Option.not_isSome_iff_eq_none]
    intro hsome
    have hlt := (List.pairwise_append.1 hsorted).2.2 other hother a (by simp)
    exact (hleast other (by simp [hother]) hsome).not_gt hlt

theorem HasFile.gives_iff {entries : List (String × FileNode)} {location : Location} {bytes : ByteArray}
    (hfile : HasFile (.directory entries) location bytes) {key : String} {entry : Entry} :
    Gives location bytes key entry ↔ (Leaf.file location bytes).given? = some (key, entry) := by
  rcases location.eq_nil_or_concat with rfl | ⟨around, fileName, rfl⟩
  · exact absurd rfl hfile.ne_nil
  · rw [List.concat_eq_append, gives_concat_iff, Leaf.given?, Option.some.injEq, Prod.mk.injEq,
      eq_comm, eq_comm (a := entry)]

/-- The leaves of a directory that give an entry are its files that give it. -/
theorem exists_leaf_iff {entries : List (String × FileNode)} {key : String} {entry : Entry}
    {p : Leaf → Prop} :
    (∃ leaf ∈ leaves (.directory entries), leaf.given? = some (key, entry) ∧ p leaf) ↔
      ∃ location bytes, HasFile (.directory entries) location bytes ∧
        Gives location bytes key entry ∧ p (.file location bytes) := by
  constructor
  · rintro ⟨leaf, hmem, hgiven, hp⟩
    cases leaf with
    | link location => cases hgiven
    | file location bytes =>
        have hfile := file_mem_leaves_iff.1 hmem
        exact ⟨location, bytes, hfile, hfile.gives_iff.2 hgiven, hp⟩
  · rintro ⟨location, bytes, hfile, hgives, hp⟩
    exact ⟨.file location bytes, file_mem_leaves_iff.2 hfile, hfile.gives_iff.1 hgives, hp⟩

/-- The first text in a walk that gives a key comes from the file at the least location of those that
give one. -/
theorem findSome?_text?_eq_some_iff {entries : List (String × FileNode)}
    (hdistinct : (FileNode.directory entries).DistinctNames) {key contents : String} :
    (leaves (.directory entries)).findSome? (Leaf.text? key) = some contents ↔
      ∃ location bytes, HasFile (.directory entries) location bytes ∧
        Gives location bytes key (.text contents) ∧
        ∀ location' bytes' contents', HasFile (.directory entries) location' bytes' →
          Gives location' bytes' key (.text contents') → location ≤ location' := by
  rw [findSome?_eq_some_iff_least (pairwise_leaves hdistinct)]
  simp only [Leaf.text?_eq_some_iff, exists_leaf_iff]
  refine exists_congr fun location => exists_congr fun bytes => and_congr_right fun hfile =>
    and_congr_right fun hgives => ?_
  constructor
  · intro hleast location' bytes' contents' hfile' hgives'
    refine hleast (.file location' bytes') (file_mem_leaves_iff.2 hfile') ?_
    rw [Leaf.text?_eq_some_iff.2 (hfile'.gives_iff.1 hgives')]
    rfl
  · intro hleast leaf hmem hsome
    obtain ⟨contents', htext⟩ := Option.isSome_iff_exists.1 hsome
    obtain ⟨location', bytes', hfile', hgives', rfl⟩ :=
      exists_leaf_iff.1 ⟨leaf, hmem, Leaf.text?_eq_some_iff.1 htext, rfl⟩
    exact hleast location' bytes' contents' hfile' hgives'

theorem findSome?_text?_eq_none_iff {entries : List (String × FileNode)} {key : String} :
    (leaves (.directory entries)).findSome? (Leaf.text? key) = none ↔
      ∀ location bytes contents, HasFile (.directory entries) location bytes →
        ¬Gives location bytes key (.text contents) := by
  rw [List.findSome?_eq_none_iff]
  constructor
  · intro hnone location bytes contents hfile hgives
    have htext := hnone _ (file_mem_leaves_iff.2 hfile)
    rw [Leaf.text?_eq_some_iff.2 (hfile.gives_iff.1 hgives)] at htext
    cases htext
  · intro hnone leaf hmem
    rw [Option.eq_none_iff_forall_ne_some]
    intro contents htext
    obtain ⟨location, bytes, hfile, hgives, -⟩ :=
      exists_leaf_iff (p := fun _ => True).1 ⟨leaf, hmem, Leaf.text?_eq_some_iff.1 htext, trivial⟩
    exact hnone location bytes contents hfile hgives

theorem visited_walkDirectory {tree : FileTree} {root : String} {entries : List (String × FileNode)}
    (hfind : tree.find root = .ok (.directory entries)) :
    ∃ loaded warnings, walkDirectory tree root = .ok (loaded, warnings) ∧
      Visited (leaves (.directory entries)) loaded := by
  obtain ⟨warnings, hwalk⟩ := walkDirectory_eq hfind
  refine ⟨_, _, hwalk, visited_foldl root _ (fun location bytes hmem => ?_) warnings⟩
  exact (file_mem_leaves_iff.1 hmem).ne_nil

/-- A key under which a file is passed through is the way to a file, name by name. -/
theorem Visited.exists_file {entries : List (String × FileNode)} {loaded : Entries}
    (hvisited : Visited (leaves (.directory entries)) loaded) {key : String}
    (hmem : (key, .passthrough) ∈ loaded) :
    ∃ location bytes, HasFile (.directory entries) location bytes ∧ key = "/".intercalate location := by
  obtain ⟨-, leaf, hleaf, hgiven⟩ := (hvisited.passthrough_iff key).1 hmem
  obtain ⟨location, bytes, hfile, hgives, -⟩ :=
    exists_leaf_iff (p := fun _ => True).1 ⟨leaf, hleaf, hgiven, trivial⟩
  refine ⟨location, bytes, hfile, ?_⟩
  cases hgives
  rfl

/-- The entries of a directory are those that its files give: a key for each file and none besides; under a
key the text of the first file in the walk that gives one, and a file passed through only if none does. -/
theorem walkDirectory_entries {tree : FileTree} {root : String} {entries : List (String × FileNode)}
    (hfind : tree.find root = .ok (.directory entries))
    (hdistinct : (FileNode.directory entries).DistinctNames) :
    ∃ loaded warnings, walkDirectory tree root = .ok (loaded, warnings) ∧
      loaded.Pairwise (fun a b => a.1 < b.1) ∧
      (∀ key, key ∈ loaded.map Prod.fst ↔ ∃ location bytes entry,
        HasFile (.directory entries) location bytes ∧ Gives location bytes key entry) ∧
      (∀ key contents, (key, .text contents) ∈ loaded ↔ ∃ location bytes,
        HasFile (.directory entries) location bytes ∧ Gives location bytes key (.text contents) ∧
          ∀ location' bytes' contents', HasFile (.directory entries) location' bytes' →
            Gives location' bytes' key (.text contents') → location ≤ location') ∧
      (∀ key, (key, .passthrough) ∈ loaded ↔
        (∃ location bytes, HasFile (.directory entries) location bytes ∧
          Gives location bytes key .passthrough) ∧
        ∀ location bytes contents, HasFile (.directory entries) location bytes →
          ¬Gives location bytes key (.text contents)) := by
  obtain ⟨loaded, warnings, hwalk, hvisited⟩ := visited_walkDirectory hfind
  refine ⟨loaded, warnings, hwalk, hvisited.sorted, fun key => ?_, fun key contents => ?_, fun key => ?_⟩
  · rw [mem_keys_walkDirectory hfind hwalk]
    refine exists_congr fun location => exists_congr fun bytes => ?_
    constructor
    · rintro ⟨hfile, rfl⟩
      exact ⟨entryAt location bytes, hfile, hfile.gives_iff.2 rfl⟩
    · rintro ⟨entry, hfile, hgives⟩
      have hgiven := hfile.gives_iff.1 hgives
      exact ⟨hfile, (Prod.mk.inj (Option.some.inj hgiven)).1.symm⟩
  · rw [hvisited.text_iff, findSome?_text?_eq_some_iff hdistinct]
  · rw [hvisited.passthrough_iff, findSome?_text?_eq_none_iff, and_comm]
    refine and_congr_left fun _ => ?_
    simpa using exists_leaf_iff (p := fun _ => True)

/-- A directory in which three files give one key, two of them a text. -/
def rivals : List (String × FileNode) :=
  [("notes.template.md", .file "second".toUTF8), ("notes.md", .file .empty),
    ("notes.md.template", .file "first".toUTF8)]

theorem walkDirectory_entries_rivals :
    ∃ loaded warnings, walkDirectory ⟨.directory rivals, "/"⟩ "/" = .ok (loaded, warnings) ∧
      ("notes.md", .text "first") ∈ loaded := by
  have hfind : FileTree.find ⟨.directory rivals, "/"⟩ "/" = .ok (.directory rivals) := rfl
  have hdistinct := (FileNode.names_of_isSound (.directory rivals) (by decide)).2
  obtain ⟨loaded, warnings, hwalk, -, -, htext, -⟩ := walkDirectory_entries hfind hdistinct
  have hfile : HasFile (.directory rivals) ["notes.md.template"] "first".toUTF8 :=
    .directory (by simp [rivals]) (.file _)
  refine ⟨loaded, warnings, hwalk, (htext _ _).2 ⟨_, _, hfile, hfile.gives_iff.2 rfl, ?_⟩⟩
  intro location bytes contents hfile hgives
  rw [hfile.gives_iff] at hgives
  cases hfile with
  | directory hentry hfile =>
      simp only [rivals, List.mem_cons, Prod.mk.injEq, List.not_mem_nil, or_false] at hentry
      rcases hentry with ⟨rfl, rfl⟩ | ⟨rfl, rfl⟩ | ⟨rfl, rfl⟩
      · cases hfile
        decide
      · cases hfile
        cases hgives
      · cases hfile
        decide

end ReleasePress.Template
