import Mathlib.Tactic.Common
import ReleasePress.Files.Tree

/-! # Trees of files

The names in a directory are ordinary ones and differ from each other, and following a path never leaves the
nodes of the tree: it ends at a location with the node that stands there. A path that leads to a node that
is no link leads there whether or not a last link would be followed. -/

namespace ReleasePress

/-- A name that a directory can hold: not empty, without separators, and neither of the two names for the
directory itself and the one around it. -/
structure IsEntryName (name : String) : Prop where
  ne_nil : name.toList ≠ []
  noSlash : '/' ∉ name.toList
  ne_here : name.toList ≠ ['.']
  ne_up : name.toList ≠ ['.', '.']

/-- Every directory of a tree holds its nodes under names that a directory can hold. -/
inductive FileNode.WellNamed : FileNode → Prop
  | file (bytes : ByteArray) : WellNamed (.file bytes)
  | link (target : String) : WellNamed (.link target)
  | directory {entries : List (String × FileNode)}
      (hname : ∀ name node, (name, node) ∈ entries → IsEntryName name)
      (hnode : ∀ name node, (name, node) ∈ entries → WellNamed node) :
      WellNamed (.directory entries)

/-- No directory of a tree holds two nodes under one name. -/
inductive FileNode.DistinctNames : FileNode → Prop
  | file (bytes : ByteArray) : DistinctNames (.file bytes)
  | link (target : String) : DistinctNames (.link target)
  | directory {entries : List (String × FileNode)} (hname : (entries.map Prod.fst).Nodup)
      (hnode : ∀ name node, (name, node) ∈ entries → DistinctNames node) :
      DistinctNames (.directory entries)

namespace FileNode

theorem mem_of_entry {name : String} {entries : List (String × FileNode)} {node : FileNode}
    (hentry : entry name entries = some node) : (name, node) ∈ entries := by
  induction entries with
  | nil => cases hentry
  | cons first entries ih =>
      obtain ⟨other, old⟩ := first
      by_cases hname : other = name
      · simp only [entry, hname, if_true, Option.some.injEq] at hentry
        simp [hname, hentry]
      · simp only [entry, hname, if_false] at hentry
        exact List.mem_cons_of_mem _ (ih hentry)

theorem entry_of_mem {name : String} {entries : List (String × FileNode)} {node : FileNode}
    (hname : (entries.map Prod.fst).Nodup) (hmem : (name, node) ∈ entries) :
    entry name entries = some node := by
  induction entries with
  | nil => cases hmem
  | cons first entries ih =>
      obtain ⟨other, old⟩ := first
      rw [List.map_cons, List.nodup_cons] at hname
      rcases List.mem_cons.1 hmem with hfirst | hmem
      · obtain ⟨rfl, rfl⟩ := Prod.mk.inj hfirst
        simp [entry]
      · have hother : other ≠ name := by
          rintro rfl
          exact hname.1 (List.mem_map.2 ⟨_, hmem, rfl⟩)
        simp only [entry, hother, if_false]
        exact ih hname.2 hmem

instance (name : String) : Decidable (IsEntryName name) :=
  decidable_of_iff
    (name.toList ≠ [] ∧ '/' ∉ name.toList ∧ name.toList ≠ ['.'] ∧ name.toList ≠ ['.', '.'])
    ⟨fun ⟨hnil, hslash, hhere, hup⟩ => ⟨hnil, hslash, hhere, hup⟩,
      fun hname => ⟨hname.ne_nil, hname.noSlash, hname.ne_here, hname.ne_up⟩⟩

mutual

/-- Whether each directory of a tree holds its nodes under different names that a directory can hold. -/
def isSound : FileNode → Bool
  | .file _ => true
  | .link _ => true
  | .directory entries => decide (entries.map Prod.fst).Nodup && areSound entries

/-- Whether the entries of a directory have names that it can hold, and so on below. -/
def areSound : List (String × FileNode) → Bool
  | [] => true
  | (name, node) :: entries => decide (IsEntryName name) && isSound node && areSound entries

end

mutual

theorem names_of_isSound : (node : FileNode) → isSound node = true →
    node.WellNamed ∧ node.DistinctNames
  | .file bytes, _ => ⟨.file bytes, .file bytes⟩
  | .link target, _ => ⟨.link target, .link target⟩
  | .directory entries, hsound => by
    simp only [isSound, Bool.and_eq_true, decide_eq_true_eq] at hsound
    obtain ⟨hdistinct, hentries⟩ := hsound
    have hall := names_of_areSound entries hentries
    exact ⟨.directory (fun name node hmem => (hall name node hmem).1)
      (fun name node hmem => (hall name node hmem).2.1),
      .directory hdistinct fun name node hmem => (hall name node hmem).2.2⟩

theorem names_of_areSound : (entries : List (String × FileNode)) → areSound entries = true →
    ∀ name node, (name, node) ∈ entries → IsEntryName name ∧ node.WellNamed ∧ node.DistinctNames
  | [], _ => by simp
  | (first, child) :: entries, hsound => by
    simp only [areSound, Bool.and_eq_true, decide_eq_true_eq] at hsound
    obtain ⟨⟨hfirst, hchild⟩, hentries⟩ := hsound
    intro name node hmem
    rcases List.mem_cons.1 hmem with hsame | hmem
    · obtain ⟨rfl, rfl⟩ := Prod.mk.inj hsame
      exact ⟨hfirst, names_of_isSound node hchild⟩
    · exact names_of_areSound entries hentries name node hmem

end

/-! ## Nodes by location -/

theorem at?_nil (node : FileNode) : node.at? [] = some node := by
  cases node <;> rfl

theorem at?_cons (node : FileNode) (name : String) (location : Location) :
    node.at? (name :: location) = (node.at? [name]).bind (·.at? location) := by
  cases node with
  | file bytes => rfl
  | link target => rfl
  | directory entries =>
      simp only [at?]
      cases entry name entries with
      | none => rfl
      | some child => simp

theorem at?_append (node : FileNode) (location rest : Location) :
    node.at? (location ++ rest) = (node.at? location).bind (·.at? rest) := by
  induction location generalizing node with
  | nil => simp [at?_nil]
  | cons name location ih =>
      rw [List.cons_append, at?_cons, at?_cons node name location, Option.bind_assoc]
      simp only [ih]

theorem at?_directory_cons {name : String} {child : FileNode} {entries : List (String × FileNode)}
    (hchild : entry name entries = some child) (location : Location) :
    (FileNode.directory entries).at? (name :: location) = child.at? location := by
  rw [at?, hchild]

theorem exists_child {root node : FileNode} {name : String} {location : Location}
    (hat : root.at? (name :: location) = some node) :
    ∃ entries child, root = .directory entries ∧ entry name entries = some child ∧
      child.at? location = some node := by
  cases root with
  | file bytes => cases hat
  | link target => cases hat
  | directory entries =>
      cases hchild : entry name entries with
      | none => simp [at?, hchild] at hat
      | some child => exact ⟨entries, child, rfl, hchild, by rwa [at?_directory_cons hchild] at hat⟩

/-- Right in a directory stand its entries. -/
theorem at?_concat {node : FileNode} {location : Location} {entries : List (String × FileNode)}
    (hat : node.at? location = some (.directory entries)) (name : String) :
    node.at? (location ++ [name]) = entry name entries := by
  rw [at?_append, hat, Option.bind_some, at?]
  cases entry name entries with
  | none => rfl
  | some child => exact at?_nil child

/-- What all entries of a directory inherit holds of each node below. -/
theorem at?_of_hereditary {p : FileNode → Prop}
    (hentry : ∀ entries name node, p (.directory entries) → (name, node) ∈ entries → p node)
    {node node' : FileNode} (hnode : p node) {location : Location}
    (hat : node.at? location = some node') : p node' := by
  induction location generalizing node with
  | nil =>
      rw [at?_nil, Option.some.injEq] at hat
      rwa [← hat]
  | cons name location ih =>
      cases node with
      | file bytes => cases hat
      | link target => cases hat
      | directory entries =>
          simp only [at?] at hat
          split at hat
          · next child hchild => exact ih (hentry _ _ _ hnode (mem_of_entry hchild)) hat
          · cases hat

end FileNode

namespace FileTree

variable {root : FileNode} {last : Bool} {location : Location} {node : FileNode}

/-! ## Following a path -/

/-- The node at the end of a way is the one at its location. -/
theorem takeSteps_at? {onLink : Location → List Path.Component → Arrival} {node? : Option FileNode}
    (honLink : ∀ done steps, onLink done steps = .ok (location, node?) → root.at? location = node?)
    {done : Location} {steps : List Path.Component}
    (harrival : takeSteps root last onLink done steps = .ok (location, node?)) :
    root.at? location = node? := by
  fun_induction takeSteps root last onLink done steps with
  | case1 done =>
      cases harrival
      rfl
  | case2 done rest ih => exact ih harrival
  | case3 => cases harrival
  | case4 done rest entries hat ih => exact ih harrival
  | case5 done rest entries hat ih => exact ih harrival
  | case6 done rest name entries hat target hentry hend =>
      cases harrival
      rw [List.reverse_cons, FileNode.at?_concat hat, hentry]
  | case7 => cases harrival
  | case8 done rest name entries hat target hentry hend hempty =>
      exact honLink done (FileTree.steps target ++ rest) harrival
  | case9 done rest name entries hat hlink ih => exact ih harrival
  | case10 => cases harrival

/-- Whether a last link is followed makes no difference where a way does not end at one. -/
theorem takeSteps_last {onLink onLink' : Location → List Path.Component → Arrival}
    (honLink : ∀ done steps, onLink' done steps = onLink done steps ∨
      ∃ location target, onLink done steps = .ok (location, some (.link target)))
    (done : Location) (steps : List Path.Component) :
    takeSteps root true onLink' done steps = takeSteps root false onLink done steps ∨
      ∃ location target, takeSteps root false onLink done steps = .ok (location, some (.link target)) := by
  fun_induction takeSteps root false onLink done steps with
  | case1 done => exact .inl rfl
  | case2 done rest ih =>
      rw [takeSteps]
      exact ih
  | case3 done step rest hstep hat =>
      left
      cases step <;> simp_all [takeSteps]
  | case4 done rest entries hat ih =>
      simp only [takeSteps, hat]
      exact ih
  | case5 done rest entries hat ih =>
      simp only [takeSteps, hat]
      exact ih
  | case6 done rest name entries hat target hentry hend => exact .inr ⟨_, target, rfl⟩
  | case7 done rest name entries hat target hentry hend hempty =>
      left
      simp [takeSteps, hat, hentry, hempty]
  | case8 done rest name entries hat target hentry hend hempty =>
      simp only [takeSteps, hat, hentry, hempty]
      simpa using honLink done (FileTree.steps target ++ rest)
  | case9 done rest name entries hat hentry ih =>
      simp only [takeSteps, hat]
      exact ih
  | case10 done step rest node hat =>
      left
      cases step <;> cases node <;> simp_all [takeSteps]

theorem follow_at? {node? : Option FileNode} {links : Nat} {done : Location}
    {steps : List Path.Component}
    (harrival : follow root last links done steps = .ok (location, node?)) :
    root.at? location = node? := by
  induction links generalizing done steps with
  | zero => exact takeSteps_at? (by intro _ _ h; cases h) harrival
  | succ links ih => exact takeSteps_at? (fun _ _ harrival => ih harrival) harrival

theorem follow_last (root : FileNode) (links : Nat) (done : Location) (steps : List Path.Component) :
    follow root true links done steps = follow root false links done steps ∨
      ∃ location target, follow root false links done steps = .ok (location, some (.link target)) := by
  induction links generalizing done steps with
  | zero => exact takeSteps_last (fun _ _ => .inl rfl) done steps
  | succ links ih => exact takeSteps_last ih done steps

/-! ## Finding a node -/

theorem locate_of_find {tree : FileTree} {path : String} (hfind : tree.find path = .ok node) :
    ∃ location, tree.locate true path = .ok (location, some node) := by
  simp only [find] at hfind
  split at hfind
  · next location node' hlocate => exact ⟨location, by rw [hlocate, Except.ok.inj hfind]⟩
  · cases hfind
  · cases hfind

theorem locate_last (tree : FileTree) (path : String) :
    tree.locate true path = tree.locate false path ∨
      ∃ location target, tree.locate false path = .ok (location, some (.link target)) := by
  rw [locate, locate]
  split
  · exact .inl rfl
  · exact follow_last _ _ _ _

theorem locate_at? {tree : FileTree} {path : String} {node? : Option FileNode}
    (hlocate : tree.locate last path = .ok (location, node?)) : tree.root.at? location = node? := by
  rw [locate] at hlocate
  split at hlocate
  · cases hlocate
  · exact follow_at? hlocate

theorem find_of_isDirectory {tree : FileTree} {path : String} (hdirectory : tree.isDirectory path = true) :
    ∃ entries, tree.find path = .ok (.directory entries) := by
  simp only [isDirectory] at hdirectory
  split at hdirectory
  · next entries hentries => exact ⟨entries, hentries⟩
  · cases hdirectory

theorem find_wellNamed {tree : FileTree} {path : String} (hroot : tree.root.WellNamed)
    (hfind : tree.find path = .ok node) : node.WellNamed := by
  obtain ⟨location, hlocate⟩ := locate_of_find hfind
  refine FileNode.at?_of_hereditary ?_ hroot (locate_at? hlocate)
  rintro entries name node ⟨⟩ hmem
  next hname hnode => exact hnode name node hmem

theorem find_distinctNames {tree : FileTree} {path : String} (hroot : tree.root.DistinctNames)
    (hfind : tree.find path = .ok node) : node.DistinctNames := by
  obtain ⟨location, hlocate⟩ := locate_of_find hfind
  refine FileNode.at?_of_hereditary ?_ hroot (locate_at? hlocate)
  rintro entries name node ⟨⟩ hmem
  next hname hnode => exact hnode name node hmem

/-- A path that leads to a node leads to a node, perhaps a link, without following a last link. -/
theorem findLink_of_find {tree : FileTree} {path : String} (hfind : tree.find path = .ok node) :
    ∃ node', tree.findLink path = .ok node' := by
  obtain ⟨location, hlocate⟩ := locate_of_find hfind
  rcases tree.locate_last path with hsame | ⟨location', target, hlink⟩
  · exact ⟨node, by rw [findLink, ← hsame, hlocate]⟩
  · exact ⟨.link target, by rw [findLink, hlink]⟩

/-- A path at which there is no link is found without following a last link. -/
theorem find_of_findLink {tree : FileTree} {path : String} (hlink : ∀ target, node ≠ .link target)
    (hfind : tree.findLink path = .ok node) : tree.find path = .ok node := by
  rcases tree.locate_last path with hsame | ⟨location, target, hlocate⟩
  · rw [find, hsame]
    exact hfind
  · rw [findLink, hlocate] at hfind
    exact absurd (Except.ok.inj hfind).symm (hlink target)

end FileTree

end ReleasePress
