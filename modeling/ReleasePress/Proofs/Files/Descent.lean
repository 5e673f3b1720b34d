import ReleasePress.Proofs.Files.Path
import ReleasePress.Proofs.Files.Tree

/-! # Paths into a directory

A path that goes on below a directory goes on from the place that the directory is at, no matter how the
directory itself is spelled and how many links the way to it follows (`FileTree.locate_below`). If it goes on by
the names on the way down the tree then it leads to the node that stands there, and only below directories does it
lead anywhere. -/

namespace ReleasePress.FileTree

/-! ## Steps of a joined path -/

/-- The step of a piece of a path. -/
def stepOf? (piece : List Char) : Option Path.Component :=
  if piece.isEmpty then none else if piece = ['.'] then some .here else Path.componentOf? piece

/-- The steps of a path without a last one that demands a directory. -/
def stepsInto (path : String) : List Path.Component :=
  (if Path.isAbsolute path then [.root] else []) ++ (path.toList.splitOn '/').filterMap stepOf?

theorem steps_eq_stepsInto (path : String) :
    steps path = stepsInto path ++ if (path.toList.splitOn '/').getLast? = some [] then [.here] else [] :=
  rfl

theorem filterMap_stepOf? {names : List String} (hnames : ∀ name ∈ names, IsEntryName name) :
    (names.map String.toList).filterMap stepOf? = names.map .name := by
  induction names with
  | nil => rfl
  | cons name names ih =>
      have hname := hnames name (by simp)
      have hstep : stepOf? name.toList = some (.name name) := by
        simp [stepOf?, Path.componentOf?, hname.ne_nil, hname.ne_here, hname.ne_up]
      rw [List.map_cons, List.filterMap_cons_some hstep, ih fun name hname => hnames name (by simp [hname]),
        List.map_cons]

section Names

variable {names : List String} (hne : names ≠ []) (hnames : ∀ name ∈ names, IsEntryName name)

include hne hnames

theorem not_isAbsolute_names : Path.isAbsolute ("/".intercalate names) = false := by
  have hpieces := Path.splitOn_intercalate hne fun name hname => (hnames name hname).noSlash
  rcases names.eq_nil_or_concat with rfl | ⟨front, last, rfl⟩
  · exact absurd rfl hne
  · rw [List.concat_eq_append, List.map_append, List.map_singleton] at hpieces
    rw [← Bool.not_eq_true, List.concat_eq_append, Path.isAbsolute_iff_of_splitOn hpieces]
    cases front with
    | nil => simp
    | cons first front =>
        have hfirst := (hnames first (by simp)).ne_nil
        simpa using hfirst

/-- A path below a directory takes the steps of the directory and then one step for each name. -/
theorem steps_append_names {directory : String} (hdirectory : directory ≠ "") {path : String}
    {text : List Char} (hpath : path.toList = text ++ '/' :: ("/".intercalate names).toList)
    (htext : directory.toList = text ∨ directory.toList = text ++ ['/']) :
    steps path = stepsInto directory ++ names.map .name := by
  have hpieces := Path.splitOn_intercalate hne fun name hname => (hnames name hname).noSlash
  have hlast : (names.map String.toList).getLast? ≠ some [] := by
    intro hlast
    obtain ⟨name, hname, hnil⟩ := List.mem_map.1 (List.mem_of_getLast? hlast)
    exact (hnames name hname).ne_nil hnil
  have hpathPieces : path.toList.splitOn '/' = text.splitOn '/' ++ names.map String.toList := by
    rw [hpath, List.splitOn_append_cons_self, hpieces]
  have hinto : (directory.toList.splitOn '/').filterMap stepOf? = (text.splitOn '/').filterMap stepOf? := by
    rcases htext with htext | htext
    · rw [htext]
    · rw [htext, List.splitOn_append_cons_self, List.filterMap_append]
      simp [stepOf?]
  have habsolute : Path.isAbsolute path = Path.isAbsolute directory := by
    have hchars : directory.toList ≠ [] := by simpa using hdirectory
    rw [Bool.eq_iff_iff, Path.isAbsolute_iff, Path.isAbsolute_iff, hpath]
    rcases htext with htext | htext
    · rw [← htext, List.head?_append_of_ne_nil _ hchars]
    · have hwhole : text ++ '/' :: ("/".intercalate names).toList =
          directory.toList ++ ("/".intercalate names).toList := by simp [htext]
      rw [hwhole, List.head?_append_of_ne_nil _ hchars]
  rw [steps_eq_stepsInto, stepsInto, stepsInto, habsolute, hpathPieces, hinto, List.filterMap_append,
    filterMap_stepOf? hnames, List.getLast?_append_of_ne_nil _ (by simpa using hne), if_neg hlast,
    List.append_nil, List.append_assoc]

theorem steps_below {directory : String} (hdirectory : directory ≠ "") :
    steps (directory ++ "/" ++ "/".intercalate names) = stepsInto directory ++ names.map .name :=
  steps_append_names hne hnames hdirectory (by simp) (.inl rfl)

theorem steps_join {directory : String} (hdirectory : directory ≠ "") :
    steps (Path.join directory ("/".intercalate names)) = stepsInto directory ++ names.map .name := by
  rw [Path.join_of_relative (not_isAbsolute_names hne hnames)]
  by_cases hslash : directory.toList.getLast? = some '/'
  · obtain ⟨front, hfront⟩ := List.getLast?_eq_some_iff.1 hslash
    exact steps_append_names hne hnames hdirectory (by simp [Path.separator, hfront]) (.inr hfront)
  · exact steps_append_names hne hnames hdirectory (by simp [Path.separator, hslash, hdirectory]) (.inl rfl)

end Names

/-- A path goes on from a directory by some names, wherever both are seen from. -/
structure Extends (directory : String) (names : Location) (path : String) : Prop where
  ne_empty : path ≠ ""
  steps : ∀ base,
    steps (Path.join base path) = stepsInto (Path.join base directory) ++ names.map .name

section Names

variable {directory : String} {names : Location}

theorem extends_below (hdirectory : directory ≠ "") (hne : names ≠ [])
    (hnames : ∀ name ∈ names, IsEntryName name) :
    Extends directory names (directory ++ "/" ++ "/".intercalate names) where
  ne_empty := by simp
  steps base := by
    rw [String.append_assoc, Path.join_append hdirectory, ← String.append_assoc,
      steps_below hne hnames (Path.join_ne_empty hdirectory base)]

theorem extends_join (hdirectory : directory ≠ "") (hne : names ≠ [])
    (hnames : ∀ name ∈ names, IsEntryName name) :
    Extends directory names (Path.join directory ("/".intercalate names)) where
  ne_empty := by
    rw [Path.join_of_relative (not_isAbsolute_names hne hnames)]
    simp [hdirectory]
  steps base := by
    rw [Path.join_join hdirectory (not_isAbsolute_names hne hnames),
      steps_join hne hnames (Path.join_ne_empty hdirectory base)]

end Names

/-! ## Steps into a directory -/

section Descent

variable {root : FileNode} {last : Bool} {links : Nat} {done location : Location}
  {node? : Option FileNode} {front rest : List Path.Component}

/-- Names lead down a tree from one directory to another. -/
theorem takeSteps_down {onLink : Location → List Path.Component → Arrival} {names : Location}
    {entries : List (String × FileNode)} (hat : root.at? (done.reverse ++ names) = some (.directory entries))
    (rest : List Path.Component) :
    takeSteps root last onLink done (names.map .name ++ rest) =
      takeSteps root last onLink (names.reverse ++ done) rest := by
  induction names generalizing done with
  | nil => rfl
  | cons name names ih =>
      rw [FileNode.at?_append, Option.bind_eq_some_iff] at hat
      obtain ⟨node, hdone, hat⟩ := hat
      obtain ⟨others, child, rfl, hchild, hat⟩ := FileNode.exists_child hat
      have hentry : ∀ target, FileNode.entry name others = some (.link target) → False := by
        intro target htarget
        rw [hchild, Option.some.injEq] at htarget
        subst htarget
        cases names with
        | nil => cases hat
        | cons name names => cases hat
      have hnext : root.at? ((name :: done).reverse ++ names) = some (.directory entries) := by
        rw [List.reverse_cons, FileNode.at?_append, FileNode.at?_concat hdone, hchild, Option.bind_some, hat]
      simp only [List.map_cons, List.cons_append, takeSteps, hdone]
      rw [ih hnext, List.reverse_cons, List.append_assoc, List.singleton_append]

/-- The last name leads to its place in a directory, whether something is there or not, unless a link is. -/
theorem takeSteps_child {onLink : Location → List Path.Component → Arrival} {around : Location} {name : String}
    {entries : List (String × FileNode)} (hat : root.at? (done.reverse ++ around) = some (.directory entries))
    (hlink : ∀ target, root.at? (done.reverse ++ around ++ [name]) ≠ some (.link target)) :
    takeSteps root last onLink done ((around ++ [name]).map .name) =
      .ok (done.reverse ++ around ++ [name], root.at? (done.reverse ++ around ++ [name])) := by
  have hplace : root.at? (around.reverse ++ done).reverse = some (.directory entries) := by
    rw [List.reverse_append, List.reverse_reverse, hat]
  have hentry : ∀ target, FileNode.entry name entries = some (.link target) → False := by
    intro target htarget
    rw [← FileNode.at?_concat hat] at htarget
    exact hlink target htarget
  rw [List.map_append, takeSteps_down hat, List.map_singleton]
  simp only [takeSteps, hplace]
  rw [List.reverse_cons, List.reverse_append, List.reverse_reverse]

/-- Names after one that is missing lead nowhere. -/
theorem takeSteps_lost {onLink : Location → List Path.Component → Arrival} {names : Location} {name : String}
    (hway : ∀ front, front <+: names → ∀ node, root.at? (done.reverse ++ front) = some node →
      ∃ entries, node = .directory entries) (hmissing : root.at? (done.reverse ++ names) = none) :
    takeSteps root last onLink done ((names ++ [name]).map .name) = .error .notFound := by
  induction names generalizing done with
  | nil =>
      rw [List.append_nil] at hmissing
      simp only [List.nil_append, List.map_singleton, takeSteps, hmissing]
  | cons first names ih =>
      cases hdone : root.at? done.reverse with
      | none => simp only [List.cons_append, List.map_cons, takeSteps, hdone]
      | some node =>
          obtain ⟨entries, rfl⟩ := hway [] List.nil_prefix node (by rwa [List.append_nil])
          have hstep (front : Location) : done.reverse ++ first :: front = (first :: done).reverse ++ front := by
            rw [List.reverse_cons, List.append_assoc, List.singleton_append]
          have hentry : ∀ target, FileNode.entry first entries = some (.link target) → False := by
            intro target htarget
            rw [← FileNode.at?_concat hdone] at htarget
            obtain ⟨others, hother⟩ := hway [first] (by simp) _ htarget
            cases hother
          simp only [List.cons_append, List.map_cons, takeSteps, hdone]
          refine ih (fun front hfront node hnode => ?_) ?_
          · rw [← hstep] at hnode
            exact hway (first :: front) (List.cons_prefix_cons.2 ⟨rfl, hfront⟩) node hnode
          · rw [← hstep]
            exact hmissing

/-- Only a step to the root can be taken from where no directory is. -/
theorem takeSteps_stuck (root : FileNode) {step : Path.Component} (hstep : step ≠ .root)
    (hat : ∀ entries, root.at? done.reverse ≠ some (.directory entries)) :
    ∃ error, ∀ last onLink rest, takeSteps root last onLink done (step :: rest) = .error error := by
  cases hnode : root.at? done.reverse with
  | none =>
      refine ⟨.notFound, fun last onLink rest => ?_⟩
      cases step <;> simp_all [takeSteps]
  | some node =>
      refine ⟨.notDirectory, fun last onLink rest => ?_⟩
      cases node with
      | directory entries => exact absurd hnode (hat entries)
      | _ => cases step <;> simp_all [takeSteps]

/-- What one step does, whatever comes after it: it fails, it leads to the next place, or it meets a link, which
is followed unless it is the last one and a last one is not. -/
theorem takeSteps_step (root : FileNode) (done : Location) (step : Path.Component) :
    (∃ error, ∀ last onLink rest, last = true ∨ rest ≠ [] →
        takeSteps root last onLink done (step :: rest) = .error error) ∨
      (∃ done', ∀ last onLink rest, last = true ∨ rest ≠ [] →
        takeSteps root last onLink done (step :: rest) = takeSteps root last onLink done' rest) ∨
      ∃ target, ∀ last onLink rest, last = true ∨ rest ≠ [] →
        takeSteps root last onLink done (step :: rest) = onLink done (steps target ++ rest) := by
  by_cases hdirectory : ∃ entries, root.at? done.reverse = some (.directory entries)
  · obtain ⟨entries, hat⟩ := hdirectory
    cases step with
    | root => exact .inr (.inl ⟨[], fun _ _ _ _ => by rw [takeSteps]⟩)
    | here => exact .inr (.inl ⟨done, fun _ _ _ _ => by simp only [takeSteps, hat]⟩)
    | up => exact .inr (.inl ⟨done.tail, fun _ _ _ _ => by simp only [takeSteps, hat]⟩)
    | name name =>
        by_cases hlink : ∃ target, FileNode.entry name entries = some (.link target)
        · obtain ⟨target, hentry⟩ := hlink
          have hfollowed {last : Bool} {rest : List Path.Component} (hrest : last = true ∨ rest ≠ []) :
              (rest.isEmpty && !last) = false := by
            rcases hrest with rfl | hrest
            · simp
            · simp [hrest]
          by_cases hempty : target.isEmpty = true
          · exact .inl ⟨.notFound, fun _ _ _ hrest => by
              simp [takeSteps, hat, hentry, hempty, hfollowed hrest]⟩
          · exact .inr (.inr ⟨target, fun _ _ _ hrest => by
              simp [takeSteps, hat, hentry, hempty, hfollowed hrest]⟩)
        · have hentry : ∀ target, FileNode.entry name entries = some (.link target) → False :=
            fun target hentry => hlink ⟨target, hentry⟩
          exact .inr (.inl ⟨name :: done, fun _ _ _ _ => by simp only [takeSteps, hat]⟩)
  · by_cases hstep : step = .root
    · subst hstep
      exact .inr (.inl ⟨[], fun _ _ _ _ => by rw [takeSteps]⟩)
    · obtain ⟨error, hstuck⟩ := takeSteps_stuck root hstep fun entries hat => hdirectory ⟨entries, hat⟩
      exact .inl ⟨error, fun last onLink rest _ => hstuck last onLink rest⟩

/-- A longer way fails where the shorter one does, and goes on with the further steps where the shorter one
arrives, with some of the links still allowed. -/
def Continues (root : FileNode) (last : Bool) (rest : List Path.Component) (shorter longer : Arrival) : Prop :=
  match shorter with
  | .ok (location, _) => ∃ links, longer = follow root last links location.reverse rest
  | .error e => longer = .error e

theorem takeSteps_append {onLink onLink' : Location → List Path.Component → Arrival}
    (links : Nat) (hrest : rest ≠ [])
    (hend : ∀ done, takeSteps root last onLink' done rest = follow root last links done rest)
    (honLink : ∀ done steps, Continues root last rest (onLink done steps) (onLink' done (steps ++ rest)))
    (front : List Path.Component) (done : Location) :
    Continues root last rest (takeSteps root true onLink done front)
      (takeSteps root last onLink' done (front ++ rest)) := by
  induction front generalizing done with
  | nil =>
      rw [takeSteps, List.nil_append, hend]
      exact ⟨links, by rw [List.reverse_reverse]⟩
  | cons step front ih =>
      have hmore : front ++ rest ≠ [] := by simp [hrest]
      rw [List.cons_append]
      rcases takeSteps_step root done step with ⟨error, hstep⟩ | ⟨done', hstep⟩ | ⟨target, hstep⟩
      · rw [hstep _ _ _ (.inl rfl), hstep _ _ _ (.inr hmore)]
        rfl
      · rw [hstep _ _ _ (.inl rfl), hstep _ _ _ (.inr hmore)]
        exact ih done'
      · rw [hstep _ _ _ (.inl rfl), hstep _ _ _ (.inr hmore), ← List.append_assoc]
        exact honLink done _

/-- Links on the way to where further steps begin are followed even if a last one is not. -/
theorem follow_append (root : FileNode) (last : Bool) (hrest : rest ≠ []) (links : Nat) (done : Location)
    (front : List Path.Component) :
    Continues root last rest (follow root true links done front)
      (follow root last links done (front ++ rest)) := by
  induction links generalizing front done with
  | zero =>
      have hgivenUp : Continues root last rest (.error .tooManyLinks) (.error .tooManyLinks) := rfl
      exact takeSteps_append 0 hrest (fun _ => rfl) (fun _ _ => hgivenUp) front done
  | succ links ih =>
      exact takeSteps_append (links + 1) hrest (fun _ => rfl) (fun done steps => ih done steps) front done

/-! ## Directories -/

theorem follow_eq_takeSteps (root : FileNode) (last : Bool) (links : Nat) :
    ∃ onLink, follow root last links = takeSteps root last onLink := by
  cases links with
  | zero => exact ⟨_, rfl⟩
  | succ links => exact ⟨_, rfl⟩

/-- Steps other than one to the root can be taken only from where a directory is. -/
theorem exists_directory_of_follow {step : Path.Component} (hstep : step ≠ .root)
    {arrival : Location × Option FileNode}
    (harrival : follow root last links done (step :: rest) = .ok arrival) :
    ∃ entries, root.at? done.reverse = some (.directory entries) := by
  obtain ⟨onLink, hfollow⟩ := follow_eq_takeSteps root last links
  by_contra hnone
  obtain ⟨error, hstuck⟩ := takeSteps_stuck root hstep fun entries hat => hnone ⟨entries, hat⟩
  rw [hfollow, hstuck] at harrival
  cases harrival

/-- The step that demands a directory is taken where the path already is. -/
theorem follow_here {entries : List (String × FileNode)}
    (hat : root.at? done.reverse = some (.directory entries)) :
    follow root last links done [.here] = .ok (done.reverse, some (.directory entries)) := by
  obtain ⟨onLink, hfollow⟩ := follow_eq_takeSteps root last links
  simp only [hfollow, takeSteps, hat]

/-- If further steps lead anywhere then the ones before lead to a directory. -/
theorem exists_directory_of_append {step : Path.Component} (hstep : step ≠ .root)
    {arrival : Location × Option FileNode}
    (harrival : follow root last links done (front ++ step :: rest) = .ok arrival) :
    ∃ location entries, follow root true links done front = .ok (location, some (.directory entries)) := by
  have hcontinues := follow_append root last (List.cons_ne_nil step rest) links done front
  rw [harrival] at hcontinues
  cases hshorter : follow root true links done front with
  | error e =>
      rw [hshorter] at hcontinues
      cases hcontinues
  | ok shorter =>
      obtain ⟨location, node?⟩ := shorter
      rw [hshorter] at hcontinues
      obtain ⟨links', hlonger⟩ := hcontinues
      obtain ⟨entries, hat⟩ := exists_directory_of_follow hstep hlonger.symm
      rw [List.reverse_reverse] at hat
      obtain rfl : node? = some (.directory entries) := (follow_at? hshorter).symm.trans hat
      exact ⟨location, entries, rfl⟩

theorem follow_concat_here {entries : List (String × FileNode)} :
    follow root true links done (front ++ [.here]) = .ok (location, some (.directory entries)) ↔
      follow root true links done front = .ok (location, some (.directory entries)) := by
  have hhere {location : Location} {entries : List (String × FileNode)}
      (hfront : follow root true links done front = .ok (location, some (.directory entries))) :
      follow root true links done (front ++ [.here]) = .ok (location, some (.directory entries)) := by
    have hcontinues := follow_append root true (List.cons_ne_nil Path.Component.here []) links done front
    rw [hfront] at hcontinues
    obtain ⟨links', hlonger⟩ := hcontinues
    have hat : root.at? location.reverse.reverse = some (.directory entries) := by
      rw [List.reverse_reverse]
      exact follow_at? hfront
    rw [hlonger, follow_here hat, List.reverse_reverse]
  constructor
  · intro hlonger
    obtain ⟨location', entries', hfront⟩ := exists_directory_of_append (by simp) hlonger
    rw [hfront, ← hlonger, hhere hfront]
  · exact hhere

/-- Where nothing is, or where even the way is missing. -/
def IsLost (arrival : Arrival) : Prop :=
  arrival = .error .notFound ∨ ∃ location, arrival = .ok (location, none)

theorem follow_append_lost {step : Path.Component} (hstep : step ≠ .root)
    (hlost : IsLost (follow root true links done front)) :
    follow root last links done (front ++ step :: rest) = .error .notFound := by
  have hcontinues := follow_append root last (List.cons_ne_nil step rest) links done front
  rcases hlost with herror | ⟨location, hmissing⟩
  · rwa [herror] at hcontinues
  · rw [hmissing] at hcontinues
    obtain ⟨links', hlonger⟩ := hcontinues
    obtain ⟨onLink, hfollow⟩ := follow_eq_takeSteps root last links'
    have hat : root.at? location.reverse.reverse = none := by
      rw [List.reverse_reverse]
      exact follow_at? hmissing
    rw [hlonger, hfollow]
    cases step <;> simp_all [takeSteps]

theorem follow_concat_here_lost (hlost : IsLost (follow root true links done (front ++ [.here]))) :
    IsLost (follow root true links done front) := by
  have hcontinues := follow_append root true (List.cons_ne_nil Path.Component.here []) links done front
  cases hfront : follow root true links done front with
  | error e =>
      rw [hfront] at hcontinues
      rwa [hcontinues] at hlost
  | ok arrival =>
      obtain ⟨location, node?⟩ := arrival
      have hat := follow_at? hfront
      rw [hfront] at hcontinues
      obtain ⟨links', hlonger⟩ := hcontinues
      obtain ⟨onLink, hfollow⟩ := follow_eq_takeSteps root true links'
      rw [hlonger, hfollow] at hlost
      cases node? with
      | none => exact .inr ⟨location, rfl⟩
      | some node =>
          -- something is there, which is a directory or makes the step fail in another way
          cases node <;> simp_all [takeSteps, IsLost]

end Descent

/-! ## Paths into a directory -/

section Paths

variable {tree : FileTree} {last : Bool} {directory path : String} {location names : Location}
  {entries : List (String × FileNode)} {rest : List Path.Component}

theorem ne_empty_of_locate {arrival : Location × Option FileNode} (hlocate : tree.locate last path = .ok arrival) :
    path ≠ "" := by
  rintro rfl
  cases hlocate

theorem locate_eq_follow (hpath : path ≠ "") :
    tree.locate last path =
      follow tree.root last linkLimit [] (steps (Path.join tree.workingDirectory path)) := by
  rw [locate, if_neg (by simpa using hpath)]

/-- A separator at the end of the path of a directory does not count. -/
theorem locate_directory_iff (hdirectory : directory ≠ "") :
    tree.locate true directory = .ok (location, some (.directory entries)) ↔
      follow tree.root true linkLimit [] (stepsInto (Path.join tree.workingDirectory directory)) =
        .ok (location, some (.directory entries)) := by
  rw [locate_eq_follow hdirectory, steps_eq_stepsInto]
  split
  · exact follow_concat_here
  · rw [List.append_nil]

/-- The way to a path below a directory goes on from where the directory is. -/
theorem locate_below (hextends : Extends directory names path) (hne : names ≠ [])
    (hlocate : tree.locate true directory = .ok (location, some (.directory entries))) (last : Bool) :
    ∃ links, tree.locate last path = follow tree.root last links location.reverse (names.map .name) := by
  have hrest : names.map Path.Component.name ≠ [] := by simpa using hne
  have hcontinues := follow_append tree.root last hrest linkLimit []
    (stepsInto (Path.join tree.workingDirectory directory))
  rw [(locate_directory_iff (ne_empty_of_locate hlocate)).1 hlocate, ← hextends.steps] at hcontinues
  rw [locate_eq_follow hextends.ne_empty]
  exact hcontinues

/-- A path below a directory leads to the place of its last name in the directory around. -/
theorem locate_child {around : Location} {name : String} {others : List (String × FileNode)}
    (hextends : Extends directory (around ++ [name]) path)
    (hlocate : tree.locate true directory = .ok (location, some (.directory entries)))
    (haround : tree.root.at? (location ++ around) = some (.directory others))
    (hlink : ∀ target, tree.root.at? (location ++ around ++ [name]) ≠ some (.link target)) (last : Bool) :
    tree.locate last path =
      .ok (location ++ around ++ [name], tree.root.at? (location ++ around ++ [name])) := by
  obtain ⟨links, hbelow⟩ := locate_below hextends (by simp) hlocate last
  obtain ⟨onLink, hfollow⟩ := follow_eq_takeSteps tree.root last links
  rw [← List.reverse_reverse location] at haround hlink
  rw [hbelow, hfollow, takeSteps_child haround hlink, List.reverse_reverse]

/-- A path below a directory leads to the node that is there, by the names on the way down. -/
theorem locate_names (hextends : Extends directory names path) (hne : names ≠ [])
    (hlocate : tree.locate true directory = .ok (location, some (.directory entries))) {node : FileNode}
    (hat : (FileNode.directory entries).at? names = some node) (hlink : ∀ target, node ≠ .link target)
    (last : Bool) : tree.locate last path = .ok (location ++ names, some node) := by
  rcases names.eq_nil_or_concat with rfl | ⟨around, name, rfl⟩
  · exact absurd rfl hne
  · rw [List.concat_eq_append] at hextends hat ⊢
    have hroot (rest : Location) : tree.root.at? (location ++ rest) = (FileNode.directory entries).at? rest := by
      rw [FileNode.at?_append, locate_at? hlocate, Option.bind_some]
    have hplace : tree.root.at? (location ++ around ++ [name]) = some node := by
      rw [List.append_assoc, hroot, hat]
    have hplaceLink : ∀ target, tree.root.at? (location ++ around ++ [name]) ≠ some (.link target) := by
      intro target htarget
      rw [hplace, Option.some.injEq] at htarget
      exact hlink target htarget
    rw [FileNode.at?_append] at hat
    obtain ⟨middle, hmiddle, hchild⟩ := Option.bind_eq_some_iff.1 hat
    obtain ⟨others, child, rfl, -⟩ := FileNode.exists_child hchild
    rw [locate_child hextends hlocate (by rw [hroot, hmiddle]) hplaceLink, hplace, List.append_assoc]

/-- A path below a directory that goes on after a missing name leads nowhere. -/
theorem locate_lost {around : Location} {name : String} (hextends : Extends directory (around ++ [name]) path)
    (hlocate : tree.locate true directory = .ok (location, some (.directory entries)))
    (hway : ∀ front, front <+: around → ∀ node, tree.root.at? (location ++ front) = some node →
      ∃ entries, node = .directory entries) (hmissing : tree.root.at? (location ++ around) = none)
    (last : Bool) : tree.locate last path = .error .notFound := by
  obtain ⟨links, hbelow⟩ := locate_below hextends (by simp) hlocate last
  obtain ⟨onLink, hfollow⟩ := follow_eq_takeSteps tree.root last links
  rw [← List.reverse_reverse location] at hway hmissing
  rw [hbelow, hfollow, takeSteps_lost hway hmissing]

theorem find_eq_notFound_iff : tree.find path = .error .notFound ↔ IsLost (tree.locate true path) := by
  rw [find, IsLost]
  cases tree.locate true path with
  | error e => simp
  | ok arrival =>
      obtain ⟨location, node?⟩ := arrival
      cases node? <;> simp

/-- The steps of a path that leads nowhere lead nowhere, with or without a last one that demands a directory. -/
theorem lost_of_find (hpath : path ≠ "") (hfind : tree.find path = .error .notFound) :
    IsLost (follow tree.root true linkLimit [] (stepsInto (Path.join tree.workingDirectory path))) := by
  rw [find_eq_notFound_iff, locate_eq_follow hpath, steps_eq_stepsInto] at hfind
  split at hfind
  · exact follow_concat_here_lost hfind
  · rwa [List.append_nil] at hfind

/-- Below a path that leads nowhere all paths lead nowhere. -/
theorem locate_of_lost (hextends : Extends directory names path) (hne : names ≠ []) (hdirectory : directory ≠ "")
    (hfind : tree.find directory = .error .notFound) (last : Bool) :
    tree.locate last path = .error .notFound := by
  rw [locate_eq_follow hextends.ne_empty, hextends.steps]
  cases names with
  | nil => exact absurd rfl hne
  | cons name names => exact follow_append_lost (by simp) (lost_of_find hdirectory hfind)

/-- Below what is no directory a path leads nowhere. -/
theorem exists_directory_of_extends (hextends : Extends directory names path) (hne : names ≠ [])
    (hdirectory : directory ≠ "") {arrival : Location × Option FileNode}
    (hlocate : tree.locate last path = .ok arrival) :
    ∃ location entries, tree.locate true directory = .ok (location, some (.directory entries)) := by
  rw [locate_eq_follow hextends.ne_empty, hextends.steps] at hlocate
  cases names with
  | nil => exact absurd rfl hne
  | cons name names =>
      obtain ⟨location, entries, hfollow⟩ := exists_directory_of_append (by simp) hlocate
      exact ⟨location, entries, (locate_directory_iff hdirectory).2 hfollow⟩

end Paths

end ReleasePress.FileTree
