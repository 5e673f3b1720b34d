import ReleasePress.Proofs.Files.Descent

/-! # Parents of paths

Before a file is written below a directory, the directory around it is made. Its path is cut from the path of
the file, and separators and dots at its end go as well: this is the path of the directory below by one name
less, or the path of the directory itself without such an end (`Path.parent?_join`). -/

namespace ReleasePress.Path

/-! ## The end of a path -/

/-- A path without separators and `.` components at its end; the root stays. -/
def trimmed (path : String) : String :=
  String.ofList (trimBack path.toList.reverse).reverse

theorem trimBack_suffix (back : List Char) : trimBack back <:+ back := by
  fun_induction trimBack back with
  | case1 => exact List.suffix_rfl
  | case2 rest hroot ih => exact ih.trans (List.suffix_cons _ _)
  | case3 rest ih => exact ih.trans (List.suffix_cons _ _)
  | case4 => exact List.suffix_rfl

theorem trimBack_ne_nil {back : List Char} (hback : back ≠ []) : trimBack back ≠ [] := by
  fun_induction trimBack back with
  | case1 => simp
  | case2 rest hroot ih => exact ih fun hrest => hroot (by rw [hrest])
  | case3 rest ih => exact ih (by simp)
  | case4 => exact hback

theorem trimBack_slash {rest : List Char} (hrest : rest ≠ []) : trimBack ('/' :: rest) = trimBack rest := by
  cases rest with
  | nil => exact absurd rfl hrest
  | cons c rest => rw [trimBack]; simp

/-- Only the root ends in a separator then. -/
theorem eq_nil_of_trimBack {back rest : List Char} (htrim : trimBack back = '/' :: rest) : rest = [] := by
  fun_induction trimBack back with
  | case1 => simpa using htrim.symm
  | case2 rest' hroot ih => exact ih htrim
  | case3 rest' ih => exact ih htrim
  | case4 other hroot hslash hdot => exact absurd htrim (hslash rest)

/-- A name at the end of a path stays. -/
theorem trimBack_name {name : String} (hname : IsEntryName name) (rest : List Char) :
    trimBack (name.toList.reverse ++ rest) = name.toList.reverse ++ rest := by
  have hslash (before : List Char) {c : Char} {cs : List Char} (hback : name.toList.reverse = before ++ c :: cs) :
      c ≠ '/' := by
    rintro rfl
    have hmem : '/' ∈ name.toList.reverse := by simp [hback]
    exact hname.noSlash (List.mem_reverse.1 hmem)
  cases hback : name.toList.reverse with
  | nil => exact absurd (List.reverse_eq_nil_iff.1 hback) hname.ne_nil
  | cons c cs =>
      have hc : c ≠ '/' := hslash [] hback
      cases cs with
      | nil =>
          have hdot : c ≠ '.' := by
            rintro rfl
            exact hname.ne_here (by simpa using congrArg List.reverse hback)
          rw [trimBack.eq_4] <;> simp [hc, hdot]
      | cons d cs =>
          have hd : d ≠ '/' := hslash [c] hback
          rw [trimBack.eq_4] <;> simp [hc, hd]

/-! ## Separators at the end -/

theorem trimSeparators_of_getLast? {path : String} (hlast : path.toList.getLast? ≠ some '/') :
    FileTree.trimSeparators path = path := by
  rw [FileTree.trimSeparators]
  cases hback : path.toList.reverse with
  | nil =>
      obtain rfl : path = "" := by simpa using hback
      rfl
  | cons c back =>
      have hc : c ≠ '/' := by
        rintro rfl
        rw [← List.head?_reverse, hback] at hlast
        exact hlast rfl
      have hpath : path = String.ofList (c :: back).reverse := by
        rw [← hback, List.reverse_reverse, String.ofList_toList]
      simp [hc, hpath]

theorem trimSeparators_trimmed (path : String) : FileTree.trimSeparators (trimmed path) = trimmed path := by
  cases htrim : trimBack path.toList.reverse with
  | nil =>
      rw [trimmed, htrim]
      rfl
  | cons c back =>
      by_cases hc : c = '/'
      · subst hc
        obtain rfl := eq_nil_of_trimBack htrim
        rw [trimmed, htrim]
        rfl
      · refine trimSeparators_of_getLast? ?_
        rw [trimmed, htrim, String.toList_ofList, List.getLast?_reverse]
        simpa using hc

theorem trimmed_ne_empty {path : String} (hpath : path ≠ "") : trimmed path ≠ "" := by
  intro htrim
  have hback : path.toList.reverse ≠ [] := by simpa using hpath
  have hempty := congrArg String.toList htrim
  rw [trimmed, String.toList_ofList] at hempty
  exact trimBack_ne_nil hback (by simpa using hempty)

theorem exists_trimmed_append (path : String) : ∃ rest, path = trimmed path ++ rest := by
  obtain ⟨rest, hrest⟩ := trimBack_suffix path.toList.reverse
  refine ⟨String.ofList rest.reverse, ?_⟩
  have hpath := congrArg List.reverse hrest
  rw [List.reverse_append, List.reverse_reverse] at hpath
  rw [← String.toList_inj, String.toList_append, trimmed, String.toList_ofList, String.toList_ofList, hpath]

/-! ## The parent of a path below a directory -/

/-- A path that ends in a name has a parent. -/
theorem parent?_of_name {path name : String} {front : List Char} (hname : IsEntryName name)
    (hpath : path.toList = front ++ '/' :: name.toList) :
    parent? path = some (String.ofList (trimBack ('/' :: front.reverse)).reverse) := by
  have hlast : ofPieces name.toList = [.name name] := by
    rw [ofPieces, List.splitOn_eq_singleton hname.noSlash]
    simp [componentOf?, hname.ne_nil, hname.ne_here, hname.ne_up]
  have hcomponents : ∃ before, components path = before ++ [.name name] := by
    rw [components_eq, hpath, ofPieces_append, hlast]
    exact ⟨_, (List.append_assoc _ _ _).symm⟩
  obtain ⟨before, hcomponents⟩ := hcomponents
  have hempty : components path ≠ [] := by simp [hcomponents]
  have hroot : components path ≠ [.root] := by
    intro hroot
    rw [hcomponents] at hroot
    have hlast := congrArg List.getLast? hroot
    simp at hlast
  have hback : path.toList.reverse = name.toList.reverse ++ '/' :: front.reverse := by simp [hpath]
  have hdrop : (name.toList.reverse ++ '/' :: front.reverse).dropWhile (· ≠ '/') = '/' :: front.reverse := by
    rw [List.dropWhile_append_of_pos, List.dropWhile_cons_of_neg (by simp)]
    intro c hc
    have hc' : c ≠ '/' := by
      rintro rfl
      exact hname.noSlash (List.mem_reverse.1 hc)
    simpa using hc'
  rw [parent?, if_neg (by simp [hempty, hroot]), hback, trimBack_name hname, hdrop]

/-- The directory that a file needs at some names below another directory. -/
def room (directory : String) : Location → String
  | [] => trimmed directory
  | first :: names => join directory ("/".intercalate (first :: names))

theorem room_concat (directory name : String) (names : Location) :
    room directory (names ++ [name]) = join directory ("/".intercalate (names ++ [name])) := by
  cases names <;> rfl

theorem room_ne_empty {directory : String} (hdirectory : directory ≠ "") {names : Location}
    (hnames : ∀ name ∈ names, IsEntryName name) : room directory names ≠ "" := by
  cases names with
  | nil => exact trimmed_ne_empty hdirectory
  | cons first names => exact (FileTree.extends_join hdirectory (by simp) hnames).ne_empty

section Names

variable {directory name : String} {names : Location} (hnames : ∀ part ∈ names ++ [name], IsEntryName part)

include hnames

theorem exists_join_eq_name :
    ∃ front, (join directory ("/".intercalate (names ++ [name]))).toList = front ++ name.toList := by
  rw [join_of_relative (FileTree.not_isAbsolute_names (by simp) hnames)]
  cases names with
  | nil => exact ⟨(directory ++ separator directory).toList, by simp⟩
  | cons first names =>
      rw [String.intercalate_append_of_ne_nil (by simp) (by simp), String.intercalate_singleton]
      exact ⟨(directory ++ separator directory ++ "/".intercalate (first :: names) ++ "/").toList,
        by simp [String.toList_append]⟩

/-- Nothing is cut from a path that ends in a name. -/
theorem trimmed_join : trimmed (join directory ("/".intercalate (names ++ [name]))) =
    join directory ("/".intercalate (names ++ [name])) := by
  obtain ⟨front, hfront⟩ : ∃ front, (join directory ("/".intercalate (names ++ [name]))).toList =
      front ++ name.toList := exists_join_eq_name hnames
  rw [trimmed, hfront, List.reverse_append, trimBack_name (hnames name (by simp)), ← List.reverse_append,
    List.reverse_reverse, ← hfront, String.ofList_toList]

theorem trimSeparators_join : FileTree.trimSeparators (join directory ("/".intercalate (names ++ [name]))) =
    join directory ("/".intercalate (names ++ [name])) := by
  have htrim := trimSeparators_trimmed (join directory ("/".intercalate (names ++ [name])))
  rwa [trimmed_join hnames] at htrim

/-- The parent of a path below a directory is the path below it by one name less. -/
theorem parent?_join (hdirectory : directory ≠ "") :
    parent? (join directory ("/".intercalate (names ++ [name]))) = some (room directory names) := by
  have hname := hnames name (by simp)
  have hne : directory.toList ≠ [] := by simpa using hdirectory
  cases names with
  | nil =>
      have hjoin : join directory ("/".intercalate ([] ++ [name])) = directory ++ separator directory ++ name := by
        rw [join_of_relative (FileTree.not_isAbsolute_names (by simp) hnames)]
        simp
      rw [hjoin, room, trimmed]
      by_cases hslash : directory.toList.getLast? = some '/'
      · obtain ⟨front, hfront⟩ := List.getLast?_eq_some_iff.1 hslash
        have hpath : (directory ++ separator directory ++ name).toList = front ++ '/' :: name.toList := by
          simp [separator, hfront]
        rw [parent?_of_name hname hpath, hfront, List.reverse_concat]
      · have hpath : (directory ++ separator directory ++ name).toList =
            directory.toList ++ '/' :: name.toList := by
          simp [separator, hslash, hdirectory]
        rw [parent?_of_name hname hpath, trimBack_slash (by simpa using hne)]
  | cons first names =>
      have hbefore : ∀ part ∈ first :: names, IsEntryName part :=
        fun part hpart => hnames part (List.mem_append_left _ hpart)
      have hpath : (join directory ("/".intercalate (first :: names ++ [name]))).toList =
          (join directory ("/".intercalate (first :: names))).toList ++ '/' :: name.toList := by
        rw [join_of_relative (FileTree.not_isAbsolute_names (by simp) hnames),
          join_of_relative (FileTree.not_isAbsolute_names (by simp) hbefore),
          String.intercalate_append_of_ne_nil (by simp) (by simp), String.intercalate_singleton]
        simp
      have hjoined : (join directory ("/".intercalate (first :: names))).toList.reverse ≠ [] := by
        simpa using (FileTree.extends_join hdirectory (by simp) hbefore).ne_empty
      rw [parent?_of_name hname hpath, trimBack_slash hjoined, room]
      rcases List.eq_nil_or_concat (first :: names) with hnil | ⟨before, last, hconcat⟩
      · cases hnil
      · rw [List.concat_eq_append] at hconcat
        rw [hconcat] at hbefore ⊢
        exact congrArg some (trimmed_join hbefore)

end Names

theorem length_le_intercalate {names : List String} (hnames : ∀ name ∈ names, IsEntryName name) :
    names.length ≤ ("/".intercalate names).length := by
  induction names with
  | nil => simp
  | cons name names ih =>
      have hname : 0 < name.length := by
        have hne := (hnames name (by simp)).ne_nil
        rw [← String.length_toList]
        exact List.length_pos_iff.2 hne
      have hrest := ih fun other hother => hnames other (by simp [hother])
      cases names with
      | nil => simpa using Nat.succ_le_of_lt hname
      | cons second names =>
          rw [String.intercalate_cons_of_ne_nil (by simp)]
          simp only [String.length_append, List.length_cons] at hrest ⊢
          omega

/-- The path of a directory is longer by each name below another directory. -/
theorem length_room {directory : String} {names : Location} (hnames : ∀ name ∈ names, IsEntryName name) :
    (trimmed directory).length + names.length ≤ (room directory names).length := by
  cases names with
  | nil => simp [room]
  | cons first names =>
      obtain ⟨rest, hrest⟩ := exists_trimmed_append directory
      have hlength := congrArg String.length hrest
      have hnamesLength := length_le_intercalate hnames
      rw [String.length_append] at hlength
      rw [room, join_of_relative (FileTree.not_isAbsolute_names (by simp) hnames), String.length_append,
        String.length_append]
      omega

end ReleasePress.Path

namespace ReleasePress.FileTree

/-! ## The way to a path without its end -/

theorem stepsInto_ofList (text : List Char) :
    stepsInto (String.ofList text) =
      (if text.head? = some '/' then [.root] else []) ++ (text.splitOn '/').filterMap stepOf? := by
  simp only [stepsInto, Path.isAbsolute_iff, String.toList_ofList]

theorem stepsInto_slash {text : List Char} (htext : text ≠ []) :
    stepsInto (String.ofList (text ++ ['/'])) = stepsInto (String.ofList text) := by
  rw [stepsInto_ofList, stepsInto_ofList, List.head?_append_of_ne_nil _ htext, List.splitOn_append_cons_self,
    List.filterMap_append]
  simp [stepOf?]

theorem stepsInto_here (text : List Char) :
    stepsInto (String.ofList (text ++ ['/', '.'])) = stepsInto (String.ofList (text ++ ['/'])) ++ [.here] := by
  have hhead : (text ++ ['/', '.']).head? = (text ++ ['/']).head? := by cases text <;> rfl
  have hdot : (['.'] : List Char).splitOn '/' = [['.']] := rfl
  rw [stepsInto_ofList, stepsInto_ofList, hhead, List.splitOn_append_cons_self, List.splitOn_append_cons_self,
    List.filterMap_append, List.filterMap_append, hdot]
  simp [stepOf?]

/-- The end of a path takes steps only that stay where they are. -/
theorem stepsInto_trimBack (front back : List Char) :
    ∃ n, stepsInto (String.ofList (front ++ back.reverse)) =
      stepsInto (String.ofList (front ++ (Path.trimBack back).reverse)) ++ List.replicate n .here := by
  fun_induction Path.trimBack back with
  | case1 => exact ⟨0, by simp⟩
  | case2 rest hroot ih =>
      obtain ⟨n, hn⟩ := ih
      have hrest : front ++ rest.reverse ≠ [] := by
        intro hnil
        obtain ⟨-, hnil⟩ := List.append_eq_nil_iff.1 hnil
        exact hroot (List.reverse_eq_nil_iff.1 hnil)
      exact ⟨n, by rw [List.reverse_cons, ← List.append_assoc, stepsInto_slash hrest, hn]⟩
  | case3 rest ih =>
      obtain ⟨n, hn⟩ := ih
      have hend : front ++ ('.' :: '/' :: rest).reverse = front ++ rest.reverse ++ ['/', '.'] := by simp
      have hslash : front ++ ('/' :: rest).reverse = front ++ rest.reverse ++ ['/'] := by simp
      rw [hslash] at hn
      exact ⟨n + 1, by rw [hend, stepsInto_here, hn, List.append_assoc, ← List.replicate_succ']⟩
  | case4 => exact ⟨0, by simp⟩

theorem stepsInto_trimmed {path : String} (hpath : path ≠ "") (base : String) :
    ∃ n, stepsInto (Path.join base path) =
      stepsInto (Path.join base (Path.trimmed path)) ++ List.replicate n .here := by
  obtain ⟨rest, hrest⟩ := Path.exists_trimmed_append path
  obtain ⟨front, hfront⟩ := Path.exists_join_eq_append base (Path.trimmed path)
  have hwhole : Path.join base path = front ++ path := by
    rw [hrest, Path.join_append (Path.trimmed_ne_empty hpath), ← hrest, hfront, String.append_assoc, ← hrest]
  obtain ⟨n, hn⟩ := stepsInto_trimBack front.toList path.toList.reverse
  rw [List.reverse_reverse, ← String.toList_append, String.ofList_toList] at hn
  have htrimmed : String.ofList (front.toList ++ (Path.trimBack path.toList.reverse).reverse) =
      front ++ Path.trimmed path := by
    rw [← String.toList_inj, String.toList_ofList, String.toList_append, Path.trimmed, String.toList_ofList]
  exact ⟨n, by rw [hwhole, hfront, hn, htrimmed]⟩

theorem follow_replicate_here {root : FileNode} {links n : Nat} {done location : Location}
    {front : List Path.Component} {entries : List (String × FileNode)} :
    follow root true links done (front ++ List.replicate n .here) = .ok (location, some (.directory entries)) ↔
      follow root true links done front = .ok (location, some (.directory entries)) := by
  induction n with
  | zero => simp
  | succ n ih => rw [List.replicate_succ', ← List.append_assoc, follow_concat_here, ih]

/-- The end of the path of a directory does not count. -/
theorem locate_trimmed_iff {tree : FileTree} {path : String} (hpath : path ≠ "") {location : Location}
    {entries : List (String × FileNode)} :
    tree.locate true (Path.trimmed path) = .ok (location, some (.directory entries)) ↔
      tree.locate true path = .ok (location, some (.directory entries)) := by
  obtain ⟨n, hn⟩ := stepsInto_trimmed hpath tree.workingDirectory
  rw [locate_directory_iff (Path.trimmed_ne_empty hpath), locate_directory_iff hpath, hn,
    follow_replicate_here]

/-- What leads nowhere leads nowhere with separators and dots at its end. -/
theorem find_of_trimmed {tree : FileTree} {path : String} (hpath : path ≠ "")
    (hfind : tree.find (Path.trimmed path) = .error .notFound) : tree.find path = .error .notFound := by
  have hlost := lost_of_find (Path.trimmed_ne_empty hpath) hfind
  have hsteps : ∃ n, steps (Path.join tree.workingDirectory path) =
      stepsInto (Path.join tree.workingDirectory (Path.trimmed path)) ++ List.replicate n .here := by
    obtain ⟨n, hn⟩ := stepsInto_trimmed hpath tree.workingDirectory
    rw [steps_eq_stepsInto, hn]
    split
    · exact ⟨n + 1, by rw [List.append_assoc, ← List.replicate_succ']⟩
    · exact ⟨n, by rw [List.append_nil]⟩
  obtain ⟨n, hn⟩ := hsteps
  rw [find_eq_notFound_iff, locate_eq_follow hpath, hn]
  cases n with
  | zero => rwa [List.replicate_zero, List.append_nil]
  | succ n => exact .inl (follow_append_lost (by simp) hlost)

end ReleasePress.FileTree
