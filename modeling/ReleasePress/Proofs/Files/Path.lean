import Mathlib.Data.List.Basic
import ReleasePress.Files.Path
import ReleasePress.Proofs.Text.Split

/-! # Paths beneath a directory

Whether a path stays beneath the directory that it is seen from can be told from its components: none of
them may start at the root, and steps up may only undo steps down that were taken before. -/

namespace ReleasePress.Path

open ReleasePress.Text

/-! ## Depth -/

/-- How deep the components of a path lead from a depth of `n`, unless they start at the root or climb
above the beginning. -/
def depthFrom : Nat → List Component → Option Nat
  | n, [] => some n
  | _, .root :: _ => none
  | n, .here :: rest => depthFrom n rest
  | 0, .up :: _ => none
  | n + 1, .up :: rest => depthFrom n rest
  | n, .name _ :: rest => depthFrom (n + 1) rest

/-- A path that is not absolute and whose components never climb above the directory it is seen from. -/
def StaysBeneath (path : String) : Prop :=
  ∃ n, depthFrom 0 (components path) = some n

/-- A path that goes through all components of a directory and then never climbs above it. -/
def Beneath (directory path : String) : Prop :=
  ∃ rest n, components path = components directory ++ rest ∧ depthFrom 0 rest = some n

theorem depthFrom_append (n : Nat) (front rest : List Component) :
    depthFrom n (front ++ rest) = (depthFrom n front).bind fun n => depthFrom n rest := by
  induction front generalizing n with
  | nil => rfl
  | cons component front ih =>
      cases component with
      | root => rfl
      | here => exact ih n
      | up =>
          cases n with
          | zero => rfl
          | succ n => exact ih n
      | name text => exact ih (n + 1)

/-! ## Pieces -/

/-- The components that the pieces between separators stand for. -/
def ofPieces (text : List Char) : List Component :=
  (text.splitOn '/').filterMap componentOf?

/-- Between the slashes of joined names are the names. -/
theorem splitOn_intercalate {names : List String} (hne : names ≠ [])
    (hslash : ∀ name ∈ names, '/' ∉ name.toList) :
    ("/".intercalate names).toList.splitOn '/' = names.map String.toList := by
  have hseparator : "/".toList = ['/'] := rfl
  rw [String.toList_intercalate, hseparator]
  refine List.splitOn_intercalate '/' (fun piece hpiece => ?_) (by simpa using hne)
  obtain ⟨name, hname, rfl⟩ := List.mem_map.1 hpiece
  exact hslash name hname

theorem isAbsolute_iff (path : String) : isAbsolute path = true ↔ path.toList.head? = some '/' := by
  rw [isAbsolute, startsWith, Option.isSome_iff_exists]
  simp only [dropHead?_eq_some_iff]
  constructor
  · rintro ⟨rest, hrest⟩
    rw [hrest]
    rfl
  · intro hhead
    obtain ⟨rest, hrest⟩ := List.head?_eq_some_iff.1 hhead
    exact ⟨rest, hrest⟩

theorem not_staysBeneath_of_isAbsolute {path : String} (habsolute : isAbsolute path = true) :
    ¬StaysBeneath path := by
  rintro ⟨n, hdepth⟩
  simp only [components, habsolute, if_true] at hdepth
  cases hdepth

/-- Of a path that is not absolute the pieces alone tell the depth. -/
theorem depthFrom_components {path : String} (hrelative : isAbsolute path = false) (n : Nat) :
    depthFrom n (components path) = depthFrom n (ofPieces path.toList) := by
  simp only [components, hrelative, Bool.false_eq_true, if_false]
  split
  · rfl
  · rfl

theorem staysBeneath_iff (path : String) :
    StaysBeneath path ↔ isAbsolute path = false ∧ ∃ n, depthFrom 0 (ofPieces path.toList) = some n := by
  cases habsolute : isAbsolute path with
  | true => simp [not_staysBeneath_of_isAbsolute habsolute]
  | false => simp [StaysBeneath, depthFrom_components habsolute]

theorem isAbsolute_iff_of_splitOn {path : String} {front : List (List Char)} {last : List Char}
    (hpieces : path.toList.splitOn '/' = front ++ [last]) :
    isAbsolute path = true ↔ front.head? = some [] := by
  rw [isAbsolute_iff]
  cases htext : path.toList with
  | nil =>
      rw [htext] at hpieces
      have hfront : front = [] := by
        cases front with
        | nil => rfl
        | cons first front => simp at hpieces
      simp [hfront]
  | cons c text =>
      rw [htext, List.splitOn_cons_eq_if_modifyHead] at hpieces
      by_cases hc : c = '/'
      · rw [if_pos (by simp [hc])] at hpieces
        cases front with
        | nil => simp [List.splitOn_ne_nil] at hpieces
        | cons first front =>
            have hfirst := (List.cons.inj hpieces).1
            simp [hc, ← hfirst]
      · rw [if_neg (by simp [hc])] at hpieces
        cases front with
        | nil => simp [hc]
        | cons first front =>
            cases hsplit : text.splitOn '/' with
            | nil => exact absurd hsplit (List.splitOn_ne_nil _ _)
            | cons first' others =>
                rw [hsplit, List.modifyHead_cons] at hpieces
                have hfirst := (List.cons.inj hpieces).1
                simp [hc, ← hfirst]

/-- The last piece of a path climbs above the beginning only if it is `..` right at the beginning. -/
theorem staysBeneath_iff_of_splitOn {path : String} {front : List (List Char)} {last : List Char}
    (hpieces : path.toList.splitOn '/' = front ++ [last]) :
    StaysBeneath path ↔ front.head? ≠ some [] ∧
      ∃ n, depthFrom 0 (front.filterMap componentOf?) = some n ∧ (last = ['.', '.'] → 0 < n) := by
  rw [staysBeneath_iff, ← Bool.not_eq_true, isAbsolute_iff_of_splitOn hpieces, ofPieces, hpieces,
    List.filterMap_append, depthFrom_append]
  refine and_congr_right fun _ => ?_
  cases depthFrom 0 (front.filterMap componentOf?) with
  | none => simp
  | some n =>
      simp only [Option.bind_some, List.filterMap_cons, List.filterMap_nil, componentOf?]
      by_cases hhere : (last.isEmpty || last = ['.']) = true
      · have hup : last ≠ ['.', '.'] := by
          rintro rfl
          simp at hhere
        simp [hhere, hup, depthFrom]
      · by_cases hup : last = ['.', '.']
        · cases n <;> simp [hup, depthFrom]
        · simp [hhere, hup, depthFrom]

/-- A last piece that is a name leads down by one directory more. -/
theorem depthFrom_components_of_splitOn {path text : String} {front : List (List Char)}
    {last : List Char} (hpieces : path.toList.splitOn '/' = front ++ [last])
    (hhead : front.head? ≠ some []) (hlast : componentOf? last = some (.name text)) :
    depthFrom 0 (components path) = (depthFrom 0 (front.filterMap componentOf?)).map (· + 1) := by
  have hrelative : isAbsolute path = false := by
    rw [← Bool.not_eq_true, isAbsolute_iff_of_splitOn hpieces]
    exact hhead
  rw [depthFrom_components hrelative, ofPieces, hpieces, List.filterMap_append, depthFrom_append,
    List.filterMap_cons_some hlast]
  cases depthFrom 0 (front.filterMap componentOf?) <;> rfl

theorem ofPieces_append (front rest : List Char) :
    ofPieces (front ++ '/' :: rest) = ofPieces front ++ ofPieces rest := by
  rw [ofPieces, List.splitOn_append_cons_self, List.filterMap_append]
  rfl

/-- The component that only the start of a path has. -/
def start (text : List Char) : List Component :=
  if text.head? = some '/' then [.root]
  else if (text.splitOn '/').head? = some ['.'] then [.here] else []

theorem components_eq (path : String) :
    components path = start path.toList ++ ofPieces path.toList := by
  simp only [components, start, ofPieces, isAbsolute_iff]

theorem start_append (front rest : List Char) :
    start (front ++ '/' :: rest) = if front = [] then [.root] else start front := by
  cases front with
  | nil => rfl
  | cons c front =>
      simp only [start, List.splitOn_append_cons_self]
      cases hsplit : (c :: front).splitOn '/' with
      | nil => exact absurd hsplit (List.splitOn_ne_nil _ _)
      | cons first others => simp

/-- Only the empty path has no components. -/
theorem components_ne_nil {path : String} (hpath : path ≠ "") : components path ≠ [] := by
  have hjoin : ['/'].intercalate (path.toList.splitOn '/') = path.toList := List.intercalate_splitOn '/'
  rw [components_eq, start, ofPieces]
  cases hpieces : path.toList.splitOn '/' with
  | nil => exact absurd hpieces (List.splitOn_ne_nil _ _)
  | cons first others =>
      rw [hpieces] at hjoin
      by_cases hempty : first = []
      · -- nothing before the first separator, so the path starts with one
        subst hempty
        have hhead : path.toList.head? = some '/' := by
          cases others with
          | nil => exact absurd hjoin.symm (by simpa using hpath)
          | cons second others =>
              rw [← hjoin, List.intercalate_cons_cons]
              rfl
        simp [hhead]
      · by_cases hhere : first = ['.']
        · by_cases hhead : path.toList.head? = some '/'
          · simp [hhead]
          · simp [hhead, hhere]
        · by_cases hup : first = ['.', '.']
          · simp [componentOf?, hup]
          · simp [componentOf?, hempty, hhere, hup]

/-! ## Joining -/

/-- A path that is not absolute adds its pieces to the components of a directory. -/
theorem components_join {directory path : String} (hrelative : isAbsolute path = false)
    (hdirectory : directory ≠ "") :
    components (join directory path) = components directory ++ ofPieces path.toList := by
  have hempty : directory.isEmpty = false := by simpa using hdirectory
  simp only [join, hrelative, hempty, Bool.or_self, Bool.false_eq_true, if_false]
  by_cases hlast : directory.toList.getLast? = some '/'
  · obtain ⟨front, hfront⟩ := List.getLast?_eq_some_iff.1 hlast
    have htext : (directory ++ path).toList = front ++ '/' :: path.toList := by simp [hfront]
    rw [if_pos hlast, components_eq, components_eq, htext, hfront, start_append, start_append,
      ofPieces_append, ofPieces_append]
    simp [ofPieces, componentOf?]
  · have hne : directory.toList ≠ [] := by simpa using hdirectory
    have htext : (directory ++ "/" ++ path).toList = directory.toList ++ '/' :: path.toList := by simp
    rw [if_neg hlast, components_eq, components_eq, htext, start_append, if_neg hne, ofPieces_append,
      List.append_assoc]

theorem join_empty (path : String) : join "" path = path := by
  simp [join]

/-- Joined with any directory a path stays beneath it exactly if it does so on its own. -/
theorem forall_beneath_join_iff (path : String) :
    (∀ directory, Beneath directory (join directory path)) ↔ StaysBeneath path := by
  constructor
  · intro hbeneath
    obtain ⟨rest, n, hrest, hdepth⟩ := hbeneath ""
    rw [join_empty] at hrest
    exact ⟨n, by rw [hrest]; exact hdepth⟩
  · intro hstays directory
    obtain ⟨hrelative, n, hdepth⟩ := (staysBeneath_iff path).1 hstays
    by_cases hdirectory : directory = ""
    · subst hdirectory
      obtain ⟨m, hm⟩ := hstays
      exact ⟨components path, m, by rw [join_empty]; rfl, hm⟩
    · exact ⟨ofPieces path.toList, n, components_join hrelative hdirectory, hdepth⟩

/-! ## Joining twice -/

theorem isAbsolute_append {front : String} (hfront : front ≠ "") (rest : String) :
    isAbsolute (front ++ rest) = isAbsolute front := by
  have hne : front.toList ≠ [] := by simpa using hfront
  rw [Bool.eq_iff_iff, isAbsolute_iff, isAbsolute_iff, String.toList_append,
    List.head?_append_of_ne_nil _ hne]

/-- What stands between a directory and a path that is seen from it. -/
def separator (directory : String) : String :=
  if directory.isEmpty || directory.toList.getLast? = some '/' then "" else "/"

theorem join_of_relative {path : String} (hrelative : isAbsolute path = false) (directory : String) :
    join directory path = directory ++ separator directory ++ path := by
  simp only [join, separator, hrelative, Bool.false_or]
  cases hempty : directory.isEmpty with
  | true =>
      obtain rfl : directory = "" := by simpa using hempty
      simp
  | false =>
      simp only [Bool.false_eq_true, if_false, Bool.false_or, decide_eq_true_eq]
      split
      · simp
      · rfl

theorem separator_append {directory : String} (hdirectory : directory ≠ "") (front : String) :
    separator (front ++ directory) = separator directory := by
  have hne : directory.toList ≠ [] := by simpa using hdirectory
  have hempty : directory.isEmpty = false := by simpa using hdirectory
  have hempty' : (front ++ directory).isEmpty = false := by
    simp [hdirectory]
  rw [separator, separator, hempty, hempty', String.toList_append, List.getLast?_append_of_ne_nil _ hne]

theorem join_ne_empty {path : String} (hpath : path ≠ "") (base : String) : join base path ≠ "" := by
  rw [join]
  split
  · exact hpath
  · split
    · simp [hpath]
    · simp

/-- What stands after a path stays there wherever the path is seen from. -/
theorem join_append {path : String} (hpath : path ≠ "") (base rest : String) :
    join base (path ++ rest) = join base path ++ rest := by
  simp only [join, isAbsolute_append hpath]
  split
  · rfl
  · split
    · rw [String.append_assoc]
    · rw [← String.append_assoc]

theorem exists_join_eq_append (base path : String) : ∃ front, join base path = front ++ path := by
  rw [join]
  split
  · exact ⟨"", by simp⟩
  · split
    · exact ⟨base, rfl⟩
    · exact ⟨base ++ "/", rfl⟩

/-- A path below a directory is seen from anywhere as the directory is. -/
theorem join_join {directory path : String} (hdirectory : directory ≠ "")
    (hrelative : isAbsolute path = false) (base : String) :
    join base (join directory path) = join (join base directory) path := by
  obtain ⟨front, hfront⟩ := exists_join_eq_append base directory
  have hseparator : separator (join base directory) = separator directory := by
    rw [hfront, separator_append hdirectory]
  rw [join_of_relative hrelative, join_of_relative hrelative, hseparator, String.append_assoc,
    join_append hdirectory, String.append_assoc]

end ReleasePress.Path
