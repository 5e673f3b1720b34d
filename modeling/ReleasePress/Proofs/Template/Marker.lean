import Mathlib.Tactic.Common
import ReleasePress.Proofs.Text.Split
import ReleasePress.Template.Name

/-! # Names without a marker

Taking a marker out of a file name removes one segment after the stem. What remains is made of the other
segments, so it holds no slash if the name holds none, and it is a run of dots only for names that are dots
around the marker. -/

namespace ReleasePress.Template

open ReleasePress.Text

/-! ## The last segment that equals a marker -/

theorem dropLastEqual?_eq_none_iff {x : List Char} {ys : List (List Char)} :
    dropLastEqual? x ys = none ↔ x ∉ ys := by
  induction ys with
  | nil => simp [dropLastEqual?]
  | cons y ys ih =>
      cases hys : dropLastEqual? x ys with
      | none =>
          have hmem : x ∉ ys := ih.1 hys
          by_cases hy : y = x
          · simp [dropLastEqual?, hys, hy]
          · have hy' : x ≠ y := fun hy' => hy hy'.symm
            simp [dropLastEqual?, hys, hy, hy', hmem]
      | some rest =>
          have hmem : x ∈ ys := by
            by_contra hmem
            rw [ih.2 hmem] at hys
            cases hys
          simp [dropLastEqual?, hys, hmem]

theorem dropLastEqual?_eq_some_iff {x : List Char} {ys rest : List (List Char)} :
    dropLastEqual? x ys = some rest ↔
      ∃ before after, ys = before ++ x :: after ∧ x ∉ after ∧ rest = before ++ after := by
  induction ys generalizing rest with
  | nil => simp [dropLastEqual?]
  | cons y ys ih =>
      cases hys : dropLastEqual? x ys with
      | none =>
          have hmem : x ∉ ys := dropLastEqual?_eq_none_iff.1 hys
          simp only [dropLastEqual?, hys]
          constructor
          · intro hrest
            by_cases hy : y = x
            · rw [if_pos hy] at hrest
              obtain rfl := Option.some.inj hrest
              exact ⟨[], ys, by rw [hy]; rfl, hmem, rfl⟩
            · rw [if_neg hy] at hrest
              cases hrest
          · rintro ⟨before, after, hparts, hafter, rfl⟩
            cases before with
            | nil =>
                obtain ⟨rfl, rfl⟩ := List.cons.inj hparts
                simp
            | cons b before =>
                obtain ⟨rfl, rfl⟩ := List.cons.inj hparts
                exact absurd (by simp) hmem
      | some rest' =>
          obtain ⟨before, after, hparts, hafter, hrest'⟩ := ih.1 hys
          simp only [dropLastEqual?, hys, Option.some.injEq]
          constructor
          · rintro rfl
            exact ⟨y :: before, after, by rw [hparts]; rfl, hafter, by rw [hrest']; rfl⟩
          · rintro ⟨before', after', hparts', hafter', rfl⟩
            cases before' with
            | nil =>
                obtain ⟨rfl, rfl⟩ := List.cons.inj hparts'
                exact absurd (by rw [hparts]; simp) hafter'
            | cons b before' =>
                obtain ⟨rfl, htail⟩ := List.cons.inj hparts'
                have hsame := ih.2 ⟨before', after', htail, hafter', rfl⟩
                rw [hys] at hsame
                rw [Option.some.inj hsame]
                rfl

/-! ## File names -/

/-- The characters of a piece are those of the text but for the one it is split at. -/
theorem mem_of_mem_splitOn {c d : Char} {text piece : List Char} (hpiece : piece ∈ text.splitOn c)
    (hd : d ∈ piece) : d ∈ text ∧ d ≠ c := by
  induction text generalizing piece with
  | nil =>
      obtain rfl : piece = [] := by simpa using hpiece
      simp at hd
  | cons e text ih =>
      rw [List.splitOn_cons_eq_if_modifyHead] at hpiece
      by_cases he : (e == c) = true
      · rw [if_pos he] at hpiece
        rcases List.mem_cons.1 hpiece with rfl | hmem
        · simp at hd
        · exact ⟨List.mem_cons_of_mem _ (ih hmem hd).1, (ih hmem hd).2⟩
      · rw [if_neg he] at hpiece
        cases hsplit : text.splitOn c with
        | nil => exact absurd hsplit (List.splitOn_ne_nil c text)
        | cons first others =>
            rw [hsplit] at ih
            rw [hsplit, List.modifyHead_cons] at hpiece
            rcases List.mem_cons.1 hpiece with rfl | hmem
            · rcases List.mem_cons.1 hd with rfl | hd
              · exact ⟨by simp, fun hdc => he (by simp [hdc])⟩
              · have hmem : first ∈ first :: others := by simp
                have hfirst := ih hmem hd
                exact ⟨List.mem_cons_of_mem _ hfirst.1, hfirst.2⟩
            · have hother := ih (List.mem_cons_of_mem _ hmem) hd
              exact ⟨List.mem_cons_of_mem _ hother.1, hother.2⟩

theorem stemLength_eq (segments : List (List Char)) :
    stemLength segments = if segments.head? = some [] then 2 else 1 := by
  cases segments with
  | nil => rfl
  | cons first others => cases first <;> rfl

/-- Taking out a marker drops one segment after the stem, the last one that equals it. -/
theorem stripMarker?_eq_some_iff {marker fileName stripped : List Char} :
    stripMarker? marker fileName = some stripped ↔
      ∃ stem before after, fileName.splitOn '.' = stem ++ (before ++ marker :: after) ∧
        stem.length = stemLength (fileName.splitOn '.') ∧ marker ∉ after ∧
        stripped = ['.'].intercalate (stem ++ (before ++ after)) := by
  simp only [stripMarker?, Option.map_eq_some_iff, dropLastEqual?_eq_some_iff]
  constructor
  · rintro ⟨rest, ⟨before, after, hdrop, hafter, rfl⟩, rfl⟩
    refine ⟨_, before, after, ?_, ?_, hafter, rfl⟩
    · rw [← hdrop, List.take_append_drop]
    · rw [List.length_take]
      have hlength := congrArg List.length hdrop
      simp only [List.length_drop, List.length_append, List.length_cons] at hlength
      omega
  · rintro ⟨stem, before, after, hsegments, hstem, hafter, rfl⟩
    refine ⟨before ++ after, ⟨before, after, ?_, hafter, rfl⟩, ?_⟩
    · rw [← hstem, hsegments, List.drop_left']
      rfl
    · rw [← hstem, hsegments, List.take_left']
      rfl

theorem mem_intercalate {c : Char} {separator : List Char} {pieces : List (List Char)}
    (hmem : c ∈ separator.intercalate pieces) : c ∈ separator ∨ ∃ piece ∈ pieces, c ∈ piece := by
  induction pieces with
  | nil => simp [List.intercalate_nil] at hmem
  | cons piece pieces ih =>
      cases pieces with
      | nil => exact .inr ⟨piece, by simp, by simpa [List.intercalate_singleton] using hmem⟩
      | cons piece' pieces =>
          rw [List.intercalate_cons_cons] at hmem
          simp only [List.mem_append] at hmem
          rcases hmem with (hmem | hmem) | hmem
          · exact .inr ⟨piece, by simp, hmem⟩
          · exact .inl hmem
          · rcases ih hmem with hseparator | ⟨piece'', hpiece, hmem⟩
            · exact .inl hseparator
            · exact .inr ⟨piece'', List.mem_cons_of_mem _ hpiece, hmem⟩

/-- The segments of a name without its marker are those of the name but for the marker. -/
theorem splitOn_stripMarker? {marker fileName stripped : List Char}
    (hstripped : stripMarker? marker fileName = some stripped) :
    ∃ stem before after, fileName.splitOn '.' = stem ++ (before ++ marker :: after) ∧
      stripped.splitOn '.' = stem ++ (before ++ after) ∧
      (stem.length = if stem.head? = some [] then 2 else 1) ∧ marker ∉ after := by
  obtain ⟨stem, before, after, hsegments, hlength, hafter, rfl⟩ := stripMarker?_eq_some_iff.1 hstripped
  have hstem : stem ≠ [] := by
    rintro rfl
    rw [stemLength_eq] at hlength
    split at hlength <;> simp at hlength
  refine ⟨stem, before, after, hsegments, List.splitOn_intercalate '.' ?_ (by simp [hstem]), ?_, hafter⟩
  · intro segment hsegment hdot
    have hold : segment ∈ fileName.splitOn '.' := by
      rw [hsegments]
      simp only [List.mem_append, List.mem_cons] at hsegment ⊢
      tauto
    exact (mem_of_mem_splitOn hold hdot).2 rfl
  · rw [hlength, stemLength_eq, hsegments]
    cases stem with
    | nil => exact absurd rfl hstem
    | cons first stem => rfl

/-- A name without its marker holds only dots and characters of the name. -/
theorem not_mem_stripMarker? {c : Char} {marker fileName stripped : List Char} (hc : c ≠ '.')
    (hstripped : stripMarker? marker fileName = some stripped) (hmem : c ∉ fileName) :
    c ∉ stripped := by
  obtain ⟨stem, before, after, hsegments, -, -, rfl⟩ := stripMarker?_eq_some_iff.1 hstripped
  intro hc'
  rcases mem_intercalate hc' with hdot | ⟨segment, hsegment, hc'⟩
  · exact hc (by simpa using hdot)
  · have hold : segment ∈ fileName.splitOn '.' := by
      rw [hsegments]
      simp only [List.mem_append, List.mem_cons] at hsegment ⊢
      tauto
    exact hmem (mem_of_mem_splitOn hold hc').1

/-- After a leading dot the marker stood behind the first two segments. -/
theorem eq_of_stripMarker?_hidden {marker fileName stripped second : List Char} {rest : List (List Char)}
    (hstripped : stripMarker? marker fileName = some stripped)
    (hsegments : stripped.splitOn '.' = [] :: second :: rest) :
    ∃ before after, before ++ after = rest ∧
      fileName = ['.'].intercalate ([] :: second :: (before ++ marker :: after)) := by
  obtain ⟨stem, before, after, hname, hrest, hstem, -⟩ := splitOn_stripMarker? hstripped
  rw [hsegments] at hrest
  cases stem with
  | nil => simp at hstem
  | cons first stem =>
      obtain ⟨rfl, htail⟩ := List.cons.inj hrest
      have hone : stem.length = 1 := by simpa using hstem
      obtain ⟨second', rfl⟩ := List.length_eq_one_iff.1 hone
      obtain ⟨rfl, hlast⟩ := List.cons.inj htail
      refine ⟨before, after, hlast.symm, ?_⟩
      have hjoin : ['.'].intercalate (fileName.splitOn '.') = fileName := List.intercalate_splitOn '.'
      rw [← hjoin, hname]
      rfl

/-- The only file name that is a single dot without its mark of templates. -/
theorem stripMarker?_eq_dot_iff {fileName : List Char} :
    stripMarker? templateMarker fileName = some ['.'] ↔ fileName = "..template".toList := by
  constructor
  · intro hstripped
    obtain ⟨before, after, hparts, hname⟩ := eq_of_stripMarker?_hidden hstripped rfl
    obtain ⟨rfl, rfl⟩ := List.append_eq_nil_iff.1 hparts
    exact hname
  · rintro rfl
    rfl

/-- The file names that are two dots without their mark of templates. -/
theorem stripMarker?_eq_dots_iff {fileName : List Char} :
    stripMarker? templateMarker fileName = some ['.', '.'] ↔
      fileName = "..template.".toList ∨ fileName = "...template".toList := by
  constructor
  · intro hstripped
    obtain ⟨before, after, hparts, hname⟩ := eq_of_stripMarker?_hidden hstripped rfl
    rcases List.append_eq_singleton_iff.1 hparts with ⟨rfl, rfl⟩ | ⟨rfl, rfl⟩
    · exact .inl hname
    · exact .inr hname
  · rintro (rfl | rfl) <;> rfl

/-- No file name is empty without its marker. -/
theorem stripMarker?_ne_nil {marker fileName : List Char} :
    stripMarker? marker fileName ≠ some [] := by
  intro hstripped
  obtain ⟨stem, before, after, -, hrest, hstem, -⟩ := splitOn_stripMarker? hstripped
  have hempty : [[]] = stem ++ (before ++ after) := hrest
  cases stem with
  | nil => simp at hstem
  | cons first stem =>
      obtain ⟨rfl, htail⟩ := List.cons.inj hempty
      obtain ⟨rfl, -⟩ := List.append_eq_nil_iff.1 htail.symm
      simp at hstem

/-- The file names that are `..` without their mark of templates. -/
def IsParentMark (fileName : String) : Prop :=
  fileName = "..template." ∨ fileName = "...template"

theorem isParentMark_ofList_iff {fileName : List Char} :
    IsParentMark (String.ofList fileName) ↔
      stripMarker? templateMarker fileName = some ['.', '.'] := by
  rw [stripMarker?_eq_dots_iff, IsParentMark, ← String.toList_inj, ← String.toList_inj,
    String.toList_ofList]

/-- A name with the segment that asks for a brought-along template is not `..`, with or without a mark of
templates. -/
theorem ne_dots_of_baseMarker {fileName stripped : List Char}
    (hstripped : stripMarker? baseMarker fileName = some stripped) :
    (stripMarker? templateMarker fileName).getD fileName ≠ ['.', '.'] := by
  cases htemplate : stripMarker? templateMarker fileName with
  | none =>
      rintro rfl
      cases hstripped
  | some stripped' =>
      rintro rfl
      rcases stripMarker?_eq_dots_iff.1 htemplate with rfl | rfl
      · cases hstripped
      · cases hstripped

/-! ## Names with slashes -/

theorem splitOn_eq_of_not_mem {c : Char} {front last : List Char} (hlast : c ∉ last) :
    (front ++ c :: last).splitOn c = front.splitOn c ++ [last] := by
  rw [List.splitOn_append_cons_self, List.splitOn_eq_singleton hlast]

/-- Only the last piece of a name with slashes loses the marker. -/
theorem splitOn_stripInPath? (marker name : List Char) :
    ∃ front last, name.splitOn '/' = front ++ [last] ∧
      match stripInPath? marker name with
      | some key => ∃ stripped, stripMarker? marker last = some stripped ∧
          key.splitOn '/' = front ++ [stripped]
      | none => stripMarker? marker last = none := by
  cases hcut : cutLastAt? '/' name with
  | none =>
      have hname : '/' ∉ name := cutLastAt?_eq_none_iff.1 hcut
      refine ⟨[], name, List.splitOn_eq_singleton hname, ?_⟩
      cases hstripped : stripMarker? marker name with
      | none => simp [stripInPath?, hcut, hstripped]
      | some stripped =>
          have hslash := not_mem_stripMarker? (by decide) hstripped hname
          simpa [stripInPath?, hcut, hstripped] using List.splitOn_eq_singleton hslash
  | some cut =>
      obtain ⟨parent, fileName⟩ := cut
      obtain ⟨rfl, hname⟩ := cutLastAt?_eq_some_iff.1 hcut
      refine ⟨parent.splitOn '/', fileName, splitOn_eq_of_not_mem hname, ?_⟩
      cases hstripped : stripMarker? marker fileName with
      | none => simp [stripInPath?, hcut, hstripped]
      | some stripped =>
          have hslash := not_mem_stripMarker? (by decide) hstripped hname
          simpa [stripInPath?, hcut, hstripped] using splitOn_eq_of_not_mem hslash

/-- The key of a name differs from it at most in the last piece. -/
theorem splitOn_outputKey (name : String) :
    ∃ front last, name.toList.splitOn '/' = front ++ [last] ∧
      (outputKey name).toList.splitOn '/' =
        front ++ [(stripMarker? templateMarker last).getD last] := by
  obtain ⟨front, last, hname, hkey⟩ := splitOn_stripInPath? templateMarker name.toList
  refine ⟨front, last, hname, ?_⟩
  cases hstripped : stripInPath? templateMarker name.toList with
  | none =>
      rw [hstripped] at hkey
      rw [outputKey, hstripped, hkey, hname]
      rfl
  | some key =>
      rw [hstripped] at hkey
      obtain ⟨stripped, hlast, hkey⟩ := hkey
      rw [outputKey, hstripped, hlast, String.toList_ofList, hkey]
      rfl

theorem lastSegment_of_splitOn {name : String} {front : List (List Char)} {last : List Char}
    (hpieces : name.toList.splitOn '/' = front ++ [last]) : lastSegment name = String.ofList last := by
  cases hcut : cutLastAt? '/' name.toList with
  | none =>
      rw [List.splitOn_eq_singleton (cutLastAt?_eq_none_iff.1 hcut)] at hpieces
      have hlast : name.toList = last := by simpa using congrArg List.getLast? hpieces
      rw [lastSegment, hcut, ← hlast, String.ofList_toList]
  | some cut =>
      obtain ⟨parent, fileName⟩ := cut
      obtain ⟨hname, hslash⟩ := cutLastAt?_eq_some_iff.1 hcut
      rw [hname, splitOn_eq_of_not_mem hslash] at hpieces
      have hlast : fileName = last := by simpa using congrArg List.getLast? hpieces
      rw [lastSegment, hcut, hlast]

end ReleasePress.Template
