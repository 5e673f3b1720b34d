import Mathlib.Data.List.Basic
import ReleasePress.Proofs.Template.Marker

/-!
# Names with a marker put in

Taking a marker out undoes putting it in.  A marker can be put behind any segment of a file name from the end of the
stem on, and it is found there again if no segment behind it equals it (`HasInserted`).  The stem is the same before
and after, because the marker comes behind it; so the stem may be told from either name (`stemSize`).
-/

namespace ReleasePress.Template

variable {marker fileName stripped : List Char}

/-- How many segments belong to the stem of a file name: two if it starts with a dot. -/
def stemSize (fileName : List Char) : Nat :=
  if fileName.head? = some '.' then 2 else 1

/-- A file name is another one with the marker inserted after one of its segments, the last one of the stem or a
later one, such that no segment behind the marker equals it. -/
def HasInserted (marker stripped fileName : List Char) : Prop :=
  ∃ front back, stripped.splitOn '.' = front ++ back ∧ stemSize stripped ≤ front.length ∧ marker ∉ back ∧
    fileName = ['.'].intercalate (front ++ marker :: back)

/-! ## The stem -/

/-- The first segment is empty if a dot comes first. -/
theorem head?_splitOn_eq_iff : (fileName.splitOn '.').head? = some [] ↔ fileName = [] ∨ fileName.head? = some '.' := by
  cases fileName with
  | nil => simp
  | cons c text =>
      rw [List.splitOn_cons_eq_if_modifyHead]
      by_cases hc : c = '.'
      · simp [hc]
      · obtain ⟨first, others, hsplit⟩ := List.exists_cons_of_ne_nil (List.splitOn_ne_nil '.' text)
        simp [hc, hsplit]

theorem stemLength_splitOn (hname : fileName ≠ []) : stemLength (fileName.splitOn '.') = stemSize fileName := by
  rw [stemLength_eq, stemSize]
  simp only [head?_splitOn_eq_iff, hname, false_or]

/-- The stem is told by the first segment alone. -/
theorem stemLength_append {front : List (List Char)} (hfront : front ≠ []) (back : List (List Char)) :
    stemLength (front ++ back) = stemLength front := by
  rw [stemLength_eq, stemLength_eq, List.head?_append_of_ne_nil _ hfront]

theorem stemSize_pos (fileName : List Char) : 0 < stemSize fileName := by
  unfold stemSize
  split <;> decide

/-! ## Markers put in and taken out -/

theorem hasInserted_of_stripMarker? (hstripped : stripMarker? marker fileName = some stripped) :
    stripped ≠ [] ∧ HasInserted marker stripped fileName := by
  have hne : stripped ≠ [] := fun hnil => stripMarker?_ne_nil (hnil ▸ hstripped)
  obtain ⟨stem, before, after, hname, hrest, hstem, hafter⟩ := splitOn_stripMarker? hstripped
  have hfront : stem ≠ [] := by
    rintro rfl
    simp at hstem
  refine ⟨hne, stem ++ before, after, by rw [hrest, List.append_assoc], ?_, hafter, ?_⟩
  · have hsize : stemSize stripped = stem.length := by
      rw [← stemLength_splitOn hne, hrest, stemLength_append hfront, stemLength_eq, hstem]
    rw [hsize, List.length_append]
    exact Nat.le_add_right _ _
  · rw [List.append_assoc, ← hname, List.intercalate_splitOn]

theorem stripMarker?_of_hasInserted (hmarker : '.' ∉ marker) (hne : stripped ≠ [])
    (hinserted : HasInserted marker stripped fileName) : stripMarker? marker fileName = some stripped := by
  obtain ⟨front, back, hrest, hsize, hback, rfl⟩ := hinserted
  have hname : (['.'].intercalate (front ++ marker :: back)).splitOn '.' = front ++ marker :: back := by
    refine List.splitOn_intercalate '.' (fun segment hsegment hdot => ?_) (by simp)
    rw [List.mem_append, List.mem_cons, or_left_comm, ← List.mem_append, ← hrest] at hsegment
    rcases hsegment with rfl | hold
    · exact hmarker hdot
    · exact (mem_of_mem_splitOn hold hdot).2 rfl
  have hfront : front ≠ [] := List.ne_nil_of_length_pos (Nat.lt_of_lt_of_le (stemSize_pos stripped) hsize)
  have hstem : stemLength (front ++ marker :: back) = stemSize stripped := by
    rw [← stemLength_splitOn hne, hrest, stemLength_append hfront, stemLength_append hfront]
  refine stripMarker?_eq_some_iff.2
    ⟨front.take (stemSize stripped), front.drop (stemSize stripped), back, ?_, ?_, hback, ?_⟩
  · rw [hname, ← List.append_assoc, List.take_append_drop]
  · rw [hname, hstem, List.length_take_of_le hsize]
  · rw [← List.append_assoc, List.take_append_drop, ← hrest, List.intercalate_splitOn]

theorem stripMarker?_eq_none_iff :
    stripMarker? marker fileName = none ↔ marker ∉ (fileName.splitOn '.').drop (stemSize fileName) := by
  have hdrop : (fileName.splitOn '.').drop (stemLength (fileName.splitOn '.')) =
      (fileName.splitOn '.').drop (stemSize fileName) := by
    by_cases hname : fileName = []
    · subst hname
      rfl
    · rw [stemLength_splitOn hname]
  rw [← hdrop, ← dropLastEqual?_eq_none_iff, stripMarker?, Option.map_eq_none_iff]

/-- **Stripping undoes marking.**  For a marker without dots, a file name loses the marker and becomes `stripped`
exactly if `stripped` is not empty and the file name is `stripped` with the marker inserted, and it has none to lose
exactly if none of its segments after the stem equals the marker. -/
theorem stripMarker?_undoes (hmarker : '.' ∉ marker) (fileName : List Char) :
    (∀ stripped, stripMarker? marker fileName = some stripped ↔
      stripped ≠ [] ∧ HasInserted marker stripped fileName) ∧
    (stripMarker? marker fileName = none ↔ marker ∉ (fileName.splitOn '.').drop (stemSize fileName)) := by
  refine ⟨fun stripped => ⟨hasInserted_of_stripMarker?, ?_⟩, stripMarker?_eq_none_iff⟩
  rintro ⟨hne, hinserted⟩
  exact stripMarker?_of_hasInserted hmarker hne hinserted

/-- A hidden file with two marks, an empty segment between them: the later mark goes. -/
theorem stripMarker?_undoes_hidden :
    stripMarker? templateMarker ".a.template..template.md".toList = some ".a.template..md".toList := by
  refine ((stripMarker?_undoes (by decide) _).1 _).2 ⟨by decide, ?_⟩
  exact ⟨[[], ['a'], templateMarker, []], [['m', 'd']], rfl, by decide, by decide, rfl⟩

end ReleasePress.Template
