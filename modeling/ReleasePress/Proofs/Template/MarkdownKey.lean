import Mathlib.Data.List.Basic
import ReleasePress.Markdown.FrontMatter
import ReleasePress.Proofs.Template.Marker

/-!
# The kind of a document

Whether a template is Markdown is told from its name, with or without the mark of templates.  The two readings find
the mark in different places: a key loses its last segment that is the mark, wherever it stands after the stem, while
the extension is looked for behind a mark at the very end.  They meet in the last segment (`isMarkdownName_iff`): if
the mark is there, both take it off, and if it is not, neither changes the extension.  Only a name that ends in
two marks tells them apart, because its key still ends in one.
-/

namespace ReleasePress.Template

open ReleasePress.Text

variable {fileName stripped last : List Char} {front : List (List Char)}

/-- Two marks of templates, one behind the other. -/
def twoMarks : List Char :=
  '.' :: templateMarker ++ '.' :: templateMarker

/-- Whether a file name that has lost a mark at its end is that of a Markdown document. -/
def isMarkdownName (fileName : List Char) : Bool :=
  match cutLastAt? '.' fileName with
  | some (stem, extension) => !stem.isEmpty && extension.map Char.toLower == ['m', 'd']
  | none => false

theorem isMarkdownKey_eq (key : String) :
    isMarkdownKey key = isMarkdownName (dropTemplateEnd (lastSegment key).toList) := rfl

/-! ## The last segment of a file name -/

theorem eq_of_splitOn_eq {c : Char} {text text' : List Char} (h : text.splitOn c = text'.splitOn c) : text = text' := by
  calc
    text = [c].intercalate (text.splitOn c) := (List.intercalate_splitOn c).symm
    _ = [c].intercalate (text'.splitOn c) := by rw [h]
    _ = text' := List.intercalate_splitOn c

/-- A Markdown document has the extension as its last segment, and what is in front of it is not empty. -/
theorem isMarkdownName_iff (hsegments : fileName.splitOn '.' = front ++ [last]) :
    isMarkdownName fileName = true ↔ front ≠ [] ∧ front ≠ [[]] ∧ last.map Char.toLower = ['m', 'd'] := by
  unfold isMarkdownName
  cases hcut : cutLastAt? '.' fileName with
  | none =>
      rw [List.splitOn_eq_singleton (cutLastAt?_eq_none_iff.1 hcut)] at hsegments
      have hfront : front = [] := by
        cases front with
        | nil => rfl
        | cons first others => simp at hsegments
      simp [hfront]
  | some cut =>
      obtain ⟨stem, extension⟩ := cut
      obtain ⟨rfl, hextension⟩ := cutLastAt?_eq_some_iff.1 hcut
      rw [splitOn_eq_of_not_mem hextension] at hsegments
      obtain ⟨hstem, hlast⟩ := List.append_inj' hsegments rfl
      obtain rfl := List.singleton_inj.1 hlast
      have hnone : front ≠ [] := hstem ▸ List.splitOn_ne_nil '.' stem
      have hempty : front = [[]] ↔ stem = [] := by
        rw [← hstem]
        constructor
        · intro h
          exact eq_of_splitOn_eq h
        · rintro rfl
          rfl
      simp [hnone, hempty]

/-- Nothing is taken off a file name whose last segment is not the mark. -/
theorem dropTemplateEnd_eq_self (hsegments : fileName.splitOn '.' = front ++ [last])
    (hlast : last ≠ templateMarker) : dropTemplateEnd fileName = fileName := by
  have hnone : dropTail? ('.' :: templateMarker) fileName = none := by
    rw [Option.eq_none_iff_forall_ne_some]
    intro rest hrest
    rw [dropTail?_eq_some_iff.1 hrest, splitOn_eq_of_not_mem (by decide)] at hsegments
    obtain ⟨-, hmark⟩ := List.append_inj' hsegments rfl
    exact hlast (List.singleton_inj.1 hmark).symm
  rw [dropTemplateEnd, hnone, Option.getD_none]

theorem dropTemplateEnd_append (text : List Char) : dropTemplateEnd (text ++ '.' :: templateMarker) = text := by
  rw [dropTemplateEnd, dropTail?_append, Option.getD_some]

/-! ## File names without their mark -/

/-- The mark at the very end is taken off by both, and it was the only one there. -/
theorem isMarkdownName_of_marked_end (htwice : ¬ twoMarks <:+ stripped ++ '.' :: templateMarker) :
    isMarkdownName (dropTemplateEnd stripped) =
      isMarkdownName (dropTemplateEnd (stripped ++ '.' :: templateMarker)) := by
  have hkeeps : dropTail? ('.' :: templateMarker) stripped = none := by
    rw [Option.eq_none_iff_forall_ne_some]
    intro rest hrest
    apply htwice
    rw [dropTail?_eq_some_iff.1 hrest]
    exact ⟨rest, (List.append_assoc rest _ _).symm⟩
  rw [dropTemplateEnd_append, dropTemplateEnd, hkeeps, Option.getD_none]

/-- A file name has the same kind without its mark. -/
theorem isMarkdownName_stripMarker? (htwice : ¬ twoMarks <:+ fileName)
    (hstripped : stripMarker? templateMarker fileName = some stripped) :
    isMarkdownName (dropTemplateEnd stripped) = isMarkdownName (dropTemplateEnd fileName) := by
  obtain ⟨stem, before, after, hname, hrest, hstem, hafter⟩ := splitOn_stripMarker? hstripped
  have hnone : stem ≠ [] := by
    rintro rfl
    simp at hstem
  rcases List.eq_nil_or_concat' after with rfl | ⟨middle, extension, rfl⟩
  · have hend : fileName = stripped ++ '.' :: templateMarker := by
      apply eq_of_splitOn_eq (c := '.')
      rw [splitOn_eq_of_not_mem (by decide), hname, hrest, List.append_nil, List.append_assoc]
    subst hend
    exact isMarkdownName_of_marked_end htwice
  · have hextension : extension ≠ templateMarker := by
      rintro rfl
      exact hafter (by simp)
    have hname' : fileName.splitOn '.' = (stem ++ (before ++ templateMarker :: middle)) ++ [extension] := by
      simpa using hname
    have hrest' : stripped.splitOn '.' = (stem ++ (before ++ middle)) ++ [extension] := by
      simpa using hrest
    rw [dropTemplateEnd_eq_self hname' hextension, dropTemplateEnd_eq_self hrest' hextension, Bool.eq_iff_iff,
      isMarkdownName_iff hname', isMarkdownName_iff hrest']
    -- an empty stem is followed by a second segment that belongs to it, so neither front is empty
    have hlong : stem ++ (before ++ templateMarker :: middle) ≠ [[]] := by
      intro h
      have hmem : templateMarker ∈ ([[]] : List (List Char)) := by
        rw [← h]
        simp
      exact absurd hmem (by decide)
    have hshort : stem ++ (before ++ middle) ≠ [[]] := by
      intro h
      rcases List.append_eq_singleton_iff.1 h with ⟨rfl, -⟩ | ⟨rfl, -⟩
      · exact hnone rfl
      · simp at hstem
    simp [hnone, hlong, hshort]

/-- **The key keeps the kind.**  If the last part of a name does not end in two marks of templates, its key names a
Markdown document exactly if the name itself does, and so either has the same header cut off from a text. -/
theorem isMarkdownKey_outputKey (name : String)
    (htwice : ¬ twoMarks <:+ (lastSegment name).toList) :
    isMarkdownKey (outputKey name) = isMarkdownKey name ∧
      ∀ text, FrontMatter.split (isMarkdownKey (outputKey name)) text =
        FrontMatter.split (isMarkdownKey name) text := by
  have hkind : isMarkdownKey (outputKey name) = isMarkdownKey name := by
    obtain ⟨front, last, hname, hkey⟩ := splitOn_outputKey name
    rw [lastSegment_of_splitOn hname, String.toList_ofList] at htwice
    rw [isMarkdownKey_eq, isMarkdownKey_eq, lastSegment_of_splitOn hname, lastSegment_of_splitOn hkey,
      String.toList_ofList, String.toList_ofList]
    cases hstripped : stripMarker? templateMarker last with
    | none => rfl
    | some stripped => exact isMarkdownName_stripMarker? htwice hstripped
  exact ⟨hkind, fun text => by rw [hkind]⟩

/-- The mark is inside the name of a hidden file, below a directory that has one too. -/
theorem isMarkdownKey_outputKey_hidden :
    outputKey "docs.template/.notes.template.MD" = "docs.template/.notes.MD" ∧
      isMarkdownKey (outputKey "docs.template/.notes.template.MD") = true := by
  refine ⟨by decide, ?_⟩
  rw [(isMarkdownKey_outputKey "docs.template/.notes.template.MD" (by decide)).1]
  decide

/-- Of two marks the key keeps one, which does not count as a part of its name. -/
example : isMarkdownKey (outputKey "a.md.template.template") = true ∧
    isMarkdownKey "a.md.template.template" = false := by
  decide

end ReleasePress.Template
