import Mathlib.Data.String.Basic
import Mathlib.Tactic.Common
import ReleasePress.Markdown.FrontMatter
import ReleasePress.Proofs.Text.Split

/-!
# Where front matter ends

A text has front matter exactly if it can be taken apart into an opening fence, lines that are no fences, a closing
fence and a body (`cut?_eq_some_iff`).  The reader goes through the lines one by one, so there is no second way to
take a text apart.  `split_boundaries` says where the parts lie in the bytes of the text, and that the body is what
follows whatever the header holds.
-/

namespace ReleasePress.FrontMatter

open ReleasePress.Text

/-! ## Texts with front matter -/

/-- The lines that are fences, without their line feeds. -/
def fences : List (List Char) :=
  [fence, fence ++ ['\r']]

/-- Lines, each with its line feed, of which none is a fence. -/
def IsHeader (header : List Char) : Prop :=
  ∃ lines : List (List Char), header = lines.flatMap (· ++ ['\n']) ∧ ∀ line ∈ lines, '\n' ∉ line ∧ line ∉ fences

/-- A fence in front of a body.  At the end of the text it needs no line feed. -/
def IsClosing (closing body : List Char) : Prop :=
  ∃ line ∈ fences, closing = line ++ ['\n'] ∨ closing = line ∧ body = []

/-- A text taken apart into its front matter and its body. -/
structure Block.PartsOf (block : Block) (text : List Char) : Prop where
  text_eq : text = block.opening ++ block.header ++ block.closing ++ block.body
  opening : ∃ line ∈ fences, block.opening = line ++ ['\n']
  header : IsHeader block.header
  closing : IsClosing block.closing block.body

/-- The parts of a text after its opening fence. -/
structure Closes (text header closing body : List Char) : Prop where
  text_eq : text = header ++ closing ++ body
  header : IsHeader header
  closing : IsClosing closing body

variable {line text header closing body : List Char}

theorem mem_fences_iff : line ∈ fences ↔ isFence line = true := by
  rw [isFence, decide_eq_true_eq]
  constructor
  · intro h
    simp only [fences, List.mem_cons, List.not_mem_nil, or_false] at h
    rcases h with rfl | rfl <;> decide
  · intro h
    unfold dropReturn at h
    split at h
    · next rest hrest =>
        have hline : line = rest.reverse ++ ['\r'] := by simp [List.reverse_eq_iff.1 hrest]
        simp [fences, hline, h]
    · simp [fences, h]

theorem notMem_of_mem_fences (h : line ∈ fences) : '\n' ∉ line := by
  simp only [fences, List.mem_cons, List.not_mem_nil, or_false] at h
  rcases h with rfl | rfl <;> decide

theorem line_append_inj {line' text' : List Char} (hline : '\n' ∉ line) (hline' : '\n' ∉ line')
    (h : line ++ '\n' :: text = line' ++ '\n' :: text') : line = line' ∧ text = text' := by
  have hfront {line : List Char} (hline : '\n' ∉ line) : ∀ c ∈ line, (c != '\n') = true := by
    intro c hc
    simp only [bne_iff_ne, ne_eq]
    rintro rfl
    exact hline hc
  obtain ⟨rfl, -, rfl⟩ := append_cons_inj (hfront hline) (hfront hline') rfl rfl h
  exact ⟨rfl, rfl⟩

/-- A last line without a line feed can only be the closing fence. -/
theorem closes_end_iff (hline : '\n' ∉ line) :
    Closes line header closing body ↔ isFence line = true ∧ header = [] ∧ closing = line ∧ body = [] := by
  rw [← mem_fences_iff]
  constructor
  · rintro ⟨htext, ⟨lines, rfl, -⟩, fence, hfence, hclosing⟩
    cases lines with
    | cons first lines => simp [htext] at hline
    | nil =>
        rcases hclosing with rfl | ⟨rfl, rfl⟩
        · simp [htext] at hline
        · obtain rfl : line = closing := by simpa using htext
          exact ⟨hfence, rfl, rfl, rfl⟩
  · rintro ⟨hfence, rfl, rfl, rfl⟩
    exact ⟨by simp, ⟨[], rfl, by simp⟩, closing, hfence, .inr ⟨rfl, rfl⟩⟩

/-- A line with its line feed is the closing fence or belongs to the header. -/
theorem closes_line_iff (hline : '\n' ∉ line) :
    Closes (line ++ '\n' :: text) header closing body ↔
      (isFence line = true ∧ header = [] ∧ closing = line ++ ['\n'] ∧ body = text) ∨
      (¬ isFence line = true ∧ ∃ rest, header = line ++ '\n' :: rest ∧ Closes text rest closing body) := by
  rw [← mem_fences_iff]
  constructor
  · rintro ⟨htext, ⟨lines, rfl, hlines⟩, hclosing⟩
    cases lines with
    | nil =>
        obtain ⟨fence, hfence, rfl | ⟨rfl, rfl⟩⟩ := hclosing
        · obtain ⟨rfl, rfl⟩ := line_append_inj hline (notMem_of_mem_fences hfence) (by simpa using htext)
          exact .inl ⟨hfence, rfl, rfl, rfl⟩
        · have hmem : '\n' ∈ closing := by
            have hsame : line ++ '\n' :: text = closing := by simpa using htext
            simp [← hsame]
          exact absurd hmem (notMem_of_mem_fences hfence)
    | cons first lines =>
        obtain ⟨hfirst, hrest⟩ := List.forall_mem_cons.1 hlines
        obtain ⟨rfl, rfl⟩ := line_append_inj hline hfirst.1 (by simpa using htext)
        refine .inr ⟨hfirst.2, lines.flatMap (· ++ ['\n']), by simp, ?_⟩
        exact ⟨by simp, ⟨lines, rfl, hrest⟩, hclosing⟩
  · rintro (⟨hfence, rfl, rfl, rfl⟩ | ⟨hnot, rest, rfl, rfl, ⟨lines, rfl, hlines⟩, hclosing⟩)
    · exact ⟨by simp, ⟨[], rfl, by simp⟩, line, hfence, .inl rfl⟩
    · refine ⟨by simp, ⟨line :: lines, by simp, ?_⟩, hclosing⟩
      exact List.forall_mem_cons.2 ⟨⟨hline, hnot⟩, hlines⟩

/-! ## The reader -/

/-- **The reader finds the closing fence.**  The lines that it has left behind are in front of the header. -/
theorem closeFrom?_eq_some_iff {front : List Char} (hline : '\n' ∉ line) :
    closeFrom? front line text = some (header, closing, body) ↔
      ∃ rest, header = front.reverse ++ rest ∧ Closes (line.reverse ++ text) rest closing body := by
  induction text generalizing front line with
  | nil =>
      have hreverse : '\n' ∉ line.reverse := by simpa using hline
      rw [closeFrom?, List.append_nil]
      simp only [closes_end_iff hreverse]
      by_cases hfence : isFence line.reverse = true
      · simp [hfence, eq_comm]
      · simp [hfence]
  | cons c text ih =>
      by_cases hc : c = '\n'
      · subst hc
        have hreverse : '\n' ∉ line.reverse := by simpa using hline
        rw [closeFrom?, if_pos rfl]
        simp only [closes_line_iff hreverse]
        by_cases hfence : isFence line.reverse = true
        · simp [hfence, eq_comm]
        · simp [hfence, ih List.not_mem_nil]
      · have hcons : '\n' ∉ c :: line := by simpa [eq_comm] using ⟨hc, hline⟩
        rw [closeFrom?, if_neg hc, ih hcons, List.reverse_cons, List.append_assoc, List.singleton_append]

theorem cutAfter?_eq_some_iff {opening : List Char} {block : Block} :
    cutAfter? opening text = some block ↔
      block.opening = opening ∧ Closes text block.header block.closing block.body := by
  obtain ⟨opening', header, closing, body⟩ := block
  simp only [cutAfter?, Option.map_eq_some_iff, Prod.exists, closeFrom?_eq_some_iff List.not_mem_nil,
    List.reverse_nil, List.nil_append, exists_eq_left', Block.mk.injEq]
  constructor
  · rintro ⟨_, _, _, hcloses, rfl, rfl, rfl, rfl⟩
    exact ⟨rfl, hcloses⟩
  · rintro ⟨rfl, hcloses⟩
    exact ⟨header, closing, body, hcloses, rfl, rfl, rfl, rfl⟩

/-- The opening fence is the first line. -/
theorem cut?_eq_some_iff_exists {block : Block} :
    cut? text = some block ↔ ∃ line ∈ fences, ∃ rest, text = line ++ '\n' :: rest ∧
      cutAfter? (line ++ ['\n']) rest = some block := by
  constructor
  · intro h
    rw [cut?.eq_def] at h
    split at h
    · next rest => exact ⟨fence, by simp [fences], rest, rfl, h⟩
    · next rest => exact ⟨fence ++ ['\r'], by simp [fences], rest, rfl, h⟩
    · cases h
  · rintro ⟨line, hline, rest, rfl, h⟩
    simp only [fences, List.mem_cons, List.not_mem_nil, or_false] at hline
    rcases hline with rfl | rfl <;> exact h

/-- **A text is cut exactly if it has front matter.** -/
theorem cut?_eq_some_iff {block : Block} : cut? text = some block ↔ block.PartsOf text := by
  simp only [cut?_eq_some_iff_exists, cutAfter?_eq_some_iff]
  constructor
  · rintro ⟨line, hline, rest, rfl, hopening, rfl, hheader, hclosing⟩
    exact ⟨by simp [hopening], ⟨line, hline, hopening⟩, hheader, hclosing⟩
  · rintro ⟨rfl, ⟨line, hline, hopening⟩, hheader, hclosing⟩
    exact ⟨line, hline, _, by simp [hopening], hopening, rfl, hheader, hclosing⟩

/-! ## Bytes -/

variable {contents : String}

theorem isValid_of_toList_eq (front back : List Char) (h : contents.toList = front ++ back) :
    (String.ofList front).rawEndPos.IsValid contents := by
  rw [String.Pos.Raw.isValid_iff_exists_append]
  refine ⟨String.ofList front, String.ofList back, ?_, rfl⟩
  rw [← String.ofList_append, ← h, String.ofList_toList]

theorem extract_of_toList_eq (front middle back : List Char) (h : contents.toList = front ++ middle ++ back) :
    (String.ofList front).rawEndPos.extract contents (String.ofList (front ++ middle)).rawEndPos =
      String.ofList middle := by
  have hcontents : contents = String.ofList (front ++ middle ++ back) := by rw [← h, String.ofList_toList]
  rw [hcontents, String.rawEndPos_ofList, String.rawEndPos_ofList, String.utf8Len_append]
  exact String.extract_of_valid front middle back

/-- The positions of the parts of a text: they stand between characters, and the text between the first two is the
header. -/
structure Boundaries.AreOf (found : Boundaries) (block : Block) (text : String) : Prop where
  header_eq : found.header.byteIdx = (String.ofList block.opening).utf8ByteSize
  closing_eq : found.closing.byteIdx = found.header.byteIdx + (String.ofList block.header).utf8ByteSize
  body_eq : found.body.byteIdx = (String.ofList (block.opening ++ block.header ++ block.closing)).utf8ByteSize
  isValid_header : found.header.IsValid text
  isValid_closing : found.closing.IsValid text
  isValid_body : found.body.IsValid text
  extract_eq : found.header.extract text found.closing = String.ofList block.header

theorem Block.PartsOf.boundaries {block : Block} (h : block.PartsOf contents.toList) :
    block.boundaries.AreOf block contents where
  header_eq := rfl
  closing_eq := by
    simp only [Block.boundaries, String.ofList_append, String.byteIdx_rawEndPos, String.utf8ByteSize_append]
  body_eq := rfl
  isValid_header := isValid_of_toList_eq _ (block.header ++ block.closing ++ block.body) (by simp [h.text_eq])
  isValid_closing := isValid_of_toList_eq _ (block.closing ++ block.body) (by simp [h.text_eq])
  isValid_body := isValid_of_toList_eq _ block.body h.text_eq
  extract_eq := extract_of_toList_eq _ _ (block.closing ++ block.body) (by simp [h.text_eq])

/-! ## The body -/

theorem split_of_partsOf {block : Block} (h : block.PartsOf contents.toList) :
    (split true contents).1 = String.ofList block.body := by
  simp only [split, Bool.not_true, Bool.false_eq_true, if_false, cut?_eq_some_iff.2 h]
  split <;> rfl

/-- Front matter alone, whose closing fence has its line feed; its header can hold anything. -/
def IsComplete (front : String) : Prop :=
  ∃ block : Block, block.PartsOf front.toList ∧ block.body = [] ∧ '\n' ∈ block.closing

/-- In front of a text it is the front matter of the two together. -/
theorem IsComplete.exists_partsOf {front : String} (h : IsComplete front) (body : String) :
    ∃ block : Block, block.PartsOf (front ++ body).toList ∧ block.body = body.toList := by
  obtain ⟨⟨opening, header, closing, _⟩, hparts, rfl, hended⟩ := h
  obtain ⟨line, hline, hclosing | ⟨rfl, -⟩⟩ := hparts.closing
  · refine ⟨⟨opening, header, closing, body.toList⟩, ?_, rfl⟩
    exact ⟨by simp [hparts.text_eq], hparts.opening, hparts.header, line, hline, .inl hclosing⟩
  · exact absurd hended (notMem_of_mem_fences hline)

theorem IsComplete.split {front : String} (h : IsComplete front) (body : String) :
    (split true (front ++ body)).1 = body := by
  obtain ⟨block, hparts, hbody⟩ := h.exists_partsOf body
  rw [split_of_partsOf hparts, hbody, String.ofList_toList]

theorem split_of_no_parts (h : ¬ ∃ block : Block, block.PartsOf contents.toList) :
    split true contents = (contents, none, none) := by
  have hcut : cut? contents.toList = none :=
    Option.eq_none_iff_forall_ne_some.2 fun block hblock => h ⟨block, cut?_eq_some_iff.1 hblock⟩
  simp only [split, Bool.not_true, Bool.false_eq_true, if_false, hcut]

/-- A text has boundaries exactly if it can be taken apart into front matter and a body.  Then they are the
positions of these parts, and the body of the Markdown document is what follows the closing fence; a text without
front matter, or that is no Markdown, is its own body and has no headers. -/
theorem split_boundaries (text : String) :
    ((boundaries? text).isSome = true ↔ ∃ block : Block, block.PartsOf text.toList) ∧
      (∀ block : Block, block.PartsOf text.toList →
        (∃ found, boundaries? text = some found ∧ found.AreOf block text) ∧
          (split true text).1 = String.ofList block.body) ∧
      ((¬ ∃ block : Block, block.PartsOf text.toList) → split true text = (text, none, none)) ∧
      split false text = (text, none, none) := by
  refine ⟨?_, fun block h => ⟨⟨block.boundaries, ?_, h.boundaries⟩, split_of_partsOf h⟩, split_of_no_parts, rfl⟩
  · simp only [boundaries?, Option.isSome_map, Option.isSome_iff_exists, cut?_eq_some_iff]
  · rw [boundaries?, cut?_eq_some_iff.2 h, Option.map_some]

/-- A header of which a line is almost a fence, and after which the text ends. -/
theorem split_boundaries_last :
    ∃ block : Block, block.PartsOf "---\r\nä: -\n--- \n---".toList ∧
      (∃ found, boundaries? "---\r\nä: -\n--- \n---" = some found ∧ found.AreOf block "---\r\nä: -\n--- \n---") ∧
        (split true "---\r\nä: -\n--- \n---").1 = "" := by
  have hparts : Block.PartsOf ⟨"---\r\n".toList, "ä: -\n--- \n".toList, "---".toList, []⟩
      "---\r\nä: -\n--- \n---".toList := cut?_eq_some_iff.1 (by decide)
  exact ⟨_, hparts, (split_boundaries _).2.1 _ hparts⟩

end ReleasePress.FrontMatter
