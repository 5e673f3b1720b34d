import Mathlib.Tactic.Common
import ReleasePress.Git.Trailer
import ReleasePress.Proofs.Text.Lines
import ReleasePress.Proofs.Text.Split
import ReleasePress.Proofs.Text.Trim

/-!
# Trailers are read back

A block of trailers at the end of a message is read as the trailers that were written, in order, whatever stands
before it, and a last paragraph that is no such block is read as none (`trailers_roundTrip`).

The reader does not see blanks at the end of a line (`ofLines_map_trimEnd`), so neither the blanks at the end of the
message nor carriage returns matter.  What is left is an induction over the written trailers, and for each of them over
the lines of its value.
-/

namespace ReleasePress.Git

open ReleasePress.Text

namespace Trailer

/-! ## Trailers as they are written -/

/-- A text that can be a key. -/
def IsKeyText (key : List Char) : Prop :=
  key = breakingKey ∨
    ∃ first rest, key = first :: rest ∧ first.isAlphanum = true ∧
      ∀ c ∈ rest, c.isAlphanum = true ∨ c = '_' ∨ c = '-'

/-- A piece of a value, with the blanks in front of it and behind it on its line. -/
structure Piece where
  indent : Nat
  text : List Char
  trail : List Char

/-- A piece with its blanks. -/
def Piece.line (piece : Piece) : List Char :=
  List.replicate piece.indent ' ' ++ piece.text ++ piece.trail

/-- A piece is trimmed, and like the blanks behind it it stays on its line. -/
structure Piece.IsProper (piece : Piece) : Prop where
  trim_text : trim piece.text = piece.text
  notMem_text : '\n' ∉ piece.text
  isBlank_trail : ∀ c ∈ piece.trail, isBlank c = true
  notMem_trail : '\n' ∉ piece.trail

/-- A trailer as it is written: its key with the first piece of its value, and the other pieces. -/
structure Written where
  key : List Char
  first : Piece
  further : List Piece

/-- The line of the key, and an indented line for each further piece. -/
def Written.lines (written : Written) : List (List Char) :=
  (written.key ++ ':' :: ' ' :: written.first.line) :: written.further.map fun piece => ' ' :: piece.line

/-- Only the first piece of a value may be empty. -/
structure Written.IsProper (written : Written) : Prop where
  key : IsKeyText written.key
  first : written.first.IsProper
  further : ∀ piece ∈ written.further, piece.IsProper ∧ piece.text ≠ []

/-- The trailer that is written: the pieces of its value are joined by single blanks. -/
def Written.trailer (written : Written) : Trailer :=
  ⟨written.key, [' '].intercalate (written.first.text :: written.further.map Piece.text)⟩

/-- The text of a block of trailers. -/
def blockOf (block : List Written) : List Char :=
  ['\n'].intercalate (block.flatMap Written.lines)

variable {key line : List Char}

/-! ## Lines -/

theorem isAlphanumeric_eq (c : Char) : isAlphanumeric c = c.isAlphanum := by
  have hupper : c.isUpper = (decide ('A' ≤ c) && decide (c ≤ 'Z')) := Bool.decide_and _ _
  have hlower : c.isLower = (decide ('a' ≤ c) && decide (c ≤ 'z')) := rfl
  have hdigit : c.isDigit = (decide ('0' ≤ c) && decide (c ≤ '9')) := rfl
  have hall : c.isAlphanum = (c.isUpper || c.isLower || c.isDigit) := rfl
  rw [hall, hupper, hlower, hdigit, isAlphanumeric, isDigit]
  ac_rfl

theorem isKey_eq_true_iff : isKey key = true ↔ IsKeyText key := by
  cases key with
  | nil => simp [isKey, IsKeyText]
  | cons first rest => simp [isKey, IsKeyText, isAlphanumeric_eq, or_assoc]

theorem IsKeyText.notMem (h : IsKeyText key) : ':' ∉ key ∧ '\n' ∉ key := by
  rcases h with rfl | ⟨first, rest, rfl, hfirst, hrest⟩
  · decide
  · constructor
    all_goals
      intro hmem
      rcases List.mem_cons.1 hmem with rfl | hmem
      · cases hfirst
      · rcases hrest _ hmem with h | h | h <;> cases h

theorem IsKeyText.not_isIndented (h : IsKeyText key) (rest : List Char) : isIndented (key ++ rest) = false := by
  rcases h with rfl | ⟨first, others, rfl, hfirst, -⟩
  · rfl
  · have hne (c : Char) (hc : c.isAlphanum = false) : (first == c) = false := by
      rw [beq_eq_false_iff_ne]
      rintro rfl
      rw [hc] at hfirst
      cases hfirst
    simp [isIndented, hne ' ' rfl, hne '\t' rfl]

/-- A line starts a trailer if it has a key. -/
theorem ofLine?_eq_some_iff {trailer : Trailer} :
    ofLine? line = some trailer ↔
      ∃ value, line = trailer.key ++ ':' :: value ∧ IsKeyText trailer.key ∧ trailer.value = trim value := by
  obtain ⟨key, value⟩ := trailer
  constructor
  · intro h
    unfold ofLine? at h
    split at h
    · next hcut =>
        rw [Option.ite_none_right_eq_some, isKey_eq_true_iff, Option.some.injEq, Trailer.mk.injEq] at h
        obtain ⟨hkey, rfl, rfl⟩ := h
        exact ⟨_, (cutAt?_eq_some_iff.1 hcut).1, hkey, rfl⟩
    · cases h
  · rintro ⟨rest, rfl, hkey, rfl⟩
    have hcut : cutAt? [':'] (key ++ ':' :: rest) = some (key, rest) := cutAt?_eq_some_iff.2 ⟨rfl, hkey.notMem.1⟩
    simp [ofLine?, hcut, isKey_eq_true_iff.2 hkey]

theorem ofLine?_eq_none_iff : ofLine? line = none ↔ ¬ ∃ key value, IsKeyText key ∧ line = key ++ ':' :: value := by
  rw [Option.eq_none_iff_forall_ne_some]
  constructor
  · rintro h ⟨key, value, hkey, hline⟩
    exact h ⟨key, trim value⟩ (ofLine?_eq_some_iff.2 ⟨value, hline, hkey, rfl⟩)
  · intro h trailer htrailer
    obtain ⟨value, hline, hkey, -⟩ := ofLine?_eq_some_iff.1 htrailer
    exact h ⟨trailer.key, value, hkey, hline⟩

/-! ## Steps of the reader -/

variable {trailer : Trailer} {done : List Trailer} {rest : List (List Char)}

theorem ofLines_extend (h : isIndented line = true) :
    ofLines (trailer :: done) (line :: rest) = ofLines (trailer.extend line :: done) rest := by
  rw [ofLines.eq_def]
  simp [h]

theorem ofLines_start (h : isIndented line = false) (hline : ofLine? line = some trailer) :
    ofLines done (line :: rest) = ofLines (trailer :: done) rest := by
  rw [ofLines.eq_def]
  simp [h, hline]

/-- There must be a value to go on with. -/
theorem ofLines_indented_first (h : isIndented line = true) : ofLines [] (line :: rest) = [] := by
  rw [ofLines.eq_def]
  simp [h]

theorem ofLines_refused (h : isIndented line = false) (hline : ofLine? line = none) :
    ofLines done (line :: rest) = [] := by
  rw [ofLines.eq_def]
  simp [h, hline]

/-! ## Blanks at the end of a line -/

theorem isIndented_append (h : line ≠ []) (rest : List Char) : isIndented (line ++ rest) = isIndented line := by
  cases line with
  | nil => exact absurd rfl h
  | cons c line => rfl

theorem isIndented_trimEnd (h : trimEnd line ≠ []) : isIndented (trimEnd line) = isIndented line := by
  obtain ⟨blanks, -, hline⟩ := exists_blanks line
  conv_rhs => rw [hline, isIndented_append h]

/-- A colon is no blank, so it stays with its key. -/
theorem ofLine?_trimEnd (line : List Char) : ofLine? (trimEnd line) = ofLine? line := by
  obtain ⟨blanks, hblanks, hline⟩ := exists_blanks line
  ext trailer
  rw [ofLine?_eq_some_iff, ofLine?_eq_some_iff]
  constructor
  · rintro ⟨value, htrim, hkey, hvalue⟩
    refine ⟨value ++ blanks, ?_, hkey, ?_⟩
    · rw [hline, htrim, List.append_assoc, List.cons_append]
    · rw [trim_append_of_blank hblanks, hvalue]
  · rintro ⟨value, rfl, hkey, hvalue⟩
    exact ⟨trimEnd value, trimEnd_append_cons rfl _ _, hkey, by rw [trim_trimEnd, hvalue]⟩

theorem extend_trimEnd (trailer : Trailer) (line : List Char) :
    trailer.extend (trimEnd line) = trailer.extend line := by
  rw [extend, trim_trimEnd, extend]

/-- **The lines of a block matter up to blanks at their ends.** -/
theorem ofLines_map_trimEnd {lines : List (List Char)} (h : ∀ line ∈ lines, trimEnd line ≠ []) (done : List Trailer) :
    ofLines done (lines.map trimEnd) = ofLines done lines := by
  induction lines generalizing done with
  | nil => rfl
  | cons line lines ih =>
      obtain ⟨hline, hlines⟩ := List.forall_mem_cons.1 h
      rw [List.map_cons, ofLines.eq_def, ofLines.eq_def done (line :: lines)]
      simp only [isIndented_trimEnd hline, ofLine?_trimEnd, extend_trimEnd, ih hlines]

/-! ## Reading what was written -/

theorem Piece.IsProper.trim_line {piece : Piece} (h : piece.IsProper) : trim (' ' :: piece.line) = piece.text := by
  have hfront : ∀ c ∈ ' ' :: List.replicate piece.indent ' ', isBlank c = true := by
    rw [← List.replicate_succ]
    intro c hc
    rw [List.eq_of_mem_replicate hc]
    rfl
  rw [Piece.line, ← List.cons_append, trim_append_of_blank h.isBlank_trail, ← List.cons_append,
    trim_blank_append hfront, h.trim_text]

theorem Piece.IsProper.notMem_line {piece : Piece} (h : piece.IsProper) : '\n' ∉ piece.line := by
  simp [Piece.line, h.notMem_text, h.notMem_trail]

/-- The lines of the further pieces go on with the last value. -/
theorem ofLines_further {pieces : List Piece} (h : ∀ piece ∈ pieces, piece.IsProper) (value : List Char)
    (done : List Trailer) (rest : List (List Char)) :
    ofLines (⟨key, value⟩ :: done) (pieces.map (fun piece => ' ' :: piece.line) ++ rest) =
      ofLines (⟨key, [' '].intercalate (value :: pieces.map Piece.text)⟩ :: done) rest := by
  induction pieces generalizing value with
  | nil => simp
  | cons piece pieces ih =>
      obtain ⟨hpiece, hpieces⟩ := List.forall_mem_cons.1 h
      have hjoin : [' '].intercalate (value :: piece.text :: pieces.map Piece.text) =
          [' '].intercalate ((value ++ ' ' :: piece.text) :: pieces.map Piece.text) := by
        cases pieces <;> simp
      rw [List.map_cons, List.cons_append, ofLines_extend rfl, extend, hpiece.trim_line, ih hpieces, List.map_cons,
        hjoin]

theorem ofLines_lines {written : Written} (h : written.IsProper) (done : List Trailer) (rest : List (List Char)) :
    ofLines done (written.lines ++ rest) = ofLines (written.trailer :: done) rest := by
  have hfirst : ofLine? (written.key ++ ':' :: ' ' :: written.first.line) =
      some ⟨written.key, written.first.text⟩ :=
    ofLine?_eq_some_iff.2 ⟨_, rfl, h.key, h.first.trim_line.symm⟩
  rw [Written.lines, List.cons_append, ofLines_start (h.key.not_isIndented _) hfirst]
  exact ofLines_further (fun piece hpiece => (h.further piece hpiece).1) _ _ _

theorem ofLines_flatMap {block : List Written} (h : ∀ written ∈ block, written.IsProper) (done : List Trailer) :
    ofLines done (block.flatMap Written.lines) = done.reverse ++ block.map Written.trailer := by
  induction block generalizing done with
  | nil => simp [ofLines]
  | cons written block ih =>
      obtain ⟨hwritten, hblock⟩ := List.forall_mem_cons.1 h
      rw [List.flatMap_cons, ofLines_lines hwritten, ih hblock]
      simp

/-- The lines of a trailer are lines, and none of them is blank. -/
theorem Written.IsProper.of_mem_lines {written : Written} (h : written.IsProper) (hline : line ∈ written.lines) :
    '\n' ∉ line ∧ trimEnd line ≠ [] := by
  rcases List.mem_cons.1 hline with rfl | hline
  · constructor
    · simp [h.key.notMem.2, h.first.notMem_line]
    · rw [trimEnd_append_cons rfl]
      simp
  · obtain ⟨piece, hpiece, rfl⟩ := List.mem_map.1 hline
    obtain ⟨hproper, hne⟩ := h.further piece hpiece
    refine ⟨by simp [hproper.notMem_line], fun hblank => hne ?_⟩
    rw [← trim_eq_nil_iff, hproper.trim_line] at hblank
    exact hblank

theorem of_mem_blockLines {block : List Written} (h : ∀ written ∈ block, written.IsProper)
    (hline : line ∈ block.flatMap Written.lines) : '\n' ∉ line ∧ trimEnd line ≠ [] := by
  obtain ⟨written, hwritten, hline⟩ := List.mem_flatMap.1 hline
  exact (h written hwritten).of_mem_lines hline

end Trailer

open Trailer

/-! ## The last paragraph -/

/-- The lines of the last paragraph of a message: none of them is blank, and the line before them is. -/
structure IsLastParagraph (message : List Char) (paragraph : List (List Char)) : Prop where
  before : ∃ before, lines (trimEnd message) = before ++ paragraph ∧ ∀ line ∈ before.getLast?, trim line = []
  trim_ne_nil : ∀ line ∈ paragraph, trim line ≠ []

theorem lastParagraph_append {before paragraph : List (List Char)} (hbefore : ∀ line ∈ before.getLast?, trim line = [])
    (hparagraph : ∀ line ∈ paragraph, trim line ≠ []) : lastParagraph (before ++ paragraph) = paragraph := by
  have hstop : before.reverse.takeWhile (fun line => !(trim line).isEmpty) = [] := by
    rw [List.getLast?_eq_head?_reverse] at hbefore
    cases hreverse : before.reverse with
    | nil => rfl
    | cons line rest =>
        have hline : trim line = [] := hbefore line (by simp [hreverse])
        simp [hline]
  have hgo : ∀ line ∈ paragraph.reverse, (!(trim line).isEmpty) = true := by
    simpa using hparagraph
  rw [lastParagraph, List.reverse_append, List.takeWhile_append_of_pos hgo, hstop, List.append_nil,
    List.reverse_reverse]

theorem IsLastParagraph.trailers_eq {message : List Char} {paragraph : List (List Char)}
    (h : IsLastParagraph message paragraph) : trailers message = ofLines [] paragraph := by
  obtain ⟨before, hlines, hblank⟩ := h.before
  rw [trailers, hlines, lastParagraph_append hblank h.trim_ne_nil]

/-- A block after a blank line is the last paragraph, up to blanks at the ends of its lines. -/
theorem isLastParagraph_block {body blank tail : List Char} {block : List Written} (hne : block ≠ [])
    (hblock : ∀ written ∈ block, written.IsProper) (hblank : ∀ c ∈ blank, isBlank c = true) (hline : '\n' ∉ blank)
    (htail : ∀ c ∈ tail, isBlank c = true) :
    ∃ paragraph, IsLastParagraph (body ++ '\n' :: blank ++ '\n' :: blockOf block ++ tail) paragraph ∧
      paragraph.map trimEnd = (block.flatMap Written.lines).map trimEnd := by
  have hlines {line : List Char} (hmem : line ∈ block.flatMap Written.lines) : '\n' ∉ line ∧ trimEnd line ≠ [] :=
    of_mem_blockLines hblock hmem
  obtain ⟨init, last, hinit⟩ : ∃ init last, block.flatMap Written.lines = init ++ [last] := by
    rcases List.eq_nil_or_concat' (block.flatMap Written.lines) with hnil | hconcat
    · obtain ⟨written, block, rfl⟩ := List.exists_cons_of_ne_nil hne
      simp [Written.lines] at hnil
    · exact hconcat
  rw [hinit] at hlines ⊢
  have hlast := hlines (List.mem_append_right init List.mem_cons_self)
  have hfront : ∀ line ∈ blank :: init, '\n' ∉ line :=
    List.forall_mem_cons.2 ⟨hline, fun line hmem => (hlines (List.mem_append_left _ hmem)).1⟩
  have hblank' : trimEnd blank = [] := trimEnd_eq_nil_iff.2 hblank
  -- Without the blanks at its end the message is made of whole lines and the last line of the block.
  have htrim : trimEnd (body ++ '\n' :: blank ++ '\n' :: blockOf block ++ tail) =
      body ++ '\n' :: ((blank :: init).flatMap (· ++ ['\n']) ++ trimEnd last) := by
    have hmessage : body ++ '\n' :: blank ++ '\n' :: blockOf block ++ tail =
        body ++ '\n' :: (blank :: init).flatMap (· ++ ['\n']) ++ last ++ tail := by
      simp [blockOf, hinit, intercalate_concat]
    rw [hmessage, trimEnd_append_of_blank htail, trimEnd_append_of_ne_nil hlast.2, List.append_assoc, List.cons_append]
  have hlinesLast : lines (trimEnd last) = [trimEnd last] := by
    obtain ⟨blanks, -, hsplit⟩ := exists_blanks last
    have hmem : '\n' ∉ trimEnd last := fun hmem => hlast.1 (hsplit ▸ List.mem_append_left blanks hmem)
    rw [lines, linesFrom_of_notMem hmem, List.reverse_nil, List.nil_append, if_neg hlast.2]
  refine ⟨init.map dropReturn ++ [trimEnd last], ⟨⟨lines (body ++ ['\n']) ++ [dropReturn blank], ?_, ?_⟩, ?_⟩, ?_⟩
  · rw [htrim, lines_append_line, lines_flatMap_append hfront, hlinesLast]
    simp
  · simp [trim_eq_nil_iff, trimEnd_dropReturn, hblank']
  · intro line hmem
    rw [ne_eq, trim_eq_nil_iff]
    rcases List.mem_append.1 hmem with hmem | hmem
    · obtain ⟨written, hwritten, rfl⟩ := List.mem_map.1 hmem
      rw [trimEnd_dropReturn]
      exact (hlines (List.mem_append_left _ hwritten)).2
    · rw [List.mem_singleton.1 hmem, trimEnd_trimEnd]
      exact hlast.2
  · simp [trimEnd_dropReturn, trimEnd_trimEnd]

theorem trailers_block {body blank tail : List Char} {block : List Written} (hne : block ≠ [])
    (hblock : ∀ written ∈ block, written.IsProper) (hblank : ∀ c ∈ blank, isBlank c = true) (hline : '\n' ∉ blank)
    (htail : ∀ c ∈ tail, isBlank c = true) :
    trailers (body ++ '\n' :: blank ++ '\n' :: blockOf block ++ tail) = block.map Written.trailer := by
  obtain ⟨paragraph, hparagraph, hsame⟩ := isLastParagraph_block hne hblock hblank hline htail
  have hends : ∀ line ∈ paragraph, trimEnd line ≠ [] := fun line hmem =>
    trim_eq_nil_iff.not.1 (hparagraph.trim_ne_nil line hmem)
  rw [hparagraph.trailers_eq, ← ofLines_map_trimEnd hends, hsame,
    ofLines_map_trimEnd fun line hmem => (of_mem_blockLines hblock hmem).2, ofLines_flatMap hblock]
  rfl

theorem ofLines_of_refused {lines : List (List Char)} {line : List Char} (hmem : line ∈ lines)
    (hindented : isIndented line = false) (hline : ofLine? line = none) (done : List Trailer) :
    ofLines done lines = [] := by
  induction lines generalizing done with
  | nil => cases hmem
  | cons first rest ih =>
      rcases List.mem_cons.1 hmem with rfl | hmem
      · exact ofLines_refused hindented hline
      · rw [ofLines.eq_def]
        simp only [ih hmem]
        split
        · split <;> rfl
        · split <;> rfl

/-- A message that ends in a block of trailers, after any body and a blank line, has exactly these trailers, in
order.  A message has none if its last paragraph starts with an indented line or has a line that is neither
indented nor starts with a key and a colon. -/
theorem trailers_roundTrip :
    (∀ (body blank tail : List Char) (block : List Written), block ≠ [] → (∀ written ∈ block, written.IsProper) →
      (∀ c ∈ blank, isBlank c = true) → '\n' ∉ blank → (∀ c ∈ tail, isBlank c = true) →
        trailers (body ++ '\n' :: blank ++ '\n' :: blockOf block ++ tail) = block.map Written.trailer) ∧
      ∀ message paragraph, IsLastParagraph message paragraph →
        ((∃ line ∈ paragraph.head?, isIndented line = true) ∨
          ∃ line ∈ paragraph, isIndented line = false ∧ ¬ ∃ key value, IsKeyText key ∧ line = key ++ ':' :: value) →
        trailers message = [] := by
  refine ⟨fun body blank tail block => trailers_block, fun message paragraph hlast hrefused => ?_⟩
  rw [hlast.trailers_eq]
  rcases hrefused with ⟨line, hhead, hindented⟩ | ⟨line, hmem, hindented, hline⟩
  · obtain ⟨rest, rfl⟩ := List.head?_eq_some_iff.1 hhead
    exact ofLines_indented_first hindented
  · exact ofLines_of_refused hmem hindented (ofLine?_eq_none_iff.2 hline) []

/-- A trailer with a value that begins on its second line. -/
def Trailer.breaking : Written :=
  ⟨"BREAKING CHANGE".toList, ⟨0, [], []⟩, [⟨1, "removes y".toList, []⟩, ⟨0, "z".toList, [' ']⟩]⟩

/-- A trailer with a value of one piece. -/
def Trailer.checked : Written :=
  ⟨"QA".toList, ⟨1, "ok".toList, []⟩, []⟩

theorem Trailer.breaking_isProper : breaking.IsProper := by
  have hnone : ∀ c ∈ ([] : List Char), isBlank c = true := List.forall_mem_nil _
  have hblank : ∀ c ∈ [' '], isBlank c = true := List.forall_mem_singleton.2 rfl
  refine ⟨.inl rfl, ⟨rfl, by decide, hnone, by decide⟩,
    List.forall_mem_cons.2 ⟨?_, List.forall_mem_singleton.2 ?_⟩⟩
  · exact ⟨⟨rfl, by decide, hnone, by decide⟩, by decide⟩
  · exact ⟨⟨rfl, by decide, hblank, by decide⟩, by decide⟩

theorem Trailer.checked_isProper : checked.IsProper :=
  ⟨.inr ⟨'Q', ['A'], rfl, rfl, List.forall_mem_singleton.2 (.inl rfl)⟩,
    ⟨rfl, by decide, List.forall_mem_nil _, by decide⟩, List.forall_mem_nil _⟩

/-- After a body that looks like a trailer, two trailers and a carriage return at the end are read; a last paragraph
with a line of prose has none. -/
theorem trailers_roundTrip_breaking :
    trailers "Ticket: 1\n\nBREAKING CHANGE: \n  removes y\n z \nQA:  ok\r\n".toList =
        [⟨"BREAKING CHANGE".toList, " removes y z".toList⟩, ⟨"QA".toList, "ok".toList⟩] ∧
      trailers "Subject\n\nTicket: 1\nmore prose\n".toList = [] := by
  have hmessage : "Ticket: 1\n\nBREAKING CHANGE: \n  removes y\n z \nQA:  ok\r\n".toList =
      "Ticket: 1".toList ++ '\n' :: [] ++ '\n' :: blockOf [breaking, checked] ++ "\r\n".toList := by
    decide +kernel
  have htrailers : [⟨"BREAKING CHANGE".toList, " removes y z".toList⟩, ⟨"QA".toList, "ok".toList⟩] =
      [breaking, checked].map Written.trailer := by
    decide +kernel
  have hproper : ∀ written ∈ [breaking, checked], written.IsProper :=
    List.forall_mem_cons.2 ⟨breaking_isProper, List.forall_mem_singleton.2 checked_isProper⟩
  have hlast : IsLastParagraph "Subject\n\nTicket: 1\nmore prose\n".toList
      ["Ticket: 1".toList, "more prose".toList] :=
    ⟨⟨["Subject".toList, []], by decide, by decide⟩, by decide⟩
  have hprose : ¬ ∃ key value, IsKeyText key ∧ "more prose".toList = key ++ ':' :: value :=
    ofLine?_eq_none_iff.1 (by decide)
  have hreturn : ∀ c ∈ "\r\n".toList, isBlank c = true :=
    List.forall_mem_cons.2 ⟨rfl, List.forall_mem_singleton.2 rfl⟩
  constructor
  · rw [hmessage, htrailers]
    exact trailers_roundTrip.1 _ [] _ _ (by simp) hproper (by simp) (by simp) hreturn
  · exact trailers_roundTrip.2 _ _ hlast (.inr ⟨_, by decide, by decide, hprose⟩)

end ReleasePress.Git
