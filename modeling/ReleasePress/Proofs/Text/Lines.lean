import Mathlib.Tactic.Common
import ReleasePress.Text.Split

/-!
# Lines and blank lines

Lines joined by line feeds are read as the same lines (`lines_intercalate`), and the first empty line
cuts a text of such lines from what follows it, whatever that is (`cutAt?_blankLine`).
-/

namespace ReleasePress.Text

/-! ## Lines -/

theorem linesFrom_append {line : List Char} (h : '\n' ∉ line) (front rest : List Char) :
    linesFrom front (line ++ '\n' :: rest) = dropReturn (front.reverse ++ line) :: linesFrom [] rest := by
  induction line generalizing front with
  | nil => simp [linesFrom]
  | cons c line ih =>
      have hc : c ≠ '\n' := fun hc => h (by simp [hc])
      have hline : '\n' ∉ line := fun hmem => h (List.mem_cons_of_mem _ hmem)
      rw [List.cons_append, linesFrom]
      · rw [ih hline]
        simp
      · exact hc

theorem linesFrom_of_notMem {line : List Char} (h : '\n' ∉ line) (front : List Char) :
    linesFrom front line = if front.reverse ++ line = [] then [] else [front.reverse ++ line] := by
  induction line generalizing front with
  | nil => simp [linesFrom]
  | cons c line ih =>
      have hc : c ≠ '\n' := fun hc => h (by simp [hc])
      have hline : '\n' ∉ line := fun hmem => h (List.mem_cons_of_mem _ hmem)
      rw [linesFrom, ih hline]
      · simp
      · exact hc

theorem dropReturn_append_return (line : List Char) : dropReturn (line ++ ['\r']) = line := by
  simp [dropReturn]

theorem dropReturn_eq_self {line : List Char} (h : line.getLast? ≠ some '\r') : dropReturn line = line := by
  rw [List.getLast?_eq_head?_reverse] at h
  unfold dropReturn
  split
  · next heq => simp [heq] at h
  · rfl

/-- A line that can stand between two others: it is not empty and holds no mark of its end. -/
structure IsLine (line : List Char) : Prop where
  ne_nil : line ≠ []
  notMem : '\n' ∉ line
  getLast?_ne : line.getLast? ≠ some '\r'

/-- **Lines are read back.** -/
theorem lines_intercalate {ls : List (List Char)} (h : ∀ line ∈ ls, IsLine line) :
    lines (['\n'].intercalate ls) = ls := by
  induction ls with
  | nil => rfl
  | cons line rest ih =>
      have hline := h line List.mem_cons_self
      have hrest := ih fun l hl => h l (List.mem_cons_of_mem _ hl)
      cases rest with
      | nil => simp [lines, linesFrom_of_notMem hline.notMem, hline.ne_nil]
      | cons next rest =>
          rw [List.intercalate_cons_cons, lines, List.append_assoc, List.singleton_append,
            linesFrom_append hline.notMem, List.reverse_nil, List.nil_append,
            dropReturn_eq_self hline.getLast?_ne]
          exact congrArg _ hrest

theorem linesFrom_append_line (front text rest : List Char) :
    linesFrom front (text ++ '\n' :: rest) = linesFrom front (text ++ ['\n']) ++ lines rest := by
  induction text generalizing front with
  | nil => simp [linesFrom, lines]
  | cons c text ih =>
      by_cases hc : c = '\n'
      · simp [hc, linesFrom, ih]
      · rw [List.cons_append, linesFrom, ih, List.cons_append, linesFrom] <;> exact hc

/-- What stands before a line feed and what stands after it have lines of their own. -/
theorem lines_append_line (text rest : List Char) :
    lines (text ++ '\n' :: rest) = lines (text ++ ['\n']) ++ lines rest :=
  linesFrom_append_line [] text rest

theorem lines_flatMap_append {ls : List (List Char)} (h : ∀ line ∈ ls, '\n' ∉ line) (rest : List Char) :
    lines (ls.flatMap (· ++ ['\n']) ++ rest) = ls.map dropReturn ++ lines rest := by
  induction ls with
  | nil => rfl
  | cons line ls ih =>
      obtain ⟨hline, hls⟩ := List.forall_mem_cons.1 h
      simp only [List.flatMap_cons, List.append_assoc, lines, linesFrom_append hline,
        List.reverse_nil, List.nil_append, List.map_cons, List.cons_append, List.cons.injEq, true_and]
      exact ih hls

theorem intercalate_concat (ls : List (List Char)) (last : List Char) :
    ['\n'].intercalate (ls ++ [last]) = ls.flatMap (· ++ ['\n']) ++ last := by
  induction ls with
  | nil => simp
  | cons line ls ih =>
      rw [List.cons_append, List.intercalate_cons_of_ne_nil (by simp), ih]
      simp

/-! ## The empty line -/

theorem cutAt?_blank_append {line : List Char} (h : '\n' ∉ line) {c : Char} (hc : c ≠ '\n')
    (rest : List Char) :
    cutAt? ['\n', '\n'] (line ++ '\n' :: c :: rest) =
      (cutAt? ['\n', '\n'] (c :: rest)).map fun (before, after) => (line ++ '\n' :: before, after) := by
  induction line with
  | nil =>
      have hc' : ¬ '\n' = c := fun heq => hc heq.symm
      rw [List.nil_append, cutAt?]
      simp [dropHead?, hc']
  | cons d line ih =>
      have hd : ¬ '\n' = d := fun heq => h (heq ▸ List.mem_cons_self)
      have hline : '\n' ∉ line := fun hmem => h (List.mem_cons_of_mem _ hmem)
      rw [List.cons_append, cutAt?, ih hline]
      simp [dropHead?, hd, Function.comp_def]

theorem cutAt?_blank_last {line : List Char} (h : '\n' ∉ line) (rest : List Char) :
    cutAt? ['\n', '\n'] (line ++ '\n' :: '\n' :: rest) = some (line, rest) := by
  induction line with
  | nil => simp [cutAt?, dropHead?]
  | cons d line ih =>
      have hd : ¬ '\n' = d := fun heq => h (heq ▸ List.mem_cons_self)
      have hline : '\n' ∉ line := fun hmem => h (List.mem_cons_of_mem _ hmem)
      rw [List.cons_append, cutAt?, ih hline]
      simp [dropHead?, hd]

/-- **The first empty line is found.**  No line before it is empty, so nothing after it can matter. -/
theorem cutAt?_blankLine {ls : List (List Char)} (hne : ls ≠ []) (h : ∀ line ∈ ls, IsLine line)
    (rest : List Char) :
    cutAt? ['\n', '\n'] (ls.flatMap (· ++ ['\n']) ++ '\n' :: rest) =
      some (['\n'].intercalate ls, rest) := by
  induction ls with
  | nil => exact absurd rfl hne
  | cons line ls ih =>
      have hline := h line List.mem_cons_self
      cases ls with
      | nil => simpa using cutAt?_blank_last hline.notMem rest
      | cons next ls =>
          have hnext := h next (by simp)
          have hrest := ih (List.cons_ne_nil _ _) fun l hl => h l (List.mem_cons_of_mem _ hl)
          obtain ⟨c, chars, rfl⟩ := List.exists_cons_of_ne_nil hnext.ne_nil
          have hc : c ≠ '\n' := fun heq => hnext.notMem (heq ▸ List.mem_cons_self)
          have hstep := cutAt?_blank_append hline.notMem hc
            (chars ++ '\n' :: (ls.flatMap (· ++ ['\n']) ++ '\n' :: rest))
          simp only [List.flatMap_cons, List.append_assoc, List.cons_append, List.nil_append]
            at hrest ⊢
          rw [hstep, hrest, List.intercalate_cons_cons]
          simp

end ReleasePress.Text
