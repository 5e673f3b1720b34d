import Mathlib.Tactic.Common
import ReleasePress.Text.Split

/-! # Cuts at a character or a piece of text

What the cuts at one character give: the text put together again, with no such character before the first
cut or after the last one.  Of a cut at a piece of text less is said: that it takes out the piece, and where it
is made at two different characters (`cutAt?_pair`). -/

namespace ReleasePress.Text

theorem dropHead?_eq_some_iff {head text rest : List Char} :
    dropHead? head text = some rest ↔ text = head ++ rest := by
  induction head generalizing text with
  | nil => simp [dropHead?]
  | cons h head ih =>
      cases text with
      | nil => simp [dropHead?]
      | cons c text =>
          by_cases hc : h = c
          · simp [dropHead?, hc, ih]
          · have hc' : c ≠ h := fun hc' => hc hc'.symm
            simp [dropHead?, hc, hc']

/-- What a test takes off the front of a text ends at the first character that it refuses. -/
theorem takeWhile_append_cons {p : Char → Bool} {front : List Char} (hfront : ∀ d ∈ front, p d = true) {c : Char}
    (hc : p c = false) (rest : List Char) : (front ++ c :: rest).takeWhile p = front := by
  rw [List.takeWhile_append_of_pos hfront, List.takeWhile_cons_of_neg (by simp [hc]), List.append_nil]

theorem dropWhile_append_cons {p : Char → Bool} {front : List Char} (hfront : ∀ d ∈ front, p d = true) {c : Char}
    (hc : p c = false) (rest : List Char) : (front ++ c :: rest).dropWhile p = c :: rest := by
  rw [List.dropWhile_append_of_pos hfront, List.dropWhile_cons_of_neg (by simp [hc])]

/-- What a test takes off the front of a text, and a mark behind it, are together what the text begins with. -/
theorem eq_takeWhile_append {p : Char → Bool} {mark text rest : List Char}
    (h : dropHead? mark (text.drop (text.takeWhile p).length) = some rest) :
    text = text.takeWhile p ++ (mark ++ rest) := by
  rw [← dropHead?_eq_some_iff.1 h]
  exact (List.prefix_iff_eq_append.1 (List.takeWhile_prefix p)).symm

/-- A text has one front that ends at the first character that a test refuses. -/
theorem append_cons_inj {p : Char → Bool} {front front' rest rest' : List Char} {c c' : Char}
    (hfront : ∀ d ∈ front, p d = true) (hfront' : ∀ d ∈ front', p d = true) (hc : p c = false)
    (hc' : p c' = false) (h : front ++ c :: rest = front' ++ c' :: rest') :
    front = front' ∧ c = c' ∧ rest = rest' := by
  have htake := congrArg (List.takeWhile p) h
  rw [takeWhile_append_cons hfront hc, takeWhile_append_cons hfront' hc'] at htake
  subst htake
  exact ⟨rfl, List.cons.inj (List.append_cancel_left h)⟩

/-- The first cut at a character. -/
theorem cutAt?_eq_some_iff {c : Char} {text before after : List Char} :
    cutAt? [c] text = some (before, after) ↔ text = before ++ c :: after ∧ c ∉ before := by
  induction text generalizing before with
  | nil => simp [cutAt?, dropHead?]
  | cons d text ih =>
      by_cases hd : c = d
      · subst hd
        simp only [cutAt?, dropHead?, if_true, Option.some.injEq, Prod.mk.injEq]
        cases before with
        | nil => simp
        | cons b before =>
            simp only [reduceCtorEq, false_and, List.cons_append, List.cons.injEq, List.mem_cons,
              not_or, false_iff, not_and]
            rintro ⟨rfl, -⟩ hb
            exact absurd rfl hb
      · simp only [cutAt?, dropHead?, hd, if_false, Option.map_eq_some_iff, Prod.exists,
          Prod.mk.injEq]
        cases before with
        | nil =>
            have hd' : d ≠ c := fun hd' => hd hd'.symm
            simp [hd']
        | cons b before =>
            constructor
            · rintro ⟨before', after', hcut, hbefore, rfl⟩
              obtain ⟨rfl, rfl⟩ := List.cons.inj hbefore
              obtain ⟨rfl, hmem⟩ := ih.1 hcut
              exact ⟨rfl, by simp [hd, hmem]⟩
            · rintro ⟨htext, hmem⟩
              obtain ⟨rfl, rfl⟩ := List.cons.inj htext
              have hmem' : c ∉ before := fun hc => hmem (List.mem_cons_of_mem _ hc)
              exact ⟨before, after, ih.2 ⟨rfl, hmem'⟩, rfl, rfl⟩

theorem cutAt?_eq_none_iff {c : Char} {text : List Char} : cutAt? [c] text = none ↔ c ∉ text := by
  induction text with
  | nil => simp [cutAt?, dropHead?]
  | cons d text ih =>
      by_cases hd : c = d
      · simp [cutAt?, dropHead?, hd]
      · simp [cutAt?, dropHead?, hd, ih]

/-- A cut at any piece of text takes out that piece. -/
theorem eq_of_cutAt? {mark text before after : List Char} (hcut : cutAt? mark text = some (before, after)) :
    text = before ++ (mark ++ after) := by
  fun_induction cutAt? mark text generalizing before with
  | case1 =>
      obtain ⟨rest, hrest, hpair⟩ := Option.map_eq_some_iff.1 hcut
      cases hpair
      rw [List.nil_append]
      exact dropHead?_eq_some_iff.1 hrest
  | case2 c text rest hrest =>
      cases hcut
      rw [List.nil_append]
      exact dropHead?_eq_some_iff.1 hrest
  | case3 c text hhere ih =>
      obtain ⟨⟨before', after'⟩, hrest, hpair⟩ := Option.map_eq_some_iff.1 hcut
      cases hpair
      rw [ih hrest, List.cons_append]

theorem contains_iff {piece text : List Char} : contains piece text = true ↔ piece <:+: text := by
  rw [contains, Option.isSome_iff_exists]
  constructor
  · rintro ⟨⟨before, after⟩, hcut⟩
    exact ⟨before, after, by rw [eq_of_cutAt? hcut, List.append_assoc]⟩
  · intro hoccurs
    induction text with
    | nil =>
        obtain rfl := List.infix_nil.1 hoccurs
        exact ⟨_, rfl⟩
    | cons c text ih =>
        rw [cutAt?]
        cases hhere : dropHead? piece (c :: text) with
        | some rest => exact ⟨_, rfl⟩
        | none =>
            rcases List.infix_cons_iff.1 hoccurs with ⟨rest, hprefix⟩ | htail
            · rw [dropHead?_eq_some_iff.2 hprefix.symm] at hhere
              cases hhere
            · obtain ⟨cut, hcut⟩ := ih htail
              exact ⟨_, by rw [hcut, Option.map_some]⟩

/-- The first cut at two different characters, where they do not stand together in front. -/
theorem cutAt?_pair {a b : Char} (hne : a ≠ b) {front : List Char} (hfront : ¬ [a, b] <:+: front)
    (rest : List Char) : cutAt? [a, b] (front ++ a :: b :: rest) = some (front, rest) := by
  induction front with
  | nil => simp [cutAt?, dropHead?]
  | cons c front ih =>
      -- the piece begins no earlier, because its second character would be in front or would be the first one
      have hnone : dropHead? [a, b] (c :: (front ++ a :: b :: rest)) = none := by
        rw [Option.eq_none_iff_forall_ne_some]
        intro rest' hrest'
        obtain ⟨rfl, hsecond⟩ := List.cons.inj (dropHead?_eq_some_iff.1 hrest')
        cases front with
        | nil => exact hne (List.cons.inj hsecond).1
        | cons d front =>
            obtain ⟨rfl, -⟩ := List.cons.inj hsecond
            exact hfront ⟨[], front, rfl⟩
      rw [List.cons_append, cutAt?, hnone]
      simp only [ih fun hoccurs => hfront (List.infix_cons hoccurs), Option.map_some]

theorem dropTail?_eq_some_iff {tail text rest : List Char} : dropTail? tail text = some rest ↔ text = rest ++ tail := by
  simp only [dropTail?, Option.map_eq_some_iff, dropHead?_eq_some_iff]
  constructor
  · rintro ⟨front, hfront, rfl⟩
    rw [← List.reverse_reverse text, hfront, List.reverse_append, List.reverse_reverse]
  · rintro rfl
    exact ⟨rest.reverse, List.reverse_append, List.reverse_reverse rest⟩

theorem dropTail?_append (text tail : List Char) : dropTail? tail (text ++ tail) = some text :=
  dropTail?_eq_some_iff.2 rfl

/-- The last cut at a character. -/
theorem cutLastAt?_eq_some_iff {c : Char} {text before after : List Char} :
    cutLastAt? c text = some (before, after) ↔ text = before ++ c :: after ∧ c ∉ after := by
  simp only [cutLastAt?, Option.map_eq_some_iff, Prod.exists, Prod.mk.injEq, cutAt?_eq_some_iff]
  constructor
  · rintro ⟨after', before', ⟨htext, hmem⟩, rfl, rfl⟩
    refine ⟨?_, by simpa using hmem⟩
    have hreverse := congrArg List.reverse htext
    simpa using hreverse
  · rintro ⟨rfl, hmem⟩
    exact ⟨after.reverse, before.reverse, ⟨by simp, by simpa using hmem⟩, by simp, by simp⟩

theorem cutLastAt?_eq_none_iff {c : Char} {text : List Char} :
    cutLastAt? c text = none ↔ c ∉ text := by
  simp [cutLastAt?, cutAt?_eq_none_iff]

/-- A text whose ends are no blanks keeps them. -/
theorem trim_eq_self {text : List Char} (hhead : ∀ c ∈ text.head?, isBlank c = false)
    (hlast : ∀ c ∈ text.getLast?, isBlank c = false) : trim text = text := by
  have hstart : trimStart text = text := by
    cases text with
    | nil => rfl
    | cons c text => simp [trimStart, hhead c rfl]
  have hend : trimEnd text = text := by
    rw [List.getLast?_eq_head?_reverse] at hlast
    cases hreverse : text.reverse with
    | nil => simp [trimEnd, List.reverse_eq_nil_iff.1 hreverse]
    | cons c rest =>
        have hc : isBlank c = false := hlast c (by simp [hreverse])
        rw [trimEnd, hreverse, List.dropWhile_cons_of_neg (by simp [hc]), ← hreverse, List.reverse_reverse]
  rw [trim, hstart, hend]

end ReleasePress.Text
