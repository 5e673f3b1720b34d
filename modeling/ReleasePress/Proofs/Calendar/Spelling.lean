import ReleasePress.Proofs.Calendar.Strict

/-!
# The two spellings of offset zero

`Z` and `+00:00` are one offset to every reader of timestamps.  After any text the strict reader reads
the same from either (`read?_zero`), and so does the lenient one as long as the text does not start with
the offset itself (`readLenient?_zero`), where the plus would be the sign of a year.

A reader goes through a text from left to right, and no part of a timestamp before the offset has a `Z`
or a plus in it.  So whatever is read of the text in front is read before the spelling is seen.
`Alike` says this of one reader, and is kept by putting readers one after the other.
-/

namespace ReleasePress.Timestamp

open ReleasePress.Text

/-- The spellings of offset zero. -/
def zeroSpellings : List (List Char) := [['Z'], ['+', '0', '0', ':', '0', '0']]

section Alike

variable {α β γ : Type}

/-- What is read does not depend on the spelling at the end: `put` adds the spelling to what is found
without it. -/
def Alike (put : β → List Char → β) (read : List Char → Option β) : Prop :=
  ∃ found : Option β, ∀ e ∈ zeroSpellings, read e = found.map (put · e)

/-- The spelling stands at the end of the text that is left. -/
def leave (found : α × List Char) (e : List Char) : α × List Char :=
  (found.1, found.2 ++ e)

/-- What is read to the end has no place for a spelling. -/
def settled (found : α) (_ : List Char) : α :=
  found

theorem Alike.none {put : β → List Char → β} : Alike put fun _ => Option.none :=
  ⟨.none, fun _ _ => rfl⟩

theorem Alike.some {put : β → List Char → β} (found : β) : Alike put fun e => Option.some (put found e) :=
  ⟨.some found, fun _ _ => rfl⟩

theorem alike_leave (found : α) (rest : List Char) : Alike leave fun e => Option.some (found, rest ++ e) :=
  Alike.some (found, rest)

theorem Alike.congr {put : β → List Char → β} {read read' : List Char → Option β}
    (h : Alike put read) (heq : ∀ e ∈ zeroSpellings, read' e = read e) : Alike put read' := by
  obtain ⟨found, hfound⟩ := h
  exact ⟨found, fun e he => (heq e he).trans (hfound e he)⟩

theorem Alike.bind {put : β → List Char → β} {put' : γ → List Char → γ} {read : List Char → Option β}
    {next : β → Option γ} (h : Alike put read) (hnext : ∀ b, Alike put' fun e => next (put b e)) :
    Alike put' fun e => read e >>= next := by
  obtain ⟨found, hfound⟩ := h
  cases found with
  | none => exact Alike.none.congr fun e he => by rw [hfound e he]; rfl
  | some b => exact (hnext b).congr fun e he => by rw [hfound e he]; rfl

theorem Alike.ite {put : β → List Char → β} {read read' : List Char → Option β} {P : Prop} [Decidable P]
    (h : Alike put read) (h' : Alike put read') : Alike put fun e => if P then read e else read' e := by
  by_cases hP : P
  · simpa only [if_pos hP] using h
  · simpa only [if_neg hP] using h'

theorem Alike.spelled {read : String → Option α} {text : String}
    (h : Alike settled fun e => read (String.ofList (text.toList ++ e))) :
    read (text ++ "Z") = read (text ++ "+00:00") := by
  obtain ⟨found, hfound⟩ := h
  have hspelled (e : String) : text ++ e = String.ofList (text.toList ++ e.toList) := by simp
  rw [hspelled, hspelled]
  exact (hfound "Z".toList (by decide)).trans (hfound "+00:00".toList (by decide)).symm

end Alike

/-! ## Where a spelling begins -/

variable {e : List Char}

theorem exists_of_mem_zeroSpellings (he : e ∈ zeroSpellings) :
    ∃ c rest, e = c :: rest ∧ (c = 'Z' ∨ c = '+') := by
  simp only [zeroSpellings, List.mem_cons, List.not_mem_nil, or_false] at he
  rcases he with rfl | rfl
  · exact ⟨_, _, rfl, .inl rfl⟩
  · exact ⟨_, _, rfl, .inr rfl⟩

/-- A run of characters that a spelling does not begin with ends before it. -/
theorem takeWhile_zero {p : Char → Bool} (hZ : p 'Z' = false) (hplus : p '+' = false)
    (he : e ∈ zeroSpellings) (text : List Char) : (text ++ e).takeWhile p = text.takeWhile p := by
  obtain ⟨c, rest, rfl, rfl | rfl⟩ := exists_of_mem_zeroSpellings he <;>
    induction text with
    | nil => simp [hZ, hplus]
    | cons d text ih => simp only [List.cons_append, List.takeWhile_cons, ih]

theorem dropWhile_zero {p : Char → Bool} (hZ : p 'Z' = false) (hplus : p '+' = false)
    (he : e ∈ zeroSpellings) (text : List Char) : (text ++ e).dropWhile p = text.dropWhile p ++ e := by
  obtain ⟨c, rest, rfl, rfl | rfl⟩ := exists_of_mem_zeroSpellings he <;>
    induction text with
    | nil => simp [hZ, hplus]
    | cons d text ih =>
        simp only [List.cons_append, List.dropWhile_cons, ih]
        split <;> rfl

theorem trimStart_zero (he : e ∈ zeroSpellings) (text : List Char) :
    trimStart (text ++ e) = trimStart text ++ e :=
  dropWhile_zero (by decide) (by decide) he text

theorem append_zero_ne_nil (he : e ∈ zeroSpellings) (text : List Char) : text ++ e ≠ [] := by
  obtain ⟨c, rest, rfl, -⟩ := exists_of_mem_zeroSpellings he
  simp

/-! ## Digits and marks -/

theorem alike_digits? (n : Nat) (text : List Char) : Alike leave fun e => digits? (n + 1) (text ++ e) := by
  by_cases hlength : n + 1 ≤ text.length
  · refine ⟨digits? (n + 1) text, fun e _ => ?_⟩
    simp only [digits?, List.take_append_of_le_length hlength, List.drop_append_of_le_length hlength]
    split <;> rfl
  · -- The spelling begins within the digits, with a character that is none.
    refine Alike.none.congr fun e he => ?_
    obtain ⟨c, rest, rfl, hc⟩ := exists_of_mem_zeroSpellings he
    have hdigit : isDigit c = false := by rcases hc with rfl | rfl <;> decide
    obtain ⟨k, hk⟩ : ∃ k, n + 1 - text.length = k + 1 := ⟨n - text.length, by omega⟩
    have htake : (text ++ c :: rest).take (n + 1) = text ++ c :: rest.take k := by
      rw [List.take_append, List.take_of_length_le (by omega), hk, List.take_succ_cons]
    simp [digits?, htake, hdigit]

theorem alike_nanos? (text : List Char) : Alike leave fun e => nanos? (text ++ e) := by
  refine ⟨nanos? text, fun e he => ?_⟩
  simp only [nanos?, takeWhile_zero (p := isDigit) (by decide) (by decide) he,
    dropWhile_zero (p := isDigit) (by decide) (by decide) he]
  split <;> rfl

theorem alike_dropHead? {c : Char} (hZ : c ≠ 'Z') (hplus : c ≠ '+') (text : List Char) :
    Alike (· ++ ·) fun e => dropHead? [c] (text ++ e) := by
  cases text with
  | nil =>
      refine Alike.none.congr fun e he => ?_
      obtain ⟨d, rest, rfl, rfl | rfl⟩ := exists_of_mem_zeroSpellings he
      · simp [dropHead?, hZ]
      · simp [dropHead?, hplus]
  | cons d text =>
      refine ⟨dropHead? [c] (d :: text), fun e _ => ?_⟩
      simp only [List.cons_append, dropHead?]
      split <;> rfl

theorem alike_afterMark? (text : List Char) : Alike (· ++ ·) fun e => afterMark? (text ++ e) := by
  cases text with
  | nil =>
      refine Alike.none.congr fun e he => ?_
      obtain ⟨d, rest, rfl, rfl | rfl⟩ := exists_of_mem_zeroSpellings he <;> rfl
  | cons d text =>
      refine ⟨afterMark? (d :: text), fun e _ => ?_⟩
      simp only [List.cons_append, afterMark?]
      split <;> rfl

theorem alike_skipSeparators (text : List Char) : Alike (· ++ ·) fun e => skipSeparators (text ++ e) :=
  ⟨skipSeparators text, fun _ he => congrArg some (dropWhile_zero (by decide) (by decide) he text)⟩

theorem alike_fraction? (text : List Char) : Alike leave fun e => fraction? (text ++ e) := by
  cases text with
  | nil =>
      refine (alike_leave 0 []).congr fun e he => ?_
      obtain ⟨d, rest, rfl, rfl | rfl⟩ := exists_of_mem_zeroSpellings he <;> rfl
  | cons c text =>
      by_cases hpoint : c = '.'
      · subst hpoint
        exact alike_nanos? text
      · refine (alike_leave 0 (c :: text)).congr fun e _ => ?_
        rw [List.cons_append, fraction?.eq_def]
        split
        · next heq => exact absurd (List.cons.inj heq).1 hpoint
        · rfl

/-! ## The offset -/

theorem sign?_cons (c : Char) (text : List Char) :
    sign? (c :: text) =
      if c = '+' then some (false, text)
      else if c = '-' ∨ c = '\u2212' then some (true, text) else none := by
  rw [sign?.eq_def]
  split <;> simp_all

theorem alike_sign? (c : Char) (text : List Char) : Alike leave fun e => sign? (c :: text ++ e) := by
  refine Alike.congr ?_ fun e _ => sign?_cons c (text ++ e)
  exact Alike.ite (alike_leave false text)
    (Alike.ite (alike_leave true text) Alike.none)

variable {separator : List Char → Option (List Char)}

/-- An offset that begins before the spelling ends before it too. -/
theorem alike_offset? (hseparator : ∀ text, Alike (· ++ ·) fun e => separator (text ++ e)) (c : Char)
    (text : List Char) : Alike leave fun e => offset? separator true false (c :: text ++ e) := by
  by_cases hZ : c = 'Z'
  · subst hZ
    exact alike_leave 0 text
  · by_cases hz : c = 'z'
    · subst hz
      exact alike_leave 0 text
    · have hread (e : List Char) := offset?.eq_3 separator true false (c :: (text ++ e))
        (by rintro rest - ⟨⟩; exact hZ rfl) (by rintro rest - ⟨⟩; exact hz rfl)
      refine Alike.congr ?_ fun e _ => hread e
      refine (alike_sign? c text).bind ?_
      rintro ⟨negative, text⟩
      refine (alike_digits? 1 text).bind ?_
      rintro ⟨hours, text⟩
      refine (hseparator text).bind fun text => ?_
      refine (alike_digits? 1 text).bind ?_
      rintro ⟨minutes, text⟩
      exact Alike.ite (alike_leave (if negative then -((hours : Int) * 3600 + minutes * 60)
        else hours * 3600 + minutes * 60) text) Alike.none

/-! ## The strict reader -/

theorem alike_readClock? (year month day : Nat) (text : List Char) :
    Alike settled fun e => readClock? year month day (text ++ e) := by
  have hcolon (text : List Char) := alike_dropHead? (c := ':') (by decide) (by decide) text
  refine (alike_digits? 1 text).bind ?_
  rintro ⟨hour, text⟩
  refine (hcolon text).bind fun text => ?_
  refine (alike_digits? 1 text).bind ?_
  rintro ⟨minute, text⟩
  refine (hcolon text).bind fun text => ?_
  refine (alike_digits? 1 text).bind ?_
  rintro ⟨second, text⟩
  refine (alike_fraction? text).bind ?_
  rintro ⟨nanos, text⟩
  cases text with
  | nil =>
      -- Here the spelling is the offset, and either is zero.
      refine ⟨ofFields? year month day hour minute second nanos 0, fun e he => ?_⟩
      simp only [zeroSpellings, List.mem_cons, List.not_mem_nil, or_false] at he
      rcases he with rfl | rfl <;> exact Option.map_id'.symm
  | cons c text =>
      refine (alike_offset? hcolon c text).bind ?_
      rintro ⟨offset, text⟩
      refine Alike.none.congr fun e he => ?_
      simp [leave, append_zero_ne_nil he]

/-- **To the strict reader both spellings are the same.** -/
theorem read?_zero (text : String) : read? (text ++ "Z") = read? (text ++ "+00:00") := by
  have hdash (text : List Char) := alike_dropHead? (c := '-') (by decide) (by decide) text
  have h : Alike settled fun e => read? (String.ofList (text.toList ++ e)) := by
    refine Alike.congr ?_ fun e _ => by rw [read?_eq, String.toList_ofList]
    refine (alike_digits? 3 text.toList).bind ?_
    rintro ⟨year, text⟩
    refine (hdash text).bind fun text => ?_
    refine (alike_digits? 1 text).bind ?_
    rintro ⟨month, text⟩
    refine (hdash text).bind fun text => ?_
    refine (alike_digits? 1 text).bind ?_
    rintro ⟨day, text⟩
    refine (alike_afterMark? text).bind fun text => ?_
    exact alike_readClock? year month day text
  exact h.spelled

/-! ## The lenient reader -/

theorem alike_readDigits? (places : Option Nat) (text : List Char) :
    Alike leave fun e => DateNumber.readDigits? places (text ++ e) := by
  refine ⟨DateNumber.readDigits? places text, fun e he => ?_⟩
  have htake : (text ++ e).takeWhile isDigit = text.takeWhile isDigit :=
    takeWhile_zero (by decide) (by decide) he text
  have hrun : (text.takeWhile isDigit).length ≤ text.length :=
    (List.takeWhile_sublist isDigit).length_le
  cases places with
  | none =>
      simp only [DateNumber.readDigits?, htake, List.drop_append_of_le_length hrun]
      split <;> rfl
  | some n =>
      have hdigits : ((text.takeWhile isDigit).take n).length ≤ text.length :=
        (List.length_take_le' _ _).trans hrun
      simp only [DateNumber.readDigits?, htake, List.drop_append_of_le_length hdigits]
      split <;> rfl

/-- Only in front of a year is a plus a sign. -/
theorem alike_number {field : DateNumber} (hyear : field ≠ .year) (hiso : field ≠ .isoYear)
    (text : List Char) : Alike leave fun e => field.read? (text ++ e) := by
  have hread (text : List Char) : field.read? text = DateNumber.readDigits? field.places (trimStart text) := by
    simp [DateNumber.read?, hyear, hiso]
  refine Alike.congr (alike_readDigits? field.places (trimStart text)) fun e he => ?_
  rw [hread, trimStart_zero he]

theorem alike_year {c : Char} (hc : isBlank c = false) (text : List Char) :
    Alike leave fun e => DateNumber.year.read? (c :: text ++ e) := by
  have hread (text : List Char) : DateNumber.year.read? (c :: text) =
      if c = '-' then (DateNumber.readDigits? none text).map fun found => (-found.1, found.2)
      else if c = '+' then DateNumber.readDigits? none text
      else DateNumber.readDigits? DateNumber.year.places (c :: text) := by
    have htrim : trimStart (c :: text) = c :: text := by simp [trimStart, hc]
    rw [DateNumber.read?, htrim]
    split <;> simp_all
  refine Alike.congr ?_ fun e _ => hread (text ++ e)
  refine Alike.ite ?_ (Alike.ite (alike_readDigits? _ text) (alike_readDigits? _ (c :: text)))
  obtain ⟨found, hfound⟩ := alike_readDigits? none text
  refine ⟨found.map fun found => (-found.1, found.2), fun e he => ?_⟩
  show (DateNumber.readDigits? none (text ++ e)).map _ = _
  rw [show DateNumber.readDigits? none (text ++ e) = _ from hfound e he]
  cases found <;> rfl

variable {fields : DateFields}

theorem Alike.readNumber {field : DateNumber} {text : List Char}
    (h : Alike leave fun e => field.read? (text ++ e)) :
    Alike leave fun e => Timestamp.readNumber fields (text ++ e) field := by
  refine h.bind ?_
  rintro ⟨n, text⟩
  cases hset : fields.set n field with
  | none => exact Alike.none.congr fun e _ => by simp [leave, hset]
  | some fields => exact (alike_leave fields text).congr fun e _ => by simp [leave, hset]

/-- Numbers without a year among them. -/
theorem alike_readNumbers {mark : Char} (hZ : mark ≠ 'Z') (hplus : mark ≠ '+')
    {numbers : List DateNumber} (hnumbers : ∀ n ∈ numbers, n ≠ .year ∧ n ≠ .isoYear) (text : List Char) :
    Alike leave fun e => readNumbers mark fields (text ++ e) numbers := by
  induction numbers generalizing fields text with
  | nil => exact alike_leave fields text
  | cons field numbers ih =>
      obtain ⟨hyear, hiso⟩ := hnumbers field List.mem_cons_self
      have hfield (text : List Char) : Alike leave fun e => readNumber fields (text ++ e) field :=
        (alike_number hyear hiso text).readNumber
      cases numbers with
      | nil => exact hfield text
      | cons next numbers =>
          refine (hfield text).bind ?_
          rintro ⟨fields, text⟩
          have hothers : Alike leave fun e => dropHead? [mark] (trimStart text ++ e) >>= fun text =>
              readNumbers mark fields text (next :: numbers) :=
            (alike_dropHead? hZ hplus (trimStart text)).bind fun text =>
              ih (fun n hn => hnumbers n (List.mem_cons_of_mem _ hn)) text
          exact hothers.congr fun e he => by simp only [leave, trimStart_zero he]

theorem alike_readFraction (text : List Char) : Alike leave fun e => readFraction fields (text ++ e) := by
  have hnone : Alike leave fun e => some (fields, text ++ e) := alike_leave fields text
  cases text with
  | nil =>
      refine hnone.congr fun e he => ?_
      obtain ⟨d, rest, rfl, rfl | rfl⟩ := exists_of_mem_zeroSpellings he <;> rfl
  | cons c text =>
      by_cases hpoint : c = '.'
      · subst hpoint
        refine (alike_nanos? text).bind ?_
        rintro ⟨n, text⟩
        cases hset : fields.set n .nanosecond with
        | none => exact Alike.none.congr fun e _ => by simp [leave, hset]
        | some fields =>
            exact (alike_leave fields text).congr fun e _ => by simp [leave, hset]
      · refine hnone.congr fun e _ => ?_
        rw [List.cons_append, readFraction.eq_def]
        split
        · next heq => exact absurd (List.cons.inj heq).1 hpoint
        · rfl

/-- A word without `z` does not begin with a spelling. -/
theorem alike_dropFolded? {head : List Char} (hhead : ∀ c ∈ head, c.toLower ≠ 'z' ∧ c.toLower ≠ '+')
    (text : List Char) : Alike (· ++ ·) fun e => DateName.dropFolded? head (text ++ e) := by
  induction head generalizing text with
  | nil => exact Alike.some text
  | cons h head ih =>
      obtain ⟨hZ, hplus⟩ := hhead h List.mem_cons_self
      cases text with
      | nil =>
          refine Alike.none.congr fun e he => ?_
          obtain ⟨d, rest, rfl, rfl | rfl⟩ := exists_of_mem_zeroSpellings he
          · exact if_neg hZ
          · exact if_neg hplus
      | cons c text => exact Alike.ite (ih (fun c hc => hhead c (List.mem_cons_of_mem _ hc)) text) Alike.none

/-- The offset at the end of a lenient timestamp. -/
def zone? (text : List Char) : Option (Int × List Char) :=
  match DateName.dropFolded? ['u', 't', 'c'] text with
  | some text => some (0, text)
  | none => offset? skipSeparators true false text

/-- The moment of the fields and of an offset at the end of the text. -/
def readEnd? (fields : DateFields) (text : List Char) : Option Moment := do
  let (offset, text) ← zone? text
  let fields ← fields.setOffset offset
  if (trimStart text).isEmpty then fields.moment? else none

/-- The lenient reader, cut before the offset. -/
def readLenientChars? (text : List Char) : Option Moment := do
  let (fields, text) ← readNumbers '-' {} text [.year, .month, .dayOfMonth]
  let text ← afterMark? text
  let (fields, text) ← readNumbers ':' fields text [.hour, .minute, .second]
  let (fields, text) ← readFraction fields text
  readEnd? fields (trimStart text)

theorem readLenient?_eq (text : String) : readLenient? text = readLenientChars? text.toList := by
  have hbind : readLenient? text = (readFields {} text.toList >>= fun found =>
      if (trimStart found.2).isEmpty then found.1.moment? else none) := by
    rw [readLenient?]
    cases readFields {} text.toList <;> rfl
  rw [hbind, readFields, readLenientChars?, bind_assoc]
  refine bind_congr ?_
  rintro ⟨fields, text⟩
  cases text with
  | nil => rfl
  | cons c text =>
      dsimp -zeta only
      simp only [afterMark?]
      split
      · dsimp only [Option.bind_eq_bind, Option.bind_some]
        rw [Option.bind_assoc]
        refine Option.bind_congr fun timed _ => ?_
        rw [Option.bind_assoc]
        refine Option.bind_congr fun whole _ => ?_
        -- What is left is the offset, which either is the word or is read as such.
        rw [readEnd?, zone?]
        cases DateName.dropFolded? ['u', 't', 'c'] (trimStart whole.2) with
        | some rest => exact Option.bind_assoc ..
        | none =>
            refine (Option.bind_assoc ..).trans ?_
            exact bind_congr fun found => Option.bind_assoc ..
      · rfl

theorem zone?_zero (he : e ∈ zeroSpellings) : zone? e = some (0, []) := by
  simp only [zeroSpellings, List.mem_cons, List.not_mem_nil, or_false] at he
  rcases he with rfl | rfl <;> rfl

theorem alike_zone? (c : Char) (text : List Char) : Alike leave fun e => zone? (c :: text ++ e) := by
  have hword : ∀ c ∈ ['u', 't', 'c'], c.toLower ≠ 'z' ∧ c.toLower ≠ '+' := by
    intro c hc
    simp only [List.mem_cons, List.not_mem_nil, or_false] at hc
    rcases hc with rfl | rfl | rfl <;> decide
  obtain ⟨found, hfound⟩ := alike_dropFolded? hword (c :: text)
  cases found with
  | none =>
      refine (alike_offset? alike_skipSeparators c text).congr fun e he => ?_
      rw [zone?, show DateName.dropFolded? ['u', 't', 'c'] (c :: text ++ e) = none from hfound e he]
  | some rest =>
      refine (alike_leave 0 rest).congr fun e he => ?_
      rw [zone?, show DateName.dropFolded? ['u', 't', 'c'] (c :: text ++ e) = some (rest ++ e) from hfound e he]

theorem alike_readEnd? (text : List Char) : Alike settled fun e => readEnd? fields (text ++ e) := by
  cases text with
  | nil =>
      refine ⟨do (← fields.setOffset 0).moment?, fun e he => ?_⟩
      show readEnd? fields e = _
      rw [readEnd?, zone?_zero he]
      exact Option.map_id'.symm
  | cons c text =>
      refine (alike_zone? c text).bind ?_
      rintro ⟨offset, text⟩
      refine Alike.none.congr fun e he => ?_
      cases hset : fields.setOffset offset <;> simp [leave, hset, trimStart_zero he, append_zero_ne_nil he]

/-- **To the lenient reader both spellings are the same**, once there is something before them. -/
theorem readLenient?_zero {text : String} {c : Char} {rest : List Char} (htext : text.toList = c :: rest)
    (hc : isBlank c = false) : readLenient? (text ++ "Z") = readLenient? (text ++ "+00:00") := by
  have hyear : Alike leave fun e => readNumbers '-' {} (c :: rest ++ e) [.year, .month, .dayOfMonth] := by
    refine (alike_year hc rest).readNumber.bind ?_
    rintro ⟨fields, text⟩
    have hothers : Alike leave fun e => dropHead? ['-'] (trimStart text ++ e) >>= fun text =>
        readNumbers '-' fields text [.month, .dayOfMonth] :=
      (alike_dropHead? (by decide) (by decide) (trimStart text)).bind fun text =>
        alike_readNumbers (by decide) (by decide) (by decide) text
    exact hothers.congr fun e he => by simp only [leave, trimStart_zero he]
  have h : Alike settled fun e => readLenient? (String.ofList (text.toList ++ e)) := by
    refine Alike.congr ?_ fun e _ => by rw [readLenient?_eq, String.toList_ofList, htext]
    refine hyear.bind ?_
    rintro ⟨fields, text⟩
    refine (alike_afterMark? text).bind fun text => ?_
    refine (alike_readNumbers (by decide) (by decide) (by decide) text).bind ?_
    rintro ⟨fields, text⟩
    refine (alike_readFraction text).bind ?_
    rintro ⟨fields, text⟩
    have hend : Alike settled fun e => readEnd? fields (trimStart text ++ e) := alike_readEnd? (trimStart text)
    exact hend.congr fun e he => by simp only [leave, trimStart_zero he]
  exact h.spelled

end ReleasePress.Timestamp
