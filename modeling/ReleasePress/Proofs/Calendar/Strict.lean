import ReleasePress.Proofs.Calendar.Timestamp

/-!
# Timestamps to the letter

The strict reader undoes `Timestamp.write` as far as the local year has four digits (`read?_write`), and
refuses every other year (`read?_write_of_year`), which the writer gives a sign.

The reader chooses by the next character in two places, after the date and after the last number.
`read?_eq` names these choices; what is left is a row of numbers and marks.
-/

namespace ReleasePress.Timestamp

open ReleasePress.Text

/-! ## The parts of the strict reader -/

/-- The text after the mark between date and clock. -/
def afterMark? : List Char → Option (List Char)
  | c :: text => if c = 'T' || c = 't' || c = ' ' then some text else none
  | [] => none

/-- The nanoseconds of a fraction, which may be missing. -/
def fraction? : List Char → Option (Nat × List Char)
  | '.' :: text => nanos? text
  | text => some (0, text)

/-- The moment of a day and of what follows the mark between date and clock. -/
def readClock? (year month day : Nat) (text : List Char) : Option Moment := do
  let (hour, text) ← digits? 2 text
  let text ← dropHead? [':'] text
  let (minute, text) ← digits? 2 text
  let text ← dropHead? [':'] text
  let (second, text) ← digits? 2 text
  let (nanos, text) ← fraction? text
  let (offset, text) ← offset? (dropHead? [':']) true false text
  if text.isEmpty then ofFields? year month day hour minute second nanos offset else none

/-- The strict reader, with its two choices by the next character as parts of their own. -/
def readChars? (text : List Char) : Option Moment := do
  let (year, text) ← digits? 4 text
  let text ← dropHead? ['-'] text
  let (month, text) ← digits? 2 text
  let text ← dropHead? ['-'] text
  let (day, text) ← digits? 2 text
  let text ← afterMark? text
  readClock? year month day text

theorem read?_eq (text : String) : read? text = readChars? text.toList := by
  refine bind_congr fun ⟨year, text⟩ => bind_congr fun text => bind_congr fun ⟨month, text⟩ =>
    bind_congr fun text => bind_congr fun ⟨day, text⟩ => ?_
  have hclock (text : List Char) : (do
      let (hour, text) ← digits? 2 text
      let text ← dropHead? [':'] text
      let (minute, text) ← digits? 2 text
      let text ← dropHead? [':'] text
      let (second, text) ← digits? 2 text
      let (nanos, text) ← match text with
        | '.' :: text => nanos? text
        | text => some (0, text)
      let (offset, text) ← offset? (dropHead? [':']) true false text
      if text.isEmpty then ofFields? year month day hour minute second nanos offset else none) =
        readClock? year month day text := by
    refine bind_congr fun ⟨hour, text⟩ => bind_congr fun text => bind_congr fun ⟨minute, text⟩ =>
      bind_congr fun text => bind_congr fun ⟨second, text⟩ => ?_
    dsimp -zeta only
    rw [fraction?.eq_def]
    split <;> rfl
  cases text with
  | nil => rfl
  | cons c text =>
      dsimp -zeta only
      simp only [afterMark?]
      split
      · exact hclock text
      · rfl

/-! ## The parts of a timestamp -/

theorem fraction?_append {nanos : Nat} {rest : List Char} (hlt : nanos < 1000000000)
    (hrest : ∀ c ∈ rest.head?, isDigit c = false ∧ c ≠ '.') :
    fraction? ((writeFraction nanos).toList ++ rest) = some (nanos, rest) := by
  by_cases hzero : nanos = 0
  · subst hzero
    have hempty : (writeFraction 0).toList = [] := rfl
    rw [hempty, List.nil_append, fraction?.eq_def]
    split
    · next text => exact absurd rfl (hrest '.' (by simp)).2
    · rfl
  · obtain ⟨width, n, digits, htext, hnum, hpos, hwidth, hvalue⟩ :=
      toList_writeFraction hzero hlt
    rw [htext]
    show nanos? (digits ++ rest) = some (nanos, rest)
    rw [nanos?_append hpos hwidth hnum fun c hc => (hrest c hc).1, hvalue]

/-- The clock fields of a moment name it. -/
theorem ofFields?_clock {m : Moment} (h : m.IsTold) :
    ofFields? m.localDay.year m.localDay.month m.localDay.dayOfMonth m.hour m.minute m.second
      m.fraction m.offset = some m := by
  have hday := Day.ofMonth?_year_month_dayOfMonth _ h.inRange_localDay
  have hclock := m.secondOfDay_eq
  have hguard : (m.hour < 24 && m.minute < 60 && m.second ≤ 60 && m.offset.natAbs < 86400) = true := by
    simp only [Bool.and_eq_true, decide_eq_true_eq]
    exact ⟨⟨⟨m.hour_lt, m.minute_lt⟩, h.second_le⟩, h.offset_lt⟩
  -- A leap second shows as 60; the reader goes back to 59 and adds a full second to the fraction.
  have hleap : (if m.second = 60 then (59, m.fraction + Moment.nanosPerSecond)
      else (m.second, m.fraction)) = (m.secondOfDay % 60, m.nanos) := by
    have hnanos := h.nanos_lt
    rcases h.second_eq with ⟨hsecond, hle, h59⟩ | ⟨hsecond, hlt, hmod⟩
    · have hfraction : m.fraction + Moment.nanosPerSecond = m.nanos := by
        simp only [Moment.fraction, Moment.nanosPerSecond] at hle hnanos ⊢
        omega
      rw [if_pos hsecond, h59, hfraction]
    · have hfraction : m.fraction = m.nanos := Nat.mod_eq_of_lt hlt
      rw [if_neg (by omega), hmod, hfraction]
  rw [ofFields?, hday]
  simp only [Option.bind_eq_bind, Option.bind_some, hguard, if_true, hleap, ← hclock]
  exact Moment.ofLocal?_self h.inRange

/-- The clock fields of a moment, a fraction and an offset, however these two are spelled. -/
theorem readClock?_append {m : Moment} (h : m.IsTold) (hyear : 0 ≤ m.localDay.year) {text rest : List Char}
    (hfraction : fraction? text = some (m.fraction, rest))
    (hoffset : offset? (dropHead? [':']) true false rest = some (m.offset, [])) :
    readClock? m.localDay.year.toNat m.localDay.month m.localDay.dayOfMonth
      ((padded 2 m.hour).toList ++ ':' :: ((padded 2 m.minute).toList ++ ':' ::
        ((padded 2 m.second).toList ++ text))) = some m := by
  have hpair {n : Nat} (hn : n < 100) : IsNumeral 2 n (padded 2 n).toList :=
    isNumeral_padded (by decide) hn
  have hhour := m.hour_lt
  have hminute := m.minute_lt
  have hsecond := h.second_le
  have hyear' : ((m.localDay.year.toNat : Nat) : Int) = m.localDay.year := Int.toNat_of_nonneg hyear
  have hskip (rest : List Char) : dropHead? [':'] (':' :: rest) = some rest := by simp [dropHead?]
  simp only [readClock?, Option.bind_eq_bind, Option.bind_some, hskip,
    digits?_append (hpair (show m.hour < 100 by omega)),
    digits?_append (hpair (show m.minute < 100 by omega)),
    digits?_append (hpair (show m.second < 100 by omega)),
    hfraction, hoffset, List.isEmpty_nil, if_true, hyear']
  exact ofFields?_clock h

/-- The whole text of a moment, with any mark between date and clock. -/
theorem readChars?_append {m : Moment} (h : m.IsWritable) {mark : Char} (hmark : mark ∈ ['T', 't', ' '])
    {text rest : List Char} (hfraction : fraction? text = some (m.fraction, rest))
    (hoffset : offset? (dropHead? [':']) true false rest = some (m.offset, [])) :
    readChars? ((padded 4 m.localDay.year.toNat).toList ++ '-' :: ((padded 2 m.localDay.month).toList ++
      '-' :: ((padded 2 m.localDay.dayOfMonth).toList ++ mark :: ((padded 2 m.hour).toList ++ ':' ::
        ((padded 2 m.minute).toList ++ ':' :: ((padded 2 m.second).toList ++ text)))))) = some m := by
  have hyear_le := h.year_le
  obtain ⟨-, hmonth_le⟩ := Day.month_bounds m.localDay
  obtain ⟨-, hday_le⟩ := Day.dayOfMonth_bounds m.localDay
  have hyear : IsNumeral 4 m.localDay.year.toNat (padded 4 m.localDay.year.toNat).toList :=
    isNumeral_padded (by decide) (by omega)
  have hmonth : IsNumeral 2 m.localDay.month (padded 2 m.localDay.month).toList :=
    isNumeral_padded (by decide) (by omega)
  have hday : IsNumeral 2 m.localDay.dayOfMonth (padded 2 m.localDay.dayOfMonth).toList :=
    isNumeral_padded (by decide) (by omega)
  have hskip (rest : List Char) : dropHead? ['-'] ('-' :: rest) = some rest := by simp [dropHead?]
  have hafter (rest : List Char) : afterMark? (mark :: rest) = some rest := by
    simp only [List.mem_cons, List.not_mem_nil, or_false] at hmark
    rcases hmark with rfl | rfl | rfl <;> rfl
  simp only [readChars?, Option.bind_eq_bind, Option.bind_some, digits?_append hyear, digits?_append hmonth,
    digits?_append hday, hskip, hafter]
  exact readClock?_append h.isTold h.year_nonneg hfraction hoffset

/-- **Timestamps are read back to the letter.**  The strict reader undoes the writer too, with either
spelling of offset zero. -/
theorem read?_write (zulu : Bool) {m : Moment} (h : m.IsWritable) : read? (write zulu m) = some m := by
  have hfraction : m.fraction < 1000000000 := Nat.mod_lt _ (by decide)
  obtain ⟨c, hc, text, hspelling, hoffset⟩ :=
    offset?_spelling skipsColon_dropHead zulu h.offset_lt h.wholeMinute
  have hrest : ∀ d ∈ (c :: text).head?, isDigit d = false ∧ d ≠ '.' := by
    simp only [List.mem_cons, List.not_mem_nil, or_false] at hc
    rcases hc with rfl | rfl | rfl <;> simp [isDigit]
  have hyear : writeYear m.localDay.year = padded 4 m.localDay.year.toNat := by
    simp [writeYear, h.year_nonneg, h.year_le]
  rw [read?_eq, toList_write, hyear, hspelling]
  exact readChars?_append h (by simp) (fraction?_append hfraction hrest) hoffset

/-- A year with a sign is none of four digits, so the strict reader refuses it. -/
theorem read?_write_of_year (zulu : Bool) {m : Moment}
    (hyear : ¬ (0 ≤ m.localDay.year ∧ m.localDay.year ≤ 9999)) : read? (write zulu m) = none := by
  obtain ⟨sign, hsign, text, htext⟩ : ∃ sign ∈ ['-', '+'], ∃ text, (write zulu m).toList = sign :: text := by
    have hguard : (decide (0 ≤ m.localDay.year) && decide (m.localDay.year ≤ 9999)) = false := by
      simpa using hyear
    by_cases hneg : m.localDay.year < 0
    · refine ⟨'-', by simp, (write zulu m).toList.tail, ?_⟩
      simp [write, writeLocal, writeYear, hguard, hneg]
    · refine ⟨'+', by simp, (write zulu m).toList.tail, ?_⟩
      simp [write, writeLocal, writeYear, hguard, hneg]
  have hdigits : digits? 4 (sign :: text) = none := by
    have hmark : isDigit sign = false := by
      simp only [List.mem_cons, List.not_mem_nil, or_false] at hsign
      rcases hsign with rfl | rfl <;> decide
    simp [digits?, hmark]
  rw [read?_eq, htext, readChars?, hdigits]
  rfl

end ReleasePress.Timestamp
