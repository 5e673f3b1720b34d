import ReleasePress.Proofs.Calendar.RoundTrip
import ReleasePress.Proofs.Calendar.Strict

/-!
# Texts of an instant

RFC 3339 leaves some choice to those who write a date: the letters `T` and `Z` may be small, a blank may stand for `T`,
the offset zero has a letter and two signs, and a whole second may have a fraction of zeros.  On top of that comes the
clock that it is written on.  `Timestamp.Spells` says which texts a moment of whole seconds has, and
`Timestamp.read?_of_spells` that all of them are read as the moment; the texts of the writer are among them
(`Timestamp.spells_write`).

An instant whose year in universal time has room on both sides has a year of four digits on every clock
(`Moment.isWritable_of_year`).
-/

namespace ReleasePress

open ReleasePress.Text

/-! ## Years -/

/-- A day is not before the first day of its year, and before that of the next one. -/
theorem Day.le_year_iff {day : Day} {year : Int} : year ≤ day.year ↔ (newYear year).number ≤ day.number := by
  obtain ⟨hnumber, hpast⟩ := day.yearAndPast_spec
  have hsucc := beforeYear_succ day.year
  have hyear : day.yearAndPast.1 = day.year := rfl
  rw [hyear] at hnumber hpast
  have hfirst : (newYear year).number = beforeYear year - epochShift := rfl
  constructor
  · intro hle
    have hmono := beforeYear_mono hle
    omega
  · intro hle
    by_contra hlt
    have hmono := beforeYear_mono (Int.add_one_le_of_lt (Int.not_le.1 hlt))
    omega

/-- The moment of whole seconds on a clock with an offset. -/
def Moment.onClock (seconds offset : Int) : Moment :=
  ⟨seconds, 0, offset⟩

/-- The day of an instant in universal time. -/
def Moment.dayOf (seconds : Int) : Day :=
  (Moment.onClock seconds 0).localDay

/-- A clock less than a day away shows the day before, the same one or the next one. -/
theorem Moment.isWritable_of_year {seconds offset : Int} (hlow : 1 ≤ (dayOf seconds).year)
    (hhigh : (dayOf seconds).year ≤ 9998) (hoffset : offset.natAbs < 86400) (hminute : offset % 60 = 0) :
    (onClock seconds offset).IsWritable := by
  have huniversal : (dayOf seconds).number = seconds / 86400 := by simp [dayOf, onClock, localDay, localSeconds]
  have hlocal : (onClock seconds offset).localDay.number = (seconds + offset) / 86400 := rfl
  have hlow' := Day.le_year_iff.1 hlow
  have hhigh' := mt Day.le_year_iff.2 (Int.not_le.2 (Int.lt_add_one_of_le hhigh))
  have hyears : (Day.newYear 0).number = -719528 ∧ (Day.newYear 1).number = -719162 ∧
      (Day.newYear (9998 + 1)).number = 2932532 ∧ (Day.newYear 10000).number = 2932897 := by decide
  obtain ⟨hyear, hyear', hyear'', hyear'''⟩ := hyears
  exact {
    nanos_lt := show 0 < 2 * nanosPerSecond by decide
    leap := fun hle => absurd hle (show ¬ nanosPerSecond ≤ 0 by decide)
    offset_lt := hoffset
    wholeMinute := hminute
    year_nonneg := Day.le_year_iff.2 (by omega)
    year_le := by
      have hnext : ¬ 10000 ≤ (onClock seconds offset).localDay.year := by
        rw [Day.le_year_iff]
        omega
      omega }

namespace Timestamp

/-! ## Spellings -/

/-- The ways to write an offset: whole minutes behind a sign, or a letter for zero. -/
inductive SpellsOffset : Int → List Char → Prop
  | letter {c : Char} (h : c ∈ ['Z', 'z']) : SpellsOffset 0 [c]
  | east {minutes : Nat} (h : minutes < 1440) : SpellsOffset (minutes * 60) ('+' :: hoursAndMinutes ":" minutes)
  | west {minutes : Nat} (h : minutes < 1440) : SpellsOffset (-(minutes * 60)) ('-' :: hoursAndMinutes ":" minutes)

/-- The ways to write that a second is whole: nothing, or a point and zeros. -/
inductive SpellsWhole : List Char → Prop
  | nothing : SpellsWhole []
  | zeros (n : Nat) : SpellsWhole ('.' :: List.replicate (n + 1) '0')

/-- The texts of a moment of whole seconds in the format of RFC 3339. -/
inductive Spells (m : Moment) : String → Prop
  | intro {mark : Char} {fraction offset : List Char} (hmark : mark ∈ ['T', 't', ' '])
    (hfraction : SpellsWhole fraction) (hoffset : SpellsOffset m.offset offset) :
    Spells m (String.ofList (DateItem.dateText m ++ mark :: (DateItem.clockText m ++ (fraction ++ offset))))

variable {m : Moment} {offset : Int} {text : List Char}

theorem SpellsOffset.natAbs_lt (h : SpellsOffset offset text) : offset.natAbs < 86400 := by
  cases h with
  | letter => decide
  | east h => omega
  | west h => omega

theorem SpellsOffset.wholeMinute (h : SpellsOffset offset text) : offset % 60 = 0 := by
  cases h with
  | letter => rfl
  | east h => omega
  | west h => omega

theorem SpellsOffset.read (h : SpellsOffset offset text) :
    offset? (dropHead? [':']) true false text = some (offset, []) := by
  cases h with
  | letter h =>
      simp only [List.mem_cons, List.not_mem_nil, or_false] at h
      rcases h with rfl | rfl <;> rfl
  | east h => exact (offset?_signed skipsColon_dropHead true h).1
  | west h => exact (offset?_signed skipsColon_dropHead true h).2

/-- An offset does not go on a fraction, nor begin one. -/
theorem SpellsOffset.head (h : SpellsOffset offset text) : ∀ c ∈ text.head?, isDigit c = false ∧ c ≠ '.' := by
  cases h with
  | letter h =>
      simp only [List.mem_cons, List.not_mem_nil, or_false] at h
      rcases h with rfl | rfl <;> simp [isDigit]
  | east h => simp [isDigit]
  | west h => simp [isDigit]

theorem isNumeral_replicate_zero (n : Nat) : IsNumeral n 0 (List.replicate n '0') where
  length_eq := List.length_replicate
  isDigit c hc := by
    rw [List.eq_of_mem_replicate hc]
    decide
  value_eq := by rw [digitsValue_eq_ofDigitChars, Nat.ofDigitChars_replicate_zero, Nat.mul_zero]

theorem SpellsWhole.read {fraction rest : List Char} (h : SpellsWhole fraction)
    (hrest : ∀ c ∈ rest.head?, isDigit c = false ∧ c ≠ '.') : fraction? (fraction ++ rest) = some (0, rest) := by
  cases h with
  | nothing =>
      have hzero : 0 < 1000000000 := by decide
      exact fraction?_append hzero hrest
  | zeros n =>
      have hzeros := isNumeral_replicate_zero (n + 1)
      have hdigits : ∀ c ∈ rest.head?, isDigit c = false := fun c hc => (hrest c hc).1
      have hvalue := (isNumeral_replicate_zero (min 9 (n + 1))).value_eq
      show nanos? (List.replicate (n + 1) '0' ++ rest) = some (0, rest)
      simp [nanos?, hzeros.takeWhile_append hdigits, hzeros.dropWhile_append hdigits, hvalue]

theorem read?_of_spells (h : m.IsWritable) (hnanos : m.nanos = 0) {text : String} (hspells : Spells m text) :
    read? text = some m := by
  obtain ⟨hmark, hfraction, hoffset⟩ := hspells
  have hwhole : m.fraction = 0 := by rw [Moment.fraction, hnanos, Nat.zero_mod]
  have hread := readChars?_append h hmark (hwhole ▸ hfraction.read hoffset.head) hoffset.read
  rw [read?_eq, String.toList_ofList, ← hread, DateItem.dateText, DateItem.clockText]
  simp only [List.append_assoc, List.cons_append]

theorem spellsOffset_writeOffset (hlt : offset.natAbs < 86400) (hminute : offset % 60 = 0) :
    SpellsOffset offset (writeOffset ":" offset).toList := by
  have hminutes : offset.natAbs / 60 < 1440 := by omega
  rw [toList_writeOffset ":" hminute]
  by_cases hneg : offset < 0
  · have hwest := SpellsOffset.west hminutes
    have hoffset : -((offset.natAbs / 60 : Nat) * 60 : Int) = offset := by omega
    rw [if_pos hneg]
    rwa [hoffset] at hwest
  · have heast := SpellsOffset.east hminutes
    have hoffset : ((offset.natAbs / 60 : Nat) * 60 : Int) = offset := by omega
    rw [if_neg hneg]
    rwa [hoffset] at heast

/-- The writer gives a moment one of its texts, with either spelling of offset zero. -/
theorem spells_write (zulu : Bool) (h : m.IsWritable) (hnanos : m.nanos = 0) : Spells m (write zulu m) := by
  have hoffset : SpellsOffset m.offset (if zulu && m.offset == 0 then "Z" else writeOffset ":" m.offset).toList := by
    split
    · next hzero =>
        have hzero : m.offset = 0 := by
          simp only [Bool.and_eq_true, beq_iff_eq] at hzero
          exact hzero.2
        rw [hzero]
        exact SpellsOffset.letter (List.mem_cons_self : 'Z' ∈ ['Z', 'z'])
    · exact spellsOffset_writeOffset h.offset_lt h.wholeMinute
  have hyear : writeYear m.localDay.year = padded 4 m.localDay.year.toNat := by
    simp [writeYear, h.year_nonneg, h.year_le]
  have hwhole : (writeFraction m.fraction).toList = [] := by
    rw [Moment.fraction, hnanos, Nat.zero_mod]
    rfl
  have htext : write zulu m = String.ofList (DateItem.dateText m ++ 'T' :: (DateItem.clockText m ++
      ([] ++ (if zulu && m.offset == 0 then "Z" else writeOffset ":" m.offset).toList))) := by
    rw [← String.ofList_toList (s := write zulu m), toList_write, hyear, hwhole, DateItem.dateText, DateItem.clockText]
    simp only [List.append_assoc, List.cons_append, List.nil_append]
  rw [htext]
  exact .intro (by simp) .nothing hoffset

end Timestamp

end ReleasePress
