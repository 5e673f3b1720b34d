import ReleasePress.Proofs.Calendar.Fields

/-!
# Readings in step

What a reader of dates takes from a text does not depend on the fields that are known, which only say whether it
may be set.  So two readings of one text stay in step when one of them knows less (`DateItem.readItems?_inStep`):
whatever relation of the fields every setter keeps is kept by the whole reading.  Two such relations matter: that
the fields are the same and have a property that every setter keeps, and that the first are within the second.
-/

namespace ReleasePress

open ReleasePress.Text

/-! ## Steps -/

/-- If the second reading succeeds, the first one does, with the same rest of the text and related fields. -/
def InStep (R : DateFields → DateFields → Prop) (first second : Option (DateFields × List Char)) : Prop :=
  ∀ fields rest, second = some (fields, rest) → ∃ fewer, first = some (fewer, rest) ∧ R fewer fields

namespace InStep

variable {R : DateFields → DateFields → Prop} {α : Type} {fewer fields : DateFields} {text : List Char}

theorem none (first : Option (DateFields × List Char)) : InStep R first none := by
  rintro fields rest ⟨⟩

theorem some (h : R fewer fields) : InStep R (.some (fewer, text)) (.some (fields, text)) := by
  rintro _ _ ⟨⟩
  exact ⟨fewer, rfl, h⟩

/-- One reading after the other. -/
theorem bind {first second : Option (DateFields × List Char)}
    {next next' : DateFields × List Char → Option (DateFields × List Char)} (h : InStep R first second)
    (hnext : ∀ fewer fields text, R fewer fields → InStep R (next (fewer, text)) (next' (fields, text))) :
    InStep R (first.bind next) (second.bind next') := by
  intro fields rest hread
  obtain ⟨⟨known, between⟩, hsecond, hread⟩ := Option.bind_eq_some_iff.1 hread
  obtain ⟨less, rfl, hless⟩ := h known between hsecond
  exact hnext less known between hless fields rest hread

/-- What is taken from the text is the same in both readings. -/
theorem taken (found : Option α) {next next' : α → Option (DateFields × List Char)}
    (hnext : ∀ a, InStep R (next a) (next' a)) : InStep R (found.bind next) (found.bind next') := by
  cases found with
  | none => exact .none _
  | some a => exact hnext a

/-- A setter that keeps the relation, at the end of a reading. -/
theorem set {first second : Option DateFields}
    (h : ∀ fields, second = .some fields → ∃ fewer, first = .some fewer ∧ R fewer fields) :
    InStep R (first.bind fun fields => .some (fields, text)) (second.bind fun fields => .some (fields, text)) := by
  intro fields' rest hread
  obtain ⟨_, hset, hread⟩ := Option.bind_eq_some_iff.1 hread
  cases hread
  obtain ⟨less, hset', hless⟩ := h fields' hset
  exact ⟨less, by rw [hset', Option.bind_some], hless⟩

end InStep

/-- A relation of fields that is kept by all that a timestamp sets on both sides: numbers other than counts of
seconds, and offsets of whole minutes. -/
structure DateFields.KeptByTimestamps (R : DateFields → DateFields → Prop) : Prop where
  set : ∀ {fewer fields : DateFields} {n : Int} {number : DateNumber}, number ≠ .timestamp → R fewer fields →
    ∀ fields', fields.set n number = some fields' → ∃ fewer', fewer.set n number = some fewer' ∧ R fewer' fields'
  setOffset : ∀ {fewer fields : DateFields} {n : Int}, n % 60 = 0 → R fewer fields →
    ∀ fields', fields.setOffset n = some fields' → ∃ fewer', fewer.setOffset n = some fewer' ∧ R fewer' fields'

/-- A relation of fields that is kept by all that the items of a pattern set on both sides. -/
structure DateFields.KeptByPatterns (R : DateFields → DateFields → Prop) : Prop extends KeptByTimestamps R where
  setTimestamp : ∀ {fewer fields : DateFields} {n : Int}, R fewer fields →
    ∀ fields', fields.set n .timestamp = some fields' →
      ∃ fewer', fewer.set n .timestamp = some fewer' ∧ R fewer' fields'
  setHalf : ∀ {fewer fields : DateFields} {n : Int}, 0 ≤ n → n ≤ 1 → R fewer fields →
    ∀ fields', fields.setHalf n = some fields' → ∃ fewer', fewer.setHalf n = some fewer' ∧ R fewer' fields'
  setWeekday : ∀ {fewer fields : DateFields} {n : Int}, 0 ≤ n → n ≤ 6 → R fewer fields →
    ∀ fields', fields.setWeekday n = some fields' → ∃ fewer', fewer.setWeekday n = some fewer' ∧ R fewer' fields'

variable {R : DateFields → DateFields → Prop} {fewer fields : DateFields}

/-! ## Timestamps -/

namespace Timestamp

theorem readNumber_inStep (hR : DateFields.KeptByTimestamps R) {number : DateNumber} (hnumber : number ≠ .timestamp)
    (h : R fewer fields) (text : List Char) :
    InStep R (readNumber fewer text number) (readNumber fields text number) :=
  .taken _ fun ⟨_, _⟩ => .set (hR.set hnumber h)

theorem readNumbers_inStep (hR : DateFields.KeptByTimestamps R) {mark : Char} {numbers : List DateNumber}
    (hnumbers : .timestamp ∉ numbers) (h : R fewer fields) (text : List Char) :
    InStep R (readNumbers mark fewer text numbers) (readNumbers mark fields text numbers) := by
  induction numbers generalizing fewer fields text with
  | nil => exact .some h
  | cons number numbers ih =>
      have hnumber : number ≠ .timestamp := fun heq => hnumbers (by simp [heq])
      cases numbers with
      | nil => exact readNumber_inStep hR hnumber h text
      | cons next numbers =>
          refine .bind (readNumber_inStep hR hnumber h text) fun fewer fields text h => .taken _ fun text => ?_
          exact ih (fun hmem => hnumbers (List.mem_cons_of_mem _ hmem)) h text

theorem readFraction_inStep (hR : DateFields.KeptByTimestamps R) (h : R fewer fields) (text : List Char) :
    InStep R (readFraction fewer text) (readFraction fields text) := by
  rw [readFraction.eq_def fewer, readFraction.eq_def fields]
  split
  · exact .taken _ fun ⟨_, _⟩ => .set (hR.set (by decide) h)
  · exact .some h

/-- An offset is told in hours and minutes. -/
theorem offset?_wholeMinute {separator : List Char → Option (List Char)} {zulu bareHours : Bool}
    {text rest : List Char} {offset : Int}
    (hread : offset? separator zulu bareHours text = some (offset, rest)) : offset % 60 = 0 := by
  rw [offset?.eq_def] at hread
  split at hread
  · obtain ⟨rfl, -⟩ : 0 = offset ∧ _ := by simpa using hread
    rfl
  · obtain ⟨rfl, -⟩ : 0 = offset ∧ _ := by simpa using hread
    rfl
  · simp only [Option.bind_eq_bind, Option.bind_eq_some_iff] at hread
    obtain ⟨⟨negative, _⟩, -, ⟨hours, _⟩, -, _, -, hread⟩ := hread
    -- The minutes are missing or read; either way they count whole.
    have hsize : ∃ minutes : Nat, (if negative then -((hours : Int) * 3600 + minutes * 60)
        else hours * 3600 + minutes * 60) = offset := by
      split at hread
      · simp only [Option.bind_some, Option.ite_none_right_eq_some, Option.some.injEq,
          Prod.mk.injEq] at hread
        exact ⟨0, hread.2.1⟩
      · simp only [Option.bind_eq_some_iff, Option.ite_none_right_eq_some, Option.some.injEq,
          Prod.mk.injEq] at hread
        obtain ⟨⟨minutes, _⟩, -, -, hsize, -⟩ := hread
        exact ⟨minutes, hsize⟩
    obtain ⟨minutes, rfl⟩ := hsize
    split <;> omega

/-- An offset of a text is set once it is read. -/
theorem offset_inStep (hR : DateFields.KeptByTimestamps R) (h : R fewer fields)
    {separator : List Char → Option (List Char)} {zulu bareHours : Bool} (text : List Char) :
    InStep R
      ((offset? separator zulu bareHours text).bind fun (n, text) =>
        (fewer.setOffset n).bind fun fields => some (fields, text))
      ((offset? separator zulu bareHours text).bind fun (n, text) =>
        (fields.setOffset n).bind fun fields => some (fields, text)) := by
  cases hread : offset? separator zulu bareHours text with
  | none => exact .none _
  | some found => exact .set (hR.setOffset (offset?_wholeMinute hread) h)

theorem readFields_inStep (hR : DateFields.KeptByTimestamps R) (h : R fewer fields) (text : List Char) :
    InStep R (readFields fewer text) (readFields fields text) := by
  refine .bind (readNumbers_inStep hR (by decide) h text) fun fewer fields text h => ?_
  cases text with
  | nil => exact .none _
  | cons c text =>
      simp only
      split
      · refine .bind (readNumbers_inStep hR (by decide) h text) fun fewer fields text h => ?_
        refine .bind (readFraction_inStep hR h text) fun fewer fields text h => ?_
        simp only
        split
        · exact .set (hR.setOffset rfl h)
        · exact offset_inStep hR h _
      · exact .none _

end Timestamp

/-! ## Patterns -/

namespace DateName

variable {names : List (String × String)} {text rest : List Char}

theorem readShort?_lt {index first : Nat} {tail : String}
    (hread : readShort? text first names = some (index, tail, rest)) : index < first + names.length := by
  induction names generalizing first with
  | nil => simp [readShort?] at hread
  | cons name names ih =>
      rw [readShort?.eq_def] at hread
      simp only at hread
      split at hread
      · cases hread
        simp
      · have hlt := ih hread
        rw [List.length_cons]
        omega

/-- The name that was read is one of the names. -/
theorem read?_lt {long : Bool} {index : Nat} (hread : read? long names text = some (index, rest)) :
    index < names.length := by
  simp only [read?, Option.map_eq_some_iff, Prod.mk.injEq] at hread
  obtain ⟨⟨found, tail, after⟩, hshort, rfl, -⟩ := hread
  simpa using readShort?_lt hshort

end DateName

namespace DateField

theorem month_inStep (hR : DateFields.KeptByPatterns R) (h : R fewer fields) (text : List Char) (long : Bool) :
    InStep R (read?.month fewer text long) (read?.month fields text long) :=
  .taken _ fun ⟨_, _⟩ => .set (hR.set (by decide) h)

theorem weekday_inStep (hR : DateFields.KeptByPatterns R) (h : R fewer fields) (text : List Char) (long : Bool) :
    InStep R (read?.weekday fewer text long) (read?.weekday fields text long) := by
  simp only [read?.weekday, Option.bind_eq_bind]
  cases hread : DateName.read? long DateName.weekdays text with
  | none => exact .none _
  | some found =>
      have hlt : found.1 < 7 := DateName.read?_lt hread
      exact .set (hR.setWeekday (by omega) (by omega) h)

theorem half_inStep (hR : DateFields.KeptByPatterns R) (h : R fewer fields) (text : List Char) :
    InStep R (read?.half fewer text) (read?.half fields text) := by
  simp only [read?.half, Option.map_eq_bind]
  split
  · exact .set (hR.setHalf (by decide) (by decide) h)
  · split
    · exact .set (hR.setHalf (by decide) (by decide) h)
    · exact .none _

theorem read?_inStep (hR : DateFields.KeptByPatterns R) (h : R fewer fields) (text : List Char) (field : DateField) :
    InStep R (field.read? fewer text) (field.read? fields text) := by
  cases field with
  | shortMonth | longMonth => exact month_inStep hR h text _
  | shortWeekday | longWeekday => exact weekday_inStep hR h text _
  | lowerHalf | upperHalf => exact half_inStep hR h text
  | fraction | fixedFraction => exact Timestamp.readFraction_inStep hR.toKeptByTimestamps h text
  | bareFraction => exact .taken _ fun ⟨_, _⟩ => .set (hR.set (by decide) h)
  | zoneName => exact .some h
  | offset | offsetWithColons | lenientOffset => exact Timestamp.offset_inStep hR.toKeptByTimestamps h _
  | timestamp => exact Timestamp.readFields_inStep hR.toKeptByTimestamps h text

end DateField

namespace DateItem

theorem read1?_inStep (hR : DateFields.KeptByPatterns R) (h : R fewer fields) (text : List Char) (item : DateItem) :
    InStep R (read1? fewer text item) (read1? fields text item) := by
  cases item with
  | literal head =>
      simp only [read1?, Option.map_eq_bind]
      exact .taken _ fun _ => .some h
  | space blanks => exact .some h
  | number number padding =>
      refine .taken _ fun ⟨n, text⟩ => .set ?_
      by_cases hnumber : number = .timestamp
      · rw [hnumber]
        exact hR.setTimestamp h
      · exact hR.set hnumber h
  | field field => exact field.read?_inStep hR h text

theorem readItems?_inStep (hR : DateFields.KeptByPatterns R) (h : R fewer fields) (text : List Char)
    (items : List DateItem) : InStep R (readItems? fewer text items) (readItems? fields text items) := by
  induction items generalizing fewer fields text with
  | nil => exact .some h
  | cons item items ih =>
      have hitem := read1?_inStep hR h text item
      simp only [readItems?]
      cases hread : read1? fields text item with
      | none => exact .none _
      | some found =>
          obtain ⟨less, hless, hrelated⟩ := hitem found.1 found.2 hread
          rw [hless]
          exact ih hrelated found.2

end DateItem

/-! ## What a reading leaves -/

namespace DateFields

theorem keptByPatterns_within : KeptByPatterns Within where
  set _ h _ hset := h.set hset
  setOffset _ h _ hset := h.setOffset hset
  setTimestamp h _ hset := h.set hset
  setHalf _ _ h _ hset := h.setHalf hset
  setWeekday _ _ h _ hset := h.setWeekday hset

/-- A property of the fields is kept if every setter keeps it. -/
theorem keptByPatterns_of_property {P : DateFields → Prop}
    (hset : ∀ {fields fields' : DateFields} {n : Int} {number : DateNumber}, P fields →
      fields.set n number = some fields' → P fields')
    (hsetOffset : ∀ {fields fields' : DateFields} {n : Int}, P fields → fields.setOffset n = some fields' → P fields')
    (hsetHalf : ∀ {fields fields' : DateFields} {n : Int}, 0 ≤ n → n ≤ 1 → P fields →
      fields.setHalf n = some fields' → P fields')
    (hsetWeekday : ∀ {fields fields' : DateFields} {n : Int}, 0 ≤ n → n ≤ 6 → P fields →
      fields.setWeekday n = some fields' → P fields') :
    KeptByPatterns fun fewer fields => fewer = fields ∧ P fields where
  set := by
    rintro _ fields n number - ⟨rfl, h⟩ fields' hfields'
    exact ⟨fields', hfields', rfl, hset h hfields'⟩
  setOffset := by
    rintro _ fields n - ⟨rfl, h⟩ fields' hfields'
    exact ⟨fields', hfields', rfl, hsetOffset h hfields'⟩
  setTimestamp := by
    rintro _ fields n ⟨rfl, h⟩ fields' hfields'
    exact ⟨fields', hfields', rfl, hset h hfields'⟩
  setHalf := by
    rintro _ fields n hlow hhigh ⟨rfl, h⟩ fields' hfields'
    exact ⟨fields', hfields', rfl, hsetHalf hlow hhigh h hfields'⟩
  setWeekday := by
    rintro _ fields n hlow hhigh ⟨rfl, h⟩ fields' hfields'
    exact ⟨fields', hfields', rfl, hsetWeekday hlow hhigh h hfields'⟩

end DateFields

namespace DateItem

variable {fields' : DateFields} {text rest : List Char} {items : List DateItem}

theorem inBounds_of_readItems? (h : fields.InBounds) (hread : readItems? fields text items = some (fields', rest)) :
    fields'.InBounds := by
  have hkept := DateFields.keptByPatterns_of_property DateFields.InBounds.set DateFields.InBounds.setOffset
    (fun hlow hhigh h => h.setHalf hlow hhigh) fun hlow hhigh h => h.setWeekday hlow hhigh
  obtain ⟨_, -, -, hbounds⟩ := readItems?_inStep hkept ⟨rfl, h⟩ text items fields' rest hread
  exact hbounds

/-- Reading on drops nothing. -/
theorem within_of_readItems? (hread : readItems? fields text items = some (fields', rest)) :
    fields.Within fields' := by
  have hkept := DateFields.keptByPatterns_of_property (P := fields.Within)
    (fun h hset => h.trans (DateFields.within_of_set hset))
    (fun h hset => h.trans (DateFields.within_of_setOffset hset))
    (fun _ _ h hset => h.trans (DateFields.within_of_setHalf hset))
    fun _ _ h hset => h.trans (DateFields.within_of_setWeekday hset)
  obtain ⟨_, -, -, hwithin⟩ :=
    readItems?_inStep hkept ⟨rfl, DateFields.Within.refl fields⟩ text items fields' rest hread
  exact hwithin

theorem readItems?_append (fields : DateFields) (text : List Char) (items others : List DateItem) :
    readItems? fields text (items ++ others) =
      (readItems? fields text items).bind fun (fields, rest) => readItems? fields rest others := by
  induction items generalizing fields text with
  | nil => rfl
  | cons item items ih =>
      simp only [List.cons_append, readItems?]
      cases read1? fields text item with
      | none => rfl
      | some found => exact ih found.1 found.2

theorem readAll?_eq_some {text : String} (h : readAll? items text = some fields) :
    readItems? {} text.toList items = some (fields, []) := by
  rw [readAll?] at h
  split at h
  · next hread =>
      cases h
      exact hread
  · cases h

theorem inBounds_of_readAll? {text : String} (h : readAll? items text = some fields) : fields.InBounds :=
  inBounds_of_readItems? DateFields.inBounds_empty (readAll?_eq_some h)

end DateItem

/-- Fields among which all stands that the items read from a text: whatever an item reads at its place, as if it
stood alone, and the value of each item that is a number. -/
structure DateFields.Records (fields : DateFields) (items : List DateItem) (text : String) : Prop where
  item : ∀ {before after : List DateItem} {item : DateItem} {known alone : DateFields} {place rest : List Char},
    items = before ++ item :: after → DateItem.readItems? {} text.toList before = some (known, place) →
      DateItem.read1? {} place item = some (alone, rest) → alone.Within fields
  number : ∀ {before after : List DateItem} {number : DateNumber} {padding : DatePadding} {known : DateFields}
    {place rest : List Char} {n : Int}, items = before ++ .number number padding :: after →
      DateItem.readItems? {} text.toList before = some (known, place) →
      number.read? place = some (n, rest) → fields.Has n number

/-- All that the items read from a text stands among the fields in the end. -/
theorem DateItem.records_of_readAll? {items : List DateItem} {text : String} (h : readAll? items text = some fields) :
    fields.Records items text := by
  have hplace {before after : List DateItem} {item : DateItem} {known : DateFields} {place : List Char}
      (hitems : items = before ++ item :: after)
      (hbefore : readItems? {} text.toList before = some (known, place)) :
      ∃ more rest, read1? known place item = some (more, rest) ∧ more.Within fields := by
    have hread := readAll?_eq_some h
    simp only [hitems, readItems?_append, hbefore, Option.bind_some, readItems?] at hread
    split at hread
    · next more rest hitem => exact ⟨more, rest, hitem, within_of_readItems? hread⟩
    · cases hread
  constructor
  · intro before after item known alone place rest hitems hbefore halone
    obtain ⟨more, rest', hitem, hmore⟩ := hplace hitems hbefore
    have hstep := read1?_inStep DateFields.keptByPatterns_within (DateFields.Within.empty known) place item
    obtain ⟨less, hless, hwithin⟩ := hstep more rest' hitem
    rw [halone] at hless
    cases hless
    exact hwithin.trans hmore
  · intro before after number padding known place rest n hitems hbefore hnumber
    obtain ⟨more, rest', hitem, hmore⟩ := hplace hitems hbefore
    simp only [read1?, hnumber, Option.bind_eq_bind, Option.bind_some, Option.bind_eq_some_iff, Option.some.injEq,
      Prod.mk.injEq] at hitem
    obtain ⟨_, hset, rfl, -⟩ := hitem
    exact (DateFields.has_of_set hset).of_within hmore

end ReleasePress
