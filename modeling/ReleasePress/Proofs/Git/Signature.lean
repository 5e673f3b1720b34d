import ReleasePress.Git.Raw
import ReleasePress.Proofs.Text.Digits
import ReleasePress.Proofs.Text.Split

/-!
# Signatures of header lines

A header line names a person, an email, the seconds since 1970 and an offset in hours and minutes.  What
is read from it has whole seconds and whole minutes of offset (`Signature.isHeaderTime_of_ofRaw`), and
every signature with such a time is read back from the line that tells it
(`Signature.ofRaw_headerText`), whatever its name and email hold besides the marks around the email.
-/

namespace ReleasePress.Git

open ReleasePress.Text

/-- A time that a header line tells in full: whole seconds of a date in range, and an offset of whole
minutes. -/
structure IsHeaderTime (m : Moment) : Prop where
  nanos_eq : m.nanos = 0
  inRange : m.inRange = true
  offset_lt : m.offset.natAbs < 86400
  wholeMinute : m.offset % 60 = 0

/-! ## What is read -/

theorem SignatureTail.offsetSize_wholeMinute (tail : SignatureTail) : tail.offsetSize % 60 = 0 := by
  simp only [offsetSize]
  omega

/-- A header line gives whole seconds in range and an offset of whole minutes. -/
theorem Signature.isHeaderTime_of_ofRaw {raw : String} {s : Signature} (h : ofRaw raw = .ok s) :
    IsHeaderTime s.time := by
  unfold ofRaw at h
  split at h
  · cases h
  · next name tail hsplit =>
      split at h
      · cases h
      · next seconds hseconds =>
          have hminutes := tail.offsetSize_wholeMinute
          dsimp only at h
          split at h
          · cases h
          · next hoffset =>
              split at h
              · cases h
              · next m hm =>
                  obtain ⟨hrange, rfl⟩ : _ ∧ Moment.mk seconds 0 0 = m := by
                    simpa [Moment.ofSeconds?, Moment.checked] using hm
                  cases h
                  refine ⟨rfl, hrange, ?_, ?_⟩
                  · show (if tail.west then -(tail.offsetSize : Int) else tail.offsetSize).natAbs < 86400
                    split <;> omega
                  · show (if tail.west then -(tail.offsetSize : Int) else tail.offsetSize) % 60 = 0
                    split <;> omega

/-! ## What is written -/

/-- Seconds in decimal digits, with a sign if they lie before 1970. -/
def secondsText (n : Int) : List Char :=
  (if n < 0 then ['-'] else []) ++ Nat.toDigits 10 n.natAbs

/-- Seconds and offset, as they follow the email. -/
def timeText (m : Moment) : List Char :=
  ' ' :: (secondsText m.seconds ++ ' ' :: (Timestamp.writeOffset "" m.offset).toList)

/-- A signature as a header line tells it: `Jane Doe <jane@example.org> 1700000000 +0200`. -/
def Signature.headerText (s : Signature) : List Char :=
  s.name.toList ++ ' ' :: '<' :: (s.email.toList ++ '>' :: timeText s.time)

/-- A signature that a header line tells in full.  The marks around the email are what matters: the name
must not hold the first one, nor the email the second one. -/
structure Signature.IsPlain (s : Signature) : Prop where
  name_head : ∀ c ∈ s.name.toList.head?, isBlank c = false
  name_last : ∀ c ∈ s.name.toList.getLast?, isBlank c = false
  name_open : '<' ∉ s.name.toList
  name_line : '\n' ∉ s.name.toList
  email_close : '>' ∉ s.email.toList
  time : IsHeaderTime s.time

/-! ## Digits and blanks -/

theorem isDecimalDigit_of_isDigit {c : Char} (h : isDigit c = true) : isDecimalDigit c = true := by
  have hc := toNat_of_isDigit h
  unfold isDecimalDigit
  rw [List.any_eq_true]
  refine ⟨0x30, by decide, ?_⟩
  simp only [Bool.and_eq_true, decide_eq_true_eq]
  omega

/-- No script counts a blank among its digits. -/
theorem isBlank_eq_false_of_isDecimalDigit {c : Char} (h : isDecimalDigit c = true) : isBlank c = false := by
  have hapart : ∀ first ∈ digitZeros, 0x20 < first ∧ (first + 10 ≤ 0x85 ∨ 0xA0 < first) ∧
      (first + 10 ≤ 0x1680 ∨ 0x1680 < first) ∧ (first + 10 ≤ 0x2000 ∨ 0x205F < first) ∧
      (first + 10 ≤ 0x3000 ∨ 0x3000 < first) := by
    decide
  obtain ⟨first, hfirst, hc⟩ := List.any_eq_true.1 h
  have hrange := hapart first hfirst
  simp only [Bool.and_eq_true, decide_eq_true_eq] at hc
  simp only [isBlank, Bool.or_eq_false_iff, Bool.and_eq_false_iff, beq_eq_false_iff_ne, decide_eq_false_iff_not]
  omega

theorem isDecimalDigit_eq_false_of_isBlank {c : Char} (h : isBlank c = true) : isDecimalDigit c = false := by
  rw [← Bool.not_eq_true]
  intro hdigit
  rw [isBlank_eq_false_of_isDecimalDigit hdigit] at h
  cases h

theorem isDigit_of_mem_toDigits {n : Nat} {c : Char} (hc : c ∈ Nat.toDigits 10 n) : isDigit c = true :=
  isDigit_of_char_isDigit (Nat.isDigit_of_mem_toDigits (by decide) (by decide) hc)

theorem digitsValue_toDigits (n : Nat) : digitsValue (Nat.toDigits 10 n) = n := by
  rw [digitsValue_eq_ofDigitChars, Nat.ofDigitChars_ten_toDigits]

/-! ## The time -/

/-- The tail that a header line with this email and this time has. -/
def tailOf (email : List Char) (m : Moment) : SignatureTail where
  email := email
  negative := m.seconds < 0
  seconds := Nat.toDigits 10 m.seconds.natAbs
  west := m.offset < 0
  hours := (padded 2 (m.offset.natAbs / 3600)).toList
  minutes := (padded 2 (m.offset.natAbs / 60 % 60)).toList

section Time

variable {m : Moment} (h : IsHeaderTime m)
include h

theorem IsHeaderTime.isSigned64_seconds : Json.isSigned64 m.seconds = true := by
  have hlow : (Day.newYear (-262143)).number = -96465292 := by decide
  have hhigh : (Day.newYear 262143).number = 95026237 := by decide
  have hrange := h.inRange
  simp only [Moment.inRange, Day.inRange, hlow, hhigh, Bool.and_eq_true, decide_eq_true_eq] at hrange
  simp only [Json.isSigned64, Bool.and_eq_true, decide_eq_true_eq]
  omega

theorem IsHeaderTime.seconds?_tailOf (email : List Char) : (tailOf email m).seconds? = some m.seconds := by
  have hdigits : (Nat.toDigits 10 m.seconds.natAbs).all isDigit = true :=
    List.all_eq_true.2 fun c hc => isDigit_of_mem_toDigits hc
  have hvalue : (if m.seconds < 0 then -(m.seconds.natAbs : Int) else m.seconds.natAbs) = m.seconds := by
    split <;> omega
  have hsigned := h.isSigned64_seconds
  simp only [SignatureTail.seconds?, tailOf, digitsValue_toDigits, decide_eq_true_eq, hvalue, hdigits,
    hsigned, Bool.and_self, if_true]

theorem IsHeaderTime.offsetSize_tailOf (email : List Char) :
    (tailOf email m).offsetSize = m.offset.natAbs := by
  have hlt := h.offset_lt
  have hminute := h.wholeMinute
  have hhours : IsNumeral 2 (m.offset.natAbs / 3600) (padded 2 (m.offset.natAbs / 3600)).toList :=
    isNumeral_padded (by decide) (by omega)
  have hminutes : IsNumeral 2 (m.offset.natAbs / 60 % 60) (padded 2 (m.offset.natAbs / 60 % 60)).toList :=
    isNumeral_padded (by decide) (by omega)
  simp only [SignatureTail.offsetSize, SignatureTail.pair, tailOf, hhours.all_isDigit,
    hminutes.all_isDigit, if_true, hhours.value_eq, hminutes.value_eq]
  omega

/-- The offset is a sign and four digits. -/
theorem IsHeaderTime.toList_writeOffset :
    ∃ a b c d, (Timestamp.writeOffset "" m.offset).toList =
        (if m.offset < 0 then '-' else '+') :: [a, b, c, d] ∧
      (tailOf [] m).hours = [a, b] ∧ (tailOf [] m).minutes = [c, d] ∧
      ∀ x ∈ [a, b, c, d], isDigit x = true := by
  have hlt := h.offset_lt
  have hminute := h.wholeMinute
  have hhours : IsNumeral 2 (m.offset.natAbs / 3600) (padded 2 (m.offset.natAbs / 3600)).toList :=
    isNumeral_padded (by decide) (by omega)
  have hminutes : IsNumeral 2 (m.offset.natAbs / 60 % 60) (padded 2 (m.offset.natAbs / 60 % 60)).toList :=
    isNumeral_padded (by decide) (by omega)
  have hround : (m.offset.natAbs + 30) / 60 = m.offset.natAbs / 60 := by omega
  have hhour : m.offset.natAbs / 60 / 60 = m.offset.natAbs / 3600 := by omega
  obtain ⟨a, b, hab⟩ := List.length_eq_two.1 hhours.length_eq
  obtain ⟨c, d, hcd⟩ := List.length_eq_two.1 hminutes.length_eq
  refine ⟨a, b, c, d, ?_, hab, hcd, ?_⟩
  · by_cases hneg : m.offset < 0 <;> simp [Timestamp.writeOffset, hneg, hround, hhour, hab, hcd]
  · intro x hx
    have hmem : x ∈ [a, b] ∨ x ∈ [c, d] := by simpa [or_assoc] using hx
    rcases hmem with hx | hx
    · exact hhours.isDigit x (hab ▸ hx)
    · exact hminutes.isDigit x (hcd ▸ hx)

end Time

/-- A reader of the time stops at the blanks, which no digit is. -/
theorem SignatureTail.ofTime?_append (email : List Char) (negative : Bool) {gap digits gap' : List Char}
    (hgap : gap ≠ []) (hblank : ∀ c ∈ gap, isBlank c = true) (hne : digits ≠ [])
    (hdigits : ∀ c ∈ digits, isDecimalDigit c = true) (hgap' : gap' ≠ []) (hblank' : ∀ c ∈ gap', isBlank c = true)
    {sign a b c d : Char} (hsign : sign = '+' ∨ sign = '-') (hoffset : [a, b, c, d].all isDecimalDigit = true) :
    ofTime? email (gap ++ ((if negative then ['-'] else []) ++ (digits ++ (gap' ++ [sign, a, b, c, d])))) =
      some { email, negative, seconds := digits, west := sign = '-', hours := [a, b], minutes := [c, d] } := by
  obtain ⟨e, es, rfl⟩ := List.exists_cons_of_ne_nil hne
  obtain ⟨g, gs, rfl⟩ := List.exists_cons_of_ne_nil hgap'
  have he : isBlank e = false := isBlank_eq_false_of_isDecimalDigit (hdigits e (by simp))
  have hminus : e ≠ '-' := by
    rintro rfl
    exact absurd (hdigits '-' (by simp)) (by decide)
  have hg : isDecimalDigit g = false := isDecimalDigit_eq_false_of_isBlank (hblank' g (by simp))
  have hdash : isBlank '-' = false := by decide
  have hsign' : isBlank sign = false := by rcases hsign with rfl | rfl <;> decide
  have htake := takeWhile_append_cons hdigits hg (gs ++ [sign, a, b, c, d])
  have hdrop := dropWhile_append_cons hdigits hg (gs ++ [sign, a, b, c, d])
  have htake' := takeWhile_append_cons hblank' hsign' [a, b, c, d]
  have hdrop' := dropWhile_append_cons hblank' hsign' [a, b, c, d]
  simp only [List.cons_append] at htake hdrop htake' hdrop'
  have hguard : ((sign = '+' || sign = '-') && [a, b, c, d].all isDecimalDigit) = true := by
    simpa using ⟨hsign, by simpa using hoffset⟩
  have hsome : gap.isEmpty = false := by simpa using hgap
  unfold ofTime?
  cases negative with
  | true =>
      simp only [if_true, List.cons_append, List.nil_append, takeWhile_append_cons hblank hdash,
        dropWhile_append_cons hblank hdash, htake, hdrop, htake', hdrop', hsome, List.isEmpty_cons, Bool.or_self,
        Bool.false_eq_true, if_false]
      simp only [hguard, if_true]
  | false =>
      simp only [Bool.false_eq_true, if_false, List.cons_append, List.nil_append, takeWhile_append_cons hblank he,
        dropWhile_append_cons hblank he, List.cons.injEq, hminus, false_and, imp_self, implies_true, htake, hdrop,
        htake', hdrop', hsome, List.isEmpty_cons, Bool.or_self]
      simp only [hguard, if_true]

/-- What follows the email is read as the tail of its own time. -/
theorem IsHeaderTime.ofTime?_timeText {m : Moment} (h : IsHeaderTime m) (email : List Char) :
    SignatureTail.ofTime? email (timeText m) = some (tailOf email m) := by
  obtain ⟨a, b, c, d, hoffset, hhours, hminutes, hdigits⟩ := h.toList_writeOffset
  have hsign : (if m.offset < 0 then '-' else '+') = '+' ∨ (if m.offset < 0 then '-' else '+') = '-' := by
    split
    · exact .inr rfl
    · exact .inl rfl
  have hwest : decide ((if m.offset < 0 then '-' else '+') = '-') = decide (m.offset < 0) := by
    split <;> simp [*]
  have hspace : ∀ c ∈ [' '], isBlank c = true := List.forall_mem_singleton.2 rfl
  have hseconds : ∀ c ∈ Nat.toDigits 10 m.seconds.natAbs, isDecimalDigit c = true :=
    fun c hc => isDecimalDigit_of_isDigit (isDigit_of_mem_toDigits hc)
  have hread := SignatureTail.ofTime?_append email (decide (m.seconds < 0)) (List.cons_ne_nil ' ' []) hspace
    Nat.toDigits_ne_nil hseconds (List.cons_ne_nil ' ' []) hspace hsign
    (List.all_eq_true.2 fun x hx => isDecimalDigit_of_isDigit (hdigits x hx))
  have htext : timeText m = [' '] ++ ((if decide (m.seconds < 0) then ['-'] else []) ++
      (Nat.toDigits 10 m.seconds.natAbs ++ ([' '] ++ [if m.offset < 0 then '-' else '+', a, b, c, d]))) := by
    simp only [timeText, secondsText, hoffset, decide_eq_true_eq, List.append_assoc, List.singleton_append]
  rw [htext, hread, hwest, ← hhours, ← hminutes]
  rfl

/-! ## The name -/

theorem SignatureTail.ofText?_eq_none {c : Char} {text : List Char} (hc : c ≠ '<') :
    ofText? (c :: text) = none := by
  unfold ofText?
  split
  · next heq => exact absurd (List.cons.inj heq).1 hc
  · rfl

theorem SignatureTail.ofText?_email {email rest : List Char} (hclose : '>' ∉ email) :
    ofText? ('<' :: (email ++ '>' :: rest)) = ofTime? email rest := by
  have hall : ∀ c ∈ email, (decide (c ≠ '>')) = true := by
    intro c hc
    rw [decide_eq_true_eq]
    rintro rfl
    exact hclose hc
  have htake : (email ++ '>' :: rest).takeWhile (· ≠ '>') = email := by
    rw [List.takeWhile_append_of_pos hall]
    simp
  have hdrop : (email ++ '>' :: rest).dropWhile (· ≠ '>') = '>' :: rest := by
    rw [List.dropWhile_append_of_pos hall]
    simp
  simp only [ofText?, hdrop, htake]

theorem SignatureTail.split?_cons_of_some {c : Char} {text : List Char} {tail : SignatureTail}
    (h : ofText? ((c :: text).dropWhile isBlank) = some tail) : split? (c :: text) = some ([], tail) := by
  rw [split?.eq_def]
  simp only [h]

theorem SignatureTail.split?_cons_of_none {c : Char} {text : List Char}
    (h : ofText? ((c :: text).dropWhile isBlank) = none) (hc : c ≠ '\n') :
    split? (c :: text) = (split? text).map fun (name, tail) => (c :: name, tail) := by
  rw [split?.eq_def]
  simp only [h, hc, if_false]

/-- The name ends where blanks and the tail begin.  A name that does not end in a blank leaves the blanks
to the tail. -/
theorem SignatureTail.split?_append {name rest : List Char} {tail : SignatureTail}
    (hopen : '<' ∉ name) (hline : '\n' ∉ name) (hlast : ∀ c ∈ name.getLast?, isBlank c = false)
    (htail : ofText? ('<' :: rest) = some tail) :
    split? (name ++ ' ' :: '<' :: rest) = some (name, tail) := by
  induction name with
  | nil =>
      have hskip : (' ' :: '<' :: rest).dropWhile isBlank = '<' :: rest := by
        have hblanks : isBlank ' ' = true ∧ isBlank '<' = false := by decide
        simp [hblanks]
      exact split?_cons_of_some (by rw [hskip, htail])
  | cons c name ih =>
      -- The first character that is not blank belongs to the name, so no tail begins here.
      obtain ⟨d, ds, hd, hmem⟩ : ∃ d ds, (c :: name).dropWhile isBlank = d :: ds ∧ d ∈ c :: name := by
        cases hdrop : (c :: name).dropWhile isBlank with
        | nil =>
            have hblank := List.dropWhile_eq_nil_iff.1 hdrop _ (List.getLast_mem (List.cons_ne_nil c name))
            have hlast' := hlast _ (List.getLast?_eq_getLast_of_ne_nil (List.cons_ne_nil c name))
            rw [hlast'] at hblank
            cases hblank
        | cons d ds =>
            refine ⟨d, ds, rfl, (List.dropWhile_sublist isBlank).subset ?_⟩
            rw [hdrop]
            exact List.mem_cons_self
      have hskip : (c :: (name ++ ' ' :: '<' :: rest)).dropWhile isBlank =
          d :: (ds ++ ' ' :: '<' :: rest) := by
        rw [← List.cons_append, List.dropWhile_append, hd]
        rfl
      have hnone : ofText? (d :: (ds ++ ' ' :: '<' :: rest)) = none :=
        ofText?_eq_none fun heq => hopen (heq ▸ hmem)
      have hc : c ≠ '\n' := fun heq => hline (by simp [heq])
      have hrest : split? (name ++ ' ' :: '<' :: rest) = some (name, tail) := by
        refine ih (fun h => hopen (List.mem_cons_of_mem _ h)) (fun h => hline (List.mem_cons_of_mem _ h))
          fun e he => hlast e ?_
        cases name with
        | nil => cases he
        | cons d name => simpa [List.getLast?_cons_cons] using he
      rw [List.cons_append, split?_cons_of_none (by rw [hskip, hnone]) hc, hrest]
      rfl

/-! ## The whole signature -/

/-- **Signatures are read back.**  A header line that tells a signature in full gives that signature. -/
theorem Signature.ofRaw_headerText {s : Signature} (h : s.IsPlain) :
    ofRaw (String.ofList s.headerText) = .ok s := by
  obtain ⟨a, b, c, d, hoffset, -, -, hdigits⟩ := h.time.toList_writeOffset
  have hd : isBlank d = false := isBlank_eq_false_of_isDigit (hdigits d (by simp))
  have hlast (front : List Char) : ∀ e ∈ (front ++ '<' :: (s.email.toList ++ '>' :: timeText s.time)).getLast?,
      isBlank e = false := by
    have htext : (front ++ '<' :: (s.email.toList ++ '>' :: timeText s.time)).getLast? = some d := by
      simp [timeText, hoffset, List.getLast?_append, List.getLast?_cons]
    intro e he
    rw [htext] at he
    cases he
    exact hd
  have htail : SignatureTail.ofText? ('<' :: (s.email.toList ++ '>' :: timeText s.time)) =
      some (tailOf s.email.toList s.time) := by
    rw [SignatureTail.ofText?_email h.email_close, h.time.ofTime?_timeText]
  have hsplit : SignatureTail.split? (trim s.headerText) =
      some (s.name.toList, tailOf s.email.toList s.time) := by
    cases hname : s.name.toList with
    | nil =>
        -- Without a name the blank before the email is in front, where it is trimmed.
        have htrim : trim s.headerText = '<' :: (s.email.toList ++ '>' :: timeText s.time) := by
          have hopen : ∀ e ∈ ('<' :: (s.email.toList ++ '>' :: timeText s.time)).head?, isBlank e = false := by
            intro e he
            cases he
            decide
          have hblank : isBlank ' ' = true := by decide
          have hskip : trimStart s.headerText = trimStart ('<' :: (s.email.toList ++ '>' :: timeText s.time)) := by
            rw [Signature.headerText, hname]
            exact List.dropWhile_cons_of_pos hblank
          rw [trim, hskip]
          exact trim_eq_self hopen (hlast [])
        rw [htrim]
        apply SignatureTail.split?_cons_of_some
        have hskip : isBlank '<' = false := by decide
        rw [List.dropWhile_cons_of_neg (by simp [hskip]), htail]
    | cons n name =>
        have htrim : trim s.headerText = s.headerText := by
          refine trim_eq_self (fun e he => ?_) ?_
          · rw [Signature.headerText, hname] at he
            cases he
            exact h.name_head n (by rw [hname]; rfl)
          · have hfront := hlast (s.name.toList ++ [' '])
            rwa [List.append_assoc] at hfront
        rw [htrim, ← hname]
        exact SignatureTail.split?_append h.name_open h.name_line h.name_last htail
  have hseconds := h.time.seconds?_tailOf s.email.toList
  have hsize := h.time.offsetSize_tailOf s.email.toList
  have hlt := h.time.offset_lt
  have hmoment : Moment.ofSeconds? s.time.seconds = some ⟨s.time.seconds, 0, 0⟩ := if_pos h.time.inRange
  have hoffset' : (if s.time.offset < 0 then -(s.time.offset.natAbs : Int) else s.time.offset.natAbs) =
      s.time.offset := by
    split <;> omega
  have htime : (Moment.mk s.time.seconds 0 0).withOffset s.time.offset = s.time := by
    rw [Moment.withOffset, ← h.time.nanos_eq]
  have hwest : (tailOf s.email.toList s.time).west = decide (s.time.offset < 0) := rfl
  have hbelow : ¬ ((s.time.offset.natAbs : Int) ≥ 86400) := by omega
  unfold ofRaw
  rw [String.toList_ofList, hsplit]
  simp only [hseconds, hsize, hbelow, if_false, hmoment, hwest, decide_eq_true_eq, hoffset', htime]
  show Except.ok (Signature.mk (String.ofList s.name.toList) (String.ofList s.email.toList) s.time) = .ok s
  rw [String.ofList_toList, String.ofList_toList]

end ReleasePress.Git
