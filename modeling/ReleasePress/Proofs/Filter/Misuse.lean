import Mathlib.Tactic.Common
import ReleasePress.Filter.Library
import ReleasePress.Proofs.Environment

/-! # Refused calls

A call of a filter is refused for the kind of its subject or for its arguments, never for what the
repository answers: `FilterLibrary.misuse?` tells the refusal from the call and the default date pattern
alone, and `FilterLibrary.refusal_call` says that every library refuses just so, in every state. -/

namespace ReleasePress

open ReleasePress.Git

/-! ## Dates that cannot be written -/

theorem DateItem.writeAll?_eq_none_iff (zone : String) (m : Moment) (items : List DateItem) :
    writeAll? zone m items = none ↔ .field .lenientOffset ∈ items := by
  have hitem (item : DateItem) : item.write? zone m = none ↔ .field .lenientOffset = item := by
    cases item with
    | field f => cases f <;> simp [write?, DateField.write?]
    | _ => simp [write?]
  rw [writeAll?, Option.map_eq_none_iff]
  induction items with
  | nil => simp
  | cons item items ih =>
      rw [List.mapM_cons, List.mem_cons, ← hitem item]
      cases item.write? zone m with
      | none => simp
      | some text =>
          cases hrest : items.mapM (write? zone m) with
          | none => simp [ih.1 hrest]
          | some texts =>
              have hmem : .field .lenientOffset ∉ items := by
                intro hmem
                rw [ih.2 hmem] at hrest
                cases hrest
              simp [hmem]

/-- Why dates cannot be written with a pattern. -/
def DateFormat.fault? (format : DateFormat) (pattern : Option String) : Option DateFormatError :=
  let pattern := pattern.getD format.pattern
  match DateItem.listOf? pattern with
  | none => some (.invalidPattern pattern)
  | some items => if .field .lenientOffset ∈ items then some (.unwritable pattern) else none

/-! ## What a call is refused for -/

namespace FilterLibrary

variable {σ : Type}

/-- What an answer is refused for. -/
def refusal {ε α : Type} : Except ε α → Option ε
  | .ok _ => none
  | .error e => some e

@[simp]
theorem refusal_ok {ε α : Type} (a : α) : refusal (.ok a : Except ε α) = none := rfl

@[simp]
theorem refusal_error {ε α : Type} (e : ε) : refusal (.error e : Except ε α) = some e := rfl

theorem refusal_eq_some_iff {ε α : Type} {answer : Except ε α} {e : ε} :
    refusal answer = some e ↔ answer = .error e := by
  cases answer <;> simp

/-- Whether a date can be written is up to the pattern: neither the date nor the clock has a say. -/
theorem refusal_write (format : DateFormat) (zone : Int) (m : Moment) (pattern : Option String)
    (universal : Bool) :
    refusal (format.write zone m pattern universal) = format.fault? pattern := by
  simp only [DateFormat.write, DateFormat.fault?]
  cases DateItem.listOf? (pattern.getD format.pattern) with
  | none => rfl
  | some items =>
      have hnone : (if universal then DateItem.writeAll? "UTC" (m.withOffset 0) items
          else DateItem.writeAll? (DateFormat.zoneName zone) (m.withOffset zone) items) = none ↔
          .field .lenientOffset ∈ items := by
        split
        · exact DateItem.writeAll?_eq_none_iff ..
        · exact DateItem.writeAll?_eq_none_iff ..
      simp only [← hnone]
      split
      · next text htext => simp [htext]
      · next htext => simp [htext]

/-- A refusal unless a condition is met. -/
def demand (condition : Bool) (misuse : Misuse) : Option Misuse :=
  if condition then none else some misuse

@[simp]
theorem demand_true (misuse : Misuse) : demand true misuse = none := rfl

@[simp]
theorem demand_false (misuse : Misuse) : demand false misuse = some misuse := rfl

/-- Whether the only argument is a text. -/
def isText : List Value → Bool
  | [.string _] => true
  | _ => false

/-- Whether the only argument, if there is one, is a text or nil. -/
def isOptionalText : List Value → Bool
  | [] => true
  | [.nil] => true
  | args => isText args

/-- Whether the only argument is an interval. -/
def isInterval : List Value → Bool
  | [.string text] => (Interval.parse? text).isSome
  | _ => false

/-- Whether the only argument, if there is one, is a number from 0 on or nil. -/
def isOptionalLength : List Value → Bool
  | [] => true
  | [.nil] => true
  | [.integer n] => decide (0 ≤ n)
  | _ => false

/-- Whether the arguments are two texts. -/
def isTwoTexts : List Value → Bool
  | [.string _, .string _] => true
  | _ => false

/-- Whether an argument is left out, or nil, or of a kind. -/
def isOptional (isKind : Value → Bool) : Option Value → Bool
  | none => true
  | some value => value.isNil || isKind value

/-- What `format_date` is refused for once its arguments are texts and truth values. -/
def dateFault? (dates : DateFormat) (pattern : Option Value) : Option Misuse :=
  (dates.fault? (pattern.bind Value.str?)).map .badPattern

/-- Whether a value is a list or a map. -/
def isCollection : Value → Bool
  | .sequence _ => true
  | .map _ => true
  | _ => false

def isObject : Value → Bool
  | .object _ => true
  | _ => false

def isString (value : Value) : Bool :=
  value.str?.isSome

def isBool : Value → Bool
  | .bool _ => true
  | _ => false

/-- Whether a subject that is a text is an object id. -/
def isIdOrOther (subject : Value) : Bool :=
  subject.str?.all fun text => (ObjectId.parse? text).isSome

/-- What a call of a filter is refused for: the first demand on its subject and its arguments that is not
met. Of the library only the default date pattern has a say. -/
def misuse? (dates : DateFormat) (subject : Value) (args : List Value) : Filter → Option Misuse
  | .get => demand (isText args) .keyWanted
  | .contains =>
    demand (isText args) .memberWanted <|>
      demand (subject.isNil || isCollection subject || isObject subject) (.opaqueSubject subject.kindName)
  | .attrs => demand (isOptionalText args) .optionalTextWanted
  | .olderThan => demand (isInterval args) .intervalWanted
  | .revParse =>
    demand args.isEmpty .noArguments <|>
      demand (isString subject || isObject subject) .revisionWanted
  | .objectType =>
    demand args.isEmpty .noArguments <|>
      demand (isString subject || isObject subject) .idWanted <|>
      demand (isIdOrOther subject) (.invalidId (subject.str?.getD ""))
  | .commits => demand args.isEmpty .noArguments <|> demand (isObject subject) .objectWanted
  | .aliasOf =>
    demand (subject.str?.bind Contact.split?).isSome .contactWanted <|>
      demand (isOptionalText args) .platformWanted
  | .random =>
    demand args.isEmpty .noArguments <|>
      demand (isString subject || isCollection subject) (.collectionWanted subject.kindName)
  | .take => demand (isOptionalLength args) .lengthWanted
  | .replace =>
    demand (isTwoTexts args) .twoTextsWanted <|> demand (isString subject) .textSubjectWanted
  | .formatDate =>
    demand (args.length ≤ 2) .dateArguments <|>
      demand (isOptional isString args[0]?) .patternWanted <|>
      demand (isOptional isBool args[1]?) .universalWanted <|>
      demand subject.asDate?.isSome .dateWanted <|>
      dateFault? dates args[0]?
  | .parseDate =>
    demand (isOptionalText args) .optionalTextWanted <|> demand (isString subject) .textSubjectWanted
  | .formatMarkdown =>
    demand args.isEmpty .noArguments <|> demand (isString subject) .textSubjectWanted

/-! ## Filters that ask nobody -/

theorem refusal_getField (dates : DateFormat) (subject : Value) (args : List Value) :
    refusal (getField subject args) = misuse? dates subject args .get := by
  simp only [getField, misuse?]
  split
  · rfl
  · next hargs =>
      have htext : isText args = false := by grind [isText]
      simp [htext]

theorem refusal_hasMember (dates : DateFormat) (subject : Value) (args : List Value) :
    refusal (hasMember subject args) = misuse? dates subject args .contains := by
  simp only [hasMember, misuse?]
  split
  · cases subject <;> rfl
  · next hargs =>
      have htext : isText args = false := by grind [isText]
      simp [htext]

theorem refusal_olderThan (library : FilterLibrary σ) (subject : Value) (args : List Value) :
    refusal (library.olderThan subject args) = misuse? library.dates subject args .olderThan := by
  simp only [olderThan, misuse?]
  split
  · next text =>
      cases hparse : Interval.parse? text with
      | none => simp [isInterval, hparse]
      | some seconds => cases subject <;> simp [isInterval, hparse]
  · next hargs =>
      have hinterval : isInterval args = false := by grind [isInterval]
      simp [hinterval]

theorem refusal_random (library : FilterLibrary σ) (subject : Value) (args : List Value) :
    refusal (library.random subject args) = misuse? library.dates subject args .random := by
  cases args with
  | nil => cases subject <;> rfl
  | cons arg args => rfl

theorem refusal_first (dates : DateFormat) (subject : Value) (args : List Value) :
    refusal (first subject args) = misuse? dates subject args .take := by
  simp only [first, misuse?]
  split
  · next misuse hlength =>
      have hargs : isOptionalLength args = false ∧ misuse = .lengthWanted := by
        grind [isOptionalLength]
      simp [hargs]
  · next n hlength =>
      have hargs : isOptionalLength args = true := by grind [isOptionalLength]
      simp [hargs]

theorem refusal_replace (dates : DateFormat) (subject : Value) (args : List Value) :
    refusal (replace subject args) = misuse? dates subject args .replace := by
  simp only [replace, misuse?]
  split
  · cases subject with
    | string text =>
        simp only []
        split <;> rfl
    | _ => rfl
  · next hargs =>
      have htexts : isTwoTexts args = false := by grind [isTwoTexts]
      simp [htexts]

theorem patternOf_eq (arg : Option Value) :
    patternOf arg =
      if isOptional isString arg then .ok (arg.bind Value.str?) else .error .patternWanted := by
  cases arg with
  | none => rfl
  | some value => cases value <;> rfl

theorem refusal_universalOf (arg : Option Value) :
    refusal (universalOf arg) = demand (isOptional isBool arg) .universalWanted := by
  cases arg with
  | none => rfl
  | some value => cases value <;> rfl

theorem refusal_formatDate (library : FilterLibrary σ) (subject : Value) (args : List Value) :
    refusal (library.formatDate subject args) = misuse? library.dates subject args .formatDate := by
  simp only [formatDate, misuse?, patternOf_eq]
  by_cases hlength : args.length > 2
  · have hle : decide (args.length ≤ 2) = false := by simpa using hlength
    rw [if_pos hlength, hle]
    rfl
  · have hle : decide (args.length ≤ 2) = true := by simpa using hlength
    rw [if_neg hlength, hle, ← refusal_universalOf]
    cases isOptional isString args[0]? with
    | false => rfl
    | true =>
        cases universalOf args[1]? with
        | error misuse => rfl
        | ok universal =>
            cases hdate : subject.asDate? with
            | none => rfl
            | some m =>
                have hwrite := refusal_write library.dates library.zone m (args[0]?.bind Value.str?) universal
                cases htext : library.dates.write library.zone m (args[0]?.bind Value.str?) universal with
                | error cause =>
                    rw [htext] at hwrite
                    simp [dateFault?, ← hwrite, bind, Except.bind, htext]
                | ok text =>
                    rw [htext] at hwrite
                    simp [dateFault?, ← hwrite, bind, Except.bind, htext]

theorem refusal_parseDate (library : FilterLibrary σ) (subject : Value) (args : List Value) :
    refusal (library.parseDate subject args) = misuse? library.dates subject args .parseDate := by
  simp only [parseDate, misuse?]
  split
  · next misuse hpattern =>
      have hargs : isOptionalText args = false ∧ misuse = .optionalTextWanted := by
        grind [isOptionalText, isText]
      simp [hargs]
  · next pattern hpattern =>
      have hargs : isOptionalText args = true := by grind [isOptionalText, isText]
      cases subject <;> simp [hargs, isString, Value.str?]

theorem refusal_formatMarkdown (dates : DateFormat) (subject : Value) (args : List Value) :
    refusal (formatMarkdown subject args) = misuse? dates subject args .formatMarkdown := by
  cases args with
  | nil => cases subject <;> rfl
  | cons arg args => rfl

/-! ## Filters that ask the repository -/

theorem refusal_attributes (library : FilterLibrary σ) (subject : Value) (args : List Value)
    (s : FilterState σ) :
    refusal ((library.attributes subject args).run s).1 = misuse? library.dates subject args .attrs := by
  simp only [attributes, misuse?]
  split
  · rw [run_bind]
    split <;> rfl
  · rfl
  · rw [run_bind]
    split <;> rfl
  · have hargs : isOptionalText args = false := by grind [isOptionalText, isText]
    rw [hargs]
    rfl

theorem refusal_revParse (library : FilterLibrary σ) (subject : Value) (args : List Value)
    (s : FilterState σ) :
    refusal ((library.revParse subject args).run s).1 =
      misuse? library.dates subject args .revParse := by
  cases args with
  | nil => cases subject <;> rfl
  | cons arg args => rfl

theorem refusal_objectType (library : FilterLibrary σ) (subject : Value) (args : List Value)
    (s : FilterState σ) :
    refusal ((library.objectType subject args).run s).1 =
      misuse? library.dates subject args .objectType := by
  cases args with
  | cons arg args => rfl
  | nil =>
      cases subject with
      | string text =>
          simp only [objectType, misuse?, isIdOrOther, Value.str?, Option.all_some]
          cases ObjectId.parse? text with
          | none => rfl
          | some oid =>
              simp only [run_bind]
              split <;> rfl
      | object object =>
          simp only [objectType, run_bind]
          split <;> rfl
      | _ => rfl

theorem refusal_commits (library : FilterLibrary σ) (subject : Value) (args : List Value)
    (s : FilterState σ) :
    refusal ((library.commits subject args).run s).1 = misuse? library.dates subject args .commits := by
  cases args with
  | cons arg args => rfl
  | nil =>
      simp only [commits]
      split
      · rw [run_bind]
        split <;> rfl
      · rfl
      · cases subject with
        | object object => simp_all
        | _ => rfl

theorem refusal_aliasOf (library : FilterLibrary σ) (subject : Value) (args : List Value)
    (s : FilterState σ) :
    refusal ((library.aliasOf subject args).run s).1 = misuse? library.dates subject args .aliasOf := by
  have hplatform : refusal (platformOf args) = demand (isOptionalText args) .platformWanted := by
    fun_cases platformOf args with
    | case4 => grind [isOptionalText, isText, refusal, demand]
    | _ => rfl
  simp only [aliasOf, misuse?]
  cases subject.str?.bind Contact.split? with
  | none => rfl
  | some contact =>
      rw [← hplatform]
      cases platformOf args with
      | error misuse => rfl
      | ok platform =>
          simp only [run_bind]
          split <;> rfl

/-! ## All filters -/

theorem refusal_answer (library : FilterLibrary σ) (filter : Filter) (subject : Value)
    (args : List Value) (s : FilterState σ) :
    refusal ((library.answer filter subject args).run s).1 =
      misuse? library.dates subject args filter := by
  cases filter with
  | get => exact refusal_getField ..
  | contains => exact refusal_hasMember ..
  | attrs => exact refusal_attributes ..
  | olderThan => exact refusal_olderThan ..
  | revParse => exact refusal_revParse ..
  | objectType => exact refusal_objectType ..
  | commits => exact refusal_commits ..
  | aliasOf => exact refusal_aliasOf ..
  | random => exact refusal_random ..
  | take => exact refusal_first ..
  | replace => exact refusal_replace ..
  | formatDate => exact refusal_formatDate ..
  | parseDate => exact refusal_parseDate ..
  | formatMarkdown => exact refusal_formatMarkdown ..

/-- Which calls a library refuses, and for what, neither its repository nor its state has a say in. -/
theorem refusal_call (library : FilterLibrary σ) (filter : Filter) (subject : Value)
    (args : List Value) (s : FilterState σ) :
    refusal ((library.call filter subject args).run s).1 =
      (misuse? library.dates subject args filter).map (FilterError.mk filter) := by
  rw [← refusal_answer library filter subject args s, call, run_bind]
  cases ((library.answer filter subject args).run s).1 <;> rfl

/-- Two libraries that fall back on the same date pattern refuse the same calls for the same misuse,
whatever their repositories hold or fail to answer and whatever was asked before. -/
theorem call_eq_error_iff {σ' : Type} {library : FilterLibrary σ} {library' : FilterLibrary σ'}
    (hdates : library.dates = library'.dates) (filter : Filter) (subject : Value) (args : List Value)
    (s : FilterState σ) (s' : FilterState σ') (e : FilterError) :
    ((library.call filter subject args).run s).1 = .error e ↔
      ((library'.call filter subject args).run s').1 = .error e := by
  rw [← refusal_eq_some_iff, ← refusal_eq_some_iff, refusal_call, refusal_call, hdates]

/-- A repository that answers no question. -/
def silent : Repository Unit where
  object oid := pure (.error (.objectNotFound oid.text))
  revision name := pure (.error (.objectNotFound name))
  Walk := Unit
  walk oid := pure (.error (.objectNotFound oid.text))
  next _ := pure none
  bound _ := 0
  note oid notesRef := pure (.error (.noteNotFound oid notesRef))
  aliases := pure (.error (.aliases defaultAliasFile "gone"))

/-- The filters on a repository that answers no question. -/
def silentLibrary : FilterLibrary Unit where
  toCircumstances := { Environment.calm with zone := 19800 }
  repository := silent
  notesRef := some "refs/notes/commits"
  dates := Environment.plain.library.dates

theorem call_silent_of_call_plain :
    ((Environment.plain.library.call .aliasOf (.string "Jane Doe <jane@example.org>")
        [.integer 7]).run { repository := 0 }).1 = .error ⟨.aliasOf, .platformWanted⟩ ∧
      ((silentLibrary.call .aliasOf (.string "Jane Doe <jane@example.org>")
        [.integer 7]).run { repository := () }).1 = .error ⟨.aliasOf, .platformWanted⟩ := by
  have hplain : ((Environment.plain.library.call .aliasOf (.string "Jane Doe <jane@example.org>")
      [.integer 7]).run { repository := 0 }).1 = .error ⟨.aliasOf, .platformWanted⟩ := rfl
  have hdates : Environment.plain.library.dates = silentLibrary.dates := rfl
  exact ⟨hplain, (call_eq_error_iff hdates ..).1 hplain⟩

end FilterLibrary

end ReleasePress
