import ReleasePress.Alias
import ReleasePress.Calendar.Interval
import ReleasePress.Circumstances
import ReleasePress.Filter.Basic
import ReleasePress.Git.Trailer
import ReleasePress.Log
import ReleasePress.Markdown.Html
import ReleasePress.Value

/-!
# The filter library

A library answers calls of filters from one repository.  It asks the repository for its aliases the
first time that a call needs them and keeps the answer, whatever it is.

## Main declarations

* `FilterLibrary`: repository, notes ref, date format and circumstances.
* `FilterState`: the repository's state, the aliases once they are known, and the warnings so far.
* `FilterLibrary.call`: the result of a filter on a subject with positional arguments.
-/

namespace ReleasePress

open ReleasePress.Git ReleasePress.Text

/-- What the filters work with. -/
structure FilterLibrary (σ : Type) extends Circumstances where
  repository : Repository σ
  /-- The notes ref that `attrs` reads. -/
  notesRef : Option String
  dates : DateFormat

/-- What calls of filters read and change. -/
structure FilterState (σ : Type) where
  repository : σ
  /-- The aliases, once the repository was asked for them; `some none` if there are none. -/
  aliases : Option (Option AliasResolver) := none
  /-- The warnings so far, last one first. -/
  warnings : List Warning := []

namespace FilterLibrary

variable {σ : Type}

/-- A computation that may ask the repository. -/
abbrev Session (σ : Type) := StateM (FilterState σ)

/-- Asks the repository. -/
def ask {α : Type} (question : StateM σ α) : Session σ α := fun s =>
  let (answer, repository) := question.run s.repository
  (answer, { s with repository })

/-- The aliases, from the repository on first use. -/
def resolver (library : FilterLibrary σ) : Session σ (Option AliasResolver) := do
  match (← get).aliases with
  | some resolver => pure resolver
  | none =>
    match ← ask library.repository.aliases with
    | .ok resolver =>
      modify fun s => { s with aliases := some resolver }
      pure resolver
    | .error cause =>
      modify fun s =>
        { s with aliases := some none, warnings := .aliasesUnavailable cause :: s.warnings }
      pure none

/-- The object that an id or a revision names. -/
def objectOf (library : FilterLibrary σ) (text : String) :
    Session σ (Except RepositoryError Object) :=
  match ObjectId.parse? text with
  | some oid => ask (library.repository.object oid)
  | none => ask (library.repository.revision text)

/-- An object, or nil for a failure. -/
def found : Except RepositoryError Object → Value
  | .ok object => .object object
  | .error _ => .nil

/-- `get`: a field, or the first element of a sequence that has the field. -/
def getField (subject : Value) : List Value → Except Misuse Value
  | [.string key] =>
    .ok (match subject with
      | .sequence items => (items.find? fun item => (item.lookup? key).isSome).getD .nil
      | value => (value.lookup? key).getD .nil)
  | _ => .error .keyWanted

/-- `contains`: whether a collection has a key or an object a field. -/
def hasMember (subject : Value) : List Value → Except Misuse Value
  | [.string key] =>
    match subject with
    | .nil => .ok (.bool false)
    | .sequence items =>
      .ok (.bool (items.any fun item => item.str? == some key || (item.lookup? key).isSome))
    | .map entries => .ok (.bool (Value.named? key entries).isSome)
    | .object object => .ok (.bool ((object.field? key).any fun field => !field.isNil))
    | other => .error (.opaqueSubject other.kindName)
  | _ => .error .memberWanted

/-- The object that `attrs` reads the note of. -/
def annotated (library : FilterLibrary σ) : Value → Session σ (Option ObjectId)
  | .object (.note note) => pure (some note.target)
  | .object object => pure (some object.oid)
  | .string text =>
    match ObjectId.parse? text with
    | some oid => pure (some oid)
    | none => do
      match ← ask (library.repository.revision text) with
      | .ok object => pure (some object.oid)
      | .error _ => pure none
  | _ => pure none

/-- The note that `attrs` reads. -/
def noteOf (library : FilterLibrary σ) (subject : Value) :
    Session σ (Option Note) := do
  match library.notesRef with
  | none => pure none
  | some notesRef =>
    match ← library.annotated subject with
    | none => pure none
    | some oid =>
      match ← ask (library.repository.note oid notesRef) with
      | .ok note => pure (some note)
      | .error _ => pure none

/-- `attrs`: the note on an object, or the value of one of its trailers. -/
def attributes (library : FilterLibrary σ) (subject : Value) :
    List Value → Session σ (Except Misuse Value)
  | [] => do
    match ← library.noteOf subject with
    | some note => pure (.ok (.object (.note note)))
    | none => pure (.ok .nil)
  | [.nil] => pure (.ok .nil)
  | [.string key] => do
    match ← library.noteOf subject with
    | some note => pure (.ok (Value.ofOption .string (trailerValue? key note.message)))
    | none => pure (.ok .nil)
  | _ => pure (.error .optionalTextWanted)

/-- The time that `older_than` compares with; a tag without a tagger and a pointer have none. -/
def timeOf : Value → Option Moment
  | .object (.tag tag) => tag.tagger.map (·.time)
  | .object (.commit commit) => some commit.date
  | .object (.note note) => some note.committer.time
  | .object (.pointer _) => none
  | other => other.asDate?

/-- `older_than`: whether more time than the interval has passed since a date. -/
def olderThan (library : FilterLibrary σ) (subject : Value) : List Value → Except Misuse Value
  | [.string text] =>
    match Interval.parse? text with
    | none => .error .intervalWanted
    | some seconds =>
      match subject with
      | .nil => .ok (.bool false)
      | subject =>
        .ok (Value.ofOption
          (fun time => .bool (library.now.nanosecondsSince time > seconds * Moment.nanosPerSecond))
          (timeOf subject))
  | _ => .error .intervalWanted

/-- `rev_parse`: the object that an id or a revision names. -/
def revParse (library : FilterLibrary σ) (subject : Value) :
    List Value → Session σ (Except Misuse Value)
  | [] =>
    match subject with
    | .string text => do return .ok (found (← library.objectOf text))
    | .object object => do return .ok (found (← ask (library.repository.object object.oid)))
    | _ => pure (.error .revisionWanted)
  | _ => pure (.error .noArguments)

/-- `object_type`: the kind of the object with an id. -/
def objectType (library : FilterLibrary σ) (subject : Value) :
    List Value → Session σ (Except Misuse Value)
  | [] => do
    let kindOf (oid : ObjectId) : Session σ (Except Misuse Value) := do
      match ← ask (library.repository.object oid) with
      | .ok object => pure (.ok (.string object.kindName))
      | .error _ => pure (.ok .nil)
    match subject with
    | .string text =>
      match ObjectId.parse? text with
      | some oid => kindOf oid
      | none => pure (.error (.invalidId text))
    | .object object => kindOf object.oid
    | _ => pure (.error .idWanted)
  | _ => pure (.error .noArguments)

/-- The commit at which the ancestors of an object begin. -/
def startOf : Object → Option ObjectId
  | .tag tag => some tag.target.oid
  | .commit commit => some commit.oid
  | _ => none

/-- The ancestors of an object that is not a pointer. -/
def ancestors (library : FilterLibrary σ) (object : Object) : Session σ Value :=
  match startOf object with
  | none => pure .nil
  | some start => do
    match ← ask (library.repository.history start) with
    | .ok commits => pure (.sequence (commits.map fun commit => .object (.commit commit)))
    | .error _ => pure .nil

/-- `commits`: the ancestors of a commit or of the commit that a tag is on. -/
def commits (library : FilterLibrary σ) (subject : Value) :
    List Value → Session σ (Except Misuse Value)
  | [] =>
    match subject with
    | .object (.pointer pointer) => do
      match ← ask (library.repository.object pointer.oid) with
      | .ok object => return .ok (← library.ancestors object)
      | .error _ => pure (.ok .nil)
    | .object object => do return .ok (← library.ancestors object)
    | _ => pure (.error .objectWanted)
  | _ => pure (.error .noArguments)

/-- The platform that `alias` asks for. -/
def platformOf : List Value → Except Misuse (Option String)
  | [] => .ok none
  | [.nil] => .ok none
  | [.string platform] => .ok (some platform)
  | _ => .error .platformWanted

/-- `alias`: the canonical identity of a contact, or its handle on a platform. -/
def aliasOf (library : FilterLibrary σ) (subject : Value) (args : List Value) :
    Session σ (Except Misuse Value) :=
  match subject.str?.bind Contact.split? with
  | none => pure (.error .contactWanted)
  | some (name, email) =>
    match platformOf args with
    | .error misuse => pure (.error misuse)
    | .ok platform => do
      match ← library.resolver with
      | none => pure (.ok .nil)
      | some resolver =>
        let answer := match platform with
          | some platform => resolver.handle? name email platform
          | none => resolver.identity? name email
        pure (.ok (Value.ofOption .string answer))

/-- The element of a list that chance picks. -/
def pick {α : Type} (library : FilterLibrary σ) (items : List α) : Option α :=
  items[library.chance items.length % items.length]?

/-- `random`: an element of a sequence, a character of a string or an entry of a map. -/
def random (library : FilterLibrary σ) (subject : Value) : List Value → Except Misuse Value
  | [] =>
    match subject with
    | .sequence items => .ok ((library.pick items).getD .nil)
    | .string text =>
      .ok (Value.ofOption (fun c => .string (String.ofList [c])) (library.pick text.toList))
    | .map entries =>
      .ok (Value.ofOption (fun (name, value) => .sequence [.string name, value])
        (library.pick entries))
    | other => .error (.collectionWanted other.kindName)
  | _ => .error .noArguments

/-- `prefix`: the first elements, entries or characters. -/
def first (subject : Value) (args : List Value) : Except Misuse Value :=
  let length : Except Misuse Nat := match args with
    | [] => .ok 1
    | [.nil] => .ok 1
    | [.integer n] => if 0 ≤ n then .ok n.toNat else .error .lengthWanted
    | _ => .error .lengthWanted
  match length with
  | .error misuse => .error misuse
  | .ok n =>
    .ok (match subject with
      | .sequence items => .sequence (items.take n)
      | .map entries => .map (entries.take n)
      | other => .string (takeChars n other.display))

/-- `replace`: a text with every occurrence of another replaced. -/
def replace (subject : Value) : List Value → Except Misuse Value
  | [.string old, .string new] =>
    match subject with
    | .string text =>
      if old.isEmpty then .ok subject
      else .ok (.string (String.ofList (replaceAll old.toList new.toList text.toList)))
    | _ => .error .textSubjectWanted
  | _ => .error .twoTextsWanted

/-- The pattern that `format_date` is given, if any. -/
def patternOf : Option Value → Except Misuse (Option String)
  | none => .ok none
  | some .nil => .ok none
  | some (.string pattern) => .ok (some pattern)
  | some _ => .error .patternWanted

/-- Whether `format_date` is told to write universal time. -/
def universalOf : Option Value → Except Misuse Bool
  | none => .ok false
  | some .nil => .ok false
  | some (.bool universal) => .ok universal
  | some _ => .error .universalWanted

/-- `format_date`: the text of a date. -/
def formatDate (library : FilterLibrary σ) (subject : Value) (args : List Value) :
    Except Misuse Value := do
  if args.length > 2 then .error .dateArguments
  else
    let pattern ← patternOf args[0]?
    let universal ← universalOf args[1]?
    match subject.asDate? with
    | none => .error .dateWanted
    | some m =>
      match library.dates.write library.zone m pattern universal with
      | .ok text => .ok (.string text)
      | .error cause => .error (.badPattern cause)

/-- `parse_date`: the date of a text. -/
def parseDate (library : FilterLibrary σ) (subject : Value) (args : List Value) :
    Except Misuse Value :=
  let pattern : Except Misuse (Option String) := match args with
    | [] => .ok none
    | [.nil] => .ok none
    | [.string pattern] => .ok (some pattern)
    | _ => .error .optionalTextWanted
  match pattern with
  | .error misuse => .error misuse
  | .ok pattern =>
    match subject with
    | .string text => .ok (Value.ofOption .date (library.dates.read? library.zone text pattern))
    | _ => .error .textSubjectWanted

/-- `format_markdown`: Markdown as HTML. -/
def formatMarkdown (subject : Value) : List Value → Except Misuse Value
  | [] =>
    match subject with
    | .string text => .ok (.string (Markdown.html text))
    | _ => .error .textSubjectWanted
  | _ => .error .noArguments

/-- The answer of a filter. -/
def answer (library : FilterLibrary σ) (filter : Filter) (subject : Value) (args : List Value) :
    Session σ (Except Misuse Value) :=
  match filter with
  | .get => pure (getField subject args)
  | .contains => pure (hasMember subject args)
  | .attrs => library.attributes subject args
  | .olderThan => pure (library.olderThan subject args)
  | .revParse => library.revParse subject args
  | .objectType => library.objectType subject args
  | .commits => library.commits subject args
  | .aliasOf => library.aliasOf subject args
  | .random => pure (library.random subject args)
  | .take => pure (first subject args)
  | .replace => pure (replace subject args)
  | .formatDate => pure (library.formatDate subject args)
  | .parseDate => pure (library.parseDate subject args)
  | .formatMarkdown => pure (formatMarkdown subject args)

/-- The result of a filter on a subject with positional arguments. -/
def call (library : FilterLibrary σ) (filter : Filter) (subject : Value) (args : List Value) :
    Session σ (Except FilterError Value) := do
  match ← library.answer filter subject args with
  | .ok value => pure (.ok value)
  | .error misuse => pure (.error ⟨filter, misuse⟩)

/-- The first name on the way through the arguments that is none of the filter's. -/
def unknown? (traversal : Traversal) (filter : Filter) (named : Fields) : Option String :=
  ((traversal.order named).map (·.1)).find? fun name => !filter.parameters.contains name

/-- The values of the parameters, up to the last one that is given; others are nil. -/
def placed (filter : Filter) (named : Fields) : List Value :=
  let given := filter.parameters.map fun name => Json.field? name named
  let needed := (given.reverse.dropWhile Option.isNone).reverse
  needed.map fun value => (value.map Value.ofJson).getD .nil

/-- The refusal of a name that is none of the filter's. -/
def unknownArgument (filter : Filter) (name : String) : FilterError :=
  ⟨filter, .unknownArgument name filter.parameters⟩

/-- The arguments by position. -/
def positional (traversal : Traversal) (filter : Filter) (named : Fields) : Except FilterError (List Value) :=
  match unknown? traversal filter named with
  | some name => .error (unknownArgument filter name)
  | none => .ok (placed filter named)

/-- The result of a filter with named arguments, in JSON. -/
def callNamed (library : FilterLibrary σ) (filter : Filter) (subject : Json) (named : Fields) :
    Session σ (Except FilterError Json) := do
  match positional library.traversal filter named with
  | .error e => pure (.error e)
  | .ok args =>
    match ← library.call filter (Value.ofJson subject) args with
    | .ok value => pure (.ok value.toJson)
    | .error e => pure (.error e)

end FilterLibrary

end ReleasePress
