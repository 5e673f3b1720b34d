import Mathlib.Data.List.Basic
import Mathlib.Tactic.Common
import ReleasePress.Git.Store
import ReleasePress.Proofs.Environment
import ReleasePress.Proofs.Filter.Mirrored
import ReleasePress.Proofs.Filter.Named
import ReleasePress.Proofs.Filter.Settled

/-!
# Aliases are asked for once

A library keeps what the repository tells of its aliases, also that there are none or that they cannot be
had.  To see how often it asks, the repository is given a record of these answers beside its state
(`Git.Repository.recorded`).  A call of a filter that looks up no contact goes the same way over both
repositories and leaves the record and the aliases alone; one that does adds to the record only if the
library has no aliases yet.  `FilterLibrary.aliases_askedOnce` follows by induction on the calls.
-/

namespace ReleasePress

open ReleasePress.Git

variable {σ α : Type}

/-! ## The record -/

/-- What a repository tells when it is asked for its aliases. -/
abbrev AliasOutcome := Except RepositoryError (Option AliasResolver)

/-- A question beside a record that it leaves alone. -/
def beside (question : StateM σ α) : StateM (σ × List AliasOutcome) α := fun s =>
  ((question.run s.1).1, ((question.run s.1).2, s.2))

/-- The repository with a record of what it told of its aliases, first answer first. -/
def Git.Repository.recorded (repository : Repository σ) : Repository (σ × List AliasOutcome) where
  object oid := beside (repository.object oid)
  revision name := beside (repository.revision name)
  Walk := repository.Walk
  walk oid := beside (repository.walk oid)
  next walk := beside (repository.next walk)
  bound := repository.bound
  note oid notesRef := beside (repository.note oid notesRef)
  aliases := fun s =>
    let outcome := (repository.aliases.run s.1).1
    (outcome, ((repository.aliases.run s.1).2, s.2 ++ [outcome]))

/-- The state with this record. -/
def WithRecord (record : List AliasOutcome) (recorded : σ × List AliasOutcome) (state : σ) : Prop :=
  recorded = (state, record)

theorem mirrors_beside (record : List AliasOutcome) (question : StateM σ α) :
    Mirrors (WithRecord record) (beside question) question := by
  rintro _ state rfl
  exact ⟨rfl, rfl⟩

namespace Git.Repository

variable (record : List AliasOutcome) (repository : Repository σ)

theorem mirrors_collect (n : Nat) (walk : repository.Walk) :
    Mirrors (WithRecord record) (repository.recorded.collect n walk) (repository.collect n walk) := by
  induction n generalizing walk with
  | zero => exact mirrors_pure _ _
  | succ n ih =>
      refine (mirrors_beside record (repository.next walk)).bind fun found => ?_
      match found with
      | none => exact mirrors_pure _ _
      | some (.error e, _) => exact mirrors_pure _ _
      | some (.ok commit, rest) =>
          refine (ih rest).bind fun commits => ?_
          split <;> exact mirrors_pure _ _

theorem mirrors_history (oid : ObjectId) :
    Mirrors (WithRecord record) (repository.recorded.history oid) (repository.history oid) := by
  refine (mirrors_beside record (repository.walk oid)).bind fun found => ?_
  match found with
  | .error e => exact mirrors_pure _ _
  | .ok walk => exact repository.mirrors_collect record _ walk

end Git.Repository

/-! ## Filters that look up no contact -/

/-- The state of the filters over the recorded repository. -/
def FilterState.recorded (record : List AliasOutcome) (s : FilterState σ) :
    FilterState (σ × List AliasOutcome) where
  repository := (s.repository, record)
  aliases := s.aliases
  warnings := s.warnings

/-- The same state with this record, and with these aliases known. -/
def Alongside (record : List AliasOutcome) (known : Option (Option AliasResolver))
    (recorded : FilterState (σ × List AliasOutcome)) (s : FilterState σ) : Prop :=
  recorded = s.recorded record ∧ s.aliases = known

namespace FilterLibrary

/-- The library over the recorded repository. -/
def recorded (library : FilterLibrary σ) : FilterLibrary (σ × List AliasOutcome) where
  toCircumstances := library.toCircumstances
  repository := library.repository.recorded
  notesRef := library.notesRef
  dates := library.dates

section Apart

variable (record : List AliasOutcome) (known : Option (Option AliasResolver)) (library : FilterLibrary σ)

theorem mirrors_ask {other : StateM (σ × List AliasOutcome) α} {question : StateM σ α}
    (h : Mirrors (WithRecord record) other question) :
    Mirrors (Alongside record known) (ask other) (ask question) := by
  rintro _ s ⟨rfl, hknown⟩
  obtain ⟨hanswer, hstate⟩ := h (s.repository, record) s.repository rfl
  have hafter : ((ask other).run (s.recorded record)).2 = ((ask question).run s).2.recorded record :=
    congrArg (fun repository => FilterState.mk repository s.aliases s.warnings) hstate
  exact ⟨hanswer, hafter, hknown⟩

theorem mirrored_recorded : library.repository.recorded.Mirrored (Alongside record known) library.repository where
  object _ := mirrors_ask _ _ (mirrors_beside _ _)
  revision _ := mirrors_ask _ _ (mirrors_beside _ _)
  history _ := mirrors_ask _ _ (library.repository.mirrors_history _ _)
  note _ _ := mirrors_ask _ _ (mirrors_beside _ _)

end Apart

/-! ## Filters that look up a contact -/

/-- A contact and, if a handle is wanted, its platform. -/
structure Lookup where
  name : String
  email : String
  platform : Option String

/-- What is found with these aliases. -/
def Lookup.answer (known : Option AliasResolver) (lookup : Lookup) : Value :=
  Value.ofOption .string (known.bind fun resolver =>
    match lookup.platform with
    | some platform => resolver.handle? lookup.name lookup.email platform
    | none => resolver.identity? lookup.name lookup.email)

/-- What a call of a filter looks up: only `alias` does, if its contact and its arguments are well-formed. -/
def lookup? (filter : Filter) (subject : Value) (args : List Value) : Option Lookup :=
  if filter = .aliasOf then
    (subject.str?.bind Contact.split?).bind fun contact =>
      (platformOf args).toOption.map fun platform => ⟨contact.1, contact.2, platform⟩
  else none

theorem toOption_eq_some_iff {ε : Type} {outcome : Except ε α} {a : α} :
    outcome.toOption = some a ↔ outcome = .ok a := by
  cases outcome <;> simp [Except.toOption]

theorem lookup?_eq_some_iff {filter : Filter} {subject : Value} {args : List Value} {lookup : Lookup} :
    lookup? filter subject args = some lookup ↔
      filter = .aliasOf ∧ subject.str?.bind Contact.split? = some (lookup.name, lookup.email) ∧
        platformOf args = .ok lookup.platform := by
  rw [lookup?]
  split
  · next hfilter =>
      simp only [Option.bind_eq_some_iff, Option.map_eq_some_iff, toOption_eq_some_iff, hfilter, true_and]
      constructor
      · rintro ⟨contact, hcontact, platform, hplatform, rfl⟩
        exact ⟨hcontact, hplatform⟩
      · rintro ⟨hcontact, hplatform⟩
        exact ⟨_, hcontact, _, hplatform, rfl⟩
  · next hfilter => simp [hfilter]

theorem mirrors_aliasOf_of_no_lookup (record : List AliasOutcome) (known : Option (Option AliasResolver))
    (library : FilterLibrary σ) {subject : Value} {args : List Value}
    (hlookup : lookup? .aliasOf subject args = none) :
    Mirrors (Alongside record known) (library.recorded.aliasOf subject args)
      (library.aliasOf subject args) := by
  rw [aliasOf, aliasOf]
  split
  · exact mirrors_pure _ _
  · next name email hcontact =>
      split
      · exact mirrors_pure _ _
      · next platform hplatform =>
          have hfound : lookup? .aliasOf subject args = some ⟨name, email, platform⟩ :=
            lookup?_eq_some_iff.2 ⟨rfl, hcontact, hplatform⟩
          rw [hlookup] at hfound
          cases hfound

theorem mirrors_call_of_no_lookup (record : List AliasOutcome) (known : Option (Option AliasResolver))
    (library : FilterLibrary σ) {filter : Filter} {subject : Value} {args : List Value}
    (hlookup : lookup? filter subject args = none) :
    Mirrors (Alongside record known) (library.recorded.call filter subject args)
      (library.call filter subject args) := by
  refine mirrors_call (mirrored_recorded record known library) ?_
  rintro rfl
  exact mirrors_aliasOf_of_no_lookup record known library hlookup

/-- A call that looks up a contact gets the aliases, and answers from them. -/
theorem call_run_of_lookup (library : FilterLibrary σ) {filter : Filter} {subject : Value}
    {args : List Value} {lookup : Lookup} (hlookup : lookup? filter subject args = some lookup)
    (s : FilterState σ) :
    (library.call filter subject args).run s =
      (.ok (lookup.answer (library.resolver.run s).1), (library.resolver.run s).2) := by
  obtain ⟨rfl, hcontact, hplatform⟩ := lookup?_eq_some_iff.1 hlookup
  simp only [call, answer, aliasOf, hcontact, hplatform, run_bind]
  cases (library.resolver.run s).1 <;> rfl

/-- Aliases that are not there yet are asked for, and what is told is recorded. -/
theorem resolver_recorded_of_none (record : List AliasOutcome) (library : FilterLibrary σ)
    {s : FilterState σ} (haliases : s.aliases = none) :
    library.recorded.resolver.run (s.recorded record) =
      ((library.resolver.run s).1,
        (library.resolver.run s).2.recorded
          (record ++ [(library.repository.aliases.run s.repository).1])) := by
  obtain ⟨repository, aliases, warnings⟩ := s
  subst haliases
  rw [FilterState.recorded, resolver_run_of_none, resolver_run_of_none]
  rfl

/-! ## Requests one after another -/

/-- A call of a filter, with its arguments by position or by name. -/
inductive Request where
  | positional (filter : Filter) (subject : Value) (args : List Value)
  | named (filter : Filter) (subject : Json) (args : Fields)

/-- What a request gives: a value, or JSON if the arguments were given by name. -/
abbrev Reply := Except FilterError Value ⊕ Except FilterError Json

namespace Request

def reply (library : FilterLibrary σ) : Request → Session σ Reply
  | positional filter subject args => return .inl (← library.call filter subject args)
  | named filter subject args => return .inr (← library.callNamed filter subject args)

/-- The reply with a value. -/
def found (value : Value) : Request → Reply
  | positional .. => .inl (.ok value)
  | named .. => .inr (.ok value.toJson)

/-- What a request looks up; with a name that is none of the filter's it looks up nothing. -/
def lookup? : Request → Option Lookup
  | positional filter subject args => FilterLibrary.lookup? filter subject args
  | named filter subject args =>
    if (unknownNames filter args).isEmpty then FilterLibrary.lookup? filter (Value.ofJson subject) (placed filter args)
    else none

theorem mirrors_reply (record : List AliasOutcome) (known : Option (Option AliasResolver))
    (library : FilterLibrary σ) {request : Request} (hlookup : request.lookup? = none) :
    Mirrors (Alongside record known) (request.reply library.recorded) (request.reply library) := by
  cases request with
  | positional filter subject args =>
      exact (mirrors_call_of_no_lookup record known library hlookup).bind fun _ => mirrors_pure _ _
  | named filter subject args =>
      refine Mirrors.bind (mirrors_callNamed_of_call (by rfl) fun given hgiven => ?_) fun _ => mirrors_pure _ _
      obtain ⟨hknown, rfl⟩ := positional_eq_ok_iff.1 hgiven
      rw [lookup?, if_pos (List.isEmpty_iff.2 hknown)] at hlookup
      exact mirrors_call_of_no_lookup record known library hlookup

theorem reply_run_of_lookup (library : FilterLibrary σ) {request : Request} {lookup : Lookup}
    (hlookup : request.lookup? = some lookup) (s : FilterState σ) :
    (request.reply library).run s =
      (request.found (lookup.answer (library.resolver.run s).1), (library.resolver.run s).2) := by
  cases request with
  | positional filter subject args =>
      rw [reply, run_bind, call_run_of_lookup library hlookup]
      rfl
  | named filter subject args =>
      obtain ⟨hknown, hcall⟩ := Option.ite_none_right_eq_some.1 hlookup
      have hgiven := positional_of_known library.traversal (List.isEmpty_iff.1 hknown)
      simp only [reply, callNamed, hgiven, run_bind, call_run_of_lookup library hcall]
      rfl

end Request

/-- A request, and what becomes of the repository by other means before it. -/
structure Turn (σ : Type) where
  request : Request
  meanwhile : σ → σ

/-- The same turn over the recorded repository. -/
def Turn.recorded (turn : Turn σ) : Turn (σ × List AliasOutcome) where
  request := turn.request
  meanwhile := fun s => (turn.meanwhile s.1, s.2)

def Turn.reply (library : FilterLibrary σ) (turn : Turn σ) : Session σ Reply := do
  modify fun s => { s with repository := turn.meanwhile s.repository }
  turn.request.reply library

/-- The replies to the requests of some turns. -/
def replies (library : FilterLibrary σ) : List (Turn σ) → Session σ (List Reply)
  | [] => pure []
  | turn :: turns => return (← turn.reply library) :: (← replies library turns)

section Told

variable (library : FilterLibrary σ) (record : List AliasOutcome)

/-- The aliases after some outcomes were told: those that were known before, or else what is kept of the
first outcome. -/
def knownAfter (known : Option (Option AliasResolver)) (told : List AliasOutcome) :
    Option (Option AliasResolver) :=
  known.or (told.head?.map kept)

theorem knownAfter_append (known : Option (Option AliasResolver)) (told later : List AliasOutcome) :
    knownAfter (knownAfter known told) later = knownAfter known (told ++ later) := by
  rw [knownAfter, knownAfter, knownAfter, Option.or_assoc, List.head?_append, Option.map_or]

theorem isNone_knownAfter (known : Option (Option AliasResolver)) (told : List AliasOutcome) :
    (knownAfter known told).isNone = (known.isNone && told.isEmpty) := by
  cases known with
  | some resolver => rfl
  | none => cases told <;> rfl

/-- If outcomes are told at most once and only while there are none, so are those of a longer run. -/
theorem length_append_of_counts {told later : List AliasOutcome} {unknown finds finds' : Bool}
    (hcount : told.length = if unknown && finds then 1 else 0)
    (hcount' : later.length = if (unknown && told.isEmpty) && finds' then 1 else 0) :
    (told ++ later).length = if unknown && (finds || finds') then 1 else 0 := by
  rw [List.length_append]
  cases unknown with
  | false =>
      rw [hcount, hcount']
      rfl
  | true =>
      cases finds with
      | false =>
          obtain rfl := List.length_eq_zero_iff.1 hcount
          simpa using hcount'
      | true =>
          obtain ⟨outcome, rfl⟩ := List.length_eq_one_iff.1 hcount
          simpa using hcount'

/-- One reply: over the recorded repository it is the same, and the aliases were asked for exactly if a
contact was looked up and they were not known yet. -/
theorem Turn.reply_recorded (turn : Turn σ) (s : FilterState σ) :
    ∃ told, (turn.recorded.reply library.recorded).run (s.recorded record) =
        (((turn.reply library).run s).1, ((turn.reply library).run s).2.recorded (record ++ told)) ∧
      told.length = (if s.aliases.isNone && turn.request.lookup?.isSome then 1 else 0) ∧
      ((turn.reply library).run s).2.aliases = knownAfter s.aliases told ∧
      ∀ lookup, turn.request.lookup? = some lookup →
        ∃ known, knownAfter s.aliases told = some known ∧
          ((turn.reply library).run s).1 = turn.request.found (lookup.answer known) := by
  obtain ⟨repository, aliases, warnings⟩ := s
  have hplain : (turn.reply library).run ⟨repository, aliases, warnings⟩ =
      (turn.request.reply library).run ⟨turn.meanwhile repository, aliases, warnings⟩ := rfl
  have hrecorded : (turn.recorded.reply library.recorded).run
      (FilterState.recorded record ⟨repository, aliases, warnings⟩) =
        (turn.request.reply library.recorded).run
          (FilterState.recorded record ⟨turn.meanwhile repository, aliases, warnings⟩) := rfl
  rw [hplain, hrecorded]
  cases hlookup : turn.request.lookup? with
  | none =>
      obtain ⟨hanswer, hstate, haliases⟩ := Request.mirrors_reply record aliases library hlookup _
        ⟨turn.meanwhile repository, aliases, warnings⟩ ⟨rfl, rfl⟩
      refine ⟨[], ?_, by simp, by simpa [knownAfter] using haliases, by simp⟩
      rw [List.append_nil, ← hanswer, ← hstate]
      rfl
  | some lookup =>
      rw [Request.reply_run_of_lookup library hlookup, Request.reply_run_of_lookup library.recorded hlookup]
      cases aliases with
      | some known =>
          have hkept : library.recorded.resolver.run
              (FilterState.recorded record ⟨turn.meanwhile repository, some known, warnings⟩) = _ :=
            resolver_run_of_some rfl
          rw [hkept, resolver_run_of_some rfl]
          refine ⟨[], by rw [List.append_nil], by simp, by simp [knownAfter], ?_⟩
          rintro _ ⟨⟩
          exact ⟨known, rfl, rfl⟩
      | none =>
          rw [resolver_recorded_of_none record library rfl, resolver_run_of_none]
          refine ⟨[(library.repository.aliases.run (turn.meanwhile repository)).1], rfl, by simp, rfl, ?_⟩
          rintro _ ⟨⟩
          exact ⟨_, rfl, rfl⟩

theorem replies_run_cons (turn : Turn σ) (turns : List (Turn σ)) (s : FilterState σ) :
    (library.replies (turn :: turns)).run s =
      (((turn.reply library).run s).1 :: ((library.replies turns).run ((turn.reply library).run s).2).1,
        ((library.replies turns).run ((turn.reply library).run s).2).2) := rfl

/-- **Aliases are asked for once.**  Whatever the requests are, and whatever becomes of the repository
between them, a library over the recorded repository replies as it does over the repository itself, and one
answer is recorded if the library had no aliases and some request looked up a contact, and none
otherwise.  Each request that looks up a contact is answered from the aliases that the library had, or else
from what is kept of that one answer, be it a failure or that there are no aliases. -/
theorem aliases_askedOnce (turns : List (Turn σ)) (s : FilterState σ) :
    ∃ told, (library.recorded.replies (turns.map Turn.recorded)).run (s.recorded record) =
        (((library.replies turns).run s).1, ((library.replies turns).run s).2.recorded (record ++ told)) ∧
      told.length =
        (if s.aliases.isNone && turns.any fun turn => turn.request.lookup?.isSome then 1 else 0) ∧
      ∀ (i : Nat) (turn : Turn σ) (lookup : Lookup), turns[i]? = some turn →
        turn.request.lookup? = some lookup →
          ∃ known, knownAfter s.aliases told = some known ∧
            ((library.replies turns).run s).1[i]? = some (turn.request.found (lookup.answer known)) := by
  -- The aliases that are known after a turn are those with which the next one begins.
  induction turns generalizing s record with
  | nil => exact ⟨[], by rw [List.append_nil]; rfl, by simp, by simp⟩
  | cons turn turns ih =>
      obtain ⟨told, hfirst, hcount, hafter, hanswer⟩ := turn.reply_recorded library record s
      obtain ⟨later, hrest, hcount', hanswer'⟩ := ih (record ++ told) ((turn.reply library).run s).2
      rw [hafter] at hcount' hanswer'
      refine ⟨told ++ later, ?_, ?_, fun i asked lookup hasked hlookup => ?_⟩
      · rw [List.map_cons, replies_run_cons, replies_run_cons, hfirst, hrest, List.append_assoc]
      · rw [isNone_knownAfter] at hcount'
        exact length_append_of_counts hcount hcount'
      · rw [← knownAfter_append, replies_run_cons]
        cases i with
        | zero =>
            obtain rfl := Option.some.inj hasked
            obtain ⟨known, hknown, hreply⟩ := hanswer lookup hlookup
            exact ⟨known, by rw [hknown]; rfl, congrArg some hreply⟩
        | succ i => exact hanswer' i asked lookup hasked hlookup

end Told

/-- A repository that cannot tell its aliases at first, and can later. -/
def fickle : Repository Nat :=
  let ada : Person := ⟨"Ada", "ada@example.org", [], [("forge", "ada")]⟩
  { Store.repository {} with
    aliases := fun asked =>
      (if asked = 0 then .error (.pipe .zeroByte) else .ok (some (AliasMap.mk [ada]).resolver), asked + 1) }

def fickleLibrary : FilterLibrary Nat where
  toCircumstances := Environment.calm
  repository := fickle
  notesRef := none
  dates := ⟨DateFormat.standard, Environment.standard_valid⟩

/-- A call for what is no contact, and two for one that is. -/
def contactTurns : List (Turn Nat) :=
  [⟨.positional .aliasOf (.string "Ada") [], id⟩,
    ⟨.positional .aliasOf (.string "Ada <ada@example.org>") [], id⟩,
    ⟨.named .aliasOf (.string "Ada <ada@example.org>") [("platform", .string "forge")], id⟩]

theorem aliases_askedOnce_fickle :
    ∃ told, ((fickleLibrary.recorded.replies (contactTurns.map Turn.recorded)).run
        (FilterState.recorded [] { repository := 0 })).2.repository = (1, told) ∧
      told.length = 1 ∧
      ((fickleLibrary.replies contactTurns).run { repository := 0 }).1[2]? = some (.inr (.ok .null)) := by
  obtain ⟨told, hrun, hcount, hanswer⟩ := aliases_askedOnce fickleLibrary [] contactTurns { repository := 0 }
  have htold : told = [.error (.pipe .zeroByte)] := by
    have hrecord := congrArg (fun result => result.2.repository.2) hrun
    exact hrecord.symm
  subst htold
  obtain ⟨known, hknown, hreply⟩ := hanswer 2 _ ⟨"Ada", "ada@example.org", some "forge"⟩ rfl rfl
  obtain rfl := Option.some.inj hknown
  exact ⟨_, by rw [hrun]; rfl, hcount, hreply⟩

end FilterLibrary

end ReleasePress
