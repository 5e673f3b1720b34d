import ReleasePress.Proofs.Filter.Contact

/-!
# Canonical identities

An alias map finds the first person who owns an email, and only then the first one of a name
(`AliasMap.find?_eq_some_iff`).  An identity is a contact again: its name and email are cut where they were joined, and
its email is owned by the person it was written for (`Contact.split?_join`, `AliasMap.find?_email`).  So if
nobody else lists that email, the person is found again, whatever became of the name by trimming, and `alias`
answers for the identity as for the contact that it came from.
-/

namespace ReleasePress

open ReleasePress.Text

/-! ## People and their emails -/

/-- An email is one of the person's, the primary or another one, in any ASCII case. -/
def Person.Owns (email : String) (person : Person) : Prop :=
  ∃ known ∈ person.email :: person.emails, sameUpToCase known email = true

theorem Person.hasEmail_iff {email : String} {person : Person} : person.hasEmail email = true ↔ person.Owns email := by
  simp [hasEmail, Owns]

theorem sameUpToCase_iff {a b : String} : sameUpToCase a b = true ↔ lowerAscii a = lowerAscii b := by
  simp [sameUpToCase]

theorem Person.owns_email (person : Person) : person.Owns person.email :=
  ⟨person.email, List.mem_cons_self, sameUpToCase_iff.2 rfl⟩

namespace AliasMap

variable {aliases : AliasMap} {person : Person}

/-- The first person of a map with a property. -/
def IsFirst (aliases : AliasMap) (p : Person → Prop) (person : Person) : Prop :=
  ∃ before after, aliases.people = before ++ person :: after ∧ p person ∧ ∀ other ∈ before, ¬ p other

theorem find?_people_iff {test : Person → Bool} :
    aliases.people.find? test = some person ↔ aliases.IsFirst (fun other => test other = true) person := by
  rw [List.find?_eq_some_iff_append]
  constructor
  · rintro ⟨htest, before, after, hpeople, hbefore⟩
    exact ⟨before, after, hpeople, htest, by simpa using hbefore⟩
  · rintro ⟨before, after, hpeople, htest, hbefore⟩
    exact ⟨htest, before, after, hpeople, by simpa using hbefore⟩

/-- The email decides, and the name only if nobody owns it. -/
theorem find?_eq_some_iff {name email : String} :
    aliases.find? name email = some person ↔
      aliases.IsFirst (Person.Owns email) person ∨
        (∀ other ∈ aliases.people, ¬ other.Owns email) ∧ aliases.IsFirst (fun other => other.name = name) person := by
  rw [find?, Option.or_eq_some_iff, find?_people_iff, find?_people_iff, List.find?_eq_none]
  simp only [Person.hasEmail_iff, beq_iff_eq]

theorem find?_of_sameUpToCase {name email email' : String} (hcase : sameUpToCase email email' = true) :
    aliases.find? name email' = aliases.find? name email := by
  rw [sameUpToCase_iff] at hcase
  have htest : Person.hasEmail email' = Person.hasEmail email := by
    funext person
    simp only [Person.hasEmail, sameUpToCase, hcase]
  rw [find?, find?, htest]

/-- No email is listed for two people, in any ASCII case. -/
def ListsOnce (aliases : AliasMap) : Prop :=
  ∀ person ∈ aliases.people, ∀ other ∈ aliases.people,
    ∀ known ∈ person.email :: person.emails, ∀ known' ∈ other.email :: other.emails,
      sameUpToCase known known' = true → person = other

/-- No name and no primary email has the beginning of an email in it. -/
def HasPlainIdentities (aliases : AliasMap) : Prop :=
  ∀ person ∈ aliases.people, ¬ [' ', '<'] <:+: person.name.toList ∧ ¬ [' ', '<'] <:+: person.email.toList

/-- An email that is listed once has one owner. -/
theorem ListsOnce.eq_of_owns (hlists : aliases.ListsOnce) {other : Person} {email : String}
    (hperson : person ∈ aliases.people) (hother : other ∈ aliases.people) (howns : person.Owns email)
    (howns' : other.Owns email) : person = other := by
  obtain ⟨known, hknown, hcase⟩ := howns
  obtain ⟨known', hknown', hcase'⟩ := howns'
  apply hlists person hperson other hother known hknown known' hknown'
  rw [sameUpToCase_iff] at hcase hcase' ⊢
  exact hcase.trans hcase'.symm

theorem mem_people_of_find? {name email : String} (hfind : aliases.find? name email = some person) :
    person ∈ aliases.people := by
  have hmem : ∀ p, aliases.IsFirst p person → person ∈ aliases.people := by
    rintro p ⟨before, after, hpeople, -⟩
    rw [hpeople]
    exact List.mem_append_cons_self
  rcases find?_eq_some_iff.1 hfind with hfirst | ⟨-, hfirst⟩
  · exact hmem _ hfirst
  · exact hmem _ hfirst

/-- A person is found by the primary email. -/
theorem find?_email (hlists : aliases.ListsOnce) (hperson : person ∈ aliases.people) (name : String) :
    aliases.find? name person.email = some person := by
  rw [find?]
  cases hfind : aliases.people.find? (Person.hasEmail person.email) with
  | none =>
      have hnone := List.find?_eq_none.1 hfind person hperson
      exact absurd (Person.hasEmail_iff.2 person.owns_email) hnone
  | some other =>
      have howns : other.Owns person.email := Person.hasEmail_iff.1 (List.find?_some hfind)
      have hother : other ∈ aliases.people := List.mem_of_find?_eq_some hfind
      rw [Option.some_or, hlists.eq_of_owns hother hperson howns person.owns_email]

end AliasMap

namespace FilterLibrary

variable {σ : Type} {library : FilterLibrary σ} {aliases : AliasMap} {s : FilterState σ}

/-- The library looks contacts up in this map, whether it has it already or gets it from the repository. -/
def LooksUpIn (library : FilterLibrary σ) (aliases : AliasMap) (s : FilterState σ) : Prop :=
  (library.resolver.run s).1 = some aliases.resolver

/-- What `alias` answers for a contact. -/
def aliasAnswer (library : FilterLibrary σ) (contact : String) (args : List Value) (s : FilterState σ) :
    Except FilterError Value :=
  ((library.call .aliasOf (.string contact) args).run s).1

/-- An answer of `alias` depends on the person alone. -/
theorem answer_resolver (aliases : AliasMap) (name email : String) (platform : Option String) :
    Lookup.answer (some aliases.resolver) ⟨name, email, platform⟩ =
      Value.ofOption .string ((aliases.find? name email).bind fun person =>
        match platform with
        | some platform => person.platforms.lookup platform
        | none => some person.identity) := by
  cases platform with
  | none => simp [Lookup.answer, AliasMap.resolver, Option.map_eq_bind]
  | some platform => simp [Lookup.answer, AliasMap.resolver]

/-- A call of `alias` on a text: it is refused and changes nothing, or it looks up the contact. -/
theorem call_aliasOf_run (library : FilterLibrary σ) (contact : String) (args : List Value) (s : FilterState σ) :
    (library.call .aliasOf (.string contact) args).run s =
      match Contact.split? contact, platformOf args with
      | none, _ => (.error ⟨.aliasOf, .contactWanted⟩, s)
      | some _, .error misuse => (.error ⟨.aliasOf, misuse⟩, s)
      | some (name, email), .ok platform =>
        (.ok (Lookup.answer (library.resolver.run s).1 ⟨name, email, platform⟩), (library.resolver.run s).2) := by
  have hsubject : (Value.string contact).str?.bind Contact.split? = Contact.split? contact := rfl
  cases hcontact : Contact.split? contact with
  | none =>
      simp only [call, answer, aliasOf, hsubject, hcontact, run_bind]
      rfl
  | some parts =>
      cases hplatform : platformOf args with
      | error misuse =>
          simp only [call, answer, aliasOf, hsubject, hcontact, hplatform, run_bind]
          rfl
      | ok platform =>
          have hlookup : lookup? .aliasOf (.string contact) args = some ⟨parts.1, parts.2, platform⟩ :=
            lookup?_eq_some_iff.2 ⟨rfl, hcontact, hplatform⟩
          exact call_run_of_lookup library hlookup s

theorem aliasAnswer_eq (hlooks : library.LooksUpIn aliases s) {contact name email : String}
    (hcontact : Contact.split? contact = some (name, email)) (args : List Value) :
    library.aliasAnswer contact args s =
      match platformOf args with
      | .ok platform => .ok (Lookup.answer (some aliases.resolver) ⟨name, email, platform⟩)
      | .error misuse => .error ⟨.aliasOf, misuse⟩ := by
  rw [aliasAnswer, call_aliasOf_run, hcontact]
  cases platformOf args with
  | error misuse => rfl
  | ok platform =>
      dsimp only
      rw [hlooks]

/-- The aliases are the same once they have been asked for. -/
theorem resolver_run_again (library : FilterLibrary σ) (s : FilterState σ) :
    (library.resolver.run (library.resolver.run s).2).1 = (library.resolver.run s).1 := by
  obtain ⟨repository, known, warnings⟩ := s
  cases known with
  | some known => rw [resolver_run_of_some rfl, resolver_run_of_some rfl]
  | none =>
      rw [resolver_run_of_none]
      exact congrArg Prod.fst (resolver_run_of_some rfl)

/-- A library that looks up a contact in a map looks the next one up in it, too. -/
theorem LooksUpIn.after_call (hlooks : library.LooksUpIn aliases s) (contact : String) (args : List Value) :
    library.LooksUpIn aliases ((library.call .aliasOf (.string contact) args).run s).2 := by
  rw [call_aliasOf_run]
  split
  · exact hlooks
  · exact hlooks
  · exact (library.resolver_run_again s).trans hlooks

/-- The identity that `alias` answers is that of the person who is found. -/
theorem exists_person_of_aliasAnswer (hlooks : library.LooksUpIn aliases s) {contact identity : String}
    {args : List Value} (hargs : platformOf args = .ok none)
    (hanswer : library.aliasAnswer contact args s = .ok (.string identity)) :
    ∃ name email person, Contact.split? contact = some (name, email) ∧
      aliases.find? name email = some person ∧ person.identity = identity := by
  cases hcontact : Contact.split? contact with
  | none =>
      rw [aliasAnswer, call_aliasOf_run, hcontact] at hanswer
      cases hanswer
  | some parts =>
      obtain ⟨name, email⟩ := parts
      rw [aliasAnswer_eq hlooks hcontact, hargs] at hanswer
      dsimp only at hanswer
      rw [answer_resolver] at hanswer
      cases hfind : aliases.find? name email with
      | none =>
          rw [hfind] at hanswer
          cases hanswer
      | some person =>
          rw [hfind] at hanswer
          exact ⟨name, email, person, rfl, hfind, Value.string.inj (Except.ok.inj hanswer)⟩

/-- The identity finds whom the contact has found. -/
theorem aliasAnswer_identity (hlists : aliases.ListsOnce) (hplain : aliases.HasPlainIdentities) {s' : FilterState σ}
    (hlooks : library.LooksUpIn aliases s) (hlooks' : library.LooksUpIn aliases s') {contact name email : String}
    {person : Person} (hcontact : Contact.split? contact = some (name, email))
    (hfind : aliases.find? name email = some person) (args : List Value) :
    library.aliasAnswer person.identity args s' = library.aliasAnswer contact args s := by
  have hperson := AliasMap.mem_people_of_find? hfind
  have hidentity : Contact.split? person.identity = some (trimmed person.name, person.email) :=
    Contact.split?_join (hplain person hperson).1 (hplain person hperson).2
  have hagain := AliasMap.find?_email hlists hperson (trimmed person.name)
  rw [aliasAnswer_eq hlooks' hidentity, aliasAnswer_eq hlooks hcontact]
  simp only [answer_resolver, hagain, hfind]

/-- **Identities are canonical.**  In every alias map the first person who owns an email is found, whatever the name
and the case of its letters, and only if nobody owns it the first person of exactly that name.  If no email is
listed for two people, and no name and no primary email could be taken for a contact, an identity that `alias`
answers for a contact is its own identity, and whatever the arguments, so also for each platform, `alias` answers
the same for both. -/
theorem aliasAnswer_canonical (aliases : AliasMap) :
    (∀ name email person, aliases.find? name email = some person ↔
      aliases.IsFirst (Person.Owns email) person ∨
        (∀ other ∈ aliases.people, ¬ other.Owns email) ∧ aliases.IsFirst (fun other => other.name = name) person) ∧
    (∀ name email email', sameUpToCase email email' = true →
      aliases.find? name email' = aliases.find? name email) ∧
    (aliases.ListsOnce → aliases.HasPlainIdentities → ∀ {σ : Type} (library : FilterLibrary σ) (s s' : FilterState σ),
      library.LooksUpIn aliases s → library.LooksUpIn aliases s' →
      ∀ contact identity bare, platformOf bare = .ok none →
        library.aliasAnswer contact bare s = .ok (.string identity) →
          library.aliasAnswer identity bare s' = .ok (.string identity) ∧
          ∀ args, library.aliasAnswer identity args s' = library.aliasAnswer contact args s) := by
  refine ⟨fun name email person => AliasMap.find?_eq_some_iff,
    fun name email email' => AliasMap.find?_of_sameUpToCase, ?_⟩
  intro hlists hplain σ library s s' hlooks hlooks' contact identity bare hbare hanswer
  obtain ⟨name, email, person, hcontact, hfind, rfl⟩ := exists_person_of_aliasAnswer hlooks hbare hanswer
  have hsame := aliasAnswer_identity hlists hplain hlooks hlooks' hcontact hfind
  exact ⟨(hsame bare).trans hanswer, hsame⟩

/-- Two people, one of them with an email of old. -/
def team : AliasMap where
  people :=
    [⟨"Ada", "ada@example.org", ["Ada@Home.example"], [("forge", "ada")]⟩, ⟨"Ben Bo ", "ben@example.org", [], []⟩]

/-- The team's aliases are known. -/
def knowingTeam : FilterState Nat where
  repository := 0
  aliases := some (some team.resolver)

/-- A contact with an email of old, in letters of another case. -/
def oldContact : String := "A. L. <ada@HOME.example>"

theorem aliasAnswer_canonical_old :
    fickleLibrary.aliasAnswer oldContact [] knowingTeam = .ok (.string "Ada <ada@example.org>") ∧
      let next := ((fickleLibrary.call .aliasOf (.string oldContact) []).run knowingTeam).2
      fickleLibrary.aliasAnswer "Ada <ada@example.org>" [] next = .ok (.string "Ada <ada@example.org>") ∧
        fickleLibrary.aliasAnswer "Ada <ada@example.org>" [.string "forge"] next = .ok (.string "ada") := by
  have hlooks : fickleLibrary.LooksUpIn team knowingTeam := rfl
  have hcontact : Contact.split? oldContact = some ("A. L.", "ada@HOME.example") := by decide
  have hanswer : fickleLibrary.aliasAnswer oldContact [] knowingTeam = .ok (.string "Ada <ada@example.org>") := by
    rw [aliasAnswer_eq hlooks hcontact]
    rfl
  have hforge : fickleLibrary.aliasAnswer oldContact [.string "forge"] knowingTeam = .ok (.string "ada") := by
    rw [aliasAnswer_eq hlooks hcontact]
    rfl
  have hlists : team.ListsOnce := by
    unfold AliasMap.ListsOnce
    decide
  have hplain : team.HasPlainIdentities := by
    unfold AliasMap.HasPlainIdentities
    decide
  obtain ⟨-, -, hcanonical⟩ := aliasAnswer_canonical team
  obtain ⟨hidentity, hsame⟩ := hcanonical hlists hplain fickleLibrary knowingTeam _ hlooks
    (hlooks.after_call oldContact []) oldContact _ [] rfl hanswer
  exact ⟨hanswer, hidentity, (hsame [.string "forge"]).trans hforge⟩

end FilterLibrary

end ReleasePress
