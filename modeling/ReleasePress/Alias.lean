import ReleasePress.Git.Repository
import ReleasePress.Text.Split

/-!
# Contributor aliases

People commit under several emails and go by different handles on other platforms.  An alias map lists
each person once and finds them by any of their emails or, failing that, by name.

## Main declarations

* `Person`: one person of an alias map.
* `AliasMap.find?`: the person of a name and an email.
* `AliasMap.resolver`: the map as a resolver.
* `Contact.split?`: name and email of `Jane Doe <jane@example.org>`.
-/

namespace ReleasePress

open ReleasePress.Text

/-- One person of an alias map. -/
structure Person where
  name : String
  /-- The email of the canonical identity. -/
  email : String
  /-- Other emails that the person has committed under. -/
  emails : List String
  /-- Handles by platform, in the order of the platforms' names. -/
  platforms : List (String × String)
  deriving DecidableEq, Repr

namespace Person

/-- Whether an email is one of the person's, in any ASCII case. -/
def hasEmail (email : String) (person : Person) : Bool :=
  sameUpToCase person.email email || person.emails.any (sameUpToCase · email)

/-- The canonical identity. -/
def identity (person : Person) : String :=
  person.name ++ " <" ++ person.email ++ ">"

end Person

/-- The people of an alias map, in order. -/
structure AliasMap where
  people : List Person
  deriving DecidableEq, Repr

namespace AliasMap

/-- The first person with the email, or else the first with exactly the name. -/
def find? (name email : String) (aliases : AliasMap) : Option Person :=
  (aliases.people.find? (Person.hasEmail email)).or
    (aliases.people.find? fun person => person.name == name)

/-- The resolver of a map. -/
def resolver (aliases : AliasMap) : AliasResolver where
  identity? name email := (aliases.find? name email).map Person.identity
  handle? name email platform :=
    (aliases.find? name email).bind fun person => person.platforms.lookup platform

end AliasMap

/-- Name and email of a contact `Name <email>`.  The email may not hold the start of another one. -/
def Contact.split? (contact : String) : Option (String × String) := do
  let (name, rest) ← cutAt? [' ', '<'] contact.toList
  let email ← dropTail? ['>'] rest
  if contains [' ', '<'] email then none
  else some (String.ofList (trim name), String.ofList email)

end ReleasePress
