import ReleasePress.Calendar.Moment
import ReleasePress.Json.Basic

/-!
# Circumstances

Some answers depend on more than the arguments, the files and the repository of a run: on the clock, on chance, on the
variables of the process, and on what other people's code leaves open.  A run finds all of this as it is
(`Circumstances`), and to the end of the run it stays so.

## Main declarations

* `Traversal`: an order in which to go through named arguments.
* `Circumstances`: what a run finds.
-/

namespace ReleasePress

/-- An order in which named arguments are gone through, each of them once.  It may be another one for other
arguments, as in a table that scatters its keys. -/
structure Traversal where
  order : Fields → Fields
  perm : ∀ arguments, (order arguments).Perm arguments

/-- The arguments as they are written. -/
def Traversal.asWritten : Traversal where
  order := id
  perm := .refl

/-- What a run finds besides its arguments, its files and its repository. -/
structure Circumstances where
  /-- The present. -/
  now : Moment
  /-- The offset of the local clock in seconds. -/
  zone : Int
  /-- Which of `n` equally likely elements chance picks.  Draws are held fixed: of as many elements chance picks the
  same one each time, in one run as in another that it is compared with. -/
  chance : Nat → Nat
  /-- The values of the variables of the process. -/
  variableOf : String → Option String
  /-- How the arguments of a call are gone through. -/
  traversal : Traversal
  /-- What is said about a text that is no document, given the name of its page and the text: the messages from the
  outside to the inside. -/
  complaints : String → String → List String

end ReleasePress
