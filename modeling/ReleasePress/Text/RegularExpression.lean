import ReleasePress.Text.Blank
import ReleasePress.Text.Word

/-!
# Regular expressions

A regular expression is matched by following all of its ways through a text at once: from every place it leads to a
set of places, so no way is followed twice.

## Main declarations

* `RegularExpression`: the expressions.
* `RegularExpression.ends`: the places that an expression leads to.
* `RegularExpression.occursIn`: whether a part of a text matches.
-/

namespace ReleasePress.Text

/-- A regular expression. -/
inductive RegularExpression where
  /-- The empty text. -/
  | empty
  /-- One character out of a class. -/
  | one (accepts : Char → Bool)
  /-- No text, at a place told by the characters on both sides. -/
  | edge (holds : Option Char → Option Char → Bool)
  | followed (first second : RegularExpression)
  | either (first second : RegularExpression)
  /-- Any number of times. -/
  | repeated (body : RegularExpression)

namespace RegularExpression

/-- A place in a text. -/
structure Place where
  before : Option Char
  rest : List Char

/-- Some places of one text, each of them once. -/
def distinct (places : List Place) : List Place :=
  places.foldl (fun found place =>
    if found.any (·.rest.length == place.rest.length) then found else found ++ [place]) []

/-- All places that steps lead to from some places, after at most `rounds` rounds; `known` are those found before. -/
def reach (step : Place → List Place) : Nat → List Place → List Place → List Place
  | 0, _, known => known
  | rounds + 1, places, known =>
    let fresh := (distinct (places.flatMap step)).filter fun place =>
      !known.any (·.rest.length == place.rest.length)
    if fresh.isEmpty then known else reach step rounds fresh (known ++ fresh)

/-- The places that an expression leads to. -/
def ends : RegularExpression → Place → List Place
  | empty, place => [place]
  | one accepts, place =>
    match place.rest with
    | c :: rest => if accepts c then [⟨some c, rest⟩] else []
    | [] => []
  | edge holds, place => if holds place.before place.rest.head? then [place] else []
  | followed first second, place => distinct ((first.ends place).flatMap second.ends)
  | either first second, place => distinct (first.ends place ++ second.ends place)
  | repeated body, place => reach body.ends (place.rest.length + 1) [place] [place]

/-- Whether the expression matches some text that starts at a place or after it. -/
def occursFrom (expression : RegularExpression) (before : Option Char) : List Char → Bool
  | [] => !(expression.ends ⟨before, []⟩).isEmpty
  | c :: text =>
    !(expression.ends ⟨before, c :: text⟩).isEmpty || expression.occursFrom (some c) text

/-- Whether a part of a text matches. -/
def occursIn (text : List Char) (expression : RegularExpression) : Bool :=
  expression.occursFrom none text

/-- So many times one after another. -/
def times (body : RegularExpression) : Nat → RegularExpression
  | 0 => empty
  | n + 1 => followed body (body.times n)

/-- At most so many times one after another. -/
def atMost (body : RegularExpression) : Nat → RegularExpression
  | 0 => empty
  | n + 1 => either empty (followed body (body.atMost n))

/-- From `low` to `high` times, without a bound if there is no `high`. -/
def between (body : RegularExpression) (low : Nat) (high : Option Nat) : RegularExpression :=
  followed (body.times low) (match high with
    | some high => body.atMost (high - low)
    | none => repeated body)

/-- Whether exactly one side of a place is part of a word. -/
def isWordEdge (before after : Option Char) : Bool :=
  before.any isWordPart != after.any isWordPart

end RegularExpression

end ReleasePress.Text
