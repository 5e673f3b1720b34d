import ReleasePress.Markdown.Inline

/-!
# Emphasis

Runs of `*`, `_` and `~` open and close emphasis.  A closing run is matched with the nearest opening run of
its kind; two marks of a run make strong emphasis and one makes plain emphasis.  Marks that are left over stand
for themselves.

## Main declarations

* `Run`: a run of marks, with what it can do.
* `Run.ofNeighbours`: what a run can do between two characters.
* `Piece`: content or a run.
* `settle`: the content of pieces, with all emphasis made.
-/

namespace ReleasePress.Markdown

open ReleasePress.Text

/-- A run of equal marks. -/
structure Run where
  mark : Char
  /-- How many marks are left of it. -/
  count : Nat
  /-- How many marks it had. -/
  length : Nat
  canOpen : Bool
  canClose : Bool
  deriving DecidableEq, Repr

/-- Content, or a run that may become emphasis. -/
inductive Piece where
  | content (inline : Inline)
  | run (marks : Run)
  deriving Repr

/-- Whether a run with `inner` at the one and `outer` at the other side leans on `inner`. -/
def leansOn (inner outer : Char) : Bool :=
  !isBlank inner && (!isPunctuation inner || isBlank outer || isPunctuation outer)

/-- A run between two characters.  It opens if it leans on what follows and closes if it leans on what is
before it; inside a word, `_` does neither. -/
def Run.ofNeighbours (mark : Char) (count : Nat) (before after : Char) : Run :=
  let left := leansOn after before
  let right := leansOn before after
  if mark = '_' then
    ⟨mark, count, count, left && (!right || isPunctuation before),
      right && (!left || isPunctuation after)⟩
  else ⟨mark, count, count, left, right⟩

/-- The marks of a run as text. -/
def Run.text (run : Run) : Inline :=
  .text (List.replicate run.count run.mark)

/-- A piece as content. -/
def Piece.inline : Piece → Inline
  | .content inline => inline
  | .run marks => marks.text

/-- Whether two runs match.  If one of them could do both, the sum of their lengths may be a multiple of three
only if both lengths are. -/
def Run.matches (opener closer : Run) : Bool :=
  opener.canOpen && opener.mark = closer.mark &&
    !((closer.canOpen || opener.canClose) && (opener.length + closer.length) % 3 = 0 &&
      !(opener.length % 3 = 0 && closer.length % 3 = 0))

/-- The nearest matching run before `closer`, with the pieces after it and the pieces before it, which are
given last first. -/
def opener? (closer : Run) (between : List Inline) :
    List Piece → Option (List Inline × Run × List Piece)
  | [] => none
  | .run marks :: before =>
    if marks.matches closer then some (between, marks, before)
    else opener? closer (marks.text :: between) before
  | .content inline :: before => opener? closer (inline :: between) before

/-- A run with fewer marks, or nothing if none is left. -/
def Run.shortened (run : Run) (n : Nat) : List Piece :=
  if run.count ≤ n then [] else [.run { run with count := run.count - n }]

/-- What a matched pair of runs makes, and of how many marks of each.  A pair of `~` is made of whole runs of one
length, or of nothing. -/
def stressOf? (opener closer : Run) : Option (Stress × Nat) :=
  let marks := if opener.count ≥ 2 && closer.count ≥ 2 then 2 else 1
  if closer.mark = '~' then
    if opener.count = marks && closer.count = marks then some (.strikethrough, marks) else none
  else if marks = 2 then some (.strong, 2)
  else some (.emphasis, 1)

/-- The pieces up to a closing run, last first, with the emphasis made that it closes; `none` if it meets a run
of `~` that it does not fit. -/
def close? : Nat → Run → List Piece → Option (List Piece)
  | 0, _, before => some before
  | fuel + 1, closer, before =>
    match opener? closer [] before with
    | none => some (if closer.canOpen then .run closer :: before else .content closer.text :: before)
    | some (between, opener, rest) =>
      match stressOf? opener closer with
      | none => none
      | some (stress, marks) =>
        let before := .content (.stressed stress between) :: (opener.shortened marks ++ rest)
        if closer.count ≤ marks then some before
        else close? fuel { closer with count := closer.count - marks } before

/-- The content of pieces after those before them, which are given last first.  A run of `~` that meets
one it does not fit leaves all that is open as text. -/
def settleFrom (before : List Piece) : List Piece → List Inline
  | [] => before.reverse.map Piece.inline
  | .content inline :: rest => settleFrom (.content inline :: before) rest
  | .run marks :: rest =>
    if marks.canClose then
      match close? marks.count marks before with
      | some before => settleFrom before rest
      | none => before.reverse.map Piece.inline ++ marks.text :: rest.map Piece.inline
    else settleFrom (.run marks :: before) rest

/-- The content of pieces, with all emphasis made. -/
def settle (pieces : List Piece) : List Inline :=
  settleFrom [] pieces

end ReleasePress.Markdown
