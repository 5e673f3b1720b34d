import ReleasePress.Git.Error
import ReleasePress.Git.Object
import ReleasePress.Json.Basic
import ReleasePress.Text.Digit

/-!
# Raw objects

Git stores a commit or a tag as header lines, an empty line and a message.  A header line is a key, a
space and a value; lines that start with a space go on with the value before and are passed over.

## Main declarations

* `Git.Signature.ofRaw`: an identity with its time, as header lines hold it.
* `Git.Commit.ofRaw`, `Git.Tag.ofRaw`: the object with an id and its raw text.
-/

namespace ReleasePress.Git

open ReleasePress.Text

/-- What follows the name in a signature: email, seconds with their sign, sign and digits of the
offset.  The digits may be of any script. -/
structure SignatureTail where
  email : List Char
  negative : Bool
  seconds : List Char
  west : Bool
  hours : List Char
  minutes : List Char

namespace SignatureTail

/-- The seconds and the offset after the email. -/
def ofTime? (email text : List Char) : Option SignatureTail :=
  let gap := text.takeWhile isBlank
  let text := text.dropWhile isBlank
  let (negative, text) := match text with
    | '-' :: text => (true, text)
    | text => (false, text)
  let seconds := text.takeWhile isDecimalDigit
  let text := text.dropWhile isDecimalDigit
  let gap' := text.takeWhile isBlank
  if gap.isEmpty || seconds.isEmpty || gap'.isEmpty then none
  else
    match text.dropWhile isBlank with
    | sign :: a :: b :: c :: d :: [] =>
      if (sign = '+' || sign = '-') && [a, b, c, d].all isDecimalDigit then
        some { email, negative, seconds, west := sign = '-', hours := [a, b], minutes := [c, d] }
      else none
    | _ => none

/-- The tail that starts with the email between angle brackets. -/
def ofText? : List Char → Option SignatureTail
  | '<' :: text =>
    match text.dropWhile (· ≠ '>') with
    | '>' :: rest => ofTime? (text.takeWhile (· ≠ '>')) rest
    | _ => none
  | _ => none

/-- The shortest name that leaves blanks and a tail, which must be on its line. -/
def split? : List Char → Option (List Char × SignatureTail)
  | [] => none
  | c :: text =>
    match ofText? ((c :: text).dropWhile isBlank) with
    | some tail => some ([], tail)
    | none =>
      if c = '\n' then none else (split? text).map fun (name, tail) => (c :: name, tail)

/-- The seconds, whose digits must be those of ASCII and fit 64 bits with the sign. -/
def seconds? (tail : SignatureTail) : Option Int :=
  let size : Int := digitsValue tail.seconds
  let seconds := if tail.negative then -size else size
  if tail.seconds.all isDigit && Json.isSigned64 seconds then some seconds else none

/-- The number of two digits, which is zero unless both are digits of ASCII. -/
def pair (digits : List Char) : Nat :=
  if digits.all isDigit then digitsValue digits else 0

/-- The size of the offset in seconds. -/
def offsetSize (tail : SignatureTail) : Nat :=
  pair tail.hours * 3600 + pair tail.minutes * 60

end SignatureTail

/-- The signature of a header line. -/
def Signature.ofRaw (raw : String) : Except RepositoryError Signature :=
  match SignatureTail.split? (trim raw.toList) with
  | none => .error (.parse (.invalidSignature raw))
  | some (name, tail) =>
    match tail.seconds? with
    | none => .error (.parse (.invalidTimestamp raw))
    | some seconds =>
      let east : Int := tail.offsetSize
      if east ≥ 86400 then .error (.parse (.invalidTimezone raw))
      else
        match Moment.ofSeconds? seconds with
        | none => .error (.parse (.timestampOutOfRange raw))
        | some m =>
          let offset := if tail.west then -east else east
          .ok ⟨String.ofList name, String.ofList tail.email, m.withOffset offset⟩

/-- The header lines of a raw object as keys and values, and its message. -/
def splitRaw (raw : List Char) : List (List Char × List Char) × List Char :=
  let (header, message) := (cutAt? ['\n', '\n'] raw).getD (raw, [])
  let fields := ((lines header).filter fun line => line.head? ≠ some ' ').filterMap (cutAt? [' '])
  (fields, message)

/-- What the header lines of a commit give. -/
structure CommitHeader where
  tree : Option ObjectId := none
  /-- The parents so far, last one first. -/
  parents : List ObjectId := []
  author : Option Signature := none
  committer : Option Signature := none

namespace CommitHeader

/-- Takes in a header line.  Of a key that is repeated the last value counts, but every parent does. -/
def add (header : CommitHeader) (field : List Char × List Char) :
    Except RepositoryError CommitHeader := do
  let value := String.ofList field.2
  match String.ofList field.1 with
  | "tree" => return { header with tree := some (← ObjectId.ofText value) }
  | "parent" => return { header with parents := (← ObjectId.ofText value) :: header.parents }
  | "author" => return { header with author := some (← Signature.ofRaw value) }
  | "committer" => return { header with committer := some (← Signature.ofRaw value) }
  | _ => return header

end CommitHeader

/-- The first line of a message. -/
def firstLine (message : List Char) : List Char :=
  ((lines message).head?).getD []

/-- The commit of a raw text. -/
def Commit.ofRaw (oid : ObjectId) (raw : String) : Except RepositoryError Commit := do
  let (fields, message) := splitRaw raw.toList
  let header ← fields.foldlM CommitHeader.add {}
  match header.author, header.committer with
  | none, _ => .error (.parse (.missingField .commit oid "author"))
  | _, none => .error (.parse (.missingField .commit oid "committer"))
  | some author, some committer =>
    return { oid, tree := header.tree, parents := header.parents.reverse, author, committer
             summary := String.ofList (firstLine message), message := String.ofList message }

/-- What the header lines of a tag give. -/
structure TagHeader where
  target : Option ObjectId := none
  kind : Option ObjectKind := none
  name : Option String := none
  tagger : Option Signature := none

/-- Takes in a header line; of a key that is repeated the last value counts. -/
def TagHeader.add (header : TagHeader) (field : List Char × List Char) :
    Except RepositoryError TagHeader := do
  let value := String.ofList field.2
  match String.ofList field.1 with
  | "object" => return { header with target := some (← ObjectId.ofText value) }
  | "type" => return { header with kind := some (← ObjectKind.ofText value) }
  | "tag" => return { header with name := some value }
  | "tagger" => return { header with tagger := some (← Signature.ofRaw value) }
  | _ => return header

/-- The tag of a raw text. -/
def Tag.ofRaw (oid : ObjectId) (raw : String) : Except RepositoryError Tag := do
  let (fields, message) := splitRaw raw.toList
  let header ← fields.foldlM TagHeader.add {}
  match header.target, header.kind, header.name with
  | none, _, _ => .error (.parse (.missingField .tag oid "object"))
  | _, none, _ => .error (.parse (.missingField .tag oid "type"))
  | _, _, none => .error (.parse (.missingField .tag oid "name"))
  | some target, some kind, some name =>
    return { oid, name, target := ⟨target, kind⟩, tagger := header.tagger
             message := String.ofList message }

end ReleasePress.Git
