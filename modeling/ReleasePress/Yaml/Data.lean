import ReleasePress.Alias
import ReleasePress.Decimal.Reader
import ReleasePress.Json.Basic
import ReleasePress.Yaml.Node

/-!
# YAML documents as data

A document becomes JSON data or an alias map.  Plain scalars without a tag are null, booleans, integers,
floats or text by their spelling.  Collections are nested at most 128 deep, and the number of aliases
followed is limited by the size of the document.

## Main declarations

* `Yaml.plainData?`: the data of a plain scalar.
* `Yaml.parse?`: the JSON data of a text.
* `Yaml.aliasMap?`: the alias map of a text.
-/

namespace ReleasePress.Yaml

open ReleasePress.Text

/-- The digits of an integer in a base, with an optional sign before them. -/
def inBase? (base : Nat) (digits : List Char) : Option Int :=
  let magnitude? (digits : List Char) : Option Nat :=
    if digits.isEmpty then none
    else digits.foldlM (fun n c => ((hexValue? c).filter (· < base)).map (n * base + ·)) 0
  match digits with
  | '-' :: digits => (magnitude? digits).map fun n => -(n : Int)
  | '+' :: digits => (magnitude? digits).map Int.ofNat
  | digits => (magnitude? digits).map Int.ofNat

/-- A text that starts with a sign. -/
def hasSign (text : List Char) : Bool :=
  text.head?.any fun c => c = '+' || c = '-'

/-- The base that the two characters after an optional sign announce. -/
def basePrefix? : List Char → Option (Nat × List Char)
  | '0' :: 'x' :: digits => some (16, digits)
  | '0' :: 'o' :: digits => some (8, digits)
  | '0' :: 'b' :: digits => some (2, digits)
  | _ => none

/-- Digits after a leading zero, which are text and no number. -/
def isZeroPadded (text : List Char) : Bool :=
  match (if hasSign text then text.drop 1 else text) with
  | '0' :: digits => !digits.isEmpty && digits.all isDigit
  | _ => false

/-- The integer that a plain scalar spells, in base ten or in an announced base. -/
def integer? (text : List Char) : Option Int :=
  let unsigned := if text.head? = some '+' then text.drop 1 else text
  if text.head? = some '+' && hasSign unsigned then none
  else
    match text, basePrefix? unsigned with
    | _, some (base, digits) => if hasSign digits then none else inBase? base digits
    | '-' :: rest, none =>
      match basePrefix? rest with
      | some (base, digits) => if hasSign digits then none else inBase? base ('-' :: digits)
      | none => if isZeroPadded text then none else inBase? 10 text
    | _, none => if isZeroPadded text then none else inBase? 10 unsigned

/-- An integer as data.  One of up to 128 bits that fits 64 neither with nor without a sign is refused;
a larger one is none. -/
def integerData? (text : List Char) : Option (Option Json) :=
  match integer? text with
  | none => none
  | some n =>
    if Json.isUnsigned64 n || Json.isSigned64 n then some (some (.int n))
    else if -(Nat.pow 2 127) ≤ n && n < Nat.pow 2 128 then some none
    else none

/-- The float that a plain scalar spells. -/
def float? (text : List Char) : Option Float :=
  let unsigned := if text.head? = some '+' then text.drop 1 else text
  if text.head? = some '+' && hasSign unsigned then none
  else if [".inf", ".Inf", ".INF"].contains (String.ofList unsigned) then some (1.0 / 0.0)
  else if ["-.inf", "-.Inf", "-.INF"].contains (String.ofList text) then some (-1.0 / 0.0)
  else if [".nan", ".NaN", ".NAN"].contains (String.ofList text) then some (0.0 / 0.0)
  else (Numeral.float? (String.ofList unsigned)).filter Float.isFinite

def isNull (text : List Char) : Bool :=
  ["null", "Null", "NULL", "~"].contains (String.ofList text)

def bool? (text : List Char) : Option Bool :=
  let text := String.ofList text
  if ["true", "True", "TRUE"].contains text then some true
  else if ["false", "False", "FALSE"].contains text then some false
  else none

/-- The data of a plain scalar, which may be refused. -/
def plainData? (text : List Char) : Option Json :=
  if text.isEmpty || isNull text then some .null
  else
    match bool? text with
    | some b => some (.bool b)
    | none =>
      match integerData? text with
      | some data => data
      | none =>
        match (if isZeroPadded text then none else float? text) with
        | some x => some (Json.ofFloat x)
        | none => some (.string (String.ofList text))

/-- The data of a scalar.  The standard tags demand a boolean, an integer, a float or null; every other
tag makes it text, except for private tags, which are refused. -/
def scalarData? (tag : Option (List Char)) (text : List Char) (plain : Bool) : Option Json :=
  match tag with
  | none => if plain then plainData? text else some (.string (String.ofList text))
  | some ('!' :: _) => none
  | some tag =>
    match String.ofList tag with
    | "tag:yaml.org,2002:bool" => (bool? text).map .bool
    | "tag:yaml.org,2002:int" => (integerData? text).join
    | "tag:yaml.org,2002:float" => (float? text).map Json.ofFloat
    | "tag:yaml.org,2002:null" => if isNull text then some .null else none
    | _ => some (.string (String.ofList text))

/-- A tag of a collection that is not private. -/
def isOpenTag (tag : Option (List Char)) : Bool :=
  !tag.any fun tag => tag.head? = some '!'

/-- Reading of data from a document, with the number of aliases that were followed. -/
abbrev Extract (α : Type) := ReaderT Document (StateT Nat Option) α

namespace Extract

/-- Refuses the data. -/
def fail {α : Type} : Extract α :=
  fun _ _ => none

/-- What was read, unless it was refused. -/
def ofOption {α : Type} : Option α → Extract α
  | some a => pure a
  | none => fail

/-- The node itself, or the node that an alias stands for. -/
def resolve (node : Node) : Extract Node :=
  match node with
  | .reference id => do
    let followed := (← get) + 1
    set followed
    let document ← read
    if followed > document.size * 100 then fail
    else ofOption (document.anchored.lookup id)
  | node => pure node

/-- The text of a scalar of any kind. -/
def text (node : Node) : Extract String := do
  match ← resolve node with
  | .scalar _ text _ => pure (String.ofList text)
  | _ => fail

/-- The data of a node, with collections nested at most `depth` deep. -/
def json : Nat → Node → Extract Json
  | 0, node => do
    match ← resolve node with
    | .scalar tag text plain => ofOption (scalarData? tag text plain)
    | _ => fail
  | depth + 1, node => do
    match ← resolve node with
    | .scalar tag text plain => ofOption (scalarData? tag text plain)
    | .sequence tag items =>
      if isOpenTag tag then return .array (← items.mapM (json depth)) else fail
    | .mapping tag entries =>
      if isOpenTag tag then
        return Json.objectOf (← entries.mapM fun (key, value) => do
          let name ← text key
          return (name, ← json depth value))
      else fail
    | .reference _ => fail

/-- The items of a sequence; nothing at all is a sequence without items. -/
def items (node : Node) : Extract (List Node) := do
  match ← resolve node with
  | .sequence _ items => pure items
  | .scalar _ [] true => pure []
  | _ => fail

/-- The entries of a mapping; nothing at all is a mapping without entries. -/
def entries (node : Node) : Extract (List (Node × Node)) := do
  match ← resolve node with
  | .mapping _ entries => pure entries
  | .scalar _ [] true => pure []
  | _ => fail

/-- The entries of a mapping with their names as texts.  Each of the known names occurs at most once. -/
def fields (known : List String) (node : Node) : Extract (List (String × Node)) := do
  let fields ← (← entries node).mapM fun (key, value) => do return (← text key, value)
  if known.all fun name => (fields.filter fun field => field.1 == name).length ≤ 1 then pure fields
  else fail

/-- Inserts a name in the order of names; one that is there gets the new value. -/
def insertSorted (name value : String) : List (String × String) → List (String × String)
  | [] => [(name, value)]
  | (other, old) :: rest =>
    if name = other then (name, value) :: rest
    else if name < other then (name, value) :: (other, old) :: rest
    else (other, old) :: insertSorted name value rest

/-- A person of an alias map. -/
def person (node : Node) : Extract Person := do
  let fields ← fields ["name", "email", "emails", "platforms"] node
  let name ← text (← ofOption (fields.lookup "name"))
  let email ← text (← ofOption (fields.lookup "email"))
  let emails ← match fields.lookup "emails" with
    | some node => do (← items node).mapM text
    | none => pure []
  let platforms ← match fields.lookup "platforms" with
    | some node => do
      let pairs ← (← entries node).mapM fun (key, value) => do return (← text key, ← text value)
      pure (pairs.foldl (fun sorted (name, handle) => insertSorted name handle sorted) [])
    | none => pure []
  pure { name, email, emails, platforms }

/-- What a document holds, or what no document at all stands for. -/
def ofText? {α : Type} (read : Node → Extract α) (nothing : α) (text : String) : Option α := do
  let document ← Document.ofText? text
  match document.root with
  | none => some nothing
  | some root => ((read root).run document |>.run 0).map (·.1)

end Extract

/-- The data of the only document of a text. -/
def parse? (text : String) : Option Json :=
  Extract.ofText? (Extract.json 128) .null text

/-- The alias map of a text: a list of people.  A blank text lists nobody. -/
def aliasMap? (text : String) : Option AliasMap :=
  if (trimmed text).isEmpty then some ⟨[]⟩
  else
    Extract.ofText? (fun root => do return ⟨← (← Extract.items root).mapM Extract.person⟩) ⟨[]⟩ text

end ReleasePress.Yaml
