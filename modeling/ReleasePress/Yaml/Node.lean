import ReleasePress.Yaml.Tokens

/-!
# YAML nodes

The tokens of a document describe a node: a scalar, a sequence, a mapping or an alias.  Anchors are
numbered: a new name gets the count of the names before it, and a name that is used again the
count of all names.

## Main declarations

* `Yaml.Node`: the nodes.
* `Yaml.Document`: the node of a document, if it has any, with the nodes that aliases stand for.
* `Yaml.Document.ofText?`: the only document of a text.
-/

namespace ReleasePress.Yaml

/-- A node of a document. -/
inductive Node where
  | reference (id : Nat)
  | scalar (tag : Option (List Char)) (text : List Char) (plain : Bool)
  | sequence (tag : Option (List Char)) (items : List Node)
  | mapping (tag : Option (List Char)) (entries : List (Node × Node))
  deriving Inhabited

/-- The node that stands where nothing is written. -/
def Node.empty : Node :=
  .scalar none [] true

/-- A document. -/
structure Document where
  root : Option Node
  /-- The nodes of the anchors by number; of two with the same number the first one counts. -/
  anchored : List (Nat × Node)
  /-- The number of nodes, with two for a collection. -/
  size : Nat

/-- What is known while a document is read. -/
structure Reading where
  tokens : List Token
  /-- What the handles of tags stand for. -/
  handles : List (List Char × List Char)
  /-- The numbers of the names of anchors; the first entry of a name counts. -/
  names : List (List Char × Nat) := []
  /-- The number of different names. -/
  distinct : Nat := 0
  /-- The nodes of the anchors, with the place at which each of them started. -/
  anchored : List (Nat × Nat × Node) := []
  /-- The number of nodes so far. -/
  size : Nat := 0

/-- A step of reading, which may fail. -/
abbrev Step (α : Type) := StateT Reading Option α

namespace Step

/-- The next token, if there is one. -/
def peek : Step (Option Token) :=
  return (← get).tokens.head?

/-- Moves past a token. -/
def next : Step Unit :=
  modify fun r => { r with tokens := r.tokens.drop 1 }

/-- Fails. -/
def fail {α : Type} : Step α :=
  fun _ => none

/-- Moves past a token that must be there. -/
def expect (token : Token) : Step Unit := do
  if (← peek) = some token then next else fail

/-- Moves past a token if it is there. -/
def accept (token : Token) : Step Bool := do
  if (← peek) = some token then
    next
    pure true
  else pure false

/-- Counts a node. -/
def countNode : Step Unit :=
  modify fun r => { r with size := r.size + 1 }

/-- Gives an anchor its number. -/
def name (anchor : List Char) : Step Nat := do
  let r ← get
  let id := r.distinct
  let known := (r.names.lookup anchor).isSome
  set { r with
    names := (anchor, id) :: r.names, distinct := if known then r.distinct else r.distinct + 1 }
  pure id

/-- The whole tag of a handle and a suffix. -/
def wholeTag (handle suffix : List Char) : Step (List Char) := do
  if handle.isEmpty then pure suffix
  else
    match (← get).handles.lookup handle with
    | some pre => pure (pre ++ suffix)
    | none => fail

/-- The anchor and the tag in front of a node, in either order. -/
def properties : Step (Option (List Char) × Option (List Char)) := do
  match ← peek with
  | some (.anchor anchor) =>
    next
    match ← peek with
    | some (.tag handle suffix) =>
      next
      return (some anchor, some (← wholeTag handle suffix))
    | _ => return (some anchor, none)
  | some (.tag handle suffix) =>
    next
    match ← peek with
    | some (.anchor anchor) =>
      next
      return (some anchor, some (← wholeTag handle suffix))
    | _ => return (none, some (← wholeTag handle suffix))
  | _ => return (none, none)

/-- Gives a node its number, if it has an anchor, and its place, and keeps it once it is read. -/
def anchored (anchor : Option (List Char)) (node : Step Node) : Step Node := do
  let place := (← get).size
  countNode
  match anchor with
  | none => node
  | some anchor =>
    let id ← name anchor
    let node ← node
    modify fun r => { r with anchored := (id, place, node) :: r.anchored }
    pure node

/-- What may start inside a node: anything, or no collection written with indentation. -/
inductive Place where
  | block
  /-- The place of a key or a value, where items need not be indented. -/
  | entry
  | flow
  deriving DecidableEq

mutual

/-- A node. -/
def node (place : Place) : Nat → Step Node
  | 0 => fail
  | fuel + 1 => do
    match ← peek with
    | some (.reference name) =>
      next
      countNode
      match (← get).names.lookup name with
      | some id => pure (.reference id)
      | none => fail
    | _ =>
      let (anchor, tag) ← properties
      match ← peek, place with
      | some .blockEntry, .entry => anchored anchor (do pure (.sequence tag (← bareItems fuel)))
      | some (.scalar text plain), _ =>
        next
        let tag := if tag = some ['!'] then none else tag
        anchored anchor (pure (.scalar tag text plain))
      | some .flowSequenceStart, _ =>
        next
        anchored anchor (do pure (.sequence tag (← flowItems true fuel)))
      | some .flowMappingStart, _ =>
        next
        anchored anchor (do pure (.mapping tag (← flowEntries true fuel)))
      | some .blockSequenceStart, .flow => fail
      | some .blockMappingStart, .flow => fail
      | some .blockSequenceStart, _ =>
        next
        anchored anchor (do pure (.sequence tag (← blockItems fuel)))
      | some .blockMappingStart, _ =>
        next
        anchored anchor (do pure (.mapping tag (← blockEntries fuel)))
      | _, _ =>
        if anchor.isSome || tag.isSome then anchored anchor (pure (.scalar tag [] true))
        else fail

/-- A node unless one of the tokens that may follow comes first. -/
def nodeUnless (place : Place) (follow : List Token) : Nat → Step Node
  | 0 => fail
  | fuel + 1 => do
    if (← peek).any follow.contains then
      countNode
      pure .empty
    else node place fuel

/-- The items of an indented sequence. -/
def blockItems : Nat → Step (List Node)
  | 0 => fail
  | fuel + 1 => do
    if ← accept .blockEntry then
      let item ← nodeUnless .block [.blockEntry, .blockEnd] fuel
      return item :: (← blockItems fuel)
    else
      expect .blockEnd
      countNode
      pure []

/-- The items of a sequence that is not indented. -/
def bareItems : Nat → Step (List Node)
  | 0 => fail
  | fuel + 1 => do
    if ← accept .blockEntry then
      let item ← nodeUnless .block [.blockEntry, .key, .value, .blockEnd] fuel
      return item :: (← bareItems fuel)
    else
      countNode
      pure []

/-- The entries of an indented mapping. -/
def blockEntries : Nat → Step (List (Node × Node))
  | 0 => fail
  | fuel + 1 => do
    if ← accept .blockEnd then
      countNode
      pure []
    else
      expect .key
      let key ← nodeUnless .entry [.key, .value, .blockEnd] fuel
      let value ← blockValue fuel
      return (key, value) :: (← blockEntries fuel)

/-- The value of an entry of an indented mapping. -/
def blockValue : Nat → Step Node
  | 0 => fail
  | fuel + 1 => do
    if ← accept .value then nodeUnless .entry [.key, .value, .blockEnd] fuel
    else
      countNode
      pure .empty

/-- The items of a flow sequence.  An item with a key is a mapping of one entry. -/
def flowItems (first : Bool) : Nat → Step (List Node)
  | 0 => fail
  | fuel + 1 => do
    if ← accept .flowSequenceEnd then
      countNode
      pure []
    else
      if !first then expect .flowEntry
      if ← accept .flowSequenceEnd then
        countNode
        pure []
      else
        let item ← (do
          if ← accept .key then
            countNode
            let key ← singleKey fuel
            let value ← flowValue .flowSequenceEnd fuel
            countNode
            pure (.mapping none [(key, value)])
          else node .flow fuel)
        return item :: (← flowItems false fuel)

/-- The key of a mapping of one entry.  Where it is missing, the token after it is lost. -/
def singleKey : Nat → Step Node
  | 0 => fail
  | fuel + 1 => do
    if (← peek).any [Token.value, .flowEntry, .flowSequenceEnd].contains then
      next
      countNode
      pure .empty
    else node .flow fuel

/-- The value of an entry of a flow collection with the given end. -/
def flowValue (close : Token) : Nat → Step Node
  | 0 => fail
  | fuel + 1 => do
    if ← accept .value then nodeUnless .flow [.flowEntry, close] fuel
    else
      countNode
      pure .empty

/-- The entries of a flow mapping.  An entry without a key mark has no value. -/
def flowEntries (first : Bool) : Nat → Step (List (Node × Node))
  | 0 => fail
  | fuel + 1 => do
    if ← accept .flowMappingEnd then
      countNode
      pure []
    else
      if !first then expect .flowEntry
      if ← accept .flowMappingEnd then
        countNode
        pure []
      else
        let entry ← (do
          if ← accept .key then
            let key ← nodeUnless .flow [.value, .flowEntry, .flowMappingEnd] fuel
            let value ← flowValue .flowMappingEnd fuel
            pure (key, value)
          else
            let key ← node .flow fuel
            countNode
            pure (key, .empty))
        return entry :: (← flowEntries false fuel)

end

/-- Whether a token can follow the start of a document without a node. -/
def endsDocument : Option Token → Bool
  | none => true
  | some .documentStart => true
  | some .documentEnd => true
  | some (.version _ _) => true
  | some (.tagHandle _ _) => true
  | _ => false

/-- The directives in front of a document: at most one version, which must be 1.1 or 1.2, and handles
that differ. -/
def directives (version : Bool) (handles : List (List Char × List Char)) :
    Nat → Step (List (List Char × List Char))
  | 0 => fail
  | fuel + 1 => do
    match ← peek with
    | some (.version major minor) =>
      if version || major ≠ 1 || (minor ≠ 1 && minor ≠ 2) then fail
      else
        next
        directives true handles fuel
    | some (.tagHandle handle pre) =>
      if (handles.lookup handle).isSome then fail
      else
        next
        directives version ((handle, pre) :: handles) fuel
    | _ => pure handles

/-- What the handles of tags stand for unless a directive says otherwise. -/
def standardHandles : List (List Char × List Char) :=
  [(['!'], ['!']), (['!', '!'], "tag:yaml.org,2002:".toList)]

/-- The node of the only document, if it has one. -/
def document : Step (Option Node) := do
  let fuel := 4 * (← get).tokens.length + 4
  match ← peek with
  | none => pure none
  | some token =>
    let explicit := endsDocument (some token) && token ≠ .documentEnd
    if explicit then
      let handles ← directives false [] fuel
      modify fun r => { r with handles := handles ++ standardHandles }
      expect .documentStart
    let root ←
      if explicit && endsDocument (← peek) then (do
        countNode
        pure .empty)
      else node .block fuel
    let rec ends : Nat → Step Unit
      | 0 => pure ()
      | n + 1 => do if ← accept .documentEnd then ends n
    ends fuel
    if (← peek).isNone then pure (some root) else fail

end Step

/-- The only document of a text, or `none` if the text is not YAML or has several documents. -/
def Document.ofText? (text : String) : Option Document := do
  let tokens ← tokens? text.toList
  let (root, r) ← Step.document.run { tokens, handles := Step.standardHandles }
  let later (a b : Nat × Nat × Node) : Bool := a.2.1 ≥ b.2.1
  let anchored := (r.anchored.mergeSort later).map fun (id, _, node) => (id, node)
  some { root, anchored, size := r.size }

end ReleasePress.Yaml
