import ChallengeDns.Yaml.Scalar
/-!
# YAML nodes

The tree that the tokens of a YAML text describe.  Each node has a tag, written out or given by its
form.  An alias is the node that it names; where the node is still open, it contains itself
(`Node.loop`).

A stream holds at most one document.
-/

namespace ChallengeDns.Yaml

inductive Node where
  | scalar (tag : Tag) (text : Text)
  | sequence (tag : Tag) (items : List Node)
  | mapping (tag : Tag) (entries : List (Node × Node))
  /-- A node around this place. -/
  | loop
deriving Inhabited

namespace Node

def tag : Node → Tag
  | .scalar t _ => t
  | .sequence t _ => t
  | .mapping t _ => t
  | .loop => .unknown

/-- What stands where a node was left out. -/
def absent : Node := .scalar .null []

end Node

/-- The state of composing: the tokens that are left, the handles of tags and the nodes with
anchors, those without a node being open. -/
structure Composer where
  stream : TokenStream
  handles : List (Text × Text)
  anchors : List (Text × Option Node)

/-- Composing reads tokens and may fail. -/
abbrev Compose := StateT Composer (Except LoadError)

namespace Compose

def fail {α : Type} : Compose α := throw .malformed

def peek : Compose Token := do
  let s := (← get).stream
  match s.tokens with
  | t :: _ => return t
  | [] => throw (s.fault.getD .malformed)

def skip : Compose Unit :=
  modify fun s => { s with stream := { s.stream with tokens := s.stream.tokens.drop 1 } }

/-- Whether the next token is one of these. -/
def nextIn (ts : List Token) : Compose Bool := return ts.contains (← peek)

/-- Passes the next token if it is this one; gives whether it was. -/
def pass (t : Token) : Compose Bool := do
  if (← peek) = t then
    skip
    return true
  else return false

/-- Passes the next token, which has to be this one. -/
def expect (t : Token) : Compose Unit := do
  if ← pass t then pure () else fail

/-- The node that an alias names. -/
def aliased (name : Text) : Compose Node := do
  match (← get).anchors.find? (·.1 == name) with
  | none => fail
  | some (_, n) => return n.getD .loop

/-- A node with an anchor.  Inside of it the anchor names an open node. -/
def anchored (anchor : Option Text) (body : Compose Node) : Compose Node := do
  match anchor with
  | none => body
  | some name =>
    if (← get).anchors.any (·.1 == name) then fail
    modify fun s => { s with anchors := (name, none) :: s.anchors }
    let n ← body
    modify fun s =>
      { s with anchors := s.anchors.map fun e => if e.1 == name then (name, some n) else e }
    return n

/-- The anchor that is next, if one is. -/
def anchor? : Compose (Option Text) := do
  match ← peek with
  | .anchor name => skip; return some name
  | _ => return none

/-- The tag that is next, if one is, with its handle written out. -/
def tag? : Compose (Option Text) := do
  match ← peek with
  | .tag handle suffix =>
    skip
    match handle with
    | none => return some suffix
    | some h =>
      match (← get).handles.find? (·.1 == h) with
      | none => fail
      | some (_, leader) => return some (leader ++ suffix)
  | _ => return none

/-- Anchor and tag of a node, in either order. -/
def properties : Compose (Option Text × Option Text) := do
  match ← anchor? with
  | some a => return (some a, ← tag?)
  | none =>
    let t ← tag?
    return (← anchor?, t)

/-- The tag of a collection. -/
def collectionTag (written : Option Text) (default : Tag) : Tag :=
  match written with
  | none => default
  | some t => if t == ("!" : Text) then default else .ofText t

/-- The tag of a scalar. -/
def scalarTag (written : Option Text) (text : Text) (plain : Bool) : Tag :=
  let byForm := Tag.ofPlain (text.chars?.getD [])
  match written with
  | none => if plain then byForm else .str
  | some t => if t == ("!" : Text) then byForm else .ofText t

/-- The tag of a node that has an anchor or a tag and nothing else. -/
def emptyTag (written : Option Text) : Tag :=
  match written with
  | none => .null
  | some t => if t == ("!" : Text) then .null else .ofText t

/-- Where a node stands: in flow style, in a block, or in a block where a sequence needs no deeper
column. -/
inductive Place where
  | flow
  | block
  | indentless
deriving DecidableEq

mutual

def node : Nat → Place → Compose Node
  | 0, _ => fail
  | fuel + 1, place => do
    if let .alias name ← peek then
      skip
      return ← aliased name
    let (anchor, tag) ← properties
    let t ← peek
    -- A sequence may stand at the column of the mapping whose value it is.
    if place = .indentless ∧ t = .blockEntry then
      anchored anchor (return .sequence (collectionTag tag .seq) (← indentlessItems fuel))
    else match t with
      | .scalar text plain =>
        skip
        anchored anchor (return .scalar (scalarTag tag text plain) text)
      | .flowSequenceStart =>
        skip
        anchored anchor (return .sequence (collectionTag tag .seq) (← flowItems fuel true))
      | .flowMappingStart =>
        skip
        anchored anchor (return .mapping (collectionTag tag .map) (← flowEntries fuel true))
      | t =>
        if place ≠ .flow ∧ t = .blockSequenceStart then
          skip
          anchored anchor (return .sequence (collectionTag tag .seq) (← blockItems fuel))
        else if place ≠ .flow ∧ t = .blockMappingStart then
          skip
          anchored anchor (return .mapping (collectionTag tag .map) (← blockEntries fuel))
        -- An anchor or a tag with nothing behind it is an empty scalar.
        else if anchor.isSome ∨ tag.isSome then
          anchored anchor (return .scalar (emptyTag tag) [])
        else fail

/-- A node, or nothing before one of the given tokens. -/
def nodeUnless : Nat → Place → List Token → Compose Node
  | 0, _, _ => fail
  | fuel + 1, place, stops => do
    if ← nextIn stops then return .absent
    else node fuel place

def blockItems : Nat → Compose (List Node)
  | 0 => fail
  | fuel + 1 => do
    if ← pass .blockEntry then
      let n ← nodeUnless fuel .block [.blockEntry, .blockEnd]
      return n :: (← blockItems fuel)
    else
      expect .blockEnd
      return []

/-- The items of a sequence at the column of the mapping around it. -/
def indentlessItems : Nat → Compose (List Node)
  | 0 => fail
  | fuel + 1 => do
    if ← pass .blockEntry then
      let n ← nodeUnless fuel .block [.blockEntry, .key, .value, .blockEnd]
      return n :: (← indentlessItems fuel)
    else return []

def blockEntries : Nat → Compose (List (Node × Node))
  | 0 => fail
  | fuel + 1 => do
    if ← pass .key then
      let k ← nodeUnless fuel .indentless [.key, .value, .blockEnd]
      let v ← if ← pass .value then nodeUnless fuel .indentless [.key, .value, .blockEnd]
        else pure .absent
      return (k, v) :: (← blockEntries fuel)
    else
      expect .blockEnd
      return []

/-- The items of a sequence in flow style; a pair with a colon is a mapping of one entry. -/
def flowItems : Nat → Bool → Compose (List Node)
  | 0, _ => fail
  | fuel + 1, first => do
    if ← pass .flowSequenceEnd then return []
    if !first then expect .flowEntry
    if ← pass .key then
      let k ← nodeUnless fuel .flow [.value, .flowEntry, .flowSequenceEnd]
      let v ← if ← pass .value then nodeUnless fuel .flow [.flowEntry, .flowSequenceEnd]
        else pure .absent
      return .mapping .map [(k, v)] :: (← flowItems fuel false)
    else if ← pass .flowSequenceEnd then return []
    else
      let n ← node fuel .flow
      return n :: (← flowItems fuel false)

/-- The entries of a mapping in flow style. -/
def flowEntries : Nat → Bool → Compose (List (Node × Node))
  | 0, _ => fail
  | fuel + 1, first => do
    if ← pass .flowMappingEnd then return []
    if !first then expect .flowEntry
    if ← pass .key then
      let k ← nodeUnless fuel .flow [.value, .flowEntry, .flowMappingEnd]
      let v ← if ← pass .value then nodeUnless fuel .flow [.flowEntry, .flowMappingEnd]
        else pure .absent
      return (k, v) :: (← flowEntries fuel false)
    else if ← pass .flowMappingEnd then return []
    else
      let k ← node fuel .flow
      return (k, .absent) :: (← flowEntries fuel false)

end

/-! ### Documents -/

/-- The handles that need no directive. -/
def commonHandles : List (Text × Text) := [("!", "!"), ("!!", Tag.leader)]

/-- The directives before a document; gives the handles that they define. -/
def directives : Nat → Bool → List (Text × Text) → Compose (List (Text × Text))
  | 0, _, _ => fail
  | fuel + 1, versioned, handles => do
    match ← peek with
    | .directive d =>
      skip
      match d with
      | .version major _ =>
        if versioned || major != 1 then fail
        directives fuel true handles
      | .tagHandle handle leader =>
        if handles.any (·.1 == handle) then fail
        directives fuel versioned ((handle, leader) :: handles)
      | .other => directives fuel versioned handles
    | _ => return handles

def documentEnds : Nat → Compose Unit
  | 0 => pure ()
  | fuel + 1 => do
    if ← pass .documentEnd then documentEnds fuel

def atDirective : Compose Bool := do
  match ← peek with
  | .directive _ => return true
  | _ => return false

/-- A document with its start written out. -/
def explicitDocument (fuel : Nat) : Compose Node := do
  let handles ← directives fuel false []
  modify fun s => { s with handles := handles ++ commonHandles }
  expect .documentStart
  if (← atDirective) || (← nextIn [.documentStart, .documentEnd, .streamEnd]) then
    return .absent
  else node fuel .block

/-- The only document of a stream, if there is one. -/
def document (fuel : Nat) : Compose (Option Node) := do
  let explicitStart := (← atDirective) || (← nextIn [.documentStart, .streamEnd])
  let root ← if explicitStart then do
      documentEnds fuel
      if ← nextIn [.streamEnd] then return none
      explicitDocument fuel
    else node fuel .block
  documentEnds fuel
  expect .streamEnd
  return some root

end Compose

/-- The root of the only document of a text. -/
def Node.ofText (cs : List Char) : Except LoadError (Option Node) :=
  let stream := tokens cs
  let start : Composer := ⟨stream, Compose.commonHandles, []⟩
  ((Compose.document (4 * stream.tokens.length + 8)).run start).map (·.1)

end ChallengeDns.Yaml
