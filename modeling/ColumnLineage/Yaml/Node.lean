import ColumnLineage.Yaml.Lexer

/-!
# Nodes

The tokens of a document make up a tree of scalars, sequences and mappings.  An alias stands for
the node that has the anchor of its name.

## Main definitions

* `Node`: a node.
* `Composer`: what remains of the tokens, with the anchors that were met.
* `Compose.node`: the node that stands here.
* `Node.ofText`: the node of a text that holds one document.
-/

namespace ColumnLineage.Yaml

/-- A node, with its tag. -/
inductive Node where
  | scalar (tag : Option String) (style : Style) (text : String)
  | sequence (tag : Option String) (items : List Node)
  | mapping (tag : Option String) (entries : List (Node × Node))
deriving Inhabited, Repr

/-- What remains of the tokens, with what was met in front. -/
structure Composer where
  rest : List Token
  /-- What the handles stand for. -/
  handles : List (String × String) := []
  /-- The nodes that have anchors, the last one first. -/
  anchors : List (String × Node) := []

/-- A reader of nodes. -/
abbrev Compose := StateT Composer (Except Fault)

namespace Compose

/-- Fails unless a condition holds. -/
def ensure (condition : Bool) (fault : Fault) : Compose Unit :=
  if condition then pure () else throw fault

/-- The next token. -/
def peek : Compose (Option Token) := fun s => .ok (s.rest.head?, s)

/-- Drops the next token. -/
def skip : Compose Unit :=
  modify fun s => { s with rest := s.rest.tail }

/-- The next token is one of some tokens. -/
def isAt (some : List Token) : Compose Bool := do
  return (← peek).any some.contains

/-- Takes a token, if it stands here. -/
def accept (t : Token) : Compose Bool := do
  if (← peek) == some t then
    skip
    return true
  return false

/-- Repeats a step until it gives nothing. -/
def iterateWithin {σ : Type} (step : σ → Compose (Option σ)) : Nat → σ → Compose σ
  | 0, s => return s
  | fuel + 1, s => do
    match ← step s with
    | some s => iterateWithin step fuel s
    | none => return s

/-- Repeats a step until it gives nothing.  A step that gives something takes a token. -/
def iterate {σ : Type} (start : σ) (step : σ → Compose (Option σ)) : Compose σ := fun s =>
  iterateWithin step (s.rest.length + 1) start s

/-- What a handle stands for, unless the document says something else. -/
def usualHandles : List (String × String) :=
  [("!", "!"), ("!!", "tag:yaml.org,2002:")]

/-- A tag in full. -/
def resolveTag (t : Tag) : Compose String := do
  if t.handle.isEmpty then return t.suffix
  match ((← get).handles ++ usualHandles).lookup t.handle with
  | some start => return start ++ t.suffix
  | none => throw .unknownTagHandle

/-- An anchor, if one stands here. -/
def anchorHere : Compose (Option String) := do
  match ← peek with
  | some (.anchor name) =>
    skip
    return some name
  | _ => return none

/-- A tag, if one stands here. -/
def tagHere : Compose (Option String) := do
  match ← peek with
  | some (.tag t) =>
    skip
    return some (← resolveTag t)
  | _ => return none

/-- The anchor and the tag of a node, in either order. -/
def properties : Compose (Option String × Option String) := do
  match ← anchorHere with
  | some name => return (some name, ← tagHere)
  | none =>
    match ← tagHere with
    | some tag => return (← anchorHere, some tag)
    | none => return (none, none)

/-- A scalar without text. -/
def empty : Node := .scalar none .plain ""

/-- Where a node stands. -/
inductive Position where
  /-- Between brackets. -/
  | flow
  | block
  /-- A value of a block mapping, whose sequences need no indentation. -/
  | blockValue
deriving DecidableEq, Repr

/-- A node, unless one of some tokens stands here instead of it. -/
def orEmpty (instead : List Token) (node : Compose Node) : Compose Node := do
  if ← isAt instead then return empty
  node

/-- The elements of a block sequence. -/
def blockItems (node : Compose Node) : Compose (List Node) := do
  let items ← iterate ([] : List Node) fun items => do
    if ← accept .blockEntry then
      return some (items ++ [← orEmpty [.blockEntry, .blockEnd] node])
    return none
  ensure (← accept .blockEnd) .noEntry
  return items

/-- The elements of a block sequence that is not indented. -/
def plainItems (node : Compose Node) : Compose (List Node) :=
  iterate ([] : List Node) fun items => do
    if ← accept .blockEntry then
      return some (items ++ [← orEmpty [.blockEntry, .key, .value, .blockEnd] node])
    return none

/-- The entries of a block mapping. -/
def blockEntries (node : Compose Node) : Compose (List (Node × Node)) := do
  let part := orEmpty [.key, .value, .blockEnd] node
  let entries ← iterate ([] : List (Node × Node)) fun entries => do
    if ← accept .key then
      let key ← part
      let value ← if ← accept .value then part else pure empty
      return some (entries ++ [(key, value)])
    return none
  ensure (← accept .blockEnd) .noKey
  return entries

/-- The elements of a list between brackets, up to the one that ends it. -/
def flowList {α : Type} (closing : Token) (fault : Fault) (element : Compose α) :
    Compose (List α) := do
  let (items, _) ← iterate (([] : List α), false) fun (items, ended) => do
    if ended then return none
    if ← accept closing then return some (items, true)
    if !items.isEmpty then
      ensure (← accept .flowEntry) fault
      if ← accept closing then return some (items, true)
    return some (items ++ [← element], false)
  return items

/-- An entry of a flow, whose key may stand alone. -/
def flowPair (closing : Token) (node : Compose Node) : Compose (Node × Node) := do
  if ← accept .key then
    let key ← orEmpty [.value, .flowEntry, closing] node
    let value ← if ← accept .value then orEmpty [.flowEntry, closing] node else pure empty
    return (key, value)
  return (← node, empty)

/-- An element of a flow sequence, where a single pair is a mapping. -/
def flowItem (node : Compose Node) : Compose Node := do
  if ← isAt [.key] then
    return .mapping none [← flowPair .flowSequenceEnd node]
  node

/-- The content of a node behind its properties; a node with properties may be empty. -/
def content (tag : Option String) (hasProperties : Bool) (position : Position)
    (node : Position → Compose Node) : Compose Node := do
  match ← peek with
  | some (.scalar style text) =>
    skip
    return .scalar (if tag == some "!" then none else tag) style text
  | some .flowSequenceStart =>
    skip
    return .sequence tag
      (← flowList .flowSequenceEnd .noFlowSequenceEnd (flowItem (node .flow)))
  | some .flowMappingStart =>
    skip
    return .mapping tag
      (← flowList .flowMappingEnd .noFlowMappingEnd (flowPair .flowMappingEnd (node .flow)))
  | next =>
    if position == .blockValue && next == some .blockEntry then
      return .sequence tag (← plainItems (node .block))
    else if position != .flow && next == some .blockSequenceStart then
      skip
      return .sequence tag (← blockItems (node .block))
    else if position != .flow && next == some .blockMappingStart then
      skip
      return .mapping tag (← blockEntries (node .blockValue))
    else
      ensure hasProperties .noContent
      return .scalar tag .plain ""

/-- The node that stands here, which nests at most to some depth. -/
def nodeWithin : Nat → Position → Compose Node
  | 0, _ => throw .tooDeep
  | fuel + 1, position => do
    match ← peek with
    | some (.aliasOf name) =>
      skip
      match (← get).anchors.lookup name with
      | some node => return node
      | none => throw .unknownAnchor
    | _ =>
      let (anchor, tag) ← properties
      let node ← content tag (anchor.isSome || tag.isSome) position (nodeWithin fuel)
      match anchor with
      | some name => modify fun s => { s with anchors := (name, node) :: s.anchors }
      | none => pure ()
      return node

/-- The node that stands here. -/
def node : Compose Node := fun s =>
  nodeWithin (s.rest.length + 1) .block s

/-- Takes the directives in front of a document.  A version and a handle are given once. -/
def directives : Compose Unit := do
  let _ ← iterate false fun versioned => do
    match ← peek with
    | some (.version major minor) =>
      ensure (!versioned) .repeatedDirective
      ensure (major == 1 && (minor == 1 || minor == 2)) .badVersion
      skip
      return some true
    | some (.handle name start) =>
      ensure (((← get).handles.lookup name).isNone) .repeatedDirective
      modify fun s => { s with handles := (name, start) :: s.handles }
      skip
      return some versioned
    | _ => return none

/-- A document that starts with directives or with its mark, and may be empty. -/
def markedDocument : Compose Node := do
  directives
  ensure (← accept .documentStart) .noDocumentStart
  match ← peek with
  | none | some .documentStart | some .documentEnd | some (.version ..) | some (.handle ..) =>
    return empty
  | _ => node

/-- The only document, if there is one. -/
def document : Compose (Option Node) := do
  match ← peek with
  | none => return none
  | some next =>
    let found ← match next with
      | .documentStart | .version .. | .handle .. => markedDocument
      | _ => node
    let _ ← iterate () fun () => do
      return if ← accept .documentEnd then some () else none
    ensure (← peek).isNone .manyDocuments
    return found

end Compose

/-- The node of a text that holds at most one document. -/
def Node.ofText (text : String) : Except Fault (Option Node) := do
  return (← Compose.document.run { rest := ← tokens text }).1

end ColumnLineage.Yaml
