import DfaTable.Yaml.Tag
import DfaTable.Yaml.Tokens

/-!
# DfaTable.Yaml.Node

The nodes of a YAML document and how tokens are put together to them. A document is a graph: an
alias is the very node that has its anchor, so that a node may stand at several places and even
inside itself.
-/

namespace DfaTable.Yaml

/-- How the tag of a node is given: not at all, left open on purpose, or in full. -/
inductive TagGiven where
  | missing
  | open
  | full (t : Tag)
deriving DecidableEq, Repr

/-- The number of a node in its document. -/
abbrev NodeId := Nat

inductive Node where
  | scalar (tag : Tag) (text : WideText)
  | sequence (tag : Tag) (items : List NodeId)
  | mapping (tag : Tag) (entries : List (NodeId × NodeId))
deriving Repr

structure Document where
  nodes : Array Node
  root : NodeId

/-- The state of putting tokens together. -/
structure Assembly where
  tokens : List Token
  handles : List (Text × Text)
  anchors : List (Text × NodeId) := []
  nodes : Array Node := #[]
  /-- How many nodes are not read to their ends yet. -/
  depth : Nat := 0

/-- How many nodes may lie in one another before the calls run out of space. A run may stand a few
more or less, which depends on what is in the innermost node. -/
def nestingLimit : Nat := 480

abbrev Assemble := StateT Assembly (Except Failure)

namespace Assemble

def fail {α : Type} : Assemble α := throw .malformed

/-- The next token; none at the end. -/
def peek : Assemble (Option Token) := do
  match (← get).tokens with
  | [] => return none
  | .broken f :: _ => throw f
  | t :: _ => return some t

def drop : Assemble Unit := modify fun a => { a with tokens := a.tokens.tail }

/-- Whether the next token satisfies `p`. -/
def next (p : Token → Bool) : Assemble Bool := return (← peek).any p

/-- A new node. -/
def add (n : Node) : Assemble NodeId := do
  let id := (← get).nodes.size
  modify fun a => { a with nodes := a.nodes.push n }
  return id

/-- Gives a node what is in it. -/
def replace (id : NodeId) (n : Node) : Assemble Unit :=
  modify fun a => { a with nodes := a.nodes.setIfInBounds id n }

/-- Reads what is in a node, which may not lie too deep. -/
def within {α : Type} (read : Assemble α) : Assemble α := do
  if (← get).depth = nestingLimit then throw (.fault .endless)
  modify fun a => { a with depth := a.depth + 1 }
  let inside ← read
  modify fun a => { a with depth := a.depth - 1 }
  return inside

/-- Takes the next token if it satisfies `p`. -/
def take (p : Token → Bool) : Assemble Bool := do
  let found ← next p
  if found then drop
  return found

end Assemble

open Assemble

def Token.isKey : Token → Bool
  | .key => true
  | _ => false

def Token.isValue : Token → Bool
  | .value => true
  | _ => false

def Token.isBlockEnd : Token → Bool
  | .blockEnd => true
  | _ => false

def Token.isBlockEntry : Token → Bool
  | .blockEntry => true
  | _ => false

def Token.isFlowEntry : Token → Bool
  | .flowEntry => true
  | _ => false

def Token.isFlowSequenceEnd : Token → Bool
  | .flowSequenceEnd => true
  | _ => false

def Token.isFlowMappingEnd : Token → Bool
  | .flowMappingEnd => true
  | _ => false

def Token.isDocumentStart : Token → Bool
  | .documentStart => true
  | _ => false

def Token.isDocumentEnd : Token → Bool
  | .documentEnd => true
  | _ => false

def Token.isDirective : Token → Bool
  | .directive _ => true
  | _ => false

def emptyNode : Assemble NodeId := add (.scalar .null [])

/-- The anchor and the tag before a node, in either order. -/
def properties : Assemble (Option Text × Option TagText) := do
  match ← peek with
  | some (.anchor name) =>
    drop
    match ← peek with
    | some (.tag t) => drop; return (some name, some t)
    | _ => return (some name, none)
  | some (.tag t) =>
    drop
    match ← peek with
    | some (.anchor name) => drop; return (some name, some t)
    | _ => return (none, some t)
  | _ => return (none, none)

def resolveTag : Option TagText → Assemble TagGiven
  | none => return .missing
  | some ⟨none, suffix⟩ => return ofFull suffix
  | some ⟨some handle, suffix⟩ => do
    match (← get).handles.lookup handle with
    | some start => return ofFull (start ++ suffix)
    | none => fail
where
  ofFull (t : Text) : TagGiven := if t = ['!'] then .open else .full (.ofText t)

def TagGiven.orElse (given : TagGiven) (usual : Tag) : Tag :=
  match given with
  | .full t => t
  | _ => usual

/-- Lets an anchor name a node. -/
def Assemble.setAnchor (name : Option Text) (id : NodeId) : Assemble Unit :=
  match name with
  | none => return ()
  | some name => modify fun s => { s with anchors := (name, id) :: s.anchors }

/-- A new node with its anchor. -/
def anchored (anchor : Option Text) (n : Node) : Assemble NodeId := do
  let id ← add n
  setAnchor anchor id
  return id

/-- The tag of a scalar: only an untagged plain one, or one left open, is told by its text. -/
def scalarTag (given : TagGiven) (isPlain : Bool) (t : WideText) : Tag :=
  match given with
  | .missing => if isPlain then .ofPlain t.shape else .text
  | .open => .ofPlain t.shape
  | .full tag => tag

mutual

/-- Reads a node. Blocks may start only where `inBlock` holds, and entries without a block of
their own only where `indentless` holds. A node can be named as soon as it begins. -/
def readNode (inBlock indentless : Bool) : Nat → Assemble NodeId
  | 0 => fail
  | fuel + 1 => do
    match ← peek with
    | some (.alias name) =>
      drop
      match (← get).anchors.lookup name with
      | none => fail
      | some id => return id
    | _ =>
      let (anchor, tag) ← properties
      let given ← resolveTag tag
      let content ← peek
      if let some name := anchor then
        if ((← get).anchors.lookup name).isSome then fail
      let sequence (read : Assemble (List NodeId)) : Assemble NodeId := do
        let tag := given.orElse .sequence
        let id ← anchored anchor (.sequence tag [])
        replace id (.sequence tag (← within read))
        return id
      let mapping (read : Assemble (List (NodeId × NodeId))) : Assemble NodeId := do
        let tag := given.orElse .mapping
        let id ← anchored anchor (.mapping tag [])
        replace id (.mapping tag (← within read))
        return id
      let empty : Assemble NodeId :=
        if anchor.isSome || tag.isSome then anchored anchor (.scalar (given.orElse .null) [])
        else fail
      match content with
      | some .blockEntry => if indentless then sequence (readIndentless fuel) else empty
      | some (.scalar t isPlain) =>
        drop
        anchored anchor (.scalar (scalarTag given isPlain t) t)
      | some .flowSequenceStart =>
        drop
        sequence (readFlowItems true fuel)
      | some .flowMappingStart =>
        drop
        mapping (readFlowEntries true fuel)
      | some .blockSequenceStart =>
        if inBlock then
          drop
          sequence (readBlockItems fuel)
        else empty
      | some .blockMappingStart =>
        if inBlock then
          drop
          mapping (readBlockEntries fuel)
        else empty
      | _ => empty

/-- The items of a block sequence, up to its end. -/
def readBlockItems : Nat → Assemble (List NodeId)
  | 0 => fail
  | fuel + 1 => do
    if ← take Token.isBlockEntry then
      let n ←
        if ← next fun t => t.isBlockEntry || t.isBlockEnd then emptyNode
        else readNode true false fuel
      return n :: (← readBlockItems fuel)
    else if ← take Token.isBlockEnd then return []
    else fail

/-- The items of a sequence that is not indented deeper than the mapping around it. -/
def readIndentless : Nat → Assemble (List NodeId)
  | 0 => fail
  | fuel + 1 => do
    if ← take Token.isBlockEntry then
      let n ←
        if ← next fun t => t.isBlockEntry || t.isKey || t.isValue || t.isBlockEnd then
          emptyNode
        else readNode true false fuel
      return n :: (← readIndentless fuel)
    else return []

/-- The node behind a key or value mark in a block; it may be missing. -/
def readPart : Nat → Assemble NodeId
  | 0 => fail
  | fuel + 1 => do
    if ← next fun t => t.isKey || t.isValue || t.isBlockEnd then emptyNode
    else readNode true true fuel

def readBlockEntries : Nat → Assemble (List (NodeId × NodeId))
  | 0 => fail
  | fuel + 1 => do
    if ← take Token.isKey then
      let k ← readPart fuel
      let v ← if ← take Token.isValue then readPart fuel else emptyNode
      return (k, v) :: (← readBlockEntries fuel)
    else if ← take Token.isBlockEnd then return []
    else fail

/-- The node behind a key or value mark in a flow collection; it may be missing. -/
def readFlowPart (ends : Token → Bool) : Nat → Assemble NodeId
  | 0 => fail
  | fuel + 1 => do
    if ← next fun t => t.isFlowEntry || ends t then emptyNode
    else readNode false false fuel

/-- The value of an entry in a flow collection; both the value and its mark may be missing. -/
def readFlowValue (ends : Token → Bool) : Nat → Assemble NodeId
  | 0 => fail
  | fuel + 1 => do
    if ← take Token.isValue then readFlowPart ends fuel else emptyNode

/-- The items of a flow sequence, up to its end; an entry with a key is a mapping of its own. -/
def readFlowItems (isFirst : Bool) : Nat → Assemble (List NodeId)
  | 0 => fail
  | fuel + 1 => do
    if ← take Token.isFlowSequenceEnd then return []
    if !isFirst then
      if !(← take Token.isFlowEntry) then fail
    if ← take Token.isKey then
      let k ← readFlowPart (fun t => t.isValue || t.isFlowSequenceEnd) fuel
      let v ← readFlowValue Token.isFlowSequenceEnd fuel
      let id ← add (.mapping .mapping [(k, v)])
      return id :: (← readFlowItems false fuel)
    else if ← take Token.isFlowSequenceEnd then return []
    else
      let n ← readNode false false fuel
      return n :: (← readFlowItems false fuel)

def readFlowEntries (isFirst : Bool) : Nat → Assemble (List (NodeId × NodeId))
  | 0 => fail
  | fuel + 1 => do
    if ← take Token.isFlowMappingEnd then return []
    if !isFirst then
      if !(← take Token.isFlowEntry) then fail
    if ← take Token.isKey then
      let k ← readFlowPart (fun t => t.isValue || t.isFlowMappingEnd) fuel
      let v ← readFlowValue Token.isFlowMappingEnd fuel
      return (k, v) :: (← readFlowEntries false fuel)
    else if ← take Token.isFlowMappingEnd then return []
    else
      let k ← readNode false false fuel
      return (k, ← emptyNode) :: (← readFlowEntries false fuel)

end

/-- The handles that are known without a directive. -/
def usualHandles : List (Text × Text) := [(['!'], ['!']), (['!', '!'], tagRoot)]

/-- What the directives before a document say. -/
structure Directives where
  hasVersion : Bool := false
  handles : List (Text × Text) := []

def readDirectives : Nat → Directives → Assemble Directives
  | 0, d => return d
  | fuel + 1, d => do
    match ← peek with
    | some (.directive (.version major)) =>
      drop
      if d.hasVersion || major != 1 then fail
      readDirectives fuel { d with hasVersion := true }
    | some (.directive (.handle handle start)) =>
      drop
      if (d.handles.lookup handle).isSome then fail
      readDirectives fuel { d with handles := (handle, start) :: d.handles }
    | some (.directive .other) =>
      drop
      readDirectives fuel d
    | _ => return d

def skipDocumentEnds : Nat → Assemble Unit
  | 0 => return ()
  | fuel + 1 => do
    if ← take Token.isDocumentEnd then skipDocumentEnds fuel

/-- Reads up to the end behind a document; of a further one only the directives are looked at. -/
def endDocument (fuel : Nat) : Assemble Unit := do
  skipDocumentEnds fuel
  if (← peek).isSome then
    let _ ← readDirectives fuel {}
    fail

/-- Reads the only document of a text; there may be none. -/
def readDocument (fuel : Nat) : Assemble (Option NodeId) := do
  let startsOpen ← next fun t => !(t.isDirective || t.isDocumentStart)
  if startsOpen then
    let id ← readNode true false fuel
    endDocument fuel
    return some id
  else if (← peek).isNone then return none
  else
    let d ← readDirectives fuel {}
    if !(← take Token.isDocumentStart) then fail
    modify fun a => { a with handles := d.handles ++ usualHandles }
    let isEmpty := (← peek).all fun t => t.isDirective || t.isDocumentStart || t.isDocumentEnd
    let id ← if isEmpty then emptyNode else readNode true false fuel
    endDocument fuel
    return some id

/-- The document that tokens describe. -/
def Document.ofTokens? (tokens : List Token) : Except Failure (Option Document) := do
  let a : Assembly := { tokens, handles := usualHandles }
  let (root, a) ← (readDocument (8 * tokens.length + 16)).run a
  return root.map fun root => { nodes := a.nodes, root }

end DfaTable.Yaml
