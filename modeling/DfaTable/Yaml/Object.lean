import DfaTable.Value.Arrangement
import DfaTable.Yaml.Meaning
import DfaTable.Yaml.Node

/-!
# DfaTable.Yaml.Object

What the nodes of a document stand for. A node is built the first time it is met, and what is in it
is built only when all nodes met before it are done, so that a node may be part of itself. Mappings
take over the entries that they are merged with when they are filled.
-/

namespace DfaTable.Yaml

/-- What a node stands for; parts that are nodes are named by number. -/
inductive Object where
  | leaf (v : Value)
  | list (items : List NodeId)
  | pairs (items : List (NodeId × NodeId))
  | set (items : List Key)
  | map (entries : List (Key × NodeId))

/-- The objects of a document, by the numbers of their nodes. -/
structure Graph where
  objects : Array (Option Object)
  root : NodeId

/-- The state of building objects. -/
structure Build where
  nodes : Array Node
  objects : Array (Option Object)
  /-- The nodes that are not filled yet, the last one first. -/
  waiting : List NodeId := []

abbrev Builder := StateT Build (Except Failure)

namespace Builder

def refuse {α : Type} : Builder α := throw .malformed

def node (id : NodeId) : Builder Node := return ((← get).nodes[id]?).getD (.scalar .null [])

def replace (id : NodeId) (n : Node) : Builder Unit :=
  modify fun b => { b with nodes := b.nodes.setIfInBounds id n }

def setObject (id : NodeId) (o : Object) : Builder Unit :=
  modify fun b => { b with objects := b.objects.setIfInBounds id (some o) }

end Builder

open Builder

def Node.tag : Node → Tag
  | .scalar tag _ | .sequence tag _ | .mapping tag _ => tag

/-- Whether a node is a mapping. -/
def Node.isMapping : Node → Bool
  | .mapping .. => true
  | _ => false

def Node.entries : Node → List (NodeId × NodeId)
  | .mapping _ es => es
  | _ => []

def Node.withTag (tag : Tag) : Node → Node
  | .scalar _ t => .scalar tag t
  | .sequence _ items => .sequence tag items
  | .mapping _ entries => .mapping tag entries

/-- The text of a node under a tag of scalars: its own, or that of the value under the key `=`. -/
def scalarText : Nat → NodeId → Builder WideText
  | 0, _ => throw (.fault .endless)
  | fuel + 1, id => do
    match ← node id with
    | .scalar _ t => return t
    | .sequence .. => refuse
    | .mapping _ entries =>
      match ← entries.findM? fun e => return (← node e.1).tag == .value with
      | some (_, v) => scalarText fuel v
      | none => refuse

/-- The value of a node under a tag of scalars. -/
def leaf (tag : Tag) (id : NodeId) : Builder Value := do
  let t ← scalarText ((← get).nodes.size + 1) id
  if tag == .timestamp && (← node id).isMapping then throw (.fault .partsForDate)
  match tag.read t with
  | .ok v => return v
  | .error f => throw f

/-- The object of a node, which is not filled yet if it has parts. -/
def construct (id : NodeId) : Builder Object := do
  if let some (some o) := (← get).objects[id]? then return o
  let tag := (← node id).tag
  let wait (o : Object) : Builder Object := do
    modify fun b => { b with waiting := id :: b.waiting }
    return o
  let o ←
    match tag with
    | .sequence => wait (.list [])
    | .orderedMap | .pairs => wait (.pairs [])
    | .set => wait (.set [])
    | .mapping => wait (.map [])
    | .merge | .value | .unknown => refuse
    | tag => pure (.leaf (← leaf tag id))
  setObject id o
  return o

/-- Goes through the entries of a mapping from an index on: a merge key is removed, and what it
stands for is collected; the key `=` becomes a text. In the end the collected entries stand in
front of all others. `flatten` does the same with a mapping that is merged. -/
def mergeFrom (flatten : NodeId → Builder Unit) (id : NodeId) :
    Nat → Nat → List (NodeId × NodeId) → Builder Unit
  | 0, _, taken => do
    let n ← node id
    replace id (.mapping n.tag (taken ++ n.entries))
  | count + 1, index, taken => do
    let n ← node id
    match n.entries[index]? with
    | none => mergeFrom flatten id count index taken
    | some (k, v) =>
      let key ← node k
      if key.tag == .merge then
        replace id (.mapping n.tag (n.entries.eraseIdx index))
        mergeFrom flatten id count index (taken ++ (← merged v))
      else
        if key.tag == .value then replace k (key.withTag .text)
        mergeFrom flatten id count (index + 1) taken
where
  /-- The entries of a mapping, or those of several, of which an earlier one counts more and so
  comes later. -/
  merged (id : NodeId) : Builder (List (NodeId × NodeId)) := do
    match ← node id with
    | .mapping .. =>
      flatten id
      return (← node id).entries
    | .sequence _ items =>
      let parts ← items.mapM fun id => do
        if !(← node id).isMapping then refuse
        flatten id
        return (← node id).entries
      return parts.reverse.flatten
    | .scalar .. => refuse

/-- Merges a mapping with what its merge keys stand for; `depth` bounds how deep merge keys lie
inside each other. -/
def flatten : Nat → NodeId → Builder Unit
  | 0, _ => return ()
  | depth + 1, id => do mergeFrom (flatten depth) id (← node id).entries.length 0 []

/-- The key that a node stands for; a node with parts is none. -/
def keyOf (id : NodeId) : Builder Key := do
  match ← construct id with
  | .leaf v =>
    let isOwn := Key.isNan v && !isNanWord (← scalarText ((← get).nodes.size + 1) id)
    return { value := v, owner := if isOwn then some id else none }
  | _ => refuse

/-- The entries of a mapping that was merged; of equal keys the last value counts. -/
def fillEntries (id : NodeId) : Builder (List (Key × NodeId)) := do
  let n ← node id
  if !n.isMapping then refuse
  let depth := ((← get).nodes.toList.map fun n => n.entries.length).foldl (· + ·) 0 + 1
  flatten depth id
  let entries ← (← node id).entries.mapM fun (k, v) => do
    let key ← keyOf k
    let _ ← construct v
    return (key, v)
  return entries.foldl (fun es (k, v) => Key.put k v es) []

/-- The one entry of each item. -/
def fillPairs : List NodeId → Builder (List (NodeId × NodeId))
  | [] => return []
  | id :: rest => do
    match ← node id with
    | .mapping _ [(k, v)] =>
      let _ ← construct k
      let _ ← construct v
      return (k, v) :: (← fillPairs rest)
    | _ => refuse

/-- Builds what is in a node. -/
def fill (id : NodeId) : Builder Unit := do
  match ← node id with
  | .sequence .sequence items =>
    for item in items do
      let _ ← construct item
    setObject id (.list items)
  | .sequence .orderedMap items | .sequence .pairs items =>
    setObject id (.pairs (← fillPairs items))
  | .mapping .set _ => setObject id (.set (Key.arrange ((← fillEntries id).map Prod.fst)))
  | .mapping .mapping _ => setObject id (.map (← fillEntries id))
  | _ => refuse

/-- Fills the nodes that wait, those that are met on the way last; each node waits once. -/
def fillAll : Nat → Builder Unit
  | 0 => return ()
  | fuel + 1 => do
    match (← get).waiting.reverse with
    | [] => return ()
    | id :: rest =>
      modify fun b => { b with waiting := rest.reverse }
      fill id
      fillAll fuel

/-- The objects of a document. -/
def Graph.ofDocument? (d : Document) : Except Failure Graph := do
  let build : Builder Unit := do
    let _ ← construct d.root
    fillAll (d.nodes.size + 1)
  let b : Build := { nodes := d.nodes, objects := d.nodes.map fun _ => none }
  let (_, b) ← build.run b
  return { objects := b.objects, root := d.root }

namespace Graph

def object (g : Graph) (id : NodeId) : Object := (g.objects[id]?.join).getD (.leaf .null)

/-- The value of a node inside the nodes of `path`; one of these is not shown again. -/
def valueWithin (g : Graph) : Nat → List NodeId → NodeId → Value
  | 0, _, _ => .null
  | fuel + 1, path, id =>
    let part := g.valueWithin fuel (id :: path)
    match g.object id with
    | .leaf v => v
    | .set items => .set (items.map Key.value)
    | .list items => if path.contains id then .inner false else .list (items.map part)
    | .pairs items =>
      if path.contains id then .inner false
      else .list (items.map fun (k, v) => .tuple [part k, part v])
    | .map entries =>
      if path.contains id then .inner true
      else .map (entries.map fun (k, v) => (k.value, part v))

/-- The value that a node stands for. -/
def value (g : Graph) (id : NodeId) : Value := g.valueWithin (g.objects.size + 1) [] id

/-- The value of a node as far as it is known without its parts. -/
def outline (g : Graph) (id : NodeId) : Value :=
  match g.object id with
  | .leaf v => v
  | .set items => .set (items.map Key.value)
  | .list items => .list (items.map fun _ => .null)
  | .pairs items => .list (items.map fun _ => .null)
  | .map entries => .map (entries.map fun (k, _) => (k.value, .null))

/-- The entries of a node that is a mapping. -/
def entries? (g : Graph) (id : NodeId) : Option (List (Value × NodeId)) :=
  match g.object id with
  | .map entries => some (entries.map fun (k, v) => (k.value, v))
  | _ => none

end Graph
end DfaTable.Yaml
