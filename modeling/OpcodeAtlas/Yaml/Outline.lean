import OpcodeAtlas.Yaml.Graph
import OpcodeAtlas.Yaml.ScalarValue

/-!
# Outlines of YAML documents

An outline tells, for every collection of a document, what it consists of: finished values and
other collections, which are known by number (`Part`). `Outline.build` goes through the collections
in the order in which they are met, the outermost one first, so that a collection is there before
its parts are looked at. What it finds wrong first is the fault of the document.

The order counts in another way too: looking at a mapping replaces the merge keys of the graph that
it meets, and what is looked at later finds them replaced. A node is made a part only once; its
aliases are the same part, whatever becomes of the node.
-/

set_option autoImplicit false

namespace OpcodeAtlas.Yaml

/-- A part of a collection. -/
inductive Part where
  | value (v : Value)
  /-- The collection that was met as the one with the given number. -/
  | collection (number : Nat)

/-- What a collection consists of. -/
inductive Parts where
  | list (items : List Part)
  /-- The entries of an ordered map. -/
  | pairs (entries : List (Part × Part))
  /-- The entries of a map, whose keys all differ. -/
  | map (entries : List (Value × Part))
  | set (members : List Value)

/-- The collections of a document as far as they are known. -/
structure Outline where
  /-- The graph of the document, merge keys replaced as far as mappings are looked at. -/
  graph : Graph
  /-- How deep mappings can be merged into each other. -/
  mergeLevels : Nat
  /-- The nodes as parts, as far as they have been met. -/
  known : Array (Option Part)
  /-- The collections in the order in which they have been met. -/
  met : Array NodeId := #[]
  /-- What the collections consist of, as far as they are looked at. -/
  parts : Array Parts := #[]

namespace Outline

/-- The outline of a graph before anything is met. -/
def start (graph : Graph) : Outline :=
  { graph, mergeLevels := graph.entryCount + 1, known := Array.replicate graph.nodes.size none }

/-- Work on an outline, which a fault ends. -/
abbrev Work := StateT Outline (Except Fault)

/-! ## Parts -/

/-- The value of a node that is no collection. -/
def scalar (g : Graph) (id : NodeId) : Except Fault Value := do
  -- The text is not looked for unless there is a value for it.
  if !(g.tag id).isScalar then throw .malformed
  let text ← g.text id
  match g.tag id, g.content id with
  | .timestamp, .mapping _ => throw (.scalar .mappingStamp)
  | tag, _ => scalarValue tag text

/-- Note that a node is a part. -/
def note (id : NodeId) (p : Part) : Work Part := do
  modify fun o => { o with known := o.known.setIfInBounds id (some p) }
  return p

/-- Meet a collection for the first time. -/
def meet (id : NodeId) : Work Part := do
  let number := (← get).met.size
  modify fun o => { o with met := o.met.push id }
  note id (.collection number)

/-- A node as a part. -/
def part (id : NodeId) : Work Part := do
  let o ← get
  match o.known[id]?.join with
  | some p => return p
  | none =>
    if (o.graph.tag id).isCollection then meet id
    else note id (.value (← scalar o.graph id))

/-- A node as a key, which a collection cannot be. -/
def key (id : NodeId) : Work Value := do
  match ← part id with
  | .value v => return v
  | .collection _ => throw .malformed

/-- The key and the value of an entry. -/
def entry (e : NodeEntry) : Work (Value × Part) := do
  let k ← key e.1
  return (k, ← part e.2)

/-- The key and the value of a mapping with just one entry. -/
def pair (id : NodeId) : Work (Part × Part) := do
  match (← get).graph.entries? id with
  | some [(k, v)] =>
    let k ← part k
    return (k, ← part v)
  | _ => throw .malformed

/-! ## Collections -/

/-- The items of a sequence. -/
def items (id : NodeId) : Work (List NodeId) := do require ((← get).graph.items? id)

/-- The entries of a mapping, its merge keys replaced. -/
def mergedEntries (id : NodeId) : Work (List NodeEntry) := do
  let o ← get
  let _ ← require (o.graph.entries? id)
  let graph ← require (o.graph.mergeFrom? o.mergeLevels id)
  set { o with graph }
  return graph.entries id

/-- Put an entry to others; an equal key keeps its place. -/
def putEntry : List (Value × Part) → Value × Part → List (Value × Part)
  | [], e => [e]
  | f :: rest, e => if f.1.sameKey e.1 then (f.1, e.2) :: rest else f :: putEntry rest e

/-- What a collection consists of. -/
def partsOf (id : NodeId) : Work Parts := do
  match (← get).graph.tag id with
  | .map => return .map ((← (← mergedEntries id).mapM entry).foldl putEntry [])
  | .set => return .set ((← (← mergedEntries id).mapM entry).map (·.1))
  | .omap => return .pairs (← (← items id).mapM pair)
  | .pairs => return .pairs (← (← items id).mapM pair)
  | _ => return .list (← (← items id).mapM part)

/-- Look at the collections that are met but not looked at; `fuel` is greater than their number. -/
def fill : (fuel : Nat) → Work Unit
  | 0 => pure ()
  | fuel + 1 => do
    let o ← get
    match o.met[o.parts.size]? with
    | none => pure ()
    | some id =>
      let parts ← partsOf id
      modify fun o => { o with parts := o.parts.push parts }
      fill fuel

/-- The outermost part of a document, and the collections in it. -/
def build (graph : Graph) (root : NodeId) : Except Fault (Part × Outline) :=
  let work : Work Part := do
    let whole ← part root
    fill (graph.nodes.size + 1)
    return whole
  work.run (start graph)

end Outline

end OpcodeAtlas.Yaml
