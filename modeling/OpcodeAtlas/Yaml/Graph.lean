import OpcodeAtlas.Yaml.Fault
import OpcodeAtlas.Yaml.Tag

/-!
# Graphs of YAML nodes

A document is a graph of nodes: a scalar, a sequence of nodes, or a mapping with entries of two
nodes, each with its kind. Nodes are known by number (`NodeId`), so that an alias is the very node
that it names, and a collection may be reached from inside itself.
-/

set_option autoImplicit false

namespace OpcodeAtlas.Yaml

/-- The number of a node in its graph. -/
abbrev NodeId := Nat

/-- A key and what it stands for. -/
abbrev NodeEntry := NodeId × NodeId

/-- What a node holds. -/
inductive Content where
  | scalar (text : List Char)
  | sequence (items : List NodeId)
  | mapping (entries : List NodeEntry)
  deriving DecidableEq, Repr

/-- A node. -/
structure Node where
  tag : Tag
  content : Content
  /-- Whether a mapping has taken in what its merge keys ask for. -/
  isMerged : Bool := false
  deriving DecidableEq, Repr

instance : Inhabited Node := ⟨⟨.null, .scalar [], false⟩⟩

/-- The nodes of a document in order. -/
structure Graph where
  nodes : Array Node := #[]

namespace Graph

/-- A node; a number without a node stands for a null. -/
def node (g : Graph) (id : NodeId) : Node := g.nodes[id]?.getD default

/-- The kind of a node. -/
def tag (g : Graph) (id : NodeId) : Tag := (g.node id).tag

/-- What a node holds. -/
def content (g : Graph) (id : NodeId) : Content := (g.node id).content

/-- The items of a sequence. -/
def items? (g : Graph) (id : NodeId) : Option (List NodeId) :=
  match g.content id with
  | .sequence items => some items
  | _ => none

/-- The entries of a mapping. -/
def entries? (g : Graph) (id : NodeId) : Option (List NodeEntry) :=
  match g.content id with
  | .mapping entries => some entries
  | _ => none

/-- The entries of a mapping, none for other nodes. -/
def entries (g : Graph) (id : NodeId) : List NodeEntry := (g.entries? id).getD []

/-- Change a node. -/
def modify (g : Graph) (id : NodeId) (f : Node → Node) : Graph := ⟨g.nodes.modify id f⟩

/-- Give a node other content. -/
def setContent (g : Graph) (id : NodeId) (content : Content) : Graph :=
  g.modify id fun n => { n with content := content }

/-- Give a node another kind. -/
def setTag (g : Graph) (id : NodeId) (tag : Tag) : Graph := g.modify id fun n => { n with tag := tag }

/-- Append a node. -/
def add (g : Graph) (tag : Tag) (content : Content) : NodeId × Graph :=
  (g.nodes.size, ⟨g.nodes.push { tag, content }⟩)

/-- How many entries all mappings have together. -/
def entryCount (g : Graph) : Nat :=
  g.nodes.foldl
    (fun n node =>
      match node.content with
      | .mapping entries => n + entries.length
      | _ => n) 0

/-! ## The scalar that a node stands for -/

/-- The node that a mapping stands for: the one under its value key. -/
def standIn? (g : Graph) (id : NodeId) : Option NodeId :=
  ((g.entries id).find? fun e => g.tag e.1 == .value).map (·.2)

/-- The text of a scalar, or of the scalar that a mapping stands for, as far as `fuel` mappings do
not lead to one another. -/
def textFrom (g : Graph) : (fuel : Nat) → NodeId → Except Fault (List Char)
  | 0, _ => .error (.scalar .endless)
  | fuel + 1, id =>
    match g.standIn? id, g.content id with
    | some other, _ => g.textFrom fuel other
    | none, .scalar text => .ok text
    | none, _ => .error .malformed

/-- The text of a scalar, or of the scalar that a mapping stands for. Where more mappings lead to one
another than there are nodes, they do so without end. -/
def text (g : Graph) (id : NodeId) : Except Fault (List Char) := g.textFrom (g.nodes.size + 1) id

end Graph

/-! ## Merge keys -/

namespace Graph

/-- A mapping that is being merged: the graph, how many of its entries are looked at, and the
entries that it takes in. -/
structure Merging where
  graph : Graph
  passed : Nat := 0
  taken : List NodeEntry := []

/-- Pass an entry of a mapping. A merge key is removed before what it asks for is taken in, and
the value key becomes a text. If that has merged the mapping itself, nothing is left to do. -/
def Merging.step (takeIn : Graph → NodeId → Option (Graph × List NodeEntry)) (id : NodeId)
    (m : Merging) (e : NodeEntry) : Option Merging :=
  if (m.graph.node id).isMerged then some m
  else
    match m.graph.tag e.1 with
    | .merge =>
      let others := (m.graph.entries id).eraseIdx m.passed
      (takeIn (m.graph.setContent id (.mapping others)) e.2).map fun r =>
        { m with graph := r.1, taken := m.taken ++ r.2 }
    | .value => some { m with graph := m.graph.setTag e.1 .str, passed := m.passed + 1 }
    | _ => some { m with passed := m.passed + 1 }

/-- The graph in which the mapping has the entries that it takes in in front of its own. -/
def Merging.finish (m : Merging) (id : NodeId) : Graph :=
  m.graph.modify id fun n =>
    { n with content := .mapping (m.taken ++ m.graph.entries id), isMerged := true }

/-- The entries of a row of mappings, the last mapping first, so that the first one wins. -/
def takeFromItems (mergeIn : Graph → NodeId → Option Graph) (g : Graph) (items : List NodeId) :
    Option (Graph × List NodeEntry) :=
  (items.foldlM
    (fun (r : Graph × List NodeEntry) id =>
      (r.1.entries? id).bind fun _ =>
        (mergeIn r.1 id).map fun g => (g, g.entries id ++ r.2)) (g, []))

/-- The entries that a merge key takes in: those of a mapping or of several. -/
def takeFrom (mergeIn : Graph → NodeId → Option Graph) (g : Graph) (id : NodeId) :
    Option (Graph × List NodeEntry) :=
  match g.content id with
  | .mapping _ => (mergeIn g id).map fun g => (g, g.entries id)
  | .sequence items => takeFromItems mergeIn g items
  | .scalar _ => none

/-- Replace the merge keys of a mapping by the entries that they take in; no answer where a merge
key asks for something else than mappings. Each level of `fuel` goes with a merge key that has been
removed. -/
def mergeFrom? : Nat → Graph → NodeId → Option Graph
  | 0, _, _ => none
  | fuel + 1, g, id =>
    if (g.node id).isMerged then some g
    else
      ((g.entries id).foldlM (Merging.step (takeFrom (mergeFrom? fuel)) id) { graph := g }).map
        fun m => m.finish id

end Graph

end OpcodeAtlas.Yaml
