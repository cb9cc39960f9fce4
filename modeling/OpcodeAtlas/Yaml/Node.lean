import OpcodeAtlas.Yaml.Graph
import OpcodeAtlas.Yaml.Reader

/-!
# Nodes of a YAML text

`Document.ofText` reads a text that holds at most one document as a graph of nodes. An alias is
the node that it names; a collection has its number before its content is read, so that it can be
named inside itself.

A name is given to one node only, and an alias names a node in front of it.

Tokens are asked for one by one (`Context.peek`), and none is asked for before it is needed: which
of two faults a text is refused for depends on the tokens in front of them.
-/

set_option autoImplicit false

namespace OpcodeAtlas.Yaml

/-- What tokens are read against: the handles of tags, the tokens that are left, the nodes that are
read, and those of them that have names, latest first. -/
structure Context where
  handles : List (List Char × List Char)
  row : TokenRow
  graph : Graph := {}
  names : List (List Char × NodeId) := []

namespace Context

/-- The next token. -/
def peek (ctx : Context) : Except Fault (Option Token) := ctx.row.peek

/-- Move behind the next token. -/
def skip (ctx : Context) : Context := { ctx with row := ctx.row.rest }

/-- Whether the next token is one of some. -/
def sees (ctx : Context) (choices : List Token) : Except Fault Bool := do
  match ← ctx.peek with
  | some t => return choices.contains t
  | none => return false

/-- Move behind a comma, which has to be the next token. -/
def passComma (ctx : Context) : Except Fault Context := do
  if ← ctx.sees [.flowEntry] then return ctx.skip
  throw .malformed

/-- Append a node, which may have a name. -/
def add (ctx : Context) (name : Option (List Char)) (tag : Tag) (content : Content) :
    NodeId × Context :=
  let (id, graph) := ctx.graph.add tag content
  let names := (name.map fun n => (n, id)).toList ++ ctx.names
  (id, { ctx with graph, names })

/-- Give a node its content. -/
def fill (ctx : Context) (id : NodeId) (content : Content) : NodeId × Context :=
  (id, { ctx with graph := ctx.graph.setContent id content })

/-- Append the null that stands where a node is left out. -/
def addAbsent (ctx : Context) : NodeId × Context := ctx.add none .null (.scalar [])

/-- The address that a tag stands for. -/
def address (ctx : Context) (handle : Option (List Char)) (suffix : List Char) :
    Except Fault (List Char) :=
  match handle with
  | none => .ok suffix
  | some h => (require (ctx.handles.lookup h)).map (· ++ suffix)

end Context

/-! ## Properties of a node -/

/-- What precedes a node: its name and its tag. -/
structure Properties where
  name : Option (List Char) := none
  /-- The address of the tag. -/
  address : Option (List Char) := none

namespace Properties

/-- Read the name and the tag in front of a node, in either order. -/
def read (ctx : Context) : Except Fault (Properties × Context) := do
  match ← ctx.peek with
  | some (.anchor name) =>
    match ← ctx.skip.peek with
    | some (.tag handle suffix) =>
      return (⟨some name, some (← ctx.address handle suffix)⟩, ctx.skip.skip)
    | _ => return (⟨some name, none⟩, ctx.skip)
  | some (.tag handle suffix) =>
    match ← ctx.skip.peek with
    | some (.anchor name) =>
      return (⟨some name, some (← ctx.address handle suffix)⟩, ctx.skip.skip)
    | _ => return (⟨none, some (← ctx.address handle suffix)⟩, ctx.skip)
  | _ => return ({}, ctx)

/-- Whether nothing precedes the node. -/
def isEmpty (p : Properties) : Bool := p.name.isNone && p.address.isNone

/-- Whether the kind of the node is left to its text. -/
def isOpen (p : Properties) : Bool := p.address.all (· == ['!'])

/-- The kind of a collection. -/
def collectionTag (p : Properties) (default : Tag) : Tag :=
  if p.isOpen then default else (p.address.map Tag.ofAddress).getD default

/-- The kind of a scalar. -/
def scalarTag (p : Properties) (text : List Char) (isPlain : Bool) : Tag :=
  if p.isOpen then if isPlain || p.address.isSome then Tag.ofPlain text else .str
  else (p.address.map Tag.ofAddress).getD .str

/-- Append the scalar with a text. -/
def addScalar (p : Properties) (ctx : Context) (text : List Char) (isPlain : Bool) :
    NodeId × Context :=
  ctx.add p.name (p.scalarTag text isPlain) (.scalar text)

/-- Append a scalar without a text, unless nothing precedes it. -/
def addEmpty (p : Properties) (ctx : Context) : Except Fault (NodeId × Context) :=
  if p.isEmpty then .error .malformed else .ok (p.addScalar ctx [] true)

/-- Append a sequence whose items are read once it has its number. -/
def addSequence (p : Properties) (ctx : Context)
    (read : Context → Except Fault (List NodeId × Context)) : Except Fault (NodeId × Context) := do
  let (id, ctx) := ctx.add p.name (p.collectionTag .seq) (.sequence [])
  let (items, ctx) ← read ctx
  return ctx.fill id (.sequence items)

/-- Append a mapping whose entries are read once it has its number. -/
def addMapping (p : Properties) (ctx : Context)
    (read : Context → Except Fault (List NodeEntry × Context)) :
    Except Fault (NodeId × Context) := do
  let (id, ctx) := ctx.add p.name (p.collectionTag .map) (.mapping [])
  let (entries, ctx) ← read ctx
  return ctx.fill id (.mapping entries)

end Properties

/-! ## Reading nodes -/

mutual

/-- Read a node. `inBlock` tells whether it may be a block collection, and `unindented` whether it
may be a sequence on the level of the mapping that it is a value of. -/
def Node.read : Nat → (inBlock unindented : Bool) → Context → Except Fault (NodeId × Context)
  | 0, _, _, _ => .error .malformed
  | fuel + 1, inBlock, unindented, ctx => do
    match ← ctx.peek with
    | some (.alias name) => return (← require (ctx.names.lookup name), ctx.skip)
    | _ =>
      let (p, ctx) ← Properties.read ctx
      let next ← ctx.peek
      -- What the name is given to is known before the name is found to be taken.
      if p.name.any fun n => (ctx.names.lookup n).isSome then throw .malformed
      match next with
      | some .blockEntry =>
        if unindented then p.addSequence ctx (Node.readUnindented fuel) else p.addEmpty ctx
      | some (.scalar text isPlain) => return p.addScalar ctx.skip text isPlain
      | some .flowSequence => p.addSequence ctx.skip (Node.readFlowItems fuel true)
      | some .flowMapping => p.addMapping ctx.skip (Node.readFlowEntries fuel true)
      | next =>
        if inBlock && next == some .blockSequence then
          p.addSequence ctx.skip (Node.readItems fuel)
        else if inBlock && next == some .blockMapping then
          p.addMapping ctx.skip (Node.readEntries fuel)
        else p.addEmpty ctx

/-- Read a node, unless the next token is one of those in front of which it is left out. -/
def Node.readOr : Nat → (inBlock unindented : Bool) → List Token → Context →
    Except Fault (NodeId × Context)
  | 0, _, _, _, _ => .error .malformed
  | fuel + 1, inBlock, unindented, stops, ctx => do
    if ← ctx.sees stops then return ctx.addAbsent
    Node.read fuel inBlock unindented ctx

/-- Read the entries of a block sequence and its end. -/
def Node.readItems : Nat → Context → Except Fault (List NodeId × Context)
  | 0, _ => .error .malformed
  | fuel + 1, ctx => do
    match ← ctx.peek with
    | some .blockEntry =>
      let (node, ctx) ← Node.readOr fuel true false [.blockEntry, .blockEnd] ctx.skip
      let (nodes, ctx) ← Node.readItems fuel ctx
      return (node :: nodes, ctx)
    | some .blockEnd => return ([], ctx.skip)
    | _ => throw .malformed

/-- Read the entries of a sequence on the level of its mapping. -/
def Node.readUnindented : Nat → Context → Except Fault (List NodeId × Context)
  | 0, _ => .error .malformed
  | fuel + 1, ctx => do
    match ← ctx.peek with
    | some .blockEntry =>
      let (node, ctx) ← Node.readOr fuel true false [.blockEntry, .key, .value, .blockEnd] ctx.skip
      let (nodes, ctx) ← Node.readUnindented fuel ctx
      return (node :: nodes, ctx)
    | _ => return ([], ctx)

/-- Read the entries of a block mapping and its end. -/
def Node.readEntries : Nat → Context → Except Fault (List NodeEntry × Context)
  | 0, _ => .error .malformed
  | fuel + 1, ctx => do
    match ← ctx.peek with
    | some .key =>
      let (key, ctx) ← Node.readOr fuel true true [.key, .value, .blockEnd] ctx.skip
      let (value, ctx) ← Node.readValue fuel true [.key, .value, .blockEnd] ctx
      let (entries, ctx) ← Node.readEntries fuel ctx
      return ((key, value) :: entries, ctx)
    | some .blockEnd => return ([], ctx.skip)
    | _ => throw .malformed

/-- Read the value of a key, which may be left out with its indicator. -/
def Node.readValue : Nat → (inBlock : Bool) → List Token → Context →
    Except Fault (NodeId × Context)
  | 0, _, _, _ => .error .malformed
  | fuel + 1, inBlock, stops, ctx => do
    if ← ctx.sees [.value] then Node.readOr fuel inBlock inBlock stops ctx.skip
    else return ctx.addAbsent

/-- Read the entries of a bracketed sequence and its end. -/
def Node.readFlowItems : Nat → (isFirst : Bool) → Context → Except Fault (List NodeId × Context)
  | 0, _, _ => .error .malformed
  | fuel + 1, isFirst, ctx => do
    if ← ctx.sees [.flowSequenceEnd] then return ([], ctx.skip)
    let ctx ← if isFirst then pure ctx else ctx.passComma
    if ← ctx.sees [.flowSequenceEnd] then return ([], ctx.skip)
    let (node, ctx) ←
      if ← ctx.sees [.key] then do
        let (key, ctx) ←
          Node.readOr fuel false false [.value, .flowEntry, .flowSequenceEnd] ctx.skip
        let (value, ctx) ← Node.readValue fuel false [.flowEntry, .flowSequenceEnd] ctx
        pure (ctx.add none .map (.mapping [(key, value)]))
      else Node.read fuel false false ctx
    let (nodes, ctx) ← Node.readFlowItems fuel false ctx
    return (node :: nodes, ctx)

/-- Read the entries of a bracketed mapping and its end. -/
def Node.readFlowEntries : Nat → (isFirst : Bool) → Context →
    Except Fault (List NodeEntry × Context)
  | 0, _, _ => .error .malformed
  | fuel + 1, isFirst, ctx => do
    if ← ctx.sees [.flowMappingEnd] then return ([], ctx.skip)
    let ctx ← if isFirst then pure ctx else ctx.passComma
    if ← ctx.sees [.flowMappingEnd] then return ([], ctx.skip)
    let (key, value, ctx) ←
      if ← ctx.sees [.key] then do
        let (key, ctx) ←
          Node.readOr fuel false false [.value, .flowEntry, .flowMappingEnd] ctx.skip
        let (value, ctx) ← Node.readValue fuel false [.flowEntry, .flowMappingEnd] ctx
        pure (key, value, ctx)
      else do
        let (key, ctx) ← Node.read fuel false false ctx
        let (value, ctx) := ctx.addAbsent
        pure (key, value, ctx)
    let (entries, ctx) ← Node.readFlowEntries fuel false ctx
    return ((key, value) :: entries, ctx)

end

/-! ## Documents -/

/-- The handles that need no directive. -/
def defaultHandles : List (List Char × List Char) :=
  [(['!'], ['!']), (['!', '!'], Tag.common.toList)]

/-- Directives: the handles that they declare, and the tokens behind them. A version is told once
and is a 1, and a handle is declared once. -/
def directives? (hasVersion : Bool) (handles : List (List Char × List Char)) :
    List Token → Option (List (List Char × List Char) × List Token)
  | .version major :: rest =>
    if hasVersion || major != 1 then none else directives? true handles rest
  | .handle name expansion :: rest =>
    if (handles.lookup name).isSome then none
    else directives? hasVersion ((name, expansion) :: handles) rest
  | .otherDirective :: rest => directives? hasVersion handles rest
  | rest => some (handles, rest)

/-- Whether a token is a directive. -/
def Token.isDirective : Token → Bool
  | .version _ => true
  | .handle _ _ => true
  | .otherDirective => true
  | _ => false

/-- A document: its nodes, and the number of the outermost one. -/
structure Document where
  graph : Graph
  root : NodeId

namespace Document

/-- Read directives, if there are any: the handles that they declare, and the tokens behind them. -/
def readDirectives (row : TokenRow) : Except Fault (List (List Char × List Char) × TokenRow) :=
  (require (directives? false [] row.tokens)).map fun r => (r.1, { row with tokens := r.2 })

/-- Read the outermost node of a document. -/
def readRoot (ctx : Context) : Except Fault (NodeId × Context) :=
  Node.read (8 * (ctx.row.tokens.length + 1)) true false ctx

/-- Read a document behind its directives, from the mark that opens it. Its outermost node may be
left out. -/
def readMarked (handles : List (List Char × List Char)) (row : TokenRow) :
    Except Fault (NodeId × Context) := do
  let ctx : Context := { handles := handles ++ defaultHandles, row := row }
  if (← ctx.peek) ≠ some .documentStart then throw .malformed
  match ← ctx.skip.peek with
  | none => return ctx.skip.addAbsent
  | some t =>
    if t.isDirective || t == .documentStart || t == .documentEnd then return ctx.skip.addAbsent
    else readRoot ctx.skip

/-- Read what follows the outermost node, which may be marks that close the document and nothing
else. A second document is read up to its own mark before it is refused. -/
def readEnd (row : TokenRow) : Except Fault Unit := do
  let row : TokenRow := { row with tokens := row.tokens.dropWhile (· == .documentEnd) }
  if (← row.peek).isSome then
    let (_, row) ← readDirectives row
    let _ ← row.peek
    throw .malformed

/-- The document of a row of tokens, or none where they hold no document. -/
def ofTokens (row : TokenRow) : Except Fault (Option Document) := do
  match ← row.peek with
  | none => return none
  | some first =>
    let (root, ctx) ←
      if first.isDirective || first == .documentStart then do
        let (handles, row) ← readDirectives row
        readMarked handles row
      else readRoot { handles := defaultHandles, row := row }
    readEnd ctx.row
    return some ⟨ctx.graph, root⟩

/-- The document of a text, or none where it holds no document. -/
def ofText (text : List Char) : Except Fault (Option Document) := ofTokens (TokenRow.ofText text)

end Document

end OpcodeAtlas.Yaml
