import OpcodeAtlas.Yaml.Node
import OpcodeAtlas.Yaml.Outline

/-!
# Values of YAML texts

`Yaml.read` gives the value of a text: its document is read as a graph, the collections of the graph
are outlined, and the outline is unrolled to a value. A collection that is reached from inside
itself is marked, and the place from where it is reached holds its mark.
-/

set_option autoImplicit false

namespace OpcodeAtlas.Yaml

namespace Outline

/-- A value that may hold marks of collections around it, whose numbers are given. -/
structure Unrolled where
  value : Value
  marks : List Nat := []
  deriving Inhabited

/-- Unrolling, which keeps the collections that are done with and hold no marks of others. -/
abbrev Unrolling := StateM (Array (Option Value))

/-- Join two rows of numbers. -/
def joinNumbers (first second : List Nat) : List Nat :=
  second.foldl (fun acc n => if acc.contains n then acc else n :: acc) first

/-- The numbers in several values. -/
def marksIn (us : List Unrolled) : List Nat :=
  us.foldl (fun acc u => joinNumbers acc u.marks) []

/-- Unroll a part; collections are unrolled by `unroll`. -/
def unrollPart (unroll : Nat → Unrolling Unrolled) : Part → Unrolling Unrolled
  | .value v => return ⟨v, []⟩
  | .collection n => unroll n

/-- Unroll the parts of a collection. -/
def unrollParts (unroll : Nat → Unrolling Unrolled) : Parts → Unrolling Unrolled
  | .list items => do
    let us ← items.mapM (unrollPart unroll)
    return ⟨.list (us.map (·.value)), marksIn us⟩
  | .pairs entries => do
    let us ← entries.mapM fun e => do
      let k ← unrollPart unroll e.1
      let v ← unrollPart unroll e.2
      return ⟨.tuple [k.value, v.value], joinNumbers k.marks v.marks⟩
    return ⟨.list (us.map (·.value)), marksIn us⟩
  | .map entries => do
    let us ← entries.mapM fun e => unrollPart unroll e.2
    return ⟨.map ((entries.map (·.1)).zip (us.map (·.value))), marksIn us⟩
  | .set members => return ⟨.set (members.foldl Value.addMember []), []⟩

/-- The value that is unrolled, marked if it holds a mark of itself or of a collection around it:
only then it is reached from inside itself. -/
def markedAs (number : Nat) (u : Unrolled) : Unrolled :=
  if u.marks.isEmpty then u
  else ⟨.marked number u.value, u.marks.filter (· ≠ number)⟩

/-- Unroll a collection; `around` holds the numbers of the collections around it, and `fuel` is
greater than the number of the others. -/
def unroll (o : Outline) : (fuel : Nat) → (around : List Nat) → Nat → Unrolling Unrolled
  | 0, _, number => return ⟨.again number, [number]⟩
  | fuel + 1, around, number => do
    if around.contains number then return ⟨.again number, [number]⟩
    match (← get)[number]?.join, o.parts[number]? with
    | some v, _ => return ⟨v, []⟩
    | none, none => return ⟨.null, []⟩
    | none, some parts =>
      let whole := markedAs number (← unrollParts (unroll o fuel (number :: around)) parts)
      if whole.marks.isEmpty then modify fun done => done.setIfInBounds number (some whole.value)
      return whole

/-- The value of a part of an outline. -/
def value (o : Outline) (p : Part) : Value :=
  let unrolling := unrollPart (unroll o (o.parts.size + 1) []) p
  (unrolling.run (Array.replicate o.parts.size none)).1.value

end Outline

/-- The value of a document. -/
def Document.value (d : Document) : Except Fault Value :=
  match Outline.build d.graph d.root with
  | .ok (whole, outline) => .ok (outline.value whole)
  | .error f => .error f

/-- The value of a text; one without a document is null. -/
def read (text : List Char) : Except Fault Value := do
  match ← Document.ofText text with
  | none => return .null
  | some d => d.value

end OpcodeAtlas.Yaml
