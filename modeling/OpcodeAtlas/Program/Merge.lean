import OpcodeAtlas.Program.Reading

/-!
# Document order

A source line keeps its comments apart from its instructions, and the comments may stem from
earlier lines. A `Merge` puts the two back into one sequence. It holds two queues, of comments and
of instructions, and the source lines that it has not pulled yet. `next` delivers one item:

* a comment whose line does not come after that of the oldest instruction,
* else the oldest instruction,
* else, both queues giving nothing, it pulls one source line and starts again; comments wait for
  the next line while no instruction is queued, and are delivered when the source has ended.

The source may grow between two deliveries (`push`), but a merge that has seen its end never looks
again.
-/

set_option autoImplicit false

namespace OpcodeAtlas

/-- The state of a merge. -/
structure Merge where
  /-- Source lines that have not been pulled. -/
  source : List SourceLine
  /-- Whether the end of the source has been seen. -/
  ended : Bool := false
  /-- Comments that were pulled and not delivered. -/
  comments : List Comment := []
  /-- Instructions that were pulled and not delivered. -/
  instructions : List Instruction := []
  /-- How many source lines have been pulled. -/
  pulled : Nat := 0
  deriving DecidableEq, Repr

/-- An item with the queues that it leaves behind. -/
structure Delivery where
  item : DisplayItem
  comments : List Comment
  instructions : List Instruction
  deriving DecidableEq, Repr

/-- The item that two queues can deliver without a further source line. Without instructions the
oldest comment is measured against line 0. -/
def delivery? : List Comment → List Instruction → Option Delivery
  | c :: cs, i :: is =>
    if c.line ≤ i.line then some ⟨.comment c, cs, i :: is⟩
    else some ⟨.instruction i, c :: cs, is⟩
  | [], i :: is => some ⟨.instruction i, [], is⟩
  | c :: cs, [] => if c.line ≤ 0 then some ⟨.comment c, cs, []⟩ else none
  | [], [] => none

namespace Merge

/-- A merge of the given lines. -/
def ofLines (lines : List SourceLine) : Merge := { source := lines }

/-- Append lines to the end of the source. -/
def push (m : Merge) (lines : List SourceLine) : Merge := { m with source := m.source ++ lines }

/-- The number of items that were pulled and not delivered. -/
def pending (m : Merge) : Nat := m.comments.length + m.instructions.length

/-- The next item for the given queues, pulling from `source` as needed. -/
def nextFrom (comments : List Comment) (instructions : List Instruction) (pulled : Nat) :
    List SourceLine → Option DisplayItem × Merge
  | [] =>
    match delivery? comments instructions with
    | some d => (some d.item, ⟨[], false, d.comments, d.instructions, pulled⟩)
    | none =>
      -- The source has ended: comments have no instruction to wait for any more.
      match comments with
      | c :: cs => (some (.comment c), ⟨[], true, cs, instructions, pulled⟩)
      | [] => (none, ⟨[], true, [], instructions, pulled⟩)
  | l :: ls =>
    match delivery? comments instructions with
    | some d => (some d.item, ⟨l :: ls, false, d.comments, d.instructions, pulled⟩)
    | none =>
      nextFrom (comments ++ l.comments) (instructions ++ l.instructions) (pulled + 1) ls

/-- The next item, or none when the merge is exhausted, and the merge behind it. -/
def next (m : Merge) : Option DisplayItem × Merge :=
  if m.ended then
    let r := nextFrom m.comments m.instructions m.pulled []
    (r.1, { r.2 with source := m.source, ended := true })
  else nextFrom m.comments m.instructions m.pulled m.source

/-- The number of items that source lines carry. -/
def itemCount : List SourceLine → Nat
  | [] => 0
  | l :: ls => l.comments.length + l.instructions.length + itemCount ls

/-- The number of items that a merge can still deliver. -/
def remaining (m : Merge) : Nat := m.pending + if m.ended then 0 else itemCount m.source

/-- Deliver items until the merge is exhausted, at most `n` and one more look. -/
def drainAtMost : Nat → Merge → List DisplayItem × Merge
  | 0, m => ([], m.next.2)
  | n + 1, m =>
    match m.next with
    | (none, m') => ([], m')
    | (some item, m') =>
      let r := drainAtMost n m'
      (item :: r.1, r.2)

/-- Deliver all items that are left. -/
def drain (m : Merge) : List DisplayItem × Merge := drainAtMost m.remaining m

end Merge

/-- The items of source lines in document order. -/
def displayItems (lines : List SourceLine) : List DisplayItem := (Merge.ofLines lines).drain.1

/-! ## Items along a reading -/

/-- What comes out while a program is read and merged: notes, items and the fault that ends it. -/
inductive ShownEvent where
  | note (n : Note)
  | item (i : DisplayItem)
  | fault (f : IntegerFault)
  deriving DecidableEq, Repr

/-- Deliver what two queues can deliver without a further source line. -/
def settle : Nat → List Comment → List Instruction → List DisplayItem × List Comment
  | 0, cs, _ => ([], cs)
  | n + 1, cs, is =>
    match delivery? cs is with
    | none => ([], cs)
    | some d =>
      let r := settle n d.comments d.instructions
      (d.item :: r.1, r.2)

/-- Merge along a reading: each source line is followed at once by the items that it releases, and
the comments that are left come at the end. -/
def showingFrom (comments : List Comment) : List ReadingEvent → List ShownEvent
  | [] => comments.map fun c => .item (.comment c)
  | .note n :: rest => .note n :: showingFrom comments rest
  | .fault f :: _ => [.fault f]
  | .line l :: rest =>
    let queued := comments ++ l.comments
    let r := settle (queued.length + l.instructions.length) queued l.instructions
    r.1.map .item ++ showingFrom r.2 rest

/-- What comes out while a program is read and merged. -/
def showing (text : List Char) : List ShownEvent := showingFrom [] (reading text)

end OpcodeAtlas
