import OpcodeAtlas.Program.Piece
import OpcodeAtlas.Text.Line

/-!
# Reading a program

A program is read line by line. The comments of lines without instructions wait (`Waiting`) and
join the next line that has some; those left at the end form a last source line of their own.

Reading is a sequence of events in the order in which they arise: the notes on a line, the source
line that it completes, and the fault that ends the reading early. What can be shown before a
fault, and which notes precede which source line, can be read off the sequence.
-/

set_option autoImplicit false

namespace OpcodeAtlas

/-- What happens while a program is read. -/
inductive ReadingEvent where
  | note (n : Note)
  | line (l : SourceLine)
  | fault (f : IntegerFault)
  deriving DecidableEq, Repr

/-- The comments of lines without instructions: where they start, and the last of their lines. -/
structure Waiting where
  comments : List Comment
  start : Int
  line : Int
  stop : Int
  deriving DecidableEq, Repr

namespace Waiting

/-- The comments that wait. -/
def commentsOf (w : Option Waiting) : List Comment :=
  match w with
  | none => []
  | some w => w.comments

/-- Let the comments of one more line wait. -/
def add (w : Option Waiting) (comments : List Comment) (line start stop : Int) : Waiting :=
  match w with
  | none => ⟨comments, start, line, stop⟩
  | some w => ⟨w.comments ++ comments, w.start, line, stop⟩

/-- Where a source line starts that begins with the waiting comments, else at `offset`. -/
def startOr (w : Option Waiting) (offset : Int) : Int :=
  match w with
  | none => offset
  | some w => w.start

/-- The source line that the waiting comments form on their own. -/
def toLine (w : Waiting) : SourceLine := ⟨⟨w.line, w.start, w.stop⟩, w.comments, []⟩

end Waiting

/-- The events of reading the given lines, of which the first has the number `number` and starts
at `offset`, while comments wait. -/
def readingFrom (number offset : Int) (waiting : Option Waiting) :
    List (List Char) → List ReadingEvent
  | [] => waiting.toList.map fun w => .line w.toLine
  | raw :: rest =>
    let body := Text.body raw
    let r := pieces false body
    let content := contentOf number offset r.pieces
    let stop := offset + body.length
    let next := offset + raw.length
    -- The notes on a line come in front of what the line completes, and of the fault in it.
    content.notes.map .note ++
      match r.fault with
      | some f => [.fault f]
      | none =>
        if !content.instructions.isEmpty then
          .line ⟨⟨number, Waiting.startOr waiting offset, stop⟩,
              Waiting.commentsOf waiting ++ content.comments, content.instructions⟩ ::
            readingFrom (number + 1) next none rest
        else if !content.comments.isEmpty then
          readingFrom (number + 1) next
            (some (Waiting.add waiting content.comments number offset stop)) rest
        else readingFrom (number + 1) next waiting rest

/-- The events of reading a program. -/
def reading (text : List Char) : List ReadingEvent := readingFrom 1 0 none (Text.lines text)

namespace ReadingEvent

/-- The source line that an event delivers. -/
def line? : ReadingEvent → Option SourceLine
  | .line l => some l
  | _ => none

/-- The note that an event makes. -/
def note? : ReadingEvent → Option Note
  | .note n => some n
  | _ => none

/-- The fault that an event reports. -/
def fault? : ReadingEvent → Option IntegerFault
  | .fault f => some f
  | _ => none

end ReadingEvent

/-- A program that was read to its end: its source lines, and the notes on it. -/
structure Program where
  lines : List SourceLine
  notes : List Note
  deriving DecidableEq, Repr

/-- Read a whole program, or say what stopped the reading. -/
def Program.read (text : List Char) : Except IntegerFault Program :=
  let events := reading text
  match events.findSome? ReadingEvent.fault? with
  | some f => .error f
  | none => .ok ⟨events.filterMap ReadingEvent.line?, events.filterMap ReadingEvent.note?⟩

end OpcodeAtlas
