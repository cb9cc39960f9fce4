import OpcodeAtlas.Number.Decimal
import OpcodeAtlas.Number.Reading

/-!
# Programs

What a machine program consists of once it is read: comments, and instructions with their
arguments, each with the place it was read from. A `SourceLine` holds the instructions of one line
with the comments that belong to it, and a `DisplayItem` is one comment or one instruction.

Line numbers and offsets are integers, so that lines made by hand may carry any of them; lines
that are read from a text start at line 1 and offset 0.

Whole numbers are written within a digit limit, so that the text of an argument or an instruction
cannot always be written: `write` says so where `text` does not care.
-/

set_option autoImplicit false

namespace OpcodeAtlas

/-! ## Places -/

/-- A stretch of the text on one line: from `start` up to but not including `stop`. -/
structure Span where
  line : Int
  start : Int := 0
  stop : Int := 0
  deriving DecidableEq, Repr

/-- How many characters a span holds; a span that ends before it starts holds none. -/
def Span.length (s : Span) : Nat := (s.stop - s.start).toNat

/-- A comment, without its delimiters. -/
structure Comment where
  line : Int
  value : String
  span : Option Span := none
  deriving DecidableEq, Repr

/-! ## Arguments -/

/-- What an argument says. -/
inductive ArgumentValue where
  /-- The letter alone, such as an axis to be homed. -/
  | flag
  /-- A number. -/
  | number (x : Binary64)
  /-- A whole number, given exactly. -/
  | whole (n : Int)
  /-- On or off, written `1` or `0`. -/
  | switch (on : Bool)
  /-- A message, which stands without its letter. -/
  | message (text : String)
  deriving DecidableEq, Repr

/-- The value for a whole number, provided that it lies in the range of the numbers. -/
def ArgumentValue.ofInt? (n : Int) : Option ArgumentValue :=
  if (Binary64.ofInt n).isFinite then some (.whole n) else none

/-- A word that belongs to an instruction. -/
structure Argument where
  letter : String
  value : ArgumentValue := .flag
  span : Option Span := none
  deriving DecidableEq, Repr

/-- The text of a number in a word: a whole number in full, any other with six significant
digits. -/
def numberText (x : Binary64) : String :=
  match x.toInt? with
  | some n => toString n
  | none => x.wordText

/-- The text of an argument. -/
def Argument.text (a : Argument) : String :=
  match a.value with
  | .flag => a.letter
  | .number x => a.letter ++ numberText x
  | .whole n => a.letter ++ toString n
  | .switch on => a.letter ++ (if on then "1" else "0")
  | .message text => text

/-- Write the number of a word; whole numbers are written within the digit limit. -/
def writeNumber (x : Binary64) : Except IntegerFault String :=
  match x.toInt? with
  | some n => Number.writeInteger n
  | none => .ok x.wordText

/-- Write an argument, which gives its text unless a number in it is too long. -/
def Argument.write (a : Argument) : Except IntegerFault String :=
  match a.value with
  | .flag => .ok a.letter
  | .number x => (writeNumber x).map (a.letter ++ ·)
  | .whole n => (Number.writeInteger n).map (a.letter ++ ·)
  | .switch on => .ok (a.letter ++ (if on then "1" else "0"))
  | .message text => .ok text

/-! ## Instructions -/

/-- The code of an opcode: its letter and number, and its subcode unless that is 0. -/
def opcode (mnemonic : String) (major minor : Int) : String :=
  if minor = 0 then mnemonic ++ toString major
  else mnemonic ++ toString major ++ "." ++ toString minor

/-- Write the code of an opcode, which gives it unless a number in it is too long. -/
def writeOpcode (mnemonic : String) (major minor : Int) : Except IntegerFault String := do
  let whole ← Number.writeInteger major
  if minor = 0 then return mnemonic ++ whole
  let fraction ← Number.writeInteger minor
  return mnemonic ++ whole ++ "." ++ fraction

/-- An instruction with its arguments. -/
structure Instruction where
  mnemonic : String
  major : Int
  minor : Int := 0
  span : Span := { line := 0 }
  arguments : List Argument := []
  deriving DecidableEq, Repr

namespace Instruction

/-- The line that an instruction was read from. -/
def line (i : Instruction) : Int := i.span.line

/-- The code under which an instruction is documented. -/
def code (i : Instruction) : String := opcode i.mnemonic i.major i.minor

/-- The words of an instruction that are not empty. -/
def words (i : Instruction) : List String :=
  (i.code :: i.arguments.map Argument.text).filter (· ≠ "")

/-- The text of an instruction: its words with a space between them. -/
def text (i : Instruction) : String := String.intercalate " " i.words

/-- Write an instruction: its code, and then its arguments. -/
def write (i : Instruction) : Except IntegerFault String := do
  let code ← writeOpcode i.mnemonic i.major i.minor
  let arguments ← i.arguments.mapM Argument.write
  return String.intercalate " " ((code :: arguments).filter (· ≠ ""))

end Instruction

/-! ## Lines and items -/

/-- The instructions of one line with the comments that belong to them, those of comment-only
lines in front included. -/
structure SourceLine where
  span : Span
  comments : List Comment := []
  instructions : List Instruction := []
  deriving DecidableEq, Repr

/-- Whether a source line holds nothing. -/
def SourceLine.isEmpty (l : SourceLine) : Bool := l.comments.isEmpty && l.instructions.isEmpty

/-- One comment or one instruction. -/
inductive DisplayItem where
  | comment (c : Comment)
  | instruction (i : Instruction)
  deriving DecidableEq, Repr

/-- The line of an item. -/
def DisplayItem.line : DisplayItem → Int
  | .comment c => c.line
  | .instruction i => i.line

end OpcodeAtlas
