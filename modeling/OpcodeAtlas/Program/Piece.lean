import OpcodeAtlas.Number.Reading
import OpcodeAtlas.Program.Basic
import OpcodeAtlas.Program.Lexeme

/-!
# Pieces of a program line

Reading a line means saying what each lexeme is for. A `Piece` is a lexeme with its purpose: a
word opens an instruction, is an argument of the one that is open, is a line number, or is an
orphan; behind the code of a message instruction the text up to the next semicolon is one piece,
the message.

What a word is for depends on one thing only, whether an instruction of the line has been opened
already (`started`), so a line is a list of pieces (`pieces`), and the comments, the instructions
and the notes of a line are read off that list. The pieces concatenate to the line.

A code number beyond the digit limit stops the reading; `LineReading.fault` then says why, and the
pieces are those in front of it.
-/

set_option autoImplicit false

namespace OpcodeAtlas

open Text

/-! ## Opening words -/

/-- Letters that always open an instruction. -/
def commandLetters : List Char := ['G', 'M']

/-- Letters that open an instruction if the line has none yet. -/
def leadingLetters : List Char := ['T', 'D']

/-- The numbers of the `M` opcodes that take a message. -/
def messageNumbers : List Int := [23, 28, 30, 32, 117, 118, 928]

/-- Whether an opcode takes the text behind it as a message. -/
def takesMessage (letter : Char) (major minor : Int) : Bool :=
  letter == 'M' && messageNumbers.contains major && minor == 0

/-- Whether a word with this letter and a suitable number opens an instruction. -/
def opensInstruction (started : Bool) (letter : Char) : Bool :=
  commandLetters.contains letter || (leadingLetters.contains letter && !started)

/-- A row of digits as a number; no digits are zero. -/
def readCodePart (s : List Char) : Except IntegerFault Int :=
  if s.isEmpty then .ok 0 else Number.readInteger s

/-- Read a code number: the number before the first point and the one behind it. A text without
characters, or with a sign in front, is no code number. -/
def readCodeNumber (s : List Char) : Except IntegerFault (Option (Int × Int)) :=
  match s with
  | [] => .ok none
  | c :: _ =>
    if c = '+' ∨ c = '-' then .ok none
    else
      match readCodePart (s.takeWhile (· ≠ '.')) with
      | .error f => .error f
      | .ok major =>
        match readCodePart ((s.dropWhile (· ≠ '.')).drop 1) with
        | .error f => .error f
        | .ok minor => .ok (some (major, minor))

/-! ## Pieces -/

/-- What a piece of a line is for. -/
inductive PieceKind where
  | blanks
  | checksum
  | lineNumber
  | remark (note : List Char)
  | opening (letter : Char) (major minor : Int)
  | argument (letter : Char) (number : Option Binary64)
  | message (text : List Char)
  | orphan (letter : Char) (number : List Char)
  | stray (c : Char)
  deriving DecidableEq, Repr

/-- A piece of a line and its text. -/
structure Piece where
  kind : PieceKind
  text : List Char
  deriving DecidableEq, Repr

/-- The pieces of a line, up to the fault that stopped the reading if there is one. -/
structure LineReading where
  pieces : List Piece
  fault : Option IntegerFault
  deriving DecidableEq, Repr

/-- Put a piece in front of a reading. -/
def LineReading.cons (p : Piece) (r : LineReading) : LineReading := ⟨p :: r.pieces, r.fault⟩

/-- What a lexeme that opens nothing is for. -/
def plainKind (started : Bool) : Lexeme → PieceKind
  | .blanks => .blanks
  | .checksum => .checksum
  | .remark note => .remark note
  | .stray c => .stray c
  | .word letter number =>
    if letter = 'N' then .lineNumber
    else if started then
      .argument letter (if number.isEmpty then none else Number.readDecimal? number)
    else .orphan letter number

/-- The opcode that a lexeme opens, if it opens one. -/
def opening? (started : Bool) : Lexeme → Except IntegerFault (Option (Char × Int × Int))
  | .word letter number =>
    if opensInstruction started letter then
      (readCodeNumber number).map fun code => code.map fun n => (letter, n.1, n.2)
    else .ok none
  | _ => .ok none

/-- The message behind an opening word: the text up to the next semicolon, unless it is blank. -/
def messageText (letter : Char) (major minor : Int) (s : List Char) : List Char :=
  if takesMessage letter major minor then
    let raw := s.takeWhile (· ≠ ';')
    if allBlank raw then [] else raw
  else []

/-- The pieces of a line; `started` tells whether an instruction of it has been opened. -/
def pieces (started : Bool) : List Char → LineReading
  | [] => ⟨[], none⟩
  | c :: s =>
    let lexed := Lexed.next c s
    match opening? started lexed.lexeme with
    | .error f => ⟨[], some f⟩
    | .ok none => (pieces started lexed.rest).cons ⟨plainKind started lexed.lexeme, lexed.text⟩
    | .ok (some (letter, major, minor)) =>
      -- No lexeme of a message is looked at: it is one piece, whatever it holds.
      let message := messageText letter major minor lexed.rest
      let behind := pieces true (lexed.rest.drop message.length)
      let behind := if message.isEmpty then behind else behind.cons ⟨.message message, message⟩
      behind.cons ⟨.opening letter major minor, lexed.text⟩
termination_by s => s.length
decreasing_by
  all_goals
    have := Lexed.next_rest_length_le c s
    simp only [List.length_drop, List.length_cons]
    omega

/-! ## What a line says -/

/-- A piece with its place in the whole text. -/
structure PlacedPiece where
  kind : PieceKind
  start : Int
  stop : Int
  deriving DecidableEq, Repr

/-- The places of pieces that follow each other from an offset on. -/
def placePieces (offset : Int) : List Piece → List PlacedPiece
  | [] => []
  | p :: ps =>
    ⟨p.kind, offset, offset + p.text.length⟩ :: placePieces (offset + p.text.length) ps

/-- The comment that a piece is. -/
def PlacedPiece.comment? (line : Int) (p : PlacedPiece) : Option Comment :=
  match p.kind with
  | .remark note => some ⟨line, String.ofList (trim note), some ⟨line, p.start, p.stop⟩⟩
  | _ => none

/-- The argument that a piece is. -/
def PlacedPiece.argument? (line : Int) (p : PlacedPiece) : Option Argument :=
  match p.kind with
  | .argument letter number =>
    some ⟨String.singleton letter,
      match number with
      | some x => .number x
      | none => .flag,
      some ⟨line, p.start, p.stop⟩⟩
  | .message text =>
    some ⟨"", .message (String.ofList (trim text)), some ⟨line, p.start, p.stop⟩⟩
  | _ => none

/-- The instruction that a piece opens. -/
def PlacedPiece.opened? (line : Int) (p : PlacedPiece) : Option Instruction :=
  match p.kind with
  | .opening letter major minor =>
    some ⟨String.singleton letter, major, minor, ⟨line, p.start, p.stop⟩, []⟩
  | _ => none

/-- Append an argument to an instruction, whose span then reaches to the end of the argument. -/
def Instruction.extend (i : Instruction) (a : Argument) (stop : Int) : Instruction :=
  { i with span := { i.span with stop := stop }, arguments := i.arguments ++ [a] }

/-- The instructions of a line: an opening piece starts one, and an argument extends the one that
is open. -/
def gatherInstructions (line : Int) (current : Option Instruction) :
    List PlacedPiece → List Instruction
  | [] => current.toList
  | p :: ps =>
    match p.opened? line with
    | some i => current.toList ++ gatherInstructions line (some i) ps
    | none =>
      match p.argument? line with
      | some a => gatherInstructions line (current.map (·.extend a p.stop)) ps
      | none => gatherInstructions line current ps

/-- A remark of the reader on something that it left out. -/
inductive Note where
  | strayCharacter (c : Char) (line : Int)
  | orphanWord (letter : Char) (number : List Char) (line : Int)
  deriving DecidableEq, Repr

/-- The wording of a note. -/
def Note.message : Note → String
  | .strayCharacter c line =>
    "Skipping unexpected character " ++ String.ofList (quoted [c]) ++ " at line " ++ toString line
  | .orphanWord letter number line =>
    "Dropping orphan word " ++ String.ofList (letter :: number) ++ " at line " ++ toString line

/-- The note on a piece. -/
def PieceKind.note? (line : Int) : PieceKind → Option Note
  | .orphan letter number => some (.orphanWord letter number line)
  | .stray c => some (.strayCharacter c line)
  | _ => none

/-- What a line says: its comments, its instructions and the notes on it. -/
structure LineContent where
  comments : List Comment
  instructions : List Instruction
  notes : List Note
  deriving DecidableEq, Repr

/-- What pieces say that start at an offset of a line. -/
def contentOf (line offset : Int) (ps : List Piece) : LineContent :=
  let placed := placePieces offset ps
  { comments := placed.filterMap (·.comment? line)
    instructions := gatherInstructions line none placed
    notes := ps.filterMap (·.kind.note? line) }

/-- Read one line of a program. -/
def readLine (s : List Char) (line offset : Int) : Except IntegerFault LineContent :=
  let r := pieces false s
  match r.fault with
  | some f => .error f
  | none => .ok (contentOf line offset r.pieces)

end OpcodeAtlas
