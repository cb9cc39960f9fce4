import OpcodeAtlas.Program.Piece

/-!
# The wording of a line

What the instructions of a line say, apart from their places, depends on what its pieces are for
and on nothing else (`wording_gatherInstructions`). So a line can be read from the left, one piece
at a time: `LineReading.Says` follows what has been said and what is still to come, with one rule
for each purpose of a piece. It is about lines without comments on which there is nothing to
remark; such a line is read as its instructions alone (`LineReading.Says.readLine_eq`).
-/

set_option autoImplicit false

namespace OpcodeAtlas

open Text

/-! ## What an instruction says -/

/-- What an instruction says, apart from its place. -/
structure Wording where
  mnemonic : String
  major : Int
  minor : Int
  arguments : List (String × ArgumentValue)
  deriving DecidableEq, Repr

/-- A wording with one more argument. -/
def Wording.extend (w : Wording) (a : String × ArgumentValue) : Wording :=
  { w with arguments := w.arguments ++ [a] }

/-- What an argument says, apart from its place. -/
def Argument.wording (a : Argument) : String × ArgumentValue := (a.letter, a.value)

/-- The wording of an instruction. -/
def Instruction.wording (i : Instruction) : Wording :=
  ⟨i.mnemonic, i.major, i.minor, i.arguments.map Argument.wording⟩

theorem Instruction.wording_extend (i : Instruction) (a : Argument) (stop : Int) :
    (i.extend a stop).wording = i.wording.extend a.wording := by
  simp [Instruction.extend, Instruction.wording, Wording.extend]

namespace PieceKind

/-- The wording that a piece opens. -/
def opened? : PieceKind → Option Wording
  | .opening letter major minor => some ⟨String.singleton letter, major, minor, []⟩
  | _ => none

/-- The argument that a piece adds. -/
def argument? : PieceKind → Option (String × ArgumentValue)
  | .argument letter (some x) => some (String.singleton letter, .number x)
  | .argument letter none => some (String.singleton letter, .flag)
  | .message text => some ("", .message (String.ofList (trim text)))
  | _ => none

end PieceKind

/-- A lexeme that opens nothing opens no wording. -/
theorem opened?_plainKind (started : Bool) (lexeme : Lexeme) :
    (plainKind started lexeme).opened? = none := by
  cases lexeme with
  | word letter number =>
      rw [plainKind]
      split
      · rfl
      split
      · rfl
      · rfl
  | _ => rfl

/-- The wordings of the instructions of a line. -/
def wordings (current : Option Wording) : List PieceKind → List Wording
  | [] => current.toList
  | k :: ks =>
    match k.opened? with
    | some w => current.toList ++ wordings (some w) ks
    | none =>
      match k.argument? with
      | some a => wordings (current.map (·.extend a)) ks
      | none => wordings current ks

theorem PlacedPiece.wording_opened? (line : Int) (p : PlacedPiece) :
    (p.opened? line).map Instruction.wording = p.kind.opened? := by
  obtain ⟨kind, start, stop⟩ := p
  cases kind with
  | _ => rfl

theorem PlacedPiece.wording_argument? (line : Int) (p : PlacedPiece) :
    (p.argument? line).map Argument.wording = p.kind.argument? := by
  obtain ⟨kind, start, stop⟩ := p
  cases kind with
  | argument letter number =>
      cases number with
      | _ => rfl
  | _ => rfl

/-- **The wording of a line depends on the purposes of its pieces alone.** -/
theorem wording_gatherInstructions (line : Int) (current : Option Instruction)
    (ps : List PlacedPiece) :
    (gatherInstructions line current ps).map Instruction.wording =
      wordings (current.map Instruction.wording) (ps.map PlacedPiece.kind) := by
  have htoList : ∀ current : Option Instruction, current.toList.map Instruction.wording =
      (current.map Instruction.wording).toList := fun current => by cases current <;> rfl
  induction ps generalizing current with
  | nil => exact htoList current
  | cons p ps ih =>
      rw [gatherInstructions, List.map_cons, wordings, ← p.wording_opened? line,
        ← p.wording_argument? line]
      cases p.opened? line with
      | some i => simp only [Option.map_some, List.map_append, ih, htoList]
      | none =>
          cases p.argument? line with
          | some a =>
              simp only [Option.map_none, Option.map_some, ih, Option.map_map]
              congr 2
              funext i
              exact i.wording_extend a p.stop
          | none => simp only [Option.map_none, ih]

theorem map_kind_placePieces (offset : Int) (ps : List Piece) :
    (placePieces offset ps).map PlacedPiece.kind = ps.map Piece.kind := by
  induction ps generalizing offset with
  | nil => rfl
  | cons p ps ih => rw [placePieces, List.map_cons, List.map_cons, ih]

theorem wording_contentOf (line offset : Int) (ps : List Piece) :
    (contentOf line offset ps).instructions.map Instruction.wording =
      wordings none (ps.map Piece.kind) := by
  rw [contentOf, wording_gatherInstructions, map_kind_placePieces, Option.map_none]

/-! ## What a comment says -/

/-- The value of the comment that a piece is. -/
def PieceKind.remark? : PieceKind → Option String
  | .remark note => some (String.ofList (trim note))
  | _ => none

theorem PlacedPiece.value_comment? (line : Int) (p : PlacedPiece) :
    (p.comment? line).map Comment.value = p.kind.remark? := by
  obtain ⟨kind, start, stop⟩ := p
  cases kind with
  | _ => rfl

/-- The comments of a line depend on the purposes of its pieces alone. -/
theorem values_contentOf (line offset : Int) (ps : List Piece) :
    (contentOf line offset ps).comments.map Comment.value =
      (ps.map Piece.kind).filterMap PieceKind.remark? := by
  rw [contentOf, List.map_filterMap, ← map_kind_placePieces offset, List.filterMap_map]
  congr 1
  funext p
  exact p.value_comment? line

/-! ## What is read of a line -/

section
variable {s : List Char} {line offset : Int} {content : LineContent}

/-- What is read of a line is what its pieces say. -/
theorem contentOf_of_readLine (hread : readLine s line offset = .ok content) :
    (pieces false s).fault = none ∧ content = contentOf line offset (pieces false s).pieces := by
  simp only [readLine] at hread
  split at hread
  · cases hread
  · next hfault =>
    cases hread
    exact ⟨hfault, rfl⟩

/-- The wordings of the instructions of a line that is read. -/
theorem wordings_of_readLine (hread : readLine s line offset = .ok content) :
    content.instructions.map Instruction.wording =
      wordings none ((pieces false s).pieces.map Piece.kind) := by
  obtain ⟨-, rfl⟩ := contentOf_of_readLine hread
  exact wording_contentOf line offset _

end

/-! ## One piece after the other -/

section
variable {started : Bool} {c : Char} {s : List Char} {lexed : Lexed}

theorem pieces_nil (started : Bool) : pieces started [] = ⟨[], none⟩ := by
  rw [pieces]

/-- A code number that cannot be read stops the reading. -/
theorem pieces_fault {f : IntegerFault} (hnext : Lexed.next c s = lexed)
    (h : opening? started lexed.lexeme = .error f) : pieces started (c :: s) = ⟨[], some f⟩ := by
  rw [pieces]
  simp only [hnext, h]

/-- A lexeme that opens nothing. -/
theorem pieces_plain (hnext : Lexed.next c s = lexed)
    (h : opening? started lexed.lexeme = .ok none) :
    pieces started (c :: s) =
      (pieces started lexed.rest).cons ⟨plainKind started lexed.lexeme, lexed.text⟩ := by
  rw [pieces]
  simp only [hnext, h]

/-- A word that opens an instruction without a message. -/
theorem pieces_opening {letter : Char} {major minor : Int} (hnext : Lexed.next c s = lexed)
    (h : opening? started lexed.lexeme = .ok (some (letter, major, minor)))
    (hmessage : messageText letter major minor lexed.rest = []) :
    pieces started (c :: s) =
      (pieces true lexed.rest).cons ⟨.opening letter major minor, lexed.text⟩ := by
  rw [pieces]
  simp only [hnext, h, hmessage, List.length_nil, List.drop_zero, List.isEmpty_nil, if_true]

/-- Where nothing follows there is no message. -/
theorem messageText_nil (letter : Char) (major minor : Int) :
    messageText letter major minor [] = [] := by
  rw [messageText]
  split
  · rfl
  · rfl

/-- A word that opens an instruction with a message. -/
theorem pieces_message {letter : Char} {major minor : Int} {message rest : List Char}
    (hnext : Lexed.next c s = lexed)
    (h : opening? started lexed.lexeme = .ok (some (letter, major, minor)))
    (hrest : lexed.rest = message ++ rest)
    (hmessage : messageText letter major minor lexed.rest = message) (hne : message ≠ []) :
    pieces started (c :: s) =
      ((pieces true rest).cons ⟨.message message, message⟩).cons
        ⟨.opening letter major minor, lexed.text⟩ := by
  have hisEmpty : message.isEmpty = false := by simp [hne]
  rw [pieces]
  simp only [hnext, h, hmessage, hisEmpty, Bool.false_eq_true, if_false]
  rw [hrest, List.drop_left]

end

/-! ## Lines of instructions alone -/

/-- Whether a piece is neither a comment nor left out with a remark. -/
def PieceKind.isSilent : PieceKind → Bool
  | .remark _ => false
  | .orphan _ _ => false
  | .stray _ => false
  | _ => true

theorem PlacedPiece.comment?_of_isSilent {p : PlacedPiece} (h : p.kind.isSilent = true)
    (line : Int) : p.comment? line = none := by
  unfold PlacedPiece.comment?
  split
  next note heq =>
    rw [heq] at h
    cases h
  · rfl

theorem PieceKind.note?_of_isSilent {k : PieceKind} (h : k.isSilent = true) (line : Int) :
    k.note? line = none := by
  cases k with
  | orphan letter number => cases h
  | stray c => cases h
  | _ => rfl

namespace LineReading

/-- A reading says the instructions with the wordings `ws` and nothing else, when `current` is the
wording of the instruction that is open. -/
structure Says (r : LineReading) (current : Option Wording) (ws : List Wording) : Prop where
  fault : r.fault = none
  silent : ∀ p ∈ r.pieces, p.kind.isSilent = true
  wordings : wordings current (r.pieces.map Piece.kind) = ws

namespace Says

variable {r : LineReading} {ws : List Wording}

theorem end_of_line (current : Option Wording) : Says ⟨[], none⟩ current current.toList :=
  ⟨rfl, nofun, rfl⟩

theorem cons {current current' : Option Wording} {p : Piece} (h : r.Says current' ws)
    (hsilent : p.kind.isSilent = true)
    (hwordings : ∀ ks, OpcodeAtlas.wordings current (p.kind :: ks) =
      OpcodeAtlas.wordings current' ks) : (r.cons p).Says current ws := by
  refine ⟨h.fault, fun q hq => ?_, ?_⟩
  · rcases List.mem_cons.1 hq with rfl | hq
    · exact hsilent
    · exact h.silent q hq
  · rw [LineReading.cons, List.map_cons, hwordings]
    exact h.wordings

theorem blanks {current : Option Wording} (h : r.Says current ws) (text : List Char) :
    (r.cons ⟨.blanks, text⟩).Says current ws :=
  h.cons rfl fun _ => rfl

/-- A code opens an instruction. -/
theorem opening {letter : Char} {major minor : Int}
    (h : r.Says (some ⟨String.singleton letter, major, minor, []⟩) ws) (text : List Char) :
    (r.cons ⟨.opening letter major minor, text⟩).Says none ws :=
  h.cons rfl fun _ => rfl

/-- A word behind a code extends the instruction that is open. -/
theorem argument {w : Wording} {letter : Char} {number : Option Binary64}
    {a : String × ArgumentValue} (h : r.Says (some (w.extend a)) ws)
    (ha : (PieceKind.argument letter number).argument? = some a) (text : List Char) :
    (r.cons ⟨.argument letter number, text⟩).Says (some w) ws := by
  refine h.cons rfl fun ks => ?_
  rw [OpcodeAtlas.wordings, ha]
  rfl

/-- A message extends the instruction that is open. -/
theorem message {w : Wording} {m : List Char}
    (h : r.Says (some (w.extend ("", .message (String.ofList (trim m))))) ws)
    (text : List Char) : (r.cons ⟨.message m, text⟩).Says (some w) ws :=
  h.cons rfl fun _ => rfl

theorem contentOf_eq (h : r.Says none ws) (line offset : Int) :
    ∃ is, contentOf line offset r.pieces = ⟨[], is, []⟩ ∧ is.map Instruction.wording = ws := by
  have hplaced : ∀ p ∈ placePieces offset r.pieces, p.kind.isSilent = true := by
    intro p hp
    have hmem : p.kind ∈ (placePieces offset r.pieces).map PlacedPiece.kind :=
      List.mem_map_of_mem hp
    rw [map_kind_placePieces] at hmem
    obtain ⟨q, hq, hkind⟩ := List.mem_map.1 hmem
    rw [← hkind]
    exact h.silent q hq
  have hcomments : (placePieces offset r.pieces).filterMap (·.comment? line) = [] :=
    List.filterMap_eq_nil_iff.2 fun p hp => PlacedPiece.comment?_of_isSilent (hplaced p hp) line
  have hnotes : r.pieces.filterMap (·.kind.note? line) = [] :=
    List.filterMap_eq_nil_iff.2 fun p hp => PieceKind.note?_of_isSilent (h.silent p hp) line
  refine ⟨(contentOf line offset r.pieces).instructions, ?_, ?_⟩
  · simp only [contentOf, hcomments, hnotes]
  · rw [wording_contentOf, h.wordings]

/-- **A line of instructions alone is read as these instructions**, without a comment and without
a note. -/
theorem readLine_eq {s : List Char} (h : (OpcodeAtlas.pieces false s).Says none ws)
    (line offset : Int) :
    ∃ is, readLine s line offset = .ok ⟨[], is, []⟩ ∧ is.map Instruction.wording = ws := by
  obtain ⟨is, his, hws⟩ := h.contentOf_eq line offset
  exact ⟨is, by simp only [readLine, h.fault, his], hws⟩

end Says

end LineReading

end OpcodeAtlas
