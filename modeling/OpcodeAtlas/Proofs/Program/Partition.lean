import Mathlib.Data.List.Forall2
import OpcodeAtlas.Proofs.Program.Places
import OpcodeAtlas.Proofs.Program.Wording

/-!
# Nothing on a line is lost

A line that can be read is the row of its pieces, and each piece has the shape of what it is for
(`Partition`). Everything that is said of the line stems from one piece, and each piece is
accounted for (`LineContent.Accounts`): a comment for each comment, an instruction or an argument
for each word of an instruction and for each message, and a note for each orphan word and each
stray character, in the order of the text. Only blanks, checksums and line numbers are dropped.

What a word is for depends on whether a word in front of it has opened an instruction. `Arranged`
says this of the kinds of pieces alone, so that the arguments of a line are seen to belong to its
instructions by induction on it (`parts_gatherInstructions`).
-/

set_option autoImplicit false

namespace OpcodeAtlas

open Text

/-! ## The order of pieces -/

/-- Whether a piece is no word of an instruction, no message and no orphan. -/
def PieceKind.standsAnywhere : PieceKind → Bool
  | .blanks => true
  | .checksum => true
  | .lineNumber => true
  | .remark _ => true
  | .stray _ => true
  | _ => false

/-- How the pieces of a line may follow each other; `started` tells whether an instruction has been
opened. A message stands behind the word that takes it, an argument stands behind an opening word,
and an orphan in front of all of them. -/
inductive Arranged : Bool → List PieceKind → Prop where
  | nil {started : Bool} : Arranged started []
  | anywhere {started : Bool} {k : PieceKind} {ks : List PieceKind}
      (hk : k.standsAnywhere = true) (h : Arranged started ks) : Arranged started (k :: ks)
  | opening {started : Bool} {letter : Char} {major minor : Int} {ks : List PieceKind}
      (hletter : opensInstruction started letter = true) (h : Arranged true ks) :
      Arranged started (.opening letter major minor :: ks)
  | message {started : Bool} {letter : Char} {major minor : Int} {text : List Char}
      {ks : List PieceKind} (hletter : opensInstruction started letter = true)
      (hmessage : takesMessage letter major minor = true) (h : Arranged true ks) :
      Arranged started (.opening letter major minor :: .message text :: ks)
  | argument {letter : Char} {number : Option Binary64} {ks : List PieceKind}
      (h : Arranged true ks) : Arranged true (.argument letter number :: ks)
  | orphan {letter : Char} {number : List Char} {ks : List PieceKind}
      (h : Arranged false ks) : Arranged false (.orphan letter number :: ks)

theorem Arranged.cons_plainKind {started : Bool} {ks : List PieceKind} (h : Arranged started ks)
    (lexeme : Lexeme) : Arranged started (plainKind started lexeme :: ks) := by
  cases lexeme with
  | word letter number =>
      rw [plainKind]
      split
      · exact .anywhere rfl h
      cases started with
      | false => exact .orphan h
      | true => exact .argument h
  | _ => exact .anywhere rfl h

theorem arranged_pieces (started : Bool) (s : List Char) :
    Arranged started ((pieces started s).pieces.map Piece.kind) := by
  refine pieces_induction (motive := fun started _ r => Arranged started (r.pieces.map Piece.kind))
    (fun _ => .nil) (fun _ _ _ _ _ => .nil) ?_ ?_ ?_ started s
  · intro started c s _ ih
    exact ih.cons_plainKind _
  · intro started c s letter major minor hopening _ ih
    obtain ⟨number, -, hopens, -⟩ := exists_word_of_opening hopening
    exact .opening hopens ih
  · intro started c s letter major minor m rest hopening hm hne _ ih
    obtain ⟨number, -, hopens, -⟩ := exists_word_of_opening hopening
    obtain ⟨htakes, -⟩ := messageText_spec hm hne
    exact .message hopens htakes ih

/-- **A text is the row of its pieces**, none of which is empty, each with the shape of what it is
for, and they follow each other as they may. -/
structure Partition (s : List Char) (ps : List Piece) : Prop where
  text : ps.flatMap Piece.text = s
  ne_nil : ∀ p ∈ ps, p.text ≠ []
  shape : ∀ p ∈ ps, p.kind.Shape p.text
  arranged : Arranged false (ps.map Piece.kind)

theorem partition_pieces {s : List Char} (h : (pieces false s).fault = none) :
    Partition s (pieces false s).pieces :=
  ⟨flatMap_text_pieces h, text_ne_nil_of_mem_pieces false s, shape_pieces false s,
    arranged_pieces false s⟩

/-! ## What stems from a piece -/

/-- Whether a piece is a comment. -/
def PlacedPiece.isRemark (p : PlacedPiece) : Bool :=
  match p.kind with
  | .remark _ => true
  | _ => false

/-- Whether a piece is a word of an instruction or a message. -/
def PlacedPiece.isPart (p : PlacedPiece) : Bool :=
  match p.kind with
  | .opening _ _ _ => true
  | .argument _ _ => true
  | .message _ => true
  | _ => false

/-- Whether a piece is left out with a note. -/
def Piece.isLeftOut (p : Piece) : Bool :=
  match p.kind with
  | .orphan _ _ => true
  | .stray _ => true
  | _ => false

/-- A part of an instruction: the instruction as it is opened, or one of its arguments. -/
inductive InstructionPart where
  | head (i : Instruction)
  | argument (a : Argument)

/-- The parts of an instruction. -/
def Instruction.parts (i : Instruction) : List InstructionPart :=
  .head i :: i.arguments.map .argument

/-- A comment stems from a piece. -/
inductive Comment.StemsFrom (line : Int) (p : PlacedPiece) : Comment → Prop where
  | remark {note : List Char} (hkind : p.kind = .remark note) :
      StemsFrom line p ⟨line, String.ofList (trim note), some (p.span line)⟩

/-- A part of an instruction stems from a piece. Where the instruction stops, and which arguments
it has, is settled by the pieces behind the one that opens it. -/
inductive InstructionPart.StemsFrom (line : Int) (p : PlacedPiece) : InstructionPart → Prop where
  | head {letter : Char} {major minor stop : Int} {arguments : List Argument}
      (hkind : p.kind = .opening letter major minor) :
      StemsFrom line p
        (.head ⟨String.singleton letter, major, minor, ⟨line, p.start, stop⟩, arguments⟩)
  | flag {letter : Char} (hkind : p.kind = .argument letter none) :
      StemsFrom line p (.argument ⟨String.singleton letter, .flag, some (p.span line)⟩)
  | value {letter : Char} {x : Binary64} (hkind : p.kind = .argument letter (some x)) :
      StemsFrom line p (.argument ⟨String.singleton letter, .number x, some (p.span line)⟩)
  | message {text : List Char} (hkind : p.kind = .message text) :
      StemsFrom line p
        (.argument ⟨"", .message (String.ofList (trim text)), some (p.span line)⟩)

/-- A note stems from a piece. -/
inductive Note.StemsFrom (line : Int) (p : Piece) : Note → Prop where
  | orphan {letter : Char} {number : List Char} (hkind : p.kind = .orphan letter number) :
      StemsFrom line p (.orphanWord letter number line)
  | stray {c : Char} (hkind : p.kind = .stray c) : StemsFrom line p (.strayCharacter c line)

/-- **What a line says accounts for its pieces**, one by one and in their order. -/
structure LineContent.Accounts (line offset : Int) (ps : List Piece) (content : LineContent) :
    Prop where
  comments : List.Forall₂ (Comment.StemsFrom line)
    ((placePieces offset ps).filter PlacedPiece.isRemark) content.comments
  parts : List.Forall₂ (InstructionPart.StemsFrom line)
    ((placePieces offset ps).filter PlacedPiece.isPart)
    (content.instructions.flatMap Instruction.parts)
  notes : List.Forall₂ (Note.StemsFrom line) (ps.filter Piece.isLeftOut) content.notes

/-- Items that are picked one by one stem from what is kept. -/
theorem forall₂_filter_filterMap {α β : Type} {R : α → β → Prop} {keep : α → Bool}
    {pick : α → Option β}
    (h : ∀ a, (keep a = true ∧ ∃ b, pick a = some b ∧ R a b) ∨ (keep a = false ∧ pick a = none))
    (l : List α) : List.Forall₂ R (l.filter keep) (l.filterMap pick) := by
  induction l with
  | nil => exact .nil
  | cons a l ih =>
      rcases h a with ⟨hkeep, b, hpick, hab⟩ | ⟨hkeep, hpick⟩
      · rw [List.filter_cons_of_pos hkeep, List.filterMap_cons_some hpick]
        exact .cons hab ih
      · rw [List.filter_cons_of_neg (by simp [hkeep]), List.filterMap_cons_none hpick]
        exact ih

theorem comments_contentOf (line offset : Int) (ps : List Piece) :
    List.Forall₂ (Comment.StemsFrom line) ((placePieces offset ps).filter PlacedPiece.isRemark)
      (contentOf line offset ps).comments := by
  refine forall₂_filter_filterMap (fun p => ?_) _
  obtain ⟨kind, start, stop⟩ := p
  cases kind with
  | remark note => exact .inl ⟨rfl, _, rfl, .remark rfl⟩
  | _ => exact .inr ⟨rfl, rfl⟩

theorem notes_contentOf (line offset : Int) (ps : List Piece) :
    List.Forall₂ (Note.StemsFrom line) (ps.filter Piece.isLeftOut)
      (contentOf line offset ps).notes := by
  refine forall₂_filter_filterMap (fun p => ?_) _
  obtain ⟨kind, text⟩ := p
  cases kind with
  | orphan letter number => exact .inl ⟨rfl, _, rfl, .orphan rfl⟩
  | stray c => exact .inl ⟨rfl, _, rfl, .stray rfl⟩
  | _ => exact .inr ⟨rfl, rfl⟩

/-! ## Parts of instructions -/

section
variable {line : Int} {earlier : List PlacedPiece}

/-- An argument that an instruction takes up stems from the piece behind those of its parts. -/
theorem parts_extend {i : Instruction} {p : PlacedPiece} {a : Argument}
    (h : List.Forall₂ (InstructionPart.StemsFrom line) earlier i.parts)
    (ha : InstructionPart.StemsFrom line p (.argument a)) (stop : Int) :
    List.Forall₂ (InstructionPart.StemsFrom line) (earlier ++ [p]) (i.extend a stop).parts := by
  cases h with
  | cons hhead harguments =>
      rw [Instruction.parts, Instruction.extend, List.map_append, List.cons_append]
      refine .cons ?_ (List.rel_append harguments (.cons ha .nil))
      cases hhead with
      | head hkind => exact .head hkind

/-- What stands anywhere is part of no instruction. -/
theorem gather_anywhere {p : PlacedPiece} (hp : p.kind.standsAnywhere = true)
    (current : Option Instruction) (ps : List PlacedPiece) :
    gatherInstructions line current (p :: ps) = gatherInstructions line current ps ∧
      p.isPart = false := by
  obtain ⟨kind, start, stop⟩ := p
  cases kind with
  | blanks | checksum | lineNumber | remark | stray => exact ⟨rfl, rfl⟩
  | opening | argument | message | orphan => cases hp

/-- An opening word closes the instruction that is open and opens one. -/
theorem gather_opening {p : PlacedPiece} {letter : Char} {major minor : Int}
    (hkind : p.kind = .opening letter major minor) (current : Option Instruction)
    (ps : List PlacedPiece) :
    ∃ i : Instruction, gatherInstructions line current (p :: ps) =
        current.toList ++ gatherInstructions line (some i) ps ∧
      List.Forall₂ (InstructionPart.StemsFrom line) [p] i.parts := by
  obtain ⟨kind, start, stop⟩ := p
  obtain rfl : kind = .opening letter major minor := hkind
  exact ⟨_, rfl, .cons (.head rfl) .nil⟩

/-- An argument word and a message become an argument of the instruction that is open. -/
theorem gather_argument {p : PlacedPiece}
    (hkind : (∃ letter number, p.kind = .argument letter number) ∨ ∃ m, p.kind = .message m)
    (i : Instruction) (ps : List PlacedPiece) :
    ∃ a, gatherInstructions line (some i) (p :: ps) =
        gatherInstructions line (some (i.extend a p.stop)) ps ∧
      InstructionPart.StemsFrom line p (.argument a) := by
  obtain ⟨kind, start, stop⟩ := p
  rcases hkind with ⟨letter, number, hkind⟩ | ⟨m, hkind⟩
  · obtain rfl : kind = .argument letter number := hkind
    cases number with
    | none => exact ⟨_, rfl, .flag rfl⟩
    | some x => exact ⟨_, rfl, .value rfl⟩
  · obtain rfl : kind = .message m := hkind
    exact ⟨_, rfl, .message rfl⟩

/-- **The parts of the instructions of a line stem from its pieces**, when the parts of the one that
is open stem from pieces in front of them. -/
theorem parts_gatherInstructions {started : Bool} {ks : List PieceKind}
    (h : Arranged started ks) {ps : List PlacedPiece} (hps : ps.map PlacedPiece.kind = ks)
    {current : Option Instruction} (hstarted : current.isSome = started)
    (hcurrent : List.Forall₂ (InstructionPart.StemsFrom line) earlier
      (current.toList.flatMap Instruction.parts)) :
    List.Forall₂ (InstructionPart.StemsFrom line) (earlier ++ ps.filter PlacedPiece.isPart)
      ((gatherInstructions line current ps).flatMap Instruction.parts) := by
  induction h generalizing ps current earlier with
  | nil =>
      obtain rfl := List.map_eq_nil_iff.1 hps
      rw [List.filter_nil, List.append_nil]
      exact hcurrent
  | anywhere hk hrest ih =>
      obtain ⟨p, ps, rfl, rfl, rfl⟩ := List.map_eq_cons_iff.1 hps
      obtain ⟨hgather, hpart⟩ := gather_anywhere hk current ps
      rw [hgather, List.filter_cons_of_neg (by simp [hpart])]
      exact ih rfl hstarted hcurrent
  | opening hletter hrest ih =>
      -- The instruction that is open is complete, and this piece is the head of the next one.
      obtain ⟨p, ps, rfl, hkind, rfl⟩ := List.map_eq_cons_iff.1 hps
      obtain ⟨i, hgather, hparts⟩ := gather_opening hkind current ps
      have hpart : p.isPart = true := by rw [PlacedPiece.isPart, hkind]
      have hopened : List.Forall₂ (InstructionPart.StemsFrom line) [p]
          ((some i).toList.flatMap Instruction.parts) := by
        rwa [Option.toList_some, List.flatMap_singleton]
      rw [hgather, List.filter_cons_of_pos hpart, List.flatMap_append]
      exact List.rel_append hcurrent (ih rfl rfl hopened)
  | message hletter hmessage hrest ih =>
      -- Two pieces at once: the head of the next instruction, and its first argument.
      obtain ⟨p, qs, rfl, hp, hqs⟩ := List.map_eq_cons_iff.1 hps
      obtain ⟨q, ps, rfl, hq, rfl⟩ := List.map_eq_cons_iff.1 hqs
      obtain ⟨i, hopening, hparts⟩ := gather_opening hp current (q :: ps)
      obtain ⟨a, hargument, ha⟩ := gather_argument (.inr ⟨_, hq⟩) i ps
      have hpartp : p.isPart = true := by rw [PlacedPiece.isPart, hp]
      have hpartq : q.isPart = true := by rw [PlacedPiece.isPart, hq]
      have hopened : List.Forall₂ (InstructionPart.StemsFrom line) [p, q]
          ((some (i.extend a q.stop)).toList.flatMap Instruction.parts) := by
        rw [Option.toList_some, List.flatMap_singleton]
        exact parts_extend hparts ha q.stop
      rw [hopening, hargument, List.filter_cons_of_pos hpartp, List.filter_cons_of_pos hpartq,
        List.flatMap_append]
      exact List.rel_append hcurrent (ih rfl rfl hopened)
  | argument hrest ih =>
      -- Behind an opening word there is an instruction that takes the argument up.
      obtain ⟨p, ps, rfl, hkind, rfl⟩ := List.map_eq_cons_iff.1 hps
      obtain ⟨i, rfl⟩ := Option.isSome_iff_exists.1 hstarted
      obtain ⟨a, hgather, ha⟩ := gather_argument (.inl ⟨_, _, hkind⟩) i ps
      have hpart : p.isPart = true := by rw [PlacedPiece.isPart, hkind]
      rw [Option.toList_some, List.flatMap_singleton] at hcurrent
      have hextended := parts_extend hcurrent ha p.stop
      rw [hgather, List.filter_cons_of_pos hpart, List.append_cons]
      refine ih rfl rfl ?_
      rwa [Option.toList_some, List.flatMap_singleton]
  | orphan hrest ih =>
      obtain ⟨p, ps, rfl, hkind, rfl⟩ := List.map_eq_cons_iff.1 hps
      obtain ⟨kind, start, stop⟩ := p
      obtain rfl : kind = .orphan _ _ := hkind
      exact ih rfl hstarted hcurrent

end

/-! ## Lines -/

/-- **Nothing on a line is lost.** -/
theorem readLine_accounts {s : List Char} {line offset : Int} {content : LineContent}
    (h : readLine s line offset = .ok content) :
    ∃ ps, Partition s ps ∧ content.Accounts line offset ps := by
  simp only [readLine] at h
  split at h
  · cases h
  next hfault =>
    cases h
    have hnone : List.Forall₂ (InstructionPart.StemsFrom line) []
        ((none : Option Instruction).toList.flatMap Instruction.parts) := .nil
    exact ⟨_, partition_pieces hfault, comments_contentOf line offset _,
      parts_gatherInstructions (arranged_pieces false s) (map_kind_placePieces offset _) rfl hnone,
      notes_contentOf line offset _⟩

/-- A line with pieces of all kinds. -/
def mixedLine : List Char := "N1 X2?G1 Y3(c)*7 M117 Hi;d".toList

/-- Of its pieces, a word and a character are left out. -/
theorem readLine_accounts_mixed :
    ∃ content ps, readLine mixedLine 1 0 = .ok content ∧ Partition mixedLine ps ∧
      content.Accounts 1 0 ps ∧ content.comments.map Comment.value = ["c", "d"] ∧
      content.instructions.map Instruction.text = ["G1 Y3", "M117 Hi"] ∧
      content.notes = [.orphanWord 'X' ['2'] 1, .strayCharacter '?' 1] := by
  have hcontent : (readLine mixedLine 1 0).toOption.map (fun content =>
      (content.comments.map Comment.value, content.instructions.map Instruction.text,
        content.notes)) =
      some (["c", "d"], ["G1 Y3", "M117 Hi"],
        [.orphanWord 'X' ['2'] 1, .strayCharacter '?' 1]) := by
    decide +kernel
  obtain ⟨content, hread, hcontent⟩ := Program.exists_ok_of_toOption hcontent
  obtain ⟨ps, hpartition, haccounts⟩ := readLine_accounts hread
  exact ⟨content, ps, hread, hpartition, haccounts, congrArg Prod.fst hcontent,
    congrArg (·.2.1) hcontent, congrArg (·.2.2) hcontent⟩

end OpcodeAtlas
