import OpcodeAtlas.Proofs.Number.Limit
import OpcodeAtlas.Proofs.Program.LineNumber

/-!
# Writing what was read

The text of an instruction cannot always be written. For an instruction that was read it can
(`write_of_mem_reading`), because its code was read within the digit limit, and the whole numbers
among its arguments are doubles.
-/

set_option autoImplicit false

namespace OpcodeAtlas

open Text Number

/-! ## Texts within the digit limit -/

theorem writeNumber_of_canonical {x : Binary64} (hx : x.Canonical) :
    writeNumber x = .ok (numberText x) := by
  rw [writeNumber, numberText]
  cases hn : x.toInt? with
  | some n => exact writeInteger_of_toInt? hx hn
  | none => rfl

theorem writeOpcode_eq_ok (mnemonic : String) {major minor : Int}
    (hmajor : writeInteger major = .ok (toString major))
    (hminor : writeInteger minor = .ok (toString minor)) :
    writeOpcode mnemonic major minor = .ok (opcode mnemonic major minor) := by
  rw [writeOpcode, opcode, hmajor, hminor]
  split
  · rfl
  · rfl

theorem mapM_write {as : List Argument} (h : ∀ a ∈ as, a.write = .ok a.text) :
    as.mapM Argument.write = .ok (as.map Argument.text) := by
  induction as with
  | nil => rfl
  | cons a as ih =>
      obtain ⟨ha, has⟩ := List.forall_mem_cons.1 h
      rw [List.mapM_cons, ha, ih has]
      rfl

/-- An instruction is written as its text if its code and its arguments can be written. -/
theorem Instruction.write_eq_ok {i : Instruction}
    (hmajor : writeInteger i.major = .ok (toString i.major))
    (hminor : writeInteger i.minor = .ok (toString i.minor))
    (harguments : ∀ a ∈ i.arguments, a.write = .ok a.text) : i.write = .ok i.text := by
  rw [Instruction.write, writeOpcode_eq_ok i.mnemonic hmajor hminor, mapM_write harguments]
  rfl

-- An instruction that was made by hand may have a code that is too long to be written.
example : Instruction.write { mnemonic := "G", major := 10 ^ digitLimit } =
    .error .unprintable := by
  decide +kernel

/-! ## Instructions that were read -/

/-- A part of a code number was read within the limit. -/
theorem writeInteger_of_readCodePart {s : List Char} {n : Int} (h : readCodePart s = .ok n) :
    writeInteger n = .ok (toString n) := by
  rw [readCodePart] at h
  split at h
  · obtain rfl := Except.ok.inj h
    have hzero : Int.natAbs 0 < 10 ^ 1 := by decide
    exact writeInteger_of_lt hzero (by decide) (by decide)
  · exact writeInteger_of_readInteger h

/-- Both parts of a code number were. -/
theorem writeInteger_of_readCodeNumber {number : List Char} {major minor : Int}
    (h : readCodeNumber number = .ok (some (major, minor))) :
    writeInteger major = .ok (toString major) ∧ writeInteger minor = .ok (toString minor) := by
  unfold readCodeNumber at h
  split at h
  · cases h
  split at h
  · cases h
  split at h
  · cases h
  next hmajor =>
    split at h
    · cases h
    next hminor =>
      cases h
      exact ⟨writeInteger_of_readCodePart hmajor, writeInteger_of_readCodePart hminor⟩

/-- A part of an instruction of a line stems from one of the pieces of the line. -/
theorem exists_piece_of_part {number offset : Int} {s : List Char} {i : Instruction}
    (hi : i ∈ (contentOf number offset (pieces false s).pieces).instructions)
    {part : InstructionPart} (hpart : part ∈ i.parts) :
    ∃ p ∈ (pieces false s).pieces, ∃ q : PlacedPiece, q.kind = p.kind ∧
      part.StemsFrom number q := by
  have hnone : List.Forall₂ (InstructionPart.StemsFrom number) []
      ((none : Option Instruction).toList.flatMap Instruction.parts) := .nil
  have hparts := parts_gatherInstructions (arranged_pieces false s) (map_kind_placePieces offset _)
    rfl hnone
  obtain ⟨q, hq, hstems⟩ := exists_stem hparts (List.mem_flatMap.2 ⟨i, hi, hpart⟩)
  rw [List.nil_append] at hq
  have hmem : q.kind ∈ (pieces false s).pieces.map Piece.kind := by
    rw [← map_kind_placePieces offset]
    exact List.mem_map_of_mem (List.mem_of_mem_filter hq)
  obtain ⟨p, hp, hkind⟩ := List.mem_map.1 hmem
  exact ⟨p, hp, q, hkind.symm, hstems⟩

section
variable {number offset : Int} {s : List Char} {i : Instruction}

/-- The code of an instruction of a line can be written. -/
theorem writeInteger_of_mem_contentOf
    (hi : i ∈ (contentOf number offset (pieces false s).pieces).instructions) :
    writeInteger i.major = .ok (toString i.major) ∧
      writeInteger i.minor = .ok (toString i.minor) := by
  have hhead : .head i ∈ i.parts := List.mem_cons_self
  obtain ⟨p, hp, q, hkind, hstems⟩ := exists_piece_of_part hi hhead
  have hfits := (shape_pieces false s p hp).fits
  cases hstems with
  | head hopening =>
      rw [← hkind, hopening] at hfits
      obtain ⟨digits, -, hcode⟩ := hfits
      exact writeInteger_of_readCodeNumber hcode

/-- The arguments of an instruction of a line can be written. -/
theorem write_argument_of_mem_contentOf
    (hi : i ∈ (contentOf number offset (pieces false s).pieces).instructions) {a : Argument}
    (ha : a ∈ i.arguments) : a.write = .ok a.text := by
  have hpart : .argument a ∈ i.parts := List.mem_cons_of_mem _ (List.mem_map_of_mem ha)
  obtain ⟨p, hp, q, hkind, hstems⟩ := exists_piece_of_part hi hpart
  have hfits := (shape_pieces false s p hp).fits
  cases hstems with
  | flag => rfl
  | message => rfl
  | value hargument =>
      rw [← hkind, hargument] at hfits
      obtain ⟨digits, -, hx⟩ := hfits
      simp only [Argument.write, writeNumber_of_canonical (canonical_of_readDecimal? hx)]
      rfl

/-- **What a line says can be written.** -/
theorem write_of_mem_contentOf
    (hi : i ∈ (contentOf number offset (pieces false s).pieces).instructions) :
    i.write = .ok i.text := by
  obtain ⟨hmajor, hminor⟩ := writeInteger_of_mem_contentOf hi
  exact i.write_eq_ok hmajor hminor fun a ha => write_argument_of_mem_contentOf hi ha

end

/-- **What a reading delivers can be written**, also what comes in front of a fault. -/
theorem write_of_mem_reading {text : List Char} {l : SourceLine} (hl : .line l ∈ reading text)
    {i : Instruction} (hi : i ∈ l.instructions) : i.write = .ok i.text := by
  have hline : l ∈ sourceLines 1 0 none (lines text) := List.mem_filterMap.2 ⟨.line l, hl, rfl⟩
  have hsublist := (sourceLines_sublist 1 0 none (lines text)).2
  have hmem := hsublist.subset (List.mem_flatMap_of_mem hline hi)
  obtain ⟨content, hcontent, hi⟩ := List.mem_flatMap.1 hmem
  obtain ⟨before, raw, after, -, rfl⟩ := exists_of_mem_contentsFrom hcontent
  exact write_of_mem_contentOf hi

end OpcodeAtlas
