import OpcodeAtlas.Proofs.Program.DocumentOrder
import OpcodeAtlas.Proofs.Program.Word
import OpcodeAtlas.Proofs.Program.Wording
import OpcodeAtlas.Proofs.Text.Blank
import OpcodeAtlas.Proofs.Text.LetterCase

/-!
# Spellings of an opcode

An opcode may be spelled in many ways: with blanks in front, in either letter case, with a gap
behind the letter, with zeros in front of its numbers, and with a point where it has no subcode
(`SpellsOpcode`). A program that holds nothing but a spelling of an opcode is read as the one
instruction with that opcode (`Program.displayItems_of_spelling`).
-/

set_option autoImplicit false

namespace OpcodeAtlas

open Text

/-- A text spells an opcode. -/
inductive SpellsOpcode (letter : Char) (major minor : Nat) : List Char → Prop where
  | mk {c : Char} {front gap number : List Char} (hfront : ∀ b ∈ front, isBlank b = true)
      (hcase : c.toUpper = letter) (hgap : ∀ g ∈ gap, isGap g = true)
      (hnumber : CodeNumberText major minor number) :
      SpellsOpcode letter major minor (front ++ c :: (gap ++ number))

/-! ## The word -/

/-- A character that becomes a letter of a word is one. -/
theorem isWordLetter_of_toUpper {c : Char} (hc : isWordLetter c.toUpper = true) :
    isWordLetter c = true := by
  by_cases hsmall : 97 ≤ c.toNat ∧ c.toNat ≤ 122
  · simp only [isWordLetter, Bool.or_eq_true, Bool.and_eq_true, decide_eq_true_iff]
    exact .inr hsmall
  · rwa [toUpper_of_not_small hsmall] at hc

/-- The letters that open instructions are letters of words. -/
theorem isWordLetter_of_opens {letter : Char} (hletter : letter ∈ commandLetters ++ leadingLetters)
    {c : Char} (hcase : c.toUpper = letter) : isWordLetter c = true := by
  have hword : isWordLetter letter = true := by
    rcases openingLetter_cases hletter with rfl | rfl | rfl | rfl <;> decide
  exact isWordLetter_of_toUpper (hcase ▸ hword)

/-- A spelling stands on one line, from its letter on. -/
theorem isBoundary_of_word {c : Char} {gap number : List Char} {major minor : Nat}
    (hc : isWordLetter c = true) (hgap : ∀ g ∈ gap, isGap g = true)
    (hnumber : CodeNumberText major minor number) :
    ∀ d ∈ c :: (gap ++ number), isBoundary d = false := by
  intro d hd
  rcases List.mem_cons.1 hd with rfl | hd
  · exact isBoundary_of_not_isBlank (isBlank_of_isWordLetter hc)
  rcases List.mem_append.1 hd with hd | hd
  · have hd := hgap d hd
    simp only [isGap, Bool.or_eq_true, beq_iff_eq] at hd
    rcases hd with rfl | rfl
    · decide
    · decide
  · exact isBoundary_of_not_isBlank (hnumber.numberText.not_isBlank d hd)

/-! ## The line -/

namespace LineReading.Says

variable {started : Bool} {current : Option Wording} {ws : List Wording}

/-- Blanks in front of a text say nothing. -/
theorem of_blanks {front s : List Char} (hfront : ∀ b ∈ front, isBlank b = true)
    (hs : ∀ b ∈ s.head?, isBlank b = false) (h : (OpcodeAtlas.pieces started s).Says current ws) :
    (OpcodeAtlas.pieces started (front ++ s)).Says current ws := by
  cases front with
  | nil => exact h
  | cons b front =>
      obtain ⟨hb, hfront⟩ := List.forall_mem_cons.1 hfront
      rw [List.cons_append, pieces_plain (Lexed.next_blanks front hb hfront hs) rfl]
      exact h.blanks (b :: front)

/-- A line of blanks says nothing. -/
theorem of_blank_line {s : List Char} (hs : ∀ b ∈ s, isBlank b = true) :
    (OpcodeAtlas.pieces false s).Says none [] := by
  have hnil : (OpcodeAtlas.pieces false []).Says none [] := by
    rw [pieces_nil]
    exact end_of_line none
  have h := of_blanks hs (by simp) hnil
  rwa [List.append_nil] at h

/-- **A spelling says the opcode.** -/
theorem of_spelling {letter c : Char} {major minor : Nat} {gap number : List Char}
    (hletter : letter ∈ commandLetters ++ leadingLetters) (hcase : c.toUpper = letter)
    (hgap : ∀ g ∈ gap, isGap g = true) (hnumber : CodeNumberText major minor number) :
    (OpcodeAtlas.pieces false (c :: (gap ++ number))).Says none
      [⟨String.singleton letter, major, minor, []⟩] := by
  have hnext := Lexed.next_numberText gap (isWordLetter_of_opens hletter hcase) hgap
    hnumber.numberText endsNumber_nil
  rw [List.append_nil, hcase] at hnext
  rw [pieces_opening hnext (opening?_of_text hletter hnumber) (messageText_nil _ _ _), pieces_nil]
  exact (end_of_line (some ⟨String.singleton letter, major, minor, []⟩)).opening _

end LineReading.Says

/-! ## The program -/

/-- Lines of blanks in front of a line add no item. -/
theorem items_contentsFrom {before : List (List Char)}
    (hbefore : ∀ l ∈ before, ∀ b ∈ l, isBlank b = true) (raw : List Char)
    (number offset : Int) :
    ∃ line start, (contentsFrom number offset (before ++ [raw])).flatMap LineContent.items =
      (contentOf line start (pieces false (body raw)).pieces).items := by
  induction before generalizing number offset with
  | nil => exact ⟨number, offset, List.flatMap_singleton _ _⟩
  | cons l before ih =>
      obtain ⟨hl, hbefore⟩ := List.forall_mem_cons.1 hbefore
      obtain ⟨line, start, hitems⟩ := ih hbefore (number + 1) (offset + l.length)
      have hbody : ∀ b ∈ body l, isBlank b = true := fun b hb =>
        hl b ((body_isPrefix l).subset hb)
      obtain ⟨is, hcontent, his⟩ :=
        (LineReading.Says.of_blank_line hbody).contentOf_eq number offset
      obtain rfl : is = [] := List.map_eq_nil_iff.1 his
      refine ⟨line, start, ?_⟩
      rw [List.cons_append, contentsFrom, List.flatMap_cons, hcontent, hitems]
      rfl

/-- Blanks in front of a text, line boundaries among them, do not change what it says, if it is one
line of instructions alone. -/
theorem Program.displayItems_of_says {front s : List Char} {ws : List Wording}
    (hfront : ∀ b ∈ front, isBlank b = true) (hhead : ∀ b ∈ s.head?, isBlank b = false)
    (hne : s ≠ []) (hboundary : ∀ c ∈ s, isBoundary c = false)
    (htells : (pieces false s).Says none ws) :
    ∃ (p : Program) (is : List Instruction), Program.read (front ++ s) = .ok p ∧
      displayItems p.lines = is.map DisplayItem.instruction ∧ is.map Instruction.wording = ws := by
  -- All lines are blank but the last one, which ends with the text.
  obtain ⟨before, last, hlines, hbefore, hlast⟩ := exists_lines_append hfront hne hboundary
  have hlastSays : (pieces false (body (last ++ s))).Says none ws := by
    rw [body_append last hne hboundary]
    exact .of_blanks hlast hhead htells
  have hreadable : Readable (Text.lines (front ++ s)) := by
    rw [hlines]
    intro raw hraw
    rcases List.mem_append.1 hraw with hraw | hraw
    · exact (LineReading.Says.of_blank_line fun b hb =>
        hbefore raw hraw b ((body_isPrefix raw).subset hb)).fault
    · rw [List.mem_singleton.1 hraw]
      exact hlastSays.fault
  obtain ⟨p, hread, hp⟩ := Program.exists_read hreadable
  obtain ⟨line, start, hitems⟩ := items_contentsFrom hbefore (last ++ s) 1 0
  obtain ⟨is, hcontent, hws⟩ := hlastSays.contentOf_eq line start
  refine ⟨p, is, hread, ?_, hws⟩
  rw [hp, displayItems_sourceLines hreadable (Int.le_refl 1), hlines, hitems, hcontent]
  rfl

/-- **A program that spells an opcode** is the instruction with that opcode. -/
theorem Program.displayItems_of_spelling {letter : Char} {major minor : Nat} {text : List Char}
    (hletter : letter ∈ commandLetters ++ leadingLetters)
    (h : SpellsOpcode letter major minor text) :
    ∃ p i, Program.read text = .ok p ∧ displayItems p.lines = [.instruction i] ∧
      i.wording = ⟨String.singleton letter, major, minor, []⟩ := by
  obtain @⟨c, front, gap, number, hfront, hcase, hgap, hnumber⟩ := h
  have hc := isWordLetter_of_opens hletter hcase
  have hhead : ∀ b ∈ (c :: (gap ++ number)).head?, isBlank b = false := by
    rintro b ⟨⟩
    exact isBlank_of_isWordLetter hc
  obtain ⟨p, is, hread, hitems, hws⟩ :=
    displayItems_of_says hfront hhead (List.cons_ne_nil _ _) (isBoundary_of_word hc hgap hnumber)
      (.of_spelling hletter hcase hgap hnumber)
  obtain ⟨i, rfl, hi⟩ := List.map_eq_singleton_iff.1 hws
  exact ⟨p, i, hread, hitems, hi⟩

end OpcodeAtlas
