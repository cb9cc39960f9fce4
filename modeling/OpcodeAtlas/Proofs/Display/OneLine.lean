import OpcodeAtlas.Proofs.Display.Documented
import OpcodeAtlas.Proofs.Number.Limit
import OpcodeAtlas.Proofs.Program.ArgumentText
import OpcodeAtlas.Proofs.Program.LineNumber
import OpcodeAtlas.Proofs.Text.OneLine

/-!
# One line for one item

A display line is printed on one line: its text has no line boundary, and no blanks at its ends
(`DisplayLine.isOneLine_ofText`).

There are two reasons for this. A comment and a message are trimmed, and they are cut off what is
left of a line, on which a boundary can only be the last character, even where a parenthesis is not
closed. Everything else that is printed is a word without blanks: a code, or a letter and a number,
for all the forms that a number has. An instruction is such words and messages with spaces between
them, the empty ones left out.
-/

set_option autoImplicit false

namespace OpcodeAtlas

open Text Number

/-! ## Numbers -/

/-- **The text of a double has no blanks**: it is a number, a number and an exponent, or one of the
words for what is not finite. -/
theorem Binary64.not_isBlank_numberText {x : Binary64} (hx : x.Canonical) :
    ∀ c ∈ (numberText x).toList, isBlank c = false := by
  have hword {w : List Char} (h : (w.all fun c => !isBlank c) = true) :
      ∀ c ∈ w, isBlank c = false := by simpa using h
  cases x with
  | finite neg m s =>
      have hshown := Binary64.shownAs_numberText hx rfl
      generalize (numberText (.finite neg m s)).toList = text at hshown ⊢
      cases hshown with
      | number hnumber hread hsame => exact hnumber.not_isBlank
      | exponent hnumber hexponent hnot =>
          refine List.forall_mem_append.2 ⟨hnumber.not_isBlank, ?_⟩
          exact List.forall_mem_cons.2 ⟨by decide, hexponent.not_isBlank⟩
  | infinite neg =>
      cases neg with
      | false => exact hword (by decide +kernel)
      | true => exact hword (by decide +kernel)
  | nan => exact hword (by decide +kernel)

/-! ## What a line says -/

/-- The note of a comment is cut off its text. -/
theorem RemarkText.isInfix {note text : List Char} (h : RemarkText note text) : note <:+: text := by
  cases h with
  | semicolon => exact (List.suffix_cons ';' note).isInfix
  | closed => exact ⟨['('], [')'], rfl⟩
  | unclosed => exact (List.suffix_cons '(' note).isInfix

/-- The text of a piece is cut off the line. -/
theorem text_isInfix_of_mem_pieces {started : Bool} {s : List Char} {p : Piece}
    (hp : p ∈ (pieces started s).pieces) : p.text <:+: s := by
  obtain ⟨before, behind, hsplit⟩ := List.append_of_mem hp
  have hprefix := (flatMap_text_isPrefix started s).isInfix
  rw [hsplit, List.flatMap_append, List.flatMap_cons] at hprefix
  exact List.IsInfix.trans ⟨_, _, List.append_assoc _ _ _⟩ hprefix

section
variable {s : List Char} {line offset : Int} {content : LineContent}

/-- **The value of a comment stands on one line.** -/
theorem isOneLine_comment (hs : BreaksAtEnd s) (hread : readLine s line offset = .ok content)
    {c : Comment} (hc : c ∈ content.comments) : IsOneLine c.value.toList := by
  obtain ⟨-, rfl⟩ := contentOf_of_readLine hread
  have hvalue := List.mem_map_of_mem (f := Comment.value) hc
  rw [values_contentOf, List.filterMap_map] at hvalue
  obtain ⟨p, hp, hremark⟩ := List.mem_filterMap.1 hvalue
  have hfits := (shape_pieces false s p hp).fits
  have hcut := text_isInfix_of_mem_pieces hp
  obtain ⟨kind, text⟩ := p
  cases kind with
  | remark note =>
      rw [← Option.some.inj hremark, String.toList_ofList]
      exact isOneLine_trim hs ((RemarkText.isInfix hfits).trans hcut)
  | _ => cases hremark

/-- The text of a word is its letter and no blanks behind it. -/
theorem isOneLine_word {letter : Char} {number text shown : List Char}
    (hword : WordText letter number text) (hshown : ∀ c ∈ shown, isBlank c = false) :
    IsOneLine (letter :: shown) := by
  have hletter := isWordLetter_of_isUpperLetter hword.isUpperLetter
  apply isOneLine_of_not_isBlank
  exact List.forall_mem_cons.2 ⟨isBlank_of_isWordLetter hletter, hshown⟩

/-- **The text of an argument stands on one line.** -/
theorem isOneLine_argument (hs : BreaksAtEnd s) (hread : readLine s line offset = .ok content)
    {i : Instruction} (hi : i ∈ content.instructions) {a : Argument} (ha : a ∈ i.arguments) :
    IsOneLine a.text.toList := by
  obtain ⟨p, hp, hargument, -⟩ := exists_piece_of_argument hread hi ha
  have hshape := shape_pieces false s p hp
  have hcut := text_isInfix_of_mem_pieces hp
  obtain ⟨kind, text⟩ := p
  dsimp only at hargument hshape hcut
  -- The letter and the value of the argument are those of the piece.
  cases hshape with
  | flag hletter hword =>
      obtain ⟨hl, hv⟩ := Prod.mk.inj (Option.some.inj hargument)
      simp only [Argument.text, ← hv, ← hl, String.toList_singleton]
      exact isOneLine_word hword (List.forall_mem_nil _)
  | value hletter hword hnumber hx hopens =>
      obtain ⟨hl, hv⟩ := Prod.mk.inj (Option.some.inj hargument)
      simp only [Argument.text, ← hv, ← hl, String.toList_append, String.toList_singleton]
      exact isOneLine_word hword (Binary64.not_isBlank_numberText (canonical_of_readDecimal? hx))
  | message =>
      obtain ⟨-, hv⟩ := Prod.mk.inj (Option.some.inj hargument)
      simp only [Argument.text, ← hv, String.toList_ofList]
      exact isOneLine_trim hs hcut
  | _ => cases hargument

/-- **The text of an instruction stands on one line.** -/
theorem isOneLine_instruction (hs : BreaksAtEnd s) (hread : readLine s line offset = .ok content)
    {i : Instruction} (hi : i ∈ content.instructions) : IsOneLine i.text.toList := by
  obtain ⟨letter, hletter, hmnemonic⟩ := isMnemonic_of_readLine hread i hi
  have hcode : IsOneLine i.code.toList := by
    apply isOneLine_of_not_isBlank
    intro c hc
    rw [Instruction.code, hmnemonic] at hc
    exact (ascii_of_isOpcodeCharacter (isOpcodeCharacter_of_mem hletter _ _ c hc)).2
  have hcodene : i.code ≠ "" := by
    rw [Instruction.code, hmnemonic]
    exact opcode_ne_empty letter _ _
  -- The code comes first, and of the other words those are written that are not empty.
  have hwords : i.words = i.code :: (i.arguments.map Argument.text).filter (· ≠ "") := by
    exact List.filter_cons_of_pos (decide_eq_true hcodene)
  rw [Instruction.text, hwords, String.toList_intercalate, List.map_cons]
  have hspace : " ".toList = [' '] := rfl
  rw [hspace, intercalate_spaces]
  refine isOneLine_joined hcode (fun hnil => hcodene (String.toList_eq_nil_iff.1 hnil)) ?_
  intro w hw
  obtain ⟨word, hword, rfl⟩ := List.mem_map.1 hw
  obtain ⟨hmem, hne⟩ := List.mem_filter.1 hword
  obtain ⟨a, ha, rfl⟩ := List.mem_map.1 hmem
  refine ⟨isOneLine_argument hs hread hi ha, fun hnil => ?_⟩
  exact of_decide_eq_true hne (String.toList_eq_nil_iff.1 hnil)

end

/-! ## Display lines -/

/-- A display item is a comment or an instruction of one of the lines of the text. -/
theorem exists_readLine_of_mem {text : List Char} (h : Readable (lines text)) {x : DisplayItem}
    (hx : x ∈ displayItems (sourceLines 1 0 none (lines text))) :
    ∃ raw ∈ lines text, ∃ line offset content,
      readLine (body raw) line offset = .ok content ∧ x ∈ content.items := by
  rw [displayItems_sourceLines h (Int.le_refl 1)] at hx
  obtain ⟨content, hcontent, hx⟩ := List.mem_flatMap.1 hx
  obtain ⟨before, raw, after, hlines, rfl⟩ := exists_of_mem_contentsFrom hcontent
  have hraw : raw ∈ lines text := hlines ▸ List.mem_append_right before List.mem_cons_self
  exact ⟨raw, hraw, _, _, _, readLine_eq_ok (h raw hraw) _ _, hx⟩

namespace DisplayLine

/-- The text of a display line is the value of the comment or the text of the instruction. -/
theorem isOneLine_ofItem (records : RecordSource) {s : List Char} (hs : BreaksAtEnd s)
    {line offset : Int} {content : LineContent} (hread : readLine s line offset = .ok content)
    {x : DisplayItem} (hx : x ∈ content.items) : IsOneLine (ofItem records x).text.toList := by
  rcases List.mem_append.1 hx with hx | hx
  · obtain ⟨c, hc, rfl⟩ := List.mem_map.1 hx
    exact isOneLine_comment hs hread hc
  · obtain ⟨i, hi, rfl⟩ := List.mem_map.1 hx
    exact isOneLine_instruction hs hread hi

/-- **One display line is one printed line.** The text of every line that shows a part of a program
has no line boundary and no blanks at its ends; so if it is not empty, it is cut into no other line
than itself. -/
theorem isOneLine_ofText {records : RecordSource} {text : List Char} {ls : List DisplayLine}
    (h : ofText records text = .ok ls) :
    ∀ l ∈ ls, IsOneLine l.text.toList ∧ (l.text ≠ "" → lines l.text.toList = [l.text.toList]) := by
  intro l hl
  cases hread : Program.read text with
  | error f =>
      rw [ofText, hread] at h
      cases h
  | ok p =>
      rw [ofText, hread] at h
      cases h
      obtain ⟨hreadable, hlines⟩ := Program.lines_of_read hread
      obtain ⟨x, hx, rfl⟩ := List.mem_map.1 hl
      rw [hlines] at hx
      obtain ⟨raw, hraw, line, offset, content, hcontent, hx⟩ := exists_readLine_of_mem hreadable hx
      have hone := isOneLine_ofItem records (breaksAtEnd_body hraw) hcontent hx
      exact ⟨hone, fun hne => hone.lines_eq fun hnil => hne (String.toList_eq_nil_iff.1 hnil)⟩

/-- A program whose lines end with separators: behind a message, in a parenthesis that is not
closed, and behind a number that is shown with an exponent. -/
theorem isOneLine_ofText_separated :
    ∃ ls, ofText (fun _ => none) "M117 a\u2028( b\x0bG1 X1234567.5\x85".toList = .ok ls ∧
      ls.map DisplayLine.text = ["M117 a", "b", "G1 X1.23457e+06"] ∧
      ∀ l ∈ ls, IsOneLine l.text.toList ∧
        (l.text ≠ "" → lines l.text.toList = [l.text.toList]) := by
  have htexts : (ofText (fun _ => none) "M117 a\u2028( b\x0bG1 X1234567.5\x85".toList).toOption.map
      (fun ls => ls.map DisplayLine.text) = some ["M117 a", "b", "G1 X1.23457e+06"] := by
    decide +kernel
  obtain ⟨ls, hls, htexts⟩ := Program.exists_ok_of_toOption htexts
  exact ⟨ls, hls, htexts, isOneLine_ofText hls⟩

end DisplayLine

end OpcodeAtlas
