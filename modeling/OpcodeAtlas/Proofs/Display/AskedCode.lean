import OpcodeAtlas.Command.Run
import OpcodeAtlas.Proofs.Display.Documented
import OpcodeAtlas.Proofs.Program.InstructionShape
import OpcodeAtlas.Proofs.Text.UpperCase

/-!
# The code that is asked for and the code that is shown

A record can be reached in two ways: its code is asked for, or a program with the instruction is
shown. The text that is asked for is brought into the standard form of codes, while the instruction
is read, so that the first way takes less for the same code than the second one: no zeros in front,
no gap, no line number. The two ways lead to the same record in every registry just for the texts
that are the code in either letter case with blanks around it
(`agree_iff_isSpelling`).
-/

set_option autoImplicit false

namespace OpcodeAtlas

open Text

/-! ## Texts that are asked for -/

section
variable {c : Char}

theorem misses_opcodeRanges :
    (LetterCase.upperRuns.all fun r =>
      Nat.blt r.last 128 || opcodeRanges.all fun t => r.misses (.ofRange t)) = true := by
  decide +kernel

theorem leaves_opcodeRanges :
    (LetterCase.upperSequences.all fun e =>
      e.2.any fun n => !isOpcodeCharacter (Char.ofNat n)) = true := by
  decide +kernel

/-- Only characters of ASCII have opcode characters alone as their upper-case form. -/
theorem ascii_of_upperChar (hc : ∀ d ∈ LetterCase.upperChar c, isOpcodeCharacter d = true) :
    c.toNat < 128 := by
  rcases LetterCase.upperChar_cases c with ⟨codes, hmem, heq⟩ | ⟨r, hr, hhas, heq⟩ | heq
  · obtain ⟨n, hn, hleaves⟩ :=
      List.any_eq_true.1 (List.all_eq_true.1 leaves_opcodeRanges _ hmem)
    have hin := hc (Char.ofNat n) (heq ▸ List.mem_map_of_mem hn)
    rw [hin] at hleaves
    cases hleaves
  · have hin := hc _ (heq ▸ List.mem_singleton_self _)
    have hland := List.all_eq_true.1 LetterCase.lands_upperRuns r hr
    rcases Bool.or_eq_true_iff.1 (List.all_eq_true.1 misses_opcodeRanges r hr) with hbelow | hmiss
    · have hlast := (LetterCase.CaseRun.has_iff.1 hhas).2.1
      rw [Nat.blt_eq] at hbelow
      omega
    · rw [isOpcodeCharacter, LetterCase.CaseRun.toNat_ofNat_target hland hhas, CodeRange.covers]
        at hin
      obtain ⟨t, ht, hcovers⟩ := List.any_eq_true.1 hin
      have hnot := LetterCase.CaseRun.not_has_of_misses hland
        (List.all_eq_true.1 hmiss t ht) hhas
      rw [LetterCase.CaseRun.ofRange_has, hcovers] at hnot
      cases hnot
  · exact (ascii_of_isOpcodeCharacter (hc c (heq ▸ List.mem_singleton_self c))).1

end

/-- **A text is asked for as an opcode just when it is a spelling of it**: in either letter case,
with blanks around it. -/
theorem Codes.normal_eq_iff_isSpelling {s code : String}
    (hcode : ∀ c ∈ code.toList, isOpcodeCharacter c = true) :
    normal s = code ↔ IsSpelling s code := by
  constructor
  · intro hnormal
    obtain ⟨front, back, hs, hfront, hback⟩ := exists_trim_append s.toList
    refine ⟨front, trim s.toList, back, hs, hfront, hback, ?_⟩
    have hupper : LetterCase.upper (trim s.toList) = code.toList := by
      rw [← toList_normal, hnormal]
    -- Another upper-case form would leave the characters of opcodes.
    have hascii : ∀ c ∈ trim s.toList, c.toNat < 128 := by
      intro c hc
      apply ascii_of_upperChar
      intro d hd
      exact hcode d (hupper ▸ List.mem_flatMap.2 ⟨c, hc, hd⟩)
    rw [← hupper]
    exact (upper_of_ascii hascii).symm
  · intro hspelling
    exact normal_of_isSpelling hspelling fun c hc => ascii_of_isOpcodeCharacter (hcode c hc)

/-! ## The two ways to a record -/

/-- The two ways to a record agree: a program with a single instruction is shown as one line, with
the record that is found for the text of the program when it is asked for, if there is one. -/
def Agree (r : Registry) (s : String) : Prop :=
  ∃ shown, DisplayLine.ofText r.lookup s.toList = .ok [shown] ∧
    shown.record? = r.lookup (Command.askedCode s)

section
variable {s : String} {i : Instruction} {notes : List Note}

/-- **A line with a single bare instruction is shown as its code**, with the record that documents
this code. -/
theorem DisplayLine.ofText_of_readLine (records : RecordSource)
    (hline : Text.lines s.toList = [s.toList])
    (hread : readLine (Text.body s.toList) 1 0 = .ok ⟨[], [i], notes⟩)
    (harguments : i.arguments = []) :
    ofText records s.toList = .ok [.instruction 1 i.code i.code (records i.code)] := by
  obtain ⟨hfault, -⟩ := contentOf_of_readLine hread
  have hcontent := Except.ok.inj ((readLine_eq_ok hfault 1 0).symm.trans hread)
  have hreadable : Readable (Text.lines s.toList) := by
    rw [hline]
    exact List.forall_mem_singleton.2 hfault
  obtain ⟨p, hp, hlines⟩ := Program.exists_read hreadable
  have hitems : displayItems p.lines = [.instruction i] := by
    rw [hlines, displayItems_sourceLines hreadable (Int.le_refl 1), hline, contentsFrom, hcontent]
    rfl
  have hnumber : i.line = 1 := by
    have hon := contentOf_on 1 0 (pieces false (Text.body s.toList)).pieces
    rw [hcontent] at hon
    exact hon.instructions i List.mem_cons_self
  obtain ⟨letter, -, hletter⟩ := isMnemonic_of_readLine hread i List.mem_cons_self
  have hshown : i.text = i.code := by
    refine i.text_of_no_arguments ?_ harguments
    rw [Instruction.code, hletter]
    exact opcode_ne_empty letter i.major i.minor
  rw [ofText, hp, Except.map, ofLines, hitems, List.map_singleton, ofItem, hnumber, hshown]

end

/-- A registry with one page, which declares one code. -/
def Registry.documenting (code : String) : Registry :=
  Registry.enter ⟨⟨.root, []⟩, {}, {}, {}, [], []⟩ {
    code := code
    page.record := ⟨"page", "Page", "", none, none, none, none, none, none, none, [code], none, none⟩
    page.body := ""
    source := ⟨.root, ["page.md"]⟩ }

/-- Such a registry finds nothing else like the code that it documents. -/
theorem Registry.eq_of_lookup_documenting {code asked : String}
    (h : (documenting code).lookup asked = (documenting code).lookup code) : asked = code := by
  rw [lookup, lookup, documenting, enter] at h
  by_contra hne
  simp only [CodeTable.get?_put, if_neg hne, if_true] at h
  cases h

section
variable {s : String} {i : Instruction} {notes : List Note}

/-- **The two ways to a record** of a line with a single bare instruction. The line is shown as the
code of the instruction, and asking for its text leads to the same record, whatever is documented,
just when the text is that code in either letter case with blanks around it. -/
theorem agree_iff_isSpelling (hline : Text.lines s.toList = [s.toList])
    (hread : readLine (Text.body s.toList) 1 0 = .ok ⟨[], [i], notes⟩)
    (harguments : i.arguments = []) :
    (∀ r : Registry, DisplayLine.ofText r.lookup s.toList =
        .ok [.instruction 1 i.code i.code (r.lookup i.code)]) ∧
      ((∀ r : Registry, Agree r s) ↔ Codes.IsSpelling s i.code) := by
  have hshown (r : Registry) := DisplayLine.ofText_of_readLine r.lookup hline hread harguments
  obtain ⟨letter, hletter, hmnemonic⟩ := isMnemonic_of_readLine hread i List.mem_cons_self
  have hcode : ∀ c ∈ i.code.toList, isOpcodeCharacter c = true := by
    rw [Instruction.code, hmnemonic]
    exact isOpcodeCharacter_of_mem hletter i.major i.minor
  refine ⟨hshown, ?_⟩
  rw [← Codes.normal_eq_iff_isSpelling hcode]
  constructor
  · -- A registry with no other code than the one that is asked for tells the two apart.
    intro hagree
    obtain ⟨shown, hof, hrecord⟩ := hagree (.documenting (Command.askedCode s))
    rw [hshown] at hof
    cases hof
    dsimp only [DisplayLine.record?] at hrecord
    exact (Registry.eq_of_lookup_documenting hrecord).symm
  · intro hnormal r
    refine ⟨_, hshown r, ?_⟩
    rw [Command.askedCode, hnormal]
    rfl

/-- A small letter and blanks do no harm. -/
theorem agree_iff_isSpelling_smallLetter :
    readLine (Text.body "\tg28.1 ".toList) 1 0 =
        .ok ⟨[], [⟨"G", 28, 1, ⟨1, 1, 6⟩, []⟩], []⟩ ∧
      ∀ r : Registry, Agree r "\tg28.1 " := by
  have hline : Text.lines "\tg28.1 ".toList = ["\tg28.1 ".toList] := by decide +kernel
  have hread : readLine (Text.body "\tg28.1 ".toList) 1 0 =
      .ok ⟨[], [⟨"G", 28, 1, ⟨1, 1, 6⟩, []⟩], []⟩ := by decide +kernel
  have hspelling : Codes.IsSpelling "\tg28.1 " "G28.1" :=
    ⟨['\t'], "g28.1".toList, [' '], by decide +kernel, List.forall_mem_singleton.2 rfl,
      List.forall_mem_singleton.2 rfl, by decide +kernel⟩
  exact ⟨hread, (agree_iff_isSpelling hline hread rfl).2.2 hspelling⟩

/-- Zeros in front of a number part the two ways, because the text that is asked for keeps them: a
page that documents `G01` is found, while the line is shown as `G1` and not known. -/
theorem not_agree_leadingZero :
    readLine (Text.body "G01".toList) 1 0 = .ok ⟨[], [⟨"G", 1, 0, ⟨1, 0, 3⟩, []⟩], []⟩ ∧
      ((Registry.documenting "G01").lookup (Command.askedCode "G01")).isSome = true ∧
      DisplayLine.ofText (Registry.documenting "G01").lookup "G01".toList =
        .ok [.instruction 1 "G1" "G1" none] := by
  have hread : readLine (Text.body "G01".toList) 1 0 =
      .ok ⟨[], [⟨"G", 1, 0, ⟨1, 0, 3⟩, []⟩], []⟩ := by decide +kernel
  have hfound : ((Registry.documenting "G01").lookup (Command.askedCode "G01")).isSome = true := by
    decide +kernel
  have hshown : DisplayLine.ofText (Registry.documenting "G01").lookup "G01".toList =
      .ok [.instruction 1 "G1" "G1" none] := by decide +kernel
  exact ⟨hread, hfound, hshown⟩

end

end OpcodeAtlas
