import OpcodeAtlas.Display
import OpcodeAtlas.Proofs.Page.Codes
import OpcodeAtlas.Proofs.Program.Spelling
import OpcodeAtlas.Proofs.Registry.Resolution

/-!
# Documented opcodes

Three texts have to meet in one: the code that an author declares in a page, the one that is
looked up for an instruction, and the one that an opcode is shown as. They do, however the page and
the program spell the opcode: if a page declares it, every program that spells it is shown as the
opcode with the title of the page that documents it
(`RegistryBuild.run_documents_spellings`).
-/

set_option autoImplicit false

namespace OpcodeAtlas

open Text

/-! ## The text of an opcode -/

/-- The characters of opcodes: their letters, digits, the point and the minus sign. -/
def opcodeRanges : List CodeRange :=
  [(0x2d, 0x2e), (0x30, 0x39), (0x44, 0x44), (0x47, 0x47), (0x4d, 0x4d), (0x54, 0x54)]

/-- Whether a character may stand in an opcode. -/
def isOpcodeCharacter (c : Char) : Bool := CodeRange.covers opcodeRanges c.toNat

theorem ascii_of_isOpcodeCharacter {c : Char} (hc : isOpcodeCharacter c = true) :
    c.toNat < 128 ∧ isBlank c = false := by
  have hascii : c.toNat < 128 := by
    simp only [isOpcodeCharacter, opcodeRanges, CodeRange.covers, List.any_cons, List.any_nil,
      Bool.or_false, Bool.or_eq_true, Bool.and_eq_true, decide_eq_true_iff] at hc
    omega
  exact ⟨hascii, forall_ascii (p := fun c => isOpcodeCharacter c = true → isBlank c = false)
    (by decide) hascii hc⟩

/-- The characters of an opcode. -/
theorem isOpcodeCharacter_of_mem {letter : Char}
    (hletter : letter ∈ commandLetters ++ leadingLetters) (major minor : Int) :
    ∀ c ∈ (opcode (String.singleton letter) major minor).toList, isOpcodeCharacter c = true := by
  have hhead : isOpcodeCharacter letter = true := by
    rcases openingLetter_cases hletter with rfl | rfl | rfl | rfl <;> decide
  have hnumber : ∀ n : Int, ∀ c ∈ (toString n).toList, isOpcodeCharacter c = true := by
    intro n c hc
    rw [Number.toList_toString, List.mem_append] at hc
    rcases hc with hc | hc
    · rw [Number.signOf] at hc
      split at hc
      · rw [List.mem_singleton.1 hc]
        decide
      · cases hc
    · have hdigit : c.isDigit = true := Nat.isDigit_of_mem_toDigits (by decide) (by decide) hc
      have hbounds := bounds_of_ascii hdigit
      simp only [isOpcodeCharacter, opcodeRanges, CodeRange.covers, List.any_cons, List.any_nil,
        Bool.or_false, Bool.or_eq_true, Bool.and_eq_true, decide_eq_true_iff]
      omega
  intro c hc
  rw [opcode] at hc
  split at hc
  · simp only [String.toList_append, String.toList_singleton, List.singleton_append,
      List.mem_cons] at hc
    rcases hc with rfl | hc
    · exact hhead
    · exact hnumber major c hc
  · have hpoint : ".".toList = ['.'] := rfl
    simp only [String.toList_append, String.toList_singleton, hpoint, List.append_assoc,
      List.singleton_append, List.mem_cons, List.mem_append] at hc
    rcases hc with (rfl | hc) | rfl | hc
    · exact hhead
    · exact hnumber major c hc
    · decide
    · exact hnumber minor c hc

/-- The text of an opcode is ASCII without blanks. -/
theorem ascii_of_opcode {letter : Char} (hletter : letter ∈ commandLetters ++ leadingLetters)
    (major minor : Nat) :
    ∀ c ∈ (opcode (String.singleton letter) major minor).toList,
      c.toNat < 128 ∧ isBlank c = false := by
  intro c hc
  exact ascii_of_isOpcodeCharacter (isOpcodeCharacter_of_mem hletter major minor c hc)

theorem opcode_ne_empty (letter : Char) (major minor : Int) :
    opcode (String.singleton letter) major minor ≠ "" := by
  intro hempty
  have hlist := congrArg String.toList hempty
  rw [opcode] at hlist
  split at hlist
  · simp at hlist
  · simp at hlist

/-- An instruction without arguments is written as its code. -/
theorem Instruction.text_of_no_arguments {i : Instruction} (hcode : i.code ≠ "")
    (harguments : i.arguments = []) : i.text = i.code := by
  have hwords : i.words = [i.code] := by
    rw [words, harguments, List.map_nil]
    exact List.filter_eq_self.2 (List.forall_mem_singleton.2 (decide_eq_true hcode))
  rw [text, hwords]
  rfl

/-! ## The line that is shown -/

/-- **A program that spells an opcode is shown as the opcode**, with the record that documents
it. -/
theorem DisplayLine.ofText_of_spelling (records : RecordSource) {letter : Char} {major minor : Nat}
    {text : List Char} (hletter : letter ∈ commandLetters ++ leadingLetters)
    (htext : SpellsOpcode letter major minor text) :
    ∃ line, ofText records text = .ok
      [.instruction line (opcode (String.singleton letter) major minor)
        (opcode (String.singleton letter) major minor)
        (records (opcode (String.singleton letter) major minor))] := by
  obtain ⟨p, i, hread, hitems, hi⟩ := Program.displayItems_of_spelling hletter htext
  obtain ⟨hmnemonic, hmajor, hminor, harguments⟩ := Wording.mk.inj hi
  have hcode : i.code = opcode (String.singleton letter) major minor := by
    rw [Instruction.code, hmnemonic, hmajor, hminor]
  have hshown : i.text = i.code :=
    i.text_of_no_arguments (hcode ▸ opcode_ne_empty letter major minor)
      (List.map_eq_nil_iff.1 harguments)
  refine ⟨i.line, ?_⟩
  rw [ofText, hread, Except.map, ofLines, hitems, List.map_singleton, ofItem, hshown, hcode]

namespace RegistryBuild

variable {h : Host} {directory : Path} {extension : String} {policy : DuplicatePolicy}
  {r : Registry} {paths : List Path}

/-- A code that a page of the directory declares is documented. -/
theorem exists_lookup (hr : (run h directory extension policy).outcome = .ok r)
    (hselect : Selection.pages h directory (Selection.pointed extension) = .ok paths) {p : Path}
    (hp : p ∈ paths) {page : Page} (hload : Page.load h p = .ok page) {code : String}
    (hcode : code ∈ page.record.codes) : ∃ record, r.lookup code = some record := by
  obtain ⟨paths', hselect', hresolves⟩ := resolves_of_run hr
  cases hselect.symm.trans hselect'
  have hdeclared : code ∈ (paths.flatMap (declarationsAt h)).map (·.code) :=
    List.mem_map.2
      ⟨⟨code, page, p⟩, (mem_declarations_iff ⟨code, page, p⟩).2 ⟨hp, hload, hcode⟩, rfl⟩
  cases howner : policy.owner? code (paths.flatMap (declarationsAt h)) with
  | none => exact absurd hdeclared (DuplicatePolicy.owner?_eq_none_iff.1 howner)
  | some d =>
      refine ⟨d.page.record, ?_⟩
      rw [Registry.lookup, hresolves.entry, howner]
      rfl

/-- **A declared opcode is documented however it is spelled.** If the header of a page declares an
opcode, in any letter case and with blanks around it, then every program that spells the opcode is
shown as one line: the code, annotated with the title of the record that documents it. -/
theorem run_documents_spellings (hr : (run h directory extension policy).outcome = .ok r)
    (hselect : Selection.pages h directory (Selection.pointed extension) = .ok paths) {p : Path}
    (hp : p ∈ paths) {page : Page} (hload : Page.load h p = .ok page) {s : String}
    (hdeclares : s ∈ Page.codeTexts h p) {letter : Char}
    (hletter : letter ∈ commandLetters ++ leadingLetters) {major minor : Nat}
    (hs : Codes.IsSpelling s (opcode (String.singleton letter) major minor)) {text : List Char}
    (htext : SpellsOpcode letter major minor text) :
    let code := opcode (String.singleton letter) major minor
    ∃ record shown line, r.lookup code = some record ∧
      DisplayLine.ofText r.lookup text = .ok [shown] ∧
      shown = .instruction line code code (some record) ∧ shown.isKnown = true ∧
      shown.annotation? = some record.title := by
  intro code
  -- The page declares the code in its normal form, and the table is asked for that form.
  have hnormal : Codes.normal s = code :=
    Codes.normal_of_isSpelling hs (ascii_of_opcode hletter major minor)
  have hmem := Page.mem_codes_of_codeTexts hload hdeclares
    (hnormal ▸ opcode_ne_empty letter major minor)
  rw [hnormal] at hmem
  obtain ⟨record, hrecord⟩ := exists_lookup hr hselect hp hload hmem
  -- The instruction that is read asks for the same code.
  obtain ⟨line, hshown⟩ := DisplayLine.ofText_of_spelling r.lookup hletter htext
  rw [hrecord] at hshown
  exact ⟨record, _, line, hrecord, hshown, rfl, rfl, rfl⟩

/-- A spelling with blanks, a small letter, a gap, zeros in front and a subcode of zeros finds the
code that a page writes with a small letter. -/
theorem run_documents_spellings_shelf :
    SpellsOpcode 'G' 2 0 "\n g\t002.00".toList ∧
      "g2" ∈ Page.codeTexts Shelf.host (Shelf.docs.child "b.md") ∧
      ∃ r, (run Shelf.host Shelf.docs "md" .lastWins).outcome = .ok r ∧
        ∃ record shown line, r.lookup "G2" = some record ∧
          DisplayLine.ofText r.lookup "\n g\t002.00".toList = .ok [shown] ∧
          shown = .instruction line "G2" "G2" (some record) ∧ shown.isKnown = true ∧
          shown.annotation? = some record.title := by
  have hmajor : Spells "002".toList 2 := ⟨by decide, List.all_eq_true.1 (by decide), by decide⟩
  have hminor : Spells "00".toList 0 := ⟨by decide, List.all_eq_true.1 (by decide), by decide⟩
  have hnumber : CodeNumberText 2 0 ("002".toList ++ '.' :: "00".toList) :=
    .pointed hmajor (by decide) hminor (by decide)
  have hspells : SpellsOpcode 'G' 2 0
      (['\n', ' '] ++ 'g' :: (['\t'] ++ ("002".toList ++ '.' :: "00".toList))) :=
    .mk (List.all_eq_true.1 (by decide)) (by decide) (List.all_eq_true.1 (by decide)) hnumber
  have hwritten : "g2" ∈ Page.codeTexts Shelf.host (Shelf.docs.child "b.md") := by
    decide +kernel
  have hspelling : Codes.IsSpelling "g2" (opcode (String.singleton 'G') (2 : Nat) (0 : Nat)) :=
    ⟨[], "g2".toList, [], by decide, by simp, by simp, by decide +kernel⟩
  have hrun : ∃ r, (run Shelf.host Shelf.docs "md" .lastWins).outcome = .ok r :=
    exists_run nofun Shelf.select Shelf.readable
  obtain ⟨r, hr⟩ := hrun
  have hshown := run_documents_spellings hr Shelf.select (by decide) Shelf.load_b hwritten
    (by decide) hspelling hspells
  exact ⟨hspells, hwritten, r, hr, hshown⟩

end RegistryBuild

end OpcodeAtlas
