import OpcodeAtlas.Proofs.Program.Message
import OpcodeAtlas.Proofs.Program.Places
import OpcodeAtlas.Proofs.Program.Printing

/-!
# The shape of what a line says

Not every row of instructions can come from a line (`readLine_shaped`). A tool or a correction
opens an instruction only if it comes first; an instruction that takes a message has nothing but
the message, and is the last one; every other instruction has words with letters, whose numbers are
signed where the letter could have opened an instruction.

Which instruction a piece opens is read off the kinds of the pieces alone, so what comes first is
shown along `Arranged`. What an argument says is traced back to the piece of the line that it is
(`exists_piece_of_argument`). Only the claim on messages needs to know that a comment reaches to
the end of the line, and hence that the line holds no line feed.
-/

set_option autoImplicit false

namespace OpcodeAtlas

open Text Number

/-! ## The letter of an instruction -/

/-- A mnemonic is one of the letters that open instructions. -/
def IsMnemonic (mnemonic : String) : Prop :=
  ∃ letter ∈ commandLetters ++ leadingLetters, mnemonic = String.singleton letter

theorem isMnemonic_of_opens {started : Bool} {letter : Char}
    (hopens : opensInstruction started letter = true) : IsMnemonic (String.singleton letter) := by
  simp only [opensInstruction, Bool.or_eq_true, Bool.and_eq_true, List.contains_iff_mem] at hopens
  exact ⟨letter, List.mem_append.2 (hopens.imp_right And.left), rfl⟩

/-- **An instruction that is read has a mnemonic.** -/
theorem isMnemonic_of_readLine {s : List Char} {line offset : Int} {content : LineContent}
    (hread : readLine s line offset = .ok content) :
    ∀ i ∈ content.instructions, IsMnemonic i.mnemonic := by
  have hall : ∀ w ∈ wordings none ((pieces false s).pieces.map Piece.kind),
      IsMnemonic w.mnemonic := by
    refine (arranged_pieces false s).forall_mem_wordings ?_ ?_ (fun _ _ _ => id) nofun
    · intro started letter major minor hopens
      exact isMnemonic_of_opens hopens
    · intro started letter major minor text hopens _
      exact isMnemonic_of_opens hopens
  rw [← wordings_of_readLine hread] at hall
  exact fun i hi => hall i.wording (List.mem_map_of_mem hi)

/-! ## What comes first -/

/-- **Behind the first instruction of a line, only command letters open one.** -/
theorem Arranged.mnemonic_tail {started : Bool} {ks : List PieceKind} (h : Arranged started ks)
    {current : Option Wording} (hcurrent : current.isSome = started) :
    ∀ w ∈ (wordings current ks).tail, ∃ letter ∈ commandLetters,
      w.mnemonic = String.singleton letter := by
  -- A word that opens an instruction behind another one has a command letter.
  have hopened {started : Bool} {letter : Char} {major minor : Int} {ks : List PieceKind}
      {current : Option Wording} {as : List (String × ArgumentValue)}
      (hletter : opensInstruction started letter = true) (hcurrent : current.isSome = started)
      (ih : ∀ w ∈ (wordings (some ⟨String.singleton letter, major, minor, as⟩) ks).tail,
        ∃ letter ∈ commandLetters, w.mnemonic = String.singleton letter) :
      ∀ w ∈ (current.toList ++
          wordings (some ⟨String.singleton letter, major, minor, as⟩) ks).tail,
        ∃ letter ∈ commandLetters, w.mnemonic = String.singleton letter := by
    cases current with
    | none => exact ih
    | some v =>
        obtain rfl : true = started := hcurrent
        obtain ⟨bs, rest, hrest⟩ := exists_wordings_some ks
        rw [hrest] at ih
        rw [Option.toList_some, List.singleton_append, List.tail_cons, hrest]
        refine List.forall_mem_cons.2 ⟨⟨letter, ?_, rfl⟩, ih⟩
        simpa [opensInstruction] using hletter
  induction h generalizing current with
  | nil =>
      cases current with
      | none => exact List.forall_mem_nil _
      | some w => exact List.forall_mem_nil _
  | anywhere hk _ ih =>
      rw [wordings_of_standsAnywhere hk]
      exact ih hcurrent
  | opening hletter _ ih => exact hopened hletter hcurrent (ih rfl)
  | message hletter _ _ ih => exact hopened hletter hcurrent (ih rfl)
  | argument _ ih =>
      obtain ⟨v, hv⟩ := exists_argument?_argument _ _
      rw [wordings_argument hv]
      exact ih (by rw [Option.isSome_map, hcurrent])
  | orphan _ ih => exact ih hcurrent

/-! ## Words and their signs -/

/-- The place of a span in a text that starts at an offset. -/
def Span.relativeTo (offset : Int) (s : Span) : Span := ⟨s.line, s.start - offset, s.stop - offset⟩

/-- An argument is a word of a text that starts at an offset: it has a letter, which is not the one
of line numbers, and perhaps a number, which has a sign in the text if the letter is one that opens
instructions. -/
structure Argument.StandsAsWord (offset : Int) (text : List Char) (a : Argument) : Prop where
  letter : ∃ letter, a.letter = String.singleton letter ∧ IsUpperLetter letter ∧ letter ≠ 'N'
  value : a.value = .flag ∨ ∃ x, a.value = .number x
  signed : ∀ x, a.value = .number x → a.letter ∈ ["G", "M"] →
    ∃ span letter sign digits, a.span = some span ∧ sign ∈ ['+', '-'] ∧
      WordText letter (sign :: digits) ((span.relativeTo offset).slice text)

theorem WordText.isUpperLetter {letter : Char} {number text : List Char}
    (h : WordText letter number text) : IsUpperLetter letter := by
  obtain ⟨hletter, rfl, -⟩ := h
  rename_i c gap
  have hascii : c.toNat < 128 := by
    simp only [isWordLetter, Bool.or_eq_true, Bool.and_eq_true, decide_eq_true_iff] at hletter
    omega
  have hall : ∀ n < 128, isWordLetter (Char.ofNat n) = true →
      65 ≤ (Char.ofNat n).toUpper.toNat ∧ (Char.ofNat n).toUpper.toNat ≤ 90 := by decide +kernel
  exact forall_ascii (p := fun c => isWordLetter c = true → IsUpperLetter c.toUpper) hall hascii
    hletter

/-- A number that is no code number starts with a sign. -/
theorem sign_of_readCodeNumber_none {c : Char} {s : List Char}
    (h : readCodeNumber (c :: s) = .ok none) : c ∈ ['+', '-'] := by
  rw [readCodeNumber] at h
  split at h
  next hsign => simpa using hsign
  · split at h
    · cases h
    · split at h
      · cases h
      · cases h

/-- Where a piece stands that follows others. -/
theorem exists_piece_of_mem_placePieces {offset : Int} {ps : List Piece} {q : PlacedPiece}
    (h : q ∈ placePieces offset ps) :
    ∃ front p behind, ps = front ++ p :: behind ∧ q.kind = p.kind ∧
      q.start = offset + (front.flatMap Piece.text).length ∧
      q.stop = q.start + p.text.length := by
  induction ps generalizing offset with
  | nil => cases h
  | cons p ps ih =>
      rcases List.mem_cons.1 h with rfl | h
      · exact ⟨[], p, ps, rfl, rfl, by simp, rfl⟩
      · obtain ⟨front, p', behind, rfl, hkind, hstart, hstop⟩ := ih h
        refine ⟨p :: front, p', behind, rfl, hkind, ?_, hstop⟩
        rw [hstart, List.flatMap_cons, List.length_append]
        omega

section
variable {s : List Char} {line offset : Int} {content : LineContent}

/-- **An argument is what a piece of the line says**, and has the place of the piece. -/
theorem exists_piece_of_argument (hread : readLine s line offset = .ok content) {i : Instruction}
    (hi : i ∈ content.instructions) {a : Argument} (ha : a ∈ i.arguments) :
    ∃ p ∈ (pieces false s).pieces, p.kind.argument? = some a.wording ∧
      ∃ span, a.span = some span ∧ (span.relativeTo offset).slice s = p.text := by
  obtain ⟨hfault, rfl⟩ := contentOf_of_readLine hread
  have hmem := (arguments_gatherInstructions line none (placePieces offset _)).subset
    (List.mem_flatMap_of_mem hi ha)
  obtain ⟨q, hq, hargument⟩ := List.mem_filterMap.1 hmem
  obtain ⟨hspan, -⟩ := PlacedPiece.argument?_spec hargument
  obtain ⟨front, p, behind, hps, hkind, hstart, hstop⟩ := exists_piece_of_mem_placePieces hq
  have htext := flatMap_text_pieces hfault
  refine ⟨p, hps ▸ List.mem_append_right front List.mem_cons_self, ?_, _, hspan, ?_⟩
  · rw [← hkind, ← q.wording_argument? line, hargument, Option.map_some]
  · rw [hps, List.flatMap_append, List.flatMap_cons] at htext
    refine Span.slice_eq htext.symm ?_ ?_
    · simp only [Span.relativeTo, PlacedPiece.span, hstart]
      omega
    · simp only [Span.relativeTo, PlacedPiece.span, hstop, hstart]
      omega

/-- An argument with a letter is a word of the line. -/
theorem standsAsWord_of_readLine (hread : readLine s line offset = .ok content) {i : Instruction}
    (hi : i ∈ content.instructions) {a : Argument} (ha : a ∈ i.arguments) (hne : a.letter ≠ "") :
    a.StandsAsWord offset s := by
  obtain ⟨p, hp, hargument, span, hspan, hslice⟩ := exists_piece_of_argument hread hi ha
  have hshape := shape_pieces false s p hp
  obtain ⟨kind, text⟩ := p
  dsimp only at hargument hshape hslice
  -- Of the pieces that are arguments, a message has no letter.
  cases hshape with
  | @flag letter _ hletter hword =>
      obtain ⟨hl, hv⟩ := Prod.mk.inj (Option.some.inj hargument)
      exact ⟨⟨letter, hl.symm, hword.isUpperLetter, hletter⟩, .inl hv.symm, fun x hx _ => by
        rw [hx] at hv
        cases hv⟩
  | @value letter x number _ hletter hword hnumber hx hopens =>
      obtain ⟨hl, hv⟩ := Prod.mk.inj (Option.some.inj hargument)
      refine ⟨⟨letter, hl.symm, hword.isUpperLetter, hletter⟩, .inr ⟨x, hv.symm⟩, ?_⟩
      intro _ _ hcommand
      have hcommand : opensInstruction true letter = true := by
        rw [← hl] at hcommand
        have htexts := List.mem_map_of_mem (f := String.toList) hcommand
        rw [String.toList_singleton] at htexts
        have hletters : letter = 'G' ∨ letter = 'M' := by simpa using htexts
        rcases hletters with rfl | rfl <;> rfl
      obtain ⟨sign, digits, rfl, -⟩ := hnumber.exists_cons
      exact ⟨span, letter, sign, digits, hspan, sign_of_readCodeNumber_none (hopens hcommand),
        hslice ▸ hword⟩
  | message => exact absurd (Prod.mk.inj (Option.some.inj hargument)).1.symm hne
  | _ => cases hargument

end

/-! ## Lines -/

/-- What a line says has the shape that lines have, where the line is a text without a line feed.
The text is only looked at for the signs of numbers. -/
structure LineContent.Shaped (offset : Int) (text : List Char) (content : LineContent) : Prop where
  mnemonic : ∀ i ∈ content.instructions, i.mnemonic ∈ ["G", "M", "T", "D"]
  leading : ∀ before i after, content.instructions = before ++ i :: after →
    i.mnemonic ∈ ["T", "D"] → before = []
  message : '\n' ∉ text → ∀ before i after, content.instructions = before ++ i :: after →
    i.TakesMessage → after = [] ∧ (i.arguments = [] ∨ ∃ a, i.arguments = [a] ∧ a.IsMessage)
  words : ∀ i ∈ content.instructions, ¬i.TakesMessage →
    ∀ a ∈ i.arguments, a.StandsAsWord offset text
  comments : ∀ c ∈ content.comments, trimString c.value = c.value

/-- What the wording of an instruction says of messages, the instruction says. -/
theorem Instruction.message_of_wording {i : Instruction} (h : i.wording.SaysMessage) :
    i.arguments = [] ∨ ∃ a, i.arguments = [a] ∧ a.IsMessage := by
  rcases h with hnone | ⟨m, hone, hm⟩
  · exact .inl (List.map_eq_nil_iff.1 hnone)
  · obtain ⟨a, ha, hwording⟩ := List.map_eq_singleton_iff.1 hone
    obtain ⟨hletter, hvalue⟩ := Prod.mk.inj hwording
    exact .inr ⟨a, ha, ⟨hletter, m, hvalue, hm⟩⟩

section
variable {s : List Char} {line offset : Int} {content : LineContent}

/-- **A tool or a correction comes first.** -/
theorem eq_nil_of_leading (hread : readLine s line offset = .ok content)
    {before after : List Instruction} {i : Instruction}
    (hinstructions : content.instructions = before ++ i :: after)
    (hleading : i.mnemonic ∈ ["T", "D"]) : before = [] := by
  have hnone : (none : Option Wording).isSome = false := rfl
  have htail := (arranged_pieces false s).mnemonic_tail hnone
  rw [← wordings_of_readLine hread, hinstructions] at htail
  cases before with
  | nil => rfl
  | cons j before =>
      -- Behind another instruction the letter is a command letter, which these two are not.
      have hbehind : i.wording ∈ ((j :: before ++ i :: after).map Instruction.wording).tail :=
        List.mem_map_of_mem (List.mem_append_right before List.mem_cons_self)
      obtain ⟨letter, hletter, hmnemonic⟩ := htail i.wording hbehind
      have hmnemonic : i.mnemonic = String.singleton letter := hmnemonic
      rw [hmnemonic] at hleading
      have hletters : letter = 'G' ∨ letter = 'M' := by simpa [commandLetters] using hletter
      rcases hletters with rfl | rfl
      · exact absurd hleading (by decide)
      · exact absurd hleading (by decide)

/-- **An instruction that takes a message comes last, and says the message or nothing.** -/
theorem message_of_readLine (hread : readLine s line offset = .ok content) (hfeed : '\n' ∉ s)
    {before after : List Instruction} {i : Instruction}
    (hinstructions : content.instructions = before ++ i :: after) (htakes : i.TakesMessage) :
    after = [] ∧ (i.arguments = [] ∨ ∃ a, i.arguments = [a] ∧ a.IsMessage) := by
  have hreach : RemarksReachEnd s := by
    intro note hnote hmem
    exact hfeed (hnote.subset (List.mem_cons_of_mem _ hmem))
  have hnone : ∀ w ∈ (none : Option Wording), ¬w.TakesMessage := by
    intro w hw
    exact absurd hw (Option.not_mem_none w)
  have hends := (messageLast_pieces false hreach).endsWithMessage hnone
  rw [← wordings_of_readLine hread, hinstructions, List.map_append, List.map_cons] at hends
  obtain ⟨hafter, hmessage⟩ := hends _ _ _ rfl htakes
  exact ⟨List.map_eq_nil_iff.1 hafter, i.message_of_wording hmessage⟩

/-- **The arguments of any other instruction are words.** -/
theorem words_of_readLine (hread : readLine s line offset = .ok content) {i : Instruction}
    (hi : i ∈ content.instructions) (hsilent : ¬i.TakesMessage) {a : Argument}
    (ha : a ∈ i.arguments) : a.StandsAsWord offset s := by
  apply standsAsWord_of_readLine hread hi ha
  intro hempty
  have hlettered := (arranged_pieces false s).lettered
  rw [← wordings_of_readLine hread] at hlettered
  apply hsilent
  exact hlettered i.wording (List.mem_map_of_mem hi) a.wording (List.mem_map_of_mem ha) hempty

/-- Comments are trimmed. -/
theorem trimString_of_mem_comments (hread : readLine s line offset = .ok content) {c : Comment}
    (hc : c ∈ content.comments) : trimString c.value = c.value := by
  obtain ⟨-, rfl⟩ := contentOf_of_readLine hread
  have hvalue := List.mem_map_of_mem (f := Comment.value) hc
  rw [values_contentOf] at hvalue
  obtain ⟨k, -, hk⟩ := List.mem_filterMap.1 hvalue
  cases k with
  | remark note =>
      rw [← Option.some.inj hk, trimString, String.toList_ofList, (isTrimmed_trim note).trim_eq]
  | _ => cases hk

/-- **What a line says has the shape that lines have.** -/
theorem readLine_shaped (hread : readLine s line offset = .ok content) :
    content.Shaped offset s := by
  refine ⟨?_, ?_, ?_, ?_, ?_⟩
  · intro i hi
    obtain ⟨letter, hletter, hmnemonic⟩ := isMnemonic_of_readLine hread i hi
    rw [hmnemonic]
    rcases openingLetter_cases hletter with rfl | rfl | rfl | rfl <;> decide
  · intro before i after hinstructions hleading
    exact eq_nil_of_leading hread hinstructions hleading
  · intro hfeed before i after hinstructions htakes
    exact message_of_readLine hread hfeed hinstructions htakes
  · intro i hi hsilent a ha
    exact words_of_readLine hread hi hsilent ha
  · intro c hc
    exact trimString_of_mem_comments hread hc

end

/-- A line with a tool in front, a flag, a word with a sign, and a message at its end. -/
def toolLine : List Char := "T1 G1 X M-3 Y2 M117 Hi ; c".toList

/-- It has the shape of a line; the tool comes first, and the message last. -/
theorem readLine_shaped_tool :
    ∃ content, readLine toolLine 1 0 = .ok content ∧ content.Shaped 0 toolLine ∧
      '\n' ∉ toolLine ∧ content.instructions.map Instruction.text =
        ["T1", "G1 X M-3 Y2", "M117 Hi"] ∧ content.comments.map Comment.value = ["c"] := by
  have hfeed : '\n' ∉ toolLine := by decide
  have hcontent : (readLine toolLine 1 0).toOption.map (fun content =>
      (content.instructions.map Instruction.text, content.comments.map Comment.value)) =
      some (["T1", "G1 X M-3 Y2", "M117 Hi"], ["c"]) := by
    decide +kernel
  obtain ⟨content, hread, hcontent⟩ := Program.exists_ok_of_toOption hcontent
  exact ⟨content, hread, readLine_shaped hread, hfeed, congrArg Prod.fst hcontent,
    congrArg Prod.snd hcontent⟩

-- A line feed behind a semicolon ends the comment, and what follows is read as words again: a text
-- that is no line may give an opcode with a message a word as its argument.
example : readLine "M117 ;c\nX1".toList 1 0 =
      .ok ⟨[⟨1, "c", some ⟨1, 5, 7⟩⟩], [⟨"M", 117, 0, ⟨1, 0, 10⟩,
        [⟨"X", .number (.finite false (Nat.pow 2 52) 1022), some ⟨1, 8, 10⟩⟩]⟩], []⟩ := by
  decide +kernel

end OpcodeAtlas
