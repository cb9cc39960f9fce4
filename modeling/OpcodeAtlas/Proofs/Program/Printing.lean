import OpcodeAtlas.Proofs.Program.Word
import OpcodeAtlas.Proofs.Program.Wording
import OpcodeAtlas.Proofs.Text.Blank
import OpcodeAtlas.Proofs.Text.LetterCase

/-!
# Reading what was written

The text of an instruction is read back as the instruction (`readLine_text`): its code, the
letters of its arguments and their values return, and nothing else is found on the line.

A flag draws the blank behind it into its own word, where a number leaves it, so the words behind
a code are taken off in two ways; `Says.words` goes from argument to argument at the place where
the letter of the next one stands, which both ways reach. A letter that could open an instruction
has no number or a negative one, and neither is a code number.
-/

set_option autoImplicit false

namespace OpcodeAtlas

open Text Number

/-! ## Letters in upper case -/

/-- Whether a character is a letter of a word in upper case. -/
def IsUpperLetter (c : Char) : Prop := 65 ≤ c.toNat ∧ c.toNat ≤ 90

theorem toUpper_of_isUpperLetter {c : Char} (hc : IsUpperLetter c) : c.toUpper = c := by
  have hhigh := hc.2
  exact toUpper_of_not_small (by omega)

theorem isWordLetter_of_isUpperLetter {c : Char} (hc : IsUpperLetter c) :
    isWordLetter c = true := by
  simp only [isWordLetter, Bool.or_eq_true, Bool.and_eq_true, decide_eq_true_iff]
  exact .inl hc

/-! ## Arguments that can be read back -/

/-- A double is a whole number, and not the negative zero, whose sign its text does not keep. -/
structure Binary64.IsWhole (x : Binary64) (k : Int) : Prop where
  canonical : x.Canonical
  toInt? : x.toInt? = some k
  ne_negativeZero : x ≠ .finite true 0 0

/-- An argument is a word that stays one behind a code: its letter is no line number, and it is a
flag or has a whole number, a negative one if the letter could open an instruction. -/
structure Argument.IsWord (a : Argument) (letter : Char) : Prop where
  letter_eq : a.letter = String.singleton letter
  upper : IsUpperLetter letter
  ne_lineNumber : letter ≠ 'N'
  value : a.value = .flag ∨
    ∃ x k, a.value = .number x ∧ x.IsWhole k ∧ (letter ∈ commandLetters → k < 0)

/-- An argument is a message: not empty, without blanks at its ends and without a semicolon. -/
structure Argument.IsMessage (a : Argument) : Prop where
  letter : a.letter = ""
  value : ∃ m, a.value = .message m ∧ m ≠ "" ∧ trimString m = m ∧ ';' ∉ m.toList

/-- A part of a code number that can be written and read. -/
def IsCodePart (n : Int) : Prop := ∃ k : Nat, n = k ∧ (Nat.toDigits 10 k).length ≤ digitLimit

/-- An instruction whose text is read back: an opcode takes a message or words as its
arguments. -/
structure Instruction.Printable (i : Instruction) (letter : Char) : Prop where
  mnemonic : i.mnemonic = String.singleton letter
  opens : letter ∈ commandLetters ++ leadingLetters
  major : IsCodePart i.major
  minor : IsCodePart i.minor
  message : takesMessage letter i.major i.minor = true →
    i.arguments = [] ∨ ∃ a, i.arguments = [a] ∧ a.IsMessage
  words : takesMessage letter i.major i.minor = false → ∀ a ∈ i.arguments, ∃ c, a.IsWord c

/-! ## The text of an instruction -/

/-- The words behind a code, each with a space in front. -/
def argumentsText (as : List Argument) : List Char := as.flatMap fun a => ' ' :: a.text.toList

theorem intercalate_spaces (first : List Char) (rest : List (List Char)) :
    [' '].intercalate (first :: rest) = first ++ rest.flatMap (' ' :: ·) := by
  induction rest generalizing first with
  | nil => simp
  | cons second rest ih =>
      rw [List.intercalate_cons_cons, ih, List.flatMap_cons, List.append_assoc, List.cons_append]
      rfl

/-- The text of an instruction none of whose words is empty. -/
theorem toList_text {i : Instruction} (hcode : i.code ≠ "")
    (harguments : ∀ a ∈ i.arguments, a.text ≠ "") :
    i.text.toList = i.code.toList ++ argumentsText i.arguments := by
  have hwords : i.words = i.code :: i.arguments.map Argument.text := by
    refine List.filter_eq_self.2 fun w hw => decide_eq_true ?_
    rcases List.mem_cons.1 hw with rfl | hw
    · exact hcode
    · obtain ⟨a, ha, rfl⟩ := List.mem_map.1 hw
      exact harguments a ha
  rw [Instruction.text, hwords, String.toList_intercalate, List.map_cons, List.map_map]
  have hspace : " ".toList = [' '] := rfl
  rw [hspace, intercalate_spaces, List.flatMap_map]
  rfl

/-- The text of an opcode: its letter and a code number. -/
theorem toList_opcode (letter : Char) {major minor : Int} (hmajor : IsCodePart major)
    (hminor : IsCodePart minor) :
    ∃ number, (opcode (String.singleton letter) major minor).toList = letter :: number ∧
      CodeNumberText major.toNat minor.toNat number := by
  obtain ⟨m, rfl, hm⟩ := hmajor
  obtain ⟨n, rfl, hn⟩ := hminor
  have hspells : ∀ k : Nat, Spells (Nat.toDigits 10 k) k := spells_toDigits 0
  rw [Int.toNat_natCast, Int.toNat_natCast, opcode]
  split
  next hzero =>
    refine ⟨Nat.toDigits 10 m, ?_, .whole (hspells m) hm (by omega)⟩
    rw [String.toList_append, String.toList_singleton, toList_toString_natCast]
    rfl
  next hpositive =>
    refine ⟨Nat.toDigits 10 m ++ '.' :: Nat.toDigits 10 n, ?_,
      .pointed (hspells m) hm (hspells n) hn⟩
    have hpoint : ".".toList = ['.'] := rfl
    simp only [String.toList_append, String.toList_singleton, toList_toString_natCast, hpoint,
      List.append_assoc, List.cons_append, List.nil_append]

/-! ## Words behind a code -/

theorem endsNumber_argumentsText (as : List Argument) : EndsNumber (argumentsText as) := by
  cases as with
  | nil => exact endsNumber_nil
  | cons a as =>
      rintro c ⟨⟩
      decide

/-- The text of a whole number is a number. -/
theorem numberText_toString (k : Int) : NumberText (toString k).toList := by
  refine ⟨signOf k, ?_, _, _, _, toList_toString k, unsignedText_of_spells (spells_toDigits 0 _)⟩
  unfold signOf
  split
  · decide
  · decide

/-- Behind a code, the number of a word does not make it a code if it is missing or negative. -/
theorem opening?_of_noCode {letter : Char} {number : List Char}
    (h : letter ∈ commandLetters → number = [] ∨ ∃ digits, number = '-' :: digits) :
    opening? true (.word letter number) = .ok none := by
  rw [opening?]
  split
  next hopens =>
    have hletter : letter ∈ commandLetters := by simpa [opensInstruction] using hopens
    rcases h hletter with rfl | ⟨digits, rfl⟩
    · rfl
    · rfl
  · rfl

theorem plainKind_word {letter : Char} (hletter : letter ≠ 'N') (number : List Char) :
    plainKind true (.word letter number) =
      .argument letter (if number.isEmpty then none else readDecimal? number) := by
  simp [plainKind, hletter]

/-- The parts of the text of a word: its letter, and a number or nothing. -/
theorem Argument.IsWord.exists_text {a : Argument} {c : Char} (h : a.IsWord c) :
    ∃ number, a.text.toList = c :: number ∧ (number = [] ∨ NumberText number) ∧
      (c ∈ commandLetters → number = [] ∨ ∃ digits, number = '-' :: digits) ∧
      (PieceKind.argument c (if number.isEmpty then none else readDecimal? number)).argument? =
        some a.wording := by
  rw [Argument.text, Argument.wording, h.letter_eq]
  rcases h.value with hvalue | ⟨x, k, hvalue, hx, hsign⟩
  · refine ⟨[], ?_, .inl rfl, fun _ => .inl rfl, ?_⟩
    · rw [hvalue]
      exact String.toList_singleton c
    · rw [hvalue]
      rfl
  · refine ⟨(toString k).toList, ?_, .inr (numberText_toString k), fun hcommand => ?_, ?_⟩
    · rw [hvalue]
      simp only [numberText, hx.toInt?, String.toList_append, String.toList_singleton,
        List.singleton_append]
    · refine .inr ⟨Nat.toDigits 10 k.natAbs, ?_⟩
      rw [toList_toString, signOf, if_pos (hsign hcommand)]
      rfl
    · have hne : (toString k).toList.isEmpty = false := by
        obtain ⟨d, tail, hcons, -⟩ := (numberText_toString k).exists_cons
        rw [hcons]
        rfl
      rw [hne, hvalue, readDecimal?_toString hx.canonical hx.toInt? hx.ne_negativeZero]
      rfl

theorem Argument.IsWord.text_ne {a : Argument} {c : Char} (h : a.IsWord c) : a.text ≠ "" := by
  obtain ⟨number, htext, -⟩ := h.exists_text
  intro hempty
  rw [hempty] at htext
  cases htext

/-- What stands behind a word: the words that follow, with the blank in front or without it. -/
def Behind (as : List Argument) (rest : List Char) : Prop :=
  rest = argumentsText as ∨ ∃ b bs, as = b :: bs ∧ rest = b.text.toList ++ argumentsText bs

/-- Behind a number the blank is left; a flag draws it into its word. -/
theorem exists_next_word {c : Char} {number : List Char} {as : List Argument}
    (hc : IsUpperLetter c) (hnumber : number = [] ∨ NumberText number)
    (has : ∀ a ∈ as, ∃ c, a.IsWord c) :
    ∃ text rest, Lexed.next c (number ++ argumentsText as) = ⟨.word c number, text, rest⟩ ∧
      Behind as rest := by
  have hletter := isWordLetter_of_isUpperLetter hc
  have hupper := toUpper_of_isUpperLetter hc
  rcases hnumber with rfl | hnumber
  · cases as with
    | nil =>
        -- Nothing is left on the line.
        have hnext : Lexed.next c [] = ⟨.word c.toUpper [], [c], []⟩ :=
          @Lexed.next_word c [] [] [] hletter nofun nofun rfl
        rw [hupper] at hnext
        exact ⟨_, _, hnext, .inl rfl⟩
    | cons b bs =>
        -- The scan for a number goes over the blank up to the next letter, and finds none.
        obtain ⟨d, hb⟩ := has b List.mem_cons_self
        obtain ⟨tail, htext, -⟩ := hb.exists_text
        have hd := isWordLetter_of_isUpperLetter hb.upper
        have hhead : ∀ g ∈ ([] ++ (d :: tail ++ argumentsText bs)).head?, isGap g = false := by
          rintro g ⟨⟩
          have hspace : d ≠ ' ' := ne_of_isWordLetter hd (by decide)
          have htab : d ≠ '\t' := ne_of_isWordLetter hd (by decide)
          simp [isGap, hspace, htab]
        have hnext := Lexed.next_word [' '] hletter (by simp [isGap]) hhead
          (numberPrefix_of_isWordLetter hd _)
        rw [hupper, ← htext] at hnext
        exact ⟨_, _, hnext, .inr ⟨b, bs, rfl, rfl⟩⟩
  · have hnext := Lexed.next_numberText [] hletter nofun hnumber
      (endsNumber_argumentsText as)
    rw [hupper] at hnext
    exact ⟨_, _, hnext, .inl rfl⟩

namespace LineReading.Says

/-- **Words behind a code are read back.** -/
theorem words {as : List Argument} {rest : List Char} (h : ∀ a ∈ as, ∃ c, a.IsWord c)
    (hrest : Behind as rest) (w : Wording) :
    (OpcodeAtlas.pieces true rest).Says (some w)
      [{ w with arguments := w.arguments ++ as.map Argument.wording }] := by
  induction as generalizing rest w with
  | nil =>
      obtain rfl : rest = [] := by
        rcases hrest with rfl | ⟨b, bs, has, -⟩
        · rfl
        · cases has
      rw [pieces_nil, List.map_nil, List.append_nil]
      exact end_of_line (some w)
  | cons a as ih =>
      obtain ⟨⟨c, ha⟩, has⟩ := List.forall_mem_cons.1 h
      obtain ⟨number, htext, hnumber, hcommand, hargument⟩ := ha.exists_text
      -- Both ways lead to the letter of the first word.
      have hword : (OpcodeAtlas.pieces true (a.text.toList ++ argumentsText as)).Says (some w)
          [{ w with arguments := w.arguments ++ (a :: as).map Argument.wording }] := by
        obtain ⟨text, rest, hnext, hbehind⟩ := exists_next_word ha.upper hnumber has
        rw [htext, List.cons_append, pieces_plain hnext (opening?_of_noCode hcommand),
          plainKind_word ha.ne_lineNumber, List.map_cons, List.append_cons]
        exact (ih has hbehind (w.extend a.wording)).argument hargument text
      rcases hrest with rfl | ⟨b, bs, heq, rfl⟩
      · have hblank : isBlank c = false :=
          isBlank_of_isWordLetter (isWordLetter_of_isUpperLetter ha.upper)
        have hnext : Lexed.next ' ' (a.text.toList ++ argumentsText as) =
            ⟨.blanks, [' '], a.text.toList ++ argumentsText as⟩ := by
          refine Lexed.next_blanks [] rfl nofun ?_
          rw [htext]
          rintro b ⟨⟩
          exact hblank
        have hspace : OpcodeAtlas.pieces true (' ' :: (a.text.toList ++ argumentsText as)) = _ :=
          pieces_plain hnext rfl
        rw [argumentsText, List.flatMap_cons, List.cons_append, ← argumentsText, hspace]
        exact hword.blanks [' ']
      · cases heq
        exact hword

end LineReading.Says

/-! ## Messages -/

/-- The text behind a code without a semicolon is the message. -/
theorem messageText_eq {letter : Char} {major minor : Int} {s : List Char}
    (htakes : takesMessage letter major minor = true) (hsemicolon : ';' ∉ s)
    (hblank : allBlank s = false) : messageText letter major minor s = s := by
  have hraw : s.takeWhile (· ≠ ';') = s :=
    List.takeWhile_eq_self_iff.2 (row_of_not_mem hsemicolon)
  simp only [messageText, htakes, if_true, hraw, hblank, Bool.false_eq_true, if_false]

/-! ## Instructions -/

namespace Instruction

variable {i : Instruction} {letter : Char}

/-- The word that opens a line which starts with the text of an opcode. -/
theorem Printable.exists_code (h : i.Printable letter) :
    ∃ number, i.code.toList = letter :: number ∧
      ∀ rest, EndsNumber rest →
        Lexed.next letter (number ++ rest) = ⟨.word letter number, letter :: number, rest⟩ ∧
        opening? false (.word letter number) = .ok (some (letter, i.major, i.minor)) := by
  obtain ⟨number, hcode, hnumber⟩ := toList_opcode letter h.major h.minor
  obtain ⟨hletter, hupper⟩ : isWordLetter letter = true ∧ letter.toUpper = letter := by
    rcases openingLetter_cases h.opens with rfl | rfl | rfl | rfl <;> decide
  refine ⟨number, by rw [code, h.mnemonic, hcode], fun rest hrest => ⟨?_, ?_⟩⟩
  · have hnext := Lexed.next_numberText [] hletter nofun hnumber.numberText hrest
    rwa [hupper] at hnext
  · obtain ⟨m, hm, -⟩ := h.major
    obtain ⟨n, hn, -⟩ := h.minor
    rw [opening?_of_text h.opens hnumber, hm, hn]
    rfl

theorem Printable.code_ne (h : i.Printable letter) : i.code ≠ "" := by
  obtain ⟨number, hcode, -⟩ := h.exists_code
  intro hempty
  rw [hempty] at hcode
  cases hcode

/-- An instruction with words as its arguments says itself. -/
theorem Printable.says_words (h : i.Printable letter)
    (hwords : ∀ a ∈ i.arguments, ∃ c, a.IsWord c)
    (hmessage : messageText letter i.major i.minor (argumentsText i.arguments) = []) :
    (pieces false i.text.toList).Says none [i.wording] := by
  obtain ⟨number, hcode, hnext⟩ := h.exists_code
  obtain ⟨hnext, hopening⟩ := hnext _ (endsNumber_argumentsText i.arguments)
  have htexts : ∀ a ∈ i.arguments, a.text ≠ "" := fun a ha =>
    (hwords a ha).elim fun _ h => h.text_ne
  rw [toList_text h.code_ne htexts, hcode, List.cons_append,
    pieces_opening hnext hopening hmessage]
  refine LineReading.Says.opening ?_ _
  rw [wording, h.mnemonic]
  exact LineReading.Says.words hwords (.inl rfl) ⟨String.singleton letter, i.major, i.minor, []⟩

/-- An instruction with a message says itself. -/
theorem Printable.says_message (h : i.Printable letter) {a : Argument}
    (harguments : i.arguments = [a]) (ha : a.IsMessage)
    (htakes : takesMessage letter i.major i.minor = true) :
    (pieces false i.text.toList).Says none [i.wording] := by
  obtain ⟨m, hvalue, hne, htrim, hsemicolon⟩ := ha.value
  have htext : a.text = m := by rw [Argument.text, hvalue]
  have hrest : argumentsText i.arguments = ' ' :: m.toList := by
    rw [harguments, argumentsText, List.flatMap_singleton, htext]
  have hspoken : String.ofList (trim (' ' :: m.toList)) = m := by
    rw [trim_cons_of_isBlank rfl]
    exact htrim
  have hblank : allBlank (' ' :: m.toList) = false := by
    rw [Bool.eq_false_iff]
    intro hblank
    rw [trim_of_allBlank hblank] at hspoken
    exact hne hspoken.symm
  have hmessage := messageText_eq htakes (List.not_mem_cons_of_ne_of_not_mem (by decide) hsemicolon)
    hblank
  obtain ⟨number, hcode, hnext⟩ := h.exists_code
  obtain ⟨hnext, hopening⟩ := hnext _ (endsNumber_argumentsText i.arguments)
  rw [hrest] at hnext
  rw [toList_text h.code_ne (by simpa [harguments, htext] using hne), hcode, List.cons_append,
    hrest, pieces_message hnext hopening (List.append_nil _).symm hmessage (List.cons_ne_nil _ _),
    pieces_nil]
  refine LineReading.Says.opening (LineReading.Says.message ?_ _) _
  rw [wording, h.mnemonic, harguments, hspoken, List.map_singleton, Argument.wording, ha.letter,
    hvalue]
  exact LineReading.Says.end_of_line _

/-- **The text of an instruction is read back as the instruction.** -/
theorem readLine_text (h : i.Printable letter) (line offset : Int) :
    ∃ j, readLine i.text.toList line offset = .ok ⟨[], [j], []⟩ ∧ j.wording = i.wording := by
  have htells : (pieces false i.text.toList).Says none [i.wording] := by
    cases htakes : takesMessage letter i.major i.minor with
    | false => exact h.says_words (h.words htakes) (by rw [messageText, htakes]; rfl)
    | true =>
        rcases h.message htakes with hnone | ⟨a, hone, ha⟩
        · refine h.says_words (by simp [hnone]) ?_
          rw [hnone]
          exact messageText_nil letter i.major i.minor
        · exact h.says_message hone ha htakes
  obtain ⟨is, hread, hwordings⟩ := htells.readLine_eq line offset
  obtain ⟨j, rfl, hj⟩ := List.map_eq_singleton_iff.1 hwordings
  exact ⟨j, hread, hj⟩

/-- A probing move whose arguments are a flag, a negative number behind a letter that could open an
instruction, and a number. -/
def probing : Instruction :=
  { mnemonic := "G", major := 38, minor := 2, arguments :=
      [⟨"X", .flag, none⟩, ⟨"G", .number (.finite true (5 * Nat.pow 2 50) 1024), none⟩,
        ⟨"Z", .number (.finite false (5 * Nat.pow 2 50) 1025), none⟩] }

/-- It comes back from its text. -/
theorem readLine_text_probing :
    probing.text = "G38.2 X G-5 Z10" ∧ probing.Printable 'G' ∧
      ∃ j, readLine probing.text.toList 1 0 = .ok ⟨[], [j], []⟩ ∧ j.wording = probing.wording := by
  have hminusFive : Binary64.IsWhole (.finite true (5 * Nat.pow 2 50) 1024) (-5) :=
    ⟨by unfold Binary64.Canonical; decide +kernel, by decide +kernel, by decide⟩
  have hten : Binary64.IsWhole (.finite false (5 * Nat.pow 2 50) 1025) 10 :=
    ⟨by unfold Binary64.Canonical; decide +kernel, by decide +kernel, by decide⟩
  have hprintable : probing.Printable 'G' := by
    refine ⟨rfl, by decide, ⟨38, rfl, by decide⟩, ⟨2, rfl, by decide⟩, nofun, fun _ => ?_⟩
    intro a ha
    simp only [probing, List.mem_cons, List.not_mem_nil, or_false] at ha
    rcases ha with rfl | rfl | rfl
    · exact ⟨'X', rfl, by unfold IsUpperLetter; decide, by decide, .inl rfl⟩
    · exact ⟨'G', rfl, by unfold IsUpperLetter; decide, by decide,
        .inr ⟨_, -5, rfl, hminusFive, fun _ => by decide⟩⟩
    · exact ⟨'Z', rfl, by unfold IsUpperLetter; decide, by decide,
        .inr ⟨_, 10, rfl, hten, by decide⟩⟩
  exact ⟨by decide +kernel, hprintable, readLine_text hprintable 1 0⟩

end Instruction

end OpcodeAtlas
