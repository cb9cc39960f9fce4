import OpcodeAtlas.Proofs.Number.WordText
import OpcodeAtlas.Proofs.Program.InstructionShape

/-!
# The number of a word, shown and read again

A word is shown as its letter and its number, a whole number in full and any other one with six
significant digits. Put behind a move, the text is read as the same word just when nothing is lost
by this (`readsBack_iff_isBrief`): when the number is whole, or nearest to a decimal of at most six
digits that is neither too small nor too large to be written without an exponent. Another number
returns as the one that six digits stand for, or its exponent is read as a second word.
-/

set_option autoImplicit false

namespace OpcodeAtlas

open Text Number

/-! ## Texts of numbers -/

/-- A number is whole, or six digits without an exponent are enough for it. -/
def Binary64.IsBrief (x : Binary64) : Prop := (∃ k, x.toInt? = some k) ∨ x.HasSixDigits

/-- A text that shows a double: a number, which is read as the double just when the double is
brief; or a number and an exponent, if the double is not. -/
inductive Binary64.ShownAs (x : Binary64) : List Char → Prop where
  | number {text : List Char} {y : Binary64} (hnumber : NumberText text)
      (hread : readDecimal? text = some y) (hsame : y.sameNumber x = true ↔ x.IsBrief) :
      ShownAs x text
  | exponent {number exponent : List Char} (hnumber : NumberText number)
      (hexponent : NumberText exponent) (hnot : ¬x.IsBrief) : ShownAs x (number ++ 'e' :: exponent)

namespace Binary64

theorem sameNumber_self {neg : Bool} {m s : Nat} :
    (finite neg m s).sameNumber (finite neg m s) = true := by
  simp [sameNumber]

/-- Only a zero is the same number as another double. -/
theorem sameNumber_iff_eq {y : Binary64} {neg : Bool} {m s : Nat} (hm : m ≠ 0) :
    y.sameNumber (finite neg m s) = true ↔ y = finite neg m s := by
  cases y with
  | finite neg' m' s' =>
      simp only [sameNumber, Bool.and_eq_true, Bool.or_eq_true, beq_iff_eq, finite.injEq]
      constructor
      · rintro ⟨⟨rfl, rfl⟩, hneg | hzero⟩
        · exact ⟨hneg, rfl, rfl⟩
        · exact absurd hzero hm
      · rintro ⟨rfl, rfl, rfl⟩
        exact ⟨⟨rfl, rfl⟩, .inl rfl⟩
  | infinite neg' => exact ⟨nofun, nofun⟩
  | nan => exact ⟨nofun, nofun⟩

theorem signText_mem (neg : Bool) : signText neg ∈ signTexts := by
  cases neg <;> decide

/-- The text of a whole double. -/
theorem shownAs_whole {x : Binary64} {k : Int} (hx : x.Canonical) (hk : x.toInt? = some k) :
    x.ShownAs (toString k).toList := by
  have hbrief : x.IsBrief := .inl ⟨k, hk⟩
  have hnumber := numberText_toString k
  by_cases hzero : x = .finite true 0 0
  · -- The sign of the negative zero is not shown.
    subst hzero
    have hnone : (finite true 0 0).toInt? = some 0 := by decide +kernel
    obtain rfl := Option.some.inj (hnone.symm.trans hk)
    have hread : readDecimal? (toString (0 : Int)).toList = some (.finite false 0 0) := by
      decide +kernel
    exact .number hnumber hread ⟨fun _ => hbrief, fun _ => rfl⟩
  · have hread := readDecimal?_toString hx hk hzero
    refine .number hnumber hread ⟨fun _ => hbrief, fun _ => ?_⟩
    cases x with
    | finite neg m s => exact sameNumber_self
    | infinite neg => cases hk
    | nan => cases hk

/-- The text of a double that is not whole. -/
theorem shownAs_wordText {neg : Bool} {m s : Nat} (hnone : (finite neg m s).toInt? = none) :
    (finite neg m s).ShownAs (wordText (finite neg m s)).toList := by
  have hm : m ≠ 0 := by
    rintro rfl
    simp [toInt?] at hnone
  have hbrief : (finite neg m s).IsBrief ↔ (finite neg m s).HasSixDigits := by
    refine ⟨fun h => h.resolve_left ?_, .inr⟩
    rintro ⟨k, hk⟩
    rw [hnone] at hk
    cases hk
  obtain ⟨hne, -⟩ := @coefficient_rounded m s hm
  have htext : (wordText (finite neg m s)).toList =
      signText neg ++ Decimal.text Decimal.Layout.word (Decimal.rounded 6 m s) := by
    rw [wordText, String.toList_ofList, textWith, if_neg hm]
  rw [htext]
  -- The place of the first digit tells the two forms apart.
  by_cases hfirst : -4 ≤ (Decimal.rounded 6 m s).first ∧ (Decimal.rounded 6 m s).first ≤ 5
  · obtain ⟨whole, fraction, hunsigned, hparts⟩ := Decimal.readsAs_text hne hfirst
    have hread := readDecimal?_of_unsigned hunsigned (signText_mem neg)
    have hsign : decide (signText neg = ['-']) = neg := by
      cases neg <;> decide
    rw [hsign, hparts] at hread
    refine .number ⟨_, signText_mem neg, _, _, _, rfl, hunsigned⟩ hread ?_
    rw [sameNumber_iff_eq hm, hbrief, ← ofDecimal_rounded_iff hm]
    exact ⟨fun h => ⟨h, hfirst⟩, And.left⟩
  · obtain ⟨unsigned, whole, fraction, htext, hunsigned⟩ := Decimal.exists_text_exponent hfirst
    rw [htext, ← List.append_assoc]
    refine .exponent ⟨_, signText_mem neg, _, _, _, rfl, hunsigned⟩
      (Decimal.numberText_exponentText _) ?_
    rw [hbrief, ← ofDecimal_rounded_iff hm]
    exact fun h => hfirst h.2

/-- **The text of a finite double shows it.** -/
theorem shownAs_numberText {x : Binary64} (hx : x.Canonical) (hfinite : x.isFinite = true) :
    x.ShownAs (numberText x).toList := by
  unfold numberText
  split
  next k hk => exact shownAs_whole hx hk
  next hnone =>
    cases x with
    | finite neg m s => exact shownAs_wordText hnone
    | infinite neg => cases hfinite
    | nan => cases hfinite

end Binary64

/-! ## Words behind a move -/

/-- The wording of a move with some arguments. -/
def moveWording (arguments : List (String × ArgumentValue)) : Wording := ⟨"G", 1, 0, arguments⟩

namespace LineReading.Says

variable {c : Char} {ws : List Wording}

/-- A word with a number behind a code. -/
theorem word {number rest : List Char} {w : Wording} {x : Binary64} (hc : isWordLetter c = true)
    (hline : c.toUpper ≠ 'N') (hcommand : c.toUpper ∉ commandLetters) (hnumber : NumberText number)
    (hx : readDecimal? number = some x) (hrest : EndsNumber rest)
    (h : (OpcodeAtlas.pieces true rest).Says
      (some (w.extend (String.singleton c.toUpper, .number x))) ws) :
    (OpcodeAtlas.pieces true (c :: (number ++ rest))).Says (some w) ws := by
  have hnext := Lexed.next_numberText [] hc nofun hnumber hrest
  have hopening : opening? true (.word c.toUpper number) = .ok none :=
    opening?_of_noCode fun hmem => absurd hmem hcommand
  have hsome : number.isEmpty = false := by
    obtain ⟨d, tail, rfl, -⟩ := hnumber.exists_cons
    rfl
  rw [List.nil_append] at hnext
  rw [pieces_plain hnext hopening, plainKind_word hline, hsome, hx]
  exact h.argument rfl _

/-- A move in front of a word. -/
theorem move {rest : List Char} (hc : isWordLetter c = true)
    (h : (OpcodeAtlas.pieces true (c :: rest)).Says (some (moveWording [])) ws) :
    (OpcodeAtlas.pieces false ("G1 ".toList ++ c :: rest)).Says none ws := by
  have hdigit : ∀ d ∈ ['1'], isDigit d = true := List.forall_mem_singleton.2 (isDigit_of_ascii rfl)
  have hone : NumberText ['1'] :=
    ⟨[], by decide, ['1'], ['1'], [], rfl, .whole (List.cons_ne_nil _ _) hdigit⟩
  have hend : EndsNumber (' ' :: c :: rest) := by
    rintro d ⟨⟩
    decide
  have hcode : Lexed.next 'G' ('1' :: ' ' :: c :: rest) =
      ⟨.word 'G' ['1'], ['G', '1'], ' ' :: c :: rest⟩ :=
    Lexed.next_numberText [] (by decide) nofun hone hend
  have hopening : opening? false (.word 'G' ['1']) = .ok (some ('G', 1, 0)) := by decide +kernel
  have hspace : Lexed.next ' ' (c :: rest) = ⟨.blanks, [' '], c :: rest⟩ := by
    refine Lexed.next_blanks [] rfl nofun ?_
    rintro d ⟨⟩
    exact isBlank_of_isWordLetter hc
  have htext : "G1 ".toList ++ c :: rest = 'G' :: '1' :: ' ' :: c :: rest := rfl
  rw [htext, pieces_opening hcode hopening rfl]
  refine opening ?_ _
  dsimp only
  rw [pieces_plain hspace rfl]
  exact h.blanks [' ']

end LineReading.Says

/-- The text of an argument, put behind a move, is read as a move with this argument, whose value
is the number. -/
def Argument.ReadsBack (a : Argument) (x : Binary64) (line offset : Int) : Prop :=
  ∃ content i b y, readLine ("G1 " ++ a.text).toList line offset = .ok content ∧
    content.instructions = [i] ∧ i.arguments = [b] ∧ b.letter = a.letter ∧
    b.value = .number y ∧ y.sameNumber x = true

section
variable {a : Argument} {x : Binary64}

/-- Whether an argument is read back can be told from the wording of the move. -/
theorem readsBack_iff_of_wording {arguments : List (String × ArgumentValue)}
    (h : (pieces false ("G1 " ++ a.text).toList).Says none [moveWording arguments])
    (line offset : Int) :
    a.ReadsBack x line offset ↔
      ∃ y, arguments = [(a.letter, .number y)] ∧ y.sameNumber x = true := by
  obtain ⟨is, hread, hwordings⟩ := h.readLine_eq line offset
  obtain ⟨j, rfl, hj⟩ := List.map_eq_singleton_iff.1 hwordings
  have harguments : j.arguments.map Argument.wording = arguments :=
    congrArg Wording.arguments hj
  constructor
  · rintro ⟨content, i, b, y, hread', hi, hb, hletter, hvalue, hsame⟩
    obtain rfl := Except.ok.inj (hread.symm.trans hread')
    obtain rfl := (List.cons.inj hi).1
    refine ⟨y, ?_, hsame⟩
    rw [← harguments, hb, List.map_singleton, Argument.wording, hletter, hvalue]
  · rintro ⟨y, rfl, hsame⟩
    obtain ⟨b, hb, hwording⟩ := List.map_eq_singleton_iff.1 harguments
    obtain ⟨hletter, hvalue⟩ := Prod.mk.inj hwording
    exact ⟨_, j, b, y, hread, rfl, hb, hletter, hvalue, hsame⟩

/-- A word behind a move, in front of what the line says next. -/
theorem says_word {letter : Char} {number rest : List Char} {y : Binary64} {ws : List Wording}
    (hletter : IsUpperLetter letter) (hline : letter ≠ 'N') (hcommand : letter ∉ commandLetters)
    (hnumber : NumberText number) (hread : readDecimal? number = some y) (hrest : EndsNumber rest)
    (h : (pieces true rest).Says
      (some (moveWording [(String.singleton letter, .number y)])) ws) :
    (pieces true (letter :: (number ++ rest))).Says (some (moveWording [])) ws := by
  have hupper := toUpper_of_isUpperLetter hletter
  have hword := isWordLetter_of_isUpperLetter hletter
  refine LineReading.Says.word hword (hupper.symm ▸ hline) (hupper.symm ▸ hcommand) hnumber hread
    hrest ?_
  rw [hupper]
  exact h

/-- **What a shown number is read as**, behind a letter and a move: the number, or a number and a
second word, which the letter of the exponent starts. -/
theorem exists_says_of_shownAs {letter : Char} {text : List Char} (hletter : IsUpperLetter letter)
    (hline : letter ≠ 'N') (hcommand : letter ∉ commandLetters) (hshown : x.ShownAs text) :
    ∃ y others, (pieces false ("G1 ".toList ++ letter :: text)).Says none
        [moveWording ((String.singleton letter, .number y) :: others)] ∧
      (others = [] ∧ y.sameNumber x = true ↔ x.IsBrief) := by
  have hword := isWordLetter_of_isUpperLetter hletter
  cases hshown with
  | @number text y hnumber hread hsame =>
      refine ⟨y, [], ?_, ?_⟩
      · apply LineReading.Says.move hword
        rw [← List.append_nil text]
        apply says_word hletter hline hcommand hnumber hread endsNumber_nil
        rw [pieces_nil]
        exact LineReading.Says.end_of_line _
      · rw [← hsame]
        exact ⟨And.right, fun h => ⟨rfl, h⟩⟩
  | @exponent number exponent hnumber hexponent hnot =>
      obtain ⟨y, hread⟩ := exists_readDecimal? hnumber
      obtain ⟨z, hread'⟩ := exists_readDecimal? hexponent
      refine ⟨y, [("E", .number z)], ?_, ?_⟩
      · have hend : EndsNumber ('e' :: exponent) := by
          rintro d ⟨⟩
          decide
        apply LineReading.Says.move hword
        apply says_word hletter hline hcommand hnumber hread hend
        rw [← List.append_nil exponent]
        apply LineReading.Says.word (by decide) (by decide) (by decide) hexponent hread'
          endsNumber_nil
        rw [pieces_nil]
        exact LineReading.Says.end_of_line _
      · constructor
        · rintro ⟨hothers, -⟩
          cases hothers
        · intro hbrief
          exact absurd hbrief hnot

/-- **A word whose number is shown as it is**, put behind a move. -/
theorem readsBack_iff_of_shownAs {letter : Char} {text : List Char}
    (hletter : IsUpperLetter letter) (hline : letter ≠ 'N') (hcommand : letter ∉ commandLetters)
    (ha : a.letter = String.singleton letter) (htext : a.text.toList = letter :: text)
    (hshown : x.ShownAs text) (line offset : Int) :
    a.ReadsBack x line offset ↔ x.IsBrief := by
  obtain ⟨y, others, hsays, hbrief⟩ := exists_says_of_shownAs hletter hline hcommand hshown
  rw [← htext, ← String.toList_append] at hsays
  rw [readsBack_iff_of_wording hsays, ← hbrief, ha]
  constructor
  · rintro ⟨z, hwords, hsame⟩
    obtain ⟨hword, hothers⟩ := List.cons.inj hwords
    obtain rfl := ArgumentValue.number.inj (Prod.mk.inj hword).2
    exact ⟨hothers, hsame⟩
  · rintro ⟨rfl, hsame⟩
    exact ⟨y, rfl, hsame⟩

end

/-! ## Arguments of a line -/

section
variable {s : List Char} {line offset : Int} {content : LineContent} {i : Instruction}
  {a : Argument} {x : Binary64}

/-- An argument with a number is a word with a number. -/
theorem exists_number_of_argument (hread : readLine s line offset = .ok content)
    (hi : i ∈ content.instructions) (ha : a ∈ i.arguments) (hx : a.value = .number x) :
    ∃ letter number, a.letter = String.singleton letter ∧ IsUpperLetter letter ∧ letter ≠ 'N' ∧
      NumberText number ∧ readDecimal? number = some x := by
  obtain ⟨p, hp, hargument, -⟩ := exists_piece_of_argument hread hi ha
  have hshape := shape_pieces false s p hp
  obtain ⟨kind, text⟩ := p
  rw [Argument.wording, hx] at hargument
  dsimp only at hargument hshape
  cases hshape with
  | @value letter y number _ hletter hword hnumber hread hopens =>
      obtain ⟨hl, hv⟩ := Prod.mk.inj (Option.some.inj hargument)
      obtain rfl := ArgumentValue.number.inj hv
      exact ⟨letter, number, hl.symm, hword.isUpperLetter, hletter, hnumber, hread⟩
  | flag => cases (Prod.mk.inj (Option.some.inj hargument)).2
  | message => cases (Prod.mk.inj (Option.some.inj hargument)).2
  | _ => cases hargument

/-- **Which numbers are faithfully shown**: the text of an argument, put behind a move, is read as
the argument just when its number is whole or six digits are enough for it. -/
theorem readsBack_iff_isBrief (hread : readLine s line offset = .ok content)
    (hi : i ∈ content.instructions) (ha : a ∈ i.arguments) (hletter : a.letter ∉ ["G", "M"])
    (hx : a.value = .number x) (hfinite : x.isFinite = true) (line' offset' : Int) :
    a.ReadsBack x line' offset' ↔ x.IsBrief := by
  obtain ⟨letter, number, hl, hupper, hline, hnumber, hnumber_read⟩ :=
    exists_number_of_argument hread hi ha hx
  -- What is read from a text is canonical, so the text of a whole number is read as that number.
  have hcanonical : x.Canonical := by
    obtain ⟨sign, hsign, unsigned, whole, fraction, rfl, hunsigned⟩ := hnumber
    rw [readDecimal?_of_unsigned hunsigned hsign] at hnumber_read
    obtain rfl := Option.some.inj hnumber_read
    exact Binary64.canonical_ofDecimal _ _ _
  have hcommand : letter ∉ commandLetters := by
    intro hmem
    rw [hl] at hletter
    have hcases : letter = 'G' ∨ letter = 'M' := by simpa [commandLetters] using hmem
    rcases hcases with rfl | rfl <;> exact absurd hletter (by decide)
  have htext : a.text.toList = letter :: (numberText x).toList := by
    rw [Argument.text, hx, hl]
    simp only [String.toList_append, String.toList_singleton, List.singleton_append]
  exact readsBack_iff_of_shownAs hupper hline hcommand hl htext
    (Binary64.shownAs_numberText hcanonical hfinite) line' offset'

end

/-- A number with two digits is shown as it is. -/
theorem readsBack_short :
    ∃ content i a, ∃ x : Binary64, readLine "G1 X1.5".toList 1 0 = .ok content ∧
      i ∈ content.instructions ∧ a ∈ i.arguments ∧ a.letter ∉ ["G", "M"] ∧ a.value = .number x ∧
      x.isFinite = true ∧ a.text = "X1.5" ∧ a.ReadsBack x 1 0 := by
  have hread : readLine "G1 X1.5".toList 1 0 = .ok ⟨[], [⟨"G", 1, 0, ⟨1, 0, 7⟩,
      [⟨"X", .number (.finite false (3 * Nat.pow 2 51) 1022), some ⟨1, 3, 7⟩⟩]⟩], []⟩ := by
    decide +kernel
  have hbrief : (Binary64.finite false (3 * Nat.pow 2 51) 1022).IsBrief := by
    refine .inr ⟨false, ⟨15, -1⟩, by decide +kernel, by decide, ?_, ?_⟩
    · norm_num [Decimal.value]
    · norm_num [Decimal.value]
  refine ⟨_, _, _, _, hread, List.mem_singleton_self _, List.mem_singleton_self _, by decide, rfl,
    rfl, by decide +kernel, ?_⟩
  exact (readsBack_iff_isBrief hread (List.mem_singleton_self _) (List.mem_singleton_self _)
    (by decide) rfl rfl 1 0).2 hbrief

/-- A number with eight digits is shown with six of them, and read as another number. -/
theorem not_readsBack_long :
    ∃ content i a, ∃ x : Binary64, readLine "G1 X1.2345678".toList 1 0 = .ok content ∧
      i ∈ content.instructions ∧ a ∈ i.arguments ∧ a.letter = "X" ∧ a.value = .number x ∧
      x.isFinite = true ∧ a.text = "X1.23457" ∧ ¬a.ReadsBack x 1 0 := by
  have hread : readLine "G1 X1.2345678".toList 1 0 = .ok ⟨[], [⟨"G", 1, 0, ⟨1, 0, 13⟩,
      [⟨"X", .number (.finite false 5559999084043613 1022), some ⟨1, 3, 13⟩⟩]⟩], []⟩ := by
    decide +kernel
  have htext : Argument.text ⟨"X", .number (.finite false 5559999084043613 1022),
      some ⟨1, 3, 13⟩⟩ = "X1.23457" := by
    decide +kernel
  have hread' : readLine ("G1 " ++ "X1.23457").toList 1 0 = .ok ⟨[], [⟨"G", 1, 0, ⟨1, 0, 11⟩,
      [⟨"X", .number (.finite false 5560008991962793 1022), some ⟨1, 3, 11⟩⟩]⟩], []⟩ := by
    decide +kernel
  refine ⟨_, _, _, _, hread, List.mem_singleton_self _, List.mem_singleton_self _, rfl, rfl, rfl,
    htext, ?_⟩
  rintro ⟨content, i, b, y, hback, hi, hb, -, hvalue, hsame⟩
  rw [htext, hread'] at hback
  cases hback
  cases hi
  cases hb
  cases hvalue
  exact absurd hsame (by decide)

-- The letter of an exponent starts a second word.
example : (readLine "G1 X1e-05".toList 1 0).toOption.map
    (·.instructions.map Instruction.text) = some ["G1 X1 E-5"] := by
  decide +kernel

end OpcodeAtlas
