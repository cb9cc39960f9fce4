import OpcodeAtlas.Program.Piece
import OpcodeAtlas.Proofs.Number.Reading

/-!
# Words of a program line

A word is a letter, blanks and a number. The scanner takes the longest number off a text, and what
it takes is a number (`numberPrefix_spec`); a number that no digit and no point follows is taken as
a whole (`numberPrefix_of_numberText`). So a word is taken off as one lexeme (`next_word`), and a
code number is read as the numbers that its digits spell, with any zeros in front
(`readCodeNumber_of_text`).
-/

set_option autoImplicit false

namespace OpcodeAtlas

open Text Number

/-! ## Letters and blanks -/

section
variable {c : Char}

theorem isBlank_of_isWordLetter (hc : isWordLetter c = true) : isBlank c = false := by
  simp only [isWordLetter, Bool.or_eq_true, Bool.and_eq_true, decide_eq_true_iff] at hc
  simp only [isBlank, CodeRange.covers, blankRanges, List.any_cons, List.any_nil, Bool.or_false,
    Bool.or_eq_false_iff, Bool.and_eq_false_iff, decide_eq_false_iff_not]
  omega

theorem ne_of_isWordLetter (hc : isWordLetter c = true) {d : Char} (hd : isWordLetter d = false) :
    c ≠ d := by
  rintro rfl
  cases hc.symm.trans hd

theorem isGap_of_isDigit (hc : isDigit c = true) : isGap c = false := by
  have hspace : c ≠ ' ' := ne_of_isDigit hc (by decide)
  have htab : c ≠ '\t' := ne_of_isDigit hc (by decide)
  simp [isGap, hspace, htab]

end

/-- A number has no blanks. -/
theorem Number.NumberText.not_isBlank {number : List Char} (h : NumberText number) :
    ∀ c ∈ number, isBlank c = false := by
  have hmarks : ∀ c ∈ ['.', '+', '-'], isBlank c = false := by
    simp only [List.forall_mem_cons]
    exact ⟨by decide, by decide, by decide, List.forall_mem_nil _⟩
  intro c hc
  rcases h.mem c hc with hdigit | hmark
  · exact isBlank_of_isDigit hdigit
  · exact hmarks c hmark

/-- A number starts with no blank. -/
theorem Number.NumberText.exists_cons {number : List Char} (h : NumberText number) :
    ∃ d tail, number = d :: tail ∧ isGap d = false := by
  obtain ⟨sign, hsign, unsigned, whole, fraction, rfl, h⟩ := h
  obtain ⟨d, tail, rfl, hd⟩ := h.exists_cons
  have hd : isGap d = false := by
    rcases hd with hd | rfl
    · exact isGap_of_isDigit hd
    · rfl
  rcases mem_signTexts.1 hsign with rfl | rfl | rfl
  · exact ⟨d, tail, rfl, hd⟩
  · exact ⟨'+', d :: tail, rfl, rfl⟩
  · exact ⟨'-', d :: tail, rfl, rfl⟩

/-! ## Numbers at the start of a text -/

/-- No digit and no point stands at the start of a text, so that a number ends in front of it. -/
def EndsNumber (rest : List Char) : Prop := ∀ c ∈ rest.head?, isDigit c = false ∧ c ≠ '.'

theorem endsNumber_nil : EndsNumber [] := nofun

section
variable {unsigned whole fraction rest : List Char}

theorem unsignedPrefix_of_unsignedText (h : UnsignedText unsigned whole fraction)
    (hrest : EndsNumber rest) : unsignedPrefix (unsigned ++ rest) = unsigned := by
  have hdigit : ∀ c ∈ rest.head?, isDigit c = false := fun c hc => (hrest c hc).1
  cases h with
  | whole hne hwhole =>
      rw [unsignedPrefix, takeWhile_row hwhole hdigit, dropWhile_row hwhole hdigit]
      split
      next tail => exact absurd rfl (hrest '.' rfl).2
      · rfl
  | pointed hne hwhole hfraction =>
      have hpoint : ∀ c ∈ ('.' :: (fraction ++ rest)).head?, isDigit c = false := by
        rintro c ⟨⟩
        decide
      have hsome : (whole.isEmpty && fraction.isEmpty) = false := by
        rcases hne with hne | hne
        · simp [hne]
        · simp [hne]
      rw [List.append_assoc, List.cons_append, unsignedPrefix, takeWhile_row hwhole hpoint,
        dropWhile_row hwhole hpoint]
      simp only [takeWhile_row hfraction hdigit, hsome, Bool.false_eq_true, if_false]

/-- A text that starts with no sign is scanned for a number without a sign. -/
theorem numberPrefix_of_unsigned {c : Char} (hplus : c ≠ '+') (hminus : c ≠ '-') (s : List Char) :
    numberPrefix (c :: s) = unsignedPrefix (c :: s) := by
  simp [numberPrefix, hplus, hminus]

/-- **A number is taken off as a whole.** -/
theorem numberPrefix_of_numberText {number : List Char} (h : NumberText number)
    (hrest : EndsNumber rest) : numberPrefix (number ++ rest) = number := by
  obtain ⟨sign, hsign, unsigned, whole, fraction, rfl, h⟩ := h
  have hprefix := unsignedPrefix_of_unsignedText h hrest
  obtain ⟨c, tail, rfl, hc⟩ := h.exists_cons
  rcases mem_signTexts.1 hsign with rfl | rfl | rfl
  · -- Without a sign in front, the first character is a digit or a point, and not taken for a sign.
    have hplus : c ≠ '+' := by
      rintro rfl
      exact absurd hc (by decide)
    have hminus : c ≠ '-' := by
      rintro rfl
      exact absurd hc (by decide)
    exact (numberPrefix_of_unsigned hplus hminus (tail ++ rest)).trans hprefix
  · rw [List.append_assoc, List.singleton_append, numberPrefix, hprefix]
    simp
  · rw [List.append_assoc, List.singleton_append, numberPrefix, hprefix]
    simp

theorem unsignedPrefix_spec (s : List Char) :
    unsignedPrefix s = [] ∨ ∃ whole fraction, UnsignedText (unsignedPrefix s) whole fraction := by
  have hdigits : ∀ (t : List Char), ∀ c ∈ t.takeWhile isDigit, isDigit c = true :=
    fun t c hc => List.mem_takeWhile_imp hc
  rw [unsignedPrefix]
  split
  next tail heq =>
    dsimp only
    split
    · exact .inl rfl
    next hne =>
      refine .inr ⟨_, _, .pointed ?_ (hdigits s) (hdigits tail)⟩
      simpa [or_iff_not_imp_left] using hne
  · by_cases hne : s.takeWhile isDigit = []
    · exact .inl hne
    · exact .inr ⟨_, _, .whole hne (hdigits s)⟩

/-- **What is taken off is a number**, if it is anything. -/
theorem numberPrefix_spec (s : List Char) : numberPrefix s = [] ∨ NumberText (numberPrefix s) := by
  cases s with
  | nil => exact .inl rfl
  | cons c s =>
      rw [numberPrefix]
      split
      next hsign =>
        have hmem : [c] ∈ signTexts := by
          rcases hsign with rfl | rfl
          · decide
          · decide
        dsimp only
        rcases unsignedPrefix_spec s with h | ⟨whole, fraction, h⟩
        · rw [h]
          exact .inl rfl
        · obtain ⟨d, tail, hcons, -⟩ := h.exists_cons
          have hsome : (unsignedPrefix s).isEmpty = false := by rw [hcons]; rfl
          rw [hsome]
          exact .inr ⟨[c], hmem, _, _, _, rfl, h⟩
      · rcases unsignedPrefix_spec (c :: s) with h | ⟨whole, fraction, h⟩
        · exact .inl h
        · exact .inr ⟨[], by decide, _, _, _, rfl, h⟩

/-- No number stands at the start of a text that starts with a letter. -/
theorem numberPrefix_of_isWordLetter {c : Char} (hc : isWordLetter c = true) (s : List Char) :
    numberPrefix (c :: s) = [] := by
  have hplus : c ≠ '+' := ne_of_isWordLetter hc (by decide)
  have hminus : c ≠ '-' := ne_of_isWordLetter hc (by decide)
  have hpoint : c ≠ '.' := ne_of_isWordLetter hc (by decide)
  have hdigit : isDigit c = false := by
    rw [Bool.eq_false_iff]
    intro hdigit
    have hascii := ascii_of_isDigit hdigit
    simp only [isWordLetter, Bool.or_eq_true, Bool.and_eq_true, decide_eq_true_iff] at hc
    omega
  rw [numberPrefix_of_unsigned hplus hminus, unsignedPrefix,
    List.takeWhile_cons_of_neg (by simp [hdigit]), List.dropWhile_cons_of_neg (by simp [hdigit])]
  split
  next tail heq => exact absurd (List.cons.inj heq).1 hpoint
  · rfl

end

/-! ## Code numbers -/

/-- A text that stands for a code number: the digits of the number, and behind a point those of
the number after it, which is 0 where they are missing. -/
inductive CodeNumberText (major minor : Nat) : List Char → Prop where
  | whole {row : List Char} (hrow : Spells row major) (hlength : row.length ≤ digitLimit)
      (hminor : minor = 0) : CodeNumberText major minor row
  | bare {row : List Char} (hrow : Spells row major) (hlength : row.length ≤ digitLimit)
      (hminor : minor = 0) : CodeNumberText major minor (row ++ ['.'])
  | pointed {row fraction : List Char} (hrow : Spells row major)
      (hlength : row.length ≤ digitLimit) (hfraction : Spells fraction minor)
      (hfractionLength : fraction.length ≤ digitLimit) :
      CodeNumberText major minor (row ++ '.' :: fraction)

section
variable {major minor : Nat} {s : List Char}

/-- A code number is a number without a sign. -/
theorem CodeNumberText.unsignedText (h : CodeNumberText major minor s) :
    ∃ whole fraction, UnsignedText s whole fraction := by
  cases h with
  | whole hrow => exact ⟨_, _, .whole hrow.ne_nil hrow.digits⟩
  | bare hrow => exact ⟨_, _, .pointed (.inl hrow.ne_nil) hrow.digits nofun⟩
  | pointed hrow hlength hfraction =>
      exact ⟨_, _, .pointed (.inl hrow.ne_nil) hrow.digits hfraction.digits⟩

theorem CodeNumberText.numberText (h : CodeNumberText major minor s) : NumberText s := by
  obtain ⟨whole, fraction, hunsigned⟩ := h.unsignedText
  exact ⟨[], by decide, s, whole, fraction, rfl, hunsigned⟩

/-- A row of digits as one part of a code number. -/
theorem readCodePart_of_digits {row : List Char} (hrow : ∀ c ∈ row, isDigit c = true) :
    readCodePart row =
      if digitLimit < row.length then .error (.tooLong row.length)
      else .ok (digitsValue 0 row : Nat) := by
  cases row with
  | nil => rfl
  | cons c row => exact readInteger_of_digits (List.cons_ne_nil c row) hrow

theorem readCodePart_of_spells {row : List Char} {n : Nat} (h : Spells row n)
    (hlength : row.length ≤ digitLimit) : readCodePart row = .ok n := by
  rw [readCodePart_of_digits h.digits, if_neg (Nat.not_lt.2 hlength), h.value]

/-- The two sides of the point of a number without a sign. -/
theorem cut_unsignedText {number whole fraction : List Char}
    (h : UnsignedText number whole fraction) :
    number.takeWhile (· ≠ '.') = whole ∧ (number.dropWhile (· ≠ '.')).drop 1 = fraction := by
  have hdigits {row : List Char} (hrow : ∀ c ∈ row, isDigit c = true) :
      ∀ c ∈ row, decide (c ≠ '.') = true := fun c hc =>
    decide_eq_true (ne_of_isDigit (hrow c hc) (by decide))
  cases h with
  | whole hne hwhole =>
      have hwhole := hdigits hwhole
      exact ⟨List.takeWhile_eq_self_iff.2 hwhole, by rw [List.dropWhile_eq_nil_iff.2 hwhole]; rfl⟩
  | pointed hne hwhole hfraction =>
      have hpoint : ∀ c ∈ ('.' :: fraction).head?, decide (c ≠ '.') = false := by
        rintro c ⟨⟩
        rfl
      exact ⟨takeWhile_row (hdigits hwhole) hpoint,
        by rw [dropWhile_row (hdigits hwhole) hpoint]; rfl⟩

/-- **A code number is read part by part**, first the one in front of the point. -/
theorem readCodeNumber_of_unsigned {number whole fraction : List Char}
    (h : UnsignedText number whole fraction) :
    readCodeNumber number = (readCodePart whole).bind fun major =>
      (readCodePart fraction).map fun minor => some (major, minor) := by
  obtain ⟨hwhole, hfraction⟩ := cut_unsignedText h
  -- A code number is not read behind a sign, so its first character has to be known.
  obtain ⟨c, rest, rfl, hc⟩ := h.exists_cons
  have hsign : ¬(c = '+' ∨ c = '-') := by
    rintro (rfl | rfl)
    · exact absurd hc (by decide)
    · exact absurd hc (by decide)
  simp only [readCodeNumber, if_neg hsign, hwhole, hfraction]
  cases readCodePart whole with
  | error f => rfl
  | ok major =>
      cases readCodePart fraction with
      | error f => rfl
      | ok minor => rfl

/-- **A code number is read as the numbers that its digits spell.** -/
theorem readCodeNumber_of_text (h : CodeNumberText major minor s) :
    readCodeNumber s = .ok (some (major, minor)) := by
  cases h with
  | whole hrow hlength hminor =>
      subst hminor
      rw [readCodeNumber_of_unsigned (.whole hrow.ne_nil hrow.digits),
        readCodePart_of_spells hrow hlength]
      rfl
  | bare hrow hlength hminor =>
      subst hminor
      have hnone : ∀ c ∈ [], isDigit c = true := List.forall_mem_nil _
      rw [readCodeNumber_of_unsigned (.pointed (.inl hrow.ne_nil) hrow.digits hnone),
        readCodePart_of_spells hrow hlength]
      rfl
  | pointed hrow hlength hfraction hfractionLength =>
      rw [readCodeNumber_of_unsigned (.pointed (.inl hrow.ne_nil) hrow.digits hfraction.digits),
        readCodePart_of_spells hrow hlength, readCodePart_of_spells hfraction hfractionLength]
      rfl

theorem openingLetter_cases {letter : Char} (h : letter ∈ commandLetters ++ leadingLetters) :
    letter = 'G' ∨ letter = 'M' ∨ letter = 'T' ∨ letter = 'D' := by
  simpa [commandLetters, leadingLetters] using h

/-- A letter that opens instructions opens one in front of a code number. -/
theorem opening?_of_text {letter : Char} (hletter : letter ∈ commandLetters ++ leadingLetters)
    (h : CodeNumberText major minor s) :
    opening? false (.word letter s) = .ok (some (letter, (major : Int), (minor : Int))) := by
  have hopens : opensInstruction false letter = true := by
    rcases openingLetter_cases hletter with rfl | rfl | rfl | rfl <;> decide
  rw [opening?, if_pos hopens, readCodeNumber_of_text h]
  rfl

end

/-! ## Taking a word off -/

namespace Lexed

/-- **A word is taken off as one lexeme.** -/
theorem next_word {c : Char} (gap : List Char) {number rest : List Char}
    (hc : isWordLetter c = true) (hgap : ∀ g ∈ gap, isGap g = true)
    (hhead : ∀ g ∈ (number ++ rest).head?, isGap g = false)
    (hnumber : numberPrefix (number ++ rest) = number) :
    next c (gap ++ (number ++ rest)) = ⟨.word c.toUpper number, c :: gap ++ number, rest⟩ := by
  have hsemicolon : c ≠ ';' := ne_of_isWordLetter hc (by decide)
  have hparen : c ≠ '(' := ne_of_isWordLetter hc (by decide)
  have hstar : c ≠ '*' := ne_of_isWordLetter hc (by decide)
  simp only [next, isBlank_of_isWordLetter hc, Bool.false_eq_true, if_false, hsemicolon, hparen,
    hstar, hc, if_true, takeWhile_row hgap hhead, dropWhile_row hgap hhead, hnumber,
    List.drop_left]

/-- A word with a number. -/
theorem next_numberText {c : Char} (gap : List Char) {number rest : List Char}
    (hc : isWordLetter c = true) (hgap : ∀ g ∈ gap, isGap g = true) (hnumber : NumberText number)
    (hrest : EndsNumber rest) :
    next c (gap ++ (number ++ rest)) = ⟨.word c.toUpper number, c :: gap ++ number, rest⟩ := by
  refine next_word gap hc hgap ?_ (numberPrefix_of_numberText hnumber hrest)
  obtain ⟨d, tail, rfl, hd⟩ := hnumber.exists_cons
  rintro g ⟨⟩
  exact hd

/-- Blanks are taken off as one lexeme. -/
theorem next_blanks {c : Char} (row : List Char) {rest : List Char} (hc : isBlank c = true)
    (hrow : ∀ b ∈ row, isBlank b = true) (hrest : ∀ b ∈ rest.head?, isBlank b = false) :
    next c (row ++ rest) = ⟨.blanks, c :: row, rest⟩ := by
  simp only [next, hc, if_true, takeWhile_row hrow hrest, dropWhile_row hrow hrest]

end Lexed

end OpcodeAtlas
