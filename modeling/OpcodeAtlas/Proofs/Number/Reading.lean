import Mathlib.Data.List.TakeWhile
import OpcodeAtlas.Number.Reading
import OpcodeAtlas.Proofs.Number.Rounding
import OpcodeAtlas.Proofs.Text.Blank
import OpcodeAtlas.Proofs.Text.DigitRow

/-!
# Numbers that can be read

A row of digits within the limit is read as the number that it spells (`readInteger_of_digits`).
A number of a program word is a sign, digits and a point at most (`NumberText`), and every such
text is read as a decimal (`exists_readDecimal?`). The text of a whole double reads back as the
double (`readDecimal?_toString`).
-/

set_option autoImplicit false

namespace OpcodeAtlas.Number

open Text

/-! ## Padding and separators -/

theorem isPadding_of_isDigit {c : Char} (hc : isDigit c = true) : isPadding c = false := by
  rw [isPadding, isBlank_of_isDigit hc]
  rfl

/-- A text without padding stays as it is. -/
theorem trimPadding_of_none {s : List Char} (h : ∀ c ∈ s, isPadding c = false) :
    trimPadding s = s := by
  have hdrop : s.dropWhile isPadding = s := by
    cases s with
    | nil => rfl
    | cons c s => simp [h c List.mem_cons_self]
  rw [trimPadding, hdrop, dropEndWhile_eq_self fun c hc => h c (List.mem_of_getLast? hc)]

theorem dropSeparators_of_none {s : List Char} (h : ∀ c ∈ s, c ≠ '_') (before : Bool) :
    dropSeparators before s = some s := by
  induction s generalizing before with
  | nil => rfl
  | cons c s ih =>
      obtain ⟨hc, hs⟩ := List.forall_mem_cons.1 h
      rw [dropSeparators.eq_def]
      simp only [hc, if_false, ih hs, Option.map_some]

/-! ## Whole numbers -/

theorem digitRow_of_digits {row : List Char} (h : ∀ c ∈ row, isDigit c = true)
    (count value : Nat) :
    digitRow false count value row = some (count + row.length, digitsValue value row, []) := by
  induction row generalizing count value with
  | nil => rfl
  | cons c row ih =>
      obtain ⟨hc, hrow⟩ := List.forall_mem_cons.1 h
      have hseparator : c ≠ '_' := ne_of_isDigit hc (by decide)
      obtain ⟨d, hd⟩ := Option.isSome_iff_exists.1 hc
      rw [digitRow, if_neg hseparator]
      simp only [hd, ih hrow, digitsValue, Option.getD_some, List.length_cons]
      congr 2
      omega

/-- A text that starts with a digit or a point has no sign. -/
theorem splitSign_of_unsigned {c : Char} (rest : List Char) (hplus : c ≠ '+') (hminus : c ≠ '-') :
    splitSign (c :: rest) = (false, c :: rest) := by
  unfold splitSign
  split
  · next heq => exact absurd (List.cons.inj heq).1 hminus
  · next heq => exact absurd (List.cons.inj heq).1 hplus
  · rfl

/-- **A row of digits is read as its value**, if it is not longer than the limit. -/
theorem readInteger_of_digits {row : List Char} (hne : row ≠ [])
    (hrow : ∀ c ∈ row, isDigit c = true) :
    readInteger row =
      if digitLimit < row.length then .error (.tooLong row.length)
      else .ok (digitsValue 0 row : Nat) := by
  have htrim : trimPadding row = row :=
    trimPadding_of_none fun c hc => isPadding_of_isDigit (hrow c hc)
  obtain ⟨c, rest, rfl⟩ := List.exists_cons_of_ne_nil hne
  have hc : isDigit c = true := hrow c List.mem_cons_self
  have hsign : splitSign (c :: rest) = (false, c :: rest) :=
    splitSign_of_unsigned rest (ne_of_isDigit hc (by decide)) (ne_of_isDigit hc (by decide))
  have hdigits := digitRow_of_digits hrow 0 0
  have hsome : (c :: rest).length ≠ 0 := by simp
  simp only [readInteger, htrim, hsign]
  split
  next heq => exact absurd (List.cons.inj heq).1 (ne_of_isDigit hc (by decide))
  next =>
    rw [hdigits]
    simp only [hsome, if_false, List.isEmpty_nil, if_true, Nat.zero_add, Bool.false_eq_true]

/-! ## Decimals -/

/-- The text of a number without a sign: digits, and behind a point more digits, not all of them
missing. -/
inductive UnsignedText : List Char → List Char → List Char → Prop where
  | whole {whole : List Char} (hne : whole ≠ []) (hwhole : ∀ c ∈ whole, isDigit c = true) :
      UnsignedText whole whole []
  | pointed {whole fraction : List Char} (hne : whole ≠ [] ∨ fraction ≠ [])
      (hwhole : ∀ c ∈ whole, isDigit c = true) (hfraction : ∀ c ∈ fraction, isDigit c = true) :
      UnsignedText (whole ++ '.' :: fraction) whole fraction

/-- The texts of signs. -/
def signTexts : List (List Char) := [[], ['+'], ['-']]

theorem mem_signTexts {sign : List Char} :
    sign ∈ signTexts ↔ sign = [] ∨ sign = ['+'] ∨ sign = ['-'] := by
  simp only [signTexts, List.mem_cons, List.not_mem_nil, or_false]

/-- The text of a number in a program word: a sign or none, and a number without a sign. -/
def NumberText (number : List Char) : Prop :=
  ∃ sign ∈ signTexts, ∃ unsigned whole fraction,
    number = sign ++ unsigned ∧ UnsignedText unsigned whole fraction

section
variable {unsigned whole fraction : List Char}

/-- On both sides of the point there are digits alone. -/
theorem UnsignedText.isDigit_of_mem (h : UnsignedText unsigned whole fraction) :
    (∀ c ∈ whole, isDigit c = true) ∧ ∀ c ∈ fraction, isDigit c = true := by
  cases h with
  | whole hne hwhole => exact ⟨hwhole, List.forall_mem_nil _⟩
  | pointed hne hwhole hfraction => exact ⟨hwhole, hfraction⟩

/-- The characters of a number without a sign are digits and points. -/
theorem UnsignedText.mem (h : UnsignedText unsigned whole fraction) :
    ∀ c ∈ unsigned, isDigit c = true ∨ c = '.' := by
  intro c hc
  cases h with
  | whole hne hwhole => exact .inl (hwhole c hc)
  | pointed hne hwhole hfraction =>
      rcases List.mem_append.1 hc with hc | hc
      · exact .inl (hwhole c hc)
      · rcases List.mem_cons.1 hc with hc | hc
        · exact .inr hc
        · exact .inl (hfraction c hc)

/-- The characters of a number are digits, points and signs. -/
theorem NumberText.mem {number : List Char} (h : NumberText number) :
    ∀ c ∈ number, isDigit c = true ∨ c ∈ ['.', '+', '-'] := by
  obtain ⟨sign, hsign, unsigned, whole, fraction, rfl, hunsigned⟩ := h
  intro c hc
  rcases List.mem_append.1 hc with hc | hc
  · refine .inr ?_
    rcases mem_signTexts.1 hsign with rfl | rfl | rfl
    · cases hc
    · rw [List.mem_singleton.1 hc]
      decide
    · rw [List.mem_singleton.1 hc]
      decide
  · rcases hunsigned.mem c hc with hdigit | rfl
    · exact .inl hdigit
    · exact .inr (by decide)

theorem UnsignedText.exists_cons (h : UnsignedText unsigned whole fraction) :
    ∃ c rest, unsigned = c :: rest ∧ (isDigit c = true ∨ c = '.') := by
  have hne : unsigned ≠ [] := by
    cases h with
    | whole hne hwhole => exact hne
    | pointed hne hwhole hfraction => simp
  obtain ⟨c, rest, rfl⟩ := List.exists_cons_of_ne_nil hne
  exact ⟨c, rest, rfl, h.mem c List.mem_cons_self⟩

/-- Words for numbers do not start with a digit or a point. -/
theorem UnsignedText.not_isWord (h : UnsignedText unsigned whole fraction) {word : String}
    (hword : ∀ c ∈ word.toList.head?, 97 ≤ c.toNat ∧ c.toNat ≤ 122) :
    isWord word unsigned = false := by
  obtain ⟨c, rest, rfl, hc⟩ := h.exists_cons
  rw [isWord, beq_eq_false_iff_ne]
  intro heq
  rw [← heq, List.map_cons] at hword
  have hlower := hword c.toLower rfl
  -- No digit and no point is a letter, so neither changes its case.
  have hcase : ¬(65 ≤ c.toNat ∧ c.toNat ≤ 122) := by
    rcases hc with hc | rfl
    · have hascii := ascii_of_isDigit hc
      omega
    · decide
  have hsame : c.toLower = c := by
    refine dif_neg fun hupper => hcase ?_
    simp only [UInt32.le_iff_toNat_le] at hupper
    exact ⟨hupper.1, Nat.le_trans hupper.2 (by decide)⟩
  rw [hsame] at hlower
  omega

theorem UnsignedText.not_words (h : UnsignedText unsigned whole fraction) :
    (isWord "inf" unsigned || isWord "infinity" unsigned) = false ∧
      isWord "nan" unsigned = false := by
  constructor
  · rw [h.not_isWord (by simp), h.not_isWord (by simp)]
    rfl
  · exact h.not_isWord (by simp)

/-- What a number without a sign is read as behind a sign. -/
theorem readPlainDecimal?_of_split {s : List Char} {negative : Bool}
    (h : UnsignedText unsigned whole fraction) (hs : splitSign s = (negative, unsigned)) :
    readPlainDecimal? s = some (ofParts negative whole fraction 0) := by
  obtain ⟨hinf, hnan⟩ := h.not_words
  simp only [readPlainDecimal?, hs, hinf, hnan, Bool.false_eq_true, if_false]
  cases h with
  | whole hne hwhole =>
      simp [List.takeWhile_eq_self_iff.2 hwhole, List.dropWhile_eq_nil_iff.2 hwhole, hne,
        readExponent?]
  | pointed hne hwhole hfraction =>
      have hpoint : ∀ c ∈ ('.' :: fraction).head?, isDigit c = false := by
        rintro c ⟨⟩
        decide
      have hsome : (whole.isEmpty && fraction.isEmpty) = false := by
        rcases hne with hne | hne
        · simp [hne]
        · simp [hne]
      simp [takeWhile_row hwhole hpoint, dropWhile_row hwhole hpoint,
        List.takeWhile_eq_self_iff.2 hfraction, List.dropWhile_eq_nil_iff.2 hfraction, hsome,
        readExponent?]

theorem UnsignedText.splitSign_eq (h : UnsignedText unsigned whole fraction) :
    splitSign unsigned = (false, unsigned) := by
  obtain ⟨c, rest, rfl, hc⟩ := h.exists_cons
  apply splitSign_of_unsigned
  · rintro rfl
    exact absurd hc (by decide)
  · rintro rfl
    exact absurd hc (by decide)

/-- A number behind a sign is read as a decimal. -/
theorem readDecimal?_of_unsigned (h : UnsignedText unsigned whole fraction) {sign : List Char}
    (hsign : sign ∈ signTexts) :
    readDecimal? (sign ++ unsigned) =
      some (ofParts (decide (sign = ['-'])) whole fraction 0) := by
  have hnumber : NumberText (sign ++ unsigned) := ⟨sign, hsign, unsigned, whole, fraction, rfl, h⟩
  -- None of these characters is taken off or left out before the decimal is read.
  have hmarks : ∀ c ∈ ['.', '+', '-'], isPadding c = false ∧ c ≠ '_' := by
    simp only [List.forall_mem_cons]
    exact ⟨by decide, by decide, by decide, nofun⟩
  have hpadding : ∀ c ∈ sign ++ unsigned, isPadding c = false := by
    intro c hc
    rcases hnumber.mem c hc with hc | hc
    · exact isPadding_of_isDigit hc
    · exact (hmarks c hc).1
  have hseparators : ∀ c ∈ sign ++ unsigned, c ≠ '_' := by
    intro c hc
    rcases hnumber.mem c hc with hc | hc
    · exact ne_of_isDigit hc (by decide)
    · exact (hmarks c hc).2
  rw [readDecimal?, trimPadding_of_none hpadding, dropSeparators_of_none hseparators,
    Option.bind_some]
  refine readPlainDecimal?_of_split h ?_
  rcases mem_signTexts.1 hsign with rfl | rfl | rfl
  · exact h.splitSign_eq
  · rfl
  · rfl

end

/-- **The number of a program word can be read.** -/
theorem exists_readDecimal? {number : List Char} (h : NumberText number) :
    ∃ x, readDecimal? number = some x := by
  obtain ⟨sign, hsign, unsigned, whole, fraction, rfl, hunsigned⟩ := h
  exact ⟨_, readDecimal?_of_unsigned hunsigned hsign⟩

/-! ## Whole doubles -/

/-- The sign that a whole number is written with. -/
def signOf (k : Int) : List Char := if k < 0 then ['-'] else []

/-- The text of a whole number: its sign and its digits. -/
theorem toList_toString (k : Int) :
    (toString k).toList = signOf k ++ Nat.toDigits 10 k.natAbs := by
  rw [Int.toString_eq_repr, Int.repr_eq_if, signOf]
  by_cases hk : k < 0
  · have habs : (-k).toNat = k.natAbs := by omega
    rw [if_neg (by omega), if_pos hk, habs, String.toList_append, Nat.repr_eq_ofList_toDigits]
    exact congrArg (['-'] ++ ·) String.toList_ofList
  · have habs : k.toNat = k.natAbs := by omega
    rw [if_pos (by omega), if_neg hk, habs, Nat.repr_eq_ofList_toDigits, String.toList_ofList]
    rfl

/-- A whole number is written as its text if it has at most as many digits as the limit allows. -/
theorem writeInteger_eq_ok_iff {n : Int} {s : String} :
    writeInteger n = .ok s ↔ (Nat.toDigits 10 n.natAbs).length ≤ digitLimit ∧ s = toString n := by
  have hlimit : 0 < digitLimit := by decide
  unfold writeInteger
  -- The power of ten is not to be worked out.
  generalize digitLimit = limit at hlimit ⊢
  rw [Nat.pow_eq, Nat.length_toDigits_le_iff (by decide) hlimit]
  split
  next hdigits => simp [hdigits, eq_comm]
  next hdigits => simp [hdigits]

/-- The text of a whole number tells which number it is. -/
theorem toString_injective {k l : Int} (h : toString k = toString l) : k = l := by
  have hvalue : ∀ n : Nat, Nat.ofDigitChars 10 (Nat.toDigits 10 n) 0 = n := fun n =>
    Nat.ofDigitChars_ten_toDigits
  have hsign : ∀ n : Nat, '-' ∉ Nat.toDigits 10 n := fun n hmem =>
    absurd (Nat.isDigit_of_mem_toDigits (by decide) (by decide) hmem) (by decide)
  have htext := congrArg String.toList h
  rw [toList_toString, toList_toString, signOf, signOf] at htext
  have habs : Nat.toDigits 10 k.natAbs = Nat.toDigits 10 l.natAbs → k.natAbs = l.natAbs :=
    fun hdigits => by rw [← hvalue k.natAbs, hdigits, hvalue]
  by_cases hk : k < 0
  · by_cases hl : l < 0
    · rw [if_pos hk, if_pos hl] at htext
      have := habs (List.cons.inj htext).2
      omega
    · -- Only one of the texts starts with a sign.
      rw [if_pos hk, if_neg hl, List.singleton_append, List.nil_append] at htext
      exact absurd (htext ▸ List.mem_cons_self) (hsign l.natAbs)
  · by_cases hl : l < 0
    · rw [if_neg hk, if_pos hl, List.singleton_append, List.nil_append] at htext
      exact absurd (htext.symm ▸ List.mem_cons_self) (hsign k.natAbs)
    · rw [if_neg hk, if_neg hl] at htext
      have := habs htext
      omega

theorem toList_toString_natCast (n : Nat) : (toString (n : Int)).toList = Nat.toDigits 10 n := by
  rw [toList_toString, signOf, if_neg (by omega)]
  rfl

theorem unsignedText_of_spells {row : List Char} {n : Nat} (h : Spells row n) :
    UnsignedText row row [] :=
  .whole h.ne_nil h.digits

/-- **The text of a whole double reads back as the double**, unless it is the negative zero. -/
theorem readDecimal?_toString {x : Binary64} {k : Int} (hx : x.Canonical)
    (hk : x.toInt? = some k) (hzero : x ≠ .finite true 0 0) :
    readDecimal? (toString k).toList = some x := by
  have hspells : Spells (Nat.toDigits 10 k.natAbs) k.natAbs := spells_toDigits 0 k.natAbs
  have hsign : signOf k ∈ signTexts := by
    unfold signOf
    split
    · decide
    · decide
  have hnegative : decide (signOf k = ['-']) = decide (k < 0) := by
    unfold signOf
    split
    · next hk => simp [hk]
    · next hk => simp [hk]
  rw [toList_toString, readDecimal?_of_unsigned (unsignedText_of_spells hspells) hsign, hnegative,
    ofParts, List.append_nil, hspells.value]
  exact congrArg some (Binary64.ofDecimal_of_toInt? hx hk hzero)

end OpcodeAtlas.Number
