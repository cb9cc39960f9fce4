import OpcodeAtlas.Proofs.Number.Reading
import OpcodeAtlas.Proofs.Number.SixDigits

/-!
# The text of the number of a word

The number of a program word is written with six significant digits. Where its first digit is
neither too far in front of the point nor too far behind it, the text is a number that is read as
the decimal that was written (`Decimal.readsAs_text`); elsewhere it has an exponent
(`Decimal.exists_text_exponent`), whose letter would be that of another word.
-/

set_option autoImplicit false

namespace OpcodeAtlas

open Text Number

/-! ## Rows of digits -/

/-- The digits of a number, with zeros in front and behind. -/
theorem digitsValue_padded (front n back : Nat) :
    digitsValue 0 (List.replicate front '0' ++ Nat.toDigits 10 n ++ List.replicate back '0') =
      n * 10 ^ back := by
  have hascii : ∀ c ∈ List.replicate front '0' ++ Nat.toDigits 10 n ++ List.replicate back '0',
      c.isDigit = true := by
    intro c hc
    rcases List.mem_append.1 hc with hc | hc
    · rcases List.mem_append.1 hc with hc | hc
      · rw [List.eq_of_mem_replicate hc]
        rfl
      · exact Nat.isDigit_of_mem_toDigits (by decide) (by decide) hc
    · rw [List.eq_of_mem_replicate hc]
      rfl
  rw [digitsValue_of_ascii hascii, Nat.ofDigitChars_append, Nat.ofDigitChars_append,
    Nat.ofDigitChars_replicate_zero, Nat.ofDigitChars_replicate_zero, Nat.mul_zero,
    Nat.ofDigitChars_ten_toDigits, Nat.mul_comm]

theorem isDigit_of_mem_toDigits {n : Nat} {c : Char} (hc : c ∈ Nat.toDigits 10 n) :
    isDigit c = true :=
  isDigit_of_ascii (Nat.isDigit_of_mem_toDigits (by decide) (by decide) hc)

theorem isDigit_of_mem_zeros {n : Nat} {c : Char} (hc : c ∈ List.replicate n '0') :
    isDigit c = true := by
  rw [List.eq_of_mem_replicate hc]
  exact isDigit_of_ascii rfl

namespace Decimal

/-! ## Positional texts -/

/-- A text is a number without a sign that is read as a decimal. -/
def ReadsAs (d : Decimal) (s : List Char) : Prop :=
  ∃ whole fraction, UnsignedText s whole fraction ∧
    ∀ neg, ofParts neg whole fraction 0 = Binary64.ofDecimal neg d.coefficient d.exponent

section
variable {d : Decimal}

/-- Below one: a zero, the point, more zeros, and the digits. -/
theorem readsAs_belowOne {zeros : Nat}
    (h : d.exponent = -(zeros + Binary64.digitCount d.coefficient : Nat)) :
    d.ReadsAs (['0'] ++ '.' :: (List.replicate zeros '0' ++ Nat.toDigits 10 d.coefficient)) := by
  have hzero : ∀ c ∈ ['0'], isDigit c = true := fun c hc => @isDigit_of_mem_zeros 1 c hc
  have hfraction : ∀ c ∈ List.replicate zeros '0' ++ Nat.toDigits 10 d.coefficient,
      isDigit c = true :=
    List.forall_mem_append.2 ⟨fun c => isDigit_of_mem_zeros, fun c => isDigit_of_mem_toDigits⟩
  refine ⟨_, _, .pointed (.inl (List.cons_ne_nil _ _)) hzero hfraction, fun neg => ?_⟩
  have hvalue := digitsValue_padded (zeros + 1) d.coefficient 0
  rw [List.replicate_zero, List.append_nil, Nat.pow_zero, Nat.mul_one, List.replicate_succ,
    List.cons_append] at hvalue
  rw [ofParts, List.singleton_append, hvalue, List.length_append, List.length_replicate, h,
    Binary64.digitCount]
  congr 1
  omega

/-- A whole number: the digits, and zeros up to the point. -/
theorem readsAs_whole (hd : d.coefficient ≠ 0) {zeros : Nat} (h : d.exponent = zeros) :
    d.ReadsAs (Nat.toDigits 10 d.coefficient ++ List.replicate zeros '0') := by
  have hne : Nat.toDigits 10 d.coefficient ++ List.replicate zeros '0' ≠ [] :=
    List.append_ne_nil_of_left_ne_nil Nat.toDigits_ne_nil _
  have hdigits : ∀ c ∈ Nat.toDigits 10 d.coefficient ++ List.replicate zeros '0',
      isDigit c = true :=
    List.forall_mem_append.2 ⟨fun c => isDigit_of_mem_toDigits, fun c => isDigit_of_mem_zeros⟩
  refine ⟨_, _, .whole hne hdigits, fun neg => ?_⟩
  have hvalue := digitsValue_padded 0 d.coefficient zeros
  rw [List.replicate_zero, List.nil_append] at hvalue
  -- The zeros are read as digits, and not as a power of ten.
  have hscaled : d.coefficient * 10 ^ zeros ≠ 0 :=
    Nat.mul_ne_zero hd (Nat.ne_of_gt (Nat.pow_pos (by decide)))
  have hsame : (Decimal.mk (d.coefficient * 10 ^ zeros) 0).value = d.value := by
    simp only [value, h, zpow_zero, mul_one, zpow_natCast]
    push_cast
    rfl
  rw [ofParts, List.append_nil, hvalue]
  exact Binary64.ofDecimal_congr hscaled hd hsame neg

/-- The point stands among the digits. -/
theorem readsAs_pointed {n : Nat} (hn : n < Binary64.digitCount d.coefficient)
    (h : d.exponent = n - Binary64.digitCount d.coefficient) :
    d.ReadsAs ((Nat.toDigits 10 d.coefficient).take n ++
      '.' :: (Nat.toDigits 10 d.coefficient).drop n) := by
  have hne : (Nat.toDigits 10 d.coefficient).drop n ≠ [] := by
    rw [Ne, List.drop_eq_nil_iff]
    exact Nat.not_le.2 hn
  have hwhole : ∀ c ∈ (Nat.toDigits 10 d.coefficient).take n, isDigit c = true := fun c hc =>
    isDigit_of_mem_toDigits (List.mem_of_mem_take hc)
  have hfraction : ∀ c ∈ (Nat.toDigits 10 d.coefficient).drop n, isDigit c = true := fun c hc =>
    isDigit_of_mem_toDigits (List.mem_of_mem_drop hc)
  refine ⟨_, _, .pointed (.inr hne) hwhole hfraction, fun neg => ?_⟩
  have hvalue := digitsValue_padded 0 d.coefficient 0
  rw [List.replicate_zero, List.nil_append, List.append_nil, Nat.pow_zero, Nat.mul_one] at hvalue
  unfold Binary64.digitCount at hn h
  rw [ofParts, List.take_append_drop, hvalue, List.length_drop, h]
  congr 1
  omega

/-- **A positional text is read as the decimal.** -/
theorem readsAs_text (hd : d.coefficient ≠ 0) (hfirst : -4 ≤ d.first ∧ d.first ≤ 5) :
    d.ReadsAs (text Layout.word d) := by
  have hsum : d.exponent + (Nat.toDigits 10 d.coefficient).length - 1 = d.first := rfl
  have hlength : (Nat.toDigits 10 d.coefficient).length = Binary64.digitCount d.coefficient := rfl
  simp only [text, hsum, Layout.word, if_pos hfirst, Bool.false_eq_true, if_false, List.append_nil]
  rw [hlength] at hsum ⊢
  split
  next hbelow => exact readsAs_belowOne (by omega)
  split
  next hwhole => exact readsAs_whole hd (by omega)
  next hpointed => exact readsAs_pointed (by omega) (by omega)

/-! ## Texts with an exponent -/

/-- An exponent is a number with a sign. -/
theorem numberText_exponentText (e : Int) : NumberText (exponentText e) := by
  have hdigits : ∀ c ∈ Nat.toDigits 10 e.natAbs, isDigit c = true := fun c =>
    isDigit_of_mem_toDigits
  obtain ⟨padded, hpadded, hne, hrow⟩ : ∃ padded,
      exponentText e = (if e < 0 then '-' else '+') :: padded ∧ padded ≠ [] ∧
        ∀ c ∈ padded, isDigit c = true := by
    refine ⟨_, rfl, ?_, ?_⟩
    · split
      · exact List.cons_ne_nil _ _
      · exact Nat.toDigits_ne_nil
    · split
      · exact List.forall_mem_cons.2 ⟨@isDigit_of_mem_zeros 1 _ List.mem_cons_self, hdigits⟩
      · exact hdigits
  rw [hpadded]
  refine ⟨[if e < 0 then '-' else '+'], ?_, padded, padded, [], rfl, .whole hne hrow⟩
  split
  · decide
  · decide

/-- **A text with an exponent** is a number, the letter of the exponent, and a number with a
sign. -/
theorem exists_text_exponent (hfirst : ¬(-4 ≤ d.first ∧ d.first ≤ 5)) :
    ∃ unsigned whole fraction, text Layout.word d = unsigned ++ 'e' :: exponentText d.first ∧
      UnsignedText unsigned whole fraction := by
  have hsum : d.exponent + (Nat.toDigits 10 d.coefficient).length - 1 = d.first := rfl
  have hdigits : ∀ c ∈ Nat.toDigits 10 d.coefficient, isDigit c = true := fun c =>
    isDigit_of_mem_toDigits
  simp only [text, hsum, Layout.word, if_neg hfirst]
  obtain ⟨c, rest, hcons⟩ := List.exists_cons_of_ne_nil
    (@Nat.toDigits_ne_nil d.coefficient 10)
  rw [hcons] at hdigits ⊢
  obtain ⟨hc, hrest⟩ := List.forall_mem_cons.1 hdigits
  have hone : ∀ b ∈ [c], isDigit b = true := List.forall_mem_singleton.2 hc
  have hne : [c] ≠ [] := List.cons_ne_nil _ _
  cases rest with
  | nil => exact ⟨[c], _, _, rfl, .whole hne hone⟩
  | cons b rest => exact ⟨[c] ++ '.' :: b :: rest, _, _, rfl, .pointed (.inl hne) hone hrest⟩

end

end Decimal

end OpcodeAtlas
