import Mathlib.Data.List.TakeWhile
import OpcodeAtlas.Text.Blank
import OpcodeAtlas.Text.Digit

/-!
# Rows of digits

A digit is one of ten characters that follow each other from a zero on, and these decades lie
apart from blanks, letters and signs (`isDigit_iff`). So a row of digits ends where another
character follows it (`takeWhile_row`), and the digits of a number, with zeros in front, are a row
that spells it (`spells_toDigits`).
-/

set_option autoImplicit false

namespace OpcodeAtlas.Text

/-! ## Digits -/

section
variable {c : Char}

/-- A digit lies in the decade of a zero. -/
theorem isDigit_iff : isDigit c = true ↔ ∃ z ∈ zeroDigits, z ≤ c.toNat ∧ c.toNat < z + 10 := by
  simp [isDigit, digitValue?, List.find?_isSome]

/-- Digits lie apart from every range of code points that no decade meets. -/
theorem not_covers_of_isDigit {table : List CodeRange}
    (hapart : ∀ z ∈ zeroDigits, ∀ r ∈ table, r.2 < z ∨ z + 10 ≤ r.1) (hc : isDigit c = true) :
    CodeRange.covers table c.toNat = false := by
  obtain ⟨z, hz, hle, hlt⟩ := isDigit_iff.1 hc
  rw [CodeRange.covers, List.any_eq_false]
  intro r hr hcovered
  rw [Bool.and_eq_true, decide_eq_true_iff, decide_eq_true_iff] at hcovered
  rcases hapart z hz r hr with h | h
  · omega
  · omega

theorem isBlank_of_isDigit (hc : isDigit c = true) : isBlank c = false :=
  not_covers_of_isDigit (by decide) hc

/-- No digit is an ASCII character in front of the digits or behind them. -/
theorem ascii_of_isDigit (hc : isDigit c = true) :
    ¬(c.toNat < 48) ∧ ¬(58 ≤ c.toNat ∧ c.toNat ≤ 127) := by
  have hapart : CodeRange.covers [(0, 47), (58, 127)] c.toNat = false :=
    not_covers_of_isDigit (by decide) hc
  simp only [CodeRange.covers, List.any_cons, List.any_nil, Bool.or_false, Bool.or_eq_false_iff,
    Bool.and_eq_false_iff, decide_eq_false_iff_not] at hapart
  omega

theorem ne_of_isDigit {d : Char} (hc : isDigit c = true) (hd : isDigit d = false) : c ≠ d := by
  rintro rfl
  cases hc.symm.trans hd

theorem bounds_of_ascii (hc : c.isDigit = true) : 48 ≤ c.toNat ∧ c.toNat < 48 + 10 := by
  simp only [Char.isDigit, Bool.and_eq_true, decide_eq_true_iff, UInt32.le_iff_toNat_le] at hc
  exact ⟨hc.1, Nat.lt_succ_of_le hc.2⟩

/-- The digits of ASCII. -/
theorem digitValue?_of_ascii (hc : c.isDigit = true) : digitValue? c = some (c.toNat - 48) := by
  have hbounds := bounds_of_ascii hc
  rw [digitValue?, zeroDigits, List.find?_cons_of_pos (by simpa using hbounds)]
  rfl

theorem isDigit_of_ascii (hc : c.isDigit = true) : isDigit c = true := by
  rw [isDigit, digitValue?_of_ascii hc]
  rfl

end

/-! ## Where a row ends -/

section
variable {α : Type} {p : α → Bool} {row rest : List α}

theorem takeWhile_row (hrow : ∀ a ∈ row, p a = true) (hrest : ∀ a ∈ rest.head?, p a = false) :
    (row ++ rest).takeWhile p = row := by
  rw [List.takeWhile_append_of_pos hrow]
  cases rest with
  | nil => simp
  | cons a rest => simp [hrest a rfl]

theorem dropWhile_row (hrow : ∀ a ∈ row, p a = true) (hrest : ∀ a ∈ rest.head?, p a = false) :
    (row ++ rest).dropWhile p = rest := by
  rw [List.dropWhile_append_of_pos hrow]
  cases rest with
  | nil => simp
  | cons a rest => simp [hrest a rfl]

/-- A text without a character is a row of the other ones. -/
theorem row_of_not_mem [DecidableEq α] {a : α} (h : a ∉ row) :
    ∀ b ∈ row, decide (b ≠ a) = true := by
  intro b hb
  refine decide_eq_true ?_
  rintro rfl
  exact h hb

/-- A row at the start of a text ends in the text, unless the text is the row and runs on into what
stands behind it. -/
theorem cut_append (text : List α) (h : text.dropWhile p = [] → ∀ a ∈ rest.head?, p a = false) :
    (text ++ rest).takeWhile p = text.takeWhile p ∧
      (text ++ rest).dropWhile p = text.dropWhile p ++ rest := by
  have hrow : ∀ a ∈ text.takeWhile p, p a = true := fun a ha => List.mem_takeWhile_imp ha
  have hend : ∀ a ∈ (text.dropWhile p ++ rest).head?, p a = false := by
    have hnot := List.head?_dropWhile_not p text
    cases hdrop : text.dropWhile p with
    | nil => exact h hdrop
    | cons d behind =>
        rw [hdrop] at hnot
        rintro a ⟨⟩
        exact hnot
  have hsplit : text ++ rest = text.takeWhile p ++ (text.dropWhile p ++ rest) := by
    rw [← List.append_assoc, List.takeWhile_append_dropWhile]
  rw [hsplit]
  exact ⟨takeWhile_row hrow hend, dropWhile_row hrow hend⟩

end

/-! ## Rows that spell numbers -/

/-- A row of digits spells a number. -/
structure Spells (row : List Char) (n : Nat) : Prop where
  ne_nil : row ≠ []
  digits : ∀ c ∈ row, isDigit c = true
  value : digitsValue 0 row = n

/-- The value of digits of ASCII. -/
theorem digitsValue_of_ascii {row : List Char} (hrow : ∀ c ∈ row, c.isDigit = true) (acc : Nat) :
    digitsValue acc row = Nat.ofDigitChars 10 row acc := by
  induction row generalizing acc with
  | nil => rfl
  | cons c row ih =>
      obtain ⟨hc, hrow⟩ := List.forall_mem_cons.1 hrow
      rw [digitsValue, ih hrow, Nat.ofDigitChars_cons, digitValue?_of_ascii hc]
      rfl

/-- The digits of a number spell it, and so they do behind zeros. -/
theorem spells_toDigits (zeros n : Nat) :
    Spells (List.replicate zeros '0' ++ Nat.toDigits 10 n) n := by
  have hascii : ∀ c ∈ List.replicate zeros '0' ++ Nat.toDigits 10 n, c.isDigit = true := by
    intro c hc
    rcases List.mem_append.1 hc with hc | hc
    · rw [List.eq_of_mem_replicate hc]
      rfl
    · exact Nat.isDigit_of_mem_toDigits (by decide) (by decide) hc
  refine ⟨?_, fun c hc => isDigit_of_ascii (hascii c hc), ?_⟩
  · simp [Nat.toDigits_ne_nil]
  · rw [digitsValue_of_ascii hascii, Nat.ofDigitChars_append, Nat.ofDigitChars_replicate_zero,
      Nat.mul_zero, Nat.ofDigitChars_ten_toDigits]

/-- The first character of a row that spells a number is a digit. -/
theorem Spells.exists_cons {row : List Char} {n : Nat} (h : Spells row n) :
    ∃ c rest, row = c :: rest ∧ isDigit c = true := by
  obtain ⟨c, rest, rfl⟩ := List.exists_cons_of_ne_nil h.ne_nil
  exact ⟨c, rest, rfl, h.digits c List.mem_cons_self⟩

end OpcodeAtlas.Text
