import OpcodeAtlas.Text.Utf8

/-!
# Reading back what was encoded

The bytes of a character are read as that character, whatever stands behind them
(`first_encodeChar`): the leading byte tells how many bytes follow and carries the high bits, and
each byte that follows carries six more. So the lenient reading of the bytes of a text gives the
text (`decodeLossy_encode`).
-/

set_option autoImplicit false

namespace OpcodeAtlas.Text.Utf8

/-! ## Continuation bytes -/

/-- A continuation byte carries the six bits that were put into it. -/
theorem low6_continuation {n : Nat} (hn : n < 64) : low6 (UInt8.ofNat (0x80 + n)) = n := by
  rw [low6, UInt8.toNat_ofNat_of_lt' (show 0x80 + n < 256 by omega)]
  omega

theorem isContinuation_continuation {n : Nat} (hn : n < 64) :
    isContinuation (UInt8.ofNat (0x80 + n)) = true := by
  rw [isContinuation, UInt8.toNat_ofNat_of_lt' (show 0x80 + n < 256 by omega), Bool.and_eq_true,
    decide_eq_true_iff, decide_eq_true_iff]
  omega

/-- A continuation byte that is accepted adds its bits. -/
theorem continuations_cons {accepts : UInt8 → Bool} {n : Nat} (hn : n < 64)
    (haccepts : accepts (UInt8.ofNat (0x80 + n)) = true) (wanted taken acc : Nat)
    (rest : List UInt8) :
    continuations accepts (wanted + 1) taken acc (UInt8.ofNat (0x80 + n) :: rest) =
      continuations (fun _ => true) wanted (taken + 1) (64 * acc + n) rest := by
  rw [continuations, isContinuation_continuation hn, haccepts, low6_continuation hn]
  rfl

/-! ## Leading bytes -/

/-- What a leading byte admits, in numbers. -/
theorem admits_ofNat {lead second : Nat} (hlead : lead < 256) (hsecond : second < 256)
    (he0 : lead = 0xe0 → 0xa0 ≤ second) (hed : lead = 0xed → second < 0xa0)
    (hf0 : lead = 0xf0 → 0x90 ≤ second) (hf4 : lead = 0xf4 → second < 0x90) :
    admits (UInt8.ofNat lead) (UInt8.ofNat second) = true := by
  unfold admits
  rw [UInt8.toNat_ofNat_of_lt' hlead, UInt8.toNat_ofNat_of_lt' hsecond]
  split
  · exact decide_eq_true (he0 rfl)
  · exact decide_eq_true (hed rfl)
  · exact decide_eq_true (hf0 rfl)
  · exact decide_eq_true (hf4 rfl)
  · rfl

/-- A byte that announces no more is its own character. -/
theorem leading?_one {n : Nat} (hn : n < 0x80) : leading? (UInt8.ofNat n) = some (0, n) := by
  rw [leading?, UInt8.toNat_ofNat_of_lt' (show n < 256 by omega)]
  exact if_pos hn

/-- A byte that announces one more carries five bits. -/
theorem leading?_two {n : Nat} (hlo : 2 ≤ n) (hhi : n < 32) :
    leading? (UInt8.ofNat (0xc0 + n)) = some (1, n) := by
  rw [leading?, UInt8.toNat_ofNat_of_lt' (show 0xc0 + n < 256 by omega), if_neg (by omega),
    if_neg (by omega), if_pos (by omega), Nat.add_sub_cancel_left]

/-- A byte that announces two more carries four bits. -/
theorem leading?_three {n : Nat} (hhi : n < 16) :
    leading? (UInt8.ofNat (0xe0 + n)) = some (2, n) := by
  rw [leading?, UInt8.toNat_ofNat_of_lt' (show 0xe0 + n < 256 by omega), if_neg (by omega),
    if_neg (by omega), if_neg (by omega), if_pos (by omega), Nat.add_sub_cancel_left]

/-- A byte that announces three more carries the number of the plane group, at most 4. -/
theorem leading?_four {n : Nat} (hhi : n < 5) :
    leading? (UInt8.ofNat (0xf0 + n)) = some (3, n) := by
  rw [leading?, UInt8.toNat_ofNat_of_lt' (show 0xf0 + n < 256 by omega), if_neg (by omega),
    if_neg (by omega), if_neg (by omega), if_neg (by omega), if_pos (by omega),
    Nat.add_sub_cancel_left]

/-! ## Characters -/

/-- Code points are no surrogates and not past the last plane. -/
theorem toNat_cases (c : Char) : c.toNat < 0xd800 ∨ 0xdfff < c.toNat ∧ c.toNat < 0x110000 := by
  have hvalid := c.valid
  simp only [UInt32.isValidChar, Nat.isValidChar] at hvalid
  exact hvalid

/-- **The bytes of a character are read as the character.** -/
theorem first_encodeChar (c : Char) :
    ∃ lead tail, encodeChar c = lead :: tail ∧
      ∀ rest, first lead (tail ++ rest) = .ok ⟨c.toNat, tail.length + 1, rest⟩ := by
  have hcases := toNat_cases c
  unfold encodeChar
  generalize c.toNat = n at hcases ⊢
  dsimp only
  split
  next h1 =>
    refine ⟨_, _, rfl, fun rest => ?_⟩
    rw [first, leading?_one h1]
    rfl
  split
  next h1 h2 =>
    refine ⟨_, _, rfl, fun rest => ?_⟩
    have hadmits := admits_ofNat (show 0xc0 + n / 64 < 256 by omega)
      (show 0x80 + n % 64 < 256 by omega) (by omega) (by omega) (by omega) (by omega)
    rw [first, leading?_two (by omega) (by omega)]
    dsimp only
    rw [List.cons_append, continuations_cons (Nat.mod_lt n (by decide)) hadmits,
      show 64 * (n / 64) + n % 64 = n from Nat.div_add_mod n 64]
    rfl
  split
  next h1 h2 h3 =>
    refine ⟨_, _, rfl, fun rest => ?_⟩
    have hadmits := admits_ofNat (show 0xe0 + n / 4096 < 256 by omega)
      (show 0x80 + n / 64 % 64 < 256 by omega) (by omega) (by omega) (by omega) (by omega)
    rw [first, leading?_three (by omega)]
    dsimp only
    rw [List.cons_append, continuations_cons (Nat.mod_lt _ (by decide)) hadmits, List.cons_append,
      continuations_cons (Nat.mod_lt n (by decide)) rfl,
      show 64 * (64 * (n / 4096) + n / 64 % 64) + n % 64 = n by omega]
    rfl
  next h1 h2 h3 =>
    refine ⟨_, _, rfl, fun rest => ?_⟩
    have hadmits := admits_ofNat (show 0xf0 + n / 262144 < 256 by omega)
      (show 0x80 + n / 4096 % 64 < 256 by omega) (by omega) (by omega) (by omega) (by omega)
    rw [first, leading?_four (by omega)]
    dsimp only
    rw [List.cons_append, continuations_cons (Nat.mod_lt _ (by decide)) hadmits, List.cons_append,
      continuations_cons (Nat.mod_lt _ (by decide)) rfl, List.cons_append,
      continuations_cons (Nat.mod_lt n (by decide)) rfl,
      show 64 * (64 * (64 * (n / 262144) + n / 4096 % 64) + n / 64 % 64) + n % 64 = n by omega]
    rfl

/-! ## Texts -/

/-- A text has no more characters than bytes. -/
theorem length_le_length_encode (s : List Char) : s.length ≤ (encode s).length := by
  induction s with
  | nil => exact Nat.le_refl 0
  | cons c s ih =>
      obtain ⟨lead, tail, hbytes, -⟩ := first_encodeChar c
      rw [encode, List.flatMap_cons, List.length_append, hbytes, List.length_cons, List.length_cons]
      rw [encode] at ih
      omega

/-- Fuel for each character is enough. -/
theorem decodeLossyFrom_encode {fuel : Nat} {s : List Char} (h : s.length ≤ fuel) :
    decodeLossyFrom fuel (encode s) = s := by
  induction s generalizing fuel with
  | nil =>
      cases fuel with
      | zero => rfl
      | succ fuel => rfl
  | cons c s ih =>
      obtain ⟨lead, tail, hbytes, hfirst⟩ := first_encodeChar c
      obtain ⟨fuel, rfl⟩ : ∃ n, fuel = n + 1 := Nat.exists_eq_succ_of_ne_zero (by
        rintro rfl
        cases h)
      have hencode : encode (c :: s) = lead :: (tail ++ encode s) := by
        rw [encode, List.flatMap_cons, hbytes, List.cons_append, encode]
      rw [hencode, decodeLossyFrom, hfirst]
      dsimp only
      rw [Char.ofNat_toNat, ih (Nat.le_of_succ_le_succ h)]

/-- **The bytes of a text are read as the text.** -/
theorem decodeLossy_encode (s : List Char) : decodeLossy (encode s) = s :=
  decodeLossyFrom_encode (length_le_length_encode s)

end OpcodeAtlas.Text.Utf8
