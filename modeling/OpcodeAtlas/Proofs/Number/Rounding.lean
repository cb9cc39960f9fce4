import OpcodeAtlas.Number.Binary64

/-!
# Numbers that need no rounding

A canonical double is what its magnitude rounds to (`roundUnits_magnitude`). A whole one is thus
the double that its decimal reads as (`ofDecimal_of_toInt?`); only the zero with a negative sign
has a decimal that loses it.
-/

set_option autoImplicit false

namespace OpcodeAtlas.Binary64

theorem halfEven_mul (q : Nat) {den : Nat} (hden : 0 < den) : halfEven (q * den) den = q := by
  have hq : q * den / den = q := Nat.mul_div_cancel q hden
  have hr : q * den % den = 0 := Nat.mul_mod_left q den
  simp only [halfEven, hq, hr, Nat.mul_zero, hden, if_true]

/-- The place of the first binary digit of a full significand. -/
theorem log2_full {m : Nat} (s : Nat) (hlow : Nat.pow 2 52 ≤ m) (hhigh : m < Nat.pow 2 53) :
    (m * Nat.pow 2 s).log2 = 52 + s := by
  simp only [Nat.pow_eq] at *
  have hpos : 0 < 2 ^ s := Nat.two_pow_pos s
  have hne : m * 2 ^ s ≠ 0 := Nat.mul_ne_zero (by omega) (by omega)
  rw [Nat.log2_eq_iff hne]
  constructor
  · rw [Nat.pow_add]
    exact Nat.mul_le_mul_right _ hlow
  · rw [Nat.add_right_comm, Nat.pow_add]
    exact Nat.mul_lt_mul_of_pos_right hhigh hpos

/-- **A canonical double is what its magnitude rounds to.** -/
theorem roundUnits_magnitude {neg : Bool} {m s : Nat} (h : (finite neg m s).Canonical) :
    roundUnits neg (m * Nat.pow 2 s) 1 = finite neg m s := by
  obtain ⟨hhigh, hfull, hs⟩ := h
  simp only [Nat.pow_eq] at *
  have hpos : 0 < 2 ^ s := Nat.two_pow_pos s
  have hshift : (if m * 2 ^ s < 2 ^ 53 then 0 else (m * 2 ^ s).log2 - 52) = s := by
    by_cases hzero : s = 0
    · subst hzero
      rw [if_pos (by omega)]
    · -- A shifted significand is full.
      have hlow : 2 ^ 52 ≤ m := hfull.resolve_right hzero
      have hlarge : ¬m * 2 ^ s < 2 ^ 53 := by
        have htwo : 2 ^ 1 ≤ 2 ^ s := Nat.pow_le_pow_right (by decide) (by omega)
        have hmul : 2 ^ 52 * 2 ^ 1 ≤ m * 2 ^ s := Nat.mul_le_mul hlow htwo
        omega
      have hlog : (m * 2 ^ s).log2 = 52 + s := log2_full s hlow hhigh
      rw [if_neg hlarge, hlog]
      omega
  have hpack : ¬2045 < s := by omega
  simp only [roundUnits, Nat.div_one, Nat.pow_eq, hshift, Nat.one_mul, halfEven_mul m hpos, hhigh,
    if_true, pack, hpack, if_false]

/-- A whole number that is less than `2 ^ (53 + e)` units, of which `2 ^ k` make one, has few
digits: thirteen binary digits are at most four decimal ones. -/
theorem digitCount_le {m s n e k q d : Nat} (hm : m < Nat.pow 2 53) (hs : s ≤ e)
    (hn : n * Nat.pow 2 k = m * Nat.pow 2 s) (hq : 53 + e ≤ 13 * q + k) (hd : 0 < d)
    (hqd : 4 * q ≤ d) : digitCount n ≤ d := by
  simp only [Nat.pow_eq] at hm hn
  have hlt : m * 2 ^ s < 2 ^ 53 * 2 ^ e :=
    Nat.mul_lt_mul_of_lt_of_le hm (Nat.pow_le_pow_right (by decide) hs) (Nat.two_pow_pos e)
  have hle : 2 ^ 53 * 2 ^ e ≤ 2 ^ (13 * q) * 2 ^ k := by
    rw [← Nat.pow_add, ← Nat.pow_add]
    exact Nat.pow_le_pow_right (by decide) hq
  rw [digitCount, Nat.length_toDigits_le_iff (by decide) hd]
  -- From powers of two to powers of ten: `2 ^ 13` is less than `10 ^ 4`.
  calc n < 2 ^ (13 * q) := Nat.lt_of_mul_lt_mul_right (hn ▸ Nat.lt_of_lt_of_le hlt hle)
    _ = (2 ^ 13) ^ q := Nat.pow_mul ..
    _ ≤ (10 ^ 4) ^ q := Nat.pow_le_pow_left (by decide) q
    _ = 10 ^ (4 * q) := (Nat.pow_mul ..).symm
    _ ≤ 10 ^ d := Nat.pow_le_pow_right (by decide) hqd

/-- The decimal of a positive whole double reads as the double. -/
theorem ofDecimal_of_units {neg : Bool} {m s n : Nat} (h : (finite neg m s).Canonical)
    (hn : n * unitsPerOne = m * Nat.pow 2 s) (hpos : n ≠ 0) :
    ofDecimal neg n 0 = finite neg m s := by
  have hdigits : digitCount n ≤ 330 := by
    unfold unitsPerOne at hn
    exact digitCount_le (q := 79) h.1 h.2.2 hn (by decide) (by decide) (by decide)
  -- So the decimal is neither too large nor too small for a double, and it is not cut off.
  have hlarge : ¬(330 : Int) < 0 + digitCount n := by omega
  have hsmall : ¬(0 : Int) + digitCount n < -340 := by omega
  have hscale : n * Nat.pow 10 (Int.toNat 0) * unitsPerOne = m * Nat.pow 2 s := by
    rw [← hn]
    exact congrArg (· * unitsPerOne) (Nat.mul_one n)
  rw [ofDecimal, if_neg hpos, if_neg hlarge, if_neg hsmall, if_pos (Int.le_refl 0), hscale]
  exact roundUnits_magnitude h

/-- **A whole double is the one that its decimal reads as**, unless it is the negative zero. -/
theorem ofDecimal_of_toInt? {x : Binary64} {k : Int} (hx : x.Canonical) (hk : x.toInt? = some k)
    (hzero : x ≠ .finite true 0 0) : ofDecimal (decide (k < 0)) k.natAbs 0 = x := by
  cases x with
  | infinite neg => cases hk
  | nan => cases hk
  | finite neg m s =>
      simp only [toInt?] at hk
      by_cases hmod : m * Nat.pow 2 s % unitsPerOne = 0
      · rw [if_pos hmod] at hk
        have hn : m * Nat.pow 2 s / unitsPerOne * unitsPerOne = m * Nat.pow 2 s :=
          Nat.div_mul_cancel (Nat.dvd_of_mod_eq_zero hmod)
        generalize m * Nat.pow 2 s / unitsPerOne = n at hk hn
        obtain rfl := Option.some.inj hk
        by_cases hn0 : n = 0
        · -- The significand is zero as well, and the sign is positive.
          subst hn0
          have hm0 : m = 0 := by
            have hpos : Nat.pow 2 s ≠ 0 := Nat.pos_iff_ne_zero.1 (Nat.two_pow_pos s)
            rw [Nat.zero_mul] at hn
            exact (Nat.mul_eq_zero.1 hn.symm).resolve_right hpos
          subst hm0
          have hs0 : s = 0 := hx.2.1.resolve_left (by decide +kernel)
          subst hs0
          cases neg with
          | false => rfl
          | true => exact absurd rfl hzero
        · have hsign : decide ((if neg then -(n : Int) else n) < 0) = neg := by
            cases neg with
            | false => simp
            | true => simpa using Nat.pos_of_ne_zero hn0
          have habs : (if neg then -(n : Int) else n).natAbs = n := by
            cases neg <;> simp
          rw [hsign, habs]
          exact ofDecimal_of_units hx hn hn0
      · rw [if_neg hmod] at hk
        cases hk

end OpcodeAtlas.Binary64
