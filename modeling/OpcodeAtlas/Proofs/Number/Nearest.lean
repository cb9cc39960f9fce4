import Mathlib.Algebra.Order.Field.Power
import Mathlib.Data.Nat.Cast.Order.Field
import Mathlib.Data.Rat.Cast.Order
import Mathlib.Tactic.FieldSimp
import Mathlib.Tactic.Linarith
import Mathlib.Tactic.NormNum
import Mathlib.Tactic.Positivity
import Mathlib.Tactic.Ring
import OpcodeAtlas.Number.Binary64

/-!
# How far rounding goes

The whole number to which a quotient is rounded is at most one half away from it (`abs_halfEven`),
and it is the only one that is nearer than one half (`halfEven_eq`). So a double differs from the
quotient of units to which it is the nearest by at most one part in `2 ^ 53`, unless the quotient
is too small for a full significand (`roundUnits_error`). The double depends on the value of the
quotient alone (`roundUnits_congr`), and it is canonical (`canonical_roundUnits`).
-/

set_option autoImplicit false

namespace OpcodeAtlas.Binary64

/-! ## Whole numbers -/

section
variable {num den : Nat}

theorem cast_div_add_mod (num : Nat) (hden : 0 < den) :
    (num : ℚ) / den = (num / den : Nat) + (num % den : Nat) / (den : ℚ) := by
  have hne : (den : ℚ) ≠ 0 := Nat.cast_ne_zero.2 (Nat.ne_of_gt hden)
  have hsum : (num : ℚ) = den * (num / den : Nat) + (num % den : Nat) := by
    exact_mod_cast (Nat.div_add_mod num den).symm
  rw [div_eq_iff hne, add_mul, div_mul_cancel₀ _ hne, mul_comm _ (den : ℚ)]
  exact hsum

/-- **A rounded quotient is at most one half away.** -/
theorem abs_halfEven (num : Nat) (hden : 0 < den) :
    |(halfEven num den : ℚ) - num / den| ≤ 1 / 2 := by
  have hpos : (0 : ℚ) < den := Nat.cast_pos.2 hden
  have hrest : ((num % den : Nat) : ℚ) / den < 1 := by
    rw [div_lt_one hpos]
    exact_mod_cast Nat.mod_lt num hden
  have hnonneg : 0 ≤ ((num % den : Nat) : ℚ) / den := by positivity
  rw [cast_div_add_mod num hden, abs_le]
  -- The rest is small where the quotient is cut off, and large where it is rounded up.
  have hdown (h : 2 * (num % den) ≤ den) : ((num % den : Nat) : ℚ) / den ≤ 1 / 2 := by
    have h : (2 * (num % den : Nat) : ℚ) ≤ den := by exact_mod_cast h
    rw [div_le_iff₀ hpos]
    linarith
  have hup (h : den ≤ 2 * (num % den)) : 1 / 2 ≤ ((num % den : Nat) : ℚ) / den := by
    have h : (den : ℚ) ≤ 2 * (num % den : Nat) := by exact_mod_cast h
    rw [le_div_iff₀ hpos]
    linarith
  rw [halfEven]
  split
  next h =>
    have h := hdown (by omega)
    constructor <;> linarith
  split
  next h =>
    have h := hup (by omega)
    rw [Nat.cast_add, Nat.cast_one]
    constructor <;> linarith
  split
  · have h := hdown (by omega)
    constructor <;> linarith
  · have h := hup (by omega)
    rw [Nat.cast_add, Nat.cast_one]
    constructor <;> linarith

/-- **The whole number that is nearer than one half** is the one to which a quotient is rounded. -/
theorem halfEven_eq {n : Nat} (hden : 0 < den) (h : |(num : ℚ) / den - n| < 1 / 2) :
    halfEven num den = n := by
  obtain ⟨hlow, hhigh⟩ := abs_le.1 (abs_halfEven num hden)
  obtain ⟨hlow', hhigh'⟩ := abs_lt.1 h
  -- Both whole numbers are so close to the quotient that they are less than one apart.
  have hless : (halfEven num den : ℚ) < n + 1 := by linarith
  have hmore : (n : ℚ) < halfEven num den + 1 := by linarith
  have hless : halfEven num den < n + 1 := by exact_mod_cast hless
  have hmore : n < halfEven num den + 1 := by exact_mod_cast hmore
  omega

/-- Rounding does not go below a whole number. -/
theorem le_halfEven {n : Nat} (hden : 0 < den) (h : (n : ℚ) ≤ num / den) :
    n ≤ halfEven num den := by
  obtain ⟨hlow, -⟩ := abs_le.1 (abs_halfEven num hden)
  have hless : (n : ℚ) < halfEven num den + 1 := by linarith
  have hless : n < halfEven num den + 1 := by exact_mod_cast hless
  omega

/-- Rounding does not go above a whole number. -/
theorem halfEven_le {n : Nat} (hden : 0 < den) (h : (num : ℚ) / den ≤ n) :
    halfEven num den ≤ n := by
  obtain ⟨-, hhigh⟩ := abs_le.1 (abs_halfEven num hden)
  have hless : (halfEven num den : ℚ) < n + 1 := by linarith
  have hless : halfEven num den < n + 1 := by exact_mod_cast hless
  omega

/-- A common factor does not matter. -/
theorem halfEven_scale {k : Nat} (hk : 0 < k) (num den : Nat) :
    halfEven (k * num) (k * den) = halfEven num den := by
  have hlt : ∀ a b : Nat, k * a < k * b ↔ a < b := fun a b => Nat.mul_lt_mul_left hk
  simp only [halfEven, Nat.mul_div_mul_left _ _ hk, Nat.mul_mod_mul_left, Nat.mul_left_comm 2 k,
    hlt]

/-- A rounded quotient depends on the value of the quotient alone. -/
theorem halfEven_congr {num' den' : Nat} (hden : 0 < den) (hden' : 0 < den')
    (h : num * den' = num' * den) : halfEven num den = halfEven num' den' := by
  rw [← halfEven_scale hden' num den, ← halfEven_scale hden num' den', Nat.mul_comm den' num, h,
    Nat.mul_comm num' den, Nat.mul_comm den' den]

end

/-! ## Doubles -/

/-- The shift for a number of units: none, if the significand has room for it. -/
def shiftOf (whole : Nat) : Nat := if whole < Nat.pow 2 53 then 0 else whole.log2 - 52

section
variable {num den : Nat}

/-- A shifted number of units fills the significand and does not exceed it. -/
theorem shiftOf_spec (num : Nat) (hden : 0 < den) :
    (num : ℚ) / den < 2 ^ (53 + shiftOf (num / den)) ∧
      (shiftOf (num / den) = 0 ∨ (2 : ℚ) ^ (52 + shiftOf (num / den)) ≤ num / den) := by
  have hpos : (0 : ℚ) < den := Nat.cast_pos.2 hden
  have habove : (num : ℚ) / den < (num / den : Nat) + 1 := by
    rw [div_lt_iff₀ hpos]
    exact_mod_cast Nat.lt_mul_of_div_lt (Nat.lt_succ_self (num / den)) hden
  have hbelow : ((num / den : Nat) : ℚ) ≤ num / den := Nat.cast_div_le
  -- Powers of two are whole numbers, so it is enough to bound the whole part.
  generalize num / den = whole at *
  have hbelow' {k : Nat} (h : 2 ^ k ≤ whole) : (2 : ℚ) ^ k ≤ num / den := by
    refine le_trans ?_ hbelow
    exact_mod_cast h
  have habove' {k : Nat} (h : whole < 2 ^ k) : (num : ℚ) / den < 2 ^ k := by
    refine lt_of_lt_of_le habove ?_
    exact_mod_cast h
  unfold shiftOf
  split
  next hsmall => exact ⟨habove' hsmall, .inl rfl⟩
  next hlarge =>
    have hlarge : 2 ^ 53 ≤ whole := Nat.le_of_not_lt hlarge
    have hne : whole ≠ 0 := by
      rintro rfl
      exact absurd hlarge (by decide)
    obtain ⟨hlow, hhigh⟩ := (Nat.log2_eq_iff hne).1 rfl
    have hlog : 53 ≤ whole.log2 := (Nat.le_log2 hne).2 hlarge
    have hfull : 52 + (whole.log2 - 52) = whole.log2 := by omega
    have hnext : 53 + (whole.log2 - 52) = whole.log2 + 1 := by omega
    rw [hfull, hnext]
    exact ⟨habove' hhigh, .inr (hbelow' hlow)⟩

theorem div_mul_pow (num den s : Nat) :
    (num : ℚ) / (den * 2 ^ s : Nat) = num / den / 2 ^ s := by
  have hcast : ((den * 2 ^ s : Nat) : ℚ) = den * 2 ^ s := by
    push_cast
    rfl
  rw [hcast, div_div]

/-- **A quotient that is rounded behind a shift** is off by at most half the step of the shift. -/
theorem abs_shifted_halfEven (num : Nat) (hden : 0 < den) (s : Nat) :
    |(halfEven num (den * 2 ^ s) * 2 ^ s : ℚ) - num / den| ≤ 2 ^ s / 2 := by
  have htwo : (0 : ℚ) < 2 ^ s := by positivity
  have hclose := abs_halfEven num (Nat.mul_pos hden (Nat.two_pow_pos s))
  have hscale : (halfEven num (den * 2 ^ s) * 2 ^ s : ℚ) - num / den =
      (halfEven num (den * 2 ^ s) - num / (den * 2 ^ s : Nat)) * 2 ^ s := by
    rw [div_mul_pow, sub_mul, div_mul_cancel₀ _ (ne_of_gt htwo)]
  rw [hscale, abs_mul, abs_of_pos htwo]
  calc _ ≤ 1 / 2 * (2 : ℚ) ^ s := mul_le_mul_of_nonneg_right hclose (le_of_lt htwo)
    _ = 2 ^ s / 2 := by ring

/-- A quotient that has the size of a full significand behind a shift is rounded to one, or to the
next power of two. -/
theorem halfEven_bounds (hden : 0 < den) (s : Nat) (hhigh : (num : ℚ) / den < 2 ^ (53 + s)) :
    halfEven num (den * 2 ^ s) ≤ 2 ^ 53 ∧
      ((2 : ℚ) ^ (52 + s) ≤ num / den → 2 ^ 52 ≤ halfEven num (den * 2 ^ s)) := by
  have htwo : (0 : ℚ) < 2 ^ s := by positivity
  have hstep : 0 < den * 2 ^ s := Nat.mul_pos hden (Nat.two_pow_pos s)
  constructor
  · apply halfEven_le hstep
    rw [div_mul_pow, div_le_iff₀ htwo, Nat.cast_pow, Nat.cast_ofNat, ← pow_add]
    exact le_of_lt hhigh
  · intro hlow
    apply le_halfEven hstep
    rw [div_mul_pow, le_div_iff₀ htwo, Nat.cast_pow, Nat.cast_ofNat, ← pow_add]
    exact hlow

/-- **What a quotient of units is rounded to**: a significand and a shift that a double may have,
unless the shift is too large. -/
theorem roundUnits_spec (neg : Bool) (num : Nat) (hden : 0 < den) :
    ∃ m s, roundUnits neg num den = pack neg m s ∧ m < 2 ^ 53 ∧ (2 ^ 52 ≤ m ∨ s = 0) ∧
      |(m * 2 ^ s : ℚ) - num / den| ≤ 2 ^ shiftOf (num / den) / 2 := by
  have hround : roundUnits neg num den =
      (let m := halfEven num (den * 2 ^ shiftOf (num / den))
       if m < 2 ^ 53 then pack neg m (shiftOf (num / den))
       else pack neg (2 ^ 52) (shiftOf (num / den) + 1)) := rfl
  obtain ⟨hhigh, hlow⟩ := shiftOf_spec num hden
  obtain ⟨hmost, hleast⟩ := halfEven_bounds hden (shiftOf (num / den)) hhigh
  have herror := abs_shifted_halfEven num hden (shiftOf (num / den))
  rw [hround]
  generalize shiftOf (num / den) = s at *
  generalize halfEven num (den * 2 ^ s) = m at *
  dsimp only
  split
  next hm =>
    refine ⟨m, s, rfl, hm, ?_, herror⟩
    rcases hlow with hzero | hlow
    · exact .inr hzero
    · exact .inl (hleast hlow)
  next hm =>
    -- The carry leaves the number as it is: it is the next power of two.
    obtain rfl : m = 2 ^ 53 := by omega
    refine ⟨2 ^ 52, s + 1, rfl, by decide, .inl (Nat.le_refl _), ?_⟩
    have hcarry : ((2 ^ 52 : Nat) * 2 ^ (s + 1) : ℚ) = (2 ^ 53 : Nat) * 2 ^ s := by
      push_cast
      ring
    rw [hcarry]
    exact herror

theorem pack_eq_finite {neg neg' : Bool} {m m' s s' : Nat} (h : pack neg m s = finite neg' m' s') :
    neg' = neg ∧ m' = m ∧ s' = s ∧ s ≤ 2045 := by
  unfold pack at h
  split at h
  · cases h
  next hs =>
    cases h
    exact ⟨rfl, rfl, rfl, by omega⟩

/-- **What is rounded to is canonical.** -/
theorem canonical_roundUnits (neg : Bool) (num : Nat) (hden : 0 < den) :
    (roundUnits neg num den).Canonical := by
  obtain ⟨m, s, hround, hm, hfull, -⟩ := roundUnits_spec neg num hden
  rw [hround, pack]
  split
  · trivial
  next hs => exact ⟨hm, hfull, by omega⟩

/-- **A double is off by at most one part in `2 ^ 53`**, if the units fill its significand. -/
theorem roundUnits_error {neg neg' : Bool} {m s : Nat} (hden : 0 < den)
    (hround : roundUnits neg num den = finite neg' m s) (hlarge : (2 : ℚ) ^ 53 ≤ num / den) :
    neg' = neg ∧ |(m * 2 ^ s : ℚ) - num / den| ≤ num / den / 2 ^ 53 := by
  obtain ⟨m', s', hround', -, -, herror⟩ := roundUnits_spec neg num hden
  obtain ⟨-, hlow⟩ := shiftOf_spec num hden
  obtain ⟨rfl, rfl, rfl, -⟩ := pack_eq_finite (hround'.symm.trans hround)
  refine ⟨rfl, le_trans herror ?_⟩
  generalize shiftOf (num / den) = shift at *
  rw [le_div_iff₀ (by positivity)]
  -- Without a shift the step is one unit; behind a shift the significand is full.
  rcases hlow with rfl | hlow
  · linarith
  · have hsplit : (2 : ℚ) ^ (52 + shift) = 2 ^ shift / 2 * 2 ^ 53 := by
      rw [pow_add]
      ring
    linarith

/-- The double to which a quotient of units is rounded depends on its value alone. -/
theorem roundUnits_congr {num' den' : Nat} (hden : 0 < den) (hden' : 0 < den')
    (h : num * den' = num' * den) (neg : Bool) :
    roundUnits neg num den = roundUnits neg num' den' := by
  have hwhole : num / den = num' / den' := by
    rw [← Nat.mul_div_mul_right num den hden', ← Nat.mul_div_mul_right num' den' hden, h,
      Nat.mul_comm den den']
  have hround (k : Nat) : halfEven num (den * 2 ^ k) = halfEven num' (den' * 2 ^ k) := by
    refine halfEven_congr (Nat.mul_pos hden (Nat.two_pow_pos k))
      (Nat.mul_pos hden' (Nat.two_pow_pos k)) ?_
    rw [← Nat.mul_assoc, ← Nat.mul_assoc, h]
  simp only [roundUnits, Nat.pow_eq, hwhole, hround]

end

end OpcodeAtlas.Binary64
