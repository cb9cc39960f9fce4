import OpcodeAtlas.Number.Decimal
import OpcodeAtlas.Proofs.Number.Nearest

/-!
# Six significant digits

The number of a program word is written with six significant digits. Which doubles survive this is
said by their decimals: a double that is nearest to a decimal of at most six digits, from `0.0001`
to below `10 ^ 6`, is rounded to the value of that decimal (`value_rounded`), because it is off by
far less than half a step. As a double depends on the value of its decimal alone
(`ofDecimal_congr`), these are just the doubles that are nearest to what they are rounded to
(`ofDecimal_rounded_iff`).
-/

set_option autoImplicit false

namespace OpcodeAtlas

/-! ## Digits of a natural number -/

namespace Binary64

theorem digitCount_pos (n : Nat) : 0 < digitCount n :=
  List.length_pos_iff.2 (Nat.toDigits_ne_nil)

theorem lt_pow_digitCount (n : Nat) : n < 10 ^ digitCount n :=
  (Nat.length_toDigits_le_iff (by decide) (digitCount_pos n)).1 (Nat.le_refl _)

theorem pow_digitCount_le {n : Nat} (hn : n ≠ 0) : 10 ^ (digitCount n - 1) ≤ n := by
  have hpos := digitCount_pos n
  by_contra hlt
  have hlt : n < 10 ^ (digitCount n - 1) := by omega
  by_cases hone : digitCount n - 1 = 0
  · rw [hone] at hlt
    omega
  · have hle := (Nat.length_toDigits_le_iff (by decide) (Nat.pos_of_ne_zero hone)).2 hlt
    rw [← digitCount] at hle
    omega

end Binary64

namespace Decimal

open Binary64

/-! ## The value of a decimal -/

/-- The number that a decimal stands for. -/
def value (d : Decimal) : ℚ := d.coefficient * 10 ^ d.exponent

/-- The power of ten of the first digit of a decimal. -/
def first (d : Decimal) : Int := d.exponent + digitCount d.coefficient - 1

section
variable {d d' : Decimal}

theorem value_pos (hd : d.coefficient ≠ 0) : 0 < d.value := by
  have hc : (0 : ℚ) < d.coefficient := Nat.cast_pos.2 (Nat.pos_of_ne_zero hd)
  exact mul_pos hc (zpow_pos (by norm_num) _)

theorem coefficient_ne_zero_of_le {k : Int} (h : 10 ^ k ≤ d.value) : d.coefficient ≠ 0 := by
  intro hzero
  rw [value, hzero, Nat.cast_zero, zero_mul] at h
  exact absurd h (not_le.2 (zpow_pos (by norm_num) _))

/-- **The first digit tells the size of a decimal.** -/
theorem first_spec (hd : d.coefficient ≠ 0) :
    (10 : ℚ) ^ d.first ≤ d.value ∧ d.value < 10 ^ (d.first + 1) := by
  have hten : (0 : ℚ) < 10 ^ d.exponent := zpow_pos (by norm_num) _
  have hpos := digitCount_pos d.coefficient
  have hfirst : d.first = (digitCount d.coefficient - 1 : Nat) + d.exponent := by
    unfold first
    omega
  have hnext : d.first + 1 = digitCount d.coefficient + d.exponent := by
    unfold first
    omega
  rw [hnext, hfirst, zpow_add₀ (by norm_num), zpow_add₀ (by norm_num), zpow_natCast, zpow_natCast,
    value]
  constructor
  · refine mul_le_mul_of_nonneg_right ?_ (le_of_lt hten)
    exact_mod_cast pow_digitCount_le hd
  · refine mul_lt_mul_of_pos_right ?_ hten
    exact_mod_cast lt_pow_digitCount d.coefficient

theorem le_first_iff (hd : d.coefficient ≠ 0) (k : Int) :
    k ≤ d.first ↔ (10 : ℚ) ^ k ≤ d.value := by
  obtain ⟨hlow, hhigh⟩ := first_spec hd
  constructor
  · intro h
    exact le_trans (zpow_le_zpow_right₀ (by norm_num) h) hlow
  · intro h
    have hlt := (zpow_lt_zpow_iff_right₀ (a := (10 : ℚ)) (by norm_num)).1 (lt_of_le_of_lt h hhigh)
    omega

/-- Which decimals are written positionally. -/
theorem positional_iff (hd : d.coefficient ≠ 0) :
    -4 ≤ d.first ∧ d.first ≤ 5 ↔ 10 ^ (-4 : Int) ≤ d.value ∧ d.value < 10 ^ (6 : Int) := by
  have hnot : d.first ≤ 5 ↔ ¬6 ≤ d.first := by omega
  rw [hnot, le_first_iff hd, le_first_iff hd, not_le]

/-- Decimals of one value have their first digit at one place. -/
theorem first_eq (hd : d.coefficient ≠ 0) (hd' : d'.coefficient ≠ 0) (h : d.value = d'.value) :
    d.first = d'.first := by
  have hle := (le_first_iff hd' d.first).2 (h ▸ (le_first_iff hd _).1 (Int.le_refl _))
  have hge := (le_first_iff hd d'.first).2 (h ▸ (le_first_iff hd' _).1 (Int.le_refl _))
  omega

/-- Dropping zeros at the end leaves the value, and no such zero. -/
theorem trimZeros_spec (fuel : Nat) (hd : d.coefficient ≠ 0) :
    (trimZeros fuel d).value = d.value ∧ (trimZeros fuel d).coefficient ≠ 0 ∧
      (trimZeros fuel d).coefficient ≤ d.coefficient ∧
      (d.coefficient < 10 ^ fuel → (trimZeros fuel d).coefficient % 10 ≠ 0) := by
  induction fuel generalizing d with
  | zero => exact ⟨rfl, hd, Nat.le_refl _, fun h => absurd (Nat.lt_one_iff.1 h) hd⟩
  | succ fuel ih =>
      rw [trimZeros]
      split
      next hzero =>
        -- A zero is dropped, and the power of ten grows by one.
        obtain ⟨c, hc⟩ := Nat.dvd_of_mod_eq_zero hzero.2
        have hdiv : d.coefficient / 10 = c := by omega
        rw [hdiv]
        obtain ⟨hvalue, hne, hle, hlast⟩ := @ih ⟨c, d.exponent + 1⟩ (by dsimp only; omega)
        refine ⟨?_, hne, Nat.le_trans hle (by dsimp only; omega), fun h => hlast ?_⟩
        · rw [hvalue, value, value, hc, zpow_add₀ (by norm_num), zpow_one]
          push_cast
          ring
        · rw [Nat.pow_succ] at h
          dsimp only
          omega
      next hzero => exact ⟨rfl, hd, Nat.le_refl _, fun _ h => hzero ⟨hd, h⟩⟩

end

/-! ## Quotients in decimal steps -/

section
variable {num den : Nat}

/-- **The place of a quotient** tells its size. -/
theorem place_spec (hnum : 0 < num) (hden : 0 < den) :
    (10 : ℚ) ^ (place num den - 1) ≤ num / den ∧ (num : ℚ) / den < 10 ^ place num den := by
  have hnum' : (0 : ℚ) < num := Nat.cast_pos.2 hnum
  have hden' : (0 : ℚ) < den := Nat.cast_pos.2 hden
  unfold place
  split
  next hle =>
    -- A quotient from one on has the digits of its whole part.
    have hne : num / den ≠ 0 := Nat.ne_of_gt (Nat.div_pos hle hden)
    have hpos := digitCount_pos (num / den)
    have hlow := pow_digitCount_le hne
    have hhigh := lt_pow_digitCount (num / den)
    have hpred : (digitCount (num / den) : Int) - 1 = (digitCount (num / den) - 1 : Nat) := by omega
    rw [hpred, zpow_natCast, zpow_natCast, le_div_iff₀ hden', div_lt_iff₀ hden']
    constructor
    · exact_mod_cast (Nat.le_div_iff_mul_le hden).1 hlow
    · exact_mod_cast (Nat.div_lt_iff_lt_mul hden).1 hhigh
  next hlt =>
    -- Below one, the inverse is a number from one on.
    have hne : (den - 1) / num ≠ 0 := Nat.ne_of_gt (Nat.div_pos (by omega) hnum)
    have hpos := digitCount_pos ((den - 1) / num)
    have hlow := pow_digitCount_le hne
    have hhigh := lt_pow_digitCount ((den - 1) / num)
    have hpred : 1 - (digitCount ((den - 1) / num) : Int) =
        -((digitCount ((den - 1) / num) - 1 : Nat) : Int) := by omega
    have hsame : 1 - (digitCount ((den - 1) / num) : Int) - 1 =
        -(digitCount ((den - 1) / num) : Int) := by omega
    rw [hsame, hpred, zpow_neg, zpow_neg, zpow_natCast, zpow_natCast]
    have hlow := (Nat.le_div_iff_mul_le hnum).1 hlow
    have hhigh := (Nat.div_lt_iff_lt_mul hnum).1 hhigh
    rw [inv_eq_one_div, inv_eq_one_div, div_le_div_iff₀ (by positivity) hden',
      div_lt_div_iff₀ hden' (by positivity), one_mul]
    constructor
    · have hhigh : den ≤ num * 10 ^ digitCount ((den - 1) / num) := by
        rw [Nat.mul_comm]
        omega
      exact_mod_cast hhigh
    · have hlow : num * 10 ^ (digitCount ((den - 1) / num) - 1) < den := by
        rw [Nat.mul_comm]
        omega
      exact_mod_cast hlow

theorem inSteps_spec (num : Nat) (hden : 0 < den) (k : Int) :
    0 < (inSteps num den k).2 ∧
      ((inSteps num den k).1 : ℚ) / (inSteps num den k).2 = num / den / 10 ^ k := by
  unfold inSteps
  split
  next hk =>
    obtain ⟨n, rfl⟩ := Int.eq_ofNat_of_zero_le hk
    refine ⟨Nat.mul_pos hden (Nat.pow_pos (by decide)), ?_⟩
    simp only [Int.toNat_natCast, Nat.pow_eq, zpow_natCast]
    push_cast
    rw [div_div]
  next hk =>
    obtain ⟨n, hn⟩ := Int.eq_ofNat_of_zero_le (a := -k) (by omega)
    obtain rfl : k = -(n : Int) := by omega
    refine ⟨hden, ?_⟩
    simp only [neg_neg, Int.toNat_natCast, Nat.pow_eq, zpow_neg, zpow_natCast, div_inv_eq_mul]
    push_cast
    rw [mul_div_right_comm]

end

end Decimal

namespace Binary64

open Decimal

/-! ## Doubles and decimals -/

/-- The magnitude of a finite double. -/
def size (m s : Nat) : ℚ := m * 2 ^ s / unitsPerOne

/-- Units to the one are a power of two, and a large one. -/
theorem exists_unitsPerOne : ∃ n, 67 ≤ n ∧ unitsPerOne = Nat.pow 2 n := by
  unfold unitsPerOne
  refine ⟨1074, by decide, ?_⟩
  rfl

theorem unitsPerOne_pos : 0 < unitsPerOne := by
  obtain ⟨n, -, hunits⟩ := exists_unitsPerOne
  rw [hunits]
  exact Nat.two_pow_pos n

/-- Four places behind the point, the units still fill a significand. -/
theorem units_large : (2 : ℚ) ^ 53 ≤ 10 ^ (-4 : Int) * unitsPerOne := by
  obtain ⟨n, hn, hunits⟩ := exists_unitsPerOne
  have hfull : 2 ^ 53 * 10 ^ 4 ≤ unitsPerOne :=
    calc 2 ^ 53 * 10 ^ 4 ≤ 2 ^ 67 := by decide
      _ ≤ 2 ^ n := Nat.pow_le_pow_right (by decide) hn
      _ = unitsPerOne := hunits.symm
  have hfull : (2 ^ 53 * 10 ^ 4 : ℚ) ≤ unitsPerOne := by exact_mod_cast hfull
  rw [zpow_neg, inv_mul_eq_div, le_div_iff₀ (zpow_pos (by norm_num) _)]
  exact hfull

/-- The quotient of units that a decimal stands for: the power of ten is in the numerator or in the
denominator. -/
def decimalUnits (d : Decimal) : Nat × Nat :=
  (d.coefficient * 10 ^ d.exponent.toNat * unitsPerOne, 10 ^ (-d.exponent).toNat)

section
variable {d d' : Decimal} {neg : Bool}

theorem decimalUnits_spec (d : Decimal) :
    0 < (decimalUnits d).2 ∧
      ((decimalUnits d).1 : ℚ) / (decimalUnits d).2 = d.value * unitsPerOne := by
  refine ⟨Nat.pow_pos (by decide), ?_⟩
  have hten : (10 : ℚ) ^ d.exponent = 10 ^ d.exponent.toNat / 10 ^ (-d.exponent).toNat := by
    rw [← zpow_natCast, ← zpow_natCast, ← zpow_sub₀ (by norm_num)]
    congr 1
    omega
  rw [decimalUnits, value, hten]
  push_cast
  ring

/-- Where nothing is cut off, a decimal is read by rounding its units. -/
theorem ofDecimal_eq_roundUnits (hd : d.coefficient ≠ 0) (hlow : -341 ≤ d.first)
    (hhigh : d.first ≤ 329) (neg : Bool) :
    ofDecimal neg d.coefficient d.exponent =
      roundUnits neg (decimalUnits d).1 (decimalUnits d).2 := by
  unfold first at hlow hhigh
  have hlarge : ¬330 < d.exponent + digitCount d.coefficient := by omega
  have hsmall : ¬d.exponent + digitCount d.coefficient < -340 := by omega
  rw [ofDecimal, if_neg hd, if_neg hlarge, if_neg hsmall, decimalUnits]
  simp only [Nat.pow_eq]
  split
  next hexponent =>
    have hnone : (-d.exponent).toNat = 0 := by omega
    rw [hnone, Nat.pow_zero]
  next hexponent =>
    have hnone : d.exponent.toNat = 0 := by omega
    rw [hnone, Nat.pow_zero, Nat.mul_one]

/-- **A double depends on the value of its decimal alone.** -/
theorem ofDecimal_congr (hd : d.coefficient ≠ 0) (hd' : d'.coefficient ≠ 0)
    (h : d.value = d'.value) (neg : Bool) :
    ofDecimal neg d.coefficient d.exponent = ofDecimal neg d'.coefficient d'.exponent := by
  have hfirst := first_eq hd hd' h
  by_cases hin : -341 ≤ d.first ∧ d.first ≤ 329
  · rw [ofDecimal_eq_roundUnits hd hin.1 hin.2, ofDecimal_eq_roundUnits hd' (hfirst ▸ hin.1)
      (hfirst ▸ hin.2)]
    obtain ⟨hpos, hvalue⟩ := decimalUnits_spec d
    obtain ⟨hpos', hvalue'⟩ := decimalUnits_spec d'
    refine roundUnits_congr hpos hpos' ?_ neg
    rw [h, ← hvalue', div_eq_div_iff (Nat.cast_ne_zero.2 (Nat.ne_of_gt hpos))
      (Nat.cast_ne_zero.2 (Nat.ne_of_gt hpos'))] at hvalue
    exact_mod_cast hvalue
  · -- The answer is known from the place of the first digit.
    unfold first at hfirst hin
    have hlarge : 330 < d.exponent + digitCount d.coefficient ↔
        330 < d'.exponent + digitCount d'.coefficient := by omega
    have hsmall : d.exponent + digitCount d.coefficient < -340 ↔
        d'.exponent + digitCount d'.coefficient < -340 := by omega
    rw [ofDecimal, ofDecimal, if_neg hd, if_neg hd']
    simp only [hlarge, hsmall]
    split
    · rfl
    split
    · rfl
    · omega

/-- **What a decimal is read as is canonical.** -/
theorem canonical_ofDecimal (neg : Bool) (c : Nat) (e : Int) : (ofDecimal neg c e).Canonical := by
  have hzero : (finite neg 0 0).Canonical := ⟨by decide, .inr rfl, by decide⟩
  by_cases hc : c = 0
  · rw [ofDecimal, if_pos hc]
    exact hzero
  by_cases hin : -341 ≤ (Decimal.mk c e).first ∧ (Decimal.mk c e).first ≤ 329
  · have hround := @ofDecimal_eq_roundUnits ⟨c, e⟩ hc hin.1 hin.2 neg
    dsimp only at hround
    rw [hround]
    exact canonical_roundUnits neg _ (decimalUnits_spec ⟨c, e⟩).1
  · unfold first at hin
    dsimp only at hin
    rw [ofDecimal, if_neg hc]
    split
    · trivial
    split
    · exact hzero
    · omega

/-- **A double is close to the decimal that it is read from**, from `0.0001` to below `10 ^ 6`. -/
theorem abs_size_sub_value {neg' : Bool} {m s : Nat} (hd : d.coefficient ≠ 0)
    (hlow : 10 ^ (-4 : Int) ≤ d.value) (hhigh : d.value < 10 ^ (6 : Int))
    (hx : ofDecimal neg d.coefficient d.exponent = finite neg' m s) :
    neg' = neg ∧ |size m s - d.value| ≤ d.value / 2 ^ 53 := by
  obtain ⟨hfirst, hlast⟩ := (positional_iff hd).2 ⟨hlow, hhigh⟩
  obtain ⟨hpos, hvalue⟩ := decimalUnits_spec d
  have hunits : (0 : ℚ) < unitsPerOne := Nat.cast_pos.2 unitsPerOne_pos
  rw [ofDecimal_eq_roundUnits hd (by omega) (by omega)] at hx
  -- The decimal is so many units that they fill the significand.
  have hlarge : (2 : ℚ) ^ 53 ≤ (decimalUnits d).1 / (decimalUnits d).2 := by
    rw [hvalue]
    exact le_trans units_large (mul_le_mul_of_nonneg_right hlow (le_of_lt hunits))
  obtain ⟨hneg, herror⟩ := roundUnits_error hpos hx hlarge
  refine ⟨hneg, ?_⟩
  rw [hvalue] at herror
  have hscale : size m s - d.value = (m * 2 ^ s - d.value * unitsPerOne) / unitsPerOne := by
    rw [size, sub_div, mul_div_cancel_right₀ _ (ne_of_gt hunits)]
  rw [hscale, abs_div, abs_of_pos hunits, div_le_iff₀ hunits]
  calc _ ≤ d.value * unitsPerOne / 2 ^ 53 := herror
    _ = d.value / 2 ^ 53 * unitsPerOne := by ring

/-! ## Rounding to six digits -/

theorem ten_zpow_add {p k : Int} {n : Nat} (h : p = n + k) : (10 : ℚ) ^ p = 10 ^ n * 10 ^ k := by
  rw [h, zpow_add₀ (by norm_num), zpow_natCast]

/-- How a double is rounded to six digits: in steps of a power of ten of which it has from `10 ^ 5`
to below `10 ^ 6`. -/
theorem rounded_spec {m s : Nat} (hm : m ≠ 0) :
    ∃ (k : Int) (c : Nat), rounded 6 m s = trimZeros 400 ⟨c, k⟩ ∧
      (10 : ℚ) ^ 5 * 10 ^ k ≤ size m s ∧ size m s < (10 : ℚ) ^ 6 * 10 ^ k ∧
      (∀ n : Nat, (n : ℚ) ≤ size m s / 10 ^ k → n ≤ c) ∧
      (∀ n : Nat, size m s / 10 ^ k ≤ n → c ≤ n) ∧
      (∀ n : Nat, |size m s / 10 ^ k - n| < 1 / 2 → c = n) := by
  have hnum : 0 < m * 2 ^ s := Nat.mul_pos (Nat.pos_of_ne_zero hm) (Nat.two_pow_pos s)
  have hsize : ((m * 2 ^ s : Nat) : ℚ) / unitsPerOne = size m s := by
    rw [size]
    push_cast
    rfl
  obtain ⟨hlow, hhigh⟩ := place_spec hnum unitsPerOne_pos
  obtain ⟨hpos, hstep⟩ := inSteps_spec (m * 2 ^ s) unitsPerOne_pos
    (place (m * 2 ^ s) unitsPerOne - 6)
  have hrounded : rounded 6 m s = trimZeros 400
      ⟨halfEven (inSteps (m * 2 ^ s) unitsPerOne (place (m * 2 ^ s) unitsPerOne - 6)).1
        (inSteps (m * 2 ^ s) unitsPerOne (place (m * 2 ^ s) unitsPerOne - 6)).2,
        place (m * 2 ^ s) unitsPerOne - 6⟩ := by
    simp only [rounded, Nat.pow_eq, Nat.cast_ofNat]
  generalize place (m * 2 ^ s) unitsPerOne = p at *
  rw [hsize] at hlow hhigh hstep
  rw [@ten_zpow_add (p - 1) (p - 6) 5 (by omega)] at hlow
  rw [@ten_zpow_add p (p - 6) 6 (by omega)] at hhigh
  refine ⟨_, _, hrounded, hlow, hhigh, fun n hn => ?_, fun n hn => ?_, fun n hn => ?_⟩
  · exact le_halfEven hpos (hstep ▸ hn)
  · exact halfEven_le hpos (hstep ▸ hn)
  · exact halfEven_eq hpos (hstep ▸ hn)

/-- **Six digits are at most six digits**, and not all of them are zero. -/
theorem coefficient_rounded {m s : Nat} (hm : m ≠ 0) :
    (rounded 6 m s).coefficient ≠ 0 ∧ (rounded 6 m s).coefficient < 10 ^ 6 := by
  obtain ⟨k, c, hrounded, hlow, hhigh, hleast, hmost, -⟩ := @rounded_spec m s hm
  have hstep : (0 : ℚ) < 10 ^ k := zpow_pos (by norm_num) _
  have hleast : 10 ^ 5 ≤ c := by
    refine hleast _ ?_
    rw [le_div_iff₀ hstep, Nat.cast_pow, Nat.cast_ofNat]
    exact hlow
  have hmost : c ≤ 10 ^ 6 := by
    refine hmost _ ?_
    rw [div_le_iff₀ hstep, Nat.cast_pow, Nat.cast_ofNat]
    exact le_of_lt hhigh
  obtain ⟨-, hne, hle, hlast⟩ := @trimZeros_spec ⟨c, k⟩ 400 (by dsimp only; omega)
  -- Only a million has seven digits, and its zeros are dropped.
  have hfuel : c < 10 ^ 400 :=
    Nat.lt_of_le_of_lt hmost (pow_lt_pow_right₀ (by decide) (by decide))
  have hlast := hlast hfuel
  rw [hrounded]
  refine ⟨hne, ?_⟩
  dsimp only at hle
  omega

/-- **A decimal of six digits is a whole number of steps**, if there are at least `10 ^ 5` of
them. -/
theorem exists_steps {k : Int} (hc : d.coefficient < 10 ^ 6) (hd : d.coefficient ≠ 0)
    (hlarge : (10 ^ 6 - 1) * (10 : ℚ) ^ k < d.value * 10) :
    ∃ n : Nat, n ≠ 0 ∧ d.value = n * 10 ^ k := by
  have hexponent : k ≤ d.exponent := by
    -- A smaller power of ten would leave the decimal below `10 ^ 5` steps.
    by_contra hsmall
    have hten : (10 : ℚ) ^ d.exponent * 10 ≤ 10 ^ k := by
      rw [← zpow_add_one₀ (by norm_num)]
      exact zpow_le_zpow_right₀ (by norm_num) (by omega)
    have hcoefficient : (d.coefficient : ℚ) + 1 ≤ 10 ^ 6 := by exact_mod_cast hc
    have hpow : (0 : ℚ) < 10 ^ d.exponent := zpow_pos (by norm_num) _
    have hbound : d.value ≤ (10 ^ 6 - 1) * 10 ^ d.exponent :=
      mul_le_mul_of_nonneg_right (by linarith) (le_of_lt hpow)
    linarith
  obtain ⟨j, hj⟩ := Int.eq_ofNat_of_zero_le (Int.sub_nonneg_of_le hexponent)
  refine ⟨d.coefficient * 10 ^ j, ?_, ?_⟩
  · exact Nat.mul_ne_zero hd (Nat.ne_of_gt (Nat.pow_pos (by decide)))
  · rw [value, @ten_zpow_add d.exponent k j (by omega)]
    push_cast
    ring

/-- **A double that is nearest to a decimal of six digits is rounded to the decimal.** -/
theorem value_rounded {neg' : Bool} {m s : Nat} (hc : d.coefficient < 10 ^ 6)
    (hlow : 10 ^ (-4 : Int) ≤ d.value) (hhigh : d.value < 10 ^ (6 : Int))
    (hx : ofDecimal neg d.coefficient d.exponent = finite neg' m s) (hm : m ≠ 0) :
    neg' = neg ∧ (rounded 6 m s).value = d.value := by
  have hd := coefficient_ne_zero_of_le hlow
  obtain ⟨hneg, herror⟩ := abs_size_sub_value hd hlow hhigh hx
  refine ⟨hneg, ?_⟩
  obtain ⟨hbelow, habove⟩ := abs_le.1 herror
  have hvalue := value_pos hd
  obtain ⟨k, c, hrounded, hleast, hmost, -, -, hnearest⟩ := @rounded_spec m s hm
  have hstep : (0 : ℚ) < 10 ^ k := zpow_pos (by norm_num) _
  obtain ⟨n, hn, hsteps⟩ : ∃ n : Nat, n ≠ 0 ∧ d.value = n * 10 ^ k := by
    apply exists_steps hc hd
    linarith
  -- The double is off by less than half a step, so the steps are those of the decimal.
  have hround : c = n := by
    apply hnearest
    have hdistance : size m s / 10 ^ k - n = (size m s - d.value) / 10 ^ k := by
      rw [hsteps, sub_div, mul_div_cancel_right₀ _ (ne_of_gt hstep)]
    rw [hdistance, abs_div, abs_of_pos hstep, div_lt_iff₀ hstep]
    linarith
  subst hround
  rw [hrounded, (@trimZeros_spec ⟨c, k⟩ 400 hn).1, value, hsteps]

end

/-- A double is nearest to a decimal of at most six digits, from `0.0001` to below `10 ^ 6`. -/
def HasSixDigits (x : Binary64) : Prop :=
  ∃ neg, ∃ d : Decimal, x = ofDecimal neg d.coefficient d.exponent ∧ d.coefficient < 10 ^ 6 ∧
    10 ^ (-4 : Int) ≤ d.value ∧ d.value < 10 ^ (6 : Int)

/-- **Which doubles survive six digits**: those that are nearest to a decimal of six digits are
nearest to the one to which they are rounded. -/
theorem ofDecimal_rounded_iff {neg : Bool} {m s : Nat} (hm : m ≠ 0) :
    ofDecimal neg (rounded 6 m s).coefficient (rounded 6 m s).exponent = finite neg m s ∧
        (-4 ≤ (rounded 6 m s).first ∧ (rounded 6 m s).first ≤ 5) ↔
      (finite neg m s).HasSixDigits := by
  obtain ⟨hne, hlt⟩ := @coefficient_rounded m s hm
  rw [positional_iff hne]
  constructor
  · rintro ⟨hx, hrange⟩
    exact ⟨neg, _, hx.symm, hlt, hrange⟩
  · rintro ⟨neg', d, hx, hc, hlow, hhigh⟩
    obtain ⟨rfl, hvalue⟩ := value_rounded hc hlow hhigh hx.symm hm
    have hd := coefficient_ne_zero_of_le hlow
    rw [ofDecimal_congr hne hd hvalue, hvalue]
    exact ⟨hx.symm, hlow, hhigh⟩

end Binary64

end OpcodeAtlas
