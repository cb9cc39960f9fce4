/-!
# Double-precision numbers

A double-precision number as exact data: a sign, a significand and a power of two. A finite one
stands for `significand * 2 ^ shift` units of `2 ^ -1074`, and `Canonical` says which pairs occur,
so equal numbers other than the two zeros are equal data. Every number that enters the library is
rounded by `roundUnits`: to the nearest, a tie to the even significand.
-/

set_option autoImplicit false

namespace OpcodeAtlas

/-- A double-precision number. -/
inductive Binary64 where
  | finite (negative : Bool) (significand shift : Nat)
  | infinite (negative : Bool)
  | nan
  deriving DecidableEq, Repr

namespace Binary64

/-! ## Rounding -/

/-- Units to the one: a finite number counts units of `2 ^ -1074`. -/
def unitsPerOne : Nat := Nat.pow 2 1074

/-- The whole number nearest to `num / den`, the even one of two. -/
def halfEven (num den : Nat) : Nat :=
  let q := num / den
  let r := num % den
  if 2 * r < den then q
  else if den < 2 * r then q + 1
  else if q % 2 = 0 then q
  else q + 1

/-- A finite number, or the infinity when the shift is out of range. -/
def pack (negative : Bool) (significand shift : Nat) : Binary64 :=
  if 2045 < shift then .infinite negative else .finite negative significand shift

/-- The number nearest to `num / den` units, a tie going to the even significand. -/
def roundUnits (negative : Bool) (num den : Nat) : Binary64 :=
  let whole := num / den
  let shift := if whole < Nat.pow 2 53 then 0 else whole.log2 - 52
  let m := halfEven num (den * Nat.pow 2 shift)
  -- Rounding up may carry into the next power of two.
  if m < Nat.pow 2 53 then pack negative m shift
  else pack negative (Nat.pow 2 52) (shift + 1)

/-- How many decimal digits a natural number has. -/
def digitCount (n : Nat) : Nat := (Nat.toDigits 10 n).length

/-- The number nearest to `coefficient * 10 ^ exponent`. Far outside the range of the format the
answer is known without the power of ten. -/
def ofDecimal (negative : Bool) (coefficient : Nat) (exponent : Int) : Binary64 :=
  if coefficient = 0 then .finite negative 0 0
  else if 330 < exponent + digitCount coefficient then .infinite negative
  else if exponent + digitCount coefficient < -340 then .finite negative 0 0
  else if 0 ≤ exponent then
    roundUnits negative (coefficient * Nat.pow 10 exponent.toNat * unitsPerOne) 1
  else roundUnits negative (coefficient * unitsPerOne) (Nat.pow 10 (-exponent).toNat)

/-- The number nearest to a whole number. -/
def ofInt (n : Int) : Binary64 := roundUnits (decide (n < 0)) (n.natAbs * unitsPerOne) 1

/-! ## Reading a number back -/

/-- Which sign, significand and shift occur. -/
def Canonical : Binary64 → Prop
  | .finite _ m s => m < Nat.pow 2 53 ∧ (Nat.pow 2 52 ≤ m ∨ s = 0) ∧ s ≤ 2045
  | .infinite _ => True
  | .nan => True

/-- The magnitude in units. -/
def magnitude : Binary64 → Nat
  | .finite _ m s => m * Nat.pow 2 s
  | .infinite _ => 0
  | .nan => 0

/-- Whether the sign is negative. -/
def isNegative : Binary64 → Bool
  | .finite neg _ _ => neg
  | .infinite neg => neg
  | .nan => false

/-- Whether the number is finite. -/
def isFinite : Binary64 → Bool
  | .finite _ _ _ => true
  | .infinite _ => false
  | .nan => false

/-- The whole number that a finite number is equal to, if it is one. -/
def toInt? : Binary64 → Option Int
  | .finite neg m s =>
    if m * Nat.pow 2 s % unitsPerOne = 0 then
      let n : Int := (m * Nat.pow 2 s / unitsPerOne : Nat)
      some (if neg then -n else n)
    else none
  | .infinite _ => none
  | .nan => none

/-- Numeric equality: the two zeros are equal, and nothing equals a NaN. -/
def sameNumber : Binary64 → Binary64 → Bool
  | .finite a m s, .finite b m' s' => m == m' && s == s' && (a == b || m == 0)
  | .infinite a, .infinite b => a == b
  | _, _ => false

/-- The signed value in units, for a finite number. -/
def signedUnits (x : Binary64) : Int :=
  if x.isNegative then -(x.magnitude : Int) else x.magnitude

/-- Numeric order; a NaN is below nothing and above nothing. -/
def below : Binary64 → Binary64 → Bool
  | .nan, _ => false
  | _, .nan => false
  | .infinite a, .infinite b => a && !b
  | .infinite a, .finite _ _ _ => a
  | .finite _ _ _, .infinite b => !b
  | x, y => decide (x.signedUnits < y.signedUnits)

end Binary64

end OpcodeAtlas
