import OpcodeAtlas.Number.Binary64

/-!
# Sums and products of doubles

The exact sum or product, rounded once.
-/

set_option autoImplicit false

namespace OpcodeAtlas.Binary64

/-- The number with the opposite sign. -/
def negate : Binary64 → Binary64
  | .finite neg m s => .finite (!neg) m s
  | .infinite neg => .infinite (!neg)
  | .nan => .nan

/-- The sum of two numbers. A sum of zero is negative only if both numbers are. -/
def add : Binary64 → Binary64 → Binary64
  | .nan, _ => .nan
  | _, .nan => .nan
  | .infinite a, .infinite b => if a == b then .infinite a else .nan
  | .infinite a, .finite _ _ _ => .infinite a
  | .finite _ _ _, .infinite b => .infinite b
  | x, y =>
    let sum := x.signedUnits + y.signedUnits
    if sum = 0 then .finite (x.isNegative && y.isNegative) 0 0
    else roundUnits (decide (sum < 0)) sum.natAbs 1

/-- The product of two numbers. -/
def multiply (x y : Binary64) : Binary64 :=
  let negative := x.isNegative != y.isNegative
  match x, y with
  | .nan, _ => .nan
  | _, .nan => .nan
  | .finite _ m _, .infinite _ => if m = 0 then .nan else .infinite negative
  | .infinite _, .finite _ m _ => if m = 0 then .nan else .infinite negative
  | .infinite _, .infinite _ => .infinite negative
  | x, y => roundUnits negative (x.magnitude * y.magnitude) unitsPerOne

end OpcodeAtlas.Binary64
