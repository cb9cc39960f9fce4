/-!
# Ranges of code points

Character classes are tables of closed ranges of code points.
-/

set_option autoImplicit false

namespace OpcodeAtlas.Text

/-- A closed range of code points: its first and its last. -/
abbrev CodeRange := Nat × Nat

namespace CodeRange

/-- Whether a code point lies in one of the ranges. -/
def covers (table : List CodeRange) (n : Nat) : Bool :=
  table.any fun r => decide (r.1 ≤ n) && decide (n ≤ r.2)

end CodeRange

end OpcodeAtlas.Text
