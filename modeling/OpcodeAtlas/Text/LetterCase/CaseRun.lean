import OpcodeAtlas.Text.CodeRange

/-!
# Runs of letters that change case by one distance
-/

set_option autoImplicit false

namespace OpcodeAtlas.Text.LetterCase

/-- The characters `first`, `first + stride`, …, `last`, each of which moves by `distance`. -/
structure CaseRun where
  first : Nat
  last : Nat
  stride : Nat
  distance : Int
  deriving DecidableEq, Repr

namespace CaseRun

/-- Whether a code point belongs to the run. -/
def has (r : CaseRun) (n : Nat) : Bool :=
  decide (r.first ≤ n) && decide (n ≤ r.last) && (n - r.first) % r.stride == 0

/-- The mapped form of a character: its sequence if it has one, else its place in the run that
has it, else itself. -/
def apply (runs : List CaseRun) (sequences : List (Nat × List Nat)) (c : Char) : List Char :=
  match sequences.lookup c.toNat with
  | some codes => codes.map Char.ofNat
  | none =>
    match runs.find? (·.has c.toNat) with
    | some r => [Char.ofNat (Int.toNat (c.toNat + r.distance))]
    | none => [c]

end CaseRun

end OpcodeAtlas.Text.LetterCase
