import OpcodeAtlas.Number.Binary64

/-!
# Decimal text of a double

Two decimal forms of a double are in use. The *shortest* one has the fewest digits that read back
as the same double; it shows values as they are. The *brief* one has at most six significant
digits; it shows the number of a program word. Both are laid out by one function: positional
between two powers of ten, with an exponent outside of them (`Layout`).
-/

set_option autoImplicit false

namespace OpcodeAtlas

/-- The number `coefficient * 10 ^ exponent`. -/
structure Decimal where
  coefficient : Nat
  exponent : Int
  deriving DecidableEq, Repr

namespace Decimal

/-! ## Choosing digits -/

/-- Drop the zeros at the end of the coefficient; `fuel` bounds their number. -/
def trimZeros : Nat → Decimal → Decimal
  | 0, d => d
  | fuel + 1, d =>
    if d.coefficient ≠ 0 ∧ d.coefficient % 10 = 0 then
      trimZeros fuel ⟨d.coefficient / 10, d.exponent + 1⟩
    else d

/-- The exponent `p` with `10 ^ (p - 1) ≤ num / den < 10 ^ p`, for a positive quotient. -/
def place (num den : Nat) : Int :=
  if den ≤ num then Binary64.digitCount (num / den)
  -- Below one, the inverse tells how many zeros follow the point.
  else 1 - Binary64.digitCount ((den - 1) / num)

/-- The quotient `num / den` in steps of `10 ^ k`, as a quotient of natural numbers. -/
def inSteps (num den : Nat) (k : Int) : Nat × Nat :=
  if 0 ≤ k then (num, den * Nat.pow 10 k.toNat) else (num * Nat.pow 10 (-k).toNat, den)

/-- Twice the distances that a double keeps from the numbers that round to its neighbours, in
quarters of a unit: the lower and the upper end of the interval that rounds to it. -/
def interval (significand shift : Nat) : Nat × Nat :=
  let lower :=
    if significand = Nat.pow 2 52 ∧ 0 < shift then 4 * significand - 1 else 4 * significand - 2
  (lower * Nat.pow 2 shift, (4 * significand + 2) * Nat.pow 2 shift)

/-- Whether `q * 10 ^ k` rounds to the double. The ends of the interval belong to an even
significand. -/
def roundsTo (significand shift q : Nat) (k : Int) : Bool :=
  let ends := interval significand shift
  let unit := 4 * Binary64.unitsPerOne
  let x := if 0 ≤ k then q * Nat.pow 10 k.toNat * unit else q * unit
  let low := if 0 ≤ k then ends.1 else ends.1 * Nat.pow 10 (-k).toNat
  let high := if 0 ≤ k then ends.2 else ends.2 * Nat.pow 10 (-k).toNat
  if significand % 2 = 0 then decide (low ≤ x) && decide (x ≤ high)
  else decide (low < x) && decide (x < high)

/-- The nearest of the two neighbours with `n` digits that rounds to the double, if one does. -/
def withDigits? (significand shift n : Nat) : Option Decimal :=
  let num := significand * Nat.pow 2 shift
  let k := place num Binary64.unitsPerOne - n
  let step := inSteps num Binary64.unitsPerOne k
  let low := step.1 / step.2
  let nearest := Binary64.halfEven step.1 step.2
  -- Where the interval is lopsided, the farther neighbour may lie in it and the nearer one not.
  if roundsTo significand shift nearest k then some ⟨nearest, k⟩
  else if roundsTo significand shift low k then some ⟨low, k⟩
  else if roundsTo significand shift (low + 1) k then some ⟨low + 1, k⟩
  else none

/-- The decimal with the fewest digits, at most `n` from `17 - n + 1` on, that rounds to the
double; seventeen always suffice. -/
def shortestFrom (significand shift : Nat) : Nat → Decimal
  | 0 =>
    let num := significand * Nat.pow 2 shift
    let k := place num Binary64.unitsPerOne - 17
    let step := inSteps num Binary64.unitsPerOne k
    ⟨Binary64.halfEven step.1 step.2, k⟩
  | n + 1 =>
    match withDigits? significand shift (17 - n) with
    | some d => d
    | none => shortestFrom significand shift n

/-- The decimal with the fewest digits that rounds to a non-zero double. -/
def shortest (significand shift : Nat) : Decimal :=
  trimZeros 400 (shortestFrom significand shift 17)

/-- A non-zero double rounded to `n` significant digits, a tie to the even digit. -/
def rounded (n significand shift : Nat) : Decimal :=
  let num := significand * Nat.pow 2 shift
  let k := place num Binary64.unitsPerOne - n
  let step := inSteps num Binary64.unitsPerOne k
  trimZeros 400 ⟨Binary64.halfEven step.1 step.2, k⟩

/-! ## Laying digits out -/

/-- How a decimal is written. -/
structure Layout where
  /-- The smallest power of ten of a first digit that is written positionally. -/
  least : Int
  /-- The greatest power of ten of a first digit that is written positionally. -/
  greatest : Int
  /-- Whether a whole number keeps a point and a zero. -/
  keepsPoint : Bool
  deriving DecidableEq, Repr

/-- Values: positional from `0.0001` to below `10 ^ 16`, whole numbers with `.0`. -/
def Layout.value : Layout := ⟨-4, 15, true⟩

/-- Program words: positional from `0.0001` to below `10 ^ 6`, whole numbers without a point. -/
def Layout.word : Layout := ⟨-4, 5, false⟩

/-- An exponent: its sign and at least two digits. -/
def exponentText (e : Int) : List Char :=
  let digits := Nat.toDigits 10 e.natAbs
  let padded := if digits.length < 2 then '0' :: digits else digits
  (if e < 0 then '-' else '+') :: padded

/-- The text of a positive decimal. -/
def text (layout : Layout) (d : Decimal) : List Char :=
  let digits := Nat.toDigits 10 d.coefficient
  let first : Int := d.exponent + digits.length - 1
  if layout.least ≤ first ∧ first ≤ layout.greatest then
    if first < 0 then
      ['0', '.'] ++ List.replicate (-first - 1).toNat '0' ++ digits
    else
      let whole := (first + 1).toNat
      if digits.length ≤ whole then
        digits ++ List.replicate (whole - digits.length) '0' ++
          (if layout.keepsPoint then ['.', '0'] else [])
      else digits.take whole ++ '.' :: digits.drop whole
  else
    match digits with
    | [] => []
    | c :: rest =>
      c :: (if rest.isEmpty then [] else '.' :: rest) ++ 'e' :: exponentText first

end Decimal

namespace Binary64

/-- The sign that a text starts with. -/
def signText (negative : Bool) : List Char := if negative then ['-'] else []

/-- The text of a double with the digits that `digits` chooses for a non-zero one. -/
def textWith (layout : Decimal.Layout) (digits : Nat → Nat → Decimal) : Binary64 → List Char
  | .nan => ['n', 'a', 'n']
  | .infinite neg => signText neg ++ ['i', 'n', 'f']
  | .finite neg m s =>
    signText neg ++
      (if m = 0 then (if layout.keepsPoint then ['0', '.', '0'] else ['0'])
        else Decimal.text layout (digits m s))

/-- The text of a double as a value: its shortest decimal. -/
def valueText (x : Binary64) : String :=
  String.ofList (textWith Decimal.Layout.value Decimal.shortest x)

/-- The text of a double in a program word: six significant digits. -/
def wordText (x : Binary64) : String :=
  String.ofList (textWith Decimal.Layout.word (Decimal.rounded 6) x)

end Binary64

end OpcodeAtlas
