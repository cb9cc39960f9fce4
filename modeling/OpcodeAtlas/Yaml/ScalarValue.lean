import OpcodeAtlas.Number.Arithmetic
import OpcodeAtlas.Number.Reading
import OpcodeAtlas.Text.LetterCase.Lower
import OpcodeAtlas.Value.Basic
import OpcodeAtlas.Yaml.Fault
import OpcodeAtlas.Yaml.Tag

/-!
# Values of YAML scalars

The value that a text has as a scalar of a given kind. The texts need not have the form of the
kind, because a tag can force it; where a text has no value, the fault says why (`Fault`).
-/

set_option autoImplicit false

namespace OpcodeAtlas.Yaml

namespace ScalarValue

/-! ## Numbers -/

/-- The value of a digit or letter as a digit. -/
def wideDigit? (c : Char) : Option Nat :=
  match Text.digitValue? c with
  | some d => some d
  | none =>
    if 65 ≤ c.toNat ∧ c.toNat ≤ 90 then some (c.toNat - 55)
    else if 97 ≤ c.toNat ∧ c.toNat ≤ 122 then some (c.toNat - 87)
    else none

/-- The number that a row of digits is to a base. -/
def rowValue? (base acc : Nat) : List Char → Option Nat
  | [] => some acc
  | c :: rest =>
    match wideDigit? c with
    | some d => if d < base then rowValue? base (base * acc + d) rest else none
    | none => none

/-- The letter that marks a base behind a zero. -/
def isBaseMark (base : Nat) (c : Char) : Bool :=
  match base with
  | 2 => c == 'b' || c == 'B'
  | 8 => c == 'o' || c == 'O'
  | 16 => c == 'x' || c == 'X'
  | _ => false

/-- Read a whole number to a base, which a zero and a letter may mark in front of it. -/
def readBased? (base : Nat) (s : List Char) : Option Int :=
  let (negative, unsigned) := Number.splitSign (Number.trimPadding s)
  let digits :=
    match unsigned with
    | '0' :: c :: rest => if isBaseMark base c then rest else unsigned
    | _ => unsigned
  if digits.isEmpty then none
  else (rowValue? base 0 digits).map fun n => if negative then -(n : Int) else n

/-- A text without underscores. -/
def dropUnderscores (s : List Char) : List Char := s.filter (· ≠ '_')

/-- Read a whole number to the base ten. -/
def readDecimalInt (s : List Char) : Except Fault Int := require (Number.readInteger s).toOption

/-- The number whose parts count sixtieths of each other. -/
def sexagesimalInt (acc : Int) : List (List Char) → Except Fault Int
  | [] => .ok acc
  | part :: rest =>
    match readDecimalInt part with
    | .ok n => sexagesimalInt (60 * acc + n) rest
    | .error f => .error f

/-- The whole number that a text without sign and underscores is. -/
def unsignedInt (s : List Char) : Except Fault Int :=
  match s with
  | [] => .error (.scalar .emptyNumber)
  | ['0'] => .ok 0
  | '0' :: 'b' :: rest => require (readBased? 2 rest)
  | '0' :: 'x' :: rest => require (readBased? 16 rest)
  | '0' :: _ => require (readBased? 8 s)
  | _ => if s.contains ':' then sexagesimalInt 0 (Tag.splitColons s) else readDecimalInt s

/-- The whole number that a text is. -/
def int (text : List Char) : Except Fault Value :=
  match dropUnderscores text with
  | [] => .error (.scalar .emptyNumber)
  | c :: rest =>
    let unsigned := if c = '+' ∨ c = '-' then rest else c :: rest
    (unsignedInt unsigned).map fun n => .int (if c = '-' then -n else n)

/-- Read a decimal number. -/
def readFloat (s : List Char) : Except Fault Binary64 := require (Number.readDecimal? s)

/-- The sum of parts, latest first, that count `base`, sixty times `base`, and so on. What a part
counts has to be within the range of the numbers. -/
def sexagesimalFloat (base : Nat) (acc : Binary64) : List Binary64 → Except Fault Binary64
  | [] => .ok acc
  | x :: rest =>
    let weight := Binary64.ofInt base
    if weight.isFinite then sexagesimalFloat (60 * base) (acc.add (x.multiply weight)) rest
    else .error (.scalar .tooManySixtieths)

/-- The number that a text without sign and underscores is. -/
def unsignedFloat (s : List Char) : Except Fault Binary64 :=
  if s = ['.', 'i', 'n', 'f'] then .ok (.infinite false)
  else if s = ['.', 'n', 'a', 'n'] then .ok .nan
  else if s.contains ':' then
    match (Tag.splitColons s).mapM readFloat with
    | .ok parts => sexagesimalFloat 1 (.finite false 0 0) parts.reverse
    | .error f => .error f
  else readFloat s

/-- The number that a text is. -/
def float (text : List Char) : Except Fault Value :=
  match Text.LetterCase.lower (dropUnderscores text) with
  | [] => .error (.scalar .emptyNumber)
  | c :: rest =>
    let unsigned := if c = '+' ∨ c = '-' then rest else c :: rest
    (unsignedFloat unsigned).map fun x => .float (if c = '-' then x.negate else x)

/-! ## Switches, stamps and bytes -/

/-- The switch that a text is. -/
def bool (text : List Char) : Except Fault Value :=
  let word := String.ofList (Text.LetterCase.lower text)
  if word == "yes" || word == "true" || word == "on" then .ok (.bool true)
  else if word == "no" || word == "false" || word == "off" then .ok (.bool false)
  else .error (.scalar (.unknownSwitch word))

/-- The day or moment that a text is. -/
def timestamp (text : List Char) : Except Fault Value :=
  match Stamp.read? text with
  | none => .error (.scalar .formlessStamp)
  | some stamp =>
    match stamp.time with
    | none => if stamp.day.isValid then .ok (.date stamp.day) else .error .malformed
    | some t =>
      let m := Stamp.moment stamp.day t
      if m.isValid then .ok (.moment m) else .error .malformed

/-- The value of a character of base 64. -/
def sextet? (c : Char) : Option Nat :=
  let n := c.toNat
  if 65 ≤ n ∧ n ≤ 90 then some (n - 65)
  else if 97 ≤ n ∧ n ≤ 122 then some (n - 71)
  else if 48 ≤ n ∧ n ≤ 57 then some (n + 4)
  else if c = '+' then some 62
  else if c = '/' then some 63
  else none

/-- Bytes in base 64. `place` counts the characters of a group of four that are read, `left` holds
the bits that they leave, and `pads` counts the equals signs behind them. Other characters do not
count; a group that is cut off is refused. -/
def bytesFrom? (place left pads : Nat) : List Char → Option (List UInt8)
  | [] => if place = 0 then some [] else none
  | c :: rest =>
    if c = '=' then
      if 2 ≤ place then
        if 4 ≤ place + pads + 1 then some [] else bytesFrom? place left (pads + 1) rest
      else bytesFrom? place left pads rest
    else
      match sextet? c with
      | none => bytesFrom? place left pads rest
      | some n =>
        match place with
        | 0 => bytesFrom? 1 n 0 rest
        | 1 => (bytesFrom? 2 (n % 16) 0 rest).map (UInt8.ofNat (left * 4 + n / 16) :: ·)
        | 2 => (bytesFrom? 3 (n % 4) 0 rest).map (UInt8.ofNat (left * 16 + n / 4) :: ·)
        | _ => (bytesFrom? 0 0 0 rest).map (UInt8.ofNat (left * 64 + n) :: ·)

/-- The bytes that a text is. -/
def binary (text : List Char) : Except Fault Value :=
  if text.all fun c => decide (c.toNat < 128) then
    (require (bytesFrom? 0 0 0 text)).map Value.bytes
  else .error .malformed

end ScalarValue

/-- The value of a text as a scalar of a kind; kinds of collections have no scalars. -/
def scalarValue (tag : Tag) (text : List Char) : Except Fault Value :=
  match tag with
  | .null => .ok .null
  | .bool => ScalarValue.bool text
  | .int => ScalarValue.int text
  | .float => ScalarValue.float text
  | .binary => ScalarValue.binary text
  | .timestamp => ScalarValue.timestamp text
  | .str => .ok (.text (String.ofList text))
  | _ => .error .malformed

end OpcodeAtlas.Yaml
