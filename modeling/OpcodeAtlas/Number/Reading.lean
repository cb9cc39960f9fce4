import OpcodeAtlas.Number.Binary64
import OpcodeAtlas.Text.Blank
import OpcodeAtlas.Text.Digit
import OpcodeAtlas.Text.Quoted

/-!
# Reading numbers

Whole numbers and decimals as free text: blanks around them do not count, the digits may be those
of any script, and a single underscore may stand between two digits. A whole number is limited to
`digitLimit` digits, zeros in front included, and so is the text that a whole number is written
as.
-/

set_option autoImplicit false

namespace OpcodeAtlas

/-- The greatest number of digits of a whole number that is read or written. -/
def digitLimit : Nat := 4300

/-- Why a text is no whole number, or a whole number has no text. -/
inductive IntegerFault where
  /-- The text, as given, is not a whole number. -/
  | malformed (text : String)
  /-- The text has more digits than the limit. -/
  | tooLong (digits : Nat)
  /-- The number has more digits than the limit. -/
  | unprintable
  deriving DecidableEq, Repr

namespace IntegerFault

/-- The greatest number of characters of a quoted text in a message. -/
def quoteLimit : Nat := 200

/-- The wording of a fault. A long quoted text is cut off. -/
def message : IntegerFault → String
  | .malformed text =>
    "invalid literal for int() with base 10: " ++
      String.ofList ((Text.quoted text.toList).take quoteLimit)
  | .tooLong digits =>
    "Exceeds the limit (" ++ toString digitLimit ++
      " digits) for integer string conversion: value has " ++ toString digits ++
      " digits; use sys.set_int_max_str_digits() to increase the limit"
  | .unprintable =>
    "Exceeds the limit (" ++ toString digitLimit ++
      " digits) for integer string conversion; use sys.set_int_max_str_digits() to " ++
      "increase the limit"

end IntegerFault

namespace Number

open Text

/-- Whether a character may stand around a number: a blank that is no information separator. -/
def isPadding (c : Char) : Bool :=
  isBlank c && !(decide (0x1c ≤ c.toNat) && decide (c.toNat ≤ 0x1f))

/-- A text without the padding at its two ends. -/
def trimPadding (s : List Char) : List Char := dropEndWhile isPadding (s.dropWhile isPadding)

/-- A sign, if there is one, and what follows it. -/
def splitSign : List Char → Bool × List Char
  | '-' :: rest => (true, rest)
  | '+' :: rest => (false, rest)
  | rest => (false, rest)

/-- A row of digits with single underscores between them: the digits, their number and what
follows. The row is refused when two underscores meet or one ends it; `pending` tells that one has
just been read. -/
def digitRow (pending : Bool) (count value : Nat) : List Char → Option (Nat × Nat × List Char)
  | [] => if pending then none else some (count, value, [])
  | c :: rest =>
    if c = '_' then (if pending then none else digitRow true count value rest)
    else
      match digitValue? c with
      | some d => digitRow false (count + 1) (10 * value + d) rest
      | none => if pending then none else some (count, value, c :: rest)

/-- Read a whole number. -/
def readInteger (s : List Char) : Except IntegerFault Int :=
  let refusal := IntegerFault.malformed (String.ofList s)
  let (negative, unsigned) := splitSign (trimPadding s)
  match unsigned with
  | '_' :: _ => .error refusal
  | _ =>
    match digitRow false 0 0 unsigned with
    | none => .error refusal
    | some (count, value, rest) =>
      if digitLimit < count then .error (.tooLong count)
      else if count = 0 then .error refusal
      else if rest.isEmpty then .ok (if negative then -(value : Int) else value)
      else .error refusal

/-- The text of a whole number, within the limit. -/
def writeInteger (n : Int) : Except IntegerFault String :=
  if n.natAbs < Nat.pow 10 digitLimit then .ok (toString n) else .error .unprintable

/-! ## Decimals -/

/-- Drop the underscores of a text, each of which must stand between two digits; `before` tells
whether a digit stands before the rest. -/
def dropSeparators (before : Bool) : List Char → Option (List Char)
  | [] => some []
  | c :: rest =>
    if c = '_' then
      match rest with
      | d :: _ => if before && isDigit d then dropSeparators false rest else none
      | [] => none
    else (dropSeparators (isDigit c) rest).map (c :: ·)

/-- The number with the given digits before and behind the point and the given exponent. -/
def ofParts (negative : Bool) (whole fraction : List Char) (exponent : Int) : Binary64 :=
  Binary64.ofDecimal negative (digitsValue 0 (whole ++ fraction)) (exponent - fraction.length)

/-- An exponent part that takes up the whole rest of a text; an empty rest is the exponent 0. -/
def readExponent? : List Char → Option Int
  | [] => some 0
  | c :: rest =>
    if c = 'e' ∨ c = 'E' then
      let (negative, digits) := splitSign rest
      if digits.isEmpty || !digits.all isDigit then none
      else
        let value : Int := digitsValue 0 digits
        some (if negative then -value else value)
    else none

/-- Whether a text is a word, letter case aside; the word is given in lower case. -/
def isWord (word : String) (s : List Char) : Bool := s.map Char.toLower == word.toList

/-- Read a decimal without separators and padding. -/
def readPlainDecimal? (s : List Char) : Option Binary64 :=
  let (negative, unsigned) := splitSign s
  if isWord "inf" unsigned || isWord "infinity" unsigned then some (.infinite negative)
  else if isWord "nan" unsigned then some .nan
  else
    let whole := unsigned.takeWhile isDigit
    let behind := unsigned.dropWhile isDigit
    let fraction := match behind with
      | '.' :: rest => rest.takeWhile isDigit
      | _ => []
    let rest := match behind with
      | '.' :: rest => rest.dropWhile isDigit
      | rest => rest
    if whole.isEmpty && fraction.isEmpty then none
    else (readExponent? rest).map (ofParts negative whole fraction)

/-- Read a decimal number, an infinity or a NaN. -/
def readDecimal? (s : List Char) : Option Binary64 :=
  (dropSeparators false (trimPadding s)).bind readPlainDecimal?

end Number

end OpcodeAtlas
