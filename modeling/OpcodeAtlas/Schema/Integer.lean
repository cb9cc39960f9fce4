import OpcodeAtlas.Schema.Issue
import OpcodeAtlas.Text.Digit

/-!
# Whole numbers as text

A whole number is written in standard form: ASCII digits without needless zeros in front, behind a
minus sign or not (`Integer.ofStandard`). A text in another form is brought into that form first
(`Integer.standardForm?`): blanks around it, a plus sign, zeros in front, a point with zeros behind
it and single underscores are taken away. Among the zeros in front, underscores do not count at
all, and a sign may still follow them.
-/

set_option autoImplicit false

namespace OpcodeAtlas.Schema.Integer

/-- A minus sign, if there is one, and what follows it. -/
def splitMinus : List Char → Bool × List Char
  | '-' :: rest => (true, rest)
  | rest => (false, rest)

/-- The whole number that a text in standard form is. A row of digits which is too long together
with its sign is told apart even if something else follows it. -/
def ofStandard (s : List Char) : Checked Int :=
  let (negative, unsigned) := splitMinus s
  let digits := unsigned.takeWhile Text.isPlainDigit
  let isWhole := digits.length == unsigned.length
  match digits with
  | [] => Checked.refuse .unreadableInteger
  | '0' :: more =>
    if isWhole && more.isEmpty then .ok 0 else Checked.refuse .unreadableInteger
  | _ =>
    if digitLimit < digits.length + (if negative then 1 else 0) then
      Checked.refuse .oversizedInteger
    else if isWhole then
      let n : Int := Text.basedValue 10 digits
      .ok (if negative then -n else n)
    else Checked.refuse .unreadableInteger

/-- Whether a number goes on with a character once its zeros in front are over. -/
def startsNumber (c : Char) : Bool := c == '-' || (Text.isPlainDigit c && c != '0')

/-- What follows zeros and underscores, the last of which is given; it is kept in front of a point
and at the end. -/
def dropZeros? (last : Char) : List Char → Option (List Char)
  | [] => some [last]
  | c :: rest =>
    if c = '0' ∨ c = '_' then dropZeros? c rest
    else if startsNumber c then some (c :: rest)
    else if c = '.' then some (last :: c :: rest)
    else none

/-- A number without needless zeros in front. -/
def dropLeadingZeros? : List Char → Option (List Char)
  | [] => none
  | c :: rest =>
    if c = '0' then dropZeros? c rest
    else if startsNumber c then some (c :: rest)
    else none

/-- A text without a point and the zeros behind it; at least one has to follow the point. -/
def dropZeroFraction (s : List Char) : List Char :=
  match s.dropWhile (· ≠ '.') with
  | _ :: zero :: zeros =>
    if (zero :: zeros).all (· == '0') then s.takeWhile (· ≠ '.') else s
  | _ => s

/-- Whether two underscores of a text meet or one is at its end; `before` tells that one stands in
front of it. -/
def hasLooseUnderscore (before : Bool) : List Char → Bool
  | [] => before
  | c :: rest =>
    if c = '_' then before || hasLooseUnderscore true rest else hasLooseUnderscore false rest

/-- A text without its underscores, unless one of them is loose. -/
def dropUnderscores (s : List Char) : List Char :=
  if hasLooseUnderscore true s then s else s.filter (· ≠ '_')

/-- The standard form of a text, if its start can be brought into one. -/
def standardForm? (s : List Char) : Option (List Char) :=
  let (negative, unsigned) := Number.splitSign (Number.trimPadding s)
  (dropLeadingZeros? unsigned).map fun number =>
    let digits := dropUnderscores (dropZeroFraction number)
    if negative then '-' :: digits else digits

/-- The whole number that a text is. -/
def ofText (s : List Char) : Checked Int :=
  match ofStandard s with
  | .ok n => .ok n
  | .error issues =>
    if issues = [⟨[], .oversizedInteger⟩] then .error issues
    else
      match standardForm? s with
      | some t => ofStandard t
      | none => Checked.refuse .unreadableInteger

end OpcodeAtlas.Schema.Integer
