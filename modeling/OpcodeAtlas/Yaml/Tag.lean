import OpcodeAtlas.Yaml.Stamp

/-!
# Kinds of YAML nodes

A tag tells the kind of a node. A plain scalar without one gets its kind from its text
(`Tag.ofPlain`): null, a switch, a number, a stamp, or else a text. The forms are tried in a fixed
order, and each has to match the whole text, a line feed at its end aside.
-/

set_option autoImplicit false

namespace OpcodeAtlas.Yaml

/-- A kind of nodes. -/
inductive Tag where
  | null
  | bool
  | int
  | float
  | binary
  | timestamp
  | omap
  | pairs
  | set
  | str
  | seq
  | map
  /-- The key under which a mapping takes in others. -/
  | merge
  /-- The key under which a mapping holds the scalar that it stands for. -/
  | value
  /-- Any other tag; no value has it. -/
  | unknown
  deriving DecidableEq, Repr

namespace Tag

/-- The address that the common tags start with. -/
def common : String := "tag:yaml.org,2002:"

/-- The common tags by the rest of their address. -/
def named : List (String × Tag) :=
  [("null", .null), ("bool", .bool), ("int", .int), ("float", .float), ("binary", .binary),
    ("timestamp", .timestamp), ("omap", .omap), ("pairs", .pairs), ("set", .set), ("str", .str),
    ("seq", .seq), ("map", .map), ("merge", .merge), ("value", .value)]

/-- The tag with an address. -/
def ofAddress (s : List Char) : Tag :=
  ((named.find? fun t => (common ++ t.1).toList == s).map (·.2)).getD .unknown

/-- Whether nodes of a kind are collections. -/
def isCollection (t : Tag) : Bool := [Tag.seq, .map, .set, .omap, .pairs].contains t

/-- Whether nodes of a kind are scalars. -/
def isScalar (t : Tag) : Bool :=
  [Tag.null, .bool, .int, .float, .binary, .timestamp, .str].contains t

/-! ## Forms of plain scalars -/

/-- Whether a character is an ASCII digit below a base. -/
def isDigitBelow (base : Nat) (c : Char) : Bool :=
  decide (48 ≤ c.toNat) && decide (c.toNat < 48 + base)

/-- Whether a character is a digit below a base or an underscore. -/
def isSpacedDigit (base : Nat) (c : Char) : Bool := isDigitBelow base c || c == '_'

/-- A text without a sign in front. -/
def dropSign : List Char → List Char
  | [] => []
  | c :: rest => if c = '+' ∨ c = '-' then rest else c :: rest

/-- Whether a text is a row of digits and underscores that a digit of the given kind starts. -/
def isRow (first : Char → Bool) : List Char → Bool
  | [] => false
  | c :: rest => first c && rest.all (isSpacedDigit 10)

/-- Whether a text is empty or an exponent with a sign. -/
def isExponent : List Char → Bool
  | [] => true
  | e :: sign :: digits =>
    (e == 'e' || e == 'E') && (sign == '+' || sign == '-') && !digits.isEmpty &&
      digits.all (isDigitBelow 10)
  | _ => false

/-- Whether a text is one or two digits below sixty. -/
def isSixtieth : List Char → Bool
  | [a] => isDigitBelow 10 a
  | [a, b] => isDigitBelow 6 a && isDigitBelow 10 b
  | _ => false

/-- The parts of a text between colons. -/
def splitColons : List Char → List (List Char)
  | [] => [[]]
  | c :: rest =>
    match splitColons rest with
    | [] => [[]]
    | part :: parts => if c = ':' then [] :: part :: parts else (c :: part) :: parts

/-- Whether a text is a row of digits, followed by parts below sixty behind colons. -/
def isSexagesimal (first : Char → Bool) (s : List Char) : Bool :=
  match splitColons s with
  | head :: part :: parts => isRow first head && (part :: parts).all isSixtieth
  | _ => false

/-- The words for a switch. -/
def switchWords : List String :=
  ["yes", "Yes", "YES", "no", "No", "NO", "true", "True", "TRUE", "false", "False", "FALSE",
    "on", "On", "ON", "off", "Off", "OFF"]

/-- The words for null. -/
def nullWords : List String := ["~", "null", "Null", "NULL", ""]

/-- Whether a text is one of the words. -/
def isOneOf (words : List String) (s : List Char) : Bool := words.any fun w => w.toList == s

/-- Whether a text has the form of a number with a fraction. -/
def isFloat (s : List Char) : Bool :=
  let unsigned := dropSign s
  let whole := unsigned.takeWhile (· ≠ '.')
  let behind := (unsigned.dropWhile (· ≠ '.')).drop 1
  let hasPoint := unsigned.contains '.'
  let digit := isDigitBelow 10
  let fraction := behind.takeWhile (isSpacedDigit 10)
  let exponent := behind.drop fraction.length
  (hasPoint && isRow digit whole && isExponent exponent) ||
    (hasPoint && s.head? == some '.' && isRow digit fraction && isExponent exponent) ||
    (hasPoint && exponent.isEmpty && isSexagesimal digit whole) ||
    isOneOf [".inf", ".Inf", ".INF"] unsigned || isOneOf [".nan", ".NaN", ".NAN"] s

/-- Whether a text has the form of a whole number. -/
def isInt (s : List Char) : Bool :=
  let unsigned := dropSign s
  let nonZero := fun c => isDigitBelow 10 c && c != '0'
  (match unsigned with
    | ['0'] => true
    | '0' :: 'b' :: rest => !rest.isEmpty && rest.all (isSpacedDigit 2)
    | '0' :: 'x' :: rest => !rest.isEmpty && rest.all isHex
    | '0' :: rest => rest.all (isSpacedDigit 8)
    | _ => isRow nonZero unsigned) ||
    isSexagesimal nonZero unsigned
where
  /-- Whether a character is a hexadecimal digit or an underscore. -/
  isHex (c : Char) : Bool :=
    isSpacedDigit 10 c || (decide (65 ≤ c.toNat) && decide (c.toNat ≤ 70)) ||
      (decide (97 ≤ c.toNat) && decide (c.toNat ≤ 102))

/-- The kind of a plain scalar. -/
def ofPlain (text : List Char) : Tag :=
  let s := Stamp.dropLineFeed text
  if isOneOf switchWords s then .bool
  else if isFloat s then .float
  else if isInt s then .int
  else if s = ['<', '<'] then .merge
  else if isOneOf nullWords s ∧ (s ≠ [] ∨ text = []) then .null
  else if Stamp.isPlain s then .timestamp
  else if s = ['='] then .value
  else if s = ['!'] ∨ s = ['&'] ∨ s = ['*'] then .unknown
  else .str

end Tag

end OpcodeAtlas.Yaml
