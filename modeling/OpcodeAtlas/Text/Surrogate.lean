/-!
# Surrogates

A text may spell a surrogate, one of the code points from U+D800 to U+DFFF, which stand for no
character by themselves. A surrogate in a text is held by a character of the last private-use plane,
one of U+10D800 to U+10DFFF (`holderOf`); `codePoint` tells the code point that a character is or
holds.

A text with surrogates cannot be encoded, and `Unencodable` tells where it holds them.
-/

set_option autoImplicit false

namespace OpcodeAtlas.Text

/-- The distance from a surrogate to the character that holds it. -/
def holderDistance : Nat := 0x100000

/-- Whether a code point is a surrogate. -/
def isSurrogateCode (n : Nat) : Bool := decide (0xd800 ≤ n) && decide (n ≤ 0xdfff)

/-- The character that is or holds a code point. -/
def holderOf (n : Nat) : Char :=
  if isSurrogateCode n then Char.ofNat (n + holderDistance) else Char.ofNat n

/-- Whether a character holds a surrogate. -/
def isSurrogate (c : Char) : Bool :=
  decide (holderDistance ≤ c.toNat) && isSurrogateCode (c.toNat - holderDistance)

/-- The code point that a character is or holds. -/
def codePoint (c : Char) : Nat := if isSurrogate c then c.toNat - holderDistance else c.toNat

/-- The code points of a text. -/
def codePoints (s : String) : List Nat := s.toList.map codePoint

/-- Where a text holds surrogates: the position of the first one, and the row that it starts. -/
structure Unencodable where
  position : Nat
  first : Char
  length : Nat
  deriving DecidableEq, Repr

/-- The first surrogates of a text behind a position. -/
def unencodableFrom? (position : Nat) : List Char → Option Unencodable
  | [] => none
  | c :: rest =>
    if isSurrogate c then some ⟨position, c, (rest.takeWhile isSurrogate).length + 1⟩
    else unencodableFrom? (position + 1) rest

/-- The first surrogates of a text. -/
def unencodable? (s : List Char) : Option Unencodable := unencodableFrom? 0 s

/-- Whether a text can be encoded. -/
def isEncodable (s : List Char) : Bool := !s.any isSurrogate

end OpcodeAtlas.Text
