import OpcodeAtlas.Text.Printed
import OpcodeAtlas.Text.Surrogate

/-!
# Quoted text

The one-line form in which messages show a text: between quotes, with every character that has no
printed form spelled by a backslash escape. The quotes are single unless the text itself holds a
single quote and no double one.
-/

set_option autoImplicit false

namespace OpcodeAtlas.Text

/-- The single quote. -/
def singleQuote : Char := Char.ofNat 39

/-- The double quote. -/
def doubleQuote : Char := Char.ofNat 34

/-- One lower-case hexadecimal digit. -/
def hexDigit (n : Nat) : Char :=
  if n < 10 then Char.ofNat (48 + n) else Char.ofNat (87 + n)

/-- The last `width` hexadecimal digits of a number, leading zeros kept. -/
def hexDigits : Nat → Nat → List Char
  | 0, _ => []
  | width + 1, n => hexDigits width (n / 16) ++ [hexDigit (n % 16)]

/-- The form of one character between quotes of the given kind. -/
def quotedChar (quote c : Char) : List Char :=
  if c = quote ∨ c = '\\' then ['\\', c]
  else if c = '\t' then ['\\', 't']
  else if c = '\n' then ['\\', 'n']
  else if c = '\r' then ['\\', 'r']
  else if isPrinted c then [c]
  else
    let n := codePoint c
    if n ≤ 0xff then ['\\', 'x'] ++ hexDigits 2 n
    else if n ≤ 0xffff then ['\\', 'u'] ++ hexDigits 4 n
    else ['\\', 'U'] ++ hexDigits 8 n

/-- The quote that a text is written between. -/
def quoteFor (s : List Char) : Char :=
  if s.contains singleQuote && !s.contains doubleQuote then doubleQuote else singleQuote

/-- The quoted form of a text. -/
def quoted (s : List Char) : List Char :=
  quoteFor s :: s.flatMap (quotedChar (quoteFor s)) ++ [quoteFor s]

/-- The quoted form of a string. -/
def quotedString (s : String) : String := String.ofList (quoted s.toList)

/-- The wording of a text that cannot be encoded. -/
def Unencodable.message (u : Unencodable) : String :=
  let place :=
    if u.length = 1 then
      "character '" ++ String.ofList (quotedChar singleQuote u.first) ++ "' in position " ++
        toString u.position
    else
      "characters in position " ++ toString u.position ++ "-" ++
        toString (u.position + u.length - 1)
  "'utf-8' codec can't encode " ++ place ++ ": surrogates not allowed"

/-- The form of one byte in a quoted byte string. -/
def quotedByte (quote : Char) (b : UInt8) : List Char :=
  let c := Char.ofNat b.toNat
  if c = quote ∨ c = '\\' then ['\\', c]
  else if c = '\t' then ['\\', 't']
  else if c = '\n' then ['\\', 'n']
  else if c = '\r' then ['\\', 'r']
  else if b.toNat < 32 ∨ 127 ≤ b.toNat then ['\\', 'x'] ++ hexDigits 2 b.toNat
  else [c]

/-- The quoted form of a byte string: the letter b, then the bytes between quotes. -/
def quotedBytes (bs : List UInt8) : List Char :=
  let quote := quoteFor (bs.map fun b => Char.ofNat b.toNat)
  'b' :: quote :: bs.flatMap (quotedByte quote) ++ [quote]

end OpcodeAtlas.Text
