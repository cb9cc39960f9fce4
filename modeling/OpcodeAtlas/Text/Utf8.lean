import OpcodeAtlas.Text.Quoted

/-!
# UTF-8

Bytes are read as UTF-8 one character at a time. Where they are ill-formed, the reading stops at
the longest start of a character that they hold (`Flaw`): the strict reading reports it with its
place, the lenient one puts the replacement character there and goes on behind it.
-/

set_option autoImplicit false

namespace OpcodeAtlas.Text.Utf8

/-- Why bytes are not a character. -/
inductive Reason where
  | badStart
  | badContinuation
  | cutOff
  deriving DecidableEq, Repr

/-- Ill-formed bytes: how many of them belong to the flaw, and what is wrong. -/
structure Flaw where
  length : Nat
  reason : Reason
  deriving DecidableEq, Repr

/-- Whether a byte continues a character. -/
def isContinuation (b : UInt8) : Bool := decide (0x80 ≤ b.toNat) && decide (b.toNat < 0xc0)

/-- The six bits that a continuation byte carries. -/
def low6 (b : UInt8) : Nat := b.toNat % 64

/-- Read the continuation bytes `taken + 1`, …, of a character of which `taken` bytes have been
read: `wanted` more, onto the bits in `acc`. `accepts` restricts the first of them. -/
def continuations (accepts : UInt8 → Bool) :
    (wanted taken acc : Nat) → List UInt8 → Except Flaw (Nat × List UInt8)
  | 0, _, acc, rest => .ok (acc, rest)
  | _ + 1, taken, _, [] => .error ⟨taken, .cutOff⟩
  | wanted + 1, taken, acc, b :: rest =>
    if isContinuation b && accepts b then
      continuations (fun _ => true) wanted (taken + 1) (64 * acc + low6 b) rest
    else .error ⟨taken, .badContinuation⟩

/-- The first continuation bytes that a leading byte admits: they keep out overlong forms,
surrogates and numbers past U+10FFFF. -/
def admits (lead second : UInt8) : Bool :=
  match lead.toNat with
  | 0xe0 => decide (0xa0 ≤ second.toNat)
  | 0xed => decide (second.toNat < 0xa0)
  | 0xf0 => decide (0x90 ≤ second.toNat)
  | 0xf4 => decide (second.toNat < 0x90)
  | _ => true

/-- How many bytes follow a leading byte, and the bits that it carries itself. -/
def leading? (b : UInt8) : Option (Nat × Nat) :=
  let n := b.toNat
  if n < 0x80 then some (0, n)
  else if n < 0xc2 then none
  else if n < 0xe0 then some (1, n - 0xc0)
  else if n < 0xf0 then some (2, n - 0xe0)
  else if n < 0xf5 then some (3, n - 0xf0)
  else none

/-- A character read from bytes: its code point, the number of its bytes and the bytes behind it. -/
structure Character where
  code : Nat
  width : Nat
  rest : List UInt8
  deriving DecidableEq, Repr

/-- The first character of a non-empty byte string. -/
def first (b : UInt8) (rest : List UInt8) : Except Flaw Character :=
  match leading? b with
  | none => .error ⟨1, .badStart⟩
  | some (wanted, bits) =>
    (continuations (admits b) wanted 1 bits rest).map fun r => ⟨r.1, wanted + 1, r.2⟩

/-- Ill-formed bytes with their place: the offset of the first, the byte there, and the flaw. -/
structure Malformed where
  position : Nat
  byte : UInt8
  flaw : Flaw
  deriving DecidableEq, Repr

/-- Read bytes strictly; `fuel` bounds the number of characters and `position` counts the bytes
already read. -/
def decodeFrom : (fuel position : Nat) → List UInt8 → Except Malformed (List Char)
  | _, _, [] => .ok []
  | 0, _, _ :: _ => .ok []
  | fuel + 1, position, b :: rest =>
    match first b rest with
    | .error flaw => .error ⟨position, b, flaw⟩
    | .ok c => (decodeFrom fuel (position + c.width) c.rest).map (Char.ofNat c.code :: ·)

/-- Read bytes strictly. A character takes at least one byte, so the fuel suffices. -/
def decode (bytes : List UInt8) : Except Malformed (List Char) :=
  decodeFrom bytes.length 0 bytes

/-- The character that stands for ill-formed bytes. -/
def replacement : Char := Char.ofNat 0xfffd

/-- Read bytes leniently, with the given fuel. -/
def decodeLossyFrom : Nat → List UInt8 → List Char
  | _, [] => []
  | 0, _ :: _ => []
  | fuel + 1, b :: rest =>
    match first b rest with
    | .error flaw => replacement :: decodeLossyFrom fuel ((b :: rest).drop flaw.length)
    | .ok c => Char.ofNat c.code :: decodeLossyFrom fuel c.rest

/-- Read bytes, with one replacement character for each run of ill-formed bytes. -/
def decodeLossy (bytes : List UInt8) : List Char := decodeLossyFrom bytes.length bytes

/-- The bytes of one character. -/
def encodeChar (c : Char) : List UInt8 :=
  let n := c.toNat
  if n < 0x80 then [UInt8.ofNat n]
  else if n < 0x800 then [UInt8.ofNat (0xc0 + n / 64), UInt8.ofNat (0x80 + n % 64)]
  else if n < 0x10000 then
    [UInt8.ofNat (0xe0 + n / 4096), UInt8.ofNat (0x80 + n / 64 % 64), UInt8.ofNat (0x80 + n % 64)]
  else
    [UInt8.ofNat (0xf0 + n / 262144), UInt8.ofNat (0x80 + n / 4096 % 64),
      UInt8.ofNat (0x80 + n / 64 % 64), UInt8.ofNat (0x80 + n % 64)]

/-- The bytes of a text. -/
def encode (s : List Char) : List UInt8 := s.flatMap encodeChar

/-- The bytes of a string. -/
def encodeString (s : String) : List UInt8 := encode s.toList

/-- The wording of a reason. -/
def Reason.text : Reason → String
  | .badStart => "invalid start byte"
  | .badContinuation => "invalid continuation byte"
  | .cutOff => "unexpected end of data"

/-- The wording of a flaw at its place. A flaw of one byte shows the byte. -/
def Malformed.message (m : Malformed) : String :=
  let place :=
    if m.flaw.length ≤ 1 then
      "byte 0x" ++ String.ofList (hexDigits 2 m.byte.toNat) ++ " in position " ++
        toString m.position
    else
      "bytes in position " ++ toString m.position ++ "-" ++
        toString (m.position + m.flaw.length - 1)
  "'utf-8' codec can't decode " ++ place ++ ": " ++ m.flaw.reason.text

end OpcodeAtlas.Text.Utf8
