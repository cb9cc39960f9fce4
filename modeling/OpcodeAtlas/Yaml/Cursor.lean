import OpcodeAtlas.Text.Digit
import OpcodeAtlas.Text.Surrogate

/-!
# Places in a YAML text

A `Cursor` is the text that is left to read with the line and column it starts at. A line ends at a
line feed, a carriage return (one end with a line feed behind it), the next-line control, or the
line or paragraph separator; the latter two are kept where a line end is kept, the others become
line feeds. The byte order mark takes up no column.
-/

set_option autoImplicit false

namespace OpcodeAtlas.Yaml

/-! ## Characters -/

/-- Whether a character ends a line. -/
def isBreak (c : Char) : Bool :=
  c == '\n' || c == '\r' || c.toNat == 0x85 || c.toNat == 0x2028 || c.toNat == 0x2029

/-- Whether a character is a blank or a tab. -/
def isBlankOrTab (c : Char) : Bool := c == ' ' || c == '\t'

/-- Whether a character may occur in a YAML text. -/
def isAllowed (c : Char) : Bool :=
  let n := Text.codePoint c
  n == 0x09 || n == 0x0a || n == 0x0d || (decide (0x20 ≤ n) && decide (n ≤ 0x7e)) || n == 0x85 ||
    (decide (0xa0 ≤ n) && decide (n ≤ 0xd7ff)) || (decide (0xe000 ≤ n) && decide (n ≤ 0xfffd)) ||
    decide (0x10000 ≤ n)

/-- Whether a text starts with a line end or is over. -/
def atLineEnd : List Char → Bool
  | [] => true
  | c :: _ => isBreak c

/-- Whether a text starts with a blank or a line end or is over. -/
def atBlank : List Char → Bool
  | [] => true
  | c :: _ => c == ' ' || isBreak c

/-- Whether a text starts with a blank, a tab or a line end or is over. -/
def atGap : List Char → Bool
  | [] => true
  | c :: _ => c == ' ' || c == '\t' || isBreak c

/-- Whether a text starts with one of the characters. -/
def startsWithAny (choices : List Char) : List Char → Bool
  | [] => false
  | c :: _ => choices.contains c

/-- Whether a text starts with three of a character and a gap. -/
def startsWithMark (c : Char) : List Char → Bool
  | a :: b :: d :: rest => a == c && b == c && d == c && atGap rest
  | _ => false

/-- Whether a text starts with the mark that opens or the mark that closes a document. -/
def startsWithDocumentMark (s : List Char) : Bool := startsWithMark '-' s || startsWithMark '.' s

/-- Whether a character may occur in the name of an anchor or a handle. -/
def isNameChar (c : Char) : Bool :=
  let n := c.toNat
  (decide (48 ≤ n) && decide (n ≤ 57)) || (decide (65 ≤ n) && decide (n ≤ 90)) ||
    (decide (97 ≤ n) && decide (n ≤ 122)) || c == '-' || c == '_'

/-- The number that the first `count` characters are in hexadecimal. -/
def hexNumber? : (count acc : Nat) → List Char → Option Nat
  | 0, acc, _ => some acc
  | _ + 1, _, [] => none
  | count + 1, acc, c :: rest =>
    match Text.hexValue? c with
    | some d => hexNumber? count (16 * acc + d) rest
    | none => none

/-! ## Cursors -/

/-- The text that is left with its place. -/
structure Cursor where
  rest : List Char
  index : Nat := 0
  line : Nat := 0
  column : Nat := 0
  deriving DecidableEq, Repr

namespace Cursor

/-- Move behind one character. -/
def step (cur : Cursor) : Cursor :=
  match cur.rest with
  | [] => cur
  | c :: rest =>
    if isBreak c && !(c == '\r' && rest.head? == some '\n') then
      ⟨rest, cur.index + 1, cur.line + 1, 0⟩
    else if c.toNat = 0xfeff then ⟨rest, cur.index + 1, cur.line, cur.column⟩
    else ⟨rest, cur.index + 1, cur.line, cur.column + 1⟩

/-- Move behind a number of characters. -/
def advance : Nat → Cursor → Cursor
  | 0, cur => cur
  | n + 1, cur => advance n cur.step

/-- Move behind the characters of a class. -/
def skipWhile (p : Char → Bool) (cur : Cursor) : Cursor :=
  cur.advance (cur.rest.takeWhile p).length

/-- Move to the end of the line. -/
def skipLine (cur : Cursor) : Cursor := cur.skipWhile (!isBreak ·)

/-- Move behind a line end, if there is one; the text that it is kept as. -/
def takeBreak (cur : Cursor) : List Char × Cursor :=
  match cur.rest with
  | [] => ([], cur)
  | c :: rest =>
    if c = '\r' ∧ rest.head? = some '\n' then (['\n'], cur.advance 2)
    else if c.toNat = 0x2028 ∨ c.toNat = 0x2029 then ([c], cur.step)
    else if isBreak c then (['\n'], cur.step)
    else ([], cur)

/-- Move behind blanks and a comment up to the line end, and behind the line end; nothing else
may stand there. -/
def finishLine? (cur : Cursor) : Option Cursor :=
  let behind := cur.skipWhile (· == ' ')
  let behind := if startsWithAny ['#'] behind.rest then behind.skipLine else behind
  if atLineEnd behind.rest then some behind.takeBreak.2 else none

end Cursor

end OpcodeAtlas.Yaml
