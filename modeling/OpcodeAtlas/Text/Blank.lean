import OpcodeAtlas.Text.CodeRange

/-!
# Blank characters

The white space of Unicode 14 together with the four information separators U+001C to U+001F:
29 characters. Blanks separate the words of a program and are trimmed from both ends of a comment,
a message, a code and a setting.
-/

set_option autoImplicit false

namespace OpcodeAtlas.Text

/-- The blank code points. -/
def blankRanges : List CodeRange :=
  [
    (0x0009, 0x000d), (0x001c, 0x0020), (0x0085, 0x0085), (0x00a0, 0x00a0), (0x1680, 0x1680),
    (0x2000, 0x200a), (0x2028, 0x2029), (0x202f, 0x202f), (0x205f, 0x205f), (0x3000, 0x3000)
  ]

/-- Whether a character is blank. -/
def isBlank (c : Char) : Bool := CodeRange.covers blankRanges c.toNat

/-- A text without the characters of a class at its end. -/
def dropEndWhile (p : Char → Bool) : List Char → List Char
  | [] => []
  | c :: rest =>
    match dropEndWhile p rest with
    | [] => if p c then [] else [c]
    | kept => c :: kept

/-- A text without the blanks at its two ends. -/
def trim (s : List Char) : List Char := dropEndWhile isBlank (s.dropWhile isBlank)

/-- A string without the blanks at its two ends. -/
def trimString (s : String) : String := String.ofList (trim s.toList)

/-- Whether a text holds nothing but blanks. -/
def allBlank (s : List Char) : Bool := s.all isBlank

end OpcodeAtlas.Text
