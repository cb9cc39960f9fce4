import OpcodeAtlas.Text.Blank

/-!
# Lines of a text

A text is cut into lines after each line boundary: a line feed, a carriage return (one boundary
with a line feed that follows it), the vertical tab, the form feed, the separators U+001C to
U+001E, the next-line control and the line and paragraph separators. Every line keeps its
boundary, so the lines of a text concatenate to the text.

Files use the narrower notion of a line end: `unifyEnds` turns a carriage return, with a line feed
that follows it or alone, into one line feed.
-/

set_option autoImplicit false

namespace OpcodeAtlas.Text

/-- The code points that end a line. -/
def boundaryCodes : List Nat :=
  [0x0a, 0x0b, 0x0c, 0x0d, 0x1c, 0x1d, 0x1e, 0x85, 0x2028, 0x2029]

/-- Whether a character ends a line. -/
def isBoundary (c : Char) : Bool := boundaryCodes.contains c.toNat

/-- Put a character in front of the first line. -/
def consLine (c : Char) : List (List Char) → List (List Char)
  | [] => [[c]]
  | l :: ls => (c :: l) :: ls

/-- The lines of a text, each with its boundary. -/
def lines : List Char → List (List Char)
  | [] => []
  | c :: rest =>
    if c = '\r' then
      match rest with
      | '\n' :: _ => consLine c (lines rest)
      | _ => [c] :: lines rest
    else if isBoundary c then [c] :: lines rest
    else consLine c (lines rest)

/-- Putting a character in front of the first line puts it in front of the text. -/
theorem consLine_flatten (c : Char) (ls : List (List Char)) :
    (consLine c ls).flatten = c :: ls.flatten := by
  cases ls <;> simp [consLine]

/-- The lines of a text concatenate to the text. -/
theorem lines_flatten (s : List Char) : (lines s).flatten = s := by
  fun_induction lines s <;> simp_all [consLine_flatten]

/-- Whether a character is a carriage return or a line feed. -/
def isLineEnd (c : Char) : Bool := c == '\r' || c == '\n'

/-- A line without the carriage returns and line feeds at its end. -/
def body (s : List Char) : List Char := dropEndWhile isLineEnd s

/-- A text with each line end written as one line feed. -/
def unifyEnds : List Char → List Char
  | [] => []
  | c :: rest =>
    if c = '\r' then
      match rest with
      | '\n' :: _ => unifyEnds rest
      | _ => '\n' :: unifyEnds rest
    else c :: unifyEnds rest

end OpcodeAtlas.Text
