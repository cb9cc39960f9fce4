import OpcodeAtlas.Text.Blank
import OpcodeAtlas.Text.Line

/-!
# The layout of a page

A documentation page starts with a header between two lines of three hyphens; its body follows.
`PageLayout.ofText` cuts a text into these parts, with the byte order marks and the blank lines in
front of them, and loses nothing: the parts concatenate to the text (`ofText_text`).
-/

set_option autoImplicit false

namespace OpcodeAtlas

/-- Why a text has no header. -/
inductive LayoutFault where
  /-- The first line that is not blank does not open one. -/
  | missingHeader
  /-- No line closes it. -/
  | unterminatedHeader
  deriving DecidableEq, Repr

/-- The parts of a page, in order. -/
structure PageLayout where
  marks : List Char
  blanks : List Char
  opening : List Char
  header : List Char
  closing : List Char
  body : List Char
  deriving DecidableEq, Repr

namespace PageLayout

/-- The text that the parts make up. -/
def text (p : PageLayout) : List Char :=
  p.marks ++ p.blanks ++ p.opening ++ p.header ++ p.closing ++ p.body

/-- The delimiter of a header. -/
def delimiter : List Char := ['-', '-', '-']

/-- Whether a line delimits a header: blanks around the delimiter do not count. -/
def isDelimiter (line : List Char) : Bool := Text.trim line == delimiter

/-- Whether a character is a byte order mark. -/
def isMark (c : Char) : Bool := c.toNat == 0xfeff

/-- Cut the lines behind an opening delimiter. -/
def ofRest (marks blanks opening : List Char) (rest : List (List Char)) :
    Except LayoutFault PageLayout :=
  match rest.dropWhile (!isDelimiter ·) with
  | [] => .error .unterminatedHeader
  | closing :: body =>
    .ok ⟨marks, blanks, opening, (rest.takeWhile (!isDelimiter ·)).flatten, closing, body.flatten⟩

/-- Cut a text. -/
def ofText (text : List Char) : Except LayoutFault PageLayout :=
  let lines := Text.lines (text.dropWhile isMark)
  match lines.dropWhile Text.allBlank with
  | [] => .error .missingHeader
  | opening :: rest =>
    if isDelimiter opening then
      ofRest (text.takeWhile isMark) (lines.takeWhile Text.allBlank).flatten opening rest
    else .error .missingHeader

/-- The lines behind an opening delimiter are cut without loss. -/
theorem ofRest_text {marks blanks opening : List Char} {rest : List (List Char)} {p : PageLayout}
    (h : ofRest marks blanks opening rest = .ok p) :
    p.text = marks ++ blanks ++ opening ++ rest.flatten := by
  unfold ofRest at h
  split at h
  · cases h
  · next closing body found =>
    have whole := congrArg List.flatten
      (List.takeWhile_append_dropWhile (p := (!isDelimiter ·)) (l := rest))
    rw [found] at whole
    cases h
    simp only [text, ← whole, List.flatten_append, List.flatten_cons, List.append_assoc]

/-- The parts of a page make up its text. -/
theorem ofText_text {s : List Char} {p : PageLayout} (h : ofText s = .ok p) : p.text = s := by
  unfold ofText at h
  simp only at h
  split at h
  · cases h
  · next opening rest found =>
    split at h
    · have whole := congrArg List.flatten (List.takeWhile_append_dropWhile
        (p := Text.allBlank) (l := Text.lines (s.dropWhile isMark)))
      rw [found, Text.lines_flatten, List.flatten_append, List.flatten_cons] at whole
      rw [ofRest_text h, List.append_assoc, List.append_assoc, ← List.append_assoc _ opening,
        List.append_assoc _ opening, whole, List.takeWhile_append_dropWhile]
    · cases h

end PageLayout

end OpcodeAtlas
