import OpcodeAtlas.Text.Blank
import OpcodeAtlas.Text.Digit

/-!
# Lexemes of a program line

A line falls into lexemes: runs of blanks, checksums, comments, words (a letter with or without a
number) and stray characters. `Lexed.next` takes the first lexeme off a non-empty text. Its text
and the rest concatenate to the input (`next_append`), so every lexeme has a text of its own and
nothing is read twice.
-/

set_option autoImplicit false

namespace OpcodeAtlas

open Text

/-- What a lexeme is. -/
inductive Lexeme where
  | blanks
  | checksum
  /-- A comment, without its delimiters. -/
  | remark (note : List Char)
  /-- A letter in upper case, and the text of its number, empty if it has none. -/
  | word (letter : Char) (number : List Char)
  /-- A character that starts no lexeme. -/
  | stray (c : Char)
  deriving DecidableEq, Repr

/-- A lexeme, the text that it was read from, and the text behind it. -/
structure Lexed where
  lexeme : Lexeme
  text : List Char
  rest : List Char
  deriving DecidableEq, Repr

/-- Whether a character is a letter of a word: A to Z in either case. -/
def isWordLetter (c : Char) : Bool :=
  (decide (65 ≤ c.toNat) && decide (c.toNat ≤ 90)) ||
    (decide (97 ≤ c.toNat) && decide (c.toNat ≤ 122))

/-- Whether a character may stand between a letter and its number. -/
def isGap (c : Char) : Bool := c == ' ' || c == '\t'

/-- The longest unsigned number at the start of a text: digits with at most one point among or
behind them, or a point and at least one digit. -/
def unsignedPrefix (s : List Char) : List Char :=
  let whole := s.takeWhile isDigit
  match s.dropWhile isDigit with
  | '.' :: rest =>
    let fraction := rest.takeWhile isDigit
    if whole.isEmpty && fraction.isEmpty then [] else whole ++ '.' :: fraction
  | _ => whole

/-- The longest number at the start of a text, sign included. -/
def numberPrefix : List Char → List Char
  | [] => []
  | c :: rest =>
    if c = '+' ∨ c = '-' then
      let digits := unsignedPrefix rest
      if digits.isEmpty then [] else c :: digits
    else unsignedPrefix (c :: rest)

namespace Lexed

/-- The first lexeme of a text that starts with `c`. -/
def next (c : Char) (s : List Char) : Lexed :=
  if isBlank c then ⟨.blanks, c :: s.takeWhile isBlank, s.dropWhile isBlank⟩
  else if c = ';' then
    let note := s.takeWhile (· ≠ '\n')
    ⟨.remark note, c :: note, s.dropWhile (· ≠ '\n')⟩
  else if c = '(' then
    let note := s.takeWhile (· ≠ ')')
    match s.dropWhile (· ≠ ')') with
    -- A comment that is not closed reaches to the end of the text.
    | [] => ⟨.remark note, c :: note, []⟩
    | close :: rest => ⟨.remark note, c :: note ++ [close], rest⟩
  else if c = '*' then ⟨.checksum, c :: s.takeWhile isDigit, s.dropWhile isDigit⟩
  else if isWordLetter c then
    let gap := s.takeWhile isGap
    let number := numberPrefix (s.dropWhile isGap)
    ⟨.word c.toUpper number, c :: gap ++ number, (s.dropWhile isGap).drop number.length⟩
  else ⟨.stray c, [c], s⟩

/-! ## A lexeme and its rest -/

theorem unsignedPrefix_isPrefix (s : List Char) : unsignedPrefix s <+: s := by
  have hs : s.takeWhile isDigit ++ s.dropWhile isDigit = s := List.takeWhile_append_dropWhile
  unfold unsignedPrefix
  split
  · rename_i rest hrest
    dsimp only
    split
    · exact List.nil_prefix
    · refine ⟨rest.dropWhile isDigit, ?_⟩
      conv => rhs; rw [← hs, hrest, ← List.takeWhile_append_dropWhile (p := isDigit) (l := rest)]
      simp
  · exact ⟨s.dropWhile isDigit, hs⟩

theorem numberPrefix_isPrefix (s : List Char) : numberPrefix s <+: s := by
  cases s with
  | nil => exact List.nil_prefix
  | cons c rest =>
    simp only [numberPrefix]
    split
    · split
      · exact List.nil_prefix
      · exact List.cons_prefix_cons.2 ⟨rfl, unsignedPrefix_isPrefix rest⟩
    · exact unsignedPrefix_isPrefix (c :: rest)

theorem numberPrefix_append (s : List Char) :
    numberPrefix s ++ s.drop (numberPrefix s).length = s :=
  List.prefix_iff_eq_append.1 (numberPrefix_isPrefix s)

/-- **A lexeme and its rest are the text.** -/
theorem next_append (c : Char) (s : List Char) : (next c s).text ++ (next c s).rest = c :: s := by
  unfold next
  split
  · simp [List.takeWhile_append_dropWhile]
  split
  · simp [List.takeWhile_append_dropWhile]
  split
  · have h : s.takeWhile (· ≠ ')') ++ s.dropWhile (· ≠ ')') = s := List.takeWhile_append_dropWhile
    dsimp only
    split
    · rename_i hd
      rw [hd] at h
      simpa using h
    · rename_i close rest hd
      rw [hd] at h
      simpa using h
  split
  · simp [List.takeWhile_append_dropWhile]
  split
  · have h := numberPrefix_append (s.dropWhile isGap)
    simp only [List.cons_append, List.append_assoc, h, List.takeWhile_append_dropWhile]
  · rfl

/-- A lexeme has at least one character. -/
theorem next_text_ne_nil (c : Char) (s : List Char) : (next c s).text ≠ [] := by
  unfold next
  split
  · simp
  split
  · simp
  split
  · dsimp only; split <;> simp
  split
  · simp
  split <;> simp

/-- The rest of a text is shorter than the text. -/
theorem next_rest_length_le (c : Char) (s : List Char) : (next c s).rest.length ≤ s.length := by
  have h := congrArg List.length (next_append c s)
  have hpos := List.length_pos_iff.2 (next_text_ne_nil c s)
  simp only [List.length_append, List.length_cons] at h
  omega

end Lexed

end OpcodeAtlas
