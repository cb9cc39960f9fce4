import OpcodeAtlas.Number.Reading
import OpcodeAtlas.Value.Basic

/-!
# Literals of TOML

Texts in their four spellings, numbers, and dates and times. Each reader takes its literal off the
start of a text and gives the rest.
-/

set_option autoImplicit false

namespace OpcodeAtlas.Toml

/-- A value read from the start of a text, and the rest. -/
abbrev Parse (α : Type) := Option (α × List Char)

/-- The double quote. -/
def quote : Char := Char.ofNat 34

/-- The single quote. -/
def apostrophe : Char := Char.ofNat 39

/-- Whether a character is a control other than the tab. -/
def isControl (c : Char) : Bool := (decide (c.toNat < 32) && c != '\t') || c.toNat == 127

/-- Whether a character is a blank or a tab. -/
def isSpace (c : Char) : Bool := c == ' ' || c == '\t'

/-- Whether a character is a blank, a tab or a line feed. -/
def isSpaceOrEnd (c : Char) : Bool := isSpace c || c == '\n'

/-- Whether a text starts with three of a character. -/
def startsWithThree (c : Char) : List Char → Bool
  | a :: b :: d :: _ => a == c && b == c && d == c
  | _ => false

namespace Literal

/-! ## Texts -/

/-- The character whose code point the first `count` characters are in hexadecimal. -/
def hexChar? : (count acc : Nat) → List Char → Parse Char
  | 0, acc, rest => if acc.isValidChar then some (Char.ofNat acc, rest) else none
  | _ + 1, _, [] => none
  | count + 1, acc, c :: rest =>
    match Text.hexValue? c with
    | some d => hexChar? count (16 * acc + d) rest
    | none => none

/-- What a character stands for behind a backslash. -/
def escape? (c : Char) : Option Char :=
  match c with
  | 'b' => some (Char.ofNat 8)
  | 't' => some '\t'
  | 'n' => some '\n'
  | 'f' => some (Char.ofNat 12)
  | 'r' => some '\r'
  | '\\' => some '\\'
  | _ => if c = quote then some quote else none

/-- An escape behind its backslash: the characters that it stands for. In a text of several lines,
a backslash at the end of a line takes away the white space behind it. -/
def escaped? (multiline : Bool) : List Char → Parse (List Char)
  | [] => none
  | c :: rest =>
    if multiline && c == '\n' then some ([], rest.dropWhile isSpaceOrEnd)
    else if multiline && isSpace c then
      match rest.dropWhile isSpace with
      | [] => some ([], [])
      | d :: behind => if d = '\n' then some ([], behind.dropWhile isSpaceOrEnd) else none
    else if c = 'u' then (hexChar? 4 0 rest).map fun r => ([r.1], r.2)
    else if c = 'U' then (hexChar? 8 0 rest).map fun r => ([r.1], r.2)
    else (escape? c).map fun d => ([d], rest)

/-- A text behind its opening quote or quotes, up to and without its closing ones. -/
def basic? (multiline : Bool) : Nat → List Char → Parse (List Char)
  | 0, _ => none
  | _ + 1, [] => none
  | fuel + 1, c :: rest =>
    if c = quote ∧ (!multiline || startsWithThree quote (c :: rest)) then
      some ([], if multiline then rest.drop 2 else rest)
    else if c = '\\' then
      match escaped? multiline rest with
      | none => none
      | some (chars, behind) => (basic? multiline fuel behind).map fun r => (chars ++ r.1, r.2)
    else if isControl c && !(multiline && c == '\n') then none
    else (basic? multiline fuel rest).map fun r => (c :: r.1, r.2)

/-- A text without escapes behind its opening apostrophe or apostrophes. -/
def literal? (multiline : Bool) : List Char → Parse (List Char)
  | [] => none
  | c :: rest =>
    if c = apostrophe ∧ (!multiline || startsWithThree apostrophe (c :: rest)) then
      some ([], if multiline then rest.drop 2 else rest)
    else if isControl c && !(multiline && c == '\n') then none
    else (literal? multiline rest).map fun r => (c :: r.1, r.2)

/-- Up to two more closing quotes belong to a text of several lines. -/
def withExtraQuotes (delimiter : Char) (r : List Char × List Char) : List Char × List Char :=
  let extra := (r.2.take 2).takeWhile (· == delimiter)
  (r.1 ++ extra, r.2.drop extra.length)

/-- A text without the line feed at its start. -/
def dropFirstEnd : List Char → List Char
  | [] => []
  | c :: rest => if c = '\n' then rest else c :: rest

/-- A text of one line, with its quotes or apostrophes. -/
def line? : List Char → Parse (List Char)
  | [] => none
  | c :: rest =>
    if c = quote then basic? false (rest.length + 1) rest
    else if c = apostrophe then literal? false rest
    else none

/-- A text, with its quotes or apostrophes. -/
def text? (s : List Char) : Parse (List Char) :=
  if startsWithThree quote s then
    let body := dropFirstEnd (s.drop 3)
    (basic? true (body.length + 1) body).map (withExtraQuotes quote)
  else if startsWithThree apostrophe s then
    (literal? true (dropFirstEnd (s.drop 3))).map (withExtraQuotes apostrophe)
  else line? s

/-! ## Numbers -/

/-- Whether a character is an ASCII digit. -/
def isDigit (c : Char) : Bool := decide (48 ≤ c.toNat) && decide (c.toNat ≤ 57)

/-- The longest row of digits, with single underscores between them, that a text starts with. -/
def digitRow (accepts : Char → Bool) : List Char → List Char
  | [] => []
  | c :: rest =>
    if accepts c then c :: digitRow accepts rest
    else if c = '_' then
      match digitRow accepts rest with
      | [] => []
      | d :: more => if d = '_' then [] else c :: d :: more
    else []

/-- A row of digits behind a given start; it must not start with an underscore. -/
def rowAfter (accepts : Char → Bool) (s : List Char) : List Char :=
  match s with
  | [] => []
  | c :: _ => if accepts c then digitRow accepts s else []

/-- Whether a character is a digit to a base up to 16. -/
def isDigitOf (base : Nat) (c : Char) : Bool := (Text.hexValue? c).any (· < base)

/-- A whole number to a base that is marked by a letter behind a zero. -/
def marked? (s : List Char) : Parse Value :=
  match s with
  | '0' :: mark :: rest =>
    let base? := if mark = 'x' then some 16 else if mark = 'b' then some 2
      else if mark = 'o' then some 8 else none
    match base? with
    | none => none
    | some base =>
      let row := rowAfter (isDigitOf base) rest
      if row.isEmpty then none
      else some (.int (Text.basedValue base row), rest.drop row.length)
  | _ => none

/-- The fraction that a text starts with, its point included. -/
def fractionPart (s : List Char) : List Char :=
  match s with
  | '.' :: rest =>
    let row := rowAfter isDigit rest
    if row.isEmpty then [] else '.' :: row
  | _ => []

/-- The exponent that a text starts with, its letter included. -/
def exponentPart (s : List Char) : List Char :=
  match s with
  | [] => []
  | e :: rest =>
    if e = 'e' ∨ e = 'E' then
      let sign := (rest.take 1).filter fun c => c == '+' || c == '-'
      let row := rowAfter isDigit (rest.drop sign.length)
      if row.isEmpty then [] else e :: sign ++ row
    else []

/-- A decimal number, whole or not. A whole number has a limited number of digits. -/
def decimal? (s : List Char) : Parse Value :=
  let sign := (s.take 1).filter fun c => c == '+' || c == '-'
  let unsigned := s.drop sign.length
  let whole :=
    match unsigned with
    | '0' :: _ => ['0']
    | _ => rowAfter isDigit unsigned
  if whole.isEmpty then none
  else
    let behind := unsigned.drop whole.length
    let fraction := fractionPart behind
    let exponent := exponentPart (behind.drop fraction.length)
    let rest := behind.drop (fraction.length + exponent.length)
    let text := sign ++ whole ++ fraction ++ exponent
    if fraction.isEmpty && exponent.isEmpty then
      match Number.readInteger text with
      | .ok n => some (.int n, rest)
      | .error _ => none
    else (Number.readDecimal? text).map fun x => (.float x, rest)

/-- An infinity or a NaN. -/
def special? (s : List Char) : Parse Value :=
  let sign := (s.take 1).filter fun c => c == '+' || c == '-'
  let word := (s.drop sign.length).take 3
  let rest := s.drop (sign.length + 3)
  if word = ['i', 'n', 'f'] then some (.float (.infinite (sign == ['-'])), rest)
  else if word = ['n', 'a', 'n'] then some (.float .nan, rest)
  else none

/-! ## Dates and times -/

/-- A number of exactly two digits. -/
def two? : List Char → Option (Nat × List Char)
  | a :: b :: rest =>
    if isDigit a && isDigit b then some (10 * (a.toNat - 48) + (b.toNat - 48), rest) else none
  | _ => none

/-- A given character. -/
def char? (c : Char) : List Char → Option (List Char)
  | [] => none
  | d :: rest => if d = c then some rest else none

/-- A time of a day. -/
def clock? (s : List Char) : Option (Clock × List Char) := do
  let (hour, s) ← two? s
  let (minute, s) ← (char? ':' s).bind two?
  let (second, s) ← (char? ':' s).bind two?
  if hour ≥ 24 ∨ minute ≥ 60 ∨ second ≥ 60 then none
  else
    let digits := ((char? '.' s).getD []).takeWhile isDigit
    let six := (digits ++ List.replicate 6 '0').take 6
    let rest := if digits.isEmpty then s else s.drop (digits.length + 1)
    some (⟨hour, minute, second, Text.basedValue 10 six⟩, rest)

/-- The form of a day; there need not be such a day. -/
def day? (s : List Char) : Option (Day × List Char) := do
  let (century, s) ← two? s
  let (year, s) ← two? s
  let (month, s) ← (char? '-' s).bind two?
  let (day, s) ← (char? '-' s).bind two?
  if month < 1 ∨ 12 < month ∨ day < 1 ∨ 31 < day then none
  else some (⟨100 * century + year, month, day⟩, s)

/-- The distance from universal time that a text starts with, in seconds. -/
def zone? (s : List Char) : Option (Int × List Char) :=
  match s with
  | [] => none
  | c :: rest =>
    if c = 'Z' ∨ c = 'z' then some (0, rest)
    else if c = '+' ∨ c = '-' then do
      let (hours, rest) ← two? rest
      let (minutes, rest) ← (char? ':' rest).bind two?
      if hours ≥ 24 ∨ minutes ≥ 60 then none
      else
        let n : Int := (3600 * hours + 60 * minutes : Nat)
        some (if c = '-' then -n else n, rest)
    else none

/-- The time that may follow a day. -/
def clockBehind? (s : List Char) : Parse Clock :=
  match s with
  | [] => none
  | c :: rest => if c = 'T' ∨ c = 't' ∨ c = ' ' then clock? rest else none

/-- A day with or without a time, given its form. -/
def dated? (day : Day) (s : List Char) : Parse Value :=
  match clockBehind? s with
  | none => if day.isValid then some (.date day, s) else none
  | some (clock, s) =>
    let (ahead, rest) :=
      match zone? s with
      | some (n, rest) => (some n, rest)
      | none => (none, s)
    let m : Moment := ⟨day, clock, ahead⟩
    if m.isValid then some (.moment m, rest) else none

/-- A date, a time or a number. -/
def scalar? (s : List Char) : Parse Value :=
  match day? s with
  | some (day, rest) => dated? day rest
  | none =>
    match clock? s with
    | some (clock, rest) => some (.time clock, rest)
    | none =>
      match marked? s with
      | some r => some r
      | none =>
        match decimal? s with
        | some r => some r
        | none => special? s

end Literal

end OpcodeAtlas.Toml
