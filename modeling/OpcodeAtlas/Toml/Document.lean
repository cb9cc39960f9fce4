import OpcodeAtlas.Toml.Literal
import OpcodeAtlas.Toml.Table

/-!
# Values of TOML texts

`Toml.read?` gives the value of a text: a map of its tables. A text is a row of statements, one a
line: a key with its value, or a header that starts a section. Arrays may go over several lines,
inline tables may not.
-/

set_option autoImplicit false

namespace OpcodeAtlas.Toml

/-! ## Space between the parts -/

/-- Whether a character may stand in a key without quotes. -/
def isBareKeyChar (c : Char) : Bool :=
  let n := c.toNat
  (decide (48 ≤ n) && decide (n ≤ 57)) || (decide (65 ≤ n) && decide (n ≤ 90)) ||
    (decide (97 ≤ n) && decide (n ≤ 122)) || c == '-' || c == '_'

/-- A text without the blanks in front. -/
def skipSpace (s : List Char) : List Char := s.dropWhile isSpace

/-- A text behind the comment that it may start with; a comment holds no controls. -/
def skipComment? (s : List Char) : Option (List Char) :=
  match s with
  | '#' :: rest =>
    let comment := rest.takeWhile (· ≠ '\n')
    if comment.any isControl then none else some (rest.drop comment.length)
  | _ => some s

/-- A text behind blanks, line feeds and comments. -/
def skipFiller? : Nat → List Char → Option (List Char)
  | 0, s => some s
  | fuel + 1, s =>
    match s.dropWhile isSpaceOrEnd with
    | '#' :: rest =>
      match skipComment? ('#' :: rest) with
      | none => none
      | some behind => skipFiller? fuel behind
    | rest => some rest

/-- A text behind blanks, line feeds and comments, with as much fuel as it has characters. -/
def skipAll? (s : List Char) : Option (List Char) := skipFiller? (s.length + 1) s

/-! ## Keys -/

/-- One part of a key. -/
def keyPart? (s : List Char) : Parse String :=
  let bare := s.takeWhile isBareKeyChar
  if bare.isEmpty then (Literal.line? s).map fun r => (String.ofList r.1, r.2)
  else some (String.ofList bare, s.drop bare.length)

/-- The parts of a key, with points between them. -/
def key? : Nat → List Char → Parse (List String)
  | 0, _ => none
  | fuel + 1, s =>
    match keyPart? s with
    | none => none
    | some (part, rest) =>
      match skipSpace rest with
      | '.' :: more => (key? fuel (skipSpace more)).map fun r => (part :: r.1, r.2)
      | rest => some ([part], rest)

/-- A key, up to the character that has to follow it. -/
def keyBefore? (c : Char) (s : List Char) : Parse (List String) :=
  match key? (s.length + 1) s with
  | none => none
  | some (key, rest) => (Literal.char? c rest).map fun behind => (key, behind)

/-! ## Values -/

/-- Whether a text starts with a word, and what is behind it. -/
def word? (word : String) (s : List Char) : Option (List Char) :=
  if word.toList.isPrefixOf s then some (s.drop word.length) else none

mutual

/-- A value. -/
def value? : Nat → List Char → Parse Value
  | 0, _ => none
  | _ + 1, [] => none
  | fuel + 1, c :: rest =>
    if c = quote ∨ c = apostrophe then
      (Literal.text? (c :: rest)).map fun r => (.text (String.ofList r.1), r.2)
    else if c = '[' then
      match skipAll? rest with
      | some (']' :: behind) => some (.list [], behind)
      | some behind => (items? fuel behind).map fun r => (.list r.1, r.2)
      | none => none
    else if c = '\x7b' then
      match skipSpace rest with
      | '\x7d' :: behind => some (.map [], behind)
      | behind => (inline? fuel [] behind).map fun r => (r.1.toValue, r.2)
    else
      match word? "true" (c :: rest), word? "false" (c :: rest) with
      | some behind, _ => some (.bool true, behind)
      | _, some behind => some (.bool false, behind)
      | none, none => Literal.scalar? (c :: rest)

/-- The items of an array and its end; a comma may follow the last one. -/
def items? : Nat → List Char → Parse (List Value)
  | 0, _ => none
  | fuel + 1, s =>
    match value? fuel s with
    | none => none
    | some (v, rest) =>
      match skipAll? rest with
      | some (']' :: behind) => some ([v], behind)
      | some (',' :: behind) =>
        match skipAll? behind with
        | some (']' :: behind) => some ([v], behind)
        | some behind => (items? fuel behind).map fun r => (v :: r.1, r.2)
        | none => none
      | _ => none

/-- The entries of an inline table, behind those in `t`, and its end. -/
def inline? : Nat → Table → List Char → Parse Table
  | 0, _, _ => none
  | fuel + 1, t, s =>
    match keyBefore? '=' s with
    | none => none
    | some (key, rest) =>
      match value? fuel (skipSpace rest) with
      | none => none
      | some (v, rest) =>
        match Table.put? 0 v key t with
        | none => none
        | some t =>
          match skipSpace rest with
          | '\x7d' :: behind => some (t, behind)
          | ',' :: behind => inline? fuel t (skipSpace behind)
          | _ => none

end

/-! ## Statements -/

/-- The tables read so far, the number of the section, and the path of its header. -/
structure Section where
  tables : Table
  number : Nat
  header : List String

/-- A header, from behind its first bracket. -/
def header? (sec : Section) (s : List Char) : Parse Section :=
  match s with
  | '[' :: rest =>
    match keyBefore? ']' (skipSpace rest) with
    | some (path, ']' :: behind) =>
      (sec.tables.append? path).map fun tables => (⟨tables, sec.number + 1, path⟩, behind)
    | _ => none
  | _ =>
    match keyBefore? ']' (skipSpace s) with
    | some (path, behind) =>
      (sec.tables.declare? path).map fun tables => (⟨tables, sec.number + 1, path⟩, behind)
    | none => none

/-- A key with its value. -/
def assignment? (sec : Section) (s : List Char) : Parse Section :=
  match keyBefore? '=' s with
  | none => none
  | some (key, rest) =>
    let start := skipSpace rest
    match value? (start.length + 1) start with
    | none => none
    | some (v, behind) =>
      (sec.tables.under? (Table.put? sec.number v key) sec.header).map fun tables =>
        ({ sec with tables := tables }, behind)

/-- A statement, unless the line is empty or holds only a comment. -/
def statement? (sec : Section) (s : List Char) : Parse Section :=
  match s with
  | [] => some (sec, [])
  | c :: rest =>
    if c = '\n' ∨ c = '#' then some (sec, s)
    else if c = '[' then header? sec rest
    else assignment? sec s

/-- Read statements, one a line. -/
def statements? : Nat → Section → List Char → Option Section
  | 0, _, _ => none
  | fuel + 1, sec, s =>
    match statement? sec (skipSpace s) with
    | none => none
    | some (sec, rest) =>
      match skipComment? (skipSpace rest) with
      | none => none
      | some [] => some sec
      | some (c :: behind) => if c = '\n' then statements? fuel sec behind else none

/-- A text in which a carriage return with a line feed behind it is left out. -/
def unifyEnds : List Char → List Char
  | [] => []
  | c :: rest => if c = '\r' ∧ rest.head? = some '\n' then unifyEnds rest else c :: unifyEnds rest

/-- The value of a text. -/
def read? (text : List Char) : Option Value :=
  let s := unifyEnds text
  (statements? (s.length + 1) ⟨[], 1, []⟩ s).map fun sec => sec.tables.toValue

end OpcodeAtlas.Toml
