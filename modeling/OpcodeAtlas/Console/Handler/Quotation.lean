import OpcodeAtlas.Text.CharacterName
import OpcodeAtlas.Text.Digit

/-!
# Quoted texts of handler arguments

A quoted text may hold escapes. A formatted text holds fields besides, which are expressions in
braces with a mark for their conversion and a format behind them; a brace that is written twice
stands for itself. `plainChecks` and `formattedChecks` tell what comes up when such a text is read,
in order: faults, and the expressions that fields hold. A fault ends the row.
-/

set_option autoImplicit false

namespace OpcodeAtlas.Handler

/-! ## Faults -/

/-- What is wrong with an escape. -/
inductive EscapeFlaw where
  /-- There are fewer digits than its letter asks for. -/
  | short (letter : Char) (digits : Nat)
  /-- Its number is beyond all characters. -/
  | beyond
  /-- It has no name in braces. -/
  | nameless
  | unknownName
  deriving DecidableEq, Repr

/-- The wording of a flaw. -/
def EscapeFlaw.text : EscapeFlaw → String
  | .short letter digits =>
    "truncated \\" ++ letter.toString ++ String.ofList (List.replicate digits 'X') ++ " escape"
  | .beyond => "illegal Unicode character"
  | .nameless => "malformed \\N character escape"
  | .unknownName => "unknown Unicode character name"

/-- What is wrong with a quoted text. -/
inductive TextFault where
  /-- Bytes are not ASCII. -/
  | wideBytes
  /-- An escape that stands for nothing, with the places of its first and its last byte. -/
  | escape (first last : Nat) (flaw : EscapeFlaw)
  | closingBrace
  | openField
  | emptyField
  /-- A field has nothing in front of a mark. -/
  | emptyBefore (mark : Char)
  | conversion
  | backslash
  | comment
  | openText
  | unmatched (bracket : Char)
  | mismatched (closing opening : Char)
  | deepField
  | deepBrackets
  /-- The expression of a field is none, as the wording tells. -/
  | field (wording : String)
  deriving DecidableEq, Repr

/-- What the faults of a formatted text start with. -/
def formattedHead : String := "f-string: "

/-- The wording of a fault. -/
def TextFault.message : TextFault → String
  | .wideBytes => "bytes can only contain ASCII literal characters"
  | .escape first last flaw =>
    "(unicode error) 'unicodeescape' codec can't decode bytes in position " ++ toString first ++
      "-" ++ toString last ++ ": " ++ flaw.text
  | .closingBrace => formattedHead ++ "single '\x7d' is not allowed"
  | .openField => formattedHead ++ "expecting '\x7d'"
  | .emptyField => formattedHead ++ "empty expression not allowed"
  | .emptyBefore mark => formattedHead ++ "expression required before '" ++ mark.toString ++ "'"
  | .conversion =>
    formattedHead ++ "invalid conversion character: expected 's', 'r', or 'a'"
  | .backslash => "f-string expression part cannot include a backslash"
  | .comment => "f-string expression part cannot include '#'"
  | .openText => formattedHead ++ "unterminated string"
  | .unmatched c => formattedHead ++ "unmatched '" ++ c.toString ++ "'"
  | .mismatched c o =>
    formattedHead ++ "closing parenthesis '" ++ c.toString ++
      "' does not match opening parenthesis '" ++ o.toString ++ "'"
  | .deepField => formattedHead ++ "expressions nested too deeply"
  | .deepBrackets => formattedHead ++ "too many nested parenthesis"
  | .field wording => wording

/-- What comes up when a quoted text is read. -/
inductive TextCheck where
  | fault (f : TextFault)
  /-- An expression that has to be one. -/
  | expression (s : List Char)
  deriving DecidableEq, Repr

/-! ## Escapes -/

/-- Whether a character is beyond ASCII. -/
def isWide (c : Char) : Bool := decide (128 ≤ c.toNat)

/-- The number of bytes that a character takes: one beyond ASCII is spelled by its number. -/
def byteCount (c : Char) : Nat := if isWide c then 10 else 1

/-- The number of bytes that a backslash takes in front of a character: it is spelled by its number
where no escape follows. -/
def slashCount (c : Char) : Nat := if isWide c then 6 else 1

/-- The number of bytes that a text takes. -/
def bytesCount : List Char → Nat
  | [] => 0
  | [c] => byteCount c
  | c :: d :: rest =>
    if c = '\\' then slashCount d + byteCount d + bytesCount rest
    else byteCount c + bytesCount (d :: rest)

/-- The number of hexadecimal digits that the letter of an escape asks for. -/
def digitsOf? (letter : Char) : Option Nat := [('x', 2), ('u', 4), ('U', 8)].lookup letter

/-- The greatest number of a character. -/
def lastCharacter : Nat := 0x10ffff

/-- What is wrong with an escape by number, behind its letter, with the number of bytes there that
belong to it. -/
def numberFlaw? (letter : Char) (digits : Nat) (s : List Char) : Option (Nat × EscapeFlaw) :=
  let found := (s.take digits).takeWhile fun c => (Text.hexValue? c).isSome
  let value := Text.basedValue 16 found
  if found.length < digits then some (found.length, .short letter digits)
  else if lastCharacter < value then some (digits, .beyond)
  else none

/-- The opening brace. -/
def openBrace : Char := Char.ofNat 123

/-- The closing brace. -/
def closeBrace : Char := Char.ofNat 125

/-- What is wrong with an escape by name, behind its letter, with the number of bytes there that
belong to it. -/
def nameFlaw? (s : List Char) : Option (Nat × EscapeFlaw) :=
  match s with
  | [] => some (0, .nameless)
  | c :: rest =>
    if c ≠ openBrace then some (0, .nameless)
    else
      let name := rest.takeWhile (· ≠ closeBrace)
      if name.length = rest.length then some (1 + bytesCount rest, .nameless)
      else if name.isEmpty then some (1, .nameless)
      else if Text.CharacterName.isKnown (String.ofList name) then none
      else some (bytesCount name + 2, .unknownName)

/-- What is wrong with the escape that a letter starts, with what follows the letter. -/
def escapeFlaw? (letter : Char) (s : List Char) : Option (Nat × EscapeFlaw) :=
  if letter = 'N' then nameFlaw? s
  else
    match digitsOf? letter with
    | some digits => numberFlaw? letter digits s
    | none => none

/-- The first escape at fault in a text that stands behind some bytes. -/
def escapeFaultFrom? (position : Nat) : List Char → Option TextFault
  | [] => none
  | [_] => none
  | c :: d :: rest =>
    if c ≠ '\\' then escapeFaultFrom? (position + byteCount c) (d :: rest)
    else
      match escapeFlaw? d rest with
      | some (count, flaw) => some (.escape position (position + 1 + count) flaw)
      | none => escapeFaultFrom? (position + slashCount d + byteCount d) rest

/-- The checks of a text that may hold escapes; in a raw one a backslash is a character as any
other. -/
def plainChecks (isRaw : Bool) (s : List Char) : List TextCheck :=
  if isRaw then [] else (escapeFaultFrom? 0 s).toList.map .fault

/-! ## Fields -/

/-- What comes up in a part of a formatted text, and what follows the part, unless there is a
fault. -/
structure Passed where
  checks : List TextCheck
  rest? : Option (List Char)

namespace Passed

/-- A part without checks. -/
def upTo (rest : List Char) : Passed := ⟨[], some rest⟩

/-- A part at fault. -/
def stop (f : TextFault) : Passed := ⟨[.fault f], none⟩

/-- A part and the one behind it. -/
def andThen (p : Passed) (next : List Char → Passed) : Passed :=
  match p.rest? with
  | none => p
  | some rest =>
    let q := next rest
    ⟨p.checks ++ q.checks, q.rest?⟩

end Passed

/-- How a row of characters between fields ends. -/
inductive RowEnd where
  /-- In front of a single brace, or where the text ends. -/
  | brace (rest : List Char)
  /-- Behind a brace that is written twice. -/
  | doubled (rest : List Char)
  /-- With a closing brace that closes nothing. -/
  | lone

/-- The end of a row at a brace: only outside of fields is a brace written twice. -/
def rowEndAt (isOutside : Bool) (before : List Char) (brace : Char) (rest : List Char) :
    List Char × RowEnd :=
  if isOutside && rest.head? == some brace then
    ((brace :: before).reverse, .doubled (rest.drop 1))
  else if isOutside && brace == closeBrace then ([], .lone)
  else (before.reverse, .brace (brace :: rest))

/-- A row of characters between fields, given what stands in front, last character first. The braces
of an escape by name belong to the row. -/
def rowFrom (isRaw isOutside : Bool) (before : List Char) (s : List Char) : List Char × RowEnd :=
  match s with
  | [] => (before.reverse, .brace [])
  | c :: rest =>
    if c = openBrace ∨ c = closeBrace then rowEndAt isOutside before c rest
    else if isRaw ∨ c ≠ '\\' then rowFrom isRaw isOutside (c :: before) rest
    else
      match rest with
      | [] => ((c :: before).reverse, .brace [])
      | d :: more =>
        if d = 'N' then
          match more with
          | [] => ((d :: c :: before).reverse, .brace [])
          | e :: behind =>
            let name := if e = openBrace then behind.takeWhile (· ≠ closeBrace) else []
            let closing := if e = openBrace then (behind.drop name.length).take 1 else []
            rowFrom isRaw isOutside (closing ++ name.reverse ++ e :: d :: c :: before)
              (behind.drop (name.length + closing.length))
        else if d = openBrace ∨ d = closeBrace then rowEndAt isOutside (c :: before) d more
        else rowFrom isRaw isOutside (d :: c :: before) more
termination_by s.length
decreasing_by all_goals simp only [List.length_cons, List.length_drop]; omega

/-- The opening bracket of a closing one. -/
def openingOf? (c : Char) : Option Char :=
  if c = ')' then some '(' else if c = ']' then some '[' else
    if c = closeBrace then some openBrace else none

/-- Whether a character quotes. -/
def isQuote (c : Char) : Bool := c.toNat == 34 || c.toNat == 39

/-- The greatest number of brackets inside of each other. -/
def bracketLimit : Nat := 200

/-- The marks that end the expression of a field, outside of brackets and texts. -/
def fieldMarks : List Char := ['!', ':', '=', closeBrace]

/-- The expression of a field and what follows it, inside of a text (with its quote, which may be
written three times) and of open brackets, given what stands in front, last character first. -/
def fieldFrom (text : Option (Char × Bool)) (opened before : List Char) (s : List Char) :
    Except TextFault (List Char × List Char) :=
  match s with
  | [] =>
    match text, opened with
    | some _, _ => .error .openText
    | none, o :: _ => .error (.unmatched o)
    | none, [] => .error .openField
  | c :: rest =>
    let isTriple := rest.take 2 == [c, c]
    if c = '\\' then .error .backslash
    else
      match text with
      | some (quote, triple) =>
        if c ≠ quote then fieldFrom text opened (c :: before) rest
        else if !triple then fieldFrom none opened (c :: before) rest
        else if isTriple then fieldFrom none opened (c :: c :: c :: before) (rest.drop 2)
        else fieldFrom text opened (c :: before) rest
      | none =>
        if isQuote c then
          if isTriple then fieldFrom (some (c, true)) opened (c :: c :: c :: before) (rest.drop 2)
          else fieldFrom (some (c, false)) opened (c :: before) rest
        else if c = '(' ∨ c = '[' ∨ c = openBrace then
          if bracketLimit ≤ opened.length then .error .deepBrackets
          else fieldFrom none (c :: opened) (c :: before) rest
        else if c = '#' then .error .comment
        else if opened.isEmpty && ['!', '=', '<', '>'].contains c && rest.head? == some '=' then
          fieldFrom none opened ('=' :: c :: before) (rest.drop 1)
        else if opened.isEmpty && fieldMarks.contains c then .ok (before.reverse, c :: rest)
        else
          match openingOf? c, opened with
          | none, _ => fieldFrom none opened (c :: before) rest
          | some _, [] => .error (.unmatched c)
          | some o, p :: outer =>
            if o = p then fieldFrom none outer (c :: before) rest else .error (.mismatched c p)
termination_by s.length
decreasing_by all_goals simp only [List.length_cons, List.length_drop]; omega

/-- The check of the expression of a field in front of a mark. -/
def checkExpression (expression rest : List Char) : Passed :=
  if expression.all fun c => [' ', '\t', '\n', '\x0c'].contains c then
    match rest with
    | mark :: _ => .stop (if mark = closeBrace then .emptyField else .emptyBefore mark)
    | [] => .stop .emptyField
  else ⟨[.expression expression], some rest⟩

/-- Go on with what follows, unless the text ends there. -/
def insideField (rest : List Char) (next : Passed) : Passed :=
  if rest.isEmpty then .stop .openField else next

/-- Pass over the mark that asks for the text of the expression. -/
def passEquals (s : List Char) : Passed :=
  match s with
  | '=' :: more =>
    let rest := more.dropWhile fun c => [9, 10, 11, 12, 13, 32].contains c.toNat
    insideField rest (.upTo rest)
  | _ => .upTo s

/-- Pass over a conversion. -/
def passConversion (s : List Char) : Passed :=
  match s with
  | '!' :: rest =>
    match rest with
    | [] => .stop .openField
    | c :: more => if ['s', 'r', 'a'].contains c then .upTo more else .stop .conversion
  | _ => .upTo s

/-- Pass over the brace that closes a field. -/
def closeField (s : List Char) : Passed :=
  match s with
  | c :: rest => if c = closeBrace then .upTo rest else .stop .openField
  | [] => .stop .openField

/-- Fields may stand in the format of a field, and no deeper. -/
def fieldLevels : Nat := 2

mutual

/-- A formatted text, as far as a brace that closes the field around it. -/
def formattedFrom (isRaw : Bool) (level : Nat) : Nat → List Char → Passed
  | 0, s => .upTo s
  | fuel + 1, s =>
    match rowFrom isRaw (level == 0) [] s with
    | (_, .lone) => .stop .closingBrace
    | (row, .doubled rest) =>
      (rowChecked row rest).andThen (formattedFrom isRaw level fuel)
    | (row, .brace rest) =>
      (rowChecked row rest).andThen fun rest =>
        if rest.head? == some openBrace then
          (field isRaw level fuel (rest.drop 1)).andThen (formattedFrom isRaw level fuel)
        else .upTo rest
where
  /-- A row of characters with its checks. -/
  rowChecked (row rest : List Char) : Passed :=
    match plainChecks isRaw row with
    | [] => .upTo rest
    | checks => ⟨checks, none⟩

/-- A field behind its opening brace. -/
def field (isRaw : Bool) (level : Nat) : Nat → List Char → Passed
  | 0, s => .upTo s
  | fuel + 1, s =>
    if fieldLevels ≤ level then .stop .deepField
    else
      match fieldFrom none [] [] s with
      | .error f => .stop f
      | .ok (expression, rest) =>
        (((checkExpression expression rest).andThen passEquals).andThen passConversion).andThen
          fun s =>
            match s with
            | ':' :: rest =>
              insideField rest ((formattedFrom isRaw (level + 1) fuel rest).andThen closeField)
            | _ => closeField s

end

/-- The checks of a formatted text. -/
def formattedChecks (isRaw : Bool) (s : List Char) : List TextCheck :=
  (formattedFrom isRaw 0 (2 * (s.length + 1)) s).checks

end OpcodeAtlas.Handler
