import OpcodeAtlas.Console.Handler.Quotation
import OpcodeAtlas.Number.Reading
import OpcodeAtlas.Text.Line
import OpcodeAtlas.Text.NameCharacter

/-!
# Tokens of handler arguments

A tag of the console may call a handler with arguments, which are written as an expression: names,
numbers, quoted texts, operators and brackets. `TokenRow.ofText` cuts the text of the arguments into
tokens. Most of what it finds wrong is a fault of the text at once (`TokenRow.fault?`); three
faults, a bracket that is never closed, a stray backslash and an indentation, are tokens of their
own (`TokenKind.fault`), because they count only for a reader who gets that far.
-/

set_option autoImplicit false

namespace OpcodeAtlas.Handler

/-- A base of whole numbers. -/
inductive Base where
  | binary
  | octal
  | decimal
  | hexadecimal
  | imaginary
  deriving DecidableEq, Repr

/-- The name of a base. -/
def Base.name : Base → String
  | .binary => "binary"
  | .octal => "octal"
  | .decimal => "decimal"
  | .hexadecimal => "hexadecimal"
  | .imaginary => "imaginary"

/-- What is wrong with the tokens of a text. -/
inductive TokenFault where
  /-- A quoted text is not closed in its line, which is numbered. -/
  | openText (line : Nat)
  /-- A text in triple quotes is not closed. -/
  | openTripleText (line : Nat)
  | unmatched (closing : Char)
  | mismatched (closing opening : Char)
  /-- The opening bracket stands in another line, which is numbered. -/
  | mismatchedFar (closing opening : Char) (line : Nat)
  | neverClosed (opening : Char)
  | number (base : Base)
  /-- A digit that is too great for the base. -/
  | digit (d : Char) (base : Base)
  | leadingZeros
  | invalidCharacter (c : Char)
  | hiddenCharacter (c : Char)
  | nullCharacter
  | deepBrackets
  | indented
  | strayBackslash
  deriving DecidableEq, Repr

/-- The number of a character, with at least four hexadecimal digits. -/
def codeText (c : Char) : String :=
  String.ofList ((Nat.toDigits 16 c.toNat).map Char.toUpper |> pad)
where
  /-- Zeros in front up to four digits. -/
  pad (digits : List Char) : List Char := List.replicate (4 - digits.length) '0' ++ digits

/-- The wording of a fault. -/
def TokenFault.message : TokenFault → String
  | .openText line => "unterminated string literal (detected at line " ++ toString line ++ ")"
  | .openTripleText line =>
    "unterminated triple-quoted string literal (detected at line " ++ toString line ++ ")"
  | .unmatched c => "unmatched '" ++ c.toString ++ "'"
  | .mismatched c o =>
    "closing parenthesis '" ++ c.toString ++ "' does not match opening parenthesis '" ++
      o.toString ++ "'"
  | .mismatchedFar c o line =>
    "closing parenthesis '" ++ c.toString ++ "' does not match opening parenthesis '" ++
      o.toString ++ "' on line " ++ toString line
  | .neverClosed o => "'" ++ o.toString ++ "' was never closed"
  | .number base => "invalid " ++ base.name ++ " literal"
  | .digit d base => "invalid digit '" ++ d.toString ++ "' in " ++ base.name ++ " literal"
  | .leadingZeros =>
    "leading zeros in decimal integer literals are not permitted; use an 0o prefix for octal " ++
      "integers"
  | .invalidCharacter c => "invalid character '" ++ c.toString ++ "' (U+" ++ codeText c ++ ")"
  | .hiddenCharacter c => "invalid non-printable character U+" ++ codeText c
  | .nullCharacter => "source code string cannot contain null bytes"
  | .deepBrackets => "too many nested parentheses"
  | .indented => "unexpected indent"
  | .strayBackslash => "unexpected character after line continuation character"

/-- A number. -/
inductive Numeral where
  | whole (n : Nat)
  /-- A whole number with more decimal digits than are read. -/
  | long (digits : Nat)
  | real
  | imaginary
  deriving DecidableEq, Repr

/-- A kind of tokens. -/
inductive TokenKind where
  /-- A name; `isBlankName` tells the underscore from others. -/
  | name (isBlankName : Bool)
  | number (n : Numeral)
  /-- A quoted text, or bytes, with what comes up when it is read. -/
  | text (isBytes isFormatted : Bool) (checks : List TextCheck)
  | sign (s : String)
  | last
  /-- A fault for whoever looks at it. -/
  | fault (f : TokenFault)
  deriving DecidableEq, Repr

/-- A token, with the number of brackets that are open behind it and the number of its line. -/
structure Token where
  kind : TokenKind
  level : Nat
  line : Nat
  deriving DecidableEq, Repr

/-! ## Characters -/

/-- Whether a name may start with a character, as far as tokens are concerned. -/
def opensName (c : Char) : Bool := Text.isPlainLetter c || isWide c

/-- Whether a name may go on with a character, as far as tokens are concerned. -/
def extendsName (c : Char) : Bool := opensName c || Text.isPlainDigit c

/-- The signs of more than one character, longer ones in front. -/
def longSigns : List String :=
  ["**=", "//=", ">>=", "<<=", "...", "!=", "%=", "&=", "**", "*=", "+=", "-=", "->", "//", "/=",
    ":=", "<<", "<=", "<>", "==", ">=", ">>", "@=", "^=", "|="]

/-! ## Numbers -/

/-- Refuse an ASCII character of a name behind a number. -/
def closeNumber (base : Base) (s : List Char) : Except TokenFault (List Char) :=
  match s with
  | c :: _ => if extendsName c && !isWide c then .error (.number base) else .ok s
  | [] => .ok s

/-- Pass over decimal digits, between which single underscores may stand. -/
def passDigits : List Char → Except TokenFault (List Char)
  | [] => .ok []
  | c :: rest =>
    if Text.isPlainDigit c then passDigits rest
    else if c = '_' then
      match rest with
      | d :: _ => if Text.isPlainDigit d then passDigits rest else .error (.number .decimal)
      | [] => .error (.number .decimal)
    else .ok (c :: rest)

/-- Pass over the mark of an imaginary number and the end of a number. -/
def passEnd (s : List Char) : Except TokenFault (List Char) :=
  match s with
  | c :: rest =>
    if c = 'j' ∨ c = 'J' then closeNumber .imaginary rest else closeNumber .decimal s
  | [] => .ok []

/-- Pass over an exponent and the end of a number. -/
def passExponent (s : List Char) : Except TokenFault (List Char) :=
  match s with
  | c :: rest =>
    if c = 'e' ∨ c = 'E' then
      let isSigned := rest.head? == some '+' || rest.head? == some '-'
      let digits := if isSigned then rest.drop 1 else rest
      if (digits.head?.map Text.isPlainDigit).getD false then passDigits digits >>= passEnd
      else .error (.number .decimal)
    else passEnd s
  | [] => .ok []

/-- Pass over a fraction, an exponent and the end of a number. -/
def passFraction (s : List Char) : Except TokenFault (List Char) :=
  match s with
  | '.' :: rest =>
    if (rest.head?.map Text.isPlainDigit).getD false then passDigits rest >>= passExponent
    else passExponent rest
  | _ => passExponent s

/-- Whether a character is a digit to a base. -/
def isDigitOf (base : Base) (c : Char) : Bool :=
  match base with
  | .binary => c == '0' || c == '1'
  | .octal => Text.isPlainDigit c && c != '8' && c != '9'
  | .hexadecimal => Text.isPlainDigit c || "abcdefABCDEF".toList.contains c
  | _ => Text.isPlainDigit c

/-- Pass over the digits of a number to a base; `needed` tells that a digit has to come. -/
def passBased (base : Base) (needed : Bool) : List Char → Except TokenFault (List Char)
  | [] => if needed then .error (.number base) else .ok []
  | c :: rest =>
    if isDigitOf base c then passBased base false rest
    else if c = '_' then
      match rest with
      | d :: _ =>
        if isDigitOf base d then passBased base true rest
        else if Text.isPlainDigit d then .error (.digit d base)
        else .error (.number base)
      | [] => .error (.number base)
    else if Text.isPlainDigit c then .error (.digit c base)
    else if needed then .error (.number base)
    else closeNumber base (c :: rest)

/-- The base that two characters at the start of a number ask for. -/
def baseOf? (first second : Char) : Option (Base × Nat) :=
  if first ≠ '0' then none
  else
    [('x', (Base.hexadecimal, 16)), ('o', (Base.octal, 8)), ('b', (Base.binary, 2))].lookup
      second.toLower

/-- Pass over a number that a digit or a point in front of a digit starts. -/
def passNumber (s : List Char) : Except TokenFault (List Char) :=
  match s with
  | a :: b :: rest =>
    match baseOf? a b with
    | some base => passBased base.1 true rest
    | none =>
      match passDigits s with
      | .error f => .error f
      | .ok behind =>
        let digits := s.take (s.length - behind.length)
        let isWhole := !(behind.head?.map (".eEjJ".toList.contains ·)).getD false
        let isPadded := a == '0' && digits.any fun c => Text.isPlainDigit c && c != '0'
        if isWhole && isPadded then .error .leadingZeros else passFraction behind
  | _ => passDigits s >>= passFraction

/-- A whole number in decimal digits. -/
def Numeral.ofDigits (s : List Char) : Numeral :=
  let count := (s.filter Text.isPlainDigit).length
  if digitLimit < count && s.any fun c => Text.isPlainDigit c && c != '0' then .long count
  else .whole (Text.basedValue 10 s)

/-- The number that a text is. -/
def Numeral.ofText (s : List Char) : Numeral :=
  let based : Option Numeral :=
    match s with
    | a :: b :: rest => (baseOf? a b).map fun base => .whole (Text.basedValue base.2 rest)
    | _ => none
  let marked := fun marks : List Char => s.any marks.contains
  based.getD (if marked ['j', 'J'] then .imaginary
    else if marked ['.', 'e', 'E'] then .real
    else .ofDigits s)

/-! ## Texts -/

/-- What follows a text that `quotes` quotes close, of which `seen` have just been passed. -/
def passText (quote : Char) (quotes seen : Nat) : List Char → Option (List Char)
  | [] => none
  | c :: rest =>
    if c = quote then
      if seen + 1 = quotes then some rest else passText quote quotes (seen + 1) rest
    else if c = '\n' ∧ quotes = 1 then none
    else if c = '\\' then
      match rest with
      | _ :: more => passText quote quotes 0 more
      | [] => none
    else passText quote quotes 0 rest

/-- What follows a text, from its opening quote on; `line` is the number of the line. -/
def passQuoted (line : Nat) (s : List Char) : Except TokenFault (List Char) :=
  match s with
  | [] => .ok []
  | q :: rest =>
    match rest with
    | a :: b :: more =>
      if a = q ∧ b = q then
        match passText q 3 0 more with
        | some behind => .ok behind
        | none => .error (.openTripleText (line + (more.filter (· == '\n')).length))
      else short q rest
    | _ => short q rest
where
  /-- What follows a text in single quotes. -/
  short (q : Char) (s : List Char) : Except TokenFault (List Char) :=
    match passText q 1 0 s with
    | some behind => .ok behind
    | none => .error (.openText (line + endsWithin s))
  /-- The number of line ends behind backslashes in the first line. -/
  endsWithin : List Char → Nat
    | [] => 0
    | '\n' :: _ => 0
    | '\\' :: c :: rest => (if c = '\n' then 1 else 0) + endsWithin rest
    | _ :: rest => endsWithin rest

/-- The letters that may stand in front of a quoted text. -/
def textMarks : List String := ["", "b", "br", "rb", "u", "r", "f", "fr", "rf"]

/-- The letters in front of the quoted text that a text starts with. -/
def textMark? (s : List Char) : Option String :=
  textMarks.find? fun mark =>
    ((s.take mark.length).map Char.toLower == mark.toList) &&
      (match s.drop mark.length with
        | q :: _ => q.toNat == 34 || q.toNat == 39
        | [] => false)

/-! ## Tokens -/

/-- The content of a quoted text behind its letters. -/
def contentOf (s : List Char) : List Char :=
  let isTriple := s.take 3 == List.replicate 3 (s.headD ' ') && decide (6 ≤ s.length)
  let quotes := if isTriple then 3 else 1
  (s.drop quotes).take (s.length - 2 * quotes)

/-- A quoted text behind its letters. -/
def textKind (mark : String) (s : List Char) : TokenKind :=
  let letters := mark.toList
  let content := contentOf s
  let isRaw := letters.contains 'r'
  if letters.contains 'b' then
    .text true false (if content.any isWide then [.fault .wideBytes] else [])
  else if letters.contains 'f' then .text false true (formattedChecks isRaw content)
  else .text false false (plainChecks isRaw content)

/-- The fault of a name, if it has one. -/
def nameFault? (name : List Char) : Option TokenFault :=
  let strange :=
    match name with
    | [] => none
    | c :: rest => if Text.startsName c then rest.find? (!Text.continuesName ·) else some c
  strange.map fun c => if Text.isPrinted c then .invalidCharacter c else .hiddenCharacter c

/-- Whether a character is an opening bracket. -/
def isOpening (c : Char) : Bool := c == '(' || c == '[' || c == openBrace

/-- The sign that a text starts with. -/
def signAt (c : Char) (rest : List Char) : String :=
  (longSigns.find? fun s => s.toList.isPrefixOf (c :: rest)).getD c.toString

/-- Tokens in a row, and the fault of a text that cannot be cut into tokens. -/
structure TokenRow where
  tokens : List Token
  fault? : Option TokenFault := none

/-- A row with a token in front. -/
def TokenRow.behind (row : TokenRow) (t : Token) : TokenRow := { row with tokens := t :: row.tokens }

/-- A row that ends with a fault. -/
def TokenRow.stop (f : TokenFault) : TokenRow := ⟨[], some f⟩

/-- Pass over lines without tokens: the number of line ends there, whether what follows is indented,
and what follows. -/
def passLines (ends : Nat) (isIndented inComment : Bool) : List Char → Nat × Bool × List Char
  | [] => (ends, false, [])
  | c :: rest =>
    if c = '\n' then passLines (ends + 1) false false rest
    else if inComment || c = '#' then passLines ends isIndented true rest
    else if c = ' ' ∨ c = '\t' then passLines ends true false rest
    else if c.toNat = 12 then passLines ends false false rest
    else
      match c, rest with
      | '\\', '\n' :: more => passLines (ends + 1) isIndented false more
      | _, _ => (ends, isIndented, c :: rest)

/-- The fault of a bracket that does not close the one opened last. -/
def mismatch (closing opening : Char) (line openingLine : Nat) : TokenFault :=
  if line = openingLine then .mismatched closing opening
  else .mismatchedFar closing opening openingLine

/-- The tokens behind lines without tokens; nothing behind an indentation is looked at, unless the text
is faulty in front of it. -/
def TokenRow.behindLines (line : Nat) (rest : List Char) (tokens : Nat → List Char → TokenRow) :
    TokenRow :=
  let (ends, isIndented, behind) := passLines 0 false false rest
  let row := tokens (line + ends) behind
  if isIndented then ⟨[⟨.fault .indented, 0, line + ends⟩], row.fault?⟩ else row

/-- The tokens of a text inside of open brackets, the innermost one first, with their lines. -/
def TokenRow.ofRest (line : Nat) (opened : List (Char × Nat)) : Nat → List Char → TokenRow
  | 0, _ => ⟨[], none⟩
  | fuel + 1, s =>
    let token (kind : TokenKind) : Token := ⟨kind, opened.length, line⟩
    let next (kind : TokenKind) (rest : List Char) : TokenRow :=
      (TokenRow.ofRest line opened fuel rest).behind (token kind)
    match s with
    | [] =>
      match opened with
      | [] => ⟨[token .last], none⟩
      | (o, first) :: _ => ⟨[⟨.fault (.neverClosed o), opened.length, first⟩], none⟩
    | c :: rest =>
      if c = ' ' ∨ c = '\t' ∨ c.toNat = 12 then TokenRow.ofRest line opened fuel rest
      else if c = '\n' then
        if !opened.isEmpty then TokenRow.ofRest (line + 1) opened fuel rest
        else
          (TokenRow.behindLines (line + 1) rest fun line behind =>
            TokenRow.ofRest line opened fuel behind).behind (token (.sign "\n"))
      else if c = '#' then TokenRow.ofRest line opened fuel (rest.dropWhile (· ≠ '\n'))
      else
        match textMark? s with
        | some mark =>
          match passQuoted line (s.drop mark.length) with
          | .error f => .stop f
          | .ok behind =>
            let own := s.take (s.length - behind.length)
            let ends := (own.filter (· == '\n')).length
            (TokenRow.ofRest (line + ends) opened fuel behind).behind
              (token (textKind mark (own.drop mark.length)))
        | none =>
          if Text.isPlainDigit c || (c == '.' && (rest.head?.map Text.isPlainDigit).getD false) then
            match passNumber s with
            | .error f => .stop f
            | .ok behind =>
              next (.number (Numeral.ofText (s.take (s.length - behind.length)))) behind
          else if opensName c then
            let name := s.takeWhile extendsName
            match nameFault? name with
            | some f => .stop f
            | none => next (.name (name == ['_'])) (s.drop name.length)
          else if c = '\\' then
            match rest with
            | '\n' :: more => TokenRow.ofRest (line + 1) opened fuel more
            | _ => ⟨[token (.fault .strayBackslash)], none⟩
          else if isOpening c then
            if bracketLimit ≤ opened.length then .stop .deepBrackets
            else
              (TokenRow.ofRest line ((c, line) :: opened) fuel rest).behind
                ⟨.sign c.toString, opened.length + 1, line⟩
          else
            match openingOf? c, opened with
            | some _, [] => .stop (.unmatched c)
            | some o, (p, first) :: outer =>
              if o = p then
                (TokenRow.ofRest line outer fuel rest).behind ⟨.sign c.toString, outer.length, line⟩
              else .stop (mismatch c p line first)
            | none, _ =>
              if !Text.isPrinted c then .stop (.hiddenCharacter c)
              else
                let sign := signAt c rest
                next (.sign sign) (s.drop sign.length)

/-- The tokens of a row of which the last bracket is never closed, up to the line of the bracket: a
reader that gets any further finds it open. -/
def TokenRow.upToOpen (row : TokenRow) : TokenRow :=
  match row.tokens.getLast? with
  | some ⟨.fault (.neverClosed o), level, line⟩ =>
    { row with
      tokens := row.tokens.takeWhile (·.line ≤ line) ++ [⟨.fault (.neverClosed o), level, line⟩] }
  | _ => row

/-- The tokens of a text. -/
def TokenRow.ofText (s : List Char) : TokenRow :=
  if s.any fun c => c.toNat == 0 then .stop .nullCharacter
  else
    let unified := (Text.unifyEnds s).dropWhile fun c => c == ' ' || c == '\t'
    (TokenRow.behindLines 1 unified fun line behind =>
      TokenRow.ofRest line [] (s.length + 1) behind).upToOpen

end OpcodeAtlas.Handler
