import OpcodeAtlas.Text.Utf8
import OpcodeAtlas.Yaml.Scalar

/-!
# Tokens of a YAML text

The structure that YAML expresses by indentation is told by tokens as well: `blockSequence` and
`blockMapping` open a level, `blockEnd` closes it. This module has the tokens that are read without
regard to indentation: names, tags and directives.

A text that cannot be cut into tokens to its end still gives those in front of the fault
(`TokenRow`). What reads them meets the fault only when it asks for a token behind them.
-/

set_option autoImplicit false

namespace OpcodeAtlas.Yaml

/-- A token. -/
inductive Token where
  /-- A directive that tells the version; its major number. -/
  | version (major : Nat)
  /-- A directive that tells what a handle stands for. -/
  | handle (name expansion : List Char)
  /-- Any other directive. -/
  | otherDirective
  | documentStart
  | documentEnd
  | blockSequence
  | blockMapping
  | blockEnd
  | flowSequence
  | flowSequenceEnd
  | flowMapping
  | flowMappingEnd
  | blockEntry
  | flowEntry
  | key
  | value
  | alias (name : List Char)
  | anchor (name : List Char)
  /-- A tag: its handle, unless it is given in full, and the rest. -/
  | tag (handle : Option (List Char)) (suffix : List Char)
  | scalar (text : List Char) (isPlain : Bool)
  deriving DecidableEq, Repr

namespace Token

/-! ## Names, tags and directives -/

/-- The name of an anchor or alias, behind its indicator. -/
def name? (cur : Cursor) : Option (List Char × Cursor) :=
  let name := cur.rest.takeWhile isNameChar
  let behind := cur.advance name.length
  if name.isEmpty then none
  else if atGap behind.rest ||
      startsWithAny ['?', ':', ',', ']', '\x7d', '%', '@', Char.ofNat 96] behind.rest then
    some (name, behind)
  else none

/-- The characters of a tag, other than letters, digits, `-` and `_`. -/
def uriMarks : List Char :=
  [';', '/', '?', ':', '@', '&', '=', '+', '$', ',', '.', '!', '~', '*', Char.ofNat 39, '(', ')',
    '[', ']']

/-- Bytes in hexadecimal, each behind a percent sign. -/
def uriBytes? : Nat → Cursor → Option (List UInt8 × Cursor)
  | 0, _ => none
  | fuel + 1, cur =>
    match cur.rest with
    | '%' :: rest =>
      match hexNumber? 2 0 rest with
      | none => none
      | some n => (uriBytes? fuel (cur.advance 3)).map fun r => (UInt8.ofNat n :: r.1, r.2)
    | _ => some ([], cur)

/-- The characters of a tag that start a text. -/
def uriChars? : Nat → Cursor → Option (List Char × Cursor)
  | 0, _ => none
  | fuel + 1, cur =>
    match cur.rest with
    | [] => some ([], cur)
    | c :: _ =>
      if c = '%' then
        match uriBytes? (cur.rest.length + 1) cur with
        | none => none
        | some (bytes, behind) =>
          match Text.Utf8.decode bytes with
          | .error _ => none
          | .ok chars => (uriChars? fuel behind).map fun r => (chars ++ r.1, r.2)
      else if isNameChar c || uriMarks.contains c then
        (uriChars? fuel cur.step).map fun r => (c :: r.1, r.2)
      else some ([], cur)

/-- The text of a tag; it must not be empty. -/
def uri? (cur : Cursor) : Option (List Char × Cursor) :=
  match uriChars? (cur.rest.length + 1) cur with
  | none => none
  | some (chars, behind) =>
    if behind.index = cur.index then none else some (chars, behind)

/-- The handle that a text starts with: a `!`, alone or with a name and a second `!`. -/
def handle? (cur : Cursor) : Option (List Char × Cursor) :=
  match cur.rest with
  | '!' :: rest =>
    if rest.head? = some ' ' then some (['!'], cur.step)
    else
      let name := rest.takeWhile isNameChar
      match rest.drop name.length with
      | '!' :: _ => some ('!' :: name ++ ['!'], cur.advance (name.length + 2))
      | _ => none
  | _ => none

/-- A tag, with the cursor on its `!`. -/
def tag? (cur : Cursor) : Option (Token × Cursor) :=
  let result : Option (Token × Cursor) :=
    match cur.rest.drop 1 with
    | '<' :: _ =>
      match uri? (cur.advance 2) with
      | none => none
      | some (suffix, behind) =>
        if behind.rest.head? = some '>' then some (.tag none suffix, behind.step) else none
    | rest =>
      if atGap rest then some (.tag none ['!'], cur.step)
      else if (rest.takeWhile fun c => !(c == ' ' || isBreak c)).contains '!' then
        match handle? cur with
        | none => none
        | some (name, behind) =>
          (uri? behind).map fun r => (.tag (some name) r.1, r.2)
      else (uri? cur.step).map fun r => (.tag (some ['!']) r.1, r.2)
  match result with
  | none => none
  | some (token, behind) => if atBlank behind.rest then some (token, behind) else none

/-- A number of a version. -/
def versionNumber? (cur : Cursor) : Option (Nat × Cursor) :=
  let digits := cur.rest.takeWhile Text.isPlainDigit
  if digits.isEmpty || decide (4300 < digits.length) then none
  else some (Text.basedValue 10 digits, cur.advance digits.length)

/-- The version in a directive. -/
def version? (cur : Cursor) : Option (Token × Cursor) :=
  match versionNumber? (cur.skipWhile (· == ' ')) with
  | none => none
  | some (major, behind) =>
    if behind.rest.head? ≠ some '.' then none
    else
      match versionNumber? behind.step with
      | none => none
      | some (_, behind) => if atBlank behind.rest then some (.version major, behind) else none

/-- The handle and its expansion in a directive. -/
def handleDirective? (cur : Cursor) : Option (Token × Cursor) :=
  match handle? (cur.skipWhile (· == ' ')) with
  | none => none
  | some (name, behind) =>
    if behind.rest.head? ≠ some ' ' then none
    else
      match uri? (behind.skipWhile (· == ' ')) with
      | none => none
      | some (expansion, behind) =>
        if atBlank behind.rest then some (.handle name expansion, behind) else none

/-- A directive, with the cursor on its percent sign. -/
def directive? (cur : Cursor) : Option (Token × Cursor) :=
  let cur := cur.step
  let name := cur.rest.takeWhile isNameChar
  let behind := cur.advance name.length
  if name.isEmpty || !atBlank behind.rest then none
  else
    let result :=
      if name = ['Y', 'A', 'M', 'L'] then version? behind
      else if name = ['T', 'A', 'G'] then handleDirective? behind
      else some (.otherDirective, behind.skipLine)
    match result with
    | none => none
    | some (token, behind) => behind.finishLine?.map fun cur => (token, cur)

end Token

/-! ## Rows of tokens -/

/-- The tokens of a text and the fault behind them; without one, the text ends there. -/
structure TokenRow where
  tokens : List Token
  fault : Option Fault := none
  deriving DecidableEq, Repr

namespace TokenRow

/-- The next token, or none at the end of the text. -/
def peek (row : TokenRow) : Except Fault (Option Token) :=
  match row.tokens, row.fault with
  | t :: _, _ => .ok (some t)
  | [], none => .ok none
  | [], some f => .error f

/-- The row behind the next token. -/
def rest (row : TokenRow) : TokenRow := { row with tokens := row.tokens.drop 1 }

end TokenRow

end OpcodeAtlas.Yaml
