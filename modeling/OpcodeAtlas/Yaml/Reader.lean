import OpcodeAtlas.Yaml.Token

/-!
# Reading YAML tokens

`TokenRow.ofText` cuts a YAML text into tokens.

A key is recognised by the colon behind it. Whatever may turn out to be a key is remembered
(`PossibleKey`), and the tokens that make it one are inserted in front of it when the colon is met.
A possible key is on one line and at most 1024 characters long; where a block mapping needs one
(`required`), failing to become a key is an error.

A token is settled once nothing can be inserted in front of it any more. Where the reading fails,
the settled tokens are all that the text gives (`settled`): the others would not have been asked for
before the text behind them was read.
-/

set_option autoImplicit false

namespace OpcodeAtlas.Yaml

/-- A token that may turn out to be a key: how many tokens precede it, where it starts, and whether
it has to be one. -/
structure PossibleKey where
  number : Nat
  index : Nat
  line : Nat
  column : Nat
  required : Bool
  deriving DecidableEq, Repr

/-- The state of the reading. -/
structure Reader where
  cursor : Cursor
  /-- The column of the innermost block level. -/
  indent : Int := -1
  /-- The columns of the enclosing block levels, innermost first. -/
  outer : List Int := []
  /-- Whether a key may start here. -/
  keyAllowed : Bool := true
  /-- The possible key of each bracket level, innermost first, the level outside of all brackets
  last. -/
  keys : List (Option PossibleKey) := [none]
  /-- The tokens, latest first. -/
  tokens : List Token := []
  /-- Whether the text is read to its end. -/
  isDone : Bool := false
  deriving DecidableEq, Repr

namespace Reader

/-- Whether the place is between brackets. -/
def inFlow (r : Reader) : Bool := decide (1 < r.keys.length)

/-- Append a token. -/
def emit (r : Reader) (t : Token) : Reader := { r with tokens := t :: r.tokens }

/-- Insert a token behind the first `number` ones. -/
def insert (r : Reader) (number : Nat) (t : Token) : Reader :=
  let later := r.tokens.length - number
  { r with tokens := r.tokens.take later ++ t :: r.tokens.drop later }

/-- Set whether a key may start here. -/
def allowKey (r : Reader) (allowed : Bool) : Reader := { r with keyAllowed := allowed }

/-- Move to a place. -/
def moveTo (r : Reader) (cur : Cursor) : Reader := { r with cursor := cur }

/-- The possible key of the innermost bracket level. -/
def possibleKey (r : Reader) : Option PossibleKey := (r.keys.head?).join

/-- Set the possible key of the innermost bracket level. -/
def setKey (r : Reader) (key : Option PossibleKey) : Reader :=
  { r with keys := key :: r.keys.drop 1 }

/-- Forget the possible key of the innermost bracket level, unless it is required. -/
def dropKey? (r : Reader) : Option Reader :=
  match r.possibleKey with
  | some possible => if possible.required then none else some (r.setKey none)
  | none => some r

/-- Remember that a key may start here, if one may. -/
def saveKey? (r : Reader) : Option Reader :=
  if r.keyAllowed then
    r.dropKey?.map fun r =>
      r.setKey (some
        { number := r.tokens.length
          index := r.cursor.index
          line := r.cursor.line
          column := r.cursor.column
          required := !r.inFlow && decide (r.indent = r.cursor.column) })
  else some r

/-- Whether a possible key cannot be one any more. -/
def isStale (r : Reader) (key : PossibleKey) : Bool :=
  key.line != r.cursor.line || decide (1024 < r.cursor.index - key.index)

/-- Forget the possible keys that cannot be keys any more, unless one of them is required. -/
def dropStale? (r : Reader) : Option Reader :=
  if r.keys.any fun k => k.any fun key => r.isStale key && key.required then none
  else some { r with keys := r.keys.map fun k => k.filter fun key => !r.isStale key }

/-- The tokens in front of which nothing can be inserted any more: those in front of all possible
keys. -/
def settled (r : Reader) : List Token :=
  let waiting := r.keys.filterMap fun k => k.filter fun key => !r.isStale key
  r.tokens.reverse.take ((waiting.map PossibleKey.number).foldl min r.tokens.length)

/-- Close the block levels that are indented deeper than a column. -/
def closeTo (column : Int) (indent : Int) (tokens : List Token) :
    List Int → Int × List Int × List Token
  | [] => (indent, [], tokens)
  | outer :: rest =>
    if column < indent then closeTo column outer (.blockEnd :: tokens) rest
    else (indent, outer :: rest, tokens)

/-- Close the block levels that are indented deeper than a column; between brackets none is. -/
def unwind (r : Reader) (column : Int) : Reader :=
  if r.inFlow then r
  else
    let result := closeTo column r.indent r.tokens r.outer
    { r with indent := result.1, outer := result.2.1, tokens := result.2.2 }

/-- Open a block level if a column is deeper than the innermost one; its token goes behind the
first `number` tokens. -/
def openLevel (r : Reader) (column : Nat) (number : Nat) (t : Token) : Reader :=
  if r.indent < column then
    ({ r with indent := column, outer := r.indent :: r.outer }).insert number t
  else r

/-- Read blanks, comments and line ends. -/
def skipToToken : Nat → Reader → Reader
  | 0, r => r
  | fuel + 1, r =>
    let cur := r.cursor.skipWhile (· == ' ')
    let cur := if startsWithAny ['#'] cur.rest then cur.skipLine else cur
    let (kept, behind) := cur.takeBreak
    if kept.isEmpty then r.moveTo cur
    else skipToToken fuel ((r.moveTo behind).allowKey (r.keyAllowed || !r.inFlow))

/-! ## One token -/

/-- A token outside of all levels: a directive or a document mark. -/
def topLevel? (r : Reader) (read : Option (Token × Cursor)) : Option Reader :=
  ((r.unwind (-1)).dropKey?).bind fun r =>
    read.map fun t => ((r.moveTo t.2).allowKey false).emit t.1

/-- An opening bracket. -/
def openFlow? (r : Reader) (t : Token) : Option Reader :=
  r.saveKey?.map fun r =>
    (({ r with keys := none :: r.keys }).allowKey true |>.moveTo r.cursor.step).emit t

/-- A closing bracket. -/
def closeFlow? (r : Reader) (t : Token) : Option Reader :=
  if r.inFlow then
    r.dropKey?.map fun r =>
      (({ r with keys := r.keys.drop 1 }).allowKey false |>.moveTo r.cursor.step).emit t
  else none

/-- A comma between brackets. -/
def flowEntry? (r : Reader) : Option Reader :=
  (r.allowKey true).dropKey?.map fun r => (r.moveTo r.cursor.step).emit .flowEntry

/-- The indicator of an entry of a block sequence. -/
def blockEntry? (r : Reader) : Option Reader :=
  if !r.inFlow && !r.keyAllowed then none
  else
    let r := if r.inFlow then r
      else r.openLevel r.cursor.column r.tokens.length .blockSequence
    (r.allowKey true).dropKey?.map fun r => (r.moveTo r.cursor.step).emit .blockEntry

/-- The indicator of a key. -/
def key? (r : Reader) : Option Reader :=
  if !r.inFlow && !r.keyAllowed then none
  else
    let r := if r.inFlow then r
      else r.openLevel r.cursor.column r.tokens.length .blockMapping
    (r.allowKey !r.inFlow).dropKey?.map fun r => (r.moveTo r.cursor.step).emit .key

/-- The indicator of a value. It turns the possible key in front of it into one. -/
def value? (r : Reader) : Option Reader :=
  match r.possibleKey with
  | some possible =>
    -- What is a key was read as a node before its colon was met.
    let r := (r.setKey none).insert possible.number .key
    let r := if r.inFlow then r else r.openLevel possible.column possible.number .blockMapping
    some (((r.allowKey false).moveTo r.cursor.step).emit .value)
  | none =>
    if !r.inFlow && !r.keyAllowed then none
    else
      let r := if r.inFlow then r
        else r.openLevel r.cursor.column r.tokens.length .blockMapping
      (r.allowKey !r.inFlow).dropKey?.map fun r => (r.moveTo r.cursor.step).emit .value

/-- A token that may start a key. -/
def keyStart? (r : Reader) (read : Option (Token × Cursor)) : Option Reader :=
  r.saveKey?.bind fun r => read.map fun t => ((r.moveTo t.2).allowKey false).emit t.1

/-- A plain text. A key may follow where it ended with a line. -/
def plain? (r : Reader) : Option Reader :=
  r.saveKey?.map fun r =>
    let (text, gap) := Scalar.plain r.inFlow (r.indent + 1) r.cursor
    ((r.moveTo gap.cursor).allowKey gap.hasBreak).emit (.scalar text true)

/-- A text between quotes. -/
def quoted (r : Reader) : Except Fault Reader := do
  let r ← require r.saveKey?
  let (text, behind) ← Scalar.quoted r.cursor
  return ((r.moveTo behind).allowKey false).emit (.scalar text false)

/-- A block of lines. -/
def block? (r : Reader) (folded : Bool) : Option Reader :=
  (r.allowKey true).dropKey?.bind fun r =>
    (Scalar.block? folded r.indent r.cursor).map fun t => (r.moveTo t.2).emit (.scalar t.1 false)

/-- The characters that start no plain text. -/
def indicators : List Char :=
  ['-', '?', ':', ',', '[', ']', '\x7b', '\x7d', '#', '&', '*', '!', '|', '>', Char.ofNat 39,
    Char.ofNat 34, '%', '@', Char.ofNat 96]

/-- Whether a plain text may start with a character. -/
def startsPlain (inFlow : Bool) (c : Char) (rest : List Char) : Bool :=
  !(isBlankOrTab c || isBreak c || indicators.contains c) ||
    (!atGap rest && (c == '-' || (!inFlow && (c == '?' || c == ':'))))

/-- Read the token that starts at a character, unless it is a text between quotes. -/
def token? (r : Reader) (c : Char) (rest : List Char) : Option Reader :=
  let cur := r.cursor
  if c = '%' ∧ cur.column = 0 then r.topLevel? (Token.directive? cur)
  -- Marks of documents count at the start of a line only, and close all levels.
  else if cur.column = 0 ∧ startsWithMark '-' cur.rest then
    r.topLevel? (some (.documentStart, cur.advance 3))
  else if cur.column = 0 ∧ startsWithMark '.' cur.rest then
    r.topLevel? (some (.documentEnd, cur.advance 3))
  else if c = '[' then r.openFlow? .flowSequence
  else if c = '\x7b' then r.openFlow? .flowMapping
  else if c = ']' then r.closeFlow? .flowSequenceEnd
  else if c = '\x7d' then r.closeFlow? .flowMappingEnd
  else if c = ',' then r.flowEntry?
  else if c = '-' ∧ atGap rest then r.blockEntry?
  else if c = '?' ∧ (r.inFlow || atGap rest) then r.key?
  else if c = ':' ∧ (r.inFlow || atGap rest) then r.value?
  else if c = '*' then r.keyStart? ((Token.name? cur.step).map fun t => (Token.alias t.1, t.2))
  else if c = '&' then r.keyStart? ((Token.name? cur.step).map fun t => (.anchor t.1, t.2))
  else if c = '!' then r.keyStart? (Token.tag? cur)
  else if c = '|' ∧ !r.inFlow then r.block? false
  else if c = '>' ∧ !r.inFlow then r.block? true
  else if startsPlain r.inFlow c rest then r.plain?
  else none

/-- Close all levels at the end of the text. -/
def finish (r : Reader) : Except Fault Reader :=
  (require (r.unwind (-1)).dropKey?).map fun r => { r with isDone := true }

/-- Read the next token, or close all levels where there is none. -/
def next (r : Reader) : Except Fault Reader := do
  let r ← require (skipToToken (r.cursor.rest.length + 1) r).dropStale?
  let r := r.unwind r.cursor.column
  match r.cursor.rest with
  | [] => r.finish
  | c :: rest => if c.toNat = 39 ∨ c.toNat = 34 then r.quoted else require (r.token? c rest)

/-- Read all tokens; each takes up at least one character. -/
def run : Nat → Reader → TokenRow
  | 0, r => ⟨r.settled, some .malformed⟩
  | fuel + 1, r =>
    match r.next with
    | .error f => ⟨r.settled, some f⟩
    | .ok r => if r.isDone then ⟨r.tokens.reverse, none⟩ else run fuel r

end Reader

/-- The tokens of a text, all of whose characters have to be allowed. A byte order mark in front of
it does not count. -/
def TokenRow.ofText (text : List Char) : TokenRow :=
  if text.all isAllowed then
    let start : Cursor := ⟨text, 0, 0, 0⟩
    let start := if (text.head?.map Char.toNat) = some 0xfeff then start.step else start
    Reader.run (text.length + 1) { cursor := start }
  else ⟨[], some .malformed⟩

end OpcodeAtlas.Yaml
