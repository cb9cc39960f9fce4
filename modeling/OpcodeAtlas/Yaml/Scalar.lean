import OpcodeAtlas.Yaml.Cursor
import OpcodeAtlas.Yaml.Fault

/-!
# Texts of YAML scalars

The four ways in which YAML writes a text: between quotes (`quoted`), plainly (`plain`), and as a
block of lines (`block?`), whose lines are kept or folded. A line end inside a quoted or plain text
becomes a blank, and line ends that follow it are kept.
-/

set_option autoImplicit false

namespace OpcodeAtlas.Yaml

namespace Scalar

/-! ## Quoted texts -/

/-- What a letter stands for behind a backslash. -/
def escape? (c : Char) : Option Char :=
  match c with
  | '0' => some (Char.ofNat 0)
  | 'a' => some (Char.ofNat 7)
  | 'b' => some (Char.ofNat 8)
  | 't' => some '\t'
  | '\t' => some '\t'
  | 'n' => some '\n'
  | 'v' => some (Char.ofNat 11)
  | 'f' => some (Char.ofNat 12)
  | 'r' => some '\r'
  | 'e' => some (Char.ofNat 27)
  | ' ' => some ' '
  | '\\' => some '\\'
  | '/' => some '/'
  | 'N' => some (Char.ofNat 0x85)
  | '_' => some (Char.ofNat 0xa0)
  | 'L' => some (Char.ofNat 0x2028)
  | 'P' => some (Char.ofNat 0x2029)
  | _ => if c.toNat = 34 then some c else none

/-- How many hexadecimal digits follow a letter behind a backslash. -/
def escapeWidth? (c : Char) : Option Nat :=
  match c with
  | 'x' => some 2
  | 'u' => some 4
  | 'U' => some 8
  | _ => none

/-- The line ends, and the blanks in front of them, that start a text; a document mark must not
follow a line end. -/
def quotedBreaks? : Nat → Cursor → Option (List Char × Cursor)
  | 0, _ => none
  | fuel + 1, cur =>
    if startsWithDocumentMark cur.rest then none
    else
      let cur := cur.skipWhile isBlankOrTab
      let (kept, behind) := cur.takeBreak
      if kept.isEmpty then some ([], cur)
      else (quotedBreaks? fuel behind).map fun r => (kept ++ r.1, r.2)

/-- What blanks and line ends amount to inside a quoted text. -/
def quotedGap? (cur : Cursor) : Option (List Char × Cursor) :=
  let blanks := cur.rest.takeWhile isBlankOrTab
  let cur := cur.advance blanks.length
  if cur.rest.isEmpty then none
  else
    let (kept, behind) := cur.takeBreak
    if kept.isEmpty then some (blanks, cur)
    else
      (quotedBreaks? (behind.rest.length + 1) behind).map fun r =>
        (if kept ≠ ['\n'] then kept ++ r.1 else if r.1.isEmpty then [' '] else r.1, r.2)

/-- The character with a number. Numbers of up to 31 bits are found out to be none of a character;
greater ones are not. -/
def numbered (n : Nat) : Except Fault Char :=
  if n ≤ 0x10ffff then .ok (Text.holderOf n)
  else if n ≤ 0x7fffffff then .error .malformed
  else .error (.scalar .oversizedEscape)

/-- A backslash escape, with the cursor on the character behind the backslash. -/
def quotedEscape (cur : Cursor) : Except Fault (List Char × Cursor) :=
  match cur.rest with
  | [] => .error .malformed
  | c :: rest =>
    match escape? c with
    | some d => .ok ([d], cur.step)
    | none =>
      match escapeWidth? c with
      | some width => do
        let d ← numbered (← require (hexNumber? width 0 rest))
        return ([d], cur.advance (width + 1))
      | none =>
        if isBreak c then
          let behind := cur.takeBreak.2
          require (quotedBreaks? (behind.rest.length + 1) behind)
        else .error .malformed

/-- A run of a quoted text up to its closing quote, a blank or a line end. -/
def quotedRun (quote : Char) : Nat → Cursor → Except Fault (List Char × Cursor)
  | 0, _ => .error .malformed
  | fuel + 1, cur =>
    match cur.rest with
    | [] => .ok ([], cur)
    | c :: rest =>
      if isBlankOrTab c || isBreak c then .ok ([], cur)
      else if c = quote then
        if quote.toNat = 39 ∧ rest.head? = some quote then
          (quotedRun quote fuel (cur.advance 2)).map fun r => (quote :: r.1, r.2)
        else .ok ([], cur)
      else if c = '\\' ∧ quote.toNat ≠ 39 then do
        let (chars, behind) ← quotedEscape cur.step
        (quotedRun quote fuel behind).map fun r => (chars ++ r.1, r.2)
      else (quotedRun quote fuel cur.step).map fun r => (c :: r.1, r.2)

/-- A quoted text from behind its opening quote to behind its closing one. -/
def quotedBody (quote : Char) : Nat → Cursor → Except Fault (List Char × Cursor)
  | 0, _ => .error .malformed
  | fuel + 1, cur => do
    let (run, cur) ← quotedRun quote (cur.rest.length + 1) cur
    if cur.rest.head? = some quote then return (run, cur.step)
    let (gap, cur) ← require (quotedGap? cur)
    (quotedBody quote fuel cur).map fun r => (run ++ gap ++ r.1, r.2)

/-- A text between quotes. -/
def quoted (cur : Cursor) : Except Fault (List Char × Cursor) :=
  match cur.rest with
  | [] => .error .malformed
  | quote :: _ => quotedBody quote (cur.rest.length + 1) cur.step

/-! ## Plain texts -/

/-- The characters that end a plain text between brackets. -/
def flowStops : List Char := [',', '?', '[', ']', '\x7b', '\x7d']

/-- The characters that end a plain text between brackets behind a colon. -/
def flowColonStops : List Char := [',', '[', ']', '\x7b', '\x7d']

/-- The longest plain text without blanks; `flow` tells whether it stands between brackets. -/
def plainRun (flow : Bool) : List Char → List Char
  | [] => []
  | c :: rest =>
    if isBlankOrTab c || isBreak c then []
    else if c = ':' ∧ (atGap rest || (flow && startsWithAny flowColonStops rest)) then []
    else if flow && flowStops.contains c then []
    else c :: plainRun flow rest

/-- The blanks and line ends behind the line end in a plain text: what is kept of them, or nothing
in front of a document mark. -/
def plainBreaks : Nat → Cursor → Option (List Char) × Cursor
  | 0, cur => (none, cur)
  | fuel + 1, cur =>
    let cur := cur.skipWhile (· == ' ')
    let (kept, behind) := cur.takeBreak
    if kept.isEmpty then (some [], cur)
    else if startsWithDocumentMark behind.rest then (none, behind)
    else
      let r := plainBreaks fuel behind
      (r.1.map (kept ++ ·), r.2)

/-- What follows a run of a plain text: what the gap amounts to, empty where the text ends, the
place behind it, and whether it held a line end. -/
structure Gap where
  text : List Char
  cursor : Cursor
  hasBreak : Bool
  deriving DecidableEq, Repr

/-- The gap behind a run of a plain text. -/
def plainGap (cur : Cursor) : Gap :=
  let blanks := cur.rest.takeWhile (· == ' ')
  let cur := cur.advance blanks.length
  let (kept, behind) := cur.takeBreak
  if kept.isEmpty then ⟨blanks, cur, false⟩
  else if startsWithDocumentMark behind.rest then ⟨[], behind, true⟩
  else
    match plainBreaks (behind.rest.length + 1) behind with
    | (none, cur) => ⟨[], cur, true⟩
    | (some more, cur) =>
      ⟨if kept ≠ ['\n'] then kept ++ more else if more.isEmpty then [' '] else more, cur, true⟩

/-- A plain text whose runs are joined by `gap`. Outside brackets, it goes on only on lines that
are indented by `indent`. -/
def plainFrom (flow : Bool) (indent : Int) : Nat → Gap → List Char × Gap
  | 0, gap => ([], gap)
  | fuel + 1, gap =>
    let run := plainRun flow gap.cursor.rest
    if startsWithAny ['#'] gap.cursor.rest || run.isEmpty then ([], gap)
    else
      let next := plainGap (gap.cursor.advance run.length)
      if next.text.isEmpty || startsWithAny ['#'] next.cursor.rest ||
          (!flow && decide ((next.cursor.column : Int) < indent)) then
        (gap.text ++ run, next)
      else
        let r := plainFrom flow indent fuel next
        (gap.text ++ run ++ r.1, r.2)

/-- A plain text, the place behind it, and whether a line end stands in front of that place. -/
def plain (flow : Bool) (indent : Int) (cur : Cursor) : List Char × Gap :=
  plainFrom flow indent (cur.rest.length + 1) ⟨[], cur, false⟩

/-! ## Blocks of lines -/

/-- What becomes of the line ends at the end of a block. -/
inductive Chomping where
  | strip
  | clip
  | keep
  deriving DecidableEq, Repr

/-- The indicators of a block: how it ends, and its indentation if it is told. -/
structure BlockHead where
  chomping : Chomping
  increment : Option Nat
  deriving DecidableEq, Repr

/-- The chomping that a character tells. -/
def chomping? (c : Char) : Option Chomping :=
  if c = '+' then some .keep else if c = '-' then some .strip else none

/-- The indentation that a character tells: a digit other than zero. -/
def increment? (c : Char) : Option Nat :=
  if 48 ≤ c.toNat ∧ c.toNat ≤ 57 then some (c.toNat - 48) else none

/-- The indicators of a block in either order. -/
def blockHead? (cur : Cursor) : Option (BlockHead × Cursor) :=
  let result : BlockHead × Cursor :=
    match cur.rest with
    | [] => (⟨.clip, none⟩, cur)
    | c :: rest =>
      match chomping? c, increment? c with
      | some chomping, _ =>
        match rest.head?.bind increment? with
        | some n => (⟨chomping, some n⟩, cur.advance 2)
        | none => (⟨chomping, none⟩, cur.step)
      | none, some n =>
        match rest.head?.bind chomping? with
        | some chomping => (⟨chomping, some n⟩, cur.advance 2)
        | none => (⟨.clip, some n⟩, cur.step)
      | none, none => (⟨.clip, none⟩, cur)
  if result.1.increment = some 0 then none
  else if atBlank result.2.rest then some result
  else none

/-- Blanks and line ends in front of the first line of a block: the line ends, and the greatest
column that the blanks reach. -/
def blockLead : Nat → Nat → Cursor → List Char × Nat × Cursor
  | 0, widest, cur => ([], widest, cur)
  | fuel + 1, widest, cur =>
    if startsWithAny [' '] cur.rest then blockLead fuel (max widest (cur.column + 1)) cur.step
    else
      let (kept, behind) := cur.takeBreak
      if kept.isEmpty then ([], widest, cur)
      else
        let r := blockLead fuel widest behind
        (kept ++ r.1, r.2)

/-- Move behind blanks in front of a column. -/
def skipIndent (indent : Nat) (cur : Cursor) : Cursor :=
  cur.advance ((cur.rest.take (indent - cur.column)).takeWhile (· == ' ')).length

/-- Empty lines of a block, up to the indentation of the line behind them. -/
def blockBreaks (indent : Nat) : Nat → Cursor → List Char × Cursor
  | 0, cur => ([], cur)
  | fuel + 1, cur =>
    let cur := skipIndent indent cur
    let (kept, behind) := cur.takeBreak
    if kept.isEmpty then ([], cur)
    else
      let r := blockBreaks indent fuel behind
      (kept ++ r.1, r.2)

/-- The lines of a block from a line on that `lead` empty lines precede: their text, the last line
end, and the empty lines behind it. -/
def blockLines (folded : Bool) (indent : Nat) :
    Nat → List Char → Cursor → List Char × List Char × List Char × Cursor
  | 0, lead, cur => ([], [], lead, cur)
  | fuel + 1, lead, cur =>
    let text := cur.rest.takeWhile (!isBreak ·)
    let (ending, behind) := (cur.advance text.length).takeBreak
    let (breaks, next) := blockBreaks indent (behind.rest.length + 1) behind
    if next.column = indent ∧ next.rest ≠ [] then
      let joint :=
        if folded && ending == ['\n'] && !startsWithAny [' ', '\t'] cur.rest &&
            !startsWithAny [' ', '\t'] next.rest then
          (if breaks.isEmpty then [' '] else [])
        else ending
      let r := blockLines folded indent fuel breaks next
      (lead ++ text ++ joint ++ r.1, r.2)
    else (lead ++ text, ending, breaks, next)

/-- A block of lines, with the cursor on its indicator. Its lines are indented deeper than
`indent`. -/
def block? (folded : Bool) (indent : Int) (cur : Cursor) : Option (List Char × Cursor) :=
  match blockHead? cur.step with
  | none => none
  | some (head, cur) =>
    match cur.finishLine? with
    | none => none
    | some cur =>
      let least := max 1 (indent + 1).toNat
      let size := cur.rest.length + 1
      let (lead, width, cur) :=
        match head.increment with
        | none =>
          let r := blockLead size 0 cur
          (r.1, max least r.2.1, r.2.2)
        | some n =>
          let r := blockBreaks (least + n - 1) size cur
          (r.1, least + n - 1, r.2)
      let (text, ending, trailing, cur) :=
        if cur.column = width ∧ cur.rest ≠ [] then blockLines folded width size lead cur
        else ([], [], lead, cur)
      match head.chomping with
      | .strip => some (text, cur)
      | .clip => some (text ++ ending, cur)
      | .keep => some (text ++ ending ++ trailing, cur)

end Scalar

end OpcodeAtlas.Yaml
