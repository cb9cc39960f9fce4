import OpcodeAtlas.Schema.Integer
import OpcodeAtlas.Schema.Issue
import OpcodeAtlas.Text.Surrogate
import OpcodeAtlas.Text.Utf8
import OpcodeAtlas.Value.Shown

/-!
# Checks of single values

What counts as a text, a switch, a whole number and one of some words. Texts are also taken from
bytes in UTF-8; switches from 0 and 1 and from some words; whole numbers from switches, from whole
floating-point numbers and from texts.
-/

set_option autoImplicit false

namespace OpcodeAtlas.Schema

/-! ## Texts -/

/-- A text as it is. -/
def text : Value → Checked String
  | .text s => .ok s
  | .bytes bs =>
    match Text.Utf8.decode bs with
    | .ok chars => .ok (String.ofList chars)
    | .error _ => Checked.refuse .undecodableText
  | _ => Checked.refuse .notText

/-- A text with at least one character, all of which can be encoded. -/
def filledText (v : Value) : Checked String :=
  match text v with
  | .ok s =>
    if !Text.isEncodable s.toList then Checked.refuse .undecodableText
    else if s = "" then Checked.refuse .textTooShort
    else .ok s
  | .error issues => .error issues

/-- Numbers and dates as texts; everything else stays as it is. -/
def spelled : Value → Except IssueCause Value
  | .int n =>
    match Number.writeInteger n with
    | .ok s => .ok (.text s)
    | .error f => .error (.rule f.message)
  | .float x => .ok (.text x.valueText)
  | .date d => .ok (.text d.text)
  | .moment m => .ok (.text m.text)
  | v => .ok v

/-- Check the spelled form of a value. -/
def spelledAs {α : Type} (check : Value → Checked α) (v : Value) : Checked α :=
  match spelled v with
  | .ok s => check s
  | .error cause => Checked.refuse cause

/-! ## Optional values and rows -/

/-- A value that may be null. -/
def optional {α : Type} (check : Value → Checked α) : Value → Checked (Option α)
  | .null => .ok none
  | v => (check v).map some

/-- The parts of a row; a value that is no row is its only part. -/
def parts (v : Value) : List Value := v.items?.getD [v]

/-- A row, or a single value in place of a row with one part. -/
def rowOf {α : Type} (check : Value → Checked α) (v : Value) : Checked (List α) :=
  Checked.row ((parts v).map check)

/-- A row of texts, in which numbers and dates count as texts. -/
def texts (v : Value) : Checked (List String) :=
  match (parts v).mapM spelled with
  | .ok items => Checked.row (items.map text)
  | .error cause => Checked.refuse cause

/-! ## Switches -/

/-- The words for on. -/
def onWords : List String := ["1", "on", "t", "true", "y", "yes"]

/-- The words for off. -/
def offWords : List String := ["0", "off", "f", "false", "n", "no"]

/-- The switch that a word is, letter case aside. -/
def switchOf (s : String) : Checked Bool :=
  let word := String.ofList (s.toList.map Char.toLower)
  if onWords.contains word then .ok true
  else if offWords.contains word then .ok false
  else Checked.refuse .unknownSwitch

/-- Whether a whole number fits in 64 bits with a sign. -/
def fits64 (n : Int) : Bool :=
  decide (-0x8000000000000000 ≤ n) && decide (n < 0x8000000000000000)

/-- Whether a whole number that a double is equal to is taken: below `2 ^ 63` in size. -/
def fitsDouble (n : Int) : Bool := decide (n.natAbs < 0x8000000000000000)

/-- The switch that a whole number is. -/
def switchOfInt (n : Int) : Checked Bool :=
  if n = 0 then .ok false
  else if n = 1 then .ok true
  else if fits64 n then Checked.refuse .unknownSwitch
  else Checked.refuse .notSwitch

/-- A switch. -/
def switch : Value → Checked Bool
  | .bool on => .ok on
  | .int n => switchOfInt n
  | .float x =>
    match x.toInt? with
    | some n => if fitsDouble n then switchOfInt n else Checked.refuse .notSwitch
    | none => Checked.refuse .notSwitch
  | .text s =>
    if Text.isEncodable s.toList then switchOf s else Checked.refuse .undecodableText
  | .bytes bs =>
    match Text.Utf8.decode bs with
    | .ok chars => switchOf (String.ofList chars)
    | .error _ => Checked.refuse .unknownSwitch
  | _ => Checked.refuse .notSwitch

/-! ## Whole numbers -/

/-- A whole number. -/
def integer : Value → Checked Int
  | .bool on => .ok (if on then 1 else 0)
  | .int n => .ok n
  | .float x =>
    if !x.isFinite then Checked.refuse .infiniteInteger
    else
      match x.toInt? with
      | none => Checked.refuse .fractionalInteger
      | some n => if fitsDouble n then .ok n else Checked.refuse .oversizedInteger
  | .text s =>
    if Text.isEncodable s.toList then Integer.ofText s.toList
    else Checked.refuse .undecodableText
  | .bytes bs =>
    match Text.Utf8.decode bs with
    | .ok chars => Integer.ofText chars
    | .error _ => Checked.refuse .unreadableInteger
  | _ => Checked.refuse .notInteger

/-- A whole number from 1 on. -/
def positive (v : Value) : Checked Nat :=
  match integer v with
  | .ok n => if n < 1 then Checked.refuse (.below 1) else .ok n.toNat
  | .error issues => .error issues

/-! ## Choices -/

/-- One of some words. -/
def choice {α : Type} (words : List (String × α)) (v : Value) : Checked α :=
  let refusal := IssueCause.notOneOf (words.map (·.1))
  let pick := fun s =>
    match words.lookup s with
    | some a => .ok a
    | none => Checked.refuse refusal
  match v with
  | .text s => pick s
  | .bytes bs =>
    match Text.Utf8.decode bs with
    | .ok chars => pick (String.ofList chars)
    | .error _ => Checked.refuse refusal
  | _ => Checked.refuse refusal

end OpcodeAtlas.Schema
