import OpcodeAtlas.Number.Decimal
import OpcodeAtlas.Number.Reading
import OpcodeAtlas.Text.Quoted
import OpcodeAtlas.Value.Basic

/-!
# Values as text

A value by itself is shown plainly (`Value.shown`): a text as it is, a day or a moment in its
written form. Inside a list, a map or a set it is shown in detail (`Value.detail`): a text is
quoted, a day or a moment spells its parts, and a collection inside itself is left out.
`Value.isShowable` tells whether all whole numbers in a
value are within the limit of digits that numbers are written with.
-/

set_option autoImplicit false

namespace OpcodeAtlas

namespace Value

/-- The spelling of a switch. -/
def switchText (on : Bool) : String := if on then "True" else "False"

/-- What stands for a collection inside itself. -/
def ellipsis : Value → String
  | .map _ => "\x7b...\x7d"
  | _ => "[...]"

mutual

/-- The detailed form of a value inside of marked collections, which are given with what stands for
them. -/
def detailIn (around : List (Nat × String)) : Value → String
  | .null => "None"
  | .bool on => switchText on
  | .int n => toString n
  | .float x => x.valueText
  | .text s => Text.quotedString s
  | .list items => "[" ++ ", ".intercalate (detailsIn around items) ++ "]"
  | .tuple [v] => "(" ++ detailIn around v ++ ",)"
  | .tuple items => "(" ++ ", ".intercalate (detailsIn around items) ++ ")"
  | .map entries => "\x7b" ++ ", ".intercalate (entryDetailsIn around entries) ++ "\x7d"
  | .set [] => "set()"
  | .set members => "\x7b" ++ ", ".intercalate (detailsIn around members) ++ "\x7d"
  | .date d => d.detail
  | .moment m => m.detail
  | .time c => c.detail
  | .bytes bs => String.ofList (Text.quotedBytes bs)
  | .path p => "PosixPath(" ++ Text.quotedString p ++ ")"
  | .marked m v =>
    match around.lookup m with
    | some s => s
    | none => detailIn ((m, ellipsis v) :: around) v
  | .again m => (around.lookup m).getD "..."

/-- The detailed forms of a row of values. -/
def detailsIn (around : List (Nat × String)) : List Value → List String
  | [] => []
  | v :: vs => detailIn around v :: detailsIn around vs

/-- The detailed forms of the entries of a map. -/
def entryDetailsIn (around : List (Nat × String)) : List (Value × Value) → List String
  | [] => []
  | (k, v) :: rest =>
    (detailIn around k ++ ": " ++ detailIn around v) :: entryDetailsIn around rest

end

/-- The detailed form of a value. -/
def detail (v : Value) : String := detailIn [] v

/-- The plain form of a value. -/
def shown : Value → String
  | .text s => s
  | .date d => d.text
  | .moment m => m.textWith " "
  | .time c => c.text
  | .path p => p
  | v => v.detail

mutual

/-- Whether all whole numbers in a value can be written. -/
def isShowable : Value → Bool
  | .int n => decide (n.natAbs < Nat.pow 10 digitLimit)
  | .list items => areShowable items
  | .tuple items => areShowable items
  | .set members => areShowable members
  | .map entries => areEntriesShowable entries
  | .marked _ v => isShowable v
  | _ => true

/-- Whether all whole numbers in a row of values can be written. -/
def areShowable : List Value → Bool
  | [] => true
  | v :: vs => isShowable v && areShowable vs

/-- Whether all whole numbers in the entries of a map can be written. -/
def areEntriesShowable : List (Value × Value) → Bool
  | [] => true
  | (k, v) :: rest => isShowable k && isShowable v && areEntriesShowable rest

end

/-- Whether a value counts as something: not null, off, zero or empty. -/
def isTruthy : Value → Bool
  | .null => false
  | .bool on => on
  | .int n => n != 0
  | .float x =>
    match x with
    | .finite _ m _ => m != 0
    | _ => true
  | .text s => s != ""
  | .list items => !items.isEmpty
  | .tuple items => !items.isEmpty
  | .map entries => !entries.isEmpty
  | .set members => !members.isEmpty
  | .bytes bs => !bs.isEmpty
  | .date _ => true
  | .moment _ => true
  | .time _ => true
  | .path _ => true
  | .marked _ v => isTruthy v
  | .again _ => true

end Value

end OpcodeAtlas
