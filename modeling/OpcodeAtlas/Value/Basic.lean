import OpcodeAtlas.Number.Binary64
import OpcodeAtlas.Value.Calendar

/-!
# Values

What a header or a settings file can hold. A map keeps its entries in order; putting a key that
the map has already keeps the place and the spelling of the key and replaces what it stands for
(`Entries.put`). Keys are compared by `Value.sameKey`: numbers and switches by number, so that `1`,
`1.0` and on are one key, moments by the instant, everything else by itself. Lists, maps and sets
are no keys (`isKey`).

A list or a map may be reached from inside itself. Its parts are looked at through `items?` and
`entries?`, in which it takes the places that hold its mark.
-/

set_option autoImplicit false

namespace OpcodeAtlas

/-- A value. -/
inductive Value where
  | null
  | bool (on : Bool)
  | int (n : Int)
  | float (x : Binary64)
  | text (s : String)
  | list (items : List Value)
  /-- A fixed row of values, such as an entry of an ordered map. -/
  | tuple (items : List Value)
  | map (entries : List (Value × Value))
  | set (members : List Value)
  | date (d : Day)
  | moment (m : Moment)
  | time (c : Clock)
  | bytes (bs : List UInt8)
  | path (p : String)
  /-- A collection that is reached from inside itself; its places in there hold its mark. -/
  | marked (mark : Nat) (whole : Value)
  /-- The place of the collection around it that has a mark. -/
  | again (mark : Nat)

instance : Inhabited Value := ⟨.null⟩

namespace Value

/-- The name of the kind of a value, as messages give it. -/
def kindName : Value → String
  | .null => "NoneType"
  | .bool _ => "bool"
  | .int _ => "int"
  | .float _ => "float"
  | .text _ => "str"
  | .list _ => "list"
  | .tuple _ => "tuple"
  | .map _ => "dict"
  | .set _ => "set"
  | .date _ => "date"
  | .moment _ => "datetime"
  | .time _ => "time"
  | .bytes _ => "bytes"
  | .path _ => "PosixPath"
  | .marked _ whole => kindName whole
  | .again _ => "list"

/-- The name of the kind of a value, with the family that days, moments and times belong to. -/
def fullKindName : Value → String
  | .date _ => "datetime.date"
  | .moment _ => "datetime.datetime"
  | .time _ => "datetime.time"
  | v => v.kindName

/-! ## Collections -/

mutual

/-- A value with `whole` in the places that hold a mark. -/
def unfold (mark : Nat) (whole : Value) : Value → Value
  | .again m => if m = mark then whole else .again m
  | .marked m v => if m = mark then .marked m v else .marked m (unfold mark whole v)
  | .list items => .list (unfoldItems mark whole items)
  | .tuple items => .tuple (unfoldItems mark whole items)
  | .map entries => .map (unfoldEntries mark whole entries)
  | v => v

/-- A row of values with `whole` in the places that hold a mark. -/
def unfoldItems (mark : Nat) (whole : Value) : List Value → List Value
  | [] => []
  | v :: vs => unfold mark whole v :: unfoldItems mark whole vs

/-- The entries of a map with `whole` in the places that hold a mark. -/
def unfoldEntries (mark : Nat) (whole : Value) : List (Value × Value) → List (Value × Value)
  | [] => []
  | (k, v) :: rest => (k, unfold mark whole v) :: unfoldEntries mark whole rest

end

/-- A value whose parts can be looked at by themselves: a marked collection takes its own place
inside itself. -/
def opened : Value → Value
  | .marked m v => unfold m (.marked m v) v
  | v => v

/-- The items of a list or a tuple. -/
def items? (v : Value) : Option (List Value) :=
  match v.opened with
  | .list items => some items
  | .tuple items => some items
  | _ => none

/-- The entries of a map. -/
def entries? (v : Value) : Option (List (Value × Value)) :=
  match v.opened with
  | .map entries => some entries
  | _ => none

/-! ## Keys -/

mutual

/-- Whether a value may be a key of a map or a member of a set. -/
def isKey : Value → Bool
  | .list _ => false
  | .map _ => false
  | .set _ => false
  | .marked _ _ => false
  | .again _ => false
  | .tuple items => areKeys items
  | _ => true

/-- Whether all of the values may be keys. -/
def areKeys : List Value → Bool
  | [] => true
  | v :: vs => isKey v && areKeys vs

end

/-- The number that a value counts as, if it counts as one. -/
def asNumber? : Value → Option (Int ⊕ Binary64)
  | .bool on => some (.inl (if on then 1 else 0))
  | .int n => some (.inl n)
  | .float x =>
    match x.toInt? with
    | some n => some (.inl n)
    | none => some (.inr x)
  | _ => none

mutual

/-- Whether two values are the same key. -/
def sameKey (a b : Value) : Bool :=
  match a, b with
  | .null, .null => true
  | .text s, .text t => s == t
  | .date d, .date e => d == e
  | .moment m, .moment n => m.same n
  | .time c, .time d => c == d
  | .bytes x, .bytes y => x == y
  | .path p, .path q => p == q
  | .tuple xs, .tuple ys => sameKeys xs ys
  | x, y =>
    match x.asNumber?, y.asNumber? with
    | some u, some v => u == v
    | _, _ => false

/-- Whether two rows of values are the same keys. -/
def sameKeys (xs ys : List Value) : Bool :=
  match xs, ys with
  | [], [] => true
  | x :: xs, y :: ys => sameKey x y && sameKeys xs ys
  | _, _ => false

end

/-- Add a member to a set, unless it has it. -/
def addMember (members : List Value) (v : Value) : List Value :=
  if members.any (sameKey v) then members else members ++ [v]

end Value

/-! ## Entries of a map -/

/-- The entries of a map in order. -/
abbrev Entries := List (Value × Value)

namespace Entries

/-- Put a value under a key. -/
def put : Entries → Value → Value → Entries
  | [], k, v => [(k, v)]
  | e :: rest, k, v => if e.1.sameKey k then (e.1, v) :: rest else e :: put rest k v

/-- Put entries one after the other. -/
def putAll (es : Entries) (new : List (Value × Value)) : Entries :=
  new.foldl (fun acc e => acc.put e.1 e.2) es

/-- The entries of a row of pairs in which keys may repeat. -/
def ofPairs (new : List (Value × Value)) : Entries := putAll [] new

/-- The value under a key that is a text. -/
def get? (es : Entries) (key : String) : Option Value :=
  (es.find? fun e =>
    match e.1 with
    | .text s => s == key
    | _ => false).map (·.2)

/-- Put a value under a key that is a text. -/
def putText (es : Entries) (key : String) (v : Value) : Entries := es.put (.text key) v

end Entries

end OpcodeAtlas
