import OpcodeAtlas.Console.Handler.Token
import OpcodeAtlas.Text.Quoted

/-!
# Terms of handler arguments

The arguments of a handler are read as a term. Only some terms have a value: numbers with a sign,
sums of a real and an imaginary number, texts, and tuples, sets and maps of terms with values.
`Term.fault?` tells why a term has none. Sets and maps hold no values that may change as members and
keys, which are sets and maps themselves and tuples with one of them in it.
-/

set_option autoImplicit false

namespace OpcodeAtlas.Handler

/-- A kind of terms. -/
inductive Shape where
  | name
  | literal
  | formatted
  | ellipsis
  | attribute
  | call
  | operation
  | naming
  | comparison
  /-- A comparison in parentheses. -/
  | enclosed
  | tuple
  | map
  | set
  | starred
  deriving DecidableEq, Repr

/-- The name of a kind of terms. -/
def Shape.text : Shape → String
  | .name => "name"
  | .literal => "literal"
  | .formatted => "f-string expression"
  | .ellipsis => "ellipsis"
  | .attribute => "attribute"
  | .call => "function call"
  | .operation => "expression"
  | .naming => "named expression"
  | .comparison | .enclosed => "comparison"
  | .tuple => "tuple"
  | .map => "dict literal"
  | .set => "set display"
  | .starred => "starred"

/-- A term, as far as its value matters. -/
inductive Term where
  | number (n : Numeral)
  /-- A text, bytes or the ellipsis. -/
  | constant (shape : Shape)
  /-- A term with a plus or a minus in front. -/
  | signed (t : Term)
  /-- A sum or a difference. -/
  | sum (left right : Term)
  | tuple (items : List Term)
  | set (members : List Term)
  /-- A map, with its keys and values. -/
  | map (entries : List (Term × Term))
  /-- What stands in the place of a key in front of an unpacked map. -/
  | noKey
  /-- A term that has no value. -/
  | other (shape : Shape)

namespace Term

/-- The kind of a term. -/
def shape : Term → Shape
  | .number _ => .literal
  | .constant s => s
  | .signed _ => .operation
  | .sum _ _ => .operation
  | .tuple _ => .tuple
  | .set _ => .set
  | .map _ => .map
  | .noKey => .name
  | .other s => s

/-- A term in parentheses. -/
def enclosed : Term → Term
  | .other .comparison => .other .enclosed
  | t => t

end Term

/-! ## Values -/

/-- A collection that may change. -/
inductive Collection where
  | map
  | set
  deriving DecidableEq, Repr

/-- The name of a collection. -/
def Collection.name : Collection → String
  | .map => "dict"
  | .set => "set"

/-- Why a term has no value. -/
inductive ValueFault where
  /-- Terms of its kind have none. -/
  | malformed
  /-- There is no key. -/
  | missingKey
  /-- A key or a member may change. -/
  | unhashable (c : Collection)
  /-- A whole number is too great to be part of a sum. -/
  | vast
  /-- The text of the term cannot be encoded. -/
  | unencodable (u : Text.Unencodable)
  deriving DecidableEq, Repr

/-- The wording of a fault. -/
def ValueFault.message : ValueFault → String
  | .malformed => "malformed node or string"
  | .missingKey => "malformed node or string: None"
  | .unhashable c => "unhashable type: '" ++ c.name ++ "'"
  | .vast => "int too large to convert to float"
  | .unencodable u => u.message

namespace Term

/-- Check a sum: its left part is real and its right part imaginary. -/
def checkSum (left : Term) (right : Term) : Except ValueFault Unit :=
  let start : Option Numeral :=
    match left with
    | .number n => some n
    | .signed (.number n) => some n
    | _ => none
  match start, right with
  | some .real, .number .imaginary => .ok ()
  | some (.whole n), .number .imaginary =>
    if (Binary64.ofInt n).isFinite then .ok () else .error .vast
  | _, _ => .error .malformed

mutual

/-- The collection that may change which a term has as its value, or which a tuple has in it. -/
def collection? : Term → Except ValueFault (Option Collection)
  | .number _ => .ok none
  | .constant _ => .ok none
  | .signed (.number _) => .ok none
  | .signed _ => .error .malformed
  | .sum left right => (checkSum left right).map fun _ => none
  | .tuple items => collectionIn? items
  | .set members => (checkMembers members).map fun _ => some .set
  | .map entries => (checkEntries entries).map fun _ => some .map
  | .noKey => .error .missingKey
  | .other _ => .error .malformed

/-- The first collection that may change in the items of a tuple. -/
def collectionIn? : List Term → Except ValueFault (Option Collection)
  | [] => .ok none
  | t :: rest => do
    let first ← collection? t
    let more ← collectionIn? rest
    return first.or more

/-- Check the members of a set. -/
def checkMembers : List Term → Except ValueFault Unit
  | [] => .ok ()
  | t :: rest => do
    if let some c ← collection? t then throw (.unhashable c)
    checkMembers rest

/-- Check the entries of a map. -/
def checkEntries : List (Term × Term) → Except ValueFault Unit
  | [] => .ok ()
  | (key, value) :: rest => do
    let held ← collection? key
    let _ ← collection? value
    if let some c := held then throw (.unhashable c)
    checkEntries rest

end

/-- Why a term has no value. -/
def fault? (t : Term) : Option ValueFault :=
  match t.collection? with
  | .ok _ => none
  | .error f => some f

end Term

end OpcodeAtlas.Handler
