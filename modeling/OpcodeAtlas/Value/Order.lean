import OpcodeAtlas.Value.Shown

/-!
# Values in order

Numbers are ordered among themselves, and so are texts, days, moments, times, byte strings and
paths; values of two kinds have no order, and neither have nulls. Sorting inserts one value after
the other into the sorted row in front of it, by halving, and names the first two values that it
finds without an order (`Unordered`).
-/

set_option autoImplicit false

namespace OpcodeAtlas

/-- Why two values have no order. -/
inductive Unordered where
  /-- Their kinds have none; the names of the kinds are given. -/
  | kinds (left right : String)
  /-- A moment against a day. -/
  | dayAndMoment
  /-- A moment that tells its distance from universal time against one that does not. -/
  | mixedMoments
  deriving DecidableEq, Repr

/-- The wording of a missing order. -/
def Unordered.message : Unordered → String
  | .kinds left right =>
    "'<' not supported between instances of '" ++ left ++ "' and '" ++ right ++ "'"
  | .dayAndMoment => "can't compare datetime.datetime to datetime.date"
  | .mixedMoments => "can't compare offset-naive and offset-aware datetimes"

namespace Value

/-- Whether a number is below another. -/
def numberBelow : Int ⊕ Binary64 → Int ⊕ Binary64 → Bool
  | .inl a, .inl b => decide (a < b)
  | .inl a, .inr y => exceeds y a
  | .inr x, .inl b => below x b
  | .inr x, .inr y => x.below y
where
  /-- Whether a number that is not whole is above a whole one. -/
  exceeds : Binary64 → Int → Bool
    | .finite neg m s, n =>
      decide (n * Binary64.unitsPerOne < (Binary64.finite neg m s).signedUnits)
    | .infinite neg, _ => !neg
    | .nan, _ => false
  /-- Whether a number that is not whole is below a whole one. -/
  below : Binary64 → Int → Bool
    | .finite neg m s, n =>
      decide ((Binary64.finite neg m s).signedUnits < n * Binary64.unitsPerOne)
    | .infinite neg, _ => neg
    | .nan, _ => false

/-- The order of two rows of numbers: by the first difference, a shorter row in front. -/
def rowBelow : List Nat → List Nat → Bool
  | [], [] => false
  | [], _ :: _ => true
  | _ :: _, [] => false
  | a :: as, b :: bs => if a = b then rowBelow as bs else decide (a < b)

/-- Whether a key is below another. -/
def keyBelow (a b : Value) : Except Unordered Bool :=
  match a, b with
  | .text s, .text t => .ok (rowBelow (Text.codePoints s) (Text.codePoints t))
  | .bytes x, .bytes y => .ok (rowBelow (x.map UInt8.toNat) (y.map UInt8.toNat))
  | .date d, .date e => .ok (decide (d.ordinal < e.ordinal))
  | .time c, .time d =>
    .ok (rowBelow [c.seconds, c.microsecond] [d.seconds, d.microsecond])
  | .moment m, .moment n =>
    match m.instant?, n.instant? with
    | some x, some y => .ok (decide (x < y))
    | none, none => .ok (decide (m.localTime < n.localTime))
    | _, _ => .error .mixedMoments
  | .date _, .moment _ => .error .dayAndMoment
  | .moment _, .date _ => .error .dayAndMoment
  | .path p, .path q => .ok (rowBelow (Text.codePoints p) (Text.codePoints q))
  | x, y =>
    match x.asNumber?, y.asNumber? with
    | some u, some v => .ok (numberBelow u v)
    | _, _ => .error (.kinds x.fullKindName y.fullKindName)

/-- Where a value goes in the part of a sorted row from `low` on that is `width` long. -/
def placeIn (row : List Value) (v : Value) (low width : Nat) : Except Unordered Nat :=
  if width = 0 then .ok low
  else
    let middle := low + width / 2
    match row[middle]? with
    | none => .ok low
    | some w =>
      match keyBelow v w with
      | .error e => .error e
      | .ok true => placeIn row v low (width / 2)
      | .ok false => placeIn row v (middle + 1) (width - width / 2 - 1)
termination_by width
decreasing_by all_goals omega

/-- Insert values one after the other into a sorted row. -/
def insertSorted (row : List Value) : List Value → Except Unordered (List Value)
  | [] => .ok row
  | v :: vs =>
    match placeIn row v 0 row.length with
    | .error e => .error e
    | .ok i => insertSorted (row.take i ++ v :: row.drop i) vs

/-- The longest row at the start of a list in which each value is in (or, for `false`, each is
out of) order with its predecessor `last`, and what is behind it. -/
def runFrom (ascending : Bool) (last : Value) :
    List Value → Except Unordered (List Value × List Value)
  | [] => .ok ([], [])
  | v :: vs =>
    match keyBelow v last with
    | .error e => .error e
    | .ok b =>
      if b == ascending then .ok ([], v :: vs)
      else (runFrom ascending v vs).map fun r => (v :: r.1, r.2)

/-- Sort keys. The row in order that the list starts with is kept, or turned round if it is
strictly falling, and the others are inserted. -/
def sortKeys : List Value → Except Unordered (List Value)
  | [] => .ok []
  | [v] => .ok [v]
  | v :: w :: vs =>
    match keyBelow w v with
    | .error e => .error e
    | .ok falling =>
      match runFrom (!falling) w vs with
      | .error e => .error e
      | .ok (more, rest) =>
        let row := v :: w :: more
        insertSorted (if falling then row.reverse else row) rest

end Value

end OpcodeAtlas
