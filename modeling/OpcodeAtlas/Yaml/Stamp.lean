import OpcodeAtlas.Value.Calendar

/-!
# Dates and times in YAML

A stamp is a day, or a day with a time behind a `T` or blanks, a fraction of a second and a
distance from universal time. Reading (`Stamp.read?`) checks the form only; `toDay?` and
`toMoment?` check that there is such a day or moment.
-/

set_option autoImplicit false

namespace OpcodeAtlas.Yaml

/-- The time of a stamp. -/
structure StampTime where
  hour : Nat
  minute : Nat
  second : Nat
  /-- The digits of the fraction of a second. -/
  fraction : List Char
  /-- The minutes by which the clock is ahead of universal time, if they are told. -/
  ahead : Option Int
  deriving DecidableEq, Repr

/-- A day with a time or without one. -/
structure Stamp where
  day : Day
  /-- Whether the month and the day have two digits each. -/
  isWide : Bool
  time : Option StampTime
  deriving DecidableEq, Repr

namespace Stamp

/-- The value of an ASCII digit. -/
def digit? (c : Char) : Option Nat :=
  if 48 ≤ c.toNat ∧ c.toNat ≤ 57 then some (c.toNat - 48) else none

/-- The number that exactly `count` digits are that start a text. -/
def digits? : (count acc : Nat) → List Char → Option (Nat × List Char)
  | 0, acc, rest => some (acc, rest)
  | _ + 1, _, [] => none
  | count + 1, acc, c :: rest =>
    match digit? c with
    | some d => digits? count (10 * acc + d) rest
    | none => none

/-- The number that one or two digits are that start a text, and whether they are two. -/
def oneOrTwo? (s : List Char) : Option (Nat × Bool × List Char) :=
  match digits? 2 0 s with
  | some (n, rest) => some (n, true, rest)
  | none => (digits? 1 0 s).map fun r => (r.1, false, r.2)

/-- The text behind a character that has to come first. -/
def behind? (c : Char) : List Char → Option (List Char)
  | [] => none
  | d :: rest => if d = c then some rest else none

/-- The distance from universal time that is the rest of a stamp. -/
def zone? (s : List Char) : Option (Option Int) :=
  match s with
  | [] => some none
  | c :: rest =>
    if c = 'Z' ∧ rest.isEmpty then some (some 0)
    else if c = '+' ∨ c = '-' then
      match oneOrTwo? rest with
      | none => none
      | some (hours, _, rest) =>
        let minutes? :=
          match rest with
          | [] => some 0
          | _ =>
            match (behind? ':' rest).bind (digits? 2 0) with
            | some (n, []) => some n
            | _ => none
        minutes?.map fun minutes =>
          let n : Int := (60 * hours + minutes : Nat)
          some (if c = '-' then -n else n)
    else none

/-- The time that is the rest of a stamp. -/
def time? (s : List Char) : Option StampTime := do
  let (hour, _, rest) ← oneOrTwo? s
  let (minute, rest) ← (behind? ':' rest).bind (digits? 2 0)
  let (second, rest) ← (behind? ':' rest).bind (digits? 2 0)
  let isDigit := fun c => (digit? c).isSome
  let behind := (behind? '.' rest).getD []
  let fraction := behind.takeWhile isDigit
  let rest := if rest.head? = some '.' then behind.drop fraction.length else rest
  let zone := rest.dropWhile fun c => c == ' ' || c == '\t'
  if zone.isEmpty ∧ rest ≠ [] then none
  else
    let ahead ← zone? zone
    some ⟨hour, minute, second, fraction, ahead⟩

/-- A text without a line feed at its end. -/
def dropLineFeed : List Char → List Char
  | [] => []
  | ['\n'] => []
  | c :: rest => c :: dropLineFeed rest

/-- Read a stamp. -/
def read? (s : List Char) : Option Stamp := do
  let (year, rest) ← digits? 4 0 (dropLineFeed s)
  let (month, wideMonth, rest) ← (behind? '-' rest).bind oneOrTwo?
  let (day, wideDay, rest) ← (behind? '-' rest).bind oneOrTwo?
  match rest with
  | [] => some ⟨⟨year, month, day⟩, wideMonth && wideDay, none⟩
  | c :: behind =>
    let start :=
      if c = 'T' ∨ c = 't' then behind else rest.dropWhile fun c => c == ' ' || c == '\t'
    if start.length = rest.length then none
    else (time? start).map fun t => ⟨⟨year, month, day⟩, wideMonth && wideDay, some t⟩

/-- Whether a plain text is a stamp: a day alone needs two digits for month and day. -/
def isPlain (s : List Char) : Bool :=
  match read? s with
  | some stamp => stamp.isWide || stamp.time.isSome
  | none => false

/-- The first six digits of a fraction of a second as microseconds. -/
def microseconds (digits : List Char) : Nat :=
  let six := (digits ++ List.replicate 6 '0').take 6
  six.foldl (fun n c => 10 * n + (c.toNat - 48)) 0

/-- The moment of a day with a time. -/
def moment (day : Day) (t : StampTime) : Moment :=
  ⟨day, ⟨t.hour, t.minute, t.second, microseconds t.fraction⟩, t.ahead.map (60 * ·)⟩

end Stamp

end OpcodeAtlas.Yaml
