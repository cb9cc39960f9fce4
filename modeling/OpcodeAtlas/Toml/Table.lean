import OpcodeAtlas.Value.Basic

/-!
# Tables of a TOML text

The tables of a TOML text grow statement by statement. A header declares a table (`declare?`) or
appends one to an array of tables (`append?`), and makes the tables in front of it as needed; a
dotted key extends tables (`put?`). A table is declared at most once, and one that dotted keys have
extended is closed to headers, and to dotted keys of later sections. Values, inline tables and
inline arrays are never extended.
-/

set_option autoImplicit false

namespace OpcodeAtlas.Toml

/-- What has been done with a table. -/
structure TableState where
  /-- Whether a header has declared it. -/
  declared : Bool := false
  /-- The section whose dotted keys have extended it. -/
  extendedIn : Option Nat := none
  deriving DecidableEq, Repr

/-- What a key stands for. -/
inductive Item where
  | value (v : Value)
  | table (state : TableState) (entries : List (String × Item))
  /-- An array of tables, of which the last one can be extended. -/
  | tables (items : List (List (String × Item)))

/-- The entries of a table in order. -/
abbrev Table := List (String × Item)

namespace Table

/-- Change what a key stands for, or add the key at the end. -/
def update? (name : String) (f : Option Item → Option Item) : Table → Option Table
  | [] => (f none).map fun item => [(name, item)]
  | (key, item) :: rest =>
    if key = name then (f (some item)).map fun new => (key, new) :: rest
    else (update? name f rest).map fun new => (key, item) :: new

/-- Change the last of some tables. -/
def updateLast? (f : Table → Option Table) : List Table → Option (List Table)
  | [] => none
  | [t] => (f t).map fun new => [new]
  | t :: rest => (updateLast? f rest).map fun new => t :: new

/-- Change the table that a key stands for; a new one is made where there is none. -/
def within? (f : Table → Option Table) : Option Item → Option Item
  | none => (f []).map (.table {})
  | some (.value _) => none
  | some (.table state entries) => (f entries).map (.table state)
  | some (.tables items) => (updateLast? f items).map .tables

/-- Declare the table with a path. -/
def declare? : List String → Table → Option Table
  | [], _ => none
  | [name], t =>
    t.update? name fun item =>
      match item with
      | none => some (.table { declared := true } [])
      | some (.table state entries) =>
        if state.declared || state.extendedIn.isSome then none
        else some (.table { state with declared := true } entries)
      | some _ => none
  | name :: path, t => t.update? name (within? (declare? path))

/-- Append a table to the array of tables with a path. -/
def append? : List String → Table → Option Table
  | [], _ => none
  | [name], t =>
    t.update? name fun item =>
      match item with
      | none => some (.tables [[]])
      | some (.tables items) => some (.tables (items ++ [[]]))
      | some _ => none
  | name :: path, t => t.update? name (within? (append? path))

/-- Put a value under a dotted key, in a section. -/
def put? (section_ : Nat) (v : Value) : List String → Table → Option Table
  | [], _ => none
  | [name], t =>
    t.update? name fun item =>
      match item with
      | none => some (.value v)
      | some _ => none
  | name :: path, t =>
    t.update? name fun item =>
      match item with
      | none => (put? section_ v path []).map (.table { extendedIn := some section_ })
      | some (.table state entries) =>
        -- A table with a header of its own is not extended from another section.
        if state.declared || state.extendedIn.any (· != section_) then none
        else (put? section_ v path entries).map (.table { state with extendedIn := some section_ })
      | some _ => none

/-- Change the table that a header names. -/
def under? (f : Table → Option Table) : List String → Table → Option Table
  | [], t => f t
  | name :: path, t => t.update? name (within? (under? f path))

end Table

mutual

/-- The value of an item. -/
def Item.toValue : Item → Value
  | .value v => v
  | .table _ entries => .map (valueEntries entries)
  | .tables items => .list (valueItems items)

/-- The entries of a table as entries of a map. -/
def valueEntries : List (String × Item) → List (Value × Value)
  | [] => []
  | (key, item) :: rest => (.text key, item.toValue) :: valueEntries rest

/-- Some tables as maps. -/
def valueItems : List (List (String × Item)) → List Value
  | [] => []
  | t :: rest => .map (valueEntries t) :: valueItems rest

end

/-- The value of a table. -/
def Table.toValue (t : Table) : Value := .map (valueEntries t)

end OpcodeAtlas.Toml
