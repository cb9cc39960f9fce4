/-!
# Tables of codes

A table holds a value for each of some codes, in the order in which the codes were first entered.
Entering a code again replaces its value and leaves it in its place (`CodeTable.codes_put`,
`CodeTable.get?_put`), so no code ever stands in a table twice (`CodeTable.distinct`).
-/

set_option autoImplicit false

namespace OpcodeAtlas

/-- Values by code, in the order in which the codes were first entered. -/
structure CodeTable (α : Type) where
  rows : List (String × α) := []
  distinct : (rows.map Prod.fst).Nodup := by exact List.nodup_nil
  deriving DecidableEq, Repr

namespace CodeTable

variable {α : Type}

/-- The codes in a table, in order. -/
def codes (t : CodeTable α) : List String := t.rows.map Prod.fst

/-- The values in a table, in the order of their codes. -/
def values (t : CodeTable α) : List α := t.rows.map Prod.snd

/-- The number of codes in a table. -/
def size (t : CodeTable α) : Nat := t.rows.length

/-- The value of a code. -/
def get? (t : CodeTable α) (code : String) : Option α := t.rows.lookup code

/-- Rows with a value entered for a code; a code that is there already keeps its place. -/
def putRow (code : String) (a : α) : List (String × α) → List (String × α)
  | [] => [(code, a)]
  | row :: rest => if row.1 = code then (code, a) :: rest else row :: putRow code a rest

theorem map_fst_putRow (code : String) (a : α) (rows : List (String × α)) :
    (putRow code a rows).map Prod.fst =
      if code ∈ rows.map Prod.fst then rows.map Prod.fst else rows.map Prod.fst ++ [code] := by
  induction rows with
  | nil => rfl
  | cons row rest ih =>
      rw [putRow, List.map_cons]
      by_cases h : row.1 = code
      · rw [if_pos h, if_pos (h ▸ List.mem_cons_self), List.map_cons, h]
      · have hcode : ¬ code = row.1 := fun hc => h hc.symm
        rw [if_neg h, List.map_cons, ih]
        simp only [List.mem_cons, hcode, false_or]
        split <;> rfl

theorem nodup_putRow (code : String) (a : α) {rows : List (String × α)}
    (h : (rows.map Prod.fst).Nodup) : ((putRow code a rows).map Prod.fst).Nodup := by
  rw [map_fst_putRow]
  split
  · exact h
  · next hcode =>
    refine List.nodup_append.2 ⟨h, List.nodup_cons.2 ⟨List.not_mem_nil, List.nodup_nil⟩, ?_⟩
    intro c hc d hd hcd
    rw [List.mem_singleton.1 hd] at hcd
    exact hcode (hcd ▸ hc)

theorem lookup_cons_eq_ite (row : String × α) (rest : List (String × α)) (code : String) :
    (row :: rest).lookup code = if code = row.1 then some row.2 else rest.lookup code := by
  by_cases h : code = row.1
  · rw [if_pos h, h, List.lookup_cons_self]
  · rw [if_neg h, List.lookup_cons, beq_false_of_ne h]

theorem lookup_putRow (code : String) (a : α) (rows : List (String × α)) (other : String) :
    (putRow code a rows).lookup other =
      if other = code then some a else rows.lookup other := by
  induction rows with
  | nil => rw [putRow, lookup_cons_eq_ite]
  | cons row rest ih =>
      rw [putRow]
      by_cases h : row.1 = code
      · rw [if_pos h, lookup_cons_eq_ite, lookup_cons_eq_ite, h]
        by_cases ho : other = code
        · rw [if_pos ho, if_pos ho]
        · rw [if_neg ho, if_neg ho, if_neg ho]
      · rw [if_neg h, lookup_cons_eq_ite, lookup_cons_eq_ite, ih]
        by_cases ho : other = code
        · have hrow : other ≠ row.1 := fun hr => h (hr.symm.trans ho)
          rw [if_pos ho, if_neg hrow, if_pos ho]
        · rw [if_neg ho, if_neg ho]

/-- Enter a value for a code. -/
def put (t : CodeTable α) (code : String) (a : α) : CodeTable α :=
  ⟨putRow code a t.rows, nodup_putRow code a t.distinct⟩

/-- A new code goes to the end. -/
@[simp] theorem codes_put (t : CodeTable α) (code : String) (a : α) :
    (t.put code a).codes = if code ∈ t.codes then t.codes else t.codes ++ [code] :=
  map_fst_putRow code a t.rows

/-- The last value that is entered for a code is the one that counts. -/
@[simp] theorem get?_put (t : CodeTable α) (code : String) (a : α) (other : String) :
    (t.put code a).get? other = if other = code then some a else t.get? other :=
  lookup_putRow code a t.rows other

@[simp] theorem length_codes (t : CodeTable α) : t.codes.length = t.size := List.length_map ..

theorem nodup_codes (t : CodeTable α) : t.codes.Nodup := t.distinct

/-- A row of a table gives its code its value. -/
theorem mem_rows_iff (t : CodeTable α) (code : String) (a : α) :
    (code, a) ∈ t.rows ↔ t.get? code = some a := by
  obtain ⟨rows, distinct⟩ := t
  show (code, a) ∈ rows ↔ rows.lookup code = some a
  induction rows with
  | nil => simp
  | cons row rest ih =>
      obtain ⟨hrow, hrest⟩ := List.nodup_cons.1 distinct
      rw [List.mem_cons, lookup_cons_eq_ite, ih hrest]
      by_cases h : code = row.1
      · -- The rest has no row with the code of the first one.
        have hnone : rest.lookup code ≠ some a := fun hs =>
          hrow (h ▸ List.mem_map_of_mem ((ih hrest).2 hs))
        rw [if_pos h]
        constructor
        · rintro (rfl | hs)
          · rfl
          · exact absurd hs hnone
        · intro ha
          cases ha
          exact .inl (Prod.ext h rfl)
      · have hne : (code, a) ≠ row := fun he => h (congrArg Prod.fst he)
        rw [if_neg h]
        exact or_iff_right hne

end CodeTable

end OpcodeAtlas
