import OpcodeAtlas.Schema.Issue
import OpcodeAtlas.Value.Basic

/-!
# Maps and their checked parts

What a map has under a text (`Entries.get?`) follows the map as it is put together. A form is
checked when its parts are (`Checked.also_eq_ok_iff`), and so is a row (`Checked.row_eq_ok_iff`).
-/

set_option autoImplicit false

namespace OpcodeAtlas

/-! ## Entries -/

/-- No other key is the same as a text. -/
theorem Value.sameKey_text_iff {k : Value} {s : String} :
    k.sameKey (.text s) = true ↔ k = .text s := by
  cases k <;> simp [Value.sameKey, Value.asNumber?]

namespace Entries

variable {name key : String}

@[simp]
theorem get?_append (front back : Entries) (key : String) :
    get? (front ++ back) key = (front.get? key).or (back.get? key) := by
  simp only [get?, List.find?_append]
  cases front.find? _ <;> rfl

theorem get?_cons (e : Value × Value) (es : Entries) :
    get? (e :: es) name = if e.1.sameKey (.text name) then some e.2 else get? es name := by
  obtain ⟨k, v⟩ := e
  by_cases hk : k = .text name
  · subst hk
    simp [get?, Value.sameKey]
  · have hsame : k.sameKey (.text name) = false :=
      Bool.eq_false_iff.2 fun h => hk (Value.sameKey_text_iff.1 h)
    rw [hsame, get?, List.find?_cons_of_neg]
    · rfl
    · cases k with
      | text s => simpa using hk
      | _ => exact Bool.false_ne_true

@[simp]
theorem get?_cons_text (v : Value) (fields : Entries) :
    get? ((.text name, v) :: fields) key = if name = key then some v else get? fields key := by
  rw [get?_cons]
  by_cases h : name = key
  · simp [Value.sameKey, h]
  · simp [Value.sameKey, h]

@[simp]
theorem get?_nil : get? [] key = none := rfl

/-- Putting a value under a text changes what is under this text only. -/
theorem get?_putText (es : Entries) (v : Value) :
    (es.putText key v).get? name = if key = name then some v else es.get? name := by
  induction es with
  | nil => exact get?_cons_text v []
  | cons e es ih =>
      rw [putText, put]
      by_cases hsame : e.1.sameKey (.text key) = true
      · rw [if_pos hsame, Value.sameKey_text_iff.1 hsame, get?_cons_text, get?_cons,
          Value.sameKey_text_iff.1 hsame]
        by_cases hkey : key = name
        · simp [hkey]
        · simp [hkey, Value.sameKey]
      · rw [if_neg hsame, get?_cons, get?_cons, ← putText, ih]
        by_cases hkey : key = name
        · subst hkey
          rw [if_neg hsame, if_pos rfl, if_pos rfl]
        · rw [if_neg hkey, if_neg hkey]

end Entries

/-! ## Checked parts -/

namespace Checked

variable {α β : Type}

/-- A form is complete when its parts are. -/
theorem also_eq_ok_iff {f : Checked (α → β)} {a : Checked α} {b : β} :
    f.also a = .ok b ↔ ∃ g x, f = .ok g ∧ a = .ok x ∧ b = g x := by
  cases f <;> cases a <;> simp [also, eq_comm]

theorem under_eq_ok_iff {part : String} {c : Checked α} {a : α} :
    c.under part = .ok a ↔ c = .ok a := by
  cases c <;> simp [under]

theorem all_numbered_eq_ok_iff {parts : List (Checked α)} {n : Nat} {l : List α} :
    all (numbered n parts) = .ok l ↔ parts = l.map .ok := by
  induction parts generalizing n l with
  | nil => cases l <;> simp [numbered, all]
  | cons part parts ih =>
      rw [numbered, all, also_eq_ok_iff]
      constructor
      · rintro ⟨g, rest, hpart, hrest, rfl⟩
        cases part with
        | error issues => cases hpart
        | ok a =>
            cases hpart
            rw [ih.1 hrest]
            rfl
      · cases l with
        | nil => exact nofun
        | cons a l =>
            intro h
            obtain ⟨rfl, htail⟩ := List.cons.inj h
            exact ⟨List.cons a, l, rfl, ih.2 htail, rfl⟩

/-- A row is complete when its parts are. -/
theorem row_eq_ok_iff {parts : List (Checked α)} {l : List α} :
    row parts = .ok l ↔ parts = l.map .ok := all_numbered_eq_ok_iff

end Checked

end OpcodeAtlas
