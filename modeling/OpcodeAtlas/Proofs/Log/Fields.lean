import OpcodeAtlas.Log.Record

/-!
# Fields of log records

Fields are put one after the other. A field with a new name goes to the end
(`LogFields.putAll_of_new`), and putting a value that is there already changes nothing
(`LogFields.put_of_get?`).
-/

set_option autoImplicit false

namespace OpcodeAtlas

namespace LogFields

variable {fields new back : LogFields} {name : String} {v : Value}

theorem get?_eq_none (h : name ∉ fields.map (·.1)) : fields.get? name = none := by
  rw [get?, List.lookup_eq_none_iff]
  intro f hf
  rw [bne_iff_ne]
  rintro rfl
  exact h (List.mem_map_of_mem hf)

theorem get?_append_of_some (h : fields.get? name = some v) :
    get? (fields ++ back) name = some v := by
  rw [get?] at h ⊢
  rw [List.lookup_append, h, Option.some_or]

/-- A name that is not there goes to the end. -/
theorem put_of_new (h : name ∉ fields.map (·.1)) : fields.put name v = fields ++ [(name, v)] := by
  induction fields with
  | nil => rfl
  | cons f fields ih =>
      rw [List.map_cons, List.mem_cons, not_or] at h
      rw [put, if_neg (Ne.symm h.1), ih h.2, List.cons_append]

/-- Putting what is there changes nothing. -/
theorem put_of_get? (h : fields.get? name = some v) : fields.put name v = fields := by
  induction fields with
  | nil => cases h
  | cons f fields ih =>
      obtain ⟨key, w⟩ := f
      rw [get?, List.lookup_cons] at h
      rw [put]
      by_cases hkey : key = name
      · subst hkey
        rw [beq_self_eq_true] at h
        cases h
        rw [if_pos rfl]
      · rw [beq_eq_false_iff_ne.2 (Ne.symm hkey)] at h
        rw [if_neg hkey, ih h]

/-- Fields with new names go to the end, in order. -/
theorem putAll_of_new (h : ((fields ++ new).map (·.1)).Nodup) :
    fields.putAll new = fields ++ new := by
  induction new generalizing fields with
  | nil => exact (List.append_nil fields).symm
  | cons f new ih =>
      have hfirst : f.1 ∉ fields.map (·.1) := by
        rw [List.map_append, List.map_cons] at h
        intro hmem
        exact (List.nodup_append.1 h).2.2 f.1 hmem f.1 List.mem_cons_self rfl
      -- The other fields are still new behind the first one.
      rw [List.append_cons] at h ⊢
      rw [← ih h, ← put_of_new hfirst]
      rfl

end LogFields

end OpcodeAtlas
