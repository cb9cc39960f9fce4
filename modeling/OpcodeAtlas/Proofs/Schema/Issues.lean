import OpcodeAtlas.Schema.Issue

/-!
# What is wrong with the parts of a form

The issues of a form are those of its parts, in order (`Checked.issues_also`), and each of them
concerns the part that it was found in (`Checked.concerns_of_mem_under`). So what is wrong with one
part can be told from the issues of the whole.
-/

set_option autoImplicit false

namespace OpcodeAtlas

/-- An issue concerns a part of a value: its place starts there. -/
def Issue.Concerns (i : Issue) (part : String) : Prop := i.place.head? = some part

namespace Checked

variable {α β : Type}

/-- The issues of an outcome; a form has none. -/
def issues : Checked α → List Issue
  | .ok _ => []
  | .error found => found

@[simp]
theorem issues_ok (a : α) : issues (.ok a) = [] := rfl

@[simp]
theorem issues_error (found : List Issue) : issues (.error found : Checked α) = found := rfl

@[simp]
theorem issues_form (a : α) : (form a).issues = [] := rfl

@[simp]
theorem issues_refuse (cause : IssueCause) :
    (refuse cause : Checked α).issues = [⟨[], cause⟩] := rfl

/-- A form has the issues of its parts. -/
@[simp]
theorem issues_also (f : Checked (α → β)) (a : Checked α) :
    (f.also a).issues = f.issues ++ a.issues := by
  cases f with
  | ok f => cases a <;> rfl
  | error first =>
      cases a with
      | ok a => exact (List.append_nil first).symm
      | error second => rfl

@[simp]
theorem issues_under (part : String) (c : Checked α) :
    (c.under part).issues = c.issues.map fun i => { i with place := part :: i.place } := by
  cases c <;> rfl

/-- What is found in a part concerns this part. -/
theorem concerns_of_mem_under {part : String} {c : Checked α} {i : Issue}
    (hi : i ∈ (c.under part).issues) : i.Concerns part := by
  rw [issues_under] at hi
  obtain ⟨inner, -, rfl⟩ := List.mem_map.1 hi
  rfl

/-- What concerns one part is not found in another one. -/
theorem not_mem_under_of_concerns {part other : String} {c : Checked α} {i : Issue}
    (hi : i.Concerns part) (hne : other ≠ part) : i ∉ (c.under other).issues := by
  intro hmem
  have hother : i.place.head? = some other := concerns_of_mem_under hmem
  exact hne (Option.some.inj (hother.symm.trans hi))

end Checked

end OpcodeAtlas
