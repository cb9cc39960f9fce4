/-!
# First occurrences and repetitions

A row of codes falls into the first occurrences of its members (`List.eraseDups`) and the
repetitions of earlier ones (`repeats`). Both grow at their ends when the row does
(`eraseDups_concat`, `repeats_concat`), and together they are as long as the row
(`length_eraseDups_add_repeats`).
-/

set_option autoImplicit false

namespace OpcodeAtlas

variable {α : Type} [DecidableEq α]

/-! ## First occurrences -/

theorem nodup_eraseDups : ∀ l : List α, l.eraseDups.Nodup
  | [] => List.nodup_nil
  | a :: l => by
      rw [List.eraseDups_cons, List.nodup_cons]
      refine ⟨fun ha => ?_, nodup_eraseDups _⟩
      have hmem := List.mem_eraseDups.1 ha
      simp at hmem
  termination_by l => l.length
  decreasing_by exact Nat.lt_succ_of_le (List.length_filter_le ..)

/-- Members that differ are all first occurrences. -/
theorem eraseDups_of_nodup {l : List α} (h : l.Nodup) : l.eraseDups = l := by
  induction l with
  | nil => rfl
  | cons a l ih =>
      obtain ⟨ha, hl⟩ := List.nodup_cons.1 h
      have hrest : l.filter (fun b => !b == a) = l := by
        apply List.filter_eq_self.2
        intro b hb
        simpa using ne_of_mem_of_not_mem hb ha
      rw [List.eraseDups_cons, hrest, ih hl]

/-- A new member goes to the end of the first occurrences. -/
theorem eraseDups_concat (l : List α) (a : α) :
    (l ++ [a]).eraseDups = if a ∈ l then l.eraseDups else l.eraseDups ++ [a] := by
  rw [List.eraseDups_append]
  by_cases h : a ∈ l
  · have hnil : [a].removeAll l = [] := by simp [List.removeAll, h]
    rw [hnil, if_pos h, List.eraseDups_nil, List.append_nil]
  · have hall : [a].removeAll l = [a] := by simp [List.removeAll, h]
    rw [hall, if_neg h]
    rfl

/-! ## Repetitions -/

/-- The members of a row that occur before; `seen` holds those in front of the row. -/
def repeats (seen : List α) : List α → List α
  | [] => []
  | a :: l => if a ∈ seen then a :: repeats seen l else repeats (a :: seen) l

/-- A member that is not new goes to the end of the repetitions. -/
theorem repeats_concat (seen l : List α) (a : α) :
    repeats seen (l ++ [a]) = repeats seen l ++ if a ∈ seen ∨ a ∈ l then [a] else [] := by
  induction l generalizing seen with
  | nil =>
      by_cases h : a ∈ seen
      · simp [repeats, h]
      · simp [repeats, h]
  | cons b l ih =>
      rw [List.cons_append, repeats, repeats]
      by_cases hb : b ∈ seen
      · rw [if_pos hb, if_pos hb, ih, List.cons_append]
        have hiff : a ∈ seen ∨ a ∈ l ↔ a ∈ seen ∨ a ∈ b :: l := by
          rw [List.mem_cons]
          constructor
          · exact fun h => h.imp_right .inr
          · rintro (h | rfl | h)
            · exact .inl h
            · exact .inl hb
            · exact .inr h
        simp only [hiff]
      · rw [if_neg hb, if_neg hb, ih]
        have hiff : a ∈ b :: seen ∨ a ∈ l ↔ a ∈ seen ∨ a ∈ b :: l := by
          rw [List.mem_cons, List.mem_cons, or_assoc, or_left_comm]
        simp only [hiff]

/-- Nothing is repeated in a row of members that differ from each other and from those in front. -/
theorem repeats_eq_nil_iff (seen l : List α) :
    repeats seen l = [] ↔ l.Nodup ∧ ∀ a ∈ l, a ∉ seen := by
  induction l generalizing seen with
  | nil => simp [repeats]
  | cons a l ih =>
      rw [repeats, List.nodup_cons, List.forall_mem_cons]
      by_cases h : a ∈ seen
      · simp [h]
      · rw [if_neg h, ih]
        constructor
        · rintro ⟨hl, hseen⟩
          refine ⟨⟨fun ha => hseen a ha List.mem_cons_self, hl⟩, h, fun b hb hmem => ?_⟩
          exact hseen b hb (List.mem_cons_of_mem a hmem)
        · rintro ⟨⟨ha, hl⟩, -, hseen⟩
          refine ⟨hl, fun b hb hmem => ?_⟩
          rcases List.mem_cons.1 hmem with rfl | hmem
          · exact ha hb
          · exact hseen b hb hmem

/-- **Each member is a first occurrence or a repetition.** -/
theorem length_eraseDups_add_repeats (l : List α) :
    l.eraseDups.length + (repeats [] l).length = l.length := by
  -- Both sides are followed as the row grows at its end.
  rw [← List.reverse_reverse l]
  induction l.reverse with
  | nil => rfl
  | cons a l ih =>
      rw [List.reverse_cons, eraseDups_concat, repeats_concat]
      by_cases h : a ∈ l.reverse
      · rw [if_pos h, if_pos (.inr h)]
        simp only [List.length_append, List.length_singleton]
        omega
      · have hnot : ¬(a ∈ ([] : List α) ∨ a ∈ l.reverse) := by simpa using h
        rw [if_neg h, if_neg hnot]
        simp only [List.length_append, List.length_singleton, List.length_nil]
        omega

end OpcodeAtlas
