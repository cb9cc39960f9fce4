import OpcodeAtlas.Value.Order

/-!
# Sorting keys

Sorting leaves the keys as they are and changes their order only (`perm_sortKeys`). Whether keys
can be sorted depends on which of them are compared, but texts always can (`exists_sortKeys`).
-/

set_option autoImplicit false

namespace OpcodeAtlas.Value

/-- A value is a text. -/
def IsText (v : Value) : Prop := ∃ s, v = .text s

/-! ## Sorted keys -/

theorem perm_insertSorted {row vs sorted : List Value} (h : insertSorted row vs = .ok sorted) :
    sorted.Perm (row ++ vs) := by
  induction vs generalizing row with
  | nil =>
      cases h
      rw [List.append_nil]
  | cons v vs ih =>
      rw [insertSorted] at h
      split at h
      · cases h
      next i hi =>
        have hplaced : (row.take i ++ v :: row.drop i).Perm (v :: row) := by
          have hmiddle : (row.take i ++ v :: row.drop i).Perm (v :: (row.take i ++ row.drop i)) :=
            List.perm_middle
          rwa [List.take_append_drop] at hmiddle
        exact (ih h).trans ((hplaced.append_right vs).trans List.perm_middle.symm)

theorem append_runFrom {ascending : Bool} {last : Value} {vs run rest : List Value}
    (h : runFrom ascending last vs = .ok (run, rest)) : run ++ rest = vs := by
  induction vs generalizing last run with
  | nil =>
      cases h
      rfl
  | cons v vs ih =>
      rw [runFrom] at h
      split at h
      · cases h
      · split at h
        · cases h
          rfl
        · cases hrun : runFrom ascending v vs with
          | error e =>
              rw [hrun] at h
              cases h
          | ok found =>
              rw [hrun] at h
              cases h
              rw [List.cons_append, ih hrun]

/-- **Sorted keys are the keys in another order.** -/
theorem perm_sortKeys {vs sorted : List Value} (h : sortKeys vs = .ok sorted) :
    sorted.Perm vs := by
  unfold sortKeys at h
  split at h
  · cases h
    exact .refl _
  · cases h
    exact .refl _
  next v w vs =>
    split at h
    · cases h
    next falling hfalling =>
      split at h
      · cases h
      next more rest hrun =>
        -- The first run, which is turned round if it falls, takes in all other keys.
        have hrow : (if falling then (v :: w :: more).reverse else v :: w :: more).Perm
            (v :: w :: more) := by
          split
          · exact List.reverse_perm _
          · exact .refl _
        have hsorted := (perm_insertSorted h).trans (hrow.append_right rest)
        rwa [List.cons_append, List.cons_append, append_runFrom hrun] at hsorted

/-! ## Texts -/

theorem exists_keyBelow {v w : Value} (hv : v.IsText) (hw : w.IsText) :
    ∃ b, keyBelow v w = .ok b := by
  obtain ⟨s, rfl⟩ := hv
  obtain ⟨t, rfl⟩ := hw
  exact ⟨_, rfl⟩

theorem exists_placeIn {row : List Value} (hrow : ∀ w ∈ row, w.IsText) {v : Value}
    (hv : v.IsText) (low width : Nat) : ∃ i, placeIn row v low width = .ok i := by
  fun_induction placeIn row v low width with
  | case1 low => exact ⟨low, rfl⟩
  | case2 low => exact ⟨low, rfl⟩
  | case3 low width hwidth middle w hmiddle e hbelow =>
      -- Two texts are never incomparable.
      obtain ⟨b, hb⟩ := exists_keyBelow hv (hrow w (List.mem_of_getElem? hmiddle))
      rw [hb] at hbelow
      cases hbelow
  | case4 low width hwidth middle w hmiddle hbelow ih => exact ih
  | case5 low width hwidth middle w hmiddle hbelow ih => exact ih

theorem exists_insertSorted {row vs : List Value} (hrow : ∀ w ∈ row, w.IsText)
    (hvs : ∀ v ∈ vs, v.IsText) : ∃ sorted, insertSorted row vs = .ok sorted := by
  induction vs generalizing row with
  | nil => exact ⟨row, rfl⟩
  | cons v vs ih =>
      obtain ⟨hv, hvs⟩ := List.forall_mem_cons.1 hvs
      obtain ⟨i, hi⟩ := exists_placeIn hrow hv 0 row.length
      rw [insertSorted, hi]
      refine ih (List.forall_mem_append.2 ⟨fun w hw => ?_, List.forall_mem_cons.2 ⟨hv, ?_⟩⟩) hvs
      · exact hrow w (List.mem_of_mem_take hw)
      · exact fun w hw => hrow w (List.mem_of_mem_drop hw)

theorem exists_runFrom (ascending : Bool) {last : Value} (hlast : last.IsText)
    {vs : List Value} (hvs : ∀ v ∈ vs, v.IsText) :
    ∃ run rest, runFrom ascending last vs = .ok (run, rest) := by
  induction vs generalizing last with
  | nil => exact ⟨[], [], rfl⟩
  | cons v vs ih =>
      obtain ⟨hv, hvs⟩ := List.forall_mem_cons.1 hvs
      obtain ⟨b, hb⟩ := exists_keyBelow hv hlast
      obtain ⟨run, rest, hrun⟩ := ih hv hvs
      rw [runFrom, hb]
      dsimp only
      split
      · exact ⟨[], v :: vs, rfl⟩
      · exact ⟨v :: run, rest, by rw [hrun]; rfl⟩

/-- **Texts can be sorted.** -/
theorem exists_sortKeys {vs : List Value} (h : ∀ v ∈ vs, v.IsText) :
    ∃ sorted, sortKeys vs = .ok sorted := by
  unfold sortKeys
  split
  · exact ⟨[], rfl⟩
  · exact ⟨_, rfl⟩
  next v w vs =>
    obtain ⟨hv, hrest⟩ := List.forall_mem_cons.1 h
    obtain ⟨hw, hvs⟩ := List.forall_mem_cons.1 hrest
    obtain ⟨falling, hfalling⟩ := exists_keyBelow hw hv
    obtain ⟨more, rest, hrun⟩ := exists_runFrom (!falling) hw hvs
    rw [hfalling]
    simp only [hrun]
    have hall : ∀ u ∈ more ++ rest, u.IsText := by
      rw [append_runFrom hrun]
      exact hvs
    obtain ⟨hmore, hrest⟩ := List.forall_mem_append.1 hall
    have hrow : ∀ u ∈ v :: w :: more, u.IsText :=
      List.forall_mem_cons.2 ⟨hv, List.forall_mem_cons.2 ⟨hw, hmore⟩⟩
    refine exists_insertSorted (fun u hu => hrow u ?_) hrest
    split at hu
    · exact List.mem_reverse.1 hu
    · exact hu

end OpcodeAtlas.Value
