import Mathlib.Data.Int.ModEq
import Mathlib.Data.List.Basic
import OpcodeAtlas.Proofs.Text.Blank
import OpcodeAtlas.Text.LetterCase.Upper

/-!
# Upper-case forms are their own upper-case forms

The characters of an upper-case form do not change any more (`upperChar_of_mem`), and none of them
is blank unless the character was (`isBlank_of_mem_upperChar`). Both come from the tables. A run of
letters moves to an arithmetic progression, and that two progressions share no member is a matter
of their ends and of their first members modulo a common divisor of the strides
(`CaseRun.not_has_of_misses`), so that the tables are compared run by run and not letter by letter.
-/

set_option autoImplicit false

namespace OpcodeAtlas.Text.LetterCase

/-! ## Where runs move to -/

namespace CaseRun

/-- Where a code point of the run moves to. -/
def target (r : CaseRun) (n : Nat) : Nat := Int.toNat (n + r.distance)

/-- The distance between members of the run; a run of one member has none. -/
def step (r : CaseRun) : Nat := if r.first = r.last then 0 else r.stride

/-- A range of code points as a run of characters that stay where they are. -/
def ofRange (t : CodeRange) : CaseRun := ⟨t.1, t.2, 1, 0⟩

/-- Whether the run moves to scalar values. -/
def lands (r : CaseRun) : Bool :=
  decide (0 ≤ r.first + r.distance) &&
    (Nat.blt (r.target r.last) 0xd800 ||
      (Nat.blt 0xdfff (r.target r.first) && Nat.blt (r.target r.last) 0x110000))

/-- Whether what the run moves to lies below the run `q` or above it, or differs from it modulo a
common divisor of the steps. -/
def misses (r q : CaseRun) : Bool :=
  Nat.blt (r.target r.last) q.first || Nat.blt q.last (r.target r.first) ||
    !Nat.beq (r.target r.first % Nat.gcd r.step q.step) (q.first % Nat.gcd r.step q.step)

section
variable {r q : CaseRun} {n : Nat}

theorem has_iff :
    r.has n = true ↔ r.first ≤ n ∧ n ≤ r.last ∧ (n - r.first) % r.stride = 0 := by
  simp [has, and_assoc]

theorem step_dvd (hn : r.has n = true) : r.step ∣ n - r.first := by
  obtain ⟨hfirst, hlast, hstride⟩ := has_iff.1 hn
  rw [step]
  split
  · next heq =>
    have hzero : n - r.first = 0 := by omega
    rw [hzero]
  · exact Nat.dvd_of_mod_eq_zero hstride

/-- A run keeps the distances between its members. -/
theorem target_eq (hland : r.lands = true) (hn : r.has n = true) :
    r.target n = r.target r.first + (n - r.first) := by
  obtain ⟨hfirst, -, -⟩ := has_iff.1 hn
  have hstart : 0 ≤ (r.first : Int) + r.distance := of_decide_eq_true (Bool.and_eq_true_iff.1 hland).1
  simp only [target]
  omega

theorem target_le (hn : r.has n = true) : r.target n ≤ r.target r.last := by
  obtain ⟨-, hlast, -⟩ := has_iff.1 hn
  simp only [target]
  omega

/-- What a run moves to are scalar values. -/
theorem toNat_ofNat_target (hland : r.lands = true) (hn : r.has n = true) :
    (Char.ofNat (r.target n)).toNat = r.target n := by
  have hle := target_le hn
  have heq := target_eq hland hn
  simp only [lands, Bool.and_eq_true, Bool.or_eq_true, Nat.blt_eq] at hland
  have hvalid : (r.target n).isValidChar := by
    rcases hland.2 with hbelow | ⟨habove, hbelow⟩
    · exact .inl (by omega)
    · exact .inr ⟨by omega, by omega⟩
  rw [Char.ofNat, dif_pos hvalid]
  rfl

/-- **No member of a run moves to a member of a run that is missed.** -/
theorem not_has_of_misses (hland : r.lands = true) (hmiss : r.misses q = true)
    (hn : r.has n = true) : q.has (r.target n) = false := by
  rw [Bool.eq_false_iff]
  intro hq
  obtain ⟨hqfirst, hqlast, -⟩ := has_iff.1 hq
  have hle := target_le hn
  have heq := target_eq hland hn
  simp only [misses, Bool.or_eq_true, Nat.blt_eq, Bool.not_eq_true', Bool.eq_false_iff, ne_eq,
    Nat.beq_eq] at hmiss
  rcases hmiss with (hbelow | habove) | hresidue
  · omega
  · omega
  -- The member differs from the first of either run by a multiple of the common divisor.
  · apply hresidue
    have hfrom : r.target r.first ≡ r.target n [MOD Nat.gcd r.step q.step] := by
      rw [Nat.modEq_iff_dvd' (by omega), heq, Nat.add_sub_cancel_left]
      exact (Nat.gcd_dvd_left _ _).trans (step_dvd hn)
    have hto : q.first ≡ r.target n [MOD Nat.gcd r.step q.step] := by
      rw [Nat.modEq_iff_dvd' hqfirst]
      exact (Nat.gcd_dvd_right _ _).trans (step_dvd hq)
    exact hfrom.trans hto.symm

theorem ofRange_has {t : CodeRange} : (ofRange t).has n = (decide (t.1 ≤ n) && decide (n ≤ t.2)) := by
  rw [Bool.eq_iff_iff, has_iff]
  simp [ofRange, Nat.mod_one]

end

end CaseRun

theorem lands_upperRuns : upperRuns.all CaseRun.lands = true := by
  decide +kernel

theorem misses_upperRuns : (upperRuns.all fun r => upperRuns.all r.misses) = true := by
  decide +kernel

theorem misses_upperSequences :
    (upperRuns.all fun r => upperSequences.all fun e => r.misses (.ofRange (e.1, e.1))) = true := by
  decide +kernel

theorem misses_blankRanges :
    (upperRuns.all fun r => blankRanges.all fun t => r.misses (.ofRange t)) = true := by
  decide +kernel

/-- The members of sequences do not change any more, and none of them is blank. -/
theorem settled_upperSequences :
    (upperSequences.all fun e => e.2.all fun n =>
      upperChar (Char.ofNat n) == [Char.ofNat n] && !isBlank (Char.ofNat n)) = true := by
  decide +kernel

theorem ne_nil_upperSequences : (upperSequences.all fun e => !e.2.isEmpty) = true := by
  decide +kernel

/-! ## Characters -/

section
variable {c d : Char}

/-- The three ways to an upper-case form. -/
theorem upperChar_cases (c : Char) :
    (∃ codes, (c.toNat, codes) ∈ upperSequences ∧ upperChar c = codes.map Char.ofNat) ∨
      (∃ r ∈ upperRuns, r.has c.toNat = true ∧ upperChar c = [Char.ofNat (r.target c.toNat)]) ∨
      upperChar c = [c] := by
  rw [upperChar, CaseRun.apply]
  split
  · next codes hlookup =>
    obtain ⟨before, behind, hmem, -⟩ := List.lookup_eq_some_iff.1 hlookup
    exact .inl ⟨codes, hmem ▸ List.mem_append_right before List.mem_cons_self, rfl⟩
  · split
    · next r hfind =>
      have hhas : r.has c.toNat = true := by simpa using List.find?_some hfind
      exact .inr (.inl ⟨r, List.mem_of_find?_eq_some hfind, hhas, rfl⟩)
    · exact .inr (.inr rfl)

/-- A character in neither table is its own upper-case form. -/
theorem upperChar_eq_self (hseq : ∀ e ∈ upperSequences, e.1 ≠ c.toNat)
    (hrun : ∀ q ∈ upperRuns, q.has c.toNat = false) : upperChar c = [c] := by
  rcases upperChar_cases c with ⟨codes, hmem, -⟩ | ⟨r, hr, hhas, -⟩ | hself
  · exact absurd rfl (hseq _ hmem)
  · exact absurd hhas (Bool.eq_false_iff.1 (hrun r hr))
  · exact hself

theorem upperChar_ne_nil (c : Char) : upperChar c ≠ [] := by
  rcases upperChar_cases c with ⟨codes, hmem, heq⟩ | ⟨r, -, -, heq⟩ | heq
  · have hcodes := List.all_eq_true.1 ne_nil_upperSequences _ hmem
    rw [heq]
    simpa using hcodes
  · rw [heq]
    exact List.cons_ne_nil _ _
  · rw [heq]
    exact List.cons_ne_nil _ _

/-- **The characters of an upper-case form do not change any more.** -/
theorem upperChar_of_mem (hd : d ∈ upperChar c) : upperChar d = [d] := by
  rcases upperChar_cases c with ⟨codes, hmem, heq⟩ | ⟨r, hr, hhas, heq⟩ | heq
  · rw [heq] at hd
    obtain ⟨n, hn, rfl⟩ := List.mem_map.1 hd
    have hsettled := List.all_eq_true.1 (List.all_eq_true.1 settled_upperSequences _ hmem) n hn
    exact eq_of_beq (Bool.and_eq_true_iff.1 hsettled).1
  · -- The place that the run moves to lies in no run and is no key of a sequence.
    rw [heq, List.mem_singleton] at hd
    have hland := List.all_eq_true.1 lands_upperRuns r hr
    have htoNat : d.toNat = r.target c.toNat := by
      rw [hd, CaseRun.toNat_ofNat_target hland hhas]
    apply upperChar_eq_self
    · intro e he hcode
      have hmiss := List.all_eq_true.1 (List.all_eq_true.1 misses_upperSequences r hr) e he
      have hnot := CaseRun.not_has_of_misses hland hmiss hhas
      rw [CaseRun.ofRange_has, ← htoNat, hcode] at hnot
      simp at hnot
    · intro q hq
      have hmiss := List.all_eq_true.1 (List.all_eq_true.1 misses_upperRuns r hr) q hq
      rw [htoNat]
      exact CaseRun.not_has_of_misses hland hmiss hhas
  · rw [heq, List.mem_singleton] at hd
    rw [hd, heq]

/-- **An upper-case form brings no blanks.** -/
theorem isBlank_of_mem_upperChar (hc : isBlank c = false) (hd : d ∈ upperChar c) :
    isBlank d = false := by
  rcases upperChar_cases c with ⟨codes, hmem, heq⟩ | ⟨r, hr, hhas, heq⟩ | heq
  · rw [heq] at hd
    obtain ⟨n, hn, rfl⟩ := List.mem_map.1 hd
    have hsettled := List.all_eq_true.1 (List.all_eq_true.1 settled_upperSequences _ hmem) n hn
    exact Bool.not_eq_true' _ ▸ (Bool.and_eq_true_iff.1 hsettled).2
  · rw [heq, List.mem_singleton] at hd
    have hland := List.all_eq_true.1 lands_upperRuns r hr
    rw [hd, isBlank, CaseRun.toNat_ofNat_target hland hhas, CodeRange.covers, List.any_eq_false]
    intro t ht
    have hmiss := List.all_eq_true.1 (List.all_eq_true.1 misses_blankRanges r hr) t ht
    rw [← CaseRun.ofRange_has, CaseRun.not_has_of_misses hland hmiss hhas]
    exact Bool.false_ne_true
  · rw [heq, List.mem_singleton] at hd
    rw [hd, hc]

end

/-! ## Texts -/

/-- **The upper-case form of a text is its own upper-case form.** -/
theorem upper_upper (s : List Char) : upper (upper s) = upper s := by
  have hself : ∀ d ∈ upper s, upperChar d = [d] := by
    intro d hd
    obtain ⟨c, -, hmem⟩ := List.mem_flatMap.1 hd
    exact upperChar_of_mem hmem
  rw [upper.eq_def (upper s), List.flatMap_congr hself, List.flatMap_singleton']

/-- The upper-case form of a text without blanks at its ends has none there either. -/
theorem isTrimmed_upper {s : List Char} (h : IsTrimmed s) : IsTrimmed (upper s) := by
  constructor
  · intro d hd
    cases s with
    | nil => cases hd
    | cons c s =>
        obtain ⟨a, l, hcons⟩ := List.exists_cons_of_ne_nil (upperChar_ne_nil c)
        rw [upper, List.flatMap_cons, hcons] at hd
        cases hd
        exact isBlank_of_mem_upperChar (h.front c rfl) (hcons ▸ List.mem_cons_self)
  · intro d hd
    rcases List.eq_nil_or_concat' s with rfl | ⟨init, c, rfl⟩
    · cases hd
    · have hlast : (upper (init ++ [c])).getLast? = (upperChar c).getLast? := by
        rw [upper, List.flatMap_append, List.flatMap_singleton]
        exact List.getLast?_append_of_ne_nil _ (upperChar_ne_nil c)
      rw [hlast] at hd
      exact isBlank_of_mem_upperChar (h.back c (by simp)) (List.mem_of_getLast? hd)

end OpcodeAtlas.Text.LetterCase
