import OpcodeAtlas.Text.Blank
import OpcodeAtlas.Text.LetterCase.Upper

/-!
# Letter case of ASCII

On ASCII the upper-case form of a character is one character, the one that only small letters
change (`upperChar_of_ascii`). A character that becomes an ASCII character is one
(`ascii_of_toUpper`), so a text that spells an upper-case text in any letter case has that text as
its upper-case form (`upper_of_map_toUpper`).
-/

set_option autoImplicit false

namespace OpcodeAtlas.Text

section
variable {c : Char}

/-- What holds of the characters of ASCII, one by one. -/
theorem forall_ascii {p : Char → Prop} (h : ∀ n < 128, p (Char.ofNat n)) (hc : c.toNat < 128) :
    p c := by
  have hchar := h c.toNat hc
  rwa [Char.ofNat_toNat] at hchar

/-- Only small letters change. -/
theorem toUpper_of_not_small (hc : ¬(97 ≤ c.toNat ∧ c.toNat ≤ 122)) : c.toUpper = c := by
  refine dif_neg fun hsmall => hc ?_
  simp only [UInt32.le_iff_toNat_le] at hsmall
  exact ⟨hsmall.1, hsmall.2⟩

/-- A character that becomes an ASCII character is one. -/
theorem ascii_of_toUpper (hc : c.toUpper.toNat < 128) : c.toNat < 128 := by
  by_cases hsmall : 97 ≤ c.toNat ∧ c.toNat ≤ 122
  · omega
  · rwa [toUpper_of_not_small hsmall] at hc

/-- A character that becomes something else than a blank is none. -/
theorem isBlank_of_toUpper (hc : isBlank c.toUpper = false) : isBlank c = false := by
  by_cases hsmall : 97 ≤ c.toNat ∧ c.toNat ≤ 122
  · exact forall_ascii (p := fun c => 97 ≤ c.toNat ∧ c.toNat ≤ 122 → isBlank c = false)
      (by decide) (by omega) hsmall
  · rwa [toUpper_of_not_small hsmall] at hc

theorem upperChar_of_ascii (hc : c.toNat < 128) : LetterCase.upperChar c = [c.toUpper] :=
  forall_ascii (p := fun c => LetterCase.upperChar c = [c.toUpper]) (by decide +kernel) hc

end

theorem upper_of_ascii {s : List Char} (hs : ∀ c ∈ s, c.toNat < 128) :
    LetterCase.upper s = s.map Char.toUpper := by
  induction s with
  | nil => rfl
  | cons c s ih =>
      obtain ⟨hc, hs⟩ := List.forall_mem_cons.1 hs
      rw [LetterCase.upper, List.flatMap_cons, upperChar_of_ascii hc]
      exact congrArg (c.toUpper :: ·) (ih hs)

/-- **A text that spells an upper-case text of ASCII in any letter case** has it as its upper-case
form. -/
theorem upper_of_map_toUpper {s t : List Char} (hs : s.map Char.toUpper = t)
    (ht : ∀ c ∈ t, c.toNat < 128) : LetterCase.upper s = t := by
  subst hs
  apply upper_of_ascii
  intro c hc
  exact ascii_of_toUpper (ht c.toUpper (List.mem_map_of_mem hc))

end OpcodeAtlas.Text
