import OpcodeAtlas.Number.Decimal
import OpcodeAtlas.Proofs.Number.Reading
import OpcodeAtlas.Value.Calendar

/-!
# Numbers and dates in plain text

Whole numbers, doubles, days and moments are written with plain characters only, those of ASCII
(`Text.IsPlain`), and none of them is written as the empty text.
-/

set_option autoImplicit false

namespace OpcodeAtlas

open Text

/-- A text holds characters of ASCII only. -/
def Text.IsAscii (s : List Char) : Prop := ∀ c ∈ s, c.toNat < 128

-- The search for an instance would try all characters.
instance (s : List Char) : Decidable (Text.IsAscii s) :=
  List.decidableBAll (fun c : Char => c.toNat < 128) s

theorem Text.IsAscii.append {s t : List Char} (hs : IsAscii s) (ht : IsAscii t) :
    IsAscii (s ++ t) := List.forall_mem_append.2 ⟨hs, ht⟩

/-- A text that is not empty and holds characters of ASCII only. -/
structure Text.IsPlain (s : List Char) : Prop where
  ne_nil : s ≠ []
  ascii : IsAscii s

namespace Text.IsPlain

variable {s t : List Char}

theorem append (hs : IsPlain s) (ht : IsAscii t) : IsPlain (s ++ t) :=
  ⟨List.append_ne_nil_of_left_ne_nil hs.ne_nil t, hs.ascii.append ht⟩

theorem behind (hs : IsAscii s) (ht : IsPlain t) : IsPlain (s ++ t) :=
  ⟨List.append_ne_nil_of_right_ne_nil s ht.ne_nil, hs.append ht.ascii⟩

end Text.IsPlain

/-! ## Numbers -/

theorem ascii_zeros (n : Nat) : IsAscii (List.replicate n '0') := by
  intro c hc
  rw [List.eq_of_mem_replicate hc]
  decide

theorem isPlain_toDigits (n : Nat) : IsPlain (Nat.toDigits 10 n) := by
  refine ⟨Nat.toDigits_ne_nil, fun c hc => ?_⟩
  have hdigit : c.isDigit = true := Nat.isDigit_of_mem_toDigits (by decide) (by decide) hc
  simp only [Char.isDigit, Bool.and_eq_true, decide_eq_true_eq] at hdigit
  have hle := UInt32.le_iff_toNat_le.1 hdigit.2
  exact Nat.lt_of_le_of_lt hle (by decide)

theorem isPlain_toString (n : Int) : IsPlain (toString n).toList := by
  rw [Number.toList_toString]
  refine IsPlain.behind ?_ (isPlain_toDigits n.natAbs)
  unfold Number.signOf
  split
  · exact List.forall_mem_singleton.2 (by decide)
  · exact List.forall_mem_nil _

theorem ascii_exponentText (e : Int) : IsAscii (Decimal.exponentText e) := by
  have hdigits := (isPlain_toDigits e.natAbs).ascii
  rw [Decimal.exponentText]
  refine List.forall_mem_cons.2 ⟨?_, ?_⟩
  · split <;> decide
  · split
    · exact List.forall_mem_cons.2 ⟨by decide, hdigits⟩
    · exact hdigits

theorem isPlain_decimal (layout : Decimal.Layout) (d : Decimal) :
    IsPlain (Decimal.text layout d) := by
  have hdigits := isPlain_toDigits d.coefficient
  rw [Decimal.text]
  dsimp only
  split
  · split
    · -- Below one.
      have hfront : IsPlain (['0', '.'] ++ List.replicate (-(d.exponent +
          (Nat.toDigits 10 d.coefficient).length - 1) - 1).toNat '0') :=
        IsPlain.append ⟨List.cons_ne_nil _ _, by decide⟩ (ascii_zeros _)
      exact hfront.append hdigits.ascii
    · split
      · refine (hdigits.append (ascii_zeros _)).append ?_
        split
        · decide
        · exact List.forall_mem_nil _
      · -- The point stands among the digits.
        have hpoint : IsPlain ('.' :: (Nat.toDigits 10 d.coefficient).drop (d.exponent +
            (Nat.toDigits 10 d.coefficient).length - 1 + 1).toNat) := by
          refine ⟨List.cons_ne_nil _ _, List.forall_mem_cons.2 ⟨by decide, fun c hc => ?_⟩⟩
          exact hdigits.ascii c (List.mem_of_mem_drop hc)
        exact hpoint.behind fun c hc => hdigits.ascii c (List.mem_of_mem_take hc)
  · -- With an exponent.
    split
    next hnil => exact absurd hnil hdigits.ne_nil
    next c rest hcons =>
      obtain ⟨hc, hrest⟩ := List.forall_mem_cons.1 (hcons ▸ hdigits.ascii)
      refine ⟨List.cons_ne_nil _ _, List.forall_mem_append.2 ⟨List.forall_mem_cons.2 ⟨hc, ?_⟩, ?_⟩⟩
      · split
        · exact List.forall_mem_nil _
        · exact List.forall_mem_cons.2 ⟨by decide, hrest⟩
      · exact List.forall_mem_cons.2 ⟨by decide, ascii_exponentText _⟩

theorem isPlain_valueText (x : Binary64) : IsPlain x.valueText.toList := by
  have hsign (negative : Bool) : IsAscii (Binary64.signText negative) := by
    cases negative <;> decide
  rw [Binary64.valueText, String.toList_ofList]
  cases x with
  | nan => exact ⟨List.cons_ne_nil _ _, by decide⟩
  | infinite negative => exact IsPlain.behind (hsign negative) ⟨List.cons_ne_nil _ _, by decide⟩
  | finite negative m s =>
      refine IsPlain.behind (hsign negative) ?_
      split
      · exact ⟨List.cons_ne_nil _ _, by decide⟩
      · exact isPlain_decimal _ _

/-! ## Dates -/

theorem isPlain_padded (width n : Nat) : IsPlain (padded width n).toList := by
  have hdigits : (toString n).toList = Nat.toDigits 10 n := by
    rw [Nat.toString_eq_repr, Nat.repr_eq_ofList_toDigits, String.toList_ofList]
  rw [padded, String.toList_append, String.toList_ofList, hdigits]
  exact IsPlain.behind (ascii_zeros _) (isPlain_toDigits n)

theorem isPlain_day (d : Day) : IsPlain d.text.toList := by
  simp only [Day.text, String.toList_append]
  have hdash : IsAscii "-".toList := by decide
  refine ((((isPlain_padded 4 d.year).append hdash).append ?_).append hdash).append ?_
  · exact (isPlain_padded 2 d.month).ascii
  · exact (isPlain_padded 2 d.day).ascii

theorem isPlain_clock (c : Clock) : IsPlain c.text.toList := by
  simp only [Clock.text, String.toList_append]
  have hcolon : IsAscii ":".toList := by decide
  refine (((((isPlain_padded 2 c.hour).append hcolon).append ?_).append hcolon).append ?_).append ?_
  · exact (isPlain_padded 2 c.minute).ascii
  · exact (isPlain_padded 2 c.second).ascii
  · split
    · exact List.forall_mem_nil _
    · rw [String.toList_append]
      exact IsAscii.append (by decide) (isPlain_padded 6 c.microsecond).ascii

theorem ascii_aheadText (s : Int) : IsAscii (Moment.aheadText s).toList := by
  simp only [Moment.aheadText, String.toList_append]
  have hcolon : IsAscii ":".toList := by decide
  refine (((IsAscii.append ?_ (isPlain_padded 2 _).ascii).append hcolon).append
    (isPlain_padded 2 _).ascii).append ?_
  · split <;> decide
  · split
    · exact List.forall_mem_nil _
    · rw [String.toList_append]
      exact hcolon.append (isPlain_padded 2 _).ascii

theorem isPlain_moment (m : Moment) : IsPlain m.text.toList := by
  simp only [Moment.text, Moment.textWith, String.toList_append]
  refine (((isPlain_day m.day).append (by decide)).append (isPlain_clock m.clock).ascii).append ?_
  split
  · exact List.forall_mem_nil _
  · exact ascii_aheadText _

end OpcodeAtlas
