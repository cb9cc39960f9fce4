import OpcodeAtlas.Proofs.Number.Reading
import OpcodeAtlas.Proofs.Number.SixDigits

/-!
# Numbers within the digit limit

The limit on digits holds for whole numbers that are read and for those that are written. What was
read can be written again (`writeInteger_of_readInteger`): its text may have had zeros in front,
which do not return, but no number has more digits than a row that it was read from. The whole
numbers among the doubles have far fewer digits (`writeInteger_of_toInt?`), and whatever a text is
read as is a double in canonical form.
-/

set_option autoImplicit false

namespace OpcodeAtlas.Number

open Text

/-! ## Whole numbers -/

theorem digitValue?_lt {c : Char} {d : Nat} (h : digitValue? c = some d) : d < 10 := by
  obtain ⟨z, hz, rfl⟩ := Option.map_eq_some_iff.1 h
  have hdecade := List.find?_some hz
  simp only [Bool.and_eq_true, decide_eq_true_iff] at hdecade
  omega

/-- One digit more in front of the end of a number. -/
theorem lt_pow_succ {value count d : Nat} (hvalue : value < 10 ^ count) (hd : d < 10) :
    10 * value + d < 10 ^ (count + 1) := by
  rw [Nat.pow_succ]
  omega

/-- **A row of digits is worth less than the power of ten with their number**, underscores between
them aside. -/
theorem digitRow_lt {pending : Bool} {count value count' value' : Nat} {s rest : List Char}
    (h : digitRow pending count value s = some (count', value', rest))
    (hvalue : value < 10 ^ count) : value' < 10 ^ count' := by
  induction s generalizing pending count value with
  | nil =>
      rw [digitRow] at h
      split at h
      · cases h
      · cases h
        exact hvalue
  | cons c s ih =>
      rw [digitRow] at h
      split at h
      next hseparator =>
        split at h
        · cases h
        · exact ih h hvalue
      next hseparator =>
        split at h
        next d hd => exact ih h (lt_pow_succ hvalue (digitValue?_lt hd))
        next hd =>
          -- Another character ends the row.
          split at h
          · cases h
          · cases h
            exact hvalue

/-- A whole number below a power of ten within the limit can be written. -/
theorem writeInteger_of_lt {n : Int} {count : Nat} (hn : n.natAbs < 10 ^ count)
    (hcount : count ≠ 0) (hlimit : count ≤ digitLimit) : writeInteger n = .ok (toString n) := by
  refine writeInteger_eq_ok_iff.2 ⟨Nat.le_trans ?_ hlimit, rfl⟩
  exact (Nat.length_toDigits_le_iff (by decide) (Nat.pos_of_ne_zero hcount)).2 hn

/-- **What was read can be written.** -/
theorem writeInteger_of_readInteger {s : List Char} {n : Int} (h : readInteger s = .ok n) :
    writeInteger n = .ok (toString n) := by
  simp only [readInteger] at h
  split at h
  · cases h
  split at h
  · cases h
  next count value rest hrow =>
    split at h
    · cases h
    next hlimit =>
      split at h
      · cases h
      next hcount =>
        split at h
        · have hvalue : value < 10 ^ count := digitRow_lt hrow (by decide)
          have hn : n.natAbs = value := by
            rw [← Except.ok.inj h]
            split <;> omega
          exact writeInteger_of_lt (hn ▸ hvalue) hcount (Nat.not_lt.1 hlimit)
        · cases h

/-! ## Doubles -/

/-- What a decimal text is read as is canonical. -/
theorem canonical_of_readDecimal? {s : List Char} {x : Binary64} (h : readDecimal? s = some x) :
    x.Canonical := by
  obtain ⟨t, -, h⟩ := Option.bind_eq_some_iff.1 h
  have hdecimal {negative missing : Bool} {whole fraction rest : List Char}
      (h : (if missing then none
        else (readExponent? rest).map (ofParts negative whole fraction)) = some x) :
      x.Canonical := by
    split at h
    · cases h
    · obtain ⟨e, -, rfl⟩ := Option.map_eq_some_iff.1 h
      exact Binary64.canonical_ofDecimal _ _ _
  simp only [readPlainDecimal?] at h
  split at h
  · obtain rfl := Option.some.inj h
    trivial
  split at h
  · obtain rfl := Option.some.inj h
    trivial
  -- There may be a point or not; both ways digits and an exponent are read.
  split at h
  · exact hdecimal h
  · exact hdecimal h

/-- **A whole double can be written.** -/
theorem writeInteger_of_toInt? {x : Binary64} {n : Int} (hx : x.Canonical)
    (hn : x.toInt? = some n) : writeInteger n = .ok (toString n) := by
  cases x with
  | infinite neg => cases hn
  | nan => cases hn
  | finite neg m s =>
      simp only [Binary64.toInt?] at hn
      split at hn
      next hmod =>
        have hunits : m * Nat.pow 2 s / Binary64.unitsPerOne * Binary64.unitsPerOne =
            m * Nat.pow 2 s := Nat.div_mul_cancel (Nat.dvd_of_mod_eq_zero hmod)
        generalize m * Nat.pow 2 s / Binary64.unitsPerOne = k at hn hunits
        unfold Binary64.unitsPerOne at hunits
        have hdigits : Binary64.digitCount k ≤ 330 :=
          Binary64.digitCount_le (q := 79) hx.1 hx.2.2 hunits (by decide) (by decide) (by decide)
        have habs : n.natAbs = k := by
          rw [← Option.some.inj hn]
          split <;> omega
        refine writeInteger_eq_ok_iff.2 ⟨?_, rfl⟩
        rw [habs]
        exact Nat.le_trans hdigits (by decide)
      next hmod => cases hn

end OpcodeAtlas.Number
