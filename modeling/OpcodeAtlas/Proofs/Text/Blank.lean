import Mathlib.Data.List.Basic
import Mathlib.Data.List.TakeWhile
import OpcodeAtlas.Text.Blank
import OpcodeAtlas.Text.Line

/-!
# Blanks around a text

Characters of a class are taken off the end of a text (`dropEndWhile`): blanks off a text that is
trimmed, line ends off a line, padding off a number. Trimming takes the blanks off both ends of a
text and leaves the rest (`trim_of_blanks`). Blanks in front of a text on one line may hold line
ends; then they form lines of their own, and the text stands at the end of the last line
(`exists_lines_append`).
-/

set_option autoImplicit false

namespace OpcodeAtlas.Text

/-! ## The end of a text -/

section

variable {p : Char → Bool}

theorem dropEndWhile_of_all {s : List Char} (h : ∀ c ∈ s, p c = true) : dropEndWhile p s = [] := by
  induction s with
  | nil => rfl
  | cons c s ih =>
      obtain ⟨hc, hs⟩ := List.forall_mem_cons.1 h
      rw [dropEndWhile, ih hs]
      simp only [hc, if_true]

/-- A character that does not count at the end stays, whatever follows it. -/
theorem dropEndWhile_cons_of_neg {c : Char} (hc : p c = false) (s : List Char) :
    dropEndWhile p (c :: s) = c :: dropEndWhile p s := by
  rw [dropEndWhile]
  split
  next hnil => simp only [hc, Bool.false_eq_true, if_false, hnil]
  next => rfl

/-- What counts at the end is taken off behind a text in which nothing counts. -/
theorem dropEndWhile_append {s back : List Char} (hs : ∀ c ∈ s, p c = false)
    (hback : ∀ c ∈ back, p c = true) : dropEndWhile p (s ++ back) = s := by
  induction s with
  | nil => exact dropEndWhile_of_all hback
  | cons c s ih =>
      obtain ⟨hc, hs⟩ := List.forall_mem_cons.1 hs
      rw [List.cons_append, dropEndWhile_cons_of_neg hc, ih hs]

/-- A text stays as it is if its last character does not count. -/
theorem dropEndWhile_eq_self {s : List Char} (h : ∀ c ∈ s.getLast?, p c = false) :
    dropEndWhile p s = s := by
  induction s with
  | nil => rfl
  | cons c s ih =>
      cases s with
      | nil => exact dropEndWhile_cons_of_neg (h c rfl) []
      | cons d s => rw [dropEndWhile, ih (by simpa using h)]

theorem dropEndWhile_isPrefix (p : Char → Bool) (s : List Char) : dropEndWhile p s <+: s := by
  induction s with
  | nil => exact List.nil_prefix
  | cons c s ih =>
      rw [dropEndWhile]
      split
      · split
        · exact List.nil_prefix
        · exact List.cons_prefix_cons.2 ⟨rfl, List.nil_prefix⟩
      · exact List.cons_prefix_cons.2 ⟨rfl, ih⟩

/-- What is left does not end with a character that counts. -/
theorem getLast?_dropEndWhile (p : Char → Bool) (s : List Char) :
    ∀ c ∈ (dropEndWhile p s).getLast?, p c = false := by
  induction s with
  | nil => exact nofun
  | cons c s ih =>
      rw [dropEndWhile]
      split
      · split
        · exact nofun
        · next hc => simpa using hc
      · next kept hkept =>
        rw [List.getLast?_cons_of_ne_nil hkept]
        exact ih

/-- All that is taken off counts. -/
theorem exists_dropEndWhile_append (p : Char → Bool) (s : List Char) :
    ∃ back, s = dropEndWhile p s ++ back ∧ ∀ c ∈ back, p c = true := by
  induction s with
  | nil => exact ⟨[], rfl, nofun⟩
  | cons c s ih =>
      obtain ⟨back, hs, hback⟩ := ih
      rw [dropEndWhile]
      split
      · next hnil =>
        rw [hnil, List.nil_append] at hs
        by_cases hc : p c = true
        · rw [if_pos hc]
          exact ⟨c :: s, rfl, List.forall_mem_cons.2 ⟨hc, hs ▸ hback⟩⟩
        · rw [if_neg hc]
          exact ⟨s, rfl, hs ▸ hback⟩
      · exact ⟨back, by rw [List.cons_append, ← hs], hback⟩

end

/-! ## Trimming -/

theorem trim_cons_of_isBlank {c : Char} (hc : isBlank c = true) (s : List Char) :
    trim (c :: s) = trim s := by
  rw [trim, List.dropWhile_cons_of_pos hc, trim]

theorem trim_of_allBlank {s : List Char} (h : allBlank s = true) : trim s = [] := by
  rw [trim, List.dropWhile_eq_nil_iff.2 (List.all_eq_true.1 h)]
  rfl

/-- **Trimming leaves what stands between the blanks.** -/
theorem trim_of_blanks {front s back : List Char} (hfront : ∀ c ∈ front, isBlank c = true)
    (hs : ∀ c ∈ s, isBlank c = false) (hback : ∀ c ∈ back, isBlank c = true) :
    trim (front ++ (s ++ back)) = s := by
  induction front with
  | nil =>
      cases s with
      | nil => exact trim_of_allBlank (List.all_eq_true.2 hback)
      | cons c s =>
          have hc : isBlank c = false := hs c List.mem_cons_self
          rw [List.nil_append, trim, List.cons_append, List.dropWhile_cons_of_neg (by simp [hc]),
            ← List.cons_append, dropEndWhile_append hs hback]
  | cons c front ih =>
      obtain ⟨hc, hfront⟩ := List.forall_mem_cons.1 hfront
      rw [List.cons_append, trim_cons_of_isBlank hc]
      exact ih hfront

/-- A text has no blanks at its two ends. -/
structure IsTrimmed (s : List Char) : Prop where
  front : ∀ c ∈ s.head?, isBlank c = false
  back : ∀ c ∈ s.getLast?, isBlank c = false

/-- A text without blanks at its ends stays as it is. -/
theorem IsTrimmed.trim_eq {s : List Char} (h : IsTrimmed s) : trim s = s := by
  have hdrop : s.dropWhile isBlank = s := by
    cases s with
    | nil => rfl
    | cons c s => exact List.dropWhile_cons_of_neg (by simp [h.front c rfl])
  rw [trim, hdrop, dropEndWhile_eq_self h.back]

/-- **What trimming leaves has no blanks at its ends.** -/
theorem isTrimmed_trim (s : List Char) : IsTrimmed (trim s) := by
  refine ⟨?_, getLast?_dropEndWhile isBlank _⟩
  intro c hc
  -- Trimming the end keeps the first character, if it keeps any.
  have hhead : (s.dropWhile isBlank).head? = some c := by
    obtain ⟨rest, hrest⟩ := dropEndWhile_isPrefix isBlank (s.dropWhile isBlank)
    rw [← hrest, List.head?_append, ← trim, Option.mem_def.1 hc]
    rfl
  have hnot := List.head?_dropWhile_not isBlank s
  rw [hhead] at hnot
  exact hnot

/-- **Blanks are all that trimming takes off.** -/
theorem exists_trim_append (s : List Char) :
    ∃ front back, s = front ++ (trim s ++ back) ∧ (∀ c ∈ front, isBlank c = true) ∧
      ∀ c ∈ back, isBlank c = true := by
  obtain ⟨back, hs, hback⟩ := exists_dropEndWhile_append isBlank (s.dropWhile isBlank)
  refine ⟨s.takeWhile isBlank, back, ?_, fun c hc => List.mem_takeWhile_imp hc, hback⟩
  rw [trim, ← hs, List.takeWhile_append_dropWhile]

/-! ## Lines -/

/-- Line boundaries are blanks. -/
theorem isBoundary_of_not_isBlank {c : Char} (hc : isBlank c = false) : isBoundary c = false := by
  rw [Bool.eq_false_iff]
  intro hboundary
  have hblank : ∀ n ∈ boundaryCodes, CodeRange.covers blankRanges n = true := by decide
  exact absurd (hblank c.toNat (List.contains_iff_mem.1 hboundary)) (by rw [← isBlank, hc]; nofun)

theorem isLineEnd_of_not_isBoundary {c : Char} (hc : isBoundary c = false) :
    isLineEnd c = false := by
  rw [Bool.eq_false_iff]
  intro hend
  simp only [isLineEnd, Bool.or_eq_true, beq_iff_eq] at hend
  rcases hend with rfl | rfl
  · exact absurd hc (by decide)
  · exact absurd hc (by decide)

/-- A text without a line boundary is one line. -/
theorem lines_of_no_boundary {s : List Char} (hne : s ≠ [])
    (hs : ∀ c ∈ s, isBoundary c = false) : lines s = [s] := by
  induction s with
  | nil => exact absurd rfl hne
  | cons c s ih =>
      obtain ⟨hc, hs⟩ := List.forall_mem_cons.1 hs
      have hreturn : c ≠ '\r' := by
        rintro rfl
        exact absurd hc (by decide)
      rw [lines.eq_def]
      simp only [hreturn, if_false, hc, Bool.false_eq_true]
      cases s with
      | nil => rfl
      | cons d s =>
          rw [ih (List.cons_ne_nil d s) hs]
          rfl

/-- What stands in front of a text without a line boundary forms lines of its own and the start of
the line on which the text stands. -/
theorem exists_lines_append {p : Char → Prop} {front s : List Char} (hfront : ∀ c ∈ front, p c)
    (hne : s ≠ []) (hs : ∀ c ∈ s, isBoundary c = false) :
    ∃ before last, lines (front ++ s) = before ++ [last ++ s] ∧ (∀ l ∈ before, ∀ c ∈ l, p c) ∧
      ∀ c ∈ last, p c := by
  induction front with
  | nil => exact ⟨[], [], lines_of_no_boundary hne hs, nofun, nofun⟩
  | cons c front ih =>
      obtain ⟨hc, hfront⟩ := List.forall_mem_cons.1 hfront
      obtain ⟨before, last, hlines, hbefore, hlast⟩ := ih hfront
      -- The character ends a line, or it joins the first of the lines behind it.
      have hcases : lines (c :: (front ++ s)) = [c] :: lines (front ++ s) ∨
          lines (c :: (front ++ s)) = consLine c (lines (front ++ s)) := by
        rw [lines.eq_def]
        dsimp only
        split
        · split
          · exact .inr rfl
          · exact .inl rfl
        split
        · exact .inl rfl
        · exact .inr rfl
      rw [List.cons_append]
      rcases hcases with heq | heq
      · refine ⟨[c] :: before, last, by rw [heq, hlines, List.cons_append], ?_, hlast⟩
        exact List.forall_mem_cons.2 ⟨List.forall_mem_singleton.2 hc, hbefore⟩
      · cases before with
        | nil =>
            refine ⟨[], c :: last, by rw [heq, hlines]; rfl, nofun, ?_⟩
            exact List.forall_mem_cons.2 ⟨hc, hlast⟩
        | cons l before =>
            obtain ⟨hl, hbefore⟩ := List.forall_mem_cons.1 hbefore
            refine ⟨(c :: l) :: before, last, by rw [heq, hlines]; rfl, ?_, hlast⟩
            exact List.forall_mem_cons.2 ⟨List.forall_mem_cons.2 ⟨hc, hl⟩, hbefore⟩

theorem body_isPrefix (s : List Char) : body s <+: s := dropEndWhile_isPrefix isLineEnd s

/-- A line that ends with no line boundary is its own body. -/
theorem body_append {s : List Char} (front : List Char) (hne : s ≠ [])
    (hs : ∀ c ∈ s, isBoundary c = false) : body (front ++ s) = front ++ s := by
  refine dropEndWhile_eq_self fun c hc => ?_
  rw [List.getLast?_append_of_ne_nil front hne] at hc
  exact isLineEnd_of_not_isBoundary (hs c (List.mem_of_getLast? hc))

end OpcodeAtlas.Text
