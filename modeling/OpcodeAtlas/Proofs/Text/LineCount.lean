import Mathlib.Data.List.Basic
import OpcodeAtlas.Proofs.Text.LineEnd

/-!
# Counting lines

The lines of a text end at line ends, and at the boundaries that are no line ends, its separators.
So a place on a line has one line end or one separator in front of it for each line in front of
that line (`cuts_of_lines`), and the line ends alone count the lines only where no separator stands
in front of the place.

A boundary closes its line. What is left of a line without the line end that closes it has no
boundary, but for a separator at its end (`body_of_mem_lines`).
-/

set_option autoImplicit false

namespace OpcodeAtlas.Text

/-- Whether a character ends a line without being a line end. -/
def isSeparator (c : Char) : Bool := isBoundary c && !isLineEnd c

/-- How many line ends a text has: line feeds, carriage returns, and pairs of the two. -/
def lineEnds (s : List Char) : Nat := (unifyEnds s).count '\n'

/-- How many separators a text has. -/
def separators (s : List Char) : Nat := s.countP isSeparator

/-- How often a text is cut into lines. -/
def cuts (s : List Char) : Nat := lineEnds s + separators s

theorem separators_eq_zero_iff {s : List Char} :
    separators s = 0 ↔ ∀ c ∈ s, isSeparator c = false := by
  simp [separators, List.countP_eq_zero]

/-! ## One character more -/

/-- A carriage return and a line feed behind it are one line end. -/
theorem cuts_return_feed (s : List Char) : cuts ('\r' :: '\n' :: s) = cuts ('\n' :: s) := by
  have hends : unifyEnds ('\r' :: '\n' :: s) = unifyEnds ('\n' :: s) := by
    rw [unifyEnds.eq_def]
    simp only [if_true]
  rw [cuts, cuts, lineEnds, hends, lineEnds, separators, List.countP_cons_of_neg (by decide)]
  rfl

/-- A carriage return by itself is one. -/
theorem cuts_return {s : List Char} (hs : s.head? ≠ some '\n') :
    cuts ('\r' :: s) = cuts s + 1 := by
  have hends : unifyEnds ('\r' :: s) = '\n' :: unifyEnds s :=
    (IsEndBefore.loneReturn hs).unifyEnds_append
  rw [cuts, lineEnds, hends, List.count_cons_self, separators, List.countP_cons_of_neg (by decide)]
  exact Nat.add_right_comm ..

/-- Any other boundary is a line end or a separator. -/
theorem cuts_boundary {c : Char} (hc : c ≠ '\r') (hboundary : isBoundary c = true)
    (s : List Char) : cuts (c :: s) = cuts s + 1 := by
  have hends : unifyEnds (c :: s) = c :: unifyEnds s := by
    rw [unifyEnds.eq_def]
    simp only [hc, if_false]
  by_cases hfeed : c = '\n'
  · subst hfeed
    rw [cuts, lineEnds, hends, List.count_cons_self, separators,
      List.countP_cons_of_neg (by decide)]
    exact Nat.add_right_comm ..
  · have hseparator : isSeparator c = true := by simp [isSeparator, isLineEnd, hboundary, hc, hfeed]
    rw [cuts, lineEnds, hends, List.count_cons_of_ne hfeed, separators,
      List.countP_cons_of_pos hseparator]
    rfl

/-- No other character cuts a text. -/
theorem cuts_of_not_boundary {c : Char} (hc : isBoundary c = false) (s : List Char) :
    cuts (c :: s) = cuts s := by
  have hreturn : c ≠ '\r' := by
    rintro rfl
    exact absurd hc (by decide)
  have hfeed : c ≠ '\n' := by
    rintro rfl
    exact absurd hc (by decide)
  have hends : unifyEnds (c :: s) = c :: unifyEnds s := by
    rw [unifyEnds.eq_def]
    simp only [hreturn, if_false]
  have hseparator : ¬isSeparator c = true := by simp [isSeparator, hc]
  rw [cuts, lineEnds, hends, List.count_cons_of_ne hfeed, separators,
    List.countP_cons_of_neg hseparator]
  rfl

/-- A text without boundaries is not cut. -/
theorem cuts_eq_zero {s : List Char} (hs : ∀ c ∈ s, isBoundary c = false) : cuts s = 0 := by
  induction s with
  | nil => rfl
  | cons c s ih =>
      obtain ⟨hc, hs⟩ := List.forall_mem_cons.1 hs
      rw [cuts_of_not_boundary hc, ih hs]

/-- Nor does it cut the text that it follows. -/
theorem cuts_append {t : List Char} (s : List Char) (ht : ∀ c ∈ t, isBoundary c = false) :
    cuts (s ++ t) = cuts s := by
  have hhead {s : List Char} (hs : s.head? ≠ some '\n') : (s ++ t).head? ≠ some '\n' := by
    rw [List.head?_append]
    cases s with
    | nil =>
        intro hfeed
        exact absurd (ht '\n' (List.mem_of_head? hfeed)) (by decide)
    | cons c s => exact hs
  -- The cases are those of line ends: a pair, a lone carriage return, any other character.
  fun_induction unifyEnds s with
  | case1 => exact cuts_eq_zero ht
  | case2 s ih =>
      rw [List.cons_append, List.cons_append, cuts_return_feed, cuts_return_feed]
      exact ih
  | case3 s hs ih =>
      have hs : s.head? ≠ some '\n' := fun hfeed => by
        obtain ⟨r, rfl⟩ := List.head?_eq_some_iff.1 hfeed
        exact hs r rfl
      rw [List.cons_append, cuts_return (hhead hs), cuts_return hs, ih]
  | case4 c s hc ih =>
      rw [List.cons_append]
      cases hboundary : isBoundary c with
      | true => rw [cuts_boundary hc hboundary, cuts_boundary hc hboundary, ih]
      | false => rw [cuts_of_not_boundary hboundary, cuts_of_not_boundary hboundary, ih]

/-! ## Lines -/

theorem lines_feed (s : List Char) : lines ('\n' :: s) = ['\n'] :: lines s := by
  rw [lines.eq_def]
  rfl

/-- **A text is cut once for each line in front of a line.** -/
theorem cuts_of_lines {s raw : List Char} {before rest : List (List Char)}
    (h : lines s = before ++ raw :: rest) : cuts before.flatten = before.length := by
  fun_induction lines s generalizing before with
  | case1 => exact absurd h.symm (List.append_ne_nil_of_right_ne_nil before (List.cons_ne_nil _ _))
  | case2 s ih =>
      rw [lines_feed] at h ih
      cases before with
      | nil => rfl
      | cons l before =>
          obtain ⟨rfl, hrest⟩ := List.cons.inj h
          -- The pair ends the line that the line feed would end by itself.
          have ih : cuts (['\n'] :: before).flatten = (['\n'] :: before).length :=
            ih (congrArg (['\n'] :: ·) hrest)
          exact (cuts_return_feed before.flatten).trans ih
  | case3 s hs ih =>
      cases before with
      | nil => rfl
      | cons l before =>
          obtain ⟨rfl, hrest⟩ := List.cons.inj h
          have hrest : lines s = before ++ raw :: rest := hrest
          -- No line feed follows, so the carriage return is a line end by itself.
          have hprefix : before.flatten <+: s := by
            rw [← lines_flatten s, hrest, List.flatten_append]
            exact List.prefix_append _ _
          have hhead : before.flatten.head? ≠ some '\n' := fun hfeed => by
            obtain ⟨t, ht⟩ := List.head?_eq_some_iff.1 hfeed
            obtain ⟨u, hu⟩ := hprefix
            exact hs (t ++ u) (by rw [← hu, ht, List.cons_append])
          rw [List.flatten_cons, List.singleton_append, cuts_return hhead, ih hrest,
            List.length_cons]
  | case4 c s hc hboundary ih =>
      cases before with
      | nil => rfl
      | cons l before =>
          obtain ⟨rfl, hrest⟩ := List.cons.inj h
          rw [List.flatten_cons, List.singleton_append, cuts_boundary hc hboundary, ih hrest,
            List.length_cons]
  | case5 c s hc hboundary ih =>
      cases before with
      | nil => rfl
      | cons l before =>
          cases hlines : lines s with
          | nil =>
              rw [hlines] at h
              exact absurd (List.cons.inj h).2.symm
                (List.append_ne_nil_of_right_ne_nil before (List.cons_ne_nil _ _))
          | cons l' ls =>
              rw [hlines] at h ih
              obtain ⟨rfl, hrest⟩ := List.cons.inj h
              -- The character stands in front of the first line and cuts nothing.
              have ih : cuts (l' :: before).flatten = (l' :: before).length :=
                ih (congrArg (l' :: ·) hrest)
              rw [List.flatten_cons, List.cons_append,
                cuts_of_not_boundary (by simpa using hboundary)]
              exact ih

/-- **What is left of a line without its line end** has no boundary, but for a separator at its
end. -/
theorem body_of_mem_lines {s raw : List Char} (h : raw ∈ lines s) :
    ∃ core : List Char, (∀ c ∈ core, isBoundary c = false) ∧
      (body raw = core ∨ ∃ c, isSeparator c = true ∧ body raw = core ++ [c]) := by
  fun_induction lines s generalizing raw with
  | case1 => cases h
  | case2 s ih =>
      rw [lines_feed] at h ih
      rcases List.mem_cons.1 h with rfl | h
      · exact ⟨[], List.forall_mem_nil _, .inl rfl⟩
      · exact ih (List.mem_cons_of_mem _ h)
  | case3 s hs ih =>
      rcases List.mem_cons.1 h with rfl | h
      · exact ⟨[], List.forall_mem_nil _, .inl rfl⟩
      · exact ih h
  | case4 c s hc hboundary ih =>
      rcases List.mem_cons.1 h with rfl | h
      · cases hend : isLineEnd c with
        | true =>
            have hbody : body [c] = [] := dropEndWhile_of_all (List.forall_mem_singleton.2 hend)
            exact ⟨[], List.forall_mem_nil _, .inl hbody⟩
        | false =>
            have hseparator : isSeparator c = true := by simp [isSeparator, hboundary, hend]
            refine ⟨[], List.forall_mem_nil _, .inr ⟨c, hseparator, ?_⟩⟩
            exact body_cons_of_not_isLineEnd hend []
      · exact ih h
  | case5 c s hc hboundary ih =>
      have hboundary : isBoundary c = false := by simpa using hboundary
      have hend := isLineEnd_of_not_isBoundary hboundary
      cases hlines : lines s with
      | nil =>
          rw [hlines] at h
          obtain rfl := List.mem_singleton.1 h
          refine ⟨[c], List.forall_mem_singleton.2 hboundary, .inl ?_⟩
          exact body_cons_of_not_isLineEnd hend []
      | cons l ls =>
          rw [hlines] at h ih
          rcases List.mem_cons.1 h with rfl | h
          · -- The character joins the first line of the rest.
            obtain ⟨core, hcore, hbody⟩ := ih List.mem_cons_self
            refine ⟨c :: core, List.forall_mem_cons.2 ⟨hboundary, hcore⟩, ?_⟩
            rw [body_cons_of_not_isLineEnd hend]
            rcases hbody with hbody | ⟨d, hd, hbody⟩
            · exact .inl (by rw [hbody])
            · exact .inr ⟨d, hd, by rw [hbody, List.cons_append]⟩
          · exact ih (List.mem_cons_of_mem l h)

/-- There is no line feed on what is left of a line. -/
theorem feed_not_mem_body {s raw : List Char} (h : raw ∈ lines s) : '\n' ∉ body raw := by
  obtain ⟨core, hcore, hbody⟩ := body_of_mem_lines h
  have hfeed : '\n' ∉ core := fun hmem => absurd (hcore '\n' hmem) (by decide)
  rcases hbody with hbody | ⟨c, hc, hbody⟩
  · rwa [hbody]
  · rw [hbody, List.mem_append, List.mem_singleton]
    rintro (hmem | rfl)
    · exact hfeed hmem
    · exact absurd hc (by decide)

/-- **A place on a line has one line end or separator in front of it for each line in front of the
line.** -/
theorem cuts_take {s raw : List Char} {before rest : List (List Char)}
    (h : lines s = before ++ raw :: rest) {k : Nat} (hk : k < (body raw).length) :
    cuts (s.take (before.flatten.length + k)) = before.length := by
  obtain ⟨core, hcore, hbody⟩ := body_of_mem_lines (h ▸ List.mem_append_right _ List.mem_cons_self)
  have hs : s = before.flatten ++ (raw ++ rest.flatten) := by
    rw [← lines_flatten s, h, List.flatten_append, List.flatten_cons]
  have htake : s.take (before.flatten.length + k) = before.flatten ++ (body raw).take k := by
    obtain ⟨tail, htail⟩ := body_isPrefix raw
    have hraw : raw ++ rest.flatten = body raw ++ (tail ++ rest.flatten) := by
      rw [← List.append_assoc, htail]
    rw [hs, List.take_length_add_append, hraw, List.take_append_of_le_length (Nat.le_of_lt hk)]
  have hno : ∀ c ∈ (body raw).take k, isBoundary c = false := by
    intro c hc
    rcases hbody with hbody | ⟨d, -, hbody⟩
    · rw [hbody] at hc
      exact hcore c (List.mem_of_mem_take hc)
    · rw [hbody, List.length_append, List.length_singleton] at hk
      rw [hbody, List.take_append_of_le_length (Nat.le_of_lt_succ hk)] at hc
      exact hcore c (List.mem_of_mem_take hc)
  rw [htake, cuts_append _ hno, cuts_of_lines h]

end OpcodeAtlas.Text
