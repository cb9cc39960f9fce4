import Mathlib.Data.List.Infix
import OpcodeAtlas.Proofs.Text.LineCount

/-!
# Texts on one line

A text stands on one line (`IsOneLine`) if no line boundary is in it and no blank is at its ends.
Such texts are cut off lines: on what is left of a line without its line end, a boundary can only
be the last character (`breaksAtEnd_body`), where trimming takes it off, whatever stretch of the
line is trimmed (`isOneLine_trim`). Joined by single spaces they stand on one line again
(`isOneLine_joined`).
-/

set_option autoImplicit false

namespace OpcodeAtlas.Text

/-- A text stands on one line: it has no line boundary, and no blanks at its two ends. -/
structure IsOneLine (s : List Char) : Prop where
  boundary : ∀ c ∈ s, isBoundary c = false
  trimmed : IsTrimmed s

section
variable {s w : List Char}

/-- A text on one line is not cut. -/
theorem IsOneLine.lines_eq (h : IsOneLine s) (hne : s ≠ []) : lines s = [s] :=
  lines_of_no_boundary hne h.boundary

/-- A text without blanks stands on one line. -/
theorem isOneLine_of_not_isBlank (h : ∀ c ∈ s, isBlank c = false) : IsOneLine s := by
  refine ⟨fun c hc => isBoundary_of_not_isBlank (h c hc), ⟨fun c hc => ?_, fun c hc => ?_⟩⟩
  · exact h c (List.mem_of_head? hc)
  · exact h c (List.mem_of_getLast? hc)

/-! ## Texts joined by spaces -/

/-- A space between two texts is at neither end of what they make up. -/
theorem IsOneLine.append_space (hw : IsOneLine w) (hs : IsOneLine s) (hwne : w ≠ [])
    (hsne : s ≠ []) : IsOneLine (w ++ ' ' :: s) := by
  refine ⟨?_, ?_, ?_⟩
  · exact List.forall_mem_append.2 ⟨hw.boundary, List.forall_mem_cons.2 ⟨by decide, hs.boundary⟩⟩
  · rw [List.head?_append_of_ne_nil w hwne]
    exact hw.trimmed.front
  · rw [List.getLast?_append_of_ne_nil w (List.cons_ne_nil ' ' s),
      List.getLast?_cons_of_ne_nil hsne]
    exact hs.trimmed.back

/-- **Texts that are joined by spaces stand on one line** if each of them does. -/
theorem isOneLine_joined {ws : List (List Char)} (hw : IsOneLine w) (hwne : w ≠ [])
    (h : ∀ v ∈ ws, IsOneLine v ∧ v ≠ []) : IsOneLine (w ++ ws.flatMap (' ' :: ·)) := by
  induction ws generalizing w with
  | nil =>
      rw [List.flatMap_nil, List.append_nil]
      exact hw
  | cons v ws ih =>
      -- The next text joins the first one, which is not empty for that.
      obtain ⟨⟨hv, hvne⟩, hws⟩ := List.forall_mem_cons.1 h
      have hjoined := ih (hw.append_space hv hwne hvne)
        (List.append_ne_nil_of_left_ne_nil hwne _) hws
      rwa [List.append_assoc, List.cons_append] at hjoined

end

/-! ## Texts cut off a line -/

/-- A boundary stands at the end of a text or nowhere. -/
def BreaksAtEnd (s : List Char) : Prop := ∀ c ∈ s.dropLast, isBoundary c = false

section
variable {s u : List Char}

/-- **What is left of a line without its line end** has no boundary in front of its last
character. -/
theorem breaksAtEnd_body {raw : List Char} (h : raw ∈ lines s) : BreaksAtEnd (body raw) := by
  obtain ⟨core, hcore, hbody⟩ := body_of_mem_lines h
  intro c hc
  apply hcore
  rcases hbody with hbody | ⟨d, -, hbody⟩
  · rw [hbody] at hc
    exact List.mem_of_mem_dropLast hc
  · rwa [hbody, List.dropLast_concat] at hc

/-- No stretch of a text has more in front of its last character than the text has. -/
theorem BreaksAtEnd.of_isInfix (h : BreaksAtEnd s) (hu : u <:+: s) : BreaksAtEnd u := by
  intro c hc
  have hne : u ≠ [] := by
    rintro rfl
    cases hc
  obtain ⟨front, back, rfl⟩ := hu
  have hfront : c ∈ front ++ u.dropLast := List.mem_append_right front hc
  apply h
  rw [List.append_assoc, List.dropLast_append_of_ne_nil (List.append_ne_nil_of_left_ne_nil hne _)]
  refine List.mem_append_right front ?_
  cases back with
  | nil => rwa [List.append_nil]
  | cons d back =>
      rw [List.dropLast_append_of_ne_nil (List.cons_ne_nil d back)]
      exact List.mem_append_left _ (List.mem_of_mem_dropLast hc)

/-- **What is trimmed stands on one line**, cut off a text whose only boundary is at its end. -/
theorem isOneLine_trim (hs : BreaksAtEnd s) (hu : u <:+: s) : IsOneLine (trim u) := by
  have htrimmed := isTrimmed_trim u
  refine ⟨fun c hc => ?_, htrimmed⟩
  obtain ⟨front, back, hsplit, -⟩ := exists_trim_append u
  have hcut : trim u <:+: u := ⟨front, back, by rw [List.append_assoc, ← hsplit]⟩
  -- The last character is no boundary because it is no blank.
  by_cases hlast : c ∈ (trim u).dropLast
  · exact hs.of_isInfix (hcut.trans hu) c hlast
  · have hend : some c = (trim u).getLast? := by
      by_contra hne
      exact hlast (List.mem_dropLast_of_mem_of_ne_getLast? hc hne)
    exact isBoundary_of_not_isBlank (htrimmed.back c hend.symm)

end

end OpcodeAtlas.Text
