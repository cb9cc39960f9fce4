import OpcodeAtlas.Proofs.Program.Places

/-!
# The source lines of a program

A merge of comments and instructions relies on what the source lines of a program are like: none is
empty, the comments of a line come from it or from lines in front of it, and the lines follow each
other in the text (`Program.wellFormed_lines`).

While a text is read, comments that wait would form a source line if the text ended, and that line
is as it should be at any time (`Waiting.Ready`). Reading one more line completes it or lets it wait
on: either way, what waited is joined with what the line says (`wellFormed_join`), from the place
where the waiting began up to the end of the line.
-/

set_option autoImplicit false

namespace OpcodeAtlas

/-! ## What lies between two places -/

/-- Comments, instructions and arguments have their places between two places. -/
structure Contained (lo hi : Int) (cs : List Comment) (is : List Instruction) : Prop where
  comments : ∀ c ∈ cs, ∃ s, c.span = some s ∧ s.Within lo hi
  instructions : ∀ i ∈ is, i.span.Within lo hi
  arguments : ∀ i ∈ is, ∀ a ∈ i.arguments, ∃ s, a.span = some s ∧ s.Within lo hi

theorem Traced.contained {text : List Char} {lo hi : Int} {cs : List Comment}
    {is : List Instruction} (h : Traced text lo hi cs is) : Contained lo hi cs is := by
  refine ⟨fun c hc => ?_, fun i hi => (h.instructions i hi).within, fun i hi a ha => ?_⟩
  · obtain ⟨s, hs, hwithin, -⟩ := h.comments c hc
    exact ⟨s, hs, hwithin⟩
  · have hi := h.instructions i hi
    obtain ⟨s, hs, hwithin, -⟩ := hi.arguments a ha
    exact ⟨s, hs, hwithin.mono hi.within.start hi.within.stop⟩

namespace Contained

variable {lo lo' hi hi' : Int} {cs cs' : List Comment} {is : List Instruction}

/-- There is room between the two places for what lies there. -/
theorem pos (h : Contained lo hi cs is) (hne : cs ≠ [] ∨ is ≠ []) : lo < hi := by
  rcases hne with hne | hne
  · obtain ⟨c, hc⟩ := List.exists_mem_of_ne_nil cs hne
    obtain ⟨s, -, hwithin⟩ := h.comments c hc
    exact Int.lt_of_le_of_lt hwithin.start (Int.lt_of_lt_of_le hwithin.pos hwithin.stop)
  · obtain ⟨i, hi⟩ := List.exists_mem_of_ne_nil is hne
    have hwithin := h.instructions i hi
    exact Int.lt_of_le_of_lt hwithin.start (Int.lt_of_lt_of_le hwithin.pos hwithin.stop)

theorem mono (h : Contained lo hi cs is) (hlo : lo' ≤ lo) (hhi : hi ≤ hi') :
    Contained lo' hi' cs is := by
  refine ⟨fun c hc => ?_, fun i hi => (h.instructions i hi).mono hlo hhi, fun i hi a ha => ?_⟩
  · obtain ⟨s, hs, hwithin⟩ := h.comments c hc
    exact ⟨s, hs, hwithin.mono hlo hhi⟩
  · obtain ⟨s, hs, hwithin⟩ := h.arguments i hi a ha
    exact ⟨s, hs, hwithin.mono hlo hhi⟩

/-- More comments between the same places. -/
theorem append_comments (h : Contained lo hi cs []) (h' : Contained lo hi cs' is) :
    Contained lo hi (cs ++ cs') is :=
  { h' with comments := List.forall_mem_append.2 ⟨h.comments, h'.comments⟩ }

end Contained

/-! ## Source lines -/

namespace SourceLine

/-- What a source line of a program is like: it holds something; its instructions are on its line,
and its comments are on it or in front of it, in the order of their lines. Without instructions it
has the line of its last comment. Its span is not empty and covers all that it holds. -/
structure WellFormed (l : SourceLine) : Prop where
  nonempty : l.comments ≠ [] ∨ l.instructions ≠ []
  instructions : ∀ i ∈ l.instructions, i.line = l.span.line
  comments : ∀ c ∈ l.comments, c.line ≤ l.span.line
  sorted : l.comments.Pairwise fun c d => c.line ≤ d.line
  final : l.instructions = [] → ∃ c, l.comments.getLast? = some c ∧ c.line = l.span.line
  pos : l.span.start < l.span.stop
  contained : Contained l.span.start l.span.stop l.comments l.instructions

/-- A source line starts at a place or behind it, and all that it holds is on lines behind the one
with a number. -/
structure After (number place : Int) (l : SourceLine) : Prop where
  start : place ≤ l.span.start
  line : number < l.span.line
  comments : ∀ c ∈ l.comments, number < c.line

theorem After.mono {number number' place place' : Int} {l : SourceLine} (h : l.After number place)
    (hnumber : number' ≤ number) (hplace : place' ≤ place) : l.After number' place' :=
  ⟨Int.le_trans hplace h.start, Int.lt_of_le_of_lt hnumber h.line,
    fun c hc => Int.lt_of_le_of_lt hnumber (h.comments c hc)⟩

/-- A source line that is not the last one has instructions, and later ones come after it. -/
structure FollowedBy (l l' : SourceLine) : Prop where
  instructions : l.instructions ≠ []
  after : l'.After l.span.line l.span.stop

/-- Source lines are well-formed, follow each other, and come after the line with a number and a
place. -/
structure RunOn (number place : Int) (ls : List SourceLine) : Prop where
  wellFormed : ∀ l ∈ ls, l.WellFormed
  after : ∀ l ∈ ls, l.After number place
  followed : ls.Pairwise FollowedBy

/-- A source line with instructions in front of those that come after it. -/
theorem RunOn.cons {number place : Int} {l : SourceLine} {ls : List SourceLine}
    (h : RunOn l.span.line l.span.stop ls) (hl : l.WellFormed) (hafter : l.After number place)
    (hinstructions : l.instructions ≠ []) : RunOn number place (l :: ls) := by
  have hplace : place ≤ l.span.stop := Int.le_trans hafter.start (Int.le_of_lt hl.pos)
  refine ⟨List.forall_mem_cons.2 ⟨hl, h.wellFormed⟩, List.forall_mem_cons.2 ⟨hafter, ?_⟩, ?_⟩
  · exact fun l' hl' => (h.after l' hl').mono (Int.le_of_lt hafter.line) hplace
  · exact List.pairwise_cons.2 ⟨fun l' hl' => ⟨hinstructions, h.after l' hl'⟩, h.followed⟩

end SourceLine

section
variable {above place number start offset stop : Int} {content : LineContent}

/-- **A line of the text makes up a source line** with comments from lines in front of it. -/
theorem wellFormed_append {cs : List Comment} (hsorted : cs.Pairwise fun c d => c.line ≤ d.line)
    (hcs : ∀ c ∈ cs, above < c.line ∧ c.line < number) (hearlier : Contained start offset cs [])
    (habove : above < number) (hplace : place ≤ start) (hstart : start ≤ offset)
    (hon : content.On number)
    (hcontained : Contained offset stop content.comments content.instructions)
    (hne : content.comments ≠ [] ∨ content.instructions ≠ []) :
    let l : SourceLine :=
      ⟨⟨number, start, stop⟩, cs ++ content.comments, content.instructions⟩
    l.WellFormed ∧ l.After above place := by
  have hpos := hcontained.pos hne
  have hlines : ∀ c ∈ cs ++ content.comments, above < c.line ∧ c.line ≤ number := by
    refine List.forall_mem_append.2 ⟨fun c hc => ?_, fun c hc => ?_⟩
    · exact ⟨(hcs c hc).1, Int.le_of_lt (hcs c hc).2⟩
    · rw [hon.comments c hc]
      exact ⟨habove, Int.le_refl number⟩
  refine ⟨⟨?_, hon.instructions, fun c hc => (hlines c hc).2, ?_, fun hi => ?_, ?_, ?_⟩,
    hplace, habove, fun c hc => (hlines c hc).1⟩
  · exact hne.imp_left (List.append_ne_nil_of_right_ne_nil cs)
  · -- The comments of this line have one number, and the others are from lines in front of it.
    refine List.pairwise_append.2 ⟨hsorted, ?_, fun c hc d hd => ?_⟩
    · refine List.pairwise_of_forall_mem_list fun c hc d hd => ?_
      exact Int.le_of_eq ((hon.comments c hc).trans (hon.comments d hd).symm)
    · rw [hon.comments d hd]
      exact Int.le_of_lt (hcs c hc).2
  · -- Without instructions it is a comment on this line that comes last.
    have hcomments := hne.resolve_right (not_not_intro hi)
    refine ⟨content.comments.getLast hcomments, ?_, hon.comments _ (List.getLast_mem hcomments)⟩
    rw [List.getLast?_append, List.getLast?_eq_some_getLast hcomments, Option.some_or]
  · exact Int.lt_of_le_of_lt hstart hpos
  · exact (hearlier.mono (Int.le_refl start) (Int.le_of_lt hpos)).append_comments
      (hcontained.mono hstart (Int.le_refl stop))

/-! ## Comments that wait -/

/-- The comments that wait would form a source line. It comes after a line and a place, and what
waits is from lines in front of the one with `number`, and ends in front of it. -/
structure Waiting.Ready (above place number offset : Int) (w : Waiting) : Prop where
  wellFormed : w.toLine.WellFormed
  after : w.toLine.After above place
  line_lt : w.toLine.span.line < number
  stop_le : w.toLine.span.stop ≤ offset

theorem Waiting.Ready.mono {w : Waiting} (h : w.Ready above place number offset)
    {number' offset' : Int} (hnumber : number ≤ number') (hoffset : offset ≤ offset') :
    w.Ready above place number' offset' :=
  ⟨h.wellFormed, h.after, Int.lt_of_lt_of_le h.line_lt hnumber, Int.le_trans h.stop_le hoffset⟩

theorem Waiting.toLine_add (waiting : Option Waiting) (comments : List Comment)
    (number offset stop : Int) :
    (Waiting.add waiting comments number offset stop).toLine =
      ⟨⟨number, Waiting.startOr waiting offset, stop⟩,
        Waiting.commentsOf waiting ++ comments, []⟩ := by
  cases waiting with
  | none => rfl
  | some w => rfl

/-- **What waited and what the next line says** make up a source line. -/
theorem wellFormed_join {waiting : Option Waiting}
    (hwaiting : ∀ w ∈ waiting, w.Ready above place number offset) (habove : above < number)
    (hplace : place ≤ offset) (hon : content.On number)
    (hcontained : Contained offset stop content.comments content.instructions)
    (hne : content.comments ≠ [] ∨ content.instructions ≠ []) :
    let l : SourceLine := ⟨⟨number, Waiting.startOr waiting offset, stop⟩,
      Waiting.commentsOf waiting ++ content.comments, content.instructions⟩
    l.WellFormed ∧ l.After above place := by
  cases waiting with
  | none =>
      have hnone : Contained offset offset [] [] := ⟨nofun, nofun, nofun⟩
      exact wellFormed_append .nil nofun hnone habove hplace (Int.le_refl offset) hon hcontained hne
  | some w =>
      obtain ⟨hwell, hafter, hline, hstop⟩ := hwaiting w rfl
      have hearlier : Contained w.start offset w.comments [] :=
        hwell.contained.mono (Int.le_refl _) hstop
      have hstart : w.start ≤ offset := Int.le_trans (Int.le_of_lt hwell.pos) hstop
      have hlines : ∀ c ∈ w.comments, above < c.line ∧ c.line < number := fun c hc =>
        ⟨hafter.comments c hc, Int.lt_of_le_of_lt (hwell.comments c hc) hline⟩
      exact wellFormed_append hwell.sorted hlines hearlier habove hafter.start hstart hon
        hcontained hne

end

/-! ## Source lines of a text -/

/-- **What reading delivers**, while comments wait that are ready to form a source line. -/
theorem runOn_sourceLines {text front : List Char} {raws : List (List Char)} (h : Readable raws)
    (htext : text = front ++ raws.flatten) {above place number offset : Int}
    (hoffset : offset = front.length) (habove : above < number) (hplace : place ≤ offset)
    {waiting : Option Waiting} (hwaiting : ∀ w ∈ waiting, w.Ready above place number offset) :
    SourceLine.RunOn above place (sourceLines number offset waiting raws) := by
  induction raws generalizing front above place number offset waiting with
  | nil =>
      cases waiting with
      | none => exact ⟨nofun, nofun, .nil⟩
      | some w =>
          have hready := hwaiting w rfl
          exact ⟨List.forall_mem_singleton.2 hready.wellFormed,
            List.forall_mem_singleton.2 hready.after, List.pairwise_singleton _ _⟩
  | cons raw raws ih =>
      have hfault := h raw List.mem_cons_self
      have hrest : Readable raws := fun raw' hraw => h raw' (List.mem_cons_of_mem raw hraw)
      have hraws : text = (front ++ raw) ++ raws.flatten := by
        rw [htext, List.flatten_cons, List.append_assoc]
      have hnext : offset + raw.length = (front ++ raw).length := by
        rw [List.length_append, Int.natCast_add, hoffset]
      have hlength := (Text.body_isPrefix raw).length_le
      have hon := contentOf_on number offset (pieces false (Text.body raw)).pieces
      have hcontained := (traced_contentOf number htext).contained
      rw [← hoffset] at hcontained
      rw [sourceLines_cons hfault]
      generalize contentOf number offset (pieces false (Text.body raw)).pieces = content
        at hon hcontained ⊢
      dsimp only
      split
      next hinstructions =>
        -- The line completes a source line, and what follows comes after it.
        have hne : content.instructions ≠ [] := by simpa using hinstructions
        obtain ⟨hwell, hafter⟩ :=
          wellFormed_join hwaiting habove hplace hon hcontained (.inr hne)
        have hnone : ∀ w ∈ (none : Option Waiting), w.Ready number
            (offset + (Text.body raw).length) (number + 1) (offset + raw.length) := nofun
        have hlater := ih hrest hraws hnext (Int.lt_succ number) (by omega) hnone
        exact hlater.cons hwell hafter hne
      next hinstructions =>
        have hinstructions : content.instructions = [] := by simpa using hinstructions
        split
        next hcomments =>
          -- What waits from now on is what waited, together with the comments of the line.
          have hne : content.comments ≠ [] := by simpa using hcomments
          obtain ⟨hwell, hafter⟩ :=
            wellFormed_join hwaiting habove hplace hon hcontained (.inl hne)
          rw [hinstructions, ← Waiting.toLine_add] at hwell hafter
          refine ih hrest hraws hnext (by omega) (by omega) ?_
          rintro w ⟨⟩
          refine ⟨hwell, hafter, ?_, ?_⟩
          · rw [Waiting.toLine_add]
            exact Int.lt_succ number
          · rw [Waiting.toLine_add]
            dsimp only
            omega
        next hcomments =>
          exact ih hrest hraws hnext (by omega) (by omega) fun w hw =>
            (hwaiting w hw).mono (by omega) (by omega)

namespace Program

/-- **The source lines of a program** are well-formed and follow each other. -/
theorem wellFormed_lines {text : List Char} {p : Program} (h : read text = .ok p) :
    (∀ l ∈ p.lines, l.WellFormed) ∧ p.lines.Pairwise SourceLine.FollowedBy := by
  obtain ⟨hreadable, hlines⟩ := lines_of_read h
  have htext : text = [] ++ (Text.lines text).flatten := (Text.lines_flatten text).symm
  have hrun : SourceLine.RunOn 0 0 p.lines := by
    rw [hlines]
    exact runOn_sourceLines hreadable htext rfl (by decide) (by decide) nofun
  exact ⟨hrun.wellFormed, hrun.followed⟩

/-- The source lines of a program whose comments are scattered: the first one starts with a comment
three lines above its instruction, and the last one has no instructions. -/
theorem wellFormed_lines_scattered :
    ∃ p, read scattered = .ok p ∧
      p.lines.map SourceLine.span = [⟨4, 0, 21⟩, ⟨5, 22, 29⟩, ⟨6, 30, 34⟩] ∧
      (∀ l ∈ p.lines, l.WellFormed) ∧ p.lines.Pairwise SourceLine.FollowedBy := by
  have hspans : (read scattered).toOption.map (fun p => p.lines.map SourceLine.span) =
      some [⟨4, 0, 21⟩, ⟨5, 22, 29⟩, ⟨6, 30, 34⟩] := by
    decide +kernel
  obtain ⟨p, hread, hspans⟩ := exists_ok_of_toOption hspans
  exact ⟨p, hread, hspans, wellFormed_lines hread⟩

end Program

end OpcodeAtlas
