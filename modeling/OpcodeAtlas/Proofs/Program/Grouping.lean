import OpcodeAtlas.Proofs.Program.SourceLines

/-!
# Source lines without instructions

While no instruction is queued, a merge lets comments on positive lines wait. So it makes no
difference to it whether a source line without instructions comes by itself or joined with the
source line behind it (`SourceLine.Grouped`): the merge of the separate lines pulls twice where the
other one pulls once, and nothing can be delivered in between (`Merge.nextFrom_grouped`). The lines
may come in any order, and comments of earlier source lines may be left in the queue.

A reading groups lines in this way. With one source line for each line of the text that says
something (`apartLines`), a program shows the same (`displayItems_grouping`).
-/

set_option autoImplicit false

namespace OpcodeAtlas

/-- A source line with the comments of two and the instructions of the second one. -/
def SourceLine.joined (span : Span) (a b : SourceLine) : SourceLine :=
  ⟨span, a.comments ++ b.comments, b.instructions⟩

/-- The second row of source lines comes from the first one by joining lines without instructions
with the lines behind them, any number of times. -/
inductive SourceLine.Grouped : List SourceLine → List SourceLine → Prop where
  | nil : Grouped [] []
  | keep {ls ls' : List SourceLine} (l : SourceLine) (h : Grouped ls ls') :
      Grouped (l :: ls) (l :: ls')
  | join {a b : SourceLine} {ls ls' : List SourceLine} (span : Span)
      (ha : a.instructions = []) (h : Grouped (joined span a b :: ls) ls') :
      Grouped (a :: b :: ls) ls'

namespace SourceLine.Grouped

theorem refl (ls : List SourceLine) : Grouped ls ls := by
  induction ls with
  | nil => exact .nil
  | cons l ls ih => exact ih.keep l

theorem append_left {ls ls' : List SourceLine} (h : Grouped ls ls') (front : List SourceLine) :
    Grouped (front ++ ls) (front ++ ls') := by
  induction front with
  | nil => exact h
  | cons l front ih => exact ih.keep l

/-- Joining lines keeps their comments. -/
theorem comments {ls ls' : List SourceLine} (h : Grouped ls ls') :
    ls'.flatMap SourceLine.comments = ls.flatMap SourceLine.comments := by
  induction h with
  | nil => rfl
  | keep l _ ih => rw [List.flatMap_cons, List.flatMap_cons, ih]
  | join span _ _ ih =>
      rw [ih, List.flatMap_cons, List.flatMap_cons, List.flatMap_cons, joined,
        List.append_assoc]

end SourceLine.Grouped

/-! ## Two merges that pull at different moments -/

/-- Comments on positive lines wait while no instruction is queued. -/
theorem delivery?_of_positive {cs : List Comment} (hcs : ∀ c ∈ cs, 1 ≤ c.line) :
    delivery? cs [] = none :=
  delivery?_eq_none_iff.2 ⟨rfl, fun c hc => hcs c (List.mem_of_mem_head? hc)⟩

namespace Merge

/-- Two calls have the same answer and leave the same queues, and what they leave of their sources
is grouped like the sources. -/
structure SameUpToGroups (r r' : Option DisplayItem × Merge) : Prop where
  answer : r.1 = r'.1
  comments : r.2.comments = r'.2.comments
  instructions : r.2.instructions = r'.2.instructions
  source : SourceLine.Grouped r.2.source r'.2.source

/-- What two queues can deliver does not depend on the source. -/
theorem sameUpToGroups_of_delivery {cs : List Comment} {is : List Instruction} {d : Delivery}
    (hd : delivery? cs is = some d) (n n' : Nat) {source source' : List SourceLine}
    (h : SourceLine.Grouped source source') :
    SameUpToGroups (nextFrom cs is n source) (nextFrom cs is n' source') := by
  rw [nextFrom_of_delivery hd, nextFrom_of_delivery hd]
  exact ⟨rfl, rfl, rfl, h⟩

/-- **Grouping the source does not change what a call does.** The two calls may pull different
numbers of lines. -/
theorem nextFrom_grouped {source source' : List SourceLine}
    (h : SourceLine.Grouped source source') {cs : List Comment} (is : List Instruction)
    (hpos : ∀ c ∈ cs ++ source.flatMap SourceLine.comments, 1 ≤ c.line) (n n' : Nat) :
    SameUpToGroups (nextFrom cs is n source) (nextFrom cs is n' source') := by
  induction h generalizing cs is n n' with
  | nil =>
      cases hd : delivery? cs is with
      | some d => exact sameUpToGroups_of_delivery hd n n' .nil
      | none =>
          -- Both have seen the end, and the oldest comment need not wait any more.
          cases cs with
          | nil => simp only [nextFrom, hd]; exact ⟨rfl, rfl, rfl, .nil⟩
          | cons c cs => simp only [nextFrom, hd]; exact ⟨rfl, rfl, rfl, .nil⟩
  | keep l hls ih =>
      cases hd : delivery? cs is with
      | some d => exact sameUpToGroups_of_delivery hd n n' (hls.keep l)
      | none =>
          rw [nextFrom_cons hd, nextFrom_cons hd]
          rw [List.flatMap_cons, ← List.append_assoc] at hpos
          exact ih _ hpos (n + 1) (n' + 1)
  | @join a b ls ls' span ha hls ih =>
      cases hd : delivery? cs is with
      | some d => exact sameUpToGroups_of_delivery hd n n' (.join span ha hls)
      | none =>
          obtain rfl := instructions_eq_nil_of_delivery? hd
          rw [List.flatMap_cons, List.flatMap_cons] at hpos
          -- Behind the first of the two lines there are only more comments, and they wait.
          have hwait : delivery? (cs ++ a.comments) ([] ++ a.instructions) = none := by
            rw [ha]
            refine delivery?_of_positive fun c hc => hpos c ?_
            rw [← List.append_assoc]
            exact List.mem_append_left _ hc
          have hjoined : ∀ c ∈ cs ++ (SourceLine.joined span a b :: ls).flatMap
              SourceLine.comments, 1 ≤ c.line := by
            rw [List.flatMap_cons, SourceLine.joined, List.append_assoc]
            exact hpos
          -- The other merge is as far as this one after one pull instead of two.
          have hone := ih [] hjoined (n + 1) n'
          rw [nextFrom_cons hd] at hone
          rw [nextFrom_cons hd, nextFrom_cons hwait, List.append_assoc, ha]
          exact hone

/-- **Merges with grouped sources deliver the same.** -/
theorem drain_grouped {m m' : Merge} (hsource : SourceLine.Grouped m.visible m'.visible)
    (hcs : m.comments = m'.comments) (his : m.instructions = m'.instructions)
    (hpos : ∀ c ∈ m.comments ++ m.visible.flatMap SourceLine.comments, 1 ≤ c.line) :
    m.drain.1 = m'.drain.1 := by
  induction m using drain_induction generalizing m' with
  | stop m hnone =>
      have hsame := nextFrom_grouped hsource m.instructions hpos m.pulled m'.pulled
      have hanswer := (next_eq_nextFrom m).1
      have hanswer' := (next_eq_nextFrom m').1
      rw [← hcs, ← his, ← hsame.answer, ← hanswer, hnone] at hanswer'
      rw [drain_of_next_none hnone, drain_of_next_none hanswer']
  | item m x hx ih =>
      have hsame := nextFrom_grouped hsource m.instructions hpos m.pulled m'.pulled
      obtain ⟨hanswer, hcomments, hinstructions, hvisible⟩ := next_eq_nextFrom m
      obtain ⟨hanswer', hcomments', hinstructions', hvisible'⟩ := next_eq_nextFrom m'
      rw [← hcs, ← his] at hanswer' hcomments' hinstructions' hvisible'
      have hnext : m'.next.1 = some x := by rw [hanswer', ← hsame.answer, ← hanswer, hx]
      -- What is left are comments that were there before.
      have hleft : ∀ c ∈ m.next.2.comments ++ m.next.2.visible.flatMap SourceLine.comments,
          1 ≤ c.line := by
        intro c hc
        apply hpos
        rw [← (next_kinds m).1]
        exact List.mem_append_right _ hc
      have hrest : m.next.2.drain.1 = m'.next.2.drain.1 := by
        refine ih ?_ ?_ ?_ hleft
        · rw [hvisible, hvisible']
          exact hsame.source
        · rw [hcomments, hcomments', hsame.comments]
        · rw [hinstructions, hinstructions', hsame.instructions]
      rw [drain_of_next_some hx, drain_of_next_some hnext, hrest]

end Merge

theorem displayItems_grouped {ls ls' : List SourceLine} (h : SourceLine.Grouped ls ls')
    (hpos : ∀ c ∈ ls.flatMap SourceLine.comments, 1 ≤ c.line) :
    displayItems ls = displayItems ls' := by
  have hsource : SourceLine.Grouped (Merge.ofLines ls).visible (Merge.ofLines ls').visible := h
  exact Merge.drain_grouped hsource rfl rfl hpos

/-! ## The lines of a text -/

/-- The source lines of a text in which no comment waits: one for each line that says something.
The first line has the number `number` and starts at `offset`. -/
def apartLines (number offset : Int) : List (List Char) → List SourceLine
  | [] => []
  | raw :: rest =>
    let content := contentOf number offset (pieces false (Text.body raw)).pieces
    let l : SourceLine := ⟨⟨number, offset, offset + (Text.body raw).length⟩, content.comments,
      content.instructions⟩
    let behind := apartLines (number + 1) (offset + raw.length) rest
    if l.isEmpty then behind else l :: behind

/-- Comments that wait are a source line that is still to be joined with the next one. -/
theorem grouped_waiting {number offset stop : Int} {comments : List Comment}
    {instructions : List Instruction} {ls ls' : List SourceLine} (waiting : Option Waiting)
    (h : SourceLine.Grouped (⟨⟨number, Waiting.startOr waiting offset, stop⟩,
      Waiting.commentsOf waiting ++ comments, instructions⟩ :: ls) ls') :
    SourceLine.Grouped (waiting.toList.map Waiting.toLine ++
      ⟨⟨number, offset, stop⟩, comments, instructions⟩ :: ls) ls' := by
  cases waiting with
  | none => exact h
  | some w => exact .join (a := w.toLine) ⟨number, w.start, stop⟩ rfl h

/-- **Reading groups the lines of a text.** -/
theorem grouped_sourceLines {raws : List (List Char)} (h : Readable raws) (number offset : Int)
    (waiting : Option Waiting) :
    SourceLine.Grouped (waiting.toList.map Waiting.toLine ++ apartLines number offset raws)
      (sourceLines number offset waiting raws) := by
  induction raws generalizing number offset waiting with
  | nil =>
      cases waiting with
      | none => exact .nil
      | some w => exact .refl [w.toLine]
  | cons raw rest ih =>
      have hfault := h raw List.mem_cons_self
      have ih := ih (fun raw' hraw => h raw' (List.mem_cons_of_mem raw hraw)) (number + 1)
        (offset + raw.length)
      rw [sourceLines_cons hfault, apartLines]
      generalize contentOf number offset (pieces false (Text.body raw)).pieces = content
      obtain ⟨comments, instructions, notes⟩ := content
      simp only [SourceLine.isEmpty]
      cases instructions with
      | cons i is =>
          -- The line is joined with what waits in front of it, and nothing waits behind it.
          simp only [List.isEmpty_cons, Bool.and_false, Bool.not_false, if_true,
            Bool.false_eq_true, if_false]
          exact grouped_waiting waiting ((ih none).keep _)
      | nil =>
          cases comments with
          | nil => exact ih waiting
          | cons c cs =>
              -- The line waits from now on, joined with what waits in front of it.
              refine grouped_waiting waiting ?_
              rw [← Waiting.toLine_add]
              exact ih (some _)

namespace Program

/-- **How source lines are grouped does not show.** If all comments lie on positive lines, a source
line without instructions may be joined with the one behind it; instructions may lie on any lines,
and nothing needs to be in order. A program is grouped in this way, and shows the same as with a
source line for each of its lines. -/
theorem displayItems_grouping :
    (∀ (before after : List SourceLine) (a b : SourceLine) (span : Span), a.instructions = [] →
      (∀ l ∈ before ++ a :: b :: after, ∀ c ∈ l.comments, 1 ≤ c.line) →
        displayItems (before ++ a :: b :: after) =
          displayItems (before ++ ⟨span, a.comments ++ b.comments, b.instructions⟩ :: after)) ∧
    ∀ (text : List Char) (p : Program), read text = .ok p →
      SourceLine.Grouped (apartLines 1 0 (Text.lines text)) p.lines ∧
        displayItems (apartLines 1 0 (Text.lines text)) = displayItems p.lines := by
  refine ⟨fun before after a b span ha hpos => ?_, fun text p hread => ?_⟩
  · have hgrouped : SourceLine.Grouped (a :: b :: after) (SourceLine.joined span a b :: after) :=
      .join span ha (.refl _)
    refine displayItems_grouped (hgrouped.append_left before) fun c hc => ?_
    obtain ⟨l, hl, hcl⟩ := List.mem_flatMap.1 hc
    exact hpos l hl c hcl
  · obtain ⟨hreadable, hlines⟩ := lines_of_read hread
    have hgrouped : SourceLine.Grouped (apartLines 1 0 (Text.lines text)) p.lines := by
      rw [hlines]
      exact grouped_sourceLines hreadable 1 0 none
    refine ⟨hgrouped, displayItems_grouped hgrouped fun c hc => ?_⟩
    -- The comments are those of the lines of the text, which are numbered from 1 on.
    rw [← hgrouped.comments, hlines, (regroups_sourceLines hreadable 1 0 none).comments] at hc
    exact le_line_comments 1 0 _ c hc

/-- A source line with a comment that stays in the queue, and one without comments behind an
instruction on an earlier line. -/
def unsortedEnds : SourceLine × SourceLine :=
  (⟨⟨5, 0, 0⟩, [⟨9, "late", none⟩], [⟨"G", 28, 0, ⟨5, 0, 0⟩, []⟩]⟩,
    ⟨⟨8, 0, 0⟩, [], [⟨"M", 84, 0, ⟨8, 0, 0⟩, []⟩]⟩)

/-- A source line without instructions, and one whose instructions run backwards. -/
def unsortedPair : SourceLine × SourceLine :=
  (⟨⟨3, 0, 0⟩, [⟨3, "a", none⟩], []⟩,
    ⟨⟨7, 0, 0⟩, [⟨7, "b", none⟩], [⟨"G", 1, 0, ⟨9, 0, 0⟩, []⟩, ⟨"G", 4, 0, ⟨2, 0, 0⟩, []⟩]⟩)

/-- The pair may be joined, although nothing is in order and a comment is left in front of it; and
the comments of a program may come with the instructions behind them or by themselves. -/
theorem displayItems_grouping_unsorted :
    displayItems [unsortedEnds.1, unsortedPair.1, unsortedPair.2, unsortedEnds.2] =
        displayItems [unsortedEnds.1,
          ⟨⟨7, 0, 0⟩, unsortedPair.1.comments ++ unsortedPair.2.comments,
            unsortedPair.2.instructions⟩, unsortedEnds.2] ∧
      (displayItems [unsortedEnds.1, unsortedPair.1, unsortedPair.2, unsortedEnds.2]).map
        DisplayItem.line = [5, 9, 3, 7, 9, 2, 8] ∧
      ∃ p, read scattered = .ok p ∧ p.lines.length = 3 ∧
        (apartLines 1 0 (Text.lines scattered)).length = 5 ∧
        displayItems (apartLines 1 0 (Text.lines scattered)) = displayItems p.lines := by
  have hlength : (read scattered).toOption.map (·.lines.length) = some 3 := by decide +kernel
  obtain ⟨p, hread, hlength⟩ := exists_ok_of_toOption hlength
  refine ⟨?_, by decide, p, hread, hlength, by decide +kernel, ?_⟩
  · exact displayItems_grouping.1 [unsortedEnds.1] [unsortedEnds.2] unsortedPair.1 unsortedPair.2
      ⟨7, 0, 0⟩ rfl (by decide)
  · exact (displayItems_grouping.2 scattered p hread).2

end Program

end OpcodeAtlas
