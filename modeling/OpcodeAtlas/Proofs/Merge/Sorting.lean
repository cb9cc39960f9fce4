import OpcodeAtlas.Proofs.Merge.Effect

/-!
# A merge as a stable sort

Comments may run ahead of the instructions by any number of lines, as long as none comes behind an
instruction that it has to precede: the comments arrive in order, so do the instructions, and
every comment of a source line lies behind all instructions of the source lines in front of it. A
merge then delivers the stable sort of the items by line, comments first
(`Merge.displayItems_eq_stableSort`).

The invariant (`Merge.Orderly`) speaks of the queues and of the lines that are still to come.
It is kept by pulling a line and by delivering an item, and whatever is delivered may stand in
front of everything that is left (`Merge.Leads`). That comments lie on positive lines is needed
while no instruction is queued: a comment on line 0 would not wait for the instructions to come.
-/

set_option autoImplicit false

namespace OpcodeAtlas

namespace Merge

/-- Queues and a source from which items come in order. -/
structure Orderly (cs : List Comment) (is : List Instruction) (source : List SourceLine) :
    Prop where
  comments : (cs ++ source.flatMap SourceLine.comments).Pairwise fun c d => c.line ≤ d.line
  instructions : (is ++ source.flatMap SourceLine.instructions).Pairwise fun i j =>
    i.line ≤ j.line
  queued : ∀ i ∈ is, ∀ l ∈ source, ∀ c ∈ l.comments, i.line < c.line
  apart : source.Pairwise fun l l' => ∀ i ∈ l.instructions, ∀ c ∈ l'.comments, i.line < c.line
  positive : ∀ c ∈ cs ++ source.flatMap SourceLine.comments, 1 ≤ c.line

/-- An item may stand in front of all that is queued or in the source. -/
structure Leads (x : DisplayItem) (cs : List Comment) (is : List Instruction)
    (source : List SourceLine) : Prop where
  comments : ∀ c ∈ cs ++ source.flatMap SourceLine.comments, x.NotAfter (.comment c)
  instructions : ∀ i ∈ is ++ source.flatMap SourceLine.instructions, x.NotAfter (.instruction i)

namespace Orderly

variable {cs : List Comment} {is : List Instruction} {source : List SourceLine}

/-- The oldest comment is not behind any other. -/
theorem comment_le {c : Comment} (h : Orderly (c :: cs) is source) :
    ∀ d ∈ cs ++ source.flatMap SourceLine.comments, c.line ≤ d.line :=
  (List.pairwise_cons.1 h.comments).1

/-- The oldest instruction is not behind any other. -/
theorem instruction_le {i : Instruction} (h : Orderly cs (i :: is) source) :
    ∀ j ∈ is ++ source.flatMap SourceLine.instructions, i.line ≤ j.line :=
  (List.pairwise_cons.1 h.instructions).1

theorem tail_comments {c : Comment} (h : Orderly (c :: cs) is source) : Orderly cs is source :=
  ⟨h.comments.of_cons, h.instructions, h.queued, h.apart,
    fun d hd => h.positive d (List.mem_cons_of_mem c hd)⟩

theorem tail_instructions {i : Instruction} (h : Orderly cs (i :: is) source) :
    Orderly cs is source :=
  ⟨h.comments, h.instructions.of_cons, fun j hj => h.queued j (List.mem_cons_of_mem i hj),
    h.apart, h.positive⟩

/-- A line is pulled when no instruction is queued, so only its own instructions have to lie in
front of the comments to come. -/
theorem pull {l : SourceLine} (h : Orderly cs [] (l :: source)) :
    Orderly (cs ++ l.comments) l.instructions source := by
  obtain ⟨hl, hapart⟩ := List.pairwise_cons.1 h.apart
  refine ⟨?_, h.instructions, fun i hi l' hl' => hl l' hl' i hi, hapart, ?_⟩
  · rw [List.append_assoc]
    exact h.comments
  · rw [List.append_assoc]
    exact h.positive

/-- An oldest comment that is not behind the oldest instruction leads. -/
theorem comment_leads {c : Comment} {i : Instruction} (h : Orderly (c :: cs) (i :: is) source)
    (hci : c.line ≤ i.line) : Leads (.comment c) cs (i :: is) source := by
  constructor
  · intro d hd
    exact (DisplayItem.notAfter_comment_comment c d).2 (h.comment_le d hd)
  · intro j hj
    rw [DisplayItem.notAfter_comment_instruction]
    rcases List.mem_cons.1 hj with rfl | hj
    · exact hci
    · exact Int.le_trans hci (h.instruction_le j hj)

/-- An oldest instruction in front of the oldest comment leads. -/
theorem instruction_leads {c : Comment} {i : Instruction}
    (h : Orderly (c :: cs) (i :: is) source) (hic : i.line < c.line) :
    Leads (.instruction i) (c :: cs) is source := by
  constructor
  · intro d hd
    rw [DisplayItem.notAfter_instruction_comment]
    rcases List.mem_cons.1 hd with rfl | hd
    · exact hic
    · exact Int.lt_of_lt_of_le hic (h.comment_le d hd)
  · intro j hj
    exact (DisplayItem.notAfter_instruction_instruction i j).2 (h.instruction_le j hj)

/-- Without queued comments, the oldest instruction leads: the comments to come lie behind it. -/
theorem lone_instruction_leads {i : Instruction} (h : Orderly [] (i :: is) source) :
    Leads (.instruction i) [] is source := by
  constructor
  · intro d hd
    rw [DisplayItem.notAfter_instruction_comment]
    obtain ⟨l, hl, hd⟩ := List.mem_flatMap.1 hd
    exact h.queued i List.mem_cons_self l hl d hd
  · intro j hj
    exact (DisplayItem.notAfter_instruction_instruction i j).2 (h.instruction_le j hj)

/-- **What two queues deliver leads, and leaves them orderly.** -/
theorem delivery {d : Delivery} (h : Orderly cs is source) (hd : delivery? cs is = some d) :
    Orderly d.comments d.instructions source ∧
      Leads d.item d.comments d.instructions source := by
  cases cs with
  | nil =>
      cases is with
      | nil => cases hd
      | cons i is =>
          cases hd
          exact ⟨h.tail_instructions, h.lone_instruction_leads⟩
  | cons c cs =>
      cases is with
      | nil =>
          -- Comments wait for an instruction, because their lines are positive.
          have hpos := h.positive c List.mem_cons_self
          rw [delivery?, if_neg (by omega)] at hd
          cases hd
      | cons i is =>
          rw [delivery?] at hd
          split at hd
          next hci =>
            cases hd
            exact ⟨h.tail_comments, h.comment_leads hci⟩
          next hci =>
            cases hd
            exact ⟨h.tail_instructions, h.instruction_leads (by omega)⟩

end Orderly

/-- **What a call answers leads, and leaves the merge orderly.** -/
theorem nextFrom_orderly {cs : List Comment} {is : List Instruction} {source : List SourceLine}
    (h : Orderly cs is source) (pulled : Nat) {x : DisplayItem}
    (hx : (nextFrom cs is pulled source).1 = some x) :
    Orderly (nextFrom cs is pulled source).2.comments (nextFrom cs is pulled source).2.instructions
        (nextFrom cs is pulled source).2.source ∧
      Leads x (nextFrom cs is pulled source).2.comments
        (nextFrom cs is pulled source).2.instructions
        (nextFrom cs is pulled source).2.source := by
  fun_induction nextFrom cs is pulled source with
  | case1 cs is pulled d hd =>
      cases hx
      exact h.delivery hd
  | case2 is pulled c cs hd =>
      -- The source has ended: only comments are left.
      cases hx
      obtain rfl := instructions_eq_nil_of_delivery? hd
      refine ⟨h.tail_comments, fun d hcd => ?_, fun j hj => ?_⟩
      · exact (DisplayItem.notAfter_comment_comment c d).2 (h.comment_le d hcd)
      · cases hj
  | case3 is pulled hd => cases hx
  | case4 cs is pulled l ls d hd =>
      cases hx
      exact h.delivery hd
  | case5 cs is pulled l ls hd ih =>
      obtain rfl := instructions_eq_nil_of_delivery? hd
      exact ih h.pull hx

/-- **A merge that is orderly delivers in order.** -/
theorem inOrder_drain (m : Merge) (h : Orderly m.comments m.instructions m.visible) :
    InOrder m.drain.1 := by
  induction m using drain_induction with
  | stop m hnone =>
      rw [drain_of_next_none hnone]
      exact List.Pairwise.nil
  | item m x hx ih =>
      obtain ⟨hanswer, hcs, his, hsource⟩ := next_eq_nextFrom m
      obtain ⟨horderly, hleads⟩ := nextFrom_orderly h m.pulled (hanswer.symm.trans hx)
      rw [← hcs, ← his, ← hsource] at horderly hleads
      -- What leads the queues and the source leads the rest of the drain, which holds just these.
      rw [drain_of_next_some hx]
      refine List.pairwise_cons.2 ⟨notAfter_of_kinds ?_ ?_, ih horderly⟩
      · rw [(drain_kinds _).1]
        exact hleads.comments
      · rw [(drain_kinds _).2]
        exact hleads.instructions

theorem inOrder_displayItems {lines : List SourceLine} (h : Orderly [] [] lines) :
    InOrder (displayItems lines) := inOrder_drain (ofLines lines) h

/-- **A merge is the stable sort of its items by line, comments first**, if its comments lie on
positive lines and arrive in order, its instructions arrive in order, and every comment lies
behind the instructions of all earlier source lines. -/
theorem displayItems_eq_stableSort (lines : List SourceLine)
    (positive : ∀ l ∈ lines, ∀ c ∈ l.comments, 1 ≤ c.line)
    (comments : (lines.flatMap SourceLine.comments).Pairwise fun c d => c.line ≤ d.line)
    (instructions : (lines.flatMap SourceLine.instructions).Pairwise fun i j =>
      i.line ≤ j.line)
    (apart : lines.Pairwise fun l l' =>
      ∀ i ∈ l.instructions, ∀ c ∈ l'.comments, i.line < c.line) :
    displayItems lines = stableSort (lines.flatMap SourceLine.items) := by
  have hpos : ∀ c ∈ lines.flatMap SourceLine.comments, 1 ≤ c.line := fun c hc => by
    obtain ⟨l, hl, hcl⟩ := List.mem_flatMap.1 hc
    exact positive l hl c hcl
  have horderly : Orderly [] [] lines := ⟨comments, instructions, nofun, apart, hpos⟩
  refine eq_stableSort (inOrder_displayItems horderly) ?_ ?_ ?_ ?_
  · rw [commentsIn_displayItems, commentsIn_items]
  · rw [instructionsIn_displayItems, instructionsIn_items]
  · rw [commentsIn_items]
    exact comments
  · rw [instructionsIn_items]
    exact instructions

/-- Two source lines of which the first has a comment on a line behind the instructions of the
second. -/
def runningAhead : List SourceLine :=
  [⟨⟨3, 0, 0⟩, [⟨1, "start", none⟩, ⟨5, "ahead", none⟩], [⟨"G", 28, 0, ⟨3, 0, 0⟩, []⟩]⟩,
    ⟨⟨6, 0, 0⟩, [⟨6, "end", none⟩],
      [⟨"G", 1, 0, ⟨4, 0, 0⟩, []⟩, ⟨"M", 84, 0, ⟨6, 0, 0⟩, []⟩]⟩]

/-- The comment on line 5 is delivered between the instructions on lines 4 and 6. -/
theorem displayItems_runningAhead :
    displayItems runningAhead = stableSort (runningAhead.flatMap SourceLine.items) ∧
      (displayItems runningAhead).map DisplayItem.line = [1, 3, 4, 5, 6, 6] :=
  ⟨displayItems_eq_stableSort runningAhead (by decide) (by decide) (by decide) (by decide),
    by decide⟩

end Merge

end OpcodeAtlas
