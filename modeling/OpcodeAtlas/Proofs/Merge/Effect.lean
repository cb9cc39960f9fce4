import OpcodeAtlas.Proofs.Merge.ItemOrder

/-!
# What one call of a merge does

One call of `next` pulls some lines off the front of the source and moves one item out of the
queues, whatever the line numbers are (`Merge.Effect`, `Merge.next_effect`). The number of items
still to come (`Merge.remaining`) goes down by one with each answer and is zero exactly when there
is none (`Merge.remaining_next`, `Merge.next_eq_none_iff`). So the fuel of a drain never runs out
early: drains have the equations of an unbounded loop (`Merge.drain_of_next_some`,
`Merge.drain_of_next_none`), and an induction along the deliveries (`Merge.drain_induction`).
-/

set_option autoImplicit false

namespace OpcodeAtlas

/-! ## Queues -/

/-- A delivery takes one item off the front of one queue. -/
theorem delivery?_kinds {cs : List Comment} {is : List Instruction} {d : Delivery}
    (h : delivery? cs is = some d) :
    commentsIn [d.item] ++ d.comments = cs ∧ instructionsIn [d.item] ++ d.instructions = is := by
  cases cs with
  | nil =>
      cases is with
      | nil => cases h
      | cons i is =>
          cases h
          exact ⟨rfl, rfl⟩
  | cons c cs =>
      cases is with
      | nil =>
          simp only [delivery?] at h
          split at h
          · cases h
            exact ⟨rfl, rfl⟩
          · cases h
      | cons i is =>
          simp only [delivery?] at h
          split at h
          · cases h
            exact ⟨rfl, rfl⟩
          · cases h
            exact ⟨rfl, rfl⟩

/-- **Queues deliver nothing exactly when no instruction is queued and the oldest comment, if there
is one, waits on a positive line.** -/
theorem delivery?_eq_none_iff {cs : List Comment} {is : List Instruction} :
    delivery? cs is = none ↔ is = [] ∧ ∀ c ∈ cs.head?, 0 < c.line := by
  cases is with
  | cons i is =>
      refine iff_of_false (fun h => ?_) fun h => List.cons_ne_nil i is h.1
      cases cs with
      | nil => cases h
      | cons c cs =>
          simp only [delivery?] at h
          split at h <;> cases h
  | nil =>
      cases cs with
      | nil => exact iff_of_true rfl ⟨rfl, nofun⟩
      | cons c cs => simp [delivery?]

/-- Queues that deliver nothing hold no instruction. -/
theorem instructions_eq_nil_of_delivery? {cs : List Comment} {is : List Instruction}
    (h : delivery? cs is = none) : is = [] := (delivery?_eq_none_iff.1 h).1

namespace Merge

theorem itemCount_eq (ls : List SourceLine) :
    itemCount ls = (ls.flatMap SourceLine.comments).length +
      (ls.flatMap SourceLine.instructions).length := by
  induction ls with
  | nil => rfl
  | cons l ls ih =>
      simp only [itemCount, List.flatMap_cons, List.length_append, ih]
      omega

theorem itemCount_append (ls ls' : List SourceLine) :
    itemCount (ls ++ ls') = itemCount ls + itemCount ls' := by
  simp only [itemCount_eq, List.flatMap_append, List.length_append]
  omega

/-! ## One call -/

/-- Queues that can deliver an item do so whatever the source holds. -/
theorem nextFrom_of_delivery {cs : List Comment} {is : List Instruction} {d : Delivery}
    (h : delivery? cs is = some d) (pulled : Nat) (source : List SourceLine) :
    nextFrom cs is pulled source =
      (some d.item, ⟨source, false, d.comments, d.instructions, pulled⟩) := by
  cases source <;> simp only [nextFrom, h]

/-- Queues that cannot deliver an item are filled from the next line of the source. -/
theorem nextFrom_cons {cs : List Comment} {is : List Instruction} (h : delivery? cs is = none)
    (pulled : Nat) (l : SourceLine) (ls : List SourceLine) :
    nextFrom cs is pulled (l :: ls) =
      nextFrom (cs ++ l.comments) (is ++ l.instructions) (pulled + 1) ls := by
  simp only [nextFrom, h]

/-- What a call does that starts with queues `cs` and `is` and the source `source`: it pulls the
lines `ls`, and its answer, if it has one, comes off the front of a queue that holds their items
too. A call without an answer has seen the end of the source and leaves nothing queued. -/
structure Effect (cs : List Comment) (is : List Instruction) (pulled : Nat)
    (source ls : List SourceLine) (answer : Option DisplayItem) (after : Merge) : Prop where
  source : source = ls ++ after.source
  pulled : after.pulled = pulled + ls.length
  comments : commentsIn answer.toList ++ after.comments = cs ++ ls.flatMap SourceLine.comments
  instructions : instructionsIn answer.toList ++ after.instructions =
    is ++ ls.flatMap SourceLine.instructions
  exhausted : answer = none → after.ended = true ∧ after.comments = [] ∧ after.instructions = []

theorem nextFrom_effect (cs : List Comment) (is : List Instruction) (pulled : Nat)
    (source : List SourceLine) :
    ∃ ls, Effect cs is pulled source ls (nextFrom cs is pulled source).1
        (nextFrom cs is pulled source).2 ∧
      ((nextFrom cs is pulled source).2.ended = true →
        (nextFrom cs is pulled source).2.source = []) := by
  fun_induction nextFrom cs is pulled source with
  | case1 cs is pulled d hd =>
      obtain ⟨hc, hi⟩ := delivery?_kinds hd
      exact ⟨[], ⟨rfl, rfl, by simpa using hc, by simpa using hi, nofun⟩, nofun⟩
  | case2 is pulled c cs hd =>
      -- The source has ended and a comment is still waiting.
      cases instructions_eq_nil_of_delivery? hd
      exact ⟨[], ⟨rfl, rfl, by simp, rfl, nofun⟩, fun _ => rfl⟩
  | case3 is pulled hd =>
      cases instructions_eq_nil_of_delivery? hd
      exact ⟨[], ⟨rfl, rfl, rfl, rfl, fun _ => ⟨rfl, rfl, rfl⟩⟩, fun _ => rfl⟩
  | case4 cs is pulled l ls d hd =>
      obtain ⟨hc, hi⟩ := delivery?_kinds hd
      exact ⟨[], ⟨rfl, rfl, by simpa using hc, by simpa using hi, nofun⟩, nofun⟩
  | case5 cs is pulled l ls hd ih =>
      -- The line that is pulled stands in front of those that the rest of the call pulls.
      obtain ⟨ls', h, hend⟩ := ih
      refine ⟨l :: ls', ⟨?_, ?_, ?_, ?_, h.exhausted⟩, hend⟩
      · rw [List.cons_append, ← h.source]
      · rw [h.pulled, List.length_cons]
        omega
      · rw [h.comments, List.flatMap_cons, List.append_assoc]
      · rw [h.instructions, List.flatMap_cons, List.append_assoc]

theorem next_of_ended {m : Merge} (h : m.ended = true) :
    m.next = ((nextFrom m.comments m.instructions m.pulled []).1,
      { (nextFrom m.comments m.instructions m.pulled []).2 with
        source := m.source, ended := true }) := by
  simp only [next, h, if_true]

theorem next_of_not_ended {m : Merge} (h : m.ended = false) :
    m.next = nextFrom m.comments m.instructions m.pulled m.source := by
  simp only [next, h, Bool.false_eq_true, if_false]

/-- The lines that a merge can still pull. -/
def visible (m : Merge) : List SourceLine := if m.ended then [] else m.source

theorem visible_of_ended {m : Merge} (h : m.ended = true) : m.visible = [] := if_pos h

theorem visible_of_not_ended {m : Merge} (h : m.ended = false) : m.visible = m.source :=
  if_neg (by rw [h]; exact Bool.false_ne_true)

/-- A call looks at the queues and at the lines that can still be pulled, and at nothing else. -/
theorem next_eq_nextFrom (m : Merge) :
    m.next.1 = (nextFrom m.comments m.instructions m.pulled m.visible).1 ∧
      m.next.2.comments = (nextFrom m.comments m.instructions m.pulled m.visible).2.comments ∧
      m.next.2.instructions =
        (nextFrom m.comments m.instructions m.pulled m.visible).2.instructions ∧
      m.next.2.visible = (nextFrom m.comments m.instructions m.pulled m.visible).2.source := by
  obtain ⟨ls, h, hend⟩ := nextFrom_effect m.comments m.instructions m.pulled m.visible
  cases hm : m.ended with
  | true =>
      rw [visible_of_ended hm] at h ⊢
      obtain ⟨-, hsource⟩ := List.append_eq_nil_iff.1 h.source.symm
      -- After the end the source is kept but not visible, like the empty one that is read instead.
      rw [next_of_ended hm]
      exact ⟨rfl, rfl, rfl, hsource.symm⟩
  | false =>
      rw [visible_of_not_ended hm] at hend ⊢
      rw [next_of_not_ended hm]
      refine ⟨rfl, rfl, rfl, ?_⟩
      cases hr : (nextFrom m.comments m.instructions m.pulled m.source).2.ended with
      | true => rw [visible_of_ended hr, hend hr]
      | false => rw [visible_of_not_ended hr]

/-- **One call of `next`.** The lines that it pulls are the first of those that are visible, so a
merge that has seen the end of its source pulls nothing any more. -/
theorem next_effect (m : Merge) :
    ∃ ls, Effect m.comments m.instructions m.pulled m.source ls m.next.1 m.next.2 ∧
      m.visible = ls ++ m.next.2.visible := by
  have hvisible := (next_eq_nextFrom m).2.2.2
  cases hm : m.ended with
  | true =>
      obtain ⟨ls, h, -⟩ := nextFrom_effect m.comments m.instructions m.pulled []
      obtain ⟨rfl, hsource⟩ := List.append_eq_nil_iff.1 h.source.symm
      rw [visible_of_ended hm, hsource] at hvisible
      rw [hvisible, visible_of_ended hm, next_of_ended hm]
      refine ⟨[], ⟨rfl, h.pulled, h.comments, h.instructions, fun hn => ?_⟩, rfl⟩
      exact ⟨rfl, (h.exhausted hn).2⟩
  | false =>
      obtain ⟨ls, h, -⟩ := nextFrom_effect m.comments m.instructions m.pulled m.source
      rw [visible_of_not_ended hm] at hvisible
      rw [hvisible, visible_of_not_ended hm, next_of_not_ended hm]
      exact ⟨ls, h, h.source⟩

/-- A merge that has seen the end of its source keeps it in mind. -/
theorem ended_next {m : Merge} (h : m.ended = true) : m.next.2.ended = true := by
  rw [next_of_ended h]

/-- The items of the pulled lines are queued or the answer. -/
theorem Effect.pending_eq {cs : List Comment} {is : List Instruction} {n : Nat}
    {source ls : List SourceLine} {answer : Option DisplayItem} {after : Merge}
    (h : Effect cs is n source ls answer after) :
    answer.toList.length + after.pending = cs.length + is.length + itemCount ls := by
  have hc := congrArg List.length h.comments
  have hi := congrArg List.length h.instructions
  have hk := length_commentsIn_add_instructionsIn answer.toList
  simp only [List.length_append] at hc hi
  rw [itemCount_eq]
  unfold pending
  omega

/-- **One call moves no item past another one of its kind.** What is queued and what the visible
lines hold is, in this order, the answer and what is left of both. -/
theorem next_kinds (m : Merge) :
    commentsIn m.next.1.toList ++
        (m.next.2.comments ++ m.next.2.visible.flatMap SourceLine.comments) =
      m.comments ++ m.visible.flatMap SourceLine.comments ∧
    instructionsIn m.next.1.toList ++
        (m.next.2.instructions ++ m.next.2.visible.flatMap SourceLine.instructions) =
      m.instructions ++ m.visible.flatMap SourceLine.instructions := by
  obtain ⟨ls, h, hvisible⟩ := next_effect m
  constructor
  · rw [hvisible, List.flatMap_append, ← List.append_assoc, h.comments, List.append_assoc]
  · rw [hvisible, List.flatMap_append, ← List.append_assoc, h.instructions, List.append_assoc]

/-- A call without an answer leaves nothing, neither queued nor to be pulled. -/
theorem exhausted_next {m : Merge} (h : m.next.1 = none) :
    m.next.2.comments = [] ∧ m.next.2.instructions = [] ∧ m.next.2.visible = [] := by
  obtain ⟨ls, he, -⟩ := next_effect m
  obtain ⟨hend, hc, hi⟩ := he.exhausted h
  exact ⟨hc, hi, visible_of_ended hend⟩

theorem remaining_eq (m : Merge) : m.remaining = m.pending + itemCount m.visible := by
  unfold remaining visible
  split <;> rfl

/-- **Each answer is one of the items still to come.** -/
theorem remaining_next (m : Merge) :
    m.remaining = m.next.1.toList.length + m.next.2.remaining := by
  obtain ⟨ls, h, hvisible⟩ := next_effect m
  have hp := h.pending_eq
  have hv := congrArg itemCount hvisible
  rw [itemCount_append] at hv
  rw [remaining_eq, remaining_eq]
  unfold pending at hp ⊢
  omega

/-- An exhausted merge has nothing left. -/
theorem remaining_eq_zero {m : Merge} (h : m.next.1 = none) :
    m.remaining = 0 ∧ m.next.2.remaining = 0 := by
  obtain ⟨hc, hi, hvisible⟩ := exhausted_next h
  have hafter : m.next.2.remaining = 0 := by
    rw [remaining_eq, pending, hc, hi, hvisible]
    rfl
  have hsum := remaining_next m
  rw [h, hafter] at hsum
  exact ⟨hsum, hafter⟩

/-- **A merge has no answer exactly when nothing is left.** -/
theorem next_eq_none_iff (m : Merge) : m.next.1 = none ↔ m.remaining = 0 := by
  constructor
  · exact fun h => (remaining_eq_zero h).1
  · intro h
    have hsum := remaining_next m
    cases ha : m.next.1 with
    | none => rfl
    | some x =>
        rw [ha, h, Option.toList_some, List.length_singleton] at hsum
        omega

/-! ## Drains -/

theorem drain_of_next_none {m : Merge} (h : m.next.1 = none) : m.drain = ([], m.next.2) := by
  unfold drain
  rw [(remaining_eq_zero h).1]
  rfl

theorem drain_of_next_some {m : Merge} {x : DisplayItem} (h : m.next.1 = some x) :
    m.drain = (x :: m.next.2.drain.1, m.next.2.drain.2) := by
  have hr : m.remaining = m.next.2.remaining + 1 := by
    rw [remaining_next m, h, Option.toList_some, List.length_singleton, Nat.add_comm]
  have hnext : m.next = (some x, m.next.2) := by rw [← h]
  unfold drain
  rw [hr, drainAtMost, hnext]

/-- A drain starts with the next answer, if there is one. -/
theorem drain_eq (m : Merge) : m.drain.1 = m.next.1.toList ++ m.next.2.drain.1 := by
  cases h : m.next.1 with
  | none =>
      have hnext := (next_eq_none_iff _).2 (remaining_eq_zero h).2
      rw [drain_of_next_none h, drain_of_next_none hnext]
      rfl
  | some x =>
      rw [drain_of_next_some h]
      rfl

/-- Induction along the deliveries of a merge. -/
theorem drain_induction {motive : Merge → Prop}
    (stop : ∀ m : Merge, m.next.1 = none → motive m)
    (item : ∀ (m : Merge) (x : DisplayItem), m.next.1 = some x → motive m.next.2 → motive m) :
    ∀ m, motive m := by
  intro m
  generalize hn : m.remaining = n
  -- Each delivery leaves one item less to come.
  induction n generalizing m with
  | zero => exact stop m ((next_eq_none_iff m).2 hn)
  | succ n ih =>
      cases h : m.next.1 with
      | none =>
          rw [(remaining_eq_zero h).1] at hn
          cases hn
      | some x =>
          refine item m x h (ih m.next.2 ?_)
          have hsum := remaining_next m
          rw [h, hn, Option.toList_some, List.length_singleton] at hsum
          omega

/-- A drain delivers all that is left. -/
theorem length_drain (m : Merge) : m.drain.1.length = m.remaining := by
  induction m using drain_induction with
  | stop m h => rw [drain_of_next_none h, (remaining_eq_zero h).1, List.length_nil]
  | item m x h ih =>
      rw [drain_of_next_some h, remaining_next m, h, List.length_cons, ih, Option.toList_some,
        List.length_singleton, Nat.add_comm]

/-- **A drain keeps each kind in order**: it delivers the queued comments and then those of the
visible lines, and so for the instructions. -/
theorem drain_kinds (m : Merge) :
    commentsIn m.drain.1 = m.comments ++ m.visible.flatMap SourceLine.comments ∧
      instructionsIn m.drain.1 =
        m.instructions ++ m.visible.flatMap SourceLine.instructions := by
  induction m using drain_induction with
  | stop m h =>
      -- Nothing is left after the call, so nothing was there before it.
      obtain ⟨hc, hi⟩ := next_kinds m
      obtain ⟨hcs, his, hvisible⟩ := exhausted_next h
      rw [h, hcs, hvisible] at hc
      rw [h, his, hvisible] at hi
      rw [drain_of_next_none h]
      exact ⟨hc, hi⟩
  | item m x h ih =>
      rw [drain_eq, commentsIn_append, instructionsIn_append, ih.1, ih.2]
      exact next_kinds m

end Merge

theorem commentsIn_displayItems (lines : List SourceLine) :
    commentsIn (displayItems lines) = lines.flatMap SourceLine.comments :=
  (Merge.drain_kinds (Merge.ofLines lines)).1

theorem instructionsIn_displayItems (lines : List SourceLine) :
    instructionsIn (displayItems lines) = lines.flatMap SourceLine.instructions :=
  (Merge.drain_kinds (Merge.ofLines lines)).2

end OpcodeAtlas
