import OpcodeAtlas.Proofs.Merge.Conservation

/-!
# How far a merge looks ahead

A call of `next` delivers at most one item, and that at its end. While it pulls its lines
(`Merge.pulls`) the queues only grow, so the lines pulled so far tell how the merge stands
(`Merge.afterPulling`), and the rest of the call is the call of the merge that stands there
(`Merge.pulls_split`). One more line is pulled exactly if a line is left and the queues have to wait
for it (`Merge.pulls_ne_nil_iff`).

A line that carries an instruction ends the waiting. So a call stops at the first such line that it
pulls, and the queued instructions stem from the line that was pulled last, at every moment of a
run (`MergeHistory.QueuesNewest`, `MergeHistory.run_pulls_when_waiting`). Nothing is assumed of the
line numbers, and it does not matter how much the source holds behind that line.
-/

set_option autoImplicit false

namespace OpcodeAtlas

namespace Merge

/-! ## The lines that a call pulls -/

/-- The lines that the next call takes off the source. -/
def pulls (m : Merge) : List SourceLine := m.source.take (m.next.2.pulled - m.pulled)

theorem next_effect_pulls (m : Merge) :
    Effect m.comments m.instructions m.pulled m.source m.pulls m.next.1 m.next.2 ∧
      m.visible = m.pulls ++ m.next.2.visible := by
  obtain ⟨ls, h, hvisible⟩ := next_effect m
  have hpulls : m.pulls = ls := by
    rw [pulls, h.pulled, Nat.add_sub_cancel_left, h.source, List.take_left]
  rw [hpulls]
  exact ⟨h, hvisible⟩

theorem source_eq_pulls (m : Merge) : m.source = m.pulls ++ m.next.2.source :=
  (next_effect_pulls m).1.source

/-- How a merge stands when its call has pulled the lines `ls` and delivered nothing yet. -/
def afterPulling (m : Merge) (ls : List SourceLine) : Merge :=
  { m with
    source := m.source.drop ls.length
    comments := m.comments ++ ls.flatMap SourceLine.comments
    instructions := m.instructions ++ ls.flatMap SourceLine.instructions
    pulled := m.pulled + ls.length }

@[simp] theorem afterPulling_nil (m : Merge) : m.afterPulling [] = m := by
  simp [afterPulling]

theorem afterPulling_append (m : Merge) (ls ls' : List SourceLine) :
    m.afterPulling (ls ++ ls') = (m.afterPulling ls).afterPulling ls' := by
  simp [afterPulling, Nat.add_assoc]

/-- A line that can still be pulled is the first of a source whose end has not been seen. -/
theorem source_of_visible {m : Merge} {l : SourceLine} {ls : List SourceLine}
    (hvisible : m.visible = l :: ls) : m.ended = false ∧ m.source = l :: ls := by
  cases hend : m.ended with
  | true =>
      rw [visible_of_ended hend] at hvisible
      cases hvisible
  | false =>
      rw [visible_of_not_ended hend] at hvisible
      exact ⟨rfl, hvisible⟩

/-- Queues that have nothing to deliver are filled from the next line, and the call goes on. -/
theorem next_afterPulling {m : Merge} {l : SourceLine} {ls : List SourceLine}
    (hvisible : m.visible = l :: ls) (hd : delivery? m.comments m.instructions = none) :
    (m.afterPulling [l]).next = m.next := by
  obtain ⟨hend, hsource⟩ := source_of_visible hvisible
  have hend' : (m.afterPulling [l]).ended = false := hend
  rw [next_of_not_ended hend, next_of_not_ended hend', hsource, nextFrom_cons hd]
  simp [afterPulling, hsource]

theorem pulls_of_waiting {m : Merge} {l : SourceLine} {ls : List SourceLine}
    (hvisible : m.visible = l :: ls) (hd : delivery? m.comments m.instructions = none) :
    m.pulls = l :: (m.afterPulling [l]).pulls := by
  obtain ⟨-, hsource⟩ := source_of_visible hvisible
  have hdrop : (m.afterPulling [l]).source = ls := by
    rw [afterPulling, hsource]
    rfl
  -- Both calls leave the same source, and one of them has a line more to take off.
  have hrest := source_eq_pulls (m.afterPulling [l])
  have hall := source_eq_pulls m
  rw [next_afterPulling hvisible hd, hdrop] at hrest
  rw [hsource, hrest, ← List.cons_append] at hall
  exact (List.append_cancel_right hall).symm

theorem pulls_of_delivery {m : Merge} {d : Delivery}
    (hd : delivery? m.comments m.instructions = some d) : m.pulls = [] := by
  have hpulled : m.next.2.pulled = m.pulled := by
    cases hend : m.ended with
    | true => rw [next_of_ended hend, nextFrom_of_delivery hd]
    | false => rw [next_of_not_ended hend, nextFrom_of_delivery hd]
  rw [pulls, hpulled, Nat.sub_self, List.take_zero]

/-- **A call pulls a line exactly if one is left and the queues have to wait for it**: no
instruction is queued, and the oldest comment, if there is one, lies on a positive line. -/
theorem pulls_ne_nil_iff (m : Merge) :
    m.pulls ≠ [] ↔ m.visible ≠ [] ∧ m.instructions = [] ∧ ∀ c ∈ m.comments.head?, 0 < c.line := by
  rw [← delivery?_eq_none_iff]
  constructor
  · intro hne
    refine ⟨fun hvisible => ?_, ?_⟩
    · rw [(next_effect_pulls m).2] at hvisible
      exact hne (List.append_eq_nil_iff.1 hvisible).1
    · cases hd : delivery? m.comments m.instructions with
      | none => rfl
      | some d => exact absurd (pulls_of_delivery hd) hne
  · rintro ⟨hvisible, hd⟩
    obtain ⟨l, ls, hl⟩ := List.exists_cons_of_ne_nil hvisible
    rw [pulls_of_waiting hl hd]
    exact List.cons_ne_nil _ _

/-- **A call that has pulled some of its lines goes on like the call of the merge that stands
there**, which pulls the others. -/
theorem pulls_split {m : Merge} {before after : List SourceLine}
    (h : m.pulls = before ++ after) :
    (m.afterPulling before).next = m.next ∧ (m.afterPulling before).pulls = after := by
  -- Along the pulled lines: the merge changes with each of them, and the call does not.
  induction before generalizing m with
  | nil =>
      rw [afterPulling_nil]
      exact ⟨rfl, h⟩
  | cons b before ih =>
      have hne : m.pulls ≠ [] := by
        rw [h]
        exact List.cons_ne_nil _ _
      obtain ⟨hvisible, hwaits⟩ := (pulls_ne_nil_iff m).1 hne
      obtain ⟨l, ls, hl⟩ := List.exists_cons_of_ne_nil hvisible
      have hd := delivery?_eq_none_iff.2 hwaits
      rw [pulls_of_waiting hl hd] at h
      obtain ⟨rfl, hrest⟩ := List.cons.inj h
      obtain ⟨hnext, hpulls⟩ := ih hrest
      rw [← afterPulling_append, List.singleton_append] at hnext hpulls
      exact ⟨hnext.trans (next_afterPulling hl hd), hpulls⟩

section Pulled

variable {m : Merge} {before after : List SourceLine} {l : SourceLine}

/-- When a line is pulled, the queues have to wait for it. -/
theorem waits_of_pulls (h : m.pulls = before ++ l :: after) :
    (m.afterPulling before).instructions = [] ∧
      ∀ c ∈ (m.afterPulling before).comments.head?, 0 < c.line := by
  refine ((pulls_ne_nil_iff _).1 ?_).2
  rw [(pulls_split h).2]
  exact List.cons_ne_nil _ _

/-- When a line has been pulled, its instructions are those that are queued. -/
theorem instructions_afterPulling (h : m.pulls = before ++ l :: after) :
    (m.afterPulling (before ++ [l])).instructions = l.instructions := by
  rw [afterPulling_append, afterPulling, (waits_of_pulls h).1]
  simp

/-- A line with an instruction is the last one that a call pulls. -/
theorem eq_nil_of_pulls (h : m.pulls = before ++ l :: after) (hl : l.instructions ≠ []) :
    after = [] := by
  cases after with
  | nil => rfl
  | cons l' after =>
      -- The line behind it would be pulled while instructions are queued.
      have hbehind : m.pulls = (before ++ [l]) ++ l' :: after := by
        rw [h, List.append_assoc, List.singleton_append]
      have hwaits := (waits_of_pulls hbehind).1
      rw [instructions_afterPulling h] at hwaits
      exact absurd hwaits hl

end Pulled

end Merge

/-! ## Along a run -/

/-- The instructions of the last one of some lines. -/
def lastInstructions (ls : List SourceLine) : List Instruction :=
  ls.getLast?.elim [] SourceLine.instructions

@[simp] theorem lastInstructions_concat (ls : List SourceLine) (l : SourceLine) :
    lastInstructions (ls ++ [l]) = l.instructions := by
  simp [lastInstructions]

namespace MergeHistory

/-- The queued instructions are the end of those of the line that was pulled last. -/
def QueuesNewest (h : MergeHistory) : Prop := h.merge.instructions <:+ lastInstructions h.taken

theorem taken_step_next {h : MergeHistory} (hh : h.Accounts) :
    (h.step .next).taken = h.taken ++ h.merge.pulls := by
  have hall := hh.source
  have hrest : h.pushed = (h.step .next).taken ++ h.merge.next.2.source := (next_accounts hh).source
  rw [Merge.source_eq_pulls, ← List.append_assoc, hrest] at hall
  exact List.append_cancel_right hall

/-- **While a call pulls its lines, the queued instructions stem from the newest of them.** -/
theorem QueuesNewest.afterPulling {h : MergeHistory} (hq : h.QueuesNewest)
    {before after : List SourceLine} (hsplit : h.merge.pulls = before ++ after) :
    (h.merge.afterPulling before).instructions <:+ lastInstructions (h.taken ++ before) := by
  rcases List.eq_nil_or_concat before with rfl | ⟨front, l, rfl⟩
  · rw [Merge.afterPulling_nil, List.append_nil]
    exact hq
  · rw [List.concat_eq_append] at hsplit ⊢
    rw [List.append_assoc, List.singleton_append] at hsplit
    have hlast : lastInstructions (h.taken ++ (front ++ [l])) = l.instructions := by
      rw [← List.append_assoc, lastInstructions_concat]
    exact ⟨[], (Merge.instructions_afterPulling hsplit).trans hlast.symm⟩

theorem step_queuesNewest (h : MergeHistory) (a : MergeAction)
    (hh : h.Accounts ∧ h.QueuesNewest) : (h.step a).Accounts ∧ (h.step a).QueuesNewest := by
  obtain ⟨hh, hq⟩ := hh
  refine ⟨step_accounts h a hh, ?_⟩
  cases a with
  | push ls =>
      rw [QueuesNewest, taken_step_push hh]
      exact hq
  | next =>
      -- What the call leaves of the instructions that it has queued is their end.
      have hleft : h.merge.next.2.instructions <:+
          (h.merge.afterPulling h.merge.pulls).instructions :=
        ⟨_, (Merge.next_effect_pulls h.merge).1.instructions⟩
      rw [QueuesNewest, taken_step_next hh]
      exact hleft.trans (hq.afterPulling (List.append_nil _).symm)

theorem run_queuesNewest (lines : List SourceLine) (actions : List MergeAction) :
    ((start lines).run actions).QueuesNewest :=
  (run_induction step_queuesNewest ⟨start_accounts lines, List.nil_suffix⟩ actions).2

/-- **A merge pulls a line only when its queues have to wait for one.** For every source and all
actions, a push pulls nothing, and the next call pulls a line exactly if one is left, no instruction
is queued, and the oldest comment, if there is one, lies on a positive line. The same goes for each
line of the call: when `before` has been pulled and `l` comes next, the rest of the call is that of
the merge as it stands there, and that merge queues no instruction and no oldest comment on line 0
or in front of it. If `l` carries an instruction, the call pulls nothing behind it. So at every
moment, between two calls and between two pulls, the queued instructions are the end of those of
the line that was pulled last. -/
theorem run_pulls_when_waiting (lines : List SourceLine) (actions : List MergeAction) :
    let h := (start lines).run actions
    (∀ ls, (h.step (.push ls)).taken = h.taken) ∧
    (h.step .next).taken = h.taken ++ h.merge.pulls ∧
    h.merge.source = h.merge.pulls ++ h.merge.next.2.source ∧
    (h.merge.pulls ≠ [] ↔ h.merge.visible ≠ [] ∧ h.merge.instructions = [] ∧
      ∀ c ∈ h.merge.comments.head?, 0 < c.line) ∧
    (∀ before l after, h.merge.pulls = before ++ l :: after →
      let m := h.merge.afterPulling before
      m.next = h.merge.next ∧ m.pulls = l :: after ∧
      m.instructions = [] ∧ (∀ c ∈ m.comments.head?, 0 < c.line) ∧
      (l.instructions ≠ [] → after = [])) ∧
    (∀ before after, h.merge.pulls = before ++ after →
      (h.merge.afterPulling before).instructions <:+ lastInstructions (h.taken ++ before)) := by
  intro h
  have hh : h.Accounts := run_accounts lines actions
  have hq : h.QueuesNewest := run_queuesNewest lines actions
  refine ⟨taken_step_push hh, taken_step_next hh, Merge.source_eq_pulls h.merge,
    Merge.pulls_ne_nil_iff h.merge, fun before l after hsplit => ?_,
    fun before after hsplit => hq.afterPulling hsplit⟩
  obtain ⟨hnext, hpulls⟩ := Merge.pulls_split hsplit
  obtain ⟨hinstructions, hcomments⟩ := Merge.waits_of_pulls hsplit
  exact ⟨hnext, hpulls, hinstructions, hcomments, Merge.eq_nil_of_pulls hsplit⟩

/-- Two lines without instructions, and two with one each. -/
def slowStart : List SourceLine :=
  [⟨⟨1, 0, 0⟩, [⟨1, "start", none⟩], []⟩, ⟨⟨2, 0, 0⟩, [], []⟩,
    ⟨⟨3, 0, 0⟩, [⟨3, "home", none⟩], [⟨"G", 28, 0, ⟨3, 0, 0⟩, []⟩]⟩,
    ⟨⟨4, 0, 0⟩, [], [⟨"M", 84, 0, ⟨4, 0, 0⟩, []⟩]⟩]

/-- The first call pulls as far as the first instruction, and the line behind it is pulled when
that instruction has been delivered. -/
example :
    (Merge.ofLines slowStart).pulls = slowStart.take 3 ∧
      ((start slowStart).run [.next, .next]).merge.pulls = [] ∧
      ((start slowStart).run [.next, .next, .next]).merge.pulls = slowStart.drop 3 := by
  decide

end MergeHistory

end OpcodeAtlas
