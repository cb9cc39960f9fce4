import OpcodeAtlas.Proofs.Merge.Effect

/-!
# Conservation of items along a run

A run of a merge is any sequence of calls of `next` with pushes to the source in between
(`MergeAction`). Its history keeps what can be seen from outside: the lines that the source was
given and the answers (`MergeHistory`).

At every point of a run, the items delivered so far followed by those that are queued are the
items of the lines pulled so far, comments and instructions each in their order of arrival, and
the pulled lines are the first ones that the source was given (`MergeHistory.Accounts`). Nothing
is assumed of the line numbers. `MergeHistory.run_conserves` adds what a call without an answer
means: nothing is queued, the end of the source was seen, and no later call has an answer; and
that as many calls as there are items left empty the merge.
-/

set_option autoImplicit false

namespace OpcodeAtlas

/-- What is done to a merge from outside. -/
inductive MergeAction where
  /-- Lines are put at the end of the source. -/
  | push (lines : List SourceLine)
  /-- The next item is asked for. -/
  | next
  deriving DecidableEq, Repr

/-- A merge with the lines that its source was given and its answers so far. -/
structure MergeHistory where
  merge : Merge
  /-- All lines that the source was given. -/
  pushed : List SourceLine
  /-- The lines that the source was given before its end was seen. -/
  present : List SourceLine
  /-- The answers, `none` standing for a call that found nothing left. -/
  answers : List (Option DisplayItem)
  deriving DecidableEq, Repr

namespace MergeHistory

/-- The history of a merge that nothing has been done to. -/
def start (lines : List SourceLine) : MergeHistory := ⟨Merge.ofLines lines, lines, lines, []⟩

/-- The history after one more action. -/
def step (h : MergeHistory) : MergeAction → MergeHistory
  | .push ls =>
    ⟨h.merge.push ls, h.pushed ++ ls, if h.merge.ended then h.present else h.present ++ ls,
      h.answers⟩
  | .next => ⟨h.merge.next.2, h.pushed, h.present, h.answers ++ [h.merge.next.1]⟩

/-- The history after more actions. -/
def run (h : MergeHistory) (actions : List MergeAction) : MergeHistory := actions.foldl step h

/-- The items that were delivered. -/
def delivered (h : MergeHistory) : List DisplayItem := h.answers.filterMap id

/-- The lines that were pulled. -/
def taken (h : MergeHistory) : List SourceLine := h.pushed.take h.merge.pulled

@[simp] theorem run_nil (h : MergeHistory) : h.run [] = h := rfl

@[simp] theorem run_cons (h : MergeHistory) (a : MergeAction) (as : List MergeAction) :
    h.run (a :: as) = (h.step a).run as := rfl

/-- What holds at the start and is kept by every action holds at every point of a run. -/
theorem run_induction {P : MergeHistory → Prop} (keep : ∀ h a, P h → P (h.step a))
    {h : MergeHistory} (hP : P h) (actions : List MergeAction) : P (h.run actions) := by
  induction actions generalizing h with
  | nil => exact hP
  | cons a as ih => exact ih (keep h a hP)

theorem delivered_step_push (h : MergeHistory) (ls : List SourceLine) :
    (h.step (.push ls)).delivered = h.delivered := rfl

theorem delivered_step_next (h : MergeHistory) :
    (h.step .next).delivered = h.delivered ++ h.merge.next.1.toList := by
  cases hn : h.merge.next.1 <;> simp [delivered, step, hn]

/-! ## The account of a run -/

/-- Delivered and queued items are those of the pulled lines, each kind in order; the pulled lines
are the first of those given; and a merge that had no answer has seen the end of its source and
holds nothing. -/
structure Accounts (h : MergeHistory) : Prop where
  comments : commentsIn h.delivered ++ h.merge.comments = h.taken.flatMap SourceLine.comments
  instructions : instructionsIn h.delivered ++ h.merge.instructions =
    h.taken.flatMap SourceLine.instructions
  source : h.pushed = h.taken ++ h.merge.source
  pulled : h.taken.length = h.merge.pulled
  stopped : none ∈ h.answers → h.merge.ended = true ∧ h.merge.pending = 0

theorem start_accounts (lines : List SourceLine) : (start lines).Accounts :=
  ⟨rfl, rfl, rfl, rfl, nofun⟩

namespace Accounts

variable {h : MergeHistory}

/-- Queued are the items that were pulled and not delivered. -/
theorem pending_eq (hh : h.Accounts) :
    h.merge.pending + h.delivered.length = Merge.itemCount h.taken := by
  have hc := congrArg List.length hh.comments
  have hi := congrArg List.length hh.instructions
  have hk := length_commentsIn_add_instructionsIn h.delivered
  simp only [List.length_append] at hc hi
  rw [Merge.itemCount_eq]
  unfold Merge.pending
  omega

/-- After a call without an answer there is none any more. -/
theorem next_eq_none (hh : h.Accounts) (hnone : none ∈ h.answers) : h.merge.next.1 = none := by
  obtain ⟨hend, hpending⟩ := hh.stopped hnone
  rw [Merge.next_eq_none_iff, Merge.remaining, hpending, hend]
  rfl

end Accounts

theorem taken_step_push {h : MergeHistory} (hh : h.Accounts) (ls : List SourceLine) :
    (h.step (.push ls)).taken = h.taken := by
  have hle : h.merge.pulled ≤ h.pushed.length := by
    have := hh.pulled
    rw [taken, List.length_take] at this
    omega
  exact List.take_append_of_le_length hle

theorem push_accounts {h : MergeHistory} (hh : h.Accounts) (ls : List SourceLine) :
    (h.step (.push ls)).Accounts := by
  have ht := taken_step_push hh ls
  refine ⟨?_, ?_, ?_, ?_, hh.stopped⟩
  · rw [ht, delivered_step_push]
    exact hh.comments
  · rw [ht, delivered_step_push]
    exact hh.instructions
  · rw [ht]
    show h.pushed ++ ls = h.taken ++ (h.merge.source ++ ls)
    rw [← List.append_assoc, ← hh.source]
  · rw [ht]
    exact hh.pulled

theorem next_accounts {h : MergeHistory} (hh : h.Accounts) : (h.step .next).Accounts := by
  obtain ⟨ls, he, -⟩ := Merge.next_effect h.merge
  -- The pulled lines grow by those that this call takes off the source.
  have hsplit : h.pushed = (h.taken ++ ls) ++ h.merge.next.2.source := by
    rw [List.append_assoc, ← he.source, ← hh.source]
  have hlen : (h.taken ++ ls).length = h.merge.next.2.pulled := by
    rw [List.length_append, hh.pulled, he.pulled]
  have ht : (h.step .next).taken = h.taken ++ ls := by
    show h.pushed.take h.merge.next.2.pulled = h.taken ++ ls
    rw [hsplit, ← hlen, List.take_left]
  refine ⟨?_, ?_, ?_, ?_, ?_⟩
  · rw [ht, delivered_step_next, commentsIn_append, List.append_assoc, List.flatMap_append,
      ← hh.comments, List.append_assoc]
    exact congrArg _ he.comments
  · rw [ht, delivered_step_next, instructionsIn_append, List.append_assoc, List.flatMap_append,
      ← hh.instructions, List.append_assoc]
    exact congrArg _ he.instructions
  · rw [ht]
    exact hsplit
  · rw [ht]
    exact hlen
  · intro hnone
    -- Once a call had no answer, this one has none either.
    have hnext : h.merge.next.1 = none := by
      rcases List.mem_append.1 hnone with hold | hnew
      · exact hh.next_eq_none hold
      · exact (List.mem_singleton.1 hnew).symm
    obtain ⟨hend, hc, hi⟩ := he.exhausted hnext
    refine ⟨hend, ?_⟩
    show h.merge.next.2.pending = 0
    rw [Merge.pending, hc, hi]
    rfl

theorem step_accounts (h : MergeHistory) (a : MergeAction) (hh : h.Accounts) :
    (h.step a).Accounts := by
  cases a with
  | push ls => exact push_accounts hh ls
  | next => exact next_accounts hh

theorem run_accounts (lines : List SourceLine) (actions : List MergeAction) :
    ((start lines).run actions).Accounts :=
  run_induction step_accounts (start_accounts lines) actions

/-! ## Calls until nothing is left -/

/-- Calls of an exhausted merge. -/
theorem answers_of_exhausted {h : MergeHistory} (hnone : h.merge.next.1 = none) (k : Nat) :
    (h.run (List.replicate k .next)).answers = h.answers ++ List.replicate k none := by
  induction k generalizing h with
  | zero => simp
  | succ k ih =>
      have hnext : (h.step .next).merge.next.1 = none :=
        (Merge.next_eq_none_iff _).2 (Merge.remaining_eq_zero hnone).2
      rw [List.replicate_succ, run_cons, ih hnext]
      simp [step, hnone, List.replicate_succ]

/-- **As many calls as there are items left deliver the drain of the merge, and further calls
deliver nothing.** -/
theorem answers_run_next (h : MergeHistory) (k : Nat) :
    (h.run (List.replicate (h.merge.remaining + k) .next)).answers =
      h.answers ++ h.merge.drain.1.map some ++ List.replicate k none := by
  generalize hm : h.merge = m
  -- The induction is along the deliveries, so the calls left over are all made when it stops.
  induction m using Merge.drain_induction generalizing h with
  | stop m hnone =>
      subst hm
      rw [(Merge.remaining_eq_zero hnone).1, Nat.zero_add, answers_of_exhausted hnone,
        Merge.drain_of_next_none hnone]
      simp
  | item m x hx ih =>
      subst hm
      have hr : h.merge.remaining + k = (h.merge.next.2.remaining + k) + 1 := by
        rw [Merge.remaining_next h.merge, hx, Option.toList_some, List.length_singleton]
        omega
      have ih := ih (h.step .next) rfl
      rw [hr, List.replicate_succ, run_cons]
      refine Eq.trans ih ?_
      rw [Merge.drain_of_next_some hx]
      simp [step, hx]

/-- **A run delivers every item of the pulled lines once.** For every source and all actions, the
comments delivered so far followed by the queued ones are those of the pulled lines, and so are
the instructions; the pulled lines are the first of the lines that the source was given; and as
many items are queued as were pulled and not delivered. A call has no answer exactly when nothing
is left; once that has happened, the end of the source was seen, nothing is queued, and no later
call has an answer. Further calls deliver as many items as are left, which at the start are those
of the source, and then none. -/
theorem run_conserves (lines : List SourceLine) (actions : List MergeAction) :
    let h := (start lines).run actions
    commentsIn h.delivered ++ h.merge.comments = h.taken.flatMap SourceLine.comments ∧
    instructionsIn h.delivered ++ h.merge.instructions =
      h.taken.flatMap SourceLine.instructions ∧
    h.pushed = h.taken ++ h.merge.source ∧ h.taken.length = h.merge.pulled ∧
    h.merge.pending + h.delivered.length = Merge.itemCount h.taken ∧
    (h.merge.next.1 = none ↔ h.merge.remaining = 0) ∧
    (none ∈ h.answers →
      h.merge.ended = true ∧ h.merge.pending = 0 ∧ h.merge.next.1 = none) ∧
    (∀ k, (h.run (List.replicate (h.merge.remaining + k) .next)).answers =
      h.answers ++ h.merge.drain.1.map some ++ List.replicate k none) ∧
    h.merge.drain.1.length = h.merge.remaining ∧
    (Merge.ofLines lines).remaining = Merge.itemCount lines := by
  intro h
  have hh : h.Accounts := run_accounts lines actions
  refine ⟨hh.comments, hh.instructions, hh.source, hh.pulled, hh.pending_eq,
    Merge.next_eq_none_iff h.merge, fun hnone => ?_, answers_run_next h,
    Merge.length_drain h.merge, Nat.zero_add _⟩
  obtain ⟨hend, hpending⟩ := hh.stopped hnone
  exact ⟨hend, hpending, hh.next_eq_none hnone⟩

end MergeHistory

end OpcodeAtlas
