import OpcodeAtlas.Proofs.Merge.Conservation

/-!
# Merging a source that grows

What a merge delivers does not depend on when the lines of its source arrive. A call that does not
come to see the end of the source would have had the same answer with more lines behind
(`Merge.next_push`), and a merge that has seen the end does not look at its source again. So the
items of a run are always the first ones of the drain of a fresh merge, over the lines that the
source was given before its end was seen (`MergeHistory.Streams`, `MergeHistory.run_streams`).
-/

set_option autoImplicit false

namespace OpcodeAtlas

namespace Merge

@[simp] theorem push_nil (m : Merge) : m.push [] = m := by
  simp [push]

theorem push_push (m : Merge) (ls more : List SourceLine) :
    (m.push ls).push more = m.push (ls ++ more) := by
  simp [push, List.append_assoc]

theorem nextFrom_append {cs : List Comment} {is : List Instruction} {pulled : Nat}
    {source : List SourceLine} (h : (nextFrom cs is pulled source).2.ended = false)
    (more : List SourceLine) :
    nextFrom cs is pulled (source ++ more) =
      ((nextFrom cs is pulled source).1, (nextFrom cs is pulled source).2.push more) := by
  fun_induction nextFrom cs is pulled source with
  | case1 cs is pulled d hd => exact nextFrom_of_delivery hd pulled ([] ++ more)
  | case2 is pulled c cs hd => cases h
  | case3 is pulled hd => cases h
  | case4 cs is pulled l ls d hd => exact nextFrom_of_delivery hd pulled (l :: ls ++ more)
  | case5 cs is pulled l ls hd ih =>
      rw [List.cons_append, nextFrom_cons hd]
      exact ih h

/-- **More lines behind the source do not change an answer**, unless the end of the source is seen
on the way to it. -/
theorem next_push {m : Merge} (h : m.ended = true ∨ m.next.2.ended = false)
    (more : List SourceLine) : (m.push more).next = (m.next.1, m.next.2.push more) := by
  cases hm : m.ended with
  | true =>
      have hp : (m.push more).ended = true := hm
      rw [next_of_ended hm, next_of_ended hp]
      rfl
  | false =>
      have hp : (m.push more).ended = false := hm
      have hnext : m.next.2.ended = false := h.resolve_left (by simp [hm])
      rw [next_of_not_ended hm] at hnext ⊢
      rw [next_of_not_ended hp]
      exact nextFrom_append hnext more

/-- Lines that come too late are never delivered. -/
theorem drain_push_of_ended {m : Merge} (h : m.ended = true) (more : List SourceLine) :
    (m.push more).drain.1 = m.drain.1 := by
  induction m using drain_induction with
  | stop m hnone =>
      have hp := next_push (.inl h) more
      rw [drain_of_next_none hnone, drain_of_next_none (by rw [hp, hnone])]
  | item m x hx ih =>
      have hp := next_push (.inl h) more
      rw [drain_of_next_some hx, drain_of_next_some (by rw [hp, hx]), hp]
      exact congrArg (x :: ·) (ih (ended_next h))

end Merge

namespace MergeHistory

/-! ## Every run delivers the front of a drain -/

/-- While the end of the source is not seen, what was delivered and what the merge would still
deliver are the items of the lines given so far, with any further lines behind them; from then on,
those of the lines that were given before. -/
structure Streams (h : MergeHistory) : Prop where
  open_drain : h.merge.ended = false → ∀ more,
    h.delivered ++ (h.merge.push more).drain.1 = displayItems (h.present ++ more)
  ended_drain : h.merge.ended = true → h.delivered ++ h.merge.drain.1 = displayItems h.present
  open_present : h.merge.ended = false → h.present = h.pushed

theorem start_streams (lines : List SourceLine) : (start lines).Streams :=
  ⟨fun _ _ => rfl, nofun, fun _ => rfl⟩

theorem push_streams {h : MergeHistory} (hh : h.Streams) (ls : List SourceLine) :
    (h.step (.push ls)).Streams := by
  cases hend : h.merge.ended with
  | true =>
      have hpresent : (h.step (.push ls)).present = h.present := if_pos hend
      refine ⟨fun hf => ?_, fun _ => ?_, fun hf => ?_⟩
      · cases hend.symm.trans hf
      · -- The lines come too late to be present.
        rw [delivered_step_push, hpresent]
        show h.delivered ++ (h.merge.push ls).drain.1 = _
        rw [Merge.drain_push_of_ended hend, hh.ended_drain hend]
      · cases hend.symm.trans hf
  | false =>
      have hpresent : (h.step (.push ls)).present = h.present ++ ls :=
        if_neg (by rw [hend]; exact Bool.false_ne_true)
      refine ⟨fun _ more => ?_, fun ht => ?_, fun _ => ?_⟩
      · rw [delivered_step_push, hpresent, List.append_assoc]
        show h.delivered ++ ((h.merge.push ls).push more).drain.1 = _
        rw [Merge.push_push, hh.open_drain hend]
      · cases hend.symm.trans ht
      · rw [hpresent, hh.open_present hend]
        rfl

theorem next_streams {h : MergeHistory} (hh : h.Streams) : (h.step .next).Streams := by
  cases hend : h.merge.ended with
  | true =>
      have hend' : (h.step .next).merge.ended = true := Merge.ended_next hend
      refine ⟨fun hf => ?_, fun _ => ?_, fun hf => ?_⟩
      · cases hend'.symm.trans hf
      · rw [delivered_step_next, List.append_assoc]
        show h.delivered ++ (h.merge.next.1.toList ++ h.merge.next.2.drain.1) = _
        rw [← Merge.drain_eq, hh.ended_drain hend]
        rfl
      · cases hend'.symm.trans hf
  | false =>
      refine ⟨fun hf more => ?_, fun _ => ?_, fun _ => hh.open_present hend⟩
      · -- This call did not see the end, so lines behind the source do not matter to it.
        have hpush := Merge.next_push (.inr hf) more
        have hdrain := Merge.drain_eq (h.merge.push more)
        rw [hpush] at hdrain
        rw [delivered_step_next, List.append_assoc]
        show h.delivered ++ (h.merge.next.1.toList ++ (h.merge.next.2.push more).drain.1) = _
        rw [← hdrain]
        exact hh.open_drain hend more
      · -- This call saw the end: nothing more will ever be looked at.
        rw [delivered_step_next, List.append_assoc]
        show h.delivered ++ (h.merge.next.1.toList ++ h.merge.next.2.drain.1) = _
        rw [← Merge.drain_eq]
        have hdrain := hh.open_drain hend []
        rw [Merge.push_nil, List.append_nil] at hdrain
        exact hdrain

theorem step_streams (h : MergeHistory) (a : MergeAction) (hh : h.Streams) :
    (h.step a).Streams := by
  cases a with
  | push ls => exact push_streams hh ls
  | next => exact next_streams hh

theorem run_streams (lines : List SourceLine) (actions : List MergeAction) :
    ((start lines).run actions).Streams :=
  run_induction step_streams (start_streams lines) actions

theorem Streams.delivered_prefix {h : MergeHistory} (hh : h.Streams) :
    h.delivered <+: displayItems h.present := by
  cases hend : h.merge.ended with
  | true => exact ⟨_, hh.ended_drain hend⟩
  | false =>
      have hdrain := hh.open_drain hend []
      rw [List.append_nil] at hdrain
      exact ⟨_, hdrain⟩

/-! ## Runs that do not see the end -/

/-- Every call had an answer. -/
theorem Accounts.answers_eq {h : MergeHistory} (hh : h.Accounts) (hend : h.merge.ended = false) :
    h.answers = h.delivered.map some := by
  have hnone : none ∉ h.answers := fun hn => by
    cases hend.symm.trans (hh.stopped hn).1
  unfold delivered
  generalize h.answers = answers at hnone
  induction answers with
  | nil => rfl
  | cons a as ih =>
      cases a with
      | none => exact absurd List.mem_cons_self hnone
      | some x =>
          have has := ih fun hn => hnone (List.mem_cons_of_mem _ hn)
          show some x :: as = some x :: (as.filterMap id).map some
          rw [← has]

/-- Runs over the same lines that do not see the end answer alike, as far as both have been
asked. -/
theorem answers_prefix {h h' : MergeHistory} (hh : h.Accounts) (hh' : h'.Accounts)
    (hs : h.Streams) (hs' : h'.Streams) (hend : h.merge.ended = false)
    (hend' : h'.merge.ended = false) (hpushed : h.pushed = h'.pushed)
    (hlen : h.answers.length ≤ h'.answers.length) : h.answers <+: h'.answers := by
  -- Both deliver the front of one drain.
  have hp := hs.delivered_prefix
  have hp' := hs'.delivered_prefix
  rw [hs.open_present hend, hpushed, ← hs'.open_present hend'] at hp
  rw [hh.answers_eq hend, hh'.answers_eq hend'] at hlen ⊢
  rw [List.length_map, List.length_map] at hlen
  exact (List.prefix_of_prefix_length_le hp hp' hlen).map some

/-! ## After the end -/

/-- Calls after the end answer as if nothing had been pushed: a merge with more lines behind its
source stays so, while neither is looked at. -/
theorem answers_of_ended {h h' : MergeHistory} (hend : h.merge.ended = true)
    {more : List SourceLine} (hmerge : h'.merge = h.merge.push more)
    (hanswers : h'.answers = h.answers) (later : List MergeAction) :
    (h'.run later).answers = (h.run (List.replicate (later.count .next) .next)).answers := by
  induction later generalizing h h' more with
  | nil => exact hanswers
  | cons a later ih =>
      cases a with
      | push ls =>
          have hpush : (h'.step (.push ls)).merge = h.merge.push (more ++ ls) := by
            show h'.merge.push ls = _
            rw [hmerge, Merge.push_push]
          rw [run_cons, List.count_cons_of_ne (by simp)]
          exact ih hend hpush hanswers
      | next =>
          have hnext := Merge.next_push (.inl hend) more
          rw [← hmerge] at hnext
          have hmerge' : (h'.step .next).merge = (h.step .next).merge.push more := by
            show h'.merge.next.2 = _
            rw [hnext]
            rfl
          have hanswers' : (h'.step .next).answers = (h.step .next).answers := by
            show h'.answers ++ [h'.merge.next.1] = h.answers ++ [h.merge.next.1]
            rw [hnext, hanswers]
          rw [run_cons, List.count_cons_self, List.replicate_succ, run_cons]
          exact ih (Merge.ended_next hend) hmerge' hanswers'

theorem present_of_ended {h : MergeHistory} (hend : h.merge.ended = true)
    (actions : List MergeAction) : (h.run actions).present = h.present := by
  induction actions generalizing h with
  | nil => rfl
  | cons a as ih =>
      cases a with
      | push ls => exact (ih (h := h.step (.push ls)) hend).trans (if_pos hend)
      | next => exact ih (h := h.step .next) (Merge.ended_next hend)

/-- A run that has seen the end did so in one of its calls, and the lines that were present are
those given before that call. -/
theorem present_of_run_ended {h : MergeHistory} (hs : h.Streams) (hend : h.merge.ended = false)
    {actions : List MergeAction} (hrun : (h.run actions).merge.ended = true) :
    ∃ before after, actions = before ++ .next :: after ∧
      (h.run before).merge.ended = false ∧ (h.run (before ++ [.next])).merge.ended = true ∧
      (h.run actions).present = (h.run before).pushed := by
  induction actions generalizing h with
  | nil => cases hend.symm.trans hrun
  | cons a as ih =>
      cases hstep : (h.step a).merge.ended with
      | false =>
          obtain ⟨before, after, rfl, hb, ha, hp⟩ := ih (step_streams h a hs) hstep hrun
          exact ⟨a :: before, after, rfl, hb, ha, hp⟩
      | true =>
          cases a with
          | push ls => cases hend.symm.trans hstep
          | next =>
              refine ⟨[], as, rfl, hend, hstep, ?_⟩
              rw [run_cons, present_of_ended hstep]
              exact hs.open_present hend

/-- **Streaming agrees with a drain.** The items that a run delivers are the first ones of the
drain of a fresh merge over the lines `present`: all that the source was given, or, once a call
has seen its end, those given before the first such call. So two runs over the same lines that do
not see the end answer alike, whenever the lines arrive; and once the end was seen, the answers
are as if nothing had been pushed any more. -/
theorem run_agrees_with_drain (lines : List SourceLine) (actions : List MergeAction) :
    let h := (start lines).run actions
    h.delivered <+: (Merge.ofLines h.present).drain.1 ∧
    (h.merge.ended = false → h.present = h.pushed) ∧
    (h.merge.ended = true → ∃ before after, actions = before ++ .next :: after ∧
      ((start lines).run before).merge.ended = false ∧
      ((start lines).run (before ++ [.next])).merge.ended = true ∧
      h.present = ((start lines).run before).pushed) ∧
    (∀ (lines' : List SourceLine) (actions' : List MergeAction),
      h.merge.ended = false → ((start lines').run actions').merge.ended = false →
      h.pushed = ((start lines').run actions').pushed →
      h.answers.length ≤ ((start lines').run actions').answers.length →
      h.answers <+: ((start lines').run actions').answers) ∧
    (h.merge.ended = true → ∀ later,
      (h.run later).answers = (h.run (List.replicate (later.count .next) .next)).answers) := by
  intro h
  have hs : h.Streams := run_streams lines actions
  refine ⟨hs.delivered_prefix, hs.open_present,
    fun hend => present_of_run_ended (start_streams lines) rfl hend,
    fun lines' actions' hend hend' hpushed hlen => ?_, fun hend later => ?_⟩
  · exact answers_prefix (run_accounts lines actions) (run_accounts lines' actions') hs
      (run_streams lines' actions') hend hend' hpushed hlen
  · exact answers_of_ended hend (Merge.push_nil _).symm rfl later

end MergeHistory

end OpcodeAtlas
