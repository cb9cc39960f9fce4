import OpcodeAtlas.Proofs.Registry.Accounting

/-!
# What the policies have in common

A policy decides between two pages that declare the same code. Up to the first second declaration
every policy takes a build through the same states (`BuildState.Undisputed`), and there is nothing
to decide unless there is one (`BuildState.undisputed_or_disputed`). So the policy that refuses
second declarations ends a build at the first conflict of the build in which first declarations
count (`BuildState.follow_refuse`).

Behind the first conflict the tables differ, but which codes are new and which are not is a matter
of the declarations alone. So the builds that return have the same codes, the same failures and
conflicts over the same codes (`RegistryBuild.run_policies_agree`).
-/

set_option autoImplicit false

namespace OpcodeAtlas

namespace BuildState

variable {policy : DuplicatePolicy} {s t u : BuildState} {e : MergeEvent} {es : List MergeEvent}
  {d : Declaration} {owner : Path}

/-! ## Before the first conflict -/

/-- Every policy takes a build through some events from one state to the other, and none of the
events is a conflict. -/
structure Undisputed (s : BuildState) (es : List MergeEvent) (t : BuildState) : Prop where
  run : ∀ policy, follow policy s es = .ok t
  conflicts : t.registry.conflicts = s.registry.conflicts
  directory : t.registry.directory = s.registry.directory

theorem Undisputed.refl (s : BuildState) : Undisputed s [] s := ⟨fun _ => follow_nil, rfl, rfl⟩

/-- A skipped page is no conflict. -/
theorem Undisputed.skip {p : SkippedPage} (h : Undisputed (s.skip p) es t) :
    Undisputed s (.skip p :: es) t := by
  refine ⟨fun policy => ?_, h.conflicts, h.directory⟩
  rw [follow_cons_of_ok (step_eq_ok_iff.2 (.skip p))]
  exact h.run policy

/-- A new code is no conflict. -/
theorem Undisputed.enter (new : s.registry.source d.code = none)
    (h : Undisputed (s.enter d) es t) : Undisputed s (.declare d :: es) t := by
  refine ⟨fun policy => ?_, h.conflicts, h.directory⟩
  rw [follow_cons_of_ok (step_eq_ok_iff.2 (.enter d new))]
  exact h.run policy

/-- Events are undisputed, or there is a first code with an owner that is declared again. -/
theorem undisputed_or_disputed (s : BuildState) (es : List MergeEvent) :
    (∃ t, Undisputed s es t) ∨
      ∃ before d after t owner, es = before ++ .declare d :: after ∧ Undisputed s before t ∧
        t.registry.source d.code = some owner := by
  -- The first event with an owned code settles the matter; all others are taken off in front.
  induction es generalizing s with
  | nil => exact .inl ⟨s, .refl s⟩
  | cons e es ih =>
      cases e with
      | skip p =>
          rcases ih (s.skip p) with ⟨t, ht⟩ | ⟨before, d, after, t, owner, rfl, ht, owned⟩
          · exact .inl ⟨t, ht.skip⟩
          · exact .inr ⟨.skip p :: before, d, after, t, owner, rfl, ht.skip, owned⟩
      | declare d =>
          cases owned : s.registry.source d.code with
          | some owner => exact .inr ⟨[], d, es, s, owner, rfl, .refl s, owned⟩
          | none =>
              rcases ih (s.enter d) with ⟨t, ht⟩ | ⟨before, d', after, t, owner, rfl, ht, owned'⟩
              · exact .inl ⟨t, ht.enter owned⟩
              · exact .inr ⟨.declare d :: before, d', after, t, owner, rfl, ht.enter owned, owned'⟩

/-! ## At the first conflict -/

theorem follow_append_of_ok {before after : List MergeEvent}
    (h : follow policy s before = .ok t) :
    follow policy s (before ++ after) = follow policy t after := by
  unfold follow at h ⊢
  rw [List.foldlM_append, h]
  rfl

/-- Conflicts that are on record stay there. -/
theorem conflicts_prefix (h : follow policy s es = .ok t) :
    s.registry.conflicts <+: t.registry.conflicts := by
  refine follow_induction (motive := fun _ u => s.registry.conflicts <+: u.registry.conflicts)
    (List.prefix_refl _) ?_ h
  intro es t e u ht heffect
  cases heffect with
  | skip p => exact ht
  | enter d new => exact ht
  | keep d owner owned first => exact ht.trans (List.prefix_append _ _)
  | replace d owner owned last => exact ht.trans (List.prefix_append _ _)

/-- Where first declarations count, the conflict over a code is the first one that follows. -/
theorem conflicts_of_disputed (owned : s.registry.source d.code = some owner)
    (h : follow .firstWins s (.declare d :: es) = .ok t) :
    s.registry.conflicts ++ [⟨d.code, owner, d.source⟩] <+: t.registry.conflicts := by
  rw [follow_cons_of_ok (step_eq_ok_iff.2 (.keep d owner owned rfl))] at h
  exact conflicts_prefix h

/-- Where second declarations are refused, they end a build. -/
theorem follow_refuse_of_disputed (owned : s.registry.source d.code = some owner) :
    follow .refuse s (.declare d :: es) =
      .error ⟨s.log, duplicateFailure s.registry.directory d.code owner d.source⟩ := by
  refine follow_cons_of_error ?_
  simp only [step, declare, owned]

/-- **The first conflict** of a run in which first declarations count is where a run that refuses
second declarations ends. If there is none, all policies come to the same. -/
theorem follow_refuse (hs : s.registry.conflicts = [])
    (hfirst : follow .firstWins s es = .ok t) :
    (t.registry.conflicts = [] ∧ ∀ policy, follow policy s es = .ok t) ∨
      ∃ c more log, t.registry.conflicts = c :: more ∧ follow .refuse s es =
        .error ⟨log, duplicateFailure s.registry.directory c.code c.kept c.discarded⟩ := by
  rcases undisputed_or_disputed s es with ⟨u, hu⟩ | ⟨before, d, after, u, owner, rfl, hu, owned⟩
  · cases (hu.run .firstWins).symm.trans hfirst
    exact .inl ⟨hu.conflicts.trans hs, hu.run⟩
  · -- Both runs come to `u`, where one puts the conflict on record and the other one ends.
    rw [follow_append_of_ok (hu.run _)] at hfirst
    obtain ⟨more, hmore⟩ := conflicts_of_disputed owned hfirst
    rw [hu.conflicts, hs] at hmore
    refine .inr ⟨⟨d.code, owner, d.source⟩, more, u.log, hmore.symm, ?_⟩
    rw [follow_append_of_ok (hu.run _), follow_refuse_of_disputed owned, hu.directory]

end BuildState

/-! ## Builds -/

namespace RegistryBuild

variable {h : Host} {directory : Path} {extension : String} {policy : DuplicatePolicy}
  {paths : List Path}

/-- What a build comes to that refuses second declarations, told from the registry in which first
declarations count: the failure for its first conflict, or the registry itself. -/
def refusal (directory : Path) (first : Registry) : Except WorkError Registry :=
  match first.conflicts with
  | [] => .ok first
  | c :: _ => .error (.failure (BuildState.duplicateFailure directory c.code c.kept c.discarded))

/-- Pages that are merged without a conflict give one registry under all policies, and else the
first conflict is the one that is refused. -/
theorem ofPages_policies_agree {pages : List ReadPage} {first : Registry}
    (hfirst : (ofPages .firstWins directory pages).outcome = .ok first) :
    (ofPages .refuse directory pages).outcome = refusal directory first ∧
      (first.conflicts = [] → ∀ policy, (ofPages policy directory pages).outcome = .ok first) := by
  obtain ⟨s, hfollow, rfl⟩ := ofPages_outcome_eq_ok_iff.1 hfirst
  rcases BuildState.follow_refuse rfl hfollow with ⟨hnone, hall⟩ | ⟨c, more, log, hsome, hrefuse⟩
  · have hok : ∀ policy, (ofPages policy directory pages).outcome = .ok s.registry :=
      fun policy => ofPages_outcome_eq_ok_iff.2 ⟨s, hall policy, rfl⟩
    refine ⟨?_, fun _ => hok⟩
    rw [hok, refusal, hnone]
  · refine ⟨?_, fun hnone => ?_⟩
    · rw [ofPages_outcome_of_error hrefuse, refusal, hsome]
      rfl
    · cases hsome.symm.trans hnone

/-- What two builds of a directory have in common, each under its own policy. -/
theorem outcomes_agree {other : DuplicatePolicy} {r q : Registry}
    (hselect : Selection.pages h directory (Selection.pointed extension) = .ok paths)
    (hr : (run h directory extension policy).outcome = .ok r)
    (hq : (run h directory extension other).outcome = .ok q) :
    r.order = q.order ∧ r.failures = q.failures ∧
      r.conflicts.map (·.code) = q.conflicts.map (·.code) := by
  -- Each side is a function of the declarations and skips, in which no policy has a part.
  obtain ⟨pages, hread, hraccounts⟩ := accounts_of_run hselect hr
  obtain ⟨pages', hread', hqaccounts⟩ := accounts_of_run hselect hq
  cases hread.symm.trans hread'
  obtain ⟨_, hselect', hrresolves⟩ := resolves_of_run hr
  cases hselect.symm.trans hselect'
  obtain ⟨_, hselect', hqresolves⟩ := resolves_of_run hq
  cases hselect.symm.trans hselect'
  exact ⟨hrresolves.order.trans hqresolves.order.symm,
    hraccounts.failures.trans hqaccounts.failures.symm,
    hraccounts.conflict_codes.trans hqaccounts.conflict_codes.symm⟩

/-- **The policies agree.** In a directory whose pages can all be read or skipped, the builds in
which first and last declarations count both return, with the same codes in the same order, the
same failures, and conflicts over the same codes, one by one. A build that refuses second
declarations ends with the first conflict of the build in which first declarations count; without
a conflict all three builds return the same registry. -/
theorem run_policies_agree
    (hselect : Selection.pages h directory (Selection.pointed extension) = .ok paths)
    (hload : ∀ p ∈ paths, ∀ a, Page.load h p ≠ .error (.page (.abort a))) :
    ∃ first last,
      (run h directory extension .firstWins).outcome = .ok first ∧
      (run h directory extension .lastWins).outcome = .ok last ∧
      first.order = last.order ∧ first.failures = last.failures ∧
      first.conflicts.map (·.code) = last.conflicts.map (·.code) ∧
      (run h directory extension .refuse).outcome = refusal directory first ∧
      (first.conflicts = [] → last = first) := by
  obtain ⟨first, hfirst⟩ : ∃ first, (run h directory extension .firstWins).outcome = .ok first :=
    exists_run nofun hselect hload
  obtain ⟨last, hlast⟩ : ∃ last, (run h directory extension .lastWins).outcome = .ok last :=
    exists_run nofun hselect hload
  obtain ⟨horder, hfailures, hcodes⟩ := outcomes_agree hselect hfirst hlast
  obtain ⟨pages, hread⟩ := ReadPage.exists_ofPaths_iff.2 hload
  have hpages : ∀ policy, run h directory extension policy = ofPages policy directory pages :=
    run_of_pages hselect hread
  obtain ⟨hrefuse, hsame⟩ := ofPages_policies_agree ((hpages .firstWins) ▸ hfirst)
  refine ⟨first, last, hfirst, hlast, horder, hfailures, hcodes, ?_, fun hnone => ?_⟩
  · rw [hpages, hrefuse]
  · rw [hpages, hsame hnone] at hlast
    cases hlast
    rfl

/-- The second of three pages that declare a code is refused. -/
theorem run_policies_agree_shelf :
    (run Shelf.host Shelf.docs "md" .refuse).outcome =
      .error (.failure (BuildState.duplicateFailure Shelf.docs "G2"
        (Shelf.docs.child "a.md") (Shelf.docs.child "b.md"))) := by
  obtain ⟨first, -, hfirst, -, -, -, -, hrefuse, -⟩ :=
    run_policies_agree Shelf.select Shelf.readable
  have houtcome : (ofPages .firstWins Shelf.docs Shelf.read).outcome.map (·.conflicts) =
      .ok [⟨"G2", Shelf.docs.child "a.md", Shelf.docs.child "b.md"⟩,
        ⟨"G2", Shelf.docs.child "a.md", Shelf.docs.child "c.md"⟩,
        ⟨"G1", Shelf.docs.child "b.md", Shelf.docs.child "c.md"⟩] := by
    decide +kernel
  rw [← run_of_pages Shelf.select Shelf.ofPaths_files, hfirst] at houtcome
  have hconflicts : first.conflicts = _ := Except.ok.inj houtcome
  rw [hrefuse, refusal, hconflicts]

end RegistryBuild

end OpcodeAtlas
