import OpcodeAtlas.Proofs.Registry.Accounting

/-!
# Which page a conflict names as kept

A conflict is put on record when it arises, and it names the two pages that it is between. Where
first declarations count, the page that is kept stays the source of the code. Where the last one
counts, the code is passed on: the page that is kept holds it until the next conflict over the code,
which names it as discarded (`Registry.NamesHolders`, `BuildState.follow_namesHolders`).

So the source of a code is the page that the last conflict over it names as kept, and where the last
declaration counts no other conflict names it so (`RegistryBuild.run_names_holders`).
-/

set_option autoImplicit false

namespace OpcodeAtlas

/-- The next of some conflicts that is over a code. -/
def nextOver (code : String) (cs : List CodeConflict) : Option CodeConflict :=
  cs.find? (·.code = code)

theorem nextOver_eq_none_iff {code : String} {cs : List CodeConflict} :
    nextOver code cs = none ↔ ∀ c ∈ cs, c.code ≠ code := by
  simp [nextOver]

/-- The conflicts of a registry name the pages that hold their codes: for good where the first
declaration counts, and up to the next conflict over the code where the last one does. -/
structure Registry.NamesHolders (policy : DuplicatePolicy) (r : Registry) : Prop where
  first : policy = .firstWins → ∀ c ∈ r.conflicts, r.source c.code = some c.kept
  last : policy = .lastWins → ∀ before c after, r.conflicts = before ++ c :: after →
    ((nextOver c.code after).map (·.discarded)).or (r.source c.code) = some c.kept

namespace Registry.NamesHolders

variable {policy : DuplicatePolicy} {r : Registry} {d : Declaration} {owner : Path}

/-- A new code is in no conflict, so that entering it changes no holder. -/
theorem enter (h : r.NamesHolders policy) (new : r.source d.code = none) :
    (r.enter d).NamesHolders policy := by
  constructor
  · intro hpolicy c hc
    have hkept := h.first hpolicy c hc
    have hne : c.code ≠ d.code := fun hcode => by
      rw [hcode, new] at hkept
      cases hkept
    rw [source_enter, if_neg hne, hkept]
  · intro hpolicy before c after hsplit
    have hkept := h.last hpolicy before c after hsplit
    by_cases hcode : c.code = d.code
    · -- Without a source, it is a later conflict that names the page.
      rw [hcode, new, Option.or_none] at hkept
      rw [hcode, hkept, Option.some_or]
    · rw [source_enter, if_neg hcode, hkept]

/-- A conflict that leaves its code with the owner names the owner. -/
theorem keep (h : r.NamesHolders .firstWins) (owned : r.source d.code = some owner) :
    Registry.NamesHolders .firstWins
      { r with conflicts := r.conflicts ++ [⟨d.code, owner, d.source⟩] } := by
  refine ⟨fun hpolicy => ?_, nofun⟩
  exact List.forall_mem_append.2 ⟨h.first hpolicy, List.forall_mem_singleton.2 owned⟩

/-- A conflict that passes its code on names the owner as discarded, and the new owner as kept. -/
theorem replace (h : r.NamesHolders .lastWins) (owned : r.source d.code = some owner) :
    Registry.NamesHolders .lastWins
      (Registry.enter { r with conflicts := r.conflicts ++ [⟨d.code, d.source, owner⟩] } d) := by
  refine ⟨nofun, fun hpolicy before c after hsplit => ?_⟩
  have hsplit : r.conflicts ++ [⟨d.code, d.source, owner⟩] = before ++ c :: after := hsplit
  rw [source_enter]
  rcases List.eq_nil_or_concat after with rfl | ⟨after, last, rfl⟩
  · -- The new conflict is the last one.
    obtain ⟨-, hc⟩ := List.append_inj' hsplit rfl
    obtain rfl := List.singleton_inj.1 hc
    rw [if_pos rfl]
    rfl
  · rw [List.concat_eq_append, ← List.cons_append, ← List.append_assoc] at hsplit
    obtain ⟨hfront, hlast⟩ := List.append_inj' hsplit rfl
    obtain rfl := List.singleton_inj.1 hlast
    have hkept := h.last hpolicy before c after hfront
    rw [List.concat_eq_append]
    unfold nextOver at hkept ⊢
    rw [List.find?_append]
    cases hnext : after.find? (·.code = c.code) with
    | some next =>
        rw [hnext] at hkept
        exact hkept
    | none =>
        rw [hnext] at hkept
        have hkept : r.source c.code = some c.kept := hkept
        by_cases hcode : c.code = d.code
        · -- The new conflict is the next one over the code, and takes it from its holder.
          have howner : some owner = some c.kept := by rw [← owned, ← hcode, hkept]
          simp [hcode, howner]
        · have hne : ¬d.code = c.code := fun heq => hcode heq.symm
          rw [List.find?_cons_of_neg (by simpa using hne), if_neg hcode]
          exact hkept

end Registry.NamesHolders

namespace BuildState

variable {policy : DuplicatePolicy} {s t : BuildState} {e : MergeEvent} {es : List MergeEvent}

/-- One event keeps the holders named. -/
theorem namesHolders_of_effect (h : s.registry.NamesHolders policy)
    (heffect : Effect policy s e t) : t.registry.NamesHolders policy := by
  cases heffect with
  | skip p => exact ⟨h.first, h.last⟩
  | enter d new => exact h.enter new
  | keep d owner owned first =>
      subst first
      exact h.keep owned
  | replace d owner owned last =>
      subst last
      exact h.replace owned

/-- **After every event the conflicts name the holders of their codes.** -/
theorem follow_namesHolders {directory : Path} {files : Nat}
    (h : follow policy (start directory files) es = .ok t) :
    t.registry.NamesHolders policy := by
  refine follow_induction (motive := fun _ s => s.registry.NamesHolders policy) ?_
    (fun es s e t hs heffect => namesHolders_of_effect hs heffect) h
  refine ⟨fun _ => nofun, fun _ before c after hsplit => ?_⟩
  exact absurd hsplit.symm (List.append_ne_nil_of_right_ne_nil before (List.cons_ne_nil c after))

end BuildState

namespace RegistryBuild

variable {h : Host} {directory : Path} {extension : String} {policy : DuplicatePolicy}
  {r : Registry}

/-- A page that lost a code is not its source. -/
theorem source_ne_of_discarded (hr : (run h directory extension policy).outcome = .ok r)
    {c : CodeConflict} (hc : c ∈ r.conflicts) : r.source c.code ≠ some c.discarded := by
  obtain ⟨paths, hselect, -⟩ := resolves_of_run hr
  obtain ⟨pages, -, haccounts⟩ := accounts_of_run hselect hr
  have hnodup : (r.filesNamed c.code).Nodup :=
    (haccounts.files c.code).nodup_iff.2
      (nodup_filesDeclaring (Selection.nodup_pages hselect) c.code)
  intro hsource
  have hlost : c.discarded ∈ filesDiscarded c.code r.conflicts :=
    List.mem_map_of_mem (List.mem_filter.2 ⟨hc, decide_eq_true rfl⟩)
  rw [Registry.filesNamed, hsource] at hnodup
  exact (List.nodup_cons.1 hnodup).1 hlost

/-- **The page that a conflict names as kept.** In a registry that a build returns, it is the source
of the code if the first declaration counts. If the last one counts, it is the source exactly if no
later conflict is over the code, and else the page that the next one over the code names as
discarded. -/
theorem run_names_holders (hr : (run h directory extension policy).outcome = .ok r) :
    (policy = .firstWins → ∀ c ∈ r.conflicts, r.source c.code = some c.kept) ∧
    (policy = .lastWins → ∀ before c after, r.conflicts = before ++ c :: after →
      (r.source c.code = some c.kept ↔ ∀ later ∈ after, later.code ≠ c.code) ∧
      ∀ next, nextOver c.code after = some next → next.discarded = c.kept) := by
  obtain ⟨paths, pages, -, -, hmerge⟩ := run_outcome_eq_ok hr
  obtain ⟨s, hfollow, rfl⟩ := ofPages_outcome_eq_ok_iff.1 hmerge
  have hnames := BuildState.follow_namesHolders hfollow
  refine ⟨hnames.first, fun hpolicy before c after hsplit => ?_⟩
  have hkept := hnames.last hpolicy before c after hsplit
  rw [← nextOver_eq_none_iff]
  cases hnext : nextOver c.code after with
  | none =>
      rw [hnext] at hkept
      exact ⟨iff_of_true hkept rfl, nofun⟩
  | some next =>
      rw [hnext] at hkept
      have hdiscarded : next.discarded = c.kept := Option.some.inj hkept
      have hmem : next ∈ s.registry.conflicts := by
        have hafter : next ∈ after := List.mem_of_find?_eq_some hnext
        rw [hsplit]
        exact List.mem_append_right before (List.mem_cons_of_mem c hafter)
      have hcode : next.code = c.code := by simpa using List.find?_some hnext
      refine ⟨iff_of_false (fun hsource => ?_) nofun, ?_⟩
      · -- The page lost the code in the next conflict.
        apply source_ne_of_discarded hr hmem
        rw [hcode, hdiscarded, hsource]
      · rintro next' ⟨⟩
        exact hdiscarded

/-- The conflicts of three pages that declare a code, where the last one counts. -/
theorem conflicts_shelf :
    ∃ r, (run Shelf.host Shelf.docs "md" .lastWins).outcome = .ok r ∧ r.conflicts =
      [⟨"G2", Shelf.docs.child "b.md", Shelf.docs.child "a.md"⟩,
        ⟨"G2", Shelf.docs.child "c.md", Shelf.docs.child "b.md"⟩,
        ⟨"G1", Shelf.docs.child "c.md", Shelf.docs.child "b.md"⟩] := by
  rw [run_of_pages Shelf.select Shelf.ofPaths_files]
  have hconflicts : (ofPages .lastWins Shelf.docs Shelf.read).outcome.toOption.map (·.conflicts) =
      some [⟨"G2", Shelf.docs.child "b.md", Shelf.docs.child "a.md"⟩,
        ⟨"G2", Shelf.docs.child "c.md", Shelf.docs.child "b.md"⟩,
        ⟨"G1", Shelf.docs.child "c.md", Shelf.docs.child "b.md"⟩] := by
    decide +kernel
  cases hr : (ofPages .lastWins Shelf.docs Shelf.read).outcome with
  | error e =>
      rw [hr] at hconflicts
      cases hconflicts
  | ok r =>
      rw [hr] at hconflicts
      exact ⟨r, rfl, Option.some.inj hconflicts⟩

/-- The source of a code that three pages declare is named by the second conflict over it. -/
theorem run_names_holders_shelf :
    ∃ r, (run Shelf.host Shelf.docs "md" .lastWins).outcome = .ok r ∧
      r.source "G2" = some (Shelf.docs.child "c.md") := by
  obtain ⟨r, hr, hconflicts⟩ := conflicts_shelf
  obtain ⟨hsource, -⟩ := (run_names_holders hr).2 rfl [_] _ [_] hconflicts
  exact ⟨r, hr, hsource.2 (by decide)⟩

/-- The first conflict over it names a page that has lost the code since. -/
theorem exists_conflict_of_former_holder :
    ∃ r, (run Shelf.host Shelf.docs "md" .lastWins).outcome = .ok r ∧
      ∃ c ∈ r.conflicts, r.source c.code ≠ some c.kept := by
  obtain ⟨r, hr, hconflicts⟩ := conflicts_shelf
  refine ⟨r, hr, ⟨"G2", Shelf.docs.child "b.md", Shelf.docs.child "a.md"⟩, ?_, ?_⟩
  · rw [hconflicts]
    exact List.mem_cons_self
  · have hlost : ⟨"G2", Shelf.docs.child "c.md", Shelf.docs.child "b.md"⟩ ∈ r.conflicts := by
      rw [hconflicts]
      exact List.mem_cons_of_mem _ List.mem_cons_self
    exact source_ne_of_discarded hr hlost

end RegistryBuild

end OpcodeAtlas
