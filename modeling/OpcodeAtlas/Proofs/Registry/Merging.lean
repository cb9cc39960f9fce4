import OpcodeAtlas.Registry.Build

/-!
# What merging pages does

Merging walks over the pages and, in each page, over its codes. Laid end to end these are the
events of a build (`MergeEvent`): a page is skipped, or a declaration is taken up. Merging pages
is one walk over their events (`mergeAll_eq_follow`).

What an event does to a state is said once (`Effect`, `step_eq_ok_iff`). What holds of every build
follows by induction along the events (`follow_induction`). Under a policy that refuses nothing
the walk never halts (`exists_follow`).
-/

set_option autoImplicit false

namespace OpcodeAtlas

/-! ## Events -/

/-- What merging does one after the other. -/
inductive MergeEvent where
  | skip (p : SkippedPage)
  | declare (d : Declaration)

namespace MergeEvent

/-- The page that an event skips. -/
def skipped? : MergeEvent → Option SkippedPage
  | .skip p => some p
  | .declare _ => none

/-- The declaration that an event takes up. -/
def declaration? : MergeEvent → Option Declaration
  | .skip _ => none
  | .declare d => some d

end MergeEvent

/-- The pages that some events skip. -/
def skipsIn (es : List MergeEvent) : List SkippedPage := es.filterMap MergeEvent.skipped?

/-- The declarations that some events take up. -/
def declarationsIn (es : List MergeEvent) : List Declaration :=
  es.filterMap MergeEvent.declaration?

section
variable (es : List MergeEvent) (p : SkippedPage) (d : Declaration)

@[simp] theorem skipsIn_concat_skip : skipsIn (es ++ [.skip p]) = skipsIn es ++ [p] :=
  List.filterMap_append

@[simp] theorem skipsIn_concat_declare : skipsIn (es ++ [.declare d]) = skipsIn es := by
  rw [skipsIn, List.filterMap_append]
  exact List.append_nil _

@[simp] theorem declarationsIn_concat_skip :
    declarationsIn (es ++ [.skip p]) = declarationsIn es := by
  rw [declarationsIn, List.filterMap_append]
  exact List.append_nil _

@[simp] theorem declarationsIn_concat_declare :
    declarationsIn (es ++ [.declare d]) = declarationsIn es ++ [d] :=
  List.filterMap_append

end

/-- The events of a page. -/
def ReadPage.events (p : ReadPage) : List MergeEvent :=
  match p.result with
  | .error cause => [.skip ⟨p.path, cause⟩]
  | .ok page => (declarationsOf p.path page).map .declare

/-! ## One event -/

namespace BuildState

variable {policy : DuplicatePolicy} {s t : BuildState} {e : MergeEvent} {es : List MergeEvent}

section
variable (s : BuildState) (d : Declaration) (c : CodeConflict)

@[simp] theorem enter_registry : (s.enter d).registry = s.registry.enter d := rfl

@[simp] theorem clash_source (code : String) :
    (s.clash c).registry.source code = s.registry.source code := rfl

@[simp] theorem clash_conflicts :
    (s.clash c).registry.conflicts = s.registry.conflicts ++ [c] := rfl

end

/-- Go through an event. -/
def step (policy : DuplicatePolicy) (s : BuildState) :
    MergeEvent → Except HaltedBuild BuildState
  | .skip p => .ok (s.skip p)
  | .declare d => declare policy s d

/-- What an event does to a state, unless it halts the build: a page is put on record, a new code
is entered, or a conflict is put on record and its code is kept or entered again. -/
inductive Effect (policy : DuplicatePolicy) (s : BuildState) : MergeEvent → BuildState → Prop where
  | skip (p : SkippedPage) : Effect policy s (.skip p) (s.skip p)
  | enter (d : Declaration) (new : s.registry.source d.code = none) :
      Effect policy s (.declare d) (s.enter d)
  | keep (d : Declaration) (owner : Path) (owned : s.registry.source d.code = some owner)
      (first : policy = .firstWins) :
      Effect policy s (.declare d) (s.clash ⟨d.code, owner, d.source⟩)
  | replace (d : Declaration) (owner : Path) (owned : s.registry.source d.code = some owner)
      (last : policy = .lastWins) :
      Effect policy s (.declare d) ((s.clash ⟨d.code, d.source, owner⟩).enter d)

/-- **One event.** -/
theorem step_eq_ok_iff : step policy s e = .ok t ↔ Effect policy s e t := by
  constructor
  · intro h
    cases e with
    | skip p =>
        cases h
        exact .skip p
    | declare d =>
        simp only [step, declare] at h
        split at h
        · next new =>
          cases h
          exact .enter d new
        · next owner owned =>
          cases policy with
          | firstWins =>
              cases h
              exact .keep d owner owned rfl
          | lastWins =>
              cases h
              exact .replace d owner owned rfl
          | refuse => cases h
  · intro h
    cases h with
    | skip p => rfl
    | enter d new => simp only [step, declare, new]
    | keep d owner owned first => simp only [step, declare, owned, first]
    | replace d owner owned last => simp only [step, declare, owned, last]

/-- Only the policy that refuses second declarations halts a build. -/
theorem exists_step (hpolicy : policy ≠ .refuse) (s : BuildState) (e : MergeEvent) :
    ∃ t, step policy s e = .ok t := by
  cases e with
  | skip p => exact ⟨_, rfl⟩
  | declare d =>
      cases owned : s.registry.source d.code with
      | none => exact ⟨_, step_eq_ok_iff.2 (.enter d owned)⟩
      | some owner =>
          cases policy with
          | firstWins => exact ⟨_, step_eq_ok_iff.2 (.keep d owner owned rfl)⟩
          | lastWins => exact ⟨_, step_eq_ok_iff.2 (.replace d owner owned rfl)⟩
          | refuse => exact absurd rfl hpolicy

/-! ## Runs over events -/

/-- Go through some events. -/
def follow (policy : DuplicatePolicy) (s : BuildState) (es : List MergeEvent) :
    Except HaltedBuild BuildState :=
  es.foldlM (step policy) s

theorem follow_nil : follow policy s [] = .ok s := rfl

theorem follow_cons_of_ok (h : step policy s e = .ok t) :
    follow policy s (e :: es) = follow policy t es := by
  rw [follow, List.foldlM_cons, h]
  rfl

theorem follow_cons_of_error {halted : HaltedBuild} (h : step policy s e = .error halted) :
    follow policy s (e :: es) = .error halted := by
  rw [follow, List.foldlM_cons, h]
  rfl

/-- A run that starts with an event does not halt there. -/
theorem follow_cons_eq_ok (h : follow policy s (e :: es) = .ok t) :
    ∃ u, Effect policy s e u ∧ follow policy u es = .ok t := by
  cases hstep : step policy s e with
  | error halted =>
      rw [follow_cons_of_error hstep] at h
      cases h
  | ok u =>
      rw [follow_cons_of_ok hstep] at h
      exact ⟨u, step_eq_ok_iff.1 hstep, h⟩

/-- Induction along the events of a run. -/
theorem follow_induction {motive : List MergeEvent → BuildState → Prop}
    (nil : motive [] s)
    (concat : ∀ es t e u, motive es t → Effect policy t e u → motive (es ++ [e]) u)
    (h : follow policy s es = .ok t) : motive es t := by
  -- The events in front are done, and the state holds what they left.
  suffices ∀ done u, motive done u → follow policy u es = .ok t → motive (done ++ es) t from
    this [] s nil h
  clear nil h
  intro done u hdone hrun
  induction es generalizing done u with
  | nil =>
      cases hrun
      rwa [List.append_nil]
  | cons e es ih =>
      obtain ⟨v, heffect, hrest⟩ := follow_cons_eq_ok hrun
      rw [List.append_cons]
      exact ih (done ++ [e]) v (concat done u e v hdone heffect) hrest

theorem exists_follow (hpolicy : policy ≠ .refuse) (s : BuildState) (es : List MergeEvent) :
    ∃ t, follow policy s es = .ok t := by
  induction es generalizing s with
  | nil => exact ⟨s, rfl⟩
  | cons e es ih =>
      obtain ⟨u, hu⟩ := exists_step hpolicy s e
      obtain ⟨t, ht⟩ := ih u
      exact ⟨t, (follow_cons_of_ok hu).trans ht⟩

/-! ## Merging pages -/

theorem merge_eq_follow (policy : DuplicatePolicy) (s : BuildState) (p : ReadPage) :
    merge policy s p = follow policy s p.events := by
  unfold merge ReadPage.events
  cases p.result with
  | error cause => rfl
  | ok page =>
      show _ = List.foldlM _ _ _
      rw [List.foldlM_map]
      rfl

/-- **Merging pages is going through their events.** -/
theorem mergeAll_eq_follow (policy : DuplicatePolicy) (s : BuildState) (pages : List ReadPage) :
    mergeAll policy s pages = follow policy s (pages.flatMap ReadPage.events) := by
  induction pages generalizing s with
  | nil => rfl
  | cons p pages ih =>
      unfold mergeAll follow at ih ⊢
      rw [List.foldlM_cons, List.flatMap_cons, List.foldlM_append, merge_eq_follow]
      exact congrArg _ (funext ih)

end BuildState

namespace RegistryBuild

variable {policy : DuplicatePolicy} {directory : Path} {pages : List ReadPage} {r : Registry}

/-- A build of pages gives the registry at the end of their events. -/
theorem ofPages_outcome_eq_ok_iff :
    (ofPages policy directory pages).outcome = .ok r ↔
      ∃ s, BuildState.follow policy (.start directory pages.length)
        (pages.flatMap ReadPage.events) = .ok s ∧ s.registry = r := by
  unfold ofPages
  rw [BuildState.mergeAll_eq_follow]
  cases BuildState.follow policy (.start directory pages.length)
    (pages.flatMap ReadPage.events) with
  | error halted => simp
  | ok s => simp

/-- A build of pages that is halted gives the failure. -/
theorem ofPages_outcome_of_error {halted : HaltedBuild}
    (h : BuildState.follow policy (.start directory pages.length)
      (pages.flatMap ReadPage.events) = .error halted) :
    (ofPages policy directory pages).outcome = .error (.failure halted.failure) := by
  unfold ofPages
  rw [BuildState.mergeAll_eq_follow, h]

end RegistryBuild

end OpcodeAtlas
