import Mathlib.Algebra.GroupWithZero.Nat
import OpcodeAtlas.Proofs.Page.Codes
import OpcodeAtlas.Proofs.Registry.Resolution

/-!
# No declaration is lost

A registry keeps an account of what its build took up. The files that it names for a code, the
source of the code and the files whose declarations were discarded, are the files that declare
the code (`Registry.Accounts`, `BuildState.follow_accounts`): an event that puts a declaration on
record adds its file to them, whichever of the two pages the code goes to.

A page declares no code twice. So each declaration of a directory is either the one that counts or
in one conflict, the numbers add up, and a page has its record in the registry as long as it owns
a code (`RegistryBuild.run_accounts_for_codes`).
-/

set_option autoImplicit false

namespace OpcodeAtlas

/-! ## The account of a code -/

/-- The files that declare a code. -/
def filesDeclaring (code : String) (ds : List Declaration) : List Path :=
  (ds.filter (·.code = code)).map (·.source)

/-- The files whose declarations of a code are discarded in some conflicts. -/
def filesDiscarded (code : String) (cs : List CodeConflict) : List Path :=
  (cs.filter (·.code = code)).map (·.discarded)

theorem filesDeclaring_concat (code : String) (ds : List Declaration) (d : Declaration) :
    filesDeclaring code (ds ++ [d]) =
      filesDeclaring code ds ++ if d.code = code then [d.source] else [] := by
  by_cases h : d.code = code <;> simp [filesDeclaring, List.filter_append, h]

theorem filesDiscarded_concat (code : String) (cs : List CodeConflict) (c : CodeConflict) :
    filesDiscarded code (cs ++ [c]) =
      filesDiscarded code cs ++ if c.code = code then [c.discarded] else [] := by
  by_cases h : c.code = code <;> simp [filesDiscarded, List.filter_append, h]

/-- The files that a registry names for a code: its source, and those whose declarations of the
code were discarded. -/
def Registry.filesNamed (r : Registry) (code : String) : List Path :=
  (r.source code).toList ++ filesDiscarded code r.conflicts

/-- A registry accounts for some declarations and skipped pages. -/
structure Registry.Accounts (ds : List Declaration) (skips : List SkippedPage) (r : Registry) :
    Prop where
  failures : r.failures = skips
  conflict_codes : r.conflicts.map (·.code) = repeats [] (ds.map (·.code))
  files : ∀ code, (r.filesNamed code).Perm (filesDeclaring code ds)

namespace BuildState

variable {s t : BuildState} {d : Declaration} {policy : DuplicatePolicy} {e : MergeEvent}
  {es : List MergeEvent}

/-! ## The account along the events -/

/-- **One event adds its declaration to the account**: the code goes to the new file, stays with
the old one, or passes from the old one to the new one, and the other file is put on record. -/
theorem files_of_effect {ds : List Declaration}
    (h : ∀ code, (s.registry.filesNamed code).Perm (filesDeclaring code ds))
    (heffect : Effect policy s (.declare d) t) (code : String) :
    (t.registry.filesNamed code).Perm (filesDeclaring code (ds ++ [d])) := by
  rw [filesDeclaring_concat]
  by_cases hcode : d.code = code
  · subst hcode
    refine List.Perm.trans ?_ ((h d.code).append_right _)
    rw [if_pos rfl]
    unfold Registry.filesNamed
    cases heffect with
    | enter d new =>
        rw [new, enter_registry, Registry.source_enter, if_pos rfl, Registry.conflicts_enter]
        exact List.perm_append_comm
    | keep d owner owned first =>
        rw [clash_source, clash_conflicts, filesDiscarded_concat, if_pos rfl, List.append_assoc]
    | replace d owner owned last =>
        rw [owned, enter_registry, Registry.source_enter, if_pos rfl, Registry.conflicts_enter,
          clash_conflicts, filesDiscarded_concat, if_pos rfl]
        -- The old owner moves from the front to the end.
        exact List.perm_append_comm.trans (List.perm_append_comm.append_right [d.source])
  · rw [if_neg hcode, List.append_nil]
    refine List.Perm.trans (List.Perm.of_eq ?_) (h code)
    have hne : ¬code = d.code := fun heq => hcode heq.symm
    unfold Registry.filesNamed
    cases heffect with
    | enter d new => simp [hne]
    | keep d owner owned first => simp [filesDiscarded_concat, hcode]
    | replace d owner owned last => simp [filesDiscarded_concat, hcode, hne]

theorem accounts_of_effect (hr : s.registry.Resolves policy (declarationsIn es))
    (h : s.registry.Accounts (declarationsIn es) (skipsIn es)) (heffect : Effect policy s e t) :
    t.registry.Accounts (declarationsIn (es ++ [e])) (skipsIn (es ++ [e])) := by
  cases e with
  | skip p =>
      rw [declarationsIn_concat_skip, skipsIn_concat_skip]
      cases heffect
      exact ⟨congrArg (· ++ [p]) h.failures, h.conflict_codes, h.files⟩
  | declare d =>
      rw [declarationsIn_concat_declare, skipsIn_concat_declare]
      refine ⟨?_, ?_, files_of_effect h.files heffect⟩
      · cases heffect <;> exact h.failures
      · -- Both rows grow by the code exactly if it has an owner, that is, was declared before.
        rw [List.map_append, List.map_singleton, repeats_concat, ← h.conflict_codes]
        cases heffect with
        | enter d new =>
            have hnew := (hr.source_eq_none_iff d.code).1 new
            rw [if_neg (by simpa using hnew), List.append_nil]
            rfl
        | keep d owner owned first =>
            rw [if_pos (.inr (hr.mem_codes_of_source owned)), clash_conflicts, List.map_append]
            rfl
        | replace d owner owned last =>
            rw [if_pos (.inr (hr.mem_codes_of_source owned)), enter_registry,
              Registry.conflicts_enter, clash_conflicts, List.map_append]
            rfl

/-- **After every event the account is that of the events so far.** -/
theorem follow_accounts {directory : Path} {files : Nat}
    (h : follow policy (start directory files) es = .ok t) :
    t.registry.Accounts (declarationsIn es) (skipsIn es) := by
  -- Whether a code has an owner is known from the tables, so both facts go together.
  refine (follow_induction (motive := fun es s => s.registry.Resolves policy (declarationsIn es) ∧
    s.registry.Accounts (declarationsIn es) (skipsIn es)) ⟨?_, ?_⟩ ?_ h).2
  · exact follow_resolves (follow_nil (s := start directory files))
  · exact ⟨rfl, rfl, fun code => .refl _⟩
  · intro es s e t hs heffect
    exact ⟨resolves_of_effect hs.1 heffect, accounts_of_effect hs.1 hs.2 heffect⟩

end BuildState

/-! ## Files and their declarations -/

section
variable {h : Host} {paths : List Path}

/-- The pages that can be read at some paths. -/
def decodedPages (h : Host) (paths : List Path) : List Page :=
  paths.filterMap fun p => (Page.load h p).toOption

/-- The declarations of some files are the codes of their pages. -/
theorem length_declarations (h : Host) (paths : List Path) :
    (paths.flatMap (declarationsAt h)).length =
      ((decodedPages h paths).map (·.record.codes.length)).sum := by
  induction paths with
  | nil => rfl
  | cons p paths ih =>
      rw [List.flatMap_cons, List.length_append, ih]
      simp only [decodedPages, List.filterMap_cons]
      cases hload : Page.load h p with
      | error e =>
          simp only [declarationsAt, hload]
          exact Nat.zero_add _
      | ok page =>
          rw [declarationsAt_of_ok hload, ReadPage.declarationsOf, List.length_map]
          rfl

/-- No page declares a code twice, and no page is selected twice. -/
theorem declarations_distinct (hpaths : paths.Nodup) :
    (paths.flatMap (declarationsAt h)).Pairwise fun d e =>
      d.code = e.code → d.source ≠ e.source := by
  refine List.pairwise_flatMap.2 ⟨fun p _ => ?_, hpaths.imp fun {p q} hne d hd e he _ => ?_⟩
  · cases hload : Page.load h p with
    | error e =>
        simp only [declarationsAt, hload]
        exact .nil
    | ok page =>
        rw [declarationsAt_of_ok hload, ReadPage.declarationsOf]
        exact List.pairwise_map.2 ((Page.nodup_codes hload).imp fun hne heq => absurd heq hne)
  · rw [((mem_declarationsAt_iff d).1 hd).1, ((mem_declarationsAt_iff e).1 he).1]
    exact hne

theorem nodup_filesDeclaring (hpaths : paths.Nodup) (code : String) :
    (filesDeclaring code (paths.flatMap (declarationsAt h))).Nodup := by
  refine List.pairwise_map.2 (((declarations_distinct hpaths).filter _).imp_of_mem ?_)
  intro d e hd he hne
  have hcode : d.code = code := by simpa using (List.mem_filter.1 hd).2
  have hcode' : e.code = code := by simpa using (List.mem_filter.1 he).2
  exact hne (hcode.trans hcode'.symm)

theorem mem_filesDeclaring {p : Path} {page : Page} {code : String} (hp : p ∈ paths)
    (hload : Page.load h p = .ok page) (hcode : code ∈ page.record.codes) :
    p ∈ filesDeclaring code (paths.flatMap (declarationsAt h)) := by
  refine List.mem_map.2 ⟨⟨code, page, p⟩, List.mem_filter.2 ⟨?_, decide_eq_true rfl⟩, rfl⟩
  exact (mem_declarations_iff ⟨code, page, p⟩).2 ⟨hp, hload, hcode⟩

end

namespace Registry

variable {r : Registry} {policy : DuplicatePolicy} {ds : List Declaration}
  {skips : List SkippedPage}

/-! ## The shares of a file -/

/-- How often a file lost a code. -/
theorem count_filesDiscarded (code : String) (p : Path) (cs : List CodeConflict) :
    (filesDiscarded code cs).count p =
      cs.countP fun c => decide (c.code = code ∧ c.discarded = p) := by
  rw [filesDiscarded, List.count, List.countP_map, List.countP_filter]
  refine List.countP_congr fun c _ => ?_
  simp [and_comm]

/-- A file that declares a code once either owns it or lost it in one conflict. -/
theorem Accounts.owns_or_lost (h : r.Accounts ds skips) {code : String} {p : Path}
    (hnodup : (filesDeclaring code ds).Nodup) (hp : p ∈ filesDeclaring code ds) :
    r.source code = some p ∧ (filesDiscarded code r.conflicts).count p = 0 ∨
      r.source code ≠ some p ∧ (filesDiscarded code r.conflicts).count p = 1 := by
  -- The files that are named for the code are those that declare it, so `p` is named once.
  have hcount : (r.source code).toList.count p + (filesDiscarded code r.conflicts).count p = 1 := by
    rw [← List.count_append, ← List.count_eq_one_of_mem hnodup hp]
    exact (h.files code).count_eq p
  by_cases howns : r.source code = some p
  · refine .inl ⟨howns, ?_⟩
    rw [howns, Option.toList_some, List.count_singleton_self] at hcount
    omega
  · refine .inr ⟨howns, ?_⟩
    have hnone : (r.source code).toList.count p = 0 :=
      List.count_eq_zero.2 fun hmem => howns (Option.mem_toList.1 hmem)
    omega

/-- The codes and the conflicts of a registry are as many as the declarations. -/
theorem Accounts.size_add_conflicts (h : r.Accounts ds skips) (hr : r.Resolves policy ds) :
    r.size + r.conflicts.length = ds.length := by
  have hsize : r.size = (ds.map (·.code)).eraseDups.length :=
    (r.entries.length_codes).symm.trans (congrArg List.length hr.order)
  have hconflicts : r.conflicts.length = (repeats [] (ds.map (·.code))).length := by
    rw [← h.conflict_codes, List.length_map]
  rw [hsize, hconflicts, length_eraseDups_add_repeats, List.length_map]

/-! ## Records -/

/-- Of the records from a file, the first one is kept. -/
theorem filter_firstOfSources (p : Path) (seen : List Path) (l : List SharedRecord) :
    (firstOfSources seen l).filter (·.source = p) =
      if p ∈ seen then [] else (l.filter (·.source = p)).take 1 := by
  induction l generalizing seen with
  | nil => simp [firstOfSources]
  | cons s l ih =>
      rw [firstOfSources]
      -- A record is dropped, or it is kept and its file is seen from then on.
      by_cases hs : s.source ∈ seen
      · rw [if_pos (List.contains_iff_mem.2 hs), ih]
        by_cases hp : p ∈ seen
        · rw [if_pos hp, if_pos hp]
        · have hne : s.source ≠ p := fun heq => hp (heq ▸ hs)
          rw [if_neg hp, if_neg hp, List.filter_cons_of_neg (by simpa using hne)]
      · rw [if_neg (by simpa using hs)]
        by_cases heq : s.source = p
        · subst heq
          rw [if_neg hs, List.filter_cons_of_pos (by simp), List.filter_cons_of_pos (by simp), ih,
            if_pos List.mem_cons_self]
          rfl
        · have hiff : p ∈ s.source :: seen ↔ p ∈ seen := by
            rw [List.mem_cons]
            exact or_iff_right fun he => heq he.symm
          rw [List.filter_cons_of_neg (by simpa using heq),
            List.filter_cons_of_neg (by simpa using heq), ih]
          simp only [hiff]

/-- A record stands in a registry for the codes that its file owns. -/
theorem Resolves.mem_values_iff (hr : r.Resolves policy ds) (s : SharedRecord) :
    s ∈ r.entries.values ↔ ∃ code d, policy.owner? code ds = some d ∧ d.shared = s := by
  rw [CodeTable.values, List.mem_map]
  constructor
  · rintro ⟨⟨code, s⟩, hrow, rfl⟩
    rw [CodeTable.mem_rows_iff, hr.entry, Option.map_eq_some_iff] at hrow
    exact ⟨code, hrow⟩
  · rintro ⟨code, d, howner, rfl⟩
    refine ⟨(code, d.shared), ?_, rfl⟩
    rw [CodeTable.mem_rows_iff, hr.entry, howner]
    rfl

end Registry

namespace RegistryBuild

variable {h : Host} {directory : Path} {extension : String} {policy : DuplicatePolicy}
  {r : Registry} {paths : List Path}

/-- A build that returns accounts for the declarations of its pages. -/
theorem accounts_of_run
    (hselect : Selection.pages h directory (Selection.pointed extension) = .ok paths)
    (hr : (run h directory extension policy).outcome = .ok r) :
    ∃ pages, ReadPage.ofPaths h paths = .ok pages ∧
      r.Accounts (paths.flatMap (declarationsAt h)) (skipsIn (pages.flatMap ReadPage.events)) := by
  obtain ⟨paths', pages, hselect', hread, hmerge⟩ := run_outcome_eq_ok hr
  cases hselect.symm.trans hselect'
  obtain ⟨s, hfollow, rfl⟩ := ofPages_outcome_eq_ok_iff.1 hmerge
  refine ⟨pages, hread, ?_⟩
  rw [← ReadPage.declarationsIn_events hread]
  exact BuildState.follow_accounts hfollow

/-- A build that returns has put the pages on record that it could not read, each of them once. -/
theorem skipped_of_run
    (hselect : Selection.pages h directory (Selection.pointed extension) = .ok paths)
    (hr : (run h directory extension policy).outcome = .ok r) :
    r.failures.map (·.path) = paths.filter (!decodes h ·) := by
  obtain ⟨pages, hread, haccounts⟩ := accounts_of_run hselect hr
  rw [haccounts.failures, ReadPage.skipsIn_events hread]

/-- A selected page is read, or it is put on record as skipped once. -/
theorem decodes_or_skipped
    (hselect : Selection.pages h directory (Selection.pointed extension) = .ok paths)
    (hr : (run h directory extension policy).outcome = .ok r) {p : Path} (hp : p ∈ paths) :
    (∃ page, Page.load h p = .ok page) ∧ (r.failures.map (·.path)).count p = 0 ∨
      (¬∃ page, Page.load h p = .ok page) ∧ (r.failures.map (·.path)).count p = 1 := by
  rw [skipped_of_run hselect hr, ← decodes_iff]
  cases hdecodes : decodes h p with
  | true =>
      refine .inl ⟨rfl, List.count_eq_zero.2 fun hmem => ?_⟩
      simp [hdecodes] at hmem
  | false =>
      refine .inr ⟨Bool.false_ne_true, ?_⟩
      rw [List.count_filter (by simpa using hdecodes)]
      exact List.count_eq_one_of_mem (Selection.nodup_pages hselect) hp

/-- The records of a registry that come from one file: that of its page if it owns a code. -/
theorem records_from
    (hselect : Selection.pages h directory (Selection.pointed extension) = .ok paths)
    (hr : (run h directory extension policy).outcome = .ok r) {p : Path} {page : Page}
    (hload : Page.load h p = .ok page) :
    ((∃ code, r.source code = some p) →
      r.records.filter (·.source = p) = [⟨p, page.record⟩]) ∧
    ((∀ code, r.source code ≠ some p) → r.records.filter (·.source = p) = []) := by
  obtain ⟨paths', hselect', hresolves⟩ := resolves_of_run hr
  cases hselect.symm.trans hselect'
  rw [Registry.records, Registry.filter_firstOfSources, if_neg List.not_mem_nil]
  constructor
  · rintro ⟨code, hsource⟩
    -- All records from the file are the record of its page.
    have hall : ∀ s ∈ r.entries.values.filter (·.source = p), s = ⟨p, page.record⟩ := by
      intro s hs
      obtain ⟨hs, hp⟩ := List.mem_filter.1 hs
      obtain ⟨code, d, howner, rfl⟩ := (hresolves.mem_values_iff s).1 hs
      obtain rfl : d.source = p := of_decide_eq_true hp
      have hd := (mem_declarations_iff d).1 (DuplicatePolicy.owner?_mem howner).1
      cases hload.symm.trans hd.2.1
      rfl
    rw [hresolves.source, Option.map_eq_some_iff] at hsource
    obtain ⟨d, howner, rfl⟩ := hsource
    have hmem : d.shared ∈ r.entries.values.filter (·.source = d.source) :=
      List.mem_filter.2 ⟨(hresolves.mem_values_iff _).2 ⟨code, d, howner, rfl⟩, decide_eq_true rfl⟩
    obtain ⟨s, rest, hfilter⟩ := List.exists_cons_of_ne_nil (List.ne_nil_of_mem hmem)
    rw [hfilter] at hall ⊢
    rw [hall s List.mem_cons_self]
    rfl
  · intro hsource
    have hnil : r.entries.values.filter (·.source = p) = [] := by
      refine List.filter_eq_nil_iff.2 fun s hs hp => ?_
      obtain ⟨code, d, howner, rfl⟩ := (hresolves.mem_values_iff s).1 hs
      refine hsource code ?_
      rw [hresolves.source, howner, ← of_decide_eq_true hp]
      rfl
    rw [hnil]
    rfl

/-- **No declaration is lost or counts twice.** A registry that a build returns has each page that
could not be read among the failures once. For each code of a page that was read, the page is its
source or lost it in one conflict. So there are as many declarations as codes and conflicts, and
the record of a page is in the registry once if the page owns a code, and else not at all. -/
theorem run_accounts_for_codes (hr : (run h directory extension policy).outcome = .ok r) :
    ∃ paths, Selection.pages h directory (Selection.pointed extension) = .ok paths ∧
      (∀ p ∈ paths,
        (∃ page, Page.load h p = .ok page) ∧ (r.failures.map (·.path)).count p = 0 ∨
        (¬∃ page, Page.load h p = .ok page) ∧ (r.failures.map (·.path)).count p = 1) ∧
      (∀ p ∈ paths, ∀ page, Page.load h p = .ok page → ∀ code ∈ page.record.codes,
        (r.source code = some p ∧
          (r.conflicts.countP fun c => decide (c.code = code ∧ c.discarded = p)) = 0) ∨
        (r.source code ≠ some p ∧
          (r.conflicts.countP fun c => decide (c.code = code ∧ c.discarded = p)) = 1)) ∧
      ((decodedPages h paths).map (·.record.codes.length)).sum = r.size + r.conflicts.length ∧
      ∀ p ∈ paths, ∀ page, Page.load h p = .ok page →
        ((∃ code, r.source code = some p) →
          r.records.filter (·.source = p) = [⟨p, page.record⟩]) ∧
        ((∀ code, r.source code ≠ some p) → r.records.filter (·.source = p) = []) := by
  obtain ⟨paths, hselect, hresolves⟩ := resolves_of_run hr
  obtain ⟨pages, -, haccounts⟩ := accounts_of_run hselect hr
  refine ⟨paths, hselect, fun p hp => decodes_or_skipped hselect hr hp, ?_, ?_,
    fun p _ page hload => records_from hselect hr hload⟩
  · intro p hp page hload code hcode
    rw [← Registry.count_filesDiscarded]
    exact haccounts.owns_or_lost (nodup_filesDeclaring (Selection.nodup_pages hselect) code)
      (mem_filesDeclaring hp hload hcode)
  · rw [haccounts.size_add_conflicts hresolves, length_declarations]

/-- Where the last declaration counts, a page between two others may own nothing. -/
theorem run_accounts_for_codes_shelf :
    ∃ r, (run Shelf.host Shelf.docs "md" .lastWins).outcome = .ok r ∧
      (r.failures.map (·.path)).count (Shelf.docs.child "d.md") = 1 ∧
      (r.conflicts.countP fun c =>
        decide (c.code = "G2" ∧ c.discarded = Shelf.docs.child "a.md")) = 1 ∧
      r.size + r.conflicts.length = 6 ∧
      r.records.filter (·.source = Shelf.docs.child "b.md") = [] := by
  obtain ⟨r, hr⟩ : ∃ r, (run Shelf.host Shelf.docs "md" .lastWins).outcome = .ok r :=
    exists_run nofun Shelf.select Shelf.readable
  obtain ⟨paths, hselect, hskipped, hshares, htotal, hrecords⟩ := run_accounts_for_codes hr
  obtain ⟨paths', hselect', hresolves⟩ := resolves_of_run hr
  cases Shelf.select.symm.trans hselect
  cases Shelf.select.symm.trans hselect'
  have hsource : ∀ code, r.source code =
      (DuplicatePolicy.lastWins.owner? code Shelf.declared).map (·.source) := by
    rw [← Shelf.declarations]
    exact hresolves.source
  refine ⟨r, hr, ?_, ?_, ?_, ?_⟩
  · have hd := hskipped (Shelf.docs.child "d.md") (by decide)
    exact (hd.resolve_left fun hdecoded => Shelf.not_decoded_d hdecoded.1).2
  · have hG2 := hshares (Shelf.docs.child "a.md") (by decide) _ Shelf.load_a "G2" (by decide)
    refine (hG2.resolve_left fun howns => ?_).2
    rw [hsource] at howns
    exact absurd howns.1 (by decide)
  · rw [← htotal]
    simp only [decodedPages, Shelf.files, List.map_cons, List.map_nil, List.filterMap_cons,
      Shelf.load_a, Shelf.load_b, Shelf.load_c, Shelf.load_d, Except.toOption]
    decide
  · refine (hrecords (Shelf.docs.child "b.md") (by decide) _ Shelf.load_b).2 fun code howns => ?_
    have hcode : code ∈ Shelf.declared.map (·.code) := by
      rw [hsource, Option.map_eq_some_iff] at howns
      obtain ⟨d, howner, -⟩ := howns
      obtain ⟨hd, rfl⟩ := DuplicatePolicy.owner?_mem howner
      exact List.mem_map_of_mem hd
    have hall : ∀ code ∈ Shelf.declared.map (·.code),
        (DuplicatePolicy.lastWins.owner? code Shelf.declared).map (·.source) ≠
          some (Shelf.docs.child "b.md") := by
      decide
    exact hall code hcode ((hsource code).symm.trans howns)

end RegistryBuild

end OpcodeAtlas
