import OpcodeAtlas.Proofs.Page.CodeList
import OpcodeAtlas.Proofs.Registry.Policies

/-!
# Codes that two pages declare

No page declares a code twice, however its author spells it, and no page is selected twice. So
whenever a build comes to a code that has an owner, the owner is another page than the one that
declares it (`declaredTwice_of_owned`). The conflicts on record are between two pages
(`BuildState.follow_declaredTwice`), and so is the duplicate that a build is refused for
(`BuildState.follow_refused`).

Together with the exact form of the lists of codes this is `codes_exact`.
-/

set_option autoImplicit false

namespace OpcodeAtlas

/-- Two different pages declare a code. -/
structure DeclaredTwice (h : Host) (code : String) (p q : Path) : Prop where
  distinct : p ≠ q
  first : ∃ page, Page.load h p = .ok page ∧ code ∈ page.record.codes
  second : ∃ page, Page.load h q = .ok page ∧ code ∈ page.record.codes

theorem DeclaredTwice.symm {h : Host} {code : String} {p q : Path}
    (hpq : DeclaredTwice h code p q) : DeclaredTwice h code q p :=
  ⟨hpq.distinct.symm, hpq.second, hpq.first⟩

/-- Declarations as the pages of a directory make them: each is that of a page, and no page makes
one twice. -/
structure FromPages (h : Host) (ds : List Declaration) : Prop where
  onPage : ∀ d ∈ ds, Page.load h d.source = .ok d.page ∧ d.code ∈ d.page.record.codes
  apart : ds.Pairwise fun d e => d.code = e.code → d.source ≠ e.source

section
variable {h : Host} {paths : List Path} {policy : DuplicatePolicy} {r : Registry}
  {ds more : List Declaration} {d : Declaration} {owner : Path}

theorem fromPages_declarations (hpaths : paths.Nodup) :
    FromPages h (paths.flatMap (declarationsAt h)) := by
  constructor
  · intro d hd
    exact ((mem_declarations_iff d).1 hd).2
  · exact declarations_distinct hpaths

theorem FromPages.front (hpages : FromPages h (ds ++ more)) : FromPages h ds := by
  constructor
  · intro d hd
    exact hpages.onPage d (List.mem_append_left more hd)
  · exact (List.pairwise_append.1 hpages.apart).1

/-- **The owner of a code that is declared again is another page.** -/
theorem declaredTwice_of_owned (hpages : FromPages h (ds ++ [d])) (hr : r.Resolves policy ds)
    (owned : r.source d.code = some owner) : DeclaredTwice h d.code owner d.source := by
  -- The owner has declared the code before.
  rw [hr.source, Option.map_eq_some_iff] at owned
  obtain ⟨e, howner, rfl⟩ := owned
  obtain ⟨he, hcode⟩ := DuplicatePolicy.owner?_mem howner
  have hlast : d ∈ ds ++ [d] := List.mem_append_right ds (List.mem_singleton_self d)
  refine ⟨?_, ⟨e.page, ?_⟩, ⟨d.page, hpages.onPage d hlast⟩⟩
  · exact (List.pairwise_append.1 hpages.apart).2.2 e he d (List.mem_singleton_self d) hcode
  · rw [← hcode]
    exact hpages.onPage e (List.mem_append_left [d] he)

end

namespace BuildState

variable {h : Host} {policy : DuplicatePolicy} {s t : BuildState} {e : MergeEvent}
  {es : List MergeEvent} {directory : Path} {files : Nat}

/-- One event puts no conflict on record that is not between two pages. -/
theorem declaredTwice_of_effect (hpages : FromPages h (declarationsIn (es ++ [e])))
    (hr : s.registry.Resolves policy (declarationsIn es))
    (hs : ∀ c ∈ s.registry.conflicts, DeclaredTwice h c.code c.kept c.discarded)
    (heffect : Effect policy s e t) :
    ∀ c ∈ t.registry.conflicts, DeclaredTwice h c.code c.kept c.discarded := by
  cases heffect with
  | skip p => exact hs
  | enter d new => exact hs
  | keep d owner owned first =>
      rw [declarationsIn_concat_declare] at hpages
      have htwice := declaredTwice_of_owned hpages hr owned
      rw [clash_conflicts]
      exact List.forall_mem_append.2 ⟨hs, List.forall_mem_singleton.2 htwice⟩
  | replace d owner owned last =>
      rw [declarationsIn_concat_declare] at hpages
      have htwice := declaredTwice_of_owned hpages hr owned
      rw [enter_registry, Registry.conflicts_enter, clash_conflicts]
      exact List.forall_mem_append.2 ⟨hs, List.forall_mem_singleton.2 htwice.symm⟩

/-- **After every event the conflicts are between two pages.** -/
theorem follow_declaredTwice (hpages : FromPages h (declarationsIn es))
    (hrun : follow policy (start directory files) es = .ok t) :
    ∀ c ∈ t.registry.conflicts, DeclaredTwice h c.code c.kept c.discarded := by
  -- Who owns a code is known from the tables, so both facts go together.
  refine (follow_induction (motive := fun es s => s.registry.Resolves policy (declarationsIn es) ∧
    (FromPages h (declarationsIn es) →
      ∀ c ∈ s.registry.conflicts, DeclaredTwice h c.code c.kept c.discarded)) ⟨?_, ?_⟩ ?_ hrun).2
    hpages
  · exact follow_resolves (follow_nil (s := start directory files))
  · intro _ c hc
    cases hc
  · intro es s e t hs heffect
    refine ⟨resolves_of_effect hs.1 heffect, fun hpages => ?_⟩
    have hfront : FromPages h (declarationsIn es) := by
      unfold declarationsIn at hpages ⊢
      rw [List.filterMap_append] at hpages
      exact hpages.front
    exact declaredTwice_of_effect hpages hs.1 (hs.2 hfront) heffect

/-- **What a build is refused for are two pages.** -/
theorem follow_refused (hpages : FromPages h (declarationsIn es)) {halted : HaltedBuild}
    (hrun : follow policy (start directory files) es = .error halted) :
    ∃ code p q, halted.failure = duplicateFailure directory code p q ∧
      DeclaredTwice h code p q := by
  have hpolicy : policy = .refuse := by
    by_contra hne
    obtain ⟨t, ht⟩ := exists_follow hne (start directory files) es
    rw [ht] at hrun
    cases hrun
  subst hpolicy
  rcases undisputed_or_disputed (start directory files) es with
    ⟨t, ht⟩ | ⟨before, d, after, t, owner, rfl, ht, owned⟩
  · rw [ht.run] at hrun
    cases hrun
  · -- The build ends where the code is declared again.
    rw [follow_append_of_ok (ht.run _), follow_refuse_of_disputed owned, ht.directory] at hrun
    cases hrun
    have hfront : FromPages h (declarationsIn before ++ [d]) := by
      have hsplit : declarationsIn (before ++ .declare d :: after) =
          (declarationsIn before ++ [d]) ++ declarationsIn after := by
        rw [List.append_assoc]
        exact List.filterMap_append
      rw [hsplit] at hpages
      exact hpages.front
    exact ⟨d.code, owner, d.source, rfl,
      declaredTwice_of_owned hfront (follow_resolves (ht.run .refuse)) owned⟩

end BuildState

/-- A directory that cannot be listed is no duplicate. -/
theorem Selection.subject_of_pages {h : Host} {directory : Path} {extension : String} {f : Failure}
    (hpages : pages h directory extension = .error (.failure f)) :
    f.subject = .directory (some directory.text) := by
  unfold pages at hpages
  split at hpages
  · cases hpages
  · cases hpages
    unfold failure
    dsimp only
    split
    · rfl
    · rfl
    · rfl
  · split at hpages
    · cases hpages
    · cases hpages

namespace RegistryBuild

variable {h : Host} {directory : Path} {extension : String} {policy : DuplicatePolicy}
  {r : Registry}

/-- The conflicts of a build are between two pages. -/
theorem run_declaredTwice (hr : (run h directory extension policy).outcome = .ok r) :
    ∀ c ∈ r.conflicts, DeclaredTwice h c.code c.kept c.discarded := by
  obtain ⟨paths, pages, hselect, hread, hmerge⟩ := run_outcome_eq_ok hr
  obtain ⟨s, hfollow, rfl⟩ := ofPages_outcome_eq_ok_iff.1 hmerge
  apply BuildState.follow_declaredTwice _ hfollow
  rw [ReadPage.declarationsIn_events hread]
  exact fromPages_declarations (Selection.nodup_pages hselect)

/-- A build that is refused for a duplicate has read its pages, and merging them was halted. -/
theorem exists_halted_of_refused {f : Failure} {place : Option String} {code : String}
    {sources : List String}
    (hf : (run h directory extension policy).outcome = .error (.failure f))
    (hsubject : f.subject = .duplicate place code sources) :
    ∃ paths pages halted, Selection.pages h directory (Selection.pointed extension) = .ok paths ∧
      ReadPage.ofPaths h paths = .ok pages ∧
      BuildState.follow policy (.start directory pages.length)
        (pages.flatMap ReadPage.events) = .error halted ∧ halted.failure = f := by
  cases hselect : Selection.pages h directory (Selection.pointed extension) with
  | error e =>
      simp only [run, hselect] at hf
      cases hf
      rw [Selection.subject_of_pages hselect] at hsubject
      cases hsubject
  | ok paths =>
      cases hread : ReadPage.ofPaths h paths with
      | error a =>
          rw [run_of_abort hselect hread] at hf
          cases hf
      | ok pages =>
          rw [run_of_pages hselect hread] at hf
          cases hrun : BuildState.follow policy (.start directory pages.length)
              (pages.flatMap ReadPage.events) with
          | ok s =>
              rw [ofPages_outcome_eq_ok_iff.2 ⟨s, hrun, rfl⟩] at hf
              cases hf
          | error halted =>
              rw [ofPages_outcome_of_error hrun] at hf
              cases hf
              exact ⟨paths, pages, halted, rfl, hread, hrun, rfl⟩

/-- A build ends with a duplicate only for two pages. -/
theorem run_refused {f : Failure} {place : Option String} {code : String} {sources : List String}
    (hf : (run h directory extension policy).outcome = .error (.failure f))
    (hsubject : f.subject = .duplicate place code sources) :
    ∃ p q, f = BuildState.duplicateFailure directory code p q ∧ DeclaredTwice h code p q := by
  obtain ⟨paths, pages, halted, hselect, hread, hrun, rfl⟩ := exists_halted_of_refused hf hsubject
  have hpages : FromPages h (declarationsIn (pages.flatMap ReadPage.events)) := by
    rw [ReadPage.declarationsIn_events hread]
    exact fromPages_declarations (Selection.nodup_pages hselect)
  obtain ⟨code', p, q, hfailure, htwice⟩ := BuildState.follow_refused hpages hrun
  rw [hfailure] at hsubject
  cases hsubject
  exact ⟨p, q, hfailure, htwice⟩

end RegistryBuild

/-- A build of the shelf is refused at the second page that declares `G2`. -/
theorem Shelf.outcome_refuse : (RegistryBuild.run host docs "md" .refuse).outcome =
    .error (.failure (BuildState.duplicateFailure docs "G2" (docs.child "a.md")
      (docs.child "b.md"))) := by
  rw [RegistryBuild.run_of_pages select ofPaths_files]
  decide +kernel

/-- **Lists of codes, exactly.** There is no issue with the codes of a header just if they are a
text, a number or a row of texts and numbers, at least one of which is more than blanks; and then
the codes of the record are the first occurrences of their standard forms, without the blank ones.
So in every build the conflicts on record are between two different pages that both declare the
code, and so is the duplicate that a build is refused for. -/
theorem codes_exact :
    (∀ (fields : Entries) (v : Value), fields.get? "codes" = some v →
      ((∀ i ∈ (Record.ofFields fields).issues, ¬i.Concerns "codes") ↔
        ∃ texts, Codes.IsList v texts ∧ ∃ s ∈ texts, Codes.normal s ≠ "") ∧
      ∀ r, Record.ofFields fields = .ok r → ∃ texts, Codes.IsList v texts ∧
        r.codes = ((texts.map Codes.normal).filter (· ≠ "")).eraseDups ∧ r.codes.Nodup) ∧
    ∀ (h : Host) (directory : Path) (extension : String) (policy : DuplicatePolicy),
      (∀ r, (RegistryBuild.run h directory extension policy).outcome = .ok r →
        ∀ c ∈ r.conflicts, DeclaredTwice h c.code c.kept c.discarded) ∧
      ∀ f place code sources,
        (RegistryBuild.run h directory extension policy).outcome = .error (.failure f) →
        f.subject = .duplicate place code sources →
        ∃ p q, f = BuildState.duplicateFailure directory code p q ∧ DeclaredTwice h code p q := by
  constructor
  · intro fields v hget
    refine ⟨Record.codes_taken_iff hget, fun r hr => ?_⟩
    obtain ⟨texts, hlist, hcodes⟩ := Record.exists_isList_of_ofFields hget hr
    refine ⟨texts, hlist, hcodes, ?_⟩
    rw [hcodes]
    exact nodup_eraseDups _
  · intro h directory extension policy
    constructor
    · intro r hr
      exact RegistryBuild.run_declaredTwice hr
    · intro f place code sources hf hsubject
      exact RegistryBuild.run_refused hf hsubject

/-- One code in two spellings, a number and a blank. -/
def spelledCodes : Value := .list [.text "g28", .text " G28 ", .int 5, .text " "]

/-- The list is taken, and a build of pages that share a code is refused for two pages. -/
theorem codes_exact_spelled :
    (∀ i ∈ (Record.ofFields [(.text "codes", spelledCodes)]).issues, ¬i.Concerns "codes") ∧
      ∃ p q, (RegistryBuild.run Shelf.host Shelf.docs "md" .refuse).outcome =
          .error (.failure (BuildState.duplicateFailure Shelf.docs "G2" p q)) ∧
        DeclaredTwice Shelf.host "G2" p q := by
  obtain ⟨hlists, hbuilds⟩ := codes_exact
  constructor
  · apply (hlists [(.text "codes", spelledCodes)] spelledCodes rfl).1.2
    have hint : Codes.IsEntry (.int 5) (toString (5 : Int)) := .int (by decide)
    refine ⟨["g28", " G28 ", toString (5 : Int), " "], ?_, "g28", List.mem_cons_self, by decide⟩
    exact .row rfl (.cons (.text _) (.cons (.text _) (.cons hint (.cons (.text _) .nil))))
  · obtain ⟨p, q, hfailure, htwice⟩ :=
      (hbuilds Shelf.host Shelf.docs "md" .refuse).2 _ _ _ _ Shelf.outcome_refuse rfl
    have houtcome := Shelf.outcome_refuse
    rw [hfailure] at houtcome
    exact ⟨p, q, houtcome, htwice⟩

end OpcodeAtlas
