import OpcodeAtlas.Command.Run
import OpcodeAtlas.Proofs.Registry.Policies

/-!
# The verdict of a strict check

A strict check asks whether the pages of a directory leave nothing to complain about: each of them
can be read, and no code stands on two of them (`Faultless`). The policies come to the answer by
different ways. A build that refuses second declarations ends at the first of them, and the other
builds put all of them on record; in both cases the registry of a build is clean exactly if its
pages are faultless (`RegistryBuild.isClean_iff_faultless`), and faultless pages give a registry
under every policy (`RegistryBuild.exists_clean_iff`).

The command ends with exit code 0 if the pages are faultless, and with 1 in all other cases, those
without a registry among them (`Command.code_strictCheck`).
-/

set_option autoImplicit false

namespace OpcodeAtlas

/-! ## Faultless pages -/

/-- Each of some pages can be read, and no code stands on two of them. -/
structure Faultless (h : Host) (paths : List Path) : Prop where
  decoded : ∀ p ∈ paths, ∃ page, Page.load h p = .ok page
  disjoint : paths.Pairwise fun p q => ∀ page other, Page.load h p = .ok page →
    Page.load h q = .ok other → ∀ code ∈ page.record.codes, code ∉ other.record.codes

section
variable {h : Host} {p : Path} {paths : List Path}

/-- The codes that the page at a path declares. -/
def codesAt (h : Host) (p : Path) : List String := (declarationsAt h p).map (·.code)

theorem mem_codesAt_iff {code : String} :
    code ∈ codesAt h p ↔ ∃ page, Page.load h p = .ok page ∧ code ∈ page.record.codes := by
  rw [codesAt, List.mem_map]
  constructor
  · rintro ⟨d, hd, rfl⟩
    obtain ⟨-, hload, hcode⟩ := (mem_declarationsAt_iff d).1 hd
    exact ⟨d.page, hload, hcode⟩
  · rintro ⟨page, hload, hcode⟩
    exact ⟨⟨code, page, p⟩, (mem_declarationsAt_iff _).2 ⟨rfl, hload, hcode⟩, rfl⟩

/-- No page declares a code twice. -/
theorem nodup_codesAt (h : Host) (p : Path) : (codesAt h p).Nodup := by
  have hdistinct := declarations_distinct (h := h) (List.nodup_singleton p)
  rw [List.flatMap_singleton] at hdistinct
  refine List.pairwise_map.2 (hdistinct.imp_of_mem fun {d e} hd he hne hcode => ?_)
  have hsource : d.source = e.source :=
    ((mem_declarationsAt_iff d).1 hd).1.trans ((mem_declarationsAt_iff e).1 he).1.symm
  exact hne hcode hsource

/-- The declarations of some pages repeat no code exactly if no code stands on two pages. -/
theorem nodup_declared_iff :
    ((paths.flatMap (declarationsAt h)).map (·.code)).Nodup ↔
      paths.Pairwise fun p q => ∀ page other, Page.load h p = .ok page →
        Page.load h q = .ok other → ∀ code ∈ page.record.codes, code ∉ other.record.codes := by
  have hcodes : (paths.flatMap (declarationsAt h)).map (·.code) = paths.flatMap (codesAt h) :=
    List.map_flatMap
  rw [hcodes, List.nodup_flatMap, and_iff_right fun p _ => nodup_codesAt h p]
  refine ⟨fun hapart => hapart.imp ?_, fun hapart => hapart.imp ?_⟩
  · intro p q hpq page other hpage hother code hcode hmem
    exact hpq (mem_codesAt_iff.2 ⟨page, hpage, hcode⟩) (mem_codesAt_iff.2 ⟨other, hother, hmem⟩)
  · intro p q hpq code hp hq
    obtain ⟨page, hpage, hcode⟩ := mem_codesAt_iff.1 hp
    obtain ⟨other, hother, hmem⟩ := mem_codesAt_iff.1 hq
    exact hpq page other hpage hother code hcode hmem

end

/-! ## Clean registries -/

theorem Registry.isClean_iff (r : Registry) :
    r.isClean = true ↔ r.failures = [] ∧ r.conflicts = [] := by
  rw [isClean, Bool.and_eq_true, List.isEmpty_iff, List.isEmpty_iff]

namespace RegistryBuild

variable {h : Host} {directory : Path} {extension : String} {policy : DuplicatePolicy}
  {paths : List Path} {r : Registry}

/-- **A build is clean exactly if its pages are faultless**, whatever its policy. -/
theorem isClean_iff_faultless
    (hselect : Selection.pages h directory (Selection.pointed extension) = .ok paths)
    (hr : (run h directory extension policy).outcome = .ok r) :
    r.isClean = true ↔ Faultless h paths := by
  have hfailures : r.failures = [] ↔ ∀ p ∈ paths, ∃ page, Page.load h p = .ok page := by
    rw [← List.map_eq_nil_iff, skipped_of_run hselect hr, List.filter_eq_nil_iff]
    refine forall₂_congr fun p _ => ?_
    rw [← decodes_iff, Bool.not_eq_true, Bool.not_eq_false']
  have hconflicts : r.conflicts = [] ↔ ((paths.flatMap (declarationsAt h)).map (·.code)).Nodup := by
    obtain ⟨pages, -, haccounts⟩ := accounts_of_run hselect hr
    rw [← List.map_eq_nil_iff, haccounts.conflict_codes, repeats_eq_nil_iff]
    exact and_iff_left fun code _ => List.not_mem_nil
  rw [r.isClean_iff, hfailures, hconflicts, nodup_declared_iff]
  exact ⟨fun ⟨hdecoded, hdisjoint⟩ => ⟨hdecoded, hdisjoint⟩, fun hfaultless =>
    ⟨hfaultless.decoded, hfaultless.disjoint⟩⟩

/-- **Faultless pages give a clean registry under every policy**, and other pages under none. -/
theorem exists_clean_iff
    (hselect : Selection.pages h directory (Selection.pointed extension) = .ok paths)
    (hload : ∀ p ∈ paths, ∀ a, Page.load h p ≠ .error (.page (.abort a)))
    (policy : DuplicatePolicy) :
    (∃ r, (run h directory extension policy).outcome = .ok r ∧ r.isClean = true) ↔
      Faultless h paths := by
  constructor
  · rintro ⟨r, hr, hclean⟩
    exact (isClean_iff_faultless hselect hr).1 hclean
  · intro hfaultless
    -- Where first declarations count there always is a registry. It has no conflict, so the other
    -- policies come to the same one.
    obtain ⟨first, hfirst⟩ : ∃ first, (run h directory extension .firstWins).outcome = .ok first :=
      exists_run nofun hselect hload
    have hclean := (isClean_iff_faultless hselect hfirst).2 hfaultless
    obtain ⟨pages, hread⟩ := ReadPage.exists_ofPaths_iff.2 hload
    rw [run_of_pages hselect hread] at hfirst
    obtain ⟨-, hsame⟩ := ofPages_policies_agree hfirst
    refine ⟨first, ?_, hclean⟩
    rw [run_of_pages hselect hread]
    exact hsame (first.isClean_iff.1 hclean).2 policy

end RegistryBuild

/-! ## The ending of the command -/

theorem Transcript.code_ofWorkError (e : WorkError) : (ofWorkError e).ending.code = 1 := by
  cases e with
  | failure f => rfl
  | abort a => rfl

/-- Tags that cannot be used end a command no better than it ends without them. -/
theorem Transcript.code_withTags {t : Transcript} (h : t.ending.code = 1) (texts : List String) :
    (withTags texts t).ending.code = 1 := by
  unfold withTags
  split
  · rfl
  · exact h

namespace Command

variable {h : Host} {options : SharedOptions} {s : Settings} {r : Registry}

/-- A strict check ends well if the registry is clean. -/
theorem ending_check_of_isClean (hclean : r.isClean = true) :
    (check true s r).ending = .exit 0 := by
  have hconflicts := (r.isClean_iff.1 hclean).2
  simp only [check, hclean, hconflicts, List.map_nil]
  rfl

/-- A strict check refuses a registry that is not clean. -/
theorem code_check_of_not_isClean (hclean : r.isClean = false) :
    (check true s r).ending.code = 1 := by
  simp only [check, hclean]
  exact Transcript.code_withTags rfl _

/-- How a check ends once the settings are loaded. -/
theorem ending_checkDocs {strict : Bool}
    (hsettings : Settings.load h options.config options.overrides = .ok s) :
    (run h (.checkDocs strict options)).ending =
      match (buildOf h s).outcome with
      | .ok r => (check strict s r).ending
      | .error e => (Transcript.ofWorkError e).ending := by
  simp only [run, withRegistry, withSettings, hsettings, Transcript.behindLog]
  cases (buildOf h s).outcome with
  | ok r => rfl
  | error e => rfl

/-- A strict check ends well exactly if the build gives a clean registry. -/
theorem ending_strictCheck_cases
    (hsettings : Settings.load h options.config options.overrides = .ok s) :
    (∃ r, (buildOf h s).outcome = .ok r ∧ r.isClean = true) ∧
        (run h (.checkDocs true options)).ending = .exit 0 ∨
      (¬∃ r, (buildOf h s).outcome = .ok r ∧ r.isClean = true) ∧
        (run h (.checkDocs true options)).ending.code = 1 := by
  rw [ending_checkDocs hsettings]
  cases (buildOf h s).outcome with
  | error e =>
      refine .inr ⟨?_, Transcript.code_ofWorkError e⟩
      rintro ⟨r, hr, -⟩
      cases hr
  | ok r =>
      cases hclean : r.isClean with
      | true => exact .inl ⟨⟨r, rfl, hclean⟩, ending_check_of_isClean hclean⟩
      | false =>
          refine .inr ⟨?_, code_check_of_not_isClean hclean⟩
          rintro ⟨q, hq, hqclean⟩
          cases hq
          cases hclean.symm.trans hqclean

/-- **The verdict of a strict check.** Once the settings are loaded, and unless a page has an abort,
a strict check ends with exit code 0 if the pages of the directory can be selected and are
faultless, and else with exit code 1. So it does under every policy. -/
theorem code_strictCheck
    (hsettings : Settings.load h options.config options.overrides = .ok s)
    (hload : ∀ paths,
      Selection.pages h s.docsDirectory (Selection.pointed s.docsExtension) = .ok paths →
        ∀ p ∈ paths, ∀ a, Page.load h p ≠ .error (.page (.abort a))) :
    ((run h (.checkDocs true options)).ending = .exit 0 ↔
      ∃ paths, Selection.pages h s.docsDirectory (Selection.pointed s.docsExtension) = .ok paths ∧
        Faultless h paths) ∧
    ((run h (.checkDocs true options)).ending.code = 1 ↔
      ¬∃ paths, Selection.pages h s.docsDirectory (Selection.pointed s.docsExtension) = .ok paths ∧
        Faultless h paths) := by
  have hclean : (∃ r, (buildOf h s).outcome = .ok r ∧ r.isClean = true) ↔
      ∃ paths, Selection.pages h s.docsDirectory (Selection.pointed s.docsExtension) = .ok paths ∧
        Faultless h paths := by
    constructor
    · rintro ⟨r, hr, hclean⟩
      obtain ⟨paths, -, hselect, -⟩ := RegistryBuild.run_outcome_eq_ok hr
      exact ⟨paths, hselect, (RegistryBuild.isClean_iff_faultless hselect hr).1 hclean⟩
    · rintro ⟨paths, hselect, hfaultless⟩
      exact (RegistryBuild.exists_clean_iff hselect (hload paths hselect) _).2 hfaultless
  rw [← hclean]
  rcases ending_strictCheck_cases hsettings with ⟨hyes, hending⟩ | ⟨hno, hcode⟩
  · rw [hending]
    exact ⟨iff_of_true rfl hyes, iff_of_false nofun (not_not_intro hyes)⟩
  · refine ⟨iff_of_false (fun hending => ?_) hno, iff_of_true hcode hno⟩
    rw [hending] at hcode
    cases hcode

end Command

/-! ## Two pages with one code, and a page that must not be opened -/

namespace Shelf

/-- A directory of two pages that spell the same code in two ways. -/
def twinHost : Host :=
  { directory := ["home"]
    tree := { files := [
      file "a.md" "---\ntag: t\ntitle: A\nbrief: ''\ncodes: [G1, G2]\n---\nalpha",
      file "b.md" "---\ntag: t\ntitle: B\nbrief: ''\ncodes: ' g1'\n---\nbeta"] } }

/-- The directory, as an absolute path. -/
def place : Path := ⟨.root, ["home", "docs"]⟩

/-- The pages of the directory. -/
def twinFiles : List Path := ["a.md", "b.md"].map place.child

/-- The options of a check that lets the last declaration count. -/
def twinOptions : SharedOptions :=
  { docsDirectory := some docs, duplicatePolicy := some .lastWins }

/-- The settings of such a check. -/
def twinSettings : Settings := ⟨place, ".md", .lastWins, 1, .info, .console, none⟩

/-- Two pages that are listed in the order of their names are selected in it. -/
theorem select_twinFiles {h : Host} (hlist : h.list place = .ok ["a.md", "b.md"])
    (hpages : Selection.pageNames (Selection.isPage h place (Selection.pointed ".md"))
      ["a.md", "b.md"] = .ok ["a.md", "b.md"]) :
    Selection.pages h place (Selection.pointed ".md") = .ok twinFiles := by
  have hcheck : place.check = .ok () := by decide +kernel
  have hselect := Selection.pages_of_found hcheck hlist hpages
  rwa [Selection.inOrder_eq (.refl _) (by decide)] at hselect

theorem twin_select : Selection.pages twinHost place (Selection.pointed ".md") = .ok twinFiles :=
  select_twinFiles (by decide +kernel) (by decide +kernel)

/-- A directory of two pages, of which the second one must not be opened. -/
def lockedHost : Host :=
  { directory := ["home"]
    tree := { files := [
      file "a.md" "---\ntag: t\ntitle: A\nbrief: ''\ncodes: [G1, G2]\n---\nalpha",
      (["home", "docs", "b.md"], .unreadable .denied)] } }

theorem locked_select :
    Selection.pages lockedHost place (Selection.pointed ".md") = .ok twinFiles :=
  select_twinFiles (by decide +kernel) (by decide +kernel)

theorem check_settings :
    Settings.load twinHost twinOptions.config twinOptions.overrides = .ok twinSettings ∧
      Settings.load lockedHost twinOptions.config twinOptions.overrides = .ok twinSettings := by
  decide +kernel

-- One evaluation for both directories, whose first pages are the same.
theorem check_loads :
    (Page.load twinHost (place.child "a.md") = .ok (page "A" ["G1", "G2"] "alpha") ∧
      Page.load twinHost (place.child "b.md") = .ok (page "B" ["G1"] "beta")) ∧
    (Page.load lockedHost (place.child "a.md") = .ok (page "A" ["G1", "G2"] "alpha") ∧
      Page.load lockedHost (place.child "b.md") =
        .error (.text (.file ⟨.unreadable .denied, place.child "b.md"⟩))) := by
  decide +kernel

end Shelf

/-- A strict check refuses the two pages, although the last declaration counts, and it refuses a
page that must not be opened, although no other page is at fault. -/
theorem Command.code_strictCheck_shelves :
    (run Shelf.twinHost (.checkDocs true Shelf.twinOptions)).ending.code = 1 ∧
      (run Shelf.lockedHost (.checkDocs true Shelf.twinOptions)).ending.code = 1 := by
  obtain ⟨⟨htwin, hother⟩, hopen, hlocked⟩ := Shelf.check_loads
  constructor
  · refine (code_strictCheck Shelf.check_settings.1 fun paths hselect => ?_).2.2 ?_
    · cases Shelf.twin_select.symm.trans hselect
      simp [Shelf.twinFiles, htwin, hother]
    · rintro ⟨paths, hselect, hfaultless⟩
      cases Shelf.twin_select.symm.trans hselect
      have hapart := (List.pairwise_cons.1 hfaultless.disjoint).1 _ List.mem_cons_self
      exact hapart _ _ htwin hother "G1" (by decide) (by decide)
  · refine (code_strictCheck Shelf.check_settings.2 fun paths hselect => ?_).2.2 ?_
    · cases Shelf.locked_select.symm.trans hselect
      simp [Shelf.twinFiles, hopen, hlocked]
    · rintro ⟨paths, hselect, hfaultless⟩
      cases Shelf.locked_select.symm.trans hselect
      obtain ⟨page, hpage⟩ := hfaultless.decoded (Shelf.place.child "b.md") (by decide)
      cases hlocked.symm.trans hpage

end OpcodeAtlas
