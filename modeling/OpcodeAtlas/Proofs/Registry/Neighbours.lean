import OpcodeAtlas.Proofs.Registry.Accounting

/-!
# The neighbours of a page

A build sees a directory through two things: the names that it lists and the bytes at each of
them. `Host.Extends` says that one host shows all of a directory that another one shows, in any
order and beside further entries.

The order of the names makes no difference, and neither do entries that are no pages: the selected
pages are the same, and with them the whole build. A further page that is skipped stands between
its neighbours as one event that changes no table (`BuildState.SameTables`), so the registry gains
one failure, at its place in the order of names, and nothing else (`RegistryBuild.run_extends`).
-/

set_option autoImplicit false

namespace OpcodeAtlas

/-! ## Two hosts -/

/-- The host `h'` shows the entries of a directory that `h` lists as `names`, in any order and with
the same bytes, and `more` entries. -/
structure Host.Extends (h h' : Host) (directory : Path) (names more : List String) : Prop where
  listed : h.list directory = .ok names
  listed_with : ∃ names', h'.list directory = .ok names' ∧ names'.Perm (more ++ names)
  unchanged : ∀ name ∈ names,
    h'.readBytes (directory.child name) = h.readBytes (directory.child name)

section
variable {h h' : Host} {p : Path} {directory : Path} {names more : List String}
  {extension : String}

theorem Host.isFile_congr (hp : h'.readBytes p = h.readBytes p) : h'.isFile p = h.isFile p := by
  simp only [isFile, hp]

theorem Page.load_congr (hp : h'.readBytes p = h.readBytes p) : load h' p = load h p := by
  simp only [load, Host.readText, hp]

theorem Host.Extends.isPage_eq (hext : Host.Extends h h' directory names more) {name : String}
    (hname : name ∈ names) :
    Selection.isPage h' directory extension name = Selection.isPage h directory extension name := by
  simp only [Selection.isPage, Host.isFile_congr (hext.unchanged name hname)]

theorem Host.Extends.ofPath_eq (hext : Host.Extends h h' directory names more) {name : String}
    (hname : name ∈ names) :
    ReadPage.ofPath h' (directory.child name) = ReadPage.ofPath h (directory.child name) := by
  simp only [ReadPage.ofPath, Page.load_congr (hext.unchanged name hname)]

end

/-! ## The selected pages -/

namespace Selection

variable {h h' : Host} {directory : Path} {extension : String} {paths : List Path}
  {names more : List String}

/-- Whether it can be told of each name what it is the name of. -/
theorem told_extends (hext : Host.Extends h h' directory names more) {names' : List String}
    (hperm : names'.Perm (more ++ names))
    (hmore : ∀ name ∈ more, ∀ e, isPage h' directory extension name ≠ .error e) :
    (∀ name ∈ names', ∀ e, isPage h' directory extension name ≠ .error e) ↔
      ∀ name ∈ names, ∀ e, isPage h directory extension name ≠ .error e := by
  constructor
  · intro hall name hname
    rw [← hext.isPage_eq hname]
    exact hall name (hperm.mem_iff.2 (List.mem_append_right more hname))
  · intro hall name hname
    rcases List.mem_append.1 (hperm.mem_iff.1 hname) with hname | hname
    · exact hmore name hname
    · rw [hext.isPage_eq hname]
      exact hall name hname

/-- Entries that are no pages are not among the pages. -/
theorem filter_extends (hext : Host.Extends h h' directory names more) {others : List String}
    (hothers : ∀ other ∈ others, isPage h' directory extension other = .ok false) :
    (others ++ names).filter (isPage h' directory extension · = .ok true) =
      names.filter (isPage h directory extension · = .ok true) := by
  rw [List.filter_append, List.filter_eq_nil_iff.2, List.nil_append]
  · refine List.filter_congr fun name hname => ?_
    rw [hext.isPage_eq hname]
  · intro other hother
    simp [hothers other hother]

/-- Entries that are no pages make no difference to the pages, and neither does the order. -/
theorem pages_extends (hext : Host.Extends h h' directory names more)
    (hmore : ∀ name ∈ more, isPage h' directory extension name = .ok false) :
    pages h' directory extension = .ok paths ↔ pages h directory extension = .ok paths := by
  obtain ⟨names', hlisted', hperm⟩ := hext.listed_with
  have hmore' : ∀ name ∈ more, ∀ e, isPage h' directory extension name ≠ .error e := by
    intro name hname
    rw [hmore name hname]
    exact nofun
  have htold := told_extends hext hperm hmore'
  have hfound : inOrder (names'.filter (isPage h' directory extension · = .ok true)) =
      inOrder (names.filter (isPage h directory extension · = .ok true)) := by
    refine inOrder_eq ?_ (inOrder_sorted _)
    exact (filter_extends hext hmore ▸ hperm.filter _).trans (inOrder_perm _).symm
  rw [pages_eq_ok_iff, pages_eq_ok_iff]
  simp only [hext.listed, hlisted', Except.ok.injEq, exists_eq_left', htold, hfound]

/-- A page more goes to its place among the pages. -/
theorem pages_extends_page {name : String} {others : List String}
    (hext : Host.Extends h h' directory names (name :: others))
    (hpage : isPage h' directory extension name = .ok true)
    (hothers : ∀ other ∈ others, isPage h' directory extension other = .ok false)
    (hselect : pages h directory extension = .ok paths) :
    ∃ before after : List String,
      paths = before.map directory.child ++ after.map directory.child ∧
      pages h' directory extension = .ok
        (before.map directory.child ++ directory.child name :: after.map directory.child) ∧
      (∀ b ∈ before, b < name) ∧ ∀ a ∈ after, name < a := by
  obtain ⟨hcheck, listed, hlisted, htold, rfl⟩ := pages_eq_ok_iff.1 hselect
  cases hext.listed.symm.trans hlisted
  obtain ⟨names', hlisted', hperm⟩ := hext.listed_with
  have hmore : ∀ other ∈ name :: others, ∀ e,
      isPage h' directory extension other ≠ .error e := by
    intro other hother
    rcases List.mem_cons.1 hother with rfl | hother
    · rw [hpage]
      exact nofun
    · rw [hothers other hother]
      exact nofun
  have hfound : (names'.filter (isPage h' directory extension · = .ok true)).Perm
      (name :: names.filter (isPage h directory extension · = .ok true)) := by
    refine (hperm.filter _).trans (List.Perm.of_eq ?_)
    rw [List.cons_append, List.filter_cons_of_pos (by simpa using hpage),
      filter_extends hext hothers]
  obtain ⟨before, after, horder, horder', hbefore, hafter⟩ :=
    inOrder_cons ((Host.nodup_list hlisted').sublist List.filter_sublist) hfound
  refine ⟨before, after, by rw [horder, List.map_append], ?_, hbefore, hafter⟩
  have hselect' := pages_eq_ok_iff.2
    ⟨hcheck, names', hlisted', (told_extends hext hperm hmore).2 htold, rfl⟩
  rwa [horder', List.map_append, List.map_cons] at hselect'

end Selection

/-! ## An event more -/

namespace BuildState

variable {policy : DuplicatePolicy} {s s' t : BuildState} {e : MergeEvent}
  {es : List MergeEvent}

/-- Two states have the same tables and conflicts. -/
structure SameTables (s s' : BuildState) : Prop where
  entries : s'.registry.entries = s.registry.entries
  bodies : s'.registry.bodies = s.registry.bodies
  sources : s'.registry.sources = s.registry.sources
  conflicts : s'.registry.conflicts = s.registry.conflicts

namespace SameTables

theorem source (hs : SameTables s s') (code : String) :
    s'.registry.source code = s.registry.source code := by
  rw [Registry.source, hs.sources]
  rfl

/-- A page that is skipped changes no table. -/
theorem skip (hs : SameTables s s') (p : SkippedPage) : SameTables s (s'.skip p) :=
  ⟨hs.entries, hs.bodies, hs.sources, hs.conflicts⟩

theorem enter (hs : SameTables s s') (d : Declaration) : SameTables (s.enter d) (s'.enter d) :=
  ⟨congrArg (·.put d.code d.shared) hs.entries, congrArg (·.put d.code d.page.body) hs.bodies,
    congrArg (·.put d.code d.source) hs.sources, hs.conflicts⟩

theorem clash (hs : SameTables s s') (c : CodeConflict) : SameTables (s.clash c) (s'.clash c) :=
  ⟨hs.entries, hs.bodies, hs.sources, congrArg (· ++ [c]) hs.conflicts⟩

/-- What an event does to the tables depends on the tables alone. -/
theorem effect (hs : SameTables s s') (heffect : Effect policy s e t) :
    ∃ t', Effect policy s' e t' ∧ SameTables t t' := by
  cases heffect with
  | skip p => exact ⟨s'.skip p, .skip p, hs.entries, hs.bodies, hs.sources, hs.conflicts⟩
  | enter d new => exact ⟨s'.enter d, .enter d ((hs.source d.code).trans new), hs.enter d⟩
  | keep d owner owned first =>
      exact ⟨_, .keep d owner ((hs.source d.code).trans owned) first, hs.clash _⟩
  | replace d owner owned last =>
      exact ⟨_, .replace d owner ((hs.source d.code).trans owned) last, (hs.clash _).enter d⟩

theorem follow (hs : SameTables s s') (h : follow policy s es = .ok t) :
    ∃ t', BuildState.follow policy s' es = .ok t' ∧ SameTables t t' := by
  induction es generalizing s s' with
  | nil =>
      cases h
      exact ⟨s', rfl, hs⟩
  | cons e es ih =>
      obtain ⟨u, heffect, hrest⟩ := follow_cons_eq_ok h
      obtain ⟨u', heffect', hu⟩ := hs.effect heffect
      obtain ⟨t', hrest', ht⟩ := ih hu hrest
      exact ⟨t', (follow_cons_of_ok (step_eq_ok_iff.2 heffect')).trans hrest', ht⟩

/-- A skipped page between two events changes no table. -/
theorem follow_skip (hs : SameTables s s') (p : SkippedPage) {before after : List MergeEvent}
    (h : BuildState.follow policy s (before ++ after) = .ok t) :
    ∃ t', BuildState.follow policy s' (before ++ .skip p :: after) = .ok t' ∧
      SameTables t t' := by
  induction before generalizing s s' with
  | nil =>
      obtain ⟨t', hrest, ht⟩ := (hs.skip p).follow h
      exact ⟨t', (follow_cons_of_ok (step_eq_ok_iff.2 (.skip p))).trans hrest, ht⟩
  | cons e before ih =>
      obtain ⟨u, heffect, hrest⟩ := follow_cons_eq_ok h
      obtain ⟨u', heffect', hu⟩ := hs.effect heffect
      obtain ⟨t', hrest', ht⟩ := ih hu hrest
      exact ⟨t', (follow_cons_of_ok (step_eq_ok_iff.2 heffect')).trans hrest', ht⟩

end SameTables

end BuildState

/-! ## Reading around a page -/

namespace ReadPage

variable {h h' : Host} {paths before after : List Path} {pages reads rest : List ReadPage}

theorem ofPaths_congr (hsame : ∀ p ∈ paths, ofPath h' p = ofPath h p) :
    ofPaths h' paths = ofPaths h paths := by
  induction paths with
  | nil => rfl
  | cons p paths ih =>
      obtain ⟨hp, hpaths⟩ := List.forall_mem_cons.1 hsame
      unfold ofPaths at ih ⊢
      rw [List.mapM_cons, List.mapM_cons, hp, ih hpaths]

theorem ofPaths_append_of_ok (hbefore : ofPaths h before = .ok reads)
    (hafter : ofPaths h after = .ok rest) : ofPaths h (before ++ after) = .ok (reads ++ rest) := by
  induction before generalizing reads with
  | nil =>
      cases hbefore
      exact hafter
  | cons p before ih =>
      obtain ⟨read, reads', hread, hreads, rfl⟩ := ofPaths_cons_eq_ok hbefore
      exact ofPaths_cons_of_ok hread (ih hreads)

theorem ofPaths_append_eq_ok (hpages : ofPaths h (before ++ after) = .ok pages) :
    ∃ reads rest, ofPaths h before = .ok reads ∧ ofPaths h after = .ok rest ∧
      pages = reads ++ rest := by
  induction before generalizing pages with
  | nil => exact ⟨[], pages, rfl, hpages, rfl⟩
  | cons p before ih =>
      obtain ⟨read, others, hread, hothers, rfl⟩ := ofPaths_cons_eq_ok hpages
      obtain ⟨reads, rest, hreads, hrest, rfl⟩ := ih hothers
      exact ⟨read :: reads, rest, ofPaths_cons_of_ok hread hreads, hrest, rfl⟩

/-- What is skipped of some pages are pages at their paths. -/
theorem path_mem_of_skipsIn (hpages : ofPaths h paths = .ok pages) {p : SkippedPage}
    (hp : p ∈ skipsIn (pages.flatMap events)) : p.path ∈ paths := by
  have hmem := List.mem_map_of_mem (f := SkippedPage.path) hp
  rw [skipsIn_events hpages] at hmem
  exact List.mem_of_mem_filter hmem

end ReadPage

/-! ## Builds -/

/-- A registry has, beside all that another one has, one failure, which stands at its place in the
order of names. -/
structure Registry.GainsFailure (r : Registry) (p : SkippedPage) (r' : Registry) : Prop where
  entries : r'.entries = r.entries
  bodies : r'.bodies = r.bodies
  sources : r'.sources = r.sources
  conflicts : r'.conflicts = r.conflicts
  failures : ∃ before after, r.failures = before ++ after ∧ r'.failures = before ++ p :: after ∧
    (∀ q ∈ before, q.path.name < p.path.name) ∧ ∀ q ∈ after, p.path.name < q.path.name

namespace RegistryBuild

variable {h h' : Host} {directory : Path} {extension : String} {policy : DuplicatePolicy}
  {r : Registry} {names more : List String}

/-- Builds that select the same pages and read the same of them are the same. -/
theorem run_congr {paths : List Path}
    (hselect : Selection.pages h directory (Selection.pointed extension) = .ok paths)
    (hselect' : Selection.pages h' directory (Selection.pointed extension) = .ok paths)
    (hsame : ∀ p ∈ paths, ReadPage.ofPath h' p = ReadPage.ofPath h p) :
    run h' directory extension policy = run h directory extension policy := by
  simp only [run, hselect, hselect', ReadPage.ofPaths_congr hsame]

/-- The pages of a directory are paths of names that it lists. -/
theorem ofPath_eq_of_mem_pages (hext : Host.Extends h h' directory names more)
    {paths : List Path} (hselect : Selection.pages h directory extension = .ok paths) :
    ∀ p ∈ paths, ReadPage.ofPath h' p = ReadPage.ofPath h p := by
  intro p hp
  obtain ⟨listed, hlisted, name, hname, rfl, -⟩ := (Selection.mem_pages hselect p).1 hp
  cases hext.listed.symm.trans hlisted
  exact hext.ofPath_eq hname

/-- A skipped page between the others is one more failure. -/
theorem ofPages_gains_failure {reads rest : List ReadPage} {p : SkippedPage}
    (hr : (ofPages policy directory (reads ++ rest)).outcome = .ok r) :
    ∃ r', (ofPages policy directory (reads ++ ⟨p.path, .error p.cause⟩ :: rest)).outcome = .ok r' ∧
      r'.entries = r.entries ∧ r'.bodies = r.bodies ∧ r'.sources = r.sources ∧
      r'.conflicts = r.conflicts ∧
      r.failures = skipsIn (reads.flatMap ReadPage.events) ++
        skipsIn (rest.flatMap ReadPage.events) ∧
      r'.failures = skipsIn (reads.flatMap ReadPage.events) ++
        p :: skipsIn (rest.flatMap ReadPage.events) := by
  obtain ⟨s, hfollow, rfl⟩ := ofPages_outcome_eq_ok_iff.1 hr
  have hevents : (reads ++ ⟨p.path, .error p.cause⟩ :: rest).flatMap ReadPage.events =
      reads.flatMap ReadPage.events ++ .skip p :: rest.flatMap ReadPage.events := by
    rw [List.flatMap_append, List.flatMap_cons]
    rfl
  -- The two builds start alike but for the number of pages in the log.
  have hstart : BuildState.SameTables (.start directory (reads ++ rest).length)
      (.start directory (reads ++ ⟨p.path, .error p.cause⟩ :: rest).length) :=
    ⟨rfl, rfl, rfl, rfl⟩
  rw [List.flatMap_append] at hfollow
  obtain ⟨s', hfollow', hs⟩ := hstart.follow_skip p hfollow
  -- The failures of a build are the pages that its events skip.
  have hfailures := (BuildState.follow_accounts hfollow).failures
  have hfailures' := (BuildState.follow_accounts hfollow').failures
  refine ⟨s'.registry, ofPages_outcome_eq_ok_iff.2 ⟨s', hevents ▸ hfollow', rfl⟩, hs.entries,
    hs.bodies, hs.sources, hs.conflicts, ?_, ?_⟩
  · rw [hfailures, skipsIn, List.filterMap_append]
    rfl
  · rw [hfailures', skipsIn, List.filterMap_append]
    rfl

/-- A further page that is skipped gives the registry one more failure. -/
theorem run_gains_failure {name : String} {cause : SkipCause} {others : List String}
    (hext : Host.Extends h h' directory names (name :: others))
    (hpage : Selection.isPage h' directory (Selection.pointed extension) name = .ok true)
    (hothers : ∀ other ∈ others,
      Selection.isPage h' directory (Selection.pointed extension) other = .ok false)
    (hskip : ReadPage.ofPath h' (directory.child name) = .ok ⟨directory.child name, .error cause⟩)
    (hr : (run h directory extension policy).outcome = .ok r) :
    ∃ r', (run h' directory extension policy).outcome = .ok r' ∧
      r.GainsFailure ⟨directory.child name, cause⟩ r' := by
  obtain ⟨paths, pages, hselect, hread, hmerge⟩ := run_outcome_eq_ok hr
  have hsame := ofPath_eq_of_mem_pages hext hselect
  obtain ⟨before, after, rfl, hselect', hbefore, hafter⟩ :=
    Selection.pages_extends_page hext hpage hothers hselect
  -- The pages around it are read as before.
  obtain ⟨reads, rest, hreads, hrest, rfl⟩ := ReadPage.ofPaths_append_eq_ok hread
  have hread' : ReadPage.ofPaths h' (before.map directory.child ++
      directory.child name :: after.map directory.child) =
      .ok (reads ++ ⟨directory.child name, .error cause⟩ :: rest) := by
    refine ReadPage.ofPaths_append_of_ok ?_ (ReadPage.ofPaths_cons_of_ok hskip ?_)
    · rw [ReadPage.ofPaths_congr fun p hp => hsame p (List.mem_append_left _ hp), hreads]
    · rw [ReadPage.ofPaths_congr fun p hp => hsame p (List.mem_append_right _ hp), hrest]
  obtain ⟨r', hr', hentries, hbodies, hsources, hconflicts, hfailures, hfailures'⟩ :=
    ofPages_gains_failure (p := ⟨directory.child name, cause⟩) hmerge
  refine ⟨r', (congrArg _ (run_of_pages hselect' hread' policy)).trans hr',
    hentries, hbodies, hsources, hconflicts, _, _, hfailures, hfailures', ?_, ?_⟩
  · intro q hq
    obtain ⟨b, hb, hpath⟩ := List.mem_map.1 (ReadPage.path_mem_of_skipsIn hreads hq)
    rw [← hpath, Path.name_child, Path.name_child]
    exact hbefore b hb
  · intro q hq
    obtain ⟨a, ha, hpath⟩ := List.mem_map.1 (ReadPage.path_mem_of_skipsIn hrest hq)
    rw [← hpath, Path.name_child, Path.name_child]
    exact hafter a ha

/-- A build does not return where it cannot be told of an entry whether it is a page. -/
theorem run_of_untold {name : String} {e : FileError} {listed : List String}
    (hcheck : directory.check = .ok ()) (hlisted : h.list directory = .ok listed)
    (hname : name ∈ listed)
    (huntold : Selection.isPage h directory (Selection.pointed extension) name = .error e) :
    ∃ e, (run h directory extension policy).outcome = .error (.abort (.file e)) := by
  cases hfound : Selection.pageNames
      (Selection.isPage h directory (Selection.pointed extension)) listed with
  | ok found => exact absurd huntold ((Selection.pageNames_eq_ok_iff.1 hfound).1 name hname e)
  | error e =>
      refine ⟨e, ?_⟩
      simp only [run, Selection.pages, hcheck, hlisted, hfound]

/-- **A build does not depend on the order in which a directory lists its entries, nor on entries
that are no pages, and a page that is skipped leaves its neighbours as they are.** Let a directory
show, in any order, the entries that it shows elsewhere, and more. If none of these is a page, a
build that returns for one of the two returns the same for the other; where it cannot be told of
an entry whether it is a page, a build does not return. If one of them is a page that is skipped,
a build that returned returns the registry with one more failure, at its place in the order of
names. -/
theorem run_extends (hext : Host.Extends h h' directory names more) :
    (∀ r, (run h directory extension policy).outcome = .ok r ∨
        (run h' directory extension policy).outcome = .ok r →
      (∀ name ∈ more,
        Selection.isPage h' directory (Selection.pointed extension) name = .ok false) →
      run h' directory extension policy = run h directory extension policy) ∧
    (∀ r, (run h directory extension policy).outcome = .ok r →
      (∃ name ∈ more, ∃ e,
        Selection.isPage h' directory (Selection.pointed extension) name = .error e) →
      ∃ e, (run h' directory extension policy).outcome = .error (.abort (.file e))) ∧
    ∀ r, (run h directory extension policy).outcome = .ok r → ∀ name others cause,
      more = name :: others →
      Selection.isPage h' directory (Selection.pointed extension) name = .ok true →
      (∀ other ∈ others,
        Selection.isPage h' directory (Selection.pointed extension) other = .ok false) →
      ReadPage.ofPath h' (directory.child name) = .ok ⟨directory.child name, .error cause⟩ →
      ∃ r', (run h' directory extension policy).outcome = .ok r' ∧
        r.GainsFailure ⟨directory.child name, cause⟩ r' := by
  refine ⟨fun r hr hmore => ?_, fun r hr huntold => ?_, ?_⟩
  · obtain ⟨paths, hselect⟩ : ∃ paths,
        Selection.pages h directory (Selection.pointed extension) = .ok paths := by
      rcases hr with hr | hr
      · obtain ⟨paths, -, hselect, -⟩ := run_outcome_eq_ok hr
        exact ⟨paths, hselect⟩
      · obtain ⟨paths, -, hselect, -⟩ := run_outcome_eq_ok hr
        exact ⟨paths, (Selection.pages_extends hext hmore).1 hselect⟩
    exact run_congr hselect ((Selection.pages_extends hext hmore).2 hselect)
      (ofPath_eq_of_mem_pages hext hselect)
  · obtain ⟨paths, -, hselect, -⟩ := run_outcome_eq_ok hr
    obtain ⟨hcheck, -⟩ := Selection.pages_eq_ok_iff.1 hselect
    obtain ⟨names', hlisted', hperm⟩ := hext.listed_with
    obtain ⟨name, hname, e, huntold⟩ := huntold
    exact run_of_untold hcheck hlisted'
      (hperm.mem_iff.2 (List.mem_append_left names hname)) huntold
  · rintro r hr name others cause rfl hpage hothers hskip
    exact run_gains_failure hext hpage hothers hskip hr

end RegistryBuild

/-! ## Neighbours on the shelf -/

namespace Shelf

/-- The files of the pages that can be read. -/
def tidyFiles : List (List String × FileContent) :=
  [file "c.md" "---\ntag: t\ntitle: C\nbrief: ''\ncodes: [G2, G1]\n---\ngamma",
    file "a.md" "---\ntag: t\ntitle: A\nbrief: ''\ncodes: [G2, M3]\n---\nalpha",
    file "b.md" "---\ntag: t\ntitle: B\nbrief: ''\ncodes: [G1, g2]\n---\nbeta"]

/-- The directory without the page that has no title and without the file that is no page. -/
def tidyHost : Host := { directory := ["home"], tree := { files := tidyFiles } }

/-- The same pages in another order, and the file that is no page. -/
def notedHost : Host :=
  { directory := ["home"], tree := { files := file "readme" "none" :: tidyFiles.reverse } }

theorem tidy_list : tidyHost.list docs = .ok ["c.md", "a.md", "b.md"] := by decide +kernel

theorem notedHost_extends : Host.Extends tidyHost notedHost docs ["c.md", "a.md", "b.md"]
    ["readme"] := by
  refine ⟨tidy_list, ⟨["readme", "b.md", "a.md", "c.md"], ?_, ?_⟩, ?_⟩
  · decide +kernel
  · decide
  · decide +kernel

theorem host_extends : Host.Extends tidyHost host docs ["c.md", "a.md", "b.md"]
    ["d.md", "readme"] := by
  refine ⟨tidy_list, ⟨["b.md", "a.md", "readme", "d.md", "c.md"], ?_, ?_⟩, ?_⟩
  · decide +kernel
  · decide
  · decide +kernel

theorem exists_run_tidyHost : ∃ r,
    (RegistryBuild.run tidyHost docs "md" .lastWins).outcome = .ok r := by
  have hselect := Selection.pages_of_found
    (show docs.check = .ok () by decide +kernel) tidy_list
    (show Selection.pageNames (Selection.isPage tidyHost docs (Selection.pointed "md"))
      ["c.md", "a.md", "b.md"] = .ok ["c.md", "a.md", "b.md"] by decide +kernel)
  refine RegistryBuild.exists_run nofun hselect fun p hp => ?_
  obtain ⟨name, hname, rfl⟩ := List.mem_map.1 hp
  have hname := (Selection.inOrder_perm _).mem_iff.1 hname
  -- The page reads as it does where it has more neighbours.
  rw [← Page.load_congr (host_extends.unchanged name hname)]
  have hfile : docs.child name ∈ files := by
    simp only [List.mem_cons, List.not_mem_nil, or_false] at hname
    rcases hname with rfl | rfl | rfl
    · decide
    · decide
    · decide
  exact readable _ hfile

end Shelf

/-- Another order and a file that is no page leave the build as it is, and a page without a title
is one more failure. -/
theorem RegistryBuild.run_extends_shelf :
    run Shelf.notedHost Shelf.docs "md" .lastWins = run Shelf.tidyHost Shelf.docs "md" .lastWins ∧
      ∃ r r', (run Shelf.tidyHost Shelf.docs "md" .lastWins).outcome = .ok r ∧
        (run Shelf.host Shelf.docs "md" .lastWins).outcome = .ok r' ∧
        r.GainsFailure ⟨Shelf.docs.child "d.md", .fault (.issues [⟨["title"], .missing⟩])⟩ r' := by
  obtain ⟨r, hr⟩ := Shelf.exists_run_tidyHost
  constructor
  · refine (run_extends Shelf.notedHost_extends).1 r (.inl hr) ?_
    decide +kernel
  · obtain ⟨r', hr', hgains⟩ := (run_extends Shelf.host_extends).2.2 r hr "d.md" ["readme"]
      (.fault (.issues [⟨["title"], .missing⟩])) rfl (by decide +kernel) (by decide +kernel)
      (by rw [ReadPage.ofPath, Shelf.load_d]; rfl)
    exact ⟨r, r', hr, hr', hgains⟩

end OpcodeAtlas
