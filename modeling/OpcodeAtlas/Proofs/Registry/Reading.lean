import Mathlib.Data.List.Nodup
import OpcodeAtlas.Proofs.Registry.Merging
import OpcodeAtlas.Proofs.Registry.Selection

/-!
# Reading the selected pages

Reading a selected page gives a page, a cause to skip it, or the end of the build
(`ReadPage.ofPath_cases`). So what a build takes up can be said of the files alone: the declarations
of the pages that can be read, in order (`declarationsAt`), and the skips of the others
(`ReadPage.skipsIn_events`).

A build that returns has merged the pages of its directory (`RegistryBuild.run_outcome_eq_ok`).
-/

set_option autoImplicit false

namespace OpcodeAtlas

variable {h : Host} {p : Path} {paths : List Path}

/-! ## What a file declares -/

/-- What the page at a path declares. -/
def declarationsAt (h : Host) (p : Path) : List Declaration :=
  match Page.load h p with
  | .ok page => ReadPage.declarationsOf p page
  | .error _ => []

/-- Whether there is a page to read at a path. -/
def decodes (h : Host) (p : Path) : Bool :=
  match Page.load h p with
  | .ok _ => true
  | .error _ => false

theorem decodes_iff : decodes h p = true ↔ ∃ page, Page.load h p = .ok page := by
  unfold decodes
  cases Page.load h p <;> simp

theorem declarationsAt_of_ok {page : Page} (hload : Page.load h p = .ok page) :
    declarationsAt h p = ReadPage.declarationsOf p page := by
  simp only [declarationsAt, hload]

theorem mem_declarationsAt_iff (d : Declaration) :
    d ∈ declarationsAt h p ↔
      d.source = p ∧ Page.load h p = .ok d.page ∧ d.code ∈ d.page.record.codes := by
  cases hload : Page.load h p with
  | error e => simp [declarationsAt, hload]
  | ok page =>
      rw [declarationsAt_of_ok hload, ReadPage.declarationsOf, List.mem_map]
      constructor
      · rintro ⟨code, hcode, rfl⟩
        exact ⟨rfl, rfl, hcode⟩
      · rintro ⟨rfl, hpage, hcode⟩
        cases hpage
        exact ⟨d.code, hcode, rfl⟩

/-- The declarations of some files. -/
theorem mem_declarations_iff (d : Declaration) :
    d ∈ paths.flatMap (declarationsAt h) ↔
      d.source ∈ paths ∧ Page.load h d.source = .ok d.page ∧ d.code ∈ d.page.record.codes := by
  rw [List.mem_flatMap]
  constructor
  · rintro ⟨p, hp, hd⟩
    obtain ⟨rfl, hload, hcode⟩ := (mem_declarationsAt_iff d).1 hd
    exact ⟨hp, hload, hcode⟩
  · rintro ⟨hp, hload, hcode⟩
    exact ⟨d.source, hp, (mem_declarationsAt_iff d).2 ⟨rfl, hload, hcode⟩⟩

/-! ## Reading pages -/

namespace ReadPage

variable {read : ReadPage} {pages : List ReadPage} {a : Abort}

/-- **What reading a page comes to**: a page, a cause to skip it, or an abort. -/
theorem ofPath_cases (h : Host) (p : Path) :
    (∃ page, Page.load h p = .ok page ∧ ofPath h p = .ok ⟨p, .ok page⟩) ∨
      (∃ e cause, Page.load h p = .error e ∧ (∀ a, e ≠ .page (.abort a)) ∧
        ofPath h p = .ok ⟨p, .error cause⟩) ∨
      ∃ a, Page.load h p = .error (.page (.abort a)) ∧ ofPath h p = .error a := by
  unfold ofPath
  cases Page.load h p with
  | ok page => exact .inl ⟨page, rfl, rfl⟩
  | error e =>
      cases e with
      | text e =>
          cases e with
          | file e => exact .inr (.inl ⟨_, .unreadable e, rfl, nofun, rfl⟩)
          | encoding m => exact .inr (.inl ⟨_, .encoding m, rfl, nofun, rfl⟩)
      | page e =>
          cases e with
          | fault f => exact .inr (.inl ⟨_, .fault f, rfl, nofun, rfl⟩)
          | abort a => exact .inr (.inr ⟨a, rfl, rfl⟩)

/-- What ends a build is an abort in a page. -/
theorem ofPath_eq_error_iff :
    ofPath h p = .error a ↔ Page.load h p = .error (.page (.abort a)) := by
  rcases ofPath_cases h p with ⟨page, hload, hread⟩ | ⟨e, cause, hload, hne, hread⟩ |
    ⟨b, hload, hread⟩
  · simp [hload, hread]
  · simp [hload, hread, hne a]
  · simp [hload, hread]

/-- The declarations of a page that has been read are those at its path. -/
theorem declarationsIn_events_of_ofPath (hread : ofPath h p = .ok read) :
    declarationsIn read.events = declarationsAt h p := by
  rcases ofPath_cases h p with ⟨page, hload, hok⟩ | ⟨e, cause, hload, -, hok⟩ | ⟨b, -, herror⟩
  · cases hok.symm.trans hread
    rw [declarationsAt_of_ok hload]
    exact List.filterMap_map.trans List.filterMap_some
  · cases hok.symm.trans hread
    simp only [declarationsAt, hload]
    rfl
  · cases herror.symm.trans hread

/-- A page that has been read is skipped exactly if nothing can be read at its path. -/
theorem skipsIn_events_of_ofPath (hread : ofPath h p = .ok read) :
    (skipsIn read.events).map (·.path) = if decodes h p then [] else [p] := by
  rcases ofPath_cases h p with ⟨page, hload, hok⟩ | ⟨e, cause, hload, -, hok⟩ | ⟨b, -, herror⟩
  · cases hok.symm.trans hread
    rw [if_pos (decodes_iff.2 ⟨page, hload⟩), List.map_eq_nil_iff]
    refine List.filterMap_eq_nil_iff.2 fun e he => ?_
    obtain ⟨d, -, rfl⟩ := List.mem_map.1 he
    rfl
  · cases hok.symm.trans hread
    simp only [decodes, hload]
    rfl
  · cases herror.symm.trans hread

/-! ## Reading several pages -/

theorem ofPaths_cons_of_ok (hread : ofPath h p = .ok read) (hrest : ofPaths h paths = .ok pages) :
    ofPaths h (p :: paths) = .ok (read :: pages) := by
  unfold ofPaths at hrest ⊢
  rw [List.mapM_cons, hread, hrest]
  rfl

theorem ofPaths_cons_of_error (hread : ofPath h p = .error a) :
    ofPaths h (p :: paths) = .error a := by
  unfold ofPaths
  rw [List.mapM_cons, hread]
  rfl

theorem ofPaths_cons_of_rest_error (hread : ofPath h p = .ok read)
    (hrest : ofPaths h paths = .error a) : ofPaths h (p :: paths) = .error a := by
  unfold ofPaths at hrest ⊢
  rw [List.mapM_cons, hread, hrest]
  rfl

theorem ofPaths_cons_eq_ok (hpages : ofPaths h (p :: paths) = .ok pages) :
    ∃ read rest, ofPath h p = .ok read ∧ ofPaths h paths = .ok rest ∧ pages = read :: rest := by
  cases hread : ofPath h p with
  | error a =>
      rw [ofPaths_cons_of_error hread] at hpages
      cases hpages
  | ok read =>
      cases hrest : ofPaths h paths with
      | error a =>
          rw [ofPaths_cons_of_rest_error hread hrest] at hpages
          cases hpages
      | ok rest =>
          rw [ofPaths_cons_of_ok hread hrest] at hpages
          cases hpages
          exact ⟨read, rest, rfl, rfl, rfl⟩

/-- The declarations that a build takes up are those of the files, in order. -/
theorem declarationsIn_events (hpages : ofPaths h paths = .ok pages) :
    declarationsIn (pages.flatMap events) = paths.flatMap (declarationsAt h) := by
  induction paths generalizing pages with
  | nil =>
      cases hpages
      rfl
  | cons p paths ih =>
      obtain ⟨read, rest, hread, hrest, rfl⟩ := ofPaths_cons_eq_ok hpages
      rw [List.flatMap_cons, List.flatMap_cons, ← ih hrest,
        ← declarationsIn_events_of_ofPath hread]
      exact List.filterMap_append

/-- The pages that a build skips are the files that cannot be read as pages, in order. -/
theorem skipsIn_events (hpages : ofPaths h paths = .ok pages) :
    (skipsIn (pages.flatMap events)).map (·.path) = paths.filter (!decodes h ·) := by
  induction paths generalizing pages with
  | nil =>
      cases hpages
      rfl
  | cons p paths ih =>
      obtain ⟨read, rest, hread, hrest, rfl⟩ := ofPaths_cons_eq_ok hpages
      rw [List.flatMap_cons, skipsIn, List.filterMap_append, List.map_append]
      refine (congr (congrArg _ (skipsIn_events_of_ofPath hread)) (ih hrest)).trans ?_
      rw [List.filter_cons]
      cases decodes h p <;> rfl

/-- Files can be read unless one of them has an abort. -/
theorem exists_ofPaths_iff : (∃ pages, ofPaths h paths = .ok pages) ↔
    ∀ p ∈ paths, ∀ a, Page.load h p ≠ .error (.page (.abort a)) := by
  induction paths with
  | nil => exact ⟨fun _ => nofun, fun _ => ⟨[], rfl⟩⟩
  | cons p paths ih =>
      rw [List.forall_mem_cons, ← ih]
      constructor
      · rintro ⟨pages, hpages⟩
        obtain ⟨read, rest, hread, hrest, -⟩ := ofPaths_cons_eq_ok hpages
        refine ⟨fun a hload => ?_, rest, hrest⟩
        cases hread.symm.trans (ofPath_eq_error_iff.2 hload)
      · rintro ⟨hload, rest, hrest⟩
        cases hread : ofPath h p with
        | error a => exact absurd (ofPath_eq_error_iff.1 hread) (hload a)
        | ok read => exact ⟨_, ofPaths_cons_of_ok hread hrest⟩

/-- Files that cannot be read end with the first abort among them. -/
theorem ofPaths_eq_error (herror : ofPaths h paths = .error a) :
    ∃ before p after, paths = before ++ p :: after ∧
      (∀ q ∈ before, ∀ b, Page.load h q ≠ .error (.page (.abort b))) ∧
      Page.load h p = .error (.page (.abort a)) := by
  induction paths with
  | nil => cases herror
  | cons p paths ih =>
      cases hread : ofPath h p with
      | error b =>
          cases (ofPaths_cons_of_error hread).symm.trans herror
          exact ⟨[], p, paths, rfl, nofun, ofPath_eq_error_iff.1 hread⟩
      | ok read =>
          cases hrest : ofPaths h paths with
          | ok rest => cases (ofPaths_cons_of_ok hread hrest).symm.trans herror
          | error b =>
              cases (ofPaths_cons_of_rest_error hread hrest).symm.trans herror
              obtain ⟨before, q, after, rfl, hbefore, hq⟩ := ih hrest
              have hp : ∀ b, Page.load h p ≠ .error (.page (.abort b)) := fun b hload => by
                cases hread.symm.trans (ofPath_eq_error_iff.2 hload)
              exact ⟨p :: before, q, after, rfl, List.forall_mem_cons.2 ⟨hp, hbefore⟩, hq⟩

end ReadPage

/-! ## Builds -/

namespace RegistryBuild

variable {directory : Path} {extension : String} {policy : DuplicatePolicy} {r : Registry}
  {pages : List ReadPage}

/-- A build merges the pages that it has selected and read. -/
theorem run_of_pages
    (hselect : Selection.pages h directory (Selection.pointed extension) = .ok paths)
    (hread : ReadPage.ofPaths h paths = .ok pages) (policy : DuplicatePolicy) :
    run h directory extension policy = ofPages policy directory pages := by
  simp only [run, hselect, hread]

/-- A build ends with the first abort in the pages that it has selected. -/
theorem run_of_abort {a : Abort}
    (hselect : Selection.pages h directory (Selection.pointed extension) = .ok paths)
    (hread : ReadPage.ofPaths h paths = .error a) (policy : DuplicatePolicy) :
    (run h directory extension policy).outcome = .error (.abort a) := by
  simp only [run, hselect, hread]

/-- A build that returns has selected, read and merged the pages of its directory. -/
theorem run_outcome_eq_ok (hr : (run h directory extension policy).outcome = .ok r) :
    ∃ paths pages, Selection.pages h directory (Selection.pointed extension) = .ok paths ∧
      ReadPage.ofPaths h paths = .ok pages ∧ (ofPages policy directory pages).outcome = .ok r := by
  cases hselect : Selection.pages h directory (Selection.pointed extension) with
  | error e =>
      simp only [run, hselect] at hr
      cases hr
  | ok paths =>
      cases hread : ReadPage.ofPaths h paths with
      | error a =>
          simp only [run, hselect, hread] at hr
          cases hr
      | ok pages =>
          rw [run_of_pages hselect hread] at hr
          exact ⟨paths, pages, rfl, hread, hr⟩

/-- A build that refuses nothing returns unless a page has an abort. -/
theorem exists_run (hpolicy : policy ≠ .refuse)
    (hselect : Selection.pages h directory (Selection.pointed extension) = .ok paths)
    (hload : ∀ p ∈ paths, ∀ a, Page.load h p ≠ .error (.page (.abort a))) :
    ∃ r, (run h directory extension policy).outcome = .ok r := by
  obtain ⟨pages, hread⟩ := ReadPage.exists_ofPaths_iff.2 hload
  obtain ⟨s, hs⟩ := BuildState.exists_follow hpolicy (.start directory pages.length)
    (pages.flatMap ReadPage.events)
  refine ⟨s.registry, ?_⟩
  rw [run_of_pages hselect hread]
  exact ofPages_outcome_eq_ok_iff.2 ⟨s, hs, rfl⟩

end RegistryBuild

/-! ## A small directory -/

namespace Shelf

/-- A page with a code list, a title and nothing else to say. -/
def page (title : String) (codes : List String) (body : String) : Page where
  record :=
    { tag := "t", title, brief := "", codes
      author := none, experimental := none, since := none, requires := none, parameters := none
      videos := none, group := none, notes := none, examples := none }
  body

/-- A file in the directory. -/
def file (name text : String) : List String × FileContent :=
  (["home", "docs", name], .bytes (Text.Utf8.encodeString text))

/-- A directory in which three pages share codes and a fourth one has no title. -/
def host : Host :=
  { directory := ["home"]
    tree := { files := [
      file "b.md" "---\ntag: t\ntitle: B\nbrief: ''\ncodes: [G1, g2]\n---\nbeta",
      file "a.md" "---\ntag: t\ntitle: A\nbrief: ''\ncodes: [G2, M3]\n---\nalpha",
      file "readme" "none",
      file "d.md" "---\ntag: t\nbrief: ''\ncodes: G4\n---\n",
      file "c.md" "---\ntag: t\ntitle: C\nbrief: ''\ncodes: [G2, G1]\n---\ngamma"] } }

/-- The directory. -/
def docs : Path := ⟨.relative, ["docs"]⟩

/-- The pages of the directory. -/
def files : List Path := ["a.md", "b.md", "c.md", "d.md"].map docs.child

theorem select : Selection.pages host docs (Selection.pointed "md") = .ok files := by
  have hpages := Selection.pages_of_found
    (show docs.check = .ok () by decide +kernel)
    (show host.list docs = .ok ["b.md", "a.md", "readme", "d.md", "c.md"] by decide +kernel)
    (show Selection.pageNames (Selection.isPage host docs (Selection.pointed "md"))
      ["b.md", "a.md", "readme", "d.md", "c.md"] = .ok ["b.md", "a.md", "d.md", "c.md"] by
      decide +kernel)
  have horder : Selection.inOrder ["b.md", "a.md", "d.md", "c.md"] =
      ["a.md", "b.md", "c.md", "d.md"] :=
    Selection.inOrder_eq (by decide) (by decide)
  rwa [horder] at hpages

-- One evaluation for the four pages: what they have in common is then evaluated once.
theorem loads :
    Page.load host (docs.child "a.md") = .ok (page "A" ["G2", "M3"] "alpha") ∧
      Page.load host (docs.child "b.md") = .ok (page "B" ["G1", "G2"] "beta") ∧
      Page.load host (docs.child "c.md") = .ok (page "C" ["G2", "G1"] "gamma") ∧
      Page.load host (docs.child "d.md") =
        .error (.page (.fault (.issues [⟨["title"], .missing⟩]))) := by
  decide +kernel

theorem load_a : Page.load host (docs.child "a.md") = .ok (page "A" ["G2", "M3"] "alpha") :=
  loads.1

theorem load_b : Page.load host (docs.child "b.md") = .ok (page "B" ["G1", "G2"] "beta") :=
  loads.2.1

theorem load_c : Page.load host (docs.child "c.md") = .ok (page "C" ["G2", "G1"] "gamma") :=
  loads.2.2.1

theorem load_d : Page.load host (docs.child "d.md") =
    .error (.page (.fault (.issues [⟨["title"], .missing⟩]))) :=
  loads.2.2.2

theorem not_decoded_d : ¬∃ page, Page.load host (docs.child "d.md") = .ok page := by
  simp [load_d]

theorem readable : ∀ p ∈ files, ∀ a, Page.load host p ≠ .error (.page (.abort a)) := by
  simp [files, load_a, load_b, load_c, load_d]

/-- What reading the pages of the directory gives. -/
def read : List ReadPage :=
  [⟨docs.child "a.md", .ok (page "A" ["G2", "M3"] "alpha")⟩,
    ⟨docs.child "b.md", .ok (page "B" ["G1", "G2"] "beta")⟩,
    ⟨docs.child "c.md", .ok (page "C" ["G2", "G1"] "gamma")⟩,
    ⟨docs.child "d.md", .error (.fault (.issues [⟨["title"], .missing⟩]))⟩]

theorem ofPaths_files : ReadPage.ofPaths host files = .ok read := by
  simp only [ReadPage.ofPaths, files, List.map_cons, List.map_nil, List.mapM_cons, List.mapM_nil,
    ReadPage.ofPath, load_a, load_b, load_c, load_d]
  rfl

/-- What the pages of the directory declare. -/
def declared : List Declaration :=
  ReadPage.declarationsOf (docs.child "a.md") (page "A" ["G2", "M3"] "alpha") ++
    ReadPage.declarationsOf (docs.child "b.md") (page "B" ["G1", "G2"] "beta") ++
    ReadPage.declarationsOf (docs.child "c.md") (page "C" ["G2", "G1"] "gamma")

theorem declarations : files.flatMap (declarationsAt host) = declared := by
  simp [files, declared, declarationsAt, load_a, load_b, load_c, load_d]

end Shelf

end OpcodeAtlas
