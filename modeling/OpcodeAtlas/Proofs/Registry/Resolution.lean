import OpcodeAtlas.Proofs.Registry.Reading

/-!
# Which page documents a code

A registry is a function of the declarations that its build took up: the codes stand in the order
of their first declarations, and each code is documented by the first page that declares it, or
by the last one (`DuplicatePolicy.owner?`). The three tables of a registry agree on this after
every event (`Registry.Resolves`, `BuildState.follow_resolves`).

The declarations of a directory come in the order of the names of its pages. So the owner of a
code is the page with the least name that declares it, or with the greatest one
(`Documents`, `RegistryBuild.run_resolves`).
-/

set_option autoImplicit false

namespace OpcodeAtlas

/-! ## Owners -/

namespace DuplicatePolicy

/-- The declaration by which a code is documented: the first one, or the last one. -/
def owner? (policy : DuplicatePolicy) (code : String) (ds : List Declaration) :
    Option Declaration :=
  match policy with
  | .lastWins => (ds.filter (·.code = code)).getLast?
  | _ => (ds.filter (·.code = code)).head?

variable {policy : DuplicatePolicy} {code : String} {ds : List Declaration} {d e : Declaration}

theorem owner?_mem (h : policy.owner? code ds = some d) : d ∈ ds ∧ d.code = code := by
  have hd : d ∈ ds.filter (·.code = code) := by
    cases policy with
    | lastWins => exact List.mem_of_getLast? h
    | firstWins => exact List.mem_of_head? h
    | refuse => exact List.mem_of_head? h
  simpa using List.mem_filter.1 hd

theorem owner?_eq_none_iff : policy.owner? code ds = none ↔ code ∉ ds.map (·.code) := by
  have hnil : policy.owner? code ds = none ↔ ds.filter (·.code = code) = [] := by
    cases policy with
    | lastWins => exact List.getLast?_eq_none_iff
    | firstWins => exact List.head?_eq_none_iff
    | refuse => exact List.head?_eq_none_iff
  rw [hnil, List.filter_eq_nil_iff]
  simp

/-- A declaration of another code changes no owner. -/
theorem owner?_concat_of_ne (h : d.code ≠ code) :
    policy.owner? code (ds ++ [d]) = policy.owner? code ds := by
  have hfilter : (ds ++ [d]).filter (·.code = code) = ds.filter (·.code = code) := by
    simp [List.filter_append, h]
  cases policy <;> simp only [owner?, hfilter]

/-- The first declaration of a code makes its page the owner. -/
theorem owner?_concat_of_none (h : policy.owner? d.code ds = none) :
    policy.owner? d.code (ds ++ [d]) = some d := by
  have hnil : ds.filter (·.code = d.code) = [] := by
    rw [owner?_eq_none_iff] at h
    simpa [List.filter_eq_nil_iff] using h
  cases policy <;> simp [owner?, hnil]

theorem owner?_firstWins_concat (h : firstWins.owner? d.code ds = some e) :
    firstWins.owner? d.code (ds ++ [d]) = some e := by
  simp only [owner?] at h
  simp [owner?, List.head?_append, h]

theorem owner?_lastWins_concat : lastWins.owner? d.code (ds ++ [d]) = some d := by
  simp [owner?]

end DuplicatePolicy

/-! ## The tables of a registry -/

/-- The tables of a registry are those that some declarations make: each has the codes in the
order of their first declarations, and the values of the page that owns the code. -/
structure Registry.Resolves (policy : DuplicatePolicy) (ds : List Declaration) (r : Registry) :
    Prop where
  order : r.order = (ds.map (·.code)).eraseDups
  bodies_codes : r.bodies.codes = r.order
  sources_codes : r.sources.codes = r.order
  entry : ∀ code, r.entries.get? code = (policy.owner? code ds).map Declaration.shared
  body : ∀ code, r.body code = (policy.owner? code ds).map (·.page.body)
  source : ∀ code, r.source code = (policy.owner? code ds).map (·.source)

namespace Registry.Resolves

variable {policy : DuplicatePolicy} {ds : List Declaration} {r : Registry} {d : Declaration}

theorem mem_order_iff (h : r.Resolves policy ds) (code : String) :
    code ∈ r.order ↔ code ∈ ds.map (·.code) := by
  rw [h.order, List.mem_eraseDups]

/-- A code has an owner exactly if it has been declared. -/
theorem source_eq_none_iff (h : r.Resolves policy ds) (code : String) :
    r.source code = none ↔ code ∉ ds.map (·.code) := by
  rw [h.source, Option.map_eq_none_iff, DuplicatePolicy.owner?_eq_none_iff]

/-- A code that has an owner was declared before. -/
theorem mem_codes_of_source (h : r.Resolves policy ds) {code : String} {owner : Path}
    (owned : r.source code = some owner) : code ∈ ds.map (·.code) :=
  Decidable.byContradiction fun hnot => by
    cases owned.symm.trans ((h.source_eq_none_iff code).2 hnot)

/-- A declaration that makes its page the owner is entered in all three tables. -/
theorem enter (h : r.Resolves policy ds)
    (howner : policy.owner? d.code (ds ++ [d]) = some d) :
    (r.enter d).Resolves policy (ds ++ [d]) := by
  have horder : (r.enter d).order = ((ds ++ [d]).map (·.code)).eraseDups := by
    rw [List.map_append, List.map_singleton, eraseDups_concat, ← h.order]
    simp only [← h.mem_order_iff]
    exact r.entries.codes_put d.code d.shared
  have hother : ∀ {α : Type} (f : Declaration → α) (t : CodeTable α),
      (∀ code, t.get? code = (policy.owner? code ds).map f) →
      ∀ code, (t.put d.code (f d)).get? code = (policy.owner? code (ds ++ [d])).map f := by
    intro α f t ht code
    rw [CodeTable.get?_put]
    by_cases hcode : code = d.code
    · rw [if_pos hcode, hcode, howner, Option.map_some]
    · rw [if_neg hcode, ht, DuplicatePolicy.owner?_concat_of_ne (Ne.symm hcode)]
  have hcodes : ∀ {α : Type} (a : α) (t : CodeTable α), t.codes = r.order →
      (t.put d.code a).codes = (r.enter d).order := by
    intro α a t ht
    rw [CodeTable.codes_put, ht]
    exact (r.entries.codes_put d.code d.shared).symm
  exact ⟨horder, hcodes _ _ h.bodies_codes, hcodes _ _ h.sources_codes,
    hother _ _ h.entry, hother _ _ h.body, hother _ _ h.source⟩

/-- A declaration that leaves its code with the owner changes no table. -/
theorem keep (h : r.Resolves policy ds) (hmem : d.code ∈ ds.map (·.code))
    (howner : policy.owner? d.code (ds ++ [d]) = policy.owner? d.code ds) :
    r.Resolves policy (ds ++ [d]) := by
  have hall : ∀ code, policy.owner? code (ds ++ [d]) = policy.owner? code ds := by
    intro code
    by_cases hcode : d.code = code
    · rw [← hcode, howner]
    · exact DuplicatePolicy.owner?_concat_of_ne hcode
  refine ⟨?_, h.bodies_codes, h.sources_codes, fun code => ?_, fun code => ?_, fun code => ?_⟩
  · rw [List.map_append, List.map_singleton, eraseDups_concat, if_pos hmem, h.order]
  · rw [hall, h.entry]
  · rw [hall, h.body]
  · rw [hall, h.source]

end Registry.Resolves

namespace BuildState

variable {policy : DuplicatePolicy} {s t : BuildState} {e : MergeEvent} {es : List MergeEvent}

/-- One event keeps the tables in agreement. -/
theorem resolves_of_effect (h : s.registry.Resolves policy (declarationsIn es))
    (heffect : Effect policy s e t) :
    t.registry.Resolves policy (declarationsIn (es ++ [e])) := by
  cases heffect with
  | skip p =>
      rw [declarationsIn_concat_skip]
      exact ⟨h.order, h.bodies_codes, h.sources_codes, h.entry, h.body, h.source⟩
  | enter d new =>
      rw [declarationsIn_concat_declare]
      refine h.enter (DuplicatePolicy.owner?_concat_of_none ?_)
      rwa [h.source, Option.map_eq_none_iff] at new
  | keep d owner owned first =>
      rw [declarationsIn_concat_declare]
      have hmem := h.mem_codes_of_source owned
      rw [h.source, Option.map_eq_some_iff] at owned
      obtain ⟨o, ho, -⟩ := owned
      have hkeep : policy.owner? d.code (declarationsIn es ++ [d]) =
          policy.owner? d.code (declarationsIn es) := by
        cases first
        rw [ho, DuplicatePolicy.owner?_firstWins_concat ho]
      have hr := h.keep hmem hkeep
      exact ⟨hr.order, hr.bodies_codes, hr.sources_codes, hr.entry, hr.body, hr.source⟩
  | replace d owner owned last =>
      rw [declarationsIn_concat_declare]
      have howner : policy.owner? d.code (declarationsIn es ++ [d]) = some d := by
        cases last
        exact DuplicatePolicy.owner?_lastWins_concat
      have hr := h.enter howner
      exact ⟨hr.order, hr.bodies_codes, hr.sources_codes, hr.entry, hr.body, hr.source⟩

/-- **After every event the tables are those of the declarations so far.** -/
theorem follow_resolves {directory : Path} {files : Nat}
    (h : follow policy (start directory files) es = .ok t) :
    t.registry.Resolves policy (declarationsIn es) := by
  refine follow_induction (motive := fun es s => s.registry.Resolves policy (declarationsIn es))
    ?_ (fun es s e t hs heffect => resolves_of_effect hs heffect) h
  have hnone : ∀ code, policy.owner? code (declarationsIn []) = none := fun code =>
    DuplicatePolicy.owner?_eq_none_iff.2 List.not_mem_nil
  refine ⟨rfl, rfl, rfl, fun code => ?_, fun code => ?_, fun code => ?_⟩ <;>
    (rw [hnone]; rfl)

end BuildState

/-! ## The pages of a directory -/

/-- The page at `p` is the one that documents a code: it declares it, and of the pages that do, it
has the least name where the first declaration counts, and the greatest one where the last does. -/
structure Documents (h : Host) (policy : DuplicatePolicy) (paths : List Path) (code : String)
    (p : Path) (page : Page) : Prop where
  selected : p ∈ paths
  decoded : Page.load h p = .ok page
  declared : code ∈ page.record.codes
  first : policy = .firstWins → ∀ q ∈ paths, ∀ other, Page.load h q = .ok other →
    code ∈ other.record.codes → p.name ≤ q.name
  last : policy = .lastWins → ∀ q ∈ paths, ∀ other, Page.load h q = .ok other →
    code ∈ other.record.codes → q.name ≤ p.name

section
variable {h : Host} {paths : List Path} {policy : DuplicatePolicy} {code : String}

/-- The declarations of pages in order come in the order of their files. -/
theorem declarations_sorted (hsorted : paths.Pairwise fun p q => p.name < q.name) :
    (paths.flatMap (declarationsAt h)).Pairwise fun d e => d.source.name ≤ e.source.name := by
  refine List.pairwise_flatMap.2 ⟨fun p _ => ?_, hsorted.imp fun {p q} hlt d hd e he => ?_⟩
  · refine List.pairwise_of_forall_mem_list fun d hd e he => ?_
    have hsource : d.source = e.source :=
      ((mem_declarationsAt_iff d).1 hd).1.trans ((mem_declarationsAt_iff e).1 he).1.symm
    exact hsource ▸ String.le_refl _
  · rw [((mem_declarationsAt_iff d).1 hd).1, ((mem_declarationsAt_iff e).1 he).1]
    exact (String.le_total _ _).resolve_right fun hle => String.not_lt.2 hle hlt

/-- The owner of a code among the declarations of a directory is the page that documents it. -/
theorem documents_of_owner (hsorted : paths.Pairwise fun p q => p.name < q.name)
    {d : Declaration} (howner : policy.owner? code (paths.flatMap (declarationsAt h)) = some d) :
    Documents h policy paths code d.source d.page := by
  obtain ⟨hd, rfl⟩ := DuplicatePolicy.owner?_mem howner
  obtain ⟨hselected, hdecoded, hdeclared⟩ := (mem_declarations_iff d).1 hd
  have hds := (declarations_sorted (h := h) hsorted).filter (·.code = d.code)
  -- Every other page that declares the code has a declaration of it.
  have hother : ∀ q ∈ paths, ∀ other, Page.load h q = .ok other → d.code ∈ other.record.codes →
      (⟨d.code, other, q⟩ : Declaration) ∈
        (paths.flatMap (declarationsAt h)).filter (·.code = d.code) := by
    intro q hq other hload hcode
    exact List.mem_filter.2 ⟨(mem_declarations_iff ⟨d.code, other, q⟩).2 ⟨hq, hload, hcode⟩,
      decide_eq_true rfl⟩
  refine ⟨hselected, hdecoded, hdeclared, ?_, ?_⟩
  · rintro rfl q hq other hload hcode
    have hmem := hother q hq other hload hcode
    obtain ⟨rest, hrest⟩ := List.head?_eq_some_iff.1 howner
    rw [hrest] at hmem hds
    rcases List.mem_cons.1 hmem with heq | hmem
    · have hname : q.name = d.source.name := congrArg (·.source.name) heq
      exact hname ▸ String.le_refl _
    · exact (List.pairwise_cons.1 hds).1 _ hmem
  · rintro rfl q hq other hload hcode
    have hmem := hother q hq other hload hcode
    obtain ⟨rest, hrest⟩ := List.getLast?_eq_some_iff.1 howner
    rw [hrest] at hmem hds
    rcases List.mem_append.1 hmem with hmem | hmem
    · exact (List.pairwise_append.1 hds).2.2 _ hmem _ List.mem_cons_self
    · have hname : q.name = d.source.name := congrArg (·.source.name) (List.mem_singleton.1 hmem)
      exact hname ▸ String.le_refl _

end

namespace RegistryBuild

variable {h : Host} {directory : Path} {extension : String} {policy : DuplicatePolicy}
  {r : Registry}

/-- A build that returns has the tables of the declarations of its pages. -/
theorem resolves_of_run (hr : (run h directory extension policy).outcome = .ok r) :
    ∃ paths, Selection.pages h directory (Selection.pointed extension) = .ok paths ∧
      r.Resolves policy (paths.flatMap (declarationsAt h)) := by
  obtain ⟨paths, pages, hselect, hread, hmerge⟩ := run_outcome_eq_ok hr
  obtain ⟨s, hfollow, rfl⟩ := ofPages_outcome_eq_ok_iff.1 hmerge
  refine ⟨paths, hselect, ?_⟩
  rw [← ReadPage.declarationsIn_events hread]
  exact BuildState.follow_resolves hfollow

/-- **Which page documents a code.** In a registry that a build returns, the codes are those that
a selected page declares, in the order of their first declarations, and all three tables have
them; the record, the body and the source of a code are those of the page that documents it. -/
theorem run_resolves (hr : (run h directory extension policy).outcome = .ok r) :
    ∃ paths, Selection.pages h directory (Selection.pointed extension) = .ok paths ∧
      (paths.Pairwise fun p q => p.name < q.name) ∧
      (∀ code, r.contains code = true ↔
        ∃ p ∈ paths, ∃ page, Page.load h p = .ok page ∧ code ∈ page.record.codes) ∧
      (∀ code, r.contains code = true → ∃ p page, Documents h policy paths code p page ∧
        r.lookup code = some page.record ∧ r.body code = some page.body ∧
        r.source code = some p) ∧
      r.bodies.codes = r.entries.codes ∧ r.sources.codes = r.entries.codes ∧
      r.order = ((paths.flatMap (declarationsAt h)).map (·.code)).eraseDups := by
  obtain ⟨paths, hselect, hresolves⟩ := resolves_of_run hr
  have hsorted := Selection.pages_sorted hselect
  have hcontains : ∀ code, r.contains code = true ↔
      ∃ d, policy.owner? code (paths.flatMap (declarationsAt h)) = some d := by
    intro code
    rw [Registry.contains, hresolves.entry, Option.isSome_map, Option.isSome_iff_exists]
  refine ⟨paths, hselect, hsorted, fun code => ?_, fun code hcode => ?_,
    hresolves.bodies_codes, hresolves.sources_codes, hresolves.order⟩
  · rw [hcontains, ← Option.ne_none_iff_exists', ne_eq, DuplicatePolicy.owner?_eq_none_iff,
      Decidable.not_not, List.mem_map]
    constructor
    · rintro ⟨d, hd, rfl⟩
      obtain ⟨hselected, hdecoded, hdeclared⟩ := (mem_declarations_iff d).1 hd
      exact ⟨d.source, hselected, d.page, hdecoded, hdeclared⟩
    · rintro ⟨p, hp, page, hload, hdeclared⟩
      exact ⟨⟨code, page, p⟩, (mem_declarations_iff ⟨code, page, p⟩).2 ⟨hp, hload, hdeclared⟩, rfl⟩
  · obtain ⟨d, howner⟩ := (hcontains code).1 hcode
    refine ⟨d.source, d.page, documents_of_owner hsorted howner, ?_, ?_, ?_⟩
    · rw [Registry.lookup, hresolves.entry, howner]
      rfl
    · rw [hresolves.body, howner]
      rfl
    · rw [hresolves.source, howner]
      rfl

/-- The last of three pages that declare a code documents it. -/
theorem run_resolves_shelf :
    ∃ r, (run Shelf.host Shelf.docs "md" .lastWins).outcome = .ok r ∧
      r.order = ["G2", "M3", "G1"] ∧ r.source "G2" = some (Shelf.docs.child "c.md") := by
  obtain ⟨r, hr⟩ : ∃ r, (run Shelf.host Shelf.docs "md" .lastWins).outcome = .ok r :=
    exists_run nofun Shelf.select Shelf.readable
  obtain ⟨paths, hselect, -, hcontains, hdocuments, -, -, horder⟩ := run_resolves hr
  cases Shelf.select.symm.trans hselect
  have hc : Shelf.docs.child "c.md" ∈ Shelf.files := by decide
  have hG2 : r.contains "G2" = true :=
    (hcontains "G2").2 ⟨_, hc, _, Shelf.load_c, by decide⟩
  obtain ⟨p, page, hdoc, -, -, hsource⟩ := hdocuments "G2" hG2
  have hlast := hdoc.last rfl _ hc _ Shelf.load_c (by decide)
  refine ⟨r, hr, ?_, ?_⟩
  · rw [horder, Shelf.declarations]
    decide
  · rw [hsource]
    have hselected := hdoc.selected
    simp only [Shelf.files, List.map_cons, List.map_nil, List.mem_cons, List.not_mem_nil,
      or_false] at hselected
    rcases hselected with rfl | rfl | rfl | rfl
    · exact absurd hlast (by decide)
    · exact absurd hlast (by decide)
    · rfl
    · cases Shelf.load_d.symm.trans hdoc.decoded

end RegistryBuild

end OpcodeAtlas
