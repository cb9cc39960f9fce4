import Mathlib.Data.List.Forall2
import OpcodeAtlas.Proofs.Number.Reading
import OpcodeAtlas.Proofs.Page.Codes
import OpcodeAtlas.Proofs.Schema.Issues

/-!
# Which lists of codes a page may have

The codes of a header are a list of entries, or one entry by itself (`Codes.IsList`). An entry is a
text or a number that can be written, and not a switch (`Codes.IsEntry`). Such a list is taken just
if some entry is more than blanks, and the codes are then the first occurrences of the standard
forms (`Codes.ofValue_eq_ok_iff`).

Whatever else is wrong with a header, there is an issue with its codes just if they are no such list
(`Record.forall_not_concerns_codes_iff`).
-/

set_option autoImplicit false

namespace OpcodeAtlas

namespace Codes

/-- An entry of a list of codes, with its text: a whole number has no more digits than can be
written, and a switch is no entry. -/
inductive IsEntry : Value → String → Prop where
  | text (s : String) : IsEntry (.text s) s
  | int {n : Int} (h : (Nat.toDigits 10 n.natAbs).length ≤ digitLimit) :
      IsEntry (.int n) (toString n)
  | float (x : Binary64) : IsEntry (.float x) x.valueText

/-- A list of codes, with the texts of its entries: one entry by itself, or the items of a list or
of a fixed row. -/
inductive IsList : Value → List String → Prop where
  | single {v : Value} {s : String} (h : IsEntry v s) : IsList v [s]
  | row {v : Value} {items : List Value} {texts : List String} (hitems : v.items? = some items)
      (h : List.Forall₂ IsEntry items texts) : IsList v texts

variable {v : Value} {s : String} {items : List Value} {texts codes : List String}

theorem entryText_eq_ok_iff : entryText v = .ok s ↔ IsEntry v s := by
  constructor
  · intro h
    cases v with
    | text t =>
        cases h
        exact .text s
    | int n =>
        rw [entryText.eq_def] at h
        dsimp only at h
        cases hwritten : Number.writeInteger n with
        | error f =>
            rw [hwritten] at h
            cases h
        | ok t =>
            rw [hwritten] at h
            cases h
            obtain ⟨hdigits, rfl⟩ := Number.writeInteger_eq_ok_iff.1 hwritten
            exact .int hdigits
    | float x =>
        cases h
        exact .float x
    | _ => cases h
  · intro h
    cases h with
    | text => rfl
    | @int n hdigits =>
        rw [entryText.eq_def]
        simp only [Number.writeInteger_eq_ok_iff.2 ⟨hdigits, rfl⟩]
    | float x => rfl

/-- Entries have texts one by one. -/
theorem mapM_entryText_eq_ok_iff :
    items.mapM entryText = .ok texts ↔ List.Forall₂ IsEntry items texts := by
  induction items generalizing texts with
  | nil =>
      rw [List.forall₂_nil_left_iff]
      constructor
      · intro h
        cases h
        rfl
      · rintro rfl
        rfl
  | cons v items ih =>
      rw [List.mapM_cons]
      constructor
      · intro h
        cases hv : entryText v with
        | error cause =>
            rw [hv] at h
            cases h
        | ok s =>
            cases hrest : items.mapM entryText with
            | error cause =>
                rw [hv, hrest] at h
                cases h
            | ok rest =>
                rw [hv, hrest] at h
                cases h
                exact .cons (entryText_eq_ok_iff.1 hv) (ih.1 hrest)
      · intro h
        cases h with
        | cons hv hrest =>
            rw [entryText_eq_ok_iff.2 hv, ih.2 hrest]
            rfl

/-- A single value is its own entry; anything else has the entries of a row, if it is one. -/
theorem entries?_cases (v : Value) :
    entries? v = some [v] ∧ v.items? = none ∨ entries? v = v.items? ∧ ∀ s, ¬IsEntry v s := by
  cases v with
  | text s => exact .inl ⟨rfl, rfl⟩
  | int n => exact .inl ⟨rfl, rfl⟩
  | float x => exact .inl ⟨rfl, rfl⟩
  | bool on => exact .inl ⟨rfl, rfl⟩
  | _ => exact .inr ⟨rfl, nofun⟩

/-- A list of codes is what has entries, all of which have texts. -/
theorem isList_iff :
    IsList v texts ↔ ∃ items, entries? v = some items ∧ items.mapM entryText = .ok texts := by
  simp only [mapM_entryText_eq_ok_iff]
  rcases entries?_cases v with ⟨hentries, hnone⟩ | ⟨hentries, hno⟩
  · constructor
    · intro h
      cases h with
      | single hs => exact ⟨[v], hentries, .cons hs .nil⟩
      | row hitems _ => cases hnone.symm.trans hitems
    · rintro ⟨items, hitems, hall⟩
      cases hentries.symm.trans hitems
      cases hall with
      | cons hs hrest =>
          cases hrest
          exact .single hs
  · constructor
    · intro h
      cases h with
      | single hs => exact absurd hs (hno _)
      | row hitems hall => exact ⟨_, hentries.trans hitems, hall⟩
    · rintro ⟨items, hitems, hall⟩
      exact .row (hentries.symm.trans hitems) hall

theorem ofTexts_ne_nil_iff : ofTexts texts ≠ [] ↔ ∃ s ∈ texts, normal s ≠ "" := by
  constructor
  · intro hne
    obtain ⟨code, hcode⟩ := List.exists_mem_of_ne_nil _ hne
    rw [ofTexts_eq, List.mem_eraseDups, List.mem_filter, List.mem_map] at hcode
    obtain ⟨⟨s, hs, rfl⟩, hblank⟩ := hcode
    exact ⟨s, hs, of_decide_eq_true hblank⟩
  · rintro ⟨s, hs, hblank⟩
    apply List.ne_nil_of_mem
    rw [ofTexts_eq, List.mem_eraseDups]
    exact List.mem_filter.2 ⟨List.mem_map_of_mem hs, decide_eq_true hblank⟩

/-- **The codes of a header**: a list some entry of which is more than blanks, and then the first
occurrences of the standard forms. -/
theorem ofValue_eq_ok_iff :
    ofValue v = .ok codes ↔ ∃ texts, IsList v texts ∧ (∃ s ∈ texts, normal s ≠ "") ∧
      codes = ((texts.map normal).filter (· ≠ "")).eraseDups := by
  simp only [isList_iff, ← ofTexts_eq, ← ofTexts_ne_nil_iff]
  constructor
  · intro h
    obtain ⟨items, texts, hitems, htexts, rfl⟩ := ofValue_eq_ok h
    refine ⟨texts, ⟨items, hitems, htexts⟩, ?_, rfl⟩
    -- Entries that are all blank would be refused.
    intro hnil
    have hv : v ≠ .null := by
      rintro rfl
      cases h
    rw [ofValue.eq_def] at h
    simp only [hitems, htexts, hnil] at h
    cases v <;> first | exact hv rfl | cases h
  · rintro ⟨texts, ⟨items, hitems, htexts⟩, hne, rfl⟩
    have hempty : (ofTexts texts).isEmpty = false := by simpa using hne
    rw [ofValue.eq_def]
    cases v with
    | null => cases hitems
    | _ => simp only [hitems, htexts, hempty]; rfl

/-- Codes that are not taken have an issue. -/
theorem issues_eq_nil_iff : (ofValue v).issues = [] ↔ ∃ codes, ofValue v = .ok codes := by
  constructor
  · intro hnil
    -- Every refusal is an issue, so that only the codes themselves are left.
    unfold ofValue at hnil ⊢
    split at hnil
    · cases hnil
    · split at hnil
      · cases hnil
      next items hitems =>
        split at hnil
        · cases hnil
        next texts htexts =>
          dsimp only at hnil
          split at hnil
          · cases hnil
          next hempty =>
            simp only [hempty]
            exact ⟨_, rfl⟩
  · rintro ⟨codes, hcodes⟩
    rw [hcodes, Checked.issues_ok]

end Codes

/-! ## The codes among the parts of a header -/

namespace Record

open Schema

variable {fields : Entries} {i : Issue}

/-- Whether there is an issue with the codes of a header is told by the codes alone. -/
theorem forall_not_concerns_codes_iff :
    (∀ i ∈ (ofFields fields).issues, ¬i.Concerns "codes") ↔
      (required fields "codes" Codes.ofValue).issues = [] := by
  simp only [ofFields, Checked.issues_also, Checked.issues_form, List.nil_append,
    List.mem_append, or_assoc]
  constructor
  · intro hnone
    apply List.eq_nil_iff_forall_not_mem.2
    intro i hi
    apply hnone i
    · simp only [hi, true_or, or_true]
    · exact Checked.concerns_of_mem_under hi
  · intro hnil i hi hcodes
    have hother {α : Type} {part : String} {c : Checked α} (hne : part ≠ "codes")
        (hmem : i ∈ (Checked.under part c).issues) : False :=
      Checked.not_mem_under_of_concerns hcodes hne hmem
    rw [hnil] at hi
    rcases hi with hi | hi | hi | hi | hi | hi | hi | hi | hi | hi | hi | hi | hi
    -- The codes have no issue, and what is found in another part does not concern them.
    all_goals first
      | exact hother (by decide) hi
      | cases hi

/-- **Codes are taken just if they are a list some entry of which is more than blanks.** -/
theorem codes_taken_iff {v : Value} (hget : fields.get? "codes" = some v) :
    (∀ i ∈ (ofFields fields).issues, ¬i.Concerns "codes") ↔
      ∃ texts, Codes.IsList v texts ∧ ∃ s ∈ texts, Codes.normal s ≠ "" := by
  have hpart : (required fields "codes" Codes.ofValue).issues = [] ↔
      (Codes.ofValue v).issues = [] := by
    rw [required, hget, Checked.issues_under, List.map_eq_nil_iff]
  rw [forall_not_concerns_codes_iff, hpart, Codes.issues_eq_nil_iff]
  constructor
  · rintro ⟨codes, hcodes⟩
    obtain ⟨texts, hlist, hblank, -⟩ := Codes.ofValue_eq_ok_iff.1 hcodes
    exact ⟨texts, hlist, hblank⟩
  · rintro ⟨texts, hlist, hblank⟩
    exact ⟨_, Codes.ofValue_eq_ok_iff.2 ⟨texts, hlist, hblank, rfl⟩⟩

/-- The codes of a record are those of the list in its header. -/
theorem exists_isList_of_ofFields {v : Value} {r : Record} (hget : fields.get? "codes" = some v)
    (hr : ofFields fields = .ok r) : ∃ texts, Codes.IsList v texts ∧
      r.codes = ((texts.map Codes.normal).filter (· ≠ "")).eraseDups := by
  obtain ⟨w, hw, hcodes⟩ := required_eq_ok_iff.1 (fits_of_ofFields hr).codes
  cases hget.symm.trans hw
  obtain ⟨texts, hlist, -, hcodes⟩ := Codes.ofValue_eq_ok_iff.1 hcodes
  exact ⟨texts, hlist, hcodes⟩

end Record

end OpcodeAtlas
