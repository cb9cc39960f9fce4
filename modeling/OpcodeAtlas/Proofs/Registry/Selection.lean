import Mathlib.Data.List.Nodup
import OpcodeAtlas.Proofs.Sequence.Occurrence
import OpcodeAtlas.Registry.Selection

/-!
# Selected pages

The pages of a directory are its files with the extension asked for (`Selection.mem_pages`), each
of them once and in the order of their names (`Selection.pages_sorted`).
-/

set_option autoImplicit false

namespace OpcodeAtlas

@[simp] theorem Path.name_child (p : Path) (name : String) : (p.child name).name = name := by
  simp [Path.name, Path.child]

/-- A directory lists each name once. -/
theorem Host.nodup_list {h : Host} {p : Path} {listed : List String}
    (hlist : h.list p = .ok listed) : listed.Nodup := by
  unfold Host.list at hlist
  split at hlist
  · cases hlist
  · split at hlist
    · cases hlist
    · split at hlist
      · cases hlist
      · cases hlist
        exact nodup_eraseDups _

namespace Selection

/-! ## Names -/

section
variable {isPage : String → Except FileError Bool} {listed found : List String}

/-- The names of pages are found unless one of the names leaves open what it is the name of. -/
theorem pageNames_eq_ok_iff :
    pageNames isPage listed = .ok found ↔
      (∀ name ∈ listed, ∀ e, isPage name ≠ .error e) ∧
        found = listed.filter (isPage · = .ok true) := by
  induction listed generalizing found with
  | nil => simp [pageNames, eq_comm]
  | cons name rest ih =>
      rw [pageNames, List.forall_mem_cons]
      cases hname : isPage name with
      | error e => simp
      | ok page =>
          cases page with
          | false => simp [ih, hname]
          | true =>
              have hcons : (pageNames isPage rest).map (name :: ·) = .ok found ↔
                  ∃ names, pageNames isPage rest = .ok names ∧ name :: names = found := by
                cases pageNames isPage rest <;> simp [Except.map]
              simp only [hcons, ih]
              constructor
              · rintro ⟨names, ⟨hrest, rfl⟩, rfl⟩
                exact ⟨⟨nofun, hrest⟩, by simp [hname]⟩
              · rintro ⟨⟨-, hrest⟩, rfl⟩
                exact ⟨_, ⟨hrest, rfl⟩, by simp [hname]⟩

theorem pageNames_sublist (h : pageNames isPage listed = .ok found) : found.Sublist listed := by
  obtain ⟨-, rfl⟩ := pageNames_eq_ok_iff.1 h
  exact List.filter_sublist

theorem mem_pageNames (h : pageNames isPage listed = .ok found) (name : String) :
    name ∈ found ↔ name ∈ listed ∧ isPage name = .ok true := by
  obtain ⟨-, rfl⟩ := pageNames_eq_ok_iff.1 h
  rw [List.mem_filter, decide_eq_true_iff]

end

theorem inOrder_perm (names : List String) : (inOrder names).Perm names :=
  List.mergeSort_perm ..

theorem inOrder_sorted (names : List String) : (inOrder names).Pairwise (· ≤ ·) := by
  have hsorted : (inOrder names).Pairwise fun a b => decide (a ≤ b) = true := by
    refine List.pairwise_mergeSort (fun a b c hab hbc => ?_) (fun a b => ?_) names
    · exact decide_eq_true (String.le_trans (of_decide_eq_true hab) (of_decide_eq_true hbc))
    · rw [Bool.or_eq_true, decide_eq_true_iff, decide_eq_true_iff]
      exact String.le_total a b
  exact hsorted.imp fun h => of_decide_eq_true h

/-- Names in order are their only arrangement that is in order. -/
theorem inOrder_eq {names sorted : List String} (hperm : names.Perm sorted)
    (hsorted : sorted.Pairwise (· ≤ ·)) : inOrder names = sorted :=
  List.Perm.eq_of_pairwise (fun _ _ _ _ => String.le_antisymm) (inOrder_sorted names) hsorted
    ((inOrder_perm names).trans hperm)

/-- A name goes to its place among names in order. -/
theorem inOrder_cons {name : String} {found found' : List String} (hnodup : found'.Nodup)
    (hperm : found'.Perm (name :: found)) :
    ∃ before after, inOrder found = before ++ after ∧ inOrder found' = before ++ name :: after ∧
      (∀ b ∈ before, b < name) ∧ ∀ a ∈ after, name < a := by
  have hname : name ∈ inOrder found' :=
    (inOrder_perm found').mem_iff.2 (hperm.mem_iff.2 List.mem_cons_self)
  obtain ⟨before, after, hsplit⟩ := List.append_of_mem hname
  have hsorted : (before ++ name :: after).Pairwise (· ≤ ·) := hsplit ▸ inOrder_sorted found'
  have hdistinct : (before ++ name :: after).Nodup :=
    hsplit ▸ (inOrder_perm found').nodup_iff.2 hnodup
  -- Without the name, what is left is in order and has the other names.
  have hrest : found.Perm (before ++ after) := by
    refine List.Perm.cons_inv (hperm.symm.trans ?_)
    exact (inOrder_perm found').symm.trans (hsplit ▸ List.perm_middle)
  have hrest_sorted : (before ++ after).Pairwise (· ≤ ·) :=
    hsorted.sublist ((List.Sublist.refl before).append (List.sublist_cons_self name after))
  have hlt : ∀ a b : String, a ≤ b → a ≠ b → a < b := fun a b hle hne =>
    Decidable.byContradiction fun hnot => hne (String.le_antisymm hle (String.not_lt.1 hnot))
  refine ⟨before, after, inOrder_eq hrest hrest_sorted, hsplit, fun b hb => ?_, fun a ha => ?_⟩
  · refine hlt b name ((List.pairwise_append.1 hsorted).2.2 b hb name List.mem_cons_self) ?_
    exact (List.pairwise_append.1 hdistinct).2.2 b hb name List.mem_cons_self
  · have hle := List.pairwise_cons.1 (List.pairwise_append.1 hsorted).2.1
    have hne := List.nodup_cons.1 (List.pairwise_append.1 hdistinct).2.1
    exact hlt name a (hle.1 a ha) fun heq => hne.1 (heq ▸ ha)

/-! ## Pages -/

variable {h : Host} {directory : Path} {extension : String} {paths : List Path}

theorem pages_eq_ok (hpages : pages h directory extension = .ok paths) :
    ∃ listed found, h.list directory = .ok listed ∧
      pageNames (isPage h directory extension) listed = .ok found ∧
      paths = (inOrder found).map directory.child := by
  unfold pages at hpages
  split at hpages
  · cases hpages
  · cases hpages
  · next listed _ hlist =>
    split at hpages
    · cases hpages
    · next found hfound =>
      cases hpages
      exact ⟨listed, found, hlist, hfound, rfl⟩

/-- The pages that are found among the listed names are selected, in order. -/
theorem pages_of_found {listed found : List String} (hcheck : directory.check = .ok ())
    (hlist : h.list directory = .ok listed)
    (hfound : pageNames (isPage h directory extension) listed = .ok found) :
    pages h directory extension = .ok ((inOrder found).map directory.child) := by
  simp only [pages, hcheck, hlist, hfound]

/-- Pages are selected if the directory can be listed and each name tells what it is the name of. -/
theorem pages_eq_ok_iff :
    pages h directory extension = .ok paths ↔
      directory.check = .ok () ∧ ∃ listed, h.list directory = .ok listed ∧
        (∀ name ∈ listed, ∀ e, isPage h directory extension name ≠ .error e) ∧
        paths = (inOrder (listed.filter (isPage h directory extension · = .ok true))).map
          directory.child := by
  constructor
  · intro hpages
    have hcheck : directory.check = .ok () := by
      cases hcheck : directory.check with
      | ok u => rfl
      | error f =>
          simp only [pages, hcheck] at hpages
          cases hpages
    obtain ⟨listed, found, hlist, hfound, rfl⟩ := pages_eq_ok hpages
    obtain ⟨htold, rfl⟩ := pageNames_eq_ok_iff.1 hfound
    exact ⟨hcheck, listed, hlist, htold, rfl⟩
  · rintro ⟨hcheck, listed, hlist, htold, rfl⟩
    exact pages_of_found hcheck hlist (pageNames_eq_ok_iff.2 ⟨htold, rfl⟩)

theorem isPage_eq_true_iff (h : Host) (directory : Path) (extension name : String) :
    isPage h directory extension name = .ok true ↔
      (directory.child name).lowerExtension = Text.LetterCase.lowerString extension ∧
        h.isFile (directory.child name) = .ok true := by
  simp only [isPage]
  split
  · next hext => exact ⟨fun hfile => ⟨hext, hfile⟩, fun hfile => hfile.2⟩
  · next hext => exact ⟨nofun, fun hfile => absurd hfile.1 hext⟩

/-- **The pages of a directory** are its files with the extension. -/
theorem mem_pages (hpages : pages h directory extension = .ok paths) (p : Path) :
    p ∈ paths ↔ ∃ listed, h.list directory = .ok listed ∧
      ∃ name ∈ listed, p = directory.child name ∧
        p.lowerExtension = Text.LetterCase.lowerString extension ∧ h.isFile p = .ok true := by
  obtain ⟨listed, found, hlist, hfound, rfl⟩ := pages_eq_ok hpages
  rw [List.mem_map]
  constructor
  · rintro ⟨name, hname, rfl⟩
    obtain ⟨hlisted, hpage⟩ := (mem_pageNames hfound name).1 ((inOrder_perm found).mem_iff.1 hname)
    exact ⟨listed, hlist, name, hlisted, rfl, (isPage_eq_true_iff ..).1 hpage⟩
  · rintro ⟨listed', hlist', name, hlisted, rfl, hpage⟩
    cases hlist.symm.trans hlist'
    refine ⟨name, (inOrder_perm found).mem_iff.2 ?_, rfl⟩
    exact (mem_pageNames hfound name).2 ⟨hlisted, (isPage_eq_true_iff ..).2 hpage⟩

/-- **The pages of a directory are in the order of their names**, each of them once. -/
theorem pages_sorted (hpages : pages h directory extension = .ok paths) :
    paths.Pairwise fun p q => p.name < q.name := by
  obtain ⟨listed, found, hlist, hfound, rfl⟩ := pages_eq_ok hpages
  have hnodup : (inOrder found).Nodup :=
    (inOrder_perm found).nodup_iff.2
      ((Host.nodup_list hlist).sublist (pageNames_sublist hfound))
  refine List.pairwise_map.2 (((inOrder_sorted found).and hnodup).imp ?_)
  intro a b hab
  rw [Path.name_child, Path.name_child]
  refine Decidable.byContradiction fun hlt => hab.2 ?_
  exact String.le_antisymm hab.1 (String.not_lt.1 hlt)

theorem nodup_pages (hpages : pages h directory extension = .ok paths) : paths.Nodup :=
  (pages_sorted hpages).imp fun {p q} (hlt : p.name < q.name) (heq : p = q) =>
    String.lt_irrefl q.name (heq ▸ hlt)

end Selection

end OpcodeAtlas
