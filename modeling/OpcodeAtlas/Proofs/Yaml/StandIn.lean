import Mathlib.Data.Finset.Card
import OpcodeAtlas.Yaml.Graph

/-!
# Mappings that stand for scalars

A mapping stands for the node under its value key, which may be a mapping that stands for another
node again. The text of the scalar at the end of such a row is looked for through as many mappings
as there are nodes. That is far enough: only nodes of the graph stand for others, so a row that is
longer than the graph comes back to one of its nodes and goes round from there. The text is out of
reach exactly if the row has no end (`text_eq_endless_iff`), and looking further would change no
answer (`textFrom_eq_text`).
-/

set_option autoImplicit false

namespace OpcodeAtlas.Yaml.Graph

variable {g : Graph} {id : NodeId} {m n : Nat}

/-! ## Rows of mappings -/

/-- The node that a number of mappings lead to, each to the next. -/
def heir? (g : Graph) : Nat → NodeId → Option NodeId
  | 0, id => some id
  | n + 1, id => (g.standIn? id).bind (g.heir? n)

theorem heir?_add (m n : Nat) (id : NodeId) :
    g.heir? (m + n) id = (g.heir? m id).bind (g.heir? n) := by
  induction m generalizing id with
  | zero => rw [Nat.zero_add, heir?, Option.bind_some]
  | succ m ih =>
      rw [Nat.succ_add, heir?, heir?, Option.bind_assoc]
      congr 1
      exact funext ih

theorem isSome_heir?_of_le (hmn : m ≤ n) (hn : (g.heir? n id).isSome) :
    (g.heir? m id).isSome := by
  obtain ⟨k, rfl⟩ := Nat.exists_eq_add_of_le hmn
  rw [heir?_add] at hn
  exact Option.isSome_of_isSome_bind hn

/-- Only nodes of the graph stand for others. -/
theorem lt_size_of_standIn? (h : (g.standIn? id).isSome) : id < g.nodes.size := by
  by_contra hid
  have hentries : g.entries id = [] := by
    rw [entries, entries?, content, node, Array.getElem?_eq_none (Nat.le_of_not_lt hid)]
    rfl
  rw [standIn?, hentries] at h
  cases h

/-- Where a row goes on, it is at a node of the graph. -/
theorem exists_heir?_lt (h : (g.heir? (n + 1) id).isSome) :
    ∃ a < g.nodes.size, g.heir? n id = some a := by
  obtain ⟨a, ha⟩ := Option.isSome_iff_exists.1 (isSome_heir?_of_le n.le_succ h)
  rw [heir?_add, ha, Option.bind_some, heir?] at h
  exact ⟨a, lt_size_of_standIn? (Option.isSome_of_isSome_bind h), ha⟩

/-- A row that is longer than the graph comes back to one of its nodes. -/
theorem exists_heir?_eq (h : (g.heir? (g.nodes.size + 1) id).isSome) :
    ∃ i j, i < j ∧ j ≤ g.nodes.size ∧ g.heir? i id = g.heir? j id := by
  let nodes := (Finset.range g.nodes.size).image some
  have hcard : nodes.card < (Finset.range (g.nodes.size + 1)).card := by
    have hle : nodes.card ≤ (Finset.range g.nodes.size).card := Finset.card_image_le
    rw [Finset.card_range] at hle ⊢
    exact Nat.lt_succ_of_le hle
  have hmaps : Set.MapsTo (g.heir? · id) (Finset.range (g.nodes.size + 1)) nodes := by
    intro k hk
    have hle : k + 1 ≤ g.nodes.size + 1 := Finset.mem_range.1 hk
    obtain ⟨a, ha, hk⟩ := exists_heir?_lt (isSome_heir?_of_le hle h)
    exact Finset.mem_image.2 ⟨a, Finset.mem_range.2 ha, hk.symm⟩
  obtain ⟨i, hi, j, hj, hne, heq⟩ := Finset.exists_ne_map_eq_of_card_lt_of_maps_to hcard hmaps
  rcases Nat.lt_or_gt_of_ne hne with hlt | hgt
  · exact ⟨i, j, hlt, Nat.le_of_lt_succ (Finset.mem_range.1 hj), heq⟩
  · exact ⟨j, i, hgt, Nat.le_of_lt_succ (Finset.mem_range.1 hi), heq.symm⟩

/-- **A row that is longer than the graph has no end.** -/
theorem isSome_heir? (h : (g.heir? (g.nodes.size + 1) id).isSome) (n : Nat) :
    (g.heir? n id).isSome := by
  obtain ⟨i, j, hij, hj, heq⟩ := exists_heir?_eq h
  induction n using Nat.strong_induction_on with
  | _ n ih =>
      rcases Nat.lt_or_ge n j with hn | hn
      · exact isSome_heir?_of_le (by omega) h
      · -- What is behind the second visit of the node is behind the first one.
        obtain ⟨k, rfl⟩ := Nat.exists_eq_add_of_le hn
        rw [heir?_add, ← heq, ← heir?_add]
        exact ih (i + k) (by omega)

/-! ## Texts at their ends -/

/-- The text is out of reach if the row goes on behind the mappings that may be passed. -/
theorem textFrom_eq_endless_iff :
    g.textFrom n id = .error (.scalar .endless) ↔ (g.heir? n id).isSome := by
  induction n generalizing id with
  | zero => exact iff_of_true rfl rfl
  | succ n ih =>
      rw [textFrom, heir?]
      cases g.standIn? id with
      | some other => exact ih
      | none =>
          refine iff_of_false ?_ Bool.false_ne_true
          cases g.content id with
          | scalar text => exact nofun
          | sequence items => exact nofun
          | mapping entries => exact nofun

/-- A text that is reached is reached through more mappings as well. -/
theorem textFrom_succ (h : g.textFrom n id ≠ .error (.scalar .endless)) :
    g.textFrom (n + 1) id = g.textFrom n id := by
  induction n generalizing id with
  | zero => exact absurd rfl h
  | succ n ih =>
      rw [textFrom] at h
      rw [textFrom, textFrom]
      cases hstand : g.standIn? id with
      | some other =>
          rw [hstand] at h
          exact ih h
      | none =>
          cases g.content id with
          | scalar text => rfl
          | sequence items => rfl
          | mapping entries => rfl

/-- **The text of a node is out of reach exactly if the row of mappings from it has no end.** -/
theorem text_eq_endless_iff :
    g.text id = .error (.scalar .endless) ↔ ∀ n, ∃ other, g.heir? n id = some other := by
  simp only [← Option.isSome_iff_exists]
  rw [text, textFrom_eq_endless_iff]
  exact ⟨isSome_heir?, fun h => h _⟩

/-- **Looking through more mappings than there are nodes changes no answer.** -/
theorem textFrom_eq_text (hn : g.nodes.size < n) : g.textFrom n id = g.text id := by
  by_cases hend : g.text id = .error (.scalar .endless)
  · rw [hend]
    exact textFrom_eq_endless_iff.2 (isSome_heir? (textFrom_eq_endless_iff.1 hend) n)
  · obtain ⟨k, rfl⟩ := Nat.exists_eq_add_of_le hn
    clear hn
    induction k with
    | zero => rfl
    | succ k ih =>
        rw [← ih] at hend ⊢
        exact textFrom_succ hend

end OpcodeAtlas.Yaml.Graph
