import OpcodeAtlas.Program.Merge

/-!
# The order of display items

Items are ordered by their line, and on one line every comment stands in front of every
instruction (`DisplayItem.NotAfter`). Two items of one kind on one line are not told apart, so the
order alone does not fix a sequence. Together with the order of the comments among themselves and
of the instructions among themselves it does (`eq_of_inOrder`), because a comment and an
instruction never tie.

A stable sort keeps each kind in the order in which it arrives, provided that this kind arrives in
order (`filterMap_mergeSort`). So a sequence in order is the stable sort of every sequence that
holds the same comments and the same instructions, each in the same order (`eq_stableSort`).
-/

set_option autoImplicit false

namespace OpcodeAtlas

/-! ## The two kinds of items -/

/-- The comment that an item is. -/
def DisplayItem.comment? : DisplayItem → Option Comment
  | .comment c => some c
  | .instruction _ => none

/-- The instruction that an item is. -/
def DisplayItem.instruction? : DisplayItem → Option Instruction
  | .comment _ => none
  | .instruction i => some i

/-- The comments among items. -/
def commentsIn (xs : List DisplayItem) : List Comment := xs.filterMap DisplayItem.comment?

/-- The instructions among items. -/
def instructionsIn (xs : List DisplayItem) : List Instruction :=
  xs.filterMap DisplayItem.instruction?

@[simp] theorem commentsIn_nil : commentsIn [] = [] := rfl

@[simp] theorem instructionsIn_nil : instructionsIn [] = [] := rfl

@[simp] theorem commentsIn_comment (c : Comment) (xs : List DisplayItem) :
    commentsIn (.comment c :: xs) = c :: commentsIn xs := rfl

@[simp] theorem commentsIn_instruction (i : Instruction) (xs : List DisplayItem) :
    commentsIn (.instruction i :: xs) = commentsIn xs := rfl

@[simp] theorem instructionsIn_comment (c : Comment) (xs : List DisplayItem) :
    instructionsIn (.comment c :: xs) = instructionsIn xs := rfl

@[simp] theorem instructionsIn_instruction (i : Instruction) (xs : List DisplayItem) :
    instructionsIn (.instruction i :: xs) = i :: instructionsIn xs := rfl

@[simp] theorem commentsIn_append (xs ys : List DisplayItem) :
    commentsIn (xs ++ ys) = commentsIn xs ++ commentsIn ys := List.filterMap_append

@[simp] theorem instructionsIn_append (xs ys : List DisplayItem) :
    instructionsIn (xs ++ ys) = instructionsIn xs ++ instructionsIn ys := List.filterMap_append

theorem mem_commentsIn {xs : List DisplayItem} {c : Comment} :
    c ∈ commentsIn xs ↔ .comment c ∈ xs := by
  induction xs with
  | nil => simp
  | cons x xs ih => cases x <;> simp [ih]

theorem mem_instructionsIn {xs : List DisplayItem} {i : Instruction} :
    i ∈ instructionsIn xs ↔ .instruction i ∈ xs := by
  induction xs with
  | nil => simp
  | cons x xs ih => cases x <;> simp [ih]

/-- Every item is a comment or an instruction. -/
theorem length_commentsIn_add_instructionsIn (xs : List DisplayItem) :
    (commentsIn xs).length + (instructionsIn xs).length = xs.length := by
  induction xs with
  | nil => rfl
  | cons x xs ih =>
      cases x with
      | comment c =>
          simp only [commentsIn_comment, instructionsIn_comment, List.length_cons]
          omega
      | instruction i =>
          simp only [commentsIn_instruction, instructionsIn_instruction, List.length_cons]
          omega

theorem eq_nil_of_kinds {xs : List DisplayItem} (hc : commentsIn xs = [])
    (hi : instructionsIn xs = []) : xs = [] := by
  have h := length_commentsIn_add_instructionsIn xs
  rw [hc, hi] at h
  exact List.eq_nil_of_length_eq_zero h.symm

/-- Comments with the instructions behind them, as items. -/
def itemsOf (comments : List Comment) (instructions : List Instruction) : List DisplayItem :=
  comments.map .comment ++ instructions.map .instruction

/-- The items of a source line, comments first. -/
def SourceLine.items (l : SourceLine) : List DisplayItem := itemsOf l.comments l.instructions

@[simp] theorem commentsIn_itemsOf (cs : List Comment) (is : List Instruction) :
    commentsIn (itemsOf cs is) = cs := by
  simp [commentsIn, itemsOf, List.filterMap_map, Function.comp_def, DisplayItem.comment?]

@[simp] theorem instructionsIn_itemsOf (cs : List Comment) (is : List Instruction) :
    instructionsIn (itemsOf cs is) = is := by
  simp [instructionsIn, itemsOf, List.filterMap_map, Function.comp_def, DisplayItem.instruction?]

theorem commentsIn_flatMap {α : Type} (f : α → List DisplayItem) (ls : List α) :
    commentsIn (ls.flatMap f) = ls.flatMap fun l => commentsIn (f l) := by
  induction ls with
  | nil => rfl
  | cons l ls ih => simp [ih]

theorem instructionsIn_flatMap {α : Type} (f : α → List DisplayItem) (ls : List α) :
    instructionsIn (ls.flatMap f) = ls.flatMap fun l => instructionsIn (f l) := by
  induction ls with
  | nil => rfl
  | cons l ls ih => simp [ih]

theorem commentsIn_items (ls : List SourceLine) :
    commentsIn (ls.flatMap SourceLine.items) = ls.flatMap SourceLine.comments := by
  rw [commentsIn_flatMap]
  simp only [SourceLine.items, commentsIn_itemsOf]

theorem instructionsIn_items (ls : List SourceLine) :
    instructionsIn (ls.flatMap SourceLine.items) = ls.flatMap SourceLine.instructions := by
  rw [instructionsIn_flatMap]
  simp only [SourceLine.items, instructionsIn_itemsOf]

/-! ## The order -/

namespace DisplayItem

/-- On one line, comments come first. -/
def rank : DisplayItem → Nat
  | .comment _ => 0
  | .instruction _ => 1

/-- An item may stand in front of another one: its line is smaller, or the line is the same and it
is no instruction in front of a comment. -/
def NotAfter (x y : DisplayItem) : Prop :=
  x.line < y.line ∨ (x.line = y.line ∧ x.rank ≤ y.rank)

instance (x y : DisplayItem) : Decidable (x.NotAfter y) :=
  inferInstanceAs (Decidable (x.line < y.line ∨ (x.line = y.line ∧ x.rank ≤ y.rank)))

theorem NotAfter.trans {x y z : DisplayItem} (hxy : x.NotAfter y) (hyz : y.NotAfter z) :
    x.NotAfter z := by
  unfold NotAfter at *
  omega

theorem NotAfter.total (x y : DisplayItem) : x.NotAfter y ∨ y.NotAfter x := by
  unfold NotAfter
  omega

@[simp] theorem notAfter_comment_comment (c d : Comment) :
    (DisplayItem.comment c).NotAfter (.comment d) ↔ c.line ≤ d.line := by
  simp only [NotAfter, DisplayItem.line, rank]
  omega

@[simp] theorem notAfter_instruction_instruction (i j : Instruction) :
    (DisplayItem.instruction i).NotAfter (.instruction j) ↔ i.line ≤ j.line := by
  simp only [NotAfter, DisplayItem.line, rank]
  omega

/-- A comment may stand in front of the instructions of its own line. -/
@[simp] theorem notAfter_comment_instruction (c : Comment) (i : Instruction) :
    (DisplayItem.comment c).NotAfter (.instruction i) ↔ c.line ≤ i.line := by
  simp only [NotAfter, DisplayItem.line, rank]
  omega

/-- An instruction may stand in front of comments of later lines only. -/
@[simp] theorem notAfter_instruction_comment (i : Instruction) (c : Comment) :
    (DisplayItem.instruction i).NotAfter (.comment c) ↔ i.line < c.line := by
  simp only [NotAfter, DisplayItem.line, rank]
  omega

end DisplayItem

/-- Items of which none stands in front of one that it must come after. -/
abbrev InOrder (xs : List DisplayItem) : Prop := xs.Pairwise DisplayItem.NotAfter

theorem InOrder.comments {xs : List DisplayItem} (h : InOrder xs) :
    (commentsIn xs).Pairwise fun c d => c.line ≤ d.line := by
  refine List.Pairwise.filterMap DisplayItem.comment? (fun x y hxy c hx d hy => ?_) h
  cases x with
  | instruction i => cases hx
  | comment c =>
      cases y with
      | instruction j => cases hy
      | comment d =>
          cases hx
          cases hy
          exact (DisplayItem.notAfter_comment_comment c d).1 hxy

theorem InOrder.instructions {xs : List DisplayItem} (h : InOrder xs) :
    (instructionsIn xs).Pairwise fun i j => i.line ≤ j.line := by
  refine List.Pairwise.filterMap DisplayItem.instruction? (fun x y hxy i hx j hy => ?_) h
  cases x with
  | comment c => cases hx
  | instruction i =>
      cases y with
      | comment d => cases hy
      | instruction j =>
          cases hx
          cases hy
          exact (DisplayItem.notAfter_instruction_instruction i j).1 hxy

/-- An item may stand in front of all items as soon as it may stand in front of those of each
kind. -/
theorem notAfter_of_kinds {x : DisplayItem} {xs : List DisplayItem}
    (hc : ∀ c ∈ commentsIn xs, x.NotAfter (.comment c))
    (hi : ∀ i ∈ instructionsIn xs, x.NotAfter (.instruction i)) : ∀ y ∈ xs, x.NotAfter y := by
  intro y hy
  cases y with
  | comment c => exact hc c (mem_commentsIn.2 hy)
  | instruction i => exact hi i (mem_instructionsIn.2 hy)

/-- Two sequences in order with the same items do not start with items of different kinds: each of
the two items would have to come after the other one. -/
theorem not_inOrder_heads_differ {c : Comment} {i : Instruction} {xs ys : List DisplayItem}
    (hx : InOrder (.comment c :: xs)) (hy : InOrder (.instruction i :: ys))
    (hc : commentsIn (.comment c :: xs) = commentsIn (.instruction i :: ys))
    (hi : instructionsIn (.comment c :: xs) = instructionsIn (.instruction i :: ys)) : False := by
  rw [commentsIn_comment, commentsIn_instruction] at hc
  rw [instructionsIn_comment, instructionsIn_instruction] at hi
  have hcy : .comment c ∈ ys := mem_commentsIn.1 (hc ▸ List.mem_cons_self)
  have hix : .instruction i ∈ xs := mem_instructionsIn.1 (hi ▸ List.mem_cons_self)
  have hci := (List.pairwise_cons.1 hx).1 _ hix
  have hic := (List.pairwise_cons.1 hy).1 _ hcy
  rw [DisplayItem.notAfter_comment_instruction] at hci
  rw [DisplayItem.notAfter_instruction_comment] at hic
  omega

/-- **A sequence in order is fixed by its comments and its instructions.** -/
theorem eq_of_inOrder {xs ys : List DisplayItem} (hx : InOrder xs) (hy : InOrder ys)
    (hc : commentsIn xs = commentsIn ys) (hi : instructionsIn xs = instructionsIn ys) :
    xs = ys := by
  induction xs generalizing ys with
  | nil => exact (eq_nil_of_kinds hc.symm hi.symm).symm
  | cons x xs ih =>
      cases ys with
      | nil => exact eq_nil_of_kinds hc hi
      | cons y ys =>
          have hxs := hx.of_cons
          have hys := hy.of_cons
          cases x with
          | comment c =>
              cases y with
              | comment d =>
                  obtain ⟨rfl, hcs⟩ := List.cons.inj hc
                  rw [ih hxs hys hcs hi]
              | instruction j => exact (not_inOrder_heads_differ hx hy hc hi).elim
          | instruction i =>
              cases y with
              | comment d => exact (not_inOrder_heads_differ hy hx hc.symm hi.symm).elim
              | instruction j =>
                  obtain ⟨rfl, his⟩ := List.cons.inj hi
                  rw [ih hxs hys hc his]

/-! ## Stable sorting -/

section StableSort

variable {α β : Type} {le : α → α → Bool} {f : α → Option β} {g : β → α}

/-- The elements of one kind are a sublist. The kind is given by a partial inverse `f` of `g`. -/
theorem map_filterMap_sublist (hgf : ∀ a b, f a = some b → g b = a) (l : List α) :
    ((l.filterMap f).map g).Sublist l := by
  induction l with
  | nil => exact List.Sublist.slnil
  | cons a l ih =>
      cases ha : f a with
      | none =>
          rw [List.filterMap_cons_none ha]
          exact ih.cons a
      | some b =>
          rw [List.filterMap_cons_some ha, List.map_cons, hgf a b ha]
          exact ih.cons_cons a

/-- **A stable sort keeps every kind that arrives in order.** -/
theorem filterMap_mergeSort (trans : ∀ a b c, le a b → le b c → le a c)
    (total : ∀ a b, le a b || le b a) (hfg : ∀ b, f (g b) = some b)
    (hgf : ∀ a b, f a = some b → g b = a) {l : List α}
    (h : ((l.filterMap f).map g).Pairwise fun a b => le a b) :
    (l.mergeSort le).filterMap f = l.filterMap f := by
  -- A sorted sublist survives the sort, and it is as long as all that the sort has of this kind.
  have hsub : ((l.filterMap f).map g).Sublist (l.mergeSort le) :=
    List.sublist_mergeSort trans total h (map_filterMap_sublist hgf l)
  have hkind : ((l.filterMap f).map g).filterMap f = l.filterMap f := by
    rw [List.filterMap_map, show f ∘ g = some from funext hfg, List.filterMap_some]
  have hlen : (l.filterMap f).length = ((l.mergeSort le).filterMap f).length :=
    ((List.mergeSort_perm l le).filterMap f).length_eq.symm
  rw [← hkind] at hlen
  exact ((hsub.filterMap f).eq_of_length hlen).symm.trans hkind

end StableSort

/-- The stable sort of items by line, comments first. -/
def stableSort (xs : List DisplayItem) : List DisplayItem :=
  xs.mergeSort fun x y => decide (x.NotAfter y)

theorem decide_notAfter_trans (x y z : DisplayItem) (hxy : decide (x.NotAfter y) = true)
    (hyz : decide (y.NotAfter z) = true) : decide (x.NotAfter z) = true :=
  decide_eq_true ((of_decide_eq_true hxy).trans (of_decide_eq_true hyz))

theorem decide_notAfter_total (x y : DisplayItem) :
    (decide (x.NotAfter y) || decide (y.NotAfter x)) = true := by
  simpa using DisplayItem.NotAfter.total x y

theorem inOrder_stableSort (xs : List DisplayItem) : InOrder (stableSort xs) :=
  (List.pairwise_mergeSort decide_notAfter_trans decide_notAfter_total xs).imp of_decide_eq_true

theorem commentsIn_stableSort {xs : List DisplayItem}
    (h : (commentsIn xs).Pairwise fun c d => c.line ≤ d.line) :
    commentsIn (stableSort xs) = commentsIn xs := by
  refine filterMap_mergeSort decide_notAfter_trans decide_notAfter_total
    (g := DisplayItem.comment) (fun c => rfl) ?_ ?_
  · intro x c hx
    cases x with
    | comment d => exact congrArg DisplayItem.comment (Option.some.inj hx).symm
    | instruction i => cases hx
  · refine List.pairwise_map.2 (h.imp fun {c d} hcd => ?_)
    exact decide_eq_true ((DisplayItem.notAfter_comment_comment c d).2 hcd)

theorem instructionsIn_stableSort {xs : List DisplayItem}
    (h : (instructionsIn xs).Pairwise fun i j => i.line ≤ j.line) :
    instructionsIn (stableSort xs) = instructionsIn xs := by
  refine filterMap_mergeSort decide_notAfter_trans decide_notAfter_total
    (g := DisplayItem.instruction) (fun i => rfl) ?_ ?_
  · intro x i hx
    cases x with
    | comment c => cases hx
    | instruction j => exact congrArg DisplayItem.instruction (Option.some.inj hx).symm
  · refine List.pairwise_map.2 (h.imp fun {i j} hij => ?_)
    exact decide_eq_true ((DisplayItem.notAfter_instruction_instruction i j).2 hij)

/-- **A sequence in order is the stable sort of all that hold its items.** The comments and the
instructions must have arrived in order, each kind by itself; between the kinds any order of
arrival will do. -/
theorem eq_stableSort {xs ys : List DisplayItem} (hx : InOrder xs)
    (hc : commentsIn xs = commentsIn ys) (hi : instructionsIn xs = instructionsIn ys)
    (hcs : (commentsIn ys).Pairwise fun c d => c.line ≤ d.line)
    (his : (instructionsIn ys).Pairwise fun i j => i.line ≤ j.line) : xs = stableSort ys := by
  refine eq_of_inOrder hx (inOrder_stableSort ys) ?_ ?_
  · rw [hc, commentsIn_stableSort hcs]
  · rw [hi, instructionsIn_stableSort his]

end OpcodeAtlas
