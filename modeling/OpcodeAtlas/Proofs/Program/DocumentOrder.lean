import OpcodeAtlas.Proofs.Merge.Sorting

/-!
# Document order of a program

Reading a program moves the comments of lines without instructions into a later source line, and
the merge moves them back. The two cancel out: the display items of a program are the items of its
physical lines, one line after the other, and on each line the comments in front of the
instructions (`Program.displayItems_of_read`).

Both sides are sequences in order with the same comments and the same instructions. For the lines
read one by one this is plain, since everything on line `k` carries the number `k`
(`inOrder_contentsFrom`). For the source lines it is what makes the merge a sort: comments wait
only for lines behind them, so no comment lies in front of an instruction of an earlier source
line (`orderly_sourceLines`).
-/

set_option autoImplicit false

namespace OpcodeAtlas

/-! ## What one line says -/

namespace LineContent

/-- What a line says, as items. -/
def items (c : LineContent) : List DisplayItem := itemsOf c.comments c.instructions

/-- All that a line says carries the number `line`. -/
structure On (line : Int) (content : LineContent) : Prop where
  comments : ∀ c ∈ content.comments, c.line = line
  instructions : ∀ i ∈ content.instructions, i.line = line

theorem On.line_items {line : Int} {content : LineContent} (h : content.On line) :
    ∀ x ∈ content.items, x.line = line := by
  intro x hx
  rcases List.mem_append.1 hx with hx | hx
  · obtain ⟨c, hc, rfl⟩ := List.mem_map.1 hx
    exact h.comments c hc
  · obtain ⟨i, hi, rfl⟩ := List.mem_map.1 hx
    exact h.instructions i hi

/-- The items of one line are in order, because its comments come first. -/
theorem On.inOrder_items {line : Int} {content : LineContent} (h : content.On line) :
    InOrder content.items := by
  refine List.pairwise_append.2 ⟨?_, ?_, ?_⟩
  · refine List.pairwise_map.2 (List.pairwise_of_forall_mem_list fun c hc d hd => ?_)
    have hline : c.line = d.line := (h.comments c hc).trans (h.comments d hd).symm
    exact (DisplayItem.notAfter_comment_comment c d).2 (Int.le_of_eq hline)
  · refine List.pairwise_map.2 (List.pairwise_of_forall_mem_list fun i hi j hj => ?_)
    have hline : i.line = j.line := (h.instructions i hi).trans (h.instructions j hj).symm
    exact (DisplayItem.notAfter_instruction_instruction i j).2 (Int.le_of_eq hline)
  · intro x hx y hy
    obtain ⟨c, hc, rfl⟩ := List.mem_map.1 hx
    obtain ⟨i, hi, rfl⟩ := List.mem_map.1 hy
    have hline : c.line = i.line := (h.comments c hc).trans (h.instructions i hi).symm
    exact (DisplayItem.notAfter_comment_instruction c i).2 (Int.le_of_eq hline)

end LineContent

theorem PlacedPiece.line_comment? {line : Int} {p : PlacedPiece} {c : Comment}
    (h : p.comment? line = some c) : c.line = line := by
  unfold PlacedPiece.comment? at h
  split at h
  · cases h
    rfl
  · cases h

theorem PlacedPiece.line_opened? {line : Int} {p : PlacedPiece} {i : Instruction}
    (h : p.opened? line = some i) : i.line = line := by
  unfold PlacedPiece.opened? at h
  split at h
  · cases h
    rfl
  · cases h

/-- Arguments do not change the line of the instruction that is open. -/
theorem line_gatherInstructions {line : Int} {current : Option Instruction}
    (ps : List PlacedPiece) (h : ∀ i, current = some i → i.line = line) :
    ∀ i ∈ gatherInstructions line current ps, i.line = line := by
  induction ps generalizing current with
  | nil => exact fun i hi => h i (Option.mem_toList.1 hi)
  | cons p ps ih =>
      intro i hi
      rw [gatherInstructions] at hi
      split at hi
      next opened hp =>
        -- A code closes the instruction that is open and opens one on the same line.
        rcases List.mem_append.1 hi with hi | hi
        · exact h i (Option.mem_toList.1 hi)
        · refine ih (fun j hj => ?_) i hi
          cases hj
          exact PlacedPiece.line_opened? hp
      next hp =>
        split at hi
        next a ha =>
          -- An argument goes to the instruction that is open.
          refine ih (fun j hj => ?_) i hi
          obtain ⟨j', hj', rfl⟩ := Option.map_eq_some_iff.1 hj
          exact h j' hj'
        next ha => exact ih h i hi

theorem contentOf_on (line offset : Int) (ps : List Piece) :
    (contentOf line offset ps).On line := by
  constructor
  · intro c hc
    obtain ⟨p, -, hp⟩ := List.mem_filterMap.1 hc
    exact PlacedPiece.line_comment? hp
  · exact line_gatherInstructions _ nofun

theorem readLine_eq_ok {s : List Char} (h : (pieces false s).fault = none)
    (line offset : Int) :
    readLine s line offset = .ok (contentOf line offset (pieces false s).pieces) := by
  simp only [readLine, h]

/-! ## The lines of a text, read one by one -/

/-- What lines say that are read one by one: the first has the number `number` and starts at
`offset`. -/
def contentsFrom (number offset : Int) : List (List Char) → List LineContent
  | [] => []
  | raw :: rest =>
    contentOf number offset (pieces false (Text.body raw)).pieces ::
      contentsFrom (number + 1) (offset + raw.length) rest

theorem length_contentsFrom (number offset : Int) (raws : List (List Char)) :
    (contentsFrom number offset raws).length = raws.length := by
  induction raws generalizing number offset with
  | nil => rfl
  | cons raw rest ih => rw [contentsFrom, List.length_cons, List.length_cons, ih]

/-- The line at position `k` has the number `number + k`, and all lines in front of it lie between
`offset` and its start. -/
theorem getElem?_contentsFrom (number offset : Int) (raws : List (List Char)) (k : Nat) :
    (contentsFrom number offset raws)[k]? = raws[k]?.map fun raw =>
      contentOf (number + k) (offset + (raws.take k).flatten.length)
        (pieces false (Text.body raw)).pieces := by
  induction raws generalizing number offset k with
  | nil => rfl
  | cons raw rest ih =>
      cases k with
      | zero => simp [contentsFrom]
      | succ k =>
          rw [contentsFrom, List.getElem?_cons_succ, List.getElem?_cons_succ, ih,
            List.take_succ_cons, List.flatten_cons, List.length_append]
          congr 1
          funext line
          congr 1
          · omega
          · omega

theorem on_contentsFrom (number offset : Int) (raws : List (List Char)) :
    ∀ content ∈ contentsFrom number offset raws, ∃ line, number ≤ line ∧ content.On line := by
  induction raws generalizing number offset with
  | nil => exact nofun
  | cons raw rest ih =>
      intro content hc
      rcases List.mem_cons.1 hc with rfl | hc
      · exact ⟨number, Int.le_refl number, contentOf_on number offset _⟩
      · obtain ⟨line, hline, hon⟩ := ih (number + 1) (offset + raw.length) content hc
        exact ⟨line, by omega, hon⟩

theorem le_line_contentsFrom (number offset : Int) (raws : List (List Char)) :
    ∀ x ∈ (contentsFrom number offset raws).flatMap LineContent.items, number ≤ x.line := by
  intro x hx
  obtain ⟨content, hc, hx⟩ := List.mem_flatMap.1 hx
  obtain ⟨line, hline, hon⟩ := on_contentsFrom number offset raws content hc
  rw [hon.line_items x hx]
  exact hline

/-- **Lines read one by one are in order.** -/
theorem inOrder_contentsFrom (number offset : Int) (raws : List (List Char)) :
    InOrder ((contentsFrom number offset raws).flatMap LineContent.items) := by
  induction raws generalizing number offset with
  | nil => exact List.Pairwise.nil
  | cons raw rest ih =>
      have hon := contentOf_on number offset (pieces false (Text.body raw)).pieces
      rw [contentsFrom, List.flatMap_cons]
      refine List.pairwise_append.2 ⟨hon.inOrder_items, ih _ _, fun x hx y hy => ?_⟩
      -- Between two lines the numbers alone decide.
      have hx := hon.line_items x hx
      have hy := le_line_contentsFrom (number + 1) (offset + raw.length) rest y hy
      exact Or.inl (by omega)

theorem commentsIn_contents (contents : List LineContent) :
    commentsIn (contents.flatMap LineContent.items) =
      contents.flatMap LineContent.comments := by
  rw [commentsIn_flatMap]
  simp only [LineContent.items, commentsIn_itemsOf]

theorem instructionsIn_contents (contents : List LineContent) :
    instructionsIn (contents.flatMap LineContent.items) =
      contents.flatMap LineContent.instructions := by
  rw [instructionsIn_flatMap]
  simp only [LineContent.items, instructionsIn_itemsOf]

/-- The comments of lines read one by one lie on these lines. -/
theorem le_line_comments (number offset : Int) (raws : List (List Char)) :
    ∀ c ∈ (contentsFrom number offset raws).flatMap LineContent.comments, number ≤ c.line := by
  intro c hc
  rw [← commentsIn_contents] at hc
  exact le_line_contentsFrom number offset raws _ (mem_commentsIn.1 hc)

/-! ## The source lines of a text -/

namespace ReadingEvent

theorem line?_notes (notes : List Note) (events : List ReadingEvent) :
    (notes.map ReadingEvent.note ++ events).filterMap line? = events.filterMap line? := by
  rw [List.filterMap_append, List.filterMap_map]
  simp [Function.comp_def, line?]

theorem fault?_notes (notes : List Note) (events : List ReadingEvent) :
    (notes.map ReadingEvent.note ++ events).findSome? fault? = events.findSome? fault? := by
  induction notes with
  | nil => rfl
  | cons n notes ih => exact ih

end ReadingEvent

/-- The source lines among the events of a reading. -/
def sourceLines (number offset : Int) (waiting : Option Waiting) (raws : List (List Char)) :
    List SourceLine :=
  (readingFrom number offset waiting raws).filterMap ReadingEvent.line?

/-- No code number on any of the lines is beyond the digit limit. -/
def Readable (raws : List (List Char)) : Prop :=
  ∀ raw ∈ raws, (pieces false (Text.body raw)).fault = none

/-- The three things that can become of a line that is read: it completes a source line, its
comments wait, or nothing of it is left. -/
theorem sourceLines_cons {raw : List Char} (h : (pieces false (Text.body raw)).fault = none)
    (number offset : Int) (waiting : Option Waiting) (rest : List (List Char)) :
    sourceLines number offset waiting (raw :: rest) =
      let content := contentOf number offset (pieces false (Text.body raw)).pieces
      if !content.instructions.isEmpty then
        ⟨⟨number, Waiting.startOr waiting offset, offset + (Text.body raw).length⟩,
            Waiting.commentsOf waiting ++ content.comments, content.instructions⟩ ::
          sourceLines (number + 1) (offset + raw.length) none rest
      else if !content.comments.isEmpty then
        sourceLines (number + 1) (offset + raw.length)
          (some (Waiting.add waiting content.comments number offset
            (offset + (Text.body raw).length))) rest
      else sourceLines (number + 1) (offset + raw.length) waiting rest := by
  unfold sourceLines
  rw [readingFrom]
  simp only [h, ReadingEvent.line?_notes]
  split
  · rfl
  split <;> rfl

/-- A reading ends with the first fault on its lines. -/
theorem fault?_readingFrom (number offset : Int) (waiting : Option Waiting)
    (raws : List (List Char)) :
    (readingFrom number offset waiting raws).findSome? ReadingEvent.fault? =
      raws.findSome? fun raw => (pieces false (Text.body raw)).fault := by
  induction raws generalizing number offset waiting with
  | nil =>
      cases waiting with
      | none => rfl
      | some w => rfl
  | cons raw rest ih =>
      rw [readingFrom, List.findSome?_cons]
      simp only [ReadingEvent.fault?_notes]
      cases (pieces false (Text.body raw)).fault with
      | some f => rfl
      | none =>
          dsimp only
          split
          · exact ih _ _ none
          split
          · exact ih _ _ _
          · exact ih _ _ waiting

/-- A reading has no fault if and only if all of its lines can be read. -/
theorem readable_iff {number offset : Int} {waiting : Option Waiting} {raws : List (List Char)} :
    (readingFrom number offset waiting raws).findSome? ReadingEvent.fault? = none ↔
      Readable raws := by
  rw [fault?_readingFrom]
  exact List.findSome?_eq_none_iff

theorem Waiting.commentsOf_add (waiting : Option Waiting) (comments : List Comment)
    (line start stop : Int) :
    Waiting.commentsOf (some (Waiting.add waiting comments line start stop)) =
      Waiting.commentsOf waiting ++ comments := by
  cases waiting <;> rfl

/-- Source lines hold the comments that were waiting and then those of the lines of a text, and the
instructions of these lines; and every comment lies behind the instructions of all earlier source
lines. -/
structure Regroups (waiting : Option Waiting) (contents : List LineContent)
    (ls : List SourceLine) : Prop where
  comments : ls.flatMap SourceLine.comments =
    Waiting.commentsOf waiting ++ contents.flatMap LineContent.comments
  instructions : ls.flatMap SourceLine.instructions =
    contents.flatMap LineContent.instructions
  apart : ls.Pairwise fun l l' => ∀ i ∈ l.instructions, ∀ c ∈ l'.comments, i.line < c.line

/-- **Reading regroups the lines of a text.** -/
theorem regroups_sourceLines {raws : List (List Char)} (h : Readable raws)
    (number offset : Int) (waiting : Option Waiting) :
    Regroups waiting (contentsFrom number offset raws)
      (sourceLines number offset waiting raws) := by
  induction raws generalizing number offset waiting with
  | nil =>
      cases waiting with
      | none => exact ⟨rfl, rfl, List.Pairwise.nil⟩
      | some w => exact ⟨rfl, rfl, List.pairwise_singleton _ _⟩
  | cons raw rest ih =>
      have hfault := h raw List.mem_cons_self
      have ih := ih (fun raw' hraw => h raw' (List.mem_cons_of_mem raw hraw)) (number + 1)
        (offset + raw.length)
      have hon := contentOf_on number offset (pieces false (Text.body raw)).pieces
      rw [sourceLines_cons hfault, contentsFrom]
      -- Of what the line says, only its number matters from here on.
      generalize contentOf number offset (pieces false (Text.body raw)).pieces = content at hon ⊢
      dsimp only
      split
      · -- The line completes a source line.
        have hrest := ih none
        refine ⟨?_, ?_, List.pairwise_cons.2 ⟨fun l hl i hi c hc => ?_, hrest.apart⟩⟩
        · rw [List.flatMap_cons, List.flatMap_cons, hrest.comments, List.append_assoc]
          rfl
        · rw [List.flatMap_cons, List.flatMap_cons, hrest.instructions]
        · -- The comments of later source lines stem from later lines, since none waits.
          have hmem : c ∈ (sourceLines (number + 1) (offset + raw.length) none rest).flatMap
              SourceLine.comments := List.mem_flatMap.2 ⟨l, hl, hc⟩
          rw [hrest.comments] at hmem
          have hline := le_line_comments (number + 1) (offset + raw.length) rest c hmem
          have hi := hon.instructions i hi
          omega
      next hi =>
        have hi : content.instructions = [] := by simpa using hi
        split
        · -- The comments wait, so they move on with those that were waiting.
          have hrest := ih (some (Waiting.add waiting content.comments number offset
            (offset + (Text.body raw).length)))
          refine ⟨?_, ?_, hrest.apart⟩
          · rw [hrest.comments, Waiting.commentsOf_add, List.flatMap_cons, List.append_assoc]
          · rw [hrest.instructions, List.flatMap_cons, hi]
            rfl
        next hc =>
          -- Nothing is left of the line.
          have hc : content.comments = [] := by simpa using hc
          have hrest := ih waiting
          refine ⟨?_, ?_, hrest.apart⟩
          · rw [hrest.comments, List.flatMap_cons, hc]
            rfl
          · rw [hrest.instructions, List.flatMap_cons, hi]
            rfl

/-! ## The display items of a text -/

/-- What is known of the source lines of a text that starts on a positive line: a merge of them is
a sort. -/
theorem orderly_sourceLines {raws : List (List Char)} (h : Readable raws) {number : Int}
    (hnumber : 1 ≤ number) (offset : Int) :
    Merge.Orderly [] [] (sourceLines number offset none raws) := by
  have hr := regroups_sourceLines h number offset none
  have horder := inOrder_contentsFrom number offset raws
  refine ⟨?_, ?_, nofun, hr.apart, fun c hc => ?_⟩
  · rw [List.nil_append, hr.comments, Waiting.commentsOf, List.nil_append, ← commentsIn_contents]
    exact horder.comments
  · rw [List.nil_append, hr.instructions, ← instructionsIn_contents]
    exact horder.instructions
  · rw [List.nil_append, hr.comments, Waiting.commentsOf, List.nil_append] at hc
    exact Int.le_trans hnumber (le_line_comments number offset raws c hc)

/-- **Reading and merging cancel out.** -/
theorem displayItems_sourceLines {raws : List (List Char)} (h : Readable raws) {number : Int}
    (hnumber : 1 ≤ number) (offset : Int) :
    displayItems (sourceLines number offset none raws) =
      (contentsFrom number offset raws).flatMap LineContent.items := by
  have hr := regroups_sourceLines h number offset none
  -- Two sequences in order with the same comments and the same instructions are equal.
  refine eq_of_inOrder (Merge.inOrder_displayItems (orderly_sourceLines h hnumber offset))
    (inOrder_contentsFrom number offset raws) ?_ ?_
  · rw [commentsIn_displayItems, hr.comments, commentsIn_contents]
    rfl
  · rw [instructionsIn_displayItems, hr.instructions, instructionsIn_contents]

/-- The contents of the lines of a text: each line is read by itself, without the line ends that
close it, as line `k + 1` if `k` lines precede it, and from the place behind these lines. -/
structure ReadLineByLine (text : List Char) (contents : List LineContent) : Prop where
  length : contents.length = (Text.lines text).length
  content : ∀ (k : Nat) raw, (Text.lines text)[k]? = some raw →
    ∃ content, contents[k]? = some content ∧
      readLine (Text.body raw) (k + 1) ((Text.lines text).take k).flatten.length = .ok content

theorem readLineByLine_contentsFrom {text : List Char} (h : Readable (Text.lines text)) :
    ReadLineByLine text (contentsFrom 1 0 (Text.lines text)) := by
  refine ⟨length_contentsFrom 1 0 _, fun k raw hk => ?_⟩
  have hfault := h raw (List.mem_of_getElem? hk)
  refine ⟨_, ?_, readLine_eq_ok hfault _ _⟩
  rw [getElem?_contentsFrom, hk, Option.map_some, Int.add_comm 1, Int.zero_add]

namespace Program

theorem lines_of_read {text : List Char} {p : Program} (h : read text = .ok p) :
    Readable (Text.lines text) ∧ p.lines = sourceLines 1 0 none (Text.lines text) := by
  simp only [read] at h
  split at h
  · cases h
  next hfault =>
    cases h
    exact ⟨readable_iff.1 hfault, rfl⟩

/-- A text whose lines can all be read is a program. -/
theorem exists_read {text : List Char} (h : Readable (Text.lines text)) :
    ∃ p, read text = .ok p ∧ p.lines = sourceLines 1 0 none (Text.lines text) := by
  have hfault : (reading text).findSome? ReadingEvent.fault? = none := readable_iff.2 h
  refine ⟨⟨sourceLines 1 0 none (Text.lines text), (reading text).filterMap ReadingEvent.note?⟩,
    ?_, rfl⟩
  simp only [read, hfault]
  rfl

/-- **Document order.** The display items of a program are what its lines say, read one by one:
for one line after the other, its comments and then its instructions. So they come out sorted by
line, with the comments of a line in front of its instructions. -/
theorem displayItems_of_read {text : List Char} {p : Program} (h : read text = .ok p) :
    ∃ contents, ReadLineByLine text contents ∧
      displayItems p.lines = contents.flatMap LineContent.items ∧
      InOrder (displayItems p.lines) := by
  obtain ⟨hread, hlines⟩ := lines_of_read h
  have hitems : displayItems p.lines = (contentsFrom 1 0 (Text.lines text)).flatMap
      LineContent.items := by
    rw [hlines, displayItems_sourceLines hread (Int.le_refl 1)]
  refine ⟨_, readLineByLine_contentsFrom hread, hitems, ?_⟩
  rw [hitems]
  exact inOrder_contentsFrom 1 0 (Text.lines text)

/-- What a reading gives is known if a part of it is. -/
theorem exists_ok_of_toOption {α β : Type} {x : Except IntegerFault α} {f : α → β} {b : β}
    (h : x.toOption.map f = some b) : ∃ a, x = .ok a ∧ f a = b := by
  cases x with
  | error e => cases h
  | ok a => exact ⟨a, rfl, Option.some.inj h⟩

/-- A program whose comments stand alone, beside instructions and at the end. -/
def scattered : List Char := "; a\n\n(b)\nG28 X ; home\nM117 Hi\n;end\n".toList

/-- Its comments go back to the lines that they come from. -/
theorem displayItems_scattered :
    ∃ p, read scattered = .ok p ∧
      (displayItems p.lines).map DisplayItem.line = [1, 3, 4, 4, 5, 6] ∧
      ∃ contents, ReadLineByLine scattered contents ∧
        displayItems p.lines = contents.flatMap LineContent.items ∧
        InOrder (displayItems p.lines) := by
  have hlines : (read scattered).toOption.map
      (fun p => (displayItems p.lines).map DisplayItem.line) = some [1, 3, 4, 4, 5, 6] := by
    decide +kernel
  cases h : read scattered with
  | error f =>
      rw [h] at hlines
      cases hlines
  | ok p =>
      rw [h] at hlines
      exact ⟨p, rfl, Option.some.inj hlines, displayItems_of_read h⟩

end Program

end OpcodeAtlas
