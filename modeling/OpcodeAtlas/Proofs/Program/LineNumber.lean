import OpcodeAtlas.Proofs.Program.Partition
import OpcodeAtlas.Proofs.Text.LineCount

/-!
# Line numbers

The number of a line is one more than the number of lines in front of it, so every comment and
every instruction carries one more than the number of line ends and separators in front of its
place. A comment that starts with a semicolon takes up the rest of its line, so no instruction
starts behind it before the next boundary (`numbered_reading`).

Where only line ends are to end a line (`Numbered` by `lineEnds` and `isLineEnd`), this is right if
no separator stands in front of a token, and wrong otherwise.
-/

set_option autoImplicit false

namespace OpcodeAtlas

open Text

/-! ## Nothing behind a comment of the rest of a line -/

/-- A piece is a comment that starts with a semicolon. -/
structure Piece.IsLineRemark (p : Piece) : Prop where
  remark : ∃ note, p.kind = .remark note
  semicolon : p.text.head? = some ';'

theorem Piece.not_isLineRemark {p : Piece} (h : ∀ note, p.kind ≠ .remark note) :
    ¬p.IsLineRemark := fun hp =>
  let ⟨note, hnote⟩ := hp.remark
  h note hnote

theorem Lexed.head?_text (c : Char) (s : List Char) : (Lexed.next c s).text.head? = some c := by
  obtain ⟨d, text, htext⟩ := List.exists_cons_of_ne_nil (Lexed.next_text_ne_nil c s)
  have happend := Lexed.next_append c s
  rw [htext] at happend ⊢
  exact congrArg some (List.cons.inj happend).1

theorem Lexed.rest_semicolon {s : List Char} (h : '\n' ∉ s) : (Lexed.next ';' s).rest = [] := by
  have hblank : isBlank ';' = false := by decide
  simp only [Lexed.next, hblank, Bool.false_eq_true, if_false, if_true]
  exact List.dropWhile_eq_nil_iff.2 fun c hc => decide_eq_true fun heq => h (heq ▸ hc)

/-- **A comment that starts with a semicolon is the last piece of its line.** -/
theorem pairwise_pieces {s : List Char} (h : '\n' ∉ s) (started : Bool) :
    (pieces started s).pieces.Pairwise fun p _ => ¬p.IsLineRemark := by
  have hrest {c : Char} {s : List Char} (h : '\n' ∉ c :: s) : '\n' ∉ (Lexed.next c s).rest := by
    rw [← Lexed.next_append c s] at h
    exact fun hmem => h (List.mem_append_right _ hmem)
  revert h
  refine pieces_induction (motive := fun _ s r => '\n' ∉ s →
    r.pieces.Pairwise fun p _ => ¬p.IsLineRemark) (fun _ _ => .nil) (fun _ _ _ _ _ _ => .nil)
    ?_ ?_ ?_ started s
  · intro started c s hopening ih h
    refine List.Pairwise.cons (fun q hq hp => ?_) (ih (hrest h))
    -- There is no piece behind it, because it leaves no rest.
    obtain rfl : c = ';' := Option.some.inj ((Lexed.head?_text c s).symm.trans hp.semicolon)
    rw [Lexed.rest_semicolon fun hmem => h (List.mem_cons_of_mem _ hmem), pieces_nil] at hq
    cases hq
  · intro started c s letter major minor hopening hm ih h
    exact .cons (fun _ _ => Piece.not_isLineRemark nofun) (ih (hrest h))
  · intro started c s letter major minor m rest hopening hm hne hmessage ih h
    have h : '\n' ∉ rest := fun hmem => hrest h (hmessage ▸ List.mem_append_right m hmem)
    exact .cons (fun _ _ => Piece.not_isLineRemark nofun)
      (.cons (fun _ _ => Piece.not_isLineRemark nofun) (ih h))

/-! ## On one line -/

section
variable {text front raw rest : List Char}

/-- A piece with a place is a comment that starts with a semicolon. -/
structure PlacedPiece.IsLineRemark (text : List Char) (line : Int) (p : PlacedPiece) : Prop where
  remark : ∃ note, p.kind = .remark note
  semicolon : ((p.span line).slice text).head? = some ';'

/-- Pieces with their places, of which nothing is behind such a comment. -/
theorem pairwise_placePieces {ps : List Piece} (hps : ps.Pairwise fun p _ => ¬p.IsLineRemark)
    (line : Int) (htext : text = front ++ (ps.flatMap Piece.text ++ rest)) :
    (placePieces front.length ps).Pairwise fun p _ => ¬p.IsLineRemark text line := by
  induction ps generalizing front with
  | nil => exact .nil
  | cons p ps ih =>
      obtain ⟨hp, hps⟩ := List.pairwise_cons.1 hps
      rw [List.flatMap_cons, List.append_assoc] at htext
      have hnext : text = (front ++ p.text) ++ (ps.flatMap Piece.text ++ rest) := by
        rw [htext, List.append_assoc]
      have ih := ih hps hnext
      rw [List.length_append, Int.natCast_add] at ih
      refine .cons (fun q hq hremark => ?_) ih
      -- The text at the place of the piece is the text of the piece.
      have hslice : Span.slice ⟨line, front.length, front.length + p.text.length⟩ text = p.text :=
        Span.slice_eq htext rfl rfl
      have hremark : p.IsLineRemark := ⟨hremark.remark, hslice ▸ hremark.semicolon⟩
      cases ps with
      | nil => cases hq
      | cons q' ps => exact hp q' List.mem_cons_self hremark

/-- What stems from pieces, one by one, stems from one of them. -/
theorem exists_stem {α β : Type} {R : α → β → Prop} {as : List α} {bs : List β}
    (h : List.Forall₂ R as bs) {b : β} (hb : b ∈ bs) : ∃ a ∈ as, R a b := by
  induction h with
  | nil => cases hb
  | cons hab h ih =>
      rcases List.mem_cons.1 hb with rfl | hb
      · exact ⟨_, List.mem_cons_self, hab⟩
      · obtain ⟨a, ha, hab⟩ := ih hb
        exact ⟨a, List.mem_cons_of_mem _ ha, hab⟩

/-- Of two members of a list, one is behind the other. -/
theorem rel_or_rel_of_pairwise {α : Type} {R : α → α → Prop} {l : List α} (h : l.Pairwise R)
    {a b : α} (ha : a ∈ l) (hb : b ∈ l) (hne : a ≠ b) : R a b ∨ R b a := by
  have hsymm : Std.Symm fun a b => R a b ∨ R b a := ⟨fun a b => Or.symm⟩
  exact (h.imp (S := fun a b => R a b ∨ R b a) Or.inl).forall ha hb hne

/-- An instruction was opened by a piece where it starts. -/
theorem exists_opening {number offset : Int} {s : List Char} {i : Instruction}
    (hi : i ∈ (contentOf number offset (pieces false s).pieces).instructions) :
    ∃ p ∈ placePieces offset (pieces false s).pieces,
      (∃ letter major minor, p.kind = .opening letter major minor) ∧ i.span.start = p.start := by
  have hnone : List.Forall₂ (InstructionPart.StemsFrom number) []
      ((none : Option Instruction).toList.flatMap Instruction.parts) := .nil
  have hparts := parts_gatherInstructions (arranged_pieces false s) (map_kind_placePieces offset _)
    rfl hnone
  have hhead : .head i ∈ (contentOf number offset (pieces false s).pieces).instructions.flatMap
      Instruction.parts := List.mem_flatMap.2 ⟨i, hi, List.mem_cons_self⟩
  obtain ⟨p, hp, hstems⟩ := exists_stem hparts hhead
  rw [List.nil_append] at hp
  cases hstems with
  | head hkind => exact ⟨p, List.mem_of_mem_filter hp, ⟨_, _, _, hkind⟩, rfl⟩

/-- Every instruction of a line starts in front of such a comment. -/
theorem start_lt_of_lineRemark {number : Int} (hfeed : '\n' ∉ body raw)
    (htext : text = front ++ (raw ++ rest)) {c : Comment} {s : Span} {i : Instruction}
    (hc : c ∈ (contentOf number front.length (pieces false (body raw)).pieces).comments)
    (hs : c.span = some s) (hsemicolon : (s.slice text).head? = some ';')
    (hi : i ∈ (contentOf number front.length (pieces false (body raw)).pieces).instructions) :
    i.span.start < s.start := by
  obtain ⟨rest', hraw⟩ := (flatMap_text_isPrefix false (body raw)).trans (body_isPrefix raw)
  have hpieces : text = front ++ ((pieces false (body raw)).pieces.flatMap Piece.text ++
      (rest' ++ rest)) := by
    rw [htext, ← List.append_assoc _ rest', hraw]
  have hlaid := laid_placePieces (fits_pieces false (body raw)) number hpieces
  have hlast := pairwise_placePieces (pairwise_pieces hfeed false) number hpieces
  obtain ⟨p, hp, hstems⟩ := exists_stem (comments_contentOf number front.length _) hc
  obtain ⟨q, hq, ⟨letter, major, minor, hopening⟩, hstart⟩ := exists_opening hi
  cases hstems with
  | @remark note hkind =>
      cases hs
      have hne : q ≠ p := by
        rintro rfl
        rw [hopening] at hkind
        cases hkind
      -- Nothing comes behind the comment, so the instruction starts in front of it.
      rcases rel_or_rel_of_pairwise (hlaid.pairwise.and hlast) hq (List.mem_of_mem_filter hp) hne
        with ⟨hbefore, -⟩ | ⟨-, hlast⟩
      · rw [hstart]
        exact Int.lt_of_lt_of_le (hlaid.of_mem hq).1.pos hbefore
      · exact absurd ⟨⟨note, hkind⟩, hsemicolon⟩ hlast

end

/-! ## The lines of a text -/

/-- The content of a line is read with the number and at the place that the lines in front of it
make up. -/
theorem exists_of_mem_contentsFrom {number offset : Int} {raws : List (List Char)}
    {content : LineContent} (h : content ∈ contentsFrom number offset raws) :
    ∃ before raw after, raws = before ++ raw :: after ∧
      content = contentOf (number + before.length) (offset + before.flatten.length)
        (pieces false (body raw)).pieces := by
  induction raws generalizing number offset with
  | nil => cases h
  | cons raw raws ih =>
      rcases List.mem_cons.1 h with rfl | h
      · exact ⟨[], raw, raws, rfl, by simp⟩
      · obtain ⟨before, raw', after, rfl, rfl⟩ := ih h
        refine ⟨raw :: before, raw', after, rfl, ?_⟩
        congr 1
        · rw [List.length_cons]
          omega
        · rw [List.flatten_cons, List.length_append]
          omega

/-- What a line of a text says that has some lines in front of it. -/
structure LineOf (text : List Char) (before : List (List Char)) (raw : List Char)
    (content : LineContent) : Prop where
  split : ∃ after, lines text = before ++ raw :: after
  content : content = contentOf (1 + before.length) before.flatten.length
    (pieces false (body raw)).pieces

namespace LineOf

variable {text raw : List Char} {before : List (List Char)} {content : LineContent}

theorem text_eq (h : LineOf text before raw content) :
    ∃ rest, text = before.flatten ++ (raw ++ rest) := by
  obtain ⟨after, hlines⟩ := h.split
  refine ⟨after.flatten, ?_⟩
  rw [← lines_flatten text, hlines, List.flatten_append, List.flatten_cons]

theorem traced (h : LineOf text before raw content) :
    Traced text before.flatten.length (before.flatten.length + (body raw).length)
      content.comments content.instructions := by
  obtain ⟨rest, htext⟩ := h.text_eq
  rw [h.content]
  exact traced_contentOf (1 + before.length) htext

/-- A place on the line has as many cuts in front of it as the line has lines in front of it. -/
theorem cuts_start (h : LineOf text before raw content) {s : Span}
    (hs : s.Within before.flatten.length (before.flatten.length + (body raw).length)) :
    cuts (text.take s.start.toNat) = before.length := by
  obtain ⟨after, hlines⟩ := h.split
  obtain ⟨k, hk⟩ := Int.le.dest hs.start
  have hstart : s.start.toNat = before.flatten.length + k := by omega
  have hstop := hs.stop
  have hpos := hs.pos
  rw [hstart]
  exact cuts_take hlines (by omega)

theorem line_comment (h : LineOf text before raw content) {c : Comment}
    (hc : c ∈ content.comments) : c.line = 1 + before.length := by
  rw [h.content] at hc
  exact (contentOf_on _ _ _).comments c hc

theorem line_instruction (h : LineOf text before raw content) {i : Instruction}
    (hi : i ∈ content.instructions) : i.line = 1 + before.length := by
  rw [h.content] at hi
  exact (contentOf_on _ _ _).instructions i hi

/-- **On a line, every instruction starts in front of a comment that starts with a semicolon.** -/
theorem start_lt_of_semicolon (h : LineOf text before raw content) {c : Comment} {s : Span}
    {i : Instruction} (hc : c ∈ content.comments) (hs : c.span = some s)
    (hsemicolon : (s.slice text).head? = some ';') (hi : i ∈ content.instructions) :
    i.span.start < s.start := by
  obtain ⟨after, hlines⟩ := h.split
  obtain ⟨rest, htext⟩ := h.text_eq
  have hfeed := feed_not_mem_body (hlines ▸ List.mem_append_right _ List.mem_cons_self)
  rw [h.content] at hc hi
  exact start_lt_of_lineRemark hfeed htext hc hs hsemicolon hi

/-- Lines with the same number are the same line. -/
theorem unique {raw' : List Char} {before' : List (List Char)} {content' : LineContent}
    (h : LineOf text before raw content) (h' : LineOf text before' raw' content')
    (hlength : before.length = before'.length) : content = content' := by
  obtain ⟨after, hlines⟩ := h.split
  obtain ⟨after', hlines'⟩ := h'.split
  obtain ⟨rfl, hrest⟩ := List.append_inj (hlines.symm.trans hlines') hlength
  obtain ⟨rfl, -⟩ := List.cons.inj hrest
  rw [h.content, h'.content]

end LineOf

/-! ## The tokens of a text -/

/-- The text from one place up to another one. -/
def textBetween (text : List Char) (start stop : Int) : List Char :=
  (text.take stop.toNat).drop start.toNat

/-- The tokens of a text are numbered by the lines that they stand on: each line number is one more
than the count in front of the token, and no instruction starts behind a semicolon that starts a
comment, before the end of the line. -/
structure Numbered (count : List Char → Nat) (isEnd : Char → Bool) (text : List Char)
    (cs : List Comment) (is : List Instruction) : Prop where
  comments : ∀ c ∈ cs, ∃ s, c.span = some s ∧ c.line = 1 + count (text.take s.start.toNat)
  instructions : ∀ i ∈ is, i.line = 1 + count (text.take i.span.start.toNat)
  remarks : ∀ c ∈ cs, ∀ s, c.span = some s → (s.slice text).head? = some ';' →
    ∀ i ∈ is, s.start < i.span.start →
      ∃ x ∈ textBetween text s.start i.span.start, isEnd x = true

/-- No separator stands in front of a token of a text. -/
structure Unseparated (text : List Char) (cs : List Comment) (is : List Instruction) : Prop where
  comments : ∀ c ∈ cs, ∀ s, c.span = some s → separators (text.take s.start.toNat) = 0
  instructions : ∀ i ∈ is, separators (text.take i.span.start.toNat) = 0

section
variable {text : List Char} {cs cs' : List Comment} {is is' : List Instruction}

theorem take_eq_append_textBetween {start stop : Int} (h : start ≤ stop) :
    text.take stop.toNat = text.take start.toNat ++ textBetween text start stop := by
  have hle : start.toNat ≤ stop.toNat := by omega
  have htake : (text.take stop.toNat).take start.toNat = text.take start.toNat := by
    rw [List.take_take, Nat.min_eq_left hle]
  rw [textBetween, ← htake, List.take_append_drop]

theorem mem_take_of_mem_textBetween {start stop : Int} {x : Char}
    (hx : x ∈ textBetween text start stop) : x ∈ text.take stop.toNat :=
  List.mem_of_mem_drop hx

namespace Numbered

/-- Some of the comments and some of the instructions. -/
theorem subset {count : List Char → Nat} {isEnd : Char → Bool}
    (h : Numbered count isEnd text cs is) (hcs : cs' ⊆ cs) (his : is' ⊆ is) :
    Numbered count isEnd text cs' is' :=
  ⟨fun c hc => h.comments c (hcs hc), fun i hi => h.instructions i (his hi),
    fun c hc s hs hsemicolon i hi => h.remarks c (hcs hc) s hs hsemicolon i (his hi)⟩

/-- Where cuts count the lines, line ends do so just if no separator is in the way. -/
theorem lineEnds_iff (h : Numbered cuts isBoundary text cs is) :
    Numbered lineEnds isLineEnd text cs is ↔ Unseparated text cs is := by
  constructor
  · intro hends
    refine ⟨fun c hc s hs => ?_, fun i hi => ?_⟩
    · obtain ⟨s', hs', hline⟩ := hends.comments c hc
      obtain ⟨s'', hs'', hcuts⟩ := h.comments c hc
      obtain rfl := Option.some.inj (hs.symm.trans hs')
      obtain rfl := Option.some.inj (hs.symm.trans hs'')
      rw [cuts] at hcuts
      omega
    · have hline := hends.instructions i hi
      have hcuts := h.instructions i hi
      rw [cuts] at hcuts
      omega
  · intro hno
    refine ⟨fun c hc => ?_, fun i hi => ?_, fun c hc s hs hsemicolon i hi hlt => ?_⟩
    · obtain ⟨s, hs, hline⟩ := h.comments c hc
      rw [cuts, hno.comments c hc s hs] at hline
      exact ⟨s, hs, hline⟩
    · have hline := h.instructions i hi
      rwa [cuts, hno.instructions i hi] at hline
    · -- The boundary behind the comment stands in front of the instruction.
      obtain ⟨x, hx, hboundary⟩ := h.remarks c hc s hs hsemicolon i hi hlt
      have hseparator := separators_eq_zero_iff.1 (hno.instructions i hi) x
        (mem_take_of_mem_textBetween hx)
      refine ⟨x, hx, ?_⟩
      simpa [isSeparator, hboundary] using hseparator

end Numbered

/-- The lines of a text, read one by one. -/
theorem exists_lineOf {content : LineContent} (h : content ∈ contentsFrom 1 0 (lines text)) :
    ∃ before raw, LineOf text before raw content := by
  obtain ⟨before, raw, after, hlines, hcontent⟩ := exists_of_mem_contentsFrom h
  rw [Int.zero_add] at hcontent
  exact ⟨before, raw, ⟨after, hlines⟩, hcontent⟩

/-- **What the lines of a text say is numbered by the cuts of the text.** -/
theorem numbered_contentsFrom (text : List Char) :
    Numbered cuts isBoundary text ((contentsFrom 1 0 (lines text)).flatMap LineContent.comments)
      ((contentsFrom 1 0 (lines text)).flatMap LineContent.instructions) := by
  refine ⟨fun c hc => ?_, fun i hi => ?_, fun c hc s hs hsemicolon i hi hlt => ?_⟩
  · obtain ⟨content, hcontent, hc⟩ := List.mem_flatMap.1 hc
    obtain ⟨before, raw, hline⟩ := exists_lineOf hcontent
    obtain ⟨s, hs, hwithin, -⟩ := hline.traced.comments c hc
    exact ⟨s, hs, by rw [hline.line_comment hc, hline.cuts_start hwithin]⟩
  · obtain ⟨content, hcontent, hi⟩ := List.mem_flatMap.1 hi
    obtain ⟨before, raw, hline⟩ := exists_lineOf hcontent
    rw [hline.line_instruction hi, hline.cuts_start (hline.traced.instructions i hi).within]
  · obtain ⟨content, hcontent, hc⟩ := List.mem_flatMap.1 hc
    obtain ⟨content', hcontent', hi⟩ := List.mem_flatMap.1 hi
    obtain ⟨before, raw, hline⟩ := exists_lineOf hcontent
    obtain ⟨before', raw', hline'⟩ := exists_lineOf hcontent'
    obtain ⟨s', hs', hwithin, -⟩ := hline.traced.comments c hc
    obtain rfl := Option.some.inj (hs.symm.trans hs')
    by_contra hnone
    push Not at hnone
    -- Without a boundary in between the two stand on the same line, where this cannot be.
    have hcuts : cuts (text.take i.span.start.toNat) = cuts (text.take s.start.toNat) := by
      rw [take_eq_append_textBetween (Int.le_of_lt hlt)]
      exact cuts_append _ fun x hx => by simpa using hnone x hx
    rw [hline.cuts_start hwithin, hline'.cuts_start (hline'.traced.instructions i hi).within]
      at hcuts
    obtain rfl := hline'.unique hline hcuts
    have hstart := hline.start_lt_of_semicolon hc hs hsemicolon hi
    omega

/-- **The line numbers of a program.** Every comment and every instruction that a reading delivers
has one more than the number of line ends and separators in front of it as its line, and no
instruction starts behind a semicolon that starts a comment, before the next boundary. Line ends
alone number the lines just if no separator stands in front of a comment or an instruction. -/
theorem numbered_reading (text : List Char) :
    let ls := (reading text).filterMap ReadingEvent.line?
    let cs := ls.flatMap SourceLine.comments
    let is := ls.flatMap SourceLine.instructions
    Numbered cuts isBoundary text cs is ∧
      (Numbered lineEnds isLineEnd text cs is ↔ Unseparated text cs is) := by
  obtain ⟨hcomments, hinstructions⟩ := sourceLines_sublist 1 0 none (lines text)
  have hnumbered := (numbered_contentsFrom text).subset hcomments.subset hinstructions.subset
  exact ⟨hnumbered, hnumbered.lineEnds_iff⟩

end

/-- A form feed is no line end, but the comment in front of it ends there, and what is left of the
line is read as an instruction on a line of its own. -/
theorem reading_formFeed :
    let text := "; a\x0cG1 X5".toList
    let ls := (reading text).filterMap ReadingEvent.line?
    ¬Numbered lineEnds isLineEnd text (ls.flatMap SourceLine.comments)
      (ls.flatMap SourceLine.instructions) := by
  intro text ls hnumbered
  have hplaces : (ls.flatMap SourceLine.instructions).map (fun i => (i.line, i.span.start)) =
      [(2, 4)] := by
    decide +kernel
  obtain ⟨i, hi, hplace⟩ := List.mem_map.1 (hplaces ▸ List.mem_singleton_self _)
  obtain ⟨hline, hstart⟩ := Prod.mk.inj hplace
  have hcount := hnumbered.instructions i hi
  rw [hline, hstart] at hcount
  exact absurd hcount (by decide)

end OpcodeAtlas
