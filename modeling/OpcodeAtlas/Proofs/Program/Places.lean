import Mathlib.Data.List.Pairwise
import OpcodeAtlas.Proofs.Program.DocumentOrder
import OpcodeAtlas.Proofs.Program.PieceText
import OpcodeAtlas.Proofs.Text.Blank

/-!
# Where the tokens of a program stand

Every token that a reading delivers has its place in the text, and what stands there is the token
(`traced_reading`). The places lie inside the text, those of arguments inside their instruction;
comments, instructions and arguments each follow one another, and no comment meets an argument.

`Traced` says this of comments and instructions that stand between two places of a text, so that
what is known of two stretches is known of both together (`Traced.append`). On one line the pieces
lie next to each other (`Laid`), and an instruction grows with each of its arguments up to the end
of the argument (`readFrom_gatherInstructions`).
-/

set_option autoImplicit false

namespace OpcodeAtlas

open Text

/-! ## Places -/

namespace Span

/-- The text that a span covers. -/
def slice (s : Span) (text : List Char) : List Char := (text.drop s.start.toNat).take s.length

/-- A span ends before another one starts. -/
def Before (s s' : Span) : Prop := s.stop ≤ s'.start

/-- A span is not empty and lies between two places. -/
structure Within (s : Span) (lo hi : Int) : Prop where
  start : lo ≤ s.start
  pos : s.start < s.stop
  stop : s.stop ≤ hi

theorem Within.mono {s : Span} {lo lo' hi hi' : Int} (h : s.Within lo hi) (hlo : lo' ≤ lo)
    (hhi : hi ≤ hi') : s.Within lo' hi' :=
  ⟨Int.le_trans hlo h.start, h.pos, Int.le_trans h.stop hhi⟩

/-- What stands between two texts is the slice of its place. -/
theorem slice_eq {s : Span} {text front part rest : List Char}
    (htext : text = front ++ (part ++ rest)) (hstart : s.start = front.length)
    (hstop : s.stop = front.length + part.length) : s.slice text = part := by
  have hlength : s.length = part.length := by
    rw [length, hstart, hstop]
    omega
  rw [slice, hlength, hstart, Int.toNat_natCast, htext, List.drop_left, List.take_left]

/-- The slice of a span that reaches farther starts with the slice of the span. -/
theorem slice_isPrefix (s s' : Span) (hstart : s'.start = s.start) (hstop : s.stop ≤ s'.stop)
    (text : List Char) : s.slice text <+: s'.slice text := by
  have hlength : s.length ≤ s'.length := by
    rw [length, length, hstart]
    omega
  rw [slice, slice, hstart]
  exact List.take_prefix_take_left hlength

end Span

/-! ## Tokens and their texts -/

/-- A comment is what a text says: its value is the note without the blanks at its ends. -/
def Comment.Describes (c : Comment) (text : List Char) : Prop :=
  ∃ note, RemarkText note text ∧ c.value = String.ofList (trim note)

/-- An argument is what a text says: a letter alone, a letter with the number that is the value,
or a message without the blanks at its ends. -/
def Argument.Describes (a : Argument) (text : List Char) : Prop :=
  match a.value with
  | .flag => ∃ letter, a.letter = String.singleton letter ∧ WordText letter [] text
  | .number x => ∃ letter number, a.letter = String.singleton letter ∧
      WordText letter number text ∧ Number.readDecimal? number = some x
  | .message m => a.letter = "" ∧ String.ofList (trim text) = m
  | .whole _ => False
  | .switch _ => False

/-- An instruction starts with the word that a text starts with: its letter and its number. -/
def Instruction.Describes (i : Instruction) (text : List Char) : Prop :=
  ∃ letter number word, i.mnemonic = String.singleton letter ∧ word <+: text ∧
    WordText letter number word ∧ readCodeNumber number = .ok (some (i.major, i.minor))

/-- A comment was read from its place between two places of a text. -/
def Comment.ReadFrom (text : List Char) (lo hi : Int) (c : Comment) : Prop :=
  ∃ s, c.span = some s ∧ s.Within lo hi ∧ c.Describes (s.slice text)

/-- An argument was read from its place between two places of a text. -/
def Argument.ReadFrom (text : List Char) (lo hi : Int) (a : Argument) : Prop :=
  ∃ s, a.span = some s ∧ s.Within lo hi ∧ a.Describes (s.slice text)

/-- An instruction was read from its place between two places of a text, and its arguments from
places inside of it. -/
structure Instruction.ReadFrom (text : List Char) (lo hi : Int) (i : Instruction) : Prop where
  within : i.span.Within lo hi
  code : i.Describes (i.span.slice text)
  arguments : ∀ a ∈ i.arguments, a.ReadFrom text i.span.start i.span.stop

/-- The places of comments. -/
def commentSpans (cs : List Comment) : List Span := cs.filterMap Comment.span

/-- The places of the arguments of instructions. -/
def argumentSpans (is : List Instruction) : List Span :=
  (is.flatMap Instruction.arguments).filterMap Argument.span

/-- Comments and instructions were read from their places between two places of a text, where they
follow one another. -/
structure Traced (text : List Char) (lo hi : Int) (cs : List Comment) (is : List Instruction) :
    Prop where
  comments : ∀ c ∈ cs, c.ReadFrom text lo hi
  instructions : ∀ i ∈ is, i.ReadFrom text lo hi
  commentsApart : (commentSpans cs).Pairwise Span.Before
  instructionsApart : (is.map Instruction.span).Pairwise Span.Before
  argumentsApart : (argumentSpans is).Pairwise Span.Before
  disjoint : ∀ s ∈ commentSpans cs, ∀ s' ∈ argumentSpans is, s.Before s' ∨ s'.Before s

section
variable {text : List Char} {lo lo' mid hi hi' : Int}

theorem Comment.ReadFrom.mono {c : Comment} (h : c.ReadFrom text lo hi) (hlo : lo' ≤ lo)
    (hhi : hi ≤ hi') : c.ReadFrom text lo' hi' := by
  obtain ⟨s, hs, hwithin, hdescribes⟩ := h
  exact ⟨s, hs, hwithin.mono hlo hhi, hdescribes⟩

theorem Argument.ReadFrom.mono {a : Argument} (h : a.ReadFrom text lo hi) (hlo : lo' ≤ lo)
    (hhi : hi ≤ hi') : a.ReadFrom text lo' hi' := by
  obtain ⟨s, hs, hwithin, hdescribes⟩ := h
  exact ⟨s, hs, hwithin.mono hlo hhi, hdescribes⟩

theorem Instruction.ReadFrom.mono {i : Instruction} (h : i.ReadFrom text lo hi) (hlo : lo' ≤ lo)
    (hhi : hi ≤ hi') : i.ReadFrom text lo' hi' :=
  ⟨h.within.mono hlo hhi, h.code, h.arguments⟩

theorem spans_within {is : List Instruction} (h : ∀ i ∈ is, i.ReadFrom text lo hi) :
    ∀ s ∈ is.map Instruction.span, s.Within lo hi := by
  intro s hs
  obtain ⟨i, hi, rfl⟩ := List.mem_map.1 hs
  exact (h i hi).within

/-- The instruction that is open stands alone. -/
theorem pairwise_toList (current : Option Instruction) :
    (current.toList.map Instruction.span).Pairwise Span.Before := by
  cases current with
  | none => exact List.Pairwise.nil
  | some i => exact List.pairwise_singleton _ _

/-! ## Stretches of a text -/

theorem flatMap_sublist {α β : Type} (f : α → List β) {l l' : List α} (h : l'.Sublist l) :
    (l'.flatMap f).Sublist (l.flatMap f) := by
  induction h with
  | slnil => exact List.Sublist.refl _
  | cons a h ih => exact ih.trans (List.sublist_append_right _ _)
  | cons_cons a h ih => exact (List.Sublist.refl (f a)).append ih

namespace Traced

variable {cs cs' : List Comment} {is is' : List Instruction}

theorem nil (text : List Char) (lo hi : Int) : Traced text lo hi [] [] :=
  ⟨nofun, nofun, List.Pairwise.nil, List.Pairwise.nil, List.Pairwise.nil, nofun⟩

theorem mono (h : Traced text lo hi cs is) (hlo : lo' ≤ lo) (hhi : hi ≤ hi') :
    Traced text lo' hi' cs is :=
  { h with
    comments := fun c hc => (h.comments c hc).mono hlo hhi
    instructions := fun i hi => (h.instructions i hi).mono hlo hhi }

/-- Some of the comments and some of the instructions, in their order. -/
theorem sublist (h : Traced text lo hi cs is) (hcs : cs'.Sublist cs) (his : is'.Sublist is) :
    Traced text lo hi cs' is' := by
  have hcomments : (commentSpans cs').Sublist (commentSpans cs) := hcs.filterMap _
  have harguments : (argumentSpans is').Sublist (argumentSpans is) :=
    (flatMap_sublist _ his).filterMap _
  exact
    { comments := fun c hc => h.comments c (hcs.subset hc)
      instructions := fun i hi => h.instructions i (his.subset hi)
      commentsApart := h.commentsApart.sublist hcomments
      instructionsApart := h.instructionsApart.sublist (his.map _)
      argumentsApart := h.argumentsApart.sublist harguments
      disjoint := fun s hs s' hs' =>
        h.disjoint s (hcomments.subset hs) s' (harguments.subset hs') }

theorem commentSpans_within (h : Traced text lo hi cs is) :
    ∀ s ∈ commentSpans cs, s.Within lo hi := by
  intro s hs
  obtain ⟨c, hc, hspan⟩ := List.mem_filterMap.1 hs
  obtain ⟨s', hs', hwithin, -⟩ := h.comments c hc
  rw [hspan] at hs'
  cases hs'
  exact hwithin

theorem argumentSpans_within (h : Traced text lo hi cs is) :
    ∀ s ∈ argumentSpans is, s.Within lo hi := by
  intro s hs
  obtain ⟨a, ha, hspan⟩ := List.mem_filterMap.1 hs
  obtain ⟨i, hi, ha⟩ := List.mem_flatMap.1 ha
  have hi := h.instructions i hi
  obtain ⟨s', hs', hwithin, -⟩ := hi.arguments a ha
  rw [hspan] at hs'
  cases hs'
  exact hwithin.mono hi.within.start hi.within.stop

/-- Places in front of a place come before places behind it. -/
theorem pairwise_append_of_within {ss ss' : List Span} (h : ss.Pairwise Span.Before)
    (h' : ss'.Pairwise Span.Before) (hss : ∀ s ∈ ss, s.Within lo mid)
    (hss' : ∀ s ∈ ss', s.Within mid hi) : (ss ++ ss').Pairwise Span.Before :=
  List.pairwise_append.2
    ⟨h, h', fun s hs s' hs' => Int.le_trans (hss s hs).stop (hss' s' hs').start⟩

/-- **Two stretches of a text, one behind the other.** -/
theorem append (h : Traced text lo mid cs is) (h' : Traced text mid hi cs' is') (hlo : lo ≤ mid)
    (hhi : mid ≤ hi) : Traced text lo hi (cs ++ cs') (is ++ is') := by
  have hcomments : commentSpans (cs ++ cs') = commentSpans cs ++ commentSpans cs' :=
    List.filterMap_append ..
  have harguments : argumentSpans (is ++ is') = argumentSpans is ++ argumentSpans is' := by
    rw [argumentSpans, List.flatMap_append, List.filterMap_append, argumentSpans, argumentSpans]
  refine ⟨?_, ?_, ?_, ?_, ?_, ?_⟩
  · intro c hc
    rcases List.mem_append.1 hc with hc | hc
    · exact (h.comments c hc).mono (Int.le_refl lo) hhi
    · exact (h'.comments c hc).mono hlo (Int.le_refl hi)
  · intro i hi
    rcases List.mem_append.1 hi with hi | hi
    · exact (h.instructions i hi).mono (Int.le_refl lo) hhi
    · exact (h'.instructions i hi).mono hlo (Int.le_refl _)
  · rw [hcomments]
    exact pairwise_append_of_within h.commentsApart h'.commentsApart h.commentSpans_within
      h'.commentSpans_within
  · rw [List.map_append]
    exact pairwise_append_of_within h.instructionsApart h'.instructionsApart
      (spans_within h.instructions) (spans_within h'.instructions)
  · rw [harguments]
    exact pairwise_append_of_within h.argumentsApart h'.argumentsApart h.argumentSpans_within
      h'.argumentSpans_within
  · rw [hcomments, harguments]
    intro s hs s' hs'
    rcases List.mem_append.1 hs with hs | hs
    · rcases List.mem_append.1 hs' with hs' | hs'
      · exact h.disjoint s hs s' hs'
      · exact .inl (Int.le_trans (h.commentSpans_within s hs).stop
          (h'.argumentSpans_within s' hs').start)
    · rcases List.mem_append.1 hs' with hs' | hs'
      · exact .inr (Int.le_trans (h.argumentSpans_within s' hs').stop
          (h'.commentSpans_within s hs).start)
      · exact h'.disjoint s hs s' hs'

end Traced

/-! ## The pieces of a line -/

/-- The place of a piece. -/
def PlacedPiece.span (line : Int) (p : PlacedPiece) : Span := ⟨line, p.start, p.stop⟩

/-- Pieces lie next to each other between two places of a text, and each is what stands at its
place. -/
inductive Laid (text : List Char) (line : Int) : Int → Int → List PlacedPiece → Prop where
  | nil {lo hi : Int} (h : lo ≤ hi) : Laid text line lo hi []
  | cons {lo hi : Int} {p : PlacedPiece} {ps : List PlacedPiece} (hstart : lo ≤ p.start)
      (hpos : p.start < p.stop) (hfits : p.kind.Fits ((p.span line).slice text))
      (hrest : Laid text line p.stop hi ps) : Laid text line lo hi (p :: ps)

theorem laid_placePieces {ps : List Piece} (hfits : ∀ p ∈ ps, p.Fits) {front rest : List Char}
    (line : Int) (htext : text = front ++ (ps.flatMap Piece.text ++ rest)) :
    Laid text line front.length (front.length + (ps.flatMap Piece.text).length)
      (placePieces front.length ps) := by
  induction ps generalizing front with
  | nil => exact .nil (by simp)
  | cons p ps ih =>
      obtain ⟨hp, hps⟩ := List.forall_mem_cons.1 hfits
      have hpos : 0 < p.text.length := List.length_pos_iff.2 hp.ne_nil
      rw [List.flatMap_cons] at htext ⊢
      have hslice : Span.slice ⟨line, front.length, front.length + p.text.length⟩ text = p.text :=
        Span.slice_eq (htext.trans (by rw [List.append_assoc])) rfl rfl
      have hnext : text = (front ++ p.text) ++ (ps.flatMap Piece.text ++ rest) :=
        htext.trans (by simp)
      have ih := ih hps hnext
      rw [placePieces]
      refine .cons (Int.le_refl _) ?_ ?_ ?_
      · exact Int.lt_add_of_pos_right _ (Int.natCast_pos.2 hpos)
      · rw [PlacedPiece.span, hslice]
        exact hp.kind
      · simpa [Int.add_assoc] using ih

namespace Laid

variable {line : Int} {ps : List PlacedPiece}

theorem le (h : Laid text line lo hi ps) : lo ≤ hi := by
  induction h with
  | nil h => exact h
  | cons hstart hpos hfits hrest ih => omega

/-- Every piece is what stands at its place. -/
theorem of_mem (h : Laid text line lo hi ps) {p : PlacedPiece} (hp : p ∈ ps) :
    (p.span line).Within lo hi ∧ p.kind.Fits ((p.span line).slice text) := by
  induction h with
  | nil h => cases hp
  | cons hstart hpos hfits hrest ih =>
      rcases List.mem_cons.1 hp with rfl | hp
      · exact ⟨⟨hstart, hpos, hrest.le⟩, hfits⟩
      · obtain ⟨hwithin, hfits⟩ := ih hp
        exact ⟨hwithin.mono (by omega) (Int.le_refl _), hfits⟩

/-- Every piece ends before the next one starts. -/
theorem pairwise (h : Laid text line lo hi ps) :
    ps.Pairwise fun p q => (p.span line).Before (q.span line) := by
  induction h with
  | nil h => exact List.Pairwise.nil
  | cons hstart hpos hfits hrest ih =>
      exact List.pairwise_cons.2 ⟨fun q hq => (hrest.of_mem hq).1.start, ih⟩

end Laid

/-! ## What the pieces of a line say -/

namespace PlacedPiece

variable {line : Int} {p : PlacedPiece} {c : Comment} {a : Argument} {i : Instruction}

/-- A comment has the place and the text of its piece. -/
theorem comment?_spec (h : p.comment? line = some c) :
    c.span = some (p.span line) ∧ p.argument? line = none ∧
      ∀ t, p.kind.Fits t → c.Describes t := by
  unfold comment? at h
  split at h
  next note hkind =>
    cases h
    refine ⟨rfl, ?_, fun t ht => ?_⟩
    · rw [argument?, hkind]
    · rw [hkind] at ht
      exact ⟨note, ht, rfl⟩
  · cases h

/-- An argument has the place and the text of its piece. -/
theorem argument?_spec (h : p.argument? line = some a) :
    a.span = some (p.span line) ∧ ∀ t, p.kind.Fits t → a.Describes t := by
  unfold argument? at h
  split at h
  next letter number hkind =>
    cases h
    refine ⟨rfl, fun t ht => ?_⟩
    rw [hkind] at ht
    cases number with
    | none => exact ⟨letter, rfl, ht⟩
    | some x =>
        obtain ⟨number, hword, hx⟩ := ht
        exact ⟨letter, number, rfl, hword, hx⟩
  next m hkind =>
    cases h
    refine ⟨rfl, fun t ht => ?_⟩
    rw [hkind] at ht
    obtain rfl : t = m := ht
    exact ⟨rfl, rfl⟩
  · cases h

/-- An instruction is opened at the place of its piece. -/
theorem opened?_spec (h : p.opened? line = some i) :
    i.span = p.span line ∧ i.arguments = [] ∧ ∀ t, p.kind.Fits t → i.Describes t := by
  unfold opened? at h
  split at h
  next letter major minor hkind =>
    cases h
    refine ⟨rfl, rfl, fun t ht => ?_⟩
    rw [hkind] at ht
    obtain ⟨number, hword, hcode⟩ := ht
    exact ⟨letter, number, t, rfl, List.prefix_rfl, hword, hcode⟩
  · cases h

end PlacedPiece

/-- An instruction that was read up to a place is read up to the end of the next argument. -/
theorem Instruction.ReadFrom.extend {i : Instruction} {a : Argument} {s : Span}
    (h : i.ReadFrom text lo mid) (hspan : a.span = some s) (hwithin : s.Within mid hi)
    (ha : a.Describes (s.slice text)) : (i.extend a s.stop).ReadFrom text lo s.stop := by
  obtain ⟨hi, hcode, harguments⟩ := h
  have hle : i.span.stop ≤ s.start := Int.le_trans hi.stop hwithin.start
  have hstop : i.span.stop ≤ s.stop := Int.le_trans hle (Int.le_of_lt hwithin.pos)
  refine ⟨⟨hi.start, Int.lt_of_lt_of_le hi.pos hstop, Int.le_refl _⟩, ?_, ?_⟩
  · obtain ⟨letter, number, word, hletter, hword, hcode⟩ := hcode
    have hslice := Span.slice_isPrefix i.span (i.extend a s.stop).span rfl hstop text
    exact ⟨letter, number, word, hletter, hword.trans hslice, hcode⟩
  · intro b hb
    rcases List.mem_append.1 hb with hb | hb
    · exact (harguments b hb).mono (Int.le_refl _) hstop
    · obtain rfl := List.mem_singleton.1 hb
      have hstart : i.span.start ≤ s.start := Int.le_trans (Int.le_of_lt hi.pos) hle
      exact ⟨s, hspan, ⟨hstart, hwithin.pos, Int.le_refl _⟩, ha⟩

/-- A piece that opens an instruction is what the instruction was read from. -/
theorem Instruction.readFrom_opened {line : Int} {p : PlacedPiece} {i : Instruction}
    (h : p.opened? line = some i) (hpos : p.start < p.stop)
    (hfits : p.kind.Fits ((p.span line).slice text)) : i.ReadFrom text p.start p.stop := by
  obtain ⟨hspan, harguments, hdescribes⟩ := PlacedPiece.opened?_spec h
  refine ⟨?_, ?_, ?_⟩
  · rw [hspan]
    exact ⟨Int.le_refl _, hpos, Int.le_refl _⟩
  · rw [hspan]
    exact hdescribes _ hfits
  · rw [harguments]
    exact nofun

/-- **The instructions of a line**, when the one that is open has been read up to where the pieces
start. -/
theorem readFrom_gatherInstructions {line : Int} {ps : List PlacedPiece}
    (h : Laid text line mid hi ps) (current : Option Instruction) (hlo : lo ≤ mid)
    (hcurrent : ∀ i ∈ current.toList, i.ReadFrom text lo mid) :
    (∀ i ∈ gatherInstructions line current ps, i.ReadFrom text lo hi) ∧
      ((gatherInstructions line current ps).map Instruction.span).Pairwise Span.Before := by
  induction h generalizing lo current with
  | nil h =>
      exact ⟨fun i hi => (hcurrent i hi).mono (Int.le_refl lo) h, pairwise_toList current⟩
  | @cons mid hi p ps hstart hpos hfits hrest ih =>
      have hle := hrest.le
      rw [gatherInstructions]
      split
      next opened hopened =>
        -- The open instruction is complete, and the next one starts with this piece.
        have hread : opened.ReadFrom text p.start p.stop :=
          Instruction.readFrom_opened hopened hpos hfits
        have hopen : ∀ i ∈ (some opened).toList, i.ReadFrom text p.start p.stop :=
          List.forall_mem_singleton.2 hread
        obtain ⟨hall, hapart⟩ := ih (some opened) (Int.le_of_lt hpos) hopen
        have hcurrent : ∀ i ∈ current.toList, i.ReadFrom text lo p.start := fun i hi =>
          (hcurrent i hi).mono (Int.le_refl lo) hstart
        refine ⟨fun i hi => ?_, ?_⟩
        · rcases List.mem_append.1 hi with hi | hi
          · exact (hcurrent i hi).mono (Int.le_refl lo) (by omega)
          · exact (hall i hi).mono (by omega) (Int.le_refl _)
        · rw [List.map_append]
          exact Traced.pairwise_append_of_within (pairwise_toList current) hapart
            (spans_within hcurrent) (spans_within hall)
      next hopened =>
        split
        next a ha =>
          -- The open instruction grows up to the end of this piece.
          obtain ⟨hspan, hdescribes⟩ := PlacedPiece.argument?_spec ha
          have hwithin : (p.span line).Within mid p.stop := ⟨hstart, hpos, Int.le_refl _⟩
          refine ih _ (by omega) fun i hi => ?_
          obtain ⟨j, hj, rfl⟩ := Option.map_eq_some_iff.1 (Option.mem_toList.1 hi)
          exact (hcurrent j (Option.mem_toList.2 hj)).extend hspan hwithin (hdescribes _ hfits)
        next ha =>
          exact ih current (by omega) fun i hi =>
            (hcurrent i hi).mono (Int.le_refl lo) (by omega)

/-- The arguments of the instructions of a line come from its pieces, in their order. -/
theorem arguments_gatherInstructions (line : Int) (current : Option Instruction)
    (ps : List PlacedPiece) :
    ((gatherInstructions line current ps).flatMap Instruction.arguments).Sublist
      (current.toList.flatMap Instruction.arguments ++ ps.filterMap (·.argument? line)) := by
  induction ps generalizing current with
  | nil => exact List.sublist_append_left _ _
  | cons p ps ih =>
      rw [gatherInstructions]
      split
      next opened hopened =>
        obtain ⟨-, harguments, -⟩ := PlacedPiece.opened?_spec hopened
        have ih := ih (some opened)
        rw [Option.toList_some, List.flatMap_singleton, harguments, List.nil_append] at ih
        rw [List.flatMap_append]
        refine (List.Sublist.refl _).append (ih.trans ?_)
        exact List.Sublist.filterMap _ (List.sublist_cons_self p ps)
      next hopened =>
        split
        next a ha =>
          rw [List.filterMap_cons_some ha]
          refine (ih _).trans ?_
          cases current with
          | none => exact List.sublist_cons_self a _
          | some i => simp [Instruction.extend]
        next ha =>
          rw [List.filterMap_cons_none ha]
          exact ih current

/-- The places of the comments among pieces. -/
theorem mem_commentSpans {line : Int} {ps : List PlacedPiece} {s : Span}
    (h : s ∈ commentSpans (ps.filterMap (·.comment? line))) :
    ∃ p ∈ ps, s = p.span line ∧ p.argument? line = none := by
  obtain ⟨c, hc, hs⟩ := List.mem_filterMap.1 h
  obtain ⟨p, hp, hc⟩ := List.mem_filterMap.1 hc
  obtain ⟨hspan, hargument, -⟩ := PlacedPiece.comment?_spec hc
  exact ⟨p, hp, Option.some.inj (hs.symm.trans hspan), hargument⟩

/-- The places of the arguments among pieces. -/
theorem mem_argumentSpans {line : Int} {ps : List PlacedPiece} {s : Span}
    (h : s ∈ (ps.filterMap (·.argument? line)).filterMap Argument.span) :
    ∃ p ∈ ps, s = p.span line ∧ p.argument? line ≠ none := by
  obtain ⟨a, ha, hs⟩ := List.mem_filterMap.1 h
  obtain ⟨p, hp, ha⟩ := List.mem_filterMap.1 ha
  obtain ⟨hspan, -⟩ := PlacedPiece.argument?_spec ha
  refine ⟨p, hp, Option.some.inj (hs.symm.trans hspan), ?_⟩
  rw [ha]
  exact Option.some_ne_none a

namespace Laid

variable {line : Int} {ps : List PlacedPiece}

/-- Tokens that have the places of pieces follow one another as the pieces do. -/
theorem pairwise_filterMap (h : Laid text line lo hi ps) {f : PlacedPiece → Option Span}
    (hf : ∀ p s, f p = some s → s = p.span line) : (ps.filterMap f).Pairwise Span.Before := by
  refine List.Pairwise.filterMap f (fun p q hpq s hs s' hs' => ?_) h.pairwise
  rw [hf p s hs, hf q s' hs']
  exact hpq

/-- **What a line says stands where its pieces are.** -/
theorem traced (h : Laid text line lo hi ps) :
    Traced text lo hi (ps.filterMap (·.comment? line)) (gatherInstructions line none ps) := by
  obtain ⟨hinstructions, hapart⟩ :=
    readFrom_gatherInstructions h none (Int.le_refl lo) nofun
  have harguments : (argumentSpans (gatherInstructions line none ps)).Sublist
      ((ps.filterMap (·.argument? line)).filterMap Argument.span) :=
    (arguments_gatherInstructions line none ps).filterMap _
  refine ⟨fun c hc => ?_, hinstructions, ?_, hapart, ?_, fun s hs s' hs' => ?_⟩
  · obtain ⟨p, hp, hc⟩ := List.mem_filterMap.1 hc
    obtain ⟨hspan, -, hdescribes⟩ := PlacedPiece.comment?_spec hc
    obtain ⟨hwithin, hfits⟩ := h.of_mem hp
    exact ⟨p.span line, hspan, hwithin, hdescribes _ hfits⟩
  · rw [commentSpans, List.filterMap_filterMap]
    refine h.pairwise_filterMap fun p s hs => ?_
    obtain ⟨c, hc, hs⟩ := Option.bind_eq_some_iff.1 hs
    obtain ⟨hspan, -⟩ := PlacedPiece.comment?_spec hc
    exact Option.some.inj (hs.symm.trans hspan)
  · refine List.Pairwise.sublist harguments ?_
    rw [List.filterMap_filterMap]
    refine h.pairwise_filterMap fun p s hs => ?_
    obtain ⟨a, ha, hs⟩ := Option.bind_eq_some_iff.1 hs
    obtain ⟨hspan, -⟩ := PlacedPiece.argument?_spec ha
    exact Option.some.inj (hs.symm.trans hspan)
  · obtain ⟨p, hp, rfl, hcomment⟩ := mem_commentSpans hs
    obtain ⟨q, hq, rfl, hargument⟩ := mem_argumentSpans (harguments.subset hs')
    -- A comment and an argument are two different pieces, and either one comes first.
    have hne : p ≠ q := by
      rintro rfl
      exact hargument hcomment
    have hsymm : Std.Symm fun p q : PlacedPiece =>
        (p.span line).Before (q.span line) ∨ (q.span line).Before (p.span line) :=
      ⟨fun p q => Or.symm⟩
    have hpairwise : ps.Pairwise fun p q : PlacedPiece =>
        (p.span line).Before (q.span line) ∨ (q.span line).Before (p.span line) :=
      h.pairwise.imp Or.inl
    exact hpairwise.forall hp hq hne

end Laid

/-! ## The lines of a text -/

/-- **A line of a text, read by itself**, without the line ends that close it. -/
theorem traced_contentOf (number : Int) {raw front rest : List Char}
    (htext : text = front ++ (raw ++ rest)) :
    Traced text front.length (front.length + (Text.body raw).length)
      (contentOf number front.length (pieces false (Text.body raw)).pieces).comments
      (contentOf number front.length (pieces false (Text.body raw)).pieces).instructions := by
  -- A fault and the line end may leave a rest of the line that no piece covers.
  have hprefix := flatMap_text_isPrefix false (Text.body raw)
  have hlength := hprefix.length_le
  obtain ⟨rest', hraw⟩ := hprefix.trans (body_isPrefix raw)
  have hpieces : text = front ++ ((pieces false (Text.body raw)).pieces.flatMap Piece.text ++
      (rest' ++ rest)) := by
    rw [htext, ← List.append_assoc _ rest', hraw]
  exact (laid_placePieces (fits_pieces false (Text.body raw)) number hpieces).traced.mono
    (Int.le_refl _) (by omega)

/-- **The lines of a text, read one by one.** -/
theorem traced_contentsFrom (number : Int) {raws : List (List Char)} {front : List Char}
    (htext : text = front ++ raws.flatten) :
    Traced text front.length text.length
      ((contentsFrom number front.length raws).flatMap LineContent.comments)
      ((contentsFrom number front.length raws).flatMap LineContent.instructions) := by
  induction raws generalizing number front with
  | nil => exact Traced.nil text _ _
  | cons raw raws ih =>
      have hlength := (body_isPrefix raw).length_le
      have hline : Traced text front.length (front.length + raw.length) _ _ :=
        (traced_contentOf number htext).mono (Int.le_refl _) (by omega)
      have hraws : text = (front ++ raw) ++ raws.flatten := by
        rw [htext, List.flatten_cons, List.append_assoc]
      have hrest := ih (number + 1) hraws
      rw [List.length_append, Int.natCast_add] at hrest
      have hend : (front.length + raw.length : Int) ≤ text.length := by
        rw [htext, List.flatten_cons]
        simp only [List.length_append]
        omega
      rw [contentsFrom, List.flatMap_cons, List.flatMap_cons]
      exact hline.append hrest (by omega) hend

end

/-! ## The source lines of a text -/

theorem sourceLines_of_fault {raw : List Char} {f : IntegerFault}
    (h : (pieces false (Text.body raw)).fault = some f) (number offset : Int)
    (waiting : Option Waiting) (rest : List (List Char)) :
    sourceLines number offset waiting (raw :: rest) = [] := by
  unfold sourceLines
  rw [readingFrom]
  simp only [h, ReadingEvent.line?_notes]
  rfl

/-- A reading delivers the comments and the instructions of the lines, those behind a fault
excepted. -/
theorem sourceLines_sublist (number offset : Int) (waiting : Option Waiting)
    (raws : List (List Char)) :
    ((sourceLines number offset waiting raws).flatMap SourceLine.comments).Sublist
        (Waiting.commentsOf waiting ++
          (contentsFrom number offset raws).flatMap LineContent.comments) ∧
      ((sourceLines number offset waiting raws).flatMap SourceLine.instructions).Sublist
        ((contentsFrom number offset raws).flatMap LineContent.instructions) := by
  induction raws generalizing number offset waiting with
  | nil =>
      cases waiting with
      | none => exact ⟨List.Sublist.refl _, List.Sublist.refl _⟩
      | some w => exact ⟨List.Sublist.refl _, List.Sublist.refl _⟩
  | cons raw raws ih =>
      cases hfault : (pieces false (Text.body raw)).fault with
      | some f =>
          -- The reading ends here, and what waited is lost.
          rw [sourceLines_of_fault hfault]
          exact ⟨List.nil_sublist _, List.nil_sublist _⟩
      | none =>
          have ih := ih (number + 1) (offset + raw.length)
          rw [sourceLines_cons hfault, contentsFrom]
          generalize contentOf number offset (pieces false (Text.body raw)).pieces = content
          rw [List.flatMap_cons, List.flatMap_cons, ← List.append_assoc]
          dsimp only
          split
          · -- The line completes a source line.
            obtain ⟨hcomments, hinstructions⟩ := ih none
            rw [List.flatMap_cons, List.flatMap_cons]
            exact ⟨(List.Sublist.refl _).append hcomments,
              (List.Sublist.refl _).append hinstructions⟩
          next hi =>
            have hi : content.instructions = [] := by simpa using hi
            rw [hi]
            split
            · -- The comments wait for a later line.
              obtain ⟨hcomments, hinstructions⟩ := ih (some (Waiting.add waiting content.comments
                number offset (offset + (Text.body raw).length)))
              rw [Waiting.commentsOf_add] at hcomments
              exact ⟨hcomments, hinstructions⟩
            next hc =>
              have hc : content.comments = [] := by simpa using hc
              rw [hc, List.append_nil]
              exact ih waiting

/-- **What a reading delivers stands in the text.** -/
theorem traced_reading (text : List Char) :
    let ls := (reading text).filterMap ReadingEvent.line?
    Traced text 0 text.length (ls.flatMap SourceLine.comments)
      (ls.flatMap SourceLine.instructions) := by
  have hflatten : text = [] ++ (Text.lines text).flatten := (Text.lines_flatten text).symm
  have htraced := traced_contentsFrom 1 hflatten
  obtain ⟨hcomments, hinstructions⟩ := sourceLines_sublist 1 0 none (Text.lines text)
  exact htraced.sublist hcomments hinstructions

/-- The text at the place of an instruction may start with a small letter, where its mnemonic is
the capital one. -/
theorem reading_smallLetter :
    let text := "g1".toList
    let ls := (reading text).filterMap ReadingEvent.line?
    ∃ i ∈ ls.flatMap SourceLine.instructions, i.span.slice text = "g1".toList ∧
      i.mnemonic = "G" ∧ ¬i.mnemonic.toList <+: i.span.slice text := by
  have hread : (reading "g1".toList).filterMap ReadingEvent.line? =
      [⟨⟨1, 0, 2⟩, [], [⟨"G", 1, 0, ⟨1, 0, 2⟩, []⟩]⟩] := by
    decide +kernel
  intro text ls
  refine ⟨⟨"G", 1, 0, ⟨1, 0, 2⟩, []⟩, ?_, by decide, rfl, by decide⟩
  rw [show ls = _ from hread]
  exact List.mem_singleton_self _

end OpcodeAtlas
