import OpcodeAtlas.Proofs.Program.PieceText
import OpcodeAtlas.Proofs.Program.Wording

/-!
# Lexemes in front of a mark

A semicolon and a star are marks: no blank, no number and no gap runs into them. So a text is taken
apart in front of a mark as it is at the end of a line (`Lexed.next_append_mark`), provided that it
is closed: it holds no semicolon, and each parenthesis that it opens is closed in it. What the mark
starts, a comment or a checksum, is one more lexeme (`pieces_remark`, `pieces_checksum`), whatever
stands in front of it.

Two readings, one behind the other, are `LineReading.followedBy`: a fault in the first one stops
both.
-/

set_option autoImplicit false

namespace OpcodeAtlas

open Text

/-! ## Marks and closed texts -/

/-- A text starts with a mark, if with anything: a character that is no part of a row of blanks, of
a gap or of a number. -/
def StartsMark (tail : List Char) : Prop :=
  ∀ d ∈ tail.head?, isBlank d = false ∧ isDigit d = false ∧ d ∉ ['.', '+', '-']

/-- No comment of a text reaches to its end: it holds no semicolon, and behind each opening
parenthesis stands a closing one. -/
structure Closed (s : List Char) : Prop where
  semicolon : ';' ∉ s
  parenthesis : ∀ rest, '(' :: rest <:+ s → ')' ∈ rest

theorem startsMark_semicolon (note : List Char) : StartsMark (';' :: note) := by
  rintro d ⟨⟩
  decide

theorem startsMark_star (digits : List Char) : StartsMark ('*' :: digits) := by
  rintro d ⟨⟩
  decide

/-- What stands at the end of a closed text is closed. -/
theorem Closed.of_append {front rest : List Char} (h : Closed (front ++ rest)) : Closed rest := by
  refine ⟨fun hmem => h.semicolon (List.mem_append_right front hmem), fun behind hbehind => ?_⟩
  exact h.parenthesis behind (hbehind.trans (List.suffix_append front rest))

/-- The text behind the first lexeme of a closed text is closed. -/
theorem Closed.rest {c : Char} {s : List Char} (h : Closed (c :: s)) :
    Closed (Lexed.next c s).rest := by
  rw [← Lexed.next_append c s] at h
  exact h.of_append

/-! ## Numbers in front of a mark -/

section
variable {tail : List Char}

/-- A blank that may stand in a word is a blank. -/
theorem isGap_of_not_isBlank {d : Char} (hd : isBlank d = false) : isGap d = false := by
  have hspace : d ≠ ' ' := by
    rintro rfl
    exact absurd hd (by decide)
  have htab : d ≠ '\t' := by
    rintro rfl
    exact absurd hd (by decide)
  simp [isGap, hspace, htab]

theorem unsignedPrefix_append_mark (htail : StartsMark tail) (s : List Char) :
    unsignedPrefix (s ++ tail) = unsignedPrefix s := by
  have hdigit : ∀ d ∈ tail.head?, isDigit d = false := fun d hd => (htail d hd).2.1
  obtain ⟨htake, hdrop⟩ := cut_append s fun _ => hdigit
  unfold unsignedPrefix
  rw [htake, hdrop]
  cases hbehind : s.dropWhile isDigit with
  | nil =>
      -- All of the text is digits, and no point follows them.
      cases tail with
      | nil => rfl
      | cons d tail =>
          have hpoint : d ≠ '.' := by
            rintro rfl
            exact (htail '.' rfl).2.2 (by decide)
          rw [List.nil_append]
          split
          next tail' heq => exact absurd (List.cons.inj heq).1 hpoint
          · rfl
  | cons d behind =>
      rw [List.cons_append]
      by_cases hpoint : d = '.'
      · subst hpoint
        obtain ⟨hfraction, -⟩ := cut_append behind fun _ => hdigit
        simp only [hfraction]
      · split
        next tail' heq => exact absurd (List.cons.inj heq).1 hpoint
        · split
          next tail' heq => exact absurd (List.cons.inj heq).1 hpoint
          · rfl

theorem numberPrefix_append_mark (htail : StartsMark tail) (s : List Char) :
    numberPrefix (s ++ tail) = numberPrefix s := by
  cases s with
  | nil =>
      cases tail with
      | nil => rfl
      | cons d tail =>
          have hmark := (htail d rfl).2.2
          have hplus : d ≠ '+' := fun h => hmark (by simp [h])
          have hminus : d ≠ '-' := fun h => hmark (by simp [h])
          rw [List.nil_append, numberPrefix_of_unsigned hplus hminus]
          exact unsignedPrefix_append_mark htail []
  | cons c s =>
      rw [List.cons_append, numberPrefix, numberPrefix, unsignedPrefix_append_mark htail s,
        ← List.cons_append, unsignedPrefix_append_mark htail (c :: s)]

/-! ## Lexemes in front of a mark -/

/-- **A closed text is taken apart in front of a mark as it is at the end of a line.** -/
theorem Lexed.next_append_mark (htail : StartsMark tail) {c : Char} {s : List Char}
    (hs : Closed (c :: s)) :
    next c (s ++ tail) = { next c s with rest := (next c s).rest ++ tail } := by
  have hblank : ∀ d ∈ tail.head?, isBlank d = false := fun d hd => (htail d hd).1
  have hdigit : ∀ d ∈ tail.head?, isDigit d = false := fun d hd => (htail d hd).2.1
  have hgap : ∀ d ∈ tail.head?, isGap d = false := fun d hd =>
    isGap_of_not_isBlank (hblank d hd)
  have hsemicolon : c ≠ ';' := by
    rintro rfl
    exact hs.semicolon List.mem_cons_self
  unfold next
  -- The kinds of lexemes, in the order in which the reader tries them.
  by_cases hc : isBlank c = true
  · obtain ⟨htake, hdrop⟩ := cut_append s fun _ => hblank
    simp only [hc, if_true, htake, hdrop]
  by_cases hparen : c = '('
  · -- The parenthesis is closed in front of the mark.
    subst hparen
    have hclosing : ')' ∈ s := hs.parenthesis s List.suffix_rfl
    have hne : s.dropWhile (· ≠ ')') ≠ [] := by
      intro hnil
      have hall := List.dropWhile_eq_nil_iff.1 hnil ')' hclosing
      simp at hall
    have hends (hnil : s.dropWhile (· ≠ ')') = []) :
        ∀ d ∈ tail.head?, decide (d ≠ ')') = false := absurd hnil hne
    obtain ⟨htake, hdrop⟩ := cut_append s hends
    obtain ⟨close, behind, hbehind⟩ := List.exists_cons_of_ne_nil hne
    rw [hbehind, List.cons_append] at hdrop
    simp only [hc, Bool.false_eq_true, if_false, hsemicolon, if_true, htake, hdrop, hbehind]
  by_cases hstar : c = '*'
  · subst hstar
    obtain ⟨htake, hdrop⟩ := cut_append s fun _ => hdigit
    simp only [hc, Bool.false_eq_true, if_false, hsemicolon, hparen, if_true, htake, hdrop]
  by_cases hletter : isWordLetter c = true
  · obtain ⟨htake, hdrop⟩ := cut_append s fun _ => hgap
    have hnumber := numberPrefix_append_mark htail (s.dropWhile isGap)
    have hlength := (numberPrefix_isPrefix (s.dropWhile isGap)).length_le
    simp only [hc, Bool.false_eq_true, if_false, hsemicolon, hparen, hstar, hletter, if_true, htake,
      hdrop, hnumber, List.drop_append_of_le_length hlength]
  · simp only [hc, Bool.false_eq_true, if_false, hsemicolon, hparen, hstar, hletter]

end

/-! ## What a mark starts -/

/-- A comment that starts with a semicolon takes up the rest of a line. -/
theorem pieces_remark {note : List Char} (hnote : '\n' ∉ note) (started : Bool) :
    pieces started (';' :: note) = ⟨[⟨.remark note, ';' :: note⟩], none⟩ := by
  have hrow := row_of_not_mem hnote
  have hnext : Lexed.next ';' note = ⟨.remark note, ';' :: note, []⟩ := by
    have htake := List.takeWhile_eq_self_iff.2 hrow
    have hdrop := List.dropWhile_eq_nil_iff.2 hrow
    have hblank : isBlank ';' = false := by decide
    simp only [Lexed.next, hblank, Bool.false_eq_true, if_false, if_true, htake, hdrop]
  rw [pieces_plain hnext rfl, pieces_nil]
  rfl

/-- A checksum at the end of a line. -/
theorem pieces_checksum {digits : List Char} (hdigits : ∀ c ∈ digits, isDigit c = true)
    (started : Bool) :
    pieces started ('*' :: digits) = ⟨[⟨.checksum, '*' :: digits⟩], none⟩ := by
  have hnext : Lexed.next '*' digits = ⟨.checksum, '*' :: digits, []⟩ := by
    have htake := List.takeWhile_eq_self_iff.2 hdigits
    have hdrop := List.dropWhile_eq_nil_iff.2 hdigits
    have hblank : isBlank '*' = false := by decide
    simp only [Lexed.next, hblank, Bool.false_eq_true, if_false, if_true, htake, hdrop]
    rfl
  rw [pieces_plain hnext rfl, pieces_nil]
  rfl

/-! ## One reading behind the other -/

namespace LineReading

/-- What is read behind a reading, unless a fault has stopped it. -/
def followedBy (r r' : LineReading) : LineReading :=
  match r.fault with
  | some _ => r
  | none => ⟨r.pieces ++ r'.pieces, r'.fault⟩

theorem followedBy_of_fault {r : LineReading} {f : IntegerFault} (h : r.fault = some f)
    (r' : LineReading) : r.followedBy r' = r := by
  rw [followedBy, h]

theorem followedBy_of_none {r : LineReading} (h : r.fault = none) (r' : LineReading) :
    r.followedBy r' = ⟨r.pieces ++ r'.pieces, r'.fault⟩ := by
  rw [followedBy, h]

theorem cons_followedBy (p : Piece) (r r' : LineReading) :
    (r.cons p).followedBy r' = (r.followedBy r').cons p := by
  cases h : r.fault with
  | some f => rw [followedBy_of_fault h, followedBy_of_fault (r := r.cons p) h]
  | none =>
      rw [followedBy_of_none h, followedBy_of_none (r := r.cons p) h]
      rfl

end LineReading

/-- **A closed text is read in front of a mark as it is at the end of a line**, if none of its
instructions takes what follows for its message. -/
theorem pieces_append_mark {tail : List Char} (htail : StartsMark tail) {r' : LineReading}
    (hread : ∀ started, pieces started tail = r') (started : Bool) {s : List Char} (hs : Closed s)
    (hmessage : ∀ p ∈ (pieces started s).pieces, ∀ letter major minor,
      p.kind = .opening letter major minor → ∀ t, ';' ∉ t →
        messageText letter major minor (t ++ tail) = messageText letter major minor t) :
    pieces started (s ++ tail) = (pieces started s).followedBy r' := by
  -- Along the pieces of the closed text: each lexeme is the same, and what is left is closed.
  revert hs hmessage
  refine pieces_induction (motive := fun started s r => Closed s →
    (∀ p ∈ r.pieces, ∀ letter major minor, p.kind = .opening letter major minor →
      ∀ t, ';' ∉ t →
        messageText letter major minor (t ++ tail) = messageText letter major minor t) →
    pieces started (s ++ tail) = r.followedBy r') ?_ ?_ ?_ ?_ ?_ started s
  · intro started _ _
    exact hread started
  · intro started c s f hfault hs _
    have hnext := Lexed.next_append_mark htail hs
    rw [List.cons_append, pieces_fault hnext hfault]
    rfl
  · intro started c s hopening ih hs hmessage
    have hnext := Lexed.next_append_mark htail hs
    obtain ⟨-, hmessage⟩ := List.forall_mem_cons.1 hmessage
    rw [List.cons_append, pieces_plain hnext hopening, LineReading.cons_followedBy,
      ih hs.rest hmessage]
  · intro started c s letter major minor hopening hnone ih hs hmessage
    have hnext := Lexed.next_append_mark htail hs
    obtain ⟨hhead, hmessage⟩ := List.forall_mem_cons.1 hmessage
    have hnone' := (hhead letter major minor rfl _ hs.rest.semicolon).trans hnone
    rw [List.cons_append, pieces_opening hnext hopening hnone', LineReading.cons_followedBy,
      ih hs.rest hmessage]
  · intro started c s letter major minor m rest hopening hm hne hrest ih hs hmessage
    have hnext := Lexed.next_append_mark htail hs
    obtain ⟨hhead, hmessage⟩ := List.forall_mem_cons.1 hmessage
    obtain ⟨-, hmessage⟩ := List.forall_mem_cons.1 hmessage
    have hm' := (hhead letter major minor rfl _ hs.rest.semicolon).trans hm
    have hbehind : (Lexed.next c s).rest ++ tail = m ++ (rest ++ tail) := by
      rw [hrest, List.append_assoc]
    rw [List.cons_append, pieces_message hnext hopening hbehind hm' hne,
      LineReading.cons_followedBy, LineReading.cons_followedBy,
      ih (hrest ▸ hs.rest).of_append hmessage]

/-! ## What a line says, behind one another -/

theorem placePieces_append (offset : Int) (ps qs : List Piece) :
    placePieces offset (ps ++ qs) =
      placePieces offset ps ++ placePieces (offset + (ps.flatMap Piece.text).length) qs := by
  induction ps generalizing offset with
  | nil => simp [placePieces]
  | cons p ps ih =>
      rw [List.cons_append, placePieces, placePieces, ih, List.cons_append, List.flatMap_cons,
        List.length_append, Int.natCast_add, Int.add_assoc]

/-- Pieces that open nothing and are no arguments do not add to the instructions of a line. -/
theorem gatherInstructions_append {line : Int} {qs : List PlacedPiece}
    (hqs : ∀ q ∈ qs, q.opened? line = none ∧ q.argument? line = none)
    (current : Option Instruction) (ps : List PlacedPiece) :
    gatherInstructions line current (ps ++ qs) = gatherInstructions line current ps := by
  have hnothing (current : Option Instruction) :
      gatherInstructions line current qs = current.toList := by
    induction qs with
    | nil => rfl
    | cons q qs ih =>
        obtain ⟨⟨hopened, hargument⟩, hqs⟩ := List.forall_mem_cons.1 hqs
        rw [gatherInstructions, hopened, hargument]
        exact ih hqs
  induction ps generalizing current with
  | nil => exact hnothing current
  | cons p ps ih =>
      simp only [List.cons_append, gatherInstructions, ih]

end OpcodeAtlas
