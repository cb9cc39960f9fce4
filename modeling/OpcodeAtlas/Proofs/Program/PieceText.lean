import OpcodeAtlas.Proofs.Program.Word

/-!
# The text of a piece

Every piece of a line has a text of its own, which has the shape of what the piece is for
(`shape_pieces`): the text of a comment is its note between delimiters, and that of a word is a
letter, blanks, and the number from which the code or the value was read. The texts follow each
other from the start of the line on (`flatMap_text_isPrefix`), and to its end if nothing stops the
reading (`flatMap_text_pieces`).

What is known of the note, the code or the value of a piece is said by `PieceKind.Fits`, which
leaves out all that only tells the kinds of pieces apart.
-/

set_option autoImplicit false

namespace OpcodeAtlas

open Text Number

/-! ## Texts of comments and words -/

/-- The text of a comment: a semicolon and the note, or the note in parentheses. The note ends with
the first closing parenthesis, which may be missing. -/
inductive RemarkText (note : List Char) : List Char → Prop where
  | semicolon : RemarkText note (';' :: note)
  | closed (h : ')' ∉ note) : RemarkText note ('(' :: note ++ [')'])
  | unclosed (h : ')' ∉ note) : RemarkText note ('(' :: note)

/-- The text of a word: its letter in either case, blanks, and its number. -/
inductive WordText (letter : Char) (number : List Char) : List Char → Prop where
  | mk {c : Char} {gap : List Char} (hletter : isWordLetter c = true) (hupper : c.toUpper = letter)
      (hgap : ∀ g ∈ gap, isGap g = true) : WordText letter number (c :: gap ++ number)

/-- A text is the text of a lexeme. -/
def Lexeme.Fits : Lexeme → List Char → Prop
  | .remark note, text => RemarkText note text
  | .word letter number, text => WordText letter number text ∧ (number = [] ∨ NumberText number)
  | _, _ => True

/-- What stands in front of the first of some character does not hold it. -/
theorem not_mem_takeWhile_ne (d : Char) (s : List Char) : d ∉ s.takeWhile (· ≠ d) := by
  intro hmem
  have hne := List.mem_takeWhile_imp hmem
  exact of_decide_eq_true hne rfl

/-- **The text of a lexeme.** -/
theorem Lexed.fits_next (c : Char) (s : List Char) :
    (Lexed.next c s).lexeme.Fits (Lexed.next c s).text := by
  have hnote := not_mem_takeWhile_ne ')' s
  unfold Lexed.next
  split
  · trivial
  split
  next hsemicolon =>
    subst hsemicolon
    exact .semicolon
  split
  next hparen =>
    subst hparen
    dsimp only
    split
    · exact .unclosed hnote
    next close rest hdrop =>
      have hclose : close = ')' := by
        have hhead := List.head?_dropWhile_not (· ≠ ')') s
        rw [hdrop] at hhead
        simpa using hhead
      subst hclose
      exact .closed hnote
  split
  · trivial
  split
  next hletter =>
    exact ⟨.mk hletter rfl fun g hg => List.mem_takeWhile_imp hg, numberPrefix_spec _⟩
  · trivial

/-! ## Shapes of pieces -/

/-- The text of a piece, for each purpose. A word that could open an instruction, and does not,
has no code number: it has no number at all, or one with a sign. -/
inductive PieceKind.Shape : PieceKind → List Char → Prop where
  | blanks {text : List Char} (h : ∀ c ∈ text, isBlank c = true) : Shape .blanks text
  | checksum {digits : List Char} (h : ∀ c ∈ digits, isDigit c = true) :
      Shape .checksum ('*' :: digits)
  | lineNumber {number text : List Char} (hword : WordText 'N' number text)
      (hnumber : number = [] ∨ NumberText number) : Shape .lineNumber text
  | semicolon {note : List Char} (h : '\n' ∉ note) : Shape (.remark note) (';' :: note)
  | closed {note : List Char} (h : ')' ∉ note) : Shape (.remark note) ('(' :: note ++ [')'])
  | unclosed {note : List Char} (h : ')' ∉ note) : Shape (.remark note) ('(' :: note)
  | opening {letter : Char} {major minor : Int} {number text : List Char}
      (hletter : letter ∈ commandLetters ∨ letter ∈ leadingLetters)
      (hword : WordText letter number text)
      (hcode : readCodeNumber number = .ok (some (major, minor))) :
      Shape (.opening letter major minor) text
  | flag {letter : Char} {text : List Char} (hletter : letter ≠ 'N')
      (hword : WordText letter [] text) : Shape (.argument letter none) text
  | value {letter : Char} {x : Binary64} {number text : List Char} (hletter : letter ≠ 'N')
      (hword : WordText letter number text) (hnumber : NumberText number)
      (hx : readDecimal? number = some x)
      (hopens : opensInstruction true letter = true → readCodeNumber number = .ok none) :
      Shape (.argument letter (some x)) text
  | message {text : List Char} (hcomment : ';' ∉ text) (hblank : allBlank text = false) :
      Shape (.message text) text
  | orphan {letter : Char} {number text : List Char} (hletter : letter ≠ 'N')
      (hword : WordText letter number text) (hnumber : number = [] ∨ NumberText number)
      (hopens : opensInstruction false letter = true → readCodeNumber number = .ok none) :
      Shape (.orphan letter number) text
  | stray {c : Char} (hblank : isBlank c = false) (hmark : c ∉ [';', '(', '*'])
      (hletter : isWordLetter c = false) : Shape (.stray c) [c]

section
variable {started : Bool}

/-- What opens an instruction is a word with a letter for it and a code number. -/
theorem exists_word_of_opening {lexeme : Lexeme} {letter : Char} {major minor : Int}
    (hopening : opening? started lexeme = .ok (some (letter, major, minor))) :
    ∃ number, lexeme = .word letter number ∧ opensInstruction started letter = true ∧
      readCodeNumber number = .ok (some (major, minor)) := by
  cases lexeme with
  | word letter' number =>
      rw [opening?] at hopening
      split at hopening
      · next hopens =>
        cases hcode : readCodeNumber number with
        | error f =>
            rw [hcode] at hopening
            cases hopening
        | ok code =>
            rw [hcode] at hopening
            cases code with
            | none => cases hopening
            | some code =>
                cases hopening
                exact ⟨number, rfl, hopens, hcode⟩
      · cases hopening
  | _ => cases hopening

/-- A word that opens nothing has no code number. -/
theorem readCodeNumber_of_opening?_none {letter : Char} {number : List Char}
    (h : opening? started (.word letter number) = .ok none)
    (hopens : opensInstruction started letter = true) : readCodeNumber number = .ok none := by
  rw [opening?, if_pos hopens] at h
  cases hcode : readCodeNumber number with
  | error f =>
      rw [hcode] at h
      cases h
  | ok code =>
      rw [hcode] at h
      cases code with
      | none => rfl
      | some code => cases h

/-- A comment that starts with a parenthesis ends with the first closing one. -/
theorem shape_parenthesised {note text : List Char} (h : RemarkText note ('(' :: text)) :
    (PieceKind.remark note).Shape ('(' :: text) := by
  generalize htext : '(' :: text = t at h ⊢
  cases h with
  | semicolon => exact absurd (List.cons.inj htext).1 (by decide)
  | closed h => exact .closed h
  | unclosed h => exact .unclosed h

/-- A word that opens nothing is a line number, an argument or an orphan. -/
theorem shape_word {letter : Char} {number text : List Char} (hword : WordText letter number text)
    (hnumber : number = [] ∨ NumberText number)
    (hopening : opening? started (.word letter number) = .ok none) :
    (plainKind started (.word letter number)).Shape text := by
  have hopens := readCodeNumber_of_opening?_none hopening
  rw [plainKind]
  split
  next hletter =>
    subst hletter
    exact .lineNumber hword hnumber
  next hletter =>
    cases started with
    | false => exact .orphan hletter hword hnumber hopens
    | true =>
        rcases hnumber with rfl | hnumber
        · exact .flag hletter hword
        · obtain ⟨x, hx⟩ := exists_readDecimal? hnumber
          obtain ⟨d, tail, rfl, -⟩ := hnumber.exists_cons
          rw [if_pos rfl, List.isEmpty_cons, if_neg Bool.false_ne_true, hx]
          exact .value hletter hword hnumber hx hopens

/-- **A lexeme that opens nothing has the shape of what it is for.** -/
theorem shape_plainKind {c : Char} {s : List Char}
    (hopening : opening? started (Lexed.next c s).lexeme = .ok none) :
    (plainKind started (Lexed.next c s).lexeme).Shape (Lexed.next c s).text := by
  have hfits := Lexed.fits_next c s
  revert hopening hfits
  unfold Lexed.next
  split
  next hblank =>
    exact fun _ _ => .blanks
      (List.forall_mem_cons.2 ⟨hblank, fun d hd => List.mem_takeWhile_imp hd⟩)
  rename_i hblank
  split
  next hsemicolon =>
    subst hsemicolon
    exact fun _ _ => .semicolon (not_mem_takeWhile_ne '\n' s)
  rename_i hsemicolon
  split
  next hparen =>
    subst hparen
    dsimp only
    split
    · exact fun _ hfits => shape_parenthesised hfits
    · exact fun _ hfits => shape_parenthesised hfits
  rename_i hparen
  split
  next hstar =>
    subst hstar
    exact fun _ _ => .checksum fun d hd => List.mem_takeWhile_imp hd
  rename_i hstar
  split
  next hletter => exact fun hopening hfits => shape_word hfits.1 hfits.2 hopening
  next hletter =>
    exact fun _ _ => .stray (by simpa using hblank) (by simp [hsemicolon, hparen, hstar])
      (by simpa using hletter)

/-- A word that opens an instruction has the shape of one. -/
theorem shape_opening {letter : Char} {major minor : Int} {c : Char} {s : List Char}
    (hopening : opening? started (Lexed.next c s).lexeme = .ok (some (letter, major, minor))) :
    (PieceKind.opening letter major minor).Shape (Lexed.next c s).text := by
  have hfits := Lexed.fits_next c s
  obtain ⟨number, hlexeme, hopens, hcode⟩ := exists_word_of_opening hopening
  rw [hlexeme] at hfits
  simp only [opensInstruction, Bool.or_eq_true, Bool.and_eq_true, List.contains_iff_mem] at hopens
  exact .opening (hopens.imp_right And.left) hfits.1 hcode

end

/-- There is a message only behind a word that takes one, and then it is not blank and reaches to
the next semicolon. -/
theorem messageText_spec {letter : Char} {major minor : Int} {s m : List Char}
    (h : messageText letter major minor s = m) (hm : m ≠ []) :
    takesMessage letter major minor = true ∧ ';' ∉ m ∧ allBlank m = false := by
  unfold messageText at h
  split at h
  next htakes =>
    dsimp only at h
    split at h
    · exact absurd h.symm hm
    next hblank =>
      subst h
      exact ⟨htakes, not_mem_takeWhile_ne ';' s, by simpa using hblank⟩
  · exact absurd h.symm hm

/-! ## Pieces of a line -/

/-- The message is what stands behind an opening word. -/
theorem messageText_isPrefix (letter : Char) (major minor : Int) (s : List Char) :
    messageText letter major minor s <+: s := by
  unfold messageText
  split
  · dsimp only
    split
    · exact List.nil_prefix
    · exact List.takeWhile_prefix _
  · exact List.nil_prefix

/-- **Induction on the pieces of a line**: no piece is left, the reading stops, or one piece or an
opening word and its message are put in front of the pieces of the rest. -/
theorem pieces_induction {motive : Bool → List Char → LineReading → Prop}
    (nil : ∀ started, motive started [] ⟨[], none⟩)
    (fault : ∀ started c s f, opening? started (Lexed.next c s).lexeme = .error f →
      motive started (c :: s) ⟨[], some f⟩)
    (plain : ∀ started c s, opening? started (Lexed.next c s).lexeme = .ok none →
      motive started (Lexed.next c s).rest (pieces started (Lexed.next c s).rest) →
        motive started (c :: s) ((pieces started (Lexed.next c s).rest).cons
          ⟨plainKind started (Lexed.next c s).lexeme, (Lexed.next c s).text⟩))
    (opening : ∀ started c s letter major minor,
      opening? started (Lexed.next c s).lexeme = .ok (some (letter, major, minor)) →
        messageText letter major minor (Lexed.next c s).rest = [] →
          motive true (Lexed.next c s).rest (pieces true (Lexed.next c s).rest) →
            motive started (c :: s) ((pieces true (Lexed.next c s).rest).cons
              ⟨.opening letter major minor, (Lexed.next c s).text⟩))
    (message : ∀ started c s letter major minor m rest,
      opening? started (Lexed.next c s).lexeme = .ok (some (letter, major, minor)) →
        messageText letter major minor (Lexed.next c s).rest = m → m ≠ [] →
          (Lexed.next c s).rest = m ++ rest → motive true rest (pieces true rest) →
            motive started (c :: s) (((pieces true rest).cons ⟨.message m, m⟩).cons
              ⟨.opening letter major minor, (Lexed.next c s).text⟩))
    (started : Bool) (s : List Char) : motive started s (pieces started s) := by
  fun_induction pieces started s with
  | case1 started => exact nil started
  | case2 started c s lexed f hopening => exact fault started c s f hopening
  | case3 started c s lexed hopening ih => exact plain started c s hopening ih
  | case4 started c s lexed letter major minor hopening m behind behind' ih =>
      -- The message is a piece of its own unless there is none.
      by_cases hempty : m.isEmpty = true
      · have hdrop : lexed.rest.drop m.length = lexed.rest := by
          rw [List.isEmpty_iff.1 hempty]
          rfl
        have hbehind : behind = pieces true lexed.rest := congrArg (pieces true) hdrop
        rw [hdrop] at ih
        rw [show behind' = behind from dif_pos hempty, hbehind]
        exact opening started c s letter major minor hopening (List.isEmpty_iff.1 hempty) ih
      · have hrest : m ++ lexed.rest.drop m.length = lexed.rest :=
          List.prefix_iff_eq_append.1 (messageText_isPrefix letter major minor lexed.rest)
        rw [show behind' = behind.cons ⟨.message m, m⟩ from dif_neg hempty]
        exact message started c s letter major minor m _ hopening rfl (by simpa using hempty)
          hrest.symm ih

/-- What holds of the pieces of a line: it holds of the three kinds of pieces that are put in front
of others. -/
theorem forall_mem_pieces {P : Piece → Prop}
    (hplain : ∀ started c s, opening? started (Lexed.next c s).lexeme = .ok none →
      P ⟨plainKind started (Lexed.next c s).lexeme, (Lexed.next c s).text⟩)
    (hopens : ∀ started c s letter major minor,
      opening? started (Lexed.next c s).lexeme = .ok (some (letter, major, minor)) →
        P ⟨.opening letter major minor, (Lexed.next c s).text⟩)
    (hmessage : ∀ letter major minor s m, messageText letter major minor s = m → m ≠ [] →
      P ⟨.message m, m⟩) (started : Bool) (s : List Char) :
    ∀ p ∈ (pieces started s).pieces, P p := by
  refine pieces_induction (motive := fun _ _ r => ∀ p ∈ r.pieces, P p) (fun _ => nofun)
    (fun _ _ _ _ _ => nofun) ?_ ?_ ?_ started s
  · intro started c s hopening ih
    exact List.forall_mem_cons.2 ⟨hplain started c s hopening, ih⟩
  · intro started c s letter major minor hopening _ ih
    exact List.forall_mem_cons.2 ⟨hopens started c s letter major minor hopening, ih⟩
  · intro started c s letter major minor m rest hopening hm hne hrest ih
    exact List.forall_mem_cons.2 ⟨hopens started c s letter major minor hopening,
      List.forall_mem_cons.2 ⟨hmessage letter major minor _ m hm hne, ih⟩⟩

/-- **Every piece has the shape of what it is for.** -/
theorem shape_pieces (started : Bool) (s : List Char) :
    ∀ p ∈ (pieces started s).pieces, p.kind.Shape p.text := by
  apply forall_mem_pieces
  · intro started c s hopening
    exact shape_plainKind hopening
  · intro started c s letter major minor hopening
    exact shape_opening hopening
  · intro letter major minor s m hmessage hm
    obtain ⟨-, hcomment, hblank⟩ := messageText_spec hmessage hm
    exact .message hcomment hblank

/-- No piece is empty. -/
theorem text_ne_nil_of_mem_pieces (started : Bool) (s : List Char) :
    ∀ p ∈ (pieces started s).pieces, p.text ≠ [] := by
  apply forall_mem_pieces
  · intro started c s _
    exact Lexed.next_text_ne_nil c s
  · intro started c s letter major minor _
    exact Lexed.next_text_ne_nil c s
  · intro letter major minor s m _ hm
    exact hm

/-! ## Notes, codes and values -/

/-- A text is the text of a piece. -/
def PieceKind.Fits : PieceKind → List Char → Prop
  | .remark note, text => RemarkText note text
  | .opening letter major minor, text =>
    ∃ number, WordText letter number text ∧ readCodeNumber number = .ok (some (major, minor))
  | .argument letter none, text => WordText letter [] text
  | .argument letter (some x), text =>
    ∃ number, WordText letter number text ∧ readDecimal? number = some x
  | .message m, text => text = m
  | _, _ => True

theorem PieceKind.Shape.fits {kind : PieceKind} {text : List Char} (h : kind.Shape text) :
    kind.Fits text := by
  cases h with
  | semicolon h => exact .semicolon
  | closed h => exact .closed h
  | unclosed h => exact .unclosed h
  | opening hletter hword hcode => exact ⟨_, hword, hcode⟩
  | flag hletter hword => exact hword
  | value hletter hword hnumber hx hopens => exact ⟨_, hword, hx⟩
  | message hcomment hblank => rfl
  | _ => trivial

/-- A piece has a text, and the text is the one of its purpose. -/
structure Piece.Fits (p : Piece) : Prop where
  ne_nil : p.text ≠ []
  kind : p.kind.Fits p.text

/-- **Every piece fits its text.** -/
theorem fits_pieces (started : Bool) (s : List Char) :
    ∀ p ∈ (pieces started s).pieces, p.Fits := fun p hp =>
  ⟨text_ne_nil_of_mem_pieces started s p hp, (shape_pieces started s p hp).fits⟩

/-! ## One text after the other -/

/-- The texts of the pieces follow each other from the start of the line on, up to the fault that
stopped the reading. -/
theorem exists_flatMap_text_append (started : Bool) (s : List Char) :
    ∃ rest, (pieces started s).pieces.flatMap Piece.text ++ rest = s ∧
      ((pieces started s).fault = none → rest = []) := by
  refine pieces_induction (motive := fun _ s r => ∃ rest, r.pieces.flatMap Piece.text ++ rest = s ∧
    (r.fault = none → rest = [])) ?_ ?_ ?_ ?_ ?_ started s
  · intro started
    exact ⟨[], rfl, fun _ => rfl⟩
  · intro started c s f _
    exact ⟨c :: s, rfl, nofun⟩
  · rintro started c s - ⟨rest, hrest, hfault⟩
    refine ⟨rest, ?_, hfault⟩
    rw [LineReading.cons, List.flatMap_cons, List.append_assoc, hrest]
    exact Lexed.next_append c s
  · rintro started c s letter major minor - - ⟨rest, hrest, hfault⟩
    refine ⟨rest, ?_, hfault⟩
    rw [LineReading.cons, List.flatMap_cons, List.append_assoc, hrest]
    exact Lexed.next_append c s
  · rintro started c s letter major minor m behind - - - hbehind ⟨rest, hrest, hfault⟩
    refine ⟨rest, ?_, hfault⟩
    rw [LineReading.cons, LineReading.cons, List.flatMap_cons, List.flatMap_cons,
      List.append_assoc, List.append_assoc, hrest, ← hbehind]
    exact Lexed.next_append c s

/-- **The texts of the pieces follow each other from the start of the line on.** -/
theorem flatMap_text_isPrefix (started : Bool) (s : List Char) :
    (pieces started s).pieces.flatMap Piece.text <+: s := by
  obtain ⟨rest, hrest, -⟩ := exists_flatMap_text_append started s
  exact ⟨rest, hrest⟩

/-- **The texts of the pieces are the whole line** if nothing stops the reading. -/
theorem flatMap_text_pieces {started : Bool} {s : List Char}
    (h : (pieces started s).fault = none) : (pieces started s).pieces.flatMap Piece.text = s := by
  obtain ⟨rest, hrest, hfault⟩ := exists_flatMap_text_append started s
  rwa [hfault h, List.append_nil] at hrest

end OpcodeAtlas
