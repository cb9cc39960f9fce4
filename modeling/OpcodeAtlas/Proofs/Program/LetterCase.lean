import Mathlib.Data.List.Forall2
import OpcodeAtlas.Proofs.Program.DocumentOrder
import OpcodeAtlas.Proofs.Program.PieceText
import OpcodeAtlas.Proofs.Program.Wording
import OpcodeAtlas.Proofs.Text.LetterCase

/-!
# Letter case of a program

The letters of a program may be small or capital ones. A reading of a line in capitals is the
reading of the line, with its comments and messages in capitals (`pieces_capitals`): every lexeme
is found in the same place, because no test of the scanner tells a small letter from its capital,
and the letter of a word is a capital either way. So two lines that differ in letter case only say
the same, up to the case of comments and messages (`readLine_sameLetters`).
-/

set_option autoImplicit false

namespace OpcodeAtlas

open Text Number

/-! ## Texts in capitals -/

namespace Text

/-- A text with capitals for the small letters of ASCII. -/
def capitals (s : List Char) : List Char := s.map Char.toUpper

/-- Two texts differ in the case of letters of ASCII only. -/
def SameLetters (s t : List Char) : Prop := capitals s = capitals t

instance (s t : List Char) : Decidable (SameLetters s t) :=
  inferInstanceAs (Decidable (capitals s = capitals t))

@[simp] theorem capitals_nil : capitals [] = [] := rfl

@[simp] theorem capitals_cons (c : Char) (s : List Char) :
    capitals (c :: s) = c.toUpper :: capitals s := rfl

@[simp] theorem capitals_append (s t : List Char) :
    capitals (s ++ t) = capitals s ++ capitals t := List.map_append

@[simp] theorem length_capitals (s : List Char) : (capitals s).length = s.length :=
  List.length_map _

@[simp] theorem capitals_eq_nil_iff {s : List Char} : capitals s = [] ↔ s = [] :=
  List.map_eq_nil_iff

theorem drop_capitals (n : Nat) (s : List Char) : (capitals s).drop n = capitals (s.drop n) :=
  (List.map_drop).symm

/-- A test does not tell small letters from capitals if it does not tell those of ASCII apart. -/
theorem apply_toUpper {α : Type} {p : Char → α}
    (hp : ∀ n < 128, 97 ≤ n ∧ n ≤ 122 → p (Char.ofNat n).toUpper = p (Char.ofNat n)) (c : Char) :
    p c.toUpper = p c := by
  by_cases hsmall : 97 ≤ c.toNat ∧ c.toNat ≤ 122
  · have h := hp c.toNat (by omega) hsmall
    rwa [Char.ofNat_toNat] at h
  · rw [toUpper_of_not_small hsmall]

@[simp] theorem toUpper_toUpper (c : Char) : c.toUpper.toUpper = c.toUpper :=
  apply_toUpper (by decide) c

@[simp] theorem isBlank_toUpper (c : Char) : isBlank c.toUpper = isBlank c :=
  apply_toUpper (by decide) c

@[simp] theorem isDigit_toUpper (c : Char) : isDigit c.toUpper = isDigit c :=
  apply_toUpper (by decide) c

@[simp] theorem isGap_toUpper (c : Char) : isGap c.toUpper = isGap c :=
  apply_toUpper (by decide) c

@[simp] theorem isWordLetter_toUpper (c : Char) : isWordLetter c.toUpper = isWordLetter c :=
  apply_toUpper (by decide) c

/-- A character that is no letter stays as it is, and no letter becomes it. -/
theorem toUpper_eq_iff {c d : Char} (hd : isWordLetter d = false) : c.toUpper = d ↔ c = d := by
  by_cases hletter : isWordLetter c = true
  · have hne : c ≠ d := ne_of_isWordLetter hletter hd
    have hne' : c.toUpper ≠ d := ne_of_isWordLetter (by rw [isWordLetter_toUpper, hletter]) hd
    exact iff_of_false hne' hne
  · have hsmall : ¬(97 ≤ c.toNat ∧ c.toNat ≤ 122) := by
      simp only [isWordLetter, Bool.or_eq_true, Bool.and_eq_true, decide_eq_true_iff] at hletter
      omega
    rw [toUpper_of_not_small hsmall]

/-- A row of characters without letters stays as it is. -/
theorem capitals_of_no_letter {s : List Char} (hs : ∀ c ∈ s, isWordLetter c = false) :
    capitals s = s := by
  induction s with
  | nil => rfl
  | cons c s ih =>
      obtain ⟨hc, hs⟩ := List.forall_mem_cons.1 hs
      rw [capitals_cons, (toUpper_eq_iff hc).2 rfl, ih hs]

section
variable {p : Char → Bool} (hp : ∀ c, p c.toUpper = p c)
include hp

theorem takeWhile_capitals (s : List Char) :
    (capitals s).takeWhile p = capitals (s.takeWhile p) := by
  rw [capitals, List.takeWhile_map, show p ∘ Char.toUpper = p from funext hp, capitals]

theorem dropWhile_capitals (s : List Char) :
    (capitals s).dropWhile p = capitals (s.dropWhile p) := by
  rw [capitals, List.dropWhile_map, show p ∘ Char.toUpper = p from funext hp, capitals]

theorem dropEndWhile_capitals (s : List Char) :
    dropEndWhile p (capitals s) = capitals (dropEndWhile p s) := by
  induction s with
  | nil => rfl
  | cons c s ih =>
      rw [capitals_cons, dropEndWhile, dropEndWhile, ih]
      cases dropEndWhile p s with
      | nil =>
          simp only [capitals_nil, hp]
          split
          · rfl
          · rfl
      | cons d rest => rfl

end

/-- Trimming looks at blanks only. -/
theorem trim_capitals (s : List Char) : trim (capitals s) = capitals (trim s) := by
  rw [trim, dropWhile_capitals isBlank_toUpper, dropEndWhile_capitals isBlank_toUpper, trim]

theorem allBlank_capitals (s : List Char) : allBlank (capitals s) = allBlank s := by
  rw [allBlank, capitals, List.all_map, show isBlank ∘ Char.toUpper = isBlank from
    funext isBlank_toUpper, allBlank]

end Text

/-! ## Lexemes in capitals -/

/-- No character of a number is a letter. -/
theorem isWordLetter_of_mem_numberPrefix {s : List Char} :
    ∀ c ∈ numberPrefix s, isWordLetter c = false := by
  have hmarks : ∀ c ∈ ['.', '+', '-'], isWordLetter c = false := by
    simp only [List.forall_mem_cons]
    exact ⟨by decide, by decide, by decide, List.forall_mem_nil _⟩
  intro c hc
  rcases numberPrefix_spec s with hnil | hnumber
  · rw [hnil] at hc
    cases hc
  · rcases hnumber.mem c hc with hdigit | hmark
    · have hascii := ascii_of_isDigit hdigit
      simp only [isWordLetter, Bool.or_eq_false_iff, Bool.and_eq_false_iff,
        decide_eq_false_iff_not]
      omega
    · exact hmarks c hmark

theorem unsignedPrefix_capitals (s : List Char) :
    unsignedPrefix (capitals s) = capitals (unsignedPrefix s) := by
  have hpoint : isWordLetter '.' = false := by decide
  rw [unsignedPrefix, unsignedPrefix, takeWhile_capitals isDigit_toUpper,
    dropWhile_capitals isDigit_toUpper]
  cases hdrop : s.dropWhile isDigit with
  | nil => rfl
  | cons c rest =>
      rw [capitals_cons]
      by_cases hc : c = '.'
      · subst hc
        simp only [(toUpper_eq_iff hpoint).2 rfl, takeWhile_capitals isDigit_toUpper,
          List.isEmpty_iff, Bool.and_eq_true, capitals_eq_nil_iff]
        split
        · rfl
        · simp [(toUpper_eq_iff hpoint).2 rfl]
      · have hupper : c.toUpper ≠ '.' := fun h => hc ((toUpper_eq_iff hpoint).1 h)
        simp [hc, hupper]

/-- The number at the start of a text does not depend on the case of what stands behind it. -/
theorem numberPrefix_capitals (s : List Char) : numberPrefix (capitals s) = numberPrefix s := by
  have hplus : isWordLetter '+' = false := by decide
  have hminus : isWordLetter '-' = false := by decide
  have hcommutes : numberPrefix (capitals s) = capitals (numberPrefix s) := by
    cases s with
    | nil => rfl
    | cons c s =>
        have hsign : c.toUpper = '+' ∨ c.toUpper = '-' ↔ c = '+' ∨ c = '-' :=
          or_congr (toUpper_eq_iff hplus) (toUpper_eq_iff hminus)
        rw [capitals_cons, numberPrefix, numberPrefix]
        simp only [hsign]
        rw [← capitals_cons, unsignedPrefix_capitals, unsignedPrefix_capitals]
        simp only [List.isEmpty_iff, capitals_eq_nil_iff]
        split
        · split
          · rfl
          · rfl
        · rfl
  rw [hcommutes, capitals_of_no_letter isWordLetter_of_mem_numberPrefix]

/-- A lexeme with its comment in capitals. The letter of a word is a capital anyway. -/
def Lexeme.inCapitals : Lexeme → Lexeme
  | .remark note => .remark (capitals note)
  | .blanks => .blanks
  | .checksum => .checksum
  | .word letter number => .word letter number
  | .stray c => .stray c

/-- A lexeme, its text and the rest in capitals. -/
def Lexed.inCapitals (l : Lexed) : Lexed :=
  ⟨l.lexeme.inCapitals, capitals l.text, capitals l.rest⟩

/-- **The first lexeme of a text in capitals** is that of the text. -/
theorem Lexed.next_capitals (c : Char) (s : List Char) :
    Lexed.next c.toUpper (capitals s) = (Lexed.next c s).inCapitals := by
  have hne {d : Char} (hd : isWordLetter d = false) (c : Char) :
      decide (c.toUpper ≠ d) = decide (c ≠ d) :=
    decide_eq_decide.2 (not_congr (toUpper_eq_iff hd))
  have hfeed := hne (d := '\n') (by decide)
  have hclose := hne (d := ')') (by decide)
  have hsemicolon : c.toUpper = ';' ↔ c = ';' := toUpper_eq_iff (by decide)
  have hparen : c.toUpper = '(' ↔ c = '(' := toUpper_eq_iff (by decide)
  have hstar : c.toUpper = '*' ↔ c = '*' := toUpper_eq_iff (by decide)
  unfold Lexed.next
  simp only [isBlank_toUpper, hsemicolon, hparen, hstar, isWordLetter_toUpper, toUpper_toUpper]
  split
  · rw [takeWhile_capitals isBlank_toUpper, dropWhile_capitals isBlank_toUpper]
    rfl
  split
  · rw [takeWhile_capitals hfeed, dropWhile_capitals hfeed]
    rfl
  split
  · rw [takeWhile_capitals hclose, dropWhile_capitals hclose]
    cases s.dropWhile (· ≠ ')') with
    | nil => rfl
    | cons close rest =>
        simp only [Lexed.inCapitals, Lexeme.inCapitals, capitals_cons, capitals_append,
          List.cons_append, capitals_nil]
  split
  · rw [takeWhile_capitals isDigit_toUpper, dropWhile_capitals isDigit_toUpper]
    rfl
  split
  · rw [takeWhile_capitals isGap_toUpper, dropWhile_capitals isGap_toUpper, numberPrefix_capitals]
    simp only [Lexed.inCapitals, Lexeme.inCapitals, capitals_cons, capitals_append,
      List.cons_append, capitals_of_no_letter isWordLetter_of_mem_numberPrefix, drop_capitals]
  next hletter =>
    have hsame : c.toUpper = c := (toUpper_eq_iff (by simpa using hletter)).2 rfl
    simp only [Lexed.inCapitals, Lexeme.inCapitals, capitals_cons, capitals_nil, hsame]

/-! ## Pieces in capitals -/

/-- A purpose with its comment or message in capitals. -/
def PieceKind.inCapitals : PieceKind → PieceKind
  | .remark note => .remark (capitals note)
  | .message text => .message (capitals text)
  | .blanks => .blanks
  | .checksum => .checksum
  | .lineNumber => .lineNumber
  | .opening letter major minor => .opening letter major minor
  | .argument letter number => .argument letter number
  | .orphan letter number => .orphan letter number
  | .stray c => .stray c

/-- A piece in capitals. -/
def Piece.inCapitals (p : Piece) : Piece := ⟨p.kind.inCapitals, capitals p.text⟩

/-- A reading with its pieces in capitals. -/
def LineReading.inCapitals (r : LineReading) : LineReading :=
  ⟨r.pieces.map Piece.inCapitals, r.fault⟩

theorem LineReading.inCapitals_cons (p : Piece) (r : LineReading) :
    (r.cons p).inCapitals = r.inCapitals.cons p.inCapitals := rfl

theorem opening?_inCapitals (started : Bool) (l : Lexeme) :
    opening? started l.inCapitals = opening? started l := by
  cases l with
  | _ => rfl

theorem plainKind_inCapitals (started : Bool) (l : Lexeme) :
    plainKind started l.inCapitals = (plainKind started l).inCapitals := by
  cases l with
  | word letter number =>
      rw [Lexeme.inCapitals, plainKind]
      split
      · rfl
      split
      · rfl
      · rfl
  | _ => rfl

theorem messageText_capitals (letter : Char) (major minor : Int) (s : List Char) :
    messageText letter major minor (capitals s) = capitals (messageText letter major minor s) := by
  have hsemicolon (c : Char) : decide (c.toUpper ≠ ';') = decide (c ≠ ';') :=
    decide_eq_decide.2 (not_congr (toUpper_eq_iff (by decide)))
  rw [messageText, messageText, takeWhile_capitals hsemicolon]
  simp only [allBlank_capitals]
  split
  · split
    · rfl
    · rfl
  · rfl

/-- **The pieces of a line in capitals** are those of the line. -/
theorem pieces_capitals (started : Bool) (s : List Char) :
    pieces started (capitals s) = (pieces started s).inCapitals := by
  refine pieces_induction (motive := fun started s r => pieces started (capitals s) = r.inCapitals)
    ?_ ?_ ?_ ?_ ?_ started s
  · exact pieces_nil
  · intro started c s f hfault
    rw [← opening?_inCapitals] at hfault
    exact pieces_fault (Lexed.next_capitals c s) hfault
  · intro started c s hopening ih
    rw [← opening?_inCapitals] at hopening
    rw [capitals_cons, pieces_plain (Lexed.next_capitals c s) hopening,
      LineReading.inCapitals_cons, ← ih]
    exact congrArg (fun kind => LineReading.cons ⟨kind, _⟩ _) (plainKind_inCapitals started _)
  · intro started c s letter major minor hopening hnone ih
    rw [← opening?_inCapitals] at hopening
    have hnone' : messageText letter major minor (Lexed.next c s).inCapitals.rest = [] := by
      rw [Lexed.inCapitals, messageText_capitals, hnone]
      rfl
    rw [capitals_cons, pieces_opening (Lexed.next_capitals c s) hopening hnone',
      LineReading.inCapitals_cons, ← ih]
    rfl
  · intro started c s letter major minor m rest hopening hm hne hrest ih
    rw [← opening?_inCapitals] at hopening
    have hrest' : (Lexed.next c s).inCapitals.rest = capitals m ++ capitals rest := by
      rw [Lexed.inCapitals, hrest, capitals_append]
    have hm' : messageText letter major minor (Lexed.next c s).inCapitals.rest = capitals m := by
      rw [Lexed.inCapitals, messageText_capitals, hm]
    have hne' : capitals m ≠ [] := fun h => hne (capitals_eq_nil_iff.1 h)
    rw [capitals_cons, pieces_message (Lexed.next_capitals c s) hopening hrest' hm' hne',
      LineReading.inCapitals_cons, LineReading.inCapitals_cons, ← ih]
    rfl

/-! ## What a line says in capitals -/

/-- A string in capitals. -/
def capitalString (s : String) : String := String.ofList (capitals s.toList)

theorem sameLetters_of_capitalString {s t : String} (h : capitalString s = capitalString t) :
    SameLetters s.toList t.toList := String.ofList_injective h

theorem capitalString_ofList_trim (s : List Char) :
    capitalString (String.ofList (trim s)) = String.ofList (trim (capitals s)) := by
  rw [capitalString, String.toList_ofList, trim_capitals]

/-- A comment in capitals. -/
def Comment.inCapitals (c : Comment) : Comment := { c with value := capitalString c.value }

/-- A value with its message in capitals. -/
def ArgumentValue.inCapitals : ArgumentValue → ArgumentValue
  | .message text => .message (capitalString text)
  | .flag => .flag
  | .number x => .number x
  | .whole n => .whole n
  | .switch on => .switch on

/-- An argument with its message in capitals. -/
def Argument.inCapitals (a : Argument) : Argument := { a with value := a.value.inCapitals }

/-- An instruction with its messages in capitals. -/
def Instruction.inCapitals (i : Instruction) : Instruction :=
  { i with arguments := i.arguments.map Argument.inCapitals }

/-- What a line says, with comments and messages in capitals. -/
def LineContent.inCapitals (content : LineContent) : LineContent :=
  ⟨content.comments.map Comment.inCapitals, content.instructions.map Instruction.inCapitals,
    content.notes⟩

/-- A piece in capitals, in its place. -/
def PlacedPiece.inCapitals (p : PlacedPiece) : PlacedPiece := { p with kind := p.kind.inCapitals }

theorem placePieces_inCapitals (offset : Int) (ps : List Piece) :
    placePieces offset (ps.map Piece.inCapitals) =
      (placePieces offset ps).map PlacedPiece.inCapitals := by
  induction ps generalizing offset with
  | nil => rfl
  | cons p ps ih =>
      rw [List.map_cons, placePieces, placePieces, ih, List.map_cons, Piece.inCapitals,
        length_capitals]
      rfl

section
variable (line : Int) (p : PlacedPiece)

theorem PlacedPiece.comment?_inCapitals :
    p.inCapitals.comment? line = (p.comment? line).map Comment.inCapitals := by
  obtain ⟨kind, start, stop⟩ := p
  cases kind with
  | remark note =>
      simp only [PlacedPiece.inCapitals, PieceKind.inCapitals, PlacedPiece.comment?,
        Option.map_some, Comment.inCapitals, capitalString_ofList_trim]
  | _ => rfl

theorem PlacedPiece.argument?_inCapitals :
    p.inCapitals.argument? line = (p.argument? line).map Argument.inCapitals := by
  obtain ⟨kind, start, stop⟩ := p
  cases kind with
  | message text =>
      simp only [PlacedPiece.inCapitals, PieceKind.inCapitals, PlacedPiece.argument?,
        Option.map_some, Argument.inCapitals, ArgumentValue.inCapitals, capitalString_ofList_trim]
  | argument letter number =>
      cases number with
      | _ => rfl
  | _ => rfl

theorem PlacedPiece.opened?_inCapitals :
    p.inCapitals.opened? line = (p.opened? line).map Instruction.inCapitals := by
  obtain ⟨kind, start, stop⟩ := p
  cases kind with
  | _ => rfl

end

theorem Instruction.inCapitals_extend (i : Instruction) (a : Argument) (stop : Int) :
    (i.extend a stop).inCapitals = i.inCapitals.extend a.inCapitals stop := by
  simp only [Instruction.extend, Instruction.inCapitals, List.map_append, List.map_cons,
    List.map_nil]

/-- The instructions of pieces in capitals are those of the pieces. -/
theorem gatherInstructions_inCapitals (line : Int) (current : Option Instruction)
    (ps : List PlacedPiece) :
    gatherInstructions line (current.map Instruction.inCapitals)
        (ps.map PlacedPiece.inCapitals) =
      (gatherInstructions line current ps).map Instruction.inCapitals := by
  have htoList (current : Option Instruction) : (current.map Instruction.inCapitals).toList =
      current.toList.map Instruction.inCapitals := by
    cases current with
    | _ => rfl
  induction ps generalizing current with
  | nil => exact htoList current
  | cons p ps ih =>
      rw [List.map_cons, gatherInstructions, gatherInstructions, p.opened?_inCapitals,
        p.argument?_inCapitals]
      cases p.opened? line with
      | some i =>
          rw [Option.map_some, List.map_append, ← ih (some i), htoList]
          rfl
      | none =>
          cases p.argument? line with
          | some a =>
              rw [← ih (current.map (·.extend a p.stop)), Option.map_map]
              simp only [Option.map_none, Option.map_some, Option.map_map]
              congr 2
              funext i
              exact (i.inCapitals_extend a p.stop).symm
          | none => exact ih current

/-- A note does not depend on letter case. -/
theorem PieceKind.note?_inCapitals (line : Int) (k : PieceKind) :
    k.inCapitals.note? line = k.note? line := by
  cases k with
  | _ => rfl

/-- **What pieces in capitals say.** -/
theorem contentOf_inCapitals (line offset : Int) (ps : List Piece) :
    contentOf line offset (ps.map Piece.inCapitals) = (contentOf line offset ps).inCapitals := by
  have hcomments : ((placePieces offset ps).map PlacedPiece.inCapitals).filterMap
      (·.comment? line) =
      ((placePieces offset ps).filterMap (·.comment? line)).map Comment.inCapitals := by
    rw [List.filterMap_map, List.map_filterMap]
    congr 1
    funext p
    exact p.comment?_inCapitals line
  have hnotes : (ps.map Piece.inCapitals).filterMap (·.kind.note? line) =
      ps.filterMap (·.kind.note? line) := by
    rw [List.filterMap_map]
    congr 1
    funext p
    exact p.kind.note?_inCapitals line
  rw [contentOf, placePieces_inCapitals, hcomments, hnotes]
  exact congrArg (LineContent.mk _ · _) (gatherInstructions_inCapitals line none _)

/-! ## Lines that differ in letter case -/

/-- Two comments in one place differ in letter case only. -/
structure Comment.SameLetters (c d : Comment) : Prop where
  line : c.line = d.line
  span : c.span = d.span
  value : Text.SameLetters c.value.toList d.value.toList

/-- Two values are equal, or messages that differ in letter case only. -/
inductive ArgumentValue.SameLetters : ArgumentValue → ArgumentValue → Prop where
  | refl (v : ArgumentValue) : SameLetters v v
  | message {m m' : String} (h : Text.SameLetters m.toList m'.toList) :
      SameLetters (.message m) (.message m')

/-- Two arguments in one place differ in the letter case of a message only. -/
structure Argument.SameLetters (a b : Argument) : Prop where
  letter : a.letter = b.letter
  span : a.span = b.span
  value : a.value.SameLetters b.value

/-- Two instructions in one place differ in the letter case of a message only. -/
structure Instruction.SameLetters (i j : Instruction) : Prop where
  mnemonic : i.mnemonic = j.mnemonic
  major : i.major = j.major
  minor : i.minor = j.minor
  span : i.span = j.span
  arguments : List.Forall₂ Argument.SameLetters i.arguments j.arguments

/-- Two lines say the same in the same places, with the same notes, up to the letter case of
comments and messages. -/
structure LineContent.SameLetters (content content' : LineContent) : Prop where
  comments : List.Forall₂ Comment.SameLetters content.comments content'.comments
  instructions :
    List.Forall₂ Instruction.SameLetters content.instructions content'.instructions
  notes : content.notes = content'.notes

/-- What is the same in capitals is the same, item by item. -/
theorem forall₂_of_map_eq {α β : Type} {f : α → β} {R : α → α → Prop}
    (h : ∀ a b, f a = f b → R a b) {l l' : List α} (heq : l.map f = l'.map f) :
    List.Forall₂ R l l' := by
  have hrel : List.Forall₂ (fun b b' => b = b') (l.map f) (l'.map f) := by
    rw [heq, List.forall₂_eq_eq_eq]
  rw [List.forall₂_map_left_iff, List.forall₂_map_right_iff] at hrel
  exact hrel.imp h

theorem Comment.sameLetters_of_inCapitals (c d : Comment) (h : c.inCapitals = d.inCapitals) :
    c.SameLetters d := by
  obtain ⟨hline, hvalue, hspan⟩ := Comment.mk.inj h
  exact ⟨hline, hspan, sameLetters_of_capitalString hvalue⟩

theorem ArgumentValue.sameLetters_of_inCapitals (v w : ArgumentValue)
    (h : v.inCapitals = w.inCapitals) : v.SameLetters w := by
  cases v with
  | message m =>
      cases w with
      | message m' => exact .message (sameLetters_of_capitalString (ArgumentValue.message.inj h))
      | _ => cases h
  -- Any other value is its own form in capitals.
  | flag =>
      cases w with
      | flag => exact .refl _
      | _ => cases h
  | number x =>
      cases w with
      | number y =>
          cases h
          exact .refl _
      | _ => cases h
  | whole n =>
      cases w with
      | whole k =>
          cases h
          exact .refl _
      | _ => cases h
  | switch on =>
      cases w with
      | switch on' =>
          cases h
          exact .refl _
      | _ => cases h

theorem Argument.sameLetters_of_inCapitals (a b : Argument) (h : a.inCapitals = b.inCapitals) :
    a.SameLetters b := by
  obtain ⟨hletter, hvalue, hspan⟩ := Argument.mk.inj h
  exact ⟨hletter, hspan, ArgumentValue.sameLetters_of_inCapitals _ _ hvalue⟩

theorem Instruction.sameLetters_of_inCapitals (i j : Instruction)
    (h : i.inCapitals = j.inCapitals) : i.SameLetters j := by
  obtain ⟨hmnemonic, hmajor, hminor, hspan, harguments⟩ := Instruction.mk.inj h
  exact ⟨hmnemonic, hmajor, hminor, hspan,
    forall₂_of_map_eq Argument.sameLetters_of_inCapitals harguments⟩

theorem LineContent.sameLetters_of_inCapitals {content content' : LineContent}
    (h : content.inCapitals = content'.inCapitals) : content.SameLetters content' := by
  obtain ⟨hcomments, hinstructions, hnotes⟩ := LineContent.mk.inj h
  exact ⟨forall₂_of_map_eq Comment.sameLetters_of_inCapitals hcomments,
    forall₂_of_map_eq Instruction.sameLetters_of_inCapitals hinstructions, hnotes⟩

/-- **Letter case does not matter.** Two lines that differ in the case of letters of ASCII only are
stopped by the same fault, or say the same in the same places, with the same notes, up to the
letter case of comments and messages. -/
theorem readLine_sameLetters {s t : List Char} (h : SameLetters s t) (line offset : Int) :
    (∀ f, readLine s line offset = .error f ↔ readLine t line offset = .error f) ∧
      ∀ content, readLine s line offset = .ok content →
        ∃ content', readLine t line offset = .ok content' ∧ content.SameLetters content' := by
  have hpieces : (pieces false s).inCapitals = (pieces false t).inCapitals := by
    rw [← pieces_capitals, ← pieces_capitals, h]
  obtain ⟨hsaid, hfault⟩ := LineReading.mk.inj hpieces
  have hcontent : (contentOf line offset (pieces false s).pieces).inCapitals =
      (contentOf line offset (pieces false t).pieces).inCapitals := by
    rw [← contentOf_inCapitals, ← contentOf_inCapitals, hsaid]
  rw [readLine, readLine, ← hfault]
  cases (pieces false s).fault with
  | some f =>
      refine ⟨fun g => Iff.rfl, ?_⟩
      intro content hread
      cases hread
  | none =>
      constructor
      · intro f
        constructor <;> intro hread <;> cases hread
      · intro content hread
        cases hread
        exact ⟨_, rfl, LineContent.sameLetters_of_inCapitals hcontent⟩

/-- A line in mixed letter case, and the line with each letter in the other case. -/
def mixedCaseLines : List Char × List Char :=
  ("n7 t1 g28.1 X-3(Home) q? m117 Hello;World".toList,
    "N7 T1 G28.1 x-3(hOME) Q? M117 hELLO;wORLD".toList)

/-- The two say the same but for the comments and the message. -/
theorem readLine_sameLetters_mixedCase :
    SameLetters mixedCaseLines.1 mixedCaseLines.2 ∧
      ∃ content content', readLine mixedCaseLines.1 1 0 = .ok content ∧
        readLine mixedCaseLines.2 1 0 = .ok content' ∧ content.SameLetters content' ∧
        content.instructions.map Instruction.text = ["T1", "G28.1 X-3 Q", "M117 Hello"] ∧
        content.comments.map Comment.value = ["Home", "World"] ∧
        content.notes = [.strayCharacter '?' 1] := by
  have hcontent : (readLine mixedCaseLines.1 1 0).toOption.map (fun content =>
      (content.instructions.map Instruction.text, content.comments.map Comment.value,
        content.notes)) =
      some (["T1", "G28.1 X-3 Q", "M117 Hello"], ["Home", "World"], [.strayCharacter '?' 1]) := by
    decide +kernel
  have hletters : SameLetters mixedCaseLines.1 mixedCaseLines.2 := by decide
  obtain ⟨content, hread, hcontent⟩ := Program.exists_ok_of_toOption hcontent
  obtain ⟨content', hread', hsame⟩ := (readLine_sameLetters hletters 1 0).2 content hread
  exact ⟨hletters, content, content', hread, hread', hsame, congrArg Prod.fst hcontent,
    congrArg (·.2.1) hcontent, congrArg (·.2.2) hcontent⟩

end OpcodeAtlas
