import Mathlib.Logic.Relation
import OpcodeAtlas.Proofs.Program.WrittenText

/-!
# When a line cannot be read

The only thing that can stop the reading of a line is a code number with too many digits
(`Scan.fault_iff`). Which numbers are code numbers depends on where the scan of the line has
come to, so the scan is followed step by step: a step takes one lexeme off, and with a word that
opens an instruction also the message that stands behind it. Comments and messages are taken off as
a whole, and what they hold is never looked at.

Reading the pieces of a line takes the steps of the scan. The scan is deterministic, and where it
cannot go on it has come to the end of the line or to a code number that is too long; the reading
fails just in the latter case.
-/

set_option autoImplicit false

namespace OpcodeAtlas

open Text Number

/-! ## Words that open instructions -/

/-- A lexeme is a word that opens an instruction: its letter is a command letter, or a leading
letter while no instruction of the line has been opened, and its number has no sign. `whole` and
`fraction` are the digits in front of the point of the number and behind it. -/
structure Lexeme.Opens (opened : Bool) (lexeme : Lexeme) (letter : Char)
    (whole fraction : List Char) : Prop where
  word : ∃ number, lexeme = .word letter number ∧ UnsignedText number whole fraction
  opens : letter ∈ commandLetters ∨ letter ∈ leadingLetters ∧ opened = false

theorem opensInstruction_iff {opened : Bool} {letter : Char} :
    opensInstruction opened letter = true ↔
      letter ∈ commandLetters ∨ letter ∈ leadingLetters ∧ opened = false := by
  simp [opensInstruction]

section
variable {opened : Bool} {lexeme : Lexeme} {letter : Char} {whole fraction : List Char}

/-- What becomes of a word that opens an instruction. -/
theorem Lexeme.Opens.opening?_eq (h : lexeme.Opens opened letter whole fraction) :
    opening? opened lexeme =
      if digitLimit < whole.length then .error (.tooLong whole.length)
      else if digitLimit < fraction.length then .error (.tooLong fraction.length)
      else .ok (some (letter, (digitsValue 0 whole : Nat), (digitsValue 0 fraction : Nat))) := by
  obtain ⟨number, rfl, hnumber⟩ := h.word
  obtain ⟨hwhole, hfraction⟩ := hnumber.isDigit_of_mem
  rw [opening?, if_pos (opensInstruction_iff.2 h.opens), readCodeNumber_of_unsigned hnumber,
    readCodePart_of_digits hwhole, readCodePart_of_digits hfraction]
  split
  · rfl
  split
  · rfl
  · rfl

/-- Any other lexeme opens nothing. -/
theorem opening?_of_not_opens {text : List Char} (hfits : lexeme.Fits text)
    (h : ∀ letter whole fraction, ¬lexeme.Opens opened letter whole fraction) :
    opening? opened lexeme = .ok none := by
  cases lexeme with
  | word letter number =>
      rw [opening?]
      split
      next hopens =>
        -- There is no number, or it has a sign.
        rcases hfits.2 with rfl | ⟨sign, hsign, unsigned, whole, fraction, rfl, hunsigned⟩
        · rfl
        · rcases mem_signTexts.1 hsign with rfl | rfl | rfl
          · exact absurd ⟨⟨unsigned, rfl, hunsigned⟩, opensInstruction_iff.1 hopens⟩ (h _ _ _)
          · rfl
          · rfl
      next => rfl
  | _ => rfl

end

/-! ## The scan of a line -/

/-- Where the scan of a line has come to: whether an instruction of the line has been opened, and
what is left of the line. -/
structure Scan where
  opened : Bool
  rest : List Char

namespace Scan

/-- The scan goes on: past a lexeme that opens nothing, or past a word that opens an instruction,
if the parts of its number can be read, and the message behind the word. -/
inductive Step : Scan → Scan → Prop where
  | pass {opened : Bool} {c : Char} {s : List Char}
      (h : ∀ letter whole fraction,
        ¬(Lexed.next c s).lexeme.Opens opened letter whole fraction) :
      Step ⟨opened, c :: s⟩ ⟨opened, (Lexed.next c s).rest⟩
  | opening {opened : Bool} {c : Char} {s : List Char} {letter : Char}
      {whole fraction message rest : List Char}
      (h : (Lexed.next c s).lexeme.Opens opened letter whole fraction)
      (hwhole : whole.length ≤ digitLimit) (hfraction : fraction.length ≤ digitLimit)
      (hmessage : messageText letter (digitsValue 0 whole : Nat) (digitsValue 0 fraction : Nat)
        (Lexed.next c s).rest = message)
      (hrest : (Lexed.next c s).rest = message ++ rest) :
      Step ⟨opened, c :: s⟩ ⟨true, rest⟩

/-- The scan has come to a word that opens an instruction, and one part of its number has `n`
digits, which is more than can be read. -/
inductive TooLong : Scan → Nat → Prop where
  | whole {opened : Bool} {c : Char} {s : List Char} {letter : Char} {whole fraction : List Char}
      (h : (Lexed.next c s).lexeme.Opens opened letter whole fraction)
      (hlimit : digitLimit < whole.length) : TooLong ⟨opened, c :: s⟩ whole.length
  | fraction {opened : Bool} {c : Char} {s : List Char} {letter : Char}
      {whole fraction : List Char}
      (h : (Lexed.next c s).lexeme.Opens opened letter whole fraction)
      (hwhole : whole.length ≤ digitLimit) (hlimit : digitLimit < fraction.length) :
      TooLong ⟨opened, c :: s⟩ fraction.length

/-- The scan reaches a code number that is too long, which the fault tells. -/
def Fails (a : Scan) (f : IntegerFault) : Prop :=
  ∃ b n, Relation.ReflTransGen Step a b ∧ b.TooLong n ∧ f = .tooLong n

section
variable {opened : Bool} {c : Char} {s : List Char} {a b b' : Scan} {f : IntegerFault}

/-- Where the scan is behind a lexeme, by the code that the lexeme opens. -/
def behind (opened : Bool) (rest : List Char) : Option (Char × Int × Int) → Scan
  | none => ⟨opened, rest⟩
  | some (letter, major, minor) => ⟨true, rest.drop (messageText letter major minor rest).length⟩

/-- **A lexeme whose code can be read is a step**, and there is no other one. -/
theorem step_cons_iff :
    Step ⟨opened, c :: s⟩ b ↔ ∃ code, opening? opened (Lexed.next c s).lexeme = .ok code ∧
      b = behind opened (Lexed.next c s).rest code := by
  constructor
  · intro h
    cases h with
    | pass h => exact ⟨none, opening?_of_not_opens (Lexed.fits_next c s) h, rfl⟩
    | opening h hwhole hfraction hmessage hrest =>
        have hcode := h.opening?_eq
        rw [if_neg (Nat.not_lt.2 hwhole), if_neg (Nat.not_lt.2 hfraction)] at hcode
        exact ⟨_, hcode, by rw [behind, hmessage, hrest, List.drop_left]⟩
  · rintro ⟨code, hcode, rfl⟩
    by_cases hopens : ∃ letter whole fraction,
        (Lexed.next c s).lexeme.Opens opened letter whole fraction
    · obtain ⟨letter, whole, fraction, h⟩ := hopens
      rw [h.opening?_eq] at hcode
      split at hcode
      · cases hcode
      next hwhole =>
        split at hcode
        · cases hcode
        next hfraction =>
          cases hcode
          refine .opening h (Nat.not_lt.1 hwhole) (Nat.not_lt.1 hfraction) rfl ?_
          exact (List.prefix_iff_eq_append.1 (messageText_isPrefix _ _ _ _)).symm
    · have hnone : ∀ letter whole fraction,
          ¬(Lexed.next c s).lexeme.Opens opened letter whole fraction := by
        intro letter whole fraction h
        exact hopens ⟨letter, whole, fraction, h⟩
      rw [opening?_of_not_opens (Lexed.fits_next c s) hnone] at hcode
      cases hcode
      exact .pass hnone

/-- **A lexeme whose code cannot be read is a code number that is too long.** -/
theorem tooLong_cons_iff :
    opening? opened (Lexed.next c s).lexeme = .error f ↔
      ∃ n, TooLong ⟨opened, c :: s⟩ n ∧ f = .tooLong n := by
  constructor
  · intro herror
    by_cases hopens : ∃ letter whole fraction,
        (Lexed.next c s).lexeme.Opens opened letter whole fraction
    · obtain ⟨letter, whole, fraction, h⟩ := hopens
      rw [h.opening?_eq] at herror
      split at herror
      next hwhole => exact ⟨_, .whole h hwhole, (Except.error.inj herror).symm⟩
      next hwhole =>
        split at herror
        next hfraction =>
          exact ⟨_, .fraction h (Nat.not_lt.1 hwhole) hfraction, (Except.error.inj herror).symm⟩
        next hfraction => cases herror
    · rw [opening?_of_not_opens (Lexed.fits_next c s)] at herror
      · cases herror
      · intro letter whole fraction h
        exact hopens ⟨letter, whole, fraction, h⟩
  · rintro ⟨n, hlong, rfl⟩
    cases hlong with
    | whole h hlimit => rw [h.opening?_eq, if_pos hlimit]
    | fraction h hwhole hlimit =>
        rw [h.opening?_eq, if_neg (Nat.not_lt.2 hwhole), if_pos hlimit]

/-- There is one step at most. -/
theorem Step.unique (h : Step a b) (h' : Step a b') : b = b' := by
  obtain ⟨opened, rest⟩ := a
  cases rest with
  | nil => cases h
  | cons c s =>
      obtain ⟨code, hcode, rfl⟩ := step_cons_iff.1 h
      obtain ⟨code', hcode', rfl⟩ := step_cons_iff.1 h'
      rw [Except.ok.inj (hcode.symm.trans hcode')]

/-- At the end of the line nothing fails. -/
theorem not_fails_nil : ¬Fails ⟨opened, []⟩ f := by
  rintro ⟨b, n, hreach, hlong, -⟩
  rcases Relation.ReflTransGen.cases_head_iff.1 hreach with rfl | ⟨b', hstep, -⟩
  · cases hlong
  · cases hstep

/-- Where the scan cannot go on in front of a lexeme, it fails. -/
theorem fails_of_error {f' : IntegerFault}
    (h : opening? opened (Lexed.next c s).lexeme = .error f) :
    Fails ⟨opened, c :: s⟩ f' ↔ f' = f := by
  constructor
  · rintro ⟨b, n, hreach, hlong, rfl⟩
    rcases Relation.ReflTransGen.cases_head_iff.1 hreach with rfl | ⟨b', hstep, -⟩
    · exact Except.error.inj ((tooLong_cons_iff.2 ⟨n, hlong, rfl⟩).symm.trans h)
    · obtain ⟨code, hcode, -⟩ := step_cons_iff.1 hstep
      cases h.symm.trans hcode
  · rintro rfl
    obtain ⟨n, hlong, rfl⟩ := tooLong_cons_iff.1 h
    exact ⟨_, n, .refl, hlong, rfl⟩

/-- A step neither fails nor keeps the scan from failing later. -/
theorem Step.fails_iff (h : Step a b) : a.Fails f ↔ b.Fails f := by
  constructor
  · rintro ⟨b', n, hreach, hlong, rfl⟩
    rcases Relation.ReflTransGen.cases_head_iff.1 hreach with rfl | ⟨a', hstep, hreach⟩
    · obtain ⟨opened, rest⟩ := a
      cases rest with
      | nil => cases h
      | cons c s =>
          obtain ⟨code, hcode, -⟩ := step_cons_iff.1 h
          cases (tooLong_cons_iff.2 ⟨n, hlong, rfl⟩).symm.trans hcode
    · rw [hstep.unique h] at hreach
      exact ⟨b', n, hreach, hlong, rfl⟩
  · rintro ⟨b', n, hreach, hlong, rfl⟩
    exact ⟨b', n, .head h hreach, hlong, rfl⟩

end

/-- **The reading of a line stops just where the scan fails.** -/
theorem fault_iff (opened : Bool) (s : List Char) (f : IntegerFault) :
    (pieces opened s).fault = some f ↔ Fails ⟨opened, s⟩ f := by
  refine pieces_induction (motive := fun opened s r => r.fault = some f ↔ Fails ⟨opened, s⟩ f)
    ?_ ?_ ?_ ?_ ?_ opened s
  · intro opened
    exact ⟨nofun, fun h => absurd h not_fails_nil⟩
  · intro opened c s f' hopening
    rw [fails_of_error hopening, Option.some.injEq, eq_comm]
  · intro opened c s hopening ih
    have hstep : Step ⟨opened, c :: s⟩ ⟨opened, (Lexed.next c s).rest⟩ :=
      step_cons_iff.2 ⟨none, hopening, rfl⟩
    exact ih.trans hstep.fails_iff.symm
  · intro opened c s letter major minor hopening hmessage ih
    have hstep : Step ⟨opened, c :: s⟩ ⟨true, (Lexed.next c s).rest⟩ :=
      step_cons_iff.2 ⟨_, hopening, by rw [behind, hmessage]; rfl⟩
    exact ih.trans hstep.fails_iff.symm
  · intro opened c s letter major minor m rest hopening hmessage hm hrest ih
    have hstep : Step ⟨opened, c :: s⟩ ⟨true, rest⟩ :=
      step_cons_iff.2 ⟨_, hopening, by rw [behind, hmessage, hrest, List.drop_left]⟩
    exact ih.trans hstep.fails_iff.symm

end Scan

/-! ## Lines and programs -/

theorem readLine_eq_error_iff {s : List Char} {line offset : Int} {f : IntegerFault} :
    readLine s line offset = .error f ↔ (pieces false s).fault = some f := by
  rw [readLine]
  cases hfault : (pieces false s).fault with
  | none => simp
  | some f' => simp

namespace Program

/-- A program cannot be read if there is a fault on one of its lines. -/
theorem exists_read_eq_error_iff {text : List Char} :
    (∃ f, read text = .error f) ↔
      ∃ raw ∈ Text.lines text, ∃ f, (pieces false (body raw)).fault = some f := by
  constructor
  · rintro ⟨f, hread⟩
    by_contra hnone
    push Not at hnone
    have hreadable : Readable (Text.lines text) := fun raw hraw =>
      Option.eq_none_iff_forall_ne_some.2 (hnone raw hraw)
    obtain ⟨p, hp, -⟩ := exists_read hreadable
    cases hread.symm.trans hp
  · rintro ⟨raw, hraw, f, hfault⟩
    cases hread : read text with
    | error f' => exact ⟨f', rfl⟩
    | ok p =>
        have hnone := (lines_of_read hread).1 raw hraw
        cases hnone.symm.trans hfault

/-- **When the reading fails.** A line cannot be read just if its scan reaches a word that opens an
instruction and whose number has too many digits on one side of the point, and the fault tells
their number. So a program cannot be read just if one of its lines cannot, and all instructions
that its reading delivers, up to the fault if there is one, can be written. -/
theorem fails_at_long_codeNumbers :
    (∀ (s : List Char) (line offset : Int) (f : IntegerFault),
      readLine s line offset = .error f ↔ Scan.Fails ⟨false, s⟩ f) ∧
    ∀ text : List Char,
      ((∃ f, read text = .error f) ↔ ∃ (k : Nat) (raw : List Char) (f : IntegerFault),
        (Text.lines text)[k]? = some raw ∧
          readLine (body raw) (k + 1) ((Text.lines text).take k).flatten.length = .error f) ∧
      ∀ l, .line l ∈ reading text → ∀ i ∈ l.instructions, i.write = .ok i.text := by
  refine ⟨fun s line offset f => ?_, fun text => ⟨?_, fun l hl i hi => ?_⟩⟩
  · rw [readLine_eq_error_iff]
    exact Scan.fault_iff false s f
  · rw [exists_read_eq_error_iff]
    constructor
    · rintro ⟨raw, hraw, f, hfault⟩
      obtain ⟨k, hk⟩ := List.mem_iff_getElem?.1 hraw
      exact ⟨k, raw, f, hk, readLine_eq_error_iff.2 hfault⟩
    · rintro ⟨k, raw, f, hk, hread⟩
      exact ⟨raw, List.mem_of_getElem? hk, f, readLine_eq_error_iff.1 hread⟩
  · exact write_of_mem_reading hl hi

/-- A long row of digits behind a tool and the letter of a command. -/
theorem fails_of_long_row {row : List Char} (hrow : ∀ c ∈ row, isDigit c = true)
    (hlimit : digitLimit < row.length) :
    Scan.Fails ⟨false, 'T' :: '0' :: ' ' :: 'M' :: row⟩ (.tooLong row.length) := by
  have hne : row ≠ [] := List.ne_nil_of_length_pos (Nat.zero_lt_of_lt hlimit)
  have hzero : UnsignedText ['0'] ['0'] [] :=
    .whole (List.cons_ne_nil _ _) (List.forall_mem_singleton.2 (by decide))
  have hnumber {number whole fraction : List Char} (h : UnsignedText number whole fraction) :
      NumberText number := ⟨[], by decide, number, whole, fraction, rfl, h⟩
  -- The tool opens an instruction, the blank opens nothing, and the command cannot be read.
  have htool : Lexed.next 'T' ('0' :: ' ' :: 'M' :: row) =
      ⟨.word 'T' ['0'], ['T', '0'], ' ' :: 'M' :: row⟩ := by
    refine Lexed.next_numberText [] (by decide) nofun (hnumber hzero) ?_
    rintro d ⟨⟩
    decide
  have hblank : Lexed.next ' ' ('M' :: row) = ⟨.blanks, [' '], 'M' :: row⟩ := by
    refine Lexed.next_blanks [] rfl nofun ?_
    rintro d ⟨⟩
    decide
  have hcommand : Lexed.next 'M' row = ⟨.word 'M' row, 'M' :: row, []⟩ := by
    have hnext := Lexed.next_numberText (c := 'M') [] (by decide) nofun
      (hnumber (.whole hne hrow)) endsNumber_nil
    rwa [List.append_nil] at hnext
  have hopening : opening? false (.word 'T' ['0']) = .ok (some ('T', 0, 0)) := by decide +kernel
  have hfirst : Scan.Step ⟨false, 'T' :: '0' :: ' ' :: 'M' :: row⟩ ⟨true, ' ' :: 'M' :: row⟩ :=
    Scan.step_cons_iff.2 ⟨some ('T', 0, 0), by rw [htool, hopening], by rw [htool]; rfl⟩
  have hsecond : Scan.Step ⟨true, ' ' :: 'M' :: row⟩ ⟨true, 'M' :: row⟩ :=
    Scan.step_cons_iff.2 ⟨none, by rw [hblank]; rfl, by rw [hblank]; rfl⟩
  have hopens : (Lexed.next 'M' row).lexeme.Opens true 'M' row [] :=
    ⟨⟨row, by rw [hcommand], .whole hne hrow⟩, .inl (by decide)⟩
  exact ⟨_, _, .head hfirst (.single hsecond), .whole hopens hlimit, rfl⟩

/-- A line with more zeros than can be read, for all that they are worth nothing. -/
def zeros : List Char := 'T' :: '0' :: ' ' :: 'M' :: List.replicate 4301 '0'

/-- The zeros stop the reading of their line and of the program, and what another program says is
written. -/
theorem fails_at_long_codeNumbers_zeros :
    readLine zeros 1 0 = .error (.tooLong 4301) ∧ (∃ f, read zeros = .error f) ∧
      ∃ l, .line l ∈ reading "G1 X2.5".toList ∧ ∃ i ∈ l.instructions,
        i.text = "G1 X2.5" ∧ i.write = .ok i.text := by
  obtain ⟨hline, hprogram⟩ := fails_at_long_codeNumbers
  have hrow : ∀ c ∈ List.replicate 4301 '0', isDigit c = true ∧ isBoundary c = false := by
    intro c hc
    rw [List.eq_of_mem_replicate hc]
    decide
  have hlength : (List.replicate 4301 '0').length = 4301 := List.length_replicate
  have hread : ∀ line offset, readLine zeros line offset = .error (.tooLong 4301) := by
    intro line offset
    have hfails := fails_of_long_row (fun c hc => (hrow c hc).1) (by rw [hlength]; decide)
    rw [hlength] at hfails
    exact (hline zeros line offset _).2 hfails
  refine ⟨hread 1 0, (hprogram zeros).1.2 ?_, ?_⟩
  · have hno : ∀ c ∈ zeros, isBoundary c = false := by
      simp only [zeros, List.forall_mem_cons]
      exact ⟨by decide, by decide, by decide, by decide, fun c hc => (hrow c hc).2⟩
    have hne : zeros ≠ [] := List.cons_ne_nil _ _
    have hbody : body zeros = zeros := body_append [] hne hno
    exact ⟨0, zeros, _, by rw [lines_of_no_boundary hne hno]; rfl, by rw [hbody]; exact hread _ _⟩
  · have htexts : ((reading "G1 X2.5".toList).filterMap ReadingEvent.line?).map
        (fun l => l.instructions.map Instruction.text) = [["G1 X2.5"]] := by
      decide +kernel
    obtain ⟨l, hl, hi⟩ := List.map_eq_singleton_iff.1 htexts
    obtain ⟨i, hi, htext⟩ := List.map_eq_singleton_iff.1 hi
    have hmem : i ∈ l.instructions := hi ▸ List.mem_singleton_self i
    have hevent : .line l ∈ reading "G1 X2.5".toList := by
      obtain ⟨e, he, hline⟩ := List.mem_filterMap.1 (hl ▸ List.mem_singleton_self l)
      cases e with
      | line l' =>
          cases hline
          exact he
      | _ => cases hline
    exact ⟨l, hevent, i, hmem, htext, (hprogram _).2 l hevent i hmem⟩

end Program

end OpcodeAtlas
