import OpcodeAtlas.Proofs.Program.Mark
import OpcodeAtlas.Proofs.Program.Partition
import OpcodeAtlas.Proofs.Text.Blank

/-!
# Messages

An opcode that takes a message takes all the text up to the next semicolon. So an argument without
a letter belongs to such an opcode (`Arranged.lettered`), and if comments reach to the end of the
line, nothing but the message and comments stands behind it (`messageLast_pieces`): its instruction
is the last one of the line, and says the message or nothing (`MessageLast.endsWithMessage`).

Both are seen from the kinds of the pieces alone, along `Arranged` and `MessageLast`. What holds of
every instruction of a line is shown by one induction along `Arranged`
(`Arranged.forall_mem_wordings`).
-/

set_option autoImplicit false

namespace OpcodeAtlas

open Text Number

/-! ## Opcodes that take a message -/

/-- The codes of the instructions that take the text behind them as a message. -/
def messageCodes : List String := ["M23", "M28", "M30", "M32", "M117", "M118", "M928"]

/-- An instruction takes a message. -/
def Instruction.TakesMessage (i : Instruction) : Prop := i.minor = 0 ∧ i.code ∈ messageCodes

/-- A wording takes a message. -/
def Wording.TakesMessage (w : Wording) : Prop :=
  w.minor = 0 ∧ opcode w.mnemonic w.major w.minor ∈ messageCodes

/-- Whether a piece opens an instruction that takes a message. -/
def PieceKind.takesMessage : PieceKind → Bool
  | .opening letter major minor => OpcodeAtlas.takesMessage letter major minor
  | _ => false

/-- The codes are those of the opcodes for which the reader looks for a message. -/
theorem takesMessage_iff (letter : Char) (major minor : Int) :
    takesMessage letter major minor = true ↔
      minor = 0 ∧ opcode (String.singleton letter) major minor ∈ messageCodes := by
  have hcodes : messageCodes = messageNumbers.map ("M" ++ toString ·) := by decide
  simp only [takesMessage, Bool.and_eq_true, beq_iff_eq, List.contains_iff_mem]
  constructor
  · rintro ⟨⟨rfl, hmajor⟩, rfl⟩
    refine ⟨rfl, ?_⟩
    rw [hcodes]
    exact List.mem_map_of_mem hmajor
  · rintro ⟨rfl, hcode⟩
    rw [hcodes] at hcode
    obtain ⟨n, hn, heq⟩ := List.mem_map.1 hcode
    -- The letter is the first character of the code, and the number is the rest of it.
    rw [opcode, if_pos rfl] at heq
    have htext := congrArg String.toList heq
    rw [String.toList_append, String.toList_append, String.toList_singleton] at htext
    obtain ⟨hletter, hnumber⟩ := List.cons.inj htext
    have hmajor : n = major := toString_injective (String.toList_inj.1 hnumber)
    exact ⟨⟨hletter.symm, hmajor ▸ hn⟩, rfl⟩

theorem takesMessage_plainKind (started : Bool) (lexeme : Lexeme) :
    (plainKind started lexeme).takesMessage = false := by
  have hopened := opened?_plainKind started lexeme
  cases hkind : plainKind started lexeme with
  | opening letter major minor =>
      rw [hkind] at hopened
      cases hopened
  | _ => rfl

/-- What a piece opens takes no message if the piece does not. -/
theorem not_takesMessage_of_opened? {k : PieceKind} {w : Wording} (hopened : k.opened? = some w)
    (hk : k.takesMessage = false) : ¬w.TakesMessage := by
  cases k with
  | opening letter major minor =>
      cases hopened
      intro htakes
      rw [PieceKind.takesMessage, (takesMessage_iff letter major minor).2 htakes] at hk
      cases hk
  | _ => cases hopened

/-! ## Wordings along the kinds of pieces -/

theorem wordings_of_standsAnywhere {k : PieceKind} (hk : k.standsAnywhere = true)
    (current : Option Wording) (ks : List PieceKind) :
    wordings current (k :: ks) = wordings current ks := by
  cases k with
  | blanks | checksum | lineNumber | remark | stray => rfl
  | opening | argument | message | orphan => cases hk

theorem exists_argument?_argument (letter : Char) (number : Option Binary64) :
    ∃ v, (PieceKind.argument letter number).argument? = some (String.singleton letter, v) := by
  cases number with
  | none => exact ⟨_, rfl⟩
  | some x => exact ⟨_, rfl⟩

/-- An argument word extends the instruction that is open, if there is one. -/
theorem wordings_argument {letter : Char} {number : Option Binary64} {v : ArgumentValue}
    (hv : (PieceKind.argument letter number).argument? = some (String.singleton letter, v))
    (current : Option Wording) (ks : List PieceKind) :
    wordings current (.argument letter number :: ks) =
      wordings (current.map (·.extend (String.singleton letter, v))) ks := by
  rw [wordings, hv]
  rfl

/-- **What holds of every instruction of a line**: it holds of an opcode and of an opcode with its
message, and stays true as words are added. -/
theorem Arranged.forall_mem_wordings {P : Wording → Prop}
    (hopening : ∀ started letter major minor, opensInstruction started letter = true →
      P ⟨String.singleton letter, major, minor, []⟩)
    (hmessage : ∀ started letter major minor text, opensInstruction started letter = true →
      takesMessage letter major minor = true →
      P ⟨String.singleton letter, major, minor, [("", .message (String.ofList (trim text)))]⟩)
    (hargument : ∀ (w : Wording) letter v, P w → P (w.extend (String.singleton letter, v)))
    {started : Bool} {ks : List PieceKind} (h : Arranged started ks) {current : Option Wording}
    (hcurrent : ∀ w ∈ current, P w) : ∀ w ∈ wordings current ks, P w := by
  -- The instruction that was open, and those from the next one on.
  have hopened {ks : List PieceKind} {current : Option Wording} {opened : Wording}
      (hcurrent : ∀ w ∈ current, P w) (ih : ∀ w ∈ wordings (some opened) ks, P w) :
      ∀ w ∈ current.toList ++ wordings (some opened) ks, P w := by
    intro w hw
    rcases List.mem_append.1 hw with hw | hw
    · exact hcurrent w (Option.mem_toList.1 hw)
    · exact ih w hw
  induction h generalizing current with
  | nil => exact fun w hw => hcurrent w (Option.mem_toList.1 hw)
  | anywhere hk _ ih =>
      rw [wordings_of_standsAnywhere hk]
      exact ih hcurrent
  | opening hletter _ ih =>
      refine hopened hcurrent (ih fun w hw => ?_)
      obtain rfl := Option.mem_some.1 hw
      exact hopening _ _ _ _ hletter
  | message hletter htakes _ ih =>
      refine hopened hcurrent (ih fun w hw => ?_)
      obtain rfl := Option.mem_some.1 hw
      exact hmessage _ _ _ _ _ hletter htakes
  | argument _ ih =>
      obtain ⟨v, hv⟩ := exists_argument?_argument _ _
      rw [wordings_argument hv]
      refine ih fun w hw => ?_
      obtain ⟨u, hu, rfl⟩ := Option.map_eq_some_iff.1 hw
      exact hargument u _ v (hcurrent u hu)
  | orphan _ ih => exact ih hcurrent

/-- The instruction that is open takes up some more arguments, and the others follow it. -/
theorem exists_wordings_some (ks : List PieceKind) :
    ∃ as rest, ∀ w : Wording,
      wordings (some w) ks = { w with arguments := w.arguments ++ as } :: rest := by
  induction ks with
  | nil => exact ⟨[], [], fun w => by rw [List.append_nil]; rfl⟩
  | cons k ks ih =>
      obtain ⟨as, rest, ih⟩ := ih
      cases hopened : k.opened? with
      | some v => exact ⟨[], wordings (some v) ks, fun w => by simp [wordings, hopened]⟩
      | none =>
          cases hargument : k.argument? with
          | some a =>
              refine ⟨a :: as, rest, fun w => ?_⟩
              simp only [wordings, hopened, hargument, Option.map_some, ih, Wording.extend,
                List.append_assoc, List.singleton_append]
          | none => exact ⟨as, rest, fun w => by simp only [wordings, hopened, hargument, ih]⟩

/-! ## Messages -/

/-- Only an instruction that takes a message has an argument without a letter. -/
def Wording.Lettered (w : Wording) : Prop := ∀ a ∈ w.arguments, a.1 = "" → w.TakesMessage

theorem lettered_of_no_arguments {w : Wording} (h : w.arguments = []) : w.Lettered := by
  intro a ha
  rw [h] at ha
  cases ha

/-- An argument with a letter may be added. -/
theorem Wording.Lettered.extend {w : Wording} (h : w.Lettered) (letter : Char)
    (v : ArgumentValue) : (w.extend (String.singleton letter, v)).Lettered := by
  intro a ha hempty
  rcases List.mem_append.1 ha with ha | ha
  · exact h a ha hempty
  · obtain rfl := List.mem_singleton.1 ha
    have htext := congrArg String.toList hempty
    rw [String.toList_singleton] at htext
    cases htext

/-- **An argument without a letter belongs to an instruction that takes a message.** -/
theorem Arranged.lettered {started : Bool} {ks : List PieceKind} (h : Arranged started ks) :
    ∀ w ∈ wordings none ks, w.Lettered := by
  refine h.forall_mem_wordings ?_ ?_ ?_ nofun
  · intro started letter major minor _
    exact lettered_of_no_arguments rfl
  · intro started letter major minor text _ htakes
    exact fun a _ _ => (takesMessage_iff letter major minor).1 htakes
  · intro w letter v hw
    exact hw.extend letter v

/-- What may stand behind an opcode that takes a message: the message, comments, and what is
dropped. -/
inductive MessageLast : List PieceKind → Prop where
  | nil : MessageLast []
  | other {k : PieceKind} {ks : List PieceKind} (hk : k.takesMessage = false)
      (h : MessageLast ks) : MessageLast (k :: ks)
  | silent {letter : Char} {major minor : Int} {ks : List PieceKind}
      (htakes : takesMessage letter major minor = true)
      (hks : ∀ k ∈ ks, k.standsAnywhere = true) : MessageLast (.opening letter major minor :: ks)
  | spoken {letter : Char} {major minor : Int} {text : List Char} {ks : List PieceKind}
      (htakes : takesMessage letter major minor = true) (hcomment : ';' ∉ text)
      (hblank : allBlank text = false) (hks : ∀ k ∈ ks, k.standsAnywhere = true) :
      MessageLast (.opening letter major minor :: .message text :: ks)

/-- No comment that starts with a semicolon ends before the text does. -/
def RemarksReachEnd (s : List Char) : Prop := ∀ note, ';' :: note <:+ s → '\n' ∉ note

theorem RemarksReachEnd.of_isSuffix {s t : List Char} (h : RemarksReachEnd s) (ht : t <:+ s) :
    RemarksReachEnd t := fun note hnote => h note (hnote.trans ht)

/-- A text ends with the text in front of its first semicolon, or with the comment there. -/
theorem exists_cut_semicolon {s : List Char} (h : RemarksReachEnd s) :
    ∃ tail, s = s.takeWhile (· ≠ ';') ++ tail ∧
      (tail = [] ∨ ∃ note, '\n' ∉ note ∧ tail = ';' :: note) := by
  have hcut : s.takeWhile (· ≠ ';') ++ s.dropWhile (· ≠ ';') = s := List.takeWhile_append_dropWhile
  refine ⟨_, hcut.symm, ?_⟩
  cases hdrop : s.dropWhile (· ≠ ';') with
  | nil => exact .inl rfl
  | cons c note =>
      have hhead := List.head?_dropWhile_not (· ≠ ';') s
      rw [hdrop] at hhead
      obtain rfl : c = ';' := by simpa using hhead
      refine .inr ⟨note, h note ?_, rfl⟩
      rw [hdrop] at hcut
      exact ⟨_, hcut⟩

/-- Where an opcode finds no message, blanks come up to the semicolon. -/
theorem allBlank_of_messageText_nil {letter : Char} {major minor : Int} {s : List Char}
    (htakes : takesMessage letter major minor = true)
    (h : messageText letter major minor s = []) : allBlank (s.takeWhile (· ≠ ';')) = true := by
  simp only [messageText, htakes, if_true] at h
  split at h
  next hblank => exact hblank
  next hblank =>
    rw [h] at hblank
    exact absurd rfl hblank

/-- A message is all the text in front of the semicolon. -/
theorem takeWhile_of_messageText {letter : Char} {major minor : Int} {s m : List Char}
    (h : messageText letter major minor s = m) (hm : m ≠ []) : s.takeWhile (· ≠ ';') = m := by
  obtain ⟨htakes, -⟩ := messageText_spec h hm
  simp only [messageText, htakes, if_true] at h
  split at h
  · exact absurd h.symm hm
  · exact h

/-- Blanks at the end of a line, or in front of a last comment, hold no word. -/
theorem standsAnywhere_of_allBlank {row tail : List Char} (hrow : allBlank row = true)
    (htail : tail = [] ∨ ∃ note, '\n' ∉ note ∧ tail = ';' :: note) (started : Bool) :
    ∀ k ∈ (pieces started (row ++ tail)).pieces.map Piece.kind, k.standsAnywhere = true := by
  have hrest : ∀ k ∈ (pieces started tail).pieces.map Piece.kind, k.standsAnywhere = true := by
    rcases htail with rfl | ⟨note, hnote, rfl⟩
    · rw [pieces_nil]
      exact nofun
    · rw [pieces_remark hnote]
      exact List.forall_mem_singleton.2 rfl
  cases row with
  | nil => exact hrest
  | cons c row =>
      obtain ⟨hc, hrow⟩ := List.forall_mem_cons.1 (List.all_eq_true.1 hrow)
      have hhead : ∀ b ∈ tail.head?, isBlank b = false := by
        rcases htail with rfl | ⟨note, -, rfl⟩
        · exact nofun
        · rintro b ⟨⟩
          decide
      have hnext := Lexed.next_blanks row hc hrow hhead
      rw [List.cons_append, pieces_plain hnext rfl]
      exact List.forall_mem_cons.2 ⟨rfl, hrest⟩

/-- **Where comments reach to the end of the line, nothing stands behind a message.** -/
theorem messageLast_pieces (started : Bool) {s : List Char} (hs : RemarksReachEnd s) :
    MessageLast ((pieces started s).pieces.map Piece.kind) := by
  revert hs
  refine pieces_induction (motive := fun _ s r => RemarksReachEnd s →
    MessageLast (r.pieces.map Piece.kind)) (fun _ _ => .nil) (fun _ _ _ _ _ _ => .nil) ?_ ?_ ?_
    started s
  · intro started c s _ ih hs
    exact .other (takesMessage_plainKind started _)
      (ih (hs.of_isSuffix ⟨_, Lexed.next_append c s⟩))
  · intro started c s letter major minor _ hnone ih hs
    have hrest := hs.of_isSuffix ⟨_, Lexed.next_append c s⟩
    cases htakes : takesMessage letter major minor with
    | false => exact .other htakes (ih hrest)
    | true =>
        have hblank := allBlank_of_messageText_nil htakes hnone
        obtain ⟨tail, hcut, htail⟩ := exists_cut_semicolon hrest
        refine .silent htakes ?_
        rw [hcut]
        exact standsAnywhere_of_allBlank hblank htail true
  · intro started c s letter major minor m rest _ hm hne hbehind _ hs
    have hrest := hs.of_isSuffix ⟨_, Lexed.next_append c s⟩
    obtain ⟨htakes, hcomment, hblank⟩ := messageText_spec hm hne
    refine .spoken htakes hcomment hblank ?_
    -- The message is the text in front of the comment, so the comment is all that is left.
    obtain ⟨tail, hcut, htail⟩ := exists_cut_semicolon hrest
    rw [takeWhile_of_messageText hm hne, hbehind] at hcut
    obtain rfl := List.append_cancel_left hcut
    exact @standsAnywhere_of_allBlank [] _ rfl htail true

theorem wordings_of_forall_standsAnywhere {ks : List PieceKind}
    (hks : ∀ k ∈ ks, k.standsAnywhere = true) (current : Option Wording) :
    wordings current ks = current.toList := by
  induction ks with
  | nil => rfl
  | cons k ks ih =>
      obtain ⟨hk, hks⟩ := List.forall_mem_cons.1 hks
      rw [wordings_of_standsAnywhere hk, ih hks]

/-- A wording says nothing, or a message: not empty, without blanks at its ends and without a
semicolon. -/
def Wording.SaysMessage (w : Wording) : Prop :=
  w.arguments = [] ∨ ∃ m, w.arguments = [("", .message m)] ∧
    m ≠ "" ∧ trimString m = m ∧ ';' ∉ m.toList

/-- What is left of a text that is not blank, without the blanks at its ends, is a message. -/
theorem saysMessage_trim {mnemonic : String} {major minor : Int} {text : List Char}
    (hcomment : ';' ∉ text) (hblank : allBlank text = false) :
    Wording.SaysMessage ⟨mnemonic, major, minor, [("", .message (String.ofList (trim text)))]⟩ := by
  obtain ⟨front, back, htext, hfront, hback⟩ := exists_trim_append text
  refine .inr ⟨_, rfl, ?_, ?_, ?_⟩
  · intro hempty
    have hnil : trim text = [] := String.ofList_eq_empty_iff.1 hempty
    rw [hnil, List.nil_append] at htext
    have hall : allBlank text = true := by
      refine List.all_eq_true.2 fun c hc => ?_
      rw [htext] at hc
      rcases List.mem_append.1 hc with hc | hc
      · exact hfront c hc
      · exact hback c hc
    rw [hall] at hblank
    cases hblank
  · rw [trimString, String.toList_ofList, (isTrimmed_trim text).trim_eq]
  · rw [String.toList_ofList]
    intro hmem
    refine hcomment ?_
    rw [htext]
    exact List.mem_append_right front (List.mem_append_left back hmem)

/-- In a row of wordings, one that takes a message is the last one, and has nothing else. -/
def EndsWithMessage (ws : List Wording) : Prop :=
  ∀ before w after, ws = before ++ w :: after → w.TakesMessage → after = [] ∧ w.SaysMessage

theorem endsWithMessage_nil : EndsWithMessage [] := by
  intro before w after heq
  cases before with
  | _ => cases heq

theorem EndsWithMessage.cons {w : Wording} {ws : List Wording} (hw : ¬w.TakesMessage)
    (h : EndsWithMessage ws) : EndsWithMessage (w :: ws) := by
  intro before v after heq hv
  cases before with
  | nil =>
      obtain ⟨rfl, -⟩ := List.cons.inj heq
      exact absurd hv hw
  | cons u before => exact h before v after (List.cons.inj heq).2 hv

/-- Instructions without messages may come in front. -/
theorem EndsWithMessage.append {front ws : List Wording} (hfront : ∀ w ∈ front, ¬w.TakesMessage)
    (h : EndsWithMessage ws) : EndsWithMessage (front ++ ws) := by
  induction front with
  | nil => exact h
  | cons w front ih =>
      obtain ⟨hw, hfront⟩ := List.forall_mem_cons.1 hfront
      exact (ih hfront).cons hw

theorem endsWithMessage_singleton {w : Wording} (h : w.SaysMessage) : EndsWithMessage [w] := by
  intro before v after heq _
  cases before with
  | nil =>
      obtain ⟨rfl, rfl⟩ := List.cons.inj heq
      exact ⟨rfl, h⟩
  | cons u before =>
      exact absurd (List.cons.inj heq).2.symm (List.append_ne_nil_of_right_ne_nil _ nofun)

/-- A piece that opens nothing with a message leaves complete instructions without messages, and
one that is open. -/
theorem exists_wordings_cons {k : PieceKind} (hk : k.takesMessage = false)
    {current : Option Wording} (hcurrent : ∀ w ∈ current, ¬w.TakesMessage) :
    ∃ front next, (∀ w ∈ front, ¬w.TakesMessage) ∧ (∀ w ∈ next, ¬w.TakesMessage) ∧
      ∀ ks, wordings current (k :: ks) = front ++ wordings next ks := by
  cases hopened : k.opened? with
  | some v =>
      refine ⟨current.toList, some v, fun w hw => hcurrent w (Option.mem_toList.1 hw), ?_, ?_⟩
      · intro w hw
        obtain rfl := Option.mem_some.1 hw
        exact not_takesMessage_of_opened? hopened hk
      · intro ks
        simp only [wordings, hopened]
  | none =>
      cases hargument : k.argument? with
      | some a =>
          refine ⟨[], current.map (·.extend a), List.forall_mem_nil _, fun w hw => ?_, fun ks => ?_⟩
          · obtain ⟨u, hu, rfl⟩ := Option.map_eq_some_iff.1 hw
            exact hcurrent u hu
          · simp only [wordings, hopened, hargument, List.nil_append]
      | none =>
          refine ⟨[], current, List.forall_mem_nil _, hcurrent, fun ks => ?_⟩
          simp only [wordings, hopened, hargument, List.nil_append]

/-- **An instruction that takes a message is the last one.** -/
theorem MessageLast.endsWithMessage {ks : List PieceKind} (h : MessageLast ks)
    {current : Option Wording} (hcurrent : ∀ w ∈ current, ¬w.TakesMessage) :
    EndsWithMessage (wordings current ks) := by
  -- The instruction that is open takes no message, so it may stand in front.
  have hfront {current : Option Wording} (h : ∀ w ∈ current, ¬w.TakesMessage) :
      ∀ w ∈ current.toList, ¬w.TakesMessage := fun w hw => h w (Option.mem_toList.1 hw)
  induction h generalizing current with
  | nil =>
      rw [wordings, ← List.append_nil current.toList]
      exact endsWithMessage_nil.append (hfront hcurrent)
  | other hk _ ih =>
      obtain ⟨front, next, hsilent, hnext, heq⟩ := exists_wordings_cons hk hcurrent
      rw [heq]
      exact (ih hnext).append hsilent
  | silent _ hks =>
      refine EndsWithMessage.append (hfront hcurrent) ?_
      rw [wordings_of_forall_standsAnywhere hks]
      exact endsWithMessage_singleton (.inl rfl)
  | spoken _ hcomment hblank hks =>
      refine EndsWithMessage.append (hfront hcurrent) ?_
      have hmessage {w : Wording} {text : List Char} {ks : List PieceKind} :
          wordings (some w) (.message text :: ks) =
            wordings (some (w.extend ("", .message (String.ofList (trim text))))) ks := rfl
      rw [hmessage, wordings_of_forall_standsAnywhere hks]
      exact endsWithMessage_singleton (saysMessage_trim hcomment hblank)

end OpcodeAtlas
