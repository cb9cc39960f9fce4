import OpcodeAtlas.Proofs.Program.Message
import OpcodeAtlas.Proofs.Program.Printing

/-!
# Lines in a frame

A line that is sent to a machine may stand in a frame: a line number in front and a checksum at its
end. Both are dropped, so the line says the same in the frame and without it, with one exception
(`readLine_framed`): an opcode that takes a message takes the rest of the line up to a semicolon,
and so the checksum as well.

What is kept of a line are the kinds of its pieces other than blanks, line numbers and checksums
(`LineReading.kept`), and all that the line says depends on them alone. The number and the space in
front leave the kept kinds as they are. Step by step through the pieces, so does the checksum, up to
an opcode that takes a message, behind which no other piece is kept (`checksummed_pieces`).
-/

set_option autoImplicit false

namespace OpcodeAtlas

open Text Number

/-! ## Frames -/

/-- A checksum. -/
def checksumText (digits : List Char) : List Char := '*' :: digits

/-- A line in a frame: a line number in front, and a checksum at the end. -/
def framed (number body digits : List Char) : List Char :=
  'N' :: number ++ ' ' :: (body ++ checksumText digits)

/-! ## Kept pieces -/

/-- Whether a piece is dropped without a note. -/
def PieceKind.isDropped : PieceKind → Bool
  | .blanks => true
  | .checksum => true
  | .lineNumber => true
  | _ => false

/-- The kinds of the pieces that are not dropped. -/
def LineReading.kept (r : LineReading) : List PieceKind :=
  (r.pieces.map Piece.kind).filter (!·.isDropped)

namespace LineReading

theorem kept_cons_of_isDropped {p : Piece} (hp : p.kind.isDropped = true) (r : LineReading) :
    (r.cons p).kept = r.kept := by
  rw [kept, cons, List.map_cons, List.filter_cons_of_neg (by simp [hp]), kept]

theorem kept_cons {p : Piece} (hp : p.kind.isDropped = false) (r : LineReading) :
    (r.cons p).kept = p.kind :: r.kept := by
  rw [kept, cons, List.map_cons, List.filter_cons_of_pos (by simp [hp]), kept]

end LineReading

/-- Nothing is said of a dropped piece: it is no comment, and nothing is noted. -/
theorem PieceKind.silent_of_isDropped (k : PieceKind) (hk : k.isDropped = true) (line : Int) :
    k.remark? = none ∧ k.note? line = none := by
  cases k with
  | blanks | checksum | lineNumber => exact ⟨rfl, rfl⟩
  | _ => cases hk

/-- The wordings of a line depend on the kept pieces alone. -/
theorem wordings_filter (current : Option Wording) (ks : List PieceKind) :
    wordings current (ks.filter (!·.isDropped)) = wordings current ks := by
  induction ks generalizing current with
  | nil => rfl
  | cons k ks ih =>
      cases hk : k.isDropped with
      | true =>
          have hstands : k.standsAnywhere = true := by
            cases k with
            | blanks | checksum | lineNumber => rfl
            | _ => cases hk
          rw [List.filter_cons_of_neg (by simp [hk]), wordings_of_standsAnywhere hstands, ih]
      | false =>
          rw [List.filter_cons_of_pos (by simp [hk]), wordings, wordings]
          simp only [ih]

/-- What is said of single pieces, and never of those that are dropped, depends on the kept pieces
alone. -/
theorem filterMap_kept {α : Type} {f : PieceKind → Option α}
    (hf : ∀ k, k.isDropped = true → f k = none) (r : LineReading) :
    r.kept.filterMap f = (r.pieces.map Piece.kind).filterMap f := by
  rw [LineReading.kept, List.filterMap_filter]
  congr 1
  funext k
  cases hk : k.isDropped with
  | true => exact (hf k hk).symm
  | false => rfl

/-! ## Blanks and messages -/

section
variable {started : Bool}

/-- Blanks at the start of a line are dropped. -/
theorem pieces_dropWhile_isBlank (started : Bool) (s : List Char) :
    (pieces started (s.dropWhile isBlank)).fault = (pieces started s).fault ∧
      (pieces started (s.dropWhile isBlank)).kept = (pieces started s).kept := by
  cases s with
  | nil => exact ⟨rfl, rfl⟩
  | cons c s =>
      by_cases hc : isBlank c = true
      · have hnext : Lexed.next c s = ⟨.blanks, c :: s.takeWhile isBlank, s.dropWhile isBlank⟩ := by
          simp only [Lexed.next, hc, if_true]
        rw [List.dropWhile_cons_of_pos hc, pieces_plain hnext rfl,
          LineReading.kept_cons_of_isDropped rfl]
        exact ⟨rfl, rfl⟩
      · rw [List.dropWhile_cons_of_neg hc]
        exact ⟨rfl, rfl⟩

/-- A space in front of a line is dropped, with the blanks that follow it. -/
theorem pieces_space (started : Bool) (s : List Char) :
    (pieces started (' ' :: s)).fault = (pieces started s).fault ∧
      (pieces started (' ' :: s)).kept = (pieces started s).kept := by
  obtain ⟨hfault, hkept⟩ := pieces_dropWhile_isBlank started s
  obtain ⟨hfault', hkept'⟩ := pieces_dropWhile_isBlank started (' ' :: s)
  have hspace : (' ' :: s).dropWhile isBlank = s.dropWhile isBlank :=
    List.dropWhile_cons_of_pos rfl
  rw [hspace] at hfault' hkept'
  exact ⟨hfault'.symm.trans hfault, hkept'.symm.trans hkept⟩

/-- Of the text behind an opcode that takes a message, the message is kept. -/
def spokenKinds (u : List Char) : List PieceKind := if allBlank u then [] else [.message u]

/-- **An opcode that takes a message takes the rest of the line**, if no semicolon stands there. -/
theorem pieces_takesMessage {c : Char} {s : List Char} {lexed : Lexed} {letter : Char}
    {major minor : Int} (hnext : Lexed.next c s = lexed)
    (hopening : opening? started lexed.lexeme = .ok (some (letter, major, minor)))
    (htakes : takesMessage letter major minor = true) (hsemicolon : ';' ∉ lexed.rest) :
    (pieces started (c :: s)).fault = none ∧
      (pieces started (c :: s)).kept = .opening letter major minor :: spokenKinds lexed.rest := by
  cases hblank : allBlank lexed.rest with
  | true =>
      -- Blanks are no message, and as pieces they are dropped.
      have hraw : lexed.rest.takeWhile (· ≠ ';') = lexed.rest :=
        List.takeWhile_eq_self_iff.2 (row_of_not_mem hsemicolon)
      have hnone : messageText letter major minor lexed.rest = [] := by
        simp only [messageText, htakes, if_true, hraw, hblank]
      have hdrop : lexed.rest.dropWhile isBlank = [] :=
        List.dropWhile_eq_nil_iff.2 (List.all_eq_true.1 hblank)
      obtain ⟨hfault, hkept⟩ := pieces_dropWhile_isBlank true lexed.rest
      rw [hdrop, pieces_nil] at hfault hkept
      rw [pieces_opening hnext hopening hnone, LineReading.kept_cons rfl, ← hkept, spokenKinds,
        hblank]
      exact ⟨hfault.symm, rfl⟩
  | false =>
      have hmessage := messageText_eq htakes hsemicolon hblank
      have hne : lexed.rest ≠ [] := by
        rintro hnil
        rw [hnil] at hblank
        cases hblank
      rw [pieces_message hnext hopening (List.append_nil _).symm hmessage hne, pieces_nil,
        LineReading.kept_cons rfl, LineReading.kept_cons rfl, spokenKinds, hblank]
      exact ⟨rfl, rfl⟩

end

/-! ## A checksum at the end -/

/-- The kept pieces of a line without a mark at its end and with it: the same, up to an opcode that
takes a message, whose message is then the end of the line together with the mark. -/
inductive Marked (s mark : List Char) : List PieceKind → List PieceKind → Prop where
  | nil : Marked s mark [] []
  | cons {k : PieceKind} {ks ks' : List PieceKind} (hk : k.takesMessage = false)
      (h : Marked s mark ks ks') : Marked s mark (k :: ks) (k :: ks')
  | spoken {letter : Char} {major minor : Int} {u : List Char}
      (htakes : takesMessage letter major minor = true) (hu : u <:+ s) :
      Marked s mark (.opening letter major minor :: spokenKinds u)
        (.opening letter major minor :: spokenKinds (u ++ mark))

section
variable {s t mark : List Char}

theorem Marked.mono {ks ks' : List PieceKind} (h : Marked s mark ks ks') (hs : s <:+ t) :
    Marked t mark ks ks' := by
  induction h with
  | nil => exact .nil
  | cons hk _ ih => exact .cons hk ih
  | spoken htakes hu => exact .spoken htakes (hu.trans hs)

/-- A piece that takes no message may be put in front, whether it is dropped or not. -/
theorem Marked.cons_pieces {r r' : LineReading} (h : Marked s mark r.kept r'.kept) {p : Piece}
    (hp : p.kind.takesMessage = false) : Marked s mark (r.cons p).kept (r'.cons p).kept := by
  cases hdropped : p.kind.isDropped with
  | true =>
      rw [LineReading.kept_cons_of_isDropped hdropped, LineReading.kept_cons_of_isDropped hdropped]
      exact h
  | false =>
      rw [LineReading.kept_cons hdropped, LineReading.kept_cons hdropped]
      exact .cons hp h

end

theorem not_mem_checksumText {digits : List Char} (hdigits : ∀ c ∈ digits, isDigit c = true) :
    ';' ∉ checksumText digits := by
  intro hmem
  rcases List.mem_cons.1 hmem with hstar | hmem
  · exact absurd hstar (by decide)
  · exact absurd (hdigits ';' hmem) (by decide)

/-- **An opcode that takes a message ends the line**, with a checksum and without it: the checksum
is the end of the message. -/
theorem checksummed_takesMessage {digits : List Char} (hdigits : ∀ c ∈ digits, isDigit c = true)
    {started : Bool} {c : Char} {s : List Char} {letter : Char} {major minor : Int}
    (hopening : opening? started (Lexed.next c s).lexeme = .ok (some (letter, major, minor)))
    (htakes : takesMessage letter major minor = true) (hs : Closed (c :: s)) :
    (pieces started (c :: s ++ checksumText digits)).fault = (pieces started (c :: s)).fault ∧
      Marked (c :: s) (checksumText digits) (pieces started (c :: s)).kept
        (pieces started (c :: s ++ checksumText digits)).kept := by
  have hrest := hs.rest.semicolon
  have hnone : ';' ∉ (Lexed.next c s).rest ++ checksumText digits :=
    List.mem_append.not.2 (not_or.2 ⟨hrest, not_mem_checksumText hdigits⟩)
  have hnext := Lexed.next_append_mark (startsMark_star digits) hs
  obtain ⟨hfault, hkept⟩ := pieces_takesMessage rfl hopening htakes hrest
  obtain ⟨hfault', hkept'⟩ := pieces_takesMessage hnext hopening htakes hnone
  rw [List.cons_append, hfault, hkept, checksumText, hfault', hkept']
  exact ⟨rfl, .spoken htakes ⟨_, Lexed.next_append c s⟩⟩

/-- **A checksum at the end of a closed text is dropped**, unless an opcode takes it for the end of
its message. -/
theorem checksummed_pieces {digits : List Char} (hdigits : ∀ c ∈ digits, isDigit c = true)
    (started : Bool) {s : List Char} (hs : Closed s) :
    (pieces started (s ++ checksumText digits)).fault = (pieces started s).fault ∧
      Marked s (checksumText digits) (pieces started s).kept
        (pieces started (s ++ checksumText digits)).kept := by
  have hmark : StartsMark (checksumText digits) := startsMark_star digits
  revert hs
  refine pieces_induction (motive := fun started s r => Closed s →
    (pieces started (s ++ checksumText digits)).fault = r.fault ∧
      Marked s (checksumText digits) r.kept (pieces started (s ++ checksumText digits)).kept)
    ?_ ?_ ?_ ?_ ?_ started s
  · intro started _
    rw [List.nil_append, checksumText, pieces_checksum hdigits]
    exact ⟨rfl, .nil⟩
  · intro started c s f hfault hs
    rw [List.cons_append, pieces_fault (Lexed.next_append_mark hmark hs) hfault]
    exact ⟨rfl, .nil⟩
  · intro started c s hopening ih hs
    obtain ⟨hfault, hmarked⟩ := ih hs.rest
    rw [List.cons_append, pieces_plain (Lexed.next_append_mark hmark hs) hopening]
    exact ⟨hfault, (hmarked.mono ⟨_, Lexed.next_append c s⟩).cons_pieces
      (takesMessage_plainKind started _)⟩
  · intro started c s letter major minor hopening hnone ih hs
    cases htakes : takesMessage letter major minor with
    | true =>
        -- There is no message, but with the checksum there is one.
        rw [← pieces_opening rfl hopening hnone]
        exact checksummed_takesMessage hdigits hopening htakes hs
    | false =>
        obtain ⟨hfault, hmarked⟩ := ih hs.rest
        have hnone' : messageText letter major minor
            ((Lexed.next c s).rest ++ checksumText digits) = [] := by
          rw [messageText, htakes]
          rfl
        rw [List.cons_append, pieces_opening (Lexed.next_append_mark hmark hs) hopening hnone']
        exact ⟨hfault, (hmarked.mono ⟨_, Lexed.next_append c s⟩).cons_pieces htakes⟩
  · intro started c s letter major minor m rest hopening hm hne hrest _ hs
    obtain ⟨htakes, -⟩ := messageText_spec hm hne
    rw [← pieces_message rfl hopening hrest hm hne]
    exact checksummed_takesMessage hdigits hopening htakes hs

/-- A frame drops the line number and keeps the rest. -/
theorem pieces_framed {number body digits : List Char} (hne : number ≠ [])
    (hnumber : ∀ c ∈ number, isDigit c = true) :
    (pieces false (framed number body digits)).fault =
        (pieces false (body ++ checksumText digits)).fault ∧
      (pieces false (framed number body digits)).kept =
        (pieces false (body ++ checksumText digits)).kept := by
  have htext : NumberText number :=
    ⟨[], by decide, number, number, [], rfl, .whole hne hnumber⟩
  have hend : EndsNumber (' ' :: (body ++ checksumText digits)) := by
    rintro c ⟨⟩
    decide
  have hnext : Lexed.next 'N' (number ++ ' ' :: (body ++ checksumText digits)) =
      ⟨.word 'N' number, 'N' :: number, ' ' :: (body ++ checksumText digits)⟩ :=
    Lexed.next_numberText [] (by decide) nofun htext hend
  have hopening : opening? false (.word 'N' number) = .ok none := rfl
  rw [framed, List.cons_append, pieces_plain hnext hopening, LineReading.kept_cons_of_isDropped rfl]
  exact pieces_space false _

/-! ## What is said in a frame -/

/-- The arguments of an instruction that takes a message, behind whose opcode a text stands. -/
def spokenArguments (u : List Char) : List (String × ArgumentValue) :=
  if allBlank u then [] else [("", .message (String.ofList (trim u)))]

/-- A wording with the message of a text as its arguments. -/
def Wording.speaking (w : Wording) (u : List Char) : Wording :=
  { w with arguments := spokenArguments u }

/-- What the instructions of a line say without a mark at its end and with it: the same, if none of
them takes a message; else the last one, which does, says the end of the line, and with the mark it
says the mark as well. -/
inductive MarkedWordings (s mark : List Char) : List Wording → List Wording → Prop where
  | same {ws : List Wording} (h : ∀ w ∈ ws, ¬w.TakesMessage) : MarkedWordings s mark ws ws
  | spoken {before : List Wording} {w : Wording} {u : List Char}
      (hbefore : ∀ v ∈ before, ¬v.TakesMessage) (htakes : w.TakesMessage) (hu : u <:+ s) :
      MarkedWordings s mark (before ++ [w.speaking u]) (before ++ [w.speaking (u ++ mark)])

section
variable {s mark : List Char}

/-- Instructions without messages may come in front. -/
theorem MarkedWordings.append {front ws ws' : List Wording}
    (hfront : ∀ w ∈ front, ¬w.TakesMessage) (h : MarkedWordings s mark ws ws') :
    MarkedWordings s mark (front ++ ws) (front ++ ws') := by
  cases h with
  | same h => exact .same (List.forall_mem_append.2 ⟨hfront, h⟩)
  | spoken hbefore htakes hu =>
      rw [← List.append_assoc, ← List.append_assoc]
      exact .spoken (List.forall_mem_append.2 ⟨hfront, hbefore⟩) htakes hu

theorem wordings_spokenKinds {letter : Char} {major minor : Int} (u : List Char) :
    wordings (some ⟨String.singleton letter, major, minor, []⟩) (spokenKinds u) =
      [Wording.speaking ⟨String.singleton letter, major, minor, []⟩ u] := by
  unfold spokenKinds Wording.speaking spokenArguments
  split
  · rfl
  · rfl

/-- **The wordings of marked pieces are marked.** -/
theorem Marked.wordings {ks ks' : List PieceKind} (h : Marked s mark ks ks')
    {current : Option Wording} (hcurrent : ∀ w ∈ current, ¬w.TakesMessage) :
    MarkedWordings s mark (wordings current ks) (OpcodeAtlas.wordings current ks') := by
  have hfront {current : Option Wording} (h : ∀ w ∈ current, ¬w.TakesMessage) :
      ∀ w ∈ current.toList, ¬w.TakesMessage := fun w hw => h w (Option.mem_toList.1 hw)
  induction h generalizing current with
  | nil => exact .same (hfront hcurrent)
  | cons hk _ ih =>
      obtain ⟨front, next, hsilent, hnext, heq⟩ := exists_wordings_cons hk hcurrent
      rw [heq, heq]
      exact (ih hnext).append hsilent
  | spoken htakes hu =>
      refine MarkedWordings.append (hfront hcurrent) ?_
      rw [wordings_spokenKinds, wordings_spokenKinds]
      have hnone : ∀ w ∈ ([] : List Wording), ¬w.TakesMessage := List.forall_mem_nil _
      exact .spoken hnone ((takesMessage_iff _ _ _).1 htakes) hu

/-- What is said of single pieces, and never of messages, does not depend on the mark. -/
theorem Marked.filterMap_eq {α : Type} {f : PieceKind → Option α}
    (hf : ∀ m, f (.message m) = none) {ks ks' : List PieceKind} (h : Marked s mark ks ks') :
    ks'.filterMap f = ks.filterMap f := by
  have hspoken (u : List Char) : (spokenKinds u).filterMap f = [] := by
    unfold spokenKinds
    split
    · rfl
    · rw [List.filterMap_cons_none (hf u)]
      rfl
  induction h with
  | nil => rfl
  | cons _ _ ih => rw [List.filterMap_cons, List.filterMap_cons, ih]
  | spoken => rw [List.filterMap_cons, List.filterMap_cons, hspoken, hspoken]

/-- **What a marked line says**: the same comments and notes, and the same instructions up to the
message. -/
theorem Marked.said {r r' : LineReading} (h : Marked s mark r.kept r'.kept) (line offset : Int) :
    let content := contentOf line offset r.pieces
    let content' := contentOf line offset r'.pieces
    content'.comments.map Comment.value = content.comments.map Comment.value ∧
      content'.notes = content.notes ∧
      MarkedWordings s mark (content.instructions.map Instruction.wording)
        (content'.instructions.map Instruction.wording) := by
  have hremark : ∀ k : PieceKind, k.isDropped = true → k.remark? = none := fun k hk =>
    (k.silent_of_isDropped hk line).1
  have hnote : ∀ k : PieceKind, k.isDropped = true → k.note? line = none := fun k hk =>
    (k.silent_of_isDropped hk line).2
  have hnotes (r : LineReading) : (contentOf line offset r.pieces).notes =
      (r.pieces.map Piece.kind).filterMap (·.note? line) := by
    rw [contentOf, List.filterMap_map]
    rfl
  refine ⟨?_, ?_, ?_⟩
  · rw [values_contentOf, values_contentOf, ← filterMap_kept hremark, ← filterMap_kept hremark]
    exact h.filterMap_eq fun m => rfl
  · rw [hnotes, hnotes, ← filterMap_kept hnote, ← filterMap_kept hnote]
    exact h.filterMap_eq fun m => rfl
  · rw [wording_contentOf, wording_contentOf, ← wordings_filter none (r.pieces.map Piece.kind),
      ← wordings_filter none (r'.pieces.map Piece.kind)]
    exact h.wordings fun w hw => absurd hw (Option.not_mem_none w)

end

/-! ## Messages and checksums -/

section
variable {digits : List Char}

/-- Trimming keeps a checksum at the end. -/
theorem trim_append_checksum (hdigits : ∀ c ∈ digits, isDigit c = true) (u : List Char) :
    trim (u ++ checksumText digits) = u.dropWhile isBlank ++ checksumText digits := by
  have hhead : ∀ c ∈ (checksumText digits).head?, isBlank c = false := by
    rintro c ⟨⟩
    decide
  have hlast : ∀ c ∈ (u.dropWhile isBlank ++ checksumText digits).getLast?, isBlank c = false := by
    intro c hc
    rw [checksumText, List.getLast?_append_of_ne_nil _ (List.cons_ne_nil _ _)] at hc
    rcases List.mem_cons.1 (List.mem_of_getLast? hc) with rfl | hc
    · decide
    · exact isBlank_of_isDigit (hdigits c hc)
  -- The star ends the blanks in front, and no digit is a blank at the end.
  obtain ⟨-, hdrop⟩ := cut_append u fun _ => hhead
  rw [trim, hdrop, dropEndWhile_eq_self hlast]

/-- A message with a checksum is never the message without it. -/
theorem spokenArguments_append_ne (hdigits : ∀ c ∈ digits, isDigit c = true) (u : List Char) :
    spokenArguments (u ++ checksumText digits) ≠ spokenArguments u := by
  have hblank : allBlank (u ++ checksumText digits) = false := by
    rw [allBlank, List.all_append]
    exact Bool.and_false _
  have htext : trim (u ++ checksumText digits) ≠ trim u := by
    -- The checksum makes the trimmed text longer.
    intro heq
    have hlong := congrArg List.length heq
    have hshort := (dropEndWhile_isPrefix isBlank (u.dropWhile isBlank)).length_le
    rw [trim_append_checksum hdigits, List.length_append, checksumText, List.length_cons,
      trim] at hlong
    omega
  have hmessage : spokenArguments (u ++ checksumText digits) =
      [("", .message (String.ofList (trim (u ++ checksumText digits))))] := by
    rw [spokenArguments, hblank]
    rfl
  rw [hmessage, spokenArguments]
  split
  · exact List.cons_ne_nil _ _
  · intro heq
    have hvalue := (Prod.mk.inj (List.cons.inj heq).1).2
    exact htext (String.ofList_injective (ArgumentValue.message.inj hvalue))

/-- **The checksum is not seen just when no instruction takes a message.** -/
theorem MarkedWordings.eq_iff (hdigits : ∀ c ∈ digits, isDigit c = true) {s : List Char}
    {ws ws' : List Wording} (h : MarkedWordings s (checksumText digits) ws ws') :
    ws' = ws ↔ ∀ w ∈ ws, ¬w.TakesMessage := by
  cases h with
  | same h => exact ⟨fun _ => h, fun _ => rfl⟩
  | @spoken before w u hbefore htakes hu =>
      constructor
      · intro heq
        have hlast := (List.cons.inj (List.append_cancel_left heq)).1
        exact absurd (congrArg Wording.arguments hlast) (spokenArguments_append_ne hdigits u)
      · intro hnone
        exact absurd htakes (hnone (w.speaking u) (by simp))

end

/-! ## Lines -/

/-- **A line in a frame is read as the line without it**, up to messages: it is stopped by the same
fault, or has the same comments, notes and instructions, where the checksum belongs to the message
if an instruction takes one. So the frame is not seen just when none does. -/
theorem readLine_framed {number body digits : List Char} (hsemicolon : ';' ∉ body)
    (hparenthesis : ∀ rest, '(' :: rest <:+ body → ')' ∈ rest) (hne : number ≠ [])
    (hnumber : ∀ c ∈ number, isDigit c = true) (hdigits : ∀ c ∈ digits, isDigit c = true)
    (line offset : Int) :
    (∀ f, readLine body line offset = .error f →
      readLine (framed number body digits) line offset = .error f) ∧
    ∀ content, readLine body line offset = .ok content →
      ∃ content', readLine (framed number body digits) line offset = .ok content' ∧
        content'.comments.map Comment.value = content.comments.map Comment.value ∧
        content'.notes = content.notes ∧
        MarkedWordings body (checksumText digits) (content.instructions.map Instruction.wording)
          (content'.instructions.map Instruction.wording) ∧
        (content'.instructions.map Instruction.wording =
            content.instructions.map Instruction.wording ↔
          ∀ i ∈ content.instructions, ¬i.TakesMessage) := by
  have hbody : Closed body := ⟨hsemicolon, hparenthesis⟩
  obtain ⟨hfault, hmarked⟩ := checksummed_pieces hdigits false hbody
  obtain ⟨hfault', hkept⟩ := @pieces_framed number body digits hne hnumber
  rw [← hfault'] at hfault
  rw [← hkept] at hmarked
  cases hplain : (pieces false body).fault with
  | some f =>
      have hframed := hfault.trans hplain
      simp only [readLine, hplain, hframed]
      refine ⟨fun _ => id, fun content hread => ?_⟩
      cases hread
  | none =>
      have hframed := hfault.trans hplain
      obtain ⟨hcomments, hnotes, hwordings⟩ := hmarked.said line offset
      simp only [readLine, hplain, hframed]
      refine ⟨fun f hfault => ?_, ?_⟩
      · cases hfault
      rintro content ⟨⟩
      refine ⟨_, rfl, hcomments, hnotes, hwordings, ?_⟩
      rw [hwordings.eq_iff hdigits, List.forall_mem_map]
      rfl

/-- A frame around a move is not seen. -/
theorem readLine_framed_move :
    ∃ content content', readLine "T1 G1 X5 F".toList 1 0 = .ok content ∧
      framed "10".toList "T1 G1 X5 F".toList "71".toList = "N10 T1 G1 X5 F*71".toList ∧
      readLine "N10 T1 G1 X5 F*71".toList 1 0 = .ok content' ∧
      content.instructions.map Instruction.code = ["T1", "G1"] ∧
      content'.instructions.map Instruction.wording =
        content.instructions.map Instruction.wording := by
  have hcodes : (readLine "T1 G1 X5 F".toList 1 0).toOption.map
      (·.instructions.map Instruction.code) = some ["T1", "G1"] := by decide +kernel
  obtain ⟨content, hread, hcodes⟩ := Program.exists_ok_of_toOption hcodes
  have hparenthesis : ∀ rest, '(' :: rest <:+ "T1 G1 X5 F".toList → ')' ∈ rest := by
    intro rest hrest
    exact absurd (hrest.subset List.mem_cons_self) (by decide)
  have hsilent : ∀ i ∈ content.instructions, ¬i.TakesMessage := by
    intro i hi htakes
    have hcode : i.code ∈ ["T1", "G1"] := hcodes ▸ List.mem_map_of_mem hi
    have hnot : ∀ code ∈ ["T1", "G1"], code ∉ messageCodes := by decide
    exact hnot i.code hcode htakes.2
  have hnumber : ∀ c ∈ "10".toList, isDigit c = true := List.all_eq_true.1 (by decide)
  have hdigits : ∀ c ∈ "71".toList, isDigit c = true := List.all_eq_true.1 (by decide)
  obtain ⟨-, hframed⟩ := @readLine_framed "10".toList "T1 G1 X5 F".toList "71".toList
    (by decide) hparenthesis (by decide) hnumber hdigits 1 0
  obtain ⟨content', hread', -, -, -, hiff⟩ := hframed content hread
  exact ⟨content, content', hread, by decide, hread', hcodes, hiff.2 hsilent⟩

/-- An opcode that takes a message takes the checksum with it. -/
theorem readLine_framed_message :
    (∀ c ∈ [';', '(', '*'], c ∉ "M117 Hi".toList) ∧
      framed "1".toList "M117 Hi".toList "5".toList = "N1 M117 Hi*5".toList ∧
      (readLine "M117 Hi".toList 1 0).toOption.map (·.instructions.map Instruction.wording) =
        some [⟨"M", 117, 0, [("", .message "Hi")]⟩] ∧
      (readLine "N1 M117 Hi*5".toList 1 0).toOption.map (·.instructions.map Instruction.wording) =
        some [⟨"M", 117, 0, [("", .message "Hi*5")]⟩] := by
  refine ⟨?_, by decide, by decide +kernel, by decide +kernel⟩
  rw [List.forall_mem_cons, List.forall_mem_cons, List.forall_mem_singleton]
  decide

end OpcodeAtlas
