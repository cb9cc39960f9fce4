import Mathlib.Data.List.Infix
import OpcodeAtlas.Proofs.Program.Mark

/-!
# A comment at the end of a line

A semicolon and what stands behind it can be put at the end of a line that is closed, and the line
says the same as before and the comment (`readLine_trailingComment`). Nothing in the line reaches
over the semicolon: a message ends in front of it, just as it ends with the line, and a letter, its
blanks and a sign without digits do not draw it in.
-/

set_option autoImplicit false

namespace OpcodeAtlas

open Text

/-- What a line says, with one comment more. -/
def LineContent.withComment (content : LineContent) (c : Comment) : LineContent :=
  { content with comments := content.comments ++ [c] }

/-- A message ends in front of a semicolon. -/
theorem messageText_append_semicolon {s : List Char} (hs : ';' ∉ s) (letter : Char)
    (major minor : Int) (note : List Char) :
    messageText letter major minor (s ++ ';' :: note) = messageText letter major minor s := by
  have hrow := row_of_not_mem hs
  have hend : ∀ c ∈ (';' :: note).head?, decide (c ≠ ';') = false := by
    rintro c ⟨⟩
    decide
  have hcut : (s ++ ';' :: note).takeWhile (· ≠ ';') = s.takeWhile (· ≠ ';') := by
    rw [takeWhile_row hrow hend]
    exact (List.takeWhile_eq_self_iff.2 hrow).symm
  rw [messageText, messageText, hcut]

/-- A comment behind the pieces of a line is one comment more, at its place. -/
theorem contentOf_concat_remark (line offset : Int) (ps : List Piece) (note : List Char) :
    contentOf line offset (ps ++ [⟨.remark note, ';' :: note⟩]) =
      (contentOf line offset ps).withComment
        ⟨line, String.ofList (trim note), some ⟨line, offset + (ps.flatMap Piece.text).length,
          offset + (ps.flatMap Piece.text).length + 1 + note.length⟩⟩ := by
  have hstop : (offset + (ps.flatMap Piece.text).length + (';' :: note).length : Int) =
      offset + (ps.flatMap Piece.text).length + 1 + note.length := by
    rw [List.length_cons]
    omega
  simp only [contentOf, LineContent.withComment, placePieces_append, placePieces, hstop,
    List.filterMap_append]
  congr 1
  · exact gatherInstructions_append (List.forall_mem_singleton.2 ⟨rfl, rfl⟩) none _
  · exact List.append_nil _

/-- **A comment at the end of a line adds the comment and nothing else.** The line is read as
before, or stopped by the same fault, and what is noted on it, also in front of a fault, stays the
same. -/
theorem readLine_trailingComment {s note : List Char} (hsemicolon : ';' ∉ s)
    (hparenthesis : ∀ rest, '(' :: rest <:+ s → ')' ∈ rest) (hnote : '\n' ∉ note)
    (line offset : Int) :
    readLine (s ++ ';' :: note) line offset =
        (readLine s line offset).map (·.withComment ⟨line, String.ofList (trim note),
          some ⟨line, offset + s.length, offset + s.length + 1 + note.length⟩⟩) ∧
      (contentOf line offset (pieces false (s ++ ';' :: note)).pieces).notes =
        (contentOf line offset (pieces false s).pieces).notes := by
  have hpieces : pieces false (s ++ ';' :: note) =
      (pieces false s).followedBy ⟨[⟨.remark note, ';' :: note⟩], none⟩ := by
    refine pieces_append_mark (startsMark_semicolon note) (pieces_remark hnote) false
      ⟨hsemicolon, hparenthesis⟩ ?_
    intro p _ letter major minor _ t ht
    exact messageText_append_semicolon ht letter major minor note
  -- A fault stops the reading in front of the comment.
  cases hfault : (pieces false s).fault with
  | some f =>
      rw [LineReading.followedBy_of_fault hfault] at hpieces
      simp only [readLine, hpieces, hfault]
      exact ⟨rfl, trivial⟩
  | none =>
      rw [LineReading.followedBy_of_none hfault] at hpieces
      have htext := congrArg List.length (flatMap_text_pieces hfault)
      simp only [readLine, hpieces, hfault, contentOf_concat_remark, htext]
      exact ⟨rfl, rfl⟩

/-- A line with a comment in parentheses, a letter without a number, and a message at its end that
holds another pair of parentheses. -/
def statusLine : List Char := "G28 (home) X M117 Hi (all) ".toList

/-- What it says. -/
def statusContent : LineContent where
  comments := [⟨3, "home", some ⟨3, 14, 20⟩⟩]
  instructions :=
    [⟨"G", 28, 0, ⟨3, 10, 23⟩, [⟨"X", .flag, some ⟨3, 21, 23⟩⟩]⟩,
      ⟨"M", 117, 0, ⟨3, 23, 37⟩, [⟨"", .message "Hi (all)", some ⟨3, 27, 37⟩⟩]⟩]
  notes := []

/-- A comment behind it is trimmed, and all that stands in front of it stays as it is. -/
theorem readLine_trailingComment_status :
    ';' ∉ statusLine ∧ (∀ rest, '(' :: rest <:+ statusLine → ')' ∈ rest) ∧
      '\n' ∉ " later ".toList ∧ readLine statusLine 3 10 = .ok statusContent ∧
      readLine (statusLine ++ ';' :: " later ".toList) 3 10 =
        .ok (statusContent.withComment ⟨3, "later", some ⟨3, 37, 45⟩⟩) := by
  have hsemicolon : ';' ∉ statusLine := by decide
  have hparenthesis : ∀ rest, '(' :: rest <:+ statusLine → ')' ∈ rest := by
    have hall : ∀ t ∈ statusLine.tails, t.head? = some '(' → ')' ∈ t.tail := by decide
    intro rest hrest
    exact hall _ ((List.mem_tails _ _).2 hrest) rfl
  have hnote : '\n' ∉ " later ".toList := by decide
  have hread : readLine statusLine 3 10 = .ok statusContent := by decide +kernel
  have hmore := (readLine_trailingComment hsemicolon hparenthesis hnote 3 10).1
  rw [hread] at hmore
  exact ⟨hsemicolon, hparenthesis, hnote, hread, hmore⟩

end OpcodeAtlas
