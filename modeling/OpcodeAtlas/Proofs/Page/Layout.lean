import OpcodeAtlas.Page.Reading
import OpcodeAtlas.Proofs.Text.Blank
import OpcodeAtlas.Proofs.Text.DigitRow

/-!
# Where a page is cut

Behind its byte order marks, a page is a row of lines. The lines have no header (`Unopened`), or
their header has no end (`Unclosed`), or they are cut in one way at the two delimiters (`Cut.Of`);
one of the three is always the case (`unopened_or_unclosed_or_cut`). Reading follows the cut to the
character: the header that is decoded is what stands between the delimiters, the body is what
stands behind the second one, and nothing else of the header counts than what its decoder makes of
it (`HeadedText.ofText_cuts`).
-/

set_option autoImplicit false

namespace OpcodeAtlas

open Text

namespace PageLayout

/-- The lines of a page behind its byte order marks. -/
def linesOf (text : List Char) : List (List Char) := Text.lines (text.dropWhile isMark)

/-- Lines without a header: they are blank, or the first of them that is not blank is no
delimiter. -/
inductive Unopened : List (List Char) → Prop where
  | blank {ls : List (List Char)} (hblank : ∀ l ∈ ls, allBlank l = true) : Unopened ls
  | other {blanks rest : List (List Char)} {first : List Char}
      (hblank : ∀ l ∈ blanks, allBlank l = true) (hfirst : allBlank first = false)
      (hother : trim first ≠ delimiter) : Unopened (blanks ++ first :: rest)

/-- Lines with a header that does not end. -/
inductive Unclosed : List (List Char) → Prop where
  | mk {blanks rest : List (List Char)} {opening : List Char}
      (hblank : ∀ l ∈ blanks, allBlank l = true) (hopening : trim opening = delimiter)
      (hrest : ∀ l ∈ rest, trim l ≠ delimiter) : Unclosed (blanks ++ opening :: rest)

/-- The lines of a page by what they are for. -/
structure Cut where
  blanks : List (List Char)
  opening : List Char
  header : List (List Char)
  closing : List Char
  body : List (List Char)

/-- A cut of some lines: the opening line is the first one that is not blank, and the closing line
is the first delimiter behind it. -/
structure Cut.Of (c : Cut) (ls : List (List Char)) : Prop where
  lines : ls = c.blanks ++ c.opening :: (c.header ++ c.closing :: c.body)
  blanks : ∀ l ∈ c.blanks, allBlank l = true
  opening : trim c.opening = delimiter
  header : ∀ l ∈ c.header, trim l ≠ delimiter
  closing : trim c.closing = delimiter

/-! ## Delimiters -/

section
variable {l : List Char}

theorem isDelimiter_of_eq (h : trim l = delimiter) : isDelimiter l = true := by
  rw [isDelimiter, h]
  rfl

theorem isDelimiter_of_ne (h : trim l ≠ delimiter) : isDelimiter l = false :=
  beq_false_of_ne h

theorem trim_of_isDelimiter (h : isDelimiter l = true) : trim l = delimiter := eq_of_beq h

theorem trim_ne_of_not_isDelimiter (h : isDelimiter l = false) : trim l ≠ delimiter :=
  ne_of_beq_false h

/-- A delimiter is not blank. -/
theorem allBlank_of_delimiter (h : trim l = delimiter) : allBlank l = false := by
  rw [Bool.eq_false_iff]
  intro hblank
  rw [trim_of_allBlank hblank] at h
  cases h

end

/-! ## The three cases -/

/-- **Lines have no header, or one without an end, or they are cut.** -/
theorem unopened_or_unclosed_or_cut (ls : List (List Char)) :
    Unopened ls ∨ Unclosed ls ∨ ∃ c : Cut, c.Of ls := by
  have hlines : ls.takeWhile allBlank ++ ls.dropWhile allBlank = ls :=
    List.takeWhile_append_dropWhile
  have hblank : ∀ l ∈ ls.takeWhile allBlank, allBlank l = true := fun l hl =>
    List.mem_takeWhile_imp hl
  cases hdrop : ls.dropWhile allBlank with
  | nil =>
      rw [hdrop, List.append_nil] at hlines
      exact .inl (.blank (hlines ▸ hblank))
  | cons first rest =>
      have hfirst : allBlank first = false := by
        have hhead := List.head?_dropWhile_not allBlank ls
        rw [hdrop] at hhead
        simpa using hhead
      rw [hdrop] at hlines
      rw [← hlines]
      cases hopens : isDelimiter first with
      | false => exact .inl (.other hblank hfirst (trim_ne_of_not_isDelimiter hopens))
      | true =>
          have hopening := trim_of_isDelimiter hopens
          have hrest : rest.takeWhile (!isDelimiter ·) ++ rest.dropWhile (!isDelimiter ·) = rest :=
            List.takeWhile_append_dropWhile
          have hinside : ∀ l ∈ rest.takeWhile (!isDelimiter ·), trim l ≠ delimiter := fun l hl =>
            trim_ne_of_not_isDelimiter (by simpa using List.mem_takeWhile_imp hl)
          cases hcloses : rest.dropWhile (!isDelimiter ·) with
          | nil =>
              rw [hcloses, List.append_nil] at hrest
              exact .inr (.inl (.mk hblank hopening (hrest ▸ hinside)))
          | cons closing body =>
              have hclosing : isDelimiter closing = true := by
                have hhead := List.head?_dropWhile_not (!isDelimiter ·) rest
                rw [hcloses] at hhead
                simpa using hhead
              refine .inr (.inr ⟨⟨_, first, _, closing, body⟩, ?_, hblank, hopening, hinside,
                trim_of_isDelimiter hclosing⟩)
              rw [← hcloses, hrest]

/-! ## Reading along a cut -/

section
variable {text : List Char}

/-- A text of blank lines has no header. -/
theorem ofText_of_blank (h : ∀ l ∈ linesOf text, allBlank l = true) :
    ofText text = .error .missingHeader := by
  have hdrop : (linesOf text).dropWhile allBlank = [] := List.dropWhile_eq_nil_iff.2 h
  rw [linesOf] at hdrop
  simp only [ofText, hdrop]

/-- The first line that is not blank decides whether there is a header. -/
theorem ofText_of_lines {blanks rest : List (List Char)} {first : List Char}
    (h : linesOf text = blanks ++ first :: rest) (hblank : ∀ l ∈ blanks, allBlank l = true)
    (hfirst : allBlank first = false) :
    ofText text = if isDelimiter first then
        ofRest (text.takeWhile isMark) blanks.flatten first rest
      else .error .missingHeader := by
  have hhead : ∀ l ∈ (first :: rest).head?, allBlank l = false := by
    rintro l ⟨⟩
    exact hfirst
  have htake := takeWhile_row hblank hhead
  have hdrop := dropWhile_row hblank hhead
  rw [← h, linesOf] at htake hdrop
  simp only [ofText, htake, hdrop]

/-- **Lines without a header** are refused. -/
theorem ofText_of_unopened (h : Unopened (linesOf text)) : ofText text = .error .missingHeader := by
  generalize hls : linesOf text = ls at h
  cases h with
  | blank hblank => exact ofText_of_blank (hls ▸ hblank)
  | other hblank hfirst hother =>
      rw [ofText_of_lines hls hblank hfirst, isDelimiter_of_ne hother]
      rfl

/-- **A header without an end** is refused. -/
theorem ofText_of_unclosed (h : Unclosed (linesOf text)) :
    ofText text = .error .unterminatedHeader := by
  generalize hls : linesOf text = ls at h
  cases h with
  | @mk blanks rest opening hblank hopening hrest =>
      have hnone : rest.dropWhile (!isDelimiter ·) = [] :=
        List.dropWhile_eq_nil_iff.2 fun l hl => by simp [isDelimiter_of_ne (hrest l hl)]
      rw [ofText_of_lines hls hblank (allBlank_of_delimiter hopening),
        if_pos (isDelimiter_of_eq hopening)]
      simp only [ofRest, hnone]

/-- **A text that is cut** has the layout of the cut. -/
theorem ofText_of_cut {c : Cut} (h : c.Of (linesOf text)) :
    ofText text = .ok ⟨text.takeWhile isMark, c.blanks.flatten, c.opening, c.header.flatten,
      c.closing, c.body.flatten⟩ := by
  have hinside : ∀ l ∈ c.header, (!isDelimiter l) = true := fun l hl => by
    simp [isDelimiter_of_ne (h.header l hl)]
  have hcloses : ∀ l ∈ (c.closing :: c.body).head?, (!isDelimiter l) = false := by
    rintro l ⟨⟩
    simp [isDelimiter_of_eq h.closing]
  rw [ofText_of_lines h.lines h.blanks (allBlank_of_delimiter h.opening),
    if_pos (isDelimiter_of_eq h.opening)]
  simp only [ofRest, takeWhile_row hinside hcloses, dropWhile_row hinside hcloses]

-- A carriage return ends a line of the header, and a further delimiter belongs to the body.
example : ofText "\ufeff\n---\nk: v\r--- \n---\nx".toList =
    .ok ⟨['\ufeff'], ['\n'], "---\n".toList, "k: v\r".toList, "--- \n".toList,
      "---\nx".toList⟩ := by
  decide +kernel

theorem ofText_eq_missing_iff : ofText text = .error .missingHeader ↔ Unopened (linesOf text) := by
  refine ⟨fun h => ?_, ofText_of_unopened⟩
  rcases unopened_or_unclosed_or_cut (linesOf text) with hunopened | hunclosed | ⟨c, hcut⟩
  · exact hunopened
  · cases h.symm.trans (ofText_of_unclosed hunclosed)
  · cases h.symm.trans (ofText_of_cut hcut)

theorem ofText_eq_unterminated_iff :
    ofText text = .error .unterminatedHeader ↔ Unclosed (linesOf text) := by
  refine ⟨fun h => ?_, ofText_of_unclosed⟩
  rcases unopened_or_unclosed_or_cut (linesOf text) with hunopened | hunclosed | ⟨c, hcut⟩
  · cases h.symm.trans (ofText_of_unopened hunopened)
  · exact hunclosed
  · cases h.symm.trans (ofText_of_cut hcut)

end

end PageLayout

/-! ## Headers -/

namespace HeadedText

/-- What the answer of the decoder makes of a header: null stands for no entries, and a header that
is no map or cannot be decoded is a fault of the page. -/
inductive Tells : Except Yaml.Fault Value → Except PageError Entries → Prop where
  | null : Tells (.ok .null) (.ok [])
  | map {v : Value} {entries : Entries} (h : v.entries? = some entries) : Tells (.ok v) (.ok entries)
  | other {v : Value} (hnull : v ≠ .null) (h : v.entries? = none) :
      Tells (.ok v) (.error (.fault (.notMap v.kindName)))
  | malformed : Tells (.error .malformed) (.error (.fault .notYaml))
  | scalar (f : Yaml.ScalarFault) : Tells (.error (.scalar f)) (.error (.abort (.scalar f)))

theorem tells_entriesOf (v : Value) : Tells (.ok v) (entriesOf v) := by
  unfold entriesOf
  split
  · exact .null
  next hnull =>
    split
    next entries h => exact .map h
    next h => exact .other hnull h

/-- **A header counts as its decoder answers.** -/
theorem tells_readHeader (header : List Char) : Tells (Yaml.read header) (readHeader header) := by
  unfold readHeader
  cases Yaml.read header with
  | ok v => exact tells_entriesOf v
  | error e =>
      cases e with
      | malformed => exact .malformed
      | scalar f => exact .scalar f

/-- The decoder's answer settles what a header counts as. -/
theorem Tells.unique {answer : Except Yaml.Fault Value} {o o' : Except PageError Entries}
    (h : Tells answer o) (h' : Tells answer o') : o = o' := by
  cases h with
  | null =>
      cases h' with
      | null => rfl
      | map h' => cases h'
      | other hnull => exact absurd rfl hnull
  | map h =>
      cases h' with
      | null => cases h
      | map h' => rw [Option.some.inj (h.symm.trans h')]
      | other hnull h' => cases h.symm.trans h'
  | other hnull h =>
      cases h' with
      | null => exact absurd rfl hnull
      | map h' => cases h.symm.trans h'
      | other hnull' h' => rfl
  | malformed =>
      cases h' with
      | malformed => rfl
  | scalar f =>
      cases h' with
      | scalar f => rfl

/-! ## Messages -/

theorem head?_append {s t : String} {c : Char} (h : s.toList.head? = some c) :
    (s ++ t).toList.head? = some c := by
  rw [String.toList_append, List.head?_append, h]
  rfl

/-- The wording of a missing header starts with a letter that no other wording starts with, and so
does that of a header without an end. -/
theorem head?_message (f : PageFault) :
    f.message.toList.head? = match f with
      | .layout .missingHeader => some 'M'
      | .layout .unterminatedHeader => some 'U'
      | .notMap _ => some 'F'
      | _ => some 'I' := by
  cases f with
  | layout f =>
      cases f with
      | missingHeader => decide +kernel
      | unterminatedHeader => decide +kernel
  | notYaml => decide +kernel
  | notMap kind => exact head?_append (by decide +kernel)
  | issues found => exact head?_append (by decide +kernel)

/-- **No other fault has the wording of a fault of the layout.** -/
theorem message_eq_layout_iff {f : PageFault} {l : LayoutFault} :
    f.message = (PageFault.layout l).message ↔ f = .layout l := by
  refine ⟨fun h => ?_, fun h => by rw [h]⟩
  have hhead := congrArg (fun s => s.toList.head?) h
  simp only [head?_message] at hhead
  cases l with
  | missingHeader =>
      split at hhead
      · rfl
      · cases hhead
      · cases hhead
      · cases hhead
  | unterminatedHeader =>
      split at hhead
      · cases hhead
      · rfl
      · cases hhead
      · cases hhead

/-! ## Reading -/

section
variable {text : List Char}

theorem ofText_of_layout {p : PageLayout} (h : PageLayout.ofText text = .ok p) :
    ofText text = (readHeader p.header).map fun entries => ⟨entries, String.ofList p.body⟩ := by
  simp only [ofText, h]

theorem ofText_of_fault {l : LayoutFault} (h : PageLayout.ofText text = .error l) :
    ofText text = .error (.fault (.layout l)) := by
  simp only [ofText, h]

/-- What the layout has no fault of is no fault of the layout. -/
theorem ofText_eq_layout_iff {l : LayoutFault} :
    ofText text = .error (.fault (.layout l)) ↔ PageLayout.ofText text = .error l := by
  refine ⟨fun h => ?_, ofText_of_fault⟩
  cases hlayout : PageLayout.ofText text with
  | error l' =>
      rw [ofText_of_fault hlayout] at h
      cases h
      rfl
  | ok p =>
      -- A header that is there is told by its decoder, which knows nothing of layouts.
      rw [ofText_of_layout hlayout] at h
      have htells := tells_readHeader p.header
      generalize Yaml.read p.header = answer, readHeader p.header = outcome at h htells
      cases htells with
      | _ => cases h

theorem exists_fault_iff {l : LayoutFault} :
    (∃ f, ofText text = .error (.fault f) ∧ f.message = (PageFault.layout l).message) ↔
      PageLayout.ofText text = .error l := by
  rw [← ofText_eq_layout_iff]
  constructor
  · rintro ⟨f, h, hmessage⟩
    rw [h, message_eq_layout_iff.1 hmessage]
  · intro h
    exact ⟨_, h, rfl⟩

end

/-- **A page is cut at its delimiters, to the character.** It has no header if no line but blank
ones comes first, or another one than a delimiter; its header has no end if no second delimiter
follows. Otherwise the header is what stands between the first two delimiters, the body is
what stands behind them, and the parts make up the text. Of the header only the answer of its
decoder counts. -/
theorem ofText_cuts (text : List Char) :
    let ls := PageLayout.linesOf text
    ((∃ f, ofText text = .error (.fault f) ∧ f.message = "Missing front matter header") ↔
      PageLayout.Unopened ls) ∧
    ((∃ f, ofText text = .error (.fault f) ∧ f.message = "Unterminated front matter header") ↔
      PageLayout.Unclosed ls) ∧
    (PageLayout.Unopened ls ∨ PageLayout.Unclosed ls ∨ ∃ c : PageLayout.Cut, c.Of ls) ∧
    ∀ c : PageLayout.Cut, c.Of ls →
      text.takeWhile PageLayout.isMark ++ c.blanks.flatten ++ c.opening ++ c.header.flatten ++
        c.closing ++ c.body.flatten = text ∧
      (∃ outcome, Tells (Yaml.read c.header.flatten) outcome ∧
        ofText text = outcome.map fun entries => ⟨entries, String.ofList c.body.flatten⟩) ∧
      ∀ (text' : List Char) (c' : PageLayout.Cut), c'.Of (PageLayout.linesOf text') →
        Yaml.read c'.header.flatten = Yaml.read c.header.flatten →
        c'.body.flatten = c.body.flatten → ofText text' = ofText text := by
  intro ls
  refine ⟨exists_fault_iff.trans PageLayout.ofText_eq_missing_iff,
    exists_fault_iff.trans PageLayout.ofText_eq_unterminated_iff,
    PageLayout.unopened_or_unclosed_or_cut ls, fun c hc => ⟨?_, ?_, ?_⟩⟩
  · exact PageLayout.ofText_text (PageLayout.ofText_of_cut hc)
  · exact ⟨_, tells_readHeader _, ofText_of_layout (PageLayout.ofText_of_cut hc)⟩
  · intro text' c' hc' hanswer hbody
    have htells := tells_readHeader c'.header.flatten
    rw [hanswer] at htells
    rw [ofText_of_layout (PageLayout.ofText_of_cut hc'),
      ofText_of_layout (PageLayout.ofText_of_cut hc), hbody,
      htells.unique (tells_readHeader c.header.flatten)]

end HeadedText

end OpcodeAtlas
