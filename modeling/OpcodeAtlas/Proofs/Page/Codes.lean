import OpcodeAtlas.Page.Reading
import OpcodeAtlas.Proofs.Schema.Parts
import OpcodeAtlas.Proofs.Sequence.Occurrence
import OpcodeAtlas.Proofs.Text.Blank
import OpcodeAtlas.Proofs.Text.LetterCase

/-!
# The codes of a page

The codes of a page that has been read are the first occurrences of what its header declares
(`Codes.ofTexts_eq`), so no page declares a code twice (`Page.nodup_codes`). A code may be written
in any letter case and with blanks around it (`Codes.IsSpelling`); the page has it all the same
(`Page.mem_codes_of_codeTexts`).
-/

set_option autoImplicit false

namespace OpcodeAtlas

/-! ## Checked parts -/

theorem Schema.required_eq_ok_iff {α : Type} {fields : Entries} {name : String}
    {check : Value → Checked α} {a : α} :
    required fields name check = .ok a ↔ ∃ v, fields.get? name = some v ∧ check v = .ok a := by
  rw [required, Checked.under_eq_ok_iff]
  cases fields.get? name with
  | none => simp [Checked.refuse]
  | some v => simp

/-! ## Codes -/

namespace Codes

/-- The first of equal codes are the first occurrences of those that are not in front. -/
theorem firsts_eq (seen l : List String) : firsts seen l = (l.filter (· ∉ seen)).eraseDups := by
  induction l generalizing seen with
  | nil => rfl
  | cons c l ih =>
      rw [firsts]
      by_cases hc : c ∈ seen
      · rw [if_pos (List.contains_iff_mem.2 hc), ih, List.filter_cons_of_neg (by simpa using hc)]
      · have hkeep : (c :: l).filter (· ∉ seen) = c :: l.filter (· ∉ seen) :=
          List.filter_cons_of_pos (by simpa using hc)
        have hrest :
            l.filter (· ∉ c :: seen) = (l.filter (· ∉ seen)).filter (fun b => !b == c) := by
          rw [List.filter_filter]
          refine List.filter_congr fun b _ => ?_
          rw [Bool.eq_iff_iff]
          simp
        rw [if_neg (by simpa using hc), ih, hkeep, List.eraseDups_cons, hrest]

/-- **The codes that some entries declare** are the first occurrences of their standard forms. -/
theorem ofTexts_eq (entries : List String) :
    ofTexts entries = ((entries.map normal).filter (· ≠ "")).eraseDups := by
  rw [ofTexts, firsts_eq]
  simp

/-- The codes of a header are those of its entries, each of which has a text. -/
theorem ofValue_eq_ok {v : Value} {codes : List String} (h : ofValue v = .ok codes) :
    ∃ items entries, entries? v = some items ∧ items.mapM entryText = .ok entries ∧
      codes = ofTexts entries := by
  unfold ofValue at h
  split at h
  · cases h
  · split at h
    · cases h
    · next items hitems =>
      split at h
      · cases h
      · next entries hentries =>
        simp only at h
        split at h
        · cases h
        · cases h
          exact ⟨items, entries, hitems, hentries, rfl⟩

theorem mem_of_mapM {α β ε : Type} {f : α → Except ε β} {items : List α} {found : List β}
    (h : items.mapM f = .ok found) {a : α} {b : β} (ha : a ∈ items) (hb : f a = .ok b) :
    b ∈ found := by
  induction items generalizing found with
  | nil => cases ha
  | cons x items ih =>
      rw [List.mapM_cons] at h
      cases hx : f x with
      | error e =>
          rw [hx] at h
          cases h
      | ok y =>
          cases hrest : items.mapM f with
          | error e =>
              rw [hx, hrest] at h
              cases h
          | ok rest =>
              rw [hx, hrest] at h
              cases h
              rcases List.mem_cons.1 ha with rfl | ha
              · cases hx.symm.trans hb
                exact List.mem_cons_self
              · exact List.mem_cons_of_mem y (ih hrest ha)

theorem toList_normal (s : String) :
    (normal s).toList = Text.LetterCase.upper (Text.trim s.toList) := by
  rw [normal, Text.LetterCase.upperString, Text.trimString, String.toList_ofList,
    String.toList_ofList]

/-- A text is a code as an author may write it: in any letter case, with blanks around it. -/
def IsSpelling (s code : String) : Prop :=
  ∃ front word back, s.toList = front ++ (word ++ back) ∧
    (∀ c ∈ front, Text.isBlank c = true) ∧ (∀ c ∈ back, Text.isBlank c = true) ∧
    word.map Char.toUpper = code.toList

/-- **The standard form of a spelling is the code.** -/
theorem normal_of_isSpelling {s code : String} (h : IsSpelling s code)
    (hcode : ∀ c ∈ code.toList, c.toNat < 128 ∧ Text.isBlank c = false) : normal s = code := by
  obtain ⟨front, word, back, hs, hfront, hback, hword⟩ := h
  have hblank : ∀ c ∈ word, Text.isBlank c = false := by
    intro c hc
    have hmem : c.toUpper ∈ code.toList := hword ▸ List.mem_map_of_mem hc
    exact Text.isBlank_of_toUpper (hcode c.toUpper hmem).2
  have hupper : Text.LetterCase.upper word = code.toList :=
    Text.upper_of_map_toUpper hword fun c hc => (hcode c hc).1
  rw [normal, Text.LetterCase.upperString, Text.trimString, String.toList_ofList, hs,
    Text.trim_of_blanks hfront hblank hback, hupper, String.ofList_toList]

end Codes

/-! ## Records -/

namespace Record

open Schema

/-- A record says what the parts of a header say, each checked in its own way. -/
structure Fits (fields : Entries) (r : Record) : Prop where
  tag : required fields "tag" (spelledAs filledText) = .ok r.tag
  title : required fields "title" spelledText = .ok r.title
  brief : required fields "brief" spelledText = .ok r.brief
  author : allowed fields "author" spelledText = .ok r.author
  experimental : allowed fields "experimental" switch = .ok r.experimental
  since : allowed fields "since" spelledText = .ok r.since
  requires : allowed fields "requires" spelledText = .ok r.requires
  parameters : allowed fields "parameters" (rowOf Parameter.ofValue) = .ok r.parameters
  videos : allowed fields "videos" texts = .ok r.videos
  group : allowed fields "group" texts = .ok r.group
  codes : required fields "codes" Codes.ofValue = .ok r.codes
  notes : allowed fields "notes" texts = .ok r.notes
  examples : allowed fields "examples" (rowOf Example.ofValue) = .ok r.examples

/-- **The record of a header** is the one that fits it. -/
theorem fits_of_ofFields {fields : Entries} {r : Record} (h : ofFields fields = .ok r) :
    Fits fields r := by
  -- The parts come off one by one, the last one first; what is left in front is the bare form.
  obtain ⟨f, examples, h₁, hexamples, rfl⟩ := Checked.also_eq_ok_iff.1 h
  obtain ⟨f, notes, h₂, hnotes, rfl⟩ := Checked.also_eq_ok_iff.1 h₁
  obtain ⟨f, codes, h₃, hcodes, rfl⟩ := Checked.also_eq_ok_iff.1 h₂
  obtain ⟨f, group, h₄, hgroup, rfl⟩ := Checked.also_eq_ok_iff.1 h₃
  obtain ⟨f, videos, h₅, hvideos, rfl⟩ := Checked.also_eq_ok_iff.1 h₄
  obtain ⟨f, parameters, h₆, hparameters, rfl⟩ := Checked.also_eq_ok_iff.1 h₅
  obtain ⟨f, requires, h₇, hrequires, rfl⟩ := Checked.also_eq_ok_iff.1 h₆
  obtain ⟨f, since, h₈, hsince, rfl⟩ := Checked.also_eq_ok_iff.1 h₇
  obtain ⟨f, experimental, h₉, hexperimental, rfl⟩ := Checked.also_eq_ok_iff.1 h₈
  obtain ⟨f, author, h₁₀, hauthor, rfl⟩ := Checked.also_eq_ok_iff.1 h₉
  obtain ⟨f, brief, h₁₁, hbrief, rfl⟩ := Checked.also_eq_ok_iff.1 h₁₀
  obtain ⟨f, title, h₁₂, htitle, rfl⟩ := Checked.also_eq_ok_iff.1 h₁₁
  obtain ⟨f, tag, h₁₃, htag, rfl⟩ := Checked.also_eq_ok_iff.1 h₁₂
  cases h₁₃
  exact ⟨htag, htitle, hbrief, hauthor, hexperimental, hsince, hrequires, hparameters, hvideos,
    hgroup, hcodes, hnotes, hexamples⟩

end Record

namespace Page

variable {h : Host} {p : Path} {page : Page}

/-- A page that has been read has the record of its header. -/
theorem exists_ofFields_of_load (hload : load h p = .ok page) :
    ∃ text t, h.readText p = .ok text ∧ HeadedText.ofText text = .ok t ∧
      Record.ofFields t.header = .ok page.record := by
  unfold load at hload
  split at hload
  · cases hload
  · next text htext =>
    split at hload
    · cases hload
    · next found hpage =>
      cases hload
      unfold ofText at hpage
      split at hpage
      · next t ht =>
        unfold ofHeaded at hpage
        split at hpage
        · next record hfields =>
          cases hpage
          exact ⟨text, t, htext, ht, hfields⟩
        · cases hpage
      · cases hpage

/-- **No page declares a code twice.** -/
theorem nodup_codes (hload : load h p = .ok page) : page.record.codes.Nodup := by
  obtain ⟨text, t, -, -, hfields⟩ := exists_ofFields_of_load hload
  obtain ⟨v, -, hv⟩ := Schema.required_eq_ok_iff.1 (Record.fits_of_ofFields hfields).codes
  obtain ⟨items, entries, -, -, hcodes⟩ := Codes.ofValue_eq_ok hv
  rw [hcodes, Codes.ofTexts_eq]
  exact nodup_eraseDups _

/-- The text that an entry of a list of codes is. -/
def textOf? : Value → Option String
  | .text s => some s
  | _ => none

/-- The texts that the header of a page has among its codes, as its author wrote them. -/
def codeTexts (h : Host) (p : Path) : List String :=
  match h.readText p with
  | .error _ => []
  | .ok text =>
    match HeadedText.ofText text with
    | .error _ => []
    | .ok t => (((t.header.get? "codes").bind Codes.entries?).getD []).filterMap textOf?

/-- **A page has the standard form of every code that its author wrote.** -/
theorem mem_codes_of_codeTexts (hload : load h p = .ok page) {s : String} (hs : s ∈ codeTexts h p)
    (hne : Codes.normal s ≠ "") : Codes.normal s ∈ page.record.codes := by
  obtain ⟨text, t, htext, ht, hfields⟩ := exists_ofFields_of_load hload
  obtain ⟨v, hget, hv⟩ := Schema.required_eq_ok_iff.1 (Record.fits_of_ofFields hfields).codes
  obtain ⟨items, entries, hitems, hentries, hcodes⟩ := Codes.ofValue_eq_ok hv
  have hmem : .text s ∈ items := by
    simp only [codeTexts, htext, ht, hget, Option.bind_some, hitems, Option.getD_some] at hs
    obtain ⟨item, hitem, htextOf⟩ := List.mem_filterMap.1 hs
    unfold textOf? at htextOf
    split at htextOf
    · cases htextOf
      exact hitem
    · cases htextOf
  have hentry : s ∈ entries := Codes.mem_of_mapM hentries hmem rfl
  rw [hcodes, Codes.ofTexts_eq, List.mem_eraseDups]
  exact List.mem_filter.2 ⟨List.mem_map_of_mem hentry, decide_eq_true hne⟩

end Page

end OpcodeAtlas
