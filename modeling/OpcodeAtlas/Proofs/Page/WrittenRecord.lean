import OpcodeAtlas.Proofs.Page.Codes
import OpcodeAtlas.Proofs.Text.UpperCase

/-!
# Records that are written and checked again

The record of a header is written as a header again, without the parts that it has nothing to say
on. Checking that header gives the record back (`Record.ofValue_toValue`). The argument follows the
schema: a check settles when what it has let through once goes through unchanged when it is written
(`Settles`), and every check of the schema is put together from checks that settle.
-/

set_option autoImplicit false

namespace OpcodeAtlas

open Schema

/-! ## Headers in parts -/

section
variable {α : Type} {toValue : α → Value} {fields : Entries} {key name : String}

@[simp]
theorem get?_entry (o : Option α) :
    Entries.get? (entry name toValue o) key = if name = key then o.map toValue else none := by
  cases o with
  | none => simp [entry]
  | some a => exact Entries.get?_cons_text (toValue a) []

theorem fieldsOf_eq_ok_iff {part : String} {check : Entries → Checked α} {v : Value} {a : α} :
    fieldsOf part check v = .ok a ↔ ∃ fields, v.entries? = some fields ∧ check fields = .ok a := by
  rw [fieldsOf]
  cases v.entries? with
  | none => simp [Checked.refuse]
  | some fields => simp

theorem optional_of_ne_null {check : Value → Checked α} {v : Value} (hv : v ≠ .null) :
    optional check v = (check v).map some := by
  cases v with
  | null => exact absurd rfl hv
  | _ => rfl

/-- A part that may be left out and says something is there and has been checked. -/
theorem exists_of_allowed {check : Value → Checked α} {a : α}
    (h : allowed fields name check = .ok (some a)) :
    ∃ v, fields.get? name = some v ∧ check v = .ok a := by
  rw [allowed, Checked.under_eq_ok_iff] at h
  split at h
  · next v hget =>
    by_cases hv : v = .null
    · subst hv
      cases h
    · rw [optional_of_ne_null hv] at h
      cases hcheck : check v with
      | error issues =>
          rw [hcheck] at h
          cases h
      | ok b =>
          rw [hcheck] at h
          cases h
          exact ⟨v, hget, hcheck⟩
  · cases h

theorem allowed_of_none {check : Value → Checked α} (hget : fields.get? name = none) :
    allowed fields name check = .ok none := by
  rw [allowed, hget]
  rfl

theorem allowed_of_some {check : Value → Checked α} {v : Value} {a : α}
    (hget : fields.get? name = some v) (hv : v ≠ .null) (h : check v = .ok a) :
    allowed fields name check = .ok (some a) := by
  rw [allowed, hget]
  simp only [optional_of_ne_null hv, h]
  rfl

/-- A part with a default that says something stands for what it says. -/
theorem defaulted_of_some {check : Value → Checked α} {v : Value} {a default : α}
    (hget : fields.get? name = some v) (hv : v ≠ .null) (h : check v = .ok a) :
    defaulted default fields name check = .ok a := by
  rw [defaulted, allowed_of_some hget hv h]
  rfl

end

/-! ## Checks that settle -/

/-- What a check has let through goes through unchanged when it is written. -/
structure Settles {α : Type} (check : Value → Checked α) (toValue : α → Value) : Prop where
  again : ∀ {v : Value} {a : α}, check v = .ok a → check (toValue a) = .ok a
  ne_null : ∀ a : α, toValue a ≠ .null

namespace Settles

variable {α : Type} {check : Value → Checked α} {toValue : α → Value} {fields written : Entries}
  {name writtenName : String}

/-- A part that has to be there is written and checked again. -/
theorem required (h : Settles check toValue) {a : α} (ha : required fields name check = .ok a)
    (hget : written.get? writtenName = some (toValue a)) :
    Schema.required written writtenName check = .ok a := by
  obtain ⟨v, -, hv⟩ := required_eq_ok_iff.1 ha
  exact required_eq_ok_iff.2 ⟨toValue a, hget, h.again hv⟩

/-- A part that may be left out is left out or written and checked again. -/
theorem allowed (h : Settles check toValue) {o : Option α}
    (ho : Schema.allowed fields name check = .ok o)
    (hget : written.get? writtenName = o.map toValue) :
    Schema.allowed written writtenName check = .ok o := by
  cases o with
  | none => exact allowed_of_none hget
  | some a =>
      obtain ⟨v, -, hv⟩ := exists_of_allowed ho
      exact allowed_of_some hget (h.ne_null a) (h.again hv)

/-- A row of parts is written as a list and checked again. -/
theorem rowOf (h : Settles check toValue) :
    Settles (Schema.rowOf check) fun items => .list (items.map toValue) where
  again := by
    intro v items hv
    have hparts : (parts v).map check = items.map .ok := Checked.row_eq_ok_iff.1 hv
    -- Each item has been checked as some part, so it is checked to itself when it is written.
    have hitems : ∀ a ∈ items, check (toValue a) = .ok a := by
      intro a ha
      have hmem : (.ok a : Checked α) ∈ (parts v).map check :=
        hparts ▸ List.mem_map_of_mem (f := Except.ok) ha
      obtain ⟨w, -, hw⟩ := List.mem_map.1 hmem
      exact h.again hw
    apply Checked.row_eq_ok_iff.2
    change (items.map toValue).map check = items.map .ok
    rw [List.map_map]
    exact List.map_congr_left hitems
  ne_null := nofun

end Settles

/-! ## Texts and switches -/

theorem settles_text : Settles text .text where
  again _ := rfl
  ne_null := nofun

theorem settles_spelledText : Settles spelledText .text where
  again _ := rfl
  ne_null := nofun

theorem settles_switch : Settles switch .bool where
  again _ := rfl
  ne_null := nofun

/-- A text with at least one character is still one when it is written. -/
theorem settles_filledText : Settles (spelledAs filledText) .text where
  again := by
    intro v s h
    unfold spelledAs at h
    split at h
    · next w _ =>
      unfold filledText at h
      split at h
      · next t _ =>
        split at h
        · cases h
        · next hencodable =>
          split at h
          · cases h
          · next hfilled =>
            cases h
            change filledText (.text s) = .ok s
            rw [filledText, text]
            exact (if_neg hencodable).trans (if_neg hfilled)
      · cases h
    · cases h
  ne_null := nofun

theorem settles_texts : Settles texts textRow where
  again := by
    intro v items _
    have hspelled : (items.map Value.text).mapM spelled = .ok (items.map Value.text) := by
      rw [List.mapM_map]
      exact List.mapM_pure
    change texts (.list (items.map .text)) = .ok items
    have hparts : parts (.list (items.map .text)) = items.map .text := rfl
    rw [texts, hparts, hspelled]
    apply Checked.row_eq_ok_iff.2
    rw [List.map_map]
    rfl
  ne_null := nofun

/-! ## Codes -/

namespace Codes

/-- **A code in standard form is its own standard form.** -/
theorem normal_normal (s : String) : normal (normal s) = normal s := by
  apply String.toList_inj.1
  have htrim : Text.IsTrimmed (Text.LetterCase.upper (Text.trim s.toList)) :=
    Text.LetterCase.isTrimmed_upper (Text.isTrimmed_trim s.toList)
  rw [toList_normal, toList_normal, htrim.trim_eq, Text.LetterCase.upper_upper]

theorem ne_nil_of_ofValue {v : Value} {codes : List String} (h : ofValue v = .ok codes) :
    codes ≠ [] := by
  unfold ofValue at h
  split at h
  · cases h
  · split at h
    · cases h
    · split at h
      · cases h
      · simp only at h
        split at h
        · cases h
        · next hne =>
          cases h
          simpa using hne

/-- Codes that a page declares are declared again by themselves. -/
theorem ofTexts_ofTexts (entries : List String) : ofTexts (ofTexts entries) = ofTexts entries := by
  have hnormal : ∀ c ∈ ofTexts entries, normal c = c ∧ c ≠ "" := by
    intro c hc
    rw [ofTexts_eq, List.mem_eraseDups, List.mem_filter, List.mem_map] at hc
    obtain ⟨⟨s, -, rfl⟩, hne⟩ := hc
    exact ⟨normal_normal s, of_decide_eq_true hne⟩
  have hmap : (ofTexts entries).map normal = ofTexts entries :=
    (List.map_congr_left fun c hc => (hnormal c hc).1).trans (List.map_id _)
  have hfilter : (ofTexts entries).filter (· ≠ "") = ofTexts entries :=
    List.filter_eq_self.2 fun c hc => decide_eq_true (hnormal c hc).2
  rw [ofTexts_eq (ofTexts entries), hmap, hfilter]
  apply eraseDups_of_nodup
  rw [ofTexts_eq]
  exact nodup_eraseDups _

end Codes

theorem settles_codes : Settles Codes.ofValue textRow where
  again := by
    intro v codes h
    obtain ⟨-, entries, -, -, hcodes⟩ := Codes.ofValue_eq_ok h
    have hempty : codes.isEmpty = false := by simpa using Codes.ne_nil_of_ofValue h
    have hsame : Codes.ofTexts codes = codes := by rw [hcodes, Codes.ofTexts_ofTexts]
    have hentries : (codes.map Value.text).mapM Codes.entryText = .ok codes := by
      rw [List.mapM_map]
      exact List.mapM_pure.trans (congrArg _ (List.map_id codes))
    change Codes.ofValue (.list (codes.map .text)) = .ok codes
    have hitems : Codes.entries? (.list (codes.map .text)) = some (codes.map .text) := rfl
    rw [Codes.ofValue.eq_def]
    simp only [hitems, hentries, hsame, hempty]
    rfl
  ne_null := nofun

/-! ## Parameters and examples -/

namespace ParameterValue

/-- A parameter value says what the parts of a header say. -/
structure Fits (fields : Entries) (a : ParameterValue) : Prop where
  tag : allowed fields "tag" spelledText = .ok a.tag
  type : allowed fields (typeKey fields) spelledText = .ok a.type

theorem ofValue_eq_ok_iff {v : Value} {a : ParameterValue} :
    ofValue v = .ok a ↔ ∃ fields, v.entries? = some fields ∧ Fits fields a := by
  rw [ofValue, fieldsOf_eq_ok_iff]
  refine exists_congr fun fields => and_congr_right fun _ => ?_
  constructor
  · intro h
    obtain ⟨f, type, h₁, htype, rfl⟩ := Checked.also_eq_ok_iff.1 h
    obtain ⟨f, tag, h₂, htag, rfl⟩ := Checked.also_eq_ok_iff.1 h₁
    cases h₂
    exact ⟨htag, htype⟩
  · intro h
    simp only [h.tag, h.type]
    rfl

/-- A type is written under the short key, which counts if it is there. -/
theorem get?_typeKey_written (tag type : Option String) :
    (entry "tag" .text tag ++ entry "type" .text type : Entries).get?
      (typeKey (entry "tag" .text tag ++ entry "type" .text type)) = type.map .text := by
  cases tag <;> cases type <;> rfl

theorem settles : Settles ofValue toValue where
  again := by
    intro v a h
    obtain ⟨fields, -, hfits⟩ := ofValue_eq_ok_iff.1 h
    refine ofValue_eq_ok_iff.2 ⟨_, rfl, ?_, ?_⟩
    · exact settles_spelledText.allowed hfits.tag (by simp)
    · exact settles_spelledText.allowed hfits.type (get?_typeKey_written a.tag a.type)
  ne_null := nofun

end ParameterValue

namespace Parameter

/-- A parameter says what the parts of a header say. -/
structure Fits (fields : Entries) (p : Parameter) : Prop where
  tag : required fields "tag" (spelledAs filledText) = .ok p.tag
  isOptional : defaulted false fields "optional" switch = .ok p.isOptional
  since : allowed fields "since" spelledText = .ok p.since
  description : allowed fields "description" text = .ok p.description
  requires : allowed fields "requires" spelledText = .ok p.requires
  values : allowed fields "values" (rowOf ParameterValue.ofValue) = .ok p.values

theorem ofValue_eq_ok_iff {v : Value} {p : Parameter} :
    ofValue v = .ok p ↔ ∃ fields, v.entries? = some fields ∧ Fits fields p := by
  rw [ofValue, fieldsOf_eq_ok_iff]
  refine exists_congr fun fields => and_congr_right fun _ => ?_
  constructor
  · intro h
    obtain ⟨f, values, h₁, hvalues, rfl⟩ := Checked.also_eq_ok_iff.1 h
    obtain ⟨f, requires, h₂, hrequires, rfl⟩ := Checked.also_eq_ok_iff.1 h₁
    obtain ⟨f, description, h₃, hdescription, rfl⟩ := Checked.also_eq_ok_iff.1 h₂
    obtain ⟨f, since, h₄, hsince, rfl⟩ := Checked.also_eq_ok_iff.1 h₃
    obtain ⟨f, isOptional, h₅, hoptional, rfl⟩ := Checked.also_eq_ok_iff.1 h₄
    obtain ⟨f, tag, h₆, htag, rfl⟩ := Checked.also_eq_ok_iff.1 h₅
    cases h₆
    exact ⟨htag, hoptional, hsince, hdescription, hrequires, hvalues⟩
  · intro h
    simp only [h.tag, h.isOptional, h.since, h.description, h.requires, h.values]
    rfl

theorem settles : Settles ofValue toValue where
  again := by
    intro v p h
    obtain ⟨fields, -, hfits⟩ := ofValue_eq_ok_iff.1 h
    refine ofValue_eq_ok_iff.2 ⟨_, rfl, ?_⟩
    constructor
    · exact settles_filledText.required hfits.tag (by simp)
    · exact defaulted_of_some (v := .bool p.isOptional) (by simp) nofun rfl
    · exact settles_spelledText.allowed hfits.since (by simp)
    · exact settles_text.allowed hfits.description (by simp)
    · exact settles_spelledText.allowed hfits.requires (by simp)
    · exact ParameterValue.settles.rowOf.allowed hfits.values (by simp)
  ne_null := nofun

end Parameter

namespace Example

/-- An example says what the parts of a header say. -/
structure Fits (fields : Entries) (e : Example) : Prop where
  pre : allowed fields "pre" texts = .ok e.pre
  code : allowed fields "code" texts = .ok e.code
  post : allowed fields "post" texts = .ok e.post

theorem ofValue_eq_ok_iff {v : Value} {e : Example} :
    ofValue v = .ok e ↔ ∃ fields, v.entries? = some fields ∧ Fits fields e := by
  rw [ofValue, fieldsOf_eq_ok_iff]
  refine exists_congr fun fields => and_congr_right fun _ => ?_
  constructor
  · intro h
    obtain ⟨f, post, h₁, hpost, rfl⟩ := Checked.also_eq_ok_iff.1 h
    obtain ⟨f, code, h₂, hcode, rfl⟩ := Checked.also_eq_ok_iff.1 h₁
    obtain ⟨f, pre, h₃, hpre, rfl⟩ := Checked.also_eq_ok_iff.1 h₂
    cases h₃
    exact ⟨hpre, hcode, hpost⟩
  · intro h
    simp only [h.pre, h.code, h.post]
    rfl

theorem settles : Settles ofValue toValue where
  again := by
    intro v e h
    obtain ⟨fields, -, hfits⟩ := ofValue_eq_ok_iff.1 h
    refine ofValue_eq_ok_iff.2 ⟨_, rfl, ?_, ?_, ?_⟩
    · exact settles_texts.allowed hfits.pre (by simp)
    · exact settles_texts.allowed hfits.code (by simp)
    · exact settles_texts.allowed hfits.post (by simp)
  ne_null := nofun

end Example

/-! ## Records -/

namespace Record

theorem ofFields_of_fits {fields : Entries} {r : Record} (h : Fits fields r) :
    ofFields fields = .ok r := by
  simp only [ofFields, h.tag, h.title, h.brief, h.author, h.experimental, h.since, h.requires,
    h.parameters, h.videos, h.group, h.codes, h.notes, h.examples]
  rfl

/-- **A record is the record of the header that it is written as**, whatever header it was read
from: with numbers for texts, single values for rows, or codes in any letter case. -/
theorem ofValue_toValue {v : Value} {r : Record} (h : ofValue v = .ok r) :
    ofValue r.toValue = .ok r := by
  obtain ⟨fields, -, hfields⟩ := fieldsOf_eq_ok_iff.1 h
  have hfits := fits_of_ofFields hfields
  refine fieldsOf_eq_ok_iff.2 ⟨_, rfl, ofFields_of_fits ?_⟩
  constructor
  · exact settles_filledText.required hfits.tag (by simp)
  · exact settles_spelledText.required hfits.title (by simp)
  · exact settles_spelledText.required hfits.brief (by simp)
  · exact settles_spelledText.allowed hfits.author (by simp)
  · exact settles_switch.allowed hfits.experimental (by simp)
  · exact settles_spelledText.allowed hfits.since (by simp)
  · exact settles_spelledText.allowed hfits.requires (by simp)
  · exact Parameter.settles.rowOf.allowed hfits.parameters (by simp)
  · exact settles_texts.allowed hfits.videos (by simp)
  · exact settles_texts.allowed hfits.group (by simp)
  · exact settles_codes.required hfits.codes (by simp)
  · exact settles_texts.allowed hfits.notes (by simp)
  · exact Example.settles.rowOf.allowed hfits.examples (by simp)

/-- A header as an author may write it: a number for the title, bytes for the summary, single
values for rows, the long key for a type, and one code in two letter cases. -/
def authoredHeader : Value := .map [
  (.text "tag", .text "g001"), (.text "title", .int 7), (.text "brief", .bytes [65, 66]),
  (.text "author", .null), (.text "experimental", .text "Yes"),
  (.text "parameters", .map [(.text "tag", .text "X"), (.text "optional", .null),
    (.text "values", .map [(.text "type_", .text "float")])]),
  (.text "videos", .list []), (.text "group", .text "motion"),
  (.text "codes", .list [.text " g1 ", .int 5, .text "G1"]),
  (.text "examples", .map [(.text "code", .text "G1 X1")])]

/-- The record of that header. -/
def authoredRecord : Record where
  tag := "g001"
  title := "7"
  brief := "AB"
  author := none
  experimental := some true
  since := none
  requires := none
  parameters := some [⟨"X", false, none, none, none, some [⟨none, some "float"⟩]⟩]
  videos := some []
  group := some ["motion"]
  codes := ["G1", "5"]
  notes := none
  examples := some [⟨none, some ["G1 X1"], none⟩]

theorem ofValue_toValue_authored :
    ofValue authoredHeader = .ok authoredRecord ∧
      ofValue authoredRecord.toValue = .ok authoredRecord := by
  have hheader : ofValue authoredHeader = .ok authoredRecord := by decide +kernel
  exact ⟨hheader, ofValue_toValue hheader⟩

end Record

end OpcodeAtlas
