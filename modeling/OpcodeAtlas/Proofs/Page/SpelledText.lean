import OpcodeAtlas.Proofs.Page.TextPlace
import OpcodeAtlas.Proofs.Value.PlainText

/-!
# Numbers and dates for texts

Where a header has a text, it may have a number or a date, and then the record has the text that the
number or the date is spelled as. Of all places for texts there is one that does not take them, the
description of a parameter (`Record.ofValue_replaceAt`).
-/

set_option autoImplicit false

namespace OpcodeAtlas

open Schema

/-! ## Spelled values -/

/-- A number or a date is spelled as a text. A whole number is, up to the limit of digits. -/
inductive Value.IsSpelled : Value → String → Prop where
  | int {n : Int} (h : (Nat.toDigits 10 n.natAbs).length ≤ digitLimit) :
      IsSpelled (.int n) (toString n)
  | float (x : Binary64) : IsSpelled (.float x) x.valueText
  | date (d : Day) : IsSpelled (.date d) d.text
  | moment (m : Moment) : IsSpelled (.moment m) m.text

namespace Value.IsSpelled

variable {d : Value} {s : String}

theorem spelled_eq (h : d.IsSpelled s) : spelled d = .ok (.text s) := by
  cases h with
  | int h =>
      rw [spelled.eq_def]
      simp only [Number.writeInteger_eq_ok_iff.2 ⟨h, rfl⟩]
  | float x => rfl
  | date d => rfl
  | moment m => rfl

theorem spelledText_eq (h : d.IsSpelled s) : spelledText d = .ok s := by
  rw [spelledText, spelledAs, h.spelled_eq]
  rfl

/-- A spelled value is a text with characters, all of which can be encoded. -/
theorem isPlain (h : d.IsSpelled s) : Text.IsPlain s.toList := by
  cases h with
  | int h => exact isPlain_toString _
  | float x => exact isPlain_valueText x
  | date d => exact isPlain_day d
  | moment m => exact isPlain_moment m

theorem filledText_eq (h : d.IsSpelled s) : spelledAs filledText d = .ok s := by
  have hsurrogate : ∀ c ∈ s.toList, Text.isSurrogate c = false := by
    intro c hc
    have hascii := h.isPlain.ascii c hc
    have hfar : ¬Text.holderDistance ≤ c.toNat := by
      rw [Text.holderDistance]
      omega
    simp [Text.isSurrogate, hfar]
  have hencodable : Text.isEncodable s.toList = true := by
    simpa [Text.isEncodable] using hsurrogate
  have hne : s ≠ "" := by
    rintro rfl
    exact h.isPlain.ne_nil rfl
  rw [spelledAs, h.spelled_eq]
  simp [filledText, Schema.text, hencodable, hne]

theorem isSingle (h : d.IsSpelled s) : d.IsSingle := by
  cases h <;> exact ⟨rfl, nofun⟩

/-- As it is, it is no text. -/
theorem text_eq (h : d.IsSpelled s) : Schema.text d = Checked.refuse .notText := by
  cases h <;> rfl

end Value.IsSpelled

/-! ## Maps with a spelled value -/

section
variable {fields : Entries} {d : Value} {s name : String}

theorem required_putText_filled (h : d.IsSpelled s) :
    required (fields.putText name d) name (spelledAs filledText) = .ok s :=
  required_eq_ok_iff.2 ⟨d, by rw [Entries.get?_putText, if_pos rfl], h.filledText_eq⟩

theorem required_putText_spelled (h : d.IsSpelled s) :
    required (fields.putText name d) name spelledText = .ok s :=
  required_eq_ok_iff.2 ⟨d, by rw [Entries.get?_putText, if_pos rfl], h.spelledText_eq⟩

theorem allowed_putText_spelled (h : d.IsSpelled s) :
    allowed (fields.putText name d) name spelledText = .ok (some s) :=
  allowed_of_some (by rw [Entries.get?_putText, if_pos rfl]) h.isSingle.ne_null h.spelledText_eq

theorem allowed_putText_text (h : d.IsSpelled s) :
    allowed (fields.putText name d) name text = .error [⟨[name], .notText⟩] := by
  rw [allowed, Entries.get?_putText, if_pos rfl]
  simp only [optional_of_ne_null h.isSingle.ne_null, h.text_eq]
  rfl

end

/-! ## Parameter values -/

namespace ParameterValue

/-- A value under the key for a type leaves the key the same. -/
theorem typeKey_putText (fields : Entries) (w : Value) :
    typeKey (fields.putText (typeKey fields) w) = typeKey fields := by
  cases htype : fields.get? "type" with
  | some v =>
      have hkey : typeKey fields = "type" := by rw [typeKey, htype]; rfl
      rw [hkey, typeKey, Entries.get?_putText, if_pos rfl]
      rfl
  | none =>
      have hkey : typeKey fields = "type_" := by rw [typeKey, htype]; rfl
      have hne : ¬"type_" = "type" := by decide
      rw [hkey, typeKey, Entries.get?_putText, if_neg hne, htype]
      rfl

/-- **The texts of a parameter value** take numbers and dates. -/
theorem replaces (part : TextPart) {d : Value} {s : String} (hd : d.IsSpelled s) :
    Replaces ofValue [part.step] d part.get? fun a => .ok (part.set s a) := by
  intro v a hv hsome
  obtain ⟨fields, hfields, hfits⟩ := ofValue_eq_ok_iff.1 hv
  obtain ⟨t, ht⟩ := Option.isSome_iff_exists.1 hsome
  cases part with
  | tag =>
      obtain ⟨w, hget⟩ := exists_get?_of_allowed hfits.tag ht
      -- The key for the type stays the same, and what is under it too.
      have hkey : typeKey (Entries.putText fields "tag" d) = typeKey fields := by
        have hne : ¬"tag" = "type" := by decide
        rw [typeKey, Entries.get?_putText, if_neg hne]
        rfl
      have hne : "tag" ≠ typeKey fields := by
        rw [typeKey]
        split <;> decide
      refine ⟨_, replaceAt?_field hfields hget rfl, ofValue_eq_ok_iff.2 ⟨_, rfl, ?_, ?_⟩⟩
      · exact allowed_putText_spelled hd
      · rw [hkey, allowed_putText_of_ne hne]
        exact hfits.type
  | type =>
      obtain ⟨w, hget⟩ := exists_get?_of_allowed hfits.type ht
      have hne : typeKey fields ≠ "tag" := by
        rw [typeKey]
        split <;> decide
      refine ⟨_, replaceAt?_type hfields hget rfl, ofValue_eq_ok_iff.2 ⟨_, rfl, ?_, ?_⟩⟩
      · rw [allowed_putText_of_ne hne]
        exact hfits.tag
      · rw [typeKey_putText]
        exact allowed_putText_spelled hd

end ParameterValue

/-! ## Parameters -/

namespace Parameter

/-- What becomes of a parameter with a number or a date in the place of a text: the description is
refused. -/
def TextPart.outcome : TextPart → String → Parameter → Checked Parameter
  | .description, _, _ => .error [⟨["description"], .notText⟩]
  | part, s, p => .ok (part.set s p)

theorem TextPart.outcome_of_ne {part : TextPart} (hpart : part ≠ .description) (s : String)
    (p : Parameter) : part.outcome s p = .ok (part.set s p) := by
  cases part with
  | description => exact absurd rfl hpart
  | _ => rfl

section
variable {fields : Entries} {p : Parameter} {d : Value} {s : String} {part : TextPart}

/-- A text of a parameter is in its header. -/
theorem Fits.exists_get? (h : Fits fields p) (hsome : (part.get? p).isSome) :
    ∃ w, fields.get? part.name = some w := by
  obtain ⟨t, ht⟩ := Option.isSome_iff_exists.1 hsome
  cases part with
  | tag => exact exists_get?_of_required h.tag
  | since => exact exists_get?_of_allowed h.since ht
  | requires => exact exists_get?_of_allowed h.requires ht
  | description => exact exists_get?_of_allowed h.description ht

/-- Another text in the header of a parameter. -/
theorem Fits.putText (h : Fits fields p) (hd : d.IsSpelled s) (hpart : part ≠ .description) :
    Fits (fields.putText part.name d) (part.set s p) := by
  cases part with
  | description => exact absurd rfl hpart
  | _ =>
      -- The other parts are under other keys.
      constructor <;> simp [TextPart.name, TextPart.set, required_putText_filled hd,
        allowed_putText_spelled hd, required_putText_of_ne, allowed_putText_of_ne,
        defaulted_putText_of_ne, h.tag, h.isOptional, h.since, h.description, h.requires, h.values]

/-- Another row of values in the header of a parameter. -/
theorem Fits.putValues (h : Fits fields p) {w : Value} {vs : List ParameterValue}
    (hw : allowed (fields.putText "values" w) "values" (rowOf ParameterValue.ofValue) =
      .ok (some vs)) :
    Fits (fields.putText "values" w) { p with values := some vs } := by
  constructor <;> simp [hw, required_putText_of_ne, allowed_putText_of_ne,
    defaulted_putText_of_ne, h.tag, h.isOptional, h.since, h.description, h.requires]

/-- The description of a parameter has to be a text as it is. -/
theorem Fits.refused_description (h : Fits fields p) (hd : d.IsSpelled s) :
    ofValue (.map (fields.putText "description" d)) = .error [⟨["description"], .notText⟩] := by
  have hentries : (Value.map (fields.putText "description" d)).entries? =
      some (fields.putText "description" d) := rfl
  -- All other parts are complete, so the issue of this one is the only issue.
  rw [ofValue, fieldsOf, hentries]
  simp [allowed_putText_text hd, required_putText_of_ne, allowed_putText_of_ne,
    defaulted_putText_of_ne, h.tag, h.isOptional, h.since, h.requires, h.values, Checked.also,
    Checked.form]

end

/-- **The texts of a parameter** take numbers and dates, but for the description. -/
theorem replaces (part : TextPart) {d : Value} {s : String} (hd : d.IsSpelled s) :
    Replaces ofValue [.field part.name] d part.get? (part.outcome s) := by
  intro v p hv hsome
  obtain ⟨fields, hfields, hfits⟩ := ofValue_eq_ok_iff.1 hv
  obtain ⟨w, hget⟩ := hfits.exists_get? hsome
  refine ⟨_, replaceAt?_field hfields hget rfl, ?_⟩
  by_cases hpart : part = .description
  · subst hpart
    exact hfits.refused_description hd
  · rw [TextPart.outcome_of_ne hpart]
    exact ofValue_eq_ok_iff.2 ⟨_, rfl, hfits.putText hd hpart⟩

/-- **The texts of the values of a parameter** take numbers and dates. -/
theorem replaces_value (j : Nat) (part : ParameterValue.TextPart) {d : Value} {s : String}
    (hd : d.IsSpelled s) :
    Replaces ofValue [.field "values", .part j, part.step] d
      (fun p => p.values.bind fun vs => vs[j]?.bind part.get?)
      fun p => .ok { p with values := p.values.map (·.modify j (part.set s)) } := by
  -- The place is reached from the inside out: a value, a row of values, the key of the row.
  have hrow := (ParameterValue.replaces part hd).row_ok hd.isSingle j
  apply hrow.below hd.isSingle ofValue_eq_ok_iff Fits.values
  intro fields p vs w hfits hvs hvalues
  rw [hvs]
  exact hfits.putValues hvalues

end Parameter

/-! ## Examples -/

namespace Example

section
variable {fields : Entries} {e : Example} {listing : Listing}

theorem Fits.allowed_listing (h : Fits fields e) :
    allowed fields listing.name texts = .ok (listing.get? e) := by
  cases listing with
  | pre => exact h.pre
  | code => exact h.code
  | post => exact h.post

/-- Another row in the header of an example. -/
theorem Fits.putListing (h : Fits fields e) {w : Value} {lines : List String} {j : Nat} {s : String}
    (hlines : listing.get? e = some lines)
    (hw : allowed (fields.putText listing.name w) listing.name texts =
      .ok (some (lines.set j s))) :
    Fits (fields.putText listing.name w) (listing.set j s e) := by
  cases listing <;> constructor <;>
    simp_all [Listing.name, Listing.get?, Listing.set, allowed_putText_of_ne, h.pre, h.code, h.post]

end

/-- **The texts in the listings of an example** take numbers and dates. -/
theorem replaces (listing : Listing) (j : Nat) {d : Value} {s : String} (hd : d.IsSpelled s) :
    Replaces ofValue [.field listing.name, .part j] d (fun e => (listing.get? e).bind (·[j]?))
      fun e => .ok (listing.set j s e) := by
  have htexts := replaces_texts hd.spelledText_eq hd.isSingle j
  apply htexts.below hd.isSingle ofValue_eq_ok_iff Fits.allowed_listing
  intro fields e lines w hfits hlines hallowed
  exact hfits.putListing hlines hallowed

end Example

/-! ## Records -/

namespace Record

/-- What becomes of a record with a number or a date in the place of a text: where the text is the
description of a parameter, the header is refused. -/
def TextPlace.outcome (s : String) : TextPlace → Record → Checked Record
  | .parameter i .description, _ =>
    .error [⟨["parameters", toString i, "description"], .notText⟩]
  | place, r => .ok (place.set s r)

section
variable {fields : Entries} {r : Record} {d : Value} {s : String}

theorem ofValue_eq_ok_iff {v : Value} :
    ofValue v = .ok r ↔ ∃ fields, v.entries? = some fields ∧ Fits fields r := by
  rw [ofValue, fieldsOf_eq_ok_iff]
  exact exists_congr fun fields => and_congr_right fun _ => ⟨fits_of_ofFields, ofFields_of_fits⟩

/-- A text of a record is in its header. -/
theorem Fits.exists_get? {part : TextPart} (h : Fits fields r) (hsome : (part.get? r).isSome) :
    ∃ w, fields.get? part.name = some w := by
  obtain ⟨t, ht⟩ := Option.isSome_iff_exists.1 hsome
  cases part with
  | tag => exact exists_get?_of_required h.tag
  | title => exact exists_get?_of_required h.title
  | brief => exact exists_get?_of_required h.brief
  | author => exact exists_get?_of_allowed h.author ht
  | since => exact exists_get?_of_allowed h.since ht
  | requires => exact exists_get?_of_allowed h.requires ht

/-- Another text in a header. -/
theorem Fits.putText {part : TextPart} (h : Fits fields r) (hd : d.IsSpelled s) :
    Fits (fields.putText part.name d) (part.set s r) := by
  cases part <;> constructor <;>
    simp [TextPart.name, TextPart.set, required_putText_filled hd, required_putText_spelled hd,
      allowed_putText_spelled hd, required_putText_of_ne, allowed_putText_of_ne, h.tag, h.title,
      h.brief, h.author, h.experimental, h.since, h.requires, h.parameters, h.videos, h.group,
      h.codes, h.notes, h.examples]

theorem Fits.allowed_row {row : TextRow} (h : Fits fields r) :
    allowed fields row.name texts = .ok (row.get? r) := by
  cases row with
  | videos => exact h.videos
  | group => exact h.group
  | notes => exact h.notes

/-- Another row of texts in a header. -/
theorem Fits.putRow {row : TextRow} (h : Fits fields r) {w : Value} {items : List String} {i : Nat}
    (hitems : row.get? r = some items)
    (hw : allowed (fields.putText row.name w) row.name texts = .ok (some (items.set i s))) :
    Fits (fields.putText row.name w) (row.set i s r) := by
  cases row <;> constructor <;>
    simp_all [TextRow.name, TextRow.get?, TextRow.set, required_putText_of_ne,
      allowed_putText_of_ne, h.tag, h.title, h.brief, h.author, h.experimental, h.since,
      h.requires, h.parameters, h.videos, h.group, h.codes, h.notes, h.examples]

/-- Other parameters in a header. -/
theorem Fits.putParameters (h : Fits fields r) {w : Value} {ps : List Parameter}
    (hw : allowed (fields.putText "parameters" w) "parameters" (rowOf Parameter.ofValue) =
      .ok (some ps)) :
    Fits (fields.putText "parameters" w) { r with parameters := some ps } := by
  constructor <;>
    simp [hw, required_putText_of_ne, allowed_putText_of_ne, h.tag, h.title, h.brief, h.author,
      h.experimental, h.since, h.requires, h.videos, h.group, h.codes, h.notes, h.examples]

/-- Parameters with issues are all that is wrong with a header. -/
theorem Fits.refused_parameters (h : Fits fields r) {w : Value} {issues : List Issue}
    (hw : allowed (fields.putText "parameters" w) "parameters" (rowOf Parameter.ofValue) =
      .error issues) :
    ofFields (fields.putText "parameters" w) = .error issues := by
  rw [ofFields]
  simp [hw, required_putText_of_ne, allowed_putText_of_ne, h.tag, h.title, h.brief, h.author,
    h.experimental, h.since, h.requires, h.videos, h.group, h.codes, h.notes, h.examples,
    Checked.also, Checked.form]

/-- Other examples in a header. -/
theorem Fits.putExamples (h : Fits fields r) {w : Value} {es : List Example}
    (hw : allowed (fields.putText "examples" w) "examples" (rowOf Example.ofValue) =
      .ok (some es)) :
    Fits (fields.putText "examples" w) { r with examples := some es } := by
  constructor <;>
    simp [hw, required_putText_of_ne, allowed_putText_of_ne, h.tag, h.title, h.brief, h.author,
      h.experimental, h.since, h.requires, h.parameters, h.videos, h.group, h.codes, h.notes]

end

section
variable {d : Value} {s : String} {steps : List PlaceStep}

theorem replaces_own (part : TextPart) (hd : d.IsSpelled s) :
    Replaces ofValue [.field part.name] d part.get? fun r => .ok (part.set s r) := by
  intro v r hv hsome
  obtain ⟨fields, hfields, hfits⟩ := ofValue_eq_ok_iff.1 hv
  obtain ⟨w, hget⟩ := hfits.exists_get? hsome
  exact ⟨_, replaceAt?_field hfields hget rfl, ofValue_eq_ok_iff.2 ⟨_, rfl, hfits.putText hd⟩⟩

theorem replaces_item (row : TextRow) (i : Nat) (hd : d.IsSpelled s) :
    Replaces ofValue [.field row.name, .part i] d (fun r => (row.get? r).bind (·[i]?))
      fun r => .ok (row.set i s r) := by
  have htexts := replaces_texts hd.spelledText_eq hd.isSingle i
  apply htexts.below hd.isSingle ofValue_eq_ok_iff Fits.allowed_row
  intro fields r items w hfits hitems hallowed
  exact hfits.putRow hitems hallowed

/-- What a parameter takes in a place, a record takes in this place of its parameters. -/
theorem replaces_parameters {get? : Parameter → Option String} {u : Parameter → Parameter}
    (h : Replaces Parameter.ofValue steps d get? fun p => .ok (u p)) (hd : d.IsSpelled s)
    (i : Nat) :
    Replaces ofValue (.field "parameters" :: .part i :: steps) d
      (fun r => r.parameters.bind (·[i]?.bind get?))
      fun r => .ok { r with parameters := r.parameters.map (·.modify i u) } := by
  apply (h.row_ok hd.isSingle i).below hd.isSingle ofValue_eq_ok_iff Fits.parameters
  intro fields r ps w hfits hps hallowed
  rw [hps]
  exact hfits.putParameters hallowed

/-- What an example takes in a place, a record takes in this place of its examples. -/
theorem replaces_examples {get? : Example → Option String} {u : Example → Example}
    (h : Replaces Example.ofValue steps d get? fun e => .ok (u e)) (hd : d.IsSpelled s) (i : Nat) :
    Replaces ofValue (.field "examples" :: .part i :: steps) d
      (fun r => r.examples.bind (·[i]?.bind get?))
      fun r => .ok { r with examples := r.examples.map (·.modify i u) } := by
  apply (h.row_ok hd.isSingle i).below hd.isSingle ofValue_eq_ok_iff Fits.examples
  intro fields r es w hfits hes hallowed
  rw [hes]
  exact hfits.putExamples hallowed

/-- A description that is no text as it is makes the header one that is refused. -/
theorem replaces_description (i : Nat) (hd : d.IsSpelled s) :
    Replaces ofValue [.field "parameters", .part i, .field "description"] d
      (fun r => r.parameters.bind (·[i]?.bind (·.description)))
      fun _ => .error [⟨["parameters", toString i, "description"], .notText⟩] := by
  intro v r hv hsome
  obtain ⟨fields, hfields, hfits⟩ := ofValue_eq_ok_iff.1 hv
  obtain ⟨t, ht⟩ := Option.isSome_iff_exists.1 hsome
  obtain ⟨ps, hps, hitem⟩ := Option.bind_eq_some_iff.1 ht
  obtain ⟨p, hp, -⟩ := Option.bind_eq_some_iff.1 hitem
  obtain ⟨hi, -⟩ := List.getElem?_eq_some_iff.1 hp
  -- The issue comes with the number of the parameter in its place.
  have hrow := (Parameter.replaces .description hd).row hd.isSingle i
  obtain ⟨w, w', hget, hw, hrefused⟩ := hrow.allowed hd.isSingle
    (hfits.parameters.trans (congrArg _ hps)) (Option.isSome_of_eq_some hitem)
  have hissues := row_modify_error ps hi [⟨["description"], .notText⟩]
  refine ⟨_, replaceAt?_field hfields hget hw, hfits.refused_parameters ?_⟩
  exact hrefused.trans (congrArg (fun c => Checked.under "parameters" (c.map some)) hissues)

theorem replaces (place : TextPlace) (hd : d.IsSpelled s) :
    Replaces ofValue place.steps d place.get? (place.outcome s) := by
  cases place with
  | own part => exact replaces_own part hd
  | item row i => exact replaces_item row i hd
  | parameter i part =>
      by_cases hpart : part = .description
      · subst hpart
        exact replaces_description i hd
      · -- For the other parts both outcomes are complete forms.
        have hset : (TextPlace.parameter i part).outcome s =
            fun r => .ok ((TextPlace.parameter i part).set s r) := by
          cases part with
          | description => exact absurd rfl hpart
          | _ => rfl
        have hparameter := Parameter.replaces part hd
        rw [funext (Parameter.TextPart.outcome_of_ne hpart s)] at hparameter
        rw [hset]
        exact replaces_parameters hparameter hd i
  | value i j part => exact replaces_parameters (Parameter.replaces_value j part hd) hd i
  | line i listing j => exact replaces_examples (Example.replaces listing j hd) hd i

/-- **Numbers and dates are taken wherever a header has a text**, unless it is the description of a
parameter: the record has the text that the number or the date is spelled as in this place, and is
the same in all others. The description of a parameter is taken as a text only. -/
theorem ofValue_replaceAt (place : TextPlace) {v : Value} {r : Record} (hv : ofValue v = .ok r)
    (hd : d.IsSpelled s) (hsome : (place.get? r).isSome) :
    ∃ v', v.replaceAt? d place.steps = some v' ∧ ofValue v' = place.outcome s r ∧
      place.get? (place.set s r) = some s := by
  obtain ⟨v', hv', hout⟩ := replaces place hd v r hv hsome
  exact ⟨v', hv', hout, TextPlace.get?_set hsome s⟩

end

/-- A number for the type of a value, which stands under its long key in a row of one. -/
theorem ofValue_replaceAt_authored :
    ofValue authoredHeader = .ok authoredRecord ∧ (Value.int 5).IsSpelled (toString (5 : Int)) ∧
      ((TextPlace.value 0 0 .type).get? authoredRecord).isSome ∧
      ∃ v', authoredHeader.replaceAt? (.int 5) (TextPlace.value 0 0 .type).steps = some v' ∧
        ofValue v' = (TextPlace.value 0 0 .type).outcome (toString (5 : Int)) authoredRecord ∧
        (TextPlace.value 0 0 .type).get?
          ((TextPlace.value 0 0 .type).set (toString (5 : Int)) authoredRecord) =
            some (toString (5 : Int)) := by
  have hheader : ofValue authoredHeader = .ok authoredRecord := by decide +kernel
  have hfive : (Value.int 5).IsSpelled (toString (5 : Int)) := .int (by decide)
  have hsome : ((TextPlace.value 0 0 .type).get? authoredRecord).isSome := by decide
  exact ⟨hheader, hfive, hsome, ofValue_replaceAt (.value 0 0 .type) hheader hfive hsome⟩

/-- A header with a parameter that is described. -/
def describedHeader (description : Value) : Value := .map [
  (.text "tag", .text "g001"), (.text "title", .text "Move"), (.text "brief", .text "Moves"),
  (.text "parameters", .map [(.text "tag", .text "X"), (.text "description", description)]),
  (.text "codes", .text "G1")]

/-- The record of that header. -/
def describedRecord (description : String) : Record where
  tag := "g001"
  title := "Move"
  brief := "Moves"
  author := none
  experimental := none
  since := none
  requires := none
  parameters := some [⟨"X", false, none, some description, none, none⟩]
  videos := none
  group := none
  codes := ["G1"]
  notes := none
  examples := none

/-- With a number for its description, the parameter is refused, and the header with it. -/
theorem description_number_refused :
    ofValue (describedHeader (.text "Where to")) = .ok (describedRecord "Where to") ∧
      (TextPlace.parameter 0 .description).get? (describedRecord "Where to") = some "Where to" ∧
      (describedHeader (.text "Where to")).replaceAt? (.int 5)
        (TextPlace.parameter 0 .description).steps = some (describedHeader (.int 5)) ∧
      ofValue (describedHeader (.int 5)) =
        .error [⟨["parameters", "0", "description"], .notText⟩] ∧
      ofValue (describedHeader (.int 5)) ≠ .ok (describedRecord "5") := by
  refine ⟨by decide +kernel, rfl, rfl, ?_, ?_⟩
  · decide +kernel
  · decide +kernel

end Record

end OpcodeAtlas
