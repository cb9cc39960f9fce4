import OpcodeAtlas.Proofs.Page.WrittenRecord

/-!
# Other values in a header

A place in a header is reached from the outside in, by the keys of maps and the numbers of the parts
of rows (`PlaceStep`), and another value can be put there (`Value.replaceAt?`). What a check makes
of the header then follows from what it makes of the parts: a check that gives a text for the value
at a place (`Replaces`) does so below a key and in a row too, and all other parts stay as they are.
-/

set_option autoImplicit false

namespace OpcodeAtlas

open Schema

/-! ## Places -/

/-- A step from a value to a part of it. -/
inductive PlaceStep where
  /-- To what a map has under a key. -/
  | field (name : String)
  /-- To what a parameter value has under the key that tells its type. -/
  | type
  /-- To a part of a row; a value that is no row is its only part. -/
  | part (i : Nat)
  deriving DecidableEq, Repr

/-- A row with another part; a value that is no row is replaced by the part. -/
def Value.putPart (v part : Value) (i : Nat) : Value :=
  match v.opened with
  | .list items => .list (items.set i part)
  | .tuple items => .tuple (items.set i part)
  | _ => part

namespace PlaceStep

/-- The part that a step leads to. -/
def get? (v : Value) : PlaceStep → Option Value
  | .field name => v.entries?.bind (Entries.get? · name)
  | .type => v.entries?.bind fun fields => Entries.get? fields (ParameterValue.typeKey fields)
  | .part i => (parts v)[i]?

/-- A value with another part where a step leads to. -/
def put (v part : Value) : PlaceStep → Value
  | .field name => .map (Entries.putText (v.entries?.getD []) name part)
  | .type =>
    let fields := v.entries?.getD []
    .map (Entries.putText fields (ParameterValue.typeKey fields) part)
  | .part i => v.putPart part i

end PlaceStep

/-- A value with another one at the place that some steps lead to. -/
def Value.replaceAt? (v new : Value) : List PlaceStep → Option Value
  | [] => some new
  | step :: steps =>
    match step.get? v with
    | some w => (w.replaceAt? new steps).map (step.put v)
    | none => none

section
variable {new v v' w w' : Value} {step : PlaceStep} {steps : List PlaceStep} {fields : Entries}
  {name : String} {i : Nat}

theorem replaceAt?_cons (hget : step.get? v = some w) (hw : w.replaceAt? new steps = some w') :
    v.replaceAt? new (step :: steps) = some (step.put v w') := by
  simp only [Value.replaceAt?, hget, hw, Option.map_some]

theorem exists_of_replaceAt?_cons (h : v.replaceAt? new (step :: steps) = some v') :
    ∃ w w', step.get? v = some w ∧ w.replaceAt? new steps = some w' ∧ step.put v w' = v' := by
  rw [Value.replaceAt?] at h
  split at h
  next w hget =>
    obtain ⟨w', hw, hput⟩ := Option.map_eq_some_iff.1 h
    exact ⟨w, w', hget, hw, hput⟩
  · cases h

/-- Below a key. -/
theorem replaceAt?_field (hfields : v.entries? = some fields) (hget : fields.get? name = some w)
    (hw : w.replaceAt? new steps = some w') :
    v.replaceAt? new (.field name :: steps) = some (.map (fields.putText name w')) := by
  have hstep : (PlaceStep.field name).get? v = some w := by
    rw [PlaceStep.get?, hfields, Option.bind_some, hget]
  rw [replaceAt?_cons hstep hw, PlaceStep.put, hfields, Option.getD_some]

/-- Below the key for a type. -/
theorem replaceAt?_type (hfields : v.entries? = some fields)
    (hget : fields.get? (ParameterValue.typeKey fields) = some w)
    (hw : w.replaceAt? new steps = some w') :
    v.replaceAt? new (.type :: steps) =
      some (.map (fields.putText (ParameterValue.typeKey fields) w')) := by
  have hstep : PlaceStep.type.get? v = some w := by
    rw [PlaceStep.get?, hfields, Option.bind_some, hget]
  rw [replaceAt?_cons hstep hw, PlaceStep.put, hfields, Option.getD_some]

/-! ## Rows and null -/

theorem putPart_of_none (h : v.items? = none) (part : Value) (i : Nat) :
    v.putPart part i = part := by
  unfold Value.items? at h
  split at h
  · cases h
  · cases h
  next hlist htuple =>
    unfold Value.putPart
    split
    next items hopened => exact absurd hopened (hlist items)
    next items hopened => exact absurd hopened (htuple items)
    · rfl

theorem items?_putPart {items : List Value} (h : v.items? = some items) (part : Value) (i : Nat) :
    (v.putPart part i).items? = some (items.set i part) := by
  unfold Value.items? at h
  split at h
  next found hopened =>
    cases h
    rw [Value.putPart, hopened]
    rfl
  next found hopened =>
    cases h
    rw [Value.putPart, hopened]
    rfl
  · cases h

/-- Where a value is no row, its only part is the value. -/
theorem get?_part_of_none (h : v.items? = none) :
    (PlaceStep.part i).get? v = some w ↔ i = 0 ∧ v = w := by
  rw [PlaceStep.get?, parts, h, Option.getD_none, List.getElem?_singleton]
  split
  next hi => simp [hi]
  next hi => simp [hi]

/-- A value that is neither null nor a row stands for itself wherever it is put. -/
structure Value.IsSingle (v : Value) : Prop where
  items? : v.items? = none
  ne_null : v ≠ .null

/-- Where there was no row, there is none. -/
theorem items?_of_replaceAt? (hnew : new.IsSingle) (hv : v.items? = none)
    (h : v.replaceAt? new steps = some v') : v'.items? = none := by
  induction steps generalizing v v' with
  | nil =>
      cases h
      exact hnew.items?
  | cons step steps ih =>
      obtain ⟨w, w', hget, hw, rfl⟩ := exists_of_replaceAt?_cons h
      cases step with
      | field name => rfl
      | type => rfl
      | part i =>
          -- The only part is the value itself, and what it becomes is no row.
          obtain ⟨-, rfl⟩ := (get?_part_of_none hv).1 hget
          rw [PlaceStep.put, putPart_of_none hv]
          exact ih hv hw

/-- A replaced value is not null. -/
theorem ne_null_of_replaceAt? (hnew : new.IsSingle) (h : v.replaceAt? new steps = some v') :
    v' ≠ .null := by
  induction steps generalizing v v' with
  | nil =>
      cases h
      exact hnew.ne_null
  | cons step steps ih =>
      obtain ⟨w, w', hget, hw, rfl⟩ := exists_of_replaceAt?_cons h
      cases step with
      | field name => exact nofun
      | type => exact nofun
      | part i =>
          rw [PlaceStep.put, Value.putPart]
          split
          · exact nofun
          · exact nofun
          · exact ih hw

/-- The parts of a row with another part. -/
theorem parts_put (hget : (PlaceStep.part i).get? v = some w)
    (hrow : w.items? = none → w'.items? = none) :
    parts ((PlaceStep.part i).put v w') = (parts v).set i w' := by
  rw [PlaceStep.put]
  cases hv : v.items? with
  | some items => rw [parts, parts, items?_putPart hv, hv, Option.getD_some, Option.getD_some]
  | none =>
      obtain ⟨rfl, rfl⟩ := (get?_part_of_none hv).1 hget
      rw [putPart_of_none hv, parts, hrow hv, parts, hv, Option.getD_none, Option.getD_none]
      rfl

end

/-! ## Checks of replaced values -/

/-- Wherever a check has found a text, there is a value in the place that some steps lead to, and
with another value there the check has the outcome `out`. -/
def Replaces {α : Type} (check : Value → Checked α) (steps : List PlaceStep) (new : Value)
    (get? : α → Option String) (out : α → Checked α) : Prop :=
  ∀ v a, check v = .ok a → (get? a).isSome →
    ∃ v', v.replaceAt? new steps = some v' ∧ check v' = out a

section
variable {α : Type} {check : Value → Checked α} {steps : List PlaceStep} {new : Value}
  {get? : α → Option String} {out : α → Checked α} {fields : Entries} {name key : String}

/-- The value itself. -/
theorem replaces_here {check : Value → Checked String} {s : String} (h : check new = .ok s) :
    Replaces check [] new some fun _ => .ok s := fun _ _ _ _ => ⟨new, rfl, h⟩

/-! ### In a row -/

theorem modify_eq_set {β : Type} {l : List β} {i : Nat} {b : β} (h : l[i]? = some b) (f : β → β) :
    l.modify i f = l.set i (f b) := by
  rw [List.modify_eq_set_getElem?, h]
  rfl

/-- A part of a row. -/
theorem Replaces.row (h : Replaces check steps new get? out) (hnew : new.IsSingle) (i : Nat) :
    Replaces (rowOf check) (.part i :: steps) new (fun items => items[i]?.bind get?)
      fun items => Checked.row ((items.map Except.ok).modify i (·.bind out)) := by
  intro v items hv hsome
  have hparts : (parts v).map check = items.map .ok := Checked.row_eq_ok_iff.1 hv
  obtain ⟨s, hs⟩ := Option.isSome_iff_exists.1 hsome
  obtain ⟨a, ha, hs⟩ := Option.bind_eq_some_iff.1 hs
  -- The item of the record stems from the part that the step leads to.
  have hcheck : ((parts v).map check)[i]? = some (.ok a) := by
    rw [hparts, List.getElem?_map, ha, Option.map_some]
  rw [List.getElem?_map] at hcheck
  obtain ⟨w, hget, hw⟩ := Option.map_eq_some_iff.1 hcheck
  obtain ⟨w', hw', hout⟩ := h w a hw (Option.isSome_of_eq_some hs)
  refine ⟨_, replaceAt?_cons hget hw', ?_⟩
  have hitem : (items.map (Except.ok : α → Checked α))[i]? = some (.ok a) := by
    rw [List.getElem?_map, ha, Option.map_some]
  rw [rowOf, parts_put hget fun hrow => items?_of_replaceAt? hnew hrow hw', List.map_set, hparts,
    hout]
  exact congrArg Checked.row (modify_eq_set hitem fun c : Checked α => c.bind out).symm

/-- All parts of a row but one are as they were. -/
theorem row_modify_ok (items : List α) (i : Nat) (u : α → α) :
    Checked.row ((items.map Except.ok).modify i (·.bind fun a => .ok (u a))) =
      .ok (items.modify i u) := by
  rw [Checked.row_eq_ok_iff]
  apply List.ext_getElem?
  intro j
  rw [List.getElem?_modify, List.getElem?_map, List.getElem?_map, List.getElem?_modify]
  cases items[j]? with
  | none => rfl
  | some a =>
      by_cases hij : i = j
      · simp [hij, Except.bind]
      · simp [hij]

/-- A part of a row, of which a complete form becomes another one. -/
theorem Replaces.row_ok {u : α → α} (h : Replaces check steps new get? fun a => .ok (u a))
    (hnew : new.IsSingle) (i : Nat) :
    Replaces (rowOf check) (.part i :: steps) new (fun items => items[i]?.bind get?)
      fun items => .ok (items.modify i u) := by
  have hrow := h.row hnew i
  simp only [row_modify_ok] at hrow
  exact hrow

theorem all_numbered_modify_error (items : List α) {n i : Nat} (hi : i < items.length)
    (issues : List Issue) :
    Checked.all
        (Checked.numbered n ((items.map Except.ok).modify i (·.bind fun _ => .error issues))) =
      Checked.under (toString (n + i)) (.error issues) := by
  induction items generalizing n i with
  | nil => exact absurd hi (Nat.not_lt_zero i)
  | cons a items ih =>
      cases i with
      | zero =>
          have hrest : Checked.all (Checked.numbered (n + 1) (items.map Except.ok)) = .ok items :=
            Checked.all_numbered_eq_ok_iff.2 rfl
          rw [List.map_cons, List.modify_zero_cons, Checked.numbered, Checked.all, hrest]
          rfl
      | succ i =>
          have hrest := ih (n := n + 1) (Nat.lt_of_succ_lt_succ hi)
          rw [List.map_cons, List.modify_succ_cons, Checked.numbered, Checked.all, hrest,
            Nat.add_right_comm n 1 i]
          rfl

/-- A row has the issues of its only wrong part. -/
theorem row_modify_error (items : List α) {i : Nat} (hi : i < items.length)
    (issues : List Issue) :
    Checked.row ((items.map Except.ok).modify i (·.bind fun _ => .error issues)) =
      Checked.under (toString i) (.error issues) := by
  rw [Checked.row, all_numbered_modify_error items hi issues, Nat.zero_add]

theorem spelledText_eq_ok_iff {v : Value} {s : String} :
    spelledText v = .ok s ↔ ∃ w, spelled v = .ok w ∧ text w = .ok s := by
  rw [spelledText, spelledAs]
  cases spelled v with
  | ok w => simp
  | error cause => simp [Checked.refuse]

/-- In a row of texts, numbers and dates are spelled one by one. -/
theorem mapM_spelled_iff {vs : List Value} {items : List String} :
    (∃ ws, vs.mapM spelled = .ok ws ∧ ws.map text = items.map .ok) ↔
      vs.map spelledText = items.map .ok := by
  induction vs generalizing items with
  | nil =>
      constructor
      · rintro ⟨ws, hws, htexts⟩
        cases hws
        exact htexts
      · exact fun hnil => ⟨[], rfl, hnil⟩
  | cons v vs ih =>
      -- A row is spelled from its first part on.
      have hcons (ws : List Value) : (v :: vs).mapM spelled = .ok ws ↔
          ∃ w rest, spelled v = .ok w ∧ vs.mapM spelled = .ok rest ∧ ws = w :: rest := by
        rw [List.mapM_cons]
        cases spelled v <;> cases vs.mapM spelled <;>
          simp [bind, Except.bind, pure, Except.pure, eq_comm]
      constructor
      · rintro ⟨ws, hws, htexts⟩
        obtain ⟨w, rest, hw, hrest, rfl⟩ := (hcons ws).1 hws
        obtain ⟨s, items, rfl, hs, hitems⟩ := List.map_eq_cons_iff.1 htexts.symm
        have hmap := ih.1 ⟨rest, hrest, hitems.symm⟩
        rw [List.map_cons, spelledText_eq_ok_iff.2 ⟨w, hw, hs.symm⟩, hmap]
        rfl
      · intro htexts
        obtain ⟨s, items, rfl, hs, hitems⟩ := List.map_eq_cons_iff.1 htexts.symm
        obtain ⟨w, hw, hs⟩ := spelledText_eq_ok_iff.1 hs.symm
        obtain ⟨rest, hrest, hmap⟩ := ih.2 hitems.symm
        refine ⟨w :: rest, (hcons _).2 ⟨w, rest, hw, hrest, rfl⟩, ?_⟩
        rw [List.map_cons, hs, hmap]
        rfl

theorem texts_eq_ok_iff {v : Value} {items : List String} :
    texts v = .ok items ↔ rowOf spelledText v = .ok items := by
  rw [rowOf, Checked.row_eq_ok_iff, ← mapM_spelled_iff, texts]
  cases (parts v).mapM spelled with
  | ok ws => simp [Checked.row_eq_ok_iff]
  | error cause => simp [Checked.refuse]

/-- A text in a row of texts. -/
theorem replaces_texts {s : String} (h : spelledText new = .ok s) (hnew : new.IsSingle) (i : Nat) :
    Replaces texts [.part i] new (·[i]?) fun items => .ok (items.set i s) := by
  intro v items hv hsome
  obtain ⟨v', hv', hout⟩ := (replaces_here h).row hnew i v items (texts_eq_ok_iff.1 hv)
    (by simpa using hsome)
  have hitems : rowOf spelledText v' = .ok (items.modify i fun _ => s) :=
    hout.trans (row_modify_ok items i fun _ => s)
  refine ⟨v', hv', (texts_eq_ok_iff.2 hitems).trans ?_⟩
  exact congrArg Except.ok (List.set_eq_modify s i items).symm

/-! ### Below a key -/

theorem exists_get?_of_required {a : α} (h : required fields name check = .ok a) :
    ∃ w, fields.get? name = some w := by
  obtain ⟨w, hget, -⟩ := required_eq_ok_iff.1 h
  exact ⟨w, hget⟩

theorem exists_get?_of_allowed {o : Option α} {a : α} (h : allowed fields name check = .ok o)
    (ho : o = some a) : ∃ w, fields.get? name = some w := by
  subst ho
  obtain ⟨w, hget, -⟩ := exists_of_allowed h
  exact ⟨w, hget⟩

theorem required_putText_of_ne (hne : key ≠ name) (w : Value) :
    required (fields.putText key w) name check = required fields name check := by
  rw [required, required, Entries.get?_putText, if_neg hne]

theorem allowed_putText_of_ne (hne : key ≠ name) (w : Value) :
    allowed (fields.putText key w) name check = allowed fields name check := by
  rw [allowed, allowed, Entries.get?_putText, if_neg hne]

theorem defaulted_putText_of_ne {default : α} (hne : key ≠ name) (w : Value) :
    defaulted default (fields.putText key w) name check = defaulted default fields name check := by
  rw [defaulted, defaulted, allowed_putText_of_ne hne]

/-- A part that may be left out, and is not. -/
theorem Replaces.allowed (h : Replaces check steps new get? out) (hnew : new.IsSingle) {a : α}
    (ha : Schema.allowed fields name check = .ok (some a)) (hsome : (get? a).isSome) :
    ∃ w w', fields.get? name = some w ∧ w.replaceAt? new steps = some w' ∧
      Schema.allowed (fields.putText name w') name check =
        Checked.under name ((out a).map some) := by
  obtain ⟨w, hget, hw⟩ := exists_of_allowed ha
  obtain ⟨w', hw', hout⟩ := h w a hw hsome
  refine ⟨w, w', hget, hw', ?_⟩
  rw [Schema.allowed, Entries.get?_putText, if_pos rfl]
  simp only [optional_of_ne_null (ne_null_of_replaceAt? hnew hw'), hout]

/-- What a part takes in a place, the whole takes in this place of the part: a whole is a form that
fits the entries of its header, and still does when the part is another one. -/
theorem Replaces.below {β : Type} {whole : Value → Checked β} {Fits : Entries → β → Prop}
    {part? : β → Option α} {u : α → α} {u' : β → β}
    (h : Replaces check steps new get? fun a => .ok (u a)) (hnew : new.IsSingle)
    (hwhole : ∀ {v b}, whole v = .ok b ↔ ∃ fields, v.entries? = some fields ∧ Fits fields b)
    (hpart : ∀ {fields b}, Fits fields b → Schema.allowed fields name check = .ok (part? b))
    (hput : ∀ {fields b a w}, Fits fields b → part? b = some a →
      Schema.allowed (fields.putText name w) name check = .ok (some (u a)) →
        Fits (fields.putText name w) (u' b)) :
    Replaces whole (.field name :: steps) new (fun b => (part? b).bind get?)
      fun b => .ok (u' b) := by
  intro v b hv hsome
  obtain ⟨fields, hfields, hfits⟩ := hwhole.1 hv
  obtain ⟨s, hs⟩ := Option.isSome_iff_exists.1 hsome
  obtain ⟨a, ha, hs⟩ := Option.bind_eq_some_iff.1 hs
  obtain ⟨w, w', hget, hw, hallowed⟩ := h.allowed hnew ((hpart hfits).trans (congrArg _ ha))
    (Option.isSome_of_eq_some hs)
  refine ⟨_, replaceAt?_field hfields hget hw, ?_⟩
  exact hwhole.2 ⟨_, rfl, hput hfits ha hallowed⟩

end

end OpcodeAtlas
