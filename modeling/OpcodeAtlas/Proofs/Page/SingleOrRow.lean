import OpcodeAtlas.Proofs.Page.TextPlace

/-!
# A single value in place of a row

Where a header has a row, its author may write a single value for a row of one. A check of rows
looks at parts only (`Schema.parts`), and the only part of a row of one is the value itself
(`Schema.parts_wrapIf`), so that it does not tell one from the other (`Schema.Unseen`).

The rows of a header are those of the record and, one level below, those of its parameters and of
its examples (`Record.RowPlace`). Whichever of them are written in the other way
(`Record.wrapRows`), the header comes to the same record or to the same issues
(`Record.ofValue_wrapRows`).
-/

set_option autoImplicit false

namespace OpcodeAtlas

/-! ## Changes of a value -/

namespace Value

/-- A row of the one value, where this is chosen; null and what is a row already stay. -/
def wrapIf (chosen : Bool) : Value → Value
  | .null => .null
  | v => if chosen && v.items?.isNone then .list [v] else v

/-- A value with its parts changed by their numbers; a value that is no row is its only part. -/
def mapParts (f : Nat → Value → Value) (v : Value) : Value :=
  match v.opened with
  | .list items => .list (items.mapIdx f)
  | .tuple items => .tuple (items.mapIdx f)
  | _ => f 0 v

/-- A map with its entries changed; anything else stays. -/
def mapEntries (f : Entries → Entries) (v : Value) : Value :=
  match v.entries? with
  | some fields => .map (f fields)
  | none => v

end Value

/-- Entries with what stands under a text changed. -/
def Entries.change (es : Entries) (name : String) (f : Value → Value) : Entries :=
  match es.get? name with
  | some v => es.putText name (f v)
  | none => es

theorem Entries.get?_change (es : Entries) (key name : String) (f : Value → Value) :
    (es.change key f).get? name = if key = name then (es.get? name).map f else es.get? name := by
  rw [change]
  split
  next v hget =>
    rw [get?_putText]
    by_cases hkey : key = name
    · rw [if_pos hkey, if_pos hkey, ← hkey, hget, Option.map_some]
    · rw [if_neg hkey, if_neg hkey]
  next hnone =>
    by_cases hkey : key = name
    · rw [if_pos hkey, ← hkey, hnone, Option.map_none]
    · rw [if_neg hkey]

/-! ## What a check of rows sees -/

namespace Schema

variable {α : Type} {check : Value → Checked α} {f : Value → Value} {fields : Entries}
  {key name : String}

/-- A row of one has the parts of the value. -/
theorem parts_wrapIf (chosen : Bool) (v : Value) : parts (v.wrapIf chosen) = parts v := by
  unfold Value.wrapIf
  split
  · rfl
  · split
    next hwrap =>
      rw [Bool.and_eq_true, Option.isNone_iff_eq_none] at hwrap
      unfold parts
      rw [hwrap.2]
      rfl
    · rfl

theorem wrapIf_eq_null_iff (chosen : Bool) (v : Value) : v.wrapIf chosen = .null ↔ v = .null := by
  unfold Value.wrapIf
  split
  · rfl
  · split
    next hne _ => exact iff_of_false nofun hne
    · rfl

/-- A change of values keeps rows what they are, and null. -/
structure KeepsRows (f : Value → Value) : Prop where
  items? : ∀ v, (f v).items? = v.items?
  null : ∀ v, f v = .null ↔ v = .null

/-- A map is no row, and not null, whatever its entries are. -/
theorem keepsRows_mapEntries (g : Entries → Entries) : KeepsRows (Value.mapEntries g) := by
  constructor
  · intro v
    unfold Value.mapEntries
    split
    next fields hfields =>
      unfold Value.entries? at hfields
      split at hfields
      next entries hopened =>
        unfold Value.items?
        rw [hopened]
        rfl
      · cases hfields
    · rfl
  · intro v
    unfold Value.mapEntries
    split
    next fields hfields =>
      apply iff_of_false nofun
      rintro rfl
      cases hfields
    · rfl

/-- Parts that are changed stay where they are. -/
theorem parts_mapParts {g : Nat → Value → Value} (hg : ∀ i, KeepsRows (g i)) (v : Value) :
    parts (v.mapParts g) = (parts v).mapIdx g := by
  unfold Value.mapParts
  split
  next items hopened =>
    unfold parts Value.items?
    rw [hopened]
    rfl
  next items hopened =>
    unfold parts Value.items?
    rw [hopened]
    rfl
  next hlist htuple =>
    -- The value is its only part.
    have hnone : v.items? = none := by
      unfold Value.items?
      split
      next items hopened => exact absurd hopened (hlist items)
      next items hopened => exact absurd hopened (htuple items)
      · rfl
    unfold parts
    rw [(hg 0).items?, hnone]
    rfl

theorem mapParts_eq_null_iff {g : Nat → Value → Value} (hg : ∀ i, KeepsRows (g i)) (v : Value) :
    v.mapParts g = .null ↔ v = .null := by
  unfold Value.mapParts
  split
  next items hopened =>
    apply iff_of_false nofun
    rintro rfl
    cases hopened
  next items hopened =>
    apply iff_of_false nofun
    rintro rfl
    cases hopened
  · exact (hg 0).null v

/-! ## Changes that a check does not see -/

/-- A check does not see a change of values: it has the same outcome, and null stays apart. -/
structure Unseen (check : Value → Checked α) (f : Value → Value) : Prop where
  outcome : ∀ v, check (f v) = check v
  null : ∀ v, f v = .null ↔ v = .null

theorem Unseen.optional (h : Unseen check f) (v : Value) :
    Schema.optional check (f v) = Schema.optional check v := by
  by_cases hv : v = .null
  · rw [(h.null v).2 hv, hv]
  · rw [optional_of_ne_null hv, optional_of_ne_null (mt (h.null v).1 hv), h.outcome]

theorem required_change_of_ne (hne : key ≠ name) :
    required (fields.change key f) name check = required fields name check := by
  rw [required, required, Entries.get?_change, if_neg hne]

theorem allowed_change_of_ne (hne : key ≠ name) :
    allowed (fields.change key f) name check = allowed fields name check := by
  rw [allowed, allowed, Entries.get?_change, if_neg hne]

theorem defaulted_change_of_ne {default : α} (hne : key ≠ name) :
    defaulted default (fields.change key f) name check = defaulted default fields name check := by
  rw [defaulted, defaulted, allowed_change_of_ne hne]

theorem required_change (h : ∀ v, check (f v) = check v) :
    required (fields.change name f) name check = required fields name check := by
  rw [required, required, Entries.get?_change, if_pos rfl]
  cases fields.get? name with
  | none => rfl
  | some v => simp only [Option.map_some, h v]

theorem allowed_change (h : Unseen check f) :
    allowed (fields.change name f) name check = allowed fields name check := by
  rw [allowed, allowed, Entries.get?_change, if_pos rfl]
  cases fields.get? name with
  | none => rfl
  | some v => simp only [Option.map_some, h.optional v]

/-- A row of texts and a single text in place of it. -/
theorem unseen_texts (chosen : Bool) : Unseen texts (·.wrapIf chosen) where
  outcome v := by rw [texts, texts, parts_wrapIf]
  null := wrapIf_eq_null_iff chosen

/-- A row of maps and a single one in place of it. -/
theorem unseen_rowOf (check : Value → Checked α) (chosen : Bool) :
    Unseen (rowOf check) (·.wrapIf chosen) where
  outcome v := by rw [rowOf, rowOf, parts_wrapIf]
  null := wrapIf_eq_null_iff chosen

/-- A row with changed parts, if the changes are not seen in the parts. -/
theorem unseen_mapParts {g : Nat → Value → Value} (hg : ∀ i, KeepsRows (g i))
    (h : ∀ i v, check (g i v) = check v) : Unseen (rowOf check) (·.mapParts g) where
  outcome v := by
    have hparts : ((parts v).mapIdx g).map check = (parts v).map check := by
      apply List.ext_getElem
      · simp only [List.length_map, List.length_mapIdx]
      · intro i _ _
        simp only [List.getElem_map, List.getElem_mapIdx, h]
    rw [rowOf, rowOf, parts_mapParts hg, hparts]
  null := mapParts_eq_null_iff hg

theorem Unseen.comp {g : Value → Value} (hf : Unseen check f) (hg : Unseen check g) :
    Unseen check fun v => f (g v) where
  outcome v := by rw [hf.outcome, hg.outcome]
  null v := by rw [hf.null, hg.null]

/-- A check of a map that does not see a change of entries. -/
theorem fieldsOf_mapEntries {part : String} {check : Entries → Checked α} {g : Entries → Entries}
    (h : ∀ fields, check (g fields) = check fields) (v : Value) :
    fieldsOf part check (v.mapEntries g) = fieldsOf part check v := by
  unfold Value.mapEntries
  split
  next fields hfields =>
    have hmap : (Value.map (g fields)).entries? = some (g fields) := rfl
    rw [fieldsOf, fieldsOf, hmap, hfields]
    exact h fields
  · rfl

end Schema

open Schema

/-! ## Parameters, examples and codes -/

/-- A parameter whose values are a row of one, where this is chosen. -/
def Parameter.wrapValues (chosen : Bool) : Value → Value :=
  Value.mapEntries fun fields => fields.change "values" (·.wrapIf chosen)

theorem Parameter.ofValue_wrapValues (chosen : Bool) (v : Value) :
    ofValue (wrapValues chosen v) = ofValue v := by
  apply fieldsOf_mapEntries
  intro fields
  simp (disch := decide) only [required_change_of_ne, allowed_change_of_ne, defaulted_change_of_ne,
    allowed_change (unseen_rowOf _ chosen)]

/-- An example whose listings are rows of one, where this is chosen. -/
def Example.wrapListings (chosen : Listing → Bool) : Value → Value :=
  Value.mapEntries fun fields =>
    ((fields.change "pre" (·.wrapIf (chosen .pre))).change "code"
      (·.wrapIf (chosen .code))).change "post" (·.wrapIf (chosen .post))

theorem Example.ofValue_wrapListings (chosen : Listing → Bool) (v : Value) :
    ofValue (wrapListings chosen v) = ofValue v := by
  apply fieldsOf_mapEntries
  intro fields
  simp (disch := decide) only [allowed_change_of_ne, allowed_change (unseen_texts _)]

namespace Codes

/-- A row of the one code that a text, a number or a switch is, where this is chosen. -/
def wrapIf (chosen : Bool) : Value → Value
  | .text s => if chosen then .list [.text s] else .text s
  | .int n => if chosen then .list [.int n] else .int n
  | .float x => if chosen then .list [.float x] else .float x
  | .bool on => if chosen then .list [.bool on] else .bool on
  | v => v

/-- Codes are what their entries are. -/
theorem ofValue_congr {v w : Value} (hv : v ≠ .null) (hw : w ≠ .null)
    (h : entries? v = entries? w) : ofValue v = ofValue w := by
  unfold ofValue
  split
  · exact absurd rfl hv
  · rw [h]

theorem ofValue_wrapIf (chosen : Bool) (v : Value) : ofValue (wrapIf chosen v) = ofValue v := by
  cases chosen with
  | false => cases v <;> rfl
  | true =>
      cases v with
      | text s => exact ofValue_congr nofun nofun rfl
      | int n => exact ofValue_congr nofun nofun rfl
      | float x => exact ofValue_congr nofun nofun rfl
      | bool on => exact ofValue_congr nofun nofun rfl
      | _ => rfl

end Codes

/-! ## Headers -/

namespace Record

/-- The places of a header where a single value may stand for a row. -/
inductive RowPlace where
  /-- A row of texts of the record. -/
  | texts (row : TextRow)
  | parameters
  /-- The values of a parameter. -/
  | values (i : Nat)
  | examples
  /-- A listing of an example. -/
  | listing (i : Nat) (l : Example.Listing)
  | codes
  deriving DecidableEq, Repr

/-- A header with single values in rows of one at the chosen places. -/
def wrapRows (chosen : RowPlace → Bool) (fields : Entries) : Entries :=
  ((((((fields.change "parameters" fun v =>
      (v.mapParts fun i => Parameter.wrapValues (chosen (.values i))).wrapIf
        (chosen .parameters)).change "examples" fun v =>
      (v.mapParts fun i => Example.wrapListings fun l => chosen (.listing i l)).wrapIf
        (chosen .examples)).change "codes" (Codes.wrapIf (chosen .codes))).change
    "videos" (·.wrapIf (chosen (.texts .videos)))).change
    "group" (·.wrapIf (chosen (.texts .group)))).change
    "notes" (·.wrapIf (chosen (.texts .notes))))

variable (chosen : RowPlace → Bool) (fields : Entries)

theorem unseen_parameters : Unseen (rowOf Parameter.ofValue) fun v =>
    (v.mapParts fun i => Parameter.wrapValues (chosen (.values i))).wrapIf (chosen .parameters) :=
  (unseen_rowOf _ _).comp
    (unseen_mapParts (fun _ => keepsRows_mapEntries _) fun _ => Parameter.ofValue_wrapValues _)

theorem unseen_examples : Unseen (rowOf Example.ofValue) fun v =>
    (v.mapParts fun i => Example.wrapListings fun l => chosen (.listing i l)).wrapIf
      (chosen .examples) :=
  (unseen_rowOf _ _).comp
    (unseen_mapParts (fun _ => keepsRows_mapEntries _) fun _ => Example.ofValue_wrapListings _)

/-- A header is checked the same with single values in place of rows of one. -/
theorem ofFields_wrapRows : ofFields (wrapRows chosen fields) = ofFields fields := by
  -- Every field is read past the changes of the others, and its own change is not seen.
  simp (disch := decide) only [ofFields, wrapRows, required_change_of_ne, allowed_change_of_ne,
    required_change (Codes.ofValue_wrapIf _), allowed_change (unseen_texts _),
    allowed_change (unseen_parameters chosen), allowed_change (unseen_examples chosen)]

/-- **A single value and a row of one are interchangeable.** At whichever places of a header single
values are put in rows of one, on one level or on both, checking the header has the same outcome:
the same record, or the same issues with the same places and causes. -/
theorem ofValue_wrapRows (v : Value) (chosen : RowPlace → Bool) :
    ofValue (v.mapEntries (wrapRows chosen)) = ofValue v :=
  fieldsOf_mapEntries (ofFields_wrapRows chosen) v

/-- All places of a header at once: a single parameter with a single value, and a code. -/
example :
    Value.mapEntries (wrapRows fun _ => true) (.map [(.text "codes", .text "G1"),
      (.text "parameters", .map [(.text "tag", .text "X"), (.text "values", .int 5)])]) =
    .map [(.text "codes", .list [.text "G1"]),
      (.text "parameters", .list [.map [(.text "tag", .text "X"),
        (.text "values", .list [.int 5])]])] := by
  rfl

end Record

end OpcodeAtlas
