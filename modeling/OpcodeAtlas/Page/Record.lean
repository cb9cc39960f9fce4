import OpcodeAtlas.Schema.Scalar
import OpcodeAtlas.Text.LetterCase.Upper

/-!
# Records

What a documentation page says of its opcodes: a tag, a title and a summary, the codes that it
documents, and what else its header tells. `Record.ofValue` checks a header against the schema and
`Record.toValue` gives the header that a record is written as.

Authors write headers freely. Numbers and dates stand for texts, a single value for a row of one,
and codes are trimmed, put in upper case and freed of blanks and repetitions.
-/

set_option autoImplicit false

namespace OpcodeAtlas

/-- A value that a parameter takes: its name and its type. -/
structure ParameterValue where
  tag : Option String
  type : Option String
  deriving DecidableEq, Repr

/-- A parameter of an opcode. -/
structure Parameter where
  tag : String
  isOptional : Bool
  since : Option String
  description : Option String
  requires : Option String
  values : Option (List ParameterValue)
  deriving DecidableEq, Repr

/-- An example: a listing with the lines in front of it and behind it. -/
structure Example where
  pre : Option (List String)
  code : Option (List String)
  post : Option (List String)
  deriving DecidableEq, Repr

/-- What a page says of its opcodes. -/
structure Record where
  tag : String
  title : String
  brief : String
  author : Option String
  experimental : Option Bool
  since : Option String
  requires : Option String
  parameters : Option (List Parameter)
  videos : Option (List String)
  group : Option (List String)
  codes : List String
  notes : Option (List String)
  examples : Option (List Example)
  deriving DecidableEq, Repr

/-! ## Reading headers -/

namespace Schema

/-- A part that has to be there. -/
def required {α : Type} (fields : Entries) (name : String) (check : Value → Checked α) :
    Checked α :=
  Checked.under name (match fields.get? name with
    | some v => check v
    | none => Checked.refuse .missing)

/-- A part that may be left out or null. -/
def allowed {α : Type} (fields : Entries) (name : String) (check : Value → Checked α) :
    Checked (Option α) :=
  Checked.under name (match fields.get? name with
    | some v => optional check v
    | none => .ok none)

/-- A part that stands for a default where it is left out or null. -/
def defaulted {α : Type} (default : α) (fields : Entries) (name : String)
    (check : Value → Checked α) : Checked α :=
  (allowed fields name check).map (·.getD default)

/-- The entries of a map. -/
def fieldsOf {α : Type} (part : String) (check : Entries → Checked α) (v : Value) : Checked α :=
  match v.entries? with
  | some fields => check fields
  | none => Checked.refuse (.notMap part)

/-- A text, for which numbers and dates stand too. -/
def spelledText : Value → Checked String := spelledAs text

end Schema

open Schema

/-- The key under which a parameter value tells its type: the short one if it is there. -/
def ParameterValue.typeKey (fields : Entries) : String :=
  if (fields.get? "type").isSome then "type" else "type_"

/-- Check a parameter value. -/
def ParameterValue.ofValue : Value → Checked ParameterValue :=
  fieldsOf "ParameterValue" fun fields =>
    (((Checked.form ParameterValue.mk).also (allowed fields "tag" spelledText)).also
      (allowed fields (ParameterValue.typeKey fields) spelledText))

/-- Check a parameter. Its description has to be a text. -/
def Parameter.ofValue : Value → Checked Parameter :=
  fieldsOf "Parameter" fun fields =>
    ((((((Checked.form Parameter.mk).also (required fields "tag" (spelledAs filledText))).also
      (defaulted false fields "optional" switch)).also
      (allowed fields "since" spelledText)).also
      (allowed fields "description" text)).also
      (allowed fields "requires" spelledText)).also
      (allowed fields "values" (rowOf ParameterValue.ofValue))

/-- Check an example. -/
def Example.ofValue : Value → Checked Example :=
  fieldsOf "Example" fun fields =>
    (((Checked.form Example.mk).also (allowed fields "pre" texts)).also
      (allowed fields "code" texts)).also (allowed fields "post" texts)

namespace Codes

/-- The text of an entry: texts and numbers have one. -/
def entryText : Value → Except IssueCause String
  | .text s => .ok s
  | .int n =>
    match Number.writeInteger n with
    | .ok s => .ok s
    | .error f => .error (.rule f.message)
  | .float x => .ok x.valueText
  | v => .error (.rule ("codes entries must be strings; got " ++ v.kindName))

/-- The standard form of a code: trimmed and in upper case. -/
def normal (s : String) : String := Text.LetterCase.upperString (Text.trimString s)

/-- Keep the first of equal codes; `seen` holds those in front. -/
def firsts (seen : List String) : List String → List String
  | [] => []
  | c :: rest => if seen.contains c then firsts seen rest else c :: firsts (c :: seen) rest

/-- The codes that some entries declare. -/
def ofTexts (entries : List String) : List String :=
  firsts [] ((entries.map normal).filter (· ≠ ""))

/-- The entries of a list of codes; a single text, number or switch is one entry. -/
def entries? : Value → Option (List Value)
  | .text s => some [.text s]
  | .int n => some [.int n]
  | .float x => some [.float x]
  | .bool on => some [.bool on]
  | v => v.items?

/-- Check the codes of a page: at least one. -/
def ofValue : Value → Checked (List String)
  | .null => Checked.refuse .notRow
  | v =>
    match entries? v with
    | none => Checked.refuse (.rule "codes must be a string or a list of strings")
    | some entries =>
      match entries.mapM entryText with
      | .error cause => Checked.refuse cause
      | .ok found =>
        let codes := ofTexts found
        if codes.isEmpty then Checked.refuse .rowTooShort else .ok codes

end Codes

namespace Record

/-- Check the entries of a header. -/
def ofFields (fields : Entries) : Checked Record :=
  (((((((((((((Checked.form Record.mk).also (required fields "tag" (spelledAs filledText))).also
    (required fields "title" spelledText)).also
    (required fields "brief" spelledText)).also
    (allowed fields "author" spelledText)).also
    (allowed fields "experimental" switch)).also
    (allowed fields "since" spelledText)).also
    (allowed fields "requires" spelledText)).also
    (allowed fields "parameters" (rowOf Parameter.ofValue))).also
    (allowed fields "videos" texts)).also
    (allowed fields "group" texts)).also
    (required fields "codes" Codes.ofValue)).also
    (allowed fields "notes" texts)).also
    (allowed fields "examples" (rowOf Example.ofValue))

/-- Check a header. -/
def ofValue : Value → Checked Record := fieldsOf "OpcodeDescription" ofFields

/-- The first code of a page, by which it is shown. -/
def primaryCode (r : Record) : String := r.codes.headD ""

/-- The tags of the parameters of a page. -/
def parameterTags (r : Record) : List String := (r.parameters.getD []).map (·.tag)

end Record

/-! ## Writing headers -/

/-- An entry, unless it has nothing to say. -/
def entry {α : Type} (name : String) (toValue : α → Value) : Option α → Entries
  | some a => [(.text name, toValue a)]
  | none => []

/-- A row of texts. -/
def textRow (items : List String) : Value := .list (items.map .text)

/-- The header that a parameter value is written as. -/
def ParameterValue.toValue (v : ParameterValue) : Value :=
  .map (entry "tag" .text v.tag ++ entry "type" .text v.type)

/-- The header that a parameter is written as. -/
def Parameter.toValue (p : Parameter) : Value :=
  .map ([(.text "tag", .text p.tag), (.text "optional", .bool p.isOptional)] ++
    entry "since" .text p.since ++ entry "description" .text p.description ++
    entry "requires" .text p.requires ++
    entry "values" (fun vs => .list (vs.map ParameterValue.toValue)) p.values)

/-- The header that an example is written as. -/
def Example.toValue (e : Example) : Value :=
  .map (entry "pre" textRow e.pre ++ entry "code" textRow e.code ++ entry "post" textRow e.post)

/-- The header that a record is written as. -/
def Record.toValue (r : Record) : Value :=
  .map ([(.text "tag", .text r.tag), (.text "title", .text r.title),
      (.text "brief", .text r.brief)] ++
    entry "author" .text r.author ++ entry "experimental" .bool r.experimental ++
    entry "since" .text r.since ++ entry "requires" .text r.requires ++
    entry "parameters" (fun ps => .list (ps.map Parameter.toValue)) r.parameters ++
    entry "videos" textRow r.videos ++ entry "group" textRow r.group ++
    [(.text "codes", textRow r.codes)] ++
    entry "notes" textRow r.notes ++
    entry "examples" (fun es => .list (es.map Example.toValue)) r.examples)

end OpcodeAtlas
