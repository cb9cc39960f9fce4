import OpcodeAtlas.Abort
import OpcodeAtlas.Files.Tree
import OpcodeAtlas.Page.Layout
import OpcodeAtlas.Page.Record
import OpcodeAtlas.Yaml.Document

/-!
# Reading pages

A page is read in two steps: its header is decoded to the entries of a map (`HeadedText.ofText`),
and these are checked to give a record (`Page.ofText`). A page that cannot be read is reported with
its source (`PageFault.failure`); a scalar without a value of its kind is no matter of the page and
is told apart (`PageError.abort`).
-/

set_option autoImplicit false

namespace OpcodeAtlas

/-- Why a text is no page. -/
inductive PageFault where
  /-- It has no header. -/
  | layout (f : LayoutFault)
  /-- Its header is not YAML. -/
  | notYaml
  /-- Its header is a value of the given kind, and not a map. -/
  | notMap (kind : String)
  /-- Its header does not fit the schema. -/
  | issues (found : List Issue)
  deriving DecidableEq, Repr

namespace PageFault

/-- The wording of issues: the first one, and the number of the others. -/
def issuesText : List Issue → String
  | [] => "invalid value"
  | [i] => i.cause.message
  | i :: more => i.cause.message ++ " (+" ++ toString more.length ++ " more)"

/-- The wording of a fault. -/
def message : PageFault → String
  | .layout .missingHeader => "Missing front matter header"
  | .layout .unterminatedHeader => "Unterminated front matter header"
  | .notYaml => "Invalid YAML in front matter: the header cannot be read"
  | .notMap kind => "Front matter must be a mapping; received " ++ kind
  | .issues found => "Invalid front matter: " ++ issuesText found

/-- The part of a header that a fault concerns. -/
def field : PageFault → Option String
  | .issues (i :: _) => if i.place.isEmpty then none else some (".".intercalate i.place)
  | _ => none

/-- What may help against a fault. -/
def hint : PageFault → Option String
  | .layout .missingHeader => some "Start the document with a '---' delimited YAML block"
  | _ => none

/-- The report of a fault in a page from the given source. -/
def failure (source : Option String) (f : PageFault) : Failure :=
  { subject := .page source f.field, message := f.message, hint := f.hint }

end PageFault

/-- Why reading a page ends early. -/
inductive PageError where
  | fault (f : PageFault)
  | abort (a : Abort)
  deriving DecidableEq, Repr

/-- A text with the entries of its header. -/
structure HeadedText where
  header : Entries
  body : String

namespace HeadedText

/-- The entries that the value of a header holds; null stands for none. -/
def entriesOf : Value → Except PageError Entries
  | .null => .ok []
  | v =>
    match v.entries? with
    | some entries => .ok entries
    | none => .error (.fault (.notMap v.kindName))

/-- The entries of a header. -/
def readHeader (header : List Char) : Except PageError Entries :=
  match Yaml.read header with
  | .ok v => entriesOf v
  | .error .malformed => .error (.fault .notYaml)
  | .error (.scalar f) => .error (.abort (.scalar f))

/-- Read a text with its header. -/
def ofText (text : List Char) : Except PageError HeadedText :=
  match PageLayout.ofText text with
  | .error f => .error (.fault (.layout f))
  | .ok p => (readHeader p.header).map fun entries => ⟨entries, String.ofList p.body⟩

end HeadedText

/-- A documentation page: what it says of its opcodes, and its body. -/
structure Page where
  record : Record
  body : String
  deriving DecidableEq, Repr

namespace Page

/-- Check the header of a text. -/
def ofHeaded (t : HeadedText) : Except PageError Page :=
  match Record.ofFields t.header with
  | .ok record => .ok ⟨record, t.body⟩
  | .error found => .error (.fault (.issues found))

/-- Read a page. -/
def ofText (text : List Char) : Except PageError Page :=
  match HeadedText.ofText text with
  | .ok t => ofHeaded t
  | .error e => .error e

end Page

/-- Why a page file gives no page. -/
inductive PageFileError where
  | text (e : TextError)
  | page (e : PageError)
  deriving DecidableEq, Repr

/-- Read the page in a file. -/
def Page.load (h : Host) (path : Path) : Except PageFileError Page :=
  match h.readText path with
  | .error e => .error (.text e)
  | .ok text =>
    match Page.ofText text with
    | .error e => .error (.page e)
    | .ok page => .ok page

end OpcodeAtlas
