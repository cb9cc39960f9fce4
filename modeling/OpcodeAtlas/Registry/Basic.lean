import OpcodeAtlas.Page.Reading
import OpcodeAtlas.Registry.CodeTable

/-!
# Registries

A registry holds the documentation of a directory: a table of records, one of bodies and one of
sources, each with the codes in the order in which they were first declared. It keeps an account
of the pages that were skipped and of the codes that several pages declare.

Each page has one record, which all of its codes share (`SharedRecord`). Records of different pages
are different ones, also if they say the same.
-/

set_option autoImplicit false

namespace OpcodeAtlas

/-! ## Duplicate codes -/

/-- What happens when a second page declares a code. -/
inductive DuplicatePolicy where
  | firstWins
  | lastWins
  | refuse
  deriving DecidableEq, Repr

namespace DuplicatePolicy

/-- The policies with their names. -/
def byName : List (String × DuplicatePolicy) :=
  [("first_wins", .firstWins), ("last_wins", .lastWins), ("error", .refuse)]

/-- The name of a policy. -/
def name : DuplicatePolicy → String
  | .firstWins => "first_wins"
  | .lastWins => "last_wins"
  | .refuse => "error"

/-- The policy of a name. -/
def ofName? (name : String) : Option DuplicatePolicy := byName.lookup name

/-- The wording for a name that no policy has. -/
def unknownText (name : String) : String :=
  Text.quotedString name ++ " is not a valid DuplicateCodePolicy"

end DuplicatePolicy

/-- A code that two pages declare: the page that owns it from then on, and the other one. -/
structure CodeConflict where
  code : String
  kept : Path
  discarded : Path
  deriving DecidableEq, Repr

/-! ## Skipped pages -/

/-- Why a page is skipped. -/
inductive SkipCause where
  | fault (f : PageFault)
  | encoding (m : Text.Utf8.Malformed)
  | unreadable (e : FileError)
  deriving DecidableEq, Repr

/-- The short name of a cause. -/
def SkipCause.code : SkipCause → String
  | .fault _ => "DECODE_ERROR"
  | .encoding _ => "ENCODING_ERROR"
  | .unreadable _ => "READ_ERROR"

/-- A page that is skipped. -/
structure SkippedPage where
  path : Path
  cause : SkipCause
  deriving DecidableEq, Repr

/-- The wording of what is wrong with a skipped page. -/
def SkippedPage.text (p : SkippedPage) : String :=
  match p.cause with
  | .fault f => (f.failure (some p.path.text)).text
  | .encoding m => p.path.text ++ ": " ++ m.message
  | .unreadable e => p.path.text ++ ": " ++ e.message

/-! ## Declarations -/

/-- A code with the page that declares it. -/
structure Declaration where
  code : String
  page : Page
  source : Path
  deriving DecidableEq, Repr

/-- A record with the file that it was read from, by which it is told apart from others. -/
structure SharedRecord where
  source : Path
  record : Record
  deriving DecidableEq, Repr

/-- The record of the page that declares a code. -/
def Declaration.shared (d : Declaration) : SharedRecord := ⟨d.source, d.page.record⟩

/-! ## Registries -/

/-- The documentation of a directory. -/
structure Registry where
  directory : Path
  entries : CodeTable SharedRecord := {}
  bodies : CodeTable String := {}
  sources : CodeTable Path := {}
  failures : List SkippedPage := []
  conflicts : List CodeConflict := []
  deriving DecidableEq, Repr

namespace Registry

/-- The record that documents a code. -/
def lookup (r : Registry) (code : String) : Option Record :=
  (r.entries.get? code).map (·.record)

/-- The body of the page that documents a code. -/
def body (r : Registry) (code : String) : Option String := r.bodies.get? code

/-- The file of the page that documents a code. -/
def source (r : Registry) (code : String) : Option Path := r.sources.get? code

/-- Whether a code is documented. -/
def contains (r : Registry) (code : String) : Bool := (r.entries.get? code).isSome

/-- The number of codes. -/
def size (r : Registry) : Nat := r.entries.size

/-- The codes in the order of their declaration. -/
def order (r : Registry) : List String := r.entries.codes

/-- Enter the page that declares a code as the one that documents it. -/
def enter (r : Registry) (d : Declaration) : Registry :=
  { r with
    entries := r.entries.put d.code d.shared
    bodies := r.bodies.put d.code d.page.body
    sources := r.sources.put d.code d.source }

@[simp] theorem source_enter (r : Registry) (d : Declaration) (code : String) :
    (r.enter d).source code = if code = d.code then some d.source else r.source code :=
  r.sources.get?_put d.code d.source code

@[simp] theorem conflicts_enter (r : Registry) (d : Declaration) :
    (r.enter d).conflicts = r.conflicts := rfl

/-- The codes in alphabetical order. -/
def codes (r : Registry) : List String := r.order.mergeSort fun a b => decide (a ≤ b)

/-- The first of the records from each file; `seen` holds the files in front. -/
def firstOfSources (seen : List Path) : List SharedRecord → List SharedRecord
  | [] => []
  | s :: rest =>
    if seen.contains s.source then firstOfSources seen rest
    else s :: firstOfSources (s.source :: seen) rest

/-- The records of the registry, each once. -/
def records (r : Registry) : List SharedRecord := firstOfSources [] r.entries.values

/-- Whether two codes are documented by the same record. -/
def shares (r : Registry) (code other : String) : Bool :=
  match r.entries.get? code, r.entries.get? other with
  | some s, some t => s.source == t.source
  | _, _ => false

/-- A registry in one line. -/
def summary (r : Registry) : String :=
  "DocumentationRegistry(codes=" ++ toString r.size ++ ", records=" ++
    toString r.records.length ++ ", failures=" ++ toString r.failures.length ++
    ", conflicts=" ++ toString r.conflicts.length ++ ")"

/-- Whether every page was read and no code was declared twice. -/
def isClean (r : Registry) : Bool := r.failures.isEmpty && r.conflicts.isEmpty

end Registry

end OpcodeAtlas
