import OpcodeAtlas.Log.Record
import OpcodeAtlas.Registry.Basic
import OpcodeAtlas.Registry.Selection

/-!
# Building a registry

A registry is built in three steps: the pages of the directory are selected, all of them are read,
and then merged one after the other. A page that cannot be read is skipped and put on record; a
code that an earlier page declares is given to one of the two pages as the policy says. The log
tells each of these, between the number of pages at the start and the totals at the end.

A build ends early if the directory cannot be listed, if the policy refuses a second declaration,
or if a path or a header has a fault that no page answers for.
-/

set_option autoImplicit false

namespace OpcodeAtlas

/-! ## Reading the pages -/

/-- A selected page with what reading it gave. -/
structure ReadPage where
  path : Path
  result : Except SkipCause Page

namespace ReadPage

/-- Tell what skips a page from what ends the build. -/
def settle (path : Path) : Except PageFileError Page → Except Abort ReadPage
  | .ok page => .ok ⟨path, .ok page⟩
  | .error (.text (.file e)) => .ok ⟨path, .error (.unreadable e)⟩
  | .error (.text (.encoding m)) => .ok ⟨path, .error (.encoding m)⟩
  | .error (.page (.fault f)) => .ok ⟨path, .error (.fault f)⟩
  | .error (.page (.abort a)) => .error a

/-- Read a page. -/
def ofPath (h : Host) (path : Path) : Except Abort ReadPage :=
  settle path (Page.load h path)

/-- Read some pages. -/
def ofPaths (h : Host) (paths : List Path) : Except Abort (List ReadPage) :=
  paths.mapM (ofPath h)

/-- What a page declares: its codes, in order. -/
def declarationsOf (path : Path) (page : Page) : List Declaration :=
  page.record.codes.map fun code => ⟨code, page, path⟩

end ReadPage

/-! ## The log -/

namespace BuildLog

/-- What all records of a build tell. -/
def context : LogContext := some [("stage", .text "registry")]

/-- The record of the selection of pages. -/
def scanning (directory : Path) (files : Nat) : LogRecord :=
  context.event .debug "Scanning documentation directory"
    [("directory", .text directory.text), ("files", .int files)]

/-- The record of a page that is skipped. -/
def skipping (p : SkippedPage) : LogRecord :=
  context.event .warning "Skipping documentation file"
    [("doc_path", .text p.path.text), ("error", .text p.text), ("error_code", .text p.cause.code)]

/-- The record of a conflict. -/
def duplicate (c : CodeConflict) : LogRecord :=
  context.event .warning "Duplicate documentation code"
    [("code", .text c.code), ("kept", .text c.kept.text), ("discarded", .text c.discarded.text),
      ("error_code", .text "DUPLICATE_CODE")]

/-- The record of the totals. -/
def built (r : Registry) : LogRecord :=
  context.event .info "Documentation registry built"
    [("directory", .text r.directory.text), ("codes", .int r.size),
      ("failures", .int r.failures.length), ("conflicts", .int r.conflicts.length)]

end BuildLog

/-! ## Merging -/

/-- A registry in the making, with the log so far. -/
structure BuildState where
  registry : Registry
  log : List LogRecord

/-- A build that ended early: the log up to then, and why. -/
structure HaltedBuild where
  log : List LogRecord
  failure : Failure

namespace BuildState

/-- The state before the first of some pages is merged. -/
def start (directory : Path) (files : Nat) : BuildState :=
  ⟨{ directory := directory }, [BuildLog.scanning directory files]⟩

/-- Enter a declaration. -/
def enter (s : BuildState) (d : Declaration) : BuildState :=
  { s with registry := s.registry.enter d }

/-- Put a skipped page on record. -/
def skip (s : BuildState) (p : SkippedPage) : BuildState :=
  ⟨{ s.registry with failures := s.registry.failures ++ [p] }, s.log ++ [BuildLog.skipping p]⟩

/-- Put a conflict on record. -/
def clash (s : BuildState) (c : CodeConflict) : BuildState :=
  ⟨{ s.registry with conflicts := s.registry.conflicts ++ [c] }, s.log ++ [BuildLog.duplicate c]⟩

/-- The failure for a code that a second page declares. -/
def duplicateFailure (directory : Path) (code : String) (first second : Path) : Failure :=
  { subject := .duplicate (some directory.text) code [first.text, second.text]
    message :=
      "Code " ++ code ++ " is documented by both " ++ first.name ++ " and " ++ second.name }

/-- Declare a code. -/
def declare (policy : DuplicatePolicy) (s : BuildState) (d : Declaration) :
    Except HaltedBuild BuildState :=
  match s.registry.source d.code with
  | none => .ok (s.enter d)
  | some owner =>
    match policy with
    | .firstWins => .ok (s.clash ⟨d.code, owner, d.source⟩)
    -- The conflict is put on record with the owner as it is from then on.
    | .lastWins => .ok ((s.clash ⟨d.code, d.source, owner⟩).enter d)
    | .refuse =>
      .error ⟨s.log, duplicateFailure s.registry.directory d.code owner d.source⟩

/-- Merge a page. -/
def merge (policy : DuplicatePolicy) (s : BuildState) (p : ReadPage) :
    Except HaltedBuild BuildState :=
  match p.result with
  | .error cause => .ok (s.skip ⟨p.path, cause⟩)
  | .ok page => (ReadPage.declarationsOf p.path page).foldlM (declare policy) s

/-- Merge some pages. -/
def mergeAll (policy : DuplicatePolicy) (s : BuildState) (pages : List ReadPage) :
    Except HaltedBuild BuildState :=
  pages.foldlM (merge policy) s

end BuildState

/-! ## The build -/

/-- A build: its log, and the registry or why there is none. -/
structure RegistryBuild where
  log : List LogRecord
  outcome : Except WorkError Registry

namespace RegistryBuild

/-- The build that merges pages which have been read. -/
def ofPages (policy : DuplicatePolicy) (directory : Path) (pages : List ReadPage) :
    RegistryBuild :=
  match BuildState.mergeAll policy (.start directory pages.length) pages with
  | .error halted => ⟨halted.log, .error (.failure halted.failure)⟩
  | .ok s => ⟨s.log ++ [BuildLog.built s.registry], .ok s.registry⟩

/-- The build of the registry of a directory. -/
def run (h : Host) (directory : Path) (extension : String) (policy : DuplicatePolicy) :
    RegistryBuild :=
  match Selection.pages h directory (Selection.pointed extension) with
  | .error e => ⟨[], .error e⟩
  | .ok paths =>
    match ReadPage.ofPaths h paths with
    | .error a => ⟨[BuildLog.scanning directory paths.length], .error (.abort a)⟩
    | .ok pages => ofPages policy directory pages

end RegistryBuild

end OpcodeAtlas
