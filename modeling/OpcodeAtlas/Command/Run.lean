import OpcodeAtlas.Command.Basic
import OpcodeAtlas.Command.Transcript
import OpcodeAtlas.Display
import OpcodeAtlas.Registry.Build

/-!
# Running commands

`Command.run` gives the transcript of a command. All commands but `inspect` load the settings and
open the log, and build the registry of the directory of pages; what goes wrong there is reported,
and the command ends with exit code 1.
-/

set_option autoImplicit false

namespace OpcodeAtlas

namespace Command

/-- The logger of the registry. -/
def registryLogger : String := "GCodeDocs.docs.registry"

/-- The logger of the reading of programs. -/
def readingLogger : String := "GCodeDocs.gcode.tokenizer"

/-! ## Settings and registry -/

/-- The report of settings that do not fit. -/
def invalidSettings (found : List Issue) : Transcript :=
  Transcript.refusal ("[red]✗ Invalid configuration:[/red] " ++
    Markup.escape (SettingsError.issuesText found))

/-- The transcript for settings that cannot be loaded. -/
def settingsTranscript : SettingsError → Transcript
  | .failure f => Transcript.failing f
  | .issues found => invalidSettings found
  | e => Transcript.faulty (.settings e)

/-- Load the settings, open the log and go on. -/
def withSettings (h : Host) (options : SharedOptions) (next : Settings → Transcript) :
    Transcript :=
  match Settings.load h options.config options.overrides with
  | .error e => settingsTranscript e
  | .ok s => { next s with channel := ⟨some s.logLevel, some s.logFormat⟩ }

/-- The build of the registry that the settings ask for. -/
def buildOf (h : Host) (s : Settings) : RegistryBuild :=
  RegistryBuild.run h s.docsDirectory s.docsExtension s.duplicatePolicy

/-- Build the registry and go on. -/
def withRegistry (h : Host) (options : SharedOptions)
    (next : Settings → Registry → Transcript) : Transcript :=
  withSettings h options fun s =>
    let build := buildOf h s
    let rest :=
      match build.outcome with
      | .ok registry => next s registry
      | .error e => Transcript.ofWorkError e
    rest.behindLog registryLogger build.log

/-! ## Viewing a program -/

/-- A line as it is printed. -/
def printedLine : DisplayLine → Printed
  | .comment _ text => .text (Markup.shown ("; " ++ text))
  | .instruction _ text _ record =>
    .text (Markup.shown text ++ " -- " ++ Markup.shown (DisplayLine.annotationOf record))

/-- The record of a note on a program. -/
def noteRecord (n : Note) : LogRecord := { level := .debug, message := n.message }

/-- Print the lines of a program as they come, at most `limit` of them if there is a limit. -/
def showEvents (records : RecordSource) : Option Nat → List ShownEvent → Transcript
  | _, [] => {}
  | some 0, _ => {}
  | limit, .note n :: rest =>
    (showEvents records limit rest).behindLog readingLogger [noteRecord n]
  | _, .fault f :: _ => Transcript.faulty (.number f)
  | limit, .item i :: rest =>
    (showEvents records (limit.map (· - 1)) rest).behind
      [printedLine (DisplayLine.ofItem records i)]

/-- The greatest number of lines that can be counted. -/
def countLimit : Nat := 0x7fffffffffffffff

/-- Print lines, unless the limit on them is too great. -/
def withinLimit (limit : Option Nat) (lines : Transcript) : Transcript :=
  if countLimit < limit.getD 0 then Transcript.faulty .uncountable else lines

/-- View a program. -/
def viewFile (h : Host) (file : Path) (s : Settings) (r : Registry) : Transcript :=
  match ProgramFile.read h file with
  | .error e => Transcript.ofWorkError e
  | .ok text => withinLimit s.previewLimit (showEvents r.lookup s.previewLimit (showing text))

/-! ## Looking up a code -/

/-- The row of a field that may be missing or empty. -/
def optionalRow (name : String) (text : Option String) : List (List String) :=
  match text with
  | none => []
  | some s => if s = "" then [] else [[name, Markup.plain (Markup.escape s)]]

/-- The codes of a record, as they are printed; their tags count. -/
def codesCell (r : Record) : String := ", ".intercalate r.codes

/-- The fields of a record, as rows. -/
def recordRows (r : Record) (source : Option Path) : List (List String) :=
  [["Title", Markup.plain (Markup.escape r.title)], ["Brief", Markup.plain (Markup.escape r.brief)],
    ["Codes", Markup.plain (codesCell r)]] ++
  optionalRow "Since" r.since ++ optionalRow "Requires" r.requires ++
  (if r.experimental = some true then [["Experimental", "yes"]] else []) ++
  (match source with
    | some path => [["Source", Markup.plain (Markup.escape path.name)]]
    | none => [])

/-- A parameter as a row. -/
def parameterRow (p : Parameter) : List String :=
  [Markup.plain (Markup.escape p.tag), if p.isOptional then "yes" else "no",
    Markup.plain (Markup.escape (p.description.getD ""))]

/-- The table of the parameters, unless there are none. -/
def parameterTable (r : Record) : List Printed :=
  match r.parameters.getD [] with
  | [] => []
  | ps => [.table "Parameters" ⟨["Tag", "Optional", "Description"], ps.map parameterRow⟩]

/-- The body of a page, unless it is blank or not asked for. -/
def printedBody (showBody : Bool) (body : Option String) : List Printed :=
  match body with
  | some text => if showBody && !Text.allBlank text.toList then [.markdown text] else []
  | none => []

/-- The code that a text asks for. -/
def askedCode (text : String) : String := Codes.normal text

/-- Look up a code. -/
def lookupCode (code : String) (showBody : Bool) (r : Registry) : Transcript :=
  match r.lookup code with
  | none =>
    Transcript.refusal ("[yellow]No documentation for " ++ Markup.escape code ++ "[/yellow]")
  | some record =>
    let rows := recordRows record (r.source code)
    Transcript.withTags [code, codesCell record]
      (Transcript.printing 0
        (.tablePanel (Markup.plain code) ⟨["Field", "Value"], rows⟩ ::
          parameterTable record ++ printedBody showBody (r.body code)))

/-! ## Checking the pages -/

/-- The totals of a registry. -/
def totals (s : Settings) (r : Registry) : Printed :=
  .panel "Documentation" (Markup.plain ("Directory: " ++ Markup.escape s.docsDirectory.text ++
    "\nCodes: " ++ toString r.size ++ "\nRecords: " ++ toString r.records.length ++
    "\nFailures: " ++ toString r.failures.length ++
    "\nConflicts: " ++ toString r.conflicts.length))

/-- The skipped pages, unless there are none. -/
def failureTable (r : Registry) : List Printed :=
  match r.failures with
  | [] => []
  | ps =>
    [.table "Skipped files" ⟨["File", "Error code", "Error"],
      ps.map fun p => [Markup.plain (Markup.escape p.path.name), p.cause.code,
        Markup.plain (Markup.escape p.text)]⟩]

/-- The conflicts, unless there are none. -/
def conflictTable (r : Registry) : List Printed :=
  match r.conflicts with
  | [] => []
  | cs =>
    [.table "Duplicate codes" ⟨["Code", "Kept", "Discarded"],
      cs.map fun c => [Markup.plain c.code, Markup.plain (Markup.escape c.kept.name),
        Markup.plain (Markup.escape c.discarded.name)]⟩]

/-- Check a registry; a strict check refuses one that is not clean. -/
def check (strict : Bool) (s : Settings) (r : Registry) : Transcript :=
  let verdict := if r.isClean then [Printed.text "✓ All documentation pages decoded"] else []
  let rest :=
    Transcript.withTags (r.conflicts.map (·.code))
      (Transcript.printing (if strict && !r.isClean then 1 else 0) (conflictTable r ++ verdict))
  rest.behind (totals s r :: failureTable r)

/-! ## Inspecting a file -/

/-- The extensions of program files. -/
def programExtensions : List String := [".gcode", ".g", ".gco", ".nc"]

/-- A number, with blanks in front up to five characters. -/
def paddedNumber (n : Int) : String :=
  let digits := toString n
  String.ofList (List.replicate (5 - digits.length) ' ') ++ digits

/-- A source line as it is printed. -/
def inspectedLine (l : SourceLine) : Printed :=
  let instructions := Markup.escape (" | ".intercalate (l.instructions.map Instruction.text))
  let comments := Markup.escape (" | ".intercalate (l.comments.map Comment.value))
  .text (Markup.plain ("[bold]" ++ paddedNumber l.span.line ++ "[/bold] " ++
    (if instructions = "" then "-" else instructions) ++ " [dim]" ++ comments ++ "[/dim]"))

/-- Print the source lines of a program as they come, at most `limit` of them. -/
def inspectEvents : Nat → List ReadingEvent → Transcript
  | 0, _ => {}
  | _, [] => {}
  | limit, .note _ :: rest => inspectEvents limit rest
  | _, .fault f :: _ => Transcript.faulty (.number f)
  | limit + 1, .line l :: rest => (inspectEvents limit rest).behind [inspectedLine l]

/-- Inspect a program. -/
def inspectProgram (h : Host) (file : Path) (limit : Nat) : Transcript :=
  match h.readTextLossy file with
  | .error e => Transcript.failing (ProgramFile.failure file e.message)
  | .ok text => withinLimit (some limit) (inspectEvents limit (reading text))

/-- The report of a page file that cannot be read. -/
def unreadablePage (file : Path) (detail : String) : Transcript :=
  Transcript.refusal ("[red]✗ Cannot read " ++ Markup.escape file.text ++ ": " ++
    Markup.escape detail ++ "[/red]")

/-- Inspect a page. -/
def inspectPage (h : Host) (file : Path) : Transcript :=
  match Page.load h file with
  | .ok page =>
    match page.record.json with
    | .ok s => Transcript.printing 0 [.json s]
    | .error f => Transcript.faulty (.writing f)
  | .error (.text (.file e)) => unreadablePage file e.message
  | .error (.text (.encoding m)) => unreadablePage file m.message
  | .error (.page (.fault f)) => Transcript.failing (f.failure (some file.text))
  | .error (.page (.abort a)) => Transcript.faulty (.abort a)

/-- Inspect a file. -/
def inspectFile (h : Host) (file : Path) (limit : Nat) : Transcript :=
  let extension := file.lowerExtension
  if programExtensions.contains extension then inspectProgram h file limit
  else if extension = ".md" then inspectPage h file
  else
    let shown := if extension = "" then file.text else extension
    Transcript.refusal ("[red]✗ Unsupported file type: " ++ Markup.escape shown ++ "[/red]")

/-! ## Commands -/

/-- Run a command. -/
def run (h : Host) : Command → Transcript
  | .view file options => withRegistry h options (viewFile h file)
  | .lookup code showBody options =>
    withRegistry h options fun _ r => lookupCode (askedCode code) showBody r
  | .checkDocs strict options => withRegistry h options (check strict)
  | .inspect file limit => inspectFile h file limit

end Command

end OpcodeAtlas
