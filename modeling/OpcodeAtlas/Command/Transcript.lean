import OpcodeAtlas.Console.Markup
import OpcodeAtlas.Log.Channel
import OpcodeAtlas.Page.Writing
import OpcodeAtlas.Settings.Error

/-!
# Transcripts

What a command does is told by a transcript: what it prints, what it logs, and how it ends. The
parts of a command put their transcripts one behind the other (`Transcript.behind`).
-/

set_option autoImplicit false

namespace OpcodeAtlas

/-- A table with named columns. -/
structure PrintedTable where
  columns : List String
  rows : List (List String)
  deriving DecidableEq, Repr

/-- Something that is printed at once. -/
inductive Printed where
  | text (s : String)
  | panel (title body : String)
  | tablePanel (title : String) (body : PrintedTable)
  | table (title : String) (body : PrintedTable)
  | markdown (s : String)
  | json (s : String)
  deriving DecidableEq, Repr

namespace Printed

/-- The rows of a table as lines, the names of the columns first. -/
def tableLines (t : PrintedTable) : List String :=
  (t.columns :: t.rows).map fun row => "  ".intercalate row

/-- The lines that show what is printed. -/
def lines : Printed → List String
  | .text s => [s]
  | .panel title body => [title, body]
  | .tablePanel title body => title :: tableLines body
  | .table title body => title :: tableLines body
  | .markdown s => [s]
  | .json s => [s]

end Printed

/-- What a command does not catch. -/
inductive CommandFault where
  | settings (e : SettingsError)
  | abort (a : Abort)
  | number (f : IntegerFault)
  /-- A record that cannot be written. -/
  | writing (f : WritingFault)
  /-- Tags that cannot be used. -/
  | markup (f : Markup.Fault)
  /-- More lines are asked for than can be counted. -/
  | uncountable
  deriving DecidableEq, Repr

/-- The wording of a fault. -/
def CommandFault.message : CommandFault → String
  | .settings e => e.message
  | .abort a => a.message
  | .number f => f.message
  | .writing f => f.message
  | .markup f => f.message
  | .uncountable =>
    "Stop argument for islice() must be None or an integer: 0 <= x <= sys.maxsize."

/-- How a command ends. -/
inductive Ending where
  | exit (code : Nat)
  | fault (f : CommandFault)
  deriving DecidableEq, Repr

/-- The exit code of an ending. -/
def Ending.code : Ending → Nat
  | .exit code => code
  | .fault _ => 1

/-- A record with the logger that it comes from. -/
structure LoggedRecord where
  logger : String
  record : LogRecord

/-- What a command does. -/
structure Transcript where
  printed : List Printed := []
  logged : List LoggedRecord := []
  channel : LogChannel := {}
  ending : Ending := .exit 0

namespace Transcript

/-- A transcript that follows prints. -/
def behind (t : Transcript) (printed : List Printed) : Transcript :=
  { t with printed := printed ++ t.printed }

/-- A transcript that follows records of a logger. -/
def behindLog (t : Transcript) (logger : String) (records : List LogRecord) : Transcript :=
  { t with logged := records.map (⟨logger, ·⟩) ++ t.logged }

/-- Print something and end with an exit code. -/
def printing (code : Nat) (printed : List Printed) : Transcript :=
  { printed := printed, ending := .exit code }

/-- End with a fault. -/
def faulty (f : CommandFault) : Transcript := { ending := .fault f }

/-- A transcript that comes to nothing if the tags of one of some texts cannot be used. -/
def withTags (texts : List String) (t : Transcript) : Transcript :=
  match texts.findSome? Markup.fault? with
  | some f => faulty (.markup f)
  | none => t

/-- Print a text with markup and end as refused. -/
def refusal (markup : String) : Transcript := printing 1 [.text (Markup.plain markup)]

/-- Report a failure and end as refused. -/
def failing (f : Failure) : Transcript :=
  refusal ("[red]✗ " ++ Markup.escape f.report ++ "[/red]")

/-- Report why there is no result. -/
def ofWorkError : WorkError → Transcript
  | .failure f => failing f
  | .abort a => faulty (.abort a)

/-- The lines of the log, written at the given time. -/
def logLines (t : Transcript) (now : String) : List String :=
  t.logged.filterMap fun r => t.channel.write now r.logger r.record

end Transcript

end OpcodeAtlas
