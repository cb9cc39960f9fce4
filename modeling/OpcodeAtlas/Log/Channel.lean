import OpcodeAtlas.Log.Record
import OpcodeAtlas.Value.Json

/-!
# Log channels

A channel writes the records that reach its threshold, as a line for the console or as a JSON
object. A channel that nobody has opened writes nothing.
-/

set_option autoImplicit false

namespace OpcodeAtlas

/-- How records are written. -/
inductive LogFormat where
  | console
  | json
  deriving DecidableEq, Repr

namespace LogFormat

/-- The format of a name, letter case aside; any other name stands for the console. -/
def ofName (name : String) : LogFormat :=
  if Text.LetterCase.lowerString name = "json" then .json else .console

end LogFormat

namespace LogRecord

/-- What stands for the exception at hand, as there is none. -/
def traceText : String := "NoneType: None"

/-- The message with the exception behind it, on a line of its own, where one is asked for. -/
def tracedText (r : LogRecord) (head : String) : String :=
  if !r.trace then head
  else if head.toList.getLast? = some '\n' then head ++ traceText
  else head ++ "\n" ++ traceText

/-- The fields of a record on the console. -/
def fieldsText (fields : LogFields) : String :=
  " ".intercalate (fields.map fun f => f.1 ++ "=" ++ f.2.shown)

/-- A record for the console. -/
def consoleText (r : LogRecord) : String :=
  let head := tracedText r (r.level.name ++ ": " ++ r.message)
  if r.fields.isEmpty then head else head ++ " [" ++ fieldsText r.fields ++ "]"

/-- The parts of a record that was logged by a logger at a time: its fields override the others. -/
def parts (r : LogRecord) (now logger : String) : LogFields :=
  let own : LogFields := [("timestamp", .text now), ("level", .text r.level.name),
    ("logger", .text logger), ("message", .text r.message)]
  let all := own.putAll r.fields
  if r.trace then all.put "exc_info" (.text traceText) else all

/-- A record as a JSON object. -/
def jsonText (r : LogRecord) (now logger : String) : String :=
  Json.spaced (.map ((r.parts now logger).map fun f => (.text f.1, f.2)))

/-- A record in a format. -/
def textIn (r : LogRecord) (format : LogFormat) (now logger : String) : String :=
  match format with
  | .console => r.consoleText
  | .json => r.jsonText now logger

end LogRecord

/-- A name that stands for something that is no level, as it is written. -/
structure UnknownThreshold where
  text : String
  deriving DecidableEq, Repr

/-- The wording of an unknown threshold. -/
def UnknownThreshold.message (u : UnknownThreshold) : String :=
  "Unknown level: " ++ Text.quotedString u.text

/-- The name of the usual pattern of records, and the pattern. -/
def LogFormat.pattern : String × String :=
  ("BASIC_FORMAT", "%(levelname)s:%(name)s:%(message)s")

/-- The least level that a name stands for: none is unset, and a name that stands for nothing takes
news. The name of a pattern stands for no level. -/
def LogLevel.ofThresholdName (name : String) : Except UnknownThreshold (Option LogLevel) :=
  let known : List (String × Option LogLevel) :=
    [("NOTSET", none), ("DEBUG", some .debug), ("INFO", some .info), ("WARN", some .warning),
      ("WARNING", some .warning), ("ERROR", some .error), ("FATAL", some .critical),
      ("CRITICAL", some .critical)]
  let upper := Text.LetterCase.upperString name
  if upper = LogFormat.pattern.1 then .error ⟨LogFormat.pattern.2⟩
  else .ok ((known.lookup upper).getD (some .info))

/-- Where records go: the least level, unless it is unset, and the format, once it is opened. -/
structure LogChannel where
  threshold : Option LogLevel := none
  format : Option LogFormat := none
  deriving DecidableEq, Repr

namespace LogChannel

/-- Open a channel, or open it anew. It takes the format even if the level is unknown. -/
def openWith (c : LogChannel) (level format : String) : LogChannel × Option UnknownThreshold :=
  let format := some (LogFormat.ofName format)
  match LogLevel.ofThresholdName level with
  | .ok threshold => (⟨threshold, format⟩, none)
  | .error u => ({ c with format := format }, some u)

/-- The name of the least level. -/
def levelName (c : LogChannel) : String :=
  match c.threshold with
  | some level => level.name
  | none => "NOTSET"

/-- Whether a record reaches the threshold; an unset one lets warnings through. -/
def admits (c : LogChannel) (r : LogRecord) : Bool :=
  decide ((c.threshold.getD .warning).rank ≤ r.level.rank)

/-- What a channel writes for a record of a logger. -/
def write (c : LogChannel) (now logger : String) (r : LogRecord) : Option String :=
  match c.format with
  | some format => if c.admits r then some (r.textIn format now logger) else none
  | none => none

end LogChannel

end OpcodeAtlas
