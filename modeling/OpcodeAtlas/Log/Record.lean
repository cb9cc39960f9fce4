import OpcodeAtlas.Text.LetterCase.Lower
import OpcodeAtlas.Text.LetterCase.Upper
import OpcodeAtlas.Value.Shown

/-!
# Log records

A log record is a message with a level and named fields. The fields of a record are those of its
context (`LogContext`), overridden and followed by its own. A warning and an error always tell
their stage and an error code in upper case (`LogContext.complete`); whatever does not say so
itself counts as unknown.
-/

set_option autoImplicit false

namespace OpcodeAtlas

/-! ## Levels -/

/-- How much a record matters. -/
inductive LogLevel where
  | debug
  | info
  | warning
  | error
  | critical
  deriving DecidableEq, Repr

namespace LogLevel

/-- The name of a level. -/
def name : LogLevel → String
  | .debug => "DEBUG"
  | .info => "INFO"
  | .warning => "WARNING"
  | .error => "ERROR"
  | .critical => "CRITICAL"

/-- The rank of a level. -/
def rank : LogLevel → Nat
  | .debug => 1
  | .info => 2
  | .warning => 3
  | .error => 4
  | .critical => 5

end LogLevel

/-! ## Fields -/

/-- Named values in order. -/
abbrev LogFields := List (String × Value)

namespace LogFields

/-- Put a value under a name; a name that is there keeps its place. -/
def put (name : String) (v : Value) : LogFields → LogFields
  | [] => [(name, v)]
  | f :: rest => if f.1 = name then (name, v) :: rest else f :: put name v rest

/-- Put some fields one after the other. -/
def putAll (fields new : LogFields) : LogFields := new.foldl (fun acc f => acc.put f.1 f.2) fields

/-- The value under a name. -/
def get? (fields : LogFields) (name : String) : Option Value := fields.lookup name

/-- The fields that are not null. -/
def present (fields : LogFields) : LogFields :=
  fields.filter fun f =>
    match f.2 with
    | .null => false
    | _ => true

/-- Fields with those of some others that are not null. -/
def extend (fields new : LogFields) : LogFields := fields.putAll new.present

/-- The value under a name, provided that it counts as something. -/
def truthy? (fields : LogFields) (name : String) : Option Value :=
  (fields.get? name).filter Value.isTruthy

end LogFields

/-! ## Records -/

/-- A log record. -/
structure LogRecord where
  level : LogLevel
  message : String
  fields : LogFields := []
  /-- Whether the record asks for the exception at hand. -/
  trace : Bool := false

/-- A way to log: the level, whether the record tells its stage and its error code in any case, and
whether it asks for the exception at hand. -/
structure LogMethod where
  level : LogLevel
  accountable : Bool := false
  trace : Bool := false
  deriving DecidableEq, Repr

namespace LogMethod

/-- The method for details. -/
def debug : LogMethod := { level := .debug }

/-- The method for news. -/
def info : LogMethod := { level := .info }

/-- The method for warnings. -/
def warning : LogMethod := { level := .warning, accountable := true }

/-- The method for errors. -/
def error : LogMethod := { level := .error, accountable := true }

/-- The methods by name. -/
def byName : List (String × LogMethod) :=
  [("debug", debug), ("info", info), ("warning", warning), ("error", error),
    ("warn", { level := .warning }), ("exception", { level := .error, trace := true }),
    ("critical", { level := .critical })]

/-- The method that a logger without context has in addition. -/
def bareByName : List (String × LogMethod) := [("fatal", { level := .critical })]

end LogMethod

/-- What a logger adds to its records; a bare logger has no context. -/
abbrev LogContext := Option LogFields

/-- Why an event is not logged. -/
inductive EventError where
  /-- There is no method of the given name. -/
  | unknownLevel (level : String)
  /-- A field has a name that the event needs itself. -/
  | reservedField (name : String)
  /-- The level names an operation of the logger that is no way to log, and it refuses the event in
  the given words. -/
  | misdirected (refusal : String)
  deriving DecidableEq, Repr

/-- The wording of an error. -/
def EventError.message : EventError → String
  | .unknownLevel level => "Logger has no level '" ++ level ++ "'"
  | .reservedField name => "log_event() got multiple values for argument '" ++ name ++ "'"
  | .misdirected refusal => refusal

/-- The operations that add fields to a context: that of the logger, or a copy for a child. -/
inductive LogBinding where
  | bind
  | child
  deriving DecidableEq, Repr

/-- The name of an operation. -/
def LogBinding.name : LogBinding → String
  | .bind => "bind"
  | .child => "child"

/-- Why fields are not added to a context. -/
inductive BindingError where
  /-- A bare logger has no context. -/
  | bareLogger (way : LogBinding)
  /-- A field has a name that the operation needs itself. -/
  | reservedField (way : LogBinding) (name : String)
  deriving DecidableEq, Repr

/-- The wording of an error. -/
def BindingError.message : BindingError → String
  | .bareLogger way => "'Logger' object has no attribute '" ++ way.name ++ "'"
  | .reservedField way name =>
    "StructuredLogger." ++ way.name ++ "() got multiple values for argument '" ++ name ++ "'"

namespace LogContext

/-- The fields of a context. -/
def fields (context : LogContext) : LogFields := context.getD []

/-- The name that an operation on a context keeps for the logger itself. -/
def loggerName : String := "self"

/-- A context with the fields that are not null of some others; a bare logger takes none. -/
def binding (context : LogContext) (way : LogBinding) (new : LogFields) :
    Except BindingError LogContext :=
  match context with
  | none => .error (.bareLogger way)
  | some fields =>
    if (new.get? loggerName).isSome then .error (.reservedField way loggerName)
    else .ok (some (fields.extend new))

/-- Add the stage to fields that do not tell it: that of the context, or an unknown one where the
method asks for one. -/
def withStage (context : LogContext) (method : LogMethod) (fields : LogFields) : LogFields :=
  match fields.get? "stage", context.fields.truthy? "stage" with
  | some _, _ => fields
  | none, some stage => fields.put "stage" stage
  | none, none => if method.accountable then fields.put "stage" (.text "unknown") else fields

/-- The error code that some fields tell, in upper case. -/
def errorCode (fields : LogFields) : String :=
  match fields.truthy? "error_code" with
  | some code => Text.LetterCase.upperString code.shown
  | none => "UNKNOWN"

/-- The fields of an event with its stage and its error code. -/
def complete (context : LogContext) (method : LogMethod) (fields : LogFields) : LogFields :=
  let staged := withStage context method fields
  if method.accountable then staged.put "error_code" (.text (errorCode staged)) else staged

/-- The record of a message without fields of its own. -/
def plain (context : LogContext) (method : LogMethod) (message : String) : LogRecord :=
  ⟨method.level, message, context.fields, method.trace⟩

/-- The record of an event. -/
def event (context : LogContext) (method : LogMethod) (message : String) (own : LogFields) :
    LogRecord :=
  ⟨method.level, message, context.fields.putAll (complete context method own), method.trace⟩

/-- The names that fields of an event cannot have. -/
def reservedNames : List String := ["logger", "level", "message"]

/-- The method of a given name, letter case aside. -/
def method? (context : LogContext) (level : String) : Option LogMethod :=
  let name := Text.LetterCase.lowerString level
  match LogMethod.byName.lookup name with
  | some m => some m
  | none => if context.isNone then LogMethod.bareByName.lookup name else none

/-- What the operations of a logger with a context that are no ways to log answer to an event. -/
def refusals : List (String × String) :=
  [("log", "LoggerAdapter.log() missing 1 required positional argument: 'msg'"),
    ("_log", "LoggerAdapter._log() missing 2 required positional arguments: 'msg' and 'args'"),
    ("process", "StructuredLogger.process() got an unexpected keyword argument 'extra'"),
    ("bind", "StructuredLogger.bind() takes 1 positional argument but 2 were given"),
    ("child", "StructuredLogger.child() takes 1 positional argument but 2 were given")]

/-- What those of a bare logger answer. -/
def bareRefusals : List (String × String) :=
  [("log", "Logger.log() missing 1 required positional argument: 'msg'"),
    ("_log", "Logger._log() missing 2 required positional arguments: 'msg' and 'args'"),
    ("handle", "Logger.handle() got an unexpected keyword argument 'extra'"),
    ("filter", "Filterer.filter() got an unexpected keyword argument 'extra'")]

/-- What an operation of the given name that is no way to log answers to an event. -/
def refusal? (context : LogContext) (level : String) : Option String :=
  let known := if context.isSome then refusals else bareRefusals
  known.lookup (Text.LetterCase.lowerString level)

/-- The record of an event on a level that is given by name. -/
def eventOn (context : LogContext) (level message : String) (own : LogFields) :
    Except EventError LogRecord :=
  match own.find? fun f => reservedNames.contains f.1 with
  | some f => .error (.reservedField f.1)
  | none =>
    match context.method? level with
    | some method => .ok (context.event method message own)
    | none =>
      match context.refusal? level with
      | some refusal => .error (.misdirected refusal)
      | none => .error (.unknownLevel level)

end LogContext

end OpcodeAtlas
