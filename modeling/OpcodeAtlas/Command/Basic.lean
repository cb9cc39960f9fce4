import OpcodeAtlas.Command.Options
import OpcodeAtlas.Files.Path
import OpcodeAtlas.Log.Channel
import OpcodeAtlas.Registry.Basic
import OpcodeAtlas.Settings.Basic

/-!
# Commands

The command line offers four commands: to view a program with its annotations, to look up a code,
to check the pages of a directory, and to inspect a file. `Usage.ofWords` reads the words of a
command line; where they make no command, it asks for help or refuses them.
-/

set_option autoImplicit false

namespace OpcodeAtlas

/-- What the options of a command say about its settings. -/
structure SharedOptions where
  config : Option Path := none
  docsDirectory : Option Path := none
  limit : Option Nat := none
  duplicatePolicy : Option DuplicatePolicy := none
  workers : Option Nat := none
  logLevel : Option LogLevel := none
  logFormat : Option LogFormat := none
  deriving DecidableEq, Repr

/-- A command. -/
inductive Command where
  | view (file : Path) (options : SharedOptions)
  | lookup (code : String) (showBody : Bool) (options : SharedOptions)
  | checkDocs (strict : Bool) (options : SharedOptions)
  | inspect (file : Path) (limit : Nat)
  deriving DecidableEq, Repr

/-- The options on the settings of a command. -/
def Command.options? : Command → Option SharedOptions
  | .view _ options => some options
  | .lookup _ _ options => some options
  | .checkDocs _ options => some options
  | .inspect _ _ => none

/-- The file that a command shows. -/
def Command.file? : Command → Option Path
  | .view file _ => some file
  | .inspect file _ => some file
  | _ => none

namespace SharedOptions

/-- The settings that the options set by hand. -/
def overrides (o : SharedOptions) : List (String × Value) :=
  let entry {α : Type} (name : String) (toValue : α → Value) (a : Option α) :=
    (a.map fun x => (name, toValue x)).toList
  entry "docs_dir" (fun p : Path => .path p.text) o.docsDirectory ++
    entry "preview_limit" (fun n : Nat => .int n) o.limit ++
    entry "duplicate_policy" (fun p : DuplicatePolicy => .text p.name) o.duplicatePolicy ++
    entry "workers" (fun n : Nat => .int n) o.workers ++
    entry "log_level" (fun l : LogLevel => .text l.name) o.logLevel ++
    entry "log_format" (fun f : LogFormat => .text (formatName f)) o.logFormat
where
  /-- The name of a format. -/
  formatName : LogFormat → String
    | .console => "console"
    | .json => "json"

/-! ## Reading option values -/

/-- Read the value of an option, if it is set. -/
def read? {α : Type} (w : CommandWords) (o : OptionName) (f : String → Option α) :
    Option (Option α) :=
  match w.value? o with
  | none => some none
  | some s => (f s).map some

/-- The number that a text is, from 1 on. -/
def countOf? (s : String) : Option Nat := (Schema.positive (.text s)).toOption

/-- The path that a text is, if it can be used. -/
def pathOf? (s : String) : Option Path :=
  let path := Path.ofString s
  match path.check with
  | .ok _ => some path
  | .error _ => none

/-- The variable that names a settings file. -/
def configVariable : String := "GCODEDOCS_CONFIG"

/-- The settings file that a variable names, unless it is empty. -/
def configOf (environment : List (String × String)) : Option Path :=
  match environment.lookup configVariable with
  | some s => if s = "" then none else some (Path.ofString s)
  | none => none

/-- The settings file: that of the option, else that of the variable. -/
def config? (environment : List (String × String)) (w : CommandWords) : Option (Option Path) :=
  match w.value? .config with
  | some s => (pathOf? s).map some
  | none => some (configOf environment)

/-- Read the options. -/
def ofWords? (environment : List (String × String)) (w : CommandWords) : Option SharedOptions := do
  let config ← config? environment w
  let docsDirectory ← read? w .docsDirectory pathOf?
  let limit ← read? w .limit countOf?
  let duplicatePolicy ← read? w .duplicatePolicy DuplicatePolicy.ofName?
  let workers ← read? w .workers countOf?
  let logLevel ← read? w .logLevel fun s => Settings.levels.lookup s
  let logFormat ← read? w .logFormat fun s => Settings.formats.lookup s
  return { config, docsDirectory, limit, duplicatePolicy, workers, logLevel, logFormat }

end SharedOptions

/-! ## Reading a command line -/

/-- What the words of a command line ask for. -/
inductive Usage where
  | help
  | refused
  | command (c : Command)
  deriving DecidableEq, Repr

/-- The commands by name. -/
inductive CommandName where
  | view
  | lookup
  | checkDocs
  | inspect
  deriving DecidableEq, Repr

namespace CommandName

/-- The command of a name. -/
def ofString? (s : String) : Option CommandName :=
  [("view", view), ("lookup", .lookup), ("check-docs", checkDocs), ("inspect", inspect)].lookup s

/-- The options that a command knows. -/
def options : CommandName → List OptionName
  | .view =>
    [.help, .docsDirectory, .limit, .config, .duplicatePolicy, .workers, .logLevel, .logFormat]
  | .lookup => [.help, .docsDirectory, .showBody, .hideBody, .config, .logLevel]
  | .checkDocs =>
    [.help, .docsDirectory, .strict, .config, .duplicatePolicy, .workers, .logLevel]
  | .inspect => [.help, .limit]

/-- Whether the body is shown: the last word on it counts. -/
def showsBody (w : CommandWords) : Bool :=
  let said := (w.options.map (·.1)).filter fun o => o == .showBody || o == .hideBody
  said.getLast? != some .hideBody

/-- How many source lines are inspected by default. -/
def inspectLimit : Nat := 10

/-- The command of a name with its options and operands. -/
def command? (environment : List (String × String)) (name : CommandName) (w : CommandWords) :
    Option Command := do
  let options ← SharedOptions.ofWords? environment w
  match name, w.operands with
  | .view, [file] => return .view (← SharedOptions.pathOf? file) options
  | .lookup, [code] => return .lookup code (showsBody w) options
  | .checkDocs, [] => return .checkDocs (w.has .strict) options
  | .inspect, [file] =>
    return .inspect (← SharedOptions.pathOf? file) (options.limit.getD inspectLimit)
  | _, _ => none

/-- Read the words behind the name of a command. -/
def usage (environment : List (String × String)) (name : CommandName) (words : List String) :
    Usage :=
  match CommandWords.ofWords? name.options words with
  | none => .refused
  | some w =>
    if w.has .help then .help
    else
      match command? environment name w with
      | some c => .command c
      | none => .refused

end CommandName

namespace Usage

/-- Read the name of a command and the words behind it. -/
def ofNamed (environment : List (String × String)) : List String → Usage
  | [] => .refused
  | name :: words =>
    match CommandName.ofString? name with
    | some c => c.usage environment words
    | none => .refused

/-- Read the words in front of the name of a command; `helped` tells that help was asked for. -/
def ofFront (environment : List (String × String)) (helped : Bool) : List String → Usage
  | [] => if helped then .help else .refused
  | word :: rest =>
    if word = "--help" then ofFront environment true rest
    else if word = "--" then if helped then .help else ofNamed environment rest
    else if OptionWord.isOption word then .refused
    else if helped then .help
    else ofNamed environment (word :: rest)

/-- Read the words of a command line. -/
def ofWords (environment : List (String × String)) (words : List String) : Usage :=
  ofFront environment false words

end Usage

end OpcodeAtlas
