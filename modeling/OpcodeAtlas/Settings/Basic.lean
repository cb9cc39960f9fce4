import OpcodeAtlas.Log.Channel
import OpcodeAtlas.Registry.Basic
import OpcodeAtlas.Schema.Scalar
import OpcodeAtlas.Settings.File

/-!
# Settings

Each setting is given by the first of four layers that gives it: the values set by hand, the
variables of the surroundings, the settings file, and the defaults. A layer is asked for each
setting by itself (`SettingsLayers.raw?`), and only the value that is found is checked, so that a
value which another one masks does no harm.
-/

set_option autoImplicit false

namespace OpcodeAtlas

/-- The settings. -/
structure Settings where
  docsDirectory : Path
  docsExtension : String
  duplicatePolicy : DuplicatePolicy
  workers : Nat
  logLevel : LogLevel
  logFormat : LogFormat
  previewLimit : Option Nat
  deriving DecidableEq, Repr

/-! ## Layers -/

/-- The layers above the defaults. -/
structure SettingsLayers where
  overrides : List (String × Value)
  environment : List (String × String)
  file : Entries

namespace SettingsLayers

/-- What the names of variables start with. -/
def variableStart : String := "gcodedocs_"

/-- The override of a setting; null does not override. -/
def override? (layers : SettingsLayers) (name : String) : Option Value :=
  match layers.overrides.lookup name with
  | some .null => none
  | found => found

/-- The variable of a setting, letter case aside. -/
def ofVariable? (layers : SettingsLayers) (name : String) : Option Value :=
  (layers.environment.reverse.find? fun v =>
    Text.LetterCase.lowerString v.1 == variableStart ++ name).map fun v => .text v.2

/-- The value of a setting as the first layer that has it gives it. -/
def raw? (layers : SettingsLayers) (name : String) : Option Value :=
  match layers.override? name, layers.ofVariable? name with
  | some v, _ => some v
  | none, some v => some v
  | none, none => layers.file.get? name

end SettingsLayers

/-! ## Checks -/

namespace Settings

/-- A directory as an absolute path. A null character in it is an issue of the value; an unknown
home directory is not. -/
def absolute (h : Host) (p : Path) : Except SettingsError (Checked Path) :=
  match h.expandHome p with
  | .error .unknownHome => .error (.abort (.path .unknownHome))
  | .error f => .ok (Checked.refuse (.rule f.message))
  | .ok expanded =>
    match expanded.check with
    | .error f => .ok (Checked.refuse (.rule f.message))
    | .ok _ => .ok (.ok (h.resolve expanded))

/-- Check the directory of pages. -/
def directory (h : Host) : Value → Except SettingsError (Checked Path)
  | .text s => absolute h (Path.ofString s)
  | .path s => absolute h (Path.ofString s)
  | _ => .ok (Checked.refuse .notPath)

/-- An extension in its standard form: trimmed, in lower case, with its point. -/
def standardExtension (s : String) : Checked String :=
  let word := Text.LetterCase.lowerString (Text.trimString s)
  if word = "" ∨ word = "." then Checked.refuse (.rule "docs_extension must not be empty")
  else
    match word.toList with
    | '.' :: _ => .ok word
    | _ => .ok ("." ++ word)

/-- Check the extension of pages. -/
def extension (v : Value) : Checked String :=
  match Schema.text v with
  | .ok s => standardExtension s
  | .error issues => .error issues

/-- The levels that can be set. -/
def levels : List (String × LogLevel) :=
  [("DEBUG", .debug), ("INFO", .info), ("WARNING", .warning), ("ERROR", .error)]

/-- Check the level of the log, letter case aside. -/
def level : Value → Checked LogLevel
  | .text s => Schema.choice levels (.text (Text.LetterCase.upperString s))
  | v => Schema.choice levels v

/-- The formats of the log. -/
def formats : List (String × LogFormat) := [("console", .console), ("json", .json)]

/-- Check a setting that has a default. -/
def setting {α : Type} (layers : SettingsLayers) (name : String) (default : α)
    (check : Value → Checked α) : Checked α :=
  match layers.raw? name with
  | some v => Checked.under name (check v)
  | none => .ok default

/-- The directory of pages, as a default. -/
def defaultDirectory : Value := .path "docs/gcode"

/-- The extension of pages, as a default. -/
def defaultExtension : String := ".md"

/-- The settings of some layers with a checked directory of pages. -/
def ofDirectory (layers : SettingsLayers) (docsDirectory : Checked Path) : Checked Settings :=
  (((((((Checked.form Settings.mk).also (Checked.under "docs_dir" docsDirectory)).also
    (setting layers "docs_extension" defaultExtension extension)).also
    (setting layers "duplicate_policy" .firstWins (Schema.choice DuplicatePolicy.byName))).also
    (setting layers "workers" 1 Schema.positive)).also
    (setting layers "log_level" .info level)).also
    (setting layers "log_format" .console (Schema.choice formats))).also
    (setting layers "preview_limit" none (Schema.optional Schema.positive))

/-- The settings of some layers. -/
def ofLayers (h : Host) (layers : SettingsLayers) : Except SettingsError Settings :=
  match directory h ((layers.raw? "docs_dir").getD defaultDirectory) with
  | .error e => .error e
  | .ok docsDirectory =>
    match ofDirectory layers docsDirectory with
    | .ok s => .ok s
    | .error issues => .error (.issues issues)

/-- The settings with an optional file and with values set by hand. -/
def load (h : Host) (file : Option Path) (overrides : List (String × Value)) :
    Except SettingsError Settings :=
  match file with
  | none => ofLayers h ⟨overrides, h.environment, []⟩
  | some path =>
    match SettingsFile.load h path with
    | .error e => .error e
    | .ok entries => ofLayers h ⟨overrides, h.environment, entries⟩

end Settings

end OpcodeAtlas
