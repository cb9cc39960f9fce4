import OpcodeAtlas.Files.Tree
import OpcodeAtlas.Settings.Error
import OpcodeAtlas.Toml.Document
import OpcodeAtlas.Yaml.Document

/-!
# Settings files

A settings file is a map in YAML or TOML; its extension tells which. Settings may stand in a
section of their own, so that the file can serve other programs too. `SettingsFile.entries` gives
the map, and `SettingsFile.load` takes only names of settings in it and anchors a relative
directory of pages at the directory of the file.
-/

set_option autoImplicit false

namespace OpcodeAtlas

namespace SettingsFile

/-- The names of the settings, in order. -/
def names : List String :=
  ["docs_dir", "docs_extension", "duplicate_policy", "workers", "log_level", "log_format",
    "preview_limit"]

/-- The name of the section that settings may stand in. -/
def sectionName : String := "gcodedocs"

/-- The value of a YAML text. -/
def readYaml (text : List Char) : Except SettingsError Value :=
  match Yaml.read text with
  | .ok v => .ok v
  | .error (.scalar f) => .error (.abort (.scalar f))
  | .error .malformed =>
    .error (.refuse "Failed to parse YAML configuration payload: the text cannot be read")

/-- The value of a TOML text. -/
def readToml (text : List Char) : Except SettingsError Value :=
  match Toml.read? text with
  | some v => .ok v
  | none => .error (.refuse "Failed to parse TOML configuration payload: the text cannot be read")

/-- The text of a file. -/
def readText (h : Host) (path : Path) : Except SettingsError (List Char) :=
  match path.check, h.readText path with
  | .error f, _ => .error (.abort (.path f))
  | .ok _, .ok text => .ok text
  | .ok _, .error (.file e) =>
    .error (.refuse ("Cannot read configuration file " ++ path.text ++ ": " ++ e.message))
  | .ok _, .error (.encoding m) => .error (.encoding m)

/-- The value of a text in the format of an extension. -/
def readAs (path : Path) (extension : String) (text : List Char) : Except SettingsError Value :=
  if extension = ".toml" then readToml text
  else if extension = ".yaml" ∨ extension = ".yml" then readYaml text
  else
    let shown := if extension = "" then "<none>" else extension
    .error (.refuse ("Unsupported configuration format " ++ shown ++ " for " ++ path.text ++
      "; use .toml, .yaml or .yml"))

/-- The map that holds the settings: the section for them, if there is one. -/
def settingsOf (es : Entries) : Entries :=
  ((es.get? sectionName).bind Value.entries?).getD es

/-- The entries of the value of a file. -/
def entriesOf (path : Path) : Value → Except SettingsError Entries
  | .null => .ok []
  | v =>
    match v.entries? with
    | some es => .ok (settingsOf es)
    | none =>
      .error (.refuse ("Configuration file " ++ path.text ++ " must contain a mapping; received " ++
        v.kindName ++ "."))

/-- The entries of a file. -/
def entries (h : Host) (path : Path) : Except SettingsError Entries :=
  match readText h path with
  | .error e => .error e
  | .ok text =>
    match readAs path path.lowerExtension text with
    | .error e => .error e
    | .ok v => entriesOf path v

/-! ## Names -/

/-- Whether a key is the name of a setting. -/
def isName : Value → Bool
  | .text s => names.contains s
  | _ => false

/-- The texts of keys, the first of which has the given place. -/
def keyTexts (place : Nat) : List Value → Except SettingsError (List String)
  | [] => .ok []
  | .text s :: rest => (keyTexts (place + 1) rest).map (s :: ·)
  | v :: _ => .error (.nameNotText place v.fullKindName)

/-- Refuse keys that are no names. -/
def refuseUnknown (path : Path) (unknown : List Value) : Except SettingsError Entries :=
  match Value.sortKeys unknown with
  | .error u => .error (.unordered u)
  | .ok sorted =>
    match keyTexts 0 sorted with
    | .error e => .error e
    | .ok texts =>
      .error (.refuse ("Unknown configuration fields in " ++ path.text ++ ": " ++
        ", ".intercalate texts))

/-- Admit entries whose keys all are names. -/
def checkNames (path : Path) (es : Entries) : Except SettingsError Entries :=
  match (es.map (·.1)).filter (!isName ·) with
  | [] => .ok es
  | unknown => refuseUnknown path unknown

/-! ## The directory of pages -/

/-- A value for the directory of pages: a relative one is seen from the directory of the file. -/
def anchorValue (h : Host) (path : Path) (v : Value) : Except SettingsError Value :=
  if !v.isShowable then .error .unprintable
  else
    -- Whatever the value is, its text is taken for a path.
    let directory := Path.ofString v.shown
    match h.expandHome directory with
    | .error f => .error (.abort (.path f))
    | .ok expanded =>
      .ok (if expanded.isAbsolute then v else .path (path.parent.join directory).text)

/-- Entries with the directory of pages anchored; null stays. -/
def anchor (h : Host) (path : Path) (es : Entries) : Except SettingsError Entries :=
  match es.get? "docs_dir" with
  | none => .ok es
  | some .null => .ok es
  | some v => (anchorValue h path v).map (es.putText "docs_dir")

/-- The settings in a file. -/
def load (h : Host) (path : Path) : Except SettingsError Entries :=
  match entries h path with
  | .error e => .error e
  | .ok es =>
    match checkNames path es with
    | .error e => .error e
    | .ok es => anchor h path es

end SettingsFile

end OpcodeAtlas
