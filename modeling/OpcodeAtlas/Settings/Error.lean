import OpcodeAtlas.Abort
import OpcodeAtlas.Schema.Issue
import OpcodeAtlas.Text.Utf8
import OpcodeAtlas.Value.Order

/-!
# What is wrong with settings

Settings are refused for what their file holds or for a value that does not fit. The other causes
are no verdict on the settings: they stop the reading of a file half-way.
-/

set_option autoImplicit false

namespace OpcodeAtlas

/-- Why there are no settings. -/
inductive SettingsError where
  /-- The file is refused. -/
  | failure (f : Failure)
  /-- Values do not fit. -/
  | issues (found : List Issue)
  /-- The file is not UTF-8. -/
  | encoding (m : Text.Utf8.Malformed)
  | abort (a : Abort)
  /-- Unknown names in the file have no order. -/
  | unordered (u : Unordered)
  /-- An unknown name, of the given place among them and the given kind, is no text. -/
  | nameNotText (place : Nat) (kind : String)
  /-- The directory of pages in the file has no text. -/
  | unprintable
  deriving DecidableEq, Repr

namespace SettingsError

/-- A refusal of a settings file. -/
def refuse (message : String) : SettingsError :=
  .failure { subject := .settings, message := message }

/-- The wording of issues; what each says of its value follows the first line. -/
def issuesText (found : List Issue) : String :=
  "\n".intercalate (found.map fun i => ".".intercalate i.place ++ ": " ++ i.cause.message)

/-- The wording of an error. -/
def message : SettingsError → String
  | .failure f => f.text
  | .issues found => issuesText found
  | .encoding m => m.message
  | .abort a => a.message
  | .unordered u => u.message
  | .nameNotText place kind =>
    "sequence item " ++ toString place ++ ": expected str instance, " ++ kind ++ " found"
  | .unprintable => IntegerFault.unprintable.message

end SettingsError

end OpcodeAtlas
