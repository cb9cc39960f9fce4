import OpcodeAtlas.Page.Record
import OpcodeAtlas.Value.Json

/-!
# Writing records

A record is written as compact JSON (`Record.json`), unless one of its texts cannot be encoded.
-/

set_option autoImplicit false

namespace OpcodeAtlas

/-- Why a record cannot be written. -/
structure WritingFault where
  cause : Text.Unencodable
  deriving DecidableEq, Repr

/-- The wording of a fault. -/
def WritingFault.message (f : WritingFault) : String :=
  "Error serializing to JSON: UnicodeEncodeError: " ++ f.cause.message

/-- The JSON text of a record. -/
def Record.json (r : Record) : Except WritingFault String :=
  match Json.encode r.toValue with
  | .ok s => .ok s
  | .error u => .error ⟨u⟩

end OpcodeAtlas
