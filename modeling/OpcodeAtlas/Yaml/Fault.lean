import OpcodeAtlas.Text.Quoted

/-!
# Faults of YAML texts

Why a YAML text has no value (`Fault`). Most texts without a value are not YAML or hold a value that
is out of range, and whoever asks for the value answers for them. Where a scalar is taken for what
it is not, nobody does (`ScalarFault`).

Faults are those of a text on any machine. How deep a text may be nested before the stack of a
machine runs out does not count here: a scalar that is looked for without end is a fault, one that is
looked for long is none.
-/

set_option autoImplicit false

namespace OpcodeAtlas.Yaml

/-- Why a scalar has no value of its kind. -/
inductive ScalarFault where
  /-- It is tagged as a switch and is none of the words for one. -/
  | unknownSwitch (word : String)
  /-- It is tagged as a stamp and has not the form of one. -/
  | formlessStamp
  /-- A mapping is tagged as a stamp and stands for a scalar. -/
  | mappingStamp
  /-- It is tagged as a number and has no digits. -/
  | emptyNumber
  /-- It is a number with a fraction that has too many parts of sixtieths. -/
  | tooManySixtieths
  /-- It spells a character by a number that takes more than 31 bits. -/
  | oversizedEscape
  /-- It is the scalar that a mapping stands for, and the mapping stands for itself. -/
  | endless
  deriving DecidableEq, Repr

/-- The wording of a fault of a scalar. -/
def ScalarFault.message : ScalarFault → String
  | .unknownSwitch word => Text.quotedString word
  | .formlessStamp => "'NoneType' object has no attribute 'groupdict'"
  | .mappingStamp => "expected string or bytes-like object, got 'list'"
  | .emptyNumber => "string index out of range"
  | .tooManySixtieths => "int too large to convert to float"
  | .oversizedEscape => "Python int too large to convert to C int"
  | .endless => "maximum recursion depth exceeded"

/-- Why a text has no value. -/
inductive Fault where
  /-- It is not YAML, or a value in it is out of range or of the wrong kind. -/
  | malformed
  /-- A scalar has no value of its kind. -/
  | scalar (f : ScalarFault)
  deriving DecidableEq, Repr

/-- What a text has to have. -/
def require {α : Type} : Option α → Except Fault α
  | some a => .ok a
  | none => .error .malformed

end OpcodeAtlas.Yaml
