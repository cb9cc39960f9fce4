/-!
# Catalogue

The parts of the library and the values beside them, by the names under which they are offered.
-/

set_option autoImplicit false

namespace OpcodeAtlas.Catalogue

/-- The version of what is offered. -/
def version : String := "0.1.0"

/-- What a name stands for. -/
inductive Kind where
  | part
  | value
  deriving DecidableEq, Repr

/-- The names on offer, in order. -/
def offered : List (String × Kind) :=
  [("__version__", .value), ("build_registry", .value), ("display", .part), ("docs", .part),
    ("gcode", .part), ("settings", .part)]

/-- The parts that are there without being on offer. -/
def further : List (String × Kind) :=
  [("cli", .part), ("config_loaders", .part), ("errors", .part), ("logging", .part)]

/-- The values by which the catalogue tells about itself. -/
def about : List (String × Kind) :=
  ["__all__", "__doc__", "__file__", "__name__", "__package__", "__path__"].map (·, .value)

/-- The names on offer. -/
def names : List String := offered.map (·.1)

/-- What a name stands for, if there is something of that name. -/
def kind? (name : String) : Option Kind := (offered ++ further ++ about).lookup name

/-- The wording for a name that stands for nothing. -/
def unknownText (name : String) : String :=
  "module 'GCodeDocs' has no attribute '" ++ name ++ "'"

end OpcodeAtlas.Catalogue
