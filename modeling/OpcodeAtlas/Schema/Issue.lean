import OpcodeAtlas.Number.Reading

/-!
# Issues

Checking a value against a schema finds all issues at once, each with the place in the value that
it concerns. `Checked` is the outcome: the checked form, or the issues in order. Parts are put
together by `Checked.also`, which keeps the issues of both sides.
-/

set_option autoImplicit false

namespace OpcodeAtlas

/-- What is wrong with a value. -/
inductive IssueCause where
  | missing
  | notText
  | undecodableText
  | textTooShort
  | notSwitch
  | unknownSwitch
  | notRow
  | rowTooShort
  /-- A map is needed for a part of the given name. -/
  | notMap (part : String)
  | notInteger
  | unreadableInteger
  | fractionalInteger
  | infiniteInteger
  | oversizedInteger
  /-- A whole number is below the least one. -/
  | below (least : Nat)
  /-- None of the given words. -/
  | notOneOf (words : List String)
  | notPath
  /-- A rule of its own, with its wording. -/
  | rule (text : String)
  deriving DecidableEq, Repr

namespace IssueCause

/-- The words of a choice in a sentence. -/
def choiceText : List String → String
  | [] => ""
  | [w] => "'" ++ w ++ "'"
  | [v, w] => "'" ++ v ++ "' or '" ++ w ++ "'"
  | w :: rest => "'" ++ w ++ "', " ++ choiceText rest

/-- The short name of a cause. -/
def label : IssueCause → String
  | .missing => "missing"
  | .notText => "string_type"
  | .undecodableText => "string_unicode"
  | .textTooShort => "string_too_short"
  | .notSwitch => "bool_type"
  | .unknownSwitch => "bool_parsing"
  | .notRow => "tuple_type"
  | .rowTooShort => "too_short"
  | .notMap _ => "model_type"
  | .notInteger => "int_type"
  | .unreadableInteger => "int_parsing"
  | .fractionalInteger => "int_from_float"
  | .infiniteInteger => "finite_number"
  | .oversizedInteger => "int_parsing_size"
  | .below _ => "greater_than_equal"
  | .notOneOf _ => "enum"
  | .notPath => "path_type"
  | .rule _ => "value_error"

/-- The wording of a cause. -/
def message : IssueCause → String
  | .missing => "Field required"
  | .notText => "Input should be a valid string"
  | .undecodableText =>
    "Input should be a valid string, unable to parse raw data as a unicode string"
  | .textTooShort => "String should have at least 1 character"
  | .notSwitch => "Input should be a valid boolean"
  | .unknownSwitch => "Input should be a valid boolean, unable to interpret input"
  | .notRow => "Input should be a valid tuple"
  | .rowTooShort => "Tuple should have at least 1 item after validation, not 0"
  | .notMap part => "Input should be a valid dictionary or instance of " ++ part
  | .notInteger => "Input should be a valid integer"
  | .unreadableInteger => "Input should be a valid integer, unable to parse string as an integer"
  | .fractionalInteger => "Input should be a valid integer, got a number with a fractional part"
  | .infiniteInteger => "Input should be a finite number"
  | .oversizedInteger => "Unable to parse input string as an integer, exceeded maximum size"
  | .below least => "Input should be greater than or equal to " ++ toString least
  | .notOneOf words => "Input should be " ++ choiceText words
  | .notPath => "Input is not a valid path for <class 'pathlib.Path'>"
  | .rule text => "Value error, " ++ text

end IssueCause

/-- An issue: the place that it concerns, from the outside in, and its cause. -/
structure Issue where
  place : List String
  cause : IssueCause
  deriving DecidableEq, Repr

/-- The outcome of checking a value. -/
abbrev Checked (α : Type) := Except (List Issue) α

namespace Checked

variable {α β : Type}

/-- A form without issues. -/
def form (a : α) : Checked α := .ok a

/-- A single issue with the value as a whole. -/
def refuse (cause : IssueCause) : Checked α := .error [⟨[], cause⟩]

/-- The same outcome for a value that is a part, named or numbered, of another one. -/
def under (part : String) : Checked α → Checked α
  | .ok a => .ok a
  | .error issues => .error (issues.map fun i => { i with place := part :: i.place })

/-- Put the next part to a form that waits for it, keeping the issues of both sides. -/
def also (f : Checked (α → β)) (a : Checked α) : Checked β :=
  match f, a with
  | .ok f, .ok a => .ok (f a)
  | .ok _, .error issues => .error issues
  | .error issues, .ok _ => .error issues
  | .error first, .error second => .error (first ++ second)

/-- The forms of all parts of a row, or the issues of all of them. -/
def all : List (Checked α) → Checked (List α)
  | [] => .ok []
  | a :: rest => also (a.map List.cons) (all rest)

/-- Number the parts of a row from `n` on. -/
def numbered (n : Nat) : List (Checked α) → List (Checked α)
  | [] => []
  | a :: rest => under (toString n) a :: numbered (n + 1) rest

/-- The forms of the parts of a row, each issue under the number of its part. -/
def row (parts : List (Checked α)) : Checked (List α) := all (numbered 0 parts)

end Checked

end OpcodeAtlas
