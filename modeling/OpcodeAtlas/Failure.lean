import OpcodeAtlas.Text.Blank

/-!
# Failures

What the parts of the library report when they cannot do their work: what went wrong, where, and
what may help. `Failure.text` is the message with its place, and `Failure.report` the one line that
is shown to a user.
-/

set_option autoImplicit false

namespace OpcodeAtlas

/-- What a failure is about. -/
inductive FailureSubject where
  /-- A documentation page: where it comes from, and the field of its header. -/
  | page (source field : Option String)
  /-- A directory of pages. -/
  | directory (directory : Option String)
  /-- A code that two pages of a directory declare. -/
  | duplicate (directory : Option String) (code : String) (sources : List String)
  /-- A program file. -/
  | program (path : Option String)
  /-- A settings file. -/
  | settings
  /-- Anything else. -/
  | general
  deriving DecidableEq, Repr

/-- The stage of the work that a subject belongs to. -/
def FailureSubject.stage : FailureSubject → String
  | .page _ _ => "docs"
  | .directory _ => "registry"
  | .duplicate _ _ _ => "registry"
  | .program _ => "gcode"
  | .settings => "config"
  | .general => "gcodedocs"

/-- A failure. -/
structure Failure where
  subject : FailureSubject
  message : String
  hint : Option String := none
  stage : String := subject.stage
  deriving DecidableEq, Repr

namespace Failure

/-- The message with its place: a page comes first, and a field behind. -/
def text (f : Failure) : String :=
  match f.subject with
  | .page source field =>
    let place := match source.filter (· ≠ "") with
      | some s => s ++ ": "
      | none => ""
    let behind := match field.filter (· ≠ "") with
      | some n => " (field '" ++ n ++ "')"
      | none => ""
    place ++ f.message ++ behind
  | _ => f.message

/-- A text without the points at its end. -/
def dropPoints (s : String) : String :=
  String.ofList (s.toList.reverse.dropWhile (· == '.')).reverse

/-- One line for a text: the stage in brackets, the text with one point at its end, and the hint if
there is one. -/
def reportOf (stage : String) (hint : Option String) (text : String) : String :=
  let label := if stage = "" then "gcodedocs" else stage
  let behind := match hint.filter (· ≠ "") with
    | some h => " Hint: " ++ h
    | none => ""
  Text.trimString ("[" ++ label ++ "] " ++ dropPoints text ++ "." ++ behind)

/-- The one line that shows a failure. -/
def report (f : Failure) : String := reportOf f.stage f.hint f.text

end Failure

end OpcodeAtlas
