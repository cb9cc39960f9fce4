import OpcodeAtlas.Abort
import OpcodeAtlas.Files.Tree
import OpcodeAtlas.Page.Record
import OpcodeAtlas.Program.Merge

/-!
# Display lines

A program is shown line by line: a comment stands by itself, and an instruction is annotated with
the title of the record that documents its code, or as unknown where no record does.
-/

set_option autoImplicit false

namespace OpcodeAtlas

/-- Where records are looked up by code. -/
abbrev RecordSource := String → Option Record

/-- A line that shows one comment or one instruction. -/
inductive DisplayLine where
  | comment (line : Int) (text : String)
  | instruction (line : Int) (text code : String) (record : Option Record)
  deriving DecidableEq, Repr

namespace DisplayLine

/-- What annotates an instruction without documentation. -/
def unknownMark : String := "Unknown"

/-- The text that is shown, without what the line adds to it. -/
def text : DisplayLine → String
  | .comment _ text => text
  | .instruction _ text _ _ => text

/-- The record that documents the instruction of a line. -/
def record? : DisplayLine → Option Record
  | .comment _ _ => none
  | .instruction _ _ _ record => record

/-- Whether the instruction of a line is documented. -/
def isKnown (l : DisplayLine) : Bool := l.record?.isSome

/-- The title that annotates an instruction. -/
def annotationOf (record : Option Record) : String :=
  match record with
  | some r => r.title
  | none => unknownMark

/-- What annotates a line. -/
def annotation? : DisplayLine → Option String
  | .comment _ _ => none
  | .instruction _ _ _ record => some (annotationOf record)

/-- A line as a whole. -/
def shown : DisplayLine → String
  | .comment _ text => "; " ++ text
  | .instruction _ text _ record => text ++ " -- " ++ annotationOf record

/-- The line for an item. -/
def ofItem (records : RecordSource) : DisplayItem → DisplayLine
  | .comment c => .comment c.line c.value
  | .instruction i => .instruction i.line i.text i.code (records i.code)

/-- The lines for source lines, in document order. -/
def ofLines (records : RecordSource) (lines : List SourceLine) : List DisplayLine :=
  (displayItems lines).map (ofItem records)

/-- The lines for a program. -/
def ofText (records : RecordSource) (text : List Char) : Except IntegerFault (List DisplayLine) :=
  (Program.read text).map fun p => ofLines records p.lines

end DisplayLine

/-! ## Program files -/

namespace ProgramFile

/-- The failure for a program file that cannot be read; `detail` says why. -/
def failure (path : Path) (detail : String) : Failure :=
  { subject := .program (some path.text)
    message := "Cannot read G-code file " ++ path.text ++ ": " ++ detail }

/-- The text of a program file. -/
def read (h : Host) (path : Path) : Except WorkError (List Char) :=
  match path.check, h.readTextLossy path with
  | .error f, _ => .error (.abort (.path f))
  | .ok _, .ok text => .ok text
  | .ok _, .error e => .error (.failure (failure path e.cause.text))

end ProgramFile

end OpcodeAtlas
