import OpcodeAtlas.Text.LetterCase.Lower

/-!
# Paths

A path is a row of names, absolute or relative. Reading one drops empty names and single points, so
that `a//b/.` and `a/b` are the same path; double points stay. Exactly two slashes in front are
kept apart from one.
-/

set_option autoImplicit false

namespace OpcodeAtlas

/-- Where a path starts. -/
inductive PathRoot where
  | relative
  | root
  | doubleRoot
  deriving DecidableEq, Repr

/-- Why a path cannot be used at all. -/
inductive PathFault where
  /-- It holds the null character, which ends a path. -/
  | nullCharacter
  /-- It starts with the home directory of a user who is not known. -/
  | unknownHome
  deriving DecidableEq, Repr

/-- The wording of a fault. -/
def PathFault.message : PathFault → String
  | .nullCharacter => "embedded null byte"
  | .unknownHome => "Could not determine home directory."

/-- A path. -/
structure Path where
  root : PathRoot
  names : List String
  deriving DecidableEq, Repr

namespace Path

/-- The parts of a text between slashes. -/
def splitSlashes : List Char → List (List Char)
  | [] => [[]]
  | c :: rest =>
    match splitSlashes rest with
    | [] => [[c]]
    | part :: parts => if c = '/' then [] :: part :: parts else (c :: part) :: parts

/-- Where a text starts as a path. -/
def rootOf : List Char → PathRoot
  | '/' :: '/' :: '/' :: _ => .root
  | '/' :: '/' :: _ => .doubleRoot
  | '/' :: _ => .root
  | _ => .relative

/-- The path that a text is. -/
def ofString (s : String) : Path :=
  let parts := (splitSlashes s.toList).map String.ofList
  ⟨rootOf s.toList, parts.filter fun p => p != "" && p != "."⟩

/-- The text in front of the names. -/
def rootText : PathRoot → String
  | .relative => ""
  | .root => "/"
  | .doubleRoot => "//"

/-- The text of a path; a relative path without names is a point. -/
def text (p : Path) : String :=
  match p.root, p.names with
  | .relative, [] => "."
  | start, names => rootText start ++ "/".intercalate names

/-- Whether a text holds the null character. -/
def holdsNull (s : String) : Bool := s.toList.contains '\x00'

/-- Check that a path can be used. -/
def check (p : Path) : Except PathFault Unit :=
  if p.names.any holdsNull then .error .nullCharacter else .ok ()

/-- Whether a path is absolute. -/
def isAbsolute (p : Path) : Bool := p.root != .relative

/-- The last name of a path, empty where there is none. -/
def name (p : Path) : String := (p.names.getLast?).getD ""

/-- The path without its last name. -/
def parent (p : Path) : Path := { p with names := p.names.dropLast }

/-- A path below another one, unless it is absolute itself. -/
def join (p q : Path) : Path := if q.isAbsolute then q else { p with names := p.names ++ q.names }

/-- The path of a name below a path. -/
def child (p : Path) (name : String) : Path := { p with names := p.names ++ [name] }

/-- The characters of a name from its last point on, none where it has none. -/
def fromLastPoint : List Char → List Char
  | [] => []
  | c :: rest =>
    match fromLastPoint rest with
    | [] => if c = '.' then c :: rest else []
    | found => found

/-- The extension of a name, with its point. A point that is the first or the last character of the
name starts none. -/
def extensionOf (name : String) : String :=
  let found := fromLastPoint name.toList
  if found.length ≤ 1 ∨ found.length = name.length then "" else String.ofList found

/-- The extension of a path. -/
def extension (p : Path) : String := extensionOf p.name

/-- The extension of a path in lower case. -/
def lowerExtension (p : Path) : String := Text.LetterCase.lowerString p.extension

/-- Take away each name that is followed by double points, and double points at the root. -/
def dropDouble (names : List String) : List String :=
  (names.foldl (fun (acc : List String) name =>
    if name = ".." then acc.drop 1 else name :: acc) []).reverse

/-- The absolute path without double points, seen from a directory. -/
def resolve (directory : List String) (p : Path) : Path :=
  ⟨.root, dropDouble (if p.isAbsolute then p.names else directory ++ p.names)⟩

end Path

end OpcodeAtlas
