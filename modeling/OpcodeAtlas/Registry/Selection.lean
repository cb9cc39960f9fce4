import OpcodeAtlas.Abort
import OpcodeAtlas.Files.Tree

/-!
# Selecting pages

The pages of a directory are its files with a given extension, letter case aside, in the order of
their names. In which order the directory lists them makes no difference.
-/

set_option autoImplicit false

namespace OpcodeAtlas

namespace Selection

/-- The failure for a directory that cannot be listed. -/
def failure (directory : Path) (e : FileError) : Failure :=
  let subject := FailureSubject.directory (some directory.text)
  match e.cause with
  | .notFound =>
    { subject
      message := "Documentation directory " ++ directory.text ++ " does not exist"
      hint := some "Pass --docs-dir or set GCODEDOCS_DOCS_DIR" }
  | .notDirectory =>
    { subject, message := "Documentation path " ++ directory.text ++ " is not a directory" }
  | _ =>
    { subject
      message :=
        "Cannot list documentation directory " ++ directory.text ++ ": " ++ e.message }

/-- Whether a name in a directory is that of a file with the given extension. -/
def isPage (h : Host) (directory : Path) (extension name : String) : Except FileError Bool :=
  let path := directory.child name
  if path.lowerExtension = Text.LetterCase.lowerString extension then h.isFile path
  else .ok false

/-- The names of the pages among some names. -/
def pageNames (isPage : String → Except FileError Bool) :
    List String → Except FileError (List String)
  | [] => .ok []
  | name :: rest =>
    match isPage name with
    | .error e => .error e
    | .ok false => pageNames isPage rest
    | .ok true => (pageNames isPage rest).map (name :: ·)

/-- Names in order. -/
def inOrder (names : List String) : List String := names.mergeSort fun a b => decide (a ≤ b)

/-- The pages in a directory. -/
def pages (h : Host) (directory : Path) (extension : String) : Except WorkError (List Path) :=
  match directory.check, h.list directory with
  | .error f, _ => .error (.abort (.path f))
  | .ok _, .error e => .error (.failure (failure directory e))
  | .ok _, .ok listed =>
    match pageNames (isPage h directory extension) listed with
    | .error e => .error (.abort (.file e))
    | .ok found => .ok ((inOrder found).map directory.child)

/-- An extension with the point that it starts with. -/
def pointed (extension : String) : String :=
  match extension.toList with
  | '.' :: _ => extension
  | _ => "." ++ extension

end Selection

end OpcodeAtlas
