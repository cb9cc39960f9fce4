import OpcodeAtlas.Files.Path
import OpcodeAtlas.Text.Line
import OpcodeAtlas.Text.Utf8

/-!
# File trees

A file tree holds files and names directories, each under its absolute place. Not all that is there
is open to whoever looks for it: a file holds its bytes or the reason why they cannot be read
(`ReadFault`), and a directory may keep its names to itself or not be entered at all. A path is
followed name by name (`FileTree.follow`); where that fails, or where what is at its end cannot be
read, the error tells the cause and the path that was asked for (`FileError`).
-/

set_option autoImplicit false

namespace OpcodeAtlas

/-- Why a file that is there gives no bytes. -/
inductive ReadFault where
  /-- It must not be opened. -/
  | denied
  /-- It is opened, and its device fails. -/
  | device
  deriving DecidableEq, Repr

/-- Why a path cannot be followed or read. -/
inductive FileCause where
  | notFound
  | notDirectory
  | isDirectory
  | nameTooLong
  /-- There is a directory that must not be listed, or entered on the way. -/
  | closed
  /-- There is a file at its end that gives no bytes. -/
  | unreadable (f : ReadFault)
  deriving DecidableEq, Repr

namespace FileCause

/-- The number of a cause. -/
def number : FileCause → Nat
  | .notFound => 2
  | .unreadable .device => 5
  | .closed => 13
  | .unreadable .denied => 13
  | .notDirectory => 20
  | .isDirectory => 21
  | .nameTooLong => 36

/-- The wording of a cause. -/
def text : FileCause → String
  | .notFound => "No such file or directory"
  | .unreadable .device => "Input/output error"
  | .closed => "Permission denied"
  | .unreadable .denied => "Permission denied"
  | .notDirectory => "Not a directory"
  | .isDirectory => "Is a directory"
  | .nameTooLong => "File name too long"

end FileCause

/-- A path with the reason why it cannot be followed or read. -/
structure FileError where
  cause : FileCause
  path : Path
  deriving DecidableEq, Repr

/-- The wording of a file error. Once a file is open, what goes wrong is told without its path. -/
def FileError.message (e : FileError) : String :=
  let wording := "[Errno " ++ toString e.cause.number ++ "] " ++ e.cause.text
  if e.cause = .unreadable .device then wording
  else wording ++ ": " ++ Text.quotedString e.path.text

/-- What reading a file gives. -/
inductive FileContent where
  | bytes (bs : List UInt8)
  | unreadable (f : ReadFault)
  deriving DecidableEq, Repr

/-- Files and directories with the names that lead to them from the root. -/
structure FileTree where
  files : List (List String × FileContent) := []
  directories : List (List String) := []
  /-- The directories that must not be listed. -/
  unlisted : List (List String) := []
  /-- The directories that must not be entered. -/
  barred : List (List String) := []
  deriving DecidableEq, Repr

namespace FileTree

/-- The greatest number of bytes in a name. -/
def nameLimit : Nat := 255

/-- The content of the file at a place. -/
def content? (t : FileTree) (place : List String) : Option FileContent := t.files.lookup place

/-- Whether there is a directory at a place: the root, one that is named, or one on the way to a
file or directory. -/
def isDirectory (t : FileTree) (place : List String) : Bool :=
  place.isEmpty || t.directories.any (place.isPrefixOf ·) ||
    t.files.any fun f => place.isPrefixOf f.1 && f.1 != place

/-- Whether there is a file or directory at a place. -/
def has (t : FileTree) (place : List String) : Bool :=
  (t.content? place).isSome || t.isDirectory place

/-- Follow names from a place. -/
def follow (t : FileTree) (place : List String) : List String → Except FileCause (List String)
  | [] => .ok place
  | name :: rest =>
    if !t.isDirectory place then .error .notDirectory
    else if t.barred.contains place then .error .closed
    else if nameLimit < (Text.Utf8.encodeString name).length then .error .nameTooLong
    else if name = ".." then follow t place.dropLast rest
    else if t.has (place ++ [name]) then follow t (place ++ [name]) rest
    else .error .notFound

/-- The names that a place has below it. -/
def namesBelow (t : FileTree) (place : List String) : List String :=
  let places := t.files.map (·.1) ++ t.directories
  (places.filterMap fun q =>
    if place.isPrefixOf q then (q.drop place.length).head? else none).eraseDups

/-- Name directories on the way along some names, which may hold double points. -/
def makeDirectories (place : List String) (t : FileTree) : List String → FileTree × List String
  | [] => (t, place)
  | name :: rest =>
    if name = ".." then makeDirectories place.dropLast t rest
    else
      let place := place ++ [name]
      makeDirectories place { t with directories := t.directories ++ [place] } rest

/-- Add a file below a place, or replace the one that is there, with the directories on its way. -/
def addFile (t : FileTree) (place : List String) (p : Path) (content : FileContent) : FileTree :=
  let (t, directory) := makeDirectories place t p.parent.names
  let file := directory ++ [p.name]
  { t with files := t.files.filter (·.1 != file) ++ [(file, content)] }

/-- Add a directory below a place, with the directories on its way. -/
def addDirectory (t : FileTree) (place : List String) (p : Path) : FileTree :=
  (makeDirectories place t p.names).1

end FileTree

/-! ## Where a program runs -/

/-- What a program sees of its surroundings: the files, the directory that relative paths start
from, the home directory and those of other users, and the variables that are set. -/
structure Host where
  tree : FileTree := {}
  directory : List String := []
  home : Path := ⟨.root, []⟩
  homes : List (String × Path) := []
  environment : List (String × String) := []
  deriving DecidableEq, Repr

/-- Why a file gives no text. -/
inductive TextError where
  | file (e : FileError)
  | encoding (m : Text.Utf8.Malformed)
  deriving DecidableEq, Repr

namespace Host

/-- The greatest number of bytes in a path, with one more that ends it. -/
def pathLimit : Nat := 4096

/-- Follow a path. -/
def follow (h : Host) (p : Path) : Except FileError (List String) :=
  if pathLimit ≤ (Text.Utf8.encodeString p.text).length then .error ⟨.nameTooLong, p⟩
  else
    match h.tree.follow [] (if p.isAbsolute then p.names else h.directory ++ p.names) with
    | .ok place => .ok place
    | .error cause => .error ⟨cause, p⟩

/-- The bytes of a file. -/
def readBytes (h : Host) (p : Path) : Except FileError (List UInt8) :=
  match h.follow p with
  | .error e => .error e
  | .ok place =>
    match h.tree.content? place with
    | some (.bytes bs) => .ok bs
    | some (.unreadable f) => .error ⟨.unreadable f, p⟩
    | none => .error ⟨.isDirectory, p⟩

/-- The text of a file, with each line end as a line feed. -/
def readText (h : Host) (p : Path) : Except TextError (List Char) :=
  match h.readBytes p with
  | .error e => .error (.file e)
  | .ok bytes =>
    match Text.Utf8.decode bytes with
    | .error m => .error (.encoding m)
    | .ok chars => .ok (Text.unifyEnds chars)

/-- The text of a file, with replacement characters for ill-formed bytes. -/
def readTextLossy (h : Host) (p : Path) : Except FileError (List Char) :=
  (h.readBytes p).map fun bytes => Text.unifyEnds (Text.Utf8.decodeLossy bytes)

/-- The names in a directory, in no particular order. -/
def list (h : Host) (p : Path) : Except FileError (List String) :=
  match h.follow p with
  | .error e => .error e
  | .ok place =>
    if !h.tree.isDirectory place then .error ⟨.notDirectory, p⟩
    else if h.tree.unlisted.contains place then .error ⟨.closed, p⟩
    else .ok (h.tree.namesBelow place)

/-- Whether a path leads to a file, which need not be one that can be read. A path that is too long,
or that leads through a directory that must not be entered, leaves this open. -/
def isFile (h : Host) (p : Path) : Except FileError Bool :=
  match h.readBytes p with
  | .ok _ => .ok true
  | .error e =>
    match e.cause with
    | .unreadable _ => .ok true
    | .nameTooLong => .error e
    | .closed => .error e
    | _ => .ok false

/-- The home directory of a user; the own one has no name. -/
def homeOf (h : Host) (user : String) : Except PathFault Path :=
  if user = "" then .ok h.home
  else if Path.holdsNull user then .error .nullCharacter
  else
    match h.homes.lookup user with
    | some home => .ok home
    | none => .error .unknownHome

/-- Replace a tilde at the start of a path, and the name of a user behind it, by a home
directory. -/
def expandHome (h : Host) (p : Path) : Except PathFault Path :=
  match p.root, p.names with
  | .relative, name :: rest =>
    match name.toList with
    | '~' :: user =>
      (h.homeOf (String.ofList user)).map fun home => { home with names := home.names ++ rest }
    | _ => .ok p
  | _, _ => .ok p

/-- The absolute path without double points. -/
def resolve (h : Host) (p : Path) : Path := p.resolve h.directory

end Host

end OpcodeAtlas
