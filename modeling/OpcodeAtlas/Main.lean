import OpcodeAtlas.Command.Run
import Std.Time.DateTime

/-!
# The command line

Runs a command on the files of the machine: the settings file, the file that is shown and the
directory of pages are read, the command is run on them, and its transcript is written.
-/

set_option autoImplicit false

namespace OpcodeAtlas.CommandLine

/-- What the command line offers. -/
def help : List String :=
  ["Usage: opcode-atlas COMMAND [OPTIONS]", "",
    "  view FILE      show a program with its annotations",
    "  lookup CODE    show the documentation of a code",
    "  check-docs     check the pages of a directory",
    "  inspect FILE   show the source lines of a program or the record of a page"]

/-- The variables that are read. -/
def variableNames : List String :=
  SharedOptions.configVariable ::
    SettingsFile.names.map fun name =>
      Text.LetterCase.upperString (SettingsLayers.variableStart ++ name)

/-- The variables that are set. -/
def environment : IO (List (String × String)) :=
  variableNames.filterMapM fun name => do return (← IO.getEnv name).map fun v => (name, v)

/-- The user and the home directory of a line on an account. -/
def account? (line : String) : Option (String × Path) :=
  match line.splitOn ":" with
  | user :: _ :: _ :: _ :: _ :: home :: _ => some (user, Path.ofString home)
  | _ => none

/-- The users with their home directories, as far as they are listed. -/
def homes : IO (List (String × Path)) := do
  try
    let bytes ← IO.FS.readBinFile "/etc/passwd"
    let text := String.ofList (Text.Utf8.decodeLossy bytes.toList)
    return (text.splitOn "\n").filterMap account?
  catch _ => return []

/-- The surroundings, with no files read. -/
def surroundings : IO Host := do
  let directory := Path.ofString (← IO.currentDir).toString
  let home := Path.ofString ((← IO.getEnv "HOME").getD "/")
  return { directory := directory.names, home := home, homes := ← homes,
           environment := ← environment, tree := { directories := [directory.names] } }

/-- What reading a file gives, or none where there is no file. -/
def content? (reading : IO ByteArray) : IO (Option FileContent) := do
  try return some (.bytes (← reading).toList)
  catch
    | .noFileOrDirectory .. => return none
    | .permissionDenied .. => return some (.unreadable .denied)
    | _ => return some (.unreadable .device)

/-- Read an entry of a directory. One that must not be looked at bars the directory. -/
def readEntry (directory : Path) (tree : FileTree) (entry : IO.FS.DirEntry) : IO FileTree := do
  let place := directory.child entry.fileName
  try
    if (← entry.path.metadata).type == .dir then return tree.addDirectory [] place
    match ← content? (IO.FS.readBinFile entry.path) with
    | some content => return tree.addFile [] place content
    | none => return tree
  catch
    | .permissionDenied .. => return { tree with barred := directory.names :: tree.barred }
    | _ => return tree

/-- Read a directory. -/
def readDirectory (tree : FileTree) (place : Path) (entries : IO (Array IO.FS.DirEntry)) :
    IO FileTree := do
  let tree := tree.addDirectory [] place
  try (← entries).foldlM (readEntry place) tree
  catch
    | .permissionDenied .. => return { tree with unlisted := place.names :: tree.unlisted }
    | e => throw e

/-- Read a file, or the files in a directory. What cannot be found is left out. -/
def read (h : Host) (p : Path) : IO Host := do
  let place : Path := if p.isAbsolute then p else ⟨.root, h.directory ++ p.names⟩
  try
    let real ← IO.FS.realPath place.text
    if ← real.isDir then return { h with tree := ← readDirectory h.tree place real.readDir }
    else
      match ← content? (IO.FS.readBinFile real) with
      | some content => return { h with tree := h.tree.addFile [] place content }
      | none => return h
  catch _ => return h

/-- Read the files that a command asks for. -/
def readFor (h : Host) (c : Command) : IO Host := do
  let named := c.file?.toList ++ (c.options?.bind (·.config)).toList
  let h ← named.foldlM read h
  match c.options? with
  | none => return h
  | some options =>
    match Settings.load h options.config options.overrides with
    | .ok s => read h s.docsDirectory
    | .error _ => return h

/-- The time, in universal time. -/
def now : IO String := do
  let time ← Std.Time.Timestamp.now
  let microseconds := time.toNanosecondsSinceUnixEpoch.val.toNat / 1000
  let seconds := microseconds / 1000000
  let date := Std.Time.PlainDate.ofEpochDay ⟨(seconds / 86400 : Nat)⟩
  let day : Day := ⟨date.year.toInt.toNat, date.month.val.toNat, date.day.val.toNat⟩
  let clock : Clock :=
    ⟨seconds / 3600 % 24, seconds / 60 % 60, seconds % 60, microseconds % 1000000⟩
  return Moment.text ⟨day, clock, none⟩ ++ "Z"

/-- Write a transcript. -/
def write (t : Transcript) : IO UInt32 := do
  for line in t.logLines (← now) do IO.eprintln line
  for printed in t.printed do
    for line in printed.lines do IO.println line
  match t.ending with
  | .fault f => IO.eprintln f.message
  | .exit _ => pure ()
  return UInt32.ofNat t.ending.code

/-- Run the words of a command line. -/
def run (words : List String) : IO UInt32 := do
  let h ← surroundings
  match Usage.ofWords h.environment words with
  | .help => do
    for line in help do IO.println line
    return 0
  | .refused => do
    for line in help do IO.eprintln line
    return 2
  | .command c => do write (c.run (← readFor h c))

end OpcodeAtlas.CommandLine

/-- Run the command line. -/
def main (words : List String) : IO UInt32 := OpcodeAtlas.CommandLine.run words
