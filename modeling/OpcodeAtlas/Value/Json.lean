import OpcodeAtlas.Text.Quoted
import OpcodeAtlas.Value.Shown

/-!
# Values as JSON

Two spellings of JSON are in use. Log lines are `spaced`: a blank behind each comma and colon,
ASCII only, characters beyond the basic plane as two escapes; kinds that JSON does not know are
written as the text that shows them. Records are `compact`: no blanks, and all characters but
controls, quotes and backslashes as they are. A place that holds the mark of a collection around it
is null.
-/

set_option autoImplicit false

namespace OpcodeAtlas

namespace Json

/-- The escape of a code unit. -/
def unitEscape (n : Nat) : List Char := ['\\', 'u'] ++ Text.hexDigits 4 n

/-- The escapes that both spellings share. -/
def shortEscape? (c : Char) : Option (List Char) :=
  if c = Text.doubleQuote then some ['\\', Text.doubleQuote]
  else if c = '\\' then some ['\\', '\\']
  else if c = '\n' then some ['\\', 'n']
  else if c = '\r' then some ['\\', 'r']
  else if c = '\t' then some ['\\', 't']
  else if c.toNat = 8 then some ['\\', 'b']
  else if c.toNat = 12 then some ['\\', 'f']
  else none

/-- A character in ASCII. -/
def asciiChar (c : Char) : List Char :=
  match shortEscape? c with
  | some s => s
  | none =>
    let n := Text.codePoint c
    if 32 ≤ n ∧ n < 127 then [c]
    else if n < 0x10000 then unitEscape n
    else unitEscape (0xd800 + (n - 0x10000) / 1024) ++ unitEscape (0xdc00 + (n - 0x10000) % 1024)

/-- A character as it is, controls aside. -/
def rawChar (c : Char) : List Char :=
  match shortEscape? c with
  | some s => s
  | none => if c.toNat < 32 then unitEscape c.toNat else [c]

/-- A text between double quotes, with the given form of each character. -/
def quotedWith (form : Char → List Char) (s : String) : String :=
  String.ofList (Text.doubleQuote :: s.toList.flatMap form ++ [Text.doubleQuote])

/-- A number that JSON may not know. -/
def floatText : Binary64 → String
  | .nan => "NaN"
  | .infinite neg => if neg then "-Infinity" else "Infinity"
  | x => x.valueText

/-- The text of a key. -/
def keyText : Value → String
  | .text s => s
  | .bool on => if on then "true" else "false"
  | .null => "null"
  | .int n => toString n
  | .float x => floatText x
  | v => v.shown

mutual

/-- The spaced spelling of a value. -/
def spaced : Value → String
  | .null => "null"
  | .bool on => if on then "true" else "false"
  | .int n => toString n
  | .float x => floatText x
  | .text s => quotedWith asciiChar s
  | .list items => "[" ++ ", ".intercalate (spacedItems items) ++ "]"
  | .tuple items => "[" ++ ", ".intercalate (spacedItems items) ++ "]"
  | .map entries => "\x7b" ++ ", ".intercalate (spacedEntries entries) ++ "\x7d"
  | .set members => quotedWith asciiChar (Value.set members).shown
  | .date d => quotedWith asciiChar d.text
  | .moment m => quotedWith asciiChar (m.textWith " ")
  | .time c => quotedWith asciiChar c.text
  | .bytes bs => quotedWith asciiChar (Value.bytes bs).shown
  | .path p => quotedWith asciiChar p
  | .marked _ v => spaced v
  | .again _ => "null"

/-- The spaced spellings of a row of values. -/
def spacedItems : List Value → List String
  | [] => []
  | v :: vs => spaced v :: spacedItems vs

/-- The spaced spellings of the entries of a map. -/
def spacedEntries : List (Value × Value) → List String
  | [] => []
  | (k, v) :: rest => (quotedWith asciiChar (keyText k) ++ ": " ++ spaced v) :: spacedEntries rest

end

mutual

/-- The compact spelling of a value. -/
def compact : Value → String
  | .null => "null"
  | .bool on => if on then "true" else "false"
  | .int n => toString n
  | .float x => floatText x
  | .text s => quotedWith rawChar s
  | .list items => "[" ++ ",".intercalate (compactItems items) ++ "]"
  | .tuple items => "[" ++ ",".intercalate (compactItems items) ++ "]"
  | .map entries => "\x7b" ++ ",".intercalate (compactEntries entries) ++ "\x7d"
  | .marked _ v => compact v
  | .again _ => "null"
  | v => quotedWith rawChar v.shown

/-- The compact spellings of a row of values. -/
def compactItems : List Value → List String
  | [] => []
  | v :: vs => compact v :: compactItems vs

/-- The compact spellings of the entries of a map. -/
def compactEntries : List (Value × Value) → List String
  | [] => []
  | (k, v) :: rest => (quotedWith rawChar (keyText k) ++ ":" ++ compact v) :: compactEntries rest

end

/-! ## Texts that cannot be written -/

mutual

/-- Where the first text that cannot be encoded, of those in a value, cannot be encoded. -/
def unencodable? : Value → Option Text.Unencodable
  | .text s => Text.unencodable? s.toList
  | .list items => unencodableIn? items
  | .tuple items => unencodableIn? items
  | .map entries => unencodableInEntries? entries
  | .marked _ v => unencodable? v
  | _ => none

/-- The same for a row of values. -/
def unencodableIn? : List Value → Option Text.Unencodable
  | [] => none
  | v :: vs => (unencodable? v).or (unencodableIn? vs)

/-- The same for the entries of a map, each key in front of its value. -/
def unencodableInEntries? : List (Value × Value) → Option Text.Unencodable
  | [] => none
  | (k, v) :: rest =>
    (Text.unencodable? (keyText k).toList).or ((unencodable? v).or (unencodableInEntries? rest))

end

/-- The compact spelling of a value, if all of its texts can be encoded. -/
def encode (v : Value) : Except Text.Unencodable String :=
  match unencodable? v with
  | some u => .error u
  | none => .ok (compact v)

end Json

end OpcodeAtlas
