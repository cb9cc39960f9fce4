import OpcodeAtlas.Console.Emoji
import OpcodeAtlas.Console.Handler.Expression
import OpcodeAtlas.Console.Style

/-!
# Markup

Text for the console may hold tags in brackets, which style what follows them. A backslash in front
of a tag takes it as text; more backslashes there stand for half as many. `Markup.plain` is what is
left of a text when its tags are taken away, and `Markup.escape` writes a text so that it holds no
tags. Both look at a text as a row of characters and tags (`Markup.tokens`). A tag that closes
another one must find it open, and the arguments of a handler must have a value, which
`Markup.fault?` looks into.
-/

set_option autoImplicit false

namespace OpcodeAtlas.Markup

/-- A part of a text. -/
inductive Token where
  | char (c : Char)
  /-- A tag, with the number of backslashes in front of it. -/
  | tag (slashes : Nat) (content : List Char)
  deriving DecidableEq, Repr

/-- Whether a character may start the content of a tag. -/
def startsTag (c : Char) : Bool :=
  (decide (97 ≤ c.toNat) && decide (c.toNat ≤ 122)) || c == '#' || c == '/' || c == '@'

/-- Whether a character ends the content of a tag or shows that there is none. -/
def isBracket (c : Char) : Bool := c == '[' || c == ']'

/-- The content of the tag that a text goes on with behind an opening bracket. -/
def content? (s : List Char) : Option (List Char) :=
  match s with
  | [] => none
  | c :: rest =>
    let more := rest.takeWhile (!isBracket ·)
    if startsTag c && (rest.drop more.length).head? == some ']' then some (c :: more) else none

/-- Some backslashes. -/
def slashTokens (n : Nat) : List Token := List.replicate n (.char '\\')

/-- The tokens of a text that follows `slashes` backslashes; behind a tag, `skip` characters of it
are passed over. -/
def tokensFrom (skip slashes : Nat) : List Char → List Token
  | [] => slashTokens slashes
  | c :: rest =>
    match skip with
    | n + 1 => tokensFrom n 0 rest
    | 0 =>
      -- Backslashes are counted until it is known whether a tag follows them.
      if c = '\\' then tokensFrom 0 (slashes + 1) rest
      else
        match (if c = '[' then content? rest else none) with
        | some content => .tag slashes content :: tokensFrom (content.length + 1) 0 rest
        | none => slashTokens slashes ++ .char c :: tokensFrom 0 0 rest

/-- The tokens of a text. -/
def tokens (s : List Char) : List Token := tokensFrom 0 0 s

/-- The text of a tag. -/
def tagText (content : List Char) : List Char := '[' :: content ++ [']']

/-! ## Escaping -/

/-- A token with its tag taken as text. -/
def escapeToken : Token → List Char
  | .char c => [c]
  | .tag slashes content => List.replicate (2 * slashes + 1) '\\' ++ tagText content

/-- Double a backslash that ends a text, unless another one is in front of it. -/
def closeSlash (s : List Char) : List Char :=
  match s.reverse with
  | '\\' :: '\\' :: _ => s
  | '\\' :: _ => s ++ ['\\']
  | _ => s

/-- A text that holds no tags and shows the given one. -/
def escape (s : String) : String :=
  String.ofList (closeSlash ((tokens s.toList).flatMap escapeToken))

/-! ## Pieces -/

/-- What a text is made of: pieces of text, and the tags between them with their positions. -/
inductive Piece where
  | text (s : List Char)
  | tag (position : Nat) (content : List Char)
  deriving DecidableEq, Repr

/-- A piece of text, unless it is empty. -/
def textPiece (s : List Char) : List Piece := if s.isEmpty then [] else [.text s]

/-- The pieces of tokens that stand at a position and follow some text, given last character
first. -/
def piecesFrom (position : Nat) (before : List Char) : List Token → List Piece
  | [] => textPiece before.reverse
  | .char c :: rest => piecesFrom (position + 1) (c :: before) rest
  | .tag slashes content :: rest =>
    let doubled := slashes / 2
    textPiece before.reverse ++ textPiece (List.replicate doubled '\\') ++
      (if slashes % 2 = 1 then .text (tagText content) else .tag (position + 2 * doubled) content) ::
        piecesFrom (position + slashes + (tagText content).length) [] rest

/-- The pieces of a text. -/
def pieces (s : List Char) : List Piece := piecesFrom 0 [] (tokens s)

/-! ## Taking tags away -/

/-- A text without the backslashes in front of opening brackets. -/
def unescape : List Char → List Char
  | [] => []
  | c :: rest =>
    if c = '\\' && rest.head? == some '[' then unescape rest else c :: unescape rest

/-- The controls that the console does not show: bell, backspace, vertical tab, form feed and
carriage return. -/
def hiddenControls : List Nat := [7, 8, 11, 12, 13]

/-- A text without the controls that the console does not show. -/
def dropControls (s : List Char) : List Char := s.filter fun c => !hiddenControls.contains c.toNat

/-- What the console shows of a piece. -/
def Piece.shown : Piece → List Char
  | .text s => dropControls (Emoji.replace (unescape s))
  | .tag _ _ => []

/-- A text as the console shows it, tags aside. -/
def plain (s : String) : String := String.ofList ((pieces s.toList).flatMap Piece.shown)

/-- A text without tags as the console shows it. -/
def shown (s : String) : String := String.ofList (dropControls s.toList)

/-! ## Checking tags -/

/-- Why the tags of a text cannot be used. -/
inductive Fault where
  /-- A closing tag for any tag where none is open. -/
  | nothingToClose (position : Nat)
  /-- A closing tag that fits no open one, as it is written. -/
  | unmatched (tag : String) (position : Nat)
  /-- A component of a colour that is no number. -/
  | component (f : IntegerFault)
  /-- Arguments of a handler that are at fault, and the parameters that they are taken from. -/
  | arguments (taken parameters : String) (f : Handler.ArgumentFault)
  deriving DecidableEq, Repr

/-- The wording of a fault. -/
def Fault.message : Fault → String
  | .nothingToClose position =>
    "closing tag '[/]' at position " ++ toString position ++ " has nothing to close"
  | .unmatched tag position =>
    "closing tag '" ++ tag ++ "' at position " ++ toString position ++
      " doesn't match any open tag"
  | .component f => f.message
  | .arguments taken parameters (.reading f) =>
    "error parsing " ++ Text.quotedString taken ++ " in " ++ Text.quotedString parameters ++ "; " ++
      f.message
  | .arguments _ parameters (.value f) =>
    "error parsing " ++ Text.quotedString parameters ++ "; " ++ f.message

/-- The name in a tag and the parameters behind its equals sign. -/
def splitTag (content : List Char) : List Char × Option (List Char) :=
  let name := content.takeWhile (· != '=')
  match content.drop name.length with
  | [] => (name, none)
  | _ :: parameters => (name, some parameters)

/-- An open tag: the style that it asks for, in its normal form, and its parameters. -/
structure OpenTag where
  style : String
  parameters : Option (List Char)
  deriving DecidableEq, Repr

/-- The normal form of a style. -/
def normalStyle (s : List Char) : Except Fault String :=
  match Style.normal s with
  | .ok style => .ok style
  | .error f => .error (.component f)

/-- The tag that a closing tag closes, and those that stay open; the tag opened last is in front. -/
def closed (position : Nat) (content name : List Char) (opened : List OpenTag) :
    Except Fault (OpenTag × List OpenTag) :=
  if name.isEmpty then
    match opened with
    | [] => .error (.nothingToClose position)
    | tag :: rest => .ok (tag, rest)
  else
    match normalStyle name with
    | .error f => .error f
    | .ok style =>
      match opened.find? (·.style == style) with
      | some tag => .ok (tag, opened.eraseP (·.style == style))
      | none => .error (.unmatched (String.ofList (tagText content)) position)

/-- The arguments in the parameters of a handler, which may follow its name; a name alone has
none. -/
def argumentsIn (parameters : List Char) : List Char :=
  let s := Text.trim parameters
  let rest := s.dropWhile fun c =>
    c == '.' || Text.isWordCharacter c
  let isClosed := rest.head? == some '(' && rest.getLast? == some ')' && !rest.contains '\n'
  if rest.isEmpty then ['(', ')'] else if isClosed then rest else s

/-- Check the parameters of a tag that calls a handler, now that it is closed. -/
def checkHandler (tag : OpenTag) : Except Fault Unit :=
  match tag.style.toList.head?, tag.parameters with
  | some '@', some (c :: rest) =>
    let taken := argumentsIn (c :: rest)
    match Handler.fault? taken with
    | some f => .error (.arguments (String.ofList taken) (String.ofList (c :: rest)) f)
    | none => .ok ()
  | _, _ => .ok ()

/-- The open tags behind a closing tag. -/
def closeTag (position : Nat) (content name : List Char) (opened : List OpenTag) :
    Except Fault (List OpenTag) :=
  match closed position content name opened with
  | .error f => .error f
  | .ok (tag, rest) => (checkHandler tag).map fun _ => rest

/-- The open tags behind a tag. -/
def passTag (position : Nat) (content : List Char) (opened : List OpenTag) :
    Except Fault (List OpenTag) :=
  match splitTag content with
  | ('/' :: name, _) => closeTag position content (Text.trim name) opened
  | (name, parameters) =>
    match normalStyle name with
    | .error f => .error f
    | .ok style => .ok (⟨style, parameters⟩ :: opened)

/-- What is wrong with the tags of pieces that follow open tags. -/
def faultFrom? (opened : List OpenTag) : List Piece → Option Fault
  | [] => none
  | .text _ :: rest => faultFrom? opened rest
  | .tag position content :: rest =>
    match passTag position content opened with
    | .ok now => faultFrom? now rest
    | .error f => some f

/-- What is wrong with the tags of a text. -/
def fault? (s : String) : Option Fault := faultFrom? [] (pieces s.toList)

end OpcodeAtlas.Markup
