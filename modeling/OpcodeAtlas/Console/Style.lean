import OpcodeAtlas.Console.Color
import OpcodeAtlas.Text.Blank

/-!
# Styles

A style of the console is written as words: attributes, each of which may be taken back by a
`not`, a colour, a colour behind `on`, and an address behind `link`. Styles that do the same are
written in the same way in the end (`Style.normal`): the attributes come in a fixed order, then the
two colours, then the address. What cannot be read as a style stands for itself, in lower case.
-/

set_option autoImplicit false

namespace OpcodeAtlas

/-- What a text is shown in. -/
structure Style where
  /-- The attributes that are set or taken back, the last word on each in front. -/
  attributes : List (String × Bool) := []
  color : Option String := none
  background : Option String := none
  link : Option String := none
  deriving DecidableEq, Repr

namespace Style

/-- The attributes, in the order in which a style tells them. -/
def attributeNames : List String :=
  ["bold", "dim", "italic", "underline", "blink", "blink2", "reverse", "conceal", "strike",
    "underline2", "frame", "encircle", "overline"]

/-- The short words for attributes. -/
def shortNames : List (String × String) :=
  [("d", "dim"), ("b", "bold"), ("i", "italic"), ("u", "underline"), ("r", "reverse"),
    ("c", "conceal"), ("s", "strike"), ("uu", "underline2"), ("o", "overline")]

/-- The attribute that a word names. -/
def attribute? (word : String) : Option String :=
  if attributeNames.contains word then some word else shortNames.lookup word

/-- The words of a text. -/
def words : List Char → List (List Char)
  | [] => []
  | c :: rest =>
    if Text.isBlank c then words rest
    else
      match rest with
      | [] => [[c]]
      | next :: _ =>
        if Text.isBlank next then [c] :: words rest
        else
          match words rest with
          | [] => [[c]]
          | word :: more => (c :: word) :: more

/-- Set the colour that a word writes, or the background. -/
def withColor (s : Style) (behind : Bool) (word : List Char) :
    Except IntegerFault (Option Style) := do
  return (← Color.ofWord word).map fun name =>
    if behind then { s with background := some name } else { s with color := some name }

/-- Set an attribute or take it back. -/
def withAttribute (s : Style) (isSet : Bool) (word : String) : Option Style :=
  (attribute? word).map fun name => { s with attributes := (name, isSet) :: s.attributes }

/-- What a word of a style stands in front of. -/
inductive Pending where
  | nothing
  | background
  | denial
  | link
  deriving DecidableEq, Repr

/-- What the words `on`, `not` and `link` stand in front of. -/
def pending? (word : String) : Option Pending :=
  [("on", Pending.background), ("not", .denial), ("link", .link)].lookup word

/-- Read a word that no other word stands in front of. -/
def withWord (s : Style) (word : List Char) : Except IntegerFault (Option Style) :=
  match s.withAttribute true (String.ofList (Text.LetterCase.lower word)) with
  | some t => .ok (some t)
  | none => s.withColor false word

/-- Read a word behind one that needs it. -/
def withNeeded (s : Style) (word : List Char) :
    Pending → Except IntegerFault (Option Style)
  | .nothing => s.withWord word
  | .background => s.withColor true word
  | .denial => .ok (s.withAttribute false (String.ofList word))
  | .link => .ok (some { s with link := some (String.ofList word) })

/-- Read the words of a style behind those that are read; there is no style if a word fits
nothing. -/
def ofWords (s : Style) : Pending → List (List Char) → Except IntegerFault (Option Style)
  | .nothing, [] => .ok (some s)
  | _, [] => .ok none
  | pending, word :: rest =>
    match pending, pending? (String.ofList (Text.LetterCase.lower word)) with
    | .nothing, some next => ofWords s next rest
    | _, _ =>
      match s.withNeeded word pending with
      | .ok (some t) => ofWords t .nothing rest
      | refused => refused

/-- The words that write a style. -/
def parts (s : Style) : List String :=
  (attributeNames.filterMap fun name =>
    (s.attributes.lookup name).map fun isSet => if isSet then name else "not " ++ name) ++
  s.color.toList ++ (s.background.map ("on " ++ ·)).toList ++ (s.link.map ("link " ++ ·)).toList

/-- The writing of a style. -/
def text (s : Style) : String :=
  match s.parts with
  | [] => "none"
  | parts => " ".intercalate parts

/-- The form in which styles that do the same are the same. -/
def normal (s : List Char) : Except IntegerFault String := do
  match ← ofWords {} .nothing (words s) with
  | some style => return style.text
  | none => return String.ofList (Text.LetterCase.lower (Text.trim s))

end Style

end OpcodeAtlas
