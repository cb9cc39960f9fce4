import OpcodeAtlas.Console.Emoji.NamesFromA
import OpcodeAtlas.Console.Emoji.NamesFromC
import OpcodeAtlas.Console.Emoji.NamesFromF
import OpcodeAtlas.Console.Emoji.NamesFromG
import OpcodeAtlas.Console.Emoji.NamesFromM
import OpcodeAtlas.Console.Emoji.NamesFromN
import OpcodeAtlas.Console.Emoji.NamesFromQ
import OpcodeAtlas.Console.Emoji.NamesFromT
import OpcodeAtlas.Console.Emoji.NamesFromW
import OpcodeAtlas.Text.Blank
import OpcodeAtlas.Text.LetterCase.Lower

/-!
# Emoji codes

A text for the console may name an emoji between two colons, as `:smile:`. Letter case does not
count in a name, and a name may end in `-text` or `-emoji` to ask for one of the two forms of a
character. `Emoji.replace` puts the emoji in the places of their codes; what has the shape of a
code and names no emoji stays as it is, with both of its colons.
-/

set_option autoImplicit false

namespace OpcodeAtlas.Emoji

/-- The emoji by name. -/
def tables : List (List (String × String)) :=
  [namesFromA, namesFromC, namesFromF, namesFromG, namesFromM, namesFromN, namesFromQ, namesFromT,
    namesFromW]

/-- The emoji of a name in lower case. -/
def ofName? (name : String) : Option String := tables.findSome? fun names => names.lookup name

/-- The endings that ask for a form of an emoji, with the character that selects it. -/
def forms : List (String × Char) := [("-emoji", Char.ofNat 0xfe0f), ("-text", Char.ofNat 0xfe0e)]

/-- The name in a code and the selector that the code asks for. -/
def splitForm (code : List Char) : List Char × List Char :=
  match forms.find? fun form => form.1.toList.isSuffixOf code with
  | some (ending, selector) => (code.take (code.length - ending.length), [selector])
  | none => (code, [])

/-- The emoji of a code. -/
def ofCode? (code : List Char) : Option (List Char) :=
  let (name, selector) := splitForm code
  (ofName? (String.ofList (Text.LetterCase.lower name))).map fun emoji => emoji.toList ++ selector

/-- The code that a text goes on with behind a colon: what stands in front of the next colon,
unless a blank stands there too. -/
def code? (s : List Char) : Option (List Char) :=
  let code := s.takeWhile fun c => c != ':' && !Text.isBlank c
  if (s.drop code.length).head? == some ':' then some code else none

/-- What a code is shown as. -/
def shownCode (code : List Char) : List Char := (ofCode? code).getD (':' :: code ++ [':'])

/-- Replace the codes of a text, of which the first `skip` characters are passed over. -/
def replaceFrom (skip : Nat) : List Char → List Char
  | [] => []
  | c :: rest =>
    match skip with
    | n + 1 => replaceFrom n rest
    | 0 =>
      match (if c = ':' then code? rest else none) with
      | some code => shownCode code ++ replaceFrom (code.length + 1) rest
      | none => c :: replaceFrom 0 rest

/-- Replace the codes of a text. -/
def replace (s : List Char) : List Char := replaceFrom 0 s

end OpcodeAtlas.Emoji
