/-!
# Options of a command line

The words of a command line are options and operands. An option is known by a long name behind two
hyphens or by one letter behind a single hyphen, may take a value, and may stand anywhere in front
of a lone double hyphen; a value follows in the same word (behind an equals sign, or at once behind
a letter) or as the next word, whatever it looks like.
-/

set_option autoImplicit false

namespace OpcodeAtlas

/-- The options of all commands. -/
inductive OptionName where
  | help
  | docsDirectory
  | config
  | limit
  | duplicatePolicy
  | workers
  | logLevel
  | logFormat
  | showBody
  | hideBody
  | strict
  deriving DecidableEq, Repr

namespace OptionName

/-- The long name of an option. -/
def long : OptionName → String
  | .help => "--help"
  | .docsDirectory => "--docs-dir"
  | .config => "--config"
  | .limit => "--limit"
  | .duplicatePolicy => "--duplicate-policy"
  | .workers => "--workers"
  | .logLevel => "--log-level"
  | .logFormat => "--log-format"
  | .showBody => "--body"
  | .hideBody => "--no-body"
  | .strict => "--strict"

/-- The letter of an option. -/
def letter? : OptionName → Option Char
  | .docsDirectory => some 'd'
  | .config => some 'c'
  | .limit => some 'n'
  | _ => none

/-- Whether an option takes a value. -/
def takesValue : OptionName → Bool
  | .help => false
  | .showBody => false
  | .hideBody => false
  | .strict => false
  | _ => true

end OptionName

/-- An option with its value, empty for one that takes none. -/
abbrev SetOption := OptionName × String

/-- What one word sets: options, and possibly one that waits for its value. -/
structure OptionWord where
  options : List SetOption
  waiting : Option OptionName
  deriving DecidableEq, Repr

namespace OptionWord

/-- Cut a word at its first equals sign. -/
def splitValue (word : List Char) : List Char × Option (List Char) :=
  let name := word.takeWhile (· ≠ '=')
  match word.drop name.length with
  | [] => (name, none)
  | _ :: value => (name, some value)

/-- Read a long name, with or without a value. -/
def ofLong? (known : List OptionName) (word : List Char) : Option OptionWord :=
  let (name, value) := splitValue word
  match known.find? fun o => o.long.toList == name with
  | none => none
  | some o =>
    match o.takesValue, value with
    | true, some v => some ⟨[(o, String.ofList v)], none⟩
    | true, none => some ⟨[], some o⟩
    | false, none => some ⟨[(o, "")], none⟩
    | false, some _ => none

/-- Read letters; the first one that takes a value takes what follows it. -/
def ofLetters? (known : List OptionName) : List Char → Option OptionWord
  | [] => some ⟨[], none⟩
  | c :: rest =>
    match known.find? fun o => o.letter? == some c with
    | none => none
    | some o =>
      if o.takesValue then
        if rest.isEmpty then some ⟨[], some o⟩ else some ⟨[(o, String.ofList rest)], none⟩
      else (ofLetters? known rest).map fun w => { w with options := (o, "") :: w.options }

/-- Read a word that starts with a hyphen. -/
def ofWord? (known : List OptionName) (word : String) : Option OptionWord :=
  match word.toList with
  | '-' :: '-' :: _ => ofLong? known word.toList
  | '-' :: letters => ofLetters? known letters
  | _ => none

/-- Whether a word sets options: it starts with a hyphen and is more than that. -/
def isOption (word : String) : Bool :=
  match word.toList with
  | '-' :: _ :: _ => true
  | _ => false

end OptionWord

/-- The options and operands of a command. -/
structure CommandWords where
  options : List SetOption
  operands : List String
  deriving DecidableEq, Repr

namespace CommandWords

/-- Add options in front. -/
def withOptions (new : List SetOption) (w : CommandWords) : CommandWords :=
  { w with options := new ++ w.options }

/-- Add an operand in front. -/
def withOperand (new : String) (w : CommandWords) : CommandWords :=
  { w with operands := new :: w.operands }

/-- Tell the options of some words from the operands. -/
def ofWords? (known : List OptionName) : List String → Option CommandWords
  | [] => some ⟨[], []⟩
  | word :: rest =>
    if word = "--" then some ⟨[], rest⟩
    else if OptionWord.isOption word then
      match OptionWord.ofWord? known word with
      | none => none
      | some ⟨options, none⟩ => (ofWords? known rest).map (withOptions options)
      | some ⟨options, some waiting⟩ =>
        -- The next word is the value, even if it looks like an option.
        match rest with
        | [] => none
        | value :: rest => (ofWords? known rest).map (withOptions (options ++ [(waiting, value)]))
    else (ofWords? known rest).map (withOperand word)

/-- Whether an option is set. -/
def has (w : CommandWords) (o : OptionName) : Bool := w.options.any (·.1 == o)

/-- The value of an option, the last one if it is set several times. -/
def value? (w : CommandWords) (o : OptionName) : Option String :=
  (w.options.reverse.find? (·.1 == o)).map (·.2)

end CommandWords

end OpcodeAtlas
