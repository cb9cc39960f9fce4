import OpcodeAtlas.Console.Handler.Term

/-!
# Expressions of handler arguments

The arguments of a handler are an expression, or several with commas in between, which `read` reads
as a term. `fault?` tells what is wrong with a text of arguments: it is no expression, or none that
has a value.

A text is read twice. The first reading finds out whether it is an expression, and comes across few
faults. The second one, of a text that is none, goes over the same ground with the usual mistakes in
mind (`minds`): a comma that is missing, an assignment in the place of a comparison, and the like.
The first of them that it comes across is the fault. A reading never looks further than it has to,
since looking at the end of a text inside of open brackets is a fault of its own.
-/

set_option autoImplicit false

namespace OpcodeAtlas.Handler

/-- What is wrong with arguments. -/
inductive Fault where
  | token (f : TokenFault)
  | text (f : TextFault)
  /-- A whole number has more decimal digits than are read. -/
  | longNumber (digits : Nat)
  /-- Something that has no fault of its own. -/
  | misplaced
  | missingComma
  | mixedTexts
  /-- A value is given to what can have none, in two spellings. -/
  | giving (s : Shape)
  | assigning (s : Shape)
  | assigningName
  | assigningArgument
  | positionalBehindNamed
  | positionalBehindUnpacked
  | starredBehindUnpacked
  | loneStar
  | starredGroup
  | doublyStarredGroup
  | starredEntry
  | missingEntry
  | missingColon
  deriving DecidableEq, Repr

/-- The wording of a fault. -/
def Fault.message : Fault → String
  | .token f => f.message
  | .text f => f.message
  | .longNumber digits =>
    (IntegerFault.tooLong digits).message ++
      " - Consider hexadecimal for huge integer literals to avoid decimal conversion limits."
  | .misplaced => "invalid syntax"
  | .missingComma => "invalid syntax. Perhaps you forgot a comma?"
  | .mixedTexts => "cannot mix bytes and nonbytes literals"
  | .giving s => "cannot use assignment expressions with " ++ s.text
  | .assigning s =>
    "cannot assign to " ++ s.text ++ " here. Maybe you meant '==' instead of '='?"
  | .assigningName => "invalid syntax. Maybe you meant '==' or ':=' instead of '='?"
  | .assigningArgument => "expression cannot contain assignment, perhaps you meant \"==\"?"
  | .positionalBehindNamed => "positional argument follows keyword argument"
  | .positionalBehindUnpacked => "positional argument follows keyword argument unpacking"
  | .starredBehindUnpacked =>
    "iterable argument unpacking follows keyword argument unpacking"
  | .loneStar => "Invalid star expression"
  | .starredGroup => "cannot use starred expression here"
  | .doublyStarredGroup => "cannot use double starred expression here"
  | .starredEntry => "cannot use a starred expression in a dictionary value"
  | .missingEntry => "expression expected after dictionary key and ':'"
  | .missingColon => "':' expected after dictionary key"

/-- What is found at the start of a row of tokens, with the tokens behind it, or none where it is not
there. -/
abbrev Found (α : Type) := Option (α × List Token)

/-- The kind of the next token. Looking at a token that is a fault raises it. -/
def look (ts : List Token) : Except Fault TokenKind :=
  match ts with
  | [] => .ok .last
  | t :: _ =>
    match t.kind with
    | .fault f => .error (.token f)
    | kind => .ok kind

/-- Whether a sign comes next. -/
def sees (s : String) (ts : List Token) : Except Fault Bool := return (← look ts) == .sign s

/-- A sign. -/
def sign (s : String) (ts : List Token) : Except Fault (Found Unit) := do
  return if ← sees s ts then some ((), ts.drop 1) else none

/-- The signs between two operands. -/
def operators : List String :=
  ["+", "-", "*", "/", "//", "%", "@", "<<", ">>", "&", "|", "^", "**"]

/-- The signs that compare two operands. -/
def comparisons : List String := ["==", "!=", "<", ">", "<=", ">="]

/-- The signs of a sum and of a difference. -/
def signsOfSums : List String := ["+", "-"]

/-- The signs in front of an operand. -/
def marks : List String := ["+", "-", "~"]

/-- A quoted text in a row of them. -/
structure RowText where
  isBytes : Bool
  isFormatted : Bool
  checks : List TextCheck

/-- The quoted texts that come next, and what follows them. -/
def textRow : List Token → Except Fault (List RowText × List Token)
  | [] => .ok ([], [])
  | t :: rest => do
    match ← look (t :: rest) with
    | .text isBytes isFormatted checks =>
      let (row, behind) ← textRow rest
      return (⟨isBytes, isFormatted, checks⟩ :: row, behind)
    | _ => return ([], t :: rest)

/-- Raise the first fault of a text. -/
def RowText.check (t : RowText) : Except Fault Unit :=
  match t.checks with
  | .fault f :: _ => .error (.text f)
  | _ => .ok ()

/-- Raise the first fault of texts in a row, which are joined: `areBytes` tells of the one in front.
The content of a formatted text is looked at last. -/
def checkRow (areBytes : Option Bool) : List RowText → Except Fault Unit
  | [] => .ok ()
  | t :: rest => do
    if !t.isFormatted then t.check
    if (areBytes.getD t.isBytes) != t.isBytes then throw .mixedTexts
    if t.isFormatted then t.check
    checkRow (some t.isBytes) rest

/-- Quoted texts in a row. -/
def texts (ts : List Token) : Except Fault (Found Term) := do
  let (row, rest) ← textRow ts
  checkRow none row
  return some (if row.any (·.isFormatted) then .other .formatted else .constant .literal, rest)

/-- How many brackets are open behind the last token in front of `rest`. -/
def levelBefore (ts rest : List Token) : Nat :=
  (((ts.take (ts.length - rest.length)).getLast?).map (·.level)).getD 0

/-- Whether a missing comma behind an expression is no matter of it: it starts with the underscore,
or with a name in front of a quoted text. -/
def hidesComma : List Token → Bool
  | ⟨.name true, _, _⟩ :: _ => true
  | ⟨.name _, _, _⟩ :: ⟨.text .., _, _⟩ :: _ => true
  | _ => false

/-- Things of one kind with commas in between, of which the first is found. -/
def separatedFrom {α : Type} (one : List Token → Except Fault (Found α)) :
    Nat → Found α → Except Fault (Found (List α))
  | _, none => .ok none
  | 0, some (a, rest) => .ok (some ([a], rest))
  | fuel + 1, some (a, rest) => do
    match ← sign "," rest with
    | none => return some ([a], rest)
    | some (_, behind) =>
      match ← separatedFrom one fuel (← one behind) with
      | none => return some ([a], rest)
      | some (more, rest) => return some (a :: more, rest)

/-- Things of one kind with commas in between, at least one. -/
def separated {α : Type} (one : List Token → Except Fault (Found α)) (fuel : Nat)
    (ts : List Token) : Except Fault (Found (List α)) := do
  separatedFrom one fuel (← one ts)

/-- The tokens behind a comma, if there is one. -/
def passComma (ts : List Token) : Except Fault (List Token) :=
  return if ← sees "," ts then ts.drop 1 else ts

/-- An argument of a call: whether it has a name, and whether it is doubly starred. -/
structure Argument where
  isNamed : Bool
  isUnpacked : Bool
  deriving DecidableEq, Repr

mutual

/-- An expression. -/
def expression (minds : Bool) : Nat → List Token → Except Fault (Found Term)
  | 0, _ => .ok none
  | fuel + 1, ts => do expressionFrom minds fuel (← operation minds true fuel ts) ts

/-- An expression whose operands and operators have been found. -/
def expressionFrom (minds : Bool) : Nat → Found Term → List Token → Except Fault (Found Term)
  | 0, _, _ => .ok none
  | fuel + 1, found, ts => do
    if minds then
      let mindsComma := found.isSome && !hidesComma ts
      let rest := (found.map (·.2)).getD ts
      let next ← if mindsComma then operation false true fuel rest else pure none
      if let some (_, behind) := next then
        if levelBefore rest behind ≠ 0 then throw .missingComma
      if let .name _ ← look ts then
        if !(← sees "(" (ts.drop 1)) then
          -- A name may have been meant as a command, so what follows it is looked at, though not
          -- again where this has just been done.
          let isFound := mindsComma && rest.length + 1 == ts.length
          let first ←
            if isFound then expressionFrom minds fuel next rest
            else plainItem minds fuel (ts.drop 1)
          let _ ← separatedFrom (plainItem minds fuel) fuel first
    return found

/-- An expression that may be starred. -/
def plainItem (minds : Bool) : Nat → List Token → Except Fault (Found Term)
  | 0, _ => .ok none
  | fuel + 1, ts => do
    if let some (_, rest) ← sign "*" ts then operation minds false fuel rest
    else expression minds fuel ts

/-- Operands with operators in between, and with comparisons if these are allowed. -/
def operation (minds compares : Bool) : Nat → List Token → Except Fault (Found Term)
  | 0, _ => .ok none
  | fuel + 1, ts => do
    match ← operand minds fuel ts with
    | none => return none
    | some (term, rest) => operationFrom minds compares term fuel rest

/-- What follows an operand. -/
def operationFrom (minds compares : Bool) (term : Term) :
    Nat → List Token → Except Fault (Found Term)
  | 0, _ => .ok none
  | fuel + 1, ts => do
    match ← look ts with
    | .sign s =>
      let isComparison := comparisons.contains s
      if operators.contains s || (isComparison && compares) then
        match ← operand minds fuel (ts.drop 1) with
        | none => return some (term, ts)
        | some (right, rest) =>
          let next :=
            if isComparison || term.shape == .comparison then .other .comparison
            else if signsOfSums.contains s then .sum term right
            else .other .operation
          operationFrom minds compares next fuel rest
      else return some (term, ts)
    | _ => return some (term, ts)

/-- An operand with the signs in front of it. -/
def operand (minds : Bool) : Nat → List Token → Except Fault (Found Term)
  | 0, _ => .ok none
  | fuel + 1, ts => do
    match ← look ts with
    | .sign s =>
      if marks.contains s then
        return (← operand minds fuel (ts.drop 1)).map fun r =>
          (if signsOfSums.contains s then .signed r.1 else .other .operation, r.2)
      else primary minds fuel ts
    | _ => primary minds fuel ts

/-- A value with the attributes and calls behind it. -/
def primary (minds : Bool) : Nat → List Token → Except Fault (Found Term)
  | 0, _ => .ok none
  | fuel + 1, ts => do
    match ← atom minds fuel ts with
    | none => return none
    | some (term, rest) => primaryFrom minds term fuel rest

/-- The attributes and calls behind a value. -/
def primaryFrom (minds : Bool) (term : Term) : Nat → List Token → Except Fault (Found Term)
  | 0, _ => .ok none
  | fuel + 1, ts => do
    match ← look ts with
    | .sign "." =>
      match ← look (ts.drop 1) with
      | .name _ => primaryFrom minds (.other .attribute) fuel (ts.drop 2)
      | _ => return some (term, ts)
    | .sign "(" =>
      match ← arguments minds fuel (ts.drop 1) with
      | some (_, rest) => primaryFrom minds (.other .call) fuel rest
      | none => return some (term, ts)
    | .sign "\x7b" =>
      if minds then
        -- Braces may have been meant as parentheses, so what they hold is looked at.
        let _ ← starred minds fuel (ts.drop 1)
        let _ ← separated (item minds fuel) fuel (ts.drop 1)
      return some (term, ts)
    | _ => return some (term, ts)

/-- A value by itself. -/
def atom (minds : Bool) : Nat → List Token → Except Fault (Found Term)
  | 0, _ => .ok none
  | fuel + 1, ts => do
    let rest := ts.drop 1
    match ← look ts with
    | .name _ => return some (.other .name, rest)
    | .number (.long digits) => throw (.longNumber digits)
    | .number n => return some (.number n, rest)
    | .text .. => texts ts
    | .sign "..." => return some (.constant .ellipsis, rest)
    | .sign "(" => inParentheses minds fuel rest
    | .sign "\x7b" => inBraces minds fuel rest
    | _ => return none

/-- A tuple or an expression in parentheses. -/
def inParentheses (minds : Bool) : Nat → List Token → Except Fault (Found Term)
  | 0, _ => .ok none
  | fuel + 1, ts => do
    if let some (_, rest) ← sign ")" ts then return some (.tuple [], rest)
    let first ← item minds fuel ts
    if let some (term, rest) := first then
      if let some (_, behind) ← sign "," rest then
        let (more, rest) ←
          match ← separated (item minds fuel) fuel behind with
          | some (more, rest) => pure (more, ← passComma rest)
          | none => pure ([], behind)
        if let some (_, rest) ← sign ")" rest then return some (.tuple (term :: more), rest)
      if term.shape != .starred then
        if let some (_, rest) ← sign ")" rest then return some (term.enclosed, rest)
    if minds then
      if let some (_, rest) ← starred minds fuel ts then
        if ← sees ")" rest then throw .starredGroup
      if let some (_, behind) ← sign "**" ts then
        if let some (_, rest) ← expression minds fuel behind then
          if ← sees ")" rest then throw .doublyStarredGroup
    return none

/-- An expression behind a star. -/
def starred (minds : Bool) : Nat → List Token → Except Fault (Found Term)
  | 0, _ => .ok none
  | fuel + 1, ts => do
    match ← sign "*" ts with
    | none => return none
    | some (_, rest) =>
      match ← expression minds fuel rest with
      | some (_, rest) => return some (.other .starred, rest)
      | none => throw .loneStar

/-- An item of a tuple or a set: it may be starred or give a value to a name. -/
def item (minds : Bool) : Nat → List Token → Except Fault (Found Term)
  | 0, _ => .ok none
  | fuel + 1, ts => do
    if ← sees "*" ts then itemFrom minds fuel none ts
    else itemFrom minds fuel (← expression minds fuel ts) ts

/-- An item that is an expression, unless it is starred or gives a value to a name. -/
def itemFrom (minds : Bool) : Nat → Found Term → List Token → Except Fault (Found Term)
  | 0, _, _ => .ok none
  | fuel + 1, found, ts => do
    if let some (_, rest) ← sign "*" ts then
      return (← operation minds false fuel rest).map fun r => (.other .starred, r.2)
    if let .name _ ← look ts then
      if ← sees ":=" (ts.drop 1) then
        return (← expression minds fuel (ts.drop 2)).map fun r => (.other .naming, r.2)
    match found with
    | none => return none
    | some (term, rest) =>
      let shape := term.shape
      let givesValue ← sees ":=" rest
      if minds && givesValue then
        if (← expression minds fuel (rest.drop 1)).isSome then throw (.giving shape)
      if minds && shape ≠ .comparison then
        if ← sees "=" rest then
          if let some (_, behind) ← operation minds false fuel (rest.drop 1) then
            let goesOn := (← sees "=" behind) || (← sees ":=" behind)
            let isName := rest.length + 1 = ts.length && shape = .name
            if !goesOn && isName then throw .assigningName
            if !goesOn && shape ≠ .tuple then throw (.assigning shape)
      return if givesValue then none else some (term, rest)

/-- A map or a set. -/
def inBraces (minds : Bool) : Nat → List Token → Except Fault (Found Term)
  | 0, _ => .ok none
  | fuel + 1, ts => do
    let isStarred := (← sees "*" ts) || (← sees "**" ts)
    let found ← if isStarred then pure none else expression minds fuel ts
    let pairs ← separatedFrom (pair minds fuel) fuel (← pairFrom minds fuel found ts)
    let behind ←
      match pairs with
      | some (_, rest) => passComma rest
      | none => pure ts
    if let some (_, rest) ← sign "\x7d" behind then
      return some (.map ((pairs.map (·.1)).getD []), rest)
    if let some (_, rest) := pairs then
      if let some (_, behind) ← sign "," rest then
        refusePair minds true fuel (← expression minds fuel behind)
    refusePair minds false fuel found
    match ← separatedFrom (item minds fuel) fuel (← itemFrom minds fuel found ts) with
    | some (members, rest) =>
      if let some (_, rest) ← sign "\x7d" (← passComma rest) then return some (.set members, rest)
    | none => pure ()
    if minds then
      let _ ← starred minds fuel ts
    return none

/-- An entry of a map. -/
def pair (minds : Bool) : Nat → List Token → Except Fault (Found (Term × Term))
  | 0, _ => .ok none
  | fuel + 1, ts => do
    if ← sees "**" ts then pairFrom minds fuel none ts
    else pairFrom minds fuel (← expression minds fuel ts) ts

/-- An entry of a map whose key is an expression, unless it is doubly starred. -/
def pairFrom (minds : Bool) : Nat → Found Term → List Token → Except Fault (Found (Term × Term))
  | 0, _, _ => .ok none
  | fuel + 1, found, ts => do
    if let some (_, rest) ← sign "**" ts then
      return (← operation minds false fuel rest).map fun r => ((.noKey, r.1), r.2)
    match found with
    | none => return none
    | some (key, rest) =>
      match ← sign ":" rest with
      | none => return none
      | some (_, rest) => return (← expression minds fuel rest).map fun r => ((key, r.1), r.2)

/-- Refuse what starts an entry of a map with the given key and is none; `needsColon` tells that it
has to be one. -/
def refusePair (minds needsColon : Bool) : Nat → Found Term → Except Fault Unit
  | _, none => .ok ()
  | 0, _ => .ok ()
  | fuel + 1, some (_, rest) => do
    match ← sign ":" rest with
    | none => if needsColon then throw .missingColon
    | some (_, rest) =>
      if let some (_, behind) ← sign "*" rest then
        if (← operation minds false fuel behind).isSome then throw .starredEntry
      if (← sees "\x7d" rest) || (← sees "," rest) then throw .missingEntry

/-- The arguments of a call and the parenthesis behind them. -/
def arguments (minds : Bool) : Nat → List Token → Except Fault (Found Unit)
  | 0, _ => .ok none
  | fuel + 1, ts => do
    let row ← argumentRow minds fuel ts
    let behind ←
      match row with
      | some (_, rest) => passComma rest
      | none => pure ts
    if let some r ← sign ")" behind then return some r
    if minds then
      if let some (row, rest) := row then
        if let some (_, behind) ← sign "," rest then
          if ← sees "*" behind then throw .starredBehindUnpacked
          if (← argumentRow minds fuel behind).isSome then
            throw (if row.any (·.isUnpacked) then .positionalBehindUnpacked
              else .positionalBehindNamed)
    return none

/-- A row of arguments: those without names in front, then those with names, then those that are
doubly starred. -/
def argumentRow (minds : Bool) : Nat → List Token → Except Fault (Found (List Argument))
  | 0, _ => .ok none
  | fuel + 1, ts => do
    match ← separated (positional minds fuel) fuel ts with
    | none => namedRow minds fuel ts
    | some (row, rest) =>
      match ← sign "," rest with
      | none => return some (row, rest)
      | some (_, behind) =>
        match ← namedRow minds fuel behind with
        | none => return some (row, rest)
        | some (more, rest) => return some (row ++ more, rest)

/-- A row of arguments with names, then of doubly starred ones. -/
def namedRow (minds : Bool) : Nat → List Token → Except Fault (Found (List Argument))
  | 0, _ => .ok none
  | fuel + 1, ts => do
    match ← separated (namedArgument minds false fuel) fuel ts with
    | none => separated (namedArgument minds true fuel) fuel ts
    | some (row, rest) =>
      match ← sign "," rest with
      | none => return some (row, rest)
      | some (_, behind) =>
        match ← separated (namedArgument minds true fuel) fuel behind with
        | none => return some (row, rest)
        | some (more, rest) => return some (row ++ more, rest)

/-- An argument without a name. -/
def positional (minds : Bool) : Nat → List Token → Except Fault (Found Argument)
  | 0, _ => .ok none
  | fuel + 1, ts => do
    if let some (_, rest) ← starred minds fuel ts then return some (⟨false, false⟩, rest)
    let found ←
      if (← look ts) matches .name _ then
        if ← sees ":=" (ts.drop 1) then expression minds fuel (ts.drop 2)
        else expression minds fuel ts
      else expression minds fuel ts
    match found with
    | none => return none
    | some (_, rest) =>
      return if (← sees ":=" rest) || (← sees "=" rest) then none
        else some (⟨false, false⟩, rest)

/-- An argument with a name, or a starred one; for `doubly`, doubly starred. -/
def namedArgument (minds doubly : Bool) : Nat → List Token → Except Fault (Found Argument)
  | 0, _ => .ok none
  | fuel + 1, ts => do
    let isNamed ←
      if (← look ts) matches .name _ then sees "=" (ts.drop 1) else pure false
    if minds && !isNamed then
      if let some (_, rest) ← expression minds fuel ts then
        if ← sees "=" rest then throw .assigningArgument
    if isNamed then
      if let some (_, rest) ← expression minds fuel (ts.drop 2) then
        return some (⟨true, false⟩, rest)
    if doubly then
      match ← sign "**" ts with
      | none => return none
      | some (_, rest) =>
        return (← expression minds fuel rest).map fun r => (⟨true, true⟩, r.2)
    else return (← starred minds fuel ts).map fun r => (⟨false, false⟩, r.2)

end

/-- The tokens behind an end of line, if there is one. -/
def passEnds (ts : List Token) : Except Fault (List Token) :=
  return if ← sees "\n" ts then ts.drop 1 else ts

/-- The term that tokens make up: an expression, or several with commas in between. -/
def whole (minds : Bool) (ts : List Token) : Except Fault (Option Term) := do
  let fuel := 16 * (ts.length + 2)
  match ← separated (expression minds fuel) fuel ts with
  | none => return none
  | some (terms, rest) =>
    if (← look (← passEnds (← passComma rest))) != .last then return none
    match terms with
    | [term] => return some (if ← sees "," rest then .tuple [term] else term)
    | _ => return some (.tuple terms)

/-- What the expression of a field says about a fault in it. -/
def Fault.inField : Fault → String
  | .token f => f.message
  | .text (.field wording) => wording
  | f => formattedHead ++ f.message

/-- A token with its fields checked by a reader of expressions. -/
def Token.resolve (read : List Char → Except Fault Term) (t : Token) : Token :=
  match t.kind with
  | .text isBytes isFormatted checks =>
    let checked := checks.filterMap fun check =>
      match check with
      | .fault f => some (.fault f)
      | .expression s =>
        match read (['('] ++ s ++ [')']) with
        | .ok _ => none
        | .error f => some (.fault (.field f.inField))
    { t with kind := .text isBytes isFormatted checked }
  | _ => t

/-- Read tokens: once for the term, and once more for what is wrong with them. -/
def readTokens (ts : List Token) : Except Fault Term := do
  if let some term ← whole false ts then return term
  let _ ← whole true ts
  throw .misplaced

/-- Read a text, in which quoted texts stand inside of each other up to a depth. A text that cannot
be cut into tokens is at fault for that, unless a line of it that can be read is followed by an
indentation. -/
def readWithin : Nat → List Char → Except Fault Term
  | 0, _ => .error .misplaced
  | depth + 1, s =>
    let row := TokenRow.ofText s
    let found := readTokens (row.tokens.map (Token.resolve (readWithin depth)))
    match row.fault?, found with
    | none, _ => found
    | some _, .error (.token .indented) => found
    | some f, _ => .error (.token f)

/-- Read a text of arguments. -/
def read (s : List Char) : Except Fault Term := readWithin (s.length + 1) s

/-! ## Arguments -/

/-- What is wrong with arguments. -/
inductive ArgumentFault where
  /-- They are no expression. -/
  | reading (f : Fault)
  /-- They have no value. -/
  | value (f : ValueFault)
  deriving DecidableEq, Repr

/-- What is wrong with a text of arguments. -/
def fault? (s : List Char) : Option ArgumentFault :=
  match Text.unencodable? s with
  | some u => some (.value (.unencodable u))
  | none =>
    match read s with
    | .error f => some (.reading f)
    | .ok term => term.fault?.map .value

end OpcodeAtlas.Handler
