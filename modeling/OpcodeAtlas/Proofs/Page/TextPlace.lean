import OpcodeAtlas.Proofs.Page.Replacement

/-!
# Places for texts

The places where a header has texts: the texts of a record and the items of its rows of texts, those
of its parameters and their values, and the lines of its examples. A place is reached by some steps
(`Record.TextPlace.steps`), a record has a text there or not (`Record.TextPlace.get?`), and it can
have another one there (`Record.TextPlace.set`).
-/

set_option autoImplicit false

namespace OpcodeAtlas

namespace ParameterValue

/-- The texts of a parameter value. -/
inductive TextPart where
  | tag
  | type
  deriving DecidableEq, Repr

namespace TextPart

/-- The step to a text. -/
def step : TextPart → PlaceStep
  | .tag => .field "tag"
  | .type => .type

/-- The text, if there is one. -/
def get? : TextPart → ParameterValue → Option String
  | .tag, a => a.tag
  | .type, a => a.type

/-- A parameter value with another text. -/
def set : TextPart → String → ParameterValue → ParameterValue
  | .tag, s, a => { a with tag := some s }
  | .type, s, a => { a with type := some s }

theorem get?_set (part : TextPart) (s : String) (a : ParameterValue) :
    part.get? (part.set s a) = some s := by
  cases part <;> rfl

end TextPart

end ParameterValue

namespace Parameter

/-- The texts of a parameter. -/
inductive TextPart where
  | tag
  | since
  | requires
  | description
  deriving DecidableEq, Repr

namespace TextPart

/-- The key of a text. -/
def name : TextPart → String
  | .tag => "tag"
  | .since => "since"
  | .requires => "requires"
  | .description => "description"

/-- The text, if there is one. -/
def get? : TextPart → Parameter → Option String
  | .tag, p => some p.tag
  | .since, p => p.since
  | .requires, p => p.requires
  | .description, p => p.description

/-- A parameter with another text. -/
def set : TextPart → String → Parameter → Parameter
  | .tag, s, p => { p with tag := s }
  | .since, s, p => { p with since := some s }
  | .requires, s, p => { p with requires := some s }
  | .description, s, p => { p with description := some s }

theorem get?_set (part : TextPart) (s : String) (p : Parameter) :
    part.get? (part.set s p) = some s := by
  cases part <;> rfl

end TextPart

end Parameter

namespace Example

/-- The rows of texts of an example. -/
inductive Listing where
  | pre
  | code
  | post
  deriving DecidableEq, Repr

namespace Listing

/-- The key of a row. -/
def name : Listing → String
  | .pre => "pre"
  | .code => "code"
  | .post => "post"

/-- The row, if there is one. -/
def get? : Listing → Example → Option (List String)
  | .pre, e => e.pre
  | .code, e => e.code
  | .post, e => e.post

/-- An example with another text in a row. -/
def set (j : Nat) (s : String) : Listing → Example → Example
  | .pre, e => { e with pre := e.pre.map (·.set j s) }
  | .code, e => { e with code := e.code.map (·.set j s) }
  | .post, e => { e with post := e.post.map (·.set j s) }

theorem get?_set (listing : Listing) (j : Nat) (s : String) (e : Example) :
    listing.get? (listing.set j s e) = (listing.get? e).map (·.set j s) := by
  cases listing <;> rfl

end Listing

end Example

namespace Record

/-- The texts that a record has of its own. -/
inductive TextPart where
  | tag
  | title
  | brief
  | author
  | since
  | requires
  deriving DecidableEq, Repr

namespace TextPart

/-- The key of a text. -/
def name : TextPart → String
  | .tag => "tag"
  | .title => "title"
  | .brief => "brief"
  | .author => "author"
  | .since => "since"
  | .requires => "requires"

/-- The text, if there is one. -/
def get? : TextPart → Record → Option String
  | .tag, r => some r.tag
  | .title, r => some r.title
  | .brief, r => some r.brief
  | .author, r => r.author
  | .since, r => r.since
  | .requires, r => r.requires

/-- A record with another text. -/
def set (s : String) : TextPart → Record → Record
  | .tag, r => { r with tag := s }
  | .title, r => { r with title := s }
  | .brief, r => { r with brief := s }
  | .author, r => { r with author := some s }
  | .since, r => { r with since := some s }
  | .requires, r => { r with requires := some s }

theorem get?_set (part : TextPart) (s : String) (r : Record) :
    part.get? (part.set s r) = some s := by
  cases part <;> rfl

end TextPart

/-- The rows of texts of a record. -/
inductive TextRow where
  | videos
  | group
  | notes
  deriving DecidableEq, Repr

namespace TextRow

/-- The key of a row. -/
def name : TextRow → String
  | .videos => "videos"
  | .group => "group"
  | .notes => "notes"

/-- The row, if there is one. -/
def get? : TextRow → Record → Option (List String)
  | .videos, r => r.videos
  | .group, r => r.group
  | .notes, r => r.notes

/-- A record with another text in a row. -/
def set (i : Nat) (s : String) : TextRow → Record → Record
  | .videos, r => { r with videos := r.videos.map (·.set i s) }
  | .group, r => { r with group := r.group.map (·.set i s) }
  | .notes, r => { r with notes := r.notes.map (·.set i s) }

theorem get?_set (row : TextRow) (i : Nat) (s : String) (r : Record) :
    row.get? (row.set i s r) = (row.get? r).map (·.set i s) := by
  cases row <;> rfl

end TextRow

/-- The places of a record that have texts, its codes apart. -/
inductive TextPlace where
  | own (part : TextPart)
  | item (row : TextRow) (i : Nat)
  | parameter (i : Nat) (part : Parameter.TextPart)
  | value (i j : Nat) (part : ParameterValue.TextPart)
  | line (i : Nat) (listing : Example.Listing) (j : Nat)
  deriving DecidableEq, Repr

namespace TextPlace

/-- The steps from a header to a place. -/
def steps : TextPlace → List PlaceStep
  | .own part => [.field part.name]
  | .item row i => [.field row.name, .part i]
  | .parameter i part => [.field "parameters", .part i, .field part.name]
  | .value i j part => [.field "parameters", .part i, .field "values", .part j, part.step]
  | .line i listing j => [.field "examples", .part i, .field listing.name, .part j]

/-- The text at a place, if there is one. -/
def get? : TextPlace → Record → Option String
  | .own part, r => part.get? r
  | .item row i, r => (row.get? r).bind (·[i]?)
  | .parameter i part, r => r.parameters.bind (·[i]?.bind part.get?)
  | .value i j part, r =>
    r.parameters.bind (·[i]?.bind fun p => p.values.bind (·[j]?.bind part.get?))
  | .line i listing j, r =>
    r.examples.bind (·[i]?.bind fun e => (listing.get? e).bind (·[j]?))

/-- A record with another text at a place. -/
def set (s : String) : TextPlace → Record → Record
  | .own part, r => part.set s r
  | .item row i, r => row.set i s r
  | .parameter i part, r => { r with parameters := r.parameters.map (·.modify i (part.set s)) }
  | .value i j part, r =>
    { r with
      parameters := r.parameters.map (·.modify i fun p =>
        { p with values := p.values.map (·.modify j (part.set s)) }) }
  | .line i listing j, r =>
    { r with examples := r.examples.map (·.modify i (listing.set j s)) }

section
variable {α : Type} {get? : α → Option String} {i : Nat} {s : String}

theorem bind_getElem?_modify {o : Option (List α)} {u : α → α}
    (hu : ∀ a, (get? a).isSome → get? (u a) = some s)
    (hsome : (o.bind (·[i]?.bind get?)).isSome) :
    (o.map (·.modify i u)).bind (·[i]?.bind get?) = some s := by
  obtain ⟨t, ht⟩ := Option.isSome_iff_exists.1 hsome
  obtain ⟨l, rfl, hitem⟩ := Option.bind_eq_some_iff.1 ht
  obtain ⟨a, ha, hget⟩ := Option.bind_eq_some_iff.1 hitem
  rw [Option.map_some, Option.bind_some, List.getElem?_modify_eq, ha]
  exact hu a (Option.isSome_of_eq_some hget)

theorem bind_getElem?_set {o : Option (List String)} (hsome : (o.bind (·[i]?)).isSome) :
    (o.map (·.set i s)).bind (·[i]?) = some s := by
  obtain ⟨t, ht⟩ := Option.isSome_iff_exists.1 hsome
  obtain ⟨l, rfl, hitem⟩ := Option.bind_eq_some_iff.1 ht
  exact List.getElem?_set_self (List.getElem?_eq_some_iff.1 hitem).1

end

/-- A text that is put where one was is there. -/
theorem get?_set {place : TextPlace} {r : Record} (hsome : (place.get? r).isSome) (s : String) :
    place.get? (place.set s r) = some s := by
  cases place with
  | own part => exact part.get?_set s r
  | item row i =>
      rw [get?, set, row.get?_set]
      exact bind_getElem?_set hsome
  | parameter i part => exact bind_getElem?_modify (fun p _ => part.get?_set s p) hsome
  | value i j part =>
      refine bind_getElem?_modify (fun p hvalues => ?_) hsome
      exact bind_getElem?_modify (fun a _ => part.get?_set s a) hvalues
  | line i listing j =>
      refine bind_getElem?_modify (fun e hlines => ?_) hsome
      rw [listing.get?_set]
      exact bind_getElem?_set hlines

end TextPlace

end Record

end OpcodeAtlas
