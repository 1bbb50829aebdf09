import Schemata.Json.Basic

/-!
# Parts of JSON values

Readers that pick typed parts out of a JSON value.  A record may be given by the names of its
parts or as an array of them, and a kind by its name or its number.

## Main definitions

* `Json.Body` : a record inside a value.
* `Json.tagged?` : the kind of a tagged record with its other parts.
* `Json.text?`, `Json.flag?`, `Json.list?`, `Json.double?`, `Json.nullable?` : typed parts.
-/

namespace Schemata

namespace Json

/-- The parts of a record inside a value: by name, or in order. -/
inductive Body
  | members (members : List (String × Json))
  | items (items : List Json)

/-- The part called `name`, the `place`-th of the record; refused when it comes twice. -/
def Body.part (body : Body) (name : String) (place : Nat) : Option (Option Json) :=
  match body with
  | .members entries =>
    match entries.filter (·.1 = name) with
    | [] => some none
    | [(_, value)] => some (some value)
    | _ => none
  | .items values => some values[place]?

/-- Are there no more items than names? -/
def Body.fits (body : Body) (names : List String) : Bool :=
  match body with
  | .members _ => true
  | .items values => values.length ≤ names.length

/-- The parts of a record in order, one for each name. -/
def Body.parts (body : Body) (names : List String) : Option (List (Option Json)) :=
  if body.fits names then (names.zipIdx).mapM fun (name, place) => body.part name place
  else none

/-- A record inside a value. -/
def body? : Json → Option Body
  | .object members => some (.members members)
  | .array items => some (.items items)
  | _ => none

/-- The text of a value. -/
def text? : Json → Option String
  | .string text => some text
  | _ => none

/-- The truth value of a value. -/
def flag? : Json → Option Bool
  | .bool b => some b
  | _ => none

/-- The items of a value, each read by `read`. -/
def list? {α : Type} (read : Json → Option α) : Json → Option (List α)
  | .array items => items.mapM read
  | _ => none

/-- The number of a value. -/
def double? : Json → Option Double
  | .int n => some (Double.ofInt n)
  | .float d => some d
  | _ => none

/-- A value that may be null. -/
def nullable? {α : Type} (read : Json → Option α) : Json → Option (Option α)
  | .null => some none
  | value => (read value).map some

/-- The name that a tag stands for: one of `tags`, or its number in that list. -/
def tag? (tags : List String) : Json → Option String
  | .string text => if text ∈ tags then some text else none
  | .int n => if n < 0 then none else tags[n.toNat]?
  | _ => none

/-- The tag of a tagged record and its other parts.  The tag is the member `name`, which stands
there once, or the first item. -/
def tagged? (name : String) (tags : List String) : Json → Option (String × Body)
  | .object members =>
    match members.filter (·.1 = name) with
    | [(_, value)] => do
      let tag ← tag? tags value
      return (tag, .members (members.filter (·.1 ≠ name)))
    | _ => none
  | .array (first :: rest) => do
    let tag ← tag? tags first
    return (tag, .items rest)
  | _ => none

/-- A part that may be left out. -/
def optionalPart {α : Type} (read : Json → Option α) (default : α) : Option Json → Option α
  | none => some default
  | some value => read value

/-- A part that has to be there. -/
def requiredPart {α : Type} (read : Json → Option α) : Option Json → Option α
  | none => none
  | some value => read value

/-- A name out of a list, given as a text or as an object with that one member and nothing in
it. -/
def choice? (names : List String) : Json → Option String
  | .string text => if text ∈ names then some text else none
  | .object [(name, .null)] => if name ∈ names then some name else none
  | .object [(name, .object [])] => if name ∈ names then some name else none
  | _ => none

/-- A value under its name. -/
def variant (name : String) (value : Json) : Json :=
  .object [(name, value)]

/-- The name and the contents of a variant; a bare name has no contents. -/
def variant? : Json → Option (String × Option Json)
  | .string name => some (name, none)
  | .object [(name, value)] => some (name, some value)
  | _ => none

/-- A variant without contents: nothing, or null. -/
def unit? : Option Json → Option Unit
  | none => some ()
  | some .null => some ()
  | _ => none

/-- Reads the members of an object by name. -/
def membersOf (names : List String) : Json → Option (List (Option Json))
  | .object members => (Body.members members).parts names
  | _ => none

end Json

end Schemata
