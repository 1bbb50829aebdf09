import Schemata.Document.Basic
import Schemata.Json.Parts
import Schemata.Json.Read

/-!
# Reading documents

Documents and their declarations are read straight from the text.  A type expression is first
taken as a value together with the name of its kind; its parts are then picked out of that value.
Records may be given as arrays of their fields, and kinds inside a value by their number.

## Main definitions

* `Document.read` : the document that a text spells.
-/

namespace Schemata

open Json (Body optionalPart requiredPart)

/-- The kinds of type expressions, in order. -/
def SourceType.kinds : List String :=
  Primitive.all.map Primitive.name ++
    ["literal", "array", "tuple", "object", "union", "intersection", "generic", "param", "mapped",
      "ref", "function", "refined", "unsupported"]

/-- The kinds of transforms, in order. -/
def SourceTransform.kinds : List String :=
  ["partial", "required", "pick", "omit", "record", "readonly", "per_key"]

/-- The kinds of per-key values, in order. -/
def SourcePerKey.kinds : List String :=
  ["optional", "nullable", "array", "readonly", "replace"]

/-- The function kind of a name. -/
def FunctionKind.ofName? (name : String) : Option FunctionKind :=
  FunctionKind.all.find? (·.name = name)

/-- The declaration kind of a name. -/
def DeclarationKind.ofName? (name : String) : Option DeclarationKind :=
  DeclarationKind.all.find? (·.name = name)

/-- The built-in type of a name. -/
def Primitive.ofName? (name : String) : Option Primitive :=
  Primitive.all.find? (·.name = name)

section Parts

variable (read : Json → Option SourceType)

/-- A field, its type read by `read`. -/
def SourceField.ofJson? (value : Json) : Option SourceField := do
  let body ← value.body?
  match ← body.parts ["name", "optional", "readonly", "type"] with
  | [name, optional, readonly, type] =>
    return .mk (← requiredPart Json.text? name) (← optionalPart Json.flag? false optional)
      (← optionalPart Json.flag? false readonly) (← requiredPart read type)
  | _ => none

/-- A parameter, its type read by `read`. -/
def SourceParam.ofJson? (value : Json) : Option SourceParam := do
  let body ← value.body?
  match ← body.parts ["name", "optional", "type"] with
  | [name, optional, type] =>
    return .mk (← requiredPart Json.text? name) (← optionalPart Json.flag? false optional)
      (← requiredPart read type)
  | _ => none

/-- What a per-key transform does, a type read by `read`. -/
def SourcePerKey.ofJson? (value : Json) : Option SourcePerKey := do
  let (kind, body) ← Json.tagged? "type" SourcePerKey.kinds value
  let parts := body.parts
  match kind with
  | "optional" => (parts []).map fun _ => .optional
  | "nullable" => (parts []).map fun _ => .nullable
  | "array" => (parts []).map fun _ => .array
  | "readonly" => (parts []).map fun _ => .readonly
  | _ =>
    match ← parts ["value"] with
    | [type] => return .replace (← requiredPart read type)
    | _ => none

/-- A transform, types in it read by `read`. -/
def SourceTransform.ofJson? (value : Json) : Option SourceTransform := do
  let (kind, body) ← Json.tagged? "type" SourceTransform.kinds value
  let parts := body.parts
  match kind with
  | "partial" => (parts []).map fun _ => .toPartial
  | "required" => (parts []).map fun _ => .toRequired
  | "readonly" => (parts []).map fun _ => .toReadonly
  | "pick" =>
    match ← parts ["keys"] with
    | [keys] => return .pick (← requiredPart (Json.list? Json.text?) keys)
    | _ => none
  | "omit" =>
    match ← parts ["keys"] with
    | [keys] => return .omit (← requiredPart (Json.list? Json.text?) keys)
    | _ => none
  | "record" =>
    match ← parts ["value"] with
    | [type] => return .record (← requiredPart read type)
    | _ => none
  | _ =>
    match ← parts ["name", "value"] with
    | [name, type] =>
      return .perKey (← requiredPart Json.text? name)
        (← requiredPart (SourcePerKey.ofJson? read) type)
    | _ => none

/-- A type expression of a known kind, the expressions in it read by `read`. -/
def SourceType.ofBody? (kind : String) (body : Body) : Option SourceType :=
  let parts := body.parts
  match kind with
  | "literal" => do
    match ← parts ["value"] with
    | [value] => return .literal (← requiredPart (fun j => some j.sorted) value)
    | _ => none
  | "array" => do
    match ← parts ["element"] with
    | [element] => return .array (← requiredPart read element)
    | _ => none
  | "tuple" => do
    match ← parts ["elements"] with
    | [elements] => return .tuple (← requiredPart (Json.list? read) elements)
    | _ => none
  | "object" => do
    match ← parts ["fields"] with
    | [fields] => return .object (← optionalPart (Json.list? (SourceField.ofJson? read)) [] fields)
    | _ => none
  | "union" => do
    match ← parts ["members"] with
    | [members] => return .union (← requiredPart (Json.list? read) members)
    | _ => none
  | "intersection" => do
    match ← parts ["members"] with
    | [members] => return .intersection (← requiredPart (Json.list? read) members)
    | _ => none
  | "generic" => do
    match ← parts ["params", "body"] with
    | [params, body] =>
      return .generic (← requiredPart (Json.list? Json.text?) params) (← requiredPart read body)
    | _ => none
  | "param" => do
    match ← parts ["name"] with
    | [name] => return .param (← requiredPart Json.text? name)
    | _ => none
  | "mapped" => do
    match ← parts ["source", "transform"] with
    | [source, transform] =>
      return .mapped (← requiredPart read source)
        (← requiredPart (SourceTransform.ofJson? read) transform)
    | _ => none
  | "ref" => do
    match ← parts ["name", "args"] with
    | [name, args] =>
      return .ref (← requiredPart Json.text? name) (← optionalPart (Json.list? read) [] args)
    | _ => none
  | "function" => do
    match ← parts ["function", "params", "returns"] with
    | [kind, params, returns] =>
      let kind ← optionalPart
        (fun j => (Json.choice? (FunctionKind.all.map FunctionKind.name) j).bind
          FunctionKind.ofName?) .function kind
      return .function kind (← optionalPart (Json.list? (SourceParam.ofJson? read)) [] params)
        (← requiredPart read returns)
    | _ => none
  | "refined" => do
    match ← parts ["base", "min", "max", "pattern"] with
    | [base, min, max, pattern] =>
      let base ← requiredPart read base
      let min ← optionalPart (Json.nullable? Json.double?) none min
      let max ← optionalPart (Json.nullable? Json.double?) none max
      let pattern ← optionalPart (Json.nullable? Json.text?) none pattern
      return .refined base ⟨min, max, pattern⟩
    | _ => none
  | "unsupported" => do
    match ← parts ["text"] with
    | [text] => return .unsupported (← requiredPart Json.text? text)
    | _ => none
  | name => do
    let type ← Primitive.ofName? name
    (parts []).map fun _ => .primitive type

end Parts

/-- A type expression inside a value that is nested at most `budget` deep. -/
def SourceType.ofJson? : Nat → Json → Option SourceType
  | 0, _ => none
  | budget + 1, value => do
    let (kind, body) ← Json.tagged? "kind" SourceType.kinds value
    SourceType.ofBody? (SourceType.ofJson? budget) kind body

namespace Json.Outline

/-- A tag read straight from the text: one of `tags`. -/
def tag (tags : List String) (outline : Outline) : Except Refusal String := do
  let name ← outline.text
  if name ∈ tags then return name else .error .mismatch

/-- The members of a tagged object.  The tag is checked where it stands, all other members are kept
as values. -/
def taggedMembers (budget : Nat) (name : String) (tags : List String) :
    Option String → List (String × Json) → List (StringLexeme × Outline) →
      Except Refusal (Option String × List (String × Json))
  | found, done, [] => .ok (found, done)
  | found, done, (key, item) :: rest => do
    let key ← key.text
    if key = name then
      if found.isSome then .error .mismatch
      else
        let kind ← tag tags item
        taggedMembers budget name tags (some kind) done rest
    else
      let value ← value budget item
      taggedMembers budget name tags found (done ++ [(key, value)]) rest

/-- The tag of a tagged record and its other parts as values. -/
def tagged (name : String) (tags : List String) (budget : Nat) :
    Outline → Except Refusal (String × Body)
  | .object members fault => do
    let budget ← enter budget
    let (found, members) ← taggedMembers budget name tags none [] members
    closed fault
    let kind ← required found
    return (kind, .members members)
  | .array items fault => do
    let budget ← enter budget
    match items with
    | [] =>
      closed fault
      .error .mismatch
    | first :: rest =>
      let kind ← tag tags first
      let values ← valueItems budget rest
      closed fault
      return (kind, .items values)
  | other => other.refuse

/-- One of several names: a text, or an object with that one member, which is null. -/
def choice (names : List String) (budget : Nat) : Outline → Except Refusal String
  | .string s => do
    let name ← s.text
    if name ∈ names then return name else .error .mismatch
  | .object members fault => do
    let _ ← enter budget
    match members with
    | [] => closed fault; .error .malformed
    | (key, item) :: rest =>
      let name ← match key.text, item with
        | .error fault, .broken _ => .error fault
        | .error _, instead => instead.refuse
        | .ok name, _ => pure name
      if name ∉ names then .error .mismatch
      match item with
      | .null =>
        match rest with
        | [] => closed fault; return name
        | _ => .error .malformed
      | other => other.refuse
  | .broken fault => .error fault
  | _ => .error .malformed

end Json.Outline

open Json.Outline (FieldReader)
open Json (Refusal Outline)

/-- A type expression. -/
def SourceType.readOutline (budget : Nat) (outline : Outline) : Except Refusal SourceType := do
  let (kind, body) ← outline.tagged "kind" SourceType.kinds budget
  Json.required (SourceType.ofBody? (SourceType.ofJson? budget) kind body)

/-- The fields of a declaration that were read so far. -/
structure SourceDeclaration.Draft where
  name : Option String := none
  kind : Option DeclarationKind := none
  exported : Option Bool := none
  params : Option (List String) := none
  type : Option SourceType := none

/-- The fields of a declaration, in order. -/
def SourceDeclaration.fields : List (FieldReader SourceDeclaration.Draft) :=
  [⟨["name"], fun _ o d => do return { d with name := some (← o.text) }⟩,
    ⟨["kind"], fun budget o d => do
      let name ← o.choice (DeclarationKind.all.map DeclarationKind.name) budget
      return { d with kind := DeclarationKind.ofName? name }⟩,
    ⟨["exported"], fun _ o d => do return { d with exported := some (← o.flag) }⟩,
    ⟨["params"], fun budget o d => do
      return { d with params := some (← o.list (fun _ o => o.text) budget) }⟩,
    ⟨["type"], fun budget o d => do
      return { d with type := some (← SourceType.readOutline budget o) }⟩]

/-- A declaration. -/
def SourceDeclaration.readOutline (budget : Nat) (outline : Outline) :
    Except Refusal SourceDeclaration := do
  let draft ← outline.record SourceDeclaration.fields budget {}
  let name ← Json.required draft.name
  let type ← Json.required draft.type
  return ⟨name, draft.kind.getD .interface, draft.exported.getD false, draft.params.getD [], type⟩

/-- The fields of a document that were read so far. -/
structure Document.Draft where
  file : Option String := none
  declarations : Option (List SourceDeclaration) := none

/-- The fields of a document, in order. -/
def Document.fields : List (FieldReader Document.Draft) :=
  [⟨["file"], fun _ o d => do return { d with file := some (← o.text) }⟩,
    ⟨["declarations"], fun budget o d => do
      return { d with declarations := some (← o.list SourceDeclaration.readOutline budget) }⟩]

/-- A document. -/
def Document.readOutline (budget : Nat) (outline : Outline) : Except Refusal Document := do
  let draft ← outline.record Document.fields budget {}
  let file ← Json.required draft.file
  return ⟨file, draft.declarations.getD []⟩

/-- The document that a text spells. -/
def Document.read (text : String) : Except Refusal Document :=
  Json.readText Document.readOutline text

end Schemata
