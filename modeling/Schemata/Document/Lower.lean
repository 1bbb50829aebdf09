import Schemata.Document.Basic
import Schemata.Shape.Graph

/-!
# Lowering documents

Lowering turns the type expressions of documents into the shapes of one graph.  All declarations
are announced first, so names resolve across documents.  The id of a lowered expression depends on
nothing but the expression, its file and its declaration; the shapes that come up on the way are
listed and interned in that order.

A name stands for a type parameter in scope when it is written without arguments, then for a
declaration of the same file, then for the first declaration of that name, then for a built-in
utility type.

## Main definitions

* `Lowering.lowerShape` : the shape of a type expression.
* `ShapeGraph.ofDocuments` : the graph of a list of documents.
-/

namespace Schemata

/-- Why documents are refused. -/
inductive LowerError
  | duplicateDeclaration (file name : String)
deriving DecidableEq, Repr

/-- The text of a lowering error. -/
def LowerError.message : LowerError → String
  | .duplicateDeclaration file name => s!"{file}: `{name}` is declared more than once"

namespace Lowering

/-- A result, together with the anonymous shapes that were met, inner ones first. -/
structure Lowered (α : Type) where
  value : α
  shapes : List (ShapeId × Shape)

instance : Monad Lowered where
  pure a := ⟨a, []⟩
  bind x f := ⟨(f x.value).value, x.shapes ++ (f x.value).shapes⟩

/-- A declared name: the file and the id of the declaration. -/
structure Name where
  name : String
  file : String
  id : ShapeId

/-- Where an expression stands: its file, its declaration, and the names in force. -/
structure Place where
  names : List Name
  file : String
  context : String
  bound : List String

/-- The place inside a binder of type parameters. -/
def Place.bind (place : Place) (params : List String) : Place :=
  { place with bound := params ++ place.bound }

/-- The declaration a name stands for: of the same file, else the first one. -/
def Place.resolve? (place : Place) (name : String) : Option ShapeId :=
  let candidates := place.names.filter (·.name = name)
  ((candidates.find? (·.file = place.file)).or candidates.head?).map Name.id

/-- Adds an anonymous shape. -/
def intern (place : Place) (shape : Shape) : Lowered ShapeId :=
  let id := ShapeId.node place.file place.context shape.canonical
  ⟨id, [(id, shape)]⟩

/-- Adds the shape of a result and returns its id instead. -/
def Lowered.named (place : Place) (lowered : Lowered Shape) : Lowered ShapeId := do
  let shape ← lowered
  intern place shape

/-- The literal type of a value, if it is neither an array nor an object. -/
def literalOf? : Json → Option Literal
  | .string text => some (.string text)
  | .int n => some (.number (Double.ofInt n))
  | .float d => some (.number d)
  | .bool b => some (.boolean b)
  | .null => some .null
  | _ => none

/-- The shape of a literal value. -/
def literalShape (value : Json) : Shape :=
  match literalOf? value with
  | some literal => .literal literal
  | none => .unsupported s!"literal {value.compact}"

/-- The key that a text literal names. -/
def literalKey? : SourceType → Option String
  | .literal (.string key) => some key
  | _ => none

/-- The keys that a text literal or a union of text literals names. -/
def literalKeys? : SourceType → Option (List String)
  | .union members => members.mapM literalKey?
  | type => (literalKey? type).map ([·])

mutual

/-- The shape of a type expression. -/
def lowerShape (place : Place) (type : SourceType) : Lowered Shape :=
  match type with
  | .primitive type => pure (.primitive type)
  | .literal value => pure (literalShape value)
  | .array element => do
    let element ← (lowerShape place element).named place
    pure (.array element)
  | .tuple elements => do
    let elements ← lowerList place elements
    pure (.tuple elements)
  | .object fields => do
    let fields ← lowerFields place fields
    pure (.object fields)
  | .union members => do
    let members ← lowerList place members
    pure (.union members)
  | .intersection members => do
    let members ← lowerList place members
    pure (.intersection members)
  | .generic params body => do
    let body ← (lowerShape (place.bind params) body).named place
    pure (.generic params body)
  | .param name => pure (.param name)
  | .mapped source transform => do
    let source ← (lowerShape place source).named place
    let transform ← lowerTransform place transform
    pure (.mapped source transform)
  | .ref name args =>
    if args.isEmpty && place.bound.contains name then pure (.param name)
    else
      match place.resolve? name with
      | some target => do
        let args ← lowerList place args
        pure (.reference target args)
      | none => lowerUtility place name args
  | .function kind params returns => do
    let params ← lowerParams place params
    let returns ← (lowerShape place returns).named place
    pure (.function kind params returns)
  | .refined base constraint => do
    let base ← (lowerShape place base).named place
    pure (.refined base constraint)
  | .unsupported text => pure (.unsupported text)

/-- The shape of a built-in utility type, or of a name that nobody declares. -/
def lowerUtility (place : Place) (name : String) (args : List SourceType) : Lowered Shape :=
  match name, args with
  | "Array", [element] => do
    let element ← (lowerShape place element).named place
    pure (.array element)
  | "ReadonlyArray", [element] => do
    let element ← (lowerShape place element).named place
    pure (.array element)
  | "Date", [] => pure (.primitive .date)
  | "Partial", [source] => do
    let source ← (lowerShape place source).named place
    pure (.mapped source .toPartial)
  | "Required", [source] => do
    let source ← (lowerShape place source).named place
    pure (.mapped source .toRequired)
  | "Readonly", [source] => do
    let source ← (lowerShape place source).named place
    pure (.mapped source .toReadonly)
  | "Record", [key, value] => do
    let key ← (lowerShape place key).named place
    let value ← (lowerShape place value).named place
    pure (.mapped key (.record value))
  | "Pick", [source, keys] =>
    match literalKeys? keys with
    | some keys => do
      let source ← (lowerShape place source).named place
      pure (.mapped source (.pick keys))
    | none => pure (.unresolved name)
  | "Omit", [source, keys] =>
    match literalKeys? keys with
    | some keys => do
      let source ← (lowerShape place source).named place
      pure (.mapped source (.omit keys))
    | none => pure (.unresolved name)
  | name, _ => pure (.unresolved name)

/-- The ids of a list of type expressions. -/
def lowerList (place : Place) (types : List SourceType) : Lowered (List ShapeId) :=
  match types with
  | [] => pure []
  | type :: rest => do
    let id ← (lowerShape place type).named place
    let ids ← lowerList place rest
    pure (id :: ids)

/-- The fields of an object expression. -/
def lowerFields (place : Place) (fields : List SourceField) : Lowered (List Field) :=
  match fields with
  | [] => pure []
  | .mk name optional readonly type :: rest => do
    let id ← (lowerShape place type).named place
    let fields ← lowerFields place rest
    pure (⟨name, id, optional, readonly⟩ :: fields)

/-- The parameters of a function expression. -/
def lowerParams (place : Place) (params : List SourceParam) : Lowered (List Param) :=
  match params with
  | [] => pure []
  | .mk name optional type :: rest => do
    let id ← (lowerShape place type).named place
    let params ← lowerParams place rest
    pure (⟨name, id, optional⟩ :: params)

/-- A transform with its types lowered. -/
def lowerTransform (place : Place) (transform : SourceTransform) : Lowered Transform :=
  match transform with
  | .toPartial => pure .toPartial
  | .toRequired => pure .toRequired
  | .pick keys => pure (.pick keys)
  | .omit keys => pure (.omit keys)
  | .record value => do
    let value ← (lowerShape place value).named place
    pure (.record value)
  | .toReadonly => pure .toReadonly
  | .perKey name value => do
    let value ← lowerPerKey place value
    pure (.perKey name value)

/-- What a per-key transform does, with its type lowered. -/
def lowerPerKey (place : Place) (value : SourcePerKey) : Lowered PerKey :=
  match value with
  | .optional => pure .optional
  | .nullable => pure .nullable
  | .array => pure .array
  | .readonly => pure .readonly
  | .replace type => do
    let type ← (lowerShape place type).named place
    pure (.replace type)

end

/-- The id of a type expression. -/
def lower (place : Place) (type : SourceType) : Lowered ShapeId :=
  (lowerShape place type).named place

/-- The shape of a declaration: its type, under its type parameters if it has any. -/
def lowerDeclaration (place : Place) (d : SourceDeclaration) : Lowered Shape :=
  if d.params.isEmpty then lowerShape place d.type
  else do
    let body ← lower (place.bind d.params) d.type
    pure (.generic d.params body)

/-- The declarations of all documents with their files, in order. -/
def declarationsOf (documents : List Document) : List (String × SourceDeclaration) :=
  documents.flatMap fun document => document.declarations.map (document.file, ·)

/-- The declared names of a list of declarations. -/
def namesOf (declarations : List (String × SourceDeclaration)) : List Name :=
  declarations.map fun (file, d) => ⟨d.name, file, ShapeId.declaration file d.name⟩

/-- Announces declarations; a name that a file declares twice is refused. -/
def announce : List (String × SourceDeclaration) → List (String × String) → ShapeGraph →
    Except LowerError ShapeGraph
  | [], _, g => .ok g
  | (file, d) :: rest, seen, g =>
    if (file, d.name) ∈ seen then .error (.duplicateDeclaration file d.name)
    else announce rest ((file, d.name) :: seen) (g.declare file d.name d.kind d.exported).1

/-- Defines one declaration in a graph. -/
def defineDeclaration (names : List Name) (g : ShapeGraph) (file : String)
    (d : SourceDeclaration) : ShapeGraph :=
  let lowered := lowerDeclaration ⟨names, file, d.name, []⟩ d
  let shapes := lowered.shapes.foldl (fun shapes e => shapes.insertNew e.1 e.2) g.shapes
  { g with shapes := shapes.insert (ShapeId.declaration file d.name) lowered.value }

end Lowering

open Lowering in
/-- The graph of a list of documents. -/
def ShapeGraph.ofDocuments (documents : List Document) : Except LowerError ShapeGraph := do
  let declarations := declarationsOf documents
  let names := namesOf declarations
  let g ← announce declarations [] ShapeGraph.empty
  return declarations.foldl (fun g (file, d) => defineDeclaration names g file d) g

end Schemata
