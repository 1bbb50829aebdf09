import Schemata.Proofs.Document.Provenance
import Schemata.Proofs.Shape.Legible

/-!
# Type expressions with resolved names

What a type expression of a document says is a nested type in which each name has been replaced by
what it stands for.  The same kind of type is found in a graph by following the ids of anonymous
shapes; a reference to a declaration is not followed, but told by the file and the name of the
declaration.

## Main definitions

* `ResolvedType` : a type expression in which names are resolved.
* `Scope`, `SourceType.resolve` : what a type expression says.
* `Shape.expand`, `ShapeGraph.unfold` : what a graph says.
* `SourceType.details`, `Lowering.detailsOf` : the unquoted names and numbers of documents.

## Main results

* `Lowering.resolve?_eq_fileOf?` : lowering resolves names in the same way.
* `Shape.expand_eq_of_unsigned_eq` : the sign of a zero does not show.
-/

namespace Schemata

mutual

/-- A type expression in which names are resolved. -/
inductive ResolvedType
  | primitive (type : Primitive)
  | literal (value : Literal)
  | array (element : ResolvedType)
  | tuple (elements : List ResolvedType)
  | object (fields : List ResolvedField)
  | union (members : List ResolvedType)
  | intersection (members : List ResolvedType)
  | generic (params : List String) (body : ResolvedType)
  | param (name : String)
  | mapped (source : ResolvedType) (transform : ResolvedTransform)
  /-- The declaration of a name in a file, with arguments. -/
  | declared (file name : String) (args : List ResolvedType)
  | function (kind : FunctionKind) (params : List ResolvedParam) (returns : ResolvedType)
  | refined (base : ResolvedType) (constraint : Constraint)
  /-- A name that stands for nothing. -/
  | unresolved (name : String)
  | unsupported (text : String)

/-- A field of an object type. -/
inductive ResolvedField
  | mk (name : String) (optional readonly : Bool) (type : ResolvedType)

/-- A parameter of a function type. -/
inductive ResolvedParam
  | mk (name : String) (optional : Bool) (type : ResolvedType)

/-- A transform of an object type. -/
inductive ResolvedTransform
  | toPartial
  | toRequired
  | pick (keys : List String)
  | omit (keys : List String)
  | record (value : ResolvedType)
  | toReadonly
  | perKey (name : String) (value : ResolvedPerKey)

/-- What a per-key transform makes of each field. -/
inductive ResolvedPerKey
  | optional
  | nullable
  | array
  | readonly
  | replace (type : ResolvedType)

end

/-! ### What documents say -/

/-- Where names are looked up: in the documents, from a file, under type parameters. -/
structure Scope where
  documents : List Document
  file : String
  bound : List String

namespace Scope

/-- The scope inside a binder of type parameters. -/
def bind (scope : Scope) (params : List String) : Scope :=
  { scope with bound := params ++ scope.bound }

/-- The file whose declaration a name stands for: the same file if it declares the name, else the
first one that does. -/
def fileOf? (scope : Scope) (name : String) : Option String :=
  let files := ((Lowering.declarationsOf scope.documents).filter (·.2.name = name)).map Prod.fst
  if scope.file ∈ files then some scope.file else files.head?

end Scope

open Lowering

mutual

/-- A type expression with its names resolved. -/
def SourceType.resolve (scope : Scope) (type : SourceType) : ResolvedType :=
  match type with
  | .primitive type => .primitive type
  | .literal value =>
    match literalOf? value with
    | some literal => .literal literal.unsigned
    | none => .unsupported s!"literal {value.compact}"
  | .array element => .array (element.resolve scope)
  | .tuple elements => .tuple (resolveList scope elements)
  | .object fields => .object (resolveFields scope fields)
  | .union members => .union (resolveList scope members)
  | .intersection members => .intersection (resolveList scope members)
  | .generic params body => .generic params (body.resolve (scope.bind params))
  | .param name => .param name
  | .mapped source transform => .mapped (source.resolve scope) (transform.resolve scope)
  | .ref name args =>
    if args.isEmpty && scope.bound.contains name then .param name
    else
      match scope.fileOf? name with
      | some file => .declared file name (resolveList scope args)
      | none => resolveUtility scope name args
  | .function kind params returns =>
    .function kind (resolveParams scope params) (returns.resolve scope)
  | .refined base constraint => .refined (base.resolve scope) constraint
  | .unsupported text => .unsupported text

/-- A built-in utility type, or a name that nobody declares. -/
def resolveUtility (scope : Scope) (name : String) (args : List SourceType) : ResolvedType :=
  match name, args with
  | "Array", [element] => .array (element.resolve scope)
  | "ReadonlyArray", [element] => .array (element.resolve scope)
  | "Date", [] => .primitive .date
  | "Partial", [source] => .mapped (source.resolve scope) .toPartial
  | "Required", [source] => .mapped (source.resolve scope) .toRequired
  | "Readonly", [source] => .mapped (source.resolve scope) .toReadonly
  | "Record", [key, value] => .mapped (key.resolve scope) (.record (value.resolve scope))
  | "Pick", [source, keys] =>
    match literalKeys? keys with
    | some keys => .mapped (source.resolve scope) (.pick keys)
    | none => .unresolved name
  | "Omit", [source, keys] =>
    match literalKeys? keys with
    | some keys => .mapped (source.resolve scope) (.omit keys)
    | none => .unresolved name
  | name, _ => .unresolved name

/-- Type expressions with their names resolved. -/
def resolveList (scope : Scope) (types : List SourceType) : List ResolvedType :=
  match types with
  | [] => []
  | type :: rest => type.resolve scope :: resolveList scope rest

/-- Fields with their names resolved. -/
def resolveFields (scope : Scope) (fields : List SourceField) : List ResolvedField :=
  match fields with
  | [] => []
  | .mk name optional readonly type :: rest =>
    .mk name optional readonly (type.resolve scope) :: resolveFields scope rest

/-- Parameters with their names resolved. -/
def resolveParams (scope : Scope) (params : List SourceParam) : List ResolvedParam :=
  match params with
  | [] => []
  | .mk name optional type :: rest =>
    .mk name optional (type.resolve scope) :: resolveParams scope rest

/-- A transform with its names resolved. -/
def SourceTransform.resolve (scope : Scope) (transform : SourceTransform) : ResolvedTransform :=
  match transform with
  | .toPartial => .toPartial
  | .toRequired => .toRequired
  | .pick keys => .pick keys
  | .omit keys => .omit keys
  | .record value => .record (value.resolve scope)
  | .toReadonly => .toReadonly
  | .perKey name value => .perKey name (value.resolve scope)

/-- The value of a per-key transform with its names resolved. -/
def SourcePerKey.resolve (scope : Scope) (value : SourcePerKey) : ResolvedPerKey :=
  match value with
  | .optional => .optional
  | .nullable => .nullable
  | .array => .array
  | .readonly => .readonly
  | .replace type => .replace (type.resolve scope)

end

/-- The type of a declaration with its names resolved, under its type parameters if it has any. -/
def SourceDeclaration.resolve (documents : List Document) (file : String) (d : SourceDeclaration) :
    ResolvedType :=
  if d.params.isEmpty then d.type.resolve ⟨documents, file, []⟩
  else .generic d.params (d.type.resolve ⟨documents, file, d.params⟩)

/-! ### What graphs say -/

/-- A field whose type is looked up. -/
def Field.expand (look : ShapeId → Option ResolvedType) (field : Field) : Option ResolvedField := do
  let type ← look field.type
  return .mk field.name field.optional field.readonly type

/-- A parameter whose type is looked up. -/
def Param.expand (look : ShapeId → Option ResolvedType) (param : Param) : Option ResolvedParam := do
  let type ← look param.type
  return .mk param.name param.optional type

/-- A per-key transform's value whose type is looked up. -/
def PerKey.expand (look : ShapeId → Option ResolvedType) : PerKey → Option ResolvedPerKey
  | .optional => some .optional
  | .nullable => some .nullable
  | .array => some .array
  | .readonly => some .readonly
  | .replace type => do
    let type ← look type
    return .replace type

/-- A transform whose types are looked up. -/
def Transform.expand (look : ShapeId → Option ResolvedType) :
    Transform → Option ResolvedTransform
  | .toPartial => some .toPartial
  | .toRequired => some .toRequired
  | .pick keys => some (.pick keys)
  | .omit keys => some (.omit keys)
  | .record value => do
    let value ← look value
    return .record value
  | .toReadonly => some .toReadonly
  | .perKey name value => do
    let value ← value.expand look
    return .perKey name value

/-- A shape whose parts are looked up.  The target of a reference is not followed. -/
def Shape.expand (declared : ShapeId → Option Declaration)
    (look : ShapeId → Option ResolvedType) : Shape → Option ResolvedType
  | .primitive type => some (.primitive type)
  | .literal value => some (.literal value.unsigned)
  | .array element => do
    let element ← look element
    return .array element
  | .tuple elements => do
    let elements ← elements.mapM look
    return .tuple elements
  | .object fields => do
    let fields ← fields.mapM (Field.expand look)
    return .object fields
  | .union members => do
    let members ← members.mapM look
    return .union members
  | .intersection members => do
    let members ← members.mapM look
    return .intersection members
  | .generic params body => do
    let body ← look body
    return .generic params body
  | .param name => some (.param name)
  | .mapped source transform => do
    let source ← look source
    let transform ← transform.expand look
    return .mapped source transform
  | .reference target args => do
    let declaration ← declared target
    let args ← args.mapM look
    return .declared declaration.file declaration.name args
  | .function kind params returns => do
    let params ← params.mapM (Param.expand look)
    let returns ← look returns
    return .function kind params returns
  | .refined base constraint => do
    let base ← look base
    return .refined base constraint
  | .unresolved name => some (.unresolved name)
  | .unsupported text => some (.unsupported text)

/-- The type that an id stands for, with anonymous shapes expanded to a depth. -/
def ShapeGraph.unfold (g : ShapeGraph) : Nat → ShapeId → Option ResolvedType
  | 0, _ => none
  | depth + 1, id => do
    let shape ← g.shape? id
    shape.expand g.declaration? (g.unfold depth)

theorem Literal.unsigned_unsigned (value : Literal) : value.unsigned.unsigned = value.unsigned := by
  cases value with
  | number value =>
    have twice : value.unsigned.unsigned = value.unsigned := by
      unfold Double.unsigned
      split <;> simp_all
    exact congrArg Literal.number twice
  | _ => rfl

/-- The sign of a zero does not show. -/
theorem Shape.expand_eq_of_unsigned_eq {a b : Shape} (same : a.unsigned = b.unsigned)
    (declared : ShapeId → Option Declaration) (look : ShapeId → Option ResolvedType) :
    a.expand declared look = b.expand declared look := by
  have expand_unsigned (shape : Shape) :
      shape.unsigned.expand declared look = shape.expand declared look := by
    cases shape with
    | literal value =>
      exact congrArg (fun value => some (ResolvedType.literal value)) value.unsigned_unsigned
    | _ => rfl
  rw [← expand_unsigned a, same, expand_unsigned b]

/-! ### Details of documents -/

mutual

/-- The unquoted names and numbers of a type expression. -/
def SourceType.details (type : SourceType) : List Detail :=
  match type with
  | .primitive _ => []
  | .literal value => ((literalOf? value).map Literal.details).getD []
  | .array element => element.details
  | .tuple elements => detailsOfList elements
  | .object fields => detailsOfFields fields
  | .union members => detailsOfList members
  | .intersection members => detailsOfList members
  | .generic params body => params.map .name ++ body.details
  | .param _ => []
  | .mapped source transform => source.details ++ transform.details
  | .ref _ args => detailsOfList args
  | .function _ params returns => detailsOfParams params ++ returns.details
  | .refined base constraint => base.details ++ constraint.details
  | .unsupported _ => []

/-- The details of a list of type expressions. -/
def detailsOfList (types : List SourceType) : List Detail :=
  match types with
  | [] => []
  | type :: rest => type.details ++ detailsOfList rest

/-- The details of fields. -/
def detailsOfFields (fields : List SourceField) : List Detail :=
  match fields with
  | [] => []
  | .mk _ _ _ type :: rest => type.details ++ detailsOfFields rest

/-- The details of parameters. -/
def detailsOfParams (params : List SourceParam) : List Detail :=
  match params with
  | [] => []
  | .mk name _ type :: rest => .name name :: (type.details ++ detailsOfParams rest)

/-- The details of a transform. -/
def SourceTransform.details (transform : SourceTransform) : List Detail :=
  match transform with
  | .record value => value.details
  | .perKey _ value => value.details
  | .toPartial | .toRequired | .pick _ | .omit _ | .toReadonly => []

/-- The details of a per-key transform's value. -/
def SourcePerKey.details (value : SourcePerKey) : List Detail :=
  match value with
  | .replace type => type.details
  | .optional | .nullable | .array | .readonly => []

end

namespace Lowering

/-- The unquoted names and numbers of documents. -/
def detailsOf (documents : List Document) : List Detail :=
  (declarationsOf documents).flatMap fun a => a.2.params.map .name ++ a.2.type.details

/-! ### Names -/

/-- The scope of a place. -/
def Place.scope (documents : List Document) (place : Place) : Scope :=
  ⟨documents, place.file, place.bound⟩

/-- The names of declarations of one name, with the ids that their files give them. -/
theorem filter_namesOf (declarations : List (String × SourceDeclaration)) (name : String) :
    (namesOf declarations).filter (·.name = name)
      = ((declarations.filter (·.2.name = name)).map Prod.fst).map fun file =>
        ⟨name, file, ShapeId.declaration file name⟩ := by
  rw [namesOf, List.filter_map, List.map_map]
  refine List.map_congr_left fun a member => ?_
  have named : a.2.name = name := by simpa using (List.mem_filter.mp member).2
  simp only [Function.comp, named]

/-- Lowering resolves a name to the declaration that it stands for. -/
theorem resolve?_eq_fileOf? {documents : List Document} {place : Place}
    (known : place.names = namesOf (declarationsOf documents)) (name : String) :
    place.resolve? name
      = ((place.scope documents).fileOf? name).map fun file => ShapeId.declaration file name := by
  unfold Place.resolve? Scope.fileOf? Place.scope
  dsimp only
  rw [known, filter_namesOf]
  generalize ((declarationsOf documents).filter (·.2.name = name)).map Prod.fst = files
  rw [List.find?_map, Function.comp_def, List.head?_map]
  split
  · rename_i own
    have found : files.find? (fun file => decide (file = place.file)) = some place.file := by
      have some : (files.find? (fun file => decide (file = place.file))).isSome :=
        List.find?_isSome.mpr ⟨place.file, own, by simp⟩
      obtain ⟨file, found⟩ := Option.isSome_iff_exists.mp some
      have chosen : file = place.file := by simpa using List.find?_some found
      rw [found, chosen]
    rw [found]
    rfl
  · rename_i foreign
    have absent : files.find? (fun file => decide (file = place.file)) = none :=
      List.find?_eq_none.mpr fun file member same =>
        foreign (of_decide_eq_true same ▸ member)
    rw [absent, Option.map_none, Option.none_or, Option.map_map]
    rfl

theorem declared_of_fileOf? {scope : Scope} {name file : String}
    (found : scope.fileOf? name = some file) :
    ∃ d, (file, d) ∈ declarationsOf scope.documents ∧ d.name = name := by
  have listed : file
      ∈ ((declarationsOf scope.documents).filter (·.2.name = name)).map Prod.fst := by
    unfold Scope.fileOf? at found
    dsimp only at found
    split at found
    · cases found
      assumption
    · exact List.mem_of_mem_head? found
  obtain ⟨⟨_, d⟩, member, rfl⟩ := List.mem_map.mp listed
  obtain ⟨member, named⟩ := List.mem_filter.mp member
  exact ⟨d, member, by simpa using named⟩

end Lowering

end Schemata
