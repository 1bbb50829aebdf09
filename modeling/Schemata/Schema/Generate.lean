import Schemata.Rules.Resolve
import Schemata.Schema.Trace
import Schemata.Shape.Cycle

/-!
# Generation

A declared type is turned into a validator by a walk through its shapes.  A mentioned declaration
becomes a reference by name and is never walked into, so each declaration is generated on its own.
A reference is deferred if its target leads back to the declaration.  Where a type has no
validator of its own, the validator accepts everything and the walk notes why.

## Main definitions

* `Generator` : a graph with rules and options.
* `Generator.visit` : the validator of a shape.
* `Generator.generate` : the schema of a declaration.
-/

namespace Schemata

/-- What generation needs to know. -/
structure Generator where
  graph : ShapeGraph
  cycles : CycleIndex
  rules : RuleSet
  options : GenerateOptions

/-- A place inside a declaration. -/
structure Place where
  /-- The declaration. -/
  declaration : Declaration
  /-- The type parameters in scope. -/
  params : List String
  /-- The names of the fields that lead here. -/
  path : List String

namespace Place

/-- The outermost place of a declaration. -/
def top (declaration : Declaration) : Place :=
  ⟨declaration, [], []⟩

/-- The place inside a field. -/
def inField (place : Place) (name : String) : Place :=
  { place with path := place.path ++ [name] }

/-- The place inside a generic type. -/
def withParams (place : Place) (params : List String) : Place :=
  { place with params := place.params ++ params }

/-- The dotted path below the declaration. -/
def fieldPath (place : Place) : String :=
  String.intercalate "." place.path

/-- The declaration with the dotted path. -/
def location (place : Place) : String :=
  if place.path.isEmpty then place.declaration.name
  else s!"{place.declaration.name}.{place.fieldPath}"

end Place

namespace Generator

/-- A generator for a graph. -/
def new (graph : ShapeGraph) (rules : RuleSet) (options : GenerateOptions) : Generator :=
  ⟨graph, CycleIndex.build graph, rules, options⟩

/-- Accepts everything at a place, and notes why. -/
def fallback (gen : Generator) (place : Place) (error : GenerationError) : Traced Validator := do
  let level := if gen.options.strict then DiagnosticLevel.error else .warning
  .note (.fallback ⟨.generation, level, error.message, some place.location⟩)
  return .any

/-- The shape of an id that is not declared. -/
def anonymousShape? (gen : Generator) (id : ShapeId) : Option Shape :=
  if gen.graph.isDeclared id then none else gen.graph.shape? id

/-- Is the id the anonymous type of null? -/
def isNull (gen : Generator) (id : ShapeId) : Bool :=
  match gen.anonymousShape? id with
  | some (.primitive .null) => true
  | some (.literal .null) => true
  | _ => false

/-- Is the id the anonymous type of undefined? -/
def isUndefined (gen : Generator) (id : ShapeId) : Bool :=
  match gen.anonymousShape? id with
  | some (.primitive .undefined) => true
  | _ => false

/-- The arguments of a reference: as many as the target has parameters, the missing ones accept
everything. -/
def fitArgs (gen : Generator) (target : ShapeId) (args : List Validator) : List Validator :=
  match gen.graph.shape? target with
  | some (.generic params _) =>
    args.take params.length ++ List.replicate (params.length - args.length) .any
  | _ => []

/-- The edges that plain references make. -/
def aliasEdges (gen : Generator) : Walk.Edges ShapeId :=
  gen.graph.shapes.entries.filterMap fun e =>
    match e.2 with
    | .reference target _ => some (e.1, [target])
    | _ => none

/-- The fields of the object type that an id denotes through plain references. -/
def objectFields? (gen : Generator) (id : ShapeId) : Option (List Field) :=
  match ((Walk.preorder gen.aliasEdges [id]).getLast?).bind gen.graph.shape? with
  | some (.object fields) => some fields
  | _ => none

/-- The kind, the parameters and the result of an anonymous method. -/
def method? (gen : Generator) (id : ShapeId) : Option (FunctionKind × List Param × ShapeId) :=
  match gen.anonymousShape? id with
  | some (.function kind params returns) =>
    if kind.isMember then some (kind, params, returns) else none
  | _ => none

/-- A reference to a declaration by name; it is deferred if its target is being visited or leads
back to the declaration around it. -/
def named (gen : Generator) (inProgress : ShapeId → Bool) (place : Place) (target : ShapeId)
    (declaration : Declaration) (args : List Validator) : Traced Validator := do
  let args := gen.fitArgs target args
  let deferred := inProgress target || gen.cycles.sameCycle place.declaration.id target
  .note (.reference target deferred)
  return .ofKind (if deferred then .deferred declaration.name args else .ref declaration.name args)

section Visit

variable (gen : Generator) (visit : Place → ShapeId → Traced Validator)
  (inProgress : ShapeId → Bool)

/-- A mention of an id with arguments: a reference by name if it is declared. -/
def reference (place : Place) (target : ShapeId) (args : List ShapeId) : Traced Validator :=
  match gen.graph.declaration? target with
  | none => visit place target
  | some declaration => do
    let args ← Traced.forEach (visit place) args
    gen.named inProgress place target declaration args

/-- Applies the rules to the validator of a field. -/
def resolveField (place : Place) (name : String) (base : Validator) : Traced Validator := do
  let resolution := gen.rules.resolve name base (some place.declaration.name)
  .note (.field ⟨place.fieldPath, resolution.source.toText⟩)
  return resolution.validator

/-- The validators of parameters. -/
def visitParams (place : Place) (params : List Param) : Traced (List Validator) :=
  Traced.forEach (fun p => do
    let validator ← visit place p.type
    return if p.optional then validator.optional else validator) params

/-- The entry of a field in an object, after `adapt` has changed its validator. -/
def visitEntry (place : Place) (adapt : Validator → Traced Validator) (field : Field) :
    Traced (String × Validator) := do
  let base ← visit place field.type
  let adapted ← adapt base
  let validator ← resolveField gen place field.name adapted
  return (field.name, if field.optional then validator.optional else validator)

/-- The entry of a field; a method gives no entry but a signature. -/
def visitField (place : Place) (field : Field) : Traced (Option (String × Validator)) :=
  let place := place.inField field.name
  match gen.method? field.type with
  | some (kind, params, returns) => do
    let params ← visitParams visit place params
    let returns ← visit place returns
    .note (.member ⟨place.fieldPath, kind, .ofKind (.tuple params), returns⟩)
    return none
  | none => do
    return some (← visitEntry gen visit place (fun v => return v) field)

/-- The validator of an object type. -/
def visitObject (place : Place) (fields : List Field) : Traced Validator := do
  let entries ← Traced.forEach (visitField gen visit place) fields
  return .ofKind (.object (entries.filterMap id))

/-- The validator of a union: null and undefined become modifiers, unless nothing else is left. -/
def visitUnion (place : Place) (members : List ShapeId) : Traced Validator := do
  let rest := members.filter fun id => !(gen.isNull id || gen.isUndefined id)
  if rest.isEmpty then
    return .union (← Traced.forEach (visit place) members)
  else
    let validator := Validator.union (← Traced.forEach (visit place) rest)
    let validator := if members.any gen.isNull then validator.nullable else validator
    return if members.any gen.isUndefined then validator.optional else validator

/-- What a per-key transform makes of the validator of a field. -/
def adaptKey (place : Place) (value : PerKey) (base : Validator) : Traced Validator :=
  match value with
  | .optional => return base.optional
  | .nullable => return base.nullable
  | .array => return .ofKind (.array base)
  | .readonly => return base.modify .readonly
  | .replace type => visit place type

/-- The validator of an object type, each field changed in the same way. -/
def visitPerKey (place : Place) (source : ShapeId) (name : String) (value : PerKey) :
    Traced Validator :=
  match gen.objectFields? source with
  | none => gen.fallback place (.notAnObject name)
  | some fields => do
    let entries ← Traced.forEach (fun field =>
      let place := place.inField field.name
      visitEntry gen visit place (adaptKey visit place value) field) fields
    return .ofKind (.object entries)

/-- The validator of a transformed type. -/
def visitMapped (place : Place) (source : ShapeId) : Transform → Traced Validator
  | .toPartial => return (← visit place source).modify .toPartial
  | .toRequired => return (← visit place source).modify .toRequired
  | .pick keys => return (← visit place source).modify (.pick keys)
  | .omit keys => return (← visit place source).modify (.omit keys)
  | .record value => do
    let key ← visit place source
    return .ofKind (.record key (← visit place value))
  | .toReadonly => return (← visit place source).modify .readonly
  | .perKey name value => visitPerKey gen visit place source name value

/-- Adds bounds and a pattern to a validator. -/
def refine (constraint : Constraint) (validator : Validator) : Validator :=
  let validator :=
    if constraint.min.isSome || constraint.max.isSome then
      validator.modify (.bounds constraint.min constraint.max)
    else validator
  match constraint.pattern with
  | some pattern => validator.modify (.pattern pattern)
  | none => validator

/-- The validator of a shape, given how to visit the shapes in it. -/
def visitShape (place : Place) : Shape → Traced Validator
  | .primitive type => return .primitive type
  | .literal value => return .ofKind (.literal value)
  | .array element => return .ofKind (.array (← visit place element))
  | .tuple elements => return .ofKind (.tuple (← Traced.forEach (visit place) elements))
  | .object fields => visitObject gen visit place fields
  | .union members => visitUnion gen visit place members
  | .intersection members => return .intersection (← Traced.forEach (visit place) members)
  | .generic params body => do
    return .ofKind (.generic params (← visit (place.withParams params) body))
  | .param name =>
    if place.params.contains name then return .ofKind (.param name)
    else gen.fallback place (.unboundParam name)
  | .mapped source transform => visitMapped gen visit place source transform
  | .reference target args => reference gen visit inProgress place target args
  | .function _ params returns => do
    let params ← visitParams visit place params
    return .ofKind (.function params (← visit place returns))
  | .refined base constraint => return refine constraint (← visit place base)
  | .unresolved name => gen.fallback place (.unresolved name)
  | .unsupported text => gen.fallback place (.unsupported text)

end Visit

/-- The number of shapes that are not open. -/
def unopened (gen : Generator) (opened : List ShapeId) : Nat :=
  (gen.graph.shapes.entries.filter fun e => decide (e.1 ∉ opened)).length

theorem unopened_cons_lt {gen : Generator} {opened : List ShapeId} {id : ShapeId} {shape : Shape}
    (found : gen.graph.shape? id = some shape) (new : id ∉ opened) :
    gen.unopened (id :: opened) < gen.unopened opened := by
  obtain ⟨entry, listed, own⟩ : ∃ e ∈ gen.graph.shapes.entries, id == e.1 :=
    List.lookup_isSome_iff.mp (Option.isSome_of_eq_some found)
  obtain rfl : id = entry.1 := by simpa using own
  have both : (gen.graph.shapes.entries.filter fun e => decide (e.1 ∉ entry.1 :: opened))
      = (gen.graph.shapes.entries.filter fun e => decide (e.1 ∉ opened)).filter
          fun e => decide (e.1 ≠ entry.1) := by
    rw [List.filter_filter]
    exact List.filter_congr fun e _ => by simp
  rw [unopened, unopened, both, List.length_filter_lt_length_iff_exists]
  exact ⟨entry, List.mem_filter.mpr ⟨listed, by simpa using new⟩, by simp⟩

/-- The validator of an id at a place; the shapes in `opened` are being visited. -/
def visit (gen : Generator) (opened : List ShapeId) (place : Place) (id : ShapeId) :
    Traced Validator :=
  match gen.graph.declaration? id with
  | some declaration => gen.named (opened.contains ·) place id declaration []
  | none =>
    match _found : gen.graph.shape? id with
    | none => gen.fallback place (.missingShape id)
    | some shape =>
      if _new : id ∈ opened then gen.fallback place (.anonymousRecursion id)
      else do
        .note (.visited id)
        visitShape gen (fun place next => gen.visit (id :: opened) place next)
          ((id :: opened).contains ·) place shape
termination_by gen.unopened opened
decreasing_by exact unopened_cons_lt _found _new

/-- The validator of a declaration. -/
def visitDeclaration (gen : Generator) (id : ShapeId) (declaration : Declaration) :
    Traced Validator :=
  let opened := [declaration.id]
  let place := Place.top declaration
  match gen.graph.shape? id with
  | none => gen.fallback place (.missingShape id)
  | some shape => do
    .note (.visited id)
    visitShape gen (gen.visit opened) (opened.contains ·) place shape

/-- The schema of a declaration that has been visited. -/
def schemaOf (gen : Generator) (id : ShapeId) (declaration : Declaration)
    (traced : Traced Validator) : Schema where
  id := id
  name := declaration.name
  file := declaration.file
  kind := declaration.kind
  exported := declaration.exported
  validator := traced.value
  members := traced.findings.filterMap Finding.signature?
  dependencies := (traced.findings.filterMap Finding.target?).eraseDups
  fieldSources := traced.findings.filterMap Finding.fieldSource?
  diagnostics := traced.findings.filterMap Finding.diagnostic?
  fingerprint := gen.graph.fingerprint id

/-- What the counters gain by the visit of a declaration. -/
def statsOf (findings : List Finding) : GeneratorStats where
  typesProcessed := findings.countP Finding.isVisit
  declarationsGenerated := 1
  fallbacks := (findings.filterMap Finding.diagnostic?).length
  deferredReferences := findings.countP Finding.isDeferred

/-- The schema of a declaration, with what the counters gain. -/
def generate (gen : Generator) (id : ShapeId) :
    Except GenerationError (Schema × GeneratorStats) :=
  match gen.graph.declaration? id with
  | none => .error (.notADeclaration id)
  | some declaration =>
    let traced := gen.visitDeclaration id declaration
    .ok (gen.schemaOf id declaration traced, statsOf traced.findings)

end Generator

end Schemata
