import Schemata.Diagnostic
import Schemata.Shape.Basic
import Schemata.Validator.Render

/-!
# Generated schemas

What is generated for one declaration, and what can go wrong on the way.

## Main definitions

* `Schema` : the validator of a declaration with all that was learned about it.
* `GenerationError` : why a place in a type has no validator of its own.
* `GenerateOptions`, `GeneratorStats` : the switches and the counters of generation.
-/

namespace Schemata

/-- The switches of generation. -/
structure GenerateOptions where
  /-- Types without a validator are errors and not just warnings. -/
  strict : Bool := false
  /-- Only exported declarations and what they mention are generated. -/
  exportOnly : Bool := false
  /-- The suffix of schema names. -/
  suffix : String := "Schema"
deriving DecidableEq, Repr

/-- The validators of the parameters and the result of a method. -/
structure MemberSignature where
  /-- The dotted path of the member. -/
  member : String
  kind : FunctionKind
  /-- A tuple. -/
  params : Validator
  returns : Validator

/-- Which rule gave a field its validator. -/
structure FieldSource where
  /-- The dotted path of the field. -/
  path : String
  source : String
deriving DecidableEq, Repr

/-- What is generated for a declaration. -/
structure Schema where
  id : ShapeId
  name : String
  file : String
  kind : DeclarationKind
  exported : Bool
  validator : Validator
  members : List MemberSignature
  /-- The declarations that are mentioned by name, in the order of their first use. -/
  dependencies : List ShapeId
  fieldSources : List FieldSource
  diagnostics : List Diagnostic
  /-- The fingerprint of the declaration when the schema was generated. -/
  fingerprint : UInt64

namespace Schema

/-- The rule that gave a field its validator. -/
def sourceOf? (schema : Schema) (path : String) : Option String :=
  (schema.fieldSources.find? (·.path = path)).map FieldSource.source

/-- All validators of the schema: its own and those of its members. -/
def validators (schema : Schema) : List Validator :=
  schema.validator :: schema.members.flatMap fun m => [m.params, m.returns]

/-- The names of the schemas that have to exist when this one is defined. -/
def eagerNames (schema : Schema) : List String :=
  schema.validators.flatMap Validator.eagerRefs

/-- Does any validator of the schema carry a message? -/
def hasMessage (schema : Schema) : Bool :=
  schema.validators.any Validator.hasMessage

end Schema

/-- Why a place in a type has no validator of its own. -/
inductive GenerationError
  | notADeclaration (id : ShapeId)
  | missingShape (id : ShapeId)
  | unresolved (name : String)
  | unsupported (text : String)
  | unboundParam (name : String)
  | anonymousRecursion (id : ShapeId)
  | notAnObject (transform : String)
deriving DecidableEq, Repr

/-- The error in words. -/
def GenerationError.message : GenerationError → String
  | notADeclaration id => s!"`{id.toHex}` is not a declaration"
  | missingShape id => s!"type node {id.toHex} is missing from the arena"
  | unresolved name => s!"cannot resolve type `{name}`"
  | unsupported text => s!"unsupported type shape: {text}"
  | unboundParam name => s!"type parameter `{name}` is not bound here"
  | anonymousRecursion id =>
    s!"anonymous type {id.toHex} refers to itself and has no name to defer to"
  | notAnObject transform => s!"per-key transform `{transform}` needs an object type"

/-- The counters of generation. -/
structure GeneratorStats where
  /-- Shapes that were visited. -/
  typesProcessed : Nat := 0
  declarationsGenerated : Nat := 0
  cacheHits : Nat := 0
  cacheMisses : Nat := 0
  /-- Places that have no validator of their own. -/
  fallbacks : Nat := 0
  /-- References that are looked up when they are used. -/
  deferredReferences : Nat := 0
deriving DecidableEq, Repr

instance : Add GeneratorStats where
  add a b :=
    { typesProcessed := a.typesProcessed + b.typesProcessed
      declarationsGenerated := a.declarationsGenerated + b.declarationsGenerated
      cacheHits := a.cacheHits + b.cacheHits
      cacheMisses := a.cacheMisses + b.cacheMisses
      fallbacks := a.fallbacks + b.fallbacks
      deferredReferences := a.deferredReferences + b.deferredReferences }

end Schemata
