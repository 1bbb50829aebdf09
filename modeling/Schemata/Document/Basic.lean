import Schemata.Json.Basic
import Schemata.Shape.Basic

/-!
# Declaration documents

A document lists the types that one source file declares.  Types are nested expressions that refer
to other declarations by name.

## Main definitions

* `SourceType` : a type expression.
* `SourceDeclaration`, `Document` : a declared type, and all those of a file.
-/

namespace Schemata

mutual

/-- A type expression. -/
inductive SourceType
  | primitive (type : Primitive)
  | literal (value : Json)
  | array (element : SourceType)
  | tuple (elements : List SourceType)
  | object (fields : List SourceField)
  | union (members : List SourceType)
  | intersection (members : List SourceType)
  | generic (params : List String) (body : SourceType)
  | param (name : String)
  | mapped (source : SourceType) (transform : SourceTransform)
  | ref (name : String) (args : List SourceType)
  | function (kind : FunctionKind) (params : List SourceParam) (returns : SourceType)
  | refined (base : SourceType) (constraint : Constraint)
  | unsupported (text : String)

/-- A field of an object expression. -/
inductive SourceField
  | mk (name : String) (optional readonly : Bool) (type : SourceType)

/-- A parameter of a function expression. -/
inductive SourceParam
  | mk (name : String) (optional : Bool) (type : SourceType)

/-- A transform of an object expression. -/
inductive SourceTransform
  | toPartial
  | toRequired
  | pick (keys : List String)
  | omit (keys : List String)
  | record (value : SourceType)
  | toReadonly
  | perKey (name : String) (value : SourcePerKey)

/-- What a per-key transform makes of each field. -/
inductive SourcePerKey
  | optional
  | nullable
  | array
  | readonly
  | replace (type : SourceType)

end

/-- A declared type. -/
structure SourceDeclaration where
  name : String
  kind : DeclarationKind
  exported : Bool
  params : List String
  type : SourceType

/-- The types that a file declares. -/
structure Document where
  file : String
  declarations : List SourceDeclaration

end Schemata
