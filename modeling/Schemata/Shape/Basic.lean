import Schemata.Number.Decimal
import Schemata.Shape.Id
import Schemata.Text.Quoted

/-!
# Type shapes

A shape is one node of a type graph.  It names the shapes it is built from by their ids, so a
shape never holds another one and graphs may have cycles.

## Main definitions

* `Shape` : one node of a type graph.
* `Shape.children` : the ids it refers to, in order.
* `Declaration` : a named, file-level type.
-/

namespace Schemata

/-- The built-in types without parameters. -/
inductive Primitive
  | string
  | number
  | integer
  | boolean
  | bigint
  | null
  | undefined
  | any
  | unknown
  | never
  | date
  | symbol
deriving DecidableEq, Repr

/-- The name of a built-in type in source and in canonical texts. -/
def Primitive.name : Primitive → String
  | .string => "string"
  | .number => "number"
  | .integer => "integer"
  | .boolean => "boolean"
  | .bigint => "bigint"
  | .null => "null"
  | .undefined => "undefined"
  | .any => "any"
  | .unknown => "unknown"
  | .never => "never"
  | .date => "date"
  | .symbol => "symbol"

/-- All built-in types. -/
def Primitive.all : List Primitive :=
  [.string, .number, .integer, .boolean, .bigint, .null, .undefined, .any, .unknown, .never,
    .date, .symbol]

/-- A type with one value. -/
inductive Literal
  | string (text : String)
  | number (value : Double)
  | boolean (value : Bool)
  | null
deriving DecidableEq, Repr

/-- A literal as source text. -/
def Literal.toSource : Literal → String
  | .string text => Quoted.quote text
  | .number value => value.toSource
  | .boolean true => "true"
  | .boolean false => "false"
  | .null => "null"

/-- A field of an object type. -/
structure Field where
  name : String
  type : ShapeId
  optional : Bool
  readonly : Bool
deriving DecidableEq, Repr

/-- A parameter of a function type. -/
structure Param where
  name : String
  type : ShapeId
  optional : Bool
deriving DecidableEq, Repr

/-- How a function type is written: on its own, or as a member of an object type. -/
inductive FunctionKind
  | function
  | method
  | constructor
deriving DecidableEq, Repr

namespace FunctionKind

/-- Methods and constructors belong to the behaviour of an object, not to its data. -/
def isMember : FunctionKind → Bool
  | .function => false
  | .method => true
  | .constructor => true

/-- The name of the kind inside canonical texts. -/
def canonicalName : FunctionKind → String
  | .function => "Function"
  | .method => "Method"
  | .constructor => "Constructor"

/-- The name of the kind in data formats. -/
def name : FunctionKind → String
  | .function => "function"
  | .method => "method"
  | .constructor => "constructor"

/-- All kinds. -/
def all : List FunctionKind :=
  [.function, .method, .constructor]

end FunctionKind

/-- What a per-key transform makes of each field. -/
inductive PerKey
  | optional
  | nullable
  | array
  | readonly
  | replace (type : ShapeId)
deriving DecidableEq, Repr

/-- A transform of an object type. -/
inductive Transform
  | toPartial
  | toRequired
  | pick (keys : List String)
  | omit (keys : List String)
  | record (value : ShapeId)
  | toReadonly
  | perKey (name : String) (value : PerKey)
deriving DecidableEq, Repr

/-- Bounds and a pattern that narrow a type. -/
structure Constraint where
  min : Option Double
  max : Option Double
  pattern : Option String
deriving DecidableEq, Repr

/-- One node of a type graph. -/
inductive Shape
  | primitive (type : Primitive)
  | literal (value : Literal)
  | array (element : ShapeId)
  | tuple (elements : List ShapeId)
  | object (fields : List Field)
  | union (members : List ShapeId)
  | intersection (members : List ShapeId)
  | generic (params : List String) (body : ShapeId)
  | param (name : String)
  | mapped (source : ShapeId) (transform : Transform)
  | reference (target : ShapeId) (args : List ShapeId)
  | function (kind : FunctionKind) (params : List Param) (returns : ShapeId)
  | refined (base : ShapeId) (constraint : Constraint)
  | unresolved (name : String)
  | unsupported (text : String)
deriving DecidableEq, Repr

/-- The ids that a transform brings in besides its source. -/
def Transform.children : Transform → List ShapeId
  | .record value => [value]
  | .perKey _ (.replace type) => [type]
  | _ => []

/-- The ids a shape refers to, in order. -/
def Shape.children : Shape → List ShapeId
  | .primitive _ => []
  | .literal _ => []
  | .array element => [element]
  | .tuple elements => elements
  | .object fields => fields.map Field.type
  | .union members => members
  | .intersection members => members
  | .generic _ body => [body]
  | .param _ => []
  | .mapped source transform => source :: transform.children
  | .reference target args => target :: args
  | .function _ params returns => params.map Param.type ++ [returns]
  | .refined base _ => [base]
  | .unresolved _ => []
  | .unsupported _ => []

/-- The ways to declare a type. -/
inductive DeclarationKind
  | interface
  | typeAlias
  | classType
deriving DecidableEq, Repr

namespace DeclarationKind

/-- The name of the kind in data formats. -/
def name : DeclarationKind → String
  | .interface => "interface"
  | .typeAlias => "type_alias"
  | .classType => "class"

/-- The name of the kind inside fingerprints. -/
def canonicalName : DeclarationKind → String
  | .interface => "Interface"
  | .typeAlias => "TypeAlias"
  | .classType => "Class"

/-- All kinds. -/
def all : List DeclarationKind :=
  [.interface, .typeAlias, .classType]

end DeclarationKind

/-- A named type of a file. -/
structure Declaration where
  id : ShapeId
  name : String
  file : String
  kind : DeclarationKind
  exported : Bool
deriving DecidableEq, Repr

end Schemata
