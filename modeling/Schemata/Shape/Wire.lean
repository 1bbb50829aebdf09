import Schemata.Shape.Basic
import Schemata.Validator.Wire

/-!
# The JSON form of shapes

Shapes are written as objects whose one member is named after the kind of shape; ids are numbers.

## Main definitions

* `Shape.toJson` : the JSON form of a shape.
* `Shape.ofJson?` : reads that form back.
-/

namespace Schemata

namespace ShapeId

/-- The JSON form of an id. -/
def toJson (id : ShapeId) : Json :=
  .int id.value.toNat

/-- Reads an id: a number of 64 bits. -/
def ofJson? : Json → Option ShapeId
  | .int n => if 0 ≤ n ∧ n < Nat.pow 2 64 then some ⟨UInt64.ofNat n.toNat⟩ else none
  | _ => none

end ShapeId

/-- The JSON form of a list of ids. -/
def idsToJson (ids : List ShapeId) : Json :=
  .array (ids.map ShapeId.toJson)

/-- The JSON form of a list of texts. -/
def textsToJson (texts : List String) : Json :=
  .array (texts.map .string)

namespace PerKey

/-- The JSON form of the change of a field. -/
def toJson : PerKey → Json
  | .optional => .string "optional"
  | .nullable => .string "nullable"
  | .array => .string "array"
  | .readonly => .string "readonly"
  | .replace type => .variant "replace" type.toJson

/-- Reads the JSON form of the change of a field. -/
def ofJson? (value : Json) : Option PerKey := do
  match ← value.variant? with
  | ("optional", contents) => (Json.unit? contents).map fun _ => .optional
  | ("nullable", contents) => (Json.unit? contents).map fun _ => .nullable
  | ("array", contents) => (Json.unit? contents).map fun _ => .array
  | ("readonly", contents) => (Json.unit? contents).map fun _ => .readonly
  | ("replace", some type) => return .replace (← ShapeId.ofJson? type)
  | _ => none

end PerKey

namespace Transform

/-- The JSON form of a transform. -/
def toJson : Transform → Json
  | .toPartial => .string "partial"
  | .toRequired => .string "required"
  | .pick keys => .variant "pick" (textsToJson keys)
  | .omit keys => .variant "omit" (textsToJson keys)
  | .record value => .variant "record" (.object [("value", value.toJson)])
  | .toReadonly => .string "readonly"
  | .perKey name value =>
    .variant "per_key" (.object [("name", .string name), ("value", value.toJson)])

/-- Reads the JSON form of a transform. -/
def ofJson? (value : Json) : Option Transform := do
  match ← value.variant? with
  | ("partial", contents) => (Json.unit? contents).map fun _ => .toPartial
  | ("required", contents) => (Json.unit? contents).map fun _ => .toRequired
  | ("pick", some keys) => return .pick (← keys.list? Json.text?)
  | ("omit", some keys) => return .omit (← keys.list? Json.text?)
  | ("record", some parts) =>
    match ← Json.membersOf ["value"] parts with
    | [some value] => return .record (← ShapeId.ofJson? value)
    | _ => none
  | ("readonly", contents) => (Json.unit? contents).map fun _ => .toReadonly
  | ("per_key", some parts) =>
    match ← Json.membersOf ["name", "value"] parts with
    | [some name, some value] => return .perKey (← name.text?) (← PerKey.ofJson? value)
    | _ => none
  | _ => none

end Transform

/-- The JSON form of a field. -/
def Field.toJson (field : Field) : Json :=
  .object [("name", .string field.name), ("ty", field.type.toJson),
    ("optional", .bool field.optional), ("readonly", .bool field.readonly)]

/-- Reads the JSON form of a field. -/
def Field.ofJson? (value : Json) : Option Field := do
  match ← (← value.body?).parts ["name", "ty", "optional", "readonly"] with
  | [some name, some type, optional, readonly] =>
    return ⟨← name.text?, ← ShapeId.ofJson? type, ← Json.optionalPart Json.flag? false optional,
      ← Json.optionalPart Json.flag? false readonly⟩
  | _ => none

/-- The JSON form of a parameter. -/
def Param.toJson (param : Param) : Json :=
  .object [("name", .string param.name), ("ty", param.type.toJson),
    ("optional", .bool param.optional)]

/-- Reads the JSON form of a parameter. -/
def Param.ofJson? (value : Json) : Option Param := do
  match ← (← value.body?).parts ["name", "ty", "optional"] with
  | [some name, some type, optional] =>
    return ⟨← name.text?, ← ShapeId.ofJson? type, ← Json.optionalPart Json.flag? false optional⟩
  | _ => none

/-- The JSON form of a constraint. -/
def Constraint.toJson (constraint : Constraint) : Json :=
  .object [("min", (constraint.min.map Json.float).getD .null),
    ("max", (constraint.max.map Json.float).getD .null),
    ("pattern", (constraint.pattern.map Json.string).getD .null)]

/-- Reads the JSON form of a constraint. -/
def Constraint.ofJson? (value : Json) : Option Constraint := do
  match ← (← value.body?).parts ["min", "max", "pattern"] with
  | [min, max, pattern] =>
    return ⟨← Json.optionalPart (Json.nullable? Json.double?) none min,
      ← Json.optionalPart (Json.nullable? Json.double?) none max,
      ← Json.optionalPart (Json.nullable? Json.text?) none pattern⟩
  | _ => none

/-- Reads the name of a kind of function. -/
def FunctionKind.ofJson? (value : Json) : Option FunctionKind := do
  let (name, contents) ← value.variant?
  Json.unit? contents
  FunctionKind.all.find? (·.name = name)

namespace Shape

/-- The JSON form of a shape. -/
def toJson : Shape → Json
  | .primitive type => .variant "primitive" type.toJson
  | .literal value => .variant "literal" value.toJson
  | .array element => .variant "array" element.toJson
  | .tuple elements => .variant "tuple" (idsToJson elements)
  | .object fields => .variant "object" (.array (fields.map Field.toJson))
  | .union members => .variant "union" (idsToJson members)
  | .intersection members => .variant "intersection" (idsToJson members)
  | .generic params body =>
    .variant "generic" (.object [("params", textsToJson params), ("body", body.toJson)])
  | .param name => .variant "param" (.string name)
  | .mapped source transform =>
    .variant "mapped" (.object [("source", source.toJson), ("transform", transform.toJson)])
  | .reference target args =>
    .variant "reference" (.object [("target", target.toJson), ("args", idsToJson args)])
  | .function kind params returns =>
    .variant "function" (.object [("kind", .string kind.name),
      ("params", .array (params.map Param.toJson)), ("returns", returns.toJson)])
  | .refined base constraint =>
    .variant "refined" (.object [("base", base.toJson), ("constraint", constraint.toJson)])
  | .unresolved name => .variant "unresolved" (.string name)
  | .unsupported text => .variant "unsupported" (.string text)

/-- Reads the JSON form of a shape. -/
def ofJson? (value : Json) : Option Shape := do
  match ← value.variant? with
  | ("primitive", some type) => return .primitive (← Primitive.ofJson? type)
  | ("literal", some value) => return .literal (← Literal.ofJson? value)
  | ("array", some element) => return .array (← ShapeId.ofJson? element)
  | ("tuple", some elements) => return .tuple (← elements.list? ShapeId.ofJson?)
  | ("object", some fields) => return .object (← fields.list? Field.ofJson?)
  | ("union", some members) => return .union (← members.list? ShapeId.ofJson?)
  | ("intersection", some members) => return .intersection (← members.list? ShapeId.ofJson?)
  | ("generic", some parts) =>
    match ← Json.membersOf ["params", "body"] parts with
    | [some params, some body] =>
      return .generic (← params.list? Json.text?) (← ShapeId.ofJson? body)
    | _ => none
  | ("param", some name) => return .param (← name.text?)
  | ("mapped", some parts) =>
    match ← Json.membersOf ["source", "transform"] parts with
    | [some source, some transform] =>
      return .mapped (← ShapeId.ofJson? source) (← Transform.ofJson? transform)
    | _ => none
  | ("reference", some parts) =>
    match ← Json.membersOf ["target", "args"] parts with
    | [some target, some args] =>
      return .reference (← ShapeId.ofJson? target) (← args.list? ShapeId.ofJson?)
    | _ => none
  | ("function", some parts) =>
    match ← Json.membersOf ["kind", "params", "returns"] parts with
    | [some kind, some params, some returns] =>
      return .function (← FunctionKind.ofJson? kind) (← params.list? Param.ofJson?)
        (← ShapeId.ofJson? returns)
    | _ => none
  | ("refined", some parts) =>
    match ← Json.membersOf ["base", "constraint"] parts with
    | [some base, some constraint] =>
      return .refined (← ShapeId.ofJson? base) (← Constraint.ofJson? constraint)
    | _ => none
  | ("unresolved", some name) => return .unresolved (← name.text?)
  | ("unsupported", some text) => return .unsupported (← text.text?)
  | _ => none

end Shape

end Schemata
