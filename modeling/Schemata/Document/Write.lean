import Schemata.Document.Basic

/-!
# Writing documents

The JSON form of a document: every field is written, also those that have their default value.
Expressions and transforms are objects that name their kind first.

## Main definitions

* `Document.toJson`, `Document.write` : the JSON form of a document, as a value and as a text.
-/

namespace Schemata

/-- A list of texts. -/
def Json.texts (texts : List String) : Json :=
  .array (texts.map Json.string)

/-- An optional value, absent as null. -/
def Json.ofOption {α : Type} (write : α → Json) : Option α → Json
  | none => .null
  | some value => write value

mutual

/-- The JSON form of a type expression. -/
def SourceType.toJson : SourceType → Json
  | .primitive type => .object [("kind", .string type.name)]
  | .literal value => .object [("kind", .string "literal"), ("value", value)]
  | .array element => .object [("kind", .string "array"), ("element", element.toJson)]
  | .tuple elements =>
    .object [("kind", .string "tuple"), ("elements", .array (SourceType.listToJson elements))]
  | .object fields =>
    .object [("kind", .string "object"), ("fields", .array (SourceField.listToJson fields))]
  | .union members =>
    .object [("kind", .string "union"), ("members", .array (SourceType.listToJson members))]
  | .intersection members =>
    .object [("kind", .string "intersection"),
      ("members", .array (SourceType.listToJson members))]
  | .generic params body =>
    .object [("kind", .string "generic"), ("params", Json.texts params), ("body", body.toJson)]
  | .param name => .object [("kind", .string "param"), ("name", .string name)]
  | .mapped source transform =>
    .object [("kind", .string "mapped"), ("source", source.toJson),
      ("transform", transform.toJson)]
  | .ref name args =>
    .object [("kind", .string "ref"), ("name", .string name),
      ("args", .array (SourceType.listToJson args))]
  | .function kind params returns =>
    .object [("kind", .string "function"), ("function", .string kind.name),
      ("params", .array (SourceParam.listToJson params)), ("returns", returns.toJson)]
  | .refined base constraint =>
    .object [("kind", .string "refined"), ("base", base.toJson),
      ("min", Json.ofOption .float constraint.min), ("max", Json.ofOption .float constraint.max),
      ("pattern", Json.ofOption .string constraint.pattern)]
  | .unsupported text => .object [("kind", .string "unsupported"), ("text", .string text)]

/-- The JSON forms of a list of type expressions. -/
def SourceType.listToJson : List SourceType → List Json
  | [] => []
  | type :: rest => type.toJson :: SourceType.listToJson rest

/-- The JSON form of a field. -/
def SourceField.toJson : SourceField → Json
  | .mk name optional readonly type =>
    .object [("name", .string name), ("optional", .bool optional), ("readonly", .bool readonly),
      ("type", type.toJson)]

/-- The JSON forms of a list of fields. -/
def SourceField.listToJson : List SourceField → List Json
  | [] => []
  | field :: rest => field.toJson :: SourceField.listToJson rest

/-- The JSON form of a parameter. -/
def SourceParam.toJson : SourceParam → Json
  | .mk name optional type =>
    .object [("name", .string name), ("optional", .bool optional), ("type", type.toJson)]

/-- The JSON forms of a list of parameters. -/
def SourceParam.listToJson : List SourceParam → List Json
  | [] => []
  | param :: rest => param.toJson :: SourceParam.listToJson rest

/-- The JSON form of a transform. -/
def SourceTransform.toJson : SourceTransform → Json
  | .toPartial => .object [("type", .string "partial")]
  | .toRequired => .object [("type", .string "required")]
  | .pick keys => .object [("type", .string "pick"), ("keys", Json.texts keys)]
  | .omit keys => .object [("type", .string "omit"), ("keys", Json.texts keys)]
  | .record value => .object [("type", .string "record"), ("value", value.toJson)]
  | .toReadonly => .object [("type", .string "readonly")]
  | .perKey name value =>
    .object [("type", .string "per_key"), ("name", .string name), ("value", value.toJson)]

/-- The JSON form of what a per-key transform does. -/
def SourcePerKey.toJson : SourcePerKey → Json
  | .optional => .object [("type", .string "optional")]
  | .nullable => .object [("type", .string "nullable")]
  | .array => .object [("type", .string "array")]
  | .readonly => .object [("type", .string "readonly")]
  | .replace type => .object [("type", .string "replace"), ("value", type.toJson)]

end

/-- The JSON form of a declaration. -/
def SourceDeclaration.toJson (d : SourceDeclaration) : Json :=
  .object [("name", .string d.name), ("kind", .string d.kind.name), ("exported", .bool d.exported),
    ("params", Json.texts d.params), ("type", d.type.toJson)]

/-- The JSON form of a document. -/
def Document.toJson (d : Document) : Json :=
  .object [("file", .string d.file),
    ("declarations", .array (d.declarations.map SourceDeclaration.toJson))]

/-- The text of a document. -/
def Document.write (d : Document) : String :=
  d.toJson.compact

end Schemata
