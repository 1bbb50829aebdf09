import Schemata.Json.Parts
import Schemata.Validator.Basic

/-!
# The JSON form of validators

Kinds and modifiers are written as their name, or as an object whose one member is named after
them.

## Main definitions

* `Validator.toJson` : the JSON form of a validator.
* `Validator.ofJson?` : reads that form back.
-/

namespace Schemata

/-- The name of a built-in type in data formats. -/
def Primitive.wireName : Primitive → String
  | .bigint => "big_int"
  | type => type.name

/-- The JSON form of a built-in type. -/
def Primitive.toJson (type : Primitive) : Json :=
  .string type.wireName

/-- Reads the JSON form of a built-in type. -/
def Primitive.ofJson? (value : Json) : Option Primitive := do
  let (name, contents) ← value.variant?
  Json.unit? contents
  Primitive.all.find? (·.wireName = name)

namespace Literal

/-- The JSON form of a literal. -/
def toJson : Literal → Json
  | .string text => .variant "string" (.string text)
  | .number value => .variant "number" (.float value)
  | .boolean value => .variant "boolean" (.bool value)
  | .null => .string "null"

/-- Reads the JSON form of a literal. -/
def ofJson? (value : Json) : Option Literal := do
  match ← value.variant? with
  | ("string", some text) => return .string (← text.text?)
  | ("number", some n) => return .number (← n.double?)
  | ("boolean", some b) => return .boolean (← b.flag?)
  | ("null", contents) => (Json.unit? contents).map fun _ => .null
  | _ => none

end Literal

namespace Modifier

/-- The JSON form of a modifier. -/
def toJson : Modifier → Json
  | .optional => .string "optional"
  | .nullable => .string "nullable"
  | .readonly => .string "readonly"
  | .toPartial => .string "partial"
  | .toRequired => .string "required"
  | .pick keys => .variant "pick" (.array (keys.map .string))
  | .omit keys => .variant "omit" (.array (keys.map .string))
  | .bounds min max =>
    .variant "bounds" (.object [("min", (min.map Json.float).getD .null),
      ("max", (max.map Json.float).getD .null)])
  | .pattern text => .variant "pattern" (.string text)
  | .message text => .variant "message" (.string text)

/-- Reads the JSON form of a modifier. -/
def ofJson? (value : Json) : Option Modifier := do
  match ← value.variant? with
  | ("optional", contents) => (Json.unit? contents).map fun _ => .optional
  | ("nullable", contents) => (Json.unit? contents).map fun _ => .nullable
  | ("readonly", contents) => (Json.unit? contents).map fun _ => .readonly
  | ("partial", contents) => (Json.unit? contents).map fun _ => .toPartial
  | ("required", contents) => (Json.unit? contents).map fun _ => .toRequired
  | ("pick", some keys) => return .pick (← keys.list? Json.text?)
  | ("omit", some keys) => return .omit (← keys.list? Json.text?)
  | ("bounds", some (.object members)) =>
    match ← (Json.Body.members members).parts ["min", "max"] with
    | [min, max] =>
      return .bounds (← Json.optionalPart (Json.nullable? Json.double?) none min)
        (← Json.optionalPart (Json.nullable? Json.double?) none max)
    | _ => none
  | ("pattern", some text) => return .pattern (← text.text?)
  | ("message", some text) => return .message (← text.text?)
  | _ => none

end Modifier

namespace Validator

mutual

/-- The JSON form of a validator. -/
def toJson : Validator → Json
  | .mk kind modifiers =>
    .object [("kind", kindToJson kind), ("modifiers", .array (modifiers.map Modifier.toJson))]

/-- The JSON form of a kind. -/
def kindToJson : ValidatorKind → Json
  | .primitive type => .variant "primitive" type.toJson
  | .literal value => .variant "literal" value.toJson
  | .array element => .variant "array" (toJson element)
  | .tuple items => .variant "tuple" (.array (listToJson items))
  | .object entries => .variant "object" (.array (entriesToJson entries))
  | .union members => .variant "union" (.array (listToJson members))
  | .intersection members => .variant "intersection" (.array (listToJson members))
  | .record key value => .variant "record" (.object [("key", toJson key), ("value", toJson value)])
  | .function params returns =>
    .variant "function"
      (.object [("params", .array (listToJson params)), ("returns", toJson returns)])
  | .ref name args =>
    .variant "ref" (.object [("name", .string name), ("args", .array (listToJson args))])
  | .deferred name args =>
    .variant "lazy" (.object [("name", .string name), ("args", .array (listToJson args))])
  | .generic params body =>
    .variant "generic"
      (.object [("params", .array (params.map .string)), ("body", toJson body)])
  | .param name => .variant "param" (.string name)
  | .expression text => .variant "expression" (.string text)
  | .template text base =>
    .variant "template" (.object [("template", .string text), ("base", toJson base)])

/-- The JSON forms of a list of validators. -/
def listToJson : List Validator → List Json
  | [] => []
  | v :: rest => toJson v :: listToJson rest

/-- The JSON forms of the entries of an object. -/
def entriesToJson : List (String × Validator) → List Json
  | [] => []
  | (name, v) :: rest =>
    .object [("name", .string name), ("validator", toJson v)] :: entriesToJson rest

end

section Parts

variable (read : Json → Option Validator)

/-- Reads an entry of an object validator. -/
def entryOfJson? (value : Json) : Option (String × Validator) := do
  match ← (← value.body?).parts ["name", "validator"] with
  | [some name, some v] => return (← name.text?, ← read v)
  | _ => none

/-- Reads the JSON form of a kind, the validators in it by `read`. -/
def kindOfJson? (value : Json) : Option ValidatorKind := do
  match ← value.variant? with
  | ("primitive", some type) => return .primitive (← Primitive.ofJson? type)
  | ("literal", some value) => return .literal (← Literal.ofJson? value)
  | ("array", some element) => return .array (← read element)
  | ("tuple", some items) => return .tuple (← items.list? read)
  | ("object", some entries) => return .object (← entries.list? (entryOfJson? read))
  | ("union", some members) => return .union (← members.list? read)
  | ("intersection", some members) => return .intersection (← members.list? read)
  | ("record", some parts) =>
    match ← Json.membersOf ["key", "value"] parts with
    | [some key, some value] => return .record (← read key) (← read value)
    | _ => none
  | ("function", some parts) =>
    match ← Json.membersOf ["params", "returns"] parts with
    | [some params, some returns] => return .function (← params.list? read) (← read returns)
    | _ => none
  | ("ref", some parts) =>
    match ← Json.membersOf ["name", "args"] parts with
    | [some name, some args] => return .ref (← name.text?) (← args.list? read)
    | _ => none
  | ("lazy", some parts) =>
    match ← Json.membersOf ["name", "args"] parts with
    | [some name, some args] => return .deferred (← name.text?) (← args.list? read)
    | _ => none
  | ("generic", some parts) =>
    match ← Json.membersOf ["params", "body"] parts with
    | [some params, some body] => return .generic (← params.list? Json.text?) (← read body)
    | _ => none
  | ("param", some name) => return .param (← name.text?)
  | ("expression", some text) => return .expression (← text.text?)
  | ("template", some parts) =>
    match ← Json.membersOf ["template", "base"] parts with
    | [some text, some base] => return .template (← text.text?) (← read base)
    | _ => none
  | _ => none

end Parts

/-- Reads the JSON form of a validator that is nested at most `budget` deep. -/
def ofJson? : Nat → Json → Option Validator
  | 0, _ => none
  | budget + 1, value => do
    match ← (← value.body?).parts ["kind", "modifiers"] with
    | [some kind, modifiers] =>
      let kind ← kindOfJson? (ofJson? budget) kind
      let modifiers ← Json.optionalPart (Json.list? Modifier.ofJson?) [] modifiers
      return .mk kind modifiers
    | _ => none

end Validator

end Schemata
