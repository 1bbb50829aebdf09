import Schemata.Binary.Codec
import Schemata.Shape.Graph

/-!
# Shapes and graphs as octets

## Main definitions

* `Shape.codec` : one node of a type graph.
* `ShapeGraph.codec` : a graph, entries in order; a repeated id has its last value.
-/

namespace Schemata

open Codec

/-- An id is one word. -/
def ShapeId.codec : Codec ShapeId :=
  word.convert ShapeId.value ShapeId.mk

/-- A floating-point number is its bit pattern. -/
def Double.codec : Codec Double :=
  word.convert Double.bits Double.mk

/-- A primitive type is its place in the list of all. -/
def Primitive.codec : Codec Primitive :=
  oneOf Primitive.all

/-- A literal with its kind in front. -/
def Literal.codec : Codec Literal where
  encode
    | .string t => choice 0 (text.encode t)
    | .number d => choice 1 (Double.codec.encode d)
    | .boolean b => choice 2 (flag.encode b)
    | .null => choice 3 []
  decode? bytes := do
    let (kind, rest) ← tag.decode? bytes
    match kind with
    | 0 => chosen text .string rest
    | 1 => chosen Double.codec .number rest
    | 2 => chosen flag .boolean rest
    | 3 => return (.null, rest)
    | _ => none

/-- A field: name, type and marks. -/
def Field.codec : Codec Field :=
  (text.pair (ShapeId.codec.pair (flag.pair flag))).convert
    (fun f => (f.name, f.type, f.optional, f.readonly))
    (fun (name, type, optional, readonly) => ⟨name, type, optional, readonly⟩)

/-- A parameter: name, type and mark. -/
def Param.codec : Codec Param :=
  (text.pair (ShapeId.codec.pair flag)).convert
    (fun p => (p.name, p.type, p.optional))
    (fun (name, type, optional) => ⟨name, type, optional⟩)

/-- A kind of function is its place in the list of all. -/
def FunctionKind.codec : Codec FunctionKind :=
  oneOf FunctionKind.all

/-- A per-key transform with its kind in front. -/
def PerKey.codec : Codec PerKey where
  encode
    | .optional => choice 0 []
    | .nullable => choice 1 []
    | .array => choice 2 []
    | .readonly => choice 3 []
    | .replace type => choice 4 (ShapeId.codec.encode type)
  decode? bytes := do
    let (kind, rest) ← tag.decode? bytes
    match kind with
    | 0 => return (.optional, rest)
    | 1 => return (.nullable, rest)
    | 2 => return (.array, rest)
    | 3 => return (.readonly, rest)
    | 4 => chosen ShapeId.codec .replace rest
    | _ => none

/-- A transform with its kind in front. -/
def Transform.codec : Codec Transform where
  encode
    | .toPartial => choice 0 []
    | .toRequired => choice 1 []
    | .pick keys => choice 2 ((list text).encode keys)
    | .omit keys => choice 3 ((list text).encode keys)
    | .record value => choice 4 (ShapeId.codec.encode value)
    | .toReadonly => choice 5 []
    | .perKey name value => choice 6 ((text.pair PerKey.codec).encode (name, value))
  decode? bytes := do
    let (kind, rest) ← tag.decode? bytes
    match kind with
    | 0 => return (.toPartial, rest)
    | 1 => return (.toRequired, rest)
    | 2 => chosen (list text) .pick rest
    | 3 => chosen (list text) .omit rest
    | 4 => chosen ShapeId.codec .record rest
    | 5 => return (.toReadonly, rest)
    | 6 => chosen (text.pair PerKey.codec) (fun (name, value) => .perKey name value) rest
    | _ => none

/-- A constraint: bounds and pattern. -/
def Constraint.codec : Codec Constraint :=
  ((optional Double.codec).pair ((optional Double.codec).pair (optional text))).convert
    (fun c => (c.min, c.max, c.pattern))
    (fun (min, max, pattern) => ⟨min, max, pattern⟩)

/-- A shape with its kind in front. -/
def Shape.codec : Codec Shape where
  encode
    | .primitive type => choice 0 (Primitive.codec.encode type)
    | .literal value => choice 1 (Literal.codec.encode value)
    | .array element => choice 2 (ShapeId.codec.encode element)
    | .tuple elements => choice 3 ((list ShapeId.codec).encode elements)
    | .object fields => choice 4 ((list Field.codec).encode fields)
    | .union members => choice 5 ((list ShapeId.codec).encode members)
    | .intersection members => choice 6 ((list ShapeId.codec).encode members)
    | .generic params body =>
      choice 7 (((list text).pair ShapeId.codec).encode (params, body))
    | .param name => choice 8 (text.encode name)
    | .mapped source transform =>
      choice 9 ((ShapeId.codec.pair Transform.codec).encode (source, transform))
    | .reference target args =>
      choice 10 ((ShapeId.codec.pair (list ShapeId.codec)).encode (target, args))
    | .function kind params returns =>
      choice 11 ((FunctionKind.codec.pair ((list Param.codec).pair ShapeId.codec)).encode
        (kind, params, returns))
    | .refined base constraint =>
      choice 12 ((ShapeId.codec.pair Constraint.codec).encode (base, constraint))
    | .unresolved name => choice 13 (text.encode name)
    | .unsupported t => choice 14 (text.encode t)
  decode? bytes := do
    let (kind, rest) ← tag.decode? bytes
    match kind with
    | 0 => chosen Primitive.codec .primitive rest
    | 1 => chosen Literal.codec .literal rest
    | 2 => chosen ShapeId.codec .array rest
    | 3 => chosen (list ShapeId.codec) .tuple rest
    | 4 => chosen (list Field.codec) .object rest
    | 5 => chosen (list ShapeId.codec) .union rest
    | 6 => chosen (list ShapeId.codec) .intersection rest
    | 7 => chosen ((list text).pair ShapeId.codec) (fun (params, body) => .generic params body) rest
    | 8 => chosen text .param rest
    | 9 =>
      chosen (ShapeId.codec.pair Transform.codec)
        (fun (source, transform) => .mapped source transform) rest
    | 10 =>
      chosen (ShapeId.codec.pair (list ShapeId.codec))
        (fun (target, args) => .reference target args) rest
    | 11 =>
      chosen (FunctionKind.codec.pair ((list Param.codec).pair ShapeId.codec))
        (fun (kind, params, returns) => .function kind params returns) rest
    | 12 =>
      chosen (ShapeId.codec.pair Constraint.codec)
        (fun (base, constraint) => .refined base constraint) rest
    | 13 => chosen text .unresolved rest
    | 14 => chosen text .unsupported rest
    | _ => none

/-- A kind of declaration is its place in the list of all. -/
def DeclarationKind.codec : Codec DeclarationKind :=
  oneOf DeclarationKind.all

/-- A declaration: id, name, file, kind and mark. -/
def Declaration.codec : Codec Declaration :=
  (ShapeId.codec.pair (text.pair (text.pair (DeclarationKind.codec.pair flag)))).convert
    (fun d => (d.id, d.name, d.file, d.kind, d.exported))
    (fun (id, name, file, kind, exported) => ⟨id, name, file, kind, exported⟩)

/-- A map as the list of its entries. -/
def OrderedMap.codec {κ ν : Type} [DecidableEq κ] (key : Codec κ) (value : Codec ν) :
    Codec (OrderedMap κ ν) :=
  (list (key.pair value)).convert OrderedMap.entries OrderedMap.ofList

/-- A graph: shapes, then declarations. -/
def ShapeGraph.codec : Codec ShapeGraph :=
  ((OrderedMap.codec ShapeId.codec Shape.codec).pair
    (OrderedMap.codec ShapeId.codec Declaration.codec)).convert
    (fun g => (g.shapes, g.declarations))
    (fun (shapes, declarations) => ⟨shapes, declarations⟩)

end Schemata
