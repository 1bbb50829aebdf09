import Schemata.Binary.Shape
import Schemata.Proofs.Binary.Codec
import Schemata.Proofs.OrderedMap

/-!
# Shapes and graphs read as they were written

## Main results

* `Shape.lawful_codec` : every shape is read back.
* `ShapeGraph.lawful_codec` : every graph is read back, with its entries in order.
-/

namespace Schemata

open Codec

theorem ShapeId.lawful_codec : ShapeId.codec.Lawful :=
  lawful_word.convert fun _ => rfl

theorem Double.lawful_codec : Double.codec.Lawful :=
  lawful_word.convert fun _ => rfl

theorem Primitive.lawful_codec : Primitive.codec.Lawful :=
  lawful_oneOf (fun a => by cases a <;> decide) (by decide)

theorem FunctionKind.lawful_codec : FunctionKind.codec.Lawful :=
  lawful_oneOf (fun a => by cases a <;> decide) (by decide)

theorem DeclarationKind.lawful_codec : DeclarationKind.codec.Lawful :=
  lawful_oneOf (fun a => by cases a <;> decide) (by decide)

theorem Field.lawful_codec : Field.codec.Lawful :=
  (lawful_text.pair (ShapeId.lawful_codec.pair (lawful_flag.pair lawful_flag))).convert fun _ => rfl

theorem Param.lawful_codec : Param.codec.Lawful :=
  (lawful_text.pair (ShapeId.lawful_codec.pair lawful_flag)).convert fun _ => rfl

theorem Constraint.lawful_codec : Constraint.codec.Lawful :=
  (Double.lawful_codec.optional.pair
    (Double.lawful_codec.optional.pair lawful_text.optional)).convert fun _ => rfl

theorem Declaration.lawful_codec : Declaration.codec.Lawful :=
  (ShapeId.lawful_codec.pair (lawful_text.pair (lawful_text.pair
    (DeclarationKind.lawful_codec.pair lawful_flag)))).convert fun _ => rfl

theorem Literal.lawful_codec : Literal.codec.Lawful where
  reads a rest short := by
    cases a with
    | string => simp [codec, tag_choice, lawful_text.chosen _ (lt_of_choice short)]
    | number => simp [codec, tag_choice, Double.lawful_codec.chosen _ (lt_of_choice short)]
    | boolean => simp [codec, tag_choice, lawful_flag.chosen _ (lt_of_choice short)]
    | null => simp [codec, tag_choice]
  writes a := by cases a <;> exact choice_pos _ _

theorem PerKey.lawful_codec : PerKey.codec.Lawful where
  reads a rest short := by
    cases a with
    | replace => simp [codec, tag_choice, ShapeId.lawful_codec.chosen _ (lt_of_choice short)]
    | _ => simp [codec, tag_choice]
  writes a := by cases a <;> exact choice_pos _ _

theorem Transform.lawful_codec : Transform.codec.Lawful where
  reads a rest short := by
    cases a with
    | toPartial | toRequired | toReadonly => simp [codec, tag_choice]
    | record => simp [codec, tag_choice, ShapeId.lawful_codec.chosen _ (lt_of_choice short)]
    | perKey =>
      simp [codec, tag_choice, (lawful_text.pair PerKey.lawful_codec).chosen _ (lt_of_choice short)]
    | _ => simp [codec, tag_choice, lawful_text.list.chosen _ (lt_of_choice short)]
  writes a := by cases a <;> exact choice_pos _ _

theorem Shape.lawful_codec : Shape.codec.Lawful where
  reads a rest short := by
    have ids := ShapeId.lawful_codec
    cases a with
    | primitive => simp [codec, tag_choice, Primitive.lawful_codec.chosen _ (lt_of_choice short)]
    | literal => simp [codec, tag_choice, Literal.lawful_codec.chosen _ (lt_of_choice short)]
    | array => simp [codec, tag_choice, ids.chosen _ (lt_of_choice short)]
    | object => simp [codec, tag_choice, Field.lawful_codec.list.chosen _ (lt_of_choice short)]
    | tuple | union | intersection =>
      simp [codec, tag_choice, ids.list.chosen _ (lt_of_choice short)]
    | generic => simp [codec, tag_choice, (lawful_text.list.pair ids).chosen _ (lt_of_choice short)]
    | param | unresolved | unsupported =>
      simp [codec, tag_choice, lawful_text.chosen _ (lt_of_choice short)]
    | mapped =>
      simp [codec, tag_choice, (ids.pair Transform.lawful_codec).chosen _ (lt_of_choice short)]
    | reference => simp [codec, tag_choice, (ids.pair ids.list).chosen _ (lt_of_choice short)]
    | function =>
      have parts := FunctionKind.lawful_codec.pair (Param.lawful_codec.list.pair ids)
      simp [codec, tag_choice, parts.chosen _ (lt_of_choice short)]
    | refined =>
      simp [codec, tag_choice, (ids.pair Constraint.lawful_codec).chosen _ (lt_of_choice short)]
  writes a := by cases a <;> exact choice_pos _ _

theorem OrderedMap.lawful_codec {κ ν : Type} [DecidableEq κ] {key : Codec κ} {value : Codec ν}
    (hk : key.Lawful) (hv : value.Lawful) : (OrderedMap.codec key value).Lawful :=
  (hk.pair hv).list.convert OrderedMap.ofList_entries

theorem ShapeGraph.lawful_codec : ShapeGraph.codec.Lawful :=
  ((OrderedMap.lawful_codec ShapeId.lawful_codec Shape.lawful_codec).pair
    (OrderedMap.lawful_codec ShapeId.lawful_codec Declaration.lawful_codec)).convert fun _ => rfl

end Schemata
