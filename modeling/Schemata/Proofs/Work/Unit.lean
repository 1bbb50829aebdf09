import Mathlib.Data.List.Flatten
import Schemata.Proofs.Binary.Shape
import Schemata.Work.Unit

/-!
# Units read as they were written

## Main results

* `WorkUnit.lawful_codec`, `WorkUnit.decode?_encode_append` : every unit is read back, whatever
  follows it.
* `WorkUnit.decode?_encode_ofGraph` : the units of a graph that is not too long are read back.
-/

namespace Schemata

open Codec

theorem TaskId.lawful_codec : TaskId.codec.Lawful :=
  lawful_word.convert fun _ => rfl

theorem Rule.lawful_codec : Rule.codec.Lawful :=
  (lawful_text.pair lawful_text.optional).convert fun _ => rfl

theorem FieldEntry.lawful_codec : FieldEntry.codec.Lawful :=
  (lawful_text.pair (lawful_flag.pair Rule.lawful_codec)).convert fun _ => rfl

theorem ContextEntry.lawful_codec : ContextEntry.codec.Lawful :=
  (lawful_text.pair (lawful_flag.pair (lawful_text.pair Rule.lawful_codec).list)).convert
    fun _ => rfl

theorem RuleTable.lawful_codec : RuleTable.codec.Lawful :=
  (FieldEntry.lawful_codec.list.pair ContextEntry.lawful_codec.list).convert fun _ => rfl

theorem GenerateOptions.lawful_codec : GenerateOptions.codec.Lawful :=
  (lawful_flag.pair (lawful_flag.pair lawful_text)).convert fun _ => rfl

namespace WorkUnit

theorem lawful_codec : WorkUnit.codec.Lawful :=
  (TaskId.lawful_codec.pair (ShapeGraph.lawful_codec.pair (ShapeId.lawful_codec.list.pair
    (RuleTable.lawful_codec.pair GenerateOptions.lawful_codec)))).convert fun _ => rfl

theorem decode?_encode {unit : WorkUnit} (short : unit.encode.length < UInt64.size) :
    decode? unit.encode = some unit := by
  have read := lawful_codec.reads unit [] short
  rw [List.append_nil] at read
  rw [decode?, encode, read]
  rfl

/-- A unit is read back from the front of any string that begins with it: its graph with all shapes
and declarations in their order, its roots, its rules and its options, down to the bit patterns of
the numbers.  As any other string, what is written has to be of a length that a word can hold. -/
theorem decode?_encode_append (unit : WorkUnit) (short : unit.encode.length < UInt64.size)
    (rest : List UInt8) : decode? (unit.encode ++ rest) = some unit := by
  rw [decode?, encode, lawful_codec.reads unit rest short]
  rfl

/-- A unit with a negative zero, a bound that is no number, names beyond ASCII, a declaration that
comes before the one it needs, and a root that is not declared. -/
def motleyUnit : WorkUnit where
  task := ⟨0xFFFFFFFFFFFFFFFF⟩
  graph :=
    { shapes := ⟨[(⟨9⟩, .object [⟨"größe", ⟨3⟩, true, false⟩, ⟨"", ⟨5⟩, false, true⟩]),
        (⟨3⟩, .refined ⟨4⟩ ⟨some ⟨0x7FF8000000000001⟩, none, some "^\\d+$"⟩),
        (⟨4⟩, .literal (.number ⟨0x8000000000000000⟩)),
        (⟨5⟩, .mapped ⟨9⟩ (.perKey "Sealed" (.replace ⟨6⟩))),
        (⟨6⟩, .function .method [⟨"x", ⟨4⟩, true⟩] ⟨7⟩), (⟨7⟩, .primitive .symbol)], by decide⟩
      declarations := ⟨[(⟨9⟩, ⟨⟨9⟩, "Box", "a.ts", .classType, true⟩),
        (⟨5⟩, ⟨⟨5⟩, "箱", "b.ts", .typeAlias, false⟩)], by decide⟩ }
  roots := [⟨5⟩, ⟨9⟩, ⟨1⟩]
  rules := ⟨[⟨"größe", false, ⟨"z.int()", some "whole"⟩⟩],
    [⟨"^B", true, [("x", ⟨"z.any()", none⟩)]⟩]⟩
  options := { strict := true, exportOnly := true, suffix := "" }

theorem decode?_encode_append_motley :
    motleyUnit.encode.length < UInt64.size ∧
      decode? (motleyUnit.encode ++ [1, 2, 3]) = some motleyUnit := by
  have short : motleyUnit.encode.length < UInt64.size := by decide +kernel
  exact ⟨short, decode?_encode_append motleyUnit short [1, 2, 3]⟩

end WorkUnit

/-! ### The length of a unit -/

theorem Codec.length_list_le {α : Type} (inner : Codec α) {as bs : List α} (h : as.Sublist bs) :
    ((list inner).encode as).length ≤ ((list inner).encode bs).length := by
  simp only [list, List.length_append, length_natural]
  exact Nat.add_le_add_left (h.flatMap inner.encode).length_le _

theorem OrderedMap.length_filterKeys_le {κ ν : Type} [DecidableEq κ] (key : Codec κ)
    (value : Codec ν) (m : OrderedMap κ ν) (keep : κ → Bool) :
    ((OrderedMap.codec key value).encode (m.filterKeys keep)).length
      ≤ ((OrderedMap.codec key value).encode m).length :=
  length_list_le (key.pair value) List.filter_sublist

theorem ShapeGraph.length_restrict_le (graph : ShapeGraph) (roots : List ShapeId) :
    (codec.encode (graph.restrict roots)).length ≤ (codec.encode graph).length := by
  simp only [codec, convert, Codec.pair, List.length_append, restrict]
  exact Nat.add_le_add (OrderedMap.length_filterKeys_le ..) (OrderedMap.length_filterKeys_le ..)

namespace WorkUnit

variable {graph : ShapeGraph} {table : RuleTable} {options : GenerateOptions}

theorem length_roots_le (unit : WorkUnit) : unit.roots.length ≤ unit.encode.length := by
  have count := ShapeId.lawful_codec.length_le unit.roots
  simp only [encode, codec, convert, Codec.pair, list, List.length_append]
  omega

/-- A unit of some of the ids is no longer than the graph with all of them. -/
theorem length_ofGraph_le {roots ids : List ShapeId} (part : roots.Sublist ids) (task : TaskId) :
    (ofGraph task graph roots (.ofTable table) options).encode.length
      ≤ (WorkUnit.mk ⟨0⟩ graph ids table options).encode.length := by
  have smaller := graph.length_restrict_le roots
  have fewer := length_list_le ShapeId.codec part
  have words : (TaskId.codec.encode task).length = (TaskId.codec.encode ⟨0⟩).length :=
    (length_natural 8 _).trans (length_natural 8 _).symm
  have rules : (RuleSet.ofTable table).table = table := rfl
  simp only [ofGraph, encode, codec, convert, Codec.pair, List.length_append, words, rules]
  omega

/-- The units of a graph are read back if the graph, with all ids and rules, is not too long. -/
theorem decode?_encode_ofGraph {ids : List ShapeId}
    (short : (WorkUnit.mk ⟨0⟩ graph ids table options).encode.length < UInt64.size)
    {roots : List ShapeId} (part : roots.Sublist ids) (task : TaskId) :
    decode? (ofGraph task graph roots (.ofTable table) options).encode
      = some (ofGraph task graph roots (.ofTable table) options) :=
  decode?_encode (Nat.lt_of_le_of_lt (length_ofGraph_le part task) short)

end WorkUnit

end Schemata
