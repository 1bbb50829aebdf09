import Schemata.Proofs.Shape.Cycle

/-!
# Selected declarations

Either all declarations of a graph are selected, or the exported ones with everything that paths of
mentions lead to from them.  In both cases nothing leads out of the selection.

## Main results

* `ShapeGraph.Filed.mem_select_iff` : which declarations are selected.
* `ShapeGraph.Filed.mem_select_of_path` : what a selected declaration leads to is selected.
-/

namespace Schemata.ShapeGraph

open Relation

variable {g : ShapeGraph}

/-- The declaration is exported. -/
def Exported (g : ShapeGraph) (id : ShapeId) : Prop :=
  ∃ d, g.declaration? id = some d ∧ d.exported

theorem Filed.mem_exported_iff (filed : g.Filed) {id : ShapeId} :
    id ∈ (g.declarations.values.filter (·.exported)).map Declaration.id ↔ g.Exported id := by
  simp only [OrderedMap.values, List.mem_map, List.mem_filter]
  constructor
  · rintro ⟨d, ⟨⟨e, listed, rfl⟩, exported⟩, rfl⟩
    rw [filed e listed]
    exact ⟨e.2, g.declarations.get?_eq_some_iff.mpr listed, exported⟩
  · rintro ⟨d, found, exported⟩
    have listed := g.declarations.get?_eq_some_iff.mp found
    exact ⟨d, ⟨⟨(id, d), listed, rfl⟩, exported⟩, filed.id_eq found⟩

/-- Selected are the declarations, or those that an exported one leads to along mentions. -/
theorem Filed.mem_select_iff (filed : g.Filed) {exportOnly : Bool} {id : ShapeId} :
    id ∈ g.select exportOnly ↔ g.isDeclared id ∧
      (exportOnly → ∃ root, g.Exported root ∧ ReflTransGen g.Mentions root id) := by
  unfold select
  cases exportOnly with
  | false => simpa using filed.mem_declaredIds_iff
  | true =>
    simp only [if_true, List.mem_filter, List.contains_iff_mem, Walk.mem_preorder_iff,
      filed.mem_declaredIds_iff, filed.mem_exported_iff, forall_const]
    refine and_congr_right fun _ => exists_congr fun root => and_congr_right ?_
    rintro ⟨d, found, -⟩
    exact filed.reflTransGen_leads_iff (g.isDeclared_of_declaration? found)

theorem select_sublist (g : ShapeGraph) (exportOnly : Bool) :
    (g.select exportOnly).Sublist g.declaredIds := by
  unfold select
  split
  · exact List.filter_sublist
  · exact List.Sublist.refl _

theorem Filed.nodup_select (filed : g.Filed) (exportOnly : Bool) : (g.select exportOnly).Nodup := by
  have distinct : g.declaredIds.Nodup := filed.declaredIds_eq ▸ g.declarations.nodup
  exact distinct.sublist (g.select_sublist exportOnly)

/-- What a selected declaration leads to is selected. -/
theorem Filed.mem_select_of_path (filed : g.Filed) {exportOnly : Bool} {id target : ShapeId}
    (selected : id ∈ g.select exportOnly) (path : ReflTransGen g.Child id target)
    (declared : g.isDeclared target) : target ∈ g.select exportOnly := by
  obtain ⟨-, reached⟩ := filed.mem_select_iff.mp selected
  refine filed.mem_select_iff.mpr ⟨declared, fun only => ?_⟩
  obtain ⟨root, exported, mentions⟩ := reached only
  refine ⟨root, exported, ?_⟩
  rcases g.eq_or_mentions_of_path path declared with rfl | further
  · exact mentions
  · exact mentions.trans further.to_reflTransGen

end Schemata.ShapeGraph
