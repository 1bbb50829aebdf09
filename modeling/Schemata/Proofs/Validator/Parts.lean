import Schemata.Validator.Basic

/-!
# The parts of a validator

A validator is a tree, and its parts are the validators in it.  All that is collected from a tree is
found at one of its parts, and the parts of a tree are its root and the parts of its children.

## Main definitions

* `Validator.parts` : the validators of a tree.
* `Validator.Everywhere` : all parts have a property.

## Main results

* `Validator.collect_eq_flatMap_parts` : what is collected is found at the parts.
* `Validator.everywhere_iff` : a property holds everywhere if it holds at the root and everywhere in
  the children.
* `Validator.children_induction` : what passes from the children to the root holds of every tree.
-/

namespace Schemata

namespace Validator

variable {α : Type} (f : Validator → List α)

/-- The validators of a tree, outer ones first. -/
def parts (v : Validator) : List Validator :=
  v.collect fun w => [w]

mutual

theorem collect_eq_flatMap_parts : ∀ v : Validator, v.collect f = v.parts.flatMap f
  | .mk kind modifiers => by
    simp only [parts, collect, List.flatMap_append, List.flatMap_singleton,
      collectKind_eq_flatMap kind]

theorem collectKind_eq_flatMap : ∀ kind : ValidatorKind,
    collectKind f kind = (collectKind (fun w => [w]) kind).flatMap f
  | .primitive _ | .literal _ | .param _ | .expression _ => rfl
  | .array element => collect_eq_flatMap_parts element
  | .generic _ body => collect_eq_flatMap_parts body
  | .template _ base => collect_eq_flatMap_parts base
  | .tuple items => collectList_eq_flatMap items
  | .union members => collectList_eq_flatMap members
  | .intersection members => collectList_eq_flatMap members
  | .ref _ args => collectList_eq_flatMap args
  | .deferred _ args => collectList_eq_flatMap args
  | .object entries => collectEntries_eq_flatMap entries
  | .record key value => by
    have hk := collect_eq_flatMap_parts key
    have hv := collect_eq_flatMap_parts value
    simp only [collectKind, List.flatMap_append, hk, hv, parts]
  | .function params returns => by
    have hp := collectList_eq_flatMap params
    have hr := collect_eq_flatMap_parts returns
    simp only [collectKind, List.flatMap_append, hp, hr, parts]

theorem collectList_eq_flatMap : ∀ vs : List Validator,
    collectList f vs = (collectList (fun w => [w]) vs).flatMap f
  | [] => rfl
  | v :: rest => by
    have hv := collect_eq_flatMap_parts v
    simp only [collectList, List.flatMap_append, hv, collectList_eq_flatMap rest, parts]

theorem collectEntries_eq_flatMap : ∀ entries : List (String × Validator),
    collectEntries f entries = (collectEntries (fun w => [w]) entries).flatMap f
  | [] => rfl
  | (_, v) :: rest => by
    have hv := collect_eq_flatMap_parts v
    simp only [collectEntries, List.flatMap_append, hv, collectEntries_eq_flatMap rest, parts]

end

theorem collectList_eq (vs : List Validator) : collectList f vs = vs.flatMap (collect f) := by
  induction vs with
  | nil => rfl
  | cons v rest ih => simp [collectList, ih]

theorem collectEntries_eq (entries : List (String × Validator)) :
    collectEntries f entries = (entries.map Prod.snd).flatMap (collect f) := by
  induction entries with
  | nil => rfl
  | cons e rest ih => simp [collectEntries, ih]

/-- What is collected comes from the validator itself and from those inside. -/
theorem collect_eq (v : Validator) :
    v.collect f = f v ++ v.kind.children.flatMap (collect f) := by
  obtain ⟨kind, modifiers⟩ := v
  cases kind <;>
    simp [collect, collectKind, kind, ValidatorKind.children, collectList_eq, collectEntries_eq]

theorem mem_parts_iff {v w : Validator} :
    w ∈ v.parts ↔ w = v ∨ ∃ child ∈ v.kind.children, w ∈ child.parts := by
  rw [parts, collect_eq, List.mem_append, List.mem_singleton, List.mem_flatMap]
  rfl

theorem sizeOf_lt_of_mem_children {v child : Validator} (member : child ∈ v.kind.children) :
    sizeOf child < sizeOf v := by
  obtain ⟨kind, modifiers⟩ := v
  have inside : sizeOf kind < sizeOf (Validator.mk kind modifiers) := by
    simp only [mk.sizeOf_spec]
    omega
  refine Nat.lt_trans ?_ inside
  cases kind with
  | primitive | literal | param | expression => cases member
  | array | generic | template =>
    obtain rfl := List.mem_singleton.mp member
    simp only [ValidatorKind.array.sizeOf_spec, ValidatorKind.generic.sizeOf_spec,
      ValidatorKind.template.sizeOf_spec]
    omega
  | tuple vs | union vs | intersection vs | ref _ vs | deferred _ vs =>
    have smaller : sizeOf child < sizeOf vs := List.sizeOf_lt_of_mem member
    simp only [ValidatorKind.tuple.sizeOf_spec, ValidatorKind.union.sizeOf_spec,
      ValidatorKind.intersection.sizeOf_spec, ValidatorKind.ref.sizeOf_spec,
      ValidatorKind.deferred.sizeOf_spec]
    omega
  | object entries =>
    obtain ⟨⟨name, v⟩, listed, rfl⟩ := List.mem_map.mp member
    have smaller : sizeOf (name, v) < sizeOf entries := List.sizeOf_lt_of_mem listed
    simp only [Prod.mk.sizeOf_spec] at smaller
    simp only [ValidatorKind.object.sizeOf_spec]
    omega
  | record key value =>
    simp only [ValidatorKind.record.sizeOf_spec]
    rcases List.mem_cons.mp member with rfl | last
    · omega
    · obtain rfl := List.mem_singleton.mp last
      omega
  | function params returns =>
    simp only [ValidatorKind.function.sizeOf_spec]
    rcases List.mem_append.mp member with listed | last
    · have smaller : sizeOf child < sizeOf params := List.sizeOf_lt_of_mem listed
      omega
    · obtain rfl := List.mem_singleton.mp last
      omega

/-- What holds of a validator whenever it holds of those inside, holds of all validators. -/
theorem children_induction {motive : Validator → Prop}
    (step : ∀ v : Validator, (∀ child ∈ v.kind.children, motive child) → motive v)
    (v : Validator) : motive v :=
  step v fun child _ => children_induction step child
termination_by v
decreasing_by exact sizeOf_lt_of_mem_children ‹_›

/-- All parts are of kinds that have a property. -/
def Everywhere (good : ValidatorKind → Prop) (v : Validator) : Prop :=
  ∀ w ∈ v.parts, good w.kind

variable {good : ValidatorKind → Prop}

theorem everywhere_iff {v : Validator} :
    v.Everywhere good ↔ good v.kind ∧ ∀ child ∈ v.kind.children, child.Everywhere good := by
  constructor
  · intro h
    refine ⟨h v (mem_parts_iff.mpr (Or.inl rfl)), fun child member w part => ?_⟩
    exact h w (mem_parts_iff.mpr (Or.inr ⟨child, member, part⟩))
  · rintro ⟨root, children⟩ w part
    rcases mem_parts_iff.mp part with rfl | ⟨child, member, part⟩
    · exact root
    · exact children child member w part

/-- Modifiers are no parts. -/
theorem everywhere_modify {v : Validator} {modifier : Modifier} :
    (v.modify modifier).Everywhere good ↔ v.Everywhere good := by
  rw [everywhere_iff, everywhere_iff]
  rfl

theorem everywhere_ofKind {kind : ValidatorKind} :
    (ofKind kind).Everywhere good ↔ good kind ∧ ∀ child ∈ kind.children, child.Everywhere good :=
  everywhere_iff

end Validator

end Schemata
