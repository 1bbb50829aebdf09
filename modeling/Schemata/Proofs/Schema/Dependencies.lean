import Mathlib.Data.List.Induction
import Schemata.Proofs.Schema.Module
import Schemata.Proofs.Validator.Parts

/-!
# What a schema needs at once

A schema refers to others by name, in its validator and in the signatures of its members.  Where it
does not put the look-up off, the other schema has to be defined first.  Names need not be different
from each other: a name stands for the last schema that has it.  Schemas may need each other in
turn; only for these does the order of definitions promise nothing.

## Main definitions

* `Validator.RefersTo` : a validator refers to a name at once.
* `StandsFor` : the schema that a name stands for.
* `NeedsAtOnce` : a schema needs another one at once.

## Main results

* `Validator.mem_eagerRefs_iff` : the collected references are all of them.
* `placeOf?_eq_some_iff` : the place of a name is that of the schema that it stands for.
* `definitionOrder_needed_first` : a needed schema is defined first, unless it leads back.
-/

namespace Schemata

open Relation

/-! ### References -/

namespace Validator

/-- The validator refers to a name at once: it is a reference itself, or one inside it refers to the
name.  The arguments of a deferred reference are looked up at once like all others. -/
inductive RefersTo (name : String) : Validator → Prop
  | here {args : List Validator} {modifiers : List Modifier} :
    RefersTo name (.mk (.ref name args) modifiers)
  | inside {v child : Validator} (member : child ∈ v.kind.children) (refers : RefersTo name child) :
    RefersTo name v

theorem mem_eagerName_iff {v : Validator} {name : String} :
    name ∈ v.eagerName ↔ ∃ args modifiers, v = .mk (.ref name args) modifiers := by
  obtain ⟨kind, modifiers⟩ := v
  cases kind <;> simp [eagerName, kind, eq_comm]

/-- The names that are collected from a validator are those that it refers to. -/
theorem mem_eagerRefs_iff {v : Validator} {name : String} :
    name ∈ v.eagerRefs ↔ v.RefersTo name := by
  rw [eagerRefs, List.mem_eraseDups]
  constructor
  · induction v using children_induction with
    | step v ih =>
      intro found
      rw [collect_eq, List.mem_append, List.mem_flatMap] at found
      rcases found with own | ⟨child, member, found⟩
      · obtain ⟨args, modifiers, rfl⟩ := mem_eagerName_iff.mp own
        exact .here
      · exact .inside member (ih child member found)
  · intro refers
    induction refers with
    | here =>
      rw [collect_eq, List.mem_append]
      exact Or.inl (mem_eagerName_iff.mpr ⟨_, _, rfl⟩)
    | inside member _ found =>
      rw [collect_eq, List.mem_append, List.mem_flatMap]
      exact Or.inr ⟨_, member, found⟩

end Validator

/-- The schema refers to a name at once, in its validator or in the signature of a member. -/
def Schema.RefersTo (schema : Schema) (name : String) : Prop :=
  schema.validator.RefersTo name ∨
    ∃ member ∈ schema.members, member.params.RefersTo name ∨ member.returns.RefersTo name

theorem Schema.mem_eagerNames_iff {schema : Schema} {name : String} :
    name ∈ schema.eagerNames ↔ schema.RefersTo name := by
  rw [eagerNames, validators, List.flatMap_cons, List.mem_append, List.flatMap_assoc,
    List.mem_flatMap, Validator.mem_eagerRefs_iff]
  simp only [List.flatMap_cons, List.flatMap_nil, List.append_nil, List.mem_append,
    Validator.mem_eagerRefs_iff, RefersTo]

/-! ### Names -/

/-- The schema at a place has the name, and no later one has it. -/
def StandsFor (schemas : List Schema) (name : String) (place : Nat) : Prop :=
  (∃ schema, schemas[place]? = some schema ∧ schema.name = name) ∧
    ∀ later other, place < later → schemas[later]? = some other → other.name ≠ name

theorem placeOf?_append_singleton (schemas : List Schema) (schema : Schema) (name : String) :
    placeOf? (schemas ++ [schema]) name
      = if schema.name = name then some schemas.length else placeOf? schemas name := by
  unfold placeOf?
  rw [List.zipIdx_append, List.reverse_append]
  split <;> simp [*]

/-- The schema at a place that is found has the name, and none after it has. -/
theorem standsFor_of_placeOf? {schemas : List Schema} {name : String} {place : Nat}
    (found : placeOf? schemas name = some place) : StandsFor schemas name place := by
  refine ⟨getElem?_of_placeOf? found, ?_⟩
  induction schemas using List.reverseRecOn with
  | nil => simp
  | append_singleton schemas schema ih =>
    intro later other after at_later same
    rw [placeOf?_append_singleton] at found
    split at found
    · obtain rfl := Option.some.inj found
      have bound := (List.getElem?_eq_some_iff.mp at_later).1
      simp at bound
      omega
    · rename_i apart
      rcases Nat.lt_or_ge later schemas.length with inside | last
      · rw [List.getElem?_append_left inside] at at_later
        exact ih found later other after at_later same
      · rw [List.getElem?_append_right last, List.getElem?_singleton] at at_later
        split at at_later
        · exact apart (Option.some.inj at_later ▸ same)
        · cases at_later

/-- A name stands for at most one schema. -/
theorem StandsFor.unique {schemas : List Schema} {name : String} {place place' : Nat}
    (h : StandsFor schemas name place) (h' : StandsFor schemas name place') : place = place' := by
  obtain ⟨⟨schema, at_place, named⟩, last⟩ := h
  obtain ⟨⟨schema', at_place', named'⟩, last'⟩ := h'
  rcases Nat.lt_trichotomy place place' with before | same | after
  · exact absurd named' (last place' schema' before at_place')
  · exact same
  · exact absurd named (last' place schema after at_place)

theorem placeOf?_eq_some_iff {schemas : List Schema} {name : String} {place : Nat} :
    placeOf? schemas name = some place ↔ StandsFor schemas name place := by
  refine ⟨standsFor_of_placeOf?, fun stands => ?_⟩
  obtain ⟨schema, at_place, named⟩ := stands.1
  cases found : placeOf? schemas name with
  | none =>
    have listed : (schema, place) ∈ schemas.zipIdx.reverse :=
      List.mem_reverse.mpr (List.mem_zipIdx_iff_getElem?.mpr at_place)
    have missing := List.find?_eq_none.mp (Option.map_eq_none_iff.mp found) _ listed
    simp [named] at missing
  | some other => rw [(standsFor_of_placeOf? found).unique stands]

/-! ### The order of definitions -/

/-- The schema at a place refers at once to a name that stands for the schema at another place. -/
def NeedsAtOnce (schemas : List Schema) (place next : Nat) : Prop :=
  next ≠ place ∧ ∃ schema, schemas[place]? = some schema ∧
    ∃ name, schema.RefersTo name ∧ StandsFor schemas name next

/-- The edges of the walk are the needs of the schemas. -/
theorem leads_iff_needsAtOnce {schemas : List Schema} {place next : Nat} :
    Walk.Leads (definitionEdges schemas) place next ↔ NeedsAtOnce schemas place next := by
  rw [leads_definitionEdges_iff]
  constructor
  · rintro ⟨schema, at_place, ⟨name, eager, placed⟩, other⟩
    exact ⟨other, schema, at_place, name, Schema.mem_eagerNames_iff.mp eager,
      placeOf?_eq_some_iff.mp placed⟩
  · rintro ⟨other, schema, at_place, name, refers, stands⟩
    exact ⟨schema, at_place, ⟨name, Schema.mem_eagerNames_iff.mpr refers,
      placeOf?_eq_some_iff.mpr stands⟩, other⟩

/-- The order of definitions lists every place once.  The schema that another one needs at once
comes before it, unless needs lead back from it. -/
theorem definitionOrder_needed_first (schemas : List Schema) :
    (definitionOrder schemas).Perm (List.range schemas.length) ∧
      ∀ place next, NeedsAtOnce schemas place next →
        ¬ ReflTransGen (NeedsAtOnce schemas) next place →
          [next, place].Sublist (definitionOrder schemas) := by
  have perm := definitionOrder_perm schemas
  have edges : Walk.Leads (definitionEdges schemas) = NeedsAtOnce schemas := by
    ext place next
    exact leads_iff_needsAtOnce
  refine ⟨perm, fun place next needs oneWay => ?_⟩
  have listed : place ∈ definitionOrder schemas := by
    obtain ⟨-, schema, at_place, -⟩ := needs
    rw [perm.mem_iff, List.mem_range]
    exact (List.getElem?_eq_some_iff.mp at_place).1
  rw [← edges] at needs oneWay
  exact Walk.sublist_postorder listed needs oneWay

/-- A schema of a grove. -/
def groveSchema (name : String) (validator : Validator) (members : List MemberSignature) :
    Schema where
  id := ⟨0⟩
  name := name
  file := "grove.ts"
  kind := .classType
  exported := true
  validator := validator
  members := members
  dependencies := []
  fieldSources := []
  diagnostics := []
  fingerprint := 0

/-- Trees and forests need each other, and a method of a tree needs leaves, which there are twice.
-/
def groveSchemas : List Schema := [
  groveSchema "Leaf" (.ofKind (.ref "Tree" [])) [],
  groveSchema "Tree" (.ofKind (.deferred "Branch" [.ofKind (.ref "Forest" [])]))
    [⟨"fall", .method, .ofKind (.tuple []), .ofKind (.array (.ofKind (.ref "Leaf" [])))⟩],
  groveSchema "Forest" (.ofKind (.array (.ofKind (.ref "Tree" [])))) [],
  groveSchema "Leaf" (.primitive .string) []]

theorem definitionOrder_needed_first_grove :
    (definitionOrder groveSchemas).Perm [0, 1, 2, 3] ∧ NeedsAtOnce groveSchemas 1 3 ∧
      ReflTransGen (NeedsAtOnce groveSchemas) 2 1 ∧
      [3, 1].Sublist (definitionOrder groveSchemas) := by
  have edge {place next : Nat} (h : next ∈ Walk.successors (definitionEdges groveSchemas) place) :
      NeedsAtOnce groveSchemas place next := leads_iff_needsAtOnce.mp h
  have needs : NeedsAtOnce groveSchemas 1 3 := edge (by decide)
  have oneWay : ¬ ReflTransGen (NeedsAtOnce groveSchemas) 3 1 := by
    intro back
    obtain ⟨next, first, -⟩ := (back.cases_head).resolve_left (by decide)
    have none_needed : Walk.successors (definitionEdges groveSchemas) 3 = [] := by decide
    have listed := leads_iff_needsAtOnce.mpr first
    rw [Walk.Leads, none_needed] at listed
    cases listed
  obtain ⟨perm, first⟩ := definitionOrder_needed_first groveSchemas
  exact ⟨perm, needs, .single (edge (by decide)), first 1 3 needs oneWay⟩

end Schemata
