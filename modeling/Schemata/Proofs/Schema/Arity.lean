import Schemata.Proofs.Schema.Findings
import Schemata.Proofs.Schema.Scope

/-!
# Arguments of references

A reference by name has as many arguments as the shape of its target has type parameters, however
many were written: superfluous ones are left out, and missing ones accept everything.  The schema of
the target has the same number of parameters if its shape is generic.  But there are shapes that
add no more than modifiers to another one, and if that one is an anonymous generic type, the schema
has parameters that the references to it know nothing of.

## Main definitions

* `Schema.applications` : the references by name in a schema, with their arguments.
* `Generator.Wraps` : the validator of one id is that of another one, up to modifiers.
* `Generator.Conceals` : an id stands for an anonymous generic type with parameters.

## Main results

* `Generator.length_of_mem_applications` : the arguments of a reference.
* `Generator.kind_generic_iff` : which declarations have generic schemas.
* `Generator.application_fits_iff` : arguments and parameters agree, unless the target of the
  reference conceals parameters.
-/

namespace Schemata

open Relation

/-- The name and the arguments of a reference by name. -/
def ValidatorKind.application? : ValidatorKind → Option (String × List Validator)
  | .ref name args => some (name, args)
  | .deferred name args => some (name, args)
  | _ => none

/-- The references by name in all validators of the schema, each with its arguments. -/
def Schema.applications (schema : Schema) : List (String × List Validator) :=
  schema.validators.flatMap fun v => v.parts.filterMap (·.kind.application?)

/-- The type parameters of the shape of an id. -/
def ShapeGraph.paramsOf (g : ShapeGraph) (id : ShapeId) : List String :=
  ((g.shape? id).map Shape.binds).getD []

theorem ShapeGraph.paramsOf_of_shape? {g : ShapeGraph} {id : ShapeId} {shape : Shape}
    (found : g.shape? id = some shape) : g.paramsOf id = shape.binds := by
  rw [paramsOf, found]
  rfl

namespace Traced

variable {α β : Type}

@[simp] theorem value_pure (a : α) : (Pure.pure a : Traced α).value = a :=
  rfl

@[simp] theorem value_bind (t : Traced α) (f : α → Traced β) :
    (t >>= f).value = (f t.value).value :=
  rfl

@[simp] theorem value_forEach (f : α → Traced β) (items : List α) :
    (forEach f items).value = items.map fun a => (f a).value := by
  induction items with
  | nil => rfl
  | cons a rest ih => rw [List.map_cons, ← ih]; rfl

end Traced

namespace Validator

theorem kind_optional (v : Validator) : v.optional.kind = v.kind := by
  unfold optional
  split <;> rfl

theorem kind_nullable (v : Validator) : v.nullable.kind = v.kind := by
  unfold nullable
  split <;> rfl

end Validator

namespace Generator

/-! ### The number of arguments -/

theorem length_fitArgs (gen : Generator) (target : ShapeId) (args : List Validator) :
    (gen.fitArgs target args).length = (gen.graph.paramsOf target).length := by
  unfold fitArgs ShapeGraph.paramsOf
  cases gen.graph.shape? target with
  | none => rfl
  | some shape =>
    cases shape with
    | generic params body =>
      simp only [Option.map_some, Option.getD_some, Shape.binds, List.length_append,
        List.length_take, List.length_replicate]
      omega
    | _ => rfl

/-- The arguments of a reference are as many as the shape of its target has parameters. -/
theorem length_of_mem_applications {graph : ShapeGraph} {rules : RuleSet}
    {options : GenerateOptions} {id : ShapeId} {schema : Schema} {stats : GeneratorStats}
    (h : (new graph rules options).generate id = .ok (schema, stats)) {name : String}
    {args : List Validator} (member : (name, args) ∈ schema.applications) :
    ∃ target declaration, graph.declaration? target = some declaration ∧
      declaration.name = name ∧ args.length = (graph.paramsOf target).length := by
  let good : ValidatorKind → Prop := fun kind => ∀ name args,
    kind.application? = some (name, args) →
      ∃ target declaration, graph.declaration? target = some declaration ∧
        declaration.name = name ∧ args.length = (graph.paramsOf target).length
  obtain ⟨d, found⟩ := exists_generate_iff.mp ⟨schema, stats, h⟩
  have comp : Compositional (new graph rules options) d (fun _ _ => True)
      (· ∈ schema.dependencies) fun _ v => v.Everywhere good := by
    refine compositional_everywhere (fun _ _ _ _ _ => trivial) (fun kind plain => ?_)
      (fun _ _ _ _ h => by cases h) (fun _ _ _ h => by cases h) ?_
    · cases kind with
      | ref | deferred => exact plain.elim
      | _ => exact fun _ _ h => by cases h
    · intro target declaration given deferred found' _ _ _ name args h
      have fitted := length_fitArgs (new graph rules options) target given
      cases deferred <;> cases h <;> exact ⟨target, declaration, found', rfl, fitted⟩
  obtain ⟨v, hv, referenced⟩ := List.mem_flatMap.mp member
  obtain ⟨w, part, own⟩ := List.mem_filterMap.mp referenced
  obtain ⟨place, -, everywhere⟩ := comp.validators (fun _ _ _ _ => trivial) found h hv
  exact everywhere w part name args own

/-! ### Shapes that stand for others -/

/-- The id whose validator a shape takes, up to modifiers. -/
def wrapped? (gen : Generator) : Shape → Option ShapeId
  | .union members =>
    match gen.alternatives members with
    | [only] => some only
    | _ => none
  | .intersection [only] => some only
  | .mapped _ (.record _) => none
  | .mapped _ (.perKey _ _) => none
  | .mapped source _ => some source
  | .reference target _ => if gen.graph.isDeclared target then none else some target
  | .refined base _ => some base
  | _ => none

section Shape

variable {gen : Generator} {visit : Place → ShapeId → Traced Validator}
  {inProgress : ShapeId → Bool} {place : Place} {shape : Shape}

theorem kind_visitUnion (members : List ShapeId) :
    (visitUnion gen visit place members).value.kind
      = (Validator.union
        ((gen.alternatives members).map fun id => (visit place id).value)).kind := by
  unfold visitUnion alternatives
  dsimp only
  split
  · rw [Traced.value_bind, Traced.value_pure, Traced.value_forEach]
  · rw [Traced.value_bind, Traced.value_pure, Traced.value_forEach]
    split <;> split <;> simp only [Validator.kind_optional, Validator.kind_nullable]

theorem kind_refine (constraint : Constraint) (v : Validator) :
    (refine constraint v).kind = v.kind := by
  unfold refine
  dsimp only
  repeat' split
  all_goals rfl

/-- A shape that stands for another one takes its kind of validator. -/
theorem kind_visitShape_of_wrapped {inner : ShapeId} (h : gen.wrapped? shape = some inner) :
    (visitShape gen visit inProgress place shape).value.kind = (visit place inner).value.kind := by
  unfold wrapped? at h
  split at h
  · rename_i members
    split at h
    · rename_i only single
      obtain rfl := Option.some.inj h
      rw [visitShape, kind_visitUnion, single]
      rfl
    · cases h
  · obtain rfl := Option.some.inj h
    rfl
  · cases h
  · cases h
  · rename_i source transform noRecord noPerKey
    obtain rfl := Option.some.inj h
    cases transform with
    | record value => exact absurd rfl (noRecord value)
    | perKey name value => exact absurd rfl (noPerKey name value)
    | _ => rfl
  · rename_i target args
    split at h
    · cases h
    · rename_i anonymous
      obtain rfl := Option.some.inj h
      rw [ShapeGraph.isDeclared_eq_isSome, Bool.not_eq_true, Option.isSome_eq_false_iff,
        Option.isNone_iff_eq_none] at anonymous
      rw [visitShape, reference, anonymous]
  · obtain rfl := Option.some.inj h
    exact kind_refine _ _
  · cases h

/-- Only generic types and shapes that stand for others have generic validators. -/
theorem generic_or_wrapped_of_kind_visitShape {params : List String} {body : Validator}
    (h : (visitShape gen visit inProgress place shape).value.kind = .generic params body) :
    (∃ next, shape = .generic params next) ∨ ∃ inner, gen.wrapped? shape = some inner := by
  cases shape with
  | generic own next =>
    cases h
    exact .inl ⟨next, rfl⟩
  | union members =>
    rw [visitShape, kind_visitUnion] at h
    rw [wrapped?]
    generalize gen.alternatives members = alternatives at h ⊢
    rcases alternatives with _ | ⟨only, _ | ⟨_, _⟩⟩
    · cases h
    · exact .inr ⟨only, rfl⟩
    · cases h
  | intersection members =>
    rcases members with _ | ⟨only, _ | ⟨_, _⟩⟩
    · cases h
    · exact .inr ⟨only, rfl⟩
    · cases h
  | param name =>
    rw [visitShape] at h
    split at h <;> cases h
  | mapped source transform =>
    cases transform with
    | record value => cases h
    | perKey name value =>
      rw [visitShape, visitMapped, visitPerKey] at h
      split at h <;> cases h
    | _ => exact .inr ⟨source, rfl⟩
  | reference target args =>
    rw [wrapped?]
    rw [visitShape, reference] at h
    rw [ShapeGraph.isDeclared_eq_isSome]
    cases found : gen.graph.declaration? target with
    | none => exact .inr ⟨target, rfl⟩
    | some declaration =>
      rw [found] at h
      dsimp only at h
      rw [Traced.value_bind, named, Traced.value_bind, Traced.value_pure] at h
      split at h <;> cases h
  | refined base constraint => exact .inr ⟨base, rfl⟩
  | _ => cases h

end Shape

/-- The validator of an id is that of an anonymous one, up to modifiers. -/
def Wraps (gen : Generator) (id inner : ShapeId) : Prop :=
  ∃ shape, gen.graph.shape? id = some shape ∧ gen.wrapped? shape = some inner ∧
    gen.graph.declaration? inner = none

/-- An id is a generic type with the given parameters, or stands for one. -/
def Stands (gen : Generator) (id : ShapeId) (params : List String) : Prop :=
  ∃ inner body, ReflTransGen gen.Wraps id inner ∧
    gen.graph.shape? inner = some (.generic params body)

/-- An id stands for a generic type with parameters without being one itself. -/
def Conceals (gen : Generator) (id : ShapeId) : Prop :=
  ∃ inner params body, TransGen gen.Wraps id inner ∧
    gen.graph.shape? inner = some (.generic params body) ∧ params ≠ []

section Wraps

variable {gen : Generator} {id inner next : ShapeId} {opened : List ShapeId} {place : Place}
  {params : List String} {body : ShapeId}

theorem Wraps.unique (first : gen.Wraps id inner) (second : gen.Wraps id next) : inner = next := by
  obtain ⟨shape, found, own, -⟩ := first
  obtain ⟨other, found', own', -⟩ := second
  obtain rfl := Option.some.inj (found.symm.trans found')
  exact Option.some.inj (own.symm.trans own')

theorem not_wraps_of_generic (found : gen.graph.shape? id = some (.generic params body)) :
    ¬ gen.Wraps id inner := by
  rintro ⟨shape, found', own, -⟩
  obtain rfl := Option.some.inj (found.symm.trans found')
  cases own

theorem Wraps.paramsOf_eq (step : gen.Wraps id inner) : gen.graph.paramsOf id = [] := by
  obtain ⟨shape, found, own, -⟩ := step
  rw [ShapeGraph.paramsOf_of_shape? found]
  cases shape <;> first | rfl | cases own

/-- The way to a generic type does not come back to where it started. -/
theorem not_cycle_of_path (path : ReflTransGen gen.Wraps id inner)
    (found : gen.graph.shape? inner = some (.generic params body)) :
    ¬ TransGen gen.Wraps id id := by
  induction path using ReflTransGen.head_induction_on with
  | refl =>
    intro cycle
    obtain ⟨next, step, -⟩ := TransGen.head'_iff.mp cycle
    exact not_wraps_of_generic found step
  | head step _ ih =>
    intro cycle
    obtain ⟨next, step', back⟩ := TransGen.head'_iff.mp cycle
    obtain rfl := step.unique step'
    exact ih (.tail' back step)

theorem not_mem_opened_of_path (path : ReflTransGen gen.Wraps id inner)
    (found : gen.graph.shape? inner = some (.generic params body))
    (anonymous : gen.graph.declaration? id = none)
    (before : ∀ x ∈ opened, gen.graph.isDeclared x ∨ TransGen gen.Wraps x id) : id ∉ opened := by
  intro old
  rcases before id old with declared | cycle
  · rw [ShapeGraph.isDeclared_eq_isSome, anonymous] at declared
    cases declared
  · exact not_cycle_of_path path found cycle

/-- An anonymous id that stands for a generic type has a generic validator, if the ids that are open
are declared or stand for it. -/
theorem kind_visit_of_path (path : ReflTransGen gen.Wraps id inner)
    (found : gen.graph.shape? inner = some (.generic params body))
    (anonymous : gen.graph.declaration? id = none)
    (before : ∀ x ∈ opened, gen.graph.isDeclared x ∨ TransGen gen.Wraps x id) :
    ∃ v, (gen.visit opened place id).value.kind = .generic params v := by
  have fresh := not_mem_opened_of_path path found anonymous before
  induction path using ReflTransGen.head_induction_on generalizing opened with
  | refl =>
    rw [visit_of_anonymous anonymous found, if_neg fresh]
    exact ⟨_, rfl⟩
  | @head id next step path ih =>
    obtain ⟨shape, own, wrapped, hidden⟩ := step
    have step : gen.Wraps id next := ⟨shape, own, wrapped, hidden⟩
    have before' : ∀ x ∈ id :: opened, gen.graph.isDeclared x ∨ TransGen gen.Wraps x next := by
      intro x member
      rcases List.mem_cons.mp member with rfl | old
      · exact .inr (.single step)
      · exact (before x old).imp_right (·.tail step)
    rw [visit_of_anonymous anonymous own, if_neg fresh, Traced.value_bind,
      kind_visitShape_of_wrapped wrapped]
    exact ih hidden before' (not_mem_opened_of_path path found hidden before')

/-- An id with a generic validator is anonymous, and stands for a generic type. -/
theorem stands_of_kind_visit {v : Validator}
    (h : (gen.visit opened place id).value.kind = .generic params v) :
    gen.graph.declaration? id = none ∧ gen.Stands id params := by
  -- Each step to what an id stands for opens one more id.
  induction size : gen.unopened opened using Nat.strongRecOn generalizing opened id with
  | ind size ih =>
    subst size
    cases anonymous : gen.graph.declaration? id with
    | some declaration =>
      rw [visit, anonymous] at h
      dsimp only at h
      rw [named, Traced.value_bind, Traced.value_pure] at h
      split at h <;> cases h
    | none =>
      refine ⟨rfl, ?_⟩
      cases found : gen.graph.shape? id with
      | none =>
        rw [visit_of_missing anonymous found] at h
        cases h
      | some shape =>
        rw [visit_of_anonymous anonymous found] at h
        split at h
        · cases h
        · rename_i fresh
          rw [Traced.value_bind] at h
          rcases generic_or_wrapped_of_kind_visitShape h with ⟨body, rfl⟩ | ⟨inner, wrapped⟩
          · exact ⟨id, body, .refl, found⟩
          · rw [kind_visitShape_of_wrapped wrapped] at h
            obtain ⟨hidden, last, body, path, generic⟩ :=
              ih _ (unopened_cons_lt found fresh) h rfl
            exact ⟨last, body, .head ⟨shape, found, wrapped, hidden⟩ path, generic⟩

end Wraps

section Schema

variable {graph : ShapeGraph} {rules : RuleSet} {options : GenerateOptions} {id : ShapeId}
  {schema : Schema} {stats : GeneratorStats} {params : List String}

/-- A declaration has a generic schema exactly if it is a generic type or stands for one. -/
theorem kind_generic_iff (filed : graph.Filed)
    (h : (new graph rules options).generate id = .ok (schema, stats)) :
    (∃ body, schema.validator.kind = .generic params body) ↔
      (new graph rules options).Stands id params := by
  obtain ⟨d, declared⟩ := exists_generate_iff.mp ⟨schema, stats, h⟩
  obtain ⟨rfl, -⟩ := Prod.mk.inj (Except.ok.inj ((generate_eq_ok declared).symm.trans h))
  dsimp only [schemaOf]
  rw [visitDeclaration]
  constructor
  · rintro ⟨body, kind⟩
    split at kind
    · cases kind
    · rename_i shape found
      rw [Traced.value_bind] at kind
      rcases generic_or_wrapped_of_kind_visitShape kind with ⟨next, rfl⟩ | ⟨inner, wrapped⟩
      · exact ⟨id, next, .refl, found⟩
      · rw [kind_visitShape_of_wrapped wrapped] at kind
        obtain ⟨hidden, last, next, path, generic⟩ := stands_of_kind_visit kind
        exact ⟨last, next, .head ⟨shape, found, wrapped, hidden⟩ path, generic⟩
  · rintro ⟨last, next, path, generic⟩
    rcases path.cases_head with rfl | ⟨inner, ⟨shape, found, wrapped, hidden⟩, rest⟩
    · rw [generic]
      exact ⟨_, rfl⟩
    · rw [found]
      dsimp only
      rw [Traced.value_bind, kind_visitShape_of_wrapped wrapped]
      refine kind_visit_of_path rest generic hidden fun x member => .inl ?_
      rw [List.mem_singleton.mp member, filed.id_eq declared]
      exact graph.isDeclared_of_declaration? declared

/-- A schema has as many parameters as the shape of its declaration, unless that conceals some. -/
theorem length_binds_iff (filed : graph.Filed)
    (h : (new graph rules options).generate id = .ok (schema, stats)) :
    (graph.paramsOf id).length = schema.validator.kind.binds.length ↔
      ¬ (new graph rules options).Conceals id := by
  constructor
  · rintro same ⟨inner, params, body, path, generic, nonempty⟩
    obtain ⟨v, kind⟩ := (kind_generic_iff filed h).mpr ⟨inner, body, path.to_reflTransGen, generic⟩
    obtain ⟨next, step, -⟩ := TransGen.head'_iff.mp path
    have bare : graph.paramsOf id = [] := step.paramsOf_eq
    rw [bare, kind] at same
    exact nonempty (List.eq_nil_of_length_eq_zero same.symm)
  · intro revealed
    by_cases generic : ∃ params body, schema.validator.kind = .generic params body
    · obtain ⟨params, v, kind⟩ := generic
      obtain ⟨last, body, path, found⟩ := (kind_generic_iff filed h).mp ⟨v, kind⟩
      rw [kind]
      rcases path.cases_head with rfl | ⟨inner, step, rest⟩
      · rw [graph.paramsOf_of_shape? found]
        rfl
      · have bare : graph.paramsOf id = [] := step.paramsOf_eq
        have empty : params = [] := by
          by_contra nonempty
          exact revealed ⟨last, params, body, .head' step rest, found, nonempty⟩
        rw [bare, empty]
        rfl
    · have bare : schema.validator.kind.binds = [] := by
        cases kind : schema.validator.kind with
        | generic params body => exact absurd ⟨params, body, kind⟩ generic
        | _ => rfl
      rw [bare, ShapeGraph.paramsOf]
      cases found : graph.shape? id with
      | none => rfl
      | some shape =>
        cases shape with
        | generic params body =>
          obtain ⟨v, kind⟩ := (kind_generic_iff filed h).mpr ⟨id, body, .refl, found⟩
          exact absurd ⟨params, v, kind⟩ generic
        | _ => rfl

end Schema

/-- A reference has as many arguments as the shape of its target has parameters, whatever it was
written with.  These are as many as the schema of the target takes, unless the target stands for an
anonymous generic type with parameters. -/
theorem application_fits_iff {graph : ShapeGraph} (filed : graph.Filed)
    (distinct : graph.DistinctNames) (rules : RuleSet) (options : GenerateOptions)
    {id target : ShapeId} {declaration : Declaration} (declared : graph.isDeclared id)
    (found : graph.declaration? target = some declaration) :
    ∃ schema stats schema' stats',
      (new graph rules options).generate id = .ok (schema, stats) ∧
      (new graph rules options).generate target = .ok (schema', stats') ∧
      ∀ args, (declaration.name, args) ∈ schema.applications →
        args.length = (graph.paramsOf target).length ∧
        (args.length = schema'.validator.kind.binds.length ↔
          ¬ (new graph rules options).Conceals target) := by
  rw [ShapeGraph.isDeclared_eq_isSome, Option.isSome_iff_exists] at declared
  have generates {id : ShapeId} (h : ∃ d, graph.declaration? id = some d) :
      ∃ schema stats, (new graph rules options).generate id = .ok (schema, stats) :=
    exists_generate_iff.mpr h
  obtain ⟨schema, stats, generated⟩ := generates declared
  obtain ⟨schema', stats', generated'⟩ := generates ⟨declaration, found⟩
  refine ⟨schema, stats, schema', stats', generated, generated', fun args member => ?_⟩
  obtain ⟨other, declaration', found', name, arity⟩ := length_of_mem_applications generated member
  obtain rfl := filed.eq_of_name_eq distinct found' found name
  exact ⟨arity, arity ▸ length_binds_iff filed generated'⟩

/-- A tool that refers to a mapper, a generic function type or null, and to a box, with more
arguments than that has parameters. -/
def workshop : ShapeGraph where
  shapes := .ofList [
    (⟨1⟩, .generic ["T"] ⟨2⟩),
    (⟨2⟩, .function .function [⟨"item", ⟨3⟩, false⟩] ⟨3⟩),
    (⟨3⟩, .param "T"),
    (⟨4⟩, .primitive .null),
    (⟨5⟩, .union [⟨1⟩, ⟨4⟩]),
    (⟨6⟩, .generic ["T"] ⟨3⟩),
    (⟨7⟩, .reference ⟨6⟩ [⟨4⟩, ⟨4⟩]),
    (⟨8⟩, .object [⟨"run", ⟨5⟩, false, false⟩, ⟨"state", ⟨7⟩, false, false⟩])]
  declarations := .ofList [
    (⟨5⟩, ⟨⟨5⟩, "Mapper", "workshop.ts", .typeAlias, true⟩),
    (⟨6⟩, ⟨⟨6⟩, "Box", "workshop.ts", .typeAlias, true⟩),
    (⟨8⟩, ⟨⟨8⟩, "Tool", "workshop.ts", .interface, true⟩)]

theorem application_fits_iff_workshop :
    workshop.Filed ∧ workshop.DistinctNames ∧
      ∃ schema stats schema' stats',
        (new workshop .empty {}).generate ⟨8⟩ = .ok (schema, stats) ∧
        (new workshop .empty {}).generate ⟨6⟩ = .ok (schema', stats') ∧
        ∀ args, ("Box", args) ∈ schema.applications →
          args.length = 1 ∧ (args.length = schema'.validator.kind.binds.length ↔
            ¬ (new workshop .empty {}).Conceals ⟨6⟩) :=
  ⟨by decide, by decide, @application_fits_iff workshop (by decide) (by decide) .empty {} ⟨8⟩ ⟨6⟩
    _ (by decide) rfl⟩

/-- The schema of the mapper has a parameter, but the reference to it has no argument. -/
theorem application_misfits :
    workshop.Filed ∧ workshop.DistinctNames ∧
      ∃ schema stats schema' stats',
        (new workshop .empty {}).generate ⟨8⟩ = .ok (schema, stats) ∧
        (new workshop .empty {}).generate ⟨5⟩ = .ok (schema', stats') ∧
        schema.applications.map (fun a => (a.1, a.2.length)) = [("Mapper", 0), ("Box", 1)] ∧
        schema'.validator.kind.binds = ["T"] :=
  ⟨by decide, by decide, _, _, _, _, rfl, rfl, by decide +kernel, by decide +kernel⟩

end Generator

end Schemata
