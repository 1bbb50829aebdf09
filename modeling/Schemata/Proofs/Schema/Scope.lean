import Schemata.Proofs.Schema.Deferral

/-!
# Type parameters and their binders

A type parameter in a validator is bound by a generic validator around it.  The validator of a
schema leaves no parameter free.  The signatures of methods are taken out of the generic types
around them: what they leave free is in scope where the method stands, and bound nowhere in the
signature.

## Main definitions

* `Validator.freeParams` : the type parameters of a validator that no generic validator in it binds.
* `Generator.InScope` : the type parameters in scope where a walk comes to an id.

## Main results

* `Validator.mem_freeParams_iff` : a free parameter is the validator itself, or free in a child and
  not bound by the validator.
* `Generator.generate_params_bound` : the validator of a schema is closed, and its members have free
  only what is in scope at their methods.
-/

namespace Schemata

/-- The type parameters that a kind binds in the validators inside. -/
def ValidatorKind.binds : ValidatorKind → List String
  | .generic params _ => params
  | _ => []

/-- The type parameters that a shape brings into scope for the shapes inside. -/
def Shape.binds : Shape → List String
  | .generic params _ => params
  | _ => []

namespace Validator

mutual

/-- The type parameters that no generic validator around them binds. -/
def freeParams : Validator → List String
  | .mk kind _ => freeParamsKind kind

/-- The same inside a kind. -/
def freeParamsKind : ValidatorKind → List String
  | .primitive _ => []
  | .literal _ => []
  | .array element => freeParams element
  | .tuple items => freeParamsList items
  | .object entries => freeParamsEntries entries
  | .union members => freeParamsList members
  | .intersection members => freeParamsList members
  | .record key value => freeParams key ++ freeParams value
  | .function params returns => freeParamsList params ++ freeParams returns
  | .ref _ args => freeParamsList args
  | .deferred _ args => freeParamsList args
  | .generic params body => (freeParams body).filter fun name => !params.contains name
  | .param name => [name]
  | .expression _ => []
  | .template _ base => freeParams base

/-- The same over a list. -/
def freeParamsList : List Validator → List String
  | [] => []
  | v :: rest => freeParams v ++ freeParamsList rest

/-- The same over the entries of an object. -/
def freeParamsEntries : List (String × Validator) → List String
  | [] => []
  | (_, v) :: rest => freeParams v ++ freeParamsEntries rest

end

theorem freeParamsList_eq (vs : List Validator) : freeParamsList vs = vs.flatMap freeParams := by
  induction vs with
  | nil => rfl
  | cons v rest ih => simp [freeParamsList, ih]

theorem freeParamsEntries_eq (entries : List (String × Validator)) :
    freeParamsEntries entries = (entries.map Prod.snd).flatMap freeParams := by
  induction entries with
  | nil => rfl
  | cons entry rest ih => simp [freeParamsEntries, ih]

/-- A parameter that is free in a validator is the validator itself, or free in a child of it and
not bound on the way. -/
theorem mem_freeParams_iff {v : Validator} {name : String} :
    name ∈ v.freeParams ↔
      v.kind = .param name ∨
        ∃ child ∈ v.kind.children, name ∈ child.freeParams ∧ name ∉ v.kind.binds := by
  obtain ⟨kind, modifiers⟩ := v
  cases kind with
  | param own =>
    simp [freeParams, freeParamsKind, Validator.kind, ValidatorKind.children, eq_comm]
  | _ =>
    simp [freeParams, freeParamsKind, freeParamsList_eq, freeParamsEntries_eq, Validator.kind,
      ValidatorKind.children, ValidatorKind.binds, or_and_right, exists_or]

/-- Modifiers bind nothing. -/
@[simp]
theorem freeParams_modify (v : Validator) (modifier : Modifier) :
    (v.modify modifier).freeParams = v.freeParams := by
  obtain ⟨kind, modifiers⟩ := v
  rfl

end Validator

namespace Generator

/-- A walk from a declaration, through anonymous shapes, comes to an id with these type parameters
in scope. -/
inductive InScope (gen : Generator) (root : ShapeId) : List String → ShapeId → Prop
  | start {shape : Shape} {next : ShapeId} (found : gen.graph.shape? root = some shape)
      (listed : next ∈ gen.lookedAt shape) : InScope gen root shape.binds next
  | step {scope : List String} {id next : ShapeId} {shape : Shape}
      (before : InScope gen root scope id) (anonymous : gen.graph.declaration? id = none)
      (found : gen.graph.shape? id = some shape) (listed : next ∈ gen.lookedAt shape) :
      InScope gen root (scope ++ shape.binds) next

theorem params_enter (place : Place) (shape : Shape) :
    (place.enter shape).params = place.params ++ shape.binds := by
  cases shape with
  | generic params body => rfl
  | _ => exact (List.append_nil _).symm

/-- A reference by name leaves free what its arguments do, deferred or not. -/
theorem freeParams_named (gen : Generator) (inProgress : ShapeId → Bool) (place : Place)
    (target : ShapeId) (declaration : Declaration) (args : List Validator) :
    (gen.named inProgress place target declaration args).value.freeParams =
      (gen.fitArgs target args).flatMap Validator.freeParams := by
  rw [← Validator.freeParamsList_eq]
  change (Validator.ofKind (if _ then _ else _)).freeParams = _
  split <;> rfl

/-- What a validator leaves free is in scope at its place. -/
theorem compositional_freeParams (gen : Generator) (d : Declaration) (root : ShapeId)
    (recorded : ShapeId → Prop) :
    Compositional gen d (fun place id => gen.InScope root place.params id) recorded
      fun place v => ∀ name ∈ v.freeParams, name ∈ place.params where
  closed place a shape b before anonymous found listed := by
    rw [params_enter]
    exact before.step anonymous found listed
  insideField _ _ _ := Iff.rfl
  plain place kind isPlain children name free := by
    rcases Validator.mem_freeParams_iff.mp free with rfl | ⟨child, listed, inner, -⟩
    · exact isPlain.elim
    · exact children child listed name inner
  generic place params body hbody name free := by
    rcases Validator.mem_freeParams_iff.mp free with h | ⟨child, listed, inner, unbound⟩
    · cases h
    · -- The parameters that the generic type adds are bound by it, so the others are around it.
      obtain rfl := List.mem_singleton.mp listed
      exact (List.mem_append.mp (hbody name inner)).resolve_right unbound
  param place name bound other free := by
    obtain rfl := List.mem_singleton.mp free
    exact bound
  named inProgress place target declaration args _ _ _ _ _ hargs name free := by
    rw [freeParams_named, List.mem_flatMap] at free
    obtain ⟨arg, fitted, free⟩ := free
    rcases mem_fitArgs fitted with given | rfl
    · exact hargs arg given name free
    · cases free
  modify place v modifier h := by rwa [Validator.freeParams_modify]
  inField _ _ _ := Iff.rfl

/-- The validator of a schema leaves no type parameter free, and what the signature of a member
leaves free is a parameter of the generic types around its method. -/
theorem generate_params_bound (graph : ShapeGraph) (rules : RuleSet) (options : GenerateOptions)
    {id : ShapeId} (declared : graph.isDeclared id) :
    ∃ schema stats, (new graph rules options).generate id = .ok (schema, stats) ∧
      schema.validator.freeParams = [] ∧
      ∀ member ∈ schema.members, ∃ scope method params returns,
        (new graph rules options).InScope id scope method ∧
        (new graph rules options).method? method = some (member.kind, params, returns) ∧
        ∀ name ∈ member.params.freeParams ++ member.returns.freeParams, name ∈ scope := by
  rw [ShapeGraph.isDeclared_eq_isSome, Option.isSome_iff_exists] at declared
  obtain ⟨d, found⟩ := declared
  obtain ⟨schema, stats, generated⟩ : ∃ schema stats,
      (new graph rules options).generate id = .ok (schema, stats) :=
    exists_generate_iff.mpr ⟨d, found⟩
  have comp := compositional_freeParams (new graph rules options) d id (· ∈ schema.dependencies)
  have start : ∀ shape, graph.shape? id = some shape →
      ∀ next ∈ (new graph rules options).lookedAt shape,
        (new graph rules options).InScope id ((Place.top d).enter shape).params next := by
    intro shape stored next listed
    rw [params_enter]
    exact .start stored listed
  refine ⟨schema, stats, generated, ?_, fun member listed => ?_⟩
  · -- At the top of a declaration nothing is in scope.
    exact List.eq_nil_iff_forall_not_mem.mpr fun name free =>
      absurd (comp.validator start found generated name free) List.not_mem_nil
  · obtain ⟨place, method, keeps⟩ := comp.members start found generated listed
    obtain ⟨params, returns, signature⟩ := keeps.method
    refine ⟨place.params, method, params, returns, keeps.inside, signature, fun name free => ?_⟩
    exact (List.mem_append.mp free).elim (keeps.params name) (keeps.returns name)

/-- A generic class with a field of the type of its parameter and a method that returns one. -/
def box : ShapeGraph where
  shapes := .ofList [
    (⟨1⟩, .generic ["T"] ⟨2⟩),
    (⟨2⟩, .object [⟨"value", ⟨3⟩, false, false⟩, ⟨"get", ⟨4⟩, false, false⟩]),
    (⟨3⟩, .param "T"),
    (⟨4⟩, .function .method [] ⟨3⟩)]
  declarations := .ofList [(⟨1⟩, ⟨⟨1⟩, "Box", "box.ts", .classType, true⟩)]

theorem generate_params_bound_box :
    box.isDeclared ⟨1⟩ ∧
      ∃ schema stats, (new box .empty {}).generate ⟨1⟩ = .ok (schema, stats) ∧
        schema.validator.freeParams = [] ∧
        ∀ member ∈ schema.members, ∃ scope method params returns,
          (new box .empty {}).InScope ⟨1⟩ scope method ∧
          (new box .empty {}).method? method = some (member.kind, params, returns) ∧
          ∀ name ∈ member.params.freeParams ++ member.returns.freeParams, name ∈ scope :=
  ⟨by decide, generate_params_bound box .empty {} (by decide)⟩

/-- The result of the method is the type parameter, with no binder around it. -/
theorem generate_params_escape :
    ∃ schema stats, (new box .empty {}).generate ⟨1⟩ = .ok (schema, stats) ∧
      ∃ member ∈ schema.members, member.member = "get" ∧ member.returns.freeParams = ["T"] :=
  ⟨_, _, rfl, by decide +kernel⟩

end Generator

end Schemata
