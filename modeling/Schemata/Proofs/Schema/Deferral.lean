import Schemata.Proofs.Schema.Compose

/-!
# Deferred references

A schema refers to other schemas by name, either at once or deferred until the reference is used.
References are deferred exactly where their target leads back to the declaration that is generated,
so the references that are needed at once never form a cycle, and schemas can be defined in an order
in which all that a schema needs at once comes before it.

## Main definitions

* `Schema.references` : the references by name in a schema.
* `Generator.EagerEdge` : the schema of a declaration needs that of another at once.

## Main results

* `Generator.inside_of_mem_dependencies` : where the dependencies of a schema are found.
* `Generator.dependency_of_mem_references`, `Generator.reference_spec` : what is known of a
  reference.
* `Generator.generate_deferred_iff` : references are deferred exactly on cycles.
-/

namespace Schemata

open Relation

/-- The name that a validator refers to, with whether the reference is deferred. -/
def ValidatorKind.reference? : ValidatorKind → Option (String × Bool)
  | .ref name _ => some (name, false)
  | .deferred name _ => some (name, true)
  | _ => none

/-- The references by name in all validators of the schema, each with whether it is deferred. -/
def Schema.references (schema : Schema) : List (String × Bool) :=
  schema.validators.flatMap fun v => v.parts.filterMap (·.kind.reference?)

theorem Schema.mem_references_of_mem_eagerNames {schema : Schema} {name : String}
    (h : name ∈ schema.eagerNames) : (name, false) ∈ schema.references := by
  obtain ⟨v, member, eager⟩ := List.mem_flatMap.mp h
  rw [Validator.eagerRefs, List.mem_eraseDups, Validator.collect_eq_flatMap_parts] at eager
  obtain ⟨w, part, own⟩ := List.mem_flatMap.mp eager
  refine List.mem_flatMap.mpr ⟨v, member, List.mem_filterMap.mpr ⟨w, part, ?_⟩⟩
  unfold Validator.eagerName at own
  split at own
  · rename_i other args kind
    rw [kind, List.mem_singleton.mp own]
    rfl
  · cases own

namespace ShapeGraph

variable {g : ShapeGraph}

/-- No two declarations have the same name. -/
def DistinctNames (g : ShapeGraph) : Prop :=
  (g.declarations.values.map Declaration.name).Nodup

instance (g : ShapeGraph) : Decidable g.DistinctNames :=
  inferInstanceAs (Decidable (g.declarations.values.map Declaration.name).Nodup)

theorem Filed.eq_of_name_eq (filed : g.Filed) (distinct : g.DistinctNames) {a b : ShapeId}
    {da db : Declaration} (ha : g.declaration? a = some da) (hb : g.declaration? b = some db)
    (same : da.name = db.name) : a = b := by
  have listed {id : ShapeId} {d : Declaration} (h : g.declaration? id = some d) :
      d ∈ g.declarations.values :=
    List.mem_map.mpr ⟨_, g.declarations.get?_eq_some_iff.mp h, rfl⟩
  obtain rfl : da = db := List.inj_on_of_nodup_map distinct (listed ha) (listed hb) same
  rw [← filed.id_eq ha, filed.id_eq hb]

end ShapeGraph

namespace Generator

variable {graph : ShapeGraph}

/-- Every declaration has a schema, and nothing else has. -/
theorem exists_generate_iff {gen : Generator} {id : ShapeId} :
    (∃ schema stats, gen.generate id = .ok (schema, stats)) ↔
      ∃ d, gen.graph.declaration? id = some d := by
  unfold generate
  cases gen.graph.declaration? id <;> simp

section Schema

variable {rules : RuleSet} {options : GenerateOptions} {id : ShapeId} {schema : Schema}
  {stats : GeneratorStats}

/-- The dependencies of a schema are declarations inside any set of ids that the walk does not
leave. -/
theorem inside_of_mem_dependencies {inside : ShapeId → Prop}
    (closed : ∀ a b, inside a → graph.declaration? a = none →
      (new graph rules options).Looks a b → inside b)
    (start : ∀ next, (new graph rules options).Looks id next → inside next)
    (h : (new graph rules options).generate id = .ok (schema, stats)) {target : ShapeId}
    (member : target ∈ schema.dependencies) :
    inside target ∧ ∃ declaration, graph.declaration? target = some declaration := by
  obtain ⟨d, found⟩ := exists_generate_iff.mp ⟨schema, stats, h⟩
  have comp : Compositional (new graph rules options) d (fun _ => inside)
      (· ∈ schema.dependencies) fun _ v => v.Everywhere fun _ => True :=
    compositional_everywhere closed (fun _ _ => trivial) (fun _ _ => trivial) (fun _ => trivial)
      fun _ _ _ _ _ _ _ _ => trivial
  obtain ⟨⟨_, ht⟩, declared⟩ := comp.dependencies
    (fun shape found next listed => start next ⟨shape, found, listed⟩) found h member
  exact ⟨ht, declared⟩

theorem path_of_mem_dependencies
    (h : (new graph rules options).generate id = .ok (schema, stats)) {target : ShapeId}
    (member : target ∈ schema.dependencies) :
    ReflTransGen graph.Child id target ∧
      ∃ declaration, graph.declaration? target = some declaration :=
  inside_of_mem_dependencies (fun _ _ path _ looks => path.trans looks.path)
    (fun _ looks => looks.path) h member

/-- A reference in a schema names one of its dependencies, and is deferred if that one is the
declaration itself or on a cycle with it. -/
theorem dependency_of_mem_references (filed : graph.Filed)
    (h : (new graph rules options).generate id = .ok (schema, stats)) {name : String}
    {deferred : Bool} (member : (name, deferred) ∈ schema.references) :
    ∃ target ∈ schema.dependencies, ∃ declaration, graph.declaration? target = some declaration ∧
      declaration.name = name ∧
      (deferred = true ↔ target = id ∨ (CycleIndex.build graph).sameCycle id target) := by
  let good : ValidatorKind → Prop := fun kind => ∀ name deferred,
    kind.reference? = some (name, deferred) →
      ∃ target ∈ schema.dependencies, ∃ declaration, graph.declaration? target = some declaration ∧
        declaration.name = name ∧
        (deferred = true ↔ target = id ∨ (CycleIndex.build graph).sameCycle id target)
  obtain ⟨d, found⟩ := exists_generate_iff.mp ⟨schema, stats, h⟩
  have comp : Compositional (new graph rules options) d (fun _ _ => True)
      (· ∈ schema.dependencies) fun _ v => v.Everywhere good := by
    refine compositional_everywhere (fun _ _ _ _ _ => trivial) (fun kind plain => ?_)
      (fun _ _ _ _ h => by cases h) (fun _ _ _ h => by cases h) ?_
    · cases kind with
      | ref | deferred => exact plain.elim
      | _ => exact fun _ _ h => by cases h
    · intro target declaration args deferred found' _ recorded cycle name other h
      obtain rfl : deferred = other := by cases deferred <;> cases h <;> rfl
      obtain rfl : declaration.name = name := by cases deferred <;> cases h <;> rfl
      exact ⟨target, recorded, declaration, found', rfl, filed.id_eq found ▸ cycle⟩
  obtain ⟨v, hv, referenced⟩ := List.mem_flatMap.mp member
  obtain ⟨w, part, own⟩ := List.mem_filterMap.mp referenced
  obtain ⟨place, -, everywhere⟩ := comp.validators (fun _ _ _ _ => trivial) found h hv
  exact everywhere w part name deferred own

/-- A reference in the schema of a declaration names a declaration that it leads to, and is deferred
if that one is itself or on a cycle with it. -/
theorem reference_spec (filed : graph.Filed)
    (h : (new graph rules options).generate id = .ok (schema, stats)) {name : String}
    {deferred : Bool} (member : (name, deferred) ∈ schema.references) :
    ∃ target declaration, graph.declaration? target = some declaration ∧ declaration.name = name ∧
      ReflTransGen graph.Child id target ∧
      (deferred = true ↔ target = id ∨ (CycleIndex.build graph).sameCycle id target) := by
  obtain ⟨target, dependency, declaration, found, named, cycle⟩ :=
    dependency_of_mem_references filed h member
  exact ⟨target, declaration, found, named, (path_of_mem_dependencies h dependency).1, cycle⟩

end Schema

/-- A declaration that another one leads to is on a cycle with it, or the same, exactly when it
leads back. -/
theorem eq_or_sameCycle_iff (filed : graph.Filed) {id target : ShapeId}
    (declared : graph.isDeclared id) (declared' : graph.isDeclared target)
    (path : ReflTransGen graph.Child id target) :
    target = id ∨ (CycleIndex.build graph).sameCycle id target ↔
      ReflTransGen graph.Mentions target id := by
  rw [CycleIndex.sameCycle_iff filed, reflTransGen_iff_eq_or_transGen]
  constructor
  · rintro (same | ⟨-, -, back⟩)
    · exact Or.inl same.symm
    · exact Or.inr back
  · rintro (same | back)
    · exact Or.inl same.symm
    · refine (graph.eq_or_mentions_of_path path declared').imp_right fun forth => ?_
      exact ⟨⟨declared, declared'⟩, forth, back⟩

/-- The schema of `a` needs the schema of `b` at once. -/
def EagerEdge (gen : Generator) (a b : ShapeId) : Prop :=
  ∃ schema stats declaration, gen.generate a = .ok (schema, stats) ∧
    gen.graph.declaration? b = some declaration ∧ declaration.name ∈ schema.eagerNames

/-- What a schema needs at once, its declaration leads to, and it does not lead back. -/
theorem EagerEdge.leads (filed : graph.Filed) (distinct : graph.DistinctNames) {rules : RuleSet}
    {options : GenerateOptions} {a b : ShapeId} (edge : EagerEdge (new graph rules options) a b) :
    TransGen graph.Mentions a b ∧ ¬ ReflTransGen graph.Mentions b a := by
  obtain ⟨schema, stats, declaration, generated, found, eager⟩ := edge
  obtain ⟨target, other, found', same, path, deferred⟩ :=
    reference_spec filed generated (Schema.mem_references_of_mem_eagerNames eager)
  obtain rfl : target = b := filed.eq_of_name_eq distinct found' found same
  obtain ⟨d, own⟩ := exists_generate_iff.mp ⟨schema, stats, generated⟩
  have declared := graph.isDeclared_of_declaration? found
  rw [eq_or_sameCycle_iff filed (graph.isDeclared_of_declaration? own) declared path] at deferred
  have back : ¬ ReflTransGen graph.Mentions target a := by simpa using deferred
  refine ⟨(graph.eq_or_mentions_of_path path declared).resolve_left ?_, back⟩
  rintro rfl
  exact back .refl

theorem mentions_of_eagerEdges (filed : graph.Filed) (distinct : graph.DistinctNames)
    {rules : RuleSet} {options : GenerateOptions} {a b : ShapeId}
    (path : ReflTransGen (EagerEdge (new graph rules options)) a b) :
    ReflTransGen graph.Mentions a b := by
  induction path with
  | refl => exact .refl
  | tail _ edge ih => exact ih.trans (edge.leads filed distinct).1.to_reflTransGen

/-- If no two declarations have the same name, every reference in a schema is deferred exactly when
the declaration that it names leads back to the declaration of the schema; and the references that
are needed at once form no cycle. -/
theorem generate_deferred_iff (filed : graph.Filed) (distinct : graph.DistinctNames)
    (rules : RuleSet) (options : GenerateOptions) :
    (∀ id, graph.isDeclared id →
      ∃ schema stats, (new graph rules options).generate id = .ok (schema, stats) ∧
        ∀ name deferred, (name, deferred) ∈ schema.references →
          (∃ target declaration,
            graph.declaration? target = some declaration ∧ declaration.name = name) ∧
          ∀ target declaration, graph.declaration? target = some declaration →
            declaration.name = name → (deferred ↔ ReflTransGen graph.Mentions target id)) ∧
      ∀ id, ¬ TransGen (EagerEdge (new graph rules options)) id id := by
  constructor
  · intro id declared
    obtain ⟨d, own⟩ := Option.isSome_iff_exists.mp (graph.isDeclared_eq_isSome id ▸ declared)
    obtain ⟨schema, stats, generated⟩ : ∃ schema stats,
        (new graph rules options).generate id = .ok (schema, stats) :=
      exists_generate_iff.mpr ⟨d, own⟩
    refine ⟨schema, stats, generated, fun name deferred member => ?_⟩
    obtain ⟨target, declaration, found, rfl, path, cycle⟩ := reference_spec filed generated member
    refine ⟨⟨target, declaration, found, rfl⟩, fun other declaration' found' same => ?_⟩
    obtain rfl : other = target := filed.eq_of_name_eq distinct found' found same
    rw [cycle, eq_or_sameCycle_iff filed declared (graph.isDeclared_of_declaration? found) path]
  · intro id cycle
    -- The cycle leads from the end of its first edge back to its start.
    obtain ⟨next, first, rest⟩ := TransGen.head'_iff.mp cycle
    exact (first.leads filed distinct).2 (mentions_of_eagerEdges filed distinct rest)

theorem generate_deferred_iff_ring :
    (∀ id, ring.isDeclared id →
      ∃ schema stats, (new ring .empty {}).generate id = .ok (schema, stats) ∧
        ∀ name deferred, (name, deferred) ∈ schema.references →
          (∃ target declaration,
            ring.declaration? target = some declaration ∧ declaration.name = name) ∧
          ∀ target declaration, ring.declaration? target = some declaration →
            declaration.name = name → (deferred ↔ ReflTransGen ring.Mentions target id)) ∧
      ∀ id, ¬ TransGen (EagerEdge (new ring .empty {})) id id :=
  generate_deferred_iff (by decide) (by decide) .empty {}

end Generator

end Schemata
