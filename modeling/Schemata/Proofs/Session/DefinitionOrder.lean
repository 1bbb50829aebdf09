import Schemata.Proofs.Session.Modules

/-!
# Definition before use

The text of a module has the definitions of its schemas one after another, and a schema can be used
at once only after its definition.  What is needed at once never forms a cycle, because references
on cycles are deferred; so the order in which a module defines its schemas puts everything before
its first use.  Names stand for declarations here, hence no name may be declared in two files.

## Main definitions

* `GeneratedModule.DefinesInOrder` : where the text of a module defines a schema.

## Main results

* `ShapeGraph.distinctNames_ofDocuments` : if no name is declared in two files, names tell the
  declarations of the graph apart.
* `Session.eagerEdges_of_leads` : what is needed in a module is needed by its declarations.
* `Session.defined_before_use` : definition before use.
-/

namespace Schemata

open Relation Lowering

/-- If no name is declared in two files, no two declarations of the graph have the same name. -/
theorem ShapeGraph.distinctNames_ofDocuments {documents : List Document} {g : ShapeGraph}
    (h : ofDocuments documents = .ok g) (oneFile : OneFileEach documents) : g.DistinctNames := by
  have found : ∀ e ∈ g.declarations.entries, g.declaration? e.1 = some e.2 := fun e member =>
    g.declarations.get?_eq_some_iff.mpr member
  have names : g.declarations.values.map Declaration.name
      = g.declarations.entries.map fun e => e.2.name := by
    rw [OrderedMap.values, List.map_map]
    rfl
  rw [DistinctNames, names]
  refine List.Nodup.map_on (fun a ha b hb same => ?_) g.declarations.nodup.of_map
  obtain ⟨fileA, sourceA, listedA, isA⟩ := announced_of_declaration? h (found a ha)
  obtain ⟨fileB, sourceB, listedB, isB⟩ := announced_of_declaration? h (found b hb)
  have sameFile : a.2.file = b.2.file := by
    rw [isA, isB] at same ⊢
    exact oneFile _ listedA _ listedB same
  exact List.inj_on_of_nodup_map g.declarations.nodup ha hb
    (eq_of_file_eq_of_name_eq h (found a ha) (found b hb) sameFile same)

/-- The text of a module defines a schema between the definitions of the schemas before and after
it.  No other definition of the module has its name, and what it needs at once of the module is
defined before it. -/
structure GeneratedModule.DefinesInOrder (m : GeneratedModule) (suffix : String) (schema : Schema)
    (before after : List Schema) : Prop extends m.WritesBetween suffix schema before after where
  named : SchemaModule.StartsDefinition (SchemaModule.definitionText suffix schema)
    (schemaName suffix schema.name) schema.exported
  once : ∀ other ∈ before ++ after, other.name ≠ schema.name
  needed : ∀ needed ∈ m.source.definitions, needed ≠ schema → needed.name ∈ schema.eagerNames →
    needed ∈ before

namespace Session

section Edges

variable {gen : Generator} {files : List String} {m : GeneratedModule}
  (h : m ∈ modulesBy gen files)

include h

theorem eagerEdge_of_mem_eagerNames {schema needed : Schema} (member : schema ∈ m.schemas)
    (member' : needed ∈ m.schemas) (eager : needed.name ∈ schema.eagerNames) :
    gen.EagerEdge schema.id needed.id := by
  obtain ⟨-, -, stats, generated⟩ := generate_of_mem_schemas h member
  obtain ⟨-, -, stats', generated'⟩ := generate_of_mem_schemas h member'
  obtain ⟨d, found, name, -⟩ :=
    Generator.declaration_of_schema? (Generator.schema?_of_ok generated')
  exact ⟨schema, stats, d, generated, found, name ▸ eager⟩

/-- What is needed in a module, step by step, is needed by the declarations of its schemas. -/
theorem eagerEdges_of_leads {place next : Nat} {schema needed : Schema}
    (path : ReflTransGen (Walk.Leads (definitionEdges m.schemas)) place next)
    (at_place : m.schemas[place]? = some schema) (at_next : m.schemas[next]? = some needed) :
    ReflTransGen gen.EagerEdge schema.id needed.id := by
  induction path generalizing needed with
  | refl =>
    obtain rfl : schema = needed := Option.some.inj (at_place.symm.trans at_next)
    exact .refl
  | tail _ step ih =>
    obtain ⟨middle, at_middle, ⟨name, eager, placed⟩, -⟩ := leads_definitionEdges_iff.mp step
    obtain ⟨other, at_other, rfl⟩ := getElem?_of_placeOf? placed
    obtain rfl : other = needed := Option.some.inj (at_other.symm.trans at_next)
    exact (ih at_middle).tail (eagerEdge_of_mem_eagerNames h (List.mem_of_getElem? at_middle)
      (List.mem_of_getElem? at_next) eager)

end Edges

/-- What a schema needs at once is defined before it. -/
theorem sublist_definitions_of_mem_eagerNames {documents : List Document} {graph : ShapeGraph}
    {rules : RuleSet} {options : GenerateOptions} {m : GeneratedModule}
    (lowered : ShapeGraph.ofDocuments documents = .ok graph) (distinct : graph.DistinctNames)
    (h : m ∈ modulesBy (.new graph rules options) (documents.map Document.file))
    {schema needed : Schema} (member : schema ∈ m.schemas) (member' : needed ∈ m.schemas)
    (other : needed ≠ schema) (eager : needed.name ∈ schema.eagerNames) :
    [needed, schema].Sublist m.source.definitions := by
  have filed := ShapeGraph.filed_ofDocuments lowered
  obtain ⟨-, source, -⟩ := schemas_of_mem_modulesBy h
  obtain ⟨place, at_place⟩ := List.getElem?_of_mem member
  obtain ⟨next, at_next⟩ := List.getElem?_of_mem member'
  have names : (m.schemas.map Schema.name).Nodup :=
    ((perm_definitions h).map _).nodup_iff.mp (nodup_names_definitions lowered h)
  have edge : Walk.Leads (definitionEdges m.schemas) place next := by
    refine leads_definitionEdges_iff.mpr
      ⟨schema, at_place, ⟨needed.name, eager, placeOf?_of_getElem? names at_next⟩, ?_⟩
    rintro rfl
    exact other (Option.some.inj (at_next.symm.trans at_place))
  rw [source]
  refine SchemaModule.sublist_definitions at_place at_next edge fun back => ?_
  have forth := eagerEdge_of_mem_eagerNames h member member' eager
  exact (forth.leads filed distinct).2
    (Generator.mentions_of_eagerEdges filed distinct (eagerEdges_of_leads h back at_next at_place))

/-- A module defines each of its schemas in order. -/
theorem exists_definesInOrder {documents : List Document} {graph : ShapeGraph}
    {rules : RuleSet} {options : GenerateOptions} {m : GeneratedModule}
    (lowered : ShapeGraph.ofDocuments documents = .ok graph) (distinct : graph.DistinctNames)
    (h : m ∈ modulesBy (.new graph rules options) (documents.map Document.file))
    {schema : Schema} (defined : schema ∈ m.source.definitions) :
    ∃ before after, m.DefinesInOrder options.suffix schema before after := by
  have perm := perm_definitions h
  have names := nodup_names_definitions lowered h
  obtain ⟨before, after, writes⟩ := writes_of_mem_definitions h defined
  refine ⟨before, after, writes, SchemaModule.startsDefinition_definitionText _ schema,
    fun other member same => ?_, ?_⟩
  · rw [writes.definitions, List.map_append, List.map_cons, List.nodup_middle,
      ← List.map_append] at names
    exact (List.nodup_cons.mp names).1 (same ▸ List.mem_map_of_mem member)
  · intro needed defined' other eager
    exact SchemaModule.mem_of_sublist_of_eq_append names.of_map writes.definitions
      (sublist_definitions_of_mem_eagerNames lowered distinct h (perm.mem_iff.mp defined)
        (perm.mem_iff.mp defined') other eager)

/-- Every selected declaration has its schema in a module.  The text of a module is its preamble and
then the definitions of the schemas of its file, each of them once, and what a schema needs at once
of its module is defined before it. -/
theorem defined_before_use (documents : List Document)
    (accepted : (ShapeGraph.ofDocuments documents).isOk) (oneFile : OneFileEach documents)
    (rules : RuleSet) (options : GenerateOptions) :
    ∃ graph schemas modules, ShapeGraph.ofDocuments documents = .ok graph ∧
      schemas = ((Generator.new graph rules options).generateAll none).schemas ∧
      modules = modulesOf graph options.suffix (documents.map Document.file) schemas ∧
      (∀ id ∈ graph.select options.exportOnly,
        ∃ m ∈ modules, ∃ schema ∈ m.source.definitions, schema.id = id) ∧
      ∀ m ∈ modules,
        m.source.definitions.Perm (schemas.filter (·.file = m.file)) ∧
        m.text = m.source.preamble
          ++ SchemaModule.definitionsText options.suffix m.source.definitions ∧
        ∀ schema ∈ schemas.filter (·.file = m.file),
          ∃ before after, m.DefinesInOrder options.suffix schema before after := by
  cases lowered : ShapeGraph.ofDocuments documents with
  | error error => simp [lowered, Except.isOk, Except.toBool] at accepted
  | ok graph =>
    refine ⟨graph, _, _, rfl, rfl, rfl, ?_, ?_⟩
    · intro id selected
      rw [Generator.schemas_generateAll]
      obtain ⟨d, -, m, module, -, schema, defined, isId, -⟩ :=
        exists_module_of_mem_select rules options lowered selected
      exact ⟨m, module, schema, defined, isId⟩
    · rw [Generator.schemas_generateAll]
      intro m (module : m ∈ modulesBy (.new graph rules options) (documents.map Document.file))
      obtain ⟨schemas, -, text⟩ := schemas_of_mem_modulesBy module
      have perm := perm_definitions module
      refine ⟨schemas ▸ perm, ?_, fun schema listed => ?_⟩
      · rw [text]
        exact SchemaModule.text_eq_preamble m.source options.suffix
      · rw [← schemas] at listed
        exact exists_definesInOrder lowered
          (ShapeGraph.distinctNames_ofDocuments lowered oneFile) module (perm.mem_iff.mpr listed)

/-- A type that needs one declared after it and one of another file. -/
def lateDocuments : List Document := [
  ⟨"a.ts", [⟨"Outer", .typeAlias, true, [], .tuple [.ref "Inner" [], .ref "Far" []]⟩,
    ⟨"Inner", .typeAlias, false, [], .primitive .string⟩]⟩,
  ⟨"b.ts", [⟨"Far", .typeAlias, true, [], .array (.ref "Outer" [])⟩]⟩]

theorem defined_before_use_late :
    ∃ graph schemas modules, ShapeGraph.ofDocuments lateDocuments = .ok graph ∧
      schemas = ((Generator.new graph .empty { exportOnly := true }).generateAll none).schemas ∧
      modules = modulesOf graph "Schema" ["a.ts", "b.ts"] schemas ∧
      (∀ id ∈ graph.select true,
        ∃ m ∈ modules, ∃ schema ∈ m.source.definitions, schema.id = id) ∧
      ∀ m ∈ modules,
        m.source.definitions.Perm (schemas.filter (·.file = m.file)) ∧
        m.text = m.source.preamble
          ++ SchemaModule.definitionsText "Schema" m.source.definitions ∧
        ∀ schema ∈ schemas.filter (·.file = m.file),
          ∃ before after, m.DefinesInOrder "Schema" schema before after :=
  defined_before_use lateDocuments (by decide +kernel) (by decide +kernel) .empty
    { exportOnly := true }

end Session

end Schemata
