import Schemata.Proofs.Document.Provenance
import Schemata.Proofs.Session.Linkage

/-!
# Names in modules

Schemas refer to each other by bare names, though several files may declare the same name.  A module
that imports a name or defines it binds it for all its schemas, so a name must mean the same in all
of them.  That holds of the names written in the file itself: they stand for what look-up in the
file gives.  But a per-key transform takes the fields of an object type as they are, and if that
type is written in another file, its names come along with their meaning there.  If they mean
something else in the file of the transform, a module can import one declaration under the name of
another one that it defines.

## Main definitions

* `Generator.PassesTo` : a walk passes through an anonymous type to another one.
* `Lowering.InliningKeepsNames` : names in fields that per-key transforms take keep their meaning.
* `GeneratedModule.Denotes` : what a name in a schema of a module stands for.

## Main results

* `Session.resolveIn_of_mem_dependencies` : what a schema depends on is what look-up in its file
  gives for the name.
* `Session.generate_hygienic` : a module binds each name once, and for what look-up gives.
-/

namespace Schemata

open Relation

/-- A walk goes on from the anonymous type `a` to `b`. -/
def Generator.PassesTo (gen : Generator) (a b : ShapeId) : Prop :=
  gen.graph.declaration? a = none ∧ gen.Looks a b

namespace Lowering

/-- Where a per-key transform takes a field from an object type, every declaration that the type of
the field mentions is what its name stands for in the file of the transform. -/
def InliningKeepsNames (documents : List Document) (gen : Generator) : Prop :=
  ∀ a ∈ declarationsOf documents, ∀ e ∈ shapesOf documents a, ∀ id ∈ gen.inlined e.2,
    ∀ target d, ReflTransGen gen.PassesTo id target → gen.graph.declaration? target = some d →
      resolveIn documents a.1 d.name = some target

/-- What a walk from the declarations of a file comes to: types of the file, declarations that it
has a name for, and what the fields lead to that its per-key transforms take. -/
def Familiar (documents : List Document) (gen : Generator) (file : String) (id : ShapeId) : Prop :=
  (∃ a ∈ declarationsOf documents, a.1 = file ∧ id ∈ idsOf documents a) ∨
    (∃ name, resolveIn documents file name = some id) ∨
    ∃ a ∈ declarationsOf documents, a.1 = file ∧ ∃ e ∈ shapesOf documents a,
      ∃ taken ∈ gen.inlined e.2, ReflTransGen gen.PassesTo taken id

theorem familiar_of_mem_lookedAt {documents : List Document} {gen : Generator}
    {a : String × SourceDeclaration} (member : a ∈ declarationsOf documents)
    {e : ShapeId × Shape} (listed : e ∈ shapesOf documents a) {id : ShapeId}
    (looked : id ∈ gen.lookedAt e.2) : Familiar documents gen a.1 id := by
  rcases List.mem_append.mp looked with child | inlined
  · rcases (spec_of_mem_shapesOf listed).2 id child with own | resolved
    · exact Or.inl ⟨a, member, rfl, own⟩
    · exact Or.inr (Or.inl resolved)
  · exact Or.inr (Or.inr ⟨a, member, rfl, e, listed, id, inlined, .refl⟩)

end Lowering

open Lowering Coordinator

/-- In a schema of a module, a name stands for a declaration: for what look-up in the file gives,
which is the only declaration of that name that the schema depends on, and which the module defines
or imports under the name. -/
structure GeneratedModule.Denotes (m : GeneratedModule) (documents : List Document)
    (graph : ShapeGraph) (suffix : String) (schema : Schema) (name : String) (target : ShapeId) :
    Prop where
  resolved : resolveIn documents m.file name = some target
  needed : target ∈ schema.dependencies
  only : ∀ other ∈ schema.dependencies, ∀ d, graph.declaration? other = some d → d.name = name →
    other = target
  bound : ∃ d, graph.declaration? target = some d ∧ d.name = name ∧
    ((∃ own ∈ m.source.definitions, own.id = target ∧ own.name = name) ∨
      d.file ≠ m.file ∧
        m.source.Imports (ModulePath.specifier m.file d.file) (schemaName suffix name))

namespace Session

section Documents

variable {documents : List Document} {graph : ShapeGraph} {rules : RuleSet}
  {options : GenerateOptions} (lowered : ShapeGraph.ofDocuments documents = .ok graph)
  (noCollisions : NoCollisions documents)
  (keeps : InliningKeepsNames documents (.new graph rules options))

include lowered noCollisions

/-- Shapes of a file lead to what is familiar to it. -/
theorem familiar_of_mem_idsOf {a : String × SourceDeclaration}
    (member : a ∈ declarationsOf documents) {id next : ShapeId} (own : id ∈ idsOf documents a)
    (looks : (Generator.new graph rules options).Looks id next) :
    Familiar documents (.new graph rules options) a.1 next := by
  obtain ⟨shape, found, looked⟩ := looks
  obtain ⟨b, member', listed⟩ := ShapeGraph.mem_shapesOf_of_shape? lowered found
  obtain ⟨sameFile, -⟩ := noCollisions.eq_of_mem member' member (List.mem_map_of_mem listed) own
  rw [← sameFile]
  exact familiar_of_mem_lookedAt member' listed looked

theorem familiar_of_passesTo {file : String} {id next : ShapeId}
    (familiar : Familiar documents (.new graph rules options) file id)
    (passes : (Generator.new graph rules options).PassesTo id next) :
    Familiar documents (.new graph rules options) file next := by
  rcases familiar with ⟨a, member, rfl, own⟩ | ⟨name, resolved⟩ | ⟨a, member, isFile, e, listed,
    taken, inlined, path⟩
  · exact familiar_of_mem_idsOf lowered noCollisions member own passes.2
  · -- What a name stands for is declared, and a walk does not pass through declarations.
    obtain ⟨a, member, -, rfl⟩ := exists_of_resolveIn resolved
    have declared := ShapeGraph.isDeclared_of_mem lowered member
    have anonymous : graph.declaration? _ = none := passes.1
    rw [graph.isDeclared_eq_isSome, anonymous] at declared
    cases declared
  · exact Or.inr (Or.inr ⟨a, member, isFile, e, listed, taken, inlined, path.tail passes⟩)

include keeps

/-- A declaration that is familiar to a file is what its name stands for there. -/
theorem resolveIn_of_familiar {file : String} {target : ShapeId}
    (familiar : Familiar documents (.new graph rules options) file target) {d : Declaration}
    (found : graph.declaration? target = some d) :
    resolveIn documents file d.name = some target := by
  obtain ⟨e, declared, isId, -, isName⟩ := ShapeGraph.exists_of_declaration? lowered found
  have belongs : target ∈ idsOf documents e := by
    rw [isId]
    exact declaration_mem_idsOf documents e
  rcases familiar with ⟨a, member, rfl, own⟩ | ⟨name, resolved⟩ | ⟨a, member, rfl, e', listed,
    taken, inlined, path⟩
  · obtain ⟨sameFile, -⟩ := noCollisions.eq_of_mem member declared own belongs
    rw [sameFile, isName, isId]
    exact resolveIn_of_mem declared
  · obtain ⟨a, member, named, isId'⟩ := exists_of_resolveIn resolved
    have belongs' : target ∈ idsOf documents a := by
      rw [isId']
      exact declaration_mem_idsOf documents a
    obtain ⟨-, sameName⟩ := noCollisions.eq_of_mem member declared belongs' belongs
    rw [isName, ← sameName, named]
    exact resolved
  · exact keeps a member e' listed taken inlined target d path found

/-- What a schema depends on is what look-up in its file gives for the name. -/
theorem resolveIn_of_mem_dependencies {id : ShapeId} {schema : Schema} {stats : GeneratorStats}
    (generated : (Generator.new graph rules options).generate id = .ok (schema, stats))
    {target : ShapeId} (dependency : target ∈ schema.dependencies) :
    ∃ d, graph.declaration? target = some d ∧
      resolveIn documents schema.file d.name = some target := by
  obtain ⟨own, foundOwn, -, inFile, -⟩ :=
    Generator.declaration_of_schema? (Generator.schema?_of_ok generated)
  obtain ⟨e, declared, isId, isFile, -⟩ := ShapeGraph.exists_of_declaration? lowered foundOwn
  have belongs : id ∈ idsOf documents e := by
    rw [isId]
    exact declaration_mem_idsOf documents e
  obtain ⟨familiar, d, found⟩ := Generator.inside_of_mem_dependencies
    (fun _ _ familiar anonymous looks =>
      familiar_of_passesTo lowered noCollisions familiar ⟨anonymous, looks⟩)
    (fun _ looks => familiar_of_mem_idsOf lowered noCollisions declared belongs looks)
    generated dependency
  rw [inFile, isFile]
  exact ⟨d, found, resolveIn_of_familiar lowered noCollisions keeps familiar found⟩

section Modules

variable {m : GeneratedModule}
  (h : m ∈ modulesBy (.new graph rules options) (documents.map Document.file))

include h

omit noCollisions keeps in
/-- A name that a module defines stands in its file for the declaration of the definition. -/
theorem resolveIn_of_mem_definitions {schema : Schema} (defined : schema ∈ m.source.definitions) :
    resolveIn documents m.file schema.name = some schema.id := by
  obtain ⟨selected, inModule⟩ := (mem_definitions_iff h).mp defined
  obtain ⟨-, generated⟩ := Generator.mem_selectedSchemas_iff.mp selected
  obtain ⟨d, found, name, file, -⟩ := Generator.declaration_of_schema? generated
  obtain ⟨e, declared, isId, isFile, isName⟩ := ShapeGraph.exists_of_declaration? lowered found
  rw [← inModule, file, isFile, name, isName, isId]
  exact resolveIn_of_mem declared

/-- A name that a module imports stands in its file for a declaration of the other file. -/
theorem resolveIn_of_imports {specifier name : String}
    (imported : m.source.Imports specifier name) :
    ∃ target d, graph.declaration? target = some d ∧
      specifier = ModulePath.specifier m.file d.file ∧ name = schemaName options.suffix d.name ∧
      resolveIn documents m.file d.name = some target ∧
      target ∉ m.schemas.map Schema.id := by
  rw [(schemas_of_mem_modulesBy h).2.1] at imported
  obtain ⟨schema, member, target, dependency, foreign, d, found, isFrom, isName⟩ :=
    SchemaModule.imports_iff.mp imported
  obtain ⟨-, inModule, stats, generated⟩ := generate_of_mem_schemas h member
  obtain ⟨d', found', resolved⟩ :=
    resolveIn_of_mem_dependencies lowered noCollisions keeps generated dependency
  obtain rfl : d = d' := Option.some.inj (found.symm.trans found')
  exact ⟨target, d, found, isFrom, isName, inModule ▸ resolved, foreign⟩

/-- A module binds each name once. -/
theorem nodup_boundNames_of_mem_modulesBy : (m.source.boundNames options.suffix).Nodup := by
  obtain ⟨-, source, -⟩ := schemas_of_mem_modulesBy h
  refine SchemaModule.nodup_boundNames source ?_ ?_ (nodup_names_definitions lowered h)
  · intro specifier specifier' name first second
    obtain ⟨target, d, found, rfl, rfl, resolved, -⟩ :=
      resolveIn_of_imports lowered noCollisions keeps h first
    obtain ⟨target', d', found', rfl, same, resolved', -⟩ :=
      resolveIn_of_imports lowered noCollisions keeps h second
    have sameName : d.name = d'.name := (String.append_left_inj options.suffix).mp same
    rw [sameName, resolved'] at resolved
    rw [← Option.some.inj resolved, found'] at found
    rw [Option.some.inj found]
  · intro specifier schema defined imported
    obtain ⟨target, d, -, -, same, resolved, foreign⟩ :=
      resolveIn_of_imports lowered noCollisions keeps h imported
    have sameName : schema.name = d.name := (String.append_left_inj options.suffix).mp same
    have own := resolveIn_of_mem_definitions lowered h defined
    rw [sameName, resolved] at own
    have member := (perm_definitions h).mem_iff.mp defined
    exact foreign (List.mem_map.mpr ⟨schema, member, (Option.some.inj own).symm⟩)

/-- A name that a schema refers to stands for a declaration. -/
theorem exists_denotes {schema : Schema} (member : schema ∈ m.schemas) {name : String}
    {deferred : Bool} (referenced : (name, deferred) ∈ schema.references) :
    ∃ target, m.Denotes documents graph options.suffix schema name target := by
  obtain ⟨-, inModule, stats, generated⟩ := generate_of_mem_schemas h member
  have resolves {other : ShapeId} (dependency : other ∈ schema.dependencies) {d : Declaration}
      (found : graph.declaration? other = some d) :
      resolveIn documents m.file d.name = some other := by
    obtain ⟨d', found', resolved⟩ :=
      resolveIn_of_mem_dependencies lowered noCollisions keeps generated dependency
    obtain rfl : d = d' := Option.some.inj (found.symm.trans found')
    exact inModule ▸ resolved
  obtain ⟨target, dependency, d, found, rfl, -⟩ := Generator.dependency_of_mem_references
    (ShapeGraph.filed_ofDocuments lowered) generated referenced
  have resolved := resolves dependency found
  refine ⟨target, resolved, dependency, fun other dependency' d' found' same => ?_, d, found, rfl,
    ?_⟩
  · have resolved' := resolves dependency' found'
    rw [same, resolved] at resolved'
    exact (Option.some.inj resolved').symm
  · obtain ⟨d', found', provided⟩ := dependency_provided lowered h member dependency
    obtain rfl : d = d' := Option.some.inj (found.symm.trans found')
    refine provided.imp_right ?_
    rintro ⟨other, -, different, file, -, imported⟩
    exact ⟨file ▸ different, file ▸ imported⟩

end Modules

end Documents

/-- If no ids collide, and the names in the fields that per-key transforms take keep their meaning,
every module of a session binds each name once, and every name in a schema stands for the
declaration that was meant. -/
theorem generate_hygienic (config : Config) (files : FileStore) (available : Nat)
    {workforce : Workforce} (history : List (List Document)) (documents : List Document)
    (trusted : Trusted config workforce (documents :: history)) {graph : ShapeGraph}
    (lowered : ShapeGraph.ofDocuments documents = .ok graph)
    (noCollisions : NoCollisions documents)
    (keeps : InliningKeepsNames documents (generatorOf config graph)) :
    ∃ modules,
      (((withWorkforce config files available workforce).after history).generate documents).1
        = .ok modules ∧
      ∀ m ∈ modules, (m.source.boundNames (optionsOf config).suffix).Nodup ∧
        ∀ schema ∈ m.schemas, ∀ name deferred, (name, deferred) ∈ schema.references →
          ∃ target, m.Denotes documents graph (optionsOf config).suffix schema name target := by
  refine ⟨_, generate_after_eq files available trusted lowered, ?_⟩
  split
  · intro m module
    refine ⟨nodup_boundNames_of_mem_modulesBy lowered noCollisions keeps module, ?_⟩
    exact fun schema member name deferred =>
      exists_denotes lowered noCollisions keeps module member
  · exact fun m module => absurd module List.not_mem_nil

/-- Two files that declare the same name, one of which refers to it. -/
def twins : List Document := [
  ⟨"a.ts", [⟨"Id", .interface, true, [], .primitive .number⟩,
    ⟨"Key", .interface, true, [], .ref "Id" []⟩]⟩,
  ⟨"b.ts", [⟨"Id", .interface, true, [], .ref "Key" []⟩]⟩]

theorem generate_hygienic_twins :
    ∃ graph, ShapeGraph.ofDocuments twins = .ok graph ∧ NoCollisions twins ∧
      InliningKeepsNames twins (generatorOf smallConfig graph) ∧
      ∃ modules,
        (((withWorkforce smallConfig (.new [] 0) 2 ⟨unruly, [], 0⟩).after [twins]).generate twins).1
          = .ok modules ∧
        ∀ m ∈ modules, (m.source.boundNames (optionsOf smallConfig).suffix).Nodup ∧
          ∀ schema ∈ m.schemas, ∀ name deferred, (name, deferred) ∈ schema.references →
            ∃ target, m.Denotes twins graph (optionsOf smallConfig).suffix schema name target := by
  have trusted : Trusted smallConfig ⟨unruly, [], 0⟩ [twins, twins] :=
    trusted_of_forall_eq twins faithful_unruly (by simp) (exists_ok_of_any (by decide +kernel))
  have noCollisions : NoCollisions twins := by
    decide +kernel
  obtain ⟨graph, lowered, none⟩ : ∃ graph, ShapeGraph.ofDocuments twins = .ok graph ∧
      ∀ a ∈ declarationsOf twins, ∀ e ∈ shapesOf twins a,
        (generatorOf smallConfig graph).inlined e.2 = [] :=
    exists_ok_of_any (by decide +kernel)
  have keeps : InliningKeepsNames twins (generatorOf smallConfig graph) := by
    intro a member e listed id inlined
    rw [none a member e listed] at inlined
    cases inlined
  exact ⟨graph, lowered, noCollisions, keeps, generate_hygienic smallConfig (.new [] 0) 2 [twins]
    twins trusted lowered noCollisions keeps⟩

/-- A per-key transform of an object type of another file, which declares the same name. -/
def drafts : List Document := [
  ⟨"a.ts", [⟨"Id", .interface, true, [], .primitive .number⟩,
    ⟨"Draft", .interface, true, [], .mapped (.ref "User" []) (.perKey "Loose" .optional)⟩]⟩,
  ⟨"b.ts", [⟨"Id", .interface, true, [], .primitive .string⟩,
    ⟨"User", .interface, true, [], .object [.mk "id" false false (.ref "Id" [])]⟩]⟩]

/-- The module of `a.ts` imports a name that it also defines. -/
theorem generate_binds_twice :
    ∃ modules, ((withWorkforce {} (.new [] 0) 2 (.inOrder 2)).generate drafts).1 = .ok modules ∧
      ∃ m ∈ modules, m.file = "a.ts" ∧ ¬ (m.source.boundNames "Schema").Nodup ∧
        m.text = "// Generated by shapecheck. Do not edit.\nimport \x7b z \x7d from \"zod\";\n"
          ++ "import \x7b IdSchema \x7d from \"./b.schema\";\n"
          ++ "\nexport const IdSchema = z.number();\n"
          ++ "\nexport const DraftSchema = z.object(\x7b id: IdSchema.optional() \x7d);\n" :=
  exists_ok_of_any (by decide +kernel)

end Session

end Schemata
