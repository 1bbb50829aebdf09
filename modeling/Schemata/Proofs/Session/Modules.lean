import Schemata.Proofs.Schema.Deferral
import Schemata.Proofs.Schema.Module
import Schemata.Proofs.Session.History

/-!
# The modules of a session

A session puts the schema of each selected declaration into the module of its file.  What a schema
refers to is defined in the same module or imported from the module of its file, and what is
imported is defined there.

## Main definitions

* `Generator.selectedSchemas` : the schemas of the selected declarations.
* `GeneratedModule.Defines`, `GeneratedModule.Takes` : how the text of a module comes by a name.
* `Session.modulesBy` : the modules of a generator.
* `Session.Trusted` : what is assumed of the calls of a session.

## Main results

* `Session.mem_modulesOf_iff` : which modules there are.
* `Session.exists_module_of_mem_select` : each selected declaration has its schema in a module.
* `Session.reference_provided` : what a schema refers to is in its module or imported.
* `Session.exists_module_of_imports` : what is imported is in another module.
* `Session.generate_after_eq` : a session gives the modules of its generator.
-/

namespace Schemata

open Relation

/-! ### Schemas of selected declarations -/

namespace Generator

variable {gen : Generator}

/-- The schemas of the selected declarations. -/
def selectedSchemas (gen : Generator) : List Schema :=
  (gen.graph.select gen.options.exportOnly).filterMap gen.schema?

/-- A run over the whole graph gives the schemas of the selected declarations. -/
theorem schemas_generateAll (gen : Generator) :
    (gen.generateAll none).schemas = gen.selectedSchemas :=
  generateIds_none _

/-- What a schema has from its declaration. -/
theorem declaration_of_schema? {id : ShapeId} {schema : Schema}
    (h : gen.schema? id = some schema) :
    ∃ d, gen.graph.declaration? id = some d ∧ schema.name = d.name ∧ schema.file = d.file ∧
      schema.exported = d.exported ∧ ∃ stats, gen.generate id = .ok (schema, stats) := by
  unfold schema? at h
  cases found : gen.graph.declaration? id with
  | none => simp [generate, found, Except.toOption] at h
  | some d =>
    rw [generate_eq_ok found] at h
    cases h
    exact ⟨d, rfl, rfl, rfl, rfl, _, generate_eq_ok found⟩

theorem exists_schema? {id : ShapeId} {d : Declaration}
    (found : gen.graph.declaration? id = some d) : ∃ schema, gen.schema? id = some schema := by
  obtain ⟨schema, stats, generated⟩ := exists_generate_iff.mpr ⟨d, found⟩
  exact ⟨schema, schema?_of_ok generated⟩

theorem mem_selectedSchemas_iff {schema : Schema} :
    schema ∈ gen.selectedSchemas ↔
      schema.id ∈ gen.graph.select gen.options.exportOnly ∧
        gen.schema? schema.id = some schema := by
  rw [selectedSchemas, List.mem_filterMap]
  constructor
  · rintro ⟨id, selected, generated⟩
    obtain ⟨rfl, -⟩ := id_of_schema? generated
    exact ⟨selected, generated⟩
  · rintro ⟨selected, generated⟩
    exact ⟨schema.id, selected, generated⟩

theorem nodup_selectedSchemas (filed : gen.graph.Filed) : gen.selectedSchemas.Nodup := by
  refine (filed.nodup_select _).filterMap fun a b schema ha hb => ?_
  rw [← (id_of_schema? ha).1, (id_of_schema? hb).1]

end Generator

namespace GeneratedModule

/-- The text of a module defines a schema after those before it and before those after it. -/
structure WritesBetween (m : GeneratedModule) (suffix : String) (schema : Schema)
    (before after : List Schema) : Prop where
  definitions : m.source.definitions = before ++ schema :: after
  text : m.text = m.source.preamble ++ SchemaModule.definitionsText suffix before
    ++ SchemaModule.definitionText suffix schema ++ SchemaModule.definitionsText suffix after

/-- The text of a module defines a schema. -/
def Writes (m : GeneratedModule) (suffix : String) (schema : Schema) : Prop :=
  ∃ before after, m.WritesBetween suffix schema before after

/-- The text of a module defines a schema of a name. -/
def Defines (m : GeneratedModule) (suffix name : String) : Prop :=
  ∃ schema, schema.name = name ∧ m.Writes suffix schema ∧ SchemaModule.StartsDefinition
    (SchemaModule.definitionText suffix schema) (schemaName suffix name) schema.exported

/-- The text of a module takes a name from the module of another file that declares it. -/
structure Takes (m other : GeneratedModule) (documents : List Document) (suffix name : String) :
    Prop where
  different : other.file ≠ m.file
  declared : ∃ d, (other.file, d) ∈ Lowering.declarationsOf documents ∧ d.name = name
  imported : SchemaModule.ImportsIn m.text (ModulePath.specifier m.file other.file)
    (schemaName suffix name)
  defined : other.Defines suffix name

end GeneratedModule

namespace Session

/-! ### Modules of a generator -/

theorem modulesOf_cons (graph : ShapeGraph) (suffix file : String) (rest : List String)
    (schemas : List Schema) :
    modulesOf graph suffix (file :: rest) schemas
      = (if schemas.filter (·.file = file) = [] then []
          else [moduleOf graph suffix file (schemas.filter (·.file = file))])
        ++ modulesOf graph suffix rest (schemas.filter fun s => !decide (s.file = file)) := by
  simp only [modulesOf, List.partition_eq_filter_filter, List.isEmpty_iff]
  split <;> rfl

/-- What a file leaves for the others: nothing of its own, and all of theirs. -/
private theorem filter_filter_file (schemas : List Schema) (file other : String) :
    (schemas.filter fun s => !decide (s.file = file)).filter (·.file = other)
      = if other = file then [] else schemas.filter (·.file = other) := by
  rw [List.filter_filter]
  split
  · rename_i same
    simp [same]
  · rename_i different
    refine List.filter_congr fun schema _ => ?_
    by_cases own : schema.file = other
    · simp [own, different]
    · simp [own]

theorem mem_modulesOf_iff {graph : ShapeGraph} {suffix : String} {files : List String}
    {schemas : List Schema} {m : GeneratedModule} :
    m ∈ modulesOf graph suffix files schemas ↔
      ∃ file ∈ files, schemas.filter (·.file = file) ≠ [] ∧
        m = moduleOf graph suffix file (schemas.filter (·.file = file)) := by
  induction files generalizing schemas with
  | nil => simp [modulesOf]
  | cons file rest ih =>
    let isModule (file : String) : Prop := schemas.filter (·.file = file) ≠ [] ∧
      m = moduleOf graph suffix file (schemas.filter (·.file = file))
    have own : m ∈ (if schemas.filter (·.file = file) = [] then []
        else [moduleOf graph suffix file (schemas.filter (·.file = file))]) ↔ isModule file := by
      split <;> simp_all [isModule]
    have later : m ∈ modulesOf graph suffix rest (schemas.filter fun s => !decide (s.file = file)) ↔
        ∃ other ∈ rest, other ≠ file ∧ isModule other := by
      rw [ih]
      refine exists_congr fun other => and_congr_right fun _ => ?_
      rw [filter_filter_file]
      by_cases same : other = file <;> simp [same, isModule]
    rw [modulesOf_cons, List.mem_append, own, later, List.exists_mem_cons_iff]
    -- A file that comes again has its module already.
    constructor
    · rintro (h | ⟨other, listed, -, h⟩)
      · exact Or.inl h
      · exact Or.inr ⟨other, listed, h⟩
    · rintro (h | ⟨other, listed, h⟩)
      · exact Or.inl h
      · by_cases same : other = file
        · exact Or.inl (same ▸ h)
        · exact Or.inr ⟨other, listed, same, h⟩

/-- The modules of a generator: the schemas of the selected declarations, file by file. -/
def modulesBy (gen : Generator) (files : List String) : List GeneratedModule :=
  modulesOf gen.graph gen.options.suffix files gen.selectedSchemas

section Modules

variable {gen : Generator} {files : List String} {m : GeneratedModule}

/-- A module holds the schemas of the selected declarations of its file. -/
theorem schemas_of_mem_modulesBy (h : m ∈ modulesBy gen files) :
    m.schemas = gen.selectedSchemas.filter (·.file = m.file) ∧
      m.source = SchemaModule.ofSchemas m.file m.schemas gen.graph gen.options.suffix ∧
      m.text = m.source.text gen.options.suffix := by
  obtain ⟨file, -, -, rfl⟩ := mem_modulesOf_iff.mp h
  exact ⟨rfl, rfl, rfl⟩

/-- A module defines its schemas, in an order of its own. -/
theorem perm_definitions (h : m ∈ modulesBy gen files) : m.source.definitions.Perm m.schemas := by
  rw [(schemas_of_mem_modulesBy h).2.1]
  exact SchemaModule.definitions_perm ..

/-- The schemas of a module are generated from selected declarations of its file. -/
theorem generate_of_mem_schemas (h : m ∈ modulesBy gen files) {schema : Schema}
    (member : schema ∈ m.schemas) :
    schema.id ∈ gen.graph.select gen.options.exportOnly ∧ schema.file = m.file ∧
      ∃ stats, gen.generate schema.id = .ok (schema, stats) := by
  rw [(schemas_of_mem_modulesBy h).1, List.mem_filter] at member
  obtain ⟨selected, generated⟩ := Generator.mem_selectedSchemas_iff.mp member.1
  obtain ⟨_, -, -, -, -, generated⟩ := Generator.declaration_of_schema? generated
  exact ⟨selected, by simpa using member.2, generated⟩

/-- The text of a module defines its schemas. -/
theorem writes_of_mem_definitions (h : m ∈ modulesBy gen files) {schema : Schema}
    (defined : schema ∈ m.source.definitions) : m.Writes gen.options.suffix schema := by
  obtain ⟨before, after, split⟩ := List.append_of_mem defined
  refine ⟨before, after, split, ?_⟩
  rw [(schemas_of_mem_modulesBy h).2.2]
  exact SchemaModule.text_of_definitions_eq split gen.options.suffix

theorem defines_of_mem_definitions (h : m ∈ modulesBy gen files) {schema : Schema}
    (defined : schema ∈ m.source.definitions) : m.Defines gen.options.suffix schema.name :=
  ⟨schema, rfl, writes_of_mem_definitions h defined,
    SchemaModule.startsDefinition_definitionText gen.options.suffix schema⟩

theorem mem_definitions_iff (h : m ∈ modulesBy gen files) {schema : Schema} :
    schema ∈ m.source.definitions ↔ schema ∈ gen.selectedSchemas ∧ schema.file = m.file := by
  rw [(perm_definitions h).mem_iff, (schemas_of_mem_modulesBy h).1]
  simp

end Modules

section Documents

variable {documents : List Document} {graph : ShapeGraph} {rules : RuleSet}
  {options : GenerateOptions} {m : GeneratedModule}
  (lowered : ShapeGraph.ofDocuments documents = .ok graph)
  (h : m ∈ modulesBy (.new graph rules options) (documents.map Document.file))

include lowered h

/-- In a module a name stands for one schema. -/
theorem nodup_names_definitions : (m.source.definitions.map Schema.name).Nodup := by
  have distinct : m.source.definitions.Nodup := by
    rw [(perm_definitions h).nodup_iff, (schemas_of_mem_modulesBy h).1]
    exact (Generator.nodup_selectedSchemas (ShapeGraph.filed_ofDocuments lowered)).filter _
  refine distinct.map_on fun a ha b hb same => ?_
  obtain ⟨selectedA, fileA⟩ := (mem_definitions_iff h).mp ha
  obtain ⟨selectedB, fileB⟩ := (mem_definitions_iff h).mp hb
  obtain ⟨-, generatedA⟩ := Generator.mem_selectedSchemas_iff.mp selectedA
  obtain ⟨-, generatedB⟩ := Generator.mem_selectedSchemas_iff.mp selectedB
  obtain ⟨da, foundA, nameA, inA, -⟩ := Generator.declaration_of_schema? generatedA
  obtain ⟨db, foundB, nameB, inB, -⟩ := Generator.declaration_of_schema? generatedB
  have sameId : a.id = b.id := ShapeGraph.eq_of_file_eq_of_name_eq lowered foundA foundB
    (by rw [← inA, ← inB, fileA, fileB]) (by rw [← nameA, ← nameB, same])
  rw [sameId, generatedB] at generatedA
  exact (Option.some.inj generatedA).symm

variable (rules options) in
omit h in
/-- The schema of a selected declaration is defined in the module of its file. -/
theorem exists_module_of_mem_select {target : ShapeId}
    (selected : target ∈ graph.select options.exportOnly) :
    ∃ d, graph.declaration? target = some d ∧
      ∃ other ∈ modulesBy (.new graph rules options) (documents.map Document.file),
        other.file = d.file ∧ ∃ schema ∈ other.source.definitions, schema.id = target ∧
          schema.name = d.name ∧ schema.exported = d.exported := by
  obtain ⟨declared, -⟩ := (ShapeGraph.filed_ofDocuments lowered).mem_select_iff.mp selected
  obtain ⟨d, found⟩ := Option.isSome_iff_exists.mp (graph.isDeclared_eq_isSome target ▸ declared)
  let gen := Generator.new graph rules options
  obtain ⟨schema, generated⟩ : ∃ schema, gen.schema? target = some schema :=
    Generator.exists_schema? found
  obtain ⟨d', found', name, file, exported, -⟩ := Generator.declaration_of_schema? generated
  obtain rfl : d = d' := Option.some.inj (found.symm.trans found')
  obtain ⟨rfl, -⟩ := Generator.id_of_schema? generated
  have member : schema ∈ gen.selectedSchemas :=
    Generator.mem_selectedSchemas_iff.mpr ⟨selected, generated⟩
  let own := moduleOf graph options.suffix d.file (gen.selectedSchemas.filter (·.file = d.file))
  have module : own ∈ modulesBy gen (documents.map Document.file) := by
    refine mem_modulesOf_iff.mpr
      ⟨d.file, ShapeGraph.file_mem_of_declaration? lowered found, ?_, rfl⟩
    exact List.ne_nil_of_mem (List.mem_filter.mpr ⟨member, by simpa using file⟩)
  exact ⟨d, found, own, module, rfl, schema, (mem_definitions_iff module).mpr ⟨member, file⟩, rfl,
    name, exported⟩

/-- What a schema depends on has a schema, in the module of its file. -/
theorem exists_module_of_mem_dependencies {schema : Schema} (member : schema ∈ m.schemas)
    {target : ShapeId} (dependency : target ∈ schema.dependencies) :
    ∃ d, graph.declaration? target = some d ∧
      ∃ other ∈ modulesBy (.new graph rules options) (documents.map Document.file),
        other.file = d.file ∧ ∃ needed ∈ other.source.definitions, needed.id = target ∧
          needed.name = d.name ∧ needed.exported = d.exported := by
  obtain ⟨selected, -, stats, generated⟩ := generate_of_mem_schemas h member
  obtain ⟨path, d, found⟩ := Generator.path_of_mem_dependencies generated dependency
  have reached := (ShapeGraph.filed_ofDocuments lowered).mem_select_of_path selected path
    (graph.isDeclared_of_declaration? found)
  exact exists_module_of_mem_select rules options lowered reached

omit lowered in
/-- Modules of the same file have the same definitions. -/
theorem mem_definitions_of_file_eq {other : GeneratedModule}
    (h' : other ∈ modulesBy (.new graph rules options) (documents.map Document.file))
    (same : other.file = m.file) {schema : Schema} (defined : schema ∈ other.source.definitions) :
    schema ∈ m.source.definitions := by
  rw [mem_definitions_iff h]
  rwa [mem_definitions_iff h', same] at defined

/-- What a schema depends on is defined in its module, or imported from the module that defines
it. -/
theorem dependency_provided {schema : Schema} (member : schema ∈ m.schemas) {target : ShapeId}
    (dependency : target ∈ schema.dependencies) :
    ∃ d, graph.declaration? target = some d ∧
      ((∃ own ∈ m.source.definitions, own.id = target ∧ own.name = d.name) ∨
        ∃ other ∈ modulesBy (.new graph rules options) (documents.map Document.file),
          other.file ≠ m.file ∧ other.file = d.file ∧ other.Defines options.suffix d.name ∧
          m.source.Imports (ModulePath.specifier m.file other.file)
            (schemaName options.suffix d.name)) := by
  obtain ⟨d, found, other, module, file, needed, defined, isTarget, name, -⟩ :=
    exists_module_of_mem_dependencies lowered h member dependency
  refine ⟨d, found, ?_⟩
  by_cases same : other.file = m.file
  · exact Or.inl ⟨needed, mem_definitions_of_file_eq h module same defined, isTarget, name⟩
  · refine Or.inr ⟨other, module, same, file, name ▸ defines_of_mem_definitions module defined, ?_⟩
    rw [(schemas_of_mem_modulesBy h).2.1, file]
    refine SchemaModule.imports_iff.mpr
      ⟨schema, member, target, dependency, fun own => ?_, d, found, rfl, rfl⟩
    -- A schema of the module has the file of the module.
    obtain ⟨twin, listed, twinId⟩ := List.mem_map.mp own
    obtain ⟨-, inModule, stats, generated⟩ := generate_of_mem_schemas h listed
    obtain ⟨d', found', -, inFile, -⟩ :=
      Generator.declaration_of_schema? (Generator.schema?_of_ok generated)
    obtain rfl : d = d' := Option.some.inj (found.symm.trans (twinId ▸ found'))
    exact same (file.trans (inFile.symm.trans inModule))

/-- What a schema refers to is defined in its module, or imported from the module of another file
that declares and defines it. -/
theorem reference_provided {schema : Schema} (member : schema ∈ m.schemas) {name : String}
    {deferred : Bool} (referenced : (name, deferred) ∈ schema.references) :
    m.Defines options.suffix name ∨
      ∃ other ∈ modulesBy (.new graph rules options) (documents.map Document.file),
        m.Takes other documents options.suffix name := by
  obtain ⟨-, -, stats, generated⟩ := generate_of_mem_schemas h member
  obtain ⟨target, dependency, d, found, rfl, -⟩ := Generator.dependency_of_mem_references
    (ShapeGraph.filed_ofDocuments lowered) generated referenced
  obtain ⟨d', found', provided⟩ := dependency_provided lowered h member dependency
  obtain rfl : d = d' := Option.some.inj (found.symm.trans found')
  refine provided.imp
    (fun ⟨own, defined, _, name⟩ => name ▸ defines_of_mem_definitions h defined) ?_
  rintro ⟨other, module, different, file, defined, imported⟩
  obtain ⟨inFile, source, declared, isSource⟩ := ShapeGraph.announced_of_declaration? lowered found
  have sameFile : other.file = inFile := file.trans (congrArg Declaration.file isSource)
  refine ⟨other, module, different, ⟨source, sameFile ▸ declared, ?_⟩, ?_, defined⟩
  · exact (congrArg Declaration.name isSource).symm
  · rw [(schemas_of_mem_modulesBy h).2.2]
    exact imported.importsIn_text options.suffix

/-- What is imported is defined in the module that it is imported from. -/
theorem exists_module_of_imports {specifier name : String}
    (imported : m.source.Imports specifier name) :
    ∃ other ∈ modulesBy (.new graph rules options) (documents.map Document.file),
      other.file ≠ m.file ∧ specifier = ModulePath.specifier m.file other.file ∧
      ∃ schema ∈ other.source.definitions, name = schemaName options.suffix schema.name ∧
        ∃ d, (other.file, d) ∈ Lowering.declarationsOf documents ∧ d.name = schema.name ∧
          d.exported = schema.exported := by
  obtain ⟨-, source, -⟩ := schemas_of_mem_modulesBy h
  rw [source] at imported
  obtain ⟨schema, member, target, dependency, foreign, d, found, rfl, rfl⟩ :=
    SchemaModule.imports_iff.mp imported
  obtain ⟨d', found', other, module, file, needed, defined, rfl, isNamed, exported⟩ :=
    exists_module_of_mem_dependencies lowered h member dependency
  obtain rfl : d = d' := Option.some.inj (found.symm.trans found')
  obtain ⟨inFile, d', declared, isSource⟩ := ShapeGraph.announced_of_declaration? lowered found
  have sameFile : other.file = inFile := file.trans (congrArg Declaration.file isSource)
  refine ⟨other, module, fun same => foreign ?_, by rw [file], needed, defined,
    by rw [isNamed]; rfl, d', sameFile ▸ declared, by rw [isNamed, isSource]; rfl,
    by rw [exported, isSource]; rfl⟩
  have own := mem_definitions_of_file_eq h module same defined
  exact List.mem_map_of_mem ((perm_definitions h).mem_iff.mp own)

end Documents

/-! ### Modules of a session -/

open Coordinator

/-- What is assumed of a session that is called on some lists of documents. -/
structure Trusted (config : Config) (workforce : Workforce) (runs : List (List Document)) :
    Prop where
  /-- Workers send what they generate, in whatever order. -/
  faithful : Faithful workforce.arrivals
  distinguished : Distinguished (graphsOf runs)
  writable : Writable config (graphsOf runs)

variable {config : Config} {workforce : Workforce} {documents : List Document}
  {graph : ShapeGraph}

theorem Trusted.regular {runs : List (List Document)} (trusted : Trusted config workforce runs) :
    Regular config (graphsOf runs) where
  filed := by
    rintro g ⟨_, -, lowered⟩
    exact ShapeGraph.filed_ofDocuments lowered
  distinguished := trusted.distinguished
  writable := trusted.writable

/-- All declarations of documents are in their files. -/
theorem selectIn_eq_select (lowered : ShapeGraph.ofDocuments documents = .ok graph)
    (exportOnly : Bool) :
    selectIn graph exportOnly (documents.map Document.file) = graph.select exportOnly := by
  refine List.filter_eq_self.mpr fun id selected => ?_
  obtain ⟨declared, -⟩ := (ShapeGraph.filed_ofDocuments lowered).mem_select_iff.mp selected
  obtain ⟨d, found⟩ := Option.isSome_iff_exists.mp (graph.isDeclared_eq_isSome id ▸ declared)
  rw [found, Option.any_some, List.contains_iff_mem]
  exact ShapeGraph.file_mem_of_declaration? lowered found

theorem filter_contains_self (files : List String) : files.filter files.contains = files :=
  List.filter_eq_self.mpr fun _ => List.contains_iff_mem.mpr

/-- After any calls a session gives the modules of the generator. -/
theorem generate_after_eq (files : FileStore) (available : Nat) {history : List (List Document)}
    (trusted : Trusted config workforce (documents :: history))
    (lowered : ShapeGraph.ofDocuments documents = .ok graph) :
    (((withWorkforce config files available workforce).after history).generate documents).1
      = .ok (if config.enabled then
          modulesBy (generatorOf config graph) (documents.map Document.file) else []) := by
  have sound := (sound_withWorkforce config files available fun _ => trusted.faithful).after
    trusted.regular fun past member g lowered =>
      ⟨past, List.mem_cons_of_mem documents member, lowered⟩
  have made := (generateFiles_sound trusted.regular sound
    (fun g lowered => ⟨documents, List.mem_cons_self, lowered⟩) (documents.map Document.file)).1
  refine made.trans ?_
  unfold anew
  split
  · simp only [lowered, filter_contains_self, selectIn_eq_select lowered]
    rfl
  · rfl

end Session

end Schemata
