import Schemata.Proofs.Session.Modules

/-!
# Modules of a session fit together

Every name that a schema refers to is defined in its module or imported from the module of a file
that declares it, and every name that is imported is defined in the module that it is imported from.
The definition is written with `export` if and only if the declaration is exported, and look-up of
names does not ask for that: an import can name what the other module keeps to itself.

## Main definitions

* `GeneratedModule.DefinesAsDeclared` : a module defines a name as its file declares it.

## Main results

* `Session.distinguished_of_forall_eq` : fingerprints matter only to sessions that have seen other
  documents.
* `Session.generate_provides` : every name that is used is provided.
* `Session.generate_imports_defined` : every name that is imported is defined.
-/

namespace Schemata

open Coordinator Lowering

/-- The module defines a name once, and its text has the definition, with `export` exactly if the
declaration of its file is exported. -/
def GeneratedModule.DefinesAsDeclared (m : GeneratedModule) (documents : List Document)
    (suffix name : String) : Prop :=
  m.text = m.source.text suffix ∧
    ∃ schema ∈ m.source.definitions, name = schemaName suffix schema.name ∧
      (∀ twin ∈ m.source.definitions, twin.name = schema.name → twin = schema) ∧
      ∃ d, (m.file, d) ∈ declarationsOf documents ∧ d.name = schema.name ∧
        schema.exported = d.exported ∧ m.Writes suffix schema ∧
        SchemaModule.StartsDefinition (SchemaModule.definitionText suffix schema) name d.exported

namespace Session

/-- A session that is called on the same documents again and again cannot mistake their graphs. -/
theorem distinguished_of_forall_eq {documents : List Document} {runs : List (List Document)}
    (same : ∀ run ∈ runs, run = documents) : Distinguished (graphsOf runs) := by
  rintro g h ⟨run, member, lowered⟩ ⟨run', member', lowered'⟩ id - found -
  rw [same run member] at lowered
  rw [same run' member', lowered] at lowered'
  obtain rfl : g = h := Except.ok.inj lowered'
  exact ⟨rfl, rfl⟩

/-- So nothing has to be assumed of a session that sees the same documents again and again, but that
its workers are faithful and the graph is not too large to be written. -/
theorem trusted_of_forall_eq {config : Config} {workforce : Workforce} (documents : List Document)
    {runs : List (List Document)} (faithful : Faithful workforce.arrivals)
    (same : ∀ run ∈ runs, run = documents)
    (short : ∃ g, ShapeGraph.ofDocuments documents = .ok g ∧
      (WorkUnit.mk ⟨0⟩ g g.declaredIds config.overrides.table (optionsOf config)).encode.length
        < UInt64.size) :
    Trusted config workforce runs := by
  refine ⟨faithful, distinguished_of_forall_eq same, ?_⟩
  rintro g ⟨run, member, lowered⟩
  obtain ⟨g', lowered', short⟩ := short
  rw [same run member, lowered'] at lowered
  obtain rfl : g' = g := Except.ok.inj lowered
  exact short

/-- A session gives a module for every selected declaration.  The text of a module defines its
schemas, and a name that one of them refers to is defined in that text, or one of its import lines
imports it from the module of another file that declares it, whose text defines it. -/
theorem generate_provides (config : Config) (files : FileStore) (available : Nat)
    {workforce : Workforce} (history : List (List Document)) (documents : List Document)
    (trusted : Trusted config workforce (documents :: history))
    (accepted : (ShapeGraph.ofDocuments documents).isOk) :
    ∃ graph modules, ShapeGraph.ofDocuments documents = .ok graph ∧
      (((withWorkforce config files available workforce).after history).generate documents).1
        = .ok modules ∧
      (config.enabled → ∀ id ∈ graph.select config.exportOnly,
        ∃ d, graph.declaration? id = some d ∧
          ∃ m ∈ modules, m.file = d.file ∧ m.Defines (optionsOf config).suffix d.name) ∧
      ∀ m ∈ modules, ∀ schema ∈ m.schemas, m.Writes (optionsOf config).suffix schema ∧
        ∀ name deferred, (name, deferred) ∈ schema.references →
          m.Defines (optionsOf config).suffix name ∨
            ∃ other ∈ modules, m.Takes other documents (optionsOf config).suffix name := by
  cases lowered : ShapeGraph.ofDocuments documents with
  | error error => simp [lowered, Except.isOk, Except.toBool] at accepted
  | ok graph =>
    refine ⟨graph, _, rfl, generate_after_eq files available trusted lowered, ?_, ?_⟩
    · intro enabled id selected
      obtain ⟨d, found, m, module, file, schema, defined, -, name, -⟩ :=
        exists_module_of_mem_select (.ofTable config.overrides.table) (optionsOf config) lowered
          selected
      rw [if_pos enabled]
      exact ⟨d, found, m, module, file, name ▸ defines_of_mem_definitions module defined⟩
    · split
      · intro m module schema member
        have defined := (perm_definitions module).mem_iff.mpr member
        exact ⟨writes_of_mem_definitions module defined,
          fun name deferred => reference_provided lowered module member⟩
      · exact fun m module => absurd module List.not_mem_nil

theorem exists_ok_of_any {ε α : Type} {result : Except ε α} {good : α → Prop} [DecidablePred good]
    (h : result.toOption.any fun a => good a) : ∃ a, result = .ok a ∧ good a := by
  cases result with
  | error error => cases h
  | ok a => exact ⟨a, rfl, of_decide_eq_true h⟩

/-- A type that refers to a type of another file, which is not exported. -/
def couple : List Document := [
  ⟨"a.ts", [⟨"User", .interface, true, [], .ref "Address" []⟩]⟩,
  ⟨"b.ts", [⟨"Address", .interface, false, [], .primitive .string⟩]⟩]

theorem accepted_couple : (ShapeGraph.ofDocuments couple).isOk := by
  decide +kernel

theorem trusted_couple : Trusted smallConfig ⟨unruly, [], 0⟩ [couple, couple] :=
  trusted_of_forall_eq couple faithful_unruly (by simp) (exists_ok_of_any (by decide +kernel))

theorem generate_provides_couple :
    ∃ graph modules, ShapeGraph.ofDocuments couple = .ok graph ∧
      (((withWorkforce smallConfig (.new [] 0) 2 ⟨unruly, [], 0⟩).after [couple]).generate couple).1
        = .ok modules ∧
      (smallConfig.enabled → ∀ id ∈ graph.select smallConfig.exportOnly,
        ∃ d, graph.declaration? id = some d ∧
          ∃ m ∈ modules, m.file = d.file ∧ m.Defines (optionsOf smallConfig).suffix d.name) ∧
      ∀ m ∈ modules, ∀ schema ∈ m.schemas, m.Writes (optionsOf smallConfig).suffix schema ∧
        ∀ name deferred, (name, deferred) ∈ schema.references →
          m.Defines (optionsOf smallConfig).suffix name ∨
            ∃ other ∈ modules, m.Takes other couple (optionsOf smallConfig).suffix name :=
  generate_provides smallConfig (.new [] 0) 2 [couple] couple trusted_couple accepted_couple

/-- Every name that a module imports is defined in the module that it is imported from, once, and
with `export` exactly if the declaration of that file is exported. -/
theorem generate_imports_defined (config : Config) (files : FileStore) (available : Nat)
    {workforce : Workforce} (history : List (List Document)) (documents : List Document)
    (trusted : Trusted config workforce (documents :: history))
    (accepted : (ShapeGraph.ofDocuments documents).isOk) :
    ∃ modules,
      (((withWorkforce config files available workforce).after history).generate documents).1
        = .ok modules ∧
      ∀ m ∈ modules, ∀ specifier name, m.source.Imports specifier name →
        ∃ other ∈ modules, other.file ≠ m.file ∧
          specifier = ModulePath.specifier m.file other.file ∧
          other.DefinesAsDeclared documents (optionsOf config).suffix name := by
  cases lowered : ShapeGraph.ofDocuments documents with
  | error error => simp [lowered, Except.isOk, Except.toBool] at accepted
  | ok graph =>
    refine ⟨_, generate_after_eq files available trusted lowered, ?_⟩
    split
    · intro m module specifier name imported
      obtain ⟨other, module', different, from_other, schema, defined, rfl, d, declared, isNamed,
        exported⟩ := exists_module_of_imports lowered module imported
      have once := List.inj_on_of_nodup_map (nodup_names_definitions lowered module')
      refine ⟨other, module', different, from_other, (schemas_of_mem_modulesBy module').2.2, schema,
        defined, rfl, fun twin defined' same => once defined' defined same, d, declared, isNamed,
        exported.symm, writes_of_mem_definitions module' defined, ?_⟩
      rw [exported]
      exact SchemaModule.startsDefinition_definitionText _ schema
    · exact fun m module => absurd module List.not_mem_nil

theorem generate_imports_defined_couple :
    ∃ modules,
      (((withWorkforce smallConfig (.new [] 0) 2 ⟨unruly, [], 0⟩).after [couple]).generate couple).1
        = .ok modules ∧
      ∀ m ∈ modules, ∀ specifier name, m.source.Imports specifier name →
        ∃ other ∈ modules, other.file ≠ m.file ∧
          specifier = ModulePath.specifier m.file other.file ∧
          other.DefinesAsDeclared couple (optionsOf smallConfig).suffix name :=
  generate_imports_defined smallConfig (.new [] 0) 2 [couple] couple trusted_couple accepted_couple

/-- The module of `a.ts` imports a name that the module of `b.ts` defines without `export`. -/
theorem generate_imports_hidden :
    ∃ modules, ((withWorkforce {} (.new [] 0) 2 (.inOrder 2)).generate couple).1 = .ok modules ∧
      ∃ m ∈ modules, ∃ other ∈ modules, m.file = "a.ts" ∧ other.file = "b.ts" ∧
        m.source.Imports (ModulePath.specifier m.file other.file) "AddressSchema" ∧
        other.text = "// Generated by shapecheck. Do not edit.\nimport \x7b z \x7d from \"zod\";\n"
          ++ "\nconst AddressSchema = z.string();\n" :=
  exists_ok_of_any (by decide +kernel)

end Session

end Schemata
