import Mathlib.Data.List.Perm.Basic
import Schemata.Proofs.Session.Calls

/-!
# Modules share the selected declarations out

The schemas of the selected declarations are shared out among the modules: each goes into the module
of its file, and the schemas of a module stand in the order of their declarations.  Files follow
each other as they come up in the documents, and a file without selected declarations has no module.
How the session came by the schemas makes no difference.

## Main definitions

* `Session.Partition` : modules share the selected declarations of documents out.

## Main results

* `Session.flatMap_schemas_modulesOf_perm` : modules take over all schemas of their files.
* `Session.pairwise_modulesOf` : modules follow the order of the files.
* `Session.generate_partition` : what the modules of a session hold.
-/

namespace Schemata.Session

open Coordinator Lowering

/-! ### Schemas in modules -/

section Modules

variable (graph : ShapeGraph) (suffix : String)

theorem flatMap_schemas_own (file : String) (own : List Schema) :
    (if own = [] then [] else [moduleOf graph suffix file own]).flatMap GeneratedModule.schemas
      = own := by
  split
  · rename_i none
    exact none.symm
  · exact List.append_nil own

/-- Modules take over all schemas of their files and nothing else. -/
theorem flatMap_schemas_modulesOf_perm (files : List String) (schemas : List Schema) :
    ((modulesOf graph suffix files schemas).flatMap GeneratedModule.schemas).Perm
      (schemas.filter fun s => files.contains s.file) := by
  induction files generalizing schemas with
  | nil => simp [modulesOf]
  | cons file rest ih =>
    let listed : Schema → Bool := fun s => (file :: rest).contains s.file
    have own : (schemas.filter listed).filter (·.file = file) = schemas.filter (·.file = file) := by
      rw [List.filter_filter]
      refine List.filter_congr fun schema _ => ?_
      by_cases same : schema.file = file <;> simp [listed, same]
    have others : (schemas.filter listed).filter (fun s => !decide (s.file = file))
        = (schemas.filter fun s => !decide (s.file = file)).filter
          fun s => rest.contains s.file := by
      rw [List.filter_filter, List.filter_filter]
      refine List.filter_congr fun schema _ => ?_
      by_cases same : schema.file = file <;> simp [listed, same]
    have parts := List.filter_append_perm (fun s => decide (s.file = file)) (schemas.filter listed)
    rw [own, others] at parts
    rw [modulesOf_cons, List.flatMap_append, flatMap_schemas_own]
    exact ((ih _).append_left _).trans parts

/-- Modules follow each other as their files first come up. -/
theorem pairwise_modulesOf (files : List String) (schemas : List Schema) :
    (modulesOf graph suffix files schemas).Pairwise fun m other =>
      files.idxOf m.file < files.idxOf other.file := by
  induction files generalizing schemas with
  | nil => exact .nil
  | cons file rest ih =>
    -- The schemas of the file are taken, so later modules are of other files.
    have later : ∀ m ∈ modulesOf graph suffix rest
        (schemas.filter fun s => !decide (s.file = file)),
        (file :: rest).idxOf m.file = rest.idxOf m.file + 1 := by
      intro m module
      obtain ⟨other, -, some, rfl⟩ := mem_modulesOf_iff.mp module
      obtain ⟨schema, member⟩ := List.exists_mem_of_ne_nil _ some
      obtain ⟨left, same⟩ := List.mem_filter.mp member
      have different : file ≠ other := fun isFile => by
        simpa [of_decide_eq_true same, isFile] using (List.mem_filter.mp left).2
      exact List.idxOf_cons_ne _ different
    have tail := ih (schemas.filter fun s => !decide (s.file = file))
    rw [modulesOf_cons, List.pairwise_append]
    refine ⟨?_, tail.imp_of_mem fun hm hother less => ?_, fun m own other module => ?_⟩
    · split
      · exact .nil
      · exact List.pairwise_singleton _ _
    · rw [later _ hm, later _ hother]
      exact Nat.add_lt_add_right less 1
    · split at own
      · cases own
      · rw [List.mem_singleton.mp own, later _ module, file_moduleOf, List.idxOf_cons_self]
        exact Nat.succ_pos _

end Modules

/-! ### The modules of a session -/

/-- The declaration is one of the file. -/
def declaredIn (graph : ShapeGraph) (file : String) (id : ShapeId) : Bool :=
  (graph.declaration? id).any (·.file = file)

/-- Modules that share the selected declarations of documents out. -/
structure Partition (documents : List Document) (graph : ShapeGraph) (selected : List ShapeId)
    (modules : List GeneratedModule) : Prop where
  /-- Every selected declaration has one schema, and no schema is of anything else. -/
  complete : ((modules.flatMap GeneratedModule.schemas).map Schema.id).Perm selected
  distinct : selected.Nodup
  /-- Selected declarations stand in the order of the documents. -/
  inOrder : selected.Sublist
    ((declarationsOf documents).map fun a => ShapeId.declaration a.1 a.2.name)
  /-- A module has the schemas of all selected declarations of its file, in their order. -/
  own : ∀ m ∈ modules, m.schemas.map Schema.id = selected.filter (declaredIn graph m.file)
  labelled : ∀ m ∈ modules, ∀ schema ∈ m.schemas, schema.file = m.file ∧
    ∃ d, graph.declaration? schema.id = some d ∧ d.file = schema.file ∧ d.name = schema.name
  nonempty : ∀ m ∈ modules, m.schemas ≠ []
  files : ∀ m ∈ modules, m.file ∈ documents.map Document.file
  separate : (modules.map GeneratedModule.file).Nodup
  /-- Modules follow each other as their files first come up in the documents. -/
  ordered : modules.Pairwise fun m other =>
    (documents.map Document.file).idxOf m.file < (documents.map Document.file).idxOf other.file

/-- The ids of the schemas of a file are those of the declarations of the file. -/
theorem Declared.ids_filter {graph : ShapeGraph} {ids : List ShapeId} {schemas : List Schema}
    (declared : Declared graph ids schemas) (file : String) :
    (schemas.filter (·.file = file)).map Schema.id = ids.filter (declaredIn graph file) := by
  rw [← declared.ids, List.filter_map]
  refine congrArg (List.map Schema.id) (List.filter_congr fun schema member => ?_)
  obtain ⟨d, found, isFile, -⟩ := declared.declaration schema member
  rw [Function.comp_apply, declaredIn, found, Option.any_some, isFile]

variable {config : Config} {workforce : Workforce} {documents : List Document}
  {graph : ShapeGraph}

/-- Schemas of the selected declarations are shared out by putting them into modules. -/
theorem Declared.partition (lowered : ShapeGraph.ofDocuments documents = .ok graph)
    {exportOnly : Bool} {schemas : List Schema}
    (declared : Declared graph (graph.select exportOnly) schemas) (suffix : String) :
    Partition documents graph (graph.select exportOnly)
      (modulesOf graph suffix (documents.map Document.file) schemas) := by
  have inFiles : ∀ schema ∈ schemas, schema.file ∈ documents.map Document.file := by
    intro schema member
    obtain ⟨d, found, isFile, -⟩ := declared.declaration schema member
    exact isFile ▸ ShapeGraph.file_mem_of_declaration? lowered found
  have all : (schemas.filter fun s => (documents.map Document.file).contains s.file) = schemas :=
    List.filter_eq_self.mpr fun schema member => List.contains_iff_mem.mpr (inFiles schema member)
  have shared := flatMap_schemas_modulesOf_perm graph suffix (documents.map Document.file) schemas
  rw [all] at shared
  have ordered := pairwise_modulesOf graph suffix (documents.map Document.file) schemas
  exact {
    complete := declared.ids ▸ shared.map Schema.id
    distinct := (ShapeGraph.filed_ofDocuments lowered).nodup_select exportOnly
    inOrder := (graph.select_sublist exportOnly).trans (ShapeGraph.declaredIds_sublist lowered)
    own := fun m module => by
      obtain ⟨file, -, -, rfl⟩ := mem_modulesOf_iff.mp module
      exact declared.ids_filter file
    labelled := fun m module schema member => by
      obtain ⟨file, -, -, rfl⟩ := mem_modulesOf_iff.mp module
      obtain ⟨listed, same⟩ := List.mem_filter.mp member
      exact ⟨of_decide_eq_true same, declared.declaration schema listed⟩
    nonempty := fun m module => by
      obtain ⟨file, -, some, rfl⟩ := mem_modulesOf_iff.mp module
      exact some
    files := fun m module => by
      obtain ⟨file, listed, -, rfl⟩ := mem_modulesOf_iff.mp module
      exact listed
    separate := List.pairwise_map.mpr (ordered.imp fun less same => by
      rw [same] at less
      exact Nat.lt_irrefl _ less)
    ordered := ordered }

/-- After any calls the modules of a session share the selected declarations out. -/
theorem generate_partition (files : FileStore) (available : Nat) {calls : List Call}
    (enabled : config.enabled)
    (dependable : Dependable config workforce (documents :: calls.map Call.documents))
    (lowered : ShapeGraph.ofDocuments documents = .ok graph) :
    ∃ modules,
      (((withWorkforce config files available workforce).serveAll calls).generate documents).1
        = .ok modules ∧
      Partition documents graph (graph.select config.exportOnly) modules := by
  have sound := dependable.sound files available fun call member =>
    List.mem_cons_of_mem _ (List.mem_map_of_mem member)
  obtain ⟨schemas, s', made, declared⟩ := generateFiles_declared dependable.sendable
    dependable.unambiguous sound enabled lowered ⟨documents, List.mem_cons_self, lowered⟩
    (documents.map Document.file)
  have wanted : (documents.map Document.file).filter (documents.map Document.file).contains
      = documents.map Document.file :=
    List.filter_eq_self.mpr fun file => List.contains_iff_mem.mpr
  rw [wanted] at made
  rw [selectIn_eq_select lowered] at declared
  exact ⟨_, congrArg Prod.fst made, declared.partition lowered _⟩

/-- Documents of two files, one of which comes again. -/
def trio : List Document := [
  ⟨"a.ts", [⟨"User", .interface, true, [], .ref "Address" []⟩]⟩,
  ⟨"b.ts", [⟨"Address", .interface, false, [], .primitive .string⟩]⟩,
  ⟨"a.ts", [⟨"Age", .typeAlias, true, [], .primitive .number⟩]⟩]

/-- A call that succeeds, and one that fails because names are declared twice. -/
def trioHistory : List Call :=
  [.onDocuments trio, .onDocuments (trio ++ trio)]

theorem generate_partition_trio :
    ∃ graph modules, ShapeGraph.ofDocuments trio = .ok graph ∧
      (((withWorkforce smallConfig (.new [] 0) 2 ⟨unruly, [], 0⟩).serveAll trioHistory).generate
        trio).1 = .ok modules ∧
      Partition trio graph (graph.select smallConfig.exportOnly) modules := by
  have short : ∃ graph, ShapeGraph.ofDocuments trio = .ok graph ∧
      (WorkUnit.mk ⟨0⟩ graph graph.declaredIds smallConfig.overrides.table
        (optionsOf smallConfig)).encode.length < UInt64.size :=
    exists_ok_of_any (by decide +kernel)
  have refused : (ShapeGraph.ofDocuments (trio ++ trio)).toOption = none := by decide +kernel
  obtain ⟨graph, lowered, short⟩ := short
  have only : ∀ g, graphsOf (trio :: trioHistory.map Call.documents) g → g = graph := by
    rintro g ⟨documents, member, lowered'⟩
    simp only [trioHistory, Call.documents, List.map_cons, List.map_nil, List.mem_cons,
      List.not_mem_nil, or_false] at member
    rcases member with rfl | rfl | rfl
    · exact Except.ok.inj (lowered'.symm.trans lowered)
    · exact Except.ok.inj (lowered'.symm.trans lowered)
    · rw [lowered'] at refused
      cases refused
  have dependable : Dependable smallConfig ⟨unruly, [], 0⟩
      (trio :: trioHistory.map Call.documents) :=
    dependable_of_forall_eq faithful_unruly only short
  obtain ⟨modules, generated, partition⟩ :=
    generate_partition (.new [] 0) 2 rfl dependable lowered
  exact ⟨graph, modules, lowered, generated, partition⟩

end Schemata.Session
