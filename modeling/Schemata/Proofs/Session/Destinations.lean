import Schemata.Proofs.Schema.ModulePath
import Schemata.Proofs.Session.Commitment
import Schemata.Proofs.Session.Partition

/-!
# Where modules are written

The modules of a call are of different files, but the path of a module leaves out the extension of
its file.  So the paths are different as long as no two files of the documents collide, and two
files with selected declarations that do collide have modules with one path: whoever writes both
keeps the last one.

## Main definitions

* `ModulePath.SetApart` : no two of some files collide.
* `Session.selectedFiles` : the files of selected declarations.

## Main results

* `Session.nodup_paths_iff` : modules of different files have different paths if they do not
  collide.
* `Session.generate_destinations` : when the modules of a call have different paths.
-/

namespace Schemata

/-- No two of the files differ in the extension of their names only. -/
def ModulePath.SetApart (files : List String) : Prop :=
  ∀ file ∈ files, ∀ other ∈ files, Collide file other → file = other

instance (files : List String) : Decidable (ModulePath.SetApart files) :=
  inferInstanceAs (Decidable (∀ file ∈ files, ∀ other ∈ files, _ → _))

namespace Session

open ModulePath

/-- Modules of different files have different paths exactly if the files do not collide. -/
theorem nodup_paths_iff {modules : List GeneratedModule}
    (separate : (modules.map GeneratedModule.file).Nodup) :
    (modules.map GeneratedModule.path).Nodup ↔
      SetApart (modules.map GeneratedModule.file) := by
  rw [List.nodup_map_iff_inj_on separate.of_map]
  constructor
  · intro distinct file member other member' collide
    obtain ⟨m, module, rfl⟩ := List.mem_map.mp member
    obtain ⟨m', module', rfl⟩ := List.mem_map.mp member'
    rw [distinct m module m' module' (ofFile_eq_iff.mpr collide)]
  · intro apart m module m' module' same
    exact List.inj_on_of_nodup_map separate module module' (apart m.file
      (List.mem_map_of_mem module) m'.file (List.mem_map_of_mem module') (ofFile_eq_iff.mp same))

/-- Modules are of different files, however their schemas came about. -/
theorem nodup_files_modulesOf (graph : ShapeGraph) (suffix : String) (files : List String)
    (schemas : List Schema) :
    ((modulesOf graph suffix files schemas).map GeneratedModule.file).Nodup := by
  refine List.pairwise_map.mpr ((pairwise_modulesOf graph suffix files schemas).imp ?_)
  intro m other less same
  rw [same] at less
  exact Nat.lt_irrefl _ less

/-- In whatever state a session is, its modules are of different files of the documents. -/
theorem files_of_generateFiles {s s' : Session} {documents : List Document} {files : List String}
    {modules : List GeneratedModule}
    (made : s.generateFiles documents files = (.ok modules, s')) :
    (modules.map GeneratedModule.file).Nodup ∧
      modules.map GeneratedModule.file ⊆ documents.map Document.file := by
  unfold generateFiles at made
  split at made
  · split at made
    · cases made
    · cases made
      refine ⟨nodup_files_modulesOf .., fun file member => ?_⟩
      obtain ⟨m, module, rfl⟩ := List.mem_map.mp member
      obtain ⟨file, listed, -, rfl⟩ := mem_modulesOf_iff.mp module
      exact (List.mem_filter.mp listed).1
  · cases made
    exact ⟨List.nodup_nil, List.nil_subset _⟩

/-- The files of the selected declarations of a graph. -/
def selectedFiles (graph : ShapeGraph) (exportOnly : Bool) : List String :=
  (graph.select exportOnly).filterMap fun id => (graph.declaration? id).map Declaration.file

/-- The modules that share the selected declarations out are those of their files. -/
theorem Partition.mem_files_iff {documents : List Document} {graph : ShapeGraph}
    {exportOnly : Bool} {modules : List GeneratedModule}
    (partition : Partition documents graph (graph.select exportOnly) modules) {file : String} :
    file ∈ modules.map GeneratedModule.file ↔ file ∈ selectedFiles graph exportOnly := by
  rw [selectedFiles, List.mem_filterMap]
  constructor
  · intro member
    obtain ⟨m, module, rfl⟩ := List.mem_map.mp member
    obtain ⟨schema, inside⟩ := List.exists_mem_of_ne_nil _ (partition.nonempty m module)
    obtain ⟨own, d, found, isFile, -⟩ := partition.labelled m module schema inside
    refine ⟨schema.id, partition.complete.subset ?_, ?_⟩
    · exact List.mem_map_of_mem (List.mem_flatMap.mpr ⟨m, module, inside⟩)
    · rw [found, Option.map_some, isFile, own]
  · rintro ⟨id, selected, found⟩
    obtain ⟨schema, member, rfl⟩ := List.mem_map.mp (partition.complete.symm.subset selected)
    obtain ⟨m, module, inside⟩ := List.mem_flatMap.mp member
    obtain ⟨own, d, declared, isFile, -⟩ := partition.labelled m module schema inside
    rw [declared, Option.map_some, Option.some.injEq] at found
    exact List.mem_map.mpr ⟨m, module, own.symm.trans (isFile.symm.trans found)⟩

theorem Partition.setApart_iff {documents : List Document} {graph : ShapeGraph}
    {exportOnly : Bool} {modules : List GeneratedModule}
    (partition : Partition documents graph (graph.select exportOnly) modules) :
    SetApart (modules.map GeneratedModule.file) ↔ SetApart (selectedFiles graph exportOnly) := by
  simp only [SetApart, partition.mem_files_iff]

variable {config : Config} {workforce : Workforce} {documents : List Document}
  {graph : ShapeGraph}

/-- After any calls, documents that are accepted have modules of different files.  If no two files
of the documents collide, the paths of the modules are different.  If workers and ids can be relied
on, the paths are different exactly unless two files with selected declarations collide. -/
theorem generate_destinations (files : FileStore) (available : Nat) (calls : List Call)
    (lowered : ShapeGraph.ofDocuments documents = .ok graph) :
    ∃ modules,
      (((withWorkforce config files available workforce).serveAll calls).generate documents).1
        = .ok modules ∧
      (modules.map GeneratedModule.file).Nodup ∧
      (SetApart (documents.map Document.file) → (modules.map GeneratedModule.path).Nodup) ∧
      (Dependable config workforce (documents :: calls.map Call.documents) →
        ((modules.map GeneratedModule.path).Nodup ↔
          (config.enabled → SetApart (selectedFiles graph config.exportOnly)))) := by
  obtain ⟨modules, s', made⟩ : ∃ modules s',
      ((withWorkforce config files available workforce).serveAll calls).generateFiles documents
        (documents.map Document.file) = (.ok modules, s') :=
    exists_ok_generateFiles_iff.mpr fun _ => ⟨graph, lowered⟩
  obtain ⟨separate, listed⟩ := files_of_generateFiles made
  refine ⟨modules, congrArg Prod.fst made, separate, fun apart => ?_, fun dependable => ?_⟩
  · exact (nodup_paths_iff separate).mpr fun file member other member' =>
      apart file (listed member) other (listed member')
  · have sound := dependable.sound files available fun call member =>
      List.mem_cons_of_mem _ (List.mem_map_of_mem member)
    by_cases enabled : config.enabled
    · obtain ⟨schemas, s'', made', declared⟩ := generateFiles_declared dependable.sendable
        dependable.unambiguous sound enabled lowered ⟨documents, List.mem_cons_self, lowered⟩
        (documents.map Document.file)
      have wanted : (documents.map Document.file).filter (documents.map Document.file).contains
          = documents.map Document.file :=
        List.filter_eq_self.mpr fun file => List.contains_iff_mem.mpr
      rw [wanted, made] at made'
      rw [selectIn_eq_select lowered] at declared
      obtain rfl := Except.ok.inj (congrArg Prod.fst made')
      rw [nodup_paths_iff separate, (declared.partition lowered _).setApart_iff,
        forall_prop_of_true enabled]
    · have disabled := enabled
      rw [← sound.configured] at disabled
      rw [generateFiles_of_disabled disabled] at made
      obtain rfl := Except.ok.inj (congrArg Prod.fst made)
      exact iff_of_true List.nodup_nil fun isEnabled => absurd isEnabled enabled

/-- Files of one name with several dots, and of one name in two folders. -/
def neighbours : List Document := [
  ⟨"src/a.ts", [⟨"User", .interface, true, [], .ref "Address" []⟩]⟩,
  ⟨"src/a.d.ts", [⟨"Address", .interface, false, [], .primitive .string⟩]⟩,
  ⟨"src.d/a.ts", [⟨"Age", .typeAlias, true, [], .primitive .number⟩]⟩]

theorem generate_destinations_neighbours :
    ∃ graph modules, ShapeGraph.ofDocuments neighbours = .ok graph ∧
      (((withWorkforce smallConfig (.new [] 0) 2 ⟨Coordinator.unruly, [], 0⟩).serveAll
        [.onDocuments neighbours]).generate neighbours).1 = .ok modules ∧
      SetApart (neighbours.map Document.file) ∧ (modules.map GeneratedModule.path).Nodup := by
  have accepted : (ShapeGraph.ofDocuments neighbours).isOk := by decide +kernel
  have apart : SetApart (neighbours.map Document.file) := by decide +kernel
  cases lowered : ShapeGraph.ofDocuments neighbours with
  | error error => simp [lowered, Except.isOk, Except.toBool] at accepted
  | ok graph =>
    obtain ⟨modules, generated, -, distinct, -⟩ :=
      generate_destinations (.new [] 0) 2 [.onDocuments neighbours] lowered
    exact ⟨graph, modules, rfl, generated, apart, distinct apart⟩

/-- Two files that differ in the extension only. -/
def namesakes : List Document := [
  ⟨"a.ts", [⟨"A", .interface, false, [], .primitive .string⟩]⟩,
  ⟨"a.tsx", [⟨"B", .interface, false, [], .primitive .number⟩]⟩]

/-- Their modules have one path. -/
theorem generate_destinations_shared :
    ∃ modules, ((withWorkforce {} (.new [] 0) 2 (.inOrder 2)).generate namesakes).1 = .ok modules ∧
      modules.map GeneratedModule.path = ["a.schema.ts", "a.schema.ts"] :=
  exists_ok_of_any (by decide +kernel)

end Session

end Schemata
