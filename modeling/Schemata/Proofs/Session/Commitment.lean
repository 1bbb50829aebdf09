import Schemata.Proofs.Session.Calls

/-!
# What a call on paths leaves behind

A call on paths fails if there is no document at one of them, or if the documents are refused
together, and then the session is as it was.  If it succeeds, the ledger has the records of the
files that changed in place of earlier ones, and is otherwise as it was.

A session that generates remembers a file only together with the modules: the schemas of all
selected declarations of a file that is remembered are in a module of the same call.  A session that
does not generate remembers files all the same.

## Main definitions

* `Session.dueRecords` : the records that a call has to remember.

## Main results

* `Session.exists_ok_generatePaths_iff` : when a call succeeds.
* `Session.generatePaths_atomic` : a call changes nothing, or remembers the files that changed.
* `Session.generatePaths_handled` : a file that is remembered was generated.
* `Session.generatePaths_of_disabled` : a session that does not generate remembers files too.
-/

namespace Schemata.Session

open Coordinator

variable {s s' : Session} {files : FileStore} {paths : List Path} {report : GenerateReport}

/-! ### Failure and success -/

/-- Modules can be made of documents unless they are refused; a session that does not generate
refuses nothing. -/
theorem exists_ok_generateFiles_iff {documents : List Document} {wanted : List String} :
    (∃ modules s', s.generateFiles documents wanted = (.ok modules, s')) ↔
      (s.config.enabled → ∃ graph, ShapeGraph.ofDocuments documents = .ok graph) := by
  rcases made : s.generateFiles documents wanted with ⟨error | modules, middle⟩
  · obtain ⟨-, enabled, cause, -, refused⟩ := eq_of_generateFiles_error made
    simp [enabled, refused]
  · refine iff_of_true ⟨modules, middle, rfl⟩ fun enabled => ?_
    cases lowered : ShapeGraph.ofDocuments documents with
    | ok graph => exact ⟨graph, rfl⟩
    | error cause =>
      rw [generateFiles_of_error enabled lowered] at made
      cases made

/-- A call on paths succeeds if there is a document at each of them, and the documents are not
refused together. -/
theorem exists_ok_generatePaths_iff :
    (∃ report s', s.generatePaths files paths = (.ok report, s')) ↔
      AllLoad files paths ∧ (s.config.enabled →
        ∃ graph, ShapeGraph.ofDocuments (documentsAt files paths) = .ok graph) := by
  have call := s.called_generatePaths files paths
  generalize s.generatePaths files paths = result at call ⊢
  cases call with
  | unread listed failed =>
    have : ¬ AllLoad files paths := fun loads => by
      simpa [failed, Except.toBool] using loads _ listed
    simp [this]
  | refused loads enabled cannot => simp [enabled, cannot]
  | made loads generated =>
    exact iff_of_true ⟨_, _, rfl⟩ ⟨loads, exists_ok_generateFiles_iff.mp ⟨_, _, generated⟩⟩

/-- The records that a call on paths has to remember: those of the files that changed, if the
session keeps track of files. -/
def dueRecords (s : Session) (files : FileStore) (paths : List Path) : List FileRecord :=
  if s.config.incremental.enabled then paths.filterMap (s.ledger.due? files) else []

theorem filterMap_noted? (s : Session) (files : FileStore) (paths : List Path) :
    paths.filterMap (s.noted? files) = s.dueRecords files paths := by
  unfold dueRecords
  split
  · rename_i incremental
    refine congrArg (paths.filterMap ·) (funext fun path => ?_)
    rw [noted?, if_pos incremental, FileLedger.observe_snd]
  · rename_i always
    exact List.filterMap_eq_nil_iff.mpr fun path _ => if_neg always

/-- What a call that succeeds has done: modules were made of the documents, and the files that
changed are remembered. -/
theorem exists_of_generatePaths (called : s.generatePaths files paths = (.ok report, s')) :
    s'.ledger = (s.dueRecords files paths).foldl FileLedger.commit s.ledger ∧
      ∃ middle, s.generateFiles (documentsAt files paths) (s.changedFiles files paths)
        = (.ok report.modules, middle) := by
  have call := s.called_generatePaths files paths
  rw [called] at call
  cases call with
  | made _ generated =>
    rw [← filterMap_noted?]
    exact ⟨rfl, _, generated⟩

/-- A call on paths that fails leaves the session as it was.  It fails if there is no document at a
path, or if the documents are refused together.  A call that succeeds puts the records of the files
that changed into the ledger, the last one of a path in place of others, and nothing else. -/
theorem generatePaths_atomic (s : Session) (files : FileStore) (paths : List Path) :
    ((∃ report s', s.generatePaths files paths = (.ok report, s')) ↔
      AllLoad files paths ∧ (s.config.enabled →
        ∃ graph, ShapeGraph.ofDocuments (documentsAt files paths) = .ok graph)) ∧
    (∀ error s', s.generatePaths files paths = (.error error, s') →
      s' = s ∧ ((∃ path ∈ paths, Document.load files path = .error error) ∨
        ∃ cause, error = .lowering cause ∧
          ShapeGraph.ofDocuments (documentsAt files paths) = .error cause)) ∧
    ∀ report s', s.generatePaths files paths = (.ok report, s') →
      s'.ledger = { s.ledger with records := s'.ledger.records } ∧
      ∀ key, s'.ledger.records.get? key
        = ((s.dueRecords files paths).reverse.find? (·.path.parts = key)).or
          (s.ledger.records.get? key) := by
  refine ⟨exists_ok_generatePaths_iff, fun error s' called => ?_, fun report s' called => ?_⟩
  · have call := s.called_generatePaths files paths
    rw [called] at call
    cases call with
    | unread listed failed => exact ⟨rfl, Or.inl ⟨_, listed, failed⟩⟩
    | refused _ _ cannot => exact ⟨rfl, Or.inr ⟨_, rfl, cannot⟩⟩
  · rw [(exists_of_generatePaths called).1]
    exact ⟨FileLedger.foldl_commit_eq _ _, FileLedger.get?_foldl_commit _ _⟩

/-! ### Files that are remembered -/

section Handled

variable {config : Config} {workforce : Workforce}

/-- A record that is due is about one of the paths, and the file there is not passed over. -/
theorem of_mem_dueRecords {record : FileRecord} (due : record ∈ s.dueRecords files paths) :
    record.path ∈ paths ∧ s.passesOver files record.path = false := by
  rw [← filterMap_noted?] at due
  obtain ⟨path, listed, noted⟩ := List.mem_filterMap.mp due
  unfold noted? at noted
  split at noted
  · have observed := (s.ledger.observe_eq files path).2
    rw [noted] at observed
    split at observed
    · cases observed
    · rename_i altered
      rw [FileLedger.path_of_current? observed.symm]
      exact ⟨listed, by rw [passesOver, eq_false_of_ne_true altered, Bool.and_false]⟩
  · cases noted

/-- The document of a file that is not passed over is one of the changed ones. -/
theorem mem_changedFiles {path : Path} {document : Document} (listed : path ∈ paths)
    (found : Document.load files path = .ok document)
    (changed : s.passesOver files path = false) : document.file ∈ s.changedFiles files paths := by
  refine List.mem_map_of_mem (List.mem_filterMap.mpr ⟨path, List.mem_filter.mpr ⟨listed, ?_⟩, ?_⟩)
  · rw [changed]
    rfl
  · rw [found]
    rfl

/-- A selected declaration of one of the files has its schema in the module of its file. -/
theorem Declared.exists_module {graph : ShapeGraph} {exportOnly : Bool} {wanted : List String}
    {schemas : List Schema} (declared : Declared graph (selectIn graph exportOnly wanted) schemas)
    {id : ShapeId} (selected : id ∈ graph.select exportOnly) {d : Declaration}
    (found : graph.declaration? id = some d) (isWanted : d.file ∈ wanted) (suffix : String)
    {among : List String} (listed : d.file ∈ among) :
    ∃ m ∈ modulesOf graph suffix among schemas, m.file = d.file ∧
      ∃ schema ∈ m.schemas, schema.id = id ∧ schema.name = d.name := by
  have here : id ∈ selectIn graph exportOnly wanted :=
    List.mem_filter.mpr ⟨selected, by
      rw [found, Option.any_some, List.contains_iff_mem]
      exact isWanted⟩
  obtain ⟨schema, member, rfl⟩ := List.mem_map.mp (declared.ids ▸ here)
  obtain ⟨e, found', file, name⟩ := declared.declaration schema member
  obtain rfl : d = e := Option.some.inj (found.symm.trans found')
  have own : schema ∈ schemas.filter (·.file = d.file) :=
    List.mem_filter.mpr ⟨member, decide_eq_true file.symm⟩
  exact ⟨_, mem_modulesOf_iff.mpr ⟨d.file, listed, List.ne_nil_of_mem own, rfl⟩, rfl, schema, own,
    rfl, name.symm⟩

/-- A session that generates remembers a file together with the modules: a schema of every selected
declaration of the file is in a module of the same call. -/
theorem generatePaths_handled (start : FileStore) (available : Nat) {calls : List Call}
    (enabled : config.enabled)
    (dependable : Dependable config workforce
      (documentsAt files paths :: calls.map Call.documents))
    (served : (withWorkforce config start available workforce).serveAll calls = s)
    (called : s.generatePaths files paths = (.ok report, s')) :
    s'.ledger = (s.dueRecords files paths).foldl FileLedger.commit s.ledger ∧
    ∃ graph, ShapeGraph.ofDocuments (documentsAt files paths) = .ok graph ∧
      ∀ record ∈ s.dueRecords files paths,
        ∃ document, Document.load files record.path = .ok document ∧
          ∀ id ∈ graph.select config.exportOnly, ∀ d, graph.declaration? id = some d →
            d.file = document.file →
              ∃ m ∈ report.modules, m.file = document.file ∧
                ∃ schema ∈ m.schemas, schema.id = id ∧ schema.name = d.name := by
  have sound := dependable.sound start available fun call member =>
    List.mem_cons_of_mem _ (List.mem_map_of_mem member)
  rw [served] at sound
  obtain ⟨loads, accepted⟩ := exists_ok_generatePaths_iff.mp ⟨report, s', called⟩
  obtain ⟨graph, lowered⟩ := accepted (sound.configured ▸ enabled)
  obtain ⟨remembered, middle, generated⟩ := exists_of_generatePaths called
  obtain ⟨schemas, middle', made, declared⟩ := generateFiles_declared dependable.sendable
    dependable.unambiguous sound enabled lowered ⟨_, List.mem_cons_self, lowered⟩
    (s.changedFiles files paths)
  have modules : report.modules = _ := Except.ok.inj (congrArg Prod.fst (generated.symm.trans made))
  refine ⟨remembered, graph, lowered, fun record due => ?_⟩
  obtain ⟨listed, changed⟩ := of_mem_dueRecords due
  cases found : Document.load files record.path with
  | error error => simpa [found, Except.toBool] using loads record.path listed
  | ok document =>
    refine ⟨document, rfl, fun id selected d isD file => ?_⟩
    have wanted := mem_changedFiles listed found changed
    rw [modules]
    rw [← file] at wanted ⊢
    exact declared.exists_module selected isD wanted _ (List.mem_filter.mpr
      ⟨ShapeGraph.file_mem_of_declaration? lowered isD, List.contains_iff_mem.mpr wanted⟩)

/-- After `b.json` was written again, with the same text, it is remembered and generated again. -/
theorem generatePaths_handled_draft :
    ∃ s report s' graph,
      (withWorkforce incrementally (.new [] 0) 2 ⟨unruly, [], 0⟩).serveAll
        [.onPaths (draft (declaring "C") 1) draftPaths.reverse] = s ∧
      s.generatePaths (draft (declaring "C") 2) draftPaths.reverse = (.ok report, s') ∧
      ShapeGraph.ofDocuments (documentsAt (draft (declaring "C") 2) draftPaths.reverse)
        = .ok graph ∧
      ∃ record ∈ s.dueRecords (draft (declaring "C") 2) draftPaths.reverse,
        ∃ document, Document.load (draft (declaring "C") 2) record.path = .ok document ∧
          ∀ id ∈ graph.select incrementally.exportOnly, ∀ d, graph.declaration? id = some d →
            d.file = document.file →
              ∃ m ∈ report.modules, m.file = document.file ∧
                ∃ schema ∈ m.schemas, schema.id = id ∧ schema.name = d.name := by
  have short : ∃ graph,
      ShapeGraph.ofDocuments (documentsAt (draft (declaring "C") 2) draftPaths.reverse)
        = .ok graph ∧
      (WorkUnit.mk ⟨0⟩ graph graph.declaredIds incrementally.overrides.table
        (optionsOf incrementally)).encode.length < UInt64.size :=
    exists_ok_of_any (by decide +kernel)
  have loads : AllLoad (draft (declaring "C") 2) draftPaths.reverse := by
    unfold AllLoad
    decide +kernel
  have due : ((withWorkforce incrementally (.new [] 0) 2 ⟨unruly, [], 0⟩).serveAll
      [.onPaths (draft (declaring "C") 1) draftPaths.reverse]).dueRecords (draft (declaring "C") 2)
        draftPaths.reverse ≠ [] := by
    decide +kernel
  obtain ⟨graph, lowered, short⟩ := short
  obtain ⟨s, served⟩ : ∃ s, (withWorkforce incrementally (.new [] 0) 2 ⟨unruly, [], 0⟩).serveAll
      [.onPaths (draft (declaring "C") 1) draftPaths.reverse] = s := ⟨_, rfl⟩
  rw [served] at due
  obtain ⟨record, due⟩ := List.exists_mem_of_ne_nil _ due
  have dependable : Dependable incrementally ⟨unruly, [], 0⟩
      (documentsAt (draft (declaring "C") 2) draftPaths.reverse ::
        [Call.onPaths (draft (declaring "C") 1) draftPaths.reverse].map Call.documents) := by
    refine dependable_of_forall_eq faithful_unruly ?_ short
    rintro g ⟨documents, member, lowered'⟩
    have isSame : documents = documentsAt (draft (declaring "C") 2) draftPaths.reverse := by
      rcases List.mem_pair.mp member with rfl | rfl
      · rfl
      · refine documentsAt_congr fun path listed => ?_
        rcases List.mem_pair.mp listed with rfl | rfl <;> rfl
    rw [isSame] at lowered'
    exact Except.ok.inj (lowered'.symm.trans lowered)
  obtain ⟨report, s', called⟩ : ∃ report s',
      s.generatePaths (draft (declaring "C") 2) draftPaths.reverse = (.ok report, s') :=
    exists_ok_generatePaths_iff.mpr ⟨loads, fun _ => ⟨graph, lowered⟩⟩
  obtain ⟨-, graph', lowered', handled⟩ :=
    generatePaths_handled (.new [] 0) 2 rfl dependable served called
  exact ⟨s, report, s', graph', served, called, lowered', record, due, handled record due⟩

end Handled

/-- A session that does not generate makes no modules of documents, and remembers their files. -/
theorem generatePaths_of_disabled (disabled : ¬ s.config.enabled) (loads : AllLoad files paths) :
    ∃ report s', s.generatePaths files paths = (.ok report, s') ∧ report.modules = [] ∧
      s'.ledger = (s.dueRecords files paths).foldl FileLedger.commit s.ledger := by
  obtain ⟨report, s', called⟩ :=
    exists_ok_generatePaths_iff.mpr ⟨loads, fun enabled => absurd enabled disabled⟩
  obtain ⟨remembered, middle, generated⟩ := exists_of_generatePaths called
  rw [generateFiles_of_disabled disabled] at generated
  exact ⟨report, s', called, (Except.ok.inj (congrArg Prod.fst generated)).symm, remembered⟩

/-- A configuration that keeps a ledger and generates nothing. -/
def dormant : Config :=
  { enabled := false, incremental := { enabled := true } }

/-- So a file can be remembered although no module has the schemas of its declarations. -/
theorem generatePaths_unhandled :
    ∃ report s' document graph,
      (withWorkforce dormant (.new [] 0) 2 (.inOrder 2)).generatePaths (draft (declaring "C") 1)
        [⟨"b.json"⟩] = (.ok report, s') ∧
      (withWorkforce dormant (.new [] 0) 2 (.inOrder 2)).ledger.record? ⟨"b.json"⟩ = none ∧
      (s'.ledger.record? ⟨"b.json"⟩).isSome ∧
      Document.load (draft (declaring "C") 1) ⟨"b.json"⟩ = .ok document ∧
      ShapeGraph.ofDocuments [document] = .ok graph ∧
      (∃ id ∈ graph.select dormant.exportOnly,
        (graph.declaration? id).any (·.file = document.file)) ∧
      report.modules = [] := by
  have accepted : ∃ document, Document.load (draft (declaring "C") 1) ⟨"b.json"⟩ = .ok document ∧
      (ShapeGraph.ofDocuments [document]).toOption.any fun graph =>
        ∃ id ∈ graph.select dormant.exportOnly,
          (graph.declaration? id).any (·.file = document.file) :=
    exists_ok_of_any (by decide +kernel)
  have remembered : (((withWorkforce dormant (.new [] 0) 2 (.inOrder 2)).generatePaths
      (draft (declaring "C") 1) [⟨"b.json"⟩]).2.ledger.record? ⟨"b.json"⟩).isSome := by
    decide +kernel
  obtain ⟨document, found, accepted⟩ := accepted
  obtain ⟨graph, lowered, selected⟩ := exists_ok_of_any accepted
  have loads : AllLoad (draft (declaring "C") 1) [⟨"b.json"⟩] :=
    List.forall_mem_singleton.mpr (by rw [found]; rfl)
  obtain ⟨report, s', called, none, -⟩ := generatePaths_of_disabled
    (s := withWorkforce dormant (.new [] 0) 2 (.inOrder 2)) Bool.false_ne_true loads
  rw [called] at remembered
  exact ⟨report, s', document, graph, called, rfl, remembered, found, lowered, selected, none⟩

end Schemata.Session
