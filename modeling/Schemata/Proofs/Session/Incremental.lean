import Schemata.Proofs.Files.Ledger
import Schemata.Proofs.Session.Linkage

/-!
# Incremental generation

A session that keeps a ledger passes over the files that did not change since it last saw them.  A
call gives the modules that a call without a ledger gives, less those of files with no changed
document.  So a module that was given earlier may be out of date: not because its own document was
edited, but because a document was edited that its declarations reach.  As long as what they reach
is the same, it is the module that would be given now.

## Main definitions

* `Session.documentsAt` : the documents at some paths.
* `Session.Called` : all that a call on paths can come to.
* `Session.wholesale` : the configuration that passes nothing over.
* `Session.callAll` : calls on the same paths, with edits between them.
* `Session.Unaffected` : the selected declarations of a file reach the same in two sets of
  documents.

## Main results

* `Session.modulesOf_filter` : the modules of some of the files are some of the modules.
* `Session.mem_modulesBy_of_unaffected` : a file that is not affected keeps its module.
* `Session.standing_callAll` : what holds of a session after any calls.
* `Session.callAll_current` : what a session has given is up to date unless it is affected by an
  edit elsewhere.
-/

namespace Schemata.Session

open Coordinator

/-! ### Modules of some of the files -/

@[simp] theorem file_moduleOf (graph : ShapeGraph) (suffix file : String) (schemas : List Schema) :
    (moduleOf graph suffix file schemas).file = file :=
  rfl

/-- The modules of some of the files are some of the modules. -/
theorem modulesOf_filter (graph : ShapeGraph) (suffix : String) (keep : String → Bool)
    (files : List String) (schemas : List Schema) :
    modulesOf graph suffix (files.filter keep) (schemas.filter fun s => keep s.file)
      = (modulesOf graph suffix files schemas).filter fun m => keep m.file := by
  induction files generalizing schemas with
  | nil => rfl
  | cons file rest ih =>
    rw [modulesOf_cons, List.filter_append, ← ih]
    by_cases kept : keep file
    · have own : (schemas.filter fun s => keep s.file).filter (·.file = file)
          = schemas.filter (·.file = file) := by
        rw [List.filter_filter]
        refine List.filter_congr fun schema _ => ?_
        by_cases same : schema.file = file <;> simp [same, kept]
      have others : (schemas.filter fun s => keep s.file).filter (fun s => !decide (s.file = file))
          = (schemas.filter fun s => !decide (s.file = file)).filter fun s => keep s.file := by
        simp only [List.filter_filter, Bool.and_comm]
      rw [List.filter_cons_of_pos kept, modulesOf_cons, own, others]
      congr 1
      split
      · rfl
      · simp [kept]
    · have others : (schemas.filter fun s => !decide (s.file = file)).filter (fun s => keep s.file)
          = schemas.filter fun s => keep s.file := by
        rw [List.filter_filter]
        refine List.filter_congr fun schema _ => ?_
        by_cases same : schema.file = file <;> simp [same, kept]
      rw [List.filter_cons_of_neg kept, others]
      split
      · rfl
      · simp [kept]

/-- The schemas of the selected declarations of some files. -/
theorem filterMap_selectIn (config : Config) (graph : ShapeGraph) (files : List String) :
    (selectIn graph config.exportOnly files).filterMap (generatorOf config graph).schema?
      = (generatorOf config graph).selectedSchemas.filter fun s => files.contains s.file := by
  rw [selectIn, List.filterMap_filter, Generator.selectedSchemas, List.filter_filterMap]
  refine List.filterMap_congr fun id _ => ?_
  cases generated : (generatorOf config graph).schema? id with
  | none => simp
  | some schema =>
    obtain ⟨d, found, -, inFile, -⟩ := Generator.declaration_of_schema? generated
    have found : graph.declaration? id = some d := found
    rw [found, Option.any_some, ← inFile]
    rfl

/-- The modules of some files are those among the modules of all documents. -/
theorem anew_eq_filter {config : Config} (enabled : config.enabled) {documents : List Document}
    {graph : ShapeGraph} (lowered : ShapeGraph.ofDocuments documents = .ok graph)
    (files : List String) :
    anew config documents files
      = .ok ((modulesBy (generatorOf config graph) (documents.map Document.file)).filter
        fun m => files.contains m.file) := by
  unfold anew
  rw [if_pos enabled, lowered]
  dsimp only
  rw [filterMap_selectIn, modulesOf_filter]
  rfl

/-! ### Files that an edit does not affect -/

/-- The selected declarations of a file are the same in two sets of documents, and so is all that
they reach. -/
def Unaffected (config : Config) (before after : List Document) (file : String) : Prop :=
  ∀ g h, ShapeGraph.ofDocuments before = .ok g → ShapeGraph.ofDocuments after = .ok h →
    selectIn g config.exportOnly [file] = selectIn h config.exportOnly [file] ∧
      ∀ id ∈ selectIn g config.exportOnly [file], g.SameBelow h id

section Unaffected

variable {config : Config} {before after : List Document} {g h : ShapeGraph} {file : String}
  (loweredG : ShapeGraph.ofDocuments before = .ok g)
  (loweredH : ShapeGraph.ofDocuments after = .ok h)
  (unaffected : Unaffected config before after file)

include loweredG loweredH unaffected

/-- A file that is not affected keeps its schemas. -/
theorem filter_selectedSchemas_eq :
    (generatorOf config g).selectedSchemas.filter (·.file = file)
      = (generatorOf config h).selectedSchemas.filter (·.file = file) := by
  obtain ⟨sameIds, below⟩ := unaffected g h loweredG loweredH
  have single (graph : ShapeGraph) :
      (generatorOf config graph).selectedSchemas.filter (·.file = file)
        = (selectIn graph config.exportOnly [file]).filterMap
          (generatorOf config graph).schema? := by
    rw [filterMap_selectIn]
    exact List.filter_congr fun schema _ => by simp
  rw [single, single, ← sameIds]
  refine List.filterMap_congr fun id member => ?_
  exact congrArg (fun result => result.toOption.map Prod.fst)
    (Generator.generate_eq_of_sameBelow (ShapeGraph.filed_ofDocuments loweredG)
      (ShapeGraph.filed_ofDocuments loweredH) (below id member) _ _)

/-- A file that is not affected keeps its imports: what its schemas depend on is declared alike. -/
theorem declaration?_of_mem_dependencies {schema : Schema}
    (member : schema ∈ (generatorOf config g).selectedSchemas) (inFile : schema.file = file)
    {target : ShapeId} (dependency : target ∈ schema.dependencies) :
    g.declaration? target = h.declaration? target := by
  obtain ⟨-, below⟩ := unaffected g h loweredG loweredH
  obtain ⟨selected, generated⟩ := Generator.mem_selectedSchemas_iff.mp member
  obtain ⟨d, found, -, file', -, stats, generated⟩ := Generator.declaration_of_schema? generated
  obtain ⟨path, -⟩ := Generator.path_of_mem_dependencies generated dependency
  have own : schema.id ∈ selectIn g config.exportOnly [file] := by
    refine List.mem_filter.mpr ⟨selected, ?_⟩
    have found : g.declaration? schema.id = some d := found
    simp [found, ← file', inFile]
  have reached : target ∈ g.reachable [schema.id] :=
    g.mem_reachable_iff.mpr ⟨schema.id, List.mem_cons_self, path⟩
  exact (below schema.id own target reached).2

theorem importsOf_eq {schemas : List Schema}
    (own : schemas = (generatorOf config g).selectedSchemas.filter (·.file = file))
    (suffix : String) :
    SchemaModule.importsOf file schemas g suffix
      = SchemaModule.importsOf file schemas h suffix := by
  unfold SchemaModule.importsOf
  dsimp only
  congr 1
  refine List.filterMap_congr fun target foreign => ?_
  obtain ⟨schema, member, dependency⟩ := List.mem_flatMap.mp (List.mem_filter.mp foreign).1
  rw [own, List.mem_filter] at member
  exact declaration?_of_mem_dependencies loweredG loweredH unaffected member.1
    (by simpa using member.2) dependency

/-- A file that is not affected keeps its module. -/
theorem mem_modulesBy_of_unaffected {m : GeneratedModule}
    (module : m ∈ modulesBy (generatorOf config g) (before.map Document.file))
    (inFile : m.file = file) :
    m ∈ modulesBy (generatorOf config h) (after.map Document.file) := by
  obtain ⟨file', listed, some, rfl⟩ := mem_modulesOf_iff.mp module
  obtain rfl : file' = file := inFile
  have sameSchemas := filter_selectedSchemas_eq loweredG loweredH unaffected
  refine mem_modulesOf_iff.mpr ⟨file', ?_, sameSchemas ▸ some, ?_⟩
  · -- A schema of the file is left, so the file is among the documents.
    obtain ⟨schema, member⟩ := List.exists_mem_of_ne_nil _ (sameSchemas ▸ some)
    obtain ⟨selected, inFile⟩ := List.mem_filter.mp member
    obtain ⟨-, generated⟩ := Generator.mem_selectedSchemas_iff.mp selected
    obtain ⟨d, found, -, isFile, -⟩ := Generator.declaration_of_schema? generated
    have := ShapeGraph.file_mem_of_declaration? loweredH found
    rwa [← isFile, of_decide_eq_true inFile] at this
  · rw [← sameSchemas]
    unfold moduleOf SchemaModule.ofSchemas
    rw [show SchemaModule.importsOf file' _ (generatorOf config g).graph _ = _ from
      importsOf_eq loweredG loweredH unaffected rfl _]
    rfl

end Unaffected

/-- A file has one module. -/
theorem eq_of_mem_modulesBy {gen : Generator} {files : List String} {m m' : GeneratedModule}
    (module : m ∈ modulesBy gen files) (module' : m' ∈ modulesBy gen files)
    (same : m.file = m'.file) : m = m' := by
  obtain ⟨file, -, -, rfl⟩ := mem_modulesOf_iff.mp module
  obtain ⟨file', -, -, rfl⟩ := mem_modulesOf_iff.mp module'
  obtain rfl : file = file' := same
  rfl

/-! ### One call -/

/-- The documents at those paths at which there is one. -/
def documentsAt (files : FileStore) (paths : List Path) : List Document :=
  paths.filterMap fun path => (Document.load files path).toOption

theorem documentsAt_cons {files : FileStore} {path : Path} {document : Document}
    (found : Document.load files path = .ok document) (rest : List Path) :
    documentsAt files (path :: rest) = document :: documentsAt files rest :=
  List.filterMap_cons_some (by rw [found]; rfl)

/-- The documents are those of the texts at the paths. -/
theorem documentsAt_congr {files others : FileStore} {paths : List Path}
    (same : ∀ path ∈ paths, files.read path = others.read path) :
    documentsAt files paths = documentsAt others paths := by
  induction paths with
  | nil => rfl
  | cons path rest ih =>
    have later := ih fun path member => same path (List.mem_cons_of_mem _ member)
    unfold documentsAt at later ⊢
    rw [List.filterMap_cons, List.filterMap_cons, later, Document.load, Document.load,
      same path List.mem_cons_self]

/-- There is a document at every path. -/
def AllLoad (files : FileStore) (paths : List Path) : Prop :=
  ∀ path ∈ paths, (Document.load files path).toBool

theorem file_of_load {files : FileStore} {path : Path} (h : (Document.load files path).toBool) :
    (files.file path).toBool := by
  cases found : files.file path with
  | error error => simp [Document.load, FileStore.read, found, Except.map, Except.toBool] at h
  | ok file => rfl

/-- Is the file at a path passed over? -/
def passesOver (s : Session) (files : FileStore) (path : Path) : Bool :=
  s.config.incremental.enabled &&
    FileLedger.unaltered (s.ledger.record? path) (FileLedger.current? files path)

/-- What is to be remembered of the file at a path. -/
def noted? (s : Session) (files : FileStore) (path : Path) : Option FileRecord :=
  if s.config.incremental.enabled then (s.ledger.observe files path).2 else none

/-- The files of the documents that are not passed over. -/
def changedFiles (s : Session) (files : FileStore) (paths : List Path) : List String :=
  (documentsAt files (paths.filter fun path => !s.passesOver files path)).map Document.file

theorem loadPath_eq (s : Session) (files : FileStore) (path : Path) :
    s.loadPath files path = (Document.load files path).map fun document =>
      ⟨path, document, !s.passesOver files path, s.noted? files path⟩ := by
  unfold loadPath passesOver noted?
  cases Document.load files path with
  | error error => rfl
  | ok document =>
    by_cases enabled : s.config.incremental.enabled
    · simp only [enabled, if_true, Bool.true_and, ← (s.ledger.observe_eq files path).1]
      rfl
    · simp only [enabled, Bool.false_eq_true, if_false, Bool.false_and, Bool.not_false]
      rfl

/-- The loaded documents of paths, if all of them load. -/
theorem mapM_loadPath {files : FileStore} {paths : List Path} (s : Session)
    (loads : AllLoad files paths) :
    ∃ loaded, paths.mapM (s.loadPath files) = .ok loaded ∧
      loaded.map Loaded.document = documentsAt files paths ∧
      (loaded.filter Loaded.changed).map (fun l => l.document.file) = s.changedFiles files paths ∧
      (loaded.filter (!·.changed)).map Loaded.path = paths.filter (s.passesOver files) ∧
      loaded.filterMap Loaded.record = paths.filterMap (s.noted? files) := by
  induction paths with
  | nil => exact ⟨[], rfl, rfl, rfl, rfl, rfl⟩
  | cons path rest ih =>
    obtain ⟨loaded, mapped, documents, changed, skipped, records⟩ :=
      ih fun path member => loads path (List.mem_cons_of_mem _ member)
    cases found : Document.load files path with
    | error error => simpa [found, Except.toBool] using loads path List.mem_cons_self
    | ok document =>
      have first := s.loadPath_eq files path
      rw [found] at first
      refine ⟨⟨path, document, !s.passesOver files path, s.noted? files path⟩ :: loaded,
        ?_, ?_, ?_, ?_, ?_⟩
      · rw [List.mapM_cons, first, mapped]
        rfl
      · rw [documentsAt_cons found, List.map_cons, documents]
      · unfold changedFiles at changed ⊢
        cases passed : s.passesOver files path <;> simp [passed, changed, documentsAt_cons found]
      · cases passed : s.passesOver files path <;> simp [passed, skipped]
      · cases noted : s.noted? files path <;> simp [noted, records]

/-- A call that succeeds finds a document at every path. -/
theorem allLoad_of_mapM {s : Session} {files : FileStore} {paths : List Path}
    {loaded : List Loaded} (mapped : paths.mapM (s.loadPath files) = .ok loaded) :
    AllLoad files paths := by
  induction paths generalizing loaded with
  | nil => exact fun _ member => absurd member List.not_mem_nil
  | cons path rest ih =>
    rw [List.mapM_cons] at mapped
    obtain ⟨first, loads, mapped⟩ := exists_of_bind_eq_ok mapped
    obtain ⟨others, mapped, -⟩ := exists_of_bind_eq_ok mapped
    rintro _ (_ | ⟨_, member⟩)
    · rw [loadPath_eq] at loads
      cases found : Document.load files path with
      | error error => simp [found, Except.map] at loads
      | ok document => rfl
    · exact ih mapped _ member

theorem ledger_generateIds (s : Session) (graph : ShapeGraph) (ids : List ShapeId) :
    (s.generateIds graph ids).2.ledger = s.ledger := by
  unfold generateIds
  split
  · split
    · rfl
    · rfl
  · rfl

theorem ledger_generateFiles (s : Session) (documents : List Document) (files : List String) :
    (s.generateFiles documents files).2.ledger = s.ledger := by
  unfold generateFiles
  split
  · split
    · rfl
    · exact s.ledger_generateIds ..
  · rfl

/-- A call that fails to load its documents fails at one of them. -/
theorem exists_of_mapM_error {s : Session} {files : FileStore} {paths : List Path}
    {error : SessionError} (mapped : paths.mapM (s.loadPath files) = .error error) :
    ∃ path ∈ paths, Document.load files path = .error error := by
  induction paths with
  | nil => cases mapped
  | cons path rest ih =>
    rw [List.mapM_cons, loadPath_eq] at mapped
    cases found : Document.load files path with
    | error cause =>
      rw [found] at mapped
      cases mapped
      exact ⟨path, List.mem_cons_self, found⟩
    | ok document =>
      rw [found] at mapped
      cases later : rest.mapM (s.loadPath files) with
      | error cause =>
        rw [later] at mapped
        cases mapped
        obtain ⟨other, listed, failed⟩ := ih later
        exact ⟨other, List.mem_cons_of_mem _ listed, failed⟩
      | ok loaded =>
        rw [later] at mapped
        cases mapped

/-- Documents that are loaded are refused for one cause, and nothing has happened then. -/
theorem eq_of_generateFiles_error {s s' : Session} {documents : List Document}
    {files : List String} {error : SessionError}
    (refused : s.generateFiles documents files = (.error error, s')) :
    s' = s ∧ s.config.enabled ∧
      ∃ cause, error = .lowering cause ∧ ShapeGraph.ofDocuments documents = .error cause := by
  unfold generateFiles at refused
  split at refused
  · rename_i enabled
    cases lowered : ShapeGraph.ofDocuments documents with
    | error cause =>
      rw [lowered] at refused
      cases refused
      exact ⟨rfl, enabled, cause, rfl, rfl⟩
    | ok graph =>
      rw [lowered] at refused
      cases refused
  · cases refused

/-- All that a call on paths can come to. -/
inductive Called (s : Session) (files : FileStore) (paths : List Path) :
    Except SessionError GenerateReport × Session → Prop
  /-- There is no document at a path. -/
  | unread {path : Path} {error : SessionError} (listed : path ∈ paths)
      (failed : Document.load files path = .error error) : Called s files paths (.error error, s)
  /-- The documents are refused together. -/
  | refused {cause : LowerError} (loads : AllLoad files paths) (enabled : s.config.enabled)
      (cannot : ShapeGraph.ofDocuments (documentsAt files paths) = .error cause) :
      Called s files paths (.error (.lowering cause), s)
  /-- Modules are made, and after that the changed files are remembered. -/
  | made {modules : List GeneratedModule} {middle : Session} (loads : AllLoad files paths)
      (generated : s.generateFiles (documentsAt files paths) (s.changedFiles files paths)
        = (.ok modules, middle)) :
      Called s files paths (.ok ⟨modules, paths.filter (s.passesOver files)⟩,
        { middle with
          ledger := (paths.filterMap (s.noted? files)).foldl FileLedger.commit s.ledger
          stats :=
            { middle.stats with
              documentsSkipped := middle.stats.documentsSkipped
                + (paths.filter (s.passesOver files)).length } })

theorem called_generatePaths (s : Session) (files : FileStore) (paths : List Path) :
    Called s files paths (s.generatePaths files paths) := by
  unfold generatePaths
  cases result : paths.mapM (s.loadPath files) with
  | error error =>
    obtain ⟨path, listed, failed⟩ := exists_of_mapM_error result
    exact .unread listed failed
  | ok found =>
    have loads := allLoad_of_mapM result
    obtain ⟨loaded, mapped, documents, changed, skipped, records⟩ := s.mapM_loadPath loads
    obtain rfl : found = loaded := Except.ok.inj (result.symm.trans mapped)
    dsimp only
    rw [documents, changed, skipped, records]
    have kept := s.ledger_generateFiles (documentsAt files paths) (s.changedFiles files paths)
    rcases generated : s.generateFiles (documentsAt files paths) (s.changedFiles files paths) with
      ⟨error | modules, middle⟩
    · obtain ⟨rfl, enabled, cause, rfl, cannot⟩ := eq_of_generateFiles_error generated
      exact .refused loads enabled cannot
    · rw [generated] at kept
      have call := Called.made loads generated
      rwa [← show middle.ledger = s.ledger from kept] at call

section Call

variable {config : Config} {run : ShapeGraph → Prop} {s : Session} {files : FileStore}
  {paths : List Path} (regular : Regular config run) (sound : s.Sound config run)
  (ran : ∀ g, ShapeGraph.ofDocuments (documentsAt files paths) = .ok g → run g)

include regular sound ran

/-- What a call reports, if there is a document at every path. -/
theorem generatePaths_eq (loads : AllLoad files paths) :
    (s.generatePaths files paths).1
      = (anew config (documentsAt files paths) (s.changedFiles files paths)).map
        (⟨·, paths.filter (s.passesOver files)⟩) := by
  have anew := (generateFiles_sound regular sound ran (s.changedFiles files paths)).1
  have call := s.called_generatePaths files paths
  generalize s.generatePaths files paths = result at call ⊢
  cases call with
  | unread listed failed => simpa [failed, Except.toBool] using loads _ listed
  | refused _ enabled cannot =>
    rw [← anew, generateFiles_of_error enabled cannot]
    rfl
  | made _ generated =>
    rw [generated] at anew
    rw [← anew]
    rfl

/-- What a call that succeeds leaves behind: a sound session that remembers the changed files. -/
theorem generatePaths_sound {report : GenerateReport} {s' : Session}
    (called : s.generatePaths files paths = (.ok report, s')) :
    AllLoad files paths ∧ s'.Sound config run ∧
      s'.ledger = (paths.filterMap (s.noted? files)).foldl FileLedger.commit s.ledger := by
  have sound' := (generateFiles_sound regular sound ran (s.changedFiles files paths)).2
  have call := s.called_generatePaths files paths
  rw [called] at call
  cases call with
  | made loads generated =>
    rw [generated] at sound'
    exact ⟨loads, ⟨sound'.configured, sound'.options, sound'.rules, sound'.cache,
      sound'.coordinator⟩, rfl⟩

/-- What a call that succeeds reports: the modules of the files that are not passed over. -/
theorem exists_graph_of_generatePaths (enabled : config.enabled) {report : GenerateReport}
    (called : (s.generatePaths files paths).1 = .ok report) (loads : AllLoad files paths) :
    ∃ g, ShapeGraph.ofDocuments (documentsAt files paths) = .ok g ∧
      report = ⟨(modulesBy (generatorOf config g)
          ((documentsAt files paths).map Document.file)).filter
          fun m => (s.changedFiles files paths).contains m.file,
        paths.filter (s.passesOver files)⟩ := by
  rw [generatePaths_eq regular sound ran loads] at called
  cases lowered : ShapeGraph.ofDocuments (documentsAt files paths) with
  | error error => simp [anew, enabled, lowered, Except.map] at called
  | ok g =>
    rw [anew_eq_filter enabled lowered] at called
    cases called
    exact ⟨g, rfl, rfl⟩

end Call

/-- The configuration that passes nothing over. -/
def wholesale (config : Config) : Config :=
  { config with incremental := { config.incremental with enabled := false } }

/-- What a session that passes nothing over reports on the documents at some paths. -/
def reportWhole (config : Config) (available : Nat) (workforce : Workforce) (files : FileStore)
    (paths : List Path) : Except SessionError GenerateReport :=
  ((withWorkforce (wholesale config) files available workforce).generatePaths files paths).1

/-- A session that passes nothing over gives the modules of all documents. -/
theorem reportWhole_eq {config : Config} (enabled : config.enabled) (available : Nat)
    {workforce : Workforce} {runs : List (List Document)}
    (trusted : Trusted config workforce runs) {files : FileStore} {paths : List Path}
    (member : documentsAt files paths ∈ runs) (loads : AllLoad files paths) {g : ShapeGraph}
    (lowered : ShapeGraph.ofDocuments (documentsAt files paths) = .ok g) :
    reportWhole config available workforce files paths
      = .ok ⟨modulesBy (generatorOf config g)
        ((documentsAt files paths).map Document.file), []⟩ := by
  let s := withWorkforce (wholesale config) files available workforce
  have regular : Regular (wholesale config) (graphsOf runs) :=
    ⟨trusted.regular.filed, trusted.distinguished, trusted.writable⟩
  have sound : s.Sound (wholesale config) (graphsOf runs) :=
    sound_withWorkforce _ files available fun _ => trusted.faithful
  have none (path : Path) : s.passesOver files path = false := rfl
  have all : s.changedFiles files paths = (documentsAt files paths).map Document.file := by
    simp [changedFiles, none]
  have skipped : paths.filter (s.passesOver files) = [] := by simp [none]
  have call := generatePaths_eq regular sound (fun g lowered => ⟨_, member, lowered⟩) loads
  have kept : (modulesBy (generatorOf config g)
      ((documentsAt files paths).map Document.file)).filter
      (fun m => ((documentsAt files paths).map Document.file).contains m.file)
      = modulesBy (generatorOf config g) ((documentsAt files paths).map Document.file) := by
    refine List.filter_eq_self.mpr fun m module => ?_
    obtain ⟨file, listed, -, rfl⟩ := mem_modulesOf_iff.mp module
    exact List.contains_iff_mem.mpr listed
  rw [anew_eq_filter (show (wholesale config).enabled from enabled) lowered, all, skipped] at call
  exact call.trans (congrArg (fun modules => Except.ok (GenerateReport.mk modules [])) kept)

/-! ### Calls with edits between them -/

/-- Calls a session on the same paths again and again, with edits to the files between the calls:
what each call finds and what it reports, the last one first.  All calls have to succeed. -/
def callAll (s : Session) (paths : List Path) :
    List FileStore → Option (List (FileStore × GenerateReport) × Session)
  | [] => some ([], s)
  | files :: earlier => do
    let (calls, s) ← s.callAll paths earlier
    match s.generatePaths files paths with
    | (.ok report, s) => some ((files, report) :: calls, s)
    | (.error _, _) => none

/-- What was last known of the file at a path: its record in the last store in which it has one, or
else in the ledger. -/
def lastRecord? (ledger : FileLedger) (earlier : List FileStore) (path : Path) :
    Option FileRecord :=
  (earlier.findSome? (FileLedger.current? · path)).or (ledger.record? path)

/-- Is the file at a path as it was last known? -/
def staysSame (ledger : FileLedger) (earlier : List FileStore) (files : FileStore) (path : Path) :
    Bool :=
  FileLedger.unaltered (lastRecord? ledger earlier path) (FileLedger.current? files path)

/-- The module that was last given for a file, with what the call found. -/
def lastModule? (file : String) (calls : List (FileStore × GenerateReport)) :
    Option (FileStore × GeneratedModule) :=
  calls.findSome? fun call => (call.2.modules.find? (·.file = file)).map (call.1, ·)

section Run

variable {config : Config} {run : ShapeGraph → Prop} {paths : List Path} {ledger : FileLedger}
  {earlier : List FileStore} {calls : List (FileStore × GenerateReport)} {s s' : Session}
  {files : FileStore} {report : GenerateReport}

theorem exists_of_callAll_cons {result : List (FileStore × GenerateReport) × Session}
    (called : s.callAll paths (files :: earlier) = some result) :
    ∃ calls middle report, s.callAll paths earlier = some (calls, middle) ∧
      middle.generatePaths files paths = (.ok report, result.2) ∧
      result.1 = (files, report) :: calls := by
  obtain ⟨⟨calls, middle⟩, before, called⟩ := Option.bind_eq_some_iff.mp called
  dsimp only at called
  split at called
  · rename_i report s' generated
    cases called
    exact ⟨calls, middle, report, before, generated, rfl⟩
  · cases called

/-- What holds of a session after calls: it is sound, and its ledger knows of each file what was
last known of it. -/
structure Standing (config : Config) (run : ShapeGraph → Prop) (paths : List Path)
    (ledger : FileLedger) (earlier : List FileStore) (s : Session) : Prop where
  sound : s.Sound config run
  remembers : ∀ path ∈ paths, (s.ledger.record? path).map FileRecord.stamp
    = (lastRecord? ledger earlier path).map FileRecord.stamp

/-- A file is passed over if it is as it was last known. -/
theorem Standing.passesOver_eq (standing : Standing config run paths ledger earlier s)
    (incremental : config.incremental.enabled) (files : FileStore) {path : Path}
    (listed : path ∈ paths) : s.passesOver files path = staysSame ledger earlier files path := by
  unfold passesOver staysSame FileLedger.unaltered
  rw [standing.sound.configured, incremental, Bool.true_and, standing.remembers path listed]

/-- One call keeps what holds of a session. -/
theorem Standing.call (regular : Regular config run) (incremental : config.incremental.enabled)
    (standing : Standing config run paths ledger earlier s)
    (ran : ∀ g, ShapeGraph.ofDocuments (documentsAt files paths) = .ok g → run g)
    (called : s.generatePaths files paths = (.ok report, s')) :
    Standing config run paths ledger (files :: earlier) s' := by
  obtain ⟨loads, sound, committed⟩ := generatePaths_sound regular standing.sound ran called
  refine ⟨sound, fun path listed => ?_⟩
  have noted : s.noted? files = fun path => (s.ledger.observe files path).2 := by
    funext path
    rw [noted?, standing.sound.configured, if_pos incremental]
  rw [committed, noted, FileLedger.stamp_record?_commitAll
    (fun path listed => file_of_load (loads path listed)) listed]
  unfold lastRecord?
  rw [List.findSome?_cons]
  cases FileLedger.current? files path with
  | some record => rfl
  | none => exact standing.remembers path listed

variable (regular : Regular config run) (incremental : config.incremental.enabled)
  (fresh : s.Sound config run)

include regular incremental fresh

/-- What holds of a session after any calls. -/
theorem standing_callAll
    (ran : ∀ files ∈ earlier, ∀ g, ShapeGraph.ofDocuments (documentsAt files paths) = .ok g → run g)
    (called : s.callAll paths earlier = some (calls, s')) :
    Standing config run paths s.ledger earlier s' := by
  induction earlier generalizing calls s' with
  | nil =>
    cases called
    exact ⟨fresh, fun _ _ => rfl⟩
  | cons files earlier ih =>
    obtain ⟨calls, middle, report, before, generated, -⟩ := exists_of_callAll_cons called
    have standing := ih (fun files member => ran files (List.mem_cons_of_mem _ member)) before
    exact standing.call regular incremental (ran files List.mem_cons_self) generated

/-- The last of some calls gives the modules of the files that are not as they were last known. -/
theorem report_of_callAll (enabled : config.enabled)
    (ran : ∀ store ∈ files :: earlier,
      ∀ g, ShapeGraph.ofDocuments (documentsAt store paths) = .ok g → run g)
    (called : s.callAll paths (files :: earlier) = some ((files, report) :: calls, s')) :
    AllLoad files paths ∧ ∃ g, ShapeGraph.ofDocuments (documentsAt files paths) = .ok g ∧
      report = ⟨(modulesBy (generatorOf config g)
            ((documentsAt files paths).map Document.file)).filter fun m =>
          ((documentsAt files (paths.filter fun path =>
            !staysSame s.ledger earlier files path)).map Document.file).contains m.file,
        paths.filter (staysSame s.ledger earlier files)⟩ := by
  obtain ⟨_, middle, _, before, generated, same⟩ := exists_of_callAll_cons called
  cases same
  have standing := standing_callAll regular incremental fresh
    (fun store member => ran store (List.mem_cons_of_mem _ member)) before
  have own := ran files List.mem_cons_self
  obtain ⟨loads, -⟩ := generatePaths_sound regular standing.sound own generated
  obtain ⟨g, lowered, reported⟩ := exists_graph_of_generatePaths regular standing.sound own enabled
    (congrArg Prod.fst generated) loads
  have passes : ∀ path ∈ paths,
      middle.passesOver files path = staysSame s.ledger earlier files path :=
    fun path listed => standing.passesOver_eq incremental files listed
  refine ⟨loads, g, lowered, reported.trans ?_⟩
  rw [changedFiles, List.filter_congr passes,
    List.filter_congr fun path listed => congrArg (!·) (passes path listed)]

/-- Each call gives modules of the documents that it finds. -/
theorem modules_of_mem_calls (enabled : config.enabled)
    (ran : ∀ files ∈ earlier, ∀ g, ShapeGraph.ofDocuments (documentsAt files paths) = .ok g → run g)
    (called : s.callAll paths earlier = some (calls, s')) :
    ∀ call ∈ calls, call.1 ∈ earlier ∧ AllLoad call.1 paths ∧
      ∃ g, ShapeGraph.ofDocuments (documentsAt call.1 paths) = .ok g ∧
        call.2.modules ⊆
          modulesBy (generatorOf config g) ((documentsAt call.1 paths).map Document.file) := by
  induction earlier generalizing calls s' with
  | nil =>
    cases called
    exact fun _ member => absurd member List.not_mem_nil
  | cons files earlier ih =>
    obtain ⟨past, middle, report, before, generated, same⟩ := exists_of_callAll_cons called
    cases same
    rintro call (_ | ⟨_, member⟩)
    · obtain ⟨loads, g, lowered, reported⟩ :=
        report_of_callAll regular incremental fresh enabled ran called
      refine ⟨List.mem_cons_self, loads, g, lowered, ?_⟩
      rw [reported]
      exact fun m module => (List.mem_filter.mp module).1
    · obtain ⟨listed, rest⟩ :=
        ih (fun files member => ran files (List.mem_cons_of_mem _ member)) before call member
      exact ⟨List.mem_cons_of_mem _ listed, rest⟩

end Run

/-- After any calls of an incremental session on the same paths, with any edits between them, the
last call passes over exactly the files that are as they were last known, and gives the modules of
the files of the other documents as a session that passes nothing over gives them.  The module that
was last given for a file is the one that such a session gives for the documents of that call; it is
also the one for the documents of now, if the selected declarations of the file are the same and
reach the same. -/
theorem callAll_current {config : Config} (enabled : config.enabled)
    (incremental : config.incremental.enabled) {start : FileStore} {available : Nat}
    {workforce : Workforce} {paths : List Path} {now : FileStore} {earlier : List FileStore}
    {report : GenerateReport} {calls : List (FileStore × GenerateReport)} {s : Session}
    (called : (withWorkforce config start available workforce).callAll paths (now :: earlier)
      = some ((now, report) :: calls, s))
    (trusted : Trusted config workforce ((now :: earlier).map (documentsAt · paths))) :
    ∃ modules, reportWhole config available workforce now paths = .ok ⟨modules, []⟩ ∧
      report.skipped
        = paths.filter (staysSame (ledgerOf config.incremental start) earlier now) ∧
      report.modules = modules.filter (fun m =>
        ((documentsAt now (paths.filter fun path =>
          !staysSame (ledgerOf config.incremental start) earlier now path)).map
            Document.file).contains m.file) ∧
      ∀ file past m, lastModule? file ((now, report) :: calls) = some (past, m) →
        (∃ older, reportWhole config available workforce past paths = .ok ⟨older, []⟩ ∧
          m ∈ older ∧ m.file = file) ∧
        (Unaffected config (documentsAt past paths) (documentsAt now paths) file →
          m ∈ modules ∧ ∀ other ∈ modules, other.file = file → other.text = m.text) := by
  have fresh : (withWorkforce config start available workforce).Sound config
      (graphsOf ((now :: earlier).map (documentsAt · paths))) :=
    sound_withWorkforce config start available fun _ => trusted.faithful
  have ran : ∀ files ∈ now :: earlier, ∀ g,
      ShapeGraph.ofDocuments (documentsAt files paths) = .ok g →
      graphsOf ((now :: earlier).map (documentsAt · paths)) g :=
    fun files member g lowered => ⟨_, List.mem_map_of_mem member, lowered⟩
  obtain ⟨loads, g, lowered, reported⟩ :=
    report_of_callAll trusted.regular incremental fresh enabled ran called
  have given := modules_of_mem_calls trusted.regular incremental fresh enabled ran called
  refine ⟨_, reportWhole_eq enabled available trusted (List.mem_map_of_mem List.mem_cons_self)
    loads lowered, congrArg GenerateReport.skipped reported,
    congrArg GenerateReport.modules reported, ?_⟩
  intro file past m last
  obtain ⟨⟨_, pastReport⟩, member, found⟩ := List.exists_of_findSome?_eq_some last
  obtain ⟨_, found, same⟩ := Option.map_eq_some_iff.mp found
  cases same
  have inFile : m.file = file := by simpa using List.find?_some found
  obtain ⟨listed, loads', h, lowered', part⟩ := given _ member
  have module := part (List.mem_of_find?_eq_some found)
  refine ⟨⟨_, reportWhole_eq enabled available trusted (List.mem_map_of_mem listed) loads' lowered',
    module, inFile⟩, fun unaffected => ?_⟩
  have kept := mem_modulesBy_of_unaffected lowered' lowered unaffected module inFile
  refine ⟨kept, fun other module' same => ?_⟩
  rw [eq_of_mem_modulesBy kept module' (inFile.trans same.symm)]

/-! ### A document that is edited -/

instance (g h : ShapeGraph) (id : ShapeId) : Decidable (g.SameBelow h id) :=
  inferInstanceAs (Decidable (∀ found ∈ g.reachable [id], _))

/-- An id that two graphs do not know leads to nothing in them. -/
theorem sameBelow_of_not_mem {g h : ShapeGraph} {id : ShapeId}
    (absent : id ∉ g.shapes.keys ++ g.declarations.keys)
    (absent' : id ∉ h.shapes.keys ++ h.declarations.keys) : g.SameBelow h id := by
  rw [List.mem_append, not_or, ← OrderedMap.get?_eq_none_iff, ← OrderedMap.get?_eq_none_iff]
    at absent absent'
  intro found reached
  obtain ⟨root, listed, path⟩ := g.mem_reachable_iff.mp reached
  obtain rfl := List.mem_singleton.mp listed
  rcases path.cases_head with rfl | ⟨next, ⟨shape, known, -⟩, -⟩
  · exact ⟨absent.1.trans absent'.1.symm, absent.2.trans absent'.2.symm⟩
  · cases absent.1.symm.trans known

/-- A graph and a larger one are told apart if their fingerprints differ at each id that leads to
something else in them. -/
theorem distinguished_of_pair {run : ShapeGraph → Prop} {g h : ShapeGraph}
    (only : ∀ graph, run graph → graph = g ∨ graph = h)
    (part : ∀ id ∈ (g.shapes.keys ++ g.declarations.keys) ++ h.declarations.keys,
      id ∈ h.shapes.keys)
    (apart : ∀ id ∈ h.shapes.keys,
      g.SameBelow h id ∧ h.SameBelow g id ∨ g.fingerprint id ≠ h.fingerprint id) :
    Distinguished run := by
  have told : ∀ id, g.fingerprint id = h.fingerprint id → g.SameBelow h id ∧ h.SameBelow g id := by
    intro id same
    by_cases known : id ∈ h.shapes.keys
    · exact (apart id known).resolve_right fun different => different same
    · have absent : id ∉ g.shapes.keys ++ g.declarations.keys :=
        fun member => known (part id (List.mem_append_left _ member))
      have absent' : id ∉ h.shapes.keys ++ h.declarations.keys := by
        rw [List.mem_append, not_or]
        exact ⟨known, fun member => known (part id (List.mem_append_right _ member))⟩
      exact ⟨sameBelow_of_not_mem absent absent', sameBelow_of_not_mem absent' absent⟩
  intro a b ha hb id same
  rcases only a ha with rfl | rfl <;> rcases only b hb with rfl | rfl
  · exact fun _ _ => ⟨rfl, rfl⟩
  · exact (told id same).1
  · exact (told id same.symm).2
  · exact fun _ _ => ⟨rfl, rfl⟩

/-- The text of a document of the file `b.ts`. -/
def declarer (declarations : String) : String :=
  "\x7b\"file\":\"b.ts\",\"declarations\":[" ++ declarations ++ "]\x7d"

/-- The text of a declaration. -/
def declaring (name : String) : String :=
  "\x7b\"name\":\"" ++ name ++ "\",\"type\":\x7b\"kind\":\"string\"\x7d\x7d"

/-- A type of `a.ts` that refers to a name `B`, and a document of `b.ts` with its date. -/
def draft (declarations : String) (modified : Int) : FileStore where
  entries := .ofList [
    (["a.json"], .file ⟨"\x7b\"file\":\"a.ts\",\"declarations\":[\x7b\"name\":\"A\","
      ++ "\"type\":\x7b\"kind\":\"ref\",\"name\":\"B\"\x7d\x7d]\x7d", 1⟩),
    (["b.json"], .file ⟨declarer declarations, modified⟩)]
  workDir := []
  now := 0

/-- The paths of both documents. -/
def draftPaths : List Path :=
  [⟨"a.json"⟩, ⟨"b.json"⟩]

/-- A configuration that passes over what did not change. -/
def incrementally : Config :=
  { incremental := { enabled := true } }

theorem exists_ok_ok_of_any {ε α β : Type} {first : Except ε α} {second : Except ε β}
    {good : α → β → Prop} [∀ a b, Decidable (good a b)]
    (h : first.toOption.any fun a => second.toOption.any fun b => good a b) :
    ∃ a b, first = .ok a ∧ second = .ok b ∧ good a b := by
  cases first with
  | error error => cases h
  | ok a =>
    obtain ⟨b, isSecond, h⟩ := exists_ok_of_any h
    exact ⟨a, b, rfl, isSecond, h⟩

/-- A declaration of another name does not matter to `a.ts`. -/
theorem graphs_draft :
    ∃ g h, ShapeGraph.ofDocuments (documentsAt (draft "" 1) draftPaths) = .ok g ∧
      ShapeGraph.ofDocuments (documentsAt (draft (declaring "C") 2) draftPaths) = .ok h ∧
      ((∀ id ∈ (g.shapes.keys ++ g.declarations.keys) ++ h.declarations.keys,
          id ∈ h.shapes.keys) ∧
        (∀ id ∈ h.shapes.keys,
          g.SameBelow h id ∧ h.SameBelow g id ∨ g.fingerprint id ≠ h.fingerprint id)) ∧
      (∀ graph ∈ [g, h], (WorkUnit.mk ⟨0⟩ graph graph.declaredIds incrementally.overrides.table
        (optionsOf incrementally)).encode.length < UInt64.size) ∧
      selectIn g incrementally.exportOnly ["a.ts"] = selectIn h incrementally.exportOnly ["a.ts"] ∧
      ∀ id ∈ selectIn g incrementally.exportOnly ["a.ts"], g.SameBelow h id :=
  exists_ok_ok_of_any (by decide +kernel)

/-- The first call gives a module of `a.ts`, and the second one passes over it. -/
theorem callAll_draft :
    ∃ first second s,
      (withWorkforce incrementally (.new [] 0) 2 ⟨unruly, [], 0⟩).callAll draftPaths
        [draft (declaring "C") 2, draft "" 1]
        = some ([(draft (declaring "C") 2, second), (draft "" 1, first)], s) ∧
      (second.modules.find? (·.file = "a.ts")).isNone ∧
      (first.modules.find? (·.file = "a.ts")).isSome := by
  have ran : ((withWorkforce incrementally (.new [] 0) 2 ⟨unruly, [], 0⟩).callAll draftPaths
      [draft (declaring "C") 2, draft "" 1]).any fun result =>
        result.1.map (fun call => (call.2.modules.find? (·.file = "a.ts")).isSome)
          = [false, true] := by
    decide +kernel
  obtain ⟨⟨calls, s⟩, called, given⟩ := (Option.any_eq_true _ _).mp ran
  obtain ⟨_, _, second, called', -, rfl⟩ := exists_of_callAll_cons called
  obtain ⟨_, _, first, called'', -, rfl⟩ := exists_of_callAll_cons called'
  cases called''
  exact ⟨first, second, s, called, by simpa using given⟩

/-- After `b.ts` was edited, the module of `a.ts` that was given before is still the one that would
be given now. -/
theorem callAll_current_draft :
    ∃ calls s m modules,
      (withWorkforce incrementally (.new [] 0) 2 ⟨unruly, [], 0⟩).callAll draftPaths
        [draft (declaring "C") 2, draft "" 1] = some (calls, s) ∧
      lastModule? "a.ts" calls = some (draft "" 1, m) ∧
      reportWhole incrementally 2 ⟨unruly, [], 0⟩ (draft (declaring "C") 2) draftPaths
        = .ok ⟨modules, []⟩ ∧
      m ∈ modules ∧ ∀ other ∈ modules, other.file = "a.ts" → other.text = m.text := by
  obtain ⟨first, second, s, called, absent, given⟩ := callAll_draft
  obtain ⟨g, h, loweredG, loweredH, ⟨part, apart⟩, short, sameIds, below⟩ := graphs_draft
  obtain ⟨m, found⟩ := Option.isSome_iff_exists.mp given
  have last : lastModule? "a.ts" [(draft (declaring "C") 2, second), (draft "" 1, first)]
      = some (draft "" 1, m) := by
    simp [lastModule?, Option.isNone_iff_eq_none.mp absent, found]
  have only : ∀ graph,
      graphsOf ([draft (declaring "C") 2, draft "" 1].map (documentsAt · draftPaths)) graph →
      graph = g ∨ graph = h := by
    rintro graph ⟨documents, member, lowered⟩
    rw [List.map_cons, List.map_cons, List.map_nil, List.mem_pair] at member
    rcases member with rfl | rfl
    · exact Or.inr (Except.ok.inj (lowered.symm.trans loweredH))
    · exact Or.inl (Except.ok.inj (lowered.symm.trans loweredG))
  have trusted : Trusted incrementally ⟨unruly, [], 0⟩
      ([draft (declaring "C") 2, draft "" 1].map (documentsAt · draftPaths)) :=
    ⟨faithful_unruly, distinguished_of_pair only part apart, fun graph known =>
      short graph (List.mem_pair.mpr (only graph known))⟩
  obtain ⟨modules, whole, -, -, current⟩ := callAll_current rfl rfl called trusted
  refine ⟨_, s, m, modules, called, last, whole, (current _ _ _ last).2 ?_⟩
  intro g' h' lowered lowered'
  obtain rfl := Except.ok.inj (loweredG.symm.trans lowered)
  obtain rfl := Except.ok.inj (loweredH.symm.trans lowered')
  exact ⟨sameIds, below⟩

/-- After `b.ts` was edited and declares the name that `a.ts` refers to, the module of `a.ts` that
was given before is out of date. -/
theorem callAll_stale :
    ∃ calls s last report,
      (withWorkforce incrementally (.new [] 0) 2 ⟨unruly, [], 0⟩).callAll draftPaths
        [draft (declaring "B") 2, draft "" 1] = some (calls, s) ∧
      lastModule? "a.ts" calls = some last ∧
      reportWhole incrementally 2 ⟨unruly, [], 0⟩ (draft (declaring "B") 2) draftPaths
        = .ok report ∧
      ∃ m ∈ report.modules, m.file = "a.ts" ∧ m.text ≠ last.2.text := by
  have ran : ((withWorkforce incrementally (.new [] 0) 2 ⟨unruly, [], 0⟩).callAll draftPaths
      [draft (declaring "B") 2, draft "" 1]).any fun result =>
        (lastModule? "a.ts" result.1).any fun last =>
          (reportWhole incrementally 2 ⟨unruly, [], 0⟩ (draft (declaring "B") 2)
            draftPaths).toOption.any fun report =>
              ∃ m ∈ report.modules, m.file = "a.ts" ∧ m.text ≠ last.2.text := by
    decide +kernel
  obtain ⟨⟨calls, s⟩, called, ran⟩ := (Option.any_eq_true _ _).mp ran
  obtain ⟨last, isLast, ran⟩ := (Option.any_eq_true _ _).mp ran
  obtain ⟨report, whole, differs⟩ := exists_ok_of_any ran
  exact ⟨calls, s, last, report, called, isLast, whole, differs⟩

end Schemata.Session
