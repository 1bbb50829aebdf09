import Schemata.Document.Read
import Schemata.Session.Basic

/-!
# Generation in a session

Documents are lowered into one graph, and the selected declarations of some of their files are
generated: from the cache where it is up to date, else in process or, if there are many, by workers.
Documents may also be loaded from files, of which those that did not change are passed over.

## Main definitions

* `Session.generate` : the modules of documents.
* `Session.generatePaths` : the modules of the files that changed.
-/

namespace Schemata

namespace Session

/-! ### Schemas -/

/-- Generates ids in process, through the cache. -/
def generateInProcess (s : Session) (graph : ShapeGraph) (ids : List ShapeId) :
    List Schema × Session :=
  let run := (Generator.new graph s.rules s.options).generateIds (some s.cache) ids
  (run.schemas,
    { s with
      cache := run.cache.getD s.cache
      stats :=
        { s.stats with
          cacheHits := s.stats.cacheHits + run.stats.cacheHits
          cacheMisses := s.stats.cacheMisses + run.stats.cacheMisses
          generator := s.stats.generator + run.stats } })

/-- Looks ids up in the cache: the schemas found, the ids not found, and the cache. -/
def lookUp (graph : ShapeGraph) (cache : SchemaCache) :
    List ShapeId → List Schema × List ShapeId × SchemaCache
  | [] => ([], [], cache)
  | id :: rest =>
    let (hit, cache) := cache.getCurrent id (graph.fingerprint id)
    let (found, missing, cache) := lookUp graph cache rest
    match hit with
    | some schema => (schema :: found, missing, cache)
    | none => (found, id :: missing, cache)

/-- The outputs among outcomes. -/
def outputsOf (outcomes : List (Except BatchError UnitOutput)) : List UnitOutput :=
  outcomes.filterMap Except.toOption

/-- Generates ids by workers, as far as they are not in the cache. -/
def generateParallel (s : Session) (coordinator : Coordinator) (graph : ShapeGraph)
    (ids : List ShapeId) : List Schema × Session :=
  let (found, missing, cache) := lookUp graph s.cache ids
  let (units, coordinator) := coordinator.plan graph missing s.rules s.options
  let ran := coordinator.run cache units s.workforce.arrivals
  let outputs := outputsOf ran.outcomes
  let all := OrderedMap.ofList
    ((found ++ outputs.flatMap UnitOutput.schemas).map fun schema => (schema.id, schema))
  (ids.eraseDups.filterMap all.get?,
    { s with
      cache := ran.cache
      coordinator := some ran.coordinator
      stats :=
        { s.stats with
          cacheHits := s.stats.cacheHits + (ids.length - missing.length)
          cacheMisses := s.stats.cacheMisses + missing.length
          parallelDeclarations := s.stats.parallelDeclarations + missing.length
          generator := outputs.foldl (fun sum o => sum + o.stats) s.stats.generator } })

/-- The number of ids that are not in the cache or out of date there. -/
def missCount (s : Session) (graph : ShapeGraph) (ids : List ShapeId) : Nat :=
  ids.countP fun id => !s.cache.isCurrent id (graph.fingerprint id)

/-- The schemas of ids in their order.  Workers are used when there are more to be generated than
go into one unit. -/
def generateIds (s : Session) (graph : ShapeGraph) (ids : List ShapeId) : List Schema × Session :=
  match s.coordinator with
  | some coordinator =>
    if coordinator.batchSize < s.missCount graph ids then s.generateParallel coordinator graph ids
    else s.generateInProcess graph ids
  | none => s.generateInProcess graph ids

/-! ### Modules -/

/-- The module of a file with its schemas. -/
def moduleOf (graph : ShapeGraph) (suffix file : String) (schemas : List Schema) :
    GeneratedModule :=
  let source := SchemaModule.ofSchemas file schemas graph suffix
  ⟨source, schemas, source.text suffix⟩

/-- Puts schemas into the modules of `files`, in the order of the files.  A file that comes again
finds its schemas taken, and a file without schemas gets no module. -/
def modulesOf (graph : ShapeGraph) (suffix : String) : List String → List Schema →
    List GeneratedModule
  | [], _ => []
  | file :: rest, schemas =>
    let (own, others) := schemas.partition (·.file = file)
    let modules := modulesOf graph suffix rest others
    if own.isEmpty then modules else moduleOf graph suffix file own :: modules

/-- The selected declarations of some files. -/
def selectIn (graph : ShapeGraph) (exportOnly : Bool) (files : List String) : List ShapeId :=
  (graph.select exportOnly).filter fun id =>
    (graph.declaration? id).any fun declaration => files.contains declaration.file

/-- Generates the modules of some files of the documents. -/
def generateFiles (s : Session) (documents : List Document) (files : List String) :
    Except SessionError (List GeneratedModule) × Session :=
  if s.config.enabled then
    match ShapeGraph.ofDocuments documents with
    | .error error => (.error (.lowering error), s)
    | .ok graph =>
      let ids := selectIn graph s.options.exportOnly files
      let (schemas, s) := s.generateIds graph ids
      let wanted := (documents.map Document.file).filter files.contains
      let modules := modulesOf graph s.options.suffix wanted schemas
      (.ok modules,
        { s with
          stats :=
            { s.stats with
              documents := s.stats.documents + documents.length
              modules := s.stats.modules + modules.length } })
  else (.ok [], s)

/-- Generates the modules of all documents. -/
def generate (s : Session) (documents : List Document) :
    Except SessionError (List GeneratedModule) × Session :=
  s.generateFiles documents (documents.map Document.file)

end Session

/-! ### Documents in files -/

/-- The document in a file. -/
def Document.load (files : FileStore) (path : Path) : Except SessionError Document :=
  match files.read path with
  | .error cause => .error (.unreadable path cause)
  | .ok text =>
    match Document.read text with
    | .ok document => .ok document
    | .error refusal => .error (.invalid path refusal)

/-- What was generated from files. -/
structure GenerateReport where
  modules : List GeneratedModule
  /-- The paths of files that did not change. -/
  skipped : List Path

/-- Is there an error among the reports? -/
def GenerateReport.hasErrors (report : GenerateReport) : Bool :=
  report.modules.any fun m => m.diagnostics.any Diagnostic.isError

namespace Session

/-- A document with how its file compares with the ledger. -/
structure Loaded where
  path : Path
  document : Document
  changed : Bool
  /-- What the ledger has to remember once the document is generated. -/
  record : Option FileRecord

/-- Loads the document at a path.  Without incremental work every file counts as changed. -/
def loadPath (s : Session) (files : FileStore) (path : Path) : Except SessionError Loaded := do
  let document ← Document.load files path
  if s.config.incremental.enabled then
    let (status, record) := s.ledger.observe files path
    return ⟨path, document, status.isChanged, record⟩
  else return ⟨path, document, true, none⟩

/-- Loads documents and generates the modules of those whose file changed; all documents take part
in the look-up of names.  The ledger remembers the changes only when all went well. -/
def generatePaths (s : Session) (files : FileStore) (paths : List Path) :
    Except SessionError GenerateReport × Session :=
  match paths.mapM (s.loadPath files) with
  | .error error => (.error error, s)
  | .ok loaded =>
    let changed := (loaded.filter Loaded.changed).map fun l => l.document.file
    match s.generateFiles (loaded.map Loaded.document) changed with
    | (.error error, s) => (.error error, s)
    | (.ok modules, s) =>
      let skipped := (loaded.filter (!·.changed)).map Loaded.path
      (.ok ⟨modules, skipped⟩,
        { s with
          ledger := (loaded.filterMap Loaded.record).foldl FileLedger.commit s.ledger
          stats :=
            { s.stats with documentsSkipped := s.stats.documentsSkipped + skipped.length } })

end Session

end Schemata
