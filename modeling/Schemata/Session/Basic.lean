import Schemata.Config.Basic
import Schemata.Document.Lower
import Schemata.Files.Ledger
import Schemata.Json.Lexeme
import Schemata.Rules.Explain
import Schemata.Schema.Module
import Schemata.Work.Pool

/-!
# Sessions

A session is made from a configuration and owns all state of the work: the rules, the schema cache,
the file ledger and the coordinator.

## Main definitions

* `Session` : the state.
* `Session.new`, `Session.finish` : its beginning and its end.
* `Session.explain`, `Session.diagnostics` : what it can tell.
* `GeneratedModule` : what is generated for a file.
-/

namespace Schemata

/-- The counters of a session. -/
structure SessionStats where
  documents : Nat := 0
  documentsSkipped : Nat := 0
  modules : Nat := 0
  /-- Declarations whose schema came from the cache. -/
  cacheHits : Nat := 0
  cacheMisses : Nat := 0
  /-- Declarations that were handed to workers. -/
  parallelDeclarations : Nat := 0
  generator : GeneratorStats := {}
deriving DecidableEq, Repr

/-- What a session leaves behind. -/
structure SessionSummary where
  stats : SessionStats
  /-- Whether the ledger was saved; nothing if it is not kept in a file. -/
  saved : Option Bool
  shutdown : Option ShutdownReport

/-- Counters of generation as a JSON value. -/
def GeneratorStats.toJson (stats : GeneratorStats) : Json :=
  .object [("types_processed", .int stats.typesProcessed),
    ("declarations_generated", .int stats.declarationsGenerated),
    ("cache_hits", .int stats.cacheHits), ("cache_misses", .int stats.cacheMisses),
    ("fallbacks", .int stats.fallbacks), ("lazy_references", .int stats.deferredReferences)]

/-- Counters of a session as a JSON value. -/
def SessionStats.toJson (stats : SessionStats) : Json :=
  .object [("documents", .int stats.documents), ("documents_skipped", .int stats.documentsSkipped),
    ("modules", .int stats.modules), ("cache_hits", .int stats.cacheHits),
    ("cache_misses", .int stats.cacheMisses),
    ("parallel_declarations", .int stats.parallelDeclarations),
    ("generator", stats.generator.toJson)]

/-- The report of a shutdown as a JSON value. -/
def ShutdownReport.toJson (report : ShutdownReport) : Json :=
  .object [("cancelled", .int report.cancelled), ("joined", .int report.joined),
    ("abandoned", .int report.abandoned)]

/-- A summary as a JSON value. -/
def SessionSummary.toJson (summary : SessionSummary) : Json :=
  .object [("stats", summary.stats.toJson),
    ("saved", match summary.saved with
      | some saved => .bool saved
      | none => .null),
    ("shutdown", match summary.shutdown with
      | some report => report.toJson
      | none => .null)]

/-- Why documents cannot be generated. -/
inductive SessionError
  | unreadable (path : Path) (cause : FileError)
  | invalid (path : Path) (refusal : Json.Refusal)
  | lowering (error : LowerError)

/-- The text of an error.  The words in which the reader of a document says what is wrong with it
are left out; they would follow the path. -/
def SessionError.message : SessionError → String
  | unreadable path cause => s!"failed to read {path.text}: {cause.message}"
  | invalid path _ => s!"invalid declaration document {path.text}"
  | lowering error => error.message

/-- What is generated for a file. -/
structure GeneratedModule where
  source : SchemaModule
  /-- The schemas in the order of their declarations. -/
  schemas : List Schema
  text : String

namespace GeneratedModule

/-- The file whose declarations the module is about. -/
def file (m : GeneratedModule) : String :=
  m.source.file

/-- Where the module belongs. -/
def path (m : GeneratedModule) : String :=
  ModulePath.ofFile m.file

/-- The reports on the schemas. -/
def diagnostics (m : GeneratedModule) : List Diagnostic :=
  m.schemas.flatMap Schema.diagnostics

/-- The schema of a name. -/
def schema? (m : GeneratedModule) (name : String) : Option Schema :=
  m.schemas.find? (·.name = name)

end GeneratedModule

/-- All state of the work. -/
structure Session where
  config : Config
  options : GenerateOptions
  rules : RuleSet
  cache : SchemaCache
  ledger : FileLedger
  coordinator : Option Coordinator
  workforce : Workforce
  stats : SessionStats := {}

namespace Session

/-- The ledger of a configuration. -/
def ledgerOf (config : IncrementalConfig) (files : FileStore) : FileLedger :=
  match config.cachePath with
  | some path => if config.enabled then FileLedger.openAt files path else .inMemory
  | none => .inMemory

/-- The coordinator of a configuration, for a machine with `available` workers.  It has its workers:
a machine that cannot start them is not modelled. -/
def coordinatorOf (config : ParallelConfig) (available : Nat) : Option Coordinator :=
  if config.enabled then
    some
      { workers := config.workerCount available
        batchSize := config.effectiveBatchSize
        taskTimeoutMs := config.taskTimeoutMs }
  else none

/-- A session that has not begun, with given workers. -/
def withWorkforce (config : Config) (files : FileStore) (available : Nat)
    (workforce : Workforce) : Session where
  config := config
  options := { strict := config.strict, exportOnly := config.exportOnly }
  rules := .ofTable config.overrides.table
  cache := .new (if config.cache.enabled then config.cache.maxSize else 0)
  ledger := ledgerOf config.incremental files
  coordinator := coordinatorOf config.parallel available
  workforce := workforce

/-- A session that has not begun, with workers that do their jobs in order. -/
def new (config : Config) (files : FileStore) (available : Nat) : Session :=
  withWorkforce config files available (.inOrder (config.parallel.workerCount available))

/-- Which rule a field has, and which others were considered. -/
def explain (s : Session) (field : String) (context : Option String) : Explanation :=
  s.rules.explain field context

/-- The reports on configuration, ledger and workers so far. -/
def diagnostics (s : Session) : List Diagnostic :=
  s.rules.diagnostics ++ s.ledger.diagnostics
    ++ (s.coordinator.map Coordinator.diagnostics).getD []

/-- Saves the ledger if it is kept in a file, and lets the workers go. -/
def finish (s : Session) (files : FileStore) : SessionSummary × FileStore :=
  let (saved, files) :=
    match s.ledger.store with
    | none => (none, files)
    | some _ =>
      let (saved, _, files) := s.ledger.trySave files
      (some saved, files)
  let shutdown := s.coordinator.map fun c =>
    (c.shutdown s.cache s.workforce.lastArrivals s.workforce.ended).report
  (⟨s.stats, saved, shutdown⟩, files)

end Session

end Schemata
