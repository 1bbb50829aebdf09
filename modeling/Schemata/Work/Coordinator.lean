import Schemata.Pieces
import Schemata.Work.Unit

/-!
# The coordinator

The coordinator plans units of work, hands them out, and settles every one of them exactly once: by
the result of a worker, by generating it in process when the worker fails or is too slow, or by a
cancellation when it shuts down.  It never looks at the workers themselves.  All it sees of them is
the list of arrivals: results in the order in which they come in, and silences that are too long.

## Main definitions

* `WorkerError`, `BatchError` : why a worker or a task gave no output.
* `Arrival` : what the coordinator sees while it waits.
* `Coordinator.plan`, `Coordinator.dispatch`, `Coordinator.wait`, `Coordinator.run`,
  `Coordinator.shutdown` : its work.
-/

namespace Schemata

/-- Why a unit gave no output in its worker. -/
inductive WorkerError
  | undecodable
  | failed (task : TaskId) (message : String)
  | panicked (message : String)
  | timedOut (milliseconds : Nat)
  /-- The coordinator was shut down before the unit was started. -/
  | cancelled
deriving DecidableEq, Repr

/-- The text of a worker error. -/
def WorkerError.message : WorkerError → String
  | undecodable => "failed to decode work unit"
  | failed task message => s!"task {task.toText} failed: {message}"
  | panicked message => s!"worker panicked: {message}"
  | timedOut milliseconds => s!"no result within {milliseconds} ms"
  | cancelled => "cancelled before it started"

/-- Why waiting for a task gives no output. -/
inductive BatchError
  | cancelled (task : TaskId)
  | unknownTask (task : TaskId)
deriving DecidableEq, Repr

/-- The text of a batch error. -/
def BatchError.message : BatchError → String
  | cancelled task => s!"task {task.toText} was cancelled by shutdown"
  | unknownTask task => s!"task {task.toText} is unknown or was already collected"

/-- What a worker sends back. -/
structure WorkResult where
  task : TaskId
  outcome : Except WorkerError UnitOutput

/-- What the coordinator sees while it waits. -/
inductive Arrival
  | result (result : WorkResult)
  /-- Nothing came in until the time was over. -/
  | silence

/-- A unit on its way to a worker. -/
structure Job where
  task : TaskId
  bytes : List UInt8
deriving DecidableEq, Repr

/-- The counters of a coordinator. -/
structure CoordinatorStats where
  dispatched : Nat := 0
  completedInWorker : Nat := 0
  /-- Units generated in process after a worker failed or was too slow. -/
  fallbacks : Nat := 0
  timeouts : Nat := 0
  cancelled : Nat := 0
deriving DecidableEq, Repr

/-- What a shutdown did. -/
structure ShutdownReport where
  /-- Tasks settled as cancelled. -/
  cancelled : Nat
  /-- Workers that ended in time. -/
  joined : Nat
  abandoned : Nat
deriving DecidableEq, Repr

/-- A task that is not settled. -/
structure PendingTask where
  unit : WorkUnit
  /-- The unit was handed to a worker; otherwise it is generated when somebody waits for it. -/
  inWorker : Bool

/-- The books of a coordinator. -/
structure Coordinator where
  workers : Nat
  /-- The number of declarations in a unit. -/
  batchSize : Nat
  taskTimeoutMs : Nat
  /-- There are workers; after a shutdown there are none. -/
  parallel : Bool := true
  pending : OrderedMap TaskId PendingTask := .empty
  /-- Tasks that are settled and not yet collected. -/
  resolved : OrderedMap TaskId (Except BatchError UnitOutput) := .empty
  /-- The number of the last task that was planned. -/
  lastTask : UInt64 := 0
  stats : CoordinatorStats := {}
  diagnostics : List Diagnostic := []

namespace Coordinator

/-! ### Planning and dispatch -/

/-- Makes units of some roots, with new task numbers. -/
def planRoots (c : Coordinator) (graph : ShapeGraph) (rules : RuleSet) (options : GenerateOptions) :
    List (List ShapeId) → List WorkUnit × Coordinator
  | [] => ([], c)
  | roots :: rest =>
    let task := c.lastTask + 1
    let (units, c) := planRoots { c with lastTask := task } graph rules options rest
    (WorkUnit.ofGraph ⟨task⟩ graph roots rules options :: units, c)

/-- Splits declarations into units of at most the batch size, in order. -/
def plan (c : Coordinator) (graph : ShapeGraph) (ids : List ShapeId) (rules : RuleSet)
    (options : GenerateOptions) : List WorkUnit × Coordinator :=
  c.planRoots graph rules options (pieces (max 1 c.batchSize) ids)

/-- Takes a unit over.  If there are workers, the job is for them. -/
def dispatch (c : Coordinator) (unit : WorkUnit) : Option Job × Coordinator :=
  let c :=
    { c with
      stats := { c.stats with dispatched := c.stats.dispatched + 1 }
      pending := c.pending.insert unit.task ⟨unit, c.parallel⟩ }
  (if c.parallel then some ⟨unit.task, unit.encode⟩ else none, c)

/-- Takes units over in order. -/
def dispatchAll (c : Coordinator) : List WorkUnit → List Job × Coordinator
  | [] => ([], c)
  | unit :: rest =>
    let (job, c) := c.dispatch unit
    let (jobs, c) := dispatchAll c rest
    (job.toList ++ jobs, c)

/-! ### Settling tasks -/

/-- Settles a pending task with its output, whose schemas go into the cache. -/
def commit (c : Coordinator) (cache : SchemaCache) (task : TaskId) (output : UnitOutput) :
    Coordinator × SchemaCache :=
  ({ c with
      pending := c.pending.erase task
      resolved := c.resolved.insert task (.ok output) },
    output.schemas.foldl SchemaCache.insert cache)

/-- Settles a pending task as cancelled. -/
def cancel (c : Coordinator) (task : TaskId) : Coordinator :=
  { c with
    pending := c.pending.erase task
    resolved := c.resolved.insert task (.error (.cancelled task))
    stats := { c.stats with cancelled := c.stats.cancelled + 1 } }

/-- Settles a pending task by generating its unit in process. -/
def runInProcess (c : Coordinator) (cache : SchemaCache) (task : TaskId) :
    Coordinator × SchemaCache :=
  match c.pending.get? task with
  | some pending => c.commit cache task pending.unit.generate
  | none => (c, cache)

/-- Reports that a worker did not do its task. -/
def reportFallback (c : Coordinator) (task : TaskId) (error : WorkerError) : Coordinator :=
  { c with
    stats := { c.stats with fallbacks := c.stats.fallbacks + 1 }
    diagnostics := c.diagnostics ++
      [.warning .worker s!"task {task.toText}: {error.message}; generated in process"] }

/-- Settles a task in process because its worker did not do it. -/
def fallBack (c : Coordinator) (cache : SchemaCache) (task : TaskId) (error : WorkerError) :
    Coordinator × SchemaCache :=
  (c.reportFallback task error).runInProcess cache task

/-- Takes a result in.  The result of a task that is not pending changes nothing. -/
def merge (c : Coordinator) (cache : SchemaCache) (result : WorkResult) :
    Coordinator × SchemaCache :=
  if c.pending.contains result.task then
    match result.outcome with
    | .ok output =>
      { c with
        stats := { c.stats with completedInWorker := c.stats.completedInWorker + 1 } }.commit
        cache result.task output
    | .error .cancelled => (c.cancel result.task, cache)
    | .error error => c.fallBack cache result.task error
  else (c, cache)

/-- Settles a task whose worker was too slow. -/
def giveUp (c : Coordinator) (cache : SchemaCache) (task : TaskId) : Coordinator × SchemaCache :=
  { c with stats := { c.stats with timeouts := c.stats.timeouts + 1 } }.fallBack cache task
    (.timedOut c.taskTimeoutMs)

/-! ### Waiting -/

/-- Collects a settled task. -/
def collect (c : Coordinator) (task : TaskId) : Except BatchError UnitOutput × Coordinator :=
  match c.resolved.get? task with
  | some outcome => (outcome, { c with resolved := c.resolved.erase task })
  | none => (.error (.unknownTask task), c)

/-- Where a wait has led to. -/
structure Waited where
  outcome : Except BatchError UnitOutput
  coordinator : Coordinator
  cache : SchemaCache
  /-- The arrivals that were not looked at. -/
  arrivals : List Arrival

/-- Collects a task at the end of a wait. -/
def finish (task : TaskId) (arrivals : List Arrival) (state : Coordinator × SchemaCache) :
    Waited :=
  let (outcome, c) := state.1.collect task
  ⟨outcome, c, state.2, arrivals⟩

/-- Is the task with a worker and not settled? -/
def awaitsWorker (c : Coordinator) (task : TaskId) : Bool :=
  !c.resolved.contains task && (c.pending.get? task).any PendingTask.inWorker

/-- Collects a task that no worker has; if it is not settled yet, it is generated in process. -/
def conclude (c : Coordinator) (cache : SchemaCache) (task : TaskId) (arrivals : List Arrival) :
    Waited :=
  if c.resolved.contains task then finish task arrivals (c, cache)
  else finish task arrivals (c.runInProcess cache task)

/-- Waits until a task is settled and collects it.  Other results that come in are taken in too.  A
task can be collected once. -/
def wait (c : Coordinator) (cache : SchemaCache) (task : TaskId) : List Arrival → Waited
  | [] =>
    if c.awaitsWorker task then finish task [] (c.giveUp cache task)
    else c.conclude cache task []
  | arrival :: rest =>
    if c.awaitsWorker task then
      match arrival with
      | .silence => finish task rest (c.giveUp cache task)
      | .result result =>
        let (c, cache) := c.merge cache result
        wait c cache task rest
    else c.conclude cache task (arrival :: rest)

/-- Where waiting for several tasks has led to. -/
structure WaitedAll where
  outcomes : List (Except BatchError UnitOutput)
  coordinator : Coordinator
  cache : SchemaCache
  arrivals : List Arrival

/-- Waits for tasks one after the other. -/
def waitAll (c : Coordinator) (cache : SchemaCache) (arrivals : List Arrival) :
    List TaskId → WaitedAll
  | [] => ⟨[], c, cache, arrivals⟩
  | task :: rest =>
    let first := c.wait cache task arrivals
    let others := waitAll first.coordinator first.cache first.arrivals rest
    { others with outcomes := first.outcome :: others.outcomes }

/-- Hands units out and waits for all of them, `arrivals` being what comes in after the jobs are
handed out.  The outcomes are in the order of the units, whatever the order of the arrivals is. -/
def run (c : Coordinator) (cache : SchemaCache) (units : List WorkUnit)
    (arrivals : List Job → List Arrival) : WaitedAll :=
  let (jobs, c) := c.dispatchAll units
  c.waitAll cache (arrivals jobs) (units.map WorkUnit.task)

/-! ### Shutdown -/

/-- Takes results in as long as a worker has a task and something comes in. -/
def drain (c : Coordinator) (cache : SchemaCache) :
    List Arrival → Coordinator × SchemaCache × List Arrival
  | [] => (c, cache, [])
  | arrival :: rest =>
    if c.pending.values.any PendingTask.inWorker then
      match arrival with
      | .silence => (c, cache, rest)
      | .result result =>
        let (c, cache) := c.merge cache result
        drain c cache rest
    else (c, cache, arrival :: rest)

/-- The number of workers that were started. -/
def started (c : Coordinator) : Nat :=
  if c.parallel then max 1 c.workers else 0

/-- Where a shutdown has led to. -/
structure ShutDown where
  report : ShutdownReport
  coordinator : Coordinator
  cache : SchemaCache
  arrivals : List Arrival

/-- Takes in what comes in, settles all other tasks as cancelled, and lets the workers go, of whom
`ended` end in time.  Units that are dispatched later are generated in process. -/
def shutdown (c : Coordinator) (cache : SchemaCache) (arrivals : List Arrival) (ended : Nat) :
    ShutDown :=
  let cancelledBefore := c.stats.cancelled
  let (drained, cache, arrivals) := c.drain cache arrivals
  let settled := drained.pending.keys.foldl cancel drained
  let joined := min ended c.started
  { report :=
      { cancelled := settled.stats.cancelled - cancelledBefore
        joined := joined
        abandoned := c.started - joined }
    coordinator := { settled with parallel := false }
    cache := cache
    arrivals := arrivals }

end Coordinator

end Schemata
