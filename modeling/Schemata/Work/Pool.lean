import Schemata.Work.Coordinator

/-!
# Worker pools

A pool runs jobs in the order in which they come in, as soon as a worker is free.  A worker may be
held up by its task until it is released.  A crew is a coordinator with its pool.

## Main definitions

* `Executor` : what a worker does with a unit.
* `Workforce` : workers as a coordinator sees them.
* `Pool.submit`, `Pool.release`, `Pool.cancel` : what can happen to a pool.
* `Crew.run`, `Crew.wait`, `Crew.shutdown` : the work of a coordinator with a pool.
-/

namespace Schemata

/-- What a worker does with a unit. -/
abbrev Executor :=
  WorkUnit → Except WorkerError UnitOutput

/-- The executor that generates the unit. -/
def Executor.generate : Executor :=
  fun unit => .ok unit.generate

/-- What a job comes to. -/
def Job.run (job : Job) (executor : Executor) : WorkResult :=
  match WorkUnit.decode? job.bytes with
  | some unit => ⟨job.task, executor unit⟩
  | none => ⟨job.task, .error .undecodable⟩

/-- How workers behave as far as a coordinator can see. -/
structure Workforce where
  /-- What comes in after jobs are handed out. -/
  arrivals : List Job → List Arrival
  /-- What comes in during a shutdown. -/
  lastArrivals : List Arrival
  /-- The number of workers that end in time at a shutdown. -/
  ended : Nat

/-- Workers that do their jobs in order and end in time. -/
def Workforce.inOrder (workers : Nat) : Workforce where
  arrivals jobs := jobs.map fun job => .result (job.run .generate)
  lastArrivals := []
  ended := workers

/-- Workers and their jobs. -/
structure Pool where
  executor : Executor
  workers : Nat
  /-- Tasks that hold up their worker until it is released. -/
  holds : List TaskId := []
  /-- Jobs for which no worker is free yet. -/
  waiting : List Job := []
  /-- Jobs that hold up their workers. -/
  heldUp : List Job := []
  /-- Results that nobody took yet. -/
  results : List WorkResult := []
  /-- Jobs are not started any more. -/
  cancelled : Bool := false

namespace Pool

/-- Gives jobs to free workers, in order. -/
def start (pool : Pool) : List Job → Pool
  | [] => { pool with waiting := [] }
  | job :: rest =>
    if pool.workers ≤ pool.heldUp.length then { pool with waiting := job :: rest }
    else if pool.cancelled then
      start { pool with results := pool.results ++ [⟨job.task, .error .cancelled⟩] } rest
    else if pool.holds.contains job.task then
      start { pool with heldUp := pool.heldUp ++ [job] } rest
    else start { pool with results := pool.results ++ [job.run pool.executor] } rest

/-- Brings jobs in. -/
def submit (pool : Pool) (jobs : List Job) : Pool :=
  pool.start (pool.waiting ++ jobs)

/-- Lets all workers go on that are held up, and holds up none from now on. -/
def release (pool : Pool) : Pool :=
  let finished := pool.heldUp.map (·.run pool.executor)
  { pool with holds := [], heldUp := [], results := pool.results ++ finished }.start pool.waiting

/-- Starts no job any more. -/
def cancel (pool : Pool) : Pool :=
  { pool with cancelled := true }.start pool.waiting

/-- The number of workers that end when the pool is closed: all of them once every job is done, and
none before. -/
def ended (pool : Pool) : Nat :=
  if pool.heldUp.isEmpty && pool.waiting.isEmpty then pool.workers else 0

/-- The results as arrivals. -/
def arrivals (pool : Pool) : List Arrival :=
  pool.results.map .result

end Pool

/-- The results among arrivals. -/
def Arrival.result? : Arrival → Option WorkResult
  | .result found => some found
  | .silence => none

/-- A coordinator with its pool. -/
structure Crew where
  coordinator : Coordinator
  pool : Pool

namespace Crew

/-- A crew that has not begun. -/
def new (workers batchSize taskTimeoutMs : Nat) (executor : Executor) (holds : List TaskId) :
    Crew where
  coordinator :=
    { workers := workers, batchSize := batchSize, taskTimeoutMs := taskTimeoutMs }
  pool := { executor := executor, workers := max 1 workers, holds := holds }

/-- Puts back arrivals that were not looked at. -/
def keep (crew : Crew) (coordinator : Coordinator) (arrivals : List Arrival) : Crew :=
  ⟨coordinator, { crew.pool with results := arrivals.filterMap Arrival.result? }⟩

/-- Splits declarations into units. -/
def plan (crew : Crew) (graph : ShapeGraph) (ids : List ShapeId) (rules : RuleSet)
    (options : GenerateOptions) : List WorkUnit × Crew :=
  let (units, c) := crew.coordinator.plan graph ids rules options
  (units, { crew with coordinator := c })

/-- Hands out units. -/
def dispatch (crew : Crew) (units : List WorkUnit) : Crew :=
  let (jobs, c) := crew.coordinator.dispatchAll units
  ⟨c, crew.pool.submit jobs⟩

/-- Waits for tasks one after the other. -/
def wait (crew : Crew) (cache : SchemaCache) (tasks : List TaskId) :
    List (Except BatchError UnitOutput) × Crew × SchemaCache :=
  let waited := crew.coordinator.waitAll cache crew.pool.arrivals tasks
  (waited.outcomes, crew.keep waited.coordinator waited.arrivals, waited.cache)

/-- Hands out units and waits for all of them. -/
def run (crew : Crew) (cache : SchemaCache) (units : List WorkUnit) :
    List (Except BatchError UnitOutput) × Crew × SchemaCache :=
  (crew.dispatch units).wait cache (units.map WorkUnit.task)

/-- Lets the workers go on that are held up. -/
def release (crew : Crew) : Crew :=
  { crew with pool := crew.pool.release }

/-- Shuts the coordinator and its pool down. -/
def shutdown (crew : Crew) (cache : SchemaCache) : ShutdownReport × Crew × SchemaCache :=
  let pool := crew.pool.cancel
  let down := crew.coordinator.shutdown cache pool.arrivals pool.ended
  (down.report, keep ⟨crew.coordinator, pool⟩ down.coordinator down.arrivals, down.cache)

end Crew

end Schemata
