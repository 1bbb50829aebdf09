import Schemata.Proofs.Work.Coordinator
import Schemata.Work.Pool

/-!
# Calls of a coordinator

A coordinator is called from one place: to plan units, to hand them out, to wait for tasks, to run
units and to shut down.  While a call lasts, results of workers come in, or nothing does for too
long.  Whatever the calls and the arrivals are, there are six things that can happen to the books
inside a call: a result is taken in, a worker is given up, a unit is generated in process, a task is
cancelled, a task is collected, and the workers are let go.

## Main definitions

* `Call` : a call, with what comes in while it lasts.
* `Desk` : a coordinator with its cache, its units and what the waits gave.
* `Desk.Allows` : the calls that can be made, and what workers can send.
* `Desk.Step` : what can happen inside a call.

## Main results

* `Desk.perform_wait_path`, `Desk.perform_shutdown_path` : waiting and shutting down are steps.
* `Desk.perform_run` : a run hands its units out and then waits for them.
* `Desk.perform_timely` : results of tasks that are not pending change nothing.
-/

namespace Schemata

open Coordinator Relation

/-- A call of a coordinator, with what comes in while it lasts. -/
inductive Call
  | plan (graph : ShapeGraph) (ids : List ShapeId) (rules : RuleSet) (options : GenerateOptions)
  | dispatch (unit : WorkUnit)
  | wait (task : TaskId) (arrivals : List Arrival)
  | run (units : List WorkUnit) (arrivals : List Arrival)
  | shutdown (arrivals : List Arrival) (ended : Nat)

/-- A coordinator with its cache, and what its owner has seen of it. -/
structure Desk where
  coordinator : Coordinator
  cache : SchemaCache
  planned : List WorkUnit := []
  dispatched : List WorkUnit := []
  /-- The tasks that were waited for and what the waits gave, in order. -/
  answers : List (TaskId × Except BatchError UnitOutput) := []

namespace Desk

/-- The desk of a coordinator that was not called yet. -/
def new (c : Coordinator) (cache : SchemaCache) : Desk where
  coordinator := c
  cache := cache

/-- The tasks that there are handles for. -/
def tasks (d : Desk) : List TaskId :=
  d.dispatched.map WorkUnit.task

/-- The desk with other books and another cache. -/
def move (d : Desk) (state : Coordinator × SchemaCache) : Desk :=
  { d with coordinator := state.1, cache := state.2 }

/-- Hands a unit out. -/
def handOut (d : Desk) (unit : WorkUnit) : Desk :=
  { d with
    coordinator := (d.coordinator.dispatch unit).2
    dispatched := d.dispatched ++ [unit] }

/-- Collects a task, and notes what it gave. -/
def collect (d : Desk) (task : TaskId) : Desk :=
  { d with
    coordinator := (d.coordinator.collect task).2
    answers := d.answers ++ [(task, (d.coordinator.collect task).1)] }

/-- Takes over what a number of waits has led to. -/
def answer (d : Desk) (tasks : List TaskId) (w : WaitedAll) : Desk :=
  { d with
    coordinator := w.coordinator
    cache := w.cache
    answers := d.answers ++ tasks.zip w.outcomes }

/-- What a call does. -/
def perform (d : Desk) : Call → Desk
  | .plan graph ids rules options =>
    let (units, c) := d.coordinator.plan graph ids rules options
    { d with coordinator := c, planned := d.planned ++ units }
  | .dispatch unit => d.handOut unit
  | .wait task arrivals =>
    let w := d.coordinator.wait d.cache task arrivals
    { d with
      coordinator := w.coordinator
      cache := w.cache
      answers := d.answers ++ [(task, w.outcome)] }
  | .run units arrivals =>
    { d with dispatched := d.dispatched ++ units }.answer (units.map WorkUnit.task)
      (d.coordinator.run d.cache units fun _ => arrivals)
  | .shutdown arrivals ended =>
    let down := d.coordinator.shutdown d.cache arrivals ended
    d.move (down.coordinator, down.cache)

end Desk

/-! ### What workers send -/

/-- An output of a unit: what it generates, or what a worker makes of the octets of the unit. -/
def WorkUnit.Yields (executor : Executor) (unit : WorkUnit) (output : UnitOutput) : Prop :=
  output = unit.generate ∨ ((jobOf unit).run executor).outcome = .ok output

/-- Workers that generate what they read give no other output, if they can read the unit. -/
theorem WorkUnit.yields_generate_iff {unit : WorkUnit} {output : UnitOutput}
    (readable : WorkUnit.decode? unit.encode = some unit) :
    unit.Yields .generate output ↔ output = unit.generate := by
  have outcome : ((jobOf unit).run .generate).outcome = .ok unit.generate := by
    simp [Job.run, jobOf, readable, Executor.generate]
  rw [Yields, outcome, Except.ok.injEq, eq_comm, eq_comm, or_self]

/-- The executor declines a unit with this task: it answers that the task was cancelled. -/
def Declines (executor : Executor) (units : List WorkUnit) (task : TaskId) : Prop :=
  ∃ unit ∈ units, unit.task = task ∧ ((jobOf unit).run executor).outcome = .error .cancelled

theorem Declines.mono {executor : Executor} {units others : List WorkUnit} {task : TaskId}
    (declines : Declines executor units task) (part : units ⊆ others) :
    Declines executor others task := by
  obtain ⟨unit, listed, same, outcome⟩ := declines
  exact ⟨unit, part listed, same, outcome⟩

/-- What a worker can send: its output is what the executor makes of the unit that was handed out,
and it reports a task as cancelled only if it was told to stop or the executor declines the unit. -/
structure Sent (executor : Executor) (units : List WorkUnit) (stopped : Prop)
    (result : WorkResult) : Prop where
  output : ∀ unit ∈ units, unit.task = result.task → ∀ output, result.outcome = .ok output →
    ((jobOf unit).run executor).outcome = .ok output
  cancelled : result.outcome = .error .cancelled →
    stopped ∨ Declines executor units result.task

/-- All results among the arrivals are sent by workers. -/
def Heard (executor : Executor) (units : List WorkUnit) (stopped : Prop)
    (arrivals : List Arrival) : Prop :=
  ∀ result, .result result ∈ arrivals → Sent executor units stopped result

section Heard

variable {executor : Executor} {units : List WorkUnit} {stopped : Prop}
  {arrivals rest : List Arrival}

/-- A worker that failed says nothing about outputs. -/
theorem sent_error (task : TaskId) {error : WorkerError} (right : error = .cancelled → stopped) :
    Sent executor units stopped ⟨task, .error error⟩ where
  output _ _ _ _ outcome := by cases outcome
  cancelled outcome := Or.inl (right (Except.error.inj outcome))

/-- A worker that does its job sends what the executor makes of the unit. -/
theorem sent_run (distinct : (units.map WorkUnit.task).Nodup) {unit : WorkUnit}
    (listed : unit ∈ units) : Sent executor units stopped ((jobOf unit).run executor) := by
  have task : ((jobOf unit).run executor).task = unit.task := by
    unfold Job.run
    split <;> rfl
  refine ⟨fun other member same output outcome => ?_, fun outcome => ?_⟩
  · obtain rfl : other = unit := List.inj_on_of_nodup_map distinct member listed (same.trans task)
    exact outcome
  · exact Or.inr ⟨unit, listed, task.symm, outcome⟩

theorem heard_nil : Heard executor units stopped [] :=
  fun _ member => absurd member List.not_mem_nil

theorem Heard.cons_result {result : WorkResult}
    (heard : Heard executor units stopped rest) (sent : Sent executor units stopped result) :
    Heard executor units stopped (.result result :: rest) := by
  intro other member
  rcases List.mem_cons.mp member with same | member
  · rwa [Arrival.result.inj same]
  · exact heard other member

theorem Heard.cons_silence (heard : Heard executor units stopped rest) :
    Heard executor units stopped (.silence :: rest) :=
  fun result member => heard result ((List.mem_cons.mp member).resolve_left (by simp))

theorem Heard.subset (heard : Heard executor units stopped arrivals) (subset : rest ⊆ arrivals) :
    Heard executor units stopped rest :=
  fun result member => heard result (subset member)

end Heard

/-! ### Single operations -/

namespace Coordinator

variable {c : Coordinator} {cache : SchemaCache} {task : TaskId}

theorem merge_of_not_pending {result : WorkResult}
    (absent : c.pending.get? result.task = none) : c.merge cache result = (c, cache) := by
  rw [merge, OrderedMap.contains_eq_isSome, absent]
  rfl

/-- Collecting a task gives what it is settled with, and takes it from the books. -/
theorem collect_eq (c : Coordinator) (task : TaskId) :
    c.collect task = ((c.resolved.get? task).getD (.error (.unknownTask task)),
      { c with resolved := c.resolved.erase task }) := by
  unfold Coordinator.collect
  cases found : c.resolved.get? task with
  | some outcome => rfl
  | none => simp [OrderedMap.erase_eq_self found]

/-- A worker has a task. -/
def Busy (c : Coordinator) : Prop :=
  ∃ task pending, c.pending.get? task = some pending ∧ pending.inWorker

theorem busy_iff : c.pending.values.any PendingTask.inWorker ↔ c.Busy := by
  simp only [List.any_eq_true, OrderedMap.values, List.mem_map, Busy, OrderedMap.get?_eq_some_iff]
  constructor
  · rintro ⟨pending, ⟨⟨task, pending⟩, listed, rfl⟩, manned⟩
    exact ⟨task, pending, listed, manned⟩
  · rintro ⟨task, pending, listed, manned⟩
    exact ⟨pending, ⟨(task, pending), listed, rfl⟩, manned⟩

theorem manned_of_awaitsWorker (waits : c.awaitsWorker task) :
    ∃ pending, c.pending.get? task = some pending ∧ pending.inWorker := by
  simp only [awaitsWorker, Bool.and_eq_true, Option.any_eq_true] at waits
  exact waits.2

/-- A wait for a task that no worker has looks at no arrivals. -/
theorem wait_of_not_awaitsWorker (present : ¬ c.awaitsWorker task) (arrivals : List Arrival) :
    c.wait cache task arrivals = c.conclude cache task arrivals := by
  cases arrivals with
  | nil => rw [wait, if_neg present]
  | cons arrival rest => cases arrival <;> rw [wait, if_neg present]

theorem arrivals_wait_subset (arrivals : List Arrival) :
    (c.wait cache task arrivals).arrivals ⊆ arrivals := by
  induction arrivals generalizing c cache with
  | nil =>
    rw [wait]
    split
    · exact List.Subset.refl _
    · unfold conclude
      split <;> exact List.Subset.refl _
  | cons arrival rest ih =>
    by_cases waits : c.awaitsWorker task
    · cases arrival with
      | silence =>
        rw [wait, if_pos waits]
        exact List.subset_cons_self _ _
      | result result =>
        rw [wait, if_pos waits]
        exact List.subset_cons_of_subset _ ih
    · rw [wait_of_not_awaitsWorker waits]
      unfold conclude
      split <;> exact List.Subset.refl _

theorem parallel_dispatchAll (c : Coordinator) (units : List WorkUnit) :
    (c.dispatchAll units).2.parallel = c.parallel := by
  induction units generalizing c with
  | nil => rfl
  | cons unit rest ih => exact ih (c.dispatch unit).2

theorem resolved_dispatchAll (c : Coordinator) (units : List WorkUnit) :
    (c.dispatchAll units).2.resolved = c.resolved := by
  induction units generalizing c with
  | nil => rfl
  | cons unit rest ih => exact ih (c.dispatch unit).2

theorem get?_pending_cancel (c : Coordinator) (task other : TaskId) :
    (c.cancel task).pending.get? other =
      if other = task then none else c.pending.get? other :=
  OrderedMap.get?_erase ..

theorem get?_pending_cancelAll (tasks : List TaskId) (c : Coordinator) (other : TaskId) :
    (tasks.foldl Coordinator.cancel c).pending.get? other =
      if other ∈ tasks then none else c.pending.get? other := by
  induction tasks generalizing c with
  | nil => simp
  | cons task rest ih =>
    rw [List.foldl_cons, ih, get?_pending_cancel]
    by_cases same : other = task <;> simp [same]

end Coordinator

namespace Desk

/-- The calls that can be made: the numbers of tasks do not run out, every unit that was planned is
handed out once, one waits for tasks that there is a handle for, and the arrivals are what workers
send. -/
def Allows (executor : Executor) (d : Desk) : Call → Prop
  | .plan _ ids _ _ => d.coordinator.lastTask.toNat + ids.length < UInt64.size
  | .dispatch unit => unit ∈ d.planned ∧ unit ∉ d.dispatched
  | .wait task arrivals =>
    task ∈ d.tasks ∧ Heard executor d.dispatched (d.coordinator.parallel = false) arrivals
  | .run units arrivals =>
    units.Nodup ∧ (∀ unit ∈ units, unit ∈ d.planned ∧ unit ∉ d.dispatched) ∧
      Heard executor (d.dispatched ++ units) (d.coordinator.parallel = false) arrivals
  | .shutdown arrivals _ => Heard executor d.dispatched True arrivals

/-! ### Steps -/

/-- What can happen inside a call.  Results are taken in as long as a worker has a task, only
workers are given up, and only what no worker has is generated in process.  The coordinator cancels
tasks and lets workers go only if it is stopping. -/
inductive Step (executor : Executor) (stopping : Prop) (d : Desk) : Desk → Prop
  | deliver {result : WorkResult} {pending : PendingTask}
      (found : d.coordinator.pending.get? result.task = some pending)
      (sent : Sent executor d.dispatched stopping result) (busy : d.coordinator.Busy) :
      Step executor stopping d (d.move (d.coordinator.merge d.cache result))
  | giveUp {task : TaskId} {pending : PendingTask}
      (found : d.coordinator.pending.get? task = some pending) (manned : pending.inWorker) :
      Step executor stopping d (d.move (d.coordinator.giveUp d.cache task))
  | runInProcess {task : TaskId} {pending : PendingTask}
      (found : d.coordinator.pending.get? task = some pending) (unmanned : ¬ pending.inWorker) :
      Step executor stopping d (d.move (d.coordinator.runInProcess d.cache task))
  | cancel {task : TaskId} {pending : PendingTask}
      (found : d.coordinator.pending.get? task = some pending) (stops : stopping) :
      Step executor stopping d (d.move (d.coordinator.cancel task, d.cache))
  | collect {task : TaskId} (listed : task ∈ d.tasks)
      (done : d.coordinator.pending.get? task = none ∨
        (d.coordinator.resolved.get? task).isSome) :
      Step executor stopping d (d.collect task)
  | close (stops : stopping) (empty : ∀ task, d.coordinator.pending.get? task = none) :
      Step executor stopping d (d.move ({ d.coordinator with parallel := false }, d.cache))

/-- A number of steps. -/
def Path (executor : Executor) (stopping : Prop) : Desk → Desk → Prop :=
  ReflTransGen (Step executor stopping)

variable {executor : Executor} {stopping : Prop} {d d' : Desk} {task : TaskId}
  {arrivals rest : List Arrival}

/-- What a step does to the books: a pending task is settled with an output of its unit, or it is
cancelled because the coordinator is stopping or the executor declines the unit, a task is
collected, or the workers are let go. -/
inductive Effect (executor : Executor) (stopping : Prop) (d : Desk) : Desk → Prop
  | settle {task : TaskId} {pending : PendingTask} {output : UnitOutput}
      {state : Coordinator × SchemaCache}
      (found : d.coordinator.pending.get? task = some pending)
      (yields : pending.unit ∈ d.dispatched → pending.unit.task = task →
        pending.unit.Yields executor output)
      (settled : Settled d.coordinator d.cache task (.ok output) state) :
      Effect executor stopping d (d.move state)
  | cancel {task : TaskId} {pending : PendingTask}
      (found : d.coordinator.pending.get? task = some pending)
      (cause : stopping ∨ Declines executor d.dispatched task) :
      Effect executor stopping d (d.move (d.coordinator.cancel task, d.cache))
  | collect {task : TaskId} (listed : task ∈ d.tasks)
      (done : d.coordinator.pending.get? task = none ∨
        (d.coordinator.resolved.get? task).isSome) :
      Effect executor stopping d (d.collect task)
  | close (stops : stopping) (empty : ∀ task, d.coordinator.pending.get? task = none) :
      Effect executor stopping d (d.move ({ d.coordinator with parallel := false }, d.cache))

theorem Step.effect (step : Step executor stopping d d') : Effect executor stopping d d' := by
  cases step with
  | @deliver result pending found sent busy =>
    have known : d.coordinator.pending.contains result.task := by
      rw [OrderedMap.contains_eq_isSome, found]
      rfl
    cases outcome : result.outcome with
    | ok output =>
      have settled : Settled d.coordinator d.cache result.task (.ok output)
          (d.coordinator.merge d.cache result) := by
        rw [merge, if_pos known, outcome]
        exact ⟨rfl, rfl, ⟨rfl, rfl⟩, rfl⟩
      exact .settle found
        (fun listed same => Or.inr (sent.output _ listed same output outcome)) settled
    | error error =>
      cases error with
      | cancelled =>
        rw [merge, if_pos known, outcome]
        exact .cancel found (sent.cancelled outcome)
      | _ =>
        refine .settle found (fun _ _ => Or.inl rfl) ?_
        rw [merge, if_pos known, outcome]
        exact fallBack_settled found _
  | giveUp found manned => exact .settle found (fun _ _ => Or.inl rfl) (giveUp_settled found)
  | runInProcess found unmanned =>
    exact .settle found (fun _ _ => Or.inl rfl) (runInProcess_settled found)
  | cancel found stops => exact .cancel found (Or.inl stops)
  | collect listed done => exact .collect listed done
  | close stops empty => exact .close stops empty

theorem coordinator_collect (d : Desk) (task : TaskId) :
    (d.collect task).coordinator =
      { d.coordinator with resolved := d.coordinator.resolved.erase task } :=
  congrArg Prod.snd (collect_eq d.coordinator task)

theorem answers_collect (d : Desk) (task : TaskId) :
    (d.collect task).answers = d.answers ++
      [(task, (d.coordinator.resolved.get? task).getD (.error (.unknownTask task)))] := by
  rw [collect, collect_eq]

/-- No step plans or hands out units, or numbers tasks. -/
structure SameUnits (d d' : Desk) : Prop where
  planned : d'.planned = d.planned
  dispatched : d'.dispatched = d.dispatched
  lastTask : d'.coordinator.lastTask = d.coordinator.lastTask

theorem sameUnits_move {state : Coordinator × SchemaCache}
    (same : state.1.lastTask = d.coordinator.lastTask) : SameUnits d (d.move state) :=
  ⟨rfl, rfl, same⟩

theorem sameUnits_collect (d : Desk) (task : TaskId) : SameUnits d (d.collect task) :=
  ⟨rfl, rfl, by rw [coordinator_collect]⟩

theorem Effect.sameUnits (effect : Effect executor stopping d d') : SameUnits d d' := by
  cases effect with
  | settle found yields settled => exact sameUnits_move settled.alike.lastTask
  | cancel found cause => exact sameUnits_move rfl
  | collect listed done => exact sameUnits_collect d _
  | close stops empty => exact sameUnits_move rfl

/-- No step makes a task pending. -/
theorem Effect.pending (effect : Effect executor stopping d d') {pending : PendingTask}
    (h : d'.coordinator.pending.get? task = some pending) :
    d.coordinator.pending.get? task = some pending := by
  cases effect with
  | settle found yields settled =>
    simp only [move, settled.pending, OrderedMap.get?_erase] at h
    split at h
    · cases h
    · exact h
  | cancel found cause =>
    simp only [move, Coordinator.cancel, OrderedMap.get?_erase] at h
    split at h
    · cases h
    · exact h
  | collect listed done => rwa [coordinator_collect] at h
  | close stops empty => exact h

/-- As long as the coordinator is not stopping, its workers stay. -/
theorem Effect.parallel (effect : Effect executor False d d') :
    d'.coordinator.parallel = d.coordinator.parallel := by
  cases effect with
  | settle found yields settled => exact settled.alike.parallel
  | cancel found cause => rfl
  | collect listed done => rw [coordinator_collect]
  | close stops empty => exact stops.elim

theorem SameUnits.trans {d'' : Desk} (first : SameUnits d d') (second : SameUnits d' d'') :
    SameUnits d d'' :=
  ⟨second.planned.trans first.planned, second.dispatched.trans first.dispatched,
    second.lastTask.trans first.lastTask⟩

theorem Path.sameUnits (path : Path executor stopping d d') : SameUnits d d' := by
  induction path with
  | refl => exact ⟨rfl, rfl, rfl⟩
  | tail _ step ih => exact ih.trans step.effect.sameUnits

theorem Path.pending (path : Path executor stopping d d') {pending : PendingTask}
    (h : d'.coordinator.pending.get? task = some pending) :
    d.coordinator.pending.get? task = some pending := by
  induction path with
  | refl => exact h
  | tail _ step ih => exact ih (step.effect.pending h)

theorem Path.parallel (path : Path executor False d d') :
    d'.coordinator.parallel = d.coordinator.parallel := by
  induction path with
  | refl => rfl
  | tail _ step ih => exact step.effect.parallel.trans ih

/-- Workers have tasks only as long as there are workers. -/
def Staffed (d : Desk) : Prop :=
  ∀ task pending, d.coordinator.pending.get? task = some pending → pending.inWorker →
    d.coordinator.parallel

theorem Staffed.path (staffed : d.Staffed) (path : Path executor False d d') : d'.Staffed :=
  fun task pending found inWorker =>
    path.parallel ▸ staffed task pending (path.pending found) inWorker

/-! ### Waiting -/

theorem deliver_path {result : WorkResult} (sent : Sent executor d.dispatched stopping result)
    (busy : d.coordinator.Busy) :
    Path executor stopping d (d.move (d.coordinator.merge d.cache result)) := by
  cases found : d.coordinator.pending.get? result.task with
  | none =>
    rw [merge_of_not_pending found]
    exact .refl
  | some pending => exact .single (.deliver found sent busy)

/-- The desk after a wait that ends in a state of the books. -/
theorem perform_wait_of_finish {state : Coordinator × SchemaCache}
    (h : d.coordinator.wait d.cache task arrivals = finish task rest state) :
    d.perform (.wait task arrivals) = (d.move state).collect task := by
  simp only [perform, h]
  rfl

/-- The end of a wait for a task that no worker has. -/
theorem conclude_path (listed : task ∈ d.tasks) (present : ¬ d.coordinator.awaitsWorker task)
    (h : d.coordinator.wait d.cache task arrivals = d.coordinator.conclude d.cache task rest) :
    Path executor stopping d (d.perform (.wait task arrivals)) := by
  unfold conclude at h
  split at h
  · rename_i settled
    rw [OrderedMap.contains_eq_isSome] at settled
    rw [perform_wait_of_finish h]
    exact .single (.collect listed (Or.inr settled))
  · rename_i unsettled
    rw [perform_wait_of_finish h]
    cases found : d.coordinator.pending.get? task with
    | none =>
      have same : d.coordinator.runInProcess d.cache task = (d.coordinator, d.cache) := by
        simp [Coordinator.runInProcess, found]
      rw [same]
      exact .single (.collect listed (Or.inl found))
    | some pending =>
      have unmanned : ¬ pending.inWorker := by
        simpa [awaitsWorker, unsettled, found] using present
      refine .tail (.single (.runInProcess found unmanned)) (.collect listed (Or.inl ?_))
      exact (congrArg (·.get? task) (runInProcess_settled found).pending).trans
        (OrderedMap.get?_erase_self ..)

/-- The end of a wait for a worker that is too slow. -/
theorem giveUp_path (listed : task ∈ d.tasks) (waits : d.coordinator.awaitsWorker task)
    (h : d.coordinator.wait d.cache task arrivals =
      finish task rest (d.coordinator.giveUp d.cache task)) :
    Path executor stopping d (d.perform (.wait task arrivals)) := by
  obtain ⟨pending, found, manned⟩ := manned_of_awaitsWorker waits
  rw [perform_wait_of_finish h]
  refine .tail (.single (.giveUp found manned)) (.collect listed (Or.inl ?_))
  exact (congrArg (·.get? task) (giveUp_settled found).pending).trans
    (OrderedMap.get?_erase_self ..)

theorem perform_wait_path (listed : task ∈ d.tasks)
    (heard : Heard executor d.dispatched stopping arrivals) :
    Path executor stopping d (d.perform (.wait task arrivals)) := by
  induction arrivals generalizing d with
  | nil =>
    by_cases waits : d.coordinator.awaitsWorker task
    · exact giveUp_path listed waits (by rw [wait, if_pos waits])
    · exact conclude_path listed waits (wait_of_not_awaitsWorker waits _)
  | cons arrival rest ih =>
    by_cases waits : d.coordinator.awaitsWorker task
    · cases arrival with
      | silence => exact giveUp_path listed waits (by rw [wait, if_pos waits])
      | result result =>
        -- The rest of the wait is a wait at the desk that the result leaves.
        have delivered : Path executor stopping d _ :=
          deliver_path (heard result List.mem_cons_self) ⟨task, manned_of_awaitsWorker waits⟩
        have later : Path executor stopping (d.move (d.coordinator.merge d.cache result)) _ :=
          ih listed (heard.subset (List.subset_cons_self _ _))
        have same : d.perform (.wait task (.result result :: rest)) =
            (d.move (d.coordinator.merge d.cache result)).perform (.wait task rest) := by
          simp only [perform, wait, waits, if_true]
          rfl
        rw [same]
        exact delivered.trans later
    · exact conclude_path listed waits (wait_of_not_awaitsWorker waits _)

/-- Nobody is told to stop while there are workers, and without workers no arrivals are looked at,
so the steps of a wait are those of a coordinator that is not stopping. -/
theorem Staffed.wait_path (staffed : d.Staffed) (listed : task ∈ d.tasks)
    (heard : Heard executor d.dispatched (d.coordinator.parallel = false) arrivals) :
    Path executor False d (d.perform (.wait task arrivals)) := by
  cases parallel : d.coordinator.parallel with
  | true =>
    refine perform_wait_path listed fun result member => ?_
    have sent := heard result member
    refine ⟨sent.output, fun outcome => Or.inr ((sent.cancelled outcome).resolve_left ?_)⟩
    rw [parallel]
    nofun
  | false =>
    have present : ¬ d.coordinator.awaitsWorker task := by
      intro waits
      obtain ⟨pending, found, inWorker⟩ := manned_of_awaitsWorker waits
      have kept := staffed task pending found inWorker
      rw [parallel] at kept
      cases kept
    exact conclude_path listed present (wait_of_not_awaitsWorker present arrivals)

/-! ### Runs -/

theorem foldl_handOut (d : Desk) (units : List WorkUnit) :
    units.foldl handOut d =
      { d with
        coordinator := (d.coordinator.dispatchAll units).2
        dispatched := d.dispatched ++ units } := by
  induction units generalizing d with
  | nil => simp [dispatchAll]
  | cons unit rest ih => simp [ih, handOut, dispatchAll]

/-- A run hands its units out and then waits for them, one after the other. -/
theorem perform_run (d : Desk) (units : List WorkUnit) (arrivals : List Arrival) :
    d.perform (.run units arrivals) =
      let handed := units.foldl handOut d
      handed.answer (units.map WorkUnit.task)
        (handed.coordinator.waitAll handed.cache arrivals (units.map WorkUnit.task)) := by
  rw [foldl_handOut]
  rfl

theorem answer_waitAll_cons (d : Desk) (task : TaskId) (rest : List TaskId)
    (arrivals : List Arrival) :
    d.answer (task :: rest) (d.coordinator.waitAll d.cache arrivals (task :: rest)) =
      let first := d.perform (.wait task arrivals)
      first.answer rest (first.coordinator.waitAll first.cache
        (d.coordinator.wait d.cache task arrivals).arrivals rest) := by
  simp [answer, perform, waitAll]

theorem Staffed.waitAll_path (staffed : d.Staffed) {tasks : List TaskId}
    (listed : ∀ task ∈ tasks, task ∈ d.tasks)
    (heard : Heard executor d.dispatched (d.coordinator.parallel = false) arrivals) :
    Path executor False d (d.answer tasks (d.coordinator.waitAll d.cache arrivals tasks)) := by
  induction tasks generalizing d arrivals with
  | nil =>
    have same : d.answer [] (d.coordinator.waitAll d.cache arrivals []) = d := by
      simp [answer, waitAll]
    rw [same]
    exact .refl
  | cons task rest ih =>
    have first : Path executor False d (d.perform (.wait task arrivals)) :=
      staffed.wait_path (listed task List.mem_cons_self) heard
    rw [answer_waitAll_cons]
    refine first.trans (ih (staffed.path first) (fun other member => ?_) ?_)
    · rw [tasks, first.sameUnits.dispatched]
      exact listed other (List.mem_cons_of_mem _ member)
    · rw [first.sameUnits.dispatched, first.parallel]
      exact heard.subset (arrivals_wait_subset arrivals)

/-! ### Shutting down -/

theorem drain_path (heard : Heard executor d.dispatched stopping arrivals) :
    Path executor stopping d
      (d.move ((d.coordinator.drain d.cache arrivals).1,
        (d.coordinator.drain d.cache arrivals).2.1)) := by
  induction arrivals generalizing d with
  | nil => exact .refl
  | cons arrival rest ih =>
    by_cases busy : d.coordinator.pending.values.any PendingTask.inWorker
    · cases arrival with
      | silence =>
        rw [drain, if_pos busy]
        exact .refl
      | result result =>
        have delivered : Path executor stopping d _ :=
          deliver_path (heard result List.mem_cons_self) (busy_iff.mp busy)
        have later : Path executor stopping (d.move (d.coordinator.merge d.cache result)) _ :=
          ih (heard.subset (List.subset_cons_self _ _))
        rw [drain, if_pos busy]
        exact delivered.trans later
    · rw [drain.eq_def]
      simp only [busy]
      exact .refl

theorem cancelAll_path (stops : stopping) {tasks : List TaskId} (distinct : tasks.Nodup)
    (pending : ∀ task ∈ tasks, (d.coordinator.pending.get? task).isSome) :
    Path executor stopping d
      (d.move (tasks.foldl Coordinator.cancel d.coordinator, d.cache)) := by
  induction tasks generalizing d with
  | nil => exact .refl
  | cons task rest ih =>
    obtain ⟨new, distinct⟩ := List.nodup_cons.mp distinct
    obtain ⟨found, hfound⟩ := Option.isSome_iff_exists.mp (pending task List.mem_cons_self)
    have later : Path executor stopping (d.move (d.coordinator.cancel task, d.cache))
        (d.move (rest.foldl Coordinator.cancel (d.coordinator.cancel task), d.cache)) := by
      refine ih distinct fun other member => ?_
      have apart : other ≠ task := fun same => new (same ▸ member)
      change (((d.coordinator.cancel task).pending.get? other).isSome)
      rw [get?_pending_cancel, if_neg apart]
      exact pending other (List.mem_cons_of_mem _ member)
    exact .head (.cancel hfound stops) later

theorem perform_shutdown_path (stops : stopping) (ended : Nat)
    (heard : Heard executor d.dispatched stopping arrivals) :
    Path executor stopping d (d.perform (.shutdown arrivals ended)) := by
  rcases drained : d.coordinator.drain d.cache arrivals with ⟨c, cache, rest⟩
  have first : Path executor stopping d (d.move (c, cache)) := by
    have path : Path executor stopping d _ := drain_path heard
    rwa [drained] at path
  have cancelled : Path executor stopping (d.move (c, cache))
      (d.move (c.pending.keys.foldl Coordinator.cancel c, cache)) :=
    cancelAll_path stops c.pending.nodup fun task member => c.pending.isSome_get?_iff.mpr member
  have empty : ∀ task, (c.pending.keys.foldl Coordinator.cancel c).pending.get? task = none := by
    intro task
    rw [get?_pending_cancelAll]
    split
    · rfl
    · rename_i absent
      exact c.pending.get?_eq_none_iff.mpr absent
  have same : d.perform (.shutdown arrivals ended) =
      d.move ({ c.pending.keys.foldl Coordinator.cancel c with parallel := false }, cache) := by
    simp only [perform, shutdown, drained]
  rw [same]
  exact (first.trans cancelled).tail (.close stops empty)

end Desk

/-! ### Late results -/

namespace Coordinator

/-- A test of arrivals that turns down results only of tasks that are not pending. -/
structure Discards (c : Coordinator) (keep : Arrival → Bool) : Prop where
  silence : keep .silence = true
  late : ∀ result, keep (.result result) = false → c.pending.get? result.task = none

variable {c c' : Coordinator} {keep : Arrival → Bool} {cache : SchemaCache} {task other : TaskId}
  {arrivals : List Arrival}

theorem Discards.mono (discards : c.Discards keep)
    (mono : ∀ task, c.pending.get? task = none → c'.pending.get? task = none) : c'.Discards keep :=
  ⟨discards.silence, fun result late => mono _ (discards.late result late)⟩

theorem get?_pending_of_erase
    (erased : c'.pending = c.pending.erase task ∨ c'.pending = c.pending)
    (absent : c.pending.get? other = none) : c'.pending.get? other = none := by
  rcases erased with erased | same
  · rw [erased, OrderedMap.get?_erase, absent, ite_self]
  · rw [same, absent]

theorem pending_merge (c : Coordinator) (cache : SchemaCache) (result : WorkResult) :
    (c.merge cache result).1.pending = c.pending.erase result.task ∨
      (c.merge cache result).1.pending = c.pending := by
  cases found : c.pending.get? result.task with
  | none => exact Or.inr (by rw [merge_of_not_pending found])
  | some pending =>
    left
    rw [merge, OrderedMap.contains_eq_isSome, found, Option.isSome_some, if_pos rfl]
    cases result.outcome with
    | ok output => rfl
    | error error =>
      cases error with
      | cancelled => rfl
      | _ => exact (fallBack_settled found _).pending

theorem pending_conclude (c : Coordinator) (cache : SchemaCache) (task : TaskId)
    (arrivals : List Arrival) :
    (c.conclude cache task arrivals).coordinator.pending = c.pending.erase task ∨
      (c.conclude cache task arrivals).coordinator.pending = c.pending := by
  unfold conclude
  split
  · exact Or.inr (by simp [finish, collect_eq])
  · cases found : c.pending.get? task with
    | none => exact Or.inr (by simp [finish, collect_eq, runInProcess, found])
    | some pending =>
      exact Or.inl (by simpa [finish, collect_eq] using (runInProcess_settled found).pending)

theorem pending_finish_giveUp (waits : c.awaitsWorker task) (rest : List Arrival) :
    (finish task rest (c.giveUp cache task)).coordinator.pending = c.pending.erase task := by
  obtain ⟨pending, found⟩ := pending_of_awaitsWorker waits
  simpa [finish, collect_eq] using (giveUp_settled found).pending

theorem get?_pending_wait (absent : c.pending.get? other = none) :
    (c.wait cache task arrivals).coordinator.pending.get? other = none := by
  induction arrivals generalizing c cache with
  | nil =>
    by_cases waits : c.awaitsWorker task
    · rw [wait, if_pos waits]
      exact get?_pending_of_erase (Or.inl (pending_finish_giveUp waits [])) absent
    · rw [wait_of_not_awaitsWorker waits]
      exact get?_pending_of_erase (pending_conclude c cache task []) absent
  | cons arrival rest ih =>
    by_cases waits : c.awaitsWorker task
    · cases arrival with
      | silence =>
        rw [wait, if_pos waits]
        exact get?_pending_of_erase (Or.inl (pending_finish_giveUp waits rest)) absent
      | result result =>
        rw [wait, if_pos waits]
        exact ih (get?_pending_of_erase (pending_merge c cache result) absent)
    · rw [wait_of_not_awaitsWorker waits]
      exact get?_pending_of_erase (pending_conclude c cache task _) absent

/-- A wait comes to the same if results of tasks that are not pending are left out. -/
theorem wait_filter (discards : c.Discards keep) :
    c.wait cache task (arrivals.filter keep) =
      { c.wait cache task arrivals with
        arrivals := (c.wait cache task arrivals).arrivals.filter keep } := by
  induction arrivals generalizing c cache with
  | nil =>
    have none : (c.wait cache task []).arrivals = [] :=
      List.subset_nil.mp (arrivals_wait_subset [])
    rw [List.filter_nil]
    generalize c.wait cache task [] = w at none ⊢
    obtain ⟨outcome, coordinator, cache, arrivals⟩ := w
    cases none
    rfl
  | cons arrival rest ih =>
    by_cases waits : c.awaitsWorker task
    · cases arrival with
      | silence =>
        rw [List.filter_cons_of_pos discards.silence, wait, wait, if_pos waits, if_pos waits]
        rfl
      | result result =>
        have later : (c.merge cache result).1.Discards keep :=
          discards.mono fun _ => get?_pending_of_erase (pending_merge c cache result)
        have whole : c.wait cache task (.result result :: rest) =
            (c.merge cache result).1.wait (c.merge cache result).2 task rest := by
          rw [wait, if_pos waits]
        rw [whole]
        cases kept : keep (.result result) with
        | true =>
          rw [List.filter_cons_of_pos kept, wait, if_pos waits]
          exact ih later
        | false =>
          rw [List.filter_cons_of_neg (by simp [kept]),
            merge_of_not_pending (discards.late result kept)]
          exact ih discards
    · rw [wait_of_not_awaitsWorker waits, wait_of_not_awaitsWorker waits]
      unfold conclude
      split <;> rfl

theorem waitAll_filter {tasks : List TaskId} (discards : c.Discards keep) :
    c.waitAll cache (arrivals.filter keep) tasks =
      { c.waitAll cache arrivals tasks with
        arrivals := (c.waitAll cache arrivals tasks).arrivals.filter keep } := by
  induction tasks generalizing c cache arrivals with
  | nil => rfl
  | cons task rest ih =>
    have later : (c.wait cache task arrivals).coordinator.Discards keep :=
      discards.mono fun _ => get?_pending_wait
    simp only [waitAll, wait_filter discards, ih later]

theorem drain_filter (discards : c.Discards keep) :
    c.drain cache (arrivals.filter keep) =
      ((c.drain cache arrivals).1, (c.drain cache arrivals).2.1,
        (c.drain cache arrivals).2.2.filter keep) := by
  induction arrivals generalizing c cache with
  | nil => rfl
  | cons arrival rest ih =>
    by_cases busy : c.pending.values.any PendingTask.inWorker
    · cases arrival with
      | silence =>
        rw [List.filter_cons_of_pos discards.silence, drain, drain, if_pos busy, if_pos busy]
      | result result =>
        have later : (c.merge cache result).1.Discards keep :=
          discards.mono fun _ => get?_pending_of_erase (pending_merge c cache result)
        have whole : c.drain cache (.result result :: rest) =
            (c.merge cache result).1.drain (c.merge cache result).2 rest := by
          rw [drain, if_pos busy]
        rw [whole]
        cases kept : keep (.result result) with
        | true =>
          rw [List.filter_cons_of_pos kept, drain, if_pos busy]
          exact ih later
        | false =>
          rw [List.filter_cons_of_neg (by simp [kept]),
            merge_of_not_pending (discards.late result kept)]
          exact ih discards
    · have stop (arrivals : List Arrival) : c.drain cache arrivals = (c, cache, arrivals) := by
        cases arrivals with
        | nil => rfl
        | cons arrival rest => cases arrival <;> rw [drain, if_neg busy]
      rw [stop, stop]

/-- A silence, or the result of a task that is pending. -/
def isTimely (c : Coordinator) : Arrival → Bool
  | .silence => true
  | .result result => c.pending.contains result.task

theorem discards_isTimely (c : Coordinator) : c.Discards c.isTimely := by
  refine ⟨rfl, fun result late => ?_⟩
  rw [isTimely, OrderedMap.contains_eq_isSome] at late
  simpa using late

end Coordinator

/-- The call without the results of tasks that are not pending, or in the case of a run, not pending
once its units are handed out. -/
def Call.timely (d : Desk) : Call → Call
  | .wait task arrivals => .wait task (arrivals.filter d.coordinator.isTimely)
  | .run units arrivals =>
    .run units (arrivals.filter (d.coordinator.dispatchAll units).2.isTimely)
  | .shutdown arrivals ended => .shutdown (arrivals.filter d.coordinator.isTimely) ended
  | call => call

/-- Results of tasks that are not pending change nothing. -/
theorem Desk.perform_timely (d : Desk) (call : Call) :
    d.perform (call.timely d) = d.perform call := by
  cases call with
  | plan graph ids rules options => rfl
  | dispatch unit => rfl
  | wait task arrivals =>
    simp only [Call.timely, perform, wait_filter (discards_isTimely _)]
  | run units arrivals =>
    simp only [Call.timely, perform, run, waitAll_filter (discards_isTimely _), answer]
  | shutdown arrivals ended =>
    simp only [Call.timely, perform, shutdown, drain_filter (discards_isTimely _), move]

end Schemata
