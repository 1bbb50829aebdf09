import Schemata.Proofs.Work.Settlement

/-!
# The accounts of a coordinator

Every unit that is handed out is counted once.  It is pending, or it was completed by a worker, or
generated in process after a worker failed, or cancelled, or it was handed out when there were no
workers and was generated in process when somebody waited for it.

What makes the sum come out is that the pending tasks are all of one kind: with workers as long as
there are any, and without afterwards, since a shutdown leaves nothing pending.  So no worker has
what is generated in process without a report, and nobody sends results for it.

## Main definitions

* `Coordinator.Even` : the counters agree with each other.
* `Desk.outcome?` : what a task was settled with, whether it was collected or not.
* `Desk.unstaffed` : the tasks that were handed out while there were no workers.
* `Desk.Balanced` : what keeps the accounts right, step after step.

## Main results

* `Desk.Balanced.path`, `Desk.Balanced.perform` : steps and calls keep the accounts right.
* `Desk.accounted_performAll` : whatever calls are made and whatever comes in, the accounts are
  right.
* `Desk.cancelled_counted_without_shutdown` : what an executor cancels on its own is counted too.
-/

namespace Schemata

/-! ### The counters -/

namespace Coordinator

/-- A coordinator that was not called yet, with workers or without. -/
structure Unused (c : Coordinator) : Prop where
  idle : c.Idle
  stats : c.stats = {}
  diagnostics : c.diagnostics = []

/-- The counters of a coordinator that has generated `own` units of its own accord: no worker was to
do them. -/
structure Even (own : Nat) (c : Coordinator) : Prop where
  dispatched : c.stats.dispatched = c.pending.size + c.stats.completedInWorker
    + c.stats.fallbacks + c.stats.cancelled + own
  reported : c.diagnostics.length = c.stats.fallbacks
  timeouts : c.stats.timeouts ≤ c.stats.fallbacks

namespace Even

variable {own : Nat} {c : Coordinator} {cache : SchemaCache} {task : TaskId}
  {pending : PendingTask}

theorem runInProcess (even : c.Even own) (found : c.pending.get? task = some pending) :
    (c.runInProcess cache task).1.Even (own + 1) := by
  have size := OrderedMap.size_erase found
  have sum := even.dispatched
  unfold Coordinator.runInProcess
  rw [found]
  refine ⟨?_, even.reported, even.timeouts⟩
  simp only [commit]
  omega

/-- A worker that did not do its task is reported once; `late` says whether it was too slow. -/
theorem fallBack (even : c.Even own) (found : c.pending.get? task = some pending)
    (error : WorkerError) {late : Nat} (once : late ≤ 1) :
    (({ c with stats := { c.stats with timeouts := c.stats.timeouts + late } }).fallBack cache task
      error).1.Even own := by
  have size := OrderedMap.size_erase found
  have sum := even.dispatched
  have reported := even.reported
  have timeouts := even.timeouts
  unfold Coordinator.fallBack Coordinator.runInProcess
  simp only [reportFallback, found, commit]
  refine ⟨?_, ?_, ?_⟩
  · dsimp only
    omega
  · simp [reported]
  · dsimp only
    omega

theorem giveUp (even : c.Even own) (found : c.pending.get? task = some pending) :
    (c.giveUp cache task).1.Even own :=
  even.fallBack found _ (Nat.le_refl 1)

theorem cancel (even : c.Even own) (found : c.pending.get? task = some pending) :
    (c.cancel task).Even own := by
  have size := OrderedMap.size_erase found
  have sum := even.dispatched
  refine ⟨?_, even.reported, even.timeouts⟩
  simp only [Coordinator.cancel]
  omega

theorem merge (even : c.Even own) {result : WorkResult}
    (found : c.pending.get? result.task = some pending) : (c.merge cache result).1.Even own := by
  have known : c.pending.contains result.task := by
    rw [OrderedMap.contains_eq_isSome, found]
    rfl
  rw [Coordinator.merge, if_pos known]
  cases result.outcome with
  | ok output =>
    have size := OrderedMap.size_erase found
    have sum := even.dispatched
    refine ⟨?_, even.reported, even.timeouts⟩
    simp only [commit]
    omega
  | error error =>
    cases error with
    | cancelled => exact even.cancel found
    | _ => exact even.fallBack found _ (Nat.zero_le 1)

theorem dispatch (even : c.Even own) {unit : WorkUnit}
    (absent : c.pending.get? unit.task = none) : (c.dispatch unit).2.Even own := by
  have size := OrderedMap.size_insert absent ⟨unit, c.parallel⟩
  have sum := even.dispatched
  refine ⟨?_, even.reported, even.timeouts⟩
  simp only [Coordinator.dispatch]
  omega

end Even

theorem stats_runInProcess (c : Coordinator) (cache : SchemaCache) (task : TaskId) :
    (c.runInProcess cache task).1.stats = c.stats := by
  unfold runInProcess
  split <;> rfl

/-- Only shutdowns cancel. -/
theorem cancelled_fallBack (c : Coordinator) (cache : SchemaCache) (task : TaskId)
    (error : WorkerError) :
    (c.fallBack cache task error).1.stats.cancelled = c.stats.cancelled := by
  rw [fallBack, stats_runInProcess]
  rfl

theorem cancelled_merge (c : Coordinator) (cache : SchemaCache) {result : WorkResult}
    (calm : result.outcome ≠ .error .cancelled) :
    (c.merge cache result).1.stats.cancelled = c.stats.cancelled := by
  unfold merge
  split
  · split
    · rfl
    · contradiction
    · exact cancelled_fallBack ..
  · rfl

end Coordinator

open Coordinator

/-- The units that a call hands out. -/
def Call.units : Call → List WorkUnit
  | .dispatch unit => [unit]
  | .run units _ => units
  | _ => []

/-! ### Outcomes -/

namespace Desk

/-- What a task was settled with, whether it was collected or not. -/
def outcome? (d : Desk) (task : TaskId) : Option (Except BatchError UnitOutput) :=
  (d.coordinator.resolved.get? task).or (logged task d.answers).head?

/-- Is it an output? -/
def isOutput : Option (Except BatchError UnitOutput) → Bool
  | some (.ok _) => true
  | _ => false

/-- Is it a cancellation? -/
def isCancellation : Option (Except BatchError UnitOutput) → Bool
  | some (.error (.cancelled _)) => true
  | _ => false

variable {executor : Executor} {stopping : Prop} {start : SchemaCache}
  {commits : List (TaskId × UnitOutput)} {d d' : Desk} {task other : TaskId}

theorem outcome?_move {state : Coordinator × SchemaCache} {outcome : Except BatchError UnitOutput}
    (resolved : state.1.resolved = d.coordinator.resolved.insert task outcome) :
    (d.move state).outcome? other = if other = task then some outcome else d.outcome? other := by
  unfold outcome?
  simp only [move, resolved, OrderedMap.get?_insert]
  split <;> rfl

theorem Orderly.outcome?_of_pending (orderly : d.Orderly executor start commits)
    {pending : PendingTask} (found : d.coordinator.pending.get? task = some pending) :
    d.outcome? task = none := by
  obtain ⟨listed, rfl⟩ := orderly.unit_of_pending found
  have phase := orderly.phase pending.unit listed
  rw [found] at phase
  obtain ⟨-, resolved, answers, -⟩ := phase.of_pending
  rw [outcome?, resolved, answers]
  rfl

/-- Collecting a task does not change what it was settled with. -/
theorem Orderly.outcome?_collect (orderly : d.Orderly executor start commits)
    (listed : task ∈ d.tasks) (done : d.coordinator.pending.get? task = none ∨
      (d.coordinator.resolved.get? task).isSome) :
    (d.collect task).outcome? other = d.outcome? other := by
  unfold outcome?
  rw [coordinator_collect, answers_collect]
  simp only [OrderedMap.get?_erase]
  by_cases same : other = task
  · subst same
    obtain ⟨unit, member, rfl⟩ := List.mem_map.mp listed
    have phase := orderly.phase unit member
    rw [if_pos rfl, logged_snoc_self, Option.none_or]
    cases resolved : d.coordinator.resolved.get? unit.task with
    | some outcome =>
      rw [resolved] at phase
      rw [phase.of_resolved.2.1]
      rfl
    | none =>
      have absent : d.coordinator.pending.get? unit.task = none := by simpa [resolved] using done
      rw [absent, resolved] at phase
      obtain ⟨outcome, again, answers, -⟩ := phase.of_neither
      rw [answers]
      rfl
  · rw [if_neg same, logged_snoc_of_ne same]

section Count

variable {tasks : List TaskId} {test : Option (Except BatchError UnitOutput) → Bool}
  {pending : PendingTask} {outcome : Except BatchError UnitOutput}
  {state : Coordinator × SchemaCache} (orderly : d.Orderly executor start commits)
  (found : d.coordinator.pending.get? task = some pending)
  (resolved : state.1.resolved = d.coordinator.resolved.insert task outcome)

include orderly found resolved

/-- A task that is settled with what does not count was not counted before. -/
theorem Orderly.countP_move (quiet : test (some outcome) = test none) :
    tasks.countP (fun other => test ((d.move state).outcome? other))
      = tasks.countP fun other => test (d.outcome? other) := by
  refine List.countP_congr fun other _ => ?_
  rw [outcome?_move resolved]
  by_cases same : other = task
  · rw [if_pos same, same, orderly.outcome?_of_pending found, quiet]
  · rw [if_neg same]

/-- A task that is settled with what counts is counted from then on. -/
theorem Orderly.countP_move_succ (distinct : tasks.Nodup) (listed : task ∈ tasks)
    (before : test none = false) (after : test (some outcome) = true) :
    tasks.countP (fun other => test ((d.move state).outcome? other))
      = tasks.countP (fun other => test (d.outcome? other)) + 1 := by
  obtain ⟨left, right, rfl⟩ := List.append_of_mem listed
  rw [List.nodup_middle, List.nodup_cons] at distinct
  have same {part : List TaskId} (inside : part ⊆ left ++ right) :
      part.countP (fun other => test ((d.move state).outcome? other))
        = part.countP fun other => test (d.outcome? other) :=
    List.countP_congr fun other member => by
      have apart : other ≠ task := fun same => distinct.1 (same ▸ inside member)
      rw [outcome?_move resolved, if_neg apart]
  rw [List.countP_append, List.countP_append, same (List.subset_append_left _ _),
    List.countP_cons_of_pos, List.countP_cons_of_neg, same (List.subset_append_right _ _)]
  · exact (Nat.add_assoc _ _ _).symm
  · rw [orderly.outcome?_of_pending found, before]
    exact Bool.false_ne_true
  · rw [outcome?_move resolved, if_pos rfl, after]

end Count

/-! ### Steps -/

/-- What keeps the accounts right: the pending tasks are with workers as long as there are any, and
those in `own` are the ones that were handed out when there were none. -/
structure Balanced (own : List TaskId) (d : Desk) : Prop where
  even : d.coordinator.Even (own.countP fun task => isOutput (d.outcome? task))
  cancelled : d.coordinator.stats.cancelled
    = d.tasks.countP fun task => isCancellation (d.outcome? task)
  uniform : ∀ task pending, d.coordinator.pending.get? task = some pending →
    pending.inWorker = d.coordinator.parallel
  alone : d.coordinator.parallel → own = []
  waiting : d.coordinator.parallel = false →
    ∀ task pending, d.coordinator.pending.get? task = some pending → task ∈ own
  generated : ∀ unit ∈ d.dispatched, unit.task ∈ own → ∀ output,
    d.outcome? unit.task = some (.ok output) → output = unit.generate
  distinct : d.tasks.Nodup
  distinctOwn : own.Nodup
  listed : own ⊆ d.tasks

namespace Balanced

variable {own : List TaskId} {pending : PendingTask}

/-- What has to be shown when a pending task is settled. -/
theorem resolve (balanced : d.Balanced own)
    {outcome : Except BatchError UnitOutput} {state : Coordinator × SchemaCache}
    (isPending : state.1.pending = d.coordinator.pending.erase task)
    (isResolved : state.1.resolved = d.coordinator.resolved.insert task outcome)
    (parallel : state.1.parallel = d.coordinator.parallel)
    (even : state.1.Even (own.countP fun task => isOutput ((d.move state).outcome? task)))
    (cancelled : state.1.stats.cancelled
      = d.tasks.countP fun task => isCancellation ((d.move state).outcome? task))
    (generated : ∀ unit ∈ d.dispatched, unit.task = task → task ∈ own → ∀ output,
      outcome = .ok output → output = unit.generate) :
    (d.move state).Balanced own := by
  have still {other : TaskId} {p : PendingTask} (found : state.1.pending.get? other = some p) :
      d.coordinator.pending.get? other = some p := by
    rw [isPending, OrderedMap.get?_erase] at found
    split at found
    · cases found
    · exact found
  refine
    { even := even
      cancelled := cancelled
      uniform := fun other p found => (balanced.uniform other p (still found)).trans parallel.symm
      alone := fun workers => balanced.alone (parallel.symm.trans workers)
      waiting := fun none other p found =>
        balanced.waiting (parallel.symm.trans none) other p (still found)
      generated := fun unit member mine output settled => ?_
      distinct := balanced.distinct
      distinctOwn := balanced.distinctOwn
      listed := balanced.listed }
  rw [outcome?_move isResolved] at settled
  split at settled
  · rename_i same
    exact generated unit member same (same ▸ mine) output (Option.some.inj settled)
  · exact balanced.generated unit member mine output settled

variable (balanced : d.Balanced own) (orderly : d.Orderly executor start commits)
  (found : d.coordinator.pending.get? task = some pending)

include balanced orderly found

/-- While there are workers, a task is settled with an output and one of the counters goes up. -/
theorem settle (workers : d.coordinator.parallel) {output : UnitOutput}
    {state : Coordinator × SchemaCache}
    (settled : Settled d.coordinator d.cache task (.ok output) state)
    (even : ∀ n, d.coordinator.Even n → state.1.Even n)
    (cancelled : state.1.stats.cancelled = d.coordinator.stats.cancelled) :
    (d.move state).Balanced own := by
  obtain rfl := balanced.alone workers
  refine balanced.resolve settled.pending settled.resolved settled.alike.parallel
    (even _ balanced.even) ?_ fun _ _ _ mine => absurd mine List.not_mem_nil
  rw [cancelled, balanced.cancelled]
  exact (orderly.countP_move found settled.resolved rfl).symm

theorem cancel : (d.move (d.coordinator.cancel task, d.cache)).Balanced own := by
  obtain ⟨unit, rfl⟩ := orderly.unit_of_pending found
  have listed : pending.unit.task ∈ d.tasks := List.mem_map_of_mem unit
  refine balanced.resolve rfl rfl rfl ?_ ?_ fun _ _ _ _ _ settled => by cases settled
  · rw [orderly.countP_move found rfl rfl]
    exact balanced.even.cancel found
  · rw [orderly.countP_move_succ found rfl balanced.distinct listed rfl rfl, ← balanced.cancelled]
    rfl

/-- While there are workers, a result may be an output, a failure or a cancellation. -/
theorem deliver (workers : d.coordinator.parallel) {result : WorkResult}
    (same : result.task = task) :
    (d.move (d.coordinator.merge d.cache result)).Balanced own := by
  subst same
  have known : d.coordinator.pending.contains result.task := by
    rw [OrderedMap.contains_eq_isSome, found]
    rfl
  have even : ∀ n, d.coordinator.Even n → (d.coordinator.merge d.cache result).1.Even n :=
    fun _ even => even.merge found
  by_cases calm : result.outcome = .error .cancelled
  · rw [Coordinator.merge, if_pos known, calm]
    exact balanced.cancel orderly found
  · have cancelled := cancelled_merge d.coordinator d.cache calm
    obtain ⟨output, settled⟩ : ∃ output, Settled d.coordinator d.cache result.task (.ok output)
        (d.coordinator.merge d.cache result) := by
      rw [Coordinator.merge, if_pos known]
      split
      · exact ⟨_, rfl, rfl, ⟨rfl, rfl⟩, rfl⟩
      · contradiction
      · exact ⟨_, fallBack_settled found _⟩
    exact balanced.settle orderly found workers settled even cancelled

/-- Without workers, a task that is generated in process is one of those that count. -/
theorem runInProcess (alone : d.coordinator.parallel = false) :
    (d.move (d.coordinator.runInProcess d.cache task)).Balanced own := by
  have settled : Settled d.coordinator d.cache task _ _ := runInProcess_settled found
  have mine : task ∈ own := balanced.waiting alone task pending found
  refine balanced.resolve settled.pending settled.resolved settled.alike.parallel ?_ ?_ ?_
  · rw [orderly.countP_move_succ found settled.resolved balanced.distinctOwn mine rfl rfl]
    exact balanced.even.runInProcess found
  · rw [orderly.countP_move found settled.resolved rfl, ← balanced.cancelled]
    unfold Coordinator.runInProcess
    rw [found]
    rfl
  · intro unit member same _ output output_eq
    obtain ⟨listed, own⟩ := orderly.unit_of_pending found
    rw [← orderly.eq_of_task_eq member listed (same.trans own.symm)] at output_eq
    exact (Except.ok.inj output_eq).symm

end Balanced

theorem Balanced.collect {own : List TaskId} (balanced : d.Balanced own)
    (orderly : d.Orderly executor start commits) (listed : task ∈ d.tasks)
    (done : d.coordinator.pending.get? task = none ∨
      (d.coordinator.resolved.get? task).isSome) : (d.collect task).Balanced own := by
  have outcomes : (d.collect task).outcome? = d.outcome? :=
    funext fun _ => orderly.outcome?_collect listed done
  refine ⟨?_, ?_, ?_, ?_, ?_, ?_, balanced.distinct, balanced.distinctOwn, balanced.listed⟩
  · rw [outcomes, coordinator_collect]
    exact ⟨balanced.even.dispatched, balanced.even.reported, balanced.even.timeouts⟩
  · rw [outcomes, coordinator_collect]
    exact balanced.cancelled
  · rw [coordinator_collect]
    exact balanced.uniform
  · rw [coordinator_collect]
    exact balanced.alone
  · rw [coordinator_collect]
    exact balanced.waiting
  · rw [outcomes]
    exact balanced.generated

theorem Balanced.close {own : List TaskId} (balanced : d.Balanced own)
    (empty : ∀ task, d.coordinator.pending.get? task = none) :
    (d.move ({ d.coordinator with parallel := false }, d.cache)).Balanced own where
  even := ⟨balanced.even.dispatched, balanced.even.reported, balanced.even.timeouts⟩
  cancelled := balanced.cancelled
  uniform task _ found := by cases found.symm.trans (empty task)
  alone workers := by cases workers
  waiting _ task _ found := by cases found.symm.trans (empty task)
  generated := balanced.generated
  distinct := balanced.distinct
  distinctOwn := balanced.distinctOwn
  listed := balanced.listed

/-- Every step keeps the accounts right. -/
theorem Balanced.step {own : List TaskId} (balanced : d.Balanced own)
    (orderly : d.Orderly executor start commits) (step : Step executor stopping d d') :
    d'.Balanced own := by
  cases step with
  | deliver found sent busy =>
    obtain ⟨other, p, found', manned⟩ := busy
    have workers : d.coordinator.parallel := (balanced.uniform other p found').symm.trans manned
    exact balanced.deliver orderly found workers rfl
  | @giveUp task pending found manned =>
    have workers : d.coordinator.parallel :=
      (balanced.uniform task pending found).symm.trans manned
    exact balanced.settle orderly found workers (giveUp_settled found)
      (fun _ even => even.giveUp found) (cancelled_fallBack ..)
  | @runInProcess task pending found unmanned =>
    rw [balanced.uniform task pending found, Bool.not_eq_true] at unmanned
    exact balanced.runInProcess orderly found unmanned
  | cancel found stops => exact balanced.cancel orderly found
  | collect listed done => exact balanced.collect orderly listed done
  | close stops empty => exact balanced.close empty

theorem Balanced.path {own : List TaskId} (balanced : d.Balanced own)
    (orderly : d.Orderly executor start commits) (path : Path executor stopping d d') :
    d'.Balanced own := by
  induction path with
  | refl => exact balanced
  | tail before step ih =>
    obtain ⟨commits', orderly'⟩ := orderly.path before
    exact ih.step orderly' step

/-! ### Calls -/

/-- The tasks that a call hands out while there are no workers. -/
def unstaffedBy (d : Desk) (call : Call) : List TaskId :=
  if d.coordinator.parallel then [] else call.units.map WorkUnit.task

/-- The tasks that were handed out while there were no workers. -/
def unstaffed (d : Desk) : List Call → List TaskId
  | [] => []
  | call :: rest => d.unstaffedBy call ++ (d.perform call).unstaffed rest

namespace Balanced

variable {own : List TaskId}

theorem plan (balanced : d.Balanced own) {graph : ShapeGraph} {ids : List ShapeId}
    {rules : RuleSet} {options : GenerateOptions}
    (room : d.coordinator.lastTask.toNat + ids.length < UInt64.size) :
    (d.perform (.plan graph ids rules options)).Balanced own := by
  rcases plan : d.coordinator.plan graph ids rules options with ⟨units, c⟩
  have numbers : d.coordinator.Numbers units c := plan_numbers room plan
  simp only [perform, plan]
  rw [numbers.books]
  exact ⟨⟨balanced.even.dispatched, balanced.even.reported, balanced.even.timeouts⟩,
    balanced.cancelled, balanced.uniform, balanced.alone, balanced.waiting, balanced.generated,
    balanced.distinct, balanced.distinctOwn, balanced.listed⟩

theorem handOut (balanced : d.Balanced own) (orderly : d.Orderly executor start commits)
    {unit : WorkUnit} (planned : unit ∈ d.planned) (new : unit ∉ d.dispatched) :
    (d.handOut unit).Balanced (own ++ d.unstaffedBy (.dispatch unit)) := by
  have unused : unit.task ∉ d.tasks := orderly.unused planned new
  have absent : d.coordinator.pending.get? unit.task = none :=
    Option.not_isSome_iff_eq_none.mp fun known => unused (orderly.known _ (Or.inl known))
  have unsettled : d.outcome? unit.task = none := by
    obtain ⟨resolved, answers, -⟩ := orderly.untouched unused
    rw [outcome?, resolved, answers]
    rfl
  have outcomes : (d.handOut unit).outcome? = d.outcome? := rfl
  have tasks : (d.handOut unit).tasks = d.tasks ++ [unit.task] := List.map_append
  have pending (task : TaskId) : (d.handOut unit).coordinator.pending.get? task =
      if task = unit.task then some ⟨unit, d.coordinator.parallel⟩
      else d.coordinator.pending.get? task := OrderedMap.get?_insert ..
  have mine : ∀ task ∈ d.unstaffedBy (.dispatch unit), task = unit.task := by
    unfold unstaffedBy
    split <;> simp [Call.units]
  have apart : List.Disjoint own (d.unstaffedBy (.dispatch unit)) := fun task old new =>
    unused (mine task new ▸ balanced.listed old)
  refine
    { even := ?_
      cancelled := ?_
      uniform := fun task p found => ?_
      alone := fun workers => ?_
      waiting := fun alone task p found => ?_
      generated := fun other member mineOrOld output settled => ?_
      distinct := ?_
      distinctOwn := balanced.distinctOwn.append ?_ apart
      listed := ?_ }
  · have silent : (d.unstaffedBy (.dispatch unit)).countP (fun task => isOutput (d.outcome? task))
        = 0 := List.countP_eq_zero.mpr fun task member => by
      rw [mine task member, unsettled]
      exact Bool.false_ne_true
    rw [outcomes, List.countP_append, silent]
    exact balanced.even.dispatch absent
  · rw [outcomes, tasks, List.countP_append, List.countP_singleton, unsettled]
    exact balanced.cancelled
  · rw [pending] at found
    split at found
    · cases found
      rfl
    · exact balanced.uniform task p found
  · have none : d.unstaffedBy (.dispatch unit) = [] := if_pos workers
    rw [balanced.alone workers, none]
    rfl
  · have own : d.unstaffedBy (.dispatch unit) = [unit.task] :=
      if_neg (Bool.not_eq_true _ ▸ alone)
    rw [own]
    rw [pending] at found
    split at found
    · rename_i same
      exact List.mem_append_right _ (List.mem_singleton.mpr same)
    · exact List.mem_append_left _ (balanced.waiting alone task p found)
  · have other_ne : other.task ≠ unit.task := by
      intro same
      rw [same] at settled
      cases settled.symm.trans unsettled
    refine balanced.generated other ?_ ?_ output settled
    · refine (List.mem_append.mp member).resolve_right fun last => ?_
      exact other_ne (congrArg WorkUnit.task (List.mem_singleton.mp last))
    · exact (List.mem_append.mp mineOrOld).resolve_right fun new => other_ne (mine _ new)
  · rw [tasks]
    exact balanced.distinct.append (List.nodup_singleton _)
      (List.disjoint_singleton.mpr unused)
  · unfold unstaffedBy
    split
    · exact List.nodup_nil
    · exact List.nodup_singleton _
  · rw [tasks]
    refine List.append_subset.mpr ⟨List.subset_append_of_subset_left _ balanced.listed, ?_⟩
    exact fun task member => List.mem_append_right _ (List.mem_singleton.mpr (mine task member))

theorem handOutAll (balanced : d.Balanced own) (orderly : d.Orderly executor start commits)
    {units : List WorkUnit} (distinct : units.Nodup)
    (new : ∀ unit ∈ units, unit ∈ d.planned ∧ unit ∉ d.dispatched) :
    (units.foldl Desk.handOut d).Balanced
      (own ++ if d.coordinator.parallel then [] else units.map WorkUnit.task) := by
  induction units generalizing d own with
  | nil => simpa using balanced
  | cons unit rest ih =>
    obtain ⟨apart, distinct⟩ := List.nodup_cons.mp distinct
    obtain ⟨planned, unused⟩ := new unit List.mem_cons_self
    have later := ih (balanced.handOut orderly planned unused) (orderly.handOut planned unused)
      distinct fun other member => by
        obtain ⟨planned, unused⟩ := new other (List.mem_cons_of_mem _ member)
        refine ⟨planned, fun used => ?_⟩
        rcases List.mem_append.mp used with old | last
        · exact unused old
        · exact apart (List.mem_singleton.mp last ▸ member)
    have parallel : (d.handOut unit).coordinator.parallel = d.coordinator.parallel := rfl
    rw [parallel, List.append_assoc] at later
    have same : (d.unstaffedBy (.dispatch unit)
          ++ if d.coordinator.parallel then [] else rest.map WorkUnit.task)
        = if d.coordinator.parallel then [] else (unit :: rest).map WorkUnit.task := by
      unfold unstaffedBy
      split <;> rfl
    rwa [same] at later

/-- Every call keeps the accounts right. -/
theorem perform (balanced : d.Balanced own) (orderly : d.Orderly executor start commits)
    {call : Call} (allowed : d.Allows executor call) :
    (d.perform call).Balanced (own ++ d.unstaffedBy call) := by
  have none (units : call.units = []) : own ++ d.unstaffedBy call = own := by
    rw [unstaffedBy, units, List.map_nil, ite_self, List.append_nil]
  cases call with
  | plan graph ids rules options =>
    rw [none rfl]
    exact balanced.plan allowed
  | dispatch unit => exact balanced.handOut orderly allowed.1 allowed.2
  | wait task arrivals =>
    rw [none rfl]
    exact balanced.path orderly (orderly.staffed.wait_path allowed.1 allowed.2)
  | run units arrivals =>
    exact (balanced.handOutAll orderly allowed.1 allowed.2.1).path
      (orderly.handOutAll allowed.1 allowed.2.1) (orderly.run_path allowed)
  | shutdown arrivals ended =>
    rw [none rfl]
    exact balanced.path orderly (perform_shutdown_path trivial ended allowed)

theorem performAll (balanced : d.Balanced own) (orderly : d.Orderly executor start commits)
    {calls : List Call} (allowed : d.AllowsAll executor calls) :
    (d.performAll calls).Balanced (own ++ d.unstaffed calls) := by
  induction calls generalizing d own commits with
  | nil =>
    rw [unstaffed, List.append_nil]
    exact balanced
  | cons call rest ih =>
    obtain ⟨commits', orderly'⟩ := orderly.perform allowed.1
    have later := ih (balanced.perform orderly allowed.1) orderly' allowed.2
    rwa [List.append_assoc] at later

end Balanced

/-! ### Cancelled tasks -/

theorem Orderly.isCancelled_of_outcome? (orderly : d.Orderly executor start commits)
    {unit : WorkUnit} (listed : unit ∈ d.dispatched)
    (h : isCancellation (d.outcome? unit.task)) : d.IsCancelled unit.task := by
  unfold outcome? at h
  cases resolved : d.coordinator.resolved.get? unit.task with
  | some outcome =>
    have phase := orderly.phase unit listed
    rw [resolved] at h phase
    have right := phase.of_resolved.2.2
    generalize logged unit.task commits = committed at right
    cases right with
    | output yields => cases h
    | cancelled => exact Or.inl resolved
  | none =>
    rw [resolved, Option.none_or] at h
    cases answers : logged unit.task d.answers with
    | nil =>
      rw [answers] at h
      cases h
    | cons outcome later =>
      rw [answers] at h
      rcases (orderly.answers_eq listed answers).2 with ⟨output, -, rfl⟩ | rfl
      · cases h
      · exact Or.inr (mem_logged_iff.mp (answers ▸ List.mem_cons_self))

/-- Without a shutdown nothing is cancelled, unless the executor declines a unit. -/
theorem Balanced.cancelled_eq_zero {own : List TaskId} {calls : List Call}
    (balanced : (d.performAll calls).Balanced own) (orderly : d.Orderly executor start commits)
    (allowed : d.AllowsAll executor calls) (before : ∀ task, ¬ d.IsCancelled task)
    (willing : ∀ unit ∈ (d.performAll calls).dispatched,
      ((jobOf unit).run executor).outcome ≠ .error .cancelled)
    (calm : ∀ arrivals ended, .shutdown arrivals ended ∉ calls) :
    (d.performAll calls).coordinator.stats.cancelled = 0 := by
  obtain ⟨commits', orderly'⟩ := orderly.performAll allowed
  rw [balanced.cancelled, List.countP_eq_zero]
  intro task member cancelled
  obtain ⟨unit, listed, rfl⟩ := List.mem_map.mp member
  obtain ⟨earlier, arrivals, ended, after, eq, -⟩ := orderly.shutdown_of_isCancelled allowed listed
    (before unit.task) (willing unit listed) (orderly'.isCancelled_of_outcome? listed cancelled)
  exact calm arrivals ended (eq ▸ List.mem_append_right _ List.mem_cons_self)

/-- What a task was settled with does not change. -/
theorem Orderly.outcome?_step (orderly : d.Orderly executor start commits)
    (step : Step executor stopping d d') {outcome : Except BatchError UnitOutput}
    (settled : d.outcome? task = some outcome) : d'.outcome? task = some outcome := by
  have apart {other : TaskId} {pending : PendingTask}
      (found : d.coordinator.pending.get? other = some pending) : task ≠ other := by
    rintro rfl
    cases settled.symm.trans (orderly.outcome?_of_pending found)
  cases step.effect with
  | settle found yields resolved =>
    rw [outcome?_move resolved.resolved, if_neg (apart found), settled]
  | cancel found cause => rw [outcome?_move rfl, if_neg (apart found), settled]
  | collect listed done => rw [orderly.outcome?_collect listed done, settled]
  | close stops empty => exact settled

theorem Orderly.outcome?_path (orderly : d.Orderly executor start commits)
    (path : Path executor stopping d d') {outcome : Except BatchError UnitOutput}
    (settled : d.outcome? task = some outcome) : d'.outcome? task = some outcome := by
  induction path with
  | refl => exact settled
  | tail before step ih =>
    obtain ⟨commits', orderly'⟩ := orderly.path before
    exact orderly'.outcome?_step step ih

theorem get?_pending_shutdown (c : Coordinator) (cache : SchemaCache) (arrivals : List Arrival)
    (ended : Nat) (task : TaskId) :
    (c.shutdown cache arrivals ended).coordinator.pending.get? task = none := by
  simp only [shutdown, get?_pending_cancelAll]
  split
  · rfl
  · rename_i absent
    exact OrderedMap.get?_eq_none_iff _ |>.mpr absent

theorem countP_of_imp (tasks : List TaskId) {p q : TaskId → Bool}
    (imp : ∀ task, p task → q task) :
    tasks.countP q = tasks.countP p + tasks.countP fun task => q task && !p task := by
  rw [List.countP_eq_countP_filter_add tasks q p, List.countP_filter, List.countP_filter]
  refine congrArg (· + _) (List.countP_congr fun task _ => ?_)
  rw [Bool.and_eq_true, and_iff_right_of_imp (imp task)]

/-- A shutdown leaves nothing pending, and it reports how many tasks it cancelled. -/
theorem Balanced.shutdown {own : List TaskId} (balanced : d.Balanced own)
    (orderly : d.Orderly executor start commits) {arrivals : List Arrival} {ended : Nat}
    (allowed : d.Allows executor (.shutdown arrivals ended)) :
    let down := d.coordinator.shutdown d.cache arrivals ended
    let after := d.perform (.shutdown arrivals ended)
    down.coordinator.pending.size = 0 ∧
      down.report.cancelled = d.tasks.countP fun task =>
        isCancellation (after.outcome? task) && !isCancellation (d.outcome? task) := by
  have path : Path executor True d (d.perform (.shutdown arrivals ended)) :=
    perform_shutdown_path trivial ended allowed
  have later := (balanced.path orderly path).cancelled
  rw [tasks, path.sameUnits.dispatched] at later
  refine ⟨OrderedMap.size_eq_zero (get?_pending_shutdown _ _ _ _), ?_⟩
  have kept : ∀ task, isCancellation (d.outcome? task) →
      isCancellation ((d.perform (.shutdown arrivals ended)).outcome? task) := by
    intro task cancelled
    cases settled : d.outcome? task with
    | none =>
      rw [settled] at cancelled
      cases cancelled
    | some outcome => rwa [orderly.outcome?_path path settled, ← settled]
  have sum := countP_of_imp d.tasks kept
  have reported : (d.coordinator.shutdown d.cache arrivals ended).report.cancelled
      = (d.perform (.shutdown arrivals ended)).coordinator.stats.cancelled
        - d.coordinator.stats.cancelled := rfl
  rw [reported, later, balanced.cancelled]
  exact Nat.sub_eq_of_eq_add' sum

/-! ### Whole runs -/

/-- The accounts of a coordinator after calls from a first desk on. -/
structure Accounted (executor : Executor) (first : Desk) (calls : List Call) (d : Desk) :
    Prop where
  /-- Every unit that was handed out is counted once: as pending, as one of four kinds that are
  settled, or as handed out without workers and generated in process. -/
  dispatched : d.coordinator.stats.dispatched = d.coordinator.pending.size
    + d.coordinator.stats.completedInWorker + d.coordinator.stats.fallbacks
    + d.coordinator.stats.cancelled
    + (first.unstaffed calls).countP fun task => isOutput (d.outcome? task)
  /-- What was handed out without workers is generated in process or not at all. -/
  generated : (first.unstaffed calls).Nodup ∧
    ∀ unit ∈ d.dispatched, unit.task ∈ first.unstaffed calls → ∀ output,
      d.outcome? unit.task = some (.ok output) → output = unit.generate
  reported : d.coordinator.diagnostics.length = d.coordinator.stats.fallbacks
  timeouts : d.coordinator.stats.timeouts ≤ d.coordinator.stats.fallbacks
  /-- Nothing is cancelled before the first shutdown, if the executor does not itself answer of a
  unit that its task was cancelled. -/
  calm : (∀ unit ∈ d.dispatched, ((jobOf unit).run executor).outcome ≠ .error .cancelled) →
    (∀ arrivals ended, .shutdown arrivals ended ∉ calls) → d.coordinator.stats.cancelled = 0
  /-- A shutdown leaves nothing pending, and it reports how many tasks it cancelled. -/
  stopped : ∀ arrivals ended, d.Allows executor (.shutdown arrivals ended) →
    let down := d.coordinator.shutdown d.cache arrivals ended
    let after := d.perform (.shutdown arrivals ended)
    down.coordinator.pending.size = 0 ∧
      down.report.cancelled = d.tasks.countP fun task =>
        isCancellation (after.outcome? task) && !isCancellation (d.outcome? task)

theorem balanced_new {c : Coordinator} (unused : c.Unused) (cache : SchemaCache) :
    (new c cache).Balanced [] := by
  have absent (task : TaskId) : c.pending.get? task = none :=
    Option.not_isSome_iff_eq_none.mp fun known => unused.idle task (Or.inl known)
  have even : c.Even 0 := by
    refine ⟨?_, ?_, ?_⟩
    · rw [unused.stats, OrderedMap.size_eq_zero absent]
      rfl
    · rw [unused.stats, unused.diagnostics]
      rfl
    · rw [unused.stats]
  refine ⟨even, ?_, ?_, fun _ => rfl, ?_, ?_, List.nodup_nil, List.nodup_nil, List.Subset.refl _⟩
  · exact congrArg CoordinatorStats.cancelled unused.stats
  · exact fun task _ found => by cases found.symm.trans (absent task)
  · exact fun _ task _ found => by cases found.symm.trans (absent task)
  · exact fun _ member => absurd member List.not_mem_nil

/-- Whatever calls are made of a new coordinator and whatever comes in, the accounts are right; and
nothing is counted as cancelled before the first shutdown, unless the executor itself answers of a
unit that its task was cancelled. -/
theorem accounted_performAll {c : Coordinator} (unused : c.Unused) (cache : SchemaCache)
    {calls : List Call} (allowed : (new c cache).AllowsAll executor calls) :
    Accounted executor (new c cache) calls ((new c cache).performAll calls) := by
  have new : (new c cache).Orderly executor cache [] := orderly_new unused.idle cache
  obtain ⟨commits, orderly⟩ := new.performAll allowed
  have balanced := (balanced_new unused cache).performAll new allowed
  rw [List.nil_append] at balanced
  exact
    { dispatched := balanced.even.dispatched
      generated := ⟨balanced.distinctOwn, balanced.generated⟩
      reported := balanced.even.reported
      timeouts := balanced.even.timeouts
      calm := balanced.cancelled_eq_zero new allowed (not_isCancelled_new unused.idle cache)
      stopped := fun _ _ => balanced.shutdown orderly }

/-- After the calls for the ring have let the workers go, one more unit is handed out. -/
def lateCalls : List Call :=
  ringCalls ++ [
    .plan Generator.ring [⟨1⟩] (.ofTable .empty) {},
    .dispatch (ringUnit 4 ⟨1⟩),
    .wait ⟨4⟩ []]

theorem AllowsAll.append {before after : List Call} (first : d.AllowsAll executor before)
    (later : (d.performAll before).AllowsAll executor after) :
    d.AllowsAll executor (before ++ after) := by
  induction before generalizing d with
  | nil => exact later
  | cons call rest ih => exact ⟨first.1, ih first.2 later⟩

theorem accounted_performAll_ring :
    fresh.Unused ∧ (new fresh (.new 1)).AllowsAll .generate lateCalls ∧
      Accounted .generate (new fresh (.new 1)) lateCalls
        ((new fresh (.new 1)).performAll lateCalls) := by
  have unused : fresh.Unused := ⟨idle_fresh, rfl, rfl⟩
  have room : ((new fresh (.new 1)).performAll ringCalls).coordinator.lastTask.toNat + 1
      < UInt64.size := by decide +kernel
  have allowed : (new fresh (.new 1)).AllowsAll .generate lateCalls := by
    refine allowsAll_ringCalls.append ⟨room, ⟨?_, ?_⟩, ⟨?_, heard_nil⟩, trivial⟩
    · decide +kernel
    · decide +kernel
    · decide +kernel
  exact ⟨unused, allowed, accounted_performAll unused (.new 1) allowed⟩

/-- A task that its executor declines is counted as cancelled, although there is no shutdown among
the calls. -/
theorem cancelled_counted_without_shutdown :
    fresh.Unused ∧ (new fresh (.new 1)).AllowsAll declining declinedCalls ∧
      (∀ arrivals ended, .shutdown arrivals ended ∉ declinedCalls) ∧
      ((new fresh (.new 1)).performAll declinedCalls).coordinator.stats.cancelled = 1 :=
  ⟨⟨idle_fresh, rfl, rfl⟩, allowsAll_declinedCalls, by simp [declinedCalls], by decide +kernel⟩

end Desk

end Schemata
