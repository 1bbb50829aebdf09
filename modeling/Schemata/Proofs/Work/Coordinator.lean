import Schemata.Proofs.OrderedMap
import Schemata.Proofs.Schema.Run
import Schemata.Proofs.Walk
import Schemata.Work.Coordinator

/-!
# How tasks are settled

As long as nobody shuts a coordinator down and its workers are truthful, there is one thing that can
happen while it waits: a pending task is settled with what is due for it.  That is what its unit
generates; it does not matter whether a worker did it or whether the unit was generated in process
because a worker failed, panicked or was too slow.  Only a worker that itself answers that the task
was cancelled is taken at its word: such a task is declined, and what is due for it may be a
cancellation.  All that a run keeps follows from what this step keeps.

## Main definitions

* `Coordinator.Due` : what a task may be settled with.
* `Coordinator.Step` : a pending task is settled with what is due for it.
* `Coordinator.Truthful` : what comes in about pending tasks is right.
* `Coordinator.Owes` : a unit is pending, or it is settled and not yet collected.
* `Coordinator.Invariant` : a property of the pending tasks and the cache that a step preserves.

## Main results

* `Coordinator.wait_reaches` : waiting is a number of steps, and then the task is collected.
* `Coordinator.Invariant.waitAll` : what a step preserves, waiting preserves.
* `Coordinator.waitAll_completed` : waiting for units that are owed gives what is due for them.
* `Coordinator.dispatchAll_handedOut` : what handing out units does to the books.
* `Coordinator.run_completed` : a run of new units gives what is due for them.
-/

namespace Schemata.Coordinator

open Relation

variable {declined : TaskId → Prop} {c : Coordinator} {cache : SchemaCache} {task : TaskId}

/-! ### Settling a task -/

/-- What planning needs of the books is the same in both. -/
structure Alike (c c' : Coordinator) : Prop where
  lastTask : c'.lastTask = c.lastTask
  parallel : c'.parallel = c.parallel

theorem Alike.trans {c' c'' : Coordinator} (first : Alike c c') (second : Alike c' c'') :
    Alike c c'' :=
  ⟨second.lastTask.trans first.lastTask, second.parallel.trans first.parallel⟩

/-- The schemas that an outcome puts into the cache. -/
def schemasOf : Except BatchError UnitOutput → List Schema
  | .ok output => output.schemas
  | .error _ => []

/-- The state in which `task` has just been settled with `outcome`. -/
structure Settled (c : Coordinator) (cache : SchemaCache) (task : TaskId)
    (outcome : Except BatchError UnitOutput) (state : Coordinator × SchemaCache) : Prop where
  pending : state.1.pending = c.pending.erase task
  resolved : state.1.resolved = c.resolved.insert task outcome
  alike : Alike c state.1
  cache : state.2 = (schemasOf outcome).foldl SchemaCache.insert cache

/-- What is due for a unit: what it generates or, if a worker declined its task, a cancellation. -/
def Due (declined : TaskId → Prop) (unit : WorkUnit) (task : TaskId)
    (outcome : Except BatchError UnitOutput) : Prop :=
  outcome = .ok unit.generate ∨ declined task ∧ outcome = .error (.cancelled task)

/-- A pending task is settled with what is due for its unit. -/
def Step (declined : TaskId → Prop) (state state' : Coordinator × SchemaCache) : Prop :=
  ∃ task pending outcome, state.1.pending.get? task = some pending ∧
    Due declined pending.unit task outcome ∧ Settled state.1 state.2 task outcome state'

/-- Where no task is declined, a step settles a task with what its unit generates. -/
theorem Step.generated {state state' : Coordinator × SchemaCache}
    (step : Step (fun _ => False) state state') :
    ∃ task pending, state.1.pending.get? task = some pending ∧
      Settled state.1 state.2 task (.ok pending.unit.generate) state' := by
  obtain ⟨task, pending, outcome, found, rfl | ⟨none, -⟩, settled⟩ := step
  · exact ⟨task, pending, found, settled⟩
  · exact none.elim

theorem runInProcess_settled {pending : PendingTask} (found : c.pending.get? task = some pending) :
    Settled c cache task (.ok pending.unit.generate) (c.runInProcess cache task) := by
  unfold runInProcess
  rw [found]
  exact ⟨rfl, rfl, ⟨rfl, rfl⟩, rfl⟩

theorem fallBack_settled {pending : PendingTask} (found : c.pending.get? task = some pending)
    (error : WorkerError) :
    Settled c cache task (.ok pending.unit.generate) (c.fallBack cache task error) := by
  have settled : Settled (c.reportFallback task error) cache task (.ok pending.unit.generate)
      (c.fallBack cache task error) := runInProcess_settled found
  exact ⟨settled.pending, settled.resolved, ⟨settled.alike.lastTask, settled.alike.parallel⟩,
    settled.cache⟩

theorem giveUp_settled {pending : PendingTask} (found : c.pending.get? task = some pending) :
    Settled c cache task (.ok pending.unit.generate) (c.giveUp cache task) := by
  let late : Coordinator := { c with stats := { c.stats with timeouts := c.stats.timeouts + 1 } }
  have found' : late.pending.get? task = some pending := found
  have settled : Settled late cache task (.ok pending.unit.generate) (c.giveUp cache task) :=
    fallBack_settled found' _
  exact ⟨settled.pending, settled.resolved, ⟨settled.alike.lastTask, settled.alike.parallel⟩,
    settled.cache⟩

/-- What comes in about pending tasks is right: only declined tasks are said to be cancelled, and a
worker that succeeded sends what the unit generates. -/
def Truthful (c : Coordinator) (declined : TaskId → Prop) (arrivals : List Arrival) : Prop :=
  ∀ result, .result result ∈ arrivals →
    (result.outcome = .error .cancelled → declined result.task) ∧
    ∀ pending output, c.pending.get? result.task = some pending →
      result.outcome = .ok output → output = pending.unit.generate

/-- A truthful result settles its task if it is pending, and changes nothing otherwise. -/
theorem merge_steps {arrivals : List Arrival} (truthful : c.Truthful declined arrivals)
    {result : WorkResult} (member : .result result ∈ arrivals) :
    ReflTransGen (Step declined) (c, cache) (c.merge cache result) := by
  obtain ⟨refused, right⟩ := truthful result member
  unfold merge
  cases found : c.pending.get? result.task with
  | none =>
    rw [OrderedMap.contains_eq_isSome, found]
    exact .refl
  | some pending =>
    rw [OrderedMap.contains_eq_isSome, found]
    cases outcome : result.outcome with
    | ok output =>
      obtain rfl := right pending output found outcome
      exact .single ⟨_, pending, _, found, Or.inl rfl, rfl, rfl, ⟨rfl, rfl⟩, rfl⟩
    | error error =>
      cases error with
      | cancelled =>
        refine .single ⟨_, pending, _, found, Or.inr ⟨refused outcome, rfl⟩, ?_⟩
        exact ⟨rfl, rfl, ⟨rfl, rfl⟩, rfl⟩
      | _ => exact .single ⟨_, pending, _, found, Or.inl rfl, fallBack_settled found _⟩

/-! ### What steps keep -/

section Steps

variable {state state' : Coordinator × SchemaCache} {other : TaskId} {unit : WorkUnit}

/-- No step makes a task pending. -/
theorem Step.pending (step : Step declined state state') {p : PendingTask}
    (h : state'.1.pending.get? other = some p) : state.1.pending.get? other = some p := by
  obtain ⟨task, pending, outcome, -, -, settled⟩ := step
  rw [settled.pending, OrderedMap.get?_erase] at h
  split at h
  · cases h
  · exact h

theorem pending_of_steps (steps : ReflTransGen (Step declined) state state') {p : PendingTask}
    (h : state'.1.pending.get? other = some p) : state.1.pending.get? other = some p := by
  induction steps with
  | refl => exact h
  | tail _ step ih => exact ih (step.pending h)

theorem Truthful.steps {arrivals rest : List Arrival}
    (truthful : state.1.Truthful declined arrivals)
    (steps : ReflTransGen (Step declined) state state') (subset : rest ⊆ arrivals) :
    state'.1.Truthful declined rest := by
  intro result member
  obtain ⟨refused, right⟩ := truthful result (subset member)
  exact ⟨refused, fun pending output found =>
    right pending output (pending_of_steps steps found)⟩

/-- A unit is pending, or it is settled with what is due for it and not yet collected. -/
def Owes (c : Coordinator) (declined : TaskId → Prop) (unit : WorkUnit) : Prop :=
  ((∃ inWorker, c.pending.get? unit.task = some ⟨unit, inWorker⟩)
      ∧ c.resolved.get? unit.task = none) ∨
    (c.pending.get? unit.task = none ∧
      ∃ outcome, Due declined unit unit.task outcome ∧ c.resolved.get? unit.task = some outcome)

theorem Owes.step (owes : state.1.Owes declined unit) (step : Step declined state state') :
    state'.1.Owes declined unit := by
  obtain ⟨task, pending, outcome, found, due, settled⟩ := step
  unfold Owes
  rw [settled.pending, settled.resolved, OrderedMap.get?_erase, OrderedMap.get?_insert]
  by_cases same : unit.task = task
  · subst same
    right
    rcases owes with ⟨⟨inWorker, own⟩, -⟩ | ⟨absent, -⟩
    · obtain rfl : pending = ⟨unit, inWorker⟩ := Option.some.inj (found.symm.trans own)
      exact ⟨if_pos rfl, outcome, due, if_pos rfl⟩
    · rw [absent] at found
      cases found
  · rw [if_neg same, if_neg same]
    exact owes

theorem alike_of_steps (steps : ReflTransGen (Step declined) state state') :
    Alike state.1 state'.1 := by
  induction steps with
  | refl => exact ⟨rfl, rfl⟩
  | tail _ step ih =>
    obtain ⟨task, pending, outcome, -, -, settled⟩ := step
    exact ih.trans settled.alike

theorem Owes.steps (owes : state.1.Owes declined unit)
    (steps : ReflTransGen (Step declined) state state') : state'.1.Owes declined unit := by
  induction steps with
  | refl => exact owes
  | tail _ step ih => exact ih.step step

/-- The task is pending, or it is settled and not yet collected. -/
def Knows (c : Coordinator) (task : TaskId) : Prop :=
  (c.pending.get? task).isSome ∨ (c.resolved.get? task).isSome

theorem Step.knows (step : Step declined state state') (h : state'.1.Knows other) :
    state.1.Knows other := by
  obtain ⟨task, pending, outcome, found, -, settled⟩ := step
  by_cases same : other = task
  · subst same
    left
    rw [found]
    rfl
  · unfold Knows at *
    rwa [settled.pending, settled.resolved, OrderedMap.get?_erase, OrderedMap.get?_insert,
      if_neg same, if_neg same] at h

theorem knows_of_steps (steps : ReflTransGen (Step declined) state state')
    (h : state'.1.Knows other) : state.1.Knows other := by
  induction steps with
  | refl => exact h
  | tail _ step ih => exact ih (step.knows h)

/-- All schemas that pending units generate have a property. -/
def Promises (c : Coordinator) (good : Schema → Prop) : Prop :=
  ∀ task pending, c.pending.get? task = some pending →
    ∀ schema ∈ pending.unit.generate.schemas, good schema

theorem Promises.steps {good : Schema → Prop} (promises : state.1.Promises good)
    (steps : ReflTransGen (Step declined) state state') : state'.1.Promises good :=
  fun task pending found => promises task pending (pending_of_steps steps found)

theorem holds_of_steps {good : Schema → Prop} (promises : state.1.Promises good)
    (holds : state.2.Holds good) (steps : ReflTransGen (Step declined) state state') :
    state'.2.Holds good := by
  induction steps with
  | refl => exact holds
  | tail steps step ih =>
    obtain ⟨task, pending, outcome, found, due, settled⟩ := step
    rw [settled.cache]
    rcases due with rfl | ⟨-, rfl⟩
    · exact ih.foldl_insert ((promises.steps steps) task pending found)
    · exact ih

end Steps

/-! ### Waiting -/

theorem pending_of_awaitsWorker (h : c.awaitsWorker task) :
    ∃ pending, c.pending.get? task = some pending := by
  unfold awaitsWorker at h
  rw [Bool.and_eq_true, Option.any_eq_true] at h
  obtain ⟨-, pending, found, -⟩ := h
  exact ⟨pending, found⟩

/-- `w` collects `task` after some steps from `c` and `cache`, when it is settled or unknown. -/
def Reaches (c : Coordinator) (declined : TaskId → Prop) (cache : SchemaCache) (task : TaskId)
    (arrivals : List Arrival) (w : Waited) : Prop :=
  ∃ state rest, ReflTransGen (Step declined) (c, cache) state ∧ rest ⊆ arrivals ∧
    w = finish task rest state ∧
    (state.1.pending.get? task = none ∨ (state.1.resolved.get? task).isSome)

theorem Settled.reaches {pending : PendingTask} {state : Coordinator × SchemaCache}
    (found : c.pending.get? task = some pending)
    (settled : Settled c cache task (.ok pending.unit.generate) state)
    {arrivals rest : List Arrival} (subset : rest ⊆ arrivals) :
    c.Reaches declined cache task arrivals (finish task rest state) := by
  refine ⟨state, rest, .single ⟨task, pending, _, found, Or.inl rfl, settled⟩, subset, rfl,
    Or.inl ?_⟩
  rw [settled.pending, OrderedMap.get?_erase_self]

theorem conclude_reaches (arrivals : List Arrival) :
    c.Reaches declined cache task arrivals (c.conclude cache task arrivals) := by
  have whole : arrivals ⊆ arrivals := List.Subset.refl _
  unfold conclude
  rw [OrderedMap.contains_eq_isSome]
  split
  · rename_i settled
    exact ⟨(c, cache), arrivals, .refl, whole, rfl, Or.inr settled⟩
  · cases found : c.pending.get? task with
    | none =>
      exact ⟨(c, cache), arrivals, .refl, whole, by simp [runInProcess, found], Or.inl found⟩
    | some pending => exact (runInProcess_settled found).reaches found whole

/-- Waiting for a task is a number of steps, and then the task is collected. -/
theorem wait_reaches {arrivals : List Arrival} (truthful : c.Truthful declined arrivals) :
    c.Reaches declined cache task arrivals (c.wait cache task arrivals) := by
  induction arrivals generalizing c cache with
  | nil =>
    unfold wait
    split
    · rename_i waits
      obtain ⟨pending, found⟩ := pending_of_awaitsWorker waits
      exact (giveUp_settled found).reaches found (List.Subset.refl _)
    · exact conclude_reaches []
  | cons arrival rest ih =>
    unfold wait
    split
    · rename_i waits
      obtain ⟨pending, found⟩ := pending_of_awaitsWorker waits
      cases arrival with
      | silence => exact (giveUp_settled found).reaches found (List.subset_cons_self _ _)
      | result result =>
        have merged : ReflTransGen (Step declined) (c, cache) (c.merge cache result) :=
          merge_steps truthful List.mem_cons_self
        obtain ⟨state, left, steps, subset, eq, settled⟩ :=
          ih (truthful.steps merged (List.subset_cons_self _ _))
        exact ⟨state, left, merged.trans steps, List.subset_cons_of_subset _ subset, eq, settled⟩
    · exact conclude_reaches (arrival :: rest)

/-- A property of the pending tasks and the cache that every step preserves, where no task is
declined. -/
def Invariant (good : OrderedMap TaskId PendingTask → SchemaCache → Prop) : Prop :=
  ∀ state state', Step (fun _ => False) state state' → good state.1.pending state.2 →
    good state'.1.pending state'.2

theorem Invariant.steps {good : OrderedMap TaskId PendingTask → SchemaCache → Prop}
    (invariant : Invariant good) {state state' : Coordinator × SchemaCache}
    (steps : ReflTransGen (Step fun _ => False) state state')
    (start : good state.1.pending state.2) : good state'.1.pending state'.2 := by
  induction steps with
  | refl => exact start
  | tail _ step ih => exact invariant _ _ step ih

theorem pending_collect (c : Coordinator) (task : TaskId) :
    (c.collect task).2.pending = c.pending := by
  unfold collect
  split <;> rfl

/-- What every step preserves, waiting for any tasks preserves. -/
theorem Invariant.waitAll {good : OrderedMap TaskId PendingTask → SchemaCache → Prop}
    (invariant : Invariant good) {arrivals : List Arrival}
    (truthful : c.Truthful (fun _ => False) arrivals) (tasks : List TaskId)
    (start : good c.pending cache) :
    good (c.waitAll cache arrivals tasks).coordinator.pending
      (c.waitAll cache arrivals tasks).cache := by
  induction tasks generalizing c cache arrivals with
  | nil => exact start
  | cons task rest ih =>
    let w := c.wait cache task arrivals
    obtain ⟨state, left, steps, subset, eq, -⟩ : c.Reaches _ cache task arrivals w :=
      wait_reaches truthful
    have pending : w.coordinator.pending = state.1.pending := by
      rw [eq]
      exact pending_collect state.1 task
    have cached : w.cache = state.2 := by rw [eq]; rfl
    have arrived : w.arrivals = left := by rw [eq]; rfl
    have truthful' : w.coordinator.Truthful (fun _ => False) w.arrivals := by
      have later := truthful.steps steps subset
      unfold Truthful at later ⊢
      rwa [pending, arrived]
    refine ih truthful' ?_
    change good w.coordinator.pending w.cache
    rw [pending, cached]
    exact invariant.steps steps start

/-- A unit that is owed is settled with what is due for it once it is not pending any more. -/
theorem Owes.settled {unit : WorkUnit} (owes : c.Owes declined unit)
    (h : c.pending.get? unit.task = none ∨ (c.resolved.get? unit.task).isSome) :
    c.pending.get? unit.task = none ∧
      ∃ outcome, Due declined unit unit.task outcome ∧
        c.resolved.get? unit.task = some outcome := by
  rcases owes with ⟨⟨inWorker, found⟩, unresolved⟩ | settled
  · simp [found, unresolved] at h
  · exact settled

/-- What a wait for a unit comes to: its outcome, and what it leaves to later waits. -/
structure Collected (declined : TaskId → Prop) (c : Coordinator) (cache : SchemaCache)
    (unit : WorkUnit) (w : Waited) : Prop where
  outcome : Due declined unit unit.task w.outcome
  truthful : w.coordinator.Truthful declined w.arrivals
  owes : ∀ other, other.task ≠ unit.task → c.Owes declined other →
    w.coordinator.Owes declined other
  knows : ∀ task, w.coordinator.Knows task → c.Knows task ∧ task ≠ unit.task
  alike : Alike c w.coordinator
  promises : ∀ good, c.Promises good → w.coordinator.Promises good
  holds : ∀ good, c.Promises good → cache.Holds good → w.cache.Holds good

theorem wait_collected {arrivals : List Arrival} (truthful : c.Truthful declined arrivals)
    {unit : WorkUnit} (owes : c.Owes declined unit) :
    Collected declined c cache unit (c.wait cache unit.task arrivals) := by
  obtain ⟨state, rest, steps, subset, eq, done⟩ :
    c.Reaches declined cache unit.task arrivals _ := wait_reaches truthful
  have owed : state.1.Owes declined unit := owes.steps steps
  obtain ⟨unpending, outcome, due, settled⟩ := owed.settled done
  have collected : finish unit.task rest state = ⟨outcome,
      { state.1 with resolved := state.1.resolved.erase unit.task }, state.2, rest⟩ := by
    simp [finish, collect, settled]
  rw [eq, collected]
  refine
    { outcome := due
      truthful := truthful.steps steps subset
      owes := ?_
      knows := ?_
      alike := ⟨(alike_of_steps steps).lastTask, (alike_of_steps steps).parallel⟩
      promises := fun good promises => promises.steps steps
      holds := fun good promises holds => holds_of_steps promises holds steps }
  · intro other apart owesOther
    have kept : state.1.Owes declined other := owesOther.steps steps
    unfold Owes at *
    rwa [OrderedMap.get?_erase, if_neg apart]
  · intro task known
    by_cases same : task = unit.task
    · subst same
      simp [Knows, unpending] at known
    · refine ⟨knows_of_steps steps ?_, same⟩
      unfold Knows at *
      rwa [OrderedMap.get?_erase, if_neg same] at known

/-- What a number of waits comes to: the outcomes, and the books afterwards. -/
structure Completed (declined : TaskId → Prop) (c : Coordinator) (cache : SchemaCache)
    (units : List WorkUnit) (w : WaitedAll) : Prop where
  outcomes : List.Forall₂ (fun unit => Due declined unit unit.task) units w.outcomes
  knows : ∀ task, w.coordinator.Knows task → c.Knows task ∧ task ∉ units.map WorkUnit.task
  alike : Alike c w.coordinator
  holds : ∀ good, c.Promises good → cache.Holds good → w.cache.Holds good

/-- Where no task is declined, the outcomes are what the units generate. -/
theorem Completed.generated {units : List WorkUnit} {w : WaitedAll}
    (completed : Completed declined c cache units w)
    (willing : ∀ unit ∈ units, ¬ declined unit.task) :
    w.outcomes = (units.map WorkUnit.generate).map .ok := by
  obtain ⟨due, -, -, -⟩ := completed
  generalize w.outcomes = outcomes at due ⊢
  induction due with
  | nil => rfl
  | cons first _ ih =>
    obtain ⟨here, later⟩ := List.forall_mem_cons.mp willing
    rw [first.resolve_right fun refused => here refused.1, ih later, List.map_cons,
      List.map_cons]

/-- Waiting for units that are owed gives what is due for them, in their order. -/
theorem waitAll_completed {arrivals : List Arrival} (truthful : c.Truthful declined arrivals)
    {units : List WorkUnit} (distinct : (units.map WorkUnit.task).Nodup)
    (owes : ∀ unit ∈ units, c.Owes declined unit) :
    Completed declined c cache units (c.waitAll cache arrivals (units.map WorkUnit.task)) := by
  induction units generalizing c cache arrivals with
  | nil => exact ⟨.nil, fun task known => ⟨known, List.not_mem_nil⟩, ⟨rfl, rfl⟩,
      fun _ _ holds => holds⟩
  | cons unit rest ih =>
    obtain ⟨new, distinct⟩ := List.nodup_cons.mp distinct
    let w := c.wait cache unit.task arrivals
    have first : Collected declined c cache unit w :=
      wait_collected truthful (owes unit List.mem_cons_self)
    have owed : ∀ other ∈ rest, w.coordinator.Owes declined other := fun other member =>
      first.owes other (fun same => new (List.mem_map.mpr ⟨other, member, same⟩))
        (owes other (List.mem_cons_of_mem _ member))
    have others : Completed declined w.coordinator w.cache rest _ := ih first.truthful distinct owed
    refine ⟨?_, ?_, first.alike.trans others.alike, ?_⟩
    · exact .cons first.outcome others.outcomes
    · intro task known
      obtain ⟨known, later⟩ := others.knows task known
      obtain ⟨known, apart⟩ := first.knows task known
      exact ⟨known, List.not_mem_cons_of_ne_of_not_mem apart later⟩
    · intro good promises holds
      exact others.holds good (first.promises good promises) (first.holds good promises holds)

/-! ### Handing out -/

/-- What a worker is handed for a unit. -/
def jobOf (unit : WorkUnit) : Job :=
  ⟨unit.task, unit.encode⟩

/-- The books after units were handed out. -/
structure HandedOut (c : Coordinator) (units : List WorkUnit) (c' : Coordinator) : Prop where
  unit : ∀ unit ∈ units, c'.pending.get? unit.task = some ⟨unit, c.parallel⟩
  other : ∀ task ∉ units.map WorkUnit.task, c'.pending.get? task = c.pending.get? task
  resolved : c'.resolved = c.resolved
  alike : Alike c c'

theorem dispatchAll_handedOut {units : List WorkUnit} {jobs : List Job} {c' : Coordinator}
    (handOut : c.dispatchAll units = (jobs, c')) (distinct : (units.map WorkUnit.task).Nodup) :
    HandedOut c units c' := by
  induction units generalizing c jobs with
  | nil =>
    cases handOut
    exact ⟨fun _ member => absurd member List.not_mem_nil, fun _ _ => rfl, rfl, ⟨rfl, rfl⟩⟩
  | cons unit rest ih =>
    cases handOut
    obtain ⟨new, distinct⟩ := List.nodup_cons.mp distinct
    have later : HandedOut (c.dispatch unit).2 rest _ := ih rfl distinct
    refine ⟨?_, ?_, later.resolved, later.alike.lastTask, later.alike.parallel⟩
    · intro other member
      rcases List.mem_cons.mp member with rfl | member
      · exact (later.other other.task new).trans (OrderedMap.get?_insert_self ..)
      · exact later.unit other member
    · intro task absent
      rw [List.map_cons, List.mem_cons, not_or] at absent
      obtain ⟨apart, absent⟩ := absent
      refine (later.other task absent).trans ?_
      exact (OrderedMap.get?_insert ..).trans (if_neg apart)

theorem jobs_of_dispatchAll {units : List WorkUnit} {jobs : List Job} {c' : Coordinator}
    (handOut : c.dispatchAll units = (jobs, c')) :
    jobs = if c.parallel then units.map jobOf else [] := by
  induction units generalizing c jobs with
  | nil =>
    cases handOut
    simp
  | cons unit rest ih =>
    cases handOut
    have later := ih (c := (c.dispatch unit).2) rfl
    cases parallel : c.parallel <;> simp_all [dispatch, jobOf]

/-- A run of new units gives what is due for them, in their order, and leaves nothing of them in the
books. -/
theorem run_completed {units : List WorkUnit} {jobs : List Job} {c' : Coordinator}
    (handOut : c.dispatchAll units = (jobs, c')) (distinct : (units.map WorkUnit.task).Nodup)
    (new : ∀ unit ∈ units, ¬ c.Knows unit.task) {arrivals : List Job → List Arrival}
    (truthful : c'.Truthful declined (arrivals jobs)) :
    Completed declined c' cache units (c.run cache units arrivals) := by
  have handed : HandedOut c units c' := dispatchAll_handedOut handOut distinct
  rw [run, handOut]
  refine waitAll_completed truthful distinct fun unit member => Or.inl ?_
  have unknown := new unit member
  simp only [Knows, not_or, Bool.not_eq_true, Option.isSome_eq_false_iff, Option.isNone_iff_eq_none]
    at unknown
  rw [handed.resolved]
  exact ⟨⟨_, handed.unit unit member⟩, unknown.2⟩

end Schemata.Coordinator
