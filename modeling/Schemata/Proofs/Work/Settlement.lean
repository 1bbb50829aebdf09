import Schemata.Proofs.Work.Calls
import Schemata.Proofs.Work.Parallel

/-!
# Every task is settled once

A unit that is handed out is pending, then settled, then collected, and nothing leads back.  It is
settled with an output of its unit, whose schemas go into the cache at that moment and never again,
or it is cancelled: by a shutdown that found it pending or, shutdown or not, because the executor
itself answered that the task was cancelled.  The first wait for it gives what it was settled with,
and every later wait gives that the task is not known.

## Main definitions

* `Phase` : what the books, the answers and the commits say about a unit.
* `Desk.Orderly` : every unit that was handed out is in a phase.
* `Desk.SettledOnce` : what can be said of a desk after any number of calls.

## Main results

* `Desk.Orderly.path`, `Desk.Orderly.perform` : steps and calls keep the desk orderly.
* `Desk.settledOnce_performAll` : whatever calls are made and whatever comes in, every task is
  settled once.
* `Desk.cancelled_without_shutdown` : an executor can cancel its task on its own.
-/

namespace Schemata

open Coordinator

/-! ### Logs -/

/-- What a log holds about a task, in order. -/
def logged {α : Type} (task : TaskId) (log : List (TaskId × α)) : List α :=
  (log.filter fun entry => entry.1 = task).map Prod.snd

section Logs

variable {α : Type} {task other : TaskId} {log : List (TaskId × α)} {a : α}

theorem logged_append_self (news : List α) :
    logged task (log ++ news.map (task, ·)) = logged task log ++ news := by
  simp [logged, List.filter_map, Function.comp_def]

theorem logged_append_of_ne (apart : task ≠ other) (news : List α) :
    logged task (log ++ news.map (other, ·)) = logged task log := by
  simp [logged, List.filter_map, Function.comp_def, apart.symm]

theorem logged_snoc_self : logged task (log ++ [(task, a)]) = logged task log ++ [a] :=
  logged_append_self [a]

theorem logged_snoc_of_ne (apart : task ≠ other) :
    logged task (log ++ [(other, a)]) = logged task log :=
  logged_append_of_ne apart [a]

theorem mem_logged_iff : a ∈ logged task log ↔ (task, a) ∈ log := by
  simp [logged]

theorem logged_eq_nil (absent : ∀ entry ∈ log, entry.1 ≠ task) : logged task log = [] := by
  simpa [logged] using fun a b member => absent (a, b) member

/-- A log that holds at most one entry about every task names no task twice. -/
theorem nodup_of_length_logged_le (single : ∀ task, (logged task log).length ≤ 1) :
    (log.map Prod.fst).Nodup := by
  rw [List.nodup_iff_count_le_one]
  intro task
  have same : (log.map Prod.fst).count task = (logged task log).length := by
    rw [logged, List.length_map, List.count, List.countP_map, List.countP_eq_length_filter]
    rfl
  rw [same]
  exact single task

end Logs

/-! ### Phases -/

/-- What a unit can be settled with, and what is committed then. -/
inductive Settlement (executor : Executor) (unit : WorkUnit) :
    Except BatchError UnitOutput → List UnitOutput → Prop
  | output {output : UnitOutput} (yields : unit.Yields executor output) :
      Settlement executor unit (.ok output) [output]
  | cancelled : Settlement executor unit (.error (.cancelled unit.task)) []

/-- The phases of a unit that was handed out, by what is pending, what is settled, what the waits
gave and what was committed. -/
inductive Phase (executor : Executor) (unit : WorkUnit) : Option PendingTask →
    Option (Except BatchError UnitOutput) → List (Except BatchError UnitOutput) →
    List UnitOutput → Prop
  | pending (inWorker : Bool) : Phase executor unit (some ⟨unit, inWorker⟩) none [] []
  | settled {outcome : Except BatchError UnitOutput} {commits : List UnitOutput}
      (right : Settlement executor unit outcome commits) :
      Phase executor unit none (some outcome) [] commits
  | collected {outcome : Except BatchError UnitOutput} {commits : List UnitOutput}
      (right : Settlement executor unit outcome commits) (again : Nat) :
      Phase executor unit none none
        (outcome :: List.replicate again (.error (.unknownTask unit.task))) commits

namespace Phase

variable {executor : Executor} {unit : WorkUnit} {pending : Option PendingTask}
  {resolved : Option (Except BatchError UnitOutput)}
  {answers : List (Except BatchError UnitOutput)} {commits : List UnitOutput}

theorem of_pending {p : PendingTask}
    (phase : Phase executor unit (some p) resolved answers commits) :
    p.unit = unit ∧ resolved = none ∧ answers = [] ∧ commits = [] := by
  cases phase
  exact ⟨rfl, rfl, rfl, rfl⟩

theorem of_resolved {outcome : Except BatchError UnitOutput}
    (phase : Phase executor unit pending (some outcome) answers commits) :
    pending = none ∧ answers = [] ∧ Settlement executor unit outcome commits := by
  cases phase with
  | settled right => exact ⟨rfl, rfl, right⟩

theorem of_neither (phase : Phase executor unit none none answers commits) :
    ∃ outcome again, answers = outcome :: List.replicate again (.error (.unknownTask unit.task)) ∧
      Settlement executor unit outcome commits := by
  cases phase with
  | collected right again => exact ⟨_, again, rfl, right⟩

theorem yields_of_mem_commits (phase : Phase executor unit pending resolved answers commits)
    {output : UnitOutput} (member : output ∈ commits) : unit.Yields executor output := by
  cases phase with
  | pending inWorker => cases member
  | settled right | collected right again =>
    cases right with
    | output yields => exact List.mem_singleton.mp member ▸ yields
    | cancelled => cases member

/-- A unit is pending or settled, or a wait for it was answered. -/
theorem isSome_or_ne_nil (phase : Phase executor unit pending resolved answers commits) :
    (pending.isSome ∨ resolved.isSome) ∨ ∃ outcome, outcome ∈ answers := by
  cases phase with
  | pending inWorker | settled right => simp
  | collected right again => exact Or.inr ⟨_, List.mem_cons_self⟩

theorem length_commits_le (phase : Phase executor unit pending resolved answers commits) :
    commits.length ≤ 1 := by
  cases phase with
  | pending inWorker => simp
  | settled right | collected right again => cases right <;> simp

/-- What is committed is what the task is settled with, or what the first wait gave. -/
theorem mem_commits_iff (phase : Phase executor unit pending resolved answers commits)
    {output : UnitOutput} :
    output ∈ commits ↔ resolved = some (.ok output) ∨ .ok output ∈ answers := by
  cases phase with
  | pending inWorker => simp
  | settled right => cases right <;> simp [eq_comm]
  | collected right again => cases right <;> simp

end Phase

/-! ### New task numbers -/

/-- Units are numbered on from the last task. -/
structure Coordinator.Numbers (c : Coordinator) (units : List WorkUnit) (c' : Coordinator) :
    Prop where
  books : c' = { c with lastTask := c'.lastTask }
  grows : c.lastTask ≤ c'.lastTask
  distinct : (units.map WorkUnit.task).Nodup
  new : ∀ unit ∈ units, c.lastTask < unit.task.value ∧ unit.task.value ≤ c'.lastTask

theorem planRoots_numbers {c c' : Coordinator} {graph : ShapeGraph} {rules : RuleSet}
    {options : GenerateOptions} {chunks : List (List ShapeId)} {units : List WorkUnit}
    (room : c.lastTask.toNat + chunks.length < UInt64.size)
    (plan : c.planRoots graph rules options chunks = (units, c')) : c.Numbers units c' := by
  induction chunks generalizing c units with
  | nil =>
    cases plan
    exact ⟨rfl, UInt64.le_refl _, List.nodup_nil, fun _ member => absurd member List.not_mem_nil⟩
  | cons roots rest ih =>
    cases plan
    have next : (c.lastTask + 1).toNat = c.lastTask.toNat + 1 := by
      rw [UInt64.toNat_add]
      simp only [List.length_cons, UInt64.size, UInt64.reduceToNat] at *
      omega
    have later := ih (c := { c with lastTask := c.lastTask + 1 })
      (by simp only [next, List.length_cons] at *; omega) rfl
    have first : c.lastTask < c.lastTask + 1 := by
      rw [UInt64.lt_iff_toNat_lt, next]
      omega
    have grows := UInt64.lt_of_lt_of_le first later.grows
    refine ⟨later.books, UInt64.le_of_lt grows, ?_, ?_⟩
    · refine List.nodup_cons.mpr ⟨fun member => ?_, later.distinct⟩
      obtain ⟨unit, listed, same⟩ := List.mem_map.mp member
      have above := (later.new unit listed).1
      rw [same] at above
      exact UInt64.lt_irrefl _ above
    · intro unit member
      rcases List.mem_cons.mp member with rfl | member
      · exact ⟨first, later.grows⟩
      · obtain ⟨above, below⟩ := later.new unit member
        exact ⟨UInt64.lt_trans first above, below⟩

theorem plan_numbers {c c' : Coordinator} {graph : ShapeGraph} {ids : List ShapeId}
    {rules : RuleSet} {options : GenerateOptions} {units : List WorkUnit}
    (room : c.lastTask.toNat + ids.length < UInt64.size)
    (plan : c.plan graph ids rules options = (units, c')) : c.Numbers units c' := by
  have few := length_pieces_le (max 1 c.batchSize) ids
  exact planRoots_numbers (by omega) plan

/-! ### Orderly desks -/

namespace Desk

/-- Every unit that was handed out is in a phase, and nothing else is in the books. -/
structure Orderly (executor : Executor) (start : SchemaCache)
    (commits : List (TaskId × UnitOutput)) (d : Desk) : Prop where
  numbered : ∀ unit ∈ d.planned, unit.task.value ≤ d.coordinator.lastTask
  distinct : (d.planned.map WorkUnit.task).Nodup
  planned : d.dispatched ⊆ d.planned
  known : ∀ task, d.coordinator.Knows task → task ∈ d.tasks
  answered : ∀ entry ∈ d.answers, entry.1 ∈ d.tasks
  committed : ∀ entry ∈ commits, entry.1 ∈ d.tasks
  phase : ∀ unit ∈ d.dispatched, Phase executor unit (d.coordinator.pending.get? unit.task)
    (d.coordinator.resolved.get? unit.task) (logged unit.task d.answers) (logged unit.task commits)
  staffed : d.Staffed
  cache : d.cache =
    commits.foldl (fun cache entry => entry.2.schemas.foldl SchemaCache.insert cache) start

namespace Orderly

variable {executor : Executor} {stopping : Prop} {start : SchemaCache}
  {commits : List (TaskId × UnitOutput)} {d d' : Desk} {task : TaskId}

theorem eq_of_task_eq (orderly : d.Orderly executor start commits) {a b : WorkUnit}
    (ha : a ∈ d.dispatched) (hb : b ∈ d.dispatched) (same : a.task = b.task) : a = b :=
  List.inj_on_of_nodup_map orderly.distinct (orderly.planned ha) (orderly.planned hb) same

theorem unit_of_pending (orderly : d.Orderly executor start commits) {pending : PendingTask}
    (found : d.coordinator.pending.get? task = some pending) :
    pending.unit ∈ d.dispatched ∧ pending.unit.task = task := by
  have known : task ∈ d.tasks := orderly.known task (Or.inl (by simp [found]))
  obtain ⟨unit, listed, rfl⟩ := List.mem_map.mp known
  have phase := orderly.phase unit listed
  rw [found] at phase
  rw [phase.of_pending.1]
  exact ⟨listed, rfl⟩

/-- What has to be shown after a step: the units are the same. -/
theorem keep (orderly : d.Orderly executor start commits) (same : SameUnits d d')
    {commits' : List (TaskId × UnitOutput)}
    (known : ∀ task, d'.coordinator.Knows task → task ∈ d.tasks)
    (answered : ∀ entry ∈ d'.answers, entry.1 ∈ d.tasks)
    (committed : ∀ entry ∈ commits', entry.1 ∈ d.tasks)
    (phase : ∀ unit ∈ d.dispatched, Phase executor unit
      (d'.coordinator.pending.get? unit.task) (d'.coordinator.resolved.get? unit.task)
      (logged unit.task d'.answers) (logged unit.task commits'))
    (staffed : d'.Staffed)
    (cache : d'.cache =
      commits'.foldl (fun cache entry => entry.2.schemas.foldl SchemaCache.insert cache) start) :
    d'.Orderly executor start commits' := by
  have tasks : d'.tasks = d.tasks := congrArg (List.map WorkUnit.task) same.dispatched
  refine ⟨?_, ?_, ?_, ?_, ?_, ?_, ?_, staffed, cache⟩
  · rw [same.planned, same.lastTask]
    exact orderly.numbered
  · rw [same.planned]
    exact orderly.distinct
  · rw [same.planned, same.dispatched]
    exact orderly.planned
  · rwa [tasks]
  · rwa [tasks]
  · rwa [tasks]
  · rwa [same.dispatched]

/-- A pending task is settled, and what belongs to its settlement is committed. -/
theorem resolve (orderly : d.Orderly executor start commits) {pending : PendingTask}
    (found : d.coordinator.pending.get? task = some pending)
    {outcome : Except BatchError UnitOutput} {news : List UnitOutput}
    (right : Settlement executor pending.unit outcome news) {state : Coordinator × SchemaCache}
    (settled : Settled d.coordinator d.cache task outcome state) :
    (d.move state).Orderly executor start (commits ++ news.map (task, ·)) := by
  obtain ⟨listed, own⟩ := orderly.unit_of_pending found
  have here : task ∈ d.tasks := List.mem_map.mpr ⟨_, listed, own⟩
  obtain ⟨isPending, isResolved, alike, cache⟩ := settled
  refine orderly.keep (sameUnits_move alike.lastTask) ?_ orderly.answered ?_ ?_ ?_ ?_
  · intro other known
    by_cases same : other = task
    · rwa [same]
    · refine orderly.known other ?_
      simpa only [Knows, move, isPending, isResolved, OrderedMap.get?_erase,
        OrderedMap.get?_insert, if_neg same] using known
  · intro entry member
    rcases List.mem_append.mp member with old | new
    · exact orderly.committed entry old
    · obtain ⟨_, -, rfl⟩ := List.mem_map.mp new
      exact here
  · intro unit member
    simp only [move, isPending, isResolved, OrderedMap.get?_erase, OrderedMap.get?_insert]
    by_cases same : unit.task = task
    · -- The unit itself was pending, so nothing was answered or committed before.
      subst same
      obtain rfl : pending.unit = unit := orderly.eq_of_task_eq listed member own
      have phase := orderly.phase _ member
      rw [found] at phase
      obtain ⟨-, -, answers, none⟩ := phase.of_pending
      rw [if_pos rfl, if_pos rfl, logged_append_self, answers, none]
      exact .settled right
    · rw [if_neg same, if_neg same, logged_append_of_ne same]
      exact orderly.phase unit member
  · intro other p found' inWorker
    simp only [move, isPending, OrderedMap.get?_erase] at found'
    split at found'
    · cases found'
    · simpa only [move, alike.parallel] using orderly.staffed other p found' inWorker
  · rw [List.foldl_append, ← orderly.cache, List.foldl_map]
    cases right <;> exact cache

theorem settle (orderly : d.Orderly executor start commits) {pending : PendingTask}
    (found : d.coordinator.pending.get? task = some pending) {output : UnitOutput}
    (yields : pending.unit.Yields executor output) {state : Coordinator × SchemaCache}
    (settled : Settled d.coordinator d.cache task (.ok output) state) :
    (d.move state).Orderly executor start (commits ++ [(task, output)]) :=
  orderly.resolve found (.output yields) settled

theorem cancel (orderly : d.Orderly executor start commits) {pending : PendingTask}
    (found : d.coordinator.pending.get? task = some pending) :
    (d.move (d.coordinator.cancel task, d.cache)).Orderly executor start commits := by
  have right : Settlement executor pending.unit (.error (.cancelled task)) [] := by
    rw [← (orderly.unit_of_pending found).2]
    exact .cancelled
  have resolved : (d.move (d.coordinator.cancel task, d.cache)).Orderly executor start
      (commits ++ [].map (task, ·)) := orderly.resolve found right ⟨rfl, rfl, ⟨rfl, rfl⟩, rfl⟩
  rwa [List.map_nil, List.append_nil] at resolved

theorem collect (orderly : d.Orderly executor start commits) (listed : task ∈ d.tasks)
    (done : d.coordinator.pending.get? task = none ∨
      (d.coordinator.resolved.get? task).isSome) :
    (d.collect task).Orderly executor start commits := by
  refine orderly.keep (sameUnits_collect d task) ?_ ?_ orderly.committed ?_ ?_
    orderly.cache
  · intro other known
    refine orderly.known other ?_
    simp only [Knows, coordinator_collect, OrderedMap.get?_erase] at known
    rcases known with pending | resolved
    · exact Or.inl pending
    · split at resolved
      · cases resolved
      · exact Or.inr resolved
  · intro entry member
    rw [answers_collect] at member
    rcases List.mem_append.mp member with old | new
    · exact orderly.answered entry old
    · rw [List.mem_singleton.mp new]
      exact listed
  · intro unit member
    rw [coordinator_collect, answers_collect]
    simp only [OrderedMap.get?_erase]
    by_cases same : unit.task = task
    · subst same
      have phase := orderly.phase unit member
      rw [if_pos rfl, logged_snoc_self]
      cases resolved : d.coordinator.resolved.get? unit.task with
      | some outcome =>
        rw [resolved] at phase
        obtain ⟨none, answers, right⟩ := phase.of_resolved
        rw [none, answers]
        exact .collected right 0
      | none =>
        have none : d.coordinator.pending.get? unit.task = none := by simpa [resolved] using done
        rw [none, resolved] at phase
        obtain ⟨outcome, again, answers, right⟩ := phase.of_neither
        rw [none, answers, List.cons_append, Option.getD_none, ← List.replicate_succ']
        exact .collected right (again + 1)
    · rw [if_neg same, logged_snoc_of_ne same]
      exact orderly.phase unit member
  · intro other p found inWorker
    rw [coordinator_collect] at found ⊢
    exact orderly.staffed other p found inWorker

theorem close (orderly : d.Orderly executor start commits)
    (empty : ∀ task, d.coordinator.pending.get? task = none) :
    (d.move ({ d.coordinator with parallel := false }, d.cache)).Orderly executor start
      commits := by
  have same : SameUnits d (d.move ({ d.coordinator with parallel := false }, d.cache)) :=
    sameUnits_move rfl
  refine orderly.keep same orderly.known orderly.answered orderly.committed orderly.phase
    (fun task p found => ?_) orderly.cache
  cases found.symm.trans (empty task)

/-- Every step keeps the desk orderly. -/
theorem step (orderly : d.Orderly executor start commits) (step : Step executor stopping d d') :
    ∃ commits', d'.Orderly executor start commits' := by
  cases step.effect with
  | settle found yields settled =>
    obtain ⟨listed, own⟩ := orderly.unit_of_pending found
    exact ⟨_, orderly.settle found (yields listed own) settled⟩
  | cancel found cause => exact ⟨_, orderly.cancel found⟩
  | collect listed done => exact ⟨_, orderly.collect listed done⟩
  | close stops empty => exact ⟨_, orderly.close empty⟩

theorem path (orderly : d.Orderly executor start commits) (path : Path executor stopping d d') :
    ∃ commits', d'.Orderly executor start commits' := by
  induction path with
  | refl => exact ⟨commits, orderly⟩
  | tail _ step ih =>
    obtain ⟨commits', orderly'⟩ := ih
    exact orderly'.step step

/-! ### Calls -/

theorem plan (orderly : d.Orderly executor start commits) {graph : ShapeGraph} {ids : List ShapeId}
    {rules : RuleSet} {options : GenerateOptions}
    (room : d.coordinator.lastTask.toNat + ids.length < UInt64.size) :
    (d.perform (.plan graph ids rules options)).Orderly executor start commits := by
  rcases plan : d.coordinator.plan graph ids rules options with ⟨units, c⟩
  have numbers : d.coordinator.Numbers units c := plan_numbers room plan
  have known : c.Knows = d.coordinator.Knows := by
    rw [numbers.books]
    rfl
  simp only [perform, plan]
  refine ⟨?_, ?_, ?_, ?_, orderly.answered, orderly.committed, ?_, ?_, orderly.cache⟩
  · intro unit member
    rcases List.mem_append.mp member with old | new
    · exact UInt64.le_trans (orderly.numbered unit old) numbers.grows
    · exact (numbers.new unit new).2
  · rw [List.map_append]
    refine orderly.distinct.append numbers.distinct fun task old new => ?_
    -- Old tasks have numbers up to the last one, and new tasks have later numbers.
    obtain ⟨a, ha, rfl⟩ := List.mem_map.mp old
    obtain ⟨b, hb, same⟩ := List.mem_map.mp new
    have above := (numbers.new b hb).1
    rw [same] at above
    exact UInt64.not_le.mpr above (orderly.numbered a ha)
  · exact List.subset_append_of_subset_left units orderly.planned
  · rw [known]
    exact orderly.known
  · rw [numbers.books]
    exact orderly.phase
  · rw [numbers.books]
    exact orderly.staffed

/-- Nothing is known of a task that was not handed out. -/
theorem untouched (orderly : d.Orderly executor start commits) (unused : task ∉ d.tasks) :
    d.coordinator.resolved.get? task = none ∧ logged task d.answers = [] ∧
      logged task commits = [] := by
  refine ⟨?_, ?_, ?_⟩
  · by_contra settled
    exact unused (orderly.known _ (Or.inr (Option.isSome_iff_ne_none.mpr settled)))
  · exact logged_eq_nil fun entry member same => unused (same ▸ orderly.answered entry member)
  · exact logged_eq_nil fun entry member same => unused (same ▸ orderly.committed entry member)

theorem unused (orderly : d.Orderly executor start commits) {unit : WorkUnit}
    (planned : unit ∈ d.planned) (new : unit ∉ d.dispatched) : unit.task ∉ d.tasks := by
  intro used
  obtain ⟨other, listed, same⟩ := List.mem_map.mp used
  rw [List.inj_on_of_nodup_map orderly.distinct (orderly.planned listed) planned same] at listed
  exact new listed

theorem handOut (orderly : d.Orderly executor start commits) {unit : WorkUnit}
    (planned : unit ∈ d.planned) (new : unit ∉ d.dispatched) :
    (d.handOut unit).Orderly executor start commits := by
  have unused := orderly.unused planned new
  have tasks : (d.handOut unit).tasks = d.tasks ++ [unit.task] := List.map_append
  have pending (task : TaskId) : (d.handOut unit).coordinator.pending.get? task =
      if task = unit.task then some ⟨unit, d.coordinator.parallel⟩
      else d.coordinator.pending.get? task := OrderedMap.get?_insert ..
  refine ⟨orderly.numbered, orderly.distinct, ?_, ?_, ?_, ?_, ?_, ?_, orderly.cache⟩
  · exact List.append_subset.mpr
      ⟨orderly.planned, List.cons_subset.mpr ⟨planned, List.nil_subset _⟩⟩
  · intro task known
    rw [tasks]
    by_cases same : task = unit.task
    · exact List.mem_append_right _ (List.mem_singleton.mpr same)
    · refine List.mem_append_left _ (orderly.known task ?_)
      rwa [Knows, pending, if_neg same] at known
  · intro entry member
    rw [tasks]
    exact List.mem_append_left _ (orderly.answered entry member)
  · intro entry member
    rw [tasks]
    exact List.mem_append_left _ (orderly.committed entry member)
  · intro other member
    rw [pending]
    by_cases same : other.task = unit.task
    · obtain rfl : other = unit := by
        rcases List.mem_append.mp member with old | own
        · exact absurd (List.mem_map.mpr ⟨other, old, same⟩) unused
        · exact List.mem_singleton.mp own
      obtain ⟨unresolved, unanswered, uncommitted⟩ := orderly.untouched unused
      rw [if_pos rfl]
      change Phase executor other _ (d.coordinator.resolved.get? other.task)
        (logged other.task d.answers) _
      rw [unresolved, unanswered, uncommitted]
      exact .pending _
    · rw [if_neg same]
      refine orderly.phase other ((List.mem_append.mp member).resolve_right fun own => ?_)
      exact same (congrArg WorkUnit.task (List.mem_singleton.mp own))
  · intro task p found inWorker
    rw [pending] at found
    split at found
    · cases found
      exact inWorker
    · exact orderly.staffed task p found inWorker

theorem handOutAll (orderly : d.Orderly executor start commits) {units : List WorkUnit}
    (distinct : units.Nodup) (new : ∀ unit ∈ units, unit ∈ d.planned ∧ unit ∉ d.dispatched) :
    (units.foldl Desk.handOut d).Orderly executor start commits := by
  induction units generalizing d with
  | nil => exact orderly
  | cons unit rest ih =>
    obtain ⟨apart, distinct⟩ := List.nodup_cons.mp distinct
    obtain ⟨planned, unused⟩ := new unit List.mem_cons_self
    refine ih (orderly.handOut planned unused) distinct fun other member => ?_
    obtain ⟨planned, unused⟩ := new other (List.mem_cons_of_mem _ member)
    refine ⟨planned, fun used => ?_⟩
    rcases List.mem_append.mp used with old | own
    · exact unused old
    · exact apart (List.mem_singleton.mp own ▸ member)

/-- The waits of a run. -/
theorem run_path (orderly : d.Orderly executor start commits) {units : List WorkUnit}
    {arrivals : List Arrival} (allowed : d.Allows executor (.run units arrivals)) :
    Path executor False (units.foldl Desk.handOut d) (d.perform (.run units arrivals)) := by
  obtain ⟨distinct, new, heard⟩ := allowed
  rw [perform_run]
  refine (orderly.handOutAll distinct new).staffed.waitAll_path (fun task member => ?_) ?_
  · rw [foldl_handOut, tasks, List.map_append]
    exact List.mem_append_right _ member
  · simpa only [foldl_handOut, parallel_dispatchAll] using heard

/-- Every call keeps the desk orderly. -/
theorem perform (orderly : d.Orderly executor start commits) {call : Call}
    (allowed : d.Allows executor call) :
    ∃ commits', (d.perform call).Orderly executor start commits' := by
  cases call with
  | plan graph ids rules options => exact ⟨commits, orderly.plan allowed⟩
  | dispatch unit => exact ⟨commits, orderly.handOut allowed.1 allowed.2⟩
  | wait task arrivals => exact orderly.path (orderly.staffed.wait_path allowed.1 allowed.2)
  | run units arrivals =>
    exact (orderly.handOutAll allowed.1 allowed.2.1).path (orderly.run_path allowed)
  | shutdown arrivals ended => exact orderly.path (perform_shutdown_path trivial ended allowed)

end Orderly

/-! ### Cancelled tasks -/

section Cancelled

variable {executor : Executor} {stopping : Prop} {start : SchemaCache}
  {commits : List (TaskId × UnitOutput)} {d d' : Desk} {task : TaskId}

/-- The task is settled as cancelled, or a wait gave that it is. -/
def IsCancelled (d : Desk) (task : TaskId) : Prop :=
  d.coordinator.resolved.get? task = some (.error (.cancelled task)) ∨
    (task, .error (.cancelled task)) ∈ d.answers

/-- A step cancels a task only if it was pending and the coordinator is stopping, or if the executor
declines its unit. -/
theorem Effect.isCancelled (effect : Effect executor stopping d d') (h : d'.IsCancelled task) :
    d.IsCancelled task ∨ (stopping ∧ (d.coordinator.pending.get? task).isSome) ∨
      Declines executor d'.dispatched task := by
  cases effect with
  | settle found yields settled =>
    refine Or.inl (h.imp_left fun resolved => ?_)
    simp only [move, settled.resolved, OrderedMap.get?_insert] at resolved
    split at resolved
    · cases resolved
    · exact resolved
  | @cancel other pending found cause =>
    by_cases same : task = other
    · subst same
      exact Or.inr (cause.imp_left fun stops => ⟨stops, Option.isSome_of_eq_some found⟩)
    · refine Or.inl (h.imp_left fun resolved => ?_)
      simpa only [move, Coordinator.cancel, OrderedMap.get?_insert, if_neg same] using resolved
  | @collect other listed done =>
    left
    rcases h with resolved | answered
    · simp only [coordinator_collect, OrderedMap.get?_erase] at resolved
      split at resolved
      · cases resolved
      · exact Or.inl resolved
    · rw [answers_collect, List.mem_append, List.mem_singleton, Prod.mk.injEq] at answered
      rcases answered with old | ⟨rfl, own⟩
      · exact Or.inr old
      · cases resolved : d.coordinator.resolved.get? task with
        | some outcome =>
          rw [resolved, Option.getD_some] at own
          exact Or.inl (own ▸ resolved)
        | none =>
          rw [resolved, Option.getD_none] at own
          cases own
  | close stops empty => exact Or.inl h

theorem Path.isCancelled (path : Path executor stopping d d') (h : d'.IsCancelled task) :
    d.IsCancelled task ∨ (stopping ∧ (d.coordinator.pending.get? task).isSome) ∨
      Declines executor d'.dispatched task := by
  induction path with
  | refl => exact Or.inl h
  | tail before step ih =>
    rcases step.effect.isCancelled h with h | ⟨stops, pending⟩ | declines
    · rw [step.effect.sameUnits.dispatched]
      exact ih h
    · obtain ⟨p, found⟩ := Option.isSome_iff_exists.mp pending
      exact Or.inr (Or.inl ⟨stops, Option.isSome_of_eq_some (Path.pending before found)⟩)
    · exact Or.inr (Or.inr declines)

/-- A call cancels a task only if it is a shutdown that finds the task pending, or if the executor
declines its unit. -/
theorem Orderly.isCancelled_perform (orderly : d.Orderly executor start commits) {call : Call}
    (allowed : d.Allows executor call) (h : (d.perform call).IsCancelled task) :
    d.IsCancelled task ∨ ((∃ arrivals ended, call = .shutdown arrivals ended) ∧
      (d.coordinator.pending.get? task).isSome) ∨
        Declines executor (d.perform call).dispatched task := by
  cases call with
  | plan graph ids rules options =>
    left
    rcases plan : d.coordinator.plan graph ids rules options with ⟨units, c⟩
    have numbers : d.coordinator.Numbers units c := plan_numbers allowed plan
    simp only [IsCancelled, Desk.perform, plan] at h
    rw [numbers.books] at h
    exact h
  | dispatch unit => exact Or.inl h
  | wait task' arrivals =>
    have cancelled := (orderly.staffed.wait_path allowed.1 allowed.2).isCancelled h
    exact cancelled.imp_right fun later => Or.inr (later.resolve_left fun stops => stops.1)
  | run units arrivals =>
    have cancelled := (orderly.run_path allowed).isCancelled h
    rw [foldl_handOut, IsCancelled, resolved_dispatchAll] at cancelled
    exact cancelled.imp_right fun later => Or.inr (later.resolve_left fun stops => stops.1)
  | shutdown arrivals ended =>
    have cancelled := Path.isCancelled (perform_shutdown_path trivial ended allowed) h
    exact cancelled.imp_right (Or.imp_left fun stops => ⟨⟨arrivals, ended, rfl⟩, stops.2⟩)

theorem dispatched_subset_perform (d : Desk) (call : Call) :
    d.dispatched ⊆ (d.perform call).dispatched := by
  cases call with
  | dispatch unit => exact List.subset_append_left _ _
  | run units arrivals => exact List.subset_append_left _ _
  | _ => exact List.Subset.refl _

end Cancelled

/-! ### Whole runs -/

/-- Calls one after the other. -/
def performAll (d : Desk) (calls : List Call) : Desk :=
  calls.foldl perform d

/-- Each of the calls can be made when its turn has come. -/
def AllowsAll (executor : Executor) (d : Desk) : List Call → Prop
  | [] => True
  | call :: rest => d.Allows executor call ∧ (d.perform call).AllowsAll executor rest

variable {executor : Executor} {start : SchemaCache} {commits : List (TaskId × UnitOutput)}
  {d : Desk} {calls : List Call}

theorem Orderly.performAll (orderly : d.Orderly executor start commits)
    (allowed : d.AllowsAll executor calls) :
    ∃ commits', (d.performAll calls).Orderly executor start commits' := by
  induction calls generalizing d commits with
  | nil => exact ⟨commits, orderly⟩
  | cons call rest ih =>
    obtain ⟨commits', orderly'⟩ := orderly.perform allowed.1
    exact ih orderly' allowed.2

theorem dispatched_subset_performAll (d : Desk) (calls : List Call) :
    d.dispatched ⊆ (d.performAll calls).dispatched := by
  induction calls generalizing d with
  | nil => exact List.Subset.refl _
  | cons call rest ih =>
    exact List.Subset.trans (dispatched_subset_perform d call) (ih (d.perform call))

/-- A task that is cancelled was pending at one of the shutdowns, or the executor declines its
unit. -/
theorem Orderly.isCancelled_performAll (orderly : d.Orderly executor start commits)
    (allowed : d.AllowsAll executor calls) {task : TaskId}
    (h : (d.performAll calls).IsCancelled task) :
    d.IsCancelled task ∨ (∃ before arrivals ended after,
      calls = before ++ .shutdown arrivals ended :: after ∧
        (d.performAll before).coordinator.pending.contains task) ∨
      Declines executor (d.performAll calls).dispatched task := by
  induction calls generalizing d commits with
  | nil => exact Or.inl h
  | cons call rest ih =>
    obtain ⟨commits', orderly'⟩ := orderly.perform allowed.1
    rcases ih orderly' allowed.2 h with
      now | ⟨before, arrivals, ended, after, rfl, pending⟩ | declines
    · rcases orderly.isCancelled_perform allowed.1 now with
        early | ⟨⟨arrivals, ended, rfl⟩, pending⟩ | declines
      · exact Or.inl early
      · rw [← OrderedMap.contains_eq_isSome] at pending
        exact Or.inr (Or.inl ⟨[], arrivals, ended, rest, rfl, pending⟩)
      · exact Or.inr (Or.inr (declines.mono (dispatched_subset_performAll _ rest)))
    · exact Or.inr (Or.inl ⟨call :: before, arrivals, ended, after, rfl, pending⟩)
    · exact Or.inr (Or.inr declines)

/-- A unit that the executor does not decline is cancelled only by a shutdown that finds it
pending. -/
theorem Orderly.shutdown_of_isCancelled (orderly : d.Orderly executor start commits)
    (allowed : d.AllowsAll executor calls) {unit : WorkUnit}
    (listed : unit ∈ (d.performAll calls).dispatched) (before : ¬ d.IsCancelled unit.task)
    (willing : ((jobOf unit).run executor).outcome ≠ .error .cancelled)
    (h : (d.performAll calls).IsCancelled unit.task) :
    ∃ before arrivals ended after, calls = before ++ .shutdown arrivals ended :: after ∧
      (d.performAll before).coordinator.pending.contains unit.task := by
  obtain ⟨commits', orderly'⟩ := orderly.performAll allowed
  rcases orderly.isCancelled_performAll allowed h with
    early | shutdown | ⟨other, member, same, declined⟩
  · exact absurd early before
  · exact shutdown
  · obtain rfl : other = unit := orderly'.eq_of_task_eq member listed same
    exact absurd declined willing

/-- What can be said of every task after calls from a first desk on. -/
structure SettledOnce (executor : Executor) (first : Desk) (calls : List Call) (d : Desk) :
    Prop where
  /-- No task is both pending and settled. -/
  exclusive : ∀ task,
    ¬ (d.coordinator.pending.contains task ∧ d.coordinator.resolved.contains task)
  /-- No unit gets lost. -/
  accounted : ∀ unit ∈ d.dispatched,
    d.coordinator.Knows unit.task ∨ ∃ outcome, (unit.task, outcome) ∈ d.answers
  /-- The cache holds what was committed, at most once for every task, and what was committed for a
  task is what it is settled with or what a wait for it gave. -/
  committed : ∃ commits : List (TaskId × UnitOutput), (commits.map Prod.fst).Nodup ∧
    d.cache = commits.foldl
      (fun cache entry => entry.2.schemas.foldl SchemaCache.insert cache) first.cache ∧
    (∀ entry ∈ commits, ∃ unit ∈ d.dispatched, unit.task = entry.1 ∧
      unit.Yields executor entry.2) ∧
    ∀ unit ∈ d.dispatched, ∀ output, (unit.task, output) ∈ commits ↔
      d.coordinator.resolved.get? unit.task = some (.ok output) ∨
        (unit.task, .ok output) ∈ d.answers
  /-- The first wait for a task gives an output of its unit, or that it is cancelled; all others
  give that it is not known. -/
  answered : ∀ unit ∈ d.dispatched, ∀ outcome later,
    logged unit.task d.answers = outcome :: later →
      (∀ other ∈ later, other = .error (.unknownTask unit.task)) ∧
      ((∃ output, unit.Yields executor output ∧ outcome = .ok output) ∨
        outcome = .error (.cancelled unit.task))
  /-- If the executor does not itself answer that the task was cancelled, a wait gives that it is
  only if a shutdown found it pending. -/
  cancelled : ∀ unit ∈ d.dispatched, ((jobOf unit).run executor).outcome ≠ .error .cancelled →
    (unit.task, .error (.cancelled unit.task)) ∈ d.answers →
      ∃ before arrivals ended after, calls = before ++ .shutdown arrivals ended :: after ∧
        (first.performAll before).coordinator.pending.contains unit.task
  /-- Results of tasks that are not pending change nothing. -/
  late : ∀ call, d.perform (call.timely d) = d.perform call

theorem Orderly.exclusive (orderly : d.Orderly executor start commits) (task : TaskId) :
    ¬ (d.coordinator.pending.contains task ∧ d.coordinator.resolved.contains task) := by
  rintro ⟨pending, resolved⟩
  rw [OrderedMap.contains_eq_isSome] at pending resolved
  obtain ⟨unit, listed, rfl⟩ := List.mem_map.mp (orderly.known task (Or.inl pending))
  obtain ⟨outcome, settled⟩ := Option.isSome_iff_exists.mp resolved
  have phase := orderly.phase unit listed
  rw [settled] at phase
  rw [phase.of_resolved.1] at pending
  cases pending

theorem Orderly.nodup_commits (orderly : d.Orderly executor start commits) :
    (commits.map Prod.fst).Nodup := by
  refine nodup_of_length_logged_le fun task => ?_
  by_cases known : task ∈ d.tasks
  · obtain ⟨unit, listed, rfl⟩ := List.mem_map.mp known
    exact (orderly.phase unit listed).length_commits_le
  · have none : logged task commits = [] :=
      logged_eq_nil fun entry member same => known (same ▸ orderly.committed entry member)
    simp [none]

theorem Orderly.exists_unit_of_mem_commits (orderly : d.Orderly executor start commits)
    {entry : TaskId × UnitOutput} (member : entry ∈ commits) :
    ∃ unit ∈ d.dispatched, unit.task = entry.1 ∧ unit.Yields executor entry.2 := by
  obtain ⟨unit, listed, own⟩ := List.mem_map.mp (orderly.committed entry member)
  refine ⟨unit, listed, own, (orderly.phase unit listed).yields_of_mem_commits ?_⟩
  rw [own]
  exact mem_logged_iff.mpr member

theorem Orderly.mem_commits_iff (orderly : d.Orderly executor start commits) {unit : WorkUnit}
    (listed : unit ∈ d.dispatched) {output : UnitOutput} :
    (unit.task, output) ∈ commits ↔
      d.coordinator.resolved.get? unit.task = some (.ok output) ∨
        (unit.task, .ok output) ∈ d.answers := by
  rw [← mem_logged_iff, (orderly.phase unit listed).mem_commits_iff, mem_logged_iff]

/-- What waits for a unit gave: what it was settled with, and then that it is not known. -/
theorem Orderly.answers_eq (orderly : d.Orderly executor start commits) {unit : WorkUnit}
    (listed : unit ∈ d.dispatched) {outcome : Except BatchError UnitOutput}
    {later : List (Except BatchError UnitOutput)}
    (answers : logged unit.task d.answers = outcome :: later) :
    (∀ other ∈ later, other = .error (.unknownTask unit.task)) ∧
      ((∃ output, unit.Yields executor output ∧ outcome = .ok output) ∨
        outcome = .error (.cancelled unit.task)) := by
  have phase := orderly.phase unit listed
  rw [answers] at phase
  generalize d.coordinator.pending.get? unit.task = pending at phase
  generalize d.coordinator.resolved.get? unit.task = resolved at phase
  generalize logged unit.task commits = committed at phase
  cases phase with
  | collected right again =>
    refine ⟨fun other member => List.eq_of_mem_replicate member, ?_⟩
    cases right with
    | output yields => exact Or.inl ⟨_, yields, rfl⟩
    | cancelled => exact Or.inr rfl

theorem not_isCancelled_new {c : Coordinator} (idle : c.Idle) (cache : SchemaCache)
    (task : TaskId) : ¬ (new c cache).IsCancelled task := by
  rintro (resolved | answered)
  · exact idle task (Or.inr (Option.isSome_of_eq_some resolved))
  · cases answered

theorem orderly_new {c : Coordinator} (idle : c.Idle) (cache : SchemaCache) :
    (new c cache).Orderly executor cache [] where
  numbered _ member := absurd member List.not_mem_nil
  distinct := List.nodup_nil
  planned := List.nil_subset _
  known task known := absurd known (idle task)
  answered _ member := absurd member List.not_mem_nil
  committed _ member := absurd member List.not_mem_nil
  phase _ member := absurd member List.not_mem_nil
  staffed task pending found _ := by
    have known : c.Knows task := Or.inl (Option.isSome_of_eq_some found)
    exact absurd known (idle task)
  cache := rfl

/-- Whatever calls are made of a new coordinator and whatever comes in, every task is settled once;
and it is cancelled only by a shutdown that found it pending, unless the executor itself answers
that it was. -/
theorem settledOnce_performAll {c : Coordinator} (idle : c.Idle) (cache : SchemaCache)
    (allowed : (new c cache).AllowsAll executor calls) :
    SettledOnce executor (new c cache) calls ((new c cache).performAll calls) := by
  have new : (new c cache).Orderly executor cache [] := orderly_new idle cache
  obtain ⟨commits, orderly⟩ := new.performAll allowed
  refine
    { exclusive := orderly.exclusive
      accounted := fun unit listed => ?_
      committed := ⟨commits, orderly.nodup_commits, orderly.cache,
        fun entry => orderly.exists_unit_of_mem_commits,
        fun unit listed output => orderly.mem_commits_iff listed⟩
      answered := fun unit listed outcome later => orderly.answers_eq listed
      cancelled := fun unit listed willing answered => new.shutdown_of_isCancelled allowed listed
        (not_isCancelled_new idle cache unit.task) willing (Or.inr answered)
      late := perform_timely _ }
  refine (orderly.phase unit listed).isSome_or_ne_nil.imp_right fun ⟨outcome, member⟩ => ?_
  exact ⟨outcome, mem_logged_iff.mp member⟩

/-- The unit of a declaration of the ring. -/
def ringUnit (task : UInt64) (root : ShapeId) : WorkUnit :=
  .ofGraph ⟨task⟩ Generator.ring [root] (.ofTable .empty) {}

/-- The first worker is too slow, the second panics after the first is done after all, and the third
is told to stop before it begins. -/
def ringCalls : List Call := [
  .plan Generator.ring [⟨1⟩, ⟨7⟩, ⟨5⟩] (.ofTable .empty) {},
  .dispatch (ringUnit 1 ⟨1⟩), .dispatch (ringUnit 2 ⟨7⟩), .dispatch (ringUnit 3 ⟨5⟩),
  .wait ⟨1⟩ [.silence],
  .wait ⟨2⟩ [.result ((jobOf (ringUnit 1 ⟨1⟩)).run .generate),
    .result ⟨⟨2⟩, .error (.panicked "out of memory")⟩],
  .wait ⟨1⟩ [],
  .shutdown [.result ⟨⟨3⟩, .error .cancelled⟩] 0,
  .wait ⟨3⟩ []]

theorem allowsAll_ringCalls : (new fresh (.new 1)).AllowsAll .generate ringCalls := by
  have room : fresh.lastTask.toNat + 3 < UInt64.size := by decide
  refine ⟨room, ?_, ?_, ?_, ?_, ?_, ?_, ?_, ?_, trivial⟩
  · exact ⟨by decide +kernel, by decide +kernel⟩
  · exact ⟨by decide +kernel, by decide +kernel⟩
  · exact ⟨by decide +kernel, by decide +kernel⟩
  · exact ⟨by decide +kernel, heard_nil.cons_silence⟩
  · refine ⟨by decide +kernel, (heard_nil.cons_result ?_).cons_result ?_⟩
    · exact sent_error _ (by simp)
    · exact sent_run (by decide +kernel) (by decide +kernel)
  · exact ⟨by decide +kernel, heard_nil⟩
  · exact heard_nil.cons_result (sent_error _ fun _ => trivial)
  · exact ⟨by decide +kernel, heard_nil⟩

theorem settledOnce_performAll_ring :
    fresh.Idle ∧ (new fresh (.new 1)).AllowsAll .generate ringCalls ∧
      SettledOnce .generate (new fresh (.new 1)) ringCalls
        ((new fresh (.new 1)).performAll ringCalls) :=
  ⟨idle_fresh, allowsAll_ringCalls,
    settledOnce_performAll idle_fresh (.new 1) allowsAll_ringCalls⟩

/-- One waits for a worker whose executor declines its unit. -/
def declinedCalls : List Call := [
  .plan Generator.ring [⟨1⟩] (.ofTable .empty) {},
  .dispatch (ringUnit 1 ⟨1⟩),
  .wait ⟨1⟩ [.result ((jobOf (ringUnit 1 ⟨1⟩)).run declining)]]

theorem allowsAll_declinedCalls : (new fresh (.new 1)).AllowsAll declining declinedCalls := by
  have room : fresh.lastTask.toNat + 1 < UInt64.size := by decide
  refine ⟨room, ⟨by decide +kernel, by decide +kernel⟩, ⟨by decide +kernel, ?_⟩, trivial⟩
  exact heard_nil.cons_result (sent_run (by decide +kernel) (by decide +kernel))

/-- The first wait for a task that its executor declines gives that the task is cancelled, although
there is no shutdown among the calls. -/
theorem cancelled_without_shutdown :
    fresh.Idle ∧ (new fresh (.new 1)).AllowsAll declining declinedCalls ∧
      (∀ arrivals ended, .shutdown arrivals ended ∉ declinedCalls) ∧
      ∃ unit ∈ ((new fresh (.new 1)).performAll declinedCalls).dispatched,
        logged unit.task ((new fresh (.new 1)).performAll declinedCalls).answers
          = [.error (.cancelled unit.task)] := by
  have listed : ringUnit 1 ⟨1⟩ ∈ ((new fresh (.new 1)).performAll declinedCalls).dispatched := by
    decide +kernel
  refine ⟨idle_fresh, allowsAll_declinedCalls, by simp [declinedCalls], _, listed, ?_⟩
  have failed : (logged (ringUnit 1 ⟨1⟩).task
      ((new fresh (.new 1)).performAll declinedCalls).answers).map (·.toOption.isSome)
        = [false] := by
    decide +kernel
  obtain ⟨outcome, answers, failed⟩ := List.map_eq_singleton_iff.mp failed
  obtain ⟨commits, orderly⟩ := (orderly_new idle_fresh (.new 1)).performAll allowsAll_declinedCalls
  rcases (orderly.answers_eq listed answers).2 with ⟨output, -, rfl⟩ | rfl
  · cases failed
  · exact answers

end Desk

end Schemata
