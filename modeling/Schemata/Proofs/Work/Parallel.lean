import Mathlib.Data.List.Nodup
import Schemata.Proofs.Schema.Locality
import Schemata.Proofs.Work.Coordinator
import Schemata.Proofs.Work.Unit
import Schemata.Work.Pool

/-!
# Parallel generation

A plan cuts declarations into units, which workers generate from the parts of the graph that they
are handed.  Whether the workers finish, fail, panic or are too slow, the outputs of a run make up
the schemas that the declarations have in the whole graph, in their order.  What is lost is the unit
of a worker that itself answers that its task was cancelled: the coordinator does not generate such
a unit in process, although nobody shut it down.

## Main definitions

* `Coordinator.Numbered` : the books hold no task that is still to be planned.
* `Coordinator.Readable` : workers can read the units that are pending.
* `Coordinator.Declined` : a worker answers that a task was cancelled.
* `Coordinator.Honest` : a worker that succeeds has generated the unit that it read.
* `Coordinator.Faithful` : workers that are honest in every run, and decline nothing.
* `Coordinator.Idle` : the books are empty.

## Main results

* `WorkUnit.schemas_ofGraph` : a unit yields the schemas that its roots have in the whole graph.
* `Coordinator.plan_planned` : what a plan comes to.
* `Coordinator.run_plan_idle` : what an idle coordinator makes of a plan.
* `Coordinator.run_plan_schemas` : a planned run gives the schemas of the whole graph, except for
  the units that workers declined.
* `Coordinator.run_plan_declining` : declined units are lost.
-/

namespace Schemata

/-! ### Pieces -/

private theorem flatten_pieces_go {α : Type} {size : Nat} (positive : 0 < size) {fuel : Nat}
    {items : List α} (enough : items.length ≤ fuel) :
    (pieces.go size fuel items).flatten = items := by
  induction fuel generalizing items with
  | zero => simp [pieces.go, List.length_eq_zero_iff.mp (Nat.le_zero.mp enough)]
  | succ fuel ih =>
    unfold pieces.go
    split
    · rename_i h
      simp [List.isEmpty_iff.mp h]
    · have shorter : (items.drop size).length ≤ fuel := by
        rw [List.length_drop]
        omega
      rw [List.flatten_cons, ih shorter, List.take_append_drop]

theorem flatten_pieces {α : Type} {size : Nat} (positive : 0 < size) (items : List α) :
    (pieces size items).flatten = items :=
  flatten_pieces_go positive (Nat.le_refl _)

private theorem length_pieces_go_le {α : Type} (size fuel : Nat) (items : List α) :
    (pieces.go size fuel items).length ≤ fuel := by
  induction fuel generalizing items with
  | zero => simp [pieces.go]
  | succ fuel ih =>
    unfold pieces.go
    split
    · simp
    · simpa using ih (items.drop size)

theorem length_pieces_le {α : Type} (size : Nat) (items : List α) :
    (pieces size items).length ≤ items.length :=
  length_pieces_go_le size items.length items

/-! ### Units -/

/-- A unit yields the schemas that its roots have in the whole graph. -/
theorem WorkUnit.schemas_ofGraph {graph : ShapeGraph} (filed : graph.Filed) (task : TaskId)
    (roots : List ShapeId) (table : RuleTable) (options : GenerateOptions) :
    (ofGraph task graph roots (.ofTable table) options).generate.schemas
      = roots.filterMap (Generator.new graph (.ofTable table) options).schema? := by
  have agree := Generator.agree_new_restrict filed roots (.ofTable table) options
  refine Generator.generateIds_none roots |>.trans (List.filterMap_congr fun id member => ?_)
  have same := agree.generate_eq filed (graph.mem_reachable_of_mem member)
  exact congrArg (fun result => result.toOption.map Prod.fst) same.symm

namespace Coordinator

variable {c c' : Coordinator} {graph : ShapeGraph} {table : RuleTable} {options : GenerateOptions}
  {units : List WorkUnit}

/-! ### Plans -/

/-- What a plan comes to: units that yield the schemas of the ids in the whole graph, and tasks that
are numbered on from the last one. -/
structure Planned (c : Coordinator) (graph : ShapeGraph) (table : RuleTable)
    (options : GenerateOptions) (ids : List ShapeId) (units : List WorkUnit) (c' : Coordinator) :
    Prop where
  schemas : units.flatMap (·.generate.schemas)
    = ids.filterMap (Generator.new graph (.ofTable table) options).schema?
  tasks : units.map WorkUnit.task
    = (List.range units.length).map fun i => ⟨c.lastTask + 1 + .ofNat i⟩
  books : c' = { c with lastTask := c.lastTask + .ofNat units.length }
  made : ∀ unit ∈ units, ∃ task roots, roots.Sublist ids ∧
    unit = WorkUnit.ofGraph task graph roots (.ofTable table) options

private theorem ofNat_succ (n : Nat) : UInt64.ofNat (n + 1) = 1 + .ofNat n := by
  rw [UInt64.ofNat_add, UInt64.add_comm]
  rfl

theorem Planned.cons (filed : graph.Filed) {roots : List ShapeId} {ids : List ShapeId}
    (rest : Planned { c with lastTask := c.lastTask + 1 } graph table options ids units c') :
    Planned c graph table options (roots ++ ids)
      (WorkUnit.ofGraph ⟨c.lastTask + 1⟩ graph roots (.ofTable table) options :: units) c' where
  schemas := by
    rw [List.flatMap_cons, rest.schemas, WorkUnit.schemas_ofGraph filed, List.filterMap_append]
  tasks := by
    rw [List.map_cons, rest.tasks, List.length_cons, List.range_succ_eq_map, List.map_cons,
      List.map_map]
    congr 1
    · simp [WorkUnit.ofGraph]
    · refine List.map_congr_left fun i _ => ?_
      simp only [Function.comp_apply, Nat.succ_eq_add_one, ofNat_succ, UInt64.add_assoc]
  books := by
    rw [rest.books, List.length_cons, ofNat_succ]
    simp only [UInt64.add_assoc]
  made unit member := by
    rcases List.mem_cons.mp member with rfl | member
    · exact ⟨_, roots, List.sublist_append_left roots ids, rfl⟩
    · obtain ⟨task, some, part, eq⟩ := rest.made unit member
      exact ⟨task, some, part.trans (List.sublist_append_right roots ids), eq⟩

theorem planRoots_planned (filed : graph.Filed) {chunks : List (List ShapeId)}
    (plan : c.planRoots graph (.ofTable table) options chunks = (units, c')) :
    Planned c graph table options chunks.flatten units c' := by
  induction chunks generalizing c units with
  | nil =>
    cases plan
    exact ⟨rfl, rfl, by simp, fun _ member => absurd member List.not_mem_nil⟩
  | cons roots rest ih =>
    cases plan
    exact (ih rfl).cons filed

theorem plan_planned (filed : graph.Filed) {ids : List ShapeId}
    (plan : c.plan graph ids (.ofTable table) options = (units, c')) :
    Planned c graph table options ids units c' := by
  have planned := planRoots_planned filed plan
  rwa [flatten_pieces (by omega)] at planned

theorem length_of_planRoots {rules : RuleSet} {chunks : List (List ShapeId)}
    (plan : c.planRoots graph rules options chunks = (units, c')) :
    units.length = chunks.length := by
  induction chunks generalizing c units with
  | nil =>
    cases plan
    rfl
  | cons roots rest ih =>
    cases plan
    exact congrArg (· + 1) (ih rfl)

theorem length_le_of_plan {ids : List ShapeId} {rules : RuleSet}
    (plan : c.plan graph ids rules options = (units, c')) : units.length ≤ ids.length :=
  Nat.le_trans (Nat.le_of_eq (length_of_planRoots plan)) (length_pieces_le _ ids)

namespace Planned

variable {ids : List ShapeId} (planned : Planned c graph table options ids units c')

include planned

theorem schemas_outputs : (units.map WorkUnit.generate).flatMap UnitOutput.schemas
    = ids.filterMap (Generator.new graph (.ofTable table) options).schema? := by
  rw [List.flatMap_map]
  exact planned.schemas

theorem nodup_tasks (few : units.length ≤ UInt64.size) : (units.map WorkUnit.task).Nodup := by
  rw [planned.tasks]
  refine List.Nodup.map_on (fun i hi j hj same => ?_) List.nodup_range
  rw [List.mem_range] at hi hj
  have same : UInt64.ofNat i = UInt64.ofNat j := by simpa using same
  have same : i % UInt64.size = j % UInt64.size := by simpa using congrArg UInt64.toNat same
  rwa [Nat.mod_eq_of_lt (by omega), Nat.mod_eq_of_lt (by omega)] at same

/-- Tasks are new as long as the numbers do not run out. -/
theorem lastTask_lt (room : c.lastTask.toNat + units.length < UInt64.size) {unit : WorkUnit}
    (member : unit ∈ units) : c.lastTask < unit.task.value := by
  have named : unit.task ∈ units.map WorkUnit.task := List.mem_map.mpr ⟨unit, member, rfl⟩
  rw [planned.tasks, List.mem_map] at named
  obtain ⟨i, bound, eq⟩ := named
  rw [List.mem_range] at bound
  rw [← eq, UInt64.lt_iff_toNat_lt]
  simp only [UInt64.toNat_add, UInt64.toNat_ofNat', UInt64.reduceToNat]
  unfold UInt64.size at room
  omega

theorem lastTask_le (room : c.lastTask.toNat + units.length < UInt64.size) :
    c.lastTask ≤ c'.lastTask := by
  rw [planned.books, UInt64.le_iff_toNat_le]
  simp only [UInt64.toNat_add, UInt64.toNat_ofNat']
  unfold UInt64.size at room
  omega

theorem knows_iff {task : TaskId} : c'.Knows task ↔ c.Knows task := by
  rw [planned.books]
  rfl

end Planned

/-! ### Workers -/

/-- Workers can read the units that are pending. -/
def Readable (c : Coordinator) : Prop :=
  ∀ task pending, c.pending.get? task = some pending →
    WorkUnit.decode? pending.unit.encode = some pending.unit

/-- A worker answers that the task was cancelled. -/
def Declined (arrivals : List Arrival) (task : TaskId) : Prop :=
  .result ⟨task, .error .cancelled⟩ ∈ arrivals

/-- A worker that succeeds has generated the unit that it read.  Of one that does not succeed
nothing is asked: it may fail in any way, and it may answer that its task was cancelled. -/
def Honest (c : Coordinator) (arrivals : List Arrival) : Prop :=
  ∀ result, .result result ∈ arrivals → ∀ pending output,
    c.pending.get? result.task = some pending → result.outcome = .ok output →
      ∃ unit, WorkUnit.decode? pending.unit.encode = some unit ∧ output = unit.generate

theorem Honest.truthful {arrivals : List Arrival} (honest : c.Honest arrivals)
    (readable : c.Readable) : c.Truthful (Declined arrivals) arrivals := by
  rintro ⟨task, result⟩ member
  refine ⟨?_, fun pending output found outcome => ?_⟩
  · rintro rfl
    exact member
  · obtain ⟨unit, decoded, generated⟩ := honest _ member pending output found outcome
    rw [readable _ pending found] at decoded
    rw [generated, Option.some.inj decoded]

/-- Nothing is pending, and nothing waits to be collected. -/
def Idle (c : Coordinator) : Prop :=
  ∀ task, ¬ c.Knows task

/-- What an idle coordinator has pending is what it has just handed out. -/
theorem HandedOut.unit_of_pending (handed : HandedOut c units c') (idle : c.Idle) {task : TaskId}
    {pending : PendingTask} (found : c'.pending.get? task = some pending) :
    ∃ unit ∈ units, unit.task = task ∧ pending = ⟨unit, c.parallel⟩ := by
  by_cases listed : task ∈ units.map WorkUnit.task
  · obtain ⟨unit, member, rfl⟩ := List.mem_map.mp listed
    exact ⟨unit, member, rfl, Option.some.inj (found.symm.trans (handed.unit unit member))⟩
  · rw [handed.other task listed] at found
    exact absurd (Or.inl (by simp [found])) (idle task)

theorem HandedOut.readable (handed : HandedOut c units c') (idle : c.Idle)
    (decodes : ∀ unit ∈ units, WorkUnit.decode? unit.encode = some unit) : c'.Readable := by
  intro task pending found
  obtain ⟨unit, member, -, rfl⟩ := handed.unit_of_pending idle found
  exact decodes unit member

/-- Workers of whom those that succeed have generated the unit that they read in their job, and of
whom nobody answers that a task was cancelled.  The workers of a session are such: they generate
their unit, which gives no error, and a session does not wait any more once it is shut down. -/
def Faithful (arrivals : List Job → List Arrival) : Prop :=
  ∀ jobs, (jobs.map Job.task).Nodup → ∀ result, .result result ∈ arrivals jobs →
    result.outcome ≠ .error .cancelled ∧
    ∀ job ∈ jobs, job.task = result.task → ∀ output, result.outcome = .ok output →
      ∃ unit, WorkUnit.decode? job.bytes = some unit ∧ output = unit.generate

theorem Faithful.honest {arrivals : List Job → List Arrival} (faithful : Faithful arrivals)
    (idle : c.Idle) (parallel : c.parallel) {jobs : List Job}
    (handOut : c.dispatchAll units = (jobs, c')) (distinct : (units.map WorkUnit.task).Nodup) :
    c'.Honest (arrivals jobs) ∧ ∀ task, ¬ Declined (arrivals jobs) task := by
  have handed : HandedOut c units c' := dispatchAll_handedOut handOut distinct
  have jobs_eq : jobs = units.map jobOf := by
    rw [jobs_of_dispatchAll handOut, if_pos parallel]
  have tasks : jobs.map Job.task = units.map WorkUnit.task := by
    rw [jobs_eq, List.map_map]
    rfl
  have answers := faithful jobs (tasks ▸ distinct)
  refine ⟨fun result member pending output found outcome => ?_, fun task declined =>
    (answers _ declined).1 rfl⟩
  obtain ⟨unit, listed, same, rfl⟩ := handed.unit_of_pending idle found
  have job : jobOf unit ∈ jobs := jobs_eq ▸ List.mem_map.mpr ⟨unit, listed, rfl⟩
  exact (answers result member).2 (jobOf unit) job same output outcome

/-! ### Runs of plans -/

/-- After a run the books hold nothing that they did not hold before. -/
theorem Completed.knows_of_handedOut {declined : TaskId → Prop} {cache : SchemaCache}
    {w : WaitedAll} (completed : Completed declined c' cache units w)
    (handedOut : HandedOut c units c') {task : TaskId} (known : w.coordinator.Knows task) :
    c.Knows task := by
  obtain ⟨known, other⟩ := completed.knows task known
  unfold Knows at *
  rwa [handedOut.other task other, handedOut.resolved] at known

/-- What an idle coordinator makes of a plan: the schemas of the ids, all of them in the cache's
keeping, and it is idle again. -/
structure RanIdle (graph : ShapeGraph) (table : RuleTable) (options : GenerateOptions)
    (ids : List ShapeId) (cache : SchemaCache) (outputs : List UnitOutput) (w : WaitedAll) :
    Prop where
  outcomes : w.outcomes = outputs.map .ok
  schemas : outputs.flatMap UnitOutput.schemas
    = ids.filterMap (Generator.new graph (.ofTable table) options).schema?
  idle : w.coordinator.Idle
  parallel : w.coordinator.parallel
  holds : ∀ good : Schema → Prop,
    (∀ id s, (Generator.new graph (.ofTable table) options).schema? id = some s → good s) →
      cache.Holds good → w.cache.Holds good

/-- The state of an idle coordinator that has just handed out the units of a plan. -/
structure Launched (c' : Coordinator) (units : List WorkUnit) (jobs : List Job)
    (c'' : Coordinator) (arrivals : List Job → List Arrival) : Prop where
  tasks : (units.map WorkUnit.task).Nodup
  idle : c'.Idle
  handed : HandedOut c' units c''
  truthful : c''.Truthful (fun _ => False) (arrivals jobs)

theorem Planned.launched {ids : List ShapeId} (planned : Planned c graph table options ids units c')
    (idle : c.Idle) (parallel : c.parallel) (few : units.length < UInt64.size)
    (decodes : ∀ unit ∈ units, WorkUnit.decode? unit.encode = some unit)
    {arrivals : List Job → List Arrival} (faithful : Faithful arrivals) {jobs : List Job}
    {c'' : Coordinator} (handOut : c'.dispatchAll units = (jobs, c'')) :
    Launched c' units jobs c'' arrivals := by
  have tasks := planned.nodup_tasks (Nat.le_of_lt few)
  have idle' : c'.Idle := fun task known => idle task (planned.knows_iff.mp known)
  have parallel' : c'.parallel := by rwa [planned.books]
  have handed : HandedOut c' units c'' := dispatchAll_handedOut handOut tasks
  obtain ⟨honest, willing⟩ := faithful.honest idle' parallel' handOut tasks
  have truthful := honest.truthful (handed.readable idle' decodes)
  exact ⟨tasks, idle', handed, fun result member =>
    ⟨fun refused => willing _ ((truthful result member).1 refused), (truthful result member).2⟩⟩

/-- The units of a plan can be read, if the graph with all its ids is not too long. -/
theorem Planned.decodes {ids : List ShapeId} (planned : Planned c graph table options ids units c')
    (short : (WorkUnit.mk ⟨0⟩ graph graph.declaredIds table options).encode.length < UInt64.size)
    (part : ids.Sublist graph.declaredIds) :
    ∀ unit ∈ units, WorkUnit.decode? unit.encode = some unit := by
  intro unit member
  obtain ⟨task, roots, rootsPart, rfl⟩ := planned.made unit member
  exact WorkUnit.decode?_encode_ofGraph short (rootsPart.trans part) task

theorem run_plan_idle (filed : graph.Filed) (idle : c.Idle) (parallel : c.parallel)
    (cache : SchemaCache) {ids : List ShapeId} (few : ids.length < UInt64.size)
    (plan : c.plan graph ids (.ofTable table) options = (units, c'))
    (decodes : ∀ unit ∈ units, WorkUnit.decode? unit.encode = some unit)
    {arrivals : List Job → List Arrival} (faithful : Faithful arrivals) :
    RanIdle graph table options ids cache (units.map WorkUnit.generate)
      (c'.run cache units arrivals) := by
  have planned := plan_planned filed plan
  have fewer := Nat.lt_of_le_of_lt (length_le_of_plan plan) few
  rcases handOut : c'.dispatchAll units with ⟨jobs, c''⟩
  obtain ⟨tasks, idle', handed, truthful⟩ :=
    planned.launched idle parallel fewer decodes faithful handOut
  have parallel' : c'.parallel := by rwa [planned.books]
  have completed : Completed (fun _ => False) c'' cache units (c'.run cache units arrivals) :=
    run_completed handOut tasks (fun unit _ => idle' unit.task) truthful
  refine
    { outcomes := completed.generated fun _ _ => id
      schemas := planned.schemas_outputs
      idle := fun task known => idle' task (completed.knows_of_handedOut handed known)
      parallel := by rw [completed.alike.parallel, handed.alike.parallel, parallel']
      holds := fun good all => completed.holds good ?_ }
  intro task pending found schema member
  obtain ⟨unit, listed, -, rfl⟩ := handed.unit_of_pending idle' found
  have generated : schema ∈ units.flatMap (·.generate.schemas) :=
    List.mem_flatMap.mpr ⟨unit, listed, member⟩
  rw [planned.schemas, List.mem_filterMap] at generated
  obtain ⟨id, -, generated⟩ := generated
  exact all id schema generated

/-- The books hold no task that is still to be planned. -/
def Numbered (c : Coordinator) : Prop :=
  ∀ task, c.Knows task → task.value ≤ c.lastTask

/-- What the units of a plan generate are the schemas that the declarations have in the whole graph,
in their order, and a run gives what each unit generates, whether its worker finishes, fails, panics
or is too slow.  A unit is reported as cancelled, and its schemas are lost, if its worker answers
that the task was cancelled; if no worker does, the outputs make up the schemas of the whole graph.
Another plan can be run afterwards. -/
theorem run_plan_schemas (numbered : c.Numbered) (cache : SchemaCache) (filed : graph.Filed)
    {ids : List ShapeId} (room : c.lastTask.toNat + ids.length < UInt64.size)
    {handedOut : Coordinator} {jobs : List Job}
    (plan : c.plan graph ids (.ofTable table) options = (units, c'))
    (handOut : c'.dispatchAll units = (jobs, handedOut)) (readable : handedOut.Readable)
    {arrivals : List Job → List Arrival} (honest : handedOut.Honest (arrivals jobs)) :
    (units.flatMap (·.generate.schemas)
        = ids.filterMap (Generator.new graph (.ofTable table) options).schema? ∧
      List.Forall₂ (fun unit outcome => outcome = .ok unit.generate ∨
          Declined (arrivals jobs) unit.task ∧ outcome = .error (.cancelled unit.task))
        units (c'.run cache units arrivals).outcomes) ∧
      ((∀ unit ∈ units, ¬ Declined (arrivals jobs) unit.task) → ∃ outputs : List UnitOutput,
        (c'.run cache units arrivals).outcomes = outputs.map .ok ∧
        outputs.flatMap UnitOutput.schemas
          = ids.filterMap (Generator.new graph (.ofTable table) options).schema?) ∧
      (c'.run cache units arrivals).coordinator.Numbered := by
  have planned := plan_planned filed plan
  have fewer := length_le_of_plan plan
  have room : c.lastTask.toNat + units.length < UInt64.size := by omega
  have distinct := planned.nodup_tasks (by omega)
  have new : ∀ unit ∈ units, ¬ c'.Knows unit.task := by
    intro unit member known
    have old := numbered _ (planned.knows_iff.mp known)
    exact UInt64.not_le.mpr (planned.lastTask_lt room member) old
  have handed : HandedOut c' units handedOut := dispatchAll_handedOut handOut distinct
  have completed : Completed (Declined (arrivals jobs)) handedOut cache units
      (c'.run cache units arrivals) :=
    run_completed handOut distinct new (honest.truthful readable)
  refine ⟨⟨planned.schemas, completed.outcomes⟩, fun willing => ?_, fun task known => ?_⟩
  · exact ⟨units.map WorkUnit.generate, completed.generated willing, planned.schemas_outputs⟩
  · have old := planned.knows_iff.mp (completed.knows_of_handedOut handed known)
    rw [completed.alike.lastTask, handed.alike.lastTask]
    exact UInt64.le_trans (numbered task old) (planned.lastTask_le room)

/-- Workers of whom the second panics and the others keep silent for too long, before all results
come in after all, last job first. -/
def unruly (jobs : List Job) : List Arrival :=
  [.result ⟨⟨2⟩, .error (.panicked "out of memory")⟩, .silence]
    ++ jobs.reverse.map fun job => .result (job.run .generate)

theorem faithful_unruly : Faithful unruly := by
  intro jobs distinct result member
  simp only [unruly, List.mem_append, List.mem_cons, List.mem_map, List.mem_reverse,
    Arrival.result.injEq, reduceCtorEq, List.not_mem_nil, or_false] at member
  rcases member with rfl | ⟨job, listed, rfl⟩
  · exact ⟨by simp, fun _ _ _ _ outcome => by cases outcome⟩
  · unfold Job.run
    split
    · rename_i unit decoded
      refine ⟨by simp [Executor.generate], fun other member same output outcome => ?_⟩
      obtain rfl : other = job := List.inj_on_of_nodup_map distinct member listed same
      exact ⟨unit, decoded, (Except.ok.inj outcome).symm⟩
    · exact ⟨by simp, fun _ _ _ _ outcome => by cases outcome⟩

/-- A coordinator that has not begun, with units of one declaration. -/
def fresh : Coordinator :=
  { workers := 2, batchSize := 0, taskTimeoutMs := 10 }

theorem idle_fresh : fresh.Idle := by
  intro task known
  cases known <;> contradiction

/-- The units of a ring of declarations and of an id that is not declared. -/
def ringPlan : List WorkUnit × Coordinator :=
  fresh.plan Generator.ring [⟨1⟩, ⟨7⟩, ⟨5⟩] (.ofTable .empty) {}

/-- Nothing is lost to workers of whom one panics and the others are too slow. -/
theorem run_plan_schemas_unruly :
    (∃ outputs : List UnitOutput,
      (ringPlan.2.run (.new 1) ringPlan.1 unruly).outcomes = outputs.map .ok ∧
      outputs.flatMap UnitOutput.schemas = [⟨1⟩, ⟨7⟩, ⟨5⟩].filterMap
        (Generator.new Generator.ring (.ofTable .empty) {}).schema?) ∧
      (ringPlan.2.run (.new 1) ringPlan.1 unruly).coordinator.Numbered := by
  have filed : Generator.ring.Filed := by decide
  have planned : Planned fresh Generator.ring .empty {} [⟨1⟩, ⟨7⟩, ⟨5⟩] ringPlan.1 ringPlan.2 :=
    plan_planned filed rfl
  have distinct : (ringPlan.1.map WorkUnit.task).Nodup := by decide
  have idle : ringPlan.2.Idle := idle_fresh
  have handed : HandedOut ringPlan.2 ringPlan.1 (ringPlan.2.dispatchAll ringPlan.1).2 :=
    dispatchAll_handedOut rfl distinct
  have readable := handed.readable idle fun unit member => by
    obtain ⟨task, roots, part, rfl⟩ := planned.made unit member
    exact WorkUnit.decode?_encode_ofGraph (by decide +kernel) part task
  obtain ⟨honest, willing⟩ := faithful_unruly.honest idle rfl rfl distinct
  obtain ⟨-, whole, numbered⟩ :=
    run_plan_schemas (fun task known => absurd known (idle_fresh task)) (.new 1) filed
      (by decide) rfl rfl readable honest
  exact ⟨whole fun unit _ => willing unit.task, numbered⟩

/-- An executor that answers of every unit that its task was cancelled. -/
def declining : Executor :=
  fun _ => .error .cancelled

theorem run_declining (job : Job) (output : UnitOutput) :
    (job.run declining).outcome ≠ .ok output := by
  unfold Job.run
  split <;> nofun

/-- Workers that decline their units are honest, and although nobody shut the coordinator down, no
output comes from a run whose declarations have schemas. -/
theorem run_plan_declining :
    (ringPlan.2.dispatchAll ringPlan.1).2.Honest
        (((ringPlan.2.dispatchAll ringPlan.1).1).map fun job => .result (job.run declining)) ∧
      (ringPlan.2.run (.new 1) ringPlan.1 fun jobs =>
        jobs.map fun job => .result (job.run declining)).outcomes.filterMap Except.toOption = [] ∧
      [⟨1⟩, ⟨7⟩, ⟨5⟩].filterMap
        (Generator.new Generator.ring (.ofTable .empty) {}).schema? ≠ [] := by
  refine ⟨fun result member pending output _ outcome => ?_,
    List.isEmpty_iff.mp (by decide +kernel), by decide +kernel⟩
  obtain ⟨job, -, eq⟩ := List.mem_map.mp member
  cases eq
  exact absurd outcome (run_declining job output)

end Coordinator

end Schemata
