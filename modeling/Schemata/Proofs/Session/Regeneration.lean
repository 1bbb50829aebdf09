import Schemata.Proofs.Schema.Retention
import Schemata.Proofs.Session.Calls

/-!
# Generating the same again

When documents are generated that have no more selected declarations than the cache can hold, the
cache afterwards holds the schemas of all of them.  It makes no difference what was in the cache
before, and whether the schemas were found there, generated in process or sent by workers in some
order: only selected declarations are used in the course of a call, so none of them is dropped.
When the same documents are generated right after that, all schemas come from the cache.

## Main definitions

* `Coordinator.Serving` : what is wanted is in the cache or still to come from pending units.
* `Session.Orderly` : what holds of a session between calls, whatever its cache holds.
* `Session.Served` : what a session has done for ids.

## Main results

* `Coordinator.serving_invariant` : settling a task serves what its unit generates.
* `Session.generateIds_served`, `Session.Served.again` : the first call and the second.
* `Session.orderly_serveAll` : sessions are orderly after any calls.
* `Session.generate_again` : the same documents once more.
-/

namespace Schemata

open SchemaCache

/-! ### What workers send -/

namespace Coordinator

/-- Of the wanted schemas, the cache holds those that were served, and pending units generate the
others. -/
structure Serving (ids : List ShapeId) (wanted : List Schema)
    (pending : OrderedMap TaskId PendingTask) (cache : SchemaCache) : Prop where
  promised : ∀ task p, pending.get? task = some p → p.unit.generate.schemas ⊆ wanted
  served : ∃ served, served ⊆ wanted ∧ cache.Keeps ids served ∧ ∀ schema ∈ wanted,
    schema ∈ served ∨ ∃ task p, pending.get? task = some p ∧ schema ∈ p.unit.generate.schemas

section Serving

variable {ids : List ShapeId} {wanted : List Schema} (listed : ∀ schema ∈ wanted, schema.id ∈ ids)
  (apart : ∀ a ∈ wanted, ∀ b ∈ wanted, a.id = b.id → a = b)

include listed apart

/-- When a task is settled, what its unit generates is served. -/
theorem serving_invariant : Invariant (Serving ids wanted) := by
  rintro state state' step ⟨promised, served, part, keeps, covers⟩
  obtain ⟨task, p, found, settled⟩ := step.generated
  have new := promised task p found
  have both : served ++ p.unit.generate.schemas ⊆ wanted := List.append_subset.mpr ⟨part, new⟩
  rw [settled.pending, settled.cache]
  refine ⟨fun other q found' => ?_, served ++ p.unit.generate.schemas, both, ?_, ?_⟩
  · rw [OrderedMap.get?_erase] at found'
    split at found'
    · cases found'
    · exact promised other q found'
  · exact keeps.foldl_insert (fun schema member => listed schema (new member))
      fun a ha b hb => apart a (both ha) b (both hb)
  · intro schema member
    rcases covers schema member with old | ⟨other, q, found', later⟩
    · exact Or.inl (List.mem_append_left _ old)
    · by_cases same : other = task
      · subst same
        obtain rfl : p = q := Option.some.inj (found.symm.trans found')
        exact Or.inl (List.mem_append_right _ later)
      · refine Or.inr ⟨other, q, ?_, later⟩
        rwa [OrderedMap.get?_erase, if_neg same]

/-- After the run of a plan the cache holds what it had served before and all that the units
generate. -/
theorem Launched.run_keeps {units : List WorkUnit} {jobs : List Job} {c' c'' : Coordinator}
    {arrivals : List Job → List Arrival} (launched : Launched c' units jobs c'' arrivals)
    (handOut : c'.dispatchAll units = (jobs, c'')) {cache : SchemaCache} {found : List Schema}
    (all : wanted = found ++ units.flatMap (·.generate.schemas)) (keeps : cache.Keeps ids found)
    (idle : (c'.run cache units arrivals).coordinator.Idle) :
    (c'.run cache units arrivals).cache.Keeps ids wanted := by
  have start : Serving ids wanted c''.pending cache := by
    refine ⟨fun task p pending => ?_, found, all ▸ List.subset_append_left _ _, keeps, ?_⟩
    · obtain ⟨unit, member, -, rfl⟩ := launched.handed.unit_of_pending launched.idle pending
      intro schema generated
      rw [all]
      exact List.mem_append_right _ (List.mem_flatMap.mpr ⟨unit, member, generated⟩)
    · intro schema member
      rw [all] at member
      rcases List.mem_append.mp member with old | new
      · exact Or.inl old
      · obtain ⟨unit, listed, generated⟩ := List.mem_flatMap.mp new
        exact Or.inr ⟨unit.task, _, launched.handed.unit unit listed, generated⟩
  have done := (serving_invariant listed apart).waitAll launched.truthful
    (units.map WorkUnit.task) start
  have ran : c'.run cache units arrivals
      = c''.waitAll cache (arrivals jobs) (units.map WorkUnit.task) := by rw [run, handOut]
  rw [← ran] at done
  obtain ⟨-, served, -, kept, covers⟩ := done
  refine kept.mono fun schema member => (covers schema member).resolve_right ?_
  rintro ⟨task, p, pending, -⟩
  exact idle task (Or.inl (by rw [pending]; rfl))

end Serving

theorem leads_invariant (start : SchemaCache) :
    Invariant fun _ cache => start.Leads cache := by
  rintro state state' step leads
  obtain ⟨task, p, found, settled⟩ := step.generated
  rw [settled.cache]
  exact leads.trans (leads_foldl_insert _ _)

end Coordinator

namespace Session

open Coordinator

/-! ### Looking up -/

/-- What looking up different ids comes to: the schemas found, which the cache keeps, and the ids
that are left. -/
structure Sifted (graph : ShapeGraph) (ids todo : List ShapeId) (served found : List Schema)
    (missing : List ShapeId) (cache : SchemaCache) : Prop where
  keeps : cache.Keeps ids (served ++ found)
  current : ∀ schema ∈ found, schema.fingerprint = graph.fingerprint schema.id
  part : missing.Sublist todo
  all : (found.map Schema.id ++ missing).Perm todo

theorem lookUp_sifted (graph : ShapeGraph) {ids : List ShapeId} {cache : SchemaCache}
    {served : List Schema} (keeps : cache.Keeps ids served) {todo : List ShapeId}
    (distinct : todo.Nodup) (listed : todo ⊆ ids) (new : ∀ schema ∈ served, schema.id ∉ todo) :
    Sifted graph ids todo served (lookUp graph cache todo).1 (lookUp graph cache todo).2.1
      (lookUp graph cache todo).2.2 := by
  induction todo generalizing cache served with
  | nil =>
    exact ⟨by simpa [lookUp] using keeps, by simp [lookUp], by simp [lookUp], by simp [lookUp]⟩
  | cons id rest ih =>
    obtain ⟨first, later⟩ := List.nodup_cons.mp distinct
    have unserved : ∀ schema ∈ served, schema.id ≠ id := fun schema member same =>
      new schema member (same ▸ List.mem_cons_self)
    have listed' : rest ⊆ ids := fun id member => listed (List.mem_cons_of_mem _ member)
    have new' : ∀ schema ∈ served, schema.id ∉ rest := fun schema member again =>
      new schema member (List.mem_cons_of_mem _ again)
    unfold lookUp
    dsimp only
    cases hit : (cache.getCurrent id (graph.fingerprint id)).1 with
    | some schema =>
      obtain ⟨-, rfl, current⟩ := mem_of_getCurrent hit
      have kept := keeps.hit unserved (listed List.mem_cons_self) hit
      have tail := ih kept later listed' fun s member => by
        rcases List.mem_append.mp member with old | last
        · exact new' s old
        · exact List.mem_singleton.mp last ▸ first
      exact ⟨by simpa using tail.keeps, List.forall_mem_cons.mpr ⟨current, tail.current⟩,
        tail.part.cons _, tail.all.cons _⟩
    | none =>
      have tail := ih (keeps.miss unserved hit) later listed' new'
      exact ⟨tail.keeps, tail.current, tail.part.cons_cons id,
        List.perm_middle.trans (tail.all.cons id)⟩

/-- Schemas of all ids of a list, up to date, in some order. -/
structure Gathered (graph : ShapeGraph) (ids : List ShapeId) (schemas : List Schema) : Prop where
  all : (schemas.map Schema.id).Perm ids
  current : ∀ schema ∈ schemas, schema.fingerprint = graph.fingerprint schema.id

/-- With the schemas that were found, those of the ids that are left make up all schemas. -/
theorem Sifted.gathered {gen : Generator} {ids todo : List ShapeId} {served found : List Schema}
    {missing : List ShapeId} {cache : SchemaCache}
    (sifted : Sifted gen.graph ids todo served found missing cache)
    (declared : ∀ id ∈ missing, (gen.schema? id).isSome) :
    Gathered gen.graph todo (found ++ missing.filterMap gen.schema?) := by
  have new : gen.Labelled (fun _ => True) missing (missing.filterMap gen.schema?) := by
    refine labelled_filterMap fun id member => ?_
    obtain ⟨schema, made⟩ := Option.isSome_iff_exists.mp (declared id member)
    obtain ⟨rfl, current⟩ := Generator.id_of_schema? made
    exact ⟨schema, made, rfl, trivial, current⟩
  constructor
  · rw [List.map_append, new.ids]
    exact sifted.all
  · intro schema member
    exact (List.mem_append.mp member).elim (sifted.current schema) (new.current schema)

/-- Gathered schemas are put into the order of the ids by filing them. -/
theorem Gathered.labelled {gen : Generator} {ids : List ShapeId} {schemas : List Schema}
    (gathered : Gathered gen.graph ids schemas) :
    gen.Labelled (· ∈ schemas) ids
      (ids.filterMap (OrderedMap.ofList (schemas.map fun schema => (schema.id, schema))).get?) :=
  labelled_filterMap fun id member => by
    obtain ⟨schema, own, got, same⟩ := exists_get?_of_mem_ids (gathered.all.symm.subset member)
    exact ⟨schema, got, same, own, gathered.current schema own⟩

/-! ### The first call -/

/-- What holds of a session between calls, whatever is in its cache: the cache has no id twice and
no more schemas than it may, the rules are those of their table, and no task is open.  A coordinator
has its workers, as sessions that could not start them are not modelled. -/
structure Orderly (s : Session) : Prop where
  cache : s.cache.Bounded
  rules : s.rules = .ofTable s.rules.table
  coordinator : ∀ c, s.coordinator = some c → c.Idle ∧ c.parallel

/-- What is assumed of workers, if there are any: they send what they generate, in whatever order,
or nothing; and the graph is not too long to be written for them. -/
structure Staffed (s : Session) (graph : ShapeGraph) : Prop where
  faithful : s.coordinator.isSome → Faithful s.workforce.arrivals
  short : s.coordinator.isSome → (WorkUnit.mk ⟨0⟩ graph graph.declaredIds s.rules.table
    s.options).encode.length < UInt64.size

/-- What a session has done for ids: it has a schema for each of them, up to date and in the cache,
and is otherwise as it was. -/
structure Served (s : Session) (graph : ShapeGraph) (ids : List ShapeId) (schemas : List Schema)
    (s' : Session) : Prop where
  all : schemas.map Schema.id = ids
  current : ∀ schema ∈ schemas, schema.fingerprint = graph.fingerprint schema.id
  keeps : s'.cache.Keeps ids schemas
  config : s'.config = s.config
  options : s'.options = s.options

/-- What is planned for missing declarations is handed out and run. -/
theorem launches {s : Session} {graph : ShapeGraph} (orderly : s.Orderly) (filed : graph.Filed)
    (staffed : s.Staffed graph) {c : Coordinator} (hc : s.coordinator = some c)
    {missing : List ShapeId} (part : missing.Sublist graph.declaredIds) {units : List WorkUnit}
    {c' c'' : Coordinator} {jobs : List Job}
    (plan : c.plan graph missing s.rules s.options = (units, c'))
    (handOut : c'.dispatchAll units = (jobs, c'')) (cache : SchemaCache) :
    Planned c graph s.rules.table s.options missing units c' ∧
      Launched c' units jobs c'' s.workforce.arrivals ∧
      RanIdle graph s.rules.table s.options missing cache (units.map WorkUnit.generate)
        (c'.run cache units s.workforce.arrivals) := by
  obtain ⟨idle, parallel⟩ := orderly.coordinator c hc
  have workers : s.coordinator.isSome := by rw [hc]; rfl
  have short := staffed.short workers
  have faithful := staffed.faithful workers
  rw [orderly.rules] at plan
  have planned := plan_planned filed plan
  have few : missing.length < UInt64.size :=
    Nat.lt_of_le_of_lt (part.length_le.trans
      (WorkUnit.length_roots_le ⟨⟨0⟩, graph, graph.declaredIds, s.rules.table, s.options⟩)) short
  have decodes := planned.decodes short part
  exact ⟨planned, planned.launched idle parallel
      (Nat.lt_of_le_of_lt (length_le_of_plan plan) few) decodes faithful handOut,
    run_plan_idle filed idle parallel cache few plan decodes faithful⟩

section First

variable {s : Session} {graph : ShapeGraph} {ids : List ShapeId} (orderly : s.Orderly)
  (filed : graph.Filed) (part : ids.Sublist graph.declaredIds) (distinct : ids.Nodup)
  (room : ids.length ≤ s.cache.maxSize)

include orderly filed part distinct room

theorem generateInProcess_served :
    Served s graph ids (s.generateInProcess graph ids).1 (s.generateInProcess graph ids).2 := by
  have declared : ∀ id ∈ ids, ((Generator.new graph s.rules s.options).schema? id).isSome :=
    fun id member => isSome_schema? filed (part.subset member)
  obtain ⟨made, stats, cache, run, labelled, keeps⟩ :=
    Generator.generateIds_keeps orderly.cache room distinct declared
  simp only [generateInProcess, run]
  exact ⟨labelled.ids, labelled.current, keeps, rfl, rfl⟩

theorem generateParallel_served (staffed : s.Staffed graph) {c : Coordinator}
    (hc : s.coordinator = some c) :
    Served s graph ids (s.generateParallel c graph ids).1 (s.generateParallel c graph ids).2 := by
  rcases hl : lookUp graph s.cache ids with ⟨found, missing, cache⟩
  rcases hp : c.plan graph missing s.rules s.options with ⟨units, c'⟩
  rcases handOut : c'.dispatchAll units with ⟨jobs, c''⟩
  simp only [generateParallel, hl, hp]
  have sifted : Sifted graph ids ids [] found missing cache := by
    have := lookUp_sifted graph (.start orderly.cache room) distinct (List.Subset.refl ids)
      fun _ member => absurd member List.not_mem_nil
    rwa [hl] at this
  have part' := sifted.part.trans part
  obtain ⟨planned, launched, ran⟩ := launches orderly filed staffed hc part' hp handOut cache
  let gen := Generator.new graph (.ofTable s.rules.table) s.options
  have declared : ∀ id ∈ missing, (gen.schema? id).isSome := fun id member =>
    isSome_schema? filed (part'.subset member)
  have gathered : Gathered gen.graph ids (found ++ missing.filterMap gen.schema?) :=
    sifted.gathered declared
  have keeps := launched.run_keeps
    (fun schema member => gathered.all.subset (List.mem_map_of_mem member))
    (fun a ha b hb => List.inj_on_of_nodup_map (gathered.all.nodup_iff.mpr distinct) ha hb) handOut
    (congrArg (found ++ ·) planned.schemas.symm) sifted.keeps ran.idle
  have labelled := gathered.labelled
  rw [ran.outcomes, outputsOf_ok, ran.schemas, eraseDups_eq_self distinct]
  exact ⟨labelled.ids, labelled.current, keeps.mono labelled.good, rfl, rfl⟩

/-- Whether from the cache, in process or by workers, a session serves different declared ids, if
the cache has room for them. -/
theorem generateIds_served (staffed : s.Staffed graph) :
    Served s graph ids (s.generateIds graph ids).1 (s.generateIds graph ids).2 := by
  unfold generateIds
  split
  · rename_i c hc
    split
    · exact generateParallel_served orderly filed part distinct room staffed hc
    · exact generateInProcess_served orderly filed part distinct room
  · exact generateInProcess_served orderly filed part distinct room

end First

/-! ### The second call -/

section Second

variable {s s' : Session} {graph : ShapeGraph} {ids : List ShapeId} {schemas : List Schema}

theorem Served.missCount_eq_zero (served : Served s graph ids schemas s') :
    s'.missCount graph ids = 0 := by
  rw [missCount, List.countP_eq_zero, ← served.all]
  intro id member
  obtain ⟨schema, own, rfl⟩ := List.mem_map.mp member
  simp [isCurrent, served.keeps.peek? own, served.current schema own]

/-- What was served is found when it is asked for again. -/
theorem Served.again (served : Served s graph ids schemas s') :
    ∃ cache, s'.generateIds graph ids = (schemas,
      { s' with
        cache := cache
        stats :=
          { s'.stats with
            cacheHits := s'.stats.cacheHits + ids.length
            generator := s'.stats.generator + { cacheHits := ids.length } } }) := by
  have alone : s'.generateIds graph ids = s'.generateInProcess graph ids := by
    unfold generateIds
    split
    · rw [served.missCount_eq_zero, if_neg (Nat.not_lt_zero _)]
    · rfl
  let gen := Generator.new graph s'.rules s'.options
  have current : ∀ schema ∈ schemas, schema.fingerprint = gen.graph.fingerprint schema.id :=
    served.current
  obtain ⟨cache, run⟩ := Generator.generateIds_of_peek? (fun schema => served.keeps.peek?) current
  rw [served.all, ← List.length_map Schema.id, served.all] at run
  refine ⟨cache, ?_⟩
  rw [alone]
  simp only [generateInProcess, gen, run]
  rfl

/-- What a call on documents that are accepted comes to. -/
theorem generate_eq {documents : List Document} (enabled : s.config.enabled)
    (lowered : ShapeGraph.ofDocuments documents = .ok graph) :
    s.generate documents =
      let (schemas, s') := s.generateIds graph (graph.select s.options.exportOnly)
      let modules := modulesOf graph s'.options.suffix (documents.map Document.file) schemas
      (.ok modules,
        { s' with
          stats :=
            { s'.stats with
              documents := s'.stats.documents + documents.length
              modules := s'.stats.modules + modules.length } }) := by
  rw [generate, generateFiles, if_pos enabled, lowered]
  dsimp only
  rw [selectIn_eq_select lowered, filter_contains_self]

/-- The first call serves all selected declarations. -/
theorem generate_served {documents : List Document} (orderly : s.Orderly)
    (enabled : s.config.enabled) (lowered : ShapeGraph.ofDocuments documents = .ok graph)
    (staffed : s.Staffed graph)
    (room : (graph.select s.options.exportOnly).length ≤ s.cache.maxSize) :
    ∃ schemas s', s.generate documents = (.ok (modulesOf graph s.options.suffix
        (documents.map Document.file) schemas), s') ∧
      Served s graph (graph.select s.options.exportOnly) schemas s' := by
  have filed := ShapeGraph.filed_ofDocuments lowered
  have served := generateIds_served orderly filed (graph.select_sublist _)
    (filed.nodup_select _) room staffed
  rcases made : s.generateIds graph (graph.select s.options.exportOnly) with ⟨schemas, middle⟩
  have first := generate_eq enabled lowered
  rw [made] at served first
  dsimp only at served first
  rw [served.options] at first
  exact ⟨schemas, _, first, served.all, served.current, served.keeps, served.config, rfl⟩

end Second

/-! ### After any calls -/

theorem leads_lookUp (graph : ShapeGraph) (cache : SchemaCache) (ids : List ShapeId) :
    cache.Leads (lookUp graph cache ids).2.2 ∧ (lookUp graph cache ids).2.1.Sublist ids := by
  induction ids generalizing cache with
  | nil => exact ⟨.refl cache, .slnil⟩
  | cons id rest ih =>
    obtain ⟨leads, part⟩ := ih (cache.getCurrent id (graph.fingerprint id)).2
    have looked := cache.leads_getCurrent id (graph.fingerprint id)
    unfold lookUp
    dsimp only
    split
    · exact ⟨looked.trans leads, part.cons _⟩
    · exact ⟨looked.trans leads, part.cons_cons _⟩

section Leads

variable {s : Session} {graph : ShapeGraph} {ids : List ShapeId}

theorem leads_generateInProcess (s : Session) (graph : ShapeGraph) (ids : List ShapeId) :
    s.cache.Leads (s.generateInProcess graph ids).2.cache := by
  obtain ⟨cache, left, leads⟩ :=
    (Generator.new graph s.rules s.options).leads_generateIds s.cache ids
  simpa only [generateInProcess, left, Option.getD_some] using leads

theorem Orderly.leads_generateIds (orderly : s.Orderly) (filed : graph.Filed)
    (staffed : s.Staffed graph) (part : ids.Sublist graph.declaredIds) :
    s.cache.Leads (s.generateIds graph ids).2.cache := by
  unfold generateIds
  split
  · rename_i c hc
    split
    · obtain ⟨looked, missed⟩ := leads_lookUp graph s.cache ids
      rcases hl : lookUp graph s.cache ids with ⟨found, missing, cache⟩
      rw [hl] at looked missed
      rcases hp : c.plan graph missing s.rules s.options with ⟨units, c'⟩
      rcases handOut : c'.dispatchAll units with ⟨jobs, c''⟩
      obtain ⟨-, launched, -⟩ :=
        launches orderly filed staffed hc (missed.trans part) hp handOut cache
      have ran : s.cache.Leads (c'.run cache units s.workforce.arrivals).cache := by
        rw [Coordinator.run, handOut]
        exact (leads_invariant s.cache).waitAll launched.truthful _ looked
      simpa only [generateParallel, hl, hp] using ran
    · exact s.leads_generateInProcess graph ids
  · exact s.leads_generateInProcess graph ids

variable {config : Config} {run : ShapeGraph → Prop}

theorem Sound.orderly (sound : s.Sound config run) (bounded : s.cache.Bounded) : s.Orderly where
  cache := bounded
  rules := by rw [sound.rules]; rfl
  coordinator c hc := ⟨(sound.coordinator c hc).2.1, (sound.coordinator c hc).2.2.1⟩

theorem Sound.staffed (sound : s.Sound config run) (sendable : Sendable config run)
    (hg : run graph) : s.Staffed graph := by
  constructor
  · intro workers
    obtain ⟨c, hc⟩ := Option.isSome_iff_exists.mp workers
    exact (sound.coordinator c hc).2.2.2
  · intro workers
    obtain ⟨c, hc⟩ := Option.isSome_iff_exists.mp workers
    rw [sound.rules, sound.options]
    exact sendable.writable (sound.coordinator c hc).1 graph hg

/-- All that a call does to the cache are calls of the cache. -/
theorem Sound.leads_generateFiles (sound : s.Sound config run) (sendable : Sendable config run)
    (bounded : s.cache.Bounded) {documents : List Document}
    (ran : ∀ g, ShapeGraph.ofDocuments documents = .ok g → run g) (files : List String) :
    s.cache.Leads (s.generateFiles documents files).2.cache := by
  unfold Session.generateFiles
  split
  · split
    · exact .refl _
    · rename_i g lowered
      have hg := ran g lowered
      exact (sound.orderly bounded).leads_generateIds (sendable.filed g hg)
        (sound.staffed sendable hg) (selectIn_sublist g _ files)
  · exact .refl _

theorem Sound.leads_serve (sound : s.Sound config run) (sendable : Sendable config run)
    (bounded : s.cache.Bounded) {call : Call}
    (ran : ∀ g, ShapeGraph.ofDocuments call.documents = .ok g → run g) :
    s.cache.Leads (s.serve call).cache := by
  cases call with
  | onDocuments documents => exact sound.leads_generateFiles sendable bounded ran _
  | onPaths files paths =>
    have made := sound.leads_generateFiles sendable bounded ran (s.changedFiles files paths)
    have call := s.called_generatePaths files paths
    show s.cache.Leads (s.generatePaths files paths).2.cache
    generalize s.generatePaths files paths = result at call ⊢
    cases call with
    | unread _ _ => exact .refl _
    | refused _ _ _ => exact .refl _
    | made _ generated =>
      rw [Call.documents, generated] at made
      exact made

theorem Sound.leads_serveAll (sound : s.Sound config run) (sendable : Sendable config run)
    (bounded : s.cache.Bounded) {calls : List Call}
    (ran : ∀ call ∈ calls, ∀ g, ShapeGraph.ofDocuments call.documents = .ok g → run g) :
    s.cache.Leads (s.serveAll calls).cache := by
  induction calls generalizing s with
  | nil => exact .refl _
  | cons call rest ih =>
    have first := ran call List.mem_cons_self
    have leads := sound.leads_serve sendable bounded first
    exact leads.trans (ih (sound.serve sendable first) (leads.bounded bounded) fun later member =>
      ran later (List.mem_cons_of_mem _ member))

end Leads

/-- A session is orderly after any calls, and its cache is as large as it was made. -/
theorem orderly_serveAll {config : Config} {run : ShapeGraph → Prop} {workforce : Workforce}
    (files : FileStore) (available : Nat)
    (faithful : config.parallel.enabled → Faithful workforce.arrivals)
    (sendable : Sendable config run) {calls : List Call}
    (ran : ∀ call ∈ calls, ∀ g, ShapeGraph.ofDocuments call.documents = .ok g → run g) :
    ((withWorkforce config files available workforce).serveAll calls).Orderly ∧
      ((withWorkforce config files available workforce).serveAll calls).cache.maxSize
        = if config.cache.enabled then config.cache.maxSize else 0 := by
  have sound : Sound config run (withWorkforce config files available workforce) :=
    sound_withWorkforce config files available faithful
  have leads := sound.leads_serveAll sendable (bounded_new _) ran
  exact ⟨(sound.serveAll sendable ran).orderly (leads.bounded (bounded_new _)), leads.maxSize⟩

/-- When documents with no more selected declarations than the cache can hold are generated twice in
a row, the second call gives the same modules.  It counts one more hit for each selected
declaration; nothing was missing, and nothing is generated. -/
theorem generate_again {s : Session} {graph : ShapeGraph} {documents : List Document}
    (orderly : s.Orderly) (enabled : s.config.enabled)
    (lowered : ShapeGraph.ofDocuments documents = .ok graph)
    (staffed : s.Staffed graph)
    (room : (graph.select s.options.exportOnly).length ≤ s.cache.maxSize) :
    ∃ modules s' s'', s.generate documents = (.ok modules, s') ∧
      s'.generate documents = (.ok modules, s'') ∧
      s''.stats =
        { s'.stats with
          documents := s'.stats.documents + documents.length
          modules := s'.stats.modules + modules.length
          cacheHits := s'.stats.cacheHits + (graph.select s.options.exportOnly).length
          generator :=
            { s'.stats.generator with
              cacheHits := s'.stats.generator.cacheHits
                + (graph.select s.options.exportOnly).length } } := by
  obtain ⟨schemas, s', first, served⟩ := generate_served orderly enabled lowered staffed room
  obtain ⟨cache, again⟩ := served.again
  have second := generate_eq (served.config ▸ enabled) lowered
  rw [served.options, again, served.options] at second
  exact ⟨_, s', _, first, second, rfl⟩

/-- Units of one declaration, and a cache with room for two schemas. -/
def pairConfig : Config :=
  { cache := { maxSize := 2 }, parallel := { enabled := true, batchSize := 1 } }

/-- A file whose schemas fill the cache. -/
def seedDocument : Document where
  file := "seed.ts"
  declarations := [
    ⟨"Seed", .typeAlias, true, [], .primitive .number⟩,
    ⟨"Husk", .typeAlias, true, [], .array (.ref "Seed" [])⟩]

theorem sendable_pair : Sendable pairConfig (graphsOf [[treeDocument], [seedDocument]]) where
  filed := by
    rintro g ⟨_, -, lowered⟩
    exact ShapeGraph.filed_ofDocuments lowered
  writable := by
    have short : ∀ documents ∈ [[treeDocument], [seedDocument]],
        (ShapeGraph.ofDocuments documents).toOption.all fun g =>
          (WorkUnit.mk ⟨0⟩ g g.declaredIds pairConfig.overrides.table
            (optionsOf pairConfig)).encode.length < UInt64.size := by
      decide +kernel
    rintro - g ⟨documents, member, lowered⟩
    have := short documents member
    rw [lowered] at this
    exact of_decide_eq_true this

theorem generate_again_tree :
    ∃ graph modules s' s'', ShapeGraph.ofDocuments [treeDocument] = .ok graph ∧
      (graph.select false).length = 2 ∧
      ((withWorkforce pairConfig (.new [] 0) 2 ⟨unruly, [], 0⟩).serveAll
        [.onDocuments [seedDocument]]).generate [treeDocument] = (.ok modules, s') ∧
      s'.generate [treeDocument] = (.ok modules, s'') ∧
      s''.stats.cacheHits = s'.stats.cacheHits + 2 ∧
      s''.stats.cacheMisses = s'.stats.cacheMisses ∧
      s''.stats.generator.declarationsGenerated = s'.stats.generator.declarationsGenerated := by
  have two : ∃ graph, ShapeGraph.ofDocuments [treeDocument] = .ok graph ∧
      (graph.select false).length = 2 := exists_ok_of_any (by decide +kernel)
  obtain ⟨graph, lowered, two⟩ := two
  have ran : ∀ call ∈ [Call.onDocuments [seedDocument]], ∀ g,
      ShapeGraph.ofDocuments call.documents = .ok g →
        graphsOf [[treeDocument], [seedDocument]] g := by
    intro call member g made
    rw [List.mem_singleton.mp member] at made
    exact ⟨[seedDocument], by simp, made⟩
  have faithful : pairConfig.parallel.enabled → Faithful (Workforce.mk unruly [] 0).arrivals :=
    fun _ => faithful_unruly
  have sound := (sound_withWorkforce pairConfig (.new [] 0) 2 faithful).serveAll sendable_pair ran
  obtain ⟨orderly, size⟩ := orderly_serveAll (.new [] 0) 2 faithful sendable_pair ran
  generalize (withWorkforce pairConfig (.new [] 0) 2 ⟨unruly, [], 0⟩).serveAll
    [.onDocuments [seedDocument]] = s at sound orderly size ⊢
  have staffed := sound.staffed sendable_pair ⟨[treeDocument], by simp, lowered⟩
  have selected : (graph.select s.options.exportOnly).length = 2 := by
    rw [sound.options]
    exact two
  obtain ⟨modules, s', s'', first, second, stats⟩ := generate_again orderly
    (by rw [sound.configured]; rfl) lowered staffed (by rw [selected, size]; decide)
  rw [selected] at stats
  refine ⟨graph, modules, s', s'', lowered, two, first, second, ?_⟩
  rw [stats]
  exact ⟨rfl, rfl, rfl⟩

end Session

end Schemata
