import Schemata.Proofs.Document.Lower
import Schemata.Proofs.Shape.Selection
import Schemata.Proofs.Work.Parallel
import Schemata.Session.Generate

/-!
# The past of a session does not show

What a session generates from documents depends on its configuration and on the documents alone.
Earlier calls, failed ones among them, leave schemas in the cache and numbers in the books of the
coordinator, but the schemas are those that would be generated anew, and the books are empty between
calls.  So the cache, its size, the workers and their behaviour make no difference.

It is assumed that fingerprints tell the graphs of the run apart: where two graphs give an id the
same fingerprint, they have the same shapes and declarations below it.

## Main definitions

* `Session.Distinguished`, `Session.Writable` : what is assumed of the graphs of a run.
* `Session.anew` : the modules of documents, with every schema generated from the graph.
* `Session.Sound` : what holds of a session between calls.

## Main results

* `Session.generateIds_labelled` : a session gives one schema for each id, in order.
* `Session.generateFiles_sound` : one call gives the modules as generated anew.
* `Session.generate_eq_plain` : after any calls, a session gives the same as a fresh one without
  cache and workers.
-/

namespace Schemata.Session

open Coordinator

/-- The options of a configuration. -/
def optionsOf (config : Config) : GenerateOptions :=
  { strict := config.strict, exportOnly := config.exportOnly }

/-- The generator of a graph under a configuration. -/
def generatorOf (config : Config) (graph : ShapeGraph) : Generator :=
  .new graph (.ofTable config.overrides.table) (optionsOf config)

/-- Where two graphs of the run give an id the same fingerprint, they are the same below it. -/
def Distinguished (run : ShapeGraph → Prop) : Prop :=
  ∀ g h, run g → run h → ∀ id, g.fingerprint id = h.fingerprint id → g.SameBelow h id

/-- The graphs of the run, with all their ids and the rules, can be written as units: their octets
are fewer than a word can count. -/
def Writable (config : Config) (run : ShapeGraph → Prop) : Prop :=
  ∀ g, run g → (WorkUnit.mk ⟨0⟩ g g.declaredIds config.overrides.table
    (optionsOf config)).encode.length < UInt64.size

theorem Writable.length_lt {config : Config} {run : ShapeGraph → Prop}
    (writable : Writable config run) {g : ShapeGraph} (hg : run g) :
    g.declaredIds.length < UInt64.size :=
  Nat.lt_of_le_of_lt (WorkUnit.length_roots_le ⟨⟨0⟩, g, g.declaredIds, _, _⟩) (writable g hg)

/-- The graphs of the run are filed, and all that is assumed of them holds. -/
structure Regular (config : Config) (run : ShapeGraph → Prop) : Prop where
  filed : ∀ g, run g → g.Filed
  distinguished : Distinguished run
  writable : Writable config run

/-- The graphs of the run are filed, and can be sent to workers if there are any. -/
structure Sendable (config : Config) (run : ShapeGraph → Prop) : Prop where
  filed : ∀ g, run g → g.Filed
  writable : config.parallel.enabled → Writable config run

theorem Regular.sendable {config : Config} {run : ShapeGraph → Prop}
    (regular : Regular config run) : Sendable config run :=
  ⟨regular.filed, fun _ => regular.writable⟩

/-- The schema was generated from a graph of the run. -/
def Known (config : Config) (run : ShapeGraph → Prop) (schema : Schema) : Prop :=
  ∃ g, run g ∧ (generatorOf config g).schema? schema.id = some schema

/-- What holds of a session between calls. -/
structure Sound (config : Config) (run : ShapeGraph → Prop) (s : Session) : Prop where
  configured : s.config = config
  options : s.options = optionsOf config
  rules : s.rules = .ofTable config.overrides.table
  cache : s.cache.Holds (Known config run)
  coordinator : ∀ c, s.coordinator = some c →
    config.parallel.enabled ∧ c.Idle ∧ c.parallel ∧ Faithful s.workforce.arrivals

variable {config : Config} {run : ShapeGraph → Prop} {s : Session} {g : ShapeGraph}

/-! ### Schemas from the cache -/

/-- A schema of the run that has the current fingerprint is the one that would be generated. -/
theorem Known.current (regular : Regular config run) (hg : run g) {schema : Schema}
    (known : Known config run schema) (same : schema.fingerprint = g.fingerprint schema.id) :
    (generatorOf config g).schema? schema.id = some schema := by
  obtain ⟨h, hh, generated⟩ := known
  have marked : schema.fingerprint = h.fingerprint schema.id :=
    (Generator.id_of_schema? generated).2
  have below : g.SameBelow h schema.id :=
    regular.distinguished g h hg hh _ (same.symm.trans marked)
  rw [← generated]
  exact congrArg (fun result => result.toOption.map Prod.fst)
    (Generator.generate_eq_of_sameBelow (regular.filed g hg) (regular.filed h hh) below _ _)

theorem Known.of_schema? (hg : run g) {id : ShapeId} {schema : Schema}
    (generated : (generatorOf config g).schema? id = some schema) : Known config run schema := by
  obtain ⟨rfl, -⟩ := Generator.id_of_schema? generated
  exact ⟨g, hg, generated⟩

/-- What looking ids up comes to: schemas of the run, and the ids that are left. -/
structure LookedUp (config : Config) (run : ShapeGraph → Prop) (g : ShapeGraph)
    (ids : List ShapeId) (found : List Schema) (missing : List ShapeId) (cache : SchemaCache) :
    Prop where
  known : ∀ schema ∈ found, Known config run schema
  current : ∀ schema ∈ found, schema.fingerprint = g.fingerprint schema.id
  part : missing.Sublist ids
  covers : ∀ id ∈ ids, id ∈ missing ∨ ∃ schema ∈ found, schema.id = id
  cache : cache.Holds (Known config run)

theorem lookUp_lookedUp (g : ShapeGraph) {cache : SchemaCache}
    (holds : cache.Holds (Known config run)) (ids : List ShapeId) :
    LookedUp config run g ids (lookUp g cache ids).1 (lookUp g cache ids).2.1
      (lookUp g cache ids).2.2 := by
  induction ids generalizing cache with
  | nil => exact ⟨by simp [lookUp], by simp [lookUp], by simp [lookUp], by simp, holds⟩
  | cons id rest ih =>
    have later := ih (holds.getCurrent id (g.fingerprint id))
    unfold lookUp
    dsimp only
    split
    · rename_i schema hit
      obtain ⟨member, rfl, same⟩ := SchemaCache.mem_of_getCurrent hit
      refine ⟨List.forall_mem_cons.mpr ⟨holds schema member, later.known⟩,
        List.forall_mem_cons.mpr ⟨same, later.current⟩, later.part.cons _, ?_, later.cache⟩
      rintro id (_ | ⟨_, member'⟩)
      · exact Or.inr ⟨schema, List.mem_cons_self, rfl⟩
      · refine (later.covers id member').imp_right ?_
        rintro ⟨other, listed, same⟩
        exact ⟨other, List.mem_cons_of_mem _ listed, same⟩
    · refine ⟨later.known, later.current, later.part.cons_cons id, ?_, later.cache⟩
      rintro other (_ | ⟨_, member⟩)
      · exact Or.inl List.mem_cons_self
      · exact (later.covers other member).imp_left (List.mem_cons_of_mem _)

/-- An id of some schemas leads to one of them when they are filed by their ids. -/
theorem exists_get?_of_mem_ids {schemas : List Schema} {id : ShapeId}
    (listed : id ∈ schemas.map Schema.id) :
    ∃ schema ∈ schemas, (OrderedMap.ofList (schemas.map fun schema => (schema.id, schema))).get? id
      = some schema ∧ schema.id = id := by
  have key : id ∈ (schemas.map fun schema => (schema.id, schema)).map Prod.fst := by
    rwa [List.map_map]
  obtain ⟨schema, got, member⟩ := OrderedMap.exists_get?_ofList key
  obtain ⟨_, own, same⟩ := List.mem_map.mp member
  cases same
  exact ⟨schema, own, got, rfl⟩

/-- Looked-up schemas and those of the ids that are left make up all schemas. -/
theorem LookedUp.exists_get? {ids missing : List ShapeId} {found : List Schema}
    {cache : SchemaCache} (looked : LookedUp config run g ids found missing cache) (hg : run g)
    {id : ShapeId} (member : id ∈ ids) (declared : ((generatorOf config g).schema? id).isSome) :
    ∃ schema, (OrderedMap.ofList ((found ++ missing.filterMap (generatorOf config g).schema?).map
        fun schema => (schema.id, schema))).get? id = some schema ∧
      schema.id = id ∧ Known config run schema ∧
      schema.fingerprint = g.fingerprint schema.id := by
  have listed : id ∈ (found ++ missing.filterMap (generatorOf config g).schema?).map Schema.id := by
    rw [List.mem_map]
    rcases looked.covers id member with left | ⟨schema, listed, same⟩
    · obtain ⟨schema, made⟩ := Option.isSome_iff_exists.mp declared
      exact ⟨schema, List.mem_append_right _ (List.mem_filterMap.mpr ⟨id, left, made⟩),
        (Generator.id_of_schema? made).1⟩
    · exact ⟨schema, List.mem_append_left _ listed, same⟩
  obtain ⟨schema, own, got, rfl⟩ := exists_get?_of_mem_ids listed
  refine ⟨schema, got, rfl, ?_⟩
  rcases List.mem_append.mp own with old | new
  · exact ⟨looked.known schema old, looked.current schema old⟩
  · obtain ⟨id, -, made⟩ := List.mem_filterMap.mp new
    obtain ⟨rfl, current⟩ := Generator.id_of_schema? made
    exact ⟨.of_schema? hg made, current⟩

/-! ### Schemas from workers -/

theorem outputsOf_ok (outputs : List UnitOutput) : outputsOf (outputs.map .ok) = outputs := by
  induction outputs with
  | nil => rfl
  | cons output rest ih => exact congrArg (output :: ·) ih

theorem eraseDups_eq_self {ids : List ShapeId} (distinct : ids.Nodup) :
    ids.eraseDups = ids := by
  induction ids with
  | nil => rfl
  | cons id rest ih =>
    obtain ⟨new, distinct⟩ := List.nodup_cons.mp distinct
    have kept : rest.filter (fun other => !other == id) = rest :=
      List.filter_eq_self.mpr fun other member => by
        simpa using fun same : other = id => new (same ▸ member)
    rw [List.eraseDups_cons, kept, ih distinct]

/-- The declarations of a graph have schemas. -/
theorem isSome_schema? (filed : g.Filed) {rules : RuleSet} {options : GenerateOptions}
    {id : ShapeId} (declared : id ∈ g.declaredIds) :
    ((Generator.new g rules options).schema? id).isSome := by
  rw [filed.mem_declaredIds_iff, ShapeGraph.isDeclared_eq_isSome, Option.isSome_iff_exists]
    at declared
  obtain ⟨d, found⟩ := declared
  rw [Generator.schema?, Generator.generate_eq_ok found]
  rfl

theorem labelled_filterMap {gen : Generator} {good : Schema → Prop}
    {look : ShapeId → Option Schema} {ids : List ShapeId}
    (all : ∀ id ∈ ids, ∃ schema, look id = some schema ∧ schema.id = id ∧ good schema ∧
      schema.fingerprint = gen.graph.fingerprint schema.id) :
    gen.Labelled good ids (ids.filterMap look) := by
  induction ids with
  | nil => exact Generator.labelled_nil
  | cons id rest ih =>
    obtain ⟨schema, found, rfl, hs, current⟩ := all id List.mem_cons_self
    rw [List.filterMap_cons_some found]
    exact (ih fun id member => all id (List.mem_cons_of_mem _ member)).cons hs current

theorem generateParallel_labelled (sendable : Sendable config run) (sound : s.Sound config run)
    {c : Coordinator} (hc : s.coordinator = some c) (hg : run g) {ids : List ShapeId}
    (part : ids.Sublist g.declaredIds) (distinct : ids.Nodup) :
    (generatorOf config g).Labelled (Known config run) ids (s.generateParallel c g ids).1 ∧
      (s.generateParallel c g ids).2.Sound config run := by
  obtain ⟨enabled, idle, parallel, faithful⟩ := sound.coordinator c hc
  have writable := sendable.writable enabled
  rcases hl : lookUp g s.cache ids with ⟨found, missing, cache⟩
  rcases hp : c.plan g missing s.rules s.options with ⟨units, c'⟩
  simp only [generateParallel, hl, hp]
  have looked : LookedUp config run g ids found missing cache := by
    have := lookUp_lookedUp g sound.cache ids
    rwa [hl] at this
  rw [sound.rules, sound.options] at hp
  have planned := plan_planned (sendable.filed g hg) hp
  have few : missing.length < UInt64.size :=
    Nat.lt_of_le_of_lt (looked.part.trans part).length_le (writable.length_lt hg)
  have decodes := planned.decodes (writable g hg) (looked.part.trans part)
  have ran := run_plan_idle (sendable.filed g hg) idle parallel cache few hp decodes faithful
  constructor
  · rw [ran.outcomes, outputsOf_ok, ran.schemas, eraseDups_eq_self distinct]
    exact labelled_filterMap fun id member => looked.exists_get? hg member
      (isSome_schema? (sendable.filed g hg) (part.subset member))
  · refine ⟨sound.configured, sound.options, sound.rules, ?_, ?_⟩
    · exact ran.holds _ (fun id schema generated => Known.of_schema? hg generated) looked.cache
    · rintro _ ⟨⟩
      exact ⟨enabled, ran.idle, ran.parallel, faithful⟩

/-! ### Calls -/

theorem generateInProcess_labelled (filed : g.Filed) (sound : s.Sound config run) (hg : run g)
    {ids : List ShapeId} (part : ids.Sublist g.declaredIds) :
    (generatorOf config g).Labelled (Known config run) ids (s.generateInProcess g ids).1 ∧
      (s.generateInProcess g ids).2.Sound config run := by
  have gen : Generator.new g s.rules s.options = generatorOf config g := by
    rw [sound.rules, sound.options]
    rfl
  have all : ∀ id ∈ ids, ((generatorOf config g).schema? id).isSome := fun id member =>
    isSome_schema? filed (part.subset member)
  obtain ⟨labelled, cache, left, holds⟩ := Generator.generateIds_some sound.cache
    (fun id schema generated => Known.of_schema? hg generated) all
  simp only [generateInProcess, gen, left]
  exact ⟨labelled, sound.configured, sound.options, sound.rules, holds, sound.coordinator⟩

/-- Whether from the cache, in process or by workers, a session gives a schema of the run for each
declared id, in order, with the fingerprint of now. -/
theorem generateIds_labelled (sendable : Sendable config run) (sound : s.Sound config run)
    (hg : run g) {ids : List ShapeId} (part : ids.Sublist g.declaredIds) (distinct : ids.Nodup) :
    (generatorOf config g).Labelled (Known config run) ids (s.generateIds g ids).1 ∧
      (s.generateIds g ids).2.Sound config run := by
  unfold generateIds
  split
  · rename_i c hc
    split
    · exact generateParallel_labelled sendable sound hc hg part distinct
    · exact generateInProcess_labelled (sendable.filed g hg) sound hg part
  · exact generateInProcess_labelled (sendable.filed g hg) sound hg part

theorem selectIn_sublist (g : ShapeGraph) (exportOnly : Bool) (files : List String) :
    (selectIn g exportOnly files).Sublist g.declaredIds :=
  List.filter_sublist.trans (g.select_sublist exportOnly)

/-- The modules of some files of the documents, with every schema generated from the graph. -/
def anew (config : Config) (documents : List Document) (files : List String) :
    Except SessionError (List GeneratedModule) :=
  if config.enabled then
    match ShapeGraph.ofDocuments documents with
    | .error error => .error (.lowering error)
    | .ok graph =>
      .ok (modulesOf graph (optionsOf config).suffix
        ((documents.map Document.file).filter files.contains)
        ((selectIn graph config.exportOnly files).filterMap (generatorOf config graph).schema?))
  else .ok []

section Files

variable {documents : List Document}

/-- A call on documents that are accepted puts one schema of the run for each selected declaration
of the files into modules, and leaves the session sound. -/
theorem generateFiles_labelled (sendable : Sendable config run) (sound : s.Sound config run)
    (enabled : config.enabled) (lowered : ShapeGraph.ofDocuments documents = .ok g) (hg : run g)
    (files : List String) :
    ∃ schemas s', s.generateFiles documents files
        = (.ok (modulesOf g (optionsOf config).suffix
          ((documents.map Document.file).filter files.contains) schemas), s') ∧
      (generatorOf config g).Labelled (Known config run) (selectIn g config.exportOnly files)
        schemas ∧ s'.Sound config run := by
  have part := selectIn_sublist g config.exportOnly files
  have keys : g.declaredIds.Nodup := by
    rw [(sendable.filed g hg).declaredIds_eq]
    exact g.declarations.nodup
  obtain ⟨labelled, made⟩ := generateIds_labelled sendable sound hg part (keys.sublist part)
  have exportOnly : s.options.exportOnly = config.exportOnly := by
    rw [sound.options]
    rfl
  unfold generateFiles
  rw [sound.configured, if_pos enabled, lowered]
  dsimp only
  rw [exportOnly, made.options]
  exact ⟨_, _, rfl, labelled, made.configured, rfl, made.rules, made.cache, made.coordinator⟩

theorem generateFiles_of_disabled (disabled : ¬ s.config.enabled) (files : List String) :
    s.generateFiles documents files = (.ok [], s) := by
  rw [generateFiles, if_neg disabled]

theorem generateFiles_of_error (enabled : s.config.enabled) {error : LowerError}
    (refused : ShapeGraph.ofDocuments documents = .error error) (files : List String) :
    s.generateFiles documents files = (.error (.lowering error), s) := by
  rw [generateFiles, if_pos enabled, refused]

theorem Sound.generateFiles (sendable : Sendable config run) (sound : s.Sound config run)
    (hd : ∀ g, ShapeGraph.ofDocuments documents = .ok g → run g) (files : List String) :
    (s.generateFiles documents files).2.Sound config run := by
  by_cases enabled : config.enabled
  · cases lowered : ShapeGraph.ofDocuments documents with
    | error error =>
      rwa [generateFiles_of_error (sound.configured ▸ enabled) lowered]
    | ok g =>
      obtain ⟨_, s', made, -, sound'⟩ :=
        generateFiles_labelled sendable sound enabled lowered (hd g lowered) files
      rwa [made]
  · rwa [generateFiles_of_disabled (sound.configured ▸ enabled)]

/-- One call gives the modules as generated anew, and leaves the session sound. -/
theorem generateFiles_sound (regular : Regular config run) (sound : s.Sound config run)
    (hd : ∀ g, ShapeGraph.ofDocuments documents = .ok g → run g) (files : List String) :
    (s.generateFiles documents files).1 = anew config documents files ∧
      (s.generateFiles documents files).2.Sound config run := by
  refine ⟨?_, sound.generateFiles regular.sendable hd files⟩
  unfold anew
  split
  · rename_i enabled
    cases lowered : ShapeGraph.ofDocuments documents with
    | error error => rw [generateFiles_of_error (sound.configured ▸ enabled) lowered]
    | ok g =>
      obtain ⟨schemas, _, made, labelled, -⟩ :=
        generateFiles_labelled regular.sendable sound enabled lowered (hd g lowered) files
      rw [made, labelled.eq_filterMap fun schema member => (labelled.good schema member).current
        regular (hd g lowered) (labelled.current schema member)]
  · rename_i disabled
    rw [generateFiles_of_disabled (sound.configured ▸ disabled)]

end Files

theorem sound_withWorkforce (config : Config) (files : FileStore) (available : Nat)
    {workforce : Workforce} (faithful : config.parallel.enabled → Faithful workforce.arrivals) :
    (withWorkforce config files available workforce).Sound config run := by
  refine ⟨rfl, rfl, rfl, SchemaCache.holds_new _, fun c hc => ?_⟩
  simp only [withWorkforce, coordinatorOf] at hc
  split at hc
  · rename_i enabled
    cases hc
    refine ⟨enabled, fun task known => ?_, rfl, faithful enabled⟩
    cases known <;> contradiction
  · cases hc

/-- A session after calls on some lists of documents. -/
def after (s : Session) (history : List (List Document)) : Session :=
  history.foldl (fun s documents => (s.generate documents).2) s

theorem Sound.after (sound : s.Sound config run) (regular : Regular config run)
    {history : List (List Document)}
    (hh : ∀ documents ∈ history, ∀ g, ShapeGraph.ofDocuments documents = .ok g → run g) :
    (s.after history).Sound config run := by
  induction history generalizing s with
  | nil => exact sound
  | cons documents rest ih =>
    have next := generateFiles_sound regular sound
      (hh documents List.mem_cons_self) (documents.map Document.file)
    exact ih next.2 fun others member => hh others (List.mem_cons_of_mem _ member)

/-- The configuration without cache and workers. -/
def plain (config : Config) : Config :=
  { config with
    cache := { config.cache with enabled := false }
    parallel := { config.parallel with enabled := false } }

/-- The graphs of some lists of documents. -/
def graphsOf (runs : List (List Document)) (g : ShapeGraph) : Prop :=
  ∃ documents ∈ runs, ShapeGraph.ofDocuments documents = .ok g

/-- After any calls a session generates the same from documents as a fresh session without cache and
workers. -/
theorem generate_eq_plain (config : Config) (files : FileStore) (available : Nat)
    {workforce : Workforce} (faithful : Faithful workforce.arrivals)
    (history : List (List Document)) (documents : List Document)
    (distinguished : Distinguished (graphsOf (documents :: history)))
    (writable : Writable config (graphsOf (documents :: history))) (others : Workforce) :
    (((withWorkforce config files available workforce).after history).generate documents).1
      = ((withWorkforce (plain config) files available others).generate documents).1 := by
  let run := graphsOf (documents :: history)
  have filed : ∀ g, run g → g.Filed := by
    rintro g ⟨_, -, lowered⟩
    exact ShapeGraph.filed_ofDocuments lowered
  have regular : Regular config run := ⟨filed, distinguished, writable⟩
  have regularPlain : Regular (plain config) run := ⟨filed, distinguished, writable⟩
  have own : ∀ g, ShapeGraph.ofDocuments documents = .ok g → run g :=
    fun g lowered => ⟨documents, List.mem_cons_self, lowered⟩
  have earlier : ∀ past ∈ history, ∀ g, ShapeGraph.ofDocuments past = .ok g → run g :=
    fun past member g lowered => ⟨past, List.mem_cons_of_mem _ member, lowered⟩
  have fresh : Sound config run (withWorkforce config files available workforce) :=
    sound_withWorkforce config files available fun _ => faithful
  have plainFresh : Sound (plain config) run
      (withWorkforce (plain config) files available others) :=
    sound_withWorkforce (plain config) files available fun enabled => by cases enabled
  calc (((withWorkforce config files available workforce).after history).generate documents).1
      = anew config documents (documents.map Document.file) :=
        (generateFiles_sound regular (fresh.after regular earlier) own _).1
    _ = anew (plain config) documents (documents.map Document.file) := rfl
    _ = ((withWorkforce (plain config) files available others).generate documents).1 :=
        (generateFiles_sound regularPlain plainFresh own _).1.symm

/-- A file with a type that is defined through itself and another one. -/
def treeDocument : Document where
  file := "tree.ts"
  declarations := [
    ⟨"Tree", .typeAlias, true, [], .array (.ref "Tree" [])⟩,
    ⟨"Leaf", .typeAlias, false, [], .primitive .string⟩]

/-- Units of one declaration, and a cache with room for one schema. -/
def smallConfig : Config :=
  { cache := { maxSize := 1 }, parallel := { enabled := true, batchSize := 1 } }

/-- Calls that succeed and one that fails, because the names are declared twice. -/
def treeHistory : List (List Document) :=
  [[treeDocument], [treeDocument, treeDocument], [treeDocument]]

theorem ofDocuments_tree {g : ShapeGraph} (hg : graphsOf ([treeDocument] :: treeHistory) g) :
    ShapeGraph.ofDocuments [treeDocument] = .ok g := by
  have refused : (ShapeGraph.ofDocuments [treeDocument, treeDocument]).toOption = none := by
    decide +kernel
  obtain ⟨documents, member, lowered⟩ := hg
  simp only [treeHistory, List.mem_cons, List.not_mem_nil, or_false] at member
  rcases member with rfl | rfl | rfl | rfl
  · exact lowered
  · exact lowered
  · rw [lowered] at refused
    cases refused
  · exact lowered

theorem writable_tree : Writable smallConfig (graphsOf ([treeDocument] :: treeHistory)) := by
  have short : (ShapeGraph.ofDocuments [treeDocument]).toOption.all fun g =>
      (WorkUnit.mk ⟨0⟩ g g.declaredIds smallConfig.overrides.table
        (optionsOf smallConfig)).encode.length < UInt64.size := by
    decide +kernel
  intro g hg
  rw [ofDocuments_tree hg] at short
  exact of_decide_eq_true short

theorem generate_eq_plain_tree :
    (((withWorkforce smallConfig (.new [] 0) 2 ⟨unruly, [], 0⟩).after treeHistory).generate
      [treeDocument]).1
      = ((withWorkforce (plain smallConfig) (.new [] 0) 2 (.inOrder 2)).generate
        [treeDocument]).1 := by
  have distinguished : Distinguished (graphsOf ([treeDocument] :: treeHistory)) := by
    intro g h hg hh id _ found _
    obtain rfl : g = h := Except.ok.inj ((ofDocuments_tree hg).symm.trans (ofDocuments_tree hh))
    exact ⟨rfl, rfl⟩
  exact generate_eq_plain smallConfig (.new [] 0) 2 faithful_unruly treeHistory [treeDocument]
    distinguished writable_tree (.inOrder 2)

end Schemata.Session
