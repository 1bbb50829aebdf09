import Schemata.Proofs.Schema.Cache

/-!
# Serving ids from the cache again

Ids are served through a cache, each from the cache or by a new schema that is put there.  If there
are no more ids than the cache can hold, it keeps all schemas that were served, in whatever order
this happened and whatever else it held: only ids that are served too can have been used after one
of them.  So the cache has everything when the same ids are asked for again.

## Main definitions

* `SchemaCache.Retains` : the cache holds a schema, and only certain ids have been used after it.
* `SchemaCache.Keeps` : the cache holds all schemas that were served.

## Main results

* `SchemaCache.Keeps.insert`, `SchemaCache.Keeps.hit`, `SchemaCache.Keeps.miss` : what one call
  keeps.
* `Generator.generateIds_keeps` : after a run through the cache it holds all schemas of the run.
* `Generator.generateIds_of_peek?` : a run over schemas that are there generates nothing.
-/

namespace Schemata

namespace SchemaCache

variable {cache : SchemaCache} {ids : List ShapeId} {schema : Schema}

/-! ### One schema -/

/-- The cache holds the schema, and all schemas after it are of certain ids. -/
def Retains (cache : SchemaCache) (ids : List ShapeId) (schema : Schema) : Prop :=
  ∃ older newer, cache.entries = older ++ schema :: newer ∧ ∀ other ∈ newer, other.id ∈ ids

theorem Retains.mem (retains : cache.Retains ids schema) : schema ∈ cache.entries := by
  obtain ⟨older, newer, split, -⟩ := retains
  rw [split]
  exact List.mem_append_right _ List.mem_cons_self

theorem Bounded.peek?_of_mem (bounded : cache.Bounded) (member : schema ∈ cache.entries) :
    cache.peek? schema.id = some schema := by
  have found : (cache.peek? schema.id).isSome := by
    rw [← contains_eq_isSome]
    exact contains_iff_mem_ids.mpr (List.mem_map_of_mem member)
  obtain ⟨twin, found⟩ := Option.isSome_iff_exists.mp found
  obtain ⟨listed, same⟩ := mem_of_peek? found
  rw [found, List.inj_on_of_nodup_map bounded.distinct listed member same]

/-- The use of an id among certain ones leaves a schema in the cache, if there is room for all of
them: another id does not drop it, and its own id only with itself. -/
theorem Retains.renewed (bounded : cache.Bounded) (retains : cache.Retains ids schema)
    (own : schema.id ∈ ids) (room : ids.length ≤ cache.maxSize) {used : Schema}
    (listed : used.id ∈ ids) (same : used.id = schema.id → used = schema) :
    ∃ older newer, cache.renewed used = older ++ schema :: newer ∧
      ∀ other ∈ newer, other.id ∈ ids := by
  by_cases apart : used.id = schema.id
  · obtain rfl := same apart
    obtain ⟨older, renewed⟩ := renewed_eq
      (Nat.lt_of_lt_of_le (List.length_pos_of_mem own) room) used
    exact ⟨older, [], renewed, fun _ member => absurd member List.not_mem_nil⟩
  · obtain ⟨older, newer, split, late⟩ := retains
    have few : ((ids ++ [used.id]).toFinset.erase schema.id).card < cache.maxSize := by
      have part : (ids ++ [used.id]).toFinset ⊆ ids.toFinset := by
        intro id member
        simp only [List.mem_toFinset, List.mem_append, List.mem_singleton] at member ⊢
        rcases member with old | rfl
        · exact old
        · exact listed
      calc ((ids ++ [used.id]).toFinset.erase schema.id).card
          ≤ (ids.toFinset.erase schema.id).card :=
            Finset.card_le_card (Finset.erase_subset_erase _ part)
        _ < ids.toFinset.card := Finset.card_erase_lt_of_mem (List.mem_toFinset.mpr own)
        _ ≤ ids.length := ids.toFinset_card_le
        _ ≤ cache.maxSize := room
    obtain ⟨older', newer', renewed, late'⟩ := bounded.renewed_split split late (Ne.symm apart) few
    refine ⟨older', newer', renewed, fun other member => ?_⟩
    rcases List.mem_append.mp (late' other member) with old | last
    · exact old
    · exact List.mem_singleton.mp last ▸ listed

/-! ### All schemas that were served -/

/-- The cache has room for certain ids, and holds the schemas of those of them that were served. -/
structure Keeps (cache : SchemaCache) (ids : List ShapeId) (served : List Schema) : Prop where
  bounded : cache.Bounded
  room : ids.length ≤ cache.maxSize
  listed : ∀ schema ∈ served, schema.id ∈ ids
  retains : ∀ schema ∈ served, cache.Retains ids schema

namespace Keeps

variable {served : List Schema}

theorem start (bounded : cache.Bounded) (room : ids.length ≤ cache.maxSize) :
    cache.Keeps ids [] :=
  ⟨bounded, room, fun _ member => absurd member List.not_mem_nil,
    fun _ member => absurd member List.not_mem_nil⟩

theorem mono (keeps : cache.Keeps ids served) {some : List Schema} (part : some ⊆ served) :
    cache.Keeps ids some :=
  ⟨keeps.bounded, keeps.room, fun schema member => keeps.listed schema (part member),
    fun schema member => keeps.retains schema (part member)⟩

theorem peek? (keeps : cache.Keeps ids served) (member : schema ∈ served) :
    cache.peek? schema.id = some schema :=
  keeps.bounded.peek?_of_mem (keeps.retains schema member).mem

/-- A call that uses a schema of a listed id keeps all that were served, and this one too, if it is
the same as what was served under its id. -/
theorem use (keeps : cache.Keeps ids served) {call : CacheCall} {used : Schema}
    (renewed : (cache.perform call).2.entries = cache.renewed used) (listed : used.id ∈ ids)
    (same : ∀ schema ∈ served, used.id = schema.id → used = schema) :
    (cache.perform call).2.Keeps ids (served ++ [used]) where
  bounded := keeps.bounded.perform call
  room := (maxSize_perform cache call).symm ▸ keeps.room
  listed := by
    intro schema member
    rcases List.mem_append.mp member with old | last
    · exact keeps.listed schema old
    · exact List.mem_singleton.mp last ▸ listed
  retains := by
    intro schema member
    unfold Retains
    rw [renewed]
    rcases List.mem_append.mp member with old | last
    · exact (keeps.retains schema old).renewed keeps.bounded (keeps.listed schema old) keeps.room
        listed (same schema old)
    · obtain rfl := List.mem_singleton.mp last
      obtain ⟨older, renewed⟩ := renewed_eq
        (Nat.lt_of_lt_of_le (List.length_pos_of_mem listed) keeps.room) schema
      exact ⟨older, [], renewed, fun _ member => absurd member List.not_mem_nil⟩

theorem insert (keeps : cache.Keeps ids served) {new : Schema} (listed : new.id ∈ ids)
    (same : ∀ schema ∈ served, new.id = schema.id → new = schema) :
    (cache.insert new).Keeps ids (served ++ [new]) := by
  have positive : cache.maxSize ≠ 0 := by
    have := List.length_pos_of_mem listed
    have := keeps.room
    omega
  have renewed : (cache.perform (.insert new)).2.entries = cache.renewed new := by
    simp [perform, SchemaCache.insert, positive, SchemaCache.renewed]
  exact keeps.use renewed listed same

theorem foldl_insert {new : List Schema} (keeps : cache.Keeps ids served)
    (listed : ∀ schema ∈ new, schema.id ∈ ids)
    (same : ∀ a ∈ served ++ new, ∀ b ∈ served ++ new, a.id = b.id → a = b) :
    (new.foldl SchemaCache.insert cache).Keeps ids (served ++ new) := by
  induction new generalizing cache served with
  | nil => simpa using keeps
  | cons first rest ih =>
    have whole : served ++ first :: rest = served ++ [first] ++ rest := by simp
    have first' : first ∈ served ++ first :: rest := by simp
    have next := keeps.insert (listed first List.mem_cons_self) fun schema member =>
      same first first' schema (List.mem_append_left _ member)
    rw [whole] at same ⊢
    exact ih next (fun schema member => listed schema (List.mem_cons_of_mem _ member)) same

/-- A look-up that finds a schema serves it. -/
theorem hit (keeps : cache.Keeps ids served) {id : ShapeId} {fingerprint : UInt64}
    (new : ∀ schema ∈ served, schema.id ≠ id) (listed : id ∈ ids)
    (hit : (cache.getCurrent id fingerprint).1 = some schema) :
    (cache.getCurrent id fingerprint).2.Keeps ids (served ++ [schema]) := by
  rw [getCurrent_fst, Option.filter_eq_some_iff, decide_eq_true_eq] at hit
  obtain rfl := (mem_of_peek? hit.1).2
  have renewed : (cache.perform (.getCurrent schema.id fingerprint)).2.entries
      = cache.renewed schema := keeps.bounded.entries_getCurrent hit.1 hit.2
  exact keeps.use renewed listed fun other member same => absurd same.symm (new other member)

/-- A look-up that finds nothing, or only a schema that is out of date, keeps all others. -/
theorem miss (keeps : cache.Keeps ids served) {id : ShapeId} {fingerprint : UInt64}
    (new : ∀ schema ∈ served, schema.id ≠ id)
    (miss : (cache.getCurrent id fingerprint).1 = none) :
    (cache.getCurrent id fingerprint).2.Keeps ids served := by
  have unused : cache.used? (.getCurrent id fingerprint) = none := by
    rw [getCurrent_fst, Option.filter_eq_none_iff] at miss
    simpa [used?, isCurrent, Option.any_eq_true] using miss
  have effect := keeps.bounded.step (.getCurrent id fingerprint)
  refine ⟨keeps.bounded.perform (.getCurrent id fingerprint),
    (maxSize_perform cache (.getCurrent id fingerprint)).symm ▸ keeps.room, keeps.listed,
    fun schema member => ?_⟩
  obtain ⟨older, newer, split, late⟩ := keeps.retains schema member
  unfold Retains
  change cache.Effect (.getCurrent id fingerprint) (cache.getCurrent id fingerprint).2.entries
    at effect
  generalize (cache.getCurrent id fingerprint).2.entries = entries at effect ⊢
  cases effect with
  | keep => exact ⟨older, newer, split, late⟩
  | drop other _ out =>
    have apart : schema.id ≠ other := fun same => new schema member (same.trans out.1.symm)
    exact ⟨_, _, others_split split apart, fun found listed =>
      late found (List.mem_of_mem_filter listed)⟩
  | empty _ out => exact absurd (out schema.id).1.symm (new schema member)
  | use _ used =>
    rw [unused] at used
    cases used

end Keeps

/-- Finding a schema changes nothing about what the cache has for any id. -/
theorem getCurrent_of_peek? {id : ShapeId} (found : cache.peek? id = some schema) :
    (cache.getCurrent id schema.fingerprint).1 = some schema ∧
      ∀ other, (cache.getCurrent id schema.fingerprint).2.peek? other = cache.peek? other := by
  have kept : cache.dropStale id schema.fingerprint = cache := by simp [dropStale, found]
  obtain rfl := (mem_of_peek? found).2
  rw [getCurrent, kept, get_fst, get, found]
  refine ⟨rfl, fun other => ?_⟩
  change (cache.others schema.id ++ [schema]).find? (·.id = other) = cache.peek? other
  rw [List.find?_append]
  by_cases same : schema.id = other
  · subst same
    have none_left : (cache.others schema.id).find? (·.id = schema.id) = none := by
      simp [others]
    simp [none_left, found]
  · have kept : (cache.others schema.id).find? (·.id = other) = cache.peek? other := by
      rw [others, List.find?_filter, peek?]
      refine congrArg (List.find? · cache.entries) (funext fun s => ?_)
      by_cases isOther : s.id = other
      · simp [isOther, Ne.symm same]
      · simp [isOther]
    simp [kept, same]

end SchemaCache

/-! ### Runs -/

namespace Generator

open SchemaCache

variable {gen : Generator} {cache : SchemaCache} {ids : List ShapeId} {served : List Schema}

/-- One declared id through a cache. -/
theorem generateCached_keeps (keeps : cache.Keeps ids served) {id : ShapeId}
    (new : ∀ schema ∈ served, schema.id ≠ id) (listed : id ∈ ids)
    (declared : (gen.schema? id).isSome) :
    ∃ schema stats cache', gen.generateCached cache id = (.ok schema, stats, cache') ∧
      schema.id = id ∧ schema.fingerprint = gen.graph.fingerprint schema.id ∧
      cache'.Keeps ids (served ++ [schema]) := by
  unfold generateCached
  split
  · rename_i schema cache' hit
    have kept := keeps.hit new listed (congrArg Prod.fst hit)
    rw [hit] at kept
    obtain ⟨-, rfl, current⟩ := mem_of_getCurrent (congrArg Prod.fst hit)
    exact ⟨schema, _, cache', rfl, rfl, current, kept⟩
  · rename_i cache' miss
    have kept := keeps.miss new (congrArg Prod.fst miss)
    rw [miss] at kept
    obtain ⟨schema, stats, made⟩ := exists_generate_of_isSome declared
    obtain ⟨rfl, current⟩ := id_of_schema? (schema?_of_ok made)
    rw [made]
    refine ⟨schema, _, _, rfl, rfl, current, kept.insert listed fun other member same => ?_⟩
    exact absurd same.symm (new other member)

private theorem foldl_generateNext_keeps (todo : List ShapeId) (distinct : todo.Nodup)
    (part : todo ⊆ ids) (declared : ∀ id ∈ todo, (gen.schema? id).isSome)
    (new : ∀ schema ∈ served, schema.id ∉ todo) (schemas : List Schema) (stats : GeneratorStats)
    (keeps : cache.Keeps ids served) :
    ∃ made stats' cache', todo.foldl gen.generateNext ⟨schemas, stats, some cache⟩
        = ⟨schemas ++ made, stats', some cache'⟩ ∧
      gen.Labelled (fun _ => True) todo made ∧ cache'.Keeps ids (served ++ made) := by
  induction todo generalizing schemas stats cache served with
  | nil => exact ⟨[], stats, cache, by simp, labelled_nil, by simpa using keeps⟩
  | cons id rest ih =>
    obtain ⟨first, later⟩ := List.nodup_cons.mp distinct
    obtain ⟨schema, gain, cache', cached, rfl, current, kept⟩ :=
      generateCached_keeps keeps (fun s member same => new s member (same ▸ List.mem_cons_self))
        (part List.mem_cons_self) (declared id List.mem_cons_self)
    have new' : ∀ s ∈ served ++ [schema], s.id ∉ rest := by
      intro s member again
      rcases List.mem_append.mp member with old | last
      · exact new s old (List.mem_cons_of_mem _ again)
      · exact first (List.mem_singleton.mp last ▸ again)
    obtain ⟨made, stats', cache', run, labelled, held⟩ :=
      ih later (fun id member => part (List.mem_cons_of_mem _ member))
        (fun id member => declared id (List.mem_cons_of_mem _ member)) new' (schemas ++ [schema])
        (stats + gain) kept
    refine ⟨schema :: made, stats', cache', ?_, labelled.cons trivial current, by simpa using held⟩
    rw [List.foldl_cons, generateNext_of_cached cached, run, List.append_assoc]
    rfl

/-- After a run over different declared ids, of which there are no more than the cache can hold, the
cache holds all schemas of the run. -/
theorem generateIds_keeps (bounded : cache.Bounded) (room : ids.length ≤ cache.maxSize)
    (distinct : ids.Nodup) (declared : ∀ id ∈ ids, (gen.schema? id).isSome) :
    ∃ made stats cache', gen.generateIds (some cache) ids = ⟨made, stats, some cache'⟩ ∧
      gen.Labelled (fun _ => True) ids made ∧ cache'.Keeps ids made :=
  foldl_generateNext_keeps ids distinct (fun _ => id) declared (by simp) [] {}
    (.start bounded room)

private theorem foldl_generateNext_of_peek? {schemas : List Schema}
    (present : ∀ schema ∈ schemas, cache.peek? schema.id = some schema)
    (current : ∀ schema ∈ schemas, schema.fingerprint = gen.graph.fingerprint schema.id)
    (done : List Schema) (hits : Nat) :
    ∃ cache', (schemas.map Schema.id).foldl gen.generateNext
        ⟨done, { cacheHits := hits }, some cache⟩
      = ⟨done ++ schemas, { cacheHits := hits + schemas.length }, some cache'⟩ := by
  induction schemas generalizing cache done hits with
  | nil => exact ⟨cache, by simp⟩
  | cons schema rest ih =>
    obtain ⟨hit, same⟩ := getCurrent_of_peek? (present schema List.mem_cons_self)
    rw [current schema List.mem_cons_self] at hit same
    let next := (cache.getCurrent schema.id (gen.graph.fingerprint schema.id)).2
    have cached : gen.generateCached cache schema.id = (.ok schema, { cacheHits := 1 }, next) := by
      have found : cache.getCurrent schema.id (gen.graph.fingerprint schema.id)
          = (some schema, next) := Prod.ext hit rfl
      rw [generateCached, found]
    have counted : ({ cacheHits := hits } : GeneratorStats) + { cacheHits := 1 }
        = { cacheHits := hits + 1 } := rfl
    obtain ⟨cache', run⟩ := ih
      (fun s member => (same s.id).trans (present s (List.mem_cons_of_mem _ member)))
      (fun s member => current s (List.mem_cons_of_mem _ member)) (done ++ [schema]) (hits + 1)
    refine ⟨cache', ?_⟩
    rw [List.map_cons, List.foldl_cons, generateNext_of_cached cached, counted, run,
      List.append_assoc, List.length_cons, Nat.add_assoc, Nat.add_comm 1]
    rfl

/-- A run over the ids of schemas that the cache holds, up to date, gives these schemas, counts as
many hits and nothing else. -/
theorem generateIds_of_peek? {schemas : List Schema}
    (present : ∀ schema ∈ schemas, cache.peek? schema.id = some schema)
    (current : ∀ schema ∈ schemas, schema.fingerprint = gen.graph.fingerprint schema.id) :
    ∃ cache', gen.generateIds (some cache) (schemas.map Schema.id)
      = ⟨schemas, { cacheHits := schemas.length }, some cache'⟩ := by
  have run := foldl_generateNext_of_peek? present current [] 0
  rwa [Nat.zero_add] at run

theorem leads_generateCached (gen : Generator) (cache : SchemaCache) (id : ShapeId) :
    cache.Leads (gen.generateCached cache id).2.2 := by
  have looked := cache.leads_getCurrent id (gen.graph.fingerprint id)
  unfold generateCached
  split
  · rename_i found
    rwa [found] at looked
  · rename_i found
    rw [found] at looked
    split
    · exact looked.trans (leads_foldl_insert _ [_])
    · exact looked

/-- All that a run does to a cache are calls of it. -/
theorem leads_generateIds (gen : Generator) (cache : SchemaCache) (ids : List ShapeId) :
    ∃ cache', (gen.generateIds (some cache) ids).cache = some cache' ∧ cache.Leads cache' := by
  unfold generateIds
  generalize ([] : List Schema) = schemas, ({} : GeneratorStats) = stats
  induction ids generalizing cache schemas stats with
  | nil => exact ⟨cache, rfl, .refl cache⟩
  | cons id rest ih =>
    obtain ⟨cache', left, leads⟩ := ih (gen.generateCached cache id).2.2 _ _
    exact ⟨cache', left, (gen.leads_generateCached cache id).trans leads⟩

end Generator

end Schemata
