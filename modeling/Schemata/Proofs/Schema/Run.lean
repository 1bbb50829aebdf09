import Schemata.Schema.Run

/-!
# Runs with and without a cache

Without a cache a run gives the schemas of its ids in order.  With a cache it gives schemas of the
same ids in the same order, whatever the size of the cache is and whatever it drops; they are the
same schemas, if those in the cache are right whenever their fingerprints are.

## Main definitions

* `Generator.schema?` : the schema of an id, if it is declared.
* `SchemaCache.Holds` : all schemas in a cache have a property.
* `Generator.Labelled` : schemas that stand for ids.

## Main results

* `Generator.generateIds_none` : the schemas of a run without a cache.
* `Generator.generateIds_some` : the schemas of a run with a cache.
-/

namespace Schemata

/-! ### What is in a cache -/

namespace SchemaCache

/-- All schemas in the cache have a property. -/
def Holds (cache : SchemaCache) (good : Schema → Prop) : Prop :=
  ∀ schema ∈ cache.entries, good schema

variable {cache : SchemaCache} {good : Schema → Prop}

theorem holds_new (maxSize : Nat) : (new maxSize).Holds good := by
  intro schema h
  cases h

theorem Holds.others (h : cache.Holds good) (id : ShapeId) : ∀ s ∈ cache.others id, good s :=
  fun s hs => h s (List.mem_filter.mp hs).1

theorem Holds.insert (h : cache.Holds good) {schema : Schema} (hs : good schema) :
    (cache.insert schema).Holds good := by
  unfold SchemaCache.insert
  split
  · exact h
  · intro found hf
    rcases List.mem_append.mp (List.mem_of_mem_drop hf) with hf | hf
    · exact h.others schema.id found hf
    · exact List.mem_singleton.mp hf ▸ hs

theorem Holds.foldl_insert {schemas : List Schema} (h : cache.Holds good)
    (hs : ∀ schema ∈ schemas, good schema) :
    (schemas.foldl SchemaCache.insert cache).Holds good := by
  induction schemas generalizing cache with
  | nil => exact h
  | cons schema rest ih =>
    exact ih (h.insert (hs schema List.mem_cons_self)) fun s hs' =>
      hs s (List.mem_cons_of_mem _ hs')

theorem mem_of_peek? {id : ShapeId} {schema : Schema} (h : cache.peek? id = some schema) :
    schema ∈ cache.entries ∧ schema.id = id :=
  ⟨List.mem_of_find?_eq_some h, by simpa using List.find?_some h⟩

theorem Holds.get (h : cache.Holds good) (id : ShapeId) : (cache.get id).2.Holds good := by
  unfold SchemaCache.get
  split
  · rename_i schema found
    intro s hs
    rcases List.mem_append.mp hs with hs | hs
    · exact h.others id s hs
    · exact List.mem_singleton.mp hs ▸ h schema (mem_of_peek? found).1
  · exact h

theorem Holds.dropStale (h : cache.Holds good) (id : ShapeId) (fingerprint : UInt64) :
    (cache.dropStale id fingerprint).Holds good := by
  unfold SchemaCache.dropStale
  split
  · exact h.others id
  · exact h

theorem Holds.getCurrent (h : cache.Holds good) (id : ShapeId) (fingerprint : UInt64) :
    (cache.getCurrent id fingerprint).2.Holds good :=
  (h.dropStale id fingerprint).get id

theorem get_fst (cache : SchemaCache) (id : ShapeId) : (cache.get id).1 = cache.peek? id := by
  unfold SchemaCache.get
  split <;> simp [*]

theorem peek?_dropStale (cache : SchemaCache) (id : ShapeId) (fingerprint : UInt64) :
    (cache.dropStale id fingerprint).peek? id
      = (cache.peek? id).filter (·.fingerprint = fingerprint) := by
  unfold SchemaCache.dropStale
  cases found : cache.peek? id with
  | none => simp [found]
  | some schema =>
    by_cases same : schema.fingerprint = fingerprint
    · simp [same, found, Option.filter]
    · simp [same, peek?, others, Option.filter]

/-- A look-up finds the schema of the id if it has the fingerprint. -/
theorem getCurrent_fst (cache : SchemaCache) (id : ShapeId) (fingerprint : UInt64) :
    (cache.getCurrent id fingerprint).1
      = (cache.peek? id).filter (·.fingerprint = fingerprint) := by
  rw [getCurrent, get_fst, peek?_dropStale]

theorem mem_of_getCurrent {id : ShapeId} {fingerprint : UInt64} {schema : Schema}
    (h : (cache.getCurrent id fingerprint).1 = some schema) :
    schema ∈ cache.entries ∧ schema.id = id ∧ schema.fingerprint = fingerprint := by
  rw [getCurrent_fst, Option.filter_eq_some_iff] at h
  obtain ⟨member, sameId⟩ := mem_of_peek? h.1
  exact ⟨member, sameId, by simpa using h.2⟩

end SchemaCache

/-! ### Runs -/

namespace Generator

/-- The schema of an id, if it is declared. -/
def schema? (gen : Generator) (id : ShapeId) : Option Schema :=
  (gen.generate id).toOption.map Prod.fst

variable {gen : Generator}

theorem schema?_of_ok {id : ShapeId} {schema : Schema} {stats : GeneratorStats}
    (h : gen.generate id = .ok (schema, stats)) : gen.schema? id = some schema := by
  rw [schema?, h]
  rfl

theorem schema?_of_error {id : ShapeId} {error : GenerationError}
    (h : gen.generate id = .error error) : gen.schema? id = none := by
  rw [schema?, h]
  rfl

/-- A schema bears the id that it was generated for, and its fingerprint. -/
theorem id_of_schema? {id : ShapeId} {schema : Schema} (h : gen.schema? id = some schema) :
    schema.id = id ∧ schema.fingerprint = gen.graph.fingerprint id := by
  unfold schema? generate at h
  split at h
  · cases h
  · cases h
    exact ⟨rfl, rfl⟩

private theorem foldl_generateNext_none (ids : List ShapeId) (schemas : List Schema)
    (stats : GeneratorStats) :
    (ids.foldl gen.generateNext ⟨schemas, stats, none⟩).schemas
      = schemas ++ ids.filterMap gen.schema? := by
  induction ids generalizing schemas stats with
  | nil => simp
  | cons id rest ih =>
    rw [List.foldl_cons]
    cases found : gen.generate id with
    | error error =>
      have step : gen.generateNext ⟨schemas, stats, none⟩ id = ⟨schemas, stats, none⟩ := by
        simp [generateNext, found]
      rw [step, ih, List.filterMap_cons_none (schema?_of_error found)]
    | ok result =>
      have step : gen.generateNext ⟨schemas, stats, none⟩ id
          = ⟨schemas ++ [result.1], stats + result.2, none⟩ := by
        simp [generateNext, found]
      rw [step, ih, List.filterMap_cons_some (schema?_of_ok found), List.append_assoc]
      rfl

/-- A run without a cache gives the schemas of its ids in order. -/
theorem generateIds_none (ids : List ShapeId) :
    (gen.generateIds none ids).schemas = ids.filterMap gen.schema? :=
  foldl_generateNext_none ids [] {}

/-- The only ids without a schema are those that are not declared. -/
theorem exists_generate_of_isSome {id : ShapeId} (h : (gen.schema? id).isSome) :
    ∃ schema stats, gen.generate id = .ok (schema, stats) := by
  cases found : gen.generate id with
  | error error => simp [schema?_of_error found] at h
  | ok result => exact ⟨result.1, result.2, rfl⟩

/-- Schemas that are made for ids, in their order: each has a property, bears the id that it stands
for, and was made for the shapes that the id leads to now. -/
structure Labelled (gen : Generator) (good : Schema → Prop) (ids : List ShapeId)
    (schemas : List Schema) : Prop where
  ids : schemas.map Schema.id = ids
  good : ∀ schema ∈ schemas, good schema
  current : ∀ schema ∈ schemas, schema.fingerprint = gen.graph.fingerprint schema.id

section Labelled

variable {good : Schema → Prop} {ids : List ShapeId} {schemas : List Schema}

theorem labelled_nil : gen.Labelled good [] [] :=
  ⟨rfl, fun _ member => absurd member List.not_mem_nil,
    fun _ member => absurd member List.not_mem_nil⟩

theorem Labelled.cons (labelled : gen.Labelled good ids schemas) {schema : Schema}
    (hs : good schema) (current : schema.fingerprint = gen.graph.fingerprint schema.id) :
    gen.Labelled good (schema.id :: ids) (schema :: schemas) where
  ids := congrArg (schema.id :: ·) labelled.ids
  good := List.forall_mem_cons.mpr ⟨hs, labelled.good⟩
  current := List.forall_mem_cons.mpr ⟨current, labelled.current⟩

/-- Schemas that are right are those of their ids. -/
theorem Labelled.eq_filterMap (labelled : gen.Labelled good ids schemas)
    (right : ∀ schema ∈ schemas, gen.schema? schema.id = some schema) :
    schemas = ids.filterMap gen.schema? := by
  rw [← labelled.ids]
  clear labelled
  induction schemas with
  | nil => rfl
  | cons schema rest ih =>
    rw [List.map_cons, List.filterMap_cons_some (right schema List.mem_cons_self)]
    exact congrArg (schema :: ·) (ih fun s member => right s (List.mem_cons_of_mem _ member))

end Labelled

/-- One declared id through a cache. -/
theorem exists_of_generateCached {cache : SchemaCache} {good : Schema → Prop}
    (holds : cache.Holds good) (new : ∀ id s, gen.schema? id = some s → good s) {id : ShapeId}
    (declared : (gen.schema? id).isSome) :
    ∃ schema stats cache', gen.generateCached cache id = (.ok schema, stats, cache') ∧
      schema.id = id ∧ good schema ∧ schema.fingerprint = gen.graph.fingerprint schema.id ∧
      cache'.Holds good := by
  have holds' := holds.getCurrent id (gen.graph.fingerprint id)
  unfold generateCached
  split
  · rename_i schema cache' hit
    rw [hit] at holds'
    obtain ⟨member, rfl, same⟩ := SchemaCache.mem_of_getCurrent (congrArg Prod.fst hit)
    exact ⟨schema, _, cache', rfl, rfl, holds schema member, same, holds'⟩
  · rename_i cache' miss
    rw [miss] at holds'
    obtain ⟨schema, stats, found⟩ := exists_generate_of_isSome declared
    have made := schema?_of_ok found
    obtain ⟨rfl, current⟩ := id_of_schema? made
    rw [found]
    exact ⟨schema, _, _, rfl, rfl, new _ schema made, current, holds'.insert (new _ schema made)⟩

theorem generateNext_of_cached {cache cache' : SchemaCache} {id : ShapeId} {schema : Schema}
    {gain : GeneratorStats} (cached : gen.generateCached cache id = (.ok schema, gain, cache'))
    (schemas : List Schema) (stats : GeneratorStats) :
    gen.generateNext ⟨schemas, stats, some cache⟩ id
      = ⟨schemas ++ [schema], stats + gain, some cache'⟩ := by
  simp [generateNext, cached, append]

private theorem foldl_generateNext_some {good : Schema → Prop}
    (new : ∀ id s, gen.schema? id = some s → good s) (ids : List ShapeId)
    (declared : ∀ id ∈ ids, (gen.schema? id).isSome) (schemas : List Schema)
    (stats : GeneratorStats) {cache : SchemaCache} (holds : cache.Holds good) :
    ∃ made stats' cache', ids.foldl gen.generateNext ⟨schemas, stats, some cache⟩
        = ⟨schemas ++ made, stats', some cache'⟩ ∧
      gen.Labelled good ids made ∧ cache'.Holds good := by
  induction ids generalizing schemas stats cache with
  | nil => exact ⟨[], stats, cache, by simp, labelled_nil, holds⟩
  | cons id rest ih =>
    obtain ⟨schema, gain, cache', cached, rfl, hs, current, holds'⟩ :=
      exists_of_generateCached holds new (declared id List.mem_cons_self)
    obtain ⟨made, stats', cache', run, labelled, held⟩ :=
      ih (fun id member => declared id (List.mem_cons_of_mem _ member)) (schemas ++ [schema])
        (stats + gain) holds'
    refine ⟨schema :: made, stats', cache', ?_, labelled.cons hs current, held⟩
    rw [List.foldl_cons, generateNext_of_cached cached, run, List.append_assoc]
    rfl

/-- A run over declared ids through a cache gives a schema for each of them in order, from the cache
only if its fingerprint is the one of now. -/
theorem generateIds_some {cache : SchemaCache} {good : Schema → Prop} (holds : cache.Holds good)
    (new : ∀ id s, gen.schema? id = some s → good s) {ids : List ShapeId}
    (declared : ∀ id ∈ ids, (gen.schema? id).isSome) :
    gen.Labelled good ids (gen.generateIds (some cache) ids).schemas ∧
      ∃ cache', (gen.generateIds (some cache) ids).cache = some cache' ∧ cache'.Holds good := by
  obtain ⟨made, stats', cache', run, labelled, held⟩ :=
    foldl_generateNext_some new ids declared [] {} holds
  unfold generateIds
  rw [run]
  exact ⟨labelled, cache', rfl, held⟩

end Generator

end Schemata
