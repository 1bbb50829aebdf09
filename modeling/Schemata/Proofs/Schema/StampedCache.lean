import Schemata.Proofs.OrderedMap
import Schemata.Proofs.Schema.Cache

/-!
# The cache and the times of last use

The cache is compared with a map that notes the time at which each schema was last put in or found,
and that drops the one with the oldest time when there are too many.  Both answer all calls alike,
list their ids in the same order and count the same.

## Main definitions

* `StampedCache` : a map with the times of last use.
* `StampedCache.view` : the cache that lists the schemas of the map by their times.
* `StampedCache.Dated` : all schemas were last used in the past, at different times.

## Main results

* `StampedCache.perform_view` : a call of the map is a call of the cache.
* `StampedCache.after_view` : so are many calls.
* `SchemaCache.after_leastRecent` : the cache is a bounded map from which the least recently used
  schema is dropped.
-/

namespace Schemata

/-- A schema with the time of its last use. -/
structure Stamped where
  time : Nat
  schema : Schema

/-- A bounded map with the times of last use.  The order of its entries means nothing. -/
structure StampedCache where
  maxSize : Nat
  /-- The number of calls so far. -/
  clock : Nat
  entries : OrderedMap ShapeId Stamped
  stats : CacheStats

namespace StampedCache

/-- The map without schemas. -/
def new (maxSize : Nat) : StampedCache :=
  ⟨maxSize, 0, .empty, {}⟩

/-- The schema of an id. -/
def peek? (cache : StampedCache) (id : ShapeId) : Option Schema :=
  (cache.entries.get? id).map Stamped.schema

/-- Is there a schema of the id? -/
def contains (cache : StampedCache) (id : ShapeId) : Bool :=
  cache.entries.contains id

/-- Is there a schema of the id with the fingerprint? -/
def isCurrent (cache : StampedCache) (id : ShapeId) (fingerprint : UInt64) : Bool :=
  (cache.peek? id).any (·.fingerprint = fingerprint)

/-- Notes that the schema of an id is used now. -/
def stamp (cache : StampedCache) (id : ShapeId) (schema : Schema) : StampedCache :=
  { cache with entries := cache.entries.insert id ⟨cache.clock, schema⟩ }

/-- Looks a schema up; a found one is used. -/
def get (cache : StampedCache) (id : ShapeId) : Option Schema × StampedCache :=
  match cache.peek? id with
  | some schema =>
    (some schema,
      { cache.stamp id schema with stats := { cache.stats with hits := cache.stats.hits + 1 } })
  | none => (none, { cache with stats := { cache.stats with misses := cache.stats.misses + 1 } })

/-- Looks a schema up that has the fingerprint; one with another fingerprint is dropped. -/
def getCurrent (cache : StampedCache) (id : ShapeId) (fingerprint : UInt64) :
    Option Schema × StampedCache :=
  if (cache.peek? id).any (·.fingerprint ≠ fingerprint) then
    (none,
      { cache with
        entries := cache.entries.erase id
        stats :=
          { cache.stats with
            misses := cache.stats.misses + 1
            invalidations := cache.stats.invalidations + 1 } })
  else cache.get id

/-- The id whose schema was used before all others. -/
def oldest? (entries : OrderedMap ShapeId Stamped) : Option ShapeId :=
  (entries.entries.find? fun e => entries.entries.all fun other => e.2.time ≤ other.2.time).map
    Prod.fst

/-- Drops the schema with the oldest time if there are too many. -/
def evict (cache : StampedCache) : StampedCache :=
  if cache.entries.size ≤ cache.maxSize then cache
  else match oldest? cache.entries with
    | some id =>
      { cache with
        entries := cache.entries.erase id
        stats := { cache.stats with evictions := cache.stats.evictions + 1 } }
    | none => cache

/-- Puts a schema in, which is a use of it, however many there are. -/
def store (cache : StampedCache) (schema : Schema) : StampedCache :=
  { cache.stamp schema.id schema with
    stats := { cache.stats with inserts := cache.stats.inserts + 1 } }

/-- Puts a schema in, and drops another one if there are too many. -/
def insert (cache : StampedCache) (schema : Schema) : StampedCache :=
  if cache.maxSize = 0 then cache else (cache.store schema).evict

/-- Takes a schema out. -/
def remove (cache : StampedCache) (id : ShapeId) : Option Schema × StampedCache :=
  (cache.peek? id, { cache with entries := cache.entries.erase id })

/-- Takes all schemas out. -/
def clear (cache : StampedCache) : StampedCache :=
  { cache with entries := .empty }

/-- The map at the next point in time. -/
def tick (cache : StampedCache) : StampedCache :=
  { cache with clock := cache.clock + 1 }

/-- The answer to a call, with the map after it. -/
def perform (cache : StampedCache) : CacheCall → CacheAnswer × StampedCache
  | .insert schema => (.done, (cache.insert schema).tick)
  | .get id => (.found (cache.get id).1, (cache.get id).2.tick)
  | .getCurrent id fingerprint =>
    (.found (cache.getCurrent id fingerprint).1, (cache.getCurrent id fingerprint).2.tick)
  | .isCurrent id fingerprint => (.told (cache.isCurrent id fingerprint), cache.tick)
  | .peek id => (.found (cache.peek? id), cache.tick)
  | .contains id => (.told (cache.contains id), cache.tick)
  | .remove id => (.found (cache.remove id).1, (cache.remove id).2.tick)
  | .clear => (.done, cache.clear.tick)

/-- The answers to calls, one after the other. -/
def answers (cache : StampedCache) : List CacheCall → List CacheAnswer
  | [] => []
  | call :: rest => (cache.perform call).1 :: (cache.perform call).2.answers rest

/-- The map after calls. -/
def after (cache : StampedCache) (calls : List CacheCall) : StampedCache :=
  calls.foldl (fun cache call => (cache.perform call).2) cache

/-- The entries by their times, the oldest one first. -/
def ranked (entries : OrderedMap ShapeId Stamped) : List (ShapeId × Stamped) :=
  entries.entries.mergeSort fun a b => a.2.time ≤ b.2.time

/-- The ids by the times of their last use, the oldest one first. -/
def ids (cache : StampedCache) : List ShapeId :=
  (ranked cache.entries).map Prod.fst

/-- The schemas by the times of their last use, the oldest one first. -/
def listed (entries : OrderedMap ShapeId Stamped) : List Schema :=
  (ranked entries).map fun e => e.2.schema

/-- The cache that lists the schemas by the times of their last use. -/
def view (cache : StampedCache) : SchemaCache :=
  ⟨cache.maxSize, listed cache.entries, cache.stats⟩

/-! ### Entries by their times -/

/-- The schemas are kept under their own ids, and were last used before a point in time, each at a
different one. -/
structure Dated (entries : OrderedMap ShapeId Stamped) (clock : Nat) : Prop where
  own : ∀ e ∈ entries.entries, e.2.schema.id = e.1
  past : ∀ e ∈ entries.entries, e.2.time < clock
  distinct : ∀ a ∈ entries.entries, ∀ b ∈ entries.entries, a.2.time = b.2.time → a = b

section Entries

variable {entries : OrderedMap ShapeId Stamped} {clock : Nat}

theorem ranked_perm (entries : OrderedMap ShapeId Stamped) :
    (ranked entries).Perm entries.entries :=
  List.mergeSort_perm _ _

theorem mem_ranked_iff {e : ShapeId × Stamped} : e ∈ ranked entries ↔ e ∈ entries.entries :=
  (ranked_perm entries).mem_iff

theorem pairwise_ranked (entries : OrderedMap ShapeId Stamped) :
    (ranked entries).Pairwise fun a b => a.2.time ≤ b.2.time := by
  refine (List.pairwise_mergeSort (fun a b c hab hbc => ?_) (fun a b => ?_) entries.entries).imp
    of_decide_eq_true
  · exact decide_eq_true ((of_decide_eq_true hab).trans (of_decide_eq_true hbc))
  · rw [Bool.or_eq_true, decide_eq_true_eq, decide_eq_true_eq]
    exact Nat.le_total _ _

theorem Dated.mono (dated : Dated entries clock) : Dated entries (clock + 1) :=
  ⟨dated.own, fun e listed => Nat.lt_succ_of_lt (dated.past e listed), dated.distinct⟩

theorem Dated.erase (dated : Dated entries clock) (id : ShapeId) : Dated (entries.erase id) clock :=
  have listed {e : ShapeId × Stamped} (h : e ∈ (entries.erase id).entries) : e ∈ entries.entries :=
    List.mem_of_mem_filter h
  ⟨fun e h => dated.own e (listed h), fun e h => dated.past e (listed h),
    fun a ha b hb => dated.distinct a (listed ha) b (listed hb)⟩

/-- There is only one way to list entries by their times. -/
theorem Dated.ranked_eq (dated : Dated entries clock) {listed : List (ShapeId × Stamped)}
    (sorted : listed.Pairwise fun a b => a.2.time ≤ b.2.time)
    (perm : listed.Perm entries.entries) : ranked entries = listed := by
  refine List.Perm.eq_of_pairwise (fun a b ha hb hab hba => ?_) (pairwise_ranked entries) sorted
    ((ranked_perm entries).trans perm.symm)
  exact dated.distinct a (mem_ranked_iff.mp ha) b (perm.mem_iff.mp hb) (Nat.le_antisymm hab hba)

theorem Dated.ranked_erase (dated : Dated entries clock) (id : ShapeId) :
    ranked (entries.erase id) = (ranked entries).filter (·.1 ≠ id) :=
  (dated.erase id).ranked_eq ((pairwise_ranked entries).filter _) ((ranked_perm entries).filter _)

/-- Noting a use takes the entry of the id out and adds one. -/
theorem insert_perm (entries : OrderedMap ShapeId Stamped) (id : ShapeId) (stamped : Stamped) :
    (entries.insert id stamped).entries.Perm ((entries.erase id).entries ++ [(id, stamped)]) := by
  refine (entries.insert id stamped).perm_of_get?_eq
    ((entries.erase id).append id stamped ?_) fun key => ?_
  · exact (OrderedMap.get?_eq_none_iff _).mp (entries.get?_erase_self id)
  · rw [OrderedMap.get?_insert, OrderedMap.get?_append, OrderedMap.get?_erase]
    split <;> rfl

theorem Dated.insert (dated : Dated entries clock) {id : ShapeId} {schema : Schema}
    (own : schema.id = id) : Dated (entries.insert id ⟨clock, schema⟩) (clock + 1) := by
  have listed {e : ShapeId × Stamped} (h : e ∈ (entries.insert id ⟨clock, schema⟩).entries) :
      e ∈ entries.entries ∨ e = (id, ⟨clock, schema⟩) := by
    rcases List.mem_append.mp ((insert_perm entries id _).mem_iff.mp h) with old | new
    · exact Or.inl (List.mem_of_mem_filter old)
    · exact Or.inr (List.mem_singleton.mp new)
  refine ⟨fun e h => ?_, fun e h => ?_, fun a ha b hb same => ?_⟩
  · rcases listed h with old | rfl
    · exact dated.own e old
    · exact own
  · rcases listed h with old | rfl
    · exact Nat.lt_succ_of_lt (dated.past e old)
    · exact Nat.lt_succ_self clock
  · rcases listed ha with olda | rfl <;> rcases listed hb with oldb | rfl
    · exact dated.distinct a olda b oldb same
    · exact absurd same (Nat.ne_of_lt (dated.past a olda))
    · exact absurd same.symm (Nat.ne_of_lt (dated.past b oldb))
    · rfl

/-- What is used now comes last. -/
theorem Dated.ranked_insert (dated : Dated entries clock) {id : ShapeId} {schema : Schema}
    (own : schema.id = id) :
    ranked (entries.insert id ⟨clock, schema⟩)
      = (ranked entries).filter (·.1 ≠ id) ++ [(id, ⟨clock, schema⟩)] := by
  refine (dated.insert own).ranked_eq ?_ ?_
  · rw [List.pairwise_append]
    refine ⟨(pairwise_ranked entries).filter _, List.pairwise_singleton _ _, fun a ha b hb => ?_⟩
    rw [List.mem_singleton.mp hb]
    exact (dated.past a (mem_ranked_iff.mp (List.mem_of_mem_filter ha))).le
  · rw [← dated.ranked_erase id]
    exact ((ranked_perm _).append_right _).trans (insert_perm entries id _).symm

theorem Dated.listed_filter (dated : Dated entries clock) (id : ShapeId) :
    (listed entries).filter (·.id ≠ id)
      = ((ranked entries).filter (·.1 ≠ id)).map fun e => e.2.schema := by
  unfold listed
  rw [List.filter_map]
  refine congrArg _ (List.filter_congr fun e member => ?_)
  simp only [Function.comp_apply, dated.own e (mem_ranked_iff.mp member)]

theorem Dated.listed_erase (dated : Dated entries clock) (id : ShapeId) :
    listed (entries.erase id) = (listed entries).filter (·.id ≠ id) := by
  rw [dated.listed_filter, listed, dated.ranked_erase]

/-- A schema that is used now is listed last. -/
theorem Dated.listed_insert (dated : Dated entries clock) {id : ShapeId} {schema : Schema}
    (own : schema.id = id) :
    listed (entries.insert id ⟨clock, schema⟩)
      = (listed entries).filter (·.id ≠ id) ++ [schema] := by
  rw [dated.listed_filter, listed, dated.ranked_insert own, List.map_append, List.map_singleton]

theorem listed_empty : listed .empty = [] := by
  simp [listed, ranked, OrderedMap.empty]

theorem length_listed (entries : OrderedMap ShapeId Stamped) :
    (listed entries).length = entries.size := by
  rw [listed, List.length_map, (ranked_perm entries).length_eq, OrderedMap.size]

/-- The first of the entries by their times is the oldest one. -/
theorem Dated.oldest?_eq (dated : Dated entries clock) {e : ShapeId × Stamped}
    {rest : List (ShapeId × Stamped)} (first : ranked entries = e :: rest) :
    oldest? entries = some e.1 := by
  have least : ∀ other ∈ entries.entries, e.2.time ≤ other.2.time := by
    intro other listed
    have sorted := pairwise_ranked entries
    rw [first, List.pairwise_cons] at sorted
    rcases List.mem_cons.mp (first ▸ mem_ranked_iff.mpr listed) with rfl | later
    · exact Nat.le_refl _
    · exact sorted.1 other later
  have member : e ∈ entries.entries := mem_ranked_iff.mp (first ▸ List.mem_cons_self)
  unfold oldest?
  cases found : entries.entries.find? fun e => entries.entries.all fun other =>
      decide (e.2.time ≤ other.2.time) with
  | none =>
    have no := List.find?_eq_none.mp found e member
    exact absurd (List.all_eq_true.mpr fun other listed => decide_eq_true (least other listed)) no
  | some other =>
    have listed := List.mem_of_find?_eq_some found
    have before : ∀ third ∈ entries.entries, other.2.time ≤ third.2.time := by
      simpa using List.find?_some found
    have same : other = e := dated.distinct other listed e member
      (Nat.le_antisymm (before e member) (least other listed))
    rw [same]
    rfl

/-- Without the oldest schema the others stay in their order. -/
theorem Dated.listed_erase_oldest (dated : Dated entries clock) {e : ShapeId × Stamped}
    {rest : List (ShapeId × Stamped)} (first : ranked entries = e :: rest) :
    listed (entries.erase e.1) = (listed entries).drop 1 := by
  have distinct : ((ranked entries).map Prod.fst).Nodup :=
    ((ranked_perm entries).map Prod.fst).nodup_iff.mpr entries.nodup
  rw [first, List.map_cons, List.nodup_cons] at distinct
  have others : rest.filter (·.1 ≠ e.1) = rest :=
    List.filter_eq_self.mpr fun other member => decide_eq_true fun same =>
      distinct.1 (List.mem_map.mpr ⟨other, member, same⟩)
  rw [listed, listed, dated.ranked_erase, first, List.filter_cons_of_neg (by simp), others]
  rfl

end Entries

/-! ### Calls of the map are calls of the cache -/

theorem dated_empty (clock : Nat) : Dated .empty clock :=
  ⟨nofun, nofun, nofun⟩

theorem clock_evict (cache : StampedCache) : cache.evict.clock = cache.clock := by
  unfold evict
  repeat' split
  all_goals rfl

theorem dated_evict {cache : StampedCache} {clock : Nat} (dated : Dated cache.entries clock) :
    Dated cache.evict.entries clock := by
  unfold evict
  repeat' split
  · exact dated
  · exact dated.erase _
  · exact dated

theorem view_entries (cache : StampedCache) : cache.view.entries = listed cache.entries :=
  rfl

theorem clear_view (cache : StampedCache) : cache.view.clear = cache.clear.view := by
  unfold SchemaCache.clear clear view
  rw [listed_empty]

/-- When there are too many schemas, the oldest one is the first of the list. -/
theorem evict_view {cache : StampedCache} {clock : Nat} (dated : Dated cache.entries clock)
    (size : cache.entries.size ≤ cache.maxSize + 1) :
    cache.evict.view =
      { cache.view with
        entries := cache.view.entries.drop (cache.view.entries.length - cache.maxSize)
        stats.evictions :=
          cache.stats.evictions + (cache.view.entries.length - cache.maxSize) } := by
  have length : cache.view.entries.length = cache.entries.size := length_listed cache.entries
  unfold evict
  by_cases fits : cache.entries.size ≤ cache.maxSize
  · rw [if_pos fits, length, Nat.sub_eq_zero_of_le fits]
    rfl
  · have one : cache.entries.size - cache.maxSize = 1 := by omega
    cases first : ranked cache.entries with
    | nil =>
      have empty : cache.entries.size = 0 := by
        rw [← length_listed, listed, first]
        rfl
      omega
    | cons e rest =>
      rw [if_neg fits, dated.oldest?_eq first, length, one]
      simp only [view, dated.listed_erase_oldest first]

section View

variable {cache : StampedCache} (dated : Dated cache.entries cache.clock)

include dated

theorem mem_view_iff {schema : Schema} :
    schema ∈ cache.view.entries ↔ ∃ time, cache.entries.get? schema.id = some ⟨time, schema⟩ := by
  simp only [view, listed, List.mem_map, mem_ranked_iff, OrderedMap.get?_eq_some_iff]
  constructor
  · rintro ⟨e, member, rfl⟩
    exact ⟨e.2.time, dated.own e member ▸ member⟩
  · rintro ⟨time, member⟩
    exact ⟨_, member, rfl⟩

theorem peek?_view (id : ShapeId) : cache.view.peek? id = cache.peek? id := by
  rw [peek?]
  cases found : cache.view.peek? id with
  | none =>
    cases stored : cache.entries.get? id with
    | none => rfl
    | some stamped =>
      obtain rfl : stamped.schema.id = id := dated.own _ (cache.entries.get?_eq_some_iff.mp stored)
      have member := (mem_view_iff dated).mpr ⟨stamped.time, stored⟩
      exact absurd (decide_eq_true rfl) (List.find?_eq_none.mp found _ member)
  | some schema =>
    obtain rfl := (SchemaCache.mem_of_peek? found).2
    obtain ⟨time, stored⟩ := (mem_view_iff dated).mp (List.mem_of_find?_eq_some found)
    rw [stored]
    rfl

theorem contains_view (id : ShapeId) : cache.view.contains id = cache.contains id := by
  rw [SchemaCache.contains_eq_isSome, peek?_view dated, peek?, contains,
    OrderedMap.contains_eq_isSome, Option.isSome_map]

theorem isCurrent_view (id : ShapeId) (fingerprint : UInt64) :
    cache.view.isCurrent id fingerprint = cache.isCurrent id fingerprint := by
  rw [SchemaCache.isCurrent, peek?_view dated, isCurrent]

theorem own_of_peek? {id : ShapeId} {schema : Schema} (found : cache.peek? id = some schema) :
    schema.id = id :=
  (SchemaCache.mem_of_peek? ((peek?_view dated id).trans found)).2

theorem ids_view : cache.view.ids = cache.ids := by
  unfold SchemaCache.ids ids view listed
  rw [List.map_map]
  exact List.map_congr_left fun e member => dated.own e (mem_ranked_iff.mp member)

theorem get_view (id : ShapeId) :
    cache.view.get id = ((cache.get id).1, (cache.get id).2.view) := by
  unfold SchemaCache.get get
  rw [peek?_view dated]
  cases found : cache.peek? id with
  | none => rfl
  | some schema =>
    simp only [view, stamp, dated.listed_insert (own_of_peek? dated found)]
    rfl

theorem getCurrent_view (id : ShapeId) (fingerprint : UInt64) :
    cache.view.getCurrent id fingerprint
      = ((cache.getCurrent id fingerprint).1, (cache.getCurrent id fingerprint).2.view) := by
  by_cases stale : (cache.peek? id).any (·.fingerprint ≠ fingerprint)
  · rw [SchemaCache.getCurrent_of_stale ((peek?_view dated id).symm ▸ stale), getCurrent,
      if_pos stale]
    simp only [view, dated.listed_erase]
    rfl
  · rw [SchemaCache.getCurrent, SchemaCache.dropStale, peek?_view dated, if_neg stale, getCurrent,
      if_neg stale]
    exact get_view dated id

theorem remove_view (id : ShapeId) :
    cache.view.remove id = ((cache.remove id).1, (cache.remove id).2.view) := by
  rw [SchemaCache.remove, peek?_view dated]
  simp only [remove, view, dated.listed_erase]
  rfl

theorem insert_view (bounded : cache.view.Bounded) (schema : Schema) :
    cache.view.insert schema = (cache.insert schema).view := by
  unfold SchemaCache.insert insert
  by_cases none : cache.maxSize = 0
  · rw [if_pos none, if_pos (show cache.view.maxSize = 0 from none)]
  · rw [if_neg none, if_neg (show cache.view.maxSize ≠ 0 from none)]
    have entries : (cache.store schema).view.entries = cache.view.others schema.id ++ [schema] :=
      dated.listed_insert rfl
    have size : (cache.store schema).entries.size ≤ cache.maxSize + 1 := by
      rw [← length_listed, ← view_entries, entries, List.length_append, List.length_singleton]
      exact Nat.succ_le_succ ((List.length_filter_le _ _).trans bounded.size)
    rw [evict_view (dated.insert rfl) size, entries]
    rfl

/-- A call of the map is a call of the cache that lists its schemas. -/
theorem perform_view (bounded : cache.view.Bounded) (call : CacheCall) :
    cache.view.perform call = ((cache.perform call).1, (cache.perform call).2.view) := by
  cases call with
  | insert schema => exact congrArg (Prod.mk _) (insert_view dated bounded schema)
  | get id => rw [SchemaCache.perform, get_view dated]; rfl
  | getCurrent id fingerprint => rw [SchemaCache.perform, getCurrent_view dated]; rfl
  | isCurrent id fingerprint => rw [SchemaCache.perform, isCurrent_view dated]; rfl
  | peek id => rw [SchemaCache.perform, peek?_view dated]; rfl
  | contains id => rw [SchemaCache.perform, contains_view dated]; rfl
  | remove id => rw [SchemaCache.perform, remove_view dated]; rfl
  | clear => exact congrArg (Prod.mk _) (clear_view cache)

theorem dated_get (id : ShapeId) : Dated (cache.get id).2.entries ((cache.get id).2.clock + 1) := by
  unfold get
  cases found : cache.peek? id with
  | none => exact dated.mono
  | some schema => exact dated.insert (own_of_peek? dated found)

/-- After a call all schemas in the map were used before the next one. -/
theorem dated_perform (call : CacheCall) :
    Dated (cache.perform call).2.entries (cache.perform call).2.clock := by
  cases call with
  | insert schema =>
    simp only [perform, insert, tick]
    split
    · exact dated.mono
    · rw [clock_evict]
      exact dated_evict (dated.insert rfl)
  | get id => exact dated_get dated id
  | getCurrent id fingerprint =>
    simp only [perform, getCurrent, tick]
    split
    · exact (dated.erase id).mono
    · exact dated_get dated id
  | remove id => exact (dated.erase id).mono
  | clear => exact dated_empty _
  | isCurrent | peek | contains => exact dated.mono

/-- Calls of the map are calls of the cache that lists its schemas. -/
theorem after_view (bounded : cache.view.Bounded) (calls : List CacheCall) :
    cache.view.answers calls = cache.answers calls ∧
      cache.view.after calls = (cache.after calls).view ∧
      Dated (cache.after calls).entries (cache.after calls).clock := by
  induction calls generalizing cache with
  | nil => exact ⟨rfl, rfl, dated⟩
  | cons call rest ih =>
    have step := perform_view dated bounded call
    have bounded' := bounded.perform call
    rw [step] at bounded'
    obtain ⟨answers, after, dated'⟩ := ih (dated_perform dated call) bounded'
    refine ⟨?_, ?_, dated'⟩
    · rw [SchemaCache.answers, step, answers]
      rfl
    · rw [SchemaCache.after, List.foldl_cons, step]
      exact after

end View

theorem view_new (maxSize : Nat) : (new maxSize).view = SchemaCache.new maxSize := by
  rw [view, new, listed_empty]
  rfl

end StampedCache

/-! ### The least recently used schema -/

namespace SchemaCache

/-- The cache answers every sequence of calls like a map that notes the time of the last use of each
schema and drops the one with the oldest time when there are too many; it lists its ids by these
times, and counts the same.  It never holds too many schemas, nor two of one id.  What was used
stays until it is taken out, or as many other ids have been used as the cache can hold. -/
theorem after_leastRecent (maxSize : Nat) (calls : List CacheCall) :
    (new maxSize).answers calls = (StampedCache.new maxSize).answers calls ∧
      ((new maxSize).after calls).ids = ((StampedCache.new maxSize).after calls).ids ∧
      ((new maxSize).after calls).stats = ((StampedCache.new maxSize).after calls).stats ∧
      ((new maxSize).after calls).entries.length ≤ maxSize ∧
      ((new maxSize).after calls).ids.Nodup ∧
      ∀ before call rest id, calls = before ++ call :: rest →
        ((new maxSize).after before).used? call = some id →
        ((new maxSize).after (before ++ [call])).Spares id rest →
        ((((new maxSize).after (before ++ [call])).usedIds rest).toFinset.erase id).card < maxSize →
        ((new maxSize).after calls).contains id := by
  have start := StampedCache.view_new maxSize
  obtain ⟨answers, after, dated⟩ :=
    StampedCache.after_view (StampedCache.dated_empty 0) (start ▸ bounded_new maxSize) calls
  rw [start] at answers after
  have bounded := (bounded_new maxSize).after calls
  refine ⟨answers, ?_, congrArg SchemaCache.stats after, ?_, bounded.distinct, ?_⟩
  · rw [after, StampedCache.ids_view dated]
  · exact bounded.size.trans_eq (maxSize_after _ _)
  · rintro before call rest id rfl used spared few
    rw [after_append] at spared few ⊢
    have held := (bounded_new maxSize).after before
    have sized : ((new maxSize).after before).maxSize = maxSize := maxSize_after _ _
    have recent := held.recent_of_used (sized.symm ▸ Nat.zero_lt_of_lt few) used
    refine (recent.after (held.perform call) spared ?_).contains
    rw [maxSize_perform, sized]
    exact few

/-- A schema of which only the id and the fingerprint matter. -/
def blankSchema (id : ShapeId) (fingerprint : UInt64) : Schema :=
  ⟨id, "Blank", "blank.ts", .interface, true, .any, [], [], [], [], fingerprint⟩

/-- A cache of two schemas: the first one is looked up before a third one is put in. -/
theorem after_leastRecent_renewed :
    ((new 2).after [.insert (blankSchema ⟨1⟩ 7), .insert (blankSchema ⟨2⟩ 7)]).used?
        (.getCurrent ⟨1⟩ 7) = some ⟨1⟩ ∧
      ((new 2).after [.insert (blankSchema ⟨1⟩ 7), .insert (blankSchema ⟨2⟩ 7),
        .getCurrent ⟨1⟩ 7, .insert (blankSchema ⟨3⟩ 7), .getCurrent ⟨2⟩ 8]).contains ⟨1⟩ :=
  ⟨by decide, (after_leastRecent 2 _).2.2.2.2.2
    [.insert (blankSchema ⟨1⟩ 7), .insert (blankSchema ⟨2⟩ 7)] (.getCurrent ⟨1⟩ 7)
    [.insert (blankSchema ⟨3⟩ 7), .getCurrent ⟨2⟩ 8] ⟨1⟩ rfl (by decide)
    ⟨id, fun out => absurd out.1 (by decide), trivial⟩ (by decide)⟩

end SchemaCache

end Schemata
