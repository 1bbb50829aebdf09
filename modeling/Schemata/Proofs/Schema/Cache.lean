import Mathlib.Data.Finset.Card
import Schemata.Proofs.Schema.Run

/-!
# What stays in the cache

The cache keeps its schemas in a list, and only their places in it tell which one was used last.
A call does one of a few things to the list: it leaves it as it is, takes schemas out, or moves one
to the end and drops what is too much at the front.  So a schema that was used stays until it is
taken out, or until as many others have been used as the cache can hold.

## Main definitions

* `CacheCall`, `CacheAnswer` : the calls of a cache and what they give back.
* `SchemaCache.usedIds` : the ids that calls use, by putting a schema in or finding one.
* `SchemaCache.Effect` : what a call does to the schemas in a cache.
* `SchemaCache.Recent` : only certain ids have been used after a given one.
* `SchemaCache.Leads` : calls lead from one cache to another.

## Main results

* `SchemaCache.Bounded.step` : the effect of one call.
* `SchemaCache.Bounded.after` : the cache never holds too many schemas, nor two of one id.
* `SchemaCache.Recent.after` : what stays in the cache over many calls.
-/

namespace Schemata

/-- A call of a cache. -/
inductive CacheCall
  | insert (schema : Schema)
  | get (id : ShapeId)
  | getCurrent (id : ShapeId) (fingerprint : UInt64)
  | isCurrent (id : ShapeId) (fingerprint : UInt64)
  | peek (id : ShapeId)
  | contains (id : ShapeId)
  | remove (id : ShapeId)
  | clear

/-- What a call gives back. -/
inductive CacheAnswer
  | done
  | found (schema : Option Schema)
  | told (yes : Bool)

/-! ### Calls of the cache -/

namespace SchemaCache

/-- The answer to a call, with the cache after it. -/
def perform (cache : SchemaCache) : CacheCall → CacheAnswer × SchemaCache
  | .insert schema => (.done, cache.insert schema)
  | .get id => (.found (cache.get id).1, (cache.get id).2)
  | .getCurrent id fingerprint =>
    (.found (cache.getCurrent id fingerprint).1, (cache.getCurrent id fingerprint).2)
  | .isCurrent id fingerprint => (.told (cache.isCurrent id fingerprint), cache)
  | .peek id => (.found (cache.peek? id), cache)
  | .contains id => (.told (cache.contains id), cache)
  | .remove id => (.found (cache.remove id).1, (cache.remove id).2)
  | .clear => (.done, cache.clear)

/-- The answers to calls, one after the other. -/
def answers (cache : SchemaCache) : List CacheCall → List CacheAnswer
  | [] => []
  | call :: rest => (cache.perform call).1 :: (cache.perform call).2.answers rest

/-- The cache after calls. -/
def after (cache : SchemaCache) (calls : List CacheCall) : SchemaCache :=
  calls.foldl (fun cache call => (cache.perform call).2) cache

/-- The id that a call uses: the one whose schema is put in or found. -/
def used? (cache : SchemaCache) : CacheCall → Option ShapeId
  | .insert schema => some schema.id
  | .get id => if cache.contains id then some id else none
  | .getCurrent id fingerprint => if cache.isCurrent id fingerprint then some id else none
  | _ => none

/-- The ids that calls use. -/
def usedIds (cache : SchemaCache) : List CacheCall → List ShapeId
  | [] => []
  | call :: rest => (cache.used? call).toList ++ (cache.perform call).2.usedIds rest

/-- The call takes out what the cache holds for an id: it removes it, finds it out of date, or
clears the cache. -/
def TakesOut (cache : SchemaCache) (id : ShapeId) : CacheCall → Prop
  | .remove other => other = id
  | .getCurrent other fingerprint =>
    other = id ∧ cache.contains other ∧ ¬ cache.isCurrent other fingerprint
  | .clear => True
  | _ => False

/-- None of the calls takes out what the cache holds for an id. -/
def Spares (cache : SchemaCache) (id : ShapeId) : List CacheCall → Prop
  | [] => True
  | call :: rest => ¬ cache.TakesOut id call ∧ (cache.perform call).2.Spares id rest

variable {cache : SchemaCache} {id : ShapeId}

theorem contains_eq_isSome (cache : SchemaCache) (id : ShapeId) :
    cache.contains id = (cache.peek? id).isSome := by
  rw [Bool.eq_iff_iff, contains, peek?, List.find?_isSome, List.any_eq_true]

theorem contains_iff_mem_ids : cache.contains id ↔ id ∈ cache.ids := by
  simp [contains, ids]

/-- The id is not the one of any other schema. -/
theorem not_mem_ids_others (cache : SchemaCache) (id : ShapeId) :
    id ∉ (cache.others id).map Schema.id := by
  simp [others]

@[simp] theorem maxSize_perform (cache : SchemaCache) (call : CacheCall) :
    (cache.perform call).2.maxSize = cache.maxSize := by
  cases call with
  | insert schema => simp only [perform, insert]; split <;> rfl
  | get id => simp only [perform, get]; split <;> rfl
  | getCurrent id fingerprint =>
    simp only [perform, getCurrent, get, dropStale]
    split <;> split <;> rfl
  | _ => rfl

theorem maxSize_after (cache : SchemaCache) (calls : List CacheCall) :
    (cache.after calls).maxSize = cache.maxSize := by
  induction calls generalizing cache with
  | nil => rfl
  | cons call rest ih => exact (ih _).trans (maxSize_perform cache call)

theorem after_append (cache : SchemaCache) (calls rest : List CacheCall) :
    cache.after (calls ++ rest) = (cache.after calls).after rest :=
  List.foldl_append

/-! ### One call -/

/-- The cache holds no id twice, and no more schemas than it may. -/
structure Bounded (cache : SchemaCache) : Prop where
  distinct : cache.ids.Nodup
  size : cache.entries.length ≤ cache.maxSize

theorem bounded_new (maxSize : Nat) : (new maxSize).Bounded :=
  ⟨List.nodup_nil, Nat.zero_le _⟩

theorem Bounded.distinct_others (bounded : cache.Bounded) (id : ShapeId) :
    ((cache.others id).map Schema.id).Nodup :=
  bounded.distinct.sublist (List.filter_sublist.map Schema.id)

theorem Bounded.distinct_used (bounded : cache.Bounded) (schema : Schema) :
    ((cache.others schema.id ++ [schema]).map Schema.id).Nodup := by
  rw [List.map_append, List.map_singleton, List.nodup_append]
  refine ⟨bounded.distinct_others schema.id, List.nodup_singleton _, ?_⟩
  rintro a ha b hb rfl
  exact cache.not_mem_ids_others schema.id (List.mem_singleton.mp hb ▸ ha)

/-- The schema of an id and the schemas of other ids are all that there is. -/
theorem Bounded.length_others (bounded : cache.Bounded) (present : cache.contains id) :
    (cache.others id).length + 1 = cache.entries.length := by
  obtain ⟨schema, listed, rfl⟩ := List.mem_map.mp (contains_iff_mem_ids.mp present)
  obtain ⟨before, rest, split⟩ := List.append_of_mem listed
  have distinct : ((before ++ schema :: rest).map Schema.id).Nodup := split ▸ bounded.distinct
  rw [List.map_append, List.map_cons, List.nodup_middle, ← List.map_append,
    List.nodup_cons] at distinct
  have apart : ∀ other ∈ before ++ rest, other.id ≠ schema.id := fun other member same =>
    distinct.1 (List.mem_map.mpr ⟨other, member, same⟩)
  have kept : cache.others schema.id = before ++ rest := by
    rw [others, split, List.filter_append, List.filter_cons_of_neg (by simp), ← List.filter_append]
    exact List.filter_eq_self.mpr fun other member => decide_eq_true (apart other member)
  rw [kept, split]
  simp only [List.length_append, List.length_cons]
  omega

/-- The schemas after one of them has been used: it comes last, and what is too much is dropped
from the front. -/
def renewed (cache : SchemaCache) (schema : Schema) : List Schema :=
  let entries := cache.others schema.id ++ [schema]
  entries.drop (entries.length - cache.maxSize)

/-- Nothing is dropped for a schema that was there. -/
theorem Bounded.renewed_of_contains (bounded : cache.Bounded) {schema : Schema}
    (present : cache.contains schema.id) :
    cache.renewed schema = cache.others schema.id ++ [schema] := by
  have length := bounded.length_others present
  have size := bounded.size
  unfold renewed
  dsimp only
  rw [List.length_append, List.length_singleton, Nat.sub_eq_zero_of_le (by omega), List.drop_zero]

/-- What a call does to the schemas in a cache: nothing, or it takes out one or all of them, or it
uses one. -/
inductive Effect (cache : SchemaCache) (call : CacheCall) : List Schema → Prop
  | keep (unused : cache.used? call = none) : Effect cache call cache.entries
  | drop (id : ShapeId) (unused : cache.used? call = none) (out : cache.TakesOut id call) :
    Effect cache call (cache.others id)
  | empty (unused : cache.used? call = none) (out : ∀ id, cache.TakesOut id call) :
    Effect cache call []
  | use (schema : Schema) (used : cache.used? call = some schema.id) :
    Effect cache call (cache.renewed schema)

theorem entries_get (bounded : cache.Bounded) (id : ShapeId) :
    (cache.get id).2.entries = match cache.peek? id with
      | some schema => cache.renewed schema
      | none => cache.entries := by
  unfold get
  cases found : cache.peek? id with
  | none => rfl
  | some schema =>
    obtain rfl := (mem_of_peek? found).2
    have present : cache.contains schema.id := by rw [contains_eq_isSome, found]; rfl
    exact (bounded.renewed_of_contains present).symm

/-- A schema that is out of date is dropped, and then not found. -/
theorem getCurrent_of_stale {fingerprint : UInt64}
    (stale : (cache.peek? id).any (·.fingerprint ≠ fingerprint)) :
    cache.getCurrent id fingerprint =
      (none,
        { cache with
          entries := cache.others id
          stats :=
            { cache.stats with
              misses := cache.stats.misses + 1
              invalidations := cache.stats.invalidations + 1 } }) := by
  have gone : (cache.dropStale id fingerprint).peek? id = none := by
    rw [dropStale, if_pos stale]
    simp [peek?, others]
  rw [getCurrent, get, gone, dropStale, if_pos stale]

/-- A schema that is up to date is found, and used by that. -/
theorem Bounded.entries_getCurrent (bounded : cache.Bounded) {schema : Schema}
    (found : cache.peek? id = some schema) {fingerprint : UInt64}
    (current : schema.fingerprint = fingerprint) :
    (cache.getCurrent id fingerprint).2.entries = cache.renewed schema := by
  rw [getCurrent, dropStale, found, if_neg (by simp [current]), entries_get bounded, found]

/-- What one call does to the schemas in a cache. -/
theorem Bounded.step (bounded : cache.Bounded) (call : CacheCall) :
    cache.Effect call (cache.perform call).2.entries := by
  cases call with
  | insert schema =>
    by_cases full : cache.maxSize = 0
    · -- A cache of size zero is empty, and what is put in is dropped at once.
      have none : cache.entries = [] := List.length_eq_zero_iff.mp (by have := bounded.size; omega)
      have kept : (cache.perform (.insert schema)).2.entries = cache.renewed schema := by
        simp [perform, insert, full, renewed, none, others]
      exact kept ▸ .use schema rfl
    · have renewed : (cache.perform (.insert schema)).2.entries = cache.renewed schema := by
        simp [perform, insert, full, SchemaCache.renewed]
      exact renewed ▸ .use schema rfl
  | get id =>
    rw [perform, entries_get bounded]
    cases found : cache.peek? id with
    | none => exact .keep (by simp [used?, contains_eq_isSome, found])
    | some schema =>
      exact .use schema (by simp [used?, contains_eq_isSome, found, (mem_of_peek? found).2])
  | getCurrent id fingerprint =>
    cases found : cache.peek? id with
    | none =>
      have same : (cache.perform (.getCurrent id fingerprint)).2.entries = cache.entries := by
        simp [perform, getCurrent, dropStale, found, get]
      exact same ▸ .keep (by simp [used?, isCurrent, found])
    | some schema =>
      by_cases current : schema.fingerprint = fingerprint
      · have same : (cache.perform (.getCurrent id fingerprint)).2.entries
            = cache.renewed schema := bounded.entries_getCurrent found current
        refine same ▸ .use schema ?_
        simp [used?, isCurrent, found, current, (mem_of_peek? found).2]
      · have same : (cache.perform (.getCurrent id fingerprint)).2.entries = cache.others id := by
          rw [perform, getCurrent_of_stale (by simpa [found] using current)]
        refine same ▸ .drop id (by simp [used?, isCurrent, found, current]) ⟨rfl, ?_, ?_⟩
        · rw [contains_eq_isSome, found]
          rfl
        · simp [isCurrent, found, current]
  | isCurrent id fingerprint => exact .keep rfl
  | peek id => exact .keep rfl
  | contains id => exact .keep rfl
  | remove id => exact .drop id rfl rfl
  | clear => exact .empty rfl fun _ => trivial

theorem Bounded.perform (bounded : cache.Bounded) (call : CacheCall) :
    (cache.perform call).2.Bounded := by
  have effect := bounded.step call
  have sized := maxSize_perform cache call
  generalize (cache.perform call).2 = next at effect sized
  obtain ⟨maxSize, entries, stats⟩ := next
  dsimp only at effect sized
  subst sized
  cases effect with
  | keep => exact ⟨bounded.distinct, bounded.size⟩
  | drop id =>
    exact ⟨bounded.distinct_others id, (List.length_filter_le _ _).trans bounded.size⟩
  | empty => exact ⟨List.nodup_nil, Nat.zero_le _⟩
  | use schema =>
    refine ⟨(bounded.distinct_used schema).sublist ((List.drop_sublist _ _).map Schema.id), ?_⟩
    unfold renewed
    dsimp only
    rw [List.length_drop]
    omega

theorem Bounded.after (bounded : cache.Bounded) (calls : List CacheCall) :
    (cache.after calls).Bounded := by
  induction calls generalizing cache with
  | nil => exact bounded
  | cons call rest ih => exact ih (bounded.perform call)

/-! ### What stays in the cache -/

/-- The cache holds a schema of the id, and all schemas after it are of certain ids. -/
def Recent (cache : SchemaCache) (id : ShapeId) (used : List ShapeId) : Prop :=
  ∃ older schema newer, cache.entries = older ++ schema :: newer ∧ schema.id = id ∧
    ∀ other ∈ newer, other.id ∈ used

theorem Recent.contains {used : List ShapeId} (recent : cache.Recent id used) :
    cache.contains id := by
  obtain ⟨older, schema, newer, split, rfl, -⟩ := recent
  refine contains_iff_mem_ids.mpr (List.mem_map_of_mem ?_)
  rw [split]
  exact List.mem_append_right _ List.mem_cons_self

/-- Taking out the schema of another id does not change which ids are more recent. -/
theorem others_split {older newer : List Schema} {schema : Schema}
    (split : cache.entries = older ++ schema :: newer) {other : ShapeId}
    (apart : schema.id ≠ other) :
    cache.others other
      = older.filter (·.id ≠ other) ++ schema :: newer.filter (·.id ≠ other) := by
  rw [others, split, List.filter_append, List.filter_cons_of_pos (by simpa using apart)]

/-- A schema that is used is the most recent one, if the cache holds any. -/
theorem renewed_eq (positive : 0 < cache.maxSize) (schema : Schema) :
    ∃ older, cache.renewed schema = older ++ [schema] := by
  unfold renewed
  dsimp only
  rw [List.drop_append_of_le_length (by simp; omega)]
  exact ⟨_, rfl⟩

/-- As long as fewer other ids have been used than the cache can hold, the use of another id does
not drop a schema. -/
theorem Bounded.renewed_split (bounded : cache.Bounded) {older newer : List Schema} {own : Schema}
    (split : cache.entries = older ++ own :: newer) {used : List ShapeId}
    (late : ∀ other ∈ newer, other.id ∈ used) {schema : Schema} (apart : own.id ≠ schema.id)
    (few : ((used ++ [schema.id]).toFinset.erase own.id).card < cache.maxSize) :
    ∃ older' newer', cache.renewed schema = older' ++ own :: newer' ∧
      ∀ other ∈ newer', other.id ∈ used ++ [schema.id] := by
  let older' := older.filter (·.id ≠ schema.id)
  let newer' := newer.filter (·.id ≠ schema.id) ++ [schema]
  have entries : cache.others schema.id ++ [schema] = older' ++ own :: newer' := by
    rw [others_split split apart]
    simp [older', newer']
  have late' : ∀ other ∈ newer', other.id ∈ used ++ [schema.id] := by
    intro other member
    rcases List.mem_append.mp member with member | member
    · exact List.mem_append_left _ (late other (List.mem_of_mem_filter member))
    · exact List.mem_append_right _ (List.mem_singleton.mp member ▸ List.mem_cons_self)
  -- The more recent ids are different from each other and from the id, so there are not too many.
  have distinct := bounded.distinct_used schema
  rw [entries, List.map_append, List.map_cons, List.nodup_append, List.nodup_cons] at distinct
  obtain ⟨-, ⟨fresh, distinct⟩, -⟩ := distinct
  have short : newer'.length < cache.maxSize := by
    calc newer'.length = (newer'.map Schema.id).toFinset.card := by
          rw [List.toFinset_card_of_nodup distinct, List.length_map]
      _ ≤ ((used ++ [schema.id]).toFinset.erase own.id).card := by
          refine Finset.card_le_card fun other member => ?_
          rw [List.mem_toFinset] at member
          obtain ⟨found, listed, rfl⟩ := List.mem_map.mp member
          refine Finset.mem_erase.mpr ⟨fun same => fresh ?_, List.mem_toFinset.mpr (late' _ listed)⟩
          exact same ▸ List.mem_map_of_mem listed
      _ < cache.maxSize := few
  refine ⟨older'.drop ((older' ++ own :: newer').length - cache.maxSize), newer', ?_, late'⟩
  unfold SchemaCache.renewed
  dsimp only
  rw [entries, List.drop_append_of_le_length]
  simp only [List.length_append, List.length_cons]
  omega

/-- A call leaves a schema in the cache that it does not take out, if fewer other ids have been used
than the cache can hold. -/
theorem Recent.perform {used : List ShapeId} (bounded : cache.Bounded)
    (recent : cache.Recent id used) {call : CacheCall} (spared : ¬ cache.TakesOut id call)
    (few : ((used ++ (cache.used? call).toList).toFinset.erase id).card < cache.maxSize) :
    (cache.perform call).2.Recent id (used ++ (cache.used? call).toList) := by
  have effect := bounded.step call
  unfold Recent
  generalize (cache.perform call).2.entries = entries at effect
  cases effect with
  | keep unused =>
    obtain ⟨older, own, newer, split, same, late⟩ := recent
    exact ⟨older, own, newer, split, same, fun other member =>
      List.mem_append_left _ (late other member)⟩
  | drop other unused out =>
    obtain ⟨older, own, newer, split, rfl, late⟩ := recent
    have apart : own.id ≠ other := fun same => spared (same ▸ out)
    exact ⟨_, own, _, others_split split apart, rfl, fun found member =>
      List.mem_append_left _ (late found (List.mem_of_mem_filter member))⟩
  | empty unused out => exact absurd (out id) spared
  | use schema use =>
    rw [use] at few ⊢
    by_cases same : id = schema.id
    · obtain ⟨older, renewed⟩ := renewed_eq (Nat.zero_lt_of_lt few) schema
      exact ⟨older, schema, [], renewed, same.symm, fun _ member => absurd member List.not_mem_nil⟩
    · obtain ⟨older, own, newer, split, rfl, late⟩ := recent
      obtain ⟨older', newer', renewed, late'⟩ := bounded.renewed_split split late same few
      exact ⟨older', own, newer', renewed, rfl, late'⟩

/-- What the cache holds stays there as long as it is not taken out and fewer other ids have been
used than the cache can hold. -/
theorem Recent.after {used : List ShapeId} (bounded : cache.Bounded)
    (recent : cache.Recent id used) {calls : List CacheCall} (spared : cache.Spares id calls)
    (few : ((used ++ cache.usedIds calls).toFinset.erase id).card < cache.maxSize) :
    (cache.after calls).Recent id (used ++ cache.usedIds calls) := by
  induction calls generalizing cache used with
  | nil => simpa [SchemaCache.after, usedIds] using recent
  | cons call rest ih =>
    obtain ⟨now, later⟩ := spared
    rw [usedIds, ← List.append_assoc] at few ⊢
    have fewer : ((used ++ (cache.used? call).toList).toFinset.erase id).card < cache.maxSize := by
      refine (Finset.card_le_card ?_).trans_lt few
      refine Finset.erase_subset_erase id fun other member => ?_
      exact List.mem_toFinset.mpr (List.mem_append_left _ (List.mem_toFinset.mp member))
    exact ih (bounded.perform call) (recent.perform bounded now fewer) later
      ((maxSize_perform cache call).symm ▸ few)

/-- After the use of an id, none is more recent. -/
theorem Bounded.recent_of_used (bounded : cache.Bounded) (positive : 0 < cache.maxSize)
    {call : CacheCall} (used : cache.used? call = some id) :
    (cache.perform call).2.Recent id [] := by
  have effect := bounded.step call
  unfold Recent
  generalize (cache.perform call).2.entries = entries at effect
  cases effect with
  | use schema own =>
    obtain ⟨older, renewed⟩ := renewed_eq positive schema
    exact ⟨older, schema, [], renewed, Option.some.inj (own.symm.trans used),
      fun _ member => absurd member List.not_mem_nil⟩
  | keep unused | drop _ unused | empty unused =>
    rw [used] at unused
    cases unused

/-! ### From one cache to another -/

/-- Calls lead from one cache to the other. -/
def Leads (cache cache' : SchemaCache) : Prop :=
  ∃ calls, cache' = cache.after calls

variable {cache' : SchemaCache}

theorem Leads.refl (cache : SchemaCache) : cache.Leads cache :=
  ⟨[], rfl⟩

theorem Leads.trans {cache'' : SchemaCache} (first : cache.Leads cache')
    (second : cache'.Leads cache'') : cache.Leads cache'' := by
  obtain ⟨calls, rfl⟩ := first
  obtain ⟨rest, rfl⟩ := second
  exact ⟨calls ++ rest, (cache.after_append calls rest).symm⟩

theorem leads_getCurrent (cache : SchemaCache) (id : ShapeId) (fingerprint : UInt64) :
    cache.Leads (cache.getCurrent id fingerprint).2 :=
  ⟨[.getCurrent id fingerprint], rfl⟩

theorem leads_foldl_insert (cache : SchemaCache) (schemas : List Schema) :
    cache.Leads (schemas.foldl insert cache) :=
  ⟨schemas.map .insert, by rw [after, List.foldl_map]; rfl⟩

theorem Leads.bounded (leads : cache.Leads cache') (bounded : cache.Bounded) : cache'.Bounded := by
  obtain ⟨calls, rfl⟩ := leads
  exact bounded.after calls

theorem Leads.maxSize (leads : cache.Leads cache') : cache'.maxSize = cache.maxSize := by
  obtain ⟨calls, rfl⟩ := leads
  exact cache.maxSize_after calls

end SchemaCache

end Schemata
