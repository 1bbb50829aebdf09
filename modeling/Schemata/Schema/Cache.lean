import Schemata.Schema.Basic

/-!
# The schema cache

The cache holds a bounded number of schemas, the least recently used one first.  A schema is used
when it is put in and when it is found; what is too much is dropped from the front.

## Main definitions

* `SchemaCache.get` : looks a schema up.
* `SchemaCache.getCurrent` : looks a schema up and drops it if it is out of date.
* `SchemaCache.insert` : puts a schema in.
-/

namespace Schemata

/-- The counters of a cache. -/
structure CacheStats where
  hits : Nat := 0
  misses : Nat := 0
  inserts : Nat := 0
  /-- Schemas dropped because there were too many. -/
  evictions : Nat := 0
  /-- Schemas dropped because they were out of date. -/
  invalidations : Nat := 0
deriving DecidableEq, Repr

/-- The number of look-ups. -/
def CacheStats.lookups (stats : CacheStats) : Nat :=
  stats.hits + stats.misses

/-- A bounded number of schemas. -/
structure SchemaCache where
  maxSize : Nat
  /-- The schemas, the least recently used one first. -/
  entries : List Schema
  stats : CacheStats

namespace SchemaCache

/-- The cache without schemas. -/
def new (maxSize : Nat) : SchemaCache :=
  ⟨maxSize, [], {}⟩

/-- Finds a schema without counting the look-up. -/
def peek? (cache : SchemaCache) (id : ShapeId) : Option Schema :=
  cache.entries.find? (·.id = id)

/-- Is there a schema of the id? -/
def contains (cache : SchemaCache) (id : ShapeId) : Bool :=
  cache.entries.any (·.id = id)

/-- Is there a schema of the id with the fingerprint? -/
def isCurrent (cache : SchemaCache) (id : ShapeId) (fingerprint : UInt64) : Bool :=
  (cache.peek? id).any (·.fingerprint = fingerprint)

/-- The schemas of other ids. -/
def others (cache : SchemaCache) (id : ShapeId) : List Schema :=
  cache.entries.filter (·.id ≠ id)

/-- Looks a schema up; a found one becomes the most recently used one. -/
def get (cache : SchemaCache) (id : ShapeId) : Option Schema × SchemaCache :=
  match cache.peek? id with
  | some schema =>
    (some schema,
      { cache with
        entries := cache.others id ++ [schema]
        stats := { cache.stats with hits := cache.stats.hits + 1 } })
  | none => (none, { cache with stats := { cache.stats with misses := cache.stats.misses + 1 } })

/-- Drops the schema of an id if its fingerprint is another one. -/
def dropStale (cache : SchemaCache) (id : ShapeId) (fingerprint : UInt64) : SchemaCache :=
  if (cache.peek? id).any (·.fingerprint ≠ fingerprint) then
    { cache with
      entries := cache.others id
      stats := { cache.stats with invalidations := cache.stats.invalidations + 1 } }
  else cache

/-- Looks a schema up that has the fingerprint. -/
def getCurrent (cache : SchemaCache) (id : ShapeId) (fingerprint : UInt64) :
    Option Schema × SchemaCache :=
  (cache.dropStale id fingerprint).get id

/-- Puts a schema in as the most recently used one. -/
def insert (cache : SchemaCache) (schema : Schema) : SchemaCache :=
  if cache.maxSize = 0 then cache
  else
    let entries := cache.others schema.id ++ [schema]
    let excess := entries.length - cache.maxSize
    { cache with
      entries := entries.drop excess
      stats :=
        { cache.stats with
          inserts := cache.stats.inserts + 1
          evictions := cache.stats.evictions + excess } }

/-- Takes a schema out. -/
def remove (cache : SchemaCache) (id : ShapeId) : Option Schema × SchemaCache :=
  (cache.peek? id, { cache with entries := cache.others id })

/-- Takes all schemas out. -/
def clear (cache : SchemaCache) : SchemaCache :=
  { cache with entries := [] }

/-- The ids of the schemas, the least recently used one first. -/
def ids (cache : SchemaCache) : List ShapeId :=
  cache.entries.map Schema.id

end SchemaCache

end Schemata
