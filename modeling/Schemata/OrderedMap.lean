/-!
# Maps in insertion order

A finite map that lists its entries in the order in which their keys first came in.  Writing to a
present key changes its value and keeps its place.

## Main definitions

* `OrderedMap.get?` : the value at a key.
* `OrderedMap.insert` : sets a key; the last value wins.
* `OrderedMap.insertNew` : sets a key unless it is present; the first value wins.
-/

namespace Schemata

/-- A finite map whose entries are listed in the order of their first insertion. -/
structure OrderedMap (κ ν : Type) where
  entries : List (κ × ν)
  nodup : (entries.map Prod.fst).Nodup

namespace OrderedMap

variable {κ ν : Type}

/-- The map without entries. -/
def empty : OrderedMap κ ν :=
  ⟨[], List.nodup_nil⟩

instance : Inhabited (OrderedMap κ ν) :=
  ⟨empty⟩

@[ext] theorem ext {a b : OrderedMap κ ν} (h : a.entries = b.entries) : a = b := by
  cases a
  cases b
  simp_all

instance [DecidableEq κ] [DecidableEq ν] : DecidableEq (OrderedMap κ ν) := fun a b =>
  decidable_of_iff (a.entries = b.entries) ⟨ext, congrArg entries⟩

/-- The keys in order. -/
def keys (m : OrderedMap κ ν) : List κ :=
  m.entries.map Prod.fst

/-- The values in the order of their keys. -/
def values (m : OrderedMap κ ν) : List ν :=
  m.entries.map Prod.snd

/-- The number of entries. -/
def size (m : OrderedMap κ ν) : Nat :=
  m.entries.length

/-- Has the map no entries? -/
def isEmpty (m : OrderedMap κ ν) : Bool :=
  m.entries.isEmpty

variable [DecidableEq κ]

/-- The value at `key`. -/
def get? (m : OrderedMap κ ν) (key : κ) : Option ν :=
  m.entries.lookup key

/-- Is `key` present? -/
def contains (m : OrderedMap κ ν) (key : κ) : Bool :=
  decide (key ∈ m.keys)

private theorem map_fst_replace (entries : List (κ × ν)) (key : κ) (value : ν) :
    (entries.map fun e => if e.1 = key then (key, value) else e).map Prod.fst
      = entries.map Prod.fst := by
  induction entries with
  | nil => rfl
  | cons e rest ih =>
    simp only [List.map_cons, ih]
    by_cases h : e.1 = key <;> simp [h]

omit [DecidableEq κ] in
private theorem nodup_snoc {keys : List κ} {key : κ} (h : keys.Nodup) (hk : key ∉ keys) :
    (keys ++ [key]).Nodup := by
  rw [List.nodup_append]
  refine ⟨h, by simp, ?_⟩
  intro a ha b hb hab
  rw [List.mem_singleton] at hb
  exact hk (hb ▸ hab ▸ ha)

/-- Adds an entry for a key that is not present. -/
def append (m : OrderedMap κ ν) (key : κ) (value : ν) (h : key ∉ m.keys) : OrderedMap κ ν :=
  ⟨m.entries ++ [(key, value)], by simpa using nodup_snoc m.nodup h⟩

/-- Sets the value at `key`: in place if the key is present, at the end otherwise. -/
def insert (m : OrderedMap κ ν) (key : κ) (value : ν) : OrderedMap κ ν :=
  if h : key ∈ m.keys then
    ⟨m.entries.map fun e => if e.1 = key then (key, value) else e,
      by rw [map_fst_replace]; exact m.nodup⟩
  else m.append key value h

/-- Adds an entry at the end unless the key is present. -/
def insertNew (m : OrderedMap κ ν) (key : κ) (value : ν) : OrderedMap κ ν :=
  if h : key ∈ m.keys then m else m.append key value h

/-- Inserts the entries of a list one by one. -/
def ofList (entries : List (κ × ν)) : OrderedMap κ ν :=
  entries.foldl (fun m e => m.insert e.1 e.2) empty

/-- The entries whose key satisfies `keep`, in order. -/
def filterKeys (m : OrderedMap κ ν) (keep : κ → Bool) : OrderedMap κ ν :=
  ⟨m.entries.filter fun e => keep e.1,
    m.nodup.sublist (List.filter_sublist.map Prod.fst)⟩

/-- Removes a key. -/
def erase (m : OrderedMap κ ν) (key : κ) : OrderedMap κ ν :=
  m.filterKeys (· ≠ key)

end OrderedMap

end Schemata
