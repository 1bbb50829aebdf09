import Mathlib.Data.List.Nodup
import Schemata.OrderedMap

/-!
# Look-ups in ordered maps

The order of entries is no part of a look-up: the value at a key is the one it was last set to.
Each operation of `OrderedMap` is described here by what it does to look-ups.

## Main results

* `OrderedMap.get?_eq_some_iff` : the value at a key is the one listed with it.
* `OrderedMap.perm_of_get?_eq` : look-ups determine the entries, up to their order.
* `OrderedMap.get?_insert`, `OrderedMap.get?_insertNew`, `OrderedMap.get?_filterKeys`,
  `OrderedMap.get?_erase` : look-ups after each operation.
* `OrderedMap.filter_key`, `OrderedMap.erase_insert` : the entries under a key, and all others.
* `OrderedMap.get?_foldl_insertNew` : look-ups after many entries are added.
* `OrderedMap.get?_ofList`, `OrderedMap.exists_get?_ofList` : look-ups in a map that is made from a
  list.
* `OrderedMap.ofList_entries` : a map is made from its entries.
-/

namespace Schemata.OrderedMap

variable {κ ν : Type}

section Entries

variable [DecidableEq κ]

private theorem lookup_eq_some_iff {entries : List (κ × ν)} (nodup : (entries.map Prod.fst).Nodup)
    {key : κ} {value : ν} : entries.lookup key = some value ↔ (key, value) ∈ entries := by
  induction entries with
  | nil => simp
  | cons e rest ih =>
    obtain ⟨key', value'⟩ := e
    rw [List.map_cons, List.nodup_cons] at nodup
    by_cases h : key = key'
    · subst h
      have absent : (key, value) ∉ rest := fun h => nodup.1 (List.mem_map.mpr ⟨_, h, rfl⟩)
      simp [absent, eq_comm]
    · have hne : (key == key') = false := by simpa using h
      simp [List.lookup_cons, hne, ih nodup.2, h]

/-- The value at a key is the one that is listed with it. -/
theorem get?_eq_some_iff (m : OrderedMap κ ν) {key : κ} {value : ν} :
    m.get? key = some value ↔ (key, value) ∈ m.entries :=
  lookup_eq_some_iff m.nodup

theorem get?_eq_none_iff (m : OrderedMap κ ν) {key : κ} : m.get? key = none ↔ key ∉ m.keys := by
  rw [Option.eq_none_iff_forall_not_mem]
  simp [get?_eq_some_iff, keys]

theorem isSome_get?_iff (m : OrderedMap κ ν) {key : κ} : (m.get? key).isSome ↔ key ∈ m.keys := by
  rw [← not_iff_not, Bool.not_eq_true, Option.isSome_eq_false_iff, Option.isNone_iff_eq_none,
    get?_eq_none_iff]

theorem contains_eq_isSome (m : OrderedMap κ ν) (key : κ) :
    m.contains key = (m.get? key).isSome := by
  rw [Bool.eq_iff_iff, isSome_get?_iff, contains, decide_eq_true_iff]

/-- Maps with the same look-ups have the same entries, in some order. -/
theorem perm_of_get?_eq (m n : OrderedMap κ ν) (same : ∀ key, m.get? key = n.get? key) :
    m.entries.Perm n.entries := by
  rw [List.perm_ext_iff_of_nodup m.nodup.of_map n.nodup.of_map]
  intro e
  rw [← get?_eq_some_iff, same, get?_eq_some_iff]

@[simp] theorem get?_empty (key : κ) : (empty : OrderedMap κ ν).get? key = none :=
  rfl

end Entries

/-! ### Operations -/

variable [DecidableEq κ]

theorem get?_append (m : OrderedMap κ ν) (key key' : κ) (value : ν) (new : key ∉ m.keys) :
    (m.append key value new).get? key' = if key' = key then some value else m.get? key' := by
  ext found
  rw [get?_eq_some_iff]
  by_cases h : key' = key
  · subst h
    have absent : (key', found) ∉ m.entries := fun h => new (List.mem_map_of_mem h)
    simp [append, absent, eq_comm]
  · simp [append, h, get?_eq_some_iff]

theorem get?_insert (m : OrderedMap κ ν) (key key' : κ) (value : ν) :
    (m.insert key value).get? key' = if key' = key then some value else m.get? key' := by
  unfold insert
  split
  case isFalse new => exact m.get?_append key key' value new
  case isTrue present =>
    ext found
    rw [get?_eq_some_iff]
    by_cases h : key' = key
    · subst h
      -- The key is listed, so its entry is among those that were replaced.
      obtain ⟨⟨key, old⟩, listed, rfl⟩ := List.mem_map.mp present
      simp only [List.mem_map, if_true, Option.some.injEq]
      constructor
      · rintro ⟨e, -, he⟩
        split at he
        · exact (Prod.mk.inj he).2
        · rename_i hne
          exact absurd (congrArg Prod.fst he) hne
      · rintro rfl
        exact ⟨(key, old), listed, by simp⟩
    · simp only [List.mem_map, if_neg h, get?_eq_some_iff]
      constructor
      · rintro ⟨e, listed, he⟩
        split at he
        · exact absurd (congrArg Prod.fst he).symm h
        · exact he ▸ listed
      · intro listed
        exact ⟨(key', found), listed, if_neg h⟩

@[simp] theorem get?_insert_self (m : OrderedMap κ ν) (key : κ) (value : ν) :
    (m.insert key value).get? key = some value := by
  rw [get?_insert, if_pos rfl]

/-- A key that is added comes last. -/
theorem keys_insertNew (m : OrderedMap κ ν) (key : κ) (value : ν) :
    (m.insertNew key value).keys = if key ∈ m.keys then m.keys else m.keys ++ [key] := by
  unfold insertNew
  split
  · rfl
  · exact List.map_append

theorem get?_insertNew (m : OrderedMap κ ν) (key key' : κ) (value : ν) :
    (m.insertNew key value).get? key'
      = if key' = key ∧ key ∉ m.keys then some value else m.get? key' := by
  unfold insertNew
  split
  case isTrue present => rw [if_neg fun h => h.2 present]
  case isFalse new => simp [m.get?_append key key' value new, new]

theorem isSome_get?_insertNew_iff (m : OrderedMap κ ν) (key key' : κ) (value : ν) :
    ((m.insertNew key value).get? key').isSome ↔ key' = key ∨ (m.get? key').isSome := by
  rw [get?_insertNew]
  split
  case isTrue new => simp [new.1]
  case isFalse old =>
    refine ⟨Or.inr, fun h => h.elim (fun same => ?_) id⟩
    subst same
    exact m.isSome_get?_iff.mpr (not_not.mp fun new => old ⟨rfl, new⟩)

theorem mem_of_get?_foldl_insertNew (entries : List (κ × ν)) {m : OrderedMap κ ν} {key : κ}
    {value : ν}
    (found : (entries.foldl (fun m e => m.insertNew e.1 e.2) m).get? key = some value) :
    (key, value) ∈ entries ∨ m.get? key = some value := by
  induction entries generalizing m with
  | nil => exact Or.inr found
  | cons e rest ih =>
    rcases ih found with later | now
    · exact Or.inl (List.mem_cons_of_mem _ later)
    · rw [get?_insertNew] at now
      split at now
      case isTrue new =>
        refine Or.inl (List.mem_cons.mpr (Or.inl ?_))
        rw [new.1, ← Option.some.inj now]
      case isFalse => exact Or.inr now

/-- Of entries with the same key the first one stays, and one that is there already goes before
them. -/
theorem get?_foldl_insertNew (entries : List (κ × ν)) (m : OrderedMap κ ν) (key : κ) :
    (entries.foldl (fun m e => m.insertNew e.1 e.2) m).get? key
      = (m.get? key).or (entries.lookup key) := by
  induction entries generalizing m with
  | nil => simp
  | cons e rest ih =>
    obtain ⟨key', value⟩ := e
    rw [List.foldl_cons, ih, get?_insertNew, List.lookup_cons]
    by_cases same : key = key'
    · subst same
      cases found : m.get? key with
      | none => simp [m.get?_eq_none_iff.mp found]
      | some value' =>
        have present : key ∈ m.keys := m.isSome_get?_iff.mp (by simp [found])
        simp [present]
    · have different : (key == key') = false := by simpa using same
      simp [same, different]

/-- Adding entries leaves no key of theirs out, and keeps the keys that are there. -/
theorem isSome_get?_foldl_insertNew_iff (entries : List (κ × ν)) (m : OrderedMap κ ν) (key : κ) :
    ((entries.foldl (fun m e => m.insertNew e.1 e.2) m).get? key).isSome
      ↔ key ∈ entries.map Prod.fst ∨ (m.get? key).isSome := by
  induction entries generalizing m with
  | nil => simp
  | cons e rest ih =>
    rw [List.foldl_cons, ih, isSome_get?_insertNew_iff, List.map_cons, List.mem_cons]
    tauto

theorem get?_filterKeys (m : OrderedMap κ ν) (keep : κ → Bool) (key : κ) :
    (m.filterKeys keep).get? key = if keep key then m.get? key else none := by
  ext value
  rw [get?_eq_some_iff, filterKeys, List.mem_filter]
  by_cases h : keep key <;> simp [h, get?_eq_some_iff]

theorem get?_erase (m : OrderedMap κ ν) (key key' : κ) :
    (m.erase key).get? key' = if key' = key then none else m.get? key' := by
  rw [erase, get?_filterKeys]
  by_cases h : key' = key <;> simp [h]

@[simp] theorem get?_erase_self (m : OrderedMap κ ν) (key : κ) : (m.erase key).get? key = none := by
  rw [get?_erase, if_pos rfl]

/-- Erasing a key that is present takes one entry away. -/
theorem size_erase {m : OrderedMap κ ν} {key : κ} {value : ν} (found : m.get? key = some value) :
    (m.erase key).size + 1 = m.size := by
  obtain ⟨before, after, split⟩ := List.append_of_mem (m.get?_eq_some_iff.mp found)
  have distinct : ((before ++ (key, value) :: after).map Prod.fst).Nodup := split ▸ m.nodup
  rw [List.map_append, List.map_cons, List.nodup_middle, ← List.map_append,
    List.nodup_cons] at distinct
  have others : ∀ e ∈ before ++ after, e.1 ≠ key := fun e member same =>
    distinct.1 (List.mem_map.mpr ⟨e, member, same⟩)
  have kept : (m.erase key).entries = before ++ after := by
    change m.entries.filter (fun e => decide (e.1 ≠ key)) = before ++ after
    rw [split, List.filter_append, List.filter_cons_of_neg (by simp), ← List.filter_append]
    exact List.filter_eq_self.mpr fun e member => decide_eq_true (others e member)
  rw [size, size, kept, split]
  simp only [List.length_append, List.length_cons]
  omega

theorem size_eq_zero {m : OrderedMap κ ν} (absent : ∀ key, m.get? key = none) : m.size = 0 := by
  refine List.length_eq_zero_iff.mpr (List.eq_nil_iff_forall_not_mem.mpr fun e member => ?_)
  exact m.get?_eq_none_iff.mp (absent e.1) (List.mem_map_of_mem member)

/-- Inserting a new key adds an entry. -/
theorem size_insert {m : OrderedMap κ ν} {key : κ} (absent : m.get? key = none) (value : ν) :
    (m.insert key value).size = m.size + 1 := by
  rw [insert, dif_neg (m.get?_eq_none_iff.mp absent)]
  exact List.length_append

theorem erase_eq_self {m : OrderedMap κ ν} {key : κ} (absent : m.get? key = none) :
    m.erase key = m := by
  refine ext (List.filter_eq_self.mpr fun entry member => ?_)
  have other : entry.1 ≠ key := fun same =>
    m.get?_eq_none_iff.mp absent (List.mem_map.mpr ⟨entry, member, same⟩)
  simpa using other

/-- At most one entry is listed under a key. -/
theorem filter_key (m : OrderedMap κ ν) (key : κ) :
    m.entries.filter (·.1 = key) = (m.get? key).toList.map fun value => (key, value) := by
  cases found : m.get? key with
  | none =>
    refine List.filter_eq_nil_iff.mpr fun e member same => ?_
    exact m.get?_eq_none_iff.mp found (List.mem_map.mpr ⟨e, member, of_decide_eq_true same⟩)
  | some value =>
    refine List.perm_singleton.mp ((List.perm_ext_iff_of_nodup ?_ (List.nodup_singleton _)).mpr ?_)
    · exact m.nodup.of_map.filter _
    · rintro ⟨key', value'⟩
      have listed : (key, value') ∈ m.entries ↔ value' = value := by
        rw [← get?_eq_some_iff, found, Option.some.injEq, eq_comm]
      simp only [List.mem_filter, decide_eq_true_eq, List.mem_singleton, Prod.mk.injEq]
      grind

/-- Setting a key leaves the other entries as they are, in their order. -/
theorem erase_insert (m : OrderedMap κ ν) (key : κ) (value : ν) :
    (m.insert key value).erase key = m.erase key := by
  refine ext ?_
  unfold insert
  split
  case isFalse new => simp [erase, filterKeys, append]
  case isTrue present =>
    change (m.entries.map _).filter _ = m.entries.filter _
    induction m.entries with
    | nil => rfl
    | cons e rest ih => by_cases same : e.1 = key <;> simpa [same] using ih

/-- Setting a key to the value that it has changes nothing. -/
theorem insert_eq_self {m : OrderedMap κ ν} {key : κ} {value : ν}
    (found : m.get? key = some value) : m.insert key value = m := by
  have present : key ∈ m.keys := m.isSome_get?_iff.mp (Option.isSome_of_eq_some found)
  refine ext ?_
  rw [insert, dif_pos present]
  refine (List.map_congr_left fun e member => ?_).trans (List.map_id _)
  split
  case isFalse => rfl
  case isTrue same =>
    have listed : m.get? key = some e.2 := m.get?_eq_some_iff.mpr (same ▸ member)
    rw [found, Option.some.injEq] at listed
    rw [listed, ← same, id]

/-! ### Maps made from lists -/

private theorem get?_foldl_insert_eq (entries : List (κ × ν)) (m : OrderedMap κ ν) (key : κ) :
    (entries.foldl (fun m e => m.insert e.1 e.2) m).get? key
      = (entries.reverse.lookup key).or (m.get? key) := by
  induction entries generalizing m with
  | nil => simp
  | cons e rest ih =>
    obtain ⟨key', value⟩ := e
    rw [List.foldl_cons, ih, get?_insert, List.reverse_cons, List.lookup_append, Option.or_assoc]
    congr 1
    by_cases h : key = key'
    · simp [h]
    · have hne : (key == key') = false := by simpa using h
      simp [List.lookup_cons, h, hne]

/-- A map made from a list has the last value that the list gives for a key. -/
theorem get?_ofList (entries : List (κ × ν)) (key : κ) :
    (ofList entries).get? key = entries.reverse.lookup key := by
  rw [ofList, get?_foldl_insert_eq]
  exact Option.or_none

/-- A map made from a list has a value for each key of the list, and it is one of the list. -/
theorem exists_get?_ofList {entries : List (κ × ν)} {key : κ}
    (listed : key ∈ entries.map Prod.fst) :
    ∃ value, (ofList entries).get? key = some value ∧ (key, value) ∈ entries := by
  rw [get?_ofList]
  cases found : entries.reverse.lookup key with
  | none =>
    obtain ⟨entry, member, rfl⟩ := List.mem_map.mp listed
    have absent := List.lookup_eq_none_iff.mp found entry (List.mem_reverse.mpr member)
    simp at absent
  | some value =>
    obtain ⟨before, after, parts, -⟩ := List.lookup_eq_some_iff.mp found
    refine ⟨value, rfl, ?_⟩
    rw [← List.mem_reverse, parts]
    exact List.mem_append_right _ List.mem_cons_self

private theorem entries_foldl_insert (entries : List (κ × ν)) (m : OrderedMap κ ν)
    (distinct : ((m.entries ++ entries).map Prod.fst).Nodup) :
    (entries.foldl (fun m e => m.insert e.1 e.2) m).entries = m.entries ++ entries := by
  induction entries generalizing m with
  | nil => simp
  | cons e rest ih =>
    have new : e.1 ∉ m.keys := by
      rw [List.map_append, List.nodup_append] at distinct
      exact fun present => distinct.2.2 e.1 present e.1 List.mem_cons_self rfl
    have inserted : (m.insert e.1 e.2).entries = m.entries ++ [e] := by
      rw [insert, dif_neg new]
      rfl
    rw [List.foldl_cons, ih _ (by simpa [inserted] using distinct), inserted]
    simp

/-- A map is made from its entries. -/
theorem ofList_entries (m : OrderedMap κ ν) : ofList m.entries = m :=
  ext (entries_foldl_insert m.entries empty m.nodup)

end Schemata.OrderedMap
