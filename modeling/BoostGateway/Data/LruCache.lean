import Mathlib.Data.List.AList
import Mathlib.Order.Basic

/-!
# The cache of the data layer

`LruCache` (`lru_cache.h`) keeps its entries in a list, the most recently used first, and an
index of the list by key. The index is the list itself here, whose keys are without repetition.

`LruCache.lookup_get` : a read changes no entry. `LruCache.lookup_put` : a write changes its
own key, and may drop one entry, which `LruCache.evicts` gives.
-/

namespace BoostGateway.Data

variable {κ ν : Type*} [DecidableEq κ]

/-- `LruCache`, as a map with an order. -/
structure LruCache (κ ν : Type*) [DecidableEq κ] where
  maxSize : ℕ
  /-- The most recently used entry comes first. -/
  entries : AList fun _ : κ => ν
  pos : 0 < maxSize
  size_le : entries.keys.length ≤ maxSize

namespace LruCache

/-- An empty cache. -/
def ofSize (maxSize : ℕ) (pos : 0 < maxSize) : LruCache κ ν where
  maxSize
  entries := ∅
  pos
  size_le := Nat.zero_le _

def lookup (c : LruCache κ ν) (key : κ) : Option ν := c.entries.lookup key

theorem length_insert_of_mem {entries : AList fun _ : κ => ν} {key : κ} (value : ν)
    (h : key ∈ entries) : (entries.insert key value).keys.length = entries.keys.length := by
  rw [AList.keys_insert, List.length_cons, List.length_erase_of_mem (AList.mem_keys.mp h)]
  have := List.length_pos_of_mem (AList.mem_keys.mp h)
  omega

theorem length_insert_le {entries : AList fun _ : κ => ν} (key : κ) (value : ν) :
    (entries.insert key value).keys.length ≤ entries.keys.length + 1 := by
  rw [AList.keys_insert, List.length_cons]
  exact Nat.succ_le_succ List.length_erase_le

theorem length_erase_of_mem {entries : AList fun _ : κ => ν} {key : κ} (h : key ∈ entries) :
    (entries.erase key).keys.length + 1 = entries.keys.length := by
  rw [AList.keys_erase, List.length_erase_of_mem (AList.mem_keys.mp h)]
  have := List.length_pos_of_mem (AList.mem_keys.mp h)
  omega

/-- The entry of the key comes to the front with the value. -/
def toFront (c : LruCache κ ν) (key : κ) (value : ν) (h : key ∈ c.entries) : LruCache κ ν where
  maxSize := c.maxSize
  entries := c.entries.insert key value
  pos := c.pos
  size_le := (length_insert_of_mem value h).trans_le c.size_le

theorem mem_of_lookup {c : LruCache κ ν} {key : κ} {value : ν} (h : c.lookup key = some value) :
    key ∈ c.entries :=
  AList.lookup_isSome.mp (Option.isSome_iff_exists.mpr ⟨value, h⟩)

def get (c : LruCache κ ν) (key : κ) : Option ν × LruCache κ ν :=
  match h : c.lookup key with
  | none => (none, c)
  | some value => (some value, c.toFront key value (mem_of_lookup h))

/-- The key of the least recently used entry. -/
def last (c : LruCache κ ν) : Option κ := c.entries.keys.getLast?

def lastEntry (c : LruCache κ ν) : Option (κ × ν) :=
  c.last.bind fun key => (c.lookup key).map (key, ·)

/-- What the cache without its least recently used entry holds. -/
def withoutLast (c : LruCache κ ν) : AList fun _ : κ => ν :=
  match c.last with
  | none => c.entries
  | some key => c.entries.erase key

theorem length_withoutLast (c : LruCache κ ν) : c.withoutLast.keys.length + 1 ≤ c.maxSize := by
  unfold withoutLast last
  split
  · rename_i hlast
    rw [List.getLast?_eq_none_iff.mp hlast]
    exact c.pos
  · rename_i key hlast
    rw [length_erase_of_mem (AList.mem_keys.mpr (List.mem_of_getLast? hlast))]
    exact c.size_le

/-- The entry that a write of the key drops. -/
def evicts (c : LruCache κ ν) (key : κ) : Option (κ × ν) :=
  if key ∉ c.entries ∧ c.maxSize ≤ c.entries.keys.length then c.lastEntry else none

/-- The answer is the entry dropped, if any. -/
def put (c : LruCache κ ν) (key : κ) (value : ν) : Option (κ × ν) × LruCache κ ν :=
  if h : key ∈ c.entries then (none, c.toFront key value h)
  else if hfull : c.maxSize ≤ c.entries.keys.length then
    (c.lastEntry, {
      maxSize := c.maxSize
      entries := c.withoutLast.insert key value
      pos := c.pos
      size_le := (length_insert_le key value).trans c.length_withoutLast })
  else
    (none, {
      maxSize := c.maxSize
      entries := c.entries.insert key value
      pos := c.pos
      size_le := (length_insert_le key value).trans (Nat.lt_of_not_le hfull) })

variable {c : LruCache κ ν} {key other : κ} {value : ν}

theorem get_fst : (c.get key).1 = c.lookup key := by
  unfold get
  split
  · rename_i h
    exact h.symm
  · rename_i h
    exact h.symm

theorem lookup_insert {entries : AList fun _ : κ => ν} :
    (entries.insert key value).lookup other =
      if other = key then some value else entries.lookup other := by
  by_cases h : other = key
  · rw [if_pos h, h, AList.lookup_insert]
  · rw [if_neg h, AList.lookup_insert_ne h]

theorem lookup_get : (c.get key).2.lookup other = c.lookup other := by
  unfold get
  split
  · rfl
  · rename_i v h
    refine lookup_insert.trans ?_
    by_cases hother : other = key
    · rw [if_pos hother, hother, h]
    · rw [if_neg hother]
      rfl

theorem put_fst : (c.put key value).1 = c.evicts key := by
  unfold put evicts
  by_cases h : key ∈ c.entries
  · rw [dif_pos h, if_neg fun hboth => hboth.1 h]
  · by_cases hfull : c.maxSize ≤ c.entries.keys.length
    · rw [dif_neg h, dif_pos hfull, if_pos ⟨h, hfull⟩]
    · rw [dif_neg h, dif_neg hfull, if_neg fun hboth => hfull hboth.2]

theorem lastEntry_of_last (h : c.last = some key) :
    ∃ v, c.lookup key = some v ∧ c.lastEntry = some (key, v) := by
  obtain ⟨v, hv⟩ := Option.isSome_iff_exists.mp
    (AList.lookup_isSome.mpr (AList.mem_keys.mpr (List.mem_of_getLast? h)))
  have hlookup : c.lookup key = some v := hv
  refine ⟨v, hlookup, ?_⟩
  rw [lastEntry, h, Option.bind_some, hlookup]
  rfl

theorem evicts_eq_some {entry : κ × ν} (h : c.evicts key = some entry) :
    c.lookup entry.1 = some entry.2 ∧ entry.1 ≠ key := by
  unfold evicts at h
  split_ifs at h with hfull
  obtain ⟨lru, hlast, -⟩ := Option.bind_eq_some_iff.mp h
  obtain ⟨v, hv, hentry⟩ := lastEntry_of_last hlast
  obtain rfl := Option.some.inj (hentry.symm.trans h)
  refine ⟨hv, fun heq => hfull.1 ?_⟩
  exact heq ▸ mem_of_lookup hv

theorem lookup_withoutLast (h : key ∉ c.entries) (hfull : c.maxSize ≤ c.entries.keys.length) :
    c.withoutLast.lookup other =
      if (c.evicts key).any (·.1 = other) then none else c.lookup other := by
  have hevicts : c.evicts key = c.lastEntry := if_pos ⟨h, hfull⟩
  rw [hevicts]
  unfold withoutLast
  cases hlast : c.last with
  | none =>
    rw [lastEntry, hlast]
    rfl
  | some lru =>
    obtain ⟨v, -, hentry⟩ := lastEntry_of_last hlast
    rw [hentry]
    by_cases heq : lru = other
    · simp [heq]
    · simp [heq, AList.lookup_erase_ne (Ne.symm heq), lookup]

theorem lookup_put : (c.put key value).2.lookup other =
    if other = key then some value
    else if (c.evicts key).any (·.1 = other) then none else c.lookup other := by
  by_cases h : key ∈ c.entries
  · have hput : (c.put key value).2 = c.toFront key value h := by rw [put, dif_pos h]
    have hevicts : c.evicts key = none := if_neg fun hboth => hboth.1 h
    rw [hput, hevicts]
    exact lookup_insert
  · by_cases hfull : c.maxSize ≤ c.entries.keys.length
    · rw [← lookup_withoutLast h hfull, put, dif_neg h, dif_pos hfull]
      exact lookup_insert
    · have hevicts : c.evicts key = none := if_neg fun hboth => hfull hboth.2
      rw [hevicts, put, dif_neg h, dif_neg hfull]
      exact lookup_insert

end LruCache

end BoostGateway.Data
