import BoostGateway.Base.Run
import BoostGateway.Data.LruCache

/-!
# The nodes of the LRU cache

`LruCache` (`lru_cache.h`) as the code keeps it : the nodes of `list_`, and `map_` with an
iterator for each key. An iterator is the address of a node, and an operation through an
iterator that no node is at has no outcome, like `back` of an empty list.

The events of a run, the newest first, determine what the cache has to hold : `stored` is the
value of the last `put` of a key that no removal or eviction follows, and `sinceUse` counts the
events since the last use of a key. `lruCache_refines` : after every run the index agrees with
the list, the list is in the order of last use, and the answer of each further operation is the
one that the events determine.
-/

namespace BoostGateway.Data

variable {κ ν : Type*} [DecidableEq κ]

/-! ## The operations -/

/-- The address of a node, which is what an iterator of `list_` holds. -/
abbrev NodeAddr := ℕ

/-- A node of `list_`. -/
structure ListNode (κ ν : Type*) where
  addr : NodeAddr
  key : κ
  value : ν

/-- The list and the map of iterators. -/
structure NodeCache (κ ν : Type*) [DecidableEq κ] where
  maxSize : ℕ
  list : List (ListNode κ ν) := []
  map : AList fun _ : κ => NodeAddr := ∅

namespace NodeCache

variable (c : NodeCache κ ν)

def size : ℕ := c.map.keys.length

/-- The node at an iterator. -/
def deref (it : NodeAddr) : Option (ListNode κ ν) :=
  c.list.find? fun node => node.addr = it

/-- The other nodes. -/
def others (it : NodeAddr) : List (ListNode κ ν) :=
  c.list.filter fun node => node.addr ≠ it

/-- `list_.splice(list_.begin(), list_, it)`. -/
def splice (it : NodeAddr) : Option (NodeCache κ ν) :=
  (c.deref it).map fun node => { c with list := node :: c.others it }

/-- `it->second = value`. -/
def assign (it : NodeAddr) (value : ν) : Option (NodeCache κ ν) :=
  (c.deref it).map fun _ => { c with
    list := c.list.map fun node => if node.addr = it then { node with value := value } else node }

def get (key : κ) : Option (Option ν × NodeCache κ ν) :=
  match c.map.lookup key with
  | none => some (none, c)
  | some it => do
    let c ← c.splice it
    let node ← c.deref it
    return (some node.value, c)

def contains (key : κ) : Option (Bool × NodeCache κ ν) :=
  match c.map.lookup key with
  | none => some (false, c)
  | some it => do
    let c ← c.splice it
    return (true, c)

/-- The eviction of `put` : the entry at the back when the cache is full. -/
def evict : Option (Option (κ × ν) × NodeCache κ ν) :=
  if c.size ≥ c.maxSize then do
    let lru ← c.list.getLast?
    return (some (lru.key, lru.value), { c with
      list := c.list.dropLast
      map := c.map.erase lru.key })
  else some (none, c)

/-- `fresh` is the address of the new node. -/
def put (key : κ) (value : ν) (fresh : NodeAddr) : Option (Option (κ × ν) × NodeCache κ ν) :=
  match c.map.lookup key with
  | some it => do
    let c ← c.assign it value
    let c ← c.splice it
    return (none, c)
  | none => do
    let (evicted, c) ← c.evict
    return (evicted, { c with
      list := { addr := fresh, key := key, value := value } :: c.list
      map := c.map.insert key fresh })

def remove (key : κ) : Option (NodeCache κ ν) :=
  match c.map.lookup key with
  | none => some c
  | some it => (c.deref it).map fun _ => { c with list := c.others it, map := c.map.erase key }

def clear : NodeCache κ ν := { c with list := [], map := ∅ }

def drain : List (κ × ν) × NodeCache κ ν :=
  (c.list.map fun node => (node.key, node.value), c.clear)

end NodeCache

/-! ## Runs -/

/-- The calls. -/
inductive CacheCall (κ ν : Type*) where
  | get (key : κ)
  | contains (key : κ)
  | put (key : κ) (value : ν) (fresh : NodeAddr)
  | remove (key : κ)
  | clear
  | drain

/-- A call with its answer. -/
inductive CacheEvent (κ ν : Type*) where
  | get (key : κ) (answer : Option ν)
  | contains (key : κ) (answer : Bool)
  | put (key : κ) (value : ν) (evicted : Option (κ × ν))
  | remove (key : κ)
  | clear
  | drain (entries : List (κ × ν))

def NodeCache.call (c : NodeCache κ ν) :
    CacheCall κ ν → Option (CacheEvent κ ν × NodeCache κ ν)
  | .get key => (c.get key).map fun r => (.get key r.1, r.2)
  | .contains key => (c.contains key).map fun r => (.contains key r.1, r.2)
  | .put key value fresh => (c.put key value fresh).map fun r => (.put key value r.1, r.2)
  | .remove key => (c.remove key).map fun c => (.remove key, c)
  | .clear => some (.clear, c.clear)
  | .drain => some (.drain c.drain.1, c.drain.2)

/-- A cache with the events of its run, the newest first. -/
structure CacheRun (κ ν : Type*) [DecidableEq κ] where
  cache : NodeCache κ ν
  events : List (CacheEvent κ ν) := []

namespace CacheRun

def step (s : CacheRun κ ν) (call : CacheCall κ ν) : Option (CacheRun κ ν) :=
  (s.cache.call call).map fun r => { cache := r.2, events := r.1 :: s.events }

/-- A new node gets an address that no node has. -/
def Allocates (s : CacheRun κ ν) : CacheCall κ ν → Prop
  | .put _ _ fresh => ∀ node ∈ s.cache.list, node.addr ≠ fresh
  | _ => True

instance (s : CacheRun κ ν) (call : CacheCall κ ν) : Decidable (s.Allocates call) :=
  match call with
  | .put _ _ fresh => inferInstanceAs (Decidable (∀ node ∈ s.cache.list, node.addr ≠ fresh))
  | .get _ => isTrue trivial
  | .contains _ => isTrue trivial
  | .remove _ => isTrue trivial
  | .clear => isTrue trivial
  | .drain => isTrue trivial

end CacheRun

/-! ## What the events determine -/

def CacheEvent.uses (key : κ) : CacheEvent κ ν → Bool
  | .get k _ => k = key
  | .contains k _ => k = key
  | .put k _ _ => k = key
  | _ => false

/-- How many events ago the key was last used. -/
def sinceUse (events : List (CacheEvent κ ν)) (key : κ) : ℕ := events.findIdx (·.uses key)

/-- The value of the last `put` of the key that no removal or eviction follows. -/
def stored : List (CacheEvent κ ν) → κ → Option ν
  | [], _ => none
  | .get _ _ :: events, key => stored events key
  | .contains _ _ :: events, key => stored events key
  | .put k value evicted :: events, key =>
    if key = k then some value
    else if evicted.any (·.1 = key) then none
    else stored events key
  | .remove k :: events, key => if key = k then none else stored events key
  | .clear :: _, _ => none
  | .drain _ :: _, _ => none

/-- The entry is stored, and every other stored key has been used since its last use. -/
def LeastRecentlyUsed (events : List (CacheEvent κ ν)) (entry : κ × ν) : Prop :=
  stored events entry.1 = some entry.2 ∧
    ∀ key, (stored events key).isSome → key ≠ entry.1 →
      sinceUse events key < sinceUse events entry.1

/-- The answer is the one that the earlier events determine, where `full` tells that the cache
is at its maximal size. -/
def CacheEvent.Right (events : List (CacheEvent κ ν)) (full : Prop) : CacheEvent κ ν → Prop
  | .get key answer => answer = stored events key
  | .contains key answer => answer = (stored events key).isSome
  | .put key _ evicted =>
    ((stored events key).isSome ∨ ¬full → evicted = none) ∧
      (stored events key = none → full →
        ∃ entry, evicted = some entry ∧ LeastRecentlyUsed events entry)
  | .drain entries =>
    (∀ key value, (key, value) ∈ entries ↔ stored events key = some value) ∧
      entries.Pairwise fun a b => sinceUse events a.1 < sinceUse events b.1
  | _ => True

/-! ## The invariant -/

/-- The index points at the node of each key, and at nothing else. -/
structure NodeCache.Agrees (c : NodeCache κ ν) : Prop where
  addrs_nodup : (c.list.map ListNode.addr).Nodup
  keys_nodup : (c.list.map ListNode.key).Nodup
  lookup_iff : ∀ key it, c.map.lookup key = some it ↔
    ∃ node ∈ c.list, node.key = key ∧ node.addr = it

/-- The cache agrees with itself and holds what the events determine, in the order of last
use. -/
structure CacheRun.Held (s : CacheRun κ ν) : Prop extends s.cache.Agrees where
  length_le : s.cache.list.length ≤ s.cache.maxSize
  stored_iff : ∀ key value, stored s.events key = some value ↔
    ∃ node ∈ s.cache.list, node.key = key ∧ node.value = value
  ordered : s.cache.list.Pairwise fun a b => sinceUse s.events a.key < sinceUse s.events b.key

theorem NodeCache.Agrees.eq_of_key {c : NodeCache κ ν} (h : c.Agrees) {a b : ListNode κ ν}
    (ha : a ∈ c.list) (hb : b ∈ c.list) (hkey : a.key = b.key) : a = b :=
  List.inj_on_of_nodup_map h.keys_nodup ha hb hkey

theorem NodeCache.Agrees.eq_of_addr {c : NodeCache κ ν} (h : c.Agrees) {a b : ListNode κ ν}
    (ha : a ∈ c.list) (hb : b ∈ c.list) (haddr : a.addr = b.addr) : a = b :=
  List.inj_on_of_nodup_map h.addrs_nodup ha hb haddr

theorem NodeCache.Agrees.deref_eq {c : NodeCache κ ν} (h : c.Agrees) {node : ListNode κ ν}
    (hmem : node ∈ c.list) : c.deref node.addr = some node := by
  have hfound : (c.list.find? fun other => other.addr = node.addr).isSome :=
    List.find?_isSome.mpr ⟨node, hmem, by simp⟩
  obtain ⟨other, hother⟩ := Option.isSome_iff_exists.mp hfound
  have haddr : other.addr = node.addr := by simpa using List.find?_some hother
  rw [NodeCache.deref, hother, h.eq_of_addr (List.mem_of_find?_eq_some hother) hmem haddr]

/-- The size the cache reports is the number of its nodes. -/
theorem NodeCache.Agrees.size_eq {c : NodeCache κ ν} (h : c.Agrees) :
    c.size = c.list.length := by
  have hmem (key : κ) : key ∈ c.map.keys ↔ key ∈ c.list.map ListNode.key := by
    rw [← AList.mem_keys, ← AList.lookup_isSome, Option.isSome_iff_exists, List.mem_map]
    constructor
    · rintro ⟨it, hit⟩
      obtain ⟨node, hnode, hkey, -⟩ := (h.lookup_iff key it).mp hit
      exact ⟨node, hnode, hkey⟩
    · rintro ⟨node, hnode, hkey⟩
      exact ⟨node.addr, (h.lookup_iff key node.addr).mpr ⟨node, hnode, hkey, rfl⟩⟩
  have hperm := (List.perm_ext_iff_of_nodup c.map.nodupKeys h.keys_nodup).mpr hmem
  rw [NodeCache.size, AList.keys, hperm.length_eq, List.length_map]

variable {s : CacheRun κ ν}

theorem CacheRun.Held.stored_isSome (h : s.Held) {key : κ} :
    (stored s.events key).isSome ↔ ∃ node ∈ s.cache.list, node.key = key := by
  rw [Option.isSome_iff_exists]
  constructor
  · rintro ⟨value, hvalue⟩
    obtain ⟨node, hnode, hkey, -⟩ := (h.stored_iff key value).mp hvalue
    exact ⟨node, hnode, hkey⟩
  · rintro ⟨node, hnode, hkey⟩
    exact ⟨node.value, (h.stored_iff key node.value).mpr ⟨node, hnode, hkey, rfl⟩⟩

theorem CacheRun.Held.lookup_eq_none (h : s.Held) {key : κ} :
    s.cache.map.lookup key = none ↔ stored s.events key = none := by
  rw [← not_iff_not, ← Ne, ← Ne, Option.ne_none_iff_isSome, Option.ne_none_iff_isSome,
    h.stored_isSome, Option.isSome_iff_exists]
  constructor
  · rintro ⟨it, hit⟩
    obtain ⟨node, hnode, hkey, -⟩ := (h.lookup_iff key it).mp hit
    exact ⟨node, hnode, hkey⟩
  · rintro ⟨node, hnode, hkey⟩
    exact ⟨node.addr, (h.lookup_iff key node.addr).mpr ⟨node, hnode, hkey, rfl⟩⟩

/-- The list without one of its nodes, in the same order. -/
structure Without (list : List (ListNode κ ν)) (node : ListNode κ ν)
    (rest : List (ListNode κ ν)) : Prop where
  sublist : rest.Sublist list
  mem_iff : ∀ other, other ∈ rest ↔ other ∈ list ∧ other.key ≠ node.key
  length_lt : rest.length < list.length

variable {c : NodeCache κ ν}

theorem NodeCache.Agrees.without_others (h : c.Agrees)
    {node : ListNode κ ν} (hmem : node ∈ c.list) : Without c.list node (c.others node.addr) where
  sublist := List.filter_sublist
  mem_iff other := by
    rw [others, List.mem_filter, decide_eq_true_eq]
    refine and_congr_right fun hother => not_congr ⟨fun haddr => ?_, fun hkey => ?_⟩
    · rw [h.eq_of_addr hother hmem haddr]
    · rw [h.eq_of_key hother hmem hkey]
  length_lt := List.length_filter_lt_length_iff_exists.mpr ⟨node, hmem, by simp⟩

theorem NodeCache.Agrees.without_dropLast (h : c.Agrees)
    {node : ListNode κ ν} (hlast : c.list.getLast? = some node) :
    Without c.list node c.list.dropLast := by
  have hlist : c.list = c.list.dropLast ++ [node] :=
    (List.dropLast_append_getLast? node hlast).symm
  have hnodup := h.keys_nodup
  rw [hlist, List.map_append, List.map_singleton, List.nodup_append] at hnodup
  refine ⟨List.dropLast_sublist _, fun other => ⟨fun hother => ⟨?_, ?_⟩, ?_⟩, ?_⟩
  · exact (List.dropLast_sublist _).subset hother
  · exact hnodup.2.2 _ (List.mem_map_of_mem hother) _ (List.mem_singleton_self _)
  · rintro ⟨hother, hkey⟩
    rw [hlist, List.mem_append, List.mem_singleton] at hother
    exact hother.resolve_right fun heq => hkey (heq ▸ rfl)
  · have hlength := congrArg List.length hlist
    rw [List.length_append, List.length_singleton] at hlength
    omega

omit [DecidableEq κ] in
theorem Without.exists_iff {list rest : List (ListNode κ ν)} {node : ListNode κ ν}
    (h : Without list node rest) {key : κ} {P : ListNode κ ν → Prop} :
    (∃ other ∈ rest, other.key = key ∧ P other) ↔
      key ≠ node.key ∧ ∃ other ∈ list, other.key = key ∧ P other := by
  constructor
  · rintro ⟨other, hother, rfl, hp⟩
    obtain ⟨hmem, hkey⟩ := (h.mem_iff other).mp hother
    exact ⟨hkey, other, hmem, rfl, hp⟩
  · rintro ⟨hkey, other, hmem, rfl, hp⟩
    exact ⟨other, (h.mem_iff other).mpr ⟨hmem, hkey⟩, rfl, hp⟩

/-! ## What an operation keeps -/

theorem sinceUse_cons {event : CacheEvent κ ν} {events : List (CacheEvent κ ν)} {key : κ} :
    sinceUse (event :: events) key = if event.uses key then 0 else sinceUse events key + 1 := by
  simp [sinceUse, List.findIdx_cons, cond_eq_ite]

/-- A node with the key in use comes to the front of a part of the list. -/
theorem CacheRun.Held.toFront (h : s.Held) {rest : List (ListNode κ ν)}
    {node : ListNode κ ν} {map : AList fun _ : κ => NodeAddr} {event : CacheEvent κ ν}
    (hrest : rest.Sublist s.cache.list) (hlt : rest.length < s.cache.maxSize)
    (haddr : ∀ other ∈ rest, other.addr ≠ node.addr)
    (hkey : ∀ other ∈ rest, other.key ≠ node.key)
    (hmap : ∀ key it, map.lookup key = some it ↔
      ∃ other ∈ node :: rest, other.key = key ∧ other.addr = it)
    (hstored : ∀ key value, stored (event :: s.events) key = some value ↔
      ∃ other ∈ node :: rest, other.key = key ∧ other.value = value)
    (huses : ∀ key, event.uses key = decide (node.key = key)) :
    CacheRun.Held
      { cache := { s.cache with list := node :: rest, map := map }
        events := event :: s.events } where
  addrs_nodup := by
    refine List.nodup_cons.mpr ⟨fun hmem => ?_, h.addrs_nodup.sublist (hrest.map _)⟩
    obtain ⟨other, hother, heq⟩ := List.mem_map.mp hmem
    exact haddr other hother heq
  keys_nodup := by
    refine List.nodup_cons.mpr ⟨fun hmem => ?_, h.keys_nodup.sublist (hrest.map _)⟩
    obtain ⟨other, hother, heq⟩ := List.mem_map.mp hmem
    exact hkey other hother heq
  lookup_iff := hmap
  length_le := hlt
  stored_iff := hstored
  ordered := by
    have hsince (other : ListNode κ ν) (hother : other ∈ rest) :
        sinceUse (event :: s.events) other.key = sinceUse s.events other.key + 1 := by
      rw [sinceUse_cons, huses, if_neg (by simpa using (hkey other hother).symm)]
    refine List.pairwise_cons.mpr ⟨fun other hother => ?_, ?_⟩
    · rw [hsince other hother, sinceUse_cons, huses, if_pos (decide_eq_true rfl)]
      exact Nat.succ_pos _
    · refine (h.ordered.sublist hrest).imp_of_mem fun ha hb hab => ?_
      rw [hsince _ ha, hsince _ hb]
      exact Nat.succ_lt_succ hab

/-- A part of the list stays. -/
theorem CacheRun.Held.keep (h : s.Held) {rest : List (ListNode κ ν)}
    {map : AList fun _ : κ => NodeAddr} {event : CacheEvent κ ν}
    (hrest : rest.Sublist s.cache.list)
    (hmap : ∀ key it, map.lookup key = some it ↔
      ∃ other ∈ rest, other.key = key ∧ other.addr = it)
    (hstored : ∀ key value, stored (event :: s.events) key = some value ↔
      ∃ other ∈ rest, other.key = key ∧ other.value = value)
    (huses : ∀ node ∈ rest, event.uses node.key = false) :
    CacheRun.Held
      { cache := { s.cache with list := rest, map := map }, events := event :: s.events } where
  addrs_nodup := h.addrs_nodup.sublist (hrest.map _)
  keys_nodup := h.keys_nodup.sublist (hrest.map _)
  lookup_iff := hmap
  length_le := hrest.length_le.trans h.length_le
  stored_iff := hstored
  ordered := by
    refine (h.ordered.sublist hrest).imp_of_mem fun ha hb hab => ?_
    rw [sinceUse_cons, sinceUse_cons, huses _ ha, huses _ hb]
    exact Nat.succ_lt_succ hab

/-- The node of a key in the index. -/
theorem CacheRun.Held.node_of_lookup (h : s.Held) {key : κ} {it : NodeAddr}
    (hit : s.cache.map.lookup key = some it) :
    ∃ node ∈ s.cache.list, node.key = key ∧ node.addr = it ∧
      stored s.events key = some node.value := by
  obtain ⟨node, hnode, hkey, haddr⟩ := (h.lookup_iff key it).mp hit
  exact ⟨node, hnode, hkey, haddr, (h.stored_iff key node.value).mpr ⟨node, hnode, hkey, rfl⟩⟩

/-- A use of a stored key, which may write its value. -/
theorem CacheRun.Held.use (h : s.Held) {node : ListNode κ ν} {value : ν}
    {event : CacheEvent κ ν} (hnode : node ∈ s.cache.list)
    (hstored : ∀ key, stored (event :: s.events) key =
      if key = node.key then some value else stored s.events key)
    (huses : ∀ key, event.uses key = decide (node.key = key)) :
    CacheRun.Held
      { cache := { s.cache with
          list := { node with value := value } :: s.cache.others node.addr }
        events := event :: s.events } := by
  have hothers := h.without_others hnode
  refine h.toFront hothers.sublist (hothers.length_lt.trans_le h.length_le) ?_ ?_ ?_ ?_ huses
  · intro other hother
    exact of_decide_eq_true (List.mem_filter.mp hother).2
  · intro other hother
    exact ((hothers.mem_iff other).mp hother).2
  · intro key it
    rw [List.exists_mem_cons_iff, hothers.exists_iff, ← h.lookup_iff]
    by_cases hkey : key = node.key
    · subst hkey
      have hnodeKey := (h.lookup_iff node.key node.addr).mpr ⟨node, hnode, rfl, rfl⟩
      simp [hnodeKey]
    · simp [hkey, Ne.symm hkey]
  · intro key v
    rw [List.exists_mem_cons_iff, hothers.exists_iff, ← h.stored_iff, hstored]
    by_cases hkey : key = node.key
    · simp [hkey]
    · simp [hkey, Ne.symm hkey]

/-- A new entry comes to the front, with room for it. -/
theorem CacheRun.Held.insert (h : s.Held) {key : κ} {value : ν}
    {fresh : NodeAddr} {rest : List (ListNode κ ν)} {map : AList fun _ : κ => NodeAddr}
    {evicted : Option (κ × ν)} (hnone : stored s.events key = none)
    (hfresh : ∀ node ∈ s.cache.list, node.addr ≠ fresh)
    (hrest : rest.Sublist s.cache.list) (hlt : rest.length < s.cache.maxSize)
    (hmap : ∀ k it, map.lookup k = some it ↔ ∃ other ∈ rest, other.key = k ∧ other.addr = it)
    (hstored : ∀ k v, (¬evicted.any (·.1 = k) ∧ stored s.events k = some v) ↔
      ∃ other ∈ rest, other.key = k ∧ other.value = v) :
    CacheRun.Held
      { cache := { s.cache with
          list := { addr := fresh, key := key, value := value } :: rest
          map := map.insert key fresh }
        events := .put key value evicted :: s.events } := by
  have hkey (other : ListNode κ ν) (hother : other ∈ rest) : other.key ≠ key := by
    rintro rfl
    rw [← Option.not_isSome_iff_eq_none, h.stored_isSome] at hnone
    exact hnone ⟨other, hrest.subset hother, rfl⟩
  refine h.toFront hrest hlt (fun other hother => hfresh other (hrest.subset hother)) hkey ?_ ?_
    fun _ => rfl
  · intro k it
    rw [List.exists_mem_cons_iff, ← hmap]
    by_cases hk : k = key
    · subst hk
      have hnot : ¬map.lookup k = some it := fun hsome => by
        obtain ⟨other, hother, heq, -⟩ := (hmap k it).mp hsome
        exact hkey other hother heq
      simp [hnot, AList.lookup_insert]
    · simp [Ne.symm hk, AList.lookup_insert_ne hk]
  · intro k v
    rw [List.exists_mem_cons_iff, ← hstored, stored]
    by_cases hk : k = key
    · simp [hk, hnone]
    · by_cases hany : evicted.any (·.1 = k) = true
      · simp [hk, Ne.symm hk, hany]
      · simp [hk, Ne.symm hk, hany]

/-! ## The operations on a cache that agrees with itself -/

theorem NodeCache.Agrees.splice_eq (h : c.Agrees) {node : ListNode κ ν} (hmem : node ∈ c.list) :
    c.splice node.addr = some { c with list := node :: c.others node.addr } := by
  rw [NodeCache.splice, h.deref_eq hmem, Option.map_some]

theorem NodeCache.Agrees.get_eq (h : c.Agrees) {node : ListNode κ ν} (hmem : node ∈ c.list) :
    c.get node.key = some (some node.value, { c with list := node :: c.others node.addr }) := by
  have hlookup := (h.lookup_iff node.key node.addr).mpr ⟨node, hmem, rfl, rfl⟩
  simp [NodeCache.get, hlookup, h.splice_eq hmem, NodeCache.deref]

theorem NodeCache.Agrees.contains_eq (h : c.Agrees) {node : ListNode κ ν} (hmem : node ∈ c.list) :
    c.contains node.key = some (true, { c with list := node :: c.others node.addr }) := by
  have hlookup := (h.lookup_iff node.key node.addr).mpr ⟨node, hmem, rfl, rfl⟩
  simp [NodeCache.contains, hlookup, h.splice_eq hmem]

theorem NodeCache.Agrees.assign_splice_eq (h : c.Agrees)
    {node : ListNode κ ν} (hmem : node ∈ c.list) (value : ν) :
    (c.assign node.addr value).bind (·.splice node.addr) =
      some { c with list := { node with value := value } :: c.others node.addr } := by
  rw [assign, h.deref_eq hmem, Option.map_some, Option.bind_some, splice, deref, others]
  -- Writing the value moves no node, so the iterator still finds its own.
  have haddr (other : ListNode κ ν) :
      (if other.addr = node.addr then { other with value := value } else other).addr =
        other.addr := by
    split_ifs <;> rfl
  have hfind := h.deref_eq hmem
  rw [deref] at hfind
  simp only [List.find?_map, List.filter_map, Function.comp_def, haddr, hfind, Option.map_some,
    if_true, Option.some.injEq, mk.injEq, true_and, and_true, List.cons.injEq]
  refine (List.map_congr_left fun other hother => ?_).trans (List.map_id _)
  exact if_neg (of_decide_eq_true (List.mem_filter.mp hother).2)

theorem NodeCache.Agrees.put_eq (h : c.Agrees) {node : ListNode κ ν}
    (hmem : node ∈ c.list) (value : ν) (fresh : NodeAddr) :
    c.put node.key value fresh =
      some (none, { c with list := { node with value := value } :: c.others node.addr }) := by
  have hlookup := (h.lookup_iff node.key node.addr).mpr ⟨node, hmem, rfl, rfl⟩
  have hspliced := h.assign_splice_eq hmem value
  obtain ⟨assigned, hassign, hsplice⟩ := Option.bind_eq_some_iff.mp hspliced
  simp [NodeCache.put, hlookup, hassign, hsplice]

theorem NodeCache.Agrees.remove_eq (h : c.Agrees) {node : ListNode κ ν} (hmem : node ∈ c.list) :
    c.remove node.key =
      some { c with list := c.others node.addr, map := c.map.erase node.key } := by
  have hlookup := (h.lookup_iff node.key node.addr).mpr ⟨node, hmem, rfl, rfl⟩
  simp [NodeCache.remove, hlookup, h.deref_eq hmem]

theorem NodeCache.Agrees.put_full_eq (h : c.Agrees) {key : κ}
    {node : ListNode κ ν} (hlookup : c.map.lookup key = none) (hfull : c.maxSize ≤ c.list.length)
    (hlast : c.list.getLast? = some node) (value : ν) (fresh : NodeAddr) :
    c.put key value fresh = some (some (node.key, node.value), { c with
      list := { addr := fresh, key := key, value := value } :: c.list.dropLast
      map := (c.map.erase node.key).insert key fresh }) := by
  simp [put, evict, hlookup, h.size_eq, hfull, hlast]

theorem NodeCache.Agrees.put_room_eq (h : c.Agrees) {key : κ}
    (hlookup : c.map.lookup key = none) (hroom : ¬c.maxSize ≤ c.list.length) (value : ν)
    (fresh : NodeAddr) :
    c.put key value fresh = some (none, { c with
      list := { addr := fresh, key := key, value := value } :: c.list
      map := c.map.insert key fresh }) := by
  simp [put, evict, hlookup, h.size_eq, hroom]

/-! ## A call -/

/-- The call has an outcome, its answer is the one that the events determine, and the cache holds
what the events then determine. -/
def CacheRun.Meets (s : CacheRun κ ν) (call : CacheCall κ ν) : Prop :=
  ∃ event c, s.cache.call call = some (event, c) ∧ c.maxSize = s.cache.maxSize ∧
    event.Right s.events (s.cache.maxSize ≤ s.cache.list.length) ∧
    CacheRun.Held { cache := c, events := event :: s.events }

/-- An event that uses only keys that are not stored, and stores nothing, changes nothing. -/
theorem CacheRun.Held.same (h : s.Held) {event : CacheEvent κ ν}
    (hstored : ∀ key, stored (event :: s.events) key = stored s.events key)
    (huses : ∀ key, event.uses key = true → stored s.events key = none) :
    CacheRun.Held { cache := s.cache, events := event :: s.events } := by
  refine h.keep (List.Sublist.refl _) h.lookup_iff (fun key value => ?_) fun node hnode => ?_
  · rw [hstored, h.stored_iff]
  · refine Bool.eq_false_iff.mpr fun hkey => ?_
    have hnone := huses node.key hkey
    rw [(h.stored_iff node.key node.value).mpr ⟨node, hnode, rfl, rfl⟩] at hnone
    cases hnone

theorem CacheRun.Held.get (h : s.Held) (key : κ) : s.Meets (.get key) := by
  cases hlookup : s.cache.map.lookup key with
  | none =>
    have hnone := h.lookup_eq_none.mp hlookup
    refine ⟨.get key none, s.cache, by simp [NodeCache.call, NodeCache.get, hlookup], rfl,
      hnone.symm, h.same (fun _ => rfl) fun k hk => ?_⟩
    rwa [← of_decide_eq_true hk]
  | some it =>
    obtain ⟨node, hnode, rfl, rfl, hvalue⟩ := h.node_of_lookup hlookup
    have hcall := congrArg (Option.map fun r => (CacheEvent.get node.key r.1, r.2)) (h.get_eq hnode)
    refine ⟨_, _, hcall, rfl, hvalue.symm, h.use hnode (fun k => ?_) fun _ => rfl⟩
    rw [stored]
    split_ifs with hk
    · rw [hk, hvalue]
    · rfl

theorem CacheRun.Held.contains (h : s.Held) (key : κ) : s.Meets (.contains key) := by
  cases hlookup : s.cache.map.lookup key with
  | none =>
    have hnone := h.lookup_eq_none.mp hlookup
    refine ⟨.contains key false, s.cache, by simp [NodeCache.call, NodeCache.contains, hlookup],
      rfl, by rw [CacheEvent.Right, hnone]; rfl, h.same (fun _ => rfl) fun k hk => ?_⟩
    rwa [← of_decide_eq_true hk]
  | some it =>
    obtain ⟨node, hnode, rfl, rfl, hvalue⟩ := h.node_of_lookup hlookup
    have hcall := congrArg (Option.map fun r => ((.contains node.key r.1 : CacheEvent κ ν), r.2))
      (h.contains_eq hnode)
    refine ⟨_, _, hcall, rfl, by rw [CacheEvent.Right, hvalue]; rfl,
      h.use hnode (fun k => ?_) fun _ => rfl⟩
    rw [stored]
    split_ifs with hk
    · rw [hk, hvalue]
    · rfl

theorem CacheRun.Held.remove (h : s.Held) (key : κ) : s.Meets (.remove key) := by
  cases hlookup : s.cache.map.lookup key with
  | none =>
    have hnone := h.lookup_eq_none.mp hlookup
    refine ⟨.remove key, s.cache, by simp [NodeCache.call, NodeCache.remove, hlookup], rfl,
      trivial, h.same (fun k => ?_) fun k hk => by cases hk⟩
    rw [stored]
    split_ifs with hk
    · rw [hk, hnone]
    · rfl
  | some it =>
    obtain ⟨node, hnode, rfl, rfl, -⟩ := h.node_of_lookup hlookup
    have hothers := h.without_others hnode
    have hcall := congrArg (Option.map fun c => ((.remove node.key : CacheEvent κ ν), c))
      (h.remove_eq hnode)
    refine ⟨_, _, hcall, rfl, trivial,
      h.keep hothers.sublist (fun k it => ?_) (fun k value => ?_) fun _ _ => rfl⟩
    · rw [hothers.exists_iff, ← h.lookup_iff]
      by_cases hk : k = node.key
      · subst hk
        simp [AList.lookup_erase]
      · simp [hk, AList.lookup_erase_ne hk]
    · rw [hothers.exists_iff, ← h.stored_iff, stored]
      by_cases hk : k = node.key <;> simp [hk]

theorem CacheRun.Held.cleared (h : s.Held) {event : CacheEvent κ ν}
    (hstored : ∀ key, stored (event :: s.events) key = none) :
    CacheRun.Held { cache := s.cache.clear, events := event :: s.events } := by
  refine h.keep (List.nil_sublist _) (fun key it => ?_) (fun key value => ?_) fun node hnode => ?_
  · simp
  · simp [hstored]
  · cases hnode

theorem CacheRun.Held.drain (h : s.Held) : s.Meets .drain := by
  refine ⟨_, _, rfl, rfl, ⟨fun key value => ?_, ?_⟩, h.cleared fun _ => rfl⟩
  · rw [h.stored_iff]
    simp [NodeCache.drain]
  · exact List.pairwise_map.mpr h.ordered

/-- The node at the back is the least recently used one. -/
theorem CacheRun.Held.leastRecentlyUsed (h : s.Held) {node : ListNode κ ν}
    (hlast : s.cache.list.getLast? = some node) :
    LeastRecentlyUsed s.events (node.key, node.value) := by
  have hmem := List.mem_of_getLast? hlast
  refine ⟨(h.stored_iff node.key node.value).mpr ⟨node, hmem, rfl, rfl⟩, fun key hkey hne => ?_⟩
  obtain ⟨other, hother, rfl⟩ := h.stored_isSome.mp hkey
  have hordered := h.ordered
  rw [← List.dropLast_append_getLast? node hlast, List.pairwise_append] at hordered
  have hfront := ((h.without_dropLast hlast).mem_iff other).mpr ⟨hother, hne⟩
  exact hordered.2.2 other hfront node (List.mem_singleton_self _)

theorem CacheRun.Held.put (h : s.Held) (hpos : 0 < s.cache.maxSize) {key : κ}
    {value : ν} {fresh : NodeAddr} (hfresh : ∀ node ∈ s.cache.list, node.addr ≠ fresh) :
    s.Meets (.put key value fresh) := by
  cases hlookup : s.cache.map.lookup key with
  | some it =>
    obtain ⟨node, hnode, rfl, rfl, hvalue⟩ := h.node_of_lookup hlookup
    have hcall := congrArg (Option.map fun r => (CacheEvent.put node.key value r.1, r.2))
      (h.put_eq hnode value fresh)
    refine ⟨_, _, hcall, rfl, ⟨fun _ => rfl, fun hnone => ?_⟩,
      h.use hnode (fun k => by simp [stored]) fun _ => rfl⟩
    rw [hvalue] at hnone
    cases hnone
  | none =>
    have hnone := h.lookup_eq_none.mp hlookup
    by_cases hfull : s.cache.maxSize ≤ s.cache.list.length
    · obtain ⟨node, hlast⟩ := Option.isSome_iff_exists.mp
        (List.getLast?_isSome.mpr (List.ne_nil_of_length_pos (hpos.trans_le hfull)))
      have hdrop := h.without_dropLast hlast
      have hcall := congrArg (Option.map fun r => (CacheEvent.put key value r.1, r.2))
        (h.put_full_eq hlookup hfull hlast value fresh)
      refine ⟨_, _, hcall, rfl,
        ⟨fun hor => ?_, fun _ _ => ⟨_, rfl, h.leastRecentlyUsed hlast⟩⟩,
        h.insert hnone hfresh hdrop.sublist (hdrop.length_lt.trans_le h.length_le)
          (fun k it => ?_) fun k v => ?_⟩
      · rw [hnone] at hor
        exact absurd hfull (hor.resolve_left Bool.false_ne_true)
      · rw [hdrop.exists_iff, ← h.lookup_iff]
        by_cases hk : k = node.key
        · subst hk
          simp [AList.lookup_erase]
        · simp [hk, AList.lookup_erase_ne hk]
      · rw [hdrop.exists_iff, ← h.stored_iff]
        simp [eq_comm]
    · have hcall := congrArg (Option.map fun r => (CacheEvent.put key value r.1, r.2))
        (h.put_room_eq hlookup hfull value fresh)
      refine ⟨_, _, hcall, rfl, ⟨fun _ => rfl, fun _ hfull' => absurd hfull' hfull⟩,
        h.insert hnone hfresh (List.Sublist.refl _) (Nat.lt_of_not_le hfull) h.lookup_iff
          fun k v => ?_⟩
      rw [← h.stored_iff]
      simp

theorem CacheRun.Held.meets (h : s.Held) (hpos : 0 < s.cache.maxSize)
    {call : CacheCall κ ν} (hfresh : s.Allocates call) : s.Meets call := by
  cases call with
  | get key => exact h.get key
  | contains key => exact h.contains key
  | put key value fresh => exact h.put hpos hfresh
  | remove key => exact h.remove key
  | clear => exact ⟨.clear, _, rfl, rfl, trivial, h.cleared fun _ => rfl⟩
  | drain => exact h.drain

/-! ## Every run -/

/-- The runs from an empty cache. -/
abbrev CacheRun.Reaches (maxSize : ℕ) : CacheRun κ ν → Prop :=
  BoostGateway.Reaches (fun s => s = { cache := { maxSize := maxSize } }) CacheRun.step
    CacheRun.Allocates

theorem CacheRun.Reaches.held {maxSize : ℕ} (hpos : 0 < maxSize) {s : CacheRun κ ν}
    (h : CacheRun.Reaches maxSize s) : s.Held ∧ s.cache.maxSize = maxSize := by
  refine h.invariant (P := fun s => s.Held ∧ s.cache.maxSize = maxSize) ?_ ?_
  · rintro s rfl
    exact ⟨⟨⟨List.nodup_nil, List.nodup_nil, by simp⟩, Nat.zero_le _, by simp [stored],
      List.Pairwise.nil⟩, rfl⟩
  · rintro s call s' ⟨hheld, rfl⟩ hfresh hstep
    obtain ⟨event, c, hcall, hsize, -, hheld'⟩ := hheld.meets hpos hfresh
    rw [CacheRun.step, hcall, Option.map_some, Option.some.injEq] at hstep
    exact hstep ▸ ⟨hheld', hsize⟩

/-- In every run of a cache with room for an entry the index holds the keys of the list, once
each, and points at their nodes ; the cache is not larger than its maximal size ; the list is in
the order of last use ; and every further call has an outcome, with the answer that the events
determine. -/
theorem lruCache_refines {maxSize : ℕ} (hpos : 1 ≤ maxSize) {s : CacheRun κ ν}
    (h : CacheRun.Reaches maxSize s) :
    s.cache.Agrees ∧ s.cache.size = s.cache.list.length ∧ s.cache.size ≤ maxSize ∧
    s.cache.list.Pairwise (fun a b => sinceUse s.events a.key < sinceUse s.events b.key) ∧
    (∀ key value, stored s.events key = some value ↔
      ∃ node ∈ s.cache.list, node.key = key ∧ node.value = value) ∧
    ∀ call, s.Allocates call → ∃ event c, s.cache.call call = some (event, c) ∧
      event.Right s.events (s.cache.size = maxSize) := by
  obtain ⟨hheld, rfl⟩ := h.held hpos
  have hsize := hheld.size_eq
  refine ⟨hheld.toAgrees, hsize, hsize.trans_le hheld.length_le, hheld.ordered,
    hheld.stored_iff, fun call hfresh => ?_⟩
  obtain ⟨event, c, hcall, -, hright, -⟩ := hheld.meets hpos hfresh
  have hfull : s.cache.maxSize ≤ s.cache.list.length ↔ s.cache.size = s.cache.maxSize := by
    rw [hsize]
    exact ⟨fun hle => hheld.length_le.antisymm hle, fun heq => heq.ge⟩
  exact ⟨event, c, hcall, propext hfull ▸ hright⟩

/-- A read keeps an entry from eviction. -/
theorem lruCache_refines_evict : ∃ s : CacheRun ℕ ℕ, CacheRun.Reaches 2 s ∧
    (s.cache.size = 2 ∧ stored s.events 1 = some 10 ∧ stored s.events 2 = none) ∧
    s.cache.Agrees := by
  have hinit : CacheRun.Reaches 2 { cache := { maxSize := 2 } : CacheRun ℕ ℕ } := .init rfl
  obtain ⟨s, hs, hp⟩ := hinit.exists_runWith
    [.put 1 10 0, .put 2 20 1, .get 1, .put 3 30 2]
    (P := fun s => s.cache.size = 2 ∧ stored s.events 1 = some 10 ∧ stored s.events 2 = none)
    (by decide)
  exact ⟨s, hs, hp, (lruCache_refines (by decide) hs).1⟩

end BoostGateway.Data
