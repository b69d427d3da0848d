import Mathlib.Data.List.Nodup
import Mathlib.Logic.Function.Basic
import BoostGateway.Base.Run

/-!
# The Redis connection pool

`RedisConnectionPool` and its lease object `PooledConnection` (`redis_connection_pool.cpp`).
What a thread does under the mutex of a pool is one step : one look at the slots in `acquire`
or `try_acquire`, or one `release`. Between two looks `acquire` waits, and is woken at any
time. A move assignment first gives the own lease back and takes over the other one
afterwards, so other threads may take the client in between. Objects of several pools may be
assigned to each other. What Redis answers and where a new client is allocated comes with each
look.

An object holds a client from the look that marks its slot until the `release` that frees the
slot. In every state a client is held at most once, the slots in use are those whose client is
held, and no pool outgrows its configuration : `leases_exclusive`.
-/

namespace BoostGateway.Persistence

/-- The address of a client. -/
abbrev ClientAddr := ℕ

/-- The number of a pool. -/
abbrev PoolId := ℕ

/-- The number of a lease object. -/
abbrev ObjectId := ℕ

/-- A slot of the pool. -/
structure PoolSlot where
  client : ClientAddr
  inUse : Bool := false
  deriving DecidableEq

/-- What a look at the slots meets : the connections that are up, those that `reconnect`
brings up, and the address of a new client. -/
structure PoolIo where
  isConnected : ClientAddr → Bool
  reconnect : ClientAddr → Bool
  fresh : ClientAddr

/-- The first idle slot with a connection that is up or comes up, marked as in use. -/
def takeIdle (io : PoolIo) : List PoolSlot → Option (ClientAddr × List PoolSlot)
  | [] => none
  | slot :: slots =>
    if slot.inUse then (takeIdle io slots).map fun r => (r.1, slot :: r.2)
    else if io.isConnected slot.client || io.reconnect slot.client then
      some (slot.client, { slot with inUse := true } :: slots)
    else (takeIdle io slots).map fun r => (r.1, slot :: r.2)

/-- The slots after `release`. -/
def releaseSlot (client : ClientAddr) : List PoolSlot → List PoolSlot
  | [] => []
  | slot :: slots =>
    if slot.client = client then { slot with inUse := false } :: slots
    else slot :: releaseSlot client slots

/-- The pool. -/
structure RedisConnectionPool where
  maxSize : ℕ := 4
  slots : List PoolSlot := []

namespace RedisConnectionPool

variable (pool : RedisConnectionPool)

/-- The first two parts of `acquire` and `try_acquire` : an idle connection, or a new one. -/
def take (io : PoolIo) : Option (ClientAddr × RedisConnectionPool) :=
  match takeIdle io pool.slots with
  | some (client, slots) => some (client, { pool with slots := slots })
  | none =>
    if pool.slots.length < pool.maxSize ∧ io.reconnect io.fresh then
      some (io.fresh,
        { pool with slots := pool.slots ++ [{ client := io.fresh, inUse := true }] })
    else none

def release (client : ClientAddr) : RedisConnectionPool :=
  { pool with slots := releaseSlot client pool.slots }

def clients : List ClientAddr := pool.slots.map PoolSlot.client

/-- A slot of the client is in use. -/
def InUse (client : ClientAddr) : Prop :=
  ∃ slot ∈ pool.slots, slot.client = client ∧ slot.inUse

end RedisConnectionPool

/-- Where a `PooledConnection` stands. -/
inductive ObjectState
  /-- Not constructed, or destroyed. -/
  | absent
  /-- The result of an `acquire` before it returns; it is about to look or it waits. -/
  | acquiring (pool : PoolId) (waiting : Bool)
  /-- Live, with `pool_` and `client_`, which are null together. -/
  | live (lease : Option (PoolId × ClientAddr))
  /-- In a move assignment from `source`, with its own client already released. -/
  | assigning (source : ObjectId)
  deriving DecidableEq

/-- Pools and the leases of threads. -/
structure PoolSystem where
  pools : PoolId → RedisConnectionPool
  objects : ObjectId → ObjectState := fun _ => .absent
  /-- The addresses of the clients in the pools. -/
  allocated : List ClientAddr := []

/-- What threads do. -/
inductive PoolAction
  /-- A thread calls `acquire`. -/
  | acquire (o : ObjectId) (pool : PoolId)
  /-- It looks at the slots. -/
  | look (o : ObjectId) (io : PoolIo)
  | wake (o : ObjectId)
  | timeout (o : ObjectId)
  | tryAcquire (o : ObjectId) (pool : PoolId) (io : PoolIo)
  | moveConstruct (o other : ObjectId)
  /-- `operator=` up to the end of its `release`. -/
  | moveAssign (o other : ObjectId)
  /-- The rest of `operator=`. -/
  | takeOver (o : ObjectId)
  | destroy (o : ObjectId)

namespace PoolSystem

variable (s : PoolSystem)

def setObject (o : ObjectId) (state : ObjectState) : PoolSystem :=
  { s with objects := Function.update s.objects o state }

/-- A look at the slots of a pool; where it finds nothing, the object ends up in `failed`. -/
def look (o : ObjectId) (pool : PoolId) (io : PoolIo) (failed : ObjectState) : Option PoolSystem :=
  if io.fresh ∈ s.allocated then none
  else
    match (s.pools pool).take io with
    | some (client, pool') =>
      some { s.setObject o (.live (some (pool, client))) with
        pools := Function.update s.pools pool pool'
        allocated := client :: s.allocated }
    | none => some (s.setObject o failed)

/-- `PooledConnection::release`. -/
def releaseLease : Option (PoolId × ClientAddr) → PoolSystem
  | some (pool, client) =>
    { s with pools := Function.update s.pools pool ((s.pools pool).release client) }
  | none => s

/-- The lease of an object passes to another one. -/
def moveLease (o other : ObjectId) (lease : Option (PoolId × ClientAddr)) : PoolSystem :=
  (s.setObject o (.live lease)).setObject other (.live none)

def step : PoolAction → Option PoolSystem
  | .acquire o pool =>
    if s.objects o = .absent then some (s.setObject o (.acquiring pool false)) else none
  | .look o io =>
    match s.objects o with
    | .acquiring pool false => s.look o pool io (.acquiring pool true)
    | _ => none
  | .wake o =>
    match s.objects o with
    | .acquiring pool true => some (s.setObject o (.acquiring pool false))
    | _ => none
  | .timeout o =>
    match s.objects o with
    | .acquiring _ true => some (s.setObject o (.live none))
    | _ => none
  | .tryAcquire o pool io =>
    if s.objects o = .absent then s.look o pool io (.live none) else none
  | .moveConstruct o other =>
    match s.objects o, s.objects other with
    | .absent, .live lease => some (s.moveLease o other lease)
    | _, _ => none
  | .moveAssign o other =>
    match s.objects o, s.objects other with
    | .live own, .live _ =>
      if o = other then some s else some ((s.releaseLease own).setObject o (.assigning other))
    | _, _ => none
  | .takeOver o =>
    match s.objects o with
    | .assigning other =>
      match s.objects other with
      | .live lease => some (s.moveLease o other lease)
      | _ => none
    | _ => none
  | .destroy o =>
    match s.objects o with
    | .live lease => some ((s.releaseLease lease).setObject o .absent)
    | _ => none

/-- A live object holds the client. -/
def Holds (o : ObjectId) (pool : PoolId) (client : ClientAddr) : Prop :=
  s.objects o = .live (some (pool, client))

instance (s : PoolSystem) (o : ObjectId) (pool : PoolId) (client : ClientAddr) :
    Decidable (s.Holds o pool client) :=
  inferInstanceAs (Decidable (_ = _))

/-- The states reached from empty pools. -/
abbrev Reaches : PoolSystem → Prop :=
  BoostGateway.Reaches (fun s => ∃ maxSize : PoolId → ℕ, s = { pools := fun p => ⟨maxSize p, []⟩ })
    step fun _ _ => True

end PoolSystem

/-! ## What a look and a release do to the slots -/

theorem takeIdle_cases {io : PoolIo} {slots slots' : List PoolSlot} {client : ClientAddr}
    (h : takeIdle io slots = some (client, slots')) :
    ∃ before after, slots = before ++ ⟨client, false⟩ :: after ∧
      slots' = before ++ ⟨client, true⟩ :: after := by
  induction slots generalizing slots' with
  | nil => cases h
  | cons slot slots ih =>
    have hrest : ((takeIdle io slots).map fun r => (r.1, slot :: r.2)) = some (client, slots') →
        ∃ before after, slot :: slots = before ++ ⟨client, false⟩ :: after ∧
          slots' = before ++ ⟨client, true⟩ :: after := by
      intro h
      obtain ⟨⟨_, rest⟩, hrest, heq⟩ := Option.map_eq_some_iff.mp h
      simp only [Prod.mk.injEq] at heq
      obtain ⟨rfl, rfl⟩ := heq
      obtain ⟨before, after, rfl, rfl⟩ := ih hrest
      exact ⟨slot :: before, after, rfl, rfl⟩
    rw [takeIdle] at h
    split_ifs at h with hused hup
    · exact hrest h
    · obtain ⟨rfl, rfl⟩ := Prod.mk.inj (Option.some_inj.mp h)
      refine ⟨[], slots, ?_, rfl⟩
      rw [List.nil_append, ← Bool.eq_false_iff.mpr hused]
    · exact hrest h

theorem releaseSlot_of_mem {slots : List PoolSlot} {client : ClientAddr}
    (h : client ∈ slots.map PoolSlot.client) :
    ∃ before slot after, slots = before ++ slot :: after ∧ slot.client = client ∧
      releaseSlot client slots = before ++ ⟨client, false⟩ :: after := by
  induction slots with
  | nil => cases h
  | cons slot slots ih =>
    rw [releaseSlot]
    split_ifs with hc
    · exact ⟨[], slot, slots, rfl, hc, by rw [hc, List.nil_append]⟩
    · rw [List.map_cons, List.mem_cons] at h
      obtain ⟨before, slot', after, rfl, hslot, heq⟩ := ih (h.resolve_left (Ne.symm hc))
      exact ⟨slot :: before, slot', after, rfl, hslot, by rw [heq, List.cons_append]⟩

/-- Where the clients are distinct, one of a slot with the client decides whether it is in
use. -/
theorem inUse_split {pool : RedisConnectionPool} {before after : List PoolSlot} {slot : PoolSlot}
    (hslots : pool.slots = before ++ slot :: after) (hnodup : pool.clients.Nodup)
    (d : ClientAddr) : pool.InUse d ↔
      if d = slot.client then slot.inUse = true
      else ∃ x ∈ before ++ after, x.client = d ∧ x.inUse := by
  have hother : ∀ x ∈ before ++ after, x.client ≠ slot.client := by
    rw [RedisConnectionPool.clients, hslots, List.map_append, List.map_cons] at hnodup
    have hnot := (List.nodup_middle.mp hnodup).notMem
    intro x hx heq
    rw [← List.map_append] at hnot
    exact hnot (heq ▸ List.mem_map_of_mem hx)
  have hmem : ∀ x, x ∈ pool.slots ↔ x = slot ∨ x ∈ before ++ after := by
    intro x
    rw [hslots]
    simp only [List.mem_append, List.mem_cons]
    tauto
  simp only [RedisConnectionPool.InUse, hmem]
  split_ifs with hd
  · constructor
    · rintro ⟨x, rfl | hx, hc, hused⟩
      · exact hused
      · exact absurd (hc.trans hd) (hother x hx)
    · exact fun hused => ⟨slot, .inl rfl, hd.symm, hused⟩
  · constructor
    · rintro ⟨x, rfl | hx, hc, hused⟩
      · exact absurd hc.symm hd
      · exact ⟨x, hx, hc, hused⟩
    · rintro ⟨x, hx, hc, hused⟩
      exact ⟨x, .inr hx, hc, hused⟩

namespace RedisConnectionPool

variable {pool pool' : RedisConnectionPool} {client : ClientAddr} {io : PoolIo}

/-- A look that finds a client marks its slot, which was idle or is new. -/
structure Takes (pool : RedisConnectionPool) (client : ClientAddr) (fresh : ClientAddr)
    (pool' : RedisConnectionPool) : Prop where
  maxSize : pool'.maxSize = pool.maxSize
  clients : pool'.clients = pool.clients ∧ client ∈ pool.clients ∨
    pool'.clients = pool.clients ++ [client] ∧ client = fresh ∧
      pool.slots.length < pool.maxSize
  idle : ¬pool.InUse client
  used : ∀ d, pool'.InUse d ↔ d = client ∨ pool.InUse d

theorem takes_of_take (hnodup : pool.clients.Nodup) (hfresh : io.fresh ∉ pool.clients)
    (h : pool.take io = some (client, pool')) : pool.Takes client io.fresh pool' := by
  unfold take at h
  split at h
  · rename_i c slots hidle
    obtain ⟨rfl, rfl⟩ := Prod.mk.inj (Option.some_inj.mp h)
    obtain ⟨before, after, hslots, rfl⟩ := takeIdle_cases hidle
    have hclients : (before ++ ⟨c, true⟩ :: after).map PoolSlot.client =
        pool.clients := by
      rw [RedisConnectionPool.clients, hslots]
      simp
    have hsame : ({ pool with slots := before ++ ⟨c, true⟩ :: after } :
        RedisConnectionPool).clients.Nodup := by
      rw [RedisConnectionPool.clients, hclients]
      exact hnodup
    refine ⟨rfl, .inl ⟨hclients, ?_⟩, ?_, fun d => ?_⟩
    · rw [RedisConnectionPool.clients, hslots]
      simp
    · rw [inUse_split hslots hnodup, if_pos rfl]
      exact Bool.false_ne_true
    · rw [inUse_split rfl hsame, inUse_split hslots hnodup]
      split_ifs with hd
      · exact iff_of_true rfl (.inl hd)
      · exact (or_iff_right hd).symm
  · split_ifs at h with hroom
    obtain ⟨rfl, rfl⟩ := Prod.mk.inj (Option.some_inj.mp h)
    refine ⟨rfl, .inr ⟨by simp [RedisConnectionPool.clients], rfl, hroom.1⟩, ?_, fun d => ?_⟩
    · rintro ⟨slot, hslot, heq, -⟩
      exact hfresh (heq ▸ List.mem_map_of_mem hslot)
    · simp only [InUse, List.mem_append, List.mem_singleton]
      constructor
      · rintro ⟨slot, hslot | rfl, hc, hused⟩
        · exact .inr ⟨slot, hslot, hc, hused⟩
        · exact .inl hc.symm
      · rintro (rfl | ⟨slot, hslot, hc, hused⟩)
        · exact ⟨_, .inr rfl, rfl, rfl⟩
        · exact ⟨slot, .inl hslot, hc, hused⟩

variable {fresh : ClientAddr}

theorem Takes.mem_clients_iff (h : pool.Takes client fresh pool')
    {c : ClientAddr} : c ∈ pool'.clients ↔ c ∈ pool.clients ∨ c = client := by
  rcases h.clients with ⟨heq, hmem⟩ | ⟨heq, -, -⟩
  · rw [heq]
    exact (or_iff_left_of_imp fun hc => hc ▸ hmem).symm
  · rw [heq, List.mem_append, List.mem_singleton]

theorem Takes.nodup_clients (h : pool.Takes client fresh pool')
    (hnodup : pool.clients.Nodup) (hfresh : fresh ∉ pool.clients) : pool'.clients.Nodup := by
  rcases h.clients with ⟨heq, -⟩ | ⟨heq, rfl, -⟩
  · exact heq ▸ hnodup
  · rw [heq, ← List.concat_eq_append]
    exact (List.nodup_concat _ _).mpr ⟨hfresh, hnodup⟩

theorem Takes.length_le (h : pool.Takes client fresh pool')
    (hle : pool.slots.length ≤ pool.maxSize) : pool'.slots.length ≤ pool'.maxSize := by
  rw [h.maxSize]
  rcases h.clients with ⟨heq, -⟩ | ⟨heq, -, hroom⟩
  · have hlength := congrArg List.length heq
    simp only [RedisConnectionPool.clients, List.length_map] at hlength
    rwa [hlength]
  · have hlength := congrArg List.length heq
    simp only [RedisConnectionPool.clients, List.length_append, List.length_map,
      List.length_singleton] at hlength
    omega

theorem clients_release : (pool.release client).clients = pool.clients := by
  unfold release RedisConnectionPool.clients
  induction pool.slots with
  | nil => rfl
  | cons slot slots ih =>
    dsimp only at ih ⊢
    rw [releaseSlot]
    split_ifs
    · rfl
    · rw [List.map_cons, List.map_cons, ih]

/-- A release frees the slot of its client and no other. -/
theorem inUse_release (hnodup : pool.clients.Nodup) (hmem : client ∈ pool.clients)
    (d : ClientAddr) : (pool.release client).InUse d ↔ d ≠ client ∧ pool.InUse d := by
  obtain ⟨before, slot, after, hslots, rfl, hrelease⟩ := releaseSlot_of_mem hmem
  have hnodup' : (pool.release slot.client).clients.Nodup := clients_release.symm ▸ hnodup
  rw [inUse_split hslots hnodup, inUse_split hrelease hnodup']
  split_ifs with hd
  · exact iff_of_false id fun h => h.1 hd
  · exact (and_iff_right hd).symm

end RedisConnectionPool

/-! ## Leases -/

/-- The clients of the pools have addresses of their own, the slots in use are those whose
client is held, by one object each, and the pools keep to their size. -/
structure Leases (s : PoolSystem) : Prop where
  nodup : ∀ p, (s.pools p).clients.Nodup
  apart : ∀ p q c, c ∈ (s.pools p).clients → c ∈ (s.pools q).clients → p = q
  allocated : ∀ p, (s.pools p).clients ⊆ s.allocated
  size : ∀ p, (s.pools p).slots.length ≤ (s.pools p).maxSize
  used : ∀ p c, (s.pools p).InUse c ↔ ∃ o, s.Holds o p c
  unique : ∀ o o' p c, s.Holds o p c → s.Holds o' p c → o = o'

namespace Leases

variable {s s' : PoolSystem} {o other : ObjectId} {p : PoolId} {c : ClientAddr}
  {state : ObjectState} {lease : Option (PoolId × ClientAddr)}

theorem mem_clients (h : Leases s) (ho : s.Holds o p c) : c ∈ (s.pools p).clients := by
  obtain ⟨slot, hslot, rfl, -⟩ := (h.used p c).mpr ⟨o, ho⟩
  exact List.mem_map_of_mem hslot

theorem holds_setObject_self : (s.setObject o state).Holds o p c ↔
    state = .live (some (p, c)) := by
  simp only [PoolSystem.Holds, PoolSystem.setObject, Function.update_self]

theorem holds_setObject_ne {o' : ObjectId} (h : o' ≠ o) :
    (s.setObject o state).Holds o' p c ↔ s.Holds o' p c := by
  simp only [PoolSystem.Holds, PoolSystem.setObject, Function.update_of_ne h]

/-- A step that does not touch the pools passes the leases on, each to one object. -/
theorem rename (h : Leases s) (hpools : s'.pools = s.pools)
    (hallocated : s'.allocated = s.allocated) (f : ObjectId → ObjectId)
    (hf : ∀ o p c, s.Holds o p c → s'.Holds (f o) p c)
    (hback : ∀ o p c, s'.Holds o p c → ∃ o', f o' = o ∧ s.Holds o' p c) : Leases s' := by
  refine ⟨hpools ▸ h.nodup, hpools ▸ h.apart, ?_, hpools ▸ h.size, fun p c => ?_, ?_⟩
  · rw [hpools, hallocated]
    exact h.allocated
  · rw [hpools, h.used]
    constructor
    · rintro ⟨o, ho⟩
      exact ⟨f o, hf o p c ho⟩
    · rintro ⟨o, ho⟩
      obtain ⟨o', -, ho'⟩ := hback o p c ho
      exact ⟨o', ho'⟩
  · intro o o' p c ho ho'
    obtain ⟨x, rfl, hx⟩ := hback o p c ho
    obtain ⟨y, rfl, hy⟩ := hback o' p c ho'
    rw [h.unique x y p c hx hy]

/-- An object without a lease gets another state without one. -/
theorem setObject (h : Leases s) (ho : ∀ p c, ¬s.Holds o p c)
    (hstate : ∀ p c, state ≠ .live (some (p, c))) : Leases (s.setObject o state) := by
  refine h.rename rfl rfl id (fun x p c hx => ?_) fun x p c hx => ⟨x, rfl, ?_⟩
  · have hne : x ≠ o := fun heq => ho p c (heq ▸ hx)
    exact (holds_setObject_ne hne).mpr hx
  · by_cases hne : x = o
    · rw [hne, holds_setObject_self] at hx
      exact absurd hx (hstate p c)
    · exact (holds_setObject_ne hne).mp hx

/-- A lease passes to an object that has none. -/
theorem moveLease (h : Leases s) (ho : ∀ p c, ¬s.Holds o p c)
    (hother : s.objects other = .live lease) (hne : o ≠ other) :
    Leases (s.moveLease o other lease) := by
  have hself : ∀ p c, (s.moveLease o other lease).Holds o p c ↔ s.Holds other p c := by
    intro p c
    rw [PoolSystem.moveLease, holds_setObject_ne hne, holds_setObject_self, PoolSystem.Holds,
      hother]
  have hempty : ∀ p c, ¬(s.moveLease o other lease).Holds other p c := by
    intro p c
    rw [PoolSystem.moveLease, holds_setObject_self]
    exact nofun
  have hrest : ∀ x p c, x ≠ o → x ≠ other →
      ((s.moveLease o other lease).Holds x p c ↔ s.Holds x p c) := by
    intro x p c hx hx'
    rw [PoolSystem.moveLease, holds_setObject_ne hx', holds_setObject_ne hx]
  refine h.rename rfl rfl (fun x => if x = other then o else x) (fun x p c hx => ?_)
    fun x p c hx => ?_
  · split_ifs with hx'
    · exact (hself p c).mpr (hx' ▸ hx)
    · exact (hrest x p c (fun heq => ho p c (heq ▸ hx)) hx').mpr hx
  · by_cases hxo : x = o
    · exact ⟨other, by rw [if_pos rfl, hxo], (hself p c).mp (hxo ▸ hx)⟩
    · have hx' : x ≠ other := fun heq => hempty p c (heq ▸ hx)
      exact ⟨x, if_neg hx', (hrest x p c hxo hx').mp hx⟩

theorem releaseLease (h : Leases s) (ho : s.objects o = .live lease)
    (hstate : ∀ p c, state ≠ .live (some (p, c))) :
    Leases ((s.releaseLease lease).setObject o state) := by
  cases lease with
  | none =>
    refine h.setObject (fun p c hc => ?_) hstate
    rw [PoolSystem.Holds, ho] at hc
    cases hc
  | some lease =>
    obtain ⟨q, d⟩ := lease
    set s' := (s.releaseLease (some (q, d))).setObject o state
    have hmem : d ∈ (s.pools q).clients := h.mem_clients ho
    have hpools : s'.pools = Function.update s.pools q ((s.pools q).release d) := rfl
    have hclients : ∀ p, (s'.pools p).clients = (s.pools p).clients := by
      intro p
      rw [hpools]
      by_cases hp : p = q
      · rw [hp, Function.update_self, RedisConnectionPool.clients_release]
      · rw [Function.update_of_ne hp]
    have hheld : ∀ x p c, s'.Holds x p c ↔ x ≠ o ∧ s.Holds x p c := by
      intro x p c
      by_cases hx : x = o
      · refine iff_of_false (fun hc => ?_) fun hc => hc.1 hx
        rw [hx, holds_setObject_self] at hc
        exact hstate p c hc
      · rw [holds_setObject_ne hx]
        exact (and_iff_right hx).symm
    refine ⟨fun p => hclients p ▸ h.nodup p, fun p p' c hp hp' => ?_, fun p => ?_, fun p => ?_,
      fun p c => ?_, fun x x' p c hx hx' => ?_⟩
    · rw [hclients] at hp hp'
      exact h.apart p p' c hp hp'
    · rw [hclients]
      exact h.allocated p
    · have hlength : (s'.pools p).slots.length = (s.pools p).slots.length := by
        simpa [RedisConnectionPool.clients] using congrArg List.length (hclients p)
      have hmax : (s'.pools p).maxSize = (s.pools p).maxSize := by
        rw [hpools]
        by_cases hp : p = q
        · rw [hp, Function.update_self]
          rfl
        · rw [Function.update_of_ne hp]
      rw [hlength, hmax]
      exact h.size p
    · simp only [hheld]
      by_cases hp : p = q
      · subst hp
        rw [hpools, Function.update_self, RedisConnectionPool.inUse_release (h.nodup p) hmem,
          h.used]
        constructor
        · rintro ⟨hc, x, hx⟩
          refine ⟨x, fun hxo => hc ?_, hx⟩
          rw [PoolSystem.Holds, hxo, ho] at hx
          cases hx
          rfl
        · rintro ⟨x, hxo, hx⟩
          exact ⟨fun hc => hxo (h.unique x o p d (hc ▸ hx) ho), x, hx⟩
      · rw [hpools, Function.update_of_ne hp, h.used]
        refine exists_congr fun x => (and_iff_right_of_imp fun hx hxo => hp ?_).symm
        rw [PoolSystem.Holds, hxo, ho] at hx
        cases hx
        rfl
    · exact h.unique x x' p c ((hheld x p c).mp hx).2 ((hheld x' p c).mp hx').2

/-- A client that no other pool has is taken and passes to an object without a lease. -/
theorem take (h : Leases s) {pool' : RedisConnectionPool} {fresh d : ClientAddr}
    (ho : ∀ p c, ¬s.Holds o p c) (hfresh : fresh ∉ s.allocated)
    (htakes : (s.pools p).Takes d fresh pool') :
    Leases { s.setObject o (.live (some (p, d))) with
      pools := Function.update s.pools p pool'
      allocated := d :: s.allocated } := by
  set s' : PoolSystem := { s.setObject o (.live (some (p, d))) with
    pools := Function.update s.pools p pool'
    allocated := d :: s.allocated }
  have hidle : ∀ x, ¬s.Holds x p d := fun x hx => htakes.idle ((h.used p d).mpr ⟨x, hx⟩)
  have hself : s'.pools p = pool' := Function.update_self ..
  have hother : ∀ q, q ≠ p → s'.pools q = s.pools q := fun q hq => Function.update_of_ne hq ..
  have hheld : ∀ x q c, s'.Holds x q c ↔
      x = o ∧ q = p ∧ c = d ∨ x ≠ o ∧ s.Holds x q c := by
    intro x q c
    change (s.setObject o (.live (some (p, d)))).Holds x q c ↔ _
    by_cases hx : x = o
    · rw [hx, holds_setObject_self]
      simp only [ObjectState.live.injEq, Option.some.injEq, Prod.mk.injEq, true_and,
        ne_eq, not_true_eq_false, false_and, or_false]
      exact and_congr eq_comm eq_comm
    · rw [holds_setObject_ne hx]
      simp [hx]
  have hforeign : ∀ q, q ≠ p → d ∉ (s.pools q).clients := by
    intro q hq hmem
    rcases htakes.clients with ⟨-, hmem'⟩ | ⟨-, rfl, -⟩
    · exact hq (h.apart q p d hmem hmem')
    · exact hfresh (h.allocated q hmem)
  -- A client of the pool is an old one of it, or the one that was taken.
  have hapart : ∀ q c, q ≠ p → c ∈ (s.pools q).clients → c ∉ (s'.pools p).clients := by
    intro q c hq hmem hmem'
    rw [hself, htakes.mem_clients_iff] at hmem'
    rcases hmem' with hmem' | rfl
    · exact hq (h.apart q p c hmem hmem')
    · exact hforeign q hq hmem
  refine ⟨fun q => ?_, fun q q' c hq hq' => ?_, fun q => ?_, fun q => ?_, fun q c => ?_,
    fun x x' q c h₁ h₂ => ?_⟩
  · by_cases hq : q = p
    · rw [hq, hself]
      exact htakes.nodup_clients (h.nodup p) fun hmem => hfresh (h.allocated p hmem)
    · rw [hother q hq]
      exact h.nodup q
  · by_cases hqp : q = p
    · by_cases hqp' : q' = p
      · rw [hqp, hqp']
      · rw [hother q' hqp'] at hq'
        exact absurd (hqp ▸ hq) (hapart q' c hqp' hq')
    · rw [hother q hqp] at hq
      by_cases hqp' : q' = p
      · exact absurd (hqp' ▸ hq') (hapart q c hqp hq)
      · rw [hother q' hqp'] at hq'
        exact h.apart q q' c hq hq'
  · by_cases hq : q = p
    · rw [hq, hself]
      intro c hc
      rcases htakes.mem_clients_iff.mp hc with hc | rfl
      · exact List.mem_cons_of_mem _ (h.allocated p hc)
      · exact List.mem_cons_self
    · rw [hother q hq]
      exact fun c hc => List.mem_cons_of_mem _ (h.allocated q hc)
  · by_cases hq : q = p
    · rw [hq, hself]
      exact htakes.length_le (h.size p)
    · rw [hother q hq]
      exact h.size q
  · simp only [hheld]
    by_cases hq : q = p
    · rw [hq, hself, htakes.used, h.used]
      constructor
      · rintro (rfl | ⟨x, hx⟩)
        · exact ⟨o, .inl ⟨rfl, rfl, rfl⟩⟩
        · exact ⟨x, .inr ⟨fun hxo => ho p c (hxo ▸ hx), hx⟩⟩
      · rintro ⟨x, ⟨-, -, rfl⟩ | ⟨-, hx⟩⟩
        · exact .inl rfl
        · exact .inr ⟨x, hx⟩
    · rw [hother q hq, h.used]
      constructor
      · rintro ⟨x, hx⟩
        exact ⟨x, .inr ⟨fun hxo => ho q c (hxo ▸ hx), hx⟩⟩
      · rintro ⟨x, ⟨-, hqp, -⟩ | ⟨-, hx⟩⟩
        · exact absurd hqp hq
        · exact ⟨x, hx⟩
  · rcases (hheld x q c).mp h₁ with ⟨rfl, rfl, rfl⟩ | ⟨hxo, hx⟩
    · rcases (hheld x' q c).mp h₂ with ⟨rfl, -, -⟩ | ⟨-, hx'⟩
      · rfl
      · exact absurd hx' (hidle x')
    · rcases (hheld x' q c).mp h₂ with ⟨-, rfl, rfl⟩ | ⟨-, hx'⟩
      · exact absurd hx (hidle x)
      · exact h.unique x x' q c hx hx'

/-- A look gives a client that nobody holds, or changes nothing in the pool. -/
theorem look (h : Leases s) {io : PoolIo} {failed : ObjectState} (ho : ∀ p c, ¬s.Holds o p c)
    (hfailed : ∀ p c, failed ≠ .live (some (p, c))) (hs : s.look o p io failed = some s') :
    Leases s' := by
  unfold PoolSystem.look at hs
  split_ifs at hs with hfresh
  split at hs
  · rename_i d pool' htake
    obtain rfl := Option.some_inj.mp hs
    exact h.take ho hfresh (RedisConnectionPool.takes_of_take (h.nodup p)
      (fun hmem => hfresh (h.allocated p hmem)) htake)
  · obtain rfl := Option.some_inj.mp hs
    exact h.setObject ho hfailed

/-- An object that is not live holds nothing. -/
theorem not_holds {state : ObjectState} (ho : s.objects o = state)
    (hstate : ∀ p c, state ≠ .live (some (p, c))) (p : PoolId) (c : ClientAddr) :
    ¬s.Holds o p c := by
  rw [PoolSystem.Holds, ho]
  exact hstate p c

theorem step (h : Leases s) {a : PoolAction} (hs : s.step a = some s') : Leases s' := by
  cases a with
  | acquire o p =>
    simp only [PoolSystem.step] at hs
    split_ifs at hs with ho
    obtain rfl := Option.some_inj.mp hs
    exact h.setObject (not_holds ho nofun) nofun
  | look o io =>
    simp only [PoolSystem.step] at hs
    split at hs
    · rename_i p ho
      exact h.look (not_holds ho nofun) (by rintro _ _ ⟨⟩) hs
    · cases hs
  | wake o =>
    simp only [PoolSystem.step] at hs
    split at hs
    · rename_i p ho
      obtain rfl := Option.some_inj.mp hs
      exact h.setObject (not_holds ho nofun) nofun
    · cases hs
  | timeout o =>
    simp only [PoolSystem.step] at hs
    split at hs
    · rename_i p ho
      obtain rfl := Option.some_inj.mp hs
      exact h.setObject (not_holds ho nofun) nofun
    · cases hs
  | tryAcquire o p io =>
    simp only [PoolSystem.step] at hs
    split_ifs at hs with ho
    exact h.look (not_holds ho nofun) (by rintro _ _ ⟨⟩) hs
  | moveConstruct o other =>
    simp only [PoolSystem.step] at hs
    split at hs
    · rename_i lease ho hother
      obtain rfl := Option.some_inj.mp hs
      refine h.moveLease (not_holds ho nofun) hother ?_
      rintro rfl
      cases ho.symm.trans hother
    · cases hs
  | moveAssign o other =>
    simp only [PoolSystem.step] at hs
    split at hs
    · rename_i own lease ho hother
      split_ifs at hs
      · exact Option.some_inj.mp hs ▸ h
      · exact Option.some_inj.mp hs ▸ h.releaseLease ho nofun
    · cases hs
  | takeOver o =>
    simp only [PoolSystem.step] at hs
    split at hs
    · rename_i other ho
      split at hs
      · rename_i lease hother
        obtain rfl := Option.some_inj.mp hs
        refine h.moveLease (not_holds ho nofun) hother ?_
        rintro rfl
        cases ho.symm.trans hother
      · cases hs
    · cases hs
  | destroy o =>
    simp only [PoolSystem.step] at hs
    split at hs
    · rename_i lease ho
      exact Option.some_inj.mp hs ▸ h.releaseLease ho nofun
    · cases hs

end Leases

theorem leases_of_reaches {s : PoolSystem} (h : PoolSystem.Reaches s) : Leases s := by
  refine h.invariant ?_ fun _ _ _ hs _ hstep => hs.step hstep
  rintro _ ⟨maxSize, rfl⟩
  refine ⟨fun p => List.nodup_nil, nofun, fun p => List.nil_subset _, fun p => Nat.zero_le _,
    fun p c => iff_of_false nofun ?_, nofun⟩
  rintro ⟨o, ⟨⟩⟩

/-- In every state no client is held by two live objects, a slot is in use exactly when a live
object holds its client, and no pool has more than `maxSize` slots. -/
theorem leases_exclusive {s : PoolSystem} (h : PoolSystem.Reaches s) :
    (∀ o o' p p' c, s.Holds o p c → s.Holds o' p' c → o = o') ∧
    (∀ p, ∀ slot ∈ (s.pools p).slots, slot.inUse ↔ ∃ o, s.Holds o p slot.client) ∧
    ∀ p, (s.pools p).slots.length ≤ (s.pools p).maxSize := by
  have hl := leases_of_reaches h
  refine ⟨fun o o' p p' c ho ho' => ?_, fun p slot hslot => ?_, hl.size⟩
  · obtain rfl := hl.apart p p' c (hl.mem_clients ho) (hl.mem_clients ho')
    exact hl.unique o o' p c ho ho'
  · obtain ⟨before, after, hsplit⟩ := List.append_of_mem hslot
    rw [← hl.used, inUse_split hsplit (hl.nodup p), if_pos rfl]

/-- Redis answers, and the next client is allocated at `fresh`. -/
def PoolIo.up (fresh : ClientAddr) : PoolIo where
  isConnected _ := true
  reconnect _ := true
  fresh := fresh

/-- A lease is assigned over another one; the client given back is taken before the
assignment ends. -/
def overwriteLease : List PoolAction :=
  [.tryAcquire 0 0 (.up 7), .tryAcquire 1 0 (.up 8), .moveAssign 0 1, .acquire 2 0,
   .look 2 (.up 9), .takeOver 0]

theorem leases_exclusive_overwriteLease : ∃ s, PoolSystem.Reaches s ∧
    (s.Holds 0 0 8 ∧ s.Holds 2 0 7) ∧
    (∀ o o' p p' c, s.Holds o p c → s.Holds o' p' c → o = o') ∧
    (∀ p, ∀ slot ∈ (s.pools p).slots, slot.inUse ↔ ∃ o, s.Holds o p slot.client) ∧
    ∀ p, (s.pools p).slots.length ≤ (s.pools p).maxSize := by
  have hinit : PoolSystem.Reaches { pools := fun _ => ⟨2, []⟩ } := .init ⟨fun _ => 2, rfl⟩
  obtain ⟨s, hs, hheld⟩ := hinit.exists_runWith overwriteLease
    (P := fun s : PoolSystem => s.Holds 0 0 8 ∧ s.Holds 2 0 7) (by decide)
  exact ⟨s, hs, hheld, leases_exclusive hs⟩

end BoostGateway.Persistence
