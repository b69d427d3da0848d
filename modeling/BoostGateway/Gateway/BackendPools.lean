import BoostGateway.Gateway.Backends

/-!
# The connections to the backends

`GatewayServiceBridge::ensure_connection` (`gateway_service_bridge.cpp`). A call resolves its
backend, looks for an open connection in the pool of the backend, and where there is none connects
and puts the new connection into the pool. The mutex is held in the second and the last of these
sections only, so the sections of several calls interleave, with each other and with
`update_backend_config`, `shutdown` and whatever else happens to the cluster router. A connection
can be closed at any time by another call that has it. The old service registry, which
`ensure_connection` only tells of its outcome, is left out.

A pool of the cluster is kept under the name of a node, not under its address. So a call gets a
connection to a node that was registered under the name (`addresses`), and to the address it
resolved when the name has one address only.

A connection that cannot be made marks its node unhealthy. Unless something brings nodes back,
calls that are made one after the other fail once per node (`failover`), until the static
configuration is left.
-/

namespace BoostGateway.Gateway

open Router Service

/-! ## A pool -/

/-- A connection of a pool, with the address it was made to. -/
structure PoolEntry where
  host : String
  port : UInt16
  connected : Bool := true
  deriving DecidableEq

/-- A pool with its next index. -/
structure ConnectionPool where
  connections : List PoolEntry := []
  next : ℕ := 0

/-- `backend_connection_pool_size`, of the number in the environment variable. -/
def backendConnectionPoolSize (parsed : ℕ) : ℕ := if 0 < parsed then parsed else 1

namespace ConnectionPool

variable (p : ConnectionPool)

/-- The first open connection from the next index on. -/
def findConnected : Option ℕ :=
  ((List.range p.connections.length).map fun attempt =>
    (p.next + attempt) % p.connections.length).find? fun index =>
      p.connections[index]?.any PoolEntry.connected

/-- The connection at an index is closed. -/
def close (index : ℕ) : ConnectionPool :=
  { p with connections := p.connections.modify index fun conn => { conn with connected := false } }

/-- The look for an open connection. `ensure_connection` tests the one it finds once more, and by
then it may be closed. -/
def take (closed : Bool) : ConnectionPool × Option PoolEntry :=
  p.findConnected.elim (p, none) fun index =>
    let p := { p with next := (index + 1) % p.connections.length }
    if closed then (p.close index, none) else (p, p.connections[index]?)

/-- A new connection is put in, in place of another one when the pool is full. -/
def store (poolSize : ℕ) (conn : PoolEntry) : ConnectionPool :=
  if p.connections.length < poolSize then
    { connections := p.connections ++ [conn], next := p.next % (p.connections.length + 1) }
  else
    { connections := p.connections.set (p.next % p.connections.length) conn
      next := (p.next + 1) % p.connections.length }

end ConnectionPool

/-! ## Calls -/

/-- What is left of a call to do. -/
inductive CallStage
  | resolved
  | connecting
  | opened
  /-- It has returned, with `nullptr` for `none`. -/
  | returned (conn : Option PoolEntry)

/-- A call of `ensure_connection`. -/
structure EnsureCall where
  service : ServiceId
  target : ResolvedBackend
  stage : CallStage := .resolved

/-- The pool of a call : that of its connection key, or the static one. -/
def EnsureCall.poolKey (c : EnsureCall) : Option String :=
  if c.target.fromCluster then some c.target.connectionKey else none

/-- The connections of the bridge. The static pool of a slot stands under `none`. -/
structure Backends where
  sources : BackendSources := {}
  routing : Option Routing := none
  pools : ServiceId → Option String → ConnectionPool := fun _ _ => {}
  calls : List EnsureCall := []
  /-- Every node that was registered, with its service. -/
  known : List (String × NodeId) := []
  /-- Every configuration a slot has had. -/
  configured : List (ServiceId × BackendConfig) := []
  /-- Every node to which a connection could not be made, with its service. -/
  failed : List (String × NodeId) := []

/-- The sections of the calls. -/
inductive BackendAction
  | resolve (service : ServiceId) (shardKey : Bytes)
  /-- With whether another call closes the connection that is found. -/
  | lookup (call : ℕ) (closed : Bool)
  | connect (call : ℕ) (connected : Bool)
  | store (call : ℕ)
  /-- A connection is closed by a call that has it. -/
  | close (slot : ServiceId) (key : Option String) (index : ℕ)
  | updateBackendConfig (service : ServiceId) (config : Option BackendConfig)
  | shutdown
  | route (a : RouterAction)

namespace Backends

variable (s : Backends)

def setPool (slot : ServiceId) (key : Option String) (p : ConnectionPool) : Backends :=
  { s with pools := Function.update s.pools slot (Function.update (s.pools slot) key p) }

def setStage (call : ℕ) (stage : CallStage) : Backends :=
  { s with calls := s.calls.modify call fun c => { c with stage } }

def setRouter (router : Option ClusterRouter) : Backends :=
  { s with
    routing := s.routing.bind fun routing => router.map fun router => { routing with router } }

def resolve (service : ServiceId) (shardKey : Bytes) : Backends :=
  let (router, target) :=
    s.sources.resolveBackend (s.routing.map Routing.router) service shardKey
  { s.setRouter router with
    calls := s.calls ++ (target.map fun target => { service, target }).toList }

def lookup (call : ℕ) (c : EnsureCall) (closed : Bool) : Backends :=
  let slot := ServiceBridge.slotFor c.service
  let (pool, conn) := (s.pools slot c.poolKey).take closed
  (s.setPool slot c.poolKey pool).setStage call
    (conn.elim .connecting fun conn => .returned (some conn))

/-- A node of the cluster that does not answer is marked. -/
def connect (call : ℕ) (c : EnsureCall) (connected : Bool) : Backends :=
  if connected then s.setStage call .opened
  else
    let name := serviceNameFor c.service
    let node := if c.target.fromCluster then c.target.node else none
    let router := s.routing.map fun routing =>
      node.elim routing.router (routing.router.markUnhealthy name)
    { (s.setRouter router).setStage call (.returned none) with
      failed := s.failed ++ (node.map fun node => (name, node)).toList }

def storeConnection (poolSize call : ℕ) (c : EnsureCall) : Backends :=
  let slot := ServiceBridge.slotFor c.service
  let conn : PoolEntry := { host := c.target.config.host, port := c.target.config.port }
  (s.setPool slot c.poolKey ((s.pools slot c.poolKey).store poolSize conn)).setStage call
    (.returned (some conn))

def updateBackendConfig (service : ServiceId) (config : Option BackendConfig) : Backends :=
  let slot := ServiceBridge.slotFor service
  { s with
    sources := { s.sources with configs := Function.update s.sources.configs slot config }
    pools := Function.update s.pools slot fun _ => {}
    configured := s.configured ++ (config.map fun config => (slot, config)).toList }

/-- What the cluster router is told of nodes. -/
def registeredNode : RouterAction → List (String × NodeId)
  | .registerService inst => [(inst.serviceName, inst.node)]
  | _ => []

def step (poolSize : ℕ) (s : Backends) : BackendAction → Option Backends
  | .resolve service shardKey => some (s.resolve service shardKey)
  | .lookup call closed =>
    s.calls[call]?.bind fun c =>
      if c.stage matches .resolved then some (s.lookup call c closed) else none
  | .connect call connected =>
    s.calls[call]?.bind fun c =>
      if c.stage matches .connecting then some (s.connect call c connected) else none
  | .store call =>
    s.calls[call]?.bind fun c =>
      if c.stage matches .opened then some (s.storeConnection poolSize call c) else none
  | .close slot key index => some (s.setPool slot key ((s.pools slot key).close index))
  | .updateBackendConfig service config => some (s.updateBackendConfig service config)
  | .shutdown => some { s with pools := fun _ _ => {} }
  | .route a =>
    s.routing.bind fun routing => (routing.step a).map fun routing =>
      { s with routing := some routing, known := s.known ++ registeredNode a }

end Backends

/-! ## What a pool holds -/

namespace ConnectionPool

variable {p p' : ConnectionPool} {conn conn' : PoolEntry} {poolSize index : ℕ} {closed : Bool}

/-- A pool within its size, and an index within the pool. -/
structure Within (poolSize : ℕ) (p : ConnectionPool) : Prop where
  length_le : p.connections.length ≤ poolSize
  next_lt : p.next < max 1 p.connections.length

/-- The connections of a pool lead where `P` says. -/
def Leads (P : String → UInt16 → Prop) (p : ConnectionPool) : Prop :=
  ∀ conn ∈ p.connections, P conn.host conn.port

theorem within_empty : Within poolSize {} := ⟨Nat.zero_le _, by decide⟩

variable {P : String → UInt16 → Prop}

theorem leads_empty : Leads P {} := fun _ h =>
  absurd h List.not_mem_nil

theorem Leads.mono {Q : String → UInt16 → Prop} (h : p.Leads P)
    (hPQ : ∀ host port, P host port → Q host port) : p.Leads Q := fun conn hconn =>
  hPQ _ _ (h conn hconn)

theorem Within.close (h : p.Within poolSize) : (p.close index).Within poolSize := by
  constructor
  · rw [ConnectionPool.close, List.length_modify]
    exact h.length_le
  · rw [ConnectionPool.close, List.length_modify]
    exact h.next_lt

theorem Leads.close (h : p.Leads P) : (p.close index).Leads P := by
  intro conn hconn
  obtain ⟨i, hi⟩ := List.mem_iff_getElem?.mp hconn
  rw [ConnectionPool.close, List.getElem?_modify] at hi
  obtain ⟨old, hold, rfl⟩ := Option.map_eq_some_iff.mp hi
  have hleads := h old (List.mem_of_getElem? hold)
  split_ifs <;> exact hleads

theorem connections_take (h : p.findConnected = none) : p.take closed = (p, none) := by
  rw [take, h]
  rfl

/-- The look for a connection finds one that is open, or changes nothing but the next index and
a connection that is closed meanwhile. -/
theorem take_cases (p : ConnectionPool) (closed : Bool) :
    p.take closed = (p, none) ∨ ∃ index < p.connections.length,
      p.connections[index]?.any PoolEntry.connected ∧ p.take closed =
        if closed then ({ p with next := (index + 1) % p.connections.length }.close index, none)
        else ({ p with next := (index + 1) % p.connections.length }, p.connections[index]?) := by
  cases hfind : p.findConnected with
  | none => exact .inl (connections_take hfind)
  | some index =>
    refine .inr ⟨index, ?_, (List.find?_some hfind :), ?_⟩
    · obtain ⟨attempt, hattempt, rfl⟩ := List.mem_map.mp (List.mem_of_find?_eq_some hfind)
      exact Nat.mod_lt _ (Nat.zero_lt_of_lt (List.mem_range.mp hattempt))
    · rw [take, hfind]
      rfl

theorem Within.take (h : p.Within poolSize) : (p.take closed).1.Within poolSize := by
  rcases p.take_cases closed with heq | ⟨index, hindex, -, heq⟩
  · rw [heq]
    exact h
  · have hnext : Within poolSize { p with next := (index + 1) % p.connections.length } :=
      ⟨h.length_le, lt_max_of_lt_right (Nat.mod_lt _ (Nat.zero_lt_of_lt hindex))⟩
    rw [heq]
    split_ifs
    · exact hnext.close
    · exact hnext

theorem Leads.take (h : p.Leads P) : (p.take closed).1.Leads P := by
  rcases p.take_cases closed with heq | ⟨index, -, -, heq⟩
  · rw [heq]
    exact h
  · rw [heq]
    split_ifs
    · exact Leads.close h
    · exact h

theorem mem_of_take (h : (p.take closed).2 = some conn) : conn ∈ p.connections := by
  rcases p.take_cases closed with heq | ⟨index, -, -, heq⟩
  · rw [heq] at h
    cases h
  · rw [heq] at h
    split_ifs at h
    exact List.mem_of_getElem? h

theorem Within.store (h : p.Within poolSize) (hsize : 0 < poolSize) :
    (p.store poolSize conn).Within poolSize := by
  rw [ConnectionPool.store]
  split_ifs with hroom
  · refine ⟨?_, lt_max_of_lt_right ?_⟩
    · rw [List.length_append, List.length_singleton]
      omega
    · rw [List.length_append, List.length_singleton]
      exact Nat.mod_lt _ (by omega)
  · refine ⟨?_, lt_max_of_lt_right ?_⟩
    · rw [List.length_set]
      exact h.length_le
    · rw [List.length_set]
      exact Nat.mod_lt _ (by omega)

theorem Leads.store (h : p.Leads P) (hconn : P conn.host conn.port) :
    (p.store poolSize conn).Leads P := by
  intro conn' hmem
  rw [ConnectionPool.store] at hmem
  split_ifs at hmem
  · rcases List.mem_append.mp hmem with hold | hnew
    · exact h conn' hold
    · exact List.mem_singleton.mp hnew ▸ hconn
  · rcases List.mem_or_eq_of_mem_set hmem with hold | rfl
    · exact h conn' hold
    · exact hconn

end ConnectionPool

/-! ## The nodes of the cluster -/

/-- The instances of a router are nodes of the list. -/
def NodesKnown (known : List (String × NodeId)) (r : ClusterRouter) : Prop :=
  ∀ service, ∀ inst ∈ r.instances service, (service, inst.node) ∈ known

section Nodes

variable {known : List (String × NodeId)} {r : ClusterRouter} {service node : String}

theorem mem_updateFirst {f : ServiceInstance → ServiceInstance} {l : List ServiceInstance}
    {inst : ServiceInstance} (h : inst ∈ updateFirst node f l) :
    inst ∈ l ∨ ∃ old ∈ l, inst = f old := by
  induction l with
  | nil => exact .inl h
  | cons x l ih =>
    rw [updateFirst] at h
    split_ifs at h
    · rcases List.mem_cons.mp h with rfl | hmem
      · exact .inr ⟨x, List.mem_cons_self, rfl⟩
      · exact .inl (List.mem_cons_of_mem _ hmem)
    · rcases List.mem_cons.mp h with rfl | hmem
      · exact .inl List.mem_cons_self
      · rcases ih hmem with hold | ⟨old, hold, heq⟩
        · exact .inl (List.mem_cons_of_mem _ hold)
        · exact .inr ⟨old, List.mem_cons_of_mem _ hold, heq⟩

theorem NodesKnown.modifyInstance {f : ServiceInstance → ServiceInstance}
    (h : NodesKnown known r) (hf : ∀ inst, (f inst).node = inst.node) :
    NodesKnown known (r.modifyInstance service node f) := by
  intro s inst hinst
  rw [ClusterRouter.instances_modifyInstance] at hinst
  split_ifs at hinst
  · rcases mem_updateFirst hinst with hold | ⟨old, hold, rfl⟩
    · exact h s inst hold
    · rw [hf]
      exact h s old hold
  · exact h s inst hinst

theorem NodesKnown.registerService {inst : ServiceInstance} (h : NodesKnown known r) (now : ℕ)
    (hknown : (inst.serviceName, inst.node) ∈ known) :
    NodesKnown known (r.registerService inst now) := by
  intro s x hx
  rw [ClusterRouter.instances_registerService] at hx
  split_ifs at hx with hs
  · rcases mem_updateFirst hx with hold | ⟨old, -, rfl⟩
    · exact h s x hold
    · exact hs ▸ hknown
  · rcases List.mem_append.mp hx with hold | hnew
    · exact h s x hold
    · rw [List.mem_singleton.mp hnew, hs]
      exact hknown
  · exact h s x hx

theorem NodesKnown.deregisterService (h : NodesKnown known r) (node : NodeId) :
    NodesKnown known (r.deregisterService service node) := by
  intro s inst hinst
  rw [ClusterRouter.instances_deregisterService] at hinst
  split_ifs at hinst
  · exact h s inst (List.mem_of_mem_filter hinst)
  · exact h s inst hinst

theorem NodesKnown.checkInstance (h : NodesKnown known r) (alive : Bool) (now : ℕ) :
    NodesKnown known (r.checkInstance service node alive now) := by
  unfold ClusterRouter.checkInstance
  cases r.findInstance service node with
  | none => exact h
  | some inst =>
    dsimp only
    split_ifs
    · exact h.modifyInstance fun _ => rfl
    · exact h
    · obtain ⟨f, hf, heq⟩ := ClusterRouter.instances_checked r service inst alive now
      intro s x hx
      exact h.modifyInstance hf s x (heq s ▸ hx)

theorem NodesKnown.runHealthChecks (h : NodesKnown known r) (alive : String → String → Bool)
    (now : ℕ) (vs : List (String × String)) : NodesKnown known
      (vs.foldl (fun r v => r.checkInstance v.1 v.2 (alive v.1 v.2) now) r) := by
  induction vs generalizing r with
  | nil => exact h
  | cons v vs ih => exact ih (h.checkInstance _ now)

theorem NodesKnown.step {s s' : Routing} {a : RouterAction} (h : NodesKnown known s.router)
    (hs : s.step a = some s') :
    NodesKnown (known ++ Backends.registeredNode a) s'.router := by
  have hgrown : NodesKnown (known ++ Backends.registeredNode a) s.router :=
    fun service inst hinst => List.mem_append_left _ (h service inst hinst)
  cases a with
  | runHealthChecks order alive =>
    simp only [Routing.step] at hs
    split_ifs at hs
    obtain rfl := Option.some_inj.mp hs
    exact hgrown.runHealthChecks alive s.now _
  | registerService inst =>
    obtain rfl := Option.some_inj.mp hs
    exact hgrown.registerService s.now (List.mem_append_right _ (List.mem_singleton.mpr rfl))
  | deregisterService service node =>
    obtain rfl := Option.some_inj.mp hs
    exact hgrown.deregisterService node
  | discover service =>
    obtain rfl := Option.some_inj.mp hs
    exact fun s inst hinst => hgrown s inst (ClusterRouter.instances_discover ▸ hinst)
  | markHealthy | markUnhealthy | startDrain =>
    obtain rfl := Option.some_inj.mp hs
    exact hgrown.modifyInstance fun _ => rfl
  | advance =>
    obtain rfl := Option.some_inj.mp hs
    exact hgrown

end Nodes

/-! ## Where the connections lead -/

theorem serviceNameFor_slotFor (service : ServiceId) :
    serviceNameFor (ServiceBridge.slotFor service) = serviceNameFor service := by
  cases service <;> rfl

namespace Backends

/-- An address under which the connections of a pool may have been made : that of a node which
was registered with this connection key, or a configuration of the slot. -/
def AddressOf (s : Backends) (slot : ServiceId) (key : Option String) (host : String)
    (port : UInt16) : Prop :=
  key.elim (∃ config, (slot, config) ∈ s.configured ∧ config.host = host ∧ config.port = port)
    fun key => ∃ node, (serviceNameFor slot, node) ∈ s.known ∧ connectionKeyFor node = key ∧
      node.host = host ∧ node.port = port

/-- What holds of pools and calls. -/
structure Inv (poolSize : ℕ) (s : Backends) : Prop where
  registered : ∀ routing, s.routing = some routing → NodesKnown s.known routing.router
  configs : ∀ slot config, s.sources.configs slot = some config → (slot, config) ∈ s.configured
  within : ∀ slot key, (s.pools slot key).Within poolSize
  leads : ∀ slot key, (s.pools slot key).Leads (s.AddressOf slot key)
  resolved : ∀ c ∈ s.calls, s.AddressOf (ServiceBridge.slotFor c.service) c.poolKey
    c.target.config.host c.target.config.port
  returned : ∀ c ∈ s.calls, ∀ conn, c.stage = .returned (some conn) →
    s.AddressOf (ServiceBridge.slotFor c.service) c.poolKey conn.host conn.port

variable {poolSize : ℕ} {s s' : Backends} {slot : ServiceId} {key : Option String}
  {host : String} {port : UInt16}

theorem AddressOf.mono (h : s.AddressOf slot key host port) (hknown : s.known ⊆ s'.known)
    (hconfigured : s.configured ⊆ s'.configured) : s'.AddressOf slot key host port := by
  cases key with
  | none =>
    obtain ⟨config, hmem, haddr⟩ := h
    exact ⟨config, hconfigured hmem, haddr⟩
  | some key =>
    obtain ⟨node, hmem, haddr⟩ := h
    exact ⟨node, hknown hmem, haddr⟩

/-- A backend that is resolved has an address of its pool. -/
theorem addressOf_resolveBackend {sources : BackendSources} {routing : Option Routing}
    {service : ServiceId} {shardKey : Bytes} {t : ResolvedBackend}
    (hknown : ∀ rt, routing = some rt → NodesKnown s.known rt.router)
    (hconfigs : ∀ slot config, sources.configs slot = some config → (slot, config) ∈ s.configured)
    (h : (sources.resolveBackend (routing.map Routing.router) service shardKey).2 = some t) :
    s.AddressOf (ServiceBridge.slotFor service) ({ service, target := t } : EnsureCall).poolKey
      t.config.host t.config.port := by
  have hstatic : sources.staticBackend service = some t →
      s.AddressOf (ServiceBridge.slotFor service) ({ service, target := t } : EnsureCall).poolKey
        t.config.host t.config.port := by
    intro hstatic
    obtain ⟨config, hconfig, rfl⟩ := Option.map_eq_some_iff.mp hstatic
    exact ⟨config, hconfigs _ _ hconfig, rfl, rfl⟩
  unfold BackendSources.resolveBackend at h
  split_ifs at h
  cases hrouting : routing with
  | none =>
    rw [hrouting] at h
    exact hstatic h
  | some rt =>
    rw [hrouting] at h
    change ((sources.chooseNode rt.router service shardKey).2.map
      BackendSources.clusterBackend).or (sources.staticBackend service) = some t at h
    rcases Option.or_eq_some_iff.mp h with hc | ⟨-, hs⟩
    · obtain ⟨node, hnode, rfl⟩ := Option.map_eq_some_iff.mp hc
      obtain ⟨inst, hinst, rfl⟩ := BackendSources.exists_mem_of_chooseNode hnode
      refine ⟨inst.node, ?_, rfl, rfl, rfl⟩
      rw [serviceNameFor_slotFor]
      exact hknown rt hrouting _ inst (List.mem_of_mem_filter hinst)
    · exact hstatic hs

/-! ### What a section of a call changes -/

theorem mem_setStage {i : ℕ} {stage : CallStage} {c : EnsureCall}
    (h : c ∈ (s.setStage i stage).calls) : c ∈ s.calls ∨
      ∃ old ∈ s.calls, s.calls[i]? = some old ∧ c = { old with stage } := by
  obtain ⟨j, hj⟩ := List.mem_iff_getElem?.mp h
  rw [setStage, List.getElem?_modify] at hj
  obtain ⟨old, hold, rfl⟩ := Option.map_eq_some_iff.mp hj
  split_ifs with hij
  · exact .inr ⟨old, List.mem_of_getElem? hold, hij ▸ hold, rfl⟩
  · exact .inl (List.mem_of_getElem? hold)

theorem Inv.setStage {i : ℕ} {stage : CallStage} {c : EnsureCall} (h : s.Inv poolSize)
    (hc : s.calls[i]? = some c) (hstage : ∀ conn, stage = .returned (some conn) →
      s.AddressOf (ServiceBridge.slotFor c.service) c.poolKey conn.host conn.port) :
    (s.setStage i stage).Inv poolSize where
  __ := h
  resolved c' hc' := by
    rcases mem_setStage hc' with hold | ⟨old, hold, -, rfl⟩
    · exact h.resolved c' hold
    · exact h.resolved old hold
  returned c' hc' conn hconn := by
    rcases mem_setStage hc' with hold | ⟨old, -, hi, rfl⟩
    · exact h.returned c' hold conn hconn
    · obtain rfl : c = old := Option.some.inj (hc.symm.trans hi)
      exact hstage conn hconn

theorem pools_setPool {p : ConnectionPool} {slot' : ServiceId} {key' : Option String} :
    (s.setPool slot key p).pools slot' key' =
      if slot' = slot ∧ key' = key then p else s.pools slot' key' := by
  rw [setPool]
  by_cases hslot : slot' = slot
  · subst hslot
    by_cases hkey : key' = key <;> simp [hkey]
  · simp [hslot]

theorem Inv.setPool {p : ConnectionPool} (h : s.Inv poolSize) (hwithin : p.Within poolSize)
    (hleads : p.Leads (s.AddressOf slot key)) : (s.setPool slot key p).Inv poolSize where
  __ := h
  within slot' key' := by
    rw [pools_setPool]
    split_ifs
    · exact hwithin
    · exact h.within slot' key'
  leads slot' key' := by
    rw [pools_setPool]
    split_ifs with heq
    · rw [heq.1, heq.2]
      exact hleads
    · exact h.leads slot' key'

/-- The router changes, and its nodes are still known. -/
theorem Inv.setRouter {router : Option ClusterRouter} (h : s.Inv poolSize)
    (hrouter : ∀ r, router = some r → NodesKnown s.known r) : (s.setRouter router).Inv poolSize where
  __ := h
  registered routing hrouting := by
    obtain ⟨rt, -, hrt⟩ := Option.bind_eq_some_iff.mp hrouting
    obtain ⟨r, hr, rfl⟩ := Option.map_eq_some_iff.mp hrt
    exact hrouter r hr

theorem nodesKnown_resolveBackend {sources : BackendSources} {router : Option ClusterRouter}
    {known : List (String × NodeId)} {service : ServiceId} {shardKey : Bytes}
    (h : ∀ r, router = some r → NodesKnown known r) (r : ClusterRouter)
    (hr : (sources.resolveBackend router service shardKey).1 = some r) : NodesKnown known r := by
  unfold BackendSources.resolveBackend at hr
  split_ifs at hr
  · exact h r hr
  · cases hrouter : router with
    | none =>
      rw [hrouter] at hr
      cases hr
    | some old =>
      rw [hrouter] at hr
      change some (sources.chooseNode old service shardKey).1 = some r at hr
      intro s inst hinst
      rw [← Option.some.inj hr, BackendSources.instances_chooseNode] at hinst
      exact h old hrouter s inst hinst

theorem Inv.resolve (h : s.Inv poolSize) (service : ServiceId) (shardKey : Bytes) :
    (s.resolve service shardKey).Inv poolSize := by
  have hknown : ∀ r, s.routing.map Routing.router = some r → NodesKnown s.known r := by
    intro r hr
    obtain ⟨rt, hrt, rfl⟩ := Option.map_eq_some_iff.mp hr
    exact h.registered rt hrt
  have hrouter := h.setRouter (@nodesKnown_resolveBackend s.sources _ _ service shardKey hknown)
  have hcases : ∀ c ∈ (s.resolve service shardKey).calls, c ∈ s.calls ∨
      ∃ t, (s.sources.resolveBackend (s.routing.map Routing.router) service shardKey).2 =
        some t ∧ c = { service, target := t } := by
    intro c hc
    rcases List.mem_append.mp hc with hold | hnew
    · exact .inl hold
    · obtain ⟨t, ht, rfl⟩ := Option.map_eq_some_iff.mp (Option.mem_toList.mp hnew)
      exact .inr ⟨t, ht, rfl⟩
  refine ⟨hrouter.registered, h.configs, h.within, h.leads, ?_, ?_⟩
  · intro c hc
    rcases hcases c hc with hold | ⟨t, ht, rfl⟩
    · exact h.resolved c hold
    · exact addressOf_resolveBackend h.registered h.configs ht
  · intro c hc conn hconn
    rcases hcases c hc with hold | ⟨t, -, rfl⟩
    · exact h.returned c hold conn hconn
    · cases hconn

theorem Inv.lookup {i : ℕ} {c : EnsureCall} {closed : Bool} (h : s.Inv poolSize)
    (hc : s.calls[i]? = some c) : (s.lookup i c closed).Inv poolSize := by
  have hleads := h.leads (ServiceBridge.slotFor c.service) c.poolKey
  refine (h.setPool (h.within _ _).take hleads.take).setStage hc fun conn hconn => ?_
  change ((s.pools (ServiceBridge.slotFor c.service) c.poolKey).take closed).2.elim
    CallStage.connecting (fun conn => .returned (some conn)) = .returned (some conn) at hconn
  cases htake : ((s.pools (ServiceBridge.slotFor c.service) c.poolKey).take closed).2 with
  | none =>
    rw [htake] at hconn
    cases hconn
  | some found =>
    rw [htake] at hconn
    obtain rfl : found = conn := by simpa using hconn
    exact hleads found (ConnectionPool.mem_of_take htake)

theorem Inv.connect {i : ℕ} {c : EnsureCall} {connected : Bool} (h : s.Inv poolSize)
    (hc : s.calls[i]? = some c) : (s.connect i c connected).Inv poolSize := by
  cases connected with
  | true => exact h.setStage hc fun conn hconn => by cases hconn
  | false =>
    have hinv : ((s.setRouter (s.routing.map fun routing =>
        (if c.target.fromCluster then c.target.node else none).elim routing.router
          (routing.router.markUnhealthy (serviceNameFor c.service)))).setStage i
        (.returned none)).Inv poolSize := by
      refine (h.setRouter fun r hr => ?_).setStage hc fun conn hconn => by cases hconn
      obtain ⟨rt, hrt, rfl⟩ := Option.map_eq_some_iff.mp hr
      cases (if c.target.fromCluster then c.target.node else none) with
      | none => exact h.registered rt hrt
      | some node => exact (h.registered rt hrt).modifyInstance fun _ => rfl
    exact ⟨hinv.registered, hinv.configs, hinv.within, hinv.leads, hinv.resolved, hinv.returned⟩

theorem Inv.storeConnection {i : ℕ} {c : EnsureCall} (h : s.Inv poolSize) (hsize : 0 < poolSize)
    (hc : s.calls[i]? = some c) : (s.storeConnection poolSize i c).Inv poolSize := by
  have hresolved := h.resolved c (List.mem_of_getElem? hc)
  refine (h.setPool ((h.within _ _).store hsize)
    ((h.leads _ _).store hresolved)).setStage hc fun conn hconn => ?_
  obtain rfl : PoolEntry.mk c.target.config.host c.target.config.port true = conn := by
    simpa using hconn
  exact hresolved

/-- More nodes and configurations are known, and some pools are given up. -/
theorem Inv.grow (h : s.Inv poolSize) (hcalls : s'.calls = s.calls)
    (hpools : ∀ slot key, s'.pools slot key = s.pools slot key ∨ s'.pools slot key = {})
    (hknown : s.known ⊆ s'.known) (hconfigured : s.configured ⊆ s'.configured)
    (hregistered : ∀ routing, s'.routing = some routing → NodesKnown s'.known routing.router)
    (hconfigs : ∀ slot config, s'.sources.configs slot = some config →
      (slot, config) ∈ s'.configured) : s'.Inv poolSize where
  registered := hregistered
  configs := hconfigs
  within slot key := by
    rcases hpools slot key with heq | heq
    · exact heq ▸ h.within slot key
    · exact heq ▸ ConnectionPool.within_empty
  leads slot key := by
    rcases hpools slot key with heq | heq
    · exact heq ▸ (h.leads slot key).mono fun _ _ haddr => haddr.mono hknown hconfigured
    · exact heq ▸ ConnectionPool.leads_empty
  resolved c hc := (h.resolved c (hcalls ▸ hc)).mono hknown hconfigured
  returned c hc conn hconn := (h.returned c (hcalls ▸ hc) conn hconn).mono hknown hconfigured

theorem Inv.updateBackendConfig (h : s.Inv poolSize) (service : ServiceId)
    (config : Option BackendConfig) : (s.updateBackendConfig service config).Inv poolSize := by
  refine h.grow rfl (fun slot key => ?_) (List.Subset.refl _) (List.subset_append_left _ _)
    h.registered fun slot config' hconfig => ?_
  · by_cases hslot : slot = ServiceBridge.slotFor service
    · exact .inr (by simp [Backends.updateBackendConfig, hslot])
    · exact .inl (by simp [Backends.updateBackendConfig, hslot])
  · simp only [Backends.updateBackendConfig] at hconfig ⊢
    by_cases hslot : slot = ServiceBridge.slotFor service
    · rw [hslot, Function.update_self] at hconfig
      exact List.mem_append_right _ (by simp [hconfig, hslot])
    · rw [Function.update_of_ne hslot] at hconfig
      exact List.mem_append_left _ (h.configs slot config' hconfig)

theorem inv_step {a : BackendAction} (hsize : 0 < poolSize) (h : s.Inv poolSize)
    (hs : s.step poolSize a = some s') : s'.Inv poolSize := by
  cases a with
  | resolve service shardKey =>
    obtain rfl := Option.some.inj hs
    exact h.resolve service shardKey
  | lookup i closed =>
    obtain ⟨c, hc, hs⟩ := Option.bind_eq_some_iff.mp hs
    split at hs
    · obtain rfl := Option.some.inj hs
      exact h.lookup hc
    · cases hs
  | connect i connected =>
    obtain ⟨c, hc, hs⟩ := Option.bind_eq_some_iff.mp hs
    split at hs
    · obtain rfl := Option.some.inj hs
      exact h.connect hc
    · cases hs
  | store i =>
    obtain ⟨c, hc, hs⟩ := Option.bind_eq_some_iff.mp hs
    split at hs
    · obtain rfl := Option.some.inj hs
      exact h.storeConnection hsize hc
    · cases hs
  | close slot key index =>
    obtain rfl := Option.some.inj hs
    exact h.setPool (h.within slot key).close (h.leads slot key).close
  | updateBackendConfig service config =>
    obtain rfl := Option.some.inj hs
    exact h.updateBackendConfig service config
  | shutdown =>
    obtain rfl := Option.some.inj hs
    exact h.grow rfl (fun _ _ => .inr rfl) (List.Subset.refl _) (List.Subset.refl _)
      h.registered h.configs
  | route a =>
    obtain ⟨rt, hrt, hs⟩ := Option.bind_eq_some_iff.mp hs
    obtain ⟨rt', hstep, rfl⟩ := Option.map_eq_some_iff.mp hs
    refine h.grow rfl (fun _ _ => .inl rfl) (List.subset_append_left _ _) (List.Subset.refl _)
      (fun routing hrouting => ?_) h.configs
    obtain rfl := Option.some.inj hrouting
    exact (h.registered rt hrt).step hstep

/-- The bridge before its first call, with a router that knows no node yet. -/
structure Started (s : Backends) : Prop where
  routing : s.routing = none ∨ ∃ config, s.routing = some { router := { config } }
  configs : ∀ slot config, s.sources.configs slot = some config → (slot, config) ∈ s.configured
  pools : ∀ slot key, s.pools slot key = {}
  calls : s.calls = []

/-- The states of a bridge with pools of this size, by actions that meet `ok`. -/
abbrev Reaches (poolSize : ℕ) (ok : Backends → BackendAction → Prop) : Backends → Prop :=
  BoostGateway.Reaches Started (step poolSize) ok

theorem inv_of_started (h : s.Started) : s.Inv poolSize where
  registered rt hrt := by
    rcases h.routing with hnone | ⟨config, hfresh⟩
    · rw [hnone] at hrt
      cases hrt
    · obtain rfl := Option.some.inj (hfresh.symm.trans hrt)
      exact fun _ _ hinst => absurd hinst List.not_mem_nil
  configs := h.configs
  within slot key := h.pools slot key ▸ ConnectionPool.within_empty
  leads slot key := h.pools slot key ▸ ConnectionPool.leads_empty
  resolved c hc := absurd (h.calls ▸ hc) List.not_mem_nil
  returned c hc := absurd (h.calls ▸ hc) List.not_mem_nil

theorem inv_of_reaches {ok : Backends → BackendAction → Prop} (hsize : 0 < poolSize)
    (h : Reaches poolSize ok s) : s.Inv poolSize :=
  h.invariant (fun _ hs => inv_of_started hs) fun _ _ _ hi _ hs => inv_step hsize hi hs

theorem backendConnectionPoolSize_pos (parsed : ℕ) : 0 < backendConnectionPoolSize parsed := by
  unfold backendConnectionPoolSize
  split_ifs with h
  · exact h
  · decide

/-- No pool grows beyond its size, and a call gets a connection to an address of its pool : to
the one it resolved, when the pool has had one address only. -/
theorem addresses (parsed : ℕ)
    (h : Reaches (backendConnectionPoolSize parsed) (fun _ _ => True) s) :
    (∀ slot key, (s.pools slot key).connections.length ≤ backendConnectionPoolSize parsed) ∧
    ∀ c ∈ s.calls, ∀ conn, c.stage = .returned (some conn) →
      s.AddressOf (ServiceBridge.slotFor c.service) c.poolKey conn.host conn.port ∧
      ((∀ host port host' port',
          s.AddressOf (ServiceBridge.slotFor c.service) c.poolKey host port →
          s.AddressOf (ServiceBridge.slotFor c.service) c.poolKey host' port' →
          host = host' ∧ port = port') →
        conn.host = c.target.config.host ∧ conn.port = c.target.config.port) := by
  have hi := inv_of_reaches (backendConnectionPoolSize_pos parsed) h
  refine ⟨fun slot key => (hi.within slot key).length_le, fun c hc conn hconn => ?_⟩
  have haddr := hi.returned c hc conn hconn
  exact ⟨haddr, fun hone => hone _ _ _ _ haddr (hi.resolved c hc)⟩

/-- A node is registered and called, comes back under another address and is called again. -/
def movedNode : List BackendAction :=
  [.route (.registerService { node := BackendSources.roomNode "room-1", serviceName := "room" }),
    .resolve .room [], .lookup 0 false, .connect 0 true, .store 0,
    .route (.registerService
      { node := { BackendSources.roomNode "room-1" with host := "10.0.0.2" }
        serviceName := "room" }),
    .resolve .room [], .lookup 1 false]

theorem started_fresh : Started { routing := some { router := {} } } where
  routing := .inr ⟨{}, rfl⟩
  configs _ _ h := by cases h
  pools _ _ := rfl
  calls := rfl

/-- The second call resolves the new address and gets the connection to the old one. -/
theorem addresses_moved : ∃ s : Backends, ∃ c ∈ s.calls, ∃ conn,
    c.stage = .returned (some conn) ∧ c.target.config.host = "10.0.0.2" ∧
      conn.host = "10.0.0.1" ∧
      s.AddressOf (ServiceBridge.slotFor c.service) c.poolKey conn.host conn.port := by
  obtain ⟨s, hs, c, hc, conn, hstage, hhost, hconn⟩ : ∃ s,
      runWith (step (backendConnectionPoolSize 0)) (fun _ _ => True)
        { routing := some { router := {} } } movedNode = some s ∧
      ∃ c ∈ s.calls, ∃ conn, c.stage = .returned (some conn) ∧
        c.target.config.host = "10.0.0.2" ∧ conn.host = "10.0.0.1" :=
    ⟨_, rfl, _, List.mem_cons_of_mem _ List.mem_cons_self, _, rfl, rfl, rfl⟩
  have hr : Reaches (backendConnectionPoolSize 0) (fun _ _ => True) s :=
    BoostGateway.Reaches.runWith (.init started_fresh) hs
  exact ⟨s, c, hc, conn, hstage, hhost, hconn, ((addresses 0 hr).2 c hc conn hstage).1⟩

/-! ## Failover -/

/-- The nodes of a service to which no connection could be made, in this order. -/
def failedNodes (s : Backends) (name : String) : List String :=
  (s.failed.filter (·.1 = name)).map (·.2.nodeName)

/-- A call of the service that has not returned. -/
def Pending (name : String) (c : EnsureCall) : Prop :=
  serviceNameFor c.service = name ∧ ∀ conn, c.stage ≠ .returned conn

/-- The router brings no node of the service back, and a call of the service begins when the
one before has returned. -/
def Quiet (name : String) (s : Backends) : BackendAction → Prop
  | .route a => ∀ routing, s.routing = some routing → ∀ node, Routing.LeftOut name node routing a
  | .resolve service _ => serviceNameFor service = name → ∀ c ∈ s.calls, ¬Pending name c
  | _ => True

/-- What holds from a router `r₀` on, as long as nothing brings a node back. -/
structure FailingOver (r₀ : ClusterRouter) (name : String) (s : Backends) : Prop where
  healthy : ∀ routing, s.routing = some routing → ∀ node,
    routing.router.stateOf name node = some .kHealthy →
      r₀.stateOf name node = some .kHealthy ∧ node ∉ s.failedNodes name
  unique : ∀ routing, s.routing = some routing → routing.router.Unique
  nodup : (s.failedNodes name).Nodup
  failed_healthy : ∀ node ∈ s.failedNodes name, r₀.stateOf name node = some .kHealthy
  pending : ∀ c ∈ s.calls, Pending name c → ∀ node, c.target.node = some node →
    r₀.stateOf name node.nodeName = some .kHealthy ∧ node.nodeName ∉ s.failedNodes name
  one : ∀ (i j : ℕ) c c', s.calls[i]? = some c → s.calls[j]? = some c' → Pending name c →
    Pending name c' → i = j

variable {r₀ : ClusterRouter} {name : String}

/-- A step that makes no node of the service healthy, fails with none and starts no call. -/
theorem FailingOver.congr (h : s.FailingOver r₀ name)
    (hnodes : s'.failedNodes name = s.failedNodes name)
    (hrouting : ∀ routing, s'.routing = some routing → routing.router.Unique ∧
      ∃ before, s.routing = some before ∧ ∀ node,
        routing.router.stateOf name node = some .kHealthy →
          before.router.stateOf name node = some .kHealthy)
    (hcalls : ∀ (i : ℕ) c, s'.calls[i]? = some c → Pending name c →
      ∃ before, s.calls[i]? = some before ∧ Pending name before ∧ before.target = c.target) :
    s'.FailingOver r₀ name := by
  constructor
  · intro routing hr node hn
    obtain ⟨-, before, hbefore, hkept⟩ := hrouting routing hr
    rw [hnodes]
    exact h.healthy before hbefore node (hkept node hn)
  · exact fun routing hr => (hrouting routing hr).1
  · exact hnodes ▸ h.nodup
  · exact hnodes ▸ h.failed_healthy
  · intro c hc hp node hn
    obtain ⟨i, hi⟩ := List.mem_iff_getElem?.mp hc
    obtain ⟨before, hbefore, hpb, htarget⟩ := hcalls i c hi hp
    rw [hnodes]
    exact h.pending before (List.mem_of_getElem? hbefore) hpb node (htarget ▸ hn)
  · intro i j c c' hi hj hp hp'
    obtain ⟨before, hbefore, hpb, -⟩ := hcalls i c hi hp
    obtain ⟨before', hbefore', hpb', -⟩ := hcalls j c' hj hp'
    exact h.one i j before before' hbefore hbefore' hpb hpb'

variable {i : ℕ}

theorem getElem?_setStage {j : ℕ} {stage : CallStage} {c : EnsureCall}
    (h : (s.setStage i stage).calls[j]? = some c) :
    ∃ old, s.calls[j]? = some old ∧ old.service = c.service ∧ old.target = c.target ∧
      (j ≠ i → old = c) ∧ (j = i → c.stage = stage) := by
  rw [setStage, List.getElem?_modify] at h
  obtain ⟨old, hold, rfl⟩ := Option.map_eq_some_iff.mp h
  split_ifs with hij
  · exact ⟨old, hold, rfl, rfl, fun hne => absurd hij.symm hne, fun _ => rfl⟩
  · exact ⟨old, hold, rfl, rfl, fun _ => rfl, fun heq => absurd heq.symm hij⟩

theorem pending_of_setStage {j : ℕ} {stage : CallStage} {c d : EnsureCall}
    (hc : s.calls[i]? = some c) (hc' : ∀ conn, c.stage ≠ .returned conn)
    (h : (s.setStage i stage).calls[j]? = some d) (hp : Pending name d) :
    ∃ before, s.calls[j]? = some before ∧ Pending name before ∧ before.target = d.target := by
  obtain ⟨old, hold, hservice, htarget, hother, -⟩ := getElem?_setStage h
  refine ⟨old, hold, ⟨hservice ▸ hp.1, ?_⟩, htarget⟩
  by_cases hij : j = i
  · obtain rfl := hij
    obtain rfl : c = old := Option.some.inj (hc.symm.trans hold)
    exact hc'
  · obtain rfl := hother hij
    exact hp.2

theorem FailingOver.setStage {stage : CallStage} {c : EnsureCall}
    {pools : ServiceId → Option String → ConnectionPool} (h : s.FailingOver r₀ name)
    (hc : s.calls[i]? = some c) (hc' : ∀ conn, c.stage ≠ .returned conn) :
    (({ s with pools } : Backends).setStage i stage).FailingOver r₀ name :=
  h.congr rfl (fun routing hr => ⟨h.unique routing hr, routing, hr, fun _ hn => hn⟩)
    fun _ _ hd hp => pending_of_setStage hc hc' hd hp

theorem stateOf_congr {r r' : ClusterRouter} (h : ∀ s, r'.instances s = r.instances s)
    (service node : String) : r'.stateOf service node = r.stateOf service node := by
  rw [ClusterRouter.stateOf, ClusterRouter.findInstance, h, ClusterRouter.stateOf,
    ClusterRouter.findInstance]

/-- After `resolve_backend` the instances are the same, and a node it gives is healthy. -/
theorem resolveBackend_cases {sources : BackendSources} {routing : Routing} {service : ServiceId}
    {shardKey : Bytes} (hu : routing.router.Unique) :
    (∃ r, (sources.resolveBackend (some routing.router) service shardKey).1 = some r ∧
      ∀ s, r.instances s = routing.router.instances s) ∧
    ∀ t node, (sources.resolveBackend (some routing.router) service shardKey).2 = some t →
      t.node = some node →
        routing.router.stateOf (serviceNameFor service) node.nodeName = some .kHealthy := by
  constructor
  · unfold BackendSources.resolveBackend
    split_ifs
    · exact ⟨_, rfl, fun _ => rfl⟩
    · exact ⟨_, rfl, BackendSources.instances_chooseNode⟩
  · intro t node ht hn
    obtain ⟨inst, hinst, rfl⟩ := BackendSources.exists_mem_of_chooseNode
      (BackendSources.chooseNode_of_resolveBackend ht hn).1
    exact ClusterRouter.mem_discoverAll (hu _) hinst

theorem getElem?_resolve {service : ServiceId} {shardKey : Bytes} {i : ℕ} {c : EnsureCall}
    (h : (s.resolve service shardKey).calls[i]? = some c) : s.calls[i]? = some c ∨
      i = s.calls.length ∧ c.service = service ∧
        (s.sources.resolveBackend (s.routing.map Routing.router) service shardKey).2 =
          some c.target := by
  change (s.calls ++ Option.toList (Option.map _ _))[i]? = some c at h
  rw [List.getElem?_append] at h
  split_ifs at h with hi
  · exact .inl h
  · obtain ⟨t, ht, hc⟩ := Option.map_eq_some_iff.mp
      (Option.mem_toList.mp (List.mem_of_getElem? h))
    have hlen := (List.getElem?_eq_some_iff.mp h).1
    rw [ht] at hlen
    simp only [Option.map_some, Option.toList_some, List.length_singleton] at hlen
    exact .inr ⟨by omega, hc ▸ rfl, hc ▸ ht⟩

theorem FailingOver.resolve {service : ServiceId} {shardKey : Bytes} {routing : Routing}
    (h : s.FailingOver r₀ name) (hrouting : s.routing = some routing)
    (hq : s.Quiet name (.resolve service shardKey)) :
    (s.resolve service shardKey).FailingOver r₀ name := by
  obtain ⟨⟨r, hr, hinst⟩, hnode⟩ :=
    @resolveBackend_cases s.sources routing service shardKey (h.unique routing hrouting)
  have hafter : ∀ rt, (s.resolve service shardKey).routing = some rt → rt.router = r := by
    intro rt hrt
    simp only [Backends.resolve, setRouter, hrouting, Option.map_some, Option.bind_some, hr,
      Option.some.injEq] at hrt
    rw [← hrt]
  have hstate : ∀ rt, (s.resolve service shardKey).routing = some rt → ∀ node,
      rt.router.stateOf name node = routing.router.stateOf name node := fun rt hrt node =>
    hafter rt hrt ▸ stateOf_congr hinst name node
  -- a new call of the service is the only one, and its node is healthy
  have hnew : ∀ i c, (s.resolve service shardKey).calls[i]? = some c → Pending name c →
      s.calls[i]? = some c ∨ i = s.calls.length ∧ (∀ c ∈ s.calls, ¬Pending name c) ∧
        ∀ node, c.target.node = some node →
          routing.router.stateOf name node.nodeName = some .kHealthy := by
    intro i c hc hp
    rcases getElem?_resolve hc with hold | ⟨hi, rfl, ht⟩
    · exact .inl hold
    · refine .inr ⟨hi, hq hp.1, fun node hn => ?_⟩
      rw [hrouting] at ht
      exact hp.1 ▸ hnode c.target node ht hn
  constructor
  · intro rt hrt node hn
    exact h.healthy routing hrouting node (hstate rt hrt node ▸ hn)
  · intro rt hrt
    rw [hafter rt hrt]
    exact (h.unique routing hrouting).congr fun s => by rw [hinst]
  · exact h.nodup
  · exact h.failed_healthy
  · intro c hc hp node hn
    obtain ⟨i, hi⟩ := List.mem_iff_getElem?.mp hc
    rcases hnew i c hi hp with hold | ⟨-, -, hhealthy⟩
    · exact h.pending c (List.mem_of_getElem? hold) hp node hn
    · exact h.healthy routing hrouting _ (hhealthy node hn)
  · intro i j c c' hc hc' hp hp'
    rcases hnew i c hc hp with hold | ⟨hi, hnone, -⟩
    · rcases hnew j c' hc' hp' with hold' | ⟨-, hnone, -⟩
      · exact h.one i j c c' hold hold' hp hp'
      · exact absurd hp (hnone c (List.mem_of_getElem? hold))
    · rcases hnew j c' hc' hp' with hold' | ⟨hj, -, -⟩
      · exact absurd hp' (hnone c' (List.mem_of_getElem? hold'))
      · rw [hi, hj]

/-- The node that is marked when the connection of a call cannot be made. -/
def markedNode (c : EnsureCall) : Option NodeId :=
  if c.target.fromCluster then c.target.node else none

variable {c : EnsureCall}

theorem routing_connect {rt : Routing}
    (h : (s.connect i c false).routing = some rt) : ∃ before, s.routing = some before ∧
      rt.router = (markedNode c).elim before.router
        (before.router.markUnhealthy (serviceNameFor c.service)) := by
  obtain ⟨before, hbefore, hrt⟩ := Option.bind_eq_some_iff.mp h
  obtain ⟨r, hr, rfl⟩ := Option.map_eq_some_iff.mp hrt
  rw [hbefore] at hr
  exact ⟨before, hbefore, (Option.some.inj hr).symm⟩

theorem failedNodes_connect :
    (s.connect i c false).failedNodes name = s.failedNodes name ++
      if serviceNameFor c.service = name then (markedNode c).toList.map NodeId.nodeName
      else [] := by
  change ((s.failed ++ ((markedNode c).map fun node =>
    (serviceNameFor c.service, node)).toList).filter (·.1 = name)).map (·.2.nodeName) = _
  rw [List.filter_append, List.map_append]
  congr 1
  cases markedNode c with
  | none => simp
  | some node => by_cases hname : serviceNameFor c.service = name <;> simp [hname]

/-- A node that is marked is not healthy, and the others are as before. -/
theorem healthy_of_marked {r : ClusterRouter} {service : String} {marked : Option NodeId}
    {node : String} (h : (marked.elim r (r.markUnhealthy service)).stateOf name node =
      some .kHealthy) : r.stateOf name node = some .kHealthy ∧
        ¬(service = name ∧ ∃ n, marked = some n ∧ n.nodeName = node) := by
  cases marked with
  | none => exact ⟨h, by simp⟩
  | some n =>
    have hf : ∀ inst : ServiceInstance,
        ({ inst with state := .kUnhealthy } : ServiceInstance).node = inst.node := fun _ => rfl
    change (r.modifyInstance service n.nodeName _).stateOf name node = _ at h
    rw [ClusterRouter.stateOf_modifyInstance hf] at h
    split_ifs at h with hsame
    · obtain ⟨inst, -, hstate⟩ := Option.map_eq_some_iff.mp h
      cases hstate
    · refine ⟨h, fun ⟨hservice, n', hn', hnode⟩ => hsame ⟨hservice.symm, ?_⟩⟩
      rw [← hnode, Option.some.inj hn']

theorem FailingOver.routing_connect (h : s.FailingOver r₀ name)
    {rt : Routing} (hrt : (s.connect i c false).routing = some rt) : rt.router.Unique ∧
      ∃ before, s.routing = some before ∧ ∀ node,
        rt.router.stateOf name node = some .kHealthy →
          before.router.stateOf name node = some .kHealthy ∧
            ¬(serviceNameFor c.service = name ∧ ∃ n, markedNode c = some n ∧
              n.nodeName = node) := by
  obtain ⟨before, hbefore, hrouter⟩ := Backends.routing_connect hrt
  rw [hrouter]
  refine ⟨?_, before, hbefore, fun node hn => healthy_of_marked hn⟩
  have hu := h.unique before hbefore
  cases markedNode c with
  | none => exact hu
  | some n => exact hu.modifyInstance fun _ => rfl

/-- A call that could not connect is over. -/
theorem pending_of_connect {j : ℕ} {c d : EnsureCall} (hc : s.calls[i]? = some c)
    (hc' : ∀ conn, c.stage ≠ .returned conn) (hd : (s.connect i c false).calls[j]? = some d)
    (hp : Pending name d) : j ≠ i ∧
      ∃ before, s.calls[j]? = some before ∧ Pending name before ∧ before.target = d.target := by
  have hd' : (s.setStage i (.returned none)).calls[j]? = some d := hd
  refine ⟨?_, pending_of_setStage hc hc' hd' hp⟩
  rintro rfl
  obtain ⟨-, -, -, -, -, hstage⟩ := getElem?_setStage hd'
  exact hp.2 none (hstage rfl)

/-- A node of the service is marked, and the call was the only one on its way. -/
theorem FailingOver.mark {node : NodeId} (h : s.FailingOver r₀ name)
    (hc : s.calls[i]? = some c) (hc' : ∀ conn, c.stage ≠ .returned conn)
    (hname : serviceNameFor c.service = name) (hnode : markedNode c = some node) :
    (s.connect i c false).FailingOver r₀ name := by
  have hp : Pending name c := ⟨hname, hc'⟩
  have hfailed : (s.connect i c false).failedNodes name =
      s.failedNodes name ++ [node.nodeName] := by
    rw [failedNodes_connect, if_pos hname, hnode]
    rfl
  have htarget : c.target.node = some node := by
    unfold markedNode at hnode
    split_ifs at hnode
    exact hnode
  obtain ⟨hstart, hfresh⟩ := h.pending c (List.mem_of_getElem? hc) hp node htarget
  have hnone : ∀ (j : ℕ) d, (s.connect i c false).calls[j]? = some d → ¬Pending name d := by
    intro j d hd hpd
    obtain ⟨hne, before, hbefore, hpb, -⟩ := pending_of_connect hc hc' hd hpd
    exact hne (h.one j i before c hbefore hc hpb hp)
  constructor
  · intro rt hrt m hm
    obtain ⟨-, before, hbefore, hkept⟩ := h.routing_connect hrt
    obtain ⟨hm, hunmarked⟩ := hkept m hm
    obtain ⟨hfirst, hnot⟩ := h.healthy before hbefore m hm
    refine ⟨hfirst, ?_⟩
    rw [hfailed, List.mem_append, List.mem_singleton]
    rintro (hold | rfl)
    · exact hnot hold
    · exact hunmarked ⟨hname, node, hnode, rfl⟩
  · exact fun rt hrt => (h.routing_connect hrt).1
  · rw [hfailed, List.nodup_append']
    exact ⟨h.nodup, List.nodup_singleton _, List.disjoint_singleton.mpr hfresh⟩
  · intro m hm
    rw [hfailed] at hm
    rcases List.mem_append.mp hm with hold | hnew
    · exact h.failed_healthy m hold
    · exact List.mem_singleton.mp hnew ▸ hstart
  · intro d hd hpd
    obtain ⟨j, hj⟩ := List.mem_iff_getElem?.mp hd
    exact absurd hpd (hnone j d hj)
  · intro j k d d' hd _ hpd _
    exact absurd hpd (hnone j d hd)

theorem FailingOver.connect {connected : Bool}
    (h : s.FailingOver r₀ name) (hc : s.calls[i]? = some c)
    (hc' : ∀ conn, c.stage ≠ .returned conn) : (s.connect i c connected).FailingOver r₀ name := by
  cases connected with
  | true =>
    change (({ s with pools := s.pools } : Backends).setStage i _).FailingOver r₀ name
    exact h.setStage hc hc'
  | false =>
    have hsame : (s.connect i c false).failedNodes name = s.failedNodes name →
        (s.connect i c false).FailingOver r₀ name := fun hnodes =>
      h.congr hnodes (fun rt hrt => by
        obtain ⟨hu, before, hbefore, hkept⟩ := h.routing_connect hrt
        exact ⟨hu, before, hbefore, fun node hn => (hkept node hn).1⟩)
        fun j d hd hp => (pending_of_connect hc hc' hd hp).2
    by_cases hname : serviceNameFor c.service = name
    · cases hnode : markedNode c with
      | none => exact hsame (by rw [failedNodes_connect, hnode]; simp)
      | some node => exact h.mark hc hc' hname hnode
    · exact hsame (by rw [failedNodes_connect, if_neg hname, List.append_nil])

theorem FailingOver.route {a : RouterAction} {routing routing' : Routing}
    {known : List (String × NodeId)} (h : s.FailingOver r₀ name)
    (hrouting : s.routing = some routing)
    (hq : ∀ node, Routing.LeftOut name node routing a) (hs : routing.step a = some routing') :
    ({ s with routing := some routing', known } : Backends).FailingOver r₀ name := by
  refine h.congr rfl (fun rt hrt => ?_) fun _ c hc hp => ⟨c, hc, hp, rfl⟩
  obtain rfl := Option.some.inj hrt
  refine ⟨Routing.unique_step (h.unique routing hrouting) hs, routing, hrouting,
    fun node hn => ?_⟩
  by_contra hnot
  exact @Routing.step_ne_healthy name { nodeName := node } _ _ _ hnot (hq _) hs hn

theorem routing_setRouter {router : Option ClusterRouter} (hrouting : s.routing ≠ none)
    (hrouter : router ≠ none) : (s.setRouter router).routing ≠ none := by
  obtain ⟨rt, hrt⟩ := Option.ne_none_iff_exists'.mp hrouting
  obtain ⟨r, rfl⟩ := Option.ne_none_iff_exists'.mp hrouter
  simp [setRouter, hrt]

theorem failingOver_step {a : BackendAction} (h : s.FailingOver r₀ name)
    (hrouting : s.routing ≠ none) (hq : s.Quiet name a) (hs : s.step poolSize a = some s') :
    s'.FailingOver r₀ name ∧ s'.routing ≠ none := by
  obtain ⟨rt, hrt⟩ := Option.ne_none_iff_exists'.mp hrouting
  cases a with
  | resolve service shardKey =>
    obtain rfl := Option.some.inj hs
    refine ⟨h.resolve hrt hq, routing_setRouter hrouting ?_⟩
    obtain ⟨⟨r, hr, -⟩, -⟩ :=
      @resolveBackend_cases s.sources rt service shardKey (h.unique rt hrt)
    rw [hrt]
    exact Option.ne_none_iff_exists'.mpr ⟨r, hr⟩
  | lookup i closed =>
    obtain ⟨c, hc, hs⟩ := Option.bind_eq_some_iff.mp hs
    split at hs
    · rename_i hstage
      obtain rfl := Option.some.inj hs
      exact ⟨h.setStage hc fun conn hr => by simp [hr] at hstage, hrouting⟩
    · cases hs
  | connect i connected =>
    obtain ⟨c, hc, hs⟩ := Option.bind_eq_some_iff.mp hs
    split at hs
    · rename_i hstage
      obtain rfl := Option.some.inj hs
      refine ⟨h.connect hc fun conn hr => by simp [hr] at hstage, ?_⟩
      cases connected with
      | true => exact hrouting
      | false => exact routing_setRouter hrouting (by simp [hrt])
    · cases hs
  | store i =>
    obtain ⟨c, hc, hs⟩ := Option.bind_eq_some_iff.mp hs
    split at hs
    · rename_i hstage
      obtain rfl := Option.some.inj hs
      exact ⟨h.setStage hc fun conn hr => by simp [hr] at hstage, hrouting⟩
    · cases hs
  | close slot key index =>
    obtain rfl := Option.some.inj hs
    exact ⟨h.congr rfl (fun routing hr => ⟨h.unique routing hr, routing, hr, fun _ hn => hn⟩)
      fun _ c hc hp => ⟨c, hc, hp, rfl⟩, hrouting⟩
  | updateBackendConfig service config =>
    obtain rfl := Option.some.inj hs
    exact ⟨h.congr rfl (fun routing hr => ⟨h.unique routing hr, routing, hr, fun _ hn => hn⟩)
      fun _ c hc hp => ⟨c, hc, hp, rfl⟩, hrouting⟩
  | shutdown =>
    obtain rfl := Option.some.inj hs
    exact ⟨h.congr rfl (fun routing hr => ⟨h.unique routing hr, routing, hr, fun _ hn => hn⟩)
      fun _ c hc hp => ⟨c, hc, hp, rfl⟩, hrouting⟩
  | route a =>
    obtain ⟨routing, hr, hs⟩ := Option.bind_eq_some_iff.mp hs
    obtain ⟨routing', hstep, rfl⟩ := Option.map_eq_some_iff.mp hs
    exact ⟨h.route hr (hq routing hr) hstep, by simp⟩

/-- A bridge without calls, over a cluster router in any state it can reach. -/
def Idle (s₀ : Backends) (routing : Routing) : Prop :=
  s₀.routing = some routing ∧ Routing.Reaches (fun _ _ => True) routing ∧
    s₀.calls = [] ∧ s₀.failed = []

theorem failingOver_of_idle {s₀ : Backends} {routing : Routing} (h : Idle s₀ routing) :
    s₀.FailingOver routing.router name := by
  obtain ⟨hrouting, hr, hcalls, hfailed⟩ := h
  have hnone : s₀.failedNodes name = [] := by rw [failedNodes, hfailed]; rfl
  have hsame : ∀ rt, s₀.routing = some rt → rt = routing := fun rt hrt =>
    Option.some.inj (hrt.symm.trans hrouting)
  refine ⟨fun rt hrt node hn => ?_, fun rt hrt => ?_, ?_, ?_, ?_, ?_⟩
  · exact ⟨hsame rt hrt ▸ hn, hnone ▸ List.not_mem_nil⟩
  · exact hsame rt hrt ▸ Routing.unique_of_reaches hr
  · exact hnone ▸ List.nodup_nil
  · exact fun node hn => absurd (hnone ▸ hn) List.not_mem_nil
  · exact fun c hc => absurd (hcalls ▸ hc) List.not_mem_nil
  · intro i j c c' hc
    rw [hcalls] at hc
    cases hc

/-- While nothing brings a node of the service back, calls that follow each other fail with at
most one node after the other of those that were healthy, and never go to a node that failed.
They leave the cluster only when none is healthy any more. -/
theorem failover {s₀ : Backends} {routing : Routing} (hidle : Idle s₀ routing) (poolSize : ℕ)
    (h : BoostGateway.Reaches (· = s₀) (step poolSize) (Quiet name) s) :
    (s.failedNodes name).length ≤ (routing.router.discoverAll name).length ∧
    ∀ rt service shardKey t, s.routing = some rt → serviceNameFor service = name →
      (s.sources.resolveBackend (some rt.router) service shardKey).2 = some t →
      (∀ node, t.node = some node → node.nodeName ∉ s.failedNodes name ∧
        routing.router.stateOf name node.nodeName = some .kHealthy) ∧
      (t.node = none → rt.router.discoverAll name = []) := by
  have hi := (h.invariant (P := fun s => s.FailingOver routing.router name ∧ s.routing ≠ none)
    (fun _ hs => hs ▸ ⟨failingOver_of_idle hidle, by simp [hidle.1]⟩)
    fun _ _ _ hi hq hs => failingOver_step hi.1 hi.2 hq hs).1
  constructor
  · have hsub : s.failedNodes name ⊆
        (routing.router.discoverAll name).map (·.node.nodeName) := by
      intro node hn
      obtain ⟨inst, hinst, hstate⟩ := Option.map_eq_some_iff.mp (hi.failed_healthy node hn)
      refine List.mem_map.mpr ⟨inst, List.mem_filter.mpr ⟨List.mem_of_find?_eq_some hinst, ?_⟩,
        ClusterRouter.nodeName_of_findInstance hinst⟩
      exact decide_eq_true hstate
    exact (List.subperm_of_subset hi.nodup hsub).length_le.trans_eq (List.length_map _)
  · intro rt service shardKey t hrt hname ht
    refine ⟨fun node hn => ?_, fun hn => ?_⟩
    · have hhealthy := (resolveBackend_cases (hi.unique rt hrt)).2 t node ht hn
      exact (hi.healthy rt hrt node.nodeName (hname ▸ hhealthy)).symm
    · exact hname ▸ BackendSources.discoverAll_of_resolveBackend ht hn

/-- A bridge over two room backends. -/
def overTwoRooms : Backends := { routing := some { router := BackendSources.twoRooms } }

theorem idle_overTwoRooms : Idle overTwoRooms { router := BackendSources.twoRooms } :=
  ⟨rfl, .step (a := .registerService
      { node := BackendSources.roomNode "room-2", serviceName := "room" })
    (.step (a := .registerService
        { node := BackendSources.roomNode "room-1", serviceName := "room" })
      (.init ⟨{}, rfl⟩) trivial rfl) trivial rfl, rfl, rfl⟩

/-- Neither backend answers, and after two calls both have been tried. -/
theorem failover_overTwoRooms : ∃ s : Backends, s.failedNodes "room" = ["room-1", "room-2"] ∧
    (s.failedNodes "room").length ≤ (BackendSources.twoRooms.discoverAll "room").length := by
  -- one call after the other, each of them with its three sections
  have hcall : ∀ {s : Backends} (i : ℕ) {s₁ s₂ s₃ : Backends},
      BoostGateway.Reaches (· = overTwoRooms) (step 1) (Quiet "room") s →
      (∀ c ∈ s.calls, ¬Pending "room" c) → s.step 1 (.resolve .room []) = some s₁ →
      s₁.step 1 (.lookup i false) = some s₂ → s₂.step 1 (.connect i false) = some s₃ →
      BoostGateway.Reaches (· = overTwoRooms) (step 1) (Quiet "room") s₃ :=
    fun _ _ _ _ h hq h₁ h₂ h₃ =>
      .step (a := .connect _ false) (.step (a := .lookup _ false)
        (.step (a := .resolve .room []) h (fun _ => hq) h₁) trivial h₂) trivial h₃
  have hfirst := hcall 0 (.init rfl) (fun c hc => absurd hc List.not_mem_nil) rfl rfl rfl
  have hsecond := hcall 1 hfirst (fun c hc hp => by
    obtain rfl := List.mem_singleton.mp hc
    exact hp.2 none rfl) rfl rfl rfl
  exact ⟨_, by decide +kernel, (failover idle_overTwoRooms 1 hsecond).1⟩

end Backends

end BoostGateway.Gateway
