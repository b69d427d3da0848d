import BoostGateway.Cluster.ConsistentHash
import BoostGateway.Gateway.ServiceBridge
import BoostGateway.Router.Drain

/-!
# The backend of a request

`GatewayServiceBridge::resolve_backend` (`gateway_service_bridge.cpp`) : the node that answers
a request, from the cluster router and, for a request with a shard key, from the hash rings of
the `ShardRouter` (`consistent_hash.h`). Without a healthy instance the static configuration is
left. The names of the nodes are hashed as their UTF-8 bytes. Of the security policy and the
feature flags there is what `resolve_backend` reads.

A room and a battle live in the memory of one backend, and a shard key is to keep their requests
together. It does, over any change of the cluster, as long as the node that answered is healthy
and no node has come up that takes the key : `resolveBackend_affinity`. The table of the rings
themselves plays no part in it, neither does the order in which the instances are registered.
-/

namespace BoostGateway.Gateway

open Cluster Router Service

/-! ## The shard router -/

/-- `ShardRouter`. -/
structure ShardRouter where
  roomRing : ConsistentHashRing := { virtualNodes := 150 }
  battleRing : ConsistentHashRing := { virtualNodes := 100 }

namespace ShardRouter

variable (s : ShardRouter)

def addBackend (nodeName : Bytes) : ShardRouter where
  roomRing := s.roomRing.addNode nodeName
  battleRing := s.battleRing.addNode nodeName

def removeBackend (nodeName : Bytes) : ShardRouter where
  roomRing := s.roomRing.removeNode nodeName
  battleRing := s.battleRing.removeNode nodeName

def routeRoom (roomId : Bytes) : Bytes := s.roomRing.lookup roomId

def routeBattle (battleId : Bytes) : Bytes := s.battleRing.lookup battleId

/-- The ring `resolve_backend` asks for a service; the other services have none. -/
def route (service : ServiceId) (shardKey : Bytes) : Option Bytes :=
  match service with
  | .room => some (s.routeRoom shardKey)
  | .battle => some (s.routeBattle shardKey)
  | _ => none

end ShardRouter

/-- The name of an instance as the rings take it. -/
def ringName (inst : ServiceInstance) : Bytes := encodeUtf8 inst.node.nodeName.toList

/-- `hash_to_node` : a ring is made of the instances for the one lookup. -/
def hashToNode (instances : List ServiceInstance) (shardKey : Bytes) (virtualNodes : ℕ) : Bytes :=
  if instances.length ≤ 1 then (instances.head?.map ringName).getD []
  else (ConsistentHashRing.afterCalls virtualNodes
    (instances.map fun inst => .add (ringName inst))).lookup shardKey

/-- `find_by_node`. -/
def findByNode (instances : List ServiceInstance) (nodeName : Bytes) : Option ServiceInstance :=
  instances.find? fun inst => ringName inst = nodeName

/-- The instance for a shard key : that of the ring when it is healthy, else the one that a ring
of the healthy instances gives, else the first of them. -/
def ShardRouter.choose (s : ShardRouter) (service : ServiceId) (healthy : List ServiceInstance)
    (shardKey : Bytes) : Option ServiceInstance :=
  let nodeName := (s.route service shardKey).getD (hashToNode healthy shardKey 150)
  ((findByNode healthy nodeName).or
    (findByNode healthy (hashToNode healthy shardKey 150))).or healthy.head?

/-! ## `resolve_backend` -/

/-- Where a backend is. -/
structure BackendConfig where
  host : String := "127.0.0.1"
  port : UInt16 := 0
  /-- In milliseconds. -/
  timeout : ℤ := 5000
  connectTimeout : ℤ := 1000
  deriving DecidableEq

/-- The backend of a request. -/
structure ResolvedBackend where
  config : BackendConfig
  connectionKey : String
  node : Option NodeId
  fromCluster : Bool
  deriving DecidableEq

/-- Whether a service needs TLS. -/
structure ServiceTlsPolicy where
  tlsRequired : Bool := true

/-- What is needed of the services. -/
structure SecurityPolicy where
  requireTls : Bool := true
  loginPolicy : ServiceTlsPolicy := {}
  roomPolicy : ServiceTlsPolicy := {}
  battlePolicy : ServiceTlsPolicy := {}
  matchPolicy : ServiceTlsPolicy := {}
  leaderboardPolicy : ServiceTlsPolicy := {}

/-- `service_name_for`. -/
def serviceNameFor : ServiceId → String
  | .login => "login"
  | .room => "room"
  | .battle => "battle"
  | .matchmaking => "match"
  | .leaderboard => "leaderboard"
  | .gateway => "login"

/-- The policy of a service. -/
def SecurityPolicy.policyFor (p : SecurityPolicy) (serviceName : String) :
    Option ServiceTlsPolicy :=
  if serviceName = "login" then some p.loginPolicy
  else if serviceName = "room" then some p.roomPolicy
  else if serviceName = "battle" then some p.battlePolicy
  else if serviceName = "match" then some p.matchPolicy
  else if serviceName = "leaderboard" then some p.leaderboardPolicy
  else none

/-- The key of the connections to a node. -/
def connectionKeyFor (node : NodeId) : String :=
  if node.nodeName ≠ "" then node.nodeName else node.host ++ ":" ++ toString node.port.toNat

/-- The members of the bridge from which a backend is resolved, but for the cluster router. -/
structure BackendSources where
  /-- The configurations of the slots. -/
  configs : ServiceId → Option BackendConfig := fun _ => none
  securityPolicy : Option SecurityPolicy := none
  /-- Whether `v3_tls_enabled` is on for a service. -/
  featureFlags : Option (String → Bool) := none
  shardRouter : Option ShardRouter := none

namespace BackendSources

variable (b : BackendSources)

/-- TLS is required for the service and is not rolled out for it. -/
def refuses (service : ServiceId) : Bool :=
  let name := serviceNameFor service
  b.securityPolicy.any fun policy => b.featureFlags.any fun tlsEnabled =>
    (policy.policyFor name).any fun p => policy.requireTls && p.tlsRequired && !tlsEnabled name

/-- The node that the cluster has for a request; `discover` takes a turn. -/
def chooseNode (r : ClusterRouter) (service : ServiceId) (shardKey : Bytes) :
    ClusterRouter × Option NodeId :=
  let name := serviceNameFor service
  let shards := if shardKey = [] then none else b.shardRouter
  shards.elim (Prod.map id (Option.map ServiceInstance.node) (r.discover name)) fun shards =>
    (r, (shards.choose service (r.discoverAll name) shardKey).map ServiceInstance.node)

def clusterBackend (node : NodeId) : ResolvedBackend where
  config := { host := node.host, port := node.port }
  connectionKey := connectionKeyFor node
  node := some node
  fromCluster := true

def staticBackend (service : ServiceId) : Option ResolvedBackend :=
  (b.configs (ServiceBridge.slotFor service)).map fun config =>
    { config := config, connectionKey := "__static__", node := none, fromCluster := false }

/-- `resolve_backend`. -/
def resolveBackend (router : Option ClusterRouter) (service : ServiceId)
    (shardKey : Bytes) : Option ClusterRouter × Option ResolvedBackend :=
  if b.refuses service then (router, none)
  else router.elim (none, b.staticBackend service) fun r =>
    let (r, node) := b.chooseNode r service shardKey
    (some r, (node.map clusterBackend).or (b.staticBackend service))

end BackendSources

/-! ## What is chosen is healthy -/

variable {shards : ShardRouter} {service : ServiceId} {key : Bytes}
  {healthy healthy' : List ServiceInstance} {inst inst' : ServiceInstance}

theorem mem_of_findByNode {nodeName : Bytes} (h : findByNode healthy nodeName = some inst) :
    inst ∈ healthy ∧ ringName inst = nodeName :=
  ⟨List.mem_of_find?_eq_some h, of_decide_eq_true (List.find?_some h :)⟩

theorem findByNode_eq_none {nodeName : Bytes} :
    findByNode healthy nodeName = none ↔ nodeName ∉ healthy.map ringName := by
  rw [findByNode, List.find?_eq_none, List.mem_map]
  simp

theorem mem_of_choose (h : shards.choose service healthy key = some inst) : inst ∈ healthy := by
  rw [ShardRouter.choose, Option.or_eq_some_iff, Option.or_eq_some_iff] at h
  rcases h with (h | ⟨-, h⟩) | ⟨-, h⟩
  · exact (mem_of_findByNode h).1
  · exact (mem_of_findByNode h).1
  · exact List.mem_of_mem_head? h

theorem choose_eq_none : shards.choose service healthy key = none ↔ healthy = [] := by
  constructor
  · intro h
    rw [ShardRouter.choose, Option.or_eq_none_iff] at h
    exact List.head?_eq_none_iff.mp h.2
  · rintro rfl
    rfl

namespace BackendSources

variable {b : BackendSources} {r : ClusterRouter} {router : Option ClusterRouter}
  {t : ResolvedBackend} {node : NodeId}

/-- The instances a call leaves are those it finds. -/
theorem instances_chooseNode (s : String) :
    (b.chooseNode r service key).1.instances s = r.instances s := by
  unfold chooseNode
  cases (if key = [] then none else b.shardRouter) with
  | none => exact ClusterRouter.instances_discover
  | some shards => rfl

theorem exists_mem_of_chooseNode (h : (b.chooseNode r service key).2 = some node) :
    ∃ inst ∈ r.discoverAll (serviceNameFor service), inst.node = node := by
  unfold chooseNode at h
  revert h
  cases (if key = [] then none else b.shardRouter) with
  | none =>
    intro h
    obtain ⟨inst, hd, hn⟩ := Option.map_eq_some_iff.mp h
    exact ⟨inst, Routing.mem_discoverAll_of_discover hd, hn⟩
  | some shards =>
    intro h
    obtain ⟨inst, hc, hn⟩ := Option.map_eq_some_iff.mp h
    exact ⟨inst, mem_of_choose hc, hn⟩

/-- The cluster is passed over only when no instance of the service is healthy. -/
theorem chooseNode_eq_none :
    (b.chooseNode r service key).2 = none ↔ r.discoverAll (serviceNameFor service) = [] := by
  unfold chooseNode
  cases (if key = [] then none else b.shardRouter) with
  | none =>
    change ((r.discover (serviceNameFor service)).2.map ServiceInstance.node) = none ↔ _
    rw [Option.map_eq_none_iff]
    unfold ClusterRouter.discover ClusterRouter.discoverAll
    cases hl : r.routes.lookup (serviceNameFor service) with
    | none => simp [ClusterRouter.instances, hl]
    | some route =>
      rw [ClusterRouter.instances_of_lookup hl]
      dsimp only
      generalize List.filter _ route.instances = l
      split_ifs with hnil
      · simp [hnil]
      · have hpos := List.length_pos_iff.mpr hnil
        simp [hnil, Nat.mod_lt _ hpos]
  | some shards => exact Option.map_eq_none_iff.trans choose_eq_none

end BackendSources

/-! ## Affinity -/

/-- The names of the healthy instances, in the order of the route table. -/
def healthyNames (r : ClusterRouter) (service : ServiceId) : List Bytes :=
  (r.discoverAll (serviceNameFor service)).map ringName

/-- The healthy instances have names, and no two of them share a point of a ring. -/
def PointsApart (r : ClusterRouter) (service : ServiceId) : Prop :=
  ConsistentHashRing.UndisputedRun 150 ((healthyNames r service).map .add)

theorem ringName_inj :
    ringName inst = ringName inst' ↔ inst.node.nodeName = inst'.node.nodeName := by
  constructor
  · intro h
    have hd := congrArg decodeUtf8 h
    rw [ringName, ringName, decodeUtf8_encodeUtf8, decodeUtf8_encodeUtf8] at hd
    exact String.toList_injective (Option.some.inj hd)
  · intro h
    rw [ringName, ringName, h]

theorem physicalNodes_adds (virtualNodes : ℕ) (names : List Bytes) :
    (ConsistentHashRing.afterCalls virtualNodes (names.map .add)).physicalNodes = names := by
  induction names using List.reverseRecOn with
  | nil => rfl
  | append_singleton names n ih =>
    rw [List.map_append, List.map_singleton, ConsistentHashRing.afterCalls_concat]
    exact congrArg (· ++ [n]) ih

section Choice

variable (happart : ConsistentHashRing.UndisputedRun 150 ((healthy.map ringName).map .add))

include happart

/-- With one instance the ring gives it as well. -/
theorem hashToNode_eq (hne : healthy ≠ []) : hashToNode healthy key 150 =
    (ConsistentHashRing.afterCalls 150 ((healthy.map ringName).map .add)).lookup key := by
  rw [hashToNode, List.map_map]
  split_ifs with hlen
  · obtain ⟨inst, rfl⟩ : ∃ inst, healthy = [inst] := by
      obtain ⟨inst, rest, rfl⟩ := List.exists_cons_of_ne_nil hne
      exact ⟨inst, by simpa using hlen⟩
    have hlaw := (ConsistentHashRing.lookupLaw_of_undisputed (by decide) happart).1 key
    rw [physicalNodes_adds] at hlaw
    exact (List.mem_singleton.mp (hlaw.1 (by simp)).2).symm
  · rfl

theorem hashToNode_mem (hne : healthy ≠ []) :
    hashToNode healthy key 150 ∈ healthy.map ringName := by
  have hlaw := (ConsistentHashRing.lookupLaw_of_undisputed (by decide) happart).1 key
  rw [physicalNodes_adds] at hlaw
  rw [hashToNode_eq happart hne]
  exact (hlaw.1 (by simpa using hne)).2

/-- The first of the instances is never taken for want of another. -/
theorem ringName_choose (h : shards.choose service healthy key = some inst) :
    ringName inst = if (shards.route service key).getD (hashToNode healthy key 150) ∈
        healthy.map ringName then (shards.route service key).getD (hashToNode healthy key 150)
      else hashToNode healthy key 150 := by
  have hne : healthy ≠ [] := List.ne_nil_of_mem (mem_of_choose h)
  have hhash : hashToNode healthy key 150 ∈ healthy.map ringName := hashToNode_mem happart hne
  obtain ⟨other, hother⟩ :
      ∃ other, findByNode healthy (hashToNode healthy key 150) = some other := by
    rw [← Option.isSome_iff_exists, ← Option.ne_none_iff_isSome, ne_eq, findByNode_eq_none]
    exact not_not.mpr hhash
  rw [ShardRouter.choose] at h
  generalize (shards.route service key).getD (hashToNode healthy key 150) = nodeName at h ⊢
  split_ifs with hmem
  · obtain ⟨found, hfound⟩ : ∃ found, findByNode healthy nodeName = some found := by
      rw [← Option.isSome_iff_exists, ← Option.ne_none_iff_isSome, ne_eq, findByNode_eq_none]
      exact not_not.mpr hmem
    rw [hfound] at h
    obtain rfl : found = inst := by simpa using h
    exact (mem_of_findByNode hfound).2
  · rw [findByNode_eq_none.mpr hmem, hother] at h
    obtain rfl : other = inst := by simpa using h
    exact (mem_of_findByNode hother).2

end Choice

/-- Two choices for one key, each of an instance whose name is healthy in both cases. -/
theorem ringName_choose_eq
    (happart : ConsistentHashRing.UndisputedRun 150 ((healthy.map ringName).map .add))
    (happart' : ConsistentHashRing.UndisputedRun 150 ((healthy'.map ringName).map .add))
    (h : shards.choose service healthy key = some inst)
    (h' : shards.choose service healthy' key = some inst')
    (hstill : ringName inst ∈ healthy'.map ringName)
    (hwas : ringName inst' ∈ healthy.map ringName) : ringName inst = ringName inst' := by
  have hne : healthy ≠ [] := List.ne_nil_of_mem (mem_of_choose h)
  have hne' : healthy' ≠ [] := List.ne_nil_of_mem (mem_of_choose h')
  have hname := ringName_choose happart h
  have hname' := ringName_choose happart' h'
  have hhash : hashToNode healthy key 150 ∈ healthy.map ringName := hashToNode_mem happart hne
  have hhash' : hashToNode healthy' key 150 ∈ healthy'.map ringName :=
    hashToNode_mem happart' hne'
  -- where both are given by a ring of the healthy instances, the rings agree
  have hrings : hashToNode healthy key 150 ∈ healthy'.map ringName →
      hashToNode healthy' key 150 ∈ healthy.map ringName →
      hashToNode healthy key 150 = hashToNode healthy' key 150 := by
    intro hmem hmem'
    rw [hashToNode_eq happart hne] at hmem ⊢
    rw [hashToNode_eq happart' hne'] at hmem' ⊢
    refine (ConsistentHashRing.exact_afterCalls happart).lookup_eq
      (ConsistentHashRing.exact_afterCalls happart') ?_ ?_ ?_
    · rw [ConsistentHashRing.virtualNodes_afterCalls, ConsistentHashRing.virtualNodes_afterCalls]
    · rwa [physicalNodes_adds]
    · rwa [physicalNodes_adds]
  rw [hname] at hstill ⊢
  rw [hname'] at hwas ⊢
  cases hroute : shards.route service key with
  | none =>
    simp only [hroute, Option.getD_none, ite_self] at hstill hwas ⊢
    exact hrings hstill hwas
  | some nodeName =>
    simp only [hroute, Option.getD_some] at hstill hwas ⊢
    by_cases hin : nodeName ∈ healthy.map ringName
    · rw [if_pos hin] at hstill ⊢
      rw [if_pos hstill]
    · by_cases hin' : nodeName ∈ healthy'.map ringName
      · rw [if_pos hin'] at hwas
        exact absurd hwas hin
      · rw [if_neg hin] at hstill ⊢
        rw [if_neg hin'] at hwas ⊢
        exact hrings hstill hwas

namespace BackendSources

variable {b : BackendSources} {r r' : ClusterRouter} {t t' : ResolvedBackend}
  {node node' : NodeId}

/-- A backend of the cluster is a node that was chosen. -/
theorem chooseNode_of_resolveBackend
    (ht : (b.resolveBackend (some r) service key).2 = some t) (hn : t.node = some node) :
    (b.chooseNode r service key).2 = some node ∧ t = clusterBackend node := by
  unfold resolveBackend at ht
  split_ifs at ht
  change ((b.chooseNode r service key).2.map clusterBackend).or (b.staticBackend service) =
    some t at ht
  rcases Option.or_eq_some_iff.mp ht with hc | ⟨-, hs⟩
  · obtain ⟨chosen, hchosen, rfl⟩ := Option.map_eq_some_iff.mp hc
    obtain rfl := Option.some.inj hn
    exact ⟨hchosen, rfl⟩
  · obtain ⟨config, -, rfl⟩ := Option.map_eq_some_iff.mp hs
    cases hn

/-- A backend without a node is left when no instance of the service is healthy. -/
theorem discoverAll_of_resolveBackend
    (ht : (b.resolveBackend (some r) service key).2 = some t) (hn : t.node = none) :
    r.discoverAll (serviceNameFor service) = [] := by
  unfold resolveBackend at ht
  split_ifs at ht
  change ((b.chooseNode r service key).2.map clusterBackend).or (b.staticBackend service) =
    some t at ht
  rcases Option.or_eq_some_iff.mp ht with hc | ⟨hnone, -⟩
  · obtain ⟨node, -, rfl⟩ := Option.map_eq_some_iff.mp hc
    cases hn
  · exact chooseNode_eq_none.mp (Option.map_eq_none_iff.mp hnone)

theorem exists_choose_of_resolveBackend (hb : b.shardRouter = some shards) (hkey : key ≠ [])
    (ht : (b.resolveBackend (some r) service key).2 = some t) (hn : t.node = some node) :
    ∃ inst, shards.choose service (r.discoverAll (serviceNameFor service)) key = some inst ∧
      inst.node = node := by
  have hchosen := (chooseNode_of_resolveBackend ht hn).1
  rw [chooseNode, if_neg hkey, hb] at hchosen
  exact Option.map_eq_some_iff.mp hchosen

theorem mem_healthyNames (h : r.stateOf (serviceNameFor service) inst.node.nodeName =
    some .kHealthy) : ringName inst ∈ healthyNames r service := by
  obtain ⟨found, hfound, hstate⟩ := Option.map_eq_some_iff.mp h
  refine List.mem_map.mpr ⟨found, List.mem_filter.mpr ⟨List.mem_of_find?_eq_some hfound, ?_⟩, ?_⟩
  · exact decide_eq_true hstate
  · exact ringName_inj.mpr (ClusterRouter.nodeName_of_findInstance hfound)

/-- Whatever happens to the cluster between two requests with one shard key, the same node
answers them, if it is healthy at the second and the node of the second was healthy at the
first. -/
theorem resolveBackend_affinity (hb : b.shardRouter = some shards) (hkey : key ≠ [])
    (happart : PointsApart r service) (happart' : PointsApart r' service)
    (ht : (b.resolveBackend (some r) service key).2 = some t)
    (ht' : (b.resolveBackend (some r') service key).2 = some t')
    (hn : t.node = some node) (hn' : t'.node = some node')
    (hstill : r'.stateOf (serviceNameFor service) node.nodeName = some .kHealthy)
    (hwas : r.stateOf (serviceNameFor service) node'.nodeName = some .kHealthy) :
    node.nodeName = node'.nodeName ∧ t.connectionKey = t'.connectionKey := by
  obtain ⟨inst, hchoose, rfl⟩ := exists_choose_of_resolveBackend hb hkey ht hn
  obtain ⟨inst', hchoose', rfl⟩ := exists_choose_of_resolveBackend hb hkey ht' hn'
  have hring := ringName_choose_eq happart happart' hchoose hchoose' (mem_healthyNames hstill)
    (mem_healthyNames hwas)
  have hname := ringName_inj.mp hring
  refine ⟨hname, ?_⟩
  -- a node with a name has this name as the key of its connections
  have hnamed : inst.node.nodeName ≠ "" := by
    intro hnil
    refine (ConsistentHashRing.exact_afterCalls happart).named ?_
    rw [physicalNodes_adds]
    refine List.mem_map.mpr ⟨inst, mem_of_choose hchoose, ?_⟩
    rw [ringName, hnil]
    rfl
  rw [(chooseNode_of_resolveBackend ht hn).2, (chooseNode_of_resolveBackend ht' hn').2]
  change connectionKeyFor inst.node = connectionKeyFor inst'.node
  rw [connectionKeyFor, connectionKeyFor, if_pos hnamed, if_pos (hname ▸ hnamed), hname]

def roomNode (nodeName : String) : NodeId := { host := "10.0.0.1", port := 9302, nodeName }

/-- Two room backends that have just been registered. -/
def twoRooms : ClusterRouter :=
  (({} : ClusterRouter).registerService { node := roomNode "room-1", serviceName := "room" } 0)
    |>.registerService { node := roomNode "room-2", serviceName := "room" } 0

/-- A room on the one backend stays there when the other one fails. -/
theorem resolveBackend_affinity_failover : ∃ t t',
    (({ shardRouter := some {} } : BackendSources).resolveBackend (some twoRooms) .room
      (encodeUtf8 "lobby".toList)).2 = some t ∧
    (({ shardRouter := some {} } : BackendSources).resolveBackend
      (some (twoRooms.markUnhealthy "room" (roomNode "room-1"))) .room
      (encodeUtf8 "lobby".toList)).2 = some t' ∧ t.connectionKey = t'.connectionKey := by
  have hone : PointsApart (twoRooms.markUnhealthy "room" (roomNode "room-1")) .room :=
    ConsistentHashRing.UndisputedRun.nil.concat (.add (encodeUtf8 "room-2".toList))
      (by decide +kernel)
  have htwo : PointsApart twoRooms .room :=
    (ConsistentHashRing.UndisputedRun.nil.concat (.add (encodeUtf8 "room-1".toList))
      (by decide +kernel)).concat (.add (encodeUtf8 "room-2".toList)) (by decide +kernel)
  have ht : (({ shardRouter := some {} } : BackendSources).resolveBackend (some twoRooms) .room
      (encodeUtf8 "lobby".toList)).2 = some (clusterBackend (roomNode "room-2")) := by
    decide +kernel
  have ht' : (({ shardRouter := some {} } : BackendSources).resolveBackend
      (some (twoRooms.markUnhealthy "room" (roomNode "room-1"))) .room
      (encodeUtf8 "lobby".toList)).2 = some (clusterBackend (roomNode "room-2")) := by
    decide +kernel
  exact ⟨_, _, ht, ht', (resolveBackend_affinity rfl (by decide) htwo hone ht ht' rfl rfl
    (by decide +kernel) (by decide +kernel)).2⟩

end BackendSources

end BoostGateway.Gateway
