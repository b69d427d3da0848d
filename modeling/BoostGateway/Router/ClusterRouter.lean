import Mathlib.Algebra.Group.Nat.Defs
import Mathlib.Algebra.Ring.Int.Defs
import Mathlib.Data.List.AList
import Mathlib.Data.List.Nodup
import Mathlib.Logic.Function.Basic
import BoostGateway.Base.Run

/-!
# The cluster router

The route table of `v3::cluster::ClusterRouter` (`cluster_router.cpp`) with its health
checks. Every public call holds the mutex, so a call is one step. A node is known by
its name alone, as in `NodeId::operator==`, and a route holds one instance per node
(`Unique`), so the body of the loop of `run_health_checks` is a function of the
service and the node.

`routes_` is an unordered map : the loop takes the order of the services from outside.
The counters live in two maps of their own under the key `service:node`, and a key
that is not there counts as zero. The remote actor references of `send_to` are left
out, no other call reads them.
-/

namespace BoostGateway.Router

/-- Where a service runs. -/
structure NodeId where
  host : String := ""
  port : UInt16 := 0
  nodeName : String
  deriving DecidableEq

/-- Where an instance stands. -/
inductive ServiceState
  | kUnknown
  | kHealthy
  | kUnhealthy
  | kDraining
  deriving DecidableEq, Repr

/-- An instance of a service. -/
structure ServiceInstance where
  node : NodeId
  serviceName : String
  state : ServiceState := .kUnknown
  lastHeartbeat : ℕ := 0
  registeredAt : ℕ := 0
  weight : UInt32 := 1
  deriving DecidableEq

/-- The instances of a service. -/
structure RouteEntry where
  serviceName : String := ""
  instances : List ServiceInstance := []
  roundRobinIndex : ℕ := 0
  deriving DecidableEq

/-- How many checks change a state. -/
structure HealthCheckConfig where
  failureThreshold : ℕ := 3
  recoveryThreshold : ℕ := 2
  /-- In milliseconds. -/
  drainTimeout : ℤ := 30000

/-- The first instance of a node changes. -/
def updateFirst (node : String) (f : ServiceInstance → ServiceInstance) :
    List ServiceInstance → List ServiceInstance
  | [] => []
  | inst :: rest =>
    if inst.node.nodeName = node then f inst :: rest else inst :: updateFirst node f rest

/-- `ClusterRouter`. -/
structure ClusterRouter where
  config : HealthCheckConfig := {}
  routes : AList fun _ : String => RouteEntry := ∅
  failureCounts : String → ℕ := fun _ => 0
  successCounts : String → ℕ := fun _ => 0

/-- The key of the counters. -/
def countKey (service node : String) : String := service ++ ":" ++ node

namespace ClusterRouter

/-- The instances of the service. -/
def instances (r : ClusterRouter) (service : String) : List ServiceInstance :=
  ((r.routes.lookup service).map RouteEntry.instances).getD []

/-- `find_instance`. -/
def findInstance (r : ClusterRouter) (service node : String) : Option ServiceInstance :=
  (r.instances service).find? (·.node.nodeName = node)

/-- What a call does through the pointer `find_instance` gives it. -/
def modifyInstance (r : ClusterRouter) (service node : String)
    (f : ServiceInstance → ServiceInstance) : ClusterRouter :=
  match r.routes.lookup service with
  | none => r
  | some route =>
    { r with
      routes := r.routes.insert service
        { route with instances := updateFirst node f route.instances } }

/-- The instance as `register_service` stores it. -/
def registered (inst : ServiceInstance) (now : ℕ) : ServiceInstance :=
  { inst with
    registeredAt := now
    lastHeartbeat := now
    state := if inst.state = .kUnknown then .kHealthy else inst.state }

/-- `register_service`. -/
def registerService (r : ClusterRouter) (inst : ServiceInstance) (now : ℕ) : ClusterRouter :=
  let inst := registered inst now
  let route := (r.routes.lookup inst.serviceName).getD {}
  let instances :=
    if (r.findInstance inst.serviceName inst.node.nodeName).isSome then
      updateFirst inst.node.nodeName (fun _ => inst) route.instances
    else route.instances ++ [inst]
  { r with
    routes := r.routes.insert inst.serviceName
      { route with serviceName := inst.serviceName, instances := instances } }

/-- `deregister_service`. -/
def deregisterService (r : ClusterRouter) (service : String) (node : NodeId) : ClusterRouter :=
  match r.routes.lookup service with
  | none => r
  | some route =>
    { r with
      routes := r.routes.insert service
        { route with instances := route.instances.filter (·.node.nodeName ≠ node.nodeName) } }

/-- `discover_all`. -/
def discoverAll (r : ClusterRouter) (service : String) : List ServiceInstance :=
  (r.instances service).filter (·.state = .kHealthy)

/-- `discover` takes the healthy instances in turn; the turn is a 32-bit counter. -/
def discover (r : ClusterRouter) (service : String) : ClusterRouter × Option ServiceInstance :=
  match r.routes.lookup service with
  | none => (r, none)
  | some route =>
    let healthy := route.instances.filter (·.state = .kHealthy)
    if healthy = [] then (r, none)
    else
      ({ r with
          routes := r.routes.insert service
            { route with roundRobinIndex := (route.roundRobinIndex + 1) % 2 ^ 32 } },
        healthy[route.roundRobinIndex % healthy.length]?)

/-- `mark_healthy`. -/
def markHealthy (r : ClusterRouter) (service : String) (node : NodeId) : ClusterRouter :=
  r.modifyInstance service node.nodeName fun inst => { inst with state := .kHealthy }

/-- `mark_unhealthy`. -/
def markUnhealthy (r : ClusterRouter) (service : String) (node : NodeId) : ClusterRouter :=
  r.modifyInstance service node.nodeName fun inst => { inst with state := .kUnhealthy }

/-- `start_drain`. -/
def startDrain (r : ClusterRouter) (service : String) (node : NodeId) (now : ℕ) : ClusterRouter :=
  r.modifyInstance service node.nodeName fun inst =>
    { inst with state := .kDraining, lastHeartbeat := now }

/-- The drain of an instance is over at the time `now`; the clock counts nanoseconds. -/
def drainTimedOut (r : ClusterRouter) (inst : ServiceInstance) (now : ℕ) : Bool :=
  r.config.drainTimeout * 1000000 < (now : ℤ) - inst.lastHeartbeat

/-- The successful check of an instance brings it back. -/
def recovers (r : ClusterRouter) (service : String) (inst : ServiceInstance) : Bool :=
  inst.state = .kUnhealthy ∧ r.config.recoveryThreshold ≤
    (r.successCounts (countKey service inst.node.nodeName) + 1) % 2 ^ 32

/-- The failed check of an instance takes it out. -/
def fails (r : ClusterRouter) (service : String) (inst : ServiceInstance) : Bool :=
  r.config.failureThreshold ≤
    (r.failureCounts (countKey service inst.node.nodeName) + 1) % 2 ^ 32

/-- The body of the loop of `run_health_checks` after `health_check_fn_` said `alive`. -/
def checked (r : ClusterRouter) (service : String) (inst : ServiceInstance) (alive : Bool)
    (now : ℕ) : ClusterRouter :=
  let key := countKey service inst.node.nodeName
  if alive then
    let recovers := r.recovers service inst
    { r.modifyInstance service inst.node.nodeName fun inst =>
        { inst with
          state := if recovers then .kHealthy else inst.state
          lastHeartbeat := now } with
      successCounts := Function.update r.successCounts key
        (if recovers then 0 else (r.successCounts key + 1) % 2 ^ 32)
      failureCounts := Function.update r.failureCounts key 0 }
  else
    let fails := r.fails service inst
    { r.modifyInstance service inst.node.nodeName fun inst =>
        { inst with state := if fails then .kUnhealthy else inst.state } with
      failureCounts := Function.update r.failureCounts key ((r.failureCounts key + 1) % 2 ^ 32)
      successCounts := Function.update r.successCounts key 0 }

/-- The body of the loop of `run_health_checks` for one instance. -/
def checkInstance (r : ClusterRouter) (service node : String) (alive : Bool) (now : ℕ) :
    ClusterRouter :=
  match r.findInstance service node with
  | none => r
  | some inst =>
    if inst.state = .kDraining then
      if r.drainTimedOut inst now then
        r.modifyInstance service node fun inst => { inst with state := .kUnhealthy }
      else r
    else r.checked service inst alive now

/-- The instances `run_health_checks` goes through, with the services in the given order. -/
def visits (r : ClusterRouter) (order : List String) : List (String × String) :=
  order.flatMap fun service => (r.instances service).map fun inst => (service, inst.node.nodeName)

/-- `run_health_checks` with the answers of `health_check_fn_`. -/
def runHealthChecks (r : ClusterRouter) (order : List String) (alive : String → String → Bool)
    (now : ℕ) : ClusterRouter :=
  (r.visits order).foldl (fun r v => r.checkInstance v.1 v.2 (alive v.1 v.2) now) r

/-! ## What a call changes

`findInstance` after a call, at any service and node. -/

variable {r : ClusterRouter} {service s node n : String}

/-- The state of an instance, `none` when it is not registered. -/
def stateOf (r : ClusterRouter) (service node : String) : Option ServiceState :=
  (r.findInstance service node).map ServiceInstance.state

variable {f : ServiceInstance → ServiceInstance}

theorem find?_updateFirst
    (hf : ∀ inst, inst.node.nodeName = node → (f inst).node.nodeName = node)
    (l : List ServiceInstance) :
    (updateFirst node f l).find? (·.node.nodeName = n) =
      if n = node then (l.find? (·.node.nodeName = n)).map f
      else l.find? (·.node.nodeName = n) := by
  induction l with
  | nil => simp [updateFirst]
  | cons inst rest ih =>
    by_cases hnode : inst.node.nodeName = node
    · have hn := hf inst hnode
      by_cases h : n = node
      · simp [updateFirst, hnode, hn, h]
      · have h' : node ≠ n := fun he => h he.symm
        simp [updateFirst, hnode, hn, h, h']
    · rw [updateFirst, if_neg hnode, List.find?_cons, List.find?_cons, ih]
      by_cases hinst : inst.node.nodeName = n
      · have hne : n ≠ node := fun he => hnode (hinst.trans he)
        simp [hinst, hne]
      · simp [hinst]

theorem map_nodeName_updateFirst
    (hf : ∀ inst, inst.node.nodeName = node → (f inst).node.nodeName = node)
    (l : List ServiceInstance) :
    (updateFirst node f l).map (·.node.nodeName) = l.map (·.node.nodeName) := by
  induction l with
  | nil => rfl
  | cons inst rest ih =>
    rw [updateFirst]
    split_ifs with h
    · rw [List.map_cons, List.map_cons, hf inst h, h]
    · rw [List.map_cons, List.map_cons, ih]

theorem instances_insert (routes : AList fun _ : String => RouteEntry) (route : RouteEntry) :
    ({ r with routes := routes.insert service route } : ClusterRouter).instances s =
      if s = service then route.instances else ({ r with routes := routes }).instances s := by
  unfold instances
  by_cases h : s = service
  · subst h
    simp [AList.lookup_insert]
  · simp [AList.lookup_insert_ne h, h]

theorem instances_of_lookup {route : RouteEntry} (h : r.routes.lookup service = some route) :
    r.instances service = route.instances := by
  simp [instances, h]

theorem instances_modifyInstance (f : ServiceInstance → ServiceInstance) :
    (r.modifyInstance service node f).instances s =
      if s = service then updateFirst node f (r.instances s) else r.instances s := by
  unfold modifyInstance
  cases hl : r.routes.lookup service with
  | none =>
    split_ifs with h
    · subst h
      simp [instances, hl, updateFirst]
    · rfl
  | some route =>
    dsimp only
    rw [instances_insert]
    split_ifs with h
    · rw [h, instances_of_lookup hl]
    · rfl

theorem findInstance_modifyInstance
    (hf : ∀ inst, (f inst).node = inst.node) :
    (r.modifyInstance service node f).findInstance s n =
      if s = service ∧ n = node then (r.findInstance s n).map f else r.findInstance s n := by
  unfold findInstance
  rw [instances_modifyInstance]
  by_cases h : s = service
  · rw [if_pos h, find?_updateFirst fun inst hi => by rw [hf, hi]]
    simp [h]
  · simp [h]

theorem instances_registerService (inst : ServiceInstance) (now : ℕ) :
    (r.registerService inst now).instances s =
      if s = inst.serviceName then
        if (r.findInstance inst.serviceName inst.node.nodeName).isSome then
          updateFirst inst.node.nodeName (fun _ => registered inst now) (r.instances s)
        else r.instances s ++ [registered inst now]
      else r.instances s := by
  have hroute : ((r.routes.lookup (registered inst now).serviceName).getD {}).instances =
      r.instances inst.serviceName := by
    unfold instances
    change ((r.routes.lookup inst.serviceName).getD {}).instances = _
    cases r.routes.lookup inst.serviceName <;> rfl
  simp only [registerService, instances_insert, hroute]
  by_cases hs : s = inst.serviceName
  · subst hs
    rfl
  · exact (if_neg hs).trans (if_neg hs).symm

theorem findInstance_registerService (inst : ServiceInstance) (now : ℕ) :
    (r.registerService inst now).findInstance s n =
      if s = inst.serviceName ∧ n = inst.node.nodeName then some (registered inst now)
      else r.findInstance s n := by
  have hnode : (registered inst now).node.nodeName = inst.node.nodeName := rfl
  rw [findInstance, instances_registerService]
  by_cases hs : s = inst.serviceName
  · subst hs
    simp only [if_true, true_and]
    split_ifs with hfound hn hn
    · subst hn
      rw [find?_updateFirst fun _ _ => hnode, if_pos rfl]
      obtain ⟨old, hold⟩ := Option.isSome_iff_exists.mp hfound
      rw [← findInstance, hold]
      rfl
    · rw [find?_updateFirst fun _ _ => hnode, if_neg hn]
      rfl
    · subst hn
      rw [List.find?_append, ← findInstance, Option.not_isSome_iff_eq_none.mp hfound]
      simp [hnode]
    · have hn' : inst.node.nodeName ≠ n := fun he => hn he.symm
      rw [List.find?_append, ← findInstance]
      simp [hn', hnode]
  · simp [hs, findInstance]

theorem instances_deregisterService (node : NodeId) :
    (r.deregisterService service node).instances s =
      if s = service then (r.instances s).filter (·.node.nodeName ≠ node.nodeName)
      else r.instances s := by
  unfold deregisterService
  cases hl : r.routes.lookup service with
  | none =>
    split_ifs with h
    · subst h
      simp [instances, hl]
    · rfl
  | some route =>
    dsimp only
    rw [instances_insert]
    split_ifs with h
    · rw [h, instances_of_lookup hl]
    · rfl

theorem findInstance_deregisterService (node : NodeId) :
    (r.deregisterService service node).findInstance s n =
      if s = service ∧ n = node.nodeName then none else r.findInstance s n := by
  rw [findInstance, instances_deregisterService]
  by_cases hs : s = service
  · subst hs
    rw [if_pos rfl, List.find?_filter]
    by_cases hn : n = node.nodeName
    · subst hn
      simp
    · rw [if_neg fun h => hn h.2, findInstance]
      congr 1
      funext inst
      by_cases hi : inst.node.nodeName = n
      · simp [hi, hn]
      · simp [hi]
  · simp [hs, findInstance]

theorem instances_discover : (r.discover service).1.instances s = r.instances s := by
  unfold discover
  cases hl : r.routes.lookup service with
  | none => rfl
  | some route =>
    dsimp only
    split_ifs with h
    · rfl
    · rw [instances_insert]
      split_ifs with hs
      · rw [hs, instances_of_lookup hl]
      · rfl

/-- An instance that is healthy is the one with its name. -/
theorem mem_discoverAll {inst : ServiceInstance}
    (hu : ((r.instances service).map (·.node.nodeName)).Nodup)
    (h : inst ∈ r.discoverAll service) :
    r.stateOf service inst.node.nodeName = some .kHealthy := by
  obtain ⟨hmem, hstate⟩ := List.mem_filter.mp h
  have hfind : r.findInstance service inst.node.nodeName = some inst := by
    unfold findInstance
    generalize r.instances service = l at hu hmem
    induction l with
    | nil => simp at hmem
    | cons x l ih =>
      rw [List.map_cons, List.nodup_cons] at hu
      rw [List.find?_cons]
      rcases List.mem_cons.mp hmem with rfl | hmem
      · simp
      · have hne : x.node.nodeName ≠ inst.node.nodeName := fun he =>
          hu.1 (he ▸ List.mem_map_of_mem hmem)
        simp [hne, ih hu.2 hmem]
  rw [stateOf, hfind]
  simpa using hstate

/-! ## One health check -/

/-- The check of an instance ends its drain. -/
def expires (r : ClusterRouter) (service node : String) (now : ℕ) : Bool :=
  match r.findInstance service node with
  | none => false
  | some inst => inst.state = .kDraining ∧ r.drainTimedOut inst now

theorem instances_checked (r : ClusterRouter) (service : String) (inst : ServiceInstance)
    (alive : Bool) (now : ℕ) :
    ∃ f : ServiceInstance → ServiceInstance, (∀ x, (f x).node = x.node) ∧
      ∀ s, (r.checked service inst alive now).instances s =
        (r.modifyInstance service inst.node.nodeName f).instances s := by
  cases alive with
  | false =>
    exact ⟨fun x => { x with state := if r.fails service inst then .kUnhealthy else x.state },
      fun _ => rfl, fun _ => rfl⟩
  | true =>
    exact ⟨fun x => { x with
      state := if r.recovers service inst then .kHealthy else x.state
      lastHeartbeat := now }, fun _ => rfl, fun _ => rfl⟩

theorem nodeName_of_findInstance {inst : ServiceInstance}
    (h : r.findInstance service node = some inst) : inst.node.nodeName = node := by
  simpa using List.find?_some h

theorem stateOf_modifyInstance
    (hf : ∀ inst, (f inst).node = inst.node) :
    (r.modifyInstance service node f).stateOf s n =
      if s = service ∧ n = node then (r.findInstance s n).map fun inst => (f inst).state
      else r.stateOf s n := by
  rw [stateOf, findInstance_modifyInstance hf]
  split_ifs
  · rw [Option.map_map]
    rfl
  · rfl

/-- An instance that `modifyInstance` changes gets the state `f` gives. -/
theorem stateOf_modifyInstance_ne {state st : ServiceState} {f : ServiceInstance → ServiceInstance}
    (h : (r.modifyInstance s n f).stateOf service node = some state)
    (hne : r.stateOf service node ≠ some state)
    (hf : ∀ inst, (f inst).node = inst.node) (hst : ∀ inst, (f inst).state = st) :
    r.stateOf service node ≠ none ∧ s = service ∧ n = node ∧ state = st := by
  rw [stateOf_modifyInstance hf] at h
  split_ifs at h with heq
  · obtain ⟨inst, hfind, rfl⟩ := Option.map_eq_some_iff.mp h
    exact ⟨by simp [stateOf, hfind], heq.1.symm, heq.2.symm, hst inst⟩
  · exact absurd h hne

/-- What the check of an instance does to it and to its counters. -/
inductive CheckResult (r r' : ClusterRouter) (service node : String) (now : ℕ) : Bool → Prop
  | absent {alive : Bool} : r.stateOf service node = none → r' = r →
      CheckResult r r' service node now alive
  | draining {alive : Bool} : r.stateOf service node = some .kDraining → r' = r →
      CheckResult r r' service node now alive
  | expired {alive : Bool} : r.stateOf service node = some .kDraining →
      r.expires service node now → r'.stateOf service node = some .kUnhealthy →
      r'.successCounts = r.successCounts → r'.failureCounts = r.failureCounts →
      CheckResult r r' service node now alive
  | alive {state : ServiceState} {recovers : Bool} : r.stateOf service node = some state →
      state ≠ .kDraining →
      recovers = (state = .kUnhealthy ∧ r.config.recoveryThreshold ≤
        (r.successCounts (countKey service node) + 1) % 2 ^ 32 : Bool) →
      r'.stateOf service node = some (if recovers then .kHealthy else state) →
      r'.successCounts = Function.update r.successCounts (countKey service node)
        (if recovers then 0 else (r.successCounts (countKey service node) + 1) % 2 ^ 32) →
      r'.failureCounts = Function.update r.failureCounts (countKey service node) 0 →
      CheckResult r r' service node now true
  | dead {state : ServiceState} {fails : Bool} : r.stateOf service node = some state →
      state ≠ .kDraining →
      fails = (r.config.failureThreshold ≤
        (r.failureCounts (countKey service node) + 1) % 2 ^ 32 : Bool) →
      r'.stateOf service node = some (if fails then .kUnhealthy else state) →
      r'.failureCounts = Function.update r.failureCounts (countKey service node)
        ((r.failureCounts (countKey service node) + 1) % 2 ^ 32) →
      r'.successCounts = Function.update r.successCounts (countKey service node) 0 →
      CheckResult r r' service node now false

@[simp] theorem modifyInstance_config (f : ServiceInstance → ServiceInstance) :
    (r.modifyInstance service node f).config = r.config := by
  unfold modifyInstance
  split <;> rfl

@[simp] theorem modifyInstance_successCounts (f : ServiceInstance → ServiceInstance) :
    (r.modifyInstance service node f).successCounts = r.successCounts := by
  unfold modifyInstance
  split <;> rfl

@[simp] theorem modifyInstance_failureCounts (f : ServiceInstance → ServiceInstance) :
    (r.modifyInstance service node f).failureCounts = r.failureCounts := by
  unfold modifyInstance
  split <;> rfl

theorem checkInstance_result (r : ClusterRouter) (service node : String) (alive : Bool) (now : ℕ) :
    CheckResult r (r.checkInstance service node alive now) service node now alive := by
  cases hfind : r.findInstance service node with
  | none =>
    refine .absent (by simp [stateOf, hfind]) ?_
    simp [checkInstance, hfind]
  | some inst =>
    have hname := nodeName_of_findInstance hfind
    have hstate : r.stateOf service node = some inst.state := by simp [stateOf, hfind]
    by_cases hd : inst.state = .kDraining
    · by_cases ht : r.drainTimedOut inst now
      · have heq : r.checkInstance service node alive now =
            r.modifyInstance service node fun inst => { inst with state := .kUnhealthy } := by
          simp [checkInstance, hfind, hd, ht]
        rw [heq]
        refine .expired (by rw [hstate, hd]) ?_ ?_ ?_ ?_
        · simp [expires, hfind, hd, ht]
        · rw [stateOf_modifyInstance, if_pos ⟨rfl, rfl⟩, hfind]
          · rfl
          · exact fun _ => rfl
        · simp
        · simp
      · refine .draining (by rw [hstate, hd]) ?_
        simp [checkInstance, hfind, hd, ht]
    · have heq : r.checkInstance service node alive now = r.checked service inst alive now := by
        simp [checkInstance, hfind, hd]
      rw [heq, checked, hname]
      cases alive with
      | true =>
        refine .alive hstate hd rfl ?_ ?_ ?_
        · rw [if_pos rfl]
          change ClusterRouter.stateOf (r.modifyInstance service node _) service node = _
          rw [stateOf_modifyInstance, if_pos ⟨rfl, rfl⟩, hfind]
          · simp only [Option.map_some, recovers, hname]
          · exact fun _ => rfl
        · simp [recovers, hname]
        · simp
      | false =>
        refine .dead hstate hd rfl ?_ ?_ ?_
        · rw [if_neg Bool.false_ne_true]
          change ClusterRouter.stateOf (r.modifyInstance service node _) service node = _
          rw [stateOf_modifyInstance, if_pos ⟨rfl, rfl⟩, hfind]
          · simp only [Option.map_some, fails, hname]
          · exact fun _ => rfl
        · simp
        · simp

theorem checkInstance_config (alive : Bool) (now : ℕ) :
    (r.checkInstance service node alive now).config = r.config := by
  unfold checkInstance
  cases r.findInstance service node with
  | none => rfl
  | some inst =>
    dsimp only [checked]
    split_ifs <;> simp

theorem findInstance_checkInstance_of_ne (alive : Bool) (now : ℕ)
    (h : ¬(s = service ∧ n = node)) :
    (r.checkInstance service node alive now).findInstance s n = r.findInstance s n := by
  unfold checkInstance
  cases hfind : r.findInstance service node with
  | none => rfl
  | some inst =>
    have hname := nodeName_of_findInstance hfind
    dsimp only
    split_ifs
    · rw [findInstance_modifyInstance, if_neg h]
      exact fun _ => rfl
    · rfl
    · obtain ⟨f, hf, heq⟩ := instances_checked r service inst alive now
      have hsame : (r.checked service inst alive now).findInstance s n =
          (r.modifyInstance service inst.node.nodeName f).findInstance s n := by
        rw [findInstance, findInstance, heq]
      rw [hsame, findInstance_modifyInstance hf, hname, if_neg h]

theorem stateOf_checkInstance_of_ne (alive : Bool) (now : ℕ) (h : ¬(s = service ∧ n = node)) :
    (r.checkInstance service node alive now).stateOf s n = r.stateOf s n := by
  rw [stateOf, findInstance_checkInstance_of_ne alive now h, stateOf]

theorem stateOf_of_expires {now : ℕ} (h : r.expires service node now) :
    r.stateOf service node = some .kDraining := by
  unfold expires at h
  unfold stateOf
  cases hfind : r.findInstance service node with
  | none => simp [hfind] at h
  | some inst =>
    simp only [hfind, decide_eq_true_eq] at h
    simp [h.1]

/-! ## Unique instances -/

/-- A route holds one instance per node. -/
def Unique (r : ClusterRouter) : Prop :=
  ∀ service, ((r.instances service).map (·.node.nodeName)).Nodup

theorem unique_init (config : HealthCheckConfig) : Unique { config := config } :=
  fun _ => List.nodup_nil

theorem Unique.congr {r' : ClusterRouter} (h : Unique r)
    (heq : ∀ s, (r'.instances s).map (·.node.nodeName) = (r.instances s).map (·.node.nodeName)) :
    Unique r' := fun s => heq s ▸ h s

theorem Unique.modifyInstance (h : Unique r) {f : ServiceInstance → ServiceInstance}
    (hf : ∀ inst, (f inst).node = inst.node) : Unique (r.modifyInstance service node f) := by
  refine h.congr fun s => ?_
  rw [instances_modifyInstance]
  split_ifs
  · exact map_nodeName_updateFirst (fun inst hi => by rw [hf, hi]) _
  · rfl

theorem Unique.registerService (h : Unique r) (inst : ServiceInstance) (now : ℕ) :
    Unique (r.registerService inst now) := by
  intro s
  rw [instances_registerService]
  split_ifs with hs hfound
  · have hname : ∀ x : ServiceInstance, x.node.nodeName = inst.node.nodeName →
        (registered inst now).node.nodeName = inst.node.nodeName := fun _ _ => rfl
    rw [map_nodeName_updateFirst hname]
    exact h s
  · have hnone : ∀ x ∈ r.instances s, x.node.nodeName ≠ inst.node.nodeName := by
      rw [Option.not_isSome_iff_eq_none, findInstance, List.find?_eq_none, ← hs] at hfound
      simpa using hfound
    rw [List.map_append, List.nodup_append]
    refine ⟨h s, List.nodup_singleton _, ?_⟩
    rintro _ hx _ hy rfl
    obtain ⟨x, hmem, hxe⟩ := List.mem_map.mp hx
    exact hnone x hmem (hxe.trans (List.mem_singleton.mp hy))
  · exact h s

theorem Unique.deregisterService (h : Unique r) (node : NodeId) :
    Unique (r.deregisterService service node) := by
  intro s
  rw [instances_deregisterService]
  split_ifs
  · exact (h s).sublist (List.filter_sublist.map _)
  · exact h s

theorem Unique.discover (h : Unique r) : Unique (r.discover service).1 :=
  h.congr fun s => by rw [instances_discover]

theorem Unique.checkInstance (h : Unique r) (alive : Bool) (now : ℕ) :
    Unique (r.checkInstance service node alive now) := by
  unfold ClusterRouter.checkInstance
  cases r.findInstance service node with
  | none => exact h
  | some inst =>
    dsimp only
    split_ifs
    · exact h.modifyInstance fun _ => rfl
    · exact h
    · obtain ⟨f, hf, heq⟩ := instances_checked r service inst alive now
      exact (h.modifyInstance hf).congr fun s => by rw [heq]

end ClusterRouter

/-! ## Runs -/

/-- The calls and the health checks. -/
inductive RouterAction
  | registerService (inst : ServiceInstance)
  | deregisterService (service : String) (node : NodeId)
  | discover (service : String)
  | markHealthy (service : String) (node : NodeId)
  | markUnhealthy (service : String) (node : NodeId)
  | startDrain (service : String) (node : NodeId)
  /-- With an order of the services and the answers of `health_check_fn_`. -/
  | runHealthChecks (order : List String) (alive : String → String → Bool)
  | advance (d : ℕ)

/-- A router and the time. -/
structure Routing where
  router : ClusterRouter
  now : ℕ := 0

namespace Routing

/-- A call that makes no health check. -/
def call (s : Routing) : RouterAction → Routing
  | .registerService inst => { s with router := s.router.registerService inst s.now }
  | .deregisterService service node =>
    { s with router := s.router.deregisterService service node }
  | .discover service => { s with router := (s.router.discover service).1 }
  | .markHealthy service node => { s with router := s.router.markHealthy service node }
  | .markUnhealthy service node => { s with router := s.router.markUnhealthy service node }
  | .startDrain service node => { s with router := s.router.startDrain service node s.now }
  | .runHealthChecks _ _ => s
  | .advance d => { s with now := s.now + d }

/-- One call, or one round of checks. -/
def step (s : Routing) : RouterAction → Option Routing
  | .runHealthChecks order alive =>
    if order.Perm s.router.routes.keys then
      some { s with router := s.router.runHealthChecks order alive s.now }
    else none
  | a => some (s.call a)

/-- The states a router with any configuration reaches by actions that meet `ok`. -/
abbrev Reaches (ok : Routing → RouterAction → Prop) : Routing → Prop :=
  BoostGateway.Reaches (fun s => ∃ config, s = { router := { config := config } }) step ok

theorem call_config (t : Routing) (a : RouterAction) :
    (t.call a).router.config = t.router.config := by
  cases a with
  | deregisterService service node =>
    simp only [Routing.call, ClusterRouter.deregisterService]
    split <;> rfl
  | discover service =>
    simp only [Routing.call, ClusterRouter.discover]
    split
    · rfl
    · split_ifs <;> rfl
  | markHealthy | markUnhealthy | startDrain => exact ClusterRouter.modifyInstance_config _
  | _ => rfl

theorem call_counts (t : Routing) (a : RouterAction) :
    (t.call a).router.successCounts = t.router.successCounts ∧
      (t.call a).router.failureCounts = t.router.failureCounts := by
  cases a with
  | deregisterService service node =>
    simp only [Routing.call, ClusterRouter.deregisterService]
    split <;> exact ⟨rfl, rfl⟩
  | discover service =>
    simp only [Routing.call, ClusterRouter.discover]
    split
    · exact ⟨rfl, rfl⟩
    · split_ifs <;> exact ⟨rfl, rfl⟩
  | markHealthy | markUnhealthy | startDrain =>
    exact ⟨ClusterRouter.modifyInstance_successCounts _,
      ClusterRouter.modifyInstance_failureCounts _⟩
  | _ => exact ⟨rfl, rfl⟩

/-- The state a call gives an instance it changes. -/
theorem stateOf_call {t : Routing} {a : RouterAction} {service node : String}
    {state : ServiceState} (h : (t.call a).router.stateOf service node = some state)
    (hne : t.router.stateOf service node ≠ some state) :
    (∃ inst, a = .registerService inst ∧ service = inst.serviceName ∧
        node = inst.node.nodeName ∧ state = (ClusterRouter.registered inst t.now).state) ∨
      t.router.stateOf service node ≠ none ∧ ∃ n : NodeId, node = n.nodeName ∧
        (a = .markHealthy service n ∧ state = .kHealthy ∨
          a = .markUnhealthy service n ∧ state = .kUnhealthy ∨
          a = .startDrain service n ∧ state = .kDraining) := by
  cases a with
  | registerService inst =>
    refine .inl ⟨inst, rfl, ?_⟩
    simp only [Routing.call, ClusterRouter.stateOf,
      ClusterRouter.findInstance_registerService] at h
    split_ifs at h with heq
    · exact ⟨heq.1, heq.2, (Option.some_inj.mp h).symm⟩
    · exact absurd h hne
  | deregisterService s n =>
    simp only [Routing.call, ClusterRouter.stateOf,
      ClusterRouter.findInstance_deregisterService] at h
    split_ifs at h
    · simp at h
    · exact absurd h hne
  | discover s =>
    simp only [Routing.call, ClusterRouter.stateOf, ClusterRouter.findInstance,
      ClusterRouter.instances_discover] at h
    exact absurd h hne
  | markHealthy s n =>
    obtain ⟨hreg, rfl, rfl, rfl⟩ :=
      ClusterRouter.stateOf_modifyInstance_ne h hne (fun _ => rfl) fun _ => rfl
    exact .inr ⟨hreg, n, rfl, .inl ⟨rfl, rfl⟩⟩
  | markUnhealthy s n =>
    obtain ⟨hreg, rfl, rfl, rfl⟩ :=
      ClusterRouter.stateOf_modifyInstance_ne h hne (fun _ => rfl) fun _ => rfl
    exact .inr ⟨hreg, n, rfl, .inr (.inl ⟨rfl, rfl⟩)⟩
  | startDrain s n =>
    obtain ⟨hreg, rfl, rfl, rfl⟩ :=
      ClusterRouter.stateOf_modifyInstance_ne h hne (fun _ => rfl) fun _ => rfl
    exact .inr ⟨hreg, n, rfl, .inr (.inr ⟨rfl, rfl⟩)⟩
  | runHealthChecks => exact absurd h hne
  | advance => exact absurd h hne

end Routing

end BoostGateway.Router
