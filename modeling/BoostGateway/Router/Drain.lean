import BoostGateway.Router.ClusterRouter

/-!
# A drained instance

`start_drain` takes an instance out of rotation : `discover` and `discover_all` return
healthy instances only. The drain ends by a timeout that makes the instance unhealthy
(`cluster_router.cpp:128-134`), and an unhealthy instance that answers its checks comes
back as any other does. So a drained instance stays out, whatever else happens, until
a check finds it unhealthy, alive and with its successes counted up to the recovery
threshold : `stays_out`.
-/

namespace BoostGateway.Router

/-- `discover` or `discover_all` returns the instance. -/
def ClusterRouter.Routes (r : ClusterRouter) (service node : String) : Prop :=
  (∃ inst ∈ r.discoverAll service, inst.node.nodeName = node) ∨
    ∃ inst, (r.discover service).2 = some inst ∧ inst.node.nodeName = node

/-- The check of an unhealthy instance brings it back. -/
def ClusterRouter.Recovers (r : ClusterRouter) (service node : String) (alive : Bool) : Prop :=
  alive ∧ r.stateOf service node = some .kUnhealthy ∧
    r.config.recoveryThreshold ≤ (r.successCounts (countKey service node) + 1) % 2 ^ 32

instance (r : ClusterRouter) (service node : String) (alive : Bool) :
    Decidable (r.Recovers service node alive) := inferInstanceAs (Decidable (_ ∧ _ ∧ _))

namespace Routing

/-- A call of `start_drain` in any state that can be reached. -/
def Drained (service : String) (node : NodeId) (s : Routing) : Prop :=
  ∃ s₀, Reaches (fun _ _ => True) s₀ ∧ s = s₀.call (.startDrain service node)

/-- Neither `register_service` nor `mark_healthy` is called for the instance. -/
def Untouched (service : String) (node : NodeId) : RouterAction → Prop
  | .registerService inst => ¬(inst.serviceName = service ∧ inst.node.nodeName = node.nodeName)
  | .markHealthy s n => ¬(s = service ∧ n.nodeName = node.nodeName)
  | _ => True

/-- No check of the instance on the way through `visits` brings it back. -/
def NoRecovery (service node : String) (alive : String → String → Bool) (now : ℕ) :
    List (String × String) → ClusterRouter → Prop
  | [], _ => True
  | v :: vs, r =>
    (v = (service, node) → ¬r.Recovers service node (alive service node)) ∧
      NoRecovery service node alive now vs (r.checkInstance v.1 v.2 (alive v.1 v.2) now)

/-- The instance is left alone, and no check brings it back. -/
def LeftOut (service : String) (node : NodeId) (s : Routing) (a : RouterAction) : Prop :=
  Untouched service node a ∧
    match a with
    | .runHealthChecks order alive =>
      NoRecovery service node.nodeName alive s.now (s.router.visits order) s.router
    | _ => True

instance (service : String) (node : NodeId) (a : RouterAction) :
    Decidable (Untouched service node a) :=
  match a with
  | .registerService _ => inferInstanceAs (Decidable (¬_))
  | .markHealthy _ _ => inferInstanceAs (Decidable (¬_))
  | .deregisterService _ _ => .isTrue trivial
  | .discover _ => .isTrue trivial
  | .markUnhealthy _ _ => .isTrue trivial
  | .startDrain _ _ => .isTrue trivial
  | .runHealthChecks _ _ => .isTrue trivial
  | .advance _ => .isTrue trivial

instance decNoRecovery (service node : String) (alive : String → String → Bool) (now : ℕ) :
    (vs : List (String × String)) → (r : ClusterRouter) →
      Decidable (NoRecovery service node alive now vs r)
  | [], _ => .isTrue trivial
  | _ :: vs, _ =>
    have := decNoRecovery service node alive now vs
    inferInstanceAs (Decidable (_ ∧ _))

instance (service : String) (node : NodeId) (s : Routing) (a : RouterAction) :
    Decidable (LeftOut service node s a) :=
  match a with
  | .runHealthChecks _ _ => inferInstanceAs (Decidable (_ ∧ NoRecovery ..))
  | .registerService _ => inferInstanceAs (Decidable (_ ∧ True))
  | .markHealthy _ _ => inferInstanceAs (Decidable (_ ∧ True))
  | .deregisterService _ _ => inferInstanceAs (Decidable (_ ∧ True))
  | .discover _ => inferInstanceAs (Decidable (_ ∧ True))
  | .markUnhealthy _ _ => inferInstanceAs (Decidable (_ ∧ True))
  | .startDrain _ _ => inferInstanceAs (Decidable (_ ∧ True))
  | .advance _ => inferInstanceAs (Decidable (_ ∧ True))

/-! ## What stays out is not routed to -/

variable {r : ClusterRouter} {service node : String}

theorem mem_discoverAll_of_discover {inst : ServiceInstance}
    (h : (r.discover service).2 = some inst) : inst ∈ r.discoverAll service := by
  unfold ClusterRouter.discover at h
  cases hl : r.routes.lookup service with
  | none => simp [hl] at h
  | some route =>
    simp only [hl] at h
    split_ifs at h
    have hmem := List.mem_of_getElem? h
    rwa [ClusterRouter.discoverAll, ClusterRouter.instances_of_lookup hl]

/-- A route with one instance per node returns an instance only while it is healthy. -/
theorem not_routes (hu : r.Unique) (h : r.stateOf service node ≠ some .kHealthy) :
    ¬r.Routes service node := by
  rintro (⟨inst, hmem, rfl⟩ | ⟨inst, hd, rfl⟩)
  · exact h (ClusterRouter.mem_discoverAll (hu service) hmem)
  · exact h (ClusterRouter.mem_discoverAll (hu service) (mem_discoverAll_of_discover hd))

/-! ## Runs -/

theorem unique_call {s : Routing} (h : s.router.Unique) (a : RouterAction) :
    (s.call a).router.Unique := by
  cases a with
  | registerService inst => exact h.registerService inst s.now
  | deregisterService service node => exact h.deregisterService node
  | discover service => exact h.discover
  | markHealthy | markUnhealthy | startDrain => exact h.modifyInstance fun _ => rfl
  | runHealthChecks | advance => exact h

theorem unique_runHealthChecks (h : r.Unique) (alive : String → String → Bool) (now : ℕ)
    (vs : List (String × String)) :
    (vs.foldl (fun r v => r.checkInstance v.1 v.2 (alive v.1 v.2) now) r).Unique := by
  induction vs generalizing r with
  | nil => exact h
  | cons v vs ih => exact ih (h.checkInstance _ now)

theorem unique_step {s s' : Routing} {a : RouterAction} (h : s.router.Unique)
    (hs : s.step a = some s') : s'.router.Unique := by
  cases a with
  | runHealthChecks order alive =>
    simp only [step] at hs
    split_ifs at hs
    obtain rfl := Option.some_inj.mp hs
    exact unique_runHealthChecks h alive s.now _
  | _ =>
    obtain rfl := Option.some_inj.mp hs
    exact unique_call h _

theorem unique_of_reaches {ok : Routing → RouterAction → Prop} {s : Routing}
    (h : Reaches ok s) : s.router.Unique := by
  refine h.invariant ?_ fun s a s' hu _ hs => unique_step hu hs
  rintro s ⟨config, rfl⟩
  exact ClusterRouter.unique_init config

theorem checkInstance_ne_healthy {s n : String} {alive : Bool} {now : ℕ}
    (h : r.stateOf service node ≠ some .kHealthy)
    (hn : (s, n) = (service, node) → ¬r.Recovers service node alive) :
    (r.checkInstance s n alive now).stateOf service node ≠ some .kHealthy := by
  by_cases heq : service = s ∧ node = n
  · obtain ⟨rfl, rfl⟩ := heq
    have hn := hn rfl
    cases r.checkInstance_result service node alive now with
    | absent _ hr => rwa [hr]
    | draining _ hr => rwa [hr]
    | expired _ _ hst => simp [hst]
    | alive hst _ hrec hst' =>
      subst hrec
      rw [hst']
      split_ifs with hc
      · have hc := of_decide_eq_true hc
        exact absurd ⟨rfl, hc.1 ▸ hst, hc.2⟩ hn
      · exact hst ▸ h
    | dead hst _ _ hst' =>
      rw [hst']
      split_ifs
      · simp
      · exact hst ▸ h
  · rwa [ClusterRouter.stateOf_checkInstance_of_ne alive now heq]

theorem checks_ne_healthy {alive : String → String → Bool} {now : ℕ}
    {vs : List (String × String)} (h : r.stateOf service node ≠ some .kHealthy)
    (hn : NoRecovery service node alive now vs r) :
    (vs.foldl (fun r v => r.checkInstance v.1 v.2 (alive v.1 v.2) now) r).stateOf service node ≠
      some .kHealthy := by
  induction vs generalizing r with
  | nil => exact h
  | cons v vs ih =>
    refine ih (checkInstance_ne_healthy h fun hv => ?_) hn.2
    have hv' : v.1 = service ∧ v.2 = node := Prod.mk.inj hv
    rw [hv'.1, hv'.2]
    exact hn.1 hv

theorem step_ne_healthy {node : NodeId} {s s' : Routing} {a : RouterAction}
    (h : s.router.stateOf service node.nodeName ≠ some .kHealthy) (ha : LeftOut service node s a)
    (hs : s.step a = some s') : s'.router.stateOf service node.nodeName ≠ some .kHealthy := by
  have hcall : ∀ b, Untouched service node b →
      (s.call b).router.stateOf service node.nodeName ≠ some .kHealthy := by
    intro b hb hst
    rcases stateOf_call hst h with ⟨inst, rfl, hserv, hnode, -⟩ | ⟨-, n, hn, ⟨rfl, -⟩ | hother⟩
    · exact hb ⟨hserv.symm, hnode.symm⟩
    · exact hb ⟨rfl, hn.symm⟩
    · rcases hother with ⟨-, hstate⟩ | ⟨-, hstate⟩ <;> cases hstate
  cases a with
  | runHealthChecks order alive =>
    simp only [step] at hs
    split_ifs at hs
    obtain rfl := Option.some_inj.mp hs
    exact checks_ne_healthy h ha.2
  | _ =>
    obtain rfl := Option.some_inj.mp hs
    exact hcall _ ha.1

theorem stays_out (service : String) (node : NodeId) {s : Routing}
    (h : BoostGateway.Reaches (Drained service node) step (LeftOut service node) s) :
    ¬s.router.Routes service node.nodeName := by
  have hi := h.invariant (P := fun s => s.router.Unique ∧
    s.router.stateOf service node.nodeName ≠ some .kHealthy) ?_ fun s a s' hi ha hs =>
      ⟨unique_step hi.1 hs, step_ne_healthy hi.2 ha hs⟩
  · exact not_routes hi.1 hi.2
  · rintro _ ⟨s, hs, rfl⟩
    refine ⟨unique_call (unique_of_reaches hs) _, ?_⟩
    rw [call, ClusterRouter.startDrain, ClusterRouter.stateOf_modifyInstance,
      if_pos ⟨rfl, rfl⟩]
    · cases s.router.findInstance service node.nodeName <;> simp
    · exact fun _ => rfl

def loginNode : NodeId := { nodeName := "login-1" }

def registerLogin : RouterAction :=
  .registerService { node := loginNode, serviceName := "login" }

/-- A router whose only instance drains. -/
def drainingLogin : Routing :=
  (({ router := {} } : Routing).call registerLogin).call (.startDrain "login" loginNode)

theorem drained_drainingLogin : Drained "login" loginNode drainingLogin :=
  ⟨_, .step (a := registerLogin) (.init ⟨{}, rfl⟩) trivial rfl, rfl⟩

/-- The drain times out, and the instance is checked three times. -/
def afterDrain (alive : Bool) : List RouterAction :=
  .advance 30000000001 :: List.replicate 3 (.runHealthChecks ["login"] fun _ _ => alive)

/-- A process that has shut down stays out. -/
theorem stays_out_login : ∃ s, BoostGateway.Reaches (Drained "login" loginNode) step
    (LeftOut "login" loginNode) s ∧ s.router.stateOf "login" "login-1" = some .kUnhealthy ∧
      ¬s.router.Routes "login" "login-1" := by
  obtain ⟨s, hr, hst⟩ : ∃ s, BoostGateway.Reaches (Drained "login" loginNode) step
      (LeftOut "login" loginNode) s ∧ s.router.stateOf "login" "login-1" = some .kUnhealthy :=
    Reaches.exists_runWith (.init drained_drainingLogin) (afterDrain false) (by decide +kernel)
  exact ⟨s, hr, hst, stays_out "login" loginNode hr⟩

/-- A process that still answers its checks comes back after the timeout. -/
theorem not_stays_out_login : ∃ s, BoostGateway.Reaches (Drained "login" loginNode) step
    (fun _ => Untouched "login" loginNode) s ∧ s.router.Routes "login" "login-1" := by
  obtain ⟨s, hs, inst, hd, hn⟩ : ∃ s, runWith step (fun _ => Untouched "login" loginNode)
      drainingLogin (afterDrain true) = some s ∧
      ∃ inst, (s.router.discover "login").2 = some inst ∧ inst.node.nodeName = "login-1" :=
    ⟨_, rfl, _, rfl, by decide +kernel⟩
  exact ⟨s, Reaches.runWith (.init drained_drainingLogin) hs, .inr ⟨inst, hd, hn⟩⟩

end Routing

end BoostGateway.Router
