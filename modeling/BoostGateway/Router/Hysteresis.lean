import BoostGateway.Router.ClusterRouter

/-!
# Health hysteresis

`HealthCheckConfig` asks for consecutive failures before an instance goes out and
consecutive successes before it comes back (`cluster_router.h:60-66`). `Monitored`
keeps, for every instance, the checks it had since it came to its state, and every
change of state that `run_health_checks` made.

The counters keep what they counted in another state and are shared by equal keys, so
`hysteresis` is about runs in which an instance that comes to a state other than by a
check finds the counter of that state at zero, and in which no two instances share a
key.
-/

namespace BoostGateway.Router

/-- A change of state that a health check made, with the checks since the instance came
to its old state, the latest first. -/
structure Turn where
  was : Option ServiceState
  is : Option ServiceState
  seen : List Bool

/-- How many of the latest checks gave `b`. -/
def streak (b : Bool) (seen : List Bool) : ℕ := (seen.takeWhile (· = b)).length

@[simp] theorem streak_cons_self (b : Bool) (seen : List Bool) :
    streak b (b :: seen) = streak b seen + 1 := by
  simp [streak]

/-- A router with the record of its checks. -/
structure Monitored extends Routing where
  seen : String → String → List Bool := fun _ _ => []
  turns : List Turn := []

namespace Monitored

variable (m : Monitored)

/-- What a health check does to the state of an instance. A draining instance is passed
over. -/
def checkTurn (service node : String) (alive : Bool) : Turn where
  was := m.router.stateOf service node
  is := (m.router.checkInstance service node alive m.now).stateOf service node
  seen := if m.router.stateOf service node = some .kDraining then m.seen service node
    else alive :: m.seen service node

/-- One health check. -/
def check (service node : String) (alive : Bool) : Monitored :=
  let turn := m.checkTurn service node alive
  { router := m.router.checkInstance service node alive m.now
    now := m.now
    seen := fun s n =>
      if s = service ∧ n = node then (if turn.is = turn.was then turn.seen else [])
      else m.seen s n
    turns := if turn.is = turn.was then m.turns else m.turns ++ [turn] }

/-- The record after another call : an instance that changed its state starts anew. -/
def settle (t : Routing) : Monitored :=
  { toRouting := t
    seen := fun service node =>
      if t.router.stateOf service node = m.router.stateOf service node then m.seen service node
      else []
    turns := m.turns }

def step : RouterAction → Option Monitored
  | .runHealthChecks order alive =>
    if order.Perm m.router.routes.keys then
      some ((m.router.visits order).foldl (fun m v => m.check v.1 v.2 (alive v.1 v.2)) m)
    else none
  | a => some (m.settle (m.call a))

/-- The states a router with any configuration reaches by actions that meet `ok`. -/
abbrev Reaches (ok : Monitored → RouterAction → Prop) : Monitored → Prop :=
  BoostGateway.Reaches (fun m => ∃ config, m = { router := { config := config } }) step ok

/-- An instance turns healthy after `recovery_threshold` successful checks in a row since it
became unhealthy, and unhealthy after `failure_threshold` failed checks in a row since
it became healthy. -/
structure Hysteresis (m : Monitored) : Prop where
  recovery : ∀ t ∈ m.turns, t.was = some .kUnhealthy → t.is = some .kHealthy →
    m.router.config.recoveryThreshold ≤ streak true t.seen
  failure : ∀ t ∈ m.turns, t.was = some .kHealthy → t.is = some .kUnhealthy →
    m.router.config.failureThreshold ≤ streak false t.seen

/-- The counter that brings an instance out of `state` starts from zero, or a single check
is enough anyway. -/
def Reset (r : ClusterRouter) (service node : String) : ServiceState → Prop
  | .kUnhealthy =>
    r.successCounts (countKey service node) = 0 ∨ r.config.recoveryThreshold ≤ 1
  | .kHealthy =>
    r.failureCounts (countKey service node) = 0 ∨ r.config.failureThreshold ≤ 1
  | .kUnknown | .kDraining => True

/-- The registered instances. -/
def registry (r : ClusterRouter) : List (String × String) := r.visits r.routes.keys

/-- An instance comes to a state, other than by its checks, with that state's counter at
zero, and a new one does not share the key of another. -/
def Steady : RouterAction → Prop
  | .registerService inst =>
    let service := inst.serviceName
    let node := inst.node.nodeName
    let state := (ClusterRouter.registered inst m.now).state
    (m.router.stateOf service node ≠ some state → Reset m.router service node state) ∧
      ∀ v ∈ registry m.router, countKey v.1 v.2 = countKey service node → v = (service, node)
  | .markHealthy service node =>
    m.router.stateOf service node.nodeName ≠ none →
      m.router.stateOf service node.nodeName ≠ some .kHealthy →
        Reset m.router service node.nodeName .kHealthy
  | .markUnhealthy service node =>
    m.router.stateOf service node.nodeName ≠ none →
      m.router.stateOf service node.nodeName ≠ some .kUnhealthy →
        Reset m.router service node.nodeName .kUnhealthy
  | .runHealthChecks _ _ =>
    ∀ v ∈ registry m.router, m.router.expires v.1 v.2 m.now →
      Reset m.router v.1 v.2 .kUnhealthy
  | .deregisterService _ _ | .discover _ | .startDrain _ _ | .advance _ => True

instance (r : ClusterRouter) (service node : String) (state : ServiceState) :
    Decidable (Reset r service node state) :=
  match state with
  | .kUnhealthy => inferInstanceAs (Decidable (_ ∨ _))
  | .kHealthy => inferInstanceAs (Decidable (_ ∨ _))
  | .kUnknown => .isTrue trivial
  | .kDraining => .isTrue trivial

instance (m : Monitored) (a : RouterAction) : Decidable (m.Steady a) :=
  match a with
  | .registerService _ => inferInstanceAs (Decidable ((_ → _) ∧ ∀ v ∈ _, _ → _))
  | .markHealthy _ _ => inferInstanceAs (Decidable (_ → _ → _))
  | .markUnhealthy _ _ => inferInstanceAs (Decidable (_ → _ → _))
  | .runHealthChecks _ _ => inferInstanceAs (Decidable (∀ v ∈ _, _ → _))
  | .deregisterService _ _ => .isTrue trivial
  | .discover _ => .isTrue trivial
  | .startDrain _ _ => .isTrue trivial
  | .advance _ => .isTrue trivial

theorem mem_registry {r : ClusterRouter} {service node : String}
    (h : r.stateOf service node ≠ none) : (service, node) ∈ registry r := by
  cases hfind : r.findInstance service node with
  | none => simp [ClusterRouter.stateOf, hfind] at h
  | some inst =>
    have hmem : inst ∈ r.instances service := List.mem_of_find?_eq_some hfind
    have hname := ClusterRouter.nodeName_of_findInstance hfind
    have hkey : service ∈ r.routes.keys := by
      rw [← AList.mem_keys, ← AList.lookup_isSome]
      cases hl : r.routes.lookup service with
      | none => simp [ClusterRouter.instances, hl] at hmem
      | some route => rfl
    exact List.mem_flatMap.mpr ⟨service, hkey, List.mem_map.mpr ⟨inst, hmem, by rw [hname]⟩⟩

/-! ## The invariant -/

/-- The counter of an instance counts checks of its present state, unless one check is
enough to change it. -/
structure Inv (m : Monitored) : Prop extends Hysteresis m where
  keys : ∀ {s n s' n'}, m.router.stateOf s n ≠ none → m.router.stateOf s' n' ≠ none →
    countKey s n = countKey s' n' → s = s' ∧ n = n'
  unhealthy : ∀ s n, m.router.stateOf s n = some .kUnhealthy →
    m.router.successCounts (countKey s n) ≤ streak true (m.seen s n) ∨
      m.router.config.recoveryThreshold ≤ 1
  healthy : ∀ s n, m.router.stateOf s n = some .kHealthy →
    m.router.failureCounts (countKey s n) ≤ streak false (m.seen s n) ∨
      m.router.config.failureThreshold ≤ 1

theorem inv_init (config : HealthCheckConfig) :
    Inv { router := { config := config } } where
  recovery := nofun
  failure := nofun
  keys h := absurd rfl h
  unhealthy := nofun
  healthy := nofun

theorem Inv.settle {m : Monitored} (h : Inv m) {a : RouterAction}
    (hkeys : ∀ {s n s' n'}, (m.call a).router.stateOf s n ≠ none →
      (m.call a).router.stateOf s' n' ≠ none → countKey s n = countKey s' n' → s = s' ∧ n = n')
    (hreset : ∀ s n state, (m.call a).router.stateOf s n = some state →
      m.router.stateOf s n ≠ some state → Reset m.router s n state) :
    Inv (m.settle (m.call a)) := by
  have hcfg := Routing.call_config m.toRouting a
  obtain ⟨hsc, hfc⟩ := Routing.call_counts m.toRouting a
  refine ⟨⟨?_, ?_⟩, hkeys, fun s n hs => ?_, fun s n hs => ?_⟩
  · rw [Monitored.settle, hcfg]
    exact h.recovery
  · rw [Monitored.settle, hcfg]
    exact h.failure
  · simp only [Monitored.settle, hcfg, hsc] at hs ⊢
    by_cases hsame : (m.call a).router.stateOf s n = m.router.stateOf s n
    · rw [if_pos hsame]
      exact h.unhealthy s n (hsame ▸ hs)
    · rw [if_neg hsame]
      exact (hreset s n _ hs fun hm => hsame (hs.trans hm.symm)).imp_left Nat.le_of_eq
  · simp only [Monitored.settle, hcfg, hfc] at hs ⊢
    by_cases hsame : (m.call a).router.stateOf s n = m.router.stateOf s n
    · rw [if_pos hsame]
      exact h.healthy s n (hsame ▸ hs)
    · rw [if_neg hsame]
      exact (hreset s n _ hs fun hm => hsame (hs.trans hm.symm)).imp_left Nat.le_of_eq

theorem Inv.call {m : Monitored} (h : Inv m) {a : RouterAction} (ha : m.Steady a) :
    Inv (m.settle (m.call a)) := by
  refine h.settle ?_ ?_
  · -- An instance that is new has the key of no other.
    have hnew : ∀ {s n}, (m.call a).router.stateOf s n ≠ none → m.router.stateOf s n ≠ none ∨
        ∃ inst, a = .registerService inst ∧ s = inst.serviceName ∧ n = inst.node.nodeName := by
      intro s n hs
      by_cases hreg : m.router.stateOf s n = none
      · obtain ⟨state, hstate⟩ := Option.ne_none_iff_exists'.mp hs
        rcases Routing.stateOf_call hstate (by simp [hreg]) with ⟨inst, ha, hsn⟩ | ⟨hne, -⟩
        · exact .inr ⟨inst, ha, hsn.1, hsn.2.1⟩
        · exact absurd hreg hne
      · exact .inl hreg
    intro s n s' n' hs hs' hkey
    rcases hnew hs with hold | ⟨inst, rfl, rfl, rfl⟩ <;>
      rcases hnew hs' with hold' | ⟨inst', ha', rfl, rfl⟩
    · exact h.keys hold hold' hkey
    · subst ha'
      exact Prod.mk.inj (ha.2 _ (mem_registry hold) hkey)
    · obtain ⟨h1, h2⟩ := Prod.mk.inj (ha.2 _ (mem_registry hold') hkey.symm)
      exact ⟨h1.symm, h2.symm⟩
    · obtain rfl := RouterAction.registerService.inj ha'
      exact ⟨rfl, rfl⟩
  · intro s n state hs hne
    rcases Routing.stateOf_call hs hne with ⟨inst, rfl, rfl, rfl, rfl⟩ |
      ⟨hreg, node, rfl, ⟨rfl, rfl⟩ | ⟨rfl, rfl⟩ | ⟨rfl, rfl⟩⟩
    · exact ha.1 hne
    · exact ha hreg hne
    · exact ha hreg hne
    · trivial

/-! ## Health checks -/

section Check

variable {m : Monitored} {service node : String} {alive : Bool}

/-- Every drain that is over ends with the success counter at zero. -/
def DrainsReset (m : Monitored) : Prop :=
  ∀ s n, m.router.expires s n m.now → Reset m.router s n .kUnhealthy

theorem stateOf_check_ne_none {s n : String}
    (h : (m.check service node alive).router.stateOf s n ≠ none) : m.router.stateOf s n ≠ none := by
  by_cases heq : s = service ∧ n = node
  · obtain ⟨rfl, rfl⟩ := heq
    cases m.router.checkInstance_result s n alive m.now with
    | absent hs hr => simp [check, hr, hs] at h
    | draining hs => simp [hs]
    | expired hs => simp [hs]
    | alive hs => simp [hs]
    | dead hs => simp [hs]
  · rwa [check, ClusterRouter.stateOf_checkInstance_of_ne alive m.now heq] at h

/-- The check of one instance leaves the counters of the others alone. -/
theorem Inv.check_counts (h : Inv m) {s n : String} (hs : m.router.stateOf s n ≠ none)
    (hne : ¬(s = service ∧ n = node)) :
    (m.check service node alive).router.successCounts (countKey s n) =
        m.router.successCounts (countKey s n) ∧
      (m.check service node alive).router.failureCounts (countKey s n) =
        m.router.failureCounts (countKey s n) := by
  have hkey : m.router.stateOf service node ≠ none → countKey s n ≠ countKey service node :=
    fun hreg heq => hne (h.keys hs hreg heq)
  simp only [check]
  cases m.router.checkInstance_result service node alive m.now with
  | absent _ hr => simp [hr]
  | draining _ hr => simp [hr]
  | expired _ _ _ hsc hfc => simp [hsc, hfc]
  | alive hst _ _ _ hsc hfc =>
    rw [hsc, hfc]
    exact ⟨Function.update_of_ne (hkey (by simp [hst])) ..,
      Function.update_of_ne (hkey (by simp [hst])) ..⟩
  | dead hst _ _ _ hfc hsc =>
    rw [hsc, hfc]
    exact ⟨Function.update_of_ne (hkey (by simp [hst])) ..,
      Function.update_of_ne (hkey (by simp [hst])) ..⟩

theorem mem_turns_check {t : Turn} (ht : t ∈ (m.check service node alive).turns) :
    t ∈ m.turns ∨ t = m.checkTurn service node alive := by
  simp only [check] at ht
  split_ifs at ht
  · exact .inl ht
  · simpa using ht

theorem Inv.checkTurn_recovery (h : Inv m)
    (hwas : (m.checkTurn service node alive).was = some .kUnhealthy)
    (his : (m.checkTurn service node alive).is = some .kHealthy) :
    m.router.config.recoveryThreshold ≤ streak true (m.checkTurn service node alive).seen := by
  have hinv := h.unhealthy service node hwas
  simp only [checkTurn] at hwas his ⊢
  cases m.router.checkInstance_result service node alive m.now with
  | absent hs => simp [hs] at hwas
  | draining hs => simp [hs] at hwas
  | expired hs => simp [hs] at hwas
  | alive hs hd hrec hst =>
    have hle := Nat.mod_le (m.router.successCounts (countKey service node) + 1) (2 ^ 32)
    obtain rfl := Option.some_inj.mp (hs.symm.trans hwas)
    rw [hst, hrec] at his
    have hthr : m.router.config.recoveryThreshold ≤
        (m.router.successCounts (countKey service node) + 1) % 2 ^ 32 := by simpa using his
    rw [hs, if_neg (by simp), streak_cons_self]
    omega
  | dead hs hd hfails hst =>
    obtain rfl := Option.some_inj.mp (hs.symm.trans hwas)
    simp [hst] at his

theorem Inv.checkTurn_failure (h : Inv m)
    (hwas : (m.checkTurn service node alive).was = some .kHealthy)
    (his : (m.checkTurn service node alive).is = some .kUnhealthy) :
    m.router.config.failureThreshold ≤ streak false (m.checkTurn service node alive).seen := by
  have hinv := h.healthy service node hwas
  simp only [checkTurn] at hwas his ⊢
  cases m.router.checkInstance_result service node alive m.now with
  | absent hs => simp [hs] at hwas
  | draining hs => simp [hs] at hwas
  | expired hs => simp [hs] at hwas
  | alive hs hd hrec hst =>
    obtain rfl := Option.some_inj.mp (hs.symm.trans hwas)
    simp [hst] at his
  | dead hs hd hfails hst =>
    have hle := Nat.mod_le (m.router.failureCounts (countKey service node) + 1) (2 ^ 32)
    obtain rfl := Option.some_inj.mp (hs.symm.trans hwas)
    rw [hst, hfails] at his
    have hthr : m.router.config.failureThreshold ≤
        (m.router.failureCounts (countKey service node) + 1) % 2 ^ 32 := by simpa using his
    rw [hs, if_neg (by simp), streak_cons_self]
    omega

theorem seen_check_self (hd : m.router.stateOf service node ≠ some .kDraining)
    (hsame : (m.check service node alive).router.stateOf service node =
      m.router.stateOf service node) :
    (m.check service node alive).seen service node = alive :: m.seen service node := by
  have hturn : (m.checkTurn service node alive).is = (m.checkTurn service node alive).was := hsame
  simp only [check, and_self, if_true, if_pos hturn]
  exact if_neg hd

theorem Inv.check_unhealthy (h : Inv m) (hd : DrainsReset m)
    (hs : (m.check service node alive).router.stateOf service node = some .kUnhealthy) :
    (m.check service node alive).router.successCounts (countKey service node) ≤
        streak true ((m.check service node alive).seen service node) ∨
      m.router.config.recoveryThreshold ≤ 1 := by
  change (m.router.checkInstance service node alive m.now).stateOf service node = _ at hs
  change (m.router.checkInstance service node alive m.now).successCounts _ ≤ _ ∨ _
  cases m.router.checkInstance_result service node alive m.now with
  | absent hst hr => simp [hr, hst] at hs
  | draining hst hr => simp [hr, hst] at hs
  | expired hst he hst' hsc hfc =>
    rw [hsc]
    exact (hd service node he).imp_left fun hzero => by simp [hzero]
  | alive hst hne hrec hst' hsc hfc =>
    have hle := Nat.mod_le (m.router.successCounts (countKey service node) + 1) (2 ^ 32)
    rename_i state recovers
    cases recovers with
    | true => simp [hst'] at hs
    | false =>
      obtain rfl : state = .kUnhealthy := by simpa [hst'] using hs
      rw [seen_check_self (by simp [hst]) (hs.trans hst.symm), streak_cons_self, hsc,
        Function.update_self, if_neg Bool.false_ne_true]
      rcases h.unhealthy service node hst with hinv | hinv
      · exact .inl (by omega)
      · exact .inr hinv
  | dead hst hne hfails hst' hfc hsc =>
    rw [hsc, Function.update_self]
    exact .inl (Nat.zero_le _)

theorem Inv.check_healthy (h : Inv m)
    (hs : (m.check service node alive).router.stateOf service node = some .kHealthy) :
    (m.check service node alive).router.failureCounts (countKey service node) ≤
        streak false ((m.check service node alive).seen service node) ∨
      m.router.config.failureThreshold ≤ 1 := by
  change (m.router.checkInstance service node alive m.now).stateOf service node = _ at hs
  change (m.router.checkInstance service node alive m.now).failureCounts _ ≤ _ ∨ _
  cases m.router.checkInstance_result service node alive m.now with
  | absent hst hr => simp [hr, hst] at hs
  | draining hst hr => simp [hr, hst] at hs
  | expired hst he hst' => simp [hst'] at hs
  | alive hst hne hrec hst' hsc hfc =>
    rw [hfc, Function.update_self]
    exact .inl (Nat.zero_le _)
  | dead hst hne hfails hst' hfc hsc =>
    have hle := Nat.mod_le (m.router.failureCounts (countKey service node) + 1) (2 ^ 32)
    rename_i state fails
    cases fails with
    | true => simp [hst'] at hs
    | false =>
      obtain rfl : state = .kHealthy := by simpa [hst'] using hs
      rw [seen_check_self (by simp [hst]) (hs.trans hst.symm), streak_cons_self, hfc,
        Function.update_self]
      rcases h.healthy service node hst with hinv | hinv
      · exact .inl (by omega)
      · exact .inr hinv

theorem Inv.check (h : Inv m) (hd : DrainsReset m) : Inv (m.check service node alive) := by
  have hcfg : (m.check service node alive).router.config = m.router.config :=
    ClusterRouter.checkInstance_config alive m.now
  refine ⟨⟨fun t ht hwas his => ?_, fun t ht hwas his => ?_⟩, fun hs hs' hkey => ?_,
    fun s n hs => ?_, fun s n hs => ?_⟩
  · rw [hcfg]
    rcases mem_turns_check ht with ht | rfl
    · exact h.recovery t ht hwas his
    · exact h.checkTurn_recovery hwas his
  · rw [hcfg]
    rcases mem_turns_check ht with ht | rfl
    · exact h.failure t ht hwas his
    · exact h.checkTurn_failure hwas his
  · exact h.keys (stateOf_check_ne_none hs) (stateOf_check_ne_none hs') hkey
  · rw [hcfg]
    by_cases heq : s = service ∧ n = node
    · obtain ⟨rfl, rfl⟩ := heq
      exact h.check_unhealthy hd hs
    · have hold : m.router.stateOf s n = some .kUnhealthy :=
        (ClusterRouter.stateOf_checkInstance_of_ne alive m.now heq).symm.trans hs
      rw [(h.check_counts (by simp [hold]) heq).1]
      simpa only [Monitored.check, if_neg heq] using h.unhealthy s n hold
  · rw [hcfg]
    by_cases heq : s = service ∧ n = node
    · obtain ⟨rfl, rfl⟩ := heq
      exact h.check_healthy hs
    · have hold : m.router.stateOf s n = some .kHealthy :=
        (ClusterRouter.stateOf_checkInstance_of_ne alive m.now heq).symm.trans hs
      rw [(h.check_counts (by simp [hold]) heq).2]
      simpa only [Monitored.check, if_neg heq] using h.healthy s n hold

theorem Inv.check_drainsReset (h : Inv m) (hd : DrainsReset m) :
    DrainsReset (m.check service node alive) := by
  intro s n he
  have hdrain := ClusterRouter.stateOf_of_expires he
  have hne : (m.check service node alive).router.stateOf s n ≠ none := by simp [hdrain]
  have hold := stateOf_check_ne_none hne
  by_cases heq : s = service ∧ n = node
  · obtain ⟨rfl, rfl⟩ := heq
    have hr : m.router.checkInstance s n alive m.now = m.router := by
      simp only [Monitored.check] at hdrain
      cases m.router.checkInstance_result s n alive m.now with
      | absent _ hr => exact hr
      | draining _ hr => exact hr
      | expired _ _ hst => simp [hst] at hdrain
      | alive hs hne _ hst =>
        rw [hst] at hdrain
        split_ifs at hdrain <;> simp_all
      | dead hs hne _ hst =>
        rw [hst] at hdrain
        split_ifs at hdrain <;> simp_all
    simp only [Monitored.check, hr] at he ⊢
    exact hd s n he
  · have hfind : (m.check service node alive).router.findInstance s n =
        m.router.findInstance s n :=
      ClusterRouter.findInstance_checkInstance_of_ne alive m.now heq
    have hcfg : (m.check service node alive).router.config = m.router.config :=
      ClusterRouter.checkInstance_config alive m.now
    have hexp : m.router.expires s n m.now := by
      unfold ClusterRouter.expires ClusterRouter.drainTimedOut at he ⊢
      rwa [hfind, hcfg] at he
    have hreset := hd s n hexp
    unfold Reset at hreset ⊢
    rwa [(h.check_counts hold heq).1, hcfg]

theorem Inv.checks (h : Inv m) (hd : DrainsReset m) (alive : String → String → Bool)
    (vs : List (String × String)) :
    Inv (vs.foldl (fun m v => m.check v.1 v.2 (alive v.1 v.2)) m) := by
  induction vs generalizing m with
  | nil => exact h
  | cons v vs ih => exact ih (h.check hd) (h.check_drainsReset hd)

end Check

theorem Inv.step {m m' : Monitored} {a : RouterAction} (h : Inv m) (ha : m.Steady a)
    (hs : m.step a = some m') : Inv m' := by
  cases a with
  | runHealthChecks order alive =>
    simp only [Monitored.step] at hs
    split_ifs at hs
    obtain rfl := Option.some_inj.mp hs
    refine h.checks (fun s n he => ?_) alive _
    have hreg : m.router.stateOf s n ≠ none := by simp [ClusterRouter.stateOf_of_expires he]
    exact ha (s, n) (mem_registry hreg) he
  | _ =>
    obtain rfl := Option.some_inj.mp hs
    exact h.call ha

theorem hysteresis {m : Monitored} (h : Reaches Steady m) : Hysteresis m := by
  have hi : Inv m := by
    refine h.invariant ?_ fun m a m' hi ha hs => hi.step ha hs
    rintro m ⟨config, rfl⟩
    exact inv_init config
  exact hi.toHysteresis

/-- An instance of the login service. -/
def login : ServiceInstance where
  node := { nodeName := "login-1" }
  serviceName := "login"

/-- A round of checks of a router that knows only the login service. -/
def loginChecks (alive : Bool) : RouterAction := .runHealthChecks ["login"] fun _ _ => alive

theorem hysteresis_login : ∃ m, Reaches Steady m ∧
    m.turns.map Turn.seen = [[false, false, false], [true, true]] ∧ Hysteresis m := by
  obtain ⟨m, hr, hturns⟩ : ∃ m, Reaches Steady m ∧
      m.turns.map Turn.seen = [[false, false, false], [true, true]] :=
    Reaches.exists_runWith (.init ⟨{}, rfl⟩)
      [.registerService login, loginChecks false, loginChecks false, loginChecks false,
        loginChecks true, loginChecks true] (by decide +kernel)
  exact ⟨m, hr, hturns, hysteresis hr⟩

/-- A success from before `mark_unhealthy` counts towards the recovery, and failures from
before `mark_healthy` count against the instance. -/
theorem not_hysteresis :
    (∃ m, Reaches (fun _ _ => True) m ∧ m.router.config.recoveryThreshold = 2 ∧
      (∃ t ∈ m.turns, t.was = some .kUnhealthy ∧ t.is = some .kHealthy ∧ t.seen = [true]) ∧
      ¬Hysteresis m) ∧
    ∃ m, Reaches (fun _ _ => True) m ∧ m.router.config.failureThreshold = 3 ∧
      (∃ t ∈ m.turns, t.was = some .kHealthy ∧ t.is = some .kUnhealthy ∧ t.seen = [false]) ∧
      ¬Hysteresis m := by
  constructor
  · obtain ⟨m, hr, hthr, ht⟩ : ∃ m, Reaches (fun _ _ => True) m ∧
        m.router.config.recoveryThreshold = 2 ∧
        ∃ t ∈ m.turns, t.was = some .kUnhealthy ∧ t.is = some .kHealthy ∧ t.seen = [true] :=
      Reaches.exists_runWith (.init ⟨{}, rfl⟩)
        [.registerService login, loginChecks true, .markUnhealthy "login" login.node,
          loginChecks true] (by decide +kernel)
    refine ⟨m, hr, hthr, ht, fun hh => ?_⟩
    obtain ⟨t, hmem, hwas, his, hseen⟩ := ht
    have hle := hh.recovery t hmem hwas his
    rw [hthr, hseen] at hle
    exact absurd hle (by decide)
  · obtain ⟨m, hr, hthr, ht⟩ : ∃ m, Reaches (fun _ _ => True) m ∧
        m.router.config.failureThreshold = 3 ∧
        ∃ t ∈ m.turns, t.was = some .kHealthy ∧ t.is = some .kUnhealthy ∧ t.seen = [false] :=
      Reaches.exists_runWith (.init ⟨{}, rfl⟩)
        [.registerService login, loginChecks false, loginChecks false, loginChecks false,
          .markHealthy "login" login.node, loginChecks false] (by decide +kernel)
    refine ⟨m, hr, hthr, ht, fun hh => ?_⟩
    obtain ⟨t, hmem, hwas, his, hseen⟩ := ht
    have hle := hh.failure t hmem hwas his
    rw [hthr, hseen] at hle
    exact absurd hle (by decide)

end Monitored

end BoostGateway.Router
