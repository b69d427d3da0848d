import BoostGateway.Base.Run
import Mathlib.Algebra.Group.Nat.Defs
import Mathlib.Data.List.Perm.Basic
import Mathlib.Logic.Function.Basic

/-!
# Connection limits of the gateway

`gateway_server.cpp` : `attach_session_with_core` takes a slot for a connection, first
against the total and then against its IP, and adds the session to the session manager;
`release_session_state` gives it back, called by the close handler of the session and by
`stop` for every session it finds. The calls run on several cores, and a step of the model
is one atomic operation or one section under a lock.

`GatewayServer.WithinLimits` : the total stays within `max_connections_` and does not wrap, no IP
has more sessions than `per_ip_limit_`, no slot is released twice, and the counters are
exact when every call has returned. The total is checked in one step and raised in
another, the membership test of a release is apart from the removal, and `stop` asks the
socket for the IP again : each breaks it (`GatewayServer.not_within_limits`).
`GatewayServer.within_limits` : it holds in every run in which these steps do not overlap.
-/

namespace BoostGateway.Gateway

/-- Where `attach_session_with_core` is for a connection. -/
inductive AttachPhase
  /-- Before the load of `active_connection_count_`. -/
  | accepted
  /-- The total was below the limit. -/
  | checked
  /-- The IP is counted. -/
  | ipCounted
  /-- `active_connection_count_` is raised. -/
  | counted
  /-- The session is in the session manager. -/
  | added
  /-- The close handler is set and the session started. -/
  | attached
  | rejected
  deriving DecidableEq

namespace AttachPhase

/-- Past the check of the total, and not counted in it. -/
def inFlight : AttachPhase → Bool
  | checked | ipCounted => true
  | _ => false

def holdsIp : AttachPhase → Bool
  | ipCounted | counted | added | attached => true
  | _ => false

def holdsSlot : AttachPhase → Bool
  | counted | added | attached => true
  | _ => false

def isAdded : AttachPhase → Bool
  | added | attached => true
  | _ => false

def returned : AttachPhase → Bool
  | attached | rejected => true
  | _ => false

theorem holdsIp_of_isAdded {p : AttachPhase} (h : p.isAdded) : p.holdsIp := by
  cases p <;> first | rfl | cases h

theorem holdsSlot_of_isAdded {p : AttachPhase} (h : p.isAdded) : p.holdsSlot := by
  cases p <;> first | rfl | cases h

theorem isAdded_of_returned {p : AttachPhase} (h : p.returned) :
    p.isAdded = p.holdsSlot ∧ p.isAdded = p.holdsIp := by
  cases p <;> first | exact ⟨rfl, rfl⟩ | cases h

end AttachPhase

/-- A connection, and what the gateway keeps for it. -/
structure Connection where
  /-- `extract_ip(session->remote_endpoint())` when it is accepted. -/
  ip : String
  phase : AttachPhase := .accepted
  /-- The session manager has the session. -/
  managed : Bool := false
  /-- `handle_close` has called the close handler, which it does once. -/
  closed : Bool := false
  deriving DecidableEq

/-- Where a call of `release_session_state` is. -/
inductive ReleasePhase
  /-- Before `session_manager_.contains`. -/
  | contains
  /-- Before `session_manager_.remove_session`. -/
  | remove
  /-- Before `active_connection_count_.fetch_sub`. -/
  | fetchSub
  /-- Before the section that uncounts the IP. -/
  | releaseIp
  | returned (released : Bool)
  deriving DecidableEq

namespace ReleasePhase

/-- Past the membership test, which found the session. -/
def found : ReleasePhase → Bool
  | remove | fetchSub | releaseIp | returned true => true
  | _ => false

def removed : ReleasePhase → Bool
  | fetchSub | releaseIp | returned true => true
  | _ => false

def subtracted : ReleasePhase → Bool
  | releaseIp | returned true => true
  | _ => false

def isReturned : ReleasePhase → Bool
  | returned _ => true
  | _ => false

variable {p : ReleasePhase}

theorem found_of_removed (h : p.removed) : p.found := by
  rcases p with - | - | - | - | ⟨_ | _⟩ <;> first | rfl | cases h

theorem removed_of_subtracted (h : p.subtracted) : p.removed := by
  rcases p with - | - | - | - | ⟨_ | _⟩ <;> first | rfl | cases h

theorem ne_remove_of_removed (h : p.removed) : (p == remove) = false := by
  rcases p with - | - | - | - | ⟨_ | _⟩ <;> first | rfl | cases h

theorem removed_of_isReturned (h : p.isReturned) :
    p.removed = p.subtracted ∧ p.removed = (p == returned true) := by
  rcases p with - | - | - | - | ⟨_ | _⟩ <;> first | exact ⟨rfl, rfl⟩ | cases h

end ReleasePhase

/-- A call of `release_session_state` for the connection numbered `session`. -/
structure Release where
  session : ℕ
  ip : String
  phase : ReleasePhase := .contains
  deriving DecidableEq

/-- A call of `stop` : the sessions it still has to release, and its call of
`release_session_state` for the last one it took. -/
structure StopCall where
  todo : List ℕ
  current : Option ℕ := none
  deriving DecidableEq

/-- The server and its connections. -/
structure GatewayServer where
  maxConnections : UInt64
  perIpLimit : UInt64
  /-- `active_connection_count_`. -/
  active : UInt64 := 0
  /-- `ip_connection_counts_`, `0` for an IP it does not have. -/
  ipCount : String → ℕ := fun _ => 0
  connections : List Connection := []
  releases : List Release := []
  stops : List StopCall := []
  /-- `active_connection_count_` was lowered at zero. -/
  wrapped : Bool := false

namespace GatewayServer

def setPhase (g : GatewayServer) (i : ℕ) (c : Connection) (phase : AttachPhase) : GatewayServer :=
  { g with connections := g.connections.set i { c with phase } }

/-- The next step of `attach_session_with_core` for the `i`-th connection. -/
def attachStep (g : GatewayServer) (i : ℕ) (c : Connection) : Option GatewayServer :=
  match c.phase with
  | .accepted =>
    some (g.setPhase i c
      (if 0 < g.maxConnections ∧ g.maxConnections ≤ g.active then .rejected else .checked))
  | .checked =>
    if 0 < g.perIpLimit then
      if g.perIpLimit.toNat ≤ g.ipCount c.ip then some (g.setPhase i c .rejected)
      else some { g.setPhase i c .ipCounted with
        ipCount := Function.update g.ipCount c.ip (g.ipCount c.ip + 1) }
    else some (g.setPhase i c .ipCounted)
  | .ipCounted => some { g.setPhase i c .counted with active := g.active + 1 }
  | .counted => some (g.setPhase i { c with managed := true } .added)
  | .added => some (g.setPhase i c .attached)
  | .attached | .rejected => none

def setRelease (g : GatewayServer) (j : ℕ) (r : Release) (phase : ReleasePhase) : GatewayServer :=
  { g with releases := g.releases.set j { r with phase } }

/-- `session_manager_.contains`. -/
def contains (g : GatewayServer) (session : ℕ) : Bool := g.connections[session]?.any (·.managed)

/-- `session_manager_.remove_session`. -/
def removeSession (g : GatewayServer) (session : ℕ) : GatewayServer :=
  match g.connections[session]? with
  | none => g
  | some c => { g with connections := g.connections.set session { c with managed := false } }

/-- The next step of the `j`-th call of `release_session_state`. -/
def releaseStep (g : GatewayServer) (j : ℕ) (r : Release) : Option GatewayServer :=
  match r.phase with
  | .contains =>
    some (g.setRelease j r (if g.contains r.session then .remove else .returned false))
  | .remove => some ((g.removeSession r.session).setRelease j r .fetchSub)
  | .fetchSub =>
    some { g.setRelease j r .releaseIp with
      active := g.active - 1
      wrapped := g.wrapped || g.active == 0 }
  | .releaseIp =>
    some { g.setRelease j r (.returned true) with
      ipCount :=
        if g.perIpLimit = 0 ∨ g.ipCount r.ip = 0 then g.ipCount
        else Function.update g.ipCount r.ip (g.ipCount r.ip - 1) }
  | .returned _ => none

/-- `session_manager_.all_sessions`, in the order of the numbers. -/
def allSessions (g : GatewayServer) : List ℕ := (List.range g.connections.length).filter g.contains

/-- The release that a `stop` waits for has returned. -/
def currentReturned (g : GatewayServer) (call : StopCall) : Bool :=
  match call.current with
  | none => true
  | some j => g.releases[j]?.any (·.phase.isReturned)

/-- The sections of the threads. -/
inductive GatewayAction
  /-- A connection from the IP is accepted. -/
  | accept (ip : String)
  /-- The next step of `attach_session_with_core` for the `i`-th connection. -/
  | attach (i : ℕ)
  /-- The close handler of the `i`-th connection is called. -/
  | close (i : ℕ)
  /-- `stop` is called, and `all_sessions` gives the sessions in this order. -/
  | stop (sessions : List ℕ)
  /-- The `k`-th `stop` goes on to its next session, whose socket still knows the remote
  endpoint or does not; `handle_close` closes the socket before it calls the handler. -/
  | stopNext (k : ℕ) (connected : Bool)
  /-- The next step of the `j`-th call of `release_session_state`. -/
  | release (j : ℕ)

def step (g : GatewayServer) : GatewayAction → Option GatewayServer
  | .accept ip => some { g with connections := g.connections ++ [{ ip }] }
  | .attach i =>
    match g.connections[i]? with
    | none => none
    | some c => g.attachStep i c
  | .close i =>
    match g.connections[i]? with
    | none => none
    | some c =>
      if c.phase = .attached ∧ c.closed = false then
        some { g with
          connections := g.connections.set i { c with closed := true }
          releases := g.releases ++ [{ session := i, ip := c.ip }] }
      else none
  | .stop sessions =>
    if sessions.Perm g.allSessions then some { g with stops := g.stops ++ [{ todo := sessions }] }
    else none
  | .stopNext k connected =>
    match g.stops[k]? with
    | none => none
    | some call =>
      match call.todo with
      | [] => none
      | i :: todo =>
        match g.connections[i]? with
        | none => none
        | some c =>
          if g.currentReturned call then
            some { g with
              stops := g.stops.set k { todo, current := some g.releases.length }
              releases := g.releases ++
                [{ session := i, ip := if connected && !c.closed then c.ip else "<unknown>" }] }
          else none
  | .release j =>
    match g.releases[j]? with
    | none => none
    | some r => g.releaseStep j r

/-- The gateways reached from a start with positive limits by steps that meet `ok`. -/
def Reaches (ok : GatewayServer → GatewayAction → Prop) : GatewayServer → Prop :=
  BoostGateway.Reaches (fun g => ∃ maxConnections perIpLimit, 0 < maxConnections ∧
    0 < perIpLimit ∧ g = { maxConnections, perIpLimit }) step ok

/-- How many sessions of the session manager have an IP that `q` holds of. -/
def sessionsWith (g : GatewayServer) (q : String → Bool) : ℕ :=
  g.connections.countP fun c => c.managed && q c.ip

/-- Every call has returned. -/
def Settled (g : GatewayServer) : Prop :=
  (∀ c ∈ g.connections, c.phase.returned) ∧ (∀ r ∈ g.releases, r.phase.isReturned) ∧
    ∀ call ∈ g.stops, call.todo = []

instance (g : GatewayServer) : Decidable g.Settled :=
  inferInstanceAs (Decidable (_ ∧ _ ∧ _))

/-- The connection limits hold. -/
structure WithinLimits (g : GatewayServer) : Prop where
  total : g.active ≤ g.maxConnections
  not_wrapped : g.wrapped = false
  perIp : ∀ ip, g.sessionsWith (· == ip) ≤ g.perIpLimit.toNat
  once : ∀ (j k : ℕ) (r r' : Release), g.releases[j]? = some r → g.releases[k]? = some r' →
    r.phase.subtracted → r'.phase.subtracted → r.session = r'.session → j = k
  exact_total : g.Settled → g.active.toNat = g.sessionsWith fun _ => true
  exact_perIp : g.Settled → ∀ ip, g.ipCount ip = g.sessionsWith (· == ip)

/-- How many attaches have passed the check of the total and are not counted in it. -/
def inFlight (g : GatewayServer) : ℕ := g.connections.countP (·.phase.inFlight)

/-- A release finds its session : under the IP of the session, and while no other call that
found it is about to remove it. -/
def SoleRelease (g : GatewayServer) (r : Release) : Prop :=
  (∀ c ∈ g.connections[r.session]?, c.ip = r.ip) ∧
    ∀ r' ∈ g.releases, r'.session = r.session → r'.phase ≠ .remove

/-- The total leaves room for the attaches in flight when one passes its check, and a release
finds its session alone. -/
def Exclusive (g : GatewayServer) : GatewayAction → Prop
  | .attach i => ∀ c ∈ g.connections[i]?, c.phase = .accepted → g.active < g.maxConnections →
      g.active.toNat + g.inFlight < g.maxConnections.toNat
  | .release j => ∀ r ∈ g.releases[j]?, r.phase = .contains → g.contains r.session →
      g.SoleRelease r
  | _ => True

instance (g : GatewayServer) (r : Release) : Decidable (g.SoleRelease r) :=
  inferInstanceAs (Decidable (_ ∧ _))

instance (g : GatewayServer) (a : GatewayAction) : Decidable (g.Exclusive a) :=
  match a with
  | .attach _ => inferInstanceAs (Decidable (∀ c ∈ _, _))
  | .release _ => inferInstanceAs (Decidable (∀ r ∈ _, _))
  | .accept _ | .close _ | .stop _ | .stopNext .. => isTrue trivial

/-! ## What is counted -/

/-- Replacing an element of a list moves a count by what the two elements add to it. -/
theorem countP_set_add {α : Type} (p : α → Bool) {l : List α} {i : ℕ} {x : α} (y : α)
    (h : l[i]? = some x) :
    (l.set i y).countP p + (p x).toNat = l.countP p + (p y).toNat := by
  obtain ⟨hi, rfl⟩ := List.getElem?_eq_some_iff.mp h
  have hpos : (p l[i]).toNat ≤ l.countP p := by
    cases hp : p l[i] with
    | false => exact Nat.zero_le _
    | true => exact List.countP_pos_iff.mpr ⟨_, List.getElem_mem hi, hp⟩
  rw [List.countP_set hi]
  cases hx : p l[i] <;> cases hy : p y <;>
    simp only [hx, Bool.toNat_true, Bool.toNat_false, if_true, if_false, Bool.false_eq_true]
      at hpos ⊢ <;>
    omega

/-- A predicate that holds less often, and not of one element the other holds of. -/
theorem countP_lt_countP {α : Type} {p p' : α → Bool} {l : List α} {x : α} (hx : x ∈ l)
    (himp : ∀ y ∈ l, p y → p' y) (hp : p x = false) (hp' : p' x) :
    l.countP p < l.countP p' := by
  obtain ⟨l₁, l₂, rfl⟩ := List.append_of_mem hx
  have h₁ : l₁.countP p ≤ l₁.countP p' :=
    List.countP_mono_left fun y hy => himp y (by simp [hy])
  have h₂ : l₂.countP p ≤ l₂.countP p' :=
    List.countP_mono_left fun y hy => himp y (by simp [hy])
  rw [List.countP_append, List.countP_append, List.countP_cons_of_neg (by simp [hp]),
    List.countP_cons_of_pos hp']
  omega

/-- At most one release has found a session. -/
def Sole (releases : List Release) : Prop :=
  ∀ (j k : ℕ) (r r' : Release), releases[j]? = some r → releases[k]? = some r' →
    r.phase.found → r'.phase.found → r.session = r'.session → j = k

theorem Sole.set {releases : List Release} (h : Sole releases) {j : ℕ} {x : Release}
    (hlt : j < releases.length)
    (hx : x.phase.found → ∀ k r', releases[k]? = some r' → r'.phase.found →
      r'.session = x.session → k = j) : Sole (releases.set j x) := by
  intro k k' r r' hk hk' hr hr' heq
  by_cases hkj : k = j
  · by_cases hkj' : k' = j
    · rw [hkj, hkj']
    · subst hkj
      rw [List.getElem?_set_self hlt, Option.some_inj] at hk
      subst hk
      rw [List.getElem?_set_ne (Ne.symm hkj')] at hk'
      exact absurd (hx hr k' r' hk' hr' heq.symm) hkj'
  · rw [List.getElem?_set_ne (Ne.symm hkj)] at hk
    by_cases hkj' : k' = j
    · subst hkj'
      rw [List.getElem?_set_self hlt, Option.some_inj] at hk'
      subst hk'
      exact absurd (hx hr' k r hk hr heq) hkj
    · rw [List.getElem?_set_ne (Ne.symm hkj')] at hk'
      exact h k k' r r' hk hk' hr hr' heq

/-- The counters are exact at every step, a session is managed until the one release that
found it removes it, and there is room for the attaches in flight. -/
structure Inv (g : GatewayServer) : Prop where
  maxConnections_pos : 0 < g.maxConnections
  perIpLimit_pos : 0 < g.perIpLimit
  room : g.active.toNat + g.inFlight ≤ g.maxConnections.toNat
  not_wrapped : g.wrapped = false
  slots : g.active.toNat + g.releases.countP (·.phase.subtracted) =
    g.connections.countP (·.phase.holdsSlot)
  ips : ∀ ip, g.ipCount ip +
      g.releases.countP (fun r => r.phase == .returned true && r.ip == ip) =
    g.connections.countP fun c => c.phase.holdsIp && c.ip == ip
  ipLimit : ∀ ip, g.ipCount ip ≤ g.perIpLimit.toNat
  managed : ∀ q : String → Bool, g.connections.countP (fun c => c.phase.isAdded && q c.ip) =
    g.sessionsWith q + g.releases.countP fun r => r.phase.removed && q r.ip
  added : ∀ c ∈ g.connections, c.managed → c.phase.isAdded
  found : ∀ r ∈ g.releases, r.phase.found → ∃ c, g.connections[r.session]? = some c ∧
    c.phase.isAdded ∧ c.managed = (r.phase == .remove) ∧ c.ip = r.ip
  sole : Sole g.releases

variable {g : GatewayServer}

section

variable (h : Inv g)
include h

theorem Inv.sessionsWith_add_le (q : String → Bool) :
    g.sessionsWith q + g.releases.countP (fun r => r.phase.removed && q r.ip) ≤
      g.connections.countP fun c => c.phase.holdsIp && q c.ip := by
  rw [← h.managed q]
  refine List.countP_mono_left fun c _ hc => ?_
  rw [Bool.and_eq_true] at hc ⊢
  exact ⟨AttachPhase.holdsIp_of_isAdded hc.1, hc.2⟩

theorem Inv.withinLimits : WithinLimits g where
  total := by
    have := h.room
    rw [UInt64.le_iff_toNat_le]
    omega
  not_wrapped := h.not_wrapped
  perIp ip := by
    have h₁ := h.sessionsWith_add_le (· == ip)
    have h₂ := h.ips ip
    have h₃ := h.ipLimit ip
    have h₄ : g.releases.countP (fun r => r.phase == .returned true && r.ip == ip) ≤
        g.releases.countP fun r => r.phase.removed && r.ip == ip := by
      refine List.countP_mono_left fun r _ hr => ?_
      rw [Bool.and_eq_true] at hr ⊢
      rw [eq_of_beq hr.1]
      exact ⟨rfl, hr.2⟩
    omega
  once j k r r' hj hk hr hr' heq :=
    h.sole j k r r' hj hk (ReleasePhase.found_of_removed (ReleasePhase.removed_of_subtracted hr))
      (ReleasePhase.found_of_removed (ReleasePhase.removed_of_subtracted hr')) heq
  exact_total hs := by
    have h₁ := h.slots
    have h₂ := h.managed fun _ => true
    have h₃ : g.connections.countP (fun c => c.phase.isAdded && true) =
        g.connections.countP (·.phase.holdsSlot) := by
      refine List.countP_congr fun c hc => ?_
      rw [Bool.and_true, (AttachPhase.isAdded_of_returned (hs.1 c hc)).1]
    have h₄ : g.releases.countP (fun r => r.phase.removed && true) =
        g.releases.countP (·.phase.subtracted) := by
      refine List.countP_congr fun r hr => ?_
      rw [Bool.and_true, (ReleasePhase.removed_of_isReturned (hs.2.1 r hr)).1]
    omega
  exact_perIp hs ip := by
    have h₁ := h.ips ip
    have h₂ := h.managed (· == ip)
    have h₃ : g.connections.countP (fun c => c.phase.isAdded && c.ip == ip) =
        g.connections.countP fun c => c.phase.holdsIp && c.ip == ip := by
      refine List.countP_congr fun c hc => ?_
      rw [(AttachPhase.isAdded_of_returned (hs.1 c hc)).2]
    have h₄ : g.releases.countP (fun r => r.phase.removed && r.ip == ip) =
        g.releases.countP fun r => r.phase == .returned true && r.ip == ip := by
      refine List.countP_congr fun r hr => ?_
      rw [(ReleasePhase.removed_of_isReturned (hs.2.1 r hr)).2]
    omega

/-! ## The steps of an attach -/

/-- A connection changes, and the counters with it. -/
theorem Inv.setConnection {i : ℕ} {c : Connection}
    (hc : g.connections[i]? = some c) (c' : Connection) {active : UInt64} {ipCount : String → ℕ}
    (hip : c'.ip = c.ip)
    (hroom : active.toNat + c'.phase.inFlight.toNat + g.inFlight ≤
      g.maxConnections.toNat + c.phase.inFlight.toNat)
    (hslots : active.toNat + c.phase.holdsSlot.toNat =
      g.active.toNat + c'.phase.holdsSlot.toNat)
    (hips : ∀ ip, ipCount ip + (c.phase.holdsIp && c.ip == ip).toNat =
      g.ipCount ip + (c'.phase.holdsIp && c.ip == ip).toNat)
    (hlimit : ∀ ip, ipCount ip ≤ g.perIpLimit.toNat)
    (hmanaged : c'.phase.isAdded.toNat + c.managed.toNat =
      c.phase.isAdded.toNat + c'.managed.toNat)
    (hadded : c'.managed → c'.phase.isAdded)
    (hkeep : c.phase.isAdded → c'.phase.isAdded ∧ c'.managed = c.managed) :
    Inv { g with connections := g.connections.set i c', active, ipCount } where
  __ := h
  room := by
    have := countP_set_add (·.phase.inFlight) c' hc
    simp only [inFlight] at hroom ⊢
    omega
  slots := by
    have := countP_set_add (·.phase.holdsSlot) c' hc
    have := h.slots
    dsimp only at *
    omega
  ips ip := by
    have h₁ := countP_set_add (fun c => c.phase.holdsIp && c.ip == ip) c' hc
    have h₂ := h.ips ip
    have h₃ := hips ip
    rw [hip] at h₁
    dsimp only at *
    omega
  ipLimit := hlimit
  managed q := by
    have h₁ := countP_set_add (fun c => c.phase.isAdded && q c.ip) c' hc
    have h₂ := countP_set_add (fun c => c.managed && q c.ip) c' hc
    have h₃ := h.managed q
    simp only [hip, sessionsWith] at h₁ h₂ h₃ ⊢
    cases hq : q c.ip <;> simp only [hq, Bool.and_true, Bool.and_false] at h₁ h₂ <;> omega
  added x hx := by
    rcases List.mem_or_eq_of_mem_set hx with hx | rfl
    · exact h.added x hx
    · exact hadded
  found r hr hfound := by
    obtain ⟨x, hx, hadd, hman, hxip⟩ := h.found r hr hfound
    by_cases hi : i = r.session
    · subst hi
      obtain rfl : c = x := Option.some_inj.mp (hc.symm.trans hx)
      obtain ⟨hadd', hman'⟩ := hkeep hadd
      obtain ⟨hlt, -⟩ := List.getElem?_eq_some_iff.mp hc
      exact ⟨c', List.getElem?_set_self hlt, hadd', hman'.trans hman, hip.trans hxip⟩
    · exact ⟨x, (List.getElem?_set_ne hi).trans hx, hadd, hman, hxip⟩

/-- A connection moves to a phase that counts as the one before. -/
theorem Inv.setPhase {i : ℕ} {c : Connection}
    (hc : g.connections[i]? = some c) {phase : AttachPhase}
    (hroom : phase.inFlight.toNat + g.active.toNat + g.inFlight ≤
      g.maxConnections.toNat + c.phase.inFlight.toNat)
    (hslot : phase.holdsSlot = c.phase.holdsSlot) (hholds : phase.holdsIp = c.phase.holdsIp)
    (hadded : phase.isAdded = c.phase.isAdded) : Inv (g.setPhase i c phase) := by
  refine h.setConnection hc { c with phase } rfl (by dsimp only; omega) ?_ ?_ h.ipLimit ?_ ?_ ?_
  · dsimp only
    rw [hslot]
  · intro ip
    dsimp only
    rw [hholds]
  · dsimp only
    rw [hadded]
  · dsimp only
    rw [hadded]
    exact h.added c (List.mem_of_getElem? hc)
  · dsimp only
    rw [hadded]
    exact fun ha => ⟨ha, rfl⟩

theorem Inv.managed_eq_false {i : ℕ} {c : Connection}
    (hc : g.connections[i]? = some c) (ha : c.phase.isAdded = false) : c.managed = false := by
  rw [Bool.eq_false_iff]
  intro hm
  simp [h.added c (List.mem_of_getElem? hc) hm] at ha

theorem Inv.countIp {i : ℕ} {c : Connection}
    (hc : g.connections[i]? = some c) (hp : c.phase = .checked)
    (hfree : g.ipCount c.ip < g.perIpLimit.toNat) :
    Inv { g.setPhase i c .ipCounted with
      ipCount := Function.update g.ipCount c.ip (g.ipCount c.ip + 1) } := by
  obtain ⟨cip, phase, managed, closed⟩ := c
  obtain rfl : phase = .checked := hp
  obtain rfl : managed = false := h.managed_eq_false hc rfl
  have hr := h.room
  refine h.setConnection hc ⟨cip, .ipCounted, false, closed⟩ rfl ?_ rfl ?_ ?_ rfl nofun nofun
  · change g.active.toNat + 1 + g.inFlight ≤ g.maxConnections.toNat + 1
    omega
  · intro ip
    by_cases hip : ip = cip
    · subst hip
      simp [AttachPhase.holdsIp]
    · simp [Function.update_of_ne hip, AttachPhase.holdsIp, Ne.symm hip]
  · intro ip
    by_cases hip : ip = cip
    · subst hip
      rw [Function.update_self]
      exact hfree
    · rw [Function.update_of_ne hip]
      exact h.ipLimit ip

theorem Inv.fetchAdd {i : ℕ} {c : Connection}
    (hc : g.connections[i]? = some c) (hp : c.phase = .ipCounted) :
    Inv { g.setPhase i c .counted with active := g.active + 1 } := by
  obtain ⟨cip, phase, managed, closed⟩ := c
  obtain rfl : phase = .ipCounted := hp
  obtain rfl : managed = false := h.managed_eq_false hc rfl
  have hr := h.room
  have hpos : 1 ≤ g.inFlight :=
    List.countP_pos_iff.mpr ⟨_, List.mem_of_getElem? hc, rfl⟩
  have hlt := g.maxConnections.toNat_lt
  -- the attach itself is in flight, so the sum stays below the limit
  have hadd : (g.active + 1).toNat = g.active.toNat + 1 := by
    rw [UInt64.toNat_add, UInt64.toNat_one, Nat.mod_eq_of_lt]
    omega
  refine h.setConnection hc ⟨cip, .counted, false, closed⟩ rfl ?_ hadd (fun ip => rfl) h.ipLimit
    rfl nofun nofun
  rw [hadd]
  change g.active.toNat + 1 + 0 + g.inFlight ≤ g.maxConnections.toNat + 1
  omega

theorem Inv.addSession {i : ℕ} {c : Connection}
    (hc : g.connections[i]? = some c) (hp : c.phase = .counted) :
    Inv (g.setPhase i { c with managed := true } .added) := by
  obtain ⟨cip, phase, managed, closed⟩ := c
  obtain rfl : phase = .counted := hp
  obtain rfl : managed = false := h.managed_eq_false hc rfl
  exact h.setConnection hc ⟨cip, .added, true, closed⟩ rfl h.room rfl (fun ip => rfl) h.ipLimit
    rfl (fun _ => rfl) nofun

variable {g' : GatewayServer}

theorem Inv.attach {i : ℕ} {c : Connection} (hc : g.connections[i]? = some c)
    (hroom : c.phase = .accepted → g.active < g.maxConnections →
      g.active.toNat + g.inFlight < g.maxConnections.toNat)
    (hs : g.attachStep i c = some g') : Inv g' := by
  have hr := h.room
  unfold attachStep at hs
  split at hs
  next hp =>
    obtain rfl := Option.some_inj.mp hs
    split_ifs with hfull
    · refine h.setPhase hc ?_ (by rw [hp]; rfl) (by rw [hp]; rfl) (by rw [hp]; rfl)
      change 0 + _ + _ ≤ _
      omega
    · have hlt : g.active < g.maxConnections :=
        UInt64.not_le.mp (not_and.mp hfull h.maxConnections_pos)
      have hfree := hroom hp hlt
      refine h.setPhase hc ?_ (by rw [hp]; rfl) (by rw [hp]; rfl) (by rw [hp]; rfl)
      change 1 + _ + _ ≤ _
      omega
  next hp =>
    rw [if_pos h.perIpLimit_pos] at hs
    split_ifs at hs with hfull
    · obtain rfl := Option.some_inj.mp hs
      refine h.setPhase hc ?_ (by rw [hp]; rfl) (by rw [hp]; rfl) (by rw [hp]; rfl)
      change 0 + _ + _ ≤ _
      omega
    · obtain rfl := Option.some_inj.mp hs
      exact h.countIp hc hp (Nat.lt_of_not_le hfull)
  next hp =>
    obtain rfl := Option.some_inj.mp hs
    exact h.fetchAdd hc hp
  next hp =>
    obtain rfl := Option.some_inj.mp hs
    exact h.addSession hc hp
  next hp =>
    obtain rfl := Option.some_inj.mp hs
    refine h.setPhase hc ?_ (by rw [hp]; rfl) (by rw [hp]; rfl) (by rw [hp]; rfl)
    change 0 + _ + _ ≤ _
    omega
  next => simp at hs
  next => simp at hs

/-! ## The steps of a release -/

theorem Inv.setStops (stops : List StopCall) : Inv { g with stops } :=
  ⟨h.maxConnections_pos, h.perIpLimit_pos, h.room, h.not_wrapped, h.slots, h.ips, h.ipLimit,
    h.managed, h.added, h.found, h.sole⟩

/-- A call of `release_session_state` that has not looked for its session. -/
theorem Inv.addRelease (session : ℕ) (ip : String) :
    Inv { g with releases := g.releases ++ [{ session, ip }] } where
  __ := h
  slots := by simpa [ReleasePhase.subtracted] using h.slots
  ips ip' := by simpa using h.ips ip'
  managed q := by simpa [ReleasePhase.removed, sessionsWith] using h.managed q
  found r hr hfound := by
    rcases List.mem_append.mp hr with hr | hr
    · exact h.found r hr hfound
    · rw [List.mem_singleton.mp hr] at hfound
      cases hfound
  sole j k r r' hj hk hr hr' heq := by
    have hold : ∀ {j : ℕ} {r : Release},
        (g.releases ++ [({ session, ip } : Release)])[j]? = some r → r.phase.found →
        g.releases[j]? = some r := by
      intro j r hj hr
      rw [List.getElem?_append] at hj
      split_ifs at hj
      · exact hj
      · rw [List.mem_singleton.mp (List.mem_of_getElem? hj)] at hr
        cases hr
    exact h.sole j k r r' (hold hj hr) (hold hk hr') hr hr' heq

/-- A release goes on, and the counters with it; the sessions stay. -/
theorem Inv.setRelease {j : ℕ} {r : Release}
    (hj : g.releases[j]? = some r) (phase : ReleasePhase) {active : UInt64}
    {ipCount : String → ℕ}
    (hroom : active.toNat ≤ g.active.toNat)
    (hslots : active.toNat + phase.subtracted.toNat =
      g.active.toNat + r.phase.subtracted.toNat)
    (hips : ∀ ip, ipCount ip + (phase == .returned true && r.ip == ip).toNat =
      g.ipCount ip + (r.phase == .returned true && r.ip == ip).toNat)
    (hlimit : ∀ ip, ipCount ip ≤ g.ipCount ip)
    (hremoved : phase.removed = r.phase.removed)
    (hfound : phase.found → ∃ c, g.connections[r.session]? = some c ∧ c.phase.isAdded ∧
      c.managed = (phase == .remove) ∧ c.ip = r.ip)
    (hsole : phase.found → ∀ k r', g.releases[k]? = some r' → r'.phase.found →
      r'.session = r.session → k = j) :
    Inv { g with releases := g.releases.set j { r with phase }, active, ipCount } where
  __ := h
  room := by
    have := h.room
    change active.toNat + g.inFlight ≤ g.maxConnections.toNat
    omega
  slots := by
    have := countP_set_add (·.phase.subtracted) { r with phase } hj
    have := h.slots
    dsimp only at *
    omega
  ips ip := by
    have h₁ := countP_set_add (fun r => r.phase == .returned true && r.ip == ip)
      { r with phase } hj
    have h₂ := h.ips ip
    have h₃ := hips ip
    dsimp only at *
    omega
  ipLimit ip := Nat.le_trans (hlimit ip) (h.ipLimit ip)
  managed q := by
    have h₁ := countP_set_add (fun r => r.phase.removed && q r.ip) { r with phase } hj
    have h₂ := h.managed q
    simp only [hremoved, sessionsWith] at h₁ h₂ ⊢
    omega
  found r' hr' hf := by
    rcases List.mem_or_eq_of_mem_set hr' with hr' | rfl
    · exact h.found r' hr' hf
    · exact hfound hf
  sole := h.sole.set (List.getElem?_eq_some_iff.mp hj).1 hsole

/-- A release removes the session it found, which no other release has found. -/
theorem Inv.remove {j : ℕ} {r : Release} (hj : g.releases[j]? = some r) (hp : r.phase = .remove) :
    Inv ((g.removeSession r.session).setRelease j r .fetchSub) := by
  obtain ⟨session, rip, phase⟩ := r
  obtain rfl : phase = .remove := hp
  obtain ⟨⟨cip, phase, managed, closed⟩, hc, hadd, hman, hip⟩ :=
    h.found _ (List.mem_of_getElem? hj) rfl
  obtain rfl : managed = true := hman
  obtain rfl : cip = rip := hip
  change g.connections[session]? = _ at hc
  have hcount : ∀ p : AttachPhase → String → Bool,
      (g.connections.set session ⟨cip, phase, false, closed⟩).countP (fun c => p c.phase c.ip) =
        g.connections.countP fun c => p c.phase c.ip := by
    intro p
    exact Nat.add_right_cancel
      (countP_set_add (fun c => p c.phase c.ip) ⟨cip, phase, false, closed⟩ hc)
  have hrel : ∀ p : ReleasePhase → String → Bool, p .remove cip = p .fetchSub cip →
      (g.releases.set j ⟨session, cip, .fetchSub⟩).countP (fun r => p r.phase r.ip) =
        g.releases.countP fun r => p r.phase r.ip := by
    intro p hpp
    have := countP_set_add (fun r => p r.phase r.ip) ⟨session, cip, .fetchSub⟩ hj
    dsimp only at this
    rw [hpp] at this
    exact Nat.add_right_cancel this
  obtain ⟨hjlt, -⟩ := List.getElem?_eq_some_iff.mp hj
  obtain ⟨hclt, -⟩ := List.getElem?_eq_some_iff.mp hc
  have hothers : ∀ k r', g.releases[k]? = some r' → r'.phase.found → r'.session = session →
      k = j := fun k r' hk hf heq => h.sole k j r' _ hk hj hf rfl heq
  have heq : (g.removeSession session).setRelease j ⟨session, cip, .remove⟩ .fetchSub =
      { g with
        connections := g.connections.set session ⟨cip, phase, false, closed⟩
        releases := g.releases.set j ⟨session, cip, .fetchSub⟩ } := by
    simp only [removeSession, hc, GatewayServer.setRelease]
  rw [show (⟨session, cip, .remove⟩ : Release).session = session from rfl, heq]
  exact
    { h with
      room := by
        simp only [inFlight, hcount fun p _ => p.inFlight]
        exact h.room
      slots := by
        simp only [hcount fun p _ => p.holdsSlot, hrel (fun p _ => p.subtracted) rfl]
        exact h.slots
      ips := fun ip => by
        simp only [hcount fun p i => p.holdsIp && i == ip,
          hrel (fun p i => p == .returned true && i == ip) rfl]
        exact h.ips ip
      managed := fun q => by
        have h₁ := countP_set_add (fun c => c.managed && q c.ip) ⟨cip, phase, false, closed⟩ hc
        have h₂ := countP_set_add (fun r => r.phase.removed && q r.ip) ⟨session, cip, .fetchSub⟩ hj
        have h₃ := h.managed q
        change _ + (q cip).toNat = _ + 0 at h₁
        change _ + 0 = _ + (q cip).toNat at h₂
        simp only [sessionsWith, hcount fun p i => p.isAdded && q i] at h₃ ⊢
        omega
      added := fun x hx => by
        rcases List.mem_or_eq_of_mem_set hx with hx | rfl
        · exact h.added x hx
        · exact nofun
      found := fun r' hr' hf => by
        obtain ⟨k, hk⟩ := List.mem_iff_getElem?.mp hr'
        by_cases hkj : k = j
        · subst hkj
          rw [List.getElem?_set_self hjlt, Option.some_inj] at hk
          subst hk
          exact ⟨_, List.getElem?_set_self hclt, hadd, rfl, rfl⟩
        · rw [List.getElem?_set_ne (Ne.symm hkj)] at hk
          have hne : session ≠ r'.session := fun heq => hkj (hothers k r' hk hf heq.symm)
          obtain ⟨x, hx, hxs⟩ := h.found r' (List.mem_of_getElem? hk) hf
          exact ⟨x, (List.getElem?_set_ne hne).trans hx, hxs⟩
      sole := h.sole.set hjlt fun _ => hothers }

/-- The membership test of a release; where it finds the session, no other release has. -/
theorem Inv.contains {j : ℕ} {r : Release} (hj : g.releases[j]? = some r) (hp : r.phase = .contains)
    (hsole : g.contains r.session → g.SoleRelease r) :
    Inv (g.setRelease j r (if g.contains r.session then .remove else .returned false)) := by
  have hroom : g.active.toNat ≤ g.active.toNat := Nat.le_refl _
  split_ifs with hin
  · obtain ⟨hip, hothers⟩ := hsole hin
    obtain ⟨c, hc, hman⟩ := (Option.any_eq_true _ _).mp hin
    refine h.setRelease hj .remove hroom (by rw [hp]; rfl) (fun ip => by rw [hp]; rfl)
      (fun _ => Nat.le_refl _) (by rw [hp]; rfl) (fun _ => ?_) fun _ k r' hk hf heq => ?_
    · exact ⟨c, hc, h.added c (List.mem_of_getElem? hc) hman, hman, hip c hc⟩
    · have hmem := List.mem_of_getElem? hk
      obtain ⟨c', hc', -, hman', -⟩ := h.found r' hmem hf
      rw [heq] at hc'
      obtain rfl : c = c' := Option.some_inj.mp (hc.symm.trans hc')
      rw [hman, beq_eq_false_iff_ne.mpr (hothers r' hmem heq)] at hman'
      cases hman'
  · exact h.setRelease hj (.returned false) hroom (by rw [hp]; rfl) (fun ip => by rw [hp]; rfl)
      (fun _ => Nat.le_refl _) (by rw [hp]; rfl) nofun nofun

/-- A release that has removed its session goes on alone. -/
theorem Inv.setRemoved {j : ℕ} {r : Release}
    (hj : g.releases[j]? = some r) (hr : r.phase.removed) (phase : ReleasePhase)
    (hphase : phase.removed) {active : UInt64} {ipCount : String → ℕ}
    (hroom : active.toNat ≤ g.active.toNat)
    (hslots : active.toNat + phase.subtracted.toNat =
      g.active.toNat + r.phase.subtracted.toNat)
    (hips : ∀ ip, ipCount ip + (phase == .returned true && r.ip == ip).toNat =
      g.ipCount ip + (r.phase == .returned true && r.ip == ip).toNat)
    (hlimit : ∀ ip, ipCount ip ≤ g.ipCount ip) :
    Inv { g with releases := g.releases.set j { r with phase }, active, ipCount } := by
  have hfound := ReleasePhase.found_of_removed hr
  refine h.setRelease hj phase hroom hslots hips hlimit (hphase.trans hr.symm) (fun _ => ?_)
    fun _ k r' hk hf heq => h.sole k j r' r hk hj hf hfound heq
  obtain ⟨c, hc, hadd, hman, hip⟩ := h.found r (List.mem_of_getElem? hj) hfound
  refine ⟨c, hc, hadd, hman.trans ?_, hip⟩
  rw [ReleasePhase.ne_remove_of_removed hr, ReleasePhase.ne_remove_of_removed hphase]

theorem Inv.fetchSub {j : ℕ} {r : Release}
    (hj : g.releases[j]? = some r) (hp : r.phase = .fetchSub) :
    Inv { g.setRelease j r .releaseIp with
      active := g.active - 1
      wrapped := g.wrapped || g.active == 0 } := by
  have hpos : 1 ≤ g.active.toNat := by
    have h₁ : g.releases.countP (·.phase.subtracted) <
        g.releases.countP fun r => r.phase.removed && true := by
      refine countP_lt_countP (List.mem_of_getElem? hj) (fun r _ hr => ?_) (by rw [hp]; rfl)
        (by rw [hp]; rfl)
      rw [Bool.and_true]
      exact ReleasePhase.removed_of_subtracted hr
    have h₂ := h.managed fun _ => true
    have h₃ : g.connections.countP (fun c => c.phase.isAdded && true) ≤
        g.connections.countP (·.phase.holdsSlot) := by
      refine List.countP_mono_left fun c _ hc => ?_
      rw [Bool.and_true] at hc
      exact AttachPhase.holdsSlot_of_isAdded hc
    have h₄ := h.slots
    omega
  have hsub : (g.active - 1).toNat = g.active.toNat - 1 :=
    UInt64.toNat_sub_of_le _ _ (UInt64.le_iff_toNat_le.mpr hpos)
  have hwrapped : (g.wrapped || g.active == 0) = g.wrapped := by
    have hne : g.active ≠ 0 := fun h0 => by simp [h0] at hpos
    simp [hne]
  rw [hwrapped]
  refine h.setRemoved hj (by rw [hp]; rfl) .releaseIp rfl ?_ ?_ (fun ip => by rw [hp]; rfl)
    (fun _ => Nat.le_refl _)
  · omega
  · rw [hsub, hp]
    change _ - 1 + 1 = _ + 0
    omega

theorem Inv.releaseIp {j : ℕ} {r : Release}
    (hj : g.releases[j]? = some r) (hp : r.phase = .releaseIp) :
    Inv { g.setRelease j r (.returned true) with
      ipCount :=
        if g.perIpLimit = 0 ∨ g.ipCount r.ip = 0 then g.ipCount
        else Function.update g.ipCount r.ip (g.ipCount r.ip - 1) } := by
  have hpos : 1 ≤ g.ipCount r.ip := by
    have h₁ : g.releases.countP (fun x => x.phase == .returned true && x.ip == r.ip) <
        g.releases.countP fun x => x.phase.removed && x.ip == r.ip := by
      refine countP_lt_countP (List.mem_of_getElem? hj) (fun x _ hx => ?_) (by rw [hp]; rfl)
        (by rw [hp]; simp [ReleasePhase.removed])
      rw [Bool.and_eq_true] at hx ⊢
      rw [eq_of_beq hx.1]
      exact ⟨rfl, hx.2⟩
    have h₂ := h.sessionsWith_add_le (· == r.ip)
    have h₃ := h.ips r.ip
    omega
  have hlimit : g.perIpLimit ≠ 0 := fun h0 => by
    have := h.perIpLimit_pos
    simp [h0] at this
  rw [if_neg (by rintro (h0 | h0); exacts [hlimit h0, by omega])]
  refine h.setRemoved hj (by rw [hp]; rfl) (.returned true) rfl (Nat.le_refl _) (by rw [hp]; rfl)
    (fun ip => ?_) fun ip => ?_
  · rw [hp]
    change _ + (r.ip == ip).toNat = g.ipCount ip + 0
    by_cases hip : ip = r.ip
    · subst hip
      rw [Function.update_self, beq_self_eq_true, Bool.toNat_true]
      omega
    · rw [Function.update_of_ne hip, beq_eq_false_iff_ne.mpr (Ne.symm hip), Bool.toNat_false]
  · by_cases hip : ip = r.ip
    · subst hip
      rw [Function.update_self]
      omega
    · exact Nat.le_of_eq (Function.update_of_ne hip _ _)

theorem Inv.release {j : ℕ} {r : Release} (hj : g.releases[j]? = some r)
    (hsole : r.phase = .contains → g.contains r.session → g.SoleRelease r)
    (hs : g.releaseStep j r = some g') : Inv g' := by
  unfold releaseStep at hs
  split at hs
  next hp =>
    obtain rfl := Option.some_inj.mp hs
    exact h.contains hj hp (hsole hp)
  next hp =>
    obtain rfl := Option.some_inj.mp hs
    exact h.remove hj hp
  next hp =>
    obtain rfl := Option.some_inj.mp hs
    exact h.fetchSub hj hp
  next hp =>
    obtain rfl := Option.some_inj.mp hs
    exact h.releaseIp hj hp
  next => simp at hs

theorem Inv.accept (ip : String) : Inv { g with connections := g.connections ++ [{ ip }] } where
  __ := h
  room := by simpa [inFlight, AttachPhase.inFlight] using h.room
  slots := by simpa [AttachPhase.holdsSlot] using h.slots
  ips ip' := by simpa [AttachPhase.holdsIp] using h.ips ip'
  managed q := by simpa [AttachPhase.isAdded, sessionsWith] using h.managed q
  added c hc := by
    rcases List.mem_append.mp hc with hc | hc
    · exact h.added c hc
    · rw [List.mem_singleton.mp hc]
      exact nofun
  found r hr hfound := by
    obtain ⟨c, hc, hrest⟩ := h.found r hr hfound
    obtain ⟨hlt, -⟩ := List.getElem?_eq_some_iff.mp hc
    exact ⟨c, (List.getElem?_append_left hlt).trans hc, hrest⟩

end

theorem Inv.step {a : GatewayAction} (h : Inv g) (he : g.Exclusive a)
    (hs : g.step a = some g') : Inv g' := by
  cases a with
  | accept ip =>
    obtain rfl := Option.some_inj.mp hs
    exact h.accept ip
  | attach i =>
    simp only [GatewayServer.step] at hs
    split at hs
    next => simp at hs
    next c hc => exact h.attach hc (he c hc) hs
  | close i =>
    simp only [GatewayServer.step] at hs
    split at hs
    next => simp at hs
    next c hc =>
      split_ifs at hs
      obtain rfl := Option.some_inj.mp hs
      refine Inv.addRelease (g := { g with
        connections := g.connections.set i { c with closed := true } }) ?_ i c.ip
      exact h.setConnection hc { c with closed := true } rfl
        (by have := h.room; dsimp only; omega) rfl (fun _ => rfl) h.ipLimit rfl
        (h.added c (List.mem_of_getElem? hc)) fun ha => ⟨ha, rfl⟩
  | stop sessions =>
    simp only [GatewayServer.step] at hs
    split_ifs at hs
    obtain rfl := Option.some_inj.mp hs
    exact h.setStops _
  | stopNext k connected =>
    simp only [GatewayServer.step] at hs
    split at hs
    next => simp at hs
    next call _ =>
      split at hs
      next => simp at hs
      next i todo _ =>
        split at hs
        next => simp at hs
        next c _ =>
          split at hs
          next =>
            obtain rfl := Option.some_inj.mp hs
            exact (h.addRelease i _).setStops _
          next => simp at hs
  | release j =>
    simp only [GatewayServer.step] at hs
    split at hs
    next => simp at hs
    next r hr => exact h.release hr (he r hr) hs

/-- The limits hold in every run in which no attach overtakes the check of another, and no
two releases of a session overlap. -/
theorem within_limits {g : GatewayServer} (h : Reaches Exclusive g) : WithinLimits g := by
  have hi : Inv g := by
    refine h.invariant ?_ fun g a g' hi he hs => hi.step he hs
    rintro g ⟨maxConnections, perIpLimit, hmax, hip, rfl⟩
    exact ⟨hmax, hip, by simp [inFlight], rfl, rfl, fun _ => rfl, fun _ => Nat.zero_le _,
      fun _ => rfl, nofun, nofun, nofun⟩
  exact hi.withinLimits

/-- The steps of an attach that is let in. -/
def attachAll (i : ℕ) : List GatewayAction := List.replicate 5 (.attach i)

/-- With room for two connections and one from each IP, two are attached, a third is refused
by the total, and one is closed. -/
theorem within_limits_two : ∃ g, Reaches Exclusive g ∧ g.active = 1 ∧ g.ipCount "a" = 0 ∧
    g.connections.map (·.phase) = [.attached, .attached, .rejected] ∧ WithinLimits g := by
  obtain ⟨g, hr, hactive, hip, hphases⟩ : ∃ g, Reaches Exclusive g ∧
      g.active = 1 ∧ g.ipCount "a" = 0 ∧
      g.connections.map (·.phase) = [.attached, .attached, .rejected] :=
    Reaches.exists_runWith (.init ⟨2, 1, by decide, by decide, rfl⟩)
      (([.accept "a", .accept "b", .accept "c"] : List GatewayAction) ++ attachAll 0 ++
        attachAll 1 ++ ([.attach 2, .close 0, .release 0, .release 0, .release 0, .release 0] :
          List GatewayAction))
      (by decide +kernel)
  exact ⟨g, hr, hactive, hip, hphases, within_limits hr⟩

/-- Two attaches pass the check of a limit of one; a close handler and `stop` both find a
session and give its slot back, which wraps the total; and `stop` gives back the slot of a
session whose socket is closed for another IP. -/
theorem not_within_limits :
    (∃ g, Reaches (fun _ _ => True) g ∧ g.maxConnections = 1 ∧ g.active = 2 ∧ ¬WithinLimits g) ∧
    (∃ g, Reaches (fun _ _ => True) g ∧ g.active = 0xFFFFFFFFFFFFFFFF ∧ ¬WithinLimits g) ∧
    ∃ g, Reaches (fun _ _ => True) g ∧ g.Settled ∧ g.sessionsWith (· == "a") = 0 ∧
      g.ipCount "a" = 1 ∧ ¬WithinLimits g := by
  refine ⟨?_, ?_, ?_⟩
  · obtain ⟨g, hr, hmax, hactive⟩ : ∃ g, Reaches (fun _ _ => True) g ∧ g.maxConnections = 1 ∧
        g.active = 2 :=
      Reaches.exists_runWith (.init ⟨1, 1, by decide, by decide, rfl⟩)
        [.accept "a", .accept "b", .attach 0, .attach 1, .attach 0, .attach 1, .attach 0,
          .attach 1] (by decide +kernel)
    refine ⟨g, hr, hmax, hactive, fun h => ?_⟩
    have := h.total
    rw [hmax, hactive] at this
    exact absurd this (by decide)
  · obtain ⟨g, hr, hactive, hwrapped⟩ : ∃ g, Reaches (fun _ _ => True) g ∧
        g.active = 0xFFFFFFFFFFFFFFFF ∧ g.wrapped = true :=
      Reaches.exists_runWith (.init ⟨1, 1, by decide, by decide, rfl⟩)
        (.accept "a" :: attachAll 0 ++
          ([.stop [0], .stopNext 0 true, .close 0, .release 0, .release 1, .release 0, .release 1,
            .release 0, .release 1] : List GatewayAction)) (by decide +kernel)
    refine ⟨g, hr, hactive, fun h => ?_⟩
    have := h.not_wrapped
    rw [hwrapped] at this
    cases this
  · obtain ⟨g, hr, hsettled, hsessions, hip⟩ : ∃ g, Reaches (fun _ _ => True) g ∧ g.Settled ∧
        g.sessionsWith (· == "a") = 0 ∧ g.ipCount "a" = 1 :=
      Reaches.exists_runWith (.init ⟨1, 1, by decide, by decide, rfl⟩)
        (.accept "a" :: attachAll 0 ++
          ([.stop [0], .stopNext 0 false, .release 0, .release 0, .release 0, .release 0] :
            List GatewayAction))
        (by decide +kernel)
    refine ⟨g, hr, hsettled, hsessions, hip, fun h => ?_⟩
    have := h.exact_perIp hsettled "a"
    omega

end GatewayServer

end BoostGateway.Gateway
