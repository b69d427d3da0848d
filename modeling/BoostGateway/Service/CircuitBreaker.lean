import Mathlib.Algebra.Ring.Int.Defs
import BoostGateway.Base.Run

/-!
# The circuit breaker

`v2::service::CircuitBreaker` (`circuit_breaker.cpp`) and the requests that go
through it. Every public call holds the mutex, so a call is one step. A request
asks `allow_request` and, when admitted, later reports `on_success` or `on_failure`
once (`GatewayServiceBridge::route`), from any thread and at any time.

`allow_request` admits every request while the breaker is half-open, and
`half_open_requests_` counts successes, of whichever request. So the probing of a
half-open period is as bounded as its callers make it : it is where they never have more than
`half_open_max_requests` of its requests outstanding, and report no other success half-open
(`half_open_probing`).
-/

namespace BoostGateway.Service

/-- The options. -/
structure CircuitBreakerOptions where
  failureThreshold : ℕ := 3
  /-- In milliseconds. -/
  timeout : ℤ := 30000
  halfOpenMaxRequests : ℕ := 1

/-- The states. -/
inductive CircuitBreakerState
  | kClosed
  | kOpen
  | kHalfOpen
  deriving DecidableEq, Repr

/-- Both counters stop at a 32-bit threshold, so they do not wrap. -/
structure CircuitBreaker where
  options : CircuitBreakerOptions := {}
  state : CircuitBreakerState := .kClosed
  failureCount : ℕ := 0
  halfOpenRequests : ℕ := 0
  openedAt : ℕ := 0

namespace CircuitBreaker

variable (b : CircuitBreaker)

/-- `transition_to` at the time `now`. -/
def transitionTo (now : ℕ) : CircuitBreakerState → CircuitBreaker
  | .kOpen => { b with state := .kOpen, openedAt := now }
  | .kClosed => { b with state := .kClosed, failureCount := 0, halfOpenRequests := 0 }
  | .kHalfOpen => { b with state := .kHalfOpen, halfOpenRequests := 0 }

/-- `is_timeout_expired`; the clock counts nanoseconds. -/
def isTimeoutExpired (now : ℕ) : Bool :=
  b.options.timeout * 1000000 ≤ (now : ℤ) - b.openedAt

def onSuccess (now : ℕ) : CircuitBreaker :=
  match b.state with
  | .kClosed => { b with failureCount := 0 }
  | .kHalfOpen =>
    let b := { b with halfOpenRequests := b.halfOpenRequests + 1 }
    if b.options.halfOpenMaxRequests ≤ b.halfOpenRequests then b.transitionTo now .kClosed else b
  | .kOpen => b

def onFailure (now : ℕ) : CircuitBreaker :=
  match b.state with
  | .kClosed =>
    let b := { b with failureCount := b.failureCount + 1 }
    if b.options.failureThreshold ≤ b.failureCount then b.transitionTo now .kOpen else b
  | .kHalfOpen => b.transitionTo now .kOpen
  | .kOpen => b

/-- The breaker after `allow_request`, with the answer. -/
def allowRequest (now : ℕ) : CircuitBreaker × Bool :=
  if b.state = .kOpen then
    if b.isTimeoutExpired now then (b.transitionTo now .kHalfOpen, true) else (b, false)
  else (b, true)

/-- The next `allow_request` makes the request a probe : it is admitted and the breaker
is half-open then. -/
def Probes (now : ℕ) : Prop :=
  b.state = .kHalfOpen ∨ b.state = .kOpen ∧ b.isTimeoutExpired now

instance (b : CircuitBreaker) (now : ℕ) : Decidable (b.Probes now) :=
  inferInstanceAs (Decidable (_ ∨ _))

end CircuitBreaker

/-! ## Requests -/

/-- An admitted request. -/
structure Request where
  /-- The half-open period of its admission. -/
  period : Option ℕ
  reported : Bool := false

/-- A breaker, the time, and a record of the run. The last five fields are about the
half-open periods : how many there were, what happened in the last one, and how many
successes of its own requests each period had that closed the breaker. -/
structure Breaking where
  breaker : CircuitBreaker
  now : ℕ := 0
  requests : List Request := []
  period : ℕ := 0
  admitted : ℕ := 0
  results : ℕ := 0
  successes : ℕ := 0
  closings : List ℕ := []

/-- The calls and the clock. -/
inductive BreakerAction
  | advance (d : ℕ)
  | allowRequest
  | onSuccess (i : ℕ)
  | onFailure (i : ℕ)
  deriving DecidableEq

namespace Breaking

variable (s : Breaking)

/-- The record when a request asks : a new half-open period starts from nothing. -/
def enterPeriod : Breaking :=
  if s.breaker.state = .kOpen then
    { s with period := s.period + 1, admitted := 0, results := 0, successes := 0 }
  else s

def allow : Breaking :=
  let (b, admitted) := s.breaker.allowRequest s.now
  if admitted then
    if b.state = .kHalfOpen then
      let s := s.enterPeriod
      { s with
        breaker := b
        requests := s.requests ++ [⟨some s.period, false⟩]
        admitted := s.admitted + 1 }
    else { s with breaker := b, requests := s.requests ++ [⟨none, false⟩] }
  else { s with breaker := b }

/-- Request `r` at position `i` reports a success. -/
def succeed (i : ℕ) (r : Request) : Breaking :=
  let b := s.breaker.onSuccess s.now
  let s' := { s with breaker := b, requests := s.requests.set i { r with reported := true } }
  if s.breaker.state = .kHalfOpen then
    let n := s.successes + if r.period = some s.period then 1 else 0
    { s' with
      results := s.results + 1
      successes := n
      closings := if b.state = .kClosed then s.closings ++ [n] else s.closings }
  else s'

def fail (i : ℕ) (r : Request) : Breaking :=
  { s with
    breaker := s.breaker.onFailure s.now
    requests := s.requests.set i { r with reported := true }
    results := if s.breaker.state = .kHalfOpen then s.results + 1 else s.results }

def step : BreakerAction → Option Breaking
  | .advance d => some { s with now := s.now + d }
  | .allowRequest => some s.allow
  | .onSuccess i =>
    match s.requests[i]? with
    | none => none
    | some r => if r.reported then none else some (s.succeed i r)
  | .onFailure i =>
    match s.requests[i]? with
    | none => none
    | some r => if r.reported then none else some (s.fail i r)

/-- The states a breaker with any options reaches by actions that meet `ok`. -/
abbrev Reaches (ok : Breaking → BreakerAction → Prop) : Breaking → Prop :=
  BoostGateway.Reaches (fun s => ∃ options, s = { breaker := { options := options } }) step ok

/-- In a half-open period at most `half_open_max_requests` requests are admitted before
a result arrives, and every period that closed the breaker had that many successes of
requests admitted in it. -/
structure Probing (s : Breaking) : Prop where
  admitted : s.breaker.state = .kHalfOpen → s.results = 0 →
    s.admitted ≤ s.breaker.options.halfOpenMaxRequests
  closings : ∀ n ∈ s.closings, s.breaker.options.halfOpenMaxRequests ≤ n

/-- The requests of the period that have not reported. -/
def outstanding : ℕ :=
  s.requests.countP fun r => r.period = some s.period ∧ r.reported = false

/-- A probe asks only while fewer than `half_open_max_requests` of its period are
outstanding, and a success that arrives half-open is that of a probe of this period. -/
def Guarded : BreakerAction → Prop
  | .allowRequest => s.breaker.Probes s.now →
    s.enterPeriod.outstanding < s.breaker.options.halfOpenMaxRequests
  | .onSuccess i => s.breaker.state = .kHalfOpen →
    (s.requests[i]?.map Request.period) = some (some s.period)
  | .onFailure _ | .advance _ => True

instance (s : Breaking) (a : BreakerAction) : Decidable (s.Guarded a) :=
  match a with
  | .allowRequest => inferInstanceAs (Decidable (_ → _))
  | .onSuccess _ => inferInstanceAs (Decidable (_ → _))
  | .onFailure _ => .isTrue trivial
  | .advance _ => .isTrue trivial

/-! ## The breaker's calls -/

variable {b : CircuitBreaker} {now : ℕ}

theorem allowRequest_of_probes (h : b.Probes now) : ∃ b', b.allowRequest now = (b', true) ∧
    b'.state = .kHalfOpen ∧ b'.options = b.options ∧
      b'.halfOpenRequests = if b.state = .kOpen then 0 else b.halfOpenRequests := by
  rcases h with h | ⟨h, ht⟩
  · exact ⟨b, by simp [CircuitBreaker.allowRequest, h], h, rfl, by simp [h]⟩
  · exact ⟨b.transitionTo now .kHalfOpen, by simp [CircuitBreaker.allowRequest, h, ht], rfl, rfl,
      by simp [h, CircuitBreaker.transitionTo]⟩

theorem allowRequest_of_not_probes (h : ¬b.Probes now) :
    (b.allowRequest now).1 = b ∧ b.state ≠ .kHalfOpen := by
  have hne : b.state ≠ .kHalfOpen := fun hs => h (.inl hs)
  refine ⟨?_, hne⟩
  unfold CircuitBreaker.allowRequest
  split_ifs with ho ht
  · exact absurd (.inr ⟨ho, ht⟩) h
  · rfl
  · rfl

theorem onSuccess_of_halfOpen (h : b.state = .kHalfOpen) (now : ℕ) :
    b.options.halfOpenMaxRequests ≤ b.halfOpenRequests + 1 ∧
        (b.onSuccess now).state = .kClosed ∧ (b.onSuccess now).options = b.options ∨
      b.halfOpenRequests + 1 < b.options.halfOpenMaxRequests ∧
        b.onSuccess now = { b with halfOpenRequests := b.halfOpenRequests + 1 } := by
  simp only [CircuitBreaker.onSuccess, h]
  split_ifs with hmax
  · exact .inl ⟨hmax, rfl, rfl⟩
  · exact .inr ⟨by omega, rfl⟩

theorem onSuccess_of_ne (h : b.state ≠ .kHalfOpen) (now : ℕ) :
    (b.onSuccess now).state = b.state ∧ (b.onSuccess now).options = b.options := by
  cases hs : b.state <;> simp_all [CircuitBreaker.onSuccess]

theorem onFailure_spec (b : CircuitBreaker) (now : ℕ) :
    (b.onFailure now).state ≠ .kHalfOpen ∧ (b.onFailure now).options = b.options := by
  simp only [CircuitBreaker.onFailure]
  cases hs : b.state with
  | kClosed =>
    dsimp only
    split_ifs
    · exact ⟨nofun, rfl⟩
    · simp
  | kOpen => simp [hs]
  | kHalfOpen => exact ⟨nofun, rfl⟩

/-! ## Runs -/

/-- While half-open, `half_open_requests_` counts the results of the period, which are
all successes of its own requests. Until the first of them every request that was admitted
in the period is outstanding. -/
structure Inv (s : Breaking) : Prop extends Probing s where
  results : s.breaker.state = .kHalfOpen → s.breaker.halfOpenRequests = s.results
  successes : s.breaker.state = .kHalfOpen → s.successes = s.results
  period_le : ∀ r ∈ s.requests, ∀ n, r.period = some n → n ≤ s.period
  outstanding : s.breaker.state = .kHalfOpen → s.results = 0 → s.admitted = s.outstanding

theorem inv_init (options : CircuitBreakerOptions) :
    Inv { breaker := { options := options } } where
  admitted := nofun
  closings := nofun
  results := nofun
  successes := nofun
  period_le := nofun
  outstanding := nofun

/-- No request is of a period to come. -/
theorem Inv.outstanding_next {s : Breaking} (h : Inv s) :
    s.requests.countP (fun r => r.period = some (s.period + 1) ∧ r.reported = false) = 0 := by
  refine List.countP_eq_zero.mpr fun r hr hcount => ?_
  have hnext := (of_decide_eq_true hcount).1
  exact Nat.not_succ_le_self _ (h.period_le r hr _ hnext)

/-- The period a probe enters. -/
theorem Inv.enterPeriod {s : Breaking} (h : Inv s) (hp : s.breaker.Probes s.now) :
    s.enterPeriod.closings = s.closings ∧ s.enterPeriod.requests = s.requests ∧
      s.enterPeriod.successes = s.enterPeriod.results ∧
      (if s.breaker.state = .kOpen then 0 else s.breaker.halfOpenRequests) =
        s.enterPeriod.results ∧
      s.period ≤ s.enterPeriod.period ∧
      (s.enterPeriod.results = 0 → s.enterPeriod.admitted = s.enterPeriod.outstanding) := by
  unfold Breaking.enterPeriod
  split_ifs with ho
  · exact ⟨rfl, rfl, rfl, rfl, Nat.le_succ _, fun _ => h.outstanding_next.symm⟩
  · have hs : s.breaker.state = .kHalfOpen := hp.resolve_right fun hp => ho hp.1
    exact ⟨rfl, rfl, h.successes hs, h.results hs, le_rfl, h.outstanding hs⟩

/-- A report changes no period. -/
theorem Inv.period_le_set {s : Breaking} (h : Inv s) {i : ℕ} {r : Request}
    (hr : s.requests[i]? = some r) : ∀ r' ∈ s.requests.set i { r with reported := true },
      ∀ n, r'.period = some n → n ≤ s.period := by
  intro r' hmem n hn
  rcases List.mem_or_eq_of_mem_set hmem with hmem | rfl
  · exact h.period_le r' hmem n hn
  · exact h.period_le r (List.mem_of_getElem? hr) n hn

theorem Inv.allow {s : Breaking} (h : Inv s) (hg : s.Guarded .allowRequest) : Inv s.allow := by
  by_cases hp : s.breaker.Probes s.now
  · obtain ⟨b, hb, hhalf, hopt, hreq⟩ := allowRequest_of_probes hp
    obtain ⟨hclosings, hrequests, hsuccesses, hresults, hle, hout⟩ := h.enterPeriod hp
    have hmax : s.enterPeriod.outstanding < b.options.halfOpenMaxRequests := hopt ▸ hg hp
    simp only [Breaking.allow, hb, hhalf, if_true]
    exact
      { admitted := fun _ hr => by
          rw [hout hr]
          exact hmax
        closings := fun n hn => by
          rw [hopt]
          exact h.closings n (hclosings ▸ hn)
        results := fun _ => hreq.trans hresults
        successes := fun _ => hsuccesses
        period_le := fun r hr n hn => by
          rcases List.mem_append.mp hr with hr | hr
          · exact Nat.le_trans (h.period_le r (hrequests ▸ hr) n hn) hle
          · obtain rfl := List.mem_singleton.mp hr
            exact Nat.le_of_eq (Option.some_inj.mp hn).symm
        outstanding := fun _ hr => by
          simp [Breaking.outstanding, hout hr, List.countP_append] }
  · obtain ⟨hb, hne⟩ := allowRequest_of_not_probes hp
    simp only [Breaking.allow, hb]
    split_ifs with hadmit
    · refine ⟨⟨fun hs => absurd hs hne, h.closings⟩, fun hs => absurd hs hne,
        fun hs => absurd hs hne, fun r hr n hn => ?_, fun hs => absurd hs hne⟩
      rcases List.mem_append.mp hr with hr | hr
      · exact h.period_le r hr n hn
      · obtain rfl := List.mem_singleton.mp hr
        cases hn
    · exact ⟨⟨fun hs => absurd hs hne, h.closings⟩, fun hs => absurd hs hne,
        fun hs => absurd hs hne, h.period_le, fun hs => absurd hs hne⟩

theorem Inv.succeed {s : Breaking} (h : Inv s) {i : ℕ} {r : Request}
    (hget : s.requests[i]? = some r) (hr : s.breaker.state = .kHalfOpen → r.period = some s.period) : Inv (s.succeed i r) := by
  by_cases hs : s.breaker.state = .kHalfOpen
  · have hown := hr hs
    have hn := h.successes hs
    have hreq := h.results hs
    have hperiod := h.period_le_set hget
    rw [hown] at hperiod
    rcases onSuccess_of_halfOpen hs s.now with ⟨hmax, hstate, hopt⟩ | ⟨hlt, heq⟩
    · simp only [Breaking.succeed, hs, hstate, hown, if_true]
      refine ⟨⟨fun hc => ?_, fun n hmem => ?_⟩, fun hc => ?_, fun hc => ?_,
        hperiod, fun hc => ?_⟩
      · simp [hstate] at hc
      · rw [hopt]
        rcases List.mem_append.mp hmem with hmem | hmem
        · exact h.closings n hmem
        · rw [List.mem_singleton.mp hmem]
          omega
      · simp [hstate] at hc
      · simp [hstate] at hc
      · simp [hstate] at hc
    · have hopen : (s.breaker.onSuccess s.now).state ≠ .kClosed := by
        rw [heq]
        simp [hs]
      simp only [Breaking.succeed, hs, hopen, hown, if_true, if_false]
      refine ⟨⟨fun _ hzero => by simp at hzero, fun n hmem => ?_⟩, fun _ => ?_, fun _ => ?_,
        hperiod, fun _ hzero => by simp at hzero⟩
      · rw [heq]
        exact h.closings n hmem
      · rw [heq]
        exact congrArg (· + 1) hreq
      · exact congrArg (· + 1) hn
  · obtain ⟨hstate, hopt⟩ := onSuccess_of_ne hs s.now
    have hne : (s.breaker.onSuccess s.now).state ≠ .kHalfOpen := by rwa [hstate]
    simp only [Breaking.succeed, hs, if_false]
    refine ⟨⟨fun hc => absurd hc hne, fun n hmem => ?_⟩, fun hc => absurd hc hne,
      fun hc => absurd hc hne, h.period_le_set hget, fun hc => absurd hc hne⟩
    rw [hopt]
    exact h.closings n hmem

theorem Inv.fail {s : Breaking} (h : Inv s) {i : ℕ} {r : Request}
    (hget : s.requests[i]? = some r) : Inv (s.fail i r) := by
  obtain ⟨hne, hopt⟩ := onFailure_spec s.breaker s.now
  refine ⟨⟨fun hc => absurd hc hne, fun n hmem => ?_⟩, fun hc => absurd hc hne,
    fun hc => absurd hc hne, h.period_le_set hget, fun hc => absurd hc hne⟩
  change (s.breaker.onFailure s.now).options.halfOpenMaxRequests ≤ n
  rw [hopt]
  exact h.closings n hmem

theorem step_report {s s' : Breaking} {i : ℕ} {report : Request → Breaking}
    (hs : (match s.requests[i]? with
      | none => none
      | some r => if r.reported then none else some (report r)) = some s') :
    ∃ r, s.requests[i]? = some r ∧ s' = report r := by
  cases hr : s.requests[i]? with
  | none => simp [hr] at hs
  | some r =>
    simp only [hr] at hs
    split_ifs at hs
    exact ⟨r, rfl, (Option.some_inj.mp hs).symm⟩

theorem Inv.step {s s' : Breaking} {a : BreakerAction} (h : Inv s) (hg : s.Guarded a)
    (hs : s.step a = some s') : Inv s' := by
  cases a with
  | advance d =>
    obtain rfl := Option.some_inj.mp hs
    exact { h with }
  | allowRequest =>
    obtain rfl := Option.some_inj.mp hs
    exact h.allow hg
  | onSuccess i =>
    obtain ⟨r, hr, rfl⟩ := step_report hs
    refine h.succeed hr fun hhalf => ?_
    simpa [hr] using hg hhalf
  | onFailure i =>
    obtain ⟨r, hr, rfl⟩ := step_report hs
    exact h.fail hr

/-- Probing is as `half_open_max_requests` says in every run in which the callers keep
to it. -/
theorem half_open_probing {s : Breaking} (h : Reaches Guarded s) : Probing s := by
  have hi : Inv s := by
    refine h.invariant ?_ fun s a s' hi hg hs => hi.step hg hs
    rintro s ⟨options, rfl⟩
    exact inv_init options
  exact hi.toProbing

/-- Three requests fail, which opens the breaker, and the timeout passes. -/
def tripped : List BreakerAction :=
  [.allowRequest, .allowRequest, .allowRequest, .allowRequest, .onFailure 0, .onFailure 1,
    .onFailure 2, .advance 30000000000]

/-- One probe closes a breaker with the default options. -/
theorem half_open_probing_default : ∃ s, Reaches Guarded s ∧ s.closings = [1] ∧ Probing s := by
  obtain ⟨s, hr, hc⟩ : ∃ s, Reaches Guarded s ∧ s.closings = [1] :=
    Reaches.exists_runWith (.init ⟨{}, rfl⟩) (tripped ++ ([.allowRequest, .onSuccess 4] :
      List BreakerAction))
      (by decide +kernel)
  exact ⟨s, hr, hc, half_open_probing hr⟩

/-- Where one probe is allowed, two are out at a time, and the success of a request from
before the breaker opened closes it. -/
theorem not_half_open_probing :
    (∃ s, Reaches (fun _ _ => True) s ∧ s.breaker.options.halfOpenMaxRequests = 1 ∧
      s.breaker.state = .kHalfOpen ∧ s.results = 0 ∧ s.admitted = 2 ∧ ¬Probing s) ∧
    ∃ s, Reaches (fun _ _ => True) s ∧ s.breaker.options.halfOpenMaxRequests = 1 ∧
      s.breaker.state = .kClosed ∧ s.closings = [0] ∧ ¬Probing s := by
  constructor
  · obtain ⟨s, hr, hmax, hstate, hres, hadm⟩ : ∃ s, Reaches (fun _ _ => True) s ∧
        s.breaker.options.halfOpenMaxRequests = 1 ∧ s.breaker.state = .kHalfOpen ∧
        s.results = 0 ∧ s.admitted = 2 :=
      Reaches.exists_runWith (.init ⟨{}, rfl⟩) (tripped ++ ([.allowRequest, .allowRequest] :
        List BreakerAction))
        (by decide +kernel)
    refine ⟨s, hr, hmax, hstate, hres, hadm, fun hp => ?_⟩
    have := hp.admitted hstate hres
    omega
  · obtain ⟨s, hr, hmax, hstate, hclose⟩ : ∃ s, Reaches (fun _ _ => True) s ∧
        s.breaker.options.halfOpenMaxRequests = 1 ∧ s.breaker.state = .kClosed ∧
        s.closings = [0] :=
      Reaches.exists_runWith (.init ⟨{}, rfl⟩) (tripped ++ ([.allowRequest, .onSuccess 3] :
        List BreakerAction))
        (by decide +kernel)
    refine ⟨s, hr, hmax, hstate, hclose, fun hp => ?_⟩
    have := hp.closings 0 (by simp [hclose])
    omega

end Breaking

end BoostGateway.Service
