import BoostGateway.Service.Frame

/-!
# A connection to a backend : retries

`backend_connection.cpp` : `do_send` completes a request, writes it and reads the response.
`attempt_send_with_retry` calls it again after a failure, with the same variable each time;
the call takes the request by move, which leaves the numbers and empties the strings
(`BackendEnvelope.movedFrom`).

`BackendConnection.resendsSame_iff` : the attempts write the same request if and only if
only one is made, or the request has a correlation id and neither a message type nor a
payload. `BackendConnection.sendRequestWithRetry` is the caller with the permits.
-/

namespace BoostGateway.Service

open Json

/-- `BackendConnectionRetryOptions`; the backoffs are milliseconds. -/
structure BackendConnectionRetryOptions where
  maxRetries : UInt32 := 3
  initialBackoff : ℤ := 100
  maxBackoff : ℤ := 2000

/-- Where a request failed. -/
inductive FailureStage
  | none
  | notConnected
  | write
  | read
  deriving DecidableEq

/-- What the network and the peer do in one attempt. -/
structure Attempt where
  /-- The reconnect before the attempt succeeds. -/
  connects : Bool := true
  /-- The frame is written in full. -/
  written : Bool
  /-- The bytes that arrive before the read times out. -/
  received : Bytes := []
  /-- The correlation ids that other connections take before the next attempt. -/
  others : ℕ := 0
  others_lt : others + 1 < 2 ^ 64 := by decide

/-- `BackendConnection`. -/
structure BackendConnection where
  retryOptions : BackendConnectionRetryOptions := {}
  maxConcurrentRequests : UInt32 := 0
  connected : Bool := true
  lastFailureStage : FailureStage := .none
  activeRequests : UInt32 := 0
  /-- `g_next_correlation_id`. -/
  nextCorrelationId : UInt64 := 1
  /-- The envelopes given to `write_frame`. -/
  attempted : List BackendEnvelope := []

/-- An envelope after it was moved from. -/
def BackendEnvelope.movedFrom (e : BackendEnvelope) : BackendEnvelope :=
  { e with
    payload := ""
    messageType := "" }

/-- The fields that a retry must resend. -/
structure BackendEnvelope.SameRequest (e e' : BackendEnvelope) : Prop where
  messageType : e.messageType = e'.messageType
  payload : e.payload = e'.payload
  targetService : e.targetService = e'.targetService
  correlationId : e.correlationId = e'.correlationId

namespace BackendConnection

variable (c : BackendConnection)

/-- The part of `do_send` before the write : the request that is written. -/
def complete (request : BackendEnvelope) : BackendEnvelope :=
  { request with
    correlationId :=
      if request.correlationId = 0 then c.nextCorrelationId else request.correlationId
    sourceService := .gateway }

/-- The connection once the request is given to `write_frame`. -/
def begin (request : BackendEnvelope) : BackendConnection :=
  { c with
    nextCorrelationId :=
      if request.correlationId = 0 then c.nextCorrelationId + 1 else c.nextCorrelationId
    attempted := c.attempted ++ [c.complete request] }

/-- `do_send`. -/
def doSend (request : BackendEnvelope) (a : Attempt) :
    BackendConnection × Except TypeError (Option BackendEnvelope) :=
  let c := c.begin request
  if c.connected = false ∨ a.written = false then
    ({ c with
      connected := false
      lastFailureStage := .write }, .ok none)
  else
    match readFrame a.received with
    | .error e => (c, .error e)
    | .ok none =>
      ({ c with
        connected := false
        lastFailureStage := .read }, .ok none)
    | .ok (some (response, _)) => (c, .ok (some response))

/-- The part of `attempt_send_with_retry` between two attempts : the other connections go
on while it sleeps, and it reconnects. -/
def reconnect (others : ℕ) (connects : Bool) : BackendConnection :=
  let c := { c with nextCorrelationId := c.nextCorrelationId + UInt64.ofNat others }
  if c.connected = false ∨ c.lastFailureStage ≠ .none then { c with connected := connects } else c

/-- `attempt_send_with_retry`; `net n` is what the network does in the `n`-th attempt. -/
def attemptSendWithRetry (c : BackendConnection) (request : BackendEnvelope) (remaining : ℕ)
    (backoff : ℤ) (net : ℕ → Attempt) :
    BackendConnection × Except TypeError (Option BackendEnvelope) :=
  match c.doSend request (net 0) with
  | (c, .ok none) =>
    match remaining with
    | 0 => (c, .ok none)
    | remaining + 1 =>
      if backoff = 0 then (c, .ok none)
      else
        attemptSendWithRetry (c.reconnect (net 0).others (net 1).connects) request.movedFrom
          remaining (min (backoff * 2) c.retryOptions.maxBackoff) fun n => net (n + 1)
  | (c, result) => (c, result)

/-- The part of `send_request_with_retry` that holds the permit. -/
def sendWithPermit (request : BackendEnvelope) (net : ℕ → Attempt) :
    BackendConnection × Except TypeError (Option BackendEnvelope) :=
  if c.retryOptions.maxRetries = 0 then c.doSend request (net 0)
  else
    c.attemptSendWithRetry request c.retryOptions.maxRetries.toNat c.retryOptions.initialBackoff
      net

/-- `send_request_with_retry`. -/
def sendRequestWithRetry (request : BackendEnvelope)
    (net : ℕ → Attempt) : BackendConnection × Except TypeError (Option BackendEnvelope) :=
  if c.maxConcurrentRequests ≠ 0 ∧ c.maxConcurrentRequests ≤ c.activeRequests then
    ({ c with lastFailureStage := .notConnected }, .ok none)
  else
    let acquired := { c with
      lastFailureStage := .none
      activeRequests :=
        if c.maxConcurrentRequests = 0 then c.activeRequests else c.activeRequests + 1 }
    match acquired.sendWithPermit request net with
    | (c', .error e) => (c', .error e)
    | (c', .ok response) =>
      ({ c' with
        activeRequests :=
          if c.maxConcurrentRequests = 0 then c'.activeRequests else c'.activeRequests - 1 },
        .ok response)

/-- The envelopes that the attempts write. -/
def attempts (request : BackendEnvelope) (remaining : ℕ) (backoff : ℤ)
    (net : ℕ → Attempt) : List BackendEnvelope :=
  (c.attemptSendWithRetry request remaining backoff net).1.attempted.drop c.attempted.length

/-- Each attempt writes the request of the first. -/
def ResendsSame (es : List BackendEnvelope) : Prop :=
  ∀ first ∈ es.head?, ∀ e ∈ es, e.SameRequest first

/-- The first attempt fails, and the budget and the backoff allow another. -/
def Retries (remaining : ℕ) (backoff : ℤ) (a : Attempt) : Prop :=
  (c.connected = false ∨ a.written = false ∨ readFrame a.received = .ok none) ∧
    remaining ≠ 0 ∧ backoff ≠ 0

/-! ## One attempt -/

variable (request : BackendEnvelope)

/-- After the write only the socket and the failure stage change. -/
theorem doSend_fst (a : Attempt) :
    ∃ connected stage, (c.doSend request a).1 =
      { c.begin request with connected := connected, lastFailureStage := stage } := by
  unfold doSend
  dsimp only
  split_ifs
  · exact ⟨_, _, rfl⟩
  · split
    · exact ⟨_, _, rfl⟩
    · exact ⟨_, _, rfl⟩
    · exact ⟨_, _, rfl⟩

theorem attempted_doSend (a : Attempt) :
    (c.doSend request a).1.attempted = c.attempted ++ [c.complete request] := by
  obtain ⟨connected, stage, h⟩ := c.doSend_fst request a
  rw [h, begin]

theorem nextCorrelationId_doSend {request : BackendEnvelope}
    (hzero : request.correlationId = 0) (a : Attempt) :
    (c.doSend request a).1.nextCorrelationId = c.nextCorrelationId + 1 := by
  obtain ⟨connected, stage, h⟩ := c.doSend_fst request a
  rw [h, begin]
  exact if_pos hzero

/-- An attempt that neither answers nor raises. -/
theorem doSend_eq_none_iff (a : Attempt) :
    (c.doSend request a).2 = .ok none ↔
      c.connected = false ∨ a.written = false ∨ readFrame a.received = .ok none := by
  have hbegin : (c.begin request).connected = c.connected := rfl
  unfold doSend
  dsimp only
  rw [hbegin]
  split_ifs with hw
  · exact iff_of_true rfl (hw.elim .inl fun h => .inr (.inl h))
  · simp only [not_or] at hw
    split
    next e he => simp [he, hw]
    next he => simp [he]
    next response rest he => simp [he, hw]

@[simp] theorem attempted_reconnect (others : ℕ) (connects : Bool) :
    (c.reconnect others connects).attempted = c.attempted := by
  unfold reconnect
  dsimp only
  split_ifs <;> rfl

@[simp] theorem nextCorrelationId_reconnect (others : ℕ)
    (connects : Bool) : (c.reconnect others connects).nextCorrelationId =
      c.nextCorrelationId + UInt64.ofNat others := by
  unfold reconnect
  dsimp only
  split_ifs <;> rfl

/-! ## The loop -/

/-- The first attempt is the only one. -/
theorem attemptSendWithRetry_of_not_retries {c : BackendConnection} {request : BackendEnvelope}
    {remaining : ℕ} {backoff : ℤ} {net : ℕ → Attempt}
    (h : ¬c.Retries remaining backoff (net 0)) :
    c.attemptSendWithRetry request remaining backoff net = c.doSend request (net 0) := by
  unfold attemptSendWithRetry
  split
  next c' hsend =>
    have hfail := (doSend_eq_none_iff c request (net 0)).mp (by rw [hsend])
    cases remaining with
    | zero => exact hsend.symm
    | succ remaining =>
      dsimp only
      rw [if_pos (by_contra fun hb => h ⟨hfail, Nat.succ_ne_zero _, hb⟩), hsend]
  next c' result hresult hsend => exact hsend.symm

/-- The loop goes on with the request that was moved from. -/
theorem attemptSendWithRetry_of_retries {c : BackendConnection} {request : BackendEnvelope}
    {remaining : ℕ} {backoff : ℤ} {net : ℕ → Attempt}
    (h : c.Retries (remaining + 1) backoff (net 0)) :
    c.attemptSendWithRetry request (remaining + 1) backoff net =
      ((c.doSend request (net 0)).1.reconnect (net 0).others (net 1).connects).attemptSendWithRetry
        request.movedFrom remaining
        (min (backoff * 2) (c.doSend request (net 0)).1.retryOptions.maxBackoff)
        fun n => net (n + 1) := by
  have hfail := (doSend_eq_none_iff c request (net 0)).mpr h.1
  conv_lhs => unfold attemptSendWithRetry
  split
  next c' hsend =>
    dsimp only
    rw [if_neg h.2.2, hsend]
  next c' result hresult hsend =>
    rw [hsend] at hfail
    exact absurd hfail hresult

/-- A later attempt writes the target and what the moves left of the request. -/
structure Leftover (request e : BackendEnvelope) : Prop where
  payload : e.payload = ""
  messageType : e.messageType = ""
  targetService : e.targetService = request.targetService
  correlationId : request.correlationId ≠ 0 → e.correlationId = request.correlationId

theorem attempted_attemptSendWithRetry
    (remaining : ℕ) (backoff : ℤ) (net : ℕ → Attempt) :
    ∃ es, (c.attemptSendWithRetry request remaining backoff net).1.attempted =
      c.attempted ++ c.complete request :: es ∧ ∀ e ∈ es, Leftover request e := by
  induction remaining generalizing c request backoff net with
  | zero =>
    rw [attemptSendWithRetry_of_not_retries fun h => h.2.1 rfl]
    exact ⟨[], attempted_doSend c request (net 0), List.forall_mem_nil _⟩
  | succ remaining ih =>
    by_cases h : c.Retries (remaining + 1) backoff (net 0)
    · rw [attemptSendWithRetry_of_retries h]
      generalize hc : (c.doSend request (net 0)).1.reconnect (net 0).others (net 1).connects = c'
      obtain ⟨es, hes, hleft⟩ := ih c' request.movedFrom
        (min (backoff * 2) (c.doSend request (net 0)).1.retryOptions.maxBackoff)
        fun n => net (n + 1)
      refine ⟨c'.complete request.movedFrom :: es, ?_, ?_⟩
      · rw [hes, ← hc, attempted_reconnect, attempted_doSend, List.append_assoc]
        rfl
      · intro e he
        obtain rfl | he := List.mem_cons.mp he
        · exact ⟨rfl, rfl, rfl, fun hne => if_neg hne⟩
        · have hl := hleft e he
          exact ⟨hl.payload, hl.messageType, hl.targetService, hl.correlationId⟩
    · rw [attemptSendWithRetry_of_not_retries h]
      exact ⟨[], attempted_doSend c request (net 0), List.forall_mem_nil _⟩

/-- The attempts are the first and those with what it left of the request. -/
theorem attempts_cases (remaining : ℕ) (backoff : ℤ) (net : ℕ → Attempt) :
    ∃ es, c.attempts request remaining backoff net = c.complete request :: es ∧
      ∀ e ∈ es, Leftover request e := by
  obtain ⟨es, hes, hleft⟩ := c.attempted_attemptSendWithRetry request remaining backoff net
  exact ⟨es, by rw [attempts, hes, List.drop_left], hleft⟩

theorem attempts_of_not_retries {c : BackendConnection} {request : BackendEnvelope}
    {remaining : ℕ} {backoff : ℤ} {net : ℕ → Attempt}
    (h : ¬c.Retries remaining backoff (net 0)) :
    c.attempts request remaining backoff net = [c.complete request] := by
  rw [attempts, attemptSendWithRetry_of_not_retries h, attempted_doSend, List.drop_left]

/-- The second attempt : where the id is generated, it is another one than the first. -/
theorem attempts_of_retries {c : BackendConnection} (request : BackendEnvelope)
    {remaining : ℕ} {backoff : ℤ} {net : ℕ → Attempt}
    (h : c.Retries remaining backoff (net 0)) :
    ∃ second ∈ c.attempts request remaining backoff net, Leftover request second ∧
      (request.correlationId = 0 →
        second.correlationId ≠ (c.complete request).correlationId) := by
  cases remaining with
  | zero => exact absurd rfl h.2.1
  | succ remaining =>
    have hattempts : (c.attemptSendWithRetry request (remaining + 1) backoff net).1 = _ :=
      congrArg Prod.fst (attemptSendWithRetry_of_retries h)
    generalize hc : (c.doSend request (net 0)).1.reconnect (net 0).others (net 1).connects = c'
      at hattempts
    obtain ⟨es, hes, -⟩ := c'.attempted_attemptSendWithRetry request.movedFrom remaining
      (min (backoff * 2) (c.doSend request (net 0)).1.retryOptions.maxBackoff) fun n => net (n + 1)
    refine ⟨c'.complete request.movedFrom, ?_, ⟨rfl, rfl, rfl, fun hne => if_neg hne⟩, ?_⟩
    · rw [attempts, hattempts, hes, ← hc, attempted_reconnect, attempted_doSend,
        List.append_assoc, List.drop_left]
      exact .tail _ (.head _)
    · intro hzero
      have hnext : c'.nextCorrelationId =
          c.nextCorrelationId + 1 + UInt64.ofNat (net 0).others := by
        rw [← hc, nextCorrelationId_reconnect, nextCorrelationId_doSend c hzero]
      have hsecond : (c'.complete request.movedFrom).correlationId = c'.nextCorrelationId :=
        if_pos hzero
      have hfirst : (c.complete request).correlationId = c.nextCorrelationId := if_pos hzero
      rw [hsecond, hfirst, hnext, UInt64.add_assoc]
      intro heq
      have hlt := (net 0).others_lt
      have hnat := congrArg UInt64.toNat (UInt64.add_eq_left.mp heq)
      simp only [UInt64.toNat_add, UInt64.toNat_ofNat', UInt64.reduceToNat,
        UInt64.toNat_zero] at hnat
      omega

/-- The attempts write the same request if and only if only one is made, or the request has
an id, no message type and no payload. -/
theorem resendsSame_iff (c : BackendConnection) (request : BackendEnvelope) (remaining : ℕ)
    (backoff : ℤ) (net : ℕ → Attempt) :
    ResendsSame (c.attempts request remaining backoff net) ↔
      ¬c.Retries remaining backoff (net 0) ∨
        request.correlationId ≠ 0 ∧ request.messageType = "" ∧ request.payload = "" := by
  constructor
  · intro hsame
    by_cases h : c.Retries remaining backoff (net 0)
    · obtain ⟨es, hes, -⟩ := c.attempts_cases request remaining backoff net
      obtain ⟨second, hmem, hleft, hid⟩ := attempts_of_retries request h
      have hs := hsame (c.complete request) (by simp [hes]) second hmem
      exact .inr ⟨fun hzero => hid hzero hs.correlationId,
        hs.messageType.symm.trans hleft.messageType, hs.payload.symm.trans hleft.payload⟩
    · exact .inl h
  · rintro (h | ⟨hid, htype, hpayload⟩)
    · rw [attempts_of_not_retries h]
      intro first hfirst e he
      obtain rfl : c.complete request = first := by simpa using hfirst
      obtain rfl := List.mem_singleton.mp he
      exact ⟨rfl, rfl, rfl, rfl⟩
    · obtain ⟨es, hes, hleft⟩ := c.attempts_cases request remaining backoff net
      rw [hes]
      intro first hfirst e he
      obtain rfl : c.complete request = first := by simpa using hfirst
      obtain rfl | he := List.mem_cons.mp he
      · exact ⟨rfl, rfl, rfl, rfl⟩
      · have hl := hleft e he
        exact ⟨hl.messageType.trans htype.symm, hl.payload.trans hpayload.symm, hl.targetService,
          (hl.correlationId hid).trans (if_neg hid).symm⟩

/-- The response to the first attempt does not arrive : the second writes an envelope
without message type and payload. -/
theorem not_resendsSame : ¬ResendsSame (({} : BackendConnection).attempts
    { correlationId := 7, messageType := "login", payload := "token" } 3 100
    fun _ => { written := true }) := by
  intro hsame
  generalize hrequest :
    ({ correlationId := 7, messageType := "login", payload := "token" } : BackendEnvelope) = request
    at hsame
  generalize hnet : (fun _ => { written := true } : ℕ → Attempt) = net at hsame
  have h : Retries {} 3 100 (net 0) := by
    rw [← hnet]
    exact ⟨.inr (.inr rfl), by decide, by decide⟩
  obtain ⟨es, hes, -⟩ := attempts_cases {} request 3 100 net
  obtain ⟨second, hmem, hleft, -⟩ := attempts_of_retries request h
  have hs := hsame (complete {} request) (by simp [hes]) second hmem
  have hpayload : second.payload = request.payload := hs.payload
  rw [hleft.payload, ← hrequest] at hpayload
  simp at hpayload

end BackendConnection

end BoostGateway.Service
