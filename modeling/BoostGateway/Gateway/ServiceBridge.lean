import Mathlib.Data.List.Infix
import BoostGateway.Service.CircuitBreaker
import BoostGateway.Service.Envelope

/-!
# Routing to the backends

`GatewayServiceBridge::route` (`gateway_service_bridge.cpp`) : a request to a backend goes
through the circuit breaker of its service. What the network does is given with each call
(`Exchange`) : whether there is a connection, and what the request and its one repetition
are answered. Metrics and traces are left out.

Of the errors a backend answers with, only `kRejected` is a success for the breaker. The
room and login services have other codes for requests that are refused, so a row of such
refusals opens the breaker for everybody : `never_trips_iff`.
-/

namespace BoostGateway.Gateway

open Service

/-- `ServiceErrorCode`; any other 32-bit code a backend sends is kept as it is. -/
inductive ServiceErrorCode
  | kOk
  | kTimeout
  | kUnavailable
  | kRejected
  | kInvalidRequest
  | kCircuitOpen
  | kInternalError
  | kNotImplemented
  | kUserAlreadyExists
  | kIllegalUsername
  | kWeakCredential
  | kAccountDisabled
  | kStorageUnavailable
  | kRoomNotFound
  | kRoomFull
  | kRoomInInstance
  | kRoomClosed
  | kNotRoomOwner
  | kNotRoomMember
  | other (code : Int32)
  deriving DecidableEq

/-- `static_cast<ServiceErrorCode>`. -/
def ServiceErrorCode.ofInt32 (code : Int32) : ServiceErrorCode :=
  if code = 0 then .kOk
  else if code = -1001 then .kTimeout
  else if code = -1002 then .kUnavailable
  else if code = -1003 then .kRejected
  else if code = -1004 then .kInvalidRequest
  else if code = -1007 then .kCircuitOpen
  else if code = -1005 then .kInternalError
  else if code = -1006 then .kNotImplemented
  else if code = -1100 then .kUserAlreadyExists
  else if code = -1101 then .kIllegalUsername
  else if code = -1102 then .kWeakCredential
  else if code = -1103 then .kAccountDisabled
  else if code = -1104 then .kStorageUnavailable
  else if code = -1200 then .kRoomNotFound
  else if code = -1201 then .kRoomFull
  else if code = -1202 then .kRoomInInstance
  else if code = -1203 then .kRoomClosed
  else if code = -1204 then .kNotRoomOwner
  else if code = -1205 then .kNotRoomMember
  else .other code

/-- What became of a request. -/
structure BackendRoutingResult where
  success : Bool := false
  responsePayload : String := ""
  error : ServiceErrorCode := .kOk
  correlationId : UInt64 := 0

/-- What happens to one request outside the bridge. -/
structure Exchange where
  /-- The time at which the breaker is asked. -/
  askedAt : ℕ := 0
  /-- The time at which the breaker is told the outcome. -/
  reportedAt : ℕ := 0
  /-- `ensure_connection` finds or makes a connection. -/
  connected : Bool := true
  /-- The answer to `send_request`. -/
  response : Option BackendEnvelope
  /-- The second `ensure_connection`, once the first request was not answered. -/
  reconnected : Bool := false
  retried : Option BackendEnvelope := none

/-- What the request or its repetition is answered. -/
def Exchange.answer (x : Exchange) : Option BackendEnvelope :=
  if x.connected then
    match x.response with
    | some response => some response
    | none => if x.reconnected then x.retried else none
  else none

/-- The breakers of the five slots. -/
structure ServiceBridge where
  breaker : ServiceId → CircuitBreaker

namespace ServiceBridge

/-- `slot_for`; the slot of the gateway is that of the login service. -/
def slotFor : ServiceId → ServiceId
  | .gateway => .login
  | service => service

def setBreaker (b : ServiceBridge) (service : ServiceId) (breaker : CircuitBreaker) :
    ServiceBridge where
  breaker s := if s = service then breaker else b.breaker s

def route (b : ServiceBridge) (target : ServiceId) (x : Exchange) :
    ServiceBridge × BackendRoutingResult :=
  let slot := slotFor target
  let (breaker, allowed) := (b.breaker slot).allowRequest x.askedAt
  if allowed then
    if x.connected then
      match x.answer with
      | none =>
        (b.setBreaker slot (breaker.onFailure x.reportedAt), { error := .kTimeout })
      | some response =>
        if response.kind = .error then
          let error := ServiceErrorCode.ofInt32 response.errorCode
          let breaker :=
            if error = .kRejected then breaker.onSuccess x.reportedAt
            else breaker.onFailure x.reportedAt
          (b.setBreaker slot breaker,
            { error := error
              responsePayload := response.payload
              correlationId := response.correlationId })
        else
          (b.setBreaker slot (breaker.onSuccess x.reportedAt),
            { success := true
              responsePayload := response.payload
              correlationId := response.correlationId })
    else (b.setBreaker slot (breaker.onFailure x.reportedAt), { error := .kUnavailable })
  else (b.setBreaker slot breaker, { error := .kCircuitOpen })

/-- The bridge after a sequence of calls, with their results. -/
def routeAll (b : ServiceBridge) (target : ServiceId) :
    List Exchange → ServiceBridge × List BackendRoutingResult
  | [] => (b, [])
  | x :: xs =>
    let (b, result) := b.route target x
    let (b, results) := b.routeAll target xs
    (b, result :: results)

end ServiceBridge

/-! ## Business outcomes -/

/-- The codes by which the room and login services refuse a request. -/
def ServiceErrorCode.isBusiness : ServiceErrorCode → Bool
  | .kRejected | .kInvalidRequest | .kUserAlreadyExists | .kIllegalUsername | .kWeakCredential
    | .kAccountDisabled | .kRoomNotFound | .kRoomFull | .kRoomInInstance | .kRoomClosed
    | .kNotRoomOwner | .kNotRoomMember => true
  | _ => false

/-- The backend answers, with a response or with a business outcome. -/
def Exchange.Answered (x : Exchange) : Prop :=
  ∃ response, x.answer = some response ∧ (response.kind = .response ∨
    response.kind = .error ∧ (ServiceErrorCode.ofInt32 response.errorCode).isBusiness)

/-- The answer is an error other than `kRejected`. -/
def Exchange.Fails (x : Exchange) : Prop :=
  ∃ response, x.answer = some response ∧ response.kind = .error ∧
    ServiceErrorCode.ofInt32 response.errorCode ≠ .kRejected

namespace ServiceBridge

/-- The breaker of the service is closed all along and no request is refused. -/
structure NeverTrips (b : ServiceBridge) (target : ServiceId) (xs : List Exchange) : Prop where
  closed : ∀ ys, ys <+: xs →
    ((b.routeAll target ys).1.breaker (slotFor target)).state = .kClosed
  not_refused : ∀ result ∈ (b.routeAll target xs).2, result.error ≠ .kCircuitOpen

variable {b : ServiceBridge} {target : ServiceId}

/-- What one call does while the breaker is closed. -/
theorem route_answered {x : Exchange}
    (hclosed : (b.breaker (slotFor target)).state = .kClosed) (hx : x.Answered) :
    (b.route target x).2.error ≠ .kCircuitOpen ∧
    (x.Fails → (b.route target x).1 = b.setBreaker (slotFor target)
      ((b.breaker (slotFor target)).onFailure x.reportedAt)) ∧
    (¬x.Fails → (b.route target x).1 = b.setBreaker (slotFor target)
      ((b.breaker (slotFor target)).onSuccess x.reportedAt)) := by
  obtain ⟨response, hanswer, hkind⟩ := hx
  have hallow : (b.breaker (slotFor target)).allowRequest x.askedAt =
      (b.breaker (slotFor target), true) := by
    rw [CircuitBreaker.allowRequest, if_neg (by simp [hclosed])]
  have hconn : x.connected = true := by
    by_contra hconn
    rw [Exchange.answer, if_neg hconn] at hanswer
    cases hanswer
  have hfails : x.Fails ↔ response.kind = .error ∧
      ServiceErrorCode.ofInt32 response.errorCode ≠ .kRejected := by
    simp [Exchange.Fails, hanswer]
  rw [route, hallow]
  simp only [if_true, hconn, hanswer]
  rcases hkind with hkind | ⟨hkind, hbusiness⟩
  · have hf : ¬x.Fails := by simp [hfails, hkind]
    rw [if_neg (by simp [hkind])]
    exact ⟨by simp, fun h => absurd h hf, fun _ => rfl⟩
  · rw [if_pos hkind]
    refine ⟨fun hopen => ?_, fun hf => ?_, fun hf => ?_⟩
    · have hcode : ServiceErrorCode.ofInt32 response.errorCode = .kCircuitOpen := hopen
      rw [hcode] at hbusiness
      cases hbusiness
    · rw [if_neg (hfails.mp hf).2]
    · rw [if_pos (by simpa [hfails, hkind] using hf)]

theorem neverTrips_nil :
    b.NeverTrips target [] ↔ (b.breaker (slotFor target)).state = .kClosed := by
  constructor
  · intro h
    exact h.closed [] List.prefix_rfl
  · intro h
    refine ⟨fun ys hys => ?_, by simp [routeAll]⟩
    rw [List.prefix_nil.mp hys]
    exact h

theorem neverTrips_cons {x : Exchange} {xs : List Exchange} :
    b.NeverTrips target (x :: xs) ↔ (b.breaker (slotFor target)).state = .kClosed ∧
      (b.route target x).2.error ≠ .kCircuitOpen ∧
      (b.route target x).1.NeverTrips target xs := by
  constructor
  · intro h
    refine ⟨h.closed [] (List.nil_prefix), h.not_refused _ List.mem_cons_self, ?_, ?_⟩
    · intro ys hys
      exact h.closed (x :: ys) (List.cons_prefix_cons.mpr ⟨rfl, hys⟩)
    · intro result hresult
      exact h.not_refused result (List.mem_cons_of_mem _ hresult)
  · rintro ⟨hclosed, hresult, h⟩
    refine ⟨fun ys hys => ?_, fun result hmem => ?_⟩
    · rcases List.prefix_cons_iff.mp hys with rfl | ⟨zs, rfl, hzs⟩
      · exact hclosed
      · exact h.closed zs hzs
    · rcases List.mem_cons.mp hmem with rfl | hmem
      · exact hresult
      · exact h.not_refused result hmem

/-- After `count` failures in a row, the failures that follow never add up to `threshold`. -/
def FailsBelow (threshold : ℕ) : ℕ → List Exchange → Prop
  | _, [] => True
  | count, x :: xs =>
    (x.Fails → count + 1 < threshold ∧ FailsBelow threshold (count + 1) xs) ∧
    (¬x.Fails → FailsBelow threshold 0 xs)

/-- The breaker counts the failures in a row. -/
theorem neverTrips_iff_failsBelow {xs : List Exchange}
    (hxs : ∀ x ∈ xs, x.Answered) {b : ServiceBridge} {options : CircuitBreakerOptions} {count : ℕ}
    (hclosed : (b.breaker (slotFor target)).state = .kClosed)
    (hcount : (b.breaker (slotFor target)).failureCount = count)
    (hoptions : (b.breaker (slotFor target)).options = options) :
    b.NeverTrips target xs ↔ FailsBelow (max 1 options.failureThreshold) count xs := by
  induction xs generalizing b count with
  | nil => simp [neverTrips_nil, hclosed, FailsBelow]
  | cons x xs ih =>
    obtain ⟨hresult, hfail, hsucc⟩ := route_answered hclosed (hxs x List.mem_cons_self)
    have hrest : ∀ y ∈ xs, y.Answered := fun y hy => hxs y (List.mem_cons_of_mem _ hy)
    rw [neverTrips_cons, FailsBelow]
    simp only [hclosed, hresult, true_and, ne_eq, not_false_eq_true]
    by_cases hf : x.Fails
    · simp only [hf, true_imp_iff, not_true_eq_false, false_imp_iff, and_true]
      rw [hfail hf]
      by_cases hopen : options.failureThreshold ≤ count + 1
      · -- The breaker opens, so the property fails before the next call.
        have hnot : ¬count + 1 < max 1 options.failureThreshold := by omega
        simp only [hnot, false_and, iff_false]
        intro h
        have := h.closed [] List.nil_prefix
        simp [routeAll, setBreaker, CircuitBreaker.onFailure, hclosed, hcount, hoptions, hopen,
          CircuitBreaker.transitionTo] at this
      · have hlt : count + 1 < max 1 options.failureThreshold := by omega
        simp only [hlt, true_and]
        apply ih hrest <;>
          simp [setBreaker, CircuitBreaker.onFailure, hclosed, hcount, hoptions, hopen]
    · simp only [hf, false_imp_iff, true_and, not_false_eq_true, true_imp_iff]
      rw [hsucc hf]
      apply ih hrest <;> simp [setBreaker, CircuitBreaker.onSuccess, hclosed, hoptions]

theorem failsBelow_iff {threshold count : ℕ} {xs : List Exchange} (hc : count < threshold) :
    FailsBelow threshold count xs ↔
      (∀ ys, ys <+: xs → (∀ x ∈ ys, x.Fails) → count + ys.length < threshold) ∧
      ∀ ys, ys <:+: xs → (∀ x ∈ ys, x.Fails) → ys.length < threshold := by
  induction xs generalizing count with
  | nil =>
    have hpos : 0 < threshold := by omega
    simp [FailsBelow, hc, hpos]
  | cons x xs ih =>
    rw [FailsBelow]
    by_cases hf : x.Fails
    · simp only [hf, true_imp_iff, not_true_eq_false, false_imp_iff, and_true]
      constructor
      · rintro ⟨hlt, h⟩
        obtain ⟨hpre, hinf⟩ := (ih hlt).mp h
        have hpre' : ∀ ys, ys <+: x :: xs → (∀ x ∈ ys, x.Fails) →
            count + ys.length < threshold := by
          intro ys hys hfails
          rcases List.prefix_cons_iff.mp hys with rfl | ⟨zs, rfl, hzs⟩
          · simpa using hc
          · have := hpre zs hzs fun y hy => hfails y (List.mem_cons_of_mem _ hy)
            simp only [List.length_cons]
            omega
        refine ⟨hpre', fun ys hys hfails => ?_⟩
        rcases List.infix_cons_iff.mp hys with hys | hys
        · have := hpre' ys hys hfails
          omega
        · exact hinf ys hys hfails
      · rintro ⟨hpre, hinf⟩
        have hlt : count + 1 < threshold := by
          simpa using hpre [x] (by simp) (by simpa using hf)
        refine ⟨hlt, (ih hlt).mpr ⟨fun ys hys hfails => ?_, fun ys hys hfails => ?_⟩⟩
        · have := hpre (x :: ys) (List.cons_prefix_cons.mpr ⟨rfl, hys⟩) (by simpa [hf] using hfails)
          simp only [List.length_cons] at this
          omega
        · exact hinf ys (List.infix_cons hys) hfails
    · simp only [hf, false_imp_iff, true_and, not_false_eq_true, true_imp_iff]
      have hnil : ∀ ys, ys <+: x :: xs → (∀ x ∈ ys, x.Fails) → ys = [] := by
        intro ys hys hfails
        rcases List.prefix_cons_iff.mp hys with rfl | ⟨zs, rfl, -⟩
        · rfl
        · exact absurd (hfails x List.mem_cons_self) hf
      rw [ih (by omega)]
      constructor
      · rintro ⟨-, hinf⟩
        refine ⟨fun ys hys hfails => ?_, fun ys hys hfails => ?_⟩
        · simpa [hnil ys hys hfails] using hc
        · rcases List.infix_cons_iff.mp hys with hys | hys
          · simp only [hnil ys hys hfails, List.length_nil]
            omega
          · exact hinf ys hys hfails
      · rintro ⟨-, hinf⟩
        refine ⟨fun ys hys hfails => ?_, fun ys hys hfails => ?_⟩
        · have := hinf ys (List.infix_cons hys.isInfix) hfails
          omega
        · exact hinf ys (List.infix_cons hys) hfails

/-- Calls that are all answered, with responses or business outcomes, leave a fresh breaker
closed if and only if errors other than `kRejected` never come in a row as long as the
failure threshold. -/
theorem never_trips_iff (options : CircuitBreakerOptions) {b : ServiceBridge}
    {target : ServiceId} {xs : List Exchange}
    (hfresh : b.breaker (slotFor target) = { options := options })
    (hxs : ∀ x ∈ xs, x.Answered) :
    b.NeverTrips target xs ↔ ∀ ys, ys <:+: xs → (∀ x ∈ ys, x.Fails) →
      ys.length < max 1 options.failureThreshold := by
  have hcount : b.NeverTrips target xs ↔ FailsBelow (max 1 options.failureThreshold) 0 xs :=
    neverTrips_iff_failsBelow hxs (by rw [hfresh]) (by rw [hfresh]) (by rw [hfresh])
  rw [hcount, failsBelow_iff (by omega)]
  constructor
  · exact fun h => h.2
  · intro h
    refine ⟨fun ys hys hfails => ?_, h⟩
    have := h ys hys.isInfix hfails
    omega

/-- A bridge with default breakers. -/
def fresh : ServiceBridge where
  breaker _ := {}

/-- The room service answers a request with the given code. -/
def refused (code : Int32) : Exchange where
  response := some { kind := .error, errorCode := code }

theorem answered_refused {code : Int32} (h : (ServiceErrorCode.ofInt32 code).isBusiness) :
    (refused code).Answered :=
  ⟨_, rfl, .inr ⟨rfl, h⟩⟩

/-- Two requests to a room that is full and a rejected one leave the breaker closed. -/
theorem never_trips_rejected :
    fresh.NeverTrips .room [refused (-1201), refused (-1201), refused (-1003)] := by
  refine (never_trips_iff {} rfl ?_).mpr ?_
  · simp only [List.mem_cons, List.not_mem_nil, or_false, forall_eq_or_imp, forall_eq]
    exact ⟨answered_refused (by decide), answered_refused (by decide),
      answered_refused (by decide)⟩
  · intro ys hys hfails
    by_contra hlen
    have hall := hys.eq_of_length (le_antisymm hys.length_le (by simpa using hlen))
    obtain ⟨response, hanswer, -, hcode⟩ := hfails (refused (-1003)) (by simp [hall])
    cases hanswer
    exact hcode (by decide)

/-- The third of three requests to a room that is full opens the breaker, and the next
request is refused. -/
theorem not_never_trips_full : ∃ xs, (∀ x ∈ xs, x.Answered) ∧
    .kCircuitOpen ∈ (fresh.routeAll .room xs).2.map (·.error) ∧ ¬fresh.NeverTrips .room xs := by
  have hopen : .kCircuitOpen ∈
      (fresh.routeAll .room (List.replicate 4 (refused (-1201)))).2.map (·.error) := by
    decide +kernel
  refine ⟨List.replicate 4 (refused (-1201)), fun x hx => ?_, hopen, fun h => ?_⟩
  · rw [List.eq_of_mem_replicate hx]
    exact answered_refused (by decide)
  · obtain ⟨result, hmem, herror⟩ := List.mem_map.mp hopen
    exact h.not_refused result hmem herror

end ServiceBridge

end BoostGateway.Gateway
