import BoostGateway.Service.Frame

/-!
# The session of a backend server

`BackendServer::handle_plain_session` (`backend_server.cpp:209-226`) reads frames and
answers them until one gives nothing. What a handler raises is caught in
`handle_request`; what `from_json` raises is caught nowhere, while the session over TLS
has a handler for it (`backend_server.cpp:234-249`).

`session_returns_iff` : `from_json` returns exactly on the typed bodies, and a session
ends without an exception exactly when every body that it comes to is typed. A session
comes to a body when the bodies before it are envelopes.
-/

namespace BoostGateway.Service

open Json

variable {ε : Type} (floatText : Float → List Char)

/-- `HandlerMap` : handlers by message type, which may raise. -/
abbrev HandlerMap (ε : Type) := String → Option (BackendEnvelope → Except ε BackendEnvelope)

/-- `handle_request` (`backend_server.cpp:175-207`). -/
def handleRequest (handlers : HandlerMap ε) (request : BackendEnvelope) : BackendEnvelope :=
  let response : BackendEnvelope :=
    { correlationId := request.correlationId
      sourceService := request.targetService
      targetService := request.sourceService
      kind := .response }
  match handlers request.messageType with
  | some handler =>
    match handler request with
    | .ok answer =>
      { answer with
        correlationId := request.correlationId
        sourceService :=
          if answer.sourceService = .gateway then request.targetService
          else answer.sourceService
        targetService :=
          if answer.targetService = .gateway then request.sourceService
          else answer.targetService }
    | .error _ => { response with kind := .error, errorCode := -1005, payload := "" }
  | none => { response with kind := .error, errorCode := -1006, payload := "" }

/-- `handle_plain_session` on the bytes the peer sends, with the bytes it writes. The
server is stopped after `turns` rounds of the loop, if not before. -/
def handlePlainSession (handlers : HandlerMap ε) : ℕ → Bytes → Except TypeError Bytes
  | 0, _ => .ok []
  | turns + 1, stream => do
    match ← readFrame stream with
    | none => return []
    | some (request, rest) =>
      let written ← handlePlainSession handlers turns rest
      return encodeFrame floatText (handleRequest handlers request) ++ written

/-- The bodies of the first `n` frames. -/
def frameBodies : ℕ → Bytes → List Bytes
  | 0, _ => []
  | n + 1, stream =>
    match readBody stream with
    | none => []
    | some (body, rest) => body :: frameBodies n rest

/-- Every body is typed up to the first one that is no envelope. -/
def TypedUntilRefused (bodies : List Bytes) : Prop :=
  ∀ before body after, bodies = before ++ body :: after →
    (∀ b ∈ before, AcceptedBody b) → TypedBody body

theorem typedUntilRefused_nil : TypedUntilRefused [] := by
  intro before body after h
  simp at h

theorem typedUntilRefused_cons {body : Bytes} {bodies : List Bytes} :
    TypedUntilRefused (body :: bodies) ↔
      TypedBody body ∧ (AcceptedBody body → TypedUntilRefused bodies) := by
  constructor
  · intro h
    refine ⟨h [] body bodies rfl (by simp), fun hacc before b after heq hbefore => ?_⟩
    refine h (body :: before) b after (by rw [heq]; rfl) fun c hc => ?_
    rcases List.mem_cons.mp hc with rfl | hc
    · exact hacc
    · exact hbefore c hc
  · rintro ⟨hbody, htail⟩ before b after heq hbefore
    cases before with
    | nil =>
      obtain ⟨rfl, -⟩ := List.cons.inj heq
      exact hbody
    | cons c before =>
      obtain ⟨rfl, htl⟩ := List.cons.inj heq
      exact htail (hbefore body List.mem_cons_self) before b after htl
        fun d hd => hbefore d (List.mem_cons_of_mem _ hd)

/-- One round of the loop. -/
theorem returns_round (handlers : HandlerMap ε) (turns : ℕ) {stream body rest : Bytes}
    (h : readBody stream = some (body, rest)) :
    Returns (handlePlainSession floatText handlers (turns + 1) stream) ↔
      TypedBody body ∧
        (AcceptedBody body → Returns (handlePlainSession floatText handlers turns rest)) := by
  rw [← returns_fromJson, ← fromJson_some_iff]
  simp only [handlePlainSession, readFrame, h]
  cases fromJson body with
  | error err => simp [bind, Except.bind]
  | ok r =>
    cases r with
    | none => simp [bind, Except.bind, pure, Except.pure]
    | some e =>
      change Returns (handlePlainSession floatText handlers turns rest >>= fun written =>
        pure (encodeFrame floatText (handleRequest handlers e) ++ written)) ↔ _
      rw [returns_bind_iff fun written => iff_true_intro (returns_pure _)]
      simp

/-- A session raises exactly when it comes to a body that is not typed. -/
theorem returns_handlePlainSession (handlers : HandlerMap ε) (turns : ℕ) (stream : Bytes) :
    Returns (handlePlainSession floatText handlers turns stream) ↔
      TypedUntilRefused (frameBodies turns stream) := by
  induction turns generalizing stream with
  | zero => exact iff_of_true (returns_ok _) typedUntilRefused_nil
  | succ turns ih =>
    rw [frameBodies]
    cases hb : readBody stream with
    | none =>
      refine iff_of_true ⟨[], ?_⟩ typedUntilRefused_nil
      simp only [handlePlainSession, readFrame, hb]
      rfl
    | some p =>
      obtain ⟨body, rest⟩ := p
      rw [returns_round floatText handlers turns hb, typedUntilRefused_cons, ih rest]

/-- `from_json` returns if and only if the body is no JSON text or the members it converts
have the right types. A session ends without an exception if and only if this holds of
every body up to the first one that is no envelope. -/
theorem session_returns_iff :
    (∀ json, Returns (fromJson json) ↔ TypedBody json) ∧
    ∀ (handlers : HandlerMap ε) (turns : ℕ) (stream : Bytes),
      Returns (handlePlainSession floatText handlers turns stream) ↔
        TypedUntilRefused (frameBodies turns stream) :=
  ⟨returns_fromJson, returns_handlePlainSession floatText⟩

/-- A request whose correlation id is a string. -/
def quotedId : Json :=
  .object [("correlation_id", .string "7"), ("kind", .string "request"),
    ("payload", .string ""), ("source_service", .string "gateway"),
    ("target_service", .string "login")]

def quotedIdBody : Bytes := encodeUtf8 (quotedId.dump (fun _ => []) none 0)

/-- One frame raises, and ends the session that reads it with the exception. -/
theorem quotedId_raises : fromJson quotedIdBody = .error .wrongType ∧
    handlePlainSession (fun _ => []) (fun _ => none : HandlerMap Unit) 1
      (encodeLength (UInt32.ofNat quotedIdBody.length) ++ quotedIdBody) = .error .wrongType := by
  have hplain : Plain quotedId := ⟨by decide, by simp [PlainMembers, Plain]⟩
  have hraise : fromJson quotedIdBody = .error .wrongType := by
    rw [fromJson, quotedIdBody, parse_dump hplain]
    rfl
  have hbody : readBody (encodeLength (UInt32.ofNat quotedIdBody.length) ++ quotedIdBody ++ []) =
      some (quotedIdBody, []) :=
    readBody_append (by decide +kernel) (by decide +kernel) []
  rw [List.append_nil] at hbody
  refine ⟨hraise, ?_⟩
  simp only [handlePlainSession, readFrame, hbody, hraise]
  rfl

end BoostGateway.Service
