import BoostGateway.Leaderboard.LeaderboardService
import BoostGateway.Match.Handlers

/-!
# Which errors the clients can read

Every handler of the matchmaking and the leaderboard service, from the payload of a request
to the answer. A reason is read if and only if its characters stand for themselves in a
string. Of the reasons the services have only the redirect to a known leader does not, since
its hint is the text of an object. So the error answers are read if and only if the request
does not reach a follower that knows its leader : `errors_read_iff`.
-/

namespace BoostGateway.Service

open Json Match Leaderboard Raft

/-- A request to one of the services, and what its handler finds. Both services have the
two calls between Raft nodes. -/
inductive ServiceCall
  | matchJoin (raft : Option RaftRole) (peers : List RaftPeer) (nowMs : UInt64)
    (payload : Bytes)
  | matchLeave (raft : Option RaftRole) (peers : List RaftPeer) (payload : Bytes)
  | matchStatus (pendingMatches : List MatchResult) (queueSize : MatchMode → ℕ)
    (payload : Bytes)
  | leaderboardSubmit (s : LeaderboardService) (raft : Option RaftRole) (peers : List RaftPeer)
    (applied : Bool) (io ioRank : RedisIo) (payload : Bytes)
  | leaderboardTop (s : LeaderboardService) (io : RedisIo) (payload : Bytes)
  | leaderboardRank (s : LeaderboardService) (io : RedisIo) (payload : Bytes)
  | raftRequestVote (node : Option (RequestVoteArgs → RequestVoteReply)) (payload : Bytes)
  | raftAppendEntries (node : Option (AppendEntriesArgs → AppendEntriesReply))
    (payload : Bytes)

variable (floatText : Float → List Char)

/-- The answer of a leaderboard handler : a body is wrapped for a typed request, an error is
not. -/
def leaderboardAnswer (request : Option Proto.TypedEnvelope) (kind : Proto.EnvelopeMessageKind) :
    Leaderboard.Reply → HandlerAnswer
  | .ok body =>
    .response (wrapTypedResponseIfNeeded floatText request
      { kind := .response, payload := String.ofList (body.dump floatText none 0) } kind)
  | .error code reason => .error (Int32.ofInt code) reason

/-- The outcome of Raft for a submit, and whether an entry that is taken is applied before
`append_command` returns. -/
def RaftRole.outcome (peers : List RaftPeer) (applied : Bool) : RaftRole → RaftOutcome
  | .follower leaderId => .notLeader (getLeaderHint peers leaderId)
  | .leader true => if applied then .committed else .unapplied
  | .leader false => .commitFailed

namespace ServiceCall

/-- What the handler of a request returns. -/
def answer : ServiceCall → Except TypeError HandlerAnswer
  | .matchJoin raft peers nowMs payload =>
    return (← handleMatchJoin floatText raft peers nowMs payload).2
  | .matchLeave raft peers payload => return (← handleMatchLeave floatText raft peers payload).2
  | .matchStatus pendingMatches queueSize payload =>
    handleMatchStatus floatText pendingMatches queueSize payload
  | .leaderboardSubmit s raft peers applied io ioRank payload => do
    let decoded ← decodeHandlerPayload payload
    let result ← s.handleSubmit floatText (decoded.map (·.payload))
      (raft.map (·.outcome peers applied)) io ioRank
    return leaderboardAnswer floatText (decoded.bind (·.typedRequest))
      .kLeaderboardSubmitResponse result.2
  | .leaderboardTop s io payload => do
    let decoded ← decodeHandlerPayload payload
    let reply ← s.handleTop (decoded.map (·.payload)) io
    return leaderboardAnswer floatText (decoded.bind (·.typedRequest)) .kLeaderboardTopResponse
      reply
  | .leaderboardRank s io payload => do
    let decoded ← decodeHandlerPayload payload
    let reply ← s.handleRank (decoded.map (·.payload)) io
    return leaderboardAnswer floatText (decoded.bind (·.typedRequest)) .kLeaderboardRankResponse
      reply
  | .raftRequestVote node payload => return handleRaftRequestVote floatText node payload
  | .raftAppendEntries node payload => return handleRaftAppendEntries floatText node payload

end ServiceCall

/-- The service follows a leader it knows. -/
def KnowsLeader (raft : Option RaftRole) : Prop :=
  ∃ leaderId, raft = some (.follower leaderId) ∧ leaderId ≠ ""

/-- The payload is an object, as it is or in an envelope, that satisfies `p`. -/
def Carries (payload : Bytes) (p : Json → Prop) : Prop :=
  ∃ ms encoding request,
    decodeHandlerPayload payload = .ok (some ⟨.object ms, encoding, request⟩) ∧ p (.object ms)

/-- The fields of a join are there with their types, and it names a user. -/
structure JoinRequest (doc : Json) : Prop where
  userId : ∃ userId, doc.value getString "user_id" "" = .ok userId ∧ userId ≠ ""
  mmr : Returns (doc.value getInt32 "mmr" 1000)
  mode : Returns (doc.value getString "mode" "1v1")
  queuedAtMs : Returns (doc.value getUInt64 "queued_at_ms" 0)

/-- The fields can be read. -/
structure LeaveRequest (doc : Json) : Prop where
  userId : Returns (doc.value getString "user_id" "")
  mode : Returns (doc.value getString "mode" "1v1")

/-- A submit with a user and a key that was not seen. -/
def FreshSubmit (s : LeaderboardService) (doc : Json) : Prop :=
  ∃ r, LeaderboardService.readSubmit doc = .ok r ∧ r.userId ≠ "" ∧
    ¬(r.idempotencyKey ≠ "" ∧ r.idempotencyKey ∈ s.appliedIdempotencyKeys)

/-- The request reaches a follower that knows its leader. -/
def ServiceCall.Redirected : ServiceCall → Prop
  | .matchJoin raft _ _ payload => KnowsLeader raft ∧ Carries payload JoinRequest
  | .matchLeave raft _ payload => KnowsLeader raft ∧ Carries payload LeaveRequest
  | .leaderboardSubmit s raft _ _ _ _ payload => KnowsLeader raft ∧ Carries payload (FreshSubmit s)
  | _ => False

theorem returns_value_fallback {α : Type} {get : Json → Except TypeError α} {key : String}
    {doc : Json} (a b : α) : Returns (doc.value get key a) ↔ Returns (doc.value get key b) := by
  cases doc with
  | object ms =>
    simp only [value]
    cases (Json.object ms).find? key with
    | none => exact iff_of_true (returns_ok a) (returns_ok b)
    | some j => exact Iff.rfl
  | _ => exact Iff.rfl

theorem ensures_return {α β : Type} {P : β → Prop} {x : Except TypeError α} {f : α → β} :
    Ensures P (x >>= fun a => pure (f a)) ↔ Ensures (fun a => P (f a)) x := by
  cases x with
  | error e => exact iff_of_true nofun nofun
  | ok a =>
    exact ⟨fun h b hb => by cases hb; exact h _ rfl, fun h b hb => by cases hb; exact h a rfl⟩

variable {floatText}

/-! ## The handlers -/

theorem errorReads_replicate (hfloat : WritesFloats floatText) {raft : Option RaftRole}
    {peers : List RaftPeer} {request : Option Proto.TypedEnvelope}
    {kind : Proto.EnvelopeMessageKind} (hkind : kind ≠ .kUnknown) {command : MatchCommand}
    {body : List (String × Json)} :
    (replicate floatText raft peers request kind command body).2.ErrorReads floatText ↔
      ¬KnowsLeader raft := by
  match raft with
  | some (.follower leaderId) =>
    refine (errorReads_wrapped hfloat hkind).trans ((plainText_redirect peers leaderId).trans ?_)
    constructor
    · rintro rfl ⟨_, ⟨⟩, hne⟩
      exact hne rfl
    · exact fun h => by_contra fun hne => h ⟨leaderId, rfl, hne⟩
  | some (.leader false) =>
    exact iff_of_true ((errorReads_wrapped hfloat hkind).mpr (by decide)) (by rintro ⟨_, ⟨⟩, -⟩)
  | some (.leader true) => exact iff_of_true trivial (by rintro ⟨_, ⟨⟩, -⟩)
  | none => exact iff_of_true trivial (by rintro ⟨_, ⟨⟩, -⟩)

theorem errorReads_handleMatchJoin (hfloat : WritesFloats floatText) (raft : Option RaftRole)
    (peers : List RaftPeer) (nowMs : UInt64) (payload : Bytes) :
    Ensures (fun r => r.2.ErrorReads floatText)
        (handleMatchJoin floatText raft peers nowMs payload) ↔
      ¬(KnowsLeader raft ∧ Carries payload JoinRequest) := by
  constructor
  · rintro h ⟨hleader, ms, encoding, request, hdecoded, hjoin⟩
    obtain ⟨userId, huser, hne⟩ := hjoin.userId
    obtain ⟨mmr, hmmr⟩ := hjoin.mmr
    obtain ⟨modeStr, hmode⟩ := hjoin.mode
    obtain ⟨queuedAtMs, hqueued⟩ := (returns_value_fallback 0 nowMs).mp hjoin.queuedAtMs
    have hrun : handleMatchJoin floatText raft peers nowMs payload =
        .ok (replicate floatText raft peers request .kMatchJoinResponse
          (.join ⟨userId, mmr.toInt, queuedAtMs.toNat, parseMode modeStr⟩)
          [("queued", .bool true), ("mode", .string modeStr)]) := by
      rw [handleMatchJoin, hdecoded]
      simp only [bind, Except.bind, huser, hmmr, hmode, hqueued, if_neg hne, pure, Except.pure]
    exact (errorReads_replicate hfloat (by decide)).mp (h _ hrun) hleader
  · intro hnot
    refine ensures_bind_of_eq fun decoded hdecoded => ?_
    split
    · rename_i ms encoding request
      refine ensures_bind_of_eq fun userId huser => ensures_bind_of_eq fun mmr hmmr =>
        ensures_bind_of_eq fun modeStr hmode => ?_
      split_ifs with hne
      · exact ensures_ok ((errorReads_error hfloat).mpr (by decide))
      · refine ensures_bind_of_eq fun queuedAtMs hqueued => ensures_ok ?_
        refine (errorReads_replicate hfloat (by decide)).mpr fun hleader => hnot ⟨hleader, ?_⟩
        exact ⟨ms, encoding, request, hdecoded, ⟨userId, huser, hne⟩, ⟨mmr, hmmr⟩,
          ⟨modeStr, hmode⟩, (returns_value_fallback nowMs 0).mp ⟨queuedAtMs, hqueued⟩⟩
    · exact ensures_ok ((errorReads_error hfloat).mpr (by decide))

theorem errorReads_handleMatchLeave (hfloat : WritesFloats floatText) (raft : Option RaftRole)
    (peers : List RaftPeer) (payload : Bytes) :
    Ensures (fun r => r.2.ErrorReads floatText)
        (handleMatchLeave floatText raft peers payload) ↔
      ¬(KnowsLeader raft ∧ Carries payload LeaveRequest) := by
  constructor
  · rintro h ⟨hleader, ms, encoding, request, hdecoded, ⟨userId, huser⟩, ⟨modeStr, hmode⟩⟩
    have hrun : handleMatchLeave floatText raft peers payload =
        .ok (replicate floatText raft peers request .kMatchLeaveResponse
          (.leave userId (parseMode modeStr)) [("left", .bool true)]) := by
      rw [handleMatchLeave, hdecoded]
      simp only [bind, Except.bind, huser, hmode, pure, Except.pure]
    exact (errorReads_replicate hfloat (by decide)).mp (h _ hrun) hleader
  · intro hnot
    refine ensures_bind_of_eq fun decoded hdecoded => ?_
    split
    · rename_i ms encoding request
      refine ensures_bind_of_eq fun userId huser => ensures_bind_of_eq fun modeStr hmode =>
        ensures_ok ?_
      refine (errorReads_replicate hfloat (by decide)).mpr fun hleader => hnot ⟨hleader, ?_⟩
      exact ⟨ms, encoding, request, hdecoded, ⟨userId, huser⟩, ⟨modeStr, hmode⟩⟩
    · exact ensures_ok ((errorReads_error hfloat).mpr (by decide))

theorem errorReads_handleMatchStatus (hfloat : WritesFloats floatText)
    (pendingMatches : List MatchResult) (queueSize : MatchMode → ℕ) (payload : Bytes) :
    Ensures (fun a => a.ErrorReads floatText)
      (handleMatchStatus floatText pendingMatches queueSize payload) := by
  refine ensures_bind fun decoded => ?_
  split
  · exact ensures_bind fun userId => ensures_bind fun modeStr => ensures_ok trivial
  · exact ensures_ok ((errorReads_error hfloat).mpr (by decide))

/-! ## The leaderboard -/

theorem errorReads_leaderboardAnswer (hfloat : WritesFloats floatText)
    (request : Option Proto.TypedEnvelope) (kind : Proto.EnvelopeMessageKind)
    (reply : Leaderboard.Reply) :
    (leaderboardAnswer floatText request kind reply).ErrorReads floatText ↔
      ∀ code reason, reply = .error code reason → PlainText reason := by
  cases reply with
  | ok body => exact iff_of_true trivial nofun
  | error code reason =>
    refine (errorReads_error hfloat).trans ⟨?_, fun h => h code reason rfl⟩
    rintro hplain _ _ ⟨⟩
    exact hplain

variable (s : LeaderboardService)

/-- The reason a submit is refused with. -/
theorem plainText_submit (r : SubmitRequest) (raft : Option RaftRole)
    (peers : List RaftPeer) (applied : Bool) (io ioRank : RedisIo) :
    (∀ code reason, (s.submit floatText r (raft.map (·.outcome peers applied)) io ioRank).2 =
      .error code reason → PlainText reason) ↔
      ¬(KnowsLeader raft ∧ r.userId ≠ "" ∧
        ¬(r.idempotencyKey ≠ "" ∧ r.idempotencyKey ∈ s.appliedIdempotencyKeys)) := by
  unfold LeaderboardService.submit
  split_ifs with huser hseen
  · refine iff_of_true ?_ fun h => h.2.1 huser
    rintro _ _ ⟨⟩
    decide
  · exact iff_of_true nofun fun h => h.2.2 hseen
  · have hfresh : r.userId ≠ "" ∧
        ¬(r.idempotencyKey ≠ "" ∧ r.idempotencyKey ∈ s.appliedIdempotencyKeys) := ⟨huser, hseen⟩
    rw [and_iff_left hfresh]
    match raft with
    | some (.follower leaderId) =>
      constructor
      · rintro h ⟨_, ⟨⟩, hne⟩
        exact hne ((plainText_redirect peers leaderId).mp (h _ _ rfl))
      · rintro h _ _ ⟨⟩
        exact (plainText_redirect peers leaderId).mpr
          (by_contra fun hne => h ⟨leaderId, rfl, hne⟩)
    | some (.leader false) =>
      refine iff_of_true ?_ (by rintro ⟨_, ⟨⟩, -⟩)
      rintro _ _ ⟨⟩
      decide
    | some (.leader true) =>
      refine iff_of_true ?_ (by rintro ⟨_, ⟨⟩, -⟩)
      cases applied <;> exact nofun
    | none => exact iff_of_true nofun (by rintro ⟨_, ⟨⟩, -⟩)

theorem carries_of_object? {payload : Bytes} {decoded : Option DecodedHandlerPayload}
    (hdecoded : decodeHandlerPayload payload = .ok decoded) {doc : Json}
    (hdoc : LeaderboardService.object? (decoded.map (·.payload)) = some doc) {p : Json → Prop}
    (hp : p doc) : Carries payload p := by
  obtain ⟨ms, hobject, rfl⟩ : ∃ ms, decoded.map (·.payload) = some (.object ms) ∧
      doc = .object ms := by
    unfold LeaderboardService.object? at hdoc
    split at hdoc
    · exact ⟨_, by assumption, (Option.some_inj.mp hdoc).symm⟩
    · cases hdoc
  obtain ⟨⟨_, encoding, request⟩, rfl, rfl⟩ := Option.map_eq_some_iff.mp hobject
  exact ⟨ms, encoding, request, hdecoded, hp⟩

theorem errorReads_handleSubmit (hfloat : WritesFloats floatText) (s : LeaderboardService)
    (raft : Option RaftRole) (peers : List RaftPeer) (applied : Bool) (io ioRank : RedisIo)
    (payload : Bytes) : Ensures (fun a => a.ErrorReads floatText)
        ((ServiceCall.leaderboardSubmit s raft peers applied io ioRank payload).answer floatText) ↔
      ¬(KnowsLeader raft ∧ Carries payload (FreshSubmit s)) := by
  constructor
  · rintro h ⟨hleader, ms, encoding, request, hdecoded, r, hread, huser, hfresh⟩
    have hrun : (ServiceCall.leaderboardSubmit s raft peers applied io ioRank payload).answer floatText =
        .ok (leaderboardAnswer floatText request .kLeaderboardSubmitResponse
          (s.submit floatText r (raft.map (·.outcome peers applied)) io ioRank).2) := by
      rw [ServiceCall.answer, hdecoded]
      simp only [bind, Except.bind, Option.map_some, Option.bind_some,
        LeaderboardService.handleSubmit, LeaderboardService.object?, hread, pure, Except.pure]
    exact (plainText_submit s r raft peers applied io ioRank).mp
      ((errorReads_leaderboardAnswer hfloat _ _ _).mp (h _ hrun)) ⟨hleader, huser, hfresh⟩
  · intro hnot
    refine ensures_bind_of_eq fun decoded hdecoded => ensures_bind_of_eq fun result hresult => ?_
    refine ensures_ok ((errorReads_leaderboardAnswer hfloat _ _ _).mpr ?_)
    unfold LeaderboardService.handleSubmit at hresult
    split at hresult
    · cases hresult
      rintro _ _ ⟨⟩
      decide
    · rename_i doc hdoc
      cases hread : LeaderboardService.readSubmit doc with
      | error e =>
        rw [hread] at hresult
        cases hresult
      | ok r =>
        rw [hread] at hresult
        have hsubmit : s.submit floatText r (raft.map (·.outcome peers applied)) io ioRank = result :=
          Except.ok.inj hresult
        rw [← hsubmit, plainText_submit]
        rintro ⟨hleader, huser, hfresh⟩
        exact hnot ⟨hleader, carries_of_object? hdecoded hdoc ⟨r, hread, huser, hfresh⟩⟩

theorem plainText_handleTop (document : Option Json) (io : RedisIo) :
    Ensures (fun reply => ∀ code reason, reply = .error code reason → PlainText reason)
      (s.handleTop document io) := by
  unfold LeaderboardService.handleTop
  split
  · refine ensures_ok ?_
    rintro _ _ ⟨⟩
    decide
  · exact ensures_bind fun k => ensures_ok nofun

theorem plainText_handleRank (document : Option Json) (io : RedisIo) :
    Ensures (fun reply => ∀ code reason, reply = .error code reason → PlainText reason)
      (s.handleRank document io) := by
  unfold LeaderboardService.handleRank
  split
  · refine ensures_ok ?_
    rintro _ _ ⟨⟩
    decide
  · refine ensures_bind fun userId => ?_
    split_ifs
    · refine ensures_ok ?_
      rintro _ _ ⟨⟩
      decide
    · split
      · refine ensures_ok ?_
        rintro _ _ ⟨⟩
        decide
      · exact ensures_ok nofun

/-! ## The services -/

/-- The errors of a request are read if and only if it is not redirected to a known leader. -/
theorem ServiceCall.errorReads_iff (hfloat : WritesFloats floatText) (c : ServiceCall) :
    Ensures (fun a => a.ErrorReads floatText) (c.answer floatText) ↔ ¬c.Redirected := by
  cases c with
  | matchJoin raft peers nowMs payload =>
    exact ensures_return.trans (errorReads_handleMatchJoin hfloat raft peers nowMs payload)
  | matchLeave raft peers payload =>
    exact ensures_return.trans (errorReads_handleMatchLeave hfloat raft peers payload)
  | matchStatus pendingMatches queueSize payload =>
    exact iff_of_true (errorReads_handleMatchStatus hfloat pendingMatches queueSize payload) id
  | leaderboardSubmit s raft peers applied io ioRank payload =>
    exact errorReads_handleSubmit hfloat s raft peers applied io ioRank payload
  | leaderboardTop s io payload =>
    refine iff_of_true ?_ id
    exact ensures_bind fun decoded => ensures_bind_of_eq fun reply hreply => ensures_ok
      ((errorReads_leaderboardAnswer hfloat _ _ _).mpr (plainText_handleTop s _ io reply hreply))
  | leaderboardRank s io payload =>
    refine iff_of_true ?_ id
    exact ensures_bind fun decoded => ensures_bind_of_eq fun reply hreply => ensures_ok
      ((errorReads_leaderboardAnswer hfloat _ _ _).mpr (plainText_handleRank s _ io reply hreply))
  | raftRequestVote node payload =>
    exact iff_of_true (ensures_ok (errorReads_handleRaftCall hfloat _ _ node payload)) id
  | raftAppendEntries node payload =>
    exact iff_of_true (ensures_ok (errorReads_handleRaftCall hfloat _ _ node payload)) id

/-- An error is read if and only if the characters of its reason stand for themselves in a
string. In the services these are the errors of every request that does not reach a follower
that knows its leader. -/
theorem errors_read_iff (hfloat : WritesFloats floatText) :
    (∀ request code reason kind, kind ≠ .kUnknown →
      ((HandlerAnswer.wrapped request code reason kind).ErrorReads floatText ↔
        PlainText reason)) ∧
    (∀ code reason,
      (HandlerAnswer.error code reason).ErrorReads floatText ↔ PlainText reason) ∧
    ∀ c : ServiceCall,
      (∀ a, c.answer floatText = .ok a → a.ErrorReads floatText) ↔ ¬c.Redirected :=
  ⟨fun _ _ _ _ hkind => errorReads_wrapped hfloat hkind, fun _ _ => errorReads_error hfloat,
    fun c => c.errorReads_iff hfloat⟩

/-- A user leaves the queue. -/
def leavePayload : Bytes :=
  encodeUtf8 ((Json.object [("user_id", .string "u")]).dump (fun _ => nullText) none 0)

theorem decode_leavePayload : decodeHandlerPayload leavePayload =
    .ok (some ⟨.object [("user_id", .string "u")], .kLegacyRawJson, none⟩) := by
  have hplain : Plain (.object [("user_id", .string "u")]) :=
    ⟨by simp, by simp [PlainMembers, Plain]⟩
  have hparse : parse true leavePayload = some (.object [("user_id", .string "u")]) :=
    parse_dump hplain true 0
  have htyped : Proto.decodeTypedEnvelope leavePayload = .ok none := by
    rw [Proto.decodeTypedEnvelope, Proto.decodeEnvelope, hparse]
    rfl
  rw [decodeHandlerPayload_of_none htyped, hparse]
  rfl

/-- A follower that knows no leader. -/
theorem errors_read_leave :
    ∃ a, (ServiceCall.matchLeave (some (.follower "")) [] leavePayload).answer
      (fun _ => nullText) = .ok a ∧ a.ErrorReads fun _ => nullText := by
  have hrun : (ServiceCall.matchLeave (some (.follower "")) [] leavePayload).answer
      (fun _ => nullText) =
        .ok (.wrapped none (-1003) (redirectReason [] "") .kMatchLeaveResponse) := by
    rw [ServiceCall.answer, handleMatchLeave, decode_leavePayload]
    rfl
  refine ⟨_, hrun, ((errors_read_iff fun _ => .inr rfl).2.2 _).mpr ?_ _ hrun⟩
  rintro ⟨⟨_, ⟨⟩, hne⟩, -⟩
  exact hne rfl

/-- A follower that knows its leader. -/
theorem not_errors_read :
    ¬∀ a, (ServiceCall.matchLeave (some (.follower "node-1")) [] leavePayload).answer
      (fun _ => nullText) = .ok a → a.ErrorReads fun _ => nullText := by
  intro h
  refine (errorReads_handleMatchLeave (fun _ => .inr rfl) _ _ _).mp (ensures_return.mp h) ?_
  exact ⟨⟨_, rfl, by decide⟩, _, _, _, decode_leavePayload, ⟨_, rfl⟩, ⟨_, rfl⟩⟩

end BoostGateway.Service
