import BoostGateway.Gateway.RoomCalls

/-!
# Whose name a request is in

`GatewayActor::on_message` (`gateway_actor.cpp`) : a message of a client becomes a command,
and one that is not public is handled only for a session that has a user. The answer of the
rate limiter is given with the message.

`onMessage_inOwnName` : every request that changes something, made on the way or queued for
a route worker, carries the user of the session that sent the message; only the scores of a
battle that an input ends are submitted for others. The room backend is behind the bridge and
any call may be lost, before or after the backend handles it (`withLosses`).
-/

namespace BoostGateway.Gateway

open Json Battle Service Room

/-! ## Messages of clients -/

def isPublicMessage (protocolMessageId : UInt16) : Bool :=
  protocolMessageId = kHeartbeatRequest ∨ protocolMessageId = kLoginRequest ∨
    protocolMessageId = kRegisterRequest ∨ protocolMessageId = kEchoRequest

/-- The command type of a message id in `to_command`. -/
def commandType? (protocolMessageId : UInt16) : Option GatewayCommandType :=
  if protocolMessageId = kHeartbeatRequest then some .kHeartbeat
  else if protocolMessageId = kEchoRequest then some .kEcho
  else if protocolMessageId = kLoginRequest then some .kLogin
  else if protocolMessageId = kRegisterRequest then some .kRegister
  else if protocolMessageId = kRoomCreateRequest then some .kRoomCreate
  else if protocolMessageId = kRoomJoinRequest then some .kRoomJoin
  else if protocolMessageId = kRoomReadyRequest then some .kRoomReady
  else if protocolMessageId = kRoomLeaveRequest then some .kRoomLeave
  else if protocolMessageId = kRoomListRequest then some .kRoomList
  else if protocolMessageId = kRoomDetailRequest then some .kRoomDetail
  else if protocolMessageId = kRoomKickRequest then some .kRoomKick
  else if protocolMessageId = kRoomTransferOwnerRequest then some .kRoomTransferOwner
  else if protocolMessageId = kBattleStartRequest then some .kBattleStart
  else if protocolMessageId = kBattleInputRequest then some .kBattleInput
  else if protocolMessageId = kBattleStateRequest then some .kBattleState
  else if protocolMessageId = kReplayLoadRequest then some .kReplayLoad
  else if protocolMessageId = kMatchJoinRequest then some .kMatchJoin
  else if protocolMessageId = kMatchLeaveRequest then some .kMatchLeave
  else if protocolMessageId = kMatchStatusRequest then some .kMatchStatus
  else if protocolMessageId = kLeaderboardSubmitRequest then some .kLeaderboardSubmit
  else if protocolMessageId = kLeaderboardTopRequest then some .kLeaderboardTop
  else if protocolMessageId = kLeaderboardRankRequest then some .kLeaderboardRank
  else none

def toCommand (envelope : ClientEnvelope) : Option GatewayCommand :=
  (commandType? envelope.protocolMessageId).map fun type =>
    { sessionId := envelope.sessionId, type, protocolMessageId := envelope.protocolMessageId
      requestId := envelope.requestId, flags := envelope.flags, body := envelope.body }

namespace BridgeRuntime

section

variable {W : Type*} (p : Platform) (backend : W → BackendCall → W × BackendRoutingResult)
  (g : BridgeRuntime W)

def emitResponse (request : ClientEnvelope) (responseMessageId : UInt16) (error : ErrorCode)
    (body : String) : BridgeRuntime W :=
  { g with writes := g.writes ++ [{
      sessionId := request.sessionId, protocolMessageId := responseMessageId
      requestId := request.requestId, errorCode := error.toInt32, flags := request.flags, body }] }

def emitError (request : ClientEnvelope) (error : ErrorCode) (body : String) : BridgeRuntime W :=
  g.emitResponse request kErrorResponse error body

/-- What the actor answers to a command that the runtime does not handle. -/
def answerUnhandled (envelope : ClientEnvelope) (c : GatewayCommand) : BridgeRuntime W :=
  if c.type = .kLogin then
    match (parseLoginCommandBody c.body).filter validateLoginCommandBody with
    | none => g.emitError envelope .kInvalidUserId ErrorCode.kInvalidUserId.toString
    | some body => g.emitResponse envelope kLoginResponse .kOk ("login_ok:" ++ body.userId)
  else g.emitError envelope .kAuthRequired "unmodeled_message"

/-- `GatewayActor::on_message`, where the rate limiter lets the message pass or says when to
come back. -/
def onMessage (retryAfterMs : Option ℤ) (envelope : ClientEnvelope) :
    BridgeRuntime W × Except TypeError Unit :=
  match retryAfterMs with
  | some ms => (g.emitError envelope .kRateLimited ("rate_limited,retry_after_ms=" ++ toString ms),
      .ok ())
  | none =>
    match toCommand envelope with
    | none => (g.emitError envelope .kAuthRequired "unmodeled_message", .ok ())
    | some c =>
      if !isPublicMessage envelope.protocolMessageId ∧ g.lookup.userIdFor c.sessionId = "" then
        (g.emitError envelope .kAuthRequired ErrorCode.kAuthRequired.toString, .ok ())
      else
        match c.type with
        | .kHeartbeat => (g.emitResponse envelope kHeartbeatResponse .kOk "pong", .ok ())
        | .kEcho => (g.emitResponse envelope kEchoResponse .kOk c.body, .ok ())
        | _ =>
          match g.handle p backend c with
          | (g, .error e) => (g, .error e)
          | (g, .ok true) => (g, .ok ())
          | (g, .ok false) => (g.answerUnhandled envelope c, .ok ())

end

/-! ## Requests in the name of a user -/

/-- The requests that change something for the user that they carry. -/
def actsForUser (call : BackendCall) : Bool :=
  match call.service with
  | .room => call.messageType ∈ ["room_create", "room_join", "room_ready", "room_leave",
      "room_kick", "room_transfer_owner", "room_start_battle"]
  | .battle => call.messageType ∈ ["battle_input", "battle_finish"]
  | .matchmaking => call.messageType ∈ ["match_join", "match_leave"]
  | .leaderboard => call.messageType = "leaderboard_submit"
  | .login | .gateway => false

/-- The `user_id` that a backend reads in the request. -/
def requestUser (call : BackendCall) : Option String :=
  ((parseDocument call.payload).bind (·.find? "user_id")).bind Json.string?

/-- The submit of the score of a battle that is over. -/
def IsSettlement (p : Platform) (call : BackendCall) : Prop :=
  ∃ battleId roomId reason score, call = ⟨.leaderboard, "leaderboard_submit",
    p.dump (settlementPayload battleId roomId reason score)⟩

/-- The request of a command in the name of the user, or a score of a battle that it ends. -/
def InName (p : Platform) (userId : String) (c : GatewayCommand) (call : BackendCall) : Prop :=
  actsForUser call →
    requestUser call = some userId ∨ c.type = .kBattleInput ∧ IsSettlement p call

theorem requestUser_dump {p : Platform} {service : ServiceId} {messageType userId : String}
    {ms : List (String × Json)} (hplain : ∀ m ∈ ms, Plain m.2)
    (huser : ms.reverse.find? (fun m => m.1 = "user_id") = some ("user_id", .string userId)) :
    requestUser ⟨service, messageType, p.dump (.ofMembers ms)⟩ = some userId := by
  rw [requestUser, p.parseDocument_dump (plain_ofMembers hplain), Option.bind_some, find?_asRead,
    find?_ofMembers, huser]
  rfl

variable {p : Platform} {u : String} {c : GatewayCommand} {call : BackendCall}

theorem InName.of_user (h : requestUser call = some u) : InName p u c call := fun _ => .inl h

theorem InName.of_not_acts (h : actsForUser call = false) : InName p u c call := fun ha =>
  absurd (ha.symm.trans h) (by decide)

/-- The calls since `g` are of `Q`. -/
def CallsFrom {W : Type*} (Q : BackendCall → Prop) (g g' : BridgeRuntime W) : Prop :=
  ∃ calls, (∀ call ∈ calls, Q call) ∧ g'.calls = g.calls ++ calls

section

variable {W : Type*} {backend : W → BackendCall → W × BackendRoutingResult}
  {Q : BackendCall → Prop} {g g₁ g₂ : BridgeRuntime W}

theorem CallsFrom.of_eq (h : g₁.calls = g.calls) : CallsFrom Q g g₁ :=
  ⟨[], by simp, by rw [h, List.append_nil]⟩

theorem CallsFrom.trans (h : CallsFrom Q g g₁) (h' : CallsFrom Q g₁ g₂) : CallsFrom Q g g₂ := by
  obtain ⟨cs, hcs, hcalls⟩ := h
  obtain ⟨cs', hcs', hcalls'⟩ := h'
  exact ⟨cs ++ cs', List.forall_mem_append.mpr ⟨hcs, hcs'⟩,
    by rw [hcalls', hcalls, List.append_assoc]⟩

theorem CallsFrom.mono {Q' : BackendCall → Prop} (h : CallsFrom Q g g₁)
    (hQ : ∀ call, Q call → Q' call) : CallsFrom Q' g g₁ := by
  obtain ⟨cs, hcs, hcalls⟩ := h
  exact ⟨cs, fun call hcall => hQ call (hcs call hcall), hcalls⟩

theorem KeepsSessions.callsFrom (h : KeepsSessions backend Q g g₁) : CallsFrom Q g g₁ := by
  obtain ⟨cs, hcs, hcalls, -⟩ := h.calls
  exact ⟨cs, hcs, hcalls⟩

theorem callsFrom_route (hQ : Q call) : CallsFrom Q g (g.route backend call).1 :=
  (g.quiet_route hQ).keepsSessions.callsFrom

theorem Quiet.callsFrom_of_still (h : Still backend g g₁) : CallsFrom Q g g₁ :=
  (h.mono fun _ => False.elim).keepsSessions.callsFrom

theorem Routed.callsFrom {change : BridgeRuntime W → BridgeRuntime W}
    (h : Routed backend change (g.route backend call) g₁) (hQ : Q call)
    (hchange : ∀ g, (change g).calls = g.calls) : CallsFrom Q g g₁ := by
  cases h with
  | refused _ still => exact (callsFrom_route hQ).trans still.callsFrom_of_still
  | accepted _ still =>
    exact ((callsFrom_route hQ).trans (.of_eq (hchange _))).trans still.callsFrom_of_still

theorem calls_logIn (sessionId : SessionId) (userId : String) (isDuplicate : Bool) (role : Role)
    (g : BridgeRuntime W) : (logIn p sessionId userId isDuplicate role g).calls = g.calls := by
  unfold logIn kickOldSession
  dsimp only
  split_ifs
  · split <;> rfl
  · rfl

theorem calls_trackBattle (g : BridgeRuntime W) (roomId battleId : String) :
    (g.trackBattle roomId battleId).calls = g.calls := by
  unfold trackBattle
  split_ifs <;> rfl

theorem Starts.callsFrom {roomId : String} (h : Starts p backend roomId (g.route backend call) g₁)
    (hQ : Q call)
    (hforward : ∀ resp messageType payload, Accepts (g.route backend call).2 resp →
      readForward p resp = .ok (some (messageType, payload)) →
        Q ⟨.battle, messageType, payload⟩) : CallsFrom Q g g₁ := by
  cases h with
  | refused _ still => exact (callsFrom_route hQ).trans still.callsFrom_of_still
  | unforwarded _ _ still => exact (callsFrom_route hQ).trans still.callsFrom_of_still
  | uncreated haccepts hread _ still =>
    exact ((callsFrom_route hQ).trans (callsFrom_route (hforward _ _ _ haccepts hread))).trans
      still.callsFrom_of_still
  | started haccepts hread _ _ still =>
    exact (((callsFrom_route hQ).trans (callsFrom_route (hforward _ _ _ haccepts hread))).trans
      (.of_eq (calls_trackBattle ..))).trans still.callsFrom_of_still

end

/-! ## Commands -/

theorem requestUser_roomCall (messageType userId roomId : String) :
    requestUser (roomCall p messageType userId roomId) = some userId :=
  requestUser_dump (by simp [Plain]) (by simp)

theorem inName_inputCall (roomId battleId : String) (input : ParsedBattleInputCommandBody) :
    requestUser (inputCall (taskOf p c u roomId battleId input)) = some u :=
  requestUser_dump (by simp [Plain]) (by simp)

variable {W : Type*}

theorem requestUser_inputOf {g : BridgeRuntime W} {task : BattleRouteTask}
    (h : g.inputOf p c = some task) :
    requestUser (inputCall task) = some (g.lookup.userIdFor c.sessionId) := by
  unfold inputOf at h
  dsimp only at h
  split_ifs at h
  split at h
  · split_ifs at h
    obtain rfl := Option.some.inj h
    exact requestUser_dump (by simp [Plain]) (by simp)
  · cases h

/-- A command that only calls and answers. -/
theorem inName_of_commandCalls {g : BridgeRuntime W}
    (h : g.commandCalls p c call) : InName p (g.lookup.userIdFor c.sessionId) c call := by
  unfold commandCalls at h
  have hnot : ∀ {service : ServiceId} {messageType : String},
      call.service = service ∧ call.messageType = messageType →
      actsForUser ⟨service, messageType, ""⟩ = false →
        InName p (g.lookup.userIdFor c.sessionId) c call := by
    rintro service messageType ⟨rfl, rfl⟩ hacts
    exact .of_not_acts hacts
  split at h
  · exact hnot h (by decide)
  · exact hnot h (by decide)
  · obtain ⟨ready, rfl⟩ := h
    exact .of_user (requestUser_dump (by simp [Plain]) (by simp))
  · exact hnot h (by decide)
  · exact hnot h (by decide)
  · rw [h]
    exact .of_user (requestUser_dump (by simp [Plain]) (by simp))
  · rw [h]
    exact .of_user (requestUser_dump (by simp [Plain]) (by simp))
  · exact hnot h (by decide)
  · exact hnot h (by decide)
  · obtain ⟨mmr, mode, rfl⟩ := h
    exact .of_user (requestUser_dump (by simp [Plain]) (by simp))
  · obtain ⟨mode, rfl⟩ := h
    exact .of_user (requestUser_dump (by simp [Plain]) (by simp))
  · exact hnot h (by decide)
  · obtain ⟨displayName, score, rfl⟩ := h
    exact .of_user (requestUser_dump (by simp [Plain]) (by simp))
  · exact hnot h (by decide)
  · exact hnot h (by decide)
  · exact h.elim

section

variable {V : Type*} {e : Elsewhere V} {delivery : ℕ → Delivery}

/-- A room asks for no other message than `battle_create`. -/
theorem messageType_forward {w : Counted (RoomWorld V)} {userId roomId messageType payload : String}
    {resp : Json} (h : Accepts (withLosses delivery (behindBridge p e) w
      (roomCall p "room_start_battle" userId roomId)).2 resp)
    (hread : readForward p resp = .ok (some (messageType, payload))) :
    messageType = "battle_create" := by
  rw [withLosses_of_success h.1] at h
  obtain ⟨now, -, hresult⟩ := behindBridge_roomStartBattle (p := p) (e := e) (w := w.world)
    userId roomId
  rw [hresult] at h
  rcases roomStartBattle_cases (p := p) w.world.rooms now userId roomId with
    ⟨hrefused, -⟩ | ⟨room, body, -, -, -, -, haccepts, hforward⟩
  · exact absurd h (hrefused resp)
  · rw [h.unique haccepts, readForward_asRead hforward] at hread
    split_ifs at hread
    · cases hread
    · simp only [Except.ok.injEq, Option.some.injEq, Prod.mk.injEq] at hread
      exact hread.1.symm

theorem inName_starts {g g₁ : BridgeRuntime (Counted (RoomWorld V))} {userId roomId : String}
    (h : Starts p (withLosses delivery (behindBridge p e)) roomId
      (g.route (withLosses delivery (behindBridge p e))
        (roomCall p "room_start_battle" userId roomId)) g₁) :
    CallsFrom (InName p userId c) g g₁ := by
  refine h.callsFrom (.of_user (requestUser_roomCall ..)) fun resp messageType payload ha hread => ?_
  rw [route_result] at ha
  rw [messageType_forward ha hread]
  exact .of_not_acts (by simp [actsForUser])

/-- Every command, and what it calls. -/
theorem inName_handle (g : BridgeRuntime (Counted (RoomWorld V))) (c : GatewayCommand) :
    CallsFrom (InName p (g.lookup.userIdFor c.sessionId) c) g
      (g.handle p (withLosses delivery (behindBridge p e)) c).1 := by
  by_cases hchanges : changes c.type = true
  · unfold handle
    split_ifs
    · cases htype : c.type <;> simp only [htype, changes, Bool.false_eq_true] at hchanges ⊢
      · have hcall : ∀ body, CallsFrom (InName p (g.lookup.userIdFor c.sessionId) c) g
            (g.route (withLosses delivery (behindBridge p e)) (loginCall p body)).1 := fun body =>
          callsFrom_route (.of_not_acts rfl)
        rcases g.login_cases p (withLosses delivery (behindBridge p e)) c with
          hs | ⟨body, -, hs | ⟨isDuplicate, role, -, hs⟩⟩
        · exact hs.callsFrom_of_still
        · exact (hcall body).trans hs.callsFrom_of_still
        · exact ((hcall body).trans (.of_eq (calls_logIn ..))).trans hs.callsFrom_of_still
      · rcases g.roomCreate_cases p (withLosses delivery (behindBridge p e)) c with hs | ⟨-, -, hr⟩
        · exact hs.callsFrom_of_still
        · exact hr.callsFrom (.of_user (requestUser_roomCall ..)) fun _ => rfl
      · rcases g.roomJoin_cases p (withLosses delivery (behindBridge p e)) c with hs | ⟨-, -, hr⟩
        · exact hs.callsFrom_of_still
        · exact hr.callsFrom (.of_user (requestUser_roomCall ..)) fun _ => rfl
      · rcases g.roomLeave_cases p (withLosses delivery (behindBridge p e)) c with hs | ⟨-, -, hr⟩
        · exact hs.callsFrom_of_still
        · exact hr.callsFrom (.of_user (requestUser_roomCall ..)) fun _ => rfl
      · rcases g.battleStart_cases p (withLosses delivery (behindBridge p e)) c with
          hs | ⟨-, -, hs⟩
        · exact hs.callsFrom_of_still
        · exact inName_starts hs
      · refine (keepsSessions_battleInput (fun roomId battleId input => ?_) (fun _ _ => ?_)
          (fun battleId roomId reason score => ?_) fun payload => ?_).callsFrom
        · exact .of_user (inName_inputCall ..)
        · exact .of_user (requestUser_dump (by simp [Plain]) (by simp))
        · exact fun _ => .inr ⟨htype, battleId, roomId, reason, score, rfl⟩
        · exact .of_not_acts (by simp [actsForUser])
    · have hs (error : ErrorCode) (body : String) :
          Still (withLosses delivery (behindBridge p e)) g (g.replyError c error body).1 :=
        quiet_replyError ..
      exact (hs _ _).callsFrom_of_still
  · exact (g.quiet_handle (Bool.eq_false_iff.mpr hchanges)).keepsSessions.callsFrom.mono
      fun _ => inName_of_commandCalls

end

/-- A task that an input queues is in the name of its user. -/
theorem tasks_handle {backend : W → BackendCall → W × BackendRoutingResult}
    (g : BridgeRuntime W) (c : GatewayCommand) :
    ∃ tasks, (g.handle p backend c).1.battleRouteTasks = g.battleRouteTasks ++ tasks ∧
      ∀ task ∈ tasks, requestUser (inputCall task) = some (g.lookup.userIdFor c.sessionId) := by
  have hsame : ∀ {g' : BridgeRuntime W}, g'.battleRouteTasks = g.battleRouteTasks →
      ∃ tasks, g'.battleRouteTasks = g.battleRouteTasks ++ tasks ∧
        ∀ task ∈ tasks, requestUser (inputCall task) = some (g.lookup.userIdFor c.sessionId) :=
    fun h => ⟨[], by rw [h, List.append_nil], by simp⟩
  by_cases htype : c.type = .kBattleInput
  · unfold handle
    split_ifs
    · simp only [htype]
      unfold battleInput
      cases hinput : g.inputOf p c with
      | none =>
        obtain ⟨handled, heq, htasks⟩ := battleInputOn_of_none p backend hinput
        rw [heq]
        exact hsame htasks
      | some task =>
        rw [battleInputOn_of_inputOf p backend hinput]
        split_ifs
        · refine ⟨[task], rfl, fun task' htask => ?_⟩
          rw [List.mem_singleton.mp htask]
          exact requestUser_inputOf hinput
        · exact hsame (battleRouteTasks_battleInputInline ..)
    · exact hsame rfl
  · exact hsame (g.battleRouteTasks_handle htype)

/-! ## Messages -/

/-- The message of a session made the gateway call and queue in the name of the session's
user, and nothing where it needs a user and there is none. -/
structure InOwnName {W : Type*} (p : Platform) (envelope : ClientEnvelope)
    (g g' : BridgeRuntime W) : Prop where
  calls : ∃ calls, (∀ call ∈ calls, actsForUser call →
      requestUser call = some (g.lookup.userIdFor envelope.sessionId) ∨
        commandType? envelope.protocolMessageId = some .kBattleInput ∧ IsSettlement p call) ∧
    g'.calls = g.calls ++ calls
  tasks : ∃ tasks, (∀ task ∈ tasks,
      requestUser (inputCall task) = some (g.lookup.userIdFor envelope.sessionId)) ∧
    g'.battleRouteTasks = g.battleRouteTasks ++ tasks
  nobody : isPublicMessage envelope.protocolMessageId = false →
    g.lookup.userIdFor envelope.sessionId = "" →
      g'.calls = g.calls ∧ g'.battleRouteTasks = g.battleRouteTasks

theorem InOwnName.of_eq {envelope : ClientEnvelope} {g g' : BridgeRuntime W}
    (hcalls : g'.calls = g.calls) (htasks : g'.battleRouteTasks = g.battleRouteTasks) :
    InOwnName p envelope g g' :=
  ⟨⟨[], by simp, by rw [hcalls, List.append_nil]⟩, ⟨[], by simp, by rw [htasks, List.append_nil]⟩,
    fun _ _ => ⟨hcalls, htasks⟩⟩

/-- An answer to the client is no request. -/
theorem calls_answerUnhandled (g : BridgeRuntime W) (envelope : ClientEnvelope)
    (c : GatewayCommand) : (g.answerUnhandled envelope c).calls = g.calls ∧
      (g.answerUnhandled envelope c).battleRouteTasks = g.battleRouteTasks := by
  unfold answerUnhandled
  split_ifs
  · split <;> exact ⟨rfl, rfl⟩
  · exact ⟨rfl, rfl⟩

theorem of_toCommand {envelope : ClientEnvelope} {c : GatewayCommand}
    (h : toCommand envelope = some c) : c.sessionId = envelope.sessionId ∧
      commandType? envelope.protocolMessageId = some c.type := by
  obtain ⟨type, htype, rfl⟩ := Option.map_eq_some_iff.mp h
  exact ⟨rfl, htype⟩

/-- The requests of a client carry the user of its session, whatever it sends. -/
theorem onMessage_inOwnName {V : Type*} (p : Platform) (e : Elsewhere V) (delivery : ℕ → Delivery)
    (g : BridgeRuntime (Counted (RoomWorld V))) (retryAfterMs : Option ℤ)
    (envelope : ClientEnvelope) :
    InOwnName p envelope g
      (g.onMessage p (withLosses delivery (behindBridge p e)) retryAfterMs envelope).1 := by
  unfold onMessage
  cases retryAfterMs with
  | some ms => exact .of_eq rfl rfl
  | none =>
    cases hcommand : toCommand envelope with
    | none => exact .of_eq rfl rfl
    | some c =>
      obtain ⟨hsession, htype⟩ := of_toCommand hcommand
      dsimp only
      by_cases hnobody : (!isPublicMessage envelope.protocolMessageId) = true ∧
          g.lookup.userIdFor c.sessionId = ""
      · rw [if_pos hnobody]
        exact .of_eq rfl rfl
      · rw [if_neg hnobody]
        -- The runtime handles the command, unless the actor answers it by itself.
        have hhandled : ∀ g' : BridgeRuntime (Counted (RoomWorld V)),
            g'.calls = (g.handle p (withLosses delivery (behindBridge p e)) c).1.calls →
            g'.battleRouteTasks =
              (g.handle p (withLosses delivery (behindBridge p e)) c).1.battleRouteTasks →
            InOwnName p envelope g g' := by
          intro g' hcalls htasks
          obtain ⟨calls, hname, heq⟩ := inName_handle g c
          obtain ⟨tasks, hqueue, htask⟩ := tasks_handle g c
          rw [hsession] at hname htask hnobody
          refine ⟨⟨calls, fun call hcall hacts => ?_, hcalls.trans heq⟩,
            ⟨tasks, htask, htasks.trans hqueue⟩, fun hpublic huser => ?_⟩
          · exact (hname call hcall hacts).imp_right fun h => ⟨htype.trans (congrArg _ h.1), h.2⟩
          · exact absurd ⟨by simp [hpublic], huser⟩ hnobody
        split
        · exact .of_eq rfl rfl
        · exact .of_eq rfl rfl
        · split <;> rename_i heq
          · exact hhandled _ (by rw [heq]) (by rw [heq])
          · exact hhandled _ (by rw [heq]) (by rw [heq])
          · obtain ⟨hcalls, htasks⟩ := calls_answerUnhandled _ envelope c
            exact hhandled _ (hcalls.trans (by rw [heq])) (htasks.trans (by rw [heq]))

end BridgeRuntime

end BoostGateway.Gateway
