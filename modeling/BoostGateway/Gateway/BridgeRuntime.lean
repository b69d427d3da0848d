import BoostGateway.Battle.BattleInstancePlugin
import BoostGateway.Gateway.LeaderboardSettlement
import BoostGateway.Gateway.ServiceBridge
import BoostGateway.Gateway.SessionLookup
import BoostGateway.Match.Commands

/-!
# The gateway in front of the backends

`Runtime` (`runtime.cpp`) when it has a bridge : every command of a client is turned into
requests to the backends, and their answers into messages to sessions. What is behind the
bridge is a parameter, a world and what it answers to a call. A handler is written under
the name of its command; a `type_error` of nlohmann leaves a handler with what it did so
far.

A `battle_input` goes to a queue of tasks for the route workers, or is handled at once
where there are no workers or the battle has no id. The routing key of a call, audit log,
metrics and traces are left out, and so are the players and rooms that only a gateway
without a bridge has.
-/

namespace BoostGateway.Gateway

open Json Battle Service

/-! ## Answers of the backends -/

/-- A request to a backend. -/
structure BackendCall where
  service : ServiceId
  messageType : String
  payload : String
  deriving DecidableEq

/-- `j.dump()`. -/
def Platform.dump (p : Platform) (j : Json) : String := String.ofList (j.dump p.floatText none 0)

/-- A document without floats is read back from its text. -/
theorem Platform.parseDocument_dump (p : Platform) {j : Json} (h : j.Plain) :
    parseDocument (p.dump j) = some j.asRead := by
  rw [parseDocument, dump, String.toList_ofList]
  exact Json.parse_dump h true 0

/-- What the gateway makes of the text of a successful call. -/
inductive Answer
  | accepted (resp : Json)
  | refused (reason : String)

/-- The answer, and the reason where its status is not `ok`. -/
def readAnswer (fallback payload : String) : Except TypeError Answer :=
  match parseDocument payload with
  | none => .ok (.refused fallback)
  | some resp => do
    if (← resp.value getString "status" "") = "ok" then return .accepted resp
    return .refused (← resp.value getString "reason" fallback)

/-- The answer where its status is `ok`. -/
def readAccepted (payload : String) : Except TypeError (Option Json) :=
  match parseDocument payload with
  | none => .ok none
  | some resp => do
    if (← resp.value getString "status" "") = "ok" then return some resp
    return none

/-- The reason in a failed answer, else `fallback`. -/
def backendErrorReason (result : BackendRoutingResult) (fallback : String) :
    Except TypeError String :=
  if result.responsePayload = "" then .ok fallback
  else
    match parseDocument result.responsePayload with
    | none => .ok result.responsePayload
    | some doc => doc.value getString "reason" fallback

/-- What a `for` over a value visits. -/
def range : Json → List Json
  | .array xs => xs
  | .object ms => ms.map Prod.snd
  | .null => []
  | j => [j]

/-- `resp["push_to_sessions"]`, where it is there. -/
def pushesOf (resp : Json) : List Json := ((resp.find? "push_to_sessions").map range).getD []

/-- A field that a schema lists. -/
structure SchemaField where
  name : String
  isBoolean : Bool := false
  required : Bool := true

/-- `SchemaValidator::validate`, for fields that are strings or booleans : the error. -/
def schemaError (fields : List SchemaField) (payload : String) : Option String :=
  match parseDocument payload with
  | none => some "invalid_json"
  | some doc => fields.findSome? fun field =>
    match doc.find? field.name with
    | none => if field.required then some ("missing_required_field:" ++ field.name) else none
    | some j =>
      if field.isBoolean then
        if j.isBool then none else some ("type_mismatch:" ++ field.name ++ ":expected_boolean")
      else
        match j.string? with
        | none => some ("type_mismatch:" ++ field.name ++ ":expected_string")
        | some s => if field.required ∧ s = "" then some ("empty_field:" ++ field.name) else none

/-- The schema of `login_request`. -/
def loginSchema : List SchemaField :=
  [{ name := "user_id" }, { name := "token" }, { name := "display_name", required := false }]

/-- The schema of `room_create`, `room_join`, `room_leave` and `room_start_battle`. -/
def roomSchema : List SchemaField := [{ name := "user_id" }, { name := "room_id" }]

/-- The schema of `room_ready`. -/
def roomReadySchema : List SchemaField := roomSchema ++ [{ name := "ready", isBoolean := true }]

/-! ## The gateway -/

/-- What a task of a route worker captures. -/
structure BattleRouteTask where
  sessionId : SessionId
  requestId : UInt32
  roomId : String
  payload : String
  deriving DecidableEq

/-- `Runtime` in bridge mode, with the world of the backends. -/
structure BridgeRuntime (W : Type*) where
  lookup : SessionLookup := {}
  lookupSound : lookup.Sound := by exact .empty
  sessionRoles : SessionId → Option Role := fun _ => none
  /-- The rooms in `battles_by_room_id_`; with a bridge its values are placeholders. -/
  battlesByRoomId : String → Bool := fun _ => false
  roomToBattleId : String → Option String := fun _ => none
  battleFramePushEvery : UInt32 := 1
  battleRouteWorkerCount : UInt32 := 4
  /-- Zero where nothing was pushed to the room. -/
  lastEmittedBattleFrame : String → UInt64 := fun _ => 0
  leaderboardSettlementKeys : List String := []
  processedMatchIds : List String := []
  battleRouteTasks : List BattleRouteTask := []
  writes : List SessionWrite := []
  /-- The calls that went through the bridge. -/
  calls : List BackendCall := []
  /-- What is behind the bridge. -/
  world : W

/-- A gateway after a handler, and what the handler returned or threw. -/
abbrev Handled (W : Type*) := BridgeRuntime W × Except TypeError Bool

namespace BridgeRuntime

variable {W : Type*} (p : Platform) (backend : W → BackendCall → W × BackendRoutingResult)
  (g : BridgeRuntime W)

/-- A message to a session. -/
def emit (messageId : UInt16) (sessionId : SessionId) (requestId : UInt32) (error : ErrorCode)
    (body : String) : BridgeRuntime W :=
  { g with writes := g.writes ++ [{
      sessionId, protocolMessageId := messageId, requestId, errorCode := error.toInt32, body }] }

/-- A message to the sessions of a room. -/
def broadcastToRoom (roomId : String) (messageId : UInt16) (body : String) : BridgeRuntime W :=
  (g.lookup.sessionsInRoom roomId).foldl (fun g s => g.emit messageId s 0 .kOk body) g

/-- An answer to the command. -/
def reply (c : GatewayCommand) (messageId : UInt16) (error : ErrorCode) (body : String) :
    Handled W :=
  (g.emit messageId c.sessionId c.requestId error body, .ok true)

/-- An error as the answer. -/
def replyError (c : GatewayCommand) (error : ErrorCode) (body : String) : Handled W :=
  g.reply c kErrorResponse error body

/-- The handler returns `false`. -/
def unhandled : Handled W := (g, .ok false)

/-- The handler throws. -/
def throws (e : TypeError) : Handled W := (g, .error e)

/-- `bridge->route`. -/
def route (call : BackendCall) : BridgeRuntime W × BackendRoutingResult :=
  let (world, result) := backend g.world call
  ({ g with world, calls := g.calls ++ [call] }, result)

/-- `set_session_user`. -/
def setSessionUser (sessionId : SessionId) (userId : String) : BridgeRuntime W :=
  { g with
    lookup := g.lookup.setSessionUser sessionId userId
    lookupSound := g.lookupSound.setSessionUser }

/-- `set_session_room`. -/
def setSessionRoom (sessionId : SessionId) (roomId : String) : BridgeRuntime W :=
  { g with
    lookup := g.lookup.setSessionRoom sessionId roomId
    lookupSound := g.lookupSound.setSessionRoom sessionId roomId }

/-- The session has no user. -/
def eraseSessionUser (sessionId : SessionId) : BridgeRuntime W :=
  { g with
    lookup := g.lookup.eraseSessionUser sessionId
    lookupSound := g.lookupSound.eraseSessionUser }

/-- The session is in no room. -/
def eraseSessionRoom (sessionId : SessionId) : BridgeRuntime W :=
  { g with
    lookup := g.lookup.eraseSessionRoom sessionId
    lookupSound := g.lookupSound.eraseSessionRoom sessionId }

/-- `set_session_role`. -/
def setSessionRole (sessionId : SessionId) (role : Role) : BridgeRuntime W :=
  { g with sessionRoles := Function.update g.sessionRoles sessionId (some role) }

/-- `is_session_allowed`. -/
def isSessionAllowed (sessionId : SessionId) (protocolMessageId : UInt16) : Bool :=
  (g.sessionRoles sessionId).all fun role => role.isAllowed protocolMessageId

/-- The room has a battle from now on. -/
def trackBattle (roomId battleId : String) : BridgeRuntime W :=
  if battleId = "" then g
  else { g with
    battlesByRoomId := Function.update g.battlesByRoomId roomId true
    roomToBattleId := Function.update g.roomToBattleId roomId (some battleId) }

/-- The battle of the room is over. -/
def untrackBattle (roomId : String) : BridgeRuntime W :=
  { g with
    battlesByRoomId := Function.update g.battlesByRoomId roomId false
    roomToBattleId := Function.update g.roomToBattleId roomId none }

/-- `battle_id_for_room`. -/
def battleIdForRoom (roomId : String) : String := (g.roomToBattleId roomId).getD ""

/-- `should_emit_battle_frame_push`. -/
def shouldEmitBattleFramePush (roomId : String) (frameNumber : UInt64) : BridgeRuntime W × Bool :=
  let last := g.lastEmittedBattleFrame roomId
  if g.battleFramePushEvery ≤ 1 ∨ frameNumber = 0 ∨ last = 0 ∨ frameNumber ≤ last ∨
      g.battleFramePushEvery.toUInt64 ≤ frameNumber - last then
    ({ g with lastEmittedBattleFrame :=
        Function.update g.lastEmittedBattleFrame roomId frameNumber }, true)
  else (g, false)

/-- The body of a `for` over pushes, run until it throws. -/
def eachPush (body : BridgeRuntime W → Json → BridgeRuntime W × Except TypeError Unit) :
    BridgeRuntime W → List Json → BridgeRuntime W × Except TypeError Unit
  | g, [] => (g, .ok ())
  | g, push :: pushes =>
    match body g push with
    | (g, .ok _) => eachPush body g pushes
    | (g, .error e) => (g, .error e)

/-! ## Leaderboard submits of a battle -/

/-- The scores of a settlement, one call each. -/
def submitBattleSettlementToLeaderboard (push : FinishedPush) : BridgeRuntime W :=
  let (keys, g) := Gateway.submitBattleSettlementToLeaderboard
    (fun (g : BridgeRuntime W) payload =>
      let (g, result) := g.route backend ⟨.leaderboard, "leaderboard_submit", p.dump payload⟩
      (g, result.success))
    (g.leaderboardSettlementKeys, g) push
  { g with leaderboardSettlementKeys := keys }

/-- The scores that a finished push carries. -/
def submitBattleFinishedPushToLeaderboard (push : Json) (roomId : String) :
    BridgeRuntime W × Except TypeError Unit :=
  match readFinishedPush push roomId with
  | .error e => (g, .error e)
  | .ok none => (g, .ok ())
  | .ok (some finished) => (g.submitBattleSettlementToLeaderboard p backend finished, .ok ())

/-! ## Login -/

/-- The session that the user had is told and loses the user. -/
def kickOldSession (userId : String) : BridgeRuntime W :=
  match g.lookup.sessionForUser p userId with
  | none => g
  | some old =>
    (g.emit kSessionKickedPush old 0 .kDuplicateLogin "duplicate_login").eraseSessionUser old

/-- What the gateway reads from the answer to a login that is accepted. -/
def readLogin (resp : Json) : Except TypeError (Bool × Role) := do
  let isDuplicate ← resp.value getBool "is_duplicate" false
  let role ← resp.value getString "role" "player"
  return (isDuplicate, .ofString role)

/-- The payload of a login. -/
def loginPayload (body : ParsedLoginCommandBody) : Json :=
  .ofMembers [("user_id", .string body.userId), ("token", .string body.token),
    ("display_name", .string (body.displayName.getD ""))]

/-- `kLogin`. -/
def login (c : GatewayCommand) : Handled W :=
  match (parseLoginCommandBody c.body).filter validateLoginCommandBody with
  | none => g.replyError c .kInvalidUserId ErrorCode.kInvalidUserId.toString
  | some body =>
    let payload := p.dump (loginPayload body)
    match schemaError loginSchema payload with
    | some error => g.replyError c .kInvalidUserId error
    | none =>
      let (g, result) := g.route backend ⟨.login, "login_request", payload⟩
      if result.success then
        match readAnswer "auth_failed" result.responsePayload with
        | .error e => g.throws e
        | .ok (.refused reason) => g.replyError c .kInvalidToken reason
        | .ok (.accepted resp) =>
          match readLogin resp with
          | .error e => g.throws e
          | .ok (isDuplicate, role) =>
            let g := g.setSessionRole c.sessionId role
            let g := if isDuplicate then g.kickOldSession p body.userId else g
            (g.setSessionUser c.sessionId body.userId).reply c kLoginResponse .kOk
              ("login_ok:" ++ body.userId)
      else
        g.replyError c
          (if result.error = .kRejected then .kInvalidToken else .kLoginBackendUnavailable)
          "backend_error"

/-- A call whose answer is passed on as it is. -/
def relay (c : GatewayCommand) (call : BackendCall) (responseId : UInt16) (error : ErrorCode)
    (fallback : String) : Handled W :=
  let (g, result) := g.route backend call
  if result.success then g.reply c responseId .kOk result.responsePayload
  else
    match backendErrorReason result fallback with
    | .error e => g.throws e
    | .ok reason => g.replyError c error reason

/-- `kRegister`. -/
def register (c : GatewayCommand) : Handled W :=
  match parseDocument c.body with
  | some (.object ms) =>
    g.relay backend c ⟨.login, "register_account", p.dump (.object ms)⟩ kRegisterResponse
      .kLoginBackendUnavailable "register_failed"
  | _ => g.replyError c .kInvalidUserId "invalid_register_payload"

/-! ## Rooms -/

/-- The answer to a body that names no room. -/
def invalidRoomId (c : GatewayCommand) : Handled W :=
  g.replyError c .kInvalidRoomId ErrorCode.kInvalidRoomId.toString

/-- The payload that names a user and a room. -/
def roomPayload (userId roomId : String) : Json :=
  .ofMembers [("user_id", .string userId), ("room_id", .string roomId)]

/-- `bridge_route`. -/
def bridgeRoute (call : BackendCall) (onOk : BridgeRuntime W → Json → Handled W)
    (onError : BridgeRuntime W → String → Handled W) : Handled W :=
  let (g, result) := g.route backend call
  if result.success then
    match readAnswer (call.messageType ++ "_failed") result.responsePayload with
    | .error e => g.throws e
    | .ok (.accepted resp) => onOk g resp
    | .ok (.refused reason) => onError g reason
  else
    match backendErrorReason result "backend_error" with
    | .error e => g.throws e
    | .ok reason => onError g reason

/-- `kRoomCreate`. -/
def roomCreate (c : GatewayCommand) : Handled W :=
  let userId := g.lookup.userIdFor c.sessionId
  match parseRoomIdBody c.body with
  | none => g.invalidRoomId c
  | some roomId =>
    if userId = "" then g.invalidRoomId c
    else
      let payload := p.dump (roomPayload userId roomId)
      match schemaError roomSchema payload with
      | some error => g.replyError c .kInvalidUserId error
      | none =>
        g.bridgeRoute backend ⟨.room, "room_create", payload⟩
          (fun g _ => (g.setSessionRoom c.sessionId roomId).reply c kRoomCreateResponse .kOk
            roomId)
          (fun g reason => g.replyError c
            (if reason = "backend_error" then .kRoomBackendUnavailable else .kInvalidRoomId)
            reason)

/-- The answer to a call of the room backend that failed. -/
def roomFailure (c : GatewayCommand) (result : BackendRoutingResult) (rejected : ErrorCode)
    (rejectedReason : String) : Handled W :=
  match backendErrorReason result
    (if result.error = .kRejected then rejectedReason else "backend_error") with
  | .error e => g.throws e
  | .ok reason =>
    g.replyError c (if result.error = .kRejected then rejected else .kRoomBackendUnavailable) reason

/-- `kRoomJoin`. -/
def roomJoin (c : GatewayCommand) : Handled W :=
  let userId := g.lookup.userIdFor c.sessionId
  match parseRoomIdBody c.body with
  | none => g.invalidRoomId c
  | some roomId =>
    if userId = "" then g.invalidRoomId c
    else
      let payload := p.dump (roomPayload userId roomId)
      match schemaError roomSchema payload with
      | some error => g.replyError c .kInvalidUserId error
      | none =>
        let (g, result) := g.route backend ⟨.room, "room_join", payload⟩
        if result.success then
          match readAnswer "room_join_failed" result.responsePayload with
          | .error e => g.throws e
          | .ok (.accepted _) =>
            (g.setSessionRoom c.sessionId roomId).reply c kRoomJoinResponse .kOk roomId
          | .ok (.refused reason) => g.replyError c .kInvalidRoomId reason
        else g.roomFailure c result .kInvalidRoomId "room_join_rejected"

/-- `kRoomReady`. -/
def roomReady (c : GatewayCommand) : Handled W :=
  let userId := g.lookup.userIdFor c.sessionId
  let roomId := g.lookup.roomIdFor c.sessionId
  if userId = "" ∨ roomId = "" then g.unhandled
  else
    match parseRoomReadyBody c.body with
    | none => g.replyError c .kAuthRequired "invalid_ready_state"
    | some ready =>
      let payload := p.dump (.ofMembers
        [("user_id", .string userId), ("room_id", .string roomId), ("ready", .bool ready)])
      match schemaError roomReadySchema payload with
      | some error => g.replyError c .kInvalidUserId error
      | none =>
        let (g, result) := g.route backend ⟨.room, "room_ready", payload⟩
        if result.success then
          match readAnswer "ready_failed" result.responsePayload with
          | .error e => g.throws e
          | .ok (.accepted _) =>
            g.reply c kRoomReadyResponse .kOk (if ready then "true" else "false")
          | .ok (.refused reason) => g.replyError c .kAuthRequired reason
        else g.roomFailure c result .kAuthRequired "room_ready_rejected"

/-- `kRoomLeave`. -/
def roomLeave (c : GatewayCommand) : Handled W :=
  let userId := g.lookup.userIdFor c.sessionId
  let roomId := g.lookup.roomIdFor c.sessionId
  if userId = "" ∨ roomId = "" then g.unhandled
  else
    let payload := p.dump (roomPayload userId roomId)
    match schemaError roomSchema payload with
    | some error => g.replyError c .kInvalidUserId error
    | none =>
      let (g, result) := g.route backend ⟨.room, "room_leave", payload⟩
      if result.success then
        match readAnswer "leave_failed" result.responsePayload with
        | .error e => g.throws e
        | .ok (.accepted _) =>
          (g.eraseSessionRoom c.sessionId).reply c kRoomLeaveResponse .kOk roomId
        | .ok (.refused reason) => g.replyError c .kNotInRoom reason
      else g.replyError c .kRoomBackendUnavailable "backend_error"

/-- `kRoomList`. -/
def roomList (c : GatewayCommand) : Handled W :=
  g.relay backend c ⟨.room, "room_list", if c.body = "" then "\x7b\x7d" else c.body⟩
    kRoomListResponse .kRoomBackendUnavailable "room_list_failed"

/-- `kRoomDetail`. -/
def roomDetail (c : GatewayCommand) : Handled W :=
  match parseRoomIdBody c.body with
  | none => g.invalidRoomId c
  | some roomId =>
    g.relay backend c ⟨.room, "room_detail", p.dump (.ofMembers [("room_id", .string roomId)])⟩
      kRoomDetailResponse .kRoomBackendUnavailable "room_detail_failed"

/-- `room_kick` and `room_transfer_owner`, which name another user. -/
def roomOwnerCommand (c : GatewayCommand) (messageType member : String) (responseId : UInt16)
    (fallback : String) : Handled W :=
  let userId := g.lookup.userIdFor c.sessionId
  let roomId := g.lookup.roomIdFor c.sessionId
  if userId = "" ∨ roomId = "" then g.replyError c .kNotInRoom ErrorCode.kNotInRoom.toString
  else
    g.relay backend c
      ⟨.room, messageType, p.dump (.ofMembers
        [("user_id", .string userId), ("room_id", .string roomId), (member, .string c.body)])⟩
      responseId .kRoomBackendUnavailable fallback

/-- `kRoomKick`. -/
def roomKick (c : GatewayCommand) : Handled W :=
  g.roomOwnerCommand p backend c "room_kick" "target_user_id" kRoomKickResponse "room_kick_failed"

/-- `kRoomTransferOwner`. -/
def roomTransferOwner (c : GatewayCommand) : Handled W :=
  g.roomOwnerCommand p backend c "room_transfer_owner" "new_owner_id" kRoomTransferOwnerResponse
    "room_transfer_failed"

/-! ## Battles -/

/-- The message and payload of the `forward` instruction for the battle backend. -/
def readForward (resp : Json) : Except TypeError (Option (String × String)) :=
  match resp.find? "forward" with
  | none => .ok none
  | some fwd => do
    let target ← fwd.value getString "target" ""
    let messageType ← fwd.value getString "message_type" ""
    let payload := ((fwd.find? "payload").map p.dump).getD ""
    return if target = "battle" ∧ payload ≠ "" then some (messageType, payload) else none

/-- A push that a battle started, told to the room. -/
def announceStarted (roomId battleId : String) (g : BridgeRuntime W) (push : Json) :
    BridgeRuntime W × Except TypeError Unit :=
  match push.value getString "kind" "" with
  | .error e => (g, .error e)
  | .ok kind =>
    (if kind = "battle_started" then
      g.broadcastToRoom roomId kBattleStatePush (formatBattleStateBody roomId battleId)
    else g, .ok ())

/-- The call of `battle_create` that a room which starts a battle asks for. -/
def createBattle (c : GatewayCommand) (roomId : String) (messageType payload : String) :
    Handled W :=
  let (g, result) := g.route backend ⟨.battle, messageType, payload⟩
  match (if result.success then readAccepted result.responsePayload else .ok none) with
  | .error e => g.throws e
  | .ok none => g.replyError c .kBattleNotStarted "battle_create_failed"
  | .ok (some resp) =>
    match resp.value getString "battle_id" "" with
    | .error e => g.throws e
    | .ok battleId =>
      let g := (g.trackBattle roomId battleId).emit kBattleStartResponse c.sessionId c.requestId
        .kOk (formatBattleStartedBody roomId battleId)
      let (g, thrown) := eachPush (announceStarted roomId battleId) g (pushesOf resp)
      (g, thrown.map fun _ => true)

/-- `kBattleStart`. -/
def battleStart (c : GatewayCommand) : Handled W :=
  let userId := g.lookup.userIdFor c.sessionId
  let sessionRoomId := g.lookup.roomIdFor c.sessionId
  if userId = "" ∨ sessionRoomId = "" then g.unhandled
  else
    match parseBattleStartCommandBody c.body with
    | none => g.invalidRoomId c
    | some roomId =>
      if roomId.any (· ≠ sessionRoomId) then g.invalidRoomId c
      else
        let payload := p.dump (roomPayload userId sessionRoomId)
        match schemaError roomSchema payload with
        | some error => g.replyError c .kInvalidUserId error
        | none =>
          let (g, result) := g.route backend ⟨.room, "room_start_battle", payload⟩
          if result.success then
            match readAnswer "start_battle_failed" result.responsePayload with
            | .error e => g.throws e
            | .ok (.refused reason) => g.replyError c .kBattleNotStarted reason
            | .ok (.accepted resp) =>
              match readForward p resp with
              | .error e => g.throws e
              | .ok none => g.replyError c .kBattleNotStarted "no_battle_forward"
              | .ok (some (messageType, payload)) =>
                g.createBattle backend c sessionRoomId messageType payload
          else g.roomFailure c result .kBattleNotStarted "room_start_battle_rejected"

/-- A push that the battle is over, told to the room. -/
def announceFinished (roomId : String) (g : BridgeRuntime W) (push : Json) :
    BridgeRuntime W × Except TypeError Unit :=
  match push.value getString "kind" "" with
  | .error e => (g, .error e)
  | .ok kind =>
    if kind = "battle_finished" then
      match g.submitBattleFinishedPushToLeaderboard p backend push roomId with
      | (g, .error e) => (g, .error e)
      | (g, .ok _) => (g.broadcastToRoom roomId kBattleStatePush (p.dump push), .ok ())
    else (g, .ok ())

/-- A `battle_input` that asks for the end of the battle. -/
def battleFinish (c : GatewayCommand) (userId roomId battleId : String)
    (reason : BattleFinishReason) : Handled W :=
  let (g, result) := g.route backend ⟨.battle, "battle_finish", p.dump (.ofMembers
    [("user_id", .string userId), ("battle_id", .string battleId),
     ("reason", .string reason.toString)])⟩
  match (if result.success then readAccepted result.responsePayload else .ok none) with
  | .error e => g.throws e
  | .ok none => g.replyError c .kBattleNotStarted "battle_finish_failed"
  | .ok (some resp) =>
    let g := g.emit kBattleInputResponse c.sessionId c.requestId .kOk
      (formatBattleEndAcceptedBody reason)
    match eachPush (announceFinished p backend roomId) g (pushesOf resp) with
    | (g, .error e) => g.throws e
    | (g, .ok _) =>
      let (g, _) := g.route backend ⟨.room, "room_battle_finished", p.dump (.ofMembers
        [("room_id", .string roomId), ("battle_id", .string battleId)])⟩
      (g.untrackBattle roomId, .ok true)

/-- A frame push, where it is not held back. -/
def announceFrame (roomId : String) (g : BridgeRuntime W) (push : Json) :
    BridgeRuntime W × Except TypeError Unit :=
  match push.value getUInt64 "frame_number" 0 with
  | .error e => (g, .error e)
  | .ok frameNumber =>
    let (g, emits) := g.shouldEmitBattleFramePush roomId frameNumber
    (if emits then g.broadcastToRoom roomId kBattleStatePush (p.dump push) else g, .ok ())

/-- A push of an input that is handled at once. -/
def announceInline (roomId : String) (g : BridgeRuntime W) (push : Json) :
    BridgeRuntime W × Except TypeError Unit :=
  match push.value getString "kind" "" with
  | .error e => (g, .error e)
  | .ok kind =>
    if kind = "frame_advanced" then announceFrame p roomId g push
    else if kind = "battle_finished" then
      match g.submitBattleFinishedPushToLeaderboard p backend push roomId with
      | (g, .error e) => (g, .error e)
      | (g, .ok _) =>
        ((g.broadcastToRoom roomId kBattleStatePush (p.dump push)).untrackBattle roomId, .ok ())
    else (g, .ok ())

/-- A push of an input that a route worker handles. -/
def announceOffload (roomId : String) (g : BridgeRuntime W) (push : Json) :
    BridgeRuntime W × Except TypeError Unit :=
  match push.value getString "kind" "" with
  | .error e => (g, .error e)
  | .ok kind =>
    if kind = "frame_advanced" then announceFrame p roomId g push
    else if kind = "battle_finished" then
      (g.broadcastToRoom roomId kBattleStatePush (p.dump push), .ok ())
    else (g, .ok ())

/-- What follows the answer to a `battle_input`. -/
def afterInput (announce : BridgeRuntime W → Json → BridgeRuntime W × Except TypeError Unit)
    (sessionId : SessionId) (requestId : UInt32) (result : BackendRoutingResult) : Handled W :=
  if result.success then
    match readAnswer "input_rejected" result.responsePayload with
    | .error e => g.throws e
    | .ok (.refused reason) =>
      (g.emit kErrorResponse sessionId requestId .kAuthRequired reason, .ok true)
    | .ok (.accepted resp) =>
      match resp.value getUInt64 "input_seq" 0 with
      | .error e => g.throws e
      | .ok inputSeq =>
        let g := g.emit kBattleInputResponse sessionId requestId .kOk
          (formatBattleInputResponseBody inputSeq)
        let (g, thrown) := eachPush announce g (pushesOf resp)
        (g, thrown.map fun _ => true)
  else (g.emit kErrorResponse sessionId requestId .kBattleBackendUnavailable "backend_error",
    .ok true)

/-- The task of a route worker : its call, and what follows the answer. -/
def runBattleRouteTask (task : BattleRouteTask) : Handled W :=
  let (g, result) := g.route backend ⟨.battle, "battle_input", task.payload⟩
  g.afterInput (announceOffload p task.roomId) task.sessionId task.requestId result

/-- `enqueue_battle_route_task`. -/
def enqueueBattleRouteTask (task : BattleRouteTask) : Handled W :=
  ({ g with battleRouteTasks := g.battleRouteTasks ++ [task] }, .ok true)

/-- The input without workers. -/
def battleInputInline (task : BattleRouteTask) : Handled W :=
  let (g, result) := g.route backend ⟨.battle, "battle_input", task.payload⟩
  g.afterInput (announceInline p backend task.roomId) task.sessionId task.requestId result

/-- There are route workers. -/
def battleRouteOffloadEnabled : Bool := 0 < g.battleRouteWorkerCount

/-- The payload of `battle_input`. -/
def inputPayload (userId battleId : String) (input : ParsedBattleInputCommandBody) : Json :=
  .ofMembers [("user_id", .string userId), ("battle_id", .string battleId),
    ("input_data", .string input.inputData), ("score", .integer input.score),
    ("submitted_frame", .integer input.score)]

/-- The handler of `battle_input`, with workers or without. -/
def battleInputOn (offload : Bool) (c : GatewayCommand) : Handled W :=
  let userId := g.lookup.userIdFor c.sessionId
  let roomId := g.lookup.roomIdFor c.sessionId
  if userId = "" ∨ roomId = "" then g.unhandled
  else
    match (parseBattleInputCommandBody c.body).filter validateBattleInputCommandBody with
    | none => g.replyError c .kAuthRequired "invalid_battle_input"
    | some input =>
      if g.battlesByRoomId roomId then
        let battleId := g.battleIdForRoom roomId
        if input.isFinishRequest then
          g.battleFinish p backend c userId roomId battleId input.finishReason
        else
          let task : BattleRouteTask :=
            { sessionId := c.sessionId, requestId := c.requestId, roomId
              payload := p.dump (inputPayload userId battleId input) }
          if offload ∧ battleId ≠ "" then g.enqueueBattleRouteTask task
          else g.battleInputInline p backend task
      else g.replyError c .kBattleNotStarted ErrorCode.kBattleNotStarted.toString

/-- `kBattleInput`. -/
def battleInput (c : GatewayCommand) : Handled W :=
  g.battleInputOn p backend g.battleRouteOffloadEnabled c

/-- `kBattleState`. -/
def battleState (c : GatewayCommand) : Handled W :=
  let requested := if c.body = "" then g.battleIdForRoom (g.lookup.roomIdFor c.sessionId)
    else c.body
  if g.lookup.userIdFor c.sessionId = "" then g.unhandled
  else if requested = "" then
    g.replyError c .kBattleNotStarted ErrorCode.kBattleNotStarted.toString
  else
    let (g, result) := g.route backend
      ⟨.battle, "battle_state", p.dump (.ofMembers [("battle_id", .string requested)])⟩
    if result.success then
      match readAnswer "battle_state_failed" result.responsePayload with
      | .error e => g.throws e
      | .ok (.refused reason) => g.replyError c .kBattleNotStarted reason
      | .ok (.accepted resp) =>
        g.reply c kBattleStateResponse .kOk
          (((resp.find? "snapshot").map p.dump).getD result.responsePayload)
    else
      match backendErrorReason result "battle_state_failed" with
      | .error e => g.throws e
      | .ok reason => g.replyError c .kBattleBackendUnavailable reason

/-- `kReplayLoad`. -/
def replayLoad (c : GatewayCommand) : Handled W :=
  if g.lookup.userIdFor c.sessionId = "" then g.unhandled
  else if c.body = "" then g.replyError c .kBattleNotStarted "empty_battle_id"
  else
    g.relay backend c ⟨.battle, "replay_load", p.dump (.ofMembers [("battle_id", .string c.body)])⟩
      kReplayLoadResponse .kBattleBackendUnavailable "replay_load_failed"

/-! ## Matches and the leaderboard -/

/-- A call whose answer is passed on as a document. -/
def relayDocument (c : GatewayCommand) (call : BackendCall) (responseId : UInt16) : Handled W :=
  g.bridgeRoute backend call
    (fun g resp => g.reply c responseId .kOk (p.dump resp))
    (fun g reason => g.replyError c .kSessionNotFound reason)

/-- The body of a match command, which has to name the user of the session. -/
def matchCommand (c : GatewayCommand) (invalid : String)
    (members : ParsedMatchCommandBody → List (String × Json)) (messageType : String)
    (responseId : UInt16) : Handled W :=
  match ((parseMatchCommandBody c.body).filter validateMatchCommandBody).filter
    (·.userId = g.lookup.userIdFor c.sessionId) with
  | none => g.replyError c .kAuthRequired invalid
  | some body =>
    g.relayDocument p backend c
      ⟨.matchmaking, messageType, p.dump (.ofMembers (members body))⟩ responseId

/-- `kMatchJoin`. -/
def matchJoin (c : GatewayCommand) : Handled W :=
  g.matchCommand p backend c "invalid_match_join"
    (fun body => [("user_id", .string body.userId), ("mmr", .integer body.mmr),
      ("mode", .string body.mode)])
    "match_join" kMatchJoinResponse

/-- `kMatchLeave`. -/
def matchLeave (c : GatewayCommand) : Handled W :=
  g.matchCommand p backend c "invalid_match_leave"
    (fun body => [("user_id", .string body.userId), ("mode", .string body.mode)])
    "match_leave" kMatchLeaveResponse

/-- `kMatchStatus`. -/
def matchStatus (c : GatewayCommand) : Handled W :=
  g.matchCommand p backend c "invalid_match_status"
    (fun body => [("user_id", .string body.userId), ("mode", .string body.mode)])
    "match_status" kMatchStatusResponse

/-- `kLeaderboardSubmit`. -/
def leaderboardSubmit (c : GatewayCommand) : Handled W :=
  match ((parseLeaderboardSubmitCommandBody c.body).filter
    validateLeaderboardSubmitCommandBody).filter (·.userId = g.lookup.userIdFor c.sessionId) with
  | none => g.replyError c .kAuthRequired "invalid_leaderboard_submit"
  | some body =>
    g.relayDocument p backend c
      ⟨.leaderboard, "leaderboard_submit", p.dump (.ofMembers
        [("user_id", .string body.userId), ("display_name", .string body.displayName),
         ("score", .integer body.score)])⟩
      kLeaderboardSubmitResponse

/-- `kLeaderboardTop`. -/
def leaderboardTop (c : GatewayCommand) : Handled W :=
  if g.lookup.userIdFor c.sessionId = "" then
    g.replyError c .kAuthRequired ErrorCode.kAuthRequired.toString
  else
    match parseLeaderboardTopCommandBody c.body with
    | none => g.replyError c .kAuthRequired "invalid_leaderboard_top"
    | some k =>
      g.relayDocument p backend c
        ⟨.leaderboard, "leaderboard_top", p.dump (.ofMembers [("k", .unsigned k)])⟩
        kLeaderboardTopResponse

/-- `kLeaderboardRank`. -/
def leaderboardRank (c : GatewayCommand) : Handled W :=
  if g.lookup.userIdFor c.sessionId = "" then
    g.replyError c .kAuthRequired ErrorCode.kAuthRequired.toString
  else
    match parseLeaderboardRankCommandBody c.body with
    | none => g.replyError c .kAuthRequired "invalid_leaderboard_rank"
    | some userId =>
      g.relayDocument p backend c
        ⟨.leaderboard, "leaderboard_rank", p.dump (.ofMembers [("user_id", .string userId)])⟩
        kLeaderboardRankResponse

/-! ## Commands and sessions -/

/-- `Runtime::handle`. -/
def handle (c : GatewayCommand) : Handled W :=
  if g.isSessionAllowed c.sessionId c.protocolMessageId then
    match c.type with
    | .kLogin => g.login p backend c
    | .kRegister => g.register p backend c
    | .kRoomCreate => g.roomCreate p backend c
    | .kRoomJoin => g.roomJoin p backend c
    | .kRoomReady => g.roomReady p backend c
    | .kRoomLeave => g.roomLeave p backend c
    | .kRoomList => g.roomList backend c
    | .kRoomDetail => g.roomDetail p backend c
    | .kRoomKick => g.roomKick p backend c
    | .kRoomTransferOwner => g.roomTransferOwner p backend c
    | .kBattleStart => g.battleStart p backend c
    | .kBattleInput => g.battleInput p backend c
    | .kBattleState => g.battleState p backend c
    | .kReplayLoad => g.replayLoad p backend c
    | .kMatchJoin => g.matchJoin p backend c
    | .kMatchLeave => g.matchLeave p backend c
    | .kMatchStatus => g.matchStatus p backend c
    | .kLeaderboardSubmit => g.leaderboardSubmit p backend c
    | .kLeaderboardTop => g.leaderboardTop p backend c
    | .kLeaderboardRank => g.leaderboardRank p backend c
    | .kHeartbeat | .kEcho => g.unhandled
  else g.replyError c .kAuthRequired "permission_denied"

/-- `on_session_closed`. -/
def onSessionClosed (sessionId : SessionId) : BridgeRuntime W :=
  let userId := g.lookup.userIdFor sessionId
  let roomId := g.lookup.roomIdFor sessionId
  let g := if userId ≠ "" ∧ roomId ≠ "" then
      (g.route backend ⟨.room, "room_leave", p.dump (roomPayload userId roomId)⟩).1
    else g
  { g with
    sessionRoles := Function.update g.sessionRoles sessionId none
    lookup := g.lookup.eraseSession sessionId
    lookupSound := g.lookupSound.eraseSession }

/-! ## Matches that were found -/

open Match (MatchResult)

/-- The players are told of the match. -/
def sendMatchFoundPushes (result : MatchResult) (roomId : String) : BridgeRuntime W :=
  let payload := p.dump (.ofMembers
    [("match_id", .string result.matchId),
     ("players", .array (result.playerIds.map fun userId => .ofMembers
       [("user_id", .string userId), ("mmr", intJson result.avgMmr)])),
     ("mode", .string result.mode.text), ("room_id", .string roomId)])
  result.playerIds.foldl (fun g userId =>
    match g.lookup.sessionForUser p userId with
    | some s => g.emit kMatchFoundPush s 0 .kOk payload
    | none => g) g

/-- The sessions of the players are bound to the room. -/
def bindPlayers (roomId : String) (playerIds : List String) : BridgeRuntime W :=
  playerIds.foldl (fun g userId =>
    match g.lookup.sessionForUser p userId with
    | some s => g.setSessionRoom s roomId
    | none => g) g

/-- The players of a match join its room. -/
def joinPlayers (roomId : String) (playerIds : List String) : BridgeRuntime W :=
  playerIds.foldl (fun g userId =>
    (g.route backend ⟨.room, "room_join", p.dump (roomPayload userId roomId)⟩).1) g

/-- `none` where no room is created. -/
def createRoomFromMatch (result : MatchResult) : BridgeRuntime W × Option String :=
  let roomId := "room_" ++ result.matchId
  match result.playerIds with
  | [] => (g, none)
  | ownerId :: others =>
    let (g, created) := g.route backend ⟨.room, "room_create", p.dump (roomPayload ownerId roomId)⟩
    if created.success then
      ((g.bindPlayers p roomId (ownerId :: others)).joinPlayers p backend roomId others,
        some roomId)
    else (g, none)

/-- The players of a match are ready. -/
def readyAllPlayers (roomId : String) (playerIds : List String) : BridgeRuntime W :=
  playerIds.foldl (fun g userId =>
    (g.route backend ⟨.room, "room_ready", p.dump (.ofMembers
      [("user_id", .string userId), ("room_id", .string roomId), ("ready", .bool true)])⟩).1) g

/-- The room of a match starts its battle. -/
def startBattleForRoom (roomId userId : String) : BridgeRuntime W × Except TypeError Unit :=
  let (g, result) := g.route backend
    ⟨.room, "room_start_battle", p.dump (roomPayload userId roomId)⟩
  match (if result.success then readAccepted result.responsePayload else .ok none) with
  | .error e => (g, .error e)
  | .ok none => (g, .ok ())
  | .ok (some resp) =>
    match readForward p resp with
    | .error e => (g, .error e)
    | .ok none => (g, .ok ())
    | .ok (some (messageType, payload)) =>
      let (g, created) := g.route backend ⟨.battle, messageType, payload⟩
      match (if created.success then readAccepted created.responsePayload else .ok none) with
      | .error e => (g, .error e)
      | .ok none => (g, .ok ())
      | .ok (some resp) =>
        match resp.value getString "battle_id" "" with
        | .error e => (g, .error e)
        | .ok battleId => (g.trackBattle roomId battleId, .ok ())

/-- `on_match_found`. -/
def onMatchFound (result : MatchResult) : BridgeRuntime W × Except TypeError Unit :=
  if result.matchId ∈ g.processedMatchIds then (g, .ok ())
  else
    match g.createRoomFromMatch p backend result with
    | (g, none) => (g, .ok ())
    | (g, some roomId) =>
      let g := { g with processedMatchIds := result.matchId :: g.processedMatchIds }
      let g := (g.sendMatchFoundPushes p result roomId).readyAllPlayers p backend roomId
        result.playerIds
      g.startBattleForRoom p backend roomId (result.playerIds.head?.getD "")

/-! ## What the parts of a handler leave alone -/

/-- The world after calls. -/
def worldAfter (w : W) (calls : List BackendCall) : W :=
  calls.foldl (fun w call => (backend w call).1) w

/-- Nothing changed but messages and calls, which are only added, and what goes with them;
every call is one of `Q`. -/
structure Quiet (Q : BackendCall → Prop) (g g' : BridgeRuntime W) : Prop where
  lookup : g'.lookup = g.lookup
  sessionRoles : g'.sessionRoles = g.sessionRoles
  battlesByRoomId : g'.battlesByRoomId = g.battlesByRoomId
  roomToBattleId : g'.roomToBattleId = g.roomToBattleId
  battleRouteTasks : g'.battleRouteTasks = g.battleRouteTasks
  processedMatchIds : g'.processedMatchIds = g.processedMatchIds
  writes : g.writes <+: g'.writes
  calls : ∃ calls, (∀ call ∈ calls, Q call) ∧ g'.calls = g.calls ++ calls ∧
    g'.world = worldAfter backend g.world calls

variable {p backend} {Q : BackendCall → Prop} {g g₁ g₂ : BridgeRuntime W}

theorem Quiet.refl (g : BridgeRuntime W) : Quiet backend Q g g :=
  ⟨rfl, rfl, rfl, rfl, rfl, rfl, List.prefix_refl _, [], by simp, by simp, rfl⟩

theorem Quiet.trans (h : Quiet backend Q g g₁) (h' : Quiet backend Q g₁ g₂) :
    Quiet backend Q g g₂ := by
  obtain ⟨cs, hcs, hcalls, hworld⟩ := h.calls
  obtain ⟨cs', hcs', hcalls', hworld'⟩ := h'.calls
  refine ⟨h'.lookup.trans h.lookup, h'.sessionRoles.trans h.sessionRoles,
    h'.battlesByRoomId.trans h.battlesByRoomId, h'.roomToBattleId.trans h.roomToBattleId,
    h'.battleRouteTasks.trans h.battleRouteTasks,
    h'.processedMatchIds.trans h.processedMatchIds, h.writes.trans h'.writes,
    cs ++ cs', ?_, ?_, ?_⟩
  · exact List.forall_mem_append.mpr ⟨hcs, hcs'⟩
  · rw [hcalls', hcalls, List.append_assoc]
  · rw [hworld', hworld, worldAfter, worldAfter, worldAfter, List.foldl_append]

theorem Quiet.mono {Q' : BackendCall → Prop} (h : Quiet backend Q g g₁)
    (hQ : ∀ call, Q call → Q' call) : Quiet backend Q' g g₁ := by
  obtain ⟨cs, hcs, hcalls, hworld⟩ := h.calls
  exact { h with calls := ⟨cs, fun call hcall => hQ call (hcs call hcall), hcalls, hworld⟩ }

theorem quiet_emit (g : BridgeRuntime W) (messageId : UInt16) (sessionId : SessionId)
    (requestId : UInt32) (error : ErrorCode) (body : String) :
    Quiet backend Q g (g.emit messageId sessionId requestId error body) :=
  { Quiet.refl g with writes := List.prefix_append _ _ }

variable {call : BackendCall}

theorem quiet_route (hQ : Q call) (g : BridgeRuntime W) :
    Quiet backend Q g (g.route backend call).1 :=
  ⟨rfl, rfl, rfl, rfl, rfl, rfl, List.prefix_refl _, [call], by simpa using hQ, rfl, rfl⟩

theorem route_lookup (call : BackendCall) (g : BridgeRuntime W) :
    (g.route backend call).1.lookup = g.lookup := rfl

theorem route_world (call : BackendCall) (g : BridgeRuntime W) :
    (g.route backend call).1.world = (backend g.world call).1 := rfl

theorem route_result (call : BackendCall) (g : BridgeRuntime W) :
    (g.route backend call).2 = (backend g.world call).2 := rfl

theorem quiet_foldl {α : Type*} {f : BridgeRuntime W → α → BridgeRuntime W}
    (hf : ∀ g x, Quiet backend Q g (f g x)) (g : BridgeRuntime W) (xs : List α) :
    Quiet backend Q g (xs.foldl f g) := by
  induction xs generalizing g with
  | nil => exact .refl g
  | cons x xs ih => exact (hf g x).trans (ih _)

theorem quiet_broadcastToRoom (g : BridgeRuntime W) (roomId : String) (messageId : UInt16)
    (body : String) : Quiet backend Q g (g.broadcastToRoom roomId messageId body) :=
  quiet_foldl (fun g _ => g.quiet_emit ..) g _

theorem quiet_shouldEmitBattleFramePush (g : BridgeRuntime W) (roomId : String)
    (frameNumber : UInt64) :
    Quiet backend Q g (g.shouldEmitBattleFramePush roomId frameNumber).1 := by
  unfold shouldEmitBattleFramePush
  dsimp only
  split_ifs
  · exact { Quiet.refl g with }
  · exact .refl g

/-- The calls that submit the scores of a battle are of `Q`. -/
def HasSubmits (p : Platform) (Q : BackendCall → Prop) : Prop :=
  ∀ battleId roomId reason score, Q ⟨.leaderboard, "leaderboard_submit",
    p.dump (settlementPayload battleId roomId reason score)⟩

theorem quiet_submitBattleSettlementToLeaderboard (hQ : HasSubmits p Q) (g : BridgeRuntime W)
    (push : FinishedPush) :
    Quiet backend Q g (g.submitBattleSettlementToLeaderboard p backend push) := by
  let route := fun (g : BridgeRuntime W) payload =>
    let (g, result) := g.route backend ⟨.leaderboard, "leaderboard_submit", p.dump payload⟩
    (g, result.success)
  have hscore : ∀ (s : List String × BridgeRuntime W) (score : BattleScore),
      Quiet backend Q s.2 (submitScore route push.battleId push.roomId push.reason s score).2 := by
    intro s score
    unfold submitScore
    dsimp only
    split_ifs
    · exact .refl _
    · have hroute : Quiet backend Q s.2 (s.2.route backend _).1 :=
        s.2.quiet_route (hQ push.battleId push.roomId push.reason score)
      dsimp only [route]
      generalize s.2.route backend _ = r at hroute ⊢
      obtain ⟨g, result⟩ := r
      cases result.success <;> exact hroute
  have hall : ∀ (scores : List BattleScore) (s : List String × BridgeRuntime W),
      Quiet backend Q s.2
        (scores.foldl (submitScore route push.battleId push.roomId push.reason) s).2 := by
    intro scores
    induction scores with
    | nil => exact fun s => .refl s.2
    | cons score scores ih => exact fun s => (hscore s score).trans (ih _)
  have hsubmit : Quiet backend Q g (Gateway.submitBattleSettlementToLeaderboard route
      (g.leaderboardSettlementKeys, g) push).2 := by
    unfold Gateway.submitBattleSettlementToLeaderboard
    split_ifs
    · exact .refl g
    · exact hall push.scores (g.leaderboardSettlementKeys, g)
  exact hsubmit.trans { Quiet.refl _ with }

theorem quiet_submitBattleFinishedPushToLeaderboard (hQ : HasSubmits p Q) (g : BridgeRuntime W)
    (push : Json) (roomId : String) :
    Quiet backend Q g (g.submitBattleFinishedPushToLeaderboard p backend push roomId).1 := by
  unfold submitBattleFinishedPushToLeaderboard
  split
  · exact .refl g
  · exact .refl g
  · exact g.quiet_submitBattleSettlementToLeaderboard hQ _

/-- What a loop over pushes keeps, when its body keeps it. -/
theorem eachPush_induction {R : BridgeRuntime W → BridgeRuntime W → Prop}
    {body : BridgeRuntime W → Json → BridgeRuntime W × Except TypeError Unit}
    (hrefl : ∀ g, R g g) (htrans : ∀ {g g₁ g₂}, R g g₁ → R g₁ g₂ → R g g₂)
    (hbody : ∀ g push, R g (body g push).1) (g : BridgeRuntime W) (pushes : List Json) :
    R g (eachPush body g pushes).1 := by
  induction pushes generalizing g with
  | nil => exact hrefl g
  | cons push pushes ih =>
    rw [eachPush]
    have hstep := hbody g push
    split <;> rename_i heq <;> rw [heq] at hstep
    · exact htrans hstep (ih _)
    · exact hstep

theorem quiet_eachPush {body : BridgeRuntime W → Json → BridgeRuntime W × Except TypeError Unit}
    (hbody : ∀ g push, Quiet backend Q g (body g push).1) (g : BridgeRuntime W)
    (pushes : List Json) : Quiet backend Q g (eachPush body g pushes).1 :=
  eachPush_induction .refl .trans hbody g pushes

theorem quiet_announceStarted (roomId battleId : String) (g : BridgeRuntime W) (push : Json) :
    Quiet backend Q g (announceStarted roomId battleId g push).1 := by
  unfold announceStarted
  split
  · exact .refl g
  · dsimp only
    split_ifs
    · exact g.quiet_broadcastToRoom ..
    · exact .refl g

theorem quiet_announceFinished (hQ : HasSubmits p Q) (roomId : String) (g : BridgeRuntime W)
    (push : Json) : Quiet backend Q g (announceFinished p backend roomId g push).1 := by
  unfold announceFinished
  split
  · exact .refl g
  · split_ifs
    · have hsubmit : Quiet backend Q g (g.submitBattleFinishedPushToLeaderboard p backend push
        roomId).1 := g.quiet_submitBattleFinishedPushToLeaderboard hQ push roomId
      split <;> rename_i heq <;> rw [heq] at hsubmit
      · exact hsubmit
      · exact hsubmit.trans (quiet_broadcastToRoom ..)
    · exact .refl g

theorem quiet_announceFrame (roomId : String) (g : BridgeRuntime W) (push : Json) :
    Quiet backend Q g (announceFrame p roomId g push).1 := by
  unfold announceFrame
  split
  · exact .refl g
  · rename_i frameNumber _
    have hemit : Quiet backend Q g (g.shouldEmitBattleFramePush roomId frameNumber).1 :=
      g.quiet_shouldEmitBattleFramePush roomId frameNumber
    generalize g.shouldEmitBattleFramePush roomId frameNumber = r at hemit ⊢
    dsimp only
    split_ifs
    · exact hemit.trans (quiet_broadcastToRoom ..)
    · exact hemit

theorem quiet_announceOffload (roomId : String) (g : BridgeRuntime W) (push : Json) :
    Quiet backend Q g (announceOffload p roomId g push).1 := by
  unfold announceOffload
  split
  · exact .refl g
  · split_ifs
    · exact quiet_announceFrame roomId g push
    · exact g.quiet_broadcastToRoom ..
    · exact .refl g

/-! ## Commands that only call and answer -/

theorem quiet_replyError (g : BridgeRuntime W) (c : GatewayCommand) (error : ErrorCode)
    (body : String) : Quiet backend Q g (g.replyError c error body).1 :=
  g.quiet_emit ..

theorem quiet_relay (hQ : Q call) (g : BridgeRuntime W) (c : GatewayCommand)
    (responseId : UInt16) (error : ErrorCode) (fallback : String) :
    Quiet backend Q g (g.relay backend c call responseId error fallback).1 := by
  have hroute : Quiet backend Q g (g.route backend call).1 := g.quiet_route hQ
  unfold relay
  dsimp only
  split_ifs
  · exact hroute.trans (quiet_emit ..)
  · split
    · exact hroute
    · exact hroute.trans (quiet_emit ..)

theorem quiet_bridgeRoute {onOk : BridgeRuntime W → Json → Handled W}
    {onError : BridgeRuntime W → String → Handled W}
    (hok : ∀ g resp, Quiet backend Q g (onOk g resp).1)
    (herror : ∀ g reason, Quiet backend Q g (onError g reason).1) {call : BackendCall}
    (hQ : Q call) (g : BridgeRuntime W) :
    Quiet backend Q g (g.bridgeRoute backend call onOk onError).1 := by
  have hroute : Quiet backend Q g (g.route backend call).1 := g.quiet_route hQ
  unfold bridgeRoute
  dsimp only
  split_ifs
  · split
    · exact hroute
    · exact hroute.trans (hok ..)
    · exact hroute.trans (herror ..)
  · split
    · exact hroute
    · exact hroute.trans (herror ..)

theorem quiet_relayDocument (hQ : Q call) (g : BridgeRuntime W)
    (c : GatewayCommand) (responseId : UInt16) :
    Quiet backend Q g (g.relayDocument p backend c call responseId).1 :=
  quiet_bridgeRoute (fun g _ => g.quiet_emit ..) (fun g _ => g.quiet_replyError ..) hQ g

theorem quiet_roomFailure (g : BridgeRuntime W) (c : GatewayCommand)
    (result : BackendRoutingResult) (rejected : ErrorCode) (rejectedReason : String) :
    Quiet backend Q g (g.roomFailure c result rejected rejectedReason).1 := by
  unfold roomFailure
  split
  · exact .refl g
  · exact g.quiet_replyError ..

/-- The call of `room_ready`. -/
def readyCall (p : Platform) (g : BridgeRuntime W) (c : GatewayCommand) (ready : Bool) :
    BackendCall :=
  ⟨.room, "room_ready", p.dump (.ofMembers
    [("user_id", .string (g.lookup.userIdFor c.sessionId)),
     ("room_id", .string (g.lookup.roomIdFor c.sessionId)), ("ready", .bool ready)])⟩

theorem quiet_roomReady {g : BridgeRuntime W} {c : GatewayCommand}
    (hQ : ∀ ready, Q (g.readyCall p c ready)) :
    Quiet backend Q g (g.roomReady p backend c).1 := by
  unfold roomReady
  dsimp only
  split_ifs
  · exact .refl g
  split
  · exact g.quiet_replyError ..
  split
  · exact g.quiet_replyError ..
  rename_i ready _ _ _
  have hroute : Quiet backend Q g (g.route backend _).1 := g.quiet_route (hQ ready)
  unfold readyCall at hroute
  generalize g.route backend _ = r at hroute ⊢
  split
  · split
    · exact hroute
    · exact hroute.trans (quiet_emit ..)
    · exact hroute.trans (quiet_replyError ..)
  · exact hroute.trans (quiet_roomFailure ..)

/-- The call that names another user. -/
def ownerCall (p : Platform) (g : BridgeRuntime W) (c : GatewayCommand)
    (messageType member : String) : BackendCall :=
  ⟨.room, messageType, p.dump (.ofMembers
    [("user_id", .string (g.lookup.userIdFor c.sessionId)),
     ("room_id", .string (g.lookup.roomIdFor c.sessionId)), (member, .string c.body)])⟩

theorem quiet_roomOwnerCommand {g : BridgeRuntime W} {c : GatewayCommand}
    {messageType member : String} (hQ : Q (g.ownerCall p c messageType member))
    (responseId : UInt16) (fallback : String) :
    Quiet backend Q g (g.roomOwnerCommand p backend c messageType member responseId fallback).1 := by
  unfold roomOwnerCommand
  dsimp only
  split_ifs
  · exact g.quiet_replyError ..
  · exact g.quiet_relay hQ ..

theorem quiet_battleState (hQ : ∀ payload, Q ⟨.battle, "battle_state", payload⟩)
    (g : BridgeRuntime W) (c : GatewayCommand) :
    Quiet backend Q g (g.battleState p backend c).1 := by
  unfold battleState
  dsimp only
  generalize (if c.body = "" then g.battleIdForRoom (g.lookup.roomIdFor c.sessionId)
    else c.body) = requested
  have hroute : Quiet backend Q g (g.route backend _).1 :=
    g.quiet_route (hQ (p.dump (.ofMembers [("battle_id", .string requested)])))
  split_ifs
  · exact .refl g
  · exact g.quiet_replyError ..
  · split
    · exact hroute
    · exact hroute.trans (quiet_replyError ..)
    · exact hroute.trans (quiet_emit ..)
  · split
    · exact hroute
    · exact hroute.trans (quiet_replyError ..)

theorem quiet_matchCommand {messageType : String} {g : BridgeRuntime W} {c : GatewayCommand}
    {members : ParsedMatchCommandBody → List (String × Json)}
    (hQ : ∀ body, body.userId = g.lookup.userIdFor c.sessionId →
      Q ⟨.matchmaking, messageType, p.dump (.ofMembers (members body))⟩) (invalid : String)
    (responseId : UInt16) :
    Quiet backend Q g (g.matchCommand p backend c invalid members messageType responseId).1 := by
  unfold matchCommand
  split
  · exact g.quiet_replyError ..
  · rename_i body hbody
    exact g.quiet_relayDocument (hQ body (by simpa using (Option.filter_eq_some_iff.mp hbody).2)) ..

theorem quiet_register (hQ : ∀ payload, Q ⟨.login, "register_account", payload⟩)
    (g : BridgeRuntime W) (c : GatewayCommand) :
    Quiet backend Q g (g.register p backend c).1 := by
  unfold register
  split
  · exact g.quiet_relay (hQ _) ..
  · exact g.quiet_replyError ..

theorem quiet_roomDetail (hQ : ∀ payload, Q ⟨.room, "room_detail", payload⟩)
    (g : BridgeRuntime W) (c : GatewayCommand) :
    Quiet backend Q g (g.roomDetail p backend c).1 := by
  unfold roomDetail
  split
  · exact g.quiet_replyError ..
  · exact g.quiet_relay (hQ _) ..

theorem quiet_replayLoad (hQ : ∀ payload, Q ⟨.battle, "replay_load", payload⟩)
    (g : BridgeRuntime W) (c : GatewayCommand) :
    Quiet backend Q g (g.replayLoad p backend c).1 := by
  unfold replayLoad
  split_ifs
  · exact .refl g
  · exact g.quiet_replyError ..
  · exact g.quiet_relay (hQ _) ..

/-- The call of a score that a user submits. -/
def submitCall (p : Platform) (userId displayName : String) (score : Int64) : BackendCall :=
  ⟨.leaderboard, "leaderboard_submit", p.dump (.ofMembers
    [("user_id", .string userId), ("display_name", .string displayName),
     ("score", .integer score)])⟩

theorem quiet_leaderboardSubmit {g : BridgeRuntime W} {c : GatewayCommand}
    (hQ : ∀ displayName score,
      Q (submitCall p (g.lookup.userIdFor c.sessionId) displayName score)) :
    Quiet backend Q g (g.leaderboardSubmit p backend c).1 := by
  unfold leaderboardSubmit
  split
  · exact g.quiet_replyError ..
  · rename_i body hbody
    have huser : body.userId = g.lookup.userIdFor c.sessionId := by
      simpa using (Option.filter_eq_some_iff.mp hbody).2
    rw [huser]
    exact g.quiet_relayDocument (hQ ..) ..

theorem quiet_leaderboardTop (hQ : ∀ payload, Q ⟨.leaderboard, "leaderboard_top", payload⟩)
    (g : BridgeRuntime W) (c : GatewayCommand) :
    Quiet backend Q g (g.leaderboardTop p backend c).1 := by
  unfold leaderboardTop
  split_ifs
  · exact g.quiet_replyError ..
  · split
    · exact g.quiet_replyError ..
    · exact g.quiet_relayDocument (hQ _) ..

theorem quiet_leaderboardRank (hQ : ∀ payload, Q ⟨.leaderboard, "leaderboard_rank", payload⟩)
    (g : BridgeRuntime W) (c : GatewayCommand) :
    Quiet backend Q g (g.leaderboardRank p backend c).1 := by
  unfold leaderboardRank
  split_ifs
  · exact g.quiet_replyError ..
  · split
    · exact g.quiet_replyError ..
    · exact g.quiet_relayDocument (hQ _) ..

/-- The commands that change what the gateway keeps of sessions and battles. -/
def changes : GatewayCommandType → Bool
  | .kLogin | .kRoomCreate | .kRoomJoin | .kRoomLeave | .kBattleStart | .kBattleInput => true
  | _ => false

/-- The calls that the command of a session may come to. -/
def commandCalls (p : Platform) (g : BridgeRuntime W) (c : GatewayCommand) (call : BackendCall) :
    Prop :=
  match c.type with
  | .kLogin => call.service = .login ∧ call.messageType = "login_request"
  | .kRegister => call.service = .login ∧ call.messageType = "register_account"
  | .kRoomReady => ∃ ready, call = g.readyCall p c ready
  | .kRoomList => call.service = .room ∧ call.messageType = "room_list"
  | .kRoomDetail => call.service = .room ∧ call.messageType = "room_detail"
  | .kRoomKick => call = g.ownerCall p c "room_kick" "target_user_id"
  | .kRoomTransferOwner => call = g.ownerCall p c "room_transfer_owner" "new_owner_id"
  | .kBattleState => call.service = .battle ∧ call.messageType = "battle_state"
  | .kReplayLoad => call.service = .battle ∧ call.messageType = "replay_load"
  | .kMatchJoin => ∃ mmr mode, call = ⟨.matchmaking, "match_join", p.dump (.ofMembers
      [("user_id", .string (g.lookup.userIdFor c.sessionId)), ("mmr", .integer mmr),
       ("mode", .string mode)])⟩
  | .kMatchLeave => ∃ mode, call = ⟨.matchmaking, "match_leave", p.dump (.ofMembers
      [("user_id", .string (g.lookup.userIdFor c.sessionId)), ("mode", .string mode)])⟩
  | .kMatchStatus => call.service = .matchmaking ∧ call.messageType = "match_status"
  | .kLeaderboardSubmit => ∃ displayName score,
      call = submitCall p (g.lookup.userIdFor c.sessionId) displayName score
  | .kLeaderboardTop => call.service = .leaderboard ∧ call.messageType = "leaderboard_top"
  | .kLeaderboardRank => call.service = .leaderboard ∧ call.messageType = "leaderboard_rank"
  | _ => False

/-- Any other command only calls and answers. -/
theorem quiet_handle (g : BridgeRuntime W) {c : GatewayCommand} (h : changes c.type = false) :
    Quiet backend (g.commandCalls p c) g (g.handle p backend c).1 := by
  unfold handle
  split_ifs
  · cases hc : c.type with
    | kLogin | kRoomCreate | kRoomJoin | kRoomLeave | kBattleStart | kBattleInput =>
      rw [hc] at h
      cases h
    | kHeartbeat | kEcho => exact .refl g
    | kRegister => exact g.quiet_register (by simp [commandCalls, hc]) c
    | kRoomReady => exact quiet_roomReady fun ready => by simp [commandCalls, hc]
    | kRoomList => exact g.quiet_relay (by simp [commandCalls, hc]) ..
    | kRoomDetail => exact g.quiet_roomDetail (by simp [commandCalls, hc]) c
    | kRoomKick | kRoomTransferOwner =>
      exact quiet_roomOwnerCommand (by simp [commandCalls, hc]) ..
    | kBattleState => exact g.quiet_battleState (by simp [commandCalls, hc]) c
    | kReplayLoad => exact g.quiet_replayLoad (by simp [commandCalls, hc]) c
    | kMatchJoin =>
      refine quiet_matchCommand (fun body huser => ?_) ..
      simp only [commandCalls, hc, huser]
      exact ⟨body.mmr, body.mode, rfl⟩
    | kMatchLeave =>
      refine quiet_matchCommand (fun body huser => ?_) ..
      simp only [commandCalls, hc, huser]
      exact ⟨body.mode, rfl⟩
    | kMatchStatus => exact quiet_matchCommand (fun body _ => by simp [commandCalls, hc]) ..
    | kLeaderboardSubmit =>
      exact quiet_leaderboardSubmit fun displayName score => by simp [commandCalls, hc]
    | kLeaderboardTop => exact g.quiet_leaderboardTop (by simp [commandCalls, hc]) c
    | kLeaderboardRank => exact g.quiet_leaderboardRank (by simp [commandCalls, hc]) c
  · exact g.quiet_replyError ..

end BridgeRuntime

end BoostGateway.Gateway
