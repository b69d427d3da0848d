import BoostGateway.Base.Marker
import BoostGateway.Base.Run
import BoostGateway.Classic.RoomManager
import BoostGateway.Gateway.Protocol

/-!
# The classic gateway

The sessions (`session_manager.cpp`), the battles (`battle_manager.cpp`) and the handlers of
the classic gateway that change them and the rooms : `login_service.cpp`,
`room_service.cpp`, `battle_service.cpp` and the cleanup of a closed connection
(`gateway_server.cpp`). A handler is one step.

`Agree` : rooms and sessions agree, and a battle is one of a room that exists. A run keeps
it as long as no session leaves its room by creating or joining another one when it is the
last in a room with a battle, joins a room it is alone in, or takes over a place while it has
one (`ClassicReaches.roomsAgree`).
-/

namespace BoostGateway.Classic

open Gateway

/-! ## Sessions -/

/-- Who is logged in. -/
structure LoginContext where
  userId : String := ""
  displayName : String := ""

/-- A session in the manager. -/
structure SessionRecord where
  sessionId : UInt64 := 0
  session : SessionKey
  loginContext : LoginContext := {}
  authenticated : Bool := false

/-- `SessionManager`. -/
structure SessionManager where
  nextSessionId : UInt64 := 1
  sessions : AList fun _ : SessionKey => SessionRecord := ∅
  userIndex : AList fun _ : String => SessionKey := ∅

namespace SessionManager

variable (m : SessionManager)

/-- `add_session`. -/
def addSession (session : SessionKey) : SessionManager × UInt64 :=
  ({ m with
      nextSessionId := m.nextSessionId + 1
      sessions := m.sessions.insert session { sessionId := m.nextSessionId, session } },
    m.nextSessionId)

/-- The user of a record no longer leads to its session. -/
def forgetUser (key : SessionKey) (record : SessionRecord) : AList fun _ : String => SessionKey :=
  let userId := record.loginContext.userId
  if userId ≠ "" ∧ m.userIndex.lookup userId = some key then m.userIndex.erase userId
  else m.userIndex

/-- `remove_session`. -/
def removeSession (session : SessionKey) : SessionManager :=
  match m.sessions.lookup session with
  | none => m
  | some record =>
    { m with userIndex := m.forgetUser session record, sessions := m.sessions.erase session }

/-- The session is known. -/
def contains (session : SessionKey) : Bool :=
  (m.sessions.lookup session).isSome

/-- `is_authenticated`. -/
def isAuthenticated (session : SessionKey) : Bool :=
  (m.sessions.lookup session).any SessionRecord.authenticated

/-- Who is logged in at the session. -/
def loginContextOf (session : SessionKey) : Option LoginContext :=
  ((m.sessions.lookup session).filter SessionRecord.authenticated).map SessionRecord.loginContext

/-- Returns the session that had the user. -/
def authenticate (session : SessionKey) (context : LoginContext) :
    SessionManager × Option SessionKey :=
  match m.sessions.lookup session with
  | none => (m, none)
  | some record =>
    if context.userId = "" then (m, none)
    else
      let userIndex := m.forgetUser session record
      let old := ((userIndex.lookup context.userId).filter (· ≠ session)).bind fun key =>
        (m.sessions.lookup key).map fun record => (key, record)
      let sessions := match old with
        | none => m.sessions
        | some (key, record) =>
          m.sessions.insert key { record with authenticated := false, loginContext := {} }
      let record := { record with authenticated := true, loginContext := context }
      ({ m with
          sessions := sessions.insert session record
          userIndex := userIndex.insert context.userId session },
        old.map (·.2.session))

end SessionManager

/-! ## Battles -/

/-- An input of a battle. -/
structure InputEvent where
  sequence : UInt64 := 0
  frameNumber : UInt32 := 0
  userId : String := ""
  payload : String := ""

/-- A battle that runs. -/
structure BattleContext where
  playerIds : List String
  nextSequence : UInt64 := 1
  currentFrame : UInt32 := 0
  inputs : List InputEvent := []

/-- What becomes of a start. -/
inductive StartBattleResult
  | kOk
  | kNotInRoom
  | kAlreadyStarted
  | kNotEnoughPlayers
  deriving DecidableEq

/-- The answer to a start. -/
structure StartBattleOutcome where
  result : StartBattleResult
  roomId : String
  playerCount : ℕ

/-- What becomes of an input. -/
inductive SubmitInputResult
  | kOk
  | kBattleNotStarted
  | kPlayerNotInBattle
  deriving DecidableEq

/-- The answer to an input. -/
structure SubmitInputOutcome where
  result : SubmitInputResult := .kBattleNotStarted
  roomId : String := ""
  input : InputEvent := {}

/-- `BattleManager`. -/
structure BattleManager where
  activeBattles : AList fun _ : String => BattleContext := ∅

namespace BattleManager

variable (m : BattleManager)

/-- `battle_started`. -/
def battleStarted (roomId : String) : Bool :=
  (m.activeBattles.lookup roomId).isSome

/-- `start_battle`. -/
def startBattle (roomId : String) (playerIds : List String) : BattleManager × StartBattleOutcome :=
  if roomId = "" then (m, ⟨.kNotInRoom, "", 0⟩)
  else if playerIds.length < 2 then (m, ⟨.kNotEnoughPlayers, roomId, playerIds.length⟩)
  else if m.battleStarted roomId then (m, ⟨.kAlreadyStarted, roomId, playerIds.length⟩)
  else
    ({ activeBattles := m.activeBattles.insert roomId { playerIds } },
      ⟨.kOk, roomId, playerIds.length⟩)

/-- `submit_input`. -/
def submitInput (roomId userId payload : String) : BattleManager × SubmitInputOutcome :=
  match m.activeBattles.lookup roomId with
  | none => (m, {})
  | some battle =>
    if userId ∈ battle.playerIds then
      let input : InputEvent :=
        { sequence := battle.nextSequence, frameNumber := battle.currentFrame, userId, payload }
      let battle := { battle with
        nextSequence := battle.nextSequence + 1
        inputs := battle.inputs ++ [input] }
      ({ activeBattles := m.activeBattles.insert roomId battle },
        { result := .kOk, roomId, input })
    else (m, { result := .kPlayerNotInBattle, roomId })

/-- `remove_room`. -/
def removeRoom (roomId : String) : BattleManager :=
  { activeBattles := m.activeBattles.erase roomId }

end BattleManager

/-- `clear_battle_if_room_empty`. -/
def clearBattleIfRoomEmpty (battles : BattleManager) (rooms : RoomManager) (roomId : String) :
    BattleManager :=
  if rooms.memberCount roomId = 0 then battles.removeRoom roomId else battles

/-! ## Handlers -/

/-- The server of the classic demo. -/
structure GatewayServer where
  sessions : SessionManager := {}
  rooms : RoomManager := {}
  battles : BattleManager := {}

/-- What a handler gets of a packet. -/
structure DispatchContext where
  session : SessionKey
  requestId : UInt32
  body : String

/-- What a token says. -/
structure TokenValidationResult where
  ok : Bool := false
  expired : Bool := false
  userId : String := ""
  displayName : String := ""

/-- `TokenValidator::validate`. -/
abbrev TokenValidator := String → String → Option String → TokenValidationResult

/-- `DevTokenValidator`. -/
def devTokenValidator : TokenValidator := fun userId token displayName =>
  if userId = "" ∨ token = "" then {}
  else if token = "dev" ∨ token = "token:" ++ userId then
    { ok := true, userId, displayName := displayName.getD userId }
  else {}

/-- What a handler sends or closes. -/
inductive Effect
  | send (session : SessionKey) (messageId : UInt16) (requestId : UInt32) (code : ErrorCode)
      (body : String)
  | stop (session : SessionKey)

/-- `send_ok`. -/
def sendOk (session : SessionKey) (messageId : UInt16) (requestId : UInt32) (body : String) :
    Effect :=
  .send session messageId requestId .kOk body

/-- `send_error`. -/
def sendError (session : SessionKey) (requestId : UInt32) (code : ErrorCode) : Effect :=
  .send session kErrorResponse requestId code code.toString

/-- `send_push`. -/
def sendPush (session : SessionKey) (messageId : UInt16) (body : String) : Effect :=
  .send session messageId 0 .kOk body

/-- `split_once`. -/
def splitOnce (body : String) : String × Option String :=
  match cut ['|'] body.toList with
  | none => (body, none)
  | some (action, value) => (String.ofList action, some (String.ofList value))

/-- Whether the body of a ready request says yes. -/
def readyRequested (body : String) : Bool :=
  let (action, value) := splitOnce body
  action = "1" ∨ action = "true" ∨ value = some "1" ∨ value = some "true"

/-- The fields of a login. -/
structure ParsedLoginRequest where
  userId : String
  token : String
  displayName : Option String

/-- `parse_login_request`. -/
def parseLoginRequest (body : String) : Option ParsedLoginRequest :=
  (cut ['|'] body.toList).map fun (userId, rest) =>
    let (token, displayName) := splitOnce (String.ofList rest)
    { userId := String.ofList userId, token, displayName }

namespace GatewayServer

variable (g : GatewayServer) (c : DispatchContext) (first : SessionKey)

/-- `resolve_user_id`. -/
def resolveUserId (member : RoomMember) : String :=
  if member.memberUserId ≠ "" then member.memberUserId
  else ((member.session.bind g.sessions.loginContextOf).map LoginContext.userId).getD "unknown"

/-- `build_room_state_body`. -/
def buildRoomStateBody (snapshot : RoomSnapshot) : String :=
  let members := snapshot.members.map fun m =>
    g.resolveUserId m ++ ":" ++ if m.ready then "1" else "0"
  let ownerUserId := match snapshot.owner with
    | none => "unknown"
    | some owner => ((snapshot.members.find? (·.session = some owner)).map g.resolveUserId).getD
        "unknown"
  "room_state:" ++ snapshot.roomId ++ ":owner=" ++ ownerUserId ++ ":battle=" ++
    (if snapshot.battleStarted then "1" else "0") ++ ":members=" ++ String.intercalate ";" members

/-- To every member but the one left out. -/
def broadcast (members : List (Option SessionKey)) (messageId : UInt16) (body : String)
    (excludeSession : SessionKey) : List Effect :=
  (members.reduceOption.filter (· ≠ excludeSession)).map fun session =>
    sendPush session messageId body

/-- `broadcast_room_state`. -/
def broadcastRoomState (roomId : String) (excludeSession : SessionKey) : List Effect :=
  match g.rooms.roomSnapshot g.battles.battleStarted roomId with
  | none => []
  | some snapshot =>
    broadcast (snapshot.members.map RoomMember.session) kRoomStatePush
      (g.buildRoomStateBody snapshot) excludeSession

/-- `tag_room_member_user_id`. -/
def tagRoomMemberUserId (session : SessionKey) : GatewayServer :=
  match g.sessions.loginContextOf session with
  | none => g
  | some context => { g with rooms := g.rooms.setMemberUserId session context.userId }

/-- A room is created. -/
def handleCreate : GatewayServer × List Effect :=
  if g.sessions.isAuthenticated c.session then
    match g.rooms.createRoom (some c.session) c.body first with
    | (rooms, .kOk, outcome) =>
      let g := { g with rooms }.tagRoomMemberUserId c.session
      (g, sendOk c.session kRoomCreateResponse c.requestId ("room_created:" ++ outcome.roomId) ::
        g.broadcastRoomState outcome.roomId c.session)
    | (rooms, .kInvalidRoomId, _) =>
      ({ g with rooms }, [sendError c.session c.requestId .kInvalidRoomId])
    | (rooms, .kRoomAlreadyExists, _) =>
      ({ g with rooms }, [sendError c.session c.requestId .kRoomAlreadyExists])
    | (rooms, .kSessionNotFound, _) =>
      ({ g with rooms }, [sendError c.session c.requestId .kSessionNotFound])
  else (g, [sendError c.session c.requestId .kAuthRequired])

/-- A room is joined. -/
def handleJoin : GatewayServer × List Effect :=
  if g.sessions.isAuthenticated c.session then
    match g.rooms.joinRoom g.battles.battleStarted (some c.session) c.body first with
    | (rooms, .kOk, outcome) =>
      let g := { g with rooms }.tagRoomMemberUserId c.session
      (g, sendOk c.session kRoomJoinResponse c.requestId
          ("room_joined:" ++ outcome.roomId ++ ":" ++ toString outcome.playerCount) ::
        g.broadcastRoomState outcome.roomId c.session)
    | (rooms, .kInvalidRoomId, _) =>
      ({ g with rooms }, [sendError c.session c.requestId .kInvalidRoomId])
    | (rooms, .kRoomNotFound, _) =>
      ({ g with rooms }, [sendError c.session c.requestId .kRoomNotFound])
    | (rooms, .kRoomInBattle, _) =>
      ({ g with rooms }, [sendError c.session c.requestId .kRoomInBattle])
    | (rooms, .kSessionNotFound, _) =>
      ({ g with rooms }, [sendError c.session c.requestId .kSessionNotFound])
  else (g, [sendError c.session c.requestId .kAuthRequired])

/-- The room is left. -/
def handleLeave : GatewayServer × List Effect :=
  let currentRoomId := g.rooms.roomIdOf c.session
  match g.rooms.leaveRoom (some c.session) first with
  | (rooms, .kOk, outcome) =>
    let g := { g with rooms, battles := clearBattleIfRoomEmpty g.battles rooms outcome.roomId }
    (g, sendOk c.session kRoomLeaveResponse c.requestId ("room_left:" ++ outcome.roomId) ::
      (currentRoomId.map (g.broadcastRoomState · c.session)).getD [])
  | (rooms, .kNotInRoom, _) => ({ g with rooms }, [sendError c.session c.requestId .kNotInRoom])
  | (rooms, .kSessionNotFound, _) =>
    ({ g with rooms }, [sendError c.session c.requestId .kSessionNotFound])

/-- The session is ready, or no longer. -/
def handleReady : GatewayServer × List Effect :=
  let ready := readyRequested c.body
  match g.rooms.setReady g.battles.battleStarted (some c.session) ready with
  | (rooms, .kOk, outcome) =>
    let g := { g with rooms }
    (g, sendOk c.session kRoomReadyResponse c.requestId
        (if ready then "room_ready:on" else "room_ready:off") ::
      g.broadcastRoomState outcome.roomId c.session)
  | (rooms, .kNotInRoom, _) => ({ g with rooms }, [sendError c.session c.requestId .kNotInRoom])
  | (rooms, .kRoomInBattle, _) =>
    ({ g with rooms }, [sendError c.session c.requestId .kRoomInBattle])
  | (rooms, .kSessionNotFound, _) =>
    ({ g with rooms }, [sendError c.session c.requestId .kSessionNotFound])

/-- The users of the members; none when one that has a user is not ready. -/
def playerIds : List RoomMember → Option (List String)
  | [] => some []
  | member :: members =>
    let uid := if member.memberUserId ≠ "" then some member.memberUserId
      else (member.session.bind g.sessions.loginContextOf).map LoginContext.userId
    match uid with
    | none => playerIds members
    | some uid => if member.ready then (playerIds members).map (uid :: ·) else none

/-- The battle of the room starts. -/
def handleBattleStart : GatewayServer × List Effect :=
  let refuse (code : ErrorCode) := [sendError c.session c.requestId code]
  if g.sessions.isAuthenticated c.session then
    match g.rooms.roomSnapshotOf g.battles.battleStarted c.session with
    | none => (g, refuse .kNotInRoom)
    | some snapshot =>
      if snapshot.owner = some c.session then
        match g.playerIds snapshot.members with
        | none => (g, refuse .kNotAllReady)
        | some playerIds =>
          match g.battles.startBattle snapshot.roomId playerIds with
          | (battles, ⟨.kOk, roomId, playerCount⟩) =>
            let text := roomId ++ ":" ++ toString playerCount
            ({ g with battles },
              sendOk c.session kBattleStartResponse c.requestId ("battle_started:" ++ text) ::
                broadcast (g.rooms.roomMembers roomId) kBattleStatePush
                  ("battle_state:started:" ++ text) c.session)
          | (battles, ⟨.kNotEnoughPlayers, _, _⟩) => ({ g with battles }, refuse .kNotEnoughPlayers)
          | (battles, ⟨.kAlreadyStarted, _, _⟩) =>
            ({ g with battles }, refuse .kBattleAlreadyStarted)
          | (battles, ⟨.kNotInRoom, _, _⟩) => ({ g with battles }, refuse .kNotInRoom)
      else (g, refuse .kNotRoomOwner)
  else (g, refuse .kAuthRequired)

/-- An input for the battle. -/
def handleBattleInput : GatewayServer × List Effect :=
  let refuse (code : ErrorCode) := [sendError c.session c.requestId code]
  match g.rooms.roomIdOf c.session, g.sessions.loginContextOf c.session with
  | some roomId, some loginContext =>
    match g.battles.submitInput roomId loginContext.userId c.body with
    | (battles, ⟨.kOk, roomId, input⟩) =>
      let sequence := toString input.sequence.toNat
      ({ g with battles },
        sendOk c.session kBattleInputResponse c.requestId
            ("battle_input_accepted:" ++ roomId ++ ":" ++ sequence) ::
          broadcast (g.rooms.roomMembers roomId) kBattleInputPush
            ("battle_input:" ++ roomId ++ ":" ++ input.userId ++ ":" ++ sequence ++ ":" ++
              input.payload) c.session)
    | (battles, ⟨.kBattleNotStarted, _, _⟩) => ({ g with battles }, refuse .kBattleNotStarted)
    | (battles, ⟨.kPlayerNotInBattle, _, _⟩) => ({ g with battles }, refuse .kPlayerNotInBattle)
  | _, _ => (g, refuse .kNotInRoom)

/-- A login with a validated user. -/
def logIn (user : TokenValidationResult) : GatewayServer × List Effect :=
  let (sessions, replaced) :=
    g.sessions.authenticate c.session { userId := user.userId, displayName := user.displayName }
  let g := { g with sessions }
  let (g, kick) := match replaced.filter (· ≠ c.session) with
    | none => (g, [])
    | some old =>
      let (rooms, transferred) := g.rooms.transferSession old c.session
      ({ g with rooms },
        [sendPush old kSessionKickedPush ("session_kicked:duplicate_login" ++
            if transferred then ":room_transferred" else ""),
          .stop old])
  let text := "login_ok:" ++ user.userId ++ ":" ++ user.displayName
  match g.rooms.roomSnapshotOf g.battles.battleStarted c.session with
  | none => (g, kick ++ [sendOk c.session kLoginResponse c.requestId text])
  | some room =>
    (g, kick ++
      [sendOk c.session kLoginResponse c.requestId (text ++ ":room=" ++ room.roomId),
        sendPush c.session kSessionResumedPush ("session_resumed:" ++ room.roomId ++
          if room.battleStarted then ":battle=1" else ":battle=0")])

/-- The user that a login is validated for. -/
def validated (validate : TokenValidator) (body : String) :
    Except ErrorCode TokenValidationResult :=
  match parseLoginRequest body with
  | none => .error .kInvalidUserId
  | some request =>
    if request.userId = "" then .error .kInvalidUserId
    else
      let user := validate request.userId request.token request.displayName
      if user.ok then .ok user
      else .error (if user.expired then .kTokenExpired else .kInvalidToken)

/-- A login, which may displace another session. -/
def handleLogin (validate : TokenValidator) : GatewayServer × List Effect :=
  match validated validate c.body with
  | .error code => (g, [sendError c.session c.requestId code])
  | .ok user => g.logIn c user

/-- `release_session_state`. -/
def releaseSessionState (session : SessionKey) : GatewayServer :=
  if g.sessions.contains session then
    let roomId := g.rooms.roomIdOf session
    let rooms := g.rooms.removeSession session first
    let battles := match roomId with
      | none => g.battles
      | some roomId => clearBattleIfRoomEmpty g.battles rooms roomId
    { sessions := g.sessions.removeSession session, rooms, battles }
  else g

end GatewayServer

/-! ## Runs -/

/-- `first` is the member that comes first in the room that the session leaves. -/
inductive ClassicEvent
  /-- A connection is accepted; its session has an address of its own. -/
  | connect (session : SessionKey)
  | create (c : DispatchContext) (first : SessionKey)
  | join (c : DispatchContext) (first : SessionKey)
  | leave (c : DispatchContext) (first : SessionKey)
  | ready (c : DispatchContext)
  | battleStart (c : DispatchContext)
  | battleInput (c : DispatchContext)
  | login (c : DispatchContext)
  | close (session first : SessionKey)

namespace GatewayServer

variable (validate : TokenValidator) (g : GatewayServer)

/-- A connection, its end, or a message. -/
def step : ClassicEvent → Option GatewayServer
  | .connect session =>
    if g.sessions.contains session then none
    else some { g with sessions := (g.sessions.addSession session).1 }
  | .create c first => some (g.handleCreate c first).1
  | .join c first => some (g.handleJoin c first).1
  | .leave c first => some (g.handleLeave c first).1
  | .ready c => some (g.handleReady c).1
  | .battleStart c => some (g.handleBattleStart c).1
  | .battleInput c => some (g.handleBattleInput c).1
  | .login c => some (g.handleLogin c validate).1
  | .close session first => some (g.releaseSessionState first session)

/-- The gateways that events lead to, from one without connections. -/
abbrev ClassicReaches (ok : GatewayServer → ClassicEvent → Prop) : GatewayServer → Prop :=
  Reaches (fun g => g = {}) (fun g => step validate g) ok

/-- Sessions and rooms agree, and a battle is one of a room that exists. -/
structure Agree (g : GatewayServer) : Prop where
  rooms : g.rooms.Sound
  battles : ∀ r, g.battles.battleStarted r → (g.rooms.rooms.lookup r).isSome

/-- A session that is the last one in a room with a battle does not leave it for another. -/
def LeavesNoBattle (s : SessionKey) : Prop :=
  ∀ r ∈ g.rooms.roomIdOf s, g.rooms.Alone s r → g.battles.battleStarted r = false

instance (s : SessionKey) : Decidable (g.LeavesNoBattle s) :=
  inferInstanceAs (Decidable (∀ r ∈ g.rooms.roomIdOf s, _ → _ = _))

/-- The session that a login displaces is not in another room than the new session. -/
def TakesNoSecondRoom (s : SessionKey) (user : TokenValidationResult) : Prop :=
  let context := { userId := user.userId, displayName := user.displayName }
  ∀ old ∈ (g.sessions.authenticate s context).2, ∀ r ∈ g.rooms.roomIdOf old,
    ∀ q ∈ g.rooms.roomIdOf s, q = r

instance (s : SessionKey) (user : TokenValidationResult) :
    Decidable (g.TakesNoSecondRoom s user) :=
  inferInstanceAs (Decidable (∀ old ∈ (g.sessions.authenticate s _).2, _))

/-- What an event has to meet, in the state before it. -/
def KeepsAgree : ClassicEvent → Prop
  | .create c _ =>
    g.sessions.isAuthenticated c.session → c.body ≠ "" →
      (g.rooms.rooms.lookup c.body).isSome = false → g.LeavesNoBattle c.session
  | .join c _ =>
    g.sessions.isAuthenticated c.session → c.body ≠ "" → (g.rooms.rooms.lookup c.body).isSome →
      g.battles.battleStarted c.body = false →
        ¬g.rooms.Alone c.session c.body ∧ g.LeavesNoBattle c.session
  | .login c => ∀ user ∈ (validated validate c.body).toOption, g.TakesNoSecondRoom c.session user
  | _ => True

instance (event : ClassicEvent) : Decidable (g.KeepsAgree validate event) :=
  match event with
  | .create _ _ => inferInstanceAs (Decidable (_ → _ ≠ _ → _ = _ → LeavesNoBattle _ _))
  | .join _ _ => inferInstanceAs (Decidable (_ → _ ≠ _ → _ → _ = _ → ¬_ ∧ LeavesNoBattle _ _))
  | .login _ => inferInstanceAs (Decidable (∀ user ∈ Except.toOption _, TakesNoSecondRoom _ _ user))
  | .connect _ | .leave _ _ | .ready _ | .battleStart _ | .battleInput _ | .close _ _ =>
    inferInstanceAs (Decidable True)

/-! ## What a handler does to rooms and battles -/

variable {validate g} {c : DispatchContext} {first s : SessionKey} {q r : String}

theorem Agree.tagRoomMemberUserId (h : g.Agree) (s : SessionKey) :
    (g.tagRoomMemberUserId s).Agree := by
  unfold GatewayServer.tagRoomMemberUserId
  split
  · exact h
  · exact ⟨h.rooms.setMemberUserId s _, fun r hr =>
      RoomManager.isSome_setMemberUserId _ (h.battles r hr)⟩

/-- The room of a battle stays when the session has others beside it. -/
theorem Agree.not_alone (h : g.LeavesNoBattle s) (hr : g.battles.battleStarted r) :
    ¬g.rooms.Alone s r := by
  intro ha
  rw [h r ha.1 ha] at hr
  cases hr

theorem agree_create (h : g.Agree) (hok : g.KeepsAgree validate (.create c first)) :
    (g.handleCreate c first).1.Agree := by
  unfold handleCreate
  split_ifs with hauth
  · have hsound := h.rooms.createRoom (some c.session) c.body first
    have hstay : ∀ r, g.battles.battleStarted r →
        ((g.rooms.createRoom (some c.session) c.body first).1.rooms.lookup r).isSome := by
      intro r hr
      refine RoomManager.isSome_createRoom h.rooms first (h.battles r hr) fun ha => ?_
      by_contra hno
      push Not at hno
      exact Agree.not_alone (hok hauth hno.1 (by simpa using hno.2)) hr ha
    generalize g.rooms.createRoom (some c.session) c.body first = answer at hsound hstay
    obtain ⟨rooms, result, outcome⟩ := answer
    have hrooms : Agree { g with rooms } := ⟨hsound, hstay⟩
    cases result with
    | kOk => exact hrooms.tagRoomMemberUserId c.session
    | kInvalidRoomId | kRoomAlreadyExists | kSessionNotFound => exact hrooms
  · exact h

theorem agree_join (h : g.Agree) (hok : g.KeepsAgree validate (.join c first)) :
    (g.handleJoin c first).1.Agree := by
  unfold handleJoin
  split_ifs with hauth
  · have hsound : (g.rooms.joinRoom g.battles.battleStarted (some c.session) c.body
        first).1.Sound := by
      refine h.rooms.joinRoom first fun hbody hbattle key hkey ha => ?_
      obtain rfl := Option.some.inj hkey
      exact (hok hauth hbody ha.isSome hbattle).1 ha
    have hstay : ∀ r, g.battles.battleStarted r → ((g.rooms.joinRoom g.battles.battleStarted
        (some c.session) c.body first).1.rooms.lookup r).isSome := by
      intro r hr
      refine RoomManager.isSome_joinRoom h.rooms first (h.battles r hr) fun ha => ?_
      by_contra hno
      push Not at hno
      obtain ⟨hbody, hfind, hbattle⟩ := hno
      have hkeeps := hok hauth hbody (Bool.eq_true_of_not_eq_false hfind) (by simpa using hbattle)
      exact Agree.not_alone hkeeps.2 hr ha
    generalize g.rooms.joinRoom g.battles.battleStarted (some c.session) c.body first = answer
      at hsound hstay
    obtain ⟨rooms, result, outcome⟩ := answer
    have hrooms : Agree { g with rooms } := ⟨hsound, hstay⟩
    cases result with
    | kOk => exact hrooms.tagRoomMemberUserId c.session
    | kInvalidRoomId | kRoomNotFound | kRoomInBattle | kSessionNotFound => exact hrooms
  · exact h

theorem battleStarted_clearBattleIfRoomEmpty {battles : BattleManager} {rooms : RoomManager}
    (h : (clearBattleIfRoomEmpty battles rooms r).battleStarted q) :
    battles.battleStarted q ∧ (q = r → rooms.memberCount r ≠ 0) := by
  unfold clearBattleIfRoomEmpty at h
  split_ifs at h with hcount
  · have hq : q ≠ r := by
      rintro rfl
      simp [BattleManager.removeRoom, BattleManager.battleStarted] at h
    refine ⟨?_, fun heq => absurd heq hq⟩
    rwa [BattleManager.removeRoom, BattleManager.battleStarted, AList.lookup_erase_ne hq] at h
  · exact ⟨h, fun _ => hcount⟩

/-- A session leaves its room, and the battle with it where it was the last one. -/
theorem Agree.leave (h : g.Agree) (hroom : g.rooms.roomIdOf s = some r)
    (sessions : SessionManager) :
    Agree
      { sessions, rooms := g.rooms.removeFromRoom s first
        battles := clearBattleIfRoomEmpty g.battles (g.rooms.removeFromRoom s first) r } where
  rooms := h.rooms.removeFromRoom s first
  battles q hq := by
    obtain ⟨hstarted, hcount⟩ := battleStarted_clearBattleIfRoomEmpty hq
    by_cases hqr : q = r
    · rw [hqr]
      exact RoomManager.isSome_of_memberCount (hcount hqr)
    · refine RoomManager.isSome_removeFromRoom h.rooms first (h.battles q hstarted) fun ha => hqr ?_
      exact Option.some.inj (ha.1.symm.trans hroom)

theorem agree_leave (h : g.Agree) : (g.handleLeave c first).1.Agree := by
  unfold handleLeave RoomManager.leaveRoom
  dsimp only
  cases hroom : g.rooms.sessionRooms.lookup c.session with
  | none => exact h
  | some r => exact h.leave hroom g.sessions

theorem agree_close (h : g.Agree) : (g.releaseSessionState first s).Agree := by
  unfold releaseSessionState
  split_ifs
  · cases hroom : g.rooms.roomIdOf s with
    | none =>
      have hsame : g.rooms.removeSession s first = g.rooms :=
        RoomManager.removeFromRoom_of_none hroom
      dsimp only
      rw [hsame]
      exact ⟨h.rooms, h.battles⟩
    | some r => exact h.leave hroom (g.sessions.removeSession s)
  · exact h

theorem agree_ready (h : g.Agree) : (g.handleReady c).1.Agree := by
  unfold handleReady
  dsimp only
  generalize readyRequested c.body = ready
  have hsound := h.rooms.setReady g.battles.battleStarted (some c.session) ready
  have hstay : ∀ r, g.battles.battleStarted r → ((g.rooms.setReady g.battles.battleStarted
      (some c.session) ready).1.rooms.lookup r).isSome := fun r hr =>
    RoomManager.isSome_setReady ready (h.battles r hr)
  generalize g.rooms.setReady g.battles.battleStarted (some c.session) ready = answer
    at hsound hstay
  obtain ⟨rooms, result, outcome⟩ := answer
  have hrooms : Agree { g with rooms } := ⟨hsound, hstay⟩
  cases result with
  | kOk | kNotInRoom | kRoomInBattle | kSessionNotFound => exact hrooms

theorem battleStarted_startBattle {m : BattleManager} {ids : List String}
    (h : (m.startBattle r ids).1.battleStarted q) : q = r ∨ m.battleStarted q := by
  unfold BattleManager.startBattle at h
  split_ifs at h
  · exact Or.inr h
  · exact Or.inr h
  · exact Or.inr h
  · by_cases hq : q = r
    · exact Or.inl hq
    · rw [BattleManager.battleStarted, AList.lookup_insert_ne hq] at h
      exact Or.inr h

theorem isSome_of_roomSnapshotOf {m : RoomManager} {inBattle : String → Bool}
    {snapshot : RoomSnapshot} (h : m.roomSnapshotOf inBattle s = some snapshot) :
    (m.rooms.lookup snapshot.roomId).isSome := by
  obtain ⟨r, -, h⟩ := Option.bind_eq_some_iff.mp h
  obtain ⟨room, hfind, rfl⟩ := Option.map_eq_some_iff.mp h
  rw [hfind]
  rfl

theorem agree_battleStart (h : g.Agree) : (g.handleBattleStart c).1.Agree := by
  unfold handleBattleStart
  dsimp only
  split_ifs
  · split
    · exact h
    · rename_i snapshot hsnapshot
      split_ifs
      · split
        · exact h
        · rename_i ids _
          have hstay : ∀ r, (g.battles.startBattle snapshot.roomId ids).1.battleStarted r →
              (g.rooms.rooms.lookup r).isSome := by
            intro r hr
            rcases battleStarted_startBattle hr with rfl | hr
            · exact isSome_of_roomSnapshotOf hsnapshot
            · exact h.battles r hr
          generalize g.battles.startBattle snapshot.roomId ids = answer at hstay
          obtain ⟨battles, result, roomId, count⟩ := answer
          have hbattles : Agree { g with battles } := ⟨h.rooms, hstay⟩
          cases result with
          | kOk | kNotInRoom | kAlreadyStarted | kNotEnoughPlayers => exact hbattles
      · exact h
  · exact h

theorem battleStarted_submitInput {m : BattleManager} {userId payload : String}
    (h : (m.submitInput r userId payload).1.battleStarted q) : m.battleStarted q := by
  unfold BattleManager.submitInput at h
  split at h
  · exact h
  · rename_i battle hbattle
    split_ifs at h
    · by_cases hq : q = r
      · rw [hq, BattleManager.battleStarted, hbattle]
        rfl
      · rwa [BattleManager.battleStarted, AList.lookup_insert_ne hq] at h
    · exact h

theorem agree_battleInput (h : g.Agree) : (g.handleBattleInput c).1.Agree := by
  unfold handleBattleInput
  dsimp only
  split
  · rename_i roomId context _ _
    have hstay : ∀ r, (g.battles.submitInput roomId context.userId c.body).1.battleStarted r →
        (g.rooms.rooms.lookup r).isSome := fun r hr => h.battles r (battleStarted_submitInput hr)
    generalize g.battles.submitInput roomId context.userId c.body = answer at hstay
    obtain ⟨battles, result, roomId', input⟩ := answer
    have hbattles : Agree { g with battles } := ⟨h.rooms, hstay⟩
    cases result with
    | kOk | kBattleNotStarted | kPlayerNotInBattle => exact hbattles
  · exact h

theorem Agree.logIn (h : g.Agree) {user : TokenValidationResult}
    (hok : g.TakesNoSecondRoom c.session user) : (g.logIn c user).1.Agree := by
  unfold GatewayServer.logIn
  dsimp only
  have hto := hok
  unfold TakesNoSecondRoom at hto
  dsimp only at hto
  generalize g.sessions.authenticate c.session _ = answer at hto
  obtain ⟨sessions, replaced⟩ := answer
  cases hold : replaced.filter (· ≠ c.session) with
  | none =>
    dsimp only
    split <;> exact ⟨h.rooms, h.battles⟩
  | some old =>
    obtain ⟨hmem, -⟩ := Option.filter_eq_some_iff.mp hold
    have hmoved : Agree
        { g with sessions, rooms := (g.rooms.transferSession old c.session).1 } :=
      ⟨h.rooms.transferSession fun r q hr hq => hto old hmem r hr q hq, fun r hr =>
        RoomManager.isSome_transferSession (h.battles r hr)⟩
    dsimp only
    split <;> exact hmoved

theorem agree_login (h : g.Agree) (hok : g.KeepsAgree validate (.login c)) :
    (g.handleLogin c validate).1.Agree := by
  unfold handleLogin
  cases hvalid : validated validate c.body with
  | error code => exact h
  | ok user => exact h.logIn (hok user (by rw [hvalid]; rfl))

/-- Every run that meets the conditions keeps sessions, rooms and battles together. -/
theorem ClassicReaches.roomsAgree (h : ClassicReaches validate (KeepsAgree validate) g) :
    g.Agree := by
  refine h.invariant ?_ fun g event g' hg hok hstep => ?_
  · rintro g rfl
    exact ⟨RoomManager.sound_empty, fun r hr => by simp [BattleManager.battleStarted] at hr⟩
  · cases event with
    | connect session =>
      rw [step] at hstep
      split_ifs at hstep
      obtain rfl := Option.some.inj hstep
      exact ⟨hg.rooms, hg.battles⟩
    | create c first => exact Option.some.inj hstep ▸ agree_create hg hok
    | join c first => exact Option.some.inj hstep ▸ agree_join hg hok
    | leave c first => exact Option.some.inj hstep ▸ agree_leave hg
    | ready c => exact Option.some.inj hstep ▸ agree_ready hg
    | battleStart c => exact Option.some.inj hstep ▸ agree_battleStart hg
    | battleInput c => exact Option.some.inj hstep ▸ agree_battleInput hg
    | login c => exact Option.some.inj hstep ▸ agree_login hg hok
    | close session first => exact Option.some.inj hstep ▸ agree_close hg

/-- Two users start a battle. -/
def battleEvents : List ClassicEvent :=
  [.connect 1, .connect 2, .login ⟨1, 1, "alice|dev"⟩, .login ⟨2, 1, "bob|dev"⟩,
    .create ⟨1, 2, "r1"⟩ 0, .join ⟨2, 2, "r1"⟩ 0, .ready ⟨1, 3, "1"⟩, .ready ⟨2, 3, "true"⟩,
    .battleStart ⟨1, 4, ""⟩]

theorem reaches_empty {ok : GatewayServer → ClassicEvent → Prop} :
    ClassicReaches devTokenValidator ok {} :=
  .init rfl

/-- One of them logs in again, the other one goes to a new room and the battle goes on. -/
theorem agree_battle : ∃ g : GatewayServer, g.battles.battleStarted "r1" ∧
    g.rooms.roomIdOf 3 = some "r1" ∧ g.rooms.roomIdOf 1 = some "r2" ∧ g.Agree := by
  obtain ⟨g, hg, hstarted, hold, hnew⟩ : ∃ g : GatewayServer,
      ClassicReaches devTokenValidator (KeepsAgree devTokenValidator) g ∧
        g.battles.battleStarted "r1" ∧ g.rooms.roomIdOf 3 = some "r1" ∧
          g.rooms.roomIdOf 1 = some "r2" :=
    reaches_empty.exists_runWith
      (battleEvents ++ ([.connect 3, .login ⟨3, 1, "bob|token:bob"⟩, .create ⟨1, 5, "r2"⟩ 3] :
        List ClassicEvent))
      (by decide +kernel)
  exact ⟨g, hstarted, hold, hnew, ClassicReaches.roomsAgree hg⟩

/-- The last one in a room with a battle creates another room. -/
theorem not_agree_create : ¬∀ validate (g : GatewayServer),
    ClassicReaches validate (fun _ _ => True) g → g.Agree := by
  intro h
  obtain ⟨g, hg, hstarted, hgone⟩ : ∃ g : GatewayServer,
      ClassicReaches devTokenValidator (fun _ _ => True) g ∧ g.battles.battleStarted "r1" ∧
        (g.rooms.rooms.lookup "r1").isSome = false :=
    reaches_empty.exists_runWith
      (battleEvents ++ ([.leave ⟨2, 4, ""⟩ 0, .create ⟨1, 5, "r2"⟩ 0] : List ClassicEvent))
      (by decide +kernel)
  rw [(h _ g hg).battles "r1" hstarted] at hgone
  cases hgone

end GatewayServer

end BoostGateway.Classic
