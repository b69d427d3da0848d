import BoostGateway.Battle.World

/-!
# The client protocol

The messages of a client, the codes and texts of the answers (`net/protocol.h`,
`message_types.h`), the roles of a session (`authorizer.h`), the readers of the command
bodies (`gateway_command_parser.cpp`) and the texts of the battle messages
(`battle_protocol_codec.cpp`).
-/

namespace BoostGateway.Gateway

open Battle

/-- The number of a session. -/
abbrev SessionId := UInt64

/-! ## Message ids -/

/-- The numbers of the messages (`protocol.h`). -/
def kHeartbeatRequest : UInt16 := 1
def kHeartbeatResponse : UInt16 := 2
def kEchoRequest : UInt16 := 1001
def kEchoResponse : UInt16 := 1002
def kSessionKickedPush : UInt16 := 1003
def kSessionResumedPush : UInt16 := 1004
def kLoginRequest : UInt16 := 2001
def kLoginResponse : UInt16 := 2002
def kRegisterRequest : UInt16 := 2003
def kRegisterResponse : UInt16 := 2004
def kRoomCreateRequest : UInt16 := 3001
def kRoomCreateResponse : UInt16 := 3002
def kRoomJoinRequest : UInt16 := 3003
def kRoomJoinResponse : UInt16 := 3004
def kRoomLeaveRequest : UInt16 := 3005
def kRoomLeaveResponse : UInt16 := 3006
def kRoomReadyRequest : UInt16 := 3007
def kRoomReadyResponse : UInt16 := 3008
def kRoomStatePush : UInt16 := 3009
def kRoomListRequest : UInt16 := 3010
def kRoomListResponse : UInt16 := 3011
def kRoomDetailRequest : UInt16 := 3012
def kRoomDetailResponse : UInt16 := 3013
def kRoomKickRequest : UInt16 := 3014
def kRoomKickResponse : UInt16 := 3015
def kRoomTransferOwnerRequest : UInt16 := 3016
def kRoomTransferOwnerResponse : UInt16 := 3017
def kBattleStartRequest : UInt16 := 4001
def kBattleStartResponse : UInt16 := 4002
def kBattleInputRequest : UInt16 := 4003
def kBattleInputResponse : UInt16 := 4004
def kBattleInputPush : UInt16 := 4005
def kBattleStatePush : UInt16 := 4006
def kBattleStateRequest : UInt16 := 4007
def kBattleStateResponse : UInt16 := 4008
def kReplayLoadRequest : UInt16 := 4009
def kReplayLoadResponse : UInt16 := 4010
def kMatchJoinRequest : UInt16 := 6001
def kMatchJoinResponse : UInt16 := 6002
def kMatchFoundPush : UInt16 := 6003
def kMatchLeaveRequest : UInt16 := 6004
def kMatchLeaveResponse : UInt16 := 6005
def kMatchStatusRequest : UInt16 := 6006
def kMatchStatusResponse : UInt16 := 6007
def kLeaderboardSubmitRequest : UInt16 := 7001
def kLeaderboardSubmitResponse : UInt16 := 7002
def kLeaderboardTopRequest : UInt16 := 7003
def kLeaderboardTopResponse : UInt16 := 7004
def kLeaderboardRankRequest : UInt16 := 7005
def kLeaderboardRankResponse : UInt16 := 7006
def kErrorResponse : UInt16 := 9001

/-- The codes of `net/protocol.h` that the gateway answers with. -/
inductive ErrorCode
  | kOk
  | kAuthRequired
  | kInvalidUserId
  | kInvalidToken
  | kDuplicateLogin
  | kInvalidRoomId
  | kRoomAlreadyExists
  | kRoomNotFound
  | kRoomInBattle
  | kNotInRoom
  | kNotRoomOwner
  | kNotAllReady
  | kNotEnoughPlayers
  | kBattleAlreadyStarted
  | kBattleNotStarted
  | kPlayerNotInBattle
  | kTokenExpired
  | kLoginBackendUnavailable
  | kRoomBackendUnavailable
  | kBattleBackendUnavailable
  | kRateLimited
  | kSessionNotFound
  deriving DecidableEq, Repr

/-- The number of a code. -/
def ErrorCode.toInt32 : ErrorCode → Int32
  | .kOk => 0
  | .kAuthRequired => 1001
  | .kInvalidUserId => 1002
  | .kInvalidToken => 1003
  | .kDuplicateLogin => 1004
  | .kInvalidRoomId => 2001
  | .kRoomAlreadyExists => 2002
  | .kRoomNotFound => 2003
  | .kRoomInBattle => 2004
  | .kNotInRoom => 2005
  | .kNotRoomOwner => 2006
  | .kNotAllReady => 2007
  | .kNotEnoughPlayers => 3001
  | .kBattleAlreadyStarted => 3002
  | .kBattleNotStarted => 3003
  | .kPlayerNotInBattle => 3004
  | .kTokenExpired => 1005
  | .kLoginBackendUnavailable => 2008
  | .kRoomBackendUnavailable => 2009
  | .kBattleBackendUnavailable => 3010
  | .kRateLimited => 9001
  | .kSessionNotFound => 9002

/-- The text of a code. -/
def ErrorCode.toString : ErrorCode → String
  | .kOk => "ok"
  | .kAuthRequired => "auth_required"
  | .kInvalidUserId => "invalid_user_id"
  | .kInvalidToken => "invalid_token"
  | .kDuplicateLogin => "duplicate_login"
  | .kInvalidRoomId => "invalid_room_id"
  | .kRoomAlreadyExists => "room_already_exists"
  | .kRoomNotFound => "room_not_found"
  | .kRoomInBattle => "room_in_battle"
  | .kNotInRoom => "not_in_room"
  | .kNotRoomOwner => "not_room_owner"
  | .kNotAllReady => "not_all_ready"
  | .kNotEnoughPlayers => "not_enough_players"
  | .kBattleAlreadyStarted => "battle_already_started"
  | .kBattleNotStarted => "battle_not_started"
  | .kPlayerNotInBattle => "player_not_in_battle"
  | .kTokenExpired => "token_expired"
  | .kLoginBackendUnavailable => "login_backend_unavailable"
  | .kRoomBackendUnavailable => "room_backend_unavailable"
  | .kBattleBackendUnavailable => "battle_backend_unavailable"
  | .kRateLimited => "rate_limited"
  | .kSessionNotFound => "session_not_found"

/-- A message of a client. -/
structure ClientEnvelope where
  sessionId : SessionId
  protocolMessageId : UInt16
  requestId : UInt32 := 0
  errorCode : Int32 := 0
  flags : UInt8 := 0
  body : String := ""
  deriving DecidableEq

/-- A message to a client. -/
abbrev SessionWrite := ClientEnvelope

/-- What a client may ask for. -/
inductive GatewayCommandType
  | kHeartbeat
  | kEcho
  | kLogin
  | kRegister
  | kRoomCreate
  | kRoomJoin
  | kRoomReady
  | kRoomLeave
  | kRoomList
  | kRoomDetail
  | kRoomKick
  | kRoomTransferOwner
  | kBattleStart
  | kBattleInput
  | kBattleState
  | kReplayLoad
  | kMatchJoin
  | kMatchLeave
  | kMatchStatus
  | kLeaderboardSubmit
  | kLeaderboardTop
  | kLeaderboardRank
  deriving DecidableEq, Repr

/-- A message as a command. -/
structure GatewayCommand where
  sessionId : SessionId
  type : GatewayCommandType
  protocolMessageId : UInt16
  requestId : UInt32 := 0
  flags : UInt8 := 0
  body : String := ""
  deriving DecidableEq

/-! ## Roles -/

/-- The role of a session. -/
inductive Role
  | kPlayer
  | kAdmin
  | kObserver
  deriving DecidableEq, Repr

/-- `role_from_string`. -/
def Role.ofString (s : String) : Role :=
  if s = "admin" then .kAdmin else if s = "observer" then .kObserver else .kPlayer

/-- The default rules of a player. -/
def playerMessages : List UInt16 :=
  [1, 1001, 2001, 2003, 3001, 3003, 3005, 3007, 3010, 3012, 3014, 3016, 4001, 4003, 4007, 4009,
    6001, 6004, 6006, 7001, 7003, 7005]

/-- `Authorizer::is_allowed` under the default rules. -/
def Role.isAllowed (role : Role) (protocolMessageId : UInt16) : Bool :=
  match role with
  | .kPlayer => protocolMessageId ∈ playerMessages
  | .kAdmin => protocolMessageId ∈ playerMessages ++ [5001, 5002, 5003, 5004]
  | .kObserver => protocolMessageId ∈ [1, 1001, 2001]

/-! ## Command bodies -/

/-- `std::getline` until the stream ends : nothing comes after the last delimiter. -/
def split (body : String) (delimiter : Char) : List String :=
  let parts := body.toList.splitOn delimiter
  (if parts.getLast? = some [] then parts.dropLast else parts).map String.ofList

/-- The value of the digits, when there are any and nothing else. -/
def digits? (cs : List Char) : Option ℕ :=
  if cs ≠ [] ∧ cs.all Char.isDigit then
    some (cs.foldl (fun n c => 10 * n + (c.toNat - 48)) 0)
  else none

/-- `parse_i64`. -/
def parseI64 (raw : String) : Option Int64 :=
  let signed : Option ℤ := match raw.toList with
    | '-' :: cs => (digits? cs).map fun n => -(n : ℤ)
    | cs => (digits? cs).map fun n => (n : ℤ)
  signed.bind fun n => if -2 ^ 63 ≤ n ∧ n < 2 ^ 63 then some (.ofInt n) else none

/-- `parse_size`. -/
def parseSize (raw : String) : Option UInt64 :=
  (digits? raw.toList).bind fun n => if n < 2 ^ 64 then some (.ofNat n) else none

/-- The fields of a login. -/
structure ParsedLoginCommandBody where
  userId : String
  token : String := ""
  displayName : Option String := none
  deriving DecidableEq

/-- `parse_login_command_body`. -/
def parseLoginCommandBody (body : String) : Option ParsedLoginCommandBody :=
  match split body '|' with
  | [] => none
  | userId :: parts => some {
      userId
      token := parts.head?.getD ""
      displayName := parts[1]?.filter (· ≠ "") }

/-- A login names its user. -/
def validateLoginCommandBody (body : ParsedLoginCommandBody) : Bool := body.userId ≠ ""

/-- `parse_room_id_body`. -/
def parseRoomIdBody (body : String) : Option String := if body = "" then none else some body

/-- `parse_room_ready_body`. -/
def parseRoomReadyBody (body : String) : Option Bool :=
  if body = "true" then some true else if body = "false" then some false else none

/-- `parse_battle_start_command_body` : the room a client may name. -/
def parseBattleStartCommandBody (body : String) : Option (Option String) :=
  if body = "" then some none else some (some body)

/-- `parse_battle_finish_request`. -/
def parseBattleFinishRequest (body : String) : Option BattleFinishReason :=
  (after "finish:" body.toList).map fun reason =>
    if reason = "surrender".toList then .kSurrender
    else if reason = "timeout".toList then .kTimeout
    else if reason = "user_requested".toList then .kUserRequested
    else .kFinished

/-- An input, or the wish to finish. -/
structure ParsedBattleInputCommandBody where
  isFinishRequest : Bool := false
  finishReason : BattleFinishReason := .kFinished
  score : Int64 := 0
  inputData : String
  deriving DecidableEq

/-- `parse_battle_input_command_body`. -/
def parseBattleInputCommandBody (body : String) : Option ParsedBattleInputCommandBody :=
  if body = "" then none
  else
    match parseBattleFinishRequest body with
    | some finishReason => some { isFinishRequest := true, finishReason, inputData := body }
    | none =>
      match (after "score=" body.toList).map fun cs => cs.span (· ≠ ':') with
      | some (score, _ :: input) =>
        some { score := .ofInt (strtol score).1, inputData := String.ofList input }
      | some (_, []) | none => some { inputData := body }

/-- An input is not empty. -/
def validateBattleInputCommandBody (body : ParsedBattleInputCommandBody) : Bool :=
  body.inputData ≠ ""

/-- The fields of a match command. -/
structure ParsedMatchCommandBody where
  userId : String
  mmr : Int64 := 1000
  mode : String := "1v1"
  deriving DecidableEq

/-- `parse_match_command_body`. -/
def parseMatchCommandBody (body : String) : Option ParsedMatchCommandBody :=
  match split body '|' with
  | [] => none
  | userId :: parts =>
    if userId = "" then none
    else
      let mmr : Option Int64 := match parts[0]?.filter (· ≠ "") with
        | some raw => parseI64 raw
        | none => some 1000
      mmr.map fun mmr => { userId, mmr, mode := (parts[1]?.filter (· ≠ "")).getD "1v1" }

/-- A match command names a user and a mode. -/
def validateMatchCommandBody (body : ParsedMatchCommandBody) : Bool :=
  body.userId ≠ "" ∧ (body.mode = "1v1" ∨ body.mode = "2v2" ∨ body.mode = "4v4")

/-- The fields of a score. -/
structure ParsedLeaderboardSubmitCommandBody where
  userId : String
  displayName : String
  score : Int64
  deriving DecidableEq

/-- `parse_leaderboard_submit_command_body`. -/
def parseLeaderboardSubmitCommandBody (body : String) :
    Option ParsedLeaderboardSubmitCommandBody :=
  match split body '|' with
  | userId :: displayName :: score :: _ =>
    if userId = "" then none
    else (parseI64 score).map fun score => { userId, displayName, score }
  | _ => none

/-- A score names its user. -/
def validateLeaderboardSubmitCommandBody (body : ParsedLeaderboardSubmitCommandBody) : Bool :=
  body.userId ≠ ""

/-- How many entries are asked for. -/
def parseLeaderboardTopCommandBody (body : String) : Option UInt64 :=
  if body = "" then some 10 else parseSize body

/-- Whose rank is asked for. -/
def parseLeaderboardRankCommandBody (body : String) : Option String :=
  if body = "" then none else some body

/-! ## Texts of the battle messages -/

/-- `format_battle_started_body`. -/
def formatBattleStartedBody (roomId battleId : String) : String :=
  "battle_started:room_id=" ++ roomId ++ ":battle_id=" ++ battleId

/-- `format_battle_state_body`. -/
def formatBattleStateBody (roomId battleId : String) : String :=
  "battle_state:kind=started:room_id=" ++ roomId ++ ":battle_id=" ++ battleId

/-- `format_battle_input_response_body`. -/
def formatBattleInputResponseBody (inputSeq : UInt64) : String :=
  "input_seq:seq=" ++ toString inputSeq.toNat

/-- `format_battle_end_accepted_body`. -/
def formatBattleEndAcceptedBody (reason : BattleFinishReason) : String :=
  "battle_end_accepted:" ++ reason.toString

end BoostGateway.Gateway
