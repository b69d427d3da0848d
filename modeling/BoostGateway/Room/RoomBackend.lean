import Mathlib.Data.List.AList
import BoostGateway.Base.Json
import BoostGateway.Base.Run

/-!
# The room backend

The rooms of `RoomBackendService` (`room_backend_service.cpp`) and the handlers that
change them. A handler reads the fields of its request, which may throw, and then works
under the mutex of the room manager; nothing is changed before the fields are read, so
a handler is a function of the request in two parts, the second one under the name of
the request (`roomCreate`, …). `diag_wrap` turns an exception into an error reply.

A request comes as the document `decode_handler_payload` gives, `none` where it gives
nothing. The handlers that only read the rooms (`room_list`, `room_detail`,
`room_state_push`), the audit log and the typed envelope around a reply are left out.
-/

namespace BoostGateway.Room

/-- A member of a room. -/
structure RoomMember where
  userId : String
  displayName : String
  ready : Bool := false

/-- Whether a room plays. -/
inductive RoomStatus
  | kWaiting
  | kInInstance
  | kClosed
  deriving DecidableEq, Repr

/-- A room. -/
structure RoomState where
  roomId : String
  ownerUserId : String
  members : List RoomMember
  activeBattleId : String := ""
  metadata : Json := .object []
  /-- `0` is no limit. -/
  capacity : UInt32 := 0
  visibility : String := "public"
  version : UInt32 := 0
  status : RoomStatus := .kWaiting
  createdAtMs : ℤ := 0
  lastActivityAt : Option ℕ := none

/-- The codes the room handlers answer with (`error_codes.h`). -/
inductive ServiceErrorCode
  | kRejected
  | kInvalidRequest
  | kInternalError
  | kRoomNotFound
  | kRoomFull
  | kRoomInInstance
  | kRoomClosed
  | kNotRoomOwner
  | kNotRoomMember
  deriving DecidableEq, Repr

/-- What a handler answers. -/
inductive Reply
  | ok (body : Json)
  | error (code : ServiceErrorCode) (reason : String)

/-- `make_ok`. -/
def makeOk (extra : List (String × Json)) : Reply :=
  .ok (Json.ofMembers (("status", .string "ok") :: extra))

namespace RoomState

variable (room : RoomState)

/-- The users in the room. -/
def userIds : List String := room.members.map RoomMember.userId

/-- `find_member`. -/
def findMember (userId : String) : Option RoomMember :=
  room.members.find? (·.userId = userId)

/-- `all_members_ready`. -/
def allMembersReady : Bool :=
  2 ≤ room.members.length ∧ room.members.all RoomMember.ready

/-- Every change counts as activity. -/
def touch (now : ℕ) : RoomState :=
  { room with version := room.version + 1, lastActivityAt := some now }

/-- `member->ready = ready` for the first member of the name. -/
def setReady (userId : String) (ready : Bool) : List RoomMember → List RoomMember
  | [] => []
  | m :: ms => if m.userId = userId then { m with ready := ready } :: ms
    else m :: setReady userId ready ms

end RoomState

/-- The room manager and the options of the service. -/
structure RoomBackend where
  battleMaxFrames : UInt32 := 3
  roomTtlMs : UInt32 := 300000
  rooms : AList fun _ : String => RoomState := ∅
  nextBattleId : Int32 := 1

namespace RoomBackend

variable (s : RoomBackend)

/-- `find`. -/
def find (roomId : String) : Option RoomState := s.rooms.lookup roomId

/-- The room is stored. -/
def setRoom (roomId : String) (room : RoomState) : RoomBackend :=
  { s with rooms := s.rooms.insert roomId room }

/-- A room that waits and had no activity for the time to live; the clock counts
nanoseconds. -/
def expired (now : ℕ) (room : RoomState) : Bool :=
  room.status = .kWaiting ∧
    room.lastActivityAt.any fun last =>
      (s.roomTtlMs.toNat : ℤ) ≤ ((now : ℤ) - last).tdiv 1000000

/-- `cleanup_expired_rooms`. -/
def cleanupExpiredRooms (now : ℕ) : RoomBackend :=
  let ids := (s.rooms.entries.filter fun e => s.expired now e.2).map Sigma.fst
  { s with rooms := ids.foldl (fun rooms id => rooms.erase id) s.rooms }

/-! ## The locked sections -/

/-- `room_create`, with its fields. -/
def roomCreate (now : ℕ) (nowMs : ℤ)
    (userId roomId displayName visibility : String) (capacity : UInt32)
    (metadata : Json) : RoomBackend × Reply :=
  if userId = "" ∨ roomId = "" then (s, .error .kInvalidRequest "empty_fields")
  else if (s.find roomId).isSome then (s, .error .kRejected "room_already_exists")
  else
    (s.setRoom roomId
      { roomId := roomId
        ownerUserId := userId
        metadata := metadata
        capacity := capacity
        visibility := visibility
        version := 1
        status := .kWaiting
        createdAtMs := nowMs
        lastActivityAt := some now
        members := [{ userId := userId, displayName := displayName }] },
      makeOk [("room_id", .string roomId), ("member_count", .integer 1), ("version", .integer 1)])

/-- `room_join`, with its fields. -/
def roomJoin (now : ℕ) (userId roomId displayName : String) : RoomBackend × Reply :=
  match s.find roomId with
  | none => (s, .error .kRoomNotFound "room_not_found")
  | some room =>
    let count (room : RoomState) : Reply :=
      makeOk [("room_id", .string roomId), ("member_count", .unsigned (.ofNat room.members.length))]
    if room.status = .kInInstance then (s, .error .kRoomInInstance "room_in_instance")
    else if room.status = .kClosed then (s, .error .kRoomClosed "room_closed")
    else if (room.findMember userId).isSome then (s, count room)
    else if 0 < room.capacity ∧ room.capacity.toNat ≤ room.members.length then
      (s, .error .kRoomFull "room_full")
    else
      let member : RoomMember := { userId := userId, displayName := displayName }
      let room := { room with members := room.members ++ [member] }.touch now
      (s.setRoom roomId room, count room)

/-- `room_ready`, with its fields. -/
def roomReady (now : ℕ) (userId roomId : String) (ready : Bool) : RoomBackend × Reply :=
  match s.find roomId with
  | none => (s, .error .kRoomNotFound "room_not_found")
  | some room =>
    if (room.findMember userId).isNone then (s, .error .kNotRoomMember "not_in_room")
    else
      let room := { room with members := RoomState.setReady userId ready room.members }.touch now
      (s.setRoom roomId room,
        makeOk [("room_id", .string roomId), ("all_ready", .bool room.allMembersReady),
          ("version", .unsigned room.version.toUInt64)])

/-- `room_start_battle`, with its fields. -/
def roomStartBattle (now : ℕ) (userId roomId : String) : RoomBackend × Reply :=
  match s.find roomId with
  | none => (s, .error .kRoomNotFound "room_not_found")
  | some room =>
    if userId ≠ room.ownerUserId then (s, .error .kNotRoomOwner "not_room_owner")
    else if room.activeBattleId ≠ "" then (s, .error .kRejected "battle_already_started")
    else if room.members.length < 2 then (s, .error .kRejected "not_enough_players")
    else if !room.allMembersReady then (s, .error .kRejected "not_all_ready")
    else
      let battleId := "battle_" ++ toString s.nextBattleId
      let room := { room with activeBattleId := battleId, status := .kInInstance }.touch now
      let playerIds := Json.array (room.userIds.map .string)
      let payload := Json.ofMembers
        [("battle_id", .string battleId), ("room_id", .string roomId), ("player_ids", playerIds),
          ("max_frames", .unsigned s.battleMaxFrames.toUInt64)]
      ({ s.setRoom roomId room with nextBattleId := s.nextBattleId + 1 },
        makeOk [("room_id", .string roomId), ("player_ids", playerIds),
          ("version", .unsigned room.version.toUInt64),
          ("forward", Json.ofMembers [("target", .string "battle"),
            ("message_type", .string "battle_create"), ("payload", payload)])])

/-- `room_leave`, with its fields. -/
def roomLeave (now : ℕ) (userId roomId : String) : RoomBackend × Reply :=
  match s.find roomId with
  | none => (s, .error .kRoomNotFound "room_not_found")
  | some room =>
    let wasOwner : Bool := room.ownerUserId = userId
    let members := room.members.filter (·.userId ≠ userId)
    if members.length = room.members.length then (s, .error .kNotRoomMember "not_in_room")
    else
      let reply (newOwnerId : String) : Reply :=
        makeOk [("room_id", .string roomId), ("was_owner", .bool wasOwner),
          ("new_owner_id", .string newOwnerId)]
      let room := { room with members := members }.touch now
      match members with
      | [] => ({ s with rooms := s.rooms.erase roomId }, reply "")
      | front :: _ =>
        if wasOwner then
          (s.setRoom roomId { room with ownerUserId := front.userId }, reply front.userId)
        else (s.setRoom roomId room, reply "")

/-- `room_battle_finished`, with its fields. -/
def roomBattleFinished (now : ℕ) (roomId battleId : String) : RoomBackend × Reply :=
  match s.find roomId with
  | none => (s, .error .kRoomNotFound "room_not_found")
  | some room =>
    if room.activeBattleId ≠ "" ∧ room.activeBattleId ≠ battleId then
      (s, .error .kRejected "battle_mismatch")
    else
      let room := { room with
        activeBattleId := ""
        status := .kWaiting
        members := room.members.map fun m : RoomMember => { m with ready := false } }.touch now
      (s.setRoom roomId room,
        makeOk [("room_id", .string roomId), ("battle_id", .string battleId),
          ("version", .unsigned room.version.toUInt64)])

/-- `room_kick`, with its fields. -/
def roomKick (now : ℕ) (userId roomId targetUserId : String) : RoomBackend × Reply :=
  match s.find roomId with
  | none => (s, .error .kRoomNotFound "room_not_found")
  | some room =>
    if userId ≠ room.ownerUserId then (s, .error .kNotRoomOwner "not_room_owner")
    else if targetUserId = room.ownerUserId then (s, .error .kRejected "cannot_kick_self")
    else
      let members := room.members.filter (·.userId ≠ targetUserId)
      if members.length = room.members.length then
        (s, .error .kNotRoomMember "target_not_in_room")
      else
        (s.setRoom roomId ({ room with members := members }.touch now),
          makeOk [("room_id", .string roomId), ("kicked_user_id", .string targetUserId),
            ("member_count", .unsigned (.ofNat members.length))])

/-- `room_transfer_owner`, with its fields. -/
def roomTransferOwner (now : ℕ) (userId roomId newOwnerId : String) : RoomBackend × Reply :=
  match s.find roomId with
  | none => (s, .error .kRoomNotFound "room_not_found")
  | some room =>
    if userId ≠ room.ownerUserId then (s, .error .kNotRoomOwner "not_room_owner")
    else if (room.findMember newOwnerId).isNone then
      (s, .error .kNotRoomMember "new_owner_not_in_room")
    else if newOwnerId = userId then (s, .error .kRejected "already_owner")
    else
      let room := { room with ownerUserId := newOwnerId }.touch now
      (s.setRoom roomId room,
        makeOk [("room_id", .string roomId), ("new_owner_id", .string newOwnerId),
          ("version", .unsigned room.version.toUInt64)])

/-! ## The requests -/

/-- The document of a request, when it is an object with the given members. -/
def fields (keys : List String) : Option Json → Option Json
  | some (.object ms) =>
    if keys.all fun key => ((Json.object ms).find? key).isSome then some (.object ms) else none
  | _ => none

/-- `doc[key].get<std::string>()` of a member that is there. -/
def stringField (doc : Json) (key : String) : Except Json.TypeError String :=
  match doc.find? key with
  | some j => j.getString
  | none => .error .wrongType

/-- A handler of a request with the given members. -/
def withFields (keys : List String) (payload : Option Json)
    (k : Json → Except Json.TypeError (RoomBackend × Reply)) :
    Except Json.TypeError (RoomBackend × Reply) :=
  match fields keys payload with
  | none => .ok (s, .error .kInvalidRequest "invalid_json")
  | some doc => k doc

open Json (value getString getInt32 getBool)

/-- `room_create`. -/
def handleRoomCreate (now : ℕ) (nowMs : ℤ) (payload : Option Json) :
    Except Json.TypeError (RoomBackend × Reply) :=
  s.withFields ["user_id", "room_id"] payload fun doc => do
    let userId ← stringField doc "user_id"
    let roomId ← stringField doc "room_id"
    let displayName ← doc.value getString "display_name" userId
    let visibility ← doc.value getString "visibility" "public"
    let capacity ← doc.value getInt32 "capacity" 0
    let metadata := match doc.find? "metadata" with
      | some (.object ms) => Json.object ms
      | _ => .object []
    return s.roomCreate now nowMs userId roomId displayName visibility capacity.toUInt32 metadata

/-- `room_join`. -/
def handleRoomJoin (now : ℕ) (payload : Option Json) :
    Except Json.TypeError (RoomBackend × Reply) :=
  s.withFields ["user_id", "room_id"] payload fun doc => do
    let userId ← stringField doc "user_id"
    let roomId ← stringField doc "room_id"
    let displayName ← doc.value getString "display_name" userId
    return s.roomJoin now userId roomId displayName

/-- `room_ready`. -/
def handleRoomReady (now : ℕ) (payload : Option Json) :
    Except Json.TypeError (RoomBackend × Reply) :=
  s.withFields ["user_id", "room_id"] payload fun doc => do
    let userId ← stringField doc "user_id"
    let roomId ← stringField doc "room_id"
    let ready ← doc.value getBool "ready" true
    return s.roomReady now userId roomId ready

/-- `room_start_battle`. -/
def handleRoomStartBattle (now : ℕ) (payload : Option Json) :
    Except Json.TypeError (RoomBackend × Reply) :=
  s.withFields ["user_id", "room_id"] payload fun doc => do
    let userId ← stringField doc "user_id"
    let roomId ← stringField doc "room_id"
    return s.roomStartBattle now userId roomId

/-- `room_leave`. -/
def handleRoomLeave (now : ℕ) (payload : Option Json) :
    Except Json.TypeError (RoomBackend × Reply) :=
  s.withFields ["user_id", "room_id"] payload fun doc => do
    let userId ← stringField doc "user_id"
    let roomId ← stringField doc "room_id"
    return s.roomLeave now userId roomId

/-- `room_battle_finished`. -/
def handleRoomBattleFinished (now : ℕ) (payload : Option Json) :
    Except Json.TypeError (RoomBackend × Reply) :=
  s.withFields ["room_id", "battle_id"] payload fun doc => do
    let roomId ← stringField doc "room_id"
    let battleId ← stringField doc "battle_id"
    return s.roomBattleFinished now roomId battleId

/-- `room_kick`. -/
def handleRoomKick (now : ℕ) (payload : Option Json) :
    Except Json.TypeError (RoomBackend × Reply) :=
  s.withFields ["user_id", "room_id", "target_user_id"] payload fun doc => do
    let userId ← stringField doc "user_id"
    let roomId ← stringField doc "room_id"
    let targetUserId ← stringField doc "target_user_id"
    return s.roomKick now userId roomId targetUserId

/-- `room_transfer_owner`. -/
def handleRoomTransferOwner (now : ℕ) (payload : Option Json) :
    Except Json.TypeError (RoomBackend × Reply) :=
  s.withFields ["user_id", "room_id", "new_owner_id"] payload fun doc => do
    let userId ← stringField doc "user_id"
    let roomId ← stringField doc "room_id"
    let newOwnerId ← stringField doc "new_owner_id"
    return s.roomTransferOwner now userId roomId newOwnerId

end RoomBackend

/-- The requests that change rooms. -/
inductive RoomRequest
  | roomCreate
  | roomJoin
  | roomReady
  | roomStartBattle
  | roomLeave
  | roomBattleFinished
  | roomKick
  | roomTransferOwner
  deriving DecidableEq, Repr

/-- What the backend does. -/
inductive RoomAction
  /-- A request, with its document and the two clocks. -/
  | request (kind : RoomRequest) (payload : Option Json) (now : ℕ) (nowMs : ℤ)
  | cleanupExpiredRooms (now : ℕ)

namespace RoomBackend

/-- The handler of a request, before `diag_wrap`. -/
def handler (s : RoomBackend) (payload : Option Json) (now : ℕ) (nowMs : ℤ) :
    RoomRequest → Except Json.TypeError (RoomBackend × Reply)
  | .roomCreate => s.handleRoomCreate now nowMs payload
  | .roomJoin => s.handleRoomJoin now payload
  | .roomReady => s.handleRoomReady now payload
  | .roomStartBattle => s.handleRoomStartBattle now payload
  | .roomLeave => s.handleRoomLeave now payload
  | .roomBattleFinished => s.handleRoomBattleFinished now payload
  | .roomKick => s.handleRoomKick now payload
  | .roomTransferOwner => s.handleRoomTransferOwner now payload

/-- The beginning of `e.what()`, before the types it names. -/
def what : Json.TypeError → String
  | .wrongType => "[json.exception.type_error.302]"
  | .notObject => "[json.exception.type_error.306]"

/-- The handler inside `diag_wrap`. -/
def handle (s : RoomBackend) (kind : RoomRequest) (payload : Option Json) (now : ℕ) (nowMs : ℤ) :
    RoomBackend × Reply :=
  match s.handler payload now nowMs kind with
  | .ok result => result
  | .error e => (s, .error .kInternalError (what e))

/-- One request, or the cleanup. -/
def step (s : RoomBackend) : RoomAction → RoomBackend
  | .request kind payload now nowMs => (s.handle kind payload now nowMs).1
  | .cleanupExpiredRooms now => s.cleanupExpiredRooms now

/-- The states a service with any options reaches. -/
abbrev Reachable : RoomBackend → Prop :=
  BoostGateway.Reaches
    (fun s => ∃ frames ttl, s = { battleMaxFrames := frames, roomTtlMs := ttl })
    (fun s a => some (s.step a)) fun _ _ => True

end RoomBackend

end BoostGateway.Room
