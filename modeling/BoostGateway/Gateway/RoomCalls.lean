import BoostGateway.Gateway.CommandEffects

/-!
# The room backend behind the bridge

A world in which the room backend answers every call of its service. The gateway writes a
request as a text and the room backend reads it again, so a call of the gateway comes to
the locked section of the same name. What other services answer is left open (`Elsewhere`),
and so are the clocks of the room backend.
-/

namespace BoostGateway.Gateway

open Json Battle Service Room

/-- The handlers that `RoomBackendService::start` registers, of those that change rooms. -/
def roomRequest? : String → Option RoomRequest
  | "room_create" => some .roomCreate
  | "room_join" => some .roomJoin
  | "room_ready" => some .roomReady
  | "room_start_battle" => some .roomStartBattle
  | "room_leave" => some .roomLeave
  | "room_kick" => some .roomKick
  | "room_transfer_owner" => some .roomTransferOwner
  | "room_battle_finished" => some .roomBattleFinished
  | _ => none

def ServiceErrorCode.ofRoom : Room.ServiceErrorCode → ServiceErrorCode
  | .kRejected => .kRejected
  | .kInvalidRequest => .kInvalidRequest
  | .kInternalError => .kInternalError
  | .kRoomNotFound => .kRoomNotFound
  | .kRoomFull => .kRoomFull
  | .kRoomInInstance => .kRoomInInstance
  | .kRoomClosed => .kRoomClosed
  | .kNotRoomOwner => .kNotRoomOwner
  | .kNotRoomMember => .kNotRoomMember

/-- What the bridge makes of a reply. -/
def BackendRoutingResult.ofRoom (p : Platform) : Room.Reply → BackendRoutingResult
  | .ok body => { success := true, responsePayload := p.dump body }
  | .error code reason =>
    { error := .ofRoom code
      responsePayload := p.dump (.ofMembers
        [("status", .string "error"), ("reason", .string reason)]) }

/-- The room backend among others. -/
structure RoomWorld (V : Type*) where
  rooms : RoomBackend := {}
  others : V

/-- What the other services answer, and the clocks that a room request sees. -/
structure Elsewhere (V : Type*) where
  answer : RoomWorld V → BackendCall → V × BackendRoutingResult
  clocks : V → V × ℕ × ℤ

section

variable {V : Type*} (p : Platform) (e : Elsewhere V)

/-- What is behind the bridge. -/
def behindBridge (w : RoomWorld V) (call : BackendCall) : RoomWorld V × BackendRoutingResult :=
  match call.service, roomRequest? call.messageType with
  | .room, some kind =>
    let (others, now, nowMs) := e.clocks w.others
    let (rooms, reply) := w.rooms.handle kind (parseDocument call.payload) now nowMs
    ({ rooms, others }, .ofRoom p reply)
  | _, _ =>
    let (others, result) := e.answer w call
    ({ w with others }, result)

/-- The call does not change who is in a room. -/
def KeepsMembers (call : BackendCall) : Prop :=
  call.service = .room →
    (roomRequest? call.messageType).all fun kind => !RoomBackend.changesMembers kind

variable {p e} {w : RoomWorld V} {call : BackendCall} {v q : String}

theorem rooms_behindBridge {messageType payload : String} {kind : RoomRequest}
    (h : roomRequest? messageType = some kind) :
    ∃ now nowMs,
      (behindBridge p e w ⟨.room, messageType, payload⟩).1.rooms =
        (w.rooms.handle kind (parseDocument payload) now nowMs).1 ∧
      (behindBridge p e w ⟨.room, messageType, payload⟩).2 =
        .ofRoom p (w.rooms.handle kind (parseDocument payload) now nowMs).2 := by
  simp only [behindBridge, h]
  exact ⟨_, _, rfl, rfl⟩

theorem members_behindBridge (h : KeepsMembers call) :
    (behindBridge p e w call).1.rooms.members q = w.rooms.members q := by
  obtain ⟨service, messageType, payload⟩ := call
  unfold behindBridge
  split
  · rename_i kind hservice hkind
    have h := h hservice
    rw [hkind] at h
    exact RoomBackend.members_handle (by simpa using h) _ _ _
  · rfl

theorem members_worldAfter {calls : List BackendCall} (h : ∀ call ∈ calls, KeepsMembers call) :
    (BridgeRuntime.worldAfter (behindBridge p e) w calls).rooms.members q =
      w.rooms.members q := by
  induction calls generalizing w with
  | nil => rfl
  | cons call calls ih =>
    rw [List.forall_mem_cons] at h
    exact (ih h.2).trans (members_behindBridge h.1)

end

/-! ## Lost calls -/

/-- What becomes of a call, and the error that the gateway sees where it is not answered. -/
inductive Delivery
  | answered
  /-- The backend handles the call and its answer is lost. -/
  | answerLost (error : ServiceErrorCode)
  | lost (error : ServiceErrorCode)

/-- A world with the number of calls so far. -/
structure Counted (W : Type*) where
  world : W
  calls : ℕ := 0

/-- Backends whose calls are delivered as given for each one. -/
def withLosses {W : Type*} (delivery : ℕ → Delivery)
    (backend : W → BackendCall → W × BackendRoutingResult) (w : Counted W) (call : BackendCall) :
    Counted W × BackendRoutingResult :=
  match delivery w.calls with
  | .answered =>
    let (world, result) := backend w.world call
    ({ world, calls := w.calls + 1 }, result)
  | .answerLost error =>
    ({ world := (backend w.world call).1, calls := w.calls + 1 }, { error })
  | .lost error => ({ w with calls := w.calls + 1 }, { error })

theorem withLosses_of_success {W : Type*} {delivery : ℕ → Delivery}
    {backend : W → BackendCall → W × BackendRoutingResult} {w : Counted W} {call : BackendCall}
    (h : (withLosses delivery backend w call).2.success = true) :
    (withLosses delivery backend w call).2 = (backend w.world call).2 := by
  unfold withLosses at h ⊢
  split at h
  · rfl
  · cases h
  · cases h

/-! ## What the room backend reads -/

open BridgeRuntime

section

variable {p : Platform} {u r t : String}

/-- A text member is the same in the document that is read. -/
theorem value_asRead {doc : Json} {key text : String} (h : doc.find? key = some (.string text))
    (fallback : String) : doc.asRead.value getString key fallback = .ok text := by
  have hfind : doc.asRead.find? key = some (.string text) := by
    rw [find?_asRead, h]
    rfl
  obtain ⟨ms, hms⟩ := object_of_find? hfind
  rw [hms] at hfind ⊢
  simp [value, hfind, getString]

theorem parse_roomPayload (p : Platform) (u r : String) :
    parseDocument (p.dump (roomPayload u r)) =
      some (.object [("room_id", .string r), ("user_id", .string u)]) := by
  have hless : keyLess "room_id" "user_id" = true := by decide +kernel
  rw [roomPayload, p.parseDocument_dump (plain_ofMembers (by simp [Plain]))]
  simp [ofMembers, insertMember, hless, asRead, asReadMembers]

theorem parse_kickPayload (p : Platform) (u r t : String) :
    parseDocument (p.dump (.ofMembers [("user_id", .string u), ("room_id", .string r),
      ("target_user_id", .string t)])) =
      some (.object [("room_id", .string r), ("target_user_id", .string t),
        ("user_id", .string u)]) := by
  have hless : keyLess "room_id" "user_id" = true := by decide +kernel
  have hless₁ : keyLess "target_user_id" "room_id" = false := by decide +kernel
  have hless₂ : keyLess "target_user_id" "user_id" = true := by decide +kernel
  rw [p.parseDocument_dump (plain_ofMembers (by simp [Plain]))]
  simp [ofMembers, insertMember, hless, hless₁, hless₂, asRead, asReadMembers]

/-- The answer to a request that the room backend refuses is never accepted. -/
theorem isOk_of_accepts {reply : Room.Reply} {resp : Json}
    (h : Accepts (.ofRoom p reply) resp) : reply.isOk := by
  cases reply with
  | ok body => rfl
  | error code reason => cases h.1

/-- The answer to a request that the room backend grants is accepted. -/
theorem accepts_ok {body : Json} (hplain : body.Plain)
    (hstatus : body.find? "status" = some (.string "ok")) :
    Accepts (.ofRoom p (.ok body)) body.asRead := by
  refine ⟨rfl, ?_⟩
  have hread := value_asRead hstatus ""
  simp [BackendRoutingResult.ofRoom, readAccepted, p.parseDocument_dump hplain, hread, bind,
    Except.bind, pure, Except.pure]

/-! ## The requests of the gateway -/

variable {V : Type*} {e : Elsewhere V} {w : RoomWorld V}

/-- A request with this payload, seen by the room backend. -/
theorem behindBridge_room (messageType : String) (kind : RoomRequest) {payload doc : Json}
    (h : roomRequest? messageType = some kind)
    (hdoc : parseDocument (p.dump payload) = some doc) :
    ∃ now nowMs,
      (behindBridge p e w ⟨.room, messageType, p.dump payload⟩).1.rooms =
        (w.rooms.handle kind (some doc) now nowMs).1 ∧
      (behindBridge p e w ⟨.room, messageType, p.dump payload⟩).2 =
        .ofRoom p (w.rooms.handle kind (some doc) now nowMs).2 :=
  hdoc ▸ rooms_behindBridge h

variable (s : RoomBackend) (now : ℕ) (nowMs : ℤ)

theorem handle_roomCreate (u r : String) :
    s.handle .roomCreate (some (.object [("room_id", .string r), ("user_id", .string u)])) now
      nowMs = s.roomCreate now nowMs u r u "public" 0 (.object []) := rfl

theorem handle_roomJoin (u r : String) :
    s.handle .roomJoin (some (.object [("room_id", .string r), ("user_id", .string u)])) now
      nowMs = s.roomJoin now u r u := rfl

theorem handle_roomLeave (u r : String) :
    s.handle .roomLeave (some (.object [("room_id", .string r), ("user_id", .string u)])) now
      nowMs = s.roomLeave now u r := rfl

theorem handle_roomKick (u r t : String) :
    s.handle .roomKick (some (.object [("room_id", .string r), ("target_user_id", .string t),
      ("user_id", .string u)])) now nowMs = s.roomKick now u r t := rfl

theorem behindBridge_roomCreate (u r : String) :
    ∃ now nowMs,
      (behindBridge p e w (roomCall p "room_create" u r)).1.rooms =
        (w.rooms.roomCreate now nowMs u r u "public" 0 (.object [])).1 ∧
      (behindBridge p e w (roomCall p "room_create" u r)).2 =
        .ofRoom p (w.rooms.roomCreate now nowMs u r u "public" 0 (.object [])).2 := by
  obtain ⟨now, nowMs, h⟩ := behindBridge_room (p := p) (e := e) (w := w)
    "room_create" .roomCreate rfl (parse_roomPayload p u r)
  rw [handle_roomCreate] at h
  unfold roomCall
  exact ⟨now, nowMs, h⟩

theorem behindBridge_roomJoin (u r : String) :
    ∃ now,
      (behindBridge p e w (roomCall p "room_join" u r)).1.rooms =
        (w.rooms.roomJoin now u r u).1 ∧
      (behindBridge p e w (roomCall p "room_join" u r)).2 =
        .ofRoom p (w.rooms.roomJoin now u r u).2 := by
  obtain ⟨now, nowMs, h⟩ := behindBridge_room (p := p) (e := e) (w := w)
    "room_join" .roomJoin rfl (parse_roomPayload p u r)
  rw [handle_roomJoin] at h
  unfold roomCall
  exact ⟨now, h⟩

theorem behindBridge_roomLeave (u r : String) :
    ∃ now,
      (behindBridge p e w (roomCall p "room_leave" u r)).1.rooms =
        (w.rooms.roomLeave now u r).1 ∧
      (behindBridge p e w (roomCall p "room_leave" u r)).2 =
        .ofRoom p (w.rooms.roomLeave now u r).2 := by
  obtain ⟨now, nowMs, h⟩ := behindBridge_room (p := p) (e := e) (w := w)
    "room_leave" .roomLeave rfl (parse_roomPayload p u r)
  rw [handle_roomLeave] at h
  unfold roomCall
  exact ⟨now, h⟩

theorem behindBridge_roomKick (u r t : String) :
    ∃ now,
      (behindBridge p e w ⟨.room, "room_kick", p.dump (.ofMembers [("user_id", .string u),
        ("room_id", .string r), ("target_user_id", .string t)])⟩).1.rooms =
        (w.rooms.roomKick now u r t).1 := by
  obtain ⟨now, nowMs, h, -⟩ := behindBridge_room (p := p) (e := e) (w := w)
    "room_kick" .roomKick rfl (parse_kickPayload p u r t)
  rw [handle_roomKick] at h
  exact ⟨now, h⟩

/-- A request to leave a room is accepted, or the room backend keeps all rooms. -/
theorem roomLeave_accepted_or_same (u r : String) :
    (∃ resp, Accepts (.ofRoom p (s.roomLeave now u r).2) resp) ∨ (s.roomLeave now u r).1 = s := by
  have hok : ∀ (wasOwner : Bool) (newOwnerId : String),
      ∃ resp, Accepts (.ofRoom p (Room.makeOk [("room_id", .string r),
        ("was_owner", .bool wasOwner), ("new_owner_id", .string newOwnerId)])) resp :=
    fun wasOwner newOwnerId => ⟨_, accepts_ok (plain_ofMembers (by simp [Plain]))
      (by rw [find?_ofMembers]; rfl)⟩
  unfold RoomBackend.roomLeave
  cases s.find r with
  | none => exact .inr rfl
  | some room =>
    dsimp only
    by_cases hsame : (room.members.filter (·.userId ≠ u)).length = room.members.length
    · rw [if_pos hsame]
      exact .inr rfl
    · rw [if_neg hsame]
      clear hsame
      generalize room.members.filter (·.userId ≠ u) = members
      cases members with
      | nil => exact .inl (hok _ _)
      | cons front rest =>
        dsimp only
        split_ifs
        · exact .inl (hok _ _)
        · exact .inl (hok _ _)

/-! ## The battle that a room asks for -/

theorem handle_roomStartBattle (u r : String) :
    s.handle .roomStartBattle (some (.object [("room_id", .string r), ("user_id", .string u)])) now
      nowMs = s.roomStartBattle now u r := rfl

theorem behindBridge_roomStartBattle (u r : String) :
    ∃ now,
      (behindBridge p e w (roomCall p "room_start_battle" u r)).1.rooms =
        (w.rooms.roomStartBattle now u r).1 ∧
      (behindBridge p e w (roomCall p "room_start_battle" u r)).2 =
        .ofRoom p (w.rooms.roomStartBattle now u r).2 := by
  obtain ⟨now, nowMs, h⟩ := behindBridge_room (p := p) (e := e) (w := w)
    "room_start_battle" .roomStartBattle rfl (parse_roomPayload p u r)
  rw [handle_roomStartBattle] at h
  unfold roomCall
  exact ⟨now, h⟩

/-- The payload of the `battle_create` that a room asks for. -/
def createPayload (battleId roomId : String) (playerIds : List String) (maxFrames : UInt32) :
    Json :=
  .ofMembers [("battle_id", .string battleId), ("room_id", .string roomId),
    ("player_ids", .array (playerIds.map .string)), ("max_frames", .unsigned maxFrames.toUInt64)]

theorem plain_createPayload (battleId roomId : String) (playerIds : List String)
    (maxFrames : UInt32) : (createPayload battleId roomId playerIds maxFrames).Plain := by
  refine plain_ofMembers fun m hm => ?_
  simp only [List.mem_cons, List.not_mem_nil, or_false] at hm
  rcases hm with rfl | rfl | rfl | rfl
  · trivial
  · trivial
  · exact plainElems_of_forall fun x hx => by
      obtain ⟨_, -, rfl⟩ := List.mem_map.mp hx
      trivial
  · trivial

/-- The instruction to create the battle. -/
def createForward (payload : Json) : Json :=
  .ofMembers [("target", .string "battle"), ("message_type", .string "battle_create"),
    ("payload", payload)]

theorem readForward_asRead {body payload : Json}
    (h : body.find? "forward" = some (createForward payload)) :
    readForward p body.asRead = if p.dump payload.asRead = "" then .ok none
      else .ok (some ("battle_create", p.dump payload.asRead)) := by
  have hforward : body.asRead.find? "forward" = some (createForward payload).asRead := by
    rw [find?_asRead, h]
    rfl
  have htarget : (createForward payload).find? "target" = some (.string "battle") := by
    rw [createForward, find?_ofMembers]
    rfl
  have htype : (createForward payload).find? "message_type" = some (.string "battle_create") := by
    rw [createForward, find?_ofMembers]
    rfl
  have hpayload : (createForward payload).asRead.find? "payload" = some payload.asRead := by
    rw [find?_asRead, createForward, find?_ofMembers]
    rfl
  simp only [readForward, hforward, value_asRead htarget, value_asRead htype, hpayload]
  split_ifs with hempty <;> simp [hempty, bind, Except.bind, pure, Except.pure]

/-- The answer to a request to start a battle, as the gateway reads it. -/
theorem roomStartBattle_cases (u r : String) :
    ((∀ resp, ¬Accepts (.ofRoom p (s.roomStartBattle now u r).2) resp) ∧
      (s.roomStartBattle now u r).1 = s) ∨
    ∃ (room : RoomState) (body : Json), s.find r = some room ∧ room.ownerUserId = u ∧
      room.activeBattleId = "" ∧
      (s.roomStartBattle now u r).1 =
        { s.setRoom r ({ room with
            activeBattleId := "battle_" ++ toString s.nextBattleId
            status := .kInInstance }.touch now) with nextBattleId := s.nextBattleId + 1 } ∧
      Accepts (.ofRoom p (s.roomStartBattle now u r).2) body.asRead ∧
      body.find? "forward" = some (createForward (createPayload
        ("battle_" ++ toString s.nextBattleId) r room.userIds s.battleMaxFrames)) := by
  have herror : ∀ code reason resp,
      ¬Accepts (.ofRoom p (.error code reason)) resp := fun _ _ _ h => by cases h.1
  unfold RoomBackend.roomStartBattle
  cases hfind : s.find r with
  | none => exact .inl ⟨herror _ _, rfl⟩
  | some room =>
    dsimp only
    split_ifs with howner hactive hfew hready
    · exact .inl ⟨herror _ _, rfl⟩
    · exact .inl ⟨herror _ _, rfl⟩
    · exact .inl ⟨herror _ _, rfl⟩
    · exact .inl ⟨herror _ _, rfl⟩
    · refine .inr ⟨room, _, rfl, (not_not.mp howner).symm, not_not.mp hactive, rfl,
        accepts_ok ?_ ?_, ?_⟩
      · refine plain_ofMembers fun m hm => ?_
        simp only [List.mem_cons, List.not_mem_nil, or_false] at hm
        rcases hm with rfl | rfl | rfl | rfl | rfl
        · trivial
        · trivial
        · exact plainElems_of_forall fun x hx => by
            obtain ⟨_, -, rfl⟩ := List.mem_map.mp hx
            trivial
        · trivial
        · refine plain_ofMembers fun m hm => ?_
          simp only [List.mem_cons, List.not_mem_nil, or_false] at hm
          rcases hm with rfl | rfl | rfl
          · trivial
          · trivial
          · exact plain_createPayload ..
      · rw [find?_ofMembers]
        rfl
      · rw [find?_ofMembers]
        rfl

end

end BoostGateway.Gateway
