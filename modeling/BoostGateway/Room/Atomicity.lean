import BoostGateway.Room.Members
import BoostGateway.Room.RoomList

/-!
# Requests are atomic

What a request does to the rooms (`Outcome`) : it is rejected or raises, and then nothing
changes, or it leaves the rooms as they are, or it puts back the one room it is about with
the next version, or removes it. Every locked section has such an outcome, and so has
every handler (`ensures_outcome`); `request_atomic` says what follows for the replies.

The result of a battle that is not the active one of the room is rejected while a battle
is active. In a room without a battle it is taken, and clears the ready flags
(`battleFinished_harmless_iff`).
-/

namespace BoostGateway.Room

open Json (value getString getInt32 getBool)

namespace RoomBackend

variable {s : RoomBackend} {roomId userId : String}

/-- The version of a room; zero where there is no room. -/
def versionOf (s : RoomBackend) (roomId : String) : UInt32 :=
  ((s.find roomId).map RoomState.version).getD 0

/-- What a request about a room does. -/
inductive Outcome (s : RoomBackend) (roomId : String) : RoomBackend × Reply → Prop
  | rejected (code : ServiceErrorCode) (reason : String) : Outcome s roomId (s, .error code reason)
  | idle (body : Json) : Outcome s roomId (s, .ok body)
  | changed (s' : RoomBackend) (room : RoomState) (body : Json)
      (hrooms : s'.rooms = s.rooms.insert roomId room)
      (hversion : room.version = s.versionOf roomId + 1)
      (hcount : s'.nextBattleId = s.nextBattleId ∨ s'.nextBattleId = s.nextBattleId + 1) :
      Outcome s roomId (s', .ok body)
  | removed (body : Json) : Outcome s roomId ({ s with rooms := s.rooms.erase roomId }, .ok body)

theorem versionOf_of_find {room : RoomState} (h : s.find roomId = some room) :
    s.versionOf roomId = room.version := by
  rw [versionOf, h]
  rfl

/-! ## The locked sections -/

variable (now : ℕ)

theorem outcome_roomCreate (nowMs : ℤ) (displayName visibility : String)
    (capacity : UInt32) (metadata : Json) :
    Outcome s roomId (s.roomCreate now nowMs userId roomId displayName visibility capacity
      metadata) := by
  unfold roomCreate
  split_ifs with hempty hsome
  · exact .rejected _ _
  · exact .rejected _ _
  · refine .changed _ _ _ rfl ?_ (.inl rfl)
    rw [versionOf, Option.not_isSome_iff_eq_none.mp hsome]
    rfl

theorem outcome_roomJoin (displayName : String) :
    Outcome s roomId (s.roomJoin now userId roomId displayName) := by
  unfold roomJoin
  cases hf : s.find roomId with
  | none => exact .rejected _ _
  | some room =>
    dsimp only
    split_ifs
    · exact .rejected _ _
    · exact .rejected _ _
    · exact .idle _
    · exact .rejected _ _
    · exact .changed _ _ _ rfl (by rw [versionOf_of_find hf]; rfl) (.inl rfl)

theorem outcome_roomReady (ready : Bool) :
    Outcome s roomId (s.roomReady now userId roomId ready) := by
  unfold roomReady
  cases hf : s.find roomId with
  | none => exact .rejected _ _
  | some room =>
    dsimp only
    split_ifs
    · exact .rejected _ _
    · exact .changed _ _ _ rfl (by rw [versionOf_of_find hf]; rfl) (.inl rfl)

theorem outcome_roomStartBattle : Outcome s roomId (s.roomStartBattle now userId roomId) := by
  unfold roomStartBattle
  cases hf : s.find roomId with
  | none => exact .rejected _ _
  | some room =>
    dsimp only
    split_ifs
    · exact .rejected _ _
    · exact .rejected _ _
    · exact .rejected _ _
    · exact .rejected _ _
    · exact .changed _ _ _ rfl (by rw [versionOf_of_find hf]; rfl) (.inr rfl)

theorem outcome_roomLeave : Outcome s roomId (s.roomLeave now userId roomId) := by
  unfold roomLeave
  cases hf : s.find roomId with
  | none => exact .rejected _ _
  | some room =>
    dsimp only
    split
    · exact .rejected _ _
    · split
      · exact .removed _
      · split
        · exact .changed _ _ _ rfl (by rw [versionOf_of_find hf]; rfl) (.inl rfl)
        · exact .changed _ _ _ rfl (by rw [versionOf_of_find hf]; rfl) (.inl rfl)

theorem outcome_roomBattleFinished (battleId : String) :
    Outcome s roomId (s.roomBattleFinished now roomId battleId) := by
  unfold roomBattleFinished
  cases hf : s.find roomId with
  | none => exact .rejected _ _
  | some room =>
    dsimp only
    split_ifs
    · exact .rejected _ _
    · exact .changed _ _ _ rfl (by rw [versionOf_of_find hf]; rfl) (.inl rfl)

theorem outcome_roomKick (targetUserId : String) :
    Outcome s roomId (s.roomKick now userId roomId targetUserId) := by
  unfold roomKick
  cases hf : s.find roomId with
  | none => exact .rejected _ _
  | some room =>
    dsimp only
    split_ifs
    · exact .rejected _ _
    · exact .rejected _ _
    · exact .rejected _ _
    · exact .changed _ _ _ rfl (by rw [versionOf_of_find hf]; rfl) (.inl rfl)

theorem outcome_roomTransferOwner (newOwnerId : String) :
    Outcome s roomId (s.roomTransferOwner now userId roomId newOwnerId) := by
  unfold roomTransferOwner
  cases hf : s.find roomId with
  | none => exact .rejected _ _
  | some room =>
    dsimp only
    split_ifs
    · exact .rejected _ _
    · exact .rejected _ _
    · exact .rejected _ _
    · exact .changed _ _ _ rfl (by rw [versionOf_of_find hf]; rfl) (.inl rfl)

theorem outcome_of_reply (s : RoomBackend) (roomId : String) (reply : Reply) :
    Outcome s roomId (s, reply) := by
  cases reply with
  | ok body => exact .idle body
  | error code reason => exact .rejected code reason

/-! ## The handlers -/

/-- The room a request is about. -/
def addressedRoom (payload : Option Json) : String :=
  ((payload.bind (·.find? "room_id")).bind Json.string?).getD ""

theorem addressedRoom_of_stringField {doc : Json} (h : stringField doc "room_id" = .ok roomId) :
    addressedRoom (some doc) = roomId := by
  unfold stringField at h
  cases hfind : doc.find? "room_id" with
  | none => simp [hfind] at h
  | some j =>
    simp only [hfind] at h
    simp [addressedRoom, hfind, Json.getString_eq_ok.mp h]

theorem payload_of_fields {keys : List String} {payload : Option Json} {doc : Json}
    (h : fields keys payload = some doc) : payload = some doc := by
  unfold fields at h
  split at h
  · split at h
    · exact h
    · cases h
  · cases h

/-- A handler whose locked section, called once the fields are read, has an outcome for the
room of the request. -/
theorem ensures_outcome_withFields {keys : List String} {payload : Option Json}
    {k : Json → Except Json.TypeError (RoomBackend × Reply)}
    (h : ∀ doc, Ensures (Outcome s (addressedRoom (some doc))) (k doc)) :
    Ensures (Outcome s (addressedRoom payload)) (s.withFields keys payload k) := by
  unfold withFields
  cases hfields : fields keys payload with
  | none => exact ensures_ok (.rejected _ _)
  | some doc =>
    rw [payload_of_fields hfields]
    exact h doc

/-- Reading the room of the request. -/
theorem ensures_outcome_roomId {doc : Json}
    {k : String → Except Json.TypeError (RoomBackend × Reply)}
    (h : ∀ roomId, Ensures (Outcome s roomId) (k roomId)) :
    Ensures (Outcome s (addressedRoom (some doc))) (stringField doc "room_id" >>= k) := by
  cases hroom : stringField doc "room_id" with
  | error e => exact nofun
  | ok roomId =>
    rw [addressedRoom_of_stringField hroom]
    exact h roomId

/-- Whatever the request, its handler has an outcome for the room of the request. -/
theorem ensures_outcome (payload : Option Json) (now : ℕ) (nowMs : ℤ) (kind : RoomRequest) :
    Ensures (Outcome s (addressedRoom payload)) (s.handler payload now nowMs kind) := by
  cases kind with
  | roomCreate =>
    exact ensures_outcome_withFields fun doc => ensures_bind fun userId =>
      ensures_outcome_roomId fun roomId => ensures_bind fun displayName =>
        ensures_bind fun visibility => ensures_bind fun capacity =>
          ensures_ok (outcome_roomCreate now nowMs _ _ _ _)
  | roomJoin =>
    exact ensures_outcome_withFields fun doc => ensures_bind fun userId =>
      ensures_outcome_roomId fun roomId => ensures_bind fun displayName =>
        ensures_ok (outcome_roomJoin now _)
  | roomReady =>
    exact ensures_outcome_withFields fun doc => ensures_bind fun userId =>
      ensures_outcome_roomId fun roomId => ensures_bind fun ready =>
        ensures_ok (outcome_roomReady now _)
  | roomStartBattle =>
    exact ensures_outcome_withFields fun doc => ensures_bind fun userId =>
      ensures_outcome_roomId fun roomId => ensures_ok (outcome_roomStartBattle now)
  | roomLeave =>
    exact ensures_outcome_withFields fun doc => ensures_bind fun userId =>
      ensures_outcome_roomId fun roomId => ensures_ok (outcome_roomLeave now)
  | roomBattleFinished =>
    exact ensures_outcome_withFields fun doc => ensures_outcome_roomId fun roomId =>
      ensures_bind fun battleId => ensures_ok (outcome_roomBattleFinished now _)
  | roomKick =>
    exact ensures_outcome_withFields fun doc => ensures_bind fun userId =>
      ensures_outcome_roomId fun roomId => ensures_bind fun target =>
        ensures_ok (outcome_roomKick now _)
  | roomTransferOwner =>
    exact ensures_outcome_withFields fun doc => ensures_bind fun userId =>
      ensures_outcome_roomId fun roomId => ensures_bind fun newOwner =>
        ensures_ok (outcome_roomTransferOwner now _)

/-- A request counts at most one battle. -/
theorem step_nextBattleId (s : RoomBackend) (a : RoomAction) :
    (s.step a).nextBattleId = s.nextBattleId ∨ (s.step a).nextBattleId = s.nextBattleId + 1 := by
  cases a with
  | cleanupExpiredRooms now => exact .inl rfl
  | request kind payload now nowMs =>
    have houtcome := ensures_outcome (s := s) payload now nowMs kind
    dsimp only [step, handle]
    cases hr : s.handler payload now nowMs kind with
    | error e => exact .inl rfl
    | ok result =>
      cases houtcome result hr with
      | rejected | idle | removed => exact .inl rfl
      | changed _ _ _ _ _ hcount => exact hcount

end RoomBackend

/-- The requests that only read rooms. -/
inductive RoomRead
  | roomList
  | roomDetail
  | roomStatePush
  deriving DecidableEq, Repr

namespace RoomBackend

/-- The handler of a request that only reads, before `diag_wrap`. -/
def reader (s : RoomBackend) (payload : Option Json) (now : ℕ) (nowMs : ℤ) :
    RoomRead → Except Json.TypeError Reply
  | .roomList => s.handleRoomList now payload
  | .roomDetail => s.handleRoomDetail now payload
  | .roomStatePush => s.handleRoomStatePush now nowMs payload

/-- Any request of the service, inside `diag_wrap`. -/
def serve (s : RoomBackend) (payload : Option Json) (now : ℕ) (nowMs : ℤ) :
    RoomRequest ⊕ RoomRead → RoomBackend × Reply
  | .inl kind => s.handle kind payload now nowMs
  | .inr kind =>
    match s.reader payload now nowMs kind with
    | .ok reply => (s, reply)
    | .error e => (s, .error .kInternalError (what e))

theorem outcome_serve (s : RoomBackend) (payload : Option Json) (now : ℕ) (nowMs : ℤ)
    (kind : RoomRequest ⊕ RoomRead) :
    Outcome s (addressedRoom payload) (s.serve payload now nowMs kind) := by
  rcases kind with kind | kind
  · have houtcome := ensures_outcome (s := s) payload now nowMs kind
    simp only [serve, handle]
    cases hr : s.handler payload now nowMs kind with
    | ok result => exact houtcome result hr
    | error e => exact .rejected _ _
  · simp only [serve]
    cases s.reader payload now nowMs kind with
    | ok reply => exact outcome_of_reply s _ reply
    | error e => exact .rejected _ _

/-- A rejected request leaves the rooms as they are. One that is answered `ok` leaves the
other rooms as they are, and its own room too, up to the activity, or with the next
version. -/
structure Atomic (s : RoomBackend) (roomId : String) (result : RoomBackend × Reply) : Prop where
  rejected : result.2.isOk = false → result.1.rooms = s.rooms
  others : result.2.isOk = true → ∀ id ≠ roomId, result.1.find id = s.find id
  version : result.2.isOk = true → ∀ room, result.1.find roomId = some room →
    (∃ old, s.find roomId = some old ∧
      room = { old with lastActivityAt := room.lastActivityAt }) ∨
    room.version = s.versionOf roomId + 1

theorem Outcome.atomic {result : RoomBackend × Reply} (h : Outcome s roomId result) :
    Atomic s roomId result := by
  cases h with
  | rejected code reason => exact ⟨fun _ => rfl, by simp [Reply.isOk], by simp [Reply.isOk]⟩
  | idle body => exact ⟨by simp [Reply.isOk], fun _ _ _ => rfl, fun _ room hroom => .inl ⟨room, hroom, rfl⟩⟩
  | changed s' room body hrooms hversion =>
    refine ⟨by simp [Reply.isOk], fun _ id hid => ?_, fun _ room' hroom' => .inr ?_⟩
    · rw [find, hrooms, AList.lookup_insert_ne hid]
      rfl
    · rw [find, hrooms, AList.lookup_insert, Option.some_inj] at hroom'
      rw [← hroom', hversion]
  | removed body =>
    refine ⟨by simp [Reply.isOk], fun _ id hid => AList.lookup_erase_ne hid, fun _ room hroom => ?_⟩
    rw [find, AList.lookup_erase] at hroom
    cases hroom

/-- Every request is atomic, whatever its handler does. -/
theorem request_atomic (s : RoomBackend) (payload : Option Json) (now : ℕ) (nowMs : ℤ)
    (kind : RoomRequest ⊕ RoomRead) :
    Atomic s (addressedRoom payload) (s.serve payload now nowMs kind) :=
  (s.outcome_serve payload now nowMs kind).atomic

end RoomBackend

/-! ## Results of battles -/

/-- The status of a room and who is ready in it. -/
def RoomState.readiness (room : RoomState) : RoomStatus × List (String × Bool) :=
  (room.status, room.members.map fun m => (m.userId, m.ready))

namespace RoomBackend

/-- The request changes no ready flag and no status. -/
def Harmless (s s' : RoomBackend) : Prop :=
  ∀ id, (s'.find id).map RoomState.readiness = (s.find id).map RoomState.readiness

/-- A result that reads well reaches the locked section. -/
theorem handle_battleFinished {s : RoomBackend} {doc : Json} {roomId battleId : String}
    (hroom : stringField doc "room_id" = .ok roomId)
    (hbattle : stringField doc "battle_id" = .ok battleId) (now : ℕ) (nowMs : ℤ) :
    s.handle .roomBattleFinished (some doc) now nowMs =
      s.roomBattleFinished now roomId battleId := by
  have hmember : ∀ {key value : String}, stringField doc key = .ok value →
      (doc.find? key).isSome := fun {key value} h => by
    unfold stringField at h
    cases hfind : doc.find? key with
    | none => simp [hfind] at h
    | some j => rfl
  obtain ⟨j, hj⟩ := Option.isSome_iff_exists.mp (hmember hroom)
  obtain ⟨ms, rfl⟩ := Json.object_of_find? hj
  have hfields : fields ["room_id", "battle_id"] (some (.object ms)) = some (.object ms) := by
    simp [fields, hmember hroom, hmember hbattle]
  simp only [handle, handler, handleRoomBattleFinished, withFields, hfields, hroom, hbattle, bind,
    Except.bind, pure, Except.pure]

/-- The result of another battle is harmless exactly when a battle is active, or the room
waits with nobody ready. -/
theorem battleFinished_harmless_iff {s : RoomBackend} {doc : Json} {roomId battleId : String}
    {room : RoomState} (hroomId : stringField doc "room_id" = .ok roomId)
    (hbattleId : stringField doc "battle_id" = .ok battleId)
    (hroom : s.find roomId = some room) (hother : battleId ≠ room.activeBattleId)
    (now : ℕ) (nowMs : ℤ) :
    Harmless s (s.handle .roomBattleFinished (some doc) now nowMs).1 ↔
      room.activeBattleId ≠ "" ∨ room.status = .kWaiting ∧ ∀ m ∈ room.members, m.ready = false := by
  rw [handle_battleFinished hroomId hbattleId]
  by_cases hactive : room.activeBattleId = ""
  · have hfind : ∀ id, (s.roomBattleFinished now roomId battleId).1.find id =
        if id = roomId then some ({ room with
          activeBattleId := ""
          status := .kWaiting
          members := room.members.map fun m : RoomMember => { m with ready := false } }.touch now)
        else s.find id := by
      intro id
      simp only [roomBattleFinished, hroom, hactive, ne_eq, not_true_eq_false, false_and, if_false]
      exact find_setRoom _
    have hstep : Harmless s (s.roomBattleFinished now roomId battleId).1 ↔
        (RoomStatus.kWaiting, room.members.map fun m => (m.userId, false)) = room.readiness := by
      constructor
      · intro h
        have hroom' := h roomId
        rw [hfind, if_pos rfl, hroom, Option.map_some, Option.map_some, Option.some_inj] at hroom'
        simpa [RoomState.readiness, RoomState.touch] using hroom'
      · intro h id
        rw [hfind]
        split_ifs with hid
        · rw [hid, hroom, Option.map_some, Option.map_some, ← h]
          simp [RoomState.readiness, RoomState.touch]
        · rfl
    rw [hstep, RoomState.readiness, Prod.mk.injEq, List.map_inj_left, eq_comm]
    simp only [hactive, ne_eq, not_true_eq_false, false_or, Prod.mk.injEq, true_and]
    exact and_congr_right fun _ => forall₂_congr fun m _ => eq_comm
  · have hsame : (s.roomBattleFinished now roomId battleId).1 = s := by
      simp only [roomBattleFinished, hroom]
      rw [if_pos ⟨hactive, Ne.symm hother⟩]
    rw [hsame]
    exact ⟨fun _ => .inl hactive, fun _ _ => rfl⟩

/-- The result of battle `battle_1` for the room `"r"`. -/
def resultOfBattle : Json := .object [("battle_id", .string "battle_1"), ("room_id", .string "r")]

/-- Two users play a battle, its result arrives, and the first user is ready again. -/
def readyAgain : List RoomAction :=
  [requestOf .roomCreate "a", requestOf .roomJoin "b", requestOf .roomReady "a",
    requestOf .roomReady "b", requestOf .roomStartBattle "a",
    .request .roomBattleFinished (some resultOfBattle) 0 0, requestOf .roomReady "a"]

theorem reachable_readyAgain : ∃ s, Reachable s ∧ ∃ room, s.find "r" = some room ∧
    room.activeBattleId = "" ∧ room.readiness = (.kWaiting, [("a", true), ("b", false)]) ∧
    ((s.handle .roomBattleFinished (some resultOfBattle) 0 0).1.find "r").map
      RoomState.readiness = some (.kWaiting, [("a", false), ("b", false)]) := by
  obtain ⟨s, hs, hroom⟩ : ∃ s, runWith (fun (s : RoomBackend) a => some (s.step a))
      (fun _ _ => True) {} readyAgain = some s ∧ ∃ room, s.find "r" = some room ∧
      room.activeBattleId = "" ∧ room.readiness = (.kWaiting, [("a", true), ("b", false)]) ∧
      ((s.handle .roomBattleFinished (some resultOfBattle) 0 0).1.find "r").map
        RoomState.readiness = some (.kWaiting, [("a", false), ("b", false)]) :=
    ⟨_, rfl, _, rfl, by decide +kernel, by decide +kernel, by decide +kernel⟩
  exact ⟨s, Reaches.runWith (.init ⟨_, _, rfl⟩) hs, hroom⟩

/-- The result that arrives again takes the ready flag back. -/
theorem not_harmless_again : ∃ s, Reachable s ∧ (∃ room, s.find "r" = some room ∧
    "battle_1" ≠ room.activeBattleId) ∧
    ¬Harmless s (s.handle .roomBattleFinished (some resultOfBattle) 0 0).1 := by
  obtain ⟨s, hs, room, hroom, hactive, hready, hafter⟩ := reachable_readyAgain
  refine ⟨s, hs, ⟨room, hroom, by rw [hactive]; decide⟩, fun h => ?_⟩
  have hsame := h "r"
  rw [hafter, hroom, Option.map_some, hready] at hsame
  exact absurd hsame (by decide)

/-- One waiting room with nobody ready. -/
theorem battleFinished_harmless_iff_one : Harmless oneRoom
    (oneRoom.handle .roomBattleFinished (some resultOfBattle) 0 0).1 :=
  (@battleFinished_harmless_iff oneRoom resultOfBattle "r" "battle_1" _ rfl rfl rfl (by decide)
    0 0).mpr (.inr ⟨rfl, by decide⟩)

end RoomBackend

end BoostGateway.Room
