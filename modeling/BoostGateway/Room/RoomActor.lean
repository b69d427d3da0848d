import Mathlib.Data.List.Basic
import Mathlib.Tactic.SplitIfs

/-!
# The room actor

`RoomActor` (`room_actor.cpp`), the room of a gateway without backends : its messages, and
what it pushes to its sink.

`RoomActor.follows_onMessage` says what a message in the name of a user does to the others :
only a kick, a transfer of the room and its creation anew touch another member or the owner.
-/

namespace BoostGateway.Room

/-- A member. -/
structure RoomMemberState where
  userId : String
  playerActorId : ℕ := 0
  ready : Bool := false

/-- `RoomRuntimeState`. -/
structure RoomActor where
  roomId : String := ""
  ownerUserId : String := ""
  members : List RoomMemberState := []
  activeBattleId : Option String := none
  pendingBattleSettlementReason : Option String := none

/-- What the actor is told. -/
inductive RoomMessage
  | createRoom (roomId ownerUserId : String) (ownerActorId : ℕ)
  | joinRoom (userId : String) (playerActorId : ℕ)
  | setReady (userId : String) (ready : Bool)
  | startBattle (requesterUserId : String)
  | battleStarted (battleId : String)
  | battleSettlement (battleId reason : String)
  | battleEnded (battleId reason : String)
  | leaveRoom (userId : String)
  | kickMember (requesterUserId targetUserId : String)
  | transferOwner (requesterUserId newOwnerUserId : String)

/-- What the actor tells. -/
inductive RoomActorEvent
  | battleStartRequested (roomId : String) (playerIds : List String) (requesterUserId : String)
  | battleStartRejected (roomId reason : String)
  | battleSettlementApplied (roomId battleId reason : String)
  | roomLeaveApplied (roomId userId : String)
  | roomKickApplied (roomId targetUserId : String)
  | roomOwnerTransferred (roomId oldOwnerUserId newOwnerUserId : String)

namespace RoomActor

variable (r : RoomActor)

/-- The users in the room. -/
def userIds : List String := r.members.map (·.userId)

/-- `find_member` finds one. -/
def isMember (userId : String) : Bool := r.members.any (·.userId = userId)

/-- `all_members_ready`. -/
def allMembersReady : Bool := r.members.all (·.ready)

/-- `handle_create_room`. -/
def handleCreateRoom (roomId ownerUserId : String) (ownerActorId : ℕ) : RoomActor :=
  { r with
    roomId := roomId
    ownerUserId := ownerUserId
    members := [{ userId := ownerUserId, playerActorId := ownerActorId }] }

/-- `handle_join_room`. -/
def handleJoinRoom (userId : String) (playerActorId : ℕ) : RoomActor :=
  if r.isMember userId then r
  else { r with
    members := r.members ++ [{ userId := userId, playerActorId := playerActorId }] }

/-- The first member of the name. -/
def setReadyOf (userId : String) (ready : Bool) : List RoomMemberState → List RoomMemberState
  | [] => []
  | m :: ms =>
    if m.userId = userId then { m with ready := ready } :: ms else m :: setReadyOf userId ready ms

/-- `handle_set_ready`. -/
def handleSetReady (userId : String) (ready : Bool) : RoomActor :=
  { r with members := setReadyOf userId ready r.members }

/-- `handle_start_battle`. -/
def handleStartBattle (requesterUserId : String) : List RoomActorEvent :=
  if r.activeBattleId.isSome then [.battleStartRejected r.roomId "battle_already_started"]
  else if requesterUserId ≠ r.ownerUserId then [.battleStartRejected r.roomId "not_room_owner"]
  else if r.members.length < 2 then [.battleStartRejected r.roomId "not_enough_players"]
  else if !r.allMembersReady then [.battleStartRejected r.roomId "not_all_ready"]
  else [.battleStartRequested r.roomId r.userIds requesterUserId]

/-- `handle_battle_started`. -/
def handleBattleStarted (battleId : String) : RoomActor :=
  { r with activeBattleId := some battleId, pendingBattleSettlementReason := none }

/-- `handle_battle_settlement`. -/
def handleBattleSettlement (battleId reason : String) : RoomActor × List RoomActorEvent :=
  if r.activeBattleId ≠ some battleId then (r, [])
  else ({ r with pendingBattleSettlementReason := some reason },
    [.battleSettlementApplied r.roomId battleId reason])

/-- `handle_battle_ended`. -/
def handleBattleEnded (battleId : String) : RoomActor :=
  if r.activeBattleId ≠ some battleId then r
  else { r with
    activeBattleId := none
    pendingBattleSettlementReason := none
    members := r.members.map fun m => { m with ready := false } }

/-- `members_` without a user. -/
def without (userId : String) : RoomActor :=
  { r with members := r.members.filter (·.userId ≠ userId) }

/-- The first member becomes the owner. -/
def reassignOwnerIfNeeded : RoomActor × List RoomActorEvent :=
  match r.members with
  | [] => (r, [])
  | m :: _ => ({ r with ownerUserId := m.userId }, [.roomOwnerTransferred r.roomId "" m.userId])

/-- `handle_leave_room`. -/
def handleLeaveRoom (userId : String) : RoomActor × List RoomActorEvent :=
  if !r.isMember userId then (r, [])
  else
    let left : RoomActorEvent := .roomLeaveApplied r.roomId userId
    if r.ownerUserId = userId then
      let (r, events) := (r.without userId).reassignOwnerIfNeeded
      (r, left :: events)
    else (r.without userId, [left])

/-- `handle_kick_member`. -/
def handleKickMember (requesterUserId targetUserId : String) : RoomActor × List RoomActorEvent :=
  if requesterUserId ≠ r.ownerUserId then (r, [])
  else if targetUserId = r.ownerUserId then (r, [])
  else if !r.isMember targetUserId then (r, [])
  else (r.without targetUserId, [.roomKickApplied r.roomId targetUserId])

/-- `handle_transfer_owner`. -/
def handleTransferOwner (requesterUserId newOwnerUserId : String) :
    RoomActor × List RoomActorEvent :=
  if requesterUserId ≠ r.ownerUserId then (r, [])
  else if newOwnerUserId = r.ownerUserId then (r, [])
  else if !r.isMember newOwnerUserId then (r, [])
  else ({ r with ownerUserId := newOwnerUserId },
    [.roomOwnerTransferred r.roomId r.ownerUserId newOwnerUserId])

/-- `on_message`, with what is pushed to the sink. -/
def onMessage : RoomMessage → RoomActor × List RoomActorEvent
  | .createRoom roomId ownerUserId ownerActorId =>
    (r.handleCreateRoom roomId ownerUserId ownerActorId, [])
  | .joinRoom userId playerActorId => (r.handleJoinRoom userId playerActorId, [])
  | .setReady userId ready => (r.handleSetReady userId ready, [])
  | .startBattle requesterUserId => (r, r.handleStartBattle requesterUserId)
  | .battleStarted battleId => (r.handleBattleStarted battleId, [])
  | .battleSettlement battleId reason => r.handleBattleSettlement battleId reason
  | .battleEnded battleId _ => (r.handleBattleEnded battleId, [])
  | .leaveRoom userId => r.handleLeaveRoom userId
  | .kickMember requesterUserId targetUserId => r.handleKickMember requesterUserId targetUserId
  | .transferOwner requesterUserId newOwnerUserId =>
    r.handleTransferOwner requesterUserId newOwnerUserId

/-! ## What a message does to the others -/

/-- The room has the members and the owner that it had. -/
structure Same (r r' : RoomActor) : Prop where
  userIds : r'.userIds = r.userIds
  owner : r'.ownerUserId = r.ownerUserId

/-- The others are still members, and in a room that has others the owner is the one it had,
unless that was the user. -/
structure Follows (userId : String) (r r' : RoomActor) : Prop where
  stays : ∀ v ≠ userId, v ∈ r.userIds → v ∈ r'.userIds
  owner : ∀ v ≠ userId, v ∈ r.userIds → r.ownerUserId ≠ userId → r'.ownerUserId = r.ownerUserId

variable {r} {r' r'' : RoomActor} {u : String}

theorem Same.refl (r : RoomActor) : Same r r := ⟨rfl, rfl⟩

theorem Same.trans (h : Same r r') (h' : Same r' r'') : Same r r'' :=
  ⟨h'.userIds.trans h.userIds, h'.owner.trans h.owner⟩

theorem Same.follows (h : Same r r') : Follows u r r' :=
  ⟨fun _ _ hv => h.userIds ▸ hv, fun _ _ _ _ => h.owner⟩

/-- In a room without others there is nothing to keep. -/
theorem follows_of_alone (h : ∀ v ∈ r.userIds, v = u) : Follows u r r' :=
  ⟨fun v hne hv => absurd (h v hv) hne, fun v hne hv _ => absurd (h v hv) hne⟩

theorem Follows.trans (h : Follows u r r') (h' : Follows u r' r'') : Follows u r r'' :=
  ⟨fun v hne hv => h'.stays v hne (h.stays v hne hv), fun v hne hv howner =>
    have hr' := h.owner v hne hv howner
    (h'.owner v hne (h.stays v hne hv) (hr'.symm ▸ howner)).trans hr'⟩

/-- The messages that a battle sends change no member and no owner. -/
def OfBattle : RoomMessage → Prop
  | .battleStarted _ | .battleSettlement _ _ | .battleEnded _ _ => True
  | _ => False

theorem same_onMessage {m : RoomMessage} (h : OfBattle m) : Same r (r.onMessage m).1 := by
  cases m with
  | battleStarted battleId => exact ⟨rfl, rfl⟩
  | battleSettlement battleId reason =>
    show Same r (r.handleBattleSettlement battleId reason).1
    unfold handleBattleSettlement
    split_ifs <;> exact ⟨rfl, rfl⟩
  | battleEnded battleId reason =>
    show Same r (r.handleBattleEnded battleId)
    unfold handleBattleEnded
    split_ifs
    · exact ⟨rfl, rfl⟩
    · refine ⟨?_, rfl⟩
      unfold userIds
      rw [List.map_map]
      rfl
  | _ => cases h

/-- The room acknowledges the settlement of its battle, and no other. -/
theorem onMessage_battleSettlement (battleId reason : String) :
    (r.onMessage (.battleSettlement battleId reason)).2 =
      if r.activeBattleId = some battleId then [.battleSettlementApplied r.roomId battleId reason]
      else [] := by
  show (r.handleBattleSettlement battleId reason).2 = _
  unfold handleBattleSettlement
  by_cases h : r.activeBattleId = some battleId
  · rw [if_neg (not_not.mpr h), if_pos h]
  · rw [if_pos h, if_neg h]

theorem userIds_setReadyOf (userId : String) (ready : Bool) (ms : List RoomMemberState) :
    (setReadyOf userId ready ms).map (·.userId) = ms.map (·.userId) := by
  induction ms with
  | nil => rfl
  | cons m ms ih =>
    rw [setReadyOf]
    split_ifs
    · rfl
    · rw [List.map_cons, ih, List.map_cons]

theorem mem_userIds_without (userId : String) {v : String} (hne : v ≠ userId)
    (hv : v ∈ r.userIds) : v ∈ (r.without userId).userIds := by
  obtain ⟨m, hm, rfl⟩ := List.mem_map.mp hv
  exact List.mem_map_of_mem (List.mem_filter.mpr ⟨hm, decide_eq_true hne⟩)

theorem userIds_reassignOwnerIfNeeded : r.reassignOwnerIfNeeded.1.userIds = r.userIds := by
  unfold reassignOwnerIfNeeded
  split <;> rfl

theorem follows_handleLeaveRoom (userId : String) :
    Follows userId r (r.handleLeaveRoom userId).1 := by
  unfold handleLeaveRoom
  split_ifs with hmember howner
  · exact (Same.refl r).follows
  · refine ⟨fun v hne hv => ?_, fun _ _ _ hne => absurd howner hne⟩
    show v ∈ (r.without userId).reassignOwnerIfNeeded.1.userIds
    rw [userIds_reassignOwnerIfNeeded]
    exact mem_userIds_without userId hne hv
  · exact ⟨fun v hne hv => mem_userIds_without userId hne hv, fun _ _ _ _ => rfl⟩

/-- The messages that take nothing from anyone but the user. -/
def Spares (userId : String) : RoomMessage → Prop
  | .joinRoom _ _ | .setReady _ _ | .startBattle _ => True
  | .leaveRoom user => user = userId
  | m => OfBattle m

theorem follows_onMessage {m : RoomMessage} (h : Spares u m) :
    Follows u r (r.onMessage m).1 := by
  cases m with
  | joinRoom userId playerActorId =>
    show Follows u r (r.handleJoinRoom userId playerActorId)
    unfold handleJoinRoom
    split_ifs
    · exact (Same.refl r).follows
    · refine ⟨fun v _ hv => ?_, fun _ _ _ _ => rfl⟩
      unfold userIds
      rw [List.map_append]
      exact List.mem_append_left _ hv
  | setReady userId ready =>
    exact Same.follows ⟨userIds_setReadyOf userId ready r.members, rfl⟩
  | startBattle requesterUserId => exact (Same.refl r).follows
  | leaveRoom userId =>
    obtain rfl : userId = u := h
    exact follows_handleLeaveRoom userId
  | battleStarted battleId => exact (same_onMessage (m := .battleStarted battleId) trivial).follows
  | battleSettlement battleId reason =>
    exact (same_onMessage (m := .battleSettlement battleId reason) trivial).follows
  | battleEnded battleId reason =>
    exact (same_onMessage (m := .battleEnded battleId reason) trivial).follows
  | createRoom _ _ _ | kickMember _ _ | transferOwner _ _ => cases h

end RoomActor

end BoostGateway.Room
