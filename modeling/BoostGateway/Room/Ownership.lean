import BoostGateway.Base.Run
import BoostGateway.Room.RoomActor
import Mathlib.Data.List.Nodup

/-!
# Who owns a room actor

After its creation the users of a room are listed once, a room with members is owned by one of
them, and a battle is requested only by the owner of at least two members that are all ready
(`RoomActor.Consistent`). The owner that leaves hands the room to the first of the others, but
the last one stays the owner of the empty room, so that whoever comes next is in a room of
somebody who left (`RoomActor.Orphans`, `RoomActor.consistent_iff`).
-/

namespace BoostGateway.Room

namespace RoomActor

/-- The users are listed once, and a room with members is owned by one of them. -/
structure Owned (r : RoomActor) : Prop where
  nodup : r.userIds.Nodup
  owner : r.members ≠ [] → r.ownerUserId ∈ r.userIds

/-- No battle is active, the members are two or more and all ready, and the requester owns the
room. -/
structure MayStart (r : RoomActor) (requesterUserId : String) : Prop where
  idle : r.activeBattleId = none
  enough : 2 ≤ r.members.length
  ready : ∀ m ∈ r.members, m.ready = true
  owner : requesterUserId = r.ownerUserId

/-- The room is owned, and starts only as it may. -/
structure Consistent (r : RoomActor) : Prop where
  owned : r.Owned
  starts : ∀ m roomId playerIds requesterUserId,
    .battleStartRequested roomId playerIds requesterUserId ∈ (r.onMessage m).2 →
      r.MayStart requesterUserId

/-- The messages after the creation. -/
def step (r : RoomActor) : RoomMessage → Option RoomActor
  | .createRoom _ _ _ => none
  | m => some (r.onMessage m).1

abbrev Reaches (ok : RoomActor → RoomMessage → Prop) : RoomActor → Prop :=
  BoostGateway.Reaches (fun r => ∃ (r₀ : RoomActor) (roomId ownerUserId : String) (id : ℕ),
    r = (r₀.onMessage (.createRoom roomId ownerUserId id)).1) step ok

/-- Somebody else than the owner comes into the empty room. -/
def Orphans (r : RoomActor) : RoomMessage → Prop
  | .joinRoom userId _ => r.members = [] ∧ userId ≠ r.ownerUserId
  | _ => False

variable {r r' : RoomActor} {m : RoomMessage}

/-! ## Battles are requested by the owner -/

theorem mayStart_of_mem {requesterUserId roomId user : String} {playerIds : List String}
    (h : .battleStartRequested roomId playerIds user ∈ r.handleStartBattle requesterUserId) :
    r.MayStart user := by
  unfold handleStartBattle at h
  split_ifs at h with hactive howner henough hready
  · simp at h
  · simp at h
  · simp at h
  · simp at h
  · obtain ⟨-, -, rfl⟩ : roomId = r.roomId ∧ playerIds = r.userIds ∧ user = requesterUserId := by
      simpa using h
    refine ⟨by simpa using hactive, Nat.le_of_not_lt henough, fun m hm => ?_, not_not.mp howner⟩
    have hall : r.members.all (·.ready) = true := by simpa [allMembersReady] using hready
    exact List.all_eq_true.mp hall m hm

theorem starts_onMessage (r : RoomActor) (m : RoomMessage) {roomId user : String}
    {playerIds : List String}
    (h : .battleStartRequested roomId playerIds user ∈ (r.onMessage m).2) : r.MayStart user := by
  cases m with
  | startBattle requesterUserId => exact mayStart_of_mem h
  | battleSettlement battleId reason =>
    rw [onMessage_battleSettlement] at h
    split_ifs at h <;> simp at h
  | leaveRoom userId =>
    change _ ∈ (r.handleLeaveRoom userId).2 at h
    unfold handleLeaveRoom reassignOwnerIfNeeded at h
    split_ifs at h
    · simp at h
    · dsimp only at h
      split at h <;> simp at h
    · simp at h
  | kickMember requesterUserId targetUserId =>
    change _ ∈ (r.handleKickMember requesterUserId targetUserId).2 at h
    unfold handleKickMember at h
    split_ifs at h <;> simp at h
  | transferOwner requesterUserId newOwnerUserId =>
    change _ ∈ (r.handleTransferOwner requesterUserId newOwnerUserId).2 at h
    unfold handleTransferOwner at h
    split_ifs at h <;> simp at h
  | _ => exact absurd h List.not_mem_nil

theorem Owned.consistent (h : r.Owned) : r.Consistent :=
  ⟨h, fun m _ _ _ => r.starts_onMessage m⟩

/-! ## The owner is a member -/

theorem mem_userIds_iff {userId : String} : userId ∈ r.userIds ↔ r.isMember userId = true := by
  unfold userIds isMember
  simp

theorem Same.owned (h : Same r r') (hr : r.Owned) : r'.Owned := by
  refine ⟨h.userIds ▸ hr.nodup, fun hne => ?_⟩
  rw [h.userIds, h.owner]
  refine hr.owner fun hnil => hne ?_
  have hnone : r.userIds = [] := List.map_eq_nil_iff.mpr hnil
  have hids : r'.userIds = [] := h.userIds.trans hnone
  exact List.map_eq_nil_iff.mp hids

theorem owned_create (r : RoomActor) (roomId ownerUserId : String) (id : ℕ) :
    (r.handleCreateRoom roomId ownerUserId id).Owned :=
  ⟨List.nodup_singleton _, fun _ => List.mem_singleton_self _⟩

theorem userIds_join {userId : String} {id : ℕ} (h : ¬r.isMember userId = true) :
    (r.handleJoinRoom userId id).userIds = r.userIds ++ [userId] := by
  unfold handleJoinRoom
  rw [if_neg h]
  exact List.map_append

theorem userIds_without (userId : String) :
    (r.without userId).userIds = r.userIds.filter (· ≠ userId) := by
  unfold userIds without
  rw [List.filter_map]
  rfl

theorem Owned.without (h : r.Owned) {userId : String} (hne : userId ≠ r.ownerUserId) :
    (r.without userId).Owned := by
  refine ⟨?_, fun hmembers => ?_⟩
  · rw [userIds_without]
    exact h.nodup.filter _
  · rw [userIds_without, List.mem_filter]
    refine ⟨h.owner fun hnil => hmembers ?_, decide_eq_true hne.symm⟩
    unfold RoomActor.without
    rw [hnil]
    rfl

theorem owned_reassign (h : r.userIds.Nodup) : r.reassignOwnerIfNeeded.1.Owned := by
  refine ⟨by rwa [userIds_reassignOwnerIfNeeded], ?_⟩
  rw [userIds_reassignOwnerIfNeeded]
  unfold reassignOwnerIfNeeded userIds
  split
  next hnil => exact fun hne => absurd hnil hne
  next m ms hms =>
    rw [hms]
    exact fun _ => List.mem_cons_self

theorem Owned.join (h : r.Owned) {userId : String} {id : ℕ}
    (hkeep : r.members ≠ [] ∨ userId = r.ownerUserId) : (r.handleJoinRoom userId id).Owned := by
  by_cases hmem : r.isMember userId = true
  · unfold handleJoinRoom
    rwa [if_pos hmem]
  · have howner : (r.handleJoinRoom userId id).ownerUserId = r.ownerUserId := by
      unfold handleJoinRoom
      rw [if_neg hmem]
    refine ⟨?_, fun _ => ?_⟩
    · rw [userIds_join hmem]
      exact List.nodup_append.mpr ⟨h.nodup, List.nodup_singleton _, fun u hu v hv huv =>
        hmem (mem_userIds_iff.mp (List.mem_singleton.mp hv ▸ huv ▸ hu))⟩
    · rw [userIds_join hmem, howner, List.mem_append]
      exact hkeep.imp h.owner fun heq => List.mem_singleton.mpr heq.symm

/-- One step keeps the room consistent unless it orphans it. -/
theorem Owned.onMessage (h : r.Owned) (hm : ¬r.Orphans m) : (r.onMessage m).1.Owned := by
  cases m with
  | createRoom roomId ownerUserId id => exact owned_create r roomId ownerUserId id
  | joinRoom userId id =>
    refine h.join ?_
    by_cases hnil : r.members = []
    · exact .inr (not_not.mp fun hne => hm ⟨hnil, hne⟩)
    · exact .inl hnil
  | setReady userId ready => exact Same.owned ⟨userIds_setReadyOf userId ready r.members, rfl⟩ h
  | startBattle requesterUserId => exact h
  | battleStarted battleId =>
    exact (same_onMessage (m := .battleStarted battleId) trivial).owned h
  | battleSettlement battleId reason =>
    exact (same_onMessage (m := .battleSettlement battleId reason) trivial).owned h
  | battleEnded battleId reason =>
    exact (same_onMessage (m := .battleEnded battleId reason) trivial).owned h
  | leaveRoom userId =>
    show (r.handleLeaveRoom userId).1.Owned
    unfold handleLeaveRoom
    split_ifs with hmember howner
    · exact h
    · refine owned_reassign ?_
      rw [userIds_without]
      exact h.nodup.filter _
    · exact h.without (Ne.symm howner)
  | kickMember requesterUserId targetUserId =>
    show (r.handleKickMember requesterUserId targetUserId).1.Owned
    unfold handleKickMember
    split_ifs with hrequester htarget hmember
    · exact h
    · exact h
    · exact h
    · exact h.without htarget
  | transferOwner requesterUserId newOwnerUserId =>
    show (r.handleTransferOwner requesterUserId newOwnerUserId).1.Owned
    unfold handleTransferOwner
    split_ifs with hrequester hsame hmember
    · exact h
    · exact h
    · exact h
    · have hmem : newOwnerUserId ∈ r.userIds := mem_userIds_iff.mpr (by simpa using hmember)
      exact ⟨h.nodup, fun _ => hmem⟩

/-- Whoever comes into the empty room of another user is not its owner. -/
theorem not_owned_of_orphans (hm : r.Orphans m) : ¬(r.onMessage m).1.Owned := by
  cases m with
  | joinRoom userId id =>
    obtain ⟨hnil, hne⟩ := hm
    have hmem : ¬r.isMember userId = true := by simp [isMember, hnil]
    intro h
    change (r.handleJoinRoom userId id).Owned at h
    have howner := h.owner (by simp [handleJoinRoom, hmem])
    rw [userIds_join hmem, userIds, hnil] at howner
    have heq : r.ownerUserId = userId := by simpa [handleJoinRoom, hmem] using howner
    exact hne heq.symm
  | _ => cases hm

theorem Reaches.owned (h : r.Reaches fun r m => ¬r.Orphans m) : r.Owned := by
  refine h.invariant (P := Owned) ?_ ?_
  · rintro r ⟨r₀, roomId, ownerUserId, id, rfl⟩
    exact owned_create r₀ roomId ownerUserId id
  · intro r m r' hr hm hs
    cases m with
    | createRoom _ _ _ => cases hs
    | _ =>
      obtain rfl := Option.some.inj hs
      exact hr.onMessage hm

/-- In a run in which nobody else than the owner comes into the empty room the room is
consistent, and it stays so exactly as long as that does not happen. -/
theorem consistent_iff (h : r.Reaches fun r m => ¬r.Orphans m) :
    r.Consistent ∧ ∀ m r', r.step m = some r' → (r'.Consistent ↔ ¬r.Orphans m) := by
  refine ⟨h.owned.consistent, fun m r' hs => ?_⟩
  obtain rfl : (r.onMessage m).1 = r' := by
    cases m with
    | createRoom _ _ _ => cases hs
    | _ => exact Option.some.inj hs
  exact ⟨fun hr' hm => not_owned_of_orphans hm hr'.owned,
    fun hm => (h.owned.onMessage hm).consistent⟩

instance (r : RoomActor) : ∀ m, Decidable (r.Orphans m)
  | .joinRoom userId _ => decidable_of_iff (r.members.isEmpty = true ∧ userId ≠ r.ownerUserId)
      (by simp [Orphans])
  | .createRoom _ _ _ | .setReady _ _ | .startBattle _ | .battleStarted _ | .battleSettlement _ _
  | .battleEnded _ _ | .leaveRoom _ | .kickMember _ _ | .transferOwner _ _ => .isFalse id

theorem reaches_created (ok : RoomActor → RoomMessage → Prop) :
    Reaches ok (handleCreateRoom {} "r" "owner" 1) :=
  .init ⟨{}, "r", "owner", 1, rfl⟩

/-- The owner leaves the room to the other member. -/
theorem consistent_iff_left : ∃ r, (Reaches (fun r m => ¬r.Orphans m) r ∧
    r.userIds = ["member"]) ∧ r.Consistent := by
  obtain ⟨r, hr, hids⟩ := (reaches_created fun r m => ¬r.Orphans m).exists_runWith
    (P := fun r => r.userIds = ["member"])
    [.joinRoom "member" 2, .leaveRoom "owner"] (by decide +kernel)
  exact ⟨r, ⟨hr, hids⟩, (consistent_iff hr).1⟩

/-- The owner leaves the room empty before the other user comes. -/
theorem not_consistent : ¬∀ r, Reaches (fun _ _ => True) r → r.Consistent := by
  intro hall
  obtain ⟨r, hr, hids, howner⟩ := (reaches_created fun _ _ => True).exists_runWith
    (P := fun r => r.userIds = ["member"] ∧ r.ownerUserId = "owner")
    [.leaveRoom "owner", .joinRoom "member" 2] (by decide +kernel)
  have hmem := (hall r hr).owned.owner (by rintro hnil; simp [userIds, hnil] at hids)
  rw [hids, howner] at hmem
  exact absurd hmem (by decide)

end RoomActor

end BoostGateway.Room
