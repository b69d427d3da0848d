import BoostGateway.Room.Invariant

/-!
# Members of rooms

Who is in which room after a request : `room_create` and `room_join` add the user that
asks, `room_leave` and `room_kick` remove one user from one room, an expired room is gone
with its members, and every other request leaves the members of every room as they are.
-/

namespace BoostGateway.Room

def Reply.isOk : Reply → Bool
  | .ok _ => true
  | .error _ _ => false

namespace RoomBackend

/-- The users in a room; none where there is no room. -/
def members (s : RoomBackend) (roomId : String) : List String :=
  ((s.find roomId).map RoomState.userIds).getD []

/-- The user may take others out of the room, but not this one from it. -/
def kicks (s : RoomBackend) (userId roomId targetUserId : String) : Bool :=
  (s.find roomId).any fun room => userId = room.ownerUserId ∧ targetUserId ≠ room.ownerUserId

variable {s : RoomBackend} {userId roomId v q : String}

theorem find_setRoom (room : RoomState) :
    (s.setRoom roomId room).find q = if q = roomId then some room else s.find q := by
  unfold find setRoom
  split_ifs with hq
  · rw [hq, AList.lookup_insert]
  · rw [AList.lookup_insert_ne hq]

theorem members_setRoom (room : RoomState) :
    (s.setRoom roomId room).members q = if q = roomId then room.userIds else s.members q := by
  unfold members
  rw [find_setRoom]
  split_ifs <;> rfl

theorem members_of_find {room : RoomState} (h : s.find roomId = some room) :
    s.members roomId = room.userIds := by
  simp [members, h]

/-- A room that is put back with the same users. -/
theorem members_setRoom_same {room room' : RoomState} (h : s.find roomId = some room)
    (hids : room'.userIds = room.userIds) : (s.setRoom roomId room').members q = s.members q := by
  rw [members_setRoom]
  split_ifs with hq
  · rw [hq, members_of_find h, hids]
  · rfl

variable (now : ℕ)

theorem mem_roomCreate (nowMs : ℤ) (displayName visibility : String) (capacity : UInt32)
    (metadata : Json) (h : v ∈ s.members q) :
    v ∈ (s.roomCreate now nowMs userId roomId displayName visibility capacity
      metadata).1.members q := by
  unfold roomCreate
  split_ifs with hempty hsome
  · exact h
  · exact h
  · rw [members_setRoom, if_neg]
    · exact h
    · rintro rfl
      rw [Bool.not_eq_true, Option.isSome_eq_false_iff, Option.isNone_iff_eq_none] at hsome
      simp [members, hsome] at h

theorem mem_roomCreate_self {now : ℕ} {nowMs : ℤ} {displayName visibility : String}
    {capacity : UInt32} {metadata : Json}
    (h : (s.roomCreate now nowMs userId roomId displayName visibility capacity metadata).2.isOk) :
    userId ∈ (s.roomCreate now nowMs userId roomId displayName visibility capacity
      metadata).1.members roomId := by
  unfold roomCreate at h ⊢
  split_ifs at h ⊢
  · cases h
  · cases h
  · simp [members_setRoom, RoomState.userIds]

theorem mem_roomJoin (displayName : String) (h : v ∈ s.members q) :
    v ∈ (s.roomJoin now userId roomId displayName).1.members q := by
  unfold roomJoin
  cases hfind : s.find roomId with
  | none => exact h
  | some room =>
    dsimp only
    split_ifs
    · exact h
    · exact h
    · exact h
    · exact h
    · rw [members_setRoom]
      split_ifs with hq
      · subst hq
        rw [members_of_find hfind] at h
        obtain ⟨m, hm, rfl⟩ := List.mem_map.mp h
        exact List.mem_map.mpr ⟨m, List.mem_append_left _ hm, rfl⟩
      · exact h

theorem mem_roomJoin_self {now : ℕ} {displayName : String}
    (h : (s.roomJoin now userId roomId displayName).2.isOk) :
    userId ∈ (s.roomJoin now userId roomId displayName).1.members roomId := by
  unfold roomJoin at h ⊢
  cases hfind : s.find roomId with
  | none =>
    rw [hfind] at h
    cases h
  | some room =>
    rw [hfind] at h
    dsimp only at h ⊢
    split_ifs at h ⊢ with h₁ h₂ hmem h₃
    · cases h
    · cases h
    · exact members_of_find hfind ▸ RoomState.mem_userIds_of_findMember hmem
    · cases h
    · simp [members_setRoom, RoomState.userIds, RoomState.touch]

/-- The room waits and takes any number of users. -/
def Open (s : RoomBackend) (roomId : String) : Prop :=
  ∃ room, s.find roomId = some room ∧ room.status = .kWaiting ∧ room.capacity = 0

theorem open_roomCreate {now : ℕ} {nowMs : ℤ} {displayName visibility : String} {metadata : Json}
    (h : (s.roomCreate now nowMs userId roomId displayName visibility 0 metadata).2.isOk) :
    (s.roomCreate now nowMs userId roomId displayName visibility 0 metadata).1.Open roomId := by
  unfold roomCreate at h ⊢
  split_ifs at h ⊢
  · cases h
  · cases h
  · exact ⟨_, by rw [find_setRoom, if_pos rfl], rfl, rfl⟩

/-- Whoever asks joins a room that is open, and it stays open. -/
theorem roomJoin_of_open (h : s.Open roomId) (now : ℕ) (userId displayName : String) :
    (s.roomJoin now userId roomId displayName).1.Open roomId ∧
      userId ∈ (s.roomJoin now userId roomId displayName).1.members roomId := by
  obtain ⟨room, hfind, hstatus, hcapacity⟩ := h
  have hroom : ¬(0 < room.capacity ∧ room.capacity.toNat ≤ room.members.length) := by
    rw [hcapacity]
    exact fun h => absurd h.1 (by decide)
  unfold roomJoin
  simp only [hfind, if_neg (show ¬room.status = .kInInstance by simp [hstatus]),
    if_neg (show ¬room.status = .kClosed by simp [hstatus]), if_neg hroom]
  split_ifs with hmem
  · exact ⟨⟨room, hfind, hstatus, hcapacity⟩,
      members_of_find hfind ▸ RoomState.mem_userIds_of_findMember hmem⟩
  · refine ⟨⟨_, (find_setRoom _).trans (if_pos rfl), hstatus, hcapacity⟩, ?_⟩
    simp [members_setRoom, RoomState.userIds, RoomState.touch]

/-- Only the user that leaves is taken out of the room. -/
theorem mem_roomLeave (h : v ∈ s.members q) (hne : q = roomId → v ≠ userId) :
    v ∈ (s.roomLeave now userId roomId).1.members q := by
  unfold roomLeave
  cases hfind : s.find roomId with
  | none => exact h
  | some room =>
    dsimp only
    by_cases hsame : (room.members.filter (·.userId ≠ userId)).length = room.members.length
    · rw [if_pos hsame]
      exact h
    rw [if_neg hsame]
    have hleft : q = roomId →
        v ∈ (room.members.filter (·.userId ≠ userId)).map RoomMember.userId := by
      rintro rfl
      rw [members_of_find hfind] at h
      obtain ⟨m, hm, rfl⟩ := List.mem_map.mp h
      exact List.mem_map.mpr ⟨m, List.mem_filter.mpr ⟨hm, by simpa using hne rfl⟩, rfl⟩
    clear hsame
    generalize room.members.filter (·.userId ≠ userId) = ms at hleft ⊢
    have hset : ∀ room' : RoomState, room'.members = ms →
        v ∈ (s.setRoom roomId room').members q := by
      intro room' hroom'
      rw [members_setRoom]
      split_ifs with hq
      · rw [RoomState.userIds, hroom']
        exact hleft hq
      · exact h
    cases ms with
    | nil =>
      have hq : q ≠ roomId := fun hq => by simpa using hleft hq
      rw [members, find, AList.lookup_erase_ne hq]
      exact h
    | cons front rest =>
      dsimp only
      split_ifs
      · exact hset _ rfl
      · exact hset _ rfl

/-- Only a user that the owner names is taken out of the room. -/
theorem mem_roomKick (targetUserId : String) (h : v ∈ s.members q)
    (hne : q = roomId → s.kicks userId roomId targetUserId → v ≠ targetUserId) :
    v ∈ (s.roomKick now userId roomId targetUserId).1.members q := by
  unfold roomKick
  cases hfind : s.find roomId with
  | none => exact h
  | some room =>
    dsimp only
    split_ifs with howner hself hsame
    · exact h
    · exact h
    · exact h
    · rw [members_setRoom]
      split_ifs with hq
      · subst hq
        have hne := hne rfl (by simpa [kicks, hfind] using ⟨not_not.mp howner, hself⟩)
        rw [members_of_find hfind] at h
        obtain ⟨m, hm, rfl⟩ := List.mem_map.mp h
        exact List.mem_map.mpr ⟨m, List.mem_filter.mpr ⟨hm, by simpa using hne⟩, rfl⟩
      · exact h

/-- The members of a room that does not expire. -/
theorem mem_cleanupExpiredRooms {now : ℕ} (h : v ∈ s.members q)
    (hstays : (s.find q).any (fun room => !s.expired now room)) :
    v ∈ (s.cleanupExpiredRooms now).members q := by
  obtain ⟨room, hfind, hfresh⟩ := (Option.any_eq_true _ _).mp hstays
  have hkept : ∀ (ids : List String) (rooms : AList fun _ : String => RoomState), q ∉ ids →
      (ids.foldl (fun rooms id => rooms.erase id) rooms).lookup q = rooms.lookup q := by
    intro ids
    induction ids with
    | nil => exact fun _ _ => rfl
    | cons id ids ih =>
      intro rooms hq
      rw [List.mem_cons, not_or] at hq
      rw [List.foldl_cons, ih _ hq.2, AList.lookup_erase_ne hq.1]
  have hq : q ∉ (s.rooms.entries.filter fun e => s.expired now e.2).map Sigma.fst := by
    intro hmem
    obtain ⟨⟨id, room'⟩, he, rfl⟩ := List.mem_map.mp hmem
    obtain ⟨he, hexpired⟩ := List.mem_filter.mp he
    have hroom : s.find id = some room' := AList.mem_lookup_iff.mpr he
    obtain rfl := Option.some.inj (hfind.symm.trans hroom)
    simp [hexpired] at hfresh
  unfold members find cleanupExpiredRooms at *
  dsimp only
  rw [hkept _ _ hq]
  exact h

/-! ## The other requests -/

theorem members_roomReady (ready : Bool) :
    (s.roomReady now userId roomId ready).1.members q = s.members q := by
  unfold roomReady
  cases hfind : s.find roomId with
  | none => rfl
  | some room =>
    dsimp only
    split_ifs
    · rfl
    · exact members_setRoom_same hfind (RoomState.map_userId_setReady ..)

theorem members_roomStartBattle :
    (s.roomStartBattle now userId roomId).1.members q = s.members q := by
  unfold roomStartBattle
  cases hfind : s.find roomId with
  | none => rfl
  | some room =>
    dsimp only
    split_ifs
    · rfl
    · rfl
    · rfl
    · rfl
    · exact members_setRoom_same hfind rfl

theorem members_roomBattleFinished (battleId : String) :
    (s.roomBattleFinished now roomId battleId).1.members q = s.members q := by
  unfold roomBattleFinished
  cases hfind : s.find roomId with
  | none => rfl
  | some room =>
    dsimp only
    split_ifs
    · rfl
    · exact members_setRoom_same hfind (by simp [RoomState.userIds, RoomState.touch])

theorem members_roomTransferOwner (newOwnerId : String) :
    (s.roomTransferOwner now userId roomId newOwnerId).1.members q = s.members q := by
  unfold roomTransferOwner
  cases hfind : s.find roomId with
  | none => rfl
  | some room =>
    dsimp only
    split_ifs
    · rfl
    · rfl
    · rfl
    · exact members_setRoom_same hfind rfl

/-- The requests that change who is in a room. -/
def changesMembers : RoomRequest → Bool
  | .roomCreate | .roomJoin | .roomLeave | .roomKick => true
  | .roomReady | .roomStartBattle | .roomBattleFinished | .roomTransferOwner => false

/-- Any other request keeps the members, whatever its payload. -/
theorem members_handle {kind : RoomRequest} (h : changesMembers kind = false)
    (payload : Option Json) (now : ℕ) (nowMs : ℤ) :
    (s.handle kind payload now nowMs).1.members q = s.members q := by
  have hk : Ensures (fun result => result.1.members q = s.members q)
      (s.handler payload now nowMs kind) := by
    cases kind with
    | roomCreate | roomJoin | roomLeave | roomKick => cases h
    | roomReady =>
      exact ensures_withFields (fun _ => rfl) fun doc => ensures_bind fun userId =>
        ensures_bind fun roomId => ensures_bind fun ready => ensures_ok (members_roomReady now _)
    | roomStartBattle =>
      exact ensures_withFields (fun _ => rfl) fun doc => ensures_bind fun userId =>
        ensures_bind fun roomId => ensures_ok (members_roomStartBattle now)
    | roomBattleFinished =>
      exact ensures_withFields (fun _ => rfl) fun doc => ensures_bind fun roomId =>
        ensures_bind fun battleId => ensures_ok (members_roomBattleFinished now _)
    | roomTransferOwner =>
      exact ensures_withFields (fun _ => rfl) fun doc => ensures_bind fun userId =>
        ensures_bind fun roomId => ensures_bind fun newOwner =>
          ensures_ok (members_roomTransferOwner now _)
  unfold handle
  cases hr : s.handler payload now nowMs kind with
  | error e => rfl
  | ok result => exact hk result hr

end RoomBackend

end BoostGateway.Room
