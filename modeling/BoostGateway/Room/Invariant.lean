import Mathlib.Data.List.Nodup
import BoostGateway.Room.RoomBackend

/-!
# The rooms are sound

Nine operations change the members, the owner, the status and the battle of a room, each
on its own. `Sound` says what they keep, `sound_roomCreate` and the like that each
locked section keeps it, and `rooms_sound` that every room of every reachable state has
it.
-/

namespace BoostGateway.Room

/-- At least one member and at most `capacity`, each once, the owner among them, and a
battle exactly while the room is in an instance. -/
structure RoomState.Sound (room : RoomState) : Prop where
  members : room.members ≠ []
  distinct : room.userIds.Nodup
  owner : room.ownerUserId ∈ room.userIds
  capacity : 0 < room.capacity → room.members.length ≤ room.capacity.toNat
  battle : room.status = .kInInstance ↔ room.activeBattleId ≠ ""

/-- Every room is sound. -/
def RoomBackend.Sound (s : RoomBackend) : Prop := ∀ id room, s.find id = some room → room.Sound

/-! ## Rooms -/

namespace RoomState

variable {room : RoomState}

theorem Sound.touch (h : room.Sound) (now : ℕ) : (room.touch now).Sound :=
  ⟨h.members, h.distinct, h.owner, h.capacity, h.battle⟩

theorem mem_userIds_of_findMember {userId : String} (h : (room.findMember userId).isSome) :
    userId ∈ room.userIds := by
  obtain ⟨m, hm⟩ := Option.isSome_iff_exists.mp h
  have hname : m.userId = userId := by simpa using List.find?_some hm
  exact hname ▸ List.mem_map_of_mem (List.mem_of_find?_eq_some hm)

theorem notMem_userIds_of_findMember {userId : String} (h : ¬(room.findMember userId).isSome) :
    userId ∉ room.userIds := by
  rw [Option.not_isSome_iff_eq_none, findMember, List.find?_eq_none] at h
  intro hmem
  obtain ⟨m, hm, rfl⟩ := List.mem_map.mp hmem
  exact h m hm (by simp)

/-- Changes of the members that keep their names. -/
theorem Sound.mapMembers (h : room.Sound) {ms : List RoomMember}
    (hms : ms.map RoomMember.userId = room.userIds) : ({ room with members := ms }).Sound := by
  have hlen : ms.length = room.members.length := by
    simpa [userIds] using congrArg List.length hms
  refine ⟨fun hnil => h.members ?_, ?_, ?_, fun hc => ?_, h.battle⟩
  · rw [← List.length_eq_zero_iff, ← hlen, List.length_eq_zero_iff]
    exact hnil
  · rw [userIds, hms]
    exact h.distinct
  · rw [userIds, hms]
    exact h.owner
  · rw [hlen]
    exact h.capacity hc

theorem map_userId_setReady (userId : String) (ready : Bool) (ms : List RoomMember) :
    (setReady userId ready ms).map RoomMember.userId = ms.map RoomMember.userId := by
  induction ms with
  | nil => rfl
  | cons m ms ih =>
    rw [setReady]
    split_ifs
    · rfl
    · rw [List.map_cons, List.map_cons, ih]

/-- The members other than `userId`, under an owner who is one of them. -/
theorem Sound.filterMembers (h : room.Sound) {userId owner : String}
    (ho : owner ∈ (room.members.filter (·.userId ≠ userId)).map RoomMember.userId) :
    ({ room with
      members := room.members.filter (·.userId ≠ userId)
      ownerUserId := owner }).Sound := by
  refine ⟨fun hnil => ?_, ?_, ho, fun hc => ?_, h.battle⟩
  · have hnil : room.members.filter (·.userId ≠ userId) = [] := hnil
    rw [hnil] at ho
    simp at ho
  · exact h.distinct.sublist (List.filter_sublist.map _)
  · exact Nat.le_trans (List.length_filter_le _ _) (h.capacity hc)

theorem Sound.owner_filter (h : room.Sound) {userId : String} (hne : userId ≠ room.ownerUserId) :
    room.ownerUserId ∈ (room.members.filter (·.userId ≠ userId)).map RoomMember.userId := by
  obtain ⟨m, hm, hmo⟩ := List.mem_map.mp h.owner
  refine List.mem_map.mpr ⟨m, List.mem_filter.mpr ⟨hm, ?_⟩, hmo⟩
  simpa [hmo] using Ne.symm hne

end RoomState

/-! ## The store -/

namespace RoomBackend

variable {s : RoomBackend} {roomId userId : String} {room : RoomState}

theorem Sound.setRoom (h : s.Sound) (hr : room.Sound) : (s.setRoom roomId room).Sound := by
  intro id r hfind
  simp only [find, RoomBackend.setRoom] at hfind
  by_cases heq : id = roomId
  · subst heq
    rw [AList.lookup_insert, Option.some_inj] at hfind
    exact hfind ▸ hr
  · rw [AList.lookup_insert_ne heq] at hfind
    exact h id r hfind

theorem lookup_of_lookup_erase {rooms : AList fun _ : String => RoomState} {id : String}
    (h : (rooms.erase roomId).lookup id = some room) : rooms.lookup id = some room := by
  by_cases heq : id = roomId
  · subst heq
    rw [AList.lookup_erase] at h
    simp at h
  · rwa [AList.lookup_erase_ne heq] at h

theorem Sound.erase (h : s.Sound) : ({ s with rooms := s.rooms.erase roomId }).Sound :=
  fun id r hfind => h id r (lookup_of_lookup_erase hfind)

theorem sound_cleanupExpiredRooms (h : s.Sound) (now : ℕ) : (s.cleanupExpiredRooms now).Sound := by
  have hfold : ∀ (ids : List String) (rooms : AList fun _ : String => RoomState) {id : String}
      {r : RoomState}, (ids.foldl (fun rooms id => rooms.erase id) rooms).lookup id = some r →
        rooms.lookup id = some r := by
    intro ids
    induction ids with
    | nil => exact fun _ _ _ hr => hr
    | cons x ids ih => exact fun rooms _ _ hr => lookup_of_lookup_erase (ih _ hr)
  exact fun id r hfind => h id r (hfold _ s.rooms hfind)

/-! ## The locked sections -/

theorem sound_roomCreate (h : s.Sound) (now : ℕ) (nowMs : ℤ) (displayName visibility : String)
    (capacity : UInt32) (metadata : Json) :
    (s.roomCreate now nowMs userId roomId displayName visibility capacity metadata).1.Sound := by
  unfold roomCreate
  split_ifs
  · exact h
  · exact h
  · refine h.setRoom ⟨by simp, List.nodup_singleton _, by simp [RoomState.userIds], ?_, by simp⟩
    intro hc
    exact UInt32.lt_iff_toNat_lt.mp hc

theorem sound_roomJoin (h : s.Sound) (now : ℕ) (displayName : String) :
    (s.roomJoin now userId roomId displayName).1.Sound := by
  unfold roomJoin
  cases hf : s.find roomId with
  | none => exact h
  | some room =>
    have hr := h roomId room hf
    dsimp only
    split_ifs with _ _ hmem hfull
    · exact h
    · exact h
    · exact h
    · exact h
    · have hnew := RoomState.notMem_userIds_of_findMember hmem
      refine h.setRoom (RoomState.Sound.touch ?_ now)
      refine ⟨by simp, ?_, ?_, fun hc => ?_, hr.battle⟩
      · rw [RoomState.userIds, List.map_append, List.nodup_append]
        refine ⟨hr.distinct, List.nodup_singleton _, ?_⟩
        rintro x hx _ hy rfl
        obtain rfl : x = userId := List.mem_singleton.mp hy
        exact hnew hx
      · rw [RoomState.userIds, List.map_append]
        exact List.mem_append_left _ hr.owner
      · have hlt : room.members.length < room.capacity.toNat :=
          Nat.lt_of_not_le fun hle => hfull ⟨hc, hle⟩
        rw [List.length_append]
        exact hlt

theorem sound_roomReady (h : s.Sound) (now : ℕ) (ready : Bool) :
    (s.roomReady now userId roomId ready).1.Sound := by
  unfold roomReady
  cases hf : s.find roomId with
  | none => exact h
  | some room =>
    dsimp only
    split_ifs
    · exact h
    · exact h.setRoom (((h roomId room hf).mapMembers
        (RoomState.map_userId_setReady userId ready room.members)).touch now)

theorem sound_roomStartBattle (h : s.Sound) (now : ℕ) :
    (s.roomStartBattle now userId roomId).1.Sound := by
  unfold roomStartBattle
  cases hf : s.find roomId with
  | none => exact h
  | some room =>
    have hr := h roomId room hf
    dsimp only
    split_ifs
    · exact h
    · exact h
    · exact h
    · exact h
    · refine h.setRoom (RoomState.Sound.touch ?_ now)
      have hne : "battle_" ++ toString s.nextBattleId ≠ "" := by
        intro heq
        have := congrArg String.length heq
        simp at this
      exact ⟨hr.members, hr.distinct, hr.owner, hr.capacity, fun _ => hne, fun _ => rfl⟩

theorem sound_roomLeave (h : s.Sound) (now : ℕ) : (s.roomLeave now userId roomId).1.Sound := by
  unfold roomLeave
  cases hf : s.find roomId with
  | none => exact h
  | some room =>
    have hr := h roomId room hf
    dsimp only
    split
    · exact h
    · split
      · exact h.erase
      · rename_i front rest hms
        split
        · have hfront : front.userId ∈
              (room.members.filter (·.userId ≠ userId)).map RoomMember.userId := by
            rw [hms]
            exact List.mem_cons_self
          exact h.setRoom ((hr.filterMembers hfront).touch now)
        · rename_i hown
          have hne : userId ≠ room.ownerUserId := fun heq => hown (by simp [heq])
          exact h.setRoom ((hr.filterMembers (hr.owner_filter hne)).touch now)

theorem sound_roomBattleFinished (h : s.Sound) (now : ℕ) (battleId : String) :
    (s.roomBattleFinished now roomId battleId).1.Sound := by
  unfold roomBattleFinished
  cases hf : s.find roomId with
  | none => exact h
  | some room =>
    dsimp only
    split_ifs
    · exact h
    · have hms : (room.members.map fun m : RoomMember => { m with ready := false }).map
          RoomMember.userId = room.userIds := by simp [RoomState.userIds]
      have hr := (h roomId room hf).mapMembers hms
      refine h.setRoom (RoomState.Sound.touch ?_ now)
      exact ⟨hr.members, hr.distinct, hr.owner, hr.capacity, by simp⟩

theorem sound_roomKick (h : s.Sound) (now : ℕ) (targetUserId : String) :
    (s.roomKick now userId roomId targetUserId).1.Sound := by
  unfold roomKick
  cases hf : s.find roomId with
  | none => exact h
  | some room =>
    have hr := h roomId room hf
    dsimp only
    split_ifs with _ hself
    · exact h
    · exact h
    · exact h
    · exact h.setRoom ((hr.filterMembers (hr.owner_filter hself)).touch now)

theorem sound_roomTransferOwner (h : s.Sound) (now : ℕ) (newOwnerId : String) :
    (s.roomTransferOwner now userId roomId newOwnerId).1.Sound := by
  unfold roomTransferOwner
  cases hf : s.find roomId with
  | none => exact h
  | some room =>
    have hr := h roomId room hf
    dsimp only
    split_ifs with _ hmem
    · exact h
    · exact h
    · exact h
    · refine h.setRoom (RoomState.Sound.touch ?_ now)
      have hown : newOwnerId ∈ room.userIds :=
        RoomState.mem_userIds_of_findMember (by simpa [Option.isSome_iff_ne_none] using hmem)
      exact ⟨hr.members, hr.distinct, hown, hr.capacity, hr.battle⟩

/-! ## The handlers -/

theorem ensures_withFields {P : RoomBackend × Reply → Prop} {keys : List String}
    {payload : Option Json} {k : Json → Except Json.TypeError (RoomBackend × Reply)}
    (hs : ∀ reply, P (s, reply)) (hk : ∀ doc, Ensures P (k doc)) :
    Ensures P (s.withFields keys payload k) := by
  unfold withFields
  cases fields keys payload with
  | none => exact ensures_ok (hs _)
  | some doc => exact hk doc

/-- Whatever the request, its handler leaves sound rooms. -/
theorem ensures_handler (h : s.Sound) (payload : Option Json) (now : ℕ) (nowMs : ℤ)
    (kind : RoomRequest) :
    Ensures (fun result => result.1.Sound) (s.handler payload now nowMs kind) := by
  cases kind with
  | roomCreate =>
    exact ensures_withFields (fun _ => h) fun doc => ensures_bind fun userId =>
      ensures_bind fun roomId => ensures_bind fun displayName => ensures_bind fun visibility =>
        ensures_bind fun capacity => ensures_ok (sound_roomCreate h now nowMs _ _ _ _)
  | roomJoin =>
    exact ensures_withFields (fun _ => h) fun doc => ensures_bind fun userId =>
      ensures_bind fun roomId => ensures_bind fun displayName => ensures_ok (sound_roomJoin h now _)
  | roomReady =>
    exact ensures_withFields (fun _ => h) fun doc => ensures_bind fun userId =>
      ensures_bind fun roomId => ensures_bind fun ready => ensures_ok (sound_roomReady h now _)
  | roomStartBattle =>
    exact ensures_withFields (fun _ => h) fun doc => ensures_bind fun userId =>
      ensures_bind fun roomId => ensures_ok (sound_roomStartBattle h now)
  | roomLeave =>
    exact ensures_withFields (fun _ => h) fun doc => ensures_bind fun userId =>
      ensures_bind fun roomId => ensures_ok (sound_roomLeave h now)
  | roomBattleFinished =>
    exact ensures_withFields (fun _ => h) fun doc => ensures_bind fun roomId =>
      ensures_bind fun battleId => ensures_ok (sound_roomBattleFinished h now _)
  | roomKick =>
    exact ensures_withFields (fun _ => h) fun doc => ensures_bind fun userId =>
      ensures_bind fun roomId => ensures_bind fun target => ensures_ok (sound_roomKick h now _)
  | roomTransferOwner =>
    exact ensures_withFields (fun _ => h) fun doc => ensures_bind fun userId =>
      ensures_bind fun roomId => ensures_bind fun newOwner =>
        ensures_ok (sound_roomTransferOwner h now _)

theorem sound_step (h : s.Sound) (a : RoomAction) : (s.step a).Sound := by
  cases a with
  | request kind payload now nowMs =>
    have hk := ensures_handler h payload now nowMs kind
    simp only [step, handle]
    cases hr : s.handler payload now nowMs kind with
    | error e => exact h
    | ok result => exact hk result hr
  | cleanupExpiredRooms now => exact sound_cleanupExpiredRooms h now

theorem rooms_sound (h : Reachable s) : s.Sound := by
  refine h.invariant ?_ fun s a s' hs _ hstep => ?_
  · rintro s ⟨frames, ttl, rfl⟩ id room hfind
    cases hfind
  · obtain rfl := Option.some_inj.mp hstep
    exact sound_step hs a

/-- A request of `userId` for the room `"r"`. -/
def requestOf (kind : RoomRequest) (userId : String) : RoomAction :=
  .request kind (some (.object [("room_id", .string "r"), ("user_id", .string userId)])) 0 0

/-- Two users meet in a room and start a battle, and the owner leaves. -/
def ownerLeaves : List RoomAction :=
  [requestOf .roomCreate "a", requestOf .roomJoin "b", requestOf .roomReady "a",
    requestOf .roomReady "b", requestOf .roomStartBattle "a", requestOf .roomLeave "a"]

theorem rooms_sound_ownerLeaves : ∃ s, Reachable s ∧
    (∃ room, s.find "r" = some room ∧ room.userIds = ["b"] ∧ room.ownerUserId = "b" ∧
      room.status = .kInInstance) ∧ s.Sound := by
  obtain ⟨s, hs, hroom⟩ : ∃ s, runWith (fun (s : RoomBackend) a => some (s.step a))
      (fun _ _ => True) {} ownerLeaves = some s ∧
      ∃ room, s.find "r" = some room ∧ room.userIds = ["b"] ∧ room.ownerUserId = "b" ∧
        room.status = .kInInstance :=
    ⟨_, rfl, _, rfl, by decide +kernel, by decide +kernel, by decide +kernel⟩
  have hr : Reachable s := Reaches.runWith (.init ⟨_, _, rfl⟩) hs
  exact ⟨s, hr, hroom, rooms_sound hr⟩

end RoomBackend

end BoostGateway.Room
