import Mathlib.Data.List.AList

/-!
# The rooms of the classic gateway

`RoomManager` (`room_manager.cpp`) keeps the rooms and, beside them, the room of every
session. A session in a room that creates or joins another one leaves the first on the way,
and a login may hand the place of one session to another (`transferSession`).

`Sound` : the two maps agree, and the owner of a room is one of its members. Two operations
break it : the only member of a room joins that room again, which makes it anew without an
owner, and a place is handed to a session that has another room, of which it stays a member.

A session is named by its address; an operation of a null pointer is one of `none`. The
members of a room are an unordered map : its first element is taken from outside.
-/

namespace BoostGateway.Classic

/-- The address of a session. -/
abbrev SessionKey := ℕ

/-- A member of a room. -/
structure RoomMember where
  session : Option SessionKey := none
  memberUserId : String := ""
  ready : Bool := false

/-- A room. -/
structure RoomState where
  owner : Option SessionKey := none
  members : AList fun _ : SessionKey => RoomMember := ∅

/-- What others see of a room. -/
structure RoomSnapshot where
  roomId : String
  owner : Option SessionKey
  battleStarted : Bool
  members : List RoomMember

/-- What becomes of a new room. -/
inductive CreateRoomResult
  | kOk
  | kSessionNotFound
  | kInvalidRoomId
  | kRoomAlreadyExists
  deriving DecidableEq

/-- What becomes of a join. -/
inductive JoinRoomResult
  | kOk
  | kSessionNotFound
  | kInvalidRoomId
  | kRoomNotFound
  | kRoomInBattle
  deriving DecidableEq

/-- What becomes of a leave. -/
inductive LeaveRoomResult
  | kOk
  | kSessionNotFound
  | kNotInRoom
  deriving DecidableEq

/-- What becomes of a ready mark. -/
inductive ReadyResult
  | kOk
  | kSessionNotFound
  | kNotInRoom
  | kRoomInBattle
  deriving DecidableEq

/-- The room after an action. -/
structure RoomActionOutcome where
  roomId : String := ""
  playerCount : ℕ := 0

/-- `members.begin()` : the member `first` where there is one. -/
def RoomState.begin (room : RoomState) (first : SessionKey) : Option RoomMember :=
  (room.members.lookup first).or (room.members.entries.head?.map Sigma.snd)

/-- `RoomManager`. -/
structure RoomManager where
  rooms : AList fun _ : String => RoomState := ∅
  sessionRooms : AList fun _ : SessionKey => String := ∅

namespace RoomManager

/-! ## Operations -/

/-- A room without one of its members; none where no one is left. -/
def removeMember (room : RoomState) (key first : SessionKey) : Option RoomState :=
  let members := room.members.erase key
  let owner := if room.owner = some key then
      if members.entries = [] then none
      else ({ room with members }.begin first).bind RoomMember.session
    else room.owner
  if members.entries = [] then none else some { owner, members }

variable (m : RoomManager)

/-- `remove_from_room_unlocked`. -/
def removeFromRoom (key first : SessionKey) : RoomManager :=
  match m.sessionRooms.lookup key with
  | none => m
  | some roomId =>
    let rooms := match m.rooms.lookup roomId with
      | none => m.rooms
      | some room =>
        match removeMember room key first with
        | none => m.rooms.erase roomId
        | some room => m.rooms.insert roomId room
    { rooms, sessionRooms := m.sessionRooms.erase key }

/-- `create_room`. -/
def createRoom (session : Option SessionKey) (roomId : String)
    (first : SessionKey) : RoomManager × CreateRoomResult × RoomActionOutcome :=
  match session with
  | none => (m, .kSessionNotFound, {})
  | some key =>
    if roomId = "" then (m, .kInvalidRoomId, {})
    else if (m.rooms.lookup roomId).isSome then (m, .kRoomAlreadyExists, {})
    else
      let m := m.removeFromRoom key first
      let room : RoomState :=
        { owner := some key
          members := (∅ : AList fun _ => RoomMember).insert key { session := some key } }
      ({ rooms := m.rooms.insert roomId room, sessionRooms := m.sessionRooms.insert key roomId },
        .kOk, { roomId, playerCount := 1 })

/-- `inBattle` is `battle_active_query_`. -/
def joinRoom (inBattle : String → Bool) (session : Option SessionKey)
    (roomId : String) (first : SessionKey) :
    RoomManager × JoinRoomResult × RoomActionOutcome :=
  match session with
  | none => (m, .kSessionNotFound, {})
  | some key =>
    if roomId = "" then (m, .kInvalidRoomId, {})
    else match m.rooms.lookup roomId with
      | none => (m, .kRoomNotFound, {})
      | some room =>
        if inBattle roomId then
          (m, .kRoomInBattle, { roomId, playerCount := room.members.entries.length })
        else
          let m := m.removeFromRoom key first
          -- The session itself may have been the last member of the room.
          let room := (m.rooms.lookup roomId).getD {}
          let members := room.members.insert key { session := some key }
          ({ rooms := m.rooms.insert roomId { room with members }
             sessionRooms := m.sessionRooms.insert key roomId },
            .kOk, { roomId, playerCount := members.entries.length })

/-- `member_count`. -/
def memberCount (roomId : String) : ℕ :=
  ((m.rooms.lookup roomId).map fun room => room.members.entries.length).getD 0

/-- `leave_room`. -/
def leaveRoom (session : Option SessionKey) (first : SessionKey) :
    RoomManager × LeaveRoomResult × RoomActionOutcome :=
  match session with
  | none => (m, .kSessionNotFound, {})
  | some key =>
    match m.sessionRooms.lookup key with
    | none => (m, .kNotInRoom, {})
    | some roomId =>
      let m := m.removeFromRoom key first
      (m, .kOk, { roomId, playerCount := m.memberCount roomId })

/-- The record of a member is changed in its place. -/
def setMember (roomId : String) (room : RoomState) (key : SessionKey)
    (member : RoomMember) : RoomManager :=
  { m with rooms := m.rooms.insert roomId { room with members := room.members.insert key member } }

/-- `set_ready`. -/
def setReady (inBattle : String → Bool) (session : Option SessionKey)
    (ready : Bool) : RoomManager × ReadyResult × RoomActionOutcome :=
  match session with
  | none => (m, .kSessionNotFound, {})
  | some key =>
    match m.sessionRooms.lookup key with
    | none => (m, .kNotInRoom, {})
    | some roomId =>
      match m.rooms.lookup roomId with
      | none => (m, .kNotInRoom, {})
      | some room =>
        if inBattle roomId then
          (m, .kRoomInBattle, { roomId, playerCount := room.members.entries.length })
        else
          let m := m.setMember roomId room key { (room.members.lookup key).getD {} with ready }
          (m, .kOk, { roomId, playerCount := m.memberCount roomId })

/-- `transfer_session`. -/
def transferSession (fromKey toKey : SessionKey) : RoomManager × Bool :=
  match m.sessionRooms.lookup fromKey with
  | none => (m, false)
  | some roomId =>
    match m.rooms.lookup roomId with
    | none => (m, false)
    | some room =>
      match room.members.lookup fromKey with
      | none => (m, false)
      | some member =>
        let room' : RoomState :=
          { owner := if room.owner = some fromKey then some toKey else room.owner
            members := (room.members.erase fromKey).insert toKey
              { member with session := some toKey } }
        ({ rooms := m.rooms.insert roomId room'
           sessionRooms := (m.sessionRooms.erase fromKey).insert toKey roomId }, true)

/-- `remove_session`. -/
def removeSession (session first : SessionKey) : RoomManager :=
  m.removeFromRoom session first

/-- `room_id_of`. -/
def roomIdOf (session : SessionKey) : Option String :=
  m.sessionRooms.lookup session

/-- `room_snapshot`. -/
def roomSnapshot (inBattle : String → Bool) (roomId : String) : Option RoomSnapshot :=
  (m.rooms.lookup roomId).map fun room =>
    { roomId, owner := room.owner, battleStarted := inBattle roomId
      members := room.members.entries.map Sigma.snd }

/-- `room_snapshot_of`. -/
def roomSnapshotOf (inBattle : String → Bool) (session : SessionKey) : Option RoomSnapshot :=
  (m.sessionRooms.lookup session).bind fun roomId => m.roomSnapshot inBattle roomId

/-- `room_members`. -/
def roomMembers (roomId : String) : List (Option SessionKey) :=
  ((m.rooms.lookup roomId).map fun room => room.members.entries.map (·.2.session)).getD []

/-- `set_member_user_id`. -/
def setMemberUserId (key : SessionKey) (userId : String) : RoomManager :=
  match m.sessionRooms.lookup key with
  | none => m
  | some roomId =>
    match m.rooms.lookup roomId with
    | none => m
    | some room =>
      match room.members.lookup key with
      | none => m
      | some member => m.setMember roomId room key { member with memberUserId := userId }

end RoomManager

/-! ## Maps that agree -/

/-- The owner is one of the members, and every member is found under its session. -/
structure RoomState.Sound (room : RoomState) : Prop where
  owner : ∃ key, room.owner = some key ∧ key ∈ room.members
  sessions : ∀ key member, room.members.lookup key = some member → member.session = some key

namespace RoomManager

/-- The session is a member of the room. -/
def IsMember (m : RoomManager) (s : SessionKey) (r : String) : Prop :=
  ∃ room, m.rooms.lookup r = some room ∧ s ∈ room.members

/-- A session has the room that it is a member of. -/
structure Sound (m : RoomManager) : Prop where
  maps : ∀ s r, m.sessionRooms.lookup s = some r ↔ m.IsMember s r
  rooms : ∀ r room, m.rooms.lookup r = some room → room.Sound

variable {m : RoomManager} {s key : SessionKey} {r q : String} {room room' : RoomState}

theorem sound_empty : Sound {} where
  maps s r := by simp [IsMember]
  rooms r room h := by simp at h

theorem isMember_of_lookup (h : m.rooms.lookup r = some room) :
    m.IsMember s r ↔ s ∈ room.members := by
  simp [IsMember, h]

theorem Sound.isMember_unique (h : m.Sound) (hr : m.IsMember s r) (hq : m.IsMember s q) :
    r = q := by
  rw [← h.maps] at hr hq
  exact Option.some.inj (hr.symm.trans hq)

/-- A room is put in, of which exactly its members have it as their room. -/
theorem Sound.put (h : m.Sound) (hroom : room.Sound)
    {sessionRooms : AList fun _ : SessionKey => String}
    (hmaps : ∀ s q, sessionRooms.lookup s = some q ↔
      if q = r then s ∈ room.members else m.sessionRooms.lookup s = some q) :
    Sound { rooms := m.rooms.insert r room, sessionRooms } where
  maps s q := by
    rw [hmaps]
    split_ifs with hq
    · rw [hq, isMember_of_lookup (AList.lookup_insert m.rooms)]
    · rw [IsMember, AList.lookup_insert_ne hq]
      exact h.maps s q
  rooms q room' hfind := by
    by_cases hq : q = r
    · rw [hq, AList.lookup_insert] at hfind
      rwa [← Option.some.inj hfind]
    · rw [AList.lookup_insert_ne hq] at hfind
      exact h.rooms q room' hfind

/-! ## A member leaves -/

theorem entries_ne_nil_of_mem {members : AList fun _ : SessionKey => RoomMember}
    (h : s ∈ members) : members.entries ≠ [] := by
  intro hnil
  have hkeys : members.keys = [] := by rw [AList.keys, hnil]; rfl
  rw [AList.mem_keys, hkeys] at h
  cases h

variable {first : SessionKey}

/-- The first member of a room is one of its members. -/
theorem begin_lookup (h : room.members.entries ≠ []) :
    ∃ key member, room.begin first = some member ∧ room.members.lookup key = some member := by
  rw [RoomState.begin]
  cases hfirst : room.members.lookup first with
  | some member => exact ⟨first, member, rfl, hfirst⟩
  | none =>
    cases hentries : room.members.entries with
    | nil => exact absurd hentries h
    | cons entry entries =>
      refine ⟨entry.1, entry.2, by simp, ?_⟩
      rw [AList.lookup, hentries, List.dlookup_cons_eq]

theorem mem_of_lookup {members : AList fun _ : SessionKey => RoomMember} {member : RoomMember}
    (h : members.lookup key = some member) : key ∈ members := by
  rw [← AList.lookup_isSome, h]
  rfl

theorem lookup_of_lookup_erase {members : AList fun _ : SessionKey => RoomMember}
    {member : RoomMember} (h : (members.erase key).lookup s = some member) :
    s ≠ key ∧ members.lookup s = some member := by
  have hs : s ≠ key := by
    rintro rfl
    rw [AList.lookup_erase] at h
    cases h
  rw [AList.lookup_erase_ne hs] at h
  exact ⟨hs, h⟩

theorem removeMember_some (hroom : room.Sound) (h : removeMember room key first = some room') :
    room'.Sound ∧ room'.members = room.members.erase key := by
  have hsessions : ∀ k member, (room.members.erase key).lookup k = some member →
      member.session = some k := fun k member hfind =>
    hroom.sessions k member (lookup_of_lookup_erase hfind).2
  unfold removeMember at h
  dsimp only at h
  split_ifs at h with hnil howner
  · -- The owner leaves, and the first one of the others owns the room.
    obtain rfl := Option.some.inj h
    obtain ⟨k, member, hbegin, hlookup⟩ : ∃ k member,
        ({ room with members := room.members.erase key } : RoomState).begin first = some member ∧
          (room.members.erase key).lookup k = some member := begin_lookup hnil
    refine ⟨⟨⟨k, ?_, mem_of_lookup hlookup⟩, hsessions⟩, rfl⟩
    rw [hbegin, Option.bind_some]
    exact hsessions k member hlookup
  · obtain rfl := Option.some.inj h
    obtain ⟨k, hk, hmem⟩ := hroom.owner
    have hne : k ≠ key := fun heq => howner (heq ▸ hk)
    exact ⟨⟨⟨k, hk, AList.mem_erase.mpr ⟨hne, hmem⟩⟩, hsessions⟩, rfl⟩

theorem removeMember_none (h : removeMember room key first = none)
    (hs : s ∈ room.members) : s = key := by
  unfold removeMember at h
  dsimp only at h
  by_contra hne
  have hmem : s ∈ room.members.erase key := AList.mem_erase.mpr ⟨hne, hs⟩
  have hnil := entries_ne_nil_of_mem hmem
  simp [hnil] at h

/-- The members that are left, in the room where there is one. -/
theorem mem_removeMember (hroom : room.Sound) :
    (∃ room', removeMember room key first = some room' ∧ s ∈ room'.members) ↔
      s ≠ key ∧ s ∈ room.members := by
  constructor
  · rintro ⟨room', hsome, hs⟩
    rw [(removeMember_some hroom hsome).2] at hs
    exact AList.mem_erase.mp hs
  · rintro ⟨hne, hs⟩
    cases hremove : removeMember room key first with
    | none => exact absurd (removeMember_none hremove hs) hne
    | some room' =>
      refine ⟨room', rfl, ?_⟩
      rw [(removeMember_some hroom hremove).2]
      exact AList.mem_erase.mpr ⟨hne, hs⟩

theorem lookup_removeFromRoom (hkey : m.sessionRooms.lookup key = some r)
    (hfind : m.rooms.lookup r = some room) : (m.removeFromRoom key first).rooms.lookup q =
      if q = r then removeMember room key first else m.rooms.lookup q := by
  rw [removeFromRoom, hkey]
  dsimp only
  rw [hfind]
  dsimp only
  split_ifs with hq
  · rw [hq]
    cases removeMember room key first with
    | none => exact AList.lookup_erase r m.rooms
    | some room' => exact AList.lookup_insert m.rooms
  · cases removeMember room key first with
    | none => exact AList.lookup_erase_ne hq
    | some room' => exact AList.lookup_insert_ne hq

theorem lookup_sessionRooms_removeFromRoom :
    (m.removeFromRoom key first).sessionRooms.lookup s =
      if s = key then none else m.sessionRooms.lookup s := by
  rw [removeFromRoom]
  cases hkey : m.sessionRooms.lookup key with
  | none =>
    split_ifs with hs
    · rw [hs, hkey]
    · rfl
  | some r =>
    dsimp only
    split_ifs with hs
    · rw [hs, AList.lookup_erase]
    · rw [AList.lookup_erase_ne hs]

theorem removeFromRoom_of_none (h : m.sessionRooms.lookup key = none) :
    m.removeFromRoom key first = m := by
  rw [removeFromRoom, h]

theorem isMember_removeFromRoom (h : m.Sound) {first : SessionKey} :
    (m.removeFromRoom key first).IsMember s q ↔ s ≠ key ∧ m.IsMember s q := by
  cases hkey : m.sessionRooms.lookup key with
  | none =>
    rw [removeFromRoom_of_none hkey, iff_and_self]
    rintro hs rfl
    rw [← h.maps, hkey] at hs
    cases hs
  | some r =>
    obtain ⟨room, hfind, hmem⟩ := (h.maps key r).mp hkey
    rw [IsMember, lookup_removeFromRoom hkey hfind]
    split_ifs with hq
    · rw [mem_removeMember (h.rooms r room hfind), hq, isMember_of_lookup hfind]
    · rw [← IsMember, iff_and_self]
      rintro hs rfl
      exact hq (h.isMember_unique hs ⟨room, hfind, hmem⟩)

theorem Sound.removeFromRoom (h : m.Sound) (key first : SessionKey) :
    (m.removeFromRoom key first).Sound where
  maps s q := by
    rw [isMember_removeFromRoom h, lookup_sessionRooms_removeFromRoom, ← h.maps]
    split_ifs with hs
    · simp [hs]
    · simp [hs]
  rooms q room' hfind' := by
    cases hkey : m.sessionRooms.lookup key with
    | none =>
      rw [removeFromRoom_of_none hkey] at hfind'
      exact h.rooms q room' hfind'
    | some r =>
      obtain ⟨room, hfind, -⟩ := (h.maps key r).mp hkey
      rw [lookup_removeFromRoom hkey hfind] at hfind'
      split_ifs at hfind' with hq
      · exact (removeMember_some (h.rooms r room hfind) hfind').1
      · exact h.rooms q room' hfind'

/-- A room exists as long as someone is in it. -/
theorem Sound.exists_isMember (h : m.Sound) :
    (∃ s, m.IsMember s r) ↔ (m.rooms.lookup r).isSome := by
  constructor
  · rintro ⟨s, room, hfind, -⟩
    rw [hfind]
    rfl
  · intro hsome
    obtain ⟨room, hfind⟩ := Option.isSome_iff_exists.mp hsome
    obtain ⟨s, -, hs⟩ := (h.rooms r room hfind).owner
    exact ⟨s, room, hfind, hs⟩

/-! ## The operations keep the maps -/

/-- The session has no other member of its room beside it. -/
def Alone (m : RoomManager) (s : SessionKey) (r : String) : Prop :=
  m.sessionRooms.lookup s = some r ∧
    (m.rooms.lookup r).any fun room => room.members.keys = [s]

instance : Decidable (m.Alone s r) := inferInstanceAs (Decidable (_ ∧ _))

theorem Alone.isSome (h : m.Alone s r) : (m.rooms.lookup r).isSome := by
  obtain ⟨room, hfind, -⟩ := (Option.any_eq_true _ _).mp h.2
  rw [hfind]
  rfl

theorem exists_other (h : m.Sound) (hs : m.IsMember s r) (halone : ¬m.Alone s r) :
    ∃ t, t ≠ s ∧ m.IsMember t r := by
  obtain ⟨room, hfind, hmem⟩ := hs
  by_contra hall
  push Not at hall
  refine halone ⟨(h.maps s r).mpr ⟨room, hfind, hmem⟩, ?_⟩
  have hkeys : room.members.keys = [s] := by
    have hnodup := room.members.keys_nodup
    have honly : ∀ t ∈ room.members.keys, t = s := fun t ht => by
      by_contra hne
      exact hall t hne ⟨room, hfind, AList.mem_keys.mpr ht⟩
    have hs' : s ∈ room.members.keys := AList.mem_keys.mp hmem
    generalize room.members.keys = keys at *
    match keys, hnodup, honly, hs' with
    | [t], _, honly, _ => rw [honly t (by simp)]
    | t :: u :: keys, hnodup, honly, _ =>
      have ht := honly t (by simp)
      have hu := honly u (by simp)
      simp [ht, hu] at hnodup
  rw [hfind, Option.any_some, hkeys]
  simp

/-- A session without a room is put into one. -/
theorem Sound.place (h : m.Sound) (hkey : m.sessionRooms.lookup key = none) (hroom : room.Sound)
    (hmem : ∀ s, s ∈ room.members ↔ s = key ∨ m.IsMember s r) :
    Sound { rooms := m.rooms.insert r room, sessionRooms := m.sessionRooms.insert key r } := by
  refine h.put hroom fun s q => ?_
  rw [hmem, ← h.maps]
  by_cases hs : s = key
  · rw [hs, AList.lookup_insert, hkey]
    simp [eq_comm]
  · rw [AList.lookup_insert_ne hs]
    split_ifs with hq
    · simp [hs, hq]
    · rfl

/-- A member of a room is put in, anew or for the first time. -/
theorem sound_insertMember (hroom : room.Sound) {member : RoomMember}
    (hsession : member.session = some key) :
    RoomState.Sound { room with members := room.members.insert key member } where
  owner := by
    obtain ⟨k, hk, hmem⟩ := hroom.owner
    exact ⟨k, hk, (AList.mem_insert room.members).mpr (Or.inr hmem)⟩
  sessions k member' hfind := by
    by_cases hk : k = key
    · rw [hk, AList.lookup_insert] at hfind
      rw [← Option.some.inj hfind, hsession, hk]
    · rw [AList.lookup_insert_ne hk] at hfind
      exact hroom.sessions k member' hfind

theorem sound_single (key : SessionKey) : RoomState.Sound
    { owner := some key
      members := (∅ : AList fun _ => RoomMember).insert key { session := some key } } where
  owner := ⟨key, rfl, (AList.mem_insert ∅).mpr (Or.inl rfl)⟩
  sessions k member hfind := by
    by_cases hk : k = key
    · rw [hk, AList.lookup_insert] at hfind
      rw [← Option.some.inj hfind, hk]
    · rw [AList.lookup_insert_ne hk, AList.lookup_empty] at hfind
      cases hfind

theorem Sound.createRoom (h : m.Sound) (session : Option SessionKey) (r : String)
    (first : SessionKey) : (m.createRoom session r first).1.Sound := by
  cases session with
  | none => exact h
  | some key =>
    unfold RoomManager.createRoom
    dsimp only
    split_ifs with hempty hexists
    · exact h
    · exact h
    · refine (h.removeFromRoom key first).place ?_ (sound_single key) fun s => ?_
      · rw [lookup_sessionRooms_removeFromRoom, if_pos rfl]
      · have hno : ¬m.IsMember s r := fun hs => hexists (h.exists_isMember.mp ⟨s, hs⟩)
        rw [AList.mem_insert, isMember_removeFromRoom h]
        simp [hno]

/-- A room is still there when a session that has others beside it has left. -/
theorem isSome_removeFromRoom (h : m.Sound) (first : SessionKey)
    (hfind : (m.rooms.lookup r).isSome) (halone : ¬m.Alone key r) :
    ((m.removeFromRoom key first).rooms.lookup r).isSome := by
  rw [← (h.removeFromRoom key first).exists_isMember]
  obtain ⟨s, hs⟩ := h.exists_isMember.mpr hfind
  by_cases hkey : s = key
  · obtain ⟨t, ht, hmem⟩ := exists_other h hs (hkey ▸ halone)
    exact ⟨t, (isMember_removeFromRoom h).mpr ⟨hkey ▸ ht, hmem⟩⟩
  · exact ⟨s, (isMember_removeFromRoom h).mpr ⟨hkey, hs⟩⟩

theorem Sound.joinRoom (h : m.Sound) {inBattle : String → Bool} {session : Option SessionKey}
    {r : String} (first : SessionKey)
    (halone : r ≠ "" → inBattle r = false → ∀ key, session = some key → ¬m.Alone key r) :
    (m.joinRoom inBattle session r first).1.Sound := by
  cases session with
  | none => exact h
  | some key =>
    unfold RoomManager.joinRoom
    dsimp only
    by_cases hempty : r = ""
    · rw [if_pos hempty]
      exact h
    rw [if_neg hempty]
    cases hfind : m.rooms.lookup r with
    | none => exact h
    | some room =>
      dsimp only
      cases hbattle : inBattle r with
      | true => exact h
      | false =>
        obtain ⟨room', hfind'⟩ := Option.isSome_iff_exists.mp
          (isSome_removeFromRoom h first (hfind ▸ rfl) (halone hempty hbattle key rfl))
        have h' := h.removeFromRoom key first
        rw [hfind', Option.getD_some, if_neg Bool.false_ne_true]
        refine h'.place ?_ (sound_insertMember (h'.rooms r room' hfind') rfl) fun s => ?_
        · rw [lookup_sessionRooms_removeFromRoom, if_pos rfl]
        · rw [isMember_of_lookup hfind', AList.mem_insert]

/-- A member is written over. -/
theorem Sound.setMember (h : m.Sound) (hfind : m.rooms.lookup r = some room)
    (hmem : key ∈ room.members) {member : RoomMember} (hsession : member.session = some key) :
    (m.setMember r room key member).Sound := by
  refine h.put (sound_insertMember (h.rooms r room hfind) hsession) fun s q => ?_
  split_ifs with hq
  · rw [h.maps, hq, isMember_of_lookup hfind, AList.mem_insert, iff_or_self]
    rintro rfl
    exact hmem
  · rfl

theorem Sound.setReady (h : m.Sound) (inBattle : String → Bool) (session : Option SessionKey)
    (ready : Bool) : (m.setReady inBattle session ready).1.Sound := by
  cases session with
  | none => exact h
  | some key =>
    unfold RoomManager.setReady
    dsimp only
    split
    · exact h
    · rename_i r hkey
      split
      · exact h
      · rename_i room hfind
        split_ifs
        · exact h
        · have hmem : key ∈ room.members :=
            (isMember_of_lookup hfind).mp ((h.maps key r).mp hkey)
          obtain ⟨member, hmember⟩ := Option.isSome_iff_exists.mp (AList.lookup_isSome.mpr hmem)
          refine h.setMember hfind hmem ?_
          rw [hmember]
          exact (h.rooms r room hfind).sessions key member hmember

theorem Sound.setMemberUserId (h : m.Sound) (key : SessionKey) (userId : String) :
    (m.setMemberUserId key userId).Sound := by
  unfold RoomManager.setMemberUserId
  split
  · exact h
  · split
    · exact h
    · rename_i r _ _ room hfind
      split
      · exact h
      · rename_i member hmember
        exact h.setMember hfind (mem_of_lookup hmember)
          ((h.rooms r room hfind).sessions key member hmember)

/-- The place of a session goes to one that has no other room. -/
theorem Sound.transferSession (h : m.Sound) {fromKey toKey : SessionKey}
    (hto : ∀ r q, m.sessionRooms.lookup fromKey = some r →
      m.sessionRooms.lookup toKey = some q → q = r) :
    (m.transferSession fromKey toKey).1.Sound := by
  unfold RoomManager.transferSession
  split
  · exact h
  · rename_i r hfrom
    split
    · exact h
    · rename_i room hfind
      split
      · exact h
      · rename_i member hmember
        have hroom := h.rooms r room hfind
        have hmem (s : SessionKey) : s ∈ (room.members.erase fromKey).insert toKey
            { member with session := some toKey } ↔ s = toKey ∨ s ≠ fromKey ∧ s ∈ room.members := by
          rw [AList.mem_insert, AList.mem_erase]
        refine h.put ⟨?_, ?_⟩ fun s q => ?_
        · obtain ⟨k, hk, hkmem⟩ := hroom.owner
          by_cases hkf : k = fromKey
          · exact ⟨toKey, by simp [hk, hkf], (hmem toKey).mpr (Or.inl rfl)⟩
          · exact ⟨k, by simp [hk, hkf], (hmem k).mpr (Or.inr ⟨hkf, hkmem⟩)⟩
        · intro k member' hfind'
          by_cases hk : k = toKey
          · rw [hk, AList.lookup_insert] at hfind'
            rw [← Option.some.inj hfind', hk]
          · rw [AList.lookup_insert_ne hk] at hfind'
            exact hroom.sessions k member' (lookup_of_lookup_erase hfind').2
        · have hroomOf : s ∈ room.members ↔ m.sessionRooms.lookup s = some r := by
            rw [h.maps, isMember_of_lookup hfind]
          dsimp only
          by_cases hs : s = toKey
          · rw [hs, AList.lookup_insert, Option.some.injEq]
            split_ifs with hq
            · exact iff_of_true hq.symm ((hmem toKey).mpr (Or.inl rfl))
            · exact iff_of_false (fun heq => hq heq.symm) fun hsome => hq (hto r q hfrom hsome)
          · rw [AList.lookup_insert_ne hs, hmem, hroomOf]
            by_cases hsf : s = fromKey
            · rw [hsf, AList.lookup_erase, hfrom]
              split_ifs with hq
              · simp [← hsf, hs]
              · simp [Ne.symm hq]
            · rw [AList.lookup_erase_ne hsf]
              split_ifs with hq
              · simp [hs, hsf, hq]
              · rfl

/-! ## Rooms that stay -/

theorem isSome_insert (hfind : (m.rooms.lookup q).isSome) :
    ((m.rooms.insert r room).lookup q).isSome := by
  by_cases hq : q = r
  · rw [hq, AList.lookup_insert]
    rfl
  · rwa [AList.lookup_insert_ne hq]

theorem isSome_createRoom (h : m.Sound) (first : SessionKey) (hfind : (m.rooms.lookup q).isSome)
    (halone : m.Alone key q → r = "" ∨ (m.rooms.lookup r).isSome) :
    ((m.createRoom (some key) r first).1.rooms.lookup q).isSome := by
  unfold createRoom
  dsimp only
  split_ifs with hempty hexists
  · exact hfind
  · exact hfind
  · exact isSome_insert (isSome_removeFromRoom h first hfind fun ha =>
      (halone ha).elim hempty hexists)

theorem isSome_joinRoom (h : m.Sound) {inBattle : String → Bool} (first : SessionKey)
    (hfind : (m.rooms.lookup q).isSome)
    (halone : m.Alone key q → r = "" ∨ (m.rooms.lookup r).isSome = false ∨ inBattle r) :
    ((m.joinRoom inBattle (some key) r first).1.rooms.lookup q).isSome := by
  unfold joinRoom
  dsimp only
  by_cases hempty : r = ""
  · rwa [if_pos hempty]
  rw [if_neg hempty]
  cases hr : m.rooms.lookup r with
  | none => exact hfind
  | some room =>
    dsimp only
    cases hbattle : inBattle r with
    | true => exact hfind
    | false =>
      refine isSome_insert (isSome_removeFromRoom h first hfind fun ha => ?_)
      rcases halone ha with hr' | hr' | hr'
      · exact hempty hr'
      · rw [hr] at hr'
        cases hr'
      · rw [hbattle] at hr'
        cases hr'

theorem isSome_setReady {inBattle : String → Bool} (ready : Bool)
    (hfind : (m.rooms.lookup q).isSome) :
    ((m.setReady inBattle (some key) ready).1.rooms.lookup q).isSome := by
  unfold setReady
  dsimp only
  split
  · exact hfind
  · split
    · exact hfind
    · split_ifs
      · exact hfind
      · exact isSome_insert hfind

theorem isSome_setMemberUserId (userId : String) (hfind : (m.rooms.lookup q).isSome) :
    ((m.setMemberUserId key userId).rooms.lookup q).isSome := by
  unfold setMemberUserId
  split
  · exact hfind
  · split
    · exact hfind
    · split
      · exact hfind
      · exact isSome_insert hfind

theorem isSome_transferSession {toKey : SessionKey} (hfind : (m.rooms.lookup q).isSome) :
    ((m.transferSession key toKey).1.rooms.lookup q).isSome := by
  unfold transferSession
  split
  · exact hfind
  · split
    · exact hfind
    · split
      · exact hfind
      · exact isSome_insert hfind

theorem isSome_of_memberCount (h : m.memberCount r ≠ 0) : (m.rooms.lookup r).isSome := by
  rw [memberCount] at h
  cases hr : m.rooms.lookup r with
  | some room => rfl
  | none =>
    rw [hr] at h
    exact absurd rfl h

end RoomManager

end BoostGateway.Classic
