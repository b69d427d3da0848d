import BoostGateway.Gateway.RoomCalls

/-!
# Sessions bound to a room are members of it

The gateway binds a session to a room, and the members of the room are kept by the room
backend (`RoomWorld`), which answers every request. `Honest` : a session that has a user and
is bound to a room has a member of the room as its user.

Three commands change one side only. `room_kick` takes a member out of the room and leaves
its session bound, another user may log in on a bound session, and a user with two sessions
in the room leaves it with one of them. `BindingReaches.honest` : a run without these, in
which no room of a bound session expires, keeps `Honest`; the room of a match is new, so all
its players join it.
-/

namespace BoostGateway.Gateway

open Json Battle Service Room

namespace BridgeRuntime

variable {V : Type*}

/-- A session that has a user and a room has a member of the room as its user. -/
def Honest (g : BridgeRuntime (RoomWorld V)) : Prop :=
  ∀ s, g.lookup.userIdFor s ≠ "" → g.lookup.roomIdFor s ≠ "" →
    g.lookup.userIdFor s ∈ g.world.rooms.members (g.lookup.roomIdFor s)

/-- The sessions that are bound to the room and the user. -/
def sessionsOf {W : Type*} (g : BridgeRuntime W) (roomId userId : String) : List SessionId :=
  (g.lookup.sessionsInRoom roomId).filter (g.lookup.userIdFor · = userId)

theorem mem_sessionsOf {W : Type*} {g : BridgeRuntime W} {s : SessionId}
    (h : g.lookup.roomIdFor s ≠ "") :
    s ∈ g.sessionsOf (g.lookup.roomIdFor s) (g.lookup.userIdFor s) := by
  refine List.mem_filter.mpr ⟨g.lookupSound.mem_sessionsInRoom.mpr ?_, by simp⟩
  exact SessionLookup.lookup_of_roomIdFor h

/-- The session has a user and a room. -/
def InRoom {W : Type*} (g : BridgeRuntime W) (s : SessionId) : Prop :=
  g.lookup.userIdFor s ≠ "" ∧ g.lookup.roomIdFor s ≠ ""

instance {W : Type*} (g : BridgeRuntime W) (s : SessionId) : Decidable (g.InRoom s) :=
  inferInstanceAs (Decidable (_ ∧ _))

/-- No other session of the user is in the room of the session. -/
def AloneIn {W : Type*} (g : BridgeRuntime W) (s : SessionId) : Prop :=
  g.InRoom s → ∀ t ∈ g.sessionsOf (g.lookup.roomIdFor s) (g.lookup.userIdFor s), t = s

instance {W : Type*} (g : BridgeRuntime W) (s : SessionId) : Decidable (g.AloneIn s) :=
  inferInstanceAs (Decidable (_ → _))

/-! ## Runs -/

open Match (MatchResult)

/-- What happens to a gateway. -/
inductive RoomEvent
  | command (c : GatewayCommand)
  | sessionClosed (sessionId : SessionId)
  | matchFound (result : MatchResult)
  /-- A route worker runs the first task. -/
  | routeTask
  | cleanupExpiredRooms (now : ℕ)

variable (p : Platform) (e : Elsewhere V) (g : BridgeRuntime (RoomWorld V))

def roomStep : RoomEvent → Option (BridgeRuntime (RoomWorld V))
  | .command c => some (g.handle p (behindBridge p e) c).1
  | .sessionClosed s => some (g.onSessionClosed p (behindBridge p e) s)
  | .matchFound result => some (g.onMatchFound p (behindBridge p e) result).1
  | .routeTask =>
    match g.battleRouteTasks with
    | [] => none
    | task :: tasks =>
      some ({ g with battleRouteTasks := tasks }.runBattleRouteTask p (behindBridge p e) task).1
  | .cleanupExpiredRooms now =>
    some { g with world := { g.world with rooms := g.world.rooms.cleanupExpiredRooms now } }

/-- A login that is accepted is one of a member of the session's room. -/
def LoginKeepsRoom (c : GatewayCommand) : Prop :=
  ∀ body ∈ loginBody c,
    (acceptedLogin (behindBridge p e g.world (loginCall p body)).2).isSome →
      g.lookup.roomIdFor c.sessionId = "" ∨
        body.userId ∈ g.world.rooms.members (g.lookup.roomIdFor c.sessionId)

/-- The owner kicks no user that has a session in the room. -/
def KicksNoSession (c : GatewayCommand) : Prop :=
  g.InRoom c.sessionId →
    g.world.rooms.kicks (g.lookup.userIdFor c.sessionId) (g.lookup.roomIdFor c.sessionId) c.body →
      c.body = "" ∨ g.sessionsOf (g.lookup.roomIdFor c.sessionId) c.body = []

def CommandKeepsHonest (c : GatewayCommand) : Prop :=
  match c.type with
  | .kLogin => g.LoginKeepsRoom p e c
  | .kRoomLeave => g.AloneIn c.sessionId
  | .kRoomKick => g.KicksNoSession c
  | _ => True

/-- What an event has to meet, in the state before it. -/
def KeepsHonest : RoomEvent → Prop
  | .command c =>
    g.isSessionAllowed c.sessionId c.protocolMessageId = true → g.CommandKeepsHonest p e c
  | .sessionClosed s => g.AloneIn s
  | .matchFound _ | .routeTask => True
  | .cleanupExpiredRooms now =>
    ∀ entry ∈ g.lookup.roomsBySessionId.entries, g.lookup.userIdFor entry.1 ≠ "" →
      (g.world.rooms.find entry.2).any fun room => !g.world.rooms.expired now room

/-- The gateways that events lead to, from one without sessions. -/
abbrev RoomReaches (ok : BridgeRuntime (RoomWorld V) → RoomEvent → Prop) :
    BridgeRuntime (RoomWorld V) → Prop :=
  Reaches (fun g => g.lookup = {}) (roomStep p e) ok

/-! ## What keeps the sessions honest -/

variable {p e g} {g' : BridgeRuntime (RoomWorld V)} {s : SessionId} {u r : String}

theorem Honest.of_members (h : g.Honest) (hlookup : g'.lookup = g.lookup)
    (hmembers : ∀ v q, v ∈ g.world.rooms.members q → v ∈ g'.world.rooms.members q) :
    g'.Honest := by
  intro s hu hr
  rw [hlookup] at hu hr ⊢
  exact hmembers _ _ (h s hu hr)

theorem Honest.keepsSessions (h : g.Honest)
    (hk : KeepsSessions (behindBridge p e) KeepsMembers g g') : g'.Honest := by
  obtain ⟨calls, hcalls, -, hworld⟩ := hk.calls
  refine h.of_members hk.lookup fun v q hv => ?_
  rw [hworld, members_worldAfter hcalls]
  exact hv

theorem Honest.still (h : g.Honest) (hs : Still (behindBridge p e) g g') : g'.Honest :=
  h.keepsSessions (hs.mono fun _ => False.elim).keepsSessions

theorem Honest.routed {change : BridgeRuntime (RoomWorld V) → BridgeRuntime (RoomWorld V)}
    {r : BridgeRuntime (RoomWorld V) × BackendRoutingResult}
    (hr : Routed (behindBridge p e) change r g')
    (hrefused : (∀ resp, ¬Accepts r.2 resp) → r.1.Honest)
    (haccepted : ∀ resp, Accepts r.2 resp → (change r.1).Honest) : g'.Honest := by
  cases hr with
  | refused hrefuses still => exact (hrefused hrefuses).still still
  | accepted haccepts still => exact (haccepted _ haccepts).still still

theorem Honest.setSessionRoom (h : g.Honest)
    (hmem : g.lookup.userIdFor s ∈ g.world.rooms.members r) : (g.setSessionRoom s r).Honest := by
  intro t hu hr
  simp only [BridgeRuntime.setSessionRoom, SessionLookup.userIdFor_setSessionRoom,
    SessionLookup.roomIdFor_setSessionRoom] at hu hr ⊢
  split_ifs at hr ⊢ with ht
  · rw [ht]
    exact hmem
  · exact h t hu hr

/-- The session leaves its room and the user of the session is taken out of it. -/
theorem Honest.leave (h : g.Honest) (halone : g.AloneIn s) (now : ℕ)
    (hrooms : g'.world.rooms =
      (g.world.rooms.roomLeave now (g.lookup.userIdFor s) (g.lookup.roomIdFor s)).1)
    (hlookup : ∀ t, g'.lookup.userIdFor t ≠ "" → g'.lookup.roomIdFor t ≠ "" →
      t ≠ s ∧ g'.lookup.userIdFor t = g.lookup.userIdFor t ∧
        g'.lookup.roomIdFor t = g.lookup.roomIdFor t) : g'.Honest := by
  intro t hu hr
  obtain ⟨hts, hut, hrt⟩ := hlookup t hu hr
  rw [hut] at hu ⊢
  rw [hrt] at hr ⊢
  rw [hrooms]
  refine RoomBackend.mem_roomLeave now (h t hu hr) fun hroom huser => hts ?_
  refine halone ⟨?_, ?_⟩ t ?_
  · rwa [← huser]
  · rwa [← hroom]
  · rw [← hroom, ← huser]
    exact mem_sessionsOf hr

/-! ## Commands -/

variable (sessionId : SessionId)

theorem roomIdFor_logIn (userId : String) (isDuplicate : Bool)
    (role : Role) {W : Type*} (g : BridgeRuntime W) (t : SessionId) :
    (logIn p sessionId userId isDuplicate role g).lookup.roomIdFor t = g.lookup.roomIdFor t := by
  unfold logIn kickOldSession
  dsimp only
  split_ifs
  · split <;> rfl
  · rfl

/-- A login gives the session its user, and takes no other user than its own away. -/
theorem userIdFor_logIn (userId : String) (isDuplicate : Bool)
    (role : Role) {W : Type*} (g : BridgeRuntime W) (t : SessionId) :
    (logIn p sessionId userId isDuplicate role g).lookup.userIdFor t =
      if t = sessionId then userId
      else if isDuplicate ∧ g.lookup.sessionForUser p userId = some t then ""
      else g.lookup.userIdFor t := by
  unfold logIn kickOldSession
  cases isDuplicate with
  | false => simp [BridgeRuntime.setSessionUser, setSessionRole]
  | true =>
    dsimp only [setSessionRole]
    cases hold : g.lookup.sessionForUser p userId with
    | none => simp [BridgeRuntime.setSessionUser]
    | some old =>
      simp only [if_true, BridgeRuntime.setSessionUser, BridgeRuntime.eraseSessionUser,
        SessionLookup.userIdFor_setSessionUser, SessionLookup.userIdFor_eraseSessionUser, emit,
        true_and, Option.some.injEq, eq_comm (a := old)]

theorem world_logIn (userId : String) (isDuplicate : Bool)
    (role : Role) {W : Type*} (g : BridgeRuntime W) :
    (logIn p sessionId userId isDuplicate role g).world = g.world := by
  unfold logIn kickOldSession
  dsimp only
  split_ifs
  · split <;> rfl
  · rfl

theorem Honest.logIn (h : g.Honest)
    (hmem : g.lookup.roomIdFor s = "" ∨ u ∈ g.world.rooms.members (g.lookup.roomIdFor s))
    (isDuplicate : Bool) (role : Role) : (logIn p s u isDuplicate role g).Honest := by
  intro t hu hr
  rw [roomIdFor_logIn] at hr ⊢
  rw [userIdFor_logIn] at hu ⊢
  rw [world_logIn]
  split_ifs at hu ⊢ with hts hold
  · rw [hts] at hr ⊢
    exact hmem.resolve_left hr
  · cases hu rfl
  · exact h t hu hr

theorem honest_login (h : g.Honest) {c : GatewayCommand} (hok : g.LoginKeepsRoom p e c) :
    (g.login p (behindBridge p e) c).1.Honest := by
  have hroute : ∀ body, (g.route (behindBridge p e) (loginCall p body)).1.Honest := fun body =>
    h.keepsSessions (quiet_route (by simp [KeepsMembers, loginCall]) g).keepsSessions
  rcases g.login_cases p (behindBridge p e) c with
    hs | ⟨body, hbody, hs | ⟨isDuplicate, role, hlogin, hs⟩⟩
  · exact h.still hs
  · exact (hroute body).still hs
  · refine ((hroute body).logIn ?_ isDuplicate role).still hs
    have hrooms : (g.route (behindBridge p e) (loginCall p body)).1.world.rooms =
      g.world.rooms := rfl
    rw [hrooms]
    exact hok body hbody (by rw [hlogin]; rfl)

theorem honest_roomCreate (h : g.Honest) (c : GatewayCommand) :
    (g.roomCreate p (behindBridge p e) c).1.Honest := by
  rcases g.roomCreate_cases p (behindBridge p e) c with hs | ⟨-, -, hr⟩
  · exact h.still hs
  · obtain ⟨now, nowMs, hrooms, hresult⟩ := behindBridge_roomCreate (p := p) (e := e)
      (w := g.world) (g.lookup.userIdFor c.sessionId) c.body
    have hroute : (g.route (behindBridge p e) (roomCall p "room_create"
        (g.lookup.userIdFor c.sessionId) c.body)).1.Honest := by
      refine h.of_members (route_lookup _ g) fun v q hv => ?_
      rw [route_world, hrooms]
      exact RoomBackend.mem_roomCreate now nowMs _ _ _ _ hv
    refine .routed hr (fun _ => hroute) fun resp haccepts => hroute.setSessionRoom ?_
    rw [route_result, hresult] at haccepts
    rw [route_lookup, route_world, hrooms]
    exact RoomBackend.mem_roomCreate_self (isOk_of_accepts haccepts)

theorem honest_roomJoin (h : g.Honest) (c : GatewayCommand) :
    (g.roomJoin p (behindBridge p e) c).1.Honest := by
  rcases g.roomJoin_cases p (behindBridge p e) c with hs | ⟨-, -, hr⟩
  · exact h.still hs
  · obtain ⟨now, hrooms, hresult⟩ := behindBridge_roomJoin (p := p) (e := e)
      (w := g.world) (g.lookup.userIdFor c.sessionId) c.body
    have hroute : (g.route (behindBridge p e) (roomCall p "room_join"
        (g.lookup.userIdFor c.sessionId) c.body)).1.Honest := by
      refine h.of_members (route_lookup _ g) fun v q hv => ?_
      rw [route_world, hrooms]
      exact RoomBackend.mem_roomJoin now _ hv
    refine .routed hr (fun _ => hroute) fun resp haccepts => hroute.setSessionRoom ?_
    rw [route_result, hresult] at haccepts
    rw [route_lookup, route_world, hrooms]
    exact RoomBackend.mem_roomJoin_self (isOk_of_accepts haccepts)

theorem honest_roomLeave (h : g.Honest) {c : GatewayCommand} (halone : g.AloneIn c.sessionId) :
    (g.roomLeave p (behindBridge p e) c).1.Honest := by
  rcases g.roomLeave_cases p (behindBridge p e) c with hs | ⟨-, -, hr⟩
  · exact h.still hs
  · obtain ⟨now, hrooms, hresult⟩ := behindBridge_roomLeave (p := p) (e := e) (w := g.world)
      (g.lookup.userIdFor c.sessionId) (g.lookup.roomIdFor c.sessionId)
    refine .routed hr (fun hrefused => ?_) fun resp _ => ?_
    · refine h.of_members (route_lookup _ g) fun v q hv => ?_
      rw [route_result, hresult] at hrefused
      rcases roomLeave_accepted_or_same (p := p) g.world.rooms now
        (g.lookup.userIdFor c.sessionId) (g.lookup.roomIdFor c.sessionId) with ⟨resp, ha⟩ | hsame
      · cases hrefused resp ha
      · rw [route_world, hrooms, hsame]
        exact hv
    · refine h.leave halone now ?_ fun t hu hroom => ?_
      · rw [← hrooms, BridgeRuntime.eraseSessionRoom, route_world]
      simp only [BridgeRuntime.eraseSessionRoom, SessionLookup.userIdFor_eraseSessionRoom,
        SessionLookup.roomIdFor_eraseSessionRoom, route_lookup] at hroom ⊢
      split_ifs at hroom ⊢ with ht
      · cases hroom rfl
      · exact ⟨ht, trivial, rfl⟩

variable {W : Type*}

variable {backend : W → BackendCall → W × BackendRoutingResult}

/-- A call whose answer is passed on changes nothing after it. -/
theorem still_relay
    (g : BridgeRuntime W) (c : GatewayCommand) (call : BackendCall) (responseId : UInt16)
    (error : ErrorCode) (fallback : String) :
    Still backend (g.route backend call).1
      (g.relay backend c call responseId error fallback).1 := by
  unfold relay
  generalize g.route backend call = r
  dsimp only
  split_ifs
  · exact quiet_emit ..
  · split
    · exact .refl _
    · exact quiet_emit ..

theorem honest_roomKick (h : g.Honest) {c : GatewayCommand} (hok : g.KicksNoSession c) :
    (g.roomKick p (behindBridge p e) c).1.Honest := by
  unfold roomKick roomOwnerCommand
  dsimp only
  by_cases hnone : g.lookup.userIdFor c.sessionId = "" ∨ g.lookup.roomIdFor c.sessionId = ""
  · rw [if_pos hnone]
    exact h.still (p := p) (e := e) (quiet_replyError ..)
  · rw [if_neg hnone]
    obtain ⟨now, hrooms⟩ := behindBridge_roomKick (p := p) (e := e) (w := g.world)
      (g.lookup.userIdFor c.sessionId) (g.lookup.roomIdFor c.sessionId) c.body
    refine Honest.still ?_ (still_relay ..)
    intro t hu hr
    rw [route_lookup] at hu hr ⊢
    rw [route_world, hrooms]
    refine RoomBackend.mem_roomKick now _ (h t hu hr) fun hroom hkicks huser => ?_
    rcases hok (not_or.mp hnone) hkicks with hbody | hno
    · exact hu (huser.trans hbody)
    · have hmem := mem_sessionsOf hr
      rw [hroom, huser, hno] at hmem
      cases hmem

theorem keepsMembers_of_ne {call : BackendCall} (h : call.service ≠ .room) : KeepsMembers call :=
  fun hr => absurd hr h

/-- The calls of a command that only calls and answers, unless it is `room_kick`. -/
theorem keepsMembers_of_commandCalls {g : BridgeRuntime W} {c : GatewayCommand}
    {call : BackendCall} (hc : c.type ≠ .kRoomKick) (h : g.commandCalls p c call) :
    KeepsMembers call := by
  have hroom : ∀ {messageType : String}, call.service = .room ∧ call.messageType = messageType →
      (roomRequest? messageType).all (fun kind => !RoomBackend.changesMembers kind) →
        KeepsMembers call := fun hcall hkind _ => hcall.2 ▸ hkind
  have hother : ∀ {service : ServiceId} {messageType : String},
      call.service = service ∧ call.messageType = messageType → service ≠ .room →
        KeepsMembers call := fun hcall hservice hr => absurd (hcall.1.symm.trans hr) hservice
  unfold commandCalls at h
  split at h
  · exact hother h (by decide)
  · exact hother h (by decide)
  · obtain ⟨ready, rfl⟩ := h
    exact fun _ => rfl
  · exact hroom h rfl
  · exact hroom h rfl
  · exact absurd ‹_› hc
  · exact hroom ⟨congrArg BackendCall.service h, congrArg BackendCall.messageType h⟩ rfl
  · exact hother h (by decide)
  · exact hother h (by decide)
  · obtain ⟨_, _, rfl⟩ := h
    exact keepsMembers_of_ne nofun
  · obtain ⟨_, rfl⟩ := h
    exact keepsMembers_of_ne nofun
  · exact hother h (by decide)
  · obtain ⟨_, _, rfl⟩ := h
    exact keepsMembers_of_ne nofun
  · exact hother h (by decide)
  · exact hother h (by decide)
  · exact h.elim

theorem honest_starts {roomId userId : String} (h : g.Honest)
    (hs : Starts p (behindBridge p e) roomId
      (g.route (behindBridge p e) (roomCall p "room_start_battle" userId roomId)) g') :
    g'.Honest := by
  have hroom : (g.route (behindBridge p e)
      (roomCall p "room_start_battle" userId roomId)).1.Honest :=
    h.keepsSessions (quiet_route (fun _ => rfl) g).keepsSessions
  have hbattle : ∀ messageType payload, ((g.route (behindBridge p e)
      (roomCall p "room_start_battle" userId roomId)).1.route (behindBridge p e)
        ⟨.battle, messageType, payload⟩).1.Honest := fun messageType payload =>
    hroom.keepsSessions (quiet_route (keepsMembers_of_ne (by simp)) _).keepsSessions
  cases hs with
  | refused _ still => exact hroom.still still
  | unforwarded _ _ still => exact hroom.still still
  | uncreated _ _ _ still => exact (hbattle _ _).still still
  | started _ _ _ _ still =>
    exact ((hbattle _ _).keepsSessions (p := p) (e := e) (keepsSessions_trackBattle ..)).still still

theorem honest_handle (h : g.Honest) {c : GatewayCommand}
    (hok : g.KeepsHonest p e (.command c)) : (g.handle p (behindBridge p e) c).1.Honest := by
  by_cases hchanges : changes c.type = true
  · unfold handle
    split_ifs with hallowed
    · have hok := hok hallowed
      unfold CommandKeepsHonest at hok
      cases htype : c.type <;>
        simp only [htype, changes, Bool.false_eq_true] at hchanges hok ⊢
      · exact honest_login h hok
      · exact honest_roomCreate h c
      · exact honest_roomJoin h c
      · exact honest_roomLeave h hok
      · rcases g.battleStart_cases p (behindBridge p e) c with hs | ⟨-, -, hs⟩
        · exact h.still hs
        · exact honest_starts h hs
      · exact h.keepsSessions (keepsSessions_battleInput (fun _ _ _ => keepsMembers_of_ne (by rintro ⟨⟩))
          (fun _ _ => keepsMembers_of_ne (by rintro ⟨⟩))
          (fun _ _ _ _ => keepsMembers_of_ne (by rintro ⟨⟩)) fun _ _ => rfl)
    · exact h.still (p := p) (e := e) (quiet_replyError ..)
  · have hquiet : Quiet (behindBridge p e) (g.commandCalls p c) g
        (g.handle p (behindBridge p e) c).1 := g.quiet_handle (Bool.eq_false_iff.mpr hchanges)
    by_cases hkick : c.type = .kRoomKick
    · unfold handle
      split_ifs with hallowed
      · have hok := hok hallowed
        rw [CommandKeepsHonest, hkick] at hok
        simp only [hkick]
        exact honest_roomKick h hok
      · exact h.still (p := p) (e := e) (quiet_replyError ..)
    · exact h.keepsSessions (hquiet.mono fun _ => keepsMembers_of_commandCalls hkick).keepsSessions

/-! ## The other events -/

theorem lookup_onSessionClosed (g : BridgeRuntime W) (s : SessionId) :
    (g.onSessionClosed p backend s).lookup = g.lookup.eraseSession s := by
  unfold onSessionClosed
  dsimp only
  split_ifs <;> rfl

theorem world_onSessionClosed
    (backend : W → BackendCall → W × BackendRoutingResult) (g : BridgeRuntime W) (s : SessionId) :
    (g.onSessionClosed p backend s).world = if g.InRoom s then
      (backend g.world (roomCall p "room_leave" (g.lookup.userIdFor s)
        (g.lookup.roomIdFor s))).1 else g.world := by
  by_cases h : g.InRoom s
  · rw [if_pos h, onSessionClosed]
    dsimp only
    rw [if_pos (show g.lookup.userIdFor s ≠ "" ∧ g.lookup.roomIdFor s ≠ "" from h)]
    rfl
  · rw [if_neg h, onSessionClosed]
    dsimp only
    rw [if_neg (show ¬(g.lookup.userIdFor s ≠ "" ∧ g.lookup.roomIdFor s ≠ "") from h)]

theorem honest_onSessionClosed (h : g.Honest) (halone : g.AloneIn s) :
    (g.onSessionClosed p (behindBridge p e) s).Honest := by
  have hlookup : ∀ t, (g.onSessionClosed p (behindBridge p e) s).lookup.userIdFor t ≠ "" →
      (g.onSessionClosed p (behindBridge p e) s).lookup.roomIdFor t ≠ "" → t ≠ s ∧
        (g.onSessionClosed p (behindBridge p e) s).lookup.userIdFor t = g.lookup.userIdFor t ∧
        (g.onSessionClosed p (behindBridge p e) s).lookup.roomIdFor t = g.lookup.roomIdFor t := by
    intro t hu hr
    rw [lookup_onSessionClosed] at hu hr ⊢
    simp only [SessionLookup.userIdFor_eraseSession, SessionLookup.roomIdFor_eraseSession] at hu ⊢
    split_ifs at hu ⊢ with ht
    · cases hu rfl
    · exact ⟨ht, rfl, rfl⟩
  have hworld := world_onSessionClosed (p := p) (behindBridge p e) g s
  by_cases hroom : g.InRoom s
  · obtain ⟨now, hrooms, -⟩ := behindBridge_roomLeave (p := p) (e := e) (w := g.world)
      (g.lookup.userIdFor s) (g.lookup.roomIdFor s)
    rw [if_pos hroom] at hworld
    exact h.leave halone now (by rw [hworld, hrooms]) hlookup
  · rw [if_neg hroom] at hworld
    intro t hu hr
    obtain ⟨-, hut, hrt⟩ := hlookup t hu hr
    rw [hut] at hu ⊢
    rw [hrt] at hr ⊢
    rw [hworld]
    exact h t hu hr

theorem honest_cleanupExpiredRooms (h : g.Honest) {now : ℕ}
    (hok : g.KeepsHonest p e (.cleanupExpiredRooms now)) :
    ({ g with world := { g.world with rooms := g.world.rooms.cleanupExpiredRooms now } } :
      BridgeRuntime (RoomWorld V)).Honest := by
  intro t hu hr
  refine RoomBackend.mem_cleanupExpiredRooms (h t hu hr) ?_
  exact hok ⟨t, g.lookup.roomIdFor t⟩
    (AList.mem_lookup_iff.mp (SessionLookup.lookup_of_roomIdFor hr)) hu

/-! ## Matches -/

/-- Binding players changes the rooms of their sessions only. -/
theorem lookup_bindPlayers (g : BridgeRuntime W) (roomId : String)
    (playerIds : List String) (t : SessionId) :
    (g.bindPlayers p roomId playerIds).lookup.userIdFor t = g.lookup.userIdFor t ∧
      ((g.bindPlayers p roomId playerIds).lookup.roomIdFor t = g.lookup.roomIdFor t ∨
        (g.bindPlayers p roomId playerIds).lookup.roomIdFor t = roomId ∧
          g.lookup.userIdFor t ∈ playerIds) := by
  unfold bindPlayers
  induction playerIds generalizing g with
  | nil => exact ⟨rfl, .inl rfl⟩
  | cons userId playerIds ih =>
    rw [List.foldl_cons]
    cases hs : g.lookup.sessionForUser p userId with
    | none =>
      obtain ⟨huser, hroom⟩ := ih g
      exact ⟨huser, hroom.imp_right fun h => ⟨h.1, List.mem_cons_of_mem _ h.2⟩⟩
    | some s =>
      obtain ⟨huser, hroom⟩ := ih (g.setSessionRoom s roomId)
      have hu : ∀ t, (g.setSessionRoom s roomId).lookup.userIdFor t = g.lookup.userIdFor t :=
        fun t => SessionLookup.userIdFor_setSessionRoom
      have hr : (g.setSessionRoom s roomId).lookup.roomIdFor t =
          if t = s then roomId else g.lookup.roomIdFor t := SessionLookup.roomIdFor_setSessionRoom
      rw [hu] at huser hroom
      refine ⟨huser, ?_⟩
      rcases hroom with hroom | ⟨hroom, hmem⟩
      · rw [hr] at hroom
        split_ifs at hroom with ht
        · refine .inr ⟨hroom, ?_⟩
          rw [ht, SessionLookup.userIdFor, SessionLookup.sessionForUser_eq_some hs]
          exact List.mem_cons_self
        · exact .inl hroom
      · exact .inr ⟨hroom, List.mem_cons_of_mem _ hmem⟩

theorem world_bindPlayers (g : BridgeRuntime W) (roomId : String)
    (playerIds : List String) : (g.bindPlayers p roomId playerIds).world = g.world := by
  unfold bindPlayers
  induction playerIds generalizing g with
  | nil => rfl
  | cons userId playerIds ih =>
    rw [List.foldl_cons, ih]
    split <;> rfl

/-- Players that are let into an open room are members of it. -/
theorem joinPlayers_of_open (g : BridgeRuntime (RoomWorld V)) {roomId : String}
    (h : g.world.rooms.Open roomId) (playerIds : List String) :
    (g.joinPlayers p (behindBridge p e) roomId playerIds).lookup = g.lookup ∧
      (∀ v q, v ∈ g.world.rooms.members q →
        v ∈ (g.joinPlayers p (behindBridge p e) roomId playerIds).world.rooms.members q) ∧
      ∀ v ∈ playerIds,
        v ∈ (g.joinPlayers p (behindBridge p e) roomId playerIds).world.rooms.members roomId := by
  unfold joinPlayers
  induction playerIds generalizing g with
  | nil => exact ⟨rfl, fun _ _ hv => hv, by simp⟩
  | cons userId playerIds ih =>
    rw [List.foldl_cons]
    obtain ⟨now, hrooms, -⟩ := behindBridge_roomJoin (p := p) (e := e) (w := g.world)
      userId roomId
    obtain ⟨hopen, hself⟩ := RoomBackend.roomJoin_of_open h now userId userId
    have hjoin : (g.route (behindBridge p e) (roomCall p "room_join" userId roomId)).1.world.rooms =
        (g.world.rooms.roomJoin now userId roomId userId).1 := by
      rw [route_world, hrooms]
    rw [← hjoin] at hopen hself
    obtain ⟨hlookup, hmembers, hall⟩ := ih _ hopen
    refine ⟨hlookup.trans (route_lookup _ g), fun v q hv => ?_, List.forall_mem_cons.mpr ⟨?_, hall⟩⟩
    · refine hmembers v q ?_
      rw [hjoin]
      exact RoomBackend.mem_roomJoin now _ hv
    · exact hmembers _ _ hself

theorem honest_createRoomFromMatch (h : g.Honest) (result : MatchResult) :
    (g.createRoomFromMatch p (behindBridge p e) result).1.Honest := by
  unfold createRoomFromMatch
  dsimp only
  split
  · exact h
  rename_i ownerId others _
  generalize "room_" ++ result.matchId = roomId
  obtain ⟨now, nowMs, hrooms, hresult⟩ := behindBridge_roomCreate (p := p) (e := e)
    (w := g.world) ownerId roomId
  have hcall : (⟨.room, "room_create", p.dump (roomPayload ownerId roomId)⟩ : BackendCall) =
    roomCall p "room_create" ownerId roomId := rfl
  rw [hcall]
  have hroute : (g.route (behindBridge p e) (roomCall p "room_create" ownerId roomId)).1.Honest := by
    refine h.of_members (route_lookup _ g) fun v q hv => ?_
    rw [route_world, hrooms]
    exact RoomBackend.mem_roomCreate now nowMs _ _ _ _ hv
  have hworld : (g.route (behindBridge p e)
      (roomCall p "room_create" ownerId roomId)).1.world.rooms = _ :=
    (congrArg RoomWorld.rooms (route_world ..)).trans hrooms
  have hresult : (g.route (behindBridge p e) (roomCall p "room_create" ownerId roomId)).2 = _ :=
    (route_result ..).trans hresult
  generalize g.route (behindBridge p e) (roomCall p "room_create" ownerId roomId) = r at *
  split_ifs with hs
  · have hok : (g.world.rooms.roomCreate now nowMs ownerId roomId ownerId "public" 0
        (.object [])).2.isOk := by
      rw [hresult] at hs
      revert hs
      cases (g.world.rooms.roomCreate now nowMs ownerId roomId ownerId "public" 0
        (.object [])).2 with
      | ok body => exact fun _ => rfl
      | error code reason => exact fun hs => hs
    have hbound := world_bindPlayers (p := p) r.1 roomId (ownerId :: others)
    have hopen := RoomBackend.open_roomCreate hok
    have howner := RoomBackend.mem_roomCreate_self hok
    rw [← hworld, ← hbound] at hopen howner
    obtain ⟨hlookup, hmembers, hall⟩ := joinPlayers_of_open (p := p) (e := e)
      (r.1.bindPlayers p roomId (ownerId :: others)) hopen others
    intro t hu hr
    obtain ⟨huser, hroom⟩ := lookup_bindPlayers (p := p) r.1 roomId (ownerId :: others) t
    rw [hlookup] at hu hr ⊢
    rw [huser] at hu ⊢
    rcases hroom with hroom | ⟨hroom, hmem⟩
    · rw [hroom] at hr ⊢
      refine hmembers _ _ ?_
      rw [hbound]
      exact hroute t hu hr
    · rw [hroom]
      rcases List.mem_cons.mp hmem with hmem | hmem
      · exact hmem ▸ hmembers _ _ howner
      · exact hall _ hmem
  · exact hroute

theorem still_sendMatchFoundPushes (g : BridgeRuntime W) (result : MatchResult) (roomId : String) :
    Still backend g (g.sendMatchFoundPushes p result roomId) := by
  refine quiet_foldl (fun g userId => ?_) g _
  split
  · exact quiet_emit ..
  · exact .refl g

theorem honest_readyAllPlayers (h : g.Honest) (roomId : String) (playerIds : List String) :
    (g.readyAllPlayers p (behindBridge p e) roomId playerIds).Honest :=
  h.keepsSessions (quiet_foldl (fun g _ => quiet_route (fun _ => rfl) g) g playerIds).keepsSessions

theorem honest_onMatchFound (h : g.Honest) (result : MatchResult) :
    (g.onMatchFound p (behindBridge p e) result).1.Honest := by
  have hcreate := honest_createRoomFromMatch (p := p) (e := e) h result
  unfold onMatchFound
  split_ifs
  · exact h
  · split <;> rename_i heq <;> rw [heq] at hcreate
    · exact hcreate
    · rename_i g₁ roomId
      dsimp only
      refine honest_starts ?_ (startBattleForRoom_cases ..)
      refine honest_readyAllPlayers ?_ roomId _
      refine Honest.still (p := p) (e := e) ?_ (still_sendMatchFoundPushes ..)
      exact hcreate

theorem honest_step {event : RoomEvent} (h : g.Honest) (hok : g.KeepsHonest p e event)
    (hstep : g.roomStep p e event = some g') : g'.Honest := by
  cases event with
  | command c =>
    obtain rfl := Option.some.inj hstep
    exact honest_handle h hok
  | sessionClosed s =>
    obtain rfl := Option.some.inj hstep
    exact honest_onSessionClosed h hok
  | matchFound result =>
    obtain rfl := Option.some.inj hstep
    exact honest_onMatchFound h result
  | routeTask =>
    simp only [roomStep] at hstep
    split at hstep
    · cases hstep
    · rename_i tasks _
      obtain rfl := Option.some.inj hstep
      have htaken : ({ g with battleRouteTasks := tasks } : BridgeRuntime (RoomWorld V)).Honest := h
      exact htaken.keepsSessions (keepsSessions_runBattleRouteTask (keepsMembers_of_ne (by rintro ⟨⟩)) _)
  | cleanupExpiredRooms now =>
    obtain rfl := Option.some.inj hstep
    exact honest_cleanupExpiredRooms h hok

/-- Sessions are honest in every run in which each event meets its condition. -/
theorem RoomReaches.honest (h : g.RoomReaches p e (KeepsHonest p e)) : g.Honest :=
  h.invariant (fun g hg s hu => absurd (by rw [hg]; rfl) hu) fun _ _ _ hhonest hok hs =>
    honest_step hhonest hok hs

instance {c : GatewayCommand} : Decidable (g.LoginKeepsRoom p e c) :=
  inferInstanceAs (Decidable (∀ body ∈ _, _ → _ ∨ _))

instance {c : GatewayCommand} : Decidable (g.KicksNoSession c) :=
  inferInstanceAs (Decidable (_ → _ → _ ∨ _))

instance {c : GatewayCommand} : Decidable (g.CommandKeepsHonest p e c) := by
  unfold CommandKeepsHonest
  cases c.type <;> infer_instance

instance : ∀ event, Decidable (g.KeepsHonest p e event)
  | .command _ => inferInstanceAs (Decidable (_ → _))
  | .sessionClosed s => inferInstanceAs (Decidable (g.AloneIn s))
  | .matchFound _ | .routeTask => .isTrue trivial
  | .cleanupExpiredRooms _ => inferInstanceAs (Decidable (∀ entry ∈ _, _ → _))

/-- A login backend that lets everybody in. -/
def letIn : Elsewhere Unit where
  answer _ _ := ((), { success := true, responsePayload := "\x7b\"status\":\"ok\"\x7d" })
  clocks _ := ((), 0, 0)

/-- User `a` logs in and creates room `r`. -/
def loginAndCreate : List RoomEvent :=
  [.command { sessionId := 1, type := .kLogin, protocolMessageId := kLoginRequest, body := "a|t" },
    .command { sessionId := 1, type := .kRoomCreate, protocolMessageId := kRoomCreateRequest, body := "r" }]

theorem reaches_empty {ok : BridgeRuntime (RoomWorld Unit) → RoomEvent → Prop} :
    ({ world := { others := () } } : BridgeRuntime (RoomWorld Unit)).RoomReaches .plain letIn ok :=
  .init rfl

theorem honest_loginAndCreate : ∃ g : BridgeRuntime (RoomWorld Unit),
    g.lookup.roomIdFor 1 = "r" ∧ g.Honest := by
  obtain ⟨g, hg, hr⟩ : ∃ g : BridgeRuntime (RoomWorld Unit),
      g.RoomReaches .plain letIn (KeepsHonest .plain letIn) ∧ g.lookup.roomIdFor 1 = "r" :=
    reaches_empty.exists_runWith loginAndCreate (by decide +kernel)
  exact ⟨g, hr, hg.honest⟩

/-- Another user logs in on the session. -/
theorem not_honest_secondLogin : ¬∀ g : BridgeRuntime (RoomWorld Unit),
    g.RoomReaches .plain letIn (fun _ _ => True) → g.Honest := by
  intro h
  obtain ⟨g, hg, hu, hr, hmem⟩ : ∃ g : BridgeRuntime (RoomWorld Unit),
      g.RoomReaches .plain letIn (fun _ _ => True) ∧ g.lookup.userIdFor 1 ≠ "" ∧
        g.lookup.roomIdFor 1 ≠ "" ∧
        g.lookup.userIdFor 1 ∉ g.world.rooms.members (g.lookup.roomIdFor 1) :=
    reaches_empty.exists_runWith (loginAndCreate ++ ([.command
      { sessionId := 1, type := .kLogin, protocolMessageId := kLoginRequest, body := "b|t" }] :
        List RoomEvent))
      (by decide +kernel)
  exact hmem (h g hg 1 hu hr)

end BridgeRuntime

end BoostGateway.Gateway
