import BoostGateway.Gateway.SessionLookup
import BoostGateway.Match.Matchmaking
import BoostGateway.Room.RoomActor

/-!
# A gateway without backends

`Runtime` (`runtime.cpp`) when no bridge is set : the rooms are actors of the gateway, found
under the ids that clients choose. Every action runs until the mailboxes are empty. The
answers to the clients and the players' own states are left out, and of a battle there are
the notices that it sends to the gateway, which may come after any action, in any order.

A room is created under its id whatever the id names already (`LocalRuntime.roomCreate`), so
whoever was a member there is one no more. No other command touches another user
(`LocalRuntime.othersStay_iff`).
-/

namespace BoostGateway.Gateway

open Room (RoomActor RoomMessage RoomActorEvent)
open Match (MatchResult)

/-- What a battle tells the gateway after its start. -/
inductive BattleNotice
  | settlementPrepared (roomId battleId reason : String)
  | finished (roomId battleId reason : String)

/-- `Runtime` in local mode. -/
structure LocalRuntime where
  lookup : SessionLookup := {}
  sessionRoles : SessionId → Option Role := fun _ => none
  playersByUserId : String → Option ℕ := fun _ => none
  roomsByRoomId : String → Option ℕ := fun _ => none
  /-- The actors that are rooms. -/
  roomActors : ℕ → Option RoomActor := fun _ => none
  nextActorId : ℕ := 1
  battlesByRoomId : String → Option ℕ := fun _ => none
  nextBattleId : ℕ := 1
  processedMatchIds : List String := []

namespace LocalRuntime

variable (g : LocalRuntime)

/-- A session without a role may send everything. -/
def isSessionAllowed (c : GatewayCommand) : Bool :=
  (g.sessionRoles c.sessionId).all fun role => role.isAllowed c.protocolMessageId

/-- A new actor. -/
def createActor : LocalRuntime × ℕ := ({ g with nextActorId := g.nextActorId + 1 }, g.nextActorId)

/-- `get_or_create_player`. -/
def getOrCreatePlayer (userId : String) : LocalRuntime :=
  match g.playersByUserId userId with
  | some _ => g
  | none =>
    let (g, actorId) := g.createActor
    { g with playersByUserId := Function.update g.playersByUserId userId (some actorId) }

/-- The actor of a player. -/
def playerActorId (userId : String) : ℕ := (g.playersByUserId userId).getD 0

/-- A new room under the id, which `set_room` overwrites. -/
def createRoomActor (roomId : String) : LocalRuntime × ℕ :=
  let (g, actorId) := g.createActor
  ({ g with
      roomsByRoomId := Function.update g.roomsByRoomId roomId (some actorId)
      roomActors := Function.update g.roomActors actorId (some {}) }, actorId)

/-- A message to the actor of a room. -/
def deliver (actorId : ℕ) (m : RoomMessage) : LocalRuntime × List RoomActorEvent :=
  match g.roomActors actorId with
  | none => (g, [])
  | some r =>
    ({ g with roomActors := Function.update g.roomActors actorId (some (r.onMessage m).1) },
      (r.onMessage m).2)

/-- The name of the next battle. -/
def battleName (n : ℕ) : String :=
  "battle_" ++ String.ofList (List.replicate (4 - (toString n).length) '0') ++ toString n

/-- A new battle, which tells the gateway, and this the room, that it was created. -/
def createBattle (roomId : String) : LocalRuntime :=
  let battleId := battleName g.nextBattleId
  let (g, actorId) := { g with nextBattleId := g.nextBattleId + 1 }.createActor
  let g := { g with battlesByRoomId := Function.update g.battlesByRoomId roomId (some actorId) }
  match g.roomsByRoomId roomId with
  | none => g
  | some actorId => (g.deliver actorId (.battleStarted battleId)).1

/-- `push` of a room's event; the others only answer clients. -/
def push : RoomActorEvent → LocalRuntime
  | .battleStartRequested roomId _ _ => g.createBattle roomId
  | _ => g

/-- The room handles the message, and the gateway what the room pushes. -/
def tell (actorId : ℕ) (m : RoomMessage) : LocalRuntime :=
  let (g, events) := g.deliver actorId m
  events.foldl push g

/-- To the room under the id, when there is one. -/
def tellRoom (roomId : String) (m : RoomMessage) : LocalRuntime :=
  match g.roomsByRoomId roomId with
  | none => g
  | some actorId => g.tell actorId m

/-- A battle reports. -/
def notice : BattleNotice → LocalRuntime
  | .settlementPrepared roomId battleId reason =>
    g.tellRoom roomId (.battleSettlement battleId reason)
  | .finished roomId battleId reason =>
    let g := { g with battlesByRoomId := Function.update g.battlesByRoomId roomId none }
    g.tellRoom roomId (.battleEnded battleId reason)

/-- The battles report, one after the other. -/
def noticed (notices : List BattleNotice) : LocalRuntime := notices.foldl notice g

/-! ## The commands -/

/-- The user of the session. -/
def userOf (c : GatewayCommand) : String := g.lookup.userIdFor c.sessionId

/-- The room of the session. -/
def roomOf (c : GatewayCommand) : String := g.lookup.roomIdFor c.sessionId

/-- `set_session_room`. -/
def setSessionRoom (sessionId : SessionId) (roomId : String) : LocalRuntime :=
  { g with lookup := g.lookup.setSessionRoom sessionId roomId }

/-- The player's actor accepts every login. -/
def login (c : GatewayCommand) : LocalRuntime :=
  match parseLoginCommandBody c.body with
  | none => g
  | some body =>
    if !validateLoginCommandBody body then g
    else
      let g := g.getOrCreatePlayer body.userId
      { g with lookup := g.lookup.setSessionUser c.sessionId body.userId }

/-- `kRoomCreate`. -/
def roomCreate (c : GatewayCommand) : LocalRuntime :=
  match parseRoomIdBody c.body with
  | none => g
  | some roomId =>
    if g.userOf c = "" then g
    else
      let userId := g.userOf c
      let (g, actorId) := g.createRoomActor roomId
      (g.tell actorId (.createRoom roomId userId (g.playerActorId userId))).setSessionRoom
        c.sessionId roomId

/-- `kRoomJoin`. -/
def roomJoin (c : GatewayCommand) : LocalRuntime :=
  match parseRoomIdBody c.body with
  | none => g
  | some roomId =>
    if g.userOf c = "" then g
    else
      match g.roomsByRoomId roomId with
      | none => g
      | some actorId =>
        (g.tell actorId (.joinRoom (g.userOf c) (g.playerActorId (g.userOf c)))).setSessionRoom
          c.sessionId roomId

/-- `kRoomReady`. -/
def roomReady (c : GatewayCommand) : LocalRuntime :=
  if g.userOf c = "" ∨ g.roomOf c = "" then g
  else
    match parseRoomReadyBody c.body with
    | none => g
    | some ready => g.tellRoom (g.roomOf c) (.setReady (g.userOf c) ready)

/-- `kRoomLeave`. -/
def roomLeave (c : GatewayCommand) : LocalRuntime :=
  if g.userOf c = "" ∨ g.roomOf c = "" then g
  else
    match g.roomsByRoomId (g.roomOf c) with
    | none => g
    | some actorId =>
      let g := g.tell actorId (.leaveRoom (g.userOf c))
      { g with lookup := g.lookup.eraseSessionRoom c.sessionId }

/-- `kBattleStart`. -/
def battleStart (c : GatewayCommand) : LocalRuntime :=
  if g.userOf c = "" ∨ g.roomOf c = "" then g
  else
    match parseBattleStartCommandBody c.body with
    | none => g
    | some roomId =>
      if !roomId.all (· = g.roomOf c) then g
      else g.tellRoom (g.roomOf c) (.startBattle (g.userOf c))

/-- `handle`. An input goes to the battle's actor, and the other commands need a bridge. -/
def handle (c : GatewayCommand) : LocalRuntime :=
  if !g.isSessionAllowed c then g
  else
    match c.type with
    | .kLogin => g.login c
    | .kRoomCreate => g.roomCreate c
    | .kRoomJoin => g.roomJoin c
    | .kRoomReady => g.roomReady c
    | .kRoomLeave => g.roomLeave c
    | .kBattleStart => g.battleStart c
    | _ => g

/-! ## What else reaches the gateway -/

/-- `on_session_closed`. -/
def onSessionClosed (sessionId : SessionId) : LocalRuntime :=
  let userId := g.lookup.userIdFor sessionId
  let roomId := g.lookup.roomIdFor sessionId
  let g := if userId ≠ "" ∧ roomId ≠ "" then g.tellRoom roomId (.leaveRoom userId) else g
  { g with
    sessionRoles := Function.update g.sessionRoles sessionId none
    lookup := g.lookup.eraseSession sessionId }

/-- The session of the user is in the room. -/
def setUserRoom (p : Platform) (userId roomId : String) : LocalRuntime :=
  match g.lookup.sessionForUser p userId with
  | none => g
  | some sessionId => g.setSessionRoom sessionId roomId

/-- One who is no player of the gateway is not told. -/
def joinMatched (p : Platform) (actorId : ℕ) (roomId : String) (g : LocalRuntime)
    (userId : String) : LocalRuntime :=
  let g := g.setUserRoom p userId roomId
  match g.playersByUserId userId with
  | none => g
  | some playerActorId => g.tell actorId (.joinRoom userId playerActorId)

/-- The room of the match, which its first player owns; none when there is no player. -/
def createRoomFromMatch (p : Platform) (result : MatchResult) : LocalRuntime × Option String :=
  let roomId := "room_" ++ result.matchId
  if (g.roomsByRoomId roomId).isSome then (g, some roomId)
  else
    match result.playerIds with
    | [] => (g, none)
    | ownerId :: others =>
      let (g, actorId) := g.createRoomActor roomId
      let g := g.tell actorId (.createRoom roomId ownerId (g.playerActorId ownerId))
      (others.foldl (joinMatched p actorId roomId) (g.setUserRoom p ownerId roomId), some roomId)

/-- The players of a match are ready. -/
def readyAllPlayers (result : MatchResult) (roomId : String) : LocalRuntime :=
  result.playerIds.foldl (fun g userId => g.tellRoom roomId (.setReady userId true)) g

/-- `on_match_found`, for a match that has players. -/
def onMatchFound (p : Platform) (result : MatchResult) : LocalRuntime :=
  if result.matchId ∈ g.processedMatchIds then g
  else
    match g.createRoomFromMatch p result with
    | (_, none) => g
    | (g, some roomId) =>
      let g := { g with processedMatchIds := result.matchId :: g.processedMatchIds }
      match result.playerIds with
      | [] => g
      | starterId :: _ => (g.readyAllPlayers result roomId).tellRoom roomId (.startBattle starterId)

/-- What the gateway is asked for. -/
inductive Action
  | command (c : GatewayCommand) (notices : List BattleNotice)
  | sessionClosed (sessionId : SessionId) (notices : List BattleNotice)
  | sessionRole (sessionId : SessionId) (role : Role)
  | matchFound (result : MatchResult)
  | notices (notices : List BattleNotice)

/-- One command, closed session or match. -/
def step (p : Platform) (g : LocalRuntime) : Action → Option LocalRuntime
  | .command c notices => some ((g.handle c).noticed notices)
  | .sessionClosed sessionId notices => some ((g.onSessionClosed sessionId).noticed notices)
  | .sessionRole sessionId role =>
    some { g with sessionRoles := Function.update g.sessionRoles sessionId (some role) }
  | .matchFound result => some (g.onMatchFound p result)
  | .notices notices => some (g.noticed notices)

/-- The gateways reached from a new one. -/
abbrev Reaches (p : Platform) : LocalRuntime → Prop :=
  BoostGateway.Reaches (· = {}) (step p) fun _ _ => True

/-! ## Whom an action touches -/

/-- The actor of the room. -/
def room (roomId : String) : Option RoomActor := (g.roomsByRoomId roomId).bind g.roomActors

/-- The members of the room. -/
def membersOf (roomId : String) : List String := ((g.room roomId).map (·.userIds)).getD []

/-- The owner of the room. -/
def ownerOf (roomId : String) : Option String := (g.room roomId).map (·.ownerUserId)

/-- Every other user is still a member under each id under which it was one, of a room with
the same owner, unless that was the user. -/
structure OthersStay (userId : String) (g g' : LocalRuntime) : Prop where
  stays : ∀ roomId, ∀ v ≠ userId, v ∈ g.membersOf roomId → v ∈ g'.membersOf roomId
  owner : ∀ roomId, ∀ v ≠ userId, v ∈ g.membersOf roomId → g.ownerOf roomId ≠ some userId →
    g'.ownerOf roomId = g.ownerOf roomId

/-- The command creates a room under the id of one in which somebody else is. -/
def Replaces (c : GatewayCommand) : Prop :=
  g.isSessionAllowed c = true ∧ c.type = .kRoomCreate ∧ g.userOf c ≠ "" ∧
    ∃ roomId, parseRoomIdBody c.body = some roomId ∧ ∃ v ∈ g.membersOf roomId, v ≠ g.userOf c

/-- Every registered room is an actor that exists, and so is the player of every session's
user, which the source looks up without a check. -/
structure Sound : Prop where
  rooms : ∀ roomId actorId, g.roomsByRoomId roomId = some actorId → actorId < g.nextActorId
  players : ∀ sessionId, g.lookup.userIdFor sessionId ≠ "" →
    (g.playersByUserId (g.lookup.userIdFor sessionId)).isSome = true

/-- A relation on rooms that what a battle does to a room keeps. -/
structure Frame (R : RoomActor → RoomActor → Prop) : Prop where
  same : ∀ {r r'}, RoomActor.Same r r' → R r r'
  trans : ∀ {r r' r''}, R r r' → R r' r'' → R r r''

theorem frame_same : Frame RoomActor.Same := ⟨id, .trans⟩

theorem frame_follows (userId : String) : Frame (RoomActor.Follows userId) :=
  ⟨fun h => h.follows, .trans⟩

/-- Messages to rooms leave the registers as they are. -/
structure Told (R : RoomActor → RoomActor → Prop) (g g' : LocalRuntime) : Prop where
  lookup : g'.lookup = g.lookup
  playersByUserId : g'.playersByUserId = g.playersByUserId
  roomsByRoomId : g'.roomsByRoomId = g.roomsByRoomId
  roomActors : ∀ a r, g.roomActors a = some r → ∃ r', g'.roomActors a = some r' ∧ R r r'
  nextActorId : g.nextActorId ≤ g'.nextActorId

variable {g} {g' g'' : LocalRuntime} {R : RoomActor → RoomActor → Prop} {m : RoomMessage}

theorem Frame.refl (hR : Frame R) (r : RoomActor) : R r r := hR.same (.refl r)

theorem Told.refl (hR : Frame R) : Told R g g :=
  ⟨rfl, rfl, rfl, fun _ r h => ⟨r, h, hR.refl r⟩, le_rfl⟩

theorem Told.trans (hR : Frame R) (h : Told R g g') (h' : Told R g' g'') : Told R g g'' where
  lookup := h'.lookup.trans h.lookup
  playersByUserId := h'.playersByUserId.trans h.playersByUserId
  roomsByRoomId := h'.roomsByRoomId.trans h.roomsByRoomId
  roomActors a r hr := by
    obtain ⟨r', hr', hrel⟩ := h.roomActors a r hr
    obtain ⟨r'', hr'', hrel'⟩ := h'.roomActors a r' hr'
    exact ⟨r'', hr'', hR.trans hrel hrel'⟩
  nextActorId := h.nextActorId.trans h'.nextActorId

theorem Told.sound (h : Told R g g') (hg : g.Sound) : g'.Sound where
  rooms roomId a ha := (hg.rooms roomId a (h.roomsByRoomId ▸ ha)).trans_le h.nextActorId
  players s := by
    rw [h.lookup, h.playersByUserId]
    exact hg.players s

theorem Told.room (h : Told R g g') {roomId : String} {r : RoomActor}
    (hr : g.room roomId = some r) : ∃ r', g'.room roomId = some r' ∧ R r r' := by
  obtain ⟨a, ha, har⟩ := Option.bind_eq_some_iff.mp hr
  obtain ⟨r', hr', hrel⟩ := h.roomActors a r har
  exact ⟨r', Option.bind_eq_some_iff.mpr ⟨a, h.roomsByRoomId ▸ ha, hr'⟩, hrel⟩

theorem told_foldl {ι : Type*} (hR : Frame R) {f : LocalRuntime → ι → LocalRuntime}
    (hf : ∀ g x, Told R g (f g x)) (xs : List ι) : Told R g (xs.foldl f g) := by
  induction xs generalizing g with
  | nil => exact .refl hR
  | cons x xs ih => exact (hf g x).trans hR ih

theorem told_deliver (hR : Frame R) {a : ℕ}
    (hm : ∀ r, g.roomActors a = some r → R r (r.onMessage m).1) : Told R g (g.deliver a m).1 := by
  unfold deliver
  split
  · exact .refl hR
  next r hr =>
    refine ⟨rfl, rfl, rfl, fun b s hs => ?_, le_rfl⟩
    by_cases hab : b = a
    · subst hab
      obtain rfl : r = s := Option.some.inj (hr.symm.trans hs)
      exact ⟨(r.onMessage m).1, Function.update_self .., hm r hr⟩
    · exact ⟨s, (Function.update_of_ne hab ..).trans hs, hR.refl s⟩

theorem Frame.ofBattle (hR : Frame R) (hm : RoomActor.OfBattle m) (r : RoomActor) :
    R r (r.onMessage m).1 :=
  hR.same (RoomActor.same_onMessage hm)

theorem told_createBattle (hR : Frame R) {roomId : String} : Told R g (g.createBattle roomId) := by
  have hcreated : Told R g
      { g with
        nextBattleId := g.nextBattleId + 1
        nextActorId := g.nextActorId + 1
        battlesByRoomId := Function.update g.battlesByRoomId roomId (some g.nextActorId) } :=
    ⟨rfl, rfl, rfl, fun _ r h => ⟨r, h, hR.refl r⟩, Nat.le_succ _⟩
  unfold createBattle createActor
  dsimp only
  split
  · exact hcreated
  · exact hcreated.trans hR (told_deliver hR fun r _ =>
      hR.ofBattle (m := .battleStarted _) trivial r)

theorem told_push (hR : Frame R) (e : RoomActorEvent) : Told R g (g.push e) := by
  cases e with
  | battleStartRequested roomId _ _ => exact told_createBattle hR
  | _ => exact .refl hR

theorem told_tell (hR : Frame R) {a : ℕ}
    (hm : ∀ r, g.roomActors a = some r → R r (r.onMessage m).1) : Told R g (g.tell a m) :=
  (told_deliver hR hm).trans hR (told_foldl hR (fun _ e => told_push hR e) _)

theorem told_tellRoom (hR : Frame R) {roomId : String} (hm : ∀ r, R r (r.onMessage m).1) :
    Told R g (g.tellRoom roomId m) := by
  unfold tellRoom
  split
  · exact .refl hR
  · exact told_tell hR fun r _ => hm r

theorem tellRoom_of_some {roomId : String} {a : ℕ} {r : RoomActor}
    (ha : g.roomsByRoomId roomId = some a) (hr : g.roomActors a = some r) :
    g.tellRoom roomId m = (r.onMessage m).2.foldl push
      { g with roomActors := Function.update g.roomActors a (some (r.onMessage m).1) } := by
  unfold tellRoom tell deliver
  rw [ha]
  dsimp only
  rw [hr]

theorem tellRoom_of_none {roomId : String} (h : g.room roomId = none) :
    g.tellRoom roomId m = g := by
  unfold tellRoom tell deliver
  cases ha : g.roomsByRoomId roomId with
  | none => rfl
  | some a =>
    have hr : g.roomActors a = none := by
      simpa only [room, ha, Option.bind_some] using h
    dsimp only
    rw [hr]
    rfl

theorem told_notice (hR : Frame R) (g : LocalRuntime) (n : BattleNotice) :
    Told R g (g.notice n) := by
  cases n with
  | settlementPrepared roomId battleId reason =>
    exact told_tellRoom hR (hR.ofBattle trivial)
  | finished roomId battleId reason =>
    have herased : Told R g
        { g with battlesByRoomId := Function.update g.battlesByRoomId roomId none } :=
      ⟨rfl, rfl, rfl, fun _ r h => ⟨r, h, hR.refl r⟩, le_rfl⟩
    exact herased.trans hR (told_tellRoom hR (hR.ofBattle trivial))

theorem told_noticed (hR : Frame R) (notices : List BattleNotice) : Told R g (g.noticed notices) :=
  told_foldl hR (told_notice hR) notices

/-! ## What is done in the name of a user -/

/-- The rooms stay registered, and follow the user. -/
structure Passes (userId : String) (g g' : LocalRuntime) : Prop where
  rooms : ∀ roomId r, g.room roomId = some r →
    ∃ r', g'.room roomId = some r' ∧ RoomActor.Follows userId r r'
  sound : g.Sound → g'.Sound

variable {u : String} {c : GatewayCommand} {p : Platform}

theorem Passes.refl : Passes u g g :=
  ⟨fun _ r h => ⟨r, h, (frame_follows u).refl r⟩, id⟩

theorem Passes.trans (h : Passes u g g') (h' : Passes u g' g'') : Passes u g g'' where
  rooms roomId r hr := by
    obtain ⟨r', hr', hrel⟩ := h.rooms roomId r hr
    obtain ⟨r'', hr'', hrel'⟩ := h'.rooms roomId r' hr'
    exact ⟨r'', hr'', hrel.trans hrel'⟩
  sound hg := h'.sound (h.sound hg)

theorem Told.passes (h : Told (RoomActor.Follows u) g g') : Passes u g g' :=
  ⟨fun _ _ => h.room, h.sound⟩

theorem passes_of_room (hroom : ∀ roomId, g'.room roomId = g.room roomId)
    (hsound : g.Sound → g'.Sound) : Passes u g g' :=
  ⟨fun roomId r hr => ⟨r, (hroom roomId).trans hr, (frame_follows u).refl r⟩, hsound⟩

theorem passes_foldl {ι : Type*} {f : LocalRuntime → ι → LocalRuntime}
    (hf : ∀ g x, Passes u g (f g x)) (xs : List ι) : Passes u g (xs.foldl f g) := by
  induction xs generalizing g with
  | nil => exact .refl
  | cons x xs ih => exact (hf g x).trans ih

theorem mem_membersOf {roomId v : String} :
    v ∈ g.membersOf roomId ↔ ∃ r, g.room roomId = some r ∧ v ∈ r.userIds := by
  unfold membersOf
  cases g.room roomId with
  | none => simp
  | some r => simp

theorem Passes.othersStay (h : Passes u g g') : OthersStay u g g' where
  stays roomId v hne hv := by
    obtain ⟨r, hr, hvr⟩ := mem_membersOf.mp hv
    obtain ⟨r', hr', hrel⟩ := h.rooms roomId r hr
    exact mem_membersOf.mpr ⟨r', hr', hrel.stays v hne hvr⟩
  owner roomId v hne hv howner := by
    obtain ⟨r, hr, hvr⟩ := mem_membersOf.mp hv
    obtain ⟨r', hr', hrel⟩ := h.rooms roomId r hr
    unfold ownerOf at howner ⊢
    rw [hr, Option.map_some] at howner ⊢
    rw [hr', Option.map_some, hrel.owner v hne hvr fun ho => howner (congrArg some ho)]

theorem passes_tell {a : ℕ} (hm : RoomActor.Spares u m) : Passes u g (g.tell a m) :=
  (told_tell (frame_follows u) fun _ _ => RoomActor.follows_onMessage hm).passes

theorem passes_tellRoom {roomId : String} (hm : RoomActor.Spares u m) :
    Passes u g (g.tellRoom roomId m) :=
  (told_tellRoom (frame_follows u) fun _ => RoomActor.follows_onMessage hm).passes

theorem passes_setSessionRoom {s : SessionId} {roomId : String} :
    Passes u g (g.setSessionRoom s roomId) :=
  passes_of_room (fun _ => rfl) fun hg => ⟨hg.rooms, hg.players⟩

theorem passes_getOrCreatePlayer {userId : String} : Passes u g (g.getOrCreatePlayer userId) := by
  unfold getOrCreatePlayer
  split
  · exact .refl
  · refine passes_of_room (fun _ => rfl) fun hg => ⟨fun roomId a ha =>
      (hg.rooms roomId a ha).trans (Nat.lt_succ_self _), fun s hs => ?_⟩
    show (Function.update g.playersByUserId userId (some g.nextActorId) _).isSome = true
    rw [Function.update_apply]
    split_ifs
    · rfl
    · exact hg.players s hs

theorem isSome_getOrCreatePlayer (userId : String) :
    ((g.getOrCreatePlayer userId).playersByUserId userId).isSome = true := by
  unfold getOrCreatePlayer
  split
  next a ha => rw [ha, Option.isSome_some]
  · show (Function.update g.playersByUserId userId (some g.nextActorId) userId).isSome = true
    rw [Function.update_self, Option.isSome_some]

theorem passes_login : Passes u g (g.login c) := by
  unfold login
  split
  · exact .refl
  next body _ =>
    split_ifs
    · exact .refl
    · refine passes_getOrCreatePlayer.trans (passes_of_room (fun _ => rfl) fun hg =>
        ⟨hg.rooms, fun s => ?_⟩)
      dsimp only
      rw [SessionLookup.userIdFor_setSessionUser]
      split_ifs
      · exact fun _ => isSome_getOrCreatePlayer body.userId
      · exact hg.players s

theorem passes_roomJoin : Passes (g.userOf c) g (g.roomJoin c) := by
  unfold roomJoin
  split
  · exact .refl
  · split_ifs
    · exact .refl
    · split
      · exact .refl
      · exact (passes_tell (m := .joinRoom _ _) trivial).trans passes_setSessionRoom

theorem passes_roomReady : Passes (g.userOf c) g (g.roomReady c) := by
  unfold roomReady
  split_ifs
  · exact .refl
  · split
    · exact .refl
    · exact passes_tellRoom trivial

theorem passes_roomLeave : Passes (g.userOf c) g (g.roomLeave c) := by
  unfold roomLeave
  split_ifs
  · exact .refl
  · split
    · exact .refl
    · exact (passes_tell (m := .leaveRoom _) rfl).trans (passes_of_room (fun _ => rfl) fun hg =>
        ⟨hg.rooms, hg.players⟩)

theorem passes_battleStart : Passes (g.userOf c) g (g.battleStart c) := by
  unfold battleStart
  split_ifs
  · exact .refl
  · split
    · exact .refl
    · split_ifs
      · exact .refl
      · exact passes_tellRoom trivial

/-! ## A room is created -/

theorem roomActors_createRoomActor (roomId : String) :
    (g.createRoomActor roomId).1.roomActors g.nextActorId = some {} :=
  Function.update_self ..

theorem sound_createRoomActor (hg : g.Sound) (roomId : String) :
    (g.createRoomActor roomId).1.Sound where
  rooms id a ha := by
    change Function.update g.roomsByRoomId roomId (some g.nextActorId) id = some a at ha
    show a < g.nextActorId + 1
    rw [Function.update_apply] at ha
    split_ifs at ha
    · obtain rfl : g.nextActorId = a := Option.some.inj ha
      exact Nat.lt_succ_self _
    · exact (hg.rooms id a ha).trans (Nat.lt_succ_self _)
  players := hg.players

theorem room_createRoomActor (hg : g.Sound) {roomId id : String} (hne : id ≠ roomId) :
    (g.createRoomActor roomId).1.room id = g.room id := by
  show (Function.update g.roomsByRoomId roomId (some g.nextActorId) id).bind
      (Function.update g.roomActors g.nextActorId (some {})) = _
  rw [Function.update_of_ne hne]
  unfold room
  cases ha : g.roomsByRoomId id with
  | none => rfl
  | some a => exact Function.update_of_ne (hg.rooms id a ha).ne _ _

theorem room_createRoomActor_self (roomId : String) :
    (g.createRoomActor roomId).1.room roomId = some {} := by
  show (Function.update g.roomsByRoomId roomId (some g.nextActorId) roomId).bind
      (Function.update g.roomActors g.nextActorId (some {})) = _
  rw [Function.update_self, Option.bind_some, Function.update_self]

/-- A new room takes nothing from the others where the id names no room of theirs. -/
theorem passes_createRoomActor (hg : g.Sound) {roomId : String}
    (halone : ∀ v ∈ g.membersOf roomId, v = u) : Passes u g (g.createRoomActor roomId).1 where
  rooms id r hr := by
    by_cases hid : id = roomId
    · subst hid
      exact ⟨{}, room_createRoomActor_self id,
        RoomActor.follows_of_alone fun v hv => halone v (mem_membersOf.mpr ⟨r, hr, hv⟩)⟩
    · exact ⟨r, (room_createRoomActor hg hid).trans hr, (frame_follows u).refl r⟩
  sound hg := sound_createRoomActor hg roomId

/-- The first message of a new room, which has no member to lose. -/
theorem passes_tell_new {a : ℕ} (ha : g.roomActors a = some {}) : Passes u g (g.tell a m) := by
  refine (told_tell (frame_follows u) fun r hr => ?_).passes
  obtain rfl : ({} : RoomActor) = r := Option.some.inj (ha.symm.trans hr)
  exact RoomActor.follows_of_alone fun _ hv => absurd hv List.not_mem_nil

theorem sound_roomCreate (hg : g.Sound) (c : GatewayCommand) : (g.roomCreate c).Sound := by
  unfold roomCreate
  split
  · exact hg
  next roomId _ =>
    split_ifs
    · exact hg
    · exact ((passes_tell_new (u := "") (roomActors_createRoomActor roomId)).trans
        passes_setSessionRoom).sound (sound_createRoomActor hg roomId)

theorem passes_roomCreate (hg : g.Sound)
    (halone : g.userOf c ≠ "" → ∀ roomId, parseRoomIdBody c.body = some roomId →
      ∀ v ∈ g.membersOf roomId, v = g.userOf c) : Passes (g.userOf c) g (g.roomCreate c) := by
  unfold roomCreate
  split
  · exact .refl
  next roomId hroom =>
    split_ifs with huser
    · exact .refl
    · exact (passes_createRoomActor hg (halone huser roomId hroom)).trans
        ((passes_tell_new (roomActors_createRoomActor roomId)).trans passes_setSessionRoom)

theorem sound_handle (hg : g.Sound) (c : GatewayCommand) : (g.handle c).Sound := by
  unfold handle
  split_ifs
  · exact hg
  · split
    · exact (passes_login (u := "")).sound hg
    · exact sound_roomCreate hg c
    · exact passes_roomJoin.sound hg
    · exact passes_roomReady.sound hg
    · exact passes_roomLeave.sound hg
    · exact passes_battleStart.sound hg
    · exact hg

theorem passes_handle (hg : g.Sound) (hc : ¬g.Replaces c) :
    Passes (g.userOf c) g (g.handle c) := by
  unfold handle
  split_ifs with hallowed
  · exact .refl
  · split
    · exact passes_login
    next htype =>
      refine passes_roomCreate hg fun huser roomId hroom v hv => by_contra fun hne => hc ?_
      exact ⟨by simpa using hallowed, htype, huser, roomId, hroom, v, hv, hne⟩
    · exact passes_roomJoin
    · exact passes_roomReady
    · exact passes_roomLeave
    · exact passes_battleStart
    · exact .refl

theorem passes_noticed (notices : List BattleNotice) : Passes u g (g.noticed notices) :=
  (told_noticed (frame_follows u) notices).passes

/-! ## The other actions -/

theorem passes_onSessionClosed {s : SessionId} :
    Passes (g.lookup.userIdFor s) g (g.onSessionClosed s) := by
  have herased : ∀ g : LocalRuntime, g.Sound → ∀ t,
      (g.lookup.eraseSession s).userIdFor t ≠ "" →
        (g.playersByUserId ((g.lookup.eraseSession s).userIdFor t)).isSome = true :=
    fun g hg t => by
      rw [SessionLookup.userIdFor_eraseSession]
      split_ifs
      · exact fun h => absurd rfl h
      · exact hg.players t
  unfold onSessionClosed
  dsimp only
  split_ifs
  · exact (passes_tellRoom (m := .leaveRoom _) rfl).trans (passes_of_room (fun _ => rfl) fun hg =>
      ⟨hg.rooms, herased _ hg⟩)
  · exact passes_of_room (fun _ => rfl) fun hg => ⟨hg.rooms, herased g hg⟩

theorem passes_setUserRoom {userId roomId : String} :
    Passes u g (g.setUserRoom p userId roomId) := by
  unfold setUserRoom
  split
  · exact .refl
  · exact passes_setSessionRoom

theorem passes_joinMatched (actorId : ℕ) (roomId : String) (g : LocalRuntime) (userId : String) :
    Passes u g (joinMatched p actorId roomId g userId) := by
  unfold joinMatched
  dsimp only
  split
  · exact passes_setUserRoom
  · exact passes_setUserRoom.trans (passes_tell (m := .joinRoom _ _) trivial)

/-- Unlike the command, a match takes no id that names a room. -/
theorem passes_createRoomFromMatch (hg : g.Sound) (result : MatchResult) :
    Passes u g (g.createRoomFromMatch p result).1 := by
  unfold createRoomFromMatch
  dsimp only
  split_ifs with hroom
  · exact .refl
  · split
    · exact .refl
    next ownerId others _ =>
      have halone : ∀ v ∈ g.membersOf ("room_" ++ result.matchId), v = u := fun v hv => by
        obtain ⟨r, hr, -⟩ := mem_membersOf.mp hv
        obtain ⟨a, ha, -⟩ := Option.bind_eq_some_iff.mp hr
        exact absurd (ha ▸ rfl) hroom
      dsimp only
      exact (passes_createRoomActor hg halone).trans
        ((passes_tell_new (roomActors_createRoomActor _)).trans
          (passes_setUserRoom.trans (passes_foldl (passes_joinMatched _ _) others)))

theorem passes_readyAllPlayers {result : MatchResult} {roomId : String} :
    Passes u g (g.readyAllPlayers result roomId) :=
  passes_foldl (fun _ userId => passes_tellRoom (m := .setReady userId true) trivial)
    result.playerIds

theorem passes_onMatchFound (hg : g.Sound) (result : MatchResult) :
    Passes u g (g.onMatchFound p result) := by
  have hcreate := passes_createRoomFromMatch (u := u) (p := p) hg result
  unfold onMatchFound
  split_ifs
  · exact .refl
  · split
    · exact .refl
    next g₁ roomId hg₁ =>
      rw [hg₁] at hcreate
      refine hcreate.trans ?_
      have hprocessed : Passes u g₁
          { g₁ with processedMatchIds := result.matchId :: g₁.processedMatchIds } :=
        passes_of_room (fun _ => rfl) fun hg => ⟨hg.rooms, hg.players⟩
      refine hprocessed.trans ?_
      split
      · exact .refl
      · exact passes_readyAllPlayers.trans (passes_tellRoom (m := .startBattle _) trivial)

theorem sound_step {a : Action} (hg : g.Sound) (hs : step p g a = some g') : g'.Sound := by
  cases a with
  | command c notices =>
    obtain rfl := Option.some.inj hs
    exact (passes_noticed (u := "") notices).sound (sound_handle hg c)
  | sessionClosed s notices =>
    obtain rfl := Option.some.inj hs
    exact (passes_noticed (u := "") notices).sound (passes_onSessionClosed.sound hg)
  | sessionRole s role =>
    obtain rfl := Option.some.inj hs
    exact ⟨hg.rooms, hg.players⟩
  | matchFound result =>
    obtain rfl := Option.some.inj hs
    exact (passes_onMatchFound (u := "") hg result).sound hg
  | notices notices =>
    obtain rfl := Option.some.inj hs
    exact (passes_noticed (u := "") notices).sound hg

theorem Reaches.sound (h : Reaches p g) : g.Sound := by
  refine h.invariant (P := Sound) ?_ fun _ _ _ hg _ hs => sound_step hg hs
  rintro g rfl
  exact ⟨fun _ _ h => absurd h nofun, fun _ h => absurd rfl h⟩

/-! ## What a command does to the other users -/

/-- Its creator is alone in a room that a command creates. -/
theorem room_roomCreate {roomId : String} (hroom : parseRoomIdBody c.body = some roomId)
    (huser : g.userOf c ≠ "") :
    ∃ r, (g.roomCreate c).room roomId = some r ∧ r.userIds = [g.userOf c] := by
  unfold roomCreate
  rw [hroom]
  dsimp only
  rw [if_neg huser]
  unfold tell deliver
  rw [show (g.createRoomActor roomId).1.roomActors (g.createRoomActor roomId).2 = some {} from
    roomActors_createRoomActor roomId]
  refine ⟨({} : RoomActor).handleCreateRoom roomId (g.userOf c)
    ((g.createRoomActor roomId).1.playerActorId (g.userOf c)), ?_, rfl⟩
  show (Function.update g.roomsByRoomId roomId (some g.nextActorId) roomId).bind
    (Function.update _ g.nextActorId (some _)) = _
  rw [Function.update_self, Option.bind_some, Function.update_self]
  rfl

theorem handle_of_replaces (hc : g.Replaces c) : g.handle c = g.roomCreate c := by
  unfold handle
  rw [hc.1, hc.2.1]
  rfl

/-- Whoever was in the room that is replaced is in none under its id. -/
theorem not_othersStay_of_replaces (hc : g.Replaces c) (notices : List BattleNotice) :
    ¬OthersStay (g.userOf c) g ((g.handle c).noticed notices) := by
  intro hstay
  rw [handle_of_replaces hc] at hstay
  obtain ⟨-, -, huser, roomId, hroom, v, hv, hne⟩ := hc
  obtain ⟨r, hr, hids⟩ := room_roomCreate hroom huser
  obtain ⟨r', hr', hsame⟩ := (told_noticed frame_same notices).room hr
  obtain ⟨s, hs, hvs⟩ := mem_membersOf.mp (hstay.stays roomId v hne hv)
  obtain rfl : r' = s := Option.some.inj (hr'.symm.trans hs)
  rw [hsame.userIds, hids, List.mem_singleton] at hvs
  exact hne hvs

/-- A command leaves every other user in the rooms where it was, under the same owner unless
that was its own user, exactly when it does not create a room under the id of one in which
somebody else is. -/
theorem othersStay_iff (h : Reaches p g) (c : GatewayCommand) (notices : List BattleNotice) :
    OthersStay (g.userOf c) g ((g.handle c).noticed notices) ↔ ¬g.Replaces c :=
  ⟨fun hstay hc => not_othersStay_of_replaces hc notices hstay,
    fun hc => ((passes_handle h.sound hc).trans (passes_noticed notices)).othersStay⟩

/-- A login. -/
def loginOf (sessionId : SessionId) (userId : String) : GatewayCommand :=
  { sessionId, type := .kLogin, protocolMessageId := kLoginRequest, body := userId }

/-- A command that creates a room. -/
def createOf (sessionId : SessionId) (roomId : String) : GatewayCommand :=
  { sessionId, type := .kRoomCreate, protocolMessageId := kRoomCreateRequest, body := roomId }

/-- A command that joins a room. -/
def joinOf (sessionId : SessionId) (roomId : String) : GatewayCommand :=
  { sessionId, type := .kRoomJoin, protocolMessageId := kRoomJoinRequest, body := roomId }

theorem reaches_room : ∃ g, Reaches .plain g ∧ g.membersOf "r" = ["owner"] ∧
    g.lookup.userIdFor 2 = "member" ∧ (g.sessionRoles 2).isNone = true :=
  (Reaches.init rfl : Reaches .plain {}).exists_runWith
    [.command (loginOf 1 "owner") [], .command (createOf 1 "r") [],
      .command (loginOf 2 "member") []] (by decide +kernel)

/-- The room that another user joins. -/
theorem othersStay_iff_join : ∃ g, Reaches .plain g ∧ g.membersOf "r" = ["owner"] ∧
    OthersStay "member" g ((g.handle (joinOf 2 "r")).noticed []) := by
  obtain ⟨g, hg, howner, hmember, -⟩ := reaches_room
  have hstay := (othersStay_iff hg (joinOf 2 "r") []).mpr fun hc => nomatch hc.2.1
  rw [show g.userOf (joinOf 2 "r") = "member" from hmember] at hstay
  exact ⟨g, hg, howner, hstay⟩

/-- Another user creates a room under the id of one, and its owner is a member no more. -/
theorem not_othersStay : ¬∀ p g, Reaches p g → ∀ c notices,
    OthersStay (g.userOf c) g ((g.handle c).noticed notices) := by
  intro hall
  obtain ⟨g, hg, howner, hmember, hrole⟩ := reaches_room
  refine not_othersStay_of_replaces ?_ [] (hall _ g hg (createOf 2 "r") [])
  refine ⟨?_, rfl, ?_, "r", by decide, "owner", ?_, ?_⟩
  · unfold isSessionAllowed
    rw [show g.sessionRoles (createOf 2 "r").sessionId = none from
      Option.isNone_iff_eq_none.mp hrole, Option.all_none]
  · exact (show g.userOf (createOf 2 "r") = "member" from hmember) ▸ by decide
  · rw [howner]
    exact List.mem_singleton_self _
  · exact (show g.userOf (createOf 2 "r") = "member" from hmember) ▸ by decide

end LocalRuntime

end BoostGateway.Gateway
