import BoostGateway.Gateway.LocalRuntime
import BoostGateway.Player.PlayerActor

/-!
# The end of a battle

`Runtime::push` of a settlement and of a finish, and `process_battle_finished`
(`runtime.cpp`), in a gateway without backends. A finish is put off until as many
acknowledgements have come as the settlement counts : one of the room and one of every
participant, whether or not there is somebody who is told. Nothing else is in the mailboxes when
a battle ends, and the answers to the clients and the archive are left out.

The battle is closed exactly when its room is registered with it and every participant has an
actor that plays it (`ClosingRuntime.closed_iff`); the acknowledgements are counted along the
messages (`ClosingRuntime.Awaiting`).
-/

namespace BoostGateway.Gateway

open Room (RoomActorEvent RoomMessage)
open Player (PlayerActor PlayerEvent PlayerMessage)

/-- The acknowledgements of a settlement. -/
structure PendingSettlementAck where
  expectedAcks : ℕ
  receivedAcks : ℕ := 0
  deriving DecidableEq

/-- `BattleFinishedMsg`. -/
structure BattleFinished where
  battleId : String
  roomId : String
  reason : String := ""
  deriving DecidableEq

/-- The gateway with its players and settlements. -/
structure ClosingRuntime where
  gateway : LocalRuntime := {}
  /-- Every player is registered. -/
  playerActors : ℕ → Option PlayerActor := fun _ => none
  pendingSettlementAcks : String → Option PendingSettlementAck := fun _ => none
  deferredFinishedEvents : String → Option BattleFinished := fun _ => none
  /-- The battles that `process_battle_finished` was called for. -/
  processed : List String := []
  /-- The battles that have ended. -/
  ended : List String := []

namespace ClosingRuntime

variable (s : ClosingRuntime)

/-- The actor of the player. -/
def player (userId : String) : Option PlayerActor :=
  (s.gateway.playersByUserId userId).bind s.playerActors

/-- The end of a battle is told. -/
def processBattleFinished (f : BattleFinished) : ClosingRuntime :=
  { s with
    gateway := s.gateway.notice (.finished f.roomId f.battleId f.reason)
    playerActors := fun a =>
      (s.playerActors a).map fun p => (p.onMessage (.battleEnded f.battleId)).1
    processed := s.processed ++ [f.battleId] }

/-- `process_deferred_finished`. -/
def processDeferredFinished (battleId : String) : ClosingRuntime :=
  let s := { s with
    pendingSettlementAcks := Function.update s.pendingSettlementAcks battleId none }
  match s.deferredFinishedEvents battleId with
  | none => s
  | some f =>
    { s with
      deferredFinishedEvents := Function.update s.deferredFinishedEvents battleId none
      }.processBattleFinished f

/-- `push` of a `BattleSettlementAppliedMsg`, of the room or of a player. -/
def acknowledge (battleId : String) : ClosingRuntime :=
  match s.pendingSettlementAcks battleId with
  | none => s
  | some ack =>
    let ack := { ack with receivedAcks := ack.receivedAcks + 1 }
    let s := { s with
      pendingSettlementAcks := Function.update s.pendingSettlementAcks battleId (some ack) }
    if ack.expectedAcks ≤ ack.receivedAcks then s.processDeferredFinished battleId else s

def pushRoom (s : ClosingRuntime) : RoomActorEvent → ClosingRuntime
  | .battleSettlementApplied _ battleId _ => s.acknowledge battleId
  | e => { s with gateway := s.gateway.push e }

def pushPlayer (s : ClosingRuntime) : PlayerEvent → ClosingRuntime
  | .loginAccepted sessionId userId _ _ =>
    { s with
      gateway := { s.gateway with lookup := s.gateway.lookup.setSessionUser sessionId userId } }
  | .battleSettlementApplied battleId _ => s.acknowledge battleId
  | _ => s

def tellRoom (roomId : String) (m : RoomMessage) : ClosingRuntime :=
  match s.gateway.roomsByRoomId roomId with
  | none => s
  | some actorId =>
    let (gateway, events) := s.gateway.deliver actorId m
    events.foldl pushRoom { s with gateway := gateway }

def tellPlayer (userId : String) (m : PlayerMessage) : ClosingRuntime :=
  match s.gateway.playersByUserId userId with
  | none => s
  | some actorId =>
    match s.playerActors actorId with
    | none => s
    | some p =>
      let (p, events) := p.onMessage m
      events.foldl pushPlayer
        { s with playerActors := Function.update s.playerActors actorId (some p) }

/-- `push` of a `BattleSettlementPreparedMsg`. -/
def settlementPrepared (f : BattleFinished) (participants : List String) : ClosingRuntime :=
  let s := { s with
    pendingSettlementAcks := Function.update s.pendingSettlementAcks f.battleId
      (some { expectedAcks := 1 + participants.length }) }
  let s := s.tellRoom f.roomId (.battleSettlement f.battleId f.reason)
  let s := participants.foldl
    (fun s userId => s.tellPlayer userId (.battleSettlement f.battleId f.reason)) s
  if (s.pendingSettlementAcks f.battleId).any fun ack => ack.expectedAcks ≤ ack.receivedAcks then
    { s with pendingSettlementAcks := Function.update s.pendingSettlementAcks f.battleId none }
  else s

/-- `push` of a `BattleFinishedMsg`. -/
def battleFinished (f : BattleFinished) : ClosingRuntime :=
  if (s.pendingSettlementAcks f.battleId).isSome then
    { s with
      deferredFinishedEvents := Function.update s.deferredFinishedEvents f.battleId (some f) }
  else s.processBattleFinished f

/-- `finish_battle`, which a battle passes once. -/
def finishBattle (f : BattleFinished) (participants : List String) : ClosingRuntime :=
  { (s.settlementPrepared f participants).battleFinished f with ended := f.battleId :: s.ended }

/-- What happens to a gateway. -/
inductive ClosingAction
  /-- Whatever else happens to the rooms and the players. -/
  | changed (gateway : LocalRuntime) (playerActors : ℕ → Option PlayerActor)
  | finish (f : BattleFinished) (participants : List String)

/-- One change, settlement or end of a battle. -/
def step (s : ClosingRuntime) : ClosingAction → Option ClosingRuntime
  | .changed gateway playerActors => some { s with gateway, playerActors }
  | .finish f participants =>
    if f.battleId ∈ s.ended then none else some (s.finishBattle f participants)

abbrev Reaches : ClosingRuntime → Prop :=
  BoostGateway.Reaches (· = {}) step fun _ _ => True

/-- The battle is processed once, and nothing stays for it. -/
structure Closed (f : BattleFinished) (s s' : ClosingRuntime) : Prop where
  once : s'.processed = s.processed ++ [f.battleId]
  battles : s'.gateway.battlesByRoomId f.roomId = none
  pending : s'.pendingSettlementAcks f.battleId = none
  deferred : s'.deferredFinishedEvents f.battleId = none

/-- The room plays the battle. -/
def roomPlays (f : BattleFinished) : Bool :=
  (s.gateway.room f.roomId).any fun r => r.activeBattleId = some f.battleId

/-- The player plays the battle. -/
def playerPlays (battleId userId : String) : Bool :=
  (s.player userId).any fun p => p.battleId = some battleId

/-! ## The acknowledgements are counted -/

/-- The settlement of a battle that is not finished has had `k` acknowledgements out of `e`,
and the gateway is `g`. -/
structure Awaiting (g : LocalRuntime) (battleId : String) (e k : ℕ) (s s' : ClosingRuntime) :
    Prop where
  gateway : s'.gateway = g
  pending : s'.pendingSettlementAcks battleId = if k < e then some ⟨e, k⟩ else none
  deferred : s'.deferredFinishedEvents = s.deferredFinishedEvents
  processed : s'.processed = s.processed
  players : s'.playerPlays battleId = s.playerPlays battleId

variable {s} {s' : ClosingRuntime} {f : BattleFinished} {battleId : String} {e k : ℕ}
  {g : LocalRuntime}

theorem Awaiting.acknowledge (h : Awaiting g battleId e k s s') (hk : k < e)
    (hd : s.deferredFinishedEvents battleId = none) :
    Awaiting g battleId e (k + 1) s (s'.acknowledge battleId) := by
  unfold ClosingRuntime.acknowledge
  rw [h.pending, if_pos hk]
  dsimp only
  split_ifs with hle
  · have hd' : s'.deferredFinishedEvents battleId = none := by rw [h.deferred, hd]
    unfold processDeferredFinished
    dsimp only
    rw [hd']
    refine ⟨h.gateway, ?_, h.deferred, h.processed, h.players⟩
    rw [if_neg (not_lt.mpr hle)]
    exact Function.update_self ..
  · refine ⟨h.gateway, ?_, h.deferred, h.processed, h.players⟩
    rw [if_pos (not_le.mp hle)]
    exact Function.update_self ..

theorem tellRoom_of_some {roomId : String} {actorId : ℕ} {r : Room.RoomActor} {m : RoomMessage}
    (ha : s.gateway.roomsByRoomId roomId = some actorId)
    (hr : s.gateway.roomActors actorId = some r) :
    s.tellRoom roomId m = (r.onMessage m).2.foldl pushRoom { s with gateway := { s.gateway with
      roomActors := Function.update s.gateway.roomActors actorId (some (r.onMessage m).1) } } := by
  unfold tellRoom LocalRuntime.deliver
  rw [ha]
  dsimp only
  rw [hr]

theorem tellRoom_of_none {roomId : String} {m : RoomMessage}
    (h : s.gateway.room roomId = none) : s.tellRoom roomId m = s := by
  unfold tellRoom LocalRuntime.deliver
  cases ha : s.gateway.roomsByRoomId roomId with
  | none => rfl
  | some a =>
    have hr : s.gateway.roomActors a = none := by
      simpa only [LocalRuntime.room, ha, Option.bind_some] using h
    dsimp only
    rw [hr]
    rfl

theorem Awaiting.tellRoom (h : Awaiting g battleId e k s s') (hk : k < e)
    (hd : s.deferredFinishedEvents battleId = none) (roomId reason : String) :
    Awaiting (g.notice (.settlementPrepared roomId battleId reason)) battleId e
      (k + if (g.room roomId).any fun r => r.activeBattleId = some battleId then 1 else 0)
      s (s'.tellRoom roomId (.battleSettlement battleId reason)) := by
  obtain rfl := h.gateway
  cases hroom : s'.gateway.room roomId with
  | none =>
    rw [tellRoom_of_none hroom]
    exact ⟨(LocalRuntime.tellRoom_of_none hroom).symm, h.pending, h.deferred, h.processed,
      h.players⟩
  | some r =>
    obtain ⟨a, ha, hr⟩ := Option.bind_eq_some_iff.mp hroom
    rw [tellRoom_of_some ha hr, Room.RoomActor.onMessage_battleSettlement, Option.any_some]
    have htold : Awaiting (s'.gateway.notice (.settlementPrepared roomId battleId reason))
        battleId e k s { s' with gateway := { s'.gateway with
          roomActors := Function.update s'.gateway.roomActors a
            (some (r.onMessage (.battleSettlement battleId reason)).1) } } := by
      refine ⟨?_, h.pending, h.deferred, h.processed, h.players⟩
      show _ = s'.gateway.tellRoom roomId _
      rw [LocalRuntime.tellRoom_of_some ha hr, Room.RoomActor.onMessage_battleSettlement]
      split_ifs <;> rfl
    by_cases hplays : r.activeBattleId = some battleId
    · rw [if_pos hplays, if_pos (decide_eq_true hplays)]
      exact htold.acknowledge hk hd
    · rw [if_neg hplays, if_neg (by simpa using hplays)]
      exact htold

theorem tellPlayer_of_some {userId : String} {actorId : ℕ} {p : PlayerActor} {m : PlayerMessage}
    (ha : s.gateway.playersByUserId userId = some actorId)
    (hp : s.playerActors actorId = some p) :
    s.tellPlayer userId m = (p.onMessage m).2.foldl pushPlayer { s with
      playerActors := Function.update s.playerActors actorId (some (p.onMessage m).1) } := by
  unfold tellPlayer
  rw [ha]
  dsimp only
  rw [hp]

theorem tellPlayer_of_none {userId : String} {m : PlayerMessage} (h : s.player userId = none) :
    s.tellPlayer userId m = s := by
  unfold tellPlayer
  cases ha : s.gateway.playersByUserId userId with
  | none => rfl
  | some a =>
    have hp : s.playerActors a = none := by
      simpa only [player, ha, Option.bind_some] using h
    dsimp only
    rw [hp]

theorem playerPlays_update {actorId : ℕ} {p p' : PlayerActor}
    (hp : s.playerActors actorId = some p) (hsame : p'.battleId = p.battleId) :
    ({ s with playerActors := Function.update s.playerActors actorId (some p') } :
      ClosingRuntime).playerPlays battleId = s.playerPlays battleId := by
  funext userId
  unfold playerPlays player
  dsimp only
  cases s.gateway.playersByUserId userId with
  | none => rfl
  | some a =>
    rw [Option.bind_some, Option.bind_some]
    by_cases ha : a = actorId
    · rw [ha, Function.update_self, hp, Option.any_some, Option.any_some, hsame]
    · rw [Function.update_of_ne ha]

theorem Awaiting.tellPlayer (h : Awaiting g battleId e k s s') (hk : k < e)
    (hd : s.deferredFinishedEvents battleId = none) (userId reason : String) :
    Awaiting g battleId e (k + if s.playerPlays battleId userId then 1 else 0) s
      (s'.tellPlayer userId (.battleSettlement battleId reason)) := by
  rw [← h.players]
  unfold playerPlays
  cases hplayer : s'.player userId with
  | none =>
    rw [tellPlayer_of_none hplayer]
    exact h
  | some p =>
    obtain ⟨a, ha, hp⟩ := Option.bind_eq_some_iff.mp hplayer
    rw [tellPlayer_of_some ha hp, PlayerActor.onMessage_battleSettlement, Option.any_some]
    have htold : Awaiting g battleId e k s { s' with
        playerActors := Function.update s'.playerActors a
          (some (p.onMessage (.battleSettlement battleId reason)).1) } :=
      ⟨h.gateway, h.pending, h.deferred, h.processed,
        (playerPlays_update hp (PlayerActor.battleId_battleSettlement ..)).trans h.players⟩
    by_cases hplays : p.battleId = some battleId
    · rw [if_pos hplays, if_pos (decide_eq_true hplays)]
      exact htold.acknowledge hk hd
    · rw [if_neg hplays, if_neg (by simpa using hplays)]
      exact htold

theorem Awaiting.tellPlayers (hd : s.deferredFinishedEvents battleId = none)
    (participants : List String) (reason : String) (h : Awaiting g battleId e k s s')
    (hle : k + participants.length ≤ e) :
    Awaiting g battleId e (k + participants.countP (s.playerPlays battleId)) s
      (participants.foldl
        (fun s userId => s.tellPlayer userId (.battleSettlement battleId reason)) s') := by
  induction participants generalizing s' k with
  | nil => exact h
  | cons userId participants ih =>
    rw [List.length_cons] at hle
    have hk : k < e := by omega
    rw [List.foldl_cons, List.countP_cons, Nat.add_comm (participants.countP _), ← Nat.add_assoc]
    refine ih (h.tellPlayer hk hd userId reason) ?_
    split_ifs <;> omega

theorem Awaiting.not_reached (h : Awaiting g battleId e k s s') :
    ¬((s'.pendingSettlementAcks battleId).any fun ack =>
      decide (ack.expectedAcks ≤ ack.receivedAcks)) = true := by
  rw [h.pending]
  by_cases hlt : k < e
  · rw [if_pos hlt, Option.any_some]
    simpa using hlt
  · rw [if_neg hlt]
    exact Bool.false_ne_true

/-- How many acknowledge the settlement. -/
def acks (s : ClosingRuntime) (f : BattleFinished) (participants : List String) : ℕ :=
  (if s.roomPlays f then 1 else 0) + participants.countP (s.playerPlays f.battleId)

theorem awaiting_settlementPrepared (hd : s.deferredFinishedEvents f.battleId = none)
    (participants : List String) :
    Awaiting (s.gateway.notice (.settlementPrepared f.roomId f.battleId f.reason)) f.battleId
      (1 + participants.length) (s.acks f participants) s
      (s.settlementPrepared f participants) := by
  have hstart : Awaiting s.gateway f.battleId (1 + participants.length) 0 s { s with
      pendingSettlementAcks := Function.update s.pendingSettlementAcks f.battleId
        (some { expectedAcks := 1 + participants.length }) } :=
    ⟨rfl, by rw [if_pos (by omega)]; exact Function.update_self .., rfl, rfl, rfl⟩
  have hroom := hstart.tellRoom (by omega) hd f.roomId f.reason
  rw [Nat.zero_add] at hroom
  have hplayers := hroom.tellPlayers hd participants f.reason (by split_ifs <;> omega)
  unfold settlementPrepared
  dsimp only
  rw [if_neg hplayers.not_reached]
  exact hplayers

theorem acks_le (participants : List String) : s.acks f participants ≤ 1 + participants.length := by
  have hle := List.countP_le_length (p := s.playerPlays f.battleId) (l := participants)
  unfold acks
  split_ifs <;> omega

theorem acks_eq_iff (participants : List String) :
    s.acks f participants = 1 + participants.length ↔
      s.roomPlays f = true ∧ ∀ u ∈ participants, s.playerPlays f.battleId u = true := by
  have hle := List.countP_le_length (p := s.playerPlays f.battleId) (l := participants)
  rw [← List.countP_eq_length]
  unfold acks
  split_ifs with hroom
  · rw [Nat.add_left_cancel_iff, and_iff_right hroom]
  · exact iff_of_false (by omega) fun h => hroom h.1

/-! ## The battle is closed -/

theorem battlesByRoomId_processBattleFinished :
    (s.processBattleFinished f).gateway.battlesByRoomId f.roomId = none := by
  unfold processBattleFinished LocalRuntime.notice LocalRuntime.tellRoom
  dsimp only
  split
  · exact Function.update_self ..
  · unfold LocalRuntime.tell LocalRuntime.deliver
    dsimp only
    split <;> exact Function.update_self ..

/-- What was put off belongs to a battle that has ended. -/
def Fresh (s : ClosingRuntime) : Prop :=
  ∀ battleId, s.deferredFinishedEvents battleId ≠ none → battleId ∈ s.ended

theorem Fresh.deferred (h : s.Fresh) (hnew : f.battleId ∉ s.ended) :
    s.deferredFinishedEvents f.battleId = none :=
  by_contra fun hd => hnew (h _ hd)

theorem Fresh.finishBattle (h : s.Fresh) (hnew : f.battleId ∉ s.ended)
    (participants : List String) : (s.finishBattle f participants).Fresh := by
  have hawait := awaiting_settlementPrepared (h.deferred hnew) participants
  intro battleId hd
  show battleId ∈ f.battleId :: s.ended
  by_cases hb : battleId = f.battleId
  · exact hb ▸ List.mem_cons_self ..
  · refine List.mem_cons_of_mem _ (h battleId fun hs => hd ?_)
    have hprepared : (s.settlementPrepared f participants).deferredFinishedEvents battleId = none :=
      by rw [hawait.deferred, hs]
    unfold ClosingRuntime.finishBattle battleFinished
    split_ifs
    · exact (Function.update_of_ne hb ..).trans hprepared
    · exact hprepared

theorem Reaches.fresh (h : s.Reaches) : s.Fresh := by
  refine h.invariant (P := Fresh) ?_ ?_
  · rintro s rfl battleId hd
    exact absurd rfl hd
  · rintro s a s' hs - hstep
    cases a with
    | changed gateway playerActors =>
      obtain rfl := Option.some.inj hstep
      exact hs
    | finish f participants =>
      unfold step at hstep
      dsimp only at hstep
      split_ifs at hstep with hended
      obtain rfl := Option.some.inj hstep
      exact hs.finishBattle hended participants

/-- A battle that ends is closed exactly when a room is registered under its id that plays
it, and so does the actor of every participant. -/
theorem closed_iff (h : s.Reaches) {participants : List String}
    (hstep : s.step (.finish f participants) = some s') :
    Closed f s s' ↔
      s.roomPlays f = true ∧ ∀ u ∈ participants, s.playerPlays f.battleId u = true := by
  unfold step at hstep
  dsimp only at hstep
  split_ifs at hstep with hended
  obtain rfl := Option.some.inj hstep
  have hd := h.fresh.deferred hended
  have hawait := awaiting_settlementPrepared hd participants
  have hpending := hawait.pending
  rw [← acks_eq_iff]
  by_cases hall : s.acks f participants = 1 + participants.length
  · rw [if_neg (by omega)] at hpending
    refine iff_of_true ?_ hall
    unfold finishBattle battleFinished
    rw [hpending, if_neg (by simp)]
    refine ⟨?_, battlesByRoomId_processBattleFinished, hpending, ?_⟩
    · exact congrArg (· ++ [f.battleId]) hawait.processed
    · exact (congrFun hawait.deferred f.battleId).trans hd
  · have hlt : s.acks f participants < 1 + participants.length :=
      lt_of_le_of_ne (acks_le participants) hall
    rw [if_pos hlt] at hpending
    refine iff_of_false (fun hclosed => ?_) hall
    have hnone := hclosed.pending
    unfold finishBattle battleFinished at hnone
    rw [hpending, if_pos (by simp)] at hnone
    exact absurd (hpending.symm.trans hnone) (by simp)

/-! ## A battle of two -/

def readyOf (sessionId : SessionId) : GatewayCommand :=
  { sessionId, type := .kRoomReady, protocolMessageId := kRoomReadyRequest, body := "true" }

def startOf (sessionId : SessionId) : GatewayCommand :=
  { sessionId, type := .kBattleStart, protocolMessageId := kBattleStartRequest }

open LocalRuntime in
/-- The gateway after `owner` started a battle with `member`. -/
def started : LocalRuntime :=
  [loginOf 1 "owner", createOf 1 "r", loginOf 2 "member", joinOf 2 "r", readyOf 1, readyOf 2,
    startOf 1].foldl handle {}

/-- The players' actors, which were told of the battle. -/
def startedPlayers (actorId : ℕ) : Option PlayerActor :=
  if actorId = 1 ∨ actorId = 3 then some (PlayerActor.handleBattleAssigned {} 4 "battle_0001")
  else none

def startedBattle : BattleFinished := { battleId := "battle_0001", roomId := "r" }

theorem reaches_changed (gateway : LocalRuntime) (playerActors : ℕ → Option PlayerActor) :
    Reaches { gateway, playerActors } :=
  .step (a := .changed gateway playerActors) (.init rfl) trivial rfl

theorem closed_iff_started : ∃ s s', Reaches s ∧
    s.step (.finish startedBattle ["owner", "member"]) = some s' ∧ Closed startedBattle s s' :=
  have hs := reaches_changed started startedPlayers
  ⟨_, _, hs, rfl, (closed_iff hs rfl).mpr ⟨by decide +kernel, by decide +kernel⟩⟩

/-- A room created anew under the id does not play the battle, which is put off for good. -/
theorem not_closed : ¬∀ s, Reaches s → ∀ f participants s',
    s.step (.finish f participants) = some s' → Closed f s s' := by
  intro hall
  have hs := reaches_changed (started.handle (LocalRuntime.createOf 2 "r")) startedPlayers
  have hclosed := hall _ hs startedBattle ["owner", "member"] _ rfl
  exact absurd hclosed.pending (by decide +kernel)

end ClosingRuntime

end BoostGateway.Gateway
