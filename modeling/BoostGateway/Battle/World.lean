import Mathlib.Algebra.Order.Group.Unbundled.Int
import Mathlib.Algebra.Order.Ring.Int
import Mathlib.Data.List.Perm.Basic
import Mathlib.Data.List.Sort

/-!
# The battle world

The entities and systems of a battle (`runtime_world.cpp`, `game_systems.cpp`). A
participant has five components that are added together and never removed, and perhaps an
overlay of damage over time, so it is one record, and so is a projectile with its position.
The systems run in the order of their stages, in each stage in the order they were
registered. The view of `AoiSystem` and the anomaly reports are not read by anything here
and are left out. The parsers look at single ASCII characters, so a byte string is a text of
characters below 256.

The lifecycle is the one part of a world that two modules write : `timesOut` says when a
tick finds the limit of idle or offline frames reached, and `lifecycle_tick` that this is
the only way in which a tick ends a battle.
-/

namespace BoostGateway.Battle

/-! ## Text -/

/-- `isspace` of the C locale. -/
def isSpace (c : Char) : Bool := c = ' ' || (9 ≤ c.toNat && c.toNat ≤ 13)

/-- `strtol` in base 10 : the number at the start of a text, held in a `long`, and the
text after it. Without digits the number is 0 and nothing is read. -/
def strtol (cs : List Char) : ℤ × List Char :=
  let sign : Bool × List Char := match cs.dropWhile isSpace with
    | '-' :: rest => (true, rest)
    | '+' :: rest => (false, rest)
    | rest => (false, rest)
  match sign.2.span Char.isDigit with
  | ([], _) => (0, cs)
  | (digits, rest) =>
    let n : ℤ := digits.foldl (fun n c => 10 * n + (c.toNat - 48)) 0
    (if sign.1 then max (-n) (-2 ^ 63) else min n (2 ^ 63 - 1), rest)

/-- `static_cast<std::int32_t>`. -/
def toInt32 (n : ℤ) : ℤ := n.bmod (2 ^ 32)

/-- `std::abs` of an `int`, whose least value has no counterpart. -/
def absInt32 (n : ℤ) : ℤ := if n = -2 ^ 31 then n else |n|

/-- The text after `head`, when the text starts with it. -/
def after (head : String) (cs : List Char) : Option (List Char) :=
  if head.toList.isPrefixOf cs then some (cs.drop head.toList.length) else none

/-- The texts before and after the first comma. -/
def splitComma (cs : List Char) : Option (List Char × List Char) :=
  match cs.span (· ≠ ',') with
  | (x, _ :: y) => some (x, y)
  | (_, []) => none

/-- `normalize_direction`. -/
def normalizeDirection (dx dy : ℤ) : ℤ × ℤ :=
  if absInt32 dy ≤ absInt32 dx ∧ dx ≠ 0 then (if 0 < dx then 1 else -1, 0)
  else if dy ≠ 0 then (0, if 0 < dy then 1 else -1)
  else (1, 0)

/-! ## Components -/

/-- Where a battle stands. -/
inductive BattleLifecycleState
  | kCreated
  | kRunning
  | kFinished
  deriving DecidableEq, Repr

/-- Why a battle ended. -/
inductive BattleFinishReason
  | kFinished
  | kSurrender
  | kTimeout
  | kFrameLimitReached
  | kPlayerDisconnected
  | kUserRequested
  deriving DecidableEq, Repr

/-- The text of a reason. -/
def BattleFinishReason.toString : BattleFinishReason → String
  | .kFinished => "finished"
  | .kSurrender => "surrender"
  | .kTimeout => "timeout"
  | .kFrameLimitReached => "frame_limit_reached"
  | .kPlayerDisconnected => "player_disconnected"
  | .kUserRequested => "user_requested"

/-- The frame, and what triggered it. -/
structure BattleClockComponent where
  frameNumber : UInt32 := 0
  lastTrigger : String := ""

/-- A player of the battle. -/
structure BattleParticipantComponent where
  userId : String
  online : Bool := true
  score : ℤ := 0
  lastSubmittedFrame : UInt32 := 0
  lastAckedFrame : UInt32 := 0
  pendingInputData : String := ""
  pendingTargetUserId : String := ""
  pendingMoveX : ℤ := 0
  pendingMoveY : ℤ := 0
  hasPendingMove : Bool := false
  facingDx : ℤ := 1
  facingDy : ℤ := 0
  hasPendingFire : Bool := false
  pendingFireDx : ℤ := 1
  pendingFireDy : ℤ := 0

/-- The names and limits of the battle. -/
structure BattleMetadataComponent where
  battleId : String
  roomId : String
  lifecycle : BattleLifecycleState := .kCreated
  nextInputSeq : UInt64 := 1
  maxFrames : UInt32 := 0
  currentFrameNumber : UInt32 := 0

/-- An input in the replay. -/
structure BattleReplayInputRecord where
  inputSeq : UInt64
  frameNumber : UInt32
  userId : String
  inputData : String
  score : ℤ
  trigger : String := ""
  deriving DecidableEq

/-- `BattleReplayFrameRecord::ParticipantState`. -/
structure ReplayParticipantState where
  userId : String
  x : ℤ
  y : ℤ
  hp : ℤ
  score : ℤ
  online : Bool

/-- A frame in the replay. -/
structure BattleReplayFrameRecord where
  frameNumber : UInt32
  participants : List ReplayParticipantState
  lifecycle : BattleLifecycleState

/-- The replay. -/
structure BattleReplayLogComponent where
  replayInputs : List BattleReplayInputRecord := []
  frameSnapshots : List BattleReplayFrameRecord := []

/-- A place on the map. -/
structure PositionComponent where
  x : ℤ := 0
  y : ℤ := 0

/-- The health of a player. -/
structure HealthComponent where
  hp : ℤ := 100
  maxHp : ℤ := 100

/-- What an attack does, and how far. -/
structure AttackStateComponent where
  damage : ℤ := 10
  range : ℤ := 1

/-- When the next attack may come. -/
structure AttackCooldownComponent where
  lastAttackFrame : UInt32 := 0
  cooldownFrames : UInt32 := 3
  attacksThisFrame : UInt32 := 0

/-- The attacks of a player in a frame. -/
def kMaxAttacksPerFrame : UInt32 := 1

/-- A shot. -/
structure ProjectileComponent where
  projectileId : String
  ownerUserId : String
  /-- Empty for a shot without a target. -/
  targetUserId : String := ""
  startX : ℤ
  startY : ℤ
  targetX : ℤ
  targetY : ℤ
  dirX : ℤ
  dirY : ℤ
  damage : ℤ
  speed : ℤ
  aoeRadius : ℤ := 0
  durationFrames : UInt32 := 0
  currentFrame : UInt32 := 0
  active : Bool := true

/-- The fire that a shot leaves. -/
structure DamageOverlayComponent where
  sourceProjectileId : String
  damagePerTick : ℤ
  remainingTicks : UInt32
  intervalFrames : UInt32 := 1
  lastAppliedFrame : UInt32

/-- The entity of a participant. -/
structure ParticipantEntity where
  id : ℕ
  participant : BattleParticipantComponent
  position : PositionComponent := {}
  health : HealthComponent := {}
  attack : AttackStateComponent := {}
  cooldown : AttackCooldownComponent := {}
  overlay : Option DamageOverlayComponent := none

/-- The entity of a projectile. -/
structure ProjectileEntity where
  id : ℕ
  projectile : ProjectileComponent
  position : PositionComponent

/-- What the libraries leave open : the numbers drawn for the spawn positions of a battle,
the orders in which hash maps are visited, and the text of a floating-point number. -/
structure Libraries where
  draw : String → ℕ → ℤ × ℤ
  draw_mem : ∀ battleId index, 1 ≤ (draw battleId index).1 ∧ (draw battleId index).1 ≤ 18 ∧
    1 ≤ (draw battleId index).2 ∧ (draw battleId index).2 ≤ 13
  participantOrder : List ParticipantEntity → List ParticipantEntity
  participantOrder_perm : ∀ es, (participantOrder es).Perm es
  projectileOrder : List ProjectileEntity → List ProjectileEntity
  projectileOrder_perm : ∀ es, (projectileOrder es).Perm es
  floatText : Float → List Char

/-- Libraries that draw the smallest numbers and visit entities in the order of their
creation. -/
def Libraries.plain : Libraries where
  draw _ _ := (1, 1)
  draw_mem _ _ := by decide
  participantOrder es := es
  participantOrder_perm _ := .refl _
  projectileOrder es := es
  projectileOrder_perm _ := .refl _
  floatText _ := []

/-- `spawn_position_for`. -/
def Libraries.spawnPositionFor (lib : Libraries) (battleId : String) (index : ℕ) :
    PositionComponent where
  x := (lib.draw battleId index).1 * 50
  y := (lib.draw battleId index).2 * 50

/-- The counters of `BattleLifecycleSystem`. -/
structure BattleLifecycleSystem where
  maxIdleFrames : UInt32 := 300
  maxOfflineFrames : UInt32 := 60
  idleFrames : UInt32 := 0
  offlineFrames : UInt32 := 0
  lastInputSeq : UInt64 := 0

/-- The world of one battle. -/
structure BattleWorld where
  lib : Libraries
  clock : BattleClockComponent := {}
  metadata : BattleMetadataComponent
  replayLog : BattleReplayLogComponent := {}
  /-- In the order in which the map is visited, as are the projectiles. -/
  participants : List ParticipantEntity
  projectiles : List ProjectileEntity := []
  lifecycleSystem : BattleLifecycleSystem := {}
  nextEntityId : ℕ

/-- The clock and the replay log are the entities 1 and 2. -/
def createBattleWorld (lib : Libraries) (battleId roomId : String) (playerIds : List String)
    (maxFrames : UInt32) : BattleWorld where
  lib := lib
  metadata :=
    { battleId := battleId, roomId := roomId, lifecycle := .kRunning, maxFrames := maxFrames }
  participants := lib.participantOrder <| playerIds.mapIdx fun index userId =>
    { id := index + 3
      participant := { userId := userId }
      position := lib.spawnPositionFor battleId index }
  nextEntityId := playerIds.length + 3

/-! ## Systems -/

/-- The limits of the systems (`game_systems.cpp`). -/
def kMaxX : ℤ := 1000
def kMaxY : ℤ := 1000
def kMaxMoveDelta : ℤ := 200
def kProjectileRange : ℤ := 1400
def kProjectileDamage : ℤ := 25
def kProjectileSpeed : ℤ := 100
def kMaxDamage : ℤ := 50
def kMinDamage : ℤ := 1

namespace BattleWorld

/-- `BattleClockSystem::run`. -/
def runClock (w : BattleWorld) (frameNumber : UInt32) (trigger : String) : BattleWorld :=
  { w with
    clock := { frameNumber := frameNumber, lastTrigger := trigger }
    metadata := { w.metadata with currentFrameNumber := frameNumber } }

end BattleWorld

/-- The pending input of a participant becomes the intents of the other systems. -/
def BattleParticipantComponent.applyInput (p : BattleParticipantComponent) :
    BattleParticipantComponent :=
  if p.online = false ∨ p.pendingInputData = "" then p
  else
    let input := p.pendingInputData.toList
    let p := match after "attack:" input with
      | some target => { p with pendingTargetUserId := String.ofList target }
      | none => p
    let p := match (after "move:" input).bind splitComma with
      | some (x, y) =>
        { p with
          pendingMoveX := toInt32 (strtol x).1
          pendingMoveY := toInt32 (strtol y).1
          hasPendingMove := true }
      | none => p
    let p := match (after "fire:" input).bind splitComma with
      | some (dx, dy) =>
        let dir := normalizeDirection (toInt32 (strtol dx).1) (toInt32 (strtol dy).1)
        { p with pendingFireDx := dir.1, pendingFireDy := dir.2, hasPendingFire := true }
      | none => p
    { p with pendingInputData := "" }

/-- `MovementSystem::run` on one participant. -/
def ParticipantEntity.move (e : ParticipantEntity) : ParticipantEntity :=
  let p := e.participant
  let pos := e.position
  if p.online = false ∨ p.hasPendingMove = false then e
  else
    let x := p.pendingMoveX
    let y := p.pendingMoveY
    let rejected : ParticipantEntity := { e with
      participant :=
        { p with hasPendingMove := false, pendingMoveX := pos.x, pendingMoveY := pos.y } }
    if x < 0 ∨ kMaxX < x ∨ y < 0 ∨ kMaxY < y then rejected
    else if kMaxMoveDelta < |x - pos.x| + |y - pos.y| then rejected
    else
      let p :=
        if x ≠ pos.x ∨ y ≠ pos.y then
          let dir := normalizeDirection (x - pos.x) (y - pos.y)
          { p with facingDx := dir.1, facingDy := dir.2 }
        else p
      { e with
        participant := { p with hasPendingMove := false }
        position := { x := x, y := y } }

/-- An attack that `CombatSystem` lets through. -/
structure AttackIntent where
  source : ℕ
  targetUserId : String

/-- `ProjectileSystem::spawn_projectile` as `CombatSystem` calls it. -/
def ParticipantEntity.shot (e : ParticipantEntity) (id : ℕ) (frameNumber : UInt32)
    (dx dy : ℤ) : ProjectileEntity :=
  let startX := e.position.x
  let startY := e.position.y
  let targetX := max 0 (min kMaxX (startX + dx * kProjectileRange))
  let targetY := max 0 (min kMaxY (startY + dy * kProjectileRange))
  { id := id
    position := { x := startX, y := startY }
    projectile :=
      { projectileId := e.participant.userId ++ "_shot_" ++ toString frameNumber.toNat
        ownerUserId := e.participant.userId
        startX := startX
        startY := startY
        targetX := targetX
        targetY := targetY
        dirX := if startX < targetX then 1 else if targetX < startX then -1 else 0
        dirY := if startY < targetY then 1 else if targetY < startY then -1 else 0
        damage := kProjectileDamage
        speed := kProjectileSpeed } }

/-- The first half of a participant's turn in `CombatSystem::run` : a pending shot, fired
when the cooldown is over. -/
def ParticipantEntity.fire (e : ParticipantEntity) (nextEntityId : ℕ) (frameNumber : UInt32) :
    ParticipantEntity × Option ProjectileEntity :=
  let p := e.participant
  if p.hasPendingFire then
    let cooldown := e.cooldown
    if cooldown.lastAttackFrame = 0 ∨
        cooldown.cooldownFrames ≤ frameNumber - cooldown.lastAttackFrame then
      let dir := normalizeDirection p.pendingFireDx p.pendingFireDy
      ({ e with
          participant :=
            { p with facingDx := dir.1, facingDy := dir.2, hasPendingFire := false }
          cooldown := { cooldown with lastAttackFrame := frameNumber } },
        some (e.shot nextEntityId frameNumber dir.1 dir.2))
    else ({ e with participant := { p with hasPendingFire := false } }, none)
  else (e, none)

/-- The second half : a pending attack, let through when the limits allow it. -/
def ParticipantEntity.intend (e : ParticipantEntity) (frameNumber : UInt32) :
    ParticipantEntity × Option AttackIntent :=
  let p := e.participant
  if p.online = false ∨ p.pendingTargetUserId = "" then (e, none)
  else
    let cleared : ParticipantEntity := { e with participant := { p with pendingTargetUserId := "" } }
    if kMaxAttacksPerFrame ≤ e.cooldown.attacksThisFrame then (cleared, none)
    else if 0 < e.cooldown.lastAttackFrame ∧
        frameNumber - e.cooldown.lastAttackFrame < e.cooldown.cooldownFrames then (cleared, none)
    else
      ({ cleared with
          cooldown := { e.cooldown with attacksThisFrame := e.cooldown.attacksThisFrame + 1 } },
        some { source := e.id, targetUserId := p.pendingTargetUserId })

/-- The participants take their turns : the participants after them, the shots fired and
the attacks let through. -/
def takeTurns (frameNumber : UInt32) : ℕ → List ParticipantEntity →
    List ParticipantEntity × List ProjectileEntity × List AttackIntent
  | _, [] => ([], [], [])
  | nextEntityId, e :: es =>
    let (e, shot) := e.fire nextEntityId frameNumber
    let (e, intent) := e.intend frameNumber
    let (es, shots, intents) := takeTurns frameNumber (nextEntityId + shot.toList.length) es
    (e :: es, shot.toList ++ shots, intent.toList ++ intents)

/-- An attack hits every participant of the target's name in range. -/
def resolveAttack (frameNumber : UInt32) (es : List ParticipantEntity) (intent : AttackIntent) :
    List ParticipantEntity :=
  match es.find? (·.id = intent.source) with
  | none => es
  | some source =>
    let damage := source.attack.damage
    if damage < kMinDamage ∨ kMaxDamage < damage then es
    else
      let hits (e : ParticipantEntity) : Bool :=
        e.participant.userId = intent.targetUserId ∧ e.participant.online ∧
          |source.position.x - e.position.x| ≤ source.attack.range ∧
          |source.position.y - e.position.y| ≤ source.attack.range
      let struck (e : ParticipantEntity) : ParticipantEntity :=
        if hits e then { e with health := { e.health with hp := max 0 (e.health.hp - damage) } }
        else e
      let marked (e : ParticipantEntity) : ParticipantEntity :=
        if es.any hits ∧ e.id = source.id then
          { e with cooldown := { e.cooldown with lastAttackFrame := frameNumber } }
        else e
      es.map fun e => marked (struck e)

/-- Damage, down to no health. -/
def ParticipantEntity.harm (e : ParticipantEntity) (damage : ℤ) : ParticipantEntity :=
  { e with health := { e.health with hp := max 0 (e.health.hp - damage) } }

/-- The distance in fields. -/
def ParticipantEntity.distanceTo (e : ParticipantEntity) (x y : ℤ) : ℤ :=
  |e.position.x - x| + |e.position.y - y|

/-- The points for the owner of a projectile that hurts a participant. -/
def ParticipantEntity.pointsFor (e : ParticipantEntity) (damage : ℤ) : ℤ :=
  if (e.harm damage).health.hp = e.health.hp then 0
  else if (e.harm damage).health.hp = 0 then 5 else 1

/-- Points for the player of the name. -/
def ParticipantEntity.credit (e : ParticipantEntity) (userId : String) (points : ℤ) :
    ParticipantEntity :=
  if e.participant.userId = userId then
    { e with participant := { e.participant with score := e.participant.score + points } }
  else e

/-- A participant that a shot without a target can hurt where it is now. -/
def ProjectileEntity.meets (q : ProjectileEntity) (e : ParticipantEntity) : Bool :=
  e.participant.userId ≠ q.projectile.ownerUserId ∧ e.participant.online ∧ 0 < e.health.hp ∧
    e.distanceTo q.position.x q.position.y ≤ 60 ∧
    (e.harm q.projectile.damage).health.hp ≠ e.health.hp

/-- One step of the flight. -/
def ProjectileEntity.moveOn (q : ProjectileEntity) : ProjectileEntity :=
  { q with position :=
    { x := q.position.x + q.projectile.dirX * q.projectile.speed
      y := q.position.y + q.projectile.dirY * q.projectile.speed } }

/-- The place is off the map. -/
def PositionComponent.outOfBounds (pos : PositionComponent) : Bool :=
  pos.x < 0 ∨ kMaxX < pos.x ∨ pos.y < 0 ∨ kMaxY < pos.y

/-- A shot without a target moves on and hurts the first participant it meets. -/
def ProjectileEntity.flyStraight (q : ProjectileEntity) (es : List ParticipantEntity) :
    ProjectileEntity × List ParticipantEntity :=
  let q := q.moveOn
  let proj := q.projectile
  match es.find? q.meets with
  | some victim =>
    let hurt (e : ParticipantEntity) : ParticipantEntity :=
      if e.id = victim.id then e.harm proj.damage else e
    ({ q with projectile := { proj with active := false } },
      es.map fun e => (hurt e).credit proj.ownerUserId (victim.pointsFor proj.damage))
  | none => ({ q with projectile := { proj with active := !q.position.outOfBounds } }, es)

/-- The way of the shot. -/
def ProjectileComponent.totalDistance (proj : ProjectileComponent) : ℤ :=
  |proj.targetX - proj.startX| + |proj.targetY - proj.startY|

/-- The way is flown. -/
def ProjectileComponent.arrived (proj : ProjectileComponent) : Bool :=
  proj.totalDistance = 0 ∨ proj.totalDistance ≤ proj.currentFrame.toNat * proj.speed

/-- A participant that an aimed shot hurts when it arrives. -/
def ProjectileComponent.strikes (proj : ProjectileComponent) (e : ParticipantEntity) : Bool :=
  e.participant.userId ≠ proj.ownerUserId ∧ e.participant.online ∧
    e.distanceTo proj.targetX proj.targetY ≤ 60

/-- An aimed shot that arrives hurts everybody close by. Its points add up. -/
def ProjectileComponent.impact (proj : ProjectileComponent) (es : List ParticipantEntity) :
    List ParticipantEntity :=
  let points := ((es.filter proj.strikes).map (·.pointsFor proj.damage)).sum
  es.map fun e =>
    (if proj.strikes e then e.harm proj.damage else e).credit proj.ownerUserId points

/-- A burst may go on hurting. -/
def ProjectileComponent.scorch (proj : ProjectileComponent) (frameNumber : UInt32)
    (e : ParticipantEntity) : ParticipantEntity :=
  let dot : DamageOverlayComponent :=
    { sourceProjectileId := proj.projectileId
      damagePerTick := proj.damage
      remainingTicks := proj.durationFrames
      lastAppliedFrame := frameNumber }
  let e := e.harm proj.damage
  if 0 < proj.durationFrames then { e with overlay := some dot } else e

/-- A burst hurts everybody in its radius, the owner too. -/
def ProjectileComponent.burst (proj : ProjectileComponent) (frameNumber : UInt32)
    (es : List ParticipantEntity) : List ParticipantEntity :=
  es.map fun e =>
    if e.distanceTo proj.targetX proj.targetY ≤ proj.aoeRadius then proj.scorch frameNumber e else e

/-- A coordinate on the way of an aimed shot. -/
def interpolate (start target : ℤ) (progress : Float) : ℤ :=
  (Float.ofInt start + Float.ofInt (target - start) * progress).toInt32.toInt

/-- An aimed shot is where its flight has brought it, or goes off at its target. -/
def ProjectileEntity.flyAimed (q : ProjectileEntity) (frameNumber : UInt32)
    (es : List ParticipantEntity) : ProjectileEntity × List ParticipantEntity :=
  let proj := q.projectile
  if proj.arrived then
    ({ q with
        projectile := { proj with active := false }
        position := { x := proj.targetX, y := proj.targetY } },
      if proj.aoeRadius = 0 then proj.impact es else proj.burst frameNumber es)
  else
    let progress : Float := min 1
      (Float.ofInt (proj.currentFrame.toNat * proj.speed) / Float.ofInt proj.totalDistance)
    ({ q with position :=
        { x := interpolate proj.startX proj.targetX progress
          y := interpolate proj.startY proj.targetY progress } }, es)

/-- One frame more in flight. -/
def ProjectileEntity.countFrame (q : ProjectileEntity) : ProjectileEntity :=
  { q with projectile := { q.projectile with currentFrame := q.projectile.currentFrame + 1 } }

/-- A shot without a radius and a target. -/
def ProjectileComponent.isStraight (proj : ProjectileComponent) : Bool :=
  proj.aoeRadius = 0 ∧ proj.targetUserId = ""

/-- `ProjectileSystem::run` on one projectile. -/
def ProjectileEntity.fly (q : ProjectileEntity) (frameNumber : UInt32)
    (es : List ParticipantEntity) : ProjectileEntity × List ParticipantEntity :=
  if q.projectile.active then
    if q.projectile.isStraight then q.countFrame.flyStraight es
    else q.countFrame.flyAimed frameNumber es
  else (q, es)

/-- The shots in their order. -/
def flyAll (frameNumber : UInt32) : List ProjectileEntity → List ParticipantEntity →
    List ProjectileEntity × List ParticipantEntity
  | [], es => ([], es)
  | q :: qs, es =>
    let (q, es) := q.fly frameNumber es
    let (qs, es) := flyAll frameNumber qs es
    (q :: qs, es)

/-- The second phase of `ProjectileSystem::run` : the overlay of a participant is applied, or
removed when its ticks are over. -/
def ParticipantEntity.burn (e : ParticipantEntity) (frameNumber : UInt32) : ParticipantEntity :=
  match e.overlay with
  | none => e
  | some dot =>
    if dot.remainingTicks = 0 then { e with overlay := none }
    else if dot.intervalFrames ≤ frameNumber - dot.lastAppliedFrame then
      let dot' : DamageOverlayComponent :=
        { dot with remainingTicks := dot.remainingTicks - 1, lastAppliedFrame := frameNumber }
      { e.harm dot.damagePerTick with overlay := some dot' }
    else e

namespace BattleWorld

variable (w : BattleWorld)

/-- `BattleInputSystem::run`. -/
def runInput : BattleWorld :=
  { w with participants := w.participants.map fun e =>
      { e with participant := e.participant.applyInput } }

/-- `MovementSystem::run`. -/
def runMovement : BattleWorld :=
  { w with participants := w.participants.map ParticipantEntity.move }

/-- The number of idle frames that `BattleLifecycleSystem` counts in the next tick. -/
def idleFramesNext : UInt32 :=
  if w.lifecycleSystem.lastInputSeq < w.metadata.nextInputSeq then 0
  else w.lifecycleSystem.idleFrames + 1

/-- There are participants, and none is online. -/
def allOffline : Bool :=
  !w.participants.isEmpty && w.participants.all (!·.participant.online)

/-- `BattleLifecycleSystem::run`. -/
def runLifecycle : BattleWorld :=
  let sys := w.lifecycleSystem
  match w.metadata.lifecycle with
  | .kCreated =>
    { w with
      metadata := { w.metadata with lifecycle := .kRunning }
      lifecycleSystem :=
        { sys with idleFrames := 0, offlineFrames := 0, lastInputSeq := w.metadata.nextInputSeq } }
  | .kFinished =>
    { w with
      projectiles := []
      participants := w.participants.map fun e => { e with overlay := none } }
  | .kRunning =>
    let sys := { sys with idleFrames := w.idleFramesNext, lastInputSeq := w.metadata.nextInputSeq }
    let finished : BattleMetadataComponent := { w.metadata with lifecycle := .kFinished }
    if sys.maxIdleFrames ≤ sys.idleFrames then
      { w with metadata := finished, lifecycleSystem := sys }
    else if w.participants.isEmpty then { w with lifecycleSystem := sys }
    else if w.allOffline then
      let sys := { sys with offlineFrames := sys.offlineFrames + 1 }
      if sys.maxOfflineFrames ≤ sys.offlineFrames then
        { w with metadata := finished, lifecycleSystem := sys }
      else { w with lifecycleSystem := sys }
    else { w with lifecycleSystem := { sys with offlineFrames := 0 } }

/-- `CombatSystem::run`. -/
def runCombat (frameNumber : UInt32) : BattleWorld :=
  let (es, shots, intents) := takeTurns frameNumber w.nextEntityId w.participants
  { w with
    participants := intents.foldl (resolveAttack frameNumber) es
    projectiles := w.lib.projectileOrder (w.projectiles ++ shots)
    nextEntityId := w.nextEntityId + shots.length }

/-- `ProjectileSystem::run`. -/
def runProjectile (frameNumber : UInt32) : BattleWorld :=
  let (qs, es) := flyAll frameNumber w.projectiles w.participants
  { w with projectiles := qs, participants := es.map (·.burn frameNumber) }

/-- `BattleReplaySystem::run`. -/
def runReplay (frameNumber : UInt32) : BattleWorld :=
  let record : BattleReplayFrameRecord :=
    { frameNumber := frameNumber
      lifecycle := w.metadata.lifecycle
      participants := w.participants.map fun e =>
        { userId := e.participant.userId
          x := e.position.x
          y := e.position.y
          hp := e.health.hp
          score := e.participant.score
          online := e.participant.online } }
  { w with replayLog := { w.replayLog with
      frameSnapshots := w.replayLog.frameSnapshots ++ [record] } }

/-- `world.tick`. -/
def tick (frameNumber : UInt32) (trigger : String) : BattleWorld :=
  let w := (w.runClock frameNumber trigger).runInput
  let w := w.runMovement.runLifecycle
  ((w.runCombat frameNumber).runProjectile frameNumber).runReplay frameNumber

end BattleWorld

/-! ## Entry points -/

/-- A player in the result. -/
structure BattleParticipantState where
  userId : String
  online : Bool
  deriving DecidableEq

/-- The score of a player. -/
structure BattleScore where
  userId : String
  score : ℤ
  deriving DecidableEq

/-- The result of a battle. -/
structure BattleResultSummary where
  battleId : String
  roomId : String
  reason : BattleFinishReason
  winnerUserId : Option String
  scores : List BattleScore
  totalFrames : UInt32
  deriving DecidableEq

/-- What became of an input. -/
structure BattleWorldInputResult where
  accepted : Bool := false
  rejectReason : String := ""
  inputSeq : UInt64 := 0

/-- What became of a frame. -/
structure BattleWorldFrameResult where
  frameNumber : UInt32
  trigger : String
  shouldFinish : Bool := false
  finishReason : BattleFinishReason := .kFinished

namespace BattleWorld

/-- `battle_world_lifecycle`. -/
def lifecycle (w : BattleWorld) : BattleLifecycleState := w.metadata.lifecycle

variable (w : BattleWorld)

/-- `battle_world_frame_number`. -/
def frameNumber : UInt32 := w.metadata.currentFrameNumber

/-- `battle_world_set_lifecycle`. -/
def setLifecycle (lifecycle : BattleLifecycleState) : BattleWorld :=
  { w with metadata := { w.metadata with lifecycle := lifecycle } }

/-- The participants in the order of their entities. -/
def sortedParticipants : List ParticipantEntity :=
  w.participants.insertionSort (·.id ≤ ·.id)

/-- `battle_world_participants`. -/
def participantStates : List BattleParticipantState :=
  w.sortedParticipants.map fun e => { userId := e.participant.userId, online := e.participant.online }

/-- Every participant of the name is changed. -/
def updateUser (userId : String)
    (f : BattleParticipantComponent → BattleParticipantComponent) : BattleWorld :=
  { w with participants := w.participants.map fun e =>
      if e.participant.userId = userId then { e with participant := f e.participant } else e }

/-- `battle_world_mark_offline`, with whether a participant was online. -/
def markOffline (userId : String) : BattleWorld × Bool :=
  (w.updateUser userId fun p => { p with online := false },
    w.participants.any fun e => e.participant.userId = userId ∧ e.participant.online)

/-- `battle_world_set_online`. -/
def setOnline (userId : String) : BattleWorld :=
  w.updateUser userId fun p => { p with online := true }

/-- `battle_world_record_frame_ack`. -/
def recordFrameAck (userId : String) (frameNumber : UInt32) : BattleWorld :=
  w.updateUser userId fun p => { p with lastAckedFrame := frameNumber }

/-- `battle_world_should_accept_input`. -/
def shouldAcceptInput (userId : String) (submittedFrame : UInt32) : Bool :=
  submittedFrame = 0 ∨ w.participants.all fun e =>
    ¬(e.participant.userId = userId ∧ submittedFrame ≤ e.participant.lastSubmittedFrame)

/-- `battle_world_append_replay_input`. -/
def appendReplayInput (frameNumber : UInt32) (userId inputData : String)
    (score : ℤ) : BattleWorld × UInt64 :=
  let inputSeq := w.metadata.nextInputSeq
  ({ w with
      metadata := { w.metadata with nextInputSeq := inputSeq + 1 }
      replayLog := { w.replayLog with replayInputs := w.replayLog.replayInputs ++
        [{ inputSeq := inputSeq, frameNumber := frameNumber, userId := userId,
           inputData := inputData, score := score }] } }, inputSeq)

/-- `battle_world_process_input`. -/
def processInput (userId inputData : String) (score : ℤ)
    (submittedFrame : UInt32) : BattleWorld × BattleWorldInputResult :=
  if w.lifecycle ≠ .kRunning then (w, { rejectReason := "battle_not_running" })
  else if w.shouldAcceptInput userId submittedFrame = false then
    (w, { rejectReason := "duplicate_frame" })
  else
    let w := w.updateUser userId fun p =>
      { p with
        lastSubmittedFrame := if 0 < submittedFrame then submittedFrame else p.lastSubmittedFrame
        score := p.score + score
        pendingInputData := inputData }
    let (w, inputSeq) := w.appendReplayInput (w.frameNumber + 1) userId inputData score
    (w, { accepted := true, inputSeq := inputSeq })

/-- `battle_world_apply_trigger_to_frame`. -/
def applyTriggerToFrame (frameNumber : UInt32) (trigger : String) : BattleWorld :=
  { w with replayLog := { w.replayLog with
      replayInputs := w.replayLog.replayInputs.map fun input =>
        if input.frameNumber = frameNumber then { input with trigger := trigger } else input } }

/-- `battle_world_should_finish_for_frame_limit`. -/
def shouldFinishForFrameLimit (frameNumber : UInt32) : Bool :=
  0 < w.metadata.maxFrames ∧ w.metadata.maxFrames ≤ frameNumber

/-- `battle_world_advance_frame`. -/
def advanceFrame (nextFrame : UInt32) (trigger : String) : BattleWorld × BattleWorldFrameResult :=
  let w := w.tick nextFrame trigger
  let frameNumber := w.clock.frameNumber
  let w := w.applyTriggerToFrame frameNumber trigger
  (w, if w.shouldFinishForFrameLimit frameNumber then
        { frameNumber := frameNumber, trigger := trigger, shouldFinish := true,
          finishReason := .kFrameLimitReached }
      else { frameNumber := frameNumber, trigger := trigger })

/-- The world after `battle_world_handle_disconnect`, whose result no caller uses. -/
def handleDisconnect (userId : String) : BattleWorld :=
  if w.lifecycle ≠ .kRunning then w else (w.markOffline userId).1

/-- `battle_world_collect_scores`. Of several participants of one name the last visited
gives the score. -/
def collectScores (participants : List BattleParticipantState) : List BattleScore :=
  participants.map fun p =>
    { userId := p.userId
      score := ((w.participants.reverse.find? fun e => e.participant.userId = p.userId).map
        (·.participant.score)).getD 0 }

/-- The first of the users with the highest score. -/
def winner (scores : List BattleScore) : Option BattleScore :=
  scores.foldl (fun best score =>
    if best.any fun b => score.score ≤ b.score then best else some score) none

/-- `battle_world_build_result_summary`. -/
def buildResultSummary (battleId roomId : String)
    (participants : List BattleParticipantState) (reason : BattleFinishReason)
    (totalFrames : UInt32) : BattleResultSummary :=
  let scores := w.collectScores participants
  { battleId := battleId
    roomId := roomId
    reason := reason
    winnerUserId := (winner scores).map (·.userId)
    scores := scores
    totalFrames := totalFrames }

/-! ## The lifecycle -/

/-- The next tick finds the limit of idle frames reached, or the limit of frames with
nobody online. -/
def timesOut : Bool :=
  w.metadata.lifecycle = .kRunning ∧
    (w.lifecycleSystem.maxIdleFrames ≤ w.idleFramesNext ∨
      w.allOffline ∧ w.lifecycleSystem.maxOfflineFrames ≤ w.lifecycleSystem.offlineFrames + 1)

@[simp] theorem online_applyInput (p : BattleParticipantComponent) :
    p.applyInput.online = p.online := by
  unfold BattleParticipantComponent.applyInput
  split_ifs
  · rfl
  · dsimp only
    split <;> split <;> split <;> rfl

@[simp] theorem online_move (e : ParticipantEntity) :
    e.move.participant.online = e.participant.online := by
  unfold ParticipantEntity.move
  dsimp only
  split_ifs <;> rfl

/-- What `BattleLifecycleSystem` makes of the lifecycle. -/
theorem lifecycle_runLifecycle : w.runLifecycle.metadata.lifecycle =
    if w.metadata.lifecycle = .kFinished ∨ w.timesOut then .kFinished else .kRunning := by
  unfold runLifecycle timesOut
  cases hl : w.metadata.lifecycle with
  | kCreated => simp
  | kFinished => simp [hl]
  | kRunning =>
    by_cases hidle : w.lifecycleSystem.maxIdleFrames ≤ w.idleFramesNext
    · simp [hidle]
    · by_cases hempty : w.participants.isEmpty
      · have hoff : w.allOffline = false := by simp [allOffline, hempty]
        simp [hidle, hempty, hoff, hl]
      · by_cases hoff : w.allOffline
        · by_cases hlimit :
            w.lifecycleSystem.maxOfflineFrames ≤ w.lifecycleSystem.offlineFrames + 1
          · simp [hidle, hempty, hoff, hlimit]
          · simp [hidle, hempty, hoff, hlimit, hl]
        · simp [hidle, hempty, hoff, hl]

theorem clock_runLifecycle : w.runLifecycle.clock = w.clock := by
  unfold runLifecycle
  dsimp only
  split
  · rfl
  · rfl
  · split_ifs <;> rfl

variable (frameNumber : UInt32)

/-- A tick ends a running battle exactly when a limit is reached. -/
theorem lifecycle_tick (trigger : String) :
    (w.tick frameNumber trigger).lifecycle =
      if w.lifecycle = .kFinished ∨ w.timesOut then .kFinished else .kRunning := by
  have hout : ((w.runClock frameNumber trigger).runInput.runMovement).timesOut = w.timesOut := by
    simp [timesOut, allOffline, idleFramesNext, runClock, runInput, runMovement,
      Function.comp_def]
  have htick : (w.tick frameNumber trigger).lifecycle =
      ((w.runClock frameNumber trigger).runInput.runMovement).runLifecycle.metadata.lifecycle := rfl
  rw [htick, lifecycle_runLifecycle, hout]
  rfl

@[simp] theorem currentFrameNumber_runLifecycle :
    w.runLifecycle.metadata.currentFrameNumber = w.metadata.currentFrameNumber := by
  unfold runLifecycle
  dsimp only
  split
  · rfl
  · rfl
  · split_ifs <;> rfl

theorem frameNumber_tick (trigger : String) :
    (w.tick frameNumber trigger).frameNumber = frameNumber := by
  show (w.runClock frameNumber trigger).runInput.runMovement.runLifecycle.metadata.currentFrameNumber
    = frameNumber
  rw [currentFrameNumber_runLifecycle]
  rfl

theorem clock_tick (trigger : String) :
    (w.tick frameNumber trigger).clock = { frameNumber := frameNumber, lastTrigger := trigger } :=
  clock_runLifecycle _

@[simp] theorem frameNumber_advanceFrame (nextFrame : UInt32)
    (trigger : String) : (w.advanceFrame nextFrame trigger).2.frameNumber = nextFrame := by
  have hclock : (w.tick nextFrame trigger).clock.frameNumber = nextFrame := by rw [clock_tick]
  unfold advanceFrame
  dsimp only
  split_ifs <;> exact hclock

end BattleWorld

/-- A participant of the user whose input is accepted. -/
def BattleParticipantComponent.submit (p : BattleParticipantComponent) (inputData : String)
    (score : ℤ) (submittedFrame : UInt32) : BattleParticipantComponent :=
  { p with
    lastSubmittedFrame := if 0 < submittedFrame then submittedFrame else p.lastSubmittedFrame
    score := p.score + score
    pendingInputData := inputData }

namespace BattleWorld

/-- An accepted input is noted for the participants of its user and in the replay log. -/
theorem processInput_of_accept {w : BattleWorld} {userId : String} {submittedFrame : UInt32}
    (hrun : w.lifecycle = .kRunning) (haccept : w.shouldAcceptInput userId submittedFrame = true)
    (inputData : String) (score : ℤ) : w.processInput userId inputData score submittedFrame =
      (((w.updateUser userId (·.submit inputData score submittedFrame)).appendReplayInput
          (w.frameNumber + 1) userId inputData score).1,
        { accepted := true, inputSeq := w.metadata.nextInputSeq }) := by
  unfold processInput
  rw [if_neg (not_not.mpr hrun), if_neg (by simp [haccept])]
  rfl

/-- An input changes nothing or is accepted. -/
theorem processInput_cases (w : BattleWorld) (userId inputData : String) (score : ℤ)
    (submittedFrame : UInt32) :
    ((w.processInput userId inputData score submittedFrame).1 = w ∧
      (w.processInput userId inputData score submittedFrame).2.accepted = false) ∨
    (w.lifecycle = .kRunning ∧ w.shouldAcceptInput userId submittedFrame = true ∧
      w.processInput userId inputData score submittedFrame =
        (((w.updateUser userId (·.submit inputData score submittedFrame)).appendReplayInput
            (w.frameNumber + 1) userId inputData score).1,
          { accepted := true, inputSeq := w.metadata.nextInputSeq })) := by
  by_cases hrun : w.lifecycle = .kRunning
  · by_cases haccept : w.shouldAcceptInput userId submittedFrame = true
    · exact .inr ⟨hrun, haccept, processInput_of_accept hrun haccept inputData score⟩
    · left
      unfold processInput
      rw [if_neg (not_not.mpr hrun), if_pos (by simpa using haccept)]
      exact ⟨rfl, rfl⟩
  · left
    unfold processInput
    rw [if_pos hrun]
    exact ⟨rfl, rfl⟩

end BattleWorld

end BoostGateway.Battle
