import Mathlib
import BoostGateway.Base.Run

/-!
# The tank world

The simulation of the tank game (`tank_world.cpp`) : a map with walls, tanks that move and fire,
bullets, and the end of a game. `TankPlugin` calls `apply_action` when an input comes and `tick` once
a frame. The integers of the source are whole numbers here.
-/

namespace BoostGateway.Tank

/-- The rules of the game (`tank_world.h`). -/
def kMapWidth : ℤ := 20
def kMapHeight : ℤ := 15
def kInitialHp : ℤ := 100
def kBulletDamage : ℤ := 25
def kFireCooldownTicks : ℤ := 3
def kKillScore : ℤ := 100
def kDamageScorePerHp : ℤ := 1
def kSurvivalBonus : ℤ := 50
def kWinBonus : ℤ := 200

/-- Where a tank looks. -/
inductive Direction
  | kUp
  | kRight
  | kDown
  | kLeft
  deriving DecidableEq

/-- `is_valid_direction` with the cast of the number. -/
def Direction.ofDegrees (d : ℤ) : Option Direction :=
  if d = 0 then some .kUp
  else if d = 90 then some .kRight
  else if d = 180 then some .kDown
  else if d = 270 then some .kLeft
  else none

/-- A field of the map. -/
structure Position where
  x : ℤ := 0
  y : ℤ := 0
  deriving DecidableEq

/-- `direction_to_delta`. -/
def Direction.delta : Direction → Position
  | .kUp => ⟨0, -1⟩
  | .kRight => ⟨1, 0⟩
  | .kDown => ⟨0, 1⟩
  | .kLeft => ⟨-1, 0⟩

/-- One field further. -/
def Position.add (p d : Position) : Position := ⟨p.x + d.x, p.y + d.y⟩

/-- A tank. -/
structure TankState where
  userId : String
  pos : Position := {}
  direction : Direction := .kUp
  hp : ℤ := kInitialHp
  alive : Bool := true
  fireCooldownRemaining : ℤ := 0
  kills : ℤ := 0
  deaths : ℤ := 0
  damageDealt : ℤ := 0
  score : ℤ := 0
  deriving DecidableEq

/-- A bullet. -/
structure BulletState where
  id : ℕ
  pos : Position
  /-- `dx` and `dy`. -/
  delta : Position
  ownerUserId : String
  active : Bool := true
  deriving DecidableEq

/-- What happened in a frame. -/
structure WorldEvent where
  type : String
  actor : String
  target : String
  damage : ℤ
  frame : ℤ
  deriving DecidableEq

/-- What the players see. -/
structure WorldSnapshot where
  frame : ℤ := 0
  tanks : List TankState := []
  bullets : List BulletState := []
  events : List WorldEvent := []
  finished : Bool := false
  finishReason : String := ""
  winnerUserId : String := ""
  deriving DecidableEq

/-- What a player may do. -/
inductive InputAction
  | move (dx dy : ℤ)
  | fire (direction : ℤ)
  | stop
  deriving DecidableEq

/-- The actions of a player. -/
structure PlayerInput where
  userId : String
  actions : List InputAction

/-- A player of the object that `build_settlement` returns. -/
structure PlayerResult where
  userId : String
  kills : ℤ
  deaths : ℤ
  damage : ℤ
  score : ℤ
  win : Bool
  deriving DecidableEq

/-- The result of a player. -/
def TankState.result (t : TankState) (winner : String) : PlayerResult where
  userId := t.userId
  kills := t.kills
  deaths := t.deaths
  damage := t.damageDealt
  score := t.score
  win := t.userId == winner

/-- The object that `build_settlement` returns, which has no winner if the name is empty. -/
structure Settlement where
  reason : String
  totalFrames : ℤ
  players : List PlayerResult
  winnerUserId : String
  deriving DecidableEq

/-- The world of a game. -/
structure TankWorld where
  currentFrame : ℤ := 0
  maxFrames : ℤ := 0
  mapWidth : ℤ := kMapWidth
  mapHeight : ℤ := kMapHeight
  finished : Bool := false
  tanks : List TankState := []
  bullets : List BulletState := []
  pendingEvents : List WorldEvent := []
  snapshot : WorldSnapshot := {}
  nextBulletId : ℕ := 1
  walls : List Position := []
  deriving DecidableEq

/-- The integers from `a` up to but not including `b`. -/
def between (a b : ℤ) : List ℤ := (List.range (b - a).toNat).map fun (k : ℕ) => a + k

/-- `generate_walls` on an empty list. -/
def generateWalls (mapWidth mapHeight : ℤ) : List Position :=
  ((between 0 mapWidth).flatMap fun x => [⟨x, 0⟩, ⟨x, mapHeight - 1⟩]) ++
    ((between 0 mapHeight).flatMap fun y => [⟨0, y⟩, ⟨mapWidth - 1, y⟩]) ++
    ((between 3 (mapHeight - 3)).flatMap fun y => [⟨5, y⟩, ⟨14, y⟩]) ++
    (between 3 (mapWidth - 3)).flatMap fun x => [⟨x, 5⟩, ⟨x, 9⟩]

/-- The candidates of `assign_spawn_points`. -/
def spawnPoints (mapWidth mapHeight : ℤ) : List Position :=
  [⟨2, 2⟩, ⟨mapWidth - 3, 2⟩, ⟨2, mapHeight - 3⟩, ⟨mapWidth - 3, mapHeight - 3⟩]

/-- `assign_spawn_points` : players beyond the fourth get no tank. -/
def assignSpawnPoints (mapWidth mapHeight : ℤ) (playerIds : List String) : List TankState :=
  (playerIds.zip (spawnPoints mapWidth mapHeight)).map fun (userId, pos) =>
    { userId, pos, direction := .kDown }

/-- The first element with the property changes. -/
def updateFirst {α : Type*} (p : α → Bool) (f : α → α) : List α → List α
  | [] => []
  | a :: as => if p a then f a :: as else a :: updateFirst p f as

/-- The bullet is where the tank is, which can be hit by it. -/
def BulletState.hits (b : BulletState) (t : TankState) : Bool :=
  t.alive && t.userId != b.ownerUserId && b.pos == t.pos

/-- The bullet does its damage. -/
def TankState.hit (t : TankState) : TankState :=
  let t := { t with hp := t.hp - kBulletDamage }
  if t.hp ≤ 0 then { t with alive := false, deaths := t.deaths + 1 } else t

/-- The owner of a bullet that hit is credited. -/
def TankState.credit (t : TankState) (killed : Bool) : TankState :=
  { t with
    damageDealt := t.damageDealt + kBulletDamage
    kills := if killed then t.kills + 1 else t.kills }

/-- The name of a bullet in the events. -/
def bulletName (id : ℕ) : String := "bullet_" ++ toString id

/-- The tanks and the events after the body of the loop of `check_collisions`. -/
structure Collision where
  bullet : BulletState
  tanks : List TankState
  events : List WorldEvent

/-- A bullet meets the tanks. -/
def collide (frame : ℤ) (b : BulletState) (tanks : List TankState) : Collision :=
  match if b.active then tanks.find? b.hits else none with
  | none => { bullet := b, tanks, events := [] }
  | some t =>
    let killed := decide (t.hit.hp ≤ 0)
    { bullet := { b with active := false }
      tanks := updateFirst (·.userId = b.ownerUserId) (·.credit killed)
        (updateFirst b.hits TankState.hit tanks)
      events := ⟨"bullet_hit", b.ownerUserId, t.userId, kBulletDamage, frame⟩ ::
        if killed then [⟨"tank_destroyed", b.ownerUserId, t.userId, 0, frame⟩] else [] }

/-- The loop of `check_collisions`. -/
def collideAll (frame : ℤ) :
    List BulletState → List TankState → List BulletState × List TankState × List WorldEvent
  | [], tanks => ([], tanks, [])
  | b :: bs, tanks =>
    let c := collide frame b tanks
    let (bs, tanks, events) := collideAll frame bs c.tanks
    (c.bullet :: bs, tanks, c.events ++ events)

namespace TankWorld

variable (w : TankWorld)

/-- `is_wall_at`. -/
def isWallAt (p : Position) : Bool := w.walls.any (· == p)

/-- `is_tank_at`. -/
def isTankAt (p : Position) (excludeUser : String) : Bool :=
  w.tanks.any fun t => t.alive && t.userId != excludeUser && t.pos == p

/-- `find_tank`. -/
def findTank (userId : String) : Option TankState :=
  w.tanks.find? (·.userId = userId)

/-- The position is on the map. -/
def inBounds (p : Position) : Bool :=
  0 ≤ p.x && p.x < w.mapWidth && 0 ≤ p.y && p.y < w.mapHeight

/-- `validate_move`. -/
def validateMove (t : TankState) (dx dy : ℤ) : Bool :=
  if 1 < |dx| || 1 < |dy| then false
  else if dx ≠ 0 && dy ≠ 0 then false
  else if dx = 0 && dy = 0 then false
  else
    let p := t.pos.add ⟨dx, dy⟩
    if !w.inBounds p then false
    else if w.isWallAt p then false
    else if w.isTankAt p t.userId then false
    else true

/-- `validate_fire`. -/
def validateFire (t : TankState) : Bool := !(0 < t.fireCooldownRemaining)

/-- The direction of a tank after a move. -/
def turned (t : TankState) (dx dy : ℤ) : Direction :=
  if 0 < dx then .kRight
  else if dx < 0 then .kLeft
  else if 0 < dy then .kDown
  else if dy < 0 then .kUp
  else t.direction

/-- What the tank that `find_tank` returns becomes. -/
def updateTank (userId : String) (f : TankState → TankState) : TankWorld :=
  { w with tanks := updateFirst (·.userId = userId) f w.tanks }

/-- What `apply_action` does for a move that is valid. -/
def moveTank (userId : String) (dx dy : ℤ) : TankWorld :=
  w.updateTank userId fun t =>
    { t with direction := turned t dx dy, pos := t.pos.add ⟨dx, dy⟩ }

/-- What `apply_action` does for a shot that is valid. -/
def fireBullet (userId : String) (tank : TankState) (direction : Direction) : TankWorld :=
  let bullet : BulletState := {
    id := w.nextBulletId
    pos := tank.pos.add direction.delta
    delta := direction.delta
    ownerUserId := userId }
  { w.updateTank userId fun t => { t with fireCooldownRemaining := kFireCooldownTicks } with
    nextBulletId := w.nextBulletId + 1
    bullets := w.bullets ++ [bullet]
    pendingEvents := w.pendingEvents ++
      [⟨"bullet_fired", userId, bulletName bullet.id, 0, w.currentFrame⟩] }

/-- `apply_action`, with whether the action was accepted. -/
def applyAction (userId : String) (action : InputAction) : TankWorld × Bool :=
  match w.findTank userId with
  | none => (w, false)
  | some tank =>
    if !tank.alive then (w, false)
    else
      match action with
      | .move dx dy =>
        if !w.validateMove tank dx dy then (w, false) else (w.moveTank userId dx dy, true)
      | .fire degrees =>
        if !validateFire tank then (w, false)
        else
          match Direction.ofDegrees degrees with
          | none => (w, false)
          | some direction => (w.fireBullet userId tank direction, true)
      | .stop => (w, true)

/-- The body of the loop of `move_bullets`. -/
def moveBullet (b : BulletState) : BulletState :=
  if b.active then
    let b := { b with pos := b.pos.add b.delta }
    if !w.inBounds b.pos || w.isWallAt b.pos then { b with active := false } else b
  else b

/-- The event of the body of the loop of `move_bullets`. -/
def wallEvents (b : BulletState) : List WorldEvent :=
  let p := b.pos.add b.delta
  if b.active && w.inBounds p && w.isWallAt p then
    [⟨"bullet_hit_wall", bulletName b.id, "", 0, w.currentFrame⟩]
  else []

/-- `move_bullets`. -/
def moveBullets : TankWorld :=
  { w with
    bullets := w.bullets.map w.moveBullet
    pendingEvents := w.pendingEvents ++ w.bullets.flatMap w.wallEvents }

/-- `check_collisions`. -/
def checkCollisions : TankWorld :=
  let (bullets, tanks, events) := collideAll w.currentFrame w.bullets w.tanks
  { w with bullets, tanks, pendingEvents := w.pendingEvents ++ events }

/-- The loop of `tick` that lowers the cooldowns. -/
def coolDown : TankWorld :=
  { w with tanks := w.tanks.map fun t =>
      if 0 < t.fireCooldownRemaining then
        { t with fireCooldownRemaining := t.fireCooldownRemaining - 1 }
      else t }

/-- The last tank that is alive. -/
def lastAlive (tanks : List TankState) : String :=
  (((tanks.filter (·.alive)).getLast?).map (·.userId)).getD ""

/-- The first of the players with most kills, and among them most damage. -/
def bestPlayer (tanks : List TankState) (winner : String) : String :=
  (tanks.foldl (fun (best : ℤ × ℤ × String) t =>
      if best.1 < t.kills ∨ t.kills = best.1 ∧ best.2.1 < t.damageDealt then
        (t.kills, t.damageDealt, t.userId)
      else best) (-1, -1, winner)).2.2

/-- The score of a tank without the bonus of the winner. -/
def scored (t : TankState) (bonus : ℤ) : TankState :=
  { t with score := t.score + t.kills * kKillScore + t.damageDealt * kDamageScorePerHp + bonus }

/-- `check_finish_condition`. -/
def checkFinishCondition : TankWorld :=
  if (w.tanks.filter (·.alive)).length ≤ 1 ∧ 2 ≤ w.tanks.length then
    { w with
      finished := true
      tanks := w.tanks.map fun t => scored t (if t.alive then kSurvivalBonus + kWinBonus else 0)
      snapshot := { w.snapshot with
        winnerUserId := lastAlive w.tanks
        finishReason := "last_standing" } }
  else if 0 < w.maxFrames ∧ w.maxFrames ≤ w.currentFrame then
    let winner := bestPlayer w.tanks w.snapshot.winnerUserId
    { w with
      finished := true
      tanks := w.tanks.map fun t => scored t
        ((if t.alive then kSurvivalBonus else 0) + if t.userId = winner then kWinBonus else 0)
      snapshot := { w.snapshot with
        winnerUserId := winner
        finishReason := "time_limit" } }
  else w

/-- `build_snapshot`. -/
def buildSnapshot : TankWorld :=
  { w with snapshot := { w.snapshot with
      frame := w.currentFrame
      finished := w.finished
      tanks := w.tanks
      bullets := w.bullets
      events := w.pendingEvents } }

/-- The inputs of a tick, one action after the other. -/
def applyInputs (inputs : List PlayerInput) : TankWorld :=
  inputs.foldl (fun w input =>
    input.actions.foldl (fun w action => (w.applyAction input.userId action).1) w) w

/-- `tick`, which returns whether the world is still running. -/
def tick (inputs : List PlayerInput) : TankWorld × Bool :=
  if w.finished then (w, false)
  else
    let w := { w with currentFrame := w.currentFrame + 1, pendingEvents := [] }
    let w := (w.applyInputs inputs).moveBullets.checkCollisions.coolDown
    let w := w.checkFinishCondition.buildSnapshot
    (w, !w.finished)

/-- `build_settlement`. -/
def buildSettlement : Settlement where
  reason := w.snapshot.finishReason
  totalFrames := w.currentFrame
  players := w.tanks.map (·.result w.snapshot.winnerUserId)
  winnerUserId := w.snapshot.winnerUserId

/-- `init` of a world, which keeps the winner and the reason in its snapshot. -/
def init (playerIds : List String) (maxFrames mapWidth mapHeight : ℤ) : TankWorld :=
  buildSnapshot { w with
    currentFrame := 0
    maxFrames
    mapWidth
    mapHeight
    finished := false
    tanks := assignSpawnPoints mapWidth mapHeight playerIds
    bullets := []
    pendingEvents := []
    walls := generateWalls mapWidth mapHeight
    nextBulletId := 1 }

end TankWorld

/-- What `TankPlugin` does with its world. -/
inductive WorldAction
  | applyAction (userId : String) (action : InputAction)
  | tick (inputs : List PlayerInput)

namespace TankWorld

/-- An action or a frame. -/
def step (w : TankWorld) : WorldAction → Option TankWorld
  | .applyAction userId action => some (w.applyAction userId action).1
  | .tick inputs => some (w.tick inputs).1

/-- The worlds of a game of these players. -/
abbrev Reaches (playerIds : List String) (maxFrames mapWidth mapHeight : ℤ) : TankWorld → Prop :=
  BoostGateway.Reaches (· = ({} : TankWorld).init playerIds maxFrames mapWidth mapHeight) step
    fun _ _ => True

end TankWorld

end BoostGateway.Tank
