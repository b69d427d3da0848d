import BoostGateway.Battle.Stages

/-!
# Where shots end

A shot without a target flies straight, 100 a tick, until it hurts a participant or leaves
the map. Its direction is the sign of the way to a target that was clamped to the map, so a
shot that is fired outward from the border has no direction and stays where it is.

`BattleWorld.ShotsEnd` : whatever comes after, every active shot is inactive after some
number of ticks. `BattleWorld.shots_end` : it holds in every run in which nobody fires
outward from the border. `Flies` is what such shots are like, and `wayLeft`, the way to the
border, shrinks by 100 in every tick.
-/

namespace BoostGateway.Battle

open ViewedWorld

/-- The participant stands on the border of the map and aims outward. -/
def ParticipantEntity.aimsOut (e : ParticipantEntity) : Bool :=
  let dir := normalizeDirection e.participant.pendingFireDx e.participant.pendingFireDy
  ({ x := e.position.x + dir.1, y := e.position.y + dir.2 } : PositionComponent).outOfBounds

def WorldAction.isTick : WorldAction → Bool
  | .tick .. => true
  | .input .. => false

namespace BattleWorld

/-- A world after inputs and ticks. -/
def run (w : BattleWorld) (as : List WorldAction) : Option BattleWorld := as.foldlM step w

/-- Every active shot is inactive after a number of ticks, whatever comes with them. -/
def ShotsEnd (w : BattleWorld) : Prop :=
  ∀ q ∈ w.projectiles, q.projectile.active = true → ∃ n, ∀ as w', n ≤ as.countP (·.isTick) →
    w.run as = some w' → ∀ q' ∈ w'.projectiles, q'.id = q.id → q'.projectile.active = false

/-- Nobody fires outward from the border in a tick. -/
def Inward (w : BattleWorld) : WorldAction → Prop
  | .tick frameNumber trigger => ∀ e ∈ w.fighters frameNumber trigger,
    e.fires frameNumber = true → e.aimsOut = false
  | .input .. => True

instance (w : BattleWorld) (a : WorldAction) : Decidable (w.Inward a) :=
  match a with
  | .tick frameNumber trigger =>
    decidable_of_iff ((w.fighters frameNumber trigger).all fun e =>
      !e.fires frameNumber || !e.aimsOut)
      (by simp [Inward, Decidable.imp_iff_not_or])
  | .input .. => isTrue trivial

/-- The worlds reached from new ones by inputs and ticks in which nobody fires outward from
the border. -/
abbrev ReachesInward : BattleWorld → Prop :=
  BoostGateway.Reaches
    (fun w => ∃ lib battleId roomId playerIds maxFrames,
      w = createBattleWorld lib battleId roomId playerIds maxFrames)
    step Inward

end BattleWorld

/-! ## One shot -/

namespace ProjectileEntity

/-- A straight shot on the map with a direction. -/
structure Flies (q : ProjectileEntity) : Prop where
  straight : q.projectile.isStraight = true
  speed : q.projectile.speed = kProjectileSpeed
  direction : (q.projectile.dirX = 1 ∨ q.projectile.dirX = -1) ∧ q.projectile.dirY = 0 ∨
    q.projectile.dirX = 0 ∧ (q.projectile.dirY = 1 ∨ q.projectile.dirY = -1)
  onMap : q.position.outOfBounds = false

/-- The way to the border that a shot flies to. -/
def wayLeft (q : ProjectileEntity) : ℤ :=
  if 0 < q.projectile.dirX then kMaxX - q.position.x
  else if q.projectile.dirX < 0 then q.position.x
  else if 0 < q.projectile.dirY then kMaxY - q.position.y
  else q.position.y

theorem onMap_iff (pos : PositionComponent) : pos.outOfBounds = false ↔
    0 ≤ pos.x ∧ pos.x ≤ kMaxX ∧ 0 ≤ pos.y ∧ pos.y ≤ kMaxY := by
  simp only [PositionComponent.outOfBounds, decide_eq_false_iff_not, not_or, not_lt]

variable {q : ProjectileEntity}

theorem Flies.wayLeft_mem (h : q.Flies) : 0 ≤ q.wayLeft ∧ q.wayLeft ≤ 1000 := by
  have hmap := (onMap_iff q.position).mp h.onMap
  unfold wayLeft
  unfold kMaxX kMaxY at *
  split_ifs <;> omega

theorem wayLeft_moveOn (h : q.Flies) : q.moveOn.wayLeft = q.wayLeft - 100 := by
  obtain ⟨hx | hx, hy⟩ | ⟨hx, hy | hy⟩ := h.direction <;>
    simp [wayLeft, moveOn, h.speed, hx, hy, kProjectileSpeed, kMaxX, kMaxY] <;> omega

@[simp] theorem id_fly (q : ProjectileEntity) (frameNumber : UInt32)
    (es : List ParticipantEntity) : (q.fly frameNumber es).1.id = q.id := by
  have hstraight : (q.countFrame.flyStraight es).1.id = q.id := by
    unfold flyStraight
    dsimp only
    split <;> rfl
  have haimed : (q.countFrame.flyAimed frameNumber es).1.id = q.id := by
    unfold flyAimed
    dsimp only
    split_ifs <;> rfl
  unfold fly
  split_ifs
  · exact hstraight
  · exact haimed
  · rfl

/-- A shot that is still active after its turn has flown on and is still on the map. -/
theorem Flies.fly (frameNumber : UInt32) {es : List ParticipantEntity}
    (hactive : (q.fly frameNumber es).1.projectile.active = true)
    (h : q.projectile.active = true → q.Flies) :
    (q.fly frameNumber es).1.Flies ∧ (q.fly frameNumber es).1.wayLeft = q.wayLeft - 100 := by
  unfold ProjectileEntity.fly at hactive ⊢
  by_cases ha : q.projectile.active = true
  · have hf := h ha
    rw [if_pos ha, if_pos hf.straight] at hactive ⊢
    have hcount : q.countFrame.Flies := ⟨hf.straight, hf.speed, hf.direction, hf.onMap⟩
    have hway : q.countFrame.moveOn.wayLeft = q.wayLeft - 100 := wayLeft_moveOn hcount
    unfold flyStraight at hactive ⊢
    dsimp only at hactive ⊢
    split at hactive
    · simp at hactive
    · have hmap : q.countFrame.moveOn.position.outOfBounds = false := by simpa using hactive
      exact ⟨⟨hf.straight, hf.speed, hf.direction, hmap⟩, hway⟩
  · rw [if_neg ha] at hactive
    exact absurd hactive ha

end ProjectileEntity

theorem mem_flyAll {frameNumber : UInt32} {qs : List ProjectileEntity}
    {es : List ParticipantEntity} {q' : ProjectileEntity}
    (h : q' ∈ (flyAll frameNumber qs es).1) : ∃ q ∈ qs, ∃ es, q' = (q.fly frameNumber es).1 := by
  induction qs generalizing es with
  | nil => cases h
  | cons q qs ih =>
    obtain rfl | h := List.mem_cons.mp h
    · exact ⟨q, .head _, es, rfl⟩
    · obtain ⟨q₁, hq₁, es₁, heq⟩ := ih h
      exact ⟨q₁, .tail _ hq₁, es₁, heq⟩

theorem normalizeDirection_cases (dx dy : ℤ) :
    normalizeDirection dx dy = (1, 0) ∨ normalizeDirection dx dy = (-1, 0) ∨
      normalizeDirection dx dy = (0, 1) ∨ normalizeDirection dx dy = (0, -1) := by
  unfold normalizeDirection
  split_ifs <;> simp

/-- On each axis the way to the clamped target has the sign of the aim, unless the aim leads
off the map. -/
theorem sign_of_aim {c d : ℤ} (hd : d = 1 ∨ d = 0 ∨ d = -1) (hc : 0 ≤ c ∧ c ≤ kMaxX)
    (haim : 0 ≤ c + d ∧ c + d ≤ kMaxX) :
    (if c < max 0 (min kMaxX (c + d * kProjectileRange)) then 1
      else if max 0 (min kMaxX (c + d * kProjectileRange)) < c then -1 else (0 : ℤ)) = d := by
  unfold kMaxX kProjectileRange at *
  rcases hd with rfl | rfl | rfl <;> split_ifs <;> omega

/-- A shot flies to the border in the direction in which it is fired, unless its shooter
stands there. -/
theorem flies_shot {e : ParticipantEntity} (h : e.WithinBounds) (hinward : e.aimsOut = false)
    {frameNumber : UInt32} {q : ProjectileEntity} (hq : (e.fire 0 frameNumber).2 = some q)
    (id : ℕ) : ({ q with id := id } : ProjectileEntity).Flies := by
  unfold ParticipantEntity.fire at hq
  dsimp only at hq
  split_ifs at hq
  obtain rfl := Option.some_inj.mp hq
  have haim := (ProjectileEntity.onMap_iff _).mp hinward
  have hcases := normalizeDirection_cases e.participant.pendingFireDx e.participant.pendingFireDy
  generalize normalizeDirection e.participant.pendingFireDx e.participant.pendingFireDy = dir
    at haim hcases ⊢
  have hunit : (dir.1 = 1 ∨ dir.1 = 0 ∨ dir.1 = -1) ∧ (dir.2 = 1 ∨ dir.2 = 0 ∨ dir.2 = -1) := by
    rcases hcases with rfl | rfl | rfl | rfl <;> simp
  have hx : (e.shot 0 frameNumber dir.1 dir.2).projectile.dirX = dir.1 :=
    sign_of_aim hunit.1 ⟨h.x_nonneg, h.x_le⟩ ⟨haim.1, haim.2.1⟩
  have hy : (e.shot 0 frameNumber dir.1 dir.2).projectile.dirY = dir.2 :=
    sign_of_aim hunit.2 ⟨h.y_nonneg, h.y_le⟩ ⟨haim.2.2.1, haim.2.2.2⟩
  refine ⟨rfl, rfl, ?_, ?_⟩
  · dsimp only
    rw [hx, hy]
    rcases hcases with rfl | rfl | rfl | rfl <;> simp
  · exact (ProjectileEntity.onMap_iff _).mpr ⟨h.x_nonneg, h.x_le, h.y_nonneg, h.y_le⟩

/-- So do all shots of a tick in which nobody fires outward from the border. -/
theorem flies_of_mem_shotsFrom {frameNumber : UInt32} {nextEntityId : ℕ}
    {es : List ParticipantEntity} (hbounds : AllWithin es)
    (hinward : ∀ e ∈ es, e.fires frameNumber = true → e.aimsOut = false) {q : ProjectileEntity}
    (h : q ∈ shotsFrom frameNumber nextEntityId es) : q.Flies := by
  induction es generalizing nextEntityId with
  | nil => cases h
  | cons e es ih =>
    obtain ⟨he, hes⟩ := List.forall_mem_cons.mp hbounds
    obtain ⟨hin, hins⟩ := List.forall_mem_cons.mp hinward
    rw [shotsFrom_cons] at h
    split at h
    · exact ih hes hins h
    next shot hshot =>
      rcases List.mem_cons.mp h with rfl | hrest
      · exact flies_shot he (hin (by simp [ParticipantEntity.fires, hshot])) hshot nextEntityId
      · exact ih hes hins hrest

namespace BattleWorld

/-! ## Ticks and inputs -/

theorem nextEntityId_beforeCombat (w : BattleWorld) (frameNumber : UInt32) (trigger : String) :
    (w.beforeCombat frameNumber trigger).nextEntityId = w.nextEntityId := by
  unfold beforeCombat runLifecycle
  dsimp only
  split
  · rfl
  · rfl
  · split_ifs <;> rfl

theorem nextEntityId_tick (w : BattleWorld) (frameNumber : UInt32) (trigger : String) :
    (w.tick frameNumber trigger).nextEntityId = w.nextEntityId +
      (shotsFrom frameNumber w.nextEntityId (w.fighters frameNumber trigger)).length := by
  have hnext := w.nextEntityId_beforeCombat frameNumber trigger
  show (w.beforeCombat frameNumber trigger).nextEntityId + (takeTurns frameNumber
    (w.beforeCombat frameNumber trigger).nextEntityId _).2.1.length = _
  rw [hnext]
  rfl

variable {w : BattleWorld}

/-- A shot after a tick has had its turn; it is an old one, or was fired in the tick. -/
theorem mem_projectiles_tick {frameNumber : UInt32} {trigger : String}
    {q' : ProjectileEntity} (h : q' ∈ (w.tick frameNumber trigger).projectiles) :
    ∃ q es, q' = (q.fly frameNumber es).1 ∧ (q ∈ w.projectiles ∨
      q ∈ shotsFrom frameNumber w.nextEntityId (w.fighters frameNumber trigger)) := by
  obtain ⟨q, hq, es, heq⟩ := mem_flyAll h
  refine ⟨q, es, heq, ?_⟩
  have hold : ∀ q ∈ (w.beforeCombat frameNumber trigger).projectiles, q ∈ w.projectiles := by
    intro q hq
    unfold beforeCombat runLifecycle at hq
    dsimp only at hq
    split at hq
    · exact hq
    · cases hq
    · split_ifs at hq <;> exact hq
  have hnext := w.nextEntityId_beforeCombat frameNumber trigger
  have hperm := (w.beforeCombat frameNumber trigger).lib.projectileOrder_perm
  rcases List.mem_append.mp ((hperm _).mem_iff.mp hq) with hq | hq
  · exact .inl (hold q hq)
  · exact .inr (hnext ▸ hq)

/-- The active shots fly, and have ids that were given out. -/
structure AllFly (w : BattleWorld) : Prop where
  flies : ∀ q ∈ w.projectiles, q.projectile.active = true → q.Flies
  ids : ∀ q ∈ w.projectiles, q.id < w.nextEntityId

theorem AllFly.step {w' : BattleWorld} (h : w.AllFly) (hbounds : w.InBounds) {a : WorldAction}
    (ha : w.Inward a) (hs : w.step a = some w') : w'.AllFly := by
  cases a with
  | input userId inputData score submittedFrame =>
    obtain rfl := Option.some_inj.mp hs
    obtain ⟨heq, -⟩ | ⟨-, -, heq⟩ := w.processInput_cases userId inputData score submittedFrame
    · rwa [heq]
    · rw [heq]
      exact ⟨h.flies, h.ids⟩
  | tick frameNumber trigger =>
    obtain rfl := Option.some_inj.mp hs
    have hwithin := (hbounds.beforeCombat frameNumber trigger).1.participants
    refine ⟨fun q' hq' hactive => ?_, fun q' hq' => ?_⟩
    · obtain ⟨q, es, rfl, hq⟩ := mem_projectiles_tick hq'
      refine (ProjectileEntity.Flies.fly frameNumber hactive fun hq_active => ?_).1
      rcases hq with hq | hq
      · exact h.flies q hq hq_active
      · exact flies_of_mem_shotsFrom hwithin ha hq
    · obtain ⟨q, es, rfl, hq⟩ := mem_projectiles_tick hq'
      rw [ProjectileEntity.id_fly, nextEntityId_tick]
      rcases hq with hq | hq
      · exact Nat.lt_add_right _ (h.ids q hq)
      · exact id_lt_of_mem_shotsFrom hq

theorem ReachesInward.allFly (h : w.ReachesInward) : w.AllFly := by
  have hboth : w.InBounds ∧ w.AllFly := by
    refine h.invariant (P := fun w => w.InBounds ∧ w.AllFly) ?_ ?_
    · rintro w ⟨lib, battleId, roomId, playerIds, maxFrames, rfl⟩
      refine ⟨inBounds_createBattleWorld lib battleId roomId playerIds maxFrames, ?_, ?_⟩
      · exact List.forall_mem_nil _
      · exact List.forall_mem_nil _
    · intro w a w' ⟨hbounds, hfly⟩ ha hs
      exact ⟨(hbounds.step hs).1, hfly.step hbounds ha hs⟩
  exact hboth.2

/-- The active shots with ids below `n` fly, and have at most `way` to the border. -/
structure WayBelow (w : BattleWorld) (n : ℕ) (way : ℤ) : Prop where
  flies : ∀ q ∈ w.projectiles, q.id < n → q.projectile.active = true → q.Flies ∧ q.wayLeft ≤ way
  new : n ≤ w.nextEntityId

/-- Whatever happens, the way to the border shrinks with each tick. -/
theorem WayBelow.step {w' : BattleWorld} {n : ℕ} {way : ℤ} (h : w.WayBelow n way)
    {a : WorldAction} (hs : w.step a = some w') :
    w'.WayBelow n (way - if a.isTick then 100 else 0) := by
  cases a with
  | input userId inputData score submittedFrame =>
    obtain rfl := Option.some_inj.mp hs
    rw [if_neg (by simp [WorldAction.isTick]), Int.sub_zero]
    obtain ⟨heq, -⟩ | ⟨-, -, heq⟩ := w.processInput_cases userId inputData score submittedFrame
    · rwa [heq]
    · rw [heq]
      exact ⟨h.flies, h.new⟩
  | tick frameNumber trigger =>
    obtain rfl := Option.some_inj.mp hs
    rw [if_pos (by simp [WorldAction.isTick])]
    refine ⟨fun q' hq' hid hactive => ?_, ?_⟩
    · obtain ⟨q, es, rfl, hq⟩ := mem_projectiles_tick hq'
      rw [ProjectileEntity.id_fly] at hid
      rcases hq with hq | hq
      · have hold : q.projectile.active = true → q.Flies ∧ q.wayLeft ≤ way :=
          h.flies q hq hid
        obtain ⟨hflies, hway⟩ :=
          ProjectileEntity.Flies.fly frameNumber hactive fun hactive => (hold hactive).1
        refine ⟨hflies, ?_⟩
        have hq_active : q.projectile.active = true := by
          by_contra hinactive
          rw [ProjectileEntity.fly, if_neg hinactive] at hactive
          exact hinactive hactive
        have := (hold hq_active).2
        omega
      · have := le_id_of_mem_shotsFrom hq
        have := h.new
        omega
    · rw [nextEntityId_tick]
      exact Nat.le_add_right_of_le h.new

theorem WayBelow.run {w' : BattleWorld} {n : ℕ} {way : ℤ} (h : w.WayBelow n way)
    {as : List WorldAction} (hs : w.run as = some w') :
    w'.WayBelow n (way - 100 * as.countP (·.isTick)) := by
  induction as generalizing w way with
  | nil =>
    obtain rfl := Option.some_inj.mp hs
    simpa using h
  | cons a as ih =>
    obtain ⟨w₁, h₁, h₂⟩ := Option.bind_eq_some_iff.mp hs
    have hrest := ih (h.step h₁) h₂
    rw [List.countP_cons]
    cases hticks : a.isTick with
    | true =>
      simp only [hticks, if_true] at hrest ⊢
      have hway : way - 100 * ((as.countP (·.isTick) + 1 : ℕ) : ℤ) =
          way - 100 - 100 * (as.countP (·.isTick) : ℤ) := by omega
      rwa [hway]
    | false => simpa [hticks] using hrest

/-- Every shot ends in every run in which nobody fires outward from the border. -/
theorem shots_end {w : BattleWorld} (h : w.ReachesInward) : w.ShotsEnd := by
  have hfly := h.allFly
  intro q hq _
  refine ⟨11, fun as w' hn hs q' hq' hid => ?_⟩
  have hway : w.WayBelow w.nextEntityId 1000 :=
    ⟨fun q hq _ hactive => ⟨hfly.flies q hq hactive, (hfly.flies q hq hactive).wayLeft_mem.2⟩,
      Nat.le_refl _⟩
  by_contra hactive
  obtain ⟨hflies, hle⟩ := (hway.run hs).flies q' hq' (hid ▸ hfly.ids q hq)
    (Bool.eq_true_of_not_eq_false hactive)
  have hpos := hflies.wayLeft_mem.1
  omega

/-- A shot along the upper border of a map of two players. -/
theorem shots_end_inward : ∃ w : BattleWorld, w.ReachesInward ∧
    (w.projectiles.map fun q => (q.position.x, q.projectile.active)) = [(150, true)] ∧
    w.ShotsEnd := by
  have hstart : (createBattleWorld .plain "b" "r" ["owner", "member"] 0).ReachesInward :=
    .init ⟨_, _, _, _, _, rfl⟩
  obtain ⟨w, hw, hshots⟩ := hstart.exists_runWith
    (P := fun w => (w.projectiles.map fun q => (q.position.x, q.projectile.active)) = [(150, true)])
    [.input "owner" "fire:1,0" 0 0, .tick 1 "tick"] (by decide +kernel)
  exact ⟨w, hw, hshots, shots_end hw⟩

/-! ## A shot that stays -/

/-- Nothing is pending for the participant. -/
structure Idle (e : ParticipantEntity) : Prop where
  input : e.participant.pendingInputData = ""
  target : e.participant.pendingTargetUserId = ""
  noMove : e.participant.hasPendingMove = false
  noFire : e.participant.hasPendingFire = false
  overlay : e.overlay = none

/-- A running battle with one active shot, which has no direction and meets nobody. -/
structure Stuck (w : BattleWorld) (q : ProjectileEntity) : Prop where
  running : w.lifecycle = .kRunning
  online : w.allOffline = false
  participants : ∀ e ∈ w.participants, Idle e ∧ q.meets e = false
  order : ∀ qs, w.lib.projectileOrder qs = qs
  only : w.projectiles = [q]
  active : q.projectile.active = true
  straight : q.projectile.isStraight = true
  direction : q.projectile.dirX = 0 ∧ q.projectile.dirY = 0
  onMap : q.position.outOfBounds = false

/-- An input was noted before the last tick, or its number started again at 0. -/
structure Lively (w : BattleWorld) : Prop where
  limit : w.lifecycleSystem.maxIdleFrames = 300
  seen : w.lifecycleSystem.lastInputSeq = w.metadata.nextInputSeq
  idle : w.lifecycleSystem.idleFrames = 0 ∨
    w.lifecycleSystem.idleFrames = 1 ∧ w.metadata.nextInputSeq = 0

theorem lt_add_one_of_ne {n : UInt64} (h : n + 1 ≠ 0) : n < n + 1 := by
  rw [UInt64.lt_iff_toNat_lt, UInt64.toNat_add]
  have hlt := n.toNat_lt
  have hne : (n + 1).toNat ≠ 0 := fun hzero => h (UInt64.toNat_inj.mp hzero)
  rw [UInt64.toNat_add] at hne
  simp only [UInt64.toNat_one] at hne ⊢
  omega

variable {e : ParticipantEntity}

theorem Idle.submit (h : Idle e) : e.participant.submit "" 0 0 = e.participant := by
  have hinput := h.input
  obtain ⟨id, p, position, health, attack, cooldown, overlay⟩ := e
  obtain ⟨⟩ := p
  simp_all [BattleParticipantComponent.submit]

theorem Idle.applyInput (h : Idle e) : e.participant.applyInput = e.participant := by
  unfold BattleParticipantComponent.applyInput
  rw [if_pos (.inr h.input)]

theorem Idle.move (h : Idle e) : e.move = e := by
  unfold ParticipantEntity.move
  simp [h.noMove]

theorem Idle.burn (h : Idle e) (frameNumber : UInt32) : e.burn frameNumber = e := by
  unfold ParticipantEntity.burn
  rw [h.overlay]

theorem takeTurns_idle (frameNumber : UInt32) (nextEntityId : ℕ) {es : List ParticipantEntity}
    (h : ∀ e ∈ es, Idle e) : takeTurns frameNumber nextEntityId es = (es, [], []) := by
  induction es with
  | nil => rfl
  | cons e es ih =>
    obtain ⟨he, hes⟩ := List.forall_mem_cons.mp h
    have hfire : e.fire nextEntityId frameNumber = (e, none) := by
      unfold ParticipantEntity.fire
      simp [he.noFire]
    have hintend : e.intend frameNumber = (e, none) := by
      unfold ParticipantEntity.intend
      simp [he.target]
    rw [takeTurns, hfire]
    dsimp only
    rw [hintend]
    dsimp only [Option.toList, List.length_nil, Nat.add_zero, List.nil_append]
    rw [ih hes]

variable {q : ProjectileEntity}

/-- A shot that has no direction stays where it is. -/
theorem Stuck.fly (h : w.Stuck q)
    (frameNumber : UInt32) : q.fly frameNumber w.participants = (q.countFrame, w.participants) := by
  have hmove : q.countFrame.moveOn = q.countFrame := by
    unfold ProjectileEntity.moveOn ProjectileEntity.countFrame
    simp [h.direction]
  have hnobody : w.participants.find? q.countFrame.meets = none :=
    List.find?_eq_none.mpr fun e he => Bool.not_eq_true _ ▸ (h.participants e he).2
  have hactive : { q.countFrame.projectile with active := true } = q.countFrame.projectile := by
    simp [ProjectileEntity.countFrame, h.active]
  unfold ProjectileEntity.fly ProjectileEntity.flyStraight
  rw [if_pos h.active, if_pos h.straight, hmove]
  dsimp only
  rw [hnobody]
  dsimp only
  rw [show q.countFrame.position.outOfBounds = false from h.onMap, Bool.not_false, hactive]

/-- An input without a text, from anybody. -/
theorem Stuck.input (h : w.Stuck q) (userId : String) :
    (w.processInput userId "" 0 0).1 = (w.appendReplayInput (w.frameNumber + 1) userId "" 0).1 := by
  have haccept : w.shouldAcceptInput userId 0 = true := by simp [shouldAcceptInput]
  have hsame : w.updateUser userId (·.submit "" 0 0) = w := by
    have hes : (w.participants.map fun e => if e.participant.userId = userId then
        { e with participant := e.participant.submit "" 0 0 } else e) = w.participants := by
      refine (List.map_congr_left fun e he => ?_).trans (List.map_id _)
      rw [(h.participants e he).1.submit]
      exact ite_self _
    unfold updateUser
    rw [hes]
  rw [processInput_of_accept h.running haccept, hsame]

theorem runLifecycle_busy (hrun : w.lifecycle = .kRunning) (honline : w.allOffline = false)
    (hidle : ¬w.lifecycleSystem.maxIdleFrames ≤ w.idleFramesNext) :
    ∃ offlineFrames, w.runLifecycle =
      { w with
        lifecycleSystem :=
          { w.lifecycleSystem with
            idleFrames := w.idleFramesNext
            lastInputSeq := w.metadata.nextInputSeq
            offlineFrames := offlineFrames } } := by
  have hrun : w.metadata.lifecycle = .kRunning := hrun
  unfold runLifecycle
  rw [hrun]
  dsimp only
  rw [if_neg hidle]
  split_ifs with hempty hoffline
  · exact ⟨_, rfl⟩
  · simp [honline] at hoffline
  · simp [honline] at hoffline
  · exact ⟨_, rfl⟩

theorem Stuck.runCombat (h : w.Stuck q) (frameNumber : UInt32) : w.runCombat frameNumber = w := by
  unfold BattleWorld.runCombat
  rw [takeTurns_idle _ _ fun e he => (h.participants e he).1]
  dsimp only [List.foldl_nil, List.length_nil, Nat.add_zero]
  rw [List.append_nil, h.order]

theorem Stuck.runProjectile (h : w.Stuck q) (frameNumber : UInt32) :
    w.runProjectile frameNumber = { w with projectiles := [q.countFrame] } := by
  have hburn : w.participants.map (·.burn frameNumber) = w.participants :=
    (List.map_congr_left fun e he => (h.participants e he).1.burn frameNumber).trans
      (List.map_id _)
  unfold BattleWorld.runProjectile
  rw [h.only, flyAll, h.fly]
  dsimp only [flyAll]
  rw [hburn]

/-- A tick before which the battle is not idle for too long. -/
theorem Stuck.tick (h : w.Stuck q)
    (hidle : ¬w.lifecycleSystem.maxIdleFrames ≤ w.idleFramesNext) (frameNumber : UInt32)
    (trigger : String) : ∃ offlineFrames, w.tick frameNumber trigger =
      { w.runClock frameNumber trigger with
        projectiles := [q.countFrame]
        lifecycleSystem :=
          { w.lifecycleSystem with
            idleFrames := w.idleFramesNext
            lastInputSeq := w.metadata.nextInputSeq
            offlineFrames := offlineFrames } }.runReplay frameNumber := by
  have hidles : ∀ e ∈ w.participants, Idle e := fun e he => (h.participants e he).1
  have hinput : (w.runClock frameNumber trigger).runInput = w.runClock frameNumber trigger := by
    have hes : (w.participants.map fun e =>
        ({ e with participant := e.participant.applyInput } : ParticipantEntity)) =
          w.participants := by
      refine (List.map_congr_left fun e he => ?_).trans (List.map_id _)
      rw [(hidles e he).applyInput]
      rfl
    exact congrArg (fun es => { w.runClock frameNumber trigger with participants := es }) hes
  have hmove : (w.runClock frameNumber trigger).runMovement = w.runClock frameNumber trigger := by
    have hes : w.participants.map ParticipantEntity.move = w.participants :=
      (List.map_congr_left fun e he => (hidles e he).move).trans (List.map_id _)
    exact congrArg (fun es => { w.runClock frameNumber trigger with participants := es }) hes
  obtain ⟨offlineFrames, hlifecycle⟩ : ∃ offlineFrames,
      (w.runClock frameNumber trigger).runLifecycle =
        { w.runClock frameNumber trigger with
          lifecycleSystem :=
            { w.lifecycleSystem with
              idleFrames := w.idleFramesNext
              lastInputSeq := w.metadata.nextInputSeq
              offlineFrames := offlineFrames } } :=
    runLifecycle_busy (w := w.runClock frameNumber trigger) h.running h.online hidle
  have hstuck : Stuck { w.runClock frameNumber trigger with
      lifecycleSystem :=
        { w.lifecycleSystem with
          idleFrames := w.idleFramesNext
          lastInputSeq := w.metadata.nextInputSeq
          offlineFrames := offlineFrames } } q :=
    ⟨h.running, h.online, h.participants, h.order, h.only, h.active, h.straight, h.direction,
      h.onMap⟩
  refine ⟨offlineFrames, ?_⟩
  unfold BattleWorld.tick
  dsimp only
  rw [hinput, hmove, hlifecycle, hstuck.runCombat, hstuck.runProjectile]

/-- An input and a tick leave the shot where it is, and the battle goes on. -/
theorem Stuck.round (h : w.Stuck q) (hlively : w.Lively)
    (userId : String) (frameNumber : UInt32) (trigger : String) :
    ∃ w', w.run [.input userId "" 0 0, .tick frameNumber trigger] = some w' ∧
      w'.Stuck q.countFrame ∧ w'.Lively := by
  have hinput := h.input userId
  generalize hw : (w.appendReplayInput (w.frameNumber + 1) userId "" 0).1 = w₁ at hinput
  have hstuck : w₁.Stuck q := by
    rw [← hw]
    exact ⟨h.running, h.online, h.participants, h.order, h.only, h.active, h.straight,
      h.direction, h.onMap⟩
  have hsystem : w₁.lifecycleSystem = w.lifecycleSystem := by rw [← hw]; rfl
  have hseq : w₁.metadata.nextInputSeq = w.metadata.nextInputSeq + 1 := by rw [← hw]; rfl
  have hnext : w₁.idleFramesNext = 0 ∨
      w₁.idleFramesNext = 1 ∧ w₁.metadata.nextInputSeq = 0 := by
    unfold idleFramesNext
    rw [hsystem, hseq, hlively.seen]
    obtain hidle | ⟨hidle, hzero⟩ := hlively.idle
    · rw [hidle]
      by_cases hwrap : w.metadata.nextInputSeq + 1 = 0
      · rw [hwrap, if_neg (by simp)]
        exact .inr ⟨rfl, rfl⟩
      · rw [if_pos (lt_add_one_of_ne hwrap)]
        exact .inl rfl
    · rw [hzero, if_pos (by decide)]
      exact .inl rfl
  have hbusy : ¬w₁.lifecycleSystem.maxIdleFrames ≤ w₁.idleFramesNext := by
    rw [hsystem, hlively.limit]
    obtain hnext | ⟨hnext, -⟩ := hnext <;> rw [hnext] <;> decide
  obtain ⟨offlineFrames, htick⟩ := hstuck.tick hbusy frameNumber trigger
  refine ⟨w₁.tick frameNumber trigger, ?_, ?_, ?_⟩
  · show (some (w.processInput userId "" 0 0).1).bind
      (fun w => (w.step (.tick frameNumber trigger)).bind some) = _
    rw [hinput]
    rfl
  · rw [htick]
    exact ⟨hstuck.running, hstuck.online, hstuck.participants, hstuck.order, rfl, hstuck.active,
      hstuck.straight, hstuck.direction, hstuck.onMap⟩
  · rw [htick]
    exact ⟨hsystem ▸ hlively.limit, rfl, hnext⟩

/-- So there are runs of any number of ticks after which the shot is still there. -/
theorem Stuck.exists_run (h : w.Stuck q)
    (hlively : w.Lively) (n : ℕ) : ∃ as w', as.countP (·.isTick) = n ∧ w.run as = some w' ∧
      ∃ q' ∈ w'.projectiles, q'.id = q.id ∧ q'.projectile.active = true := by
  induction n generalizing w q with
  | zero => exact ⟨[], w, rfl, rfl, q, by simp [h.only], rfl, h.active⟩
  | succ n ih =>
    obtain ⟨w₁, hrun, hstuck, hlively⟩ := h.round hlively "member" 1 "tick"
    obtain ⟨as, w', hcount, hrest, hshot⟩ := ih hstuck hlively
    refine ⟨[.input "member" "" 0 0, .tick 1 "tick"] ++ as, w', ?_, ?_, hshot⟩
    · rw [List.countP_append, hcount]
      exact Nat.add_comm _ _
    · unfold run
      rw [List.foldlM_append]
      exact (congrArg (fun o => o >>= _) hrun).trans hrest

/-- A player has walked to the left border and fired to the left, far from the other. -/
def border : BattleWorld :=
  let w := createBattleWorld .plain "b" "r" ["owner", "member"] 0
  let w := (w.processInput "owner" "move:0,150" 0 0).1.tick 1 "tick"
  (w.processInput "owner" "fire:-1,0" 0 0).1.tick 2 "tick"

theorem reaches_border : border.Reaches := by
  have hstart : (createBattleWorld .plain "b" "r" ["owner", "member"] 0).Reaches :=
    .init ⟨_, _, _, _, _, rfl⟩
  have hmove := (hstart.step (a := .input "owner" "move:0,150" 0 0) trivial rfl).step
    (a := .tick 1 "tick") trivial rfl
  exact (hmove.step (a := .input "owner" "fire:-1,0" 0 0) trivial rfl).step
    (a := .tick 2 "tick") trivial rfl

instance (e : ParticipantEntity) : Decidable (Idle e) :=
  decidable_of_iff (e.participant.pendingInputData = "" ∧ e.participant.pendingTargetUserId = "" ∧
      e.participant.hasPendingMove = false ∧ e.participant.hasPendingFire = false ∧
      e.overlay = none)
    ⟨fun ⟨h₁, h₂, h₃, h₄, h₅⟩ => ⟨h₁, h₂, h₃, h₄, h₅⟩, fun ⟨h₁, h₂, h₃, h₄, h₅⟩ =>
      ⟨h₁, h₂, h₃, h₄, h₅⟩⟩

theorem exists_stuck : ∃ q, border.Stuck q := by
  obtain ⟨q, hq⟩ : ∃ q, border.projectiles = [q] :=
    List.length_eq_one_iff.mp (by decide +kernel)
  have hshot : ∀ q ∈ border.projectiles, q.projectile.active = true ∧
      q.projectile.isStraight = true ∧ (q.projectile.dirX = 0 ∧ q.projectile.dirY = 0) ∧
      q.position.outOfBounds = false ∧
      ∀ e ∈ border.participants, Idle e ∧ q.meets e = false := by decide +kernel
  obtain ⟨hactive, hstraight, hdirection, hmap, hes⟩ := hshot q (by simp [hq])
  have hrunning : border.lifecycle = .kRunning ∧ border.allOffline = false := by decide +kernel
  exact ⟨q, hrunning.1, hrunning.2, hes, fun _ => rfl, hq, hactive, hstraight, hdirection, hmap⟩

theorem not_shots_end : ¬∀ w : BattleWorld, w.Reaches → w.ShotsEnd := by
  intro hall
  obtain ⟨q, hstuck⟩ := exists_stuck
  have hlively : border.Lively := by
    have hsystem : border.lifecycleSystem.maxIdleFrames = 300 ∧
        border.lifecycleSystem.lastInputSeq = border.metadata.nextInputSeq ∧
        border.lifecycleSystem.idleFrames = 0 := by decide +kernel
    exact ⟨hsystem.1, hsystem.2.1, .inl hsystem.2.2⟩
  obtain ⟨n, hends⟩ := hall border reaches_border q (by simp [hstuck.only]) hstuck.active
  obtain ⟨as, w', hcount, hrun, q', hq', hid, hactive⟩ := hstuck.exists_run hlively n
  have hinactive := hends as w' (Nat.le_of_eq hcount.symm) hrun q' hq' hid
  rw [hactive] at hinactive
  cases hinactive

end BattleWorld

end BoostGateway.Battle
