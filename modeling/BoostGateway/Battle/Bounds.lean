import Mathlib.Algebra.Order.Group.Int
import Mathlib.Algebra.Order.Group.Abs
import BoostGateway.Base.Run
import BoostGateway.Battle.World

/-!
# The bounds of a battle world

Whatever texts the players send, a participant stays on the map and between no health and
full health, is never healed, and moves by at most `kMaxMoveDelta` in a tick :
`BattleWorld.world_bounds`.

`Follows d e e'` says what may become of a participant while it moves by at most `d`. Every
system, and every projectile in its turn, takes the participants to ones that follow them;
only movement does so with a distance. The damage of projectiles and overlays is never
negative, which is what keeps them from healing.
-/

namespace BoostGateway.Battle

namespace ParticipantEntity

/-- A player is within the bounds. -/
structure WithinBounds (e : ParticipantEntity) : Prop where
  hp_nonneg : 0 ≤ e.health.hp
  hp_le : e.health.hp ≤ e.health.maxHp
  x_nonneg : 0 ≤ e.position.x
  x_le : e.position.x ≤ kMaxX
  y_nonneg : 0 ≤ e.position.y
  y_le : e.position.y ≤ kMaxY
  overlay : ∀ dot ∈ e.overlay, 0 ≤ dot.damagePerTick

/-- A participant afterwards : the same one, within bounds, not healed, and at most `d` away. -/
structure Follows (d : ℤ) (e e' : ParticipantEntity) : Prop where
  id : e'.id = e.id
  bounds : e'.WithinBounds
  maxHp : e'.health.maxHp = e.health.maxHp
  hp : e'.health.hp ≤ e.health.hp
  moved : e'.distanceTo e.position.x e.position.y ≤ d

theorem distanceTo_self (e : ParticipantEntity) : e.distanceTo e.position.x e.position.y = 0 := by
  simp [distanceTo]

theorem Follows.trans {d d' : ℤ} {e e' e'' : ParticipantEntity} (h : Follows d e e')
    (h' : Follows d' e' e'') : Follows (d + d') e e'' where
  id := h'.id.trans h.id
  bounds := h'.bounds
  maxHp := h'.maxHp.trans h.maxHp
  hp := h'.hp.trans h.hp
  moved := by
    have hx := abs_sub_le e''.position.x e'.position.x e.position.x
    have hy := abs_sub_le e''.position.y e'.position.y e.position.y
    have hm := h.moved
    have hm' := h'.moved
    unfold distanceTo at hm hm' ⊢
    omega

variable {e : ParticipantEntity}

/-- The same health, position and overlay. -/
theorem WithinBounds.same {e' : ParticipantEntity} (h : e.WithinBounds) (hid : e'.id = e.id)
    (hposition : e'.position = e.position) (hhealth : e'.health = e.health)
    (hoverlay : e'.overlay = e.overlay) : Follows 0 e e' where
  id := hid
  bounds := by
    obtain ⟨h₁, h₂, h₃, h₄, h₅, h₆, h₇⟩ := h
    constructor
    all_goals first | rwa [hhealth] | rwa [hposition] | rwa [hoverlay]
  maxHp := by rw [hhealth]
  hp := by rw [hhealth]
  moved := by
    unfold distanceTo
    rw [hposition]
    simp

theorem WithinBounds.follows (h : e.WithinBounds) : Follows 0 e e :=
  h.same rfl rfl rfl rfl

theorem WithinBounds.harm (h : e.WithinBounds) {damage : ℤ}
    (hdamage : 0 ≤ damage) : Follows 0 e (e.harm damage) := by
  have hnonneg := h.hp_nonneg
  have hle := h.hp_le
  refine
    { id := rfl
      bounds := { h with hp_nonneg := le_max_left _ _, hp_le := ?_ }
      maxHp := rfl
      hp := ?_
      moved := (distanceTo_self e).le }
  · show max 0 (e.health.hp - damage) ≤ e.health.maxHp
    omega
  · show max 0 (e.health.hp - damage) ≤ e.health.hp
    omega

/-- A new overlay, or none, after anything else. -/
theorem Follows.setOverlay {d : ℤ} {e e' : ParticipantEntity} (h : Follows d e e')
    {overlay : Option DamageOverlayComponent}
    (hoverlay : ∀ dot ∈ overlay, 0 ≤ dot.damagePerTick) :
    Follows d e { e' with overlay := overlay } :=
  { h with bounds := { h.bounds with overlay := hoverlay } }

theorem Follows.credit {d : ℤ} {e e' : ParticipantEntity} (h : Follows d e e') (userId : String)
    (points : ℤ) : Follows d e (e'.credit userId points) := by
  unfold ParticipantEntity.credit
  split_ifs
  · have hscore : Follows 0 e' { e' with participant :=
        { e'.participant with score := e'.participant.score + points } } :=
      h.bounds.same rfl rfl rfl rfl
    simpa using h.trans hscore
  · exact h

/-! ## Systems on one participant -/

theorem WithinBounds.move (h : e.WithinBounds) : Follows kMaxMoveDelta e e.move := by
  have hstay : ∀ e' : ParticipantEntity, Follows 0 e e' → Follows kMaxMoveDelta e e' :=
    fun e' h' => { h' with moved := h'.moved.trans (by decide) }
  unfold ParticipantEntity.move
  dsimp only
  split_ifs with hidle hout hfast
  · exact hstay _ h.follows
  · exact hstay _ (h.same rfl rfl rfl rfl)
  · exact hstay _ (h.same rfl rfl rfl rfl)
  all_goals
    exact
      { id := rfl
        bounds := { h with
          x_nonneg := by dsimp only; omega
          x_le := by dsimp only; omega
          y_nonneg := by dsimp only; omega
          y_le := by dsimp only; omega }
        maxHp := rfl
        hp := le_refl _
        moved := by unfold distanceTo; dsimp only; omega }

theorem WithinBounds.burn (h : e.WithinBounds) (frameNumber : UInt32) :
    Follows 0 e (e.burn frameNumber) := by
  unfold ParticipantEntity.burn
  cases hoverlay : e.overlay with
  | none => exact h.follows
  | some dot =>
    have hdot : 0 ≤ dot.damagePerTick := h.overlay dot hoverlay
    dsimp only
    split_ifs
    · exact h.follows.setOverlay nofun
    · refine (h.harm hdot).setOverlay fun dot' hdot' => ?_
      obtain rfl := Option.some.inj hdot'
      exact hdot
    · exact h.follows

theorem WithinBounds.turn (h : e.WithinBounds) (nextEntityId : ℕ) (frameNumber : UInt32) :
    Follows 0 e ((e.fire nextEntityId frameNumber).1.intend frameNumber).1 := by
  have hfire : Follows 0 e (e.fire nextEntityId frameNumber).1 := by
    unfold ParticipantEntity.fire
    dsimp only
    split_ifs
    · exact h.same rfl rfl rfl rfl
    · exact h.same rfl rfl rfl rfl
    · exact h.follows
  have hintend : ∀ e' : ParticipantEntity, e'.WithinBounds →
      Follows 0 e' (e'.intend frameNumber).1 := by
    intro e' h'
    unfold ParticipantEntity.intend
    dsimp only
    split_ifs
    · exact h'.follows
    · exact h'.same rfl rfl rfl rfl
    · exact h'.same rfl rfl rfl rfl
    · exact h'.same rfl rfl rfl rfl
  exact hfire.trans (hintend _ hfire.bounds)

end ParticipantEntity

/-! ## Systems on all participants -/

open ParticipantEntity

/-- All players are. -/
abbrev AllWithin (es : List ParticipantEntity) : Prop := ∀ e ∈ es, e.WithinBounds

/-- The players follow, one by one. -/
abbrev AllFollow (d : ℤ) (es es' : List ParticipantEntity) : Prop :=
  List.Forall₂ (Follows d) es es'

theorem AllFollow.within {d : ℤ} {es es' : List ParticipantEntity} (h : AllFollow d es es') :
    AllWithin es' := by
  induction h with
  | nil => exact List.forall_mem_nil _
  | cons hfirst _ ih => exact List.forall_mem_cons.mpr ⟨hfirst.bounds, ih⟩

theorem AllFollow.trans {d d' : ℤ} {es es' es'' : List ParticipantEntity}
    (h : AllFollow d es es') (h' : AllFollow d' es' es'') : AllFollow (d + d') es es'' := by
  induction h generalizing es'' with
  | nil =>
    cases h'
    exact .nil
  | cons hfirst _ ih =>
    cases h' with
    | cons hfirst' hrest' => exact .cons (hfirst.trans hfirst') (ih hrest')

theorem AllFollow.ids {d : ℤ} {es es' : List ParticipantEntity} (h : AllFollow d es es') :
    es'.map (·.id) = es.map (·.id) := by
  induction h with
  | nil => rfl
  | cons hfollow _ ih => rw [List.map_cons, List.map_cons, hfollow.id, ih]

theorem AllWithin.map {d : ℤ} {es : List ParticipantEntity} (h : AllWithin es)
    {f : ParticipantEntity → ParticipantEntity}
    (hf : ∀ e : ParticipantEntity, e.WithinBounds → Follows d e (f e)) :
    AllFollow d es (es.map f) := by
  induction es with
  | nil => exact .nil
  | cons e es ih =>
    obtain ⟨hfirst, hrest⟩ := List.forall_mem_cons.mp h
    exact .cons (hf e hfirst) (ih hrest)

theorem AllWithin.follow {es : List ParticipantEntity} (h : AllWithin es) : AllFollow 0 es es := by
  simpa using h.map fun _ he => he.follows

variable (frameNumber : UInt32) {es : List ParticipantEntity}

theorem AllWithin.takeTurns
    (h : AllWithin es) (nextEntityId : ℕ) :
    AllFollow 0 es (Battle.takeTurns frameNumber nextEntityId es).1 := by
  induction es generalizing nextEntityId with
  | nil => exact .nil
  | cons e es ih =>
    obtain ⟨hfirst, hrest⟩ := List.forall_mem_cons.mp h
    exact .cons (hfirst.turn nextEntityId frameNumber) (ih hrest _)

/-- An attack takes away between `kMinDamage` and `kMaxDamage`. -/
theorem AllWithin.resolveAttack
    (h : AllWithin es) (intent : AttackIntent) :
    AllFollow 0 es (Battle.resolveAttack frameNumber es intent) := by
  unfold Battle.resolveAttack
  cases es.find? (·.id = intent.source) with
  | none => exact h.follow
  | some source =>
    dsimp only
    split_ifs with hdamage
    · exact h.follow
    · have hpos : 0 ≤ source.attack.damage := by
        unfold kMinDamage at hdamage
        omega
      refine h.map fun e he => ?_
      have hstruck : ∀ hit : Bool, Follows 0 e (if hit then
          { e with health := { e.health with hp := max 0 (e.health.hp - source.attack.damage) } }
          else e) := by
        rintro (_ | _)
        · exact he.follows
        · exact he.harm hpos
      have hmarked : ∀ e' : ParticipantEntity, e'.WithinBounds → ∀ mark : Prop, [Decidable mark] →
          Follows 0 e' (if mark then
            { e' with cooldown := { e'.cooldown with lastAttackFrame := frameNumber } }
            else e') := by
        intro e' he' mark _
        split_ifs
        · exact he'.same rfl rfl rfl rfl
        · exact he'.follows
      exact (hstruck _).trans (hmarked _ (hstruck _).bounds _)

theorem AllWithin.resolveAll (intents : List AttackIntent)
    {es : List ParticipantEntity} (h : AllWithin es) :
    AllFollow 0 es (intents.foldl (Battle.resolveAttack frameNumber) es) := by
  induction intents generalizing es with
  | nil => exact h.follow
  | cons intent intents ih =>
    have hfirst := h.resolveAttack frameNumber intent
    exact hfirst.trans (ih hfirst.within)

/-! ## Projectiles -/

/-- No shot heals. -/
abbrev Harmful (qs : List ProjectileEntity) : Prop := ∀ q ∈ qs, 0 ≤ q.projectile.damage

theorem ParticipantEntity.WithinBounds.hurt {e : ParticipantEntity} (h : e.WithinBounds)
    {damage : ℤ} (hdamage : 0 ≤ damage) (hit : Prop) [Decidable hit] :
    Follows 0 e (if hit then e.harm damage else e) := by
  split_ifs
  · exact h.harm hdamage
  · exact h.follows

theorem ParticipantEntity.WithinBounds.scorch {e : ParticipantEntity} (h : e.WithinBounds)
    (frameNumber : UInt32) {proj : ProjectileComponent} (hdamage : 0 ≤ proj.damage) :
    Follows 0 e (proj.scorch frameNumber e) := by
  unfold ProjectileComponent.scorch
  dsimp only
  split_ifs
  · refine (h.harm hdamage).setOverlay fun dot hdot => ?_
    obtain rfl := Option.some.inj hdot
    exact hdamage
  · exact h.harm hdamage

theorem AllWithin.flyStraight (h : AllWithin es)
    {q : ProjectileEntity} (hq : 0 ≤ q.projectile.damage) :
    AllFollow 0 es (q.flyStraight es).2 := by
  unfold ProjectileEntity.flyStraight
  dsimp only
  split
  · exact h.map fun e he => (he.hurt hq _).credit _ _
  · exact h.follow

theorem AllWithin.flyAimed (h : AllWithin es) (frameNumber : UInt32)
    {q : ProjectileEntity} (hq : 0 ≤ q.projectile.damage) :
    AllFollow 0 es (q.flyAimed frameNumber es).2 := by
  unfold ProjectileEntity.flyAimed
  dsimp only
  split_ifs
  · exact h.map fun e he => (he.hurt hq _).credit _ _
  · refine h.map fun e he => ?_
    split_ifs
    · exact he.scorch frameNumber hq
    · exact he.follows
  · exact h.follow

/-- Each of the ways to hurt goes through `harm`. -/
theorem AllWithin.fly (h : AllWithin es) (frameNumber : UInt32)
    {q : ProjectileEntity} (hq : 0 ≤ q.projectile.damage) :
    AllFollow 0 es (q.fly frameNumber es).2 := by
  unfold ProjectileEntity.fly
  split_ifs
  · exact h.flyStraight hq
  · exact h.flyAimed frameNumber hq
  · exact h.follow

variable (q : ProjectileEntity)

theorem damage_flyStraight (es : List ParticipantEntity) :
    (q.flyStraight es).1.projectile.damage = q.projectile.damage := by
  unfold ProjectileEntity.flyStraight
  dsimp only
  split <;> rfl

theorem damage_flyAimed (frameNumber : UInt32) (es : List ParticipantEntity) :
    (q.flyAimed frameNumber es).1.projectile.damage = q.projectile.damage := by
  unfold ProjectileEntity.flyAimed
  dsimp only
  split_ifs <;> rfl

theorem damage_fly (frameNumber : UInt32) (es : List ParticipantEntity) :
    (q.fly frameNumber es).1.projectile.damage = q.projectile.damage := by
  unfold ProjectileEntity.fly
  split_ifs
  · exact damage_flyStraight _ es
  · exact damage_flyAimed _ frameNumber es
  · rfl

theorem AllWithin.flyAll {qs : List ProjectileEntity}
    {es : List ParticipantEntity} (h : AllWithin es) (hqs : Harmful qs) :
    AllFollow 0 es (Battle.flyAll frameNumber qs es).2 ∧
      Harmful (Battle.flyAll frameNumber qs es).1 := by
  induction qs generalizing es with
  | nil => exact ⟨h.follow, List.forall_mem_nil _⟩
  | cons q qs ih =>
    obtain ⟨hq, hqs⟩ := List.forall_mem_cons.mp hqs
    have hfirst := h.fly frameNumber hq
    have hdamage := damage_fly q frameNumber es
    obtain ⟨hrest, hharmful⟩ := ih hfirst.within hqs
    exact ⟨hfirst.trans hrest, List.forall_mem_cons.mpr ⟨hq.trans_eq hdamage.symm, hharmful⟩⟩

theorem harmful_takeTurns (es : List ParticipantEntity)
    (nextEntityId : ℕ) : Harmful (takeTurns frameNumber nextEntityId es).2.1 := by
  have hshot : ∀ (e : ParticipantEntity) (nextEntityId : ℕ),
      Harmful (e.fire nextEntityId frameNumber).2.toList := by
    intro e nextEntityId q hq
    unfold ParticipantEntity.fire at hq
    dsimp only at hq
    split_ifs at hq
    · rw [List.mem_singleton.mp hq]
      exact (by decide : 0 ≤ kProjectileDamage)
    all_goals exact absurd hq List.not_mem_nil
  induction es generalizing nextEntityId with
  | nil => exact List.forall_mem_nil _
  | cons e es ih =>
    intro q hq
    rcases List.mem_append.mp hq with hfirst | hrest
    · exact hshot e nextEntityId q hfirst
    · exact ih _ q hrest

namespace BattleWorld

/-! ## The world -/

/-- The world is within the bounds. -/
structure InBounds (w : BattleWorld) : Prop where
  participants : AllWithin w.participants
  projectiles : Harmful w.projectiles

theorem inBounds_createBattleWorld (lib : Libraries) (battleId roomId : String)
    (playerIds : List String) (maxFrames : UInt32) :
    (createBattleWorld lib battleId roomId playerIds maxFrames).InBounds where
  participants := fun e he => by
    obtain ⟨index, -, rfl⟩ := List.mem_mapIdx.mp ((lib.participantOrder_perm _).mem_iff.mp he)
    obtain ⟨hx, hx', hy, hy'⟩ := lib.draw_mem battleId index
    unfold Libraries.spawnPositionFor
    exact
      { hp_nonneg := (by decide : (0 : ℤ) ≤ 100)
        hp_le := le_refl _
        x_nonneg := by dsimp only; omega
        x_le := by dsimp only [kMaxX]; omega
        y_nonneg := by dsimp only; omega
        y_le := by dsimp only [kMaxY]; omega
        overlay := nofun }
  projectiles := List.forall_mem_nil _

variable {w : BattleWorld}

theorem InBounds.updateUser (h : w.InBounds) (userId : String)
    (f : BattleParticipantComponent → BattleParticipantComponent) :
    AllFollow 0 w.participants (w.updateUser userId f).participants := by
  refine h.participants.map fun e he => ?_
  split_ifs
  · exact he.same rfl rfl rfl rfl
  · exact he.follows

theorem InBounds.input (h : w.InBounds) (userId inputData : String) (score : ℤ)
    (submittedFrame : UInt32) :
    (w.processInput userId inputData score submittedFrame).1.InBounds ∧
      AllFollow 0 w.participants
        (w.processInput userId inputData score submittedFrame).1.participants := by
  unfold processInput
  by_cases hrun : w.lifecycle ≠ .kRunning
  · rw [if_pos hrun]
    exact ⟨h, h.participants.follow⟩
  · rw [if_neg hrun]
    by_cases hdup : w.shouldAcceptInput userId submittedFrame = false
    · rw [if_pos hdup]
      exact ⟨h, h.participants.follow⟩
    · rw [if_neg hdup]
      have hfollow := h.updateUser userId fun p =>
        { p with
          lastSubmittedFrame := if 0 < submittedFrame then submittedFrame else p.lastSubmittedFrame
          score := p.score + score
          pendingInputData := inputData }
      exact ⟨⟨hfollow.within, h.projectiles⟩, hfollow⟩

theorem InBounds.runLifecycle (h : w.InBounds) :
    w.runLifecycle.InBounds ∧ AllFollow 0 w.participants w.runLifecycle.participants := by
  unfold BattleWorld.runLifecycle
  dsimp only
  split
  · exact ⟨⟨h.participants, h.projectiles⟩, h.participants.follow⟩
  · have hfollow : AllFollow 0 w.participants
        (w.participants.map fun e => { e with overlay := none }) :=
      h.participants.map fun e he => he.follows.setOverlay nofun
    exact ⟨⟨hfollow.within, List.forall_mem_nil _⟩, hfollow⟩
  · split_ifs <;> exact ⟨⟨h.participants, h.projectiles⟩, h.participants.follow⟩

theorem InBounds.runCombat (h : w.InBounds) (frameNumber : UInt32) :
    (w.runCombat frameNumber).InBounds ∧
      AllFollow 0 w.participants (w.runCombat frameNumber).participants := by
  have hturns := h.participants.takeTurns frameNumber w.nextEntityId
  have hfollow := hturns.trans (hturns.within.resolveAll frameNumber
    (takeTurns frameNumber w.nextEntityId w.participants).2.2)
  refine ⟨⟨hfollow.within, fun q hq => ?_⟩, hfollow⟩
  rcases List.mem_append.mp ((w.lib.projectileOrder_perm _).mem_iff.mp hq) with hold | hshot
  · exact h.projectiles q hold
  · exact harmful_takeTurns frameNumber w.participants w.nextEntityId q hshot

theorem InBounds.runProjectile (h : w.InBounds) (frameNumber : UInt32) :
    (w.runProjectile frameNumber).InBounds ∧
      AllFollow 0 w.participants (w.runProjectile frameNumber).participants := by
  obtain ⟨hfly, hharmful⟩ := h.participants.flyAll frameNumber h.projectiles
  have hfollow := hfly.trans (hfly.within.map fun e he => he.burn frameNumber)
  exact ⟨⟨hfollow.within, hharmful⟩, hfollow⟩

/-- The world that `CombatSystem` finds in a tick. -/
def beforeCombat (w : BattleWorld) (frameNumber : UInt32) (trigger : String) : BattleWorld :=
  (w.runClock frameNumber trigger).runInput.runMovement.runLifecycle

/-- The participants that `CombatSystem` finds in a tick. -/
def fighters (w : BattleWorld) (frameNumber : UInt32) (trigger : String) :
    List ParticipantEntity :=
  (w.beforeCombat frameNumber trigger).participants

theorem InBounds.beforeCombat (h : w.InBounds) (frameNumber : UInt32)
    (trigger : String) : (w.beforeCombat frameNumber trigger).InBounds ∧
      AllFollow kMaxMoveDelta w.participants (w.beforeCombat frameNumber trigger).participants := by
  have hinput : AllFollow 0 w.participants (w.runClock frameNumber trigger).runInput.participants :=
    h.participants.map fun e he => he.same rfl rfl rfl rfl
  have hmove : AllFollow kMaxMoveDelta w.participants
      (w.runClock frameNumber trigger).runInput.runMovement.participants := by
    have hboth := hinput.trans (hinput.within.map fun e he => he.move)
    rw [Int.zero_add] at hboth
    exact hboth
  have hmoved : (w.runClock frameNumber trigger).runInput.runMovement.InBounds :=
    ⟨hmove.within, h.projectiles⟩
  obtain ⟨hbounds, hlifecycle⟩ := hmoved.runLifecycle
  have hall := hmove.trans hlifecycle
  rw [Int.add_zero] at hall
  exact ⟨hbounds, hall⟩

/-- In a tick only movement takes a participant away. -/
theorem InBounds.tick (h : w.InBounds) (frameNumber : UInt32)
    (trigger : String) : (w.tick frameNumber trigger).InBounds ∧
      AllFollow kMaxMoveDelta w.participants (w.tick frameNumber trigger).participants := by
  obtain ⟨hbounds, hbefore⟩ := h.beforeCombat frameNumber trigger
  obtain ⟨hbounds, hcombat⟩ := hbounds.runCombat frameNumber
  obtain ⟨hbounds, hprojectile⟩ := hbounds.runProjectile frameNumber
  have hall := hbefore.trans (hcombat.trans hprojectile)
  simp only [Int.add_zero] at hall
  exact ⟨⟨hbounds.participants, hbounds.projectiles⟩, hall⟩

end BattleWorld

/-! ## Runs -/

/-- An input or a tick. -/
inductive WorldAction
  | input (userId inputData : String) (score : ℤ) (submittedFrame : UInt32)
  | tick (frameNumber : UInt32) (trigger : String)

namespace BattleWorld

def step (w : BattleWorld) : WorldAction → Option BattleWorld
  | .input userId inputData score submittedFrame =>
    some (w.processInput userId inputData score submittedFrame).1
  | .tick frameNumber trigger => some (w.tick frameNumber trigger)

/-- The worlds reached from new ones by inputs and ticks. -/
abbrev Reaches : BattleWorld → Prop :=
  BoostGateway.Reaches
    (fun w => ∃ lib battleId roomId playerIds maxFrames,
      w = createBattleWorld lib battleId roomId playerIds maxFrames)
    step fun _ _ => True

theorem InBounds.step {w w' : BattleWorld} (h : w.InBounds) {a : WorldAction}
    (hstep : w.step a = some w') :
    w'.InBounds ∧ AllFollow kMaxMoveDelta w.participants w'.participants := by
  cases a with
  | input userId inputData score submittedFrame =>
    obtain rfl := Option.some.inj hstep
    obtain ⟨hbounds, hfollow⟩ := h.input userId inputData score submittedFrame
    exact ⟨hbounds, hfollow.imp fun _ _ hf => { hf with moved := hf.moved.trans (by decide) }⟩
  | tick frameNumber trigger =>
    obtain rfl := Option.some.inj hstep
    exact h.tick frameNumber trigger

theorem Reaches.inBounds {w : BattleWorld} (h : w.Reaches) : w.InBounds := by
  refine h.invariant (P := InBounds) ?_ fun _ _ _ hw _ hstep => (hw.step hstep).1
  rintro _ ⟨lib, battleId, roomId, playerIds, maxFrames, rfl⟩
  exact inBounds_createBattleWorld lib battleId roomId playerIds maxFrames

/-- Participants keep the ids they were created with, which are different. -/
theorem Reaches.nodup_ids {w : BattleWorld} (h : w.Reaches) :
    (w.participants.map (·.id)).Nodup := by
  have hboth : w.InBounds ∧ (w.participants.map (·.id)).Nodup := by
    refine h.invariant (P := fun w => w.InBounds ∧ (w.participants.map (·.id)).Nodup) ?_ ?_
    · rintro _ ⟨lib, battleId, roomId, playerIds, maxFrames, rfl⟩
      refine ⟨inBounds_createBattleWorld lib battleId roomId playerIds maxFrames, ?_⟩
      refine ((lib.participantOrder_perm _).map _).nodup_iff.mpr ?_
      refine List.pairwise_iff_getElem.mpr fun i j hi hj hij => ?_
      simp only [List.getElem_map, List.getElem_mapIdx]
      omega
    · intro w a w' ⟨hw, hids⟩ _ hstep
      obtain ⟨hw', hfollow⟩ := hw.step hstep
      exact ⟨hw', by rwa [hfollow.ids]⟩
  exact hboth.2

/-- In every world reached every participant is within bounds, and after the next input or
tick each is within bounds, not healed, and at most `kMaxMoveDelta` from where it was. -/
theorem world_bounds {w : BattleWorld} (h : w.Reaches) : AllWithin w.participants ∧
    ∀ a w', w.step a = some w' → AllFollow kMaxMoveDelta w.participants w'.participants := by
  have hbounds := h.inBounds
  exact ⟨hbounds.participants, fun a w' hstep => (hbounds.step hstep).2⟩

/-- A player walks, and fires at another, who is hurt. -/
def skirmish : List WorldAction :=
  [.input "owner" "move:150,50" 0 0, .tick 1 "tick", .input "owner" "fire:-1,0" 0 0, .tick 2 "tick"]

theorem world_bounds_skirmish : ∃ w : BattleWorld, w.Reaches ∧
    (w.participants.map fun e => (e.position.x, e.health.hp)) = [(150, 100), (50, 75)] ∧
    AllWithin w.participants := by
  have hstart : (createBattleWorld .plain "b" "r" ["owner", "member"] 0).Reaches :=
    .init ⟨_, _, _, _, _, rfl⟩
  obtain ⟨w, hw, hstate⟩ := hstart.exists_runWith
    (P := fun w => (w.participants.map fun e => (e.position.x, e.health.hp)) = [(150, 100), (50, 75)])
    skirmish (by decide +kernel)
  exact ⟨w, hw, hstate, (world_bounds hw).1⟩

end BattleWorld

end BoostGateway.Battle
