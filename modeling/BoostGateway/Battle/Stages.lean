import Mathlib.Data.List.Permutation
import Mathlib.Data.Multiset.Basic
import BoostGateway.Battle.Aoi
import BoostGateway.Battle.Order
import BoostGateway.Ecs.SystemExecutor

/-!
# The stages of a battle world

`create_battle_world` registers eight systems with their dependencies, which
`ParallelSystemExecutor` groups into five stages (`stages_battleSystems`). `CombatSystem` and
`AoiSystem` share a stage, and a shot that one fires is an entity that the other may see : the
systems of every stage commute exactly in the frames in which nobody fires
(`ViewedWorld.Reaches.stagesCommute_iff`).
-/

namespace BoostGateway.Battle

open Ecs

namespace ViewedWorld

/-- What a system is called with. -/
structure FrameContext where
  frameNumber : UInt32
  trigger : String

/-- A system that neither reads nor writes the views and the positions left behind. -/
def onWorld (run : BattleWorld → FrameContext → BattleWorld) (v : ViewedWorld)
    (ctx : FrameContext) : ViewedWorld :=
  { v with world := run v.world ctx }

def clock : ViewedWorld → FrameContext → ViewedWorld :=
  onWorld fun w ctx => w.runClock ctx.frameNumber ctx.trigger

def input : ViewedWorld → FrameContext → ViewedWorld := onWorld fun w _ => w.runInput

def movement : ViewedWorld → FrameContext → ViewedWorld := onWorld fun w _ => w.runMovement

/-- The projectiles that are removed leave their positions behind. -/
def lifecycle (v : ViewedWorld) (_ : FrameContext) : ViewedWorld :=
  { v with
    world := v.world.runLifecycle
    strays :=
      if v.world.metadata.lifecycle = .kFinished then
        v.strays ++ v.world.projectiles.map fun q => (q.id, q.position)
      else v.strays }

def combat : ViewedWorld → FrameContext → ViewedWorld :=
  onWorld fun w ctx => w.runCombat ctx.frameNumber

def aoi (v : ViewedWorld) (_ : FrameContext) : ViewedWorld := v.runAoi

def projectile : ViewedWorld → FrameContext → ViewedWorld :=
  onWorld fun w ctx => w.runProjectile ctx.frameNumber

def replay : ViewedWorld → FrameContext → ViewedWorld :=
  onWorld fun w ctx => w.runReplay ctx.frameNumber

/-- The systems in the order in which `create_battle_world` registers them. -/
def battleSystems : List (SystemEntry ViewedWorld FrameContext) :=
  [{ run := clock, metadata := { name := "BattleClockSystem" } },
    { run := input, metadata := { name := "BattleInputSystem" } },
    { run := movement
      metadata := { name := "MovementSystem", dependencies := ["BattleInputSystem"] } },
    { run := lifecycle
      metadata := { name := "BattleLifecycleSystem", dependencies := ["BattleClockSystem"] } },
    { run := combat
      metadata :=
        { name := "CombatSystem", dependencies := ["MovementSystem", "BattleInputSystem"] } },
    { run := aoi, metadata := { name := "AoiSystem", dependencies := ["MovementSystem"] } },
    { run := projectile
      metadata := { name := "ProjectileSystem", dependencies := ["CombatSystem"] } },
    { run := replay
      metadata :=
        { name := "BattleReplaySystem"
          dependencies := ["BattleLifecycleSystem", "CombatSystem", "AoiSystem",
            "ProjectileSystem"] } }]

theorem stages_battleSystems :
    stagesOf battleSystems = [[0, 1], [3, 2], [4, 5], [6], [7]] := by
  decide +kernel

/-- The world that the stage of `CombatSystem` finds. -/
def beforeCombat (v : ViewedWorld) (ctx : FrameContext) : ViewedWorld :=
  (((v.clock ctx).input ctx).movement ctx).lifecycle ctx

def afterCombat (v : ViewedWorld) (ctx : FrameContext) : ViewedWorld :=
  (v.projectile ctx).replay ctx

variable {v v' : ViewedWorld} {ctx : FrameContext}

/-! ## The first two stages -/

theorem move_overlay (e : ParticipantEntity) (overlay : Option DamageOverlayComponent) :
    { e with overlay := overlay }.move = { e.move with overlay := overlay } := by
  unfold ParticipantEntity.move
  dsimp only
  split_ifs <;> rfl

theorem runLifecycle_runMovement (w : BattleWorld) :
    w.runMovement.runLifecycle = w.runLifecycle.runMovement := by
  have hempty : w.runMovement.participants.isEmpty = w.participants.isEmpty := by
    simp [BattleWorld.runMovement]
  have hoff : w.runMovement.allOffline = w.allOffline := by
    simp [BattleWorld.allOffline, BattleWorld.runMovement, Function.comp_def]
  have hidle : w.runMovement.idleFramesNext = w.idleFramesNext := rfl
  have hmetadata : w.runMovement.metadata = w.metadata := rfl
  have hsystem : w.runMovement.lifecycleSystem = w.lifecycleSystem := rfl
  unfold BattleWorld.runLifecycle
  simp only [hempty, hoff, hidle, hmetadata, hsystem]
  cases w.metadata.lifecycle with
  | kCreated => rfl
  | kFinished => simp [BattleWorld.runMovement, move_overlay, Function.comp_def]
  | kRunning =>
    dsimp only
    split_ifs <;> rfl

theorem lifecycle_movement (v : ViewedWorld) (ctx : FrameContext) :
    (v.movement ctx).lifecycle ctx = (v.lifecycle ctx).movement ctx := by
  unfold lifecycle movement onWorld
  dsimp only
  rw [runLifecycle_runMovement]
  rfl

/-- Only the order of the third stage may matter. -/
theorem runStages_cases {stages : List (List ℕ)} (h : InAnyOrder battleSystems stages) :
    runStages battleSystems ctx v stages =
        (((v.beforeCombat ctx).combat ctx).aoi ctx).afterCombat ctx ∨
      runStages battleSystems ctx v stages =
        (((v.beforeCombat ctx).aoi ctx).combat ctx).afterCombat ctx := by
  rw [InAnyOrder, stages_battleSystems] at h
  obtain ⟨first, _, hfirst, hrest, rfl⟩ := List.forall₂_cons_right_iff.mp h
  obtain ⟨second, _, hsecond, hrest', rfl⟩ := List.forall₂_cons_right_iff.mp hrest
  obtain ⟨third, _, hthird, hlast, rfl⟩ := List.forall₂_cons_right_iff.mp hrest'
  obtain ⟨fourth, _, hfourth, hlast', rfl⟩ := List.forall₂_cons_right_iff.mp hlast
  obtain ⟨fifth, _, hfifth, hnil, rfl⟩ := List.forall₂_cons_right_iff.mp hlast'
  obtain rfl := List.forall₂_nil_right_iff.mp hnil
  obtain rfl := List.perm_singleton.mp hfourth
  obtain rfl := List.perm_singleton.mp hfifth
  have hclock : runSystems battleSystems ctx v first = (v.clock ctx).input ctx := by
    rcases List.perm_pair.mp hfirst with rfl | rfl
    · rfl
    · rfl
  have hmove : runSystems battleSystems ctx ((v.clock ctx).input ctx) second =
      v.beforeCombat ctx := by
    rcases List.perm_pair.mp hsecond with rfl | rfl
    · exact (lifecycle_movement _ ctx).symm
    · rfl
  rw [runStages, List.foldl_cons, List.foldl_cons, hclock, hmove]
  rcases List.perm_pair.mp hthird with rfl | rfl
  · exact .inl rfl
  · exact .inr rfl

end ViewedWorld

/-! ## Shots -/

/-- The shots that the participants fire in their turns. -/
def shotsFrom (frameNumber : UInt32) (nextEntityId : ℕ) (es : List ParticipantEntity) :
    List ProjectileEntity :=
  (takeTurns frameNumber nextEntityId es).2.1

theorem shotsFrom_cons (frameNumber : UInt32) (nextEntityId : ℕ) (e : ParticipantEntity)
    (es : List ParticipantEntity) : shotsFrom frameNumber nextEntityId (e :: es) =
      match (e.fire 0 frameNumber).2 with
      | none => shotsFrom frameNumber nextEntityId es
      | some shot =>
        { shot with id := nextEntityId } :: shotsFrom frameNumber (nextEntityId + 1) es := by
  unfold shotsFrom
  rw [takeTurns, e.fire_eq nextEntityId]
  cases (e.fire 0 frameNumber).2 <;> rfl

variable {frameNumber : UInt32}

variable {nextEntityId : ℕ} {es : List ParticipantEntity}

theorem le_id_of_mem_shotsFrom {q : ProjectileEntity}
    (h : q ∈ shotsFrom frameNumber nextEntityId es) : nextEntityId ≤ q.id := by
  induction es generalizing nextEntityId with
  | nil => cases h
  | cons e es ih =>
    rw [shotsFrom_cons] at h
    split at h
    · exact ih h
    · rcases List.mem_cons.mp h with rfl | hrest
      · exact Nat.le_refl _
      · exact Nat.le_of_succ_le (ih hrest)

theorem id_lt_of_mem_shotsFrom {q : ProjectileEntity}
    (h : q ∈ shotsFrom frameNumber nextEntityId es) :
    q.id < nextEntityId + (shotsFrom frameNumber nextEntityId es).length := by
  induction es generalizing nextEntityId with
  | nil => cases h
  | cons e es ih =>
    rw [shotsFrom_cons] at h ⊢
    split at h
    · exact ih h
    · rw [List.length_cons]
      rcases List.mem_cons.mp h with rfl | hrest
      · exact Nat.lt_add_of_pos_right (Nat.succ_pos _)
      · have hlt := ih hrest
        omega

theorem nodup_shotsFrom (frameNumber : UInt32) (nextEntityId : ℕ) (es : List ParticipantEntity) :
    ((shotsFrom frameNumber nextEntityId es).map (·.id)).Nodup := by
  induction es generalizing nextEntityId with
  | nil => exact List.nodup_nil
  | cons e es ih =>
    rw [shotsFrom_cons]
    split
    · exact ih nextEntityId
    · rw [List.map_cons, List.nodup_cons]
      refine ⟨fun hmem => ?_, ih _⟩
      obtain ⟨q, hq, hid⟩ := List.mem_map.mp hmem
      have hle := le_id_of_mem_shotsFrom hq
      dsimp only at hid
      omega

theorem position_of_fire {e : ParticipantEntity} {frameNumber : UInt32} {shot : ProjectileEntity}
    (h : (e.fire 0 frameNumber).2 = some shot) : shot.position = e.position := by
  unfold ParticipantEntity.fire at h
  dsimp only at h
  split_ifs at h
  obtain rfl := Option.some.inj h
  rfl

/-- A shot starts where its owner is. -/
theorem exists_shot (nextEntityId : ℕ) {es : List ParticipantEntity}
    {e : ParticipantEntity} (he : e ∈ es) (hfires : e.fires frameNumber) :
    ∃ q ∈ shotsFrom frameNumber nextEntityId es, q.position = e.position := by
  induction es generalizing nextEntityId with
  | nil => cases he
  | cons e' es ih =>
    rw [shotsFrom_cons]
    rcases List.mem_cons.mp he with rfl | hmem
    · obtain ⟨shot, hshot⟩ := Option.isSome_iff_exists.mp hfires
      have hposition := position_of_fire hshot
      rw [hshot]
      exact ⟨_, List.mem_cons_self, hposition⟩
    · split
      · exact ih nextEntityId hmem
      · obtain ⟨q, hq, hposition⟩ := ih (nextEntityId + 1) hmem
        exact ⟨q, List.mem_cons_of_mem _ hq, hposition⟩

theorem shotsFrom_eq_nil
    (h : ∀ e ∈ es, ¬e.fires frameNumber) : shotsFrom frameNumber nextEntityId es = [] := by
  induction es with
  | nil => rfl
  | cons e es ih =>
    have hnone : (e.fire 0 frameNumber).2 = none :=
      Option.not_isSome_iff_eq_none.mp (h e List.mem_cons_self)
    rw [shotsFrom_cons, hnone]
    exact ih fun e' he' => h e' (List.mem_cons_of_mem _ he')

namespace ViewedWorld

variable {v v' : ViewedWorld} {ctx : FrameContext}

/-! ## What the systems leave of a participant -/

variable (e : ParticipantEntity)

theorem outline_act (frameNumber : UInt32) : outline (e.act frameNumber) = outline e := by
  have hfire : outline (e.fire 0 frameNumber).1 = outline e := by
    unfold ParticipantEntity.fire
    dsimp only
    split_ifs <;> rfl
  unfold ParticipantEntity.act ParticipantEntity.intend
  dsimp only
  split_ifs <;> exact hfire

variable (w : BattleWorld) (frameNumber : UInt32)

theorem participants_runCombat :
    (w.runCombat frameNumber).participants.map ParticipantEntity.still =
      w.participants.map fun e => (e.act frameNumber).still := by
  obtain ⟨hes, -⟩ := takeTurns_eq frameNumber w.nextEntityId w.participants
  unfold BattleWorld.runCombat
  dsimp only
  rw [hes]
  generalize (takeTurns frameNumber w.nextEntityId w.participants).2.2 = intents
  have hall : ∀ es : List ParticipantEntity,
      (intents.foldl (resolveAttack frameNumber) es).map ParticipantEntity.still =
        es.map ParticipantEntity.still := by
    induction intents with
    | nil => exact fun es => rfl
    | cons intent intents ih =>
      intro es
      rw [List.foldl_cons, ih, resolveAttack_eq_map, List.map_map]
      exact List.map_congr_left fun e _ => still_attacked frameNumber es intent e
  rw [hall, List.map_map]
  rfl

theorem outline_runCombat :
    (w.runCombat frameNumber).participants.map outline = w.participants.map outline := by
  have hstill : ∀ es : List ParticipantEntity, es.map outline =
      (es.map ParticipantEntity.still).map fun s => (s.1, s.2.1.online, s.2.2.1) := by
    intro es
    rw [List.map_map]
    rfl
  rw [hstill, participants_runCombat, List.map_map]
  exact List.map_congr_left fun e _ => outline_act e frameNumber

/-- The ids and positions of participants. -/
theorem places_of_outline {es es' : List ParticipantEntity}
    (h : es'.map outline = es.map outline) :
    es'.map (fun e => (e.id, e.position)) = es.map fun e => (e.id, e.position) := by
  have hplaces : ∀ es : List ParticipantEntity, (es.map fun e => (e.id, e.position)) =
      (es.map outline).map fun s => (s.1, s.2.2) := by
    intro es
    rw [List.map_map]
    rfl
  rw [hplaces, h, hplaces]

theorem ids_of_outline {es es' : List ParticipantEntity} (h : es'.map outline = es.map outline) :
    es'.map (·.id) = es.map (·.id) := by
  have hids : ∀ es : List ParticipantEntity, es.map (·.id) = (es.map outline).map (·.1) := by
    intro es
    rw [List.map_map]
    rfl
  rw [hids, h, hids]

/-- The shots that are fired in the stage of `CombatSystem`. -/
def shots (v : ViewedWorld) (ctx : FrameContext) : List ProjectileEntity :=
  shotsFrom ctx.frameNumber v.world.nextEntityId v.world.participants

theorem positions_combat (v : ViewedWorld) (ctx : FrameContext) : (v.combat ctx).positions =
    v.positions + (v.shots ctx).map fun q => (q.id, q.position) := by
  have hplaces := places_of_outline (outline_runCombat v.world ctx.frameNumber)
  have hprojectiles : (((v.combat ctx).world.projectiles.map fun q => (q.id, q.position) : List _) :
      Positions) = (v.world.projectiles.map fun q => (q.id, q.position) : List _) +
        ((v.shots ctx).map fun q => (q.id, q.position) : List _) := by
    rw [Multiset.coe_add, ← List.map_append]
    exact Multiset.coe_eq_coe.mpr ((v.world.lib.projectileOrder_perm _).map _)
  have hstrays : (v.combat ctx).strays = v.strays := rfl
  have hparticipants : ((v.combat ctx).world.participants.map fun e => (e.id, e.position)) =
    v.world.participants.map fun e => (e.id, e.position) := hplaces
  unfold positions
  rw [hparticipants, hprojectiles, hstrays, ← Multiset.add_assoc,
    Multiset.add_assoc _ _ (v.strays : Positions), Multiset.add_comm _ (v.strays : Positions),
    ← Multiset.add_assoc]

/-! ## The stage of combat and views -/

/-- Without shots nothing that is seen has changed. -/
theorem aoi_combat (h : v.shots ctx = []) : (v.combat ctx).aoi ctx = (v.aoi ctx).combat ctx := by
  have hpositions := positions_combat v ctx
  rw [h, List.map_nil, Multiset.coe_nil, Multiset.add_zero] at hpositions
  have hviews : (v.combat ctx).runAoi.views = v.runAoi.views :=
    views_runAoi_congr rfl rfl hpositions (outline_runCombat v.world ctx.frameNumber)
  change { v.combat ctx with views := (v.combat ctx).runAoi.views } =
    { v.combat ctx with views := v.runAoi.views }
  rw [hviews]

/-- Participants have ids of their own, and the next id is new. -/
structure Placed (v : ViewedWorld) : Prop where
  ids : (v.world.participants.map (·.id)).Nodup
  participants : ∀ e ∈ v.world.participants, e.id < v.world.nextEntityId
  projectiles : ∀ q ∈ v.world.projectiles, q.id < v.world.nextEntityId
  strays : ∀ a ∈ v.strays, a.1 < v.world.nextEntityId

theorem Placed.fresh (h : v.Placed) {a : ℕ × PositionComponent} (ha : a ∈ v.positions) :
    a.1 < v.world.nextEntityId := by
  rw [positions, Multiset.mem_add, Multiset.mem_add, Multiset.mem_coe, Multiset.mem_coe,
    Multiset.mem_coe] at ha
  rcases ha with (hparticipant | hprojectile) | hstray
  · obtain ⟨e, he, rfl⟩ := List.mem_map.mp hparticipant
    exact h.participants e he
  · obtain ⟨q, hq, rfl⟩ := List.mem_map.mp hprojectile
    exact h.projectiles q hq
  · exact h.strays a hstray

/-- Who fires sees the shot only if its view is made afterwards. -/
theorem aoi_combat_ne (h : v.Placed) {e : ParticipantEntity} (he : e ∈ v.world.participants)
    (honline : e.participant.online) (hfires : e.fires ctx.frameNumber) :
    ((v.combat ctx).aoi ctx).views e.id ≠ ((v.aoi ctx).combat ctx).views e.id := by
  obtain ⟨q, hq, hposition⟩ := exists_shot v.world.nextEntityId he hfires
  have houtline := outline_runCombat v.world ctx.frameNumber
  obtain ⟨e', he', hsame⟩ : ∃ e' ∈ (v.combat ctx).world.participants, outline e' = outline e :=
    List.mem_map.mp (houtline ▸ List.mem_map_of_mem he)
  obtain ⟨hid, honline', hposition'⟩ : e'.id = e.id ∧
      e'.participant.online = e.participant.online ∧ e'.position = e.position := by
    simpa [outline] using hsame
  have hids' : ((v.combat ctx).world.participants.map (·.id)).Nodup :=
    (ids_of_outline houtline).symm ▸ h.ids
  have hafter := online_view hids' he' (honline' ▸ honline)
  have hbefore := online_view h.ids he honline
  rw [hid] at hafter
  have hmem : (q.id, q.position) ∈ (v.combat ctx).positions := by
    rw [positions_combat, Multiset.mem_add]
    exact .inr (Multiset.mem_coe.mpr (List.mem_map.mpr ⟨q, hq, rfl⟩))
  have hvisible : q.id ∈ (viewOf (v.combat ctx).grid e').visibleEntities := by
    refine visible_of_position (hposition'.trans hposition.symm ▸ hmem) fun pos hpos => ?_
    rw [hposition', ← hposition]
    rw [positions_combat, Multiset.mem_add] at hpos
    rcases hpos with hold | hshot
    · exact absurd (h.fresh hold) (Nat.not_lt.mpr (le_id_of_mem_shotsFrom hq))
    · obtain ⟨q', hq', heq⟩ := List.mem_map.mp (Multiset.mem_coe.mp hshot)
      obtain ⟨hqid, rfl⟩ := Prod.mk.inj heq
      rw [List.inj_on_of_nodup_map (nodup_shotsFrom _ _ _) hq' hq hqid]
  intro heq
  have hviews : (v.combat ctx).runAoi.views e.id = v.runAoi.views e.id := heq
  rw [hafter, hbefore] at hviews
  rw [Option.some.inj hviews] at hvisible
  obtain ⟨pos, hpos⟩ := exists_position_of_visible hvisible
  exact absurd (h.fresh hpos) (Nat.not_lt.mpr (le_id_of_mem_shotsFrom hq))

/-! ## Who fires -/

/-- A participant whose input makes it fire in the frame. -/
def shoots (e : ParticipantEntity) (frameNumber : UInt32) : Bool :=
  { e with participant := e.participant.applyInput }.fires frameNumber

theorem fires_eq : e.fires frameNumber =
    (e.participant.hasPendingFire && decide (e.cooldown.lastAttackFrame = 0 ∨
      e.cooldown.cooldownFrames ≤ frameNumber - e.cooldown.lastAttackFrame)) := by
  unfold ParticipantEntity.fires ParticipantEntity.fire
  dsimp only
  split_ifs with hpending hcooldown
  · rw [hpending, decide_eq_true hcooldown]
    rfl
  · rw [hpending, decide_eq_false hcooldown]
    rfl
  · rw [Bool.eq_false_iff.mpr hpending]
    rfl

/-- Who has a shot pending after the input of a frame, and had none before, is online. -/
theorem online_of_applyInput {p : BattleParticipantComponent} (hbefore : p.hasPendingFire = false)
    (hafter : p.applyInput.hasPendingFire = true) : p.online = true := by
  by_contra honline
  have hsame : p.applyInput = p := by
    unfold BattleParticipantComponent.applyInput
    exact if_pos (.inl (Bool.eq_false_iff.mpr honline))
  rw [hsame, hbefore] at hafter
  cases hafter

/-- What the first two stages make of a participant. -/
structure Prepared (e e' : ParticipantEntity) : Prop where
  id : e'.id = e.id
  online : e'.participant.online = e.participant.online
  hasPendingFire : e'.participant.hasPendingFire = e.participant.applyInput.hasPendingFire
  cooldown : e'.cooldown = e.cooldown

theorem Prepared.fires {e e' : ParticipantEntity} (h : Prepared e e') (frameNumber : UInt32) :
    e'.fires frameNumber = shoots e frameNumber := by
  rw [shoots, fires_eq, fires_eq, h.hasPendingFire, h.cooldown]

theorem prepared_move : Prepared e { e with participant := e.participant.applyInput }.move := by
  unfold ParticipantEntity.move
  dsimp only
  split_ifs
  all_goals exact ⟨rfl, BattleWorld.online_applyInput _, rfl, rfl⟩

theorem participants_beforeCombat (v : ViewedWorld) (ctx : FrameContext) :
    ∃ g, (v.beforeCombat ctx).world.participants = v.world.participants.map g ∧
      ∀ e, Prepared e (g e) := by
  have hmoved : (((v.clock ctx).input ctx).movement ctx).world.participants =
      v.world.participants.map fun e =>
        { e with participant := e.participant.applyInput }.move := List.map_map ..
  unfold beforeCombat lifecycle BattleWorld.runLifecycle
  dsimp only
  split
  · exact ⟨_, hmoved, prepared_move⟩
  · refine ⟨fun e => { { e with participant := e.participant.applyInput }.move with
      overlay := none }, ?_, fun e => ?_⟩
    · dsimp only
      rw [hmoved, List.map_map]
      rfl
    · obtain ⟨hid, honline, hpending, hcooldown⟩ := prepared_move e
      exact ⟨hid, honline, hpending, hcooldown⟩
  · split_ifs
    all_goals exact ⟨_, hmoved, prepared_move⟩

/-- Between frames nobody has a shot pending. -/
def Unarmed (v : ViewedWorld) : Prop :=
  ∀ e ∈ v.world.participants, e.participant.hasPendingFire = false

theorem nextEntityId_beforeCombat (v : ViewedWorld) (ctx : FrameContext) :
    (v.beforeCombat ctx).world.nextEntityId = v.world.nextEntityId := by
  unfold beforeCombat lifecycle BattleWorld.runLifecycle
  dsimp only
  split
  · rfl
  · rfl
  · split_ifs
    all_goals rfl

theorem Placed.beforeCombat (h : v.Placed) (ctx : FrameContext) : (v.beforeCombat ctx).Placed := by
  obtain ⟨g, hparticipants, hprepared⟩ := participants_beforeCombat v ctx
  have hnext := nextEntityId_beforeCombat v ctx
  have hprojectiles : ∀ q ∈ (v.beforeCombat ctx).world.projectiles, q ∈ v.world.projectiles := by
    intro q hq
    unfold ViewedWorld.beforeCombat lifecycle BattleWorld.runLifecycle at hq
    dsimp only at hq
    split at hq
    · exact hq
    · cases hq
    · split_ifs at hq
      all_goals exact hq
  refine ⟨?_, ?_, ?_, ?_⟩
  · rw [hparticipants, List.map_map]
    have hids : v.world.participants.map ((·.id) ∘ g) = v.world.participants.map (·.id) :=
      List.map_congr_left fun e _ => (hprepared e).id
    exact hids ▸ h.ids
  · rw [hparticipants, hnext]
    intro e' he'
    obtain ⟨e, he, rfl⟩ := List.mem_map.mp he'
    exact (hprepared e).id.symm ▸ h.participants e he
  · rw [hnext]
    exact fun q hq => h.projectiles q (hprojectiles q hq)
  · rw [hnext]
    intro a ha
    unfold ViewedWorld.beforeCombat lifecycle at ha
    dsimp only at ha
    split_ifs at ha
    · rcases List.mem_append.mp ha with hold | hnew
      · exact h.strays a hold
      · obtain ⟨q, hq, rfl⟩ := List.mem_map.mp hnew
        exact h.projectiles q hq
    · exact h.strays a ha

/-! ## When the stages commute -/

theorem executeSequentially_battleSystems (v : ViewedWorld) (ctx : FrameContext) :
    executeSequentially battleSystems ctx v =
      (((v.beforeCombat ctx).combat ctx).aoi ctx).afterCombat ctx := rfl

theorem stagesCommute_iff_of_placed (hplaced : v.Placed) (hunarmed : v.Unarmed) :
    StagesCommute battleSystems ctx v ↔
      ∀ e ∈ v.world.participants, ¬shoots e ctx.frameNumber := by
  obtain ⟨g, hparticipants, hprepared⟩ := participants_beforeCombat v ctx
  constructor
  · intro hcommute e he hshoots
    have he' : g e ∈ (v.beforeCombat ctx).world.participants :=
      hparticipants ▸ List.mem_map_of_mem he
    have hfires : (g e).fires ctx.frameNumber := (hprepared e).fires _ ▸ hshoots
    have hpending : e.participant.applyInput.hasPendingFire = true := by
      rw [shoots, fires_eq, Bool.and_eq_true] at hshoots
      exact hshoots.1
    have honline : (g e).participant.online :=
      (hprepared e).online ▸ online_of_applyInput (hunarmed e he) hpending
    refine aoi_combat_ne (hplaced.beforeCombat ctx) he' honline hfires ?_
    have horder := hcommute [[0, 1], [2, 3], [5, 4], [6], [7]] (by
      rw [InAnyOrder, stages_battleSystems]
      exact .cons (.refl _) (.cons (.swap ..) (.cons (.swap ..) (.cons (.refl _)
        (.cons (.refl _) .nil)))))
    exact (congrFun (congrArg ViewedWorld.views horder) (g e).id).symm
  · intro hnone stages horder
    rw [executeSequentially_battleSystems]
    rcases runStages_cases horder with hrun | hrun
    · exact hrun
    · rw [hrun, aoi_combat]
      refine shotsFrom_eq_nil fun e he => ?_
      rw [hparticipants] at he
      obtain ⟨e', he', rfl⟩ := List.mem_map.mp he
      rw [(hprepared e').fires]
      exact hnone e' he'

/-! ## The worlds of a battle -/

/-- What the service does with a battle world. A frame runs its stages in some order. -/
inductive ViewedAction
  | input (userId inputData : String) (score : ℤ) (submittedFrame : UInt32)
  | disconnect (userId : String)
  | setOnline (userId : String)
  | recordFrameAck (userId : String) (frameNumber : UInt32)
  | setLifecycle (lifecycle : BattleLifecycleState)
  | frame (ctx : FrameContext) (stages : List (List ℕ)) (order : InAnyOrder battleSystems stages)

def step (v : ViewedWorld) : ViewedAction → Option ViewedWorld
  | .input userId inputData score submittedFrame =>
    some { v with world := (v.world.processInput userId inputData score submittedFrame).1 }
  | .disconnect userId => some { v with world := v.world.handleDisconnect userId }
  | .setOnline userId => some { v with world := v.world.setOnline userId }
  | .recordFrameAck userId frameNumber =>
    some { v with world := v.world.recordFrameAck userId frameNumber }
  | .setLifecycle lifecycle => some { v with world := v.world.setLifecycle lifecycle }
  | .frame ctx stages _ =>
    let v := runStages battleSystems ctx v stages
    some { v with world := v.world.applyTriggerToFrame ctx.frameNumber ctx.trigger }

/-- The worlds reached from new ones. -/
abbrev Reaches : ViewedWorld → Prop :=
  BoostGateway.Reaches
    (fun v => ∃ lib battleId roomId playerIds maxFrames visit visit_eq, v =
      { world := createBattleWorld lib battleId roomId playerIds maxFrames, visit, visit_eq })
    step fun _ _ => True

/-- What holds of a world between the frames. -/
structure Settled (v : ViewedWorld) : Prop where
  placed : v.Placed
  unarmed : v.Unarmed

/-- The id of a participant, and whether it has a shot pending. -/
def key (e : ParticipantEntity) : ℕ × Bool := (e.id, e.participant.hasPendingFire)

theorem Settled.of_keys (h : v.Settled)
    (hkeys : v'.world.participants.map key = v.world.participants.map key)
    (hprojectiles : v'.world.projectiles.map (·.id) = v.world.projectiles.map (·.id))
    (hstrays : v'.strays = v.strays) (hnext : v'.world.nextEntityId = v.world.nextEntityId) :
    v'.Settled := by
  have hids : ∀ es : List ParticipantEntity, es.map (·.id) = (es.map key).map Prod.fst := by
    intro es
    rw [List.map_map]
    rfl
  have hmem : ∀ e' ∈ v'.world.participants, ∃ e ∈ v.world.participants, key e = key e' :=
    fun e' he' => List.mem_map.mp (hkeys ▸ List.mem_map_of_mem he')
  refine ⟨⟨?_, fun e' he' => ?_, fun q' hq' => ?_, ?_⟩, fun e' he' => ?_⟩
  · rw [hids, hkeys, ← hids]
    exact h.placed.ids
  · obtain ⟨e, he, hkey⟩ := hmem e' he'
    rw [← (Prod.mk.inj hkey).1, hnext]
    exact h.placed.participants e he
  · have hq : q'.id ∈ v.world.projectiles.map (·.id) := hprojectiles ▸ List.mem_map_of_mem hq'
    obtain ⟨q, hq, hid⟩ := List.mem_map.mp hq
    rw [← hid, hnext]
    exact h.placed.projectiles q hq
  · rw [hstrays, hnext]
    exact h.placed.strays
  · obtain ⟨e, he, hkey⟩ := hmem e' he'
    rw [← (Prod.mk.inj hkey).2]
    exact h.unarmed e he

theorem keys_updateUser (userId : String)
    {f : BattleParticipantComponent → BattleParticipantComponent}
    (hf : ∀ p, (f p).hasPendingFire = p.hasPendingFire) :
    (w.updateUser userId f).participants.map key = w.participants.map key := by
  unfold BattleWorld.updateUser
  dsimp only
  rw [List.map_map]
  refine List.map_congr_left fun e _ => ?_
  unfold Function.comp key
  dsimp only
  split_ifs
  · exact congrArg (e.id, ·) (hf _)
  · rfl

/-- The participants after a fight, by their keys. -/
theorem keys_runProjectile :
    (w.runProjectile frameNumber).participants.map key = w.participants.map key := by
  have hcredit : ∀ (e : ParticipantEntity) userId points, key (e.credit userId points) = key e := by
    intro e userId points
    unfold ParticipantEntity.credit
    split_ifs <;> rfl
  have hfly : ∀ (q : ProjectileEntity) (es : List ParticipantEntity),
      (q.fly frameNumber es).2.map key = es.map key := by
    intro q es
    unfold ProjectileEntity.fly ProjectileEntity.flyStraight ProjectileEntity.flyAimed
      ProjectileComponent.impact ProjectileComponent.burst
    dsimp only
    split_ifs
    · split
      · rw [List.map_map]
        refine List.map_congr_left fun e _ => (hcredit _ _ _).trans ?_
        split_ifs <;> rfl
      · rfl
    · rw [List.map_map]
      refine List.map_congr_left fun e _ => (hcredit _ _ _).trans ?_
      split_ifs <;> rfl
    · rw [List.map_map]
      refine List.map_congr_left fun e _ => ?_
      unfold Function.comp ProjectileComponent.scorch
      dsimp only
      split_ifs <;> rfl
    · rfl
    · rfl
  have hall : ∀ (qs : List ProjectileEntity) (es : List ParticipantEntity),
      (flyAll frameNumber qs es).2.map key = es.map key := by
    intro qs
    induction qs with
    | nil => exact fun es => rfl
    | cons q qs ih => exact fun es => (ih _).trans (hfly q es)
  unfold BattleWorld.runProjectile
  dsimp only
  rw [List.map_map, ← hall w.projectiles w.participants]
  refine List.map_congr_left fun e _ => ?_
  unfold Function.comp ParticipantEntity.burn
  dsimp only
  split
  · rfl
  · split_ifs <;> rfl

theorem ids_runProjectile :
    (w.runProjectile frameNumber).projectiles.map (·.id) = w.projectiles.map (·.id) := by
  have hfly : ∀ (q : ProjectileEntity) (es : List ParticipantEntity),
      (q.fly frameNumber es).1.id = q.id := by
    intro q es
    unfold ProjectileEntity.fly ProjectileEntity.flyStraight ProjectileEntity.flyAimed
    dsimp only
    split_ifs
    · split <;> rfl
    all_goals rfl
  have hall : ∀ (qs : List ProjectileEntity) (es : List ParticipantEntity),
      (flyAll frameNumber qs es).1.map (·.id) = qs.map (·.id) := by
    intro qs
    induction qs with
    | nil => exact fun es => rfl
    | cons q qs ih =>
      intro es
      unfold flyAll
      rw [List.map_cons, List.map_cons, ih, hfly]
  exact hall w.projectiles w.participants

theorem hasPendingFire_act : (e.act frameNumber).participant.hasPendingFire = false := by
  have hfire : (e.fire 0 frameNumber).1.participant.hasPendingFire = false := by
    unfold ParticipantEntity.fire
    dsimp only
    split_ifs with hpending
    · rfl
    · rfl
    · exact Bool.eq_false_iff.mpr hpending
  unfold ParticipantEntity.act ParticipantEntity.intend
  dsimp only
  split_ifs <;> exact hfire

/-- Combat takes the shots that are pending, and gives the new ones new ids. -/
theorem Placed.combat (h : v.Placed) (ctx : FrameContext) : (v.combat ctx).Settled := by
  have houtline := outline_runCombat v.world ctx.frameNumber
  have hnext : (v.combat ctx).world.nextEntityId = v.world.nextEntityId + (v.shots ctx).length :=
    rfl
  refine ⟨⟨?_, fun e' he' => ?_, fun q hq => ?_, fun a ha => ?_⟩, fun e' he' => ?_⟩
  · exact (ids_of_outline houtline).symm ▸ h.ids
  · have hid : e'.id ∈ v.world.participants.map (·.id) :=
      ids_of_outline houtline ▸ List.mem_map_of_mem he'
    obtain ⟨e, he, hid⟩ := List.mem_map.mp hid
    have hlt := h.participants e he
    rw [hnext, ← hid]
    omega
  · rw [hnext]
    rcases List.mem_append.mp ((v.world.lib.projectileOrder_perm _).mem_iff.mp hq) with hold | hshot
    · have hlt := h.projectiles q hold
      omega
    · exact id_lt_of_mem_shotsFrom hshot
  · have hlt := h.strays a ha
    rw [hnext]
    omega
  · have hstill : e'.still ∈ v.world.participants.map fun e => (e.act ctx.frameNumber).still :=
      participants_runCombat v.world ctx.frameNumber ▸ List.mem_map_of_mem he'
    obtain ⟨e, -, hstill⟩ := List.mem_map.mp hstill
    have hparticipant : (e.act ctx.frameNumber).participant = e'.participant :=
      congrArg (·.2.1) hstill
    rw [← hparticipant]
    exact hasPendingFire_act e ctx.frameNumber

theorem settled_create (lib : Libraries) (battleId roomId : String) (playerIds : List String)
    (maxFrames : UInt32) (visit : Positions → List (ℕ × PositionComponent))
    (visit_eq : ∀ positions, (visit positions : Positions) = positions) :
    Settled { world := createBattleWorld lib battleId roomId playerIds maxFrames, visit, visit_eq } := by
  have hmem : ∀ e ∈ (createBattleWorld lib battleId roomId playerIds maxFrames).participants,
      e.id < playerIds.length + 3 ∧ e.participant.hasPendingFire = false := by
    intro e he
    obtain ⟨index, hlt, rfl⟩ := List.mem_mapIdx.mp ((lib.participantOrder_perm _).mem_iff.mp he)
    exact ⟨Nat.add_lt_add_right hlt 3, rfl⟩
  have hreaches : (createBattleWorld lib battleId roomId playerIds maxFrames).Reaches :=
    .init ⟨lib, battleId, roomId, playerIds, maxFrames, rfl⟩
  exact ⟨⟨hreaches.nodup_ids, fun e he => (hmem e he).1, fun q hq => (List.not_mem_nil hq).elim,
    fun a ha => (List.not_mem_nil ha).elim⟩, fun e he => (hmem e he).2⟩

theorem Settled.step (h : v.Settled) {a : ViewedAction} (hstep : v.step a = some v') :
    v'.Settled := by
  cases a with
  | input userId inputData score submittedFrame =>
    obtain rfl := Option.some.inj hstep
    unfold BattleWorld.processInput
    by_cases hrunning : v.world.lifecycle ≠ .kRunning
    · rw [if_pos hrunning]
      exact h
    · rw [if_neg hrunning]
      by_cases hframe : v.world.shouldAcceptInput userId submittedFrame = false
      · rw [if_pos hframe]
        exact h
      · rw [if_neg hframe]
        have hkeys := keys_updateUser v.world userId (f := fun p =>
          { p with
            lastSubmittedFrame := if 0 < submittedFrame then submittedFrame else p.lastSubmittedFrame
            score := p.score + score
            pendingInputData := inputData }) fun _ => rfl
        exact h.of_keys hkeys rfl rfl rfl
  | disconnect userId =>
    obtain rfl := Option.some.inj hstep
    unfold BattleWorld.handleDisconnect
    split_ifs
    · exact h
    · exact h.of_keys (keys_updateUser v.world userId fun _ => rfl) rfl rfl rfl
  | setOnline userId =>
    obtain rfl := Option.some.inj hstep
    exact h.of_keys (keys_updateUser v.world userId fun _ => rfl) rfl rfl rfl
  | recordFrameAck userId frameNumber =>
    obtain rfl := Option.some.inj hstep
    exact h.of_keys (keys_updateUser v.world userId fun _ => rfl) rfl rfl rfl
  | setLifecycle lifecycle =>
    obtain rfl := Option.some.inj hstep
    exact h.of_keys rfl rfl rfl rfl
  | frame ctx stages order =>
    obtain rfl := Option.some.inj hstep
    have hcombat := (h.placed.beforeCombat ctx).combat ctx
    have hkeys := keys_runProjectile ((v.beforeCombat ctx).combat ctx).world ctx.frameNumber
    have hids := ids_runProjectile ((v.beforeCombat ctx).combat ctx).world ctx.frameNumber
    rcases runStages_cases order with hrun | hrun
    · rw [hrun]
      exact hcombat.of_keys hkeys hids rfl rfl
    · rw [hrun]
      exact hcombat.of_keys hkeys hids rfl rfl

theorem Reaches.settled (h : v.Reaches) : v.Settled := by
  refine h.invariant (P := Settled) ?_ fun v a v' hv _ hstep => hv.step hstep
  rintro v ⟨lib, battleId, roomId, playerIds, maxFrames, visit, visit_eq, rfl⟩
  exact settled_create lib battleId roomId playerIds maxFrames visit visit_eq

/-- The stages of a frame come to the same in any order, exactly if nobody fires in it. -/
theorem Reaches.stagesCommute_iff (h : v.Reaches) (ctx : FrameContext) :
    StagesCommute battleSystems ctx v ↔
      ∀ e ∈ v.world.participants, ¬shoots e ctx.frameNumber :=
  stagesCommute_iff_of_placed h.settled.placed h.settled.unarmed

/-- A battle of two players, with any order of the positions. -/
noncomputable def duelWorld : ViewedWorld where
  world := createBattleWorld .plain "b" "r" ["owner", "member"] 0
  visit := Multiset.toList
  visit_eq := Multiset.coe_toList

theorem reaches_duelWorld : duelWorld.Reaches :=
  .init ⟨_, _, _, _, _, _, _, rfl⟩

theorem stagesCommute_duelWorld :
    StagesCommute battleSystems { frameNumber := 1, trigger := "tick" } duelWorld :=
  (reaches_duelWorld.stagesCommute_iff _).mpr (by decide +kernel)

/-- The owner fires in the first frame. -/
theorem not_stagesCommute_fire : ¬∀ v : ViewedWorld, v.Reaches →
    ∀ ctx, StagesCommute battleSystems ctx v := by
  intro h
  obtain ⟨v, hv, hshoots⟩ : ∃ v : ViewedWorld, v.Reaches ∧
      v.world.participants.any (shoots · 1) := by
    refine ⟨_, .step (a := .input "owner" "fire:1,0" 0 0) reaches_duelWorld trivial rfl, ?_⟩
    decide +kernel
  obtain ⟨e, he, hfires⟩ := List.any_eq_true.mp hshoots
  have hsettled := hv.settled
  exact (stagesCommute_iff_of_placed hsettled.placed hsettled.unarmed).mp
    (h v hv { frameNumber := 1, trigger := "tick" }) e he hfires

end ViewedWorld

end BoostGateway.Battle
