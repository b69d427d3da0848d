import BoostGateway.Base.JsonRoundTrip
import BoostGateway.Battle.World
import BoostGateway.Realtime.InstanceRuntime

/-!
# The battle plugin

`BattleInstancePlugin` runs a battle world inside an instance : inputs go to
`battle_world_process_input`, a tick advances the world by one frame, and snapshots and the
settlement are JSON documents. The runtime gives no player to `on_player_join` or
`on_player_leave`, so these hooks are left out, and the exceptions that the hooks catch are
those of a text that is not UTF-8, which no text here is.

`battleEnds` says on the context before a tick whether the tick ends the battle.
-/

namespace BoostGateway.Battle

open Realtime

/-- `BattleInstancePlugin::State`. -/
structure PluginState where
  world : BattleWorld
  finishRequested : Bool := false

/-- The context of a battle; `plugin_state` is null until the instance is created. -/
abbrev BattleContext := InstanceContext (Option PluginState)

def mapToRealtime : BattleFinishReason → FinishReason
  | .kFinished => .kNormal
  | .kSurrender => .kAllPlayersDone
  | .kTimeout => .kTimeout
  | .kFrameLimitReached => .kFrameLimit
  | .kPlayerDisconnected => .kPlayerDisconnected
  | .kUserRequested => .kUserRequested

def mapToBattle : FinishReason → BattleFinishReason
  | .kNormal => .kFinished
  | .kAllPlayersDone => .kFinished
  | .kTimeout => .kTimeout
  | .kFrameLimit => .kFrameLimitReached
  | .kPlayerDisconnected => .kPlayerDisconnected
  | .kUserRequested => .kUserRequested
  | .kError => .kFinished

/-- A signed number as nlohmann holds it. -/
def intJson (n : ℤ) : Json := .integer (Int64.ofInt n)

def participantJson (e : ParticipantEntity) : Json := .ofMembers
  [("user_id", .string e.participant.userId),
   ("online", .bool e.participant.online),
   ("score", intJson e.participant.score),
   ("pos_x", intJson e.position.x),
   ("pos_y", intJson e.position.y),
   ("direction_x", intJson e.participant.facingDx),
   ("direction_y", intJson e.participant.facingDy),
   ("hp", intJson e.health.hp),
   ("max_hp", intJson e.health.maxHp)]

def projectileJson (q : ProjectileEntity) : Json := .ofMembers
  [("id", .string q.projectile.projectileId),
   ("owner", .string q.projectile.ownerUserId),
   ("x", intJson q.position.x),
   ("y", intJson q.position.y),
   ("dx", intJson q.projectile.dirX),
   ("dy", intJson q.projectile.dirY),
   ("active", .bool q.projectile.active)]

/-- The document of `battle_world_snapshot` : participants and active projectiles in the
order of their entities. -/
def snapshotDocument (w : BattleWorld) : Json := .ofMembers
  [("frame", .unsigned w.clock.frameNumber.toUInt64),
   ("trigger", .string w.clock.lastTrigger),
   ("participants", .array (w.sortedParticipants.map participantJson)),
   ("bullets", .array (((w.projectiles.filter (·.projectile.active)).insertionSort
      (·.id ≤ ·.id)).map projectileJson))]

def scoreJson (s : BattleScore) : Json :=
  .ofMembers [("user_id", .string s.userId), ("score", intJson s.score)]

def settlementDocument (summary : BattleResultSummary) : Json := .ofMembers <|
  [("type", Json.string "battle.settlement"),
   ("battle_id", .string summary.battleId),
   ("room_id", .string summary.roomId),
   ("total_frames", .unsigned summary.totalFrames.toUInt64),
   ("reason", .string summary.reason.toString)] ++
  (summary.winnerUserId.map fun user => ("winner_user_id", Json.string user)).toList ++
  [("scores", Json.array (summary.scores.map scoreJson))]

/-- `j.dump()`. -/
def dumpText (lib : Libraries) (j : Json) : String :=
  String.ofList (Json.dump lib.floatText none 0 j)

/-- The settlement of a world. -/
def settlementOf (w : BattleWorld) (instanceId roomId : String) (settlement : SettlementContext) :
    Json :=
  settlementDocument (w.buildResultSummary instanceId roomId w.participantStates
    (mapToBattle settlement.reason) settlement.totalFrames)

namespace BattleInstancePlugin

def onInstanceCreated (lib : Libraries) (ctx : BattleContext) : BattleContext :=
  let world := createBattleWorld lib ctx.instanceId ctx.roomId (ctx.players.map (·.userId))
    ctx.maxFrames
  { ctx with pluginState := some { world := world } }

def onInput (state : PluginState) (input : InputEnvelope) : PluginState × InputResult :=
  let (world, result) := state.world.processInput input.userId input.payload 0 0
  ({ state with world := world },
    if result.accepted then { accepted := true, ackSeq := result.inputSeq }
    else { rejectReason := result.rejectReason })

def onTick (state : PluginState) (frame : FrameContext) : PluginState × TickStats :=
  let trigger := match frame.inputsThisTick with
    | [] => "tick"
    | input :: _ => "input:" ++ input.userId
  let (world, result) := state.world.advanceFrame frame.frameNumber trigger
  let lifecycleFinished : Bool := world.lifecycle = .kFinished
  let stats : TickStats :=
    { frameNumber := result.frameNumber
      inputsProcessed := .ofNat frame.inputsThisTick.length
      pushesSent := 0 }
  if result.shouldFinish ∨ lifecycleFinished ∨ state.finishRequested then
    let reason := if state.finishRequested then .kUserRequested
      else if result.shouldFinish then mapToRealtime result.finishReason
      else .kNormal
    ({ world := if lifecycleFinished then world else world.setLifecycle .kFinished
       finishRequested := false },
      { stats with shouldFinish := true, finishReason := reason })
  else ({ world := world, finishRequested := false }, stats)

def buildSnapshot (state : PluginState) (isResume : Bool) : Snapshot where
  payloadType := "battle.snapshot"
  payload := dumpText state.world.lib (snapshotDocument state.world)
  isFull := true
  isResume := isResume

def buildSettlement (ctx : BattleContext) (state : PluginState) (settlement : SettlementContext) :
    String :=
  dumpText state.world.lib (settlementOf state.world ctx.instanceId ctx.roomId settlement)

end BattleInstancePlugin

/-- A hook that works on the state behind `plugin_state`. -/
def withState {α : Type} (ctx : BattleContext) (f : PluginState → PluginState × α) :
    BattleContext × Option α :=
  match ctx.pluginState with
  | none => (ctx, none)
  | some state => ({ ctx with pluginState := some (f state).1 }, some (f state).2)

open BattleInstancePlugin in
def battleInstancePlugin (lib : Libraries) : InstancePlugin (Option PluginState) where
  onInstanceCreated ctx := some (onInstanceCreated lib ctx)
  onInput ctx input := withState ctx fun state => onInput state input
  onTick ctx frame := withState ctx fun state => onTick state frame
  buildSnapshot ctx := withState ctx fun state => (state, buildSnapshot state false)
  buildSettlement ctx settlement :=
    withState ctx fun state => (state, buildSettlement ctx state settlement)
  buildResumeSnapshot ctx _ := withState ctx fun state => (state, buildSnapshot state true)

/-! ## The end of a battle -/

/-- A tick with this frame number ends the battle : the frame limit is reached, or the
world has ended or times out. -/
def battleEnds (ctx : BattleContext) (frameNumber : UInt32) : Bool :=
  (0 < ctx.maxFrames ∧ ctx.maxFrames ≤ frameNumber) ∨
    ctx.pluginState.all fun state =>
      state.world.shouldFinishForFrameLimit frameNumber ∨ state.world.lifecycle = .kFinished ∨
        state.world.timesOut ∨ state.finishRequested

theorem maxFrames_tick (w : BattleWorld) (frameNumber : UInt32) (trigger : String) :
    (w.tick frameNumber trigger).metadata.maxFrames = w.metadata.maxFrames := by
  have htick : (w.tick frameNumber trigger).metadata.maxFrames =
      ((w.runClock frameNumber trigger).runInput.runMovement).runLifecycle.metadata.maxFrames := rfl
  rw [htick]
  unfold BattleWorld.runLifecycle
  dsimp only
  split
  · rfl
  · rfl
  · split_ifs <;> rfl

/-- What `on_tick` says about the end. -/
theorem shouldFinish_onTick (state : PluginState) (frame : FrameContext) :
    (BattleInstancePlugin.onTick state frame).2.shouldFinish = true ↔
      state.world.shouldFinishForFrameLimit frame.frameNumber ∨
        state.world.lifecycle = .kFinished ∨ state.world.timesOut ∨ state.finishRequested := by
  unfold BattleInstancePlugin.onTick
  dsimp only
  generalize (match frame.inputsThisTick with
    | [] => "tick"
    | input :: _ => "input:" ++ input.userId) = trigger
  have hlimit : (state.world.advanceFrame frame.frameNumber trigger).2.shouldFinish = true ↔
      state.world.shouldFinishForFrameLimit frame.frameNumber := by
    have hclock : (state.world.tick frame.frameNumber trigger).clock.frameNumber =
        frame.frameNumber := by rw [BattleWorld.clock_tick]
    simp only [BattleWorld.advanceFrame, hclock, BattleWorld.shouldFinishForFrameLimit,
      BattleWorld.applyTriggerToFrame, maxFrames_tick]
    split_ifs <;> simp_all
  have hlife : (state.world.advanceFrame frame.frameNumber trigger).1.lifecycle = .kFinished ↔
      state.world.lifecycle = .kFinished ∨ state.world.timesOut := by
    have hkeep : (state.world.advanceFrame frame.frameNumber trigger).1.lifecycle =
        (state.world.tick frame.frameNumber trigger).lifecycle := rfl
    rw [hkeep, BattleWorld.lifecycle_tick]
    split_ifs <;> simp_all
  simp only [hlimit, hlife, decide_eq_true_eq, or_assoc]
  split_ifs <;> simp_all

theorem frameNumber_onTick (state : PluginState) (frame : FrameContext) :
    (BattleInstancePlugin.onTick state frame).2.frameNumber = frame.frameNumber := by
  unfold BattleInstancePlugin.onTick
  dsimp only
  split_ifs <;> exact BattleWorld.frameNumber_advanceFrame _ _ _

section

variable {α : Type} (ctx : BattleContext) (f : PluginState → PluginState × α)

@[simp] theorem isSome_pluginState_withState :
    (withState ctx f).1.pluginState.isSome = ctx.pluginState.isSome := by
  unfold withState
  split <;> simp_all

end

open InstanceRuntime (advance runFrame finished settle settlementContext)

/-- A tick of a battle reports its frame, and whether it ended the battle. -/
theorem advance_battle (lib : Libraries) (ctx : BattleContext) (frame : FrameContext) :
    (advance (battleInstancePlugin lib) ctx frame).2.frameNumber = frame.frameNumber ∧
      (advance (battleInstancePlugin lib) ctx frame).2.shouldFinish =
        battleEnds ctx frame.frameNumber := by
  unfold advance battleEnds
  dsimp only [battleInstancePlugin, withState]
  cases ctx.pluginState with
  | none => simp
  | some state =>
    have hframe := frameNumber_onTick state frame
    have hfinish := shouldFinish_onTick state frame
    dsimp only [Option.getD_some]
    split_ifs with hlimit
    · exact ⟨hframe, by simp [hlimit.1, hlimit.2.1]⟩
    · refine ⟨hframe, ?_⟩
      rw [Bool.eq_iff_iff, hfinish]
      cases hstats : (BattleInstancePlugin.onTick state frame).2.shouldFinish <;> simp_all

/-- The instance is a battle : it has the battle plugin, which has its state. -/
structure IsBattle (lib : Libraries) (inst : InternalInstance (Option PluginState)) : Prop where
  plugin : inst.plugin = battleInstancePlugin lib
  ready : inst.ctx.pluginState.isSome

variable {lib : Libraries} {inst : InternalInstance (Option PluginState)}

theorem IsBattle.runFrame (h : IsBattle lib inst) (movedFrom : String → String) (id : String)
    (frameNumber : UInt32) (tickStartMs : ℤ) :
    IsBattle lib (runFrame movedFrom id inst frameNumber tickStartMs).1 := by
  refine ⟨h.plugin, InstanceRuntime.ctx_runFrame (P := fun ctx : BattleContext => ctx.pluginState.isSome)
    ?_ ?_ ?_ h.ready movedFrom id frameNumber tickStartMs⟩
  all_goals
    rw [h.plugin]
    intros
    simpa [battleInstancePlugin] using ‹_›

theorem IsBattle.finished (h : IsBattle lib inst) (id : String) (reason : FinishReason) :
    IsBattle lib (finished id inst reason).1 := by
  refine ⟨h.plugin, ?_⟩
  have hready := h.ready
  simpa [InstanceRuntime.finished, settle, h.plugin, battleInstancePlugin] using hready

theorem frameNumber_runFrame (h : IsBattle lib inst) (movedFrom : String → String) (id : String)
    (frameNumber : UInt32) (tickStartMs : ℤ) :
    (runFrame movedFrom id inst frameNumber tickStartMs).2.1.frameNumber = frameNumber := by
  simp only [InstanceRuntime.runFrame, h.plugin, (advance_battle lib _ _).1]

theorem shouldFinish_runFrame (h : IsBattle lib inst) (hqueue : inst.inputQueue = [])
    (movedFrom : String → String) (id : String) (frameNumber : UInt32) (tickStartMs : ℤ) :
    (runFrame movedFrom id inst frameNumber tickStartMs).2.1.shouldFinish =
      battleEnds inst.ctx frameNumber := by
  simp only [InstanceRuntime.runFrame, h.plugin, (advance_battle lib _ _).2, hqueue,
    InstanceRuntime.drain]

/-! ## A running battle -/

/-- The world of the battle runs, so it takes inputs. -/
def worldRuns (ctx : BattleContext) : Bool :=
  ctx.pluginState.any fun state => state.world.lifecycle = .kRunning

theorem lifecycle_onTick {state : PluginState} {frame : FrameContext}
    (h : (BattleInstancePlugin.onTick state frame).2.shouldFinish = false) :
    (BattleInstancePlugin.onTick state frame).1.world.lifecycle = .kRunning := by
  have hgoes : ¬((BattleInstancePlugin.onTick state frame).2.shouldFinish = true) := by simp [h]
  rw [shouldFinish_onTick] at hgoes
  simp only [not_or] at hgoes
  obtain ⟨hlimit, hlife, htimes, hrequested⟩ := hgoes
  unfold BattleInstancePlugin.onTick at h ⊢
  dsimp only at h ⊢
  generalize (match frame.inputsThisTick with
    | [] => "tick"
    | input :: _ => "input:" ++ input.userId) = trigger at h ⊢
  have hkeep : (state.world.advanceFrame frame.frameNumber trigger).1.lifecycle = .kRunning := by
    have htick : (state.world.advanceFrame frame.frameNumber trigger).1.lifecycle =
        (state.world.tick frame.frameNumber trigger).lifecycle := rfl
    rw [htick, BattleWorld.lifecycle_tick, if_neg (by simp [hlife, htimes])]
  split_ifs at h ⊢ with hfinish
  exact hkeep

/-- A tick that does not end the battle leaves its world running. -/
theorem worldRuns_advance {lib : Libraries} {ctx : BattleContext} {frame : FrameContext}
    (h : (advance (battleInstancePlugin lib) ctx frame).2.shouldFinish = false) :
    worldRuns (advance (battleInstancePlugin lib) ctx frame).1 := by
  unfold advance at h ⊢
  dsimp only [battleInstancePlugin, withState] at h ⊢
  cases hstate : ctx.pluginState with
  | none => simp [hstate] at h
  | some state =>
    simp only [hstate, Option.getD_some] at h ⊢
    split_ifs at h ⊢
    have hrun := lifecycle_onTick h
    simp [worldRuns, hrun]

theorem worldRuns_runFrame (h : IsBattle lib inst) {movedFrom : String → String} {id : String}
    {frameNumber : UInt32} {tickStartMs : ℤ}
    (hgoes : (runFrame movedFrom id inst frameNumber tickStartMs).2.1.shouldFinish = false) :
    worldRuns (runFrame movedFrom id inst frameNumber tickStartMs).1.ctx := by
  simp only [InstanceRuntime.runFrame, h.plugin] at hgoes ⊢
  have hrun := worldRuns_advance hgoes
  generalize (advance (battleInstancePlugin lib) _ _).1 = ctx at hrun ⊢
  simp only [InstanceRuntime.takeSnapshot, battleInstancePlugin, withState]
  cases hstate : ctx.pluginState with
  | none => simp [worldRuns, hstate] at hrun
  | some state => simpa [worldRuns, hstate] using hrun

/-- A running world accepts every input. -/
theorem accepted_onInput (lib : Libraries) {ctx : BattleContext} (h : worldRuns ctx)
    (input : InputEnvelope) :
    ∃ result, ((battleInstancePlugin lib).onInput ctx input).2 = some result ∧ result.accepted := by
  cases hstate : ctx.pluginState with
  | none => simp [worldRuns, hstate] at h
  | some state =>
    have hrun : state.world.lifecycle = .kRunning := by simpa [worldRuns, hstate] using h
    refine ⟨(BattleInstancePlugin.onInput state input).2,
      by simp only [battleInstancePlugin, withState, hstate], ?_⟩
    simp [BattleInstancePlugin.onInput, BattleWorld.processInput, hrun,
      BattleWorld.shouldAcceptInput]

/-! ## The settlement as text -/

/-- `nlohmann::json::parse(text, nullptr, false)`. -/
def parseDocument (text : String) : Option Json := Json.parse true (encodeUtf8 text.toList)

theorem plain_settlementDocument (summary : BattleResultSummary) :
    (settlementDocument summary).Plain := by
  refine Json.plain_ofMembers ?_
  have hscores : Json.PlainElems (summary.scores.map scoreJson) := by
    refine Json.plainElems_of_forall fun x hx => ?_
    obtain ⟨score, -, rfl⟩ := List.mem_map.mp hx
    exact Json.plain_ofMembers (by simp [Json.Plain, intJson])
  cases summary.winnerUserId <;> simp [Json.Plain, hscores]

/-- A document without floats is read back from its text. -/
theorem parseDocument_dumpText (lib : Libraries) {j : Json} (h : j.Plain) :
    parseDocument (dumpText lib j) = some j.asRead := by
  rw [parseDocument, dumpText, String.toList_ofList]
  exact Json.parse_dump h true 0

end BoostGateway.Battle
