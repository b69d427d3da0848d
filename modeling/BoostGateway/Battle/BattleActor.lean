import BoostGateway.Battle.World
import BoostGateway.Runtime.ActorSystem

/-!
# The battle actor

`BattleActor` (`battle_actor.cpp`) owns one battle world. It validates inputs
(`input_validator.h`), advances the world on ticks, gives a disconnected player a grace
period, and reports to a sink. `finishBattle` sends the settlement and the end of a battle,
and does nothing when the lifecycle already says that the battle is finished.

A tick can set that flag by itself, when a limit of idle or offline frames is reached
(`BattleWorld.timesOut`), and the actor looks only at the limit of frames afterwards. And the
sink may raise : the runtime archives the settlement before it goes on, and the dump of the
archive raises on a text that is not UTF-8, so that the end of the battle is not sent any more.
So a battle is settled exactly when no such tick is handled and no settlement makes the sink
raise (`BattleActor.settled_iff`).
-/

namespace BoostGateway.Battle

open BoostGateway.Runtime

/-! ## Input validation -/

/-- What `InputValidator` finds in an input. -/
structure InputValidationResult where
  valid : Bool := false
  error : String := ""
  targetX : ℤ := 0
  targetY : ℤ := 0
  attackTarget : String := ""
  finishReason : String := ""

/-- The part of the configuration that `validate` reads. -/
structure InputValidatorConfig where
  minPos : ℤ := 0
  maxPos : ℤ := 1000
  maxMoveDelta : ℤ := 200

namespace InputValidatorConfig

variable (c : InputValidatorConfig)

/-- `is_move_within_bounds`. -/
def isMoveWithinBounds (fromX fromY toX toY : ℤ) : Bool :=
  |toX - fromX| + |toY - fromY| ≤ c.maxMoveDelta

/-- The branch of `validate` for the text after `move:`. -/
def validateMove (coords : List Char) (currentX currentY : ℤ) : InputValidationResult :=
  match splitComma coords with
  | none => { error := "invalid_move_format" }
  | some (xText, yText) =>
    if xText = [] ∨ yText = [] then { error := "invalid_move_format" }
    else if (strtol xText).2 ≠ [] then { error := "invalid_move_coord_x" }
    else if (strtol yText).2 ≠ [] then { error := "invalid_move_coord_y" }
    else
      let x := (strtol xText).1
      let y := (strtol yText).1
      if x < c.minPos ∨ c.maxPos < x ∨ y < c.minPos ∨ c.maxPos < y then
        { error := "move_out_of_bounds" }
      else if c.isMoveWithinBounds currentX currentY (toInt32 x) (toInt32 y) = false then
        { error := "move_too_fast" }
      else { valid := true, targetX := toInt32 x, targetY := toInt32 y }

/-- `InputValidator::validate`. -/
def validate (inputData : String) (currentX currentY : ℤ) : InputValidationResult :=
  let input := inputData.toList
  if input = [] then { error := "empty_input" }
  else match after "move:" input with
    | some coords => c.validateMove coords currentX currentY
    | none =>
      match after "attack:" input with
      | some target =>
        if target = [] then { error := "invalid_attack_target" }
        else { valid := true, attackTarget := String.ofList target }
      | none =>
        match after "finish:" input with
        | some reason =>
          if reason = [] then { error := "invalid_finish_reason" }
          else { valid := true, finishReason := String.ofList reason }
        | none => { error := "unknown_input_type" }

end InputValidatorConfig

/-! ## Messages -/

/-- The message that creates the battle. -/
structure CreateBattleMsg where
  battleId : String
  roomId : String
  playerIds : List String
  maxFrames : UInt32 := 0

/-- An input of a player. -/
structure SubmitBattleInputMsg where
  userId : String
  requestId : UInt32 := 0
  inputData : String
  score : ℤ := 0
  submittedFrame : UInt32 := 0

/-- A player has a frame. -/
structure FrameAckMsg where
  userId : String
  frameNumber : UInt32 := 0

/-- The payloads the actor reads; `other` is one of another actor's. The number in an
expiry is not in the source : it tells the grace periods apart, and nothing reads it. -/
inductive MessagePayload
  | createBattle (msg : CreateBattleMsg)
  | submitBattleInput (msg : SubmitBattleInputMsg)
  | tickBattle (trigger : String)
  | endBattle (reason : BattleFinishReason) (triggeringUserId : String)
  | frameAck (msg : FrameAckMsg)
  | playerDisconnected (userId : String)
  | playerReconnected (userId : String)
  | disconnectGraceTimerExpired (userId : String) (period : ℕ)
  | other

/-- The settlement, for the gateway. -/
structure BattleSettlementPreparedMsg where
  battleId : String
  roomId : String
  reason : BattleFinishReason
  triggeringUserId : String
  totalFrames : UInt32
  participantUserIds : List String
  replayInputs : List BattleReplayInputRecord
  result : BattleResultSummary

/-- What the actor tells. -/
inductive BattleEvent
  | battleCreated (battleId roomId : String) (playerIds : List String)
  | battleInputAccepted (battleId roomId userId : String) (inputSeq : UInt64) (requestId : UInt32)
      (inputData : String)
  | battleFrameAdvanced (battleId roomId : String) (frameNumber : UInt32) (trigger : String)
  | battleSettlementPrepared (msg : BattleSettlementPreparedMsg)
  | battleFinished (battleId roomId : String) (reason : BattleFinishReason)
      (triggeringUserId : String)
  | frameAck (msg : FrameAckMsg)

/-- What others see of the battle. -/
structure BattleRuntimeState where
  battleId : String := ""
  roomId : String := ""
  lifecycle : BattleLifecycleState := .kCreated
  participants : List BattleParticipantState := []
  frameNumber : UInt32 := 0
  replayInputs : List BattleReplayInputRecord := []

namespace BattleWorld

/-- `battle_world_runtime_state`. -/
def runtimeState (w : BattleWorld) : BattleRuntimeState where
  battleId := w.metadata.battleId
  roomId := w.metadata.roomId
  lifecycle := w.lifecycle
  participants := w.participantStates
  frameNumber := w.frameNumber
  replayInputs := w.replayLog.replayInputs

/-- Where a snapshot shows the first participant of the name. -/
def positionOf (w : BattleWorld) (userId : String) : PositionComponent :=
  ((w.sortedParticipants.find? fun e => e.participant.userId = userId).map (·.position)).getD {}

end BattleWorld

/-! ## The actor -/

/-- The actor of one battle. -/
structure BattleActor where
  lib : Libraries
  world : Option BattleWorld := none
  disconnectGraceTimers : String → Option ScheduleId := fun _ => none
  inputValidator : InputValidatorConfig := {}
  /-- Of `sink_` : the events whose `push` raises. -/
  raises : BattleEvent → Bool := fun _ => false
  /-- The number of grace periods started so far, for telling them apart. -/
  gracePeriods : ℕ := 0

/-- 15 seconds. -/
def kDisconnectGracePeriod : Duration := 15 * 10 ^ 9

/-- The actor, its system and what went to the sink after a message. -/
structure Outcome where
  actor : BattleActor
  system : ActorSystem MessagePayload
  events : List BattleEvent := []

namespace BattleActor

/-- `runtime_state`. -/
def runtimeState (a : BattleActor) : BattleRuntimeState :=
  match a.world with
  | none => {}
  | some w => w.runtimeState

/-- The lifecycle that others see. -/
def lifecycle (a : BattleActor) : BattleLifecycleState := a.runtimeState.lifecycle

variable (a : BattleActor)

/-- The actor whose battle has been set to finished. -/
def finished : BattleActor :=
  { a with world := a.world.map (·.setLifecycle .kFinished) }

/-- The settlement of a battle that has been set to finished. -/
def settlement (reason : BattleFinishReason) (triggeringUserId : String) :
    BattleSettlementPreparedMsg :=
  let finished := a.runtimeState
  let result : BattleResultSummary := match a.world with
    | some w => w.buildResultSummary finished.battleId finished.roomId finished.participants
        reason finished.frameNumber
    | none =>
      { battleId := finished.battleId
        roomId := finished.roomId
        reason := reason
        winnerUserId := none
        scores := []
        totalFrames := finished.frameNumber }
  { battleId := finished.battleId
    roomId := finished.roomId
    reason := reason
    triggeringUserId := triggeringUserId
    totalFrames := finished.frameNumber
    participantUserIds := finished.participants.map (·.userId)
    replayInputs := finished.replayInputs
    result := result }

/-- `finish_battle`. -/
def finishBattle (reason : BattleFinishReason) (triggeringUserId : String) :
    BattleActor × List BattleEvent :=
  if a.lifecycle = .kFinished then (a, [])
  else
    let a := a.finished
    let settlement := BattleEvent.battleSettlementPrepared (a.settlement reason triggeringUserId)
    (a, if a.raises settlement then [settlement]
      else [settlement, .battleFinished a.runtimeState.battleId a.runtimeState.roomId reason
        triggeringUserId])

/-- An input is handled. -/
def submitInput (input : SubmitBattleInputMsg) : BattleActor × List BattleEvent :=
  match a.world with
  | none => (a, [])
  | some w =>
    let pos := w.positionOf input.userId
    if (a.inputValidator.validate input.inputData pos.x pos.y).valid = false then (a, [])
    else
      let (w, result) :=
        w.processInput input.userId input.inputData input.score input.submittedFrame
      let a := { a with world := some w }
      (a, if result.accepted then
          [.battleInputAccepted a.runtimeState.battleId a.runtimeState.roomId input.userId
            result.inputSeq input.requestId input.inputData]
        else [])

/-- The frame of a tick, with its event. -/
def advance (w : BattleWorld) (trigger : String) :
    BattleActor × BattleWorldFrameResult × BattleEvent :=
  let (w, frame) := w.advanceFrame (a.runtimeState.frameNumber + 1) trigger
  let a := { a with world := some w }
  (a, frame, .battleFrameAdvanced a.runtimeState.battleId a.runtimeState.roomId frame.frameNumber
    trigger)

/-- A tick is handled. -/
def tick (trigger : String) : BattleActor × List BattleEvent :=
  match a.world with
  | none => (a, [])
  | some w =>
    let (a, frame, advanced) := a.advance w trigger
    if a.raises advanced then (a, [advanced])
    else if frame.shouldFinish then
      let (a, events) := a.finishBattle frame.finishReason trigger
      (a, advanced :: events)
    else (a, [advanced])

/-- The message that ends the battle. -/
def endBattle (reason : BattleFinishReason) (triggeringUserId : String) :
    BattleActor × List BattleEvent :=
  if a.lifecycle = .kRunning then a.finishBattle reason triggeringUserId else (a, [])

/-- A player is gone; the time of grace starts. -/
def disconnect (self : ActorId) (now : TimePoint)
    (sys : ActorSystem MessagePayload) (userId : String) : Outcome :=
  match a.world with
  | none => { actor := a, system := sys }
  | some w =>
    let a := { a with world := some (w.handleDisconnect userId) }
    if (a.disconnectGraceTimers userId).isSome then { actor := a, system := sys }
    else
      let expiry : Message MessagePayload :=
        { targetActor := self
          payload := .disconnectGraceTimerExpired userId a.gracePeriods }
      let (sys, scheduleId) := sys.scheduleAfter now expiry kDisconnectGracePeriod
      { actor := { a with
          disconnectGraceTimers :=
            Function.update a.disconnectGraceTimers userId (some scheduleId)
          gracePeriods := a.gracePeriods + 1 }
        system := sys }

/-- `Actor::cancel_schedule`, which takes 0 for no schedule. -/
def cancelSchedule (sys : ActorSystem MessagePayload) (scheduleId : ScheduleId) :
    ActorSystem MessagePayload :=
  if scheduleId = 0 then sys else sys.cancelSchedule scheduleId

/-- A player is back. -/
def reconnect (sys : ActorSystem MessagePayload) (userId : String) : Outcome :=
  match a.world with
  | none => { actor := a, system := sys }
  | some w =>
    let online := { a with world := some (w.setOnline userId) }
    match a.disconnectGraceTimers userId with
    | none => { actor := online, system := sys }
    | some scheduleId =>
      { actor := { online with
          disconnectGraceTimers := Function.update a.disconnectGraceTimers userId none }
        system := cancelSchedule sys scheduleId }

/-- The time of grace is over. -/
def graceExpired (userId : String) : BattleActor × List BattleEvent :=
  let a := { a with disconnectGraceTimers := Function.update a.disconnectGraceTimers userId none }
  if a.world.isSome ∧ a.lifecycle = .kRunning then a.finishBattle .kPlayerDisconnected userId
  else (a, [])

/-- `on_message`. -/
def onMessage (self : ActorId) (now : TimePoint)
    (sys : ActorSystem MessagePayload) : MessagePayload → Outcome
  | .createBattle msg =>
    { actor := { a with
        world := some (createBattleWorld a.lib msg.battleId msg.roomId msg.playerIds msg.maxFrames) }
      system := sys
      events := [.battleCreated msg.battleId msg.roomId msg.playerIds] }
  | .submitBattleInput msg => ⟨(a.submitInput msg).1, sys, (a.submitInput msg).2⟩
  | .tickBattle trigger => ⟨(a.tick trigger).1, sys, (a.tick trigger).2⟩
  | .endBattle reason userId => ⟨(a.endBattle reason userId).1, sys, (a.endBattle reason userId).2⟩
  | .frameAck msg =>
    { actor := { a with world := a.world.map (·.recordFrameAck msg.userId msg.frameNumber) }
      system := sys
      events := [.frameAck msg] }
  | .playerDisconnected userId => a.disconnect self now sys userId
  | .playerReconnected userId => a.reconnect sys userId
  | .disconnectGraceTimerExpired userId _ =>
    ⟨(a.graceExpired userId).1, sys, (a.graceExpired userId).2⟩
  | .other => { actor := a, system := sys }

end BattleActor

/-! ## Settlement -/

/-- A message that reaches the actor, with the clock and the system it finds. -/
structure Delivery where
  payload : MessagePayload
  now : TimePoint := 0
  system : ActorSystem MessagePayload := {}

/-- The message creates the battle. -/
def MessagePayload.isCreate : MessagePayload → Bool
  | .createBattle _ => true
  | _ => false

/-- The event is the settlement of the battle. -/
def BattleEvent.isSettlementOf (battleId : String) : BattleEvent → Bool
  | .battleSettlementPrepared msg => msg.battleId = battleId
  | _ => false

/-- The event is the end of the battle. -/
def BattleEvent.isFinishedOf (battleId : String) : BattleEvent → Bool
  | .battleFinished id _ _ _ => id = battleId
  | _ => false

/-- The battle is settled `n` times and reported finished `n` times in the events. -/
def Reported (battleId : String) (n : ℕ) (events : List BattleEvent) : Prop :=
  events.countP (·.isSettlementOf battleId) = n ∧ events.countP (·.isFinishedOf battleId) = n

theorem Reported.append {battleId : String} {n m : ℕ} {es es' : List BattleEvent}
    (h : Reported battleId n es) (h' : Reported battleId m es') :
    Reported battleId (n + m) (es ++ es') := by
  unfold Reported
  rw [List.countP_append, List.countP_append, h.1, h.2, h'.1, h'.2]
  exact ⟨rfl, rfl⟩

namespace BattleWorld

variable (w : BattleWorld)

theorem battleId_runLifecycle : w.runLifecycle.metadata.battleId = w.metadata.battleId := by
  unfold runLifecycle
  dsimp only
  split
  · rfl
  · rfl
  · split_ifs <;> rfl

theorem battleId_tick (frameNumber : UInt32) (trigger : String) :
    (w.tick frameNumber trigger).metadata.battleId = w.metadata.battleId :=
  battleId_runLifecycle _

theorem battleId_processInput (userId inputData : String) (score : ℤ)
    (submittedFrame : UInt32) : (w.processInput userId inputData score submittedFrame).1.metadata.battleId
      = w.metadata.battleId := by
  unfold processInput
  split_ifs <;> rfl

theorem lifecycle_processInput (userId inputData : String) (score : ℤ) (submittedFrame : UInt32) :
    (w.processInput userId inputData score submittedFrame).1.lifecycle = w.lifecycle := by
  unfold processInput
  split_ifs <;> rfl

theorem metadata_handleDisconnect (userId : String) :
    (w.handleDisconnect userId).metadata = w.metadata := by
  unfold handleDisconnect
  split_ifs <;> rfl

end BattleWorld

namespace BattleActor

/-- The actor and the events after a sequence of messages. -/
def handleAll (self : ActorId) : BattleActor → List Delivery → BattleActor × List BattleEvent
  | a, [] => (a, [])
  | a, d :: ds =>
    let outcome := a.onMessage self d.now d.system d.payload
    let (a, events) := handleAll self outcome.actor ds
    (a, outcome.events ++ events)

/-- The sink raises at the settlement of the battle. -/
def settlementRaises (a : BattleActor) (reason : BattleFinishReason) (triggeringUserId : String) :
    Bool :=
  a.raises (.battleSettlementPrepared (a.finished.settlement reason triggeringUserId))

/-- A tick that goes to the limit of frames, and whose settlement makes the sink raise. -/
def tickRaises (a : BattleActor) (trigger : String) : Bool :=
  a.world.any fun w =>
    let (a, frame, advanced) := a.advance w trigger
    !a.raises advanced && frame.shouldFinish && a.settlementRaises frame.finishReason trigger

/-- The message ends a running battle without `BattleFinishedMsg` : a tick finds a limit of
idle or offline frames reached, or the battle is settled and the sink raises. -/
def endsSilently (a : BattleActor) : MessagePayload → Bool
  | .tickBattle trigger =>
    a.lifecycle ≠ .kFinished && (a.world.any (·.timesOut) || a.tickRaises trigger)
  | .endBattle reason userId => a.lifecycle = .kRunning && a.settlementRaises reason userId
  | .disconnectGraceTimerExpired userId _ =>
    a.lifecycle = .kRunning && a.settlementRaises .kPlayerDisconnected userId
  | _ => false

/-- None of the messages does so when it is handled. -/
def NeverSilent (self : ActorId) : BattleActor → List Delivery → Prop
  | _, [] => True
  | a, d :: ds => a.endsSilently d.payload = false ∧
    NeverSilent self (a.onMessage self d.now d.system d.payload).actor ds

/-- A battle that is finished has been settled once and reported finished once. -/
def IsSettled (battleId : String) (a : BattleActor) (events : List BattleEvent) : Prop :=
  a.lifecycle = .kFinished → Reported battleId 1 events

/-- The actor has a battle of the name in the lifecycle state. -/
def Holds (battleId : String) (lifecycle : BattleLifecycleState) (a : BattleActor) : Prop :=
  ∃ w, a.world = some w ∧ w.metadata.battleId = battleId ∧ w.lifecycle = lifecycle

variable {battleId : String} {l : BattleLifecycleState} {a : BattleActor}

theorem Holds.lifecycle_eq (h : Holds battleId l a) : a.lifecycle = l := by
  obtain ⟨w, hw, -, hl⟩ := h
  unfold BattleActor.lifecycle runtimeState
  rw [hw]
  exact hl

theorem Holds.congr {a' : BattleActor} (h : Holds battleId l a) (hw : a'.world = a.world) :
    Holds battleId l a' := by
  unfold Holds
  rwa [hw]

/-- The settlement names the battle. -/
theorem battleId_settlement (h : Holds battleId l a) (reason : BattleFinishReason)
    (userId : String) : (a.settlement reason userId).battleId = battleId ∧
      a.runtimeState.battleId = battleId := by
  obtain ⟨w, hw, hid, -⟩ := h
  simp [settlement, runtimeState, BattleWorld.runtimeState, hw, hid]

theorem holds_finished (h : Holds battleId l a) : Holds battleId .kFinished a.finished := by
  obtain ⟨w, hw, hid, -⟩ := h
  exact ⟨w.setLifecycle .kFinished, by simp [finished, hw], hid, rfl⟩

/-- Finishing settles a battle that is not finished, and reports it if the sink does not raise. -/
theorem finishBattle_spec (h : Holds battleId l a) (hl : l ≠ .kFinished)
    (reason : BattleFinishReason) (userId : String) :
    let r := a.finishBattle reason userId
    Holds battleId .kFinished r.1 ∧
      if a.settlementRaises reason userId then r.2.countP (·.isFinishedOf battleId) = 0
      else Reported battleId 1 r.2 := by
  have hfin := holds_finished h
  obtain ⟨hname, hstate⟩ := battleId_settlement hfin reason userId
  dsimp only
  unfold finishBattle settlementRaises
  rw [h.lifecycle_eq, if_neg hl]
  refine ⟨hfin, ?_⟩
  change if a.raises (.battleSettlementPrepared (a.finished.settlement reason userId)) = true then
    List.countP _ (ite (a.raises _ = true) _ _) = 0 else Reported battleId 1 (ite (a.raises _ = true) _ _)
  split_ifs
  · rfl
  · simp [Reported, BattleEvent.isSettlementOf, BattleEvent.isFinishedOf, hname, hstate]

/-- Nothing is sent for a battle that is finished. -/
theorem finishBattle_of_finished (h : Holds battleId .kFinished a) (reason : BattleFinishReason)
    (userId : String) : a.finishBattle reason userId = (a, []) := by
  unfold finishBattle
  rw [if_pos h.lifecycle_eq]

theorem submitInput_spec (h : Holds battleId l a) (input : SubmitBattleInputMsg) :
    Holds battleId l (a.submitInput input).1 ∧ Reported battleId 0 (a.submitInput input).2 := by
  obtain ⟨w, hw, hid, hl⟩ := h
  unfold submitInput
  rw [hw]
  dsimp only
  split_ifs
  · exact ⟨⟨w, hw, hid, hl⟩, rfl, rfl⟩
  · exact ⟨⟨_, rfl, (w.battleId_processInput ..).trans hid, (w.lifecycle_processInput ..).trans hl⟩,
      rfl, rfl⟩
  · exact ⟨⟨_, rfl, (w.battleId_processInput ..).trans hid, (w.lifecycle_processInput ..).trans hl⟩,
      rfl, rfl⟩

/-- What `battle_world_advance_frame` makes of the lifecycle. -/
theorem advance_spec {w : BattleWorld} (hid : w.metadata.battleId = battleId) (trigger : String) :
    Holds battleId (if w.lifecycle = .kFinished ∨ w.timesOut then .kFinished else .kRunning)
        (a.advance w trigger).1 ∧
      Reported battleId 0 [(a.advance w trigger).2.2] :=
  ⟨⟨_, rfl, (w.battleId_tick _ trigger).trans hid, w.lifecycle_tick _ trigger⟩, rfl, rfl⟩

/-- What a message does to a running battle : it goes on, or it is settled, or it ends without
being reported. -/
def Handles (battleId : String) (silent : Bool) (a : BattleActor) (events : List BattleEvent) :
    Prop :=
  if silent then Holds battleId .kFinished a ∧ events.countP (·.isFinishedOf battleId) = 0
  else Holds battleId .kRunning a ∧ Reported battleId 0 events ∨
    Holds battleId .kFinished a ∧ Reported battleId 1 events

theorem handles_finishBattle (h : Holds battleId .kRunning a) (reason : BattleFinishReason)
    (userId : String) : Handles battleId (a.settlementRaises reason userId)
      (a.finishBattle reason userId).1 (a.finishBattle reason userId).2 := by
  obtain ⟨hholds, hevents⟩ := finishBattle_spec h (by decide) reason userId
  unfold Handles
  split_ifs with hraise
  · rw [if_pos hraise] at hevents
    exact ⟨hholds, hevents⟩
  · rw [if_neg hraise] at hevents
    exact .inr ⟨hholds, hevents⟩

/-- An event before the others that is neither a settlement nor the end. -/
theorem Handles.cons {silent : Bool} {events : List BattleEvent} (h : Handles battleId silent a events)
    {e : BattleEvent} (he : Reported battleId 0 [e]) : Handles battleId silent a (e :: events) := by
  unfold Handles at h ⊢
  split_ifs with hs
  · rw [if_pos hs] at h
    refine ⟨h.1, ?_⟩
    rw [← List.singleton_append, List.countP_append, he.2, h.2]
  · rw [if_neg hs] at h
    exact h.imp (fun h => ⟨h.1, he.append h.2⟩) fun h => ⟨h.1, he.append h.2⟩

/-- A tick that reaches a limit ends the battle without a word. Another one keeps the battle
running or settles it. -/
theorem tick_spec (h : Holds battleId .kRunning a) (trigger : String) :
    Handles battleId (a.endsSilently (.tickBattle trigger)) (a.tick trigger).1
      (a.tick trigger).2 := by
  have hrunning := h.lifecycle_eq
  obtain ⟨w, hw, hid, hlife⟩ := h
  obtain ⟨hadv, hadvanced⟩ := advance_spec (a := a) hid trigger
  simp only [hlife, reduceCtorEq, false_or] at hadv
  unfold tick endsSilently tickRaises
  simp only [hw, hrunning, Option.any_some]
  generalize a.advance w trigger = r at hadv hadvanced ⊢
  obtain ⟨b, frame, advanced⟩ := r
  dsimp only at hadv hadvanced ⊢
  by_cases hout : w.timesOut
  · rw [if_pos hout] at hadv
    rw [finishBattle_of_finished hadv]
    simp only [hout, ite_self, Handles]
    exact ⟨hadv, hadvanced.2⟩
  · rw [if_neg hout] at hadv
    rw [Bool.not_eq_true] at hout
    by_cases hraise : b.raises advanced
    · simpa [hout, hraise, Handles] using .inl ⟨hadv, hadvanced⟩
    · by_cases hfinish : frame.shouldFinish
      · simpa [hout, hraise, hfinish] using
          (handles_finishBattle hadv frame.finishReason trigger).cons hadvanced
      · simpa [hout, hraise, hfinish, Handles] using .inl ⟨hadv, hadvanced⟩

/-- A finished battle goes on as it is. -/
theorem tick_finished (h : Holds battleId .kFinished a) (trigger : String) :
    Holds battleId .kFinished (a.tick trigger).1 ∧ Reported battleId 0 (a.tick trigger).2 := by
  obtain ⟨w, hw, hid, hlife⟩ := h
  obtain ⟨hadv, hadvanced⟩ := advance_spec (a := a) hid trigger
  rw [if_pos (.inl hlife)] at hadv
  unfold tick
  rw [hw]
  dsimp only
  rw [finishBattle_of_finished hadv]
  simp only [ite_self]
  exact ⟨hadv, hadvanced⟩

theorem endBattle_spec (h : Holds battleId .kRunning a) (reason : BattleFinishReason)
    (userId : String) :
    Handles battleId (a.endsSilently (.endBattle reason userId)) (a.endBattle reason userId).1
      (a.endBattle reason userId).2 := by
  unfold endBattle endsSilently
  rw [if_pos h.lifecycle_eq, h.lifecycle_eq]
  exact handles_finishBattle h reason userId

theorem graceExpired_spec (h : Holds battleId .kRunning a) (userId : String) (period : ℕ) :
    Handles battleId (a.endsSilently (.disconnectGraceTimerExpired userId period))
      (a.graceExpired userId).1 (a.graceExpired userId).2 := by
  have h' : Holds battleId .kRunning
      { a with disconnectGraceTimers := Function.update a.disconnectGraceTimers userId none } :=
    h.congr rfl
  have hworld : a.world.isSome := by
    obtain ⟨w, hw, -⟩ := h
    simp [hw]
  unfold graceExpired endsSilently
  dsimp only
  rw [if_pos ⟨hworld, h'.lifecycle_eq⟩, h.lifecycle_eq]
  exact handles_finishBattle h' .kPlayerDisconnected userId

theorem disconnect_spec (h : Holds battleId l a) (self : ActorId) (now : TimePoint)
    (sys : ActorSystem MessagePayload) (userId : String) :
    Holds battleId l (a.disconnect self now sys userId).actor ∧
      (a.disconnect self now sys userId).events = [] := by
  obtain ⟨w, hw, hid, hl⟩ := h
  have hmeta := w.metadata_handleDisconnect userId
  have hkeep : (w.handleDisconnect userId).metadata.battleId = battleId ∧
      (w.handleDisconnect userId).lifecycle = l := by
    unfold BattleWorld.lifecycle
    rw [hmeta]
    exact ⟨hid, hl⟩
  unfold disconnect
  rw [hw]
  dsimp only
  split_ifs
  · exact ⟨⟨_, rfl, hkeep⟩, rfl⟩
  · exact ⟨⟨_, rfl, hkeep⟩, rfl⟩

theorem reconnect_spec (h : Holds battleId l a) (sys : ActorSystem MessagePayload)
    (userId : String) : Holds battleId l (a.reconnect sys userId).actor ∧
      (a.reconnect sys userId).events = [] := by
  obtain ⟨w, hw, hid, hl⟩ := h
  unfold reconnect
  rw [hw]
  dsimp only
  split
  · exact ⟨⟨_, rfl, hid, hl⟩, rfl⟩
  · exact ⟨⟨_, rfl, hid, hl⟩, rfl⟩

theorem endsSilently_of_finished (h : Holds battleId .kFinished a) (p : MessagePayload) :
    a.endsSilently p = false := by
  have hlife := h.lifecycle_eq
  cases p with
  | tickBattle trigger => simp [endsSilently, hlife]
  | endBattle reason userId => simp [endsSilently, hlife]
  | disconnectGraceTimerExpired userId period => simp [endsSilently, hlife]
  | _ => rfl

/-- Frame acks keep the battle. -/
theorem holds_frameAck (h : Holds battleId l a) (self : ActorId) (now : TimePoint)
    (sys : ActorSystem MessagePayload) (msg : FrameAckMsg) :
    Holds battleId l (a.onMessage self now sys (.frameAck msg)).actor := by
  obtain ⟨w, hw, hid, hlife⟩ := h
  exact ⟨w.recordFrameAck msg.userId msg.frameNumber, by simp [onMessage, hw], hid, hlife⟩

/-- What one message does to a running battle. -/
theorem onMessage_running (h : Holds battleId .kRunning a) (self : ActorId) (now : TimePoint)
    (sys : ActorSystem MessagePayload) {p : MessagePayload} (hp : p.isCreate = false) :
    let o := a.onMessage self now sys p
    Handles battleId (a.endsSilently p) o.actor o.events := by
  dsimp only
  cases p with
  | createBattle msg => cases hp
  | submitBattleInput msg => exact .inl (submitInput_spec h msg)
  | tickBattle trigger => exact tick_spec h trigger
  | endBattle reason userId => exact endBattle_spec h reason userId
  | frameAck msg => exact .inl ⟨holds_frameAck h self now sys msg, rfl, rfl⟩
  | playerDisconnected userId =>
    obtain ⟨hholds, hevents⟩ := disconnect_spec h self now sys userId
    refine .inl ⟨hholds, ?_⟩
    change Reported battleId 0 (a.disconnect self now sys userId).events
    rw [hevents]
    exact ⟨rfl, rfl⟩
  | playerReconnected userId =>
    obtain ⟨hholds, hevents⟩ := reconnect_spec h sys userId
    refine .inl ⟨hholds, ?_⟩
    change Reported battleId 0 (a.reconnect sys userId).events
    rw [hevents]
    exact ⟨rfl, rfl⟩
  | disconnectGraceTimerExpired userId period => exact graceExpired_spec h userId period
  | other => exact .inl ⟨h, rfl, rfl⟩

/-- One message leaves a finished battle finished, and nothing is sent of it. -/
theorem onMessage_finished (h : Holds battleId .kFinished a) (self : ActorId) (now : TimePoint)
    (sys : ActorSystem MessagePayload) {p : MessagePayload} (hp : p.isCreate = false) :
    let o := a.onMessage self now sys p
    Holds battleId .kFinished o.actor ∧ Reported battleId 0 o.events := by
  have hlife := h.lifecycle_eq
  dsimp only
  cases p with
  | createBattle msg => cases hp
  | submitBattleInput msg => exact submitInput_spec h msg
  | tickBattle trigger => exact tick_finished h trigger
  | endBattle reason userId =>
    have hidle : a.endBattle reason userId = (a, []) := by simp [endBattle, hlife]
    rw [onMessage, hidle]
    exact ⟨h, rfl, rfl⟩
  | frameAck msg => exact ⟨holds_frameAck h self now sys msg, rfl, rfl⟩
  | playerDisconnected userId =>
    obtain ⟨hholds, hevents⟩ := disconnect_spec h self now sys userId
    rw [onMessage, hevents]
    exact ⟨hholds, rfl, rfl⟩
  | playerReconnected userId =>
    obtain ⟨hholds, hevents⟩ := reconnect_spec h sys userId
    rw [onMessage, hevents]
    exact ⟨hholds, rfl, rfl⟩
  | disconnectGraceTimerExpired userId period =>
    have h' : Holds battleId .kFinished
        { a with disconnectGraceTimers := Function.update a.disconnectGraceTimers userId none } :=
      h.congr rfl
    have hidle : (a.graceExpired userId).2 = [] ∧
        (a.graceExpired userId).1 = { a with
          disconnectGraceTimers := Function.update a.disconnectGraceTimers userId none } := by
      simp [graceExpired, h'.lifecycle_eq]
    rw [onMessage, hidle.1, hidle.2]
    exact ⟨h', rfl, rfl⟩
  | other => exact ⟨h, rfl, rfl⟩

/-- A finished battle stays finished and is not reported again. -/
theorem handleAll_finished (self : ActorId) {ds : List Delivery}
    (h : Holds battleId .kFinished a) (hds : ∀ d ∈ ds, d.payload.isCreate = false) :
    NeverSilent self a ds ∧ Holds battleId .kFinished (handleAll self a ds).1 ∧
      Reported battleId 0 (handleAll self a ds).2 := by
  induction ds generalizing a with
  | nil => exact ⟨trivial, h, rfl, rfl⟩
  | cons d ds ih =>
    obtain ⟨hd, hds⟩ := List.forall_mem_cons.mp hds
    obtain ⟨hstay, hquiet⟩ := onMessage_finished h self d.now d.system hd
    obtain ⟨hnever, hholds, hnone⟩ := ih hstay hds
    exact ⟨⟨endsSilently_of_finished h d.payload, hnever⟩, hholds, hquiet.append hnone⟩

/-- A running battle is settled when it ends, unless a message has ended it silently. -/
theorem handleAll_running (self : ActorId) {ds : List Delivery}
    (h : Holds battleId .kRunning a) (hds : ∀ d ∈ ds, d.payload.isCreate = false) :
    let r := handleAll self a ds
    (NeverSilent self a ds ∧ (Holds battleId .kRunning r.1 ∨ Reported battleId 1 r.2)) ∨
      (¬NeverSilent self a ds ∧ Holds battleId .kFinished r.1 ∧
        r.2.countP (·.isFinishedOf battleId) = 0) := by
  induction ds generalizing a with
  | nil => exact .inl ⟨trivial, .inl h⟩
  | cons d ds ih =>
    obtain ⟨hd, hds⟩ := List.forall_mem_cons.mp hds
    have hstep := onMessage_running h self d.now d.system hd
    dsimp only [Handles] at hstep ih ⊢
    by_cases hsilent : a.endsSilently d.payload
    · rw [if_pos hsilent] at hstep
      obtain ⟨-, hholds, hnone⟩ := handleAll_finished self hstep.1 hds
      refine .inr ⟨fun hnever => ?_, hholds, ?_⟩
      · rw [hnever.1] at hsilent
        cases hsilent
      · rw [handleAll, List.countP_append, hstep.2, hnone.2]
    · have hquiet : a.endsSilently d.payload = false := by simpa using hsilent
      rw [if_neg hsilent] at hstep
      rcases hstep with ⟨hrun, hnone⟩ | ⟨hfin, hone⟩
      · rcases ih hrun hds with ⟨hnever, hrest | hone⟩ | ⟨hnever, hfin, hrest⟩
        · exact .inl ⟨⟨hquiet, hnever⟩, .inl hrest⟩
        · exact .inl ⟨⟨hquiet, hnever⟩, .inr (hnone.append hone)⟩
        · refine .inr ⟨fun h => hnever h.2, hfin, ?_⟩
          rw [handleAll, List.countP_append, hnone.2, hrest]
      · obtain ⟨hnever, -, hnone⟩ := handleAll_finished self hfin hds
        exact .inl ⟨⟨hquiet, hnever⟩, .inr (hone.append hnone)⟩

/-- In every run of an actor whose battle has been created, with any sink, a battle that is
finished has been settled and reported exactly once if and only if no tick found a limit of
idle or offline frames reached and no settlement made the sink raise. -/
theorem settled_iff (lib : Libraries) (raises : BattleEvent → Bool) (self : ActorId)
    (now : TimePoint) (sys : ActorSystem MessagePayload) (msg : CreateBattleMsg)
    (ds : List Delivery) (hds : ∀ d ∈ ds, d.payload.isCreate = false) :
    let created := ({ lib, raises } : BattleActor).onMessage self now sys (.createBattle msg)
    let r := handleAll self created.actor ds
    IsSettled msg.battleId r.1 (created.events ++ r.2) ↔ NeverSilent self created.actor ds := by
  have hstart : Holds msg.battleId .kRunning
      (({ lib, raises } : BattleActor).onMessage self now sys (.createBattle msg)).actor :=
    ⟨_, rfl, rfl, rfl⟩
  have hcreated : Reported msg.battleId 0
      (({ lib, raises } : BattleActor).onMessage self now sys (.createBattle msg)).events :=
    ⟨rfl, rfl⟩
  rcases handleAll_running self hstart hds with ⟨hnever, hrun | hone⟩ | ⟨hnever, hfin, hnone⟩
  · refine ⟨fun _ => hnever, fun _ hl => ?_⟩
    rw [hrun.lifecycle_eq] at hl
    cases hl
  · exact ⟨fun _ => hnever, fun _ _ => hcreated.append hone⟩
  · refine ⟨fun hset => ?_, fun h => absurd h hnever⟩
    have hone := (hset hfin.lifecycle_eq).2
    rw [List.countP_append, hcreated.2, hnone] at hone
    cases hone

/-- A battle of two. -/
def duel : CreateBattleMsg where
  battleId := "battle_0001"
  roomId := "room_alpha"
  playerIds := ["owner", "member"]

/-- A frame is played and a player surrenders. -/
def surrender : List Delivery :=
  [{ payload := .tickBattle "tick" }, { payload := .endBattle .kSurrender "owner" }]

theorem settled_surrender :
    let created := ({ lib := .plain } : BattleActor).onMessage 1 0 {} (.createBattle duel)
    let r := handleAll 1 created.actor surrender
    r.1.lifecycle = .kFinished ∧ IsSettled duel.battleId r.1 (created.events ++ r.2) := by
  refine ⟨by decide +kernel, ?_⟩
  refine (settled_iff .plain (fun _ => false) 1 0 {} duel surrender (by decide)).mpr ?_
  exact ⟨by decide +kernel, by decide +kernel, trivial⟩

/-- Both players leave and 60 frames are played. -/
def deserted : List Delivery :=
  { payload := .playerDisconnected "owner" } :: { payload := .playerDisconnected "member" } ::
    List.replicate 60 { payload := .tickBattle "tick" }

/-- The battle is finished by then, and nobody is told. -/
theorem not_settled_deserted :
    let created := ({ lib := .plain } : BattleActor).onMessage 1 0 {} (.createBattle duel)
    let r := handleAll 1 created.actor deserted
    (∀ d ∈ deserted, d.payload.isCreate = false) ∧
      ¬IsSettled duel.battleId r.1 (created.events ++ r.2) := by
  refine ⟨by decide +kernel, fun hset => ?_⟩
  have hsilent : (handleAll 1 (({ lib := .plain } : BattleActor).onMessage 1 0 {}
        (.createBattle duel)).actor deserted).1.lifecycle = .kFinished ∧
      (handleAll 1 (({ lib := .plain } : BattleActor).onMessage 1 0 {}
        (.createBattle duel)).actor deserted).2.countP (·.isSettlementOf duel.battleId) = 0 := by
    decide +kernel
  have hone := (hset hsilent.1).1
  rw [List.countP_append, hsilent.2] at hone
  cases hone

end BattleActor

end BoostGateway.Battle
