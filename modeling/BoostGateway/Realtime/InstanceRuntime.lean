import Mathlib.Data.List.AList
import Mathlib.Data.List.Perm.Basic
import BoostGateway.Base.Run

/-!
# The runtime of realtime instances

`v2::realtime::InstanceRuntime` (`instance_runtime.cpp`) hosts instances, each with a
plugin that has the rules. A plugin is any collection of hooks. A hook gets the context
of the instance by reference, so it may change it, and it may raise, which is `none`.

Each call holds the mutex, except that `tick_instance` lets go of it before it calls
`finish_instance`, and `tick_all` takes it once to list the instances and then once for
each. `Hosting` is a runtime with such calls under way.

The log lists what is seen from outside : the inputs accepted, the hooks called and the
events emitted. `life` is the part of it that is about the present instance of an id.
-/

namespace BoostGateway.Realtime

/-- Where an instance stands. -/
inductive InstanceState
  | kCreating
  | kWaitingPlayers
  | kRunning
  | kFinishing
  | kFinished
  | kClosed
  deriving DecidableEq, Repr

/-- Why an instance ended. -/
inductive FinishReason
  | kNormal
  | kAllPlayersDone
  | kTimeout
  | kFrameLimit
  | kPlayerDisconnected
  | kUserRequested
  | kError
  deriving DecidableEq, Repr

/-- An input. -/
structure InputEnvelope where
  instanceId : String
  userId : String
  seq : UInt64 := 0
  payloadType : String := ""
  payload : String := ""
  clientTimeMs : ℤ := 0
  deriving DecidableEq

/-- What becomes of an input. -/
structure InputResult where
  accepted : Bool := false
  rejectReason : String := ""
  ackSeq : UInt64 := 0
  deriving DecidableEq

/-- A player of an instance. -/
structure PlayerContext where
  userId : String
  displayName : String := ""
  joinedAtMs : ℤ := 0
  deriving DecidableEq

/-- `InstanceContext`; `σ` holds what the plugin keeps, in its object and behind
`plugin_state`. -/
structure InstanceContext (σ : Type) where
  instanceId : String
  roomId : String
  instanceType : String
  players : List PlayerContext
  tickIntervalMs : UInt32 := 33
  maxFrames : UInt32 := 0
  inputQueueLimit : UInt32 := 64
  resumeWindowMs : UInt32 := 30000
  createdAtMs : ℤ := 0
  pluginState : σ

def InstanceContext.findPlayer {σ : Type} (ctx : InstanceContext σ) (userId : String) :
    Option PlayerContext :=
  ctx.players.find? (·.userId = userId)

/-- The frame that a plugin is called for. -/
structure FrameContext where
  frameNumber : UInt32 := 0
  tickStartMs : ℤ := 0
  inputsThisTick : List InputEnvelope := []

/-- A snapshot of an instance. -/
structure Snapshot where
  frameNumber : UInt32 := 0
  payloadType : String := ""
  payload : String := ""
  isFull : Bool := true
  isResume : Bool := false
  deriving DecidableEq

/-- What a settlement is made from. -/
structure SettlementContext where
  instanceId : String
  roomId : String
  reason : FinishReason := .kNormal
  totalFrames : UInt32 := 0
  resultPayload : String := ""
  deriving DecidableEq

/-- `TickStats` without the duration. -/
structure TickStats where
  frameNumber : UInt32 := 0
  inputsProcessed : UInt32 := 0
  pushesSent : UInt32 := 0
  shouldFinish : Bool := false
  finishReason : FinishReason := .kNormal
  deriving DecidableEq

/-- The hooks of `InstancePlugin` that the runtime calls. -/
structure InstancePlugin (σ : Type) where
  onInstanceCreated : InstanceContext σ → Option (InstanceContext σ)
  onInput : InstanceContext σ → InputEnvelope → InstanceContext σ × Option InputResult
  onTick : InstanceContext σ → FrameContext → InstanceContext σ × Option TickStats
  buildSnapshot : InstanceContext σ → InstanceContext σ × Option Snapshot
  buildSettlement : InstanceContext σ → SettlementContext → InstanceContext σ × Option String
  buildResumeSnapshot : InstanceContext σ → PlayerContext → InstanceContext σ × Option Snapshot

/-- The last input of a player. -/
structure PlayerInputState where
  lastSeq : UInt64 := 0
  lastAckedFrame : UInt32 := 0
  deriving DecidableEq

/-- An instance. -/
structure InternalInstance (σ : Type) where
  ctx : InstanceContext σ
  state : InstanceState := .kCreating
  plugin : InstancePlugin σ
  inputQueue : List InputEnvelope := []
  currentFrame : UInt32 := 0
  runningSinceMs : ℤ := 0
  ackSeqCounter : UInt32 := 0
  playerInputState : String → PlayerInputState := fun _ => {}

/-- Inputs are accepted and ticks are executed in these two states. -/
def InstanceState.isActive : InstanceState → Bool
  | .kRunning | .kWaitingPlayers => true
  | _ => false

/-- What is seen of the instance `id` : its creation and destruction, the inputs accepted
for it, the calls of its hooks and the events emitted. -/
inductive RuntimeEvent
  | instanceCreated (id : String)
  | instanceDestroyed (id : String)
  | inputAccepted (id : String) (input : InputEnvelope)
  | onInput (id : String) (input : InputEnvelope) (accepted : Bool)
  | onTick (id : String) (frameNumber : UInt32)
  | snapshotAvailable (id : String) (snapshot : Snapshot)
  | buildSettlement (id : String)
  | instanceFinished (id : String) (settlement : SettlementContext)
  deriving DecidableEq

/-- The instance of an event. -/
def RuntimeEvent.id : RuntimeEvent → String
  | .instanceCreated id | .instanceDestroyed id | .inputAccepted id _ | .onInput id _ _
  | .onTick id _ | .snapshotAvailable id _ | .buildSettlement id | .instanceFinished id _ => id

/-- The event belongs to the time between the creation and the destruction. -/
def RuntimeEvent.isWithin : RuntimeEvent → Bool
  | .instanceCreated _ | .instanceDestroyed _ => false
  | _ => true

/-- The runtime of the instances. -/
structure InstanceRuntime (σ : Type) where
  maxInstances : UInt32 := 1024
  /-- `plugin_factories_` : a factory makes a plugin with its first state. -/
  pluginFactories : String → Option (InstancePlugin σ × σ)
  /-- What a string holds after it was moved from. The language leaves it open; the
  usual libraries leave it empty. -/
  movedFrom : String → String := fun _ => ""
  instances : AList fun _ : String => InternalInstance σ := ∅
  log : List RuntimeEvent := []

namespace InstanceRuntime

variable {σ : Type}

variable (r : InstanceRuntime σ)

/-- `find_instance_locked`. -/
def find (id : String) : Option (InternalInstance σ) :=
  r.instances.lookup id

/-- The instance `id` is changed to `inst`, and `events` are seen. -/
def put (id : String) (inst : InternalInstance σ)
    (events : List RuntimeEvent) : InstanceRuntime σ :=
  { r with instances := r.instances.insert id inst, log := r.log ++ events }

/-- The arguments of `create_instance`. -/
structure CreateArgs where
  instanceId : String
  roomId : String
  instanceType : String
  players : List PlayerContext
  tickIntervalMs : UInt32 := 33
  maxFrames : UInt32 := 0
  resumeWindowMs : UInt32 := 30000

/-- The context a plugin is given when its instance is created. -/
def CreateArgs.context (args : CreateArgs) (nowMs : ℤ) (pluginState : σ) : InstanceContext σ where
  instanceId := args.instanceId
  roomId := args.roomId
  instanceType := args.instanceType
  players := args.players
  tickIntervalMs := args.tickIntervalMs
  maxFrames := args.maxFrames
  inputQueueLimit := 64
  resumeWindowMs := args.resumeWindowMs
  createdAtMs := nowMs
  pluginState := pluginState

/-- The runtime after `create_instance`, with the id it returns, which is empty on failure. -/
def createInstance (nowMs : ℤ) (args : CreateArgs) : InstanceRuntime σ × String :=
  if (r.find args.instanceId).isSome then (r, "")
  else if r.maxInstances.toNat ≤ r.instances.keys.length then (r, "")
  else
    match r.pluginFactories args.instanceType with
    | none => (r, "")
    | some (plugin, pluginState) =>
      match plugin.onInstanceCreated (args.context nowMs pluginState) with
      | none => (r, "")
      | some ctx =>
        (r.put args.instanceId { ctx := ctx, plugin := plugin, state := .kWaitingPlayers }
          [.instanceCreated args.instanceId], args.instanceId)

/-- `destroy_instance`. -/
def destroyInstance (id : String) : InstanceRuntime σ :=
  match r.find id with
  | none => r
  | some _ =>
    { r with instances := r.instances.erase id, log := r.log ++ [.instanceDestroyed id] }

/-- `submit_input`. -/
def submitInput (input : InputEnvelope) : InstanceRuntime σ × InputResult :=
  match r.find input.instanceId with
  | none => (r, { rejectReason := "instance_not_found" })
  | some inst =>
    if inst.state.isActive then
      let player := inst.playerInputState input.userId
      if 0 < input.seq ∧ input.seq ≤ player.lastSeq then
        (r, { rejectReason := "duplicate_seq" })
      else if inst.ctx.inputQueueLimit.toNat ≤ inst.inputQueue.length then
        (r, { rejectReason := "input_queue_full" })
      else
        (r.put input.instanceId
          { inst with
            playerInputState := Function.update inst.playerInputState input.userId
              { player with lastSeq := input.seq }
            inputQueue := inst.inputQueue ++ [input]
            ackSeqCounter := inst.ackSeqCounter + 1 }
          [.inputAccepted input.instanceId input],
          { accepted := true, ackSeq := (inst.ackSeqCounter + 1).toUInt64 })
    else (r, { rejectReason := "instance_not_active" })

/-- What `finish_instance` hands to `build_settlement`. -/
def settlementContext (id : String) (inst : InternalInstance σ) (reason : FinishReason) :
    SettlementContext where
  instanceId := id
  roomId := inst.ctx.roomId
  reason := reason
  totalFrames := inst.currentFrame

/-- The settlement of a finishing instance. -/
def settle (id : String) (inst : InternalInstance σ) (reason : FinishReason) :
    InstanceContext σ × SettlementContext :=
  let settlement := settlementContext id inst reason
  let (ctx, payload) := inst.plugin.buildSettlement inst.ctx settlement
  (ctx, { settlement with
    resultPayload := payload.getD "\x7b\"error\":\"settlement_failed\"\x7d" })

/-- `finish_instance`. -/
def finishInstance (id : String) (reason : FinishReason) : InstanceRuntime σ :=
  match r.find id with
  | none => r
  | some inst =>
    if inst.state = .kFinished ∨ inst.state = .kClosed then r
    else
      let (ctx, settlement) := settle id inst reason
      r.put id { inst with ctx := ctx, state := .kFinished }
        [.buildSettlement id, .instanceFinished id settlement]

/-- The loop that drains the queue : the context, the bookkeeping of the players, the
inputs of the frame, and what the plugin said to each input. -/
def drain (movedFrom : String → String) (plugin : InstancePlugin σ) (frameNumber : UInt32) :
    InstanceContext σ → (String → PlayerInputState) → List InputEnvelope →
      InstanceContext σ × (String → PlayerInputState) × List InputEnvelope × List Bool
  | ctx, players, [] => (ctx, players, [], [])
  | ctx, players, input :: queue =>
    match plugin.onInput ctx input with
    | (ctx, some result) =>
      if result.accepted then
        -- The input is moved into the frame before its user id is read.
        let user := movedFrom input.userId
        let (ctx, players, inputs, accepted) := drain movedFrom plugin frameNumber ctx
          (Function.update players user { players user with lastAckedFrame := frameNumber }) queue
        (ctx, players, { input with seq := result.ackSeq } :: inputs, true :: accepted)
      else
        let (ctx, players, inputs, accepted) := drain movedFrom plugin frameNumber ctx players queue
        (ctx, players, inputs, false :: accepted)
    | (ctx, none) =>
      let (ctx, players, inputs, accepted) := drain movedFrom plugin frameNumber ctx players queue
      (ctx, players, inputs, false :: accepted)

/-- `on_tick` and the check of the frame limit. -/
def advance (plugin : InstancePlugin σ) (ctx : InstanceContext σ) (frame : FrameContext) :
    InstanceContext σ × TickStats :=
  let (ctx, stats) := plugin.onTick ctx frame
  let stats := stats.getD
    { frameNumber := frame.frameNumber, shouldFinish := true, finishReason := .kError }
  if 0 < ctx.maxFrames ∧ ctx.maxFrames ≤ frame.frameNumber ∧ stats.shouldFinish = false then
    (ctx, { stats with shouldFinish := true, finishReason := .kFrameLimit })
  else (ctx, stats)

/-- `build_snapshot` in a tick. -/
def takeSnapshot (plugin : InstancePlugin σ) (ctx : InstanceContext σ) (frameNumber : UInt32) :
    InstanceContext σ × Snapshot :=
  let (ctx, snapshot) := plugin.buildSnapshot ctx
  let snapshot := snapshot.getD
    { payloadType := "error", payload := "\x7b\"error\":\"snapshot_failed\"\x7d" }
  (ctx, { snapshot with frameNumber := frameNumber })

/-- A tick of an active instance : the instance after it, the statistics, and what is
seen. -/
def runFrame (movedFrom : String → String) (id : String) (inst : InternalInstance σ)
    (frameNumber : UInt32) (tickStartMs : ℤ) :
    InternalInstance σ × TickStats × List RuntimeEvent :=
  let runningSinceMs := if inst.state = .kWaitingPlayers then tickStartMs else inst.runningSinceMs
  let (ctx, players, inputs, accepted) :=
    drain movedFrom inst.plugin frameNumber inst.ctx inst.playerInputState inst.inputQueue
  let (ctx, stats) := advance inst.plugin ctx
    { frameNumber := frameNumber, tickStartMs := tickStartMs, inputsThisTick := inputs }
  let (ctx, snapshot) := takeSnapshot inst.plugin ctx frameNumber
  ({ inst with
      ctx := ctx
      state := .kRunning
      runningSinceMs := runningSinceMs
      currentFrame := frameNumber
      inputQueue := []
      playerInputState := players },
    stats,
    List.zipWith (RuntimeEvent.onInput id) inst.inputQueue accepted ++
      [.onTick id frameNumber, .snapshotAvailable id snapshot])

/-- `tick_instance` up to the point where it lets go of the mutex, with the reason to
finish the instance for, if there is one. -/
def tickSection (id : String) (frameNumber : UInt32) (tickStartMs : ℤ) :
    InstanceRuntime σ × TickStats × Option FinishReason :=
  match r.find id with
  | none =>
    (r, { frameNumber := frameNumber, shouldFinish := true, finishReason := .kError }, none)
  | some inst =>
    if inst.state.isActive then
      let (inst, stats, events) := runFrame r.movedFrom id inst frameNumber tickStartMs
      (r.put id inst events, stats,
        if stats.shouldFinish then some stats.finishReason else none)
    else (r, { frameNumber := frameNumber }, none)

/-- `tick_instance` with nothing in between. -/
def tickInstance (id : String) (frameNumber : UInt32) (tickStartMs : ℤ) :
    InstanceRuntime σ × TickStats :=
  match r.tickSection id frameNumber tickStartMs with
  | (r, stats, some reason) => (r.finishInstance id reason, stats)
  | (r, stats, none) => (r, stats)

/-- The instances `tick_all` lists, with their next frames. -/
def toTick : List (String × UInt32) :=
  r.instances.entries.filterMap fun e =>
    if e.2.state.isActive then some (e.1, e.2.currentFrame + 1) else none

/-- `get_resume_snapshot`. -/
def getResumeSnapshot (id userId : String) : InstanceRuntime σ × Snapshot :=
  match r.find id with
  | none => (r, {})
  | some inst =>
    match inst.ctx.findPlayer userId with
    | none => (r, {})
    | some player =>
      let (ctx, snapshot) := inst.plugin.buildResumeSnapshot inst.ctx player
      (r.put id { inst with ctx := ctx } [], snapshot.getD {})

/-! ## What a section does -/

variable (id : String)

@[simp] theorem find_put_self (inst : InternalInstance σ)
    (events : List RuntimeEvent) : (r.put id inst events).find id = some inst :=
  AList.lookup_insert _

theorem find_put_of_ne {id id' : String} (h : id' ≠ id)
    (inst : InternalInstance σ) (events : List RuntimeEvent) :
    (r.put id inst events).find id' = r.find id' :=
  AList.lookup_insert_ne h

theorem put_put (inst inst' : InternalInstance σ) (events events' : List RuntimeEvent) :
    (r.put id inst events).put id inst' events' = r.put id inst' (events ++ events') := by
  simp [put, AList.insert_insert]

theorem createInstance_cases (nowMs : ℤ) (args : CreateArgs) :
    (r.createInstance nowMs args).1 = r ∨
    ∃ ctx plugin, r.find args.instanceId = none ∧ (r.createInstance nowMs args).1 =
      r.put args.instanceId { ctx := ctx, plugin := plugin, state := .kWaitingPlayers }
        [.instanceCreated args.instanceId] := by
  unfold createInstance
  split_ifs with hfind hsize
  · exact .inl rfl
  · exact .inl rfl
  · split
    · exact .inl rfl
    · rename_i plugin pluginState _
      split
      · exact .inl rfl
      · rename_i ctx _
        exact .inr ⟨ctx, plugin, by simpa using hfind, rfl⟩

theorem destroyInstance_cases :
    r.destroyInstance id = r ∨ r.destroyInstance id =
      { r with instances := r.instances.erase id, log := r.log ++ [.instanceDestroyed id] } := by
  unfold destroyInstance
  split
  · exact .inl rfl
  · exact .inr rfl

theorem submitInput_cases (input : InputEnvelope) :
    ((r.submitInput input).1 = r ∧ (r.submitInput input).2.accepted = false) ∨
    ∃ inst, r.find input.instanceId = some inst ∧ inst.state.isActive ∧
      inst.inputQueue.length < inst.ctx.inputQueueLimit.toNat ∧
      (r.submitInput input).2.accepted = true ∧
      (r.submitInput input).1 = r.put input.instanceId
        { inst with
          playerInputState := Function.update inst.playerInputState input.userId
            { inst.playerInputState input.userId with lastSeq := input.seq }
          inputQueue := inst.inputQueue ++ [input]
          ackSeqCounter := inst.ackSeqCounter + 1 }
        [.inputAccepted input.instanceId input] := by
  unfold submitInput
  split
  · exact .inl ⟨rfl, rfl⟩
  · rename_i inst hfind
    dsimp only
    split_ifs with hactive hseq hfull
    · exact .inl ⟨rfl, rfl⟩
    · exact .inl ⟨rfl, rfl⟩
    · exact .inr ⟨inst, hfind, hactive, by omega, rfl, rfl⟩
    · exact .inl ⟨rfl, rfl⟩

/-- The instance after `finish_instance`, and what is seen of it. -/
def finished (id : String) (inst : InternalInstance σ) (reason : FinishReason) :
    InternalInstance σ × List RuntimeEvent :=
  ({ inst with ctx := (settle id inst reason).1, state := .kFinished },
    [.buildSettlement id, .instanceFinished id (settle id inst reason).2])

theorem finishInstance_cases (reason : FinishReason) :
    (r.finishInstance id reason = r ∧
      ∀ inst, r.find id = some inst → inst.state = .kFinished ∨ inst.state = .kClosed) ∨
    ∃ inst, r.find id = some inst ∧ inst.state ≠ .kFinished ∧ inst.state ≠ .kClosed ∧
      r.finishInstance id reason =
        r.put id (finished id inst reason).1 (finished id inst reason).2 := by
  unfold finishInstance
  split
  · rename_i hfind
    exact .inl ⟨rfl, by simp [hfind]⟩
  · rename_i inst hfind
    split_ifs with hstate
    · refine .inl ⟨rfl, fun inst' hinst' => ?_⟩
      rw [hfind] at hinst'
      cases hinst'
      exact hstate
    · rw [not_or] at hstate
      exact .inr ⟨inst, hfind, hstate.1, hstate.2, rfl⟩

theorem tickSection_cases (frameNumber : UInt32) (tickStartMs : ℤ) :
    (r.tickSection id frameNumber tickStartMs).1 = r ∨
    ∃ inst, r.find id = some inst ∧ inst.state.isActive ∧
      (r.tickSection id frameNumber tickStartMs).1 =
        r.put id (runFrame r.movedFrom id inst frameNumber tickStartMs).1
          (runFrame r.movedFrom id inst frameNumber tickStartMs).2.2 := by
  unfold tickSection
  split
  · exact .inl rfl
  · rename_i inst hfind
    split_ifs with hactive
    · exact .inr ⟨inst, hfind, hactive, rfl⟩
    · exact .inl rfl

/-- A whole tick of an active instance : a frame, and the finish where the frame asks for
it. -/
def runTick (movedFrom : String → String) (id : String) (inst : InternalInstance σ)
    (frameNumber : UInt32) (tickStartMs : ℤ) :
    InternalInstance σ × TickStats × List RuntimeEvent :=
  let (inst, stats, events) := runFrame movedFrom id inst frameNumber tickStartMs
  if stats.shouldFinish then
    ((finished id inst stats.finishReason).1, stats,
      events ++ (finished id inst stats.finishReason).2)
  else (inst, stats, events)

theorem tickInstance_of_isActive {r : InstanceRuntime σ} {id : String} {inst : InternalInstance σ}
    (hfind : r.find id = some inst) (hactive : inst.state.isActive) (frameNumber : UInt32)
    (tickStartMs : ℤ) :
    r.tickInstance id frameNumber tickStartMs =
      (r.put id (runTick r.movedFrom id inst frameNumber tickStartMs).1
          (runTick r.movedFrom id inst frameNumber tickStartMs).2.2,
        (runTick r.movedFrom id inst frameNumber tickStartMs).2.1) := by
  have hstate : (runFrame r.movedFrom id inst frameNumber tickStartMs).1.state = .kRunning := rfl
  simp only [tickInstance, tickSection, hfind, hactive, if_true, runTick]
  revert hstate
  rcases runFrame r.movedFrom id inst frameNumber tickStartMs with ⟨inst', stats, events⟩
  intro hstate
  cases hfinish : stats.shouldFinish with
  | false => simp
  | true => simp_all [finishInstance, put_put, finished]

theorem tickInstance_of_not_isActive {r : InstanceRuntime σ} {id : String}
    (h : ∀ inst, r.find id = some inst → inst.state.isActive = false) (frameNumber : UInt32)
    (tickStartMs : ℤ) : (r.tickInstance id frameNumber tickStartMs).1 = r ∧
      (r.tickInstance id frameNumber tickStartMs).2.frameNumber = frameNumber := by
  unfold tickInstance tickSection
  cases hfind : r.find id with
  | none => exact ⟨rfl, rfl⟩
  | some inst => simp [h inst hfind]

theorem getResumeSnapshot_cases (userId : String) :
    (r.getResumeSnapshot id userId).1 = r ∨
    ∃ inst player, r.find id = some inst ∧ inst.ctx.findPlayer userId = some player ∧
      (r.getResumeSnapshot id userId).1 =
        r.put id { inst with ctx := (inst.plugin.buildResumeSnapshot inst.ctx player).1 } [] := by
  unfold getResumeSnapshot
  split
  · exact .inl rfl
  · rename_i inst hfind
    split
    · exact .inl rfl
    · rename_i player hplayer
      exact .inr ⟨inst, player, hfind, hplayer, rfl⟩

variable {movedFrom : String → String}

theorem mem_runFrame {id : String} {inst : InternalInstance σ}
    {frameNumber : UInt32} {tickStartMs : ℤ} {e : RuntimeEvent}
    (h : e ∈ (runFrame movedFrom id inst frameNumber tickStartMs).2.2) :
    (∃ input accepted, e = .onInput id input accepted) ∨ e = .onTick id frameNumber ∨
      ∃ snapshot, e = .snapshotAvailable id snapshot := by
  simp only [runFrame, List.mem_append, List.mem_cons, List.not_mem_nil, or_false] at h
  rcases h with h | rfl | rfl
  · rw [← List.map_uncurry_zip_eq_zipWith] at h
    obtain ⟨⟨input, accepted⟩, -, rfl⟩ := List.mem_map.mp h
    exact .inl ⟨input, accepted, rfl⟩
  · exact .inr (.inl rfl)
  · exact .inr (.inr ⟨_, rfl⟩)

/-- What is seen in a frame is about the instance, which is neither created nor destroyed. -/
theorem isWithin_runFrame {id : String} {inst : InternalInstance σ}
    {frameNumber : UInt32} {tickStartMs : ℤ} {e : RuntimeEvent}
    (h : e ∈ (runFrame movedFrom id inst frameNumber tickStartMs).2.2) :
    e.id = id ∧ e.isWithin := by
  rcases mem_runFrame h with ⟨input, accepted, rfl⟩ | rfl | ⟨snapshot, rfl⟩ <;> exact ⟨rfl, rfl⟩

/-- What is seen in a whole tick is about the instance, which is neither created nor
destroyed. -/
theorem mem_runTick {id : String} {inst : InternalInstance σ}
    {frameNumber : UInt32} {tickStartMs : ℤ} {e : RuntimeEvent}
    (h : e ∈ (runTick movedFrom id inst frameNumber tickStartMs).2.2) :
    e.id = id ∧ e.isWithin := by
  unfold runTick at h
  dsimp only at h
  split_ifs at h
  · rcases List.mem_append.mp h with h | h
    · exact isWithin_runFrame h
    · simp only [finished, List.mem_cons, List.not_mem_nil, or_false] at h
      rcases h with rfl | rfl <;> exact ⟨rfl, rfl⟩
  · exact isWithin_runFrame h

theorem onTick_mem_runTick (movedFrom : String → String) (id : String) (inst : InternalInstance σ)
    (frameNumber : UInt32) (tickStartMs : ℤ) :
    .onTick id frameNumber ∈ (runTick movedFrom id inst frameNumber tickStartMs).2.2 := by
  unfold runTick runFrame
  dsimp only
  split_ifs <;> simp

/-- What the hooks of a tick keep of a context, the tick keeps. -/
theorem ctx_runFrame {P : InstanceContext σ → Prop} {inst : InternalInstance σ}
    (hinput : ∀ ctx input, P ctx → P (inst.plugin.onInput ctx input).1)
    (htick : ∀ ctx frame, P ctx → P (inst.plugin.onTick ctx frame).1)
    (hsnapshot : ∀ ctx, P ctx → P (inst.plugin.buildSnapshot ctx).1) (h : P inst.ctx)
    (movedFrom : String → String) (id : String) (frameNumber : UInt32) (tickStartMs : ℤ) :
    P (runFrame movedFrom id inst frameNumber tickStartMs).1.ctx := by
  have hdrain : ∀ (queue : List InputEnvelope) ctx players, P ctx →
      P (drain movedFrom inst.plugin frameNumber ctx players queue).1 := by
    intro queue
    induction queue with
    | nil => exact fun ctx players h => h
    | cons input queue ih =>
      intro ctx players hctx
      have hnext := hinput ctx input hctx
      rw [drain]
      revert hnext
      rcases inst.plugin.onInput ctx input with ⟨ctx', none | result⟩ <;> intro hnext
      · exact ih ctx' _ hnext
      · dsimp only
        split_ifs
        · exact ih ctx' _ hnext
        · exact ih ctx' _ hnext
  have hadvance : ∀ ctx frame, P ctx → P (advance inst.plugin ctx frame).1 := by
    intro ctx frame hctx
    rw [advance]
    dsimp only
    split_ifs
    · exact htick ctx frame hctx
    · exact htick ctx frame hctx
  exact hsnapshot _ (hadvance _ _ (hdrain _ _ _ h))

end InstanceRuntime

/-! ## Calls under way -/

/-- A call of `tick_instance` or `tick_all` that does not hold the mutex. -/
structure TickCall where
  /-- What is left of a tick that ended its instance. -/
  finish : Option (String × FinishReason) := none
  /-- The ticks still to be made. -/
  rest : List (String × UInt32)
  tickStartMs : ℤ

/-- A runtime with calls of `tick_instance` and `tick_all` under way. -/
structure Hosting (σ : Type) where
  runtime : InstanceRuntime σ
  calls : List TickCall := []

/-- The calls, and the turns of a tick. -/
inductive HostingAction
  | createInstance (nowMs : ℤ) (args : InstanceRuntime.CreateArgs)
  | destroyInstance (id : String)
  | submitInput (input : InputEnvelope)
  | finishInstance (id : String) (reason : FinishReason)
  | getResumeSnapshot (id userId : String)
  | tickInstance (id : String) (frameNumber : UInt32) (tickStartMs : ℤ)
  /-- `tick_all` lists the instances in the order of the map, which is not specified. -/
  | tickAll (listed : List (String × UInt32)) (tickStartMs : ℤ)
  /-- The call at the position takes the mutex again. -/
  | proceed (i : ℕ)

namespace Hosting

variable {σ : Type}

/-- The next section of a call, with what is left of the call. -/
def callSection (r : InstanceRuntime σ) (call : TickCall) : Option (InstanceRuntime σ × TickCall) :=
  match call.finish, call.rest with
  | some (id, reason), _ => some (r.finishInstance id reason, { call with finish := none })
  | none, (id, frameNumber) :: rest =>
    let (r, _, finish) := r.tickSection id frameNumber call.tickStartMs
    some (r, { call with finish := finish.map (id, ·), rest := rest })
  | none, [] => none

/-- One call, or one turn of a tick. -/
def step (h : Hosting σ) : HostingAction → Option (Hosting σ)
  | .createInstance nowMs args =>
    some { h with runtime := (h.runtime.createInstance nowMs args).1 }
  | .destroyInstance id => some { h with runtime := h.runtime.destroyInstance id }
  | .submitInput input => some { h with runtime := (h.runtime.submitInput input).1 }
  | .finishInstance id reason => some { h with runtime := h.runtime.finishInstance id reason }
  | .getResumeSnapshot id userId =>
    some { h with runtime := (h.runtime.getResumeSnapshot id userId).1 }
  | .tickInstance id frameNumber tickStartMs =>
    some { h with calls := h.calls ++ [{ rest := [(id, frameNumber)], tickStartMs := tickStartMs }] }
  | .tickAll listed tickStartMs =>
    if listed.Perm h.runtime.toTick then
      some { h with calls := h.calls ++ [{ rest := listed, tickStartMs := tickStartMs }] }
    else none
  | .proceed i =>
    match h.calls[i]? with
    | none => none
    | some call => (callSection h.runtime call).map fun (r, call) =>
        { runtime := r, calls := h.calls.set i call }

/-- The states a runtime with any factories and limits reaches by actions that meet `ok`. -/
abbrev Reaches (ok : Hosting σ → HostingAction → Prop) : Hosting σ → Prop :=
  BoostGateway.Reaches (fun h => ∃ maxInstances pluginFactories movedFrom,
    h = { runtime := { maxInstances := maxInstances, pluginFactories := pluginFactories,
                       movedFrom := movedFrom } }) step ok

/-- The section of the runtime that an action runs, if it changes the runtime at all. -/
theorem step_cases {h h' : Hosting σ} {a : HostingAction} (hs : h.step a = some h') :
    h'.runtime = h.runtime ∨
    (∃ nowMs args, a = .createInstance nowMs args ∧
      h'.runtime = (h.runtime.createInstance nowMs args).1) ∨
    (∃ id, a = .destroyInstance id ∧ h'.runtime = h.runtime.destroyInstance id) ∨
    (∃ input, a = .submitInput input ∧ h'.runtime = (h.runtime.submitInput input).1) ∨
    (∃ id userId, a = .getResumeSnapshot id userId ∧
      h'.runtime = (h.runtime.getResumeSnapshot id userId).1) ∨
    (∃ id reason, (a = .finishInstance id reason ∨ ∃ i call, a = .proceed i ∧
        h.calls[i]? = some call ∧ call.finish = some (id, reason)) ∧
      h'.runtime = h.runtime.finishInstance id reason) ∨
    ∃ i call id frameNumber rest, a = .proceed i ∧ h.calls[i]? = some call ∧
      call.finish = none ∧ call.rest = (id, frameNumber) :: rest ∧
      h'.runtime = (h.runtime.tickSection id frameNumber call.tickStartMs).1 := by
  cases a with
  | createInstance nowMs args =>
    cases hs
    exact .inr (.inl ⟨nowMs, args, rfl, rfl⟩)
  | destroyInstance id =>
    cases hs
    exact .inr (.inr (.inl ⟨id, rfl, rfl⟩))
  | submitInput input =>
    cases hs
    exact .inr (.inr (.inr (.inl ⟨input, rfl, rfl⟩)))
  | getResumeSnapshot id userId =>
    cases hs
    exact .inr (.inr (.inr (.inr (.inl ⟨id, userId, rfl, rfl⟩))))
  | finishInstance id reason =>
    cases hs
    exact .inr (.inr (.inr (.inr (.inr (.inl ⟨id, reason, .inl rfl, rfl⟩)))))
  | tickInstance id frameNumber tickStartMs =>
    cases hs
    exact .inl rfl
  | tickAll listed tickStartMs =>
    simp only [step] at hs
    split_ifs at hs
    cases hs
    exact .inl rfl
  | proceed i =>
    simp only [step] at hs
    cases hcall : h.calls[i]? with
    | none => simp [hcall] at hs
    | some call =>
      rw [hcall] at hs
      obtain ⟨⟨r, call'⟩, hsec, rfl⟩ := Option.map_eq_some_iff.mp hs
      unfold callSection at hsec
      split at hsec
      · rename_i id reason hfin
        cases hsec
        exact .inr (.inr (.inr (.inr (.inr (.inl
          ⟨id, reason, .inr ⟨i, call, rfl, hcall, hfin⟩, rfl⟩)))))
      · rename_i id frameNumber rest hfin hrest
        cases hsec
        exact .inr (.inr (.inr (.inr (.inr (.inr
          ⟨i, call, id, frameNumber, rest, rfl, hcall, hfin, hrest, rfl⟩)))))
      · cases hsec

end Hosting

/-! ## What is seen of one instance -/

/-- The events of `id` since it was last created or destroyed. -/
def life (id : String) (log : List RuntimeEvent) : List RuntimeEvent :=
  log.foldl (fun seen e =>
    if e.id = id then
      match e with
      | .instanceCreated _ | .instanceDestroyed _ => []
      | e => seen ++ [e]
    else seen) []

theorem life_append_of_ne {id : String} {log events : List RuntimeEvent}
    (h : ∀ e ∈ events, e.id ≠ id) : life id (log ++ events) = life id log := by
  induction events generalizing log with
  | nil => rw [List.append_nil]
  | cons e events ih =>
    have he : e.id ≠ id := h e List.mem_cons_self
    rw [List.append_cons, ih fun e' he' => h e' (List.mem_cons_of_mem _ he'), life,
      List.foldl_append, List.foldl_cons, List.foldl_nil, if_neg he, ← life]

theorem life_append_of_within {id : String} {log events : List RuntimeEvent}
    (h : ∀ e ∈ events, e.id = id ∧ e.isWithin) : life id (log ++ events) = life id log ++ events := by
  induction events generalizing log with
  | nil => simp
  | cons e events ih =>
    obtain ⟨he, hwithin⟩ := h e List.mem_cons_self
    have hone : life id (log ++ [e]) = life id log ++ [e] := by
      rw [life, List.foldl_append, List.foldl_cons, List.foldl_nil, if_pos he, ← life]
      cases e <;> simp_all [RuntimeEvent.isWithin]
    rw [List.append_cons, ih fun e' he' => h e' (List.mem_cons_of_mem _ he'), hone,
      List.append_assoc, List.singleton_append]

theorem life_created (id : String) (log : List RuntimeEvent) :
    life id (log ++ [RuntimeEvent.instanceCreated id]) = [] := by
  simp [life, RuntimeEvent.id]

theorem life_destroyed (id : String) (log : List RuntimeEvent) :
    life id (log ++ [RuntimeEvent.instanceDestroyed id]) = [] := by
  simp [life, RuntimeEvent.id]

/-- What is seen of one instance says nothing about another. -/
theorem InstanceRuntime.life_put_of_ne {σ : Type} (r : InstanceRuntime σ) {id id' : String}
    (hne : id' ≠ id) (inst : InternalInstance σ) {events : List RuntimeEvent}
    (h : ∀ e ∈ events, e.id = id) : life id' (r.put id inst events).log = life id' r.log := by
  refine life_append_of_ne fun e he => ?_
  rw [h e he]
  exact Ne.symm hne

namespace InstanceRuntime

variable {σ : Type}

/-- Every instance has the property with what is seen of it. -/
def Each (P : InternalInstance σ → List RuntimeEvent → Prop) (r : InstanceRuntime σ) : Prop :=
  ∀ id inst, r.find id = some inst → P inst (life id r.log)

variable {P : InternalInstance σ → List RuntimeEvent → Prop} {r : InstanceRuntime σ}

theorem Each.put (h : Each P r) {id : String} {inst : InternalInstance σ}
    {events : List RuntimeEvent} (hevents : ∀ e ∈ events, e.id = id)
    (hinst : P inst (life id (r.log ++ events))) : Each P (r.put id inst events) := by
  intro id' inst' hfind
  by_cases hid : id' = id
  · subst hid
    rw [find_put_self] at hfind
    cases hfind
    exact hinst
  · rw [find_put_of_ne r hid] at hfind
    rw [life_put_of_ne r hid inst hevents]
    exact h id' inst' hfind

theorem Each.createInstance (h : Each P r) (nowMs : ℤ) (args : CreateArgs)
    (hnew : ∀ ctx plugin, P { ctx := ctx, plugin := plugin, state := .kWaitingPlayers } []) :
    Each P (r.createInstance nowMs args).1 := by
  rcases r.createInstance_cases nowMs args with heq | ⟨ctx, plugin, -, heq⟩
  · rwa [heq]
  · rw [heq]
    refine h.put (by simp [RuntimeEvent.id]) ?_
    rw [life_created]
    exact hnew ctx plugin

theorem Each.destroyInstance (h : Each P r) (id : String) : Each P (r.destroyInstance id) := by
  rcases r.destroyInstance_cases id with heq | heq
  · rwa [heq]
  · rw [heq]
    intro id' inst hfind
    by_cases hid : id' = id
    · subst hid
      rw [find, AList.lookup_erase] at hfind
      cases hfind
    · rw [find, AList.lookup_erase_ne hid] at hfind
      have hlog : life id' (r.log ++ [RuntimeEvent.instanceDestroyed id]) = life id' r.log :=
        life_append_of_ne (by simpa [RuntimeEvent.id] using Ne.symm hid)
      rw [hlog]
      exact h id' inst hfind

end InstanceRuntime

end BoostGateway.Realtime
