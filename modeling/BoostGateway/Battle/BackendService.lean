import BoostGateway.Battle.BattleInstancePlugin
import BoostGateway.Room.RoomBackend

/-!
# The battle backend

`BattleBackendService` (`battle_backend_service.cpp`) answers the requests of a battle. It
owns an `InstanceRuntime`, captures the snapshots and settlements that the runtime emits,
and keeps beside it, under a mutex of its own, the frame numbers, the latest snapshots, the
replay and the pickup item of each battle. The runtime has the battle plugin only.

A handler is a row of sections, each under one of the mutexes; a handler here runs them one
after the other. As in the room backend a request comes as the document of its payload, the
fields are read before anything changes, and the typed envelope around a reply is left out.
The archive store is only written and logged, so it is left out too, and so is the form of
snapshot of the tank plugin, which is not registered.
-/

namespace BoostGateway.Battle

open Realtime

/-- What a handler answers. -/
inductive Reply
  | ok (body : Json)
  | error (code : ℤ) (reason : String)

/-- `make_ok`. -/
def makeOk (extra : List (String × Json)) : Reply :=
  .ok (Json.ofMembers (("status", .string "ok") :: extra))

/-- The latest snapshot of a battle. -/
structure CachedBattleSnapshot where
  frameNumber : UInt32
  payload : String

/-- A frame that is kept for the replay. -/
structure ReplayFrameCacheEntry where
  frameNumber : UInt32
  frame : Json

/-- The item of a battle. -/
structure BattleItemState where
  picked : Bool := false
  pickedBy : String := ""

/-- The battle backend. -/
structure BattleBackend where
  lib : Libraries
  runtime : InstanceRuntime (Option PluginState)
  instanceType : String := "battle"
  /-- Whether `replay_storage_` is configured. -/
  hasReplayStorage : Bool := false
  /-- The maps of `SyncCapture`. -/
  snapshots : String → Option Snapshot := fun _ => none
  settlements : String → Option String := fun _ => none
  instanceFrames : String → Option UInt32 := fun _ => none
  /-- A missing entry is made with 0. -/
  instanceLastTickMs : String → ℤ := fun _ => 0
  latestSnapshots : String → Option CachedBattleSnapshot := fun _ => none
  replayFrames : String → Option (List ReplayFrameCacheEntry) := fun _ => none
  battleItems : String → BattleItemState := fun _ => {}
  /-- The files of `replay_storage_`, each as the document that its text reads back as. -/
  storedReplays : String → Option Json := fun _ => none

/-! ## JSON helpers -/

/-- `value(key, "")` of an object whose member is a string. -/
def textMember (key : String) (j : Json) : String := ((j.find? key).bind Json.string?).getD ""

/-- What a loop over a document visits. -/
def elements : Json → List Json
  | .array xs => xs
  | _ => []

/-- `speed_buff_user_from_snapshot`. -/
def speedBuffUserFromSnapshot (snapshot : Json) : Option String :=
  (snapshot.find? "buffs").bind fun buffs =>
    ((elements buffs).filter fun buff => textMember "type" buff = "speed").findSome? fun buff =>
      let userId := textMember "user_id" buff
      if userId = "" then none else some userId

/-- `apply_speed_buff_if_present`. -/
def applySpeedBuffIfPresent (snapshot : Json) : Json :=
  match speedBuffUserFromSnapshot snapshot, snapshot.find? "participants" with
  | some user, some (.array ps) =>
    snapshot.set "participants" <| .array <| ps.map fun p =>
      if textMember "user_id" p = user then p.set "speed_multiplier" (.integer 2) else p
  | _, _ => snapshot

/-- The participants in a snapshot. -/
def extractParticipantsFromSnapshot (payload : String) : Json :=
  ((parseDocument payload).bind (·.find? "participants")).getD (.array [])

/-- The item that an input picks up. -/
def parsePickupInput (inputData : String) : Option String :=
  (after "pickup:" inputData.toList).bind fun itemId =>
    if itemId = [] then none else some (String.ofList itemId)

/-- The name of the item of a battle. -/
def itemIdFor (battleId : String) : String := "boost_" ++ battleId

namespace BattleBackend

/-! ## Sections -/

/-- `store_snapshot` for the snapshots among the events. -/
def captureSnapshots (snapshots : String → Option Snapshot) (events : List RuntimeEvent) :
    String → Option Snapshot :=
  events.foldl (fun snapshots e => match e with
    | .snapshotAvailable id snapshot => Function.update snapshots id (some snapshot)
    | _ => snapshots) snapshots

/-- `store_settlement` for the settlements among the events. -/
def captureSettlements (settlements : String → Option String) (events : List RuntimeEvent) :
    String → Option String :=
  events.foldl (fun settlements e => match e with
    | .instanceFinished id settlement =>
      Function.update settlements id (some settlement.resultPayload)
    | _ => settlements) settlements

variable (s : BattleBackend)

/-- The runtime goes on to `r`, and the event callback sees what it emits. -/
def capture (r : InstanceRuntime (Option PluginState)) : BattleBackend :=
  let events := r.log.drop s.runtime.log.length
  { s with
    runtime := r
    snapshots := captureSnapshots s.snapshots events
    settlements := captureSettlements s.settlements events }

/-- `submit_input` of the runtime. -/
def submitInput (s : BattleBackend) (input : InputEnvelope) : BattleBackend × InputResult :=
  let (r, result) := s.runtime.submitInput input
  (s.capture r, result)

/-- `tick_instance` of the runtime. -/
def tickInstance (s : BattleBackend) (battleId : String) (frameNumber : UInt32) (nowMs : ℤ) :
    BattleBackend × TickStats :=
  let (r, stats) := s.runtime.tickInstance battleId frameNumber nowMs
  (s.capture r, stats)

/-- `finish_instance` of the runtime. -/
def finishInstance (s : BattleBackend) (battleId : String) (reason : FinishReason) :
    BattleBackend :=
  s.capture (s.runtime.finishInstance battleId reason)

/-- The snapshot of the battle is taken. -/
def consumeSnapshot (battleId : String) : BattleBackend × Snapshot :=
  ({ s with snapshots := Function.update s.snapshots battleId none },
    (s.snapshots battleId).getD {})

/-- The settlement of the battle is taken. -/
def consumeSettlement (battleId : String) : BattleBackend × String :=
  ({ s with settlements := Function.update s.settlements battleId none },
    (s.settlements battleId).getD "")

/-- `get_instance_frame`. -/
def getInstanceFrame (battleId : String) : UInt32 :=
  (s.instanceFrames battleId).getD 0

/-- `set_instance_frame`. -/
def setInstanceFrame (battleId : String) (frame : UInt32) : BattleBackend :=
  { s with instanceFrames := Function.update s.instanceFrames battleId (some frame) }

/-- Whether 50 ms have passed since the last tick that a query drove. -/
def tickIsDue (battleId : String) (nowMs : ℤ) : Bool :=
  ¬(0 < s.instanceLastTickMs battleId ∧ nowMs - s.instanceLastTickMs battleId < 50)

/-- `should_tick_instance`. -/
def shouldTickInstance (battleId : String) (nowMs : ℤ) : BattleBackend × Bool :=
  if s.tickIsDue battleId nowMs then
    ({ s with instanceLastTickMs := Function.update s.instanceLastTickMs battleId nowMs }, true)
  else (s, false)

/-- `set_latest_snapshot`. -/
def setLatestSnapshot (battleId : String) (frame : UInt32) (payload : String) : BattleBackend :=
  let cached : CachedBattleSnapshot := { frameNumber := frame, payload := payload }
  { s with latestSnapshots := Function.update s.latestSnapshots battleId (some cached) }

/-- `append_replay_frame`. -/
def appendReplayFrame (battleId : String) (frame : UInt32) (entry : Json) : BattleBackend :=
  let entries := (s.replayFrames battleId).getD [] ++ [{ frameNumber := frame, frame := entry }]
  { s with replayFrames := Function.update s.replayFrames battleId (some entries) }

/-- The frames kept for the replay, as a document. -/
def replayDoc (battleId : String) : Option Json :=
  (s.replayFrames battleId).map fun entries => .ofMembers
    [("battle_id", .string battleId),
     ("frame_count", .unsigned (.ofNat entries.length)),
     ("frames", .array (entries.map (·.frame)))]

/-- The frame number is forgotten. -/
def eraseInstanceFrame (battleId : String) : BattleBackend :=
  { s with
    instanceFrames := Function.update s.instanceFrames battleId none
    instanceLastTickMs := Function.update s.instanceLastTickMs battleId 0
    latestSnapshots := Function.update s.latestSnapshots battleId none
    battleItems := Function.update s.battleItems battleId {} }

/-- `item_snapshot_for` : the items, events and buffs of a battle. -/
def itemSnapshotFor (battleId : String) (pickupUserId : Option String) :
    BattleBackend × List Json × List Json × List Json :=
  let itemId := itemIdFor battleId
  let before := s.battleItems battleId
  let (state, events) : BattleItemState × List Json := match pickupUserId with
    | some userId =>
      if before.picked then (before, [])
      else ({ picked := true, pickedBy := userId },
        [.ofMembers [("type", .string "item_pickup"), ("actor", .string userId),
          ("item_id", .string itemId), ("item_type", .string "speed"),
          ("buff_type", .string "speed"), ("remaining_ticks", .integer 90)]])
    | none => (before, [])
  let items : List Json := if state.picked then [] else
    [.ofMembers [("id", .string itemId), ("type", .string "speed"), ("x", .integer 3),
      ("y", .integer 2), ("remaining_ticks", .integer 600)]]
  let buffs : List Json := if state.picked then
    [.ofMembers [("user_id", .string state.pickedBy), ("type", .string "speed"),
      ("remaining_ticks", .integer 90)]] else []
  ({ s with battleItems := Function.update s.battleItems battleId state }, items, events, buffs)

/-- `enrich_snapshot_with_items` and `apply_speed_buff_if_present`. -/
def enrichSnapshot (battleId : String) (pickupUserId : Option String)
    (snapshot : Json) : BattleBackend × Json :=
  let (s, items, events, buffs) := s.itemSnapshotFor battleId pickupUserId
  let snapshot := (snapshot.set "items" (.array items)).set "buffs" (.array buffs)
  let snapshot := match snapshot.find? "events" with
    | some (.array before) => snapshot.set "events" (.array (before ++ events))
    | _ => snapshot.set "events" (.array events)
  (s, applySpeedBuffIfPresent snapshot)

/-- What the handlers of an input and of a query do with the snapshot of a tick : it is
consumed, enriched and kept as the latest one. -/
def takeSnapshot (battleId : String) (frame : UInt32)
    (pickupUserId : Option String) : BattleBackend × String × Option Json :=
  let (s, snapshot) := s.consumeSnapshot battleId
  match parseDocument snapshot.payload with
  | some doc =>
    let (s, doc) := s.enrichSnapshot battleId pickupUserId doc
    let payload := dumpText s.lib doc
    (s.setLatestSnapshot battleId frame payload, payload, some doc)
  | none =>
    (if snapshot.payload = "" then s else s.setLatestSnapshot battleId frame snapshot.payload,
      snapshot.payload, none)

/-! ## Requests -/

/-- The members of a `battle_finished` push that the settlement gives. -/
def settlementMembers (settlement : String) : List (String × Json) :=
  match parseDocument settlement with
  | none => []
  | some doc =>
    (match doc.find? "winner_user_id" with
      | none | some .null => []
      | some user => [("winner_user_id", user)]) ++
    (match doc.find? "scores" with
      | none => []
      | some scores => [("scores", scores)]) ++
    match doc.find? "reason" with
      | some (.string reason) => [("reason", .string reason)]
      | _ => []

/-- The push that a battle is over. -/
def finishedPush (battleId reason : String) (totalFrames : UInt32) (settlement : String) : Json :=
  .ofMembers <|
    [("kind", Json.string "battle_finished"),
     ("battle_id", .string battleId),
     ("reason", .string reason),
     ("total_frames", .unsigned totalFrames.toUInt64)] ++
    if settlement = "" then [] else settlementMembers settlement

/-- `battle_create`. -/
def battleCreate (nowMs : ℤ) (battleId roomId : String)
    (playerIds : List String) (maxFrames : UInt32) : BattleBackend × Reply :=
  let (r, instanceId) := s.runtime.createInstance nowMs
    { instanceId := battleId
      roomId := roomId
      instanceType := s.instanceType
      players := playerIds.map fun userId => { userId := userId }
      tickIntervalMs := 33
      maxFrames := maxFrames
      resumeWindowMs := 30000 }
  let s := s.capture r
  if instanceId = "" then (s, .error (-2004) "battle_already_exists")
  else
    let ids := Json.array (playerIds.map .string)
    (s.setInstanceFrame battleId 0,
      makeOk [("battle_id", .string battleId), ("room_id", .string roomId), ("player_ids", ids),
        ("push_to_sessions", .array [.ofMembers
          [("kind", .string "battle_started"), ("battle_id", .string battleId),
           ("room_id", .string roomId), ("player_ids", ids)]])])

/-- The push of a frame that an input drove. -/
def framePush (battleId userId : String) (frame : UInt32) (ackSeq : UInt64) (payload : String)
    (snapshot : Option Json) : Json :=
  let participants := extractParticipantsFromSnapshot payload
  .ofMembers <|
    [("kind", Json.string "frame_advanced"),
     ("battle_id", .string battleId),
     ("frame_number", .unsigned frame.toUInt64),
     ("trigger", .string ("input:" ++ userId ++ ":" ++ toString ackSeq.toNat))] ++
    (if elements participants = [] then [] else [("participants", participants)]) ++
    (snapshot.map fun doc => ["items", "events", "buffs", "bullets"].filterMap fun key =>
      (doc.find? key).map (key, ·)).getD []

/-- The frame as the replay keeps it. -/
def replayEntry (battleId : String) (frame : UInt32) (nowMs : ℤ) (snapshot : Option Json) : Json :=
  .ofMembers <|
    [("battle_id", .string battleId),
     ("frame_number", .unsigned frame.toUInt64),
     ("timestamp", intJson nowMs)] ++
    (snapshot.map fun doc => ("snapshot", doc)).toList

/-- What `handle_battle_input` does after the tick. `stored` tells whether the write-behind
queue takes the replay. -/
def afterInput (nowMs : ℤ) (stored : Bool) (userId battleId inputData : String)
    (ackSeq : UInt64) (stats : TickStats) : BattleBackend × Reply :=
  let frame := stats.frameNumber
  let pickup := if parsePickupInput inputData = some (itemIdFor battleId) then some userId else none
  let (s, payload, doc) := s.takeSnapshot battleId frame pickup
  let entry := replayEntry battleId frame nowMs doc
  let s := s.appendReplayFrame battleId frame entry
  let frameAdvanced := framePush battleId userId frame ackSeq payload doc
  let reply (pushes : List Json) : Reply := makeOk
    [("battle_id", .string battleId), ("input_seq", .unsigned ackSeq),
     ("frame_number", .unsigned frame.toUInt64), ("should_finish", .bool stats.shouldFinish),
     ("push_to_sessions", .array pushes)]
  if stats.shouldFinish then
    let (s, settlement) := s.consumeSettlement battleId
    let s := if s.hasReplayStorage ∧ stored then
        { s with storedReplays := Function.update s.storedReplays battleId (some entry.asRead) }
      else s
    (s, reply [frameAdvanced, finishedPush battleId "finished" frame settlement])
  else (s, reply [frameAdvanced])

/-- `battle_input`. -/
def battleInput (nowMs : ℤ) (stored : Bool)
    (userId battleId inputData : String) : BattleBackend × Reply :=
  if (s.runtime.find battleId).isNone then (s, .error (-2003) "battle_not_found")
  else
    let (s, result) :=
      s.submitInput { instanceId := battleId, userId := userId, payload := inputData }
    if result.accepted then
      let nextFrame := s.getInstanceFrame battleId + 1
      let (s, stats) := s.tickInstance battleId nextFrame nowMs
      let s := s.setInstanceFrame battleId stats.frameNumber
      s.afterInput nowMs stored userId battleId inputData result.ackSeq stats
    else (s, .error (-3002) result.rejectReason)

/-- What `handle_battle_state` answers, with the frame it found or ticked. -/
def afterState (battleId : String) (found : Bool) (frame : UInt32) : BattleBackend × Reply :=
  let cached := s.latestSnapshots battleId
  if found = false ∧ cached.isNone then (s, .error (-2003) "battle_not_found")
  else
    let state : List (String × Json) :=
      [("kind", .string "frame_advanced"), ("battle_id", .string battleId),
       ("frame_number", .unsigned frame.toUInt64), ("is_resume", .bool true)]
    let reply (state : List (String × Json)) : Reply := makeOk
      [("battle_id", .string battleId), ("frame_number", .unsigned frame.toUInt64),
       ("snapshot", .ofMembers state)]
    match cached.bind fun c => if c.payload = "" then none else some c.payload with
    | none => (s, reply state)
    | some payload =>
      let participants := extractParticipantsFromSnapshot payload
      let shown := if elements participants = [] then [] else [("participants", participants)]
      match parseDocument payload with
      | none => (s, reply (state ++ shown))
      | some doc =>
        let (s, doc) := s.enrichSnapshot battleId none doc
        (s, reply (state ++ ("snapshot", doc) :: shown))

/-- `battle_state`. -/
def battleState (nowMs : ℤ) (battleId : String) : BattleBackend × Reply :=
  if battleId = "" then (s, .error (-1004) "empty_battle_id")
  else if (s.runtime.find battleId).isNone then
    s.afterState battleId false (s.getInstanceFrame battleId)
  else
    let frame := s.getInstanceFrame battleId
    let (s, due) := s.shouldTickInstance battleId nowMs
    if due then
      let (s, stats) := s.tickInstance battleId (frame + 1) nowMs
      let s := s.setInstanceFrame battleId stats.frameNumber
      let (s, _, _) := s.takeSnapshot battleId stats.frameNumber none
      s.afterState battleId true stats.frameNumber
    else s.afterState battleId true frame

/-- `battle_finish`. -/
def battleFinish (battleId : String) (hasReason : Bool) : BattleBackend × Reply :=
  let s := s.finishInstance battleId .kUserRequested
  let (s, settlement) := s.consumeSettlement battleId
  let totalFrames := s.getInstanceFrame battleId
  let push := finishedPush battleId (if hasReason then "user_requested" else "finished")
    totalFrames settlement
  (s.eraseInstanceFrame battleId,
    makeOk [("battle_id", .string battleId), ("reason", (push.find? "reason").getD .null),
      ("total_frames", .unsigned totalFrames.toUInt64), ("push_to_sessions", .array [push])])

/-- `replay_load`. -/
def replayLoad (battleId : String) : Reply :=
  let reply (replay : Json) : Reply :=
    makeOk [("battle_id", .string battleId), ("replay", replay)]
  if battleId = "" then .error (-1004) "empty_battle_id"
  else
    match (if s.hasReplayStorage then s.storedReplays battleId else none), s.replayDoc battleId with
    | some stored, _ => reply stored
    | none, some cached => reply cached
    | none, none => .error (-2003) "replay_not_found"

end BattleBackend

/-- The pushes of a reply. -/
def Reply.pushes : Reply → List Json
  | .ok body => ((body.find? "push_to_sessions").map elements).getD []
  | .error _ _ => []

/-! ## What a call does -/

/-- The part of a service that decides how a battle goes and what is told of its end. -/
structure Core where
  lib : Libraries
  runtime : InstanceRuntime (Option PluginState)
  instanceType : String
  hasReplayStorage : Bool
  settlements : String → Option String
  replayFrames : String → Option (List ReplayFrameCacheEntry)
  storedReplays : String → Option Json

/-- A whole tick of a battle, as the runtime has it. -/
def Core.tickOf (c : Core) (battleId : String) (inst : InternalInstance (Option PluginState))
    (frame : UInt32) (nowMs : ℤ) :
    InternalInstance (Option PluginState) × TickStats × List RuntimeEvent :=
  InstanceRuntime.runTick c.runtime.movedFrom battleId inst frame nowMs

/-- The core with the battle changed to `inst` and what is emitted captured. -/
def Core.put (c : Core) (battleId : String) (inst : InternalInstance (Option PluginState))
    (events : List RuntimeEvent) : Core :=
  { c with
    runtime := c.runtime.put battleId inst events
    settlements := BattleBackend.captureSettlements c.settlements events }

/-- The runtime has the battle plugin and no other. -/
def Core.Configured (c : Core) : Prop :=
  c.runtime.pluginFactories = fun type =>
    if type = "battle" then some (battleInstancePlugin c.lib, none) else none

/-- The settlement of the battle is consumed. -/
def Core.consume (c : Core) (battleId : String) : Core :=
  { c with settlements := Function.update c.settlements battleId none }

/-- The core after an input was recorded : the frame is in the replay, and a settlement is
consumed at the end. -/
def Core.record (c : Core) (battleId : String) (stats : TickStats) (entry : Json)
    (stored : Bool) : Core :=
  let entries := (c.replayFrames battleId).getD [] ++
    [{ frameNumber := stats.frameNumber, frame := entry }]
  let c := { c with replayFrames := Function.update c.replayFrames battleId (some entries) }
  if stats.shouldFinish then
    { c with
      settlements := Function.update c.settlements battleId none
      storedReplays := if c.hasReplayStorage ∧ stored then
        Function.update c.storedReplays battleId (some entry.asRead) else c.storedReplays }
  else c

/-- A battle that was just created. -/
structure IsNew (lib : Libraries) (inst : InternalInstance (Option PluginState)) : Prop where
  battle : IsBattle lib inst
  state : inst.state = .kWaitingPlayers
  queue : inst.inputQueue = []
  currentFrame : inst.currentFrame = 0
  lifecycle : inst.ctx.pluginState.map (·.world.lifecycle) = some .kRunning

/-- The instance with an input in its queue, as `submit_input` leaves it. -/
def queued (inst : InternalInstance (Option PluginState)) (input : InputEnvelope) :
    InternalInstance (Option PluginState) :=
  { inst with
    playerInputState := Function.update inst.playerInputState input.userId
      { inst.playerInputState input.userId with lastSeq := input.seq }
    inputQueue := inst.inputQueue ++ [input]
    ackSeqCounter := inst.ackSeqCounter + 1 }

@[simp] theorem Core.runtime_record (c : Core) (battleId : String) (stats : TickStats)
    (entry : Json) (stored : Bool) : (c.record battleId stats entry stored).runtime = c.runtime := by
  unfold Core.record
  dsimp only
  split_ifs <;> rfl

@[simp] theorem Core.lib_record (c : Core) (battleId : String) (stats : TickStats)
    (entry : Json) (stored : Bool) : (c.record battleId stats entry stored).lib = c.lib := by
  unfold Core.record
  dsimp only
  split_ifs <;> rfl

@[simp] theorem Core.instanceType_record (c : Core) (battleId : String) (stats : TickStats)
    (entry : Json) (stored : Bool) :
    (c.record battleId stats entry stored).instanceType = c.instanceType := by
  unfold Core.record
  dsimp only
  split_ifs <;> rfl

theorem Core.put_put (c : Core) (battleId : String)
    (inst inst' : InternalInstance (Option PluginState)) (events events' : List RuntimeEvent) :
    (c.put battleId inst events).put battleId inst' events' =
      c.put battleId inst' (events ++ events') := by
  simp [Core.put, InstanceRuntime.put_put, BattleBackend.captureSettlements]

namespace BattleBackend

/-- The core of a service. -/
def core (s : BattleBackend) : Core where
  lib := s.lib
  runtime := s.runtime
  instanceType := s.instanceType
  hasReplayStorage := s.hasReplayStorage
  settlements := s.settlements
  replayFrames := s.replayFrames
  storedReplays := s.storedReplays

variable (s : BattleBackend)

theorem capture_runtime : s.capture s.runtime = s := by
  simp [capture, captureSnapshots, captureSettlements]

theorem core_capture_put (id : String) (inst : InternalInstance (Option PluginState))
    (events : List RuntimeEvent) :
    (s.capture (s.runtime.put id inst events)).core = s.core.put id inst events := by
  simp [capture, InstanceRuntime.put, core, Core.put]

variable (battleId : String)

@[simp] theorem core_setInstanceFrame (frame : UInt32) :
    (s.setInstanceFrame battleId frame).core = s.core := rfl

variable (nowMs : ℤ)

@[simp] theorem core_shouldTickInstance :
    (s.shouldTickInstance battleId nowMs).1.core = s.core := by
  unfold shouldTickInstance
  split_ifs <;> rfl

@[simp] theorem core_takeSnapshot (frame : UInt32) (pickup : Option String) :
    (s.takeSnapshot battleId frame pickup).1.core = s.core := by
  unfold takeSnapshot
  dsimp only
  split
  · rfl
  · split_ifs <;> rfl

@[simp] theorem core_afterState (found : Bool) (frame : UInt32) :
    (s.afterState battleId found frame).1.core = s.core := by
  unfold afterState
  dsimp only
  split_ifs
  · rfl
  · split
    · rfl
    · split <;> rfl

@[simp] theorem instanceFrames_takeSnapshot (frame : UInt32) (pickup : Option String) :
    (s.takeSnapshot battleId frame pickup).1.instanceFrames = s.instanceFrames := by
  unfold takeSnapshot
  dsimp only
  split
  · rfl
  · split_ifs <;> rfl

@[simp] theorem instanceFrames_afterState (found : Bool) (frame : UInt32) :
    (s.afterState battleId found frame).1.instanceFrames = s.instanceFrames := by
  unfold afterState
  dsimp only
  split_ifs
  · rfl
  · split
    · rfl
    · split <;> rfl

@[simp] theorem instanceFrames_shouldTickInstance :
    (s.shouldTickInstance battleId nowMs).1.instanceFrames = s.instanceFrames := by
  unfold shouldTickInstance
  split_ifs <;> rfl

@[simp] theorem instanceFrames_afterInput (stored : Bool)
    (userId battleId inputData : String) (ackSeq : UInt64) (stats : TickStats) :
    (s.afterInput nowMs stored userId battleId inputData ackSeq stats).1.instanceFrames =
      s.instanceFrames := by
  unfold afterInput
  dsimp only
  generalize (if parsePickupInput inputData = some (itemIdFor battleId) then some userId
    else none) = pickup
  have hframes := instanceFrames_takeSnapshot s battleId stats.frameNumber pickup
  rcases hsnap : s.takeSnapshot battleId stats.frameNumber pickup with ⟨s', payload, doc⟩
  rw [hsnap] at hframes
  rw [← hframes]
  cases stats.shouldFinish with
  | false => simp [appendReplayFrame]
  | true =>
    simp only [if_true]
    split_ifs <;> simp [appendReplayFrame, consumeSettlement]

@[simp] theorem pushes_afterState (found : Bool) (frame : UInt32) :
    (s.afterState battleId found frame).2.pushes = [] := by
  unfold afterState
  dsimp only
  split_ifs
  · rfl
  · split
    · simp [makeOk, Reply.pushes, Json.find?_ofMembers]
    · split <;> simp [makeOk, Reply.pushes, Json.find?_ofMembers]

/-- An input is refused and nothing changes, or it is queued. -/
theorem submitInput_cases (input : InputEnvelope) :
    ((s.submitInput input).1 = s ∧ (s.submitInput input).2.accepted = false) ∨
    ∃ inst, s.runtime.find input.instanceId = some inst ∧ inst.state.isActive ∧
      (s.submitInput input).2.accepted = true ∧ (s.submitInput input).1 =
        s.capture (s.runtime.put input.instanceId (queued inst input)
          [.inputAccepted input.instanceId input]) := by
  rcases s.runtime.submitInput_cases input with
    ⟨heq, hrefused⟩ | ⟨inst, hfind, hactive, -, haccepted, heq⟩
  · refine .inl ⟨?_, hrefused⟩
    rw [submitInput]
    dsimp only
    rw [heq, capture_runtime]
  · exact .inr ⟨inst, hfind, hactive, haccepted, congrArg s.capture heq⟩

variable {s} in
theorem tickInstance_of_isActive {battleId : String}
    {inst : InternalInstance (Option PluginState)} (hfind : s.runtime.find battleId = some inst)
    (hactive : inst.state.isActive) (frame : UInt32) (nowMs : ℤ) :
    (s.tickInstance battleId frame nowMs).1.core =
        s.core.put battleId (s.core.tickOf battleId inst frame nowMs).1
          (s.core.tickOf battleId inst frame nowMs).2.2 ∧
      (s.tickInstance battleId frame nowMs).2 = (s.core.tickOf battleId inst frame nowMs).2.1 := by
  rw [tickInstance, InstanceRuntime.tickInstance_of_isActive hfind hactive]
  exact ⟨core_capture_put s battleId _ _, rfl⟩

variable {s} in
theorem tickInstance_of_not_isActive {battleId : String}
    (h : ∀ inst, s.runtime.find battleId = some inst → inst.state.isActive = false)
    (frame : UInt32) (nowMs : ℤ) : (s.tickInstance battleId frame nowMs).1 = s := by
  obtain ⟨hr, -⟩ := InstanceRuntime.tickInstance_of_not_isActive h frame nowMs
  rw [tickInstance]
  dsimp only
  rw [hr, capture_runtime]

/-- A tick finds no active battle and changes nothing, or it is a whole tick of the battle. -/
theorem tickInstance_cases (frame : UInt32) (nowMs : ℤ) :
    ((s.tickInstance battleId frame nowMs).1 = s ∧
      ∀ inst, s.runtime.find battleId = some inst → inst.state.isActive = false) ∨
    ∃ inst out, s.runtime.find battleId = some inst ∧ inst.state.isActive ∧
      InstanceRuntime.runTick s.runtime.movedFrom battleId inst frame nowMs = out ∧
      (s.tickInstance battleId frame nowMs).1.core = s.core.put battleId out.1 out.2.2 ∧
      (s.tickInstance battleId frame nowMs).2 = out.2.1 := by
  by_cases hactive : ∀ inst, s.runtime.find battleId = some inst → inst.state.isActive = false
  · exact .inl ⟨tickInstance_of_not_isActive hactive frame nowMs, hactive⟩
  · push Not at hactive
    obtain ⟨inst, hfind, hactive⟩ := hactive
    obtain ⟨hcore, hstats⟩ := tickInstance_of_isActive hfind (by simpa using hactive) frame nowMs
    exact .inr ⟨inst, _, hfind, by simpa using hactive, rfl, hcore, hstats⟩

theorem pushes_battleState (battleId : String) : (s.battleState nowMs battleId).2.pushes = [] := by
  unfold battleState
  dsimp only
  split_ifs
  · rfl
  · simp
  · simp
  · simp

/-- A query leaves the core alone, or it ticks an active battle when a tick is due. -/
theorem battleState_cases (battleId : String) :
    ((s.battleState nowMs battleId).1.core = s.core ∧
      ∀ inst, s.runtime.find battleId = some inst → inst.state.isActive →
        s.tickIsDue battleId nowMs → battleId = "") ∨
    ∃ inst frame, s.runtime.find battleId = some inst ∧ inst.state.isActive ∧
      s.tickIsDue battleId nowMs ∧ frame = s.getInstanceFrame battleId + 1 ∧
      (s.battleState nowMs battleId).1.core =
        s.core.put battleId (s.core.tickOf battleId inst frame nowMs).1
          (s.core.tickOf battleId inst frame nowMs).2.2 := by
  unfold battleState
  dsimp only
  split_ifs with hid hfind hdue
  · exact .inl ⟨rfl, fun _ _ _ _ => hid⟩
  · exact .inl ⟨core_afterState s _ _ _, fun inst hinst => by simp [hinst] at hfind⟩
  · have hdue' : s.tickIsDue battleId nowMs := by
      by_contra h
      simp [shouldTickInstance, h] at hdue
    have hsame : (s.shouldTickInstance battleId nowMs).1.runtime = s.runtime :=
      congrArg Core.runtime (core_shouldTickInstance s battleId nowMs)
    obtain ⟨inst, hinst⟩ := Option.isSome_iff_exists.mp (Option.isSome_iff_ne_none.mpr (by simpa using hfind))
    rw [core_afterState, core_takeSnapshot, core_setInstanceFrame]
    by_cases hactive : inst.state.isActive
    · refine .inr ⟨inst, _, hinst, hactive, hdue', rfl, ?_⟩
      have htick := (tickInstance_of_isActive (hsame ▸ hinst) hactive
        (s.getInstanceFrame battleId + 1) nowMs).1
      rw [htick, core_shouldTickInstance]
    · refine .inl ⟨?_, fun inst' hinst' hactive' => ?_⟩
      · rw [tickInstance_of_not_isActive, core_shouldTickInstance]
        intro inst' hinst'
        rw [hsame, hinst] at hinst'
        cases hinst'
        simpa using hactive
      · rw [hinst] at hinst'
        cases hinst'
        exact absurd hactive' hactive
  · rw [core_afterState, core_shouldTickInstance]
    exact .inl ⟨rfl, fun _ _ _ hdue' => by simp [shouldTickInstance, hdue'] at hdue⟩

/-- What is left of an input after its tick : the frame is recorded and pushed, and at the
end the settlement that was captured is pushed too. -/
theorem afterInput_eq (stored : Bool) (userId battleId inputData : String)
    (ackSeq : UInt64) (stats : TickStats) : ∃ payload doc,
    (s.afterInput nowMs stored userId battleId inputData ackSeq stats).1.core =
      s.core.record battleId stats (replayEntry battleId stats.frameNumber nowMs doc) stored ∧
    (s.afterInput nowMs stored userId battleId inputData ackSeq stats).2.pushes =
      framePush battleId userId stats.frameNumber ackSeq payload doc ::
        if stats.shouldFinish then [finishedPush battleId "finished" stats.frameNumber
          ((s.core.settlements battleId).getD "")] else [] := by
  unfold afterInput
  dsimp only
  generalize (if parsePickupInput inputData = some (itemIdFor battleId) then some userId
    else none) = pickup
  have hcore := core_takeSnapshot s battleId stats.frameNumber pickup
  rcases hsnap : s.takeSnapshot battleId stats.frameNumber pickup with ⟨s', payload, doc⟩
  rw [hsnap] at hcore
  refine ⟨payload, doc, ?_⟩
  rw [← hcore]
  cases hfinish : stats.shouldFinish with
  | false =>
    exact ⟨by simp [core, Core.record, appendReplayFrame, hfinish],
      by simp [makeOk, Reply.pushes, Json.find?_ofMembers, elements]⟩
  | true =>
    refine ⟨?_, ?_⟩
    · simp only [Core.record, hfinish, if_true]
      split_ifs <;> simp_all [core, consumeSettlement, appendReplayFrame]
    · simp [makeOk, Reply.pushes, Json.find?_ofMembers, elements, consumeSettlement,
        appendReplayFrame, core]

/-- An input is refused, or it is queued and ticks its battle. -/
theorem battleInput_cases (stored : Bool) (userId battleId inputData : String) :
    ((s.battleInput nowMs stored userId battleId inputData).1.core = s.core ∧
      (s.battleInput nowMs stored userId battleId inputData).2.pushes = []) ∨
    ∃ inst input frame ackSeq payload doc out, s.runtime.find battleId = some inst ∧
      inst.state.isActive ∧ frame = s.getInstanceFrame battleId + 1 ∧
      out = s.core.tickOf battleId (queued inst input) frame nowMs ∧
      (s.battleInput nowMs stored userId battleId inputData).1.core =
        (s.core.put battleId out.1 (.inputAccepted battleId input :: out.2.2)).record battleId
          out.2.1 (replayEntry battleId out.2.1.frameNumber nowMs doc) stored ∧
      (s.battleInput nowMs stored userId battleId inputData).2.pushes =
        framePush battleId userId out.2.1.frameNumber ackSeq payload doc ::
          if out.2.1.shouldFinish then [finishedPush battleId "finished" out.2.1.frameNumber
            ((captureSettlements s.settlements out.2.2 battleId).getD "")] else [] := by
  unfold battleInput
  split_ifs with hnone
  · exact .inl ⟨rfl, rfl⟩
  · generalize hinput : ({ instanceId := battleId, userId := userId, payload := inputData } :
      InputEnvelope) = input
    have hid : input.instanceId = battleId := by rw [← hinput]
    rcases hsubmit : s.submitInput input with ⟨s₁, result⟩
    rcases s.submitInput_cases input with
      ⟨heq, hrefused⟩ | ⟨inst, hfind, hactive, haccepted, heq⟩
    · rw [hsubmit] at heq hrefused
      dsimp only at heq hrefused ⊢
      rw [hrefused, heq]
      exact .inl ⟨rfl, rfl⟩
    · rw [hsubmit, hid] at heq
      rw [hid] at hfind
      rw [hsubmit] at haccepted
      dsimp only at heq haccepted ⊢
      rw [haccepted, if_pos rfl, heq]
      have hcore := core_capture_put s battleId (queued inst input) [.inputAccepted battleId input]
      have hfound : (s.capture (s.runtime.put battleId (queued inst input)
          [.inputAccepted battleId input])).runtime.find battleId = some (queued inst input) :=
        InstanceRuntime.find_put_self _ _ _ _
      have hframe : (s.capture (s.runtime.put battleId (queued inst input)
          [.inputAccepted battleId input])).getInstanceFrame battleId =
          s.getInstanceFrame battleId := rfl
      rw [hframe]
      generalize s.capture (s.runtime.put battleId (queued inst input)
        [.inputAccepted battleId input]) = s₁ at hcore hfound ⊢
      obtain ⟨htick, hstats⟩ := tickInstance_of_isActive hfound hactive
        (s.getInstanceFrame battleId + 1) nowMs
      have hout : s₁.core.tickOf = s.core.tickOf := by rw [hcore]; rfl
      rw [hout] at htick hstats
      rw [hstats]
      generalize hgen : s.core.tickOf battleId (queued inst input)
        (s.getInstanceFrame battleId + 1) nowMs = out at htick ⊢
      obtain ⟨payload, doc, hafter, hpushes⟩ := afterInput_eq
        ((s₁.tickInstance battleId (s.getInstanceFrame battleId + 1) nowMs).1.setInstanceFrame
          battleId out.2.1.frameNumber)
        nowMs stored userId battleId inputData result.ackSeq out.2.1
      have hput : (s₁.tickInstance battleId (s.getInstanceFrame battleId + 1) nowMs).1.core =
          s.core.put battleId out.1 (.inputAccepted battleId input :: out.2.2) := by
        rw [htick, hcore, Core.put_put]
        rfl
      rw [core_setInstanceFrame, hput] at hafter hpushes
      exact .inr ⟨inst, input, _, _, payload, doc, out, hfind, hactive, rfl, hgen.symm, hafter,
        hpushes⟩

/-- A finish request settles a battle that is not finished; in any case it pushes. -/
theorem battleFinish_cases (hasReason : Bool) :
    ((s.battleFinish battleId hasReason).1.core = s.core.consume battleId ∧
      (∀ inst, s.runtime.find battleId = some inst →
        inst.state = .kFinished ∨ inst.state = .kClosed) ∧
      ∃ reason totalFrames, (s.battleFinish battleId hasReason).2.pushes =
        [finishedPush battleId reason totalFrames ((s.settlements battleId).getD "")]) ∨
    ∃ inst out, s.runtime.find battleId = some inst ∧ inst.state ≠ .kFinished ∧
      out = InstanceRuntime.finished battleId inst .kUserRequested ∧
      (s.battleFinish battleId hasReason).1.core =
        (s.core.put battleId out.1 out.2).consume battleId ∧
      ∃ reason totalFrames, (s.battleFinish battleId hasReason).2.pushes =
        [finishedPush battleId reason totalFrames
          ((captureSettlements s.settlements out.2 battleId).getD "")] := by
  rcases s.runtime.finishInstance_cases battleId .kUserRequested with
    ⟨heq, hdone⟩ | ⟨inst, hfind, hfinished, -, heq⟩
  · rw [battleFinish, finishInstance, heq, capture_runtime]
    refine .inl ⟨rfl, hdone, ?_⟩
    exact ⟨_, _, by simp [makeOk, Reply.pushes, Json.find?_ofMembers, elements,
        consumeSettlement]; rfl⟩
  · rw [battleFinish, finishInstance, heq]
    generalize hout : InstanceRuntime.finished battleId inst .kUserRequested = out
    have hcore := core_capture_put s battleId out.1 out.2
    generalize s.capture (s.runtime.put battleId out.1 out.2) = s₁ at hcore ⊢
    have hsettlements : s₁.settlements = captureSettlements s.settlements out.2 :=
      congrArg Core.settlements hcore
    refine .inr ⟨inst, out, hfind, hfinished, hout.symm, ?_, ?_⟩
    · rw [← hcore]
      rfl
    · rw [← hsettlements]
      exact ⟨_, _, by simp [makeOk, Reply.pushes, Json.find?_ofMembers, elements,
        consumeSettlement]; rfl⟩

/-- A replay is not there, or it is the stored one or the one in memory. -/
theorem replayLoad_cases :
    (∃ code reason, s.replayLoad battleId = .error code reason) ∨
    ∃ replay, (s.storedReplays battleId = some replay ∨ s.replayDoc battleId = some replay) ∧
      s.replayLoad battleId = makeOk [("battle_id", .string battleId), ("replay", replay)] := by
  unfold replayLoad
  dsimp only
  generalize hstored : (if s.hasReplayStorage then s.storedReplays battleId else none) = stored
  by_cases hid : battleId = ""
  · rw [if_pos hid]
    exact .inl ⟨_, _, rfl⟩
  rw [if_neg hid]
  cases stored with
  | some replay =>
    have hreplay : s.storedReplays battleId = some replay := by
      split_ifs at hstored
      exact hstored
    exact .inr ⟨replay, .inl hreplay, rfl⟩
  | none =>
    cases hcached : s.replayDoc battleId with
    | some replay => exact .inr ⟨replay, .inr rfl, rfl⟩
    | none => exact .inl ⟨_, _, rfl⟩

theorem pushes_replayLoad : (s.replayLoad battleId).pushes = [] := by
  rcases s.replayLoad_cases battleId with ⟨code, reason, heq⟩ | ⟨replay, -, heq⟩
  · rw [heq]
    rfl
  · rw [heq]
    simp [makeOk, Reply.pushes, Json.find?_ofMembers]

/-- The arguments of `create_instance` for a battle. -/
def createArgs (battleId roomId : String) (playerIds : List String) (maxFrames : UInt32) :
    InstanceRuntime.CreateArgs where
  instanceId := battleId
  roomId := roomId
  instanceType := s.instanceType
  players := playerIds.map fun userId => { userId := userId }
  tickIntervalMs := 33
  maxFrames := maxFrames
  resumeWindowMs := 30000

variable {s} in
theorem createInstance_cases (h : s.core.Configured) (nowMs : ℤ) (battleId roomId : String)
    (playerIds : List String) (maxFrames : UInt32) :
    (s.runtime.createInstance nowMs (s.createArgs battleId roomId playerIds maxFrames) =
        (s.runtime, "") ∧
      (s.instanceType = "battle" → s.runtime.find battleId = none →
        s.runtime.maxInstances.toNat ≤ s.runtime.instances.keys.length)) ∨
    ∃ inst, s.runtime.find battleId = none ∧
      s.runtime.instances.keys.length < s.runtime.maxInstances.toNat ∧ IsNew s.lib inst ∧
      s.runtime.createInstance nowMs (s.createArgs battleId roomId playerIds maxFrames) =
        (s.runtime.put battleId inst [.instanceCreated battleId], battleId) := by
  have hid : (s.createArgs battleId roomId playerIds maxFrames).instanceId = battleId := rfl
  have htype : (s.createArgs battleId roomId playerIds maxFrames).instanceType =
    s.instanceType := rfl
  have hplugins : s.runtime.pluginFactories = fun type =>
    if type = "battle" then some (battleInstancePlugin s.lib, none) else none := h
  rw [InstanceRuntime.createInstance, hid, htype, hplugins]
  split_ifs with hfind hsize
  · exact .inl ⟨rfl, fun _ hnone => by simp [hnone] at hfind⟩
  · exact .inl ⟨rfl, fun _ _ => hsize⟩
  · by_cases hbattle : s.instanceType = "battle"
    · simp only [hbattle, if_true]
      exact .inr ⟨_, by simpa using hfind, by omega, ⟨⟨rfl, rfl⟩, rfl, rfl, rfl, rfl⟩, rfl⟩
    · simp only [hbattle, if_false]
      exact .inl ⟨trivial, nofun⟩

variable {s} in
/-- A creation is refused, or there is a new battle that waits for its players. -/
theorem battleCreate_cases (h : s.core.Configured) (nowMs : ℤ) (battleId roomId : String)
    (playerIds : List String) (maxFrames : UInt32) :
    ((s.battleCreate nowMs battleId roomId playerIds maxFrames).1 = s ∧
      (∃ code reason, (s.battleCreate nowMs battleId roomId playerIds maxFrames).2 =
        .error code reason) ∧
      (s.instanceType = "battle" → s.runtime.find battleId = none →
        s.runtime.maxInstances.toNat ≤ s.runtime.instances.keys.length)) ∨
    ∃ inst, s.runtime.find battleId = none ∧
      s.runtime.instances.keys.length < s.runtime.maxInstances.toNat ∧ IsNew s.lib inst ∧
      (s.battleCreate nowMs battleId roomId playerIds maxFrames).1.core =
        s.core.put battleId inst [.instanceCreated battleId] ∧
      (battleId ≠ "" →
        (s.battleCreate nowMs battleId roomId playerIds maxFrames).1.instanceFrames =
          Function.update s.instanceFrames battleId (some 0) ∧
        ∃ body, (s.battleCreate nowMs battleId roomId playerIds maxFrames).2 = .ok body) ∧
      ∀ push ∈ (s.battleCreate nowMs battleId roomId playerIds maxFrames).2.pushes,
        textMember "kind" push = "battle_started" := by
  have hargs : s.battleCreate nowMs battleId roomId playerIds maxFrames =
      let (r, instanceId) :=
        s.runtime.createInstance nowMs (s.createArgs battleId roomId playerIds maxFrames)
      if instanceId = "" then (s.capture r, .error (-2004) "battle_already_exists")
      else ((s.capture r).setInstanceFrame battleId 0, makeOk
        [("battle_id", .string battleId), ("room_id", .string roomId),
         ("player_ids", .array (playerIds.map .string)),
         ("push_to_sessions", .array [.ofMembers
          [("kind", .string "battle_started"), ("battle_id", .string battleId),
           ("room_id", .string roomId), ("player_ids", .array (playerIds.map .string))]])]) := rfl
  rw [hargs]
  rcases createInstance_cases h nowMs battleId roomId playerIds maxFrames with
    ⟨heq, hfull⟩ | ⟨inst, hfind, hsize, hnew, heq⟩
  · rw [heq]
    dsimp only
    rw [if_pos rfl, capture_runtime]
    exact .inl ⟨rfl, ⟨_, _, rfl⟩, hfull⟩
  · rw [heq]
    dsimp only
    have hcore := core_capture_put s battleId inst [.instanceCreated battleId]
    refine .inr ⟨inst, hfind, hsize, hnew, ?_⟩
    split_ifs with hid
    · exact ⟨hcore, fun hne => absurd hid hne, by simp [Reply.pushes]⟩
    · refine ⟨hcore, fun _ => ⟨rfl, _, rfl⟩, ?_⟩
      simp [makeOk, Reply.pushes, Json.find?_ofMembers, elements, textMember, Json.string?]

end BattleBackend

/-! ## Reading requests -/

/-- A request whose fields were read. -/
inductive BattleCall
  | battleCreate (nowMs : ℤ) (battleId roomId : String) (playerIds : List String)
      (maxFrames : UInt32)
  | battleInput (nowMs : ℤ) (stored : Bool) (userId battleId inputData : String)
  | battleState (nowMs : ℤ) (battleId : String)
  | battleFinish (battleId : String) (hasReason : Bool)
  | replayLoad (battleId : String)

/-- The requests. -/
inductive BattleMessage
  | battleCreate
  | battleInput
  | battleState
  | battleFinish
  | replayLoad
  deriving DecidableEq, Repr

/-- A request as it comes, with the clock when it is handled and whether the write-behind
queue takes a replay then. -/
structure BattleRequest where
  kind : BattleMessage
  payload : Option Json
  nowMs : ℤ
  stored : Bool := true

open Room.RoomBackend (fields stringField)
open Json (value getInt32 getString)

/-- The fields of a request : they may throw, and they may be refused for a reason. -/
def BattleRequest.read (req : BattleRequest) : Except Json.TypeError (String ⊕ BattleCall) :=
  let withFields (keys : List String) (k : Json → Except Json.TypeError (String ⊕ BattleCall)) :=
    match fields keys req.payload with
    | none => .ok (.inl "invalid_json")
    | some doc => k doc
  match req.kind with
  | .battleCreate => withFields ["battle_id", "room_id", "player_ids"] fun doc => do
    let battleId ← stringField doc "battle_id"
    let roomId ← stringField doc "room_id"
    let maxFrames ← doc.value getInt32 "max_frames" 0
    if battleId = "" ∨ roomId = "" then return .inl "empty_fields"
    match doc.find? "player_ids" with
    | some (.array ids) =>
      if ids.length < 2 then return .inl "need_at_least_two_players"
      let playerIds ← ids.mapM getString
      return .inr (.battleCreate req.nowMs battleId roomId playerIds maxFrames.toUInt32)
    | _ => return .inl "need_at_least_two_players"
  | .battleInput => withFields ["user_id", "battle_id", "input_data"] fun doc => do
    let userId ← stringField doc "user_id"
    let battleId ← stringField doc "battle_id"
    let inputData ← stringField doc "input_data"
    return .inr (.battleInput req.nowMs req.stored userId battleId inputData)
  | .battleState => withFields ["battle_id"] fun doc => do
    let battleId ← stringField doc "battle_id"
    return .inr (.battleState req.nowMs battleId)
  | .battleFinish => withFields ["user_id", "battle_id"] fun doc => do
    let _ ← stringField doc "user_id"
    let battleId ← stringField doc "battle_id"
    return .inr (.battleFinish battleId (doc.find? "reason").isSome)
  | .replayLoad => withFields ["battle_id"] fun doc => do
    let battleId ← stringField doc "battle_id"
    return .inr (.replayLoad battleId)

theorem read_battleCreate {req : BattleRequest} {nowMs : ℤ} {battleId roomId : String}
    {playerIds : List String} {maxFrames : UInt32}
    (h : req.read = .ok (.inr (.battleCreate nowMs battleId roomId playerIds maxFrames))) :
    battleId ≠ "" := by
  obtain ⟨kind, payload, now, stored⟩ := req
  unfold BattleRequest.read at h
  cases kind <;> simp only [bind, Except.bind, pure, Except.pure] at h
  -- Only one path through the fields leads to a creation, and it checks the id.
  all_goals
    repeat' split at h
    all_goals first | (cases h; done) | skip
  cases h
  simp_all

namespace BattleBackend

/-- A handler is called with what its request names. -/
def call (s : BattleBackend) : BattleCall → BattleBackend × Reply
  | .battleCreate nowMs battleId roomId playerIds maxFrames =>
    s.battleCreate nowMs battleId roomId playerIds maxFrames
  | .battleInput nowMs stored userId battleId inputData =>
    s.battleInput nowMs stored userId battleId inputData
  | .battleState nowMs battleId => s.battleState nowMs battleId
  | .battleFinish battleId hasReason => s.battleFinish battleId hasReason
  | .replayLoad battleId => (s, s.replayLoad battleId)

/-- A call leaves the runtime alone, creates a battle, or changes one that is there. The
options stay as they are. -/
theorem runtime_call_cases {s : BattleBackend} (h : s.core.Configured) (c : BattleCall) :
    (s.call c).1.lib = s.lib ∧ (s.call c).1.instanceType = s.instanceType ∧
    ((s.call c).1.runtime = s.runtime ∨
      (∃ battleId inst, s.runtime.find battleId = none ∧
        (s.call c).1.runtime = s.runtime.put battleId inst [.instanceCreated battleId]) ∨
      ∃ battleId inst inst' events, s.runtime.find battleId = some inst ∧
        (∀ e ∈ events, e.id = battleId ∧ e.isWithin) ∧
        (s.call c).1.runtime = s.runtime.put battleId inst' events) := by
  suffices hcore : ∀ c' : Core, (s.call c).1.core = c' → c'.lib = s.lib ∧
      c'.instanceType = s.instanceType ∧ (c'.runtime = s.runtime ∨
        (∃ battleId inst, s.runtime.find battleId = none ∧
          c'.runtime = s.runtime.put battleId inst [.instanceCreated battleId]) ∨
        ∃ battleId inst inst' events, s.runtime.find battleId = some inst ∧
          (∀ e ∈ events, e.id = battleId ∧ e.isWithin) ∧
          c'.runtime = s.runtime.put battleId inst' events) from hcore _ rfl
  rintro c' rfl
  cases c with
  | battleCreate nowMs battleId roomId playerIds maxFrames =>
    rcases battleCreate_cases h nowMs battleId roomId playerIds maxFrames with
      ⟨heq, -, -⟩ | ⟨inst, hfind, -, -, heq, -, -⟩
    · rw [call, heq]
      exact ⟨rfl, rfl, .inl rfl⟩
    · rw [call, heq]
      exact ⟨rfl, rfl, .inr (.inl ⟨battleId, inst, hfind, rfl⟩)⟩
  | battleInput nowMs stored userId battleId inputData =>
    rcases s.battleInput_cases nowMs stored userId battleId inputData with
      ⟨heq, -⟩ | ⟨inst, input, frame, ackSeq, payload, doc, out, hfind, -, -, rfl, heq, -⟩
    · rw [call, heq]
      exact ⟨rfl, rfl, .inl rfl⟩
    · rw [call, heq]
      refine ⟨by simp [Core.put, core], by simp [Core.put, core], .inr (.inr
        ⟨battleId, inst, _, _, hfind, ?_, by simp only [Core.runtime_record, Core.put]; rfl⟩)⟩
      intro e he
      rcases List.mem_cons.mp he with rfl | he
      · exact ⟨rfl, rfl⟩
      · exact InstanceRuntime.mem_runTick he
  | battleState nowMs battleId =>
    rcases s.battleState_cases nowMs battleId with
      ⟨heq, -⟩ | ⟨inst, frame, hfind, -, -, -, heq⟩
    · rw [call, heq]
      exact ⟨rfl, rfl, .inl rfl⟩
    · rw [call, heq]
      exact ⟨rfl, rfl, .inr (.inr ⟨battleId, inst, _, _, hfind,
        fun e he => InstanceRuntime.mem_runTick he, rfl⟩)⟩
  | battleFinish battleId hasReason =>
    rcases s.battleFinish_cases battleId hasReason with
      ⟨heq, -, -⟩ | ⟨inst, out, hfind, -, rfl, heq, -⟩
    · rw [call, heq]
      exact ⟨rfl, rfl, .inl rfl⟩
    · rw [call, heq]
      refine ⟨rfl, rfl, .inr (.inr ⟨battleId, inst, _, _, hfind, ?_, rfl⟩)⟩
      simp [InstanceRuntime.finished, RuntimeEvent.id, RuntimeEvent.isWithin]
  | replayLoad battleId => exact ⟨rfl, rfl, .inl rfl⟩

theorem configured_call {s : BattleBackend} (h : s.core.Configured) (c : BattleCall) :
    (s.call c).1.core.Configured := by
  obtain ⟨hlib, -, hr⟩ := runtime_call_cases h c
  have hplugins : (s.call c).1.runtime.pluginFactories = s.runtime.pluginFactories := by
    rcases hr with hr | ⟨battleId, inst, -, hr⟩ | ⟨battleId, inst, inst', events, -, -, hr⟩ <;>
      rw [hr] <;> rfl
  have hsame : (s.call c).1.core.Configured ↔ (s.call c).1.runtime.pluginFactories = fun type =>
      if type = "battle" then some (battleInstancePlugin (s.call c).1.lib, none) else none := Iff.rfl
  rw [hsame, hplugins, hlib]
  exact h

/-- The handler of a request; a request that throws has no reply of the handler. -/
def handle (s : BattleBackend) (req : BattleRequest) : BattleBackend × Option Reply :=
  match req.read with
  | .error _ => (s, none)
  | .ok (.inl reason) => (s, some (.error (-1004) reason))
  | .ok (.inr c) => let (s, reply) := s.call c; (s, some reply)

/-- The service after `start`. -/
def initial (lib : Libraries) (maxInstances : UInt32) (movedFrom : String → String)
    (instanceType : String) (hasReplayStorage : Bool) : BattleBackend where
  lib := lib
  runtime :=
    { maxInstances := maxInstances
      pluginFactories := fun type =>
        if type = "battle" then some (battleInstancePlugin lib, none) else none
      movedFrom := movedFrom }
  instanceType := instanceType
  hasReplayStorage := hasReplayStorage

end BattleBackend

/-- A service with what it has answered so far. -/
structure Serving where
  backend : BattleBackend
  replies : List Reply := []

namespace Serving

/-- One request after the other. -/
def step (s : Serving) (req : BattleRequest) : Option Serving :=
  let (backend, reply) := s.backend.handle req
  some { backend := backend, replies := s.replies ++ reply.toList }

/-- The states a service reaches by requests that meet `ok`. -/
abbrev Reaches (ok : Serving → BattleRequest → Prop) : Serving → Prop :=
  BoostGateway.Reaches (fun s => ∃ lib maxInstances movedFrom instanceType hasReplayStorage,
    s = { backend := .initial lib maxInstances movedFrom instanceType hasReplayStorage }) step ok

/-- A request changes nothing, or it is a call. -/
theorem step_cases {s s' : Serving} {req : BattleRequest} (h : s.step req = some s') :
    (s'.backend = s.backend ∧ ∃ replies : List Reply, (∀ r ∈ replies, r.pushes = []) ∧
      s'.replies = s.replies ++ replies) ∨
    ∃ c, req.read = .ok (.inr c) ∧ s'.backend = (s.backend.call c).1 ∧
      s'.replies = s.replies ++ [(s.backend.call c).2] := by
  rcases hread : req.read with e | reason | c
  all_goals
    simp only [step, BattleBackend.handle, hread, Option.some.injEq] at h
    subst h
  · exact .inl ⟨rfl, [], nofun, rfl⟩
  · exact .inl ⟨rfl, [.error (-1004) reason], by simp [Reply.pushes], rfl⟩
  · exact .inr ⟨c, rfl, rfl, rfl⟩

/-- An invariant of the service holds initially and is kept by every call of a request that
meets the condition. -/
theorem Reaches.invariant_call {ok : Serving → BattleRequest → Prop} {P : Serving → Prop}
    {s : Serving} (h : Reaches ok s)
    (hinit : ∀ lib maxInstances movedFrom instanceType hasReplayStorage,
      P { backend := .initial lib maxInstances movedFrom instanceType hasReplayStorage })
    (hquiet : ∀ (s : Serving) (replies : List Reply), P s → (∀ r ∈ replies, r.pushes = []) →
      P { s with replies := s.replies ++ replies })
    (hcall : ∀ (s : Serving) (req : BattleRequest) (c : BattleCall), s.backend.core.Configured →
      P s → ok s req → req.read = .ok (.inr c) →
      P { backend := (s.backend.call c).1, replies := s.replies ++ [(s.backend.call c).2] }) :
    s.backend.core.Configured ∧ P s := by
  refine Reaches.invariant (P := fun s => s.backend.core.Configured ∧ P s) h ?_ ?_
  · rintro s ⟨lib, maxInstances, movedFrom, instanceType, hasReplayStorage, rfl⟩
    exact ⟨rfl, hinit _ _ _ _ _⟩
  · rintro ⟨backend, replies⟩ req ⟨backend', replies'⟩ ⟨hconf, hp⟩ hok hstep
    rcases step_cases hstep with ⟨hb, rs, hrs, hr⟩ | ⟨c, hread, hb, hr⟩
    · obtain rfl : backend' = backend := hb
      obtain rfl : replies' = replies ++ rs := hr
      exact ⟨hconf, hquiet _ rs hp hrs⟩
    · obtain rfl : backend' = (backend.call c).1 := hb
      obtain rfl : replies' = replies ++ [(backend.call c).2] := hr
      exact ⟨BattleBackend.configured_call hconf c, hcall _ req c hconf hp hok hread⟩

/-! ## Requests of a client -/

/-- A well-formed creation of a battle of the users `u` and `v`. -/
def createRequest (battleId : String) (maxFrames : UInt32) : BattleRequest where
  kind := .battleCreate
  payload := some (.object [("battle_id", .string battleId),
    ("max_frames", .unsigned maxFrames.toUInt64),
    ("player_ids", .array [.string "u", .string "v"]), ("room_id", .string "r")])
  nowMs := 0

/-- A request of `battle_input`. -/
def inputRequest (battleId inputData : String) (nowMs : ℤ) : BattleRequest where
  kind := .battleInput
  payload := some (.object [("battle_id", .string battleId), ("input_data", .string inputData),
    ("user_id", .string "u")])
  nowMs := nowMs

/-- A request of `battle_state`. -/
def stateRequest (battleId : String) (nowMs : ℤ) : BattleRequest where
  kind := .battleState
  payload := some (.object [("battle_id", .string battleId)])
  nowMs := nowMs

/-- A request of `battle_finish`. -/
def finishRequest (battleId : String) : BattleRequest where
  kind := .battleFinish
  payload := some (.object [("battle_id", .string battleId), ("user_id", .string "u")])
  nowMs := 0

theorem read_createRequest {battleId : String} (h : battleId ≠ "") (maxFrames : UInt32) :
    (createRequest battleId maxFrames).read =
      .ok (.inr (.battleCreate 0 battleId "r" ["u", "v"] maxFrames)) := by
  simp [createRequest, BattleRequest.read, Room.RoomBackend.fields, Json.find?,
    Room.RoomBackend.stringField, Json.getString, Json.value, Json.getInt32, Json.getArithmetic,
    bind, Except.bind, pure, Except.pure, h, List.mapM_cons]

theorem read_stateRequest (battleId : String) (nowMs : ℤ) :
    (stateRequest battleId nowMs).read = .ok (.inr (.battleState nowMs battleId)) := by
  simp [stateRequest, BattleRequest.read, Room.RoomBackend.fields, Json.find?,
    Room.RoomBackend.stringField, Json.getString, bind, Except.bind, pure, Except.pure]

theorem read_finishRequest (battleId : String) : (finishRequest battleId).read =
    .ok (.inr (.battleFinish battleId false)) := by
  simp [finishRequest, BattleRequest.read, Room.RoomBackend.fields, Json.find?,
    Room.RoomBackend.stringField, Json.getString, bind, Except.bind, pure, Except.pure]

/-- The service as it is started without options. -/
def fresh : Serving where
  backend := .initial .plain 1024 (fun _ => "") "battle" false

/-- A battle is created and finished at once. -/
theorem create_finish {s : Serving} (hconf : s.backend.core.Configured)
    (htype : s.backend.instanceType = "battle") {battleId : String} (hid : battleId ≠ "")
    (hfind : s.backend.runtime.find battleId = none)
    (hsize : s.backend.runtime.instances.keys.length < s.backend.runtime.maxInstances.toNat)
    (maxFrames : UInt32) : ∃ s₁ s₂ inst, s.step (createRequest battleId maxFrames) = some s₁ ∧
      s₁.step (finishRequest battleId) = some s₂ ∧ s₂.backend.core =
        (s.backend.core.put battleId (InstanceRuntime.finished battleId inst .kUserRequested).1
          (.instanceCreated battleId ::
            (InstanceRuntime.finished battleId inst .kUserRequested).2)).consume battleId := by
  obtain ⟨s₁, hs₁⟩ : ∃ s₁, s.step (createRequest battleId maxFrames) = some s₁ := ⟨_, rfl⟩
  obtain ⟨s₂, hs₂⟩ : ∃ s₂, s₁.step (finishRequest battleId) = some s₂ := ⟨_, rfl⟩
  have hb₁ : s₁.backend = (s.backend.battleCreate 0 battleId "r" ["u", "v"] maxFrames).1 := by
    simp only [step, BattleBackend.handle, read_createRequest hid, Option.some.injEq] at hs₁
    rw [← hs₁]
    rfl
  have hb₂ : s₂.backend = (s₁.backend.battleFinish battleId false).1 := by
    simp only [step, BattleBackend.handle, read_finishRequest, Option.some.injEq] at hs₂
    rw [← hs₂]
    rfl
  rcases BattleBackend.battleCreate_cases hconf 0 battleId "r" ["u", "v"] maxFrames with
    ⟨-, -, hfull⟩ | ⟨inst, -, -, hnew, hcore₁, -, -⟩
  · exact absurd (hfull htype hfind) (by omega)
  rw [← hb₁] at hcore₁
  have hfind₁ : s₁.backend.core.runtime.find battleId = some inst := by
    rw [hcore₁]
    exact InstanceRuntime.find_put_self _ _ _ _
  rcases s₁.backend.battleFinish_cases battleId false with
    ⟨-, hdone, -⟩ | ⟨inst', out, -, -, rfl, hcore₂, -⟩
  · simpa [hnew.state] using hdone inst hfind₁
  rw [← hb₂, hcore₁, Core.put_put] at hcore₂
  exact ⟨s₁, s₂, inst', hs₁, hs₂, hcore₂⟩

end Serving

end BoostGateway.Battle
