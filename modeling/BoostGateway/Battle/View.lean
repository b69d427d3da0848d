import Mathlib.Data.List.Induction
import BoostGateway.Battle.BackendService

/-!
# One battle of the service

A request names one battle and leaves the others alone. `View` is what the service keeps of
one battle, and `effect_call` says what a request may do to it : nothing, a creation, a tick
that an input or a query drives, or a finish.
-/

namespace BoostGateway.Battle

open Realtime
open InstanceRuntime (runFrame runTick finished settle)

/-- The settlements among the events. -/
def settlementsIn (events : List RuntimeEvent) : List SettlementContext :=
  events.filterMap fun
    | .instanceFinished _ settlement => some settlement
    | _ => none

/-- A `battle_finished` push of the battle. -/
def isFinishedPush (battleId : String) (push : Json) : Bool :=
  textMember "kind" push = "battle_finished" ∧ textMember "battle_id" push = battleId

/-! ## Pushes -/

theorem textMember_eq {key : String} {j : Json} {text : String}
    (h : j.find? key = some (.string text)) : textMember key j = text := by
  rw [textMember, h]
  rfl

theorem find?_framePush {key : String} (hkey : key = "kind" ∨ key = "battle_id")
    (battleId userId : String) (frame : UInt32) (ackSeq : UInt64) (payload : String)
    (snapshot : Option Json) :
    (BattleBackend.framePush battleId userId frame ackSeq payload snapshot).find? key =
      some (.string (if key = "kind" then "frame_advanced" else battleId)) := by
  unfold BattleBackend.framePush
  dsimp only
  rw [Json.find?_ofMembers_append, Json.find?_ofMembers_append, Json.find?_ofMembers]
  · rcases hkey with rfl | rfl <;> simp
  · split_ifs
    · simp
    · rcases hkey with rfl | rfl <;> simp
  · intro m hm
    cases snapshot with
    | none => simp at hm
    | some doc =>
      simp only [Option.map_some, Option.getD_some, List.mem_filterMap] at hm
      obtain ⟨key', hmem, hfound⟩ := hm
      obtain ⟨v, -, rfl⟩ := Option.map_eq_some_iff.mp hfound
      simp only [List.mem_cons, List.not_mem_nil, or_false] at hmem
      rcases hkey with rfl | rfl <;> rcases hmem with rfl | rfl | rfl | rfl <;> simp

theorem isFinishedPush_framePush (battleId battleId' userId : String) (frame : UInt32)
    (ackSeq : UInt64) (payload : String) (snapshot : Option Json) : isFinishedPush battleId
      (BattleBackend.framePush battleId' userId frame ackSeq payload snapshot) = false := by
  have hkind := textMember_eq (find?_framePush (.inl rfl) battleId' userId frame ackSeq payload
    snapshot)
  simp [isFinishedPush, hkind]

theorem mem_settlementMembers {settlement : String} {m : String × Json}
    (h : m ∈ BattleBackend.settlementMembers settlement) :
    m.1 = "winner_user_id" ∨ m.1 = "scores" ∨ m.1 = "reason" := by
  unfold BattleBackend.settlementMembers at h
  split at h
  · simp at h
  · rcases List.mem_append.mp h with h | h
    · rcases List.mem_append.mp h with h | h
      · split at h <;> simp_all
      · split at h <;> simp_all
    · split at h <;> simp_all

theorem isFinishedPush_finishedPush (battleId battleId' reason : String) (totalFrames : UInt32)
    (settlement : String) : isFinishedPush battleId
      (BattleBackend.finishedPush battleId' reason totalFrames settlement) =
        decide (battleId' = battleId) := by
  have hfind : ∀ key, key = "kind" ∨ key = "battle_id" →
      (BattleBackend.finishedPush battleId' reason totalFrames settlement).find? key =
        some (.string (if key = "kind" then "battle_finished" else battleId')) := by
    intro key hkey
    rw [BattleBackend.finishedPush, Json.find?_ofMembers_append, Json.find?_ofMembers]
    · rcases hkey with rfl | rfl <;> simp
    · intro m hm
      split_ifs at hm
      · simp at hm
      · rcases mem_settlementMembers hm with h | h | h <;> rw [h] <;>
          rcases hkey with rfl | rfl <;> simp
  simp [isFinishedPush, textMember_eq (hfind "kind" (.inl rfl)),
    textMember_eq (hfind "battle_id" (.inr rfl))]

/-! ## Ticks -/

theorem settlementsIn_append (events events' : List RuntimeEvent) :
    settlementsIn (events ++ events') = settlementsIn events ++ settlementsIn events' :=
  List.filterMap_append

/-- The settlement captured last is the one that is kept. -/
theorem captureSettlements_eq (settlements : String → Option String) {battleId : String}
    {events : List RuntimeEvent} (h : ∀ e ∈ events, e.id = battleId) :
    BattleBackend.captureSettlements settlements events battleId =
      ((settlementsIn events).getLast?.map (·.resultPayload)).or (settlements battleId) := by
  induction events using List.reverseRecOn with
  | nil => rfl
  | append_singleton events e ih =>
    have he : e.id = battleId := h e (by simp)
    have hbefore := ih fun e' he' => h e' (by simp [he'])
    rw [BattleBackend.captureSettlements] at hbefore ⊢
    rw [List.foldl_append, settlementsIn_append]
    cases e <;> simp_all [settlementsIn, RuntimeEvent.id]

theorem captureSettlements_of_ne (settlements : String → Option String) {battleId : String}
    {events : List RuntimeEvent} (h : ∀ e ∈ events, e.id ≠ battleId) :
    BattleBackend.captureSettlements settlements events battleId = settlements battleId := by
  induction events using List.reverseRecOn with
  | nil => rfl
  | append_singleton events e ih =>
    have he : e.id ≠ battleId := h e (by simp)
    have hbefore := ih fun e' he' => h e' (by simp [he'])
    rw [BattleBackend.captureSettlements] at hbefore ⊢
    rw [List.foldl_append]
    cases e <;> simp_all [RuntimeEvent.id, Function.update_of_ne, Ne.symm]

theorem settlementsIn_runFrame {σ : Type} (movedFrom : String → String) (id : String)
    (inst : InternalInstance σ) (frameNumber : UInt32) (tickStartMs : ℤ) :
    settlementsIn (runFrame movedFrom id inst frameNumber tickStartMs).2.2 = [] := by
  refine List.filterMap_eq_nil_iff.mpr fun e he => ?_
  rcases InstanceRuntime.mem_runFrame he with ⟨input, accepted, rfl⟩ | rfl | ⟨snapshot, rfl⟩ <;>
    rfl

/-- A battle as the requests find it : nothing is queued, and it is finished or its world
runs. -/
structure Rests (lib : Libraries) (inst : InternalInstance (Option PluginState)) : Prop where
  battle : IsBattle lib inst
  queue : inst.inputQueue = []
  state : inst.state.isActive ∨ inst.state = .kFinished
  runs : inst.state.isActive → worldRuns inst.ctx

theorem IsNew.rests {lib : Libraries} {inst : InternalInstance (Option PluginState)}
    (h : IsNew lib inst) : Rests lib inst := by
  refine ⟨h.battle, h.queue, .inl (by rw [h.state]; rfl), fun _ => ?_⟩
  obtain ⟨state, hstate, hrun⟩ := Option.map_eq_some_iff.mp h.lifecycle
  simp [worldRuns, hstate, hrun]

theorem Rests.finished {lib : Libraries} {inst : InternalInstance (Option PluginState)}
    (h : Rests lib inst) (id : String) (reason : FinishReason) :
    Rests lib (finished id inst reason).1 :=
  ⟨h.battle.finished id reason, h.queue, .inr rfl, fun hactive => by cases hactive⟩

theorem Rests.not_kClosed {lib : Libraries} {inst : InternalInstance (Option PluginState)}
    (h : Rests lib inst) : inst.state ≠ .kClosed := by
  intro hclosed
  have hstate := h.state
  rw [hclosed] at hstate
  simp [InstanceState.isActive] at hstate

/-- A whole tick of a battle runs on, or it ends the battle with one settlement. -/
theorem runTick_cases {lib : Libraries} {inst : InternalInstance (Option PluginState)}
    (h : IsBattle lib inst) (movedFrom : String → String) (battleId : String)
    (frameNumber : UInt32) (tickStartMs : ℤ) :
    let out := runTick movedFrom battleId inst frameNumber tickStartMs
    out.2.1 = (runFrame movedFrom battleId inst frameNumber tickStartMs).2.1 ∧
    Rests lib out.1 ∧
    ((out.2.1.shouldFinish = false ∧ out.1.state = .kRunning ∧ settlementsIn out.2.2 = []) ∨
      out.2.1.shouldFinish = true ∧ out.1.state = .kFinished ∧
        ∃ inst' reason, IsBattle lib inst' ∧
          settlementsIn out.2.2 = [(settle battleId inst' reason).2]) := by
  have hbattle := h.runFrame movedFrom battleId frameNumber tickStartMs
  have hqueue : (runFrame movedFrom battleId inst frameNumber tickStartMs).1.inputQueue = [] := rfl
  have hstate : (runFrame movedFrom battleId inst frameNumber tickStartMs).1.state = .kRunning :=
    rfl
  have hruns : (runFrame movedFrom battleId inst frameNumber tickStartMs).2.1.shouldFinish =
      false → worldRuns (runFrame movedFrom battleId inst frameNumber tickStartMs).1.ctx :=
    fun hgoes => worldRuns_runFrame h hgoes
  have hnone := settlementsIn_runFrame movedFrom battleId inst frameNumber tickStartMs
  rw [runTick]
  generalize runFrame movedFrom battleId inst frameNumber tickStartMs = out at *
  obtain ⟨inst', stats, events⟩ := out
  dsimp only at *
  split_ifs with hfinish
  · refine ⟨rfl, ⟨hbattle.finished _ _, hqueue, .inr rfl, fun hactive => by cases hactive⟩,
      .inr ⟨hfinish, rfl, inst', stats.finishReason, hbattle, ?_⟩⟩
    rw [settlementsIn_append, hnone]
    rfl
  · have hgoes : stats.shouldFinish = false := by simpa using hfinish
    exact ⟨rfl, ⟨hbattle, hqueue, .inl (by rw [hstate]; rfl), fun _ => hruns hgoes⟩,
      .inl ⟨hgoes, hstate, hnone⟩⟩

/-! ## What is kept of one battle -/

/-- What is kept of one battle. -/
structure View where
  inst : Option (InternalInstance (Option PluginState))
  /-- The events of the battle. -/
  seen : List RuntimeEvent
  settlement : Option String
  replay : Option (List ReplayFrameCacheEntry)
  stored : Option Json

namespace View

/-- The battle is changed to `inst`, and `events` are seen. -/
def after (v : View) (inst : InternalInstance (Option PluginState)) (events : List RuntimeEvent) :
    View :=
  { v with
    inst := some inst
    seen := v.seen ++ events
    settlement := ((settlementsIn events).getLast?.map (·.resultPayload)).or v.settlement }

/-- The frame of an input is recorded; at the end the settlement is consumed. -/
def record (v : View) (stats : TickStats) (entry : Json) (storing : Bool) : View :=
  { v with
    settlement := if stats.shouldFinish then none else v.settlement
    replay := some (v.replay.getD [] ++ [{ frameNumber := stats.frameNumber, frame := entry }])
    stored := if stats.shouldFinish && storing then some entry.asRead else v.stored }

end View

namespace Core

variable (c : Core) (battleId : String)

def view : View where
  inst := c.runtime.find battleId
  seen := life battleId c.runtime.log
  settlement := c.settlements battleId
  replay := c.replayFrames battleId
  stored := c.storedReplays battleId

variable {battleId} {battleId' : String}

theorem view_put (inst : InternalInstance (Option PluginState)) {events : List RuntimeEvent}
    (h : ∀ e ∈ events, e.id = battleId ∧ e.isWithin) :
    (c.put battleId inst events).view battleId = (c.view battleId).after inst events := by
  have hfind : (c.put battleId inst events).runtime.find battleId = some inst :=
    InstanceRuntime.find_put_self _ _ _ _
  have hlife : life battleId (c.put battleId inst events).runtime.log =
      life battleId c.runtime.log ++ events := life_append_of_within h
  have hkept : (c.put battleId inst events).settlements battleId = _ :=
    captureSettlements_eq c.settlements fun e he => (h e he).1
  simp only [view, hfind, hlife, hkept]
  rfl

theorem view_put_of_ne (hne : battleId ≠ battleId')
    (inst : InternalInstance (Option PluginState)) {events : List RuntimeEvent}
    (h : ∀ e ∈ events, e.id = battleId') :
    (c.put battleId' inst events).view battleId = c.view battleId := by
  have hfind : (c.put battleId' inst events).runtime.find battleId = c.runtime.find battleId :=
    InstanceRuntime.find_put_of_ne _ hne _ _
  have hlife : life battleId (c.put battleId' inst events).runtime.log =
      life battleId c.runtime.log := InstanceRuntime.life_put_of_ne _ hne inst h
  have hkept : (c.put battleId' inst events).settlements battleId = c.settlements battleId :=
    captureSettlements_of_ne c.settlements fun e he => by
      rw [h e he]
      exact Ne.symm hne
  simp only [view, hfind, hlife, hkept]
  rfl

theorem view_record (stats : TickStats) (entry : Json) (stored : Bool) :
    (c.record battleId stats entry stored).view battleId =
      (c.view battleId).record stats entry (c.hasReplayStorage && stored) := by
  unfold record
  dsimp only
  split_ifs <;> simp_all [view, View.record]

theorem view_record_of_ne (hne : battleId ≠ battleId') (stats : TickStats) (entry : Json)
    (stored : Bool) : (c.record battleId' stats entry stored).view battleId = c.view battleId := by
  unfold record
  dsimp only
  split_ifs <;> simp [view, Function.update_of_ne hne]

theorem view_consume :
    (c.consume battleId).view battleId = { c.view battleId with settlement := none } := by
  simp [view, consume]

theorem view_consume_of_ne (hne : battleId ≠ battleId') :
    (c.consume battleId').view battleId = c.view battleId := by
  simp [view, consume, Function.update_of_ne hne]

end Core

/-! ## What a call does to one battle -/

/-- What the call `c` may make of the view `v` of a battle, with the pushes of its reply. -/
inductive Effect (s : BattleBackend) (battleId : String) (v v' : View) (pushes : List Json) :
    BattleCall → Prop
  | other {c : BattleCall} (heq : v' = v)
      (htold : ∀ push ∈ pushes, isFinishedPush battleId push = false) :
      Effect s battleId v v' pushes c
  | create {c : BattleCall} {inst : InternalInstance (Option PluginState)} (hinst : v.inst = none)
      (hnew : IsNew s.lib inst) (heq : v' = { v with inst := some inst, seen := [] })
      (htold : ∀ push ∈ pushes, isFinishedPush battleId push = false) :
      Effect s battleId v v' pushes c
  | input {nowMs : ℤ} {stored : Bool} {userId inputData : String}
      {inst : InternalInstance (Option PluginState)} {input : InputEnvelope} {frame : UInt32}
      {ackSeq : UInt64} {payload : String} {doc : Option Json}
      {out : InternalInstance (Option PluginState) × TickStats × List RuntimeEvent}
      (hinst : v.inst = some inst) (hactive : inst.state.isActive)
      (hout : runTick s.runtime.movedFrom battleId (queued inst input) frame nowMs =
        out)
      (heq : v' = (v.after out.1 (.inputAccepted battleId input :: out.2.2)).record out.2.1
        (BattleBackend.replayEntry battleId out.2.1.frameNumber nowMs doc)
        (s.hasReplayStorage && stored))
      (htold : pushes =
        BattleBackend.framePush battleId userId out.2.1.frameNumber ackSeq payload doc ::
          if out.2.1.shouldFinish then
            [BattleBackend.finishedPush battleId "finished" out.2.1.frameNumber
              ((v.after out.1 out.2.2).settlement.getD "")]
          else []) :
      Effect s battleId v v' pushes (.battleInput nowMs stored userId battleId inputData)
  | state {nowMs : ℤ} {inst : InternalInstance (Option PluginState)}
      {out : InternalInstance (Option PluginState) × TickStats × List RuntimeEvent}
      (hinst : v.inst = some inst) (hactive : inst.state.isActive)
      (hdue : s.tickIsDue battleId nowMs)
      (hout : runTick s.runtime.movedFrom battleId inst
        (s.getInstanceFrame battleId + 1) nowMs = out)
      (heq : v' = v.after out.1 out.2.2) (htold : pushes = []) :
      Effect s battleId v v' pushes (.battleState nowMs battleId)
  | finish {hasReason : Bool} {inst : InternalInstance (Option PluginState)} {reason : String}
      {totalFrames : UInt32} {out : InternalInstance (Option PluginState) × List RuntimeEvent}
      (hinst : v.inst = some inst) (hstate : inst.state ≠ .kFinished)
      (hout : finished battleId inst .kUserRequested = out)
      (heq : v' = { v.after out.1 out.2 with settlement := none })
      (htold : pushes = [BattleBackend.finishedPush battleId reason totalFrames
        ((v.after out.1 out.2).settlement.getD "")]) :
      Effect s battleId v v' pushes (.battleFinish battleId hasReason)
  | again {hasReason : Bool} {reason : String} {totalFrames : UInt32}
      (hdone : ∀ inst, v.inst = some inst → inst.state = .kFinished ∨ inst.state = .kClosed)
      (heq : v' = { v with settlement := none })
      (htold : pushes = [BattleBackend.finishedPush battleId reason totalFrames
        (v.settlement.getD "")]) :
      Effect s battleId v v' pushes (.battleFinish battleId hasReason)

namespace BattleBackend

variable {s : BattleBackend}

theorem effect_battleCreate (hconf : s.core.Configured) (battleId : String) (nowMs : ℤ)
    (battleId' roomId : String) (playerIds : List String) (maxFrames : UInt32) :
    Effect s battleId (s.core.view battleId)
      ((s.battleCreate nowMs battleId' roomId playerIds maxFrames).1.core.view battleId)
      (s.battleCreate nowMs battleId' roomId playerIds maxFrames).2.pushes
      (.battleCreate nowMs battleId' roomId playerIds maxFrames) := by
  rcases battleCreate_cases hconf nowMs battleId' roomId playerIds maxFrames with
    ⟨heq, ⟨code, reason, herror⟩, -⟩ | ⟨inst, hfind, -, hnew, heq, -, hpushes⟩
  · rw [heq, herror]
    exact .other rfl nofun
  · have htold : ∀ push ∈ (s.battleCreate nowMs battleId' roomId playerIds maxFrames).2.pushes,
        isFinishedPush battleId push = false := by
      intro push hpush
      simp [isFinishedPush, hpushes push hpush]
    rw [heq]
    by_cases hne : battleId = battleId'
    · subst hne
      refine .create hfind hnew ?_ htold
      have hlife : life battleId (s.runtime.log ++ [RuntimeEvent.instanceCreated battleId]) = [] :=
        life_created _ _
      simp [Core.view, Core.put, InstanceRuntime.put, InstanceRuntime.find, core, hlife,
        captureSettlements]
    · exact .other (Core.view_put_of_ne _ hne _ (by simp [RuntimeEvent.id])) htold

variable (battleId : String)

theorem effect_battleInput (nowMs : ℤ) (stored : Bool) (userId battleId' inputData : String) :
    Effect s battleId (s.core.view battleId)
      ((s.battleInput nowMs stored userId battleId' inputData).1.core.view battleId)
      (s.battleInput nowMs stored userId battleId' inputData).2.pushes
      (.battleInput nowMs stored userId battleId' inputData) := by
  rcases s.battleInput_cases nowMs stored userId battleId' inputData with
    ⟨heq, hpushes⟩ | ⟨inst, input, frame, ackSeq, payload, doc, out, hfind, hactive, -, hout, heq,
      hpushes⟩
  · rw [heq, hpushes]
    exact .other rfl nofun
  have htick : ∀ e ∈ out.2.2, e.id = battleId' ∧ e.isWithin := by
    rw [hout]
    exact fun e he => InstanceRuntime.mem_runTick he
  have hevents : ∀ e ∈ RuntimeEvent.inputAccepted battleId' input :: out.2.2,
      e.id = battleId' ∧ e.isWithin := by
    intro e he
    rcases List.mem_cons.mp he with rfl | he
    · exact ⟨rfl, rfl⟩
    · exact htick e he
  rw [heq, hpushes]
  by_cases hne : battleId = battleId'
  · subst hne
    rw [captureSettlements_eq s.settlements fun e he => (htick e he).1, Core.view_record,
      Core.view_put _ _ hevents]
    exact .input hfind hactive hout.symm rfl rfl
  · rw [Core.view_record_of_ne _ hne, Core.view_put_of_ne _ hne _ fun e he => (hevents e he).1]
    refine .other rfl fun push hpush => ?_
    rcases List.mem_cons.mp hpush with rfl | hpush
    · exact isFinishedPush_framePush _ _ _ _ _ _ _
    · split_ifs at hpush
      · rw [List.mem_singleton.mp hpush, isFinishedPush_finishedPush]
        exact decide_eq_false (Ne.symm hne)
      · cases hpush

theorem effect_battleState (nowMs : ℤ) (battleId' : String) :
    Effect s battleId (s.core.view battleId)
      ((s.battleState nowMs battleId').1.core.view battleId)
      (s.battleState nowMs battleId').2.pushes (.battleState nowMs battleId') := by
  rw [pushes_battleState]
  rcases s.battleState_cases nowMs battleId' with
    ⟨heq, -⟩ | ⟨inst, frame, hfind, hactive, hdue, rfl, heq⟩
  · rw [heq]
    exact .other rfl nofun
  have hevents : ∀ e ∈ (s.core.tickOf battleId' inst (s.getInstanceFrame battleId' + 1) nowMs).2.2,
      e.id = battleId' ∧ e.isWithin := fun e he => InstanceRuntime.mem_runTick he
  rw [heq]
  by_cases hne : battleId = battleId'
  · subst hne
    rw [Core.view_put _ _ hevents]
    exact .state hfind hactive hdue rfl rfl rfl
  · rw [Core.view_put_of_ne _ hne _ fun e he => (hevents e he).1]
    exact .other rfl nofun

theorem effect_battleFinish (battleId' : String) (hasReason : Bool) :
    Effect s battleId (s.core.view battleId)
      ((s.battleFinish battleId' hasReason).1.core.view battleId)
      (s.battleFinish battleId' hasReason).2.pushes (.battleFinish battleId' hasReason) := by
  have htold (hne : battleId ≠ battleId') (reason : String) (totalFrames : UInt32)
      (settlement : String) : ∀ push ∈ [finishedPush battleId' reason totalFrames settlement],
        isFinishedPush battleId push = false := by
    simpa [isFinishedPush_finishedPush] using Ne.symm hne
  rcases s.battleFinish_cases battleId' hasReason with
    ⟨heq, hdone, reason, totalFrames, hpushes⟩ |
    ⟨inst, out, hfind, hstate, hout, heq, reason, totalFrames, hpushes⟩
  · rw [heq, hpushes]
    by_cases hne : battleId = battleId'
    · subst hne
      rw [Core.view_consume]
      exact .again hdone rfl rfl
    · rw [Core.view_consume_of_ne _ hne]
      exact .other rfl (htold hne _ _ _)
  · have hevents : ∀ e ∈ out.2, e.id = battleId' ∧ e.isWithin := by
      rw [hout]
      simp [InstanceRuntime.finished, RuntimeEvent.id, RuntimeEvent.isWithin]
    rw [heq, hpushes]
    by_cases hne : battleId = battleId'
    · subst hne
      rw [captureSettlements_eq s.settlements fun e he => (hevents e he).1, Core.view_consume,
        Core.view_put _ _ hevents]
      exact .finish hfind hstate hout.symm rfl rfl
    · rw [Core.view_consume_of_ne _ hne, Core.view_put_of_ne _ hne _ fun e he => (hevents e he).1]
      exact .other rfl (htold hne _ _ _)

theorem effect_call (hconf : s.core.Configured) (battleId : String) (c : BattleCall) :
    Effect s battleId (s.core.view battleId) ((s.call c).1.core.view battleId)
      (s.call c).2.pushes c := by
  cases c with
  | battleCreate nowMs battleId' roomId playerIds maxFrames =>
    exact effect_battleCreate hconf battleId nowMs battleId' roomId playerIds maxFrames
  | battleInput nowMs stored userId battleId' inputData =>
    exact effect_battleInput battleId nowMs stored userId battleId' inputData
  | battleState nowMs battleId' => exact effect_battleState battleId nowMs battleId'
  | battleFinish battleId' hasReason => exact effect_battleFinish battleId battleId' hasReason
  | replayLoad battleId' => exact .other rfl (by simp [call, pushes_replayLoad])

end BattleBackend

namespace Serving

/-- The pushes made so far. -/
def pushes (s : Serving) : List Json := s.replies.flatMap Reply.pushes

theorem pushes_append {s : Serving} {replies : List Reply} (h : ∀ r ∈ replies, r.pushes = []) :
    ({ s with replies := s.replies ++ replies } : Serving).pushes = s.pushes := by
  have hnil : replies.flatMap Reply.pushes = [] := List.flatMap_eq_nil_iff.mpr h
  rw [pushes, List.flatMap_append, hnil, List.append_nil]
  rfl

/-- A battle of one frame, which a query ticks : the battle is finished, and nothing is
pushed. -/
theorem poll_to_end : ∃ s inst, Reaches (fun _ _ => True) s ∧
    s.backend.runtime.find "b" = some inst ∧ inst.state = .kFinished ∧
    .onTick "b" 1 ∈ life "b" s.backend.runtime.log ∧
    s.pushes.filter (isFinishedPush "b") = [] := by
  obtain ⟨s₁, hs₁⟩ : ∃ s₁, fresh.step (createRequest "b" 1) = some s₁ := ⟨_, rfl⟩
  obtain ⟨s₂, hs₂⟩ : ∃ s₂, s₁.step (stateRequest "b" 1) = some s₂ := ⟨_, rfl⟩
  obtain ⟨inst, hfind, hactive, hends⟩ : ∃ inst, s₁.backend.runtime.find "b" = some inst ∧
      inst.state.isActive ∧ battleEnds inst.ctx 1 := by
    cases hs₁
    decide +kernel
  have hdue : s₁.backend.tickIsDue "b" 1 ∧ s₁.backend.getInstanceFrame "b" + 1 = 1 ∧
      s₁.pushes.filter (isFinishedPush "b") = [] := by
    cases hs₁
    decide +kernel
  have hrest : Rests s₁.backend.lib inst := by
    have hb₁ : s₁.backend = (fresh.backend.battleCreate 0 "b" "r" ["u", "v"] 1).1 := by
      simp only [step, BattleBackend.handle, read_createRequest (show "b" ≠ "" by decide),
        Option.some.injEq] at hs₁
      rw [← hs₁]
      rfl
    rcases BattleBackend.battleCreate_cases (s := fresh.backend) rfl 0 "b" "r" ["u", "v"] 1 with
      ⟨-, -, hfull⟩ | ⟨inst', -, -, hnew, hcore, -, -⟩
    · exact absurd (hfull rfl rfl) (by decide)
    rw [← hb₁] at hcore
    have hfind' : s₁.backend.core.runtime.find "b" = some inst' := by
      rw [hcore]
      exact InstanceRuntime.find_put_self _ _ _ _
    have hlib : s₁.backend.lib = fresh.backend.lib := congrArg Core.lib hcore
    obtain rfl : inst = inst' := Option.some.inj (hfind.symm.trans hfind')
    rw [hlib]
    exact hnew.rests
  have hb₂ : s₂.backend = (s₁.backend.battleState 1 "b").1 ∧ s₂.pushes = s₁.pushes := by
    simp only [step, BattleBackend.handle, read_stateRequest, Option.some.injEq] at hs₂
    rw [← hs₂]
    refine ⟨rfl, pushes_append ?_⟩
    simp [BattleBackend.call, BattleBackend.pushes_battleState]
  rcases s₁.backend.battleState_cases 1 "b" with
    ⟨-, hidle⟩ | ⟨inst', frame, hfind', -, -, hframe, heq⟩
  · exact absurd (hidle inst hfind hactive hdue.1) (by decide)
  obtain rfl : inst = inst' := Option.some.inj (hfind.symm.trans hfind')
  obtain rfl : frame = 1 := hframe.trans hdue.2.1
  generalize hout : s₁.backend.core.tickOf "b" inst 1 1 = out at heq
  have hrun : runTick s₁.backend.runtime.movedFrom "b" inst 1 1 = out := hout
  have hevents : ∀ e ∈ out.2.2, e.id = "b" ∧ e.isWithin := by
    rw [← hrun]
    exact fun e he => InstanceRuntime.mem_runTick he
  have hview := Core.view_put s₁.backend.core out.1 hevents
  rw [← heq, ← hb₂.1] at hview
  obtain ⟨hstats, -, hcases⟩ := runTick_cases hrest.battle s₁.backend.runtime.movedFrom "b" 1 1
  have hfinish := shouldFinish_runFrame hrest.battle hrest.queue s₁.backend.runtime.movedFrom "b" 1 1
  rw [hends, ← hstats] at hfinish
  rcases hcases with ⟨hgoes, -⟩ | ⟨-, hstate, -⟩
  · rw [hgoes] at hfinish
    cases hfinish
  have hseen : life "b" s₂.backend.runtime.log = life "b" s₁.backend.runtime.log ++ out.2.2 :=
    congrArg View.seen hview
  refine ⟨s₂, out.1, .step (.step (.init ⟨_, _, _, _, _, rfl⟩) trivial hs₁) trivial hs₂,
    congrArg View.inst hview, hrun ▸ hstate, ?_, by rw [hb₂.2, hdue.2.2]⟩
  rw [hseen, ← hrun]
  exact List.mem_append_right _ (InstanceRuntime.onTick_mem_runTick _ _ _ _ _)

end Serving

end BoostGateway.Battle
