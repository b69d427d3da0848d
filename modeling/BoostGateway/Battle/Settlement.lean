import BoostGateway.Battle.View

/-!
# The settlement of a battle

When the runtime finishes a battle it emits a settlement, which the service captures. An
input that ends the battle and a finish request consume it and push `battle_finished`. A
query may tick the last frame too, but `handle_battle_state` does not look at
`should_finish` : then the settlement stays captured and nothing is pushed.

`settled_once` : where no query ends the battle (`NoSilentEnd`), a finished battle has had
one settlement and one push that carries it (`SettledOnce`). A finish request for a battle
that is already finished pushes `battle_finished` again, with no settlement; without such
requests the push is the only one.
-/

namespace BoostGateway.Battle

open Realtime
open InstanceRuntime (settle finished)

/-- A `battle_finished` push of the battle that has the scores of a settlement. -/
def isSettlementPush (battleId : String) (push : Json) : Bool :=
  isFinishedPush battleId push && (push.find? "scores").isSome

/-- The push says what the settlement says of the winner, the scores and the reason. -/
def Carries (push : Json) (settlement : SettlementContext) : Prop :=
  ∃ doc, parseDocument settlement.resultPayload = some doc ∧ (doc.find? "scores").isSome ∧
    ∀ key ∈ ["winner_user_id", "scores", "reason"], push.find? key = doc.find? key

namespace Serving

/-- The settlements of the battle so far. -/
def settlementsOf (battleId : String) (s : Serving) : List SettlementContext :=
  settlementsIn (life battleId s.backend.runtime.log)

/-- A finished battle has had one settlement and one push that carries it; a battle that is
not finished has had no push with a settlement. -/
def SettledOnce (battleId : String) (s : Serving) : Prop :=
  ∀ inst, s.backend.runtime.find battleId = some inst →
    if inst.state = .kFinished then
      ∃ push settlement, s.pushes.filter (isSettlementPush battleId) = [push] ∧
        settlementsOf battleId s = [settlement] ∧ Carries push settlement
    else s.pushes.filter (isSettlementPush battleId) = []

/-- A query does not find the battle one tick before its end when a tick is due. -/
def NoSilentEnd (battleId : String) (s : Serving) (req : BattleRequest) : Prop :=
  ∀ nowMs inst, req.read = .ok (.inr (.battleState nowMs battleId)) →
    s.backend.runtime.find battleId = some inst → inst.state.isActive →
    s.backend.tickIsDue battleId nowMs →
      battleEnds inst.ctx (s.backend.getInstanceFrame battleId + 1) = false

/-- A finish request for the battle finds it there and not finished. -/
def FinishesUnfinished (battleId : String) (s : Serving) (req : BattleRequest) : Prop :=
  ∀ hasReason, req.read = .ok (.inr (.battleFinish battleId hasReason)) →
    ∃ inst, s.backend.runtime.find battleId = some inst ∧ inst.state ≠ .kFinished

end Serving

/-! ## Pushes -/

/-- Without a settlement there are no scores. -/
theorem isSettlementPush_finishedPush_empty (battleId battleId' reason : String)
    (totalFrames : UInt32) : isSettlementPush battleId
      (BattleBackend.finishedPush battleId' reason totalFrames "") = false := by
  simp [isSettlementPush, BattleBackend.finishedPush, Json.find?_ofMembers]

theorem parseDocument_empty : parseDocument "" = none := by
  decide

section

variable (summary : BattleResultSummary)

theorem find?_settlementDocument_winner :
    (settlementDocument summary).asRead.find? "winner_user_id" =
      summary.winnerUserId.map Json.string := by
  rw [Json.find?_asRead, settlementDocument, Json.find?_ofMembers]
  cases summary.winnerUserId <;> simp [Json.asRead]

theorem find?_settlementDocument_scores :
    (settlementDocument summary).asRead.find? "scores" =
      some (Json.array (summary.scores.map scoreJson)).asRead := by
  rw [Json.find?_asRead, settlementDocument, Json.find?_ofMembers]
  cases summary.winnerUserId <;> simp

theorem find?_settlementDocument_reason :
    (settlementDocument summary).asRead.find? "reason" =
      some (.string summary.reason.toString) := by
  rw [Json.find?_asRead, settlementDocument, Json.find?_ofMembers]
  cases summary.winnerUserId <;> simp [Json.asRead]

/-- The members that a push takes from a settlement. -/
theorem settlementMembers_dumpText (lib : Libraries) :
    BattleBackend.settlementMembers (dumpText lib (settlementDocument summary)) =
      (summary.winnerUserId.map fun user => ("winner_user_id", Json.string user)).toList ++
        [("scores", (Json.array (summary.scores.map scoreJson)).asRead)] ++
        [("reason", .string summary.reason.toString)] := by
  rw [BattleBackend.settlementMembers,
    parseDocument_dumpText lib (plain_settlementDocument summary)]
  dsimp only
  rw [find?_settlementDocument_winner, find?_settlementDocument_scores,
    find?_settlementDocument_reason]
  cases summary.winnerUserId <;> rfl

end

/-- The settlement that a battle emits is carried by the push that is made of it. -/
theorem carries_finishedPush {lib : Libraries} {inst : InternalInstance (Option PluginState)}
    (h : IsBattle lib inst) (battleId : String) (finishReason : FinishReason) (reason : String)
    (totalFrames : UInt32) :
    Carries (BattleBackend.finishedPush battleId reason totalFrames
      (settle battleId inst finishReason).2.resultPayload) (settle battleId inst finishReason).2 := by
  obtain ⟨state, hstate⟩ := Option.isSome_iff_exists.mp h.ready
  obtain ⟨summary, hpayload⟩ : ∃ summary, (settle battleId inst finishReason).2.resultPayload =
      dumpText state.world.lib (settlementDocument summary) := by
    simp only [settle, h.plugin, battleInstancePlugin, withState, hstate, Option.getD_some,
      BattleInstancePlugin.buildSettlement, settlementOf]
    exact ⟨_, rfl⟩
  have hparse := parseDocument_dumpText state.world.lib (plain_settlementDocument summary)
  have hne : dumpText state.world.lib (settlementDocument summary) ≠ "" := by
    intro heq
    rw [heq, parseDocument_empty] at hparse
    cases hparse
  refine ⟨_, hpayload ▸ hparse, by simp [find?_settlementDocument_scores], ?_⟩
  intro key hkey
  rw [hpayload, BattleBackend.finishedPush, if_neg hne, settlementMembers_dumpText,
    Json.find?_ofMembers]
  simp only [List.mem_cons, List.not_mem_nil, or_false] at hkey
  rcases hkey with rfl | rfl | rfl
  · rw [find?_settlementDocument_winner]
    cases summary.winnerUserId <;> simp
  · rw [find?_settlementDocument_scores]
    simp
  · rw [find?_settlementDocument_reason]
    simp

theorem isSettlementPush_of_carries {battleId reason : String} {totalFrames : UInt32}
    {settlement : SettlementContext} {payload : String}
    (h : Carries (BattleBackend.finishedPush battleId reason totalFrames payload) settlement) :
    isSettlementPush battleId (BattleBackend.finishedPush battleId reason totalFrames payload) := by
  obtain ⟨doc, -, hscores, hkeys⟩ := h
  rw [isSettlementPush, isFinishedPush_finishedPush, hkeys "scores" (by simp), hscores]
  simp

/-! ## What a call does to one battle -/

/-- What the call `c` may do to a battle, as far as its settlement goes. -/
inductive Moves (lib : Libraries) (battleId : String) (v v' : View) (c : BattleCall)
    (pushes : List Json) : Prop
  | stays (hinst : v'.inst = v.inst) (hseen : settlementsIn v'.seen = settlementsIn v.seen)
      (htold : ∀ push ∈ pushes, isSettlementPush battleId push = false)
      (hagain : (∀ push ∈ pushes, isFinishedPush battleId push = false) ∨
        ∃ hasReason, c = .battleFinish battleId hasReason ∧
          ∀ inst, v.inst = some inst → inst.state = .kFinished)
  | starts {inst' : InternalInstance (Option PluginState)} (hinst : v.inst = none)
      (hinst' : v'.inst = some inst') (hrests : Rests lib inst') (hactive : inst'.state.isActive)
      (hseen : settlementsIn v'.seen = [])
      (htold : ∀ push ∈ pushes, isFinishedPush battleId push = false)
  | runs {inst inst' : InternalInstance (Option PluginState)} (hinst : v.inst = some inst)
      (hactive : inst.state.isActive) (hinst' : v'.inst = some inst') (hrests : Rests lib inst')
      (hactive' : inst'.state.isActive) (hseen : settlementsIn v'.seen = settlementsIn v.seen)
      (htold : ∀ push ∈ pushes, isFinishedPush battleId push = false)
  | ends {inst inst' : InternalInstance (Option PluginState)} {settlement : SettlementContext}
      {push : Json} (hinst : v.inst = some inst) (hbefore : inst.state ≠ .kFinished)
      (hinst' : v'.inst = some inst') (hrests : Rests lib inst')
      (hafter : inst'.state = .kFinished)
      (hseen : settlementsIn v'.seen = settlementsIn v.seen ++ [settlement])
      (htold : pushes.filter (isFinishedPush battleId) = [push])
      (hpush : isSettlementPush battleId push) (hcarries : Carries push settlement)

theorem isSettlementPush_of_not {battleId : String} {push : Json}
    (h : isFinishedPush battleId push = false) : isSettlementPush battleId push = false := by
  rw [isSettlementPush, h, Bool.false_and]

theorem not_kFinished_of_isActive {state : InstanceState} (h : state.isActive) :
    state ≠ .kFinished := by
  rintro rfl
  cases h

/-- A call moves a battle on or settles it, where no query ends it. -/
theorem moves_of_effect {s : BattleBackend} {battleId : String} {v v' : View} {pushes : List Json}
    {c : BattleCall} (h : Effect s battleId v v' pushes c)
    (hrests : ∀ inst, v.inst = some inst → Rests s.lib inst) (hnone : v.settlement = none)
    (hquiet : ∀ nowMs inst, c = .battleState nowMs battleId → v.inst = some inst →
      inst.state.isActive → s.tickIsDue battleId nowMs →
        battleEnds inst.ctx (s.getInstanceFrame battleId + 1) = false) :
    v'.settlement = none ∧ Moves s.lib battleId v v' c pushes := by
  cases h with
  | other heq htold =>
    rw [heq]
    exact ⟨hnone, .stays rfl rfl (fun push hpush => isSettlementPush_of_not (htold push hpush))
      (.inl htold)⟩
  | create hinst hnew heq htold =>
    rw [heq]
    have hactive := congrArg InstanceState.isActive hnew.state
    exact ⟨hnone, .starts hinst rfl hnew.rests hactive rfl htold⟩
  | @input nowMs _ _ _ inst input frame _ _ _ out hinst hactive hout heq htold =>
    have hqueued : IsBattle s.lib (queued inst input) :=
      ⟨(hrests inst hinst).battle.plugin, (hrests inst hinst).battle.ready⟩
    obtain ⟨-, hrests', hcases⟩ := runTick_cases hqueued s.runtime.movedFrom battleId frame nowMs
    rw [hout] at hrests' hcases
    have hsame : settlementsIn (.inputAccepted battleId input :: out.2.2) =
      settlementsIn out.2.2 := rfl
    rcases hcases with ⟨hfinish, hstate, hempty⟩ | ⟨hfinish, hstate, inst', reason, hbattle, hone⟩
    · have hactive' : out.1.state.isActive := by
        rw [hstate]
        rfl
      refine ⟨?_, .runs hinst hactive (by rw [heq]; rfl) hrests' hactive' ?_ ?_⟩
      · simp [heq, View.record, View.after, hsame, hempty, hnone]
      · simp [heq, View.record, View.after, settlementsIn_append, hsame, hempty]
      · simp [htold, hfinish, isFinishedPush_framePush]
    · have hcarries := carries_finishedPush hbattle battleId reason "finished" out.2.1.frameNumber
      refine ⟨by simp [heq, View.record, hfinish], .ends hinst (not_kFinished_of_isActive hactive)
        (by rw [heq]; rfl) hrests' hstate ?_ ?_ (isSettlementPush_of_carries hcarries) hcarries⟩
      · simp [heq, View.record, View.after, settlementsIn_append, hsame, hone]
      · simp [htold, hfinish, View.after, hone, isFinishedPush_framePush,
          isFinishedPush_finishedPush]
  | @state nowMs inst out hinst hactive hdue hout heq htold =>
    have hrest := hrests inst hinst
    obtain ⟨hstats, hrests', hcases⟩ := runTick_cases hrest.battle s.runtime.movedFrom battleId
      (s.getInstanceFrame battleId + 1) nowMs
    have hgoes : out.2.1.shouldFinish = false := by
      rw [← hout, hstats, shouldFinish_runFrame hrest.battle hrest.queue]
      exact hquiet nowMs inst rfl hinst hactive hdue
    rw [hout] at hrests' hcases
    rcases hcases with ⟨-, hstate, hempty⟩ | ⟨hfinish, -⟩
    · have hactive' : out.1.state.isActive := by
        rw [hstate]
        rfl
      refine ⟨?_, .runs hinst hactive (by rw [heq]; rfl) hrests' hactive' ?_ (by simp [htold])⟩
      · simp [heq, View.after, hempty, hnone]
      · simp [heq, View.after, settlementsIn_append, hempty]
    · rw [hgoes] at hfinish
      cases hfinish
  | @finish _ inst reason totalFrames out hinst hstate hout heq htold =>
    have hbattle := (hrests inst hinst).battle
    have hone : settlementsIn out.2 = [(settle battleId inst .kUserRequested).2] := by
      rw [← hout]
      rfl
    have hcarries := carries_finishedPush hbattle battleId .kUserRequested reason totalFrames
    refine ⟨by rw [heq], .ends hinst hstate (by rw [heq]; rfl) ?_ ?_ ?_ ?_
      (isSettlementPush_of_carries hcarries) hcarries⟩
    · rw [← hout]
      exact (hrests inst hinst).finished _ _
    · rw [← hout]
      rfl
    · simp [heq, View.after, settlementsIn_append, hone]
    · simp [htold, View.after, hone, isFinishedPush_finishedPush]
  | @again hasReason reason totalFrames hdone heq htold =>
    refine ⟨by rw [heq], .stays (by rw [heq]) (by rw [heq]) ?_
      (.inr ⟨hasReason, rfl, fun inst hinst => ?_⟩)⟩
    · simp [htold, hnone, isSettlementPush_finishedPush_empty]
    · rcases hdone inst hinst with hfinished | hclosed
      · exact hfinished
      · exact absurd hclosed (hrests inst hinst).not_kClosed

namespace Serving

/-! ## Whole runs -/

variable {battleId : String} {s : Serving}

/-- What is true of a battle between two requests. -/
structure Settled (battleId : String) (s : Serving) : Prop where
  rests : ∀ inst, s.backend.runtime.find battleId = some inst → Rests s.backend.lib inst
  pending : s.backend.settlements battleId = none
  absent : s.backend.runtime.find battleId = none →
    s.pushes.filter (isSettlementPush battleId) = []
  running : ∀ inst, s.backend.runtime.find battleId = some inst → inst.state ≠ .kFinished →
    s.pushes.filter (isSettlementPush battleId) = [] ∧ settlementsOf battleId s = []
  finished : ∀ inst, s.backend.runtime.find battleId = some inst → inst.state = .kFinished →
    ∃ push settlement, s.pushes.filter (isSettlementPush battleId) = [push] ∧
      settlementsOf battleId s = [settlement] ∧ Carries push settlement

/-- Every `battle_finished` push of the battle has a settlement. -/
def OnlySettlements (battleId : String) (s : Serving) : Prop :=
  ∀ push ∈ s.pushes, isFinishedPush battleId push → isSettlementPush battleId push

theorem Settled.quiet (h : Settled battleId s) {replies : List Reply}
    (hquiet : ∀ r ∈ replies, r.pushes = []) :
    Settled battleId { s with replies := s.replies ++ replies } := by
  refine ⟨h.rests, h.pending, ?_, ?_, ?_⟩ <;> rw [pushes_append hquiet]
  · exact h.absent
  · exact h.running
  · exact h.finished

theorem filter_isSettlementPush (battleId : String) (pushes : List Json) :
    pushes.filter (isSettlementPush battleId) =
      (pushes.filter (isFinishedPush battleId)).filter fun push => (push.find? "scores").isSome := by
  rw [List.filter_filter]
  exact List.filter_congr fun push _ => Bool.and_comm _ _

theorem Settled.call (hconf : s.backend.core.Configured) (h : Settled battleId s)
    {req : BattleRequest} {c : BattleCall} (hread : req.read = .ok (.inr c))
    (hok : NoSilentEnd battleId s req) :
    Settled battleId
      { backend := (s.backend.call c).1, replies := s.replies ++ [(s.backend.call c).2] } := by
  have hlib : (s.backend.call c).1.lib = s.backend.lib :=
    (BattleBackend.runtime_call_cases hconf c).1
  obtain ⟨hpending, hmoves⟩ := moves_of_effect (BattleBackend.effect_call hconf battleId c) h.rests
    h.pending fun nowMs inst hc => hok nowMs inst (by rw [hread, hc])
  generalize hs' : Serving.mk (s.backend.call c).1 (s.replies ++ [(s.backend.call c).2]) = s'
  have hb : (s.backend.call c).1 = s'.backend := by rw [← hs']
  have hpushes : s'.pushes.filter (isSettlementPush battleId) =
      s.pushes.filter (isSettlementPush battleId) ++
        (s.backend.call c).2.pushes.filter (isSettlementPush battleId) := by
    rw [← hs']
    simp [pushes]
  rw [hb] at hpending hmoves hlib
  have hnot (htold : ∀ push ∈ (s.backend.call c).2.pushes, isSettlementPush battleId push = false) :
      s'.pushes.filter (isSettlementPush battleId) =
        s.pushes.filter (isSettlementPush battleId) := by
    have hnil : (s.backend.call c).2.pushes.filter (isSettlementPush battleId) = [] :=
      List.filter_eq_nil_iff.mpr fun push hpush => by simp [htold push hpush]
    rw [hpushes, hnil, List.append_nil]
  cases hmoves with
  | stays hinst hlife htold hagain =>
    have hsame := hnot htold
    have hfind : s'.backend.runtime.find battleId = s.backend.runtime.find battleId := hinst
    have hlife' : settlementsOf battleId s' = settlementsOf battleId s := hlife
    refine ⟨?_, hpending, ?_, ?_, ?_⟩ <;> rw [hfind]
    · rw [hlib]
      exact h.rests
    · rw [hsame]
      exact h.absent
    · rw [hsame, hlife']
      exact h.running
    · rw [hsame, hlife']
      exact h.finished
  | @starts inst' hfind hinst' hrests hactive hlife htold =>
    have hfind' : s'.backend.runtime.find battleId = some inst' := hinst'
    have hsame := hnot fun push hpush => isSettlementPush_of_not (htold push hpush)
    refine ⟨?_, hpending, ?_, ?_, ?_⟩ <;> rw [hfind']
    · rintro inst ⟨⟩
      rwa [hlib]
    · rintro ⟨⟩
    · rintro inst ⟨⟩ -
      exact ⟨hsame.trans (h.absent hfind), hlife⟩
    · rintro inst ⟨⟩ hfinished
      exact absurd hfinished (not_kFinished_of_isActive hactive)
  | @runs inst inst' hfind hactive hinst' hrests hactive' hlife htold =>
    have hfind' : s'.backend.runtime.find battleId = some inst' := hinst'
    have hsame := hnot fun push hpush => isSettlementPush_of_not (htold push hpush)
    have hbefore := h.running inst hfind (not_kFinished_of_isActive hactive)
    refine ⟨?_, hpending, ?_, ?_, ?_⟩ <;> rw [hfind']
    · rintro inst ⟨⟩
      rwa [hlib]
    · rintro ⟨⟩
    · rintro inst ⟨⟩ -
      exact ⟨hsame.trans hbefore.1, hlife.trans hbefore.2⟩
    · rintro inst ⟨⟩ hfinished
      exact absurd hfinished (not_kFinished_of_isActive hactive')
  | @ends inst inst' settlement push hfind hunfinished hinst' hrests hafter hlife htold hpush
      hcarries =>
    have hfind' : s'.backend.runtime.find battleId = some inst' := hinst'
    have hbefore := h.running inst hfind hunfinished
    refine ⟨?_, hpending, ?_, ?_, ?_⟩ <;> rw [hfind']
    · rintro inst ⟨⟩
      rwa [hlib]
    · rintro ⟨⟩
    · rintro inst ⟨⟩ hnot'
      exact absurd hafter hnot'
    · rintro inst ⟨⟩ -
      have hscores : (push.find? "scores").isSome := by
        rw [isSettlementPush, Bool.and_eq_true] at hpush
        exact hpush.2
      refine ⟨push, settlement, ?_, ?_, hcarries⟩
      · rw [hpushes, hbefore.1, List.nil_append, filter_isSettlementPush, htold]
        simp [hscores]
      · have hlife' : settlementsOf battleId s' = settlementsOf battleId s ++ [settlement] := hlife
        rw [hlife', hbefore.2, List.nil_append]

theorem OnlySettlements.call (hconf : s.backend.core.Configured) (h : Settled battleId s)
    (honly : OnlySettlements battleId s) {req : BattleRequest} {c : BattleCall}
    (hread : req.read = .ok (.inr c)) (hok : NoSilentEnd battleId s req)
    (hfinish : FinishesUnfinished battleId s req) :
    OnlySettlements battleId
      { backend := (s.backend.call c).1, replies := s.replies ++ [(s.backend.call c).2] } := by
  obtain ⟨-, hmoves⟩ := moves_of_effect (BattleBackend.effect_call hconf battleId c) h.rests
    h.pending fun nowMs inst hc => hok nowMs inst (by rw [hread, hc])
  intro push hpush hfinished
  have hmem : push ∈ s.pushes ∨ push ∈ (s.backend.call c).2.pushes := by
    simpa [pushes] using hpush
  rcases hmem with hmem | hmem
  · exact honly push hmem hfinished
  have hnot (htold : ∀ push ∈ (s.backend.call c).2.pushes, isFinishedPush battleId push = false) :
      isSettlementPush battleId push := by
    rw [htold push hmem] at hfinished
    cases hfinished
  cases hmoves with
  | stays hfind hlife htold hagain =>
    rcases hagain with htold | ⟨hasReason, rfl, hdone⟩
    · exact hnot htold
    · obtain ⟨inst, hinst, hunfinished⟩ := hfinish hasReason hread
      exact absurd (hdone inst hinst) hunfinished
  | starts _ _ _ _ _ htold => exact hnot htold
  | runs _ _ _ _ _ _ htold => exact hnot htold
  | @ends _ _ _ push' _ _ _ _ _ _ htold hpush' _ =>
    have hin : push ∈ (s.backend.call c).2.pushes.filter (isFinishedPush battleId) :=
      List.mem_filter.mpr ⟨hmem, hfinished⟩
    rw [htold, List.mem_singleton] at hin
    rwa [hin]

theorem Settled.initial (battleId : String) (lib : Libraries) (maxInstances : UInt32)
    (movedFrom : String → String) (instanceType : String) (hasReplayStorage : Bool) :
    Settled battleId
      { backend := .initial lib maxInstances movedFrom instanceType hasReplayStorage } := by
  refine ⟨?_, rfl, fun _ => rfl, ?_, ?_⟩ <;>
    simp [BattleBackend.initial, InstanceRuntime.find]

theorem settled (hr : Reaches (NoSilentEnd battleId) s) :
    s.backend.core.Configured ∧ Settled battleId s :=
  hr.invariant_call (P := Settled battleId) (Settled.initial battleId)
    (fun _ _ h hquiet => h.quiet hquiet) fun _ _ _ hconf h hok hread => h.call hconf hread hok

theorem Settled.settledOnce (h : Settled battleId s) : SettledOnce battleId s := by
  intro inst hfind
  split_ifs with hstate
  · exact h.finished inst hfind hstate
  · exact (h.running inst hfind hstate).1

/-- Where no query ends the battle, a finished battle has had one settlement and one push
that carries it, and there was none before; where moreover a finish is only requested of a
battle that is not finished, there is no other `battle_finished` push of it. -/
theorem settled_once (battleId : String) (s : Serving) :
    (Reaches (NoSilentEnd battleId) s → SettledOnce battleId s) ∧
    (Reaches (fun s req => NoSilentEnd battleId s req ∧ FinishesUnfinished battleId s req) s →
      SettledOnce battleId s ∧ s.pushes.filter (isFinishedPush battleId) =
        s.pushes.filter (isSettlementPush battleId)) := by
  refine ⟨fun hr => (settled hr).2.settledOnce, fun hr => ?_⟩
  obtain ⟨-, hsettled, honly⟩ := hr.invariant_call
    (P := fun s => Settled battleId s ∧ OnlySettlements battleId s)
    (fun _ _ _ _ _ => ⟨.initial _ _ _ _ _ _, by simp [OnlySettlements, pushes]⟩)
    (fun s replies h hquiet => ⟨h.1.quiet hquiet, by
      rw [OnlySettlements, pushes_append hquiet]
      exact h.2⟩)
    fun _ _ _ hconf h hok hread =>
      ⟨h.1.call hconf hread hok.1, h.2.call hconf h.1 hread hok.1 hok.2⟩
  refine ⟨hsettled.settledOnce, List.filter_congr fun push hpush => ?_⟩
  rw [Bool.eq_iff_iff]
  refine ⟨honly push hpush, fun h => ?_⟩
  rw [isSettlementPush, Bool.and_eq_true] at h
  exact h.1

/-- A battle that is created and finished at once. -/
theorem settled_once_finish : ∃ s inst, s.backend.runtime.find "b" = some inst ∧
    inst.state = .kFinished ∧ SettledOnce "b" s ∧
    s.pushes.filter (isFinishedPush "b") = s.pushes.filter (isSettlementPush "b") := by
  obtain ⟨s₁, s₂, inst, hs₁, hs₂, hcore⟩ := create_finish (s := fresh) rfl rfl
    (show "b" ≠ "" by decide) rfl (by decide) 0
  have hcreate : ∀ s, NoSilentEnd "b" s (createRequest "b" 0) ∧
      FinishesUnfinished "b" s (createRequest "b" 0) := by
    intro s
    simp [NoSilentEnd, FinishesUnfinished, read_createRequest]
  have hfinish : NoSilentEnd "b" s₁ (finishRequest "b") ∧
      FinishesUnfinished "b" s₁ (finishRequest "b") := by
    refine ⟨by simp [NoSilentEnd, read_finishRequest], fun _ _ => ?_⟩
    cases hs₁
    decide +kernel
  have hr : Reaches (fun s req => NoSilentEnd "b" s req ∧ FinishesUnfinished "b" s req) s₂ :=
    .step (.step (.init ⟨_, _, _, _, _, rfl⟩) (hcreate fresh) hs₁) hfinish hs₂
  have hfind : s₂.backend.core.runtime.find "b" =
      some (finished "b" inst .kUserRequested).1 := by
    rw [hcore]
    exact InstanceRuntime.find_put_self _ _ _ _
  exact ⟨s₂, _, hfind, rfl, (settled_once "b" s₂).2 hr⟩

/-- A query ticks the last frame of a battle : it is finished, and nothing is pushed. -/
theorem not_settled_once_state : ∃ s, Reaches (fun _ _ => True) s ∧ ¬SettledOnce "b" s ∧
    (∃ inst, s.backend.runtime.find "b" = some inst ∧ inst.state = .kFinished) ∧
    s.pushes.filter (isFinishedPush "b") = [] := by
  obtain ⟨s, inst, hr, hfind, hstate, -, hnone⟩ := poll_to_end
  refine ⟨s, hr, fun hsettled => ?_, ⟨inst, hfind, hstate⟩, hnone⟩
  have hone := hsettled inst hfind
  rw [if_pos hstate, filter_isSettlementPush, hnone] at hone
  obtain ⟨push, settlement, hpush, -⟩ := hone
  cases hpush

end Serving

end BoostGateway.Battle
