import BoostGateway.Gateway.BridgeRuntime

/-!
# Inputs handled by route workers

The answer to a `battle_input` is worked off by two copies of the same code, one in the
task of a route worker and one for a gateway without workers (`runtime.cpp:1239-1357`).
The copy of the task does not submit the scores of a battle that ends to the leaderboard,
and does not forget the battle. And nothing catches what a task raises : it leaves the body of
the thread and ends the process, where the actor system catches what the gateway raises.

`agree_iff` : the two lead to the same tracked battles, the same leaderboard submits and
the same messages for every session if and only if the answer is read without raising and
does not come to a `battle_finished` push.
-/

namespace BoostGateway.Gateway

open Json Battle Service

namespace BridgeRuntime

variable {W : Type*} (p : Platform) (backend : W → BackendCall → W × BackendRoutingResult)

variable (g : BridgeRuntime W)

/-- The input is handled without workers. -/
def handledInline (c : GatewayCommand) : BridgeRuntime W :=
  (g.battleInputOn p backend false c).1

/-- The input is put into the queue, and a worker runs its task to the end. If the task
raises, the process ends. -/
def handledByWorker (c : GatewayCommand) : Option (BridgeRuntime W) :=
  let g' := (g.battleInputOn p backend true c).1
  match g'.battleRouteTasks.drop g.battleRouteTasks.length with
  | [] => some g'
  | task :: _ =>
    match { g' with battleRouteTasks := g.battleRouteTasks }.runBattleRouteTask p backend task with
    | (g', .ok _) => some g'
    | (_, .error _) => none

/-- Quiet with calls of any kind. -/
abbrev AnyQuiet (g' : BridgeRuntime W) : Prop := Quiet backend (fun _ => True) g g'

/-- The payloads of the submits that went to the leaderboard. -/
def submits : List String :=
  (g.calls.filter fun call => call.service = .leaderboard).map (·.payload)

/-- What a session is sent. -/
def sentTo (s : SessionId) : List SessionWrite :=
  g.writes.filter (·.sessionId = s)

/-- The same tracked battles, leaderboard submits and messages. -/
structure Agree (a b : BridgeRuntime W) : Prop where
  battles : a.battlesByRoomId = b.battlesByRoomId
  ids : a.roomToBattleId = b.roomToBattleId
  submits : a.submits = b.submits
  sent : ∀ s, (a.sentTo s).Perm (b.sentTo s)

/-- The loop over the pushes raises nothing and comes to none that ends the battle. -/
def goesThrough : List Json → Bool
  | [] => true
  | push :: pushes =>
    match push.value getString "kind" "" with
    | .error _ => false
    | .ok kind =>
      if kind = "battle_finished" then false
      else if kind = "frame_advanced" then
        match push.value getUInt64 "frame_number" 0 with
        | .error _ => false
        | .ok _ => goesThrough pushes
      else goesThrough pushes

/-- The answer is read without raising and does not come to the end of the battle. -/
def answerGoesThrough (result : BackendRoutingResult) : Bool :=
  !result.success ||
    match readAnswer "input_rejected" result.responsePayload with
    | .error _ => false
    | .ok (.refused _) => true
    | .ok (.accepted resp) =>
      match resp.value getUInt64 "input_seq" 0 with
      | .ok _ => goesThrough (pushesOf resp)
      | .error _ => false

/-- The input that the command is, as the task it is turned into. -/
def inputOf (c : GatewayCommand) : Option BattleRouteTask :=
  let userId := g.lookup.userIdFor c.sessionId
  let roomId := g.lookup.roomIdFor c.sessionId
  if userId = "" ∨ roomId = "" ∨ g.battlesByRoomId roomId = false then none
  else
    match (parseBattleInputCommandBody c.body).filter validateBattleInputCommandBody with
    | some input =>
      if input.isFinishRequest then none
      else some { sessionId := c.sessionId, requestId := c.requestId, roomId
                  payload := p.dump (inputPayload userId (g.battleIdForRoom roomId) input) }
    | none => none

/-- The input where its battle has an id, so that it may go to a worker. -/
def inputTask (c : GatewayCommand) : Option BattleRouteTask :=
  (g.inputOf p c).filter fun task => g.battleIdForRoom task.roomId ≠ ""

/-- Where the command goes to a worker, the answer to it goes through. -/
def inputGoesThrough (c : GatewayCommand) : Bool :=
  (g.inputTask p c).all fun task =>
    answerGoesThrough (g.route backend ⟨.battle, "battle_input", task.payload⟩).2

/-! ## What the two paths do with a command -/

variable (roomId : String)

theorem battleRouteTasks_announceInline (g : BridgeRuntime W) (push : Json) :
    (announceInline p backend roomId g push).1.battleRouteTasks = g.battleRouteTasks := by
  unfold announceInline
  split
  · rfl
  · split_ifs
    · exact (quiet_announceFrame roomId g push : AnyQuiet backend g _).battleRouteTasks
    · have hsubmit : AnyQuiet backend g
          (g.submitBattleFinishedPushToLeaderboard p backend push roomId).1 :=
        quiet_submitBattleFinishedPushToLeaderboard (fun _ _ _ _ => trivial) g push roomId
      split <;> rename_i heq <;> rw [heq] at hsubmit
      · exact hsubmit.battleRouteTasks
      · exact (hsubmit.trans (quiet_broadcastToRoom ..)).battleRouteTasks
    · rfl

theorem battleRouteTasks_battleInputInline (task : BattleRouteTask) :
    (g.battleInputInline p backend task).1.battleRouteTasks = g.battleRouteTasks := by
  unfold battleInputInline afterInput
  dsimp only
  split_ifs
  · split
    · rfl
    · rfl
    · split
      · rfl
      · exact eachPush_induction
          (R := fun g g' => g'.battleRouteTasks = g.battleRouteTasks) (fun _ => rfl)
          (fun h h' => h'.trans h) (battleRouteTasks_announceInline p backend _) _ _
  · rfl

theorem battleRouteTasks_battleFinish (c : GatewayCommand)
    (userId roomId battleId : String) (reason : BattleFinishReason) :
    (g.battleFinish p backend c userId roomId battleId reason).1.battleRouteTasks =
      g.battleRouteTasks := by
  unfold battleFinish
  dsimp only
  split
  · rfl
  · rfl
  · rename_i resp _
    generalize hemit : ((g.route backend _).1.emit _ _ _ _ _ : BridgeRuntime W) = g₁
    have hquiet : AnyQuiet backend g₁ (eachPush _ g₁ (pushesOf resp)).1 :=
      quiet_eachPush (quiet_announceFinished (p := p) (fun _ _ _ _ => trivial) roomId) g₁ _
    have htasks : g₁.battleRouteTasks = g.battleRouteTasks := hemit ▸ rfl
    split <;> rename_i heq <;> rw [heq] at hquiet
    · exact hquiet.battleRouteTasks.trans htasks
    · exact hquiet.battleRouteTasks.trans htasks

/-- What is no input is handled the same with workers and without, and queues nothing. -/
theorem battleInputOn_of_none {g : BridgeRuntime W} {c : GatewayCommand}
    (h : g.inputOf p c = none) : ∃ handled : Handled W,
      (∀ offload, g.battleInputOn p backend offload c = handled) ∧
      handled.1.battleRouteTasks = g.battleRouteTasks := by
  by_cases hnone : g.lookup.userIdFor c.sessionId = "" ∨ g.lookup.roomIdFor c.sessionId = ""
  · exact ⟨g.unhandled, fun offload => by simp only [battleInputOn, if_pos hnone], rfl⟩
  obtain ⟨hu, hr⟩ := not_or.mp hnone
  cases hparse : (parseBattleInputCommandBody c.body).filter validateBattleInputCommandBody with
  | none =>
    exact ⟨_, fun offload => by simp only [battleInputOn, if_neg hnone, hparse]; rfl, rfl⟩
  | some input =>
    by_cases hroom : g.battlesByRoomId (g.lookup.roomIdFor c.sessionId) = true
    · have hfinish : input.isFinishRequest = true := by
        simpa [inputOf, hu, hr, hroom, hparse] using h
      refine ⟨_, fun offload => by
        simp only [battleInputOn, if_neg hnone, hparse, if_pos hroom, if_pos hfinish]; rfl, ?_⟩
      exact g.battleRouteTasks_battleFinish p backend ..
    · exact ⟨_, fun offload => by
        simp only [battleInputOn, if_neg hnone, hparse, if_neg hroom]; rfl, rfl⟩

/-- An input is queued, or called at once. -/
theorem battleInputOn_of_inputOf {g : BridgeRuntime W} {c : GatewayCommand}
    {task : BattleRouteTask} (h : g.inputOf p c = some task) (offload : Bool) :
    g.battleInputOn p backend offload c =
      if offload = true ∧ g.battleIdForRoom task.roomId ≠ "" then g.enqueueBattleRouteTask task
      else g.battleInputInline p backend task := by
  unfold inputOf at h
  dsimp only at h
  split_ifs at h with hnone
  obtain ⟨hu, hr, hroom⟩ : g.lookup.userIdFor c.sessionId ≠ "" ∧
      g.lookup.roomIdFor c.sessionId ≠ "" ∧
      g.battlesByRoomId (g.lookup.roomIdFor c.sessionId) = true := by
    simpa [not_or] using hnone
  split at h
  · rename_i input hparse
    split_ifs at h with hfinish
    obtain rfl := Option.some.inj h
    simp only [battleInputOn, hu, hr, or_self, if_false, hparse, if_pos hroom, if_neg hfinish]
  · cases h

/-- The session of an input is in the room, which has a battle. -/
theorem inputOf_room {g : BridgeRuntime W} {c : GatewayCommand} {task : BattleRouteTask}
    (h : g.inputOf p c = some task) : g.battlesByRoomId task.roomId = true ∧
      task.sessionId ∈ g.lookup.sessionsInRoom task.roomId := by
  unfold inputOf at h
  dsimp only at h
  split_ifs at h with hnone
  obtain ⟨-, hr, hroom⟩ : g.lookup.userIdFor c.sessionId ≠ "" ∧
      g.lookup.roomIdFor c.sessionId ≠ "" ∧
      g.battlesByRoomId (g.lookup.roomIdFor c.sessionId) = true := by
    simpa [not_or] using hnone
  split at h
  · split_ifs at h
    obtain rfl := Option.some.inj h
    refine ⟨hroom, ?_⟩
    rw [g.lookupSound.mem_sessionsInRoom]
    exact SessionLookup.lookup_of_roomIdFor hr
  · cases h

/-- A command that puts nothing into the queue is handled as it would be without workers. -/
theorem handledByWorker_of_tasks {g : BridgeRuntime W} {c : GatewayCommand}
    (h : (g.battleInputOn p backend true c).1.battleRouteTasks = g.battleRouteTasks) :
    g.handledByWorker p backend c = some (g.battleInputOn p backend true c).1 := by
  unfold handledByWorker
  dsimp only
  rw [h, List.drop_length]

/-- Without a task both paths do the same; with one each runs its copy of the code. -/
theorem handled_cases (c : GatewayCommand) :
    (g.inputTask p c = none ∧
      g.handledByWorker p backend c = some (g.handledInline p backend c)) ∨
    ∃ task, g.inputTask p c = some task ∧ g.battlesByRoomId task.roomId = true ∧
      task.sessionId ∈ g.lookup.sessionsInRoom task.roomId ∧
      g.handledInline p backend c = (g.battleInputInline p backend task).1 ∧
      g.handledByWorker p backend c =
        match g.runBattleRouteTask p backend task with
        | (g', .ok _) => some g'
        | (_, .error _) => none := by
  cases hinput : g.inputOf p c with
  | none =>
    obtain ⟨handled, heq, htasks⟩ := battleInputOn_of_none p backend hinput
    refine .inl ⟨by simp [inputTask, hinput], ?_⟩
    rw [handledByWorker_of_tasks p backend (by rw [heq, htasks]), handledInline, heq, heq]
  | some task =>
    have heq := battleInputOn_of_inputOf p backend hinput
    by_cases hid : g.battleIdForRoom task.roomId = ""
    · refine .inl ⟨by simp [inputTask, hinput, hid], ?_⟩
      have hinline : ∀ offload, g.battleInputOn p backend offload c =
          g.battleInputInline p backend task := fun offload => by
        rw [heq, if_neg fun h => h.2 hid]
      rw [handledByWorker_of_tasks p backend, handledInline, hinline, hinline]
      rw [hinline, battleRouteTasks_battleInputInline]
    · obtain ⟨hroom, hs⟩ := inputOf_room p hinput
      refine .inr ⟨task, by simp [inputTask, hinput, hid], hroom, hs, ?_, ?_⟩
      · rw [handledInline, heq, if_neg (by simp)]
      · unfold handledByWorker
        dsimp only
        rw [heq, if_pos ⟨rfl, hid⟩]
        simp [enqueueBattleRouteTask]

/-! ## What the two copies do with the pushes -/

theorem writes_broadcastToRoom (messageId : UInt16)
    (body : String) : (g.broadcastToRoom roomId messageId body).writes = g.writes ++
      (g.lookup.sessionsInRoom roomId).map fun s =>
        { sessionId := s, protocolMessageId := messageId, body } := by
  have hall : ∀ (sessions : List SessionId) (g : BridgeRuntime W),
      (sessions.foldl (fun g s => g.emit messageId s 0 .kOk body) g).writes = g.writes ++
        sessions.map fun s => { sessionId := s, protocolMessageId := messageId, body } := by
    intro sessions
    induction sessions with
    | nil => simp
    | cons s sessions ih =>
      intro g
      rw [List.foldl_cons, ih, List.map_cons]
      simp [emit, ErrorCode.toInt32]
  exact hall _ g

/-- A session in the room gets the message. -/
theorem length_sentTo_broadcastToRoom {g : BridgeRuntime W} {roomId : String} {s : SessionId}
    (hs : s ∈ g.lookup.sessionsInRoom roomId) (messageId : UInt16) (body : String) :
    (g.sentTo s).length < ((g.broadcastToRoom roomId messageId body).sentTo s).length := by
  rw [sentTo, sentTo, writes_broadcastToRoom, List.filter_append, List.length_append]
  have hmem : ({ sessionId := s, protocolMessageId := messageId, body } : SessionWrite) ∈
      ((g.lookup.sessionsInRoom roomId).map fun s =>
        ({ sessionId := s, protocolMessageId := messageId, body } : SessionWrite)).filter
          (·.sessionId = s) :=
    List.mem_filter.mpr ⟨List.mem_map_of_mem hs, by simp⟩
  exact Nat.lt_add_of_pos_right (List.length_pos_of_mem hmem)

theorem Quiet.length_sentTo {g g' : BridgeRuntime W} (h : AnyQuiet backend g g') (s : SessionId) :
    (g.sentTo s).length ≤ (g'.sentTo s).length := by
  obtain ⟨ws, hws⟩ := h.writes
  rw [sentTo, sentTo, ← hws, List.filter_append, List.length_append]
  omega

/-- Up to a push that ends the battle the copies are the same. -/
theorem announce_eq {g : BridgeRuntime W} {roomId : String} {push : Json}
    (h : push.value getString "kind" "" ≠ .ok "battle_finished") :
    announceInline p backend roomId g push = announceOffload p roomId g push := by
  unfold announceInline announceOffload
  split
  · rfl
  · rename_i kind hkind
    have hne : kind ≠ "battle_finished" := by
      rintro rfl
      exact h hkind
    simp only [if_neg hne]

/-- The loop goes on after a push that does not raise. -/
theorem goesThrough_cons {push : Json}
    (h : push.value getString "kind" "" ≠ .ok "battle_finished") (pushes : List Json) :
    goesThrough (push :: pushes) =
      match (announceOffload p roomId g push).2 with
      | .ok _ => goesThrough pushes
      | .error _ => false := by
  rw [goesThrough, announceOffload]
  cases hk : push.value getString "kind" "" with
  | error e => rfl
  | ok kind =>
    have hne : kind ≠ "battle_finished" := by
      rintro rfl
      exact h hk
    simp only [if_neg hne]
    split_ifs
    · rw [announceFrame]
      cases push.value getUInt64 "frame_number" 0 <;> rfl
    · rfl

theorem eachPush_eq {pushes : List Json} (h : goesThrough pushes) (g : BridgeRuntime W) :
    eachPush (announceInline p backend roomId) g pushes =
        eachPush (announceOffload p roomId) g pushes ∧
      (eachPush (announceOffload p roomId) g pushes).2 = .ok () := by
  induction pushes generalizing g with
  | nil => exact ⟨rfl, rfl⟩
  | cons push pushes ih =>
    have hkind : push.value getString "kind" "" ≠ .ok "battle_finished" := fun hk => by
      simp [goesThrough, hk] at h
    rw [goesThrough_cons p g roomId hkind] at h
    rw [eachPush, eachPush, announce_eq p backend hkind]
    generalize announceOffload p roomId g push = announced at h
    obtain ⟨g', error | _⟩ := announced
    · cases h
    · exact ih h g'

/-- A battle that is forgotten stays forgotten. -/
theorem battlesByRoomId_eachPush {roomId : String} {g : BridgeRuntime W}
    (h : g.battlesByRoomId roomId = false) (pushes : List Json) :
    (eachPush (announceInline p backend roomId) g pushes).1.battlesByRoomId roomId = false := by
  refine eachPush_induction (R := fun g g' => g.battlesByRoomId roomId = false →
    g'.battlesByRoomId roomId = false) (fun _ h => h) (fun h h' hg => h' (h hg)) ?_ g pushes h
  intro g push hg
  unfold announceInline
  split
  · exact hg
  · split_ifs
    · rw [(quiet_announceFrame roomId g push : AnyQuiet backend g _).battlesByRoomId]
      exact hg
    · have hsubmit : AnyQuiet backend g
          (g.submitBattleFinishedPushToLeaderboard p backend push roomId).1 :=
        quiet_submitBattleFinishedPushToLeaderboard (fun _ _ _ _ => trivial) g push roomId
      split <;> rename_i heq <;> rw [heq] at hsubmit
      · rw [hsubmit.battlesByRoomId]
        exact hg
      · simp [untrackBattle]
    · exact hg

/-- Where the loop does not go through, it raises for the worker, or a push that ends the battle
tells the copies apart : either the one without workers forgets the battle, or it stops and
leaves a session of the room without the push. -/
theorem eachPush_differ {roomId : String} {s : SessionId} {pushes : List Json}
    (h : goesThrough pushes = false) {g : BridgeRuntime W}
    (hbattle : g.battlesByRoomId roomId = true) (hs : s ∈ g.lookup.sessionsInRoom roomId) :
    let inline := (eachPush (announceInline p backend roomId) g pushes).1
    let offload := (eachPush (announceOffload p roomId) g pushes).1
    (∃ e, (eachPush (announceOffload p roomId) g pushes).2 = .error e) ∨
      inline.battlesByRoomId roomId ≠ offload.battlesByRoomId roomId ∨
      (inline.sentTo s).length < (offload.sentTo s).length := by
  induction pushes generalizing g with
  | nil => cases h
  | cons push pushes ih =>
    by_cases hkind : push.value getString "kind" "" = .ok "battle_finished"
    · have hoffload : AnyQuiet backend g (eachPush _ g (push :: pushes)).1 :=
        quiet_eachPush (quiet_announceOffload (p := p) roomId) g _
      have hpush : announceOffload p roomId g push =
          (g.broadcastToRoom roomId kBattleStatePush (p.dump push), .ok ()) := by
        simp [announceOffload, hkind]
      dsimp only
      cases hread : readFinishedPush push roomId with
      | error e =>
        right; right
        have hinline : announceInline p backend roomId g push = (g, .error e) := by
          simp [announceInline, hkind, submitBattleFinishedPushToLeaderboard, hread]
        rw [eachPush, eachPush, hinline, hpush]
        exact (length_sentTo_broadcastToRoom hs _ _).trans_le
          ((quiet_eachPush (quiet_announceOffload (p := p) roomId) _ pushes :
            AnyQuiet backend _ _).length_sentTo backend s)
      | ok finished =>
        right; left
        obtain ⟨g', hinline⟩ : ∃ g' : BridgeRuntime W, announceInline p backend roomId g push =
            (g'.untrackBattle roomId, .ok ()) := by
          cases finished <;>
            exact ⟨_, by simp only [announceInline, hkind,
              submitBattleFinishedPushToLeaderboard, hread]; rfl⟩
        rw [hoffload.battlesByRoomId, hbattle, eachPush, hinline]
        rw [battlesByRoomId_eachPush p backend (by simp [untrackBattle])]
        decide
    · have hquiet : AnyQuiet backend g (announceOffload p roomId g push).1 :=
        quiet_announceOffload roomId g push
      rw [goesThrough_cons p g roomId hkind] at h
      dsimp only
      rw [eachPush, eachPush, announce_eq p backend hkind]
      generalize announceOffload p roomId g push = announced at h hquiet
      obtain ⟨g', error | _⟩ := announced
      · exact .inl ⟨_, rfl⟩
      · exact ih h (hquiet.battlesByRoomId ▸ hbattle) (hquiet.lookup ▸ hs)

/-! ## When the paths agree -/

theorem afterInput_eq {result : BackendRoutingResult} (h : answerGoesThrough result)
    (g : BridgeRuntime W) (roomId : String) (sessionId : SessionId) (requestId : UInt32) :
    g.afterInput (announceInline p backend roomId) sessionId requestId result =
        g.afterInput (announceOffload p roomId) sessionId requestId result ∧
      (g.afterInput (announceOffload p roomId) sessionId requestId result).2 = .ok true := by
  unfold afterInput
  unfold answerGoesThrough at h
  by_cases hsuccess : result.success = true
  · simp only [hsuccess, Bool.not_true, Bool.false_or, if_true] at h ⊢
    rcases hanswer : readAnswer "input_rejected" result.responsePayload with e | resp | reason
    · simp [hanswer] at h
    · simp only [hanswer] at h ⊢
      cases hseq : resp.value getUInt64 "input_seq" 0 with
      | error e => simp [hseq] at h
      | ok inputSeq =>
        simp only [hseq] at h ⊢
        obtain ⟨heq, hok⟩ := eachPush_eq p backend roomId h
          (g.emit kBattleInputResponse sessionId requestId .kOk
            (formatBattleInputResponseBody inputSeq))
        rw [heq, hok]
        exact ⟨rfl, rfl⟩
    · exact ⟨rfl, rfl⟩
  · simp [hsuccess]

theorem afterInput_differ {result : BackendRoutingResult} (h : answerGoesThrough result = false)
    {g : BridgeRuntime W} {roomId : String} {sessionId : SessionId} (requestId : UInt32)
    (hbattle : g.battlesByRoomId roomId = true) (hs : sessionId ∈ g.lookup.sessionsInRoom roomId) :
    (∃ e, (g.afterInput (announceOffload p roomId) sessionId requestId result).2 = .error e) ∨
    ¬Agree (g.afterInput (announceInline p backend roomId) sessionId requestId result).1
      (g.afterInput (announceOffload p roomId) sessionId requestId result).1 := by
  unfold afterInput
  unfold answerGoesThrough at h
  obtain ⟨hsuccess, h⟩ := (Bool.or_eq_false_iff).mp h
  rw [Bool.not_eq_false'] at hsuccess
  simp only [hsuccess, if_true]
  match hanswer : readAnswer "input_rejected" result.responsePayload with
  | .error e => exact .inl ⟨e, rfl⟩
  | .ok (.refused reason) => simp [hanswer] at h
  | .ok (.accepted resp) =>
    simp only [hanswer] at h ⊢
    cases hseq : resp.value getUInt64 "input_seq" 0 with
    | error e => exact .inl ⟨e, rfl⟩
    | ok inputSeq =>
      simp only [hseq] at h ⊢
      rcases eachPush_differ p backend h (g := g.emit kBattleInputResponse sessionId requestId .kOk
        (formatBattleInputResponseBody inputSeq)) hbattle hs with ⟨e, herror⟩ | hmaps | hsent
      · exact .inl ⟨e, by rw [herror]; rfl⟩
      · exact .inr fun hagree => hmaps (congrFun hagree.battles roomId)
      · exact .inr fun hagree =>
          absurd (hagree.sent sessionId).length_eq (Nat.ne_of_lt hsent)

/-- The path through a route worker comes to its end and agrees with the path without if and
only if the answer to the command goes through. -/
theorem agree_iff (g : BridgeRuntime W) (c : GatewayCommand) :
    (∃ g', g.handledByWorker p backend c = some g' ∧ Agree (g.handledInline p backend c) g') ↔
      g.inputGoesThrough p backend c := by
  rcases g.handled_cases p backend c with ⟨hnone, heq⟩ |
    ⟨task, htask, hbattle, hs, hinline, hworker⟩
  · rw [heq, inputGoesThrough, hnone]
    exact iff_of_true ⟨_, rfl, rfl, rfl, rfl, fun _ => .refl _⟩ rfl
  · rw [hinline, hworker, inputGoesThrough, htask, Option.all_some]
    unfold battleInputInline runBattleRouteTask
    generalize hroute : g.route backend ⟨.battle, "battle_input", task.payload⟩ = r
    have hquiet : AnyQuiet backend g (g.route backend ⟨.battle, "battle_input", task.payload⟩).1 :=
      g.quiet_route trivial
    rw [hroute] at hquiet
    dsimp only
    cases hthrough : answerGoesThrough r.2 with
    | true =>
      obtain ⟨heq, hok⟩ :=
        afterInput_eq p backend hthrough r.1 task.roomId task.sessionId task.requestId
      rw [heq]
      generalize r.1.afterInput (announceOffload p task.roomId) task.sessionId task.requestId r.2 =
        handled at hok ⊢
      obtain ⟨g', returned⟩ := handled
      obtain rfl : returned = .ok true := hok
      exact iff_of_true ⟨g', rfl, rfl, rfl, rfl, fun _ => .refl _⟩ rfl
    | false =>
      have hdiffer := afterInput_differ p backend hthrough task.requestId
        (hquiet.battlesByRoomId ▸ hbattle) (hquiet.lookup ▸ hs)
      refine iff_of_false ?_ Bool.noConfusion
      rintro ⟨g', hsome, hagree⟩
      generalize r.1.afterInput (announceOffload p task.roomId) task.sessionId task.requestId r.2 =
        handled at hdiffer hsome
      obtain ⟨g'', error | _⟩ := handled
      · cases hsome
      · obtain rfl := Option.some.inj hsome
        rcases hdiffer with ⟨e, herror⟩ | hnot
        · cases herror
        · exact hnot hagree

/-- A gateway with a battle in room `r`, of which user `a` is. -/
def inBattle : BridgeRuntime Unit :=
  ((({ world := () } : BridgeRuntime Unit).setSessionUser 1 "a").setSessionRoom 1 "r").trackBattle
    "r" "battle_1"

/-- A battle backend that answers an input with the end of the battle. -/
def lastInput (w : Unit) (_ : BackendCall) : Unit × BackendRoutingResult :=
  (w, { success := true
        responsePayload := Platform.plain.dump (.object [("push_to_sessions", .array [
          .object [("kind", .string "battle_finished")]]),
          ("status", .string "ok")]) })

/-- The last input of a battle. -/
theorem not_agree_lastInput : ¬∀ (g : BridgeRuntime Unit) (c : GatewayCommand),
    ∃ g', g.handledByWorker .plain lastInput c = some g' ∧
      Agree (g.handledInline .plain lastInput c) g' := by
  intro h
  have := (agree_iff .plain lastInput inBattle _).mp (h inBattle
    { sessionId := 1, type := .kBattleInput, protocolMessageId := 4003, body := "attack" })
  revert this
  decide +kernel

end BridgeRuntime

end BoostGateway.Gateway
