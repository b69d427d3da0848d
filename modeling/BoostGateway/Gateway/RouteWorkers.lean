import BoostGateway.Battle.BackendService
import BoostGateway.Gateway.CommandEffects

/-!
# Route workers

The tasks of one queue are worked off by several threads (`runtime.cpp:2674-2725`). A worker
takes the first task, calls the battle backend, answers the session and announces the
pushes of the answer one by one; the gateway and the other workers may go on between any
two of these. The state also numbers the inputs in the order they were sent and keeps which
were called, and the frames that were answered and emitted, in order.

`Reaches.in_order` : the inputs of a session are called in the order they were sent, and
the frames of a battle that a room is sent never decrease, in every run in which no worker
takes an input while another one holds an input of its session, no frame is emitted while an
earlier call has a frame of the battle to announce, and the backend answers with frames that
never decrease. With two workers a run may do otherwise (`not_in_order_overtaken`).
-/

namespace BoostGateway.Gateway

open Json Battle Service
open Match (MatchResult)

/-! ## A task in parts -/

/-- What the gateway makes of the answer to a `battle_input`. -/
inductive InputAnswer
  | failed
  | refused (reason : String)
  | accepted (inputSeq : UInt64) (pushes : List Json)

def readInputAnswer (result : BackendRoutingResult) : Except TypeError InputAnswer :=
  if result.success then do
    match ← readAnswer "input_rejected" result.responsePayload with
    | .refused reason => return .refused reason
    | .accepted resp =>
      let inputSeq ← resp.value getUInt64 "input_seq" 0
      return .accepted inputSeq (pushesOf resp)
  else return .failed

def InputAnswer.pushes : InputAnswer → List Json
  | .accepted _ pushes => pushes
  | _ => []

/-- A frame that a room is sent. -/
structure RoomFrame where
  roomId : String
  battleId : String
  frameNumber : UInt64
  deriving DecidableEq

/-- The frame of a `frame_advanced` push. -/
def frameOf (roomId : String) (push : Json) : Option RoomFrame :=
  match push.value getString "kind" "", push.value getUInt64 "frame_number" 0 with
  | .ok kind, .ok frameNumber =>
    if kind = "frame_advanced" then some ⟨roomId, textMember "battle_id" push, frameNumber⟩
    else none
  | _, _ => none

def answerFrames (roomId : String) (result : BackendRoutingResult) : List RoomFrame :=
  match readInputAnswer result with
  | .ok answer => answer.pushes.filterMap (frameOf roomId)
  | .error _ => []

namespace BridgeRuntime

variable {W : Type*} (p : Platform) (backend : W → BackendCall → W × BackendRoutingResult)

variable (g : BridgeRuntime W)

/-- The message to the session that sent the input. -/
def respond (sessionId : SessionId) (requestId : UInt32) :
    InputAnswer → BridgeRuntime W
  | .failed => g.emit kErrorResponse sessionId requestId .kBattleBackendUnavailable "backend_error"
  | .refused reason => g.emit kErrorResponse sessionId requestId .kAuthRequired reason
  | .accepted inputSeq _ => g.emit kBattleInputResponse sessionId requestId .kOk
      (formatBattleInputResponseBody inputSeq)

/-- The frame of a push that is emitted. -/
def emittedFrame (roomId : String) (push : Json) : Option RoomFrame :=
  (frameOf roomId push).filter fun f => (g.shouldEmitBattleFramePush roomId f.frameNumber).2

/-- The frames that a loop over pushes emits. -/
def emittedFrames (announce : BridgeRuntime W → Json → BridgeRuntime W × Except TypeError Unit)
    (roomId : String) : BridgeRuntime W → List Json → List RoomFrame
  | _, [] => []
  | g, push :: pushes =>
    (g.emittedFrame roomId push).toList ++
      match announce g push with
      | (g, .ok _) => emittedFrames announce roomId g pushes
      | (_, .error _) => []

theorem frameOf_of_emittedFrame {g : BridgeRuntime W} {roomId : String} {push : Json}
    {f : RoomFrame} (h : g.emittedFrame roomId push = some f) : frameOf roomId push = some f :=
  (Option.filter_eq_some_iff.mp h).1

theorem emittedFrames_sublist
    (announce : BridgeRuntime W → Json → BridgeRuntime W × Except TypeError Unit)
    (roomId : String) (g : BridgeRuntime W) (pushes : List Json) :
    (emittedFrames announce roomId g pushes).Sublist (pushes.filterMap (frameOf roomId)) := by
  induction pushes generalizing g with
  | nil => exact List.Sublist.refl _
  | cons push pushes ih =>
    rw [emittedFrames, ← List.singleton_append, List.filterMap_append]
    refine List.Sublist.append ?_ ?_
    · cases hf : g.emittedFrame roomId push with
      | none => exact List.nil_sublist _
      | some f => simp [frameOf_of_emittedFrame hf]
    · split
      · exact ih _
      · exact List.nil_sublist _

/-- The input that a command is, where its session may send it. -/
def commandInput (c : GatewayCommand) : Option BattleRouteTask :=
  if g.isSessionAllowed c.sessionId c.protocolMessageId ∧ c.type = .kBattleInput then g.inputOf p c
  else none

/-- The input goes to the queue. -/
def queues (task : BattleRouteTask) : Bool :=
  g.battleRouteOffloadEnabled ∧ g.battleIdForRoom task.roomId ≠ ""

/-- A command queues the input that it is, where inputs are queued, and nothing else. -/
theorem battleRouteTasks_handle_eq (c : GatewayCommand) :
    (g.handle p backend c).1.battleRouteTasks = g.battleRouteTasks ++
      ((g.commandInput p c).filter g.queues).toList := by
  by_cases htype : c.type = .kBattleInput
  · by_cases hallowed : g.isSessionAllowed c.sessionId c.protocolMessageId = true
    · have hhandle : g.handle p backend c =
          g.battleInputOn p backend g.battleRouteOffloadEnabled c := by
        simp [handle, hallowed, htype, battleInput]
      rw [hhandle, commandInput, if_pos ⟨hallowed, htype⟩]
      cases htask : g.inputOf p c with
      | none =>
        obtain ⟨handled, heq, htasks⟩ := battleInputOn_of_none p backend htask
        simp [heq, htasks]
      | some task =>
        rw [battleInputOn_of_inputOf p backend htask]
        split_ifs with hqueue
        · have hq : g.queues task = true := decide_eq_true hqueue
          simp [Option.filter_some, hq, enqueueBattleRouteTask]
        · have hnot : g.queues task = false := decide_eq_false hqueue
          simp [hnot, battleRouteTasks_battleInputInline]
    · simp [handle, commandInput, hallowed, replyError, reply, emit]
  · rw [g.battleRouteTasks_handle htype, commandInput, if_neg fun h => htype h.2]
    simp

end BridgeRuntime

/-! ## The workers -/

/-- Where a worker stands. -/
inductive Worker
  | idle
  /-- The task is taken, and its input not called yet. -/
  | holds (number : ℕ) (task : BattleRouteTask)
  /-- The call has returned. -/
  | answered (call : ℕ) (task : BattleRouteTask) (result : BackendRoutingResult)
  /-- The session is answered, and the pushes are left. -/
  | announces (call : ℕ) (task : BattleRouteTask) (pushes : List Json)

/-- The input that the worker has taken and not called yet. -/
def Worker.held? : Worker → Option BattleRouteTask
  | .holds _ task => some task
  | _ => none

/-- Which of the calls the worker made. -/
def Worker.call? : Worker → Option ℕ
  | .answered k _ _ => some k
  | .announces k _ _ => some k
  | _ => none

/-- The frames that the worker has to announce. -/
def Worker.frames : Worker → List RoomFrame
  | .answered _ task result => answerFrames task.roomId result
  | .announces _ task pushes => pushes.filterMap (frameOf task.roomId)
  | _ => []

/-- A gateway with `n` route workers. -/
structure RouteWorkers (n : ℕ) (W : Type*) where
  gateway : BridgeRuntime W
  workers : Fin n → Worker := fun _ => .idle
  /-- The inputs of all sessions, in the order they were sent. -/
  sent : List BattleRouteTask := []
  /-- The inputs in the queue, by number. -/
  waiting : List ℕ := []
  /-- The inputs that were called, in the order of the calls. -/
  routed : List (ℕ × BattleRouteTask) := []
  /-- The frames of the answers, in the order of the calls. -/
  answered : List RoomFrame := []
  /-- The frames that rooms were sent, in order. -/
  emitted : List RoomFrame := []

/-- A command, or a turn of a worker. -/
inductive RouteEvent (n : ℕ)
  | command (c : GatewayCommand)
  | sessionClosed (sessionId : SessionId)
  | matchFound (result : MatchResult)
  | take (i : Fin n)
  | call (i : Fin n)
  | respond (i : Fin n)
  | announce (i : Fin n)

namespace RouteWorkers

variable {n : ℕ} {W : Type*} (p : Platform)
  (backend : W → BackendCall → W × BackendRoutingResult)

/-- The frames that an input without workers emits after its call. -/
def inlineFrames (g : BridgeRuntime W) (task : BattleRouteTask) (result : BackendRoutingResult) :
    List RoomFrame :=
  match readInputAnswer result with
  | .error _ => []
  | .ok answer =>
    BridgeRuntime.emittedFrames (BridgeRuntime.announceInline p backend task.roomId) task.roomId
      (g.respond task.sessionId task.requestId answer) answer.pushes

/-- A call of the gateway itself, `n` of which is the number of the input. -/
def callInline (s : RouteWorkers n W) (number : ℕ) (task : BattleRouteTask) : RouteWorkers n W :=
  let (g, result) := s.gateway.route backend ⟨.battle, "battle_input", task.payload⟩
  { s with
    routed := s.routed ++ [(number, task)]
    answered := s.answered ++ answerFrames task.roomId result
    emitted := s.emitted ++ inlineFrames p backend g task result }

/-- `none` where the event cannot happen, or an exception in a worker ends the process. -/
def step (s : RouteWorkers n W) : RouteEvent n → Option (RouteWorkers n W)
  | .command c =>
    let gateway := (s.gateway.handle p backend c).1
    match s.gateway.commandInput p c with
    | none => some { s with gateway }
    | some task =>
      let number := s.sent.length
      if s.gateway.queues task then
        some { s with gateway, sent := s.sent ++ [task], waiting := s.waiting ++ [number] }
      else some { s.callInline p backend number task with gateway, sent := s.sent ++ [task] }
  | .sessionClosed sessionId =>
    some { s with gateway := s.gateway.onSessionClosed p backend sessionId }
  | .matchFound result => some { s with gateway := (s.gateway.onMatchFound p backend result).1 }
  | .take i =>
    match s.workers i, s.gateway.battleRouteTasks, s.waiting with
    | .idle, task :: tasks, number :: waiting =>
      some { s with
        gateway := { s.gateway with battleRouteTasks := tasks }
        waiting
        workers := Function.update s.workers i (.holds number task) }
    | _, _, _ => none
  | .call i =>
    match s.workers i with
    | .holds number task =>
      let (gateway, result) :=
        s.gateway.route backend ⟨.battle, "battle_input", task.payload⟩
      some { s with
        gateway
        routed := s.routed ++ [(number, task)]
        answered := s.answered ++ answerFrames task.roomId result
        workers := Function.update s.workers i (.answered s.routed.length task result) }
    | _ => none
  | .respond i =>
    match s.workers i with
    | .answered k task result =>
      match readInputAnswer result with
      | .error _ => none
      | .ok answer => some { s with
          gateway := s.gateway.respond task.sessionId task.requestId answer
          workers := Function.update s.workers i (.announces k task answer.pushes) }
    | _ => none
  | .announce i =>
    match s.workers i with
    | .announces _ _ [] => some { s with workers := Function.update s.workers i .idle }
    | .announces k task (push :: pushes) =>
      match BridgeRuntime.announceOffload p task.roomId s.gateway push with
      | (_, .error _) => none
      | (gateway, .ok _) => some { s with
          gateway
          emitted := s.emitted ++ (s.gateway.emittedFrame task.roomId push).toList
          workers := Function.update s.workers i (.announces k task pushes) }
    | _ => none

/-- Two frames of one battle in one room come in order. -/
def InSequence (f f' : RoomFrame) : Prop :=
  f.roomId = f'.roomId → f.battleId = f'.battleId → f.frameNumber ≤ f'.frameNumber

instance : DecidableRel InSequence := fun _ _ => inferInstanceAs (Decidable (_ → _ → _))

/-- No worker holds an input of the session. -/
def NoneHeld (s : RouteWorkers n W) (sessionId : SessionId) : Prop :=
  ∀ i, ∀ task ∈ (s.workers i).held?, task.sessionId ≠ sessionId

/-- The answer continues the frames that were answered. -/
def Continues (s : RouteWorkers n W) (task : BattleRouteTask) (result : BackendRoutingResult) :
    Prop :=
  (s.answered ++ answerFrames task.roomId result).Pairwise InSequence

/-- No earlier call has a frame of the battle to announce. -/
def MayEmit (s : RouteWorkers n W) (call : ℕ) (f : RoomFrame) : Prop :=
  ∀ i, ∀ k ∈ (s.workers i).call?, k < call → ∀ f' ∈ (s.workers i).frames,
    f.roomId = f'.roomId → f.battleId ≠ f'.battleId

/-- The answer to the input that the worker holds continues the frames. -/
def CallOk (s : RouteWorkers n W) : Worker → Prop
  | .holds _ task => s.Continues task
      (s.gateway.route backend ⟨.battle, "battle_input", task.payload⟩).2
  | _ => True

/-- The worker may announce its next push. -/
def AnnounceOk (s : RouteWorkers n W) : Worker → Prop
  | .announces k task (push :: _) => ∀ f ∈ s.gateway.emittedFrame task.roomId push, s.MayEmit k f
  | _ => True

/-- The gateway may call the input itself : no other one of the session is in the queue or with
a worker. -/
def InlineOk (s : RouteWorkers n W) (task : BattleRouteTask) : Prop :=
  let (g, result) := s.gateway.route backend ⟨.battle, "battle_input", task.payload⟩
  (s.NoneHeld task.sessionId ∧ ∀ t ∈ s.gateway.battleRouteTasks, t.sessionId ≠ task.sessionId) ∧
    s.Continues task result ∧
    ∀ f ∈ inlineFrames p backend g task result, s.MayEmit s.routed.length f

/-- The condition under which offloading keeps order. -/
def Ok (s : RouteWorkers n W) : RouteEvent n → Prop
  | .command c => ∀ task ∈ s.gateway.commandInput p c,
      s.gateway.queues task = false → s.InlineOk p backend task
  | .take _ => ∀ task ∈ s.gateway.battleRouteTasks.head?, s.NoneHeld task.sessionId
  | .call i => s.CallOk backend (s.workers i)
  | .announce i => s.AnnounceOk (s.workers i)
  | _ => True

/-- The runs from a gateway with idle workers. -/
abbrev Reaches (ok : RouteWorkers n W → RouteEvent n → Prop) : RouteWorkers n W → Prop :=
  BoostGateway.Reaches
    (fun s => ∃ gateway : BridgeRuntime W, gateway.battleRouteWorkerCount.toNat = n ∧
      gateway.battleRouteTasks = [] ∧ s = { gateway })
    (step p backend) ok

/-- The inputs of a session are called in the order they were sent. -/
def InputsInOrder (s : RouteWorkers n W) : Prop :=
  (∀ e ∈ s.routed, s.sent[e.1]? = some e.2) ∧
    s.routed.Pairwise fun e e' => e.2.sessionId = e'.2.sessionId → e.1 < e'.1

/-- The frames of a battle that a room is sent never decrease. -/
def FramesInOrder (s : RouteWorkers n W) : Prop := s.emitted.Pairwise InSequence

/-! ## The inputs -/

/-- The inputs of a session go from the queue to a worker and to the backend in order : the ones
that were called come before the one that is held, and that one before those in the queue. -/
structure InputsInv (s : RouteWorkers n W) : Prop where
  queue : s.waiting.map (fun m => s.sent[m]?) = s.gateway.battleRouteTasks.map some
  sorted : s.waiting.Pairwise (· < ·)
  held : ∀ i m task, s.workers i = .holds m task →
    s.sent[m]? = some task ∧ ∀ m' ∈ s.waiting, m < m'
  held_once : ∀ i j m m' task task', s.workers i = .holds m task → s.workers j = .holds m' task' →
    task.sessionId = task'.sessionId → i = j
  routed_held : ∀ e ∈ s.routed, ∀ i m task, s.workers i = .holds m task →
    e.2.sessionId = task.sessionId → e.1 < m
  routed_waiting : ∀ e ∈ s.routed, ∀ m ∈ s.waiting, ∀ task, s.sent[m]? = some task →
    e.2.sessionId = task.sessionId → e.1 < m
  inOrder : s.InputsInOrder

/-- The number comes after those of all inputs that were sent. -/
structure Last (s : RouteWorkers n W) (m : ℕ) : Prop where
  waiting : ∀ m' ∈ s.waiting, m' < m
  held : ∀ i m' task, s.workers i = .holds m' task → m' < m
  routed : ∀ e ∈ s.routed, e.1 < m

variable {p backend} {s : RouteWorkers n W}

theorem InputsInv.task_of_waiting (h : s.InputsInv) {m : ℕ} (hm : m ∈ s.waiting) :
    ∃ task ∈ s.gateway.battleRouteTasks, s.sent[m]? = some task := by
  have hmem : s.sent[m]? ∈ s.gateway.battleRouteTasks.map some :=
    h.queue ▸ List.mem_map_of_mem hm
  obtain ⟨task, htasks, htask⟩ := List.mem_map.mp hmem
  exact ⟨task, htasks, htask.symm⟩

theorem InputsInv.last (h : s.InputsInv) : s.Last s.sent.length where
  waiting m hm := by
    obtain ⟨task, -, htask⟩ := h.task_of_waiting hm
    exact (List.getElem?_eq_some_iff.mp htask).1
  held i m task hi := (List.getElem?_eq_some_iff.mp (h.held i m task hi).1).1
  routed e he := (List.getElem?_eq_some_iff.mp (h.inOrder.1 e he)).1

/-- Where the inputs are depends on the queue of the gateway alone. -/
theorem InputsInv.of_eq (h : s.InputsInv) {s' : RouteWorkers n W}
    (htasks : s'.gateway.battleRouteTasks = s.gateway.battleRouteTasks)
    (heq : s'.workers = s.workers ∧ s'.sent = s.sent ∧ s'.waiting = s.waiting ∧
      s'.routed = s.routed) : s'.InputsInv := by
  obtain ⟨gateway, workers, sent, waiting, routed, answered, emitted⟩ := s'
  obtain ⟨rfl, rfl, rfl, rfl⟩ := heq
  exact { h with queue := h.queue.trans (congrArg (List.map some) htasks.symm) }

/-- A session sends an input. -/
theorem InputsInv.sends (h : s.InputsInv) (task : BattleRouteTask) :
    ({ s with sent := s.sent ++ [task] } : RouteWorkers n W).InputsInv := by
  have hlast := h.last
  have hget : ∀ {m : ℕ}, m < s.sent.length → (s.sent ++ [task])[m]? = s.sent[m]? :=
    fun hm => List.getElem?_append_left hm
  refine { h with queue := ?_, held := ?_, routed_waiting := ?_, inOrder := ⟨?_, h.inOrder.2⟩ }
  · rw [← h.queue]
    exact List.map_congr_left fun m hm => hget (hlast.waiting m hm)
  · intro i m t hi
    exact ⟨(hget (hlast.held i m t hi)).trans (h.held i m t hi).1, (h.held i m t hi).2⟩
  · intro e he m hm t ht
    exact h.routed_waiting e he m hm t (hget (hlast.waiting m hm) ▸ ht)
  · intro e he
    exact (hget (hlast.routed e he)).trans (h.inOrder.1 e he)

/-- The last input goes to the end of the queue. -/
theorem InputsInv.queues (h : s.InputsInv) {m : ℕ} {task : BattleRouteTask}
    (hm : s.sent[m]? = some task) (hlast : s.Last m) {gateway : BridgeRuntime W}
    (hg : gateway.battleRouteTasks = s.gateway.battleRouteTasks ++ [task]) :
    ({ s with gateway, waiting := s.waiting ++ [m] } : RouteWorkers n W).InputsInv := by
  refine { h with queue := ?_, sorted := ?_, held := ?_, routed_waiting := ?_ }
  · simp [h.queue, hg, hm]
  · refine List.pairwise_append.mpr ⟨h.sorted, List.pairwise_singleton _ _, fun m' hm' m'' heq => ?_⟩
    exact List.mem_singleton.mp heq ▸ hlast.waiting m' hm'
  · intro i m' t hi
    refine ⟨(h.held i m' t hi).1, List.forall_mem_append.mpr ⟨(h.held i m' t hi).2, ?_⟩⟩
    simpa using hlast.held i m' t hi
  · intro e he
    refine List.forall_mem_append.mpr ⟨h.routed_waiting e he, ?_⟩
    simpa using fun _ _ _ => hlast.routed e he

/-- A worker takes the first input of the queue, when no worker holds one of its session. -/
theorem InputsInv.takes (h : s.InputsInv) {i : Fin n} {m : ℕ} {waiting : List ℕ}
    {task : BattleRouteTask} {tasks : List BattleRouteTask} {gateway : BridgeRuntime W}
    (hw : s.waiting = m :: waiting) (ht : s.gateway.battleRouteTasks = task :: tasks)
    (hnone : s.NoneHeld task.sessionId) (hg : gateway.battleRouteTasks = tasks) :
    ({ s with gateway, waiting, workers := Function.update s.workers i (.holds m task) } :
      RouteWorkers n W).InputsInv := by
  have hqueue := h.queue
  rw [hw, ht, List.map_cons, List.map_cons, List.cons.injEq] at hqueue
  have hsorted := h.sorted
  rw [hw, List.pairwise_cons] at hsorted
  have hmem : m ∈ s.waiting := hw ▸ List.mem_cons_self
  have hwaiting : ∀ m' ∈ waiting, m' ∈ s.waiting := fun m' hm' => hw ▸ List.mem_cons_of_mem m hm'
  have hother : ∀ j m' t, s.workers j = .holds m' t → t.sessionId ≠ task.sessionId :=
    fun j m' t hj => hnone j t (by rw [hj]; rfl)
  refine { h with
    queue := hg ▸ hqueue.2
    sorted := hsorted.2
    routed_waiting := fun e he m' hm' => h.routed_waiting e he m' (hwaiting m' hm')
    held := ?_, held_once := ?_, routed_held := ?_ }
  · intro j m' t hj
    dsimp only at hj
    rw [Function.update_apply] at hj
    split_ifs at hj
    · obtain ⟨rfl, rfl⟩ := Worker.holds.inj hj
      exact ⟨hqueue.1, hsorted.1⟩
    · exact ⟨(h.held j m' t hj).1, fun m'' hm'' => (h.held j m' t hj).2 m'' (hwaiting m'' hm'')⟩
  · intro j j' m' m'' t t' hj hj' hsession
    dsimp only at hj hj'
    rw [Function.update_apply] at hj hj'
    split_ifs at hj hj' with hji hji' hji'
    · rw [hji, hji']
    · obtain ⟨-, rfl⟩ := Worker.holds.inj hj
      exact absurd hsession.symm (hother j' m'' t' hj')
    · obtain ⟨-, rfl⟩ := Worker.holds.inj hj'
      exact absurd hsession (hother j m' t hj)
    · exact h.held_once j j' m' m'' t t' hj hj' hsession
  · intro e he j m' t hj hsession
    dsimp only at hj
    rw [Function.update_apply] at hj
    split_ifs at hj
    · obtain ⟨rfl, rfl⟩ := Worker.holds.inj hj
      exact h.routed_waiting e he m hmem task hqueue.1 hsession
    · exact h.routed_held e he j m' t hj hsession

/-- A worker lets go of its input. -/
theorem InputsInv.releases (h : s.InputsInv) (i : Fin n) {x : Worker}
    (hx : ∀ m task, x ≠ .holds m task) :
    ({ s with workers := Function.update s.workers i x } : RouteWorkers n W).InputsInv := by
  have hold : ∀ j m task, Function.update s.workers i x j = .holds m task →
      s.workers j = .holds m task := by
    intro j m task hj
    rw [Function.update_apply] at hj
    split_ifs at hj
    · exact absurd hj (hx m task)
    · exact hj
  exact { h with
    held := fun j m task hj => h.held j m task (hold j m task hj)
    held_once := fun j j' m m' t t' hj hj' =>
      h.held_once j j' m m' t t' (hold j m t hj) (hold j' m' t' hj')
    routed_held := fun e he j m task hj => h.routed_held e he j m task (hold j m task hj) }

/-- An input is called after those of its session that were called, and before those that are
held or in the queue. -/
theorem InputsInv.routes (h : s.InputsInv) {m : ℕ} {task : BattleRouteTask}
    (hm : s.sent[m]? = some task)
    (hrouted : ∀ e ∈ s.routed, e.2.sessionId = task.sessionId → e.1 < m)
    (hheld : ∀ i m' t, s.workers i = .holds m' t → t.sessionId = task.sessionId → m < m')
    (hwaiting : ∀ m' ∈ s.waiting, ∀ t, s.sent[m']? = some t → t.sessionId = task.sessionId →
      m < m') :
    ({ s with routed := s.routed ++ [(m, task)] } : RouteWorkers n W).InputsInv := by
  refine { h with routed_held := ?_, routed_waiting := ?_, inOrder := ⟨?_, ?_⟩ }
  · refine List.forall_mem_append.mpr ⟨h.routed_held, ?_⟩
    simpa using fun i m' t hi hsession => hheld i m' t hi hsession.symm
  · refine List.forall_mem_append.mpr ⟨h.routed_waiting, ?_⟩
    simpa using fun m' hm' t ht hsession => hwaiting m' hm' t ht hsession.symm
  · exact List.forall_mem_append.mpr ⟨h.inOrder.1, by simpa using hm⟩
  · refine List.pairwise_append.mpr ⟨h.inOrder.2, List.pairwise_singleton _ _, ?_⟩
    intro e he e' he' hsession
    obtain rfl := List.mem_singleton.mp he'
    exact hrouted e he hsession

/-- A worker calls the input that it holds. -/
theorem InputsInv.calls (h : s.InputsInv) {i : Fin n} {m : ℕ} {task : BattleRouteTask}
    (hi : s.workers i = .holds m task) {x : Worker} (hx : ∀ m task, x ≠ .holds m task) :
    ({ s with
        routed := s.routed ++ [(m, task)]
        workers := Function.update s.workers i x } : RouteWorkers n W).InputsInv := by
  obtain ⟨hm, hwaiting⟩ := h.held i m task hi
  refine (h.releases i hx).routes hm (fun e he => h.routed_held e he i m task hi) ?_
    fun m' hm' _ _ _ => hwaiting m' hm'
  intro j m' t hj hsession
  dsimp only at hj
  rw [Function.update_apply] at hj
  split_ifs at hj with hji
  · exact absurd hj (hx m' t)
  · exact absurd (h.held_once j i m' m t task hj hi hsession) hji

/-! ## The frames -/

/-- Frames are answered and emitted in order, and what is left to announce comes after the
frames of earlier calls. -/
structure FramesInv (s : RouteWorkers n W) : Prop where
  answered : s.answered.Pairwise InSequence
  inOrder : s.FramesInOrder
  call_lt : ∀ i, ∀ k ∈ (s.workers i).call?, k < s.routed.length
  call_once : ∀ i j, ∀ k ∈ (s.workers i).call?, k ∈ (s.workers j).call? → i = j
  left_answered : ∀ i, ∀ f ∈ (s.workers i).frames, f ∈ s.answered
  emitted_answered : ∀ f ∈ s.emitted, f ∈ s.answered
  left : ∀ i, (s.workers i).frames.Pairwise InSequence
  later : ∀ i j, ∀ k ∈ (s.workers i).call?, ∀ l ∈ (s.workers j).call?, k < l →
    ∀ f ∈ (s.workers i).frames, ∀ f' ∈ (s.workers j).frames, InSequence f f'
  emitted : ∀ f ∈ s.emitted, ∀ i, ∀ f' ∈ (s.workers i).frames, InSequence f f'

/-- A worker with frames left has made a call. -/
theorem exists_call_of_mem_frames {x : Worker} {f : RoomFrame} (h : f ∈ x.frames) :
    ∃ k, k ∈ x.call? := by
  cases x with
  | idle => cases h
  | holds _ _ => cases h
  | answered k _ _ => exact ⟨k, rfl⟩
  | announces k _ _ => exact ⟨k, rfl⟩

/-- A worker goes on and has no more frames left than before. -/
theorem FramesInv.goesOn (h : s.FramesInv) (i : Fin n) {x : Worker}
    (hcall : ∀ k ∈ x.call?, k ∈ (s.workers i).call?)
    (hframes : x.frames.Sublist (s.workers i).frames) :
    ({ s with workers := Function.update s.workers i x } : RouteWorkers n W).FramesInv := by
  have hc : ∀ j, ∀ k ∈ (Function.update s.workers i x j).call?, k ∈ (s.workers j).call? := by
    intro j k hk
    rw [Function.update_apply] at hk
    split_ifs at hk with hj
    · exact hj ▸ hcall k hk
    · exact hk
  have hf : ∀ j, (Function.update s.workers i x j).frames.Sublist (s.workers j).frames := by
    intro j
    rw [Function.update_apply]
    split_ifs with hj
    · exact hj ▸ hframes
    · exact List.Sublist.refl _
  exact { h with
    call_lt := fun j k hk => h.call_lt j k (hc j k hk)
    call_once := fun j j' k hk hk' => h.call_once j j' k (hc j k hk) (hc j' k hk')
    left_answered := fun j f hmem => h.left_answered j f ((hf j).subset hmem)
    left := fun j => (h.left j).sublist (hf j)
    later := fun j j' k hk l hl hlt f hmem f' hmem' => h.later j j' k (hc j k hk) l (hc j' l hl) hlt
      f ((hf j).subset hmem) f' ((hf j').subset hmem')
    emitted := fun f hmem j f' hmem' => h.emitted f hmem j f' ((hf j).subset hmem') }

/-- A call is answered with frames that continue those before. -/
theorem FramesInv.answers (h : s.FramesInv) (e : ℕ × BattleRouteTask) {frames : List RoomFrame}
    (hframes : (s.answered ++ frames).Pairwise InSequence) :
    ({ s with routed := s.routed ++ [e], answered := s.answered ++ frames } :
      RouteWorkers n W).FramesInv :=
  { h with
    answered := hframes
    call_lt := fun i k hk => by
      rw [List.length_append]
      exact Nat.lt_add_right _ (h.call_lt i k hk)
    left_answered := fun i f hf => List.mem_append_left _ (h.left_answered i f hf)
    emitted_answered := fun f hf => List.mem_append_left _ (h.emitted_answered f hf) }

/-- A worker makes the last call. -/
theorem FramesInv.calls (h : s.FramesInv) {i : Fin n} (hi : (s.workers i).call? = none)
    (e : ℕ × BattleRouteTask) {x : Worker} (hx : x.call? = some s.routed.length)
    (hframes : (s.answered ++ x.frames).Pairwise InSequence) :
    ({ s with
        routed := s.routed ++ [e]
        answered := s.answered ++ x.frames
        workers := Function.update s.workers i x } : RouteWorkers n W).FramesInv := by
  obtain ⟨-, hleft, hbefore⟩ := List.pairwise_append.mp hframes
  have hold : ∀ j, j ≠ i → Function.update s.workers i x j = s.workers j :=
    fun j hj => Function.update_of_ne hj ..
  have hnew : Function.update s.workers i x i = x := Function.update_self ..
  have hlt : ∀ j, ∀ k ∈ (s.workers j).call?, k ≠ s.routed.length :=
    fun j k hk => Nat.ne_of_lt (h.call_lt j k hk)
  have hxk : ∀ k ∈ x.call?, k = s.routed.length := fun k hk => by simpa [hx, eq_comm] using hk
  have hbase := h.answers e hframes
  refine { hbase with
    call_lt := ?_, call_once := ?_, left_answered := ?_, left := ?_, later := ?_, emitted := ?_ }
  · intro j k hk
    dsimp only at hk
    by_cases hj : j = i
    · subst hj
      rw [hnew] at hk
      simp [hxk k hk]
    · exact hbase.call_lt j k (hold j hj ▸ hk)
  · intro j j' k hk hk'
    dsimp only at hk hk'
    by_cases hj : j = i <;> by_cases hj' : j' = i
    · rw [hj, hj']
    · subst hj
      rw [hnew] at hk
      exact absurd (hxk k hk) (hlt j' k (hold j' hj' ▸ hk'))
    · subst hj'
      rw [hnew] at hk'
      exact absurd (hxk k hk') (hlt j k (hold j hj ▸ hk))
    · exact h.call_once j j' k (hold j hj ▸ hk) (hold j' hj' ▸ hk')
  · intro j f hf
    dsimp only at hf
    by_cases hj : j = i
    · subst hj
      rw [hnew] at hf
      exact List.mem_append_right _ hf
    · exact hbase.left_answered j f (hold j hj ▸ hf)
  · intro j
    dsimp only
    by_cases hj : j = i
    · subst hj
      rw [hnew]
      exact hleft
    · rw [hold j hj]
      exact h.left j
  · intro j j' k hk l hl hkl f hf f' hf'
    dsimp only at hk hl hf hf'
    by_cases hj : j = i
    · subst hj
      rw [hnew] at hk
      by_cases hj' : j' = j
      · subst hj'
        rw [hnew] at hl
        exact absurd hkl (hxk k hk ▸ hxk l hl ▸ Nat.lt_irrefl _)
      · have := h.call_lt j' l (hold j' hj' ▸ hl)
        have := hxk k hk
        omega
    · rw [hold j hj] at hk hf
      by_cases hj' : j' = i
      · subst hj'
        rw [hnew] at hf'
        exact hbefore f (h.left_answered j f hf) f' hf'
      · rw [hold j' hj'] at hl hf'
        exact h.later j j' k hk l hl hkl f hf f' hf'
  · intro f hf j f' hf'
    dsimp only at hf hf'
    by_cases hj : j = i
    · subst hj
      rw [hnew] at hf'
      exact hbefore f (h.emitted_answered f hf) f' hf'
    · exact h.emitted f hf j f' (hold j hj ▸ hf')

/-- Frames of the last answer are emitted at once. -/
theorem FramesInv.emits (h : s.FramesInv) (e : ℕ × BattleRouteTask)
    {frames emitted : List RoomFrame} (hframes : (s.answered ++ frames).Pairwise InSequence)
    (hsub : emitted.Sublist frames) (hmay : ∀ f ∈ emitted, s.MayEmit s.routed.length f) :
    ({ s with
        routed := s.routed ++ [e]
        answered := s.answered ++ frames
        emitted := s.emitted ++ emitted } : RouteWorkers n W).FramesInv := by
  obtain ⟨-, hleft, hbefore⟩ := List.pairwise_append.mp hframes
  have hbase := h.answers e hframes
  refine { hbase with inOrder := ?_, emitted_answered := ?_, emitted := ?_ }
  · refine List.pairwise_append.mpr ⟨h.inOrder, hleft.sublist hsub, fun f hf f' hf' => ?_⟩
    exact hbefore f (h.emitted_answered f hf) f' (hsub.subset hf')
  · refine List.forall_mem_append.mpr ⟨hbase.emitted_answered, fun f hf => ?_⟩
    exact List.mem_append_right _ (hsub.subset hf)
  · refine List.forall_mem_append.mpr ⟨h.emitted, fun f hf i f' hf' hroom hbattle => ?_⟩
    obtain ⟨k, hk⟩ := exists_call_of_mem_frames hf'
    exact absurd hbattle (hmay f hf i k hk (h.call_lt i k hk) f' hf' hroom)

/-- A worker emits the first of its frames. -/
theorem FramesInv.announces (h : s.FramesInv) {i : Fin n} {k : ℕ} {f : RoomFrame}
    {x : Worker} (hk : k ∈ (s.workers i).call?) (hf : (s.workers i).frames = f :: x.frames)
    (hmay : s.MayEmit k f) (hcall : ∀ k ∈ x.call?, k ∈ (s.workers i).call?) :
    ({ s with emitted := s.emitted ++ [f], workers := Function.update s.workers i x } :
      RouteWorkers n W).FramesInv := by
  have hmem : f ∈ (s.workers i).frames := hf ▸ List.mem_cons_self
  have hbase := h.goesOn i hcall (hf ▸ List.sublist_cons_self ..)
  refine { hbase with inOrder := ?_, emitted_answered := ?_, emitted := ?_ }
  · refine List.pairwise_append.mpr ⟨h.inOrder, List.pairwise_singleton _ _, fun f' hf' g hg => ?_⟩
    exact List.mem_singleton.mp hg ▸ h.emitted f' hf' i f hmem
  · refine List.forall_mem_append.mpr ⟨h.emitted_answered, fun g hg => ?_⟩
    exact List.mem_singleton.mp hg ▸ h.left_answered i f hmem
  · refine List.forall_mem_append.mpr ⟨hbase.emitted, fun g hg j f' hf' hroom hbattle => ?_⟩
    obtain rfl := List.mem_singleton.mp hg
    dsimp only at hf'
    by_cases hj : j = i
    · subst hj
      rw [Function.update_self] at hf'
      have hleft := h.left j
      rw [hf, List.pairwise_cons] at hleft
      exact hleft.1 f' hf' hroom hbattle
    · rw [Function.update_of_ne hj] at hf'
      obtain ⟨l, hl⟩ := exists_call_of_mem_frames hf'
      rcases Nat.lt_trichotomy l k with hlt | rfl | hlt
      · exact absurd hbattle (hmay j l hl hlt f' hf' hroom)
      · exact absurd (h.call_once j i l hl hk) hj
      · exact h.later i j k hk l hl hlt g hmem f' hf' hroom hbattle

/-! ## Runs -/

/-- What holds of queue and workers. -/
structure Inv (s : RouteWorkers n W) : Prop where
  inputs : s.InputsInv
  frames : s.FramesInv

theorem FramesInv.of_eq (h : s.FramesInv) {s' : RouteWorkers n W}
    (heq : s'.workers = s.workers ∧ s'.routed = s.routed ∧ s'.answered = s.answered ∧
      s'.emitted = s.emitted) : s'.FramesInv := by
  obtain ⟨gateway, workers, sent, waiting, routed, answered, emitted⟩ := s'
  obtain ⟨rfl, rfl, rfl, rfl⟩ := heq
  exact { h with }

theorem inlineFrames_sublist (g : BridgeRuntime W) (task : BattleRouteTask)
    (result : BackendRoutingResult) :
    (inlineFrames p backend g task result).Sublist (answerFrames task.roomId result) := by
  unfold inlineFrames answerFrames
  cases readInputAnswer result with
  | error _ => exact List.nil_sublist _
  | ok answer => exact BridgeRuntime.emittedFrames_sublist ..

variable {s' : RouteWorkers n W}

theorem Inv.command {c : GatewayCommand} (h : s.Inv)
    (hok : s.Ok p backend (.command c)) (hs : s.step p backend (.command c) = some s') :
    s'.Inv := by
  have htasks := s.gateway.battleRouteTasks_handle_eq p backend c
  simp only [step] at hs
  cases hinput : s.gateway.commandInput p c with
  | none =>
    rw [hinput] at hs htasks
    obtain rfl := Option.some.inj hs
    exact ⟨h.inputs.of_eq (by simpa using htasks) ⟨rfl, rfl, rfl, rfl⟩,
      h.frames.of_eq ⟨rfl, rfl, rfl, rfl⟩⟩
  | some task =>
    rw [hinput] at hs htasks
    dsimp only at hs
    have hsent := h.inputs.sends task
    have hlast : ({ s with sent := s.sent ++ [task] } : RouteWorkers n W).Last s.sent.length :=
      { h.inputs.last with }
    have hm : (s.sent ++ [task])[s.sent.length]? = some task := by simp
    cases hqueue : s.gateway.queues task with
    | true =>
      rw [hqueue, if_pos rfl] at hs
      rw [Option.filter_some_pos hqueue] at htasks
      obtain rfl := Option.some.inj hs
      exact ⟨hsent.queues hm hlast htasks, h.frames.of_eq ⟨rfl, rfl, rfl, rfl⟩⟩
    | false =>
      rw [hqueue, if_neg Bool.false_ne_true] at hs
      rw [Option.filter_some_neg hqueue] at htasks
      obtain ⟨⟨hheld, hwaiting⟩, hframes, hmay⟩ := hok task hinput hqueue
      obtain rfl := Option.some.inj hs
      have hrouted := hsent.routes hm (fun e he _ => hlast.routed e he)
        (fun i m t hi hsession => absurd hsession (hheld i t (by rw [hi]; rfl)))
        (fun m hm' t ht hsession => by
          obtain ⟨t', ht', hget⟩ := hsent.task_of_waiting hm'
          exact absurd hsession (hwaiting t (Option.some.inj (ht.symm.trans hget) ▸ ht')))
      exact ⟨hrouted.of_eq (by simpa using htasks) ⟨rfl, rfl, rfl, rfl⟩,
        (h.frames.emits (s.sent.length, task) hframes (inlineFrames_sublist ..) hmay).of_eq
          ⟨rfl, rfl, rfl, rfl⟩⟩

theorem Inv.takes {i : Fin n} (h : s.Inv)
    (hok : s.Ok p backend (.take i)) (hs : s.step p backend (.take i) = some s') : s'.Inv := by
  simp only [step] at hs
  simp only [Ok] at hok
  split at hs
  · rename_i task _ number _ _ htasks hwaiting
    obtain rfl := Option.some.inj hs
    refine ⟨h.inputs.takes hwaiting htasks (hok task (by rw [htasks]; rfl)) rfl, ?_⟩
    exact (h.frames.goesOn i (x := .holds number task) (by rintro _ ⟨⟩) (List.nil_sublist _)).of_eq
      ⟨rfl, rfl, rfl, rfl⟩
  · cases hs

theorem Inv.calls {i : Fin n} (h : s.Inv)
    (hok : s.Ok p backend (.call i)) (hs : s.step p backend (.call i) = some s') : s'.Inv := by
  simp only [step] at hs
  simp only [Ok] at hok
  split at hs
  · rename_i number task hi
    rw [hi] at hok
    obtain rfl := Option.some.inj hs
    have hrouted := h.inputs.calls hi (x := .answered s.routed.length task (s.gateway.route
      backend ⟨.battle, "battle_input", task.payload⟩).2) nofun
    exact ⟨hrouted.of_eq rfl ⟨rfl, rfl, rfl, rfl⟩,
      (h.frames.calls (x := .answered s.routed.length task _) (by rw [hi]; rfl) (number, task) rfl
        hok).of_eq ⟨rfl, rfl, rfl, rfl⟩⟩
  · cases hs

theorem Inv.responds {i : Fin n} (h : s.Inv)
    (hs : s.step p backend (.respond i) = some s') : s'.Inv := by
  simp only [step] at hs
  split at hs
  · rename_i k task result hi
    split at hs
    · cases hs
    · rename_i answer hanswer
      obtain rfl := Option.some.inj hs
      refine ⟨(h.inputs.releases i (x := .announces k task answer.pushes) nofun).of_eq ?_
        ⟨rfl, rfl, rfl, rfl⟩, ?_⟩
      · cases answer <;> rfl
      · refine (h.frames.goesOn i (x := .announces k task answer.pushes) ?_ ?_).of_eq
          ⟨rfl, rfl, rfl, rfl⟩
        · rw [hi]
          exact fun k hk => hk
        · simp only [hi, Worker.frames, answerFrames, hanswer]
          exact List.Sublist.refl _
  · cases hs

theorem Inv.announces {i : Fin n} (h : s.Inv)
    (hok : s.Ok p backend (.announce i)) (hs : s.step p backend (.announce i) = some s') :
    s'.Inv := by
  simp only [step] at hs
  simp only [Ok] at hok
  split at hs
  · rename_i k task hi
    obtain rfl := Option.some.inj hs
    exact ⟨h.inputs.releases i nofun, h.frames.goesOn i (x := .idle) nofun (List.nil_sublist _)⟩
  · rename_i k task push pushes hi
    rw [hi] at hok
    split at hs
    · cases hs
    · rename_i gateway _ hannounce
      obtain rfl := Option.some.inj hs
      have hquiet : BridgeRuntime.AnyQuiet backend s.gateway
          (BridgeRuntime.announceOffload p task.roomId s.gateway push).1 :=
        BridgeRuntime.quiet_announceOffload task.roomId s.gateway push
      rw [hannounce] at hquiet
      refine ⟨(h.inputs.releases i (x := .announces k task pushes) nofun).of_eq
        hquiet.battleRouteTasks ⟨rfl, rfl, rfl, rfl⟩, ?_⟩
      have hcall : ∀ l ∈ (Worker.announces k task pushes).call?, l ∈ (s.workers i).call? := by
        rw [hi]
        exact fun l hl => hl
      cases hf : s.gateway.emittedFrame task.roomId push with
      | none =>
        rw [Option.toList_none, List.append_nil]
        refine (h.frames.goesOn i hcall ?_).of_eq ⟨rfl, rfl, rfl, rfl⟩
        rw [hi]
        exact (List.sublist_cons_self push pushes).filterMap _
      | some f =>
        have hframe := BridgeRuntime.frameOf_of_emittedFrame hf
        refine (h.frames.announces (k := k) (by rw [hi]; rfl) ?_ (hok f hf) hcall).of_eq
          ⟨rfl, rfl, rfl, rfl⟩
        rw [hi, Worker.frames, Worker.frames, List.filterMap_cons_some hframe]
  · cases hs

theorem Inv.step {e : RouteEvent n} (h : s.Inv)
    (hok : s.Ok p backend e) (hs : s.step p backend e = some s') : s'.Inv := by
  cases e with
  | command c => exact h.command hok hs
  | sessionClosed sessionId =>
    obtain rfl := Option.some.inj hs
    refine ⟨h.inputs.of_eq ?_ ⟨rfl, rfl, rfl, rfl⟩, h.frames.of_eq ⟨rfl, rfl, rfl, rfl⟩⟩
    unfold BridgeRuntime.onSessionClosed
    dsimp only
    split_ifs <;> rfl
  | matchFound result =>
    obtain rfl := Option.some.inj hs
    exact ⟨h.inputs.of_eq (BridgeRuntime.battleRouteTasks_onMatchFound ..) ⟨rfl, rfl, rfl, rfl⟩,
      h.frames.of_eq ⟨rfl, rfl, rfl, rfl⟩⟩
  | take i => exact h.takes hok hs
  | call i => exact h.calls hok hs
  | respond i => exact h.responds hs
  | announce i => exact h.announces hok hs

/-- In every run whose steps all meet `Ok`, the inputs of every session are called in order,
and the frames of every battle are emitted in order. -/
theorem Reaches.in_order (h : s.Reaches p backend (Ok p backend)) :
    s.InputsInOrder ∧ s.FramesInOrder := by
  have hinv : s.Inv := by
    refine h.invariant ?_ fun _ _ _ hi hok hs => hi.step hok hs
    rintro _ ⟨gateway, -, htasks, rfl⟩
    exact ⟨⟨by simp [htasks], .nil, nofun, nofun, by simp, by simp, by simp, .nil⟩,
      ⟨.nil, .nil, nofun, nofun, nofun, by simp, fun _ => .nil, nofun, by simp⟩⟩
  exact ⟨hinv.inputs.inOrder, hinv.frames.inOrder⟩

instance {sessionId : SessionId} : Decidable (s.NoneHeld sessionId) :=
  inferInstanceAs (Decidable (∀ i, ∀ task ∈ (s.workers i).held?, _))

instance {task : BattleRouteTask} {result : BackendRoutingResult} :
    Decidable (s.Continues task result) :=
  inferInstanceAs (Decidable (List.Pairwise _ _))

instance {call : ℕ} {f : RoomFrame} : Decidable (s.MayEmit call f) :=
  inferInstanceAs (Decidable (∀ i, ∀ k ∈ (s.workers i).call?, _))

instance : ∀ x, Decidable (s.CallOk backend x)
  | .holds _ _ => inferInstanceAs (Decidable (s.Continues ..))
  | .idle | .answered _ _ _ | .announces _ _ _ => .isTrue trivial

instance : ∀ x, Decidable (s.AnnounceOk x)
  | .announces _ _ (_ :: _) => inferInstanceAs (Decidable (∀ f ∈ _, s.MayEmit _ f))
  | .announces _ _ [] | .idle | .holds _ _ | .answered _ _ _ => .isTrue trivial

instance {task : BattleRouteTask} : Decidable (s.InlineOk p backend task) :=
  inferInstanceAs (Decidable ((s.NoneHeld _ ∧ _) ∧ s.Continues .. ∧ ∀ f ∈ _, s.MayEmit _ f))

instance : ∀ e, Decidable (s.Ok p backend e)
  | .command _ => inferInstanceAs (Decidable (∀ task ∈ _, _ → s.InlineOk p backend task))
  | .take _ => inferInstanceAs (Decidable (∀ task ∈ _, s.NoneHeld _))
  | .call _ => inferInstanceAs (Decidable (s.CallOk ..))
  | .announce _ => inferInstanceAs (Decidable (s.AnnounceOk ..))
  | .sessionClosed _ | .matchFound _ | .respond _ => .isTrue trivial

/-- A battle backend that answers with frame 1 and then with frame 2. -/
def counting (answered : Bool) (_ : BackendCall) : Bool × BackendRoutingResult :=
  (true, {
    success := true
    responsePayload := if answered then
        "\x7b\"status\":\"ok\",\"push_to_sessions\":[\x7b\"kind\":\"frame_advanced\",\"frame_number\":2\x7d]\x7d"
      else
        "\x7b\"status\":\"ok\",\"push_to_sessions\":[\x7b\"kind\":\"frame_advanced\",\"frame_number\":1\x7d]\x7d" })

/-- Two workers, and user `a` in room `r`, which has a battle. -/
def twoWorkers : RouteWorkers 2 Bool where
  gateway := ((({ battleRouteWorkerCount := 2, world := false } :
    BridgeRuntime Bool).setSessionUser 1
    "a").setSessionRoom 1 "r").trackBattle "r" "battle_1"

/-- Two inputs of `a`. -/
def twoInputs : List (RouteEvent 2) :=
  [.command { sessionId := 1, type := .kBattleInput, protocolMessageId := 4003, body := "x" },
    .command { sessionId := 1, type := .kBattleInput, protocolMessageId := 4003, body := "y" }]

theorem reaches_twoWorkers {ok : RouteWorkers 2 Bool → RouteEvent 2 → Prop} :
    twoWorkers.Reaches .plain counting ok :=
  .init ⟨_, rfl, rfl, rfl⟩

/-- The second worker takes its input when the first has called the one before. -/
theorem in_order_twoWorkers : ∃ s : RouteWorkers 2 Bool,
    (s.routed.map Prod.fst = [0, 1] ∧ s.emitted.map RoomFrame.frameNumber = [1, 2]) ∧
      s.InputsInOrder ∧ s.FramesInOrder := by
  obtain ⟨s, hs, hp⟩ : ∃ s : RouteWorkers 2 Bool, s.Reaches .plain counting (Ok .plain counting) ∧
      s.routed.map Prod.fst = [0, 1] ∧ s.emitted.map RoomFrame.frameNumber = [1, 2] :=
    reaches_twoWorkers.exists_runWith (twoInputs ++ ([.take 0, .call 0, .take 1, .respond 0,
      .announce 0, .call 1, .respond 1, .announce 1] : List (RouteEvent 2)))
      (by decide +kernel)
  exact ⟨s, hp, hs.in_order⟩

/-- The second of two workers overtakes the first, before the calls or after. -/
theorem not_in_order_overtaken :
    (¬∀ s : RouteWorkers 2 Bool, s.Reaches .plain counting (fun _ _ => True) → s.InputsInOrder) ∧
      ¬∀ s : RouteWorkers 2 Bool, s.Reaches .plain counting (fun _ _ => True) → s.FramesInOrder := by
  constructor <;> intro h
  · obtain ⟨s, hs, hrouted⟩ : ∃ s : RouteWorkers 2 Bool,
        s.Reaches .plain counting (fun _ _ => True) ∧
          ¬s.routed.Pairwise fun e e' => e.2.sessionId = e'.2.sessionId → e.1 < e'.1 :=
      reaches_twoWorkers.exists_runWith (twoInputs ++ ([.take 0, .take 1, .call 1, .call 0] :
        List (RouteEvent 2)))
        (by decide +kernel)
    exact hrouted (h s hs).2
  · obtain ⟨s, hs, hemitted⟩ : ∃ s : RouteWorkers 2 Bool,
        s.Reaches .plain counting (fun _ _ => True) ∧ ¬s.emitted.Pairwise InSequence :=
      reaches_twoWorkers.exists_runWith (twoInputs ++ ([.take 0, .take 1, .call 0, .call 1,
        .respond 1, .announce 1, .respond 0, .announce 0] : List (RouteEvent 2))) (by decide +kernel)
    exact hemitted (h s hs)

end RouteWorkers

end BoostGateway.Gateway
