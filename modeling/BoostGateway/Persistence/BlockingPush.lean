import BoostGateway.Persistence.WriteBehindEngine
import Mathlib.Data.List.Nodup
import Mathlib.Data.List.Perm.Basic
import Mathlib.Logic.Function.Basic

/-!
# A push that waits for room

`push` (`writebehind.cpp`) calls `try_push` until it is taken. The task goes there by value, so
that an attempt that is refused destroys it: the later ones have an empty function, which
`try_push` always refuses. A function that was moved from is taken to be empty.

The tasks are numbered by the calls that bring them. `Work.Moves` is what the worker does to the
tasks, whatever it waits for, and `Work.Accounts` says where every task is and how often it ran.
`PushRun.push_iff` : each task is accounted for, and a push delivers its task when there is room
at the first attempt. Otherwise the push goes on for ever (`PushRun.not_delivers`).
-/

namespace BoostGateway.Persistence

variable {τ : Type*}

/-- The task that the worker has. -/
def WorkerAt.inFlight : WorkerAt τ → List (TaskEntry τ)
  | .executing entry => [entry]
  | _ => []

/-! ## The tasks and what became of them -/

/-- The tasks of an engine and its counters. -/
structure Work (τ : Type*) where
  opts : Options
  queue : List (TaskEntry τ)
  inFlight : List (TaskEntry τ)
  successCount : UInt64
  droppedCount : UInt64

/-- What became of the tasks so far. A task is executed as often as it is listed. -/
structure Tally (τ : Type*) where
  accepted : List τ := []
  executions : List τ := []
  succeeded : List τ := []
  dropped : List τ := []

def Tally.accept (t : Tally τ) (task : τ) : Tally τ := { t with accepted := t.accepted ++ [task] }

def Tally.move (t : Tally τ) (starts succeeds drops : List τ) : Tally τ :=
  { t with
    executions := t.executions ++ starts
    succeeded := t.succeeded ++ succeeds
    dropped := t.dropped ++ drops }

namespace Work

/-- The tasks in work. -/
def tasks (w : Work τ) : List τ := (w.inFlight ++ w.queue).map (·.task)

/-- The worker goes on. The lists are of the tasks that it starts, that succeed, and that it
drops. -/
inductive Moves : Work τ → Work τ → List τ → List τ → List τ → Prop
  | rest (w : Work τ) : Moves w w [] [] []
  | start {w : Work τ} {entry : TaskEntry τ} {queue : List (TaskEntry τ)} :
      w.queue = entry :: queue → w.inFlight = [] →
      Moves w { w with queue, inFlight := [entry] } [entry.task] [] []
  | success {w : Work τ} {entry : TaskEntry τ} : w.inFlight = [entry] →
      Moves w { w with inFlight := [], successCount := w.successCount + 1 } [] [entry.task] []
  | retry {w : Work τ} {entry : TaskEntry τ} (readyAt : ℤ) : w.inFlight = [entry] →
      0 < entry.retriesLeft →
      Moves w { w with
        inFlight := []
        queue := w.queue ++ [{ entry with retriesLeft := entry.retriesLeft - 1, readyAt }] }
        [] [] []
  | drop {w : Work τ} {entry : TaskEntry τ} : w.inFlight = [entry] → entry.retriesLeft ≤ 0 →
      Moves w { w with inFlight := [], droppedCount := w.droppedCount + 1 } [] [] [entry.task]

/-- A task more in the queue. -/
def add (w : Work τ) (entry : TaskEntry τ) : Work τ := { w with queue := w.queue ++ [entry] }

def discard (w : Work τ) : Work τ :=
  { w with
    queue := []
    droppedCount := w.droppedCount + UInt64.ofNat w.queue.length }

/-- The retries of a task that was executed so often. -/
def Left (opts : Options) (entry : TaskEntry τ) (executions : ℕ) : Prop :=
  executions + entry.retriesLeft = opts.maxRetries ∧ (executions = 0 ∨ 0 ≤ entry.retriesLeft)

theorem ofNat_length_append (l : List τ) (task : τ) :
    UInt64.ofNat (l ++ [task]).length = UInt64.ofNat l.length + 1 := by
  rw [List.length_append, UInt64.ofNat_add]
  rfl

/-- A task that starts for one more time has a retry left, or was never executed. -/
theorem Left.succ_le {opts : Options} {entry : TaskEntry τ} {n : ℕ} (h : Left opts entry n) :
    ((n + 1 : ℕ) : ℤ) ≤ max opts.maxRetries 0 + 1 := by
  obtain ⟨hsum, hzero | hleft⟩ := h
  · omega
  · omega

theorem Moves.opts {w w' : Work τ} {starts succeeds drops : List τ}
    (h : w.Moves w' starts succeeds drops) : w'.opts = w.opts := by
  cases h with
  | rest | start | success | retry | drop => rfl

theorem tasks_of_inFlight {w : Work τ} {entry : TaskEntry τ} (hentry : w.inFlight = [entry]) :
    w.tasks = entry.task :: w.queue.map (·.task) := by
  rw [tasks, hentry]
  rfl

variable [DecidableEq τ]

/-- Each accepted task succeeded, was dropped, or is still there, with the retries that its
executions have left it. -/
structure Accounts (w : Work τ) (t : Tally τ) : Prop where
  perm : t.accepted.Perm (t.succeeded ++ t.dropped ++ w.tasks)
  nodup : t.accepted.Nodup
  success : w.successCount = UInt64.ofNat t.succeeded.length
  dropped : w.droppedCount = UInt64.ofNat t.dropped.length
  queued : ∀ entry ∈ w.queue, Left w.opts entry (t.executions.count entry.task)
  running : ∀ entry ∈ w.inFlight, ∃ n, t.executions.count entry.task = n + 1 ∧ Left w.opts entry n
  bounded : ∀ task, (t.executions.count task : ℤ) ≤ max w.opts.maxRetries 0 + 1
  unseen : ∀ task ∉ t.accepted, t.executions.count task = 0
  room : t.accepted ≠ [] → 0 < w.opts.maxQueueSize

variable {w w' : Work τ} {t : Tally τ}

theorem Accounts.mem_accepted (h : w.Accounts t) {task : τ} (htask : task ∈ w.tasks) :
    task ∈ t.accepted :=
  h.perm.mem_iff.mpr (List.mem_append_right _ htask)

/-- The tasks that succeed and those that are dropped leave the ones that are there. -/
theorem Accounts.perm_move {starts succeeds drops rest : List τ} (h : w.Accounts t)
    (htasks : w.tasks.Perm (succeeds ++ drops ++ rest)) :
    t.accepted.Perm ((t.move starts succeeds drops).succeeded ++
      (t.move starts succeeds drops).dropped ++ rest) := by
  refine List.perm_iff_count.mpr fun task => ?_
  have hbefore := h.perm.count_eq task
  have hleave := htasks.count_eq task
  simp only [Tally.move, List.count_append] at hbefore hleave ⊢
  omega

theorem Accounts.nodup_tasks (h : w.Accounts t) : w.tasks.Nodup :=
  (List.nodup_append.mp (h.perm.nodup_iff.mp h.nodup)).2.1

variable {entry : TaskEntry τ}

theorem Accounts.start {queue : List (TaskEntry τ)} (h : w.Accounts t)
    (hqueue : w.queue = entry :: queue) (hnone : w.inFlight = []) :
    Accounts { w with queue, inFlight := [entry] } (t.move [entry.task] [] []) := by
  have htasks : w.tasks = entry.task :: queue.map (·.task) := by
    rw [tasks, hnone, hqueue]
    rfl
  have hfront := h.queued entry (hqueue ▸ List.mem_cons_self)
  have hcount (task : τ) : (t.executions ++ [entry.task]).count task =
      t.executions.count task + if entry.task = task then 1 else 0 := by
    rw [List.count_append, List.count_singleton]
    simp only [beq_iff_eq]
  refine ⟨?_, h.nodup, ?_, ?_, ?_, ?_, fun task => ?_, fun task htask => ?_, h.room⟩
  · exact h.perm_move (.of_eq htasks)
  · simpa only [Tally.move, List.append_nil] using h.success
  · simpa only [Tally.move, List.append_nil] using h.dropped
  · intro other hother
    have hne : entry.task ≠ other.task := by
      intro heq
      have hnodup := h.nodup_tasks
      rw [htasks, List.nodup_cons] at hnodup
      exact hnodup.1 (heq ▸ List.mem_map_of_mem hother)
    change Left w.opts other ((t.executions ++ [entry.task]).count other.task)
    rw [hcount, if_neg hne]
    exact h.queued other (hqueue ▸ List.mem_cons_of_mem _ hother)
  · intro other hother
    obtain rfl := List.mem_singleton.mp hother
    refine ⟨_, ?_, hfront⟩
    exact (hcount other.task).trans (by rw [if_pos rfl])
  · change (((t.executions ++ [entry.task]).count task : ℕ) : ℤ) ≤ _
    rw [hcount]
    split_ifs with heq
    · exact heq ▸ hfront.succ_le
    · exact h.bounded task
  · refine (hcount task).trans ?_
    have hne : entry.task ≠ task := by
      rintro rfl
      exact htask (h.mem_accepted (htasks ▸ List.mem_cons_self))
    rw [if_neg hne]
    exact h.unseen task htask

theorem Accounts.success_move (h : w.Accounts t) (hentry : w.inFlight = [entry]) :
    Accounts { w with inFlight := [], successCount := w.successCount + 1 }
      (t.move [] [entry.task] []) := by
  refine ⟨h.perm_move (.of_eq (tasks_of_inFlight hentry)), h.nodup, ?_, ?_, ?_, nofun, ?_, ?_,
    h.room⟩
  · exact (congrArg (· + 1) h.success).trans (ofNat_length_append _ _).symm
  all_goals simp only [Tally.move, List.append_nil]
  · exact h.dropped
  · exact h.queued
  · exact h.bounded
  · exact h.unseen

theorem Accounts.retry (h : w.Accounts t) (readyAt : ℤ)
    (hentry : w.inFlight = [entry]) (hleft : 0 < entry.retriesLeft) :
    Accounts { w with
      inFlight := []
      queue := w.queue ++ [{ entry with retriesLeft := entry.retriesLeft - 1, readyAt }] }
      (t.move [] [] []) := by
  have hback : w.tasks.Perm ((w.queue ++ [{ entry with
      retriesLeft := entry.retriesLeft - 1, readyAt }]).map TaskEntry.task) := by
    rw [tasks_of_inFlight hentry, List.map_append]
    exact (List.perm_append_singleton _ _).symm
  refine ⟨h.perm_move hback, h.nodup, ?_, ?_, ?_, nofun, ?_, ?_, h.room⟩
  all_goals simp only [Tally.move, List.append_nil]
  · exact h.success
  · exact h.dropped
  · intro other hother
    rcases List.mem_append.mp hother with hother | hother
    · exact h.queued other hother
    · obtain rfl := List.mem_singleton.mp hother
      obtain ⟨n, hcount, hsum, -⟩ := h.running entry (hentry ▸ List.mem_singleton_self _)
      change Left w.opts _ (t.executions.count entry.task)
      rw [hcount]
      refine ⟨?_, .inr ?_⟩
      · change ((n + 1 : ℕ) : ℤ) + (entry.retriesLeft - 1) = w.opts.maxRetries
        omega
      · change 0 ≤ entry.retriesLeft - 1
        omega
  · exact h.bounded
  · exact h.unseen

theorem Accounts.drop (h : w.Accounts t) (hentry : w.inFlight = [entry]) :
    Accounts { w with inFlight := [], droppedCount := w.droppedCount + 1 }
      (t.move [] [] [entry.task]) := by
  refine ⟨h.perm_move (.of_eq (tasks_of_inFlight hentry)), h.nodup, ?_, ?_, ?_, nofun, ?_, ?_,
    h.room⟩
  rotate_left
  · exact (congrArg (· + 1) h.dropped).trans (ofNat_length_append _ _).symm
  all_goals simp only [Tally.move, List.append_nil]
  · exact h.queued
  · exact h.bounded
  · exact h.unseen
  · exact h.success

/-- Whatever the worker does, each task stays accounted for. -/
theorem Accounts.moves {starts succeeds drops : List τ} (h : w.Accounts t)
    (hmoves : w.Moves w' starts succeeds drops) : w'.Accounts (t.move starts succeeds drops) := by
  cases hmoves with
  | rest => simpa only [Tally.move, List.append_nil] using h
  | start hqueue hnone => exact h.start hqueue hnone
  | success hentry => exact h.success_move hentry
  | retry readyAt hentry hleft => exact h.retry readyAt hentry hleft
  | drop hentry _ => exact h.drop hentry

theorem Accounts.add (h : w.Accounts t) (hnew : entry.task ∉ t.accepted)
    (hretries : entry.retriesLeft = w.opts.maxRetries)
    (hroom : w.queue.length < w.opts.maxQueueSize) :
    (w.add entry).Accounts (t.accept entry.task) := by
  refine ⟨?_, ?_, h.success, h.dropped, ?_, h.running, h.bounded, fun task htask => ?_, fun _ => ?_⟩
  · have htasks : (w.add entry).tasks = w.tasks ++ [entry.task] := by
      rw [tasks, tasks, Work.add, ← List.append_assoc, List.map_append]
      rfl
    rw [htasks, ← List.append_assoc]
    exact h.perm.append_right _
  · refine List.nodup_append.mpr ⟨h.nodup, List.nodup_singleton _, ?_⟩
    rintro task htask _ hother rfl
    exact hnew (List.mem_singleton.mp hother ▸ htask)
  · intro other hother
    rcases List.mem_append.mp hother with hother | hother
    · exact h.queued other hother
    · obtain rfl := List.mem_singleton.mp hother
      change Left w.opts other (t.executions.count other.task)
      rw [h.unseen _ hnew]
      exact ⟨by omega, .inl rfl⟩
  · exact h.unseen task fun hold => htask (List.mem_append_left _ hold)
  · exact Nat.zero_lt_of_lt hroom

theorem Accounts.discard (h : w.Accounts t) :
    w.discard.Accounts (t.move [] [] (w.queue.map (·.task))) := by
  have hleave : w.tasks.Perm (w.queue.map (·.task) ++ w.discard.tasks) := by
    rw [tasks, tasks, Work.discard, List.append_nil, List.map_append]
    exact List.perm_append_comm
  refine ⟨h.perm_move hleave, h.nodup, ?_, ?_, nofun, ?_, ?_, ?_, h.room⟩
  rotate_left
  · change w.droppedCount + UInt64.ofNat w.queue.length =
      UInt64.ofNat (t.dropped ++ w.queue.map (·.task)).length
    rw [List.length_append, List.length_map, UInt64.ofNat_add, h.dropped]
  all_goals simp only [Tally.move, Work.discard, List.append_nil]
  · exact h.running
  · exact h.bounded
  · exact h.unseen
  · exact h.success

end Work

namespace WriteBehindEngine

variable {s s' : WriteBehindEngine τ}

/-- What `try_push` returns. -/
def accepts (s : WriteBehindEngine τ) (task : Option τ) : Bool :=
  task.isSome && decide (s.queue.length < s.opts.maxQueueSize)

/-- A drain whose wait is over discards what is left. -/
def discard (s : WriteBehindEngine τ) (id : ℕ) : WriteBehindEngine τ :=
  { s with
    flushing := s.flushing.erase id
    woken := s.woken.erase id
    droppedCount := s.droppedCount + UInt64.ofNat s.queue.length
    queue := [] }

def work (s : WriteBehindEngine τ) : Work τ where
  opts := s.opts
  queue := s.queue
  inFlight := s.worker.inFlight
  successCount := s.successCount
  droppedCount := s.droppedCount

/-- The task that the step to this state has started. -/
def starts (s' : WriteBehindEngine τ) : EngineEvent τ → List τ
  | .check _ => s'.worker.inFlight.map (·.task)
  | _ => []

def succeeds (s : WriteBehindEngine τ) : EngineEvent τ → List τ
  | .finish true => s.worker.inFlight.map (·.task)
  | _ => []

def drops (s : WriteBehindEngine τ) : EngineEvent τ → List τ
  | .finish false => (s.worker.inFlight.filter (·.retriesLeft ≤ 0)).map (·.task)
  | _ => []

/-- A worker that moves on with the same task, or with none. -/
theorem work_worker {before after : WorkerAt τ} (hworker : s.worker = before)
    (h : before.inFlight = after.inFlight) : work { s with worker := after } = s.work := by
  rw [work, work, hworker, h]

theorem work_wake {waiter : Waiter} (h : s.wake waiter = some s') : s'.work = s.work := by
  rcases wake_cases h with ⟨hworker | hworker, rfl⟩ | ⟨id, -, rfl⟩
  · exact work_worker hworker rfl
  · exact work_worker hworker rfl
  · rfl

theorem work_notifyOne {notified : Option Waiter} (h : s.notifyOne notified = some s') :
    s'.work = s.work := by
  cases notified with
  | none =>
    simp only [notifyOne] at h
    split_ifs at h
    exact congrArg _ (Option.some.inj h).symm
  | some waiter => exact work_wake h

theorem work_flush (s : WriteBehindEngine τ) (id : ℕ) : (s.flush id).work = s.work := by
  unfold flush
  split_ifs
  · rfl
  · rfl

/-- A push adds its task when it is accepted, and does nothing otherwise. -/
theorem work_tryPush {task : Option τ} {notified : Option Waiter}
    (h : s.tryPush task notified = some s') :
    (s.accepts task = false ∧ s'.work = s.work) ∨
      ∃ entry, task = some entry.task ∧ entry.retriesLeft = s.opts.maxRetries ∧
        s.queue.length < s.opts.maxQueueSize ∧ s.accepts task ∧ s'.work = s.work.add entry := by
  cases task with
  | none => exact .inl ⟨rfl, congrArg _ (Option.some.inj h).symm⟩
  | some task =>
    simp only [tryPush] at h
    split_ifs at h with hfull
    · refine .inl ⟨?_, congrArg _ (Option.some.inj h).symm⟩
      exact decide_eq_false (Nat.not_lt_of_le hfull)
    · have hroom := Nat.lt_of_not_le hfull
      refine .inr ⟨_, rfl, ?_, hroom, decide_eq_true hroom, work_notifyOne h⟩
      rfl

theorem moves_check (s : WriteBehindEngine τ) (hworker : s.worker = .checking) (elapsed : ℕ) :
    s.work.Moves (s.check elapsed).work ((s.check elapsed).worker.inFlight.map (·.task)) [] [] := by
  have hnone : s.work.inFlight = [] := by
    change s.worker.inFlight = []
    rw [hworker]
    rfl
  have hrest {t : WriteBehindEngine τ} (hwork : t.work = s.work) :
      s.work.Moves t.work (t.work.inFlight.map (·.task)) [] [] := by
    rw [hwork, hnone]
    exact .rest _
  unfold check
  split
  · exact hrest (work_worker hworker rfl)
  · rename_i entry queue hqueue
    split_ifs
    · exact hrest (work_worker hworker rfl)
    · exact hrest (work_worker hworker rfl)
    · exact .start hqueue hnone

theorem moves_finish (s : WriteBehindEngine τ) {entry : TaskEntry τ}
    (hworker : s.worker = .executing entry) (ok : Bool) :
    s.work.Moves (s.finish entry ok).work [] (s.succeeds (.finish ok)) (s.drops (.finish ok)) := by
  have hentry : s.work.inFlight = [entry] := by
    change s.worker.inFlight = [entry]
    rw [hworker]
    rfl
  cases ok with
  | true =>
    have hsucceeds : s.succeeds (.finish true) = [entry.task] := congrArg (List.map _) hentry
    rw [hsucceeds]
    exact .success hentry
  | false =>
    have hdrops : s.drops (.finish false) = ([entry].filter (·.retriesLeft ≤ 0)).map (·.task) :=
      congrArg (fun entries => (List.filter _ entries).map _) hentry
    rw [hdrops]
    unfold finish
    rw [if_neg Bool.false_ne_true]
    by_cases hleft : 0 < entry.retriesLeft
    · rw [if_pos hleft, List.filter_cons_of_neg (by simpa using hleft)]
      exact .retry _ hentry hleft
    · rw [if_neg hleft, List.filter_cons_of_pos (by simpa using hleft)]
      exact .drop hentry (Int.not_lt.mp hleft)

/-- The steps other than a push are moves of the worker. -/
theorem moves_step {e : EngineEvent τ} (hpush : ∀ task notified, e ≠ .tryPush task notified)
    (hstep : s.step e = some s') :
    s.work.Moves s'.work (s'.starts e) (s.succeeds e) (s.drops e) := by
  have hrest {t : WriteBehindEngine τ} (hwork : t.work = s.work) : s.work.Moves t.work [] [] [] :=
    hwork ▸ .rest _
  cases step_cases hstep with
  | tick => exact hrest rfl
  | tryPush => exact absurd rfl (hpush _ _)
  | flush id => exact hrest (work_flush s id)
  | recheck id => exact hrest (work_flush { s with woken := s.woken.erase id } id)
  | check elapsed hworker => exact moves_check s hworker elapsed
  | timeout hworker | notifyAll hworker => exact hrest (work_worker hworker rfl)
  | finish ok hworker => exact moves_finish s hworker ok
  | wake hwake => exact hrest (work_wake hwake)

end WriteBehindEngine

/-! ## Runs with pushes and drains -/

/-- Where a push is: it tries with what it has left of its task, or has returned. -/
inductive PushAt
  | trying (task : Option ℕ)
  | returned
  deriving DecidableEq

/-- The calls, the worker and the notifications. -/
inductive PushEvent
  /-- A call of `try_push`, with an empty function if none is given. -/
  | tryPush (given : Bool) (notified : Option Waiter)
  /-- A call of `push`, before its first attempt. -/
  | push
  | attempt (call : ℕ) (notified : Option Waiter)
  | drain (id : ℕ)
  /-- The wait of a drain runs out. -/
  | deadline (id : ℕ)
  | other (e : EngineEvent ℕ)

/-- Pushes have events of their own, and the wait of a drain is not a flush. -/
def EngineEvent.allowed (e : EngineEvent ℕ) (drains : List ℕ) : Bool :=
  match e with
  | .tryPush _ _ => false
  | .flush id => id ∉ drains
  | _ => true

/-- An engine with the calls in progress. -/
structure PushRun where
  engine : WriteBehindEngine ℕ
  /-- The number of the next call. -/
  calls : ℕ := 0
  pushes : ℕ → Option PushAt := fun _ => none
  drains : List ℕ := []
  tally : Tally ℕ := {}

namespace PushRun

def offer (s : PushRun) (task : Option ℕ) (notified : Option Waiter) : Option PushRun :=
  (s.engine.tryPush task notified).map fun engine => { s with
    engine
    tally := if s.engine.accepts task then task.elim s.tally s.tally.accept else s.tally }

/-- One round of the loop of `push`. Its task has moved into the parameter of `try_push`. -/
def attempt (s : PushRun) (call : ℕ) (task : Option ℕ) (notified : Option Waiter) :
    Option PushRun :=
  (s.offer task notified).map fun t => { t with
    pushes := Function.update t.pushes call
      (some (if s.engine.accepts task then .returned else .trying none)) }

/-- The call waits. -/
def waits (s : PushRun) (id : ℕ) : Bool := id ∈ s.engine.flushing || id ∈ s.engine.woken

/-- One call, one turn or one notification. -/
def step (s : PushRun) : PushEvent → Option PushRun
  | .tryPush given notified =>
    offer { s with calls := s.calls + 1 } (if given then some s.calls else none) notified
  | .push => some { s with
      calls := s.calls + 1
      pushes := Function.update s.pushes s.calls (some (.trying (some s.calls))) }
  | .attempt call notified =>
    match s.pushes call with
    | some (.trying task) => s.attempt call task notified
    | _ => none
  | .drain id =>
    if s.waits id then none
    else some { s with
      engine := s.engine.flush id
      drains := id :: s.drains }
  | .deadline id =>
    if id ∈ s.drains ∧ s.waits id then some { s with
      engine := s.engine.discard id
      tally := s.tally.move [] [] (s.engine.queue.map (·.task)) }
    else none
  | .other e =>
    if e.allowed s.drains then (s.engine.step e).map fun engine => { s with
      engine
      tally := s.tally.move (engine.starts e) (s.engine.succeeds e) (s.engine.drops e) }
    else none

abbrev Reaches (opts : Options) : PushRun → Prop :=
  BoostGateway.Reaches (fun s => ∃ clock, s = { engine := { opts, clock } }) step fun _ _ => True

/-- The states after a state, in any schedule. -/
abbrev Later (s : PushRun) : PushRun → Prop := BoostGateway.Reaches (· = s) step fun _ _ => True

/-- The queue has room. -/
def Room (s : PushRun) : Prop := s.engine.queue.length < s.engine.opts.maxQueueSize

/-- The push has returned, and its task was added once. -/
def Delivered (s : PushRun) (call : ℕ) : Prop :=
  s.pushes call = some .returned ∧ s.tally.accepted.count call = 1

/-- The counts of the tasks agree. -/
structure Conserved (s : PushRun) : Prop where
  accepted : s.tally.accepted.length = s.tally.succeeded.length + s.tally.dropped.length +
    s.engine.queue.length + s.engine.worker.inFlight.length
  success : s.engine.successCount = UInt64.ofNat s.tally.succeeded.length
  dropped : s.engine.droppedCount = UInt64.ofNat s.tally.dropped.length

/-- A push that still has its task has not added it. -/
structure Sound (opts : Options) (s : PushRun) : Prop where
  opts : s.engine.opts = opts
  accounts : s.engine.work.Accounts s.tally
  called : ∀ n ∈ s.tally.accepted, n < s.calls
  pushed : ∀ n, s.pushes n ≠ none → n < s.calls
  holding : ∀ n task, s.pushes n = some (.trying (some task)) → task = n ∧ n ∉ s.tally.accepted

variable {opts : Options} {s s' t : PushRun}

theorem offer_cases {task : Option ℕ} {notified : Option Waiter}
    (h : s.offer task notified = some s') :
    (s.engine.accepts task = false ∧ s'.engine.work = s.engine.work ∧
        s' = { s with engine := s'.engine }) ∨
      ∃ entry, task = some entry.task ∧ entry.retriesLeft = s.engine.opts.maxRetries ∧ s.Room ∧
        s.engine.accepts task ∧ s'.engine.work = s.engine.work.add entry ∧
        s' = { s with engine := s'.engine, tally := s.tally.accept entry.task } := by
  obtain ⟨engine, hengine, rfl⟩ := Option.map_eq_some_iff.mp h
  rcases WriteBehindEngine.work_tryPush hengine with
    ⟨haccepts, hwork⟩ | ⟨entry, rfl, hretries, hroom, haccepts, hwork⟩
  · refine .inl ⟨haccepts, hwork, ?_⟩
    rw [haccepts]
    rfl
  · refine .inr ⟨entry, rfl, hretries, hroom, haccepts, hwork, ?_⟩
    rw [haccepts]
    rfl

theorem Sound.of_work (h : s.Sound opts) {engine : WriteBehindEngine ℕ}
    (hwork : engine.work = s.engine.work) : Sound opts { s with engine } :=
  ⟨(congrArg Work.opts hwork).trans h.opts, hwork ▸ h.accounts, h.called, h.pushed, h.holding⟩

theorem Sound.call (h : s.Sound opts) : Sound opts { s with calls := s.calls + 1 } :=
  ⟨h.opts, h.accounts, fun n hn => Nat.lt_succ_of_lt (h.called n hn),
    fun n hn => Nat.lt_succ_of_lt (h.pushed n hn), h.holding⟩

theorem Sound.set (h : s.Sound opts) {call : ℕ} (hcall : call < s.calls) (at' : PushAt)
    (hholding : ∀ task, at' = .trying (some task) → task = call ∧ call ∉ s.tally.accepted) :
    Sound opts { s with pushes := Function.update s.pushes call (some at') } := by
  refine ⟨h.opts, h.accounts, h.called, fun n hn => ?_, fun n task hn => ?_⟩
  · by_cases heq : n = call
    · exact heq ▸ hcall
    · change Function.update s.pushes call (some at') n ≠ none at hn
      rw [Function.update_of_ne heq] at hn
      exact h.pushed n hn
  · change Function.update s.pushes call (some at') n = _ at hn
    by_cases heq : n = call
    · subst heq
      rw [Function.update_self] at hn
      exact hholding task (Option.some.inj hn)
    · rw [Function.update_of_ne heq] at hn
      exact h.holding n task hn

/-- A new task is added. -/
theorem Sound.add (h : s.Sound opts) {engine : WriteBehindEngine ℕ} {entry : TaskEntry ℕ}
    (hwork : engine.work = s.engine.work.add entry)
    (hretries : entry.retriesLeft = s.engine.opts.maxRetries) (hroom : s.Room)
    (hnew : entry.task ∉ s.tally.accepted) (hcall : entry.task < s.calls)
    (hdone : ∀ task, s.pushes entry.task ≠ some (.trying (some task))) :
    Sound opts { s with engine, tally := s.tally.accept entry.task } := by
  refine ⟨(congrArg Work.opts hwork).trans h.opts, hwork ▸ h.accounts.add hnew hretries hroom,
    fun n hn => ?_, h.pushed, fun n task hn => ?_⟩
  · rcases List.mem_append.mp hn with hold | hlast
    · exact h.called n hold
    · exact List.mem_singleton.mp hlast ▸ hcall
  · obtain ⟨htask, hnot⟩ := h.holding n task hn
    refine ⟨htask, fun hmem => ?_⟩
    rcases List.mem_append.mp hmem with hold | hlast
    · exact hnot hold
    · exact hdone task (List.mem_singleton.mp hlast ▸ hn)

theorem Sound.offer {task : Option ℕ} {notified : Option Waiter} (h : s.Sound opts)
    (htask : ∀ n ∈ task, n ∉ s.tally.accepted ∧ n < s.calls ∧
      ∀ other, s.pushes n ≠ some (.trying (some other)))
    (hoffer : s.offer task notified = some s') : s'.Sound opts := by
  rcases offer_cases hoffer with
    ⟨-, hwork, heq⟩ | ⟨entry, rfl, hretries, hroom, -, hwork, heq⟩
  · exact heq ▸ h.of_work hwork
  · obtain ⟨hnew, hcall, hdone⟩ := htask _ rfl
    exact heq ▸ h.add hwork hretries hroom hnew hcall hdone

/-- An attempt settles the push first: its task has moved out, whatever comes of it. -/
theorem attempt_eq (s : PushRun) (call : ℕ) (task : Option ℕ) (notified : Option Waiter) :
    s.attempt call task notified = PushRun.offer { s with
      pushes := Function.update s.pushes call
        (some (if s.engine.accepts task then .returned else .trying none)) } task notified := by
  unfold attempt PushRun.offer
  rw [Option.map_map]
  rfl

variable {call : ℕ}

theorem Sound.attempt {task : Option ℕ} {notified : Option Waiter} (h : s.Sound opts)
    (hcall : s.pushes call = some (.trying task))
    (hattempt : s.attempt call task notified = some s') : s'.Sound opts := by
  rw [attempt_eq] at hattempt
  have hlt : call < s.calls := h.pushed call (by rw [hcall]; nofun)
  refine (h.set hlt _ fun other hother => ?_).offer (fun n hn => ?_) hattempt
  · split_ifs at hother
    cases PushAt.trying.inj hother
  · obtain ⟨rfl, hnew⟩ := h.holding call n (hcall.trans (congrArg (some ∘ PushAt.trying) hn))
    refine ⟨hnew, hlt, fun other hother => ?_⟩
    change Function.update s.pushes n _ n = _ at hother
    rw [Function.update_self] at hother
    have hsettled := Option.some.inj hother
    split_ifs at hsettled
    cases PushAt.trying.inj hsettled

theorem Sound.step {e : PushEvent} (h : s.Sound opts) (hstep : s.step e = some s') :
    s'.Sound opts := by
  cases e with
  | tryPush given notified =>
    refine h.call.offer (fun n hn => ?_) hstep
    cases given with
    | false => cases hn
    | true =>
      obtain rfl := Option.some.inj hn
      refine ⟨fun hmem => Nat.lt_irrefl _ (h.called _ hmem), Nat.lt_succ_self _, fun task hat => ?_⟩
      exact Nat.lt_irrefl _ (h.pushed _ (by rw [show s.pushes s.calls = _ from hat]; nofun))
  | push =>
    obtain rfl := Option.some.inj hstep
    refine h.call.set (Nat.lt_succ_self _) _ fun task htask => ?_
    obtain rfl := Option.some.inj (PushAt.trying.inj htask)
    exact ⟨rfl, fun hmem => Nat.lt_irrefl _ (h.called _ hmem)⟩
  | attempt call notified =>
    simp only [PushRun.step] at hstep
    split at hstep
    · rename_i hcall
      exact h.attempt hcall hstep
    · cases hstep
  | drain id =>
    simp only [PushRun.step] at hstep
    split_ifs at hstep
    obtain rfl := Option.some.inj hstep
    have hflushed := h.of_work (WriteBehindEngine.work_flush s.engine id)
    exact ⟨hflushed.opts, hflushed.accounts, h.called, h.pushed, h.holding⟩
  | deadline id =>
    simp only [PushRun.step] at hstep
    split_ifs at hstep
    obtain rfl := Option.some.inj hstep
    exact ⟨h.opts, h.accounts.discard, h.called, h.pushed, h.holding⟩
  | other e =>
    simp only [PushRun.step] at hstep
    split_ifs at hstep with hallowed
    obtain ⟨engine, hengine, rfl⟩ := Option.map_eq_some_iff.mp hstep
    have hmoves := WriteBehindEngine.moves_step (fun task notified heq => by
      rw [heq] at hallowed
      cases hallowed) hengine
    exact ⟨hmoves.opts.trans h.opts, h.accounts.moves hmoves, h.called, h.pushed, h.holding⟩

theorem Reaches.sound (h : Reaches opts s) : s.Sound opts := by
  refine h.invariant (P := Sound opts) ?_ fun s e s' hs _ hstep => hs.step hstep
  rintro s ⟨clock, rfl⟩
  refine ⟨rfl, ⟨.refl _, List.nodup_nil, rfl, rfl, nofun, nofun, fun _ => ?_, fun _ _ => rfl,
    fun h => absurd rfl h⟩, nofun, fun _ h => absurd rfl h, nofun⟩
  change (0 : ℤ) ≤ _
  omega

theorem Sound.conserved (h : s.Sound opts) : s.Conserved := by
  refine ⟨?_, h.accounts.success, h.accounts.dropped⟩
  have hlength := h.accounts.perm.length_eq
  simp only [Work.tasks, WriteBehindEngine.work, List.length_append, List.length_map] at hlength
  omega

/-- A push that has returned, or has lost its task, stays as it is. -/
theorem Sound.settled_step {e : PushEvent} {call : ℕ} {at' : PushAt} (h : s.Sound opts)
    (hcall : s.pushes call = some at') (hsettled : ∀ task, at' ≠ .trying (some task))
    (hstep : s.step e = some s') :
    s'.pushes call = some at' ∧ (call ∈ s'.tally.accepted ↔ call ∈ s.tally.accepted) := by
  have hlt : call < s.calls := h.pushed call (by rw [hcall]; nofun)
  have hoffer {s s' : PushRun} {task : Option ℕ} {notified : Option Waiter} (hne : call ∉ task)
      (hoffer : s.offer task notified = some s') : s'.pushes call = s.pushes call ∧
        (call ∈ s'.tally.accepted ↔ call ∈ s.tally.accepted) := by
    rcases offer_cases hoffer with ⟨-, -, heq⟩ | ⟨entry, rfl, -, -, -, -, heq⟩
    · rw [heq]
      exact ⟨rfl, .rfl⟩
    · rw [heq]
      refine ⟨rfl, ⟨fun hmem => ?_, List.mem_append_left _⟩⟩
      rcases List.mem_append.mp hmem with hold | hlast
      · exact hold
      · exact absurd (congrArg some (List.mem_singleton.mp hlast).symm) hne
  cases e with
  | tryPush given notified =>
    have hne : call ∉ if given then some s.calls else none := by
      intro hmem
      split_ifs at hmem
      · exact Nat.ne_of_gt hlt (Option.some.inj hmem)
      · cases hmem
    obtain ⟨hpushes, hmem⟩ := hoffer hne hstep
    exact ⟨hpushes.trans hcall, hmem⟩
  | push =>
    obtain rfl := Option.some.inj hstep
    exact ⟨(Function.update_of_ne (Nat.ne_of_lt hlt) ..).trans hcall, .rfl⟩
  | attempt other notified =>
    simp only [PushRun.step] at hstep
    split at hstep
    · rename_i task hother
      rw [attempt_eq] at hstep
      have hne : call ∉ task := by
        rintro rfl
        obtain ⟨rfl, -⟩ := h.holding other call hother
        exact hsettled call (Option.some.inj (hcall.symm.trans hother))
      obtain ⟨hpushes, hmem⟩ := hoffer hne hstep
      refine ⟨hpushes.trans ?_, hmem⟩
      by_cases heq : call = other
      · subst heq
        obtain rfl := Option.some.inj (hcall.symm.trans hother)
        cases task with
        | none => exact Function.update_self ..
        | some task => exact absurd rfl (hsettled task)
      · exact (Function.update_of_ne heq ..).trans hcall
    · cases hstep
  | drain id | deadline id =>
    simp only [PushRun.step] at hstep
    split_ifs at hstep
    obtain rfl := Option.some.inj hstep
    exact ⟨hcall, .rfl⟩
  | other e =>
    simp only [PushRun.step] at hstep
    split_ifs at hstep
    obtain ⟨engine, -, rfl⟩ := Option.map_eq_some_iff.mp hstep
    exact ⟨hcall, .rfl⟩

theorem Sound.settled_later {at' : PushAt} (h : s.Sound opts)
    (hcall : s.pushes call = some at') (hsettled : ∀ task, at' ≠ .trying (some task))
    (hlater : s.Later t) :
    t.Sound opts ∧ t.pushes call = some at' ∧
      (call ∈ t.tally.accepted ↔ call ∈ s.tally.accepted) := by
  refine hlater.invariant (P := fun t => t.Sound opts ∧ t.pushes call = some at' ∧
    (call ∈ t.tally.accepted ↔ call ∈ s.tally.accepted)) ?_ ?_
  · rintro t rfl
    exact ⟨h, hcall, .rfl⟩
  · rintro t e t' ⟨ht, hpushes, hmem⟩ - hstep
    obtain ⟨hpushes', hmem'⟩ := ht.settled_step hpushes hsettled hstep
    exact ⟨ht.step hstep, hpushes', hmem'.trans hmem⟩

/-- The first attempt decides: with room the push returns, without it the task is lost. -/
theorem first_attempt {notified : Option Waiter}
    (hcall : s.pushes call = some (.trying (some call)))
    (hstep : s.step (.attempt call notified) = some s') :
    (s.Room ∧ s'.pushes call = some .returned ∧ call ∈ s'.tally.accepted) ∨
      (¬s.Room ∧ s'.pushes call = some (.trying none)) := by
  simp only [PushRun.step, hcall] at hstep
  rw [attempt_eq] at hstep
  have hself {at' : Option PushAt} : Function.update s.pushes call at' call = at' :=
    Function.update_self ..
  rcases offer_cases hstep with
    ⟨haccepts, -, heq⟩ | ⟨entry, hentry, -, hroom, haccepts, -, heq⟩
  · change s.engine.accepts (some call) = false at haccepts
    have hfull : ¬s.engine.queue.length < s.engine.opts.maxQueueSize := of_decide_eq_false haccepts
    refine .inr ⟨hfull, ?_⟩
    rw [heq, haccepts]
    exact hself
  · change s.engine.accepts (some call) at haccepts
    rw [heq, haccepts]
    refine .inl ⟨hroom, hself, ?_⟩
    exact List.mem_append_right _ (Option.some.inj hentry ▸ List.mem_singleton_self _)

/-- In every schedule the push delivers if and only if its first attempt finds room. -/
theorem Sound.delivered_iff {notified : Option Waiter} (h : s.Sound opts)
    (hcall : s.pushes call = some (.trying (some call)))
    (hstep : s.step (.attempt call notified) = some s') (hlater : s'.Later t) :
    t.Delivered call ↔ s.Room := by
  rcases first_attempt hcall hstep with ⟨hroom, hreturned, hmem⟩ | ⟨hfull, hlost⟩
  · obtain ⟨ht, hpushes, haccepted⟩ := (h.step hstep).settled_later hreturned nofun hlater
    refine iff_of_true ⟨hpushes, ?_⟩ hroom
    exact List.count_eq_one_of_mem ht.accounts.nodup (haccepted.mpr hmem)
  · obtain ⟨-, hpushes, -⟩ := (h.step hstep).settled_later hlost nofun hlater
    refine iff_of_false (fun hdelivered => ?_) hfull
    cases hpushes.symm.trans hdelivered.1

theorem exists_notifyOne (s : WriteBehindEngine ℕ) : ∃ notified, (s.notifyOne notified).isSome := by
  cases hflushing : s.flushing with
  | cons id ids =>
    refine ⟨some (.flush id), ?_⟩
    simp only [WriteBehindEngine.notifyOne, WriteBehindEngine.wake]
    rw [if_pos (hflushing ▸ List.mem_cons_self)]
    rfl
  | nil =>
    cases hworker : s.worker with
    | waiting | sleeping =>
      refine ⟨some .worker, ?_⟩
      simp only [WriteBehindEngine.notifyOne, WriteBehindEngine.wake, hworker]
      rfl
    | checking | executing entry | notifying =>
      refine ⟨none, ?_⟩
      simp only [WriteBehindEngine.notifyOne, WriteBehindEngine.someoneWaits, hworker, hflushing]
      rfl

/-- A push that has not returned can make its attempt. -/
theorem exists_attempt {task : Option ℕ} (hcall : s.pushes call = some (.trying task)) :
    ∃ notified s', s.step (.attempt call notified) = some s' := by
  obtain ⟨notified, engine, hengine⟩ : ∃ notified engine,
      s.engine.tryPush task notified = some engine := by
    cases task with
    | none => exact ⟨none, _, rfl⟩
    | some task =>
      by_cases hfull : s.engine.opts.maxQueueSize ≤ s.engine.queue.length
      · exact ⟨none, _, if_pos hfull⟩
      · obtain ⟨notified, hsome⟩ := exists_notifyOne { s.engine with
          queue := s.engine.queue ++ [{
            task
            retriesLeft := s.engine.opts.maxRetries
            readyAt := s.engine.clock
            enqueuedAt := s.engine.clock }] }
        obtain ⟨engine, hengine⟩ := Option.isSome_iff_exists.mp hsome
        exact ⟨notified, engine, (if_neg hfull).trans hengine⟩
  refine ⟨notified, ?_⟩
  simp only [step, hcall, attempt, offer, hengine]
  exact ⟨_, rfl⟩

/-- With a negative number of retries a task is still executed once. -/
theorem exists_executed (hretries : opts.maxRetries < 0) (hsize : 0 < opts.maxQueueSize) :
    ∃ s, Reaches opts s ∧ ∃ n ∈ s.tally.accepted,
      opts.maxRetries + 1 < (s.tally.executions.count n : ℤ) := by
  let start : PushRun := { engine := { opts, clock := 0 } }
  let entry : TaskEntry ℕ := {
    task := 0
    retriesLeft := opts.maxRetries
    readyAt := 0
    enqueuedAt := 0 }
  let pushed : PushRun := { start with
    engine := { start.engine with queue := [entry] }
    calls := 1
    tally := { accepted := [0] } }
  have hpush : start.step (.tryPush true none) = some pushed := by
    have hengine : start.engine.tryPush (some 0) none = some pushed.engine :=
      if_neg (Nat.not_le.mpr hsize)
    have haccepts : start.engine.accepts (some 0) := decide_eq_true hsize
    change Option.map (fun engine => { start with
      engine
      calls := 1
      tally := if start.engine.accepts (some 0) then start.tally.accept 0 else start.tally })
      (start.engine.tryPush (some 0) none) = some pushed
    rw [hengine, haccepts]
    rfl
  have hreach : Reaches opts pushed := .step (.init ⟨0, rfl⟩) trivial hpush
  refine ⟨_, hreach.step (a := .other (.check 0)) trivial rfl, 0, List.mem_singleton_self _, ?_⟩
  change opts.maxRetries + 1 < ((([0] : List ℕ).count 0 : ℕ) : ℤ)
  rw [List.count_singleton_self]
  omega

/-- The tasks are accounted for in every run. They are executed as often as they may be unless
the retries are negative, and a push delivers, whatever comes later, if and only if there is room
at its first attempt. -/
theorem push_iff (opts : Options) :
    (∀ s, Reaches opts s → s.Conserved) ∧
    ((∀ s, Reaches opts s → ∀ n ∈ s.tally.accepted,
        (s.tally.executions.count n : ℤ) ≤ opts.maxRetries + 1) ↔
      0 ≤ opts.maxRetries ∨ opts.maxQueueSize = 0) ∧
    ∀ s call, Reaches opts s → s.pushes call = some (.trying (some call)) →
      (∃ notified s', s.step (.attempt call notified) = some s') ∧
      ∀ notified s' t, s.step (.attempt call notified) = some s' → s'.Later t →
        (t.Delivered call ↔ s.Room) := by
  refine ⟨fun s hs => hs.sound.conserved, ⟨fun hall => ?_, fun hopts s hs n hn => ?_⟩,
    fun s call hs hcall => ⟨exists_attempt hcall, fun notified s' t hstep hlater =>
      hs.sound.delivered_iff hcall hstep hlater⟩⟩
  · by_contra hcontra
    have hretries : opts.maxRetries < 0 := by omega
    have hsize : 0 < opts.maxQueueSize := by omega
    obtain ⟨s, hs, n, hn, hcount⟩ := exists_executed hretries hsize
    exact absurd (hall s hs n hn) (Int.not_le.mpr hcount)
  · have haccounts := hs.sound.accounts
    have hbounded := haccounts.bounded n
    have hroom := haccounts.room (List.ne_nil_of_mem hn)
    change 0 < s.engine.opts.maxQueueSize at hroom
    change _ ≤ max s.engine.opts.maxRetries 0 + 1 at hbounded
    rw [hs.sound.opts] at hroom hbounded
    omega

/-- The queue is full at the first attempt of the second push, and empty at the next one. -/
theorem not_delivers : ¬∀ (opts : Options) (s s' t t' : PushRun) (call : ℕ)
    (notified notified' : Option Waiter), Reaches opts s →
    s.pushes call = some (.trying (some call)) → s.step (.attempt call notified) = some s' →
    s'.Later t → t.Room → t.step (.attempt call notified') = some t' → t'.Delivered call := by
  intro hall
  let opts : Options := { maxQueueSize := 1 }
  let after (s : PushRun) (e : PushEvent) : PushRun := (s.step e).getD s
  let s := after (after { engine := { opts, clock := 0 } } (.tryPush true none)) .push
  have hs : Reaches opts s := ((Reaches.init ⟨0, rfl⟩).step (a := .tryPush true none) trivial
    rfl).step (a := .push) trivial rfl
  let s' := after s (.attempt 1 none)
  let t := after s' (.other (.check 0))
  have ht₀ : s'.Later s' := .init rfl
  have ht : s'.Later t := ht₀.step (a := .other (.check 0)) trivial rfl
  have hroom : t.Room := Nat.zero_lt_one
  have hdelivered := hall opts s s' t _ 1 none none hs rfl rfl ht hroom rfl
  cases hdelivered.1

end PushRun

end BoostGateway.Persistence
