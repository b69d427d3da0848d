import BoostGateway.Base.Run
import Mathlib.Data.Int.Order.Basic

/-!
# The write-behind engine

`WriteBehindEngine` (`writebehind.cpp`) has a queue of tasks and a worker that runs them, puts a
task that failed back with a delay, and waits on a condition variable until the task in front is
due. A flush waits on the same variable until the queue is empty and the worker idle.

The steps are the sections under the lock, the notification that the worker makes outside of it,
and the wake-ups. Whom `notify_one` wakes is up to the platform, and a wait may also end on its
own. Times are in nanoseconds, delays in milliseconds.

`EngineReaches.neverStuck` : the worker is not left waiting with tasks in the queue, as long as
it never looks at a queue whose front is not yet due. `reaches_stuck` : a retry is such a front.
-/

namespace BoostGateway.Persistence

/-- The options. -/
structure Options where
  maxQueueSize : ℕ := 10000
  degradationThreshold : ℕ := 5000
  baseRetryDelay : ℤ := 100
  maxRetryDelay : ℤ := 5000
  maxRetries : ℤ := 3

/-- A task in the queue. -/
structure TaskEntry (τ : Type*) where
  task : τ
  retriesLeft : ℤ
  readyAt : ℤ
  enqueuedAt : ℤ
  deriving DecidableEq

/-- Where the worker is. -/
inductive WorkerAt (τ : Type*)
  /-- It is about to look at the queue. -/
  | checking
  /-- It is in the wait that only a notification ends. -/
  | waiting
  /-- It is in the wait with a time-out. -/
  | sleeping
  | executing (entry : TaskEntry τ)
  /-- It is about to notify all. -/
  | notifying
  deriving DecidableEq

/-- A thread in a wait on the condition variable. -/
inductive Waiter
  | worker
  | flush (id : ℕ)

/-- `WriteBehindEngine`. -/
structure WriteBehindEngine (τ : Type*) where
  opts : Options
  queue : List (TaskEntry τ) := []
  workerIdle : Bool := true
  worker : WorkerAt τ := .checking
  /-- The flushes that wait. -/
  flushing : List ℕ := []
  /-- The flushes that were woken and are about to look again. -/
  woken : List ℕ := []
  clock : ℤ
  droppedCount : UInt64 := 0
  retryCount : UInt64 := 0
  successCount : UInt64 := 0
  degraded : Bool := false

/-- The calls, the worker, the clock. -/
inductive EngineEvent (τ : Type*)
  | tick (elapsed : ℕ)
  /-- A `try_push`, or an attempt of a `push`, whose later attempts have an empty task. -/
  | tryPush (task : Option τ) (notified : Option Waiter)
  | flush (id : ℕ)
  | recheck (id : ℕ)
  /-- The worker looks at the queue; the clock goes on until it reads it again. -/
  | check (elapsed : ℕ)
  | timeout
  | finish (ok : Bool)
  | notifyAll
  /-- A wait ends without a notification. -/
  | wake (waiter : Waiter)

def WorkerAt.running {τ : Type*} : WorkerAt τ → List τ
  | .executing entry => [entry.task]
  | _ => []

/-- Only a push, and a task that ends, change what is to be done. -/
def EngineEvent.keepsTasks {τ : Type*} : EngineEvent τ → Bool
  | .tryPush _ _ | .finish _ => false
  | _ => true

namespace WriteBehindEngine

variable {τ : Type*}

/-- The loop of `retry_delay` with `i` doublings to go. -/
def retryDelayFrom (opts : Options) : ℕ → ℤ → ℤ
  | 0, d => d
  | i + 1, d => if opts.maxRetryDelay ≤ d * 2 then opts.maxRetryDelay
    else retryDelayFrom opts i (d * 2)

def retryDelay (opts : Options) (attempt : ℤ) : ℤ :=
  retryDelayFrom opts attempt.toNat opts.baseRetryDelay

/-- A wait of the waiter ends; `none` when it does not wait. -/
def wake (s : WriteBehindEngine τ) : Waiter → Option (WriteBehindEngine τ)
  | .worker =>
    match s.worker with
    | .waiting | .sleeping => some { s with worker := .checking }
    | _ => none
  | .flush id =>
    if id ∈ s.flushing then some { s with
      flushing := s.flushing.erase id
      woken := id :: s.woken }
    else none

def someoneWaits (s : WriteBehindEngine τ) : Bool :=
  !s.flushing.isEmpty ||
    match s.worker with
    | .waiting | .sleeping => true
    | _ => false

/-- A notification goes to one waiter, if there is any. -/
def notifyOne (s : WriteBehindEngine τ) : Option Waiter → Option (WriteBehindEngine τ)
  | some waiter => s.wake waiter
  | none => if s.someoneWaits then none else some s

def tryPush (s : WriteBehindEngine τ) (task : Option τ) (notified : Option Waiter) :
    Option (WriteBehindEngine τ) :=
  match task with
  | none => some s
  | some task =>
    if s.opts.maxQueueSize ≤ s.queue.length then some s
    else
      let entry := {
        task
        retriesLeft := s.opts.maxRetries
        readyAt := s.clock
        enqueuedAt := s.clock }
      notifyOne { s with queue := s.queue ++ [entry] } notified

/-- The condition that a flush waits for. -/
def flushed (s : WriteBehindEngine τ) : Bool := s.queue.isEmpty && s.workerIdle

/-- A flush returns, or waits. -/
def flush (s : WriteBehindEngine τ) (id : ℕ) : WriteBehindEngine τ :=
  if s.flushed then s else { s with flushing := id :: s.flushing }

/-- The first section of the worker loop. -/
def check (s : WriteBehindEngine τ) (elapsed : ℕ) : WriteBehindEngine τ :=
  match s.queue with
  | [] => { s with worker := .waiting }
  | entry :: queue =>
    if s.clock < entry.readyAt then { s with worker := .waiting }
    else if s.clock + elapsed < entry.readyAt then
      { s with worker := .sleeping, clock := s.clock + elapsed }
    else { s with
      queue
      workerIdle := false
      worker := .executing entry
      clock := s.clock + elapsed }

/-- The task is put back with a delay. -/
def retry (s : WriteBehindEngine τ) (entry : TaskEntry τ) : WriteBehindEngine τ :=
  let delay := retryDelay s.opts (s.opts.maxRetries - entry.retriesLeft)
  { s with
    queue := s.queue ++ [{ entry with
      retriesLeft := entry.retriesLeft - 1
      readyAt := s.clock + delay * 1000000 }]
    retryCount := s.retryCount + 1 }

/-- The second section of the worker loop. -/
def finish (s : WriteBehindEngine τ) (entry : TaskEntry τ) (ok : Bool) : WriteBehindEngine τ :=
  let s :=
    if ok then { s with successCount := s.successCount + 1 }
    else if 0 < entry.retriesLeft then s.retry entry
    else { s with
      droppedCount := s.droppedCount + 1
      degraded := true }
  { s with
    workerIdle := true
    worker := .notifying
    degraded := s.degraded && !decide (s.queue.length < s.opts.degradationThreshold) }

def step (s : WriteBehindEngine τ) : EngineEvent τ → Option (WriteBehindEngine τ)
  | .tick elapsed => some { s with clock := s.clock + elapsed }
  | .tryPush task notified => s.tryPush task notified
  | .flush id => if id ∈ s.flushing ∨ id ∈ s.woken then none else some (s.flush id)
  | .recheck id =>
    if id ∈ s.woken then some (flush { s with woken := s.woken.erase id } id) else none
  | .check elapsed =>
    match s.worker with
    | .checking => some (s.check elapsed)
    | _ => none
  | .timeout =>
    match s.worker with
    | .sleeping => some { s with worker := .checking }
    | _ => none
  | .finish ok =>
    match s.worker with
    | .executing entry => some (s.finish entry ok)
    | _ => none
  | .notifyAll =>
    match s.worker with
    | .notifying => some { s with
        worker := .checking
        flushing := []
        woken := s.flushing ++ s.woken }
    | _ => none
  | .wake waiter => s.wake waiter

/-- The engines reached by steps that meet a condition. -/
abbrev EngineReaches (ok : WriteBehindEngine τ → EngineEvent τ → Prop) :
    WriteBehindEngine τ → Prop :=
  Reaches (fun s => ∃ opts clock, s = { opts, clock }) step ok

/-- The worker waits for a notification, with tasks in the queue. No push is about to notify,
since it does so in the section that adds its task. -/
def Stuck (s : WriteBehindEngine τ) : Prop := s.queue ≠ [] ∧ s.worker = .waiting

/-- When the worker looks at the queue, the front is due. -/
def Prompt (s : WriteBehindEngine τ) : EngineEvent τ → Prop
  | .check _ => ∀ entry ∈ s.queue.head?, entry.readyAt ≤ s.clock
  | _ => True

instance [DecidableEq τ] (s : WriteBehindEngine τ) : Decidable s.Stuck :=
  inferInstanceAs (Decidable (_ ∧ _))

instance (s : WriteBehindEngine τ) : (e : EngineEvent τ) → Decidable (s.Prompt e)
  | .check _ => inferInstanceAs (Decidable (∀ entry ∈ s.queue.head?, entry.readyAt ≤ s.clock))
  | .tick _ | .tryPush _ _ | .flush _ | .recheck _ | .timeout | .finish _ | .notifyAll | .wake _ =>
    inferInstanceAs (Decidable True)

variable {s s' : WriteBehindEngine τ}

/-- What a step does, and where it finds the worker. -/
inductive Steps (s : WriteBehindEngine τ) : EngineEvent τ → WriteBehindEngine τ → Prop
  | tick (elapsed : ℕ) : Steps s (.tick elapsed) { s with clock := s.clock + elapsed }
  | tryPush {task : Option τ} {notified : Option Waiter} {s' : WriteBehindEngine τ} :
      s.tryPush task notified = some s' → Steps s (.tryPush task notified) s'
  | flush (id : ℕ) : Steps s (.flush id) (s.flush id)
  | recheck (id : ℕ) :
      Steps s (.recheck id) (WriteBehindEngine.flush { s with woken := s.woken.erase id } id)
  | check (elapsed : ℕ) : s.worker = .checking → Steps s (.check elapsed) (s.check elapsed)
  | timeout : s.worker = .sleeping → Steps s .timeout { s with worker := .checking }
  | finish {entry : TaskEntry τ} (ok : Bool) : s.worker = .executing entry →
      Steps s (.finish ok) (s.finish entry ok)
  | notifyAll : s.worker = .notifying → Steps s .notifyAll { s with
      worker := .checking
      flushing := []
      woken := s.flushing ++ s.woken }
  | wake {waiter : Waiter} {s' : WriteBehindEngine τ} : s.wake waiter = some s' →
      Steps s (.wake waiter) s'

variable {e : EngineEvent τ}

theorem step_cases (h : s.step e = some s') : s.Steps e s' := by
  cases e with
  | tick elapsed => exact Option.some.inj h ▸ .tick elapsed
  | tryPush task notified => exact .tryPush h
  | flush id =>
    simp only [step] at h
    split_ifs at h
    exact Option.some.inj h ▸ .flush id
  | recheck id =>
    simp only [step] at h
    split_ifs at h
    exact Option.some.inj h ▸ .recheck id
  | check elapsed =>
    simp only [step] at h
    split at h
    · exact Option.some.inj h ▸ .check elapsed ‹_›
    · cases h
  | timeout =>
    simp only [step] at h
    split at h
    · exact Option.some.inj h ▸ .timeout ‹_›
    · cases h
  | finish ok =>
    simp only [step] at h
    split at h
    · exact Option.some.inj h ▸ .finish ok ‹_›
    · cases h
  | notifyAll =>
    simp only [step] at h
    split at h
    · exact Option.some.inj h ▸ .notifyAll ‹_›
    · cases h
  | wake waiter => exact .wake h

/-- A flush that waits is seen by a worker that is about to look, and the worker does not wait
itself before it has worked off the queue. -/
structure Attended (s : WriteBehindEngine τ) : Prop where
  waiting : s.worker = .waiting → s.queue = [] ∧ s.flushing = []
  checking : s.worker = .checking → s.queue = [] → s.flushing = []
  sleeping : s.worker ≠ .sleeping
  idle : s.workerIdle ∨ ∃ entry, s.worker = .executing entry

theorem Attended.not_stuck (h : s.Attended) : ¬s.Stuck :=
  fun ⟨hqueue, hworker⟩ => hqueue (h.waiting hworker).1

variable {waiter : Waiter}

theorem wake_cases (h : s.wake waiter = some s') :
    (s.worker = .waiting ∨ s.worker = .sleeping) ∧ s' = { s with worker := .checking } ∨
      ∃ id ∈ s.flushing, s' = { s with flushing := s.flushing.erase id, woken := id :: s.woken } := by
  cases waiter with
  | worker =>
    simp only [wake] at h
    split at h
    · rename_i hworker
      exact .inl ⟨.inl hworker, (Option.some.inj h).symm⟩
    · rename_i hworker
      exact .inl ⟨.inr hworker, (Option.some.inj h).symm⟩
    · cases h
  | flush id =>
    simp only [wake] at h
    split_ifs at h with hid
    exact .inr ⟨id, hid, (Option.some.inj h).symm⟩

theorem Attended.idle_of_waits (h : s.Attended) (hworker : s.worker = .waiting ∨ s.worker = .sleeping) :
    s.workerIdle := by
  rcases h.idle with hidle | ⟨entry, hentry⟩
  · exact hidle
  · rcases hworker with hworker | hworker
    · cases hworker.symm.trans hentry
    · cases hworker.symm.trans hentry

theorem attended_wake (h : s.Attended) (hwake : s.wake waiter = some s') : s'.Attended := by
  rcases wake_cases hwake with ⟨hworker | hworker, rfl⟩ | ⟨id, -, rfl⟩
  · exact ⟨nofun, fun _ _ => (h.waiting hworker).2, nofun, .inl (h.idle_of_waits (.inl hworker))⟩
  · exact absurd hworker h.sleeping
  · refine ⟨fun hworker => ?_, fun hworker hqueue => ?_, h.sleeping, h.idle⟩
    · obtain ⟨hqueue, hflushing⟩ := h.waiting hworker
      exact ⟨hqueue, by rw [hflushing]; rfl⟩
    · rw [h.checking hworker hqueue]
      rfl

variable {notified : Option Waiter}

/-- A task is added and one waiter notified: the worker, if it waits. -/
theorem attended_notifyOne (entry : TaskEntry τ) (h : s.Attended)
    (hnotify : notifyOne { s with queue := s.queue ++ [entry] } notified = some s') :
    s'.Attended := by
  have hadded : s.queue ++ [entry] ≠ [] := List.append_ne_nil_of_right_ne_nil _ (List.cons_ne_nil _ _)
  cases notified with
  | none =>
    simp only [notifyOne] at hnotify
    split_ifs at hnotify with hwaits
    obtain rfl := Option.some.inj hnotify
    refine ⟨fun hworker => ?_, fun _ hqueue => absurd hqueue hadded, h.sleeping, h.idle⟩
    refine absurd ?_ hwaits
    change s.worker = .waiting at hworker
    simp [someoneWaits, hworker]
  | some waiter =>
    rcases wake_cases hnotify with ⟨hworker, rfl⟩ | ⟨id, hid, rfl⟩
    · exact ⟨nofun, fun _ hqueue => absurd hqueue hadded, nofun, .inl (h.idle_of_waits hworker)⟩
    · refine ⟨fun hworker => ?_, fun _ hqueue => absurd hqueue hadded, h.sleeping, h.idle⟩
      have hnone := (h.waiting hworker).2
      change id ∈ s.flushing at hid
      rw [hnone] at hid
      cases hid

/-- A flush that looks waits for a queue that is not empty, or for a worker at work. -/
theorem attended_flush (h : s.Attended) (id : ℕ) : (s.flush id).Attended := by
  unfold flush
  split_ifs with hflushed
  · exact h
  · have hidle (hworker : s.workerIdle) : s.queue ≠ [] := by
      intro hqueue
      exact hflushed (by rw [flushed, hqueue, hworker]; rfl)
    refine ⟨fun hworker => ?_, fun hworker hqueue => ?_, h.sleeping, h.idle⟩
    · exact absurd (h.waiting hworker).1 (hidle (h.idle_of_waits (.inl hworker)))
    · refine absurd hqueue (hidle ?_)
      rcases h.idle with hidle | ⟨entry, hentry⟩
      · exact hidle
      · cases Eq.trans (Eq.symm hworker) hentry

theorem attended_check (h : s.Attended) (hworker : s.worker = .checking) {elapsed : ℕ}
    (hprompt : s.Prompt (.check elapsed)) : (s.check elapsed).Attended := by
  unfold check
  split
  · rename_i hqueue
    refine ⟨fun _ => ⟨hqueue, h.checking hworker hqueue⟩, nofun, nofun, .inl ?_⟩
    rcases h.idle with hidle | ⟨entry, hentry⟩
    · exact hidle
    · cases hworker.symm.trans hentry
  · rename_i entry queue hqueue
    have hdue : entry.readyAt ≤ s.clock := hprompt entry (by rw [hqueue]; rfl)
    rw [if_neg (by omega), if_neg (by omega)]
    exact ⟨nofun, nofun, nofun, .inr ⟨entry, rfl⟩⟩

theorem attended_step (h : s.Attended) (hprompt : s.Prompt e)
    (hstep : s.step e = some s') : s'.Attended := by
  cases step_cases hstep with
  | tick elapsed => exact ⟨h.waiting, h.checking, h.sleeping, h.idle⟩
  | tryPush hpush =>
    unfold tryPush at hpush
    split at hpush
    · exact Option.some.inj hpush ▸ h
    · split_ifs at hpush
      · exact Option.some.inj hpush ▸ h
      · exact attended_notifyOne _ h hpush
  | flush id => exact attended_flush h id
  | recheck id =>
    have hwoken : ({ s with woken := s.woken.erase id } : WriteBehindEngine τ).Attended :=
      ⟨h.waiting, h.checking, h.sleeping, h.idle⟩
    exact attended_flush hwoken id
  | check elapsed hworker => exact attended_check h hworker hprompt
  | timeout hworker => exact absurd hworker h.sleeping
  | finish ok => exact ⟨nofun, nofun, nofun, .inl rfl⟩
  | notifyAll hworker =>
    refine ⟨nofun, fun _ _ => rfl, nofun, ?_⟩
    rcases h.idle with hidle | ⟨entry, hentry⟩
    · exact .inl hidle
    · cases hworker.symm.trans hentry
  | wake hwake => exact attended_wake h hwake

theorem EngineReaches.attended (h : EngineReaches Prompt s) : s.Attended := by
  refine h.invariant (P := Attended) ?_ fun s e s' hs hprompt hstep =>
    attended_step hs hprompt hstep
  rintro s ⟨opts, clock, rfl⟩
  exact ⟨nofun, fun _ _ => rfl, nofun, .inl rfl⟩

/-- A worker that finds a front that is not yet due is stuck. -/
theorem stuck_check {elapsed : ℕ} (hprompt : ¬s.Prompt (.check elapsed)) :
    (s.check elapsed).Stuck := by
  unfold Prompt at hprompt
  unfold check
  split
  · rename_i hqueue
    refine absurd ?_ hprompt
    rw [hqueue]
    nofun
  · rename_i entry queue hqueue
    rw [hqueue] at hprompt
    have hdue : s.clock < entry.readyAt := by
      by_contra hdue
      refine hprompt fun other hother => ?_
      obtain rfl := Option.some.inj hother
      omega
    rw [if_pos hdue]
    exact ⟨hqueue ▸ List.cons_ne_nil _ _, rfl⟩

/-- In a run whose steps meet the condition the engine is not stuck, and the next step leaves it so
exactly when it meets the condition. -/
theorem EngineReaches.neverStuck (h : EngineReaches Prompt s) :
    ¬s.Stuck ∧ ∀ e s', s.step e = some s' → (¬s'.Stuck ↔ s.Prompt e) := by
  refine ⟨h.attended.not_stuck, fun e s' hstep => ⟨fun hstuck => ?_, fun hprompt => ?_⟩⟩
  · by_contra hprompt
    cases step_cases hstep with
    | check elapsed => exact hstuck (stuck_check hprompt)
    | tick | tryPush | flush | recheck | timeout | finish | notifyAll | wake =>
      exact hprompt trivial
  · exact (attended_step h.attended hprompt hstep).not_stuck

/-- A retry whose delay is over before the worker looks again. -/
theorem neverStuck_retried : ∃ s : WriteBehindEngine Unit, s.queue.length = 1 ∧
    s.retryCount = 1 ∧ ¬s.Stuck ∧
      ∀ e s', s.step e = some s' → (¬s'.Stuck ↔ s.Prompt e) := by
  have hempty : EngineReaches Prompt ({ opts := {}, clock := 0 } : WriteBehindEngine Unit) :=
    .init ⟨_, _, rfl⟩
  obtain ⟨s, hs, hqueue, hretry⟩ : ∃ s : WriteBehindEngine Unit, EngineReaches Prompt s ∧
      s.queue.length = 1 ∧ s.retryCount = 1 :=
    hempty.exists_runWith [.tryPush (some ()) none, .check 0, .finish false, .tick 100000000,
      .notifyAll] (by decide +kernel)
  exact ⟨s, hqueue, hretry, hs.neverStuck⟩

/-- The worker finds its own retry, which is not yet due. -/
theorem reaches_stuck : ∃ s : WriteBehindEngine Unit,
    EngineReaches (fun _ _ => True) s ∧ s.Stuck := by
  have hempty : EngineReaches (fun _ _ => True)
      ({ opts := {}, clock := 0 } : WriteBehindEngine Unit) := .init ⟨_, _, rfl⟩
  exact hempty.exists_runWith [.tryPush (some ()) none, .check 0, .finish false, .notifyAll,
    .check 0] (by decide +kernel)

/-! ## Tasks that are still to be done -/

/-- The tasks that are to be done, the one that is running first. -/
def tasks (s : WriteBehindEngine τ) : List τ :=
  WorkerAt.running s.worker ++ s.queue.map (·.task)

/-- The idle flag tells of a task that is running. -/
def Flagged (s : WriteBehindEngine τ) : Prop :=
  ∀ entry, s.worker = .executing entry → s.workerIdle = false

theorem tasks_wake (h : s.wake waiter = some s') : s'.tasks = s.tasks := by
  rcases wake_cases h with ⟨hworker | hworker, rfl⟩ | ⟨id, -, rfl⟩
  · rw [tasks, tasks, hworker]
    rfl
  · rw [tasks, tasks, hworker]
    rfl
  · rfl

theorem tasks_notifyOne (h : s.notifyOne notified = some s') : s'.tasks = s.tasks := by
  cases notified with
  | none =>
    simp only [notifyOne] at h
    split_ifs at h
    exact congrArg _ (Option.some.inj h).symm
  | some waiter => exact tasks_wake h

theorem tasks_flush (s : WriteBehindEngine τ) (id : ℕ) : (s.flush id).tasks = s.tasks := by
  unfold flush
  split_ifs
  · rfl
  · rfl

theorem tasks_check (hworker : s.worker = .checking) (elapsed : ℕ) :
    (s.check elapsed).tasks = s.tasks := by
  unfold check tasks
  rw [hworker]
  split
  · rfl
  · rename_i entry queue hqueue
    split_ifs
    · rfl
    · rfl
    · rw [hqueue]
      rfl

/-- A task is added by a push that finds room. -/
theorem tasks_tryPush {task : τ} {notified : Option Waiter}
    (hroom : s.queue.length < s.opts.maxQueueSize) (h : s.tryPush (some task) notified = some s') :
    s'.tasks = s.tasks ++ [task] := by
  simp only [tryPush] at h
  rw [if_neg (by omega)] at h
  rw [tasks_notifyOne h, tasks, tasks, List.append_assoc, List.map_append]
  rfl

/-- A task that succeeds is done, and one that fails with a retry left goes to the end. -/
theorem tasks_finish (s : WriteBehindEngine τ) (entry : TaskEntry τ) (ok : Bool)
    (hretry : ok = false → 0 < entry.retriesLeft) : (s.finish entry ok).tasks =
      s.queue.map (·.task) ++ if ok then [] else [entry.task] := by
  cases ok with
  | true => exact (List.append_nil _).symm
  | false =>
    unfold finish tasks
    rw [if_neg Bool.false_ne_true, if_pos (hretry rfl)]
    exact List.map_append

theorem tasks_step (hstep : s.step e = some s') (hkeeps : e.keepsTasks) : s'.tasks = s.tasks := by
  cases step_cases hstep with
  | tick => rfl
  | tryPush | finish => cases hkeeps
  | flush id => exact tasks_flush s id
  | recheck id => exact tasks_flush { s with woken := s.woken.erase id } id
  | check elapsed hworker => exact tasks_check hworker elapsed
  | timeout hworker | notifyAll hworker =>
    rw [tasks, tasks, hworker]
    rfl
  | wake hwake => exact tasks_wake hwake

theorem flagged_wake (h : s.Flagged) (hwake : s.wake waiter = some s') : s'.Flagged := by
  rcases wake_cases hwake with ⟨-, rfl⟩ | ⟨id, -, rfl⟩
  · exact nofun
  · exact h

theorem flagged_notifyOne (h : s.Flagged)
    (hnotify : s.notifyOne notified = some s') : s'.Flagged := by
  cases notified with
  | none =>
    simp only [notifyOne] at hnotify
    split_ifs at hnotify
    exact Option.some.inj hnotify ▸ h
  | some waiter => exact flagged_wake h hnotify

theorem flagged_flush (h : s.Flagged) (id : ℕ) : (s.flush id).Flagged := by
  unfold flush
  split_ifs
  · exact h
  · exact h

theorem flagged_step (h : s.Flagged) (hstep : s.step e = some s') : s'.Flagged := by
  cases step_cases hstep with
  | tick => exact h
  | tryPush hpush =>
    unfold tryPush at hpush
    split at hpush
    · exact Option.some.inj hpush ▸ h
    · split_ifs at hpush
      · exact Option.some.inj hpush ▸ h
      · refine flagged_notifyOne ?_ hpush
        exact h
  | flush id => exact flagged_flush h id
  | recheck id => exact flagged_flush (s := { s with woken := s.woken.erase id }) h id
  | check elapsed =>
    unfold check
    split
    · exact nofun
    · split_ifs
      · exact nofun
      · exact nofun
      · exact fun _ _ => rfl
  | timeout | finish | notifyAll => exact nofun
  | wake hwake => exact flagged_wake h hwake

/-- A flush returns when nothing is left to be done. -/
theorem tasks_of_flushed (h : s.Flagged) (hflushed : s.flushed) : s.tasks = [] := by
  rw [flushed, Bool.and_eq_true, List.isEmpty_iff] at hflushed
  rw [tasks, hflushed.1]
  cases hworker : s.worker with
  | executing entry =>
    rw [h entry hworker] at hflushed
    cases hflushed.2
  | checking | waiting | sleeping | notifying => rfl

end WriteBehindEngine

end BoostGateway.Persistence
