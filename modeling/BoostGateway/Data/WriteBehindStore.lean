import BoostGateway.Base.Json
import BoostGateway.Base.Run
import BoostGateway.Battle.World

/-!
# The write-behind store

`WriteBehindDataStore` (`write_behind_store.cpp`) puts every save into a queue, and a worker
thread takes the commands out one after the other and carries them out on the delegate. The
steps are the sections under the lock and, between the two sections of the worker, its calls
of the delegate, which answer what they like.

`WriteBehindReaches.accounts` : the delegate gets the commands in their order and each once,
the counters account for every command, and a flush returns when all are carried out.
-/

namespace BoostGateway.Data

open Battle (BattleResultSummary)

/-- What a store keeps of a battle. -/
inductive Artifact
  | replay
  | result
  | snapshot
  deriving DecidableEq

/-- A call of `save_replay`, `save_result` or `save_snapshot`. -/
structure Write where
  artifact : Artifact
  battleId : String
  json : String
  deriving DecidableEq

/-- What is archived of a battle. -/
structure BattleArchive where
  battleId : String
  roomId : String
  reason : String
  triggeringUserId : String
  totalFrames : UInt32 := 0
  participantUserIds : List String
  replayPayload : String
  result : BattleResultSummary

/-- The report that the worker makes of an archive. -/
def BattleArchive.report (archive : BattleArchive) : Json :=
  let scores := archive.result.scores.map fun score => Json.ofMembers
    [("user_id", .string score.userId), ("score", .integer (Int64.ofInt score.score))]
  .ofMembers
    [("battle_id", .string archive.battleId),
      ("room_id", .string archive.roomId),
      ("reason", .string archive.reason),
      ("triggering_user_id", .string archive.triggeringUserId),
      ("total_frames", .unsigned archive.totalFrames.toUInt64),
      ("participants", .array (archive.participantUserIds.map .string)),
      ("winner_user_id", (archive.result.winnerUserId.map .string).getD .null),
      ("scores", .array scores)]

/-- What is queued. -/
inductive WriteCommand
  | save (write : Write)
  | persist (archive : BattleArchive)

/-- The calls of the delegate for a command. A report has no floating-point numbers. -/
def WriteCommand.writes : WriteCommand → List Write
  | .save write => [write]
  | .persist archive =>
    [{ artifact := .result
       battleId := archive.battleId
       json := String.ofList (archive.report.dump (fun _ => []) (some 2) 0) },
      { artifact := .replay, battleId := archive.battleId, json := archive.replayPayload }]

/-- A command between the two sections of the worker, with the calls still to be made. -/
structure Execution where
  todo : List Write
  ok : Bool := true

/-- The last two fields are a record of what was enqueued and of the calls that were made. -/
structure WriteBehindStore where
  queue : List WriteCommand := []
  workerIdle : Bool := true
  enqueuedCount : UInt64 := 0
  flushedCount : UInt64 := 0
  failedCount : UInt64 := 0
  execution : Option Execution := none
  enqueued : List WriteCommand := []
  calls : List Write := []

/-- The counters. -/
structure Stats where
  enqueued : UInt64
  flushed : UInt64
  failed : UInt64
  pending : ℕ
  workerIdle : Bool

/-- The calls, and the turns of the worker. -/
inductive WriteBehindEvent
  | enqueue (command : WriteCommand)
  /-- The first section of the worker takes a command. -/
  | take
  /-- The worker calls the delegate, which answers `ok`. -/
  | call (ok : Bool)
  /-- The second section of the worker. -/
  | finish
  /-- A flush finds its condition true and returns. -/
  | flush

namespace WriteBehindStore

def enqueue (s : WriteBehindStore) (command : WriteCommand) : WriteBehindStore :=
  { s with
    queue := s.queue ++ [command]
    enqueuedCount := s.enqueuedCount + 1
    enqueued := s.enqueued ++ [command] }

def saveReplay (s : WriteBehindStore) (battleId json : String) : WriteBehindStore :=
  s.enqueue (.save { artifact := .replay, battleId, json })

def saveResult (s : WriteBehindStore) (battleId json : String) : WriteBehindStore :=
  s.enqueue (.save { artifact := .result, battleId, json })

def saveSnapshot (s : WriteBehindStore) (battleId json : String) : WriteBehindStore :=
  s.enqueue (.save { artifact := .snapshot, battleId, json })

def persist (s : WriteBehindStore) (archive : BattleArchive) : WriteBehindStore :=
  s.enqueue (.persist archive)

def stats (s : WriteBehindStore) : Stats where
  enqueued := s.enqueuedCount
  flushed := s.flushedCount
  failed := s.failedCount
  pending := s.queue.length
  workerIdle := s.workerIdle

/-- The condition that a flush waits for. -/
def flushed (s : WriteBehindStore) : Bool := s.queue.isEmpty && s.workerIdle

def step (s : WriteBehindStore) : WriteBehindEvent → Option WriteBehindStore
  | .enqueue command => some (s.enqueue command)
  | .take =>
    match s.execution, s.queue with
    | none, command :: queue => some { s with
        queue
        workerIdle := false
        execution := some { todo := command.writes } }
    | _, _ => none
  | .call ok =>
    match s.execution with
    | some { todo := write :: todo, ok := sofar } => some { s with
        execution := some { todo, ok := sofar && ok }
        calls := s.calls ++ [write] }
    | _ => none
  | .finish =>
    match s.execution with
    | some { todo := [], ok } => some { s with
        execution := none
        flushedCount := if ok then s.flushedCount + 1 else s.flushedCount
        failedCount := if ok then s.failedCount else s.failedCount + 1
        workerIdle := true }
    | _ => none
  | .flush => if s.flushed then some s else none

/-- The stores that sections of callers and worker lead to. -/
abbrev WriteBehindReaches : WriteBehindStore → Prop :=
  Reaches (fun s => s = {}) step fun _ _ => True

/-- The calls that are left of the command in execution. -/
def todo (s : WriteBehindStore) : List Write := (s.execution.map (·.todo)).getD []

/-- The calls that are still to be made. -/
def pending (s : WriteBehindStore) : List Write := s.todo ++ s.queue.flatMap WriteCommand.writes

/-- What a store promises of the commands that were enqueued. -/
structure Accounts (s : WriteBehindStore) : Prop where
  /-- The calls made and to be made are those of the commands, in their order. -/
  order : s.enqueued.flatMap WriteCommand.writes = s.calls ++ s.pending
  count : s.stats.enqueued = s.stats.flushed + s.stats.failed + UInt64.ofNat s.stats.pending +
    if s.execution.isSome then 1 else 0
  idle : s.stats.workerIdle = s.execution.isNone
  flush : ∀ s', s.step .flush = some s' → s.enqueued.flatMap WriteCommand.writes = s.calls

variable {s s' : WriteBehindStore}

/-- The invariant of a step. -/
structure Accounted (s : WriteBehindStore) : Prop where
  order : s.enqueued.flatMap WriteCommand.writes = s.calls ++ s.pending
  count : s.enqueuedCount = s.flushedCount + s.failedCount + UInt64.ofNat s.queue.length +
    if s.execution.isSome then 1 else 0
  idle : s.workerIdle = s.execution.isNone

theorem accounted_step {e : WriteBehindEvent} (h : s.Accounted) (hstep : s.step e = some s') :
    s'.Accounted := by
  have horder := h.order
  have hcount := h.count
  unfold pending todo at horder
  cases e with
  | enqueue command =>
    obtain rfl := Option.some.inj hstep
    refine ⟨?_, ?_, h.idle⟩
    · unfold pending todo enqueue
      dsimp only
      rw [List.flatMap_append, horder, List.flatMap_append]
      simp only [List.append_assoc]
    · unfold enqueue
      dsimp only
      rw [hcount, List.length_append, List.length_singleton, UInt64.ofNat_add]
      ac_rfl
  | take =>
    simp only [step] at hstep
    split at hstep
    · rename_i command queue hexecution hqueue
      obtain rfl := Option.some.inj hstep
      refine ⟨?_, ?_, rfl⟩
      · rw [hexecution, hqueue] at horder
        exact horder
      · rw [hexecution, hqueue, List.length_cons, UInt64.ofNat_add] at hcount
        rw [hcount]
        simp
        ac_rfl
    · cases hstep
  | call ok =>
    simp only [step] at hstep
    split at hstep
    · rename_i write todo sofar hexecution
      obtain rfl := Option.some.inj hstep
      rw [hexecution] at horder hcount
      refine ⟨?_, hcount, ?_⟩
      · unfold pending WriteBehindStore.todo
        dsimp only
        rw [horder]
        simp
      · rw [h.idle, hexecution]
        rfl
    · cases hstep
  | finish =>
    simp only [step] at hstep
    split at hstep
    · rename_i ok hexecution
      obtain rfl := Option.some.inj hstep
      rw [hexecution] at horder hcount
      refine ⟨horder, ?_, rfl⟩
      dsimp only
      rw [hcount]
      cases ok with
      | true =>
        simp
        ac_rfl
      | false =>
        simp
        ac_rfl
    · cases hstep
  | flush =>
    simp only [step] at hstep
    split_ifs at hstep
    exact Option.some.inj hstep ▸ h

theorem WriteBehindReaches.accounted (h : WriteBehindReaches s) : s.Accounted := by
  refine h.invariant (P := Accounted) ?_ fun s e s' hs _ hstep => accounted_step hs hstep
  rintro s rfl
  exact ⟨rfl, rfl, rfl⟩

theorem Accounted.pending_of_flushed (h : s.Accounted) (hflushed : s.flushed) :
    s.pending = [] := by
  rw [flushed, Bool.and_eq_true, h.idle, Option.isNone_iff_eq_none, List.isEmpty_iff] at hflushed
  rw [pending, todo, hflushed.1, hflushed.2]
  rfl

theorem WriteBehindReaches.accounts (h : WriteBehindReaches s) : s.Accounts := by
  have haccounted := h.accounted
  refine ⟨haccounted.order, haccounted.count, haccounted.idle, fun s' hstep => ?_⟩
  simp only [step] at hstep
  split_ifs at hstep with hflushed
  rw [haccounted.order, haccounted.pending_of_flushed hflushed, List.append_nil]

/-- Two saves, of which the first is being carried out. -/
theorem accounts_busy : ∃ s : WriteBehindStore,
    s.stats.pending = 1 ∧ s.execution.isSome ∧ s.Accounts := by
  have hempty : WriteBehindReaches {} := .init rfl
  obtain ⟨s, hs, hpending, hexecution⟩ : ∃ s : WriteBehindStore, WriteBehindReaches s ∧
      s.stats.pending = 1 ∧ s.execution.isSome :=
    hempty.exists_runWith [.enqueue (.save ⟨.replay, "b", "1"⟩),
      .enqueue (.save ⟨.result, "b", "2"⟩), .take, .call false] (by decide +kernel)
  exact ⟨s, hpending, hexecution, hs.accounts⟩

end WriteBehindStore

end BoostGateway.Data
