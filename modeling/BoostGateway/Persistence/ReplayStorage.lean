import BoostGateway.Base.JsonRoundTrip
import BoostGateway.Persistence.WriteBehindEngine
import Mathlib.Data.List.Find
import Mathlib.Logic.Function.Basic

/-!
# The replay storage

`ReplayStorage` (`replay_storage.cpp`) writes every replay into a file of its own, with a
task of a write-behind engine. A task that fails is put back behind the newer ones, so an older
replay may be written last.

The file that a path names is up to the operating system (`resolve`). A write that fails
leaves the file as it was, or with a part of the text.

The queue keeps the writes of one file in the order of their stores, as long as none fails
before another one of its file : then the last one of them has the newest replay (`Written`).
`StorageReaches.lastReplayWins` : so once a flush returns, the last replay of a battle is read.
`not_lastReplayWins` : a retry may end last.
-/

namespace BoostGateway.Persistence

open Json (Readable Same)

/-- What the task of a store captures. -/
structure ReplayWrite where
  path : String
  payload : Bytes

/-- `ReplayStorage`. -/
structure ReplayStorage (ι : Type*) where
  storageDir : String
  engine : WriteBehindEngine ReplayWrite
  /-- What is in the files. -/
  files : ι → Option Bytes
  /-- A record of the stores that were successful, the last one first. -/
  stored : List (String × Json) := []

/-- A store, or a turn of the engine. -/
inductive StorageEvent
  | store (instanceId : String) (framesJson : Json) (notified : Option Waiter)
  /-- A step of the engine that neither adds nor ends a task. -/
  | engine (event : EngineEvent ReplayWrite)
  | writes
  /-- The file cannot be opened, or some bytes of the text are written. -/
  | fails (written : Option ℕ)

namespace ReplayStorage

/-- `operator/` of two paths. -/
def joinPath (dir file : String) : String :=
  if dir = "" ∨ file.toList.head? = some '/' then file
  else if dir.toList.getLast? = some '/' then dir ++ file
  else dir ++ "/" ++ file

variable {ι : Type*} [DecidableEq ι] (resolve : String → ι) (floatText : Float → List Char)

def replayPath (s : ReplayStorage ι) (instanceId : String) : String :=
  joinPath s.storageDir (instanceId ++ ".json")

/-- The text of a replay. -/
def payloadOf (framesJson : Json) : Bytes :=
  encodeUtf8 (framesJson.dump floatText (some 2) 0)

/-- A store is successful when the queue of the engine has room. -/
def storeReplay (s : ReplayStorage ι) (instanceId : String) (framesJson : Json)
    (notified : Option Waiter) : Option (ReplayStorage ι) :=
  let write := { path := s.replayPath instanceId, payload := payloadOf floatText framesJson }
  (s.engine.tryPush (some write) notified).map fun engine => { s with
    engine
    stored :=
      if s.engine.queue.length < s.engine.opts.maxQueueSize then
        (instanceId, framesJson) :: s.stored
      else s.stored }

def getReplay (s : ReplayStorage ι) (instanceId : String) : Option Json :=
  (s.files (resolve (s.replayPath instanceId))).bind (Json.parse false)

def step (s : ReplayStorage ι) : StorageEvent → Option (ReplayStorage ι)
  | .store instanceId framesJson notified =>
    s.storeReplay floatText instanceId framesJson notified
  | .engine event =>
    if event.keepsTasks then (s.engine.step event).map fun engine => { s with engine } else none
  | .writes =>
    match s.engine.worker with
    | .executing entry => some { s with
        engine := s.engine.finish entry true
        files := Function.update s.files (resolve entry.task.path) (some entry.task.payload) }
    | _ => none
  | .fails written =>
    match s.engine.worker with
    | .executing entry => some { s with
        engine := s.engine.finish entry false
        files := match written with
          | none => s.files
          | some n => Function.update s.files (resolve entry.task.path)
              (some (entry.task.payload.take n)) }
    | _ => none

/-- The storages reached by steps that meet a condition. -/
abbrev StorageReaches (ok : ReplayStorage ι → StorageEvent → Prop) : ReplayStorage ι → Prop :=
  Reaches (fun s => ∃ storageDir clock files,
    s = { storageDir, engine := { opts := {}, clock }, files }) (step resolve floatText) ok

/-- A task that fails has a retry left. -/
def WithinBudget (s : ReplayStorage ι) : StorageEvent → Prop
  | .fails _ =>
    match s.engine.worker with
    | .executing entry => 0 < entry.retriesLeft
    | _ => True
  | _ => True

/-- The newest replay stored in a file. -/
def newest (s : ReplayStorage ι) (file : ι) : Option (String × Json) :=
  s.stored.find? fun store => resolve (s.replayPath store.1) = file

/-- Two battles have two files, and a write that fails has no other one of its file behind it in
the queue. -/
def Orderly (s : ReplayStorage ι) : StorageEvent → Prop
  | .store instanceId _ _ => ∀ other ∈ s.stored,
    resolve (s.replayPath other.1) = resolve (s.replayPath instanceId) → other.1 = instanceId
  | .fails _ =>
    match s.engine.worker with
    | .executing entry => ∀ other ∈ s.engine.queue,
      resolve other.task.path ≠ resolve entry.task.path
    | _ => True
  | _ => True

instance (s : ReplayStorage ι) : (e : StorageEvent) → Decidable (s.WithinBudget e)
  | .fails _ => by
    unfold WithinBudget
    cases s.engine.worker <;> infer_instance
  | .store _ _ _ | .engine _ | .writes => inferInstanceAs (Decidable True)

instance (s : ReplayStorage ι) : (e : StorageEvent) → Decidable (s.Orderly resolve e)
  | .store instanceId _ _ => inferInstanceAs (Decidable (∀ other ∈ s.stored,
    resolve (s.replayPath other.1) = resolve (s.replayPath instanceId) → other.1 = instanceId))
  | .fails _ => by
    unfold Orderly
    cases s.engine.worker <;> infer_instance
  | .writes | .engine _ => inferInstanceAs (Decidable True)

/-- The replay that was last stored for the battle. -/
def lastStored (s : ReplayStorage ι) (instanceId : String) : Option Json :=
  (s.stored.find? fun store => store.1 = instanceId).map (·.2)

/-- What a storage promises when a flush returns. -/
def LastReplayWins (s : ReplayStorage ι) : Prop :=
  s.engine.flushed → ∀ instanceId framesJson, s.lastStored instanceId = some framesJson →
    ∃ doc, s.getReplay resolve instanceId = some doc ∧ Same doc framesJson

/-- The last one of the writes that is of the file. -/
def lastWrite (writes : List ReplayWrite) (file : ι) : Option ReplayWrite :=
  (writes.filter fun write => resolve write.path = file).getLast?

/-- The newest replay of a file is what its last write in the queue has, and where none is left
to be done it is in the file. -/
structure Written (s : ReplayStorage ι) : Prop where
  flagged : s.engine.Flagged
  named : ∀ a ∈ s.stored, ∀ b ∈ s.stored,
    resolve (s.replayPath a.1) = resolve (s.replayPath b.1) → a.1 = b.1
  written : ∀ file store, s.newest resolve file = some store →
    ((lastWrite resolve s.engine.tasks file).map (·.payload)).or (s.files file) =
      some (payloadOf floatText store.2)

variable {resolve floatText} {s s' : ReplayStorage ι}

theorem lastWrite_concat (writes : List ReplayWrite) (write : ReplayWrite) (file : ι) :
    lastWrite resolve (writes ++ [write]) file =
      if resolve write.path = file then some write else lastWrite resolve writes file := by
  rw [lastWrite, List.filter_append, List.getLast?_append]
  split_ifs with hfile
  · simp [hfile]
  · simp [hfile, lastWrite]

theorem lastWrite_cons (write : ReplayWrite) (writes : List ReplayWrite) (file : ι) :
    lastWrite resolve (write :: writes) file = (lastWrite resolve writes file).or
      (if resolve write.path = file then some write else none) := by
  rw [lastWrite, ← List.singleton_append, List.filter_append, List.getLast?_append]
  split_ifs with hfile
  · simp [hfile, lastWrite]
  · simp [hfile, lastWrite]

theorem lastWrite_eq_none {writes : List ReplayWrite} {file : ι}
    (h : ∀ write ∈ writes, resolve write.path ≠ file) : lastWrite resolve writes file = none := by
  rw [lastWrite, List.getLast?_eq_none_iff, List.filter_eq_nil_iff]
  simpa using h

theorem written_store (h : s.Written resolve floatText)
    {instanceId : String} {framesJson : Json} {notified : Option Waiter}
    (horderly : s.Orderly resolve (.store instanceId framesJson notified))
    (hstep : s.storeReplay floatText instanceId framesJson notified = some s') :
    s'.Written resolve floatText := by
  obtain ⟨engine, hpush, rfl⟩ := Option.map_eq_some_iff.mp hstep
  have hflagged : engine.Flagged := WriteBehindEngine.flagged_step
    (e := .tryPush (some _) notified) h.flagged hpush
  by_cases hroom : s.engine.queue.length < s.engine.opts.maxQueueSize
  · have htasks := WriteBehindEngine.tasks_tryPush hroom hpush
    rw [if_pos hroom]
    refine ⟨hflagged, fun a ha b hb hfile => ?_, fun file store hnewest => ?_⟩
    · rcases List.mem_cons.mp ha with rfl | ha
      · rcases List.mem_cons.mp hb with rfl | hb
        · rfl
        · exact (horderly b hb hfile.symm).symm
      · rcases List.mem_cons.mp hb with rfl | hb
        · exact horderly a ha hfile
        · exact h.named a ha b hb hfile
    · change ((lastWrite resolve engine.tasks file).map _).or (s.files file) = _
      rw [htasks, lastWrite_concat]
      by_cases hfile : resolve (s.replayPath instanceId) = file
      · have hthis : some (instanceId, framesJson) = some store := by
          rw [← hnewest]
          exact (List.find?_cons_of_pos (by exact decide_eq_true hfile)).symm
        rw [if_pos hfile, ← Option.some.inj hthis]
        rfl
      · have hold : s.newest resolve file = some store := by
          rw [← hnewest]
          exact (List.find?_cons_of_neg (by simpa using hfile)).symm
        rw [if_neg hfile]
        exact h.written file store hold
  · rw [if_neg hroom]
    have hengine : engine = s.engine := by
      simp only [WriteBehindEngine.tryPush] at hpush
      rw [if_pos (by omega)] at hpush
      exact (Option.some.inj hpush).symm
    subst hengine
    exact h

theorem written_engine (h : s.Written resolve floatText)
    {engine : WriteBehindEngine ReplayWrite} (hflagged : engine.Flagged)
    (htasks : engine.tasks = s.engine.tasks) :
    ({ s with engine } : ReplayStorage ι).Written resolve floatText := by
  refine ⟨hflagged, h.named, fun file store hnewest => ?_⟩
  change ((lastWrite resolve engine.tasks file).map _).or (s.files file) = _
  rw [htasks]
  exact h.written file store hnewest

theorem tasks_of_executing {engine : WriteBehindEngine ReplayWrite} {entry : TaskEntry ReplayWrite}
    (h : engine.worker = .executing entry) :
    engine.tasks = entry.task :: engine.queue.map (·.task) := by
  rw [WriteBehindEngine.tasks, h]
  rfl

theorem written_writes (h : s.Written resolve floatText)
    (hstep : s.step resolve floatText .writes = some s') : s'.Written resolve floatText := by
  simp only [step] at hstep
  split at hstep
  · rename_i entry hworker
    obtain rfl := Option.some.inj hstep
    have htasks := WriteBehindEngine.tasks_finish s.engine entry true nofun
    refine ⟨nofun, h.named, fun file store hnewest => ?_⟩
    change ((lastWrite resolve (s.engine.finish entry true).tasks file).map _).or
      (Function.update s.files _ _ file) = _
    rw [htasks, if_pos rfl, List.append_nil]
    have hold := h.written file store hnewest
    rw [tasks_of_executing hworker, lastWrite_cons] at hold
    by_cases hfile : file = resolve entry.task.path
    · -- the write that ends is the last one of the file, or another one is behind it
      rw [if_pos hfile.symm] at hold
      cases hlast : lastWrite resolve (s.engine.queue.map (·.task)) file with
      | none =>
        rw [hlast] at hold
        rw [hfile, Function.update_self]
        exact hold
      | some write =>
        rw [hlast] at hold
        exact hold
    · rw [if_neg (Ne.symm hfile), Option.or_none] at hold
      rw [Function.update_of_ne hfile]
      exact hold
  · cases hstep

theorem written_fails (h : s.Written resolve floatText) {written : Option ℕ}
    (hbudget : s.WithinBudget (.fails written)) (horderly : s.Orderly resolve (.fails written))
    (hstep : s.step resolve floatText (.fails written) = some s') :
    s'.Written resolve floatText := by
  simp only [step] at hstep
  split at hstep
  · rename_i entry hworker
    obtain rfl := Option.some.inj hstep
    simp only [WithinBudget, hworker] at hbudget
    simp only [Orderly, hworker] at horderly
    have htasks := WriteBehindEngine.tasks_finish s.engine entry false fun _ => hbudget
    refine ⟨nofun, h.named, fun file store hnewest => ?_⟩
    change ((lastWrite resolve (s.engine.finish entry false).tasks file).map _).or _ = _
    rw [htasks, if_neg Bool.false_ne_true, lastWrite_concat]
    have hold := h.written file store hnewest
    rw [tasks_of_executing hworker, lastWrite_cons] at hold
    by_cases hfile : file = resolve entry.task.path
    · -- the retry is the only write of the file
      have hnone : lastWrite resolve (s.engine.queue.map (·.task)) file = none := by
        refine lastWrite_eq_none fun write hwrite => ?_
        obtain ⟨other, hother, rfl⟩ := List.mem_map.mp hwrite
        exact hfile ▸ horderly other hother
      rw [hnone, if_pos hfile.symm] at hold
      rw [if_pos hfile.symm]
      exact hold
    · rw [if_neg (Ne.symm hfile), Option.or_none] at hold
      rw [if_neg (Ne.symm hfile)]
      cases written with
      | none => exact hold
      | some n =>
        change _ = some _
        dsimp only
        rw [Function.update_of_ne hfile]
        exact hold
  · cases hstep

theorem written_step {e : StorageEvent} (h : s.Written resolve floatText)
    (hbudget : s.WithinBudget e) (horderly : s.Orderly resolve e)
    (hstep : s.step resolve floatText e = some s') : s'.Written resolve floatText := by
  cases e with
  | store instanceId framesJson notified => exact written_store h horderly hstep
  | engine event =>
    simp only [step] at hstep
    split_ifs at hstep with hkeeps
    obtain ⟨engine, hengine, rfl⟩ := Option.map_eq_some_iff.mp hstep
    refine written_engine h (WriteBehindEngine.flagged_step h.flagged hengine) ?_
    exact WriteBehindEngine.tasks_step hengine hkeeps
  | writes => exact written_writes h hstep
  | fails written => exact written_fails h hbudget horderly hstep

theorem StorageReaches.written
    (h : StorageReaches resolve floatText
      (fun s e => s.WithinBudget e ∧ s.Orderly resolve e) s) :
    s.Written resolve floatText := by
  refine h.invariant (P := Written resolve floatText) ?_ fun s e s' hs hok hstep =>
    written_step hs hok.1 hok.2 hstep
  rintro s ⟨storageDir, clock, files, rfl⟩
  exact ⟨nofun, (fun _ h => nomatch h), nofun⟩

/-- The newest replay of the file of a battle is the one last stored for it. -/
theorem newest_of_lastStored (h : s.Written resolve floatText) {instanceId : String}
    {framesJson : Json} (hlast : s.lastStored instanceId = some framesJson) :
    s.newest resolve (resolve (s.replayPath instanceId)) = some (instanceId, framesJson) := by
  obtain ⟨⟨id, doc⟩, hfind, rfl⟩ := Option.map_eq_some_iff.mp hlast
  obtain rfl : id = instanceId := by simpa using List.find?_some hfind
  have hmem := List.mem_of_find?_eq_some hfind
  rw [newest, ← hfind]
  refine List.find?_congr fun other hother => ?_
  rw [decide_eq_decide]
  constructor
  · exact fun heq => h.named other hother _ hmem heq
  · exact fun heq => heq ▸ rfl

theorem StorageReaches.lastReplayWins
    (h : StorageReaches resolve floatText
      (fun s e => s.WithinBudget e ∧ s.Orderly resolve e) s)
    (hflushed : s.engine.flushed) {instanceId : String} {framesJson : Json}
    (hlast : s.lastStored instanceId = some framesJson) (hdoc : Readable floatText framesJson) :
    ∃ doc, s.getReplay resolve instanceId = some doc ∧ Same doc framesJson := by
  have hwritten := h.written
  refine ⟨framesJson.asRead, ?_, Json.same_asRead framesJson⟩
  have hfile := hwritten.written _ _ (newest_of_lastStored hwritten hlast)
  rw [WriteBehindEngine.tasks_of_flushed hwritten.flagged hflushed] at hfile
  rw [getReplay, show s.files _ = _ from hfile]
  exact Json.parse_dump_of_readable hdoc false 0

/-- A storage without files, in a directory where every path names its own file. -/
def empty : ReplayStorage String where
  storageDir := "runtime/data/replays"
  engine := { opts := {}, clock := 0 }
  files _ := none

/-- A replay that is a number. -/
def number? : Json → Option UInt64
  | .unsigned n => some n
  | _ => none

theorem eq_of_number? {doc : Option Json} {n : UInt64} (h : doc.bind number? = some n) :
    doc = some (.unsigned n) := by
  obtain ⟨j, rfl, hj⟩ := Option.bind_eq_some_iff.mp h
  cases j with
  | unsigned m => rw [Option.some.inj hj]
  | null | bool _ | integer _ | float _ | string _ | array _ | object _ => cases hj

/-- The first write of a battle fails, and its retry is done before the second one. -/
theorem lastReplayWins_retried : ∃ s : ReplayStorage String, s.engine.retryCount = 1 ∧
    s.stored.length = 2 ∧ s.engine.flushed ∧
    ∃ doc, s.getReplay id "a" = some doc ∧ Same doc (.unsigned 2) := by
  have hempty : StorageReaches id (fun _ => []) (fun s e => s.WithinBudget e ∧
      s.Orderly id e) empty := .init ⟨_, _, _, rfl⟩
  obtain ⟨s, hs, hretry, htwo, hflushed, hstored⟩ : ∃ s : ReplayStorage String,
      StorageReaches id (fun _ => []) (fun s e => s.WithinBudget e ∧ s.Orderly id e) s ∧
        s.engine.retryCount = 1 ∧ s.stored.length = 2 ∧ s.engine.flushed ∧
        (s.lastStored "a").bind number? = some 2 :=
    hempty.exists_runWith [.store "a" (.unsigned 1) none, .engine (.check 0), .fails none,
      .store "a" (.unsigned 2) none, .engine (.tick 100000000), .engine .notifyAll,
      .engine (.check 0), .writes, .engine .notifyAll, .engine (.check 0), .writes]
      (by decide +kernel)
  exact ⟨s, hretry, htwo, hflushed, hs.lastReplayWins hflushed (eq_of_number? hstored) trivial⟩

/-- The first replay is written after the second one, as a retry. -/
theorem not_lastReplayWins : ¬∀ s : ReplayStorage String,
    StorageReaches id (fun _ => []) WithinBudget s → s.LastReplayWins id := by
  intro h
  have hempty : StorageReaches id (fun _ => []) WithinBudget empty := .init ⟨_, _, _, rfl⟩
  obtain ⟨s, hs, hflushed, hstored, hread⟩ : ∃ s : ReplayStorage String,
      StorageReaches id (fun _ => []) WithinBudget s ∧ s.engine.flushed ∧
        (s.lastStored "a").bind number? = some 2 ∧ (s.getReplay id "a").bind number? = some 1 :=
    hempty.exists_runWith [.store "a" (.unsigned 1) none, .engine (.check 0),
      .store "a" (.unsigned 2) none, .fails none, .engine .notifyAll, .engine (.check 0), .writes,
      .engine .notifyAll, .engine (.tick 100000000), .engine (.check 0), .writes]
      (by decide +kernel)
  obtain ⟨doc, hdoc, hsame⟩ := h s hs hflushed "a" _ (eq_of_number? hstored)
  obtain rfl := Option.some.inj ((eq_of_number? hread).symm.trans hdoc)
  have hnumber : (1 : UInt64) = 2 := Json.unsigned.inj hsame
  exact absurd hnumber (by decide)

end ReplayStorage

end BoostGateway.Persistence
