import Mathlib.Algebra.Group.Nat.Defs
import Mathlib.Algebra.Ring.Int.Defs
import Mathlib.Data.List.AList
import Mathlib.Data.Fintype.Basic
import Mathlib.Logic.Function.Basic
import BoostGateway.Base.Run

/-!
# The matchmaking service

The queues of `MatchmakingService` without Raft (`matchmaking_service.cpp`), with
every `MatchQueue` operation and every `apply_match_found` as one step. A thread is
a `Task` : a join handler that has added its player and now looks for a match
(`try_match_mode`), or the thread of `Matchmaker::run`, which goes round the three
modes for ever and purges the players that wait too long.

`try_match_mode` reads the queue twice under separate locks, once for the anchors
and once per anchor for the eligible players, and the players leave the queue only
when the result is applied. `std::sort` is not stable, so a step that sorts takes
its order from outside and only checks it (`ByQueueTime`). The run keeps the joins
and the stored results in `events`.
-/

namespace BoostGateway.Match

/-- The name of a user. -/
abbrev UserId := String

/-- The modes. -/
inductive MatchMode
  | k1v1
  | k2v2
  | k4v4
  deriving DecidableEq, Repr

instance : Fintype MatchMode := ⟨{.k1v1, .k2v2, .k4v4}, fun mode => by cases mode <;> decide⟩

/-- `players_for_mode`. -/
def playersForMode : MatchMode → ℕ
  | .k1v1 => 2
  | .k2v2 => 4
  | .k4v4 => 8

/-- The mode the loop of `Matchmaker::run` comes to next. -/
def MatchMode.next : MatchMode → MatchMode
  | .k1v1 => .k2v2
  | .k2v2 => .k4v4
  | .k4v4 => .k1v1

/-- A player in a queue. -/
structure MatchPlayer where
  userId : UserId
  mmr : ℤ := 1000
  queuedAtMs : ℕ := 0
  mode : MatchMode := .k1v1
  deriving DecidableEq

/-- A match. -/
structure MatchResult where
  matchId : String
  mode : MatchMode
  playerIds : List UserId
  avgMmr : ℤ
  deriving DecidableEq

/-! ## A queue -/

/-- The players of one mode in the order they joined. -/
abbrev MatchQueue := List MatchPlayer

namespace MatchQueue

variable (q : MatchQueue)

/-- The users in the queue. -/
def userIds : List UserId := q.map MatchPlayer.userId

/-- A new entry replaces the user's old one. -/
def add (player : MatchPlayer) : MatchQueue :=
  q.filter (·.userId ≠ player.userId) ++ [player]

/-- `remove`. -/
def remove (userId : UserId) : MatchQueue := q.eraseP (·.userId = userId)

/-- The players `get_eligible` collects, before it sorts them. -/
def eligible (mmrCenter mmrRange : ℤ) : List MatchPlayer :=
  q.filter fun p =>
    (if mmrCenter < p.mmr then p.mmr - mmrCenter else mmrCenter - p.mmr) ≤ mmrRange

/-- `remove_players`. -/
def removePlayers (userIds : List UserId) : MatchQueue :=
  userIds.foldl (fun q uid => q.filter (·.userId ≠ uid)) q

/-- `expired_players` at the time `now`; the subtraction is in 64 bits. -/
def expiredPlayers (now maxWaitMs : ℕ) : List UserId :=
  userIds (q.filter fun p => maxWaitMs < (now + (2 ^ 64 - p.queuedAtMs)) % 2 ^ 64)

/-- `order` lists `players` by their time in the queue. -/
def ByQueueTime (players order : List MatchPlayer) : Prop :=
  order.Perm players ∧ order.Pairwise fun a b => a.queuedAtMs ≤ b.queuedAtMs

instance (players order : List MatchPlayer) : Decidable (ByQueueTime players order) :=
  inferInstanceAs (Decidable (_ ∧ _))

theorem mem_userIds_add {q : MatchQueue} {p : MatchPlayer} {u : UserId} :
    u ∈ (q.add p).userIds ↔ u = p.userId ∨ u ∈ q.userIds := by
  simp only [add, userIds, List.map_append, List.mem_append, List.map_cons, List.map_nil,
    List.mem_singleton, List.mem_map, List.mem_filter]
  constructor
  · rintro (⟨x, ⟨hx, -⟩, rfl⟩ | hu)
    · exact Or.inr ⟨x, hx, rfl⟩
    · exact Or.inl hu
  · rintro (hu | ⟨x, hx, rfl⟩)
    · exact Or.inr hu
    · by_cases hxp : x.userId = p.userId
      · exact Or.inr hxp
      · exact Or.inl ⟨x, ⟨hx, by simpa using hxp⟩, rfl⟩

theorem userIds_remove_subset (u : UserId) : (q.remove u).userIds ⊆ q.userIds :=
  (List.eraseP_sublist.map MatchPlayer.userId).subset

theorem mem_userIds_removePlayers {us : List UserId} {q : MatchQueue} {u : UserId} :
    u ∈ (q.removePlayers us).userIds ↔ u ∈ q.userIds ∧ u ∉ us := by
  induction us generalizing q with
  | nil => simp [removePlayers]
  | cons v us ih =>
    rw [removePlayers, List.foldl_cons, ← removePlayers, ih]
    have hfilter : u ∈ userIds (q.filter (·.userId ≠ v)) ↔ u ∈ q.userIds ∧ u ≠ v := by
      simp only [userIds, List.mem_map, List.mem_filter]
      constructor
      · rintro ⟨x, ⟨hx, hne⟩, rfl⟩
        exact ⟨⟨x, hx, rfl⟩, by simpa using hne⟩
      · rintro ⟨⟨x, hx, rfl⟩, hne⟩
        exact ⟨x, ⟨hx, by simpa using hne⟩, rfl⟩
    rw [hfilter, List.mem_cons, not_or, and_assoc]

end MatchQueue

/-! ## The service -/

/-- Where a thread stands. `periodic` tells the thread of `Matchmaker::run` from a
join handler. -/
inductive Task
  /-- Before `snapshot_by_queue_time`. -/
  | snapshot (mode : MatchMode) (periodic : Bool)
  /-- In the loop over the anchors. -/
  | scan (mode : MatchMode) (anchors : List MatchPlayer) (periodic : Bool)
  /-- With enough eligible players. -/
  | picked (mode : MatchMode) (eligible : List MatchPlayer) (periodic : Bool)
  /-- Before `apply_match_found`. -/
  | found (result : MatchResult) (periodic : Bool)
  /-- Before `expired_players`. -/
  | expire (mode : MatchMode)
  /-- Before `apply_match_purge`. -/
  | purge (mode : MatchMode) (userIds : List UserId)
  | finished
  deriving DecidableEq

/-- What the log of the model records. -/
inductive MatchEvent
  | joined (userId : UserId)
  | stored (result : MatchResult)
  deriving DecidableEq

/-- The queues and the tasks. -/
structure Matchmaking where
  mmrRangeInitial : ℤ := 100
  maxWaitMs : ℕ := 30000
  queues : MatchMode → MatchQueue := fun _ => []
  /-- The thread of `Matchmaker::run` and the join handlers. -/
  tasks : List Task := [.snapshot .k1v1 true]
  /-- `g_next_match_id`, a 64-bit counter. -/
  nextMatchId : ℕ := 1
  pendingMatches : AList fun _ : String => MatchResult := ∅
  events : List MatchEvent := []

/-- What happens to the queues. -/
inductive MatchAction
  | join (player : MatchPlayer)
  | leave (mode : MatchMode) (userId : UserId)
  /-- Thread `i` takes its next step, at the time `now`, with what a sort gives it. -/
  | run (i : ℕ) (order : List MatchPlayer) (now : ℕ)
  deriving DecidableEq

namespace Matchmaking

variable (s : Matchmaking)

def setQueue (mode : MatchMode) (q : MatchQueue) : Matchmaking :=
  { s with queues := Function.update s.queues mode q }

def setTask (i : ℕ) (t : Task) : Matchmaking :=
  { s with tasks := s.tasks.set i t }

/-- Where a thread goes on after `try_match_mode`. -/
def afterCheck (mode : MatchMode) (periodic : Bool) : Task :=
  if periodic then .expire mode else .finished

/-- The result `try_match_mode` builds from the first players in the list. -/
def makeResult (id : ℕ) (mode : MatchMode) (eligible : List MatchPlayer) : MatchResult :=
  let players := eligible.take (playersForMode mode)
  { matchId := "match_" ++ toString id
    mode := mode
    playerIds := players.map MatchPlayer.userId
    avgMmr := (players.map MatchPlayer.mmr).sum.tdiv (playersForMode mode) }

/-- `apply_match_found`. -/
def applyMatchFound (result : MatchResult) : Matchmaking :=
  { s.setQueue result.mode ((s.queues result.mode).removePlayers result.playerIds) with
    pendingMatches := s.pendingMatches.insert result.matchId result
    events := s.events ++ [.stored result] }

/-- The next step of a thread. -/
def runTask (i : ℕ) (order : List MatchPlayer) (now : ℕ) :
    Task → Option Matchmaking
  | .snapshot mode periodic =>
    if MatchQueue.ByQueueTime (s.queues mode) order then
      some (s.setTask i (.scan mode order periodic))
    else none
  | .scan mode [] periodic => some (s.setTask i (afterCheck mode periodic))
  | .scan mode (anchor :: anchors) periodic =>
    if MatchQueue.ByQueueTime ((s.queues mode).eligible anchor.mmr s.mmrRangeInitial) order then
      some (s.setTask i
        (if playersForMode mode ≤ order.length then .picked mode order periodic
          else .scan mode anchors periodic))
    else none
  | .picked mode eligible periodic =>
    some ({ s with nextMatchId := (s.nextMatchId + 1) % 2 ^ 64 }.setTask i
      (.found (makeResult s.nextMatchId mode eligible) periodic))
  | .found result periodic =>
    some ((s.applyMatchFound result).setTask i (afterCheck result.mode periodic))
  | .expire mode =>
    let expired := (s.queues mode).expiredPlayers now s.maxWaitMs
    some (s.setTask i
      (if expired = [] then .snapshot mode.next true else .purge mode expired))
  | .purge mode userIds =>
    some ((s.setQueue mode ((s.queues mode).removePlayers userIds)).setTask i
      (.snapshot mode.next true))
  | .finished => none

/-- One call, or one turn of a task. -/
def step : MatchAction → Option Matchmaking
  | .join player =>
    some { s.setQueue player.mode ((s.queues player.mode).add player) with
      tasks := s.tasks ++ [.snapshot player.mode false]
      events := s.events ++ [.joined player.userId] }
  | .leave mode userId => some (s.setQueue mode ((s.queues mode).remove userId))
  | .run i order now =>
    match s.tasks[i]? with
    | none => none
    | some t => s.runTask i order now t

/-- What a thread can do : only look, take a number for a match, store a match, or purge. -/
theorem runTask_cases {s s' : Matchmaking} {i now : ℕ} {order : List MatchPlayer} {t : Task}
    (h : s.runTask i order now t = some s') :
    (∃ t', (∀ result periodic, t' ≠ .found result periodic) ∧ s' = s.setTask i t') ∨
    (∃ mode eligible periodic, t = .picked mode eligible periodic ∧
      s' = { s with nextMatchId := (s.nextMatchId + 1) % 2 ^ 64 }.setTask i
        (.found (makeResult s.nextMatchId mode eligible) periodic)) ∨
    (∃ result periodic, t = .found result periodic ∧
      s' = (s.applyMatchFound result).setTask i (afterCheck result.mode periodic)) ∨
    (∃ mode userIds, t = .purge mode userIds ∧
      s' = (s.setQueue mode ((s.queues mode).removePlayers userIds)).setTask i
        (.snapshot mode.next true)) := by
  cases t with
  | snapshot mode periodic =>
    simp only [runTask] at h
    split_ifs at h
    exact .inl ⟨_, by simp, (Option.some_inj.mp h).symm⟩
  | scan mode anchors periodic =>
    cases anchors with
    | nil =>
      refine .inl ⟨_, fun result p => ?_, (Option.some_inj.mp h).symm⟩
      unfold afterCheck
      split_ifs <;> simp
    | cons anchor anchors =>
      simp only [runTask] at h
      split_ifs at h
      all_goals exact .inl ⟨_, by simp, (Option.some_inj.mp h).symm⟩
  | picked mode eligible periodic =>
    exact .inr (.inl ⟨mode, eligible, periodic, rfl, (Option.some_inj.mp h).symm⟩)
  | found result periodic =>
    exact .inr (.inr (.inl ⟨result, periodic, rfl, (Option.some_inj.mp h).symm⟩))
  | expire mode =>
    refine .inl ⟨_, fun result p => ?_, (Option.some_inj.mp h).symm⟩
    split_ifs <;> simp
  | purge mode userIds =>
    exact .inr (.inr (.inr ⟨mode, userIds, rfl, (Option.some_inj.mp h).symm⟩))
  | finished => simp [runTask] at h

/-- The states a service with the given configuration reaches by actions that meet `ok`. -/
abbrev Reaches (ok : Matchmaking → MatchAction → Prop) : Matchmaking → Prop :=
  BoostGateway.Reaches (fun s => ∃ mmrRange maxWait,
    s = { mmrRangeInitial := mmrRange, maxWaitMs := maxWait }) step ok

end Matchmaking

end BoostGateway.Match
