import Mathlib
import BoostGateway.Battle.World
import BoostGateway.Leaderboard.Idempotency
import BoostGateway.Room.Atomicity

/-!
# Scores on their way to the leaderboard

The gateway submits the scores of a `battle_finished` push to the leaderboard
(`submit_battle_finished_push_to_leaderboard` and
`submit_battle_settlement_to_leaderboard`, `runtime.cpp:2479-2550`), each score under the
key `battle_id:user_id`. Two sets suppress a repetition : `leaderboard_settlement_keys_`
of the gateway, from which a key is erased when its submit fails, and
`applied_idempotency_keys_` of the leaderboard. Both live in memory, and so does the
counter from which a room backend takes its battle ids. A battle that the gateway runs
itself is not submitted.

A run lets the room backends, the gateway and the leaderboard take their steps in any
order, with restarts of each in between. What the network does is given with each submit :
the requests that the leaderboard gets, one for each attempt, and whether the gateway sees
the answer to the last.

`scores_settled_once` : if one run of one room backend starts all the battles, fewer than
its counter can count, and no push brings back a score that was taken and whose key the
restarts have taken from both sets, then the keys of different battles are different and no
score is applied twice. A room backend that restarts gives the first battle after it the id
of the first battle before (`not_settled_restart`).
-/

namespace BoostGateway.Gateway

open Json Battle Leaderboard Room

/-! ## The submits of a push -/

/-- What `submit_battle_settlement_to_leaderboard` is called with. -/
structure FinishedPush where
  battleId : String
  roomId : String
  reason : String
  scores : List BattleScore
  deriving DecidableEq

/-- One element of `push["scores"]`; a score without a user is skipped. -/
def readScore (score : Json) : Except TypeError (Option BattleScore) := do
  let userId ← score.value getString "user_id" ""
  if userId = "" then return none
  return some { userId, score := (← score.value getInt64 "score" 0).toInt }

/-- `submit_battle_finished_push_to_leaderboard` up to its call of
`submit_battle_settlement_to_leaderboard`. -/
def readFinishedPush (push : Json) (roomId : String) : Except TypeError (Option FinishedPush) :=
  match push with
  | .object _ => do
    if (← push.value getString "kind" "") ≠ "battle_finished" then return none
    match push.find? "scores" with
    | some (.array elements) =>
      let scores ← elements.mapM readScore
      let battleId ← push.value getString "battle_id" ""
      let reason ← push.value getString "reason" "finished"
      return some { battleId, roomId, reason, scores := scores.filterMap id }
    | _ => return none
  | _ => return none

def idempotencyKey (battleId userId : String) : String := battleId ++ ":" ++ userId

/-- The payload of a `leaderboard_submit`. -/
def settlementPayload (battleId roomId reason : String) (score : BattleScore) : Json :=
  ofMembers
    [("user_id", .string score.userId), ("display_name", .string score.userId),
     ("score", .integer (.ofInt score.score)),
     ("idempotency_key", .string (idempotencyKey battleId score.userId)),
     ("source", .string "battle_settlement"), ("battle_id", .string battleId),
     ("room_id", .string roomId), ("reason", .string reason)]

section Submit

variable {W : Type*} (route : W → Json → W × Bool)

/-- The body of the loop of `submit_battle_settlement_to_leaderboard`. The state is
`leaderboard_settlement_keys_` and the world behind the bridge; `route` tells whether the
request succeeds. -/
def submitScore (battleId roomId reason : String) (s : List String × W) (score : BattleScore) :
    List String × W :=
  let key := idempotencyKey battleId score.userId
  if score.userId = "" ∨ key ∈ s.1 then s
  else
    match route s.2 (settlementPayload battleId roomId reason score) with
    | (w, true) => (key :: s.1, w)
    | (w, false) => (s.1, w)

/-- `submit_battle_settlement_to_leaderboard`. -/
def submitBattleSettlementToLeaderboard (s : List String × W) (push : FinishedPush) :
    List String × W :=
  if push.battleId = "" then s
  else push.scores.foldl (submitScore route push.battleId push.roomId push.reason) s

end Submit

/-! ## Keys -/

theorem toList_idempotencyKey (battleId userId : String) :
    (idempotencyKey battleId userId).toList = battleId.toList ++ ':' :: userId.toList := by
  simp [idempotencyKey]

theorem idempotencyKey_ne_empty (b u : String) : idempotencyKey b u ≠ "" := fun h => by
  have := congrArg String.toList h
  simp [toList_idempotencyKey] at this

/-- The first colon ends the battle id. -/
theorem idempotencyKey_inj {b b' u u' : String} (hb : ':' ∉ b.toList) (hb' : ':' ∉ b'.toList)
    (h : idempotencyKey b u = idempotencyKey b' u') : b = b' ∧ u = u' := by
  have hlist : b.toList ++ ':' :: u.toList = b'.toList ++ ':' :: u'.toList := by
    rw [← toList_idempotencyKey, h, toList_idempotencyKey]
  have htake : ∀ {l : List Char} (r : List Char), ':' ∉ l →
      (l ++ ':' :: r).takeWhile (· ≠ ':') = l := by
    intro l r hl
    rw [List.takeWhile_append_of_pos fun c hc => by simpa using ne_of_mem_of_not_mem hc hl]
    simp
  have hbb : b.toList = b'.toList := by
    rw [← htake u.toList hb, hlist, htake u'.toList hb']
  rw [hbb, List.append_cancel_left_eq, List.cons.injEq] at hlist
  exact ⟨String.toList_inj.mp hbb, String.toList_inj.mp hlist.2⟩

/-- `"battle_" + std::to_string(n)`. -/
def roomBattleId (n : Int32) : String := "battle_" ++ toString n

theorem colon_notMem_roomBattleId (n : Int32) : ':' ∉ (roomBattleId n).toList := by
  have hdigits : ∀ k, ':' ∉ Nat.toDigits 10 k := fun k h =>
    absurd (isDigit_of_mem_toDigits h) (by decide)
  have hrepr : ∀ i : ℤ, ':' ∉ i.repr.toList := fun i => by
    cases i with
    | ofNat k => simp [Int.repr, hdigits]
    | negSucc k => simp [Int.repr, hdigits]
  rw [roomBattleId, String.toList_append, List.mem_append]
  exact fun h => h.elim (by decide) (hrepr n.toInt)

theorem roomBattleId_inj {n n' : Int32} (h : roomBattleId n = roomBattleId n') : n = n' := by
  have hlist := congrArg String.toList h
  rw [roomBattleId, roomBattleId, String.toList_append, String.toList_append,
    List.append_cancel_left_eq] at hlist
  exact Int32.toInt_inj.mp (Int.repr_injective (String.toList_inj.mp hlist))

/-! ## The leaderboard -/

/-- One attempt to deliver a submit : what Raft and Redis do. -/
structure Attempt where
  raft : Option RaftOutcome := none
  io : RedisIo := {}
  ioRank : RedisIo := {}

/-- The way of one submit through the bridge : the attempts that reach the leaderboard, and
whether the gateway gets the answer to the last. -/
structure SubmitRoute where
  attempts : List Attempt
  answered : Bool

/-- The entry is in the log and `append_command` returns without applying it. -/
def keptInLog : Option RaftOutcome → Bool
  | some .commitFailed | some .unapplied => true
  | none | some .committed | some (.notLeader _) => false

/-- The leaderboard takes what it is given for the first time. -/
def Attempt.taken (a : Attempt) : Bool := appliedAtOnce a.raft || keptInLog a.raft

/-- The leaderboard, with the entries that are in the log and may still be committed, and
the scores that were applied. A score is known by its battle and user. -/
structure Board where
  service : LeaderboardService := {}
  waiting : List (ℕ × SubmitRequest) := []
  applied : List (ℕ × String) := []

namespace Board

variable (floatText : Float → List Char)

def attempt (battle : ℕ) (payload : Json) (s : Board) (a : Attempt) : Board × Bool :=
  let doc := parse true (encodeUtf8 (payload.dump floatText none 0))
  match LeaderboardService.submission? doc,
    s.service.handleSubmit floatText doc a.raft a.io a.ioRank with
  | some r, .ok (service, reply) =>
    let first : Bool := r.userId ≠ "" ∧ s.service.repeats r = false
    ({ service
       waiting := if first && keptInLog a.raft then (battle, r) :: s.waiting else s.waiting
       applied := if first && appliedAtOnce a.raft then (battle, r.userId) :: s.applied
         else s.applied },
      reply.isOk)
  | _, _ => (s, false)

/-- `bridge_->route` of a submit. -/
def route (battle : ℕ) (x : SubmitRoute) (s : Board) (payload : Json) : Board × Bool :=
  let (s, ok) := x.attempts.foldl (fun s a => s.1.attempt floatText battle payload a) (s, false)
  (s, ok && x.answered)

/-- The scores that Raft or the leaderboard itself has taken. -/
def handed (s : Board) : List (ℕ × String) :=
  s.applied ++ s.waiting.map fun e => (e.1, e.2.userId)

def knows (s : Board) (key : String) : Prop := key ∈ s.service.appliedIdempotencyKeys

instance (s : Board) (key : String) : Decidable (s.knows key) := by
  unfold knows
  infer_instance

end Board

/-! ## The system -/

/-- A score that is still to be submitted, with the number of its battle. -/
structure ScoreTask where
  battle : ℕ
  battleId : String
  roomId : String
  reason : String
  score : BattleScore

/-- The battle and the user. -/
def ScoreTask.about (t : ScoreTask) : ℕ × String := (t.battle, t.score.userId)

def ScoreTask.key (t : ScoreTask) : String := idempotencyKey t.battleId t.score.userId

/-- The scores of a push, which waits for its scores one by one. -/
def tasks (battle : ℕ) (roomId : String) (push : Json) : List ScoreTask :=
  match readFinishedPush push roomId with
  | .ok (some p) => p.scores.map fun score =>
    { battle, battleId := p.battleId, roomId := p.roomId, reason := p.reason, score }
  | _ => []

/-- A battle that was started : its number, and the run of the room backend that counted it. -/
structure BattleStart (ι : Type*) where
  number : Int32
  room : ι
  life : ℕ
  deriving DecidableEq

def BattleStart.battleId {ι : Type*} (b : BattleStart ι) : String := roomBattleId b.number

/-- The room backends, a gateway and a leaderboard. -/
structure Settlements (ι : Type*) where
  rooms : ι → RoomBackend
  /-- How often each room backend was restarted. -/
  restarts : ι → ℕ := fun _ => 0
  /-- The battles, in the order of their starts. -/
  started : List (BattleStart ι) := []
  /-- `leaderboard_settlement_keys_`. -/
  keys : List String := []
  /-- The scores of the push that the gateway is at. -/
  queue : List ScoreTask := []
  board : Board := {}
  /-- The scores that were taken and whose keys were in neither set after the last restart
  of the gateway or the leaderboard. -/
  forgotten : List (ℕ × String) := []

/-- What the three services do. -/
inductive SettlementEvent (ι : Type*)
  | room (k : ι) (a : RoomAction)
  | restartRoom (k : ι) (battleMaxFrames roomTtlMs : UInt32)
  /-- The gateway gets a push about the end of a battle, the first or a repeated one. -/
  | finished (battle : ℕ) (roomId : String) (push : Json)
  /-- The next score of the push is submitted. -/
  | submitScore (x : SubmitRoute)
  /-- Any other submit. -/
  | request (payload : Option Json) (a : Attempt)
  /-- Raft commits an entry that it kept. -/
  | commit (i : ℕ) (io : RedisIo)
  | restartGateway
  /-- What the log or Redis brings back is given. -/
  | restartLeaderboard (leaderboard : SortedSet) (redis : Option RedisLeaderboard)

namespace Settlements

variable {ι : Type*} [DecidableEq ι] (floatText : Float → List Char)

variable (s : Settlements ι)

/-- The action makes the room backend count a battle. -/
def startsBattle (k : ι) (a : RoomAction) : Bool :=
  (s.rooms k).nextBattleId ≠ ((s.rooms k).step a).nextBattleId

/-- The key of a score of a battle that was started. -/
def key? (e : ℕ × String) : Option String :=
  s.started[e.1]?.map fun b => idempotencyKey b.battleId e.2

def step (s : Settlements ι) : SettlementEvent ι → Option (Settlements ι)
  | .room k a => some { s with
      rooms := Function.update s.rooms k ((s.rooms k).step a)
      started :=
        if s.startsBattle k a then s.started ++ [⟨(s.rooms k).nextBattleId, k, s.restarts k⟩]
        else s.started }
  | .restartRoom k battleMaxFrames roomTtlMs => some { s with
      rooms := Function.update s.rooms k { battleMaxFrames, roomTtlMs }
      restarts := Function.update s.restarts k (s.restarts k + 1) }
  | .finished battle roomId push =>
    if s.queue.isEmpty ∧ ∀ t ∈ tasks battle roomId push,
        s.started[battle]?.map BattleStart.battleId = some t.battleId then
      some { s with queue := tasks battle roomId push }
    else none
  | .submitScore x =>
    match s.queue with
    | [] => none
    | t :: queue =>
      let (keys, board) := Gateway.submitScore (Board.route floatText t.battle x) t.battleId
        t.roomId t.reason (s.keys, s.board) t.score
      some { s with keys, board, queue }
  | .request payload a =>
    match s.board.service.handleSubmit floatText payload a.raft a.io a.ioRank with
    | .ok (service, _) => some { s with board := { s.board with service } }
    | .error _ => some s
  | .commit i io =>
    s.board.waiting[i]?.map fun e => { s with
      board :=
        { service := s.board.service.applyRaftEntry io (makeSubmitCommand floatText e.2)
          waiting := s.board.waiting.eraseIdx i
          applied := (e.1, e.2.userId) :: s.board.applied } }
  | .restartGateway => some { s with
      keys := []
      queue := []
      forgotten := s.board.handed.filter fun e => !(s.key? e).any (s.board.knows ·) }
  | .restartLeaderboard leaderboard redis => some { s with
      board := { s.board with service := { leaderboard, redis } }
      forgotten := s.board.handed.filter fun e => !(s.key? e).any (· ∈ s.keys) }

/-- A battle is started by the run of the room backend that started the battles before, and
not with the last number there is. A push brings no score that was forgotten, and the
leaderboard does not restart while one waits that it took and the gateway has not recorded. -/
def Ok : SettlementEvent ι → Prop
  | .room k a => s.startsBattle k a → (s.rooms k).nextBattleId < Int32.maxValue ∧
      ∀ b ∈ s.started, b.room = k ∧ b.life = s.restarts k
  | .finished battle roomId push => ∀ t ∈ tasks battle roomId push, t.about ∉ s.forgotten
  | .restartLeaderboard .. => ∀ t ∈ s.queue, t.about ∈ s.board.handed → t.key ∈ s.keys
  | _ => True

instance (s : Settlements ι) : ∀ e, Decidable (s.Ok e)
  | .room .. => by unfold Ok; infer_instance
  | .finished .. => by unfold Ok; infer_instance
  | .restartLeaderboard .. => by unfold Ok; infer_instance
  | .restartRoom .. | .submitScore _ | .request .. | .commit .. | .restartGateway => .isTrue trivial

/-- The states of runs from backends with any options and an empty leaderboard. -/
abbrev Reaches (ok : Settlements ι → SettlementEvent ι → Prop) : Settlements ι → Prop :=
  BoostGateway.Reaches
    (fun s => ∃ options : ι → UInt32 × UInt32, ∃ redis, s = {
      rooms := fun k => { battleMaxFrames := (options k).1, roomTtlMs := (options k).2 }
      board := { service := { redis } } })
    (step floatText) ok

/-- The keys of different battles are different. -/
def KeysApart : Prop :=
  ∀ (i j : ℕ) (b b' : BattleStart ι) (u u' : String), i ≠ j → s.started[i]? = some b →
    s.started[j]? = some b' → idempotencyKey b.battleId u ≠ idempotencyKey b'.battleId u'

/-- No score is applied twice. -/
def AppliedOnce : Prop := s.board.applied.Nodup

end Settlements

/-! ## What a submit does -/

/-- What the leaderboard reads from the payload of a submit. -/
theorem readSubmit_settlementPayload (battleId roomId reason : String) (score : BattleScore) :
    ∃ n, LeaderboardService.readSubmit (settlementPayload battleId roomId reason score).asRead = .ok
      { userId := score.userId, displayName := score.userId, score := n
        idempotencyKey := idempotencyKey battleId score.userId } := by
  obtain ⟨ms, hms⟩ : ∃ ms, (settlementPayload battleId roomId reason score).asRead = .object ms :=
    ⟨_, rfl⟩
  have hfind : ∀ key, (Json.object ms).find? key =
      ((settlementPayload battleId roomId reason score).find? key).map asRead := fun key => by
    rw [← hms, find?_asRead]
  have hstring : ∀ t, asRead (.string t) = .string t := fun _ => by rw [asRead]
  obtain ⟨n, hn⟩ : ∃ n, getInt32 (asRead (.integer (.ofInt score.score))) = .ok n := by
    rw [asRead]
    split_ifs <;> exact ⟨_, rfl⟩
  refine ⟨n, ?_⟩
  rw [hms, LeaderboardService.readSubmit]
  simp [value, hfind, settlementPayload, find?_ofMembers, hstring, hn, getString, bind,
    Except.bind, pure, Except.pure]

theorem plain_settlementPayload (battleId roomId reason : String) (score : BattleScore) :
    Plain (settlementPayload battleId roomId reason score) :=
  plain_ofMembers (by simp [Plain])

namespace Board

variable (floatText : Float → List Char) (battle : ℕ) (battleId roomId reason : String)
  {score : BattleScore}

/-- An attempt is a submit of the fields. -/
theorem attempt_eq (score : BattleScore) (s : Board) (a : Attempt) :
    ∃ r : SubmitRequest, r.userId = score.userId ∧
    r.idempotencyKey = idempotencyKey battleId score.userId ∧
    s.attempt floatText battle (settlementPayload battleId roomId reason score) a =
      let result := s.service.submit floatText r a.raft a.io a.ioRank
      let first : Bool := r.userId ≠ "" ∧ s.service.repeats r = false
      ({ service := result.1
         waiting := if first && keptInLog a.raft then (battle, r) :: s.waiting else s.waiting
         applied := if first && appliedAtOnce a.raft then (battle, r.userId) :: s.applied
           else s.applied }, result.2.isOk) := by
  obtain ⟨n, hn⟩ := readSubmit_settlementPayload battleId roomId reason score
  obtain ⟨ms, hms⟩ : ∃ ms, (settlementPayload battleId roomId reason score).asRead = .object ms :=
    ⟨_, rfl⟩
  refine ⟨{ userId := score.userId, displayName := score.userId, score := n
            idempotencyKey := idempotencyKey battleId score.userId }, rfl, rfl, ?_⟩
  rw [hms] at hn
  rw [attempt, parse_dump (plain_settlementPayload battleId roomId reason score), hms]
  simp only [LeaderboardService.submission?, LeaderboardService.object?, Option.bind_some, hn,
    Except.toOption, LeaderboardService.handleSubmit, bind, Except.bind, pure, Except.pure]

/-- A key that the leaderboard has turns the submit away. -/
theorem attempt_of_knows {s : Board} (hu : score.userId ≠ "")
    (hk : s.knows (idempotencyKey battleId score.userId)) (a : Attempt) :
    (s.attempt floatText battle (settlementPayload battleId roomId reason score) a).1 = s := by
  obtain ⟨r, hru, hrk, heq⟩ := attempt_eq floatText battle battleId roomId reason score s a
  have hrep : s.service.repeats r = true :=
    decide_eq_true ⟨hrk ▸ idempotencyKey_ne_empty _ _, hrk ▸ hk⟩
  obtain ⟨body, hbody⟩ : ∃ body, s.service.submit floatText r a.raft a.io a.ioRank =
      (s.service, .ok body) := by
    rcases s.service.submit_cases floatText r a.raft a.io a.ioRank with ⟨h, -⟩ | ⟨-, -, h⟩ |
      ⟨-, h, -⟩ | ⟨-, h, -⟩
    · exact absurd h (hru ▸ hu)
    · exact h
    · simp [hrep] at h
    · simp [hrep] at h
  simp [heq, hbody, hrep]

/-- An attempt leaves the key recorded, and hands the score over where it was not recorded
before, unless the leaderboard does not lead. -/
theorem attempt_spec (s : Board) (hu : score.userId ≠ "") (a : Attempt) :
    let s' := (s.attempt floatText battle (settlementPayload battleId roomId reason score) a).1
    s'.knows (idempotencyKey battleId score.userId) ∧
      (∀ k, k ≠ "" → s.knows k → s'.knows k) ∧
      s'.handed.Perm (if a.taken ∧ ¬s.knows (idempotencyKey battleId score.userId) then
        (battle, score.userId) :: s.handed else s.handed) := by
  by_cases hk : s.knows (idempotencyKey battleId score.userId)
  · rw [attempt_of_knows floatText battle battleId roomId reason hu hk a]
    exact ⟨hk, fun _ _ h => h, by simp [hk]⟩
  · obtain ⟨r, hru, hrk, heq⟩ := attempt_eq floatText battle battleId roomId reason score s a
    have hrep : s.service.repeats r = false := decide_eq_false fun h => hk (hrk ▸ h.2)
    rw [heq]
    refine ⟨(s.service.mem_submit_keys floatText r a.raft a.io a.ioRank
      (idempotencyKey_ne_empty _ _)).mpr (.inr ⟨hru ▸ hu, hrk⟩), fun k hne h =>
        (s.service.mem_submit_keys floatText r a.raft a.io a.ioRank hne).mpr (.inl h), ?_⟩
    have hone : ∀ raft, (appliedAtOnce raft && keptInLog raft) = false := fun raft => by
      rcases raft with _ | (_ | _ | _) <;> rfl
    have hboth := hone a.raft
    cases ha : appliedAtOnce a.raft <;> cases hw : keptInLog a.raft <;>
      simp_all [handed, Attempt.taken]

/-- Only the first attempt of a route does something : it leaves the key recorded. -/
theorem route_eq (s : Board) (hu : score.userId ≠ "") (x : SubmitRoute) :
    (s.route floatText battle x (settlementPayload battleId roomId reason score)).1 =
      x.attempts.head?.elim s fun a =>
        (s.attempt floatText battle (settlementPayload battleId roomId reason score) a).1 := by
  have hknown : ∀ (as : List Attempt) (s : Board) (ok : Bool),
      s.knows (idempotencyKey battleId score.userId) →
      (as.foldl (fun s a => s.1.attempt floatText battle
        (settlementPayload battleId roomId reason score) a) (s, ok)).1 = s := by
    intro as
    induction as with
    | nil => intro s ok _; rfl
    | cons a as ih =>
      intro s ok hk
      have ha := attempt_of_knows floatText battle battleId roomId reason hu hk a
      rw [List.foldl_cons]
      generalize s.attempt floatText battle _ a = p at ha ⊢
      obtain ⟨s', ok'⟩ := p
      obtain rfl : s' = s := ha
      exact ih s' ok' hk
  obtain ⟨as, answered⟩ := x
  change (as.foldl _ (s, false)).1 = _
  match as with
  | [] => rfl
  | a :: as =>
    have hself := (attempt_spec floatText battle battleId roomId reason s hu a).1
    rw [List.foldl_cons, List.head?_cons, Option.elim_some]
    generalize s.attempt floatText battle _ a = p at hself ⊢
    obtain ⟨s', ok⟩ := p
    exact hknown as s' ok hself

/-- An entry that is committed moves to the scores that were applied. -/
theorem handed_commit (s : Board) {i : ℕ} (hi : i < s.waiting.length)
    (service : LeaderboardService) :
    (handed {
      service
      waiting := s.waiting.eraseIdx i
      applied := (s.waiting[i].1, s.waiting[i].2.userId) :: s.applied }).Perm s.handed := by
  have hp := (List.getElem_cons_eraseIdx_perm hi).map fun e : ℕ × SubmitRequest => (e.1, e.2.userId)
  exact List.perm_middle.symm.trans (hp.append_left s.applied)

/-- A route hands the score over at most once, and only where the leaderboard does not have
its key, which it then records. -/
theorem route_spec (s : Board) (hu : score.userId ≠ "") (x : SubmitRoute) :
    let s' := (s.route floatText battle x (settlementPayload battleId roomId reason score)).1
    (∀ k, k ≠ "" → s.knows k → s'.knows k) ∧
      ((s'.handed).Perm s.handed ∨
        s'.handed.Perm ((battle, score.userId) :: s.handed) ∧
          ¬s.knows (idempotencyKey battleId score.userId) ∧
          s'.knows (idempotencyKey battleId score.userId)) := by
  rw [route_eq floatText battle battleId roomId reason s hu x]
  match x.attempts.head? with
  | none => exact ⟨fun _ _ h => h, .inl (.refl _)⟩
  | some a =>
    obtain ⟨hself, hkeep, hp⟩ := attempt_spec floatText battle battleId roomId reason s hu a
    refine ⟨hkeep, ?_⟩
    split_ifs at hp with htake
    · exact .inr ⟨hp, htake.2, hself⟩
    · exact .inl hp

end Board

namespace Settlements

variable {ι : Type*}

/-- The numbers of the battles are different, and those of a room backend that still runs
are below its counter. A score that was taken has its key in one of the sets, or was
forgotten and does not wait. -/
structure Inv (s : Settlements ι) : Prop where
  numbers : (s.started.map BattleStart.number).Nodup
  lives : ∀ b ∈ s.started, b.life ≤ s.restarts b.room
  counted : ∀ b ∈ s.started, b.life = s.restarts b.room → b.number < (s.rooms b.room).nextBattleId
  once : s.board.handed.Nodup
  known : ∀ e ∈ s.board.handed, ∃ key, s.key? e = some key ∧
    (key ∈ s.keys ∨ s.board.knows key ∨ e ∈ s.forgotten)
  waits : ∀ t ∈ s.queue, s.key? t.about = some t.key ∧ t.about ∉ s.forgotten

theorem Inv.keysApart {s : Settlements ι} (h : s.Inv) : s.KeysApart := by
  intro i j b b' u u' hij hb hb' hkey
  obtain ⟨hid, -⟩ := idempotencyKey_inj (colon_notMem_roomBattleId _) (colon_notMem_roomBattleId _)
    hkey
  have hnumber : b.number = b'.number := roomBattleId_inj hid
  have hi : i < (s.started.map BattleStart.number).length := by
    simpa using (List.getElem?_eq_some_iff.mp hb).1
  refine hij ((List.getElem?_inj hi h.numbers).mp ?_)
  rw [List.getElem?_map, List.getElem?_map, hb, hb', Option.map_some, Option.map_some, hnumber]

theorem ne_empty_of_key? {s : Settlements ι} {e : ℕ × String} {key : String}
    (h : s.key? e = some key) : key ≠ "" := by
  obtain ⟨b, -, rfl⟩ := Option.map_eq_some_iff.mp h
  exact idempotencyKey_ne_empty _ _

theorem key?_concat {s : Settlements ι} {e : ℕ × String} {key : String} (h : s.key? e = some key)
    (b : BattleStart ι) : ({ s with started := s.started ++ [b] }).key? e = some key := by
  obtain ⟨b', hb, rfl⟩ := Option.map_eq_some_iff.mp h
  obtain ⟨hlt, -⟩ := List.getElem?_eq_some_iff.mp hb
  rw [key?, List.getElem?_append_left hlt, hb, Option.map_some]

variable [DecidableEq ι] {floatText : Float → List Char}

variable {s s' : Settlements ι}

theorem Inv.room {k : ι} {a : RoomAction} (h : s.Inv)
    (hok : s.Ok (.room k a)) (hs : s.step floatText (.room k a) = some s') : s'.Inv := by
  obtain rfl := Option.some.inj hs
  by_cases hstart : s.startsBattle k a
  · obtain ⟨hmax, hsource⟩ := hok hstart
    have hnext : ((s.rooms k).step a).nextBattleId = (s.rooms k).nextBattleId + 1 :=
      ((s.rooms k).step_nextBattleId a).resolve_left (Ne.symm (of_decide_eq_true hstart))
    have hlt : (s.rooms k).nextBattleId < (s.rooms k).nextBattleId + 1 := by grind
    have hbelow : ∀ b ∈ s.started, b.number < (s.rooms k).nextBattleId := fun b hb => by
      obtain ⟨hroom, hlife⟩ := hsource b hb
      exact hroom ▸ h.counted b hb (hroom ▸ hlife)
    simp only [hstart, if_true]
    refine ⟨?_, ?_, ?_, h.once, fun e he => ?_, fun t ht => ?_⟩
    · rw [List.map_append, List.map_singleton, ← List.concat_eq_append]
      refine h.numbers.concat fun hmem => ?_
      obtain ⟨b, hb, heq⟩ := List.mem_map.mp hmem
      exact Int32.lt_irrefl (heq ▸ hbelow b hb)
    · intro b hb
      rcases List.mem_append.mp hb with hb | hb
      · exact h.lives b hb
      · obtain rfl := List.mem_singleton.mp hb
        exact Nat.le_refl _
    · intro b hb _
      rcases List.mem_append.mp hb with hb | hb
      · obtain ⟨hroom, -⟩ := hsource b hb
        dsimp only
        rw [hroom, Function.update_self, hnext]
        exact Int32.lt_trans (hbelow b hb) hlt
      · obtain rfl := List.mem_singleton.mp hb
        dsimp only
        rw [Function.update_self, hnext]
        exact hlt
    · obtain ⟨key, hkey, hin⟩ := h.known e he
      exact ⟨key, key?_concat hkey _, hin⟩
    · obtain ⟨hkey, hnew⟩ := h.waits t ht
      exact ⟨key?_concat hkey _, hnew⟩
  · have hsame : (s.rooms k).nextBattleId = ((s.rooms k).step a).nextBattleId :=
      not_not.mp fun hne => hstart (decide_eq_true hne)
    simp only [hstart, Bool.false_eq_true, if_false]
    refine ⟨h.numbers, h.lives, fun b hb hlife => ?_, h.once, h.known, h.waits⟩
    have hlt := h.counted b hb hlife
    dsimp only
    by_cases hroom : b.room = k
    · subst hroom
      rw [Function.update_self]
      exact hsame ▸ hlt
    · rwa [Function.update_of_ne hroom]

/-- What a room backend counted before a restart is counted no more. -/
theorem Inv.restartRoom {k : ι} {frames ttl : UInt32} (h : s.Inv)
    (hs : s.step floatText (.restartRoom k frames ttl) = some s') : s'.Inv := by
  obtain rfl := Option.some.inj hs
  refine ⟨h.numbers, fun b hb => ?_, fun b hb hlife => ?_, h.once, h.known, h.waits⟩
  · have := h.lives b hb
    by_cases hroom : b.room = k
    · subst hroom
      dsimp only
      rw [Function.update_self]
      exact Nat.le_succ_of_le this
    · dsimp only
      rwa [Function.update_of_ne hroom]
  · dsimp only at hlife ⊢
    by_cases hroom : b.room = k
    · subst hroom
      rw [Function.update_self] at hlife
      exact absurd (h.lives b hb) (by omega)
    · rw [Function.update_of_ne hroom] at hlife ⊢
      exact h.counted b hb hlife

theorem Inv.finished {battle : ℕ} {roomId : String} {push : Json}
    (h : s.Inv) (hok : s.Ok (.finished battle roomId push))
    (hs : s.step floatText (.finished battle roomId push) = some s') : s'.Inv := by
  simp only [step] at hs
  split_ifs at hs with hid
  obtain rfl := Option.some.inj hs
  refine ⟨h.numbers, h.lives, h.counted, h.once, h.known, fun t ht => ⟨?_, hok t ht⟩⟩
  obtain ⟨b, hb, hbattle⟩ := Option.map_eq_some_iff.mp (hid.2 t ht)
  have hnumber : t.battle = battle := by
    simp only [tasks] at ht
    split at ht
    · obtain ⟨score, -, rfl⟩ := List.mem_map.mp ht
      rfl
    · cases ht
  rw [key?, ScoreTask.about, ScoreTask.key, hnumber, hb, Option.map_some, hbattle]

/-- A submit of others records keys only. -/
theorem Inv.request {payload : Option Json} {a : Attempt} (h : s.Inv)
    (hs : s.step floatText (.request payload a) = some s') : s'.Inv := by
  simp only [step] at hs
  split at hs
  · rename_i service reply hhandle
    obtain rfl := Option.some.inj hs
    refine ⟨h.numbers, h.lives, h.counted, h.once, fun e he => ?_, h.waits⟩
    obtain ⟨key, hk, hin⟩ := h.known e he
    exact ⟨key, hk, hin.imp_right (Or.imp_left
      (LeaderboardService.keys_handleSubmit _ hhandle (ne_empty_of_key? hk)))⟩
  · obtain rfl := Option.some.inj hs
    exact h

theorem Inv.submitScore {x : SubmitRoute} (h : s.Inv)
    (hs : s.step floatText (.submitScore x) = some s') : s'.Inv := by
  match hq : s.queue with
  | [] => simp [step, hq] at hs
  | t :: queue =>
    obtain ⟨htask, hnew⟩ := h.waits t (hq ▸ List.mem_cons_self)
    have hwaits : ∀ t' ∈ queue, s.key? t'.about = some t'.key ∧ t'.about ∉ s.forgotten :=
      fun t' ht' => h.waits t' (hq ▸ List.mem_cons_of_mem t ht')
    simp only [step, hq, Option.some.injEq] at hs
    subst hs
    rw [Gateway.submitScore]
    split_ifs with hskip
    · exact ⟨h.numbers, h.lives, h.counted, h.once, h.known, hwaits⟩
    · obtain ⟨hu, hkey⟩ := not_or.mp hskip
      obtain ⟨hkeep, hp⟩ := s.board.route_spec floatText t.battle t.battleId t.roomId t.reason hu x
      generalize Board.route floatText t.battle x s.board _ = p at hkeep hp ⊢
      obtain ⟨board, ok⟩ := p
      dsimp only at hkeep hp
      -- the queue goes on, and the gateway records at most one key more
      suffices board.handed.Nodup ∧ ∀ e ∈ board.handed, ∃ key, s.key? e = some key ∧
          (key ∈ s.keys ∨ board.knows key ∨ e ∈ s.forgotten) by
        cases ok with
        | false => exact ⟨h.numbers, h.lives, h.counted, this.1, this.2, hwaits⟩
        | true =>
          refine ⟨h.numbers, h.lives, h.counted, this.1, fun e he => ?_, hwaits⟩
          obtain ⟨key, hk, hin⟩ := this.2 e he
          exact ⟨key, hk, hin.imp_left (List.mem_cons_of_mem _)⟩
      have hold : ∀ e ∈ s.board.handed, ∃ key, s.key? e = some key ∧
          (key ∈ s.keys ∨ board.knows key ∨ e ∈ s.forgotten) := fun e he => by
        obtain ⟨key, hk, hin⟩ := h.known e he
        exact ⟨key, hk, hin.imp_right (Or.imp_left (hkeep key (ne_empty_of_key? hk)))⟩
      rcases hp with hp | ⟨hp, hunknown, hrecorded⟩
      · exact ⟨hp.nodup_iff.mpr h.once, fun e he => hold e (hp.mem_iff.mp he)⟩
      · refine ⟨hp.nodup_iff.mpr (List.nodup_cons.mpr ⟨fun hmem => ?_, h.once⟩), fun e he => ?_⟩
        · obtain ⟨key, hk, hin⟩ := h.known _ hmem
          obtain rfl : t.key = key := Option.some.inj (htask.symm.trans hk)
          rcases hin with hin | hin | hin
          · exact hkey hin
          · exact hunknown hin
          · exact hnew hin
        · rcases List.mem_cons.mp (hp.mem_iff.mp he) with rfl | he
          · exact ⟨t.key, htask, .inr (.inl hrecorded)⟩
          · exact hold e he

theorem Inv.commit {i : ℕ} {io : RedisIo} (h : s.Inv)
    (hs : s.step floatText (.commit i io) = some s') : s'.Inv := by
  obtain ⟨e, he, rfl⟩ := Option.map_eq_some_iff.mp hs
  obtain ⟨hi, rfl⟩ := List.getElem?_eq_some_iff.mp he
  have hp := s.board.handed_commit hi
  have hkeys := s.board.service.applyRaftEntry_keys io (makeSubmitCommand floatText s.board.waiting[i].2)
  generalize s.board.service.applyRaftEntry io _ = service at hkeys ⊢
  refine ⟨h.numbers, h.lives, h.counted, (hp service).nodup_iff.mpr h.once, fun e he => ?_,
    h.waits⟩
  obtain ⟨key, hk, hin⟩ := h.known e ((hp service).mem_iff.mp he)
  refine ⟨key, hk, hin.imp_right (Or.imp_left fun hknows => ?_)⟩
  change key ∈ service.appliedIdempotencyKeys
  exact hkeys ▸ hknows

/-- The keys of the gateway are lost, and the scores whose keys the leaderboard does not have
are forgotten. -/
theorem Inv.restartGateway (h : s.Inv)
    (hs : s.step floatText .restartGateway = some s') : s'.Inv := by
  obtain rfl := Option.some.inj hs
  refine ⟨h.numbers, h.lives, h.counted, h.once, fun e he => ?_, by simp⟩
  obtain ⟨key, hk, -⟩ := h.known e he
  by_cases hknows : s.board.knows key
  · exact ⟨key, hk, .inr (.inl hknows)⟩
  · exact ⟨key, hk, .inr (.inr (List.mem_filter.mpr ⟨he, by simp [hk, hknows]⟩))⟩

theorem Inv.restartLeaderboard {leaderboard : SortedSet}
    {redis : Option RedisLeaderboard} (h : s.Inv)
    (hok : s.Ok (.restartLeaderboard leaderboard redis))
    (hs : s.step floatText (.restartLeaderboard leaderboard redis) = some s') : s'.Inv := by
  obtain rfl := Option.some.inj hs
  refine ⟨h.numbers, h.lives, h.counted, h.once, fun e he => ?_, fun t ht => ?_⟩
  · obtain ⟨key, hk, -⟩ := h.known e he
    by_cases hkeys : key ∈ s.keys
    · exact ⟨key, hk, .inl hkeys⟩
    · exact ⟨key, hk, .inr (.inr (List.mem_filter.mpr ⟨he, by simp [hk, hkeys]⟩))⟩
  · obtain ⟨hk, -⟩ := h.waits t ht
    refine ⟨hk, fun hmem => ?_⟩
    obtain ⟨htaken, hlost⟩ := List.mem_filter.mp hmem
    simp [hk, hok t ht htaken] at hlost

theorem Inv.step {e : SettlementEvent ι} (h : s.Inv) (hok : s.Ok e)
    (hs : s.step floatText e = some s') : s'.Inv := by
  cases e with
  | room k a => exact h.room hok hs
  | restartRoom k frames ttl => exact h.restartRoom hs
  | submitScore x => exact h.submitScore hs
  | commit i io => exact h.commit hs
  | restartGateway => exact h.restartGateway hs
  | restartLeaderboard leaderboard redis => exact h.restartLeaderboard hok hs
  | finished battle roomId push => exact h.finished hok hs
  | request payload a => exact h.request hs

theorem Reaches.inv (h : s.Reaches floatText Ok) : s.Inv := by
  refine h.invariant ?_ fun _ _ _ hi hok hs => hi.step hok hs
  rintro _ ⟨options, redis, rfl⟩
  exact ⟨List.nodup_nil, by simp, by simp, List.nodup_nil, by simp [Board.handed], by simp⟩

/-- In every run whose steps all meet `Ok`, the keys of different battles are different and
no score is applied twice. -/
theorem scores_settled_once {s : Settlements ι} (h : s.Reaches floatText Ok) :
    s.KeysApart ∧ s.AppliedOnce :=
  ⟨h.inv.keysApart, h.inv.once.of_append_left⟩

/-- Two users meet in a room and start a battle. -/
def startBattle : List (SettlementEvent Unit) :=
  ([.request .roomCreate (member "a") 0 0, .request .roomJoin (member "b") 0 0,
    .request .roomReady (member "a") 0 0, .request .roomReady (member "b") 0 0,
    .request .roomStartBattle (member "a") 0 0] : List RoomAction).map (.room ())
where
  member (userId : String) : Option Json :=
    some (.object [("room_id", .string "r"), ("user_id", .string userId)])

/-- The battle ends, and `a` has five points. -/
def finishedPush : Json :=
  .object [("battle_id", .string "battle_1"), ("kind", .string "battle_finished"),
    ("scores", .array [.object [("score", .integer 5), ("user_id", .string "a")]])]

/-- The answer to the first submit is lost, so the gateway, which has restarted since, submits
the score again when the push is repeated. -/
def repeatedPush : List (SettlementEvent Unit) :=
  startBattle ++
    ([.finished 0 "r" finishedPush, .submitScore { attempts := [{}], answered := false },
      .restartGateway, .finished 0 "r" finishedPush,
      .submitScore { attempts := [{}], answered := true }] : List (SettlementEvent Unit))

def fresh : Settlements Unit := { rooms := fun _ => {} }

theorem reaches_fresh {ok : Settlements Unit → SettlementEvent Unit → Prop} :
    fresh.Reaches (fun _ => []) ok :=
  .init ⟨fun _ => (3, 300000), none, rfl⟩

theorem scores_settled_once_repeatedPush : ∃ s : Settlements Unit,
    (s.started.map BattleStart.battleId = ["battle_1"] ∧ s.board.applied = [(0, "a")] ∧
      s.keys = ["battle_1:a"]) ∧ s.KeysApart ∧ s.AppliedOnce := by
  obtain ⟨s, hs, hp⟩ : ∃ s : Settlements Unit, s.Reaches (fun _ => []) Ok ∧
      s.started.map BattleStart.battleId = ["battle_1"] ∧ s.board.applied = [(0, "a")] ∧
      s.keys = ["battle_1:a"] :=
    reaches_fresh.exists_runWith repeatedPush (by decide +kernel)
  exact ⟨s, hp, scores_settled_once hs⟩

/-- The room backend restarts between two battles, and both are `battle_1`. -/
theorem not_settled_restart : ¬∀ s : Settlements Unit,
    s.Reaches (fun _ => []) (fun _ _ => True) → s.KeysApart ∧ s.AppliedOnce := by
  intro h
  obtain ⟨s, hs, h0, h1⟩ : ∃ s : Settlements Unit, s.Reaches (fun _ => []) (fun _ _ => True) ∧
      s.started[0]? = some ⟨1, (), 0⟩ ∧ s.started[1]? = some ⟨1, (), 1⟩ :=
    reaches_fresh.exists_runWith (startBattle ++ .restartRoom () 3 300000 :: startBattle)
      (by decide +kernel)
  exact (h s hs).1 0 1 _ _ "a" "a" (by decide) h0 h1 rfl

end Settlements

end BoostGateway.Gateway
