import BoostGateway.Leaderboard.LeaderboardService

/-!
# Answers from Redis and from memory

The service writes every submit to memory and, when it is available, to Redis, and answers
a read from Redis where that has something to say. A submit during an outage is missing in
Redis for good, and users of one score are listed by rising id in memory and by falling id
in Redis (`not_store_independent`).

`store_independent` : the answers to top and rank requests are those of the same service
without Redis, in every run in which Redis answers a read only while it holds the scores
that memory holds, and the order among equal scores does not show in the answer.
-/

namespace BoostGateway.Leaderboard

open Json

/-- The requests. -/
inductive LeaderboardRequest
  | submit (payload : Option Json) (raft : Option RaftOutcome) (io ioRank : RedisIo)
  /-- Raft delivers the log entry of a submit. -/
  | deliver (r : SubmitRequest) (io : RedisIo)
  | top (payload : Option Json) (io : RedisIo)
  | rank (payload : Option Json) (io : RedisIo)

/-- What an answer says of an entry : the user id, the score and the rank. -/
structure Place where
  userId : String
  score : ℤ
  rank : ℕ
  deriving DecidableEq

def LeaderboardEntry.place (e : LeaderboardEntry) : Place :=
  { userId := e.userId, score := e.score, rank := e.rank }

variable (floatText : Float → List Char)

namespace LeaderboardService

def step (s : LeaderboardService) : LeaderboardRequest → LeaderboardService
  | .submit payload raft io ioRank =>
    match s.handleSubmit floatText payload raft io ioRank with
    | .ok (s, _) => s
    | .error _ => s
  | .deliver r io => s.applyRaftEntry io (makeSubmitCommand floatText r)
  | .top .. | .rank .. => s

/-- The number of entries a top request asks for. -/
def topSize? (payload : Option Json) : Option ℕ :=
  (object? payload).bind fun doc => (readK doc).toOption

/-- The user a rank request asks for. -/
def rankUser? (payload : Option Json) : Option String :=
  ((object? payload).bind fun doc => (doc.value getString "user_id" "").toOption).filter (· ≠ "")

/-- The places in the answer to a top or rank request; an error has none. -/
def answer (s : LeaderboardService) : LeaderboardRequest → List Place
  | .top payload io => (topSize? payload).elim [] fun k => (s.top io k).map LeaderboardEntry.place
  | .rank payload io =>
    (rankUser? payload).elim [] fun userId =>
      ((s.rank io userId).map LeaderboardEntry.place).toList
  | .submit .. | .deliver .. => []

/-- The answers along a list of requests. -/
def answers (s : LeaderboardService) : List LeaderboardRequest → List (List Place)
  | [] => []
  | r :: rs => s.answer r :: (s.step floatText r).answers rs

/-- Redis, where a read reaches it. -/
def reading (s : LeaderboardService) (io : RedisIo) : Option RedisLeaderboard :=
  if io.answers then s.available io else none

/-- Redis is empty, or it holds the scores of the leaderboard and no user among the first `k`
shares a score. -/
def TopAgrees (s : LeaderboardService) (k : ℕ) (r : RedisLeaderboard) : Prop :=
  r.zset = [] ∨ r.zset.Perm s.leaderboard.sorted ∧
    ∀ e ∈ s.leaderboard.sorted.take k, ∀ f ∈ s.leaderboard.sorted, f.1 = e.1 → f = e

/-- Redis does not have the user, or it holds the scores of the leaderboard and as many users
of the same score have a lower id as have a higher one. -/
def RankAgrees (s : LeaderboardService) (userId : String) (r : RedisLeaderboard) : Prop :=
  (∀ e ∈ r.zset, e.2 ≠ cStr userId) ∨
    cStr userId = userId ∧ r.zset.Perm s.leaderboard.sorted ∧
      ∀ e ∈ s.leaderboard.sorted, e.2 = userId →
        s.leaderboard.sorted.countP (fun f => f.1 = e.1 ∧ f.2 < userId) =
          s.leaderboard.sorted.countP fun f => f.1 = e.1 ∧ userId < f.2

/-- A read that Redis answers finds in it what memory would answer. -/
def ReadAgrees (s : LeaderboardService) : LeaderboardRequest → Prop
  | .top payload io => ∀ k ∈ topSize? payload, ∀ r ∈ s.reading io, s.TopAgrees k r
  | .rank payload io => ∀ u ∈ rankUser? payload, ∀ r ∈ s.reading io, s.RankAgrees u r
  | .submit .. | .deliver .. => True

/-- Every read of the run meets `ReadAgrees`. -/
def ReadsAgree (s : LeaderboardService) : List LeaderboardRequest → Prop
  | [] => True
  | r :: rs => s.ReadAgrees r ∧ (s.step floatText r).ReadsAgree rs

instance (s : LeaderboardService) (k : ℕ) (r : RedisLeaderboard) : Decidable (s.TopAgrees k r) :=
  inferInstanceAs (Decidable (_ ∨ _))

instance (s : LeaderboardService) (userId : String) (r : RedisLeaderboard) :
    Decidable (s.RankAgrees userId r) :=
  inferInstanceAs (Decidable (_ ∨ _))

instance (s : LeaderboardService) (r : LeaderboardRequest) : Decidable (s.ReadAgrees r) :=
  match r with
  | .top .. => inferInstanceAs (Decidable (∀ k ∈ _, _))
  | .rank .. => inferInstanceAs (Decidable (∀ u ∈ _, _))
  | .submit .. | .deliver .. => isTrue trivial

/-! ## Memory does not depend on Redis -/

/-- The same service without Redis. -/
def inMemory (s : LeaderboardService) : LeaderboardService := { s with redis := none }

theorem inMemory_applyRaftEntry (s : LeaderboardService) (io : RedisIo) (command : Bytes) :
    (s.applyRaftEntry io command).inMemory = s.inMemory.applyRaftEntry io command := by
  unfold applyRaftEntry
  split
  · simp [applySubmit, inMemory]
  · rfl

theorem inMemory_submit (s : LeaderboardService) (r : SubmitRequest) (raft : Option RaftOutcome)
    (io ioRank : RedisIo) :
    (s.submit floatText r raft io ioRank).1.inMemory =
      (s.inMemory.submit floatText r raft io ioRank).1 := by
  have hkeys : s.inMemory.appliedIdempotencyKeys = s.appliedIdempotencyKeys := rfl
  have hrecord : (s.record r.idempotencyKey).inMemory = s.inMemory.record r.idempotencyKey := by
    unfold record
    split_ifs <;> rfl
  unfold submit
  rw [hkeys]
  split_ifs
  · rfl
  · rfl
  · match raft with
    | some (.notLeader _) => exact hrecord
    | some .commitFailed | some .unapplied => exact hrecord
    | some .committed =>
      dsimp only
      rw [inMemory_applyRaftEntry, hrecord]
    | none =>
      dsimp only
      rw [← hrecord]
      simp [applySubmit, inMemory]

theorem inMemory_step (s : LeaderboardService) (r : LeaderboardRequest) :
    (s.step floatText r).inMemory = s.inMemory.step floatText r := by
  cases r with
  | submit payload raft io ioRank =>
    simp only [step, handleSubmit]
    cases object? payload with
    | none => rfl
    | some doc =>
      cases hr : readSubmit doc with
      | error e => simp [hr, bind, Except.bind]
      | ok r =>
        simp only [hr, bind, Except.bind, pure, Except.pure]
        exact s.inMemory_submit floatText r raft io ioRank
  | deliver r io =>
    rw [step, step]
    exact s.inMemory_applyRaftEntry io (makeSubmitCommand floatText r)
  | top => rfl
  | rank => rfl

/-! ## The reads -/

/-- Both stores are rankings. -/
structure Inv (s : LeaderboardService) : Prop where
  memory : s.leaderboard.Inv
  redis : ∀ r ∈ s.redis, Ranking (· > ·) r.zset

theorem Inv.applySubmit {s : LeaderboardService} (h : Inv s) (io : RedisIo)
    (userId displayName : String) (score : ℤ) :
    Inv (s.applySubmit io userId displayName score) := by
  refine ⟨h.memory.submit userId displayName score, fun r hr => ?_⟩
  simp only [LeaderboardService.applySubmit] at hr
  split_ifs at hr
  · obtain ⟨r', hr', rfl⟩ := Option.map_eq_some_iff.mp hr
    exact RedisLeaderboard.ranking_submit (h.redis r' hr') io userId displayName score
  · exact h.redis r hr

theorem Inv.applyRaftEntry {s : LeaderboardService} (h : Inv s) (io : RedisIo)
    (command : Bytes) : Inv (s.applyRaftEntry io command) := by
  unfold LeaderboardService.applyRaftEntry
  split
  · exact h.applySubmit io _ _ _
  · exact h

theorem Inv.submit {s : LeaderboardService} (h : Inv s) (r : SubmitRequest)
    (raft : Option RaftOutcome) (io ioRank : RedisIo) :
    Inv (s.submit floatText r raft io ioRank).1 := by
  have hrecord : Inv (s.record r.idempotencyKey) := by
    unfold record
    split_ifs
    · exact h
    · exact ⟨h.memory, h.redis⟩
  unfold LeaderboardService.submit
  split_ifs
  · exact h
  · exact h
  · match raft with
    | some (.notLeader _) => exact hrecord
    | some .commitFailed | some .unapplied => exact hrecord
    | some .committed =>
      dsimp only
      exact hrecord.applyRaftEntry io (makeSubmitCommand floatText r)
    | none =>
      dsimp only
      exact hrecord.applySubmit io r.userId r.displayName r.score.toInt

theorem Inv.step {s : LeaderboardService} (h : Inv s) (r : LeaderboardRequest) :
    Inv (s.step floatText r) := by
  cases r with
  | submit payload raft io ioRank =>
    simp only [LeaderboardService.step, handleSubmit]
    cases object? payload with
    | none => exact h
    | some doc =>
      cases hr : readSubmit doc with
      | error e => simpa [hr, bind, Except.bind] using h
      | ok r =>
        simp only [hr, bind, Except.bind, pure, Except.pure]
        exact h.submit floatText r raft io ioRank
  | deliver r io =>
    rw [LeaderboardService.step]
    exact h.applyRaftEntry io (makeSubmitCommand floatText r)
  | top => exact h
  | rank => exact h

/-- The places of a list of entries do not depend on the display names. -/
theorem place_zipIdx (l : List (ℤ × String)) (n : ℕ) (names : String → String) :
    ((l.zipIdx n).map fun ((score, userId), rank) =>
      ({ userId, score, rank, displayName := names userId } : LeaderboardEntry)).map
        LeaderboardEntry.place =
      (l.zipIdx n).map fun ((score, userId), rank) => { userId, score, rank } := by
  rw [List.map_map]
  rfl

theorem place_topK_redis {r : RedisLeaderboard} {io : RedisIo} {k : ℕ} (hio : io.answers = true)
    (hk : k ≠ 0) :
    (r.topK io k).map LeaderboardEntry.place =
      ((r.zset.take k).zipIdx 1).map fun ((score, userId), rank) => { userId, score, rank } := by
  rw [RedisLeaderboard.topK, if_pos ⟨hio, hk⟩]
  exact place_zipIdx _ 1 fun userId => (r.names (cStr userId)).getD ""

theorem place_topK_memory (s : SortedSet) (k : ℕ) :
    (s.topK k).map LeaderboardEntry.place =
      ((s.sorted.take k).zipIdx 1).map fun ((score, userId), rank) => { userId, score, rank } :=
  place_zipIdx _ 1 fun userId => (s.displayNames userId).getD ""

theorem Inv.top_eq {s : LeaderboardService} (h : Inv s) {io : RedisIo} {k : ℕ}
    (ha : ∀ r ∈ s.reading io, s.TopAgrees k r) :
    (s.top io k).map LeaderboardEntry.place =
      (s.leaderboard.topK k).map LeaderboardEntry.place := by
  unfold top
  cases hav : s.available io with
  | none => rfl
  | some r =>
    dsimp only
    split_ifs with hfall
    · rfl
    · by_cases hempty : r.topK io k = []
      · have hsize : s.leaderboard.sorted = [] := by
          have := not_and.mp hfall hempty
          exact List.eq_nil_of_length_eq_zero (Nat.eq_zero_of_not_pos this)
        rw [hempty, SortedSet.topK, hsize]
        simp
      · obtain ⟨hio, hk⟩ : io.answers = true ∧ k ≠ 0 := by
          by_contra hno
          exact hempty (if_neg hno)
        have hread : s.reading io = some r := by rw [reading, if_pos hio, hav]
        have hredis : s.redis = some r := by
          unfold available at hav
          split_ifs at hav
          exact hav
        rw [place_topK_redis hio hk, place_topK_memory]
        rcases ha r hread with hnil | ⟨hperm, hscores⟩
        · exact absurd (by simp [RedisLeaderboard.topK, hnil]) hempty
        · rw [Ranking.take_eq h.memory.ranking.ordered (h.redis r hredis).ordered hperm.symm
            hscores]

theorem Inv.rank_eq {s : LeaderboardService} (h : Inv s) {io : RedisIo} {userId : String}
    (ha : ∀ r ∈ s.reading io, s.RankAgrees userId r) :
    (s.rank io userId).map LeaderboardEntry.place =
      (s.leaderboard.rankOf userId).map LeaderboardEntry.place := by
  unfold rank
  cases hav : (s.available io).bind fun r => r.rankOf io userId with
  | none => rw [Option.none_or]
  | some e =>
    obtain ⟨r, hr, he⟩ := Option.bind_eq_some_iff.mp hav
    have hio : io.answers = true := by
      by_contra hno
      simp [RedisLeaderboard.rankOf, hno] at he
    have hread : s.reading io = some r := by rw [reading, if_pos hio, hr]
    have hredis : s.redis = some r := by
      unfold available at hr
      split_ifs at hr
      exact hr
    obtain ⟨f, hf, hname⟩ : ∃ f ∈ r.zset, f.2 = cStr userId := by
      by_contra hno
      have hnone : r.zset.find? (·.2 = cStr userId) = none := by
        rw [List.find?_eq_none]
        exact fun f hf heq => hno ⟨f, hf, by simpa using heq⟩
      simp [RedisLeaderboard.rankOf, hnone] at he
    rcases ha r hread with hnot | ⟨hstr, hperm, hties⟩
    · exact absurd hname (hnot f hf)
    · obtain ⟨score, user⟩ := f
      obtain rfl : user = userId := hname.trans hstr
      have hmem : (score, user) ∈ s.leaderboard.sorted := hperm.mem_iff.mp hf
      have hcount : r.zset.countP (fun f => ZrevOrder f (score, user)) =
          s.leaderboard.sorted.countP fun f => ScoreCompare f (score, user) := by
        rw [hperm.countP_eq, countP_before, countP_before]
        exact congrArg _ (hties _ hmem rfl).symm
      rw [RedisLeaderboard.rankOf_eq (h.redis r hredis) hio hstr hf, Option.some_inj] at he
      rw [h.memory.rankOf_eq hmem, ← he, Option.some_or, hcount]
      rfl

/-- The answer to a read that Redis agrees with is the one of memory. -/
theorem Inv.answer_eq {s : LeaderboardService} (h : Inv s) {r : LeaderboardRequest}
    (ha : s.ReadAgrees r) : s.answer r = s.inMemory.answer r := by
  cases r with
  | submit => rfl
  | deliver => rfl
  | top payload io =>
    rw [answer, answer]
    cases hk : topSize? payload with
    | none => rfl
    | some k =>
      have hmem : s.inMemory.top io k = s.leaderboard.topK k := by
        simp [top, available, inMemory]
      rw [Option.elim_some, Option.elim_some, h.top_eq (ha k hk), hmem]
  | rank payload io =>
    rw [answer, answer]
    cases hu : rankUser? payload with
    | none => rfl
    | some userId =>
      have hmem : s.inMemory.rank io userId = s.leaderboard.rankOf userId := by
        simp [rank, available, inMemory]
      rw [Option.elim_some, Option.elim_some, h.rank_eq (ha userId hu), hmem]

theorem Inv.answers_eq {s : LeaderboardService} (h : Inv s) {requests : List LeaderboardRequest}
    (ha : s.ReadsAgree floatText requests) :
    s.answers floatText requests = s.inMemory.answers floatText requests := by
  induction requests generalizing s with
  | nil => rfl
  | cons r rs ih =>
    obtain ⟨hread, hrest⟩ := ha
    rw [answers, answers, h.answer_eq hread, ih (h.step floatText r) hrest,
      inMemory_step]

/-- The answers of a service with Redis are those of the service without, in every run whose
reads agree. -/
theorem store_independent {requests : List LeaderboardRequest}
    (h : ({ redis := some {} } : LeaderboardService).ReadsAgree floatText requests) :
    ({ redis := some {} } : LeaderboardService).answers floatText requests =
      ({} : LeaderboardService).answers floatText requests := by
  have hinv : Inv { redis := some {} } := by
    refine ⟨SortedSet.Inv.empty, fun r hr => ?_⟩
    obtain rfl : ({} : RedisLeaderboard) = r := Option.some_inj.mp hr
    exact Ranking.nil
  exact hinv.answers_eq floatText h

/-- A submit of the user with the score. -/
def submitOf (userId : String) (score : UInt64) (io : RedisIo) : LeaderboardRequest :=
  .submit (some (.object [("score", .unsigned score), ("user_id", .string userId)])) none io {}

def topOf (k : UInt64) : LeaderboardRequest := .top (some (.object [("k", .unsigned k)])) {}

def rankOfUser (userId : String) : LeaderboardRequest :=
  .rank (some (.object [("user_id", .string userId)])) {}

/-- Two users of different scores, and reads of both kinds. -/
def agreeing : List LeaderboardRequest :=
  [submitOf "a" 1 {}, submitOf "b" 2 {}, topOf 2, rankOfUser "a"]

theorem store_independent_agreeing :
    ({ redis := some {} } : LeaderboardService).ReadsAgree (fun _ => []) agreeing ∧
    ({ redis := some {} } : LeaderboardService).answers (fun _ => []) agreeing =
      ({} : LeaderboardService).answers (fun _ => []) agreeing := by
  have h : ({ redis := some {} } : LeaderboardService).ReadsAgree (fun _ => []) agreeing :=
    ⟨trivial, trivial, by decide +kernel, by decide +kernel, trivial⟩
  exact ⟨h, store_independent (fun _ => []) h⟩

/-- Two users share a score. -/
def tied : List LeaderboardRequest := [submitOf "a" 1 {}, submitOf "b" 1 {}, topOf 1]

/-- A user submits again while Redis is away. -/
def outage : List LeaderboardRequest :=
  [submitOf "a" 1 {}, submitOf "a" 2 { available := false }, rankOfUser "a"]

/-- Redis puts the other one of two users of one score first, and answers with the score from
before an outage. -/
theorem not_store_independent :
    ({ redis := some {} } : LeaderboardService).answers (fun _ => []) tied =
        [[], [], [⟨"b", 1, 1⟩]] ∧
      ({} : LeaderboardService).answers (fun _ => []) tied = [[], [], [⟨"a", 1, 1⟩]] ∧
    ({ redis := some {} } : LeaderboardService).answers (fun _ => []) outage =
        [[], [], [⟨"a", 1, 1⟩]] ∧
      ({} : LeaderboardService).answers (fun _ => []) outage = [[], [], [⟨"a", 2, 1⟩]] ∧
    ¬∀ requests, ({ redis := some {} } : LeaderboardService).answers (fun _ => []) requests =
      ({} : LeaderboardService).answers (fun _ => []) requests := by
  refine ⟨?_, ?_, ?_, ?_, fun h => absurd (h tied) ?_⟩ <;> decide +kernel

end LeaderboardService

end BoostGateway.Leaderboard
