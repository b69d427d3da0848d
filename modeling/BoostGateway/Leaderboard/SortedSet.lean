import BoostGateway.Base.Ranking
import Mathlib.Algebra.Order.Ring.Int
import Mathlib.Data.String.Basic
import Mathlib.Logic.Function.Basic

/-!
# The two stores of the leaderboard

`SortedSet` (`leaderboard_service.cpp:33-107`) keeps the pairs of score and user in a
multiset ordered by `ScoreCompare`, next to a map from users to scores.
`RedisLeaderboard` (`redis_leaderboard.cpp`) keeps them in a Redis sorted set, which the
`ZREV` commands list by falling score and, among equal scores, by falling member.

Both are rankings (`SortedSet.Inv`, `RedisLeaderboard.ranking_submit`), under opposite
orders of the users. No arithmetic is done on scores, so a score is an integer; Redis
holds it as a double, which is exact below `2 ^ 53`.
-/

namespace BoostGateway.Leaderboard

/-- A line of the leaderboard. -/
structure LeaderboardEntry where
  userId : String
  displayName : String := ""
  score : ℤ := 0
  /-- Counts from one. -/
  rank : ℕ := 0
  deriving DecidableEq

/-- `ScoreCompare` : the higher score first, then the lower user id. -/
abbrev ScoreCompare : ℤ × String → ℤ × String → Prop := Before (· < ·)

/-- `SortedSet`. -/
structure SortedSet where
  sorted : List (ℤ × String) := []
  userScores : String → Option ℤ := fun _ => none
  displayNames : String → Option String := fun _ => none

namespace SortedSet

variable (s : SortedSet)

def submit (userId displayName : String) (score : ℤ) : SortedSet :=
  let sorted := match s.userScores userId with
    | some old => s.sorted.filter (· ≠ (old, userId))
    | none => s.sorted
  { sorted := sorted.orderedInsert ScoreCompare (score, userId)
    userScores := Function.update s.userScores userId (some score)
    displayNames :=
      if displayName = "" then s.displayNames
      else Function.update s.displayNames userId (some displayName) }

def topK (k : ℕ) : List LeaderboardEntry :=
  ((s.sorted.take k).zipIdx 1).map fun ((score, userId), rank) =>
    { userId, score, rank, displayName := (s.displayNames userId).getD "" }

def rankOf (userId : String) : Option LeaderboardEntry :=
  (s.userScores userId).map fun score =>
    { userId
      score
      rank := ((s.sorted.findIdx? (·.2 = userId)).map (· + 1)).getD 0
      displayName := (s.displayNames userId).getD "" }

def size : ℕ := s.sorted.length

/-- The multiset is a ranking of the scores in the map. -/
structure Inv (s : SortedSet) : Prop where
  ranking : Ranking (· < ·) s.sorted
  mem_sorted : ∀ score userId, (score, userId) ∈ s.sorted ↔ s.userScores userId = some score

theorem Inv.empty : Inv {} := ⟨Ranking.nil, by simp⟩

/-- What is left when the old entry of a user is erased. -/
theorem Inv.erased {s : SortedSet} (h : Inv s) (userId : String) :
    (match s.userScores userId with
      | some old => s.sorted.filter (· ≠ (old, userId))
      | none => s.sorted) = s.sorted.filter fun e => e.2 ≠ userId := by
  cases hold : s.userScores userId with
  | none =>
    refine (List.filter_eq_self.mpr fun e he => ?_).symm
    simp only [decide_eq_true_eq]
    rintro rfl
    simp [(h.mem_sorted e.1 e.2).mp he] at hold
  | some old =>
    refine List.filter_congr fun e he => decide_eq_decide.mpr ?_
    refine not_congr ⟨fun heq => by rw [heq], fun heq => ?_⟩
    exact h.ranking.eq_of_name he ((h.mem_sorted old userId).mpr hold) heq

theorem Inv.submit {s : SortedSet} (h : Inv s) (userId displayName : String) (score : ℤ) :
    Inv (s.submit userId displayName score) := by
  unfold SortedSet.submit
  rw [h.erased userId]
  refine ⟨(h.ranking.filter _).insert fun f hf => by simpa using (List.mem_filter.mp hf).2, ?_⟩
  intro score' userId'
  simp only [List.mem_orderedInsert, List.mem_filter, h.mem_sorted, decide_eq_true_eq,
    Prod.mk.injEq]
  by_cases hu : userId' = userId
  · subst hu
    simp [eq_comm]
  · simp [hu]

/-- The rank of a user is one more than the number of entries before its own. -/
theorem Inv.rankOf_eq {s : SortedSet} (h : Inv s) {score : ℤ} {userId : String}
    (hmem : (score, userId) ∈ s.sorted) :
    s.rankOf userId = some
      { userId
        score
        rank := s.sorted.countP (fun f => ScoreCompare f (score, userId)) + 1
        displayName := (s.displayNames userId).getD "" } := by
  have hidx := h.ranking.findIdx?_eq hmem
  rw [rankOf, (h.mem_sorted score userId).mp hmem, Option.map_some, hidx]
  rfl

end SortedSet

/-! ## Redis -/

/-- What a command sees of a string : `c_str` ends at the first zero byte. -/
def cStr (s : String) : String := String.ofList (s.toList.takeWhile (· ≠ '\x00'))

/-- The order of `ZREVRANGE` : the higher score first, then the higher member. -/
abbrev ZrevOrder : ℤ × String → ℤ × String → Prop := Before (· > ·)

/-- The leaderboard in Redis. -/
structure RedisLeaderboard where
  /-- The sorted set, as `ZREVRANGE` lists it. -/
  zset : List (ℤ × String) := []
  /-- The hash of display names. -/
  names : String → Option String := fun _ => none

/-- How the calls of one request to Redis go. -/
structure RedisIo where
  /-- `available()`. -/
  available : Bool := true
  /-- A read gets its reply. -/
  answers : Bool := true
  /-- `ZADD` takes effect. -/
  stored : Bool := true
  /-- `HSET` takes effect. -/
  named : Bool := true

namespace RedisLeaderboard

def zadd (zset : List (ℤ × String)) (score : ℤ) (member : String) : List (ℤ × String) :=
  (zset.filter fun e => e.2 ≠ member).orderedInsert ZrevOrder (score, member)

variable (r : RedisLeaderboard)

/-- `submit`, as far as it changes Redis; the caller does not look at its result. -/
def submit (io : RedisIo) (userId displayName : String) (score : ℤ) : RedisLeaderboard :=
  { zset := if io.stored then zadd r.zset score (cStr userId) else r.zset
    names :=
      if io.stored ∧ displayName ≠ "" ∧ io.named then
        Function.update r.names (cStr userId) (some (cStr displayName))
      else r.names }

/-- `top_k`, empty where Redis does not answer. -/
def topK (io : RedisIo) (k : ℕ) : List LeaderboardEntry :=
  if io.answers ∧ k ≠ 0 then
    ((r.zset.take k).zipIdx 1).map fun ((score, userId), rank) =>
      { userId, score, rank, displayName := (r.names (cStr userId)).getD "" }
  else []

/-- `rank_of` : `ZREVRANK`, `ZSCORE` and `HGET`. -/
def rankOf (io : RedisIo) (userId : String) : Option LeaderboardEntry :=
  if io.answers then do
    let rank ← r.zset.findIdx? (·.2 = cStr userId)
    let entry ← r.zset.find? (·.2 = cStr userId)
    return { userId, rank := rank + 1, score := entry.1,
             displayName := (r.names (cStr userId)).getD "" }
  else none

theorem ranking_submit {r : RedisLeaderboard} (h : Ranking (· > ·) r.zset) (io : RedisIo)
    (userId displayName : String) (score : ℤ) :
    Ranking (· > ·) (r.submit io userId displayName score).zset := by
  unfold submit
  dsimp only
  split_ifs
  · exact (h.filter _).insert fun f hf => by simpa using (List.mem_filter.mp hf).2
  · exact h

theorem rankOf_eq {r : RedisLeaderboard} (h : Ranking (· > ·) r.zset) {io : RedisIo}
    (hio : io.answers = true) {score : ℤ} {userId : String} (hstr : cStr userId = userId)
    (hmem : (score, userId) ∈ r.zset) :
    r.rankOf io userId = some
      { userId
        score
        rank := r.zset.countP (fun f => ZrevOrder f (score, userId)) + 1
        displayName := (r.names userId).getD "" } := by
  have hidx := h.findIdx?_eq hmem
  obtain ⟨e, he⟩ : ∃ e, r.zset.find? (fun e => e.2 = userId) = some e := by
    rw [← Option.isSome_iff_exists, List.find?_isSome]
    exact ⟨_, hmem, by simp⟩
  obtain rfl : e = (score, userId) := by
    refine h.eq_of_name (List.mem_of_find?_eq_some he) hmem ?_
    simpa using List.find?_some he
  rw [rankOf, if_pos hio, hstr, hidx, he]
  rfl

end RedisLeaderboard

end BoostGateway.Leaderboard
