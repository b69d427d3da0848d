import BoostGateway.Leaderboard.Idempotency
import Mathlib

/-!
# What the leaderboard shows

After any submits the multiset of `SortedSet` lists every submitted user once, with the
user's last score, and `top_k` and `rank_of` read the same ranking off it
(`represents_submits`).

The score of a request is read with the default `0`, so as an `int`, on the path through
Raft as on the direct one : what an applied submit stores is the score exactly when it fits
32 bits, and a submit that Raft takes without applying it stores nothing (`keepsScore_iff`).
-/

namespace BoostGateway.Leaderboard

open Json

/-! ## A run of submits -/

/-- A call of `SortedSet::submit`. -/
structure SubmitCall where
  userId : String
  displayName : String := ""
  score : ℤ

/-- The leaderboard after some calls. -/
def afterSubmits (calls : List SubmitCall) : SortedSet :=
  calls.foldl (fun s c => s.submit c.userId c.displayName c.score) {}

/-- The score a user submitted last. -/
def lastScore (calls : List SubmitCall) (userId : String) : Option ℤ :=
  (calls.reverse.find? (·.userId = userId)).map (·.score)

variable (calls : List SubmitCall)

theorem afterSubmits_concat (c : SubmitCall) :
    afterSubmits (calls ++ [c]) =
      (afterSubmits calls).submit c.userId c.displayName c.score := by
  rw [afterSubmits, List.foldl_append]
  rfl

theorem lastScore_concat (c : SubmitCall) (u : String) :
    lastScore (calls ++ [c]) u = if u = c.userId then some c.score else lastScore calls u := by
  rw [lastScore, List.reverse_append, List.reverse_singleton, List.singleton_append,
    List.find?_cons]
  by_cases hu : u = c.userId
  · simp [hu]
  · simp [hu, Ne.symm hu, lastScore]

theorem isSome_lastScore (u : String) :
    (lastScore calls u).isSome ↔ u ∈ calls.map SubmitCall.userId := by
  simp [lastScore]

theorem inv_afterSubmits : (afterSubmits calls).Inv := by
  induction calls using List.reverseRecOn with
  | nil => exact SortedSet.Inv.empty
  | append_singleton calls c ih =>
    rw [afterSubmits_concat]
    exact ih.submit c.userId c.displayName c.score

theorem userScores_afterSubmits : (afterSubmits calls).userScores = lastScore calls := by
  induction calls using List.reverseRecOn with
  | nil => rfl
  | append_singleton calls c ih =>
    funext u
    rw [afterSubmits_concat, lastScore_concat, ← ih]
    exact Function.update_apply ..

theorem mem_sorted_afterSubmits (score : ℤ) (u : String) :
    (score, u) ∈ (afterSubmits calls).sorted ↔ lastScore calls u = some score := by
  rw [(inv_afterSubmits calls).mem_sorted, userScores_afterSubmits]

/-- The users of the multiset are the users of the calls. -/
theorem users_afterSubmits :
    ((afterSubmits calls).sorted.map Prod.snd).Perm (calls.map SubmitCall.userId).dedup := by
  refine (List.perm_ext_iff_of_nodup (inv_afterSubmits calls).ranking.names
    (List.nodup_dedup _)).mpr fun u => ?_
  rw [List.mem_dedup, ← isSome_lastScore, Option.isSome_iff_exists]
  simp only [List.mem_map, Prod.exists, exists_eq_right, mem_sorted_afterSubmits]

/-! ## Reading the ranking -/

namespace SortedSet

/-- The pairs `top_k` reads. -/
theorem map_pair_topK (s : SortedSet) (k : ℕ) :
    (s.topK k).map (fun e => (e.score, e.userId)) = s.sorted.take k := by
  rw [topK, List.map_map]
  exact List.zipIdx_map_fst 1 _

theorem map_rank_topK (s : SortedSet) (k : ℕ) :
    (s.topK k).map LeaderboardEntry.rank = List.range' 1 (min k s.sorted.length) := by
  rw [topK, List.map_map, ← List.length_take]
  exact List.zipIdx_map_snd 1 _

/-- As many entries stand before an entry as its place says. -/
theorem Inv.countP_eq {s : SortedSet} (h : s.Inv) {n : ℕ} {e : ℤ × String}
    (he : s.sorted[n]? = some e) : s.sorted.countP (fun f => ScoreCompare f e) = n := by
  obtain ⟨hlt, rfl⟩ := List.getElem?_eq_some_iff.mp he
  have hidx := h.ranking.findIdx?_eq (List.getElem_mem hlt)
  obtain ⟨hlt', hname, -⟩ := List.findIdx?_eq_some_iff_getElem.mp hidx
  refine (List.getElem?_inj (by rwa [List.length_map]) h.ranking.names).mp ?_
  rw [List.getElem?_map, List.getElem?_map, he, List.getElem?_eq_getElem hlt']
  exact congrArg some (of_decide_eq_true hname)

/-- `top_k` lists a user with the entry of `rank_of`, when the rank is at most `k`. -/
theorem Inv.mem_topK_iff {s : SortedSet} (h : s.Inv) {k : ℕ} {e : LeaderboardEntry} :
    e ∈ s.topK k ↔ s.rankOf e.userId = some e ∧ e.rank ≤ k := by
  have hmem : e ∈ s.topK k ↔ ∃ score u rank, (1 ≤ rank ∧
      (s.sorted.take k)[rank - 1]? = some (score, u)) ∧
      (⟨u, (s.displayNames u).getD "", score, rank⟩ : LeaderboardEntry) = e := by
    simp only [topK, List.mem_map, List.mem_zipIdx_iff_le_and_getElem?_sub, Prod.exists]
  rw [hmem]
  constructor
  · rintro ⟨score, u, rank, ⟨hrank, hget⟩, rfl⟩
    rw [List.getElem?_take] at hget
    split_ifs at hget with hk
    have hin := List.mem_of_getElem? hget
    rw [h.rankOf_eq hin, h.countP_eq hget, Nat.sub_add_cancel hrank]
    exact ⟨rfl, show rank ≤ k by omega⟩
  · rintro ⟨hrank, hle⟩
    obtain ⟨score, hscore⟩ : ∃ score, s.userScores e.userId = some score := by
      rw [rankOf, Option.map_eq_some_iff] at hrank
      exact ⟨_, hrank.choose_spec.1⟩
    have hin := (h.mem_sorted score e.userId).mpr hscore
    obtain ⟨n, hn, hget⟩ := List.getElem_of_mem hin
    have hget' : s.sorted[n]? = some (score, e.userId) :=
      List.getElem?_eq_some_iff.mpr ⟨hn, hget⟩
    rw [h.rankOf_eq hin, h.countP_eq hget', Option.some_inj] at hrank
    have hplace : e.rank = n + 1 := by rw [← hrank]
    refine ⟨score, e.userId, n + 1, ⟨by omega, ?_⟩, hrank⟩
    rw [Nat.add_sub_cancel, List.getElem?_take, if_pos (by omega), hget']

end SortedSet

/-- The multiset is the ranking of the last scores, and `top_k` and `rank_of` read it. -/
theorem represents_submits (calls : List SubmitCall) :
    let s := afterSubmits calls
    let n := (calls.map SubmitCall.userId).dedup.length
    (s.sorted.map Prod.snd).Perm (calls.map SubmitCall.userId).dedup ∧
    (∀ score u, (score, u) ∈ s.sorted ↔ lastScore calls u = some score) ∧
    s.sorted.Pairwise ScoreCompare ∧
    (∀ k, (s.topK k).map (fun e => (e.score, e.userId)) = s.sorted.take (min k n) ∧
      (s.topK k).map LeaderboardEntry.rank = List.range' 1 (min k n)) ∧
    (∀ u, (s.rankOf u).map (fun e => (e.userId, e.score, e.rank)) =
      (lastScore calls u).map fun score =>
        (u, score, 1 + s.sorted.countP fun f => ScoreCompare f (score, u))) ∧
    ∀ k e, e ∈ s.topK k ↔ s.rankOf e.userId = some e ∧ e.rank ≤ k := by
  intro s n
  have hinv : s.Inv := inv_afterSubmits calls
  have hn : s.sorted.length = n := by
    rw [← List.length_map Prod.snd]
    exact (users_afterSubmits calls).length_eq
  refine ⟨users_afterSubmits calls, mem_sorted_afterSubmits calls, hinv.ranking.ordered,
    fun k => ⟨?_, ?_⟩, fun u => ?_, fun k e => hinv.mem_topK_iff⟩
  · rw [s.map_pair_topK, ← hn, ← List.take_take, List.take_length]
  · rw [s.map_rank_topK, hn]
  · cases hlast : lastScore calls u with
    | none =>
      have hscores : s.userScores u = none :=
        (congrFun (userScores_afterSubmits calls) u).trans hlast
      rw [SortedSet.rankOf, hscores]
      rfl
    | some score =>
      rw [hinv.rankOf_eq ((mem_sorted_afterSubmits calls score u).mpr hlast)]
      simp only [Option.map_some]
      rw [Nat.add_comm]

/-! ## The score of a request -/

/-- A number of a document that stands for `score`. -/
def IsScore (score : Int64) (j : Json) : Prop :=
  j = .integer score ∨ 0 ≤ score.toInt ∧ j = .unsigned score.toUInt64

/-- `get<int>` keeps the lower half. -/
theorem getInt32_of_isScore {score : Int64} {j : Json} (h : IsScore score j) :
    j.getInt32 = .ok score.toInt32 := by
  rcases h with rfl | ⟨-, rfl⟩
  · rfl
  · have hlow : score.toUInt64.toUInt32.toInt32 = score.toInt32 := by
      apply Int32.toBitVec_inj.mp
      simp [BitVec.signExtend_eq_setWidth_of_le]
    exact congrArg Except.ok hlow

theorem toInt_toInt32_iff (score : Int64) :
    score.toInt32.toInt = score.toInt ↔ -2 ^ 31 ≤ score.toInt ∧ score.toInt < 2 ^ 31 := by
  rw [Int64.toInt_toInt32]
  constructor
  · intro h
    rw [← h]
    exact ⟨Int.le_bmod (by decide), Int.bmod_lt (by decide)⟩
  · rintro ⟨hle, hlt⟩
    exact Int.bmod_eq_of_le (by omega) (by omega)

namespace LeaderboardService

/-- The fields `handle_submit` reads. -/
theorem readSubmit_eq_ok {doc : Json} {r : SubmitRequest} (h : readSubmit doc = .ok r) :
    doc.value getString "user_id" "" = .ok r.userId ∧ doc.value getInt32 "score" 0 = .ok r.score ∧
      doc.value getString "idempotency_key" "" = .ok r.idempotencyKey := by
  simp only [readSubmit] at h
  cases huser : doc.value getString "user_id" "" with
  | error e => simp [huser, bind, Except.bind] at h
  | ok u =>
    cases hname : doc.value getString "display_name" "" with
    | error e => simp [huser, hname, bind, Except.bind] at h
    | ok name =>
      cases hscore : doc.value getInt32 "score" 0 with
      | error e => simp [huser, hname, hscore, bind, Except.bind] at h
      | ok score =>
        cases hkey : doc.value getString "idempotency_key" "" with
        | error e => simp [huser, hname, hscore, hkey, bind, Except.bind] at h
        | ok key =>
          simp only [huser, hname, hscore, hkey, bind, Except.bind, pure, Except.pure,
            Except.ok.injEq] at h
          subst h
          exact ⟨rfl, rfl, rfl⟩

/-- A submit that is answered `ok` and whose key is new stores the score it read, unless
Raft takes it without applying it. -/
theorem userScores_handleSubmit (floatText : Float → List Char) {s s' : LeaderboardService}
    {doc : Json} {raft : Option RaftOutcome} {io ioRank : RedisIo} {reply : Reply}
    (h : s.handleSubmit floatText (some doc) raft io ioRank = .ok (s', reply))
    (hok : reply.isOk)
    (hkey : ∀ k, doc.value getString "idempotency_key" "" = .ok k →
      k = "" ∨ k ∉ s.appliedIdempotencyKeys) :
    ∃ r, readSubmit doc = .ok r ∧ s'.leaderboard.userScores r.userId =
      if appliedAtOnce raft then some r.score.toInt else s.leaderboard.userScores r.userId := by
  obtain ⟨ms, rfl⟩ : ∃ ms, doc = .object ms := by
    cases doc with
    | object ms => exact ⟨ms, rfl⟩
    | _ =>
      have hpair : (s, Reply.error (-1004) "invalid_json") = (s', reply) := Except.ok.inj h
      rw [← (Prod.mk.inj hpair).2] at hok
      cases hok
  cases hread : readSubmit (.object ms) with
  | error e => simp [handleSubmit, object?, hread, bind, Except.bind] at h
  | ok r =>
    simp only [handleSubmit, object?, hread, bind, Except.bind, pure, Except.pure,
      Except.ok.injEq] at h
    have hrep : s.repeats r = false := by
      have hfresh := hkey _ (readSubmit_eq_ok hread).2.2
      simp only [repeats, decide_eq_false_iff_not]
      tauto
    have hisOk := s.isOk_submit floatText r raft io ioRank
    rw [h] at hisOk
    have hu := (hisOk.mp hok).1
    have hleaderboard := s.submit_leaderboard floatText r raft io ioRank
    rw [h] at hleaderboard
    change s'.leaderboard = _ at hleaderboard
    refine ⟨r, rfl, ?_⟩
    rw [hleaderboard]
    by_cases honce : appliedAtOnce raft
    · rw [if_pos ⟨hu, hrep, honce⟩, if_pos honce]
      exact Function.update_self ..
    · rw [if_neg (fun hall => honce hall.2.2), if_neg honce]

end LeaderboardService

/-- What is stored for the user after a submit is the score of the request exactly when the
submit is applied and an `int` holds the score, or the submit is not applied and the score is
the stored one. -/
theorem keepsScore_iff (floatText : Float → List Char) {s s' : LeaderboardService}
    {doc j : Json} {raft : Option RaftOutcome} {io ioRank : RedisIo} {reply : Reply}
    (h : s.handleSubmit floatText (some doc) raft io ioRank = .ok (s', reply))
    (hok : reply.isOk)
    (hkey : ∀ k, doc.value getString "idempotency_key" "" = .ok k →
      k = "" ∨ k ∉ s.appliedIdempotencyKeys)
    {score : Int64} (hscore : doc.find? "score" = some j) (hj : IsScore score j)
    {u : String} (hu : doc.value getString "user_id" "" = .ok u) :
    s'.leaderboard.userScores u = some score.toInt ↔
      if appliedAtOnce raft then -2 ^ 31 ≤ score.toInt ∧ score.toInt < 2 ^ 31
      else s.leaderboard.userScores u = some score.toInt := by
  obtain ⟨r, hread, hstored⟩ :=
    LeaderboardService.userScores_handleSubmit floatText h hok hkey
  obtain ⟨huser, hint, -⟩ := LeaderboardService.readSubmit_eq_ok hread
  obtain ⟨ms, rfl⟩ := object_of_find? hscore
  obtain rfl : u = r.userId := Except.ok.inj (hu.symm.trans huser)
  have hnarrow : r.score = score.toInt32 := by
    rw [value, hscore, Option.elim_some, getInt32_of_isScore hj] at hint
    exact (Except.ok.inj hint).symm
  rw [hstored]
  split_ifs
  · rw [hnarrow, Option.some_inj, toInt_toInt32_iff]
  · rfl

/-- A submit of `2 ^ 31` by user `u`. -/
def largeSubmit : Json := .object [("score", .unsigned (2 ^ 31)), ("user_id", .string "u")]

/-- The score `2 ^ 31` is stored as `-2 ^ 31`. -/
theorem largeSubmit_not_kept : IsScore (2 ^ 31) (.unsigned (2 ^ 31)) ∧ ∃ s' reply,
    ({} : LeaderboardService).handleSubmit (fun _ => []) (some largeSubmit) none {} {} =
      .ok (s', reply) ∧
    reply.isOk ∧ s'.leaderboard.userScores "u" = some (-2 ^ 31) :=
  ⟨.inr ⟨by decide, rfl⟩, _, _, rfl, by decide, by decide⟩

/-- A submit of `7` by user `u`. -/
def smallSubmit : Json := .object [("score", .unsigned 7), ("user_id", .string "u")]

theorem keepsScore_iff_small : ∃ s' reply,
    ({} : LeaderboardService).handleSubmit (fun _ => []) (some smallSubmit) (some .committed)
      {} {} = .ok (s', reply) ∧
    (s'.leaderboard.userScores "u" = some (7 : Int64).toInt ↔
      -2 ^ 31 ≤ (7 : Int64).toInt ∧ (7 : Int64).toInt < 2 ^ 31) :=
  ⟨_, _, rfl, @keepsScore_iff (fun _ => []) {} _ smallSubmit (.unsigned 7) (some .committed) {}
    {} _ rfl (by decide) (fun k _ => .inr (by simp)) 7 rfl (.inr ⟨by decide, rfl⟩) "u" rfl⟩

end BoostGateway.Leaderboard
