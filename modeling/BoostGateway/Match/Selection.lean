import Mathlib.Algebra.Order.Group.Unbundled.Abs
import Mathlib.Algebra.Order.Group.Abs
import Mathlib.Algebra.Order.Ring.Int
import Mathlib.Data.List.Nodup
import BoostGateway.Match.Matchmaking

/-!
# What the matchmaker makes of one queue

`try_match_mode` and `expired_players` (`matchmaking_service.cpp`) on a queue nobody
else changes meanwhile. The queue holds what `add`, `remove` and `remove_players` leave
in it (`Content`) : one entry a user, with the `int` that `handle_match_join` reads for
its MMR. The sums and differences are the 64-bit ones of the code (`wrap64`), and
`std::sort` is any function that sorts by queue time.

A match is found when some player has enough players in its window, and is then fair
(`tryMatchMode_correct`). The purge subtracts the time a player joined from the time it
is now, and a player who joined later than now has waited almost `2 ^ 64` milliseconds
(`purgedLate_iff`).
-/

namespace BoostGateway.Match

/-- What a 64-bit signed operation with the exact result `z` gives. -/
def wrap64 (z : ℤ) : ℤ := (Int64.ofInt z).toInt

theorem wrap64_eq {z : ℤ} (h : -2 ^ 63 ≤ z) (h' : z < 2 ^ 63) : wrap64 z = z :=
  Int64.toInt_ofInt_of_le h h'

/-- What a join brings : an `int` for the MMR and an unsigned 64-bit time. -/
structure MatchPlayer.Joins (p : MatchPlayer) : Prop where
  le_mmr : -2 ^ 31 ≤ p.mmr
  mmr_lt : p.mmr < 2 ^ 31
  queuedAtMs_lt : p.queuedAtMs < 2 ^ 64

namespace MatchQueue

/-- What a queue can hold. -/
inductive Content : MatchQueue → Prop
  | empty : Content []
  | add {q : MatchQueue} {p : MatchPlayer} : Content q → p.Joins → Content (q.add p)
  | remove {q : MatchQueue} {u : UserId} : Content q → Content (q.remove u)
  | removePlayers {q : MatchQueue} {us : List UserId} : Content q → Content (q.removePlayers us)

/-! ## The content of a queue -/

theorem removePlayers_sublist (us : List UserId) (q : MatchQueue) :
    (q.removePlayers us).Sublist q := by
  induction us generalizing q with
  | nil => exact List.Sublist.refl q
  | cons u us ih => exact (ih _).trans List.filter_sublist

theorem Content.joins {q : MatchQueue} (hq : q.Content) : ∀ p ∈ q, p.Joins := by
  induction hq with
  | empty => simp
  | add _ hp ih =>
    intro x hx
    rcases List.mem_append.mp hx with hx | hx
    · exact ih x (List.mem_of_mem_filter hx)
    · rwa [List.mem_singleton.mp hx]
  | remove _ ih => exact fun x hx => ih x (List.eraseP_sublist.subset hx)
  | removePlayers _ ih => exact fun x hx => ih x ((removePlayers_sublist _ _).subset hx)

/-- A user has one entry. -/
theorem Content.nodup {q : MatchQueue} (hq : q.Content) : q.userIds.Nodup := by
  induction hq with
  | empty => exact List.nodup_nil
  | @add q p _ _ ih =>
    rw [MatchQueue.add, userIds, List.map_append]
    refine List.nodup_append'.mpr
      ⟨ih.sublist (List.filter_sublist.map _), List.nodup_singleton _, fun u hu hup => ?_⟩
    obtain ⟨x, hx, rfl⟩ := List.mem_map.mp hu
    have hne := (List.mem_filter.mp hx).2
    simp only [List.map_cons, List.map_nil, List.mem_singleton] at hup
    simp [hup] at hne
  | remove _ ih => exact ih.sublist (List.eraseP_sublist.map _)
  | removePlayers _ ih => exact ih.sublist ((removePlayers_sublist _ _).map _)

theorem Content.eq_of_userId_eq {q : MatchQueue} (hq : q.Content) {p x : MatchPlayer}
    (hp : p ∈ q) (hx : x ∈ q) (h : x.userId = p.userId) : x = p :=
  List.inj_on_of_nodup_map hq.nodup hx hp h

end MatchQueue

/-! ## A match -/

/-- `get_eligible`, before it sorts. -/
def collectEligible (q : MatchQueue) (mmrCenter mmrRange : ℤ) : List MatchPlayer :=
  q.filter fun p =>
    (if mmrCenter < p.mmr then wrap64 (p.mmr - mmrCenter) else wrap64 (mmrCenter - p.mmr)) ≤
      mmrRange

/-- The loop over the anchors, up to the first with enough eligible players. -/
def firstEligible (sort : List MatchPlayer → List MatchPlayer) (mmrRange : ℤ) (required : ℕ)
    (q : MatchQueue) : List MatchPlayer → List MatchPlayer
  | [] => []
  | anchor :: anchors =>
    let eligible := sort (collectEligible q anchor.mmr mmrRange)
    if required ≤ eligible.length then eligible
    else firstEligible sort mmrRange required q anchors

/-- `total_mmr` after the loop over the players. -/
def totalMmr (players : List MatchPlayer) : ℤ :=
  players.foldl (fun total p => wrap64 (total + p.mmr)) 0

/-- `try_match_mode`, with `id` for `g_next_match_id`. -/
def tryMatchMode (sort : List MatchPlayer → List MatchPlayer) (mmrRangeInitial : ℤ) (id : ℕ)
    (mode : MatchMode) (q : MatchQueue) : Option MatchResult :=
  let required := playersForMode mode
  let eligible := firstEligible sort mmrRangeInitial required q (sort q)
  if eligible = [] then none
  else
    let players := eligible.take required
    some
      { matchId := "match_" ++ toString id
        mode := mode
        playerIds := players.map MatchPlayer.userId
        avgMmr := (totalMmr players).tdiv required }

/-- The players within `mmrRange` of `p`. -/
def window (q : MatchQueue) (mmrRange : ℤ) (p : MatchPlayer) : List MatchPlayer :=
  q.filter fun x => |x.mmr - p.mmr| ≤ mmrRange

theorem playersForMode_pos (mode : MatchMode) : 0 < playersForMode mode := by
  cases mode <;> decide

theorem playersForMode_le (mode : MatchMode) : playersForMode mode ≤ 8 := by
  cases mode <;> decide

section Queue

variable {sort : List MatchPlayer → List MatchPlayer}
  (hsort : ∀ players, MatchQueue.ByQueueTime players (sort players))
  {q : MatchQueue} (hq : q.Content)

/-- No difference of two MMRs leaves 64 bits. -/
theorem collectEligible_eq_window (hq : q.Content) (mmrRange : ℤ) {p : MatchPlayer}
    (hp : p ∈ q) :
    collectEligible q p.mmr mmrRange = window q mmrRange p := by
  refine List.filter_congr fun x hx => ?_
  obtain ⟨hp1, hp2, -⟩ := hq.joins p hp
  obtain ⟨hx1, hx2, -⟩ := hq.joins x hx
  have hdiff : (if p.mmr < x.mmr then wrap64 (x.mmr - p.mmr) else wrap64 (p.mmr - x.mmr)) =
      |x.mmr - p.mmr| := by
    split_ifs with hlt
    · rw [wrap64_eq (by omega) (by omega), abs_of_pos (by omega)]
    · rw [wrap64_eq (by omega) (by omega), abs_of_nonpos (by omega)]
      omega
  rw [hdiff]

include hsort hq

/-- The loop ends with nobody, or with the window of an anchor that is large enough. -/
theorem firstEligible_cases (mmrRange : ℤ) (required : ℕ) {anchors : List MatchPlayer}
    (hsub : anchors ⊆ q) :
    (firstEligible sort mmrRange required q anchors = [] ∧
      ∀ p ∈ anchors, (window q mmrRange p).length < required) ∨
    ∃ p ∈ anchors, required ≤ (window q mmrRange p).length ∧
      firstEligible sort mmrRange required q anchors = sort (window q mmrRange p) := by
  induction anchors with
  | nil => exact Or.inl ⟨rfl, by simp⟩
  | cons anchor anchors ih =>
    have hanchor : anchor ∈ q := hsub List.mem_cons_self
    have hlength : (sort (window q mmrRange anchor)).length = (window q mmrRange anchor).length :=
      (hsort _).1.length_eq
    rw [firstEligible, collectEligible_eq_window hq mmrRange hanchor]
    split_ifs with hle
    · exact Or.inr ⟨anchor, List.mem_cons_self, hlength ▸ hle, rfl⟩
    · rcases ih fun x hx => hsub (List.mem_cons_of_mem _ hx) with ⟨hnil, hfew⟩ | ⟨p, hp, henough⟩
      · refine Or.inl ⟨hnil, fun p hp => ?_⟩
        rcases List.mem_cons.mp hp with rfl | hp
        · omega
        · exact hfew p hp
      · exact Or.inr ⟨p, List.mem_cons_of_mem _ hp, henough⟩

/-- What `try_match_mode` gives : nothing while all windows are small, and otherwise the
first players of a window that is large enough. -/
theorem tryMatchMode_cases (mmrRange : ℤ) (id : ℕ) (mode : MatchMode) :
    (tryMatchMode sort mmrRange id mode q = none ∧
      ∀ p ∈ q, (window q mmrRange p).length < playersForMode mode) ∨
    ∃ p ∈ q, playersForMode mode ≤ (window q mmrRange p).length ∧
      ∃ players, players = (sort (window q mmrRange p)).take (playersForMode mode) ∧
        tryMatchMode sort mmrRange id mode q = some
          { matchId := "match_" ++ toString id
            mode := mode
            playerIds := players.map MatchPlayer.userId
            avgMmr := (totalMmr players).tdiv (playersForMode mode) } := by
  have hpos := playersForMode_pos mode
  rcases firstEligible_cases hsort hq mmrRange (playersForMode mode)
      (hsort q).1.subset with ⟨hnil, hfew⟩ | ⟨p, hp, henough, heligible⟩
  · refine Or.inl ⟨?_, fun p hp => hfew p ((hsort q).1.mem_iff.mpr hp)⟩
    rw [tryMatchMode, if_pos hnil]
  · have hne : sort (window q mmrRange p) ≠ [] := by
      intro hnil
      have hlength := (hsort (window q mmrRange p)).1.length_eq
      rw [hnil, List.length_nil] at hlength
      omega
    refine Or.inr ⟨p, (hsort q).1.mem_iff.mp hp, henough, _, rfl, ?_⟩
    rw [tryMatchMode, heligible, if_neg hne]

end Queue

/-! ## The players of a match -/

variable {players : List MatchPlayer}

/-- The running sum of the MMRs of a few players stays in 64 bits. -/
theorem foldl_totalMmr (h : ∀ p ∈ players, p.Joins)
    {total : ℤ} (hle : |total| + players.length * 2 ^ 31 < 2 ^ 63) :
    players.foldl (fun total p => wrap64 (total + p.mmr)) total =
      total + (players.map MatchPlayer.mmr).sum := by
  induction players generalizing total with
  | nil => simp
  | cons p players ih =>
    obtain ⟨hp1, hp2, -⟩ := h p List.mem_cons_self
    have habs := abs_le.mp (le_refl |total|)
    rw [List.length_cons, Nat.cast_succ] at hle
    have hstep : |total + p.mmr| ≤ |total| + 2 ^ 31 := by
      rw [abs_le]
      omega
    have hnonneg : (0 : ℤ) ≤ players.length * 2 ^ 31 := by omega
    have hwrap : wrap64 (total + p.mmr) = total + p.mmr :=
      wrap64_eq (by omega) (by omega)
    rw [List.foldl_cons, hwrap, ih (fun x hx => h x (List.mem_cons_of_mem _ hx)) (by omega),
      List.map_cons, List.sum_cons, add_assoc]

/-- A sum lies between the multiples of two bounds of its terms. -/
theorem sum_mmr_bounds {lo hi : ℤ} (h : ∀ p ∈ players, lo ≤ p.mmr ∧ p.mmr ≤ hi) :
    lo * players.length ≤ (players.map MatchPlayer.mmr).sum ∧
      (players.map MatchPlayer.mmr).sum ≤ hi * players.length := by
  induction players with
  | nil => simp
  | cons p players ih =>
    obtain ⟨hlo, hhi⟩ := ih fun x hx => h x (List.mem_cons_of_mem _ hx)
    obtain ⟨hlo', hhi'⟩ := h p List.mem_cons_self
    simp only [List.map_cons, List.sum_cons, List.length_cons, Nat.cast_succ, mul_add, mul_one]
    omega

/-- Some player has the least MMR and some player the greatest. -/
theorem exists_mmr_bounds (h : players ≠ []) :
    ∃ lo ∈ players, ∃ hi ∈ players, ∀ p ∈ players, lo.mmr ≤ p.mmr ∧ p.mmr ≤ hi.mmr := by
  induction players with
  | nil => exact absurd rfl h
  | cons p players ih =>
    by_cases hnil : players = []
    · subst hnil
      exact ⟨p, List.mem_cons_self, p, List.mem_cons_self, by simp⟩
    · obtain ⟨lo, hlo, hi, hhi, hbounds⟩ := ih hnil
      have hlohi := hbounds lo hlo
      refine ⟨if p.mmr ≤ lo.mmr then p else lo, ?_, if hi.mmr ≤ p.mmr then p else hi, ?_, ?_⟩
      · split_ifs
        exacts [List.mem_cons_self, List.mem_cons_of_mem _ hlo]
      · split_ifs
        exacts [List.mem_cons_self, List.mem_cons_of_mem _ hhi]
      · intro x hx
        have hx' : x = p ∨ (lo.mmr ≤ x.mmr ∧ x.mmr ≤ hi.mmr) := by
          rcases List.mem_cons.mp hx with rfl | hx
          exacts [Or.inl rfl, Or.inr (hbounds x hx)]
        rcases hx' with rfl | hx' <;> split_ifs <;> omega

/-- The truncated average lies between the bounds. -/
theorem tdiv_bounds {s lo hi : ℤ} {n : ℕ} (hn : 0 < n) (hlo : lo * n ≤ s) (hhi : s ≤ hi * n) :
    lo ≤ s.tdiv n ∧ s.tdiv n ≤ hi := by
  have hn' : (0 : ℤ) < n := by omega
  constructor
  · calc lo = (lo * n).tdiv n := (Int.mul_tdiv_cancel lo hn'.ne').symm
      _ ≤ s.tdiv n := Int.tdiv_le_tdiv hn' hlo
  · calc s.tdiv n ≤ (hi * n).tdiv n := Int.tdiv_le_tdiv hn' hhi
      _ = hi := Int.mul_tdiv_cancel hi hn'.ne'

/-- A result as a match should be : so many distinct users of the queue, no two further
apart than two ranges, and an average among their MMRs. -/
structure FairMatch (q : MatchQueue) (mmrRange : ℤ) (required : ℕ) (result : MatchResult)
    (players : List MatchPlayer) : Prop where
  subset : players ⊆ q
  playerIds : result.playerIds = players.map MatchPlayer.userId
  nodup : result.playerIds.Nodup
  length : result.playerIds.length = required
  close : ∀ a ∈ players, ∀ b ∈ players, |a.mmr - b.mmr| ≤ 2 * mmrRange
  average : ∃ lo ∈ players, ∃ hi ∈ players,
    (∀ p ∈ players, lo.mmr ≤ p.mmr ∧ p.mmr ≤ hi.mmr) ∧
      lo.mmr ≤ result.avgMmr ∧ result.avgMmr ≤ hi.mmr

/-- A match is found exactly when some player's window holds enough players, and is fair. -/
theorem tryMatchMode_correct {sort : List MatchPlayer → List MatchPlayer}
    (hsort : ∀ players, MatchQueue.ByQueueTime players (sort players)) {q : MatchQueue}
    (hq : q.Content) (mmrRange : ℤ) (id : ℕ) (mode : MatchMode) :
    ((tryMatchMode sort mmrRange id mode q).isSome ↔
      ∃ p ∈ q, playersForMode mode ≤ (window q mmrRange p).length) ∧
    ∀ result, tryMatchMode sort mmrRange id mode q = some result →
      ∃ players, FairMatch q mmrRange (playersForMode mode) result players := by
  rcases tryMatchMode_cases hsort hq mmrRange id mode with
    ⟨hnone, hfew⟩ | ⟨p, hp, henough, players, hplayers, hsome⟩
  · rw [hnone]
    refine ⟨⟨by simp, fun ⟨p, hp, henough⟩ => ?_⟩, by simp⟩
    have := hfew p hp
    omega
  · rw [hsome]
    refine ⟨⟨fun _ => ⟨p, hp, henough⟩, fun _ => rfl⟩, fun result hresult => ?_⟩
    obtain rfl := Option.some_inj.mp hresult
    have hperm := (hsort (window q mmrRange p)).1
    have hwindow : players ⊆ window q mmrRange p :=
      hplayers ▸ fun x hx => hperm.subset (List.mem_of_mem_take hx)
    have hsub : players ⊆ q := fun x hx => List.mem_of_mem_filter (hwindow hx)
    have hlength : players.length = playersForMode mode := by
      rw [hplayers, List.length_take, hperm.length_eq]
      omega
    have hne : players ≠ [] := by
      rw [← List.length_pos_iff, hlength]
      exact playersForMode_pos mode
    have hnear : ∀ x ∈ players, |x.mmr - p.mmr| ≤ mmrRange := fun x hx => by
      simpa using (List.mem_filter.mp (hwindow hx)).2
    have hnodup : (players.map MatchPlayer.userId).Nodup := by
      have hids : ((window q mmrRange p).map MatchPlayer.userId).Nodup :=
        hq.nodup.sublist (List.filter_sublist.map _)
      rw [hplayers]
      exact ((hperm.map _).nodup_iff.mpr hids).sublist ((List.take_sublist _ _).map _)
    obtain ⟨lo, hlo, hi, hhi, hbounds⟩ := exists_mmr_bounds hne
    have htotal : totalMmr players = (players.map MatchPlayer.mmr).sum := by
      have hle := playersForMode_le mode
      rw [totalMmr, foldl_totalMmr (fun x hx => hq.joins x (hsub hx)) (by simp; omega), zero_add]
    refine ⟨players, hsub, rfl, hnodup, by rw [List.length_map, hlength], fun a ha b hb => ?_,
      lo, hlo, hi, hhi, hbounds, ?_⟩
    · have ha' := abs_le.mp (hnear a ha)
      have hb' := abs_le.mp (hnear b hb)
      rw [abs_le]
      omega
    · have hsum := sum_mmr_bounds hbounds
      rw [hlength] at hsum
      simp only [htotal]
      exact tdiv_bounds (playersForMode_pos mode) hsum.1 hsum.2

/-- A sort by queue time. -/
def sortByQueueTime (players : List MatchPlayer) : List MatchPlayer :=
  players.mergeSort fun a b => a.queuedAtMs ≤ b.queuedAtMs

theorem byQueueTime_sort (players : List MatchPlayer) :
    MatchQueue.ByQueueTime players (sortByQueueTime players) := by
  refine ⟨List.mergeSort_perm _ _, ?_⟩
  let le (a b : MatchPlayer) : Bool := decide (a.queuedAtMs ≤ b.queuedAtMs)
  have htrans : ∀ a b c, le a b → le b c → le a c := fun a b c hab hbc => by
    simp only [le, decide_eq_true_eq] at *
    omega
  have htotal : ∀ a b, (le a b || le b a) = true := fun a b => by
    simp only [le, Bool.or_eq_true, decide_eq_true_eq]
    omega
  exact (List.pairwise_mergeSort htrans htotal players).imp (by simp [le])

/-- Two players 50 apart and a third far away. -/
def threeWaiting : MatchQueue :=
  ((MatchQueue.add [] { userId := "a", mmr := 1000, queuedAtMs := 2 }).add
    { userId := "b", mmr := 5000, queuedAtMs := 1 }).add { userId := "c", mmr := 1050 }

theorem content_threeWaiting : threeWaiting.Content :=
  ((MatchQueue.Content.empty.add ⟨by decide, by decide, by decide⟩).add
    ⟨by decide, by decide, by decide⟩).add ⟨by decide, by decide, by decide⟩

theorem tryMatchMode_correct_three :
    ∃ result players, tryMatchMode sortByQueueTime 100 1 .k1v1 threeWaiting = some result ∧
      FairMatch threeWaiting 100 2 result players := by
  obtain ⟨hiff, hfair⟩ := tryMatchMode_correct byQueueTime_sort content_threeWaiting 100 1 .k1v1
  obtain ⟨result, hresult⟩ := Option.isSome_iff_exists.mp
    (hiff.mpr ⟨{ userId := "a", mmr := 1000, queuedAtMs := 2 }, by decide, by decide⟩)
  obtain ⟨players, h⟩ := hfair result hresult
  exact ⟨result, players, hresult, h⟩

/-! ## A purge -/

/-- A purged player has waited longer than `maxWaitMs`. -/
def PurgedLate (q : MatchQueue) (now maxWaitMs : ℕ) (p : MatchPlayer) : Prop :=
  p.userId ∈ q.expiredPlayers now maxWaitMs → p.queuedAtMs + maxWaitMs < now

theorem mem_expiredPlayers {q : MatchQueue} (hq : q.Content) {p : MatchPlayer} (hp : p ∈ q)
    {now maxWaitMs : ℕ} : p.userId ∈ q.expiredPlayers now maxWaitMs ↔
      maxWaitMs < (now + (2 ^ 64 - p.queuedAtMs)) % 2 ^ 64 := by
  simp only [MatchQueue.expiredPlayers, MatchQueue.userIds, List.mem_map, List.mem_filter,
    decide_eq_true_eq]
  constructor
  · rintro ⟨x, ⟨hx, hlate⟩, hxp⟩
    rwa [← hq.eq_of_userId_eq hp hx hxp]
  · exact fun hlate => ⟨p, ⟨hp, hlate⟩, rfl⟩

/-- The subtraction is right for a player who joined by now; one who joined later is
spared only if the wrapped difference stays within the bound. -/
theorem purgedLate_iff {q : MatchQueue} (hq : q.Content) {p : MatchPlayer} (hp : p ∈ q)
    {now maxWaitMs : ℕ} (hnow : now < 2 ^ 64) : PurgedLate q now maxWaitMs p ↔
      p.queuedAtMs ≤ now ∨ 2 ^ 64 ≤ maxWaitMs + (p.queuedAtMs - now) := by
  have hqueued := (hq.joins p hp).queuedAtMs_lt
  rw [PurgedLate, mem_expiredPlayers hq hp]
  by_cases hle : p.queuedAtMs ≤ now
  · have hmod : (now + (2 ^ 64 - p.queuedAtMs)) % 2 ^ 64 = now - p.queuedAtMs := by
      rw [show now + (2 ^ 64 - p.queuedAtMs) = now - p.queuedAtMs + 2 ^ 64 by omega,
        Nat.add_mod_right, Nat.mod_eq_of_lt (by omega)]
    rw [hmod]
    omega
  · rw [Nat.mod_eq_of_lt (by omega)]
    omega

/-- A player who joined a millisecond after `now`. -/
theorem not_purgedLate_ahead : ¬ PurgedLate [{ userId := "u", queuedAtMs := 1 }] 0 30000
    { userId := "u", queuedAtMs := 1 } := by
  intro h
  exact absurd (h (by decide)) (by decide)

theorem purgedLate_iff_one : PurgedLate [{ userId := "u", queuedAtMs := 1 }] 40000 30000
      { userId := "u", queuedAtMs := 1 } ↔ (1 ≤ 40000 ∨ 2 ^ 64 ≤ 30000 + (1 - 40000)) :=
  purgedLate_iff (MatchQueue.Content.empty.add (p := { userId := "u", queuedAtMs := 1 })
    ⟨by decide, by decide, by decide⟩) (List.mem_singleton.mpr rfl) (by decide)

end BoostGateway.Match
