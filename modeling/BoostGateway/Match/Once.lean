import Mathlib.Data.List.Induction
import BoostGateway.Match.Matchmaking

/-!
# A matched player is matched once

Between two joins a user should be in at most one stored result (`MatchedOnce`).
Two threads may look at a queue before either applies its result, and then store
the same players twice; and a user who joins in two modes is matched in both.
Where a result is applied only while its players still wait, and nobody joins in a
second mode, the property holds (`matched_once`) : a user is in at most one queue,
and in none once matched (`OnceInv`).
-/

namespace BoostGateway.Match

/-- The event stores a result with the user. -/
def MatchEvent.matches (u : UserId) : MatchEvent → Bool
  | .joined _ => false
  | .stored result => u ∈ result.playerIds

/-- Between two joins a user is in at most one stored result. -/
def MatchedOnce (s : Matchmaking) : Prop :=
  ∀ u before mid after, s.events = before ++ mid ++ after → .joined u ∉ mid →
    mid.countP (MatchEvent.matches u) ≤ 1

/-- Nobody joins while waiting in another mode, and a result is applied only while all
its players wait in its mode. -/
def Undisputed (s : Matchmaking) : MatchAction → Prop
  | .join player => ∀ mode, mode ≠ player.mode → player.userId ∉ (s.queues mode).userIds
  | .leave _ _ => True
  | .run i _ _ =>
    match s.tasks[i]? with
    | some (.found result _) => ∀ u ∈ result.playerIds, u ∈ (s.queues result.mode).userIds
    | _ => True

instance (s : Matchmaking) (a : MatchAction) : Decidable (Undisputed s a) := by
  unfold Undisputed
  split
  · infer_instance
  · infer_instance
  · split <;> infer_instance

/-- How many results with the user were stored since the last join. -/
def storedSince (u : UserId) (events : List MatchEvent) : ℕ :=
  events.foldl (fun n e => if e = .joined u then 0 else if e.matches u then n + 1 else n) 0

theorem storedSince_concat (u : UserId) (events : List MatchEvent) (e : MatchEvent) :
    storedSince u (events ++ [e]) = if e = .joined u then 0
      else if e.matches u then storedSince u events + 1 else storedSince u events := by
  rw [storedSince, List.foldl_append]
  rfl

/-- Without a join the count goes on. -/
theorem storedSince_append {u : UserId} {events mid : List MatchEvent}
    (h : .joined u ∉ mid) :
    storedSince u (events ++ mid) = storedSince u events + mid.countP (MatchEvent.matches u) := by
  induction mid using List.reverseRecOn with
  | nil => simp
  | append_singleton mid e ih =>
    rw [List.mem_append, not_or] at h
    have he : e ≠ .joined u := fun he => h.2 (by simp [he])
    rw [← List.append_assoc, storedSince_concat, if_neg he, ih h.1, List.countP_append,
      List.countP_singleton]
    split_ifs <;> omega

/-- A user waits in at most one mode, and in none once matched. -/
structure OnceInv (s : Matchmaking) (u : UserId) : Prop where
  once : ∀ events, events <+: s.events → storedSince u events ≤ 1
  matched : storedSince u s.events = 1 → ∀ mode, u ∉ (s.queues mode).userIds
  mode : ∀ m m', u ∈ (s.queues m).userIds → u ∈ (s.queues m').userIds → m = m'

theorem matchedOnce_of_onceInv {s : Matchmaking} (h : ∀ u, OnceInv s u) : MatchedOnce s := by
  intro u before mid after heq hmid
  have hpre : before ++ mid <+: s.events := heq ▸ List.prefix_append _ _
  have := (h u).once _ hpre
  rw [storedSince_append hmid] at this
  omega

/-! ## The steps -/

variable {s s' : Matchmaking} {u : UserId}

/-- Queues that only lose players, with no new event. -/
theorem OnceInv.shrink (h : OnceInv s u) (he : s'.events = s.events)
    (hq : ∀ mode, (s'.queues mode).userIds ⊆ (s.queues mode).userIds) : OnceInv s' u where
  once := by
    rw [he]
    exact h.once
  matched hm mode hu := h.matched (he ▸ hm) mode (hq mode hu)
  mode m m' hm hm' := h.mode m m' (hq m hm) (hq m' hm')

/-- One more event, at most the second to matter. -/
theorem OnceInv.once_concat (h : OnceInv s u) {e : MatchEvent}
    (he : storedSince u (s.events ++ [e]) ≤ 1) :
    ∀ events, events <+: s.events ++ [e] → storedSince u events ≤ 1 := by
  intro events hpre
  rcases List.prefix_concat_iff.mp hpre with rfl | hpre
  · exact he
  · exact h.once events hpre

theorem OnceInv.join (h : OnceInv s u) {player : MatchPlayer}
    (hok : Undisputed s (.join player)) (hs : s.step (.join player) = some s') :
    OnceInv s' u := by
  obtain rfl := Option.some_inj.mp hs
  have hmem : ∀ mode, u ∈ (Function.update s.queues player.mode
      ((s.queues player.mode).add player) mode).userIds →
      u ∈ (s.queues mode).userIds ∨ u = player.userId ∧ mode = player.mode := by
    intro mode hu
    by_cases hmode : mode = player.mode
    · subst hmode
      rw [Function.update_self, MatchQueue.mem_userIds_add] at hu
      exact hu.elim (fun hu => Or.inr ⟨hu, rfl⟩) Or.inl
    · rw [Function.update_of_ne hmode] at hu
      exact Or.inl hu
  by_cases hup : u = player.userId
  · have hzero : storedSince u (s.events ++ [MatchEvent.joined player.userId]) = 0 := by
      rw [storedSince_concat, if_pos (by rw [hup])]
    have hmode : ∀ mode, u ∈ (Function.update s.queues player.mode
        ((s.queues player.mode).add player) mode).userIds → mode = player.mode := by
      intro mode hu
      rcases hmem mode hu with hu | ⟨-, hm⟩
      · by_contra hne
        exact hok mode hne (hup ▸ hu)
      · exact hm
    exact
      { once := h.once_concat (by omega)
        matched := fun hm => by
          have : storedSince u (s.events ++ [MatchEvent.joined player.userId]) = 1 := hm
          omega
        mode := fun m m' hm hm' => (hmode m hm).trans (hmode m' hm').symm }
  · have hsame : storedSince u (s.events ++ [MatchEvent.joined player.userId]) =
        storedSince u s.events := by
      rw [storedSince_concat, if_neg (by simpa using Ne.symm hup)]
      rfl
    have hold : ∀ mode, u ∈ (Function.update s.queues player.mode
        ((s.queues player.mode).add player) mode).userIds → u ∈ (s.queues mode).userIds :=
      fun mode hu => (hmem mode hu).resolve_right fun hn => hup hn.1
    exact
      { once := h.once_concat (hsame ▸ h.once _ (List.prefix_refl _))
        matched := fun hm mode hu => h.matched (hsame ▸ hm) mode (hold mode hu)
        mode := fun m m' hm hm' => h.mode m m' (hold m hm) (hold m' hm') }

theorem OnceInv.applyMatchFound (h : OnceInv s u) {result : MatchResult}
    (hok : ∀ u ∈ result.playerIds, u ∈ (s.queues result.mode).userIds) :
    OnceInv (s.applyMatchFound result) u := by
  have hmem : ∀ mode, u ∈ ((s.applyMatchFound result).queues mode).userIds →
      u ∈ (s.queues mode).userIds ∧ (mode = result.mode → u ∉ result.playerIds) := by
    intro mode hu
    have hu' : u ∈ (Function.update s.queues result.mode
        ((s.queues result.mode).removePlayers result.playerIds) mode).userIds := hu
    by_cases hmode : mode = result.mode
    · subst hmode
      rw [Function.update_self, MatchQueue.mem_userIds_removePlayers] at hu'
      exact ⟨hu'.1, fun _ => hu'.2⟩
    · rw [Function.update_of_ne hmode] at hu'
      exact ⟨hu', fun hm => absurd hm hmode⟩
  have hconcat : storedSince u (s.events ++ [MatchEvent.stored result]) =
      if u ∈ result.playerIds then storedSince u s.events + 1 else storedSince u s.events := by
    rw [storedSince_concat, if_neg (by simp)]
    simp [MatchEvent.matches]
  by_cases hin : u ∈ result.playerIds
  · have hwait := hok u hin
    have hzero : storedSince u s.events = 0 := by
      have hle := h.once _ (List.prefix_refl _)
      have hne : storedSince u s.events ≠ 1 := fun hm => h.matched hm _ hwait
      omega
    have hone : storedSince u (s.events ++ [MatchEvent.stored result]) = 1 := by
      rw [hconcat, if_pos hin, hzero]
    refine ⟨h.once_concat (by omega), fun _ mode hu => ?_, fun m m' hm hm' =>
      h.mode m m' (hmem m hm).1 (hmem m' hm').1⟩
    have hmode := h.mode mode result.mode (hmem mode hu).1 hwait
    exact (hmem mode hu).2 hmode hin
  · have hsame : storedSince u (s.events ++ [MatchEvent.stored result]) =
        storedSince u s.events := by
      rw [hconcat, if_neg hin]
    exact
      { once := h.once_concat (hsame ▸ h.once _ (List.prefix_refl _))
        matched := fun hm mode hu => h.matched (hsame ▸ hm) mode (hmem mode hu).1
        mode := fun m m' hm hm' => h.mode m m' (hmem m hm).1 (hmem m' hm').1 }

/-- Replacing one queue by a smaller one. -/
theorem userIds_setQueue_subset {mode : MatchMode} {q : MatchQueue}
    (hq : q.userIds ⊆ (s.queues mode).userIds) (m : MatchMode) :
    ((s.setQueue mode q).queues m).userIds ⊆ (s.queues m).userIds := by
  by_cases hm : m = mode
  · subst hm
    simpa [Matchmaking.setQueue] using hq
  · simp [Matchmaking.setQueue, hm]

theorem OnceInv.runTask (h : OnceInv s u) {i now : ℕ} {order : List MatchPlayer} {t : Task}
    (hok : ∀ result periodic, t = .found result periodic →
      ∀ u ∈ result.playerIds, u ∈ (s.queues result.mode).userIds)
    (hs : s.runTask i order now t = some s') : OnceInv s' u := by
  rcases Matchmaking.runTask_cases hs with ⟨t', -, rfl⟩ | ⟨mode, eligible, periodic, -, rfl⟩ |
    ⟨result, periodic, ht, rfl⟩ | ⟨mode, userIds, -, rfl⟩
  · exact h.shrink rfl fun _ => List.Subset.refl _
  · exact h.shrink rfl fun _ => List.Subset.refl _
  · exact (h.applyMatchFound (hok result periodic ht)).shrink rfl fun _ => List.Subset.refl _
  · refine h.shrink rfl (userIds_setQueue_subset fun v hv => ?_)
    exact (MatchQueue.mem_userIds_removePlayers.mp hv).1

theorem OnceInv.step (h : OnceInv s u) {a : MatchAction} (hok : Undisputed s a)
    (hs : s.step a = some s') : OnceInv s' u := by
  cases a with
  | join player => exact h.join hok hs
  | leave mode userId =>
    obtain rfl := Option.some_inj.mp hs
    exact h.shrink rfl (userIds_setQueue_subset (MatchQueue.userIds_remove_subset _ _))
  | run i order now =>
    simp only [Matchmaking.step] at hs
    cases hi : s.tasks[i]? with
    | none => simp [hi] at hs
    | some t =>
      simp only [hi] at hs
      refine h.runTask (fun result periodic ht => ?_) hs
      subst ht
      simpa only [Undisputed, hi] using hok

/-- Between two joins a user is in at most one stored result. -/
theorem matched_once (h : Matchmaking.Reaches Undisputed s) : MatchedOnce s := by
  refine matchedOnce_of_onceInv fun u => ?_
  refine h.invariant (P := fun s => OnceInv s u) ?_ fun s a s' hi hok hs => hi.step hok hs
  rintro s ⟨mmrRange, maxWait, rfl⟩
  refine ⟨fun events hpre => ?_, fun _ _ hu => ?_, fun _ _ hu => ?_⟩
  · rw [List.prefix_nil.mp hpre]
    exact Nat.zero_le 1
  · simp [MatchQueue.userIds] at hu
  · simp [MatchQueue.userIds] at hu

/-- `a` and `b` join one after the other, and the handler of `b` stores their match. -/
def joinAndMatch : List MatchAction :=
  let a : MatchPlayer := { userId := "a", queuedAtMs := 1 }
  let b : MatchPlayer := { userId := "b", queuedAtMs := 2 }
  [.join a, .run 1 [a] 0, .run 1 [a] 0, .run 1 [] 0, .join b, .run 2 [a, b] 0, .run 2 [a, b] 0,
    .run 2 [] 0, .run 2 [] 0]

theorem matched_once_joinAndMatch : ∃ s, Matchmaking.Reaches Undisputed s ∧
    s.events = [.joined "a", .joined "b", .stored ⟨"match_1", .k1v1, ["a", "b"], 1000⟩] ∧
    MatchedOnce s := by
  obtain ⟨s, hr, he⟩ : ∃ s, Matchmaking.Reaches Undisputed s ∧
      s.events = [.joined "a", .joined "b", .stored ⟨"match_1", .k1v1, ["a", "b"], 1000⟩] :=
    Reaches.exists_runWith (s := {}) (.init ⟨_, _, rfl⟩) joinAndMatch (by decide +kernel)
  exact ⟨s, hr, he, matched_once hr⟩

/-- The thread of `Matchmaker::run` has `x` as its anchor. `x` leaves, `p` and `q` join,
each too far from the other, and the thread picks both around the rating of `x`. Before
it applies the result, `r` joins and is matched with `p`. -/
def pickTwice : List MatchAction :=
  let x : MatchPlayer := { userId := "x", mmr := 1000, queuedAtMs := 1 }
  let p : MatchPlayer := { userId := "p", mmr := 900, queuedAtMs := 2 }
  let q : MatchPlayer := { userId := "q", mmr := 1100, queuedAtMs := 3 }
  let r : MatchPlayer := { userId := "r", mmr := 950, queuedAtMs := 4 }
  [.join x, .run 1 [x] 0, .run 1 [x] 0, .run 1 [] 0, .run 0 [x] 0, .leave .k1v1 "x",
    .join p, .run 2 [p] 0, .run 2 [p] 0, .run 2 [] 0,
    .join q, .run 3 [p, q] 0, .run 3 [p] 0, .run 3 [q] 0, .run 3 [] 0, .run 0 [p, q] 0,
    .join r, .run 4 [p, q, r] 0, .run 4 [p, r] 0, .run 4 [] 0, .run 4 [] 0,
    .run 0 [] 0, .run 0 [] 0]

theorem not_matched_once_pickTwice : ∃ s, Matchmaking.Reaches (fun _ _ => True) s ∧
    ¬MatchedOnce s := by
  obtain ⟨s, hr, he⟩ : ∃ s, Matchmaking.Reaches (fun _ _ => True) s ∧
      s.events = [.joined "x", .joined "p", .joined "q", .joined "r",
        .stored ⟨"match_1", .k1v1, ["p", "r"], 925⟩,
        .stored ⟨"match_2", .k1v1, ["p", "q"], 1000⟩] :=
    Reaches.exists_runWith (s := {}) (.init ⟨_, _, rfl⟩) pickTwice (by decide +kernel)
  refine ⟨s, hr, fun h => ?_⟩
  have := h "p" [.joined "x", .joined "p", .joined "q", .joined "r"] _ [] (by
    rw [List.append_nil]
    exact he) (by decide)
  exact absurd this (by decide)

end BoostGateway.Match
