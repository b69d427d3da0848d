import BoostGateway.Leaderboard.LeaderboardService
import Mathlib.Data.List.Induction

/-!
# Idempotency of submits

A submit with an idempotency key is answered `ok` at once when the key was recorded
before. The key is recorded before the submit goes through Raft, and stays recorded when
the node is not the leader or the entry is not committed : a retry is then answered `ok`
although nothing was applied (`not_honest`). And `append_command` may return before the entry
is applied.

A history is a list of requests, with what Raft does to each, and of log entries that
Raft delivers. `honest_iff` : every `ok` to a key comes after a submit with it was
applied, if and only if every request that Raft takes or that repeats a key comes after an
entry with its key was delivered, or the first request with the key was applied in its call.
-/

namespace BoostGateway.Leaderboard

open Json

/-- A request, or a delivery. -/
inductive SubmitEvent
  /-- A `leaderboard_submit` request. -/
  | request (payload : Option Json) (raft : Option RaftOutcome) (io ioRank : RedisIo)
  /-- Raft delivers the log entry of a submit, handled by this node or by another one. -/
  | deliver (r : SubmitRequest) (io : RedisIo)

namespace LeaderboardService

/-- The fields of a request, where `handle_submit` can read them. -/
def submission? (payload : Option Json) : Option SubmitRequest :=
  (object? payload).bind fun doc => (readSubmit doc).toOption

/-- The key of the request was recorded. -/
def repeats (s : LeaderboardService) (r : SubmitRequest) : Bool :=
  r.idempotencyKey ≠ "" ∧ r.idempotencyKey ∈ s.appliedIdempotencyKeys

end LeaderboardService

/-- The submit is applied in the call that handles it. -/
def appliedAtOnce : Option RaftOutcome → Bool
  | none | some .committed => true
  | some (.notLeader _) | some .commitFailed | some .unapplied => false

/-- The submit is not refused. -/
def takenAtOnce : Option RaftOutcome → Bool
  | none | some .committed | some .unapplied => true
  | some (.notLeader _) | some .commitFailed => false

theorem taken_of_applied {raft : Option RaftOutcome} (h : appliedAtOnce raft) :
    takenAtOnce raft := by
  match raft with
  | none | some .committed => rfl

/-- The service, the keys of the submits that were applied, and the keys of the requests
that were answered `ok`. -/
structure History where
  service : LeaderboardService
  applied : List String := []
  answered : List String := []

variable (floatText : Float → List Char)

namespace History

def step (h : History) : SubmitEvent → History
  | .request payload raft io ioRank =>
    match LeaderboardService.submission? payload,
      h.service.handleSubmit floatText payload raft io ioRank with
    | some r, .ok (s, reply) =>
      { service := s
        applied :=
          if r.userId ≠ "" ∧ h.service.repeats r = false ∧ appliedAtOnce raft then
            r.idempotencyKey :: h.applied
          else h.applied
        answered := if reply.isOk then r.idempotencyKey :: h.answered else h.answered }
    | _, _ => h
  | .deliver r io =>
    { h with
      service := h.service.applyRaftEntry io (makeSubmitCommand floatText r)
      applied := if r.userId = "" then h.applied else r.idempotencyKey :: h.applied }

/-- The history of a service that has just started. -/
def run (redis : Option RedisLeaderboard) (events : List SubmitEvent) : History :=
  events.foldl (step floatText) { service := { redis } }

end History

namespace LeaderboardService

variable (s : LeaderboardService) (r : SubmitRequest) (raft : Option RaftOutcome) (io ioRank : RedisIo)

/-- What a submit can do : it has no user, its key was recorded, Raft does not take it or
takes it without applying it, or it is applied. -/
theorem submit_cases :
    (r.userId = "" ∧
      s.submit floatText r raft io ioRank = (s, .error (-1004) "empty_user_id")) ∨
    (r.userId ≠ "" ∧ s.repeats r = true ∧ ∃ body,
      s.submit floatText r raft io ioRank = (s, .ok body)) ∨
    (r.userId ≠ "" ∧ s.repeats r = false ∧ appliedAtOnce raft = false ∧ ∃ reply,
      reply.isOk = takenAtOnce raft ∧
      s.submit floatText r raft io ioRank = (s.record r.idempotencyKey, reply)) ∨
    (r.userId ≠ "" ∧ s.repeats r = false ∧ appliedAtOnce raft = true ∧ ∃ body,
      s.submit floatText r raft io ioRank =
        ((s.record r.idempotencyKey).applySubmit io r.userId r.displayName r.score.toInt,
          .ok body)) := by
  by_cases hu : r.userId = ""
  · exact .inl ⟨hu, by rw [submit, if_pos hu]⟩
  · by_cases hk : r.idempotencyKey ≠ "" ∧ r.idempotencyKey ∈ s.appliedIdempotencyKeys
    · exact .inr (.inl ⟨hu, decide_eq_true hk, _, by rw [submit, if_neg hu, if_pos hk]; rfl⟩)
    · have hrep : s.repeats r = false := decide_eq_false hk
      rw [submit, if_neg hu, if_neg hk]
      match raft with
      | some (.notLeader _) | some .commitFailed | some .unapplied =>
        exact .inr (.inr (.inl ⟨hu, hrep, rfl, _, rfl, rfl⟩))
      | none => exact .inr (.inr (.inr ⟨hu, hrep, rfl, _, rfl⟩))
      | some .committed =>
        simp only [applyRaftEntry_makeSubmitCommand _ _ _ hu]
        exact .inr (.inr (.inr ⟨hu, hrep, rfl, _, rfl⟩))

/-- The leaderboard takes a submit exactly where the history says that it is applied. -/
theorem submit_leaderboard :
    (s.submit floatText r raft io ioRank).1.leaderboard =
      if r.userId ≠ "" ∧ s.repeats r = false ∧ appliedAtOnce raft then
        s.leaderboard.submit r.userId r.displayName r.score.toInt
      else s.leaderboard := by
  have hrecord : (s.record r.idempotencyKey).leaderboard = s.leaderboard := by
    unfold record
    split_ifs <;> rfl
  rcases s.submit_cases floatText r raft io ioRank with ⟨hu, heq⟩ | ⟨-, hrep, body, heq⟩ |
    ⟨-, -, hraft, reply, -, heq⟩ | ⟨hu, hrep, hraft, body, heq⟩
  · simp [heq, hu]
  · simp [heq, hrep]
  · simp [heq, hraft, hrecord]
  · simp [heq, hu, hrep, hraft, applySubmit, hrecord]

theorem mem_record_keys {key k : String} (hk : k ≠ "") :
    k ∈ (s.record key).appliedIdempotencyKeys ↔ k ∈ s.appliedIdempotencyKeys ∨ key = k := by
  unfold record
  split_ifs with h
  · subst h
    simp [Ne.symm hk]
  · simp [or_comm, eq_comm]

/-- The keys that are recorded after a submit. -/
theorem mem_submit_keys {k : String} (hk : k ≠ "") :
    k ∈ (s.submit floatText r raft io ioRank).1.appliedIdempotencyKeys ↔
      k ∈ s.appliedIdempotencyKeys ∨ r.userId ≠ "" ∧ r.idempotencyKey = k := by
  rcases s.submit_cases floatText r raft io ioRank with ⟨hu, heq⟩ | ⟨hu, hrep, body, heq⟩ |
    ⟨hu, -, -, reply, -, heq⟩ | ⟨hu, -, -, body, heq⟩
  · simp [heq, hu]
  · rw [heq]
    refine ⟨.inl, fun h => h.elim id ?_⟩
    rintro ⟨-, rfl⟩
    exact (of_decide_eq_true hrep).2
  · rw [heq, s.mem_record_keys hk]
    simp [hu]
  · rw [heq]
    change k ∈ (s.record r.idempotencyKey).appliedIdempotencyKeys ↔ _
    rw [s.mem_record_keys hk]
    simp [hu]

/-- A request loses no key. -/
theorem keys_handleSubmit {s s' : LeaderboardService} {payload : Option Json}
    {raft : Option RaftOutcome} {io ioRank : RedisIo} {reply : Reply}
    (h : s.handleSubmit floatText payload raft io ioRank = .ok (s', reply)) {k : String}
    (hk : k ≠ "") (hin : k ∈ s.appliedIdempotencyKeys) : k ∈ s'.appliedIdempotencyKeys := by
  unfold handleSubmit at h
  split at h
  · cases h
    exact hin
  · rename_i doc _
    cases hread : readSubmit doc with
    | error e => simp [hread, bind, Except.bind] at h
    | ok r =>
      simp only [hread, bind, Except.bind, pure, Except.pure, Except.ok.injEq] at h
      have hmem := (s.mem_submit_keys floatText r raft io ioRank hk).mpr (.inl hin)
      rwa [h] at hmem

/-- A submit is answered `ok` when its key was recorded or when it is not refused. -/
theorem isOk_submit :
    (s.submit floatText r raft io ioRank).2.isOk ↔
      r.userId ≠ "" ∧ (s.repeats r = true ∨ takenAtOnce raft = true) := by
  rcases s.submit_cases floatText r raft io ioRank with ⟨hu, heq⟩ | ⟨hu, hrep, body, heq⟩ |
    ⟨hu, hrep, -, reply, hok, heq⟩ | ⟨hu, hrep, hraft, body, heq⟩
  · simp [heq, hu, Reply.isOk]
  · simp [heq, hu, hrep, Reply.isOk]
  · simp [heq, hu, hrep, hok]
  · simp [heq, hu, taken_of_applied hraft, Reply.isOk]

theorem applyRaftEntry_keys (command : Bytes) :
    (s.applyRaftEntry io command).appliedIdempotencyKeys = s.appliedIdempotencyKeys := by
  unfold applyRaftEntry
  split <;> rfl

end LeaderboardService

/-! ## Honest answers -/

namespace SubmitEvent

/-- The request of an event, where it has a user. -/
def submit? : SubmitEvent → Option SubmitRequest
  | .request payload .. => (LeaderboardService.submission? payload).filter (·.userId ≠ "")
  | .deliver .. => none

/-- A request with a user and the key. -/
def carries (k : String) (e : SubmitEvent) : Bool := e.submit?.any (·.idempotencyKey = k)

/-- A request that is applied in its call, unless its key was recorded. -/
def atOnce : SubmitEvent → Bool
  | .request _ raft .. => appliedAtOnce raft
  | .deliver .. => false

/-- A request that is not refused in its call, unless its key was recorded. -/
def taken : SubmitEvent → Bool
  | .request _ raft .. => takenAtOnce raft
  | .deliver .. => false

/-- The delivery of a submit with the key. -/
def delivers (k : String) : SubmitEvent → Bool
  | .request .. => false
  | .deliver r _ => r.userId ≠ "" ∧ r.idempotencyKey = k

theorem not_delivers_of_carries {k : String} (e : SubmitEvent) (h : e.carries k) :
    e.delivers k = false := by
  cases e with
  | request => rfl
  | deliver r io => cases h

end SubmitEvent

/-- At every moment a submit was applied for each key, other than the empty one, that was
answered `ok`. -/
def Honest (redis : Option RedisLeaderboard) (events : List SubmitEvent) : Prop :=
  ∀ before, before <+: events → ∀ k ≠ "", k ∈ (History.run floatText redis before).answered →
    k ∈ (History.run floatText redis before).applied

/-- Where a request repeats a key, the first request with it was applied in its call or an entry
with it was delivered; and where Raft takes the first request, it applies it in the call, or an
entry with the key was delivered before. -/
def AppliedBefore (events : List SubmitEvent) : Prop :=
  ∀ before e, before ++ [e] <+: events → ∀ k ≠ "", e.carries k →
    (∀ first, before.find? (·.carries k) = some first →
      first.atOnce ∨ before.any (·.delivers k)) ∧
    (before.find? (·.carries k) = none → e.taken → e.atOnce ∨ before.any (·.delivers k))

namespace History

variable {redis : Option RedisLeaderboard} {events : List SubmitEvent} {k : String}

theorem run_concat (e : SubmitEvent) :
    run floatText redis (events ++ [e]) = (run floatText redis events).step floatText e := by
  rw [run, run, List.foldl_append]
  rfl

/-- A request whose fields cannot be read changes nothing. -/
theorem step_of_none {h : History} {payload : Option Json} {raft : Option RaftOutcome}
    {io ioRank : RedisIo} (hr : LeaderboardService.submission? payload = none) :
    h.step floatText (.request payload raft io ioRank) = h := by
  simp [step, hr]

theorem step_of_some {h : History} {payload : Option Json} {raft : Option RaftOutcome}
    {io ioRank : RedisIo} {r : SubmitRequest}
    (hr : LeaderboardService.submission? payload = some r) :
    h.step floatText (.request payload raft io ioRank) =
      { service := (h.service.submit floatText r raft io ioRank).1
        applied :=
          if r.userId ≠ "" ∧ h.service.repeats r = false ∧ appliedAtOnce raft then
            r.idempotencyKey :: h.applied
          else h.applied
        answered :=
          if (h.service.submit floatText r raft io ioRank).2.isOk then
            r.idempotencyKey :: h.answered
          else h.answered } := by
  obtain ⟨doc, hdoc, hread⟩ := Option.bind_eq_some_iff.mp hr
  have hok : LeaderboardService.readSubmit doc = .ok r := by
    cases hc : LeaderboardService.readSubmit doc with
    | error e => simp [hc, Except.toOption] at hread
    | ok r' =>
      simp only [hc, Except.toOption, Option.some_inj] at hread
      rw [hread]
  simp only [step, hr, LeaderboardService.handleSubmit, hdoc, hok]
  rfl

theorem carries_request {payload : Option Json} {raft : Option RaftOutcome} {io ioRank : RedisIo}
    {r : SubmitRequest} (hr : LeaderboardService.submission? payload = some r) :
    (SubmitEvent.request payload raft io ioRank).carries k ↔
      r.userId ≠ "" ∧ r.idempotencyKey = k := by
  by_cases hu : r.userId = "" <;>
    simp [SubmitEvent.carries, SubmitEvent.submit?, hr, hu]

theorem not_carries_request {payload : Option Json} {raft : Option RaftOutcome}
    {io ioRank : RedisIo} (hr : LeaderboardService.submission? payload = none) :
    (SubmitEvent.request payload raft io ioRank).carries k = false := by
  simp [SubmitEvent.carries, SubmitEvent.submit?, hr]

theorem repeats_iff {s : LeaderboardService} {r : SubmitRequest} (hk : k ≠ "")
    (hr : r.idempotencyKey = k) : s.repeats r = true ↔ k ∈ s.appliedIdempotencyKeys := by
  subst hr
  simp [LeaderboardService.repeats, hk]

theorem mem_if_cons {c : Prop} [Decidable c] {key : String} {keys : List String} :
    k ∈ (if c then key :: keys else keys) ↔ k ∈ keys ∨ c ∧ key = k := by
  split_ifs with hc <;> simp [hc, or_comm, eq_comm]

theorem mem_step_keys (h : History) (e : SubmitEvent) (hk : k ≠ "") :
    k ∈ (h.step floatText e).service.appliedIdempotencyKeys ↔
      k ∈ h.service.appliedIdempotencyKeys ∨ e.carries k := by
  cases e with
  | deliver r io =>
    simp [step, LeaderboardService.applyRaftEntry_keys, SubmitEvent.carries, SubmitEvent.submit?]
  | request payload raft io ioRank =>
    cases hr : LeaderboardService.submission? payload with
    | none => rw [step_of_none floatText hr, not_carries_request hr]; simp
    | some r =>
      rw [step_of_some floatText hr, carries_request hr]
      exact h.service.mem_submit_keys floatText r raft io ioRank hk

theorem mem_step_applied (h : History) (e : SubmitEvent) (hk : k ≠ "") :
    k ∈ (h.step floatText e).applied ↔ k ∈ h.applied ∨
      (e.carries k ∧ k ∉ h.service.appliedIdempotencyKeys ∧ e.atOnce) ∨ e.delivers k := by
  cases e with
  | deliver r io =>
    have hcarries : (SubmitEvent.deliver r io).carries k = false := rfl
    have happlied : (h.step floatText (.deliver r io)).applied =
        if r.userId ≠ "" then r.idempotencyKey :: h.applied else h.applied := by
      rw [step, ite_not]
    rw [happlied, mem_if_cons, hcarries]
    simp [SubmitEvent.delivers]
  | request payload raft io ioRank =>
    have hdelivers : (SubmitEvent.request payload raft io ioRank).delivers k = false := rfl
    rw [hdelivers]
    cases hr : LeaderboardService.submission? payload with
    | none => rw [step_of_none floatText hr, not_carries_request hr]; simp
    | some r =>
      rw [step_of_some floatText hr, carries_request hr, mem_if_cons, ← Bool.not_eq_true]
      have hrep := repeats_iff (s := h.service) (r := r) hk
      simp only [SubmitEvent.atOnce]
      tauto

theorem mem_step_answered (h : History) (e : SubmitEvent) (hk : k ≠ "") :
    k ∈ (h.step floatText e).answered ↔ k ∈ h.answered ∨
      (e.carries k ∧ (k ∈ h.service.appliedIdempotencyKeys ∨ e.taken)) := by
  cases e with
  | deliver r io =>
    have hcarries : (SubmitEvent.deliver r io).carries k = false := rfl
    rw [hcarries]
    simp [step]
  | request payload raft io ioRank =>
    cases hr : LeaderboardService.submission? payload with
    | none => rw [step_of_none floatText hr, not_carries_request hr]; simp
    | some r =>
      rw [step_of_some floatText hr, carries_request hr, mem_if_cons,
        h.service.isOk_submit floatText r raft io ioRank]
      have hrep := repeats_iff (s := h.service) (r := r) hk
      simp only [SubmitEvent.taken]
      tauto

/-- The keys that are recorded are those of the requests so far. -/
theorem mem_run_keys (hk : k ≠ "") :
    k ∈ (run floatText redis events).service.appliedIdempotencyKeys ↔
      events.any (·.carries k) := by
  induction events using List.reverseRecOn with
  | nil => simp [run]
  | append_singleton events e ih =>
    rw [run_concat, mem_step_keys floatText _ e hk, ih]
    simp

/-- A submit with a key was applied when its first request was, or an entry of it was
delivered. -/
theorem mem_run_applied (hk : k ≠ "") :
    k ∈ (run floatText redis events).applied ↔
      (∃ first, events.find? (·.carries k) = some first ∧ first.atOnce) ∨
        events.any (·.delivers k) := by
  induction events using List.reverseRecOn with
  | nil => simp [run]
  | append_singleton events e ih =>
    rw [run_concat, mem_step_applied floatText _ e hk, ih, mem_run_keys floatText hk,
      List.find?_append, List.any_append]
    cases hfind : events.find? (·.carries k) with
    | some first =>
      have hany : events.any (·.carries k) := by
        rw [List.any_eq_true]
        exact ⟨first, List.mem_of_find?_eq_some hfind, List.find?_some hfind⟩
      simp [hany, or_assoc]
    | none =>
      have hany : events.any (·.carries k) = false := by
        simpa using List.find?_eq_none.mp hfind
      cases hc : e.carries k with
      | false => simp [hany, hc]
      | true =>
        simp only [hany, hc, List.find?_cons, Option.none_or, List.any_cons, List.any_nil,
          Bool.or_false, Bool.or_eq_true]
        simp
        exact or_left_comm

end History

/-- Answers are honest exactly where a submit is applied before each of them. -/
theorem honest_iff (redis : Option RedisLeaderboard) (events : List SubmitEvent) :
    Honest floatText redis events ↔ AppliedBefore events := by
  have hrecorded (before : List SubmitEvent) {k : String} (hk : k ≠ "") :
      k ∈ (History.run floatText redis before).service.appliedIdempotencyKeys ↔
        before.find? (·.carries k) ≠ none := by
    rw [History.mem_run_keys floatText hk, List.any_eq_true, ne_eq, List.find?_eq_none]
    push Not
    rfl
  have happlied (before : List SubmitEvent) {k : String} (hk : k ≠ "") {first : SubmitEvent}
      (hfirst : before.find? (·.carries k) = some first) :
      k ∈ (History.run floatText redis before).applied ↔
        first.atOnce ∨ before.any (·.delivers k) := by
    rw [History.mem_run_applied floatText hk, hfirst]
    simp
  have hdelivered (before : List SubmitEvent) {k : String} (hk : k ≠ "")
      (hfirst : before.find? (·.carries k) = none) :
      k ∈ (History.run floatText redis before).applied ↔ before.any (·.delivers k) := by
    rw [History.mem_run_applied floatText hk, hfirst]
    simp
  constructor
  · intro h before e hpre k hk hcarries
    have happ : (before.find? (·.carries k) ≠ none ∨ e.taken) →
        k ∈ (History.run floatText redis before).applied ∨
          before.find? (·.carries k) = none ∧ e.atOnce := by
      intro hans
      have := h _ hpre k hk (by
        rw [History.run_concat, History.mem_step_answered floatText _ e hk, hrecorded before hk]
        exact .inr ⟨hcarries, hans⟩)
      rw [History.run_concat, History.mem_step_applied floatText _ e hk, hrecorded before hk,
        e.not_delivers_of_carries hcarries, not_not] at this
      simpa [hcarries] using this
    constructor
    · intro first hfirst
      rw [← happlied before hk hfirst]
      refine (happ (.inl (by simp [hfirst]))).resolve_right fun hnone => ?_
      simp [hfirst] at hnone
    · intro hnone htaken
      rw [or_comm, ← hdelivered before hk hnone]
      exact (happ (.inr htaken)).imp_right And.right
  · intro h before hpre k hk
    induction before using List.reverseRecOn with
    | nil => simp [History.run]
    | append_singleton before e ih =>
      rw [History.run_concat, History.mem_step_answered floatText _ e hk,
        History.mem_step_applied floatText _ e hk, hrecorded before hk]
      rintro (hold | ⟨hcarries, hans⟩)
      · exact .inl (ih ((List.prefix_append _ _).trans hpre) hold)
      · obtain ⟨hrepeat, hfresh⟩ := h before e hpre k hk hcarries
        cases hfirst : before.find? (·.carries k) with
        | some first => exact .inl ((happlied before hk hfirst).mpr (hrepeat first hfirst))
        | none =>
          rcases hfresh hfirst (hans.resolve_left (by simp [hfirst])) with honce | hdel
          · exact .inr (.inl ⟨hcarries, by simp, honce⟩)
          · exact .inl ((hdelivered before hk hfirst).mpr hdel)

/-- A submit of user `u` with key `k`. -/
def submitPayload : Option Json :=
  some (.object [("idempotency_key", .string "k"), ("user_id", .string "u")])

/-- A submit that a node refuses because it is not the leader, and its retry. -/
def refusedRetry : List SubmitEvent :=
  [.request submitPayload (some (.notLeader "")) {} {},
    .request submitPayload (some .committed) {} {}]

/-- The retry of a refused submit is answered `ok`, and nothing was applied. -/
theorem not_honest : ¬Honest (fun _ => []) none refusedRetry := by
  rw [honest_iff]
  intro h
  have := (h [.request submitPayload (some (.notLeader "")) {} {}]
    (.request submitPayload (some .committed) {} {}) (List.prefix_refl _) "k" (by decide)
    (by decide +kernel)).1 _ rfl
  revert this
  decide +kernel

end BoostGateway.Leaderboard
