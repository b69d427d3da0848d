import BoostGateway.Base.LogRepair
import BoostGateway.Raft.Sections

/-!
# Replies and the repair of a log

`handle_append_entries` reports the size of its whole log on success (`raft.cpp:474`), where
a request only covers the entries up to `prev_log_index + entries.size()`.

`reportsAgreement_iff` : the report is part of the leader's log exactly when the entries before
the request are, and the log does not go on behind the request with other entries. Heartbeats
read the report back into `next_index_` and `match_index_`; `repairs_iff` says which logs come
in line with the leader's by them.
-/

namespace BoostGateway.Raft

open TermLog

namespace RaftNode

/-! ## What a reply says -/

/-- The request is neither stale nor refused. -/
def Accepts (n : RaftNode) (args : AppendEntriesArgs) : Prop :=
  n.currentTerm ≤ args.term ∧ args.prevLogIndex ≤ n.log.length ∧ ¬prevConflict n.log args

theorem success_iff_accepts (n : RaftNode) (args : AppendEntriesArgs) :
    (n.handleAppendEntries args).2.1.success ↔ n.Accepts args := by
  unfold Accepts
  rcases handleAppendEntries_cases n args with
    ⟨hst, heq⟩ | ⟨hle, ⟨hlen, heq⟩ | ⟨hlen, hconf, heq⟩ | ⟨hlen, hconf, m, batch, heq, -⟩⟩
  all_goals rw [heq]
  · exact iff_of_false (by simp) fun h => by omega
  · exact iff_of_false (by simp) fun h => by omega
  · exact iff_of_false (by simp) fun h => h.2.2 hconf
  · exact iff_of_true rfl ⟨hle, hlen, hconf⟩

theorem handleAppendEntries_of_accepts {n : RaftNode} {args : AppendEntriesArgs}
    (h : n.Accepts args) :
    (n.handleAppendEntries args).1.log = splice n.log args.prevLogIndex args.entries ∧
      (n.handleAppendEntries args).2.1 =
        ⟨args.term, true, (splice n.log args.prevLogIndex args.entries).length⟩ := by
  obtain ⟨hle, hlen, hconf⟩ := h
  rcases handleAppendEntries_cases n args with
    ⟨hst, heq⟩ | ⟨-, ⟨hlen', heq⟩ | ⟨-, hconf', heq⟩ | ⟨-, -, m, batch, heq, -⟩⟩
  · omega
  · omega
  · exact absurd hconf' hconf
  · rw [heq, ← appendLoop_eq _ _ _ hlen]
    obtain ⟨-, -, -, hl, -⟩ := acceptLeader_spec hle
    refine ⟨?_, rfl⟩
    change appendLoop (n.acceptLeader args).log _ _ = _
    rw [hl]

/-- The request of `make_append_entries_for`, when `next_index_` is in the log or at its end. -/
theorem makeAppendEntriesFor_inside {n : RaftNode} {peer : NodeId} {k : ℕ}
    (h : n.nextIndex.lookup peer = some (k + 1)) (hk : k ≤ n.log.length) :
    (n.makeAppendEntriesFor peer).prevLogIndex = k ∧
      (n.makeAppendEntriesFor peer).entries = n.log.drop k ∧
      ∀ F, prevConflict F (n.makeAppendEntriesFor peer) ↔ ¬SameTermAt n.log F k := by
  have hprev : (n.makeAppendEntriesFor peer).prevLogIndex = k := by
    simp only [makeAppendEntriesFor, h, Option.getD_some]
    split_ifs <;> omega
  refine ⟨hprev, ?_, fun F => ?_⟩
  · simp only [makeAppendEntriesFor, h, Option.getD_some, Nat.add_sub_cancel]
    split_ifs with hin
    · rfl
    · exact (List.drop_of_length_le (by omega)).symm
  · rw [prevConflict, hprev]
    cases k with
    | zero => exact iff_of_false (by simp) (not_not.mpr (Or.inl rfl))
    | succ i =>
      have hterm : (n.makeAppendEntriesFor peer).prevLogTerm =
          (n.log[i]?.map LogEntry.term).getD 0 := by
        simp only [makeAppendEntriesFor, h, Option.getD_some]
        rw [if_pos ⟨by omega, by omega⟩]
        rfl
      rw [hterm, SameTermAt, Nat.add_sub_cancel, List.getElem?_eq_getElem hk]
      simp only [Option.map_some, Option.getD_some, ne_eq, decide_not, Bool.not_eq_true',
        decide_eq_false_iff_not, Nat.succ_ne_zero, false_or]
      exact not_congr eq_comm

/-- Elsewhere the request is empty. -/
theorem makeAppendEntriesFor_outside {n : RaftNode} {peer : NodeId} {x : ℕ}
    (h : n.nextIndex.lookup peer = some x) (hx : ¬(1 ≤ x ∧ x ≤ n.log.length + 1)) :
    (n.makeAppendEntriesFor peer).prevLogIndex = 0 ∧
      (n.makeAppendEntriesFor peer).entries = [] := by
  simp only [makeAppendEntriesFor, h, Option.getD_some]
  constructor
  · rw [if_neg]
    omega
  · rw [if_neg]
    omega

/-- A request holds the leader's log from its first entry on, or nothing. -/
theorem entries_makeAppendEntriesFor (n : RaftNode) (peer : NodeId) :
    (n.makeAppendEntriesFor peer).entries = [] ∨
      (n.makeAppendEntriesFor peer).entries =
        n.log.drop (n.makeAppendEntriesFor peer).prevLogIndex := by
  simp only [makeAppendEntriesFor]
  generalize (n.nextIndex.lookup peer).getD (n.log.length + 1) = x
  split_ifs with h1 h2 h3
  · exact Or.inr rfl
  · obtain rfl : x = 1 := by omega
    exact Or.inr rfl
  · exact Or.inl rfl
  · exact Or.inl rfl

/-- A success with the match index `m` : both logs have `m` entries, and the same ones. -/
def ReportsAgreement (leader follower : RaftNode) (peer : NodeId) : Prop :=
  let r := follower.handleAppendEntries (leader.makeAppendEntriesFor peer)
  r.2.1.success → r.2.1.matchIndex ≤ leader.log.length ∧
    r.1.log.take r.2.1.matchIndex = leader.log.take r.2.1.matchIndex

/-- The request, if it is accepted, finds the leader's entries before its own; and behind its
own nothing, or again entries of the leader. -/
def Covers (leader follower : RaftNode) (peer : NodeId) : Prop :=
  let args := leader.makeAppendEntriesFor peer
  follower.Accepts args → follower.log.take args.prevLogIndex <+: leader.log ∧
    (args.entries <+: follower.log.drop args.prevLogIndex → follower.log <+: leader.log)

theorem splice_prefix_iff {L F es : List LogEntry} {k : ℕ} (hk : k ≤ F.length)
    (hes : es = [] ∨ es = L.drop k) :
    splice F k es <+: L ↔ F.take k <+: L ∧ (es <+: F.drop k → F <+: L) := by
  have htake : F.take k <+: L → F.take k = L.take k := fun h => by
    have := List.prefix_iff_eq_take.mp h
    rwa [List.length_take, min_eq_left hk] at this
  unfold splice
  split_ifs with h
  · exact ⟨fun hF => ⟨(List.take_prefix k F).trans hF, fun _ => hF⟩, fun hF => hF.2 h⟩
  · have hes' : es = L.drop k := hes.resolve_left fun hnil => h (hnil ▸ List.nil_prefix)
    constructor
    · exact fun hF => ⟨(List.prefix_append _ _).trans hF, fun h' => absurd h' h⟩
    · rintro ⟨hF, -⟩
      rw [htake hF, hes', List.take_append_drop]

/-- What a follower reports is part of the leader's log exactly when the request covers its
log. -/
theorem reportsAgreement_iff (leader follower : RaftNode) (peer : NodeId) :
    leader.ReportsAgreement follower peer ↔ leader.Covers follower peer := by
  have hes := leader.entries_makeAppendEntriesFor peer
  unfold ReportsAgreement Covers
  simp only [success_iff_accepts]
  refine forall_congr' fun hacc => ?_
  rw [handleAppendEntries_matchIndex, List.take_length, (handleAppendEntries_of_accepts hacc).1,
    ← splice_prefix_iff hacc.2.1 hes]
  constructor
  · rintro ⟨-, heq⟩
    rw [heq]
    exact List.take_prefix _ _
  · intro hpre
    exact ⟨hpre.length_le, List.prefix_iff_eq_take.mp hpre⟩

/-- An uncommitted entry behind the leader's log is reported as one of its own. -/
theorem not_reportsAgreement :
    ¬ReportsAgreement
      { nodeId := "a", peers := ["a", "b", "c"], currentTerm := 2, state := .leader
        log := [⟨1, "x"⟩], nextIndex := AList.insert "b" 2 ∅ }
      { nodeId := "b", peers := ["a", "b", "c"], currentTerm := 1
        log := [⟨1, "x"⟩, ⟨1, "y"⟩] } "b" := by
  intro h
  exact absurd (h rfl).1 (by decide)

/-! ## Rounds of heartbeats -/

/-- One heartbeat of the leader to one follower, with its answer. -/
def exchange (peer : NodeId) (junk : ℕ) (p : RaftNode × RaftNode) : RaftNode × RaftNode :=
  if p.1.state ≠ .leader then p
  else
    let (follower, reply, _) := p.2.handleAppendEntries (p.1.makeAppendEntriesFor peer)
    ((p.1.sendHeartbeatReply peer reply junk).1, follower)

/-- `r` heartbeats. -/
def exchanges (peer : NodeId) (junk : ℕ → ℕ) : ℕ → RaftNode × RaftNode → RaftNode × RaftNode
  | 0, p => p
  | r + 1, p => exchange peer (junk r) (exchanges peer junk r p)

/-- The two nodes as a repair of the follower's log by the log `L`. -/
structure Repairing (L : List LogEntry) (peer : NodeId) (p : RaftNode × RaftNode)
    (s : Repair LogEntry) : Prop where
  leads : p.1.state = .leader
  log : p.1.log = L
  term : p.2.currentTerm ≤ p.1.currentTerm
  next : p.1.nextIndex.lookup peer = some s.next
  matched : p.1.matchIndex.lookup peer = s.matched
  follows : p.2.log = s.log

theorem updateCommitIndexLocked_indices (n : RaftNode) (junk : ℕ) :
    (n.updateCommitIndexLocked junk).nextIndex = n.nextIndex ∧
      (n.updateCommitIndexLocked junk).matchIndex = n.matchIndex := by
  simp only [updateCommitIndexLocked]
  split_ifs
  · exact ⟨rfl, rfl⟩
  · exact ⟨rfl, rfl⟩

variable {L : List LogEntry} {peer : NodeId} {n f f' : RaftNode} {s : Repair LogEntry}

section

variable (h : Repairing L peer (n, f) s)
include h

/-- A success is read back. -/
theorem Repairing.success {m : ℕ} {F : List LogEntry}
    (hlog : f'.log = F) (hterm : f'.currentTerm = n.currentTerm) (junk : ℕ) :
    Repairing L peer ((n.sendHeartbeatReply peer ⟨n.currentTerm, true, m⟩ junk).1, f')
      { log := F, next := m + 1, matched := some m } := by
  have hs : n.state = .leader := h.leads
  have heq : (n.sendHeartbeatReply peer ⟨n.currentTerm, true, m⟩ junk).1 =
      ((n.recordMatch peer m).updateCommitIndexLocked junk).persistStateLocked := by
    simp [sendHeartbeatReply, hs]
  have hcore := sameCore_updateCommitIndexLocked (n.recordMatch peer m) junk
  obtain ⟨hnext, hmatch⟩ := updateCommitIndexLocked_indices (n.recordMatch peer m) junk
  rw [heq]
  generalize (n.recordMatch peer m).updateCommitIndexLocked junk = u at hcore hnext hmatch
  exact
    { leads := hcore.state.trans hs
      log := hcore.log.trans h.log
      term := (hterm.trans hcore.currentTerm.symm).le
      next := by
        change u.nextIndex.lookup peer = _
        rw [hnext]
        exact AList.lookup_insert _
      matched := by
        change u.matchIndex.lookup peer = _
        rw [hmatch]
        exact AList.lookup_insert _
      follows := hlog }

/-- A refusal moves the leader back. -/
theorem Repairing.refused {m k : ℕ} {F : List LogEntry}
    (hnext : s.next = k + 1) (hk : 1 ≤ k) (hlog : f'.log = F)
    (hterm : f'.currentTerm = n.currentTerm) (junk : ℕ) :
    Repairing L peer ((n.sendHeartbeatReply peer ⟨n.currentTerm, false, m⟩ junk).1, f')
      { log := F, next := k, matched := s.matched } := by
  have hs : n.state = .leader := h.leads
  have heq : (n.sendHeartbeatReply peer ⟨n.currentTerm, false, m⟩ junk).1 = n.backOff peer := by
    simp [sendHeartbeatReply, hs]
  have hlook : n.nextIndex.lookup peer = some (k + 1) := hnext ▸ h.next
  rw [heq]
  exact
    { leads := hs
      log := h.log
      term := hterm.le
      next := by
        change (n.nextIndex.insert peer _).lookup peer = _
        rw [AList.lookup_insert, hlook, Option.getD_some, if_pos (by omega), Nat.add_sub_cancel]
      matched := h.matched
      follows := hlog }

theorem Repairing.exchange_eq (junk : ℕ) :
    exchange peer junk (n, f) =
      ((n.sendHeartbeatReply peer (f.handleAppendEntries (n.makeAppendEntriesFor peer)).2.1 junk).1,
        (f.handleAppendEntries (n.makeAppendEntriesFor peer)).1) :=
  if_neg (not_not.mpr h.leads)

/-- The follower takes the leader's term. -/
theorem Repairing.currentTerm :
    (f.handleAppendEntries (n.makeAppendEntriesFor peer)).1.currentTerm = n.currentTerm :=
  have hle : f.currentTerm ≤ (n.makeAppendEntriesFor peer).term := h.term
  (handleAppendEntries_core hle).2.2.1.trans (acceptLeader_spec hle).2.2.1

theorem Repairing.accepted
    (hacc : f.Accepts (n.makeAppendEntriesFor peer)) {F : List LogEntry}
    (hF : splice f.log (n.makeAppendEntriesFor peer).prevLogIndex
      (n.makeAppendEntriesFor peer).entries = F) (junk : ℕ) :
    Repairing L peer (exchange peer junk (n, f))
      { log := F, next := F.length + 1, matched := some F.length } := by
  obtain ⟨hlog, hreply⟩ := handleAppendEntries_of_accepts hacc
  rw [hF] at hlog hreply
  rw [h.exchange_eq, hreply]
  exact h.success hlog h.currentTerm junk

/-- Where `next_index_` is in the log or at its end, the follower refuses or takes the log
from there on. -/
theorem Repairing.exchange_inside
    (hin : 1 ≤ s.next ∧ s.next ≤ L.length + 1) (junk : ℕ) :
    Repairing L peer (exchange peer junk (n, f)) (s.step L) := by
  obtain ⟨k, hk⟩ : ∃ k, s.next = k + 1 := ⟨s.next - 1, by omega⟩
  have hk' : s.next - 1 = k := by omega
  have hn : n.log = L := h.log
  have hf : f.log = s.log := h.follows
  obtain ⟨hprev, hentries, hconf⟩ := makeAppendEntriesFor_inside (n := n) (hk ▸ h.next)
    (by rw [hn]; omega)
  rw [hn] at hentries hconf
  have hle : f.currentTerm ≤ (n.makeAppendEntriesFor peer).term := h.term
  have hterm := h.currentTerm
  have hl := (acceptLeader_spec hle).2.2.2.1
  rcases handleAppendEntries_cases f (n.makeAppendEntriesFor peer) with
    ⟨hst, -⟩ | ⟨-, ⟨hlen, heq⟩ | ⟨hlen, hc, heq⟩ | ⟨hlen, hc, -⟩⟩
  · exact absurd hst (not_lt.mpr hle)
  · rw [hprev, hf] at hlen
    rw [Repair.step_short hin (by omega), h.exchange_eq]
    rw [heq] at hterm ⊢
    exact h.refused (by omega) (by omega) (hl.trans hf) hterm junk
  · rw [hprev, hf] at hlen
    rw [hconf, hf] at hc
    have hpos : 1 ≤ k := by
      by_contra h0
      exact hc (Or.inl (by omega))
    rw [Repair.step_conflict hin (by omega) (hk' ▸ hc), h.exchange_eq]
    rw [heq] at hterm ⊢
    refine h.refused (by omega) (by omega) ?_ hterm junk
    change (f.acceptLeader _).log.take ((n.makeAppendEntriesFor peer).prevLogIndex - 1) = _
    rw [hl, hf, hprev, hk']
  · have hsplice : splice f.log (n.makeAppendEntriesFor peer).prevLogIndex
        (n.makeAppendEntriesFor peer).entries =
          splice s.log (s.next - 1) (L.drop (s.next - 1)) := by
      rw [hprev, hentries, hf, hk']
    have haccepted := h.accepted ⟨hle, hlen, hc⟩ hsplice junk
    rw [hprev, hf] at hlen
    rw [hconf, hf, not_not] at hc
    rw [Repair.step_accepted hin (by omega) (hk' ▸ hc)]
    exact haccepted

/-- Elsewhere the follower agrees to an empty request. -/
theorem Repairing.exchange_outside
    (hout : ¬(1 ≤ s.next ∧ s.next ≤ L.length + 1)) (junk : ℕ) :
    Repairing L peer (exchange peer junk (n, f)) (s.step L) := by
  have hn : n.log = L := h.log
  obtain ⟨hprev, hentries⟩ := makeAppendEntriesFor_outside (n := n) h.next (by rwa [hn])
  have hacc : f.Accepts (n.makeAppendEntriesFor peer) := by
    refine ⟨h.term, ?_, ?_⟩
    · rw [hprev]
      exact Nat.zero_le _
    · rw [prevConflict, hprev]
      exact Bool.false_ne_true
  rw [Repair.step_outside hout]
  refine h.accepted hacc ?_ junk
  rw [hprev, hentries]
  exact (if_pos List.nil_prefix).trans h.follows

end

/-- Each round of heartbeats is a step of the repair. -/
theorem Repairing.exchange {p : RaftNode × RaftNode} (h : Repairing L peer p s) (junk : ℕ) :
    Repairing L peer (exchange peer junk p) (s.step L) := by
  by_cases hin : 1 ≤ s.next ∧ s.next ≤ L.length + 1
  · exact Repairing.exchange_inside h hin junk
  · exact Repairing.exchange_outside h hin junk

theorem Repairing.exchanges {p : RaftNode × RaftNode} (h : Repairing L peer p s) (junk : ℕ → ℕ) :
    ∀ r, Repairing L peer (exchanges peer junk r p) ((Repair.step L)^[r] s)
  | 0 => h
  | r + 1 => by
    rw [Function.iterate_succ_apply']
    exact (Repairing.exchanges h junk r).exchange (junk r)

theorem Repairing.done_iff {p : RaftNode × RaftNode} (h : Repairing L peer p s) :
    s.Done L ↔ p.2.log = L ∧ p.1.matchIndex.lookup peer = some L.length := by
  rw [h.follows, h.matched]
  rfl

/-- After some rounds the follower has the leader's log, and `match_index_` says so. -/
def Repairs (leader follower : RaftNode) (peer : NodeId) (junk : ℕ → ℕ) : Prop :=
  ∃ r, (exchanges peer junk r (leader, follower)).2.log = leader.log ∧
    (exchanges peer junk r (leader, follower)).1.matchIndex.lookup peer = some leader.log.length

/-- What the repair of a follower starts from, with `next_index_` at `next`. -/
def repairOf (leader follower : RaftNode) (peer : NodeId) (next : ℕ) : Repair LogEntry where
  log := follower.log
  next := next
  matched := leader.matchIndex.lookup peer

theorem repairs_iff_done {leader follower : RaftNode} {x : ℕ} (hl : leader.state = .leader)
    (ht : follower.currentTerm ≤ leader.currentTerm)
    (hn : leader.nextIndex.lookup peer = some x) (junk : ℕ → ℕ) :
    leader.Repairs follower peer junk ↔
      ∃ r, ((Repair.step leader.log)^[r] (leader.repairOf follower peer x)).Done leader.log := by
  have h : Repairing leader.log peer (leader, follower) (leader.repairOf follower peer x) :=
    { leads := hl, log := rfl, term := ht, next := hn, matched := rfl, follows := rfl }
  exact exists_congr fun r => (h.exchanges junk r).done_iff.symm

/-- Heartbeats bring the follower's log in line with the leader's exactly when it can be
repaired from `next_index_`. -/
theorem repairs_iff {leader follower : RaftNode} {x : ℕ} (hl : leader.state = .leader)
    (ht : follower.currentTerm ≤ leader.currentTerm)
    (hn : leader.nextIndex.lookup peer = some x) (junk : ℕ → ℕ) :
    leader.Repairs follower peer junk ↔
      Repairable leader.log (leader.repairOf follower peer x) := by
  rw [repairs_iff_done hl ht hn, repaired_iff]

/-- A conflicting entry is replaced, from `next_index_` at the end of the leader's log. -/
theorem repairs_conflict :
    Repairs
      { nodeId := "a", peers := ["a", "b"], currentTerm := 2, state := .leader
        log := [⟨1, "x"⟩, ⟨2, "y"⟩], nextIndex := AList.insert "b" 3 ∅ }
      { nodeId := "b", peers := ["a", "b"], currentTerm := 1
        log := [⟨1, "x"⟩, ⟨1, "z"⟩] } "b" fun _ => 0 :=
  (repairs_iff (x := 3) rfl (by decide) (by decide) _).mpr (by decide)

/-- A log that goes on behind the leader's stays as it is. -/
theorem not_repairs :
    ¬Repairs
      { nodeId := "a", peers := ["a", "b"], currentTerm := 2, state := .leader
        log := [⟨1, "x"⟩], nextIndex := AList.insert "b" 2 ∅ }
      { nodeId := "b", peers := ["a", "b"], currentTerm := 1
        log := [⟨1, "x"⟩, ⟨1, "y"⟩] } "b" fun _ => 0 := by
  rw [repairs_iff_done (x := 2) rfl (by decide) (by decide), repaired_iff]
  decide

end RaftNode

end BoostGateway.Raft
