import BoostGateway.Raft.Node

/-!
# What the sections of a node change

One statement per section of `BoostGateway.Raft.Node`, so that later proofs do not
unfold them. Every section leaves `node_id` and the peers alone and keeps the file
equal to the memory in all that `load_persistent_state` reads back except
`leader_id` (`Saved`). The loop of `handle_append_entries` is one splice
(`appendLoop_eq`), and draining hands out the committed entries after
`last_applied_` in order (`drain_spec`).
-/

namespace BoostGateway.Raft

open TermLog

namespace RaftNode

variable (n : RaftNode)

@[simp] theorem persistStateLocked_nodeId : n.persistStateLocked.nodeId = n.nodeId := rfl

@[simp] theorem persistStateLocked_peers : n.persistStateLocked.peers = n.peers := rfl

@[simp] theorem persistStateLocked_currentTerm :
    n.persistStateLocked.currentTerm = n.currentTerm := rfl

@[simp] theorem persistStateLocked_votedFor : n.persistStateLocked.votedFor = n.votedFor := rfl

@[simp] theorem persistStateLocked_state : n.persistStateLocked.state = n.state := rfl

@[simp] theorem persistStateLocked_log : n.persistStateLocked.log = n.log := rfl

@[simp] theorem persistStateLocked_votesReceived :
    n.persistStateLocked.votesReceived = n.votesReceived := rfl

@[simp] theorem persistStateLocked_commitIndex :
    n.persistStateLocked.commitIndex = n.commitIndex := rfl

@[simp] theorem persistStateLocked_lastApplied :
    n.persistStateLocked.lastApplied = n.lastApplied := rfl

@[simp] theorem persistStateLocked_matchIndex :
    n.persistStateLocked.matchIndex = n.matchIndex := rfl

/-! ## The file -/

/-- The file holds the term, the vote and the log of the memory. A node that never
wrote a file is in the state of a new one. -/
def Saved : Prop :=
  match n.file with
  | none => n.currentTerm = 0 ∧ n.votedFor = none ∧ n.log = []
  | some f => f.currentTerm = n.currentTerm ∧ f.votedFor = n.votedFor ∧ f.log = n.log

theorem saved_persistStateLocked : n.persistStateLocked.Saved :=
  ⟨rfl, rfl, rfl⟩

/-- `Saved` speaks of four fields only. -/
theorem Saved.congr {n n' : RaftNode} (h : n.Saved) (hf : n'.file = n.file)
    (ht : n'.currentTerm = n.currentTerm) (hv : n'.votedFor = n.votedFor)
    (hl : n'.log = n.log) : n'.Saved := by
  unfold Saved at h ⊢
  rw [hf, ht, hv, hl]
  exact h

/-- A restart reads the memory back and keeps the file. -/
theorem restart_spec {n : RaftNode} (h : n.Saved) :
    n.restart.nodeId = n.nodeId ∧ n.restart.peers = n.peers ∧
      n.restart.currentTerm = n.currentTerm ∧ n.restart.votedFor = n.votedFor ∧
      n.restart.log = n.log ∧ n.restart.state = .follower ∧ n.restart.file = n.file := by
  unfold Saved at h
  unfold restart loadPersistentState
  cases hf : n.file with
  | none =>
    rw [hf] at h
    obtain ⟨h1, h2, h3⟩ := h
    exact ⟨rfl, rfl, h1.symm, h2.symm, h3.symm, rfl, rfl⟩
  | some f =>
    rw [hf] at h
    obtain ⟨h1, h2, h3⟩ := h
    exact ⟨rfl, rfl, h1, h2, h3, rfl, rfl⟩

theorem saved_restart {n : RaftNode} (h : n.Saved) : n.restart.Saved := by
  obtain ⟨-, -, ht, hv, hl, -, hf⟩ := restart_spec h
  exact h.congr hf ht hv hl

theorem saved_becomeFollower (term : ℕ) : (n.becomeFollower term).Saved :=
  saved_persistStateLocked _

theorem saved_startElectionReply {n : RaftNode} (h : n.Saved) (args : RequestVoteArgs)
    (reply : RequestVoteReply) : (n.startElectionReply args reply).1.Saved := by
  unfold startElectionReply
  split_ifs
  · exact h
  · exact saved_becomeFollower _ _
  · exact h.congr rfl rfl rfl rfl
  · exact h

theorem saved_startElectionFinish {n : RaftNode} (h : n.Saved) :
    n.startElectionFinish.1.Saved := by
  unfold startElectionFinish
  split_ifs
  · exact saved_persistStateLocked _
  · exact h

theorem saved_observeTerm {n : RaftNode} (h : n.Saved) (term : ℕ) :
    (n.observeTerm term).Saved := by
  unfold observeTerm
  split_ifs
  · exact saved_becomeFollower _ _
  · exact h

theorem saved_handleRequestVote {n : RaftNode} (h : n.Saved) (args : RequestVoteArgs) :
    (n.handleRequestVote args).1.Saved := by
  simp only [handleRequestVote]
  split_ifs
  · exact h
  · exact saved_persistStateLocked _
  · exact saved_observeTerm h _

theorem saved_acceptLeader {n : RaftNode} (h : n.Saved) (args : AppendEntriesArgs) :
    (n.acceptLeader args).Saved := by
  unfold acceptLeader
  split_ifs
  · exact (saved_becomeFollower n args.term).congr rfl rfl rfl rfl
  · exact (saved_becomeFollower n args.term).congr rfl rfl rfl rfl
  · exact h.congr rfl rfl rfl rfl

theorem saved_handleAppendEntries {n : RaftNode} (h : n.Saved) (args : AppendEntriesArgs) :
    (n.handleAppendEntries args).1.Saved := by
  simp only [handleAppendEntries]
  split_ifs
  · exact h
  · exact saved_acceptLeader h args
  · exact saved_persistStateLocked _
  · exact saved_persistStateLocked _

theorem saved_backOff {n : RaftNode} (h : n.Saved) (peer : NodeId) : (n.backOff peer).Saved :=
  h.congr rfl rfl rfl rfl

theorem saved_recordMatch {n : RaftNode} (h : n.Saved) (peer : NodeId) (i : ℕ) :
    (n.recordMatch peer i).Saved :=
  h.congr rfl rfl rfl rfl

theorem saved_sendHeartbeatReply {n : RaftNode} (h : n.Saved) (peer : NodeId)
    (reply : AppendEntriesReply) (junk : ℕ) :
    (n.sendHeartbeatReply peer reply junk).1.Saved := by
  unfold sendHeartbeatReply
  split_ifs
  · exact saved_becomeFollower _ _
  · exact h
  · exact saved_persistStateLocked _
  · exact saved_backOff h peer

theorem saved_appendCommand {n n' : RaftNode} {command : String}
    (hn : n.appendCommand command = some n') : n'.Saved := by
  unfold appendCommand at hn
  split_ifs at hn
  obtain rfl := Option.some_inj.mp hn
  exact saved_persistStateLocked _

theorem saved_appendCommandReply {n : RaftNode} (h : n.Saved) (peer : NodeId)
    (reply : AppendEntriesReply) (k : ℕ) : (n.appendCommandReply peer reply k).1.Saved := by
  unfold appendCommandReply
  split_ifs
  · exact saved_becomeFollower _ _
  · exact saved_recordMatch h peer _
  · exact saved_backOff h peer

theorem saved_appendCommandFinish {n n' : RaftNode} {k junk : ℕ} {applied : Applied}
    (hn : n.appendCommandFinish k junk = some (n', applied)) : n'.Saved := by
  unfold appendCommandFinish at hn
  split_ifs at hn
  obtain ⟨rfl, -⟩ := Prod.mk.inj (Option.some_inj.mp hn)
  exact saved_persistStateLocked _

/-! ## The log -/

/-- The loop of `handle_append_entries` keeps a log that already holds the entries and
otherwise replaces everything after the splice point by them. -/
theorem appendLoop_eq (log : List LogEntry) (i : ℕ) (entries : List LogEntry)
    (hi : i ≤ log.length) : appendLoop log i entries = splice log i entries := by
  unfold splice
  induction entries generalizing log i with
  | nil => simp [appendLoop]
  | cons e es ih =>
    rw [appendLoop]
    rcases Nat.lt_or_ge i log.length with hlt | hge
    · have hdrop : log.drop i = log[i] :: log.drop (i + 1) := List.drop_eq_getElem_cons hlt
      rw [List.getElem?_eq_getElem hlt]
      by_cases he : log[i] = e
      · have hsame : ¬(log[i].term ≠ e.term ∨ log[i].command ≠ e.command) := by simp [he]
        simp only [hsame, if_false, if_neg (Nat.not_le.mpr hlt)]
        rw [ih log (i + 1) hlt]
        simp only [hdrop, he, List.cons_prefix_cons, true_and]
        split_ifs
        · rfl
        · rw [← he, List.take_succ_eq_append_getElem hlt, List.append_assoc, List.singleton_append]
      · have hdiff : log[i].term ≠ e.term ∨ log[i].command ≠ e.command := by
          by_contra h
          push Not at h
          exact he (by cases hl : log[i]; cases e; simp_all)
        have hlen : (log.take i).length = i := by simp; omega
        have hnot : ¬e :: es <+: log.drop i := by
          rw [hdrop, List.cons_prefix_cons]
          exact fun h => he h.1.symm
        simp only [hdiff, if_true, hlen, le_refl, if_neg hnot]
        rw [ih _ _ (by simp; omega)]
        have hnil : (log.take i ++ [e]).drop (i + 1) = [] := List.drop_eq_nil_of_le (by simp)
        have htake : (log.take i ++ [e]).take (i + 1) = log.take i ++ [e] :=
          List.take_of_length_le (by simp)
        simp only [hnil, htake, List.prefix_nil]
        split_ifs with hes
        · rw [hes]
        · rw [List.append_assoc, List.singleton_append]
    · obtain rfl : i = log.length := le_antisymm hi hge
      have hnone : log[log.length]? = none := List.getElem?_eq_none le_rfl
      simp only [hnone, le_refl, if_true]
      rw [ih _ _ (by simp)]
      have hnil : (log ++ [e]).drop (log.length + 1) = [] := List.drop_eq_nil_of_le (by simp)
      have htake : (log ++ [e]).take (log.length + 1) = log ++ [e] :=
        List.take_of_length_le (by simp)
      simp only [hnil, htake, List.drop_length, List.take_length, List.prefix_nil, reduceCtorEq,
        if_false]
      split_ifs with hes
      · rw [hes]
      · rw [List.append_assoc, List.singleton_append]

theorem mem_appendLoop {log : List LogEntry} {i : ℕ} {entries : List LogEntry} {e : LogEntry}
    (hi : i ≤ log.length) (he : e ∈ appendLoop log i entries) : e ∈ log ∨ e ∈ entries := by
  rw [appendLoop_eq _ _ _ hi, TermLog.splice] at he
  split_ifs at he
  · exact Or.inl he
  · exact (List.mem_append.mp he).imp_left List.mem_of_mem_take

/-! ## Draining -/

theorem drainLoop_spec (k : ℕ) (n : RaftNode) (acc : Applied) :
    ∃ m batch, drainLoop k n acc = ({ n with lastApplied := n.lastApplied + m }, acc ++ batch) ∧
      (m = 0 ∨ n.lastApplied + m ≤ n.commitIndex) ∧
      batch.map Prod.fst = List.range' (n.lastApplied + 1) m ∧
      ∀ x ∈ batch, n.log[x.1 - 1]? = some x.2 ∧ 1 ≤ x.1 ∧ x.1 ≤ n.commitIndex := by
  induction k generalizing n acc with
  | zero => exact ⟨0, [], by simp [drainLoop], Or.inl rfl, rfl, by simp⟩
  | succ k ih =>
    rw [drainLoop]
    cases he : n.log[n.lastApplied]? with
    | none => exact ⟨0, [], by simp, Or.inl rfl, rfl, by simp⟩
    | some e =>
      simp only
      split_ifs with hlt
      · obtain ⟨m, batch, heq, hm, hfst, hmem⟩ :=
          ih { n with lastApplied := n.lastApplied + 1 } (acc ++ [(n.lastApplied + 1, e)])
        refine ⟨m + 1, (n.lastApplied + 1, e) :: batch, ?_, ?_, ?_, ?_⟩
        · rw [heq, List.append_assoc, List.singleton_append]
          simp only [Prod.mk.injEq, and_true, mk.injEq, true_and]
          omega
        · rcases hm with rfl | hm
          · exact Or.inr hlt
          · right
            simp only at hm
            omega
        · simp only [List.map_cons, hfst, List.range'_succ]
        · intro x hx
          rcases List.mem_cons.mp hx with rfl | hx
          · exact ⟨he, by simp, hlt⟩
          · exact hmem x hx
      · exact ⟨0, [], by simp, Or.inl rfl, rfl, by simp⟩

/-- Draining raises `last_applied_`, at most to `commit_index_`, and hands out the
entries it passes, in order. -/
theorem drain_spec : ∃ m batch,
    n.drainCommittedEntriesLocked = ({ n with lastApplied := n.lastApplied + m }, batch) ∧
      (m = 0 ∨ n.lastApplied + m ≤ n.commitIndex) ∧
      batch.map Prod.fst = List.range' (n.lastApplied + 1) m ∧
      ∀ x ∈ batch, n.log[x.1 - 1]? = some x.2 ∧ 1 ≤ x.1 ∧ x.1 ≤ n.commitIndex := by
  obtain ⟨m, batch, heq, h⟩ := drainLoop_spec (n.commitIndex - n.lastApplied) n []
  exact ⟨m, batch, by rw [drainCommittedEntriesLocked, heq, List.nil_append], h⟩

/-! ## Sections that leave the term, the vote, the log and the role alone -/

/-- `n'` has the identity, term, vote, log and role of `n`. -/
structure SameCore (n n' : RaftNode) : Prop where
  nodeId : n'.nodeId = n.nodeId
  peers : n'.peers = n.peers
  currentTerm : n'.currentTerm = n.currentTerm
  votedFor : n'.votedFor = n.votedFor
  log : n'.log = n.log
  state : n'.state = n.state

theorem SameCore.refl : SameCore n n := ⟨rfl, rfl, rfl, rfl, rfl, rfl⟩

theorem SameCore.trans {n n' n'' : RaftNode} (h : SameCore n n') (h' : SameCore n' n'') :
    SameCore n n'' :=
  ⟨h'.nodeId.trans h.nodeId, h'.peers.trans h.peers, h'.currentTerm.trans h.currentTerm,
    h'.votedFor.trans h.votedFor, h'.log.trans h.log, h'.state.trans h.state⟩

theorem sameCore_persistStateLocked : SameCore n n.persistStateLocked :=
  ⟨rfl, rfl, rfl, rfl, rfl, rfl⟩

theorem sameCore_updateCommitIndexLocked (junk : ℕ) :
    SameCore n (n.updateCommitIndexLocked junk) := by
  simp only [updateCommitIndexLocked]
  split_ifs
  · exact ⟨rfl, rfl, rfl, rfl, rfl, rfl⟩
  · exact SameCore.refl n

theorem sameCore_drain : SameCore n n.drainCommittedEntriesLocked.1 := by
  obtain ⟨m, batch, heq, -⟩ := drain_spec n
  rw [heq]
  exact ⟨rfl, rfl, rfl, rfl, rfl, rfl⟩

/-- A reply makes the caller a follower of a later term or leaves its core alone. -/
theorem startElectionReply_core (args : RequestVoteArgs) (reply : RequestVoteReply) :
    (n.currentTerm < reply.term ∧
        n.startElectionReply args reply = (n.becomeFollower reply.term, false)) ∨
      SameCore n (n.startElectionReply args reply).1 := by
  unfold startElectionReply
  split_ifs with h1 h2 h3
  · exact Or.inr (SameCore.refl n)
  · exact Or.inl ⟨h2, rfl⟩
  · exact Or.inr ⟨rfl, rfl, rfl, rfl, rfl, rfl⟩
  · exact Or.inr (SameCore.refl n)

variable (peer : NodeId)

theorem sendHeartbeatReply_core (reply : AppendEntriesReply) (junk : ℕ) :
    (n.currentTerm < reply.term ∧
        n.sendHeartbeatReply peer reply junk = (n.becomeFollower reply.term, false)) ∨
      SameCore n (n.sendHeartbeatReply peer reply junk).1 := by
  unfold sendHeartbeatReply
  split_ifs with h1
  · exact Or.inl ⟨h1, rfl⟩
  · exact Or.inr (SameCore.refl n)
  · have h : SameCore n (n.recordMatch peer reply.matchIndex) := ⟨rfl, rfl, rfl, rfl, rfl, rfl⟩
    exact Or.inr ((h.trans (sameCore_updateCommitIndexLocked _ junk)).trans
      (sameCore_persistStateLocked _))
  · exact Or.inr ⟨rfl, rfl, rfl, rfl, rfl, rfl⟩

theorem appendCommandReply_core (reply : AppendEntriesReply) (k : ℕ) :
    (n.currentTerm < reply.term ∧
        n.appendCommandReply peer reply k = (n.becomeFollower reply.term, none)) ∨
      SameCore n (n.appendCommandReply peer reply k).1 := by
  unfold appendCommandReply
  split_ifs with h1
  · exact Or.inl ⟨h1, rfl⟩
  · exact Or.inr ⟨rfl, rfl, rfl, rfl, rfl, rfl⟩
  · exact Or.inr ⟨rfl, rfl, rfl, rfl, rfl, rfl⟩

theorem appendCommandFinish_core {n n' : RaftNode} {k junk : ℕ} {applied : Applied}
    (hn : n.appendCommandFinish k junk = some (n', applied)) : SameCore n n' := by
  unfold appendCommandFinish at hn
  split_ifs at hn
  obtain ⟨rfl, -⟩ := Prod.mk.inj (Option.some_inj.mp hn)
  exact ((sameCore_updateCommitIndexLocked n junk).trans (sameCore_drain _)).trans
    (sameCore_persistStateLocked _)

/-! ## Requests -/

/-- What `handle_append_entries` sees once it has reacted to the term. -/
theorem acceptLeader_spec {n : RaftNode} {args : AppendEntriesArgs}
    (h : n.currentTerm ≤ args.term) :
    (n.acceptLeader args).nodeId = n.nodeId ∧ (n.acceptLeader args).peers = n.peers ∧
      (n.acceptLeader args).currentTerm = args.term ∧ (n.acceptLeader args).log = n.log ∧
      (n.acceptLeader args).state ≠ .candidate ∧
      (n.acceptLeader args).commitIndex = n.commitIndex ∧
      (n.acceptLeader args).lastApplied = n.lastApplied := by
  unfold acceptLeader becomeFollower
  split_ifs with h1 h2
  · exact ⟨rfl, rfl, rfl, rfl, by simp, rfl, rfl⟩
  · exact ⟨rfl, rfl, rfl, rfl, by simp, rfl, rfl⟩
  · exact ⟨rfl, rfl, le_antisymm h (not_lt.mp h1), rfl, h2, rfl, rfl⟩

theorem takeEntries_log (args : AppendEntriesArgs) :
    (n.takeEntries args).log = appendLoop n.log args.prevLogIndex args.entries := rfl

theorem takeEntries_commitIndex (args : AppendEntriesArgs) :
    (n.takeEntries args).commitIndex =
      if n.commitIndex < args.leaderCommit then
        min args.leaderCommit (n.takeEntries args).log.length
      else n.commitIndex := rfl

/-- The four ways through `handle_append_entries`. -/
theorem handleAppendEntries_cases (args : AppendEntriesArgs) :
    (args.term < n.currentTerm ∧
      n.handleAppendEntries args = (n, ⟨n.currentTerm, false, n.log.length⟩, [])) ∨
    (n.currentTerm ≤ args.term ∧
      ((n.log.length < args.prevLogIndex ∧ n.handleAppendEntries args =
          (n.acceptLeader args, ⟨args.term, false, n.log.length⟩, [])) ∨
       (args.prevLogIndex ≤ n.log.length ∧ prevConflict n.log args ∧
          n.handleAppendEntries args = ((n.acceptLeader args).truncate args,
            ⟨args.term, false, (n.log.take (args.prevLogIndex - 1)).length⟩, [])) ∨
       (args.prevLogIndex ≤ n.log.length ∧ ¬prevConflict n.log args ∧ ∃ m batch,
          n.handleAppendEntries args =
            ({ (n.acceptLeader args).takeEntries args with
                lastApplied := n.lastApplied + m }.persistStateLocked,
              ⟨args.term, true, (appendLoop n.log args.prevLogIndex args.entries).length⟩,
              batch) ∧
          (m = 0 ∨ n.lastApplied + m ≤ ((n.acceptLeader args).takeEntries args).commitIndex) ∧
          batch.map Prod.fst = List.range' (n.lastApplied + 1) m ∧
          ∀ x ∈ batch,
            (appendLoop n.log args.prevLogIndex args.entries)[x.1 - 1]? = some x.2 ∧ 1 ≤ x.1 ∧
              x.1 ≤ ((n.acceptLeader args).takeEntries args).commitIndex))) := by
  by_cases hst : args.term < n.currentTerm
  · exact Or.inl ⟨hst, by simp only [handleAppendEntries, if_pos hst]⟩
  have hle := not_lt.mp hst
  obtain ⟨-, -, ht, hl, -, hc, ha⟩ := acceptLeader_spec hle
  refine Or.inr ⟨hle, ?_⟩
  by_cases hlen : n.log.length < args.prevLogIndex
  · exact Or.inl ⟨hlen, by simp only [handleAppendEntries, if_neg hst, hl, if_pos hlen, ht]⟩
  refine Or.inr ?_
  by_cases hconf : prevConflict n.log args
  · refine Or.inl ⟨not_lt.mp hlen, hconf, ?_⟩
    simp only [handleAppendEntries, if_neg hst, hl, if_neg hlen, hconf, if_true]
    simp [truncate, ht, hl]
  · obtain ⟨m, batch, heq, hm, hfst, hmem⟩ := drain_spec ((n.acceptLeader args).takeEntries args)
    have hta : ((n.acceptLeader args).takeEntries args).lastApplied = n.lastApplied := ha
    have htl : ((n.acceptLeader args).takeEntries args).log =
        appendLoop n.log args.prevLogIndex args.entries := by
      simp only [takeEntries, hl]
    refine Or.inr ⟨not_lt.mp hlen, hconf, m, batch, ?_, hta ▸ hm, hta ▸ hfst, htl ▸ hmem⟩
    simp only [handleAppendEntries, if_neg hst, hl, if_neg hlen, hconf, heq]
    simp only [persistStateLocked_currentTerm, persistStateLocked_log, hta, htl]
    simp [takeEntries, ht]

/-- A request that is not stale changes, after the reaction to its term, only the log and
the indices. -/
theorem handleAppendEntries_core {n : RaftNode} {args : AppendEntriesArgs}
    (h : n.currentTerm ≤ args.term) :
    (n.handleAppendEntries args).1.nodeId = (n.acceptLeader args).nodeId ∧
      (n.handleAppendEntries args).1.peers = (n.acceptLeader args).peers ∧
      (n.handleAppendEntries args).1.currentTerm = (n.acceptLeader args).currentTerm ∧
      (n.handleAppendEntries args).1.votedFor = (n.acceptLeader args).votedFor ∧
      (n.handleAppendEntries args).1.state = (n.acceptLeader args).state := by
  rcases handleAppendEntries_cases n args with
    ⟨hst, -⟩ | ⟨-, ⟨-, heq⟩ | ⟨-, -, heq⟩ | ⟨-, -, m, batch, heq, -⟩⟩
  · exact absurd hst (not_lt.mpr h)
  all_goals
    rw [heq]
    exact ⟨rfl, rfl, rfl, rfl, rfl⟩

/-- A node reports the size of its log. -/
theorem handleAppendEntries_matchIndex (args : AppendEntriesArgs) :
    (n.handleAppendEntries args).2.1.matchIndex = (n.handleAppendEntries args).1.log.length := by
  simp only [handleAppendEntries]
  split_ifs <;> rfl

theorem observeTerm_currentTerm {n : RaftNode} {T : ℕ} (h : n.currentTerm ≤ T) :
    (n.observeTerm T).currentTerm = T := by
  unfold observeTerm
  split_ifs with hlt
  · rfl
  · exact le_antisymm h (not_lt.mp hlt)

/-- The three ways through `handle_request_vote`. -/
theorem handleRequestVote_cases (args : RequestVoteArgs) :
    (args.term < n.currentTerm ∧ n.handleRequestVote args = (n, ⟨n.currentTerm, false⟩)) ∨
    (n.currentTerm ≤ args.term ∧
      (((n.observeTerm args.term).votedFor = none ∨
          (n.observeTerm args.term).votedFor = some args.candidateId) ∧
        (n.observeTerm args.term).isLogUpToDate args.lastLogTerm args.lastLogIndex ∧
        n.handleRequestVote args = ({ n.observeTerm args.term with
          votedFor := some args.candidateId }.persistStateLocked, ⟨args.term, true⟩) ∨
       n.handleRequestVote args = (n.observeTerm args.term, ⟨args.term, false⟩))) := by
  by_cases hst : args.term < n.currentTerm
  · exact Or.inl ⟨hst, by simp only [handleRequestVote, if_pos hst]⟩
  have hle := not_lt.mp hst
  refine Or.inr ⟨hle, ?_⟩
  simp only [handleRequestVote, if_neg hst, observeTerm_currentTerm hle]
  split_ifs with hv
  · exact Or.inl ⟨hv.1, hv.2, rfl⟩
  · exact Or.inr rfl

/-! ## Who still runs -/

/-- If `n'` is a candidate, `n` was one in the same term with the same count. -/
def StillRuns (n' : RaftNode) : Prop :=
  n'.state = .candidate → n.state = .candidate ∧ n'.currentTerm = n.currentTerm ∧
    n'.votesReceived = n.votesReceived

theorem StillRuns.refl : StillRuns n n := fun hs => ⟨hs, rfl, rfl⟩

theorem stillRuns_becomeFollower (term : ℕ) :
    StillRuns n (n.becomeFollower term) := fun hs => by simp [becomeFollower] at hs

theorem stillRuns_handleRequestVote (args : RequestVoteArgs) :
    StillRuns n (n.handleRequestVote args).1 := by
  have hobs : StillRuns n (n.observeTerm args.term) := by
    unfold observeTerm
    split_ifs
    · exact stillRuns_becomeFollower n _
    · exact StillRuns.refl n
  rcases handleRequestVote_cases n args with ⟨-, heq⟩ | ⟨-, ⟨-, -, heq⟩ | heq⟩
  · rw [heq]
    exact StillRuns.refl n
  · rw [heq]
    exact hobs
  · rw [heq]
    exact hobs

theorem stillRuns_handleAppendEntries (args : AppendEntriesArgs) :
    StillRuns n (n.handleAppendEntries args).1 := by
  rcases Nat.lt_or_ge args.term n.currentTerm with hst | hle
  · have heq : n.handleAppendEntries args = (n, ⟨n.currentTerm, false, n.log.length⟩, []) := by
      simp only [handleAppendEntries, if_pos hst]
    rw [heq]
    exact StillRuns.refl n
  · obtain ⟨-, -, -, -, hs⟩ := handleAppendEntries_core hle
    obtain ⟨-, -, -, -, hcand, -, -⟩ := acceptLeader_spec hle
    intro hs'
    exact absurd (hs ▸ hs') hcand

theorem stillRuns_sendHeartbeatReply (reply : AppendEntriesReply)
    (junk : ℕ) : StillRuns n (n.sendHeartbeatReply peer reply junk).1 := by
  rcases sendHeartbeatReply_core n peer reply junk with ⟨-, heq⟩ | hc
  · rw [heq]
    exact stillRuns_becomeFollower n _
  · intro hs
    have hs' : n.state = .candidate := hc.state ▸ hs
    have hsame : (n.sendHeartbeatReply peer reply junk).1.votesReceived = n.votesReceived := by
      unfold sendHeartbeatReply
      split_ifs with h1 h2
      · simp [sendHeartbeatReply, h1, becomeFollower] at hs
      · rfl
      · exact absurd (hs'.symm.trans (not_not.mp h2)) (by simp)
      · rfl
    exact ⟨hs', hc.currentTerm, hsame⟩

theorem stillRuns_appendCommandReply (reply : AppendEntriesReply)
    (k : ℕ) : StillRuns n (n.appendCommandReply peer reply k).1 := by
  unfold appendCommandReply
  split_ifs
  · exact stillRuns_becomeFollower n _
  · exact fun hs => ⟨hs, rfl, rfl⟩
  · exact fun hs => ⟨hs, rfl, rfl⟩

theorem stillRuns_appendCommandFinish {n n' : RaftNode} {k junk : ℕ} {applied : Applied}
    (hn : n.appendCommandFinish k junk = some (n', applied)) : StillRuns n n' := by
  have hc := appendCommandFinish_core hn
  intro hs
  refine ⟨hc.state ▸ hs, hc.currentTerm, ?_⟩
  obtain ⟨m, batch, heq, -⟩ := drain_spec (n.updateCommitIndexLocked junk)
  simp only [appendCommandFinish, heq] at hn
  split_ifs at hn
  obtain ⟨rfl, -⟩ := Prod.mk.inj (Option.some_inj.mp hn)
  simp only [persistStateLocked_votesReceived, updateCommitIndexLocked]
  split_ifs <;> rfl

end RaftNode

end BoostGateway.Raft
