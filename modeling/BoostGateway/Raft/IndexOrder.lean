import BoostGateway.Raft.History
import BoostGateway.Raft.LogRepair

/-!
# The order of the indices

`handle_append_entries` cuts the log in two places. Where the entry before the request has
another term, it lowers `commit_index_` and `last_applied_` to the log that is left
(`raft.cpp:431-436`); where an entry of the request differs, it does not (`raft.cpp:450-455`).
`load_persistent_state` lowers both again (`raft.cpp:600-605`).

`indicesOrdered` : in every history `last_applied_ <= commit_index_ <= log_.size()` holds as
long as no request replaces entries at or before those indices by a shorter log, and the first
such request breaks it.
-/

namespace BoostGateway.Raft

open TermLog

namespace RaftNode

/-- `last_applied_ <= commit_index_ <= log_.size()`. -/
def IndicesOrdered (n : RaftNode) : Prop :=
  n.lastApplied ≤ n.commitIndex ∧ n.commitIndex ≤ n.log.length

instance (n : RaftNode) : Decidable n.IndicesOrdered := inferInstanceAs (Decidable (_ ∧ _))

/-- Where an accepted request brings entries that the log does not have, the new log reaches
the indices : `last_applied_` if the request sets `commit_index_` anew, and else
`commit_index_`. -/
def KeepsIndices (n : RaftNode) : NodeEvent → Prop
  | .appendEntries args =>
    n.Accepts args → ¬args.entries <+: n.log.drop args.prevLogIndex →
      (if n.commitIndex < args.leaderCommit then n.lastApplied else n.commitIndex) ≤
        args.prevLogIndex + args.entries.length
  | _ => True

instance (n : RaftNode) (args : AppendEntriesArgs) : Decidable (n.Accepts args) :=
  inferInstanceAs (Decidable (_ ∧ _ ∧ _))

instance (n : RaftNode) : ∀ e, Decidable (n.KeepsIndices e)
  | .appendEntries _ => inferInstanceAs (Decidable (_ → _ → _))
  | .startElection | .electionReply .. | .electionFinish | .heartbeatReply .. | .appendCommand _
  | .appendReply .. | .appendFinish .. | .requestVote _ | .start | .restart => .isTrue trivial

variable {n n' : RaftNode}

theorem clamp_le (bound x : ℕ) : (if bound < x then bound else x) ≤ bound := by
  split_ifs <;> omega

/-- What was loaded is in order, whatever the file says. -/
theorem indicesOrdered_restart (n : RaftNode) : n.restart.IndicesOrdered := by
  unfold restart loadPersistentState
  cases n.file with
  | none => exact ⟨le_rfl, le_rfl⟩
  | some f => exact ⟨clamp_le _ f.lastApplied, clamp_le f.log.length f.commitIndex⟩

theorem IndicesOrdered.updateCommitIndexLocked (h : n.IndicesOrdered) (junk : ℕ) :
    (n.updateCommitIndexLocked junk).IndicesOrdered := by
  simp only [RaftNode.updateCommitIndexLocked]
  split_ifs with hc
  · exact ⟨h.1.trans hc.1.le, hc.2.1⟩
  · exact h

theorem IndicesOrdered.drain (h : n.IndicesOrdered) :
    n.drainCommittedEntriesLocked.1.IndicesOrdered := by
  obtain ⟨m, batch, heq, hm, -⟩ := drain_spec n
  rw [heq]
  refine ⟨?_, h.2⟩
  rcases hm with rfl | hm
  · exact h.1
  · exact hm

theorem IndicesOrdered.becomeFollower (h : n.IndicesOrdered) (term : ℕ) :
    (n.becomeFollower term).IndicesOrdered := h

theorem IndicesOrdered.acceptLeader (h : n.IndicesOrdered) (args : AppendEntriesArgs) :
    (n.acceptLeader args).IndicesOrdered := by
  unfold RaftNode.acceptLeader
  split_ifs
  · exact h.becomeFollower args.term
  · exact h.becomeFollower args.term
  · exact h

theorem indicesOrdered_truncate (n : RaftNode) (args : AppendEntriesArgs) :
    (n.truncate args).IndicesOrdered :=
  ⟨clamp_le _ n.lastApplied, clamp_le _ n.commitIndex⟩

section

variable (h : n.IndicesOrdered)
include h

theorem IndicesOrdered.handleRequestVote (args : RequestVoteArgs) :
    (n.handleRequestVote args).1.IndicesOrdered := by
  have hobs : (n.observeTerm args.term).IndicesOrdered := by
    unfold observeTerm
    split_ifs
    · exact h.becomeFollower args.term
    · exact h
  rcases handleRequestVote_cases n args with ⟨-, heq⟩ | ⟨-, ⟨-, -, heq⟩ | heq⟩
  · rwa [heq]
  · rw [heq]
    exact hobs
  · rwa [heq]

theorem IndicesOrdered.startElectionReply (args : RequestVoteArgs)
    (reply : RequestVoteReply) : (n.startElectionReply args reply).1.IndicesOrdered := by
  unfold RaftNode.startElectionReply
  split_ifs
  · exact h
  · exact h.becomeFollower reply.term
  · exact h
  · exact h

theorem IndicesOrdered.startElectionFinish : n.startElectionFinish.1.IndicesOrdered := by
  unfold RaftNode.startElectionFinish
  split_ifs
  · exact h
  · exact h

theorem IndicesOrdered.sendHeartbeatReply (peer : NodeId) (reply : AppendEntriesReply) (junk : ℕ) :
    (n.sendHeartbeatReply peer reply junk).1.IndicesOrdered := by
  unfold RaftNode.sendHeartbeatReply
  split_ifs
  · exact h.becomeFollower reply.term
  · exact h
  · have hrec : (n.recordMatch peer reply.matchIndex).IndicesOrdered := h
    exact hrec.updateCommitIndexLocked junk
  · exact h

theorem IndicesOrdered.appendCommand {command : String}
    (hn : n.appendCommand command = some n') : n'.IndicesOrdered := by
  unfold RaftNode.appendCommand at hn
  split_ifs at hn
  obtain rfl := Option.some_inj.mp hn
  refine ⟨h.1, ?_⟩
  have := h.2
  simp only [persistStateLocked_commitIndex, persistStateLocked_log, List.length_append]
  omega

theorem IndicesOrdered.appendCommandReply (peer : NodeId) (reply : AppendEntriesReply) (k : ℕ) :
    (n.appendCommandReply peer reply k).1.IndicesOrdered := by
  unfold RaftNode.appendCommandReply
  split_ifs
  · exact h.becomeFollower reply.term
  · exact h
  · exact h

theorem IndicesOrdered.appendCommandFinish {k junk : ℕ} {applied : Applied}
    (hn : n.appendCommandFinish k junk = some (n', applied)) : n'.IndicesOrdered := by
  unfold RaftNode.appendCommandFinish at hn
  split_ifs at hn
  obtain ⟨rfl, -⟩ := Prod.mk.inj (Option.some_inj.mp hn)
  exact (h.updateCommitIndexLocked junk).drain

theorem IndicesOrdered.start : n.start.IndicesOrdered := by
  unfold RaftNode.start
  split_ifs
  · exact h
  · exact h
  · exact h

/-- Only the entries that a request brings can leave the indices behind. -/
theorem indicesOrdered_handleAppendEntries_iff (args : AppendEntriesArgs) :
    (n.handleAppendEntries args).1.IndicesOrdered ↔ n.KeepsIndices (.appendEntries args) := by
  rcases handleAppendEntries_cases n args with
    ⟨hst, heq⟩ | ⟨hle, ⟨hlen, heq⟩ | ⟨hlen, hconf, heq⟩ | ⟨hlen, hconf, m, batch, heq, hm, -⟩⟩
  · rw [heq]
    exact iff_of_true h fun hacc => absurd hst (not_lt.mpr hacc.1)
  · rw [heq]
    exact iff_of_true (h.acceptLeader args) fun hacc => absurd hlen (not_lt.mpr hacc.2.1)
  · rw [heq]
    exact iff_of_true (indicesOrdered_truncate _ args) fun hacc => absurd hconf hacc.2.2
  · obtain ⟨-, -, -, hl, -, hc, -⟩ := acceptLeader_spec hle
    have hkeeps : n.KeepsIndices (.appendEntries args) ↔
        (¬args.entries <+: n.log.drop args.prevLogIndex →
          (if n.commitIndex < args.leaderCommit then n.lastApplied else n.commitIndex) ≤
            args.prevLogIndex + args.entries.length) := forall_prop_of_true ⟨hle, hlen, hconf⟩
    have hlog : ((n.acceptLeader args).takeEntries args).log =
        splice n.log args.prevLogIndex args.entries := by
      rw [takeEntries_log, hl, appendLoop_eq _ _ _ hlen]
    rw [takeEntries_commitIndex, hlog, hc] at hm
    rw [heq, hkeeps]
    change (n.lastApplied + m ≤ ((n.acceptLeader args).takeEntries args).commitIndex ∧
      ((n.acceptLeader args).takeEntries args).commitIndex ≤
        ((n.acceptLeader args).takeEntries args).log.length) ↔ _
    rw [takeEntries_commitIndex, hlog, hc]
    obtain ⟨ha, hc'⟩ := h
    by_cases hpre : args.entries <+: n.log.drop args.prevLogIndex
    · have hsame : splice n.log args.prevLogIndex args.entries = n.log := if_pos hpre
      rw [hsame] at hm ⊢
      refine iff_of_true ?_ fun hnot => absurd hpre hnot
      split_ifs at hm ⊢ <;> omega
    · have hnew : (splice n.log args.prevLogIndex args.entries).length =
          args.prevLogIndex + args.entries.length := by
        rw [splice, if_neg hpre, List.length_append, List.length_take, min_eq_left hlen]
      rw [hnew] at hm ⊢
      simp only [hpre, not_false_eq_true, forall_const]
      split_ifs at hm ⊢ <;> omega

/-- A step keeps the order exactly where it meets the condition. -/
theorem indicesOrdered_after_iff (e : NodeEvent) :
    (n.after e).1.IndicesOrdered ↔ n.KeepsIndices e := by
  cases e with
  | startElection => exact iff_of_true h trivial
  | electionReply args reply => exact iff_of_true (h.startElectionReply args reply) trivial
  | electionFinish => exact iff_of_true h.startElectionFinish trivial
  | heartbeatReply peer reply junk =>
    exact iff_of_true (h.sendHeartbeatReply peer reply junk) trivial
  | appendCommand command =>
    refine iff_of_true ?_ trivial
    rw [after]
    cases hn : n.appendCommand command with
    | none => exact h
    | some n' => exact h.appendCommand hn
  | appendReply peer reply => exact iff_of_true (h.appendCommandReply peer reply 1) trivial
  | appendFinish successes junk =>
    refine iff_of_true ?_ trivial
    rw [after]
    cases hn : n.appendCommandFinish successes junk with
    | none => exact h
    | some p => exact h.appendCommandFinish hn
  | requestVote args => exact iff_of_true (h.handleRequestVote args) trivial
  | appendEntries args => exact indicesOrdered_handleAppendEntries_iff h args
  | start => exact iff_of_true h.start trivial
  | restart => exact iff_of_true (indicesOrdered_restart n) trivial

end

/-- The states of a node, from any file it was made on, by events that meet `ok`. -/
abbrev Lives (ok : RaftNode → NodeEvent → Prop) : RaftNode → Prop :=
  BoostGateway.Reaches (fun n => ∃ n₀ : RaftNode, n = n₀.restart)
    (fun n e => some (n.after e).1) ok

/-- In a life whose events meet the condition the indices are in order, and they stay so at the
next event exactly if it meets the condition too. -/
theorem indicesOrdered (h : Lives KeepsIndices n) :
    n.IndicesOrdered ∧ ∀ e, (n.after e).1.IndicesOrdered ↔ n.KeepsIndices e := by
  have hn : n.IndicesOrdered := by
    refine h.invariant ?_ ?_
    · rintro n ⟨n₀, rfl⟩
      exact indicesOrdered_restart n₀
    · rintro n e n' hi hok hs
      rw [← Option.some_inj.mp hs]
      exact (indicesOrdered_after_iff hi e).mpr hok
  exact ⟨hn, indicesOrdered_after_iff hn⟩

/-- A new node of three. -/
theorem lives_new (ok : RaftNode → NodeEvent → Prop) :
    Lives ok { nodeId := "b", peers := ["a", "b", "c"] } :=
  .init ⟨{ nodeId := "b", peers := ["a", "b", "c"] }, rfl⟩

/-- Two entries are committed, and the second is then replaced together with a third. -/
theorem indicesOrdered_replaced : ∃ n, Lives KeepsIndices n ∧
    n.log = [⟨1, "x"⟩, ⟨2, "z"⟩] ∧ n.IndicesOrdered := by
  obtain ⟨n, hn, hlog⟩ := (lives_new KeepsIndices).exists_runWith
    (P := fun n => n.log = [⟨1, "x"⟩, ⟨2, "z"⟩])
    [.appendEntries ⟨1, "a", 0, 0, [⟨1, "x"⟩, ⟨1, "y"⟩], 2⟩,
      .appendEntries ⟨2, "c", 1, 1, [⟨2, "z"⟩], 2⟩] (by decide)
  exact ⟨n, hn, hlog, (indicesOrdered hn).1⟩

/-- Two entries are committed, and a request then replaces both by one. -/
theorem not_indicesOrdered : ∃ n, Lives (fun _ _ => True) n ∧ ¬n.IndicesOrdered :=
  (lives_new fun _ _ => True).exists_runWith
    [.appendEntries ⟨1, "a", 0, 0, [⟨1, "x"⟩, ⟨1, "y"⟩], 2⟩,
      .appendEntries ⟨2, "c", 0, 0, [⟨2, "z"⟩], 0⟩] (by decide)

end RaftNode

end BoostGateway.Raft
