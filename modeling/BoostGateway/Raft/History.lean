import BoostGateway.Base.Run
import BoostGateway.Raft.Sections

/-!
# Histories of one node

One node in an arbitrary world : `NodeEvent` is any locked section with any
arguments, in any order, and a restart between any two of them. `History` records
whom the node has supported in which term, by voting for itself in `start_election`
or by granting in `handle_request_vote`, and the terms it went through.

A candidate that gets an append request of its own term goes through
`become_follower`, which clears `voted_for_` and keeps the term
(`raft.cpp:415-419`), so it may grant a second vote; and `current_term_++` wraps at
`2 ^ 64`. Where neither happens (`Steady`), a node supports one candidate a term and
its term never falls (`one_support`).
-/

namespace BoostGateway.Raft

/-- A locked section of a node, with what it gets from outside. -/
inductive NodeEvent
  | startElection
  | electionReply (args : RequestVoteArgs) (reply : RequestVoteReply)
  | electionFinish
  | heartbeatReply (peer : NodeId) (reply : AppendEntriesReply) (junk : ℕ)
  | appendCommand (command : String)
  | appendReply (peer : NodeId) (reply : AppendEntriesReply)
  | appendFinish (successes junk : ℕ)
  | requestVote (args : RequestVoteArgs)
  | appendEntries (args : AppendEntriesArgs)
  | start
  | restart
  deriving DecidableEq

namespace RaftNode

/-- The node after an event, and the entries the event drained. -/
def after (n : RaftNode) : NodeEvent → RaftNode × Applied
  | .startElection => (n.startElection, [])
  | .electionReply args reply => ((n.startElectionReply args reply).1, [])
  | .electionFinish => (n.startElectionFinish.1, [])
  | .heartbeatReply peer reply junk => ((n.sendHeartbeatReply peer reply junk).1, [])
  | .appendCommand command => ((n.appendCommand command).getD n, [])
  | .appendReply peer reply => ((n.appendCommandReply peer reply 1).1, [])
  | .appendFinish successes junk => (n.appendCommandFinish successes junk).getD (n, [])
  | .requestVote args => ((n.handleRequestVote args).1, [])
  | .appendEntries args =>
    let (n, _, applied) := n.handleAppendEntries args
    (n, applied)
  | .start => (n.start, [])
  | .restart => (n.restart, [])

variable {n : RaftNode}

/-- After every event the file holds the term, the vote and the log. -/
theorem saved_after (h : n.Saved) (e : NodeEvent) : (n.after e).1.Saved := by
  cases e with
  | startElection => exact saved_persistStateLocked _
  | electionReply args reply => exact saved_startElectionReply h args reply
  | electionFinish => exact saved_startElectionFinish h
  | heartbeatReply peer reply junk => exact saved_sendHeartbeatReply h peer reply junk
  | appendCommand command =>
    rw [after]
    cases hn : n.appendCommand command with
    | none => exact h
    | some n' => exact saved_appendCommand hn
  | appendReply peer reply => exact saved_appendCommandReply h peer reply 1
  | appendFinish successes junk =>
    rw [after]
    cases hn : n.appendCommandFinish successes junk with
    | none => exact h
    | some p => exact saved_appendCommandFinish hn
  | requestVote args => exact saved_handleRequestVote h args
  | appendEntries args => exact saved_handleAppendEntries h args
  | start =>
    simp only [after, RaftNode.start]
    split_ifs
    · exact saved_persistStateLocked _
    · exact saved_persistStateLocked _
    · exact h
  | restart => exact saved_restart h

/-! ## What an event adds to the log -/

/-- What an event may add to the log. -/
def brought (n : RaftNode) : NodeEvent → List LogEntry
  | .appendCommand command => [⟨n.currentTerm, command⟩]
  | .appendEntries args => args.entries
  | _ => []

theorem mem_log_handleAppendEntries {e : LogEntry} {args : AppendEntriesArgs}
    (he : e ∈ (n.handleAppendEntries args).1.log) : e ∈ n.log ∨ e ∈ args.entries := by
  rcases handleAppendEntries_cases n args with
    ⟨-, heq⟩ | ⟨hle, ⟨-, heq⟩ | ⟨-, -, heq⟩ | ⟨hlen, -, m, batch, heq, -⟩⟩
  · rw [heq] at he
    exact Or.inl he
  all_goals
    obtain ⟨-, -, -, hl, -⟩ := acceptLeader_spec hle
    rw [heq] at he
  · exact Or.inl (hl ▸ he)
  · exact Or.inl (hl ▸ List.mem_of_mem_take he)
  · have he' : e ∈ appendLoop n.log args.prevLogIndex args.entries := hl ▸ he
    exact mem_appendLoop hlen he'

theorem log_handleRequestVote (n : RaftNode) (args : RequestVoteArgs) :
    (n.handleRequestVote args).1.log = n.log := by
  simp only [handleRequestVote, observeTerm]
  split_ifs <;> rfl

variable {n' : RaftNode}

/-- After a reply the log is the same. -/
theorem log_of_reply {T : ℕ} (h : n' = n.becomeFollower T ∨ SameCore n n') : n'.log = n.log := by
  rcases h with rfl | hc
  · rfl
  · exact hc.log

/-- An event adds to the log at most what it brings. -/
theorem mem_log_after (ev : NodeEvent) (hs : n.Saved) {e : LogEntry}
    (he : e ∈ (n.after ev).1.log) : e ∈ n.log ∨ e ∈ n.brought ev := by
  cases ev with
  | startElection => exact Or.inl he
  | electionReply args reply =>
    refine Or.inl ((log_of_reply (T := reply.term) ?_) ▸ he)
    exact (startElectionReply_core n args reply).imp_left fun h => congrArg Prod.fst h.2
  | electionFinish =>
    simp only [after, startElectionFinish] at he
    split_ifs at he
    · exact Or.inl he
    · exact Or.inl he
  | heartbeatReply peer reply junk =>
    refine Or.inl ((log_of_reply (T := reply.term) ?_) ▸ he)
    exact (sendHeartbeatReply_core n peer reply junk).imp_left fun h => congrArg Prod.fst h.2
  | appendCommand command =>
    simp only [after, appendCommand] at he
    split_ifs at he
    · exact Or.inl he
    · exact List.mem_append.mp he
  | appendReply peer reply =>
    refine Or.inl ((log_of_reply (T := reply.term) ?_) ▸ he)
    exact (appendCommandReply_core n peer reply 1).imp_left fun h => congrArg Prod.fst h.2
  | appendFinish successes junk =>
    rw [after] at he
    cases hn : n.appendCommandFinish successes junk with
    | none =>
      rw [hn] at he
      exact Or.inl he
    | some p =>
      rw [hn] at he
      exact Or.inl ((appendCommandFinish_core hn).log ▸ he)
  | requestVote args => exact Or.inl (log_handleRequestVote n args ▸ he)
  | appendEntries args => exact mem_log_handleAppendEntries he
  | start =>
    simp only [after, RaftNode.start] at he
    split_ifs at he
    · exact Or.inl he
    · exact Or.inl he
    · exact Or.inl he
  | restart =>
    obtain ⟨-, -, -, -, hl, -⟩ := restart_spec hs
    exact Or.inl (hl ▸ he)

/-- What an event drains is in the log. -/
theorem mem_log_of_mem_drained (ev : NodeEvent) {x : ℕ × LogEntry}
    (hx : x ∈ (n.after ev).2) : x.2 ∈ (n.after ev).1.log := by
  cases ev with
  | appendFinish successes junk =>
    rw [after] at hx ⊢
    cases hn : n.appendCommandFinish successes junk with
    | none => simp [hn] at hx
    | some p =>
      rw [hn] at hx
      obtain ⟨m, batch, heq, -, -, hmem⟩ := drain_spec (n.updateCommitIndexLocked junk)
      simp only [appendCommandFinish, heq] at hn
      split_ifs at hn
      obtain rfl := Option.some_inj.mp hn
      exact List.mem_of_getElem? (hmem x hx).1
  | appendEntries args =>
    have hx' : x ∈ (n.handleAppendEntries args).2.2 := hx
    change x.2 ∈ (n.handleAppendEntries args).1.log
    rcases handleAppendEntries_cases n args with
      ⟨-, heq⟩ | ⟨hle, ⟨-, heq⟩ | ⟨-, -, heq⟩ | ⟨-, -, m, batch, heq, -, -, hmem⟩⟩
    · simp [heq] at hx'
    · simp [heq] at hx'
    · simp [heq] at hx'
    · obtain ⟨-, -, -, hl, -⟩ := acceptLeader_spec hle
      rw [heq] at hx' ⊢
      have hlog : x.2 ∈ appendLoop n.log args.prevLogIndex args.entries :=
        List.mem_of_getElem? (hmem x hx').1
      exact hl ▸ hlog
  | startElection | electionReply | electionFinish | heartbeatReply | appendCommand | appendReply
  | requestVote | start | restart => simp [after] at hx

/-! ## Terms and votes -/

/-- The term does not fall, and the vote of an unchanged term stays. -/
structure VoteKept (n n' : RaftNode) : Prop where
  nodeId : n'.nodeId = n.nodeId
  term : n.currentTerm ≤ n'.currentTerm
  vote : n'.currentTerm = n.currentTerm → ∀ c, n.votedFor = some c → n'.votedFor = some c

theorem SameCore.voteKept (h : SameCore n n') : VoteKept n n' where
  nodeId := h.nodeId
  term := h.currentTerm.ge
  vote _ c hc := by rw [h.votedFor, hc]

theorem VoteKept.refl (n : RaftNode) : VoteKept n n := (SameCore.refl n).voteKept

theorem VoteKept.trans {n'' : RaftNode} (h : VoteKept n n') (h' : VoteKept n' n'') :
    VoteKept n n'' where
  nodeId := h'.nodeId.trans h.nodeId
  term := h.term.trans h'.term
  vote ht c hc := by
    have h1 := h.term
    have h2 := h'.term
    exact h'.vote (by omega) c (h.vote (by omega) c hc)

theorem voteKept_of_lt (hid : n'.nodeId = n.nodeId)
    (h : n.currentTerm < n'.currentTerm) : VoteKept n n' where
  nodeId := hid
  term := h.le
  vote ht := by omega

theorem voteKept_handleRequestVote (n : RaftNode) (args : RequestVoteArgs) :
    VoteKept n (n.handleRequestVote args).1 := by
  have hobs : VoteKept n (n.observeTerm args.term) := by
    unfold observeTerm
    split_ifs with hlt
    · exact voteKept_of_lt rfl hlt
    · exact VoteKept.refl n
  rcases handleRequestVote_cases n args with ⟨-, heq⟩ | ⟨-, ⟨hcan, -, heq⟩ | heq⟩
  · rw [heq]
    exact VoteKept.refl n
  · rw [heq]
    refine hobs.trans ⟨rfl, le_rfl, fun _ c hc => ?_⟩
    rcases hcan with hcan | hcan
    · rw [hcan] at hc
      exact absurd hc (by simp)
    · rw [hcan] at hc
      exact hc
  · rw [heq]
    exact hobs

/-- Only a candidate that meets its own term loses a vote. -/
theorem voteKept_handleAppendEntries {args : AppendEntriesArgs}
    (h : ¬(n.state = .candidate ∧ args.term = n.currentTerm)) :
    VoteKept n (n.handleAppendEntries args).1 := by
  have hacc : n.currentTerm ≤ args.term → VoteKept n (n.acceptLeader args) := by
    intro hle
    unfold acceptLeader
    split_ifs with h1 h2
    · exact voteKept_of_lt rfl h1
    · exact absurd ⟨h2, le_antisymm (not_lt.mp h1) hle⟩ h
    · exact ⟨rfl, le_rfl, fun _ _ hc => hc⟩
  rcases handleAppendEntries_cases n args with
    ⟨-, heq⟩ | ⟨hle, ⟨-, heq⟩ | ⟨-, -, heq⟩ | ⟨-, -, m, batch, heq, -⟩⟩
  · rw [heq]
    exact VoteKept.refl n
  · rw [heq]
    exact hacc hle
  · rw [heq]
    exact (hacc hle).trans ⟨rfl, le_rfl, fun _ _ hc => hc⟩
  · rw [heq]
    exact (hacc hle).trans ⟨rfl, le_rfl, fun _ _ hc => hc⟩

end RaftNode

/-- The event takes no vote back : it is not an append request of the candidate's own
term, nor an election in the last term there is. -/
def Steady (n : RaftNode) : NodeEvent → Prop
  | .appendEntries args => ¬(n.state = .candidate ∧ args.term = n.currentTerm)
  | .startElection => n.currentTerm + 1 < 2 ^ 64
  | _ => True

instance (n : RaftNode) (e : NodeEvent) : Decidable (Steady n e) := by
  unfold Steady
  split <;> infer_instance

/-- A reply to a call makes the node a follower of a later term or leaves its core alone. -/
theorem RaftNode.voteKept_of_reply {n n' : RaftNode} {T : ℕ}
    (h : (n.currentTerm < T ∧ n' = n.becomeFollower T) ∨ SameCore n n') : VoteKept n n' := by
  rcases h with ⟨hlt, rfl⟩ | hc
  · exact voteKept_of_lt rfl hlt
  · exact hc.voteKept

theorem RaftNode.voteKept_after {n : RaftNode} (hs : n.Saved) {e : NodeEvent}
    (he : Steady n e) : VoteKept n (n.after e).1 := by
  cases e with
  | startElection =>
    have hlt : n.currentTerm + 1 < 2 ^ 64 := he
    refine voteKept_of_lt rfl ?_
    change n.currentTerm < (n.currentTerm + 1) % 2 ^ 64
    rw [Nat.mod_eq_of_lt hlt]
    exact Nat.lt_succ_self _
  | electionReply args reply =>
    exact voteKept_of_reply ((startElectionReply_core n args reply).imp_left
      fun h => ⟨h.1, congrArg Prod.fst h.2⟩)
  | electionFinish =>
    simp only [after, startElectionFinish]
    split_ifs
    · exact ⟨rfl, le_rfl, fun _ _ hc => hc⟩
    · exact VoteKept.refl n
  | heartbeatReply peer reply junk =>
    exact voteKept_of_reply ((sendHeartbeatReply_core n peer reply junk).imp_left
      fun h => ⟨h.1, congrArg Prod.fst h.2⟩)
  | appendCommand command =>
    simp only [after, appendCommand]
    split_ifs
    · exact VoteKept.refl n
    · exact ⟨rfl, le_rfl, fun _ _ hc => hc⟩
  | appendReply peer reply =>
    exact voteKept_of_reply ((appendCommandReply_core n peer reply 1).imp_left
      fun h => ⟨h.1, congrArg Prod.fst h.2⟩)
  | appendFinish successes junk =>
    rw [after]
    cases hn : n.appendCommandFinish successes junk with
    | none => exact VoteKept.refl n
    | some p => exact (appendCommandFinish_core hn).voteKept
  | requestVote args => exact voteKept_handleRequestVote n args
  | appendEntries args => exact voteKept_handleAppendEntries he
  | start =>
    simp only [after, RaftNode.start]
    split_ifs with h1 h2
    · exact voteKept_of_lt rfl (by simp [becomeLeader, h2])
    · exact ⟨rfl, le_rfl, fun _ _ hc => hc⟩
    · exact VoteKept.refl n
  | restart =>
    obtain ⟨hid, -, ht, hv, -⟩ := restart_spec hs
    exact ⟨hid, ht.ge, fun _ c hc => hv.trans hc⟩

/-! ## What a history shows -/

/-- A node with the record of its past. -/
structure History where
  node : RaftNode
  /-- Terms with the candidate the node supported there. -/
  supports : List (ℕ × NodeId) := []
  /-- The terms after the events. -/
  terms : List ℕ := []

/-- Whom an event supports. -/
def RaftNode.supports (n : RaftNode) : NodeEvent → List (ℕ × NodeId)
  | .startElection => [(n.startElection.currentTerm, n.nodeId)]
  | .requestVote args =>
    if (n.handleRequestVote args).2.voteGranted then
      [((n.handleRequestVote args).1.currentTerm, args.candidateId)]
    else []
  | _ => []

def History.step (h : History) (e : NodeEvent) : History where
  node := (h.node.after e).1
  supports := h.supports ++ h.node.supports e
  terms := h.terms ++ [(h.node.after e).1.currentTerm]

/-- The histories of a new node whose events meet `ok`. -/
abbrev History.Reaches (ok : RaftNode → NodeEvent → Prop) : History → Prop :=
  BoostGateway.Reaches
    (fun h => ∃ nodeId peers, h = { node := { nodeId := nodeId, peers := peers } })
    (fun h e => some (h.step e)) (fun h e => ok h.node e)

/-- One candidate is supported a term, and the term never falls. -/
def OneSupport (h : History) : Prop :=
  (∀ T c c', (T, c) ∈ h.supports → (T, c') ∈ h.supports → c = c') ∧ h.terms.Pairwise (· ≤ ·)

/-- What a steady history keeps. -/
structure HistoryInv (h : History) : Prop where
  saved : h.node.Saved
  support : ∀ T c, (T, c) ∈ h.supports →
    T ≤ h.node.currentTerm ∧ (T = h.node.currentTerm → h.node.votedFor = some c)
  terms_le : ∀ t ∈ h.terms, t ≤ h.node.currentTerm
  one : OneSupport h

theorem historyInv_init (nodeId : NodeId) (peers : List NodeId) :
    HistoryInv { node := { nodeId := nodeId, peers := peers } } where
  saved := ⟨rfl, rfl, rfl⟩
  support := by simp
  terms_le := by simp
  one := ⟨by simp, List.Pairwise.nil⟩

/-- A supported candidate is the one in `voted_for_` afterwards, and the only one the
node had supported in that term. -/
theorem HistoryInv.support_new {h : History} (hi : HistoryInv h) {e : NodeEvent}
    (he : Steady h.node e) {T : ℕ} {c : NodeId} (hc : (T, c) ∈ h.node.supports e) :
    T = (h.node.after e).1.currentTerm ∧ (h.node.after e).1.votedFor = some c ∧
      ∀ c', (T, c') ∈ h.supports → c' = c := by
  cases e with
  | startElection =>
    obtain ⟨rfl, rfl⟩ := Prod.mk.inj (List.mem_singleton.mp hc)
    refine ⟨rfl, rfl, fun c' hc' => ?_⟩
    have hle := (hi.support _ c' hc').1
    have hlt : h.node.currentTerm + 1 < 2 ^ 64 := he
    change (h.node.currentTerm + 1) % 2 ^ 64 ≤ _ at hle
    rw [Nat.mod_eq_of_lt hlt] at hle
    omega
  | requestVote args =>
    simp only [RaftNode.supports] at hc
    split_ifs at hc with hg
    · obtain ⟨rfl, rfl⟩ := Prod.mk.inj (List.mem_singleton.mp hc)
      have hkept := RaftNode.voteKept_handleRequestVote h.node args
      have hvoted : (h.node.handleRequestVote args).1.votedFor = some args.candidateId := by
        rcases RaftNode.handleRequestVote_cases h.node args with ⟨-, heq⟩ | ⟨-, ⟨-, -, heq⟩ | heq⟩
        · simp [heq] at hg
        · rw [heq]
          rfl
        · simp [heq] at hg
      refine ⟨rfl, hvoted, fun c' hc' => ?_⟩
      obtain ⟨hle, hvote⟩ := hi.support _ c' hc'
      have heq := le_antisymm hle hkept.term
      have := hkept.vote heq c' (hvote heq)
      exact Option.some_inj.mp (this.symm.trans hvoted)
    · simp at hc
  | _ => simp [RaftNode.supports] at hc

theorem HistoryInv.step {h : History} (hi : HistoryInv h) {e : NodeEvent}
    (he : Steady h.node e) : HistoryInv (h.step e) := by
  have hkept := RaftNode.voteKept_after hi.saved he
  have hold : ∀ T c, (T, c) ∈ (h.step e).supports →
      (T, c) ∈ h.supports ∨ (T, c) ∈ h.node.supports e := fun _ _ hc => List.mem_append.mp hc
  refine ⟨RaftNode.saved_after hi.saved e, ?_, ?_, ?_, ?_⟩
  · intro T c hc
    rcases hold T c hc with hc | hc
    · obtain ⟨hle, hvote⟩ := hi.support T c hc
      refine ⟨hle.trans hkept.term, fun hT => ?_⟩
      have hterm : (h.node.after e).1.currentTerm = h.node.currentTerm :=
        le_antisymm (hT ▸ hle) hkept.term
      exact hkept.vote hterm c (hvote (hT.trans hterm))
    · obtain ⟨hT, hvote, -⟩ := hi.support_new he hc
      exact ⟨hT.le, fun _ => hvote⟩
  · intro t ht
    rcases List.mem_append.mp ht with ht | ht
    · exact (hi.terms_le t ht).trans hkept.term
    · exact (List.mem_singleton.mp ht).le
  · intro T c c' hc hc'
    rcases hold T c hc with hc | hc
    · rcases hold T c' hc' with hc' | hc'
      · exact hi.one.1 T c c' hc hc'
      · exact (hi.support_new he hc').2.2 c hc
    · rcases hold T c' hc' with hc' | hc'
      · exact ((hi.support_new he hc).2.2 c' hc').symm
      · have hv := (hi.support_new he hc).2.1
        have hv' := (hi.support_new he hc').2.1
        exact Option.some_inj.mp (hv.symm.trans hv')
  · refine List.pairwise_append.mpr ⟨hi.one.2, List.pairwise_singleton _ _, fun t ht t' ht' => ?_⟩
    rw [List.mem_singleton.mp ht']
    exact (hi.terms_le t ht).trans hkept.term

/-- In a steady history the node supports one candidate a term and its term never falls. -/
theorem one_support {h : History} (hr : History.Reaches Steady h) : OneSupport h := by
  have hi : HistoryInv h := by
    refine hr.invariant ?_ ?_
    · rintro h ⟨nodeId, peers, rfl⟩
      exact historyInv_init nodeId peers
    · rintro h e h' hi he hs
      rw [← Option.some_inj.mp hs]
      exact hi.step he
  exact hi.one

/-- `a` runs in term 1 and votes for `b` in term 2. -/
theorem one_support_election : ∃ h, History.Reaches Steady h ∧
    h.supports = [(1, "a"), (2, "b")] ∧ OneSupport h := by
  have h0 : History.Reaches Steady { node := { nodeId := "a", peers := ["a", "b", "c"] } } :=
    .init ⟨_, _, rfl⟩
  have h1 := h0.step (a := .startElection) (by decide) rfl
  have h2 := h1.step (a := .requestVote ⟨2, "b", 0, 0⟩) (by decide) rfl
  exact ⟨_, h2, by decide, one_support h2⟩

/-- The candidate `a` follows the leader `b` of its own term and then votes for `c`. -/
theorem not_one_support_demoted : ∃ h, History.Reaches (fun _ _ => True) h ∧
    h.supports = [(1, "a"), (1, "c")] ∧ ¬OneSupport h := by
  have h0 : History.Reaches (fun _ _ => True)
      { node := { nodeId := "a", peers := ["a", "b", "c"] } } := .init ⟨_, _, rfl⟩
  have h1 := h0.step (a := .startElection) trivial rfl
  have h2 := h1.step (a := .appendEntries ⟨1, "b", 0, 0, [], 0⟩) trivial rfl
  have h3 := h2.step (a := .requestVote ⟨1, "c", 0, 0⟩) trivial rfl
  refine ⟨_, h3, by decide, fun h => ?_⟩
  exact absurd (h.1 1 "a" "c" (by decide) (by decide)) (by decide)

end BoostGateway.Raft
