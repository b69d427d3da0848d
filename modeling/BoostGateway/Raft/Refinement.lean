import BoostGateway.Base.Ledger
import BoostGateway.Raft.Sections

/-!
# A node follows the replication protocol

Each section of a node is one or two operations of the abstract protocol
(`BoostGateway.Base.Ledger`) by that node, or none. `NodeInv` relates a node to a
ledger : term and log are the ledger's, the recorded votes of the current term are
the one in `voted_for_` or the node's own given up one, a candidate still runs with
the log it asked for votes with, and a leader is the ledger's leader of its term.

`become_follower` clears `voted_for_` also when a candidate meets the leader of its
own term. In the ledger this is `concede`, and it is the only way a node can vote
twice in one term.
-/

namespace BoostGateway.Raft

open TermLog Ledger

/-- The ledger of a cluster. -/
abbrev RaftLedger := Ledger NodeId LogEntry

/-- The node `n` is where the ledger has `v`. -/
structure NodeInv (peers : List NodeId) (g : RaftLedger) (v : NodeId) (n : RaftNode) : Prop where
  nodeId : n.nodeId = v
  peers : n.peers = peers
  term : g.term v = n.currentTerm
  log : g.log v = n.log
  saved : n.Saved
  votes : ∀ c l, g.vote v n.currentTerm c l →
    n.votedFor = some c ∨ g.conceded v n.currentTerm ∧ c = v
  candidate : n.state = .candidate → n.votedFor = some v ∧
    g.campaign v n.currentTerm = some n.log ∧ ¬g.conceded v n.currentTerm ∧
    g.leader n.currentTerm ≠ some v
  leader : n.state = .leader → g.leader n.currentTerm = some v

variable {peers : List NodeId} {g g' : RaftLedger} {u v : NodeId} {n n' : RaftNode}

theorem nodeInv_init (peers : List NodeId) (v : NodeId) :
    NodeInv peers Ledger.init v { nodeId := v, peers := peers } where
  nodeId := rfl
  peers := rfl
  term := rfl
  log := rfl
  saved := ⟨rfl, rfl, rfl⟩
  votes _ _ h := h.elim
  candidate h := by simp at h
  leader h := by simp at h

theorem NodeInv.mem_targets (h : NodeInv peers g v n) {p : NodeId} (hp : p ∈ n.targets) :
    p ∈ peers ∧ p ≠ v := by
  rw [RaftNode.targets, h.peers, h.nodeId] at hp
  simpa using hp

/-- A move of another node does not concern `u`. -/
theorem NodeInv.frame (h : NodeInv peers g u n) (hm : Move peers.toFinset v g g') (hu : u ≠ v) :
    NodeInv peers g' u n where
  __ := h
  term := (hm.term u hu).trans h.term
  log := (hm.log u hu).trans h.log
  votes c l hv := by
    rcases h.votes c l (hm.vote u hu _ c l hv) with hf | ⟨hc, hcu⟩
    · exact Or.inl hf
    · exact Or.inr ⟨hm.le.conceded _ _ hc, hcu⟩
  candidate hs := by
    obtain ⟨hf, hc, hcon, hl⟩ := h.candidate hs
    exact ⟨hf, hm.le.campaign _ _ _ hc, fun hc' => hcon (hm.conceded u hu _ hc'),
      fun hl' => hl (hm.leader u hu _ hl')⟩
  leader hs := hm.le.leader _ _ (h.leader hs)

/-- A section that changes none of the fields the ledger knows. -/
theorem NodeInv.core (h : NodeInv peers g v n) (hc : n.SameCore n') (hs : n'.Saved) :
    NodeInv peers g v n' where
  nodeId := hc.nodeId.trans h.nodeId
  peers := hc.peers.trans h.peers
  term := by rw [hc.currentTerm, h.term]
  log := by rw [hc.log, h.log]
  saved := hs
  votes := by
    rw [hc.currentTerm, hc.votedFor]
    exact h.votes
  candidate := by
    rw [hc.state, hc.currentTerm, hc.votedFor, hc.log]
    exact h.candidate
  leader := by
    rw [hc.state, hc.currentTerm]
    exact h.leader

section

variable (hg : g.Sound peers.toFinset) (h : NodeInv peers g v n)

/-! ## Elections -/

include hg h in
/-- Starting an election is running in a new term. -/
theorem startElectionAt_refines {T : ℕ} (hT : n.currentTerm < T) :
    Move peers.toFinset v g (g.run v T) ∧
      NodeInv peers (g.run v T) v (n.startElectionAt T) := by
  have hlt : g.term v < T := h.term ▸ hT
  have hvote : ∀ c l, ¬g.vote v T c l := fun c l hv =>
    absurd (hg.vote_campaign v T c l hv).1 (by omega)
  refine ⟨hg.move_run hlt, ?_⟩
  exact
    { h with
      term := Function.update_self ..
      saved := RaftNode.saved_persistStateLocked _
      votes := by
        rintro c l (hv | ⟨-, -, rfl, -⟩)
        · exact absurd hv (hvote c l)
        · exact Or.inl (congrArg some h.nodeId)
      candidate := fun _ => by
        refine ⟨congrArg some h.nodeId, ?_, ?_, ?_⟩
        · simp [Ledger.run, RaftNode.startElectionAt, h.log]
        · intro hc
          exact absurd (hg.conceded_leader v T hc).1 (by omega)
        · intro hl
          exact absurd (hg.leader_le (T := T) hl) (by omega)
      leader := fun hs => by simp [RaftNode.startElectionAt] at hs }

include hg h in
/-- Following a later term is raising one's own. -/
theorem becomeFollower_refines {T : ℕ} (hT : n.currentTerm < T) :
    Move peers.toFinset v g (g.raise v T) ∧
      NodeInv peers (g.raise v T) v (n.becomeFollower T) := by
  have hlt : g.term v < T := h.term ▸ hT
  refine ⟨hg.move_raise hlt.le, ?_⟩
  exact
    { h with
      term := Function.update_self ..
      saved := RaftNode.saved_becomeFollower n T
      votes := fun c l hv => absurd (hg.vote_campaign v T c l hv).1 (by omega)
      candidate := fun hs => by simp [RaftNode.becomeFollower] at hs
      leader := fun hs => by simp [RaftNode.becomeFollower] at hs }

include hg h in
/-- A candidate that follows the leader of its own term concedes it. -/
theorem becomeFollower_concedes {c : NodeId} (hs : n.state = .candidate)
    (hl : g.leader n.currentTerm = some c) (hne : c ≠ v) :
    Move peers.toFinset v g (g.concede v) ∧
      NodeInv peers (g.concede v) v (n.becomeFollower n.currentTerm) := by
  obtain ⟨hf, -, hcon, -⟩ := h.candidate hs
  refine ⟨hg.move_concede (h.term ▸ hl) hne, ?_⟩
  exact
    { h with
      saved := RaftNode.saved_becomeFollower n _
      votes := fun d l hv => by
        have hd : n.votedFor = some d :=
          (h.votes d l hv).resolve_right fun hc => hcon hc.1
        refine Or.inr ⟨Or.inr ⟨rfl, h.term.symm⟩, ?_⟩
        exact Option.some_inj.mp (hd.symm.trans hf)
      candidate := fun hs => by simp [RaftNode.becomeFollower] at hs
      leader := fun hs => by simp [RaftNode.becomeFollower] at hs }

include hg h in
/-- A call that gets a later term in a reply raises its node's. -/
theorem reply_refines {T : ℕ}
    (hr : (n.currentTerm < T ∧ n' = n.becomeFollower T) ∨ n.SameCore n') (hs : n'.Saved) :
    Move peers.toFinset v g (g.raise v n'.currentTerm) ∧
      NodeInv peers (g.raise v n'.currentTerm) v n' := by
  rcases hr with ⟨hlt, rfl⟩ | hc
  · exact becomeFollower_refines hg h hlt
  · rw [hc.currentTerm, ← h.term, raise_self]
    exact ⟨Move.refl hg, h.core hc hs⟩

/-- The votes a candidate has counted. -/
def Tally (peers : List NodeId) (g : RaftLedger) (v : NodeId) (n : RaftNode)
    (Q : Finset NodeId) : Prop :=
  Q ⊆ peers.toFinset ∧ Q.card = n.votesReceived ∧ ∀ u ∈ Q, ∃ l, g.vote u n.currentTerm v l

include hg h in
/-- A candidate that counts a majority is elected. -/
theorem becomeLeader_refines (hnd : peers.Nodup) {Q : Finset NodeId} (hs : n.state = .candidate)
    (hQ : Tally peers g v n Q) (hv : n.quorumSize ≤ n.votesReceived) :
    Move peers.toFinset v g (g.elect v) ∧ NodeInv peers (g.elect v) v n.becomeLeader := by
  obtain ⟨hf, hc, hcon, hnew⟩ := h.candidate hs
  obtain ⟨hsub, hcard, hvotes⟩ := hQ
  have hquorum : Quorum peers.toFinset Q := by
    refine ⟨hsub, ?_⟩
    rw [List.toFinset_card_of_nodup hnd, hcard]
    rw [RaftNode.quorumSize, h.peers] at hv
    omega
  rw [← h.term] at hc hcon hnew hvotes
  rw [← h.log] at hc
  refine ⟨hg.move_elect hc hcon hnew hquorum hvotes, ?_⟩
  exact
    { h with
      saved := RaftNode.saved_persistStateLocked _
      candidate := fun hs => by simp [RaftNode.becomeLeader] at hs
      leader := fun _ => by
        have : (g.elect v).leader (g.term v) = some v := Function.update_self ..
        rw [h.term] at this
        exact this }

/-! ## Vote requests -/

/-- The request of a candidacy on record. -/
def VoteRequest (g : RaftLedger) (args : RequestVoteArgs) : Prop :=
  ∃ b, g.campaign args.candidateId args.term = some b ∧ args.lastLogTerm = lastTerm b ∧
    args.lastLogIndex = b.length

/-- What `handle_request_vote` does to the ledger. -/
def voteLedger (g : RaftLedger) (v : NodeId) (n : RaftNode) (args : RequestVoteArgs) :
    RaftLedger :=
  if (n.handleRequestVote args).2.voteGranted then
    (g.raise v (n.handleRequestVote args).1.currentTerm).cast v args.candidateId
  else g.raise v (n.handleRequestVote args).1.currentTerm

include hg h in
theorem observeTerm_refines (T : ℕ) :
    Move peers.toFinset v g (g.raise v (n.observeTerm T).currentTerm) ∧
      NodeInv peers (g.raise v (n.observeTerm T).currentTerm) v (n.observeTerm T) := by
  refine reply_refines hg h (T := T) ?_ (RaftNode.saved_observeTerm h.saved T)
  unfold RaftNode.observeTerm
  split_ifs with hlt
  · exact Or.inl ⟨hlt, rfl⟩
  · exact Or.inr (RaftNode.SameCore.refl n)

/-- The comparison of `is_log_up_to_date` is the protocol's. -/
theorem upToDate_of_isLogUpToDate {b : List LogEntry}
    (hup : n.isLogUpToDate (lastTerm b) b.length) : UpToDate b n.log := by
  unfold RaftNode.isLogUpToDate at hup
  rw [lastLogTermOf_eq] at hup
  split_ifs at hup with hne
  · exact Or.inl (by simpa using hup)
  · exact Or.inr ⟨(not_not.mp hne).symm, by simpa using hup⟩

include hg h in
theorem handleRequestVote_refines {args : RequestVoteArgs} (hr : VoteRequest g args) :
    Move peers.toFinset v g (voteLedger g v n args) ∧
      NodeInv peers (voteLedger g v n args) v (n.handleRequestVote args).1 ∧
      ((n.handleRequestVote args).2.voteGranted →
        ∃ l, (voteLedger g v n args).vote v args.term args.candidateId l) := by
  unfold voteLedger
  rcases RaftNode.handleRequestVote_cases n args with
    ⟨-, heq⟩ | ⟨hle, ⟨hcan, hup, heq⟩ | heq⟩
  · rw [heq]
    simp only [Bool.false_eq_true, if_false, IsEmpty.forall_iff, and_true]
    rw [← h.term, raise_self]
    exact ⟨Move.refl hg, h⟩
  · obtain ⟨hm, hn⟩ := observeTerm_refines hg h args.term
    rw [heq]
    simp only [if_true, RaftNode.persistStateLocked_currentTerm, forall_const]
    set g₁ := g.raise v (n.observeTerm args.term).currentTerm
    set n₁ := n.observeTerm args.term
    have ht : n₁.currentTerm = args.term := RaftNode.observeTerm_currentTerm hle
    obtain ⟨b, hb, hlt, hli⟩ := hr
    have hb' : g₁.campaign args.candidateId (g₁.term v) = some b := by
      rw [hn.term, ht]
      exact hb
    rw [hlt, hli] at hup
    have hold : ∀ d l, g₁.vote v (g₁.term v) d l →
        d = args.candidateId ∨ g₁.conceded v (g₁.term v) ∧ d = v := by
      intro d l hv
      rw [hn.term] at hv ⊢
      rcases hn.votes d l hv with hd | hd
      · rcases hcan with hcan | hcan
        · rw [hcan] at hd
          exact absurd hd (by simp)
        · exact Or.inl (Option.some_inj.mp (hd.symm.trans hcan))
      · exact Or.inr hd
    have hup' : UpToDate b (g₁.log v) := hn.log ▸ upToDate_of_isLogUpToDate hup
    refine ⟨hm.trans (hm.sound.move_cast hb' hup' hold), ?_, ?_⟩
    · exact
        { hn with
          saved := RaftNode.saved_persistStateLocked _
          votes := by
            rintro d l (hv | ⟨-, -, rfl, -⟩)
            · rcases hold d l (hn.term.symm ▸ hv) with rfl | hd
              · exact Or.inl rfl
              · rw [hn.term] at hd
                exact Or.inr hd
            · exact Or.inl rfl
          candidate := fun hs => by
            obtain ⟨hf, hc⟩ := hn.candidate hs
            have hv : args.candidateId = v := by
              rcases hcan with hcan | hcan
              · rw [hcan] at hf
                exact absurd hf (by simp)
              · exact Option.some_inj.mp (hcan.symm.trans hf)
            exact ⟨congrArg some hv, hc⟩ }
    · exact ⟨_, Or.inr ⟨rfl, by rw [hn.term, ht], rfl, rfl⟩⟩
  · obtain ⟨hm, hn⟩ := observeTerm_refines hg h args.term
    rw [heq]
    simp only [Bool.false_eq_true, if_false, IsEmpty.forall_iff, and_true]
    exact ⟨hm, hn⟩

/-! ## Append requests -/

/-- A request of the leader of its term to another node, cut out of that term's chain. -/
structure AppendRequest (g : RaftLedger) (target : NodeId) (args : AppendEntriesArgs) : Prop where
  leader : g.leader args.term = some args.leaderId
  target : args.leaderId ≠ target
  cut : ∃ q, q ++ args.entries <+: g.chain args.term ∧ q.length = args.prevLogIndex ∧
    (args.prevLogIndex ≠ 0 → lastTerm q = args.prevLogTerm)

/-- How much of its leader's chain a node holds once it has taken a request : its whole
log when the log ends in the leader's term, else what the request covers. -/
def ackLength (log : List LogEntry) (args : AppendEntriesArgs) : ℕ :=
  if lastLogTermOf log = args.term then log.length
  else args.prevLogIndex + args.entries.length

/-- What an answer to a request acknowledges : nothing unless it succeeds. -/
def appendAck (n : RaftNode) (args : AppendEntriesArgs) : ℕ :=
  if (n.handleAppendEntries args).2.1.success then
    ackLength (n.handleAppendEntries args).1.log args
  else 0

/-- What the reaction of `handle_append_entries` to the term does to the ledger. -/
def acceptLedger (g : RaftLedger) (v : NodeId) (n : RaftNode) (args : AppendEntriesArgs) :
    RaftLedger :=
  if n.currentTerm < args.term then g.raise v args.term
  else if n.state = .candidate then g.concede v
  else g

/-- What `handle_append_entries` does to the ledger. -/
def appendLedger (g : RaftLedger) (v : NodeId) (n : RaftNode) (args : AppendEntriesArgs) :
    RaftLedger :=
  if args.term < n.currentTerm then g
  else
    (acceptLedger g v n args).replicate v (n.handleAppendEntries args).1.log (appendAck n args)

include hg h in
theorem acceptLeader_refines {args : AppendEntriesArgs} (hr : AppendRequest g v args)
    (hle : n.currentTerm ≤ args.term) :
    Move peers.toFinset v g (acceptLedger g v n args) ∧
      NodeInv peers (acceptLedger g v n args) v (n.acceptLeader args) := by
  have hcore : ∀ m : RaftNode, m.SameCore { m with leaderId := args.leaderId } := fun m =>
    ⟨rfl, rfl, rfl, rfl, rfl, rfl⟩
  have hsaved := RaftNode.saved_acceptLeader h.saved args
  unfold acceptLedger RaftNode.acceptLeader at *
  split_ifs with hlt hs
  · obtain ⟨hm, hn⟩ := becomeFollower_refines hg h hlt
    exact ⟨hm, hn.core (hcore _) (by simpa only [if_pos hlt] using hsaved)⟩
  · obtain ht : n.currentTerm = args.term := le_antisymm hle (not_lt.mp hlt)
    obtain ⟨hm, hn⟩ := becomeFollower_concedes hg h hs (ht ▸ hr.leader) hr.target
    rw [ht] at hn
    exact ⟨hm, hn.core (hcore _) (by simpa only [if_neg hlt, if_pos hs] using hsaved)⟩
  · exact ⟨Move.refl hg, h.core (hcore _) (by simpa only [if_neg hlt, if_neg hs] using hsaved)⟩

/-- A follower whose log alone changes. -/
theorem NodeInv.replicated (h : NodeInv peers g v n) (hs : n.state ≠ .candidate)
    (hid : n'.nodeId = n.nodeId) (hp : n'.peers = n.peers)
    (ht : n'.currentTerm = n.currentTerm) (hv : n'.votedFor = n.votedFor)
    (hst : n'.state = n.state) (hsaved : n'.Saved) (k : ℕ) :
    NodeInv peers (g.replicate v n'.log k) v n' where
  nodeId := hid.trans h.nodeId
  peers := hp.trans h.peers
  term := h.term.trans ht.symm
  log := Function.update_self ..
  saved := hsaved
  votes := by
    rw [ht, hv]
    exact h.votes
  candidate hc := absurd (hst ▸ hc) hs
  leader hl := by
    rw [ht]
    exact h.leader (hst ▸ hl)

end

/-- The log a request without conflict is spliced into starts like the leader's. -/
theorem take_eq_of_not_prevConflict (hg : g.Sound peers.toFinset) {args : AppendEntriesArgs}
    {log q : List LogEntry} (hlog : Rooted g.chain log) (hlen : args.prevLogIndex ≤ log.length)
    (hc : ¬RaftNode.prevConflict log args) (hq : q <+: g.chain args.term)
    (hql : q.length = args.prevLogIndex)
    (hqt : args.prevLogIndex ≠ 0 → lastTerm q = args.prevLogTerm) :
    log.take args.prevLogIndex = q := by
  cases hi : args.prevLogIndex with
  | zero =>
    rw [hi, List.length_eq_zero_iff] at hql
    rw [hql, List.take_zero]
  | succ i =>
    rw [hi] at hlen hql hqt
    obtain ⟨q', e', rfl⟩ :=
      List.eq_nil_or_concat' q |>.resolve_left (by rintro rfl; simp at hql)
    have hterm : (log[i]?.map LogEntry.term) = some args.prevLogTerm := by
      simpa [RaftNode.prevConflict, hi] using hc
    have hget : log[i]? = some log[i] := List.getElem?_eq_getElem (by omega)
    have htake : log.take (i + 1) = log.take i ++ [log[i]] :=
      List.take_succ_eq_append_getElem (by omega)
    rw [htake]
    refine hlog.agree (hg.rooted_chain args.term) ?_ hq ?_ ?_
    · rw [← htake]
      exact List.take_prefix _ _
    · simp at hql ⊢
      omega
    · have h1 := hqt (by omega)
      rw [lastTerm_concat] at h1
      rw [hget, Option.map_some, Option.some_inj] at hterm
      exact hterm.trans h1.symm

/-- A request of the leader keeps what a log shares with the chain of the leader's term,
adds nothing from elsewhere, and when it succeeds the log holds all it covers. -/
theorem handleAppendEntries_log (hg : g.Sound peers.toFinset) {args : AppendEntriesArgs}
    (hlog : Rooted g.chain n.log) (hr : AppendRequest g v args)
    (hle : n.currentTerm ≤ args.term) :
    (∀ p, p <+: n.log → p <+: g.chain args.term →
        p <+: (n.handleAppendEntries args).1.log) ∧
      ((n.handleAppendEntries args).1.log <+: n.log ∨
        (n.handleAppendEntries args).1.log <+: g.chain args.term) ∧
      ((n.handleAppendEntries args).2.1.success →
        args.prevLogIndex + args.entries.length ≤ (g.chain args.term).length ∧
        (g.chain args.term).take (args.prevLogIndex + args.entries.length) <+:
          (n.handleAppendEntries args).1.log) := by
  obtain ⟨q, hq, hql, hqt⟩ := hr.cut
  have hqc : q <+: g.chain args.term := (List.prefix_append q args.entries).trans hq
  obtain ⟨-, -, -, hal, -, -, -⟩ := RaftNode.acceptLeader_spec hle
  rcases RaftNode.handleAppendEntries_cases n args with
    ⟨hst, -⟩ | ⟨-, ⟨hlen, heq⟩ | ⟨hlen, hconf, heq⟩ | ⟨hlen, hconf, m, batch, heq, -⟩⟩
  · exact absurd hst (not_lt.mpr hle)
  · rw [heq]
    refine ⟨fun p hp _ => hal ▸ hp, Or.inl (hal ▸ List.prefix_refl _), by simp⟩
  · rw [heq]
    have hnew : ((n.acceptLeader args).truncate args).log =
        n.log.take (args.prevLogIndex - 1) := by
      simp [RaftNode.truncate, hal]
    refine ⟨fun p hpl hpc => ?_, Or.inl (hnew ▸ List.take_prefix _ _), by simp⟩
    rw [hnew]
    cases hi : args.prevLogIndex with
    | zero => simp [RaftNode.prevConflict, hi] at hconf
    | succ i =>
      rw [hi] at hlen hql hqt
      have hget : n.log[i]? = some n.log[i] := List.getElem?_eq_getElem (by omega)
      refine prefix_take_of_conflict hget hqc hql ?_ hpl hpc
      rw [hqt (by omega)]
      have hne : (n.log[i]?.map LogEntry.term) ≠ some args.prevLogTerm := by
        simpa [RaftNode.prevConflict, hi] using hconf
      rw [hget, Option.map_some, Ne, Option.some_inj] at hne
      exact hne
  · have htake := take_eq_of_not_prevConflict hg hlog hlen hconf hqc hql hqt
    have hsp : n.log.take args.prevLogIndex ++ args.entries <+: g.chain args.term := htake ▸ hq
    have hnew : (n.handleAppendEntries args).1.log =
        splice n.log args.prevLogIndex args.entries := by
      rw [heq, ← RaftNode.appendLoop_eq _ _ _ hlen]
      simp only [RaftNode.persistStateLocked_log, RaftNode.takeEntries, hal]
    rw [hnew]
    refine ⟨fun p hpl hpc => prefix_splice hsp hpl hpc, splice_from hsp, fun _ => ⟨?_, ?_⟩⟩
    · simpa [hql] using hq.length_le
    · have hcov : (g.chain args.term).take (args.prevLogIndex + args.entries.length) =
          n.log.take args.prevLogIndex ++ args.entries := by
        rw [htake]
        simpa [hql] using (List.prefix_iff_eq_take.mp hq).symm
      rw [hcov]
      exact take_append_prefix_splice

/-- The acknowledged length is within the chain and held by the log. -/
theorem take_ackLength {args : AppendEntriesArgs} {log : List LogEntry}
    (hlog : Rooted g.chain log)
    (hk : args.prevLogIndex + args.entries.length ≤ (g.chain args.term).length)
    (htake : (g.chain args.term).take (args.prevLogIndex + args.entries.length) <+: log) :
    ackLength log args ≤ (g.chain args.term).length ∧
      (g.chain args.term).take (ackLength log args) <+: log := by
  unfold ackLength
  split_ifs with hlast
  · rcases eq_or_ne log [] with rfl | hne
    · simp
    · have hp := hlog.prefix_chain hne
      rw [← lastLogTermOf_eq, hlast] at hp
      refine ⟨hp.length_le, ?_⟩
      rw [← List.prefix_iff_eq_take.mp hp]
  · exact ⟨hk, htake⟩

theorem handleAppendEntries_refines (hg : g.Sound peers.toFinset) (h : NodeInv peers g v n)
    {args : AppendEntriesArgs} (hr : AppendRequest g v args) :
    Move peers.toFinset v g (appendLedger g v n args) ∧
      NodeInv peers (appendLedger g v n args) v (n.handleAppendEntries args).1 := by
  unfold appendLedger
  split_ifs with hst
  · have heq : n.handleAppendEntries args = (n, ⟨n.currentTerm, false, n.log.length⟩, []) := by
      simp only [RaftNode.handleAppendEntries, if_pos hst]
    rw [heq]
    exact ⟨Move.refl hg, h⟩
  · have hle := not_lt.mp hst
    obtain ⟨hm, hn⟩ := acceptLeader_refines hg h hr hle
    obtain ⟨-, -, ht, hal, hcand, -, -⟩ := RaftNode.acceptLeader_spec hle
    obtain ⟨hid, hp, ht', hv, hs⟩ := RaftNode.handleAppendEntries_core hle
    have hterm : (acceptLedger g v n args).term v = args.term := hn.term.trans ht
    have hlog : (acceptLedger g v n args).log v = n.log := hn.log.trans hal
    obtain ⟨hchain, hleader⟩ : (acceptLedger g v n args).chain = g.chain ∧
        (acceptLedger g v n args).leader = g.leader := by
      unfold acceptLedger
      split_ifs <;> exact ⟨rfl, rfl⟩
    have hroot : Rooted g.chain n.log := h.log ▸ hg.rooted_log v
    obtain ⟨hkeep, hsrc, hcov⟩ := handleAppendEntries_log hg hroot hr hle
    obtain ⟨hk, hack⟩ : appendAck n args ≤ (g.chain args.term).length ∧
        (g.chain args.term).take (appendAck n args) <+: (n.handleAppendEntries args).1.log := by
      unfold appendAck
      split_ifs with hsucc
      · refine take_ackLength ?_ (hcov hsucc).1 (hcov hsucc).2
        rcases hsrc with hsrc | hsrc
        · exact hroot.of_isPrefix hsrc
        · exact (hg.rooted_chain _).of_isPrefix hsrc
      · simp
    refine ⟨hm.trans (hm.sound.move_replicate (c := args.leaderId) ?_ hr.target ?_ ?_ ?_ ?_), ?_⟩
    · rw [hterm, hleader]
      exact hr.leader
    · rw [hterm, hlog, hchain]
      exact hkeep
    · rw [hterm, hlog, hchain]
      exact hsrc
    · rw [hterm, hchain]
      exact hk
    · rw [hterm, hchain]
      exact hack
    · exact hn.replicated hcand hid hp ht' hv hs (RaftNode.saved_handleAppendEntries h.saved args) _

/-- The acknowledgement is on record. -/
theorem appendLedger_ack (hg : g.Sound peers.toFinset) (h : NodeInv peers g v n)
    {args : AppendEntriesArgs} (hr : AppendRequest g v args) (hle : n.currentTerm ≤ args.term) :
    (appendLedger g v n args).ack v args.term (appendAck n args) := by
  obtain ⟨-, hn⟩ := acceptLeader_refines hg h hr hle
  obtain ⟨-, -, ht, -⟩ := RaftNode.acceptLeader_spec hle
  rw [appendLedger, if_neg (not_lt.mpr hle)]
  exact Or.inr ⟨rfl, (hn.term.trans ht).symm, rfl⟩

/-- The request a leader makes is cut out of its log. -/
theorem makeAppendEntriesFor_refines (hg : g.Sound peers.toFinset) (h : NodeInv peers g v n)
    (hs : n.state = .leader) {p : NodeId} (hp : p ≠ v) :
    AppendRequest g p (n.makeAppendEntriesFor p) := by
  have hl := h.leader hs
  have hchain : n.log = g.chain n.currentTerm := h.log ▸ hg.leader_log _ v hl h.term
  refine ⟨?_, ?_, ?_⟩
  · rw [RaftNode.makeAppendEntriesFor]
    exact h.nodeId.symm ▸ hl
  · rw [RaftNode.makeAppendEntriesFor]
    exact h.nodeId.symm ▸ hp.symm
  · simp only [RaftNode.makeAppendEntriesFor, ← hchain]
    set next := (n.nextIndex.lookup p).getD (n.log.length + 1)
    by_cases hin : 1 < next ∧ next - 1 ≤ n.log.length
    · simp only [if_pos hin]
      have hlen : (n.log.take (next - 1)).length = next - 1 := by simp [hin.2]
      refine ⟨n.log.take (next - 1), ?_, hlen, fun _ => ?_⟩
      · split_ifs
        · rw [List.take_append_drop]
        · rw [List.append_nil]
          exact List.take_prefix _ _
      · obtain ⟨i, hi⟩ : ∃ i, next = i + 2 := ⟨next - 2, by omega⟩
        have hlt : i < n.log.length := by omega
        rw [hi]
        simp only [Nat.add_sub_cancel, show i + 2 - 1 = i + 1 by omega,
          List.take_succ_eq_append_getElem hlt, lastTerm_concat, List.getElem?_eq_getElem hlt]
        rfl
    · simp only [if_neg hin]
      refine ⟨[], ?_, rfl, fun h0 => absurd rfl h0⟩
      split_ifs with h1
      · obtain hone : next = 1 := by omega
        simp [hone]
      · simp

/-! ## Commands -/

theorem appendCommand_refines (hg : g.Sound peers.toFinset) (h : NodeInv peers g v n)
    {command : String} (hn : n.appendCommand command = some n') :
    Move peers.toFinset v g (g.extend v ⟨n.currentTerm, command⟩) ∧
      NodeInv peers (g.extend v ⟨n.currentTerm, command⟩) v n' := by
  have hsaved := RaftNode.saved_appendCommand hn
  unfold RaftNode.appendCommand at hn
  split_ifs at hn with hs
  obtain rfl := Option.some_inj.mp hn
  have hl := h.leader (not_not.mp hs)
  have he : termOf (⟨n.currentTerm, command⟩ : LogEntry) = g.term v := h.term.symm
  refine ⟨hg.move_extend (h.term.symm ▸ hl) he, ?_⟩
  exact
    { h with
      log := by simp [Ledger.extend, h.log]
      saved := hsaved
      candidate := fun hc => absurd (hc.symm.trans (not_not.mp hs)) (by simp) }

/-- A restart reads the file back and changes nothing the ledger knows. -/
theorem restart_refines (h : NodeInv peers g v n) : NodeInv peers g v n.restart := by
  obtain ⟨hid, hp, ht, hv, hl, hs, -⟩ := RaftNode.restart_spec h.saved
  exact
    { nodeId := hid.trans h.nodeId
      peers := hp.trans h.peers
      term := h.term.trans ht.symm
      log := h.log.trans hl.symm
      saved := RaftNode.saved_restart h.saved
      votes := by
        rw [ht, hv]
        exact h.votes
      candidate := fun hc => by simp [hs] at hc
      leader := fun hc => by simp [hs] at hc }

end BoostGateway.Raft
