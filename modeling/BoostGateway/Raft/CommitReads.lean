import BoostGateway.Raft.History

/-!
# The reads of the commit update

`update_commit_index_locked` reads its sorted values at `replicated.size() - quorum_size()`
(`raft.cpp:345-348`), which is inside of them when `match_index_` has at least
`quorum_size() - 1` entries. `become_leader` gives every other peer an entry and
`become_follower` takes all entries away. `send_heartbeat` checks the role before the update,
`append_command` does not, so its node may have stepped down while it waited for an answer.

`Serving` is a node with its calls of `append_command` under way, each between two of its
sections, among sections of all other kinds with any arguments. It notes whose answers the
calls have recorded since the node last stepped down. `indexesInside_iff` : the update reads
inside of its values exactly when its node leads or enough such answers came in.
-/

namespace BoostGateway.Raft

namespace RaftNode

/-- `match_index_.size() + 1 >= quorum_size()`. -/
def IndexesInside (n : RaftNode) : Prop := n.quorumSize ≤ n.matchIndex.entries.length + 1

instance (n : RaftNode) : Decidable n.IndexesInside := inferInstanceAs (Decidable (_ ≤ _))

/-- The node became a follower, of a later term or as a candidate or leader before. -/
def SteppedDown (n n' : RaftNode) : Prop :=
  n'.state = .follower ∧ (n.currentTerm < n'.currentTerm ∨ n.state ≠ .follower)

instance (n n' : RaftNode) : Decidable (SteppedDown n n') :=
  inferInstanceAs (Decidable (_ ∧ _))

end RaftNode

/-! ## A node with its calls -/

/-- A call of `append_command` : the answers it counted, the peer it waits for, and the peers
it still has to ask. -/
structure AppendCall where
  successes : ℕ := 1
  waitsFor : Option NodeId := none
  rest : List NodeId
  deriving DecidableEq

/-- A node with its calls. -/
structure Serving where
  node : RaftNode
  calls : List AppendCall := []
  /-- Whose answers were recorded by the calls since the node last stepped down. -/
  answered : Finset NodeId := ∅

/-- The sections of a node. -/
inductive ServingEvent
  /-- A section that is not one of `append_command`. -/
  | handle (e : NodeEvent)
  | appendCommand (command : String)
  /-- The call at position `i` asks its next peer, if the node still leads. -/
  | ask (i : ℕ)
  | answer (i : ℕ) (reply : AppendEntriesReply)
  | finish (i junk : ℕ)

/-- Sections that come without a call of `append_command`; `run` starts no election on a
leader (`raft.cpp:138-157`). -/
def RaftNode.Handles (n : RaftNode) : NodeEvent → Bool
  | .appendCommand _ | .appendReply .. | .appendFinish .. => false
  | .startElection => n.state ≠ .leader
  | _ => true

namespace Serving

/-- The node goes on as `n`, with the answers in `recorded`. -/
def goOn (s : Serving) (n : RaftNode) (recorded : Finset NodeId) (calls : List AppendCall) :
    Serving where
  node := n
  calls := calls
  answered := if RaftNode.SteppedDown s.node n then ∅ else recorded ∪ s.answered

def step (s : Serving) : ServingEvent → Option Serving
  | .handle .restart => some { node := s.node.restart }
  | .handle e =>
    if s.node.Handles e then some (s.goOn (s.node.after e).1 ∅ s.calls) else none
  | .appendCommand command =>
    match s.node.appendCommand command with
    | none => some s
    | some n => some (s.goOn n ∅ (s.calls ++ [{ rest := n.targets }]))
  | .ask i =>
    match s.calls[i]? with
    | some ⟨successes, none, p :: rest⟩ =>
      if s.node.state ≠ .leader then some { s with calls := s.calls.eraseIdx i }
      else some { s with calls := s.calls.set i ⟨successes, some p, rest⟩ }
    | _ => none
  | .answer i reply =>
    match s.calls[i]? with
    | some ⟨successes, some p, rest⟩ =>
      match s.node.appendCommandReply p reply successes with
      | (n, none) => some (s.goOn n ∅ (s.calls.eraseIdx i))
      | (n, some k) =>
        some (s.goOn n (if reply.success then {p} else ∅) (s.calls.set i ⟨k, none, rest⟩))
    | _ => none
  | .finish i junk =>
    match s.calls[i]? with
    | some ⟨successes, none, []⟩ =>
      match s.node.appendCommandFinish successes junk with
      | none => some { s with calls := s.calls.eraseIdx i }
      | some (n, _) => some (s.goOn n ∅ (s.calls.eraseIdx i))
    | _ => none

/-- The node as a section calls `update_commit_index_locked` on it. -/
def updateCall (s : Serving) : ServingEvent → Option RaftNode
  | .handle (.heartbeatReply p reply _) =>
    if reply.term ≤ s.node.currentTerm ∧ s.node.state = .leader ∧ reply.success then
      some (s.node.recordMatch p reply.matchIndex)
    else none
  | .finish i _ =>
    match s.calls[i]? with
    | some ⟨successes, none, []⟩ =>
      if s.node.quorumSize ≤ successes then some s.node else none
    | _ => none
  | _ => none

/-- The states of a node of the cluster, from any file it was made on. -/
abbrev Reaches (peers : List NodeId) : Serving → Prop :=
  BoostGateway.Reaches
    (fun s => ∃ nodeId file, s = { node := ({ nodeId, peers, file } : RaftNode).restart })
    step fun _ _ => True

end Serving

namespace RaftNode

/-! ## What `match_index_` holds -/

/-- The nodes that `match_index_` has an entry for. -/
def matched (n : RaftNode) : Finset NodeId := n.matchIndex.keys.toFinset

theorem mem_matched {n : RaftNode} {p : NodeId} : p ∈ n.matched ↔ p ∈ n.matchIndex :=
  List.mem_toFinset.trans AList.mem_keys.symm

theorem card_matched (n : RaftNode) : n.matched.card = n.matchIndex.entries.length := by
  rw [matched, List.toFinset_card_of_nodup n.matchIndex.keys_nodup, AList.keys, List.keys,
    List.length_map]

/-- Every other peer has an entry on a leader; elsewhere those in `answered` have one. -/
structure Tracks (peers : List NodeId) (n : RaftNode) (answered : Finset NodeId) : Prop where
  peers : n.peers = peers
  leads : n.state = .leader → n.targets.toFinset ⊆ n.matched
  follows : n.state ≠ .leader → n.matched = answered

/-- What a section does to `match_index_` : it steps down and clears it, it leads and fills it,
or it keeps the role and adds the nodes in `recorded`, on a leader perhaps others. -/
inductive MatchStep (recorded : Finset NodeId) (n n' : RaftNode) : Prop
  | stepsDown (h : SteppedDown n n') (hm : n'.matched = ∅)
  | leads (h : n'.state = .leader) (hm : n'.targets.toFinset ⊆ n'.matched)
  | keepsLeading (h : n.state = .leader) (h' : n'.state = .leader) (ht : n'.targets = n.targets)
      (hm : n.matched ⊆ n'.matched)
  | keeps (h : n.state ≠ .leader) (h' : n'.state ≠ .leader) (hdown : ¬SteppedDown n n')
      (hm : n'.matched = recorded ∪ n.matched)

variable {peers : List NodeId} {n n' : RaftNode} {answered recorded : Finset NodeId}

theorem Tracks.step (h : n.Tracks peers answered) (hp : n'.peers = n.peers)
    (hs : MatchStep recorded n n') :
    n'.Tracks peers (if SteppedDown n n' then ∅ else recorded ∪ answered) := by
  have hp' := hp.trans h.peers
  cases hs with
  | stepsDown hd hm =>
    refine ⟨hp', fun hl => absurd (hd.1.symm.trans hl) (by decide), fun _ => ?_⟩
    rw [if_pos hd, hm]
  | leads hl hm => exact ⟨hp', fun _ => hm, fun hn => absurd hl hn⟩
  | keepsLeading hl hl' ht hm =>
    exact ⟨hp', fun _ => ht ▸ (h.leads hl).trans hm, fun hn => absurd hl' hn⟩
  | keeps hl hl' hdown hm =>
    refine ⟨hp', fun hn => absurd hn hl', fun _ => ?_⟩
    rw [if_neg hdown, hm, h.follows hl]

theorem not_steppedDown (hs : n'.state = n.state) (ht : n'.currentTerm = n.currentTerm) :
    ¬SteppedDown n n' := by
  rintro ⟨hf, h | h⟩
  · omega
  · exact h (hs ▸ hf)

/-- The role and the term stay, and `match_index_` gains the nodes in `recorded`. -/
theorem MatchStep.of_core (h : SameCore n n') (hm : n'.matched = recorded ∪ n.matched) :
    MatchStep recorded n n' := by
  by_cases hl : n.state = .leader
  · refine .keepsLeading hl (h.state.trans hl) ?_ (hm ▸ Finset.subset_union_right)
    rw [targets, targets, h.nodeId, h.peers]
  · exact .keeps hl (h.state ▸ hl) (not_steppedDown h.state h.currentTerm) hm

theorem MatchStep.same (h : SameCore n n') (hm : n'.matchIndex = n.matchIndex) :
    MatchStep ∅ n n' :=
  .of_core h (by rw [matched, matched, hm, Finset.empty_union])

theorem MatchStep.refl (n : RaftNode) : MatchStep ∅ n n := .same (SameCore.refl n) rfl

theorem matchStep_becomeFollower {term : ℕ} (h : n.currentTerm < term ∨ n.state ≠ .follower) :
    MatchStep recorded n (n.becomeFollower term) :=
  .stepsDown ⟨rfl, h⟩ rfl

theorem targets_subset_initIndex (n : RaftNode) (i : ℕ) :
    n.targets.toFinset ⊆ (n.initIndex i).keys.toFinset := by
  have key : ∀ (ps : List NodeId) (m : IndexMap), ∀ p, p ∈ ps ∨ p ∈ m →
      p ∈ ps.foldl (fun m p => m.insert p i) m := by
    intro ps
    induction ps with
    | nil => exact fun m p hp => hp.resolve_left List.not_mem_nil
    | cons q qs ih =>
      intro m p hp
      refine ih _ p ?_
      rcases hp with hp | hp
      · rcases List.mem_cons.mp hp with rfl | hp
        · exact Or.inr ((AList.mem_insert m).mpr (Or.inl rfl))
        · exact Or.inl hp
      · exact Or.inr ((AList.mem_insert m).mpr (Or.inr hp))
  intro p hp
  exact List.mem_toFinset.mpr (AList.mem_keys.mp (key _ _ p (Or.inl (List.mem_toFinset.mp hp))))

theorem matchStep_becomeLeader (n : RaftNode) : MatchStep ∅ n n.becomeLeader :=
  .leads rfl (n.targets_subset_initIndex 0)

/-! ## The sections -/

theorem MatchStep.congr {n'' : RaftNode} (h : MatchStep recorded n n')
    (hs : n''.state = n'.state) (ht : n''.currentTerm = n'.currentTerm)
    (htg : n''.targets = n'.targets) (hm : n''.matchIndex = n'.matchIndex) :
    MatchStep recorded n n'' := by
  have hm' : n''.matched = n'.matched := by rw [matched, matched, hm]
  have hd : SteppedDown n n'' ↔ SteppedDown n n' := by rw [SteppedDown, SteppedDown, hs, ht]
  cases h with
  | stepsDown hd' h => exact .stepsDown (hd.mpr hd') (hm'.trans h)
  | leads hl h => exact .leads (hs.trans hl) (htg ▸ hm' ▸ h)
  | keepsLeading hl hl' ht' h => exact .keepsLeading hl (hs.trans hl') (htg.trans ht') (hm' ▸ h)
  | keeps hl hl' hd' h => exact .keeps hl (hs ▸ hl') (hd.not.mpr hd') (hm'.trans h)

theorem matchStep_handleRequestVote (n : RaftNode) (args : RequestVoteArgs) :
    MatchStep ∅ n (n.handleRequestVote args).1 := by
  have hobs : MatchStep ∅ n (n.observeTerm args.term) := by
    unfold observeTerm
    split_ifs with hlt
    · exact matchStep_becomeFollower (Or.inl hlt)
    · exact .refl n
  rcases handleRequestVote_cases n args with ⟨-, heq⟩ | ⟨-, ⟨-, -, heq⟩ | heq⟩
  · rw [heq]
    exact .refl n
  · rw [heq]
    exact hobs.congr rfl rfl rfl rfl
  · rw [heq]
    exact hobs

theorem matchStep_handleAppendEntries (n : RaftNode) (args : AppendEntriesArgs) :
    MatchStep ∅ n (n.handleAppendEntries args).1 := by
  have hacc : MatchStep ∅ n (n.acceptLeader args) := by
    unfold acceptLeader
    split_ifs with h1 h2
    · exact (matchStep_becomeFollower (Or.inl h1)).congr rfl rfl rfl rfl
    · exact (matchStep_becomeFollower (Or.inr (by rw [h2]; decide))).congr rfl rfl rfl rfl
    · exact (MatchStep.refl n).congr rfl rfl rfl rfl
  rcases handleAppendEntries_cases n args with
    ⟨-, heq⟩ | ⟨-, ⟨-, heq⟩ | ⟨-, -, heq⟩ | ⟨-, -, m, batch, heq, -⟩⟩
  · rw [heq]
    exact .refl n
  all_goals
    rw [heq]
    exact hacc.congr rfl rfl rfl rfl

theorem matchStep_startElection (h : n.state ≠ .leader) : MatchStep ∅ n n.startElection := by
  refine .keeps h ?_ ?_ (Finset.empty_union _).symm
  · change RaftState.candidate ≠ .leader
    decide
  · rintro ⟨hs, -⟩
    exact absurd (show RaftState.candidate = .follower from hs) (by decide)

theorem matchStep_startElectionReply (n : RaftNode) (args : RequestVoteArgs)
    (reply : RequestVoteReply) : MatchStep ∅ n (n.startElectionReply args reply).1 := by
  unfold startElectionReply
  split_ifs with h1 h2 h3
  · exact .refl n
  · exact matchStep_becomeFollower (Or.inl h2)
  · exact (MatchStep.refl n).congr rfl rfl rfl rfl
  · exact .refl n

theorem matchStep_startElectionFinish (n : RaftNode) : MatchStep ∅ n n.startElectionFinish.1 := by
  unfold startElectionFinish
  split_ifs
  · exact matchStep_becomeLeader n
  · exact .refl n

theorem matched_recordMatch (n : RaftNode) (p : NodeId) (m : ℕ) :
    (n.recordMatch p m).matched = {p} ∪ n.matched := by
  ext q
  rw [mem_matched, Finset.mem_union, Finset.mem_singleton, mem_matched]
  exact AList.mem_insert n.matchIndex

theorem matchIndex_updateCommitIndexLocked (n : RaftNode) (junk : ℕ) :
    (n.updateCommitIndexLocked junk).matchIndex = n.matchIndex := by
  simp only [updateCommitIndexLocked]
  split_ifs
  · rfl
  · rfl

theorem matchStep_sendHeartbeatReply (n : RaftNode) (p : NodeId) (reply : AppendEntriesReply)
    (junk : ℕ) : MatchStep ∅ n (n.sendHeartbeatReply p reply junk).1 := by
  unfold sendHeartbeatReply
  split_ifs with h1 h2 h3
  · exact matchStep_becomeFollower (Or.inl h1)
  · exact .refl n
  · have hl := not_not.mp h2
    have hcore := sameCore_updateCommitIndexLocked (n.recordMatch p reply.matchIndex) junk
    have hmatch := matchIndex_updateCommitIndexLocked (n.recordMatch p reply.matchIndex) junk
    generalize (n.recordMatch p reply.matchIndex).updateCommitIndexLocked junk = u
      at hcore hmatch ⊢
    refine .keepsLeading hl (hcore.state.trans hl) ?_ ?_
    · change u.targets = _
      rw [targets, targets, hcore.nodeId, hcore.peers]
      rfl
    · change _ ⊆ u.matched
      rw [matched, matched, hmatch]
      change _ ⊆ (n.recordMatch p reply.matchIndex).matched
      rw [matched_recordMatch]
      exact Finset.subset_union_right
  · exact (MatchStep.refl n).congr rfl rfl rfl rfl

theorem matchStep_start (n : RaftNode) : MatchStep ∅ n n.start := by
  unfold start
  split_ifs
  · exact .leads rfl (({ n with currentTerm := 1 } : RaftNode).targets_subset_initIndex 0)
  · exact matchStep_becomeLeader n
  · exact .refl n

theorem matchStep_appendCommand {command : String} (hn : n.appendCommand command = some n') :
    MatchStep ∅ n n' := by
  unfold appendCommand at hn
  split_ifs at hn with hl
  obtain rfl := Option.some_inj.mp hn
  refine .keepsLeading (not_not.mp hl) (not_not.mp hl) rfl fun q hq => mem_matched.mpr ?_
  exact (AList.mem_insert n.matchIndex).mpr (Or.inr (mem_matched.mp hq))

theorem matchStep_appendCommandReply (n : RaftNode) (p : NodeId) (reply : AppendEntriesReply)
    (k : ℕ) :
    MatchStep (if reply.success then {p} else ∅) n (n.appendCommandReply p reply k).1 := by
  unfold appendCommandReply
  by_cases h1 : n.currentTerm < reply.term
  · rw [if_pos h1]
    exact matchStep_becomeFollower (Or.inl h1)
  rw [if_neg h1]
  by_cases h2 : reply.success
  · rw [if_pos h2, if_pos h2]
    exact .of_core ⟨rfl, rfl, rfl, rfl, rfl, rfl⟩ (matched_recordMatch n p reply.matchIndex)
  · rw [if_neg h2, if_neg h2]
    exact (MatchStep.refl n).congr rfl rfl rfl rfl

/-- The call returns after an answer of a later term. -/
theorem appendCommandReply_returns {p : NodeId} {reply : AppendEntriesReply} {k : ℕ}
    (h : n.appendCommandReply p reply k = (n', none)) :
    n.currentTerm < reply.term ∧ n' = n.becomeFollower reply.term := by
  unfold appendCommandReply at h
  split_ifs at h with h1
  · exact ⟨h1, (congrArg Prod.fst h).symm⟩
  · cases congrArg Prod.snd h
  · cases congrArg Prod.snd h

theorem matchStep_appendCommandFinish {k junk : ℕ} {applied : Applied}
    (hn : n.appendCommandFinish k junk = some (n', applied)) : MatchStep ∅ n n' := by
  refine .same (appendCommandFinish_core hn) ?_
  obtain ⟨m, batch, heq, -⟩ := drain_spec (n.updateCommitIndexLocked junk)
  simp only [appendCommandFinish, heq] at hn
  split_ifs at hn
  obtain ⟨rfl, -⟩ := Prod.mk.inj (Option.some_inj.mp hn)
  exact n.matchIndex_updateCommitIndexLocked junk

theorem matchStep_after {e : NodeEvent} (he : n.Handles e) (hr : e ≠ .restart) :
    MatchStep ∅ n (n.after e).1 := by
  cases e with
  | startElection => exact matchStep_startElection (of_decide_eq_true he)
  | electionReply args reply => exact n.matchStep_startElectionReply args reply
  | electionFinish => exact n.matchStep_startElectionFinish
  | heartbeatReply p reply junk => exact n.matchStep_sendHeartbeatReply p reply junk
  | requestVote args => exact n.matchStep_handleRequestVote args
  | appendEntries args => exact n.matchStep_handleAppendEntries args
  | start => exact n.matchStep_start
  | restart => exact absurd rfl hr
  | appendCommand | appendReply | appendFinish => cases he

theorem peers_of_reply {T : ℕ} (h : n' = n.becomeFollower T ∨ SameCore n n') :
    n'.peers = n.peers := by
  rcases h with rfl | hc
  · rfl
  · exact hc.peers

theorem peers_after {e : NodeEvent} (he : n.Handles e) (hr : e ≠ .restart) :
    (n.after e).1.peers = n.peers := by
  cases e with
  | startElection => rfl
  | electionReply args reply =>
    exact peers_of_reply ((startElectionReply_core n args reply).imp_left
      fun h => congrArg Prod.fst h.2)
  | electionFinish =>
    simp only [after, startElectionFinish]
    split_ifs
    · rfl
    · rfl
  | heartbeatReply p reply junk =>
    exact peers_of_reply ((sendHeartbeatReply_core n p reply junk).imp_left
      fun h => congrArg Prod.fst h.2)
  | requestVote args =>
    simp only [after, handleRequestVote, observeTerm]
    split_ifs <;> rfl
  | appendEntries args =>
    change (n.handleAppendEntries args).1.peers = _
    rcases handleAppendEntries_cases n args with
      ⟨-, heq⟩ | ⟨hle, ⟨-, heq⟩ | ⟨-, -, heq⟩ | ⟨-, -, m, batch, heq, -⟩⟩
    · rw [heq]
    all_goals
      rw [heq]
      exact (acceptLeader_spec hle).2.1
  | start =>
    simp only [after, RaftNode.start]
    split_ifs <;> rfl
  | restart => exact absurd rfl hr
  | appendCommand | appendReply | appendFinish => cases he

theorem peers_appendCommand {command : String} (hn : n.appendCommand command = some n') :
    n'.peers = n.peers := by
  unfold appendCommand at hn
  split_ifs at hn
  obtain rfl := Option.some_inj.mp hn
  rfl

theorem tracks_restart (n : RaftNode) : n.restart.Tracks n.peers ∅ := by
  have h : n.restart.peers = n.peers ∧ n.restart.state = .follower ∧ n.restart.matched = ∅ := by
    unfold restart loadPersistentState
    cases n.file with
    | none => exact ⟨rfl, rfl, rfl⟩
    | some f => exact ⟨rfl, rfl, rfl⟩
  obtain ⟨hp, hs, hm⟩ := h
  exact ⟨hp, fun hl => absurd (hs.symm.trans hl) (by decide), fun _ => hm⟩

/-- On a leader of distinct peers there is an entry for every other peer. -/
theorem Tracks.indexesInside (h : n.Tracks peers answered) (hnd : peers.Nodup)
    (hl : n.state = .leader) : n.IndexesInside := by
  have hcard := Finset.card_le_card (h.leads hl)
  rw [card_matched, List.toFinset_card_of_nodup (by rw [targets, h.peers]; exact hnd.filter _)]
    at hcard
  have htargets : peers.length ≤ n.targets.length + 1 := by
    have hsplit := List.length_eq_countP_add_countP (l := peers) fun p => p ≠ n.nodeId
    have hself : peers.countP (fun p => ¬decide (p ≠ n.nodeId)) ≤ 1 := by
      have := List.nodup_iff_count_le_one.mp hnd n.nodeId
      rw [List.count] at this
      refine le_trans (List.countP_mono_left fun p _ hp => ?_) this
      simpa using hp
    rw [targets, h.peers, ← List.countP_eq_length_filter]
    omega
  rw [IndexesInside, quorumSize, h.peers]
  omega

end RaftNode

namespace Serving

open RaftNode

variable {peers : List NodeId} {s s' : Serving}

theorem tracks_goOn (h : s.node.Tracks peers s.answered) {n : RaftNode} {recorded : Finset NodeId}
    (hp : n.peers = s.node.peers) (hs : MatchStep recorded s.node n) (calls : List AppendCall) :
    (s.goOn n recorded calls).node.Tracks peers (s.goOn n recorded calls).answered :=
  h.step hp hs

theorem tracks_step {e : ServingEvent} (h : s.node.Tracks peers s.answered)
    (hs : s.step e = some s') : s'.node.Tracks peers s'.answered := by
  cases e with
  | handle e =>
    by_cases hr : e = .restart
    · subst hr
      obtain rfl := Option.some_inj.mp hs
      exact h.peers ▸ s.node.tracks_restart
    · have hs' : (if s.node.Handles e then some (s.goOn (s.node.after e).1 ∅ s.calls) else none) =
          some s' := by
        cases e <;> first | exact hs | exact absurd rfl hr
      split_ifs at hs' with he
      obtain rfl := Option.some_inj.mp hs'
      exact tracks_goOn h (peers_after he hr) (matchStep_after he hr) _
  | appendCommand command =>
    simp only [step] at hs
    cases hn : s.node.appendCommand command with
    | none =>
      rw [hn] at hs
      obtain rfl := Option.some_inj.mp hs
      exact h
    | some n =>
      rw [hn] at hs
      obtain rfl := Option.some_inj.mp hs
      exact tracks_goOn h (peers_appendCommand hn) (matchStep_appendCommand hn) _
  | ask i =>
    simp only [step] at hs
    split at hs
    · split_ifs at hs
      all_goals
        obtain rfl := Option.some_inj.mp hs
        exact h
    · cases hs
  | answer i reply =>
    simp only [step] at hs
    split at hs
    · rename_i successes p rest _
      have hm := s.node.matchStep_appendCommandReply p reply successes
      have hp : (s.node.appendCommandReply p reply successes).1.peers = s.node.peers :=
        peers_of_reply ((appendCommandReply_core s.node p reply successes).imp_left
          fun h => congrArg Prod.fst h.2)
      split at hs
      · rename_i n hn
        obtain rfl := Option.some_inj.mp hs
        obtain ⟨hlt, rfl⟩ := appendCommandReply_returns hn
        have hdown : MatchStep ∅ s.node (s.node.becomeFollower reply.term) :=
          matchStep_becomeFollower (Or.inl hlt)
        have hpeers : (s.node.becomeFollower reply.term).peers = s.node.peers := rfl
        exact tracks_goOn h hpeers hdown _
      · rename_i n k hn
        obtain rfl := Option.some_inj.mp hs
        rw [hn] at hm hp
        exact tracks_goOn h hp hm _
    · cases hs
  | finish i junk =>
    simp only [step] at hs
    split at hs
    · split at hs
      · obtain rfl := Option.some_inj.mp hs
        exact h
      · rename_i n applied hn
        obtain rfl := Option.some_inj.mp hs
        exact tracks_goOn h (appendCommandFinish_core hn).peers (matchStep_appendCommandFinish hn) _
    · cases hs

theorem Reaches.tracks (h : Reaches peers s) : s.node.Tracks peers s.answered := by
  refine h.invariant (P := fun s => s.node.Tracks peers s.answered) ?_ ?_
  · rintro s ⟨nodeId, file, rfl⟩
    exact tracks_restart ({ nodeId, peers, file } : RaftNode)
  · intro s e s' hi _ hs
    exact tracks_step hi hs

/-- A call of the update reads inside of its values exactly when the node leads, or the calls
of `append_command` have recorded a quorum's answers, less one, since it stepped down. -/
theorem indexesInside_iff (hnd : peers.Nodup) (h : Reaches peers s) {e : ServingEvent}
    {n : RaftNode} (hc : s.updateCall e = some n) :
    n.IndexesInside ↔ s.node.state = .leader ∨ s.node.quorumSize ≤ s.answered.card + 1 := by
  have ht := h.tracks
  have hnode : s.node.IndexesInside ↔
      s.node.state = .leader ∨ s.node.quorumSize ≤ s.answered.card + 1 := by
    by_cases hl : s.node.state = .leader
    · exact iff_of_true (ht.indexesInside hnd hl) (Or.inl hl)
    · rw [IndexesInside, ← card_matched, ht.follows hl]
      exact (or_iff_right hl).symm
  cases e with
  | handle e =>
    cases e with
    | heartbeatReply p reply junk =>
      simp only [updateCall] at hc
      split_ifs at hc with hin
      obtain rfl := Option.some_inj.mp hc
      refine iff_of_true ?_ (Or.inl hin.2.1)
      have hcard : s.node.matched.card ≤ (s.node.recordMatch p reply.matchIndex).matched.card := by
        rw [matched_recordMatch]
        exact Finset.card_le_card Finset.subset_union_right
      have hins := ht.indexesInside hnd hin.2.1
      rw [IndexesInside, ← card_matched] at hins ⊢
      exact hins.trans (Nat.succ_le_succ hcard)
    | _ => cases hc
  | finish i junk =>
    simp only [updateCall] at hc
    split at hc
    · split_ifs at hc
      obtain rfl := Option.some_inj.mp hc
      exact hnode
    · cases hc
  | appendCommand | ask | answer => cases hc

/-- A node of three is elected, appends a command and is answered by `b` and refused by `c`. -/
def answeredRun : List ServingEvent :=
  [.handle .startElection, .handle (.electionReply ⟨1, "a", 0, 0⟩ ⟨1, true⟩),
    .handle .electionFinish, .appendCommand "x", .ask 0, .answer 0 ⟨1, true, 1⟩, .ask 0]

theorem reaches_new :
    Reaches ["a", "b", "c"] { node := { nodeId := "a", peers := ["a", "b", "c"] } } :=
  .init ⟨"a", none, rfl⟩

/-- The leader raises its commit index with the answer of one peer. -/
theorem indexesInside_leading : ∃ s n, Reaches ["a", "b", "c"] s ∧
    s.updateCall (.finish 0 0) = some n ∧ n.IndexesInside := by
  obtain ⟨s, hs, hlead, hcall⟩ := reaches_new.exists_runWith
    (P := fun s => s.node.state = .leader ∧ (s.updateCall (.finish 0 0)).isSome)
    (answeredRun ++ ([.answer 0 ⟨1, false, 0⟩] : List ServingEvent)) (by decide +kernel)
  obtain ⟨n, hn⟩ := Option.isSome_iff_exists.mp hcall
  exact ⟨s, n, hs, hn, (indexesInside_iff (by decide) hs hn).mpr (Or.inl hlead)⟩

/-- A request of a later term comes while the call waits for its last answer. -/
theorem not_indexesInside : ∃ s n, Reaches ["a", "b", "c"] s ∧
    s.updateCall (.finish 0 0) = some n ∧ ¬n.IndexesInside := by
  obtain ⟨s, hs, hcall⟩ := reaches_new.exists_runWith
    (P := fun s => (s.updateCall (.finish 0 0)).any fun n => decide ¬n.IndexesInside)
    (answeredRun ++ ([.handle (.requestVote ⟨2, "c", 0, 0⟩), .answer 0 ⟨2, false, 0⟩] :
      List ServingEvent))
    (by decide +kernel)
  obtain ⟨n, hn, hout⟩ := exists_of_any hcall
  exact ⟨s, n, hs, hn, hout⟩

end Serving

end BoostGateway.Raft
