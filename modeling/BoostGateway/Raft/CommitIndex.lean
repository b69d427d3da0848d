import BoostGateway.Raft.Refinement

/-!
# The commit index of a node

`update_commit_index_locked` (`raft.cpp:338-354`) sorts the size of the log together
with `match_index_` and takes the largest value that a quorum of the list reaches.
`append_command` writes the node itself into `match_index_` (`raft.cpp:487-489`), so
the list holds the node twice and the value is reached by one node less than a
quorum when that entry decides (`SelfDecides`). A follower reports the size of its
log, which says more than it has checked when the log goes on past what a request
covers (`Overreports`).

`CommitInv` is what a node keeps where neither happens : `commit_index_` is within
the log and the entries up to it are `Settled`, that is part of a point that a
majority acknowledged in a term not after the node's.
-/

namespace BoostGateway.Raft

open TermLog Ledger

/-- The value at position `size - q` of a sorted list is reached by `q` of its elements. -/
theorem le_countP_getD_insertionSort (l : List ℕ) {q : ℕ} (hq : 0 < q) (hl : q ≤ l.length)
    (d : ℕ) : q ≤ l.countP fun x =>
      (l.insertionSort (· ≤ ·)).getD ((l.insertionSort (· ≤ ·)).length - q) d ≤ x := by
  set L := l.insertionSort (· ≤ ·) with hL
  have hperm : L.Perm l := List.perm_insertionSort _ _
  have hlen : L.length = l.length := hperm.length_eq
  have hsorted : L.Pairwise (· ≤ ·) := List.pairwise_insertionSort _ _
  set k := L.length - q with hk
  have hlt : k < L.length := by omega
  have hval : L.getD k d = L[k] := by simp [hlt]
  have htail : ∀ x ∈ L.drop k, L.getD k d ≤ x := by
    intro x hx
    rw [List.drop_eq_getElem_cons hlt] at hx
    rw [hval]
    rcases List.mem_cons.mp hx with rfl | hx
    · exact le_rfl
    · have hpair := hsorted.drop (i := k)
      rw [List.drop_eq_getElem_cons hlt] at hpair
      exact List.rel_of_pairwise_cons hpair hx
  calc q = (L.drop k).length := by rw [List.length_drop]; omega
    _ = (L.drop k).countP fun x => L.getD k d ≤ x := by
        symm
        rw [List.countP_eq_length]
        intro x hx
        simpa using htail x hx
    _ ≤ L.countP fun x => L.getD k d ≤ x := (List.drop_sublist k L).countP_le
    _ = l.countP fun x => L.getD k d ≤ x := hperm.countP_eq _

namespace RaftNode

/-- The other nodes whose recorded index reaches `N`. -/
def supporters (n : RaftNode) (N : ℕ) : List NodeId :=
  (n.matchIndex.entries.filter fun x => x.1 ≠ n.nodeId ∧ N ≤ x.2).map Sigma.fst

/-- The node's own entry in `match_index_` makes the difference at some index of its term
after `commit_index_` : one supporter is missing. -/
def SelfDecides (n : RaftNode) : Prop :=
  ∃ N, n.commitIndex < N ∧ N ≤ n.log.length ∧
    (n.log[N - 1]?.map LogEntry.term) = some n.currentTerm ∧
    (n.supporters N).length + 2 = n.quorumSize

/-- The request is accepted by a log that goes on past what the request covers and does
not end in its term : the size of the log is not what the node has checked. -/
def Overreports (n : RaftNode) (args : AppendEntriesArgs) : Prop :=
  n.currentTerm ≤ args.term ∧ ¬prevConflict n.log args ∧
    args.entries <+: n.log.drop args.prevLogIndex ∧
    args.prevLogIndex + args.entries.length < n.log.length ∧ lastLogTermOf n.log ≠ args.term

instance (n : RaftNode) : Decidable n.SelfDecides :=
  decidable_of_iff ((List.range (n.log.length + 1)).any fun N =>
      n.commitIndex < N ∧ N ≤ n.log.length ∧
        (n.log[N - 1]?.map LogEntry.term) = some n.currentTerm ∧
        (n.supporters N).length + 2 = n.quorumSize) <| by
    simp only [SelfDecides, List.any_eq_true, List.mem_range, decide_eq_true_eq]
    exact exists_congr fun N => and_iff_right_of_imp fun h => by omega

instance (n : RaftNode) (args : AppendEntriesArgs) : Decidable (n.Overreports args) :=
  inferInstanceAs (Decidable (_ ∧ _ ∧ _ ∧ _ ∧ _))

theorem supporters_nodup (n : RaftNode) (N : ℕ) : (n.supporters N).Nodup := by
  have hsub : (n.supporters N).Sublist n.matchIndex.keys :=
    List.filter_sublist.map Sigma.fst
  exact hsub.nodup n.matchIndex.keys_nodup

theorem mem_supporters {n : RaftNode} {N : ℕ} {p : NodeId} (hp : p ∈ n.supporters N) :
    p ≠ n.nodeId ∧ ∃ m, n.matchIndex.lookup p = some m ∧ N ≤ m := by
  obtain ⟨x, hx, rfl⟩ := List.mem_map.mp hp
  obtain ⟨hmem, hne, hle⟩ : x ∈ n.matchIndex.entries ∧ x.1 ≠ n.nodeId ∧ N ≤ x.2 := by
    simpa using hx
  exact ⟨hne, x.2, AList.mem_lookup_iff.mpr hmem, hle⟩

/-- At most one entry of `match_index_` is the node's own. -/
theorem countP_entries_le (n : RaftNode) (N : ℕ) :
    (n.matchIndex.entries.map Sigma.snd).countP (N ≤ ·) ≤ (n.supporters N).length + 1 := by
  have hself : n.matchIndex.entries.countP (fun x => x.1 = n.nodeId) ≤ 1 := by
    have hcount := List.nodup_iff_count_le_one.mp n.matchIndex.keys_nodup n.nodeId
    rw [AList.keys, List.keys, List.count, List.countP_map] at hcount
    refine le_trans (List.countP_mono_left fun x _ hx => ?_) hcount
    simpa using hx
  have hsplit : (n.matchIndex.entries.map Sigma.snd).countP (N ≤ ·) ≤
      n.matchIndex.entries.countP (fun x => x.1 ≠ n.nodeId ∧ N ≤ x.2) +
        n.matchIndex.entries.countP (fun x => x.1 = n.nodeId) := by
    rw [List.countP_map]
    induction n.matchIndex.entries with
    | nil => simp
    | cons x xs ih =>
      simp only [List.countP_cons, Function.comp_apply, decide_eq_true_eq] at ih ⊢
      split_ifs <;> grind
  rw [supporters, List.length_map, ← List.countP_eq_length_filter]
  omega

/-- The two ways through `update_commit_index_locked`, when `match_index_` holds every
other peer. -/
theorem updateCommitIndexLocked_cases (n : RaftNode) (junk : ℕ)
    (hsize : n.quorumSize ≤ n.matchIndex.entries.length + 1) :
    n.updateCommitIndexLocked junk = n ∨
      ∃ N, n.updateCommitIndexLocked junk = { n with commitIndex := N } ∧ n.commitIndex < N ∧
        N ≤ n.log.length ∧ (n.log[N - 1]?.map LogEntry.term) = some n.currentTerm ∧
        n.quorumSize ≤ (n.supporters N).length + 2 := by
  have hlen : n.replicated.length = n.matchIndex.entries.length + 1 := by
    rw [replicated, List.length_insertionSort, List.length_cons, List.length_map]
  simp only [updateCommitIndexLocked]
  split_ifs with h
  · refine Or.inr ⟨n.commitCandidate junk, rfl, h.1, h.2.1, h.2.2, ?_⟩
    have hcand : n.commitCandidate junk =
        n.replicated.getD (n.replicated.length - n.quorumSize) junk := by
      rw [commitCandidate, if_pos (by omega)]
    have hcount := le_countP_getD_insertionSort
      (n.log.length :: n.matchIndex.entries.map Sigma.snd) (q := n.quorumSize)
      (by simp [quorumSize]) (by simpa using hsize) junk
    rw [← replicated, ← hcand, List.countP_cons] at hcount
    have := n.countP_entries_le (n.commitCandidate junk)
    split_ifs at hcount <;> omega
  · exact Or.inl rfl

/-- The file holds `commit_index_` and `last_applied_`. -/
def CommitSaved (n : RaftNode) : Prop :=
  match n.file with
  | none => n.commitIndex = 0 ∧ n.lastApplied = 0
  | some f => f.commitIndex = n.commitIndex ∧ f.lastApplied = n.lastApplied

theorem commitSaved_persistStateLocked (n : RaftNode) : n.persistStateLocked.CommitSaved :=
  ⟨rfl, rfl⟩

theorem CommitSaved.congr {n n' : RaftNode} (h : n.CommitSaved) (hf : n'.file = n.file)
    (hc : n'.commitIndex = n.commitIndex) (ha : n'.lastApplied = n.lastApplied) :
    n'.CommitSaved := by
  unfold CommitSaved at h ⊢
  rw [hf, hc, ha]
  exact h

end RaftNode

/-! ## Settled entries -/

/-- `l` is part of a point a majority acknowledged, in a term not after `T`. -/
def Settled (members : Finset NodeId) (g : RaftLedger) (T : ℕ) (l : List LogEntry) : Prop :=
  l = [] ∨ ∃ T' p, T' ≤ T ∧ Committed members g T' p ∧ l <+: p

/-- The entry `e` stands at index `i` of a point a majority acknowledged. -/
def Agreed (members : Finset NodeId) (g : RaftLedger) (i : ℕ) (e : LogEntry) : Prop :=
  1 ≤ i ∧ ∃ T p, Committed members g T p ∧ p[i - 1]? = some e

section

variable {members : Finset NodeId} {g g' : RaftLedger} {T : ℕ} {l : List LogEntry}

theorem Settled.mono {T' : ℕ} (h : Settled members g T l) (hle : g.Le g') (hT : T ≤ T') :
    Settled members g' T' l := by
  rcases h with rfl | ⟨S, p, hS, hp, hl⟩
  · exact Or.inl rfl
  · exact Or.inr ⟨S, p, hS.trans hT, hp.mono hle, hl⟩

theorem Settled.of_isPrefix {l' : List LogEntry} (h : Settled members g T l) (hl : l' <+: l) :
    Settled members g T l' := by
  rcases h with rfl | ⟨S, p, hS, hp, hlp⟩
  · exact Or.inl (List.prefix_nil.mp hl)
  · exact Or.inr ⟨S, p, hS, hp, hl.trans hlp⟩

/-- The leader of a term holds what was settled before. -/
theorem Settled.prefix_chain (h : Settled members g T l) (hg : g.Sound members) {T' : ℕ}
    (hT : T ≤ T') (hl : g.leader T' ≠ none) : l <+: g.chain T' := by
  rcases h with rfl | ⟨S, p, hS, hp, hlp⟩
  · exact List.nil_prefix
  · rcases (hS.trans hT).lt_or_eq with hlt | rfl
    · exact hlp.trans (hg.committed_prefix_chain hp T' hlt hl)
    · exact hlp.trans hp.1.1

theorem Settled.agreed {k i : ℕ} {e : LogEntry} (h : Settled members g T (l.take k))
    (he : l[i - 1]? = some e) (hi : 1 ≤ i) (hk : i ≤ k) : Agreed members g i e := by
  have he' : (l.take k)[i - 1]? = some e := by
    rw [List.getElem?_take, if_pos (by omega), he]
  rcases h with hnil | ⟨S, p, -, hp, hlp⟩
  · rw [hnil] at he'
    simp at he'
  · refine ⟨hi, S, p, hp, ?_⟩
    obtain ⟨r, rfl⟩ := hlp
    have hlt := (List.getElem?_eq_some_iff.mp he').1
    rw [List.getElem?_append_left hlt, he']

theorem Agreed.mono {i : ℕ} {e : LogEntry} (h : Agreed members g i e) (hle : g.Le g') :
    Agreed members g' i e := by
  obtain ⟨hi, S, p, hp, he⟩ := h
  exact ⟨hi, S, p, hp.mono hle, he⟩

/-- Majorities agree on one entry at an index. -/
theorem Agreed.eq {i : ℕ} {e e' : LogEntry} (h : Agreed members g i e)
    (h' : Agreed members g i e') (hg : g.Sound members) : e = e' := by
  obtain ⟨-, S, p, hp, he⟩ := h
  obtain ⟨-, S', p', hp', he'⟩ := h'
  have key : ∀ {q q' : List LogEntry} {x x' : LogEntry}, q <+: q' → q[i - 1]? = some x →
      q'[i - 1]? = some x' → x = x' := by
    rintro q _ x x' ⟨r, rfl⟩ hx hx'
    have hlt := (List.getElem?_eq_some_iff.mp hx).1
    rw [List.getElem?_append_left hlt, hx] at hx'
    exact Option.some_inj.mp hx'
  rcases hg.committed_comparable hp hp' with hpp | hpp
  · exact key hpp he he'
  · exact (key hpp he' he).symm

end

/-! ## The invariant -/

/-- What a leader has recorded of the others was acknowledged in its term. -/
structure MatchInv (peers : List NodeId) (g : RaftLedger) (n : RaftNode) : Prop where
  acked : ∀ p m, n.matchIndex.lookup p = some m → p ≠ n.nodeId →
    p ∈ peers ∧ (m = 0 ∨ g.ack p n.currentTerm m)
  all : ∀ p ∈ peers, p ≠ n.nodeId → p ∈ n.matchIndex

/-- The commit index of a node is backed by the ledger. -/
structure CommitInv (peers : List NodeId) (g : RaftLedger) (n : RaftNode) : Prop where
  commit_le : n.commitIndex ≤ n.log.length
  settled : Settled peers.toFinset g n.currentTerm (n.log.take n.commitIndex)
  applied_le : n.lastApplied ≤ n.commitIndex
  saved : n.CommitSaved
  leader : n.state = .leader → MatchInv peers g n

theorem commitInv_init (peers peers' : List NodeId) (g : RaftLedger) (v : NodeId) :
    CommitInv peers g { nodeId := v, peers := peers' } where
  commit_le := le_rfl
  settled := Or.inl rfl
  applied_le := le_rfl
  saved := ⟨rfl, rfl⟩
  leader h := by simp at h

variable {peers : List NodeId} {g g' : RaftLedger} {v : NodeId} {n n' : RaftNode}

theorem MatchInv.mono (h : MatchInv peers g n) (hle : g.Le g') : MatchInv peers g' n where
  acked p m hm hp :=
    ⟨(h.acked p m hm hp).1, (h.acked p m hm hp).2.imp_right fun ha => hle.ack _ _ _ ha⟩
  all := h.all

theorem CommitInv.mono (h : CommitInv peers g n) (hle : g.Le g') : CommitInv peers g' n where
  __ := h
  settled := h.settled.mono hle le_rfl
  leader hs := (h.leader hs).mono hle

/-- Sections that leave the log and the two indices alone. -/
theorem CommitInv.congr (h : CommitInv peers g n) (hl : n'.log = n.log)
    (hc : n'.commitIndex = n.commitIndex) (ha : n'.lastApplied = n.lastApplied)
    (ht : n.currentTerm ≤ n'.currentTerm) (hs : n'.CommitSaved)
    (hlead : n'.state = .leader → MatchInv peers g n') : CommitInv peers g n' where
  commit_le := by
    rw [hl, hc]
    exact h.commit_le
  settled := by
    rw [hl, hc]
    exact h.settled.mono (Le.refl g) ht
  applied_le := by
    rw [ha, hc]
    exact h.applied_le
  saved := hs
  leader := hlead

/-! ## The sections -/

theorem CommitInv.startElectionAt (h : CommitInv peers g n) {T : ℕ} (hT : n.currentTerm ≤ T) :
    CommitInv peers g (n.startElectionAt T) :=
  h.congr rfl rfl rfl hT (RaftNode.commitSaved_persistStateLocked _) fun hs => by
    simp [RaftNode.startElectionAt] at hs

theorem CommitInv.becomeFollower (h : CommitInv peers g n) {T : ℕ} (hT : n.currentTerm ≤ T) :
    CommitInv peers g (n.becomeFollower T) :=
  h.congr rfl rfl rfl hT (RaftNode.commitSaved_persistStateLocked _) fun hs => by
    simp [RaftNode.becomeFollower] at hs

theorem RaftNode.lookup_initIndex (n : RaftNode) (i : ℕ) (p : NodeId) :
    (n.initIndex i).lookup p = if p ∈ n.targets then some i else none := by
  have key : ∀ (ps : List NodeId) (m : IndexMap),
      (ps.foldl (fun m p => m.insert p i) m).lookup p =
        if p ∈ ps then some i else m.lookup p := by
    intro ps
    induction ps with
    | nil => simp
    | cons q qs ih =>
      intro m
      rw [List.foldl_cons, ih]
      by_cases hq : p = q
      · subst hq
        simp [AList.lookup_insert]
      · simp [hq, AList.lookup_insert_ne hq]
  rw [RaftNode.initIndex, key, AList.lookup_empty]

theorem CommitInv.becomeLeader (h : CommitInv peers g n) (hp : n.peers = peers) :
    CommitInv peers g n.becomeLeader := by
  refine h.congr rfl rfl rfl le_rfl (RaftNode.commitSaved_persistStateLocked _) fun _ => ⟨?_, ?_⟩
  · intro p m hm _
    have hm' : (n.initIndex 0).lookup p = some m := hm
    rw [RaftNode.lookup_initIndex] at hm'
    split_ifs at hm' with hmem
    rw [RaftNode.targets, hp] at hmem
    exact ⟨(List.mem_filter.mp hmem).1, Or.inl (Option.some_inj.mp hm').symm⟩
  · intro p hmem hne
    have hne' : p ≠ n.nodeId := hne
    have hmem' : p ∈ n.targets := by
      rw [RaftNode.targets, hp]
      exact List.mem_filter.mpr ⟨hmem, by simpa using hne'⟩
    refine AList.lookup_isSome.mp ?_
    have hlook : n.becomeLeader.matchIndex.lookup p = some 0 := by
      rw [show n.becomeLeader.matchIndex = n.initIndex 0 from rfl, RaftNode.lookup_initIndex,
        if_pos hmem']
    simp [hlook]

theorem CommitInv.handleRequestVote (h : CommitInv peers g n) (args : RequestVoteArgs) :
    CommitInv peers g (n.handleRequestVote args).1 := by
  have hobs : n.currentTerm ≤ args.term → CommitInv peers g (n.observeTerm args.term) := by
    intro hle
    unfold RaftNode.observeTerm
    split_ifs
    · exact h.becomeFollower hle
    · exact h
  rcases RaftNode.handleRequestVote_cases n args with ⟨-, heq⟩ | ⟨hle, ⟨-, -, heq⟩ | heq⟩
  · rw [heq]
    exact h
  · rw [heq]
    exact (hobs hle).congr rfl rfl rfl le_rfl (RaftNode.commitSaved_persistStateLocked _)
      fun hs => ⟨((hobs hle).leader hs).acked, ((hobs hle).leader hs).all⟩
  · rw [heq]
    exact hobs hle

theorem CommitInv.acceptLeader (h : CommitInv peers g n) {args : AppendEntriesArgs}
    (hle : n.currentTerm ≤ args.term) : CommitInv peers g (n.acceptLeader args) := by
  have key : ∀ {m : RaftNode}, CommitInv peers g m →
      CommitInv peers g { m with leaderId := args.leaderId } := fun hm =>
    hm.congr rfl rfl rfl le_rfl (hm.saved.congr rfl rfl rfl) fun hs =>
      ⟨(hm.leader hs).acked, (hm.leader hs).all⟩
  unfold RaftNode.acceptLeader
  split_ifs
  · exact key (h.becomeFollower hle)
  · exact key (h.becomeFollower hle)
  · exact key h

theorem CommitInv.truncate (h : CommitInv peers g n) (args : AppendEntriesArgs) :
    CommitInv peers g (n.truncate args) := by
  have hcommit : (n.truncate args).commitIndex =
      min n.commitIndex (n.log.take (args.prevLogIndex - 1)).length := by
    simp only [RaftNode.truncate, RaftNode.persistStateLocked_commitIndex]
    split_ifs <;> omega
  have happ : (n.truncate args).lastApplied =
      min n.lastApplied (n.truncate args).commitIndex := by
    simp only [RaftNode.truncate, RaftNode.persistStateLocked_commitIndex,
      RaftNode.persistStateLocked_lastApplied]
    split_ifs <;> omega
  have hlog : (n.truncate args).log = n.log.take (args.prevLogIndex - 1) := rfl
  exact
    { commit_le := by
        rw [hcommit, hlog]
        exact min_le_right _ _
      settled := by
        rw [hcommit, hlog]
        refine h.settled.of_isPrefix ?_
        rw [List.take_take]
        exact List.take_prefix_take_left (by omega)
      applied_le := by
        rw [happ]
        exact min_le_right _ _
      saved := RaftNode.commitSaved_persistStateLocked _
      leader := fun hs => ⟨(h.leader hs).acked, (h.leader hs).all⟩ }

/-- A request that does not reach past what is checked leaves nothing but the leader's
entries in the log, and the size of the log is what the node acknowledges. -/
theorem log_prefix_chain_of_success (hg : g.Sound peers.toFinset) {args : AppendEntriesArgs}
    (hlog : Rooted g.chain n.log) (hr : AppendRequest g v args) (hle : n.currentTerm ≤ args.term)
    (hsucc : (n.handleAppendEntries args).2.1.success) (hover : ¬n.Overreports args) :
    ackLength (n.handleAppendEntries args).1.log args =
        (n.handleAppendEntries args).1.log.length ∧
      (n.handleAppendEntries args).1.log <+: g.chain args.term := by
  obtain ⟨-, hsrc, hcov⟩ := handleAppendEntries_log hg hlog hr hle
  obtain ⟨hk, htake⟩ := hcov hsucc
  obtain ⟨-, -, -, hal, -, -, -⟩ := RaftNode.acceptLeader_spec hle
  have hack : ackLength (n.handleAppendEntries args).1.log args =
      (n.handleAppendEntries args).1.log.length := by
    rcases RaftNode.handleAppendEntries_cases n args with
      ⟨hst, -⟩ | ⟨-, ⟨-, heq⟩ | ⟨-, -, heq⟩ | ⟨hlen, hconf, m, batch, heq, -⟩⟩
    · exact absurd hst (not_lt.mpr hle)
    · simp [heq] at hsucc
    · simp [heq] at hsucc
    · have hnew : (n.handleAppendEntries args).1.log =
          splice n.log args.prevLogIndex args.entries := by
        rw [heq, ← RaftNode.appendLoop_eq _ _ _ hlen]
        simp only [RaftNode.persistStateLocked_log, RaftNode.takeEntries, hal]
      rw [hnew, ackLength, splice]
      split_ifs with hpre hlast hlast
      · rfl
      · have hcover := hpre.length_le
        rw [List.length_drop] at hcover
        have : ¬args.prevLogIndex + args.entries.length < n.log.length := fun hlt =>
          hover ⟨hle, hconf, hpre, hlt, hlast⟩
        omega
      · rfl
      · simp [hlen]
  have hroot : Rooted g.chain (n.handleAppendEntries args).1.log := by
    rcases hsrc with hsrc | hsrc
    · exact hlog.of_isPrefix hsrc
    · exact (hg.rooted_chain _).of_isPrefix hsrc
  obtain ⟨hle', hpre⟩ := take_ackLength hroot hk htake
  rw [hack] at hle' hpre
  refine ⟨hack, ?_⟩
  rw [← hpre.eq_of_length (by simp [hle'])]
  exact List.take_prefix _ _

/-- The commit index a request carries is backed by the ledger. -/
def CommitRequest (peers : List NodeId) (g : RaftLedger) (args : AppendEntriesArgs) : Prop :=
  args.leaderCommit ≤ (g.chain args.term).length ∧
    Settled peers.toFinset g args.term ((g.chain args.term).take args.leaderCommit)

theorem CommitRequest.mono {args : AppendEntriesArgs} (h : CommitRequest peers g args)
    (hle : g.Le g') : CommitRequest peers g' args := by
  obtain ⟨hlen, hs⟩ := h
  obtain ⟨r, hr⟩ := hle.chain args.term
  refine ⟨?_, ?_⟩
  · rw [← hr, List.length_append]
    omega
  · rw [← hr, List.take_append_of_le_length hlen]
    exact hs.mono hle le_rfl

/-- The entries and the commit index of an accepted request are settled. -/
theorem CommitInv.takeEntries (hg : g.Sound peers.toFinset) (h : CommitInv peers g n)
    {args : AppendEntriesArgs} (hlog : Rooted g.chain n.log) (hr : AppendRequest g v args)
    (hc : CommitRequest peers g args) (hover : ¬n.Overreports args)
    (hle : n.currentTerm ≤ args.term) (hsucc : (n.handleAppendEntries args).2.1.success)
    (hlogT : (n.handleAppendEntries args).1.log = ((n.acceptLeader args).takeEntries args).log) :
    n.commitIndex ≤ ((n.acceptLeader args).takeEntries args).commitIndex ∧
      ((n.acceptLeader args).takeEntries args).commitIndex ≤
        ((n.acceptLeader args).takeEntries args).log.length ∧
      Settled peers.toFinset g args.term (((n.acceptLeader args).takeEntries args).log.take
        ((n.acceptLeader args).takeEntries args).commitIndex) := by
  obtain ⟨-, -, -, -, -, hac, -⟩ := RaftNode.acceptLeader_spec hle
  obtain ⟨-, hchain⟩ := log_prefix_chain_of_success hg hlog hr hle hsucc hover
  obtain ⟨hkeep, -, -⟩ := handleAppendEntries_log hg hlog hr hle
  have hlead : g.leader args.term ≠ none := by simp [hr.leader]
  have hold := hkeep _ (List.take_prefix _ _) (h.settled.prefix_chain hg hle hlead)
  rw [hlogT] at hchain hold
  have hcommit := (n.acceptLeader args).takeEntries_commitIndex args
  rw [hac] at hcommit
  generalize (n.acceptLeader args).takeEntries args = t at *
  have hlen : n.commitIndex ≤ t.log.length := by
    have hlen := hold.length_le
    rw [List.length_take, min_eq_left h.commit_le] at hlen
    exact hlen
  rw [hcommit]
  split_ifs with hlt
  · refine ⟨by omega, by omega, hc.2.of_isPrefix ?_⟩
    rw [List.prefix_iff_eq_take.mp hchain, List.take_take]
    exact List.take_prefix_take_left (by omega)
  · have hsame : t.log.take n.commitIndex = n.log.take n.commitIndex := by
      rw [List.prefix_iff_eq_take.mp hold, List.length_take, min_eq_left h.commit_le]
    rw [hsame]
    exact ⟨le_rfl, hlen, h.settled.mono (Le.refl g) hle⟩

theorem CommitInv.handleAppendEntries (hg : g.Sound peers.toFinset) (h : CommitInv peers g n)
    {args : AppendEntriesArgs} (hlog : Rooted g.chain n.log) (hr : AppendRequest g v args)
    (hc : CommitRequest peers g args) (hover : ¬n.Overreports args) :
    CommitInv peers g (n.handleAppendEntries args).1 ∧
      ∀ x ∈ (n.handleAppendEntries args).2.2, Agreed peers.toFinset g x.1 x.2 := by
  rcases RaftNode.handleAppendEntries_cases n args with
    ⟨-, heq⟩ | ⟨hle, ⟨-, heq⟩ | ⟨-, -, heq⟩ | ⟨hlen, -, m, batch, heq, hm, -, hmem⟩⟩
  · rw [heq]
    exact ⟨h, by simp⟩
  · rw [heq]
    exact ⟨h.acceptLeader hle, by simp⟩
  · rw [heq]
    exact ⟨(h.acceptLeader hle).truncate args, by simp⟩
  · obtain ⟨-, -, ht, hal, -, -, -⟩ := RaftNode.acceptLeader_spec hle
    have hacc := h.acceptLeader hle
    have hsucc : (n.handleAppendEntries args).2.1.success := by simp [heq]
    have hlogT : (n.handleAppendEntries args).1.log =
        ((n.acceptLeader args).takeEntries args).log := by rw [heq]; rfl
    obtain ⟨hmono, hlenT, hsettled⟩ := h.takeEntries hg hlog hr hc hover hle hsucc hlogT
    have hleader : ((n.acceptLeader args).takeEntries args).state = .leader →
        MatchInv peers g ((n.acceptLeader args).takeEntries args) := fun hs =>
      ⟨(hacc.leader hs).acked, (hacc.leader hs).all⟩
    have htermT : ((n.acceptLeader args).takeEntries args).currentTerm = args.term := ht
    rw [RaftNode.takeEntries_log, hal] at hsettled hlenT
    have hlogT' : ((n.acceptLeader args).takeEntries args).log =
        RaftNode.appendLoop n.log args.prevLogIndex args.entries := by
      rw [RaftNode.takeEntries_log, hal]
    rw [heq]
    -- Only these facts about the node before the write are used from here on.
    generalize (n.acceptLeader args).takeEntries args = t at *
    refine ⟨⟨?_, ?_, ?_, RaftNode.commitSaved_persistStateLocked _, fun hs => ?_⟩, fun x hx => ?_⟩
    · exact hlogT' ▸ hlenT
    · exact htermT.symm ▸ hlogT'.symm ▸ hsettled
    · have hap := h.applied_le
      rcases hm with rfl | hm
      · exact hap.trans hmono
      · exact hm
    · exact ⟨(hleader hs).acked, (hleader hs).all⟩
    · obtain ⟨he, h1, h2⟩ := hmem x hx
      exact hsettled.agreed he h1 h2

/-! ## Raising the commit index -/

theorem MatchInv.quorumSize_le (h : MatchInv peers g n) (hnd : peers.Nodup)
    (hp : n.peers = peers) : n.quorumSize ≤ n.matchIndex.entries.length + 1 := by
  have hsub : peers.erase n.nodeId ⊆ n.matchIndex.keys := by
    intro p hmem
    obtain ⟨hne, hmem⟩ := hnd.mem_erase_iff.mp hmem
    exact h.all p hmem hne
  have hle : (peers.erase n.nodeId).length ≤ n.matchIndex.entries.length := by
    have := ((hnd.erase n.nodeId).subperm hsub).length_le
    rwa [AList.keys, List.keys, List.length_map] at this
  have herase : peers.length ≤ (peers.erase n.nodeId).length + 1 := by
    rw [List.length_erase]
    split_ifs <;> omega
  rw [RaftNode.quorumSize, hp]
  omega

/-- A leader raises its commit index to a point that a majority acknowledged. -/
theorem updateCommitIndexLocked_committed (hg : g.Sound peers.toFinset)
    (hn : NodeInv peers g v n) (hnd : peers.Nodup) (hv : v ∈ peers) (hs : n.state = .leader)
    (hm : MatchInv peers g n) (hself : ¬n.SelfDecides) (junk : ℕ) :
    n.updateCommitIndexLocked junk = n ∨
      ∃ N, n.updateCommitIndexLocked junk = { n with commitIndex := N } ∧ n.commitIndex < N ∧
        N ≤ n.log.length ∧ Committed peers.toFinset g n.currentTerm (n.log.take N) := by
  refine (n.updateCommitIndexLocked_cases junk (hm.quorumSize_le hnd hn.peers)).imp_right ?_
  rintro ⟨N, heq, hlt, hle, hterm, hq⟩
  refine ⟨N, heq, hlt, hle, ?_⟩
  have hl := hn.leader hs
  have hchain : n.log = g.chain n.currentTerm := hn.log ▸ hg.leader_log _ v hl hn.term
  have hpoint : Point g.chain n.currentTerm (n.log.take N) := by
    obtain ⟨i, rfl⟩ : ∃ i, N = i + 1 := ⟨N - 1, by omega⟩
    rw [Nat.add_sub_cancel, List.getElem?_eq_getElem (by omega), Option.map_some,
      Option.some_inj] at hterm
    refine ⟨?_, n.log.take i, n.log[i], List.take_succ_eq_append_getElem (by omega), hterm⟩
    rw [← hchain]
    exact List.take_prefix _ _
  have hsup : ∀ p ∈ n.supporters N, p ∈ peers ∧ p ≠ v ∧ g.Acked p n.currentTerm (n.log.take N) := by
    intro p hp
    obtain ⟨hne, m, hlook, hNm⟩ := RaftNode.mem_supporters hp
    obtain ⟨hmem, hzero | hack⟩ := hm.acked p m hlook hne
    · omega
    · refine ⟨hmem, hn.nodeId ▸ hne, hpoint, m, hack, ?_⟩
      rw [List.length_take]
      omega
  refine ⟨hpoint, insert v (n.supporters N).toFinset, ⟨?_, ?_⟩, ?_⟩
  · refine Finset.insert_subset (List.mem_toFinset.mpr hv) fun p hp => ?_
    exact List.mem_toFinset.mpr (hsup p (List.mem_toFinset.mp hp)).1
  · have hnot : v ∉ (n.supporters N).toFinset := fun hmem =>
      (hsup v (List.mem_toFinset.mp hmem)).2.1 rfl
    rw [Finset.card_insert_of_notMem hnot, List.toFinset_card_of_nodup (n.supporters_nodup N),
      List.toFinset_card_of_nodup hnd]
    have hne : (n.supporters N).length + 2 ≠ n.quorumSize := fun heq' =>
      hself ⟨N, hlt, hle, hterm, heq'⟩
    rw [RaftNode.quorumSize, hn.peers] at hq hne
    omega
  · intro p hp
    rcases Finset.mem_insert.mp hp with rfl | hp
    · exact hg.leader_acked _ p _ hl hpoint
    · exact (hsup p (List.mem_toFinset.mp hp)).2.2

/-- After the update the commit index is backed again, up to the write of the file. -/
theorem CommitInv.updateCommitIndexLocked (hg : g.Sound peers.toFinset)
    (hn : NodeInv peers g v n) (hnd : peers.Nodup) (hv : v ∈ peers) (hs : n.state = .leader)
    (h : CommitInv peers g n) (hself : ¬n.SelfDecides) (junk : ℕ) :
    CommitInv peers g (n.updateCommitIndexLocked junk).persistStateLocked := by
  have hm := h.leader hs
  rcases updateCommitIndexLocked_committed hg hn hnd hv hs hm hself junk with
    heq | ⟨N, heq, hlt, hle, hc⟩
  · rw [heq]
    exact h.congr rfl rfl rfl le_rfl (RaftNode.commitSaved_persistStateLocked _) fun _ =>
      ⟨hm.acked, hm.all⟩
  · rw [heq]
    exact
      { commit_le := hle
        settled := Or.inr ⟨_, _, le_rfl, hc, List.prefix_refl _⟩
        applied_le := h.applied_le.trans hlt.le
        saved := RaftNode.commitSaved_persistStateLocked _
        leader := fun _ => ⟨hm.acked, hm.all⟩ }

/-- An acknowledged report is recorded. -/
theorem MatchInv.recordMatch (h : MatchInv peers g n) {p : NodeId} {m : ℕ} (hp : p ∈ peers)
    (hack : g.ack p n.currentTerm m) : MatchInv peers g (n.recordMatch p m) where
  acked q k hk hq := by
    by_cases hqp : q = p
    · subst hqp
      have : (n.matchIndex.insert q m).lookup q = some k := hk
      rw [AList.lookup_insert] at this
      obtain rfl := Option.some_inj.mp this
      exact ⟨hp, Or.inr hack⟩
    · have : (n.matchIndex.insert p m).lookup q = some k := hk
      rw [AList.lookup_insert_ne hqp] at this
      exact h.acked q k this hq
  all q hq hne := (AList.mem_insert _).mpr (Or.inr (h.all q hq hne))

theorem CommitInv.recordMatch (h : CommitInv peers g n) {p : NodeId} {m : ℕ} (hp : p ∈ peers)
    (hack : n.state = .leader → g.ack p n.currentTerm m) :
    CommitInv peers g (n.recordMatch p m) :=
  h.congr rfl rfl rfl le_rfl (h.saved.congr rfl rfl rfl) fun hs =>
    (h.leader hs).recordMatch hp (hack hs)

theorem CommitInv.backOff (h : CommitInv peers g n) (p : NodeId) :
    CommitInv peers g (n.backOff p) :=
  h.congr rfl rfl rfl le_rfl (h.saved.congr rfl rfl rfl) fun hs =>
    ⟨(h.leader hs).acked, (h.leader hs).all⟩

theorem CommitInv.sendHeartbeatReply (hg : g.Sound peers.toFinset) (hn : NodeInv peers g v n)
    (hnd : peers.Nodup) (hv : v ∈ peers) (h : CommitInv peers g n) {p : NodeId} (hp : p ∈ peers)
    (reply : AppendEntriesReply)
    (hok : n.state = .leader → reply.success → g.ack p n.currentTerm reply.matchIndex ∧
      ¬(n.recordMatch p reply.matchIndex).SelfDecides) (junk : ℕ) :
    CommitInv peers g (n.sendHeartbeatReply p reply junk).1 := by
  unfold RaftNode.sendHeartbeatReply
  split_ifs with h1 h2 h3
  · exact h.becomeFollower h1.le
  · exact h
  · obtain ⟨hack, hself⟩ := hok (not_not.mp h2) h3
    have hn' : NodeInv peers g v (n.recordMatch p reply.matchIndex) :=
      hn.core ⟨rfl, rfl, rfl, rfl, rfl, rfl⟩ (RaftNode.saved_recordMatch hn.saved p _)
    exact (h.recordMatch hp fun _ => hack).updateCommitIndexLocked hg hn' hnd hv (not_not.mp h2)
      hself junk
  · exact h.backOff p

theorem CommitInv.appendCommandReply (h : CommitInv peers g n) {p : NodeId} (hp : p ∈ peers)
    (reply : AppendEntriesReply)
    (hok : n.state = .leader → reply.success → g.ack p n.currentTerm reply.matchIndex) (k : ℕ) :
    CommitInv peers g (n.appendCommandReply p reply k).1 := by
  unfold RaftNode.appendCommandReply
  split_ifs with h1 h2
  · exact h.becomeFollower h1.le
  · exact h.recordMatch hp fun hs => hok hs h2
  · exact h.backOff p

theorem CommitInv.appendCommand (h : CommitInv peers g n) {command : String}
    (hn : n.appendCommand command = some n') : CommitInv peers g n' := by
  unfold RaftNode.appendCommand at hn
  split_ifs at hn with hs
  obtain rfl := Option.some_inj.mp hn
  have hm := h.leader (not_not.mp hs)
  have hlen := h.commit_le
  exact
    { commit_le := by
        simp only [RaftNode.persistStateLocked_commitIndex, RaftNode.persistStateLocked_log,
          List.length_append]
        omega
      settled := by
        simp only [RaftNode.persistStateLocked_commitIndex, RaftNode.persistStateLocked_log,
          RaftNode.persistStateLocked_currentTerm]
        rw [List.take_append_of_le_length hlen]
        exact h.settled
      applied_le := h.applied_le
      saved := RaftNode.commitSaved_persistStateLocked _
      leader := fun _ =>
        { acked := fun p m hlook hne => by
            have hne' : p ≠ n.nodeId := hne
            have : (n.matchIndex.insert n.nodeId _).lookup p = some m := hlook
            rw [AList.lookup_insert_ne hne'] at this
            exact hm.acked p m this hne'
          all := fun p hp hne => (AList.mem_insert _).mpr (Or.inr (hm.all p hp hne)) } }

/-- The last section of `append_command` on a leader. -/
theorem CommitInv.appendCommandFinish (hg : g.Sound peers.toFinset) (hi : NodeInv peers g v n)
    (hnd : peers.Nodup) (hv : v ∈ peers) (hs : n.state = .leader) (h : CommitInv peers g n)
    (hself : ¬n.SelfDecides) {k junk : ℕ} {applied : Applied}
    (hn : n.appendCommandFinish k junk = some (n', applied)) :
    CommitInv peers g n' ∧ ∀ x ∈ applied, Agreed peers.toFinset g x.1 x.2 := by
  have hup := h.updateCommitIndexLocked hg hi hnd hv hs hself junk
  obtain ⟨m, batch, heq, hm, -, hmem⟩ := RaftNode.drain_spec (n.updateCommitIndexLocked junk)
  simp only [RaftNode.appendCommandFinish, heq] at hn
  split_ifs at hn
  obtain ⟨rfl, rfl⟩ := Prod.mk.inj (Option.some_inj.mp hn)
  generalize n.updateCommitIndexLocked junk = t at hup hm hmem ⊢
  refine ⟨?_, fun x hx => ?_⟩
  · exact
      { commit_le := hup.commit_le
        settled := hup.settled
        applied_le := by
          rcases hm with rfl | hm
          · exact hup.applied_le
          · exact hm
        saved := RaftNode.commitSaved_persistStateLocked _
        leader := fun hs => ⟨(hup.leader hs).acked, (hup.leader hs).all⟩ }
  · obtain ⟨he, h1, h2⟩ := hmem x hx
    exact hup.settled.agreed he h1 h2

theorem CommitInv.restart (h : CommitInv peers g n) (hs : n.Saved) :
    CommitInv peers g n.restart := by
  have hc := h.saved
  unfold RaftNode.CommitSaved RaftNode.Saved at *
  unfold RaftNode.restart RaftNode.loadPersistentState
  cases hf : n.file with
  | none => exact commitInv_init _ _ _ _
  | some f =>
    rw [hf] at hc hs
    obtain ⟨hfc, hfa⟩ := hc
    obtain ⟨hft, -, hfl⟩ := hs
    have hle := h.commit_le
    have hap := h.applied_le
    have hlt : ¬f.log.length < f.commitIndex := by rw [hfl, hfc]; omega
    have hlt' : ¬f.commitIndex < f.lastApplied := by rw [hfa, hfc]; omega
    exact
      { commit_le := by
          simp only [if_neg hlt]
          omega
        settled := by
          simp only [if_neg hlt]
          rw [hft, hfl, hfc]
          exact h.settled
        applied_le := by
          simp only [if_neg hlt, if_neg hlt']
          omega
        saved := by
          simp only [RaftNode.CommitSaved, if_neg hlt, if_neg hlt', and_self]
        leader := fun hs => by simp at hs }

theorem CommitInv.onApply (h : CommitInv peers g n) :
    ∀ x ∈ n.onApply, Agreed peers.toFinset g x.1 x.2 := by
  intro x hx
  obtain ⟨⟨e, i⟩, hmem, rfl⟩ := List.mem_map.mp hx
  have he := List.mem_zipIdx_iff_getElem?.mp hmem
  have hlt := (List.getElem?_eq_some_iff.mp he).1
  rw [List.length_take] at hlt
  rw [List.getElem?_take, if_pos (by omega)] at he
  have := h.applied_le
  exact h.settled.agreed (i := i + 1) he (by omega) (by omega)

theorem CommitInv.makeAppendEntriesFor (hg : g.Sound peers.toFinset) (hn : NodeInv peers g v n)
    (h : CommitInv peers g n) (hs : n.state = .leader) (p : NodeId) :
    CommitRequest peers g (n.makeAppendEntriesFor p) := by
  have hchain : n.log = g.chain n.currentTerm :=
    hn.log ▸ hg.leader_log _ v (hn.leader hs) hn.term
  refine ⟨?_, ?_⟩
  · simp only [RaftNode.makeAppendEntriesFor, ← hchain]
    exact h.commit_le
  · simp only [RaftNode.makeAppendEntriesFor, ← hchain]
    exact h.settled

end BoostGateway.Raft
