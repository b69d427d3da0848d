import BoostGateway.Raft.Commit

/-!
# What is committed stays committed

A cluster runs on from a state in which a node has committed entries, with elections, lost
messages and crashes. `committed_survives` : every leader of that term or of a later one has the
committed entries at the front of its log, a majority holds them at any time, no node commits
anything else in their place, and no apply callback ever gets another entry for one of their
indices.

Both states are taken to one ledger (`Cluster.exists_backed`) : what a majority acknowledged in the
first state it acknowledged in the second.
-/

namespace BoostGateway.Raft

open TermLog Ledger

variable {peers : List NodeId} {s s' : Cluster} {v : NodeId}

/-- The states reached from `s` by conforming actions. -/
abbrev Cluster.Later (s : Cluster) : Cluster → Prop :=
  BoostGateway.Reaches (· = s) Cluster.step Conforms

/-- The entries that a node has committed. -/
def RaftNode.committed (n : RaftNode) : List LogEntry := n.log.take n.commitIndex

theorem Cluster.peers_step {a : Action} (h : s.step a = some s') : s'.peers = s.peers := by
  cases a with
  | startElection u =>
    obtain ⟨-, rfl⟩ := step_startElection h
    rfl
  | sendHeartbeat u =>
    obtain ⟨-, rfl⟩ := step_sendHeartbeat h
    rfl
  | appendCommand u command =>
    obtain ⟨-, ⟨-, rfl⟩ | ⟨n, -, rfl⟩⟩ := step_appendCommand h
    · rfl
    · rfl
  | proceed i junk =>
    obtain ⟨u, c, -, h⟩ := step_proceed h
    cases proceedCall_cases h <;> rfl
  | receive r =>
    obtain ⟨u, q, -, rfl⟩ := step_receive h
    cases q <;> rfl
  | answer i k junk =>
    obtain ⟨u, c, r, reply, -, -, -, h⟩ := step_answer h
    cases c <;> cases reply <;> cases h <;> rfl
  | drop i =>
    obtain ⟨u, c, -, h⟩ := step_drop h
    cases c <;> cases h <;> rfl
  | deliver b =>
    obtain ⟨u, index, entry, rest, -, rfl⟩ := step_deliver h
    rfl
  | onApply u =>
    obtain ⟨-, rfl⟩ := step_onApply h
    rfl
  | restart u =>
    obtain ⟨-, rfl⟩ := step_restart h
    rfl

/-- Ledgers for two states of a run, the second of which continues the first. -/
theorem Cluster.exists_backed (hs : Cluster.Reaches peers Conforms s) (hnd : peers.Nodup)
    (hlater : s.Later s') :
    ∃ g g', Sim g s ∧ Backed g s ∧ Sim g' s' ∧ Backed g' s' ∧ g.Le g' ∧ s'.peers = s.peers := by
  obtain ⟨g, hsim, hbacked⟩ := hs.backed hnd
  refine ⟨g, hlater.invariant (P := fun s' =>
    ∃ g', Sim g s ∧ Backed g s ∧ Sim g' s' ∧ Backed g' s' ∧ g.Le g' ∧ s'.peers = s.peers) ?_ ?_⟩
  · rintro s' rfl
    exact ⟨g, hsim, hbacked, hsim, hbacked, .refl g, rfl⟩
  · rintro t a t' ⟨g', -, -, hsim', hbacked', hle, hpeers⟩ hok ht
    obtain ⟨hstep, hsim''⟩ := hsim'.step hok.termsFit ht
    exact ⟨_, hsim, hbacked, hsim'', hbacked'.step hsim' hok ht, hle.trans hstep,
      (Cluster.peers_step ht).trans hpeers⟩

/-- Settled entries are held by a majority. -/
theorem Settled.majority {g : RaftLedger} {T : ℕ} {l : List LogEntry} (hsim : Sim g s)
    (h : Settled s.peers.toFinset g T l) (hl : l ≠ []) :
    s.peers.length / 2 + 1 ≤ (s.peers.toFinset.filter fun u => l <+: (s.node u).log).card := by
  obtain rfl | ⟨T', p, -, hp, hlp⟩ := h
  · exact absurd rfl hl
  · obtain ⟨-, Q, ⟨hQ, hcard⟩, hacked⟩ := id hp
    rw [List.toFinset_card_of_nodup hsim.nodup] at hcard
    refine le_trans (by omega : s.peers.length / 2 + 1 ≤ Q.card) (Finset.card_le_card ?_)
    intro u hu
    have hheld := hsim.sound.committed_held hp (hacked u hu)
    rw [(hsim.node u).log] at hheld
    exact Finset.mem_filter.mpr ⟨hQ hu, hlp.trans hheld⟩

/-- Settled entries lie on one line. -/
theorem Settled.comparable {members : Finset NodeId} {g : RaftLedger} {T T' : ℕ}
    {l l' : List LogEntry} (h : Settled members g T l) (h' : Settled members g T' l')
    (hg : g.Sound members) : l <+: l' ∨ l' <+: l := by
  obtain rfl | ⟨S, p, -, hp, hlp⟩ := h
  · exact .inl List.nil_prefix
  obtain rfl | ⟨S', p', -, hp', hlp'⟩ := h'
  · exact .inr List.nil_prefix
  obtain hpp | hpp := hg.committed_comparable hp hp'
  · exact List.prefix_or_prefix_of_prefix (hlp.trans hpp) hlp'
  · exact List.prefix_or_prefix_of_prefix hlp (hlp'.trans hpp)

/-- What a node has committed : every leader from its term on has it, a majority holds it, what
other nodes commit agrees with it, and so does all that is handed to the apply callbacks. -/
theorem committed_survives (hnd : peers.Nodup) (hs : Cluster.Reaches peers Conforms s)
    (hlater : s.Later s') (v : NodeId) :
    (∀ u, (s'.node u).state = .leader → (s.node v).currentTerm ≤ (s'.node u).currentTerm →
      (s.node v).committed <+: (s'.node u).log) ∧
    ((s.node v).committed ≠ [] → s.peers.length / 2 + 1 ≤
      (s.peers.toFinset.filter fun u => (s.node v).committed <+: (s'.node u).log).card) ∧
    (∀ u, (s.node v).committed <+: (s'.node u).committed ∨
      (s'.node u).committed <+: (s.node v).committed) ∧
    ∀ u i e, (u, i, e) ∈ s'.delivered → i ≤ (s.node v).commitIndex →
      (s.node v).log[i - 1]? = some e := by
  obtain ⟨g, g', hsim, hbacked, hsim', hbacked', hle, hpeers⟩ :=
    Cluster.exists_backed hs hnd hlater
  have hsettled : Settled s'.peers.toFinset g' (s.node v).currentTerm (s.node v).committed :=
    hpeers ▸ (hbacked.node v).settled.mono hle le_rfl
  refine ⟨fun u hleads hterm => ?_, fun hsome => ?_, fun u => ?_, fun u i e hdelivered hi => ?_⟩
  · have hleader := (hsim'.node u).leader hleads
    have hlog := hsim'.sound.leader_log _ u hleader (hsim'.node u).term
    rw [← (hsim'.node u).log, hlog]
    exact hsettled.prefix_chain hsim'.sound hterm (by rw [hleader]; simp)
  · exact hpeers ▸ hsettled.majority hsim' hsome
  · exact hsettled.comparable (hbacked'.node u).settled hsim'.sound
  · have hagreed : Agreed s'.peers.toFinset g' i e := hbacked'.delivered _ hdelivered
    have hlt : i - 1 < (s.node v).log.length := by
      have hcommit := (hbacked.node v).commit_le
      have hpos := hagreed.1
      omega
    have hentry := List.getElem?_eq_getElem hlt
    have hagreed' := hsettled.agreed hentry hagreed.1 hi
    rw [hentry, hagreed.eq hagreed' hsim'.sound]

/-- `a` restarts; `b` is elected with the vote of `c`. -/
def crashAndElect : List Action :=
  [.restart "a", .startElection "b", .proceed 2 0, .drop 2, .proceed 2 0, .receive 5,
    .answer 2 2 0, .proceed 2 0]

/-- `a` commits `x` with `b` and crashes : the next leader `b` has it. -/
theorem committed_survives_crash : ∃ s s', Cluster.Reaches ["a", "b", "c"] Conforms s ∧
    s.Later s' ∧ (s.node "a").committed = [⟨1, "x"⟩] ∧ (s'.node "b").state = .leader ∧
    (s'.node "b").currentTerm = 2 ∧ [⟨1, "x"⟩] <+: (s'.node "b").log ∧
    2 ≤ ((["a", "b", "c"] : List NodeId).toFinset.filter fun u =>
      [⟨1, "x"⟩] <+: (s'.node u).log).card := by
  obtain ⟨s, hs, hcommitted, hpeers, hterm, hrun⟩ : ∃ s,
      Cluster.Reaches ["a", "b", "c"] Conforms s ∧ (s.node "a").committed = [⟨1, "x"⟩] ∧
      s.peers = ["a", "b", "c"] ∧ (s.node "a").currentTerm ≤ 2 ∧
      (runWith Cluster.step Conforms s crashAndElect).any fun s' =>
        decide ((s'.node "b").state = .leader ∧ (s'.node "b").currentTerm = 2) :=
    Reaches.exists_runWith (.init rfl)
      (electAndAppend ++ ([.proceed 1 0, .drop 1, .proceed 1 0] : List Action))
      (by decide +kernel)
  obtain ⟨s', hs', hleads, hterm'⟩ := exists_of_any hrun
  have hlater : s.Later s' := BoostGateway.Reaches.runWith (.init rfl) hs'
  obtain ⟨hleaders, hmajority, -⟩ := committed_survives (by decide) hs hlater "a"
  rw [hcommitted] at hleaders hmajority
  rw [hpeers] at hmajority
  exact ⟨s, s', hs, hlater, hcommitted, hleads, hterm', hleaders "b" hleads (hterm' ▸ hterm),
    hmajority (by simp)⟩

end BoostGateway.Raft
