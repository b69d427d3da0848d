import BoostGateway.Raft.CommitIndex
import BoostGateway.Raft.Election

/-!
# Commits and deliveries of a cluster

Four things the sections do not check can make a commit index run ahead of what a
majority holds. A follower answers with the size of its log (`Overreports`). A
leader counts itself twice (`SelfDecides`). A reply is recorded although the leader
has moved to another term since it sent the request. The last section of
`append_command` updates the commit index also when the node has stopped leading.
`Conforms` says that an action does none of this, and wraps no term.

In every run of such actions a leader that raises its commit index has a majority
that holds the entries (`commit_quorum`), and no two nodes hand different commands
of one index to their apply callbacks (`deliveries_agree`). Both fail for arbitrary
runs.
-/

namespace BoostGateway.Raft

open TermLog Ledger

/-- The call updates the commit index when a reply succeeds. -/
def Call.updates : Call → Bool
  | .awaitHeartbeat .. => true
  | _ => false

/-- The action stays clear of the four defects of commit counting, and wraps no term. -/
def Conforms (s : Cluster) : Action → Prop
  | .startElection v => s.TermsFit (.startElection v)
  | .receive r =>
    match s.sent[r]? with
    | some (v, .append args) => ¬(s.node v).Overreports args
    | _ => True
  | .answer i k _ =>
    match s.calls[i]?, s.replies[k]? with
    | some (v, c), some (r, .append reply) =>
      match s.sent[r]? with
      | some (p, .append args) =>
        reply.success → (s.node v).state = .leader → (s.node v).currentTerm = args.term ∧
          (c.updates → ¬((s.node v).recordMatch p reply.matchIndex).SelfDecides)
      | _ => True
    | _, _ => True
  | .proceed i _ =>
    match s.calls[i]? with
    | some (v, .append k []) =>
      (s.node v).quorumSize ≤ k → (s.node v).state = .leader ∧ ¬(s.node v).SelfDecides
    | _ => True
  | _ => True

instance (s : Cluster) : ∀ a, Decidable (Conforms s a)
  | .startElection v => inferInstanceAs (Decidable (s.TermsFit (.startElection v)))
  | .receive r => by
    dsimp only [Conforms]
    rcases s.sent[r]? with _ | ⟨v, _ | args⟩ <;> infer_instance
  | .answer i k _ => by
    dsimp only [Conforms]
    rcases s.calls[i]? with _ | ⟨v, c⟩
    · infer_instance
    · rcases s.replies[k]? with _ | ⟨r, _ | reply⟩
      · infer_instance
      · infer_instance
      · dsimp only
        rcases s.sent[r]? with _ | ⟨p, _ | args⟩ <;> infer_instance
  | .proceed i _ => by
    dsimp only [Conforms]
    rcases s.calls[i]? with _ | ⟨v, _ | _ | _ | _ | ⟨k, _ | _⟩ | _ | _⟩ <;> infer_instance
  | .sendHeartbeat _ | .appendCommand .. | .drop _ | .deliver _ | .onApply _ | .restart _ =>
    .isTrue trivial

/-- The commit indices and the deliveries of a cluster are backed by the ledger. -/
structure Backed (g : RaftLedger) (s : Cluster) : Prop where
  node : ∀ v, CommitInv s.peers g (s.node v)
  caller : ∀ (i : ℕ) v c, s.calls[i]? = some (v, c) → v ∈ s.peers
  request : ∀ (r : ℕ) p args, s.sent[r]? = some (p, .append args) → CommitRequest s.peers g args
  reply : ∀ (k : ℕ) r reply, s.replies[k]? = some (r, .append reply) → reply.success →
    ∃ p args, s.sent[r]? = some (p, .append args) ∧ g.ack p args.term reply.matchIndex
  batch : ∀ x ∈ s.batches, ∀ y ∈ x.2, Agreed s.peers.toFinset g y.1 y.2
  delivered : ∀ x ∈ s.delivered, Agreed s.peers.toFinset g x.2.1 x.2.2

theorem backed_init (peers : List NodeId) (g : RaftLedger) : Backed g (Cluster.init peers) where
  node v := commitInv_init peers peers g v
  caller := by simp [Cluster.init]
  request := by simp [Cluster.init]
  reply := by simp [Cluster.init]
  batch := by simp [Cluster.init]
  delivered := by simp [Cluster.init]

theorem Conforms.termsFit {s : Cluster} {a : Action} (h : Conforms s a) : s.TermsFit a := by
  cases a with
  | startElection v => exact h
  | _ => trivial

namespace Backed

variable {g g' : RaftLedger} {s s' : Cluster} {v : NodeId}

theorem mono (h : Backed g s) (hle : g.Le g') : Backed g' s where
  node v := (h.node v).mono hle
  caller := h.caller
  request r p args hr := (h.request r p args hr).mono hle
  reply k r reply hk hs := by
    obtain ⟨p, args, hr, ha⟩ := h.reply k r reply hk hs
    exact ⟨p, args, hr, hle.ack _ _ _ ha⟩
  batch x hx y hy := (h.batch x hx y hy).mono hle
  delivered x hx := (h.delivered x hx).mono hle

/-! ## The parts of an action -/

theorem setNode (h : Backed g s) {n : RaftNode} (hn : CommitInv s.peers g n) :
    Backed g (s.setNode v n) :=
  { h with
    node := (Function.forall_update_iff s.node fun _ n => CommitInv s.peers g n).mpr
      ⟨hn, fun u _ => h.node u⟩ }

theorem setCall (h : Backed g s) {i : ℕ} {c : Call} (hv : v ∈ s.peers) :
    Backed g (s.setCall i v c) :=
  { h with
    caller := fun j u d hj => by
      have hj' : (s.calls.set i (v, c))[j]? = some (u, d) := hj
      rw [List.getElem?_set] at hj'
      split_ifs at hj' with h1 h2
      · obtain ⟨rfl, -⟩ := Prod.mk.inj (Option.some_inj.mp hj')
        exact hv
      · exact h.caller j u d hj' }

theorem spawn (h : Backed g s) {c : Call} (hv : v ∈ s.peers) : Backed g (s.spawn v c) :=
  { h with
    caller := fun j u d hj => by
      rcases getElem?_concat_some hj with hj' | ⟨-, heq⟩
      · exact h.caller j u d hj'
      · obtain ⟨rfl, -⟩ := Prod.mk.inj heq
        exact hv }

theorem send (h : Backed g s) {i : ℕ} {p : NodeId} {q : Request} {c : ℕ → Call}
    (hv : v ∈ s.peers) (hq : ∀ args, q = .append args → CommitRequest s.peers g args) :
    Backed g (s.send i v p q c) := by
  have hsent : Backed g { s with sent := s.sent ++ [(p, q)] } :=
    { h with
      request := fun r p' args hr => by
        rcases getElem?_concat_some hr with hr' | ⟨-, heq⟩
        · exact h.request r p' args hr'
        · exact hq args (Prod.mk.inj heq).2
      reply := fun k r reply hk hs => by
        obtain ⟨p', args, hr, ha⟩ := h.reply k r reply hk hs
        exact ⟨p', args, getElem?_append_of_some hr _, ha⟩ }
  exact hsent.setCall hv

theorem addReply (h : Backed g s) {r : ℕ} {y : Reply}
    (hy : ∀ reply, y = .append reply → reply.success →
      ∃ p args, s.sent[r]? = some (p, .append args) ∧ g.ack p args.term reply.matchIndex) :
    Backed g { s with replies := s.replies ++ [(r, y)] } :=
  { h with
    reply := fun k r' reply hk hs => by
      rcases getElem?_concat_some hk with hk' | ⟨-, heq⟩
      · exact h.reply k r' reply hk' hs
      · obtain ⟨rfl, hy'⟩ := Prod.mk.inj heq
        exact hy reply hy' hs }

theorem addBatch (h : Backed g s) {applied : Applied}
    (ha : ∀ x ∈ applied, Agreed s.peers.toFinset g x.1 x.2) : Backed g (s.addBatch v applied) :=
  { h with
    batch := fun x hx => by
      rcases List.mem_append.mp hx with hx | hx
      · exact h.batch x hx
      · rw [List.mem_singleton.mp hx]
        exact ha }

/-! ## The actions -/

variable (hsim : Sim g s)

include hsim in
theorem proceed (h : Backed g s) {i junk : ℕ} {c : Call} (hi : s.calls[i]? = some (v, c))
    (hc : Conforms s (.proceed i junk)) (hs' : s.proceedCall i junk v c = some s') :
    Backed g s' := by
  have hv := h.caller i v c hi
  cases Cluster.proceedCall_cases hs' with
  | vote => exact h.send hv nofun
  | won _ _ =>
    exact { (h.setNode ((h.node v).becomeLeader (hsim.node v).peers)).setCall hv with }
  | ends => exact h.setCall hv
  | entries p rest hlead =>
    refine h.send hv fun args heq => ?_
    obtain rfl := Request.append.inj heq
    exact (h.node v).makeAppendEntriesFor hsim.sound (hsim.node v) hlead p
  | @counted k n applied hn =>
    have hq : (s.node v).quorumSize ≤ k := by
      by_contra hlt
      simp [RaftNode.appendCommandFinish, not_le.mp hlt] at hn
    simp only [Conforms, hi] at hc
    obtain ⟨hs, hself⟩ := hc hq
    obtain ⟨hn', hbatch⟩ := (h.node v).appendCommandFinish hsim.sound (hsim.node v) hsim.nodup
      hv hs hself hn
    exact ((h.setNode hn').addBatch hbatch).setCall hv

theorem answerVote (h : Backed g s) (hv : v ∈ s.peers) {i : ℕ} {args : RequestVoteArgs}
    {reply : RequestVoteReply} {c : Call} :
    Backed g ((s.setNode v ((s.node v).startElectionReply args reply).1).setCall i v c) := by
  refine (h.setNode ?_).setCall hv
  unfold RaftNode.startElectionReply
  split_ifs with h1 h2
  · exact h.node v
  · exact (h.node v).becomeFollower h2.le
  · exact (h.node v).congr rfl rfl rfl le_rfl ((h.node v).saved.congr rfl rfl rfl) fun hs =>
      ⟨((h.node v).leader hs).acked, ((h.node v).leader hs).all⟩
  · exact h.node v

include hsim in
theorem answer (h : Backed g s) {i k junk r : ℕ} {c : Call} {reply : Reply}
    (hi : s.calls[i]? = some (v, c)) (hk : s.replies[k]? = some (r, reply))
    (hr : c.waitsFor = some r) (hc : Conforms s (.answer i k junk))
    (hs' : s.answerCall i junk v c reply = some s') : Backed g s' := by
  have hv := h.caller i v c hi
  have hack : ∀ p args reply', reply = .append reply' →
      s.sent[r]? = some (p, .append args) → (s.node v).state = .leader → reply'.success →
      g.ack p (s.node v).currentTerm reply'.matchIndex := by
    rintro p args reply' rfl hreq hs hsucc
    simp only [Conforms, hi, hk, hreq] at hc
    obtain ⟨hterm, -⟩ := hc hsucc hs
    obtain ⟨p', args', hreq', ha⟩ := h.reply k r reply' hk hsucc
    obtain ⟨rfl, hargs⟩ := Prod.mk.inj (Option.some_inj.mp (hreq.symm.trans hreq'))
    obtain rfl := Request.append.inj hargs
    exact hterm ▸ ha
  have hcall := hsim.call i v c hi
  cases c with
  | awaitVote args p rest req =>
    cases reply with
    | append reply => simp [Cluster.answerCall] at hs'
    | vote reply =>
      obtain rfl := Option.some_inj.mp hs'
      exact h.answerVote hv
  | awaitHeartbeat p rest req =>
    obtain ⟨hps, args, hreq⟩ := hcall
    obtain rfl : req = r := by simpa [Call.waitsFor] using hr
    cases reply with
    | vote reply => simp [Cluster.answerCall] at hs'
    | append reply =>
      obtain rfl := Option.some_inj.mp hs'
      refine (h.setNode ?_).setCall hv
      refine (h.node v).sendHeartbeatReply hsim.sound (hsim.node v) hsim.nodup hv
        (hps p (by simp)).1 reply (fun hs hsucc => ⟨hack p args reply rfl hreq hs hsucc, ?_⟩) junk
      simp only [Conforms, hi, hk, hreq] at hc
      exact (hc hsucc hs).2 rfl
  | awaitAppend successes p rest req =>
    obtain ⟨hps, args, hreq⟩ := hcall
    obtain rfl : req = r := by simpa [Call.waitsFor] using hr
    cases reply with
    | vote reply => simp [Cluster.answerCall] at hs'
    | append reply =>
      obtain rfl := Option.some_inj.mp hs'
      refine (h.setNode ?_).setCall hv
      exact (h.node v).appendCommandReply (hps p (by simp)).1 reply
        (fun hs hsucc => hack p args reply rfl hreq hs hsucc) successes
  | election | heartbeat | append | done => simp [Call.waitsFor] at hr

include hsim in
theorem drop (h : Backed g s) {i : ℕ} {c : Call} (hi : s.calls[i]? = some (v, c))
    (hs' : s.dropCall i v c = some s') : Backed g s' := by
  have hv := h.caller i v c hi
  have hcall := hsim.call i v c hi
  cases c with
  | awaitVote args p rest req =>
    obtain rfl := Option.some_inj.mp hs'
    exact h.answerVote hv
  | awaitHeartbeat p rest req =>
    obtain rfl := Option.some_inj.mp hs'
    exact h.setCall hv
  | awaitAppend successes p rest req =>
    simp only [Cluster.dropCall, Cluster.answerCall, Option.some_inj] at hs'
    subst hs'
    refine (h.setNode ?_).setCall hv
    exact (h.node v).appendCommandReply (hcall.1 p (by simp)).1 {}
      (fun _ hsucc => by simp at hsucc) successes
  | election | heartbeat | append | done => simp [Cluster.dropCall] at hs'

include hsim in
theorem receiveAppend (h : Backed g s) {r : ℕ} {args : AppendEntriesArgs}
    (hr : s.sent[r]? = some (v, .append args)) (hc : Conforms s (.receive r)) :
    Backed (appendLedger g v (s.node v) args) (s.receiveRequest r v (.append args)) := by
  obtain ⟨hle, -⟩ := hsim.receiveAppend hr
  obtain ⟨-, hreq⟩ := hsim.request r v _ hr
  have hover : ¬(s.node v).Overreports args := by
    simpa only [Conforms, hr] using hc
  have hroot : Rooted g.chain (s.node v).log := (hsim.node v).log ▸ hsim.sound.rooted_log v
  obtain ⟨hn, hbatch⟩ := (h.node v).handleAppendEntries hsim.sound hroot hreq
    (h.request r v args hr) hover
  have hack : ((s.node v).handleAppendEntries args).2.1.success →
      (appendLedger g v (s.node v) args).ack v args.term
        ((s.node v).handleAppendEntries args).2.1.matchIndex := by
    intro hsucc
    have hst : (s.node v).currentTerm ≤ args.term := by
      by_contra hst
      simp [RaftNode.handleAppendEntries, if_pos (not_le.mp hst)] at hsucc
    obtain ⟨hlen, -⟩ := log_prefix_chain_of_success hsim.sound hroot hreq hst hsucc hover
    have hack := appendLedger_ack hsim.sound (hsim.node v) hreq hst
    rw [appendAck, if_pos hsucc, hlen] at hack
    rwa [← RaftNode.handleAppendEntries_matchIndex] at hack
  refine (((h.setNode (v := v) hn).addBatch (v := v) hbatch).mono hle).addReply ?_
  intro reply heq hsucc
  rw [← Reply.append.inj heq] at hsucc ⊢
  exact ⟨v, args, hr, hack hsucc⟩

theorem deliver (h : Backed g s) {b index : ℕ} {entry : LogEntry} {rest : Applied}
    (hb : s.batches[b]? = some (v, (index, entry) :: rest)) :
    Backed g { s with
      batches := s.batches.set b (v, rest)
      delivered := s.delivered ++ [(v, index, entry)] } := by
  have hold := h.batch _ (List.mem_of_getElem? hb)
  exact
    { h with
      batch := fun x hx => by
        rcases List.mem_or_eq_of_mem_set hx with hx | rfl
        · exact h.batch x hx
        · exact fun y hy => hold y (List.mem_cons_of_mem _ hy)
      delivered := fun x hx => by
        rcases List.mem_append.mp hx with hx | hx
        · exact h.delivered x hx
        · rw [List.mem_singleton.mp hx]
          exact hold (index, entry) (by simp) }

include hsim in
theorem restart (h : Backed g s) (hv : v ∈ s.peers) :
    Backed g { s.setNode v (s.node v).restart with
      calls := s.calls.map fun c => if c.1 = v then (v, .done) else c
      batches := s.batches.map fun b => if b.1 = v then (v, []) else b } := by
  have hset := h.setNode (v := v) ((h.node v).restart (hsim.node v).saved)
  exact
    { hset with
      caller := fun j u d hj => by
        obtain ⟨⟨w, c⟩, hc, heq⟩ : ∃ c, s.calls[j]? = some c ∧
            (if c.1 = v then (v, .done) else c) = (u, d) := by
          simpa [List.getElem?_map] using hj
        split_ifs at heq with hw
        · exact (Prod.mk.inj heq).1 ▸ hv
        · exact h.caller j u d (heq ▸ hc)
      batch := fun x hx y hy => by
        obtain ⟨b, hb, rfl⟩ := List.mem_map.mp hx
        split_ifs at hy
        · simp at hy
        · exact h.batch b hb y hy }

include hsim in
/-- Every conforming action keeps commits and deliveries backed. -/
theorem step {a : Action} (h : Backed g s) (hc : Conforms s a) (hs' : s.step a = some s') :
    Backed (track s s' g a) s' := by
  obtain ⟨hle, -⟩ := hsim.step hc.termsFit hs'
  cases a with
  | startElection v =>
    refine Backed.mono ?_ hle
    obtain ⟨hv, rfl⟩ := Cluster.step_startElection hs'
    rw [RaftNode.startElection_eq hc]
    exact (h.setNode ((h.node v).startElectionAt (Nat.le_succ _))).spawn hv
  | sendHeartbeat v =>
    obtain ⟨hv, rfl⟩ := Cluster.step_sendHeartbeat hs'
    exact h.spawn hv
  | appendCommand v command =>
    refine Backed.mono ?_ hle
    obtain ⟨hv, ⟨-, rfl⟩ | ⟨n, hn, rfl⟩⟩ := Cluster.step_appendCommand hs'
    · exact h
    · exact (h.setNode ((h.node v).appendCommand hn)).spawn hv
  | proceed i junk =>
    refine Backed.mono ?_ hle
    obtain ⟨v, c, hi, hs'⟩ := Cluster.step_proceed hs'
    exact h.proceed hsim hi hc hs'
  | receive r =>
    obtain ⟨v, q, hr, rfl⟩ := Cluster.step_receive hs'
    cases q with
    | vote args =>
      refine Backed.mono ?_ hle
      exact (h.setNode ((h.node v).handleRequestVote args)).addReply fun reply heq => by
        simp at heq
    | append args =>
      simp only [track, hr]
      exact h.receiveAppend hsim hr hc
  | answer i k junk =>
    refine Backed.mono ?_ hle
    obtain ⟨v, c, r, reply, hi, hk, hr, hs'⟩ := Cluster.step_answer hs'
    exact h.answer hsim hi hk hr hc hs'
  | drop i =>
    refine Backed.mono ?_ hle
    obtain ⟨v, c, hi, hs'⟩ := Cluster.step_drop hs'
    exact h.drop hsim hi hs'
  | deliver b =>
    obtain ⟨v, index, entry, rest, hb, rfl⟩ := Cluster.step_deliver hs'
    exact h.deliver hb
  | onApply v =>
    obtain ⟨-, rfl⟩ := Cluster.step_onApply hs'
    exact h.addBatch (h.node v).onApply
  | restart v =>
    obtain ⟨hv, rfl⟩ := Cluster.step_restart hs'
    exact h.restart hsim hv

end Backed

theorem Cluster.Reaches.backed {peers : List NodeId} {s : Cluster}
    (h : Cluster.Reaches peers Conforms s) (hnd : peers.Nodup) : ∃ g, Sim g s ∧ Backed g s := by
  refine h.invariant (P := fun s => ∃ g, Sim g s ∧ Backed g s) ?_ ?_
  · rintro s rfl
    exact ⟨_, sim_init hnd, backed_init peers _⟩
  · rintro s a s' ⟨g, hg, hb⟩ hok hs
    exact ⟨_, (hg.step hok.termsFit hs).2, hb.step hg hok hs⟩

/-! ## Commits -/

/-- Where a leader raises its commit index in `send_heartbeat` or `append_command`, a
majority then holds the entries up to it. -/
def CommitQuorum (s : Cluster) (a : Action) (s' : Cluster) : Prop :=
  (∃ i junk, a = .proceed i junk) ∨ (∃ i k junk, a = .answer i k junk) →
    ∀ v, (s.node v).state = .leader → (s.node v).commitIndex < (s'.node v).commitIndex →
      (s'.node v).commitIndex ≤ (s'.node v).log.length ∧
      s'.peers.length / 2 + 1 ≤ (s'.peers.toFinset.filter fun u =>
        (s'.node u).log.take (s'.node v).commitIndex =
          (s'.node v).log.take (s'.node v).commitIndex).card

/-- Whoever has a commit index has a majority behind it. -/
theorem Backed.majority {g : RaftLedger} {s : Cluster} (hsim : Sim g s) (h : Backed g s)
    {v : NodeId} (hpos : 0 < (s.node v).commitIndex) :
    s.peers.length / 2 + 1 ≤ (s.peers.toFinset.filter fun u =>
      (s.node u).log.take (s.node v).commitIndex =
        (s.node v).log.take (s.node v).commitIndex).card := by
  have hle := (h.node v).commit_le
  rcases (h.node v).settled with hnil | ⟨T, p, -, hp, hpre⟩
  · have := congrArg List.length hnil
    rw [List.length_take, List.length_nil] at this
    omega
  · obtain ⟨-, Q, ⟨hQ, hcard⟩, hacked⟩ := id hp
    rw [List.toFinset_card_of_nodup hsim.nodup] at hcard
    refine le_trans (by omega : s.peers.length / 2 + 1 ≤ Q.card) (Finset.card_le_card ?_)
    intro u hu
    refine Finset.mem_filter.mpr ⟨hQ hu, ?_⟩
    have hheld := hsim.sound.committed_held hp (hacked u hu)
    rw [(hsim.node u).log] at hheld
    have htake := List.prefix_iff_eq_take.mp (hpre.trans hheld)
    rw [List.length_take, min_eq_left hle] at htake
    exact htake.symm

theorem commit_quorum {peers : List NodeId} (hnd : peers.Nodup) {s s' : Cluster} {a : Action}
    (hs : Cluster.Reaches peers Conforms s) (hc : Conforms s a) (hs' : s.step a = some s') :
    CommitQuorum s a s' := by
  obtain ⟨g, hsim, hb⟩ := Cluster.Reaches.backed (hs.step hc hs') hnd
  intro _ v _ hlt
  exact ⟨(hb.node v).commit_le, hb.majority hsim (by omega)⟩

theorem commit_quorum_electAndAppend : ∃ s s',
    Cluster.Reaches ["a", "b", "c"] Conforms s ∧ s.step (.proceed 1 0) = some s' ∧
    (s.node "a").commitIndex < (s'.node "a").commitIndex ∧
    CommitQuorum s (.proceed 1 0) s' := by
  obtain ⟨s, hr, hc, hany⟩ : ∃ s, Cluster.Reaches ["a", "b", "c"] Conforms s ∧
      Conforms s (.proceed 1 0) ∧ (s.step (.proceed 1 0)).any fun s' =>
        decide ((s.node "a").commitIndex < (s'.node "a").commitIndex) :=
    Reaches.exists_runWith (.init rfl) (electAndAppend ++ ([.proceed 1 0, .drop 1] : List Action))
      (by decide +kernel)
  obtain ⟨s', hs', hlt⟩ := exists_of_any hany
  exact ⟨s, s', hr, hs', hlt, commit_quorum (by decide) hr hc hs'⟩

/-- The leader `a` takes `y` while the call for `x` is under way, so the last section of
that call finds `a` twice in the list. -/
def appendTwice : List Action :=
  electAndAppend ++ ([.appendCommand "a" "y", .proceed 1 0, .drop 1] : List Action)

theorem not_commit_quorum_appendTwice : ∃ s s', Cluster.Reachable ["a", "b", "c"] s ∧
    s.step (.proceed 1 0) = some s' ∧ ¬CommitQuorum s (.proceed 1 0) s' := by
  obtain ⟨s, hr, hlead, hany⟩ : ∃ s, Cluster.Reachable ["a", "b", "c"] s ∧
      (s.node "a").state = .leader ∧ (s.step (.proceed 1 0)).any fun s' =>
        decide ((s.node "a").commitIndex < (s'.node "a").commitIndex ∧
          (s'.peers.toFinset.filter fun u => (s'.node u).log.take (s'.node "a").commitIndex =
            (s'.node "a").log.take (s'.node "a").commitIndex).card < s'.peers.length / 2 + 1) :=
    Reaches.exists_runWith (.init rfl) appendTwice (by decide +kernel)
  obtain ⟨s', hs', hlt, hcard⟩ := exists_of_any hany
  refine ⟨s, s', hr, hs', fun h => ?_⟩
  have := (h (Or.inl ⟨1, 0, rfl⟩) "a" hlead hlt).2
  omega

/-! ## Deliveries -/

/-- What the apply callbacks got for one index carries one command. -/
def DeliveriesAgree (s : Cluster) : Prop :=
  ∀ u v i e e', (u, i, e) ∈ s.delivered → (v, i, e') ∈ s.delivered → e.command = e'.command

theorem deliveries_agree {peers : List NodeId} (hnd : peers.Nodup) {s : Cluster}
    (hs : Cluster.Reaches peers Conforms s) : DeliveriesAgree s := by
  obtain ⟨g, hsim, hb⟩ := hs.backed hnd
  intro u v i e e' he he'
  have ha : Agreed s.peers.toFinset g i e := hb.delivered _ he
  have ha' : Agreed s.peers.toFinset g i e' := hb.delivered _ he'
  rw [ha.eq ha' hsim.sound]

theorem deliveries_agree_electAndAppend : ∃ s,
    Cluster.Reaches ["a", "b", "c"] Conforms s ∧ ("a", 1, ⟨1, "x"⟩) ∈ s.delivered ∧
    DeliveriesAgree s := by
  obtain ⟨s, hr, hd⟩ : ∃ s, Cluster.Reaches ["a", "b", "c"] Conforms s ∧
      ("a", 1, ⟨1, "x"⟩) ∈ s.delivered :=
    Reaches.exists_runWith (.init rfl)
      (electAndAppend ++ ([.proceed 1 0, .drop 1, .proceed 1 0, .deliver 1] : List Action))
      (by decide +kernel)
  exact ⟨s, hr, hd, deliveries_agree (by decide) hr⟩

/-- After that run `a` delivers `y` at index 2. Then `b` is elected with the vote of `c`,
takes `z` at index 2, replicates it to `c` and delivers it. -/
def deliverTwice : List Action :=
  appendTwice ++ ([.proceed 1 0, .deliver 1, .deliver 1,
    .startElection "b", .proceed 3 0, .drop 3, .proceed 3 0, .receive 5, .answer 3 2 0,
    .proceed 3 0,
    .sendHeartbeat "b", .proceed 4 0, .drop 4, .proceed 4 0, .receive 7, .answer 4 3 0,
    .appendCommand "b" "z", .proceed 5 0, .drop 5, .proceed 5 0, .receive 9, .answer 5 4 0,
    .proceed 5 0, .deliver 4, .deliver 4] : List Action)

theorem not_deliveries_agree_deliverTwice : ∃ s, Cluster.Reachable ["a", "b", "c"] s ∧
    ("a", 2, ⟨1, "y"⟩) ∈ s.delivered ∧ ("b", 2, ⟨2, "z"⟩) ∈ s.delivered ∧
    ¬DeliveriesAgree s := by
  obtain ⟨s, hr, ha, hb⟩ : ∃ s, Cluster.Reachable ["a", "b", "c"] s ∧
      ("a", 2, ⟨1, "y"⟩) ∈ s.delivered ∧ ("b", 2, ⟨2, "z"⟩) ∈ s.delivered :=
    Reaches.exists_runWith (.init rfl) deliverTwice (by decide +kernel)
  refine ⟨s, hr, ha, hb, fun h => ?_⟩
  exact absurd (h _ _ _ _ _ ha hb) (by decide)

end BoostGateway.Raft
