import BoostGateway.Raft.Cluster
import BoostGateway.Raft.Refinement

/-!
# A cluster follows the replication protocol

`Sim g s` relates a cluster to a ledger : every node is where the ledger has it
(`NodeInv`), every call, request and reply is one the ledger accounts for, and a
candidate has counted votes of distinct voters that it is not about to ask again
(`TallyInv`). `track` is what an action does to the ledger, and `Sim.step` says that
every action of a cluster, whatever the interleaving, is such a move.

Two properties of every reachable state follow at once : at most one node is
elected in a term (`Sim.elected_unique`), and logs with an entry of one term at one
index agree up to it (`Sim.log_matching`).
-/

namespace BoostGateway.Raft

open TermLog Ledger

/-- The election a call belongs to, with the peers it has not heard from. -/
def Call.pending : Call → Option (RequestVoteArgs × List NodeId)
  | .election args rest => some (args, rest)
  | .awaitVote args p rest _ => some (args, p :: rest)
  | _ => none

/-- An election call of `v` that has not heard from `ps`. -/
structure VoteCall (peers : List NodeId) (g : RaftLedger) (v : NodeId) (args : RequestVoteArgs)
    (ps : List NodeId) : Prop where
  candidateId : args.candidateId = v
  term : args.term ≤ g.term v
  request : VoteRequest g args
  nodup : ps.Nodup
  mem : ∀ p ∈ ps, p ∈ peers

/-- The calls the ledger accounts for. -/
def CallInv (peers : List NodeId) (g : RaftLedger) (sent : List (NodeId × Request))
    (v : NodeId) : Call → Prop
  | .election args rest => VoteCall peers g v args rest
  | .awaitVote args p rest req =>
    VoteCall peers g v args (p :: rest) ∧ sent[req]? = some (p, .vote args)
  | .heartbeat rest | .append _ rest => ∀ p ∈ rest, p ∈ peers ∧ p ≠ v
  | .awaitHeartbeat p rest req | .awaitAppend _ p rest req =>
    (∀ q ∈ p :: rest, q ∈ peers ∧ q ≠ v) ∧ ∃ args, sent[req]? = some (p, .append args)
  | .done => True

/-- The requests the ledger accounts for. -/
def RequestInv (peers : List NodeId) (g : RaftLedger) (target : NodeId) (request : Request) :
    Prop :=
  target ∈ peers ∧
    match request with
    | .vote args => VoteRequest g args
    | .append args => AppendRequest g target args

/-- A granted vote is on record. -/
def ReplyInv (g : RaftLedger) (sent : List (NodeId × Request)) (r : ℕ) : Reply → Prop
  | .vote reply => reply.voteGranted → ∃ target args, sent[r]? = some (target, .vote args) ∧
      ∃ l, g.vote target args.term args.candidateId l
  | .append _ => True

/-- A candidate has counted voters none of which it is about to ask. -/
def TallyInv (peers : List NodeId) (g : RaftLedger) (calls : List (NodeId × Call)) (v : NodeId)
    (n : RaftNode) : Prop :=
  n.state = .candidate → ∃ Q, Tally peers g v n Q ∧
    ∀ (i : ℕ) (c : Call) (args : RequestVoteArgs) (ps : List NodeId),
      calls[i]? = some (v, c) → c.pending = some (args, ps) →
      args.term = n.currentTerm → ∀ p ∈ ps, p ∉ Q

/-- No two election calls of a node are for one term. -/
def OneCallPerTerm (calls : List (NodeId × Call)) : Prop :=
  ∀ (i j : ℕ) (v : NodeId) (c c' : Call) (args args' : RequestVoteArgs)
    (ps ps' : List NodeId), calls[i]? = some (v, c) → calls[j]? = some (v, c') →
    c.pending = some (args, ps) → c'.pending = some (args', ps') → args.term = args'.term →
    i = j

/-- The cluster `s` is where the ledger `g` has it. -/
structure Sim (g : RaftLedger) (s : Cluster) : Prop where
  nodup : s.peers.Nodup
  sound : g.Sound s.peers.toFinset
  node : ∀ v, NodeInv s.peers g v (s.node v)
  tally : ∀ v, TallyInv s.peers g s.calls v (s.node v)
  call : ∀ (i : ℕ) v c, s.calls[i]? = some (v, c) → CallInv s.peers g s.sent v c
  once : OneCallPerTerm s.calls
  request : ∀ (r : ℕ) p q, s.sent[r]? = some (p, q) → RequestInv s.peers g p q
  reply : ∀ (k : ℕ) r y, s.replies[k]? = some (r, y) → ReplyInv g s.sent r y
  elected : ∀ T c, (T, c) ∈ s.elected → g.leader T = some c

theorem sim_init {peers : List NodeId} (hnd : peers.Nodup) :
    Sim Ledger.init (Cluster.init peers) where
  nodup := hnd
  sound := sound_init _
  node v := nodeInv_init peers v
  tally v hs := by simp [Cluster.init] at hs
  call := by simp [Cluster.init]
  once := by simp [OneCallPerTerm, Cluster.init]
  request := by simp [Cluster.init]
  reply := by simp [Cluster.init]
  elected := by simp [Cluster.init]

/-! ## What the ledger accounts for stays accounted for -/

section Mono

variable {peers : List NodeId} {g g' : RaftLedger} {sent : List (NodeId × Request)} {v : NodeId}

theorem getElem?_append_of_some {α : Type*} {l : List α} {i : ℕ} {a : α} (h : l[i]? = some a)
    (l' : List α) : (l ++ l')[i]? = some a := by
  have hi : i < l.length := (List.getElem?_eq_some_iff.mp h).1
  rw [List.getElem?_append_left hi, h]

theorem getElem?_concat_some {α : Type*} {l : List α} {i : ℕ} {a b : α}
    (h : (l ++ [a])[i]? = some b) : l[i]? = some b ∨ i = l.length ∧ a = b := by
  rcases Nat.lt_or_ge i l.length with hlt | hge
  · rw [List.getElem?_append_left hlt] at h
    exact Or.inl h
  · rw [List.getElem?_append_right hge, List.getElem?_singleton] at h
    split_ifs at h with hi
    exact Or.inr ⟨by omega, Option.some_inj.mp h⟩

theorem VoteRequest.mono {args : RequestVoteArgs} (h : VoteRequest g args) (hle : g.Le g') :
    VoteRequest g' args := by
  obtain ⟨b, hb, h⟩ := h
  exact ⟨b, hle.campaign _ _ _ hb, h⟩

theorem AppendRequest.mono {args : AppendEntriesArgs} (h : AppendRequest g v args)
    (hle : g.Le g') : AppendRequest g' v args := by
  obtain ⟨q, hq, h'⟩ := h.cut
  exact ⟨hle.leader _ _ h.leader, h.target, q, hq.trans (hle.chain _), h'⟩

theorem RequestInv.mono {request : Request} (h : RequestInv peers g v request)
    (hle : g.Le g') : RequestInv peers g' v request := by
  refine ⟨h.1, ?_⟩
  cases request with
  | vote args => exact VoteRequest.mono h.2 hle
  | append args => exact AppendRequest.mono h.2 hle

theorem VoteCall.mono {args : RequestVoteArgs} {ps : List NodeId}
    (h : VoteCall peers g v args ps) (hle : g.Le g') : VoteCall peers g' v args ps :=
  { h with
    term := h.term.trans (hle.term v)
    request := h.request.mono hle }

theorem CallInv.mono {c : Call} (h : CallInv peers g sent v c) (hle : g.Le g')
    (more : List (NodeId × Request)) : CallInv peers g' (sent ++ more) v c := by
  cases c with
  | election args rest => exact VoteCall.mono h hle
  | awaitVote args p rest req => exact ⟨h.1.mono hle, getElem?_append_of_some h.2 more⟩
  | heartbeat rest => exact h
  | append successes rest => exact h
  | awaitHeartbeat p rest req | awaitAppend successes p rest req =>
    obtain ⟨hp, args, hargs⟩ := h
    exact ⟨hp, args, getElem?_append_of_some hargs more⟩
  | done => trivial

theorem ReplyInv.mono {r : ℕ} {reply : Reply} (h : ReplyInv g sent r reply) (hle : g.Le g')
    (more : List (NodeId × Request)) : ReplyInv g' (sent ++ more) r reply := by
  cases reply with
  | vote reply =>
    intro hg
    obtain ⟨target, args, hargs, l, hl⟩ := h hg
    exact ⟨target, args, getElem?_append_of_some hargs more, l, hle.vote _ _ _ _ hl⟩
  | append reply => trivial

theorem Tally.mono {n : RaftNode} {Q : Finset NodeId} (h : Tally peers g v n Q)
    (hle : g.Le g') : Tally peers g' v n Q := by
  refine ⟨h.1, h.2.1, fun u hu => ?_⟩
  obtain ⟨l, hl⟩ := h.2.2 u hu
  exact ⟨l, hle.vote _ _ _ _ hl⟩

/-- Only a candidate counts votes. -/
theorem TallyInv.stillRuns {calls : List (NodeId × Call)} {n n' : RaftNode}
    (h : TallyInv peers g calls v n) (hr : n.StillRuns n') : TallyInv peers g calls v n' := by
  intro hs
  obtain ⟨hs', ht, hv⟩ := hr hs
  obtain ⟨Q, hQ, hp⟩ := h hs'
  refine ⟨Q, ⟨hQ.1, hQ.2.1.trans hv.symm, ?_⟩, ?_⟩
  · rw [ht]
    exact hQ.2.2
  · rw [ht]
    exact hp

theorem TallyInv.mono {calls : List (NodeId × Call)} {n : RaftNode}
    (h : TallyInv peers g calls v n) (hle : g.Le g') : TallyInv peers g' calls v n := by
  intro hs
  obtain ⟨Q, hQ, hp⟩ := h hs
  exact ⟨Q, hQ.mono hle, hp⟩

end Mono

/-! ## The parts of an action -/

namespace Sim

variable {g g' : RaftLedger} {s : Cluster} {v : NodeId}

/-- One node moves. -/
theorem setNode (h : Sim g s) {n : RaftNode} (hm : Move s.peers.toFinset v g g')
    (hn : NodeInv s.peers g' v n) (ht : TallyInv s.peers g' s.calls v n) :
    Sim g' (s.setNode v n) where
  nodup := h.nodup
  sound := hm.sound
  node := (Function.forall_update_iff s.node fun u n => NodeInv s.peers g' u n).mpr
    ⟨hn, fun u hu => (h.node u).frame hm hu⟩
  tally := (Function.forall_update_iff s.node fun u n => TallyInv s.peers g' s.calls u n).mpr
    ⟨ht, fun u _ => (h.tally u).mono hm.le⟩
  call i u c hc := by
    simpa [Cluster.setNode] using (h.call i u c hc).mono hm.le []
  once := h.once
  request r p q hq := (h.request r p q hq).mono hm.le
  reply k r y hy := by
    simpa [Cluster.setNode] using (h.reply k r y hy).mono hm.le []
  elected T c hc := hm.le.leader T c (h.elected T c hc)

/-- `c'` belongs to the election of `c`, if to any, and has no more peers to ask. -/
def Continues (c c' : Call) : Prop :=
  ∀ (args : RequestVoteArgs) (ps : List NodeId), c'.pending = some (args, ps) →
    ∃ ps', c.pending = some (args, ps') ∧ ps ⊆ ps'

/-- A pending call after one call went on was pending before. -/
theorem pending_of_setCall {i j : ℕ} {u : NodeId} {c c' d : Call} {args : RequestVoteArgs}
    {ps : List NodeId} (hi : s.calls[i]? = some (v, c)) (hcont : Continues c c')
    (hj : (s.setCall i v c').calls[j]? = some (u, d)) (hd : d.pending = some (args, ps)) :
    ∃ d' ps', s.calls[j]? = some (u, d') ∧ d'.pending = some (args, ps') ∧ ps ⊆ ps' := by
  have hlt : i < s.calls.length := (List.getElem?_eq_some_iff.mp hi).1
  by_cases hij : i = j
  · subst hij
    obtain ⟨rfl, rfl⟩ : v = u ∧ c' = d := by
      simpa [Cluster.setCall, List.getElem?_set, hlt] using hj
    obtain ⟨ps', hps', hsub⟩ := hcont args ps hd
    exact ⟨c, ps', hi, hps', hsub⟩
  · refine ⟨d, ps, ?_, hd, List.Subset.refl _⟩
    simpa [Cluster.setCall, List.getElem?_set, hij] using hj

/-- One call goes on. -/
theorem setCall (h : Sim g s) {i : ℕ} {c c' : Call} (hi : s.calls[i]? = some (v, c))
    (hc : CallInv s.peers g s.sent v c') (hcont : Continues c c') :
    Sim g (s.setCall i v c') :=
  { h with
    tally := fun u hs => by
      obtain ⟨Q, hQ, hp⟩ := h.tally u hs
      refine ⟨Q, hQ, fun j d args ps hj hd ht p hmem => ?_⟩
      obtain ⟨d', ps', hj', hd', hsub⟩ := pending_of_setCall hi hcont hj hd
      exact hp j d' args ps' hj' hd' ht p (hsub hmem)
    call := fun j u d hj => by
      have hlt : i < s.calls.length := (List.getElem?_eq_some_iff.mp hi).1
      by_cases hij : i = j
      · subst hij
        obtain ⟨rfl, rfl⟩ : v = u ∧ c' = d := by
          simpa [Cluster.setCall, List.getElem?_set, hlt] using hj
        exact hc
      · exact h.call j u d (by simpa [Cluster.setCall, List.getElem?_set, hij] using hj)
    once := by
      intro j k u d d' args args' ps ps' hj hk hd hd' ht
      obtain ⟨e, qs, hj', he, -⟩ := pending_of_setCall hi hcont hj hd
      obtain ⟨e', qs', hk', he', -⟩ := pending_of_setCall hi hcont hk hd'
      exact h.once j k u e e' args args' qs qs' hj' hk' he he' ht }

/-- A call is made. -/
theorem spawn (h : Sim g s) {c : Call} (hc : CallInv s.peers g s.sent v c)
    (hnew : ∀ args ps, c.pending = some (args, ps) →
      (∀ (j : ℕ) d args' ps', s.calls[j]? = some (v, d) → d.pending = some (args', ps') →
        args'.term ≠ args.term) ∧
      ∀ Q, Tally s.peers g v (s.node v) Q → (s.node v).currentTerm = args.term → ∀ p ∈ ps, p ∉ Q) :
    Sim g (s.spawn v c) :=
  { h with
    tally := fun u hs => by
      obtain ⟨Q, hQ, hp⟩ := h.tally u hs
      refine ⟨Q, hQ, fun j d args ps hj hd ht => ?_⟩
      rcases getElem?_concat_some hj with hj' | ⟨-, heq⟩
      · exact hp j d args ps hj' hd ht
      · obtain ⟨rfl, rfl⟩ := Prod.mk.inj heq
        exact (hnew args ps hd).2 Q hQ ht.symm
    call := fun j u d hj => by
      rcases getElem?_concat_some hj with hj' | ⟨-, heq⟩
      · exact h.call j u d hj'
      · obtain ⟨rfl, rfl⟩ := Prod.mk.inj heq
        exact hc
    once := by
      intro j k u d d' args args' ps ps' hj hk hd hd' ht
      rcases getElem?_concat_some hj with hj' | ⟨rfl, hjv⟩ <;>
        rcases getElem?_concat_some hk with hk' | ⟨rfl, hkv⟩
      · exact h.once j k u d d' args args' ps ps' hj' hk' hd hd' ht
      · obtain ⟨rfl, rfl⟩ := Prod.mk.inj hkv
        exact absurd ht ((hnew args' ps' hd').1 j d args ps hj' hd)
      · obtain ⟨rfl, rfl⟩ := Prod.mk.inj hjv
        exact absurd ht.symm ((hnew args ps hd).1 k d' args' ps' hk' hd')
      · rfl }

/-- A request is sent. -/
theorem addSent (h : Sim g s) {p : NodeId} {q : Request} (hq : RequestInv s.peers g p q) :
    Sim g { s with sent := s.sent ++ [(p, q)] } :=
  { h with
    call := fun i u c hc => (h.call i u c hc).mono (Le.refl g) _
    request := fun r p' q' hr => by
      rcases getElem?_concat_some hr with hr' | ⟨-, heq⟩
      · exact h.request r p' q' hr'
      · obtain ⟨rfl, rfl⟩ := Prod.mk.inj heq
        exact hq
    reply := fun k r y hy => (h.reply k r y hy).mono (Le.refl g) _ }

/-- A reply is given. -/
theorem addReply (h : Sim g s) {r : ℕ} {y : Reply} (hy : ReplyInv g s.sent r y) :
    Sim g { s with replies := s.replies ++ [(r, y)] } :=
  { h with
    reply := fun k r' y' hk => by
      rcases getElem?_concat_some hk with hk' | ⟨-, heq⟩
      · exact h.reply k r' y' hk'
      · obtain ⟨rfl, rfl⟩ := Prod.mk.inj heq
        exact hy }

/-- What the ledger does not know of. -/
theorem deliveries (h : Sim g s) (batches : List (NodeId × Applied))
    (delivered : List (NodeId × ℕ × LogEntry)) :
    Sim g { s with batches := batches, delivered := delivered } :=
  { h with }

theorem continues_of_pending_eq_none {c c' : Call} (hc : c'.pending = none) :
    Continues c c' := by
  intro args ps h
  rw [hc] at h
  exact absurd h (by simp)

section

variable (h : Sim g s)
include h

/-- A call sends a request. -/
theorem send {i : ℕ} {c : Call} {c' : ℕ → Call} {p : NodeId} {q : Request}
    (hi : s.calls[i]? = some (v, c)) (hq : RequestInv s.peers g p q)
    (hc : CallInv s.peers g (s.sent ++ [(p, q)]) v (c' s.sent.length))
    (hcont : Continues c (c' s.sent.length)) : Sim g (s.send i v p q c') :=
  (h.addSent hq).setCall hi hc hcont

/-- A section of a call that follows a later term it hears of. -/
theorem setNode_reply {n : RaftNode} {T : ℕ}
    (hr : ((s.node v).currentTerm < T ∧ n = (s.node v).becomeFollower T) ∨
      (s.node v).SameCore n) (hs : n.Saved) (ht : TallyInv s.peers g s.calls v n) :
    g.Le (g.raise v n.currentTerm) ∧ Sim (g.raise v n.currentTerm) (s.setNode v n) := by
  obtain ⟨hm, hn⟩ := reply_refines h.sound (h.node v) hr hs
  exact ⟨hm.le, h.setNode hm hn (ht.mono hm.le)⟩

/-! ## The actions -/

theorem startElection (hv : v ∈ s.peers) {n : RaftNode}
    (hn : n = (s.node v).startElectionAt ((s.node v).currentTerm + 1)) :
    g.Le (g.run v ((s.node v).currentTerm + 1)) ∧
      Sim (g.run v ((s.node v).currentTerm + 1))
        ((s.setNode v n).spawn v (.election n.voteArgs n.targets)) := by
  obtain ⟨hm, hinv⟩ := startElectionAt_refines h.sound (h.node v) (Nat.lt_succ_self _)
  set g' := g.run v ((s.node v).currentTerm + 1) with hg'
  rw [← hn] at hinv
  have hterm : n.currentTerm = (s.node v).currentTerm + 1 := by rw [hn]; rfl
  have hcount : n.votesReceived = 1 := by rw [hn]; rfl
  have hold : ∀ (j : ℕ) d args ps, s.calls[j]? = some (v, d) → d.pending = some (args, ps) →
      args.term ≠ n.currentTerm := by
    intro j d args ps hj hd heq
    have hle : args.term ≤ g.term v := by
      have := h.call j v d hj
      cases d with
      | election args' rest =>
        obtain ⟨rfl, -⟩ := Prod.mk.inj (Option.some_inj.mp hd)
        exact this.term
      | awaitVote args' p rest req =>
        obtain ⟨rfl, -⟩ := Prod.mk.inj (Option.some_inj.mp hd)
        exact this.1.term
      | _ => simp [Call.pending] at hd
    rw [heq, (h.node v).term, hterm] at hle
    omega
  have hself : ∃ l, g'.vote v n.currentTerm v l :=
    ⟨g.log v, by rw [hterm]; exact Or.inr ⟨rfl, rfl, rfl, rfl⟩⟩
  have htally : Tally s.peers g' v n {v} := by
    refine ⟨by simpa using hv, by simp [hcount], fun u hu => ?_⟩
    rw [Finset.mem_singleton.mp hu]
    exact hself
  have hset := h.setNode hm hinv fun _ => ⟨{v}, htally, fun j d args ps hj hd ht =>
    absurd ht (hold j d args ps hj hd)⟩
  refine ⟨hm.le, hset.spawn ?_ ?_⟩
  · have hcamp : g'.campaign v n.currentTerm = some n.log := (hinv.candidate (by rw [hn]; rfl)).2.1
    exact
      { candidateId := hinv.nodeId
        term := hinv.term.symm.le
        request := ⟨n.log, by rw [← hinv.nodeId] at hcamp; exact hcamp, lastLogTermOf_eq _, rfl⟩
        nodup := by
          rw [RaftNode.targets, hinv.peers]
          exact h.nodup.filter _
        mem := fun p hp => (hinv.mem_targets hp).1 }
  · rintro args ps hpend
    obtain ⟨rfl, rfl⟩ := Prod.mk.inj (Option.some_inj.mp hpend)
    refine ⟨hold, fun Q hQ _ p hp hpQ => ?_⟩
    -- Nobody else has voted in the new term.
    obtain ⟨l, hl⟩ := hQ.2.2 p hpQ
    rw [Cluster.setNode_node_self, hterm] at hl
    have hpv : p ≠ v := (hinv.mem_targets hp).2
    rcases hl with hl | ⟨hp', -⟩
    · obtain ⟨-, b, hb, -⟩ := h.sound.vote_campaign _ _ _ _ hl
      have := (h.sound.campaign_le _ _ _ hb).1
      rw [(h.node v).term] at this
      omega
    · exact hpv hp'

/-- Calls that are no elections. -/
theorem spawn_targets {c : Call}
    (hc : c = .heartbeat (s.node v).targets ∨ ∃ k, c = .append k (s.node v).targets) :
    Sim g (s.spawn v c) := by
  have htargets : ∀ p ∈ (s.node v).targets, p ∈ s.peers ∧ p ≠ v := fun p hp =>
    (h.node v).mem_targets hp
  rcases hc with rfl | ⟨k, rfl⟩
  · exact h.spawn htargets (by simp [Call.pending])
  · exact h.spawn htargets (by simp [Call.pending])

theorem appendCommand {command : String} {n : RaftNode}
    (hn : (s.node v).appendCommand command = some n) :
    g.Le (g.extend v ⟨(s.node v).currentTerm, command⟩) ∧
      Sim (g.extend v ⟨(s.node v).currentTerm, command⟩)
        ((s.setNode v n).spawn v (.append 1 n.targets)) := by
  obtain ⟨hm, hinv⟩ := appendCommand_refines h.sound (h.node v) hn
  have hlead : n.state = .leader := by
    unfold RaftNode.appendCommand at hn
    split_ifs at hn with hs
    rw [← Option.some_inj.mp hn]
    exact not_not.mp hs
  have hset := h.setNode hm hinv fun hs => by simp [hlead] at hs
  exact ⟨hm.le, hset.spawn_targets (Or.inr ⟨1, by rw [Cluster.setNode_node_self]⟩)⟩

/-- A call is over. -/
theorem finish {i : ℕ} {c : Call} (hi : s.calls[i]? = some (v, c)) : Sim g (s.setCall i v .done) :=
  h.setCall hi trivial (continues_of_pending_eq_none rfl)

theorem sendVote {i : ℕ} {args : RequestVoteArgs} {p : NodeId}
    {rest : List NodeId} (hi : s.calls[i]? = some (v, .election args (p :: rest))) :
    Sim g (s.send i v p (.vote args) (.awaitVote args p rest)) := by
  have hcall : VoteCall s.peers g v args (p :: rest) := h.call i v _ hi
  refine h.send hi ⟨hcall.mem p (by simp), hcall.request⟩ ⟨hcall, by simp⟩ ?_
  intro args' ps hps
  exact ⟨ps, hps, List.Subset.refl _⟩

theorem sendAppend {i : ℕ} {c : Call} {c' : ℕ → Call} {p : NodeId}
    (hi : s.calls[i]? = some (v, c)) (hs : (s.node v).state = .leader)
    (hp : p ∈ s.peers ∧ p ≠ v)
    (hc : ∀ req args, (s.sent ++ [(p, Request.append args)])[req]? = some (p, .append args) →
      CallInv s.peers g (s.sent ++ [(p, Request.append args)]) v (c' req))
    (hpend : ∀ req, (c' req).pending = none) :
    Sim g (s.send i v p (.append ((s.node v).makeAppendEntriesFor p)) c') :=
  h.send hi ⟨hp.1, makeAppendEntriesFor_refines h.sound (h.node v) hs hp.2⟩
    (hc _ _ (by simp)) (continues_of_pending_eq_none (hpend _))

theorem electionFinish {i : ℕ} {args : RequestVoteArgs}
    (hi : s.calls[i]? = some (v, .election args [])) {s' : Cluster}
    (hs' : s.proceedCall i 0 v (.election args []) = some s') :
    g.Le (if (s.node v).startElectionFinish.2 then g.elect v else g) ∧
      Sim (if (s.node v).startElectionFinish.2 then g.elect v else g) s' := by
  by_cases hwon : (s.node v).state = .candidate ∧
      (s.node v).quorumSize ≤ (s.node v).votesReceived
  · obtain ⟨Q, hQ, -⟩ := h.tally v hwon.1
    obtain ⟨hm, hinv⟩ := becomeLeader_refines h.sound (h.node v) h.nodup hwon.1 hQ hwon.2
    have hset := (h.finish hi).setNode hm hinv fun hs => by simp [RaftNode.becomeLeader] at hs
    simp only [Cluster.proceedCall, RaftNode.startElectionFinish, if_pos hwon, if_true,
      Option.some_inj] at hs' ⊢
    subst hs'
    refine ⟨hm.le, ?_⟩
    exact
      { hset with
        elected := fun T c hc => by
          rcases List.mem_append.mp hc with hc | hc
          · exact hset.elected T c hc
          · obtain ⟨rfl, rfl⟩ := Prod.mk.inj (List.mem_singleton.mp hc)
            exact hinv.leader rfl }
  · simp only [Cluster.proceedCall, RaftNode.startElectionFinish, if_neg hwon,
      Bool.false_eq_true, if_false, Option.some_inj] at hs' ⊢
    subst hs'
    rw [Cluster.setNode_self]
    exact ⟨Le.refl g, h.finish hi⟩

theorem appendFinish {i k junk : ℕ} {c : Call} {n : RaftNode} {applied : Applied}
    (hi : s.calls[i]? = some (v, c))
    (hn : (s.node v).appendCommandFinish k junk = some (n, applied)) :
    Sim g (((s.setNode v n).addBatch v applied).setCall i v (.heartbeat n.targets)) := by
  have hc := RaftNode.appendCommandFinish_core hn
  have hinv := (h.node v).core hc (RaftNode.saved_appendCommandFinish hn)
  have hset := h.setNode (Move.refl h.sound) hinv
    ((h.tally v).stillRuns (RaftNode.stillRuns_appendCommandFinish hn))
  refine (hset.deliveries (s.batches ++ [(v, applied)]) s.delivered).setCall hi ?_
    (continues_of_pending_eq_none rfl)
  intro p hp
  exact hinv.mem_targets hp

/-- The next section of a call that waits for no reply. -/
theorem proceed {i junk : ℕ} {c : Call} (hi : s.calls[i]? = some (v, c))
    {s' : Cluster} (hs' : s.proceedCall i junk v c = some s')
    (hc : ∀ args, c ≠ .election args []) : Sim g s' := by
  cases Cluster.proceedCall_cases hs' with
  | vote => exact h.sendVote hi
  | won args => exact absurd rfl (hc args)
  | ends => exact h.finish hi
  | entries p rest hlead hsends =>
    have hcall := h.call i v _ hi
    rcases hsends with ⟨rfl, rfl⟩ | ⟨k, rfl, rfl⟩
    all_goals
      exact h.sendAppend hi hlead (hcall p List.mem_cons_self)
        (fun req args hreq => ⟨hcall, args, hreq⟩) fun _ => rfl
  | counted hn => exact h.appendFinish hi hn

/-- A counted vote. -/
theorem countVote {i req : ℕ} {args : RequestVoteArgs} {p : NodeId}
    {rest : List NodeId} (hi : s.calls[i]? = some (v, .awaitVote args p rest req))
    (hs : (s.node v).state = .candidate) (ht : (s.node v).currentTerm = args.term)
    (hv : ∃ l, g.vote p args.term args.candidateId l) :
    Sim g ((s.setNode v { s.node v with votesReceived := (s.node v).votesReceived + 1 }).setCall i v
      (.election args rest)) := by
  obtain ⟨hcall, -⟩ := h.call i v _ hi
  obtain ⟨hprest, hrest⟩ := List.nodup_cons.mp hcall.nodup
  have hcont : Continues (.awaitVote args p rest req) (.election args rest) := by
    intro args' ps hps
    obtain ⟨rfl, rfl⟩ := Prod.mk.inj (Option.some_inj.mp hps)
    exact ⟨p :: rest, rfl, List.subset_cons_self _ _⟩
  have hcall' : CallInv s.peers g s.sent v (.election args rest) :=
    { hcall with
      nodup := hrest
      mem := fun q hq => hcall.mem q (List.mem_cons_of_mem p hq) }
  have hset := h.setCall hi hcall' hcont
  obtain ⟨Q, hQ, hpend⟩ := h.tally v hs
  have hfresh : ∀ q ∈ p :: rest, q ∉ Q := hpend i _ args _ hi rfl ht.symm
  have hinv : NodeInv s.peers g v
      { s.node v with votesReceived := (s.node v).votesReceived + 1 } :=
    (h.node v).core ⟨rfl, rfl, rfl, rfl, rfl, rfl⟩ ((h.node v).saved.congr rfl rfl rfl rfl)
  refine hset.setNode (Move.refl h.sound) hinv fun _ => ⟨insert p Q, ⟨?_, ?_, ?_⟩, ?_⟩
  · refine Finset.insert_subset ?_ hQ.1
    exact List.mem_toFinset.mpr (hcall.mem p (by simp))
  · rw [Finset.card_insert_of_notMem (hfresh p (by simp)), hQ.2.1]
  · intro u hu
    rcases Finset.mem_insert.mp hu with rfl | hu
    · rw [hcall.candidateId] at hv
      exact ht ▸ hv
    · exact hQ.2.2 u hu
  · intro j d args' ps hj hd ht' q hq hqQ
    obtain ⟨d', ps', hj', hd', -⟩ := pending_of_setCall hi hcont hj hd
    obtain rfl : i = j := h.once i j v _ d' args args' _ ps' hi hj' rfl hd' (ht.symm.trans ht'.symm)
    obtain rfl : Call.election args rest = d := by
      have hlt : i < s.calls.length := (List.getElem?_eq_some_iff.mp hi).1
      simpa [Cluster.setCall, List.getElem?_set, hlt] using hj
    obtain ⟨-, rfl⟩ := Prod.mk.inj (Option.some_inj.mp hd)
    rcases Finset.mem_insert.mp hqQ with rfl | hqQ
    · exact hprest hq
    · exact hfresh q (List.mem_cons_of_mem p hq) hqQ

/-- The section of `start_election` after an answer. -/
theorem answerVote {i req : ℕ} {args : RequestVoteArgs} {p : NodeId}
    {rest : List NodeId} (hi : s.calls[i]? = some (v, .awaitVote args p rest req))
    {reply : RequestVoteReply}
    (hv : reply.voteGranted → ∃ l, g.vote p args.term args.candidateId l) {n : RaftNode}
    {go : Bool} (hn : (s.node v).startElectionReply args reply = (n, go)) :
    g.Le (g.raise v n.currentTerm) ∧ Sim (g.raise v n.currentTerm)
      ((s.setNode v n).setCall i v (if go then .election args rest else .done)) := by
  have hself : (s.node v).SameCore n → g.raise v n.currentTerm = g := fun hc => by
    rw [hc.currentTerm, ← (h.node v).term, raise_self]
  unfold RaftNode.startElectionReply at hn
  split_ifs at hn with h1 h2 h3
  · obtain ⟨rfl, rfl⟩ := Prod.mk.inj hn
    rw [hself (RaftNode.SameCore.refl _), Cluster.setNode_self]
    exact ⟨Le.refl g, h.finish hi⟩
  · obtain ⟨rfl, rfl⟩ := Prod.mk.inj hn
    obtain ⟨hle, hset⟩ := h.setNode_reply (n := (s.node v).becomeFollower reply.term)
      (Or.inl ⟨h2, rfl⟩) (RaftNode.saved_becomeFollower _ _)
      ((h.tally v).stillRuns (RaftNode.stillRuns_becomeFollower _ _))
    exact ⟨hle, hset.finish hi⟩
  · obtain ⟨rfl, rfl⟩ := Prod.mk.inj hn
    rw [hself ⟨rfl, rfl, rfl, rfl, rfl, rfl⟩]
    push Not at h1
    exact ⟨Le.refl g, h.countVote hi h1.1 h1.2 (hv h3)⟩
  · obtain ⟨rfl, rfl⟩ := Prod.mk.inj hn
    rw [hself (RaftNode.SameCore.refl _), Cluster.setNode_self]
    obtain ⟨hcall, -⟩ := h.call i v _ hi
    refine ⟨Le.refl g, h.setCall hi ?_ ?_⟩
    · exact
        { hcall with
          nodup := (List.nodup_cons.mp hcall.nodup).2
          mem := fun q hq => hcall.mem q (List.mem_cons_of_mem p hq) }
    · intro args' ps hps
      obtain ⟨rfl, rfl⟩ := Prod.mk.inj (Option.some_inj.mp hps)
      exact ⟨p :: rest, rfl, List.subset_cons_self _ _⟩

theorem answerHeartbeat {i req junk : ℕ} {p : NodeId} {rest : List NodeId}
    (hi : s.calls[i]? = some (v, .awaitHeartbeat p rest req)) {reply : AppendEntriesReply}
    {n : RaftNode} {go : Bool} (hn : (s.node v).sendHeartbeatReply p reply junk = (n, go)) :
    g.Le (g.raise v n.currentTerm) ∧ Sim (g.raise v n.currentTerm)
      ((s.setNode v n).setCall i v (if go then .heartbeat rest else .done)) := by
  have hcore := RaftNode.sendHeartbeatReply_core (s.node v) p reply junk
  have hsaved := RaftNode.saved_sendHeartbeatReply (h.node v).saved p reply junk
  have hruns := RaftNode.stillRuns_sendHeartbeatReply (s.node v) p reply junk
  rw [hn] at hcore hsaved hruns
  obtain ⟨hle, hset⟩ := h.setNode_reply
    (hcore.imp (fun hc => ⟨hc.1, (Prod.mk.inj hc.2).1⟩) id) hsaved ((h.tally v).stillRuns hruns)
  refine ⟨hle, hset.setCall hi ?_ (continues_of_pending_eq_none ?_)⟩
  · cases go with
    | false => trivial
    | true =>
      intro q hq
      exact (h.call i v _ hi).1 q (List.mem_cons_of_mem p hq)
  · cases go <;> rfl

theorem answerAppend {i req k : ℕ} {p : NodeId} {rest : List NodeId}
    (hi : s.calls[i]? = some (v, .awaitAppend k p rest req)) {reply : AppendEntriesReply}
    {n : RaftNode} {k' : Option ℕ} (hn : (s.node v).appendCommandReply p reply k = (n, k')) :
    g.Le (g.raise v n.currentTerm) ∧ Sim (g.raise v n.currentTerm)
      ((s.setNode v n).setCall i v (k'.elim .done fun k => .append k rest)) := by
  have hcore := RaftNode.appendCommandReply_core (s.node v) p reply k
  have hsaved := RaftNode.saved_appendCommandReply (h.node v).saved p reply k
  have hruns := RaftNode.stillRuns_appendCommandReply (s.node v) p reply k
  rw [hn] at hcore hsaved hruns
  obtain ⟨hle, hset⟩ := h.setNode_reply
    (hcore.imp (fun hc => ⟨hc.1, (Prod.mk.inj hc.2).1⟩) id) hsaved ((h.tally v).stillRuns hruns)
  refine ⟨hle, hset.setCall hi ?_ (continues_of_pending_eq_none ?_)⟩
  · cases k' with
    | none => trivial
    | some k' =>
      intro q hq
      exact (h.call i v _ hi).1 q (List.mem_cons_of_mem p hq)
  · cases k' <;> rfl

/-- The section of a call after its reply. -/
theorem answer {i k junk r : ℕ} {c : Call} {reply : Reply}
    (hi : s.calls[i]? = some (v, c)) (hk : s.replies[k]? = some (r, reply))
    (hr : c.waitsFor = some r) {s' : Cluster}
    (hs' : s.answerCall i junk v c reply = some s') :
    g.Le (g.raise v (s'.node v).currentTerm) ∧ Sim (g.raise v (s'.node v).currentTerm) s' := by
  have hreply := h.reply k r reply hk
  cases c with
  | awaitVote args p rest req =>
    cases reply with
    | append reply => simp [Cluster.answerCall] at hs'
    | vote reply =>
      rcases hn : (s.node v).startElectionReply args reply with ⟨n, go⟩
      simp only [Cluster.answerCall, hn, Option.some_inj] at hs'
      subst hs'
      obtain rfl : req = r := by simpa [Call.waitsFor] using hr
      obtain ⟨-, hsent⟩ := h.call i v _ hi
      simp only [Cluster.setCall_node, Cluster.setNode_node_self]
      refine h.answerVote hi (fun hg => ?_) hn
      obtain ⟨target, args', hsent', l, hl⟩ := hreply hg
      obtain ⟨rfl, hargs⟩ := Prod.mk.inj (Option.some_inj.mp (hsent.symm.trans hsent'))
      obtain rfl := Request.vote.inj hargs
      exact ⟨l, hl⟩
  | awaitHeartbeat p rest req =>
    cases reply with
    | vote reply => simp [Cluster.answerCall] at hs'
    | append reply =>
      rcases hn : (s.node v).sendHeartbeatReply p reply junk with ⟨n, go⟩
      simp only [Cluster.answerCall, hn, Option.some_inj] at hs'
      subst hs'
      simp only [Cluster.setCall_node, Cluster.setNode_node_self]
      exact h.answerHeartbeat hi hn
  | awaitAppend successes p rest req =>
    cases reply with
    | vote reply => simp [Cluster.answerCall] at hs'
    | append reply =>
      rcases hn : (s.node v).appendCommandReply p reply successes with ⟨n, k'⟩
      simp only [Cluster.answerCall, hn, Option.some_inj] at hs'
      subst hs'
      simp only [Cluster.setCall_node, Cluster.setNode_node_self]
      exact h.answerAppend hi hn
  | election | heartbeat | append | done => simp [Call.waitsFor] at hr

/-- The section of a call after an empty string. -/
theorem drop {i : ℕ} {c : Call} (hi : s.calls[i]? = some (v, c)) {s' : Cluster}
    (hs' : s.dropCall i v c = some s') :
    g.Le (g.raise v (s'.node v).currentTerm) ∧ Sim (g.raise v (s'.node v).currentTerm) s' := by
  cases c with
  | awaitVote args p rest req =>
    rcases hn : (s.node v).startElectionReply args {} with ⟨n, go⟩
    simp only [Cluster.dropCall, Cluster.answerCall, hn, Option.some_inj] at hs'
    subst hs'
    simp only [Cluster.setCall_node, Cluster.setNode_node_self]
    exact h.answerVote hi (fun hg => by simp at hg) hn
  | awaitHeartbeat p rest req =>
    obtain rfl := Option.some_inj.mp hs'
    rw [Cluster.setCall_node, ← (h.node v).term, raise_self]
    refine ⟨Le.refl g, h.setCall hi ?_ (continues_of_pending_eq_none rfl)⟩
    intro q hq
    exact (h.call i v _ hi).1 q (List.mem_cons_of_mem p hq)
  | awaitAppend successes p rest req =>
    rcases hn : (s.node v).appendCommandReply p {} successes with ⟨n, k'⟩
    simp only [Cluster.dropCall, Cluster.answerCall, hn, Option.some_inj] at hs'
    subst hs'
    simp only [Cluster.setCall_node, Cluster.setNode_node_self]
    exact h.answerAppend hi hn
  | election | heartbeat | append | done => simp [Cluster.dropCall] at hs'

theorem receiveVote {r : ℕ} {args : RequestVoteArgs} (hr : s.sent[r]? = some (v, .vote args)) :
    g.Le (voteLedger g v (s.node v) args) ∧
      Sim (voteLedger g v (s.node v) args) (s.receiveRequest r v (.vote args)) := by
  obtain ⟨-, hreq⟩ := h.request r v _ hr
  obtain ⟨hm, hinv, hgrant⟩ := handleRequestVote_refines h.sound (h.node v) hreq
  have hset := h.setNode hm hinv
    (((h.tally v).stillRuns (RaftNode.stillRuns_handleRequestVote _ args)).mono hm.le)
  exact ⟨hm.le, hset.addReply fun hg => ⟨v, args, hr, hgrant hg⟩⟩

theorem receiveAppend {r : ℕ} {args : AppendEntriesArgs}
    (hr : s.sent[r]? = some (v, .append args)) :
    g.Le (appendLedger g v (s.node v) args) ∧
      Sim (appendLedger g v (s.node v) args) (s.receiveRequest r v (.append args)) := by
  obtain ⟨-, hreq⟩ := h.request r v _ hr
  obtain ⟨hm, hinv⟩ := handleAppendEntries_refines h.sound (h.node v) hreq
  have hset := h.setNode hm hinv
    (((h.tally v).stillRuns (RaftNode.stillRuns_handleAppendEntries _ args)).mono hm.le)
  exact ⟨hm.le, (hset.deliveries (s.batches ++ [_]) s.delivered).addReply trivial⟩

theorem restart (batches : List (NodeId × Applied)) :
    Sim g { s.setNode v (s.node v).restart with
      calls := s.calls.map fun c => if c.1 = v then (v, .done) else c
      batches := batches } := by
  have hfollower : (s.node v).restart.state = .follower :=
    (RaftNode.restart_spec (h.node v).saved).2.2.2.2.2.1
  have hset := h.setNode (Move.refl h.sound) (restart_refines (h.node v)) fun hs => by
    rw [hfollower] at hs
    simp at hs
  have hold : ∀ (j : ℕ) u d, (s.calls.map fun c => if c.1 = v then (v, .done) else c)[j]? =
      some (u, d) → s.calls[j]? = some (u, d) ∨ d = .done := by
    intro j u d hj
    obtain ⟨⟨w, c⟩, hc, heq⟩ : ∃ c, s.calls[j]? = some c ∧
        (if c.1 = v then (v, .done) else c) = (u, d) := by
      simpa [List.getElem?_map] using hj
    split_ifs at heq with hw
    · exact Or.inr (Prod.mk.inj heq).2.symm
    · exact Or.inl (heq ▸ hc)
  have hpend : ∀ (j : ℕ) u d args ps,
      (s.calls.map fun c => if c.1 = v then (v, .done) else c)[j]? = some (u, d) →
      d.pending = some (args, ps) → s.calls[j]? = some (u, d) := by
    intro j u d args ps hj hd
    rcases hold j u d hj with hj | rfl
    · exact hj
    · simp [Call.pending] at hd
  exact
    { hset with
      tally := fun u hs => by
        obtain ⟨Q, hQ, hp⟩ := hset.tally u hs
        exact ⟨Q, hQ, fun j d args ps hj hd => hp j d args ps (hpend j u d args ps hj hd) hd⟩
      call := fun j u d hj => by
        rcases hold j u d hj with hj | rfl
        · exact hset.call j u d hj
        · trivial
      once := fun j k u d d' args args' ps ps' hj hk hd hd' =>
        h.once j k u d d' args args' ps ps' (hpend j u d args ps hj hd)
          (hpend k u d' args' ps' hk hd') hd hd' }

end

end Sim

/-! ## Whole runs -/

/-- What an action from `s` to `s'` does to the ledger. -/
def track (s s' : Cluster) (g : RaftLedger) : Action → RaftLedger
  | .startElection v => g.run v ((s.node v).currentTerm + 1)
  | .appendCommand v command =>
    match (s.node v).appendCommand command with
    | some _ => g.extend v ⟨(s.node v).currentTerm, command⟩
    | none => g
  | .proceed i _ =>
    match s.calls[i]? with
    | some (v, .election _ []) => if (s.node v).startElectionFinish.2 then g.elect v else g
    | _ => g
  | .receive r =>
    match s.sent[r]? with
    | some (v, .vote args) => voteLedger g v (s.node v) args
    | some (v, .append args) => appendLedger g v (s.node v) args
    | none => g
  | .answer i _ _ | .drop i =>
    match s.calls[i]? with
    | some (v, _) => g.raise v (s'.node v).currentTerm
    | none => g
  | .sendHeartbeat _ | .deliver _ | .onApply _ | .restart _ => g

/-- Every action of a cluster that wraps no term is a move of the protocol. -/
theorem Sim.step {g : RaftLedger} {s s' : Cluster} {a : Action} (h : Sim g s)
    (hfit : s.TermsFit a) (hs' : s.step a = some s') :
    g.Le (track s s' g a) ∧ Sim (track s s' g a) s' := by
  cases a with
  | startElection v =>
    obtain ⟨hv, rfl⟩ := Cluster.step_startElection hs'
    rw [RaftNode.startElection_eq hfit]
    exact h.startElection hv rfl
  | sendHeartbeat v =>
    obtain ⟨-, rfl⟩ := Cluster.step_sendHeartbeat hs'
    exact ⟨Le.refl g, h.spawn_targets (Or.inl rfl)⟩
  | appendCommand v command =>
    obtain ⟨-, ⟨hn, rfl⟩ | ⟨n, hn, rfl⟩⟩ := Cluster.step_appendCommand hs'
    · simp only [track, hn]
      exact ⟨Le.refl g, h⟩
    · simp only [track, hn]
      exact h.appendCommand hn
  | proceed i junk =>
    obtain ⟨v, c, hi, hs'⟩ := Cluster.step_proceed hs'
    by_cases hc : ∃ args, c = .election args []
    · obtain ⟨args, rfl⟩ := hc
      simp only [track, hi]
      exact h.electionFinish hi hs'
    · push Not at hc
      have htrack : track s s' g (.proceed i junk) = g := by
        simp only [track, hi]
        split
        · rename_i heq
          obtain ⟨-, rfl⟩ := Prod.mk.inj (Option.some_inj.mp heq)
          exact absurd rfl (hc _)
        · rfl
      rw [htrack]
      exact ⟨Le.refl g, h.proceed hi hs' hc⟩
  | receive r =>
    obtain ⟨v, q, hr, rfl⟩ := Cluster.step_receive hs'
    cases q with
    | vote args =>
      simp only [track, hr]
      exact h.receiveVote hr
    | append args =>
      simp only [track, hr]
      exact h.receiveAppend hr
  | answer i k junk =>
    obtain ⟨v, c, r, reply, hi, hk, hr, hs'⟩ := Cluster.step_answer hs'
    simp only [track, hi]
    exact h.answer hi hk hr hs'
  | drop i =>
    obtain ⟨v, c, hi, hs'⟩ := Cluster.step_drop hs'
    simp only [track, hi]
    exact h.drop hi hs'
  | deliver b =>
    obtain ⟨v, index, entry, rest, -, rfl⟩ := Cluster.step_deliver hs'
    exact ⟨Le.refl g, h.deliveries _ _⟩
  | onApply v =>
    obtain ⟨-, rfl⟩ := Cluster.step_onApply hs'
    exact ⟨Le.refl g, h.deliveries _ _⟩
  | restart v =>
    obtain ⟨-, rfl⟩ := Cluster.step_restart hs'
    exact ⟨Le.refl g, h.restart _⟩

end BoostGateway.Raft
