import BoostGateway.Raft.Simulation

/-!
# Elections and logs of a cluster

Two properties of every state of a cluster that is reached without an election that
wraps the term, for any number of nodes and any interleaving of calls, losses, delays
and restarts. At most one node runs `become_leader` in a term (`election_safety`),
although a candidate that meets the leader of its own term forgets its vote. Logs with
an entry of one term at one index agree up to that index (`log_matching`).

Both fail when the elections of one node bring it round to the term of a leader.
-/

namespace BoostGateway.Raft

open TermLog

/-- A cluster whose terms fit follows the protocol. -/
theorem Cluster.Reaches.sim {peers : List NodeId} {s : Cluster}
    (h : Cluster.Reaches peers Cluster.TermsFit s) (hnd : peers.Nodup) : ∃ g, Sim g s := by
  refine h.invariant (P := fun s => ∃ g, Sim g s) ?_ ?_
  · rintro s rfl
    exact ⟨_, sim_init hnd⟩
  · rintro s a s' ⟨g, hg⟩ hfit hs
    exact ⟨_, (hg.step hfit hs).2⟩

/-- A run of three nodes : `a` is elected in term 1 with the vote of `b`, takes the
command `x` and replicates it to `b`. -/
def electAndAppend : List Action :=
  [.startElection "a", .proceed 0 0, .receive 0, .answer 0 0 0, .proceed 0 0, .drop 0,
    .proceed 0 0, .appendCommand "a" "x", .proceed 1 0, .receive 2, .answer 1 1 0]

/-! ## A term that comes round -/

section

variable {peers : List NodeId} {s s' : Cluster} {v : NodeId}

/-- The action, `k` calls further on. -/
def Action.shift (k : ℕ) : Action → Action
  | .proceed i junk => .proceed (k + i) junk
  | .answer i j junk => .answer (k + i) j junk
  | .drop i => .drop (k + i)
  | a => a

/-- No process is started again, so calls that were made before stay as they are. -/
def Action.keepsCalls : Action → Bool
  | .restart _ => false
  | _ => true

namespace Cluster

/-- The cluster with earlier calls. -/
def withCalls (calls : List (NodeId × Call)) (s : Cluster) : Cluster :=
  { s with calls := calls ++ s.calls }

variable (calls : List (NodeId × Call))

@[simp] theorem node_withCalls (s : Cluster) : (s.withCalls calls).node = s.node := rfl

@[simp] theorem sent_withCalls (s : Cluster) : (s.withCalls calls).sent = s.sent := rfl

@[simp] theorem replies_withCalls (s : Cluster) : (s.withCalls calls).replies = s.replies := rfl

@[simp] theorem batches_withCalls (s : Cluster) : (s.withCalls calls).batches = s.batches := rfl

theorem setCall_withCalls (s : Cluster) (i : ℕ) (v : NodeId) (c : Call) :
    (s.withCalls calls).setCall (calls.length + i) v c = (s.setCall i v c).withCalls calls := by
  simp [withCalls, setCall, List.set_append_right]

theorem send_withCalls (s : Cluster) (i : ℕ) (v p : NodeId) (body : Request) (c : ℕ → Call) :
    (s.withCalls calls).send (calls.length + i) v p body c =
      (s.send i v p body c).withCalls calls := by
  simp [withCalls, send, List.set_append_right]

theorem spawn_withCalls (s : Cluster) (v : NodeId) (c : Call) :
    (s.withCalls calls).spawn v c = (s.spawn v c).withCalls calls := by
  simp [withCalls, spawn]

theorem getElem?_withCalls (s : Cluster) (i : ℕ) :
    (s.withCalls calls).calls[calls.length + i]? = s.calls[i]? := by
  rw [withCalls, List.getElem?_append_right (by omega), Nat.add_sub_cancel_left]

theorem answerCall_withCalls (s : Cluster) (i junk : ℕ) (v : NodeId) (c : Call) (reply : Reply) :
    (s.withCalls calls).answerCall (calls.length + i) junk v c reply =
      (s.answerCall i junk v c reply).map (withCalls calls) := by
  cases c <;> cases reply <;> try rfl
  all_goals exact congrArg some (setCall_withCalls calls (s.setNode v _) i v _)

theorem dropCall_withCalls (s : Cluster) (i : ℕ) (v : NodeId) (c : Call) :
    (s.withCalls calls).dropCall (calls.length + i) v c =
      (s.dropCall i v c).map (withCalls calls) := by
  cases c with
  | awaitVote args p rest req =>
    exact answerCall_withCalls calls s i 0 v (.awaitVote args p rest req) (.vote {})
  | awaitAppend k p rest req =>
    exact answerCall_withCalls calls s i 0 v (.awaitAppend k p rest req) (.append {})
  | awaitHeartbeat p rest req => exact congrArg some (setCall_withCalls calls s i v _)
  | _ => rfl

theorem proceedCall_withCalls (s : Cluster) (i junk : ℕ) (v : NodeId) (c : Call) :
    (s.withCalls calls).proceedCall (calls.length + i) junk v c =
      (s.proceedCall i junk v c).map (withCalls calls) := by
  have hdone := setCall_withCalls calls s i v .done
  cases c with
  | election args rest =>
    cases rest with
    | cons p rest => exact congrArg some (send_withCalls calls s i v p _ _)
    | nil =>
      simp only [proceedCall, Option.map_some, Option.some_inj]
      change (if (s.node v).startElectionFinish.2 = true then _ else _) = _
      split_ifs <;> simp [withCalls, setCall, setNode, List.set_append_right]
  | heartbeat rest =>
    cases rest with
    | nil => exact congrArg some hdone
    | cons p rest =>
      simp only [proceedCall]
      rw [apply_ite (Option.map _)]
      exact if_congr Iff.rfl (congrArg some hdone) (congrArg some (send_withCalls calls s i v p _ _))
  | append k rest =>
    cases rest with
    | nil =>
      simp only [proceedCall, node_withCalls]
      cases (s.node v).appendCommandFinish k junk with
      | none => exact congrArg some hdone
      | some x => exact congrArg some (setCall_withCalls calls ((s.setNode v _).addBatch v _) i v _)
    | cons p rest =>
      simp only [proceedCall]
      rw [apply_ite (Option.map _)]
      exact if_congr Iff.rfl (congrArg some hdone) (congrArg some (send_withCalls calls s i v p _ _))
  | _ => rfl

/-- Earlier calls make no difference to what an action does. -/
theorem step_withCalls (s : Cluster) {a : Action} (hkeeps : a.keepsCalls) :
    (s.withCalls calls).step (a.shift calls.length) = (s.step a).map (withCalls calls) := by
  cases a with
  | startElection v =>
    simp only [Action.shift, step]
    rw [apply_ite (Option.map _)]
    exact if_congr Iff.rfl (congrArg some (spawn_withCalls calls (s.setNode v _) v _)) rfl
  | sendHeartbeat v =>
    simp only [Action.shift, step]
    rw [apply_ite (Option.map _)]
    exact if_congr Iff.rfl (congrArg some (spawn_withCalls calls s v _)) rfl
  | appendCommand v command =>
    simp only [Action.shift, step, node_withCalls]
    rw [apply_ite (Option.map _)]
    refine if_congr Iff.rfl ?_ rfl
    cases (s.node v).appendCommand command with
    | none => rfl
    | some n => exact congrArg some (spawn_withCalls calls (s.setNode v n) v _)
  | proceed i junk =>
    simp only [Action.shift, step, getElem?_withCalls]
    cases s.calls[i]? with
    | none => rfl
    | some x => exact proceedCall_withCalls calls s i junk _ _
  | receive r =>
    simp only [Action.shift, step, sent_withCalls]
    rcases s.sent[r]? with _ | ⟨target, request⟩
    · rfl
    · cases request <;> rfl
  | answer i k junk =>
    simp only [Action.shift, step, getElem?_withCalls, replies_withCalls]
    rcases s.calls[i]? with _ | ⟨v, c⟩
    · rfl
    · rcases s.replies[k]? with _ | ⟨r, reply⟩
      · rfl
      · dsimp only
        rw [apply_ite (Option.map _)]
        exact if_congr Iff.rfl (answerCall_withCalls calls s i junk v c reply) rfl
  | drop i =>
    simp only [Action.shift, step, getElem?_withCalls]
    cases s.calls[i]? with
    | none => rfl
    | some x => exact dropCall_withCalls calls s i _ _
  | deliver b =>
    simp only [Action.shift, step, batches_withCalls]
    rcases s.batches[b]? with _ | ⟨v, _ | ⟨⟨index, entry⟩, rest⟩⟩ <;> rfl
  | onApply v =>
    simp only [Action.shift, step]
    rw [apply_ite (Option.map _)]
    rfl
  | restart v => cases hkeeps

theorem runWith_withCalls {as : List Action} (hkeeps : as.all Action.keepsCalls)
    (h : runWith step (fun _ _ => True) s as = some s') :
    runWith step (fun _ _ => True) (s.withCalls calls) (as.map (Action.shift calls.length)) =
      some (s'.withCalls calls) := by
  induction as generalizing s with
  | nil =>
    obtain rfl : s = s' := Option.some_inj.mp h
    rfl
  | cons a as ih =>
    obtain ⟨ha, has⟩ := Bool.and_eq_true_iff.mp hkeeps
    obtain ⟨t, ht, h⟩ := Option.bind_eq_some_iff.mp h
    refine Option.bind_eq_some_iff.mpr ⟨t.withCalls calls, ?_, ih has h⟩
    change (s.withCalls calls).step (a.shift calls.length) = _
    change s.step a = _ at ht
    rw [step_withCalls calls s ha, ht, Option.map_some]

/-- `s` with `v` in the election of the term. -/
def inElection (s : Cluster) (v : NodeId) (term : ℕ) : Cluster :=
  s.setNode v ((s.node v).startElectionAt term)

/-- With enough elections a node comes to any term. -/
theorem Reaches.elections (hs : Reachable peers s) (hv : v ∈ s.peers) (n : ℕ) :
    ∃ calls, Reachable peers
      { s.inElection v (((s.node v).currentTerm + n + 1) % 2 ^ 64) with calls } := by
  induction n with
  | zero => exact ⟨_, hs.step (a := .startElection v) trivial (if_pos hv)⟩
  | succ n ih =>
    obtain ⟨calls, hreach⟩ := ih
    generalize hT : ((s.node v).currentTerm + n + 1) % 2 ^ 64 = T at hreach
    have hnode : ((s.inElection v T).node v).startElection =
        (s.node v).startElectionAt (((s.node v).currentTerm + (n + 1) + 1) % 2 ^ 64) := by
      rw [inElection, setNode_node_self]
      change (s.node v).startElectionAt ((T + 1) % 2 ^ 64) = _
      rw [← hT, Nat.mod_add_mod]
      rfl
    have hstate : ({ s.inElection v T with calls } : Cluster).setNode v
        ((s.inElection v T).node v).startElection =
          { s.inElection v (((s.node v).currentTerm + (n + 1) + 1) % 2 ^ 64) with calls } := by
      rw [hnode]
      simp only [setNode, inElection, Function.update_idem]
    have hgo : ({ s.inElection v T with calls } : Cluster).step (.startElection v) = some _ :=
      if_pos hv
    have hnext := hreach.step trivial hgo
    change Reachable peers ((Cluster.setNode { s.inElection v T with calls } v
      ((s.inElection v T).node v).startElection).spawn v _) at hnext
    rw [hstate] at hnext
    exact ⟨_, hnext⟩

end Cluster

end

/-- `a` is elected in term 1 with the vote of `b` and takes `x`. -/
def electA : List Action :=
  [.startElection "a", .proceed 0 0, .receive 0, .answer 0 0 0, .proceed 0 0, .drop 0,
    .proceed 0 0, .appendCommand "a" "x"]

/-- `b`, whose elections have wrapped the term to 0, is elected in term 1 with the vote of `c`
and takes `y`. -/
def electB : List Action :=
  [.startElection "b", .proceed 0 0, .drop 0, .proceed 0 0, .receive 3, .answer 0 1 0,
    .proceed 0 0, .appendCommand "b" "y"]

/-- After `2 ^ 64 - 1` elections of `b` two nodes lead term 1. -/
theorem exists_electTwice : ∃ s, Cluster.Reachable ["a", "b", "c"] s ∧
    (1, "a") ∈ s.elected ∧ (1, "b") ∈ s.elected ∧
    (s.node "a").log = [⟨1, "x"⟩] ∧ (s.node "b").log = [⟨1, "y"⟩] := by
  obtain ⟨s, hr, hb, hterm, hany⟩ : ∃ s, Cluster.Reachable ["a", "b", "c"] s ∧ "b" ∈ s.peers ∧
      (s.node "b").currentTerm = 1 ∧
      (runWith Cluster.step (fun _ _ => True) { s.inElection "b" 0 with calls := [] } electB).any
        fun s' => decide ((1, "a") ∈ s'.elected ∧ (1, "b") ∈ s'.elected ∧
          (s'.node "a").log = [⟨1, "x"⟩] ∧ (s'.node "b").log = [⟨1, "y"⟩]) :=
    Reaches.exists_runWith (.init rfl) electA (by decide +kernel)
  obtain ⟨s', hs', hp⟩ := exists_of_any hany
  obtain ⟨calls, hreach⟩ := hr.elections hb (2 ^ 64 - 2)
  have hzero : (1 + (2 ^ 64 - 2) + 1) % 2 ^ 64 = 0 := by decide
  rw [hterm, hzero] at hreach
  have hrun := Cluster.runWith_withCalls calls (by decide) hs'
  rw [Cluster.withCalls, List.append_nil] at hrun
  exact ⟨s'.withCalls calls, Reaches.runWith hreach hrun, hp⟩

/-- Election safety : no two nodes are elected in one term. -/
theorem election_safety {peers : List NodeId} (hnd : peers.Nodup) {s : Cluster}
    (hs : Cluster.Reaches peers Cluster.TermsFit s) {T : ℕ} {u v : NodeId} (hu : (T, u) ∈ s.elected)
    (hv : (T, v) ∈ s.elected) : u = v := by
  obtain ⟨g, hg⟩ := hs.sim hnd
  have hu' := hg.elected T u hu
  have hv' := hg.elected T v hv
  exact Option.some_inj.mp (hu'.symm.trans hv')

theorem election_safety_electAndAppend : ∃ s,
    Cluster.Reaches ["a", "b", "c"] Cluster.TermsFit s ∧
    (1, "a") ∈ s.elected ∧ ∀ v, (1, v) ∈ s.elected → "a" = v := by
  obtain ⟨s, hr, he⟩ : ∃ s, Cluster.Reaches ["a", "b", "c"] Cluster.TermsFit s ∧
      (1, "a") ∈ s.elected :=
    Reaches.exists_runWith (.init rfl) electAndAppend (by decide +kernel)
  exact ⟨s, hr, he, fun v hv => election_safety (by decide) hr he hv⟩

/-- With the wrap two nodes are elected in one term. -/
theorem not_election_safety_electTwice : ∃ s, Cluster.Reachable ["a", "b", "c"] s ∧
    ∃ T u v, (T, u) ∈ s.elected ∧ (T, v) ∈ s.elected ∧ u ≠ v := by
  obtain ⟨s, hr, ha, hb, -, -⟩ := exists_electTwice
  exact ⟨s, hr, 1, "a", "b", ha, hb, by decide⟩

/-- Log matching : logs that hold an entry of one term at one index are equal up to it. -/
theorem log_matching {peers : List NodeId} (hnd : peers.Nodup) {s : Cluster}
    (hs : Cluster.Reaches peers Cluster.TermsFit s) {u v : NodeId} {i : ℕ} {e e' : LogEntry}
    (he : (s.node u).log[i]? = some e) (he' : (s.node v).log[i]? = some e')
    (ht : e.term = e'.term) : (s.node u).log.take (i + 1) = (s.node v).log.take (i + 1) := by
  obtain ⟨g, hg⟩ := hs.sim hnd
  have hroot : ∀ w, Rooted g.chain (s.node w).log := fun w =>
    (hg.node w).log ▸ hg.sound.rooted_log w
  have htake : ∀ {l : List LogEntry} {x : LogEntry}, l[i]? = some x →
      l.take (i + 1) = l.take i ++ [x] ∧ (l.take i).length = i := by
    intro l x hx
    obtain ⟨hi, rfl⟩ := List.getElem?_eq_some_iff.mp hx
    exact ⟨List.take_succ_eq_append_getElem hi, by simp [hi.le]⟩
  obtain ⟨hu, hul⟩ := htake he
  obtain ⟨hv, hvl⟩ := htake he'
  rw [hu, hv]
  refine (hroot u).agree (hroot v) ?_ ?_ (hul.trans hvl.symm) ht
  · rw [← hu]
    exact List.take_prefix _ _
  · rw [← hv]
    exact List.take_prefix _ _

theorem log_matching_electAndAppend : ∃ s,
    Cluster.Reaches ["a", "b", "c"] Cluster.TermsFit s ∧
    (s.node "a").log[0]? = some ⟨1, "x"⟩ ∧ (s.node "b").log[0]? = some ⟨1, "x"⟩ ∧
    (s.node "a").log.take 1 = (s.node "b").log.take 1 := by
  obtain ⟨s, hr, ha, hb⟩ : ∃ s, Cluster.Reaches ["a", "b", "c"] Cluster.TermsFit s ∧
      (s.node "a").log[0]? = some ⟨1, "x"⟩ ∧ (s.node "b").log[0]? = some ⟨1, "x"⟩ :=
    Reaches.exists_runWith (.init rfl) electAndAppend (by decide +kernel)
  exact ⟨s, hr, ha, hb, log_matching (by decide) hr ha hb rfl⟩

/-- With the wrap two leaders of one term write different entries at one index. -/
theorem not_log_matching_electTwice : ∃ s, Cluster.Reachable ["a", "b", "c"] s ∧
    ∃ u v i, ∃ e e' : LogEntry, (s.node u).log[i]? = some e ∧ (s.node v).log[i]? = some e' ∧
      e.term = e'.term ∧ (s.node u).log.take (i + 1) ≠ (s.node v).log.take (i + 1) := by
  obtain ⟨s, hr, -, -, ha, hb⟩ := exists_electTwice
  refine ⟨s, hr, "a", "b", 0, ⟨1, "x"⟩, ⟨1, "y"⟩, ?_⟩
  rw [ha, hb]
  decide

end BoostGateway.Raft
