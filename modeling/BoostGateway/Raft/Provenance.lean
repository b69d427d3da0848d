import BoostGateway.Raft.Cluster
import BoostGateway.Raft.History

/-!
# Where the entries of a log come from

Every entry of a log was appended by `append_command` on some node : an event adds to
the log of its node at most what a request or a command brings (`mem_log_after`), and a
request carries entries of the log of its sender. So a property of every command that is
appended is one of every command in a log, on its way or about to be applied
(`AllCommands.step`), whatever restarts and leaders there are.
-/

namespace BoostGateway.Raft

namespace Cluster

variable {s s' : Cluster} {v : NodeId}

/-- An entry the action brings to `v` : the command it appends, or one of a request. -/
def Brings (s : Cluster) (a : Action) (v : NodeId) (e : LogEntry) : Prop :=
  a = .appendCommand v e.command ∨ ∃ args, (v, .append args) ∈ s.sent ∧ e ∈ args.entries

/-- The nodes after an action : at most one is changed, by an event that the action
accounts for. -/
def StepsNode (s s' : Cluster) (a : Action) : Prop :=
  s'.node = s.node ∨ ∃ v n, s'.node = Function.update s.node v n ∧
    ((s.node v).Saved → n.Saved ∧ ∀ e ∈ n.log, e ∈ (s.node v).log ∨ Brings s a v e)

theorem stepsNode_after {a : Action} (v : NodeId) (ev : NodeEvent)
    (h : s'.node = Function.update s.node v ((s.node v).after ev).1)
    (hb : ∀ e ∈ (s.node v).brought ev, Brings s a v e) : StepsNode s s' a := by
  refine Or.inr ⟨v, _, h, fun hs => ⟨RaftNode.saved_after hs ev, fun e he => ?_⟩⟩
  exact (RaftNode.mem_log_after ev hs he).imp_right (hb e)

variable {i junk : ℕ} {a : Action} {c : Call}

theorem stepsNode_proceed
    (h : s.proceedCall i junk v c = some s') : StepsNode s s' a := by
  cases proceedCall_cases h with
  | vote | ends | entries => exact Or.inl rfl
  | won _ hwon =>
    refine stepsNode_after v .electionFinish ?_ (by simp [RaftNode.brought])
    simp only [RaftNode.after, RaftNode.startElectionFinish, if_pos hwon]
    rfl
  | @counted k n applied hn =>
    refine stepsNode_after v (.appendFinish k junk) ?_ (by simp [RaftNode.brought])
    simp only [RaftNode.after, hn]
    rfl

theorem appendCommandReply_fst (n : RaftNode) (p : NodeId) (reply : AppendEntriesReply) (k : ℕ) :
    (n.appendCommandReply p reply k).1 = (n.after (.appendReply p reply)).1 := by
  simp only [RaftNode.after, RaftNode.appendCommandReply]
  split_ifs <;> rfl

theorem stepsNode_answer {reply : Reply}
    (h : s.answerCall i junk v c reply = some s') : StepsNode s s' a := by
  cases c with
  | awaitVote args p rest req =>
    cases reply with
    | append reply => simp [answerCall] at h
    | vote reply =>
      obtain rfl := Option.some_inj.mp h
      exact stepsNode_after v (.electionReply args reply) rfl
        (by simp [RaftNode.brought])
  | awaitHeartbeat p rest req =>
    cases reply with
    | vote reply => simp [answerCall] at h
    | append reply =>
      obtain rfl := Option.some_inj.mp h
      exact stepsNode_after v (.heartbeatReply p reply junk) rfl
        (by simp [RaftNode.brought])
  | awaitAppend successes p rest req =>
    cases reply with
    | vote reply => simp [answerCall] at h
    | append reply =>
      obtain rfl := Option.some_inj.mp h
      refine stepsNode_after v (.appendReply p reply) ?_ (by simp [RaftNode.brought])
      rw [← appendCommandReply_fst _ p reply successes]
      rfl
  | election | heartbeat | append | done => simp [answerCall] at h

theorem stepsNode_drop (h : s.dropCall i v c = some s') : StepsNode s s' a := by
  cases c with
  | awaitVote args p rest req =>
    rw [dropCall] at h
    exact stepsNode_answer h
  | awaitHeartbeat p rest req =>
    obtain rfl := Option.some_inj.mp h
    exact Or.inl rfl
  | awaitAppend successes p rest req =>
    rw [dropCall] at h
    exact stepsNode_answer h
  | election | heartbeat | append | done => simp [dropCall] at h

theorem stepsNode_receive {r : ℕ} {a : Action} {q : Request} (hr : (v, q) ∈ s.sent) :
    StepsNode s (s.receiveRequest r v q) a := by
  cases q with
  | vote args =>
    exact stepsNode_after v (.requestVote args) rfl (by simp [RaftNode.brought])
  | append args =>
    exact stepsNode_after v (.appendEntries args) rfl
      fun e he => Or.inr ⟨args, hr, he⟩

theorem stepsNode (h : s.step a = some s') : StepsNode s s' a := by
  cases a with
  | startElection v =>
    obtain ⟨-, rfl⟩ := step_startElection h
    exact Or.inr ⟨v, _, rfl, fun _ => ⟨RaftNode.saved_persistStateLocked _, fun e he => Or.inl he⟩⟩
  | sendHeartbeat v =>
    obtain ⟨-, rfl⟩ := step_sendHeartbeat h
    exact Or.inl rfl
  | appendCommand v command =>
    obtain ⟨-, ⟨-, rfl⟩ | ⟨n, hn, rfl⟩⟩ := step_appendCommand h
    · exact Or.inl rfl
    · refine stepsNode_after v (.appendCommand command) ?_ fun e he => Or.inl ?_
      · simp only [RaftNode.after, hn]
        rfl
      · rw [List.mem_singleton.mp he]
  | proceed i junk =>
    obtain ⟨v, c, -, hs⟩ := step_proceed h
    exact stepsNode_proceed hs
  | receive r =>
    obtain ⟨v, q, hr, rfl⟩ := step_receive h
    exact stepsNode_receive (List.mem_of_getElem? hr)
  | answer i k junk =>
    obtain ⟨v, c, r, reply, -, -, -, hs⟩ := step_answer h
    exact stepsNode_answer hs
  | drop i =>
    obtain ⟨v, c, -, hs⟩ := step_drop h
    exact stepsNode_drop hs
  | deliver b =>
    obtain ⟨v, index, entry, rest, -, rfl⟩ := step_deliver h
    exact Or.inl rfl
  | onApply v =>
    obtain ⟨-, rfl⟩ := step_onApply h
    exact Or.inl rfl
  | restart v =>
    obtain ⟨-, rfl⟩ := step_restart h
    exact stepsNode_after v .restart rfl (by simp [RaftNode.brought])

/-- A request that is sent carries entries of the log of its sender. -/
theorem mem_sent_proceed {x : NodeId × Request}
    (h : s.proceedCall i junk v c = some s') (hx : x ∈ s'.sent) :
    x ∈ s.sent ∨ ∀ args, x.2 = .append args → ∀ e ∈ args.entries, e ∈ (s.node v).log := by
  have happend : ∀ p, ∀ e ∈ ((s.node v).makeAppendEntriesFor p).entries, e ∈ (s.node v).log := by
    intro p e he
    simp only [RaftNode.makeAppendEntriesFor] at he
    split_ifs at he
    · exact List.mem_of_mem_drop he
    · simp at he
  cases proceedCall_cases h with
  | won | ends | counted => exact Or.inl hx
  | vote args =>
    refine (List.mem_append.mp hx).imp_right fun hx args heq => ?_
    rw [List.mem_singleton.mp hx] at heq
    cases heq
  | entries p =>
    refine (List.mem_append.mp hx).imp_right fun hx args heq => ?_
    rw [List.mem_singleton.mp hx] at heq
    exact Request.append.inj heq ▸ happend p

/-- A reply changes the node and the call only. -/
theorem sent_answer {reply : Reply} (h : s.answerCall i junk v c reply = some s') :
    s'.sent = s.sent ∧ s'.batches = s.batches := by
  unfold answerCall at h
  split at h
  all_goals first
    | cases h; exact ⟨rfl, rfl⟩
    | simp at h

theorem sent_drop (h : s.dropCall i v c = some s') : s'.sent = s.sent ∧ s'.batches = s.batches := by
  unfold dropCall at h
  split at h
  · exact sent_answer h
  · cases h
    exact ⟨rfl, rfl⟩
  · exact sent_answer h
  · simp at h

/-- Only the end of `append_command` drains entries. -/
theorem batches_proceed (h : s.proceedCall i junk v c = some s') :
    s'.batches = s.batches ∨ ∃ applied, s'.batches = s.batches ++ [(v, applied)] ∧
      ∀ x ∈ applied, x.2 ∈ (s'.node v).log := by
  cases proceedCall_cases h with
  | vote | won | ends | entries => exact Or.inl rfl
  | @counted k n applied hn =>
    refine Or.inr ⟨applied, rfl, fun x hx => ?_⟩
    have hdrained : x ∈ ((s.node v).after (.appendFinish k junk)).2 := by
      rw [RaftNode.after, hn]
      exact hx
    have hlog := RaftNode.mem_log_of_mem_drained _ hdrained
    rw [RaftNode.after, hn] at hlog
    simpa [addBatch, setNode] using hlog

theorem mem_sent {x : NodeId × Request} (h : s.step a = some s')
    (hx : x ∈ s'.sent) : x ∈ s.sent ∨ ∃ v, ∀ args, x.2 = .append args →
      ∀ e ∈ args.entries, e ∈ (s.node v).log := by
  cases a with
  | startElection v =>
    obtain ⟨-, rfl⟩ := step_startElection h
    exact Or.inl hx
  | sendHeartbeat v =>
    obtain ⟨-, rfl⟩ := step_sendHeartbeat h
    exact Or.inl hx
  | appendCommand v command =>
    obtain ⟨-, ⟨-, rfl⟩ | ⟨n, hn, rfl⟩⟩ := step_appendCommand h
    all_goals exact Or.inl hx
  | proceed i junk =>
    obtain ⟨v, c, -, hs⟩ := step_proceed h
    exact (mem_sent_proceed hs hx).imp_right fun hx => ⟨v, hx⟩
  | receive r =>
    obtain ⟨v, q, hr, rfl⟩ := step_receive h
    cases q <;> exact Or.inl hx
  | answer i k junk =>
    obtain ⟨v, c, r, reply, -, -, -, hs⟩ := step_answer h
    exact Or.inl ((sent_answer hs).1 ▸ hx)
  | drop i =>
    obtain ⟨v, c, -, hs⟩ := step_drop h
    exact Or.inl ((sent_drop hs).1 ▸ hx)
  | deliver b =>
    obtain ⟨v, index, entry, rest, -, rfl⟩ := step_deliver h
    exact Or.inl hx
  | onApply v =>
    obtain ⟨-, rfl⟩ := step_onApply h
    exact Or.inl hx
  | restart v =>
    obtain ⟨-, rfl⟩ := step_restart h
    exact Or.inl hx

/-- What waits to be delivered waited before, or is in the log of its node. -/
theorem mem_batches {x : NodeId × Applied} {y : ℕ × LogEntry}
    (h : s.step a = some s') (hx : x ∈ s'.batches) (hy : y ∈ x.2) :
    (∃ x' ∈ s.batches, y ∈ x'.2) ∨ ∃ v, y.2 ∈ (s'.node v).log := by
  have hold : x ∈ s.batches → (∃ x' ∈ s.batches, y ∈ x'.2) ∨ ∃ v, y.2 ∈ (s'.node v).log :=
    fun hx => Or.inl ⟨x, hx, hy⟩
  have hnew : ∀ v applied, s'.batches = s.batches ++ [(v, applied)] →
      (∀ z ∈ applied, z.2 ∈ (s'.node v).log) →
      (∃ x' ∈ s.batches, y ∈ x'.2) ∨ ∃ v, y.2 ∈ (s'.node v).log := by
    intro v applied heq hlog
    rw [heq] at hx
    rcases List.mem_append.mp hx with hx | hx
    · exact hold hx
    · obtain rfl := List.mem_singleton.mp hx
      exact Or.inr ⟨v, hlog y hy⟩
  cases a with
  | startElection v =>
    obtain ⟨-, rfl⟩ := step_startElection h
    exact hold hx
  | sendHeartbeat v =>
    obtain ⟨-, rfl⟩ := step_sendHeartbeat h
    exact hold hx
  | appendCommand v command =>
    obtain ⟨-, ⟨-, rfl⟩ | ⟨n, hn, rfl⟩⟩ := step_appendCommand h
    all_goals exact hold hx
  | proceed i junk =>
    obtain ⟨v, c, -, hs⟩ := step_proceed h
    rcases batches_proceed hs with heq | ⟨applied, heq, hlog⟩
    · exact hold (heq ▸ hx)
    · exact hnew v applied heq hlog
  | receive r =>
    obtain ⟨v, q, hr, rfl⟩ := step_receive h
    cases q with
    | vote args => exact hold hx
    | append args =>
      refine hnew v _ rfl fun z hz => ?_
      have hlog := RaftNode.mem_log_of_mem_drained (.appendEntries args) hz
      simpa [receiveRequest, addBatch, setNode, RaftNode.after] using hlog
  | answer i k junk =>
    obtain ⟨v, c, r, reply, -, -, -, hs⟩ := step_answer h
    exact hold ((sent_answer hs).2 ▸ hx)
  | drop i =>
    obtain ⟨v, c, -, hs⟩ := step_drop h
    exact hold ((sent_drop hs).2 ▸ hx)
  | deliver b =>
    obtain ⟨v, index, entry, rest, hb, rfl⟩ := step_deliver h
    rcases List.mem_or_eq_of_mem_set hx with hx | rfl
    · exact hold hx
    · exact Or.inl ⟨_, List.mem_of_getElem? hb, List.mem_cons_of_mem _ hy⟩
  | onApply v =>
    obtain ⟨-, rfl⟩ := step_onApply h
    refine hnew v _ rfl fun z hz => ?_
    obtain ⟨w, hw, rfl⟩ := List.mem_map.mp hz
    exact List.mem_of_mem_take (List.fst_mem_of_mem_zipIdx hw)
  | restart v =>
    obtain ⟨-, rfl⟩ := step_restart h
    obtain ⟨x', hx', rfl⟩ := List.mem_map.mp hx
    split_ifs at hy
    · simp at hy
    · exact Or.inl ⟨x', hx', hy⟩

/-! ## Every command -/

/-- Every command in a log, a request or a batch meets `P`, and the files hold the logs. -/
structure AllCommands (P : String → Prop) (s : Cluster) : Prop where
  log : ∀ v, ∀ e ∈ (s.node v).log, P e.command
  saved : ∀ v, (s.node v).Saved
  sent : ∀ p args, (p, .append args) ∈ s.sent → ∀ e ∈ args.entries, P e.command
  batch : ∀ x ∈ s.batches, ∀ y ∈ x.2, P y.2.command

variable {P Q : String → Prop}

theorem allCommands_init (peers : List NodeId) : AllCommands P (init peers) where
  log := by simp [init]
  saved v := ⟨rfl, rfl, rfl⟩
  sent := by simp [init]
  batch := by simp [init]

theorem AllCommands.mono (h : AllCommands P s) (hPQ : ∀ c, P c → Q c) : AllCommands Q s where
  log v e he := hPQ _ (h.log v e he)
  saved := h.saved
  sent p args hx e he := hPQ _ (h.sent p args hx e he)
  batch x hx y hy := hPQ _ (h.batch x hx y hy)

/-- What holds of the command an action appends, if any, holds of all. -/
theorem AllCommands.step {a : Action} (h : AllCommands P s)
    (ha : ∀ v command, a = .appendCommand v command → P command) (hs : s.step a = some s') :
    AllCommands P s' := by
  have hnode : ∀ v, (s'.node v).Saved ∧ ∀ e ∈ (s'.node v).log, P e.command := by
    rcases stepsNode hs with heq | ⟨v, n, heq, hn⟩
    · rw [heq]
      exact fun w => ⟨h.saved w, h.log w⟩
    · rw [heq]
      refine (Function.forall_update_iff s.node fun _ n =>
        n.Saved ∧ ∀ e ∈ n.log, P e.command).mpr ⟨?_, fun w _ => ⟨h.saved w, h.log w⟩⟩
      obtain ⟨hsaved, hlog⟩ := hn (h.saved v)
      refine ⟨hsaved, fun e he => ?_⟩
      rcases hlog e he with he | hcmd | ⟨args, hx, he⟩
      · exact h.log v e he
      · exact ha v _ hcmd
      · exact h.sent v args hx e he
  refine ⟨fun v => (hnode v).2, fun v => (hnode v).1, fun p args hx e he => ?_, fun x hx y hy => ?_⟩
  · rcases mem_sent hs hx with hx | ⟨v, hv⟩
    · exact h.sent p args hx e he
    · exact h.log v e (hv args rfl e he)
  · rcases mem_batches hs hx hy with ⟨x', hx', hy⟩ | ⟨v, hv⟩
    · exact h.batch x' hx' y hy
    · exact (hnode v).2 _ hv

/-- `RaftNode::start` on one node. -/
theorem AllCommands.start (h : AllCommands P s) (v : NodeId) :
    AllCommands P (s.setNode v (s.node v).start) := by
  have hnode : ∀ w, ((s.setNode v (s.node v).start).node w).Saved ∧
      ∀ e ∈ ((s.setNode v (s.node v).start).node w).log, P e.command := by
    refine (Function.forall_update_iff s.node fun _ n =>
      n.Saved ∧ ∀ e ∈ n.log, P e.command).mpr ⟨?_, fun w _ => ⟨h.saved w, h.log w⟩⟩
    refine ⟨RaftNode.saved_after (h.saved v) .start, fun e he => ?_⟩
    rcases RaftNode.mem_log_after .start (h.saved v) he with he | he
    · exact h.log v e he
    · simp [RaftNode.brought] at he
  exact ⟨fun w => (hnode w).2, fun w => (hnode w).1, h.sent, h.batch⟩

end Cluster

end BoostGateway.Raft
