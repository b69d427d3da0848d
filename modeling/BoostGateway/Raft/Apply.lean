import BoostGateway.Raft.History

/-!
# What the apply callback sees

A node between two restarts with one apply callback. Entries are drained under the
mutex and handed to the callback after it is released (`raft.cpp:356-376`), so any
number of drained batches may be under way at a time, in any order, and the
callback may itself call `append_command`, whose batch is then delivered before the
rest of the batch it was called from.

The indices arrive as `1, 2, 3, …` where no batch overtakes an older one and no
conflict with the entry before a request takes `last_applied_` back
(`raft.cpp:431-443`) : `applied_in_order`. Both happen in general.
-/

namespace BoostGateway.Raft

/-- A node with its drained batches, oldest first, and what the callback got. -/
structure Applying where
  node : RaftNode
  batches : List Applied
  delivered : Applied := []

/-- A section, or a delivery. -/
inductive ApplyEvent
  /-- A locked section; what it drains becomes a batch. -/
  | locked (e : NodeEvent)
  /-- The callback gets the next entry of a batch. -/
  | deliver (b : ℕ)
  deriving DecidableEq

namespace Applying

/-- The constructor on a file, then `on_apply`. -/
def init (nodeId : NodeId) (peers : List NodeId) (file : Option PersistentState) : Applying :=
  let node := ({ nodeId := nodeId, peers := peers, file := file } : RaftNode).restart
  { node := node, batches := [node.onApply] }

def step (s : Applying) : ApplyEvent → Option Applying
  | .locked e =>
    if e = .restart then none
    else
      let (n, applied) := s.node.after e
      some { s with node := n, batches := s.batches ++ [applied] }
  | .deliver b =>
    match s.batches[b]? with
    | some (x :: rest) =>
      some { s with batches := s.batches.set b rest, delivered := s.delivered ++ [x] }
    | _ => none

/-- The states reached by events that meet `ok`. -/
abbrev Reaches (ok : Applying → ApplyEvent → Prop) : Applying → Prop :=
  BoostGateway.Reaches (fun s => ∃ nodeId peers file, s = init nodeId peers file) step ok

/-- The callback got the indices `1, 2, 3, …`, each once and in this order. -/
def InOrder (s : Applying) : Prop :=
  s.delivered.map Prod.fst = List.range' 1 s.delivered.length

end Applying

/-- The request makes the node cut its log, and `last_applied_` with it. -/
def RaftNode.Rewinds (n : RaftNode) (args : AppendEntriesArgs) : Prop :=
  n.currentTerm ≤ args.term ∧ args.prevLogIndex ≤ n.log.length ∧ prevConflict n.log args ∧
    min n.commitIndex (args.prevLogIndex - 1) < n.lastApplied

/-- No batch overtakes an older one and no request takes `last_applied_` back. -/
def Orderly (s : Applying) : ApplyEvent → Prop
  | .locked (.appendEntries args) => ¬s.node.Rewinds args
  | .locked _ => True
  | .deliver b => ∀ batch ∈ s.batches.take b, batch = []

instance (n : RaftNode) (args : AppendEntriesArgs) : Decidable (n.Rewinds args) :=
  inferInstanceAs (Decidable (_ ∧ _ ∧ _ ∧ _))

instance (s : Applying) (e : ApplyEvent) : Decidable (Orderly s e) := by
  unfold Orderly
  split <;> infer_instance

instance (s : Applying) : Decidable s.InOrder := inferInstanceAs (Decidable (_ = _))

/-! ## Draining -/

namespace RaftNode

/-- The entries an event drains are those `last_applied_` passes. -/
def Drains (n n' : RaftNode) (applied : Applied) : Prop :=
  ∃ m, n'.lastApplied = n.lastApplied + m ∧
    applied.map Prod.fst = List.range' (n.lastApplied + 1) m

variable {n : RaftNode}

theorem drains_nil {n' : RaftNode} (h : n'.lastApplied = n.lastApplied) : Drains n n' [] :=
  ⟨0, h, rfl⟩

theorem drains_handleAppendEntries {args : AppendEntriesArgs} (h : ¬n.Rewinds args) :
    Drains n (n.handleAppendEntries args).1 (n.handleAppendEntries args).2.2 := by
  rcases handleAppendEntries_cases n args with
    ⟨-, heq⟩ | ⟨hle, ⟨-, heq⟩ | ⟨hlen, hconf, heq⟩ | ⟨-, -, m, batch, heq, -, hfst, -⟩⟩
  · rw [heq]
    exact drains_nil rfl
  · obtain ⟨-, -, -, -, -, -, ha⟩ := acceptLeader_spec hle
    rw [heq]
    exact drains_nil ha
  · obtain ⟨-, -, -, hl, -, hc, ha⟩ := acceptLeader_spec hle
    have hkeep : n.lastApplied ≤ min n.commitIndex (args.prevLogIndex - 1) :=
      not_lt.mp fun hlt => h ⟨hle, hlen, hconf, hlt⟩
    rw [heq]
    refine drains_nil ?_
    simp only [truncate, persistStateLocked_lastApplied, hl, hc, ha, List.length_take]
    split_ifs <;> omega
  · rw [heq]
    exact ⟨m, rfl, hfst⟩

theorem drains_appendCommandFinish {n' : RaftNode} {k junk : ℕ} {applied : Applied}
    (hn : n.appendCommandFinish k junk = some (n', applied)) : Drains n n' applied := by
  obtain ⟨m, batch, heq, -, hfst, -⟩ := drain_spec (n.updateCommitIndexLocked junk)
  have hla : (n.updateCommitIndexLocked junk).lastApplied = n.lastApplied := by
    simp only [updateCommitIndexLocked]
    split_ifs <;> rfl
  simp only [appendCommandFinish, heq] at hn
  split_ifs at hn
  obtain ⟨rfl, rfl⟩ := Prod.mk.inj (Option.some_inj.mp hn)
  rw [hla] at hfst
  exact ⟨m, by rw [persistStateLocked_lastApplied, hla], hfst⟩

theorem drains_after {e : NodeEvent} (hr : e ≠ .restart)
    (h : ∀ args, e = .appendEntries args → ¬n.Rewinds args) :
    Drains n (n.after e).1 (n.after e).2 := by
  cases e with
  | startElection => exact drains_nil rfl
  | electionReply args reply =>
    refine drains_nil ?_
    simp only [after, startElectionReply]
    split_ifs <;> rfl
  | electionFinish =>
    refine drains_nil ?_
    simp only [after, startElectionFinish]
    split_ifs <;> rfl
  | heartbeatReply peer reply junk =>
    refine drains_nil ?_
    simp only [after, sendHeartbeatReply, updateCommitIndexLocked]
    split_ifs <;> rfl
  | appendCommand command =>
    refine drains_nil ?_
    simp only [after, appendCommand]
    split_ifs <;> rfl
  | appendReply peer reply =>
    refine drains_nil ?_
    simp only [after, appendCommandReply]
    split_ifs <;> rfl
  | appendFinish successes junk =>
    rw [after]
    cases hn : n.appendCommandFinish successes junk with
    | none => exact drains_nil rfl
    | some p => exact drains_appendCommandFinish hn
  | requestVote args =>
    refine drains_nil ?_
    simp only [after, handleRequestVote, observeTerm]
    split_ifs <;> rfl
  | appendEntries args => exact drains_handleAppendEntries (h args rfl)
  | start =>
    refine drains_nil ?_
    simp only [after, RaftNode.start]
    split_ifs <;> rfl
  | restart => exact absurd rfl hr

end RaftNode

/-! ## The order of the indices -/

/-- What was delivered and what is under way are the indices up to `last_applied_`. -/
def ApplyInv (s : Applying) : Prop :=
  (s.delivered ++ s.batches.flatten).map Prod.fst = List.range' 1 s.node.lastApplied

theorem ApplyInv.inOrder {s : Applying} (h : ApplyInv s) : s.InOrder := by
  have htake := congrArg (List.take s.delivered.length) h
  rw [List.map_append, List.take_left' (by simp)] at htake
  have hlen := congrArg List.length h
  rw [List.length_map, List.length_append, List.length_range'] at hlen
  rw [Applying.InOrder, htake]
  refine List.ext_getElem (by simp; omega) fun i h1 h2 => ?_
  simp

theorem applyInv_init (nodeId : NodeId) (peers : List NodeId) (file : Option PersistentState) :
    ApplyInv (Applying.init nodeId peers file) := by
  set n := ({ nodeId := nodeId, peers := peers, file := file } : RaftNode).restart with hn
  have hle : n.lastApplied ≤ n.log.length := by
    rw [hn, RaftNode.restart, RaftNode.loadPersistentState]
    cases file with
    | none => simp
    | some f =>
      simp only
      split_ifs <;> omega
  have hmap : n.onApply.map Prod.fst = List.range' 1 n.lastApplied := by
    rw [RaftNode.onApply, List.map_map]
    refine List.ext_getElem (by simp [hle]) fun i h1 h2 => ?_
    simp [Nat.add_comm]
  change (([] : Applied) ++ [n.onApply].flatten).map Prod.fst = List.range' 1 n.lastApplied
  simpa using hmap

theorem ApplyInv.step {s s' : Applying} {e : ApplyEvent} (h : ApplyInv s) (he : Orderly s e)
    (hs : s.step e = some s') : ApplyInv s' := by
  cases e with
  | locked e =>
    simp only [Applying.step] at hs
    split_ifs at hs with hr
    obtain rfl := Option.some_inj.mp hs
    obtain ⟨m, hla, hfst⟩ := RaftNode.drains_after hr fun args heq => by
      subst heq
      exact he
    unfold ApplyInv at *
    simp only [List.flatten_append, List.flatten_singleton, ← List.append_assoc,
      List.map_append, hfst, hla] at *
    rw [h, Nat.add_comm s.node.lastApplied 1, List.range'_append_1]
  | deliver b =>
    simp only [Applying.step] at hs
    split at hs
    · rename_i x rest hb
      obtain rfl := Option.some_inj.mp hs
      obtain ⟨hlt, hget⟩ := List.getElem?_eq_some_iff.mp hb
      have hempty : (s.batches.take b).flatten = [] := List.flatten_eq_nil_iff.mpr he
      have hsplit : s.batches = s.batches.take b ++ (x :: rest) :: s.batches.drop (b + 1) := by
        rw [← hget, List.getElem_cons_drop, List.take_append_drop]
      have hset : s.batches.set b rest = s.batches.take b ++ rest :: s.batches.drop (b + 1) := by
        rw [List.set_eq_take_append_cons_drop, if_pos hlt]
      unfold ApplyInv at *
      rw [hsplit] at h
      simp only [hset]
      simpa [hempty] using h
    · simp at hs

theorem applied_in_order {s : Applying} (h : Applying.Reaches Orderly s) : s.InOrder := by
  have hi : ApplyInv s := by
    refine h.invariant ?_ fun s e s' hi he hs => hi.step he hs
    rintro s ⟨nodeId, peers, file, rfl⟩
    exact applyInv_init nodeId peers file
  exact hi.inOrder

/-- A cluster of one node takes two commands. -/
def twoCommands : List ApplyEvent :=
  [.locked .start, .locked (.appendCommand "x"), .locked (.appendFinish 1 0),
    .locked (.appendCommand "y"), .locked (.appendFinish 1 0)]

theorem applied_in_order_twoCommands : ∃ s, Applying.Reaches Orderly s ∧
    s.delivered = [(1, ⟨1, "x"⟩), (2, ⟨1, "y"⟩)] ∧ s.InOrder := by
  obtain ⟨s, hr, hd⟩ : ∃ s, Applying.Reaches Orderly s ∧
      s.delivered = [(1, ⟨1, "x"⟩), (2, ⟨1, "y"⟩)] :=
    Reaches.exists_runWith (.init ⟨"a", ["a"], none, rfl⟩)
      (twoCommands ++ ([.deliver 3, .deliver 5] : List ApplyEvent)) (by decide +kernel)
  exact ⟨s, hr, hd, applied_in_order hr⟩

/-- The thread of the second command is faster. -/
theorem not_applied_in_order_twoCommands : ∃ s, Applying.Reaches (fun _ _ => True) s ∧
    s.delivered = [(2, ⟨1, "y"⟩), (1, ⟨1, "x"⟩)] ∧ ¬s.InOrder := by
  exact Reaches.exists_runWith (.init ⟨"a", ["a"], none, rfl⟩)
    (twoCommands ++ ([.deliver 5, .deliver 3] : List ApplyEvent)) (by decide +kernel)

end BoostGateway.Raft
