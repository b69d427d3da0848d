import Mathlib.Logic.Function.Basic
import BoostGateway.Base.Run
import BoostGateway.Raft.Node

/-!
# A cluster of Raft nodes

Nodes with one peers list, and the calls that are under way on them. A call is
suspended between two of its locked sections (`Call`), any number at a time on
every node, and each `Action` is one section, one delivery to an apply callback, or
one move of the network. `rpc_sender_` is a synchronous request/reply : the calling
thread waits for one request (`awaitVote`, `awaitHeartbeat`, `awaitAppend`) and
gets a reply to it or an empty string. A request stays in `sent`, so it may reach
its target at any later time, also when its caller has given up.

A crash may come between any two actions : `restart` drops the calls and the
undelivered batches of the node and runs the constructor on its file. The run keeps
two records, `delivered` (what the apply callbacks got) and `elected` (who ran
`become_leader` in which term). `current_term_` is a 64-bit counter : the election
after term `2 ^ 64 - 1` runs in term 0. `TermsFit` says that an action is no such
election.
-/

namespace BoostGateway.Raft

/-- What a request carries. -/
inductive Request
  | vote (args : RequestVoteArgs)
  | append (args : AppendEntriesArgs)
  deriving DecidableEq

/-- What a reply carries. -/
inductive Reply
  | vote (reply : RequestVoteReply)
  | append (reply : AppendEntriesReply)
  deriving DecidableEq

/-- A call between two of its locked sections. `rest` holds the peers not asked yet
and `req` the position of the request that is waited for. -/
inductive Call
  | election (args : RequestVoteArgs) (rest : List NodeId)
  | awaitVote (args : RequestVoteArgs) (peer : NodeId) (rest : List NodeId) (req : ℕ)
  | heartbeat (rest : List NodeId)
  | awaitHeartbeat (peer : NodeId) (rest : List NodeId) (req : ℕ)
  | append (successes : ℕ) (rest : List NodeId)
  | awaitAppend (successes : ℕ) (peer : NodeId) (rest : List NodeId) (req : ℕ)
  | done
  deriving DecidableEq

/-- The position of the request a call waits for. -/
def Call.waitsFor : Call → Option ℕ
  | .awaitVote _ _ _ req | .awaitHeartbeat _ _ req | .awaitAppend _ _ _ req => some req
  | _ => none

/-- Nodes, messages and calls in progress. -/
structure Cluster where
  peers : List NodeId
  node : NodeId → RaftNode
  /-- The calls that were made, with the node each runs on. -/
  calls : List (NodeId × Call)
  /-- The requests that were sent, with their targets. -/
  sent : List (NodeId × Request)
  /-- The replies, each with the position of its request. -/
  replies : List (ℕ × Reply)
  /-- Drained entries, not yet delivered. -/
  batches : List (NodeId × Applied)
  delivered : List (NodeId × ℕ × LogEntry)
  elected : List (ℕ × NodeId)

/-- What a node or the network does. -/
inductive Action
  | startElection (v : NodeId)
  | sendHeartbeat (v : NodeId)
  | appendCommand (v : NodeId) (command : String)
  /-- The call at position `i` runs its next section or sends its next request. -/
  | proceed (i junk : ℕ)
  /-- The request at position `r` reaches its target. -/
  | receive (r : ℕ)
  /-- The reply at position `k` reaches the call at position `i`. -/
  | answer (i k junk : ℕ)
  /-- The call at position `i` gets an empty string. -/
  | drop (i : ℕ)
  /-- The next entry of the batch at position `b` is delivered. -/
  | deliver (b : ℕ)
  | onApply (v : NodeId)
  | restart (v : NodeId)
  deriving DecidableEq

namespace Cluster

/-- Nodes without a file, no call made. -/
def init (peers : List NodeId) : Cluster where
  peers := peers
  node v := { nodeId := v, peers := peers }
  calls := []
  sent := []
  replies := []
  batches := []
  delivered := []
  elected := []

def setNode (s : Cluster) (v : NodeId) (n : RaftNode) : Cluster :=
  { s with node := Function.update s.node v n }

def setCall (s : Cluster) (i : ℕ) (v : NodeId) (c : Call) : Cluster :=
  { s with calls := s.calls.set i (v, c) }

/-- A new call on `v`. -/
def spawn (s : Cluster) (v : NodeId) (c : Call) : Cluster :=
  { s with calls := s.calls ++ [(v, c)] }

/-- Call `i` on `v` sends a request and goes on as `c` of its position. -/
def send (s : Cluster) (i : ℕ) (v peer : NodeId) (body : Request) (c : ℕ → Call) : Cluster :=
  { s with
    sent := s.sent ++ [(peer, body)]
    calls := s.calls.set i (v, c s.sent.length) }

def addBatch (s : Cluster) (v : NodeId) (applied : Applied) : Cluster :=
  { s with batches := s.batches ++ [(v, applied)] }

@[simp] theorem setNode_node_self (s : Cluster) (v : NodeId) (n : RaftNode) :
    (s.setNode v n).node v = n := Function.update_self ..

@[simp] theorem setNode_self (s : Cluster) (v : NodeId) : s.setNode v (s.node v) = s := by
  simp [setNode]

@[simp] theorem setCall_node (s : Cluster) (i : ℕ) (v : NodeId) (c : Call) :
    (s.setCall i v c).node = s.node := rfl

/-- The next section of a call that waits for no reply. -/
def proceedCall (s : Cluster) (i junk : ℕ) (v : NodeId) : Call → Option Cluster
  | .election args (p :: rest) => some (s.send i v p (.vote args) (.awaitVote args p rest))
  | .election _ [] =>
    let (n, won) := (s.node v).startElectionFinish
    let s := (s.setNode v n).setCall i v .done
    some (if won then { s with elected := s.elected ++ [(n.currentTerm, v)] } else s)
  | .heartbeat (p :: rest) =>
    if (s.node v).state ≠ .leader then some (s.setCall i v .done)
    else some (s.send i v p (.append ((s.node v).makeAppendEntriesFor p)) (.awaitHeartbeat p rest))
  | .heartbeat [] => some (s.setCall i v .done)
  | .append successes (p :: rest) =>
    if (s.node v).state ≠ .leader then some (s.setCall i v .done)
    else some (s.send i v p (.append ((s.node v).makeAppendEntriesFor p))
      (.awaitAppend successes p rest))
  | .append successes [] =>
    match (s.node v).appendCommandFinish successes junk with
    | none => some (s.setCall i v .done)
    | some (n, applied) =>
      some (((s.setNode v n).addBatch v applied).setCall i v (.heartbeat n.targets))
  | .awaitVote .. | .awaitHeartbeat .. | .awaitAppend .. | .done => none

/-- The section of a waiting call after its reply. -/
def answerCall (s : Cluster) (i junk : ℕ) (v : NodeId) : Call → Reply → Option Cluster
  | .awaitVote args _ rest _, .vote reply =>
    let (n, go) := (s.node v).startElectionReply args reply
    some ((s.setNode v n).setCall i v (if go then .election args rest else .done))
  | .awaitHeartbeat p rest _, .append reply =>
    let (n, go) := (s.node v).sendHeartbeatReply p reply junk
    some ((s.setNode v n).setCall i v (if go then .heartbeat rest else .done))
  | .awaitAppend successes p rest _, .append reply =>
    let (n, k) := (s.node v).appendCommandReply p reply successes
    some ((s.setNode v n).setCall i v (k.elim .done fun k => .append k rest))
  | _, _ => none

/-- The section of a waiting call after an empty string. -/
def dropCall (s : Cluster) (i : ℕ) (v : NodeId) : Call → Option Cluster
  | .awaitVote args p rest req => s.answerCall i 0 v (.awaitVote args p rest req) (.vote {})
  | .awaitHeartbeat _ rest _ => some (s.setCall i v (.heartbeat rest))
  | .awaitAppend successes p rest req =>
    s.answerCall i 0 v (.awaitAppend successes p rest req) (.append {})
  | _ => none

/-- A request reaches its target, which answers it. -/
def receiveRequest (s : Cluster) (r : ℕ) (target : NodeId) : Request → Cluster
  | .vote args =>
    let (n, reply) := (s.node target).handleRequestVote args
    { s.setNode target n with replies := s.replies ++ [(r, .vote reply)] }
  | .append args =>
    let (n, reply, applied) := (s.node target).handleAppendEntries args
    { (s.setNode target n).addBatch target applied with
      replies := s.replies ++ [(r, .append reply)] }

/-- One action; `none` when it is not possible. -/
def step (s : Cluster) : Action → Option Cluster
  | .startElection v =>
    if v ∈ s.peers then
      let n := (s.node v).startElection
      some ((s.setNode v n).spawn v (.election n.voteArgs n.targets))
    else none
  | .sendHeartbeat v =>
    if v ∈ s.peers then some (s.spawn v (.heartbeat (s.node v).targets)) else none
  | .appendCommand v command =>
    if v ∈ s.peers then
      match (s.node v).appendCommand command with
      | none => some s
      | some n => some ((s.setNode v n).spawn v (.append 1 n.targets))
    else none
  | .proceed i junk =>
    match s.calls[i]? with
    | none => none
    | some (v, c) => s.proceedCall i junk v c
  | .receive r =>
    match s.sent[r]? with
    | none => none
    | some (target, request) => some (s.receiveRequest r target request)
  | .answer i k junk =>
    match s.calls[i]?, s.replies[k]? with
    | some (v, c), some (r, reply) =>
      if c.waitsFor = some r then s.answerCall i junk v c reply else none
    | _, _ => none
  | .drop i =>
    match s.calls[i]? with
    | none => none
    | some (v, c) => s.dropCall i v c
  | .deliver b =>
    match s.batches[b]? with
    | some (v, (index, entry) :: rest) =>
      some { s with
        batches := s.batches.set b (v, rest)
        delivered := s.delivered ++ [(v, index, entry)] }
    | _ => none
  | .onApply v =>
    if v ∈ s.peers then some (s.addBatch v (s.node v).onApply) else none
  | .restart v =>
    if v ∈ s.peers then
      some { s.setNode v (s.node v).restart with
        calls := s.calls.map fun c => if c.1 = v then (v, .done) else c
        batches := s.batches.map fun b => if b.1 = v then (v, []) else b }
    else none

/-! ## What each action needs and does -/

variable {s s' : Cluster} {v : NodeId} {i junk : ℕ}

theorem step_startElection (h : s.step (.startElection v) = some s') : v ∈ s.peers ∧
    s' = (s.setNode v (s.node v).startElection).spawn v
      (.election (s.node v).startElection.voteArgs (s.node v).startElection.targets) := by
  simp only [step] at h
  split_ifs at h with hv
  exact ⟨hv, (Option.some_inj.mp h).symm⟩

theorem step_sendHeartbeat (h : s.step (.sendHeartbeat v) = some s') :
    v ∈ s.peers ∧ s' = s.spawn v (.heartbeat (s.node v).targets) := by
  simp only [step] at h
  split_ifs at h with hv
  exact ⟨hv, (Option.some_inj.mp h).symm⟩

theorem step_appendCommand {command : String} (h : s.step (.appendCommand v command) = some s') :
    v ∈ s.peers ∧ ((s.node v).appendCommand command = none ∧ s' = s ∨
      ∃ n, (s.node v).appendCommand command = some n ∧
        s' = (s.setNode v n).spawn v (.append 1 n.targets)) := by
  simp only [step] at h
  split_ifs at h with hv
  refine ⟨hv, ?_⟩
  cases hn : (s.node v).appendCommand command with
  | none =>
    simp only [hn, Option.some_inj] at h
    exact Or.inl ⟨rfl, h.symm⟩
  | some n =>
    simp only [hn, Option.some_inj] at h
    exact Or.inr ⟨n, rfl, h.symm⟩

theorem step_proceed (h : s.step (.proceed i junk) = some s') :
    ∃ v c, s.calls[i]? = some (v, c) ∧ s.proceedCall i junk v c = some s' := by
  simp only [step] at h
  cases hi : s.calls[i]? with
  | none => simp [hi] at h
  | some vc =>
    simp only [hi] at h
    exact ⟨vc.1, vc.2, rfl, h⟩

/-- What the next section of a call on `v` does. -/
inductive Proceeds (s : Cluster) (i junk : ℕ) (v : NodeId) : Call → Cluster → Prop
  | vote (args : RequestVoteArgs) (p : NodeId) (rest : List NodeId) :
      Proceeds s i junk v (.election args (p :: rest))
        (s.send i v p (.vote args) (.awaitVote args p rest))
  | won (args : RequestVoteArgs) :
      (s.node v).state = .candidate ∧ (s.node v).quorumSize ≤ (s.node v).votesReceived →
      Proceeds s i junk v (.election args [])
        { (s.setNode v (s.node v).becomeLeader).setCall i v .done with
          elected := s.elected ++ [((s.node v).becomeLeader.currentTerm, v)] }
  | ends (c : Call) : Proceeds s i junk v c (s.setCall i v .done)
  /-- A leader sends its entries to the next peer. -/
  | entries (p : NodeId) (rest : List NodeId) {c : Call} {c' : ℕ → Call} :
      (s.node v).state = .leader →
      (c = .heartbeat (p :: rest) ∧ c' = .awaitHeartbeat p rest ∨
        ∃ k, c = .append k (p :: rest) ∧ c' = .awaitAppend k p rest) →
      Proceeds s i junk v c
        (s.send i v p (.append ((s.node v).makeAppendEntriesFor p)) c')
  | counted {k : ℕ} {n : RaftNode} {applied : Applied} :
      (s.node v).appendCommandFinish k junk = some (n, applied) →
      Proceeds s i junk v (.append k [])
        (((s.setNode v n).addBatch v applied).setCall i v (.heartbeat n.targets))

theorem proceedCall_cases {c : Call} (h : s.proceedCall i junk v c = some s') :
    Proceeds s i junk v c s' := by
  cases c with
  | election args rest =>
    cases rest with
    | nil =>
      by_cases hwon : (s.node v).state = .candidate ∧
          (s.node v).quorumSize ≤ (s.node v).votesReceived
      · simp only [proceedCall, RaftNode.startElectionFinish, if_pos hwon, if_true] at h
        exact Option.some_inj.mp h ▸ .won args hwon
      · simp only [proceedCall, RaftNode.startElectionFinish, if_neg hwon, Bool.false_eq_true,
          if_false, setNode_self] at h
        exact Option.some_inj.mp h ▸ .ends _
    | cons p rest => exact Option.some_inj.mp h ▸ .vote args p rest
  | heartbeat rest =>
    cases rest with
    | nil => exact Option.some_inj.mp h ▸ .ends _
    | cons p rest =>
      simp only [proceedCall] at h
      split_ifs at h with hlead
      · exact Option.some_inj.mp h ▸ .ends _
      · exact Option.some_inj.mp h ▸ .entries p rest (not_not.mp hlead) (.inl ⟨rfl, rfl⟩)
  | append k rest =>
    cases rest with
    | nil =>
      simp only [proceedCall] at h
      split at h
      · exact Option.some_inj.mp h ▸ .ends _
      · rename_i n applied hn
        exact Option.some_inj.mp h ▸ .counted hn
    | cons p rest =>
      simp only [proceedCall] at h
      split_ifs at h with hlead
      · exact Option.some_inj.mp h ▸ .ends _
      · exact Option.some_inj.mp h ▸ .entries p rest (not_not.mp hlead) (.inr ⟨k, rfl, rfl⟩)
  | awaitVote | awaitHeartbeat | awaitAppend | done => cases h

theorem step_receive {r : ℕ} (h : s.step (.receive r) = some s') :
    ∃ v q, s.sent[r]? = some (v, q) ∧ s' = s.receiveRequest r v q := by
  simp only [step] at h
  cases hr : s.sent[r]? with
  | none => simp [hr] at h
  | some vq =>
    simp only [hr, Option.some_inj] at h
    exact ⟨vq.1, vq.2, rfl, h.symm⟩

theorem step_answer {k : ℕ} (h : s.step (.answer i k junk) = some s') :
    ∃ v c r reply, s.calls[i]? = some (v, c) ∧ s.replies[k]? = some (r, reply) ∧
      c.waitsFor = some r ∧ s.answerCall i junk v c reply = some s' := by
  simp only [step] at h
  cases hi : s.calls[i]? with
  | none => simp [hi] at h
  | some vc =>
    cases hk : s.replies[k]? with
    | none => simp [hi, hk] at h
    | some ry =>
      simp only [hi, hk] at h
      split_ifs at h with hr
      exact ⟨vc.1, vc.2, ry.1, ry.2, rfl, rfl, hr, h⟩

theorem step_drop (h : s.step (.drop i) = some s') :
    ∃ v c, s.calls[i]? = some (v, c) ∧ s.dropCall i v c = some s' := by
  simp only [step] at h
  cases hi : s.calls[i]? with
  | none => simp [hi] at h
  | some vc =>
    simp only [hi] at h
    exact ⟨vc.1, vc.2, rfl, h⟩

theorem step_deliver {b : ℕ} (h : s.step (.deliver b) = some s') :
    ∃ v index entry rest, s.batches[b]? = some (v, (index, entry) :: rest) ∧
      s' = { s with
        batches := s.batches.set b (v, rest)
        delivered := s.delivered ++ [(v, index, entry)] } := by
  simp only [step] at h
  split at h
  · rename_i v index entry rest hb
    exact ⟨v, index, entry, rest, hb, (Option.some_inj.mp h).symm⟩
  · simp at h

theorem step_onApply (h : s.step (.onApply v) = some s') :
    v ∈ s.peers ∧ s' = s.addBatch v (s.node v).onApply := by
  simp only [step] at h
  split_ifs at h with hv
  exact ⟨hv, (Option.some_inj.mp h).symm⟩

theorem step_restart (h : s.step (.restart v) = some s') : v ∈ s.peers ∧
    s' = { s.setNode v (s.node v).restart with
      calls := s.calls.map fun c => if c.1 = v then (v, .done) else c
      batches := s.batches.map fun b => if b.1 = v then (v, []) else b } := by
  simp only [step] at h
  split_ifs at h with hv
  exact ⟨hv, (Option.some_inj.mp h).symm⟩

/-- The states reached from the initial one by actions that meet `ok`. -/
abbrev Reaches (peers : List NodeId) (ok : Cluster → Action → Prop) : Cluster → Prop :=
  BoostGateway.Reaches (· = init peers) step ok

/-- No election wraps the term. -/
def TermsFit (s : Cluster) : Action → Prop
  | .startElection v => (s.node v).currentTerm + 1 < 2 ^ 64
  | _ => True

instance (s : Cluster) (a : Action) : Decidable (s.TermsFit a) := by
  unfold TermsFit
  split <;> infer_instance

/-- The states reached by any actions. -/
abbrev Reachable (peers : List NodeId) : Cluster → Prop := Reaches peers fun _ _ => True

end Cluster

end BoostGateway.Raft
