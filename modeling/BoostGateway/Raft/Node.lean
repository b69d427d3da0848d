import Mathlib.Algebra.Group.Nat.Defs
import Mathlib.Data.List.AList
import Mathlib.Data.List.Sort
import BoostGateway.Base.TermLog

/-!
# One Raft node

The state of `v3::cluster::RaftNode` (`raft.h`) and its mutex-protected sections
(`raft.cpp`), each a function on `RaftNode`. A call that releases the mutex around
an RPC is several sections : `startElection`, `startElectionReply` and
`startElectionFinish` for `start_election` (`raft.cpp:169-218`), and likewise for
`send_heartbeat` (`raft.cpp:220-263`) and `append_command` (`raft.cpp:480-552`).

`file` is the document `persist_state_locked` last wrote. Election deadlines,
callbacks other than the apply callback, and the audit log are left out : no
section reads them back. Counters are natural numbers; the one place where an
outside value can make a 64-bit counter wrap is `current_term_++`, which
`startElection` keeps modulo `2 ^ 64`.
-/

namespace BoostGateway.Raft

/-- The id of a node. -/
abbrev NodeId := String

/-- `next_index_` and `match_index_`. -/
abbrev IndexMap := AList fun _ : NodeId => ℕ

/-- The role of a node. -/
inductive RaftState
  | follower
  | candidate
  | leader
  deriving DecidableEq, Repr

/-- An entry of the log. -/
structure LogEntry where
  term : ℕ
  command : String
  deriving DecidableEq, Repr

instance : Termed LogEntry := ⟨LogEntry.term⟩

/-- A request for a vote. -/
structure RequestVoteArgs where
  term : ℕ
  candidateId : NodeId
  lastLogTerm : ℕ
  lastLogIndex : ℕ
  deriving DecidableEq

/-- The answer to it. -/
structure RequestVoteReply where
  term : ℕ := 0
  voteGranted : Bool := false
  deriving DecidableEq

/-- Entries from a leader. -/
structure AppendEntriesArgs where
  term : ℕ
  leaderId : NodeId
  prevLogIndex : ℕ
  prevLogTerm : ℕ
  entries : List LogEntry
  leaderCommit : ℕ
  deriving DecidableEq

/-- The answer to them. -/
structure AppendEntriesReply where
  term : ℕ := 0
  success : Bool := false
  matchIndex : ℕ := 0
  deriving DecidableEq

/-- The fields `persist_state_locked` writes. -/
structure PersistentState where
  currentTerm : ℕ
  votedFor : Option NodeId
  leaderId : NodeId
  commitIndex : ℕ
  lastApplied : ℕ
  log : List LogEntry
  deriving DecidableEq

/-- A node in memory, with its file. -/
structure RaftNode where
  nodeId : NodeId
  peers : List NodeId
  currentTerm : ℕ := 0
  votedFor : Option NodeId := none
  state : RaftState := .follower
  leaderId : NodeId := ""
  log : List LogEntry := []
  votesReceived : ℕ := 0
  commitIndex : ℕ := 0
  lastApplied : ℕ := 0
  nextIndex : IndexMap := ∅
  matchIndex : IndexMap := ∅
  file : Option PersistentState := none
  deriving DecidableEq

/-- Indices with the entries handed to the apply callback. -/
abbrev Applied := List (ℕ × LogEntry)

/-- `last_log_term_of`. -/
def lastLogTermOf (log : List LogEntry) : ℕ :=
  match log.getLast? with
  | none => 0
  | some e => e.term

theorem lastLogTermOf_eq (log : List LogEntry) : lastLogTermOf log = TermLog.lastTerm log := by
  unfold lastLogTermOf TermLog.lastTerm
  cases log.getLast? <;> rfl

namespace RaftNode

variable (n : RaftNode)

/-- `quorum_size`. -/
def quorumSize : ℕ := n.peers.length / 2 + 1

/-- The peers a call sends to : all but the node itself. -/
def targets : List NodeId := n.peers.filter (· ≠ n.nodeId)

/-- The document of `persist_state_locked` (`raft.cpp:604-626`). -/
def persistent : PersistentState where
  currentTerm := n.currentTerm
  votedFor := n.votedFor
  leaderId := n.leaderId
  commitIndex := n.commitIndex
  lastApplied := n.lastApplied
  log := n.log

/-- A successful write of the state file. -/
def persistStateLocked : RaftNode := { n with file := some n.persistent }

/-- `load_persistent_state` on a parsed document (`raft.cpp:562-602`). -/
def loadPersistentState : RaftNode :=
  match n.file with
  | none => n
  | some f =>
    let commit := if f.log.length < f.commitIndex then f.log.length else f.commitIndex
    { n with
      currentTerm := f.currentTerm
      votedFor := f.votedFor
      leaderId := f.leaderId
      commitIndex := commit
      lastApplied := if commit < f.lastApplied then commit else f.lastApplied
      log := f.log
      state := .follower }

/-- The constructor, on the file the previous process left. -/
def restart : RaftNode :=
  ({ nodeId := n.nodeId, peers := n.peers, file := n.file } : RaftNode).loadPersistentState

/-- `become_follower` (`raft.cpp:265-284`). -/
def becomeFollower (term : ℕ) : RaftNode :=
  { n with
    state := .follower
    currentTerm := term
    votedFor := none
    votesReceived := 0
    nextIndex := ∅
    matchIndex := ∅
    leaderId := "" }.persistStateLocked

/-- The loop of `become_leader` that gives every other peer the index `i`. -/
def initIndex (i : ℕ) : IndexMap :=
  n.targets.foldl (fun m p => m.insert p i) ∅

/-- `become_leader` (`raft.cpp:286-304`). -/
def becomeLeader : RaftNode :=
  { n with
    state := .leader
    leaderId := n.nodeId
    nextIndex := n.initIndex (n.log.length + 1)
    matchIndex := n.initIndex 0 }.persistStateLocked

/-- The locked part of `start` : a cluster of one leads at once (`raft.cpp:37-46`). -/
def start : RaftNode :=
  if n.peers = [n.nodeId] then
    becomeLeader { n with currentTerm := if n.currentTerm = 0 then 1 else n.currentTerm }
  else n

/-- `is_log_up_to_date`. -/
def isLogUpToDate (candidateLastLogTerm candidateLastLogIndex : ℕ) : Bool :=
  if candidateLastLogTerm ≠ lastLogTermOf n.log then
    lastLogTermOf n.log < candidateLastLogTerm
  else n.log.length ≤ candidateLastLogIndex

/-! ## Elections -/

/-- The first section of `start_election`, with the new value of `current_term_`. -/
def startElectionAt (term : ℕ) : RaftNode :=
  { n with
    currentTerm := term
    votedFor := some n.nodeId
    votesReceived := 1
    state := .candidate
    leaderId := "" }.persistStateLocked

/-- The first section of `start_election`; `current_term_` is a 64-bit counter. -/
def startElection : RaftNode := n.startElectionAt ((n.currentTerm + 1) % 2 ^ 64)

theorem startElection_eq {n : RaftNode} (h : n.currentTerm + 1 < 2 ^ 64) :
    n.startElection = n.startElectionAt (n.currentTerm + 1) := by
  rw [startElection, Nat.mod_eq_of_lt h]

/-- The request `start_election` sends to every other peer. -/
def voteArgs : RequestVoteArgs where
  term := n.currentTerm
  candidateId := n.nodeId
  lastLogTerm := lastLogTermOf n.log
  lastLogIndex := n.log.length

/-- The section of `start_election` after one peer's answer; `false` when the call
returns there. -/
def startElectionReply (args : RequestVoteArgs) (reply : RequestVoteReply) : RaftNode × Bool :=
  if n.state ≠ .candidate ∨ n.currentTerm ≠ args.term then (n, false)
  else if n.currentTerm < reply.term then (n.becomeFollower reply.term, false)
  else if reply.voteGranted then ({ n with votesReceived := n.votesReceived + 1 }, true)
  else (n, true)

/-- The last section of `start_election`; `true` when it ran `become_leader`. -/
def startElectionFinish : RaftNode × Bool :=
  if n.state = .candidate ∧ n.quorumSize ≤ n.votesReceived then (n.becomeLeader, true)
  else (n, false)

/-- A later term in a request makes the node a follower of that term. -/
def observeTerm (term : ℕ) : RaftNode :=
  if n.currentTerm < term then n.becomeFollower term else n

/-- `handle_request_vote` (`raft.cpp:378-399`). -/
def handleRequestVote (args : RequestVoteArgs) : RaftNode × RequestVoteReply :=
  if args.term < n.currentTerm then (n, ⟨n.currentTerm, false⟩)
  else
    let n := n.observeTerm args.term
    if (n.votedFor = none ∨ n.votedFor = some args.candidateId) ∧
        n.isLogUpToDate args.lastLogTerm args.lastLogIndex then
      ({ n with votedFor := some args.candidateId }.persistStateLocked, ⟨n.currentTerm, true⟩)
    else (n, ⟨n.currentTerm, false⟩)

/-! ## Replication -/

/-- `make_append_entries_for` (`raft.cpp:316-336`). -/
def makeAppendEntriesFor (peer : NodeId) : AppendEntriesArgs :=
  let next := (n.nextIndex.lookup peer).getD (n.log.length + 1)
  let inLog := 1 < next ∧ next - 1 ≤ n.log.length
  { term := n.currentTerm
    leaderId := n.nodeId
    prevLogIndex := if inLog then next - 1 else 0
    prevLogTerm := if inLog then (n.log[next - 2]?.map LogEntry.term).getD 0 else 0
    entries := if 1 ≤ next ∧ next ≤ n.log.length then n.log.drop (next - 1) else []
    leaderCommit := n.commitIndex }

/-- The values `update_commit_index_locked` sorts. -/
def replicated : List ℕ :=
  (n.log.length :: n.matchIndex.entries.map Sigma.snd).insertionSort (· ≤ ·)

/-- `replicated[replicated.size() - quorum_size()]`. The subtraction wraps when fewer
values than a quorum are there; `junk` is what the read past the end gives then. -/
def commitCandidate (junk : ℕ) : ℕ :=
  if n.quorumSize ≤ n.replicated.length then
    n.replicated.getD (n.replicated.length - n.quorumSize) junk
  else junk

/-- `update_commit_index_locked` (`raft.cpp:338-354`). -/
def updateCommitIndexLocked (junk : ℕ) : RaftNode :=
  let candidate := n.commitCandidate junk
  if n.commitIndex < candidate ∧ candidate ≤ n.log.length ∧
      (n.log[candidate - 1]?.map LogEntry.term) = some n.currentTerm then
    { n with commitIndex := candidate }
  else n

/-- The loop of `drain_committed_entries_locked`; a turn raises `last_applied_` by one,
so `commit_index_ - last_applied_` turns are enough. -/
def drainLoop : ℕ → RaftNode → Applied → RaftNode × Applied
  | 0, n, applied => (n, applied)
  | k + 1, n, applied =>
    match n.log[n.lastApplied]? with
    | none => (n, applied)
    | some e =>
      if n.lastApplied < n.commitIndex then
        drainLoop k { n with lastApplied := n.lastApplied + 1 }
          (applied ++ [(n.lastApplied + 1, e)])
      else (n, applied)

/-- `drain_committed_entries_locked` (`raft.cpp:356-366`). -/
def drainCommittedEntriesLocked : RaftNode × Applied :=
  drainLoop (n.commitIndex - n.lastApplied) n []

/-- The loop of `handle_append_entries` over the entries of a request. -/
def appendLoop : List LogEntry → ℕ → List LogEntry → List LogEntry
  | log, _, [] => log
  | log, localIndex, entry :: entries =>
    let log := match log[localIndex]? with
      | some old =>
        if old.term ≠ entry.term ∨ old.command ≠ entry.command then log.take localIndex else log
      | none => log
    let log := if log.length ≤ localIndex then log ++ [entry] else log
    appendLoop log (localIndex + 1) entries

/-- The part of `handle_append_entries` that reacts to the term of the request. -/
def acceptLeader (args : AppendEntriesArgs) : RaftNode :=
  let n :=
    if n.currentTerm < args.term then n.becomeFollower args.term
    else if n.state = .candidate then n.becomeFollower args.term
    else n
  { n with leaderId := args.leaderId }

/-- The entry before the request's first one is there with another term. -/
def prevConflict (log : List LogEntry) (args : AppendEntriesArgs) : Bool :=
  match args.prevLogIndex with
  | 0 => false
  | i + 1 => (log[i]?.map LogEntry.term) ≠ some args.prevLogTerm

/-- The branch of `handle_append_entries` that cuts a conflicting entry off. -/
def truncate (args : AppendEntriesArgs) : RaftNode :=
  let log := n.log.take (args.prevLogIndex - 1)
  let commit := if log.length < n.commitIndex then log.length else n.commitIndex
  { n with
    log := log
    commitIndex := commit
    lastApplied := if commit < n.lastApplied then commit else n.lastApplied }.persistStateLocked

/-- The branch of `handle_append_entries` that takes the entries and the commit index. -/
def takeEntries (args : AppendEntriesArgs) : RaftNode :=
  let log := appendLoop n.log args.prevLogIndex args.entries
  { n with
    log := log
    commitIndex :=
      if n.commitIndex < args.leaderCommit then min args.leaderCommit log.length
      else n.commitIndex }

/-- `handle_append_entries` (`raft.cpp:401-478`). -/
def handleAppendEntries (args : AppendEntriesArgs) : RaftNode × AppendEntriesReply × Applied :=
  if args.term < n.currentTerm then (n, ⟨n.currentTerm, false, n.log.length⟩, [])
  else
    let n := n.acceptLeader args
    if n.log.length < args.prevLogIndex then
      (n, ⟨n.currentTerm, false, n.log.length⟩, [])
    else if prevConflict n.log args then
      let n := n.truncate args
      (n, ⟨n.currentTerm, false, n.log.length⟩, [])
    else
      let (n, applied) := (n.takeEntries args).drainCommittedEntriesLocked
      let n := n.persistStateLocked
      (n, ⟨n.currentTerm, true, n.log.length⟩, applied)

/-- A refused request moves `next_index_` of the peer back by one. -/
def backOff (peer : NodeId) : RaftNode :=
  let next := (n.nextIndex.lookup peer).getD 0
  { n with nextIndex := n.nextIndex.insert peer (if 1 < next then next - 1 else 1) }

/-- An accepted request records what the peer reports. -/
def recordMatch (peer : NodeId) (matchIndex : ℕ) : RaftNode :=
  { n with
    matchIndex := n.matchIndex.insert peer matchIndex
    nextIndex := n.nextIndex.insert peer (matchIndex + 1) }

/-- The section of `send_heartbeat` after one peer's answer; `false` when the call
returns there. -/
def sendHeartbeatReply (peer : NodeId) (reply : AppendEntriesReply) (junk : ℕ) : RaftNode × Bool :=
  if n.currentTerm < reply.term then (n.becomeFollower reply.term, false)
  else if n.state ≠ .leader then (n, false)
  else if reply.success then
    (((n.recordMatch peer reply.matchIndex).updateCommitIndexLocked junk).persistStateLocked, true)
  else (n.backOff peer, true)

/-- The first section of `append_command`; `none` when the node does not lead. -/
def appendCommand (command : String) : Option RaftNode :=
  if n.state ≠ .leader then none
  else
    let log := n.log ++ [⟨n.currentTerm, command⟩]
    some { n with
      log := log
      matchIndex := n.matchIndex.insert n.nodeId log.length }.persistStateLocked

/-- The section of `append_command` after one peer's answer, with the new value of
`successes`; `none` when the call returns there. -/
def appendCommandReply (peer : NodeId) (reply : AppendEntriesReply)
    (successes : ℕ) : RaftNode × Option ℕ :=
  if n.currentTerm < reply.term then (n.becomeFollower reply.term, none)
  else if reply.success then (n.recordMatch peer reply.matchIndex, some (successes + 1))
  else (n.backOff peer, some successes)

/-- The last section of `append_command`; `none` when too few peers answered. -/
def appendCommandFinish (successes junk : ℕ) : Option (RaftNode × Applied) :=
  if successes < n.quorumSize then none
  else
    let (n, applied) := (n.updateCommitIndexLocked junk).drainCommittedEntriesLocked
    some (n.persistStateLocked, applied)

/-- The entries `on_apply` hands to a new callback (`raft.cpp:103-120`). -/
def onApply : Applied :=
  (n.log.take n.lastApplied).zipIdx.map fun x => (x.2 + 1, x.1)

end RaftNode

end BoostGateway.Raft
