import BoostGateway.Base.JsonRoundTrip
import BoostGateway.Raft.History

/-!
# The state file

`persist_state_locked` writes a JSON document, indented by two, and
`load_persistent_state` reads it back (`raft.cpp:562-653`). Reading what was written
gives the term, the vote and the log that were written (`loadFile_fileBytes`); the
two indices are 64-bit numbers. A write is atomic and successful : the file is the
text of the last document.

Every locked section that changes the term, the vote or the log writes the file
before it ends (`saved_after`). With the terms of messages being 64-bit numbers
(`NodeEvent.Fits`), a node that is loaded from its file after any event has the term,
the vote and the log of the memory (`reloads_to_memory`). A section ends before
a request is answered and before an RPC is sent.
-/

namespace BoostGateway.Raft

open Json

variable (floatText : Float → List Char)

/-! ## The document -/

/-- An element of `log` in the document. -/
def LogEntry.document (e : LogEntry) : Json :=
  ofMembers
    [("term", .unsigned (UInt64.ofNat e.term)),
     ("command", .string e.command)]

/-- The document of `persist_state_locked` (`raft.cpp:613-630`). -/
def PersistentState.document (f : PersistentState) : Json :=
  ofMembers
    [("current_term", .unsigned (UInt64.ofNat f.currentTerm)),
     ("voted_for", f.votedFor.elim .null .string),
     ("leader_id", .string f.leaderId),
     ("commit_index", .unsigned (UInt64.ofNat f.commitIndex)),
     ("last_applied", .unsigned (UInt64.ofNat f.lastApplied)),
     ("log", .array (f.log.map LogEntry.document))]

/-- The bytes of the file. -/
def PersistentState.fileBytes (f : PersistentState) : Bytes :=
  encodeUtf8 (f.document.dump floatText (some 2) 0)

/-- An element of `log` as `load_persistent_state` reads it. -/
def LogEntry.ofDocument (doc : Json) : Except TypeError LogEntry := do
  let term ← doc.value getUInt64 "term" 0
  let command ← doc.value getString "command" ""
  return ⟨term.toNat, command⟩

/-- The member `log`, where it is an array. -/
def loadLog (doc : Json) : Except TypeError (List LogEntry) :=
  match doc.find? "log" with
  | some (.array xs) => xs.mapM LogEntry.ofDocument
  | _ => .ok []

/-- The member `voted_for`, where it is a string. -/
def loadVote (doc : Json) : Option NodeId :=
  match doc.find? "voted_for" with
  | some (.string s) => some s
  | _ => none

namespace RaftNode

/-- `load_persistent_state` on a parsed document (`raft.cpp:580-609`). -/
def loadDocument (n : RaftNode) (doc : Json) : Except TypeError RaftNode := do
  let currentTerm ← doc.value getUInt64 "current_term" 0
  let votedFor := loadVote doc
  let leaderId ← doc.value getString "leader_id" ""
  let commitIndex ← doc.value getUInt64 "commit_index" 0
  let lastApplied ← doc.value getUInt64 "last_applied" 0
  let log ← loadLog doc
  let commit := if log.length < commitIndex.toNat then log.length else commitIndex.toNat
  return { n with
    currentTerm := currentTerm.toNat
    votedFor := votedFor
    leaderId := leaderId
    commitIndex := commit
    lastApplied := if commit < lastApplied.toNat then commit else lastApplied.toNat
    log := log
    state := .follower }

/-- `load_persistent_state` on the bytes of the file, where there is one. A file that
does not parse is ignored. -/
def loadFile (n : RaftNode) : Option Bytes → Except TypeError RaftNode
  | none => .ok n
  | some bytes => (parse false bytes).elim (.ok n) n.loadDocument

/-- The constructor of a node with the id, the peers and the file of `n`. -/
def reload (n : RaftNode) : Except TypeError RaftNode :=
  ({ nodeId := n.nodeId, peers := n.peers, file := n.file } : RaftNode).loadFile
    (n.file.map (PersistentState.fileBytes floatText))

end RaftNode

/-! ## Reading back what was written -/

theorem LogEntry.document_eq (e : LogEntry) : e.document = .object
    [("command", .string e.command), ("term", .unsigned (UInt64.ofNat e.term))] := by
  simp +decide [document, ofMembers, insertMember]

theorem PersistentState.document_eq (f : PersistentState) : f.document = .object
    [("commit_index", .unsigned (UInt64.ofNat f.commitIndex)),
     ("current_term", .unsigned (UInt64.ofNat f.currentTerm)),
     ("last_applied", .unsigned (UInt64.ofNat f.lastApplied)),
     ("leader_id", .string f.leaderId),
     ("log", .array (f.log.map LogEntry.document)),
     ("voted_for", f.votedFor.elim .null .string)] := by
  simp +decide [document, ofMembers, insertMember]

theorem plainElems_document (log : List LogEntry) :
    PlainElems (log.map LogEntry.document) := by
  induction log with
  | nil => trivial
  | cons e log ih =>
    refine ⟨?_, ih⟩
    rw [LogEntry.document_eq]
    exact ⟨by simp +decide, trivial, trivial, trivial⟩

theorem PersistentState.plain_document (f : PersistentState) : Plain f.document := by
  have hvote : Plain (f.votedFor.elim .null .string) := by
    cases f.votedFor <;> trivial
  rw [document_eq]
  exact ⟨by simp +decide, trivial, trivial, trivial, trivial, plainElems_document f.log, hvote, trivial⟩

/-- The terms of the state are 64-bit numbers, as they are in the source. -/
structure PersistentState.Fits (f : PersistentState) : Prop where
  term : f.currentTerm < 2 ^ 64
  log : ∀ e ∈ f.log, e.term < 2 ^ 64

/-- The state with its indices cut to 64 bits. -/
def PersistentState.stored (f : PersistentState) : PersistentState :=
  { f with commitIndex := f.commitIndex % 2 ^ 64, lastApplied := f.lastApplied % 2 ^ 64 }

theorem LogEntry.ofDocument_asRead {e : LogEntry} (he : e.term < 2 ^ 64) :
    LogEntry.ofDocument (asRead e.document) = .ok e := by
  have hterm : (UInt64.ofNat e.term).toNat = e.term := UInt64.toNat_ofNat_of_lt' he
  rw [document_eq]
  generalize UInt64.ofNat e.term = t at hterm ⊢
  simp [asRead, asReadMembers, ofDocument, value, find?, getUInt64, getString, hterm, bind,
    Except.bind, pure, Except.pure]

theorem mapM_ofDocument {log : List LogEntry} (hl : ∀ e ∈ log, e.term < 2 ^ 64) :
    (asReadElems (log.map LogEntry.document)).mapM LogEntry.ofDocument = .ok log := by
  induction log with
  | nil => rfl
  | cons e log ih =>
    have he : e.term < 2 ^ 64 := hl e List.mem_cons_self
    rw [List.map_cons, asReadElems, List.mapM_cons, LogEntry.ofDocument_asRead he,
      ih fun e he => hl e (List.mem_cons_of_mem _ he)]
    rfl

/-- Reading the written document is `loadPersistentState` on the state. -/
theorem RaftNode.loadDocument_asRead (n : RaftNode) {f : PersistentState} (hf : f.Fits) :
    n.loadDocument (asRead f.document) =
      .ok { ({ n with file := some f.stored } : RaftNode).loadPersistentState with
        file := n.file } := by
  have hlog := mapM_ofDocument hf.log
  have hterm : (UInt64.ofNat f.currentTerm).toNat = f.currentTerm :=
    UInt64.toNat_ofNat_of_lt' hf.term
  rw [PersistentState.document_eq]
  generalize UInt64.ofNat f.currentTerm = t at hterm ⊢
  cases hv : f.votedFor with
  | none =>
    simp [loadDocument, asRead, asReadMembers, value, find?, getUInt64, getString, loadVote, loadLog,
      hlog, hterm, hv, bind, Except.bind, pure, Except.pure, loadPersistentState,
      PersistentState.stored]
  | some c =>
    simp [loadDocument, asRead, asReadMembers, value, find?, getUInt64, getString, loadVote, loadLog,
      hlog, hterm, hv, bind, Except.bind, pure, Except.pure, loadPersistentState,
      PersistentState.stored]

/-- Loading the file that was written for a state is `loadPersistentState` on the state. -/
theorem RaftNode.loadFile_fileBytes (n : RaftNode) {f : PersistentState} (hf : f.Fits) :
    n.loadFile (some (f.fileBytes floatText)) =
      .ok { ({ n with file := some f.stored } : RaftNode).loadPersistentState with
        file := n.file } := by
  rw [loadFile, PersistentState.fileBytes, parse_dump f.plain_document]
  exact n.loadDocument_asRead hf

/-! ## Histories -/

/-- The terms a section gets from outside are 64-bit numbers, as they are in the source. -/
def NodeEvent.Fits : NodeEvent → Prop
  | .electionReply _ reply => reply.term < 2 ^ 64
  | .heartbeatReply _ reply _ => reply.term < 2 ^ 64
  | .appendReply _ reply => reply.term < 2 ^ 64
  | .requestVote args => args.term < 2 ^ 64
  | .appendEntries args => args.term < 2 ^ 64 ∧ ∀ e ∈ args.entries, e.term < 2 ^ 64
  | .startElection | .electionFinish | .appendCommand _ | .appendFinish _ _ | .start
  | .restart => True

instance : (e : NodeEvent) → Decidable e.Fits
  | .electionReply _ reply => Nat.decLt reply.term _
  | .heartbeatReply _ reply _ => Nat.decLt reply.term _
  | .appendReply _ reply => Nat.decLt reply.term _
  | .requestVote args => Nat.decLt args.term _
  | .appendEntries args =>
    @instDecidableAnd _ _ (Nat.decLt args.term _) (List.decidableBAll _ args.entries)
  | .startElection | .electionFinish | .appendCommand _ | .appendFinish _ _ | .start
  | .restart => instDecidableTrue

namespace RaftNode

/-- The terms in memory are 64-bit numbers. -/
structure Fits (n : RaftNode) : Prop where
  term : n.currentTerm < 2 ^ 64
  log : ∀ e ∈ n.log, e.term < 2 ^ 64

variable {n : RaftNode}

theorem SameCore.fits {n' : RaftNode} (hc : SameCore n n') (h : n.Fits) : n'.Fits :=
  ⟨hc.currentTerm ▸ h.term, hc.log ▸ h.log⟩

theorem Fits.withTerm {n' : RaftNode} (h : n.Fits) {T : ℕ} (hT : T < 2 ^ 64)
    (ht : n'.currentTerm = T) (hl : n'.log = n.log) : n'.Fits :=
  ⟨ht ▸ hT, hl ▸ h.log⟩

theorem Fits.reply {n' : RaftNode} (h : n.Fits) {T : ℕ} (hT : T < 2 ^ 64)
    (hr : n' = n.becomeFollower T ∨ SameCore n n') : n'.Fits := by
  rcases hr with rfl | hc
  · exact h.withTerm hT rfl rfl
  · exact hc.fits h

theorem Fits.handleRequestVote (h : n.Fits) {args : RequestVoteArgs}
    (ha : args.term < 2 ^ 64) : (n.handleRequestVote args).1.Fits := by
  have hobs : (n.observeTerm args.term).Fits := by
    unfold observeTerm
    split_ifs
    · exact h.withTerm ha rfl rfl
    · exact h
  rcases handleRequestVote_cases n args with ⟨-, heq⟩ | ⟨-, ⟨-, -, heq⟩ | heq⟩
  · rw [heq]
    exact h
  · rw [heq]
    exact ⟨hobs.term, hobs.log⟩
  · rw [heq]
    exact hobs

theorem Fits.handleAppendEntries (h : n.Fits) {args : AppendEntriesArgs}
    (ha : args.term < 2 ^ 64) (hes : ∀ e ∈ args.entries, e.term < 2 ^ 64) :
    (n.handleAppendEntries args).1.Fits := by
  refine ⟨?_, fun e he => (mem_log_handleAppendEntries he).elim (h.log e) (hes e)⟩
  by_cases hst : args.term < n.currentTerm
  · simp only [RaftNode.handleAppendEntries, if_pos hst]
    exact h.term
  · have hle := not_lt.mp hst
    obtain ⟨-, -, ht, -⟩ := handleAppendEntries_core hle
    obtain ⟨-, -, hterm, -⟩ := acceptLeader_spec hle
    rw [ht, hterm]
    exact ha

/-- Events keep the terms in 64 bits. -/
theorem Fits.after (h : n.Fits) (hs : n.Saved) {e : NodeEvent} (he : e.Fits) :
    (n.after e).1.Fits := by
  cases e with
  | startElection => exact h.withTerm (Nat.mod_lt (n.currentTerm + 1) (by decide)) rfl rfl
  | electionReply args reply =>
    exact h.reply he
      ((startElectionReply_core n args reply).imp_left fun h => congrArg Prod.fst h.2)
  | electionFinish =>
    simp only [RaftNode.after, startElectionFinish]
    split_ifs
    · exact ⟨h.term, h.log⟩
    · exact h
  | heartbeatReply peer reply junk =>
    exact h.reply he
      ((sendHeartbeatReply_core n peer reply junk).imp_left fun h => congrArg Prod.fst h.2)
  | appendCommand command =>
    simp only [RaftNode.after, appendCommand]
    split_ifs
    · exact h
    · refine ⟨h.term, fun e he => ?_⟩
      rcases List.mem_append.mp he with he | he
      · exact h.log e he
      · rw [List.mem_singleton.mp he]
        exact h.term
  | appendReply peer reply =>
    exact h.reply he
      ((appendCommandReply_core n peer reply 1).imp_left fun h => congrArg Prod.fst h.2)
  | appendFinish successes junk =>
    rw [RaftNode.after]
    cases hn : n.appendCommandFinish successes junk with
    | none => exact h
    | some p => exact (appendCommandFinish_core hn).fits h
  | requestVote args => exact h.handleRequestVote he
  | appendEntries args => exact h.handleAppendEntries he.1 he.2
  | start =>
    simp only [RaftNode.after, RaftNode.start]
    split_ifs with h1 h2
    · exact h.withTerm (T := 1) (by decide) rfl rfl
    · exact ⟨h.term, h.log⟩
    · exact h
  | restart =>
    obtain ⟨-, -, ht, -, hl, -⟩ := restart_spec hs
    exact ⟨ht ▸ h.term, hl ▸ h.log⟩

/-- Loading the file gives the term, the vote and the log of the memory. -/
def ReloadsToMemory (n : RaftNode) : Prop :=
  ∃ m, n.reload floatText = .ok m ∧ m.currentTerm = n.currentTerm ∧ m.votedFor = n.votedFor ∧
    m.log = n.log

theorem Saved.reloadsToMemory (h : n.Saved) (hf : n.Fits) : n.ReloadsToMemory floatText := by
  unfold Saved at h
  unfold ReloadsToMemory reload
  cases hn : n.file with
  | none =>
    rw [hn] at h
    exact ⟨_, rfl, h.1.symm, h.2.1.symm, h.2.2.symm⟩
  | some f =>
    rw [hn] at h
    obtain ⟨ht, hv, hl⟩ := h
    have hfits : f.Fits := ⟨ht ▸ hf.term, hl ▸ hf.log⟩
    rw [Option.map_some, loadFile_fileBytes _ _ hfits]
    exact ⟨_, rfl, ht, hv, hl⟩

end RaftNode

/-- After every event of a node, loading its file gives the term, the vote and the log
that it has in memory. -/
theorem reloads_to_memory {h : History} (hr : History.Reaches (fun _ e => e.Fits) h) :
    h.node.ReloadsToMemory floatText := by
  have hi : h.node.Saved ∧ h.node.Fits := by
    refine hr.invariant (P := fun h => h.node.Saved ∧ h.node.Fits) ?_ ?_
    · rintro h ⟨nodeId, peers, rfl⟩
      exact ⟨⟨rfl, rfl, rfl⟩, by simp, by simp⟩
    · rintro h e h' hi he hs
      rw [← Option.some_inj.mp hs]
      exact ⟨RaftNode.saved_after hi.1 e, hi.2.after hi.1 he⟩
  exact hi.1.reloadsToMemory floatText hi.2

/-- `a` votes for `b`, takes two entries from it, loses one of them to the leader of the
next term, and is restarted. -/
theorem reloads_to_memory_follower : ∃ h, History.Reaches (fun _ e => e.Fits) h ∧
    h.node.currentTerm = 2 ∧ h.node.votedFor = none ∧ h.node.log = [⟨1, "x"⟩] ∧
    h.node.ReloadsToMemory fun _ => [] := by
  have h0 : History.Reaches (fun _ e => e.Fits)
      { node := { nodeId := "a", peers := ["a", "b", "c"] } } := .init ⟨_, _, rfl⟩
  have h1 := h0.step (a := .requestVote ⟨1, "b", 0, 0⟩) (by decide) rfl
  have h2 := h1.step (a := .appendEntries ⟨1, "b", 0, 0, [⟨1, "x"⟩, ⟨1, "y"⟩], 0⟩)
    (by decide) rfl
  have h3 := h2.step (a := .appendEntries ⟨2, "c", 2, 2, [], 0⟩) (by decide) rfl
  have h4 := h3.step (a := .restart) (by decide) rfl
  exact ⟨_, h4, by decide, by decide, by decide, reloads_to_memory _ h4⟩

end BoostGateway.Raft
