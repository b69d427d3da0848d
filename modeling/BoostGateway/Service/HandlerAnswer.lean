import BoostGateway.Raft.Node
import BoostGateway.Service.HandlerPayload
import BoostGateway.Service.TypedResponse

/-!
# What the handlers of the replicated services share

The matchmaking and the leaderboard service send a client to the leader with the text of
`get_leader_hint` in the reason of an error, and answer the calls between their Raft nodes
(`handle_raft_request_vote`, `handle_raft_append_entries`). The hint is the text of an object,
so a redirect to a known leader is never a text that stands for itself (`plainText_redirect`).
-/

namespace BoostGateway.Service

open Json Proto Raft

/-- `RaftNodeId`, a peer in the configuration. -/
structure RaftPeer where
  id : String
  host : String
  port : UInt16
  deriving DecidableEq

/-- `get_leader_hint` of a service with a Raft node. -/
def getLeaderHint (peers : List RaftPeer) (leaderId : String) : String :=
  if leaderId = "" then ""
  else
    match peers.find? (·.id = leaderId) with
    | some peer =>
      "\x7b\"leader_id\":\"" ++ leaderId ++ "\",\"leader_host\":\"" ++ peer.host ++
        "\",\"leader_port\":" ++ toString peer.port.toNat ++ "\x7d"
    | none => "\x7b\"leader_id\":\"" ++ leaderId ++ "\"\x7d"

/-- The reason a follower answers with. -/
def redirectReason (peers : List RaftPeer) (leaderId : String) : String :=
  "not_raft_leader:" ++ getLeaderHint peers leaderId

/-- What a handler finds of the Raft node : that another node leads, or what
`append_command` returns. -/
inductive RaftRole
  | follower (leaderId : String)
  | leader (appended : Bool)
  deriving DecidableEq

/-- What a handler returns. -/
inductive HandlerAnswer
  | response (e : BackendEnvelope)
  /-- `make_error`. -/
  | error (code : Int32) (reason : String)
  /-- `wrap_error_if_needed`. -/
  | wrapped (request : Option TypedEnvelope) (code : Int32) (reason : String)
    (kind : EnvelopeMessageKind)

variable (floatText : Float → List Char)

namespace HandlerAnswer

def envelope : HandlerAnswer → BackendEnvelope
  | .response e => e
  | .error code reason => makeError code reason
  | .wrapped request code reason kind => wrapErrorIfNeeded floatText request code reason kind

/-- Where the answer is an error, the client reads its reason. -/
def ErrorReads (a : HandlerAnswer) : Prop :=
  match a with
  | .response _ => True
  | .error _ reason => ReasonReads (answerDocument none (a.envelope floatText).payload) reason
  | .wrapped request _ reason _ =>
    ReasonReads (answerDocument request (a.envelope floatText).payload) reason

end HandlerAnswer

/-! ## The calls between Raft nodes -/

/-- `parse_request_vote`; `none` where it throws. -/
def parseRequestVote (data : Bytes) : Option RequestVoteArgs := do
  let j ← parse true data
  let term ← (j.value getUInt64 "term" 0).toOption
  let candidateId ← (j.value getString "candidate_id" "").toOption
  let lastLogTerm ← (j.value getUInt64 "last_log_term" 0).toOption
  let lastLogIndex ← (j.value getUInt64 "last_log_index" 0).toOption
  return {
    term := term.toNat
    candidateId := candidateId
    lastLogTerm := lastLogTerm.toNat
    lastLogIndex := lastLogIndex.toNat }

def parseLogEntry (item : Json) : Option LogEntry := do
  let term ← (item.value getUInt64 "term" 0).toOption
  let command ← (item.value getString "command" "").toOption
  return { term := term.toNat, command := command }

/-- `parse_append_entries`; `none` where it throws. -/
def parseAppendEntries (data : Bytes) : Option AppendEntriesArgs := do
  let j ← parse true data
  let term ← (j.value getUInt64 "term" 0).toOption
  let leaderId ← (j.value getString "leader_id" "").toOption
  let prevLogIndex ← (j.value getUInt64 "prev_log_index" 0).toOption
  let prevLogTerm ← (j.value getUInt64 "prev_log_term" 0).toOption
  let leaderCommit ← (j.value getUInt64 "leader_commit" 0).toOption
  let entries ←
    match j.find? "entries" with
    | some (.array items) => items.mapM parseLogEntry
    | _ => some []
  return {
    term := term.toNat
    leaderId := leaderId
    prevLogIndex := prevLogIndex.toNat
    prevLogTerm := prevLogTerm.toNat
    entries := entries
    leaderCommit := leaderCommit.toNat }

/-- `serialize_request_vote_reply`. -/
def serializeRequestVoteReply (r : RequestVoteReply) : String :=
  String.ofList ((ofMembers
    [("type", .string "request_vote_reply"), ("term", .unsigned (UInt64.ofNat r.term)),
     ("vote_granted", .bool r.voteGranted)]).dump floatText none 0)

/-- `serialize_append_entries_reply`. -/
def serializeAppendEntriesReply (r : AppendEntriesReply) : String :=
  String.ofList ((ofMembers
    [("type", .string "append_entries_reply"), ("term", .unsigned (UInt64.ofNat r.term)),
     ("success", .bool r.success),
     ("match_index", .unsigned (UInt64.ofNat r.matchIndex))]).dump floatText none 0)

/-- A handler of a call between Raft nodes; `node` is what the node answers. -/
def handleRaftCall {Args Reply : Type} (parseArgs : Bytes → Option Args)
    (serializeReply : Reply → String) (node : Option (Args → Reply)) (payload : Bytes) :
    HandlerAnswer :=
  match node, parseArgs payload with
  | none, _ => .error (-1003) "raft_not_initialized"
  | some _, none => .error (-1004) "invalid_json"
  | some answer, some args =>
    .response { kind := .response, payload := serializeReply (answer args) }

def handleRaftRequestVote (node : Option (RequestVoteArgs → RequestVoteReply)) (payload : Bytes) :
    HandlerAnswer :=
  handleRaftCall parseRequestVote (serializeRequestVoteReply floatText) node payload

def handleRaftAppendEntries (node : Option (AppendEntriesArgs → AppendEntriesReply))
    (payload : Bytes) : HandlerAnswer :=
  handleRaftCall parseAppendEntries (serializeAppendEntriesReply floatText) node payload

/-! ## Which errors are read -/

theorem getLeaderHint_eq (peers : List RaftPeer) {leaderId : String} (h : leaderId ≠ "") :
    ∃ members, getLeaderHint peers leaderId = "\x7b\"leader_id\":\"" ++ members := by
  unfold getLeaderHint
  rw [if_neg h]
  split
  · rename_i peer _
    exact ⟨leaderId ++ ("\",\"leader_host\":\"" ++ (peer.host ++ ("\",\"leader_port\":" ++
      (toString peer.port.toNat ++ "\x7d")))), by simp only [String.append_assoc]⟩
  · exact ⟨leaderId ++ "\"\x7d", String.append_assoc⟩

theorem mem_toList_append {c : Char} {s t : String} :
    c ∈ (s ++ t).toList ↔ c ∈ s.toList ∨ c ∈ t.toList := by
  rw [String.toList_append, List.mem_append]

/-- The hint of a leader is the text of an object, and its first name is quoted. -/
theorem plainText_redirect (peers : List RaftPeer) (leaderId : String) :
    PlainText (redirectReason peers leaderId) ↔ leaderId = "" := by
  constructor
  · intro hplain
    by_contra hleader
    obtain ⟨members, hmembers⟩ := getLeaderHint_eq peers hleader
    have hname : '"' ∈ "\x7b\"leader_id\":\"".toList := by decide
    have hreason : redirectReason peers leaderId = "not_raft_leader:" ++ (_ ++ members) :=
      congrArg ("not_raft_leader:" ++ ·) hmembers
    have hquote : '"' ∈ (redirectReason peers leaderId).toList :=
      hreason ▸ mem_toList_append.mpr (.inr (mem_toList_append.mpr (.inl hname)))
    exact (hplain _ hquote).1 rfl
  · rintro rfl
    have hhint : getLeaderHint peers "" = "" := if_pos rfl
    have hreason : redirectReason peers "" = "not_raft_leader:" :=
      (congrArg ("not_raft_leader:" ++ ·) hhint).trans String.append_empty
    rw [hreason]
    decide

variable {floatText}

theorem errorReads_error (hfloat : WritesFloats floatText) {code : Int32} {reason : String} :
    (HandlerAnswer.error code reason).ErrorReads floatText ↔ PlainText reason :=
  reasonReads_iff hfloat none code reason
    (by decide : EnvelopeMessageKind.kMatchJoinResponse ≠ .kUnknown)

theorem errorReads_wrapped (hfloat : WritesFloats floatText) {request : Option TypedEnvelope}
    {code : Int32} {reason : String} {kind : EnvelopeMessageKind} (hkind : kind ≠ .kUnknown) :
    (HandlerAnswer.wrapped request code reason kind).ErrorReads floatText ↔ PlainText reason :=
  reasonReads_iff hfloat request code reason hkind

/-- The errors of the calls between Raft nodes are read. -/
theorem errorReads_handleRaftCall (hfloat : WritesFloats floatText) {Args Reply : Type}
    (parseArgs : Bytes → Option Args) (serializeReply : Reply → String)
    (node : Option (Args → Reply)) (payload : Bytes) :
    (handleRaftCall parseArgs serializeReply node payload).ErrorReads floatText := by
  unfold handleRaftCall
  split
  · exact (errorReads_error hfloat).mpr (by decide)
  · exact (errorReads_error hfloat).mpr (by decide)
  · trivial

end BoostGateway.Service
