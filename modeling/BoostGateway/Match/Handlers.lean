import BoostGateway.Match.Commands
import BoostGateway.Service.HandlerAnswer

/-!
# The handlers of the matchmaking service

`handle_match_join`, `handle_match_leave` and `handle_match_status`
(`matchmaking_service.cpp`) from the payload of a request to the answer. A join or leave also
gives the command that is applied at once, or handed to the Raft node where there is one; what
becomes of it is the subject of the other modules. The status is looked up in the stored matches
in the order of the map.

A redirect and a failed commit are wrapped for a typed request, an answer about the request
itself is not.
-/

namespace BoostGateway.Match

open Json Service

variable (floatText : Float → List Char)

/-- `make_ok`. -/
def makeOk (extra : List (String × Json)) : BackendEnvelope :=
  { kind := .response
    payload := String.ofList
      ((ofMembers (("status", .string "ok") :: extra)).dump floatText none 0) }

/-- The part of a join or leave handler after its fields are read. -/
def replicate (raft : Option RaftRole) (peers : List RaftPeer)
    (request : Option Proto.TypedEnvelope) (kind : Proto.EnvelopeMessageKind)
    (command : MatchCommand) (body : List (String × Json)) :
    Option MatchCommand × HandlerAnswer :=
  match raft with
  | some (.follower leaderId) =>
    (none, .wrapped request (-1003) (redirectReason peers leaderId) kind)
  | some (.leader false) => (some command, .wrapped request (-1005) "raft_commit_failed" kind)
  | some (.leader true) | none =>
    (some command,
      .response (wrapTypedResponseIfNeeded floatText request (makeOk floatText body) kind))

/-- `handle_match_join` at the time `nowMs`. -/
def handleMatchJoin (raft : Option RaftRole) (peers : List RaftPeer) (nowMs : UInt64)
    (payload : Bytes) : Except TypeError (Option MatchCommand × HandlerAnswer) := do
  match ← decodeHandlerPayload payload with
  | some ⟨.object ms, _, request⟩ =>
    let doc := Json.object ms
    let userId ← doc.value getString "user_id" ""
    let mmr ← doc.value getInt32 "mmr" 1000
    let modeStr ← doc.value getString "mode" "1v1"
    if userId = "" then return (none, .error (-1004) "empty_user_id")
    let queuedAtMs ← doc.value getUInt64 "queued_at_ms" nowMs
    let player : MatchPlayer :=
      { userId, mmr := mmr.toInt, queuedAtMs := queuedAtMs.toNat, mode := parseMode modeStr }
    return replicate floatText raft peers request .kMatchJoinResponse (.join player)
      [("queued", .bool true), ("mode", .string modeStr)]
  | _ => return (none, .error (-1004) "invalid_json")

/-- `handle_match_leave`. -/
def handleMatchLeave (raft : Option RaftRole) (peers : List RaftPeer) (payload : Bytes) :
    Except TypeError (Option MatchCommand × HandlerAnswer) := do
  match ← decodeHandlerPayload payload with
  | some ⟨.object ms, _, request⟩ =>
    let doc := Json.object ms
    let userId ← doc.value getString "user_id" ""
    let modeStr ← doc.value getString "mode" "1v1"
    return replicate floatText raft peers request .kMatchLeaveResponse
      (.leave userId (parseMode modeStr)) [("left", .bool true)]
  | _ => return (none, .error (-1004) "invalid_json")

/-- The match `handle_match_status` comes to first. -/
def statusMatch (pendingMatches : List MatchResult) (userId : UserId) : Option MatchResult :=
  pendingMatches.find? (userId ∈ ·.playerIds)

/-- `handle_match_status`, with the stored matches in the order of the map. -/
def handleMatchStatus (pendingMatches : List MatchResult) (queueSize : MatchMode → ℕ)
    (payload : Bytes) : Except TypeError HandlerAnswer := do
  match ← decodeHandlerPayload payload with
  | some ⟨.object ms, _, request⟩ =>
    let doc := Json.object ms
    let userId ← doc.value getString "user_id" ""
    let modeStr ← doc.value getString "mode" "1v1"
    let body : List (String × Json) :=
      match statusMatch pendingMatches userId with
      | some result =>
        [("matched", .bool true), ("match_id", .string result.matchId),
         ("mode", .string result.mode.text), ("avg_mmr", .integer (Int64.ofInt result.avgMmr))]
      | none =>
        [("matched", .bool false),
         ("queue_size", .unsigned (UInt64.ofNat (queueSize (parseMode modeStr)))),
         ("mode", .string modeStr)]
    return .response
      (wrapTypedResponseIfNeeded floatText request (makeOk floatText body) .kMatchStatusResponse)
  | _ => return .error (-1004) "invalid_json"

end BoostGateway.Match
