import BoostGateway.Base.JsonRoundTrip
import BoostGateway.Leaderboard.SortedSet

/-!
# The leaderboard service

The handlers of `LeaderboardService` (`leaderboard_service.cpp`). A submit records its
idempotency key, then goes through Raft or is applied at once; a top or rank request is
answered from Redis where it is available and from memory otherwise, or where Redis has
nothing. What Raft and Redis do is given with each call. A log entry is the text of a
JSON document, and the one of a submit reads back as the submit
(`decodeCommand_makeSubmitCommand`).

A request comes as the document `decode_handler_payload` gives. The event store, which
only records submits, and the typed envelope around a reply are left out.
-/

namespace BoostGateway.Leaderboard

open Json

/-- What a handler answers. -/
inductive Reply
  | ok (body : Json)
  | error (code : ℤ) (reason : String)

def Reply.isOk : Reply → Bool
  | .ok _ => true
  | .error .. => false

/-- How `is_leader` and `append_command` of a Raft node go. `append_command` returns `true`
when a quorum has answered, also where it has not handed the entry to the apply callback : its
last section asks neither for the role nor the term, and another thread may have drained the
entry and not delivered it. -/
inductive RaftOutcome
  | notLeader (leaderHint : String)
  | commitFailed
  /-- `true`, and the entry was applied. -/
  | committed
  /-- `true`, and the entry was not applied. -/
  | unapplied

/-- The fields of a `leaderboard_submit` request. -/
structure SubmitRequest where
  userId : String
  displayName : String := ""
  /-- `doc.value("score", 0)` reads an `int`. -/
  score : Int32 := 0
  idempotencyKey : String := ""
  deriving DecidableEq

/-- The leaderboard service. -/
structure LeaderboardService where
  leaderboard : SortedSet := {}
  /-- `redis_lb_`. -/
  redis : Option RedisLeaderboard := none
  appliedIdempotencyKeys : List String := []

variable (floatText : Float → List Char)

/-- The document of `make_submit_command`. -/
def submitDocument (r : SubmitRequest) : Json :=
  ofMembers
    [("v", .integer 1), ("op", .string "leaderboard_submit"), ("user_id", .string r.userId),
     ("display_name", .string r.displayName), ("score", .integer r.score.toInt64)]

/-- `make_submit_command`. -/
def makeSubmitCommand (r : SubmitRequest) : Bytes :=
  encodeUtf8 ((submitDocument r).dump floatText none 0)

/-- What `apply_raft_entry` applies. -/
structure Submission where
  userId : String
  displayName : String
  score : Int64
  deriving DecidableEq

/-- `apply_raft_entry` up to the call of `apply_submit`. -/
def decodeCommand (command : Bytes) : Except TypeError (Option Submission) :=
  match parse true command with
  | none => .ok none
  | some doc => do
    if (← doc.value getInt32 "v" 0) ≠ 1 then return none
    if (← doc.value getString "op" "") ≠ "leaderboard_submit" then return none
    let userId ← doc.value getString "user_id" ""
    if userId = "" then return none
    let displayName ← doc.value getString "display_name" ""
    let score ← doc.value getInt64 "score" 0
    return some { userId, displayName, score }

namespace LeaderboardService

variable (s : LeaderboardService)

def applySubmit (io : RedisIo) (userId displayName : String) (score : ℤ) : LeaderboardService :=
  { s with
    leaderboard := s.leaderboard.submit userId displayName score
    redis :=
      if io.available then s.redis.map fun r => r.submit io userId displayName score
      else s.redis }

/-- `apply_raft_entry`; an exception leaves the service as it is. -/
def applyRaftEntry (io : RedisIo) (command : Bytes) : LeaderboardService :=
  match decodeCommand command with
  | .ok (some c) => s.applySubmit io c.userId c.displayName c.score.toInt
  | _ => s

/-- `redis_lb_`, where it is available. -/
def available (s : LeaderboardService) (io : RedisIo) : Option RedisLeaderboard :=
  if io.available then s.redis else none

/-- `rank_of`. -/
def rankOf (s : LeaderboardService) (io : RedisIo) (userId : String) : Option ℕ :=
  (((s.available io).bind fun r => r.rankOf io userId).or (s.leaderboard.rankOf userId)).map
    (·.rank)

/-- `{"status": "ok", "user_id": …}`, with the rank of the user where it has one. -/
def submitted (io : RedisIo) (userId : String) (extra : List (String × Json)) : Reply :=
  .ok (ofMembers ([("status", Json.string "ok"), ("user_id", .string userId)] ++ extra ++
    match s.rankOf io userId with
    | some rank => [("rank", Json.integer (Int64.ofNat rank))]
    | none => []))

/-- `applied_idempotency_keys_.insert`, of a key that is not empty. -/
def record (key : String) : LeaderboardService :=
  if key = "" then s else { s with appliedIdempotencyKeys := key :: s.appliedIdempotencyKeys }

/-- `handle_submit` once the fields are read. `io` is for applying the submit, `ioRank` for
the rank in the reply. -/
def submit (r : SubmitRequest) (raft : Option RaftOutcome)
    (io ioRank : RedisIo) : LeaderboardService × Reply :=
  if r.userId = "" then (s, .error (-1004) "empty_user_id")
  else if r.idempotencyKey ≠ "" ∧ r.idempotencyKey ∈ s.appliedIdempotencyKeys then
    (s, s.submitted ioRank r.userId [("idempotent", .bool true)])
  else
    let s := s.record r.idempotencyKey
    match raft with
    | some (.notLeader leaderHint) => (s, .error (-1003) ("not_raft_leader:" ++ leaderHint))
    | some .commitFailed => (s, .error (-1005) "raft_commit_failed")
    | some .committed =>
      let s := s.applyRaftEntry io (makeSubmitCommand floatText r)
      (s, s.submitted ioRank r.userId [])
    | some .unapplied => (s, s.submitted ioRank r.userId [])
    | none =>
      let s := s.applySubmit io r.userId r.displayName r.score.toInt
      (s, s.submitted ioRank r.userId [])

def readSubmit (doc : Json) : Except TypeError SubmitRequest := do
  let userId ← doc.value getString "user_id" ""
  let displayName ← doc.value getString "display_name" ""
  let score ← doc.value getInt32 "score" 0
  let idempotencyKey ← doc.value getString "idempotency_key" ""
  return { userId, displayName, score, idempotencyKey }

/-- The document of a request, where it is an object. -/
def object? : Option Json → Option Json
  | some (.object ms) => some (.object ms)
  | _ => none

def handleSubmit (payload : Option Json) (raft : Option RaftOutcome)
    (io ioRank : RedisIo) : Except TypeError (LeaderboardService × Reply) :=
  match object? payload with
  | none => .ok (s, .error (-1004) "invalid_json")
  | some doc => do
    let r ← readSubmit doc
    return s.submit floatText r raft io ioRank

/-- The entries of `handle_top`. -/
def top (io : RedisIo) (k : ℕ) : List LeaderboardEntry :=
  match s.available io with
  | some r =>
    let entries := r.topK io k
    if entries = [] ∧ 0 < s.leaderboard.size then s.leaderboard.topK k else entries
  | none => s.leaderboard.topK k

/-- The entry of `handle_rank`. -/
def rank (io : RedisIo) (userId : String) : Option LeaderboardEntry :=
  ((s.available io).bind fun r => r.rankOf io userId).or (s.leaderboard.rankOf userId)

def entryJson (e : LeaderboardEntry) : Json :=
  ofMembers
    [("rank", .integer (Int64.ofNat e.rank)), ("user_id", .string e.userId),
     ("display_name", .string e.displayName), ("score", .integer (Int64.ofInt e.score))]

/-- `std::size_t k = doc.value("k", 10)`, at most a hundred; a negative number wraps. -/
def readK (doc : Json) : Except TypeError ℕ := do
  let k ← doc.value getInt32 "k" 10
  return min k.toInt64.toUInt64.toNat 100

def handleTop (payload : Option Json) (io : RedisIo) : Except TypeError Reply :=
  match object? payload with
  | none => .ok (.error (-1004) "invalid_json")
  | some doc => do
    let k ← readK doc
    return .ok (ofMembers [("status", .string "ok"),
      ("entries", .array ((s.top io k).map entryJson))])

def handleRank (payload : Option Json) (io : RedisIo) : Except TypeError Reply :=
  match object? payload with
  | none => .ok (.error (-1004) "invalid_json")
  | some doc => do
    let userId ← doc.value getString "user_id" ""
    if userId = "" then return .error (-1004) "empty_user_id"
    match s.rank io userId with
    | none => return .error (-1003) "user_not_found"
    | some e => return .ok (ofMembers [("status", .string "ok"), ("user_id", .string e.userId),
        ("rank", .integer (Int64.ofNat e.rank)), ("score", .integer (Int64.ofInt e.score))])

end LeaderboardService

/-! ## Log entries -/

variable (r : SubmitRequest)

theorem submitDocument_eq : submitDocument r = .object
    [("display_name", .string r.displayName), ("op", .string "leaderboard_submit"),
     ("score", .integer r.score.toInt64), ("user_id", .string r.userId), ("v", .integer 1)] := by
  simp +decide [submitDocument, ofMembers, insertMember]

theorem plain_submitDocument : Plain (submitDocument r) := by
  rw [submitDocument_eq]
  refine ⟨by simp +decide, ?_⟩
  simp [PlainMembers, Plain]

/-- A replica decodes the command of a submit as the submit. -/
theorem decodeCommand_makeSubmitCommand :
    decodeCommand (makeSubmitCommand floatText r) = .ok
      (if r.userId = "" then none
      else some { userId := r.userId, displayName := r.displayName, score := r.score.toInt64 }) := by
  have hscore := getInt64_asRead r.score.toInt64
  have hv : asRead (.integer 1) = .unsigned 1 := by simp +decide [asRead]
  rw [decodeCommand, makeSubmitCommand, parse_dump (plain_submitDocument r), submitDocument_eq,
    asRead]
  simp only [asReadMembers, hv]
  generalize asRead (.integer r.score.toInt64) = j at hscore ⊢
  by_cases hu : r.userId = ""
  · simp +decide [asRead, value, find?, getInt32, getArithmetic, getString, hu, bind, Except.bind,
      pure, Except.pure]
  · simp +decide [asRead, value, find?, getInt32, getArithmetic, getString, hu, hscore, bind,
      Except.bind, pure, Except.pure]

theorem LeaderboardService.applyRaftEntry_makeSubmitCommand (s : LeaderboardService)
    (io : RedisIo) {r : SubmitRequest} (hu : r.userId ≠ "") :
    s.applyRaftEntry io (makeSubmitCommand floatText r) =
      s.applySubmit io r.userId r.displayName r.score.toInt := by
  rw [applyRaftEntry, decodeCommand_makeSubmitCommand, if_neg hu]
  simp only [Int32.toInt_toInt64]

end BoostGateway.Leaderboard
