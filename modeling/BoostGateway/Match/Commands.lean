import BoostGateway.Base.JsonRoundTrip
import BoostGateway.Match.Matchmaking

/-!
# The commands in the log of the matchmaking service

With Raft every change of the queues and of the matches is a log entry : the text of a
JSON document (`make_join_command` and its siblings), which `apply_raft_entry` reads on
every node. A command reads back as it was written, up to the width of its numbers
(`decodeCommand_text`); one that names nobody is written and read, but not applied.

A document of these has no floats, so the text of a float does not matter.
-/

namespace BoostGateway.Match

open Json

/-- `to_string`. -/
def MatchMode.text : MatchMode → String
  | .k1v1 => "1v1"
  | .k2v2 => "2v2"
  | .k4v4 => "4v4"

/-- `parse_mode`. -/
def parseMode (modeStr : String) : MatchMode :=
  if modeStr = "2v2" then .k2v2
  else if modeStr = "4v4" then .k4v4
  else .k1v1

@[simp] theorem parseMode_text (mode : MatchMode) : parseMode mode.text = mode := by
  cases mode <;> decide

/-- What a log entry asks for. -/
inductive MatchCommand
  | join (player : MatchPlayer)
  | leave (userId : UserId) (mode : MatchMode)
  | found (result : MatchResult)
  | purge (mode : MatchMode) (userIds : List UserId)
  deriving DecidableEq

/-- An array of strings. -/
def stringArray (xs : List String) : Json := .array (xs.map .string)

namespace MatchCommand

/-- The document of `make_join_command`, `make_leave_command`, `make_match_found_command` or
`make_purge_command`. -/
def document : MatchCommand → Json
  | .join player =>
    ofMembers
      [("v", .integer 1), ("op", .string "match_join"), ("user_id", .string player.userId),
       ("mmr", .integer (Int64.ofInt player.mmr)),
       ("queued_at_ms", .unsigned (UInt64.ofNat player.queuedAtMs)),
       ("mode", .string player.mode.text)]
  | .leave userId mode =>
    ofMembers
      [("v", .integer 1), ("op", .string "match_leave"), ("user_id", .string userId),
       ("mode", .string mode.text)]
  | .found result =>
    ofMembers
      [("v", .integer 1), ("op", .string "match_found"), ("match_id", .string result.matchId),
       ("mode", .string result.mode.text), ("avg_mmr", .integer (Int64.ofInt result.avgMmr)),
       ("player_ids", stringArray result.playerIds)]
  | .purge mode userIds =>
    ofMembers
      [("v", .integer 1), ("op", .string "match_purge"), ("mode", .string mode.text),
       ("user_ids", stringArray userIds)]

/-- The log entry of a command. -/
def text (c : MatchCommand) : String := String.ofList (c.document.dump (fun _ => []) none 0)

end MatchCommand

def makeJoinCommand (player : MatchPlayer) : String := (MatchCommand.join player).text

def makeLeaveCommand (userId : UserId) (mode : MatchMode) : String :=
  (MatchCommand.leave userId mode).text

def makeMatchFoundCommand (result : MatchResult) : String := (MatchCommand.found result).text

def makePurgeCommand (mode : MatchMode) (userIds : List UserId) : String :=
  (MatchCommand.purge mode userIds).text

/-! ## Reading a log entry -/

/-- `parse_mode(doc.value("mode", "1v1"))`. -/
def readMode (doc : Json) : Except TypeError MatchMode :=
  return parseMode (← doc.value getString "mode" "1v1")

/-- The strings of a member that is an array. -/
def readStrings (doc : Json) (key : String) : Except TypeError (Option (List String)) :=
  match doc.find? key with
  | some (.array xs) => return some (← xs.mapM getString)
  | _ => .ok none

def readJoin (doc : Json) : Except TypeError (Option MatchCommand) := do
  let userId ← doc.value getString "user_id" ""
  if userId = "" then return none
  let mmr ← doc.value getInt64 "mmr" 1000
  let queuedAtMs ← doc.value getUInt64 "queued_at_ms" 0
  let mode ← readMode doc
  return some (.join { userId, mmr := mmr.toInt, queuedAtMs := queuedAtMs.toNat, mode })

def readLeave (doc : Json) : Except TypeError (Option MatchCommand) := do
  let userId ← doc.value getString "user_id" ""
  if userId = "" then return none
  let mode ← readMode doc
  return some (.leave userId mode)

def readFound (doc : Json) : Except TypeError (Option MatchCommand) := do
  let matchId ← doc.value getString "match_id" ""
  let mode ← readMode doc
  let avgMmr ← doc.value getInt64 "avg_mmr" 0
  let playerIds := (← readStrings doc "player_ids").getD []
  if matchId = "" ∨ playerIds = [] then return none
  return some (.found { matchId, mode, playerIds, avgMmr := avgMmr.toInt })

def readPurge (doc : Json) : Except TypeError (Option MatchCommand) := do
  match ← readStrings doc "user_ids" with
  | none => return none
  | some userIds =>
    let mode ← readMode doc
    return some (.purge mode userIds)

/-- `apply_raft_entry` up to the call that applies the command; `none` where it returns
before. -/
def decodeCommand (command : String) : Except TypeError (Option MatchCommand) :=
  match parse true (encodeUtf8 command.toList) with
  | none => .ok none
  | some doc => do
    if (← doc.value getInt32 "v" 0) ≠ 1 then return none
    let op ← doc.value getString "op" ""
    if op = "match_join" then readJoin doc
    else if op = "match_leave" then readLeave doc
    else if op = "match_found" then readFound doc
    else if op = "match_purge" then readPurge doc
    else return none

/-! ## What is written reads back -/

namespace MatchCommand

/-- The command with its numbers in 64 bits, as they are written. -/
def written : MatchCommand → MatchCommand
  | .join player =>
    .join { player with
      mmr := (Int64.ofInt player.mmr).toInt
      queuedAtMs := (UInt64.ofNat player.queuedAtMs).toNat }
  | .found result => .found { result with avgMmr := (Int64.ofInt result.avgMmr).toInt }
  | c => c

/-- The command names a player, and a match where it is about one; else `apply_raft_entry`
returns before it applies the command. -/
def Names : MatchCommand → Prop
  | .join player => player.userId ≠ ""
  | .leave userId _ => userId ≠ ""
  | .found result => result.matchId ≠ "" ∧ result.playerIds ≠ []
  | .purge _ _ => True

instance (c : MatchCommand) : Decidable c.Names :=
  match c with
  | .join _ => inferInstanceAs (Decidable (_ ≠ _))
  | .leave _ _ => inferInstanceAs (Decidable (_ ≠ _))
  | .found _ => inferInstanceAs (Decidable (_ ∧ _))
  | .purge _ _ => inferInstanceAs (Decidable True)

/-- The members of the document in the order of their keys. -/
def members : MatchCommand → List (String × Json)
  | .join player =>
    [("mmr", .integer (Int64.ofInt player.mmr)), ("mode", .string player.mode.text),
     ("op", .string "match_join"),
     ("queued_at_ms", .unsigned (UInt64.ofNat player.queuedAtMs)),
     ("user_id", .string player.userId), ("v", .integer 1)]
  | .leave userId mode =>
    [("mode", .string mode.text), ("op", .string "match_leave"), ("user_id", .string userId),
     ("v", .integer 1)]
  | .found result =>
    [("avg_mmr", .integer (Int64.ofInt result.avgMmr)), ("match_id", .string result.matchId),
     ("mode", .string result.mode.text), ("op", .string "match_found"),
     ("player_ids", stringArray result.playerIds), ("v", .integer 1)]
  | .purge mode userIds =>
    [("mode", .string mode.text), ("op", .string "match_purge"),
     ("user_ids", stringArray userIds), ("v", .integer 1)]

theorem document_eq (c : MatchCommand) : c.document = .object c.members := by
  cases c <;> simp +decide [document, members, ofMembers, insertMember]

end MatchCommand

theorem plainElems_map_string (xs : List String) : PlainElems (xs.map .string) := by
  induction xs with
  | nil => trivial
  | cons x xs ih => exact ⟨trivial, ih⟩

theorem asReadElems_map_string (xs : List String) :
    asReadElems (xs.map .string) = xs.map .string := by
  induction xs with
  | nil => rfl
  | cons x xs ih => rw [List.map_cons, asReadElems, asRead, ih]

theorem mapM_getString (xs : List String) : xs.mapM (getString ∘ Json.string) = .ok xs := by
  induction xs with
  | nil => rfl
  | cons x xs ih =>
    rw [List.mapM_cons, ih]
    rfl

theorem MatchCommand.plain_document (c : MatchCommand) : Plain c.document := by
  rw [document_eq]
  cases c
  all_goals
    refine ⟨by simp +decide [members], ?_⟩
    simp [members, PlainMembers, Plain, stringArray, plainElems_map_string]

/-- A node reads the log entry of a command as the command. -/
theorem decodeCommand_text (c : MatchCommand) :
    decodeCommand c.text = .ok (if c.Names then some c.written else none) := by
  have hv : asRead (.integer 1) = .unsigned 1 := by simp +decide [asRead]
  rw [decodeCommand, MatchCommand.text, String.toList_ofList, parse_dump c.plain_document,
    c.document_eq, asRead]
  cases c with
  | join player =>
    have hmmr := getInt64_asRead (Int64.ofInt player.mmr)
    simp only [MatchCommand.members, asReadMembers, hv]
    generalize asRead (.integer (Int64.ofInt player.mmr)) = j at hmmr ⊢
    by_cases hu : player.userId = ""
    · simp +decide [asRead, value, find?, getInt32, getArithmetic, getString, hu, bind, Except.bind,
        pure, Except.pure, readJoin, MatchCommand.Names]
    · simp +decide [asRead, value, find?, getInt32, getArithmetic, getString, getUInt64, hu, hmmr,
        bind, Except.bind, pure, Except.pure, readJoin, readMode, MatchCommand.Names,
        MatchCommand.written]
  | leave userId mode =>
    simp only [MatchCommand.members, asReadMembers, hv]
    by_cases hu : userId = ""
    · simp +decide [asRead, value, find?, getInt32, getArithmetic, getString, hu, bind, Except.bind,
        pure, Except.pure, readLeave, MatchCommand.Names]
    · simp +decide [asRead, value, find?, getInt32, getArithmetic, getString, hu, bind, Except.bind,
        pure, Except.pure, readLeave, readMode, MatchCommand.Names, MatchCommand.written]
  | found result =>
    have hmmr := getInt64_asRead (Int64.ofInt result.avgMmr)
    simp only [MatchCommand.members, asReadMembers, hv]
    generalize asRead (.integer (Int64.ofInt result.avgMmr)) = j at hmmr ⊢
    have hnames : (MatchCommand.found result).Names ↔
        ¬(result.matchId = "" ∨ result.playerIds = []) := not_or.symm
    rw [if_congr hnames rfl rfl]
    simp +decide [asRead, value, find?, getInt32, getArithmetic, getString, hmmr, bind, Except.bind,
      pure, Except.pure, readFound, readMode, readStrings, stringArray, asReadElems_map_string,
      mapM_getString, MatchCommand.written, -not_or]
    split_ifs <;> rfl
  | purge mode userIds =>
    simp only [MatchCommand.members, asReadMembers, hv]
    simp +decide [asRead, value, find?, getInt32, getArithmetic, getString, bind, Except.bind,
      pure, Except.pure, readPurge, readMode, readStrings, stringArray, asReadElems_map_string,
      mapM_getString, MatchCommand.Names, MatchCommand.written]

end BoostGateway.Match
