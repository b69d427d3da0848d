import BoostGateway.Base.JsonWritten

/-!
# Typed envelopes

`v3::proto` (`envelope_codec.h`) : a message of a known kind travels as the JSON text of
its metadata and of a payload that sits below the name of its domain and the name of its
kind. The four tables of the header are `EnvelopeMessageKind.toString`, `kindFromString`,
`domainForKind` and the names of the domains.

`decode_encode_typed` : every kind but `kUnknown`, with any metadata and payload, is read
back as it was written. A payload is written with `null` for a float that is no number, and so
it does not always come back as it was (`not_decode_encode_nan`).
-/

namespace BoostGateway.Proto

open Json

/-- The head of an envelope. -/
structure EnvelopeMeta where
  correlationId : UInt64 := 0
  sourceService : String := ""
  targetService : String := ""
  timeoutMs : UInt32 := 0
  errorCode : Int32 := 0
  traceId : UInt64 := 0
  spanId : UInt64 := 0
  deriving DecidableEq

/-- The domains. -/
inductive EnvelopeDomain
  | kUnknown
  | kLogin
  | kRoom
  | kBattle
  | kMatch
  | kLeaderboard
  deriving DecidableEq, Repr

/-- `to_string` of a domain. -/
def EnvelopeDomain.toString : EnvelopeDomain → String
  | .kLogin => "login"
  | .kRoom => "room"
  | .kBattle => "battle"
  | .kMatch => "match"
  | .kLeaderboard => "leaderboard"
  | .kUnknown => "unknown"

def domainFromString : String → Option EnvelopeDomain
  | "login" => some .kLogin
  | "room" => some .kRoom
  | "battle" => some .kBattle
  | "match" => some .kMatch
  | "leaderboard" => some .kLeaderboard
  | _ => none

/-- The kinds of messages. -/
inductive EnvelopeMessageKind
  | kUnknown
  | kLoginRequest
  | kLoginResponse
  | kTokenValidateRequest
  | kTokenValidateResponse
  | kSessionBindRequest
  | kSessionBindResponse
  | kSessionCloseRequest
  | kSessionCloseResponse
  | kTokenRefreshRequest
  | kTokenRefreshResponse
  | kRoomCreateRequest
  | kRoomCreateResponse
  | kRoomJoinRequest
  | kRoomJoinResponse
  | kRoomLeaveRequest
  | kRoomLeaveResponse
  | kRoomReadyRequest
  | kRoomReadyResponse
  | kRoomStartBattleRequest
  | kRoomStartBattleResponse
  | kRoomStatePush
  | kRoomListRequest
  | kRoomListResponse
  | kRoomDetailRequest
  | kRoomDetailResponse
  | kRoomKickRequest
  | kRoomKickResponse
  | kRoomTransferOwnerRequest
  | kRoomTransferOwnerResponse
  | kRoomBattleFinishedRequest
  | kRoomBattleFinishedResponse
  | kBattleCreateRequest
  | kBattleCreateResponse
  | kBattleInputRequest
  | kBattleInputResponse
  | kBattleStateRequest
  | kBattleStateResponse
  | kBattleStatePush
  | kBattleFinishRequest
  | kBattleFinishResponse
  | kReplayLoadRequest
  | kReplayLoadResponse
  | kMatchJoinRequest
  | kMatchJoinResponse
  | kMatchLeaveRequest
  | kMatchLeaveResponse
  | kMatchStatusRequest
  | kMatchStatusResponse
  | kMatchFoundPush
  | kMatchToRoomRequest
  | kMatchToRoomResponse
  | kLeaderboardSubmitRequest
  | kLeaderboardSubmitResponse
  | kLeaderboardTopRequest
  | kLeaderboardTopResponse
  | kLeaderboardRankRequest
  | kLeaderboardRankResponse
  deriving DecidableEq, Repr

/-- `to_string` of a kind. -/
def EnvelopeMessageKind.toString : EnvelopeMessageKind → String
  | .kLoginRequest => "login_request"
  | .kLoginResponse => "login_response"
  | .kTokenValidateRequest => "token_validate"
  | .kTokenValidateResponse => "token_validate_response"
  | .kSessionBindRequest => "session_bind"
  | .kSessionBindResponse => "session_bind_response"
  | .kSessionCloseRequest => "session_close"
  | .kSessionCloseResponse => "session_close_response"
  | .kTokenRefreshRequest => "token_refresh"
  | .kTokenRefreshResponse => "token_refresh_response"
  | .kRoomCreateRequest => "room_create"
  | .kRoomCreateResponse => "room_create_response"
  | .kRoomJoinRequest => "room_join"
  | .kRoomJoinResponse => "room_join_response"
  | .kRoomLeaveRequest => "room_leave"
  | .kRoomLeaveResponse => "room_leave_response"
  | .kRoomReadyRequest => "room_ready"
  | .kRoomReadyResponse => "room_ready_response"
  | .kRoomStartBattleRequest => "room_start_battle"
  | .kRoomStartBattleResponse => "room_start_battle_response"
  | .kRoomStatePush => "room_state_push"
  | .kRoomListRequest => "room_list"
  | .kRoomListResponse => "room_list_response"
  | .kRoomDetailRequest => "room_detail"
  | .kRoomDetailResponse => "room_detail_response"
  | .kRoomKickRequest => "room_kick"
  | .kRoomKickResponse => "room_kick_response"
  | .kRoomTransferOwnerRequest => "room_transfer_owner"
  | .kRoomTransferOwnerResponse => "room_transfer_owner_response"
  | .kRoomBattleFinishedRequest => "room_battle_finished"
  | .kRoomBattleFinishedResponse => "room_battle_finished_response"
  | .kBattleCreateRequest => "battle_create"
  | .kBattleCreateResponse => "battle_create_response"
  | .kBattleInputRequest => "battle_input"
  | .kBattleInputResponse => "battle_input_response"
  | .kBattleStateRequest => "battle_state"
  | .kBattleStateResponse => "battle_state_response"
  | .kBattleStatePush => "battle_state_push"
  | .kBattleFinishRequest => "battle_finish"
  | .kBattleFinishResponse => "battle_finish_response"
  | .kReplayLoadRequest => "replay_load"
  | .kReplayLoadResponse => "replay_load_response"
  | .kMatchJoinRequest => "match_join"
  | .kMatchJoinResponse => "match_join_response"
  | .kMatchLeaveRequest => "match_leave"
  | .kMatchLeaveResponse => "match_leave_response"
  | .kMatchStatusRequest => "match_status"
  | .kMatchStatusResponse => "match_status_response"
  | .kMatchFoundPush => "match_found_push"
  | .kMatchToRoomRequest => "match_to_room"
  | .kMatchToRoomResponse => "match_to_room_response"
  | .kLeaderboardSubmitRequest => "submit"
  | .kLeaderboardSubmitResponse => "submit_response"
  | .kLeaderboardTopRequest => "top"
  | .kLeaderboardTopResponse => "top_response"
  | .kLeaderboardRankRequest => "rank"
  | .kLeaderboardRankResponse => "rank_response"
  | .kUnknown => "unknown"

def kindFromString : String → Option EnvelopeMessageKind
  | "login_request" => some .kLoginRequest
  | "login_response" => some .kLoginResponse
  | "token_validate" => some .kTokenValidateRequest
  | "token_validate_response" => some .kTokenValidateResponse
  | "session_bind" => some .kSessionBindRequest
  | "session_bind_response" => some .kSessionBindResponse
  | "session_close" => some .kSessionCloseRequest
  | "session_close_response" => some .kSessionCloseResponse
  | "token_refresh" => some .kTokenRefreshRequest
  | "token_refresh_response" => some .kTokenRefreshResponse
  | "room_create" => some .kRoomCreateRequest
  | "room_create_response" => some .kRoomCreateResponse
  | "room_join" => some .kRoomJoinRequest
  | "room_join_response" => some .kRoomJoinResponse
  | "room_leave" => some .kRoomLeaveRequest
  | "room_leave_response" => some .kRoomLeaveResponse
  | "room_ready" => some .kRoomReadyRequest
  | "room_ready_response" => some .kRoomReadyResponse
  | "room_start_battle" => some .kRoomStartBattleRequest
  | "room_start_battle_response" => some .kRoomStartBattleResponse
  | "room_state_push" => some .kRoomStatePush
  | "room_list" => some .kRoomListRequest
  | "room_list_response" => some .kRoomListResponse
  | "room_detail" => some .kRoomDetailRequest
  | "room_detail_response" => some .kRoomDetailResponse
  | "room_kick" => some .kRoomKickRequest
  | "room_kick_response" => some .kRoomKickResponse
  | "room_transfer_owner" => some .kRoomTransferOwnerRequest
  | "room_transfer_owner_response" => some .kRoomTransferOwnerResponse
  | "room_battle_finished" => some .kRoomBattleFinishedRequest
  | "room_battle_finished_response" => some .kRoomBattleFinishedResponse
  | "battle_create" => some .kBattleCreateRequest
  | "battle_create_response" => some .kBattleCreateResponse
  | "battle_input" => some .kBattleInputRequest
  | "battle_input_response" => some .kBattleInputResponse
  | "battle_state" => some .kBattleStateRequest
  | "battle_state_response" => some .kBattleStateResponse
  | "battle_state_push" => some .kBattleStatePush
  | "battle_finish" => some .kBattleFinishRequest
  | "battle_finish_response" => some .kBattleFinishResponse
  | "replay_load" => some .kReplayLoadRequest
  | "replay_load_response" => some .kReplayLoadResponse
  | "match_join" => some .kMatchJoinRequest
  | "match_join_response" => some .kMatchJoinResponse
  | "match_leave" => some .kMatchLeaveRequest
  | "match_leave_response" => some .kMatchLeaveResponse
  | "match_status" => some .kMatchStatusRequest
  | "match_status_response" => some .kMatchStatusResponse
  | "match_found_push" => some .kMatchFoundPush
  | "match_to_room" => some .kMatchToRoomRequest
  | "match_to_room_response" => some .kMatchToRoomResponse
  | "submit" => some .kLeaderboardSubmitRequest
  | "submit_response" => some .kLeaderboardSubmitResponse
  | "top" => some .kLeaderboardTopRequest
  | "top_response" => some .kLeaderboardTopResponse
  | "rank" => some .kLeaderboardRankRequest
  | "rank_response" => some .kLeaderboardRankResponse
  | _ => none

def domainForKind : EnvelopeMessageKind → Option EnvelopeDomain
  | .kLoginRequest | .kLoginResponse | .kTokenValidateRequest | .kTokenValidateResponse
    | .kSessionBindRequest | .kSessionBindResponse | .kSessionCloseRequest
    | .kSessionCloseResponse | .kTokenRefreshRequest | .kTokenRefreshResponse => some .kLogin
  | .kRoomCreateRequest | .kRoomCreateResponse | .kRoomJoinRequest | .kRoomJoinResponse
    | .kRoomLeaveRequest | .kRoomLeaveResponse | .kRoomReadyRequest | .kRoomReadyResponse
    | .kRoomStartBattleRequest | .kRoomStartBattleResponse | .kRoomStatePush
    | .kRoomListRequest | .kRoomListResponse | .kRoomDetailRequest | .kRoomDetailResponse
    | .kRoomKickRequest | .kRoomKickResponse | .kRoomTransferOwnerRequest
    | .kRoomTransferOwnerResponse | .kRoomBattleFinishedRequest
    | .kRoomBattleFinishedResponse => some .kRoom
  | .kBattleCreateRequest | .kBattleCreateResponse | .kBattleInputRequest
    | .kBattleInputResponse | .kBattleStateRequest | .kBattleStateResponse
    | .kBattleStatePush | .kBattleFinishRequest | .kBattleFinishResponse
    | .kReplayLoadRequest | .kReplayLoadResponse => some .kBattle
  | .kMatchJoinRequest | .kMatchJoinResponse | .kMatchLeaveRequest | .kMatchLeaveResponse
    | .kMatchStatusRequest | .kMatchStatusResponse | .kMatchFoundPush | .kMatchToRoomRequest
    | .kMatchToRoomResponse => some .kMatch
  | .kLeaderboardSubmitRequest | .kLeaderboardSubmitResponse | .kLeaderboardTopRequest
    | .kLeaderboardTopResponse | .kLeaderboardRankRequest
    | .kLeaderboardRankResponse => some .kLeaderboard
  | .kUnknown => none

/-- What `decode_envelope` finds. -/
structure DecodedEnvelope where
  metadata : EnvelopeMeta
  domain : EnvelopeDomain
  messageKind : EnvelopeMessageKind
  payload : Json

/-- An envelope of a kind. -/
structure TypedEnvelope where
  metadata : EnvelopeMeta
  messageKind : EnvelopeMessageKind
  payload : Json

/-! ## Writing -/

/-- The document of `encode_envelope`. -/
def envelopeDocument (metadata : EnvelopeMeta) (domain : EnvelopeDomain)
    (kind : EnvelopeMessageKind) (payload : Json) : Json :=
  ofMembers
    [("correlation_id", .unsigned metadata.correlationId),
     ("source_service", .string metadata.sourceService),
     ("target_service", .string metadata.targetService),
     ("timeout_ms", .unsigned metadata.timeoutMs.toUInt64),
     ("error_code", .integer metadata.errorCode.toInt64),
     ("trace_id", .unsigned metadata.traceId),
     ("span_id", .unsigned metadata.spanId),
     ("payload", .object [(domain.toString, .object [(kind.toString, payload)])])]

def encodeEnvelope (floatText : Float → List Char) (metadata : EnvelopeMeta)
    (domain : EnvelopeDomain) (kind : EnvelopeMessageKind) (payload : Json) : Bytes :=
  encodeUtf8 ((envelopeDocument metadata domain kind payload).dump floatText none 0)

/-- `encode_typed_envelope`; a kind without a domain has the empty text. -/
def encodeTypedEnvelope (floatText : Float → List Char) (metadata : EnvelopeMeta)
    (kind : EnvelopeMessageKind) (payload : Json) : Bytes :=
  match domainForKind kind with
  | none => []
  | some domain => encodeEnvelope floatText metadata domain kind payload

/-! ## Reading -/

/-- The metadata members of a document, each with its default. -/
def decodeMeta (doc : Json) : Except TypeError EnvelopeMeta := do
  let correlationId ← doc.value getUInt64 "correlation_id" 0
  let sourceService ← doc.value getString "source_service" ""
  let targetService ← doc.value getString "target_service" ""
  let timeoutMs ← doc.value getUInt32 "timeout_ms" 0
  let errorCode ← doc.value getInt32 "error_code" 0
  let traceId ← doc.value getUInt64 "trace_id" 0
  let spanId ← doc.value getUInt64 "span_id" 0
  return {
    correlationId := correlationId
    sourceService := sourceService
    targetService := targetService
    timeoutMs := timeoutMs
    errorCode := errorCode
    traceId := traceId
    spanId := spanId }

/-- The domain, the kind and the payload below the one name of each. -/
def decodePayload : List (String × Json) →
    Option (EnvelopeDomain × EnvelopeMessageKind × Json)
  | [(domainKey, .object [(kindKey, payload)])] => do
    let domain ← domainFromString domainKey
    let kind ← kindFromString kindKey
    some (domain, kind, payload)
  | _ => none

/-- `decode_envelope` on a parsed document. The metadata is converted before the payload is
looked at. -/
def decodeDocument (doc : Json) : Except TypeError (Option DecodedEnvelope) :=
  match doc.find? "payload" with
  | some (.object payloads) => do
    let metadata ← decodeMeta doc
    return (decodePayload payloads).map fun (domain, kind, payload) =>
      ⟨metadata, domain, kind, payload⟩
  | _ => return none

def decodeEnvelope (encoded : Bytes) : Except TypeError (Option DecodedEnvelope) :=
  (parse true encoded).elim (.ok none) decodeDocument

def decodeTypedEnvelope (encoded : Bytes) : Except TypeError (Option TypedEnvelope) := do
  let decoded ← decodeEnvelope encoded
  return decoded.map fun d => ⟨d.metadata, d.messageKind, d.payload⟩

/-! ## Reading back what was written -/

@[simp] theorem kindFromString_toString {kind : EnvelopeMessageKind} (h : kind ≠ .kUnknown) :
    kindFromString kind.toString = some kind := by
  cases kind with
  | kUnknown => exact absurd rfl h
  | _ => rfl

theorem domainFromString_toString {domain : EnvelopeDomain} (h : domain ≠ .kUnknown) :
    domainFromString domain.toString = some domain := by
  cases domain with
  | kUnknown => exact absurd rfl h
  | _ => rfl

theorem exists_domainForKind {kind : EnvelopeMessageKind} (h : kind ≠ .kUnknown) :
    ∃ domain, domainForKind kind = some domain ∧ domain ≠ .kUnknown := by
  cases kind with
  | kUnknown => exact absurd rfl h
  | _ => exact ⟨_, rfl, by decide⟩

variable (metadata : EnvelopeMeta) (domain : EnvelopeDomain) (kind : EnvelopeMessageKind)
  (payload : Json)

theorem envelopeDocument_eq : envelopeDocument metadata domain kind payload = .object
    [("correlation_id", .unsigned metadata.correlationId),
     ("error_code", .integer metadata.errorCode.toInt64),
     ("payload", .object [(domain.toString, .object [(kind.toString, payload)])]),
     ("source_service", .string metadata.sourceService),
     ("span_id", .unsigned metadata.spanId),
     ("target_service", .string metadata.targetService),
     ("timeout_ms", .unsigned metadata.timeoutMs.toUInt64),
     ("trace_id", .unsigned metadata.traceId)] := by
  simp +decide [envelopeDocument, ofMembers, insertMember]

variable {floatText : Float → List Char}

theorem written_envelopeDocument (hp : Written floatText payload) :
    Written floatText (envelopeDocument metadata domain kind payload) := by
  rw [envelopeDocument_eq]
  refine ⟨by simp +decide, ?_⟩
  simp [WrittenMembers, Written, hp]

theorem readBack_envelopeDocument :
    readBack floatText (envelopeDocument metadata domain kind payload) =
      asRead (envelopeDocument metadata domain kind (asWritten floatText payload)) := by
  rw [readBack, envelopeDocument_eq, envelopeDocument_eq]
  simp only [asWritten, asWrittenMembers]

theorem decodeMeta_asRead :
    decodeMeta (asRead (envelopeDocument metadata domain kind payload)) = .ok metadata := by
  have herr := getInt32_asRead metadata.errorCode
  rw [envelopeDocument_eq, asRead]
  simp only [asReadMembers]
  generalize asRead (.integer metadata.errorCode.toInt64) = j at herr ⊢
  simp [asRead, decodeMeta, value, find?, getUInt64, getUInt32, getArithmetic, getString, herr,
    bind, Except.bind, pure, Except.pure]

variable {domain kind}

theorem decodeDocument_asRead (hd : domain ≠ .kUnknown) (hk : kind ≠ .kUnknown) :
    decodeDocument (asRead (envelopeDocument metadata domain kind payload)) =
      .ok (some ⟨metadata, domain, kind, asRead payload⟩) := by
  have hfind : (asRead (envelopeDocument metadata domain kind payload)).find? "payload" =
      some (.object [(domain.toString, .object [(kind.toString, asRead payload)])]) := by
    rw [envelopeDocument_eq, asRead]
    simp [asReadMembers, asRead, find?]
  rw [decodeDocument, hfind]
  simp only [decodeMeta_asRead, decodePayload, domainFromString_toString hd,
    kindFromString_toString hk]
  rfl

theorem decodeEnvelope_encodeTyped (floatText : Float → List Char) (metadata : EnvelopeMeta)
    (kind : EnvelopeMessageKind) (hk : kind ≠ .kUnknown) (payload : Json)
    (hp : Written floatText payload) :
    ∃ domain, domainForKind kind = some domain ∧
      decodeEnvelope (encodeTypedEnvelope floatText metadata kind payload) =
        .ok (some ⟨metadata, domain, kind, readBack floatText payload⟩) := by
  obtain ⟨domain, hdomain, hd⟩ := exists_domainForKind hk
  refine ⟨domain, hdomain, ?_⟩
  rw [encodeTypedEnvelope, hdomain]
  dsimp only
  rw [decodeEnvelope, encodeEnvelope,
    parse_dump_of_written (written_envelopeDocument metadata domain kind payload hp),
    Option.elim_some, readBack_envelopeDocument, decodeDocument_asRead metadata _ hd hk, readBack]

/-- What is written for a kind is read back : the metadata and the kind as they were, the
payload as it is written, up to the type an integer is held in, and the domain of the kind. -/
theorem decode_encode_typed (floatText : Float → List Char) (metadata : EnvelopeMeta)
    {kind : EnvelopeMessageKind} (hk : kind ≠ .kUnknown) {payload : Json}
    (hp : Written floatText payload) :
    ∃ domain payload', domainForKind kind = some domain ∧
      Same payload' (asWritten floatText payload) ∧
      decodeTypedEnvelope (encodeTypedEnvelope floatText metadata kind payload) =
        .ok (some ⟨metadata, kind, payload'⟩) ∧
      decodeEnvelope (encodeTypedEnvelope floatText metadata kind payload) =
        .ok (some ⟨metadata, domain, kind, payload'⟩) := by
  obtain ⟨domain, hdomain, hread⟩ := decodeEnvelope_encodeTyped floatText metadata kind hk payload hp
  refine ⟨domain, readBack floatText payload, hdomain, same_asRead _, ?_, hread⟩
  rw [decodeTypedEnvelope, hread]
  rfl

/-- The double of the text `1.5`. -/
def oneAndHalf : Float := .ofScientific 15 true 1

/-- How the library writes this double. -/
def oneAndHalfText (x : Float) : List Char := if x.isFinite then ['1', '.', '5'] else nullText

theorem written_oneAndHalf : Written oneAndHalfText (.float oneAndHalf) := by
  by_cases hfinite : oneAndHalf.isFinite
  · have htext : oneAndHalfText oneAndHalf = ['1', '.', '5'] := if_pos hfinite
    refine .inl ⟨⟨'1', ['.', '5'], htext, .inl (by decide)⟩, ?_, fun rest hrest => ?_⟩
    · intro c hc
      rw [htext] at hc
      simp only [List.mem_cons, List.not_mem_nil, or_false] at hc
      rcases hc with rfl | rfl | rfl <;> decide
    · have hdigits : parseDigits ('5' :: rest) = some (['5'], rest) := by
        have hspan : ('5' :: rest).span Char.isDigit = (['5'], rest) :=
          span_digits (by simp : ∀ c ∈ ['5'], c.isDigit) hrest
        rw [parseDigits, hspan]
        rfl
      have hnumber : makeFloat false (Nat.ofDigitChars 10 ['1', '5'] 0) (-1) =
          some (.float oneAndHalf) := by
        change (if oneAndHalf.isFinite then some (Json.float oneAndHalf) else none) = _
        exact if_pos hfinite
      have hwhole : parseWhole ('1' :: '.' :: '5' :: rest) = some (['1'], '.' :: '5' :: rest) :=
        rfl
      change parseUnsigned false (oneAndHalfText oneAndHalf ++ rest) = _
      rw [htext]
      simp only [parseUnsigned, List.cons_append, List.nil_append, hwhole, parseFraction, hdigits,
        parseExponent_of_follows hrest, Option.bind_eq_bind, Option.bind_some, Option.map_some]
      exact congrArg (Option.bind · _) hnumber
  · exact .inr (if_neg hfinite)

/-- A payload with a number that is held as a signed integer and a double. -/
theorem decode_encode_typed_submit : ∃ domain payload',
    domainForKind .kLeaderboardSubmitRequest = some domain ∧
    Same payload' (asWritten oneAndHalfText
      (.object [("score", .integer 7), ("weight", .float oneAndHalf)])) ∧
    decodeTypedEnvelope (encodeTypedEnvelope oneAndHalfText { errorCode := -3 }
      .kLeaderboardSubmitRequest (.object [("score", .integer 7), ("weight", .float oneAndHalf)])) =
      .ok (some ⟨{ errorCode := -3 }, .kLeaderboardSubmitRequest, payload'⟩) ∧
    decodeEnvelope (encodeTypedEnvelope oneAndHalfText { errorCode := -3 }
      .kLeaderboardSubmitRequest (.object [("score", .integer 7), ("weight", .float oneAndHalf)])) =
      .ok (some ⟨{ errorCode := -3 }, domain, .kLeaderboardSubmitRequest, payload'⟩) :=
  decode_encode_typed _ _ (by decide) ⟨by simp +decide, trivial, written_oneAndHalf, trivial⟩

/-- A double that is no number is written as `null`, and `null` is what is read. -/
theorem not_decode_encode_nan :
    decodeTypedEnvelope (encodeTypedEnvelope (fun _ => nullText) {} .kLeaderboardSubmitRequest
      (.object [("score", .float (0 / 0))])) =
      .ok (some ⟨{}, .kLeaderboardSubmitRequest, .object [("score", .null)]⟩) ∧
    ¬Same (.object [("score", .null)]) (.object [("score", .float (0 / 0))]) := by
  constructor
  · obtain ⟨domain, -, hread⟩ := decodeEnvelope_encodeTyped (fun _ => nullText) {}
      .kLeaderboardSubmitRequest (by decide) (.object [("score", .float (0 / 0))])
      ⟨by simp, .inr rfl, trivial⟩
    rw [decodeTypedEnvelope, hread]
    simp [readBack, asWritten, asWrittenMembers, asRead, asReadMembers, bind, Except.bind, pure,
      Except.pure]
  · simp [Same, asRead, asReadMembers]

end BoostGateway.Proto
