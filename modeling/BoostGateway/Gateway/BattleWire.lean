import BoostGateway.Base.Marker
import BoostGateway.Battle.BattleActor
import BoostGateway.Gateway.Protocol
import BoostGateway.Base.JsonRoundTrip

/-!
# Bodies of battle messages

The texts in which the gateway tells clients about battles, and how they are read
(`battle_protocol_codec.cpp`, `battle_wire_parser.cpp`). The fields of a text are not escaped.
-/

namespace BoostGateway.Gateway

open Battle

/-! ## Reading -/

/-- `parse_u64`. -/
def parseU64 (value : List Char) : Option UInt64 :=
  (digits? value).bind fun n => if n < 2 ^ 64 then some (.ofNat n) else none

def parseU32 (value : List Char) : Option UInt32 :=
  (parseU64 value).bind fun n => if n.toNat < 2 ^ 32 then some n.toUInt32 else none

/-- A segment of the loop of `parse_key_value_segments`. -/
def parseSegment (segment : String) : Option (String × String) :=
  match cut ['='] segment.toList with
  | some (key, value) =>
    if key = [] ∨ value = [] then none else some (String.ofList key, String.ofList value)
  | none => none

/-- The first of several fields with the same key is found (`emplace`). -/
def parseKeyValueSegments (body : String) (head : String) : Option (List (String × String)) :=
  (after head body.toList).bind fun rest => (split (String.ofList rest) ':').mapM parseSegment

/-- The fields of a started battle. -/
structure ParsedBattleStartedBody where
  roomId : String
  battleId : String
  deriving DecidableEq

/-- `parse_battle_started_body`. -/
def parseBattleStartedBody (body : String) : Option ParsedBattleStartedBody :=
  (parseKeyValueSegments body "battle_started:").bind fun fields =>
    match fields.lookup "room_id", fields.lookup "battle_id" with
    | some roomId, some battleId => some { roomId, battleId }
    | _, _ => none

/-- The fields of a state. -/
structure ParsedBattleStateBody where
  kind : String
  roomId : String
  battleId : String
  frame : Option UInt32 := none
  trigger : Option String := none
  reason : Option String := none
  userId : Option String := none
  deriving DecidableEq

/-- The value up to a marker, and what follows the marker where it is there. -/
def valueAndNext (marker : String) (cs : List Char) : List Char × Option String :=
  match cut marker.toList cs with
  | some (value, next) => (value, some (String.ofList next))
  | none => (cs, none)

/-- The fields after the battle id. -/
def parseBattleStateTail (parsed : ParsedBattleStateBody) (extra : List Char) :
    Option ParsedBattleStateBody :=
  match after "frame=" extra, after "reason=" extra with
  | some rest, _ =>
    let (value, trigger) := valueAndNext ":trigger=" rest
    (parseU32 value).map fun frame => { parsed with frame := some frame, trigger }
  | none, some rest =>
    let (value, userId) := valueAndNext ":user_id=" rest
    some { parsed with reason := some (String.ofList value), userId }
  | none, none => some parsed

/-- The reader from the battle id on. -/
def parseBattleStateEnd (kind roomId tail : List Char) : Option ParsedBattleStateBody :=
  let parsed (battleId : List Char) : ParsedBattleStateBody :=
    { kind := String.ofList kind, roomId := String.ofList roomId
      battleId := String.ofList battleId }
  match cut [':'] tail with
  | none => some (parsed tail)
  | some (battleId, extra) => parseBattleStateTail (parsed battleId) extra

/-- `parse_battle_state_body`. -/
def parseBattleStateBody (body : String) : Option ParsedBattleStateBody :=
  (after "battle_state:" body.toList).bind fun rest =>
    match cut "kind=".toList rest, cut ":room_id=".toList rest, cut ":battle_id=".toList rest with
    | some ([], _), some (beforeRoom, afterRoom), some (beforeBattle, tail) =>
      let roomValueStart := beforeRoom.length + ":room_id=".length
      -- The length of the room id wraps when the battle comes first.
      let roomId := if beforeBattle.length < roomValueStart then afterRoom
        else afterRoom.take (beforeBattle.length - roomValueStart)
      parseBattleStateEnd (beforeRoom.drop "kind=".length) roomId tail
    | _, _, _ => none

/-- The field of an answer. -/
structure ParsedBattleInputResponseBody where
  inputSeq : UInt64
  deriving DecidableEq

/-- `parse_battle_input_response_body`. -/
def parseBattleInputResponseBody (body : String) : Option ParsedBattleInputResponseBody :=
  (parseKeyValueSegments body "input_seq:").bind fun fields =>
    (fields.lookup "seq").bind fun seq =>
      (parseU64 seq.toList).map fun inputSeq => { inputSeq }

/-- The fields of an input. -/
structure ParsedBattleInputPushBody where
  userId : String
  inputSeq : UInt64
  inputData : String
  deriving DecidableEq

/-- `parse_battle_input_push_body`. -/
def parseBattleInputPushBody (body : String) : Option ParsedBattleInputPushBody :=
  (after "battle_input:user_id=" body.toList).bind fun rest =>
    (cut ":seq=".toList rest).bind fun (userId, rest) =>
      (cut ":input=".toList rest).bind fun (seq, input) =>
        (parseU64 seq).map fun inputSeq =>
          { userId := String.ofList userId, inputSeq, inputData := String.ofList input }

/-- The field of an accepted end. -/
structure ParsedBattleEndAcceptedBody where
  reason : BattleFinishReason
  deriving DecidableEq

/-- `parse_battle_end_accepted_body`. -/
def parseBattleEndAcceptedBody (body : String) : Option ParsedBattleEndAcceptedBody :=
  (after "battle_end_accepted:" body.toList).map fun reason =>
    { reason :=
        if reason = "surrender".toList then .kSurrender
        else if reason = "timeout".toList then .kTimeout
        else if reason = "frame_limit_reached".toList then .kFrameLimitReached
        else if reason = "player_disconnected".toList then .kPlayerDisconnected
        else if reason = "user_requested".toList then .kUserRequested
        else .kFinished }

/-- A body that was read. -/
inductive BattleWireBody
  | finishRequest (reason : BattleFinishReason)
  | started (body : ParsedBattleStartedBody)
  | state (body : ParsedBattleStateBody)
  | inputResponse (body : ParsedBattleInputResponseBody)
  | inputPush (body : ParsedBattleInputPushBody)
  | endAccepted (body : ParsedBattleEndAcceptedBody)
  deriving DecidableEq

/-- `parse_battle_wire_body`. -/
def parseBattleWireBody (body : String) : Option BattleWireBody :=
  (parseBattleFinishRequest body).map .finishRequest <|>
    (parseBattleStartedBody body).map .started <|>
    (parseBattleStateBody body).map .state <|>
    (parseBattleInputResponseBody body).map .inputResponse <|>
    (parseBattleInputPushBody body).map .inputPush <|>
    (parseBattleEndAcceptedBody body).map .endAccepted

/-! ## Writing -/

/-- `format_battle_input_push_body`. -/
def formatBattleInputPushBody (userId : String) (inputSeq : UInt64) (inputData : String) :
    String :=
  "battle_input:user_id=" ++ userId ++ ":seq=" ++ toString inputSeq.toNat ++ ":input=" ++ inputData

/-- `format_battle_frame_body`. -/
def formatBattleFrameBody (roomId battleId : String) (frameNumber : UInt32) (trigger : String) :
    String :=
  "battle_state:kind=frame:room_id=" ++ roomId ++ ":battle_id=" ++ battleId ++ ":frame=" ++
    toString frameNumber.toNat ++ ":trigger=" ++ trigger

/-- The text of the two messages at the end of a battle. -/
def formatBattleEndBody (kind roomId battleId : String) (reason : BattleFinishReason)
    (triggeringUserId : String) : String :=
  "battle_state:kind=" ++ kind ++ ":room_id=" ++ roomId ++ ":battle_id=" ++ battleId ++
    ":reason=" ++ reason.toString ++ ":user_id=" ++ triggeringUserId

/-- `format_battle_settlement_body`. -/
def formatBattleSettlementBody (settlement : BattleSettlementPreparedMsg) : String :=
  formatBattleEndBody "settlement" settlement.roomId settlement.battleId settlement.reason
    settlement.triggeringUserId

/-- `format_battle_finished_body`. -/
def formatBattleFinishedBody (roomId battleId : String) (reason : BattleFinishReason)
    (triggeringUserId : String) : String :=
  formatBattleEndBody "finished" roomId battleId reason triggeringUserId

/-! ## Round trips -/

/-- What the gateway writes about a battle. -/
inductive BattleBody
  | started (roomId battleId : String)
  | state (roomId battleId : String)
  | frame (roomId battleId : String) (frameNumber : UInt32) (trigger : String)
  | settlement (msg : BattleSettlementPreparedMsg)
  | finished (roomId battleId : String) (reason : BattleFinishReason) (triggeringUserId : String)
  | inputResponse (inputSeq : UInt64)
  | inputPush (userId : String) (inputSeq : UInt64) (inputData : String)
  | endAccepted (reason : BattleFinishReason)

namespace BattleBody

/-- The text of a body. -/
def format : BattleBody → String
  | started roomId battleId => formatBattleStartedBody roomId battleId
  | state roomId battleId => formatBattleStateBody roomId battleId
  | frame roomId battleId frameNumber trigger =>
    formatBattleFrameBody roomId battleId frameNumber trigger
  | settlement msg => formatBattleSettlementBody msg
  | finished roomId battleId reason triggeringUserId =>
    formatBattleFinishedBody roomId battleId reason triggeringUserId
  | inputResponse inputSeq => formatBattleInputResponseBody inputSeq
  | inputPush userId inputSeq inputData => formatBattleInputPushBody userId inputSeq inputData
  | endAccepted reason => formatBattleEndAcceptedBody reason

/-- The same fields, as a reader has them. -/
def wire : BattleBody → BattleWireBody
  | started roomId battleId => .started { roomId, battleId }
  | state roomId battleId => .state { kind := "started", roomId, battleId }
  | frame roomId battleId frameNumber trigger =>
    .state { kind := "frame", roomId, battleId, frame := some frameNumber, trigger := some trigger }
  | settlement msg =>
    .state { kind := "settlement", roomId := msg.roomId, battleId := msg.battleId
             reason := some msg.reason.toString, userId := some msg.triggeringUserId }
  | finished roomId battleId reason triggeringUserId =>
    .state { kind := "finished", roomId, battleId, reason := some reason.toString
             userId := some triggeringUserId }
  | inputResponse inputSeq => .inputResponse { inputSeq }
  | inputPush userId inputSeq inputData => .inputPush { userId, inputSeq, inputData }
  | endAccepted reason => .endAccepted { reason }

/-- The ids of a `battle_state` text end where the reader looks for their end. -/
def StateIds (roomId battleId : String) : Prop :=
  ¬":battle_id=".toList <:+: roomId.toList ∧ ':' ∉ battleId.toList

/-- No field contains the marker that ends it. -/
def Separable : BattleBody → Prop
  | started roomId battleId =>
    roomId ≠ "" ∧ battleId ≠ "" ∧ ':' ∉ roomId.toList ∧ ':' ∉ battleId.toList
  | state roomId battleId | frame roomId battleId _ _ | finished roomId battleId _ _ =>
    StateIds roomId battleId
  | settlement msg => StateIds msg.roomId msg.battleId
  | inputPush userId _ _ => ¬":seq=".toList <:+: userId.toList
  | inputResponse _ | endAccepted _ => True

end BattleBody

/-! ## Numbers and segments -/

theorem after_append (head : String) (cs : List Char) :
    after head (head.toList ++ cs) = some cs := by
  rw [after, if_pos (by simp), List.drop_left]

theorem toList_toString (n : ℕ) : (toString n).toList = Nat.toDigits 10 n := by
  simp [toString, Nat.repr]

theorem digits?_toDigits (n : ℕ) : digits? (Nat.toDigits 10 n) = some n := by
  have hvalue := Nat.ofDigitChars_toDigits (n := n) (by decide : 1 < 10) (Nat.le_refl 10)
  obtain ⟨c, cs, heq, -⟩ := Json.toDigits_cons n
  rw [digits?, if_pos ⟨by simp [heq], List.all_eq_true.mpr fun _ => Json.isDigit_of_mem_toDigits⟩]
  rw [Nat.ofDigitChars_eq_foldl] at hvalue
  exact congrArg some hvalue

theorem parseU64_toString (n : UInt64) : parseU64 (toString n.toNat).toList = some n := by
  rw [parseU64, toList_toString, digits?_toDigits, Option.bind_some, if_pos n.toNat_lt]
  simp

theorem parseU32_toString (n : UInt32) : parseU32 (toString n.toNat).toList = some n := by
  have h := parseU64_toString n.toUInt64
  rw [UInt32.toNat_toUInt64] at h
  rw [parseU32, h, Option.bind_some, if_pos (by simpa using n.toNat_lt)]
  simp

/-- There is no colon in a number. -/
theorem notMem_toString (n : ℕ) : ':' ∉ (toString n).toList := by
  rw [toList_toString]
  exact fun h => absurd (Json.isDigit_of_mem_toDigits h) (by decide)

theorem split_append {a b : List Char} (ha : ':' ∉ a) :
    split (String.ofList (a ++ ':' :: b)) ':' = String.ofList a :: split (String.ofList b) ':' := by
  have hne := List.splitOn_ne_nil ':' b
  simp only [split, String.toList_ofList, List.splitOn_append_cons_self_of_not_mem ha]
  generalize b.splitOn ':' = parts at hne
  cases parts with
  | nil => exact absurd rfl hne
  | cons part parts =>
    rw [List.getLast?_cons_cons, List.dropLast_cons_cons]
    split_ifs <;> rfl

theorem split_of_notMem {a : List Char} (ha : ':' ∉ a) (hne : a ≠ []) :
    split (String.ofList a) ':' = [String.ofList a] := by
  simp [split, List.splitOn_eq_singleton ha, hne]

theorem parseSegment_append {key value : List Char} (hkey : '=' ∉ key) (hne : key ≠ []) :
    parseSegment (String.ofList (key ++ '=' :: value)) =
      if value = [] then none else some (String.ofList key, String.ofList value) := by
  have hcut : cut ['='] (key ++ '=' :: value) = some (key, value) := by
    have h : cut ['='] (key ++ ['='] ++ value) = some (key, value) := cut_append (by simp [IsMarker])
      (by rwa [List.singleton_infix_iff])
    simpa using h
  rw [parseSegment, String.toList_ofList, hcut]
  simp [hne]

/-! ## Which reader takes a text -/

section

variable {body : String} {cs : List Char}

theorem parseBattleFinishRequest_eq_none (h : body.toList = cs)
    (hcs : after "finish:" cs = none) : parseBattleFinishRequest body = none := by
  rw [parseBattleFinishRequest, h, hcs]
  rfl

theorem parseKeyValueSegments_eq_none {head : String} (h : body.toList = cs)
    (hcs : after head cs = none) : parseKeyValueSegments body head = none := by
  rw [parseKeyValueSegments, h, hcs]
  rfl

theorem parseBattleStartedBody_eq_none (h : body.toList = cs)
    (hcs : after "battle_started:" cs = none) : parseBattleStartedBody body = none := by
  rw [parseBattleStartedBody, parseKeyValueSegments_eq_none h hcs]
  rfl

theorem parseBattleStateBody_eq_none (h : body.toList = cs)
    (hcs : after "battle_state:" cs = none) : parseBattleStateBody body = none := by
  rw [parseBattleStateBody, h, hcs]
  rfl

theorem parseBattleInputResponseBody_eq_none (h : body.toList = cs)
    (hcs : after "input_seq:" cs = none) : parseBattleInputResponseBody body = none := by
  rw [parseBattleInputResponseBody, parseKeyValueSegments_eq_none h hcs]
  rfl

theorem parseBattleInputPushBody_eq_none (h : body.toList = cs)
    (hcs : after "battle_input:user_id=" cs = none) : parseBattleInputPushBody body = none := by
  rw [parseBattleInputPushBody, h, hcs]
  rfl

theorem parseBattleEndAcceptedBody_eq_none (h : body.toList = cs)
    (hcs : after "battle_end_accepted:" cs = none) : parseBattleEndAcceptedBody body = none := by
  rw [parseBattleEndAcceptedBody, h, hcs]
  rfl

theorem parseBattleWireBody_started (h : body.toList = "battle_started:".toList ++ cs) :
    parseBattleWireBody body = (parseBattleStartedBody body).map .started := by
  rw [parseBattleWireBody, parseBattleFinishRequest_eq_none h rfl,
    parseBattleStateBody_eq_none h rfl, parseBattleInputResponseBody_eq_none h rfl,
    parseBattleInputPushBody_eq_none h rfl, parseBattleEndAcceptedBody_eq_none h rfl]
  cases parseBattleStartedBody body <;> rfl

theorem parseBattleWireBody_state (h : body.toList = "battle_state:".toList ++ cs) :
    parseBattleWireBody body = (parseBattleStateBody body).map .state := by
  rw [parseBattleWireBody, parseBattleFinishRequest_eq_none h rfl,
    parseBattleStartedBody_eq_none h rfl, parseBattleInputResponseBody_eq_none h rfl,
    parseBattleInputPushBody_eq_none h rfl, parseBattleEndAcceptedBody_eq_none h rfl]
  cases parseBattleStateBody body <;> rfl

theorem parseBattleWireBody_inputResponse (h : body.toList = "input_seq:".toList ++ cs) :
    parseBattleWireBody body = (parseBattleInputResponseBody body).map .inputResponse := by
  rw [parseBattleWireBody, parseBattleFinishRequest_eq_none h rfl,
    parseBattleStartedBody_eq_none h rfl, parseBattleStateBody_eq_none h rfl,
    parseBattleInputPushBody_eq_none h rfl, parseBattleEndAcceptedBody_eq_none h rfl]
  cases parseBattleInputResponseBody body <;> rfl

theorem parseBattleWireBody_inputPush (h : body.toList = "battle_input:user_id=".toList ++ cs) :
    parseBattleWireBody body = (parseBattleInputPushBody body).map .inputPush := by
  rw [parseBattleWireBody, parseBattleFinishRequest_eq_none h rfl,
    parseBattleStartedBody_eq_none h rfl, parseBattleStateBody_eq_none h rfl,
    parseBattleInputResponseBody_eq_none h rfl, parseBattleEndAcceptedBody_eq_none h rfl]
  cases parseBattleInputPushBody body <;> rfl

theorem parseBattleWireBody_endAccepted (h : body.toList = "battle_end_accepted:".toList ++ cs) :
    parseBattleWireBody body = (parseBattleEndAcceptedBody body).map .endAccepted := by
  rw [parseBattleWireBody, parseBattleFinishRequest_eq_none h rfl,
    parseBattleStartedBody_eq_none h rfl, parseBattleStateBody_eq_none h rfl,
    parseBattleInputResponseBody_eq_none h rfl, parseBattleInputPushBody_eq_none h rfl]
  cases parseBattleEndAcceptedBody body <;> rfl

end

/-! ## The text of a start -/

theorem notMem_of_mem_splitOn {c : Char} {cs part : List Char} (h : part ∈ cs.splitOn c) :
    c ∉ part := by
  induction cs generalizing part with
  | nil =>
    obtain rfl : part = [] := by simpa using h
    exact List.not_mem_nil
  | cons x cs ih =>
    rw [List.splitOn_cons_eq_if_modifyHead] at h
    have hne := List.splitOn_ne_nil c cs
    generalize cs.splitOn c = parts at h ih hne
    cases parts with
    | nil => exact absurd rfl hne
    | cons head parts =>
      split_ifs at h with hx
      · rcases List.mem_cons.mp h with rfl | h
        · exact List.not_mem_nil
        · exact ih h
      · rcases List.mem_cons.mp h with rfl | h
        · have hhead := ih (List.mem_cons_self)
          rintro (_ | ⟨_, hmem⟩)
          · exact hx (beq_self_eq_true c)
          · exact hhead hmem
        · exact ih (List.mem_cons_of_mem head h)

theorem notMem_of_mem_split {body part : String} {c : Char} (h : part ∈ split body c) :
    c ∉ part.toList := by
  obtain ⟨cs, hcs, rfl⟩ := List.mem_map.mp h
  rw [String.toList_ofList]
  refine notMem_of_mem_splitOn (?_ : cs ∈ body.toList.splitOn c)
  split_ifs at hcs
  · exact List.mem_of_mem_dropLast hcs
  · exact hcs

theorem exists_of_mem_mapM {α β : Type} {f : α → Option β} {xs : List α} {ys : List β}
    (h : xs.mapM f = some ys) {y : β} (hy : y ∈ ys) : ∃ x ∈ xs, f x = some y := by
  induction xs generalizing ys with
  | nil =>
    obtain rfl : ys = [] := by simpa [eq_comm] using h
    cases hy
  | cons x xs ih =>
    rw [List.mapM_cons] at h
    obtain ⟨z, hz, h⟩ := Option.bind_eq_some_iff.mp h
    obtain ⟨zs, hzs, h⟩ := Option.bind_eq_some_iff.mp h
    obtain rfl : z :: zs = ys := Option.some.inj h
    rcases List.mem_cons.mp hy with rfl | hy
    · exact ⟨x, List.mem_cons_self, hz⟩
    · obtain ⟨x', hx', hf⟩ := ih hzs hy
      exact ⟨x', List.mem_cons_of_mem x hx', hf⟩

theorem mem_of_lookup {key value : String} {fields : List (String × String)}
    (h : fields.lookup key = some value) : (key, value) ∈ fields := by
  obtain ⟨l₁, l₂, rfl, -⟩ := List.lookup_eq_some_iff.mp h
  simp

/-- No field of a text taken apart at its colons is empty or has a colon in it. -/
theorem parseKeyValueSegments_value {body head : String} {fields : List (String × String)}
    (h : parseKeyValueSegments body head = some fields) {f : String × String} (hf : f ∈ fields) :
    f.2 ≠ "" ∧ ':' ∉ f.2.toList := by
  obtain ⟨rest, -, hmap⟩ := Option.bind_eq_some_iff.mp h
  obtain ⟨segment, hsegment, hparse⟩ : ∃ segment ∈ split (String.ofList rest) ':',
      parseSegment segment = some f := exists_of_mem_mapM hmap hf
  rw [parseSegment] at hparse
  split at hparse
  · rename_i key value hcut
    split_ifs at hparse with hempty
    obtain rfl := Option.some.inj hparse
    refine ⟨fun hnil => hempty (Or.inr (by simpa using hnil)), ?_⟩
    rw [String.toList_ofList]
    have hnot := notMem_of_mem_split hsegment
    rw [← append_of_cut hcut] at hnot
    exact fun hmem => hnot (List.mem_append_right _ hmem)
  · cases hparse

theorem toList_formatBattleStartedBody (roomId battleId : String) :
    (formatBattleStartedBody roomId battleId).toList = "battle_started:".toList ++
      ("room_id".toList ++ '=' :: roomId.toList ++
        ':' :: ("battle_id".toList ++ '=' :: battleId.toList)) := by
  have h₁ : "battle_started:room_id=".toList =
      "battle_started:".toList ++ ("room_id".toList ++ ['=']) := by simp
  have h₂ : ":battle_id=".toList = ':' :: ("battle_id".toList ++ ['=']) := by simp
  change ("battle_started:room_id=" ++ roomId ++ ":battle_id=" ++ battleId).toList = _
  simp only [String.toList_append, h₁, h₂, List.append_assoc, List.cons_append, List.nil_append]

theorem parseBattleStartedBody_format (roomId battleId : String) :
    parseBattleStartedBody (formatBattleStartedBody roomId battleId) =
        some { roomId, battleId } ↔
      roomId ≠ "" ∧ battleId ≠ "" ∧ ':' ∉ roomId.toList ∧ ':' ∉ battleId.toList := by
  constructor
  · intro h
    obtain ⟨fields, hfields, h⟩ := Option.bind_eq_some_iff.mp h
    split at h
    · rename_i room battle hroom hbattle
      obtain ⟨rfl, rfl⟩ : room = roomId ∧ battle = battleId := by simpa using h
      have hr := parseKeyValueSegments_value hfields (mem_of_lookup hroom)
      have hb := parseKeyValueSegments_value hfields (mem_of_lookup hbattle)
      exact ⟨hr.1, hb.1, hr.2, hb.2⟩
    · cases h
  · rintro ⟨hroom, hbattle, hr, hb⟩
    have hr' : ':' ∉ "room_id".toList ++ '=' :: roomId.toList := by simpa using hr
    have hb' : ':' ∉ "battle_id".toList ++ '=' :: battleId.toList := by simpa using hb
    rw [parseBattleStartedBody, parseKeyValueSegments, toList_formatBattleStartedBody,
      after_append, Option.bind_some, split_append hr', split_of_notMem hb' (by simp),
      List.mapM_cons, List.mapM_cons, List.mapM_nil,
      parseSegment_append (by simp) (by simp), parseSegment_append (by simp) (by simp),
      if_neg (by simpa using hroom), if_neg (by simpa using hbattle)]
    simp only [String.ofList_toList]
    rfl

/-! ## Texts about the state -/

theorem parseBattleStateTail_ids {parsed p : ParsedBattleStateBody} {extra : List Char}
    (h : parseBattleStateTail parsed extra = some p) :
    p.roomId = parsed.roomId ∧ p.battleId = parsed.battleId := by
  rw [parseBattleStateTail] at h
  split at h
  · obtain ⟨frame, -, rfl⟩ := Option.map_eq_some_iff.mp h
    exact ⟨rfl, rfl⟩
  · obtain rfl := Option.some.inj h
    exact ⟨rfl, rfl⟩
  · obtain rfl := Option.some.inj h
    exact ⟨rfl, rfl⟩

section

variable {body : String} {kind room battle tail : List Char}

/-- What stands before the battle id. -/
def stateHead (kind room : List Char) : List Char :=
  "kind=".toList ++ kind ++ ":room_id=".toList ++ room

theorem stateHead_eq (kind room : List Char) :
    stateHead kind room = "kind=".toList ++ kind ++ ":room_id=".toList ++ room := by
  unfold stateHead
  rfl

theorem infix_stateHead (hkind : ':' ∉ kind) :
    ":battle_id=".toList <:+: stateHead kind room ↔ ":battle_id=".toList <:+: room := by
  have hk : ':' ∉ "kind=".toList ++ kind := by simpa using hkind
  have hb : ":battle_id=".toList = ':' :: "battle_id=".toList := by simp
  have hr : ":room_id=".toList = ':' :: "room_id=".toList := by simp
  rw [stateHead_eq, List.append_assoc, hb, infix_append_iff hk, hr, List.cons_append,
    List.infix_cons_iff, or_iff_right, infix_append_iff (by simp)]
  simp

theorem cut_kind (hkind : ':' ∉ kind) (cs : List Char) :
    cut ":room_id=".toList ("kind=".toList ++ kind ++ ":room_id=".toList ++ cs) =
      some ("kind=".toList ++ kind, cs) := by
  refine cut_append (by simp [IsMarker]) ?_
  have hk : ':' ∉ "kind=".toList ++ kind := by simpa using hkind
  have hr : ":room_id=".toList = ':' :: "room_id=".toList := by simp
  rw [hr, ← List.append_nil ("kind=".toList ++ kind), infix_append_iff hk]
  simp

/-- What is read when a battle id is found at all. -/
theorem parseBattleStateBody_of_cut {beforeBattle : List Char} (hkind : ':' ∉ kind)
    (hbody : body.toList = "battle_state:".toList ++ (stateHead kind room ++ tail))
    (hcut : cut ":battle_id=".toList (stateHead kind room ++ tail) = some (beforeBattle, battle)) :
    parseBattleStateBody body = parseBattleStateEnd kind
      (if beforeBattle.length < (stateHead kind []).length then room ++ tail
        else (room ++ tail).take (beforeBattle.length - (stateHead kind []).length)) battle := by
  have hkindPos : cut "kind=".toList (stateHead kind room ++ tail) =
      some ([], (stateHead kind room ++ tail).drop "kind=".toList.length) :=
    cut_of_prefix ⟨kind ++ ":room_id=".toList ++ room ++ tail, by simp [stateHead_eq]⟩
  have hroomPos : cut ":room_id=".toList (stateHead kind room ++ tail) =
      some ("kind=".toList ++ kind, room ++ tail) := by
    rw [stateHead_eq, List.append_assoc, cut_kind hkind]
  have hdrop : ("kind=".toList ++ kind).drop "kind=".length = kind := List.drop_left
  have hlen : ("kind=".toList ++ kind).length + ":room_id=".length =
      (stateHead kind []).length := by
    rw [stateHead_eq, List.append_nil, ← String.length_toList, ← List.length_append]
  rw [parseBattleStateBody, hbody, after_append, Option.bind_some, hkindPos, hroomPos, hcut]
  simp only [hdrop, hlen]

theorem length_stateHead : (stateHead kind room).length =
    (stateHead kind []).length + room.length := by
  rw [stateHead_eq, stateHead_eq, List.append_nil, List.length_append]

theorem parseBattleStateBody_of_unmarked (hkind : ':' ∉ kind)
    (hroom : ¬":battle_id=".toList <:+: room)
    (hbody : body.toList =
      "battle_state:".toList ++ (stateHead kind room ++ (":battle_id=".toList ++ tail))) :
    parseBattleStateBody body = parseBattleStateEnd kind room tail := by
  have hcut : cut ":battle_id=".toList (stateHead kind room ++ (":battle_id=".toList ++ tail)) =
      some (stateHead kind room, tail) := by
    rw [← List.append_assoc, cut_append (by simp [IsMarker]) (mt (infix_stateHead hkind).mp hroom)]
  rw [parseBattleStateBody_of_cut hkind hbody hcut, length_stateHead, if_neg (by omega),
    Nat.add_sub_cancel_left, List.take_left]

theorem parseBattleStateEnd_ids {p : ParsedBattleStateBody}
    (h : parseBattleStateEnd kind room tail = some p) :
    p.roomId = String.ofList room ∧ ':' ∉ p.battleId.toList := by
  rw [parseBattleStateEnd] at h
  split at h
  · rename_i hcut
    obtain rfl := Option.some.inj h
    have hnot := (cut_eq_none_iff (by simp)).mp hcut
    exact ⟨rfl, by rwa [String.toList_ofList, ← List.singleton_infix_iff]⟩
  · rename_i battleId extra hcut
    obtain ⟨hr, hb⟩ := parseBattleStateTail_ids h
    have hnot := not_infix_of_cut (by simp) hcut
    rw [List.singleton_infix_iff] at hnot
    exact ⟨hr, by rwa [hb, String.toList_ofList]⟩

theorem parseBattleStateEnd_of_notMem (htail : ':' ∉ tail) :
    parseBattleStateEnd kind room tail = some
      { kind := String.ofList kind, roomId := String.ofList room
        battleId := String.ofList tail } := by
  have hcut : cut [':'] tail = none :=
    (cut_eq_none_iff (by simp)).mpr (by rwa [List.singleton_infix_iff])
  rw [parseBattleStateEnd, hcut]

theorem parseBattleStateEnd_append {extra : List Char} (hbattle : ':' ∉ battle) :
    parseBattleStateEnd kind room (battle ++ ':' :: extra) = parseBattleStateTail
      { kind := String.ofList kind, roomId := String.ofList room
        battleId := String.ofList battle } extra := by
  have hcut : cut [':'] (battle ++ [':'] ++ extra) = some (battle, extra) :=
    cut_append (by simp [IsMarker]) (by rwa [List.singleton_infix_iff])
  rw [List.append_assoc, List.singleton_append] at hcut
  rw [parseBattleStateEnd, hcut]

/-- A value without a colon is read up to a marker that begins with one. -/
theorem valueAndNext_append {marker : String} {m value next : List Char}
    (hmarker : marker.toList = ':' :: m) (hm : ':' ∉ m) (hvalue : ':' ∉ value) :
    valueAndNext marker (value ++ marker.toList ++ next) = (value, some (String.ofList next)) := by
  have hnot : ¬(':' :: m <:+: value) := by
    rw [← List.append_nil value, infix_append_iff hvalue]
    simp
  have hcut : cut (':' :: m) (value ++ ':' :: m ++ next) = some (value, next) := cut_append hm hnot
  rw [valueAndNext, hmarker, hcut]

theorem parseBattleStateTail_frame (parsed : ParsedBattleStateBody) (frameNumber : UInt32)
    (trigger : String) :
    parseBattleStateTail parsed ("frame=".toList ++
        ((toString frameNumber.toNat).toList ++ ":trigger=".toList ++ trigger.toList)) =
      some { parsed with frame := some frameNumber, trigger := some trigger } := by
  have hmarker : ":trigger=".toList = ':' :: "trigger=".toList := by simp
  rw [parseBattleStateTail, after_append]
  simp only [valueAndNext_append hmarker (by simp) (notMem_toString frameNumber.toNat),
    parseU32_toString, Option.map_some, String.ofList_toList]

theorem parseBattleStateTail_reason (parsed : ParsedBattleStateBody) (reason : BattleFinishReason)
    (userId : String) :
    parseBattleStateTail parsed ("reason=".toList ++
        (reason.toString.toList ++ ":user_id=".toList ++ userId.toList)) =
      some { parsed with reason := some reason.toString, userId := some userId } := by
  have hmarker : ":user_id=".toList = ':' :: "user_id=".toList := by simp
  have hreason : ':' ∉ reason.toString.toList := by cases reason <;> decide
  have hframe (cs : List Char) : after "frame=" ("reason=".toList ++ cs) = none := rfl
  rw [parseBattleStateTail, hframe, after_append]
  simp only [valueAndNext_append hmarker (by simp) hreason, String.ofList_toList]

/-- What is read of a text with wrong ids in it is not what was written. -/
theorem stateIds_of_parse {roomId battleId : String} {p : ParsedBattleStateBody}
    (hkind : ':' ∉ kind) (hbody : body.toList = "battle_state:".toList ++
      (stateHead kind roomId.toList ++ (":battle_id=".toList ++ tail)))
    (h : parseBattleStateBody body = some p) (hroom : p.roomId = roomId)
    (hbattle : p.battleId = battleId) : BattleBody.StateIds roomId battleId := by
  suffices hroom' : ¬":battle_id=".toList <:+: roomId.toList by
    rw [parseBattleStateBody_of_unmarked hkind hroom' hbody] at h
    exact ⟨hroom', hbattle ▸ (parseBattleStateEnd_ids h).2⟩
  intro hinfix
  obtain ⟨beforeBattle, rest, hcut, hlt⟩ := cut_append_of_infix (by simp)
    ((infix_stateHead hkind).mpr hinfix) (":battle_id=".toList ++ tail)
  rw [parseBattleStateBody_of_cut hkind hbody hcut] at h
  have hlen := congrArg (List.length ∘ String.toList)
    ((parseBattleStateEnd_ids h).1.symm.trans hroom)
  rw [length_stateHead] at hlt
  simp only [Function.comp_apply, String.toList_ofList] at hlen
  split_ifs at hlen with hstart
  · simp at hlen
  · rw [List.length_take] at hlen
    omega

/-- A text about the state, from the head of its kind on. -/
theorem parseBattleWireBody_stateHead {roomId battleId : String} {p : ParsedBattleStateBody}
    (hkind : ':' ∉ kind) (hbody : body.toList = "battle_state:".toList ++
      (stateHead kind roomId.toList ++ (":battle_id=".toList ++ (battleId.toList ++ tail))))
    (hparse : ':' ∉ battleId.toList →
      parseBattleStateEnd kind roomId.toList (battleId.toList ++ tail) = some p)
    (hroom : p.roomId = roomId) (hbattle : p.battleId = battleId) :
    parseBattleWireBody body = some (.state p) ↔ BattleBody.StateIds roomId battleId := by
  rw [parseBattleWireBody_state hbody, Option.map_eq_some_iff]
  constructor
  · rintro ⟨q, hq, heq⟩
    obtain rfl := BattleWireBody.state.inj heq
    exact stateIds_of_parse hkind hbody hq hroom hbattle
  · rintro ⟨hr, hb⟩
    exact ⟨p, by rw [parseBattleStateBody_of_unmarked hkind hr hbody, hparse hb], rfl⟩

end

theorem parseBattleWireBody_formatState (roomId battleId : String) :
    parseBattleWireBody (formatBattleStateBody roomId battleId) =
        some (.state { kind := "started", roomId, battleId }) ↔
      BattleBody.StateIds roomId battleId := by
  have h₁ : "battle_state:kind=started:room_id=".toList =
      "battle_state:".toList ++ stateHead "started".toList [] := by simp [stateHead_eq]
  have hbody : (formatBattleStateBody roomId battleId).toList = "battle_state:".toList ++
      (stateHead "started".toList roomId.toList ++
        (":battle_id=".toList ++ (battleId.toList ++ []))) := by
    change ("battle_state:kind=started:room_id=" ++ roomId ++ ":battle_id=" ++ battleId).toList = _
    simp only [String.toList_append, h₁, stateHead_eq, List.append_assoc, List.append_nil]
  refine parseBattleWireBody_stateHead (by simp) hbody (fun hb => ?_) rfl rfl
  rw [List.append_nil, parseBattleStateEnd_of_notMem hb]
  simp only [String.ofList_toList]

theorem parseBattleWireBody_formatFrame (roomId battleId : String) (frameNumber : UInt32)
    (trigger : String) :
    parseBattleWireBody (formatBattleFrameBody roomId battleId frameNumber trigger) =
        some (.state { kind := "frame", roomId, battleId, frame := some frameNumber
                       trigger := some trigger }) ↔
      BattleBody.StateIds roomId battleId := by
  have h₁ : "battle_state:kind=frame:room_id=".toList =
      "battle_state:".toList ++ stateHead "frame".toList [] := by simp [stateHead_eq]
  have h₂ : ":frame=".toList = ':' :: "frame=".toList := by simp
  have hbody : (formatBattleFrameBody roomId battleId frameNumber trigger).toList =
      "battle_state:".toList ++ (stateHead "frame".toList roomId.toList ++
        (":battle_id=".toList ++ (battleId.toList ++ ':' :: ("frame=".toList ++
          ((toString frameNumber.toNat).toList ++ ":trigger=".toList ++ trigger.toList))))) := by
    change ("battle_state:kind=frame:room_id=" ++ roomId ++ ":battle_id=" ++ battleId ++
      ":frame=" ++ toString frameNumber.toNat ++ ":trigger=" ++ trigger).toList = _
    simp only [String.toList_append, h₁, h₂, stateHead_eq, List.append_assoc, List.append_nil,
      List.cons_append]
  refine parseBattleWireBody_stateHead (by simp) hbody (fun hb => ?_) rfl rfl
  rw [parseBattleStateEnd_append hb, parseBattleStateTail_frame]
  simp only [String.ofList_toList]

theorem parseBattleWireBody_formatEnd {kind : String} (hkind : ':' ∉ kind.toList)
    (roomId battleId : String) (reason : BattleFinishReason) (userId : String) :
    parseBattleWireBody (formatBattleEndBody kind roomId battleId reason userId) =
        some (.state { kind, roomId, battleId, reason := some reason.toString
                       userId := some userId }) ↔
      BattleBody.StateIds roomId battleId := by
  have h₁ : "battle_state:kind=".toList = "battle_state:".toList ++ "kind=".toList := by simp
  have h₂ : ":reason=".toList = ':' :: "reason=".toList := by simp
  have hbody : (formatBattleEndBody kind roomId battleId reason userId).toList =
      "battle_state:".toList ++ (stateHead kind.toList roomId.toList ++
        (":battle_id=".toList ++ (battleId.toList ++ ':' :: ("reason=".toList ++
          (reason.toString.toList ++ ":user_id=".toList ++ userId.toList))))) := by
    change ("battle_state:kind=" ++ kind ++ ":room_id=" ++ roomId ++ ":battle_id=" ++ battleId ++
      ":reason=" ++ reason.toString ++ ":user_id=" ++ userId).toList = _
    simp only [String.toList_append, h₁, h₂, stateHead_eq, List.append_assoc, List.cons_append]
  refine parseBattleWireBody_stateHead hkind hbody (fun hb => ?_) rfl rfl
  rw [parseBattleStateEnd_append hb, parseBattleStateTail_reason]
  simp only [String.ofList_toList]

/-! ## Texts about inputs and the end -/

theorem parseBattleWireBody_formatInputResponse (inputSeq : UInt64) :
    parseBattleWireBody (formatBattleInputResponseBody inputSeq) =
      some (.inputResponse { inputSeq }) := by
  have h₁ : "input_seq:seq=".toList = "input_seq:".toList ++ ("seq".toList ++ ['=']) := by simp
  have hbody : (formatBattleInputResponseBody inputSeq).toList = "input_seq:".toList ++
      ("seq".toList ++ '=' :: (toString inputSeq.toNat).toList) := by
    change ("input_seq:seq=" ++ toString inputSeq.toNat).toList = _
    simp only [String.toList_append, h₁, List.append_assoc, List.cons_append, List.nil_append]
  have hnot : ':' ∉ "seq".toList ++ '=' :: (toString inputSeq.toNat).toList := by
    simpa using notMem_toString inputSeq.toNat
  have hne : (toString inputSeq.toNat).toList ≠ [] := by
    obtain ⟨c, cs, heq, -⟩ := Json.toDigits_cons inputSeq.toNat
    rw [toList_toString, heq]
    exact List.cons_ne_nil c cs
  have hfields : parseKeyValueSegments (formatBattleInputResponseBody inputSeq) "input_seq:" =
      some [("seq", toString inputSeq.toNat)] := by
    rw [parseKeyValueSegments, hbody, after_append, Option.bind_some,
      split_of_notMem hnot (by simp), List.mapM_cons, List.mapM_nil,
      parseSegment_append (by simp) (by simp), if_neg hne]
    simp only [String.ofList_toList]
    rfl
  have hlookup : [("seq", toString inputSeq.toNat)].lookup "seq" =
      some (toString inputSeq.toNat) := rfl
  rw [parseBattleWireBody_inputResponse hbody, parseBattleInputResponseBody, hfields,
    Option.bind_some, hlookup, Option.bind_some, parseU64_toString]
  rfl

theorem parseBattleWireBody_formatInputPush (userId : String) (inputSeq : UInt64)
    (inputData : String) :
    parseBattleWireBody (formatBattleInputPushBody userId inputSeq inputData) =
        some (.inputPush { userId, inputSeq, inputData }) ↔
      ¬":seq=".toList <:+: userId.toList := by
  have hbody : (formatBattleInputPushBody userId inputSeq inputData).toList =
      "battle_input:user_id=".toList ++ (userId.toList ++ ":seq=".toList ++
        ((toString inputSeq.toNat).toList ++ ":input=".toList ++ inputData.toList)) := by
    change ("battle_input:user_id=" ++ userId ++ ":seq=" ++ toString inputSeq.toNat ++
      ":input=" ++ inputData).toList = _
    simp only [String.toList_append, List.append_assoc]
  have hmarker : IsMarker ":seq=".toList := by simp [IsMarker]
  have hinput : cut ":input=".toList
      ((toString inputSeq.toNat).toList ++ ":input=".toList ++ inputData.toList) =
        some ((toString inputSeq.toNat).toList, inputData.toList) := by
    refine cut_append (by simp [IsMarker]) fun hi => notMem_toString inputSeq.toNat ?_
    exact hi.subset (by simp)
  rw [parseBattleWireBody_inputPush hbody, parseBattleInputPushBody, hbody, after_append,
    Option.bind_some]
  constructor
  · intro h
    rw [← cut_append_eq_iff hmarker]
    obtain ⟨body, h, heq⟩ := Option.map_eq_some_iff.mp h
    obtain rfl := BattleWireBody.inputPush.inj heq
    obtain ⟨⟨user, rest⟩, hcut, h⟩ := Option.bind_eq_some_iff.mp h
    obtain ⟨⟨seq, input⟩, -, h⟩ := Option.bind_eq_some_iff.mp h
    obtain ⟨n, -, h⟩ := Option.map_eq_some_iff.mp h
    rw [hcut, ← (ParsedBattleInputPushBody.mk.inj h).1, String.toList_ofList]
    rfl
  · intro h
    rw [cut_append hmarker h, Option.bind_some]
    simp only [hinput, Option.bind_some, parseU64_toString, Option.map_some, String.ofList_toList]

theorem parseBattleWireBody_formatEndAccepted (reason : BattleFinishReason) :
    parseBattleWireBody (formatBattleEndAcceptedBody reason) = some (.endAccepted { reason }) := by
  have hbody : (formatBattleEndAcceptedBody reason).toList =
      "battle_end_accepted:".toList ++ reason.toString.toList := by
    change ("battle_end_accepted:" ++ reason.toString).toList = _
    rw [String.toList_append]
  rw [parseBattleWireBody_endAccepted hbody, parseBattleEndAcceptedBody, hbody, after_append]
  cases reason <;> rfl

/-! ## Every body -/

/-- A body is read back as it was written exactly when no field contains what ends it. -/
theorem BattleBody.parse_format_iff (body : BattleBody) :
    parseBattleWireBody body.format = some body.wire ↔ body.Separable := by
  cases body with
  | started roomId battleId =>
    have hwire : parseBattleWireBody (formatBattleStartedBody roomId battleId) =
        (parseBattleStartedBody (formatBattleStartedBody roomId battleId)).map .started :=
      parseBattleWireBody_started (toList_formatBattleStartedBody roomId battleId)
    rw [format, hwire, wire, Separable, ← parseBattleStartedBody_format, Option.map_eq_some_iff]
    constructor
    · rintro ⟨q, hq, heq⟩
      rw [hq, BattleWireBody.started.inj heq]
    · exact fun h => ⟨_, h, rfl⟩
  | state roomId battleId => exact parseBattleWireBody_formatState roomId battleId
  | frame roomId battleId frameNumber trigger =>
    exact parseBattleWireBody_formatFrame roomId battleId frameNumber trigger
  | settlement msg =>
    exact parseBattleWireBody_formatEnd (by simp) msg.roomId msg.battleId msg.reason
      msg.triggeringUserId
  | finished roomId battleId reason triggeringUserId =>
    exact parseBattleWireBody_formatEnd (by simp) roomId battleId reason triggeringUserId
  | inputResponse inputSeq =>
    exact iff_of_true (parseBattleWireBody_formatInputResponse inputSeq) trivial
  | inputPush userId inputSeq inputData =>
    exact parseBattleWireBody_formatInputPush userId inputSeq inputData
  | endAccepted reason =>
    exact iff_of_true (parseBattleWireBody_formatEndAccepted reason) trivial

/-- A room id with a colon in it is not read back. -/
theorem BattleBody.not_parse_format : ¬∀ roomId battleId, roomId ≠ "" →
    parseBattleWireBody (started roomId battleId).format = some (started roomId battleId).wire := by
  intro h
  have hlost : parseBattleWireBody (formatBattleStartedBody "lobby:1" "battle_1") = none := by
    decide +kernel
  have hread := h "lobby:1" "battle_1" (by decide)
  rw [format, hlost] at hread
  cases hread

end BoostGateway.Gateway
