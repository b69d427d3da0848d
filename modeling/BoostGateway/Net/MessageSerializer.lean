import BoostGateway.Net.MessageFields

/-!
# The message serializer

`message_serializer.h` : the binary form of the messages of `message_types.h`. A deserializer
calls the readers of all its fields, and gives no message when one of them failed.

`serializes_iff` : a message comes back exactly when its strings and lists are shorter than
65536, and no deserializer leaves its input. What it accepts begins with the bytes of the
message it returns, except where a boolean is read from a byte that is neither 0 nor 1.
-/

namespace BoostGateway.Net

open ByteView

/-! ## Messages -/

/-- The messages, with the fields that are written. -/
structure EchoRequest where
  payload : Bytes

structure EchoResponse where
  payload : Bytes

structure LoginRequest where
  userId : Bytes
  token : Bytes
  displayName : Bytes

structure LoginResponse where
  userId : Bytes
  displayName : Bytes
  ok : Bool := false

structure RoomCreateRequest where
  roomId : Bytes

structure RoomCreateResponse where
  roomId : Bytes
  ownerId : Bytes

structure RoomJoinRequest where
  roomId : Bytes

structure RoomJoinResponse where
  roomId : Bytes

structure RoomReadyRequest where
  ready : Bool := false

structure RoomReadyResponse where
  userId : Bytes
  ready : Bool := false

structure RoomStatePush where
  roomId : Bytes
  ownerId : Bytes
  memberIds : List Bytes
  readyIds : List Bytes

structure BattleStartRequest where
  roomId : Bytes

structure BattleStartResponse where
  battleId : Bytes
  roomId : Bytes

structure BattleInputRequest where
  inputData : Bytes

structure BattleInputResponse where
  inputSeq : UInt64 := 0

structure BattleInputPush where
  userId : Bytes
  inputSeq : UInt64 := 0
  inputData : Bytes

structure BattleStatePush where
  battleId : Bytes
  roomId : Bytes
  state : Bytes

/-! ## `serialize` -/

/-- The writers, field after field. -/
def EchoRequest.serialize (msg : EchoRequest) : Bytes := writeStr msg.payload

def EchoResponse.serialize (msg : EchoResponse) : Bytes := writeStr msg.payload

def LoginRequest.serialize (msg : LoginRequest) : Bytes :=
  writeStr msg.userId ++ writeStr msg.token ++ writeStr msg.displayName

def LoginResponse.serialize (msg : LoginResponse) : Bytes :=
  writeBool msg.ok ++ writeStr msg.userId ++ writeStr msg.displayName

def RoomCreateRequest.serialize (msg : RoomCreateRequest) : Bytes := writeStr msg.roomId

def RoomCreateResponse.serialize (msg : RoomCreateResponse) : Bytes :=
  writeStr msg.roomId ++ writeStr msg.ownerId

def RoomJoinRequest.serialize (msg : RoomJoinRequest) : Bytes :=
  RoomCreateRequest.serialize { roomId := msg.roomId }

def RoomJoinResponse.serialize (msg : RoomJoinResponse) : Bytes := writeStr msg.roomId

def RoomReadyRequest.serialize (msg : RoomReadyRequest) : Bytes := writeBool msg.ready

def RoomReadyResponse.serialize (msg : RoomReadyResponse) : Bytes :=
  writeBool msg.ready ++ writeStr msg.userId

def RoomStatePush.serialize (msg : RoomStatePush) : Bytes :=
  writeStr msg.roomId ++ writeStr msg.ownerId ++ writeVec writeStr msg.memberIds ++
    writeVec writeStr msg.readyIds

def BattleStartRequest.serialize (msg : BattleStartRequest) : Bytes := writeStr msg.roomId

def BattleStartResponse.serialize (msg : BattleStartResponse) : Bytes :=
  writeStr msg.battleId ++ writeStr msg.roomId

def BattleInputRequest.serialize (msg : BattleInputRequest) : Bytes := writeStr msg.inputData

def BattleInputResponse.serialize (msg : BattleInputResponse) : Bytes := writeU64 msg.inputSeq

def BattleInputPush.serialize (msg : BattleInputPush) : Bytes :=
  writeStr msg.userId ++ writeU64 msg.inputSeq ++ writeStr msg.inputData

def BattleStatePush.serialize (msg : BattleStatePush) : Bytes :=
  writeStr msg.battleId ++ writeStr msg.roomId ++ writeStr msg.state

/-! ## `deserialize` -/

/-- The readers, which fail where a field does. -/
def deserializeEchoRequest : ByteView (Option EchoRequest) := do
  let payload ← readStr
  return do return { payload := ← payload }

def deserializeEchoResponse : ByteView (Option EchoResponse) := do
  let payload ← readStr
  return do return { payload := ← payload }

def deserializeLoginRequest : ByteView (Option LoginRequest) := do
  let uid ← readStr
  let tok ← readStr
  let dname ← readStr
  return do return { userId := ← uid, token := ← tok, displayName := ← dname }

def deserializeLoginResponse : ByteView (Option LoginResponse) := do
  let ok ← readBool
  let uid ← readStr
  let dname ← readStr
  return do return { ok := ← ok, userId := ← uid, displayName := ← dname }

def deserializeRoomCreateRequest : ByteView (Option RoomCreateRequest) := do
  let rid ← readStr
  return do return { roomId := ← rid }

def deserializeRoomCreateResponse : ByteView (Option RoomCreateResponse) := do
  let rid ← readStr
  let oid ← readStr
  return do return { roomId := ← rid, ownerId := ← oid }

def deserializeRoomJoinRequest : ByteView (Option RoomJoinRequest) := do
  let rid ← readStr
  return do return { roomId := ← rid }

def deserializeRoomJoinResponse : ByteView (Option RoomJoinResponse) := do
  let rid ← readStr
  return do return { roomId := ← rid }

def deserializeRoomReadyRequest : ByteView (Option RoomReadyRequest) := do
  let ready ← readBool
  return do return { ready := ← ready }

def deserializeRoomReadyResponse : ByteView (Option RoomReadyResponse) := do
  let ready ← readBool
  let uid ← readStr
  return do return { ready := ← ready, userId := ← uid }

def deserializeRoomStatePush : ByteView (Option RoomStatePush) := do
  let rid ← readStr
  let oid ← readStr
  let members ← readVec readStr
  let readies ← readVec readStr
  return do
    return { roomId := ← rid, ownerId := ← oid, memberIds := ← members, readyIds := ← readies }

def deserializeBattleStartRequest : ByteView (Option BattleStartRequest) := do
  let rid ← readStr
  return do return { roomId := ← rid }

def deserializeBattleStartResponse : ByteView (Option BattleStartResponse) := do
  let bid ← readStr
  let rid ← readStr
  return do return { battleId := ← bid, roomId := ← rid }

def deserializeBattleInputRequest : ByteView (Option BattleInputRequest) := do
  let input ← readStr
  return do return { inputData := ← input }

def deserializeBattleInputResponse : ByteView (Option BattleInputResponse) := do
  let seq ← readU64
  return do return { inputSeq := ← seq }

def deserializeBattleInputPush : ByteView (Option BattleInputPush) := do
  let uid ← readStr
  let seq ← readU64
  let input ← readStr
  return do return { userId := ← uid, inputSeq := ← seq, inputData := ← input }

def deserializeBattleStatePush : ByteView (Option BattleStatePush) := do
  let bid ← readStr
  let rid ← readStr
  let state ← readStr
  return do return { battleId := ← bid, roomId := ← rid, state := ← state }

/-! ## The messages as fields -/

open WireField

/-- The messages as fields. -/
def EchoRequest.field : WireField EchoRequest :=
  strField.via ⟨EchoRequest.payload, EchoRequest.mk, fun _ => rfl, fun _ => rfl⟩
    EchoRequest.serialize deserializeEchoRequest (fun _ => rfl) <| by
    rw [deserializeEchoRequest, readStr_eq]
    exact read_one _ _

def EchoResponse.field : WireField EchoResponse :=
  strField.via ⟨EchoResponse.payload, EchoResponse.mk, fun _ => rfl, fun _ => rfl⟩
    EchoResponse.serialize deserializeEchoResponse (fun _ => rfl) <| by
    rw [deserializeEchoResponse, readStr_eq]
    exact read_one _ _

def RoomCreateRequest.field : WireField RoomCreateRequest :=
  strField.via ⟨RoomCreateRequest.roomId, RoomCreateRequest.mk, fun _ => rfl, fun _ => rfl⟩
    RoomCreateRequest.serialize deserializeRoomCreateRequest (fun _ => rfl) <| by
    rw [deserializeRoomCreateRequest, readStr_eq]
    exact read_one _ _

def RoomJoinRequest.field : WireField RoomJoinRequest :=
  strField.via ⟨RoomJoinRequest.roomId, RoomJoinRequest.mk, fun _ => rfl, fun _ => rfl⟩
    RoomJoinRequest.serialize deserializeRoomJoinRequest (fun _ => rfl) <| by
    rw [deserializeRoomJoinRequest, readStr_eq]
    exact read_one _ _

def RoomJoinResponse.field : WireField RoomJoinResponse :=
  strField.via ⟨RoomJoinResponse.roomId, RoomJoinResponse.mk, fun _ => rfl, fun _ => rfl⟩
    RoomJoinResponse.serialize deserializeRoomJoinResponse (fun _ => rfl) <| by
    rw [deserializeRoomJoinResponse, readStr_eq]
    exact read_one _ _

def BattleStartRequest.field : WireField BattleStartRequest :=
  strField.via ⟨BattleStartRequest.roomId, BattleStartRequest.mk, fun _ => rfl, fun _ => rfl⟩
    BattleStartRequest.serialize deserializeBattleStartRequest (fun _ => rfl) <| by
    rw [deserializeBattleStartRequest, readStr_eq]
    exact read_one _ _

def BattleInputRequest.field : WireField BattleInputRequest :=
  strField.via ⟨BattleInputRequest.inputData, BattleInputRequest.mk, fun _ => rfl, fun _ => rfl⟩
    BattleInputRequest.serialize deserializeBattleInputRequest (fun _ => rfl) <| by
    rw [deserializeBattleInputRequest, readStr_eq]
    exact read_one _ _

def BattleInputResponse.field : WireField BattleInputResponse :=
  u64Field.via ⟨BattleInputResponse.inputSeq, BattleInputResponse.mk, fun _ => rfl, fun _ => rfl⟩
    BattleInputResponse.serialize deserializeBattleInputResponse (fun _ => rfl) <| by
    rw [deserializeBattleInputResponse, readU64_eq]
    exact read_one _ _

def RoomCreateResponse.field : WireField RoomCreateResponse :=
  (strField.and strField).via
    ⟨fun m => (m.roomId, m.ownerId), fun p => ⟨p.1, p.2⟩, fun _ => rfl, fun _ => rfl⟩
    RoomCreateResponse.serialize deserializeRoomCreateResponse (fun _ => rfl) <| by
    rw [deserializeRoomCreateResponse, readStr_eq]
    exact read_two _ _ RoomCreateResponse.mk

def BattleStartResponse.field : WireField BattleStartResponse :=
  (strField.and strField).via
    ⟨fun m => (m.battleId, m.roomId), fun p => ⟨p.1, p.2⟩, fun _ => rfl, fun _ => rfl⟩
    BattleStartResponse.serialize deserializeBattleStartResponse (fun _ => rfl) <| by
    rw [deserializeBattleStartResponse, readStr_eq]
    exact read_two _ _ BattleStartResponse.mk

def LoginRequest.field : WireField LoginRequest :=
  (strField.and (strField.and strField)).via
    ⟨fun m => (m.userId, m.token, m.displayName), fun p => ⟨p.1, p.2.1, p.2.2⟩,
      fun _ => rfl, fun _ => rfl⟩
    LoginRequest.serialize deserializeLoginRequest (fun _ => List.append_assoc _ _ _) <| by
    rw [deserializeLoginRequest, readStr_eq]
    exact read_three _ _ _ LoginRequest.mk

def BattleStatePush.field : WireField BattleStatePush :=
  (strField.and (strField.and strField)).via
    ⟨fun m => (m.battleId, m.roomId, m.state), fun p => ⟨p.1, p.2.1, p.2.2⟩,
      fun _ => rfl, fun _ => rfl⟩
    BattleStatePush.serialize deserializeBattleStatePush (fun _ => List.append_assoc _ _ _) <| by
    rw [deserializeBattleStatePush, readStr_eq]
    exact read_three _ _ _ BattleStatePush.mk

def BattleInputPush.field : WireField BattleInputPush :=
  (strField.and (u64Field.and strField)).via
    ⟨fun m => (m.userId, m.inputSeq, m.inputData), fun p => ⟨p.1, p.2.1, p.2.2⟩,
      fun _ => rfl, fun _ => rfl⟩
    BattleInputPush.serialize deserializeBattleInputPush (fun _ => List.append_assoc _ _ _) <| by
    rw [deserializeBattleInputPush, readStr_eq, readU64_eq]
    exact read_three _ _ _ BattleInputPush.mk

def RoomStatePush.field : WireField RoomStatePush :=
  (strField.and (strField.and ((vecField strField).and (vecField strField)))).via
    ⟨fun m => (m.roomId, m.ownerId, m.memberIds, m.readyIds),
      fun p => ⟨p.1, p.2.1, p.2.2.1, p.2.2.2⟩,
      fun _ => rfl, fun _ => rfl⟩
    RoomStatePush.serialize deserializeRoomStatePush
    (fun _ => (List.append_assoc _ _ _).trans (List.append_assoc _ _ _)) <| by
    rw [deserializeRoomStatePush, readStr_eq, readVec_eq]
    exact read_four _ _ _ _ RoomStatePush.mk

def RoomReadyRequest.field : WireField RoomReadyRequest :=
  (boolField.and nothing).via
    ⟨fun m => (m.ready, ()), fun p => ⟨p.1⟩, fun _ => rfl, fun _ => rfl⟩
    RoomReadyRequest.serialize deserializeRoomReadyRequest (fun _ => rfl) <| by
    rw [deserializeRoomReadyRequest, readBool_eq]
    simp only [WireField.and, nothing, bind_assoc, pure_bind]
    exact bind_congr fun a => congrArg pure (by cases a <;> rfl)

def LoginResponse.field : WireField LoginResponse :=
  (boolField.and (strField.and strField)).via
    ⟨fun m => (m.ok, m.userId, m.displayName), fun p => ⟨p.2.1, p.2.2, p.1⟩,
      fun _ => rfl, fun _ => rfl⟩
    LoginResponse.serialize deserializeLoginResponse (fun _ => List.append_assoc _ _ _) <| by
    rw [deserializeLoginResponse, readStr_eq, readBool_eq]
    exact read_three _ _ _ (fun a b c => LoginResponse.mk b c a)

def RoomReadyResponse.field : WireField RoomReadyResponse :=
  (boolField.and strField).via
    ⟨fun m => (m.ready, m.userId), fun p => ⟨p.2, p.1⟩, fun _ => rfl, fun _ => rfl⟩
    RoomReadyResponse.serialize deserializeRoomReadyResponse (fun _ => rfl) <| by
    rw [deserializeRoomReadyResponse, readStr_eq, readBool_eq]
    exact read_two _ _ (fun a b => RoomReadyResponse.mk b a)

/-! ## All message types -/

/-- The message types that have both functions. -/
inductive MessageType
  | echoRequest
  | echoResponse
  | loginRequest
  | loginResponse
  | roomCreateRequest
  | roomCreateResponse
  | roomJoinRequest
  | roomJoinResponse
  | roomReadyRequest
  | roomReadyResponse
  | roomStatePush
  | battleStartRequest
  | battleStartResponse
  | battleInputRequest
  | battleInputResponse
  | battleInputPush
  | battleStatePush

namespace MessageType

/-- The messages of a type. -/
abbrev Message : MessageType → Type
  | echoRequest => EchoRequest
  | echoResponse => EchoResponse
  | loginRequest => LoginRequest
  | loginResponse => LoginResponse
  | roomCreateRequest => RoomCreateRequest
  | roomCreateResponse => RoomCreateResponse
  | roomJoinRequest => RoomJoinRequest
  | roomJoinResponse => RoomJoinResponse
  | roomReadyRequest => RoomReadyRequest
  | roomReadyResponse => RoomReadyResponse
  | roomStatePush => RoomStatePush
  | battleStartRequest => BattleStartRequest
  | battleStartResponse => BattleStartResponse
  | battleInputRequest => BattleInputRequest
  | battleInputResponse => BattleInputResponse
  | battleInputPush => BattleInputPush
  | battleStatePush => BattleStatePush

/-- The writer of a type. -/
def serialize : (t : MessageType) → t.Message → Bytes
  | echoRequest => EchoRequest.serialize
  | echoResponse => EchoResponse.serialize
  | loginRequest => LoginRequest.serialize
  | loginResponse => LoginResponse.serialize
  | roomCreateRequest => RoomCreateRequest.serialize
  | roomCreateResponse => RoomCreateResponse.serialize
  | roomJoinRequest => RoomJoinRequest.serialize
  | roomJoinResponse => RoomJoinResponse.serialize
  | roomReadyRequest => RoomReadyRequest.serialize
  | roomReadyResponse => RoomReadyResponse.serialize
  | roomStatePush => RoomStatePush.serialize
  | battleStartRequest => BattleStartRequest.serialize
  | battleStartResponse => BattleStartResponse.serialize
  | battleInputRequest => BattleInputRequest.serialize
  | battleInputResponse => BattleInputResponse.serialize
  | battleInputPush => BattleInputPush.serialize
  | battleStatePush => BattleStatePush.serialize

/-- The reader of a type. -/
def reader : (t : MessageType) → ByteView (Option t.Message)
  | echoRequest => deserializeEchoRequest
  | echoResponse => deserializeEchoResponse
  | loginRequest => deserializeLoginRequest
  | loginResponse => deserializeLoginResponse
  | roomCreateRequest => deserializeRoomCreateRequest
  | roomCreateResponse => deserializeRoomCreateResponse
  | roomJoinRequest => deserializeRoomJoinRequest
  | roomJoinResponse => deserializeRoomJoinResponse
  | roomReadyRequest => deserializeRoomReadyRequest
  | roomReadyResponse => deserializeRoomReadyResponse
  | roomStatePush => deserializeRoomStatePush
  | battleStartRequest => deserializeBattleStartRequest
  | battleStartResponse => deserializeBattleStartResponse
  | battleInputRequest => deserializeBattleInputRequest
  | battleInputResponse => deserializeBattleInputResponse
  | battleInputPush => deserializeBattleInputPush
  | battleStatePush => deserializeBattleStatePush

variable (t : MessageType)

/-- The deserializer of `t` on the bytes of a message. -/
def deserialize (data : Bytes) : Except OutOfView (Option t.Message) :=
  t.reader.run' data

/-- The strings of a message, those in its lists among them. -/
def strings : (t : MessageType) → t.Message → List Bytes
  | echoRequest, m => [m.payload]
  | echoResponse, m => [m.payload]
  | loginRequest, m => [m.userId, m.token, m.displayName]
  | loginResponse, m => [m.userId, m.displayName]
  | roomCreateRequest, m => [m.roomId]
  | roomCreateResponse, m => [m.roomId, m.ownerId]
  | roomJoinRequest, m => [m.roomId]
  | roomJoinResponse, m => [m.roomId]
  | roomReadyRequest, _ => []
  | roomReadyResponse, m => [m.userId]
  | roomStatePush, m => [m.roomId, m.ownerId] ++ m.memberIds ++ m.readyIds
  | battleStartRequest, m => [m.roomId]
  | battleStartResponse, m => [m.battleId, m.roomId]
  | battleInputRequest, m => [m.inputData]
  | battleInputResponse, _ => []
  | battleInputPush, m => [m.userId, m.inputData]
  | battleStatePush, m => [m.battleId, m.roomId, m.state]

/-- The lists of texts in a message. -/
def lists : (t : MessageType) → t.Message → List (List Bytes)
  | roomStatePush, m => [m.memberIds, m.readyIds]
  | _, _ => []

/-- Strings and lists whose length fits in sixteen bits. -/
def Short (m : t.Message) : Prop :=
  (∀ s ∈ t.strings m, s.length < 65536) ∧ ∀ l ∈ t.lists m, l.length < 65536

/-- The message types that begin with a boolean. -/
def hasFlag : MessageType → Bool
  | loginResponse | roomReadyRequest | roomReadyResponse => true
  | _ => false

/-- Where the message begins with a boolean and the byte is over 1, the fields of no short
message follow the byte. -/
def PlainFlag (data : Bytes) : Prop :=
  t.hasFlag → ∀ b rest, data = b :: rest → 1 < b →
    ∀ m : t.Message, t.Short m → ¬(t.serialize m).tail <+: rest

/-- The field of a type. -/
def field : (t : MessageType) → WireField t.Message
  | echoRequest => EchoRequest.field
  | echoResponse => EchoResponse.field
  | loginRequest => LoginRequest.field
  | loginResponse => LoginResponse.field
  | roomCreateRequest => RoomCreateRequest.field
  | roomCreateResponse => RoomCreateResponse.field
  | roomJoinRequest => RoomJoinRequest.field
  | roomJoinResponse => RoomJoinResponse.field
  | roomReadyRequest => RoomReadyRequest.field
  | roomReadyResponse => RoomReadyResponse.field
  | roomStatePush => RoomStatePush.field
  | battleStartRequest => BattleStartRequest.field
  | battleStartResponse => BattleStartResponse.field
  | battleInputRequest => BattleInputRequest.field
  | battleInputResponse => BattleInputResponse.field
  | battleInputPush => BattleInputPush.field
  | battleStatePush => BattleStatePush.field

theorem serialize_eq : t.serialize = t.field.write := by
  cases t <;> rfl

theorem deserialize_eq : t.deserialize = t.field.accept := by
  cases t <;> rfl

theorem fits_field_iff (m : t.Message) : t.field.Fits m ↔ t.Short m := by
  cases t
  all_goals
    simp only [Short, strings, lists, List.forall_mem_cons, List.forall_mem_append,
      List.not_mem_nil, false_implies, implies_true, and_true]
  case roomReadyRequest => exact iff_of_true ⟨trivial, trivial⟩ trivial
  case battleInputResponse => exact iff_of_true trivial trivial
  case loginResponse => exact and_iff_right trivial
  case roomReadyResponse => exact and_iff_right trivial
  case battleInputPush => exact and_congr_right' (and_iff_right trivial)
  case roomStatePush =>
    change (m.roomId.length < 65536 ∧ m.ownerId.length < 65536 ∧
      (m.memberIds.length < 65536 ∧ ∀ s ∈ m.memberIds, s.length < 65536) ∧
        m.readyIds.length < 65536 ∧ ∀ s ∈ m.readyIds, s.length < 65536) ↔ _
    tauto
  all_goals exact Iff.rfl

/-- Without a boolean at the front a message is exact. -/
theorem exact_field {t : MessageType} (h : t.hasFlag = false) : t.field.Exact := by
  have hs := exact_strField
  have hv := exact_vecField hs
  cases t
  case loginResponse | roomReadyRequest | roomReadyResponse => cases h
  all_goals rw [field]
  case echoRequest => rw [EchoRequest.field]; exact hs.via _ _ _
  case echoResponse => rw [EchoResponse.field]; exact hs.via _ _ _
  case loginRequest => rw [LoginRequest.field]; exact (hs.and (hs.and hs)).via _ _ _
  case roomCreateRequest => rw [RoomCreateRequest.field]; exact hs.via _ _ _
  case roomCreateResponse => rw [RoomCreateResponse.field]; exact (hs.and hs).via _ _ _
  case roomJoinRequest => rw [RoomJoinRequest.field]; exact hs.via _ _ _
  case roomJoinResponse => rw [RoomJoinResponse.field]; exact hs.via _ _ _
  case roomStatePush => rw [RoomStatePush.field]; exact (hs.and (hs.and (hv.and hv))).via _ _ _
  case battleStartRequest => rw [BattleStartRequest.field]; exact hs.via _ _ _
  case battleStartResponse => rw [BattleStartResponse.field]; exact (hs.and hs).via _ _ _
  case battleInputRequest => rw [BattleInputRequest.field]; exact hs.via _ _ _
  case battleInputResponse => rw [BattleInputResponse.field]; exact exact_u64Field.via _ _ _
  case battleInputPush =>
    rw [BattleInputPush.field]
    exact (hs.and (exact_u64Field.and hs)).via _ _ _
  case battleStatePush => rw [BattleStatePush.field]; exact (hs.and (hs.and hs)).via _ _ _

/-! ## Round trips -/

/-- The message is read back from its bytes. -/
def RoundTrips (m : t.Message) : Prop :=
  t.deserialize (t.serialize m) = .ok (some m)

/-- An accepted string begins with the bytes of the message. -/
def AcceptsExtensions (data : Bytes) : Prop :=
  ∀ m, t.deserialize data = .ok (some m) → t.serialize m <+: data

theorem roundTrips_iff_short (m : t.Message) : t.RoundTrips m ↔ t.Short m := by
  rw [RoundTrips, deserialize_eq, serialize_eq, accept_write_iff, fits_field_iff]

theorem acceptsExtensions_iff_plainFlag (data : Bytes) :
    t.AcceptsExtensions data ↔ t.PlainFlag data := by
  cases hflag : t.hasFlag with
  | false =>
    refine iff_of_true (fun m hm => ?_) (fun h => by rw [hflag] at h; cases h)
    rw [deserialize_eq] at hm
    rw [serialize_eq]
    exact ((exact_field hflag).accept_iff.mp hm).2
  | true =>
    have hs := exact_strField
    have hplain : t.PlainFlag data ↔ ∀ b rest, data = b :: rest → 1 < b →
        ∀ m : t.Message, t.field.Fits m → ¬(t.field.write m).tail <+: rest := by
      simp only [PlainFlag, hflag, forall_const, fits_field_iff, serialize_eq]
    rw [hplain, AcceptsExtensions, deserialize_eq, serialize_eq]
    cases t
    case loginResponse =>
      rw [field, LoginResponse.field]
      exact accept_flag_iff (hs.and hs) _ _ _ data
    case roomReadyRequest =>
      rw [field, RoomReadyRequest.field]
      exact accept_flag_iff exact_nothing _ _ _ data
    case roomReadyResponse =>
      rw [field, RoomReadyResponse.field]
      exact accept_flag_iff hs _ _ _ data
    all_goals cases hflag

/-- A message comes back when its strings and lists are short, and only then. No deserializer
leaves its input, and what it accepts begins with the bytes of the message, unless a boolean
is read from another byte than 0 and 1. -/
theorem serializes_iff (t : MessageType) :
    (∀ m, t.RoundTrips m ↔ t.Short m) ∧
      ∀ data, (∃ o, t.deserialize data = .ok o) ∧
        (t.AcceptsExtensions data ↔ t.PlainFlag data) := by
  refine ⟨t.roundTrips_iff_short, fun data => ⟨?_, t.acceptsExtensions_iff_plainFlag data⟩⟩
  rw [deserialize_eq]
  exact t.field.exists_accept data

/-- A payload of 65536 bytes is written with the length 0, and the byte 2 is read as a boolean. -/
theorem not_serializes :
    ¬RoundTrips .echoRequest { payload := List.replicate 65536 0 } ∧
      ¬AcceptsExtensions .roomReadyRequest [2] := by
  constructor
  · rw [roundTrips_iff_short]
    rintro ⟨h, -⟩
    have := h _ List.mem_cons_self
    rw [List.length_replicate] at this
    exact Nat.lt_irrefl _ this
  · intro h
    have := h { ready := true } rfl
    exact absurd this (by decide)

end MessageType

end BoostGateway.Net
