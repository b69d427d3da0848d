import BoostGateway.Net.PacketFragment
import BoostGateway.Net.Session

/-!
# Packets cut from a stream

`encode` and `decode_payload` (`packet_codec.h`) with all fields of a packet, and the loop of
`do_read_header` and `do_read_body` (`session.cpp`) over the bytes that arrive, in pieces of any
size, up to the packet that `decode_payload` returns. A read completes when all of its bytes are
there.

`encode_decodePayload` and `decodePayload_encode` : a packet and its bytes determine each other.
So the bytes that were taken are always those of the packets delivered, and of the length field
that is looked at (`Receiver.Reaches.accounted`). `Receiver.packets_cut` : packets that fit come
out as they were written, and on other bytes the loop waits, delivers or closes.
-/

namespace BoostGateway.Net

/-! ## The codec -/

namespace Packet

/-- The sizes and places of `packet_codec.h`. -/
def kProtocolVersionSize : ℕ := 1
def kMessageIdSize : ℕ := 2
def kRequestIdSize : ℕ := 4
def kSequenceNumberSize : ℕ := 4
def kErrorCodeSize : ℕ := 4

def kVersionOffset : ℕ := 0
def kMessageIdOffset : ℕ := kVersionOffset + kProtocolVersionSize
def kRequestIdOffset : ℕ := kMessageIdOffset + kMessageIdSize
def kSeqNumOffset : ℕ := kRequestIdOffset + kRequestIdSize
def kErrorCodeOffset : ℕ := kSeqNumOffset + kSequenceNumberSize
def kFlagsOffset : ℕ := kErrorCodeOffset + kErrorCodeSize

/-- The head of a packet. -/
structure PacketView where
  version : UInt8
  messageId : UInt16
  requestId : UInt32
  sequenceNumber : UInt32
  errorCode : Int32
  flags : UInt8

/-- `packet[0]` to `packet[3]`. -/
def lengthHeader (p : DecodedPacket) : Bytes :=
  bigEndian32 (UInt32.ofNat (kFixedMetadataSize + p.body.length))

/-- `packet[4]` and what follows. -/
def payload (p : DecodedPacket) : Bytes :=
  p.version :: (bigEndian16 p.messageId ++ bigEndian32 p.requestId ++
    bigEndian32 p.sequenceNumber ++ bigEndian32 p.errorCode.toUInt32 ++ p.flags :: p.body)

/-- `encode`, of a body whose length has 32 bits with that of the metadata. -/
def encode (p : DecodedPacket) : Bytes := lengthHeader p ++ payload p

/-- A word of two bytes, high byte first. -/
def word16 (b₀ b₁ : UInt8) : UInt16 := (b₀.toUInt16 <<< 8) ||| b₁.toUInt16

/-- A word of four bytes. -/
def word32 (b₀ b₁ b₂ b₃ : UInt8) : UInt32 :=
  (b₀.toUInt32 <<< 24) ||| (b₁.toUInt32 <<< 16) ||| (b₂.toUInt32 <<< 8) ||| b₃.toUInt32

/-- A byte of the metadata, which is there. -/
def byteAt (bytes : Bytes) (h : kFixedMetadataSize ≤ bytes.length) (offset : ℕ)
    (hoffset : offset < kFixedMetadataSize := by decide) : UInt8 :=
  bytes.get ⟨offset, Nat.lt_of_lt_of_le hoffset h⟩

def wordAt (bytes : Bytes) (h : kFixedMetadataSize ≤ bytes.length) (offset : ℕ)
    (hoffset : offset + 3 < kFixedMetadataSize := by decide) : UInt32 :=
  word32 (byteAt bytes h offset (by omega)) (byteAt bytes h (offset + 1) (by omega))
    (byteAt bytes h (offset + 2) (by omega)) (byteAt bytes h (offset + 3) hoffset)

/-- `parse_packet_view` of enough bytes. -/
def parsePacketView (bytes : Bytes) (h : kFixedMetadataSize ≤ bytes.length) : PacketView where
  version := byteAt bytes h kVersionOffset
  messageId := word16 (byteAt bytes h kMessageIdOffset) (byteAt bytes h (kMessageIdOffset + 1))
  requestId := wordAt bytes h kRequestIdOffset
  sequenceNumber := wordAt bytes h kSeqNumOffset
  errorCode := (wordAt bytes h kErrorCodeOffset).toInt32
  flags := byteAt bytes h kFlagsOffset

/-- `decode_payload`; `none` where it throws. -/
def decodePayload (bytes : Bytes) : Option DecodedPacket :=
  if h : kFixedMetadataSize ≤ bytes.length then
    let view := parsePacketView bytes h
    some {
      version := view.version
      messageId := view.messageId
      requestId := view.requestId
      sequenceNumber := view.sequenceNumber
      errorCode := view.errorCode
      flags := view.flags
      body := bytes.drop kFixedMetadataSize }
  else none

/-! ### Words -/

variable (b₀ b₁ : UInt8)

theorem toNat_word32 (b₂ b₃ : UInt8) : (word32 b₀ b₁ b₂ b₃).toNat =
    b₀.toNat * 2 ^ 24 + b₁.toNat * 2 ^ 16 + b₂.toNat * 2 ^ 8 + b₃.toNat := by
  have h₀ : b₀.toUInt32.toNat < 2 ^ 8 := b₀.toNat_lt
  have h₁ : b₁.toUInt32.toNat < 2 ^ 8 := b₁.toNat_lt
  have h₂ : b₂.toUInt32.toNat < 2 ^ 8 := b₂.toNat_lt
  have h₃ : b₃.toNat < 2 ^ 8 := b₃.toNat_lt
  have hswap (a b c d : ℕ) : a ||| b ||| c ||| d = d ||| c ||| b ||| a := by ac_rfl
  rw [word32, UInt32.toNat_or, UInt32.toNat_or, UInt32.toNat_or,
    toNat_shiftLeft_of_lt h₀ (by decide), toNat_shiftLeft_of_lt h₁ (by decide),
    toNat_shiftLeft_of_lt h₂ (by decide), hswap]
  simp only [UInt8.toNat_toUInt32] at h₀ h₁ h₂ ⊢
  change b₃.toNat ||| b₂.toNat <<< 8 ||| b₁.toNat <<< 16 ||| b₀.toNat <<< 24 = _
  rw [or_shiftLeft (i := 8) h₃, or_shiftLeft (i := 16) (by omega),
    or_shiftLeft (i := 24) (by omega)]
  omega

theorem toNat_shiftRight_toUInt8 (n : UInt32) {k : UInt32} (hk : k.toNat < 32) :
    (n >>> k).toUInt8.toNat = n.toNat / 2 ^ k.toNat % 2 ^ 8 := by
  rw [UInt32.toNat_toUInt8, UInt32.toNat_shiftRight, Nat.mod_eq_of_lt hk, Nat.shiftRight_eq_div_pow]

theorem word32_bigEndian32 (n : UInt32) :
    word32 (n >>> 24).toUInt8 (n >>> 16).toUInt8 (n >>> 8).toUInt8 n.toUInt8 = n := by
  have hn := n.toNat_lt
  apply UInt32.toNat_inj.mp
  rw [toNat_word32, toNat_shiftRight_toUInt8 n (by decide), toNat_shiftRight_toUInt8 n (by decide),
    toNat_shiftRight_toUInt8 n (by decide), UInt32.toNat_toUInt8]
  change n.toNat / 2 ^ 24 % 2 ^ 8 * 2 ^ 24 + n.toNat / 2 ^ 16 % 2 ^ 8 * 2 ^ 16 +
    n.toNat / 2 ^ 8 % 2 ^ 8 * 2 ^ 8 + n.toNat % 2 ^ 8 = n.toNat
  omega

theorem bigEndian32_word32 (b₂ b₃ : UInt8) :
    bigEndian32 (word32 b₀ b₁ b₂ b₃) = [b₀, b₁, b₂, b₃] := by
  have h₀ := b₀.toNat_lt
  have h₁ := b₁.toNat_lt
  have h₂ := b₂.toNat_lt
  have h₃ := b₃.toNat_lt
  simp only [bigEndian32, List.cons.injEq, and_true, ← UInt8.toNat_inj, UInt32.toNat_toUInt8]
  rw [← UInt32.toNat_toUInt8, ← UInt32.toNat_toUInt8, ← UInt32.toNat_toUInt8,
    toNat_shiftRight_toUInt8 _ (by decide), toNat_shiftRight_toUInt8 _ (by decide),
    toNat_shiftRight_toUInt8 _ (by decide), toNat_word32]
  change _ / 2 ^ 24 % 2 ^ 8 = _ ∧ _ / 2 ^ 16 % 2 ^ 8 = _ ∧ _ / 2 ^ 8 % 2 ^ 8 = _ ∧ _
  omega

theorem toNat_word16 : (word16 b₀ b₁).toNat = b₀.toNat * 2 ^ 8 + b₁.toNat := by
  have h₀ := b₀.toNat_lt
  have h₁ : b₁.toNat < 2 ^ 8 := b₁.toNat_lt
  have hshift : (b₀.toUInt16 <<< 8).toNat = b₀.toNat <<< 8 := by
    rw [UInt16.toNat_shiftLeft, UInt8.toNat_toUInt16, Nat.shiftLeft_eq]
    change b₀.toNat * 2 ^ 8 % 2 ^ 16 = _
    rw [Nat.shiftLeft_eq]
    omega
  rw [word16, UInt16.toNat_or, hshift, UInt8.toNat_toUInt16, Nat.or_comm, or_shiftLeft h₁]
  omega

theorem toNat_high (n : UInt16) : (n >>> 8).toUInt8.toNat = n.toNat / 2 ^ 8 % 2 ^ 8 := by
  rw [UInt16.toNat_toUInt8, UInt16.toNat_shiftRight, ← Nat.shiftRight_eq_div_pow]
  rfl

theorem word16_bigEndian16 (n : UInt16) : word16 (n >>> 8).toUInt8 n.toUInt8 = n := by
  have hn := n.toNat_lt
  apply UInt16.toNat_inj.mp
  rw [toNat_word16, toNat_high, UInt16.toNat_toUInt8]
  omega

theorem bigEndian16_word16 : bigEndian16 (word16 b₀ b₁) = [b₀, b₁] := by
  have h₀ := b₀.toNat_lt
  have h₁ := b₁.toNat_lt
  simp only [bigEndian16, List.cons.injEq, and_true, ← UInt8.toNat_inj]
  rw [toNat_high, UInt16.toNat_toUInt8, toNat_word16]
  omega

/-! ### Packets -/

theorem length_payload (p : DecodedPacket) :
    (payload p).length = kFixedMetadataSize + p.body.length := by
  simp only [payload, bigEndian32, bigEndian16, List.length_cons, List.length_append,
    List.length_nil, kFixedMetadataSize]
  omega

/-- The payload is read as it was written. -/
theorem decodePayload_payload (p : DecodedPacket) : decodePayload (payload p) = some p := by
  have hlength : kFixedMetadataSize ≤ (payload p).length := by
    rw [length_payload]
    exact Nat.le_add_right _ _
  have herror : (word32 (p.errorCode.toUInt32 >>> 24).toUInt8 (p.errorCode.toUInt32 >>> 16).toUInt8
      (p.errorCode.toUInt32 >>> 8).toUInt8 p.errorCode.toUInt32.toUInt8).toInt32 = p.errorCode := by
    rw [word32_bigEndian32, Int32.toInt32_toUInt32]
  rw [decodePayload, dif_pos hlength]
  refine congrArg some ?_
  calc _ = DecodedPacket.mk p.version (word16 (p.messageId >>> 8).toUInt8 p.messageId.toUInt8)
        (word32 (p.requestId >>> 24).toUInt8 (p.requestId >>> 16).toUInt8
          (p.requestId >>> 8).toUInt8 p.requestId.toUInt8)
        (word32 (p.sequenceNumber >>> 24).toUInt8 (p.sequenceNumber >>> 16).toUInt8
          (p.sequenceNumber >>> 8).toUInt8 p.sequenceNumber.toUInt8)
        (word32 (p.errorCode.toUInt32 >>> 24).toUInt8 (p.errorCode.toUInt32 >>> 16).toUInt8
          (p.errorCode.toUInt32 >>> 8).toUInt8 p.errorCode.toUInt32.toUInt8).toInt32
        p.flags p.body := rfl
    _ = p := by rw [word16_bigEndian16, word32_bigEndian32, word32_bigEndian32, herror]

theorem exists_metadata {metadata : Bytes} (h : metadata.length = 16) :
    ∃ b₀ b₁ b₂ b₃ b₄ b₅ b₆ b₇ b₈ b₉ b₁₀ b₁₁ b₁₂ b₁₃ b₁₄ b₁₅, metadata =
      [b₀, b₁, b₂, b₃, b₄, b₅, b₆, b₇, b₈, b₉, b₁₀, b₁₁, b₁₂, b₁₃, b₁₄, b₁₅] := by
  match metadata, h with
  | [b₀, b₁, b₂, b₃, b₄, b₅, b₆, b₇, b₈, b₉, b₁₀, b₁₁, b₁₂, b₁₃, b₁₄, b₁₅], _ =>
    exact ⟨b₀, b₁, b₂, b₃, b₄, b₅, b₆, b₇, b₈, b₉, b₁₀, b₁₁, b₁₂, b₁₃, b₁₄, b₁₅, rfl⟩

/-- What was read is written as the same payload. -/
theorem payload_of_decodePayload {bytes : Bytes} {p : DecodedPacket}
    (h : decodePayload bytes = some p) : payload p = bytes := by
  unfold decodePayload at h
  split_ifs at h with hlength
  obtain ⟨b₀, b₁, b₂, b₃, b₄, b₅, b₆, b₇, b₈, b₉, b₁₀, b₁₁, b₁₂, b₁₃, b₁₄, b₁₅, htake⟩ :=
    exists_metadata (List.length_take_of_le hlength)
  obtain ⟨body, rfl⟩ : ∃ body, bytes =
      [b₀, b₁, b₂, b₃, b₄, b₅, b₆, b₇, b₈, b₉, b₁₀, b₁₁, b₁₂, b₁₃, b₁₄, b₁₅] ++ body :=
    ⟨_, htake ▸ (List.take_append_drop _ bytes).symm⟩
  obtain rfl := Option.some.inj h
  calc _ = b₀ :: (bigEndian16 (word16 b₁ b₂) ++ bigEndian32 (word32 b₃ b₄ b₅ b₆) ++
        bigEndian32 (word32 b₇ b₈ b₉ b₁₀) ++
        bigEndian32 (word32 b₁₁ b₁₂ b₁₃ b₁₄).toInt32.toUInt32 ++ b₁₅ :: body) := rfl
    _ = _ := by
      rw [UInt32.toUInt32_toInt32, bigEndian16_word16, bigEndian32_word32, bigEndian32_word32,
        bigEndian32_word32]
      rfl

/-- `encode` as the session calls it. -/
theorem encode_message (m : PacketMessage) : Net.encode m = encode {
    version := kProtocolVersion
    messageId := m.messageId
    requestId := m.requestId
    errorCode := m.errorCode
    flags := m.flags
    body := m.body } := by
  simp only [Net.encode, encode, lengthHeader, payload, List.cons_append, List.append_assoc,
    List.nil_append]

/-- The packet is within the limit of the session. -/
def Fits (maxPacketSize : UInt32) (p : DecodedPacket) : Prop :=
  kFixedMetadataSize + p.body.length ≤ maxPacketSize.toNat

variable {maxPacketSize : UInt32} {p q : DecodedPacket}

theorem toNat_length (h : Fits maxPacketSize p) :
    (UInt32.ofNat (kFixedMetadataSize + p.body.length)).toNat =
      kFixedMetadataSize + p.body.length :=
  UInt32.toNat_ofNat_of_lt' (Nat.lt_of_le_of_lt h maxPacketSize.toNat_lt)

theorem bigEndian32_injective {m n : UInt32} (h : bigEndian32 m = bigEndian32 n) : m = n := by
  simp only [bigEndian32, List.cons.injEq, and_true] at h
  obtain ⟨h₀, h₁, h₂, h₃⟩ := h
  rw [← word32_bigEndian32 m, ← word32_bigEndian32 n, h₀, h₁, h₂, h₃]

/-- A packet whose bytes another one starts with is that packet. -/
theorem encode_prefix {rest rest' : Bytes} (hp : Fits maxPacketSize p) (hq : Fits maxPacketSize q)
    (h : encode p ++ rest <+: encode q ++ rest') : p = q ∧ rest <+: rest' := by
  obtain ⟨after, h⟩ := h
  simp only [encode, List.append_assoc] at h
  obtain ⟨hheader, hpayload⟩ := List.append_inj h rfl
  have hlength : (payload p).length = (payload q).length := by
    rw [length_payload, length_payload, ← toNat_length hp, ← toNat_length hq,
      bigEndian32_injective hheader]
  obtain ⟨hpayload, hrest⟩ := List.append_inj hpayload hlength
  refine ⟨Option.some.inj ?_, after, hrest⟩
  rw [← decodePayload_payload, ← decodePayload_payload, hpayload]

theorem length_encode (p : DecodedPacket) :
    (encode p).length = kLengthHeaderSize + (kFixedMetadataSize + p.body.length) := by
  rw [encode, List.length_append, length_payload]
  rfl

/-- Packets whose bytes others start with are the first of these. -/
theorem flatMap_encode_prefix {ps qs : List DecodedPacket} {rest : Bytes}
    (hps : ∀ p ∈ ps, Fits maxPacketSize p) (hqs : ∀ q ∈ qs, Fits maxPacketSize q)
    (h : ps.flatMap encode ++ rest <+: qs.flatMap encode) :
    ∃ after, qs = ps ++ after ∧ rest <+: after.flatMap encode := by
  induction ps generalizing qs with
  | nil => exact ⟨qs, rfl, h⟩
  | cons p ps ih =>
    obtain ⟨hp, hps⟩ := List.forall_mem_cons.mp hps
    rw [List.flatMap_cons, List.append_assoc] at h
    cases qs with
    | nil =>
      have hlength := h.length_le
      rw [List.length_append, length_encode] at hlength
      simp [kLengthHeaderSize] at hlength
    | cons q qs =>
      obtain ⟨hq, htail⟩ := List.forall_mem_cons.mp hqs
      rw [List.flatMap_cons] at h
      obtain ⟨rfl, hrest⟩ := encode_prefix hp hq h
      obtain ⟨after, rfl, hafter⟩ := ih hps htail hrest
      exact ⟨after, rfl, hafter⟩

end Packet

/-! ## The loop -/

/-- Why a stream is given up. -/
inductive CloseReason
  | invalidArgument
  | messageSize
  /-- A read ended with an error. -/
  | ended
  deriving DecidableEq

/-- The reading side of a session with one read at a time. -/
structure Receiver where
  maxPacketSize : UInt32
  /-- All bytes that arrived. -/
  received : Bytes := []
  /-- The bytes that reads have taken. -/
  taken : Bytes := []
  unread : Bytes := []
  reading : ReadOp := .header
  closed : Option CloseReason := none
  delivered : List DecodedPacket := []

/-- Bytes come, and reads end. -/
inductive ReceiverAction
  | arrive (bytes : Bytes)
  /-- The outstanding read completes. -/
  | complete
  | fail

namespace Receiver

/-- The completion of `do_read_header`. -/
def onHeader (s : Receiver) (header : Vector UInt8 4) : Receiver :=
  let length := decodeLength header
  if length.toNat < kFixedMetadataSize then { s with closed := some .invalidArgument }
  else if s.maxPacketSize < length then { s with closed := some .messageSize }
  else { s with reading := .body length }

/-- The completion of `do_read_body`. -/
def onBody (s : Receiver) (bytes : Bytes) : Receiver :=
  match Packet.decodePayload bytes with
  | none => { s with closed := some .invalidArgument }
  | some p => { s with
    delivered := s.delivered ++ [p]
    reading := .header }

/-- The outstanding read takes its bytes; `none` when they are not all there, or the session is
closed. -/
def complete (s : Receiver) : Option Receiver :=
  match s.closed, s.reading, s.unread with
  | none, .header, b₀ :: b₁ :: b₂ :: b₃ :: unread =>
    some (onHeader { s with taken := s.taken ++ [b₀, b₁, b₂, b₃], unread } #v[b₀, b₁, b₂, b₃])
  | none, .body length, unread =>
    if length.toNat ≤ unread.length then
      let bytes := unread.take length.toNat
      some (onBody { s with
        taken := s.taken ++ bytes
        unread := unread.drop length.toNat } bytes)
    else none
  | _, _, _ => none

/-- Bytes come, or a read ends. -/
def step (s : Receiver) : ReceiverAction → Option Receiver
  | .arrive bytes => some { s with
      received := s.received ++ bytes
      unread := s.unread ++ bytes }
  | .complete => s.complete
  | .fail => some { s with closed := some (s.closed.getD .ended) }

abbrev Reaches (maxPacketSize : UInt32) : Receiver → Prop :=
  BoostGateway.Reaches (· = { maxPacketSize }) step fun _ _ => True

/-- The states after a state as reads complete, with no more bytes. -/
abbrev Later (s : Receiver) : Receiver → Prop :=
  BoostGateway.Reaches (· = s) (fun s (_ : Unit) => s.complete) fun _ _ => True

/-- The session is open, and waits for more bytes. -/
def Waits (s : Receiver) : Prop := s.closed = none ∧ s.complete = none

/-- A length that the checks let pass. -/
def Admits (maxPacketSize length : UInt32) : Prop :=
  kFixedMetadataSize ≤ length.toNat ∧ length ≤ maxPacketSize

/-- The bytes that were taken are those of the packets delivered and of the length field that is
looked at; no byte is taken that did not arrive. -/
structure Accounted (maxPacketSize : UInt32) (s : Receiver) : Prop where
  maxPacketSize_eq : s.maxPacketSize = maxPacketSize
  received : s.received = s.taken ++ s.unread
  fits : ∀ p ∈ s.delivered, Packet.Fits maxPacketSize p
  header : s.reading = .header → s.closed = none ∨ s.closed = some .ended →
    s.taken = s.delivered.flatMap Packet.encode
  body : ∀ length, s.reading = .body length → (s.closed = none ∨ s.closed = some .ended) ∧
    Admits maxPacketSize length ∧ s.taken = s.delivered.flatMap Packet.encode ++ bigEndian32 length
  refused : s.closed ≠ none → s.closed ≠ some .ended → ∃ length, ¬Admits maxPacketSize length ∧
    s.taken = s.delivered.flatMap Packet.encode ++ bigEndian32 length

/-- A read takes bytes that are there, and then the session closes, reads a body, or has delivered
a packet. -/
structure Reads (s s' : Receiver) : Prop where
  bytes : ∃ bytes ≠ [], s.unread = bytes ++ s'.unread ∧ s'.taken = s.taken ++ bytes
  received : s'.received = s.received
  outcome : (s'.closed ≠ none ∧ s'.closed ≠ some .ended ∧ s'.delivered = s.delivered) ∨
    (s'.closed = none ∧ (∃ length, s'.reading = .body length) ∧ s'.delivered = s.delivered) ∨
    s'.closed = none ∧ ∃ p, s'.delivered = s.delivered ++ [p]

variable {maxPacketSize : UInt32} {s s' t : Receiver}

/-- A read that completes takes the length field, or the bytes it tells of. -/
theorem complete_cases (h : s.complete = some s') : s.closed = none ∧
    ((s.reading = .header ∧ ∃ b₀ b₁ b₂ b₃ unread, s.unread = [b₀, b₁, b₂, b₃] ++ unread ∧
        s' = onHeader { s with taken := s.taken ++ [b₀, b₁, b₂, b₃], unread }
          #v[b₀, b₁, b₂, b₃]) ∨
      ∃ length bytes unread, s.reading = .body length ∧ bytes.length = length.toNat ∧
        s.unread = bytes ++ unread ∧
        s' = onBody { s with taken := s.taken ++ bytes, unread } bytes) := by
  cases hclosed : s.closed with
  | some reason =>
    simp only [complete, hclosed] at h
    cases h
  | none =>
    refine ⟨rfl, ?_⟩
    cases hreading : s.reading with
    | header =>
      rcases hunread : s.unread with _ | ⟨b₀, _ | ⟨b₁, _ | ⟨b₂, _ | ⟨b₃, unread⟩⟩⟩⟩
      all_goals simp only [complete, hclosed, hreading, hunread] at h
      case cons.cons.cons.cons =>
        exact .inl ⟨rfl, b₀, b₁, b₂, b₃, unread, rfl, (Option.some.inj h).symm⟩
      all_goals cases h
    | body length =>
      simp only [complete, hclosed, hreading] at h
      split_ifs at h with hlength
      exact .inr ⟨length, _, _, rfl, List.length_take_of_le hlength,
        (List.take_append_drop _ _).symm, (Option.some.inj h).symm⟩

theorem Accounted.onHeader {b₀ b₁ b₂ b₃ : UInt8} {unread : Bytes} (h : s.Accounted maxPacketSize)
    (hopen : s.closed = none) (hreading : s.reading = .header)
    (hunread : s.unread = [b₀, b₁, b₂, b₃] ++ unread) :
    Accounted maxPacketSize (Receiver.onHeader
      { s with taken := s.taken ++ [b₀, b₁, b₂, b₃], unread } #v[b₀, b₁, b₂, b₃]) := by
  have hreceived : s.received = s.taken ++ [b₀, b₁, b₂, b₃] ++ unread := by
    rw [h.received, hunread, List.append_assoc]
  have htaken : s.taken ++ [b₀, b₁, b₂, b₃] = s.delivered.flatMap Packet.encode ++
      bigEndian32 (decodeLength #v[b₀, b₁, b₂, b₃]) := by
    have hfield : bigEndian32 (decodeLength #v[b₀, b₁, b₂, b₃]) = [b₀, b₁, b₂, b₃] :=
      Packet.bigEndian32_word32 b₀ b₁ b₂ b₃
    rw [h.header hreading (.inl hopen), hfield]
  have hrefused (reason : CloseReason) (hreason : reason ≠ .ended)
      (hlength : ¬Admits maxPacketSize (decodeLength #v[b₀, b₁, b₂, b₃])) :
      Accounted maxPacketSize { s with
        taken := s.taken ++ [b₀, b₁, b₂, b₃]
        unread
        closed := some reason } := by
    refine ⟨h.maxPacketSize_eq, hreceived, h.fits, fun _ hclosed => ?_, fun length hbody => ?_,
      fun _ _ => ⟨_, hlength, htaken⟩⟩
    · rcases hclosed with hnone | hended
      · cases hnone
      · exact absurd (Option.some.inj hended) hreason
    · cases hreading.symm.trans hbody
  simp only [Receiver.onHeader]
  split_ifs with hsmall hlarge
  · exact hrefused _ nofun fun hadmits => absurd hadmits.1 (Nat.not_le.mpr hsmall)
  · refine hrefused _ nofun fun hadmits => absurd hadmits.2 ?_
    rw [← h.maxPacketSize_eq]
    exact UInt32.not_le.mpr hlarge
  · refine ⟨h.maxPacketSize_eq, hreceived, h.fits, nofun, fun length hbody => ?_,
      fun hclosed => absurd hopen hclosed⟩
    cases hbody
    refine ⟨.inl hopen, ⟨Nat.not_lt.mp hsmall, ?_⟩, htaken⟩
    rw [← h.maxPacketSize_eq]
    exact UInt32.not_lt.mp hlarge

theorem Accounted.onBody {length : UInt32} {bytes unread : Bytes} (h : s.Accounted maxPacketSize)
    (hreading : s.reading = .body length) (hlength : bytes.length = length.toNat)
    (hunread : s.unread = bytes ++ unread) (hopen : s.closed = none) :
    ∃ p, Receiver.onBody { s with taken := s.taken ++ bytes, unread } bytes =
        { s with
          taken := s.taken ++ bytes
          unread
          delivered := s.delivered ++ [p]
          reading := .header } ∧
      Accounted maxPacketSize { s with
        taken := s.taken ++ bytes
        unread
        delivered := s.delivered ++ [p]
        reading := .header } := by
  obtain ⟨-, hadmits, htaken⟩ := h.body length hreading
  obtain ⟨p, hp⟩ : ∃ p, Packet.decodePayload bytes = some p :=
    ⟨_, dif_pos (hlength ▸ hadmits.1)⟩
  have hpayload := Packet.payload_of_decodePayload hp
  have hsize : kFixedMetadataSize + p.body.length = length.toNat := by
    rw [← Packet.length_payload, hpayload, hlength]
  refine ⟨p, by simp only [Receiver.onBody, hp], h.maxPacketSize_eq, ?_, ?_, fun _ _ => ?_, nofun,
    fun hclosed => absurd hopen hclosed⟩
  · rw [h.received, hunread, List.append_assoc]
  · refine List.forall_mem_append.mpr ⟨h.fits, List.forall_mem_singleton.mpr ?_⟩
    rw [Packet.Fits, hsize]
    exact UInt32.le_iff_toNat_le.mp hadmits.2
  · rw [htaken, List.append_assoc, List.flatMap_append, List.flatMap_singleton, Packet.encode,
      hpayload, Packet.lengthHeader, hsize, UInt32.ofNat_toNat]

theorem Accounted.complete (h : s.Accounted maxPacketSize) (hcomplete : s.complete = some s') :
    s'.Accounted maxPacketSize := by
  obtain ⟨hopen, ⟨hreading, b₀, b₁, b₂, b₃, unread, hunread, rfl⟩ |
    ⟨length, bytes, unread, hreading, hlength, hunread, rfl⟩⟩ := complete_cases hcomplete
  · exact h.onHeader hopen hreading hunread
  · obtain ⟨p, heq, haccounted⟩ := h.onBody hreading hlength hunread hopen
    exact heq ▸ haccounted

theorem Accounted.fail (h : s.Accounted maxPacketSize) :
    Accounted maxPacketSize { s with closed := some (s.closed.getD .ended) } := by
  have hclosed : some (s.closed.getD .ended) = some .ended ↔
      s.closed = none ∨ s.closed = some .ended := by
    cases s.closed with
    | none => exact iff_of_true rfl (.inl rfl)
    | some reason => exact ⟨.inr, fun hor => hor.resolve_left nofun⟩
  refine ⟨h.maxPacketSize_eq, h.received, h.fits, fun hreading hor => ?_, fun length hreading => ?_,
    fun _ hended => ?_⟩
  · exact h.header hreading (hclosed.mp (hor.resolve_left nofun))
  · obtain ⟨hor, hrest⟩ := h.body length hreading
    exact ⟨.inr (hclosed.mpr hor), hrest⟩
  · have hnot : ¬(s.closed = none ∨ s.closed = some .ended) := fun hor => hended (hclosed.mpr hor)
    exact h.refused (fun hnone => hnot (.inl hnone)) fun hor => hnot (.inr hor)

theorem Reaches.accounted (h : Reaches maxPacketSize s) : s.Accounted maxPacketSize := by
  refine h.invariant (P := Accounted maxPacketSize) ?_ ?_
  · rintro s rfl
    exact ⟨rfl, rfl, List.forall_mem_nil _, fun _ _ => rfl, nofun, fun h => absurd rfl h⟩
  · rintro s action s' hs - hstep
    cases action with
    | arrive bytes =>
      obtain rfl := Option.some.inj hstep
      refine ⟨hs.maxPacketSize_eq, ?_, hs.fits, hs.header, hs.body, hs.refused⟩
      rw [hs.received, List.append_assoc]
    | complete => exact hs.complete hstep
    | fail => exact Option.some.inj hstep ▸ hs.fail

theorem reads_header {b₀ b₁ b₂ b₃ : UInt8} {unread : Bytes} (hopen : s.closed = none)
    (hunread : s.unread = [b₀, b₁, b₂, b₃] ++ unread) : s.Reads (Receiver.onHeader
      { s with taken := s.taken ++ [b₀, b₁, b₂, b₃], unread } #v[b₀, b₁, b₂, b₃]) := by
  simp only [Receiver.onHeader]
  split_ifs
  · exact ⟨⟨_, List.cons_ne_nil _ _, hunread, rfl⟩, rfl, .inl ⟨nofun, nofun, rfl⟩⟩
  · exact ⟨⟨_, List.cons_ne_nil _ _, hunread, rfl⟩, rfl, .inl ⟨nofun, nofun, rfl⟩⟩
  · exact ⟨⟨_, List.cons_ne_nil _ _, hunread, rfl⟩, rfl, .inr (.inl ⟨hopen, ⟨_, rfl⟩, rfl⟩)⟩

theorem Accounted.reads (h : s.Accounted maxPacketSize) (hcomplete : s.complete = some s') :
    s.Reads s' := by
  obtain ⟨hopen, ⟨hreading, b₀, b₁, b₂, b₃, unread, hunread, rfl⟩ |
    ⟨length, bytes, unread, hreading, hlength, hunread, rfl⟩⟩ := complete_cases hcomplete
  · exact reads_header hopen hunread
  · obtain ⟨p, heq, -⟩ := h.onBody hreading hlength hunread hopen
    have hnonempty : bytes ≠ [] := by
      rintro rfl
      have hadmits : 16 ≤ length.toNat := (h.body length hreading).2.1.1
      change 0 = length.toNat at hlength
      omega
    rw [heq]
    exact ⟨⟨bytes, hnonempty, hunread, rfl⟩, rfl, .inr (.inr ⟨hopen, p, rfl⟩)⟩

theorem Reads.length_lt (h : s.Reads s') : s'.unread.length < s.unread.length := by
  obtain ⟨bytes, hbytes, hunread, -⟩ := h.bytes
  have hpos := List.length_pos_of_ne_nil hbytes
  rw [hunread, List.length_append]
  omega

theorem Reads.not_ended (h : s.Reads s') : s'.closed ≠ some .ended := by
  rcases h.outcome with ⟨-, hended, -⟩ | ⟨hopen, -⟩ | ⟨hopen, -⟩
  · exact hended
  · rw [hopen]
    nofun
  · rw [hopen]
    nofun

theorem Accounted.later (h : s.Accounted maxPacketSize) (hopen : s.closed = none)
    (hlater : s.Later t) :
    t.Accounted maxPacketSize ∧ t.received = s.received ∧ t.closed ≠ some .ended := by
  refine hlater.invariant (P := fun t => t.Accounted maxPacketSize ∧ t.received = s.received ∧
    t.closed ≠ some .ended) ?_ ?_
  · rintro t rfl
    exact ⟨h, rfl, by rw [hopen]; nofun⟩
  · rintro t ⟨⟩ t' ⟨ht, hreceived, -⟩ - hstep
    have hreads := ht.reads hstep
    exact ⟨ht.complete hstep, hreads.received.trans hreceived, hreads.not_ended⟩

/-- The reads that can complete come to an end, since each takes a byte. -/
theorem Accounted.settles (h : s.Accounted maxPacketSize) :
    ∃ t, s.Later t ∧ (t.Waits ∨ t.closed ≠ none) := by
  generalize hn : s.unread.length = n
  induction n using Nat.strong_induction_on generalizing s with
  | _ n ih =>
    cases hcomplete : s.complete with
    | none =>
      refine ⟨s, .init rfl, ?_⟩
      by_cases hopen : s.closed = none
      · exact .inl ⟨hopen, hcomplete⟩
      · exact .inr hopen
    | some s' =>
      have hlt := (h.reads hcomplete).length_lt
      obtain ⟨t, hlater, ht⟩ := ih _ (hn ▸ hlt) (h.complete hcomplete) rfl
      refine ⟨t, ?_, ht⟩
      have hs : s.Later s := .init rfl
      refine hlater.invariant (P := s.Later) ?_ ?_
      · rintro u rfl
        exact hs.step (a := ()) trivial hcomplete
      · intro u a u' hu hok hstep
        exact hu.step (a := a) hok hstep

theorem length_lt_of_waits_header (h : s.Waits) (hreading : s.reading = .header) :
    s.unread.length < 4 := by
  obtain ⟨hopen, hcomplete⟩ := h
  rcases hunread : s.unread with _ | ⟨b₀, _ | ⟨b₁, _ | ⟨b₂, _ | ⟨b₃, unread⟩⟩⟩⟩
  · exact Nat.zero_lt_succ _
  · exact Nat.succ_lt_succ (Nat.zero_lt_succ _)
  · exact Nat.succ_lt_succ (Nat.succ_lt_succ (Nat.zero_lt_succ _))
  · exact Nat.succ_lt_succ (Nat.succ_lt_succ (Nat.succ_lt_succ (Nat.zero_lt_succ _)))
  · simp only [complete, hopen, hreading, hunread] at hcomplete
    cases hcomplete

theorem length_lt_of_waits_body {length : UInt32} (h : s.Waits)
    (hreading : s.reading = .body length) : s.unread.length < length.toNat := by
  obtain ⟨hopen, hcomplete⟩ := h
  simp only [complete, hopen, hreading] at hcomplete
  split_ifs at hcomplete with hlength
  exact Nat.lt_of_not_le hlength

/-! ## Packets that fit -/

variable {packets : List DecodedPacket}

/-- The next length field in the bytes of packets that fit is that of the next packet. -/
theorem exists_next {length : UInt32} {rest : Bytes}
    (hfits : ∀ p ∈ packets, Packet.Fits maxPacketSize p)
    (h : bigEndian32 length ++ rest <+: packets.flatMap Packet.encode) :
    ∃ p packets', packets = p :: packets' ∧ length.toNat = kFixedMetadataSize + p.body.length ∧
      Admits maxPacketSize length ∧
        rest <+: Packet.payload p ++ packets'.flatMap Packet.encode := by
  cases packets with
  | nil => cases List.prefix_nil.mp h
  | cons p packets =>
    obtain ⟨hp, -⟩ := List.forall_mem_cons.mp hfits
    rw [List.flatMap_cons, Packet.encode, List.append_assoc] at h
    obtain ⟨after, h⟩ := h
    rw [List.append_assoc] at h
    obtain ⟨hheader, hrest⟩ := List.append_inj h rfl
    obtain rfl := Packet.bigEndian32_injective hheader
    have hlength := Packet.toNat_length hp
    refine ⟨p, packets, rfl, hlength, ⟨?_, ?_⟩, after, hrest⟩
    · rw [hlength]
      exact Nat.le_add_right _ _
    · rw [UInt32.le_iff_toNat_le, hlength]
      exact hp

/-- On the bytes of packets that fit the first of them are delivered, and no check fails. -/
theorem Accounted.of_prefix (h : s.Accounted maxPacketSize)
    (hfits : ∀ p ∈ packets, Packet.Fits maxPacketSize p)
    (hreceived : s.received <+: packets.flatMap Packet.encode) :
    ∃ rest, packets = s.delivered ++ rest ∧ (s.closed = none ∨ s.closed = some .ended) := by
  rw [h.received] at hreceived
  by_cases hclosed : s.closed = none ∨ s.closed = some .ended
  · cases hreading : s.reading with
    | header =>
      rw [h.header hreading hclosed] at hreceived
      obtain ⟨rest, hrest, -⟩ := Packet.flatMap_encode_prefix h.fits hfits hreceived
      exact ⟨rest, hrest, hclosed⟩
    | body length =>
      rw [(h.body length hreading).2.2, List.append_assoc] at hreceived
      obtain ⟨rest, hrest, -⟩ := Packet.flatMap_encode_prefix h.fits hfits hreceived
      exact ⟨rest, hrest, hclosed⟩
  · obtain ⟨length, hlength, htaken⟩ := h.refused (fun hnone => hclosed (.inl hnone))
      fun hended => hclosed (.inr hended)
    rw [htaken, List.append_assoc] at hreceived
    obtain ⟨rest, rfl, hprefix⟩ := Packet.flatMap_encode_prefix h.fits hfits hreceived
    obtain ⟨-, -, -, -, hadmits, -⟩ :=
      exists_next (fun p hp => hfits p (List.mem_append_right _ hp)) hprefix
    exact absurd hadmits hlength

/-- A session that has received the packets whole, and waits, has delivered them all. -/
theorem Accounted.of_waits (h : s.Accounted maxPacketSize)
    (hfits : ∀ p ∈ packets, Packet.Fits maxPacketSize p)
    (hreceived : s.received = packets.flatMap Packet.encode) (hwaits : s.Waits) :
    s.delivered = packets ∧ s.unread = [] := by
  obtain ⟨rest, rfl, -⟩ := h.of_prefix hfits (hreceived ▸ List.prefix_refl _)
  have hrest : ∀ p ∈ rest, Packet.Fits maxPacketSize p := fun p hp =>
    hfits p (List.mem_append_right _ hp)
  rw [h.received, List.flatMap_append] at hreceived
  cases hreading : s.reading with
  | header =>
    rw [h.header hreading (.inl hwaits.1)] at hreceived
    have hunread := List.append_cancel_left hreceived
    cases rest with
    | nil => exact ⟨(List.append_nil _).symm, hunread⟩
    | cons p rest =>
      have hlength := length_lt_of_waits_header hwaits hreading
      rw [hunread, List.flatMap_cons, List.length_append, Packet.length_encode] at hlength
      simp only [kLengthHeaderSize] at hlength
      omega
  | body length =>
    rw [(h.body length hreading).2.2, List.append_assoc] at hreceived
    have hunread := List.append_cancel_left hreceived
    have hprefix : bigEndian32 length ++ s.unread <+: rest.flatMap Packet.encode :=
      ⟨[], (List.append_nil _).trans hunread⟩
    obtain ⟨p, packets', rfl, hsize, -, -⟩ := exists_next hrest hprefix
    rw [List.flatMap_cons, Packet.encode, List.append_assoc] at hunread
    obtain ⟨-, hunread⟩ := List.append_inj hunread rfl
    have hlength := length_lt_of_waits_body hwaits hreading
    rw [hunread, List.length_append, Packet.length_payload, ← hsize] at hlength
    exact absurd hlength (Nat.not_lt.mpr (Nat.le_add_right _ _))

/-- On the bytes of packets that fit, in pieces of any size, the session delivers them in order;
when all have arrived and the reads have come to an end, these are all packets, and no byte is
left. On any bytes a read takes bytes that have arrived, and delivers a packet, waits for its body
or closes, until the session waits or is closed. -/
theorem packets_cut (maxPacketSize : UInt32) :
    (∀ packets s, (∀ p ∈ packets, Packet.Fits maxPacketSize p) → Reaches maxPacketSize s →
      s.received <+: packets.flatMap Packet.encode →
      s.delivered <+: packets ∧ (s.closed = none ∨ s.closed = some .ended)) ∧
    (∀ packets s, (∀ p ∈ packets, Packet.Fits maxPacketSize p) → Reaches maxPacketSize s →
      s.received = packets.flatMap Packet.encode → s.closed = none →
      (∃ t, s.Later t ∧ t.Waits) ∧
        ∀ t, s.Later t → t.Waits → t.delivered = packets ∧ t.unread = []) ∧
    ∀ s, Reaches maxPacketSize s → s.received = s.taken ++ s.unread ∧
      (∀ s', s.complete = some s' → s.Reads s') ∧
        ∃ t, s.Later t ∧ (t.Waits ∨ t.closed ≠ none) := by
  refine ⟨fun packets s hfits hs hreceived => ?_, fun packets s hfits hs hreceived hopen => ?_,
    fun s hs => ⟨hs.accounted.received, fun s' => hs.accounted.reads, hs.accounted.settles⟩⟩
  · obtain ⟨rest, rfl, hclosed⟩ := hs.accounted.of_prefix hfits hreceived
    exact ⟨List.prefix_append _ _, hclosed⟩
  · refine ⟨?_, fun t hlater hwaits => ?_⟩
    · obtain ⟨t, hlater, hwaits | hclosed⟩ := hs.accounted.settles
      · exact ⟨t, hlater, hwaits⟩
      · obtain ⟨ht, htreceived, hended⟩ := hs.accounted.later hopen hlater
        have hprefix : t.received <+: packets.flatMap Packet.encode :=
          ⟨[], (List.append_nil _).trans (htreceived.trans hreceived)⟩
        obtain ⟨-, -, hnone | hended'⟩ := ht.of_prefix hfits hprefix
        · exact absurd hnone hclosed
        · exact absurd hended' hended
    · obtain ⟨ht, htreceived, -⟩ := hs.accounted.later hopen hlater
      exact ht.of_waits hfits (htreceived.trans hreceived) hwaits

end Receiver

end BoostGateway.Net
