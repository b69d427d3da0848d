import BoostGateway.Net.PacketStream
import BoostGateway.Net.WriteQueue

/-!
# The connection of the SDK

`encode` and `decode_payload` of the SDK (`codec.h`), which has no code in common with the gateway,
and `TcpConnection` (`client.cpp`) : the bytes that `read` takes from the socket, in pieces of any
size, and the packets that `try_decode_buffered` cuts from its buffer.

`encode_eq`, `decodePayload_payload` : the codec is that of the gateway. So the gateway reads
the requests of the SDK as they were sent, and the SDK the packets of the gateway
(`Wire.streams_agree`); with the write loop of a session in front of it, the SDK returns the messages
of the writes that completed, in the order of these writes (`Wire.reads_written`).
-/

namespace BoostGateway.Sdk

open Net

/-! ## The codec -/

/-- `encode`, of a body whose length has 32 bits with that of the metadata. -/
def encode (messageId : UInt16) (requestId : UInt32) (errorCode : Int32) (body : Bytes)
    (flags : UInt8) (sequenceNumber : UInt32) (version : UInt8) : Bytes :=
  let bodyLength := UInt32.ofNat (kFixedMetadataSize + body.length)
  [(bodyLength >>> 24).toUInt8, (bodyLength >>> 16).toUInt8, (bodyLength >>> 8).toUInt8,
    bodyLength.toUInt8, version, (messageId >>> 8).toUInt8, messageId.toUInt8,
    (requestId >>> 24).toUInt8, (requestId >>> 16).toUInt8, (requestId >>> 8).toUInt8,
    requestId.toUInt8, (sequenceNumber >>> 24).toUInt8, (sequenceNumber >>> 16).toUInt8,
    (sequenceNumber >>> 8).toUInt8, sequenceNumber.toUInt8, (errorCode.toUInt32 >>> 24).toUInt8,
    (errorCode.toUInt32 >>> 16).toUInt8, (errorCode.toUInt32 >>> 8).toUInt8,
    errorCode.toUInt32.toUInt8, flags] ++ body

/-- `decode_length`, of the four bytes of the header. -/
def decodeLength (b₀ b₁ b₂ b₃ : UInt8) : UInt32 :=
  (b₀.toUInt32 <<< 24) ||| (b₁.toUInt32 <<< 16) ||| (b₂.toUInt32 <<< 8) ||| b₃.toUInt32

/-- The packet without a field set, which stands for none. -/
def emptyPacket : DecodedPacket where
  version := 0
  messageId := 0
  requestId := 0
  sequenceNumber := 0
  errorCode := 0
  flags := 0
  body := []

/-- `decode_payload`, which does not throw. -/
def decodePayload : Bytes → DecodedPacket
  | v :: m₁ :: m₂ :: r₁ :: r₂ :: r₃ :: r₄ :: s₁ :: s₂ :: s₃ :: s₄ :: e₁ :: e₂ :: e₃ :: e₄ ::
      flags :: body =>
    { version := v
      messageId := (m₁.toUInt16 <<< 8) ||| m₂.toUInt16
      requestId := (r₁.toUInt32 <<< 24) ||| (r₂.toUInt32 <<< 16) ||| (r₃.toUInt32 <<< 8) |||
        r₄.toUInt32
      sequenceNumber := (s₁.toUInt32 <<< 24) ||| (s₂.toUInt32 <<< 16) ||| (s₃.toUInt32 <<< 8) |||
        s₄.toUInt32
      errorCode := ((e₁.toUInt32 <<< 24) ||| (e₂.toUInt32 <<< 16) ||| (e₃.toUInt32 <<< 8) |||
        e₄.toUInt32).toInt32
      flags := flags
      body := body }
  | _ => emptyPacket

/-- The SDK writes a packet as the gateway does. -/
theorem encode_eq (p : DecodedPacket) :
    encode p.messageId p.requestId p.errorCode p.body p.flags p.sequenceNumber p.version =
      Packet.encode p := rfl

/-- The SDK reads a payload as the gateway does. -/
theorem decodePayload_eq {bytes : Bytes} {p : DecodedPacket}
    (h : Packet.decodePayload bytes = some p) : decodePayload bytes = p := by
  rw [← Packet.payload_of_decodePayload h]
  calc _ = DecodedPacket.mk p.version
        (Packet.word16 (p.messageId >>> 8).toUInt8 p.messageId.toUInt8)
        (Packet.word32 (p.requestId >>> 24).toUInt8 (p.requestId >>> 16).toUInt8
          (p.requestId >>> 8).toUInt8 p.requestId.toUInt8)
        (Packet.word32 (p.sequenceNumber >>> 24).toUInt8 (p.sequenceNumber >>> 16).toUInt8
          (p.sequenceNumber >>> 8).toUInt8 p.sequenceNumber.toUInt8)
        (Packet.word32 (p.errorCode.toUInt32 >>> 24).toUInt8
          (p.errorCode.toUInt32 >>> 16).toUInt8 (p.errorCode.toUInt32 >>> 8).toUInt8
          p.errorCode.toUInt32.toUInt8).toInt32 p.flags p.body := rfl
    _ = p := by
      rw [Packet.word16_bigEndian16, Packet.word32_bigEndian32, Packet.word32_bigEndian32,
        Packet.word32_bigEndian32, Int32.toInt32_toUInt32]

theorem decodePayload_payload (p : DecodedPacket) : decodePayload (Packet.payload p) = p :=
  decodePayload_eq (Packet.decodePayload_payload p)

/-! ## The connection -/

/-- The largest payload that `try_decode_buffered` lets pass. -/
def kMaxPayloadSize : UInt32 := 1024 * 1024

/-- `TcpConnection`, but for the socket. -/
structure TcpConnection where
  connected : Bool := true
  readBuffer : Bytes := []
  deriving DecidableEq

/-- `try_decode_buffered`. -/
def TcpConnection.tryDecodeBuffered (c : TcpConnection) : TcpConnection × Option DecodedPacket :=
  match c.readBuffer with
  | [] | [_] | [_, _] | [_, _, _] => (c, none)
  | b₀ :: b₁ :: b₂ :: b₃ :: rest =>
    let len := decodeLength b₀ b₁ b₂ b₃
    if len.toNat < kFixedMetadataSize ∨ kMaxPayloadSize < len then
      ({ connected := false, readBuffer := [] }, none)
    else if c.readBuffer.length < kLengthHeaderSize + len.toNat then (c, none)
    else ({ c with readBuffer := rest.drop len.toNat }, some (decodePayload (rest.take len.toNat)))

namespace TcpConnection

variable {c c' : TcpConnection} {p : DecodedPacket} {rest : List DecodedPacket}

/-- What is returned was at the front of the buffer. -/
theorem tryDecodeBuffered_some (h : c.tryDecodeBuffered = (c', some p)) :
    c.readBuffer = Packet.encode p ++ c'.readBuffer ∧ Packet.Fits kMaxPayloadSize p ∧
      c'.connected = c.connected := by
  obtain ⟨connected, buffer⟩ := c
  match buffer with
  | [] | [_] | [_, _] | [_, _, _] => simp [tryDecodeBuffered] at h
  | b₀ :: b₁ :: b₂ :: b₃ :: bytes =>
    unfold tryDecodeBuffered at h
    dsimp only at h
    have hlen : decodeLength b₀ b₁ b₂ b₃ = Packet.word32 b₀ b₁ b₂ b₃ := rfl
    rw [hlen] at h
    generalize hword : Packet.word32 b₀ b₁ b₂ b₃ = len at h
    split_ifs at h with hrefused hwhole
    · simp at h
    · simp at h
    · obtain ⟨hsmall, hlarge⟩ := not_or.mp hrefused
      obtain ⟨rfl, hp⟩ := Prod.mk.inj h
      obtain rfl := Option.some.inj hp
      have htake : (bytes.take len.toNat).length = len.toNat := by
        simp only [List.length_cons, kLengthHeaderSize] at hwhole
        rw [List.length_take]
        omega
      obtain ⟨p, hdecoded⟩ : ∃ p, Packet.decodePayload (bytes.take len.toNat) = some p := by
        rw [Packet.decodePayload, dif_pos (by omega)]
        exact ⟨_, rfl⟩
      have hpayload := Packet.payload_of_decodePayload hdecoded
      rw [decodePayload_eq hdecoded]
      have hlength : kFixedMetadataSize + p.body.length = len.toNat := by
        rw [← Packet.length_payload, hpayload, htake]
      refine ⟨?_, ?_, rfl⟩
      · have hheader : bigEndian32 len = [b₀, b₁, b₂, b₃] := by
          rw [← hword, Packet.bigEndian32_word32]
        rw [Packet.encode, Packet.lengthHeader, hlength, UInt32.ofNat_toNat, hheader, hpayload,
          List.append_assoc, List.take_append_drop]
        rfl
      · rw [Packet.Fits, hlength]
        exact UInt32.le_iff_toNat_le.mp (UInt32.not_lt.mp hlarge)

/-- Where nothing is returned the buffer is left alone, or the connection closed. -/
theorem tryDecodeBuffered_none (h : c.tryDecodeBuffered = (c', none)) :
    c' = c ∨ c' = { connected := false, readBuffer := [] } := by
  unfold tryDecodeBuffered at h
  split at h
  case h_5 =>
    dsimp only at h
    split_ifs at h
    · exact .inr (Prod.mk.inj h).1.symm
    · exact .inl (Prod.mk.inj h).1.symm
    · cases (Prod.mk.inj h).2
  all_goals exact .inl (Prod.mk.inj h).1.symm

/-- On the first bytes of packets that fit, the next packet is cut off when it is there whole, and
the buffer is left alone when it is not. -/
theorem tryDecodeBuffered_cases (hfits : ∀ p ∈ rest, Packet.Fits kMaxPayloadSize p)
    (h : c.readBuffer <+: rest.flatMap Packet.encode) :
    (c.tryDecodeBuffered = (c, none) ∧
        (c.readBuffer = rest.flatMap Packet.encode → rest = [])) ∨
      ∃ p rest' buffer, rest = p :: rest' ∧ c.readBuffer = Packet.encode p ++ buffer ∧
        c.tryDecodeBuffered = ({ c with readBuffer := buffer }, some p) := by
  obtain ⟨connected, buffer⟩ := c
  dsimp only at h ⊢
  have hshort (hlt : buffer.length < kLengthHeaderSize) :
      buffer = rest.flatMap Packet.encode → rest = [] := by
    rintro rfl
    cases rest with
    | nil => rfl
    | cons p rest =>
      rw [List.flatMap_cons, List.length_append, Packet.length_encode] at hlt
      omega
  match buffer with
  | [] | [_] | [_, _] | [_, _, _] => exact .inl ⟨rfl, hshort (by simp [kLengthHeaderSize])⟩
  | b₀ :: b₁ :: b₂ :: b₃ :: bytes =>
    clear hshort
    have hbuffer : b₀ :: b₁ :: b₂ :: b₃ :: bytes =
        bigEndian32 (Packet.word32 b₀ b₁ b₂ b₃) ++ bytes := by
      rw [Packet.bigEndian32_word32]
      rfl
    rw [hbuffer] at h
    obtain ⟨p, rest', rfl, hlength, hadmits, hbytes⟩ := Receiver.exists_next hfits h
    have hlen : decodeLength b₀ b₁ b₂ b₃ = Packet.word32 b₀ b₁ b₂ b₃ := rfl
    have hadmitted : ¬((Packet.word32 b₀ b₁ b₂ b₃).toNat < kFixedMetadataSize ∨
        kMaxPayloadSize < Packet.word32 b₀ b₁ b₂ b₃) := by
      rintro (hsmall | hlarge)
      · exact absurd hadmits.1 (Nat.not_le.mpr hsmall)
      · exact absurd hadmits.2 (UInt32.not_le.mpr hlarge)
    rw [← Packet.length_payload] at hlength
    unfold tryDecodeBuffered
    dsimp only
    rw [hlen, if_neg hadmitted, hlength]
    split_ifs with hwhole
    · refine .inl ⟨rfl, fun hall => ?_⟩
      rw [hall, List.flatMap_cons, List.length_append, Packet.length_encode,
        ← Packet.length_payload] at hwhole
      omega
    · simp only [List.length_cons] at hwhole
      have hle : (Packet.payload p).length ≤ bytes.length := by
        simp only [kLengthHeaderSize] at hwhole
        omega
      obtain ⟨buffer, rfl⟩ : Packet.payload p <+: bytes :=
        List.prefix_of_prefix_length_le (List.prefix_append _ _) hbytes hle
      refine .inr ⟨p, rest', buffer, rfl, ?_, ?_⟩
      · rw [hbuffer, ← List.append_assoc, Packet.encode, Packet.lengthHeader,
          ← Packet.length_payload, ← hlength, UInt32.ofNat_toNat]
      · rw [List.take_left, List.drop_left, decodePayload_payload]

end TcpConnection

/-- A connection, all bytes it took from the socket, and the packets that `read` returned. -/
structure Wire where
  connection : TcpConnection := {}
  received : Bytes := []
  packets : List DecodedPacket := []
  /-- The socket reported an error. -/
  failed : Bool := false

/-- What a call of `read` does, as often as it turns. -/
inductive WireAction
  | tryDecode
  | readSome (chunk : Bytes)
  | socketFails

namespace Wire

def tryDecode (w : Wire) : Wire :=
  let result := w.connection.tryDecodeBuffered
  { w with
    connection := result.1
    packets := w.packets ++ result.2.toList }

def readSome (w : Wire) (chunk : Bytes) : Wire :=
  { w with
    connection := { w.connection with readBuffer := w.connection.readBuffer ++ chunk }
    received := w.received ++ chunk }

def socketFails (w : Wire) : Wire :=
  { w with
    connection := { w.connection with connected := false }
    failed := true }

def step (w : Wire) : WireAction → Option Wire
  | .tryDecode => some w.tryDecode
  | .readSome chunk => some (w.readSome chunk)
  | .socketFails => some w.socketFails

abbrev Reaches : Wire → Prop := BoostGateway.Reaches (· = {}) step fun _ _ => True

/-- `read` finds no packet in the buffer. -/
def Drained (w : Wire) : Prop := w.connection.tryDecodeBuffered.2 = none

/-- On the first bytes of a stream of packets the connection is up unless the socket failed, the
bytes taken are those of the packets returned and of the buffer, and the packets returned are the
first of the stream. -/
structure Cut (stream : List DecodedPacket) (w : Wire) : Prop where
  connected : w.connection.connected = !w.failed
  received : w.received = w.packets.flatMap Packet.encode ++ w.connection.readBuffer
  packets : w.packets <+: stream

variable {w w' : Wire} {stream : List DecodedPacket}

/-- The buffer holds the first bytes of the packets that are still to come. -/
theorem Cut.exists_rest (h : w.Cut stream)
    (hreceived : w.received <+: stream.flatMap Packet.encode) : ∃ rest,
    stream = w.packets ++ rest ∧ w.connection.readBuffer <+: rest.flatMap Packet.encode := by
  obtain ⟨rest, rfl⟩ := h.packets
  rw [h.received, List.flatMap_append, List.prefix_append_right_inj] at hreceived
  exact ⟨rest, rfl, hreceived⟩

theorem Cut.step {a : WireAction} (hfits : ∀ p ∈ stream, Packet.Fits kMaxPayloadSize p)
    (h : w.received <+: stream.flatMap Packet.encode → w.Cut stream) (hs : w.step a = some w')
    (hreceived : w'.received <+: stream.flatMap Packet.encode) : w'.Cut stream := by
  cases a with
  | readSome chunk =>
    obtain rfl := Option.some_inj.mp hs
    have hcut := h ((List.prefix_append _ _).trans hreceived)
    refine ⟨hcut.connected, ?_, hcut.packets⟩
    simp only [readSome, hcut.received, List.append_assoc]
  | socketFails =>
    obtain rfl := Option.some_inj.mp hs
    have hcut := h hreceived
    exact ⟨rfl, hcut.received, hcut.packets⟩
  | tryDecode =>
    obtain rfl := Option.some_inj.mp hs
    have hcut := h hreceived
    obtain ⟨rest, rfl, hbuffer⟩ := hcut.exists_rest hreceived
    obtain ⟨htry, -⟩ | ⟨p, rest', buffer, rfl, hbytes, htry⟩ :=
      TcpConnection.tryDecodeBuffered_cases
        (fun p hp => hfits p (List.mem_append_right _ hp)) hbuffer
    · refine ⟨?_, ?_, ?_⟩ <;> simp only [tryDecode, htry, Option.toList_none, List.append_nil]
      · exact hcut.connected
      · exact hcut.received
      · exact List.prefix_append _ _
    · refine ⟨?_, ?_, ?_⟩ <;> simp only [tryDecode, htry, Option.toList_some]
      · exact hcut.connected
      · rw [hcut.received, hbytes, List.flatMap_append, List.flatMap_singleton, List.append_assoc]
      · exact ⟨rest', by simp⟩

theorem Reaches.cut (h : Reaches w) (hfits : ∀ p ∈ stream, Packet.Fits kMaxPayloadSize p)
    (hreceived : w.received <+: stream.flatMap Packet.encode) : w.Cut stream :=
  BoostGateway.Reaches.invariant
    (P := fun w => w.received <+: stream.flatMap Packet.encode → w.Cut stream) h
    (by rintro w rfl -; exact ⟨rfl, rfl, List.nil_prefix⟩)
    (fun _ _ _ ih _ hs => Cut.step hfits ih hs) hreceived

/-- When all bytes are taken and `read` finds nothing more, all packets were returned. -/
theorem Cut.of_drained (h : w.Cut stream) (hfits : ∀ p ∈ stream, Packet.Fits kMaxPayloadSize p)
    (hreceived : w.received = stream.flatMap Packet.encode) (hdrained : w.Drained) :
    w.packets = stream ∧ w.connection.readBuffer = [] := by
  obtain ⟨rest, rfl, hbuffer⟩ := h.exists_rest (hreceived ▸ List.prefix_refl _)
  have hall : w.connection.readBuffer = rest.flatMap Packet.encode := by
    rw [h.received, List.flatMap_append] at hreceived
    exact List.append_cancel_left hreceived
  obtain ⟨-, hnone⟩ | ⟨p, rest', buffer, -, -, htry⟩ :=
    TcpConnection.tryDecodeBuffered_cases (fun p hp => hfits p (List.mem_append_right _ hp)) hbuffer
  · obtain rfl := hnone hall
    exact ⟨(List.append_nil _).symm, hall⟩
  · rw [Drained, htry] at hdrained
    cases hdrained

/-- While the connection is up, no byte it took is lost : each belongs to a packet returned, or is
still in the buffer. -/
theorem Reaches.accounted (h : Reaches w) : w.connection.connected = true →
    w.received = w.packets.flatMap Packet.encode ++ w.connection.readBuffer ∧
      ∀ p ∈ w.packets, Packet.Fits kMaxPayloadSize p := by
  refine h.invariant (P := fun w => w.connection.connected = true →
    w.received = w.packets.flatMap Packet.encode ++ w.connection.readBuffer ∧
      ∀ p ∈ w.packets, Packet.Fits kMaxPayloadSize p) ?_ ?_
  · rintro w rfl -
    exact ⟨rfl, List.forall_mem_nil _⟩
  · intro w a w' ih _ hs hup
    cases a with
    | readSome chunk =>
      obtain rfl := Option.some_inj.mp hs
      obtain ⟨hreceived, hfits⟩ := ih hup
      refine ⟨?_, hfits⟩
      rw [readSome, hreceived, List.append_assoc]
    | socketFails =>
      obtain rfl := Option.some_inj.mp hs
      cases hup
    | tryDecode =>
      obtain rfl := Option.some_inj.mp hs
      unfold tryDecode at hup ⊢
      rcases hresult : w.connection.tryDecodeBuffered with ⟨c', _ | p⟩
      · simp only [hresult, Option.toList_none, List.append_nil] at hup ⊢
        obtain rfl | rfl := TcpConnection.tryDecodeBuffered_none hresult
        · exact ih hup
        · cases hup
      · simp only [hresult, Option.toList_some] at hup ⊢
        obtain ⟨hbuffer, hp, hconnected⟩ := TcpConnection.tryDecodeBuffered_some hresult
        obtain ⟨hreceived, hfits⟩ := ih (hconnected ▸ hup)
        refine ⟨?_, ?_⟩
        · rw [hreceived, hbuffer, List.flatMap_append, List.flatMap_singleton, List.append_assoc]
        · intro q hq
          obtain hq | hq := List.mem_append.mp hq
          · exact hfits q hq
          · obtain rfl := List.mem_singleton.mp hq
            exact hp

/-- Finitely many turns of `read` leave nothing to return. -/
theorem exists_drained (w : Wire) : ∃ n, (tryDecode^[n] w).Drained := by
  generalize hn : w.connection.readBuffer.length = n
  induction n using Nat.strong_induction_on generalizing w with
  | _ n ih =>
    rcases hresult : w.connection.tryDecodeBuffered with ⟨c', _ | p⟩
    · exact ⟨0, by rw [Drained, Function.iterate_zero, id, hresult]⟩
    · obtain ⟨hbuffer, -, -⟩ := TcpConnection.tryDecodeBuffered_some hresult
      have hshorter : w.tryDecode.connection.readBuffer.length < n := by
        rw [← hn, hbuffer, List.length_append, Packet.length_encode, tryDecode, hresult,
          kLengthHeaderSize]
        dsimp only
        omega
      obtain ⟨m, hm⟩ := ih _ hshorter w.tryDecode rfl
      exact ⟨m + 1, hm⟩

theorem Reaches.iterate (h : Reaches w) (n : ℕ) : Reaches (tryDecode^[n] w) ∧
    (tryDecode^[n] w).received = w.received ∧ (tryDecode^[n] w).failed = w.failed := by
  induction n generalizing w with
  | zero => exact ⟨h, rfl, rfl⟩
  | succ n ih => exact ih (h.step trivial (a := .tryDecode) rfl)

/-- The requests of the SDK reach the gateway as they were sent, and the packets of the gateway the
SDK, in pieces of any size : as long as bytes are missing the first of them, and then all. Whatever
else arrives, no byte is lost while the connection is up. -/
theorem streams_agree :
    (∀ maxPacketSize stream s, (∀ p ∈ stream, Packet.Fits maxPacketSize p) →
      Receiver.Reaches maxPacketSize s →
      s.received <+: stream.flatMap (fun p => encode p.messageId p.requestId p.errorCode p.body
        p.flags p.sequenceNumber p.version) →
      s.delivered <+: stream ∧ (s.closed = none ∨ s.closed = some .ended) ∧
        (s.received = stream.flatMap (fun p => encode p.messageId p.requestId p.errorCode p.body
          p.flags p.sequenceNumber p.version) → s.Waits → s.delivered = stream ∧ s.unread = [])) ∧
    (∀ stream w, (∀ p ∈ stream, Packet.Fits kMaxPayloadSize p) → Reaches w →
      w.received <+: stream.flatMap Packet.encode →
      w.packets <+: stream ∧ w.connection.connected = !w.failed ∧
        (w.received = stream.flatMap Packet.encode →
          ∃ n, (tryDecode^[n] w).packets = stream ∧
            (tryDecode^[n] w).connection = { connected := !w.failed, readBuffer := [] })) ∧
    ∀ w, Reaches w → w.connection.connected = true →
      w.received = w.packets.flatMap Packet.encode ++ w.connection.readBuffer ∧
        ∀ p ∈ w.packets, Packet.Fits kMaxPayloadSize p := by
  refine ⟨fun maxPacketSize stream s hfits hs hreceived => ?_, fun stream w hfits hw hreceived => ?_,
    fun w hw => hw.accounted⟩
  · simp only [encode_eq] at hreceived ⊢
    obtain ⟨rest, hrest, hclosed⟩ := hs.accounted.of_prefix hfits hreceived
    exact ⟨⟨rest, hrest.symm⟩, hclosed, hs.accounted.of_waits hfits⟩
  · have hcut := hw.cut hfits hreceived
    refine ⟨hcut.packets, hcut.connected, fun hall => ?_⟩
    obtain ⟨n, hn⟩ := exists_drained w
    obtain ⟨hreaches, hsame, hfailed⟩ := hw.iterate n
    have hcut' := hreaches.cut hfits (hsame ▸ hreceived)
    obtain ⟨hpackets, hbuffer⟩ := hcut'.of_drained hfits (hsame.trans hall) hn
    have hup := hcut'.connected.trans (congrArg (!·) hfailed)
    refine ⟨n, hpackets, ?_⟩
    generalize (tryDecode^[n] w).connection = c at hbuffer hup
    obtain ⟨connected, buffer⟩ := c
    subst hbuffer hup
    rfl

end Wire

/-! ## From the calls of a session to the SDK -/

/-- The messages that a lambda encodes. -/
def messages (zlib : Option Zlib) : Task → List PacketMessage
  | .enqueueWrite message _ => [compress zlib message]
  | .sendBatch messages => messages.map (compress zlib)
  | .stop | .readNext => []

/-- A message as `decode_payload` returns it. -/
def decoded (m : PacketMessage) : DecodedPacket where
  version := kProtocolVersion
  messageId := m.messageId
  requestId := m.requestId
  sequenceNumber := 0
  errorCode := m.errorCode
  flags := m.flags
  body := m.body

/-- The write is that of a lambda with these messages. -/
def Writes (zlib : Option Zlib) (pending : PendingWrite) (ms : List PacketMessage) : Prop :=
  ∃ t : Task, t.packet zlib = some pending ∧ messages zlib t = ms

variable {zlib : Option Zlib} {ok : SessionLog → Session.SessionAction → Prop}

theorem Writes.packet {pending : PendingWrite} {ms : List PacketMessage}
    (h : Writes zlib pending ms) : pending.packet = (ms.map decoded).flatMap Packet.encode := by
  have hencode : (Packet.encode ∘ decoded) = Net.encode := by
    funext m
    exact (Packet.encode_message m).symm
  rw [List.flatMap_map, show (fun m => Packet.encode (decoded m)) = Net.encode from hencode]
  obtain ⟨t, ht, rfl⟩ := h
  cases t with
  | enqueueWrite message highPriority =>
    obtain rfl := Option.some_inj.mp ht
    exact (List.flatMap_singleton _ _).symm
  | sendBatch messages =>
    obtain rfl := Option.some_inj.mp ht
    rfl
  | stop => cases ht
  | readNext => cases ht

/-- The write is that of a lambda, within the limit of the session. -/
def Limited (zlib : Option Zlib) (s : Session) (pending : PendingWrite) : Prop :=
  pending.packet.length ≤ kLengthHeaderSize + s.options.maxPacketSize.toNat ∧
    ∃ ms, Writes zlib pending ms

theorem mem_insertHighPriority {queue : List PendingWrite} {pending w : PendingWrite}
    (h : w ∈ Session.insertHighPriority queue pending) : w = pending ∨ w ∈ queue := by
  simp only [Session.insertHighPriority, List.append_assoc, List.mem_append, List.mem_cons] at h
  obtain h | h | h | h := h
  · exact .inr (List.mem_of_mem_take h)
  · exact .inr (List.mem_of_mem_drop ((List.takeWhile_sublist _).subset h))
  · exact .inl h
  · exact .inr (List.mem_of_mem_drop ((List.dropWhile_sublist _).subset h))

/-- A packet that is queued passed the size check. -/
theorem limited_of_queues {s s' : Session} {a : Session.SessionAction} {pending : PendingWrite}
    (htask : (a.task s).bind (Task.packet zlib) = some pending) (hqueues : s.Queues s' pending) :
    Limited zlib s pending := by
  obtain ⟨t, -, hpacket⟩ := Option.bind_eq_some_iff.mp htask
  exact ⟨hqueues.taken.2.1, _, t, hpacket, rfl⟩

theorem limited {l : SessionLog} (h : l.Reaches zlib ok) :
    ∀ w ∈ l.session.sent ++ l.session.writeQueue, Limited zlib l.session w := by
  refine BoostGateway.Reaches.invariant
    (P := fun l => ∀ w ∈ l.session.sent ++ l.session.writeQueue, Limited zlib l.session w) h ?_ ?_
  · rintro l ⟨options, movesBefore, rfl⟩
    exact List.forall_mem_nil _
  · intro l a l' ih _ hs
    obtain ⟨s', hs', rfl⟩ := Option.map_eq_some_iff.mp hs
    dsimp only
    have hmono {s' : Session} (hoptions : s'.options = l.session.options) {w : PendingWrite}
        (hw : Limited zlib l.session w) : Limited zlib s' w := by
      rwa [Limited, hoptions]
    have hkept {s' : Session} (hoptions : s'.options = l.session.options)
        (hsent : s'.sent = l.session.sent) (hqueue : s'.writeQueue = l.session.writeQueue) :
        ∀ w ∈ s'.sent ++ s'.writeQueue, Limited zlib s' w := by
      rw [hsent, hqueue]
      exact fun w hw => hmono hoptions (ih w hw)
    obtain ⟨pending, htask, -, hqueues⟩ | ⟨-, hc⟩ | ⟨-, hk, -⟩ | ⟨-, hk, -⟩ :=
      Session.step_cases zlib hs'
    · intro w hw
      refine hmono hqueues.options ?_
      rw [hqueues.sent, List.mem_append] at hw
      obtain hw | hw := hw
      · exact ih w (List.mem_append_left _ hw)
      · obtain rfl | hw : w = pending ∨ w ∈ l.session.writeQueue := by
          rw [hqueues.writeQueue] at hw
          split_ifs at hw
          · exact mem_insertHighPriority hw
          · obtain hw | hw := List.mem_append.mp hw
            · exact .inr hw
            · exact .inl (List.mem_singleton.mp hw)
        · exact limited_of_queues htask hqueues
        · exact ih w (List.mem_append_right _ hw)
    · obtain ⟨front, hqueue, hsent, -⟩ := hc.front
      intro w hw
      refine hmono hc.options (ih w ?_)
      rw [hqueue]
      rwa [hsent, List.append_assoc] at hw
    · exact hkept hk.options hk.sent hk.writeQueue
    · exact hkept hk.options hk.sent hk.writeQueue

/-- Writes within the limit of the SDK are those of packets that fit. -/
theorem Limited.exists_groups {s : Session} {ws : List PendingWrite}
    (hlimit : s.options.maxPacketSize ≤ kMaxPayloadSize) (h : ∀ w ∈ ws, Limited zlib s w) :
    ∃ groups, List.Forall₂ (Writes zlib) ws groups ∧
      (∀ p ∈ groups.flatten.map decoded, Packet.Fits kMaxPayloadSize p) := by
  induction ws with
  | nil => exact ⟨[], .nil, List.forall_mem_nil _⟩
  | cons w ws ih =>
    obtain ⟨⟨hlength, ms, hms⟩, hws⟩ := List.forall_mem_cons.mp h
    obtain ⟨groups, hgroups, hfits⟩ := ih hws
    refine ⟨ms :: groups, .cons hms hgroups, ?_⟩
    rw [List.flatten_cons, List.map_append, List.forall_mem_append]
    refine ⟨fun p hp => ?_, hfits⟩
    obtain ⟨before, after, hsplit⟩ := List.append_of_mem hp
    rw [hms.packet, hsplit, List.flatMap_append, List.flatMap_cons, List.length_append,
      List.length_append, Packet.length_encode] at hlength
    rw [Packet.Fits]
    rw [UInt32.le_iff_toNat_le] at hlimit
    omega

theorem flatMap_packet {ws : List PendingWrite} {groups : List (List PacketMessage)}
    (h : List.Forall₂ (Writes zlib) ws groups) :
    ws.flatMap (·.packet) = (groups.flatten.map decoded).flatMap Packet.encode := by
  induction h with
  | nil => rfl
  | cons hw _ ih =>
    rw [List.flatMap_cons, List.flatten_cons, List.map_append, List.flatMap_append, ih, hw.packet]

/-- What the SDK returns of the bytes that a session wrote, with those of the write under way, are
the messages of the writes, in order; of the bytes of whole writes it returns all. The writes are
those of the lambdas that ran, normal ones and high-priority ones each in order, and where the
strand keeps the order of posting, of the calls. -/
theorem Wire.reads_written {l : SessionLog} {w : Wire} (hl : l.Reaches zlib ok)
    (hlimit : l.session.options.maxPacketSize ≤ kMaxPayloadSize) (hw : w.Reaches)
    (hreceived : w.received <+:
      (l.session.sent ++ l.session.writeQueue.take 1).flatMap (·.packet)) :
    (∃ groups, List.Forall₂ (Writes zlib) (l.session.sent ++ l.session.writeQueue.take 1) groups ∧
      w.packets <+: groups.flatten.map decoded ∧ w.connection.connected = !w.failed ∧
      ∀ k, w.received =
          ((l.session.sent ++ l.session.writeQueue.take 1).take k).flatMap (·.packet) →
        ∃ n, (Wire.tryDecode^[n] w).packets = (groups.take k).flatten.map decoded) ∧
    ∃ accepted, Session.SameOrder (l.session.sent ++ l.session.writeQueue) accepted ∧
      accepted <+: l.ran ∧
      ((∀ l a, ok l a → Session.StrandOrder l a) → accepted <+: l.called) := by
  constructor
  · have hwrites : ∀ w ∈ l.session.sent ++ l.session.writeQueue.take 1,
        Limited zlib l.session w := by
      intro w hw
      refine limited hl w ?_
      obtain hw | hw := List.mem_append.mp hw
      · exact List.mem_append_left _ hw
      · exact List.mem_append_right _ (List.mem_of_mem_take hw)
    obtain ⟨groups, hgroups, hfits⟩ := Limited.exists_groups hlimit hwrites
    rw [flatMap_packet hgroups] at hreceived
    have hcut := hw.cut hfits hreceived
    refine ⟨groups, hgroups, hcut.packets, hcut.connected, fun k hk => ?_⟩
    have htake := List.forall₂_take k hgroups
    have hfits' : ∀ p ∈ (groups.take k).flatten.map decoded, Packet.Fits kMaxPayloadSize p := by
      intro p hp
      obtain ⟨m, hm, rfl⟩ := List.mem_map.mp hp
      obtain ⟨ms, hms, hm⟩ := List.mem_flatten.mp hm
      exact hfits _ (List.mem_map_of_mem (List.mem_flatten.mpr ⟨ms, List.mem_of_mem_take hms, hm⟩))
    rw [flatMap_packet htake] at hk
    obtain ⟨n, hn⟩ := exists_drained w
    obtain ⟨hreaches, hsame, -⟩ := hw.iterate n
    have hall := hsame.trans hk
    have hcut' := hreaches.cut hfits' (hall ▸ List.prefix_refl _)
    exact ⟨n, (hcut'.of_drained hfits' hall hn).1⟩
  · obtain ⟨accepted, hran, horder, -⟩ := (SessionLog.writeInv hl).accepted
    refine ⟨accepted, horder, hran, fun hok => ?_⟩
    rw [SessionLog.called_eq hok hl]
    exact hran.trans (List.prefix_append _ _)

/-- The batch is still being written : of its bytes those of the first packet arrived, and some of
the second. -/
theorem Wire.reads_written_batch :
    ∃ (l : SessionLog) (w : Wire) (groups : List (List PacketMessage)),
    l.Reaches none Session.StrandOrder ∧ w.Reaches ∧
      List.Forall₂ (Writes none) (l.session.sent ++ l.session.writeQueue.take 1) groups ∧
      w.packets <+: groups.flatten.map decoded ∧ w.packets.map (·.requestId) = [1, 2] := by
  obtain ⟨l, hl, hsize, hbytes⟩ : ∃ l, SessionLog.Reaches none Session.StrandOrder l ∧
      l.session.options.maxPacketSize ≤ kMaxPayloadSize ∧
      (l.session.sent ++ l.session.writeQueue.take 1).flatMap (·.packet) =
        Net.encode { requestId := 1 } ++ Net.encode { requestId := 2 } ++
          Net.encode { requestId := 3 } :=
    Reaches.exists_runWith (.init ⟨{}, fun place length => place < length / 2, rfl⟩)
      [.send { requestId := 1 } false, .sendBatch [{ requestId := 2 }, { requestId := 3 }], .run 0,
        .run 0, .writeDone true]
      (by decide +kernel)
  obtain ⟨w, hw, hreceived, hpackets⟩ : ∃ w, Wire.Reaches w ∧
      w.received <+: Net.encode { requestId := 1 } ++ Net.encode { requestId := 2 } ++
        Net.encode { requestId := 3 } ∧ w.packets.map (·.requestId) = [1, 2] :=
    Reaches.exists_runWith (.init rfl)
      [.readSome ((Net.encode { requestId := 1 }).take 7), .tryDecode,
        .readSome ((Net.encode { requestId := 1 }).drop 7 ++ Net.encode { requestId := 2 } ++
          (Net.encode { requestId := 3 }).take 5), .tryDecode, .tryDecode, .tryDecode]
      (by decide +kernel)
  obtain ⟨⟨groups, hgroups, hprefix, -, -⟩, -⟩ :=
    Wire.reads_written hl hsize hw (hbytes ▸ hreceived)
  exact ⟨l, w, groups, hl, hw, hgroups, hprefix, hpackets⟩

end BoostGateway.Sdk
