import BoostGateway.Base.Bytes

/-!
# Client packets

`packet_codec.h` and `packet_compressor.h` : a packet on the wire is its length without
the length field, sixteen bytes of metadata and the body, all numbers with the highest
byte first. A build links zlib or none; what zlib does to a body is a parameter.
-/

namespace BoostGateway.Net

/-- `kLengthHeaderSize`. -/
def kLengthHeaderSize : ℕ := 4

/-- `kFixedMetadataSize` : version, message id, request id, sequence number, error code
and flags. -/
def kFixedMetadataSize : ℕ := 1 + 2 + 4 + 4 + 4 + 1

def kProtocolVersion : UInt8 := 1

def kCompressed : UInt8 := 0x01

def kCompressionThreshold : ℕ := 512

/-- `Session::PacketMessage`, without the trace id : it is drawn for the log. -/
structure PacketMessage where
  messageId : UInt16 := 0
  requestId : UInt32 := 0
  errorCode : Int32 := 0
  flags : UInt8 := 0
  body : Bytes := []
  deriving DecidableEq

def bigEndian16 (n : UInt16) : Bytes := [(n >>> 8).toUInt8, n.toUInt8]

def bigEndian32 (n : UInt32) : Bytes :=
  [(n >>> 24).toUInt8, (n >>> 16).toUInt8, (n >>> 8).toUInt8, n.toUInt8]

/-- `encode`, of a body of less than 4 GiB, with sequence number zero as the session
calls it. -/
def encode (m : PacketMessage) : Bytes :=
  bigEndian32 (UInt32.ofNat (kFixedMetadataSize + m.body.length)) ++
    (kProtocolVersion :: bigEndian16 m.messageId ++ bigEndian32 m.requestId ++ bigEndian32 0 ++
      bigEndian32 m.errorCode.toUInt32 ++ [m.flags]) ++ m.body

/-- `decode_length`. -/
def decodeLength (header : Vector UInt8 4) : UInt32 :=
  (header[0].toUInt32 <<< 24) ||| (header[1].toUInt32 <<< 16) ||| (header[2].toUInt32 <<< 8) |||
    header[3].toUInt32

/-- `decode_payload`, as far as the session reads its result; `none` where it throws. -/
def decodePayload (payload : Bytes) : Option PacketMessage :=
  match payload with
  | _ :: m₁ :: m₂ :: r₁ :: r₂ :: r₃ :: r₄ :: _ :: _ :: _ :: _ :: e₁ :: e₂ :: e₃ :: e₄ :: flags ::
      body =>
    some {
      messageId := (m₁.toUInt16 <<< 8) ||| m₂.toUInt16
      requestId := (r₁.toUInt32 <<< 24) ||| (r₂.toUInt32 <<< 16) ||| (r₃.toUInt32 <<< 8) |||
        r₄.toUInt32
      errorCode := ((e₁.toUInt32 <<< 24) ||| (e₂.toUInt32 <<< 16) ||| (e₃.toUInt32 <<< 8) |||
        e₄.toUInt32).toInt32
      flags := flags
      body := body }
  | _ => none

/-- `compress_body` and `decompress_body` of a build with zlib; decompression throws where
the length it reads cannot be allocated. -/
structure Zlib where
  compressBody : Bytes → Bytes
  decompressBody : Bytes → Option Bytes

/-- The compression step before `encode` in `send_batch` and `enqueue_write`. -/
def compress (zlib : Option Zlib) (m : PacketMessage) : PacketMessage :=
  match zlib with
  | some z =>
    if kCompressionThreshold ≤ m.body.length then
      { m with body := z.compressBody m.body, flags := m.flags ||| kCompressed }
    else m
  | none => m

/-- `decode_payload` and the decompression step of `do_read_body`; `none` where the packet
is refused or a call throws. -/
def decodePacket (zlib : Option Zlib) (payload : Bytes) : Option PacketMessage := do
  let m ← decodePayload payload
  if m.flags &&& kCompressed = 0 then return m
  let z ← zlib
  let body ← z.decompressBody m.body
  return { m with body := body, flags := m.flags &&& ~~~kCompressed }

end BoostGateway.Net
