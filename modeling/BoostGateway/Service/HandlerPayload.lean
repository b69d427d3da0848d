import BoostGateway.Proto.EnvelopeCodec

/-!
# The payload of a request : typed envelope or raw JSON

`decode_handler_payload` (`envelope_adapter.cpp`) tries a payload as a typed envelope and
falls back to the JSON text it is. The structure of the text is checked without
conversions, and the seven metadata members are converted after these checks.

`sniffing_returns_iff` : `decode_envelope`, `is_envelope_payload` and
`decode_handler_payload` return if and only if the text is no object with an object under
`payload`, or its metadata members have the types that they are converted to.
-/

namespace BoostGateway.Service

open Json Proto

/-- How a payload came. -/
inductive HandlerPayloadEncoding
  | kLegacyRawJson
  | kTypedEnvelope
  deriving DecidableEq

/-- A payload, and how it came. -/
structure DecodedHandlerPayload where
  payload : Json
  encoding : HandlerPayloadEncoding
  typedRequest : Option TypedEnvelope

/-- `is_envelope_payload`. -/
def isEnvelopePayload (encoded : Bytes) : Except TypeError Bool := do
  let decoded ← decodeEnvelope encoded
  return decoded.isSome

/-- `decode_handler_payload` of an envelope with this payload. -/
def decodeHandlerPayload (payload : Bytes) : Except TypeError (Option DecodedHandlerPayload) := do
  match ← decodeTypedEnvelope payload with
  | some request => return some ⟨request.payload, .kTypedEnvelope, some request⟩
  | none => return (parse true payload).map fun json => ⟨json, .kLegacyRawJson, none⟩

/-- The metadata members of a document that are there have the types that `decode_envelope`
converts them to. -/
structure MetaTyped (doc : Json) : Prop where
  correlationId : (doc.find? "correlation_id").all isNumber
  sourceService : (doc.find? "source_service").all isString
  targetService : (doc.find? "target_service").all isString
  timeoutMs : (doc.find? "timeout_ms").all isArithmetic
  errorCode : (doc.find? "error_code").all isArithmetic
  traceId : (doc.find? "trace_id").all isNumber
  spanId : (doc.find? "span_id").all isNumber

/-- A text that is an object with an object under `payload` has typed metadata. -/
def Sniffable (encoded : Bytes) : Prop :=
  ∀ doc payloads, parse true encoded = some doc → doc.find? "payload" = some (.object payloads) →
    MetaTyped doc

theorem returns_decodeMeta {doc : Json} (hobj : ∃ ms, doc = .object ms) :
    Returns (decodeMeta doc) ↔ MetaTyped doc := by
  unfold decodeMeta
  rw [returns_bind_iff fun _ => returns_bind_iff fun _ => returns_bind_iff fun _ =>
    returns_bind_iff fun _ => returns_bind_iff fun _ => returns_bind_iff fun _ =>
    returns_bind_iff fun _ => iff_of_true (returns_pure _) trivial]
  rw [returns_value returns_getUInt64 hobj, returns_value returns_getString hobj,
    returns_value returns_getString hobj, returns_value returns_getUInt32 hobj,
    returns_value returns_getInt32 hobj, returns_value returns_getUInt64 hobj,
    returns_value returns_getUInt64 hobj]
  exact ⟨fun ⟨h1, h2, h3, h4, h5, h6, h7, _⟩ => ⟨h1, h2, h3, h4, h5, h6, h7⟩,
    fun ⟨h1, h2, h3, h4, h5, h6, h7⟩ => ⟨h1, h2, h3, h4, h5, h6, h7, trivial⟩⟩

theorem returns_decodeDocument (doc : Json) : Returns (decodeDocument doc) ↔
    ∀ payloads, doc.find? "payload" = some (.object payloads) → MetaTyped doc := by
  unfold decodeDocument
  split
  next payloads hfind =>
    rw [returns_bind_iff fun _ => iff_of_true (returns_pure _) trivial, and_true,
      returns_decodeMeta (object_of_find? hfind)]
    exact ⟨fun h _ _ => h, fun h => h payloads hfind⟩
  next hother =>
    exact iff_of_true (returns_pure _) fun payloads hfind => absurd hfind (hother payloads)

theorem returns_decodeEnvelope (encoded : Bytes) :
    Returns (decodeEnvelope encoded) ↔ Sniffable encoded := by
  unfold decodeEnvelope Sniffable
  cases parse true encoded with
  | none => exact iff_of_true (returns_ok _) nofun
  | some doc =>
    rw [Option.elim_some, returns_decodeDocument]
    constructor
    · rintro h _ payloads ⟨⟩ hfind
      exact h payloads hfind
    · exact fun h payloads hfind => h doc payloads rfl hfind

theorem returns_decodeTypedEnvelope (encoded : Bytes) :
    Returns (decodeTypedEnvelope encoded) ↔ Returns (decodeEnvelope encoded) := by
  unfold decodeTypedEnvelope
  rw [returns_bind_iff fun _ => iff_of_true (returns_pure _) trivial, and_true]

/-- What is no envelope is taken as raw JSON, where it is JSON at all. -/
theorem decodeHandlerPayload_of_none {payload : Bytes}
    (h : decodeTypedEnvelope payload = .ok none) : decodeHandlerPayload payload =
      .ok ((parse true payload).map fun json => ⟨json, .kLegacyRawJson, none⟩) := by
  rw [decodeHandlerPayload, h]
  rfl

/-- The three functions return if and only if the metadata of what looks like an envelope
is typed. -/
theorem sniffing_returns_iff (encoded : Bytes) :
    (Returns (decodeEnvelope encoded) ∧ Returns (isEnvelopePayload encoded) ∧
      Returns (decodeHandlerPayload encoded)) ↔ Sniffable encoded := by
  rw [← returns_decodeEnvelope]
  refine ⟨And.left, fun h => ⟨h, ?_, ?_⟩⟩
  · unfold isEnvelopePayload
    rw [returns_bind_iff fun _ => iff_of_true (returns_pure _) trivial, and_true]
    exact h
  · obtain ⟨decoded, hdecoded⟩ := (returns_decodeTypedEnvelope encoded).mpr h
    cases decoded with
    | none => exact ⟨_, decodeHandlerPayload_of_none hdecoded⟩
    | some request =>
      rw [decodeHandlerPayload, hdecoded]
      exact ⟨_, rfl⟩

/-- A payload of a legacy client with a correlation id of its own, which is a string. -/
def quotedCorrelation : Json :=
  .object [("correlation_id", .string "x"), ("payload", .object [])]

theorem not_sniffing_returns :
    ¬(Returns (decodeEnvelope (encodeUtf8 (quotedCorrelation.dump (fun _ => []) none 0))) ∧
      Returns (isEnvelopePayload (encodeUtf8 (quotedCorrelation.dump (fun _ => []) none 0))) ∧
      Returns (decodeHandlerPayload
        (encodeUtf8 (quotedCorrelation.dump (fun _ => []) none 0)))) := by
  have hplain : Plain quotedCorrelation :=
    ⟨by simp +decide, by simp [PlainMembers, Plain]⟩
  rintro ⟨h, -, -⟩
  rw [returns_decodeEnvelope] at h
  have htyped := h (asRead quotedCorrelation) [] (parse_dump hplain true 0) (by rfl)
  have hnumber := htyped.correlationId
  simp [quotedCorrelation, asRead, asReadMembers, find?, isNumber] at hnumber

end BoostGateway.Service
