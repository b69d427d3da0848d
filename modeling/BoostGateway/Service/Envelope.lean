import BoostGateway.Base.JsonRoundTrip

/-!
# Backend envelopes

`v2::service::BackendEnvelope` and its JSON text (`backend_envelope.h`,
`backend_envelope.cpp`). `fromJson` is `from_json` : a text that does not parse, that
lacks a required member or names an unknown service or kind is no envelope, and a
member of another type raises the `type_error` of the conversion.

`fromJson_toJson` : the text of an envelope reads back as the envelope.
`fromDocument_cases` lists what `from_json` does with a document : it returns if and only
if the members it converts have the types it converts them to (`returns_fromJson`).
-/

namespace BoostGateway.Service

open Json

/-- The services. -/
inductive ServiceId
  | gateway
  | login
  | room
  | battle
  | matchmaking
  | leaderboard
  deriving DecidableEq, Repr

def ServiceId.toString : ServiceId → String
  | .gateway => "gateway"
  | .login => "login"
  | .room => "room"
  | .battle => "battle"
  | .matchmaking => "matchmaking"
  | .leaderboard => "leaderboard"

/-- `parse_service_id`; matchmaking has a second name. -/
def parseServiceId (value : String) : Option ServiceId :=
  if value = "gateway" then some .gateway
  else if value = "login" then some .login
  else if value = "room" then some .room
  else if value = "battle" then some .battle
  else if value = "match" ∨ value = "matchmaking" then some .matchmaking
  else if value = "leaderboard" then some .leaderboard
  else none

/-- The kinds of envelopes. -/
inductive MessageKind
  | request
  | response
  | push
  | error
  deriving DecidableEq, Repr

def MessageKind.toString : MessageKind → String
  | .request => "request"
  | .response => "response"
  | .push => "push"
  | .error => "error"

/-- The part of `from_json` that parses the kind. -/
def parseKind (value : String) : Option MessageKind :=
  if value = "request" then some .request
  else if value = "response" then some .response
  else if value = "push" then some .push
  else if value = "error" then some .error
  else none

/-- An envelope. -/
structure BackendEnvelope where
  correlationId : UInt64 := 0
  sourceService : ServiceId := .gateway
  targetService : ServiceId := .gateway
  kind : MessageKind := .request
  timeoutMs : UInt32 := 0
  errorCode : Int32 := 0
  payload : String := ""
  messageType : String := ""
  traceId : UInt64 := 0
  spanId : UInt64 := 0
  deriving DecidableEq

/-- The document of `to_json` (`backend_envelope.cpp:26-37`). -/
def BackendEnvelope.document (e : BackendEnvelope) : Json :=
  ofMembers
    [("correlation_id", .unsigned e.correlationId),
     ("source_service", .string e.sourceService.toString),
     ("target_service", .string e.targetService.toString),
     ("kind", .string e.kind.toString),
     ("timeout_ms", .unsigned e.timeoutMs.toUInt64),
     ("error_code", .integer e.errorCode.toInt64),
     ("payload", .string e.payload),
     ("message_type", .string e.messageType),
     ("trace_id", .unsigned e.traceId),
     ("span_id", .unsigned e.spanId)]

/-- `to_json`. -/
def toJson (floatText : Float → List Char) (e : BackendEnvelope) : Bytes :=
  encodeUtf8 (e.document.dump floatText none 0)

/-- The end of `from_json`, once the services and the kind are known
(`backend_envelope.cpp:82-90`). -/
def fromMembers (doc payload : Json) (e : BackendEnvelope) : Except TypeError BackendEnvelope := do
  let timeoutMs ← doc.value getUInt32 "timeout_ms" 0
  let errorCode ← doc.value getInt32 "error_code" 0
  let payload ← payload.getString
  let messageType ← doc.value getString "message_type" ""
  let traceId ← doc.value getULongLong "trace_id" 0
  let spanId ← doc.value getULongLong "span_id" 0
  return { e with
    timeoutMs := timeoutMs
    errorCode := errorCode
    payload := payload
    messageType := messageType
    traceId := traceId
    spanId := spanId }

/-- The part of `from_json` after the first conversions (`backend_envelope.cpp:62-90`). -/
def fromNames (doc payload : Json) (correlationId : UInt64) (source target kind : String) :
    Except TypeError (Option BackendEnvelope) :=
  match parseServiceId source, parseServiceId target, parseKind kind with
  | some source, some target, some kind => do
    let e ← fromMembers doc payload
      { correlationId := correlationId
        sourceService := source
        targetService := target
        kind := kind }
    return some e
  | _, _, _ => return none

/-- `from_json` on a parsed document (`backend_envelope.cpp:49-90`). -/
def fromDocument (doc : Json) : Except TypeError (Option BackendEnvelope) :=
  match doc.find? "correlation_id", doc.find? "source_service", doc.find? "target_service",
    doc.find? "kind", doc.find? "payload" with
  | some correlationId, some source, some target, some kind, some payload => do
    let correlationId ← correlationId.getUInt64
    let source ← source.getString
    let target ← target.getString
    let kind ← kind.getString
    fromNames doc payload correlationId source target kind
  | _, _, _, _, _ => return none

/-- `from_json`. -/
def fromJson (json : Bytes) : Except TypeError (Option BackendEnvelope) :=
  (parse true json).elim (.ok none) fromDocument

/-! ## Reading back what was written -/

@[simp] theorem parseServiceId_toString (s : ServiceId) : parseServiceId s.toString = some s := by
  cases s <;> decide

@[simp] theorem parseKind_toString (k : MessageKind) : parseKind k.toString = some k := by
  cases k <;> decide

variable (e : BackendEnvelope)

theorem BackendEnvelope.document_eq : e.document = .object
    [("correlation_id", .unsigned e.correlationId),
     ("error_code", .integer e.errorCode.toInt64),
     ("kind", .string e.kind.toString),
     ("message_type", .string e.messageType),
     ("payload", .string e.payload),
     ("source_service", .string e.sourceService.toString),
     ("span_id", .unsigned e.spanId),
     ("target_service", .string e.targetService.toString),
     ("timeout_ms", .unsigned e.timeoutMs.toUInt64),
     ("trace_id", .unsigned e.traceId)] := by
  simp +decide [document, ofMembers, insertMember]

theorem BackendEnvelope.plain_document : Plain e.document := by
  rw [document_eq]
  refine ⟨by simp +decide, ?_⟩
  simp [PlainMembers, Plain]

/-- The document of an envelope is read as the envelope. -/
theorem fromDocument_asRead : fromDocument (asRead e.document) = .ok (some e) := by
  have herr := getInt32_asRead e.errorCode
  rw [BackendEnvelope.document_eq, asRead]
  simp only [asReadMembers]
  generalize asRead (.integer e.errorCode.toInt64) = j at herr ⊢
  simp [asRead, fromDocument, fromNames, fromMembers, value, find?, getUInt64, getULongLong,
    getUInt32, getArithmetic, getString, herr, bind, Except.bind, pure, Except.pure]

theorem fromJson_toJson (floatText : Float → List Char) (e : BackendEnvelope) :
    fromJson (toJson floatText e) = .ok (some e) := by
  rw [fromJson, toJson, parse_dump e.plain_document, Option.elim_some,
    fromDocument_asRead]

/-! ## When `from_json` returns -/

/-- The members `from_json` asks for. -/
def required : List String :=
  ["correlation_id", "source_service", "target_service", "kind", "payload"]

def HasRequired (doc : Json) : Prop := ∀ key ∈ required, (doc.find? key).isSome

/-- The members `from_json` converts first have the types it asks for. -/
structure HeaderTyped (doc : Json) : Prop where
  correlationId : (doc.find? "correlation_id").any isNumber
  source : (doc.find? "source_service").any isString
  target : (doc.find? "target_service").any isString
  kind : (doc.find? "kind").any isString

/-- The two services and the kind are known. -/
structure Known (doc : Json) : Prop where
  source : (((doc.find? "source_service").bind string?).bind parseServiceId).isSome
  target : (((doc.find? "target_service").bind string?).bind parseServiceId).isSome
  kind : (((doc.find? "kind").bind string?).bind parseKind).isSome

/-- The members `from_json` converts last are missing, where they may be, or have the
types it asks for. -/
structure RestTyped (doc : Json) : Prop where
  timeoutMs : (doc.find? "timeout_ms").all isArithmetic
  errorCode : (doc.find? "error_code").all isArithmetic
  payload : (doc.find? "payload").any isString
  messageType : (doc.find? "message_type").all isString
  traceId : (doc.find? "trace_id").all isArithmetic
  spanId : (doc.find? "span_id").all isArithmetic

/-- What `from_json` converts has the right type : the first four members where all five
are there, and the others where also the names are known. -/
def Typed (doc : Json) : Prop :=
  HasRequired doc → HeaderTyped doc ∧ (Known doc → RestTyped doc)

/-- The document is an envelope. -/
def Accepted (doc : Json) : Prop :=
  HasRequired doc ∧ HeaderTyped doc ∧ Known doc ∧ RestTyped doc

variable {doc : Json}

theorem returns_fromMembers {payload : Json} (h : doc.find? "payload" = some payload)
    (e : BackendEnvelope) : Returns (fromMembers doc payload e) ↔ RestTyped doc := by
  have hobj := object_of_find? h
  have hpay : (doc.find? "payload").any isString = payload.isString := by rw [h]; rfl
  unfold fromMembers
  rw [returns_bind_iff fun timeoutMs => returns_bind_iff fun errorCode =>
    returns_bind_iff fun payload => returns_bind_iff fun messageType =>
    returns_bind_iff fun traceId => returns_bind_iff fun spanId =>
      iff_true_intro (returns_pure _)]
  rw [returns_value returns_getUInt32 hobj, returns_value returns_getInt32 hobj,
    returns_getString, returns_value returns_getString hobj,
    returns_value returns_getULongLong hobj, returns_value returns_getULongLong hobj, and_true,
    ← hpay]
  exact ⟨fun ⟨h1, h2, h3, h4, h5, h6⟩ => ⟨h1, h2, h3, h4, h5, h6⟩,
    fun ⟨h1, h2, h3, h4, h5, h6⟩ => ⟨h1, h2, h3, h4, h5, h6⟩⟩

/-- Unknown names give no envelope, known ones what the other members say. -/
theorem fromNames_spec {payload : Json} (h : doc.find? "payload" = some payload)
    (correlationId : UInt64) (source target kind : String) :
    let known := (parseServiceId source).isSome ∧ (parseServiceId target).isSome ∧
      (parseKind kind).isSome
    (¬known → fromNames doc payload correlationId source target kind = .ok none) ∧
      (known → RestTyped doc →
        ∃ e, fromNames doc payload correlationId source target kind = .ok (some e)) ∧
      (known → ¬RestTyped doc →
        ¬Returns (fromNames doc payload correlationId source target kind)) := by
  intro known
  simp only [known, fromNames]
  cases parseServiceId source with
  | none => simp [pure, Except.pure]
  | some s =>
    cases parseServiceId target with
    | none => simp [pure, Except.pure]
    | some t =>
      cases parseKind kind with
      | none => simp [pure, Except.pure]
      | some k =>
        refine ⟨by simp, fun _ hrest => ?_, fun _ hrest hret => hrest ?_⟩
        · obtain ⟨e, he⟩ := (returns_fromMembers h
            { correlationId := correlationId, sourceService := s, targetService := t,
              kind := k }).mpr hrest
          refine ⟨e, ?_⟩
          simp only [he]
          rfl
        · obtain ⟨e, he, -⟩ := returns_bind.mp hret
          exact (returns_fromMembers h _).mp ⟨e, he⟩

/-- The five members of a document that has them. -/
theorem HasRequired.members (h : HasRequired doc) :
    ∃ correlationId source target kind payload,
      doc.find? "correlation_id" = some correlationId ∧
      doc.find? "source_service" = some source ∧ doc.find? "target_service" = some target ∧
      doc.find? "kind" = some kind ∧ doc.find? "payload" = some payload := by
  have hmem : ∀ key ∈ required, ∃ j, doc.find? key = some j := fun key hk =>
    Option.isSome_iff_exists.mp (h key hk)
  obtain ⟨correlationId, h1⟩ := hmem "correlation_id" (by decide)
  obtain ⟨source, h2⟩ := hmem "source_service" (by decide)
  obtain ⟨target, h3⟩ := hmem "target_service" (by decide)
  obtain ⟨kind, h4⟩ := hmem "kind" (by decide)
  obtain ⟨payload, h5⟩ := hmem "payload" (by decide)
  exact ⟨correlationId, source, target, kind, payload, h1, h2, h3, h4, h5⟩

theorem fromDocument_of_not_hasRequired (h : ¬HasRequired doc) : fromDocument doc = .ok none := by
  unfold fromDocument
  split
  · rename_i h1 h2 h3 h4 h5
    refine absurd (fun key hk => ?_) h
    simp only [required, List.mem_cons, List.not_mem_nil, or_false] at hk
    rcases hk with rfl | rfl | rfl | rfl | rfl
    · simp [h1]
    · simp [h2]
    · simp [h3]
    · simp [h4]
    · simp [h5]
  · rfl

/-- A typed header leaves the names to decide; another one raises. -/
theorem fromDocument_of_hasRequired (h : HasRequired doc) :
    (¬HeaderTyped doc → ¬Returns (fromDocument doc)) ∧
      (HeaderTyped doc → ∃ correlationId source target kind payload,
        fromDocument doc = fromNames doc payload correlationId source target kind ∧
        doc.find? "payload" = some payload ∧
        (Known doc ↔ (parseServiceId source).isSome ∧ (parseServiceId target).isSome ∧
          (parseKind kind).isSome)) := by
  obtain ⟨correlationId, source, target, kind, payload, h1, h2, h3, h4, h5⟩ := h.members
  have heq : fromDocument doc = (correlationId.getUInt64 >>= fun n => source.getString >>= fun s =>
      target.getString >>= fun t => kind.getString >>= fun k =>
        fromNames doc payload n s t k) := by
    simp only [fromDocument, h1, h2, h3, h4, h5]
  constructor
  · intro hh hret
    rw [heq] at hret
    obtain ⟨n, hn, hret⟩ := returns_bind.mp hret
    obtain ⟨s, hs, hret⟩ := returns_bind.mp hret
    obtain ⟨t, ht, hret⟩ := returns_bind.mp hret
    obtain ⟨k, hk, -⟩ := returns_bind.mp hret
    refine hh ⟨?_, ?_, ?_, ?_⟩
    · rw [h1]
      exact (returns_getUInt64 _).mp ⟨n, hn⟩
    · rw [h2]
      exact (returns_getString _).mp ⟨s, hs⟩
    · rw [h3]
      exact (returns_getString _).mp ⟨t, ht⟩
    · rw [h4]
      exact (returns_getString _).mp ⟨k, hk⟩
  · intro hh
    obtain ⟨n, hn⟩ := (returns_getUInt64 _).mpr (by simpa [h1] using hh.correlationId)
    obtain ⟨s, hs⟩ := (returns_getString _).mpr (by simpa [h2] using hh.source)
    obtain ⟨t, ht⟩ := (returns_getString _).mpr (by simpa [h3] using hh.target)
    obtain ⟨k, hk⟩ := (returns_getString _).mpr (by simpa [h4] using hh.kind)
    refine ⟨n, s, t, k, payload, ?_, h5, ?_⟩
    · rw [heq, hn, hs, ht, hk]
      rfl
    · have hknown : Known doc ↔
          (((doc.find? "source_service").bind string?).bind parseServiceId).isSome ∧
          (((doc.find? "target_service").bind string?).bind parseServiceId).isSome ∧
          (((doc.find? "kind").bind string?).bind parseKind).isSome :=
        ⟨fun ⟨h1, h2, h3⟩ => ⟨h1, h2, h3⟩, fun ⟨h1, h2, h3⟩ => ⟨h1, h2, h3⟩⟩
      rw [hknown, h2, h3, h4]
      simp only [Option.bind_some, getString_eq_ok.mp hs, getString_eq_ok.mp ht,
        getString_eq_ok.mp hk]

/-- The five ways through `from_json` on a document. -/
theorem fromDocument_cases (doc : Json) :
    (¬HasRequired doc ∧ fromDocument doc = .ok none) ∨
    (HasRequired doc ∧
      ((¬HeaderTyped doc ∧ ¬Returns (fromDocument doc)) ∨
       (HeaderTyped doc ∧
        ((¬Known doc ∧ fromDocument doc = .ok none) ∨
         (Known doc ∧ ¬RestTyped doc ∧ ¬Returns (fromDocument doc)) ∨
         (Known doc ∧ RestTyped doc ∧ ∃ e, fromDocument doc = .ok (some e)))))) := by
  by_cases hreq : HasRequired doc
  · obtain ⟨hraise, hnames⟩ := fromDocument_of_hasRequired hreq
    refine Or.inr ⟨hreq, ?_⟩
    by_cases hh : HeaderTyped doc
    · obtain ⟨n, s, t, k, payload, heq, hpay, hknown⟩ := hnames hh
      obtain ⟨hunknown, hgood, hbad⟩ := fromNames_spec hpay n s t k
      rw [← hknown] at hunknown hgood hbad
      rw [heq]
      refine Or.inr ⟨hh, ?_⟩
      by_cases hk : Known doc
      · refine Or.inr ?_
        by_cases hrest : RestTyped doc
        · exact Or.inr ⟨hk, hrest, hgood hk hrest⟩
        · exact Or.inl ⟨hk, hrest, hbad hk hrest⟩
      · exact Or.inl ⟨hk, hunknown hk⟩
    · exact Or.inl ⟨hh, hraise hh⟩
  · exact Or.inl ⟨hreq, fromDocument_of_not_hasRequired hreq⟩

/-- `from_json` on a document returns if and only if the document is typed. -/
theorem returns_fromDocument (doc : Json) : Returns (fromDocument doc) ↔ Typed doc := by
  rcases fromDocument_cases doc with
    ⟨hreq, heq⟩ | ⟨hreq, ⟨hh, hret⟩ | ⟨hh, ⟨hk, heq⟩ | ⟨hk, hrest, hret⟩ | ⟨hk, hrest, e, heq⟩⟩⟩
  · exact iff_of_true ⟨none, heq⟩ fun h => absurd h hreq
  · exact iff_of_false hret fun ht => hh (ht hreq).1
  · exact iff_of_true ⟨none, heq⟩ fun _ => ⟨hh, fun h => absurd h hk⟩
  · exact iff_of_false hret fun ht => hrest ((ht hreq).2 hk)
  · exact iff_of_true ⟨some e, heq⟩ fun _ => ⟨hh, fun _ => hrest⟩

/-- `from_json` on a document gives an envelope if and only if the document is accepted. -/
theorem fromDocument_some_iff (doc : Json) :
    (∃ e, fromDocument doc = .ok (some e)) ↔ Accepted doc := by
  have hnone : fromDocument doc = .ok none → ¬∃ e, fromDocument doc = .ok (some e) := by
    rintro heq ⟨e, he⟩
    rw [heq] at he
    cases he
  rcases fromDocument_cases doc with
    ⟨hreq, heq⟩ | ⟨hreq, ⟨hh, hret⟩ | ⟨hh, ⟨hk, heq⟩ | ⟨hk, hrest, hret⟩ | ⟨hk, hrest, he⟩⟩⟩
  · exact iff_of_false (hnone heq) fun ha => hreq ha.1
  · exact iff_of_false (fun ⟨e, he⟩ => hret ⟨some e, he⟩) fun ha => hh ha.2.1
  · exact iff_of_false (hnone heq) fun ha => hk ha.2.2.1
  · exact iff_of_false (fun ⟨e, he⟩ => hret ⟨some e, he⟩) fun ha => hrest ha.2.2.2
  · exact iff_of_true he ⟨hreq, hh, hk, hrest⟩

/-- The bytes are no JSON text, or that of a typed document. -/
def TypedBody (json : Bytes) : Prop := ∀ doc, parse true json = some doc → Typed doc

/-- The bytes are the text of an accepted document. -/
def AcceptedBody (json : Bytes) : Prop := ∃ doc, parse true json = some doc ∧ Accepted doc

theorem returns_fromJson (json : Bytes) : Returns (fromJson json) ↔ TypedBody json := by
  unfold fromJson TypedBody
  cases parse true json with
  | none => simp
  | some doc => simpa using returns_fromDocument doc

theorem fromJson_some_iff (json : Bytes) :
    (∃ e, fromJson json = .ok (some e)) ↔ AcceptedBody json := by
  unfold fromJson AcceptedBody
  cases parse true json with
  | none => simp
  | some doc => simpa using fromDocument_some_iff doc

end BoostGateway.Service
