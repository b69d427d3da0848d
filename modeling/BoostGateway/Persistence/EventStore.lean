import BoostGateway.Base.JsonRoundTrip

/-!
# Event stores

`IEventStore` (`event_store.h`) appends events and reads them back by aggregate or by type.
`InMemoryEventStore` keeps them in a vector : a read gives the first `max_count` events that
are wanted (`InMemoryEventStore.read_eq`, `InMemoryEventStore.readByType_eq`).

The other stores write an event as a JSON document. Strings are byte strings here, since
`dump` throws on one that is not UTF-8; every member of a document that was written reads
back (`EventRecord.document_written`).
-/

namespace BoostGateway.Persistence

open Json

/-- An event. -/
structure EventRecord where
  sequence : UInt64 := 0
  eventType : Bytes := []
  aggregateId : Bytes := []
  payload : Bytes := []
  timestampMs : UInt64 := 0
  traceId : UInt64 := 0
  deriving DecidableEq

/-- A call of an event store. An event may be stamped with the clock, `now`. -/
inductive EventCall
  | append (event : EventRecord) (now : UInt64)
  | read (aggregateId : Bytes) (fromSequence maxCount : UInt64)
  | readByType (eventType : Bytes) (maxCount : UInt64)
  | latestSequence (aggregateId : Bytes)
  | totalEvents

/-- What a call answers. -/
inductive EventAnswer
  | appended (successful : Bool)
  | events (result : List EventRecord)
  | number (n : UInt64)
  deriving DecidableEq

/-! ## The store in memory -/

/-- `InMemoryEventStore`. -/
structure InMemoryEventStore where
  events : List EventRecord := []
  nextSeq : UInt64 := 1

namespace InMemoryEventStore

variable (s : InMemoryEventStore)

def append (event : EventRecord) : InMemoryEventStore :=
  { events := s.events ++ [{ event with sequence := s.nextSeq }]
    nextSeq := s.nextSeq + 1 }

def read (aggregateId : Bytes) (fromSequence maxCount : UInt64) : List EventRecord :=
  s.events.foldl (fun result e =>
    if (e.aggregateId = aggregateId ∧ fromSequence ≤ e.sequence) ∧
        result.length < maxCount.toNat then
      result ++ [e]
    else result) []

def readByType (eventType : Bytes) (maxCount : UInt64) : List EventRecord :=
  s.events.foldl (fun result e =>
    if e.eventType = eventType ∧ result.length < maxCount.toNat then result ++ [e] else result) []

def latestSequence (aggregateId : Bytes) : UInt64 :=
  s.events.foldl (fun maxSeq e =>
    if e.aggregateId = aggregateId ∧ maxSeq < e.sequence then e.sequence else maxSeq) 0

def totalEvents : UInt64 := UInt64.ofNat s.events.length

def call : EventCall → InMemoryEventStore × EventAnswer
  | .append event _ => (s.append event, .appended true)
  | .read aggregateId fromSequence maxCount =>
    (s, .events (s.read aggregateId fromSequence maxCount))
  | .readByType eventType maxCount => (s, .events (s.readByType eventType maxCount))
  | .latestSequence aggregateId => (s, .number (s.latestSequence aggregateId))
  | .totalEvents => (s, .number s.totalEvents)

/-- A loop that collects what is wanted until it has enough. -/
theorem foldl_collect {α : Type} (p : α → Prop) [DecidablePred p] (n : ℕ) (es acc : List α) :
    es.foldl (fun result e => if p e ∧ result.length < n then result ++ [e] else result) acc =
      acc ++ (es.filter (p ·)).take (n - acc.length) := by
  induction es generalizing acc with
  | nil => simp
  | cons e es ih =>
    rw [List.foldl_cons, ih]
    by_cases hp : p e
    · by_cases hn : acc.length < n
      · obtain ⟨k, hk⟩ : ∃ k, n - acc.length = k + 1 := ⟨n - acc.length - 1, by omega⟩
        have hk' : n - (acc ++ [e]).length = k := by
          rw [List.length_append, List.length_singleton]
          omega
        rw [if_pos ⟨hp, hn⟩, hk', hk, List.filter_cons_of_pos (by simpa using hp),
          List.take_succ_cons, List.append_assoc, List.singleton_append]
      · have h0 : n - acc.length = 0 := by omega
        rw [if_neg fun h => hn h.2, h0, List.take_zero, List.take_zero]
    · rw [if_neg fun h => hp h.1, List.filter_cons_of_neg (by simpa using hp)]

theorem read_eq (aggregateId : Bytes) (fromSequence maxCount : UInt64) :
    s.read aggregateId fromSequence maxCount =
      (s.events.filter fun e => e.aggregateId = aggregateId ∧ fromSequence ≤ e.sequence).take
        maxCount.toNat :=
  foldl_collect (fun e : EventRecord => e.aggregateId = aggregateId ∧ fromSequence ≤ e.sequence)
    maxCount.toNat s.events []

theorem readByType_eq (eventType : Bytes) (maxCount : UInt64) :
    s.readByType eventType maxCount =
      (s.events.filter fun e => e.eventType = eventType).take maxCount.toNat :=
  foldl_collect (fun e : EventRecord => e.eventType = eventType) maxCount.toNat s.events []

theorem foldl_latest (aggregateId : Bytes) (es : List EventRecord) (maxSeq : UInt64) :
    es.foldl (fun maxSeq e =>
      if e.aggregateId = aggregateId ∧ maxSeq < e.sequence then e.sequence else maxSeq) maxSeq =
    (es.filter fun e => e.aggregateId = aggregateId).foldl (fun maxSeq e =>
      if maxSeq < e.sequence then e.sequence else maxSeq) maxSeq := by
  rw [List.foldl_filter]
  congr 1
  funext maxSeq e
  by_cases hid : e.aggregateId = aggregateId <;> simp [hid]

end InMemoryEventStore

/-! ## Documents -/

/-- A byte string as the text it is, where it is UTF-8. -/
def text? (bs : Bytes) : Option String := (decodeUtf8 bs).map String.ofList

/-- `get<std::string>()`. -/
def getBytes (j : Json) : Except TypeError Bytes := j.getString.map fun s => encodeUtf8 s.toList

theorem getBytes_string {bs : Bytes} {s : String} (h : text? bs = some s) :
    getBytes (.string s) = .ok bs := by
  obtain ⟨cs, hcs, rfl⟩ := Option.map_eq_some_iff.mp h
  simp [getBytes, getString, Except.map, encodeUtf8_of_decodeUtf8 hcs]

/-- The document has a member that converts to `a`. -/
def Holds {α : Type} (doc : Json) (get : Json → Except TypeError α) (key : String) (a : α) : Prop :=
  (doc.find? key).map get = some (.ok a)

/-- `doc[key].get<T>()` of an object : a missing member is null. -/
def member {α : Type} (get : Json → Except TypeError α) (key : String) (doc : Json) :
    Except TypeError α :=
  get ((doc.find? key).getD .null)

section Holds

variable {α : Type} {doc : Json} {get : Json → Except TypeError α} {key : String} {a : α}

theorem Holds.value (h : Holds doc get key a) (fallback : α) :
    doc.value get key fallback = .ok a := by
  obtain ⟨j, hj, hget⟩ := Option.map_eq_some_iff.mp h
  obtain ⟨ms, rfl⟩ := object_of_find? hj
  rw [Json.value, hj, Option.elim_some, hget]

theorem Holds.member (h : Holds doc get key a) : member get key doc = .ok a := by
  obtain ⟨j, hj, hget⟩ := Option.map_eq_some_iff.mp h
  rw [Persistence.member, hj, Option.getD_some, hget]

end Holds

namespace EventRecord

variable (e : EventRecord)

/-- The document of an event with the given texts. -/
def documentOf (eventType aggregateId payload : String) : Json :=
  ofMembers
    [("seq", .unsigned e.sequence),
     ("type", .string eventType),
     ("aggregate_id", .string aggregateId),
     ("payload", .string payload),
     ("ts", .unsigned e.timestampMs),
     ("trace_id", .unsigned e.traceId)]

/-- The document that is written, unless a string is not UTF-8. -/
def document : Option Json := do
  let eventType ← text? e.eventType
  let aggregateId ← text? e.aggregateId
  let payload ← text? e.payload
  return e.documentOf eventType aggregateId payload

theorem documentOf_eq (eventType aggregateId payload : String) :
    e.documentOf eventType aggregateId payload = .object
      [("aggregate_id", .string aggregateId),
       ("payload", .string payload),
       ("seq", .unsigned e.sequence),
       ("trace_id", .unsigned e.traceId),
       ("ts", .unsigned e.timestampMs),
       ("type", .string eventType)] := by
  simp +decide [documentOf, ofMembers, insertMember]

/-- What reading the document of an event gives back. -/
structure Written (e : EventRecord) (doc : Json) : Prop where
  plain : Plain doc
  asRead_eq : asRead doc = doc
  sequence : Holds doc getUInt64 "seq" e.sequence
  sequence' : Holds doc getULongLong "seq" e.sequence
  eventType : Holds doc getBytes "type" e.eventType
  aggregateId : Holds doc getBytes "aggregate_id" e.aggregateId
  payload : Holds doc getBytes "payload" e.payload
  timestampMs : Holds doc getULongLong "ts" e.timestampMs
  traceId : Holds doc getULongLong "trace_id" e.traceId

theorem document_written {e : EventRecord} {doc : Json} (h : e.document = some doc) :
    e.Written doc := by
  obtain ⟨eventType, htype, h⟩ := Option.bind_eq_some_iff.mp h
  obtain ⟨aggregateId, hid, h⟩ := Option.bind_eq_some_iff.mp h
  obtain ⟨payload, hpayload, h⟩ := Option.bind_eq_some_iff.mp h
  obtain rfl := Option.some_inj.mp h
  rw [documentOf_eq]
  exact {
    plain := ⟨by simp +decide, trivial, trivial, trivial, trivial, trivial, trivial, trivial⟩
    asRead_eq := by simp [asRead, asReadMembers]
    sequence := by simp [Holds, find?, getUInt64]
    sequence' := by simp [Holds, find?, getULongLong, getArithmetic]
    eventType := by simp [Holds, find?, getBytes_string htype]
    aggregateId := by simp [Holds, find?, getBytes_string hid]
    payload := by simp [Holds, find?, getBytes_string hpayload]
    timestampMs := by simp [Holds, find?, getULongLong, getArithmetic]
    traceId := by simp [Holds, find?, getULongLong, getArithmetic] }

/-- Every string is UTF-8. -/
def IsText : Prop :=
  (text? e.eventType).isSome ∧ (text? e.aggregateId).isSome ∧ (text? e.payload).isSome

theorem IsText.document {e : EventRecord} (h : e.IsText) : e.document.isSome := by
  obtain ⟨htype, hid, hpayload⟩ := h
  simp [EventRecord.document, Option.isSome_bind, htype, hid, hpayload]

end EventRecord

variable (floatText : Float → List Char)

/-- The text that a document is stored as. -/
def textOf (doc : Json) : Bytes := encodeUtf8 (doc.dump floatText none 0)

/-- The text of an event. -/
def lineOf (e : EventRecord) : Bytes := textOf floatText (e.document.getD .null)

theorem parse_textOf {e : EventRecord} {doc : Json} (h : e.Written doc) :
    Json.parse true (textOf floatText doc) = some doc := by
  rw [textOf, parse_dump h.plain, h.asRead_eq]

/-- The text of an event reads back as a document of the event. -/
theorem parse_lineOf {e : EventRecord} (h : e.document.isSome) :
    ∃ doc, Json.parse true (lineOf floatText e) = some doc ∧ e.Written doc := by
  obtain ⟨doc, hdoc⟩ := Option.isSome_iff_exists.mp h
  have hw := EventRecord.document_written hdoc
  exact ⟨doc, by rw [lineOf, hdoc, Option.getD_some, parse_textOf floatText hw], hw⟩

end BoostGateway.Persistence
