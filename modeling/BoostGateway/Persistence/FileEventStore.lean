import BoostGateway.Base.Run
import BoostGateway.Persistence.EventStore

/-!
# The event store in a file

`FileEventStore` (`event_store.h:163-282`) appends an event to `events.jsonl` as a line of JSON
and scans the file in every read. The counters live in memory, so a store that is reopened
numbers its events from one again and counts them from zero, and `read_by_type` does not set
the trace id (`not_answersAsMemory`).

`EventReaches.answersAsMemory` : a call returns what the store in memory returns, in every history,
where it returns no renumbered event, `read_by_type` returns no event with a trace id, and
`total_events` is called before the store is reopened with events in it.
-/

namespace BoostGateway.Persistence

open Json

/-- `FileEventStore`. -/
structure FileEventStore where
  /-- `events.jsonl`, where there is one. -/
  file : Option Bytes := none
  nextSequence : UInt64 := 1
  total : UInt64 := 0

namespace FileEventStore

variable (floatText : Float → List Char)

variable (s : FileEventStore)

/-- A new store on the directory of this one. -/
def reopen : FileEventStore := { file := s.file }

/-- The answer is `none` when `dump` throws; the file is open by then. -/
def append (event : EventRecord) (now : UInt64) : FileEventStore × Option Bool :=
  let event := { event with
    sequence := s.nextSequence
    timestampMs := if event.timestampMs = 0 then now else event.timestampMs }
  match event.document with
  | some doc =>
    ({ file := some (s.file.getD [] ++ textOf floatText doc ++ [10])
       nextSequence := s.nextSequence + 1
       total := s.total + 1 }, some true)
  | none =>
    ({ s with file := some (s.file.getD []), nextSequence := s.nextSequence + 1 }, none)

/-- What both reads set of an event. -/
def recordOf (doc : Json) : Except TypeError EventRecord := do
  let sequence ← member getUInt64 "seq" doc
  let eventType ← member getBytes "type" doc
  let aggregateId ← member getBytes "aggregate_id" doc
  let payload ← member getBytes "payload" doc
  let timestampMs ← doc.value getULongLong "ts" 0
  return { sequence, eventType, aggregateId, payload, timestampMs }

/-- The loop of a read. A line that does not parse is skipped. -/
def collect (wanted : Json → Except TypeError Bool) (record : Json → Except TypeError EventRecord)
    (maxCount : ℕ) : List Bytes → List EventRecord → Except TypeError (List EventRecord)
  | [], result => .ok result
  | line :: lines, result =>
    if result.length < maxCount then
      match Json.parse true line with
      | none => collect wanted record maxCount lines result
      | some doc => do
        if ← wanted doc then
          collect wanted record maxCount lines (result ++ [← record doc])
        else collect wanted record maxCount lines result
    else .ok result

/-- The event is one of the aggregate, from the sequence number on. -/
def isRead (aggregateId : Bytes) (fromSequence : UInt64) (doc : Json) : Except TypeError Bool := do
  if (← doc.value getBytes "aggregate_id" []) ≠ aggregateId then return false
  return fromSequence ≤ (← doc.value getULongLong "seq" 0)

def read (aggregateId : Bytes) (fromSequence maxCount : UInt64) :
    Except TypeError (List EventRecord) :=
  match s.file with
  | none => .ok []
  | some bytes =>
    collect (isRead aggregateId fromSequence)
      (fun doc => do
        let rec ← recordOf doc
        return { rec with traceId := ← doc.value getULongLong "trace_id" 0 })
      maxCount.toNat (lines bytes) []

def isOfType (eventType : Bytes) (doc : Json) : Except TypeError Bool :=
  return (← doc.value getBytes "type" []) = eventType

/-- The trace id keeps its default. -/
def readByType (eventType : Bytes) (maxCount : UInt64) : Except TypeError (List EventRecord) :=
  match s.file with
  | none => .ok []
  | some bytes => collect (isOfType eventType) recordOf maxCount.toNat (lines bytes) []

/-- A line of the scan for the latest sequence number. -/
def latestLine (aggregateId : Bytes) (maxSeq : UInt64) (line : Bytes) : Except TypeError UInt64 :=
  match Json.parse true line with
  | none => .ok maxSeq
  | some doc => do
    if (← doc.value getBytes "aggregate_id" []) = aggregateId then
      let seq ← doc.value getULongLong "seq" 0
      return if maxSeq < seq then seq else maxSeq
    else return maxSeq

def latestSequence (aggregateId : Bytes) : Except TypeError UInt64 :=
  match s.file with
  | none => .ok 0
  | some bytes => (lines bytes).foldlM (latestLine aggregateId) 0

def totalEvents : UInt64 := s.total

/-- The answer is `none` when the call throws. -/
def call : EventCall → FileEventStore × Option EventAnswer
  | .append event now =>
    let (s, successful) := s.append floatText event now
    (s, successful.map .appended)
  | .read aggregateId fromSequence maxCount =>
    (s, (s.read aggregateId fromSequence maxCount).toOption.map .events)
  | .readByType eventType maxCount =>
    (s, (s.readByType eventType maxCount).toOption.map .events)
  | .latestSequence aggregateId => (s, (s.latestSequence aggregateId).toOption.map .number)
  | .totalEvents => (s, some (.number s.totalEvents))

/-! ## Scanning the lines of events -/

def fileOf (es : List EventRecord) : Bytes := es.flatMap fun e => lineOf floatText e ++ [10]

theorem lines_fileOf {es : List EventRecord} (h : ∀ e ∈ es, e.document.isSome) :
    lines (fileOf floatText es) = es.map (lineOf floatText) := by
  induction es with
  | nil => rfl
  | cons e es ih =>
    obtain ⟨doc, hdoc⟩ := Option.isSome_iff_exists.mp (h e List.mem_cons_self)
    have hw := EventRecord.document_written hdoc
    have hline : (10 : UInt8) ∉ lineOf floatText e := by
      rw [lineOf, hdoc, Option.getD_some]
      exact notMem_encodeUtf8 (x := '\n') (by decide)
        (lineFeed_notMem_dump (readable_of_plain doc hw.plain) 0)
    rw [fileOf, List.flatMap_cons, List.append_assoc, List.singleton_append, lines_append hline,
      List.map_cons]
    exact congrArg _ (ih fun e he => h e (List.mem_cons_of_mem _ he))

theorem collect_lineOf {wanted : Json → Except TypeError Bool}
    {record : Json → Except TypeError EventRecord} {p : EventRecord → Prop} [DecidablePred p]
    {f : EventRecord → EventRecord} (hp : ∀ e doc, e.Written doc → wanted doc = .ok (decide (p e)))
    (hf : ∀ e doc, e.Written doc → record doc = .ok (f e)) (n : ℕ) {es : List EventRecord}
    (h : ∀ e ∈ es, e.document.isSome) (acc : List EventRecord) :
    collect wanted record n (es.map (lineOf floatText)) acc =
      .ok (acc ++ ((es.filter (p ·)).take (n - acc.length)).map f) := by
  induction es generalizing acc with
  | nil => simp [collect]
  | cons e es ih =>
    obtain ⟨doc, hparse, hw⟩ := parse_lineOf floatText (h e List.mem_cons_self)
    have ih := ih fun e he => h e (List.mem_cons_of_mem _ he)
    rw [List.map_cons, collect]
    by_cases hn : acc.length < n
    · rw [if_pos hn, hparse]
      by_cases hpe : p e
      · obtain ⟨k, hk⟩ : ∃ k, n - acc.length = k + 1 := ⟨n - acc.length - 1, by omega⟩
        have hk' : n - (acc ++ [f e]).length = k := by
          rw [List.length_append, List.length_singleton]
          omega
        simp only [hp e doc hw, hf e doc hw, hpe, decide_true, bind, Except.bind, if_true]
        rw [ih, hk', hk, List.filter_cons_of_pos (by simpa using hpe), List.take_succ_cons,
          List.map_cons, List.append_assoc, List.singleton_append]
      · simp only [hp e doc hw, hpe, decide_false, bind, Except.bind, Bool.false_eq_true, if_false]
        rw [ih, List.filter_cons_of_neg (by simpa using hpe)]
    · have h0 : n - acc.length = 0 := by omega
      rw [if_neg hn, h0, List.take_zero, List.map_nil, List.append_nil]

/-! ## What a call returns -/

theorem recordOf_written {e : EventRecord} {doc : Json} (h : e.Written doc) :
    recordOf doc = .ok { e with traceId := 0 } := by
  simp only [recordOf, h.sequence.member, h.eventType.member, h.aggregateId.member,
    h.payload.member, h.timestampMs.value, bind, Except.bind, pure, Except.pure]

theorem isRead_written {e : EventRecord} {doc : Json} (h : e.Written doc) (aggregateId : Bytes)
    (fromSequence : UInt64) : isRead aggregateId fromSequence doc =
      .ok (decide (e.aggregateId = aggregateId ∧ fromSequence ≤ e.sequence)) := by
  simp only [isRead, h.aggregateId.value, h.sequence'.value, bind, Except.bind, pure, Except.pure]
  by_cases hid : e.aggregateId = aggregateId <;> simp [hid]

theorem isOfType_written {e : EventRecord} {doc : Json} (h : e.Written doc) (eventType : Bytes) :
    isOfType eventType doc = .ok (decide (e.eventType = eventType)) := by
  simp only [isOfType, h.eventType.value, bind, Except.bind, pure, Except.pure]

section Scans

variable {s : FileEventStore} {es : List EventRecord}
  (hfile : s.file.getD [] = fileOf floatText es) (h : ∀ e ∈ es, e.document.isSome)

include hfile h

/-- The lines that a read of the store goes through; there are none without the file. -/
theorem lines_file : s.file = none ∧ es = [] ∨
    ∃ bytes, s.file = some bytes ∧ lines bytes = es.map (lineOf floatText) := by
  have hlines : lines (s.file.getD []) = es.map (lineOf floatText) := by
    rw [hfile, lines_fileOf floatText h]
  cases hs : s.file with
  | none =>
    rw [hs] at hlines
    exact .inl ⟨rfl, List.map_eq_nil_iff.mp hlines.symm⟩
  | some bytes =>
    rw [hs] at hlines
    exact .inr ⟨bytes, rfl, hlines⟩

theorem read_eq (aggregateId : Bytes) (fromSequence maxCount : UInt64) :
    s.read aggregateId fromSequence maxCount = .ok
      ((es.filter fun e => e.aggregateId = aggregateId ∧ fromSequence ≤ e.sequence).take
        maxCount.toNat) := by
  rcases lines_file floatText hfile h with ⟨hs, rfl⟩ | ⟨bytes, hs, hlines⟩
  · simp [read, hs]
  · simp only [read, hs, hlines]
    rw [collect_lineOf floatText (f := id)
      (fun e doc hw => isRead_written hw aggregateId fromSequence) (fun e doc hw => ?_) _ h]
    · simp
    · simp only [recordOf_written hw, hw.traceId.value, bind, Except.bind, pure, Except.pure, id]

theorem readByType_eq (eventType : Bytes) (maxCount : UInt64) :
    s.readByType eventType maxCount = .ok
      (((es.filter fun e => e.eventType = eventType).take maxCount.toNat).map
        fun e => { e with traceId := 0 }) := by
  rcases lines_file floatText hfile h with ⟨hs, rfl⟩ | ⟨bytes, hs, hlines⟩
  · simp [readByType, hs]
  · simp only [readByType, hs, hlines]
    rw [collect_lineOf floatText (fun e doc hw => isOfType_written hw eventType)
      (fun e doc hw => recordOf_written hw) _ h]
    simp

theorem latestSequence_eq (aggregateId : Bytes) : s.latestSequence aggregateId = .ok
    (es.foldl (fun maxSeq e =>
      if e.aggregateId = aggregateId ∧ maxSeq < e.sequence then e.sequence else maxSeq) 0) := by
  have hscan : ∀ maxSeq, (es.map (lineOf floatText)).foldlM (latestLine aggregateId) maxSeq = .ok
      (es.foldl (fun maxSeq e =>
        if e.aggregateId = aggregateId ∧ maxSeq < e.sequence then e.sequence else maxSeq)
          maxSeq) := by
    clear hfile
    induction es with
    | nil => exact fun _ => rfl
    | cons e es ih =>
      intro maxSeq
      obtain ⟨doc, hparse, hw⟩ := parse_lineOf floatText (h e List.mem_cons_self)
      have hline : latestLine aggregateId maxSeq (lineOf floatText e) = .ok
          (if e.aggregateId = aggregateId ∧ maxSeq < e.sequence then e.sequence else maxSeq) := by
        rw [latestLine, hparse]
        simp only [hw.aggregateId.value, hw.sequence'.value, bind, Except.bind, pure, Except.pure]
        by_cases hid : e.aggregateId = aggregateId <;> simp [hid]
      rw [List.map_cons, List.foldlM_cons, hline]
      exact ih (fun e he => h e (List.mem_cons_of_mem _ he)) _
  rcases lines_file floatText hfile h with ⟨hs, rfl⟩ | ⟨bytes, hs, hlines⟩
  · simp [latestSequence, hs]
  · rw [← hscan, latestSequence, hs, ← hlines]

end Scans

end FileEventStore

/-! ## Both stores side by side -/

/-- Both stores after the same calls. -/
structure EventStores where
  memory : InMemoryEventStore := {}
  file : FileEventStore := {}
  /-- A record of the number of events when the file was first reopened with any. -/
  kept : Option ℕ := none

/-- A call, or a reopening. -/
inductive StoreStep
  | call (c : EventCall)
  /-- The store in the file is destroyed, and a new one opened. -/
  | reopen

/-- An event that is appended has a timestamp, and its strings are UTF-8. -/
def StoreStep.Valid : StoreStep → Prop
  | .call (.append event _) => event.IsText ∧ event.timestampMs ≠ 0
  | _ => True

namespace EventStores

variable (floatText : Float → List Char)

def step (w : EventStores) : StoreStep → EventStores
  | .call c => { w with memory := (w.memory.call c).1, file := (w.file.call floatText c).1 }
  | .reopen => { w with
      file := w.file.reopen
      kept := w.kept.or (if w.memory.events = [] then none else some w.memory.events.length) }

/-- The call returns the same on both stores. -/
def SameAnswer (w : EventStores) : StoreStep → Prop
  | .call c => (w.file.call floatText c).2 = some (w.memory.call c).2
  | .reopen => True

/-- The number of events before the sequence numbers start again. -/
def originals (w : EventStores) : ℕ := w.kept.getD w.memory.events.length

/-- There are enough wanted events with their original numbers, or all those related to them
have these. -/
def ReadsOriginals (w : EventStores) (wanted related : EventRecord → Prop) [DecidablePred wanted]
    (maxCount : UInt64) : Prop :=
  maxCount.toNat ≤ ((w.memory.events.take w.originals).filter (wanted ·)).length ∨
    ∀ e ∈ w.memory.events.drop w.originals, ¬related e

/-- No answer shows a renumbered event, `read_by_type` shows none with a trace id, and the
events are not counted after a reopening. -/
def Meets (w : EventStores) : StoreStep → Prop
  | .call (.read aggregateId fromSequence maxCount) =>
    w.ReadsOriginals (fun e => e.aggregateId = aggregateId ∧ fromSequence ≤ e.sequence)
      (fun e => e.aggregateId = aggregateId) maxCount
  | .call (.readByType eventType maxCount) =>
    w.ReadsOriginals (fun e => e.eventType = eventType) (fun e => e.eventType = eventType)
        maxCount ∧
      ∀ e ∈ (w.memory.events.filter fun e => e.eventType = eventType).take maxCount.toNat,
        e.traceId = 0
  | .call (.latestSequence aggregateId) =>
    ∀ e ∈ w.memory.events.drop w.originals, e.aggregateId ≠ aggregateId
  | .call .totalEvents => w.kept = none
  | .call (.append ..) | .reopen => True

/-- The file has the events of the memory, the first of them with their numbers; `es` is what
the lines of the file hold. -/
structure Inv (w : EventStores) (es : List EventRecord) : Prop where
  file : w.file.file.getD [] = FileEventStore.fileOf floatText es
  texts : ∀ e ∈ es, e.document.isSome
  unnumbered : es.map (fun e => { e with sequence := 0 }) =
    w.memory.events.map fun e => { e with sequence := 0 }
  originals_le : w.originals ≤ w.memory.events.length
  originals : es.take w.originals = w.memory.events.take w.originals
  nextSeq : w.memory.nextSeq = UInt64.ofNat (w.memory.events.length + 1)
  nextSequence : w.kept = none → w.file.nextSequence = w.memory.nextSeq
  total : w.kept = none → w.file.total = w.memory.totalEvents

variable {w : EventStores}

theorem Inv.length {es : List EventRecord} (h : w.Inv floatText es) :
    es.length = w.memory.events.length := by
  simpa using congrArg List.length h.unnumbered

theorem Inv.append {es : List EventRecord} (h : w.Inv floatText es)
    {event : EventRecord} (ht : event.IsText) (h0 : event.timestampMs ≠ 0) (now : UInt64) :
    (w.step floatText (.call (.append event now))).Inv floatText
      (es ++ [{ event with sequence := w.file.nextSequence }]) := by
  have hdoc : ({ event with sequence := w.file.nextSequence } : EventRecord).document.isSome :=
    EventRecord.IsText.document ht
  obtain ⟨doc, hsome⟩ := Option.isSome_iff_exists.mp hdoc
  have hfile : (w.file.append floatText event now).1 =
      { file := some (w.file.file.getD [] ++ textOf floatText doc ++ [10])
        nextSequence := w.file.nextSequence + 1
        total := w.file.total + 1 } := by
    simp only [FileEventStore.append, if_neg h0, hsome]
  have hcall : (w.file.call floatText (.append event now)).1 =
      (w.file.append floatText event now).1 := rfl
  have hlen := h.length
  have hle := h.originals_le
  refine
    { file := ?_, texts := ?_, unnumbered := ?_, originals_le := ?_, originals := ?_,
      nextSeq := ?_, nextSequence := ?_, total := ?_ }
  · simp only [step, hcall, hfile, Option.getD_some, h.file]
    simp [FileEventStore.fileOf, lineOf, hsome]
  · intro e he
    rcases List.mem_append.mp he with he | he
    · exact h.texts e he
    · rw [List.mem_singleton.mp he]
      exact hdoc
  · simp [step, InMemoryEventStore.call, InMemoryEventStore.append, h.unnumbered]
  · cases hk : w.kept with
    | none => simp [EventStores.originals, step, hk]
    | some k =>
      have hle : k ≤ w.memory.events.length := by simpa [EventStores.originals, hk] using hle
      simp [EventStores.originals, step, hk, InMemoryEventStore.call, InMemoryEventStore.append]
      omega
  · have horiginals := h.originals
    cases hk : w.kept with
    | none =>
      have hes : es = w.memory.events := by
        simpa [EventStores.originals, hk, List.take_of_length_le, hlen] using horiginals
      simp [EventStores.originals, step, hk, InMemoryEventStore.call, InMemoryEventStore.append, hes,
        h.nextSequence hk, List.take_of_length_le]
    | some k =>
      have hle : k ≤ w.memory.events.length := by simpa [EventStores.originals, hk] using hle
      have htake : es.take k = w.memory.events.take k := by
        simpa [EventStores.originals, hk] using horiginals
      simp [EventStores.originals, step, hk, InMemoryEventStore.call, InMemoryEventStore.append,
        List.take_append_of_le_length, hle, hlen, htake]
  · simp [step, InMemoryEventStore.call, InMemoryEventStore.append, h.nextSeq]
  · intro hk
    simp [step, hcall, hfile, InMemoryEventStore.call, InMemoryEventStore.append,
      h.nextSequence hk]
  · intro hk
    simp [step, hcall, hfile, InMemoryEventStore.call, InMemoryEventStore.append,
      InMemoryEventStore.totalEvents, h.total hk]

theorem Inv.reopen {es : List EventRecord} (h : w.Inv floatText es) :
    (w.step floatText .reopen).Inv floatText es := by
  have hlen := h.length
  have horiginals : (w.step floatText .reopen).originals = w.originals := by
    cases hk : w.kept with
    | none => by_cases he : w.memory.events = [] <;> simp [EventStores.originals, step, hk, he]
    | some k => simp [EventStores.originals, step, hk]
  have hempty : (w.step floatText .reopen).kept = none → w.memory.events = [] := by
    intro hk
    by_contra he
    simp [step, he] at hk
  refine
    { file := h.file, texts := h.texts, unnumbered := h.unnumbered
      originals_le := horiginals ▸ h.originals_le
      originals := by rw [horiginals]; exact h.originals
      nextSeq := h.nextSeq
      nextSequence := fun hk => ?_
      total := fun hk => ?_ }
  · have hseq := h.nextSeq
    rw [hempty hk] at hseq
    exact hseq.symm
  · simp [step, InMemoryEventStore.totalEvents, hempty hk, FileEventStore.reopen]

theorem Inv.step {es : List EventRecord} (h : w.Inv floatText es)
    {e : StoreStep} (he : e.Valid) : ∃ es', (w.step floatText e).Inv floatText es' := by
  cases e with
  | reopen => exact ⟨es, h.reopen floatText⟩
  | call c =>
    cases c with
    | append event now => exact ⟨_, h.append floatText he.1 he.2 now⟩
    | read | readByType | latestSequence | totalEvents => exact ⟨es, h⟩

/-- A line that was added later stands for an event that was added later. -/
theorem Inv.exists_mem_drop {es : List EventRecord} (h : w.Inv floatText es)
    {e : EventRecord} (he : e ∈ es.drop w.originals) :
    ∃ e' ∈ w.memory.events.drop w.originals,
      e'.aggregateId = e.aggregateId ∧ e'.eventType = e.eventType := by
  have hdrop := congrArg (List.drop w.originals) h.unnumbered
  rw [← List.map_drop, ← List.map_drop] at hdrop
  have hmem := List.mem_map_of_mem (f := fun e : EventRecord => { e with sequence := 0 }) he
  rw [hdrop] at hmem
  obtain ⟨e', he', heq⟩ := List.mem_map.mp hmem
  simp only [EventRecord.mk.injEq] at heq
  exact ⟨e', he', heq.2.2.1, heq.2.1⟩

theorem filter_eq_of_take {α : Type} {es es' : List α} {k : ℕ} (p : α → Bool)
    (htake : es.take k = es'.take k) (hdrop : ∀ e ∈ es.drop k, ¬p e)
    (hdrop' : ∀ e ∈ es'.drop k, ¬p e) : es.filter p = es'.filter p := by
  rw [← List.take_append_drop k es, ← List.take_append_drop k es', List.filter_append,
    List.filter_append, htake, List.filter_eq_nil_iff.mpr hdrop, List.filter_eq_nil_iff.mpr hdrop']

theorem take_filter_eq {α : Type} {es es' : List α} {k n : ℕ} (p : α → Bool)
    (htake : es.take k = es'.take k) (hn : n ≤ ((es'.take k).filter p).length) :
    (es.filter p).take n = (es'.filter p).take n := by
  rw [← List.take_append_drop k es, ← List.take_append_drop k es', List.filter_append,
    List.filter_append, htake, List.take_append_of_le_length hn, List.take_append_of_le_length hn]

/-- The file and the memory have the same wanted events first. -/
theorem Inv.take_filter {es : List EventRecord} (h : w.Inv floatText es)
    {wanted related : EventRecord → Prop} [DecidablePred wanted] {maxCount : UInt64}
    (hw : ∀ e, wanted e → related e)
    (hr : ∀ e e' : EventRecord, e'.aggregateId = e.aggregateId → e'.eventType = e.eventType →
      related e → related e') (hm : w.ReadsOriginals wanted related maxCount) :
    (es.filter (wanted ·)).take maxCount.toNat =
      (w.memory.events.filter (wanted ·)).take maxCount.toNat := by
  rcases hm with hm | hm
  · exact take_filter_eq _ h.originals hm
  · rw [filter_eq_of_take _ h.originals (fun e he hwanted => ?_) fun e he hwanted =>
      hm e he (hw e (of_decide_eq_true hwanted))]
    obtain ⟨e', he', hid, htype⟩ := h.exists_mem_drop floatText he
    exact hm e' he' (hr e e' hid htype (hw e (of_decide_eq_true hwanted)))

theorem Inv.sameAnswer {es : List EventRecord} (h : w.Inv floatText es)
    {e : StoreStep} (he : e.Valid) (hm : w.Meets e) : w.SameAnswer floatText e := by
  cases e with
  | reopen => trivial
  | call c =>
    cases c with
    | append event now =>
      have hdoc : ({ event with sequence := w.file.nextSequence } : EventRecord).document.isSome :=
        EventRecord.IsText.document he.1
      obtain ⟨doc, hsome⟩ := Option.isSome_iff_exists.mp hdoc
      simp only [SameAnswer, FileEventStore.call, FileEventStore.append, if_neg he.2, hsome]
      rfl
    | read aggregateId fromSequence maxCount =>
      have htake := h.take_filter floatText (fun e hw => hw.1)
        (fun e e' hid _ hr => hid.trans hr) hm
      simp only [SameAnswer, FileEventStore.call, InMemoryEventStore.call,
        FileEventStore.read_eq floatText h.file h.texts, InMemoryEventStore.read_eq, htake]
      rfl
    | readByType eventType maxCount =>
      have htake := h.take_filter floatText (fun e hw => hw)
        (fun e e' _ htype hr => htype.trans hr) hm.1
      have hmap : (w.memory.readByType eventType maxCount).map
          (fun e => { e with traceId := 0 }) = w.memory.readByType eventType maxCount := by
        rw [InMemoryEventStore.readByType_eq]
        refine (List.map_congr_left fun e he => ?_).trans (List.map_id _)
        rw [← hm.2 e he, id]
      simp only [SameAnswer, FileEventStore.call, InMemoryEventStore.call,
        FileEventStore.readByType_eq floatText h.file h.texts, htake,
        ← InMemoryEventStore.readByType_eq, hmap]
      rfl
    | latestSequence aggregateId =>
      have hfilter : (es.filter fun e => e.aggregateId = aggregateId) =
          w.memory.events.filter fun e => e.aggregateId = aggregateId :=
        filter_eq_of_take _ h.originals
          (fun e he hid => by
            obtain ⟨e', he', hid', -⟩ := h.exists_mem_drop floatText he
            exact hm e' he' (hid'.trans (of_decide_eq_true hid)))
          fun e he hid => hm e he (of_decide_eq_true hid)
      simp only [SameAnswer, FileEventStore.call, InMemoryEventStore.call,
        FileEventStore.latestSequence_eq floatText h.file h.texts,
        InMemoryEventStore.latestSequence, InMemoryEventStore.foldl_latest, hfilter]
      rfl
    | totalEvents =>
      simp [SameAnswer, FileEventStore.call, InMemoryEventStore.call, FileEventStore.totalEvents,
        h.total hm]

end EventStores

/-- The stores that start empty and run through valid steps. -/
abbrev EventReaches (floatText : Float → List Char) : EventStores → Prop :=
  Reaches (fun w => w = {}) (fun w e => some (w.step floatText e)) fun _ e => e.Valid

theorem EventReaches.next {floatText : Float → List Char} {w : EventStores}
    (h : EventReaches floatText w) (e : StoreStep) (he : e.Valid) :
    EventReaches floatText (w.step floatText e) :=
  h.step he rfl

/-- After every history, a call that meets the condition returns the same on both stores. -/
theorem EventReaches.answersAsMemory {floatText : Float → List Char} {w : EventStores}
    (h : EventReaches floatText w) {e : StoreStep} (he : e.Valid) (hm : w.Meets e) :
    w.SameAnswer floatText e := by
  obtain ⟨es, hi⟩ : ∃ es, w.Inv floatText es := by
    refine h.invariant (P := fun w => ∃ es, w.Inv floatText es) ?_ ?_
    · rintro w rfl
      exact ⟨[], rfl, nofun, rfl, Nat.le_refl 0, rfl, rfl, fun _ => rfl, fun _ => rfl⟩
    · rintro w e w' ⟨es, hi⟩ he hs
      rw [← Option.some_inj.mp hs]
      exact hi.step floatText he
  exact hi.sameAnswer floatText he hm

/-- Two events, the second after a reopening; the first one is read. -/
theorem EventReaches.answersAsMemory_reopened : ∃ w, EventReaches (fun _ => []) w ∧
    (w.memory.call (.read (encodeUtf8 ['a']) 0 100)).2 =
      .events [{ sequence := 1, eventType := encodeUtf8 ['t'], aggregateId := encodeUtf8 ['a']
                 payload := encodeUtf8 ['p'], timestampMs := 5, traceId := 7 }] ∧
    w.SameAnswer (fun _ => []) (.call (.read (encodeUtf8 ['a']) 0 100)) := by
  have htext : ∀ c, (text? (encodeUtf8 [c])).isSome := by simp [text?]
  have h0 : EventReaches (fun _ => []) {} := .init rfl
  have h1 := EventReaches.next h0 (.call (.append
    { eventType := encodeUtf8 ['t'], aggregateId := encodeUtf8 ['a'], payload := encodeUtf8 ['p']
      timestampMs := 5, traceId := 7 } 0)) ⟨⟨htext _, htext _, htext _⟩, by decide⟩
  have h2 := EventReaches.next h1 .reopen trivial
  have h3 := EventReaches.next h2 (.call (.append
    { eventType := encodeUtf8 ['t'], aggregateId := encodeUtf8 ['b'], payload := encodeUtf8 ['p']
      timestampMs := 6 } 0)) ⟨⟨htext _, htext _, htext _⟩, by decide⟩
  exact ⟨_, h3, by decide, EventReaches.answersAsMemory h3 trivial (.inr (by decide))⟩

/-- A reopened store has counted no events. -/
theorem not_answersAsMemory : ¬∀ (floatText : Float → List Char) (w : EventStores),
    EventReaches floatText w → ∀ e : StoreStep, e.Valid → w.SameAnswer floatText e := by
  intro h
  have htext : ∀ c, (text? (encodeUtf8 [c])).isSome := by simp [text?]
  have h0 : EventReaches (fun _ => []) {} := .init rfl
  have h1 := EventReaches.next h0 (.call (.append
    { eventType := encodeUtf8 ['t'], aggregateId := encodeUtf8 ['a'], payload := encodeUtf8 ['p']
      timestampMs := 5 } 0)) ⟨⟨htext _, htext _, htext _⟩, by decide⟩
  have h2 := EventReaches.next h1 .reopen trivial
  have hsame : some (EventAnswer.number 0) = some (.number 1) :=
    h _ _ h2 (.call .totalEvents) trivial
  exact absurd hsame (by decide)

end BoostGateway.Persistence
