import BoostGateway.Base.RedisKeys
import BoostGateway.Base.Run
import BoostGateway.Persistence.EventStore
import Mathlib

/-!
# The event store in Redis

`RedisEventStore` (`redis_event_store.cpp`) takes the sequence numbers from a counter and pushes
the document of an event on the list of its aggregate and on the list of its type. The keys
are the prefix and a name : that of the counter is `next_seq`, that of an aggregate its id,
and that of a type `by_type:` and the type, so one key may stand for two of them, and a push on
the counter is an error that nobody looks at (`not_sameAnswer_redis`). A read by type takes the
newest events, where memory takes the oldest.

`RedisReaches.answersAsMemory_redis` : a call returns what the store in memory returns
where the list it reads is that of the aggregate or the type alone, has no event that was
stamped, and is not longer than what a read by type asks for.
-/

namespace BoostGateway.Persistence

open Json

/-- `RedisEventStore`. -/
structure RedisEventStore where
  keyPrefix : Bytes
  keys : RedisKeys := fun _ => none

namespace RedisEventStore

variable (floatText : Float → List Char)

/-- What a command sees of a key : `c_str` ends at the first zero byte. -/
def cKey (key : Bytes) : Bytes := key.takeWhile (· ≠ 0)

variable (s : RedisEventStore)

def seqKey : Bytes :=
  cKey (s.keyPrefix ++ encodeUtf8 ":next_seq".toList)

def aggKey (id : Bytes) : Bytes :=
  cKey (s.keyPrefix ++ encodeUtf8 ":".toList ++ id)

def typeKey (type : Bytes) : Bytes :=
  cKey (s.keyPrefix ++ encodeUtf8 ":by_type:".toList ++ type)

/-- The client returns nothing on an error. -/
def lrange (s : RedisEventStore) (key : Bytes) (start stop : ℤ) : List Bytes :=
  (s.keys.lrange key start stop).getD []

/-- The answer is `none` when `dump` throws. What the pushes return is ignored. -/
def append (event : EventRecord) (now : UInt64) : RedisEventStore × Option Bool :=
  let event := { event with
    timestampMs := if event.timestampMs = 0 then now else event.timestampMs }
  match s.keys.incr s.seqKey with
  | none => (s, some false)
  | some (keys, seq) =>
    let event := { event with sequence := UInt64.ofNat seq }
    match event.document with
    | none => ({ s with keys }, none)
    | some doc =>
      let json := textOf floatText doc
      let keys := (keys.lpush (s.aggKey event.aggregateId) json).getD keys
      let keys := (keys.lpush (s.typeKey event.eventType) json).getD keys
      ({ s with keys }, some true)

def parse (json : Bytes) : Except TypeError (Option EventRecord) :=
  match Json.parse true json with
  | none => .ok none
  | some doc => do
    let sequence ← doc.value getULongLong "seq" 0
    let eventType ← doc.value getBytes "type" []
    let aggregateId ← doc.value getBytes "aggregate_id" []
    let payload ← doc.value getBytes "payload" []
    let timestampMs ← doc.value getULongLong "ts" 0
    let traceId ← doc.value getULongLong "trace_id" 0
    return some { sequence, eventType, aggregateId, payload, timestampMs, traceId }

/-- The loop of a read, from the oldest text on. -/
def collect (fromSequence : UInt64) (maxCount : ℕ) :
    List Bytes → List EventRecord → Except TypeError (List EventRecord)
  | [], result => .ok result
  | json :: raw, result =>
    if maxCount ≤ result.length then .ok result
    else do
      match ← parse json with
      | some rec =>
        collect fromSequence maxCount raw
          (if fromSequence ≤ rec.sequence then result ++ [rec] else result)
      | none => collect fromSequence maxCount raw result

def read (aggregateId : Bytes) (fromSequence maxCount : UInt64) :
    Except TypeError (List EventRecord) :=
  collect fromSequence maxCount.toNat (s.lrange (s.aggKey aggregateId) 0 (-1)).reverse []

def latestSequence (aggregateId : Bytes) : Except TypeError UInt64 :=
  match s.lrange (s.aggKey aggregateId) 0 0 with
  | [] => .ok 0
  | json :: _ => do
    let rec ← parse json
    return (rec.map EventRecord.sequence).getD 0

def readByType (eventType : Bytes) (maxCount : UInt64) : Except TypeError (List EventRecord) := do
  let raw := s.lrange (s.typeKey eventType) 0 (maxCount.toInt64 - 1).toInt
  let recs ← raw.reverse.mapM parse
  return recs.reduceOption

/-- The text of the counter is read with `stoull`. -/
def totalEvents : UInt64 :=
  match s.keys.get s.seqKey with
  | none => 0
  | some text => UInt64.ofNat (Nat.ofDigitChars 10 text 0)

/-- The answer is `none` when the call throws. -/
def call : EventCall → RedisEventStore × Option EventAnswer
  | .append event now =>
    let (s, successful) := s.append floatText event now
    (s, successful.map .appended)
  | .read aggregateId fromSequence maxCount =>
    (s, (s.read aggregateId fromSequence maxCount).toOption.map .events)
  | .readByType eventType maxCount =>
    (s, (s.readByType eventType maxCount).toOption.map .events)
  | .latestSequence aggregateId => (s, (s.latestSequence aggregateId).toOption.map .number)
  | .totalEvents => (s, some (.number s.totalEvents))

/-! ## Reading the texts of events -/

theorem parse_text {e : EventRecord} (h : e.document.isSome) :
    parse (lineOf floatText e) = .ok (some e) := by
  obtain ⟨doc, hparse, hw⟩ := parse_lineOf floatText h
  simp only [parse, hparse, hw.sequence'.value, hw.eventType.value, hw.aggregateId.value,
    hw.payload.value, hw.timestampMs.value, hw.traceId.value, bind, Except.bind, pure, Except.pure]

theorem collect_text (fromSequence : UInt64) (n : ℕ) {es : List EventRecord}
    (h : ∀ e ∈ es, e.document.isSome) (acc : List EventRecord) :
    collect fromSequence n (es.map (lineOf floatText)) acc =
      .ok (acc ++ (es.filter fun e => fromSequence ≤ e.sequence).take (n - acc.length)) := by
  induction es generalizing acc with
  | nil => simp [collect]
  | cons e es ih =>
    have ih := ih fun e he => h e (List.mem_cons_of_mem _ he)
    rw [List.map_cons, collect]
    by_cases hn : n ≤ acc.length
    · have h0 : n - acc.length = 0 := by omega
      rw [if_pos hn, h0, List.take_zero, List.append_nil]
    · rw [if_neg hn, parse_text floatText (h e List.mem_cons_self)]
      simp only [bind, Except.bind]
      by_cases hseq : fromSequence ≤ e.sequence
      · obtain ⟨k, hk⟩ : ∃ k, n - acc.length = k + 1 := ⟨n - acc.length - 1, by omega⟩
        have hk' : n - (acc ++ [e]).length = k := by
          rw [List.length_append, List.length_singleton]
          omega
        rw [if_pos hseq, ih, hk', hk, List.filter_cons_of_pos (by simpa using hseq),
          List.take_succ_cons, List.append_assoc, List.singleton_append]
      · rw [if_neg hseq, ih, List.filter_cons_of_neg (by simpa using hseq)]

theorem mapM_text {es : List EventRecord} (h : ∀ e ∈ es, e.document.isSome) :
    (es.map (lineOf floatText)).mapM parse = .ok (es.map some) := by
  induction es with
  | nil => rfl
  | cons e es ih =>
    rw [List.map_cons, List.mapM_cons, parse_text floatText (h e List.mem_cons_self),
      ih fun e he => h e (List.mem_cons_of_mem _ he)]
    rfl

/-! ## The lists of the keys -/

/-- How often an event is pushed on a key. -/
def pushed (key : Bytes) (e : EventRecord) : ℕ :=
  (if key = s.aggKey e.aggregateId then 1 else 0) + if key = s.typeKey e.eventType then 1 else 0

/-- The texts of a key when the events were appended, the newest first. -/
def textsAt (es : List EventRecord) (key : Bytes) : List Bytes :=
  ((es.flatMap fun e => List.replicate (s.pushed key e) e).map (lineOf floatText)).reverse

theorem textsAt_append (es : List EventRecord) (e : EventRecord)
    (key : Bytes) : s.textsAt floatText (es ++ [e]) key =
      List.replicate (s.pushed key e) (lineOf floatText e) ++ s.textsAt floatText es key := by
  simp [textsAt, List.map_flatMap]

theorem textsAt_of_pushed {es : List EventRecord} {key : Bytes}
    {mine : EventRecord → Prop} [DecidablePred mine]
    (h : ∀ e ∈ es, s.pushed key e = if mine e then 1 else 0) :
    s.textsAt floatText es key = ((es.filter (mine ·)).map (lineOf floatText)).reverse := by
  rw [textsAt]
  congr 2
  induction es with
  | nil => rfl
  | cons e es ih =>
    rw [List.flatMap_cons, h e List.mem_cons_self, ih fun e he => h e (List.mem_cons_of_mem _ he)]
    by_cases hmine : mine e <;> simp [hmine]

/-- The counter has the number of the events, and the other keys have their texts. -/
def Keeps (s : RedisEventStore) (es : List EventRecord) : Prop :=
  s.keys.Keeps s.seqKey es.length (s.textsAt floatText es)

/-- An event as it is written, `n` events being there. -/
def stamp (n : ℕ) (event : EventRecord) (now : UInt64) : EventRecord :=
  { event with
    sequence := UInt64.ofNat (n + 1)
    timestampMs := if event.timestampMs = 0 then now else event.timestampMs }

theorem Keeps.append {s : RedisEventStore} {es : List EventRecord} (h : s.Keeps floatText es)
    {event : EventRecord} (ht : event.IsText) (hlt : es.length + 1 < 2 ^ 63) (now : UInt64) :
    ∃ keys, s.append floatText event now = ({ s with keys }, some true) ∧
      ({ s with keys } : RedisEventStore).Keeps floatText (es ++ [stamp es.length event now]) := by
  have hdoc : (stamp es.length event now).document.isSome := EventRecord.IsText.document ht
  obtain ⟨doc, hsome⟩ := Option.isSome_iff_exists.mp hdoc
  obtain ⟨keys, hincr, hkeys⟩ := RedisKeys.Keeps.incr h hlt
  have hline : lineOf floatText (stamp es.length event now) = textOf floatText doc := by
    rw [lineOf, hsome, Option.getD_some]
  obtain ⟨keys₁, h₁⟩ : ∃ keys₁, keys₁ =
      (keys.lpush (s.aggKey event.aggregateId) (textOf floatText doc)).getD keys := ⟨_, rfl⟩
  obtain ⟨keys₂, h₂⟩ : ∃ keys₂, keys₂ =
      (keys₁.lpush (s.typeKey event.eventType) (textOf floatText doc)).getD keys₁ := ⟨_, rfl⟩
  have happend : s.append floatText event now = ({ s with keys := keys₂ }, some true) := by
    rw [stamp] at hsome
    simp only [RedisEventStore.append, hincr, hsome, ← h₁, ← h₂]
  refine ⟨keys₂, happend, ?_⟩
  have hlists : s.textsAt floatText (es ++ [stamp es.length event now]) = fun k =>
      if k = s.typeKey event.eventType then
        textOf floatText doc ::
          (if k = s.aggKey event.aggregateId then textOf floatText doc :: s.textsAt floatText es k
          else s.textsAt floatText es k)
      else if k = s.aggKey event.aggregateId then
        textOf floatText doc :: s.textsAt floatText es k
      else s.textsAt floatText es k := by
    funext k
    have hpushed : s.pushed k (stamp es.length event now) = s.pushed k event := rfl
    rw [textsAt_append, hline, hpushed, pushed]
    split_ifs <;> rfl
  have hkeeps₁ := hkeys.lpush (Nat.succ_ne_zero _) (s.aggKey event.aggregateId)
    (textOf floatText doc)
  rw [← h₁] at hkeeps₁
  have hkeeps₂ := hkeeps₁.lpush (Nat.succ_ne_zero _) (s.typeKey event.eventType)
    (textOf floatText doc)
  rw [← h₂, ← hlists] at hkeeps₂
  rw [Keeps, List.length_append, List.length_singleton]
  exact hkeeps₂

theorem Keeps.lrange {s : RedisEventStore} {es : List EventRecord} (h : s.Keeps floatText es)
    (key : Bytes) (start stop : ℤ) : s.lrange key start stop =
      if key = s.seqKey then [] else RedisKeys.range (s.textsAt floatText es key) start stop :=
  RedisKeys.Keeps.lrange h key start stop

/-- A read of the counter is an error. -/
theorem Keeps.lrange_counter {s : RedisEventStore} {es : List EventRecord}
    (h : s.Keeps floatText es) (start stop : ℤ) : s.lrange s.seqKey start stop = [] := by
  rw [h.lrange, if_pos rfl]

theorem Keeps.totalEvents {s : RedisEventStore} {es : List EventRecord}
    (h : s.Keeps floatText es) : s.totalEvents = UInt64.ofNat es.length := by
  rw [RedisEventStore.totalEvents, RedisKeys.Keeps.get h]
  by_cases h0 : es.length = 0
  · rw [if_pos h0, h0]
    rfl
  · rw [if_neg h0]
    simp only [Nat.ofDigitChars_ten_toDigits]

end RedisEventStore

/-! ## Both stores side by side -/

/-- Both stores after the same calls. -/
structure RedisStores where
  memory : InMemoryEventStore := {}
  redis : RedisEventStore

namespace RedisStores

variable (floatText : Float → List Char)

def step (w : RedisStores) (c : EventCall) : RedisStores :=
  { memory := (w.memory.call c).1, redis := (w.redis.call floatText c).1 }

/-- The call returns the same on both stores. -/
def SameAnswer (w : RedisStores) (c : EventCall) : Prop :=
  (w.redis.call floatText c).2 = some (w.memory.call c).2

/-- The strings of an event that is appended are UTF-8, and the counter is not at its end. -/
def Fits (w : RedisStores) : EventCall → Prop
  | .append event _ => event.IsText ∧ w.memory.events.length + 1 < 2 ^ 63
  | _ => True

/-- Every event that is wanted was pushed on the key once and no other one was, unless none is
wanted and the key is the counter. -/
def Separate (w : RedisStores) (key : Bytes) (wanted : EventRecord → Prop)
    [DecidablePred wanted] : Prop :=
  (∀ e ∈ w.memory.events, w.redis.pushed key e = if wanted e then 1 else 0) ∧
    (key = w.redis.seqKey → ∀ e ∈ w.memory.events, ¬wanted e)

/-- A read by type asks for at least `n` events, and for no number that is negative as a signed
one, unless there are none; the least of these overflows. -/
def AsksForAll (n : ℕ) (maxCount : UInt64) : Prop :=
  n ≤ maxCount.toNat ∧ (maxCount.toNat < 2 ^ 63 ∨ n = 0 ∧ maxCount.toNat ≠ 2 ^ 63)

/-- The list that a call reads is that of its aggregate or type alone, what it returns was not
stamped, and a read by type asks for all events. -/
def Meets (w : RedisStores) : EventCall → Prop
  | .read aggregateId fromSequence maxCount =>
    w.Separate (w.redis.aggKey aggregateId) (fun e => e.aggregateId = aggregateId) ∧
      ∀ e ∈ (w.memory.events.filter fun e =>
          e.aggregateId = aggregateId ∧ fromSequence ≤ e.sequence).take maxCount.toNat,
        e.timestampMs ≠ 0
  | .readByType eventType maxCount =>
    w.Separate (w.redis.typeKey eventType) (fun e => e.eventType = eventType) ∧
      AsksForAll (w.memory.events.countP fun e => e.eventType = eventType) maxCount ∧
      ∀ e ∈ w.memory.events, e.eventType = eventType → e.timestampMs ≠ 0
  | .latestSequence aggregateId =>
    w.Separate (w.redis.aggKey aggregateId) fun e => e.aggregateId = aggregateId
  | .append .. | .totalEvents => True

/-- The event in Redis is the one in memory, with a timestamp. -/
def Stamped (e e' : EventRecord) : Prop :=
  e' = { e with timestampMs := e'.timestampMs } ∧ (e.timestampMs ≠ 0 → e' = e)

section Stamped

variable {es es' : List EventRecord}

theorem Stamped.fields {e e' : EventRecord} (h : Stamped e e') :
    e'.sequence = e.sequence ∧ e'.eventType = e.eventType ∧ e'.aggregateId = e.aggregateId := by
  rw [h.1]
  exact ⟨rfl, rfl, rfl⟩

theorem forall_of_stamped {P Q : EventRecord → Prop} (h : List.Forall₂ Stamped es es')
    (hP : ∀ e ∈ es, P e) (hQ : ∀ e e', Stamped e e' → P e → Q e') : ∀ e' ∈ es', Q e' := by
  induction h with
  | nil => exact nofun
  | @cons e e' es es' he hes ih =>
    intro f hf
    rcases List.mem_cons.mp hf with rfl | hf
    · exact hQ e _ he (hP e List.mem_cons_self)
    · exact ih (fun e he => hP e (List.mem_cons_of_mem _ he)) f hf

theorem filter_stamped (wanted : EventRecord → Prop) [DecidablePred wanted]
    (h : List.Forall₂ Stamped es es')
    (hwanted : ∀ e e', Stamped e e' → (wanted e ↔ wanted e')) :
    List.Forall₂ Stamped (es.filter (wanted ·)) (es'.filter (wanted ·)) :=
  List.rel_filter (fun e e' he => by simpa using hwanted e e' he) h

/-- Events with timestamps are as they were. -/
theorem eq_of_stamped (h : List.Forall₂ Stamped es es') (h0 : ∀ e ∈ es, e.timestampMs ≠ 0) :
    es' = es := by
  have heq : List.Forall₂ Eq es es' :=
    ((List.forall₂_and_left _ _).mpr ⟨h0, h⟩).imp fun e e' he => (he.2.2 he.1).symm
  rw [List.forall₂_eq_eq_eq] at heq
  exact heq.symm

end Stamped

/-- Redis holds the events of the memory, `es` with their timestamps. -/
structure Inv (w : RedisStores) (es : List EventRecord) : Prop where
  keeps : w.redis.Keeps floatText es
  texts : ∀ e ∈ es, e.document.isSome
  stamped : List.Forall₂ Stamped w.memory.events es
  nextSeq : w.memory.nextSeq = UInt64.ofNat (w.memory.events.length + 1)
  length_lt : w.memory.events.length < 2 ^ 63
  increasing : w.memory.events.Pairwise fun e e' => e.sequence < e'.sequence
  sequences : ∀ e ∈ w.memory.events,
    0 < e.sequence ∧ e.sequence < UInt64.ofNat (w.memory.events.length + 1)

variable {w : RedisStores} {es : List EventRecord}

theorem Inv.append (h : w.Inv floatText es)
    {event : EventRecord} {now : UInt64} (hfits : w.Fits (.append event now)) :
    (w.step floatText (.append event now)).Inv floatText
        (es ++ [RedisEventStore.stamp es.length event now]) ∧
      w.SameAnswer floatText (.append event now) := by
  obtain ⟨ht, hlt⟩ := hfits
  have hlen : es.length = w.memory.events.length := h.stamped.length_eq.symm
  obtain ⟨keys, happend, hkeeps⟩ := h.keeps.append floatText ht (hlen ▸ hlt) now
  have hredis : (w.step floatText (.append event now)).redis = { w.redis with keys } := by
    simp only [step, RedisEventStore.call, happend]
  have hevents : (w.step floatText (.append event now)).memory.events =
      w.memory.events ++ [{ event with sequence := w.memory.nextSeq }] := rfl
  have hnext : (w.step floatText (.append event now)).memory.nextSeq = w.memory.nextSeq + 1 := rfl
  have hnow : (UInt64.ofNat (w.memory.events.length + 1)).toNat = w.memory.events.length + 1 :=
    UInt64.toNat_ofNat_of_lt' (by rw [UInt64.size]; omega)
  have hthen : (UInt64.ofNat (w.memory.events.length + 1 + 1)).toNat =
      w.memory.events.length + 1 + 1 := UInt64.toNat_ofNat_of_lt' (by rw [UInt64.size]; omega)
  have hpos : 0 < UInt64.ofNat (w.memory.events.length + 1) := by
    rw [UInt64.lt_iff_toNat_lt, hnow]
    exact Nat.succ_pos _
  have hlt' : UInt64.ofNat (w.memory.events.length + 1) <
      UInt64.ofNat (w.memory.events.length + 1 + 1) := by
    rw [UInt64.lt_iff_toNat_lt, hnow, hthen]
    exact Nat.lt_succ_self _
  have hstamped : Stamped { event with sequence := w.memory.nextSeq }
      (RedisEventStore.stamp es.length event now) := by
    rw [h.nextSeq, ← hlen]
    exact ⟨rfl, fun h0 => by simp only [RedisEventStore.stamp, if_neg h0]⟩
  refine
    ⟨{ keeps := hredis ▸ hkeeps, texts := ?_
       stamped := List.rel_append h.stamped (.cons hstamped .nil), nextSeq := ?_
       length_lt := ?_, increasing := ?_, sequences := ?_ }, ?_⟩
  · intro e he
    rcases List.mem_append.mp he with he | he
    · exact h.texts e he
    · rw [List.mem_singleton.mp he]
      exact EventRecord.IsText.document ht
  · simp [hevents, hnext, h.nextSeq]
  · simpa [hevents] using hlt
  · rw [hevents, List.pairwise_append]
    refine ⟨h.increasing, List.pairwise_singleton _ _, fun e he e' he' => ?_⟩
    rw [List.mem_singleton.mp he', h.nextSeq]
    exact (h.sequences e he).2
  · intro e he
    rw [hevents, List.length_append, List.length_singleton]
    rw [hevents] at he
    rcases List.mem_append.mp he with he | he
    · exact ⟨(h.sequences e he).1, UInt64.lt_trans (h.sequences e he).2 hlt'⟩
    · rw [List.mem_singleton.mp he, h.nextSeq]
      exact ⟨hpos, hlt'⟩
  · simp only [SameAnswer, RedisEventStore.call, happend]
    rfl

theorem Inv.step (h : w.Inv floatText es)
    {c : EventCall} (hfits : w.Fits c) : ∃ es', (w.step floatText c).Inv floatText es' := by
  cases c with
  | append event now => exact ⟨_, (h.append floatText hfits).1⟩
  | read | readByType | latestSequence | totalEvents => exact ⟨es, h⟩

/-- What a read of a separate list gets. -/
theorem Inv.lrange (h : w.Inv floatText es)
    {key : Bytes} (wanted : EventRecord → Prop) [DecidablePred wanted]
    (hwanted : ∀ e e', Stamped e e' → (wanted e ↔ wanted e')) (hs : w.Separate key wanted)
    (start stop : ℤ) : w.redis.lrange key start stop =
      RedisKeys.range ((es.filter (wanted ·)).map (lineOf floatText)).reverse start stop := by
  have hpushed : ∀ e ∈ es, w.redis.pushed key e = if wanted e then 1 else 0 := by
    refine forall_of_stamped h.stamped hs.1 fun e e' he hp => ?_
    obtain ⟨-, htype, hid⟩ := he.fields
    have heq : w.redis.pushed key e' = w.redis.pushed key e := by
      rw [RedisEventStore.pushed, htype, hid, RedisEventStore.pushed]
    rw [heq, hp]
    exact if_congr (hwanted e e' he) rfl rfl
  have hnone : key = w.redis.seqKey → es.filter (wanted ·) = [] := by
    intro hkey
    refine List.filter_eq_nil_iff.mpr fun e he => ?_
    have hnot : ¬wanted e := forall_of_stamped h.stamped (hs.2 hkey)
      (fun e e' he hp => hp ∘ (hwanted e e' he).mpr) e he
    simpa using hnot
  rw [h.keeps.lrange, RedisEventStore.textsAt_of_pushed floatText _ hpushed]
  split_ifs with hkey
  · simp [hnone hkey]
  · rfl

theorem Inv.read (h : w.Inv floatText es) {aggregateId : Bytes} {fromSequence maxCount : UInt64}
    (hm : w.Meets (.read aggregateId fromSequence maxCount)) :
    w.redis.read aggregateId fromSequence maxCount =
      .ok (w.memory.read aggregateId fromSequence maxCount) := by
  have hsub : ∀ e ∈ es.filter fun e => e.aggregateId = aggregateId, e.document.isSome :=
    fun e he => h.texts e (List.mem_filter.mp he).1
  have hrange := h.lrange floatText (fun e => e.aggregateId = aggregateId)
    (fun e e' he => by rw [he.fields.2.2]) hm.1 0 (-1)
  have hsame := eq_of_stamped (List.forall₂_take maxCount.toNat (filter_stamped
    (fun e => e.aggregateId = aggregateId ∧ fromSequence ≤ e.sequence) h.stamped
    fun e e' he => by rw [he.fields.1, he.fields.2.2])) hm.2
  rw [RedisEventStore.read, hrange, RedisKeys.range_all, List.reverse_reverse,
    RedisEventStore.collect_text floatText _ _ hsub, InMemoryEventStore.read_eq, ← hsame,
    List.filter_filter]
  simp [Bool.and_comm]

theorem toInt_sub_one {maxCount : UInt64} (h : maxCount.toNat < 2 ^ 63) :
    (maxCount.toInt64 - 1).toInt = maxCount.toNat - 1 := by
  have hsigned : maxCount.toInt64.toInt = (maxCount.toNat : ℤ).bmod (2 ^ 64) :=
    BitVec.toInt_eq_toNat_bmod _
  have hone : (1 : Int64).toInt = 1 := by decide
  rw [Int.bmod_eq_of_le (by omega) (by omega)] at hsigned
  rw [Int64.toInt_sub, hsigned, hone, Int.bmod_eq_of_le (by omega) (by omega)]

theorem range_asksForAll {xs : List Bytes} {maxCount : UInt64}
    (h : AsksForAll xs.length maxCount) :
    RedisKeys.range xs 0 (maxCount.toInt64 - 1).toInt = xs := by
  obtain ⟨hle, hlt | ⟨h0, -⟩⟩ := h
  · rw [toInt_sub_one hlt, RedisKeys.range_zero]
    split_ifs with hneg
    · rw [List.take_of_length_le (by omega)]
    · rw [List.take_of_length_le (by omega)]
  · rw [List.eq_nil_of_length_eq_zero h0, RedisKeys.range_nil]

theorem Inv.readByType (h : w.Inv floatText es)
    {eventType : Bytes} {maxCount : UInt64} (hm : w.Meets (.readByType eventType maxCount)) :
    w.redis.readByType eventType maxCount = .ok (w.memory.readByType eventType maxCount) := by
  obtain ⟨hs, hall, h0⟩ := hm
  have hsub : ∀ e ∈ es.filter fun e => e.eventType = eventType, e.document.isSome :=
    fun e he => h.texts e (List.mem_filter.mp he).1
  have hrange := h.lrange floatText (fun e => e.eventType = eventType)
    (fun e e' he => by rw [he.fields.2.1]) hs 0 (maxCount.toInt64 - 1).toInt
  have hsame := eq_of_stamped (filter_stamped (fun e => e.eventType = eventType) h.stamped
    fun e e' he => by rw [he.fields.2.1])
    fun e he => h0 e (List.mem_filter.mp he).1 (of_decide_eq_true (List.mem_filter.mp he).2)
  rw [hsame] at hsub hrange
  rw [List.countP_eq_length_filter] at hall
  have hle := hall.1
  rw [range_asksForAll (by simpa using hall)] at hrange
  rw [RedisEventStore.readByType, hrange, List.reverse_reverse,
    RedisEventStore.mapM_text floatText hsub, InMemoryEventStore.readByType_eq,
    List.take_of_length_le hle]
  simp [bind, Except.bind, pure, Except.pure, List.reduceOption]

/-- The latest of increasing numbers is the last one. -/
theorem foldl_increasing
    (h : es.Pairwise fun e e' => e.sequence < e'.sequence) (hpos : ∀ e ∈ es, 0 < e.sequence) :
    es.foldl (fun maxSeq e => if maxSeq < e.sequence then e.sequence else maxSeq) 0 =
      (es.getLast?.map EventRecord.sequence).getD 0 := by
  induction es using List.reverseRecOn with
  | nil => rfl
  | append_singleton es e ih =>
    obtain ⟨hes, -, hlt⟩ := List.pairwise_append.mp h
    have ih := ih hes fun e he => hpos e (List.mem_append_left _ he)
    have hlast : (es.getLast?.map EventRecord.sequence).getD 0 < e.sequence := by
      cases hl : es.getLast? with
      | none => exact hpos e (List.mem_append_right _ (List.mem_singleton_self e))
      | some f => exact hlt f (List.mem_of_getLast? hl) e (List.mem_singleton_self e)
    rw [List.foldl_append, ih, List.foldl_cons, List.foldl_nil, if_pos hlast,
      List.getLast?_append_of_ne_nil _ (List.cons_ne_nil e [])]
    rfl

theorem Inv.latestSequence (h : w.Inv floatText es)
    {aggregateId : Bytes} (hm : w.Meets (.latestSequence aggregateId)) :
    w.redis.latestSequence aggregateId = .ok (w.memory.latestSequence aggregateId) := by
  have hrange := h.lrange floatText (fun e => e.aggregateId = aggregateId)
    (fun e e' he => by rw [he.fields.2.2]) hm 0 0
  have hforall := filter_stamped (fun e => e.aggregateId = aggregateId) h.stamped
    fun e e' he => by rw [he.fields.2.2]
  have hmemory : w.memory.latestSequence aggregateId =
      ((w.memory.events.filter fun e => e.aggregateId = aggregateId).getLast?.map
        EventRecord.sequence).getD 0 := by
    rw [InMemoryEventStore.latestSequence, InMemoryEventStore.foldl_latest]
    exact foldl_increasing (h.increasing.filter _)
      fun e he => (h.sequences e (List.mem_filter.mp he).1).1
  have hsub : ∀ e ∈ es.filter fun e => e.aggregateId = aggregateId, e.document.isSome :=
    fun e he => h.texts e (List.mem_filter.mp he).1
  have hreverse := List.rel_reverse hforall
  have hsub : ∀ e ∈ (es.filter fun e => e.aggregateId = aggregateId).reverse,
      e.document.isSome := fun e he => hsub e (List.mem_reverse.mp he)
  rw [RedisKeys.range_zero, ← List.map_reverse] at hrange
  rw [RedisEventStore.latestSequence, hrange, hmemory, List.getLast?_eq_head?_reverse]
  generalize (es.filter fun e => e.aggregateId = aggregateId).reverse = ours at hreverse hsub ⊢
  generalize (w.memory.events.filter fun e => e.aggregateId = aggregateId).reverse = theirs
    at hreverse ⊢
  cases hreverse with
  | nil => rfl
  | @cons theirs ours _ _ he _ =>
    have hparse := RedisEventStore.parse_text floatText (hsub ours List.mem_cons_self)
    simp [hparse, bind, Except.bind, pure, Except.pure, he.fields.1]

theorem Inv.sameAnswer (h : w.Inv floatText es)
    {c : EventCall} (hfits : w.Fits c) (hm : w.Meets c) : w.SameAnswer floatText c := by
  cases c with
  | append event now => exact (h.append floatText hfits).2
  | read aggregateId fromSequence maxCount =>
    simp only [SameAnswer, RedisEventStore.call, h.read floatText hm]
    rfl
  | readByType eventType maxCount =>
    simp only [SameAnswer, RedisEventStore.call, h.readByType floatText hm]
    rfl
  | latestSequence aggregateId =>
    simp only [SameAnswer, RedisEventStore.call, h.latestSequence floatText hm]
    rfl
  | totalEvents =>
    rw [SameAnswer, RedisEventStore.call, h.keeps.totalEvents, ← h.stamped.length_eq]
    rfl

end RedisStores

/-- The stores that start empty, Redis with any prefix of its keys. -/
abbrev RedisReaches (floatText : Float → List Char) : RedisStores → Prop :=
  Reaches (fun w => ∃ keyPrefix, w = { redis := { keyPrefix } })
    (fun w c => some (w.step floatText c)) RedisStores.Fits

variable {floatText : Float → List Char}

theorem RedisReaches.inv {w : RedisStores}
    (h : RedisReaches floatText w) : ∃ es, w.Inv floatText es := by
  refine h.invariant (P := fun w => ∃ es, w.Inv floatText es) ?_ ?_
  · rintro w ⟨keyPrefix, rfl⟩
    exact ⟨[], RedisKeys.Keeps.empty _, nofun, .nil, rfl, Nat.two_pow_pos 63, .nil, nofun⟩
  · rintro w c w' ⟨es, hi⟩ hfits hs
    rw [← Option.some_inj.mp hs]
    exact hi.step floatText hfits

/-- After every history, a call that meets the condition returns the same on both stores. -/
theorem RedisReaches.answersAsMemory_redis {floatText : Float → List Char} {w : RedisStores}
    (h : RedisReaches floatText w) {c : EventCall} (hfits : w.Fits c) (hm : w.Meets c) :
    w.SameAnswer floatText c := by
  obtain ⟨es, hi⟩ := h.inv
  exact hi.sameAnswer floatText hfits hm

theorem RedisReaches.next {w : RedisStores}
    (h : RedisReaches floatText w) (c : EventCall) (hfits : w.Fits c) :
    RedisReaches floatText (w.step floatText c) :=
  h.step hfits rfl

/-- No call changes the prefix. -/
theorem RedisStores.keyPrefix_step (w : RedisStores)
    (c : EventCall) : (w.step floatText c).redis.keyPrefix = w.redis.keyPrefix := by
  cases c with
  | append event now =>
    simp only [step, RedisEventStore.call, RedisEventStore.append]
    cases w.redis.keys.incr w.redis.seqKey with
    | none => rfl
    | some r =>
      dsimp only
      split <;> rfl
  | read | readByType | latestSequence | totalEvents => rfl

/-- Two events of one type, read by the type. -/
theorem RedisReaches.answersAsMemory_redis_twice : ∃ w, RedisReaches (fun _ => []) w ∧
    (w.memory.call (.readByType (encodeUtf8 ['t']) 2)).2 =
      .events [{ sequence := 1, eventType := encodeUtf8 ['t'], aggregateId := encodeUtf8 ['a']
                 payload := encodeUtf8 ['p'], timestampMs := 5, traceId := 7 },
               { sequence := 2, eventType := encodeUtf8 ['t'], aggregateId := encodeUtf8 ['b']
                 payload := encodeUtf8 ['p'], timestampMs := 6 }] ∧
    w.SameAnswer (fun _ => []) (.readByType (encodeUtf8 ['t']) 2) := by
  have htext : ∀ c, (text? (encodeUtf8 [c])).isSome := by simp [text?]
  have h0 : RedisReaches (fun _ => []) { redis := { keyPrefix := encodeUtf8 ['e', 's'] } } :=
    .init ⟨_, rfl⟩
  have h1 := RedisReaches.next h0 (.append
    { eventType := encodeUtf8 ['t'], aggregateId := encodeUtf8 ['a'], payload := encodeUtf8 ['p']
      timestampMs := 5, traceId := 7 } 0) ⟨⟨htext _, htext _, htext _⟩, by decide⟩
  have h2 := RedisReaches.next h1 (.append
    { eventType := encodeUtf8 ['t'], aggregateId := encodeUtf8 ['b'], payload := encodeUtf8 ['p']
      timestampMs := 6 } 0) ⟨⟨htext _, htext _, htext _⟩, by decide⟩
  refine ⟨_, h2, by decide, RedisReaches.answersAsMemory_redis h2 trivial ?_⟩
  simp only [RedisStores.Meets, RedisStores.Separate, RedisEventStore.pushed,
    RedisEventStore.typeKey, RedisEventStore.aggKey, RedisEventStore.seqKey,
    RedisStores.keyPrefix_step, RedisStores.AsksForAll]
  exact ⟨⟨by decide, by decide⟩, by decide, by decide⟩

theorem RedisEventStore.aggKey_nextSeq (s : RedisEventStore) :
    s.aggKey (encodeUtf8 "next_seq".toList) = s.seqKey := by
  have happend : encodeUtf8 ":".toList ++ encodeUtf8 "next_seq".toList =
      encodeUtf8 ":next_seq".toList := by decide
  rw [aggKey, seqKey, List.append_assoc, happend]

/-- The events of the aggregate `next_seq` are not stored. -/
theorem not_sameAnswer_redis : ¬∀ (floatText : Float → List Char) (w : RedisStores),
    RedisReaches floatText w → ∀ c : EventCall, w.SameAnswer floatText c := by
  intro h
  have htext : ∀ cs, (text? (encodeUtf8 cs)).isSome := by simp [text?]
  have h0 : RedisReaches (fun _ => []) { redis := { keyPrefix := encodeUtf8 ['e', 's'] } } :=
    .init ⟨_, rfl⟩
  have h1 := RedisReaches.next h0 (.append
    { eventType := encodeUtf8 ['t'], aggregateId := encodeUtf8 "next_seq".toList
      payload := encodeUtf8 ['p'], timestampMs := 5 } 0)
    ⟨⟨htext _, htext _, htext _⟩, by decide⟩
  have hsame := h _ _ h1 (.latestSequence (encodeUtf8 "next_seq".toList))
  obtain ⟨es, hi⟩ := h1.inv
  have hrange := hi.keeps.lrange_counter _ 0 0
  simp only [RedisStores.SameAnswer, RedisEventStore.call, RedisEventStore.latestSequence,
    RedisEventStore.aggKey_nextSeq, hrange] at hsame
  exact absurd hsame (by decide)

end BoostGateway.Persistence
