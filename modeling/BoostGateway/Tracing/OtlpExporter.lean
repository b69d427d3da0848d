import BoostGateway.Base.JsonRoundTrip
import BoostGateway.Base.Run
import Mathlib

/-!
# Spans and their exporter

`OtlpExporter` (`otel_exporter.h`), shared by the threads of the gateway : a buffer under a mutex, and
batches that leave it for the export function, which is called without the mutex and may answer late,
fail, or throw. A batch whose export failed goes back to the front of the buffer.

`Exports.spans_kept` : in every interleaving each span that was handed in is in the buffer, in a batch
under way, in one that left, or in one whose export threw, once. The order of the spans is kept where
exports do not overlap. `serializeRecords_injective` : a payload tells its spans.
-/

namespace BoostGateway.Tracing

/-! ## Records -/

/-- `Span`, with its times as the exporter reads them. -/
structure Span where
  spanId : UInt64
  parentSpanId : UInt64
  traceId : UInt64
  operationName : String
  startNs : Int64
  durationUs : Int64
  finished : Bool
  deriving DecidableEq

/-- A span in the buffer. -/
structure SpanRecord where
  traceIdHex : String
  spanIdHex : String
  parentSpanIdHex : String
  operationName : String
  startTimeUnixNs : UInt64
  durationNs : UInt64
  status : String
  serviceName : String
  deriving DecidableEq

/-- The digits of `to_hex`, of which the source writes those before the last one that is not zero
over zeros. -/
def hexDigits : ℕ → UInt64 → List Char
  | 0, _ => []
  | width + 1, val => hexDigits width (val >>> 4) ++ [Json.hexDigit (val &&& 0xF).toNat]

def toHex (val : UInt64) (width : ℕ) : String := String.ofList (hexDigits width val)

/-- The record that `export_span` makes of a span. -/
def recordOf (span : Span) (serviceName : String) : SpanRecord where
  traceIdHex := toHex span.traceId 32
  spanIdHex := toHex span.spanId 16
  parentSpanIdHex := toHex span.parentSpanId 16
  operationName := span.operationName
  startTimeUnixNs := span.startNs.toUInt64
  durationNs := (span.durationUs * 1000).toUInt64
  status := if span.finished then "ok" else "error"
  serviceName

/-- An element of the array of `serialize_records`. -/
def recordJson (record : SpanRecord) : Json :=
  Json.ofMembers [
    ("traceId", .string record.traceIdHex),
    ("spanId", .string record.spanIdHex),
    ("parentSpanId", .string record.parentSpanIdHex),
    ("operationName", .string record.operationName),
    ("startTimeUnixNano", .string record.startTimeUnixNs.toNat.repr),
    ("durationNanos", .string record.durationNs.toNat.repr),
    ("status", .string record.status),
    ("serviceName", .string record.serviceName)]

/-- `serialize_records`, as UTF-8. -/
def serializeRecords (floatText : Float → List Char) (records : List SpanRecord) : Bytes :=
  encodeUtf8 (Json.dump floatText none 0
    (Json.ofMembers [("spans", .array (records.map recordJson))]))

/-! ### Payloads -/

theorem plain_recordJson (record : SpanRecord) : Json.Plain (recordJson record) := by
  refine Json.plain_ofMembers ?_
  simp [Json.Plain]

/-- A record is determined by its members. -/
theorem recordJson_injective : Function.Injective fun record => (recordJson record).asRead := by
  intro record record' h
  have hmember (key : String) : ((recordJson record).find? key).map Json.asRead =
      ((recordJson record').find? key).map Json.asRead := by
    rw [← Json.find?_asRead, ← Json.find?_asRead]
    exact congrArg _ h
  simp only [recordJson, Json.find?_ofMembers] at hmember
  obtain ⟨traceIdHex, spanIdHex, parentSpanIdHex, operationName, start, duration, status,
    serviceName⟩ := record
  obtain ⟨traceIdHex', spanIdHex', parentSpanIdHex', operationName', start', duration', status',
    serviceName'⟩ := record'
  have h₁ := hmember "traceId"
  have h₂ := hmember "spanId"
  have h₃ := hmember "parentSpanId"
  have h₄ := hmember "operationName"
  have h₅ := hmember "startTimeUnixNano"
  have h₆ := hmember "durationNanos"
  have h₇ := hmember "status"
  have h₈ := hmember "serviceName"
  simp [Json.asRead] at h₁ h₂ h₃ h₄ h₅ h₆ h₇ h₈
  simp only [SpanRecord.mk.injEq]
  exact ⟨h₁, h₂, h₃, h₄, UInt64.toNat_inj.mp h₅, UInt64.toNat_inj.mp h₆, h₇, h₈⟩

theorem asReadElems_injective {rs rs' : List SpanRecord}
    (h : Json.asReadElems (rs.map recordJson) = Json.asReadElems (rs'.map recordJson)) :
    rs = rs' := by
  induction rs generalizing rs' with
  | nil =>
    cases rs' with
    | nil => rfl
    | cons r' rs' => cases h
  | cons r rs ih =>
    cases rs' with
    | nil => cases h
    | cons r' rs' =>
      simp only [List.map_cons, Json.asReadElems, List.cons.injEq] at h
      rw [recordJson_injective h.1, ih h.2]

/-- A payload tells its spans. -/
theorem serializeRecords_injective (floatText : Float → List Char) :
    Function.Injective (serializeRecords floatText) := by
  intro rs rs' h
  have hplain (rs : List SpanRecord) :
      Json.Plain (Json.ofMembers [("spans", .array (rs.map recordJson))]) := by
    refine Json.plain_ofMembers ?_
    simp only [List.mem_singleton, forall_eq, Json.Plain]
    refine Json.plainElems_of_forall fun j hj => ?_
    obtain ⟨r, -, rfl⟩ := List.mem_map.mp hj
    exact plain_recordJson r
  have hread (rs : List SpanRecord) :
      Json.parse true (serializeRecords floatText rs) = _ := Json.parse_dump (hplain rs) true 0
  have hmember := congrArg (Json.find? "spans")
    (Option.some.inj ((hread rs).symm.trans ((congrArg _ h).trans (hread rs'))))
  simp only [Json.find?_asRead, Json.find?_ofMembers] at hmember
  refine asReadElems_injective ?_
  simpa [Json.asRead] using hmember

theorem digitChar_injective : ∀ m < 16, ∀ n < 16, Nat.digitChar m = Nat.digitChar n → m = n := by
  decide

theorem toNat_mod_of_hexDigits {width : ℕ} {val val' : UInt64}
    (h : hexDigits width val = hexDigits width val') :
    val.toNat % 16 ^ width = val'.toNat % 16 ^ width := by
  induction width generalizing val val' with
  | zero => rw [pow_zero, Nat.mod_one, Nat.mod_one]
  | succ width ih =>
    obtain ⟨hhigh, hlow⟩ := List.append_inj' h rfl
    have hnibble (v : UInt64) : (v &&& 0xF).toNat = v.toNat % 16 := by
      rw [UInt64.toNat_and]
      exact Nat.and_two_pow_sub_one_eq_mod v.toNat 4
    have hshift (v : UInt64) : (v >>> 4).toNat = v.toNat / 16 := by
      rw [UInt64.toNat_shiftRight]
      exact Nat.shiftRight_eq_div_pow v.toNat 4
    have hlow := digitChar_injective _ (by rw [hnibble]; omega) _ (by rw [hnibble]; omega)
      (List.head_eq_of_cons_eq hlow)
    have hhigh := ih hhigh
    rw [hnibble, hnibble] at hlow
    rw [hshift, hshift] at hhigh
    rw [pow_succ', Nat.mod_mul, Nat.mod_mul, hlow, hhigh]

/-- The ids of spans are told apart in their records. -/
theorem toHex_inj {width : ℕ} (hwidth : 16 ≤ width) {val val' : UInt64}
    (h : toHex val width = toHex val' width) : val = val' := by
  have hmod := toNat_mod_of_hexDigits (String.ofList_injective h)
  have hbig (v : UInt64) : v.toNat < 16 ^ width :=
    lt_of_lt_of_le v.toNat_lt (Nat.pow_le_pow_right (n := 16) (by decide) hwidth)
  rw [Nat.mod_eq_of_lt (hbig val), Nat.mod_eq_of_lt (hbig val')] at hmod
  exact UInt64.toNat_inj.mp hmod

/-! ## The exporter -/

/-- The options. -/
structure Config where
  serviceName : String := "boost-gateway"
  maxBatchSize : ℕ := 256
  /-- In nanoseconds. -/
  exportInterval : ℤ := 5000000000

/-- `OtlpExporter`. -/
structure OtlpExporter where
  config : Config
  buffer : List SpanRecord := []
  /-- `export_fn_` is set. -/
  exportFn : Bool
  lastExport : ℕ

namespace OtlpExporter

def serviceName (x : OtlpExporter) (overrideName : String) : String :=
  if overrideName = "" then x.config.serviceName else overrideName

/-- The first locked section of `export_span`, and the batch it takes out. -/
def collect (x : OtlpExporter) (record : SpanRecord) (now : ℕ) : OtlpExporter × List SpanRecord :=
  let buffer := x.buffer ++ [record]
  if x.exportFn ∧ (x.config.maxBatchSize ≤ buffer.length ∨
      x.config.exportInterval ≤ (now : ℤ) - x.lastExport) then
    ({ x with buffer := [], lastExport := now }, buffer)
  else ({ x with buffer }, [])

/-- The first locked section of `flush`. -/
def takeOut (x : OtlpExporter) (now : ℕ) : OtlpExporter × List SpanRecord :=
  if x.buffer = [] ∨ x.exportFn = false then (x, [])
  else ({ x with buffer := [], lastExport := now }, x.buffer)

/-- The last locked section of `export_span` and `flush` after a failed export. -/
def putBack (x : OtlpExporter) (batch : List SpanRecord) : OtlpExporter :=
  { x with buffer := batch ++ x.buffer }

end OtlpExporter

/-- An exporter with the batches whose export is under way, those that left, and those whose export
threw. -/
structure Exports where
  exporter : OtlpExporter
  submitted : List SpanRecord := []
  exporting : List (List SpanRecord) := []
  /-- Exported, drained, or returned by `flush_json`. -/
  out : List (List SpanRecord) := []
  thrown : List (List SpanRecord) := []

/-- What the threads do. -/
inductive ExportsAction
  | exportSpan (span : Span) (serviceName : String) (now : ℕ)
  | flush (now : ℕ)
  | exported (i : ℕ)
  | failed (i : ℕ)
  | threw (i : ℕ)
  /-- `drain` or `flush_json`. -/
  | drain
  | setExportFn (exportFn : Bool)

namespace Exports

/-- A batch that was taken out goes to the export function, unless it is empty. -/
def begin (t : Exports) (exporter : OtlpExporter) (batch : List SpanRecord) : Exports :=
  { t with
    exporter
    exporting := if batch = [] then t.exporting else t.exporting ++ [batch] }

def step (t : Exports) : ExportsAction → Option Exports
  | .exportSpan span serviceName now =>
    let record := recordOf span (t.exporter.serviceName serviceName)
    let result := t.exporter.collect record now
    some ({ t with submitted := t.submitted ++ [record] }.begin result.1 result.2)
  | .flush now =>
    let result := t.exporter.takeOut now
    some (t.begin result.1 result.2)
  | .exported i => t.exporting[i]?.map fun batch =>
    { t with
      exporting := t.exporting.eraseIdx i
      out := t.out ++ [batch] }
  | .failed i => t.exporting[i]?.map fun batch =>
    { t with
      exporting := t.exporting.eraseIdx i
      exporter := t.exporter.putBack batch }
  | .threw i => t.exporting[i]?.map fun batch =>
    { t with
      exporting := t.exporting.eraseIdx i
      thrown := t.thrown ++ [batch] }
  | .drain => some { t with
      exporter := { t.exporter with buffer := [] }
      out := t.out ++ [t.exporter.buffer] }
  | .setExportFn exportFn => some { t with exporter := { t.exporter with exportFn } }

def Reaches (ok : Exports → ExportsAction → Prop) : Exports → Prop :=
  BoostGateway.Reaches (fun t => ∃ config exportFn lastExport,
    t = { exporter := { config, exportFn, lastExport } }) step ok

/-- One thread, whose export function does not throw. -/
def Serial (t : Exports) : ExportsAction → Prop
  | .exportSpan .. | .flush _ | .drain => t.exporting = []
  | .threw _ => False
  | .exported _ | .failed _ | .setExportFn _ => True

/-- The export function is set, and takes what it gets. -/
def Steady (t : Exports) : ExportsAction → Prop
  | .failed _ | .threw _ | .setExportFn _ => False
  | .exportSpan .. | .flush _ | .exported _ | .drain => t.exporter.exportFn = true

variable {t t' : Exports} {ok : Exports → ExportsAction → Prop}

/-- What a call does with the spans : it appends `more` and takes a batch out, if any. -/
theorem collect_cases (x : OtlpExporter) (record : SpanRecord) (now : ℕ) :
    (x.collect record now = ({ x with buffer := [], lastExport := now }, x.buffer ++ [record])) ∨
    (x.collect record now = ({ x with buffer := x.buffer ++ [record] }, []) ∧
      (x.exportFn = true → x.buffer.length + 1 < x.config.maxBatchSize)) := by
  unfold OtlpExporter.collect
  dsimp only
  split_ifs with h
  · exact .inl rfl
  · refine .inr ⟨rfl, fun hfn => ?_⟩
    have hsmall := (not_or.mp fun hor => h ⟨hfn, hor⟩).1
    rw [List.length_append, List.length_singleton] at hsmall
    omega

theorem takeOut_cases (x : OtlpExporter) (now : ℕ) :
    x.takeOut now = (x, []) ∨
    (x.buffer ≠ [] ∧
      x.takeOut now = ({ x with buffer := [], lastExport := now }, x.buffer)) := by
  unfold OtlpExporter.takeOut
  split_ifs with h
  · exact .inl rfl
  · exact .inr ⟨fun hnil => h (.inl hnil), rfl⟩

/-! ### No span is lost -/

/-- Where every span that was handed in is. -/
def spans (t : Exports) : List SpanRecord :=
  t.out.flatten ++ t.thrown.flatten ++ t.exporting.flatten ++ t.exporter.buffer

theorem flatten_begin (t : Exports) (exporter : OtlpExporter) (batch : List SpanRecord) :
    (t.begin exporter batch).exporting.flatten = t.exporting.flatten ++ batch := by
  unfold begin
  dsimp only
  split_ifs with h
  · rw [h, List.append_nil]
  · rw [List.flatten_append, List.flatten_singleton]

theorem perm_flatten_eraseIdx {batches : List (List SpanRecord)} {i : ℕ} {batch : List SpanRecord}
    (h : batches[i]? = some batch) :
    batches.flatten.Perm (batch ++ (batches.eraseIdx i).flatten) := by
  obtain ⟨hlt, rfl⟩ := List.getElem?_eq_some_iff.mp h
  exact (List.getElem_cons_eraseIdx_perm hlt).symm.flatten

variable {a : ExportsAction}

theorem perm_step (h : t.submitted.Perm t.spans) (hs : t.step a = some t') :
    t'.submitted.Perm t'.spans := by
  cases a with
  | exportSpan span serviceName now =>
    obtain rfl := Option.some_inj.mp hs
    generalize recordOf span (t.exporter.serviceName serviceName) = record
    refine (h.append_right [record]).trans (.of_eq ?_)
    unfold spans
    obtain hcollect | ⟨hcollect, -⟩ := collect_cases t.exporter record now
    · rw [flatten_begin, hcollect]
      simp [begin]
    · rw [flatten_begin, hcollect]
      simp [begin]
  | flush now =>
    obtain rfl := Option.some_inj.mp hs
    refine h.trans (.of_eq ?_)
    unfold spans
    obtain htake | ⟨-, htake⟩ := takeOut_cases t.exporter now
    · rw [flatten_begin, htake]
      simp [begin]
    · rw [flatten_begin, htake]
      simp [begin]
  | exported i =>
    obtain ⟨batch, hbatch, rfl⟩ := Option.map_eq_some_iff.mp hs
    refine h.trans ?_
    have hperm := perm_flatten_eraseIdx hbatch
    simp only [spans, List.flatten_append, List.flatten_singleton, List.append_assoc]
    refine List.Perm.append_left _ ?_
    refine ((hperm.append_right _).append_left _).trans ?_
    rw [List.append_assoc]
    exact List.perm_append_comm_assoc _ _ _
  | failed i =>
    obtain ⟨batch, hbatch, rfl⟩ := Option.map_eq_some_iff.mp hs
    refine h.trans ?_
    have hperm := perm_flatten_eraseIdx hbatch
    simp only [spans, OtlpExporter.putBack, List.append_assoc]
    refine (List.Perm.append_left _ (List.Perm.append_left _ ?_))
    refine (hperm.append_right _).trans ?_
    rw [List.append_assoc]
    exact List.perm_append_comm_assoc _ _ _
  | threw i =>
    obtain ⟨batch, hbatch, rfl⟩ := Option.map_eq_some_iff.mp hs
    refine h.trans ?_
    have hperm := perm_flatten_eraseIdx hbatch
    simp only [spans, List.flatten_append, List.flatten_singleton, List.append_assoc]
    refine (List.Perm.append_left _ (List.Perm.append_left _ ?_))
    rw [← List.append_assoc]
    exact hperm.append_right _
  | drain =>
    obtain rfl := Option.some_inj.mp hs
    refine h.trans ?_
    simp only [spans, List.flatten_append, List.flatten_singleton, List.append_assoc,
      List.append_nil]
    refine List.Perm.append_left _ ?_
    rw [← List.append_assoc]
    exact List.perm_append_comm
  | setExportFn exportFn =>
    obtain rfl := Option.some_inj.mp hs
    exact h

/-- The spans in the order in which one thread handed them in. -/
structure Ordered (t : Exports) : Prop where
  submitted : t.submitted = t.out.flatten ++ (t.exporting.flatten ++ t.exporter.buffer)
  thrown : t.thrown = []
  single : t.exporting = [] ∨ ∃ batch, t.exporting = [batch]

theorem Ordered.begin {exporter : OtlpExporter} {batch more : List SpanRecord} (h : t.Ordered)
    (hidle : t.exporting = []) (hbuffer : t.exporter.buffer ++ more = batch ++ exporter.buffer) :
    Ordered ({ t with submitted := t.submitted ++ more }.begin exporter batch) := by
  refine ⟨?_, h.thrown, ?_⟩
  · rw [flatten_begin, hidle, List.flatten_nil, List.nil_append]
    change t.submitted ++ more = t.out.flatten ++ (batch ++ exporter.buffer)
    rw [← hbuffer, h.submitted, hidle, List.flatten_nil, List.nil_append, List.append_assoc]
  · unfold Exports.begin
    dsimp only
    split_ifs
    · exact .inl hidle
    · exact .inr ⟨batch, by rw [hidle, List.nil_append]⟩

theorem Ordered.step (h : t.Ordered) (hserial : t.Serial a)
    (hs : t.step a = some t') : t'.Ordered := by
  have hbatch {i : ℕ} {batch : List SpanRecord} (hi : t.exporting[i]? = some batch) :
      t.exporting = [batch] ∧ t.exporting.eraseIdx i = [] := by
    obtain hnil | ⟨batch', hone⟩ := h.single
    · rw [hnil] at hi
      cases hi
    · rw [hone] at hi ⊢
      cases i with
      | zero => exact ⟨congrArg (fun b => [b]) (Option.some.inj hi), rfl⟩
      | succ i => cases hi
  cases a with
  | exportSpan span serviceName now =>
    obtain rfl := Option.some_inj.mp hs
    refine h.begin hserial ?_
    obtain hcollect | ⟨hcollect, -⟩ := collect_cases t.exporter
      (recordOf span (t.exporter.serviceName serviceName)) now
    · rw [hcollect, List.append_nil]
    · rw [hcollect, List.nil_append]
  | flush now =>
    obtain rfl := Option.some_inj.mp hs
    have hbegin := @Ordered.begin t (t.exporter.takeOut now).1 (t.exporter.takeOut now).2 [] h
      hserial ?_
    · rwa [List.append_nil] at hbegin
    · obtain htake | ⟨-, htake⟩ := takeOut_cases t.exporter now
      · rw [htake, List.append_nil, List.nil_append]
      · rw [htake]
  | exported i =>
    obtain ⟨batch, hi, rfl⟩ := Option.map_eq_some_iff.mp hs
    obtain ⟨hone, hrest⟩ := hbatch hi
    refine ⟨?_, h.thrown, .inl hrest⟩
    dsimp only
    rw [h.submitted, hrest, hone, List.flatten_append, List.flatten_singleton, List.flatten_nil,
      List.nil_append, List.append_assoc]
  | failed i =>
    obtain ⟨batch, hi, rfl⟩ := Option.map_eq_some_iff.mp hs
    obtain ⟨hone, hrest⟩ := hbatch hi
    refine ⟨?_, h.thrown, .inl hrest⟩
    dsimp only [OtlpExporter.putBack]
    rw [h.submitted, hrest, hone, List.flatten_singleton, List.flatten_nil, List.nil_append]
  | threw i => exact hserial.elim
  | drain =>
    obtain rfl := Option.some_inj.mp hs
    have hidle : t.exporting = [] := hserial
    refine ⟨?_, h.thrown, .inl hidle⟩
    simp only [h.submitted, hidle, List.flatten_append, List.flatten_singleton, List.flatten_nil,
      List.nil_append, List.append_nil]
  | setExportFn exportFn =>
    obtain rfl := Option.some_inj.mp hs
    exact ⟨h.submitted, h.thrown, h.single⟩

/-- The buffer, and a batch under way, are no larger than a batch may be. -/
structure Bounded (t : Exports) : Prop where
  buffer : t.exporter.buffer.length < max 1 t.exporter.config.maxBatchSize
  exporting : ∀ batch ∈ t.exporting, batch.length ≤ max 1 t.exporter.config.maxBatchSize

theorem Bounded.begin {exporter : OtlpExporter} {batch more : List SpanRecord} (h : t.Bounded)
    (hconfig : exporter.config = t.exporter.config)
    (hbuffer : exporter.buffer.length < max 1 t.exporter.config.maxBatchSize)
    (hbatch : batch.length ≤ max 1 t.exporter.config.maxBatchSize) :
    Bounded ({ t with submitted := t.submitted ++ more }.begin exporter batch) := by
  refine ⟨?_, ?_⟩
  · rwa [← hconfig] at hbuffer
  · unfold Exports.begin
    dsimp only
    rw [hconfig]
    split_ifs
    · exact h.exporting
    · refine List.forall_mem_append.mpr ⟨h.exporting, ?_⟩
      simpa using hbatch

theorem Bounded.step (h : t.Bounded) (hsteady : t.Steady a)
    (hs : t.step a = some t') : t'.Bounded := by
  cases a with
  | exportSpan span serviceName now =>
    obtain rfl := Option.some_inj.mp hs
    have hbuffer := h.buffer
    obtain hcollect | ⟨hcollect, hsmall⟩ := collect_cases t.exporter
      (recordOf span (t.exporter.serviceName serviceName)) now
    · refine h.begin ?_ ?_ ?_
      · rw [hcollect]
      · rw [hcollect, List.length_nil]
        omega
      · rw [hcollect, List.length_append, List.length_singleton]
        omega
    · refine h.begin ?_ ?_ ?_
      · rw [hcollect]
      · have := hsmall hsteady
        rw [hcollect, List.length_append, List.length_singleton]
        omega
      · rw [hcollect, List.length_nil]
        omega
  | flush now =>
    obtain rfl := Option.some_inj.mp hs
    have hbuffer := h.buffer
    have hbegin := @Bounded.begin t (t.exporter.takeOut now).1 (t.exporter.takeOut now).2 [] h
      ?_ ?_ ?_
    · rwa [List.append_nil] at hbegin
    all_goals obtain htake | ⟨-, htake⟩ := takeOut_cases t.exporter now <;> rw [htake]
    · exact hbuffer
    · rw [List.length_nil]
      omega
    · rw [List.length_nil]
      omega
    · exact hbuffer.le
  | exported i =>
    obtain ⟨batch, -, rfl⟩ := Option.map_eq_some_iff.mp hs
    exact ⟨h.buffer, fun batch hbatch => h.exporting batch (List.mem_of_mem_eraseIdx hbatch)⟩
  | drain =>
    obtain rfl := Option.some_inj.mp hs
    refine ⟨?_, h.exporting⟩
    change 0 < max 1 _
    omega
  | failed i => exact hsteady.elim
  | threw i => exact hsteady.elim
  | setExportFn exportFn => exact hsteady.elim

/-- Every span that was handed in is accounted for once. One thread keeps their order, and where the
export function is set and takes what it gets the buffer stays below the size of a batch. The payloads
of the batches tell their spans, and the records the ids. -/
theorem spans_kept (floatText : Float → List Char) (h : t.Reaches ok) :
    t.submitted.Perm t.spans ∧
    ((∀ t a, ok t a → t.Serial a) →
      t.submitted = t.out.flatten ++ (t.exporting.flatten ++ t.exporter.buffer)) ∧
    ((∀ t a, ok t a → t.Steady a) →
      t.exporter.buffer.length < max 1 t.exporter.config.maxBatchSize ∧
        ∀ batch ∈ t.exporting, batch.length ≤ max 1 t.exporter.config.maxBatchSize) ∧
    Function.Injective (serializeRecords floatText) ∧
    ∀ span span' service service', recordOf span service = recordOf span' service' →
      span.traceId = span'.traceId ∧ span.spanId = span'.spanId ∧
        span.parentSpanId = span'.parentSpanId := by
  refine ⟨?_, fun hok => ?_, fun hok => ?_, serializeRecords_injective floatText,
    fun span span' service service' hrecord => ?_⟩
  · refine h.invariant (P := fun t => t.submitted.Perm t.spans) ?_ fun _ _ _ hi _ => perm_step hi
    rintro t ⟨config, exportFn, lastExport, rfl⟩
    exact .refl _
  · have hordered : t.Ordered := by
      refine h.invariant (P := Ordered) ?_ fun _ _ _ hi ha => hi.step (hok _ _ ha)
      rintro t ⟨config, exportFn, lastExport, rfl⟩
      exact ⟨rfl, rfl, .inl rfl⟩
    exact hordered.submitted
  · have hbounded : t.Bounded := by
      refine h.invariant (P := Bounded) ?_ fun _ _ _ hi ha => hi.step (hok _ _ ha)
      rintro t ⟨config, exportFn, lastExport, rfl⟩
      refine ⟨?_, List.forall_mem_nil _⟩
      change 0 < max 1 _
      omega
    exact ⟨hbounded.buffer, hbounded.exporting⟩
  · exact ⟨toHex_inj (by decide) (congrArg SpanRecord.traceIdHex hrecord),
      toHex_inj (by decide) (congrArg SpanRecord.spanIdHex hrecord),
      toHex_inj (by decide) (congrArg SpanRecord.parentSpanIdHex hrecord)⟩

/-- Two threads : the batch of the first fails after that of the second left, so its spans come
later. -/
theorem spans_kept_overtaken : ∃ t : Exports, t.Reaches (fun _ _ => True) ∧
    t.out.map (·.map (·.spanIdHex)) = [["0000000000000002"]] ∧
    t.exporter.buffer.map (·.spanIdHex) = ["0000000000000001"] ∧ t.submitted.Perm t.spans := by
  let span (spanId : UInt64) : Span := {
    spanId, parentSpanId := 0, traceId := 7, operationName := "route", startNs := 0,
    durationUs := 1, finished := true }
  obtain ⟨t, ht, hout, hbuffer⟩ : ∃ t : Exports, t.Reaches (fun _ _ => True) ∧
      t.out.map (·.map (·.spanIdHex)) = [["0000000000000002"]] ∧
      t.exporter.buffer.map (·.spanIdHex) = ["0000000000000001"] :=
    BoostGateway.Reaches.exists_runWith (.init ⟨{ maxBatchSize := 1 }, true, 0, rfl⟩)
      [.exportSpan (span 1) "" 0, .exportSpan (span 2) "" 1, .exported 1, .failed 0]
      (by decide +kernel)
  exact ⟨t, ht, hout, hbuffer, (spans_kept (fun _ => []) ht).1⟩

end Exports

end BoostGateway.Tracing
