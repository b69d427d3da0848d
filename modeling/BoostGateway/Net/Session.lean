import BoostGateway.Base.Run
import BoostGateway.Net.PacketCodec
import Mathlib.Data.List.Perm.Basic

/-!
# A client session : one read at a time

`session.cpp` : a session reads packets with `async_read`, first the length and then the
body, and writes its queue with one `async_write` after the other. Handlers run on a
strand, one at a time; `send`, `send_batch` and `stop` post to it, and a step of the model
is one handler or one call. When the queue passes the high watermark, reading pauses
after the packet that is being read; when a write brings it to the low watermark,
`resume_if_paused` reads on.

`Session.SingleRead` : at most one read is outstanding, and one is outstanding or about to
be issued unless the session is paused or stopped. `resume_if_paused` does not look
whether reading has paused yet, and a read that is still waiting when backpressure ends
is joined by a second one (`Session.not_single_read`). `Session.single_read` : in every
run in which backpressure ends only after reading has paused, reads are single.
-/

namespace BoostGateway.Net

/-- `SessionOptions`; the watermarks are the numbers of bytes that `check_backpressure` and
`resume_if_paused` compute from the fractions. -/
structure SessionOptions where
  maxPacketSize : UInt32 := 1024 * 1024
  maxPendingWriteBytes : ℕ := 256 * 1024
  highWater : ℕ := 192 * 1024
  lowWater : ℕ := 64 * 1024
  low_le_high : lowWater ≤ highWater := by decide

/-- An `async_read` on the socket, of the length or of a body of the length read. -/
inductive ReadOp
  | header
  | body (length : UInt32)
  deriving DecidableEq

/-- What is posted to the strand : the lambdas of `enqueue_write`, `send_batch` and `stop`,
and the one of `do_read_body` that reads on. -/
inductive Task
  | enqueueWrite (message : PacketMessage) (highPriority : Bool)
  | sendBatch (messages : List PacketMessage)
  | stop
  | readNext
  deriving DecidableEq

/-- A packet in the queue. -/
structure PendingWrite where
  message : PacketMessage
  packet : Bytes
  highPriority : Bool := false
  deriving DecidableEq

/-- A session. -/
structure Session where
  options : SessionOptions
  /-- The outstanding `async_read`s. -/
  reads : List ReadOp := [.header]
  /-- The lambdas posted to the strand that have not run. -/
  posted : List Task := []
  writeQueue : List PendingWrite := []
  /-- Of the queue's `insert`, which moves the elements before the place or those after it :
  that it moves those before, for the place and the length. By default as in libstdc++. -/
  movesBefore : ℕ → ℕ → Bool := fun place length => place < length / 2
  /-- Where the queue keeps its front; the others are in the slots after it. -/
  frontSlot : ℤ := 0
  /-- The slot of the packet that the outstanding `async_write` was given. -/
  writeSlot : ℤ := 0
  /-- An `async_write` of the front of the queue is outstanding. -/
  writing : Bool := false
  queuedWriteBytes : ℕ := 0
  peakWriteBytes : ℕ := 0
  backpressureActive : Bool := false
  backpressureActivateCount : ℕ := 0
  stopped : Bool := false
  /-- The packets the receive observer was given. -/
  received : List PacketMessage := []
  /-- The packets written in full, as the send observer was given them. -/
  sent : List PendingWrite := []

namespace Session

variable (zlib : Option Zlib)

variable (s : Session)

/-- `handle_close` : the socket is closed, and what is outstanding on it completes with an
error unless its completion was queued before. -/
def handleClose : Session := { s with stopped := true }

def doReadHeader : Session := { s with reads := .header :: s.reads }

def doReadBody (length : UInt32) : Session :=
  { s with reads := .body length :: s.reads }

def doWrite : Session := { s with writing := true, writeSlot := s.frontSlot }

def checkBackpressure : Session :=
  if s.options.highWater < s.queuedWriteBytes ∧ s.backpressureActive = false then
    { s with
      backpressureActive := true
      backpressureActivateCount := s.backpressureActivateCount + 1 }
  else s

def resumeIfPaused : Session :=
  if s.backpressureActive = false then s
  else if s.queuedWriteBytes ≤ s.options.lowWater then
    let s := { s with backpressureActive := false }
    if s.stopped then s else s.doReadHeader
  else s

/-- A high-priority packet goes behind the packet that is being written and the
high-priority packets queued after it. -/
def insertHighPriority (queue : List PendingWrite) (w : PendingWrite) : List PendingWrite :=
  queue.take 1 ++ (queue.drop 1).takeWhile (·.highPriority) ++
    w :: (queue.drop 1).dropWhile (·.highPriority)

/-- Queueing the packet moves the front to another slot. -/
def movesFront (w : PendingWrite) : Bool :=
  w.highPriority && s.writeQueue != [] &&
    s.movesBefore (1 + ((s.writeQueue.drop 1).takeWhile (·.highPriority)).length)
      s.writeQueue.length

/-- The common end of `enqueue_write` and `send_batch` : the size checks and the queue. -/
def enqueue (w : PendingWrite) : Session :=
  if kLengthHeaderSize + s.options.maxPacketSize.toNat < w.packet.length then s.handleClose
  else if s.options.maxPendingWriteBytes < s.queuedWriteBytes + w.packet.length then
    s.handleClose
  else
    let writeInProgress := s.writeQueue != []
    let s := { s with
      queuedWriteBytes := s.queuedWriteBytes + w.packet.length
      peakWriteBytes := max s.peakWriteBytes (s.queuedWriteBytes + w.packet.length)
      writeQueue :=
        if w.highPriority && writeInProgress then insertHighPriority s.writeQueue w
        else s.writeQueue ++ [w]
      frontSlot := s.frontSlot - (s.movesFront w).toNat }
    let s := s.checkBackpressure
    if writeInProgress then s else s.doWrite

/-- A lambda runs on the strand. -/
def runTask : Task → Session
  | .enqueueWrite message highPriority =>
    if s.stopped then s
    else s.enqueue { message, packet := encode (compress zlib message), highPriority }
  | .sendBatch messages =>
    if s.stopped then s
    else
      let messages := messages.map (compress zlib)
      s.enqueue { message := messages.getLastD {}, packet := messages.flatMap encode }
  | .stop => s.handleClose
  | .readNext =>
    if s.stopped = false ∧ s.backpressureActive = false then s.doReadHeader else s

/-- The completion of `do_read_header`; `none` where it failed. -/
def onHeader : Option (Vector UInt8 4) → Session
  | none => s.handleClose
  | some header =>
    let length := decodeLength header
    if length.toNat < kFixedMetadataSize then s.handleClose
    else if s.options.maxPacketSize < length then s.handleClose
    else s.doReadBody length

/-- The completion of `do_read_body`; `none` where it failed. `throws` tells whether an
observer or the packet handler throws. -/
def onBody (throws : Bool) : Option Bytes → Session
  | none => s.handleClose
  | some payload =>
    match decodePacket zlib payload with
    | none => s.handleClose
    | some m =>
      let s := { s with received := s.received ++ [m] }
      if throws then s.handleClose
      else if s.stopped = false ∧ s.backpressureActive = false then
        { s with posted := s.posted ++ [.readNext] }
      else s

/-- The completion of `do_write` for the packet at the front of the queue. -/
def onWritten (front : PendingWrite) (queue : List PendingWrite) : Session :=
  let s := { s with
    queuedWriteBytes := s.queuedWriteBytes - front.packet.length
    sent := s.sent ++ [front]
    writeQueue := queue
    frontSlot := s.frontSlot + 1
    writing := false }
  let s := s.resumeIfPaused
  if queue = [] then s else s.doWrite

/-- The calls and completions. -/
inductive SessionAction
  /-- A call of `send`. -/
  | send (message : PacketMessage) (highPriority : Bool)
  /-- A call of `send_batch`. -/
  | sendBatch (messages : List PacketMessage)
  /-- A call of `stop`. -/
  | stop
  /-- The `i`-th posted lambda runs. -/
  | run (i : ℕ)
  /-- The `i`-th outstanding read, of a length, completes. -/
  | headerDone (i : ℕ) (header : Option (Vector UInt8 4))
  /-- The `i`-th outstanding read, of a body, completes. -/
  | bodyDone (i : ℕ) (throws : Bool) (payload : Option Bytes)
  /-- The outstanding write completes, with an error or with the whole packet written. -/
  | writeDone (written : Bool)
  /-- The heartbeat timer finds the session idle for too long. -/
  | heartbeatTimeout

def step : SessionAction → Option Session
  | .send message highPriority =>
    some { s with posted := s.posted ++ [.enqueueWrite message highPriority] }
  | .sendBatch messages =>
    some (if messages = [] then s else { s with posted := s.posted ++ [.sendBatch messages] })
  | .stop => some { s with posted := s.posted ++ [.stop] }
  | .run i =>
    match s.posted[i]? with
    | none => none
    | some t => some ({ s with posted := s.posted.eraseIdx i }.runTask zlib t)
  | .headerDone i header =>
    match s.reads[i]? with
    | some .header => some ({ s with reads := s.reads.eraseIdx i }.onHeader header)
    | _ => none
  | .bodyDone i throws payload =>
    match s.reads[i]? with
    | some (.body length) =>
      if payload.all (·.length = length.toNat) then
        some ({ s with reads := s.reads.eraseIdx i }.onBody zlib throws payload)
      else none
    | _ => none
  | .writeDone written =>
    match s.writing, s.writeQueue with
    | true, front :: queue =>
      some (if written then s.onWritten front queue else { s with writing := false }.handleClose)
    | _, _ => none
  | .heartbeatTimeout => some s.handleClose

/-- The sessions reached from a start by calls and handlers that meet `ok`. -/
def Reaches (ok : Session → SessionAction → Prop) : Session → Prop :=
  BoostGateway.Reaches (fun s => ∃ options movesBefore, s = { options, movesBefore }) (step zlib) ok

/-- At most one read is outstanding, and reading goes on unless the session is paused or
stopped. -/
structure SingleRead (s : Session) : Prop where
  single : s.reads.length ≤ 1
  resumed : s.stopped = false → s.backpressureActive = false →
    s.reads ≠ [] ∨ .readNext ∈ s.posted

/-- The outstanding write, completing, ends the backpressure of an open session. -/
def EndsBackpressure : Prop :=
  s.stopped = false ∧ s.backpressureActive = true ∧
    s.queuedWriteBytes - (s.writeQueue.headD ⟨{}, [], false⟩).packet.length ≤ s.options.lowWater

/-- A write ends backpressure only after reading has paused : no read is outstanding, and
none is posted. -/
def PausedBefore : SessionAction → Prop
  | .writeDone true => s.EndsBackpressure → s.reads = [] ∧ .readNext ∉ s.posted
  | _ => True

instance (s : Session) : Decidable s.EndsBackpressure :=
  inferInstanceAs (Decidable (_ ∧ _ ∧ _))

instance (s : Session) (a : SessionAction) : Decidable (s.PausedBefore a) :=
  match a with
  | .writeDone true => inferInstanceAs (Decidable (_ → _))
  | .writeDone false | .send .. | .sendBatch .. | .stop | .run .. | .headerDone ..
  | .bodyDone .. | .heartbeatTimeout => isTrue trivial

/-! ## The reads that are pending -/

/-- The outstanding reads and the ones about to be issued. -/
def pendingReads : ℕ := s.reads.length + s.posted.count .readNext

/-- At most one read is pending, and exactly one where the session is open and not
paused. -/
structure Inv (s : Session) : Prop where
  atMostOne : s.pendingReads ≤ 1
  resumed : s.stopped = false → s.backpressureActive = false → s.pendingReads = 1

theorem Inv.singleRead {s : Session} (h : Inv s) : SingleRead s := by
  constructor
  · exact Nat.le_trans (Nat.le_add_right _ _) h.atMostOne
  · intro hopen hactive
    have hone := h.resumed hopen hactive
    by_cases hreads : s.reads = []
    · right
      rw [← List.count_pos_iff]
      simp only [pendingReads, hreads, List.length_nil] at hone
      omega
    · exact .inl hreads

/-- A handler that leaves the pending reads alone, and neither reopens the session nor ends
backpressure. -/
structure KeepsReading (s s' : Session) : Prop where
  pending : s'.pendingReads = s.pendingReads
  stopped : s.stopped = true → s'.stopped = true
  active : s.backpressureActive = true → s'.backpressureActive = true

theorem Inv.keep {s s' : Session} (h : Inv s) (hk : KeepsReading s s') : Inv s' := by
  refine ⟨hk.pending ▸ h.atMostOne, fun hopen hactive => ?_⟩
  rw [hk.pending]
  refine h.resumed ?_ ?_
  · exact Bool.eq_false_iff.mpr fun hs => by simp [hk.stopped hs] at hopen
  · exact Bool.eq_false_iff.mpr fun hs => by simp [hk.active hs] at hactive

theorem KeepsReading.trans {s₁ s₂ s₃ : Session} (h₁ : KeepsReading s₁ s₂)
    (h₂ : KeepsReading s₂ s₃) : KeepsReading s₁ s₃ :=
  ⟨h₂.pending.trans h₁.pending, fun h => h₂.stopped (h₁.stopped h),
    fun h => h₂.active (h₁.active h)⟩

theorem keepsReading_handleClose : KeepsReading s s.handleClose :=
  ⟨rfl, fun _ => rfl, id⟩

theorem keepsReading_checkBackpressure : KeepsReading s s.checkBackpressure := by
  unfold checkBackpressure
  split_ifs
  · exact ⟨rfl, id, fun _ => rfl⟩
  · exact ⟨rfl, id, id⟩

theorem keepsReading_post {t : Task} (ht : t ≠ .readNext) :
    KeepsReading s { s with posted := s.posted ++ [t] } := by
  refine ⟨?_, id, id⟩
  simp [pendingReads, List.count_append, ht]

theorem keepsReading_enqueue (w : PendingWrite) : KeepsReading s (s.enqueue w) := by
  unfold enqueue
  split_ifs
  · exact keepsReading_handleClose s
  · exact keepsReading_handleClose s
  · have hcheck : ∀ s₂, KeepsReading s s₂ → KeepsReading s s₂.checkBackpressure :=
      fun s₂ hk => hk.trans (keepsReading_checkBackpressure s₂)
    have hwrite : ∀ s₂, KeepsReading s s₂ → KeepsReading s s₂.doWrite :=
      fun s₂ hk => hk.trans ⟨rfl, id, id⟩
    cases s.writeQueue != [] with
    | true => exact hcheck _ ⟨rfl, id, id⟩
    | false => exact hwrite _ (hcheck _ ⟨rfl, id, id⟩)

/-- Taking a lambda off the strand. -/
theorem count_eraseIdx_posted {posted : List Task} {i : ℕ} {t : Task} (h : posted[i]? = some t) :
    posted.count .readNext =
      (posted.eraseIdx i).count .readNext + if t = .readNext then 1 else 0 := by
  obtain ⟨hi, rfl⟩ := List.getElem?_eq_some_iff.mp h
  rw [← (List.getElem_cons_eraseIdx_perm hi).count_eq, List.count_cons]
  simp

theorem length_eraseIdx_reads {reads : List ReadOp} {i : ℕ} {r : ReadOp} (h : reads[i]? = some r) :
    reads.length = (reads.eraseIdx i).length + 1 := by
  obtain ⟨hi, -⟩ := List.getElem?_eq_some_iff.mp h
  rw [List.length_eraseIdx_of_lt hi]
  omega

theorem Inv.run {s : Session} (h : Inv s) {i : ℕ} {t : Task} (ht : s.posted[i]? = some t) :
    Inv ({ s with posted := s.posted.eraseIdx i }.runTask zlib t) := by
  have hcount := count_eraseIdx_posted ht
  by_cases hnext : t = .readNext
  · subst hnext
    have hle := h.atMostOne
    simp only [pendingReads] at hle
    simp only [if_true] at hcount
    simp only [runTask]
    split_ifs with hopen
    · refine ⟨?_, fun _ _ => ?_⟩
      · simp only [pendingReads, doReadHeader, List.length_cons]
        omega
      · simp only [pendingReads, doReadHeader, List.length_cons]
        omega
    · refine ⟨?_, fun h₁ h₂ => absurd ⟨h₁, h₂⟩ hopen⟩
      simp only [pendingReads]
      omega
  · simp only [hnext, if_false, Nat.add_zero] at hcount
    have hk : KeepsReading s { s with posted := s.posted.eraseIdx i } :=
      ⟨by simp only [pendingReads, hcount], id, id⟩
    refine h.keep (hk.trans ?_)
    cases t with
    | enqueueWrite message highPriority =>
      simp only [runTask]
      split_ifs
      · exact ⟨rfl, id, id⟩
      · exact keepsReading_enqueue _ _
    | sendBatch messages =>
      simp only [runTask]
      split_ifs
      · exact ⟨rfl, id, id⟩
      · exact keepsReading_enqueue _ _
    | stop => exact keepsReading_handleClose _
    | readNext => exact absurd rfl hnext

/-- A read that completes is gone; a session that closes then needs no other. -/
theorem Inv.closed_of_read {s s' : Session} (h : Inv s) (hs : s'.stopped = true)
    (hreads : s'.pendingReads + 1 = s.pendingReads) : Inv s' := by
  have hle := h.atMostOne
  refine ⟨by omega, fun hopen _ => ?_⟩
  simp [hs] at hopen

theorem Inv.header {s : Session} (h : Inv s) {i : ℕ} {r : ReadOp} (hr : s.reads[i]? = some r)
    (header : Option (Vector UInt8 4)) :
    Inv ({ s with reads := s.reads.eraseIdx i }.onHeader header) := by
  have hlen := length_eraseIdx_reads hr
  have hclose : Inv { s with reads := s.reads.eraseIdx i }.handleClose := by
    refine h.closed_of_read rfl ?_
    simp only [pendingReads, handleClose]
    omega
  unfold onHeader
  cases header with
  | none => exact hclose
  | some header =>
    dsimp only
    split_ifs
    · exact hclose
    · exact hclose
    · refine h.keep ⟨?_, id, id⟩
      simp only [pendingReads, doReadBody, List.length_cons]
      omega

theorem Inv.body {s : Session} (h : Inv s) {i : ℕ} {r : ReadOp} (hr : s.reads[i]? = some r)
    (throws : Bool) (payload : Option Bytes) :
    Inv ({ s with reads := s.reads.eraseIdx i }.onBody zlib throws payload) := by
  have hlen := length_eraseIdx_reads hr
  have hclose : ∀ received,
      Inv { s with reads := s.reads.eraseIdx i, received := received }.handleClose := by
    intro received
    refine h.closed_of_read rfl ?_
    simp only [pendingReads, handleClose]
    omega
  unfold onBody
  cases payload with
  | none => exact hclose s.received
  | some payload =>
    dsimp only
    cases decodePacket zlib payload with
    | none => exact hclose s.received
    | some m =>
      dsimp only
      split_ifs with hthrows hopen
      · exact hclose _
      · refine h.keep ⟨?_, id, id⟩
        simp only [pendingReads, List.count_append, List.count_singleton_self]
        omega
      · have hle := h.atMostOne
        simp only [pendingReads] at hle
        refine ⟨?_, fun h₁ h₂ => absurd ⟨h₁, h₂⟩ hopen⟩
        simp only [pendingReads]
        omega

/-- Reading goes on exactly where the write ends the backpressure of an open session. -/
theorem Inv.resume {s : Session} (h : Inv s) (hp : s.stopped = false →
    s.backpressureActive = true → s.queuedWriteBytes ≤ s.options.lowWater → s.pendingReads = 0) :
    Inv s.resumeIfPaused := by
  unfold resumeIfPaused
  split_ifs with hactive hlow
  · exact h
  · dsimp only
    split_ifs with hs
    · exact ⟨h.atMostOne, fun hopen => by simp [hs] at hopen⟩
    · have hzero := hp (by simpa using hs) (by simpa using hactive) hlow
      have hone : (doReadHeader { s with backpressureActive := false }).pendingReads = 1 := by
        simp only [pendingReads] at hzero
        simp only [pendingReads, doReadHeader, List.length_cons]
        omega
      exact ⟨Nat.le_of_eq hone, fun _ _ => hone⟩
  · exact h

theorem Inv.written {s : Session} (h : Inv s) {front : PendingWrite} {queue : List PendingWrite}
    (hq : s.writeQueue = front :: queue) (hp : s.PausedBefore (.writeDone true)) :
    Inv (s.onWritten front queue) := by
  have hresume : Inv (resumeIfPaused { s with
      queuedWriteBytes := s.queuedWriteBytes - front.packet.length
      sent := s.sent ++ [front]
      writeQueue := queue
      frontSlot := s.frontSlot + 1
      writing := false }) := by
    refine Inv.resume (h.keep ⟨rfl, id, id⟩) fun hopen hactive hlow => ?_
    obtain ⟨hreads, hposted⟩ := hp ⟨hopen, hactive, by simpa [hq] using hlow⟩
    simp [pendingReads, hreads, List.count_eq_zero.mpr hposted]
  unfold onWritten
  dsimp only
  split_ifs
  · exact hresume
  · exact hresume.keep ⟨rfl, id, id⟩

theorem Inv.step {s s' : Session} {a : SessionAction} (h : Inv s) (hp : s.PausedBefore a)
    (hs : s.step zlib a = some s') : Inv s' := by
  cases a with
  | send message highPriority =>
    obtain rfl := Option.some_inj.mp hs
    exact h.keep (keepsReading_post s (by simp))
  | sendBatch messages =>
    obtain rfl := Option.some_inj.mp hs
    split_ifs
    · exact h
    · exact h.keep (keepsReading_post s (by simp))
  | stop =>
    obtain rfl := Option.some_inj.mp hs
    exact h.keep (keepsReading_post s (by simp))
  | run i =>
    simp only [Session.step] at hs
    split at hs
    next => simp at hs
    next t ht =>
      obtain rfl := Option.some_inj.mp hs
      exact h.run zlib ht
  | headerDone i header =>
    simp only [Session.step] at hs
    split at hs
    next hr =>
      obtain rfl := Option.some_inj.mp hs
      exact h.header hr header
    next => simp at hs
  | bodyDone i throws payload =>
    simp only [Session.step] at hs
    split at hs
    next length hr =>
      split_ifs at hs
      obtain rfl := Option.some_inj.mp hs
      exact h.body zlib hr throws payload
    next => simp at hs
  | writeDone written =>
    simp only [Session.step] at hs
    split at hs
    next front queue hw hq =>
      obtain rfl := Option.some_inj.mp hs
      cases written with
      | true => exact h.written hq hp
      | false => exact h.keep ⟨rfl, fun _ => rfl, id⟩
    next => simp at hs
  | heartbeatTimeout =>
    obtain rfl := Option.some_inj.mp hs
    exact h.keep (keepsReading_handleClose s)

/-- Reads are single in every run in which backpressure ends only after reading has
paused. -/
theorem single_read {s : Session} (h : Reaches zlib PausedBefore s) : SingleRead s := by
  have hi : Inv s := by
    refine h.invariant ?_ fun s a s' hi hp hs => hi.step zlib hp hs
    rintro s ⟨options, movesBefore, rfl⟩
    exact ⟨by simp [pendingReads], fun _ _ => by simp [pendingReads]⟩
  exact hi.singleRead

/-- Watermarks of twenty and of ten bytes, less than a packet. -/
def tight : SessionOptions where
  maxPendingWriteBytes := 40
  highWater := 20
  lowWater := 10

/-- A packet without a body is read, an answer with one of a byte is queued and starts
backpressure before reading goes on, and reading resumes once the answer is written. -/
theorem single_read_tight : ∃ s, Reaches none PausedBefore s ∧ s.received.length = 1 ∧
    s.sent.length = 1 ∧ s.reads = [.header] ∧ SingleRead s := by
  obtain ⟨s, hr, hrec, hsent, hreads⟩ : ∃ s, Reaches none PausedBefore s ∧
      s.received.length = 1 ∧ s.sent.length = 1 ∧ s.reads = [.header] :=
    Reaches.exists_runWith (.init ⟨tight, fun _ _ => true, rfl⟩)
      [.headerDone 0 (some #v[0, 0, 0, 16]), .send { body := [0] } false,
        .bodyDone 0 false (some (List.replicate 16 0)), .run 0, .run 0, .writeDone true]
      (by decide +kernel)
  exact ⟨s, hr, hrec, hsent, hreads, single_read none hr⟩

/-- A packet is sent to a client that is silent : the read of the next length is still
outstanding when the write ends backpressure, and a second one is issued. -/
theorem not_single_read :
    ∃ s, Reaches none (fun _ _ => True) s ∧ s.reads = [.header, .header] ∧ ¬SingleRead s := by
  obtain ⟨s, hr, hreads⟩ : ∃ s, Reaches none (fun _ _ => True) s ∧
      s.reads = [.header, .header] :=
    Reaches.exists_runWith (.init ⟨tight, fun _ _ => true, rfl⟩)
      [.send { body := [0] } false, .run 0, .writeDone true] (by decide +kernel)
  refine ⟨s, hr, hreads, fun hsingle => ?_⟩
  have := hsingle.single
  simp [hreads] at this

end Session

end BoostGateway.Net
