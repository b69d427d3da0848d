import BoostGateway.Net.Session
import Mathlib

/-!
# The write queue of a session : order and size

Normal packets are queued at the end and high-priority packets in the middle, behind the
packet that is being written. `SessionLog` : a session beside the packets of the calls made
and of the lambdas that ran, in order. `Session.WriteQueue` : on an open session the packets
written and the queued ones are those of the lambdas that ran, in that order among the
normal and among the high-priority ones; the packet being written stays at the front, in the
slot that `async_write` was given, until its write completes; `queued_write_bytes_` is the size
of the queue.

The order starts behind the front, but `insert` may move the front as well : a deque moves the
elements on the shorter side of the place. `SessionLog.written_in_order` : every run in which
no packet is put where the front is moved has the queue so, and where the strand runs the
lambdas in the order in which they were posted, that order is the one of the calls.
-/

namespace BoostGateway.Net

variable (zlib : Option Zlib)

/-- The packet that a lambda puts in the write queue. -/
def Task.packet : Task → Option PendingWrite
  | .enqueueWrite message highPriority =>
    some { message, packet := encode (compress zlib message), highPriority }
  | .sendBatch messages =>
    let messages := messages.map (compress zlib)
    some { message := messages.getLastD {}, packet := messages.flatMap encode }
  | .stop | .readNext => none

/-- The lambda that a call of `send` or `send_batch` posts. -/
def Session.SessionAction.call : SessionAction → Option Task
  | .send message highPriority => some (.enqueueWrite message highPriority)
  | .sendBatch messages => if messages = [] then none else some (.sendBatch messages)
  | .stop | .run _ | .headerDone .. | .bodyDone .. | .writeDone _ | .heartbeatTimeout => none

/-- The lambda that runs on the strand. -/
def Session.SessionAction.task (s : Session) : SessionAction → Option Task
  | .run i => s.posted[i]?
  | .send .. | .sendBatch _ | .stop | .headerDone .. | .bodyDone .. | .writeDone _
  | .heartbeatTimeout => none

/-- A session, the packets of the calls made and those of the lambdas that ran. -/
structure SessionLog where
  session : Session
  called : List PendingWrite := []
  ran : List PendingWrite := []

namespace Session

/-- The strand runs what is posted to it in order. -/
def StrandOrder (_ : SessionLog) : SessionAction → Prop
  | .run i => i = 0
  | .send .. | .sendBatch _ | .stop | .headerDone .. | .bodyDone .. | .writeDone _
  | .heartbeatTimeout => True

instance (l : SessionLog) (a : SessionAction) : Decidable (StrandOrder l a) :=
  match a with
  | .run i => inferInstanceAs (Decidable (i = 0))
  | .send .. | .sendBatch _ | .stop | .headerDone .. | .bodyDone .. | .writeDone _
  | .heartbeatTimeout => isTrue trivial

/-- `enqueue_write` or `send_batch` puts the packet in the queue. -/
def Takes (s : Session) (w : PendingWrite) : Prop :=
  s.stopped = false ∧ w.packet.length ≤ kLengthHeaderSize + s.options.maxPacketSize.toNat ∧
    s.queuedWriteBytes + w.packet.length ≤ s.options.maxPendingWriteBytes

instance (s : Session) (w : PendingWrite) : Decidable (s.Takes w) :=
  inferInstanceAs (Decidable (_ ∧ _ ∧ _))

/-- No packet is put in the middle of the queue where that moves the front. -/
def FrontStays (s : Session) (a : SessionAction) : Prop :=
  ∀ w ∈ (a.task s).bind (Task.packet zlib), s.Takes w → s.movesFront w = false

instance (s : Session) (a : SessionAction) : Decidable (FrontStays zlib s a) :=
  inferInstanceAs (Decidable (∀ w ∈ (a.task s).bind (Task.packet zlib), _))

end Session

namespace SessionLog

open Session

def step (l : SessionLog) (a : SessionAction) : Option SessionLog :=
  (l.session.step zlib a).map fun s =>
    { session := s
      called := l.called ++ (a.call.bind (Task.packet zlib)).toList
      ran := l.ran ++ ((a.task l.session).bind (Task.packet zlib)).toList }

/-- The logs reached from the start of a session by calls and handlers that meet `ok`. -/
def Reaches (ok : SessionLog → SessionAction → Prop) : SessionLog → Prop :=
  BoostGateway.Reaches (fun l => ∃ options movesBefore,
    l = { session := { options, movesBefore } }) (step zlib) ok

end SessionLog

namespace Session

/-- The same packets, in the same order among the normal and among the high-priority
ones. -/
structure SameOrder (ws ws' : List PendingWrite) : Prop where
  normal : ws.filter (!·.highPriority) = ws'.filter (!·.highPriority)
  high : ws.filter (·.highPriority) = ws'.filter (·.highPriority)

/-- A step with an outstanding write leaves its packet at the front, unless the write
completes, and then it is the next packet written. -/
structure KeepsFront (s s' : Session) (a : SessionAction) : Prop where
  kept : a ≠ .writeDone true → s.writing = true → s'.writeQueue.head? = s.writeQueue.head? ∧
    s'.sent = s.sent ∧ (a ≠ .writeDone false → s'.writing = true)
  written : a = .writeDone true →
    ∃ front, s.writing = true ∧ s.writeQueue = front :: s'.writeQueue ∧ s'.sent = s.sent ++ [front]

/-- The write queue of a session whose lambdas ran with the packets `ran`. -/
structure WriteQueue (s : Session) (ran : List PendingWrite) : Prop where
  inOrder : s.stopped = false → SameOrder (s.sent ++ s.writeQueue) ran
  once : s.stopped = false → (s.sent ++ s.writeQueue).Perm ran
  /-- What a session that was closed has written or queued was accepted before. -/
  closed : ∃ accepted, accepted <+: ran ∧ SameOrder (s.sent ++ s.writeQueue) accepted
  front : ∀ a s', s.step zlib a = some s' → KeepsFront s s' a
  /-- The packet being written is where it was when the write began. -/
  inPlace : s.writing = true → s.writeSlot = s.frontSlot
  writing : s.stopped = false → (s.writing = true ↔ s.writeQueue ≠ [])
  bytes : s.queuedWriteBytes = (s.writeQueue.map (·.packet.length)).sum
  bound : s.queuedWriteBytes ≤ s.options.maxPendingWriteBytes

/-! ## What a step does to the writes -/

/-- The writes are left alone; a session that closes stays closed. -/
structure KeepsWrites (s s' : Session) : Prop where
  options : s'.options = s.options
  sent : s'.sent = s.sent
  writeQueue : s'.writeQueue = s.writeQueue
  writing : s'.writing = s.writing
  queuedWriteBytes : s'.queuedWriteBytes = s.queuedWriteBytes
  stopped : s.stopped = true → s'.stopped = true
  frontSlot : s'.frontSlot = s.frontSlot
  writeSlot : s'.writeSlot = s.writeSlot

/-- `w` is queued. -/
structure Queues (s s' : Session) (w : PendingWrite) : Prop where
  taken : s.Takes w
  options : s'.options = s.options
  sent : s'.sent = s.sent
  writeQueue : s'.writeQueue =
    if w.highPriority && s.writeQueue != [] then insertHighPriority s.writeQueue w
    else s.writeQueue ++ [w]
  writing : s'.writing = (s.writing || s.writeQueue == [])
  queuedWriteBytes : s'.queuedWriteBytes = s.queuedWriteBytes + w.packet.length
  stopped : s'.stopped = false
  frontSlot : s'.frontSlot = s.frontSlot - (s.movesFront w).toNat
  writeSlot : s'.writeSlot = if s.writeQueue = [] then s'.frontSlot else s.writeSlot

/-- The write of the front completes. -/
structure Completes (s s' : Session) : Prop where
  outstanding : s.writing = true
  options : s'.options = s.options
  front : ∃ front, s.writeQueue = front :: s'.writeQueue ∧ s'.sent = s.sent ++ [front] ∧
    s'.queuedWriteBytes = s.queuedWriteBytes - front.packet.length
  writing : s'.writing = (s'.writeQueue != [])
  stopped : s'.stopped = s.stopped
  inPlace : s'.writing = true → s'.writeSlot = s'.frontSlot

variable (s : Session)

theorem KeepsWrites.refl : KeepsWrites s s := ⟨rfl, rfl, rfl, rfl, rfl, id, rfl, rfl⟩

theorem KeepsWrites.trans {s₁ s₂ s₃ : Session} (h₁ : KeepsWrites s₁ s₂) (h₂ : KeepsWrites s₂ s₃) :
    KeepsWrites s₁ s₃ :=
  ⟨h₂.options.trans h₁.options, h₂.sent.trans h₁.sent, h₂.writeQueue.trans h₁.writeQueue,
    h₂.writing.trans h₁.writing, h₂.queuedWriteBytes.trans h₁.queuedWriteBytes,
    fun h => h₂.stopped (h₁.stopped h), h₂.frontSlot.trans h₁.frontSlot,
    h₂.writeSlot.trans h₁.writeSlot⟩

theorem keepsWrites_reads (reads : List ReadOp) : KeepsWrites s { s with reads } :=
  ⟨rfl, rfl, rfl, rfl, rfl, id, rfl, rfl⟩

theorem keepsWrites_posted (posted : List Task) : KeepsWrites s { s with posted } :=
  ⟨rfl, rfl, rfl, rfl, rfl, id, rfl, rfl⟩

theorem keepsWrites_handleClose : KeepsWrites s s.handleClose :=
  ⟨rfl, rfl, rfl, rfl, rfl, fun _ => rfl, rfl, rfl⟩

theorem keepsWrites_checkBackpressure : KeepsWrites s s.checkBackpressure := by
  unfold checkBackpressure
  split_ifs
  · exact ⟨rfl, rfl, rfl, rfl, rfl, id, rfl, rfl⟩
  · exact .refl s

theorem keepsWrites_resumeIfPaused : KeepsWrites s s.resumeIfPaused := by
  unfold resumeIfPaused
  split_ifs
  · exact .refl s
  · dsimp only
    split_ifs
    · exact ⟨rfl, rfl, rfl, rfl, rfl, id, rfl, rfl⟩
    · exact ⟨rfl, rfl, rfl, rfl, rfl, id, rfl, rfl⟩
  · exact .refl s

theorem stopped_checkBackpressure : s.checkBackpressure.stopped = s.stopped := by
  unfold checkBackpressure
  split_ifs <;> rfl

theorem stopped_resumeIfPaused : s.resumeIfPaused.stopped = s.stopped := by
  unfold resumeIfPaused
  split_ifs
  · rfl
  · dsimp only
    split_ifs <;> rfl
  · rfl

/-- A packet is queued, or the session closes. -/
theorem enqueue_cases {s : Session} (hopen : s.stopped = false) (w : PendingWrite) :
    Queues s (s.enqueue w) w ∨ s.enqueue w = s.handleClose := by
  unfold enqueue
  split_ifs with hlarge hfull
  · exact .inr rfl
  · exact .inr rfl
  · left
    dsimp only
    have hk := keepsWrites_checkBackpressure { s with
      queuedWriteBytes := s.queuedWriteBytes + w.packet.length
      peakWriteBytes := max s.peakWriteBytes (s.queuedWriteBytes + w.packet.length)
      writeQueue :=
        if w.highPriority && s.writeQueue != [] then insertHighPriority s.writeQueue w
        else s.writeQueue ++ [w]
      frontSlot := s.frontSlot - (s.movesFront w).toNat }
    have hstopped := stopped_checkBackpressure { s with
      queuedWriteBytes := s.queuedWriteBytes + w.packet.length
      peakWriteBytes := max s.peakWriteBytes (s.queuedWriteBytes + w.packet.length)
      writeQueue :=
        if w.highPriority && s.writeQueue != [] then insertHighPriority s.writeQueue w
        else s.writeQueue ++ [w]
      frontSlot := s.frontSlot - (s.movesFront w).toNat }
    have htaken : s.Takes w := ⟨hopen, by omega, by omega⟩
    cases hq : s.writeQueue with
    | nil =>
      simp only [hq] at hk hstopped
      exact ⟨htaken, hk.options, hk.sent, hk.writeQueue.trans (by simp [hq]),
        by simp [hq, doWrite], hk.queuedWriteBytes, hstopped.trans hopen, hk.frontSlot,
        by rw [if_pos hq]; rfl⟩
    | cons front queue =>
      simp only [hq] at hk hstopped
      exact ⟨htaken, hk.options, hk.sent, by simpa [hq] using hk.writeQueue,
        by simpa [hq] using hk.writing, hk.queuedWriteBytes, hstopped.trans hopen, hk.frontSlot,
        by rw [hq, if_neg (List.cons_ne_nil _ _)]; exact hk.writeSlot⟩

theorem runTask_of_packet {s : Session} (hopen : s.stopped = false) {t : Task} {w : PendingWrite}
    (ht : t.packet zlib = some w) : s.runTask zlib t = s.enqueue w := by
  cases t with
  | enqueueWrite message highPriority =>
    obtain rfl := Option.some_inj.mp ht
    simp [runTask, hopen]
  | sendBatch messages =>
    obtain rfl := Option.some_inj.mp ht
    simp [runTask, hopen]
  | stop => simp [Task.packet] at ht
  | readNext => simp [Task.packet] at ht

/-- A lambda that runs queues its packet, or leaves the writes alone. -/
theorem runTask_cases (t : Task) :
    (∃ w, t.packet zlib = some w ∧ Queues s (s.runTask zlib t) w) ∨
      KeepsWrites s (s.runTask zlib t) ∧
        ((s.runTask zlib t).stopped = false → t.packet zlib = none) := by
  cases hs : s.stopped with
  | true =>
    right
    have hkept : KeepsWrites s (s.runTask zlib t) := by
      cases t with
      | enqueueWrite => simpa [runTask, hs] using .refl s
      | sendBatch => simpa [runTask, hs] using .refl s
      | stop => exact keepsWrites_handleClose s
      | readNext => simpa [runTask, hs] using .refl s
    refine ⟨hkept, fun hopen => ?_⟩
    simp [hkept.stopped hs] at hopen
  | false =>
    cases ht : t.packet zlib with
    | some w =>
      rw [runTask_of_packet zlib hs ht]
      obtain hq | hclose := enqueue_cases hs w
      · exact .inl ⟨w, rfl, hq⟩
      · rw [hclose]
        exact .inr ⟨keepsWrites_handleClose s, fun hopen => by simp [handleClose] at hopen⟩
    | none =>
      refine .inr ⟨?_, fun _ => rfl⟩
      cases t with
      | enqueueWrite => simp [Task.packet] at ht
      | sendBatch => simp [Task.packet] at ht
      | stop => exact keepsWrites_handleClose s
      | readNext =>
        simp only [runTask]
        split_ifs
        · exact ⟨rfl, rfl, rfl, rfl, rfl, id, rfl, rfl⟩
        · exact .refl s

theorem keepsWrites_onHeader (header : Option (Vector UInt8 4)) :
    KeepsWrites s (s.onHeader header) := by
  unfold onHeader
  cases header with
  | none => exact keepsWrites_handleClose s
  | some header =>
    dsimp only
    split_ifs
    · exact keepsWrites_handleClose s
    · exact keepsWrites_handleClose s
    · exact ⟨rfl, rfl, rfl, rfl, rfl, id, rfl, rfl⟩

theorem keepsWrites_onBody (throws : Bool) (payload : Option Bytes) :
    KeepsWrites s (s.onBody zlib throws payload) := by
  unfold onBody
  cases payload with
  | none => exact keepsWrites_handleClose s
  | some payload =>
    dsimp only
    cases decodePacket zlib payload with
    | none => exact keepsWrites_handleClose s
    | some m =>
      dsimp only
      split_ifs
      · exact ⟨rfl, rfl, rfl, rfl, rfl, fun _ => rfl, rfl, rfl⟩
      · exact ⟨rfl, rfl, rfl, rfl, rfl, id, rfl, rfl⟩
      · exact ⟨rfl, rfl, rfl, rfl, rfl, id, rfl, rfl⟩

theorem completes_onWritten {s : Session} {front : PendingWrite} {queue : List PendingWrite}
    (hw : s.writing = true) (hq : s.writeQueue = front :: queue) :
    Completes s (s.onWritten front queue) := by
  have hk := keepsWrites_resumeIfPaused { s with
    queuedWriteBytes := s.queuedWriteBytes - front.packet.length
    sent := s.sent ++ [front]
    writeQueue := queue
    frontSlot := s.frontSlot + 1
    writing := false }
  have hstopped := stopped_resumeIfPaused { s with
    queuedWriteBytes := s.queuedWriteBytes - front.packet.length
    sent := s.sent ++ [front]
    writeQueue := queue
    frontSlot := s.frontSlot + 1
    writing := false }
  unfold onWritten
  dsimp only
  split_ifs with hempty
  · refine ⟨hw, hk.options, ⟨front, ?_, hk.sent, hk.queuedWriteBytes⟩, ?_, hstopped,
      fun hwriting => ?_⟩
    · rw [hk.writeQueue, hq]
    · rw [hk.writing, hk.writeQueue, hempty]
      rfl
    · rw [hk.writing] at hwriting
      cases hwriting
  · refine ⟨hw, hk.options, ⟨front, ?_, hk.sent, hk.queuedWriteBytes⟩, ?_, hstopped,
      fun _ => rfl⟩
    · exact hq.trans (congrArg (front :: ·) hk.writeQueue.symm)
    · simp only [doWrite, hk.writeQueue]
      simp [hempty]

/-- What a step does to the writes : it queues the packet of the lambda that runs, completes
the outstanding write, or leaves the queue alone. -/
theorem step_cases {s s' : Session} {a : SessionAction} (hs : s.step zlib a = some s') :
    (∃ w, (a.task s).bind (Task.packet zlib) = some w ∧ a ≠ .writeDone true ∧ Queues s s' w) ∨
    (a = .writeDone true ∧ Completes s s') ∨
    (a = .writeDone false ∧ KeepsWrites { s with writing := false } s' ∧ s'.stopped = true) ∨
    (a ≠ .writeDone true ∧ KeepsWrites s s' ∧
      (s'.stopped = false → (a.task s).bind (Task.packet zlib) = none)) := by
  cases a with
  | send message highPriority =>
    obtain rfl := Option.some_inj.mp hs
    exact .inr (.inr (.inr ⟨by simp, keepsWrites_posted s _, fun _ => rfl⟩))
  | sendBatch messages =>
    obtain rfl := Option.some_inj.mp hs
    refine .inr (.inr (.inr ⟨by simp, ?_, fun _ => rfl⟩))
    split_ifs
    · exact .refl s
    · exact keepsWrites_posted s _
  | stop =>
    obtain rfl := Option.some_inj.mp hs
    exact .inr (.inr (.inr ⟨by simp, keepsWrites_posted s _, fun _ => rfl⟩))
  | run i =>
    simp only [step] at hs
    split at hs
    next => simp at hs
    next t ht =>
      obtain rfl := Option.some_inj.mp hs
      simp only [SessionAction.task, ht, Option.bind_some]
      obtain ⟨w, hw, hq⟩ | ⟨hk, hnone⟩ :=
        runTask_cases zlib { s with posted := s.posted.eraseIdx i } t
      · exact .inl ⟨w, hw, by simp, ⟨hq.taken, hq.options, hq.sent, hq.writeQueue, hq.writing,
          hq.queuedWriteBytes, hq.stopped, hq.frontSlot, hq.writeSlot⟩⟩
      · exact .inr (.inr (.inr ⟨by simp, (keepsWrites_posted s _).trans hk, hnone⟩))
  | headerDone i header =>
    refine .inr (.inr (.inr ⟨by simp, ?_, fun _ => rfl⟩))
    simp only [step] at hs
    split at hs
    next hr =>
      obtain rfl := Option.some_inj.mp hs
      exact (keepsWrites_reads s _).trans (keepsWrites_onHeader _ header)
    next => simp at hs
  | bodyDone i throws payload =>
    refine .inr (.inr (.inr ⟨by simp, ?_, fun _ => rfl⟩))
    simp only [step] at hs
    split at hs
    next length hr =>
      split_ifs at hs
      obtain rfl := Option.some_inj.mp hs
      exact (keepsWrites_reads s _).trans (keepsWrites_onBody zlib _ throws payload)
    next => simp at hs
  | writeDone written =>
    simp only [step] at hs
    split at hs
    next front queue hw hq =>
      obtain rfl := Option.some_inj.mp hs
      cases written with
      | true => exact .inr (.inl ⟨rfl, completes_onWritten hw hq⟩)
      | false => exact .inr (.inr (.inl ⟨rfl, keepsWrites_handleClose _, rfl⟩))
    next => simp at hs
  | heartbeatTimeout =>
    obtain rfl := Option.some_inj.mp hs
    exact .inr (.inr (.inr ⟨by simp, keepsWrites_handleClose s, fun _ => rfl⟩))

/-! ## Order -/

variable {ws : List PendingWrite}

theorem SameOrder.perm {ws' : List PendingWrite} (h : SameOrder ws ws') : ws.Perm ws' := by
  have hparts := List.filter_append_perm (·.highPriority) ws
  rw [h.high, h.normal] at hparts
  exact hparts.symm.trans (List.filter_append_perm _ ws')

theorem SameOrder.append {ws' : List PendingWrite} (h : SameOrder ws ws') (w : PendingWrite) :
    SameOrder (ws ++ [w]) (ws' ++ [w]) :=
  ⟨by simp only [List.filter_append, h.normal], by simp only [List.filter_append, h.high]⟩

/-- High-priority packets stand before the normal ones. -/
def Sorted (ws : List PendingWrite) : Prop :=
  ∃ hs ns, ws = hs ++ ns ∧ (∀ w ∈ hs, w.highPriority = true) ∧ ∀ w ∈ ns, w.highPriority = false

theorem sorted_tail (h : Sorted ws) : Sorted ws.tail := by
  obtain ⟨hs, ns, rfl, hhs, hns⟩ := h
  cases hs with
  | nil => exact ⟨[], ns.tail, rfl, nofun, fun w hw => hns w (List.mem_of_mem_tail hw)⟩
  | cons h hs => exact ⟨hs, ns, rfl, fun w hw => hhs w (.tail _ hw), hns⟩

/-- A high-priority packet goes between the packets of both kinds. -/
theorem insertHighPriority_cons {front w : PendingWrite} {hs ns : List PendingWrite}
    (hhs : ∀ w ∈ hs, w.highPriority = true) (hns : ∀ w ∈ ns, w.highPriority = false) :
    insertHighPriority (front :: (hs ++ ns)) w = front :: (hs ++ w :: ns) := by
  have htake : ns.takeWhile (·.highPriority) = [] := by
    cases ns with
    | nil => rfl
    | cons n ns => simp [hns n (.head _)]
  have hdrop : ns.dropWhile (·.highPriority) = ns := by
    cases ns with
    | nil => rfl
    | cons n ns => simp [hns n (.head _)]
  simp [insertHighPriority, List.takeWhile_append_of_pos hhs, List.dropWhile_append_of_pos hhs,
    htake, hdrop]

/-- What queueing a packet leaves : the front, the order and the sorted rest. -/
theorem Queues.spec {s s' : Session} {w : PendingWrite} (h : Queues s s' w)
    (hsorted : Sorted s.writeQueue.tail) :
    SameOrder s'.writeQueue (s.writeQueue ++ [w]) ∧ Sorted s'.writeQueue.tail ∧
      ∀ front ∈ s.writeQueue.head?, s'.writeQueue.head? = some front := by
  rw [h.writeQueue]
  cases hq : s.writeQueue with
  | nil => exact ⟨by simpa using ⟨rfl, rfl⟩, by simpa using ⟨[], [], rfl, nofun, nofun⟩, nofun⟩
  | cons front queue =>
    rw [hq] at hsorted
    obtain ⟨hs, ns, hqueue, hhs, hns⟩ := hsorted
    obtain rfl : queue = hs ++ ns := hqueue
    cases hw : w.highPriority with
    | true =>
      rw [if_pos (by simp), insertHighPriority_cons hhs hns]
      have hnormal : ns.filter (·.highPriority) = [] := by
        simpa [List.filter_eq_nil_iff] using hns
      refine ⟨⟨?_, ?_⟩, ⟨hs ++ [w], ns, by simp, ?_, hns⟩, ?_⟩
      · simp [List.filter_cons, hw]
      · simp [List.filter_cons, hw, hnormal]
      · simpa [or_imp, forall_and, hw] using hhs
      · simp
    | false =>
      rw [if_neg (by simp)]
      refine ⟨⟨rfl, rfl⟩, ⟨hs, ns ++ [w], by simp, hhs, ?_⟩, by simp⟩
      simpa [or_imp, forall_and, hw] using hns

/-! ## The invariant -/

/-- What holds of the queue. -/
structure WriteInv (s : Session) (ran : List PendingWrite) : Prop where
  accepted : ∃ accepted, accepted <+: ran ∧ SameOrder (s.sent ++ s.writeQueue) accepted ∧
    (s.stopped = false → accepted = ran)
  sorted : Sorted s.writeQueue.tail
  writing : s.stopped = false → (s.writing = true ↔ s.writeQueue ≠ [])
  bytes : s.queuedWriteBytes = (s.writeQueue.map (·.packet.length)).sum
  bound : s.queuedWriteBytes ≤ s.options.maxPendingWriteBytes

theorem WriteInv.queues {s s' : Session} {ran : List PendingWrite} {w : PendingWrite}
    (h : WriteInv s ran) (hq : Queues s s' w) : WriteInv s' (ran ++ [w]) := by
  obtain ⟨accepted, -, horder, hall⟩ := h.accepted
  obtain rfl := hall hq.taken.1
  obtain ⟨hqueue, hsorted, -⟩ := hq.spec h.sorted
  have hne : s'.writeQueue ≠ [] := by
    intro hnil
    have hperm := hqueue.perm
    simp [hnil] at hperm
  constructor
  · refine ⟨accepted ++ [w], List.prefix_rfl, ⟨?_, ?_⟩, fun _ => rfl⟩
    · rw [hq.sent, List.filter_append, hqueue.normal, ← List.filter_append, ← List.append_assoc]
      exact (horder.append w).normal
    · rw [hq.sent, List.filter_append, hqueue.high, ← List.filter_append, ← List.append_assoc]
      exact (horder.append w).high
  · exact hsorted
  · intro _
    have hwriting := h.writing hq.taken.1
    rw [hq.writing]
    cases hnil : s.writeQueue with
    | nil => simpa [hnil] using hne
    | cons front queue => simpa [hnil, hne] using hwriting.mpr (by simp [hnil])
  · rw [hq.queuedWriteBytes, h.bytes, (hqueue.perm.map _).sum_nat]
    simp
  · rw [hq.queuedWriteBytes, hq.options]
    exact hq.taken.2.2

theorem WriteInv.completes {s s' : Session} {ran : List PendingWrite} (h : WriteInv s ran)
    (hc : Completes s s') : WriteInv s' ran := by
  obtain ⟨accepted, hprefix, horder, hall⟩ := h.accepted
  obtain ⟨front, hqueue, hsent, hbytes⟩ := hc.front
  constructor
  · refine ⟨accepted, hprefix, ?_, fun hopen => hall (hc.stopped ▸ hopen)⟩
    rw [hsent, List.append_assoc, List.singleton_append, ← hqueue]
    exact horder
  · have hsorted := h.sorted
    rw [hqueue] at hsorted
    exact sorted_tail hsorted
  · intro _
    simp [hc.writing]
  · have hsum := h.bytes
    rw [hqueue, List.map_cons, List.sum_cons] at hsum
    omega
  · have hbound := h.bound
    rw [hc.options]
    omega

theorem WriteInv.keeps {s s' : Session} {ran more : List PendingWrite} (h : WriteInv s ran)
    (hk : KeepsWrites s s') (hmore : s'.stopped = false → more = []) :
    WriteInv s' (ran ++ more) := by
  have hopen : s'.stopped = false → s.stopped = false := fun hs' =>
    Bool.eq_false_iff.mpr fun hs => by simp [hk.stopped hs] at hs'
  obtain ⟨accepted, hprefix, horder, hall⟩ := h.accepted
  constructor
  · refine ⟨accepted, hprefix.trans (List.prefix_append _ _), ?_, fun hs' => ?_⟩
    · rw [hk.sent, hk.writeQueue]
      exact horder
    · rw [hall (hopen hs'), hmore hs', List.append_nil]
  · rw [hk.writeQueue]
    exact h.sorted
  · intro hs'
    rw [hk.writing, hk.writeQueue]
    exact h.writing (hopen hs')
  · rw [hk.queuedWriteBytes, hk.writeQueue]
    exact h.bytes
  · rw [hk.queuedWriteBytes, hk.options]
    exact h.bound

theorem WriteInv.step {s s' : Session} {a : SessionAction} {ran : List PendingWrite}
    (h : WriteInv s ran) (hs : s.step zlib a = some s') :
    WriteInv s' (ran ++ ((a.task s).bind (Task.packet zlib)).toList) := by
  obtain ⟨w, hw, -, hq⟩ | ⟨rfl, hc⟩ | ⟨rfl, hk, hclosed⟩ | ⟨-, hk, hnone⟩ := step_cases zlib hs
  · rw [hw]
    exact h.queues hq
  · simpa [SessionAction.task] using h.completes hc
  · -- the session is closed : what is said of open ones holds of it
    have hkept : KeepsWrites s { s' with writing := s.writing } :=
      ⟨hk.options, hk.sent, hk.writeQueue, rfl, hk.queuedWriteBytes, fun _ => hclosed,
        hk.frontSlot, hk.writeSlot⟩
    have hi : WriteInv { s' with writing := s.writing } (ran ++ []) :=
      h.keeps hkept fun _ => rfl
    refine ⟨?_, hi.sorted, fun hopen => by simp [hclosed] at hopen, hi.bytes, hi.bound⟩
    simpa [SessionAction.task] using hi.accepted
  · exact h.keeps hk fun hopen => by rw [hnone hopen]; rfl

theorem keepsFront_of_step {s s' : Session} {a : SessionAction} {ran : List PendingWrite}
    (h : WriteInv s ran) (hs : s.step zlib a = some s') : KeepsFront s s' a := by
  obtain ⟨w, -, ha, hq⟩ | ⟨rfl, hc⟩ | ⟨rfl, hk, -⟩ | ⟨ha, hk, -⟩ := step_cases zlib hs
  · refine ⟨fun _ hwriting => ⟨?_, hq.sent, fun _ => by rw [hq.writing, hwriting]; rfl⟩,
      fun hdone => absurd hdone ha⟩
    have hne := (h.writing hq.taken.1).mp hwriting
    obtain ⟨-, -, hfront⟩ := hq.spec h.sorted
    rw [List.head?_eq_some_head hne]
    exact hfront _ (List.head?_eq_some_head hne)
  · obtain ⟨front, hqueue, hsent, -⟩ := hc.front
    exact ⟨fun hdone => absurd rfl hdone, fun _ => ⟨front, hc.outstanding, hqueue, hsent⟩⟩
  · exact ⟨fun _ _ => ⟨by rw [hk.writeQueue], hk.sent, fun hdone => absurd rfl hdone⟩, nofun⟩
  · exact ⟨fun _ hwriting => ⟨by rw [hk.writeQueue], hk.sent, fun _ => hk.writing.trans hwriting⟩,
      fun hdone => absurd hdone ha⟩

/-- The packet that is being written stays where it is, as long as no packet moves it. -/
theorem inPlace_step {s s' : Session} {a : SessionAction} (h : s.writing = true →
    s.writeSlot = s.frontSlot) (ha : FrontStays zlib s a) (hs : s.step zlib a = some s') :
    s'.writing = true → s'.writeSlot = s'.frontSlot := by
  obtain ⟨w, hw, -, hq⟩ | ⟨rfl, hc⟩ | ⟨rfl, hk, -⟩ | ⟨-, hk, -⟩ := step_cases zlib hs
  · intro hwriting
    have hstays := ha w hw hq.taken
    rw [hq.writeSlot]
    split_ifs with hempty
    · rfl
    · have hold : s.writing = true := by simpa [hq.writing, hempty] using hwriting
      rw [h hold, hq.frontSlot, hstays]
      simp
  · exact hc.inPlace
  · intro hwriting
    rw [hk.writing] at hwriting
    cases hwriting
  · intro hwriting
    rw [hk.writeSlot, hk.frontSlot]
    exact h (hk.writing ▸ hwriting)

theorem WriteInv.writeQueue {s : Session} {ran : List PendingWrite} (h : WriteInv s ran)
    (hplace : s.writing = true → s.writeSlot = s.frontSlot) : WriteQueue zlib s ran := by
  obtain ⟨accepted, hprefix, horder, hall⟩ := h.accepted
  refine ⟨fun hopen => ?_, fun hopen => ?_, ⟨accepted, hprefix, horder⟩,
    fun a s' hs => keepsFront_of_step zlib h hs, hplace, h.writing, h.bytes, h.bound⟩
  · exact hall hopen ▸ horder
  · exact hall hopen ▸ horder.perm

/-! ## The strand -/

theorem posted_checkBackpressure : s.checkBackpressure.posted = s.posted := by
  unfold checkBackpressure
  split_ifs <;> rfl

theorem posted_resumeIfPaused : s.resumeIfPaused.posted = s.posted := by
  unfold resumeIfPaused
  split_ifs
  · rfl
  · dsimp only
    split_ifs <;> rfl
  · rfl

theorem posted_enqueue (w : PendingWrite) : (s.enqueue w).posted = s.posted := by
  unfold enqueue
  split_ifs
  · rfl
  · rfl
  · dsimp only
    cases s.writeQueue != [] with
    | true => exact posted_checkBackpressure _
    | false => exact posted_checkBackpressure _

theorem posted_runTask (t : Task) : (s.runTask zlib t).posted = s.posted := by
  cases t with
  | enqueueWrite message highPriority =>
    simp only [runTask]
    split_ifs
    · rfl
    · exact posted_enqueue s _
  | sendBatch messages =>
    simp only [runTask]
    split_ifs
    · rfl
    · exact posted_enqueue s _
  | stop => rfl
  | readNext =>
    simp only [runTask]
    split_ifs <;> rfl

theorem posted_onHeader (header : Option (Vector UInt8 4)) :
    (s.onHeader header).posted = s.posted := by
  unfold onHeader
  cases header with
  | none => rfl
  | some header =>
    dsimp only
    split_ifs <;> rfl

/-- A packet that is read posts nothing that is written. -/
theorem packets_onBody (throws : Bool) (payload : Option Bytes) :
    (s.onBody zlib throws payload).posted.filterMap (Task.packet zlib) =
      s.posted.filterMap (Task.packet zlib) := by
  unfold onBody
  cases payload with
  | none => rfl
  | some payload =>
    dsimp only
    cases decodePacket zlib payload with
    | none => rfl
    | some m =>
      dsimp only
      split_ifs
      · rfl
      · simp [List.filterMap_append, Task.packet]
      · rfl

theorem posted_onWritten (front : PendingWrite) (queue : List PendingWrite) :
    (s.onWritten front queue).posted = s.posted := by
  unfold onWritten
  dsimp only
  split_ifs
  · exact posted_resumeIfPaused _
  · exact posted_resumeIfPaused _

/-- The packets of the posted lambdas and of the call, in a step of the strand. -/
theorem packets_step {l : SessionLog} {s' : Session} {a : SessionAction} (ha : StrandOrder l a)
    (hs : l.session.step zlib a = some s') :
    (l.session.posted ++ a.call.toList).filterMap (Task.packet zlib) =
      ((a.task l.session).bind (Task.packet zlib)).toList ++
        s'.posted.filterMap (Task.packet zlib) := by
  generalize l.session = s at hs ⊢
  cases a with
  | send message highPriority =>
    obtain rfl := Option.some_inj.mp hs
    rfl
  | sendBatch messages =>
    obtain rfl := Option.some_inj.mp hs
    by_cases hm : messages = []
    · simp [SessionAction.call, SessionAction.task, hm]
    · simp [SessionAction.call, SessionAction.task, hm]
  | stop =>
    obtain rfl := Option.some_inj.mp hs
    simp [SessionAction.call, SessionAction.task, Task.packet]
  | run i =>
    obtain rfl : i = 0 := ha
    simp only [step] at hs
    split at hs
    next => simp at hs
    next t ht =>
      obtain rfl := Option.some_inj.mp hs
      rw [posted_runTask]
      obtain ⟨posted, hposted⟩ : ∃ posted, s.posted = t :: posted := by
        cases hp : s.posted with
        | nil => simp [hp] at ht
        | cons t' posted => exact ⟨posted, by simpa [hp] using ht⟩
      cases hp : t.packet zlib <;> simp [SessionAction.call, SessionAction.task, hposted, hp]
  | headerDone i header =>
    simp only [step] at hs
    split at hs
    next =>
      obtain rfl := Option.some_inj.mp hs
      simp [SessionAction.call, SessionAction.task, posted_onHeader]
    next => simp at hs
  | bodyDone i throws payload =>
    simp only [step] at hs
    split at hs
    next =>
      split_ifs at hs
      obtain rfl := Option.some_inj.mp hs
      simp [SessionAction.call, SessionAction.task, packets_onBody]
    next => simp at hs
  | writeDone written =>
    simp only [step] at hs
    split at hs
    next front queue hw hq =>
      obtain rfl := Option.some_inj.mp hs
      cases written with
      | true => simp [SessionAction.call, SessionAction.task, posted_onWritten]
      | false => simp [SessionAction.call, SessionAction.task, handleClose]
    next => simp at hs
  | heartbeatTimeout =>
    obtain rfl := Option.some_inj.mp hs
    simp [SessionAction.call, SessionAction.task, handleClose]

end Session

namespace SessionLog

open Session

variable {zlib} {ok : SessionLog → SessionAction → Prop}

theorem writeInv {l : SessionLog} (h : Reaches zlib ok l) : WriteInv l.session l.ran := by
  refine BoostGateway.Reaches.invariant (P := fun l => WriteInv l.session l.ran) h ?_ ?_
  · rintro l ⟨options, movesBefore, rfl⟩
    exact ⟨⟨[], List.prefix_rfl, ⟨rfl, rfl⟩, fun _ => rfl⟩, ⟨[], [], rfl, nofun, nofun⟩,
      fun _ => by simp, rfl, Nat.zero_le _⟩
  · intro l a l' hi _ hs
    obtain ⟨s', hs', rfl⟩ := Option.map_eq_some_iff.mp hs
    exact hi.step zlib hs'

/-- The packets of the calls are those of the lambdas that ran and of the posted ones. -/
theorem called_eq {l : SessionLog} (hok : ∀ l a, ok l a → StrandOrder l a)
    (h : Reaches zlib ok l) :
    l.called = l.ran ++ l.session.posted.filterMap (Task.packet zlib) := by
  refine BoostGateway.Reaches.invariant (P := fun l =>
    l.called = l.ran ++ l.session.posted.filterMap (Task.packet zlib)) h ?_ ?_
  · rintro l ⟨options, movesBefore, rfl⟩
    rfl
  · intro l a l' hi ha hs
    obtain ⟨s', hs', rfl⟩ := Option.map_eq_some_iff.mp hs
    have hpackets := packets_step zlib (hok l a ha) hs'
    rw [List.filterMap_append] at hpackets
    have hcall : a.call.toList.filterMap (Task.packet zlib) =
        (a.call.bind (Task.packet zlib)).toList := by
      cases a.call with
      | none => rfl
      | some t => cases ht : t.packet zlib <;> simp [ht]
    calc l.called ++ (a.call.bind (Task.packet zlib)).toList
      _ = l.ran ++ (l.session.posted.filterMap (Task.packet zlib) ++
            (a.call.bind (Task.packet zlib)).toList) := by rw [hi, List.append_assoc]
      _ = l.ran ++ ((a.task l.session).bind (Task.packet zlib)).toList ++
            s'.posted.filterMap (Task.packet zlib) := by
        rw [← hcall, hpackets, List.append_assoc]

/-- Every run in which the front stays where it is writes in order, and in the order of the
calls where the strand runs what is posted in order. -/
theorem written_in_order {l : SessionLog} (h : Reaches zlib ok l)
    (hok : ∀ l a, ok l a → FrontStays zlib l.session a) :
    WriteQueue zlib l.session l.ran ∧ ((∀ l a, ok l a → StrandOrder l a) →
      l.called = l.ran ++ l.session.posted.filterMap (Task.packet zlib)) := by
  refine ⟨(writeInv h).writeQueue zlib ?_, fun hstrand => called_eq hstrand h⟩
  refine BoostGateway.Reaches.invariant
    (P := fun l => l.session.writing = true → l.session.writeSlot = l.session.frontSlot) h ?_ ?_
  · rintro l ⟨options, movesBefore, rfl⟩
    exact fun _ => rfl
  · intro l a l' hi ha hs
    obtain ⟨s', hs', rfl⟩ := Option.map_eq_some_iff.mp hs
    exact inPlace_step zlib hi (hok l a ha) hs'

/-- The third packet is sent with high priority while the first is being written : it is
written before the second. -/
theorem written_in_order_overtaking : ∃ l,
    Reaches none (fun l a => StrandOrder l a ∧ FrontStays none l.session a) l ∧
    l.session.sent.map (·.message.requestId) = [1, 3] ∧
    l.session.writeQueue.map (·.message.requestId) = [2] ∧
    l.session.stopped = false ∧ WriteQueue none l.session l.ran ∧ l.called = l.ran := by
  obtain ⟨l, hr, hsent, hqueue, hopen, hposted⟩ : ∃ l,
      Reaches none (fun l a => StrandOrder l a ∧ FrontStays none l.session a) l ∧
      l.session.sent.map (·.message.requestId) = [1, 3] ∧
      l.session.writeQueue.map (·.message.requestId) = [2] ∧
      l.session.stopped = false ∧ l.session.posted = [] :=
    Reaches.exists_runWith (.init ⟨{}, fun place length => place < length / 2, rfl⟩)
      [.send { requestId := 1 } false, .run 0, .send { requestId := 2 } false,
        .send { requestId := 3 } true, .run 0, .run 0, .writeDone true, .writeDone true]
      (by decide +kernel)
  obtain ⟨hw, hcalled⟩ := written_in_order hr fun _ _ => And.right
  exact ⟨l, hr, hsent, hqueue, hopen, hw, by simpa [hposted] using hcalled fun _ _ => And.left⟩

/-- Four packets are queued, and a fifth is sent with high priority while the first is being
written : the slot of the first then holds the fifth. -/
theorem not_written_in_place : ∃ l, Reaches none StrandOrder l ∧ l.session.stopped = false ∧
    l.session.writing = true ∧ l.session.writeQueue.map (·.message.requestId) = [1, 5, 2, 3, 4] ∧
    l.session.frontSlot + 1 = l.session.writeSlot ∧ ¬WriteQueue none l.session l.ran := by
  obtain ⟨l, hr, hopen, hwriting, hqueue, hslot⟩ : ∃ l, Reaches none StrandOrder l ∧
      l.session.stopped = false ∧ l.session.writing = true ∧
      l.session.writeQueue.map (·.message.requestId) = [1, 5, 2, 3, 4] ∧
      l.session.frontSlot + 1 = l.session.writeSlot :=
    Reaches.exists_runWith (.init ⟨{}, fun place length => place < length / 2, rfl⟩)
      [.send { requestId := 1 } false, .send { requestId := 2 } false,
        .send { requestId := 3 } false, .send { requestId := 4 } false,
        .send { requestId := 5 } true, .run 0, .run 0, .run 0, .run 0, .run 0]
      (by decide +kernel)
  refine ⟨l, hr, hopen, hwriting, hqueue, hslot, fun hw => ?_⟩
  have hplace := hw.inPlace hwriting
  omega

end SessionLog

end BoostGateway.Net
