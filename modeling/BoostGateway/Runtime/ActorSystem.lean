import Mathlib.Data.Int.Notation
import Mathlib.Data.List.Perm.Basic
import Mathlib.Logic.Function.Basic

/-!
# The actor system

`ActorSystem` (`actor_system.cpp`) keeps a mailbox for every actor, a queue of the actors
that have mail, and the messages scheduled for later. A dispatch moves the scheduled
messages that are due into the mailboxes (`promoteScheduledMessages`) and then gives the
ready actors their messages, one in each turn (`takeMessage`, `requeue`). A message that is
still scheduled can be cancelled by its id; one that has been moved into a mailbox cannot.

The system is one core without an `IoEngine` and is not shut down. Of a message's header
only the target is read.

`inFlight` lists what a reading finds in the messages on their way to an actor, in its
mailbox or scheduled : a call from outside adds nothing that the reading does not know
(`inFlight_call`), a promotion only changes the order (`inFlight_promote`), and a turn takes
out the message handled (`inFlight_takeMessage`).
-/

namespace BoostGateway.Runtime

/-- The number of an actor. -/
abbrev ActorId := UInt64

/-- The number of a timer. -/
abbrev ScheduleId := UInt64

/-- The units of `steady_clock`. -/
abbrev Duration := ℤ

/-- A time. -/
abbrev TimePoint := ℤ

/-- A message. -/
structure Message (P : Type) where
  targetActor : ActorId
  payload : P

/-- A message with its time. -/
structure ScheduledMessage (P : Type) where
  scheduleId : ScheduleId := 0
  useWallClock : Bool := false
  readyAfterDispatch : UInt64 := 0
  readyAt : TimePoint := 0
  repeatInterval : Duration := 0
  maxRepetitions : ℕ := 0
  repetitionsFired : ℕ := 0
  message : Message P

/-- An actor and its mailbox. -/
structure ActorCell (P : Type) where
  mailbox : List (Message P) := []
  queued : Bool := false

/-- `ActorSystem`. -/
structure ActorSystem (P : Type) where
  actors : ActorId → Option (ActorCell P) := fun _ => none
  readyActors : List ActorId := []
  scheduledMessages : List (ScheduledMessage P) := []
  dispatchRound : UInt64 := 0
  nextScheduleId : ScheduleId := 1
  nextActorId : ActorId := 1

/-- What code outside the system may ask of it. -/
inductive Call (P : Type)
  | createActor
  | send (message : Message P)
  | sendAfter (message : Message P) (dispatchDelay : UInt64)
  | sendAt (message : Message P) (readyAt : TimePoint)
  | scheduleAfter (message : Message P) (delay : Duration)
  | scheduleEvery (message : Message P) (initialDelay interval : Duration)
      (maxRepetitions : Option ℕ)
  | cancelSchedule (scheduleId : ScheduleId)

variable {P : Type}

/-- The message a call brings into the system. -/
def Call.message? : Call P → Option (Message P)
  | .send m | .sendAfter m _ | .sendAt m _ | .scheduleAfter m _ | .scheduleEvery m _ _ _ => some m
  | .createActor | .cancelSchedule _ => none

namespace ScheduledMessage

/-- Due at a reading of the clock, or in a round of dispatching. -/
def due (m : ScheduledMessage P) (now : TimePoint) (dispatchRound : UInt64) : Bool :=
  if m.useWallClock then m.readyAt ≤ now else m.readyAfterDispatch ≤ dispatchRound

/-- What stays scheduled of a message that has been sent. -/
def rearm (m : ScheduledMessage P) : Option (ScheduledMessage P) :=
  if m.useWallClock ∧ 0 < m.repeatInterval ∧
      (m.maxRepetitions = 0 ∨ m.repetitionsFired + 1 < m.maxRepetitions) then
    some { m with
      repetitionsFired := m.repetitionsFired + 1
      readyAt := m.readyAt + m.repeatInterval }
  else none

end ScheduledMessage

namespace ActorSystem

variable (s : ActorSystem P)

def setCell (id : ActorId) (cell : ActorCell P) : ActorSystem P :=
  { s with actors := Function.update s.actors id (some cell) }

/-- `enqueue_ready_actor`. -/
def enqueueReadyActor (id : ActorId) (cell : ActorCell P) : ActorSystem P :=
  if cell.queued then s.setCell id cell
  else { s.setCell id { cell with queued := true } with readyActors := s.readyActors ++ [id] }

/-- A new actor with an empty mailbox, unless its id is taken. -/
def createActor : ActorSystem P :=
  let id := s.nextActorId
  let s := { s with nextActorId := id + 1 }
  match s.actors id with
  | some _ => s
  | none => s.setCell id {}

/-- `send`. -/
def send (m : Message P) : ActorSystem P :=
  if m.targetActor = 0 then s
  else match s.actors m.targetActor with
    | none => s
    | some cell =>
      s.enqueueReadyActor m.targetActor { cell with mailbox := cell.mailbox ++ [m] }

/-- `send_after`. -/
def sendAfter (m : Message P) (dispatchDelay : UInt64) : ActorSystem P :=
  if m.targetActor = 0 then s
  else if dispatchDelay = 0 then s.send m
  else { s with scheduledMessages := s.scheduledMessages ++
      [{ readyAfterDispatch := s.dispatchRound + dispatchDelay, message := m }] }

/-- A message is scheduled by the clock, under the next id. -/
def schedule (m : ScheduledMessage P) : ActorSystem P × ScheduleId :=
  ({ s with
      nextScheduleId := s.nextScheduleId + 1
      scheduledMessages := s.scheduledMessages ++
        [{ m with scheduleId := s.nextScheduleId, useWallClock := true }] }, s.nextScheduleId)

/-- `send_at`. -/
def sendAt (m : Message P) (readyAt : TimePoint) : ActorSystem P :=
  if m.targetActor = 0 then s else (s.schedule { readyAt := readyAt, message := m }).1

/-- `schedule_after`. -/
def scheduleAfter (now : TimePoint) (m : Message P) (delay : Duration) :
    ActorSystem P × ScheduleId :=
  if m.targetActor = 0 then (s, 0)
  else if delay ≤ 0 then (s.send m, 0)
  else s.schedule { readyAt := now + delay, message := m }

/-- Without a number of repetitions a message is repeated until it is cancelled. -/
def scheduleEvery (now : TimePoint) (m : Message P)
    (initialDelay interval : Duration) (maxRepetitions : Option ℕ) :
    ActorSystem P × ScheduleId :=
  if m.targetActor = 0 ∨ interval ≤ 0 ∨ maxRepetitions = some 0 then (s, 0)
  else s.schedule
    { readyAt := now + if initialDelay ≤ 0 then interval else initialDelay
      repeatInterval := interval
      maxRepetitions := maxRepetitions.getD 0
      message := m }

/-- `cancel_schedule`. -/
def cancelSchedule (scheduleId : ScheduleId) : ActorSystem P :=
  { s with scheduledMessages := s.scheduledMessages.filter (·.scheduleId ≠ scheduleId) }

/-- A call of another thread or of a handler. -/
def call (now : TimePoint) : Call P → ActorSystem P
  | .createActor => s.createActor
  | .send m => s.send m
  | .sendAfter m dispatchDelay => s.sendAfter m dispatchDelay
  | .sendAt m readyAt => s.sendAt m readyAt
  | .scheduleAfter m delay => (s.scheduleAfter now m delay).1
  | .scheduleEvery m initialDelay interval maxRepetitions =>
    (s.scheduleEvery now m initialDelay interval maxRepetitions).1
  | .cancelSchedule scheduleId => s.cancelSchedule scheduleId

/-- The loop of `promote_scheduled_messages`, with the messages that stay scheduled. The
clock is read again for each message. -/
def promote (now : ℕ → TimePoint) : ActorSystem P → List (ScheduledMessage P) →
    ActorSystem P × List (ScheduledMessage P)
  | s, [] => (s, [])
  | s, m :: ms =>
    if m.due (now 0) s.dispatchRound then
      let (s, pending) := promote (fun i => now (i + 1)) (s.send m.message) ms
      (s, m.rearm.toList ++ pending)
    else
      let (s, pending) := promote (fun i => now (i + 1)) s ms
      (s, m :: pending)

/-- `promote_scheduled_messages`. -/
def promoteScheduledMessages (now : ℕ → TimePoint) : ActorSystem P :=
  let (promoted, pending) := promote now s s.scheduledMessages
  { promoted with scheduledMessages := pending }

/-- The first half of a turn of `dispatch_ready` : the first ready actor, and its first
message when it has one. -/
def takeMessage : Option (ActorSystem P × Option (ActorId × Message P)) :=
  match s.readyActors with
  | [] => none
  | id :: ready =>
    let s := { s with readyActors := ready }
    match s.actors id with
    | none => some (s, none)
    | some cell =>
      match cell.mailbox with
      | [] => some (s.setCell id { cell with queued := false }, none)
      | m :: mailbox =>
        some (s.setCell id { cell with mailbox := mailbox, queued := false }, some (id, m))

/-- The second half : an actor with more mail is ready again. -/
def requeue (id : ActorId) : ActorSystem P :=
  match s.actors id with
  | none => s
  | some cell => if cell.mailbox.isEmpty then s else s.enqueueReadyActor id cell

/-- The end of a dispatch, when no actor is ready. -/
def endDispatch : Option (ActorSystem P) :=
  if s.readyActors.isEmpty then some { s with dispatchRound := s.dispatchRound + 1 } else none

theorem of_endDispatch {s s' : ActorSystem P} (h : s.endDispatch = some s') :
    s.readyActors = [] ∧ s' = { s with dispatchRound := s.dispatchRound + 1 } := by
  unfold endDispatch at h
  split_ifs at h with hempty
  exact ⟨List.isEmpty_iff.mp hempty, (Option.some.inj h).symm⟩

/-! ## Mailboxes -/

/-- The mailbox of an actor, if there is such an actor. -/
def mailbox? (id : ActorId) : Option (List (Message P)) :=
  (s.actors id).map (·.mailbox)

variable (id : ActorId)

theorem mailbox?_setCell (id' : ActorId) (cell : ActorCell P) :
    (s.setCell id cell).mailbox? id' = if id' = id then some cell.mailbox else s.mailbox? id' := by
  unfold mailbox? setCell
  by_cases h : id' = id
  · subst h
    simp
  · simp [h]

theorem mailbox?_enqueueReadyActor (id' : ActorId) (cell : ActorCell P) :
    (s.enqueueReadyActor id cell).mailbox? id' =
      if id' = id then some cell.mailbox else s.mailbox? id' := by
  unfold enqueueReadyActor
  by_cases hq : cell.queued
  · rw [if_pos hq]
    exact mailbox?_setCell s id id' cell
  · rw [if_neg hq]
    exact mailbox?_setCell s id id' { cell with queued := true }

@[simp] theorem scheduledMessages_enqueueReadyActor
    (cell : ActorCell P) :
    (s.enqueueReadyActor id cell).scheduledMessages = s.scheduledMessages := by
  unfold enqueueReadyActor
  split_ifs <;> rfl

/-- A message is put into the mailbox of its target, and no other mailbox changes. -/
theorem mailbox?_send (m : Message P) (id : ActorId) :
    (s.send m).mailbox? id =
      if id = m.targetActor ∧ id ≠ 0 then (s.mailbox? id).map (· ++ [m]) else s.mailbox? id := by
  unfold send
  split_ifs with h0 hid hid
  · exact absurd (hid.1.trans h0) hid.2
  · rfl
  · rw [hid.1]
    cases hcell : s.actors m.targetActor with
    | none => simp [mailbox?, hcell]
    | some cell =>
      have hbox : s.mailbox? m.targetActor = some cell.mailbox := by simp [mailbox?, hcell]
      simp [mailbox?_enqueueReadyActor, hbox]
  · have hne : id ≠ m.targetActor := fun h => hid ⟨h, h ▸ h0⟩
    cases hcell : s.actors m.targetActor with
    | none => rfl
    | some cell => simp [mailbox?_enqueueReadyActor, hne]

@[simp] theorem scheduledMessages_send (m : Message P) :
    (s.send m).scheduledMessages = s.scheduledMessages := by
  unfold send
  split_ifs with h0
  · rfl
  · cases hcell : s.actors m.targetActor with
    | none => rfl
    | some cell => exact scheduledMessages_enqueueReadyActor _ _ _

theorem isSome_mailbox?_send (m : Message P) (id : ActorId) :
    ((s.send m).mailbox? id).isSome = (s.mailbox? id).isSome := by
  rw [mailbox?_send]
  split_ifs
  · exact Option.isSome_map
  · rfl

theorem mailbox?_createActor {id : ActorId} (hactor : (s.mailbox? id).isSome) :
    s.createActor.mailbox? id = s.mailbox? id := by
  unfold createActor
  dsimp only
  cases hnext : s.actors s.nextActorId with
  | some cell => rfl
  | none =>
    have hne : id ≠ s.nextActorId := by
      rintro rfl
      simp [mailbox?, hnext] at hactor
    dsimp only
    rw [mailbox?_setCell, if_neg hne]
    rfl

/-- A call sends its message, or leaves the mailboxes as they are and may schedule its
message or cancel others. -/
theorem call_cases (now : TimePoint) (c : Call P) :
    (∃ m ∈ c.message?, s.call now c = s.send m) ∨
      ((∀ id, (s.mailbox? id).isSome → (s.call now c).mailbox? id = s.mailbox? id) ∧
        ∃ ms : List (ScheduledMessage P), (∀ m ∈ ms, m.message ∈ c.message?) ∧
          (s.call now c).scheduledMessages.Sublist (s.scheduledMessages ++ ms)) := by
  have hkeep : ∀ s' : ActorSystem P, s'.mailbox? = s.mailbox? →
      ∀ id, (s.mailbox? id).isSome → s'.mailbox? id = s.mailbox? id :=
    fun s' h id _ => congrFun h id
  cases c with
  | createActor =>
    refine .inr ⟨fun id hactor => mailbox?_createActor s hactor, [], nofun, ?_⟩
    simp only [call, createActor, List.append_nil]
    split <;> exact .refl _
  | send m => exact .inl ⟨m, rfl, rfl⟩
  | sendAfter m dispatchDelay =>
    simp only [call, sendAfter]
    split_ifs
    · exact .inr ⟨hkeep _ rfl, [], nofun, by simp⟩
    · exact .inl ⟨m, rfl, rfl⟩
    · exact .inr ⟨hkeep _ rfl, [_], by simp [Call.message?], .refl _⟩
  | sendAt m readyAt =>
    simp only [call, sendAt]
    split_ifs
    · exact .inr ⟨hkeep _ rfl, [], nofun, by simp⟩
    · exact .inr ⟨hkeep _ rfl, [_], by simp [Call.message?], .refl _⟩
  | scheduleAfter m delay =>
    simp only [call, scheduleAfter]
    split_ifs
    · exact .inr ⟨hkeep _ rfl, [], nofun, by simp⟩
    · exact .inl ⟨m, rfl, rfl⟩
    · exact .inr ⟨hkeep _ rfl, [_], by simp [Call.message?], .refl _⟩
  | scheduleEvery m initialDelay interval maxRepetitions =>
    simp only [call, scheduleEvery]
    split_ifs
    · exact .inr ⟨hkeep _ rfl, [], nofun, by simp⟩
    · exact .inr ⟨hkeep _ rfl, [_], by simp [Call.message?], .refl _⟩
    · exact .inr ⟨hkeep _ rfl, [_], by simp [Call.message?], .refl _⟩
  | cancelSchedule scheduleId =>
    refine .inr ⟨hkeep _ rfl, [], nofun, ?_⟩
    simp [call, cancelSchedule]

/-- The first half of a turn takes a message out of the mailbox of its actor. -/
theorem takeMessage_cases {s s' : ActorSystem P} {taken : Option (ActorId × Message P)}
    (h : s.takeMessage = some (s', taken)) : s'.scheduledMessages = s.scheduledMessages ∧
      match taken with
      | none => s'.mailbox? = s.mailbox?
      | some (id, m) => ∃ mailbox, s.mailbox? id = some (m :: mailbox) ∧
        s'.mailbox? = Function.update s.mailbox? id (some mailbox) := by
  unfold takeMessage at h
  cases hready : s.readyActors with
  | nil => simp [hready] at h
  | cons id ready =>
    rw [hready] at h
    dsimp only at h
    cases hcell : s.actors id with
    | none =>
      obtain ⟨rfl, rfl⟩ : _ = s' ∧ none = taken := by simpa [hcell] using h
      exact ⟨rfl, rfl⟩
    | some cell =>
      have hbox : s.mailbox? id = some cell.mailbox := by simp [mailbox?, hcell]
      rw [hcell] at h
      cases hmail : cell.mailbox with
      | nil =>
        obtain ⟨rfl, rfl⟩ : _ = s' ∧ none = taken := by simpa [hmail] using h
        refine ⟨rfl, ?_⟩
        funext id'
        rw [mailbox?_setCell]
        split_ifs with hid
        · rw [hid, hbox, hmail]
        · rfl
      | cons m mailbox =>
        obtain ⟨rfl, rfl⟩ : _ = s' ∧ some (id, m) = taken := by simpa [hmail] using h
        refine ⟨rfl, mailbox, by rw [hbox, hmail], ?_⟩
        funext id'
        rw [mailbox?_setCell]
        by_cases hid : id' = id
        · simp [hid]
        · simp [hid, mailbox?]

theorem mailbox?_requeue : (s.requeue id).mailbox? = s.mailbox? := by
  unfold requeue
  cases hcell : s.actors id with
  | none => rfl
  | some cell =>
    dsimp only
    split_ifs
    · rfl
    · funext id'
      rw [mailbox?_enqueueReadyActor]
      split_ifs with hid
      · simp [hid, mailbox?, hcell]
      · rfl

@[simp] theorem scheduledMessages_requeue :
    (s.requeue id).scheduledMessages = s.scheduledMessages := by
  unfold requeue
  cases hcell : s.actors id with
  | none => rfl
  | some cell =>
    dsimp only
    split_ifs
    · rfl
    · exact scheduledMessages_enqueueReadyActor _ _ _

/-- The mailbox of an actor holds only messages to it. -/
def Addressed (id : ActorId) : Prop :=
  ∀ m ∈ (s.mailbox? id).getD [], m.targetActor = id

theorem Addressed.congr {s s' : ActorSystem P} {id : ActorId} (h : s.Addressed id)
    (hmail : s'.mailbox? id = s.mailbox? id) : s'.Addressed id := by
  unfold Addressed
  rwa [hmail]

theorem Addressed.send {s : ActorSystem P} {id : ActorId} (h : s.Addressed id) (m : Message P) :
    (s.send m).Addressed id := by
  by_cases hto : id = m.targetActor ∧ id ≠ 0
  · intro m' hm'
    rw [mailbox?_send, if_pos hto] at hm'
    cases hmail : s.mailbox? id with
    | none => simp [hmail] at hm'
    | some mailbox =>
      rw [hmail] at hm'
      rcases List.mem_append.mp hm' with hold | hnew
      · exact h m' (by rwa [hmail])
      · rw [List.mem_singleton.mp hnew, hto.1]
  · refine h.congr ?_
    rw [mailbox?_send, if_neg hto]

theorem Addressed.call {s : ActorSystem P} {id : ActorId} (h : s.Addressed id)
    (hactor : (s.mailbox? id).isSome) (now : TimePoint) (c : Call P) :
    (s.call now c).Addressed id := by
  rcases call_cases s now c with ⟨m, -, hcall⟩ | ⟨hmail, -⟩
  · rw [hcall]
    exact h.send m
  · exact h.congr (hmail id hactor)

theorem Addressed.promote {s : ActorSystem P} {id : ActorId} (h : s.Addressed id)
    (now : ℕ → TimePoint) (ms : List (ScheduledMessage P)) :
    (ActorSystem.promote now s ms).1.Addressed id := by
  induction ms generalizing now s with
  | nil => exact h
  | cons m ms ih =>
    unfold ActorSystem.promote
    split_ifs
    · exact ih (h.send m.message) _
    · exact ih h _

theorem Addressed.takeMessage {s s' : ActorSystem P} {id : ActorId}
    {taken : Option (ActorId × Message P)} (h : s.Addressed id)
    (htake : s.takeMessage = some (s', taken)) : s'.Addressed id := by
  rcases taken with _ | ⟨id', m⟩
  · exact h.congr (by rw [(takeMessage_cases htake).2])
  · obtain ⟨-, mailbox, hbox, hbox'⟩ := takeMessage_cases htake
    by_cases hid : id = id'
    · subst hid
      intro m' hm'
      rw [hbox', Function.update_self] at hm'
      exact h m' (by rw [hbox]; exact List.mem_cons_of_mem _ hm')
    · exact h.congr (by rw [hbox', Function.update_of_ne hid])

/-! ## Messages on their way -/

section InFlight

variable {β : Type} (read : Message P → Option β) (id : ActorId)

/-- What a reading finds in the mailbox of an actor. -/
def waiting (s : ActorSystem P) : List β := ((s.mailbox? id).getD []).filterMap read

/-- What it finds among the scheduled messages. -/
def scheduledFor (ms : List (ScheduledMessage P)) : List β :=
  ms.filterMap fun m => read m.message

/-- What is on its way to the actor. -/
def inFlight (s : ActorSystem P) : List β :=
  s.waiting read id ++ scheduledFor read s.scheduledMessages

variable {read id}

@[simp] theorem scheduledFor_append (ms ms' : List (ScheduledMessage P)) :
    scheduledFor read (ms ++ ms') = scheduledFor read ms ++ scheduledFor read ms' :=
  List.filterMap_append

@[simp] theorem scheduledFor_cons (m : ScheduledMessage P) (ms : List (ScheduledMessage P)) :
    scheduledFor read (m :: ms) = (read m.message).toList ++ scheduledFor read ms := by
  cases hm : read m.message with
  | none => simp [scheduledFor, hm]
  | some b => simp [scheduledFor, hm]

variable {s : ActorSystem P}

variable {s' : ActorSystem P}

theorem waiting_congr (h : s'.mailbox? id = s.mailbox? id) :
    s'.waiting read id = s.waiting read id := by
  unfold waiting
  rw [h]

/-- A message sent to another actor, or unknown to the reading, is not found. -/
theorem waiting_send_of_none (s : ActorSystem P) {m : Message P} (hm : read m = none) :
    (s.send m).waiting read id = s.waiting read id := by
  unfold waiting
  rw [mailbox?_send]
  split_ifs
  · cases s.mailbox? id <;> simp [hm]
  · rfl

theorem waiting_send_of_some (s : ActorSystem P) {m : Message P} {b : β} (hm : read m = some b)
    (hto : m.targetActor = id) (hid : id ≠ 0) (hactor : (s.mailbox? id).isSome) :
    (s.send m).waiting read id = s.waiting read id ++ [b] := by
  obtain ⟨mailbox, hmailbox⟩ := Option.isSome_iff_exists.mp hactor
  unfold waiting
  rw [mailbox?_send, if_pos ⟨hto.symm, hid⟩, hmailbox]
  simp [hm]

theorem message_rearm {m m' : ScheduledMessage P} (h : m' ∈ m.rearm) : m'.message = m.message := by
  unfold ScheduledMessage.rearm at h
  split_ifs at h
  · obtain rfl := Option.some.inj h
    rfl
  · cases h

theorem scheduledFor_rearm (m : ScheduledMessage P) (hm : read m.message = none) :
    scheduledFor read m.rearm.toList = [] := by
  cases hrearm : m.rearm with
  | none => rfl
  | some m' => simp [scheduledFor, message_rearm hrearm, hm]

theorem rearm_of_once {m : ScheduledMessage P} (hm : m.repeatInterval = 0) : m.rearm = none := by
  simp [ScheduledMessage.rearm, hm]

/-- A call from outside that brings nothing new takes nothing away but by cancelling. -/
theorem inFlight_call {c : Call P} (now : TimePoint)
    (hactor : (s.mailbox? id).isSome) (hc : ∀ m ∈ c.message?, read m = none) :
    ((s.call now c).inFlight read id).Sublist (s.inFlight read id) := by
  rcases call_cases s now c with ⟨m, hm, hcall⟩ | ⟨hmail, ms, hms, hsub⟩
  · rw [hcall]
    unfold inFlight
    rw [waiting_send_of_none s (hc m hm), scheduledMessages_send]
  · have hnew : scheduledFor read ms = [] :=
      List.filterMap_eq_nil_iff.mpr fun m hm => hc m.message (hms m hm)
    have hsched : (scheduledFor read (s.call now c).scheduledMessages).Sublist
        (scheduledFor read (s.scheduledMessages ++ ms)) := hsub.filterMap _
    rw [scheduledFor_append, hnew, List.append_nil] at hsched
    unfold inFlight
    rw [waiting_congr (hmail id hactor)]
    exact hsched.append_left _

theorem mem_scheduledMessages_call {c : Call P} {now : TimePoint}
    (hc : ∀ m ∈ c.message?, read m = none) {m : ScheduledMessage P}
    (hm : m ∈ (s.call now c).scheduledMessages) (hr : (read m.message).isSome) :
    m ∈ s.scheduledMessages := by
  rcases call_cases s now c with ⟨m', hm', hcall⟩ | ⟨-, ms, hms, hsub⟩
  · rwa [hcall, scheduledMessages_send] at hm
  · rcases List.mem_append.mp (hsub.subset hm) with hold | hnew
    · exact hold
    · rw [hc m.message (hms m hnew)] at hr
      cases hr

theorem isSome_mailbox?_call (now : TimePoint) (c : Call P)
    (hactor : (s.mailbox? id).isSome) : ((s.call now c).mailbox? id).isSome := by
  rcases call_cases s now c with ⟨m, -, hcall⟩ | ⟨hmail, -⟩
  · rwa [hcall, isSome_mailbox?_send]
  · rwa [hmail id hactor]

theorem isSome_mailbox?_promote (now : ℕ → TimePoint) (s : ActorSystem P)
    (ms : List (ScheduledMessage P)) :
    ((promote now s ms).1.mailbox? id).isSome = (s.mailbox? id).isSome := by
  induction ms generalizing now s with
  | nil => rfl
  | cons m ms ih =>
    unfold promote
    split_ifs
    · exact (ih _ _).trans (isSome_mailbox?_send s m.message id)
    · exact ih _ _

theorem mem_promote {now : ℕ → TimePoint} {s : ActorSystem P} {ms : List (ScheduledMessage P)}
    (honce : ∀ m ∈ ms, (read m.message).isSome → m.repeatInterval = 0)
    {m : ScheduledMessage P} (hm : m ∈ (promote now s ms).2) (hr : (read m.message).isSome) :
    m ∈ ms := by
  induction ms generalizing now s with
  | nil => exact hm
  | cons m' ms ih =>
    have honce' : ∀ m ∈ ms, (read m.message).isSome → m.repeatInterval = 0 :=
      fun m hm => honce m (List.mem_cons_of_mem _ hm)
    unfold promote at hm
    split_ifs at hm
    · rcases List.mem_append.mp hm with hfirst | hrest
      · have hrearm : m ∈ m'.rearm := Option.mem_toList.mp hfirst
        rw [message_rearm hrearm] at hr
        rw [rearm_of_once (honce m' List.mem_cons_self hr)] at hrearm
        cases hrearm
      · exact List.mem_cons_of_mem _ (ih honce' hrest)
    · rcases List.mem_cons.mp hm with rfl | hrest
      · exact List.mem_cons_self
      · exact List.mem_cons_of_mem _ (ih honce' hrest)

/-- A turn takes out what the reading finds in the message handled. -/
theorem inFlight_takeMessage {m : Message P} (h : s.takeMessage = some (s', some (id, m))) :
    s.inFlight read id = (read m).toList ++ s'.inFlight read id := by
  obtain ⟨hsched, mailbox, hbox, hbox'⟩ := takeMessage_cases h
  unfold inFlight waiting
  rw [hsched, hbox', hbox]
  cases hm : read m with
  | none => simp [hm]
  | some b => simp [hm]

/-- The turn of another actor, or one without a message, changes nothing here. -/
theorem mailbox?_takeMessage_of_ne {taken : Option (ActorId × Message P)}
    (h : s.takeMessage = some (s', taken)) (hne : ∀ m, taken ≠ some (id, m)) :
    s'.mailbox? id = s.mailbox? id := by
  rcases taken with _ | ⟨id', m⟩
  · rw [(takeMessage_cases h).2]
  · obtain ⟨-, mailbox, -, hbox'⟩ := takeMessage_cases h
    have hid : id ≠ id' := by
      rintro rfl
      exact hne m rfl
    rw [hbox', Function.update_of_ne hid]

variable (hread : ∀ m, (read m).isSome → m.targetActor = id)
include hread

/-- Messages that are sent once are moved and not lost or repeated. -/
theorem promote_perm (hid : id ≠ 0) (ms : List (ScheduledMessage P)) (now : ℕ → TimePoint)
    (s : ActorSystem P) (hactor : (s.mailbox? id).isSome)
    (honce : ∀ m ∈ ms, (read m.message).isSome → m.repeatInterval = 0) :
    ((promote now s ms).1.waiting read id ++ scheduledFor read (promote now s ms).2).Perm
      (s.waiting read id ++ scheduledFor read ms) := by
  induction ms generalizing now s with
  | nil => exact .refl _
  | cons m ms ih =>
    have honce' : ∀ m ∈ ms, (read m.message).isSome → m.repeatInterval = 0 :=
      fun m hm => honce m (List.mem_cons_of_mem _ hm)
    unfold promote
    by_cases hdue : m.due (now 0) s.dispatchRound
    · rw [if_pos hdue]
      have hrest := ih (fun i => now (i + 1)) (s.send m.message)
        ((isSome_mailbox?_send s m.message id).trans hactor) honce'
      cases hm : read m.message with
      | none =>
        rw [waiting_send_of_none s hm] at hrest
        simpa [scheduledFor_rearm m hm, hm] using hrest
      | some b =>
        have hb : (read m.message).isSome := by simp [hm]
        rw [waiting_send_of_some s hm (hread _ hb) hid hactor] at hrest
        simpa [rearm_of_once (honce m List.mem_cons_self hb), hm] using hrest
    · rw [if_neg hdue]
      have hrest := ih (fun i => now (i + 1)) s hactor honce'
      cases hm : read m.message with
      | none => simpa [hm] using hrest
      | some b =>
        have hmiddle := (List.perm_middle.trans (hrest.cons b)).trans List.perm_middle.symm
        simpa [hm] using hmiddle

theorem inFlight_promote {s : ActorSystem P} (hid : id ≠ 0) (now : ℕ → TimePoint)
    (hactor : (s.mailbox? id).isSome)
    (honce : ∀ m ∈ s.scheduledMessages, (read m.message).isSome → m.repeatInterval = 0) :
    ((s.promoteScheduledMessages now).inFlight read id).Perm (s.inFlight read id) :=
  promote_perm hread hid s.scheduledMessages now s hactor honce

end InFlight

end ActorSystem

end BoostGateway.Runtime
