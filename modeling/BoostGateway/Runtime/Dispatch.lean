import BoostGateway.Base.Run
import BoostGateway.Runtime.ActorSystem

/-!
# Dispatching

`ActorSystem::dispatch_ready` gives the ready actors their messages, and a handler may itself
send messages, schedule them and dispatch. A `Dispatcher` is the system with the calls that
have not returned : dispatches, and handlers that a dispatch has entered.

Before a shutdown every message put into a mailbox is started once and in order, and the
outermost dispatch leaves none behind (`DispatchReaches.delivers`). An actor is not busy for
the nested dispatch : it is entered again when a message was sent to it since it was entered
(`DispatchReaches.reentered`), as the room is that starts a battle.
-/

namespace BoostGateway.Runtime

variable {P : Type}

/-- The messages that a call sends at once. -/
def Call.sends : Call P → List (Message P)
  | .send m => [m]
  | .sendAfter m dispatchDelay => if dispatchDelay = 0 then [m] else []
  | .scheduleAfter m delay => if delay ≤ 0 then [m] else []
  | .createActor | .sendAt _ _ | .scheduleEvery _ _ _ _ | .cancelSchedule _ => []

namespace ActorSystem

/-! ## Ready actors -/

/-- The actors that have mail are ready, apart from those that are busy. -/
structure Ready (s : ActorSystem P) (busy : ActorId → Prop) : Prop where
  nodup : s.readyActors.Nodup
  queued : ∀ id, id ∈ s.readyActors ↔ ∃ cell, s.actors id = some cell ∧ cell.queued
  mail : ∀ id cell, s.actors id = some cell → cell.mailbox ≠ [] → id ∈ s.readyActors ∨ busy id

variable {s s' : ActorSystem P} {busy busy' : ActorId → Prop} {id id' : ActorId}
  {cell cell' : ActorCell P}

theorem Ready.mono (h : s.Ready busy) (hbusy : ∀ id, busy id → busy' id) : s.Ready busy' where
  nodup := h.nodup
  queued := h.queued
  mail id cell hcell hmail := (h.mail id cell hcell hmail).imp_right (hbusy id)

theorem actors_enqueueReadyActor :
    (s.enqueueReadyActor id cell).actors =
      Function.update s.actors id (some { cell with queued := true }) := by
  unfold enqueueReadyActor
  split_ifs with hq
  · have hcell : cell = { cell with queued := true } := by rw [← hq]
    rw [setCell, ← hcell]
  · rfl

theorem readyActors_enqueueReadyActor : (s.enqueueReadyActor id cell).readyActors =
    if cell.queued then s.readyActors else s.readyActors ++ [id] := by
  unfold enqueueReadyActor
  split_ifs <;> rfl

/-- An actor that has been put into the queue is no longer among the busy ones. -/
theorem Ready.enqueueReadyActor (h : s.Ready busy) (hcell : s.actors id = some cell)
    (hqueued : cell'.queued = cell.queued) (hbusy : ∀ i, busy i → busy' i ∨ i = id) :
    (s.enqueueReadyActor id cell').Ready busy' := by
  have hready : ∀ i, i ∈ (s.enqueueReadyActor id cell').readyActors ↔
      i ∈ s.readyActors ∨ i = id := by
    intro i
    rw [readyActors_enqueueReadyActor]
    split_ifs with hq
    · have hid : id ∈ s.readyActors := (h.queued id).mpr ⟨cell, hcell, hqueued ▸ hq⟩
      rw [iff_self_or]
      rintro rfl
      exact hid
    · rw [List.mem_append, List.mem_singleton]
  refine ⟨?_, fun i => ?_, fun i c hc hmail => ?_⟩
  · rw [readyActors_enqueueReadyActor]
    split_ifs with hq
    · exact h.nodup
    · have hid : id ∉ s.readyActors := by
        intro hid
        obtain ⟨c, hc, hcq⟩ := (h.queued id).mp hid
        obtain rfl := Option.some.inj (hcell.symm.trans hc)
        exact hq (hqueued ▸ hcq)
      exact List.nodup_append.mpr ⟨h.nodup, by simp, by
        rintro i hi j hj rfl
        exact hid (List.mem_singleton.mp hj ▸ hi)⟩
  · rw [hready, actors_enqueueReadyActor]
    by_cases hi : i = id
    · simp [hi]
    · rw [Function.update_of_ne hi, h.queued i]
      simp [hi]
  · rw [hready]
    rw [actors_enqueueReadyActor] at hc
    by_cases hi : i = id
    · exact .inl (.inr hi)
    · rw [Function.update_of_ne hi] at hc
      rcases h.mail i c hc hmail with hr | hb
      · exact .inl (.inl hr)
      · exact .inr ((hbusy i hb).resolve_right hi)

theorem Ready.send (h : s.Ready busy) (m : Message P) : (s.send m).Ready busy := by
  unfold ActorSystem.send
  split_ifs
  · exact h
  · split
    · exact h
    · rename_i cell hcell
      exact h.enqueueReadyActor hcell rfl fun i hb => .inl hb

theorem Ready.requeue (h : s.Ready fun i => busy i ∨ i = id) : (s.requeue id).Ready busy := by
  unfold ActorSystem.requeue
  cases hcell : s.actors id with
  | none =>
    refine ⟨h.nodup, h.queued, fun i c hc hmail => ?_⟩
    refine (h.mail i c hc hmail).imp_right fun hb => hb.resolve_right ?_
    rintro rfl
    rw [hcell] at hc
    cases hc
  | some cell =>
    dsimp only
    split_ifs with hempty
    · refine ⟨h.nodup, h.queued, fun i c hc hmail => ?_⟩
      refine (h.mail i c hc hmail).imp_right fun hb => hb.resolve_right ?_
      rintro rfl
      obtain rfl := Option.some.inj (hcell.symm.trans hc)
      exact hmail (List.isEmpty_iff.mp hempty)
    · exact h.enqueueReadyActor hcell rfl fun i hb => hb

/-- A new actor has no mail. -/
theorem Ready.newActor (h : s.Ready busy) (hready : s'.readyActors = s.readyActors)
    (hnone : s.actors id = none) (hactors : s'.actors = Function.update s.actors id (some {})) :
    s'.Ready busy := by
  refine ⟨hready ▸ h.nodup, fun i => ?_, fun i c hc hmail => ?_⟩
  · rw [hready, hactors, h.queued]
    by_cases hi : i = id
    · simp [hi, hnone]
    · rw [Function.update_of_ne hi]
  · rw [hready]
    rw [hactors] at hc
    by_cases hi : i = id
    · rw [hi, Function.update_self] at hc
      obtain rfl := Option.some.inj hc
      exact absurd rfl hmail
    · rw [Function.update_of_ne hi] at hc
      exact h.mail i c hc hmail

theorem Ready.congr (h : s.Ready busy) (hready : s'.readyActors = s.readyActors)
    (hactors : s'.actors = s.actors) : s'.Ready busy := by
  refine ⟨hready ▸ h.nodup, ?_, ?_⟩
  · rw [hready, hactors]
    exact h.queued
  · rw [hready, hactors]
    exact h.mail

/-- The first half of a turn, by what the first ready actor has. -/
theorem takeMessage_ready {taken : Option (ActorId × Message P)}
    (h : s.takeMessage = some (s', taken)) : ∃ id, s.readyActors = id :: s'.readyActors ∧
      ((s.actors id = none ∧ s'.actors = s.actors ∧ taken = none) ∨
        ∃ cell, s.actors id = some cell ∧
          ((cell.mailbox = [] ∧ taken = none) ∨ ∃ m, cell.mailbox.head? = some m ∧
            taken = some (id, m)) ∧
          s'.actors = Function.update s.actors id
            (some { cell with mailbox := cell.mailbox.tail, queued := false })) := by
  unfold takeMessage at h
  split at h
  · cases h
  · rename_i id ready hready
    dsimp only at h
    cases hcell : s.actors id with
    | none =>
      rw [hcell] at h
      obtain ⟨rfl, rfl⟩ := Prod.mk.inj (Option.some.inj h)
      exact ⟨id, hready, .inl ⟨hcell, rfl, rfl⟩⟩
    | some cell =>
      rw [hcell] at h
      dsimp only at h
      cases hmail : cell.mailbox with
      | nil =>
        rw [hmail] at h
        obtain ⟨rfl, rfl⟩ := Prod.mk.inj (Option.some.inj h)
        refine ⟨id, hready, .inr ⟨cell, hcell, .inl ⟨hmail, rfl⟩, ?_⟩⟩
        rw [hmail, List.tail_nil, ← hmail]
        rfl
      | cons m mailbox =>
        rw [hmail] at h
        obtain ⟨rfl, rfl⟩ := Prod.mk.inj (Option.some.inj h)
        exact ⟨id, hready, .inr ⟨cell, hcell, .inr ⟨m, by rw [hmail]; rfl, rfl⟩, by rw [hmail]; rfl⟩⟩

/-- The actor that is given its message is busy, and not in the queue. -/
theorem Ready.takeMessage {taken : Option (ActorId × Message P)} (h : s.Ready busy)
    (htake : s.takeMessage = some (s', taken)) :
    s'.Ready (fun i => busy i ∨ ∃ m, taken = some (i, m)) ∧
      ∀ i m, taken = some (i, m) → i ∉ s'.readyActors := by
  obtain ⟨id, hready, hcases⟩ := takeMessage_ready htake
  have hnodup := h.nodup
  rw [hready, List.nodup_cons] at hnodup
  have hmem : ∀ i, i ∈ s'.readyActors ↔ i ≠ id ∧ i ∈ s.readyActors := by
    intro i
    rw [hready, List.mem_cons]
    constructor
    · exact fun hi => ⟨fun heq => hnodup.1 (heq ▸ hi), .inr hi⟩
    · exact fun hi => hi.2.resolve_left hi.1
  rcases hcases with ⟨hnone, -, -⟩ | ⟨cell, hcell, htaken, hactors⟩
  · obtain ⟨cell, hcell, -⟩ := (h.queued id).mp (hready ▸ List.mem_cons_self)
    rw [hnone] at hcell
    cases hcell
  · refine ⟨⟨hnodup.2, fun i => ?_, fun i c hc hmail => ?_⟩, ?_⟩
    · rw [hmem, hactors, h.queued]
      by_cases hi : i = id
      · simp [hi]
      · simp [hi]
    · rw [hmem]
      rw [hactors] at hc
      by_cases hi : i = id
      · rw [hi, Function.update_self] at hc
        obtain rfl := Option.some.inj hc
        rcases htaken with ⟨hnil, -⟩ | ⟨m, -, htaken⟩
        · exact absurd (by rw [hnil]; rfl) hmail
        · exact .inr (.inr ⟨m, hi ▸ htaken⟩)
      · rw [Function.update_of_ne hi] at hc
        exact (h.mail i c hc hmail).imp (fun hr => ⟨hi, hr⟩) .inl
    · rintro i m htaken'
      rcases htaken with ⟨-, hnone⟩ | ⟨m', -, htaken⟩
      · rw [hnone] at htaken'
        cases htaken'
      · rw [htaken] at htaken'
        rw [← (Prod.mk.inj (Option.some.inj htaken')).1]
        exact hnodup.1

theorem mem_readyActors_enqueueReadyActor {i : ActorId}
    (h : i ∈ (s.enqueueReadyActor id cell).readyActors) : i ∈ s.readyActors ∨ i = id := by
  rw [readyActors_enqueueReadyActor] at h
  split_ifs at h
  · exact .inl h
  · simpa using h

theorem mem_readyActors_requeue {i : ActorId} (h : i ∈ (s.requeue id).readyActors) :
    i ∈ s.readyActors ∨ i = id := by
  unfold requeue at h
  split at h
  · exact .inl h
  · split_ifs at h
    · exact .inl h
    · exact mem_readyActors_enqueueReadyActor h

/-! ## Mail -/

/-- The messages that wait for an actor. -/
def mail (s : ActorSystem P) (id : ActorId) : List (Message P) := (s.mailbox? id).getD []

theorem mail_of_actors (hactors : s'.actors = s.actors) (id : ActorId) : s'.mail id = s.mail id := by
  rw [mail, mailbox?, hactors, mail, mailbox?]

/-- The message is put into a mailbox. -/
def accepts (s : ActorSystem P) (m : Message P) : Bool :=
  m.targetActor ≠ 0 ∧ (s.mailbox? m.targetActor).isSome

theorem accepts_send (m m' : Message P) : (s.send m).accepts m' = s.accepts m' := by
  rw [accepts, isSome_mailbox?_send, accepts]

/-- An actor becomes ready by a message that is put into its mailbox. -/
theorem mem_readyActors_send {m : Message P} (h : id ∈ (s.send m).readyActors) :
    id ∈ s.readyActors ∨ s.accepts m ∧ m.targetActor = id := by
  unfold send at h
  split_ifs at h with h0
  · exact .inl h
  · split at h
    · exact .inl h
    · rename_i cell hcell
      rcases mem_readyActors_enqueueReadyActor h with hr | hr
      · exact .inl hr
      · exact .inr ⟨by simp [accepts, h0, mailbox?, hcell], hr.symm⟩

theorem mem_readyActors_sendAll {ms : List (Message P)} (h : id ∈ (ms.foldl send s).readyActors) :
    id ∈ s.readyActors ∨ ∃ m ∈ ms.filter s.accepts, m.targetActor = id := by
  induction ms generalizing s with
  | nil => exact .inl h
  | cons m ms ih =>
    have haccepts : (s.send m).accepts = s.accepts := funext (accepts_send m)
    rcases ih h with hr | ⟨m', hm', hto⟩
    · refine (mem_readyActors_send hr).imp_right fun ⟨ha, hto⟩ => ⟨m, ?_, hto⟩
      exact List.mem_filter.mpr ⟨List.mem_cons_self, ha⟩
    · rw [haccepts] at hm'
      exact .inr ⟨m', List.filter_subset _ (List.subset_cons_self m ms) hm', hto⟩

theorem mail_send (m : Message P) (id : ActorId) :
    (s.send m).mail id = s.mail id ++ ([m].filter s.accepts).filter (·.targetActor = id) := by
  rw [mail, mailbox?_send, mail]
  by_cases hid : id = m.targetActor
  · cases hbox : s.mailbox? id with
    | none => simp [accepts, ← hid, hbox]
    | some mailbox =>
      by_cases h0 : id = 0
      · simp [accepts, ← hid, h0]
      · simp [accepts, ← hid, h0, hbox]
  · have hne : m.targetActor ≠ id := fun heq => hid heq.symm
    simp [hid, List.filter_filter, hne]

theorem mail_sendAll (ms : List (Message P)) (s : ActorSystem P) (id : ActorId) :
    (ms.foldl send s).mail id = s.mail id ++ (ms.filter s.accepts).filter (·.targetActor = id) := by
  induction ms generalizing s with
  | nil => simp
  | cons m ms ih =>
    have haccepts : (s.send m).accepts = s.accepts := funext (accepts_send m)
    rw [List.foldl_cons, ih, mail_send, haccepts, List.append_assoc, ← List.filter_append,
      ← List.filter_append, List.singleton_append]

theorem Ready.sendAll (h : s.Ready busy) (ms : List (Message P)) :
    (ms.foldl ActorSystem.send s).Ready busy := by
  induction ms generalizing s with
  | nil => exact h
  | cons m ms ih => exact ih (h.send m)

/-- The messages that a promotion sends. -/
def dueMessages (now : ℕ → TimePoint) (dispatchRound : UInt64) :
    List (ScheduledMessage P) → List (Message P)
  | [] => []
  | m :: ms =>
    let rest := dueMessages (fun i => now (i + 1)) dispatchRound ms
    if m.due (now 0) dispatchRound then m.message :: rest else rest

theorem dispatchRound_send (m : Message P) : (s.send m).dispatchRound = s.dispatchRound := by
  unfold send
  split_ifs
  · rfl
  · split
    · rfl
    · unfold ActorSystem.enqueueReadyActor
      split_ifs <;> rfl

theorem promote_fst (now : ℕ → TimePoint) (s : ActorSystem P) (ms : List (ScheduledMessage P)) :
    (promote now s ms).1 = (dueMessages now s.dispatchRound ms).foldl send s := by
  induction ms generalizing now s with
  | nil => rfl
  | cons m ms ih =>
    unfold promote dueMessages
    split_ifs
    · rw [List.foldl_cons, ← dispatchRound_send m.message, ← ih]
    · exact ih _ s

theorem send_of_target_zero {m : Message P} (h : m.targetActor = 0) : s.send m = s := by
  rw [send, if_pos h]

def dueNow (s : ActorSystem P) (now : ℕ → TimePoint) : List (Message P) :=
  dueMessages now s.dispatchRound s.scheduledMessages

theorem Ready.promoteScheduledMessages (h : s.Ready busy) (now : ℕ → TimePoint) :
    (s.promoteScheduledMessages now).Ready busy := by
  have hsent := h.sendAll (s.dueNow now)
  rw [dueNow, ← promote_fst] at hsent
  exact hsent.congr rfl rfl

theorem mail_promoteScheduledMessages (now : ℕ → TimePoint) (id : ActorId) :
    (s.promoteScheduledMessages now).mail id =
      s.mail id ++ ((s.dueNow now).filter s.accepts).filter (·.targetActor = id) := by
  rw [← mail_sendAll, dueNow, ← promote_fst]
  exact mail_of_actors rfl id

/-- A call sends its messages at once, or leaves the mailboxes and the queue alone but for
the empty mailbox of a new actor. -/
theorem call_sends (s : ActorSystem P) (now : TimePoint) (c : Call P) :
    (∃ m, c.sends = [m] ∧ s.call now c = s.send m) ∨
      (c.sends = [] ∧ (s.call now c).readyActors = s.readyActors ∧
        ((s.call now c).actors = s.actors ∨ ∃ id, s.actors id = none ∧
          (s.call now c).actors = Function.update s.actors id (some {}))) := by
  cases c with
  | createActor =>
    simp only [call, createActor]
    cases hnext : s.actors s.nextActorId with
    | some cell => exact .inr ⟨rfl, rfl, .inl rfl⟩
    | none => exact .inr ⟨rfl, rfl, .inr ⟨_, hnext, rfl⟩⟩
  | send m => exact .inl ⟨m, rfl, rfl⟩
  | sendAfter m dispatchDelay =>
    simp only [call, sendAfter, Call.sends]
    by_cases hdelay : dispatchDelay = 0
    · refine .inl ⟨m, if_pos hdelay, ?_⟩
      split_ifs with h0
      · exact (send_of_target_zero h0).symm
      · rfl
    · refine .inr ⟨if_neg hdelay, ?_⟩
      split_ifs
      · exact ⟨rfl, .inl rfl⟩
      · exact ⟨rfl, .inl rfl⟩
  | sendAt m readyAt =>
    simp only [call, sendAt]
    refine .inr ⟨rfl, ?_⟩
    split_ifs
    · exact ⟨rfl, .inl rfl⟩
    · exact ⟨rfl, .inl rfl⟩
  | scheduleAfter m delay =>
    simp only [call, scheduleAfter, Call.sends]
    by_cases hdelay : delay ≤ 0
    · refine .inl ⟨m, if_pos hdelay, ?_⟩
      split_ifs with h0
      · exact (send_of_target_zero h0).symm
      · rfl
    · refine .inr ⟨if_neg hdelay, ?_⟩
      split_ifs
      · exact ⟨rfl, .inl rfl⟩
      · exact ⟨rfl, .inl rfl⟩
  | scheduleEvery m initialDelay interval maxRepetitions =>
    simp only [call, scheduleEvery]
    refine .inr ⟨rfl, ?_⟩
    split_ifs
    · exact ⟨rfl, .inl rfl⟩
    · exact ⟨rfl, .inl rfl⟩
    · exact ⟨rfl, .inl rfl⟩
  | cancelSchedule scheduleId => exact .inr ⟨rfl, rfl, .inl rfl⟩

theorem Ready.call (h : s.Ready busy) (now : TimePoint) (c : Call P) :
    (s.call now c).Ready busy := by
  rcases call_sends s now c with ⟨m, -, hcall⟩ | ⟨-, hready, hactors | ⟨id, hnone, hactors⟩⟩
  · rw [hcall]
    exact h.send m
  · exact h.congr hready hactors
  · exact h.newActor hready hnone hactors

theorem mem_readyActors_call {now : TimePoint} {c : Call P}
    (h : id ∈ (s.call now c).readyActors) :
    id ∈ s.readyActors ∨ ∃ m ∈ c.sends.filter s.accepts, m.targetActor = id := by
  rcases call_sends s now c with ⟨m, hsends, hcall⟩ | ⟨-, hready, -⟩
  · rw [hcall] at h
    refine (mem_readyActors_send h).imp_right fun ⟨ha, hto⟩ => ⟨m, ?_, hto⟩
    rw [hsends]
    exact List.mem_filter.mpr ⟨List.mem_cons_self, ha⟩
  · rw [hready] at h
    exact .inl h

theorem mail_call (now : TimePoint) (c : Call P) (id : ActorId) : (s.call now c).mail id =
    s.mail id ++ (c.sends.filter s.accepts).filter (·.targetActor = id) := by
  rcases call_sends s now c with
    ⟨m, hsends, hcall⟩ | ⟨hsends, -, hactors | ⟨id', hnone, hactors⟩⟩
  · rw [hcall, hsends, mail_send]
  · rw [hsends, mail_of_actors hactors]
    simp
  · rw [hsends, mail, mailbox?, hactors, mail, mailbox?]
    by_cases hid : id = id'
    · simp [hid, hnone]
    · simp [hid]

end ActorSystem

/-! ## Calls that have not returned -/

/-- A dispatch, or a handler with the number of messages put into mailboxes before it. -/
inductive Frame
  | dispatch
  | handler (id : ActorId) (since : ℕ)
  deriving DecidableEq

/-- The last call is the first frame. Nothing reads what was sent and started. -/
structure Dispatcher (P : Type) where
  system : ActorSystem P := {}
  stack : List Frame := []
  shuttingDown : Bool := false
  sent : List (Message P) := []
  started : List (ActorId × Message P) := []

/-- The calls, and the turns of a dispatch. -/
inductive DispatchEvent (P : Type)
  /-- The code outside of all dispatches, or the last handler, calls the system. -/
  | call (now : TimePoint) (c : Call P)
  /-- The same code dispatches. -/
  | dispatchAll (now : ℕ → TimePoint)
  | shutdown
  /-- The last dispatch gives a ready actor its message. -/
  | turn
  /-- The last handler returns, or raises. -/
  | handlerReturns
  | dispatchReturns

namespace Dispatcher

/-- The code that may call the system : no dispatch is between its steps. -/
def calling (d : Dispatcher P) : Bool :=
  d.stack.head? ≠ some .dispatch

def step (d : Dispatcher P) : DispatchEvent P → Option (Dispatcher P)
  | .call now c =>
    if d.calling then
      if d.shuttingDown then some d
      else some { d with
        system := d.system.call now c
        sent := d.sent ++ c.sends.filter d.system.accepts }
    else none
  | .dispatchAll now =>
    if d.calling then
      if d.shuttingDown then some d
      else
        some { d with
          system := d.system.promoteScheduledMessages now
          sent := d.sent ++ (d.system.dueNow now).filter d.system.accepts
          stack := .dispatch :: d.stack }
    else none
  | .shutdown =>
    if d.calling then some { d with
      shuttingDown := true
      system := { d.system with
        actors := fun _ => none
        readyActors := []
        scheduledMessages := [] } }
    else none
  | .turn =>
    match d.stack with
    | .dispatch :: _ =>
      match d.system.takeMessage with
      | none => none
      | some (system, none) => some { d with system }
      | some (system, some (id, m)) => some { d with
        system
        stack := .handler id d.sent.length :: d.stack
        started := d.started ++ [(id, m)] }
    | _ => none
  | .handlerReturns =>
    match d.stack with
    | .handler id _ :: .dispatch :: stack =>
      if d.shuttingDown then some { d with stack }
      else some { d with system := d.system.requeue id, stack := .dispatch :: stack }
    | _ => none
  | .dispatchReturns =>
    match d.stack with
    | .dispatch :: stack =>
      if d.shuttingDown then none
      else d.system.endDispatch.map fun system => { d with system, stack }
    | _ => none

/-- The systems that events lead to, from a new one. -/
abbrev DispatchReaches : Dispatcher P → Prop := Reaches (fun d => d = {}) step fun _ _ => True

/-- The handler of the actor has not returned. -/
def Executing (d : Dispatcher P) (id : ActorId) : Prop := ∃ since, .handler id since ∈ d.stack

/-- The messages put into the mailbox of an actor. -/
def sentTo (d : Dispatcher P) (id : ActorId) : List (Message P) :=
  d.sent.filter (·.targetActor = id)

/-- The messages its handler was entered with. -/
def startedAt (d : Dispatcher P) (id : ActorId) : List (Message P) :=
  (d.started.filter (·.1 = id)).map Prod.snd

/-- A message was put into the mailbox of the actor since there were `since` messages. -/
def SentSince (d : Dispatcher P) (id : ActorId) (since : ℕ) : Prop :=
  ∃ m ∈ d.sent.drop since, m.targetActor = id

/-- Before a shutdown every message is started or waits, and who has mail is ready. -/
structure Running (d : Dispatcher P) : Prop where
  ready : d.system.Ready d.Executing
  delivery : ∀ id, d.sentTo id = d.startedAt id ++ d.system.mail id

variable {d d' : Dispatcher P} {id : ActorId}

theorem running_empty : Running ({} : Dispatcher P) where
  ready := ⟨List.nodup_nil, fun id => by simp, fun id cell hcell => by simp at hcell⟩
  delivery id := by simp [sentTo, startedAt, ActorSystem.mail, ActorSystem.mailbox?]

theorem Running.call (h : d.Running) (now : TimePoint) (c : Call P) : Running
    { d with system := d.system.call now c, sent := d.sent ++ c.sends.filter d.system.accepts } where
  ready := h.ready.call now c
  delivery id := by
    have hid := h.delivery id
    unfold sentTo startedAt at hid ⊢
    rw [List.filter_append, hid, ActorSystem.mail_call, List.append_assoc]

theorem executing_dispatch {stack : List Frame} {id : ActorId} {since : ℕ} :
    .handler id since ∈ Frame.dispatch :: stack ↔ Frame.handler id since ∈ stack := by
  simp

theorem Running.dispatchAll (h : d.Running) (now : ℕ → TimePoint) : Running
    { d with
      system := d.system.promoteScheduledMessages now
      sent := d.sent ++ (d.system.dueNow now).filter d.system.accepts
      stack := .dispatch :: d.stack } where
  ready := (h.ready.promoteScheduledMessages now).mono fun _ ⟨since, hmem⟩ =>
    ⟨since, List.mem_cons_of_mem _ hmem⟩
  delivery id := by
    have hid := h.delivery id
    unfold sentTo startedAt at hid ⊢
    rw [List.filter_append, hid, ActorSystem.mail_promoteScheduledMessages, List.append_assoc]

/-- A turn without a message changes no mailbox. -/
theorem Running.skip (h : d.Running) {system : ActorSystem P}
    (htake : d.system.takeMessage = some (system, none)) : Running { d with system } where
  ready := (h.ready.takeMessage htake).1.mono fun _ hbusy =>
    hbusy.resolve_right (by simp)
  delivery id := by
    have hmail : system.mail id = d.system.mail id := by
      rw [ActorSystem.mail, (ActorSystem.takeMessage_cases htake).2, ActorSystem.mail]
    rw [hmail]
    exact h.delivery id

theorem Running.enter (h : d.Running) {system : ActorSystem P} {m : Message P}
    (htake : d.system.takeMessage = some (system, some (id, m))) : Running
    { d with
      system
      stack := .handler id d.sent.length :: d.stack
      started := d.started ++ [(id, m)] } where
  ready := (h.ready.takeMessage htake).1.mono fun i hbusy => by
    rcases hbusy with ⟨since, hmem⟩ | ⟨m', htaken⟩
    · exact ⟨since, List.mem_cons_of_mem _ hmem⟩
    · obtain ⟨rfl, -⟩ := Prod.mk.inj (Option.some.inj htaken)
      exact ⟨_, List.mem_cons_self⟩
  delivery i := by
    have hi := h.delivery i
    obtain ⟨-, mailbox, hbox, hbox'⟩ := ActorSystem.takeMessage_cases htake
    unfold sentTo startedAt ActorSystem.mail at hi ⊢
    rw [hi, List.filter_append, List.map_append, hbox', List.append_assoc]
    by_cases hid : i = id
    · simp [hid, hbox]
    · have hne : ¬id = i := fun heq => hid heq.symm
      simp [hid, hne]

theorem Running.handlerReturns (h : d.Running) {since : ℕ} {stack : List Frame}
    (hstack : d.stack = .handler id since :: .dispatch :: stack) :
    Running { d with system := d.system.requeue id, stack := .dispatch :: stack } where
  ready := by
    refine (h.ready.mono fun i hbusy => ?_).requeue
    obtain ⟨n, hmem⟩ := hbusy
    rw [hstack] at hmem
    rcases List.mem_cons.mp hmem with heq | hmem
    · exact .inr (Frame.handler.inj heq).1
    · exact .inl ⟨n, hmem⟩
  delivery i := by
    have hmail : (d.system.requeue id).mail i = d.system.mail i := by
      rw [ActorSystem.mail, ActorSystem.mailbox?_requeue, ActorSystem.mail]
    rw [hmail]
    exact h.delivery i

theorem Running.dispatchReturns (h : d.Running) {stack : List Frame}
    (hstack : d.stack = .dispatch :: stack) (dispatchRound : UInt64) :
    Running { d with system := { d.system with dispatchRound }, stack } := by
  refine ⟨?_, h.delivery⟩
  have hready := h.ready.mono fun i hbusy => (?_ : ∃ since, .handler i since ∈ stack)
  · exact hready.congr rfl rfl
  · obtain ⟨n, hmem⟩ := hbusy
    rw [hstack, executing_dispatch] at hmem
    exact ⟨n, hmem⟩

/-- What a step does. After a shutdown calls are refused and handlers only return. -/
inductive Steps (d : Dispatcher P) : DispatchEvent P → Dispatcher P → Prop
  | callRefused (now : TimePoint) (c : Call P) : d.calling → d.shuttingDown = true →
      Steps d (.call now c) d
  | call (now : TimePoint) (c : Call P) : d.calling → d.shuttingDown = false →
      Steps d (.call now c) { d with
        system := d.system.call now c
        sent := d.sent ++ c.sends.filter d.system.accepts }
  | dispatchRefused (now : ℕ → TimePoint) : d.calling → d.shuttingDown = true →
      Steps d (.dispatchAll now) d
  | dispatchAll (now : ℕ → TimePoint) : d.calling → d.shuttingDown = false →
      Steps d (.dispatchAll now) { d with
        system := d.system.promoteScheduledMessages now
        sent := d.sent ++ (d.system.dueNow now).filter d.system.accepts
        stack := .dispatch :: d.stack }
  | shutdown : d.calling → Steps d .shutdown { d with
      shuttingDown := true
      system := { d.system with
        actors := fun _ => none
        readyActors := []
        scheduledMessages := [] } }
  | skip {system : ActorSystem P} : d.system.takeMessage = some (system, none) →
      Steps d .turn { d with system }
  | enter {system : ActorSystem P} {id : ActorId} {m : Message P} :
      d.system.takeMessage = some (system, some (id, m)) →
      Steps d .turn { d with
        system
        stack := .handler id d.sent.length :: d.stack
        started := d.started ++ [(id, m)] }
  | abandoned {id : ActorId} {since : ℕ} {stack : List Frame} :
      d.stack = .handler id since :: .dispatch :: stack → d.shuttingDown = true →
      Steps d .handlerReturns { d with stack }
  | returned {id : ActorId} {since : ℕ} {stack : List Frame} :
      d.stack = .handler id since :: .dispatch :: stack → d.shuttingDown = false →
      Steps d .handlerReturns { d with
        system := d.system.requeue id
        stack := .dispatch :: stack }
  | dispatchReturns {stack : List Frame} : d.stack = .dispatch :: stack →
      d.shuttingDown = false → d.system.readyActors = [] →
      Steps d .dispatchReturns { d with
        system := { d.system with dispatchRound := d.system.dispatchRound + 1 }
        stack }

variable {e : DispatchEvent P}

theorem step_cases (h : d.step e = some d') : d.Steps e d' := by
  cases e with
  | call now c =>
    simp only [step] at h
    split_ifs at h with hcalling hdown
    · exact Option.some.inj h ▸ .callRefused now c hcalling hdown
    · exact Option.some.inj h ▸ .call now c hcalling (Bool.not_eq_true _ ▸ hdown)
  | dispatchAll now =>
    simp only [step] at h
    split_ifs at h with hcalling hdown
    · exact Option.some.inj h ▸ .dispatchRefused now hcalling hdown
    · exact Option.some.inj h ▸ .dispatchAll now hcalling (Bool.not_eq_true _ ▸ hdown)
  | shutdown =>
    simp only [step] at h
    split_ifs at h with hcalling
    exact Option.some.inj h ▸ .shutdown hcalling
  | turn =>
    simp only [step] at h
    split at h
    · split at h
      · cases h
      · exact Option.some.inj h ▸ .skip ‹_›
      · exact Option.some.inj h ▸ .enter ‹_›
    · cases h
  | handlerReturns =>
    simp only [step] at h
    split at h
    · split_ifs at h with hdown
      · exact Option.some.inj h ▸ .abandoned ‹_› hdown
      · exact Option.some.inj h ▸ .returned ‹_› (Bool.not_eq_true _ ▸ hdown)
    · cases h
  | dispatchReturns =>
    simp only [step] at h
    split at h
    · split_ifs at h with hdown
      obtain ⟨system, hend, rfl⟩ := Option.map_eq_some_iff.mp h
      obtain ⟨hready, rfl⟩ := ActorSystem.of_endDispatch hend
      exact .dispatchReturns ‹_› (Bool.not_eq_true _ ▸ hdown) hready
    · cases h

/-! ## Every message is started once -/

/-- After a shutdown there are no actors. -/
structure Stopped (d : Dispatcher P) : Prop where
  shuttingDown : d.shuttingDown = true
  actors : ∀ id, d.system.actors id = none
  readyActors : d.system.readyActors = []
  inOrder : ∀ id, d.startedAt id <+: d.sentTo id

theorem Running.inOrder (h : d.Running) (id : ActorId) : d.startedAt id <+: d.sentTo id :=
  ⟨d.system.mail id, (h.delivery id).symm⟩

theorem running_step (h : d.Running) (halive : d.shuttingDown = false)
    (hstep : d.step e = some d') : d'.shuttingDown = false ∧ d'.Running ∨ d'.Stopped := by
  cases step_cases hstep with
  | callRefused _ _ _ hdown | dispatchRefused _ _ hdown | abandoned _ hdown =>
    cases halive.symm.trans hdown
  | call now c => exact .inl ⟨halive, h.call now c⟩
  | dispatchAll now => exact .inl ⟨halive, h.dispatchAll now⟩
  | shutdown => exact .inr ⟨rfl, fun _ => rfl, rfl, h.inOrder⟩
  | skip htake => exact .inl ⟨halive, h.skip htake⟩
  | enter htake => exact .inl ⟨halive, h.enter htake⟩
  | returned hstack => exact .inl ⟨halive, h.handlerReturns hstack⟩
  | dispatchReturns hstack => exact .inl ⟨halive, h.dispatchReturns hstack _⟩

theorem stopped_step (h : d.Stopped) (hstep : d.step e = some d') : d'.Stopped := by
  have hnone : d.system.takeMessage = none := by
    rw [ActorSystem.takeMessage, h.readyActors]
  cases step_cases hstep with
  | callRefused | dispatchRefused => exact h
  | call _ _ _ halive | dispatchAll _ _ halive | returned _ halive | dispatchReturns _ halive =>
    cases halive.symm.trans h.shuttingDown
  | shutdown => exact ⟨rfl, fun _ => rfl, rfl, h.inOrder⟩
  | skip htake | enter htake => cases hnone.symm.trans htake
  | abandoned => exact ⟨h.shuttingDown, h.actors, h.readyActors, h.inOrder⟩

theorem DispatchReaches.running_or_stopped (h : DispatchReaches d) :
    d.shuttingDown = false ∧ d.Running ∨ d.Stopped := by
  refine h.invariant (P := fun d => d.shuttingDown = false ∧ d.Running ∨ d.Stopped) ?_
    fun d e d' hd _ hstep => ?_
  · rintro d rfl
    exact .inl ⟨rfl, running_empty⟩
  · rcases hd with ⟨halive, hd⟩ | hd
    · exact running_step hd halive hstep
    · exact .inr (stopped_step hd hstep)

/-- What a system promises for the messages that it takes. -/
structure Delivers (d : Dispatcher P) : Prop where
  inOrder : ∀ id, d.startedAt id <+: d.sentTo id
  complete : ∀ d', d.step .dispatchReturns = some d' → d'.stack = [] →
    ∀ id, d'.startedAt id = d'.sentTo id
  readyOnce : d.system.readyActors.Nodup
  ready : ∀ id cell, d.system.actors id = some cell → cell.mailbox ≠ [] → ¬d.Executing id →
    id ∈ d.system.readyActors

/-- When the outermost dispatch returns there is no mail. -/
theorem Running.mail_eq_nil (h : d.Running) (hready : d.system.readyActors = [])
    (hstack : d.stack = []) (id : ActorId) : d.system.mail id = [] := by
  rw [ActorSystem.mail, ActorSystem.mailbox?]
  cases hcell : d.system.actors id with
  | none => rfl
  | some cell =>
    by_contra hmail
    rcases h.ready.mail id cell hcell hmail with hid | ⟨since, hid⟩
    · rw [hready] at hid
      cases hid
    · rw [hstack] at hid
      cases hid

theorem DispatchReaches.delivers (h : DispatchReaches d) : d.Delivers := by
  rcases h.running_or_stopped with ⟨halive, hd⟩ | hd
  · refine ⟨hd.inOrder, fun d' hstep hstack id => ?_, hd.ready.nodup, ?_⟩
    · cases step_cases hstep with
      | dispatchReturns hstack' _ hready =>
        have hd' := hd.dispatchReturns hstack' (d.system.dispatchRound + 1)
        have hid := hd'.delivery id
        rw [hd'.mail_eq_nil hready hstack, List.append_nil] at hid
        exact hid.symm
    · intro id cell hcell hmail hidle
      exact (hd.ready.mail id cell hcell hmail).resolve_right hidle
  · refine ⟨hd.inOrder, fun d' hstep => ?_, hd.readyActors ▸ List.nodup_nil, fun id cell hcell => ?_⟩
    · cases step_cases hstep with
      | dispatchReturns _ halive => cases halive.symm.trans hd.shuttingDown
    · rw [hd.actors] at hcell
      cases hcell

/-! ## A handler is entered again -/

/-- Who is ready while its handler runs has been sent a message since. -/
structure Answered (d : Dispatcher P) : Prop where
  since_le : ∀ id since, .handler id since ∈ d.stack → since ≤ d.sent.length
  ready : ∀ id since, .handler id since ∈ d.stack → id ∈ d.system.readyActors →
    d.SentSince id since
  nested : d.stack.Pairwise fun f g => ∀ id n since, f = .handler id n → g = .handler id since →
    d.SentSince id since

theorem SentSince.append {since : ℕ} (h : d.SentSince id since) {system : ActorSystem P}
    {stack : List Frame} {shuttingDown : Bool} {ms : List (Message P)}
    {started : List (ActorId × Message P)} :
    SentSince { system, stack, shuttingDown, sent := d.sent ++ ms, started } id since := by
  obtain ⟨m, hm, hto⟩ := h
  refine ⟨m, ?_, hto⟩
  rw [List.drop_append]
  exact List.mem_append_left _ hm

/-- Messages are sent, and a dispatch may begin. -/
theorem Answered.sends (h : d.Answered) {system : ActorSystem P} {ms : List (Message P)}
    (hready : ∀ id ∈ system.readyActors, id ∈ d.system.readyActors ∨ ∃ m ∈ ms, m.targetActor = id) :
    Answered { d with system, sent := d.sent ++ ms } where
  since_le id since hmem := by
    rw [List.length_append]
    exact Nat.le_trans (h.since_le id since hmem) (Nat.le_add_right _ _)
  ready id since hmem hid := by
    rcases hready id hid with hold | ⟨m, hm, hto⟩
    · exact (h.ready id since hmem hold).append
    · refine ⟨m, ?_, hto⟩
      rw [List.drop_append_of_le_length (h.since_le id since hmem)]
      exact List.mem_append_right _ hm
  nested := h.nested.imp fun hfg id n since hf hg => (hfg id n since hf hg).append

theorem Answered.dispatch (h : d.Answered) : Answered { d with stack := .dispatch :: d.stack } where
  since_le id since hmem := h.since_le id since (executing_dispatch.mp hmem)
  ready id since hmem := h.ready id since (executing_dispatch.mp hmem)
  nested := List.pairwise_cons.mpr ⟨fun _ _ _ _ _ hf => (nomatch hf), h.nested⟩

/-- Frames are dropped, and an actor whose frame is dropped may become ready. -/
theorem Answered.drop (h : d.Answered) {system : ActorSystem P} {stack : List Frame}
    (above : List Frame) (hstack : d.stack = above ++ stack) (hready : ∀ id ∈ system.readyActors,
      id ∈ d.system.readyActors ∨ ∃ n, .handler id n ∈ above) :
    Answered { d with system, stack } where
  since_le id since hmem := h.since_le id since (hstack ▸ List.mem_append_right above hmem)
  ready id since hmem hid := by
    rcases hready id hid with hold | ⟨n, habove⟩
    · exact h.ready id since (hstack ▸ List.mem_append_right above hmem) hold
    · have hnested := h.nested
      rw [hstack, List.pairwise_append] at hnested
      exact hnested.2.2 _ habove _ hmem id n since rfl rfl
  nested := by
    have hnested := h.nested
    rw [hstack, List.pairwise_append] at hnested
    exact hnested.2.1

theorem mem_of_takeMessage {s s' : ActorSystem P} {taken : Option (ActorId × Message P)}
    (h : s.takeMessage = some (s', taken)) {i : ActorId} (hi : i ∈ s'.readyActors) :
    i ∈ s.readyActors := by
  obtain ⟨id, hready, -⟩ := ActorSystem.takeMessage_ready h
  rw [hready]
  exact List.mem_cons_of_mem id hi

theorem ready_of_takeMessage {s s' : ActorSystem P} {m : Message P}
    (h : s.takeMessage = some (s', some (id, m))) : id ∈ s.readyActors := by
  obtain ⟨id', hready, ⟨-, -, htaken⟩ | ⟨cell, -, ⟨-, htaken⟩ | ⟨m', -, htaken⟩, -⟩⟩ :=
    ActorSystem.takeMessage_ready h
  · cases htaken
  · cases htaken
  · rw [hready, (Prod.mk.inj (Option.some.inj htaken)).1]
    exact List.mem_cons_self

/-- The actor that is entered is not ready, and has been sent its message. -/
theorem Answered.enter (h : d.Answered) (hrunning : d.Running) {system : ActorSystem P}
    {m : Message P} (htake : d.system.takeMessage = some (system, some (id, m))) : Answered
    { d with
      system
      stack := .handler id d.sent.length :: d.stack
      started := d.started ++ [(id, m)] } where
  since_le i since hmem := by
    rcases List.mem_cons.mp hmem with heq | hmem
    · exact Nat.le_of_eq (Frame.handler.inj heq).2
    · exact h.since_le i since hmem
  ready i since hmem hi := by
    rcases List.mem_cons.mp hmem with heq | hmem
    · obtain ⟨rfl, -⟩ := Frame.handler.inj heq
      exact absurd hi ((hrunning.ready.takeMessage htake).2 i m rfl)
    · exact h.ready i since hmem (mem_of_takeMessage htake hi)
  nested := by
    refine List.pairwise_cons.mpr ⟨fun g hg i n since hf hgf => ?_, h.nested⟩
    obtain ⟨rfl, -⟩ := Frame.handler.inj hf
    exact h.ready id since (hgf ▸ hg) (ready_of_takeMessage htake)

theorem answered_step (h : d.Answered)
    (hd : d.shuttingDown = false ∧ d.Running ∨ d.Stopped) (hstep : d.step e = some d') :
    d'.Answered := by
  cases step_cases hstep with
  | callRefused | dispatchRefused => exact h
  | call now c => exact h.sends fun id hid => ActorSystem.mem_readyActors_call hid
  | dispatchAll now =>
    refine Answered.dispatch (d := { d with system := _, sent := _ }) (h.sends fun id hid => ?_)
    refine ActorSystem.mem_readyActors_sendAll ?_
    rwa [ActorSystem.dueNow, ← ActorSystem.promote_fst]
  | shutdown => exact ⟨h.since_le, fun _ _ _ hid => (List.not_mem_nil hid).elim, h.nested⟩
  | skip htake => exact h.drop [] rfl fun id hid => .inl (mem_of_takeMessage htake hid)
  | enter htake =>
    rcases hd with ⟨-, hd⟩ | hd
    · exact h.enter hd htake
    · rw [ActorSystem.takeMessage, hd.readyActors] at htake
      cases htake
  | abandoned hstack => exact h.drop [_, _] hstack fun id hid => .inl hid
  | @returned id since stack hstack =>
    refine h.drop [_] hstack fun i hi => ?_
    refine (ActorSystem.mem_readyActors_requeue hi).imp_right fun heq => ⟨since, ?_⟩
    rw [heq]
    exact List.mem_singleton_self _
  | dispatchReturns hstack => exact h.drop [_] hstack fun id hid => .inl hid

theorem DispatchReaches.answered (h : DispatchReaches d) : d.Answered := by
  induction h with
  | init h0 =>
    obtain rfl := h0
    exact ⟨nofun, nofun, List.Pairwise.nil⟩
  | step hreaches _ hstep ih =>
    exact answered_step ih (DispatchReaches.running_or_stopped hreaches) hstep

/-- A handler that has not returned is entered again for a message that came since. -/
theorem DispatchReaches.reentered (h : DispatchReaches d) {since since' : ℕ}
    (hturn : d.step .turn = some d') (henter : d'.stack = .handler id since' :: d.stack)
    (hexec : .handler id since ∈ d.stack) : d.SentSince id since := by
  refine (DispatchReaches.answered h).ready id since hexec ?_
  cases step_cases hturn with
  | skip => exact absurd henter.symm (List.cons_ne_self _ _)
  | enter htake =>
    obtain ⟨heq, -⟩ := List.cons.inj henter
    rw [← (Frame.handler.inj heq).1]
    exact ready_of_takeMessage htake

/-- A room (1) starts a battle : it has a battle actor (2) made, sends to it and dispatches;
the battle tells the room and dispatches. -/
def startBattle : List (DispatchEvent String) :=
  [.call 0 .createActor, .call 0 (.send ⟨1, "start_battle"⟩), .dispatchAll fun _ => 0, .turn,
    .call 0 .createActor, .call 0 (.send ⟨2, "create_battle"⟩), .dispatchAll fun _ => 0, .turn,
    .call 0 (.send ⟨1, "battle_started"⟩), .dispatchAll fun _ => 0]

theorem reaches_empty : DispatchReaches ({} : Dispatcher P) := .init rfl

/-- All handlers of the start return, and the outermost dispatch is about to. -/
theorem delivers_startBattle : ∃ d : Dispatcher String, d.stack = [.dispatch] ∧
    (d.startedAt 1).map Message.payload = ["start_battle", "battle_started"] ∧ d.Delivers := by
  obtain ⟨d, hd, hstack, hstarted⟩ : ∃ d : Dispatcher String, DispatchReaches d ∧
      d.stack = [.dispatch] ∧
        (d.startedAt 1).map Message.payload = ["start_battle", "battle_started"] :=
    reaches_empty.exists_runWith (startBattle ++ ([.turn, .handlerReturns, .dispatchReturns,
      .handlerReturns, .dispatchReturns, .handlerReturns] : List (DispatchEvent String)))
      (by decide +kernel)
  exact ⟨d, hstack, hstarted, DispatchReaches.delivers hd⟩

/-- The handler of the room runs and the next turn enters it again. -/
theorem exists_reentering : ∃ d : Dispatcher String, DispatchReaches d ∧
    ∃ d', d.step .turn = some d' ∧ d'.stack = .handler 1 3 :: d.stack ∧
      .handler 1 1 ∈ d.stack := by
  obtain ⟨d, hd, hturn⟩ : ∃ d : Dispatcher String, DispatchReaches d ∧
      (d.step .turn).any fun d' => d'.stack = .handler 1 3 :: d.stack ∧ .handler 1 1 ∈ d.stack :=
    reaches_empty.exists_runWith startBattle (by decide +kernel)
  obtain ⟨d', hd', hstack, hexec⟩ := exists_of_any hturn
  exact ⟨d, hd, d', hd', hstack, hexec⟩

theorem reentered_startBattle : ∃ d : Dispatcher String, .handler 1 1 ∈ d.stack ∧
    d.SentSince 1 1 := by
  obtain ⟨d, hd, d', hturn, hstack, hexec⟩ := exists_reentering
  exact ⟨d, hexec, DispatchReaches.reentered hd hturn hstack hexec⟩

/-- The room is entered while its handler has not returned. -/
theorem not_runToCompletion : ¬∀ (d d' : Dispatcher String) (id : ActorId) (since : ℕ),
    DispatchReaches d → d.step .turn = some d' → d'.stack = .handler id since :: d.stack →
      ¬d.Executing id := by
  intro h
  obtain ⟨d, hd, d', hturn, hstack, hexec⟩ := exists_reentering
  exact h d d' 1 3 hd hturn hstack ⟨1, hexec⟩

end Dispatcher

end BoostGateway.Runtime
