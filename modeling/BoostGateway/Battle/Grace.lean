import BoostGateway.Base.Run
import BoostGateway.Battle.BattleActor

/-!
# Grace periods

A battle actor in the system that delivers its messages. A disconnect starts a grace period
by scheduling an expiry message to the actor itself, a reconnect cancels it by its id, and
the expiry ends a running battle. The expiry carries no sign of the period it belongs to,
and once it has been promoted into the mailbox it cannot be cancelled any more.

`Hosted.log` records what the handled messages meant for the grace periods. If every
reconnect is handled while the player's expiry is still scheduled (`Hosted.InTime`), no
period that saw a reconnect ends the battle (`Hosted.reconnect_wins`). A reconnect that is
handled later does not help (`Hosted.not_reconnect_wins_promoted`).

The invariant is `Hosted.Guarded` : of the expiries on their way each belongs to another
player, whose timer is set, and to a period in which the player has not reconnected.
-/

namespace BoostGateway.Battle

open BoostGateway.Runtime

/-- What a message meant for the grace periods : a disconnect with the period it started, a
reconnect, and the expiry of a period with whether it ended the battle. -/
inductive GraceEvent
  | disconnected (userId : String) (period : Option ℕ)
  | reconnected (userId : String)
  | expired (userId : String) (period : ℕ) (finishes : Bool)
  deriving DecidableEq

/-- The actor in its system, with a log. -/
structure Hosted where
  system : ActorSystem MessagePayload
  actor : BattleActor
  log : List GraceEvent := []

/-- A call from outside a dispatch, the two ends of a dispatch, and a turn in it. In a turn of
another actor its handler makes the given calls. -/
inductive HostedAction
  | call (now : TimePoint) (c : Call MessagePayload)
  | beginDispatch (now : ℕ → TimePoint)
  | turn (now : TimePoint) (calls : List (Call MessagePayload))
  | endDispatch

/-- The player and the period of an expiry for the actor. -/
def expiry? (me : ActorId) (m : Message MessagePayload) : Option (String × ℕ) :=
  match m.payload with
  | .disconnectGraceTimerExpired userId period =>
    if m.targetActor = me then some (userId, period) else none
  | _ => none

/-- Only the actor itself makes expiries of its grace periods. -/
def foreign (me : ActorId) (c : Call MessagePayload) : Bool :=
  (c.message?.bind (expiry? me)).isNone

def eventsOf (a a' : BattleActor) : MessagePayload → List GraceEvent
  | .playerDisconnected userId =>
    [.disconnected userId (if a.gracePeriods < a'.gracePeriods then some a.gracePeriods else none)]
  | .playerReconnected userId => [.reconnected userId]
  | .disconnectGraceTimerExpired userId period =>
    [.expired userId period (a.lifecycle ≠ .kFinished ∧ a'.lifecycle = .kFinished)]
  | _ => []

/-! ## Messages that leave the timers alone -/

namespace BattleActor

/-- The timers are left alone. -/
structure SameTimers (a a' : BattleActor) : Prop where
  timers : a'.disconnectGraceTimers = a.disconnectGraceTimers
  periods : a'.gracePeriods = a.gracePeriods
  world : a'.world = none → a.world = none

variable (a : BattleActor)

theorem SameTimers.refl : SameTimers a a := ⟨rfl, rfl, id⟩

theorem SameTimers.trans {a a' a'' : BattleActor} (h : SameTimers a a') (h' : SameTimers a' a'') :
    SameTimers a a'' :=
  ⟨h'.timers.trans h.timers, h'.periods.trans h.periods, fun hw => h.world (h'.world hw)⟩

/-- A new world is put in the place of one. -/
theorem sameTimers_world (w : BattleWorld) : SameTimers a { a with world := some w } :=
  ⟨rfl, rfl, nofun⟩

theorem sameTimers_finishBattle (reason : BattleFinishReason)
    (userId : String) : SameTimers a (a.finishBattle reason userId).1 := by
  unfold finishBattle
  split_ifs
  · exact .refl a
  · exact ⟨rfl, rfl, fun hw => by simpa [finished] using hw⟩

theorem sameTimers_submitInput (input : SubmitBattleInputMsg) :
    SameTimers a (a.submitInput input).1 := by
  unfold submitInput
  cases hw : a.world with
  | none => exact .refl a
  | some w =>
    dsimp only
    split_ifs
    · exact .refl a
    · exact sameTimers_world a _
    · exact sameTimers_world a _

theorem sameTimers_tick (trigger : String) : SameTimers a (a.tick trigger).1 := by
  unfold tick
  cases hw : a.world with
  | none => exact .refl a
  | some w =>
    dsimp only [advance]
    split_ifs
    · exact sameTimers_world a _
    · exact (sameTimers_world a _).trans (sameTimers_finishBattle _ _ trigger)
    · exact sameTimers_world a _

theorem sameTimers_endBattle (reason : BattleFinishReason)
    (userId : String) : SameTimers a (a.endBattle reason userId).1 := by
  unfold endBattle
  split_ifs
  · exact sameTimers_finishBattle a reason userId
  · exact .refl a

/-- An expiry only clears its player's timer. -/
theorem sameTimers_graceExpired (userId : String) :
    SameTimers { a with disconnectGraceTimers := Function.update a.disconnectGraceTimers userId none }
      (a.graceExpired userId).1 := by
  unfold graceExpired
  dsimp only
  split_ifs
  · exact sameTimers_finishBattle _ _ _
  · exact .refl _

end BattleActor

namespace Hosted

/-- The actor handles a message and is ready again if it has more. -/
def deliver (me : ActorId) (now : TimePoint) (s : Hosted) (sys : ActorSystem MessagePayload)
    (p : MessagePayload) : Hosted :=
  let o := s.actor.onMessage me now sys p
  { system := o.system.requeue me
    actor := o.actor
    log := s.log ++ eventsOf s.actor o.actor p }

def step (me : ActorId) (s : Hosted) : HostedAction → Option Hosted
  | .call now c => if foreign me c then some { s with system := s.system.call now c } else none
  | .beginDispatch now => some { s with system := s.system.promoteScheduledMessages now }
  | .turn now calls =>
    match s.system.takeMessage with
    | none => none
    | some (sys, none) => some { s with system := sys }
    | some (sys, some (id, m)) =>
      if id = me then some (s.deliver me now sys m.payload)
      else if calls.all (foreign me) then
        some { s with system := (calls.foldl (fun sys c => sys.call now c) sys).requeue id }
      else none
  | .endDispatch => s.system.endDispatch.map fun sys => { s with system := sys }

/-- A new actor in a system where none of its expiries is on the way. -/
structure Starts (me : ActorId) (s : Hosted) : Prop where
  me_ne : me ≠ 0
  actor : (s.system.mailbox? me).isSome
  addressed : s.system.Addressed me
  clear : s.system.inFlight (expiry? me) me = []
  fresh : ∃ lib raises, s.actor = { lib, raises }
  log : s.log = []

abbrev Reaches (me : ActorId) (ok : Hosted → HostedAction → Prop) : Hosted → Prop :=
  BoostGateway.Reaches (Starts me) (step me) ok

/-- The player whose reconnect is handled in the next turn. -/
def reconnecting (me : ActorId) (s : Hosted) : Option String :=
  match s.system.takeMessage with
  | some (_, some (id, m)) =>
    match m.payload with
    | .playerReconnected userId => if id = me then some userId else none
    | _ => none
  | _ => none

/-- The cancel of a reconnect comes too late : an expiry of the player is already in the
mailbox. An id of 0, after 2^64 schedules, is not cancelled either. -/
def tooLate (me : ActorId) (s : Hosted) (userId : String) : Bool :=
  (s.system.waiting (expiry? me) me).any (·.1 = userId) ||
    s.actor.disconnectGraceTimers userId = some 0

/-- No reconnect is handled too late. -/
def InTime (me : ActorId) (s : Hosted) : HostedAction → Prop
  | .turn _ _ => (s.reconnecting me).any (s.tooLate me) = false
  | _ => True

instance (me : ActorId) (s : Hosted) : DecidablePred (InTime me s)
  | .turn _ _ => inferInstanceAs (Decidable (_ = false))
  | .call _ _ | .beginDispatch _ | .endDispatch => isTrue trivial

/-- A battle is not finished by the expiry of a period in which the player reconnected. -/
def ReconnectWins (log : List GraceEvent) : Prop :=
  ∀ before between rest userId period,
    log = before ++ GraceEvent.disconnected userId (some period) :: between ++
      GraceEvent.expired userId period true :: rest →
    GraceEvent.reconnected userId ∉ between

/-! ## The invariant -/

def flight (me : ActorId) (s : Hosted) : List (String × ℕ) :=
  s.system.inFlight (expiry? me) me

/-- The period has begun, and its player has not reconnected since. -/
def IsOpen (log : List GraceEvent) (e : String × ℕ) : Prop :=
  ∃ before since, log = before ++ GraceEvent.disconnected e.1 (some e.2) :: since ∧
    GraceEvent.reconnected e.1 ∉ since

/-- What holds of the timers on their way. -/
structure Guarded (me : ActorId) (s : Hosted) : Prop where
  me_ne : me ≠ 0
  actor : (s.system.mailbox? me).isSome
  addressed : s.system.Addressed me
  world : s.actor.world = none → ∀ userId, s.actor.disconnectGraceTimers userId = none
  once : ∀ m ∈ s.system.scheduledMessages, (expiry? me m.message).isSome → m.repeatInterval = 0
  timed : ∀ m ∈ s.system.scheduledMessages, ∀ e, expiry? me m.message = some e →
    s.actor.disconnectGraceTimers e.1 = some m.scheduleId
  single : ∀ userId, (s.flight me).countP (·.1 = userId) ≤ 1
  timer : ∀ e ∈ s.flight me, (s.actor.disconnectGraceTimers e.1).isSome
  isOpen : ∀ e ∈ s.flight me, IsOpen s.log e
  begun : ∀ userId period, .disconnected userId (some period) ∈ s.log →
    period < s.actor.gracePeriods
  distinct : ∀ userId period, s.log.count (.disconnected userId (some period)) ≤ 1
  wins : ReconnectWins s.log

theorem targetActor_of_expiry {me : ActorId} (m : Message MessagePayload)
    (h : (expiry? me m).isSome) : m.targetActor = me := by
  unfold expiry? at h
  split at h
  · split_ifs at h with hto
    · exact hto
    · cases h
  · cases h

theorem Starts.guarded {me : ActorId} {s : Hosted} (h : Starts me s) : Guarded me s := by
  have hclear : s.flight me = [] := h.clear
  have hsched : ActorSystem.scheduledFor (expiry? me) s.system.scheduledMessages = [] :=
    (List.append_eq_nil_iff.mp h.clear).2
  have hnone : ∀ m ∈ s.system.scheduledMessages, expiry? me m.message = none :=
    List.filterMap_eq_nil_iff.mp hsched
  obtain ⟨lib, raises, hactor⟩ := h.fresh
  exact
    { h with
      world := fun _ _ => by rw [hactor]
      once := fun m hm hr => by simp [hnone m hm] at hr
      timed := fun m hm e hr => by simp [hnone m hm] at hr
      single := fun _ => by simp [hclear]
      timer := fun e he => by simp [hclear] at he
      isOpen := fun e he => by simp [hclear] at he
      begun := fun _ _ he => by simp [h.log] at he
      distinct := fun _ _ => by simp [h.log]
      wins := fun before between rest userId period hlog => by simp [h.log] at hlog }

variable {me : ActorId} {s : Hosted}

/-- The system may change as long as no expiry is added. -/
theorem Guarded.changeSystem (h : Guarded me s) (sys : ActorSystem MessagePayload)
    (hactor : (sys.mailbox? me).isSome) (haddressed : sys.Addressed me)
    (hsched : ∀ m ∈ sys.scheduledMessages, (expiry? me m.message).isSome →
      m ∈ s.system.scheduledMessages)
    (hflight : (sys.inFlight (expiry? me) me).Subperm (s.flight me)) :
    Guarded me { s with system := sys } :=
  { h with
    actor := hactor
    addressed := haddressed
    once := fun m hm hr => h.once m (hsched m hm hr) hr
    timed := fun m hm e he => h.timed m (hsched m hm (by simp [he])) e he
    single := fun userId => (hflight.countP_le _).trans (h.single userId)
    timer := fun e he => h.timer e (hflight.subset he)
    isOpen := fun e he => h.isOpen e (hflight.subset he) }

/-- The mailbox and the scheduled messages are all that matters of the system. -/
theorem Guarded.sameMail (h : Guarded me s) {sys : ActorSystem MessagePayload}
    (hmail : sys.mailbox? me = s.system.mailbox? me)
    (hsched : sys.scheduledMessages = s.system.scheduledMessages) :
    Guarded me { s with system := sys } := by
  refine h.changeSystem _ (by rw [hmail]; exact h.actor) (h.addressed.congr hmail)
    (fun m hm _ => by rwa [hsched] at hm) ?_
  unfold ActorSystem.inFlight
  rw [ActorSystem.waiting_congr hmail, hsched]
  exact .refl _

/-- Another timer, or a new world, does not matter to the expiries on their way. -/
theorem Guarded.changeActor (h : Guarded me s) {a : BattleActor}
    (htimers : a.disconnectGraceTimers = s.actor.disconnectGraceTimers)
    (hperiods : a.gracePeriods = s.actor.gracePeriods)
    (hworld : a.world = none → s.actor.world = none) : Guarded me { s with actor := a } :=
  { h with
    world := fun hnone => by
      rw [htimers]
      exact h.world (hworld hnone)
    timed := fun m hm e he => by
      rw [htimers]
      exact h.timed m hm e he
    timer := fun e he => by
      rw [htimers]
      exact h.timer e he
    begun := fun userId period he => by
      rw [hperiods]
      exact h.begun userId period he }

/-- The last element of a list that ends in `b` is `b`, or lies before it. -/
theorem split_concat {α : Type} {xs after : List α} {a b : α} (before : List α)
    (h : xs ++ [b] = before ++ a :: after) :
    (before = xs ∧ a = b ∧ after = []) ∨ ∃ after', after = after' ++ [b] ∧
      xs = before ++ a :: after' := by
  rcases List.eq_nil_or_concat after with rfl | ⟨after', c, rfl⟩
  · obtain ⟨hxs, hb⟩ := List.append_inj' h rfl
    exact .inl ⟨hxs.symm, (List.cons.inj hb).1.symm, rfl⟩
  · rw [List.concat_eq_append, ← List.cons_append, ← List.append_assoc] at h
    obtain ⟨hxs, hb⟩ := List.append_inj' h rfl
    obtain rfl := (List.cons.inj hb).1
    exact .inr ⟨after', List.concat_eq_append, hxs⟩

theorem IsOpen.append {log : List GraceEvent} {e : String × ℕ} (h : IsOpen log e)
    {event : GraceEvent} (hevent : event ≠ .reconnected e.1) : IsOpen (log ++ [event]) e := by
  obtain ⟨before, since, hlog, hsince⟩ := h
  refine ⟨before, since ++ [event], by rw [hlog, List.append_assoc, List.cons_append], ?_⟩
  simpa [hsince] using hevent.symm

/-- The period of an expiry is open, so nothing that came after its start was a reconnect. -/
theorem ReconnectWins.append {log : List GraceEvent} (h : ReconnectWins log)
    {event : GraceEvent} (hdistinct : ∀ userId period,
      log.count (.disconnected userId (some period)) ≤ 1)
    (hopen : ∀ userId period, event = .expired userId period true → IsOpen log (userId, period)) :
    ReconnectWins (log ++ [event]) := by
  intro before between rest userId period hlog
  rw [List.append_assoc, List.cons_append] at hlog
  rcases split_concat (before ++ GraceEvent.disconnected userId (some period) :: between)
    (by simpa using hlog) with ⟨hbefore, hevent, -⟩ | ⟨rest', -, hold⟩
  · obtain ⟨before', since, hlog', hsince⟩ := hopen userId period hevent.symm
    dsimp only at hlog' hsince
    -- the period starts only once, so it is the same start
    have hone := hdistinct userId period
    rw [← hbefore, List.count_append, List.count_cons_self] at hone
    have hone' := hdistinct userId period
    rw [hlog', List.count_append, List.count_cons_self] at hone'
    rw [hlog'] at hbefore
    have hsame := (List.append_cons_inj_of_notMem (List.count_eq_zero.mp (by omega))
      (List.count_eq_zero.mp (by omega))).mp hbefore
    rw [hsame.2.2]
    exact hsince
  · exact h before between rest' userId period (by simpa using hold)

/-- An event that starts no period, and is no reconnect of a player whose expiry is on the
way, is recorded. -/
theorem Guarded.record (h : Guarded me s) {event : GraceEvent}
    (hstart : ∀ userId period, event ≠ .disconnected userId (some period))
    (hreconnect : ∀ e ∈ s.flight me, event ≠ .reconnected e.1)
    (hopen : ∀ userId period, event = .expired userId period true →
      IsOpen s.log (userId, period)) :
    Guarded me { s with log := s.log ++ [event] } := by
  have hcount : ∀ userId period, (s.log ++ [event]).count (.disconnected userId (some period)) =
      s.log.count (.disconnected userId (some period)) := by
    intro userId period
    have hne := hstart userId period
    simp [hne]
  exact
    { h with
      isOpen := fun e he => (h.isOpen e he).append (hreconnect e he)
      begun := fun userId period he => by
        rcases List.mem_append.mp he with hold | hnew
        · exact h.begun userId period hold
        · exact absurd (List.mem_singleton.mp hnew).symm (hstart userId period)
      distinct := fun userId period => by
        rw [hcount]
        exact h.distinct userId period
      wins := h.wins.append h.distinct hopen }

/-- A timer may be cleared when no expiry of its player is on the way. -/
theorem Guarded.forget (h : Guarded me s) {userId : String}
    (hnone : ∀ e ∈ s.flight me, e.1 ≠ userId) :
    Guarded me { s with actor := { s.actor with
      disconnectGraceTimers := Function.update s.actor.disconnectGraceTimers userId none } } :=
  { h with
    world := fun hw userId' => by
      by_cases hu : userId' = userId
      · rw [hu]
        exact Function.update_self ..
      · exact (Function.update_of_ne hu ..).trans (h.world hw userId')
    timed := fun m hm e he => by
      have hmem : e ∈ s.flight me :=
        List.mem_append_right _ (List.mem_filterMap.mpr ⟨m, hm, he⟩)
      exact (Function.update_of_ne (hnone e hmem) ..).trans (h.timed m hm e he)
    timer := fun e he => by
      dsimp only
      rw [Function.update_of_ne (hnone e he)]
      exact h.timer e he }

/-- A player whose timer is not set starts a new period. -/
theorem Guarded.start (h : Guarded me s) {userId : String} {a : BattleActor}
    (htimer : s.actor.disconnectGraceTimers userId = none) (now : TimePoint)
    (hworld : a.world.isSome) (hperiods : a.gracePeriods = s.actor.gracePeriods + 1)
    (htimers : a.disconnectGraceTimers = Function.update s.actor.disconnectGraceTimers userId
      (some s.system.nextScheduleId)) :
    Guarded me
      { system := (s.system.scheduleAfter now
          ⟨me, .disconnectGraceTimerExpired userId s.actor.gracePeriods⟩ kDisconnectGracePeriod).1
        actor := a
        log := s.log ++ [.disconnected userId (some s.actor.gracePeriods)] } := by
  set expiry : Message MessagePayload :=
    ⟨me, .disconnectGraceTimerExpired userId s.actor.gracePeriods⟩ with hexpiry
  have hread : expiry? me expiry = some (userId, s.actor.gracePeriods) := by simp [expiry?, hexpiry]
  have hsystem : (s.system.scheduleAfter now expiry kDisconnectGracePeriod).1 =
      (s.system.schedule { readyAt := now + kDisconnectGracePeriod, message := expiry }).1 := by
    have hdelay : ¬kDisconnectGracePeriod ≤ 0 := by decide
    unfold ActorSystem.scheduleAfter
    rw [if_neg h.me_ne, if_neg hdelay]
  have habsent : ∀ e ∈ s.flight me, e.1 ≠ userId := by
    rintro e he rfl
    have hset := h.timer e he
    rw [htimer] at hset
    cases hset
  have hflight : (s.system.schedule
      { readyAt := now + kDisconnectGracePeriod, message := expiry }).1.inFlight (expiry? me) me =
      s.flight me ++ [(userId, s.actor.gracePeriods)] := by
    unfold flight ActorSystem.inFlight
    rw [List.append_assoc]
    refine congrArg₂ _ rfl ?_
    simp [ActorSystem.schedule, ActorSystem.scheduledFor, hread]
  have hstarts : .disconnected userId (some s.actor.gracePeriods) ∉ s.log := fun hmem =>
    absurd (h.begun userId _ hmem) (lt_irrefl _)
  rw [hsystem]
  exact
    { h with
      world := fun hw => by
        rw [show a.world = none from hw] at hworld
        cases hworld
      once := fun m hm hr => by
        rcases List.mem_append.mp hm with hold | hnew
        · exact h.once m hold hr
        · rw [List.mem_singleton.mp hnew]
      timed := fun m hm e he => by
        rw [htimers]
        rcases List.mem_append.mp hm with hold | hnew
        · have hmem : e ∈ s.flight me :=
            List.mem_append_right _ (List.mem_filterMap.mpr ⟨m, hold, he⟩)
          exact (Function.update_of_ne (habsent e hmem) ..).trans (h.timed m hold e he)
        · rw [List.mem_singleton.mp hnew] at he ⊢
          obtain rfl := Option.some.inj (hread.symm.trans he)
          exact Function.update_self ..
      single := fun userId' => by
        have hcount := h.single userId'
        change List.countP _ (ActorSystem.inFlight _ _ _) ≤ 1
        rw [hflight, List.countP_append]
        by_cases hu : userId = userId'
        · have hzero : (s.flight me).countP (·.1 = userId') = 0 :=
            List.countP_eq_zero.mpr fun e he => by simpa [hu] using habsent e he
          rw [hzero, Nat.zero_add]
          exact List.countP_le_length
        · simpa [hu] using hcount
      timer := fun e he => by
        unfold flight at he
        rw [hflight] at he
        dsimp only
        rw [htimers]
        rcases List.mem_append.mp he with hold | hnew
        · rw [Function.update_of_ne (habsent e hold)]
          exact h.timer e hold
        · rw [List.mem_singleton.mp hnew, Function.update_self]
          rfl
      isOpen := fun e he => by
        unfold flight at he
        rw [hflight] at he
        rcases List.mem_append.mp he with hold | hnew
        · exact (h.isOpen e hold).append (by simp)
        · rw [List.mem_singleton.mp hnew]
          exact ⟨s.log, [], rfl, List.not_mem_nil⟩
      begun := fun userId' period he => by
        dsimp only
        rw [hperiods]
        rcases List.mem_append.mp he with hold | hnew
        · exact (h.begun userId' period hold).trans (Nat.lt_succ_self _)
        · obtain ⟨-, hperiod⟩ : userId' = userId ∧ period = s.actor.gracePeriods := by
            simpa using hnew
          omega
      distinct := fun userId' period => by
        rw [List.count_append]
        by_cases hsame : GraceEvent.disconnected userId' (some period) =
            .disconnected userId (some s.actor.gracePeriods)
        · rw [hsame, List.count_eq_zero.mpr hstarts]
          simp
        · have hnew : [GraceEvent.disconnected userId (some s.actor.gracePeriods)].count
              (.disconnected userId' (some period)) = 0 :=
            List.count_eq_zero.mpr (by simpa using hsame)
          rw [hnew]
          exact h.distinct userId' period
      wins := h.wins.append h.distinct fun _ _ => by rintro ⟨⟩ }

/-! ## Steps -/

theorem Guarded.requeue (h : Guarded me s) (id : ActorId) :
    Guarded me { s with system := s.system.requeue id } :=
  h.sameMail (congrFun (s.system.mailbox?_requeue id) me) (s.system.scheduledMessages_requeue id)

theorem Guarded.disconnect (h : Guarded me s) (now : TimePoint) (userId : String) :
    Guarded me
      { system := (s.actor.disconnect me now s.system userId).system
        actor := (s.actor.disconnect me now s.system userId).actor
        log := s.log ++ eventsOf s.actor (s.actor.disconnect me now s.system userId).actor
          (.playerDisconnected userId) } := by
  have hidle : Guarded me { s with log := s.log ++ [.disconnected userId none] } :=
    h.record nofun (fun _ _ => nofun) nofun
  unfold BattleActor.disconnect
  cases hw : s.actor.world with
  | none => simpa [eventsOf] using hidle
  | some w =>
    dsimp only
    by_cases htimer : (s.actor.disconnectGraceTimers userId).isSome
    · rw [if_pos htimer]
      simpa [eventsOf] using hidle.changeActor (a := { s.actor with
        world := some (w.handleDisconnect userId) }) rfl rfl nofun
    · rw [if_neg htimer]
      have hdelay : ¬kDisconnectGracePeriod ≤ 0 := by decide
      have hnone : s.actor.disconnectGraceTimers userId = none := by simpa using htimer
      have hstart := h.start (a := { s.actor with
        world := some (w.handleDisconnect userId)
        disconnectGraceTimers := Function.update s.actor.disconnectGraceTimers userId
          (some s.system.nextScheduleId)
        gracePeriods := s.actor.gracePeriods + 1 }) hnone now rfl rfl rfl
      simpa [eventsOf, ActorSystem.scheduleAfter, ActorSystem.schedule, h.me_ne, hdelay] using hstart

/-- A reconnect that is handled in time leaves no expiry of the player on the way. -/
theorem Guarded.reconnect (h : Guarded me s) {userId : String}
    (hintime : s.tooLate me userId = false) :
    Guarded me
      { system := (s.actor.reconnect s.system userId).system
        actor := (s.actor.reconnect s.system userId).actor
        log := s.log ++ [.reconnected userId] } := by
  obtain ⟨hwaiting, hzero⟩ : (∀ e ∈ s.system.waiting (expiry? me) me, e.1 ≠ userId) ∧
      s.actor.disconnectGraceTimers userId ≠ some 0 := by
    simpa [tooLate] using hintime
  have hrecord : ∀ {s' : Hosted}, Guarded me s' → s'.log = s.log →
      (∀ e ∈ s'.flight me, e.1 ≠ userId) →
      Guarded me { s' with log := s.log ++ [.reconnected userId] } := by
    intro s' h' hlog hnone
    rw [← hlog]
    exact h'.record (fun _ _ => by rintro ⟨⟩)
      (fun e he heq => hnone e he (GraceEvent.reconnected.inj heq).symm) fun _ _ => by rintro ⟨⟩
  -- without a timer no expiry is on the way
  have habsent : s.actor.disconnectGraceTimers userId = none → ∀ e ∈ s.flight me, e.1 ≠ userId := by
    rintro hnone e he rfl
    have hset := h.timer e he
    rw [hnone] at hset
    cases hset
  unfold BattleActor.reconnect
  cases hw : s.actor.world with
  | none => exact hrecord h rfl (habsent (h.world hw userId))
  | some w =>
    dsimp only
    cases htimer : s.actor.disconnectGraceTimers userId with
    | none =>
      exact hrecord (h.changeActor (a := { s.actor with world := some (w.setOnline userId) })
        rfl rfl (by rintro ⟨⟩)) rfl (habsent htimer)
    | some scheduleId =>
      have hne : scheduleId ≠ 0 := fun h0 => hzero (by rw [htimer, h0])
      have hcancel : BattleActor.cancelSchedule s.system scheduleId =
          s.system.cancelSchedule scheduleId := if_neg hne
      have hsub : ((s.system.cancelSchedule scheduleId).inFlight (expiry? me) me).Sublist
          (s.flight me) :=
        ActorSystem.inFlight_call (c := .cancelSchedule scheduleId) 0 h.actor (by rintro _ ⟨⟩)
      -- what was scheduled for the player carried the timer's id
      have hgone : ∀ e ∈ (s.system.cancelSchedule scheduleId).inFlight (expiry? me) me,
          e.1 ≠ userId := by
        rintro e he rfl
        rcases List.mem_append.mp he with hwait | hsched
        · exact hwaiting e hwait rfl
        · obtain ⟨m, hm, hr⟩ := List.mem_filterMap.mp hsched
          obtain ⟨hmem, hid⟩ : m ∈ s.system.scheduledMessages ∧ m.scheduleId ≠ scheduleId := by
            simpa [ActorSystem.cancelSchedule] using hm
          have htimed := h.timed m hmem e hr
          rw [htimer] at htimed
          exact hid (Option.some.inj htimed).symm
      have hcancelled := h.changeSystem (s.system.cancelSchedule scheduleId) h.actor
        h.addressed (fun m hm _ => (List.mem_filter.mp hm).1) hsub.subperm
      have hforgot := hcancelled.forget hgone
      dsimp only
      rw [hcancel]
      exact hrecord (hforgot.changeActor (a := { s.actor with
        world := some (w.setOnline userId)
        disconnectGraceTimers := Function.update s.actor.disconnectGraceTimers userId none })
        rfl rfl (by rintro ⟨⟩)) rfl hgone

/-- The actor handles the expiry of an open period, the only one of its player. -/
theorem Guarded.expire (h : Guarded me s) {userId : String} {period : ℕ}
    (hopen : IsOpen s.log (userId, period)) (hnone : ∀ e ∈ s.flight me, e.1 ≠ userId) :
    Guarded me
      { system := s.system
        actor := (s.actor.graceExpired userId).1
        log := s.log ++ eventsOf s.actor (s.actor.graceExpired userId).1
          (.disconnectGraceTimerExpired userId period) } := by
  have hsame := s.actor.sameTimers_graceExpired userId
  have hactor := (h.forget hnone).changeActor hsame.timers hsame.periods hsame.world
  refine hactor.record nofun (fun _ _ => nofun) fun userId' period' heq => ?_
  obtain ⟨rfl, rfl, -⟩ := GraceEvent.expired.inj heq
  exact hopen

/-- A message that is not about grace periods leaves the timers alone. -/
theorem sameTimers_onMessage {p : MessagePayload} (a : BattleActor) (now : TimePoint)
    (sys : ActorSystem MessagePayload) (hevents : ∀ a a', eventsOf a a' p = []) :
    (a.onMessage me now sys p).system = sys ∧
      BattleActor.SameTimers a (a.onMessage me now sys p).actor := by
  cases p with
  | createBattle msg => exact ⟨rfl, a.sameTimers_world _⟩
  | submitBattleInput msg => exact ⟨rfl, a.sameTimers_submitInput msg⟩
  | tickBattle trigger => exact ⟨rfl, a.sameTimers_tick trigger⟩
  | endBattle reason userId => exact ⟨rfl, a.sameTimers_endBattle reason userId⟩
  | frameAck msg => exact ⟨rfl, rfl, rfl, Option.map_eq_none_iff.mp⟩
  | playerDisconnected userId => cases hevents a a
  | playerReconnected userId => cases hevents a a
  | disconnectGraceTimerExpired userId period => cases hevents a a
  | other => exact ⟨rfl, .refl a⟩

theorem Guarded.deliver (h : Guarded me s) (now : TimePoint) {sys : ActorSystem MessagePayload}
    {m : Message MessagePayload} (htake : s.system.takeMessage = some (sys, some (me, m)))
    (hintime : ∀ userId, m.payload = .playerReconnected userId → s.tooLate me userId = false) :
    Guarded me (s.deliver me now sys m.payload) := by
  have hflight : s.flight me = (expiry? me m).toList ++ sys.inFlight (expiry? me) me :=
    ActorSystem.inFlight_takeMessage htake
  obtain ⟨hsched, mailbox, hmail, hmail'⟩ := ActorSystem.takeMessage_cases htake
  have hto : m.targetActor = me := h.addressed m (by rw [hmail]; exact List.mem_cons_self)
  have htaken : Guarded me { s with system := sys } := by
    refine h.changeSystem _ (by rw [hmail']; simp) (h.addressed.takeMessage htake)
      (fun m hm _ => by rwa [← hsched]) ?_
    rw [hflight]
    exact (List.sublist_append_right _ _).subperm
  unfold Hosted.deliver
  refine Guarded.requeue (s := { system := _, actor := _, log := _ }) ?_ me
  have hkeep : (∀ a a', eventsOf a a' m.payload = []) →
      Guarded me
        { system := (s.actor.onMessage me now sys m.payload).system
          actor := (s.actor.onMessage me now sys m.payload).actor
          log := s.log ++ eventsOf s.actor (s.actor.onMessage me now sys m.payload).actor
            m.payload } := by
    intro hevents
    obtain ⟨hsystem, hsame⟩ : (s.actor.onMessage me now sys m.payload).system = sys ∧ _ :=
      sameTimers_onMessage s.actor now sys hevents
    rw [hsystem, hevents, List.append_nil]
    exact htaken.changeActor hsame.timers hsame.periods hsame.world
  cases hp : m.payload with
  | playerDisconnected userId => exact htaken.disconnect now userId
  | playerReconnected userId =>
    -- the reconnect itself was first in the mailbox
    have hread : expiry? me m = none := by simp [expiry?, hp]
    have hlate : tooLate me { s with system := sys } userId = false := by
      have hlate := hintime userId hp
      unfold tooLate ActorSystem.waiting at hlate ⊢
      rw [hmail] at hlate
      dsimp only
      rw [hmail']
      simpa [hread] using hlate
    exact htaken.reconnect hlate
  | disconnectGraceTimerExpired userId period =>
    have hread : expiry? me m = some (userId, period) := by simp [expiry?, hp, hto]
    rw [hread] at hflight
    have hmem : (userId, period) ∈ s.flight me := by
      rw [hflight]
      exact List.mem_cons_self
    refine htaken.expire (h.isOpen _ hmem) ?_
    rintro e he rfl
    have hone := h.single e.1
    rw [hflight] at hone
    have htwo : 0 < (sys.inFlight (expiry? me) me).countP fun e' => e'.1 = e.1 :=
      List.countP_pos_iff.mpr ⟨e, he, by simp⟩
    simp only [Option.toList_some, List.singleton_append, List.countP_cons_of_pos, decide_true] at hone
    omega
  | createBattle msg => exact hp ▸ hkeep (by rw [hp]; exact fun _ _ => rfl)
  | submitBattleInput msg => exact hp ▸ hkeep (by rw [hp]; exact fun _ _ => rfl)
  | tickBattle trigger => exact hp ▸ hkeep (by rw [hp]; exact fun _ _ => rfl)
  | endBattle reason userId => exact hp ▸ hkeep (by rw [hp]; exact fun _ _ => rfl)
  | frameAck msg => exact hp ▸ hkeep (by rw [hp]; exact fun _ _ => rfl)
  | other => exact hp ▸ hkeep (by rw [hp]; exact fun _ _ => rfl)

theorem Guarded.call (h : Guarded me s) (now : TimePoint) {c : Call MessagePayload}
    (hc : foreign me c = true) : Guarded me { s with system := s.system.call now c } := by
  have hnone : ∀ m ∈ c.message?, expiry? me m = none := by
    intro m hm
    simpa [foreign, Option.mem_def.mp hm] using hc
  exact h.changeSystem _ (ActorSystem.isSome_mailbox?_call now c h.actor)
    (h.addressed.call h.actor now c)
    (fun m hm hr => ActorSystem.mem_scheduledMessages_call hnone hm hr)
    (ActorSystem.inFlight_call now h.actor hnone).subperm

theorem Guarded.beginDispatch (h : Guarded me s) (now : ℕ → TimePoint) :
    Guarded me { s with system := s.system.promoteScheduledMessages now } := by
  refine h.changeSystem _ ?_ (h.addressed.promote now s.system.scheduledMessages)
    (fun m hm hr => ActorSystem.mem_promote h.once hm hr)
    (ActorSystem.inFlight_promote targetActor_of_expiry h.me_ne now h.actor h.once).subperm
  exact (ActorSystem.isSome_mailbox?_promote now s.system s.system.scheduledMessages).trans h.actor

/-- The calls of another actor's handler, and the end of its turn. -/
theorem Guarded.others (h : Guarded me s) (now : TimePoint) {calls : List (Call MessagePayload)}
    (hcalls : calls.all (foreign me) = true) (id : ActorId) :
    Guarded me { s with
      system := (calls.foldl (fun sys c => sys.call now c) s.system).requeue id } := by
  induction calls generalizing s with
  | nil => exact h.requeue id
  | cons c calls ih =>
    obtain ⟨hc, hrest⟩ : foreign me c = true ∧ calls.all (foreign me) = true := by
      simpa using hcalls
    exact ih (h.call now hc) hrest

theorem Guarded.step (h : Guarded me s) {a : HostedAction} {s' : Hosted} (hok : InTime me s a)
    (hstep : s.step me a = some s') : Guarded me s' := by
  cases a with
  | call now c =>
    unfold Hosted.step at hstep
    dsimp only at hstep
    split_ifs at hstep with hc
    obtain rfl := Option.some.inj hstep
    exact h.call now hc
  | beginDispatch now =>
    obtain rfl := Option.some.inj hstep
    exact h.beginDispatch now
  | endDispatch =>
    obtain ⟨sys, hend, rfl⟩ := Option.map_eq_some_iff.mp hstep
    unfold ActorSystem.endDispatch at hend
    split_ifs at hend
    obtain rfl := Option.some.inj hend
    exact h.sameMail rfl rfl
  | turn now calls =>
    unfold Hosted.step at hstep
    dsimp only at hstep
    split at hstep
    · cases hstep
    · next sys htake =>
      obtain rfl := Option.some.inj hstep
      obtain ⟨hsched, hmail⟩ := ActorSystem.takeMessage_cases htake
      exact h.sameMail (congrFun hmail me) hsched
    · next sys id m htake =>
      split_ifs at hstep with hid hcalls
      · subst hid
        obtain rfl := Option.some.inj hstep
        refine h.deliver now htake fun userId hp => ?_
        simpa [InTime, reconnecting, htake, hp] using hok
      · obtain rfl := Option.some.inj hstep
        have hmail : _ = s.system.mailbox? me := ActorSystem.mailbox?_takeMessage_of_ne htake
          (fun m' heq => hid (by injection heq with heq; exact (Prod.mk.inj heq).1))
        have htaken := h.sameMail hmail (ActorSystem.takeMessage_cases htake).1
        exact htaken.others now hcalls id

/-- In every run in which reconnects are handled in time, no battle is finished by the expiry
of a grace period in which the player reconnected. -/
theorem reconnect_wins (h : Reaches me (InTime me) s) : ReconnectWins s.log :=
  (h.invariant (P := Guarded me) (fun _ h0 => h0.guarded)
    fun _ _ _ hs hok hstep => hs.step hok hstep).wins

/-- The only actor of its system. -/
def hosting : Hosted where
  system := ({} : ActorSystem MessagePayload).createActor
  actor := { lib := .plain }

theorem starts_hosting : Starts 1 hosting where
  me_ne := by decide
  actor := rfl
  addressed := nofun
  clear := rfl
  fresh := ⟨.plain, fun _ => false, rfl⟩
  log := rfl

/-- Code outside tells the actor. -/
def tell (p : MessagePayload) : HostedAction := .call 0 (.send ⟨1, p⟩)

/-- A dispatch of so many messages at a time. -/
def dispatch (now : TimePoint) (messages : ℕ) : List HostedAction :=
  .beginDispatch (fun _ => now) :: List.replicate messages (.turn now []) ++ [.endDispatch]

/-- A player leaves, returns at once, and leaves for good. -/
def returning : List HostedAction :=
  [tell (.createBattle BattleActor.duel), tell (.playerDisconnected "owner")] ++ dispatch 0 2 ++
    [tell (.playerReconnected "owner")] ++ dispatch 1 1 ++
    [tell (.playerDisconnected "owner")] ++ dispatch 2 1 ++
    dispatch (kDisconnectGracePeriod + 1) 0 ++ dispatch (kDisconnectGracePeriod + 2) 1

theorem reconnect_wins_returning : ∃ s, Reaches 1 (InTime 1) s ∧
    s.log = [.disconnected "owner" (some 0), .reconnected "owner",
      .disconnected "owner" (some 1), .expired "owner" 1 true] ∧ ReconnectWins s.log := by
  have hstart : Reaches 1 (InTime 1) hosting := .init starts_hosting
  obtain ⟨s, hrun, hlog⟩ := hstart.exists_runWith
    (P := fun s => s.log = [.disconnected "owner" (some 0), .reconnected "owner",
      .disconnected "owner" (some 1), .expired "owner" 1 true])
    returning (by decide +kernel)
  exact ⟨s, hrun, hlog, reconnect_wins hrun⟩

/-- The player's return is waiting in the mailbox when the expiry is promoted behind it. -/
def returningLate : List HostedAction :=
  [tell (.createBattle BattleActor.duel), tell (.playerDisconnected "owner")] ++ dispatch 0 2 ++
    [tell (.playerReconnected "owner")] ++ dispatch kDisconnectGracePeriod 2

theorem not_reconnect_wins_promoted :
    ∃ s, Reaches 1 (fun _ _ => True) s ∧ ¬ReconnectWins s.log := by
  have hstart : Reaches 1 (fun _ _ => True) hosting := .init starts_hosting
  obtain ⟨s, hrun, hlog⟩ := hstart.exists_runWith
    (P := fun s => s.log = [.disconnected "owner" (some 0), .reconnected "owner",
      .expired "owner" 0 true])
    returningLate (by decide +kernel)
  refine ⟨s, hrun, fun hwins => ?_⟩
  exact hwins [] [.reconnected "owner"] [] "owner" 0 (by rw [hlog]; rfl) List.mem_cons_self

end Hosted

end BoostGateway.Battle
