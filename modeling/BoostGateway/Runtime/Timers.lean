import BoostGateway.Runtime.Dispatch
import Mathlib

/-!
# Timers

`Request` are the calls of the actor system that send a message later, and `Request.timer` is
what a caller asks for : a time by the clock or a number of dispatches, and how often. A run of
requests, cancellations and dispatches is recorded (`Timing.history`, the newest entry first) :
every request stamps its message with its number, which the system does not read, so that a
dispatch shows which timers it sent and a cancellation which it stopped.

The messages that wait are the timers of the history (`Tracked`). From this, a timer is sent in
the dispatches in which it is due and in no other (`Once`, `Repeating`), and a cancellation
stops the timer whose id it names. The id 0 stands for no timer, but messages that wait for
dispatches bear it too, and a cancellation of 0 stops them all
(`Timing.Reaches.timers_iff`).
-/

namespace BoostGateway.Runtime

variable {P Q : Type}

/-- The calls that send a message later. -/
inductive Request (P : Type)
  | sendAfter (message : Message P) (dispatchDelay : UInt64)
  | sendAfterTime (message : Message P) (delay : Duration)
  | sendAt (message : Message P) (readyAt : TimePoint)
  | scheduleAfter (message : Message P) (delay : Duration)
  | scheduleAt (message : Message P) (readyAt : TimePoint)
  | scheduleEvery (message : Message P) (initialDelay interval : Duration)
      (maxRepetitions : Option ℕ)

namespace ActorSystem

variable (s : ActorSystem P)

/-- `send_after` with a time. -/
def sendAfterTime (now : TimePoint) (m : Message P) (delay : Duration) : ActorSystem P :=
  if m.targetActor = 0 then s
  else if delay ≤ 0 then s.send m
  else (s.scheduleAfter now m delay).1

/-- `schedule_after` with a point of time. -/
def scheduleAt (now : TimePoint) (m : Message P) (readyAt : TimePoint) :
    ActorSystem P × ScheduleId :=
  if m.targetActor = 0 then (s, 0)
  else if readyAt ≤ now then (s.send m, 0)
  else s.schedule { readyAt := readyAt, message := m }

/-- The system after the call, and the id it returns if it returns one. -/
def request (now : TimePoint) :
    Request P → ActorSystem P × Option ScheduleId
  | .sendAfter m dispatchDelay => (s.sendAfter m dispatchDelay, none)
  | .sendAfterTime m delay => (s.sendAfterTime now m delay, none)
  | .sendAt m readyAt => (s.sendAt m readyAt, none)
  | .scheduleAfter m delay => (s.scheduleAfter now m delay).map id some
  | .scheduleAt m readyAt => (s.scheduleAt now m readyAt).map id some
  | .scheduleEvery m initialDelay interval maxRepetitions =>
    (s.scheduleEvery now m initialDelay interval maxRepetitions).map id some

end ActorSystem

/-! ## What is asked for -/

/-- A timer waits for the end of so many dispatches, or for a time. -/
inductive Due
  | dispatches (rounds : ℕ)
  | clock (time : TimePoint)

def Due.later : Due → Duration → Due
  | .dispatches rounds, _ => .dispatches rounds
  | .clock time, interval => .clock (time + interval)

/-- A round and the next id that have not run out of their 64 bits. -/
def Due.Fits (nextScheduleId : ScheduleId) : Due → Prop
  | .dispatches rounds => rounds < 2 ^ 64
  | .clock _ => nextScheduleId + 1 ≠ 0

instance (nextScheduleId : ScheduleId) : ∀ due : Due, Decidable (due.Fits nextScheduleId)
  | .dispatches rounds => inferInstanceAs (Decidable (rounds < 2 ^ 64))
  | .clock _ => inferInstanceAs (Decidable (nextScheduleId + 1 ≠ 0))

/-- `left` is how often it is still sent, if that is limited. -/
structure Timer where
  due : Due
  interval : Duration := 0
  left : Option ℕ := some 1

namespace Timer

def dueAt (t : Timer) (rounds : ℕ) (time : TimePoint) : Prop :=
  match t.due with
  | .dispatches dueRounds => dueRounds ≤ rounds
  | .clock dueTime => dueTime ≤ time

/-- Due so many intervals later. -/
def after (k : ℕ) (t : Timer) : Timer := { t with due := t.due.later (k * t.interval) }

/-- What is left of a timer that has been sent. -/
def next (t : Timer) : Option Timer :=
  if t.left = some 1 then none
  else some { t with due := t.due.later t.interval, left := t.left.map (· - 1) }

/-- What is left of it after so many sendings. -/
def remaining (t : Timer) : ℕ → Option Timer
  | 0 => some t
  | k + 1 => (t.remaining k).bind next

end Timer

def Message.stamp (number : ℕ) (m : Message P) : Message (ℕ × P) where
  targetActor := m.targetActor
  payload := (number, m.payload)

namespace Request

def message : Request P → Message P
  | .sendAfter m _ | .sendAfterTime m _ | .sendAt m _ | .scheduleAfter m _ | .scheduleAt m _
  | .scheduleEvery m _ _ _ => m

/-- The timer that a request makes. One that is due at once makes none. -/
def timer (rounds : ℕ) (now : TimePoint) : Request P → Option Timer
  | .sendAfter m dispatchDelay =>
    if m.targetActor = 0 ∨ dispatchDelay = 0 then none
    else some { due := .dispatches (rounds + dispatchDelay.toNat) }
  | .sendAfterTime m delay | .scheduleAfter m delay =>
    if m.targetActor = 0 ∨ delay ≤ 0 then none else some { due := .clock (now + delay) }
  | .sendAt m readyAt =>
    if m.targetActor = 0 then none else some { due := .clock readyAt }
  | .scheduleAt m readyAt =>
    if m.targetActor = 0 ∨ readyAt ≤ now then none else some { due := .clock readyAt }
  | .scheduleEvery m initialDelay interval maxRepetitions =>
    if m.targetActor = 0 ∨ interval ≤ 0 ∨ maxRepetitions = some 0 then none
    else some {
      due := .clock (now + if initialDelay ≤ 0 then interval else initialDelay)
      interval := interval
      left := maxRepetitions }

/-- The same request with a number on its message. -/
def stamp (number : ℕ) : Request P → Request (ℕ × P)
  | .sendAfter m dispatchDelay => .sendAfter (m.stamp number) dispatchDelay
  | .sendAfterTime m delay => .sendAfterTime (m.stamp number) delay
  | .sendAt m readyAt => .sendAt (m.stamp number) readyAt
  | .scheduleAfter m delay => .scheduleAfter (m.stamp number) delay
  | .scheduleAt m readyAt => .scheduleAt (m.stamp number) readyAt
  | .scheduleEvery m initialDelay interval maxRepetitions =>
    .scheduleEvery (m.stamp number) initialDelay interval maxRepetitions

end Request

/-! ## Runs -/

/-- A request with its number and the id that was returned, the stamps that a cancellation
stopped, and the stamps that a dispatch sent, with the reading of the clock for each timer. -/
inductive Entry
  | requested (number : ℕ) (returned : Option ScheduleId) (timer : Option Timer)
  | cancelled (id : ScheduleId) (stopped : List ℕ)
  | dispatched (rounds : ℕ) (clock : ℕ → TimePoint) (sent : List ℕ)

/-- The newest entry of the history is the first. -/
structure Timing (P : Type) where
  system : ActorSystem (ℕ × P) := {}
  rounds : ℕ := 0
  history : List Entry := []

/-- A dispatch begins with a promotion. All that happens to actors and mailboxes, in a
dispatch or not, is `elsewhere`. -/
inductive TimerEvent (P : Type)
  | request (now : TimePoint) (r : Request P)
  | cancelSchedule (id : ScheduleId)
  | beginDispatch (now : ℕ → TimePoint)
  | elsewhere (actors : ActorId → Option (ActorCell (ℕ × P))) (readyActors : List ActorId)
      (nextActorId : ActorId)
  | endDispatch

def ScheduledMessage.number (m : ScheduledMessage (ℕ × P)) : ℕ := m.message.payload.1

namespace Timing

variable (t : Timing P)

def stopped (id : ScheduleId) : List ℕ :=
  (t.system.scheduledMessages.filter (·.scheduleId = id)).map (·.number)

def sent (now : ℕ → TimePoint) : List ℕ :=
  (t.system.dueNow now).map (·.payload.1)

/-- The reading of the clock that a promotion takes for a timer. -/
def clock (now : ℕ → TimePoint) (number : ℕ) : TimePoint :=
  now (t.system.scheduledMessages.findIdx (·.number = number))

def step : TimerEvent P → Option (Timing P)
  | .request now r =>
    let number := t.history.length
    let (system, returned) := t.system.request now (r.stamp number)
    some { t with
      system
      history := .requested number returned (r.timer t.rounds now) :: t.history }
  | .cancelSchedule id =>
    some { t with
      system := t.system.cancelSchedule id
      history := .cancelled id (t.stopped id) :: t.history }
  | .beginDispatch now =>
    some { t with
      system := t.system.promoteScheduledMessages now
      history := .dispatched t.rounds (t.clock now) (t.sent now) :: t.history }
  | .elsewhere actors readyActors nextActorId =>
    some { t with system := { t.system with actors, readyActors, nextActorId } }
  | .endDispatch =>
    t.system.endDispatch.map fun system => { t with system, rounds := t.rounds + 1 }

/-- Rounds and ids stay within their 64 bits. -/
def Fits (t : Timing P) : TimerEvent P → Prop
  | .request now r => ∀ timer ∈ r.timer t.rounds now, timer.due.Fits t.system.nextScheduleId
  | .endDispatch => t.rounds + 1 < 2 ^ 64
  | _ => True

instance (t : Timing P) : ∀ e, Decidable (t.Fits e)
  | .request now r => inferInstanceAs
    (Decidable (∀ timer ∈ r.timer t.rounds now, timer.due.Fits t.system.nextScheduleId))
  | .endDispatch => inferInstanceAs (Decidable (t.rounds + 1 < 2 ^ 64))
  | .cancelSchedule _ | .beginDispatch _ | .elsewhere _ _ _ => isTrue trivial

abbrev Reaches : Timing P → Prop := BoostGateway.Reaches (· = {}) step Fits

end Timing

/-! ## What the history says of a timer -/

/-- The timer that a request made, as long as it waits. -/
def follow (number : ℕ) : List Entry → Option Timer
  | [] => none
  | .requested j _ timer :: h => if j = number then timer else follow number h
  | .cancelled _ stopped :: h => if number ∈ stopped then none else follow number h
  | .dispatched _ _ sent :: h =>
    if number ∈ sent then (follow number h).bind Timer.next else follow number h

/-- Requests are numbered, and a dispatch sends the timers that are due. -/
def Recorded : List Entry → Prop
  | [] => True
  | .requested number _ timer :: h =>
    number = h.length ∧ (∀ t ∈ timer, t.left ≠ some 0) ∧ Recorded h
  | .cancelled _ _ :: h => Recorded h
  | .dispatched rounds clock sent :: h => (∀ number, sent.count number ≤ 1 ∧
      (number ∈ sent ↔ ∃ t ∈ follow number h, t.dueAt rounds (clock number))) ∧ Recorded h

namespace Entry

def Stops (number : ℕ) : Entry → Prop
  | .cancelled _ stopped => number ∈ stopped
  | _ => False

/-- A dispatch in which the timer is due. -/
def MeetsDue (timer : Timer) (number : ℕ) : Entry → Prop
  | .dispatched rounds clock _ => timer.dueAt rounds (clock number)
  | _ => False

/-- The request with this number returned the id. -/
def returns (number : ℕ) (id : ScheduleId) : Entry → Bool
  | .requested j (some returned) _ => j = number ∧ returned = id
  | _ => false

/-- How often the entry sends the timer. -/
def sendings (number : ℕ) : Entry → ℕ
  | .dispatched _ _ sent => sent.count number
  | _ => 0

end Entry

/-- How often the timer is sent. -/
def sendings (number : ℕ) (h : List Entry) : ℕ := (h.map (·.sendings number)).sum

/-- A timer that is sent once is sent in the first dispatch in which it is due, unless it is
stopped before, and in no other. -/
def Once (h : List Entry) : Prop :=
  ∀ later rounds clock sent between number returned timer earlier,
    h = later ++ .dispatched rounds clock sent ::
      (between ++ .requested number returned (some timer) :: earlier) → timer.left = some 1 →
    sent.count number ≤ 1 ∧ (number ∈ sent ↔ timer.dueAt rounds (clock number) ∧
      ∀ e ∈ between, ¬e.Stops number ∧ ¬e.MeetsDue timer number)

/-- A timer is sent at most as often as it was asked for, each time not before it is due that
time, and not any more when it has been stopped. -/
def Repeating (h : List Entry) : Prop :=
  (∀ after number returned timer earlier,
    h = after ++ .requested number returned (some timer) :: earlier →
      ∀ n, timer.left = some n → sendings number after ≤ n) ∧
  ∀ later rounds clock sent between number returned timer earlier,
    h = later ++ .dispatched rounds clock sent ::
      (between ++ .requested number returned (some timer) :: earlier) → number ∈ sent →
    (timer.after (sendings number between)).dueAt rounds (clock number) ∧
      ∀ e ∈ between, ¬e.Stops number

section History

variable {number : ℕ} {returned : Option ScheduleId} {timer t : Timer}
  {h after earlier : List Entry}

@[simp]
theorem sendings_cons (e : Entry) :
    sendings number (e :: h) = e.sendings number + sendings number h := by
  simp [sendings]

theorem Recorded.of_append (h : Recorded (after ++ earlier)) : Recorded earlier := by
  induction after with
  | nil => exact h
  | cons e after ih =>
    cases e with
    | requested j returned timer => exact ih h.2.2
    | cancelled id stopped => exact ih h
    | dispatched rounds clock sent => exact ih h.2

/-- A number that no request has yet. -/
theorem follow_of_length_le (hrec : Recorded h) (hn : h.length ≤ number) :
    follow number h = none := by
  induction h with
  | nil => rfl
  | cons e h ih =>
    have hlt : h.length < number := hn
    cases e with
    | requested j returned timer =>
      unfold follow
      rw [if_neg (by rw [hrec.1]; exact Nat.ne_of_lt hlt)]
      exact ih hrec.2.2 (Nat.le_of_lt hlt)
    | cancelled id stopped =>
      unfold follow
      rw [ih hrec (Nat.le_of_lt hlt), ite_self]
    | dispatched rounds clock sent =>
      unfold follow
      rw [ih hrec.2 (Nat.le_of_lt hlt)]
      exact ite_self none

/-- Later requests have later numbers. -/
theorem number_ne {j : ℕ} {returned' : Option ScheduleId} {timer' : Option Timer}
    (hrec : Recorded (.requested j returned' timer' ::
      (after ++ .requested number returned (some timer) :: earlier))) : j ≠ number := by
  have hj := hrec.1
  have hnumber : number = earlier.length := hrec.2.2.of_append.1
  simp only [List.length_append, List.length_cons] at hj
  omega

theorem follow_of_stops
    (hrec : Recorded (after ++ .requested number returned (some timer) :: earlier))
    (hstops : ∃ e ∈ after, e.Stops number) :
    follow number (after ++ .requested number returned (some timer) :: earlier) = none := by
  induction after with
  | nil => simp at hstops
  | cons e after ih =>
    rw [List.exists_mem_cons_iff] at hstops
    rw [List.cons_append] at hrec ⊢
    cases e with
    | requested j returned' timer' =>
      unfold follow
      rw [if_neg (number_ne hrec)]
      exact ih hrec.2.2 (hstops.resolve_left id)
    | cancelled id stopped =>
      unfold follow
      split_ifs with hmem
      · rfl
      · exact ih hrec (hstops.resolve_left hmem)
    | dispatched rounds clock sent =>
      unfold follow
      rw [ih hrec.2 (hstops.resolve_left id)]
      exact ite_self none

/-- A timer that is not stopped has been sent so many times. -/
theorem follow_of_not_stops
    (hrec : Recorded (after ++ .requested number returned (some timer) :: earlier))
    (hstops : ∀ e ∈ after, ¬e.Stops number) :
    follow number (after ++ .requested number returned (some timer) :: earlier) =
      timer.remaining (sendings number after) := by
  induction after with
  | nil => exact if_pos rfl
  | cons e after ih =>
    rw [List.forall_mem_cons] at hstops
    rw [List.cons_append] at hrec ⊢
    cases e with
    | requested j returned' timer' =>
      unfold follow
      rw [if_neg (number_ne hrec), ih hrec.2.2 hstops.2]
      simp [Entry.sendings]
    | cancelled id stopped =>
      have hmem : number ∉ stopped := hstops.1
      unfold follow
      rw [if_neg hmem, ih hrec hstops.2]
      simp [Entry.sendings]
    | dispatched rounds clock sent =>
      have hcount := (hrec.1 number).1
      unfold follow
      rw [ih hrec.2 hstops.2]
      split_ifs with hmem
      · have hone : sent.count number = 1 :=
          Nat.le_antisymm hcount (List.count_pos_iff.mpr hmem)
        rw [sendings_cons, Entry.sendings, hone, Nat.add_comm]
        rfl
      · simp [Entry.sendings, List.count_eq_zero_of_not_mem hmem]

theorem Due.later_later (d : Due) (a b : Duration) : (d.later a).later b = d.later (a + b) := by
  cases d with
  | dispatches rounds => rfl
  | clock time => exact congrArg Due.clock (Int.add_assoc time a b)

theorem Due.later_zero (d : Due) : d.later 0 = d := by
  cases d with
  | dispatches rounds => rfl
  | clock time => exact congrArg Due.clock (Int.add_zero time)

/-- A timer that has been sent `k` times. -/
theorem due_of_mem_remaining {k : ℕ} (h : t ∈ timer.remaining k) :
    t.due = timer.due.later (k * timer.interval) ∧ t.interval = timer.interval ∧
      ∀ n ≠ 0, timer.left = some n → k < n ∧ t.left = some (n - k) := by
  induction k generalizing t with
  | zero =>
    obtain rfl := Option.some.inj h
    refine ⟨by simp [Due.later_zero], rfl, fun n hn hleft => ⟨Nat.pos_of_ne_zero hn, hleft⟩⟩
  | succ k ih =>
    obtain ⟨t', ht', hnext⟩ := Option.mem_bind_iff.mp h
    obtain ⟨hdue, hinterval, hleft⟩ := ih ht'
    unfold Timer.next at hnext
    split_ifs at hnext with hone
    · cases hnext
    obtain rfl := Option.some.inj hnext
    refine ⟨?_, hinterval, fun n hn hn' => ?_⟩
    · rw [hdue, hinterval, Due.later_later]
      push_cast
      rw [Int.add_mul, Int.one_mul]
    · obtain ⟨hk, hk'⟩ := hleft n hn hn'
      rw [hk'] at hone ⊢
      have hne : n - k ≠ 1 := fun h1 => hone (by rw [h1])
      exact ⟨by omega, congrArg some (Nat.sub_sub n k 1)⟩

theorem Recorded.left_ne (hrec : Recorded (.requested number returned (some timer) :: earlier)) :
    timer.left ≠ some 0 := hrec.2.1 timer rfl

/-- A timer that waits has been sent less often than asked for, and is due later each time. -/
theorem due_of_follow
    (hrec : Recorded (after ++ .requested number returned (some timer) :: earlier))
    (ht : t ∈ follow number (after ++ .requested number returned (some timer) :: earlier)) :
    t.due = (timer.after (sendings number after)).due ∧
      (∀ n, timer.left = some n → sendings number after < n) ∧
      ∀ e ∈ after, ¬e.Stops number := by
  have hstops : ∀ e ∈ after, ¬e.Stops number := fun e he hstop => by
    rw [follow_of_stops hrec ⟨e, he, hstop⟩] at ht
    cases ht
  rw [follow_of_not_stops hrec hstops] at ht
  obtain ⟨hdue, -, hleft⟩ := due_of_mem_remaining ht
  have hne := hrec.of_append.left_ne
  exact ⟨hdue, fun n hn => (hleft n (fun h0 => hne (by rw [hn, h0])) hn).1, hstops⟩

theorem Recorded.repeating (hrec : Recorded h) : Repeating h := by
  constructor
  · rintro after number returned timer earlier rfl n hn
    induction after with
    | nil => exact Nat.zero_le n
    | cons e after ih =>
      rw [List.cons_append] at hrec
      cases e with
      | requested j returned' timer' => simpa [Entry.sendings] using ih hrec.2.2
      | cancelled id stopped => simpa [Entry.sendings] using ih hrec
      | dispatched rounds clock sent =>
        have hrest := ih hrec.2
        have hcount := (hrec.1 number).1
        rw [sendings_cons, Entry.sendings]
        by_cases hmem : number ∈ sent
        · obtain ⟨t, ht, -⟩ := (hrec.1 number).2.mp hmem
          have hlt := (due_of_follow hrec.2 ht).2.1 n hn
          omega
        · rw [List.count_eq_zero_of_not_mem hmem]
          omega
  · rintro later rounds clock sent between number returned timer earlier rfl hmem
    have hdispatch := hrec.of_append
    obtain ⟨t, ht, hdue⟩ := (hdispatch.1 number).2.mp hmem
    obtain ⟨hafter, -, hstops⟩ := due_of_follow hdispatch.2 ht
    refine ⟨?_, hstops⟩
    unfold Timer.dueAt at hdue ⊢
    rwa [hafter] at hdue

/-- A timer that is sent once waits until it is stopped or due. -/
theorem mem_follow_once (hleft : timer.left = some 1)
    (hrec : Recorded (after ++ .requested number returned (some timer) :: earlier)) :
    t ∈ follow number (after ++ .requested number returned (some timer) :: earlier) ↔
      t = timer ∧ ∀ e ∈ after, ¬e.Stops number ∧ ¬e.MeetsDue timer number := by
  induction after generalizing t with
  | nil =>
    rw [List.nil_append, follow, if_pos rfl]
    simp [eq_comm]
  | cons e after ih =>
    rw [List.cons_append] at hrec ⊢
    rw [List.forall_mem_cons]
    cases e with
    | requested j returned' timer' =>
      unfold follow
      rw [if_neg (number_ne hrec), ih hrec.2.2]
      simp [Entry.Stops, Entry.MeetsDue]
    | cancelled id stopped =>
      unfold follow
      split_ifs with hmem
      · simp [Entry.Stops, hmem]
      · rw [ih hrec]
        simp [Entry.Stops, Entry.MeetsDue, hmem]
    | dispatched rounds clock sent =>
      unfold follow
      split_ifs with hmem
      · obtain ⟨t', ht', hdue⟩ := (hrec.1 number).2.mp hmem
        obtain ⟨rfl, -⟩ := (ih hrec.2).mp ht'
        rw [Option.mem_def.mp ht', Option.bind_some, Timer.next, if_pos hleft]
        exact iff_of_false nofun fun h => h.2.1.2 hdue
      · rw [ih hrec.2]
        refine and_congr_right fun hteq => ?_
        constructor
        · intro hwaits
          have htimer := (ih hrec.2).mpr ⟨rfl, hwaits⟩
          exact ⟨⟨id, fun hdue => hmem ((hrec.1 number).2.mpr ⟨timer, htimer, hdue⟩)⟩, hwaits⟩
        · exact fun h => h.2

theorem Recorded.once (hrec : Recorded h) : Once h := by
  rintro later rounds clock sent between number returned timer earlier rfl hleft
  have hdispatch := hrec.of_append
  obtain ⟨hcount, hsent⟩ := hdispatch.1 number
  refine ⟨hcount, hsent.trans ?_⟩
  constructor
  · rintro ⟨t, ht, hdue⟩
    obtain ⟨rfl, hwaits⟩ := (mem_follow_once hleft hdispatch.2).mp ht
    exact ⟨hdue, hwaits⟩
  · rintro ⟨hdue, hwaits⟩
    exact ⟨timer, (mem_follow_once hleft hdispatch.2).mpr ⟨rfl, hwaits⟩, hdue⟩

end History

/-! ## The messages that wait -/

namespace ScheduledMessage

/-- What the message is still to do. -/
def timer (m : ScheduledMessage Q) : Timer where
  due := if m.useWallClock then .clock m.readyAt else .dispatches m.readyAfterDispatch.toNat
  interval := m.repeatInterval
  left :=
    if m.useWallClock ∧ 0 < m.repeatInterval then
      if m.maxRepetitions = 0 then none else some (m.maxRepetitions - m.repetitionsFired)
    else some 1

/-- Not sent as often as it may be. -/
def Pending (m : ScheduledMessage Q) : Prop :=
  m.maxRepetitions = 0 ∨ m.repetitionsFired < m.maxRepetitions

variable {m m' : ScheduledMessage Q}

theorem due_iff (now : TimePoint) (round : UInt64) :
    m.due now round = true ↔ m.timer.dueAt round.toNat now := by
  unfold due timer Timer.dueAt
  cases m.useWallClock <;> simp [UInt64.le_iff_toNat_le]

theorem Pending.left_ne (h : m.Pending) : m.timer.left ≠ some 0 := by
  unfold timer
  dsimp only
  split_ifs with hrepeat hmax
  · nofun
  · have hfired := h.resolve_left hmax
    exact fun h0 => Nat.sub_ne_zero_of_lt hfired (Option.some.inj h0)
  · nofun

theorem Pending.timer_rearm (h : m.Pending) : m.rearm.map timer = m.timer.next := by
  by_cases hrepeat : m.useWallClock = true ∧ 0 < m.repeatInterval
  · obtain ⟨hwall, hinterval⟩ := hrepeat
    by_cases hmax : m.maxRepetitions = 0
    · simp [rearm, timer, Timer.next, Due.later, hwall, hinterval, hmax]
    · have hfired := h.resolve_left hmax
      by_cases hlast : m.repetitionsFired + 1 < m.maxRepetitions
      · have hne : m.maxRepetitions - m.repetitionsFired ≠ 1 := by omega
        simp [rearm, timer, Timer.next, Due.later, hwall, hinterval, hmax, hlast, hne, Nat.sub_sub]
      · have hone : m.maxRepetitions - m.repetitionsFired = 1 := by omega
        simp [rearm, timer, Timer.next, hwall, hinterval, hmax, hlast, hone]
  · have hrearm : m.rearm = none := if_neg fun hr => hrepeat ⟨hr.1, hr.2.1⟩
    simp [hrearm, timer, Timer.next, hrepeat]

/-- Another sending leaves the message, its id and its clock. -/
theorem of_rearm (h : m' ∈ m.rearm) : m'.message = m.message ∧ m'.scheduleId = m.scheduleId ∧
    m'.useWallClock = m.useWallClock ∧ m'.Pending := by
  unfold rearm at h
  split_ifs at h with hrepeat
  · obtain rfl := Option.some.inj h
    exact ⟨rfl, rfl, rfl, hrepeat.2.2⟩
  · cases h

end ScheduledMessage

namespace ActorSystem

/-- The messages that wait after a promotion. -/
def pendingMessages (now : ℕ → TimePoint) (dispatchRound : UInt64) :
    List (ScheduledMessage Q) → List (ScheduledMessage Q)
  | [] => []
  | m :: ms =>
    (if m.due (now 0) dispatchRound then m.rearm.toList else [m]) ++
      pendingMessages (fun i => now (i + 1)) dispatchRound ms

variable {s : ActorSystem Q}

theorem promote_snd (now : ℕ → TimePoint) (s : ActorSystem Q) (ms : List (ScheduledMessage Q)) :
    (promote now s ms).2 = pendingMessages now s.dispatchRound ms := by
  induction ms generalizing now s with
  | nil => rfl
  | cons m ms ih =>
    unfold promote pendingMessages
    split_ifs
    · rw [← dispatchRound_send m.message, ← ih]
    · rw [← ih]
      rfl

theorem nextScheduleId_send (m : Message Q) : (s.send m).nextScheduleId = s.nextScheduleId := by
  unfold send
  split_ifs
  · rfl
  · split
    · rfl
    · unfold enqueueReadyActor
      split_ifs <;> rfl

theorem scheduledMessages_promoteScheduledMessages (now : ℕ → TimePoint) :
    (s.promoteScheduledMessages now).scheduledMessages =
      pendingMessages now s.dispatchRound s.scheduledMessages :=
  promote_snd now s s.scheduledMessages

theorem of_sendAll (ms : List (Message Q)) (s : ActorSystem Q) :
    (ms.foldl send s).dispatchRound = s.dispatchRound ∧
      (ms.foldl send s).nextScheduleId = s.nextScheduleId := by
  induction ms generalizing s with
  | nil => exact ⟨rfl, rfl⟩
  | cons m ms ih =>
    obtain ⟨hround, hid⟩ := ih (s.send m)
    exact ⟨hround.trans (dispatchRound_send m), hid.trans (nextScheduleId_send m)⟩

theorem of_promoteScheduledMessages (now : ℕ → TimePoint) :
    (s.promoteScheduledMessages now).dispatchRound = s.dispatchRound ∧
      (s.promoteScheduledMessages now).nextScheduleId = s.nextScheduleId := by
  have hsent := of_sendAll (s.dueNow now) s
  rwa [dueNow, ← promote_fst] at hsent

theorem mem_pendingMessages {now : ℕ → TimePoint} {round : UInt64}
    {ms : List (ScheduledMessage Q)} {m' : ScheduledMessage Q}
    (h : m' ∈ pendingMessages now round ms) : ∃ m ∈ ms, m' = m ∨ m' ∈ m.rearm := by
  induction ms generalizing now with
  | nil => cases h
  | cons m ms ih =>
    obtain hfirst | hrest := List.mem_append.mp h
    · refine ⟨m, List.mem_cons_self, ?_⟩
      split_ifs at hfirst
      · exact .inr (Option.mem_toList.mp hfirst)
      · exact .inl (List.mem_singleton.mp hfirst)
    · obtain ⟨m₀, hmem, hm⟩ := ih hrest
      exact ⟨m₀, List.mem_cons_of_mem m hmem, hm⟩

theorem mem_dueMessages {now : ℕ → TimePoint} {round : UInt64} {ms : List (ScheduledMessage Q)}
    {x : Message Q} (h : x ∈ dueMessages now round ms) : ∃ m ∈ ms, m.message = x := by
  induction ms generalizing now with
  | nil => cases h
  | cons m ms ih =>
    unfold dueMessages at h
    dsimp only at h
    split_ifs at h
    · obtain rfl | hrest := List.mem_cons.mp h
      · exact ⟨m, List.mem_cons_self, rfl⟩
      · obtain ⟨m₀, hmem, hm⟩ := ih hrest
        exact ⟨m₀, List.mem_cons_of_mem m hmem, hm⟩
    · obtain ⟨m₀, hmem, hm⟩ := ih h
      exact ⟨m₀, List.mem_cons_of_mem m hmem, hm⟩

section Stamped

variable {ms : List (ScheduledMessage (ℕ × P))} {number : ℕ}

theorem pendingMessages_of_none (hms : ∀ m ∈ ms, m.number ≠ number) (now : ℕ → TimePoint)
    (round : UInt64) :
    (pendingMessages now round ms).filter (·.number = number) = [] ∧
      ((dueMessages now round ms).map (·.payload.1)).count number = 0 := by
  constructor
  · rw [List.filter_eq_nil_iff]
    intro m' hm' hnumber
    obtain ⟨m, hm, rfl | hrearm⟩ := mem_pendingMessages hm'
    · exact hms m' hm (of_decide_eq_true hnumber)
    · refine hms m hm ?_
      rw [← of_decide_eq_true hnumber, ScheduledMessage.number, ScheduledMessage.number,
        (ScheduledMessage.of_rearm hrearm).1]
  · rw [List.count_eq_zero]
    intro hmem
    obtain ⟨x, hx, rfl⟩ := List.mem_map.mp hmem
    obtain ⟨m, hm, rfl⟩ := mem_dueMessages hx
    exact hms m hm rfl

theorem number_of_mem_rearm {m m' : ScheduledMessage (ℕ × P)} (h : m' ∈ m.rearm) :
    m'.number = m.number := by
  rw [ScheduledMessage.number, (ScheduledMessage.of_rearm h).1, ScheduledMessage.number]

/-- The promotion reads the clock for the timer, sends it if it is due, and keeps the rest. -/
theorem pendingMessages_of_one {m : ScheduledMessage (ℕ × P)}
    (hms : ms.filter (·.number = number) = [m]) (now : ℕ → TimePoint) (round : UInt64) :
    (pendingMessages now round ms).filter (·.number = number) =
        (if m.due (now (ms.findIdx (·.number = number))) round then m.rearm.toList else [m]) ∧
      ((dueMessages now round ms).map (·.payload.1)).count number =
        if m.due (now (ms.findIdx (·.number = number))) round then 1 else 0 := by
  induction ms generalizing now with
  | nil => cases hms
  | cons m₀ ms ih =>
    unfold pendingMessages dueMessages
    dsimp only
    by_cases hnumber : m₀.number = number
    · rw [List.filter_cons_of_pos (by simpa using hnumber)] at hms
      obtain ⟨rfl, hnil⟩ := List.cons.inj hms
      have hrest : ∀ m' ∈ ms, m'.number ≠ number := fun m' hm' hn =>
        List.filter_eq_nil_iff.mp hnil m' hm' (decide_eq_true hn)
      obtain ⟨hpending, hcount⟩ := pendingMessages_of_none hrest (fun i => now (i + 1)) round
      rw [List.filter_append, hpending, List.append_nil, List.findIdx_cons]
      simp only [hnumber, decide_true, cond_true]
      split_ifs with hdue
      · have hrearm : ∀ m' ∈ m₀.rearm.toList, decide (m'.number = number) = true := by
          intro m' hm'
          rw [number_of_mem_rearm (Option.mem_toList.mp hm'), hnumber]
          exact decide_eq_true rfl
        have hpayload : m₀.message.payload.1 = number := hnumber
        exact ⟨List.filter_eq_self.mpr hrearm, by simp [hcount, hpayload]⟩
      · exact ⟨by simp [hnumber], hcount⟩
    · rw [List.filter_cons_of_neg (by simpa using hnumber)] at hms
      obtain ⟨hpending, hcount⟩ := ih hms fun i => now (i + 1)
      have hpayload : m₀.message.payload.1 ≠ number := hnumber
      rw [List.filter_append, hpending, List.findIdx_cons]
      simp only [hnumber, decide_false, cond_false]
      have hfirst : (if m₀.due (now 0) round = true then m₀.rearm.toList else [m₀]).filter
          (fun m => decide (m.number = number)) = [] := by
        rw [List.filter_eq_nil_iff]
        intro m' hm'
        split_ifs at hm'
        · rw [number_of_mem_rearm (Option.mem_toList.mp hm')]
          simpa using hnumber
        · rw [List.mem_singleton.mp hm']
          simpa using hnumber
      refine ⟨by rw [hfirst, List.nil_append], ?_⟩
      rw [← hcount]
      split_ifs
      · simp [hpayload]
      · rfl

end Stamped

/-- The request makes no timer. -/
structure Refused (s s' : ActorSystem Q) (returned : Option ScheduleId) : Prop where
  messages : s'.scheduledMessages = s.scheduledMessages
  round : s'.dispatchRound = s.dispatchRound
  nextId : s'.nextScheduleId = s.nextScheduleId
  returned : ∀ id ∈ returned, id = 0

/-- The message waits, for the end of dispatches or under the next id. -/
structure Accepted (s s' : ActorSystem Q) (returned : Option ScheduleId)
    (m : ScheduledMessage Q) : Prop where
  messages : s'.scheduledMessages = s.scheduledMessages ++ [m]
  pending : m.Pending
  round : s'.dispatchRound = s.dispatchRound
  id : if m.useWallClock then
      m.scheduleId = s.nextScheduleId ∧ s'.nextScheduleId = s.nextScheduleId + 1 ∧
        ∀ id ∈ returned, id = s.nextScheduleId
    else m.scheduleId = 0 ∧ s'.nextScheduleId = s.nextScheduleId ∧ returned = none

theorem refused_self {returned : Option ScheduleId} (h : ∀ id ∈ returned, id = 0) :
    Refused s s returned := ⟨rfl, rfl, rfl, h⟩

theorem refused_send (m : Message Q) {returned : Option ScheduleId}
    (h : ∀ id ∈ returned, id = 0) : Refused s (s.send m) returned :=
  ⟨scheduledMessages_send s m, dispatchRound_send m, nextScheduleId_send m, h⟩

theorem accepted_schedule (m : ScheduledMessage Q) (hm : m.Pending)
    {returned : Option ScheduleId} (h : ∀ id ∈ returned, id = s.nextScheduleId) :
    Accepted s (s.schedule m).1 returned
      { m with scheduleId := s.nextScheduleId, useWallClock := true } where
  messages := rfl
  pending := hm
  round := rfl
  id := by
    rw [if_pos rfl]
    exact ⟨rfl, rfl, h⟩

/-- A request is sent at once or not at all, or it schedules its timer. -/
theorem request_cases (s : ActorSystem Q) (now : TimePoint) (r : Request Q)
    (hfits : ∀ timer ∈ r.timer s.dispatchRound.toNat now,
      ∀ n, timer.due = .dispatches n → n < 2 ^ 64) :
    (r.timer s.dispatchRound.toNat now = none ∧
        Refused s (s.request now r).1 (s.request now r).2) ∨
      ∃ m : ScheduledMessage Q, r.timer s.dispatchRound.toNat now = some m.timer ∧
        m.message = r.message ∧ Accepted s (s.request now r).1 (s.request now r).2 m := by
  have hnone : ∀ id ∈ (none : Option ScheduleId), id = 0 := nofun
  have hzero : ∀ id ∈ some (0 : ScheduleId), id = 0 := fun id h => (Option.some.inj h).symm
  have hnext : ∀ id ∈ some s.nextScheduleId, id = s.nextScheduleId :=
    fun id h => (Option.some.inj h).symm
  cases r with
  | sendAfter m dispatchDelay =>
    simp only [request, sendAfter, Request.timer] at hfits ⊢
    by_cases htarget : m.targetActor = 0
    · simp only [htarget, true_or, if_true]
      exact .inl ⟨trivial, refused_self hnone⟩
    by_cases hdelay : dispatchDelay = 0
    · simp only [htarget, hdelay, or_true, if_true, if_false]
      exact .inl ⟨trivial, refused_send m hnone⟩
    simp only [htarget, hdelay, or_self, if_false] at hfits ⊢
    refine .inr ⟨{ readyAfterDispatch := s.dispatchRound + dispatchDelay, message := m }, ?_, rfl,
      rfl, .inl rfl, rfl, ?_⟩
    · have hadd : (s.dispatchRound + dispatchDelay).toNat =
          s.dispatchRound.toNat + dispatchDelay.toNat :=
        (UInt64.toNat_add _ _).trans (Nat.mod_eq_of_lt (hfits _ rfl _ rfl))
      simp [ScheduledMessage.timer, hadd]
    · exact ⟨rfl, rfl, rfl⟩
  | sendAfterTime m delay =>
    simp only [request, sendAfterTime, scheduleAfter, Request.timer]
    by_cases htarget : m.targetActor = 0
    · simp only [htarget, true_or, if_true]
      exact .inl ⟨trivial, refused_self hnone⟩
    by_cases hdelay : delay ≤ 0
    · simp only [htarget, hdelay, or_true, if_true, if_false]
      exact .inl ⟨trivial, refused_send m hnone⟩
    simp only [htarget, hdelay, or_self, if_false]
    exact .inr ⟨_, rfl, rfl, accepted_schedule { readyAt := now + delay, message := m } (.inl rfl)
      nofun⟩
  | sendAt m readyAt =>
    simp only [request, sendAt, Request.timer]
    by_cases htarget : m.targetActor = 0
    · simp only [htarget, if_true]
      exact .inl ⟨trivial, refused_self hnone⟩
    simp only [htarget, if_false]
    exact .inr ⟨_, rfl, rfl, accepted_schedule { readyAt := readyAt, message := m } (.inl rfl)
      nofun⟩
  | scheduleAfter m delay =>
    simp only [request, scheduleAfter, Request.timer]
    by_cases htarget : m.targetActor = 0
    · simp only [htarget, true_or, if_true]
      exact .inl ⟨trivial, refused_self hzero⟩
    by_cases hdelay : delay ≤ 0
    · simp only [htarget, hdelay, or_true, if_true, if_false]
      exact .inl ⟨trivial, refused_send m hzero⟩
    simp only [htarget, hdelay, or_self, if_false]
    exact .inr ⟨_, rfl, rfl, accepted_schedule { readyAt := now + delay, message := m } (.inl rfl)
      hnext⟩
  | scheduleAt m readyAt =>
    simp only [request, scheduleAt, Request.timer]
    by_cases htarget : m.targetActor = 0
    · simp only [htarget, true_or, if_true]
      exact .inl ⟨trivial, refused_self hzero⟩
    by_cases hpast : readyAt ≤ now
    · simp only [htarget, hpast, or_true, if_true, if_false]
      exact .inl ⟨trivial, refused_send m hzero⟩
    simp only [htarget, hpast, or_self, if_false]
    exact .inr ⟨_, rfl, rfl, accepted_schedule { readyAt := readyAt, message := m } (.inl rfl)
      hnext⟩
  | scheduleEvery m initialDelay interval maxRepetitions =>
    simp only [request, scheduleEvery, Request.timer]
    by_cases hrefused : m.targetActor = 0 ∨ interval ≤ 0 ∨ maxRepetitions = some 0
    · simp only [hrefused, if_true]
      exact .inl ⟨trivial, refused_self hzero⟩
    simp only [hrefused, if_false]
    obtain ⟨-, hinterval, hmax⟩ := not_or.mp hrefused |>.imp id not_or.mp
    refine .inr ⟨_, ?_, rfl, accepted_schedule
      { readyAt := now + if initialDelay ≤ 0 then interval else initialDelay
        repeatInterval := interval
        maxRepetitions := maxRepetitions.getD 0
        message := m } (Nat.eq_zero_or_pos _) hnext⟩
    have hpos : 0 < interval := Int.not_le.mp hinterval
    cases maxRepetitions with
    | none => simp [ScheduledMessage.timer, hpos]
    | some n =>
      have hn : n ≠ 0 := fun h0 => hmax (by rw [h0])
      simp [ScheduledMessage.timer, hpos, hn]

end ActorSystem

namespace Timing

/-- The messages that wait are the timers of the history. -/
structure Tracked (t : Timing P) : Prop where
  rounds : t.system.dispatchRound.toNat = t.rounds
  recorded : Recorded t.history
  waiting : ∀ number, (t.system.scheduledMessages.filter (·.number = number)).map (·.timer) =
    (follow number t.history).toList
  pending : ∀ m ∈ t.system.scheduledMessages, m.Pending

/-- The id of a message by the clock is its own. -/
structure Identified (t : Timing P) : Prop where
  next : t.system.nextScheduleId ≠ 0
  ids : ∀ m ∈ t.system.scheduledMessages, if m.useWallClock then
      m.scheduleId ≠ 0 ∧ m.scheduleId < t.system.nextScheduleId
    else m.scheduleId = 0
  returned : ∀ number id timer, .requested number (some id) timer ∈ t.history →
    id < t.system.nextScheduleId ∧ ∀ m ∈ t.system.scheduledMessages,
      m.number = number ↔ m.scheduleId = id ∧ m.useWallClock = true

variable {t t' : Timing P}

theorem timer_stamp (r : Request P) (number rounds : ℕ) (now : TimePoint) :
    (r.stamp number).timer rounds now = r.timer rounds now := by
  cases r <;> rfl

theorem message_stamp (r : Request P) (number : ℕ) :
    (r.stamp number).message = r.message.stamp number := by
  cases r <;> rfl

theorem Tracked.number_lt (h : t.Tracked) {m : ScheduledMessage (ℕ × P)}
    (hm : m ∈ t.system.scheduledMessages) : m.number < t.history.length := by
  by_contra hle
  have hwaits := h.waiting m.number
  rw [follow_of_length_le h.recorded (Nat.not_lt.mp hle)] at hwaits
  have hnil := List.map_eq_nil_iff.mp hwaits
  exact List.filter_eq_nil_iff.mp hnil m hm (decide_eq_true rfl)

theorem number_lt_of_requested {h : List Entry} (hrec : Recorded h) {number : ℕ}
    {returned : Option ScheduleId} {timer : Option Timer}
    (hmem : .requested number returned timer ∈ h) : number < h.length := by
  obtain ⟨later, earlier, rfl⟩ := List.append_of_mem hmem
  have hnumber := hrec.of_append.1
  rw [List.length_append, List.length_cons]
  omega

/-- A timer waits in one message, or in none. -/
theorem Tracked.filter_number (h : t.Tracked) (number : ℕ) :
    (follow number t.history = none ∧
        ∀ m ∈ t.system.scheduledMessages, m.number ≠ number) ∨
      ∃ m, follow number t.history = some m.timer ∧ m ∈ t.system.scheduledMessages ∧
        m.number = number ∧ t.system.scheduledMessages.filter (·.number = number) = [m] := by
  have hwaits := h.waiting number
  cases hfollow : follow number t.history with
  | none =>
    rw [hfollow] at hwaits
    refine .inl ⟨rfl, fun m hm hnumber => ?_⟩
    exact List.filter_eq_nil_iff.mp (List.map_eq_nil_iff.mp hwaits) m hm (decide_eq_true hnumber)
  | some timer =>
    rw [hfollow] at hwaits
    obtain ⟨m, hm, rfl⟩ := List.map_eq_singleton_iff.mp hwaits
    have hmem : m ∈ t.system.scheduledMessages.filter (·.number = number) := by
      rw [hm]
      exact List.mem_singleton_self m
    obtain ⟨hmem, hnumber⟩ := List.mem_filter.mp hmem
    exact .inr ⟨m, rfl, hmem, of_decide_eq_true hnumber, hm⟩

theorem step_request (now : TimePoint) (r : Request P) : t.step (.request now r) = some
    { system := (t.system.request now (r.stamp t.history.length)).1
      rounds := t.rounds
      history := .requested t.history.length (t.system.request now (r.stamp t.history.length)).2
        (r.timer t.rounds now) :: t.history } := rfl

/-- A request of the run is refused or makes the next timer. -/
theorem Tracked.request_cases (h : t.Tracked) {now : TimePoint} {r : Request P}
    (hfits : t.Fits (.request now r)) (hstep : t.step (.request now r) = some t') :
    ∃ returned, t'.rounds = t.rounds ∧
      ((ActorSystem.Refused t.system t'.system returned ∧
          t'.history = .requested t.history.length returned none :: t.history) ∨
        ∃ m, ActorSystem.Accepted t.system t'.system returned m ∧
          r.timer t.rounds now = some m.timer ∧ m.number = t.history.length ∧
          t'.history = .requested t.history.length returned (some m.timer) :: t.history) := by
  have hround : ∀ timer ∈ (r.stamp t.history.length).timer t.system.dispatchRound.toNat now,
      ∀ n, timer.due = .dispatches n → n < 2 ^ 64 := by
    intro timer htimer n hdue
    rw [timer_stamp, h.rounds] at htimer
    have hlt := hfits timer htimer
    rwa [hdue] at hlt
  have hcases := t.system.request_cases now (r.stamp t.history.length) hround
  rw [timer_stamp, h.rounds, message_stamp] at hcases
  rw [step_request] at hstep
  generalize t.system.request now (r.stamp t.history.length) = called at hcases hstep
  obtain rfl := Option.some.inj hstep
  refine ⟨called.2, rfl, ?_⟩
  obtain ⟨htimer, hrefused⟩ | ⟨m, htimer, hmessage, haccepted⟩ := hcases
  · exact .inl ⟨hrefused, by rw [htimer]⟩
  · refine .inr ⟨m, haccepted, htimer, ?_, by rw [htimer]⟩
    rw [ScheduledMessage.number, hmessage]
    rfl

theorem Tracked.request (h : t.Tracked) {now : TimePoint} {r : Request P}
    (hfits : t.Fits (.request now r)) (hstep : t.step (.request now r) = some t') :
    t'.Tracked := by
  obtain ⟨returned, hrounds, ⟨hrefused, hhistory⟩ | ⟨m, haccepted, -, hnumber, hhistory⟩⟩ :=
    h.request_cases hfits hstep
  · refine ⟨?_, ?_, fun number => ?_, ?_⟩
    · rw [hrounds, hrefused.round, h.rounds]
    · rw [hhistory]
      exact ⟨rfl, nofun, h.recorded⟩
    · rw [hrefused.messages, h.waiting number, hhistory, follow]
      split_ifs with heq
      · rw [follow_of_length_le h.recorded (Nat.le_of_eq heq)]
      · rfl
    · rw [hrefused.messages]
      exact h.pending
  · refine ⟨?_, ?_, fun number => ?_, ?_⟩
    · rw [hrounds, haccepted.round, h.rounds]
    · rw [hhistory]
      refine ⟨rfl, fun timer ht => ?_, h.recorded⟩
      obtain rfl := Option.some.inj ht
      exact haccepted.pending.left_ne
    · rw [haccepted.messages, List.filter_append, List.map_append, h.waiting number, hhistory,
        follow]
      split_ifs with heq
      · rw [follow_of_length_le h.recorded (Nat.le_of_eq heq)]
        simp [hnumber, heq]
      · have hne : m.number ≠ number := hnumber.trans_ne heq
        simp [hne]
    · rw [haccepted.messages, List.forall_mem_append]
      exact ⟨h.pending, List.forall_mem_singleton.mpr haccepted.pending⟩

theorem Tracked.cancelSchedule (h : t.Tracked) {id : ScheduleId}
    (hstep : t.step (.cancelSchedule id) = some t') : t'.Tracked := by
  obtain rfl := Option.some.inj hstep
  refine ⟨h.rounds, h.recorded, fun number => ?_, fun m hm => h.pending m (List.mem_filter.mp hm).1⟩
  change (((t.system.scheduledMessages.filter (·.scheduleId ≠ id)).filter _).map _) = _
  rw [List.filter_comm, follow]
  obtain ⟨hfollow, hnone⟩ | ⟨m, hfollow, hmem, hnumber, hfilter⟩ := h.filter_number number
  · have hnil : t.system.scheduledMessages.filter (·.number = number) = [] :=
      List.filter_eq_nil_iff.mpr fun m hm => by simpa using hnone m hm
    rw [hnil, hfollow, ite_self]
    rfl
  · have hstopped : number ∈ t.stopped id ↔ m.scheduleId = id := by
      simp only [stopped, List.mem_map, List.mem_filter, decide_eq_true_eq]
      constructor
      · rintro ⟨m', ⟨hm', hid⟩, hn⟩
        have hmem' : m' ∈ t.system.scheduledMessages.filter (·.number = number) :=
          List.mem_filter.mpr ⟨hm', decide_eq_true hn⟩
        rw [hfilter] at hmem'
        rwa [List.mem_singleton.mp hmem'] at hid
      · exact fun hid => ⟨m, ⟨hmem, hid⟩, hnumber⟩
    rw [hfilter, hfollow]
    by_cases hid : m.scheduleId = id
    · rw [if_pos (hstopped.mpr hid)]
      simp [hid]
    · rw [if_neg fun hs => hid (hstopped.mp hs)]
      simp [hid]

theorem Tracked.beginDispatch (h : t.Tracked) {now : ℕ → TimePoint}
    (hstep : t.step (.beginDispatch now) = some t') : t'.Tracked := by
  obtain rfl := Option.some.inj hstep
  have hsent : ∀ number, ((t.sent now).count number ≤ 1 ∧ (number ∈ t.sent now ↔
      ∃ timer ∈ follow number t.history, timer.dueAt t.rounds (t.clock now number))) ∧
      ((t.system.promoteScheduledMessages now).scheduledMessages.filter
        (·.number = number)).map (·.timer) =
        (follow number (.dispatched t.rounds (t.clock now) (t.sent now) :: t.history)).toList := by
    intro number
    rw [ActorSystem.scheduledMessages_promoteScheduledMessages, follow]
    obtain ⟨hfollow, hnone⟩ | ⟨m, hfollow, hmem, hnumber, hfilter⟩ := h.filter_number number
    · obtain ⟨hpending, hcount⟩ :=
        ActorSystem.pendingMessages_of_none hnone now t.system.dispatchRound
      have hcount : (t.sent now).count number = 0 := hcount
      have hunsent : number ∉ t.sent now := List.count_eq_zero.mp hcount
      rw [hfollow, hpending, if_neg hunsent]
      exact ⟨⟨by rw [hcount]; exact Nat.zero_le 1, iff_of_false hunsent (by simp)⟩, rfl⟩
    · obtain ⟨hpending, hcount⟩ :=
        ActorSystem.pendingMessages_of_one hfilter now t.system.dispatchRound
      have hcount : (t.sent now).count number =
        if m.due (t.clock now number) t.system.dispatchRound then 1 else 0 := hcount
      have hdue := m.due_iff (t.clock now number) t.system.dispatchRound
      rw [h.rounds] at hdue
      rw [hfollow, hpending]
      change _ ∧ List.map _ (if m.due (t.clock now number) t.system.dispatchRound then _ else _) = _
      split_ifs at hcount with hd
      · have hsent : number ∈ t.sent now :=
          List.count_pos_iff.mp (by rw [hcount]; exact Nat.one_pos)
        rw [if_pos hd, if_pos hsent, Option.bind_some, ← (h.pending m hmem).timer_rearm]
        refine ⟨⟨Nat.le_of_eq hcount, iff_of_true hsent ⟨_, rfl, hdue.mp hd⟩⟩, ?_⟩
        cases m.rearm <;> rfl
      · have hunsent : number ∉ t.sent now := List.count_eq_zero.mp hcount
        rw [if_neg hd, if_neg hunsent]
        refine ⟨⟨by rw [hcount]; exact Nat.zero_le 1, iff_of_false hunsent ?_⟩, rfl⟩
        rintro ⟨timer, htimer, hd'⟩
        obtain rfl := Option.some.inj htimer
        exact hd (hdue.mpr hd')
  refine ⟨?_, ⟨fun number => (hsent number).1, h.recorded⟩, fun number => (hsent number).2, ?_⟩
  · rw [← h.rounds]
    exact congrArg UInt64.toNat (ActorSystem.of_promoteScheduledMessages now).1
  · intro m' hm'
    rw [ActorSystem.scheduledMessages_promoteScheduledMessages] at hm'
    obtain ⟨m, hm, rfl | hrearm⟩ := ActorSystem.mem_pendingMessages hm'
    · exact h.pending m' hm
    · exact (ScheduledMessage.of_rearm hrearm).2.2.2

theorem Tracked.step (h : t.Tracked) {e : TimerEvent P} (hfits : t.Fits e)
    (hstep : t.step e = some t') : t'.Tracked := by
  cases e with
  | request now r => exact h.request hfits hstep
  | cancelSchedule id => exact h.cancelSchedule hstep
  | beginDispatch now => exact h.beginDispatch hstep
  | elsewhere actors readyActors nextActorId =>
    obtain rfl := Option.some.inj hstep
    exact ⟨h.rounds, h.recorded, h.waiting, h.pending⟩
  | endDispatch =>
    obtain ⟨system, hend, rfl⟩ := Option.map_eq_some_iff.mp hstep
    obtain ⟨-, rfl⟩ := ActorSystem.of_endDispatch hend
    refine ⟨?_, h.recorded, h.waiting, h.pending⟩
    have hlt : t.rounds + 1 < 2 ^ 64 := hfits
    change (t.system.dispatchRound + 1).toNat = t.rounds + 1
    rw [UInt64.toNat_add, h.rounds]
    exact Nat.mod_eq_of_lt hlt

theorem toNat_next {id : ScheduleId} (h : id + 1 ≠ 0) : (id + 1).toNat = id.toNat + 1 := by
  have hlt := id.toNat_lt
  have hne : (id + 1).toNat ≠ 0 := fun h0 => h (UInt64.toNat_inj.mp h0)
  have hadd : (id + 1).toNat = (id.toNat + 1) % 2 ^ 64 := UInt64.toNat_add id 1
  omega

theorem lt_next {id id' : ScheduleId} (h : id + 1 ≠ 0) (hle : id' ≤ id) : id' < id + 1 := by
  rw [UInt64.lt_iff_toNat_lt, toNat_next h]
  exact Nat.lt_succ_of_le (UInt64.le_iff_toNat_le.mp hle)

theorem Identified.request (hid : t.Identified) (h : t.Tracked) {now : TimePoint} {r : Request P}
    (hfits : t.Fits (.request now r)) (hstep : t.step (.request now r) = some t') :
    t'.Identified := by
  have hold : ∀ m ∈ t.system.scheduledMessages, m.number ≠ t.history.length :=
    fun m hm => Nat.ne_of_lt (h.number_lt hm)
  obtain ⟨returned, -, ⟨hrefused, hhistory⟩ | ⟨m, haccepted, htimer, hnumber, hhistory⟩⟩ :=
    h.request_cases hfits hstep
  · refine ⟨by rw [hrefused.nextId]; exact hid.next, ?_, fun number id timer hmem => ?_⟩
    · rw [hrefused.messages, hrefused.nextId]
      exact hid.ids
    · rw [hrefused.messages, hrefused.nextId]
      rw [hhistory] at hmem
      obtain hnew | hmem := List.mem_cons.mp hmem
      · obtain ⟨rfl, rfl, rfl⟩ := Entry.requested.inj hnew
        obtain rfl := hrefused.returned id rfl
        refine ⟨UInt64.pos_iff_ne_zero.mpr hid.next, fun m hm => iff_of_false (hold m hm) ?_⟩
        rintro ⟨hzero, hclock⟩
        have hown := hid.ids m hm
        rw [if_pos hclock] at hown
        exact hown.1 hzero
      · exact hid.returned number id timer hmem
  · have hlater : ∀ number id timer, .requested number (some id) timer ∈ t.history →
        number ≠ t.history.length :=
      fun number id timer hmem => Nat.ne_of_lt (number_lt_of_requested h.recorded hmem)
    have hidNew := haccepted.id
    split_ifs at hidNew with hclock
    · obtain ⟨hscheduleId, hnext, hreturned⟩ := hidNew
      have hroom : t.system.nextScheduleId + 1 ≠ 0 := by
        have hroom := hfits m.timer htimer
        rwa [ScheduledMessage.timer, if_pos hclock] at hroom
      have hids : ∀ m ∈ t.system.scheduledMessages,
          m.scheduleId = t.system.nextScheduleId → m.useWallClock = true → False := by
        intro m hm hsame hclock
        have hown := hid.ids m hm
        rw [if_pos hclock, hsame] at hown
        exact UInt64.lt_irrefl _ hown.2
      refine ⟨by rwa [hnext], ?_, fun number id timer hmem => ?_⟩
      · rw [haccepted.messages, hnext, List.forall_mem_append]
        refine ⟨fun m hm => ?_, List.forall_mem_singleton.mpr ?_⟩
        · have hown := hid.ids m hm
          split_ifs at hown ⊢
          · exact ⟨hown.1, lt_next hroom (UInt64.le_of_lt hown.2)⟩
          · exact hown
        · rw [if_pos hclock, hscheduleId]
          exact ⟨hid.next, lt_next hroom UInt64.le_rfl⟩
      · rw [haccepted.messages, hnext, List.forall_mem_append, List.forall_mem_singleton]
        rw [hhistory] at hmem
        obtain hnew | hmem := List.mem_cons.mp hmem
        · obtain ⟨rfl, rfl, rfl⟩ := Entry.requested.inj hnew
          obtain rfl := hreturned id rfl
          exact ⟨lt_next hroom UInt64.le_rfl,
            fun m hm => iff_of_false (hold m hm) fun hown => hids m hm hown.1 hown.2,
            iff_of_true hnumber ⟨hscheduleId, hclock⟩⟩
        · obtain ⟨hlt, hown⟩ := hid.returned number id timer hmem
          refine ⟨lt_next hroom (UInt64.le_of_lt hlt), hown, iff_of_false ?_ ?_⟩
          · rw [hnumber]
            exact (hlater number id timer hmem).symm
          · rw [hscheduleId]
            rintro ⟨rfl, -⟩
            exact UInt64.lt_irrefl _ hlt
    · obtain ⟨hscheduleId, hnext, rfl⟩ := hidNew
      refine ⟨by rw [hnext]; exact hid.next, ?_, fun number id timer hmem => ?_⟩
      · rw [haccepted.messages, hnext, List.forall_mem_append]
        refine ⟨hid.ids, List.forall_mem_singleton.mpr ?_⟩
        rw [if_neg hclock]
        exact hscheduleId
      · rw [haccepted.messages, hnext, List.forall_mem_append, List.forall_mem_singleton]
        rw [hhistory] at hmem
        have hmem := (List.mem_cons.mp hmem).resolve_left nofun
        obtain ⟨hlt, hown⟩ := hid.returned number id timer hmem
        refine ⟨hlt, hown, iff_of_false ?_ fun hown => hclock hown.2⟩
        rw [hnumber]
        exact (hlater number id timer hmem).symm

/-- Messages that stay, or are put back, keep their ids. -/
theorem Identified.keeps (hid : t.Identified)
    (hnext : t'.system.nextScheduleId = t.system.nextScheduleId)
    (hkept : ∀ m' ∈ t'.system.scheduledMessages, ∃ m ∈ t.system.scheduledMessages,
      m'.number = m.number ∧ m'.scheduleId = m.scheduleId ∧ m'.useWallClock = m.useWallClock)
    (hrequested : ∀ number id timer, .requested number (some id) timer ∈ t'.history →
      .requested number (some id) timer ∈ t.history) : t'.Identified := by
  refine ⟨by rw [hnext]; exact hid.next, fun m' hm' => ?_, fun number id timer hmem => ?_⟩
  · obtain ⟨m, hm, -, hscheduleId, hclock⟩ := hkept m' hm'
    rw [hscheduleId, hclock, hnext]
    exact hid.ids m hm
  · obtain ⟨hlt, hown⟩ := hid.returned number id timer (hrequested number id timer hmem)
    rw [hnext]
    refine ⟨hlt, fun m' hm' => ?_⟩
    obtain ⟨m, hm, hnumber, hscheduleId, hclock⟩ := hkept m' hm'
    rw [hnumber, hscheduleId, hclock]
    exact hown m hm

theorem Identified.step (hid : t.Identified) (h : t.Tracked) {e : TimerEvent P}
    (hfits : t.Fits e) (hstep : t.step e = some t') : t'.Identified := by
  cases e with
  | request now r => exact hid.request h hfits hstep
  | cancelSchedule id =>
    obtain rfl := Option.some.inj hstep
    exact hid.keeps rfl (fun m hm => ⟨m, (List.mem_filter.mp hm).1, rfl, rfl, rfl⟩)
      fun _ _ _ hmem => (List.mem_cons.mp hmem).resolve_left nofun
  | beginDispatch now =>
    obtain rfl := Option.some.inj hstep
    refine hid.keeps (ActorSystem.of_promoteScheduledMessages (s := t.system) now).2
      (fun m' hm' => ?_) fun _ _ _ hmem => (List.mem_cons.mp hmem).resolve_left nofun
    change m' ∈ (t.system.promoteScheduledMessages now).scheduledMessages at hm'
    rw [ActorSystem.scheduledMessages_promoteScheduledMessages] at hm'
    obtain ⟨m, hm, rfl | hrearm⟩ := ActorSystem.mem_pendingMessages hm'
    · exact ⟨m', hm, rfl, rfl, rfl⟩
    · obtain ⟨-, hscheduleId, hclock, -⟩ := ScheduledMessage.of_rearm hrearm
      exact ⟨m, hm, ActorSystem.number_of_mem_rearm hrearm, hscheduleId, hclock⟩
  | elsewhere actors readyActors nextActorId =>
    obtain rfl := Option.some.inj hstep
    exact ⟨hid.next, hid.ids, hid.returned⟩
  | endDispatch =>
    obtain ⟨system, hend, rfl⟩ := Option.map_eq_some_iff.mp hstep
    obtain ⟨-, rfl⟩ := ActorSystem.of_endDispatch hend
    exact ⟨hid.next, hid.ids, hid.returned⟩

theorem Reaches.tracked (h : t.Reaches) : t.Tracked ∧ t.Identified := by
  refine h.invariant (P := fun t => t.Tracked ∧ t.Identified) ?_ ?_
  · rintro t rfl
    exact ⟨⟨rfl, trivial, fun _ => rfl, List.forall_mem_nil _⟩,
      of_decide_eq_true rfl, List.forall_mem_nil _, fun _ _ _ h => absurd h List.not_mem_nil⟩
  · rintro t e t' ⟨htracked, hid⟩ hfits hstep
    exact ⟨htracked.step hfits hstep, hid.step htracked hfits hstep⟩

/-- A cancellation of the id stops the timer of each request that returned the id, as long as
this timer waits, and no other. -/
def CancelsExactly (t : Timing P) (id : ScheduleId) : Prop :=
  ∀ number timer, .requested number (some id) timer ∈ t.history →
    t.stopped id = if (follow number t.history).isSome then [number] else []

/-- Some request returned the id. -/
def Returned (t : Timing P) (id : ScheduleId) : Prop :=
  ∃ number timer, .requested number (some id) timer ∈ t.history

/-- Some message waits for the end of dispatches. -/
def Delayed (t : Timing P) : Prop :=
  ∃ m ∈ t.system.scheduledMessages, m.useWallClock = false

theorem stopped_of_own {id : ScheduleId} {number : ℕ} (h : t.Tracked)
    (hown : ∀ m ∈ t.system.scheduledMessages, m.scheduleId = id ↔ m.number = number) :
    t.stopped id = if (follow number t.history).isSome then [number] else [] := by
  have hfilter : t.system.scheduledMessages.filter (·.scheduleId = id) =
      t.system.scheduledMessages.filter (·.number = number) :=
    List.filter_congr fun m hm => decide_eq_decide.mpr (hown m hm)
  rw [stopped, hfilter]
  obtain ⟨hfollow, hnone⟩ | ⟨m, hfollow, hmem, hnumber, hone⟩ := h.filter_number number
  · have hnil : t.system.scheduledMessages.filter (·.number = number) = [] :=
      List.filter_eq_nil_iff.mpr fun m hm => by simpa using hnone m hm
    rw [hnil, hfollow]
    rfl
  · rw [hone, hfollow, List.map_singleton, hnumber]
    rfl

theorem Reaches.cancelsExactly_iff (h : t.Reaches) {id : ScheduleId} (hreturned : t.Returned id) :
    t.CancelsExactly id ↔ ¬(id = 0 ∧ t.Delayed) := by
  obtain ⟨htracked, hid⟩ := h.tracked
  constructor
  · rintro hexact ⟨rfl, m, hm, hclock⟩
    obtain ⟨number, timer, hmem⟩ := hreturned
    have hzero := hid.ids m hm
    rw [hclock, if_neg Bool.false_ne_true] at hzero
    have hstopped : m.number ∈ t.stopped 0 :=
      List.mem_map.mpr ⟨m, List.mem_filter.mpr ⟨hm, decide_eq_true hzero⟩, rfl⟩
    rw [hexact number timer hmem] at hstopped
    split_ifs at hstopped
    · have hown := ((hid.returned number 0 timer hmem).2 m hm).mp (List.mem_singleton.mp hstopped)
      exact Bool.false_ne_true (hclock.symm.trans hown.2)
    · cases hstopped
  · intro hfree number timer hmem
    refine stopped_of_own htracked fun m hm => ?_
    rw [(hid.returned number id timer hmem).2 m hm]
    refine ⟨fun hm' => ⟨hm', ?_⟩, fun hm' => hm'.1⟩
    by_contra hclock
    have hclock := Bool.not_eq_true _ ▸ hclock
    have hzero := hid.ids m hm
    rw [hclock, if_neg Bool.false_ne_true] at hzero
    exact hfree ⟨hm'.symm.trans hzero, m, hm, hclock⟩

/-- Timers are sent when they are due, and a cancellation stops exactly the timer it is for
unless it is one of 0 while messages wait for dispatches. -/
theorem Reaches.timers_iff (h : t.Reaches) : Once t.history ∧ Repeating t.history ∧
    ∀ id, t.Returned id → (t.CancelsExactly id ↔ ¬(id = 0 ∧ t.Delayed)) :=
  ⟨h.tracked.1.recorded.once, h.tracked.1.recorded.repeating, fun _ hid =>
    h.cancelsExactly_iff hid⟩

theorem exists_of_returns {h : List Entry} {number : ℕ} {id : ScheduleId}
    (hany : h.any (·.returns number id)) : ∃ timer, .requested number (some id) timer ∈ h := by
  obtain ⟨e, hmem, hreturns⟩ := List.any_eq_true.mp hany
  unfold Entry.returns at hreturns
  split at hreturns
  · obtain ⟨rfl, rfl⟩ := of_decide_eq_true hreturns
    exact ⟨_, hmem⟩
  · cases hreturns

/-- A timer by the clock is cancelled by its id, and one by dispatches stays. -/
theorem timers_iff_cancelled : ∃ t : Timing String, t.stopped 1 = [0] ∧ Once t.history ∧
    Repeating t.history ∧ t.CancelsExactly 1 := by
  obtain ⟨t, ht, hstopped, hany⟩ := (Reaches.init rfl : Reaches ({} : Timing String)).exists_runWith
    (P := fun t => t.stopped 1 = [0] ∧ t.history.any (·.returns 0 1))
    [.request 0 (.scheduleAfter ⟨1, "timeout"⟩ 5), .request 0 (.sendAfter ⟨1, "tick"⟩ 1)]
    (by decide +kernel)
  obtain ⟨timer, hmem⟩ := exists_of_returns hany
  obtain ⟨honce, hrepeating, hcancels⟩ := Reaches.timers_iff ht
  exact ⟨t, hstopped, honce, hrepeating, (hcancels 1 ⟨0, timer, hmem⟩).mpr (by simp)⟩

/-- A message that is sent at once gives the id 0, whose cancellation stops the message that
waits for a dispatch. -/
theorem not_cancelsExactly : ¬∀ t : Timing String, t.Reaches → Once t.history ∧
    Repeating t.history ∧ ∀ id, t.Returned id → t.CancelsExactly id := by
  intro hall
  obtain ⟨t, ht, hstopped, hany⟩ := (Reaches.init rfl : Reaches ({} : Timing String)).exists_runWith
    (P := fun t => t.stopped 0 = [1] ∧ t.history.any (·.returns 0 0))
    [.request 0 (.scheduleAfter ⟨1, "now"⟩ 0), .request 0 (.sendAfter ⟨1, "tick"⟩ 1)]
    (by decide +kernel)
  obtain ⟨timer, hmem⟩ := exists_of_returns hany
  have hexact := (hall t ht).2.2 0 ⟨0, timer, hmem⟩ 0 timer hmem
  rw [hstopped] at hexact
  split_ifs at hexact
  cases hexact

end Timing

end BoostGateway.Runtime
