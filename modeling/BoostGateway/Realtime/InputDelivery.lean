import BoostGateway.Realtime.InstanceRuntime

/-!
# The delivery of inputs

An input that `submit_input` accepts waits in the queue of its instance, which is bounded,
and the next tick passes it to `on_input`, in order. `observe` reads this off what is seen
of the instance, together with the users whose inputs were accepted by `on_input` in a
tick, who are the ones the tick acknowledges.

The tick moves an accepted input into the frame and then reads the user id off the input it
moved from. So the acknowledgement goes to the user whose id a moved-from string happens to
be, which is nobody : `inputs_delivered` needs that user ids survive the move.
-/

namespace BoostGateway.Realtime

open InstanceRuntime

/-- What the events of an instance say about its inputs. -/
structure Deliveries where
  /-- Accepted by `submit_input` and not yet passed to `on_input`. -/
  pending : List InputEnvelope := []
  /-- The users of the inputs that `on_input` accepted since the last `on_tick`. -/
  acked : List String := []
  /-- The frame of the last tick that acknowledged an input of the user. -/
  frames : String → UInt32 := fun _ => 0

/-- An input is passed to `on_input` when its turn comes, and all of them before `on_tick`;
anything else is `none`. -/
def Deliveries.observe (d : Deliveries) : RuntimeEvent → Option Deliveries
  | .inputAccepted _ input => some { d with pending := d.pending ++ [input] }
  | .onInput _ input accepted =>
    match d.pending with
    | [] => none
    | next :: pending =>
      if next = input then
        some { d with
          pending := pending
          acked := if accepted then d.acked ++ [input.userId] else d.acked }
      else none
  | .onTick _ frameNumber =>
    if d.pending = [] then
      some { d with
        acked := []
        frames := fun user => if user ∈ d.acked then frameNumber else d.frames user }
    else none
  | _ => some d

variable {σ : Type}

/-- The queue of an instance holds the accepted inputs that wait for the next tick and
keeps to its limit, and every player's last acknowledged frame is that of the last tick
in which `on_input` accepted an input of the player. -/
structure InputsDelivered (inst : InternalInstance σ) (events : List RuntimeEvent) : Prop where
  delivered : ∃ d : Deliveries, events.foldlM Deliveries.observe {} = some d ∧
    d.pending = inst.inputQueue ∧ d.acked = [] ∧
    ∀ user, (inst.playerInputState user).lastAckedFrame = d.frames user
  bounded : inst.inputQueue.length ≤ inst.ctx.inputQueueLimit.toNat

/-! ## The condition -/

/-- The inputs of a queue that `on_input` accepts. -/
def acceptedInputs (plugin : InstancePlugin σ) :
    InstanceContext σ → List InputEnvelope → List InputEnvelope
  | _, [] => []
  | ctx, input :: queue =>
    match plugin.onInput ctx input with
    | (ctx, some result) =>
      if result.accepted then input :: acceptedInputs plugin ctx queue
      else acceptedInputs plugin ctx queue
    | (ctx, none) => acceptedInputs plugin ctx queue

namespace InstanceRuntime

variable (r : InstanceRuntime σ)

/-- The users of the inputs that the next tick of `id` accepts have ids that survive being
moved from. -/
def usersIntact (id : String) : Bool :=
  (r.find id).all fun inst =>
    (acceptedInputs inst.plugin inst.ctx inst.inputQueue).all fun input =>
      r.movedFrom input.userId = input.userId

/-- The hook leaves room for the inputs that wait. -/
def keepsLimit (inst : InternalInstance σ) (ctx : InstanceContext σ) : Bool :=
  inst.inputQueue.length ≤ ctx.inputQueueLimit.toNat

/-- `build_settlement` does not lower the limit of the queue below its length. -/
def settlementKeepsLimit (id : String) (reason : FinishReason) : Bool :=
  (r.find id).all fun inst => keepsLimit inst (settle id inst reason).1

/-- `build_resume_snapshot` does not either. -/
def resumeKeepsLimit (id userId : String) : Bool :=
  (r.find id).all fun inst => (inst.ctx.findPlayer userId).all fun player =>
    keepsLimit inst (inst.plugin.buildResumeSnapshot inst.ctx player).1

end InstanceRuntime

namespace Hosting

/-- No tick accepts an input of a user whose id does not survive the move, and the plugin
does not lower the limit below the queue while inputs wait. -/
def Careful (h : Hosting σ) : HostingAction → Prop
  | .finishInstance id reason => h.runtime.settlementKeepsLimit id reason
  | .getResumeSnapshot id userId => h.runtime.resumeKeepsLimit id userId
  | .proceed i => h.calls[i]?.all fun call =>
    match call.finish, call.rest with
    | some (id, reason), _ => h.runtime.settlementKeepsLimit id reason
    | none, (id, _) :: _ => h.runtime.usersIntact id
    | none, [] => true
  | _ => True

instance (h : Hosting σ) (a : HostingAction) : Decidable (h.Careful a) := by
  cases a <;> unfold Careful <;> infer_instance

end Hosting

/-! ## A tick -/

section

variable (movedFrom : String → String) (plugin : InstancePlugin σ) (frameNumber : UInt32)

/-- The players once the first input was accepted or not. -/
def acknowledge (movedFrom : String → String) (frameNumber : UInt32) (accepted : Bool)
    (input : InputEnvelope) (players : String → PlayerInputState) : String → PlayerInputState :=
  if accepted then
    Function.update players (movedFrom input.userId)
      { players (movedFrom input.userId) with lastAckedFrame := frameNumber }
  else players

/-- The loop asks the plugin about the first input and goes on. -/
theorem drain_cons (ctx : InstanceContext σ) (players : String → PlayerInputState)
    (input : InputEnvelope) (queue : List InputEnvelope) : ∃ ctx' accepted,
    acceptedInputs plugin ctx (input :: queue) =
      (if accepted then [input] else []) ++ acceptedInputs plugin ctx' queue ∧
    (drain movedFrom plugin frameNumber ctx players (input :: queue)).2.1 =
      (drain movedFrom plugin frameNumber ctx'
        (acknowledge movedFrom frameNumber accepted input players) queue).2.1 ∧
    (drain movedFrom plugin frameNumber ctx players (input :: queue)).2.2.2 =
      accepted :: (drain movedFrom plugin frameNumber ctx'
        (acknowledge movedFrom frameNumber accepted input players) queue).2.2.2 := by
  rw [drain, acceptedInputs]
  rcases plugin.onInput ctx input with ⟨ctx', none | result⟩
  · exact ⟨ctx', false, by simp [acknowledge]⟩
  · refine ⟨ctx', result.accepted, ?_⟩
    cases haccepted : result.accepted <;> simp [acknowledge, haccepted]

end

/-- The acknowledged frames after the loop. -/
theorem lastAckedFrame_drain {movedFrom : String → String} {plugin : InstancePlugin σ}
    {frameNumber : UInt32} (ctx : InstanceContext σ) (players : String → PlayerInputState)
    (queue : List InputEnvelope)
    (hmoved : ∀ input ∈ acceptedInputs plugin ctx queue, movedFrom input.userId = input.userId)
    (user : String) :
    ((drain movedFrom plugin frameNumber ctx players queue).2.1 user).lastAckedFrame =
      if user ∈ (acceptedInputs plugin ctx queue).map (·.userId) then frameNumber
      else (players user).lastAckedFrame := by
  induction queue generalizing ctx players with
  | nil => simp [drain, acceptedInputs]
  | cons input queue ih =>
    obtain ⟨ctx', accepted, hinputs, hplayers, -⟩ :=
      drain_cons movedFrom plugin frameNumber ctx players input queue
    rw [hinputs] at hmoved ⊢
    rw [hplayers, ih ctx' _ fun x hx => hmoved x (List.mem_append_right _ hx)]
    cases accepted with
    | false => simp [acknowledge]
    | true =>
      have huser : movedFrom input.userId = input.userId := hmoved input (by simp)
      by_cases hin : user ∈ (acceptedInputs plugin ctx' queue).map (·.userId)
      · simp_all
      · by_cases heq : user = input.userId
        · simp [acknowledge, huser, heq]
        · simp [acknowledge, huser, heq, hin]

/-- What the calls of `on_input` in a tick say : the inputs that waited are passed on, and
the users of the accepted ones are noted. -/
theorem foldlM_observe_drain (movedFrom : String → String) (plugin : InstancePlugin σ)
    (frameNumber : UInt32) (id : String) (ctx : InstanceContext σ)
    (players : String → PlayerInputState) (d : Deliveries) :
    (List.zipWith (RuntimeEvent.onInput id) d.pending
        (drain movedFrom plugin frameNumber ctx players d.pending).2.2.2).foldlM
      Deliveries.observe d =
    some { d with
      pending := []
      acked := d.acked ++ (acceptedInputs plugin ctx d.pending).map (·.userId) } := by
  obtain ⟨queue, acked, frames⟩ := d
  induction queue generalizing ctx players acked with
  | nil => simp [drain, acceptedInputs]
  | cons input queue ih =>
    obtain ⟨ctx', accepted, hinputs, -, hflags⟩ :=
      drain_cons movedFrom plugin frameNumber ctx players input queue
    rw [hflags, hinputs, List.zipWith_cons_cons, List.foldlM_cons]
    simp only [Deliveries.observe, if_true, Option.bind_eq_bind, Option.bind_some]
    rw [ih ctx']
    cases accepted <;> simp

/-- A tick delivers the inputs that wait and acknowledges the users of the accepted ones. -/
theorem InputsDelivered.runFrame {movedFrom : String → String} {id : String}
    {inst : InternalInstance σ} {events : List RuntimeEvent} (h : InputsDelivered inst events)
    (hmoved : ∀ input ∈ acceptedInputs inst.plugin inst.ctx inst.inputQueue,
      movedFrom input.userId = input.userId) (frameNumber : UInt32) (tickStartMs : ℤ) :
    InputsDelivered (runFrame movedFrom id inst frameNumber tickStartMs).1
      (events ++ (runFrame movedFrom id inst frameNumber tickStartMs).2.2) := by
  obtain ⟨d, hd, hpending, hacked, hframes⟩ := h.delivered
  have hinputs := foldlM_observe_drain movedFrom inst.plugin frameNumber id inst.ctx
    inst.playerInputState d
  rw [hpending, hacked, List.nil_append] at hinputs
  refine ⟨⟨{ d with
    pending := []
    acked := []
    frames := fun user =>
      if user ∈ (acceptedInputs inst.plugin inst.ctx inst.inputQueue).map (·.userId)
      then frameNumber else d.frames user }, ?_, rfl, rfl, fun user => ?_⟩, Nat.zero_le _⟩
  · rw [List.foldlM_append, hd]
    simp [InstanceRuntime.runFrame, List.foldlM_append, hinputs, Deliveries.observe]
  · show _ = if _ then frameNumber else d.frames user
    rw [← hframes user]
    exact lastAckedFrame_drain inst.ctx inst.playerInputState inst.inputQueue hmoved user

namespace InstanceRuntime

/-- The inputs of every instance are delivered so far. -/
def AllDelivered (r : InstanceRuntime σ) : Prop :=
  ∀ id inst, r.find id = some inst → InputsDelivered inst (life id r.log)

variable {r : InstanceRuntime σ}

theorem AllDelivered.createInstance (h : r.AllDelivered) (nowMs : ℤ)
    (args : CreateArgs) : (r.createInstance nowMs args).1.AllDelivered :=
  Each.createInstance h nowMs args fun _ _ =>
    ⟨⟨{}, rfl, rfl, rfl, fun _ => rfl⟩, Nat.zero_le _⟩

theorem AllDelivered.submitInput (h : r.AllDelivered)
    (input : InputEnvelope) : (r.submitInput input).1.AllDelivered := by
  rcases r.submitInput_cases input with ⟨heq, -⟩ | ⟨inst, hfind, -, hlimit, -, heq⟩
  · rwa [heq]
  · rw [heq]
    refine Each.put h (by simp [RuntimeEvent.id]) ?_
    obtain ⟨d, hd, hpending, hacked, hframes⟩ := (h _ inst hfind).delivered
    rw [life_append_of_within (by simp [RuntimeEvent.id, RuntimeEvent.isWithin])]
    refine ⟨⟨{ d with pending := d.pending ++ [input] }, ?_, ?_, hacked, fun user => ?_⟩, ?_⟩
    · rw [List.foldlM_append, hd]
      rfl
    · simp [hpending]
    · rw [← hframes user]
      by_cases huser : user = input.userId
      · simp [huser]
      · simp [huser]
    · simp only [List.length_append, List.length_singleton]
      omega

/-- A hook that changes the context of an instance, seen from outside only by `events`,
which are not about inputs. -/
theorem AllDelivered.put_ctx (h : r.AllDelivered) {id : String}
    {inst : InternalInstance σ} (hfind : r.find id = some inst) {ctx : InstanceContext σ}
    (hlimit : keepsLimit inst ctx) (state : InstanceState) {events : List RuntimeEvent}
    (hid : ∀ e ∈ events, e.id = id ∧ e.isWithin)
    (hevents : ∀ d : Deliveries, events.foldlM Deliveries.observe d = some d) :
    (r.put id { inst with ctx := ctx, state := state } events).AllDelivered := by
  refine Each.put h (fun e he => (hid e he).1) ?_
  obtain ⟨d, hd, hpending, hacked, hframes⟩ := (h _ inst hfind).delivered
  rw [life_append_of_within hid]
  refine ⟨⟨d, ?_, hpending, hacked, hframes⟩, of_decide_eq_true hlimit⟩
  rw [List.foldlM_append, hd]
  exact hevents d

theorem AllDelivered.getResumeSnapshot (h : r.AllDelivered)
    {id userId : String} (hlimit : r.resumeKeepsLimit id userId) :
    (r.getResumeSnapshot id userId).1.AllDelivered := by
  rcases r.getResumeSnapshot_cases id userId with heq | ⟨inst, player, hfind, hplayer, heq⟩
  · rwa [heq]
  · rw [heq]
    simp only [resumeKeepsLimit, hfind, hplayer, Option.all_some] at hlimit
    exact h.put_ctx hfind hlimit inst.state nofun fun _ => rfl

theorem AllDelivered.finishInstance (h : r.AllDelivered) {id : String}
    {reason : FinishReason} (hlimit : r.settlementKeepsLimit id reason) :
    (r.finishInstance id reason).AllDelivered := by
  rcases r.finishInstance_cases id reason with ⟨heq, -⟩ | ⟨inst, hfind, -, -, heq⟩
  · rwa [heq]
  · rw [heq]
    simp only [settlementKeepsLimit, hfind, Option.all_some] at hlimit
    exact h.put_ctx hfind hlimit .kFinished
      (by simp [finished, RuntimeEvent.id, RuntimeEvent.isWithin])
      fun _ => rfl

theorem AllDelivered.tickSection (h : r.AllDelivered) {id : String}
    (hintact : r.usersIntact id) (frameNumber : UInt32) (tickStartMs : ℤ) :
    (r.tickSection id frameNumber tickStartMs).1.AllDelivered := by
  rcases r.tickSection_cases id frameNumber tickStartMs with heq | ⟨inst, hfind, -, heq⟩
  · rwa [heq]
  · rw [heq]
    refine Each.put h (fun e he => (isWithin_runFrame he).1) ?_
    rw [life_append_of_within fun e he => isWithin_runFrame he]
    refine (h id inst hfind).runFrame ?_ frameNumber tickStartMs
    simp only [usersIntact, hfind, Option.all_some, List.all_eq_true, decide_eq_true_eq] at hintact
    exact hintact

end InstanceRuntime

namespace Hosting

theorem allDelivered_step {h h' : Hosting σ} {a : HostingAction} (hd : h.runtime.AllDelivered)
    (hc : h.Careful a) (hs : h.step a = some h') : h'.runtime.AllDelivered := by
  rcases step_cases hs with heq | ⟨nowMs, args, -, heq⟩ | ⟨id, -, heq⟩ | ⟨input, -, heq⟩ |
    ⟨id, userId, rfl, heq⟩ | ⟨id, reason, ha, heq⟩ |
    ⟨i, call, id, frameNumber, rest, rfl, hcall, hfin, hrest, heq⟩
  all_goals rw [heq]
  · exact hd
  · exact hd.createInstance nowMs args
  · exact Each.destroyInstance hd id
  · exact hd.submitInput input
  · exact hd.getResumeSnapshot hc
  · refine hd.finishInstance ?_
    rcases ha with rfl | ⟨i, call, rfl, hcall, hfin⟩
    · exact hc
    · simpa [Careful, hcall, hfin] using hc
  · refine hd.tickSection ?_ frameNumber call.tickStartMs
    simpa [Careful, hcall, hfin, hrest] using hc

/-- In every interleaving of careful sections the inputs of every instance are delivered. -/
theorem inputs_delivered {h : Hosting σ} (hr : Reaches Careful h) :
    ∀ id inst, h.runtime.find id = some inst →
      InputsDelivered inst (life id h.runtime.log) := by
  have hd : h.runtime.AllDelivered := by
    refine hr.invariant ?_ fun h a h' hi hc hs => allDelivered_step hi hc hs
    rintro h ⟨maxInstances, pluginFactories, movedFrom, rfl⟩
    exact nofun
  exact hd

/-- A plugin that accepts every input. -/
def acceptingPlugin : InstancePlugin Unit where
  onInstanceCreated ctx := some ctx
  onInput ctx input := (ctx, some { accepted := true, ackSeq := input.seq })
  onTick ctx frame := (ctx, some { frameNumber := frame.frameNumber })
  buildSnapshot ctx := (ctx, some {})
  buildSettlement ctx _ := (ctx, some "")
  buildResumeSnapshot ctx _ := (ctx, some {})

/-- A runtime that has the plugin for every type of instance, with a library whose strings
are empty after a move. -/
def accepting : Hosting Unit where
  runtime := { pluginFactories := fun _ => some (acceptingPlugin, ()) }

/-- A user without an id is acknowledged. -/
theorem inputs_delivered_nameless : ∃ h : Hosting Unit, Reaches Careful h ∧
    (∀ id inst, h.runtime.find id = some inst →
      InputsDelivered inst (life id h.runtime.log)) ∧
    (h.runtime.find "b").map (fun inst => (inst.playerInputState "").lastAckedFrame) = some 7 := by
  obtain ⟨h, hr, hlast⟩ : ∃ h : Hosting Unit, Reaches Careful h ∧
      (h.runtime.find "b").map (fun inst => (inst.playerInputState "").lastAckedFrame) = some 7 :=
    Reaches.exists_runWith (s := accepting) (.init ⟨_, _, _, rfl⟩)
      [.createInstance 0 { instanceId := "b", roomId := "r", instanceType := "t", players := [] },
        .submitInput { instanceId := "b", userId := "" }, .tickInstance "b" 7 0, .proceed 0]
      (by decide +kernel)
  exact ⟨h, hr, inputs_delivered hr, hlast⟩

/-- The input of a user with an id is accepted in frame 1, and the user's last acknowledged
frame stays 0. -/
theorem not_inputs_delivered_named : ¬ ∀ h : Hosting Unit, Reaches (fun _ _ => True) h →
    ∀ id inst, h.runtime.find id = some inst →
      InputsDelivered inst (life id h.runtime.log) := by
  intro hall
  obtain ⟨h, hr, hlife, hlast⟩ : ∃ h : Hosting Unit, Reaches (fun _ _ => True) h ∧
      life "b" h.runtime.log =
        [.inputAccepted "b" { instanceId := "b", userId := "u" },
          .onInput "b" { instanceId := "b", userId := "u" } true, .onTick "b" 1,
          .snapshotAvailable "b" { frameNumber := 1 }] ∧
      (h.runtime.find "b").map (fun inst => (inst.playerInputState "u").lastAckedFrame) = some 0 :=
    Reaches.exists_runWith (s := accepting) (.init ⟨_, _, _, rfl⟩)
      [.createInstance 0 { instanceId := "b", roomId := "r", instanceType := "t", players := [] },
        .submitInput { instanceId := "b", userId := "u" }, .tickInstance "b" 1 0, .proceed 0]
      (by decide +kernel)
  obtain ⟨inst, hfind, hacked⟩ := Option.map_eq_some_iff.mp hlast
  obtain ⟨d, hd, -, -, hframes⟩ := (hall h hr "b" inst hfind).delivered
  rw [hlife] at hd
  cases hd
  have := hframes "u"
  rw [hacked] at this
  exact absurd this (by decide)

end Hosting

end BoostGateway.Realtime
