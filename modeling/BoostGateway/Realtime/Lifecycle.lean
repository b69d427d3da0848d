import BoostGateway.Realtime.InstanceRuntime

/-!
# The life of an instance

From its creation to its destruction an instance is active, and inputs and ticks may
come in any order, until one section of `finish_instance` settles it. However many calls
want to finish it (ticks whose plugin asks for it or raises, the frame limit, a request),
one does, and then nothing more is seen of it : `lifecycle`.
-/

namespace BoostGateway.Realtime

open InstanceRuntime

/-- What an instance does while it is not finished : inputs are accepted, `on_input` and
`on_tick` are called and snapshots are emitted. -/
def RuntimeEvent.isActivity : RuntimeEvent → Bool
  | .inputAccepted _ _ | .onInput _ _ _ | .onTick _ _ | .snapshotAvailable _ _ => true
  | _ => false

/-- The place of a state in the order in which they follow each other. -/
def InstanceState.rank : InstanceState → ℕ
  | .kCreating => 0
  | .kWaitingPlayers => 1
  | .kRunning => 2
  | .kFinishing => 3
  | .kFinished => 4
  | .kClosed => 5

/-- The state of an instance and what was seen of it. While the instance is waiting or
running there was neither a settlement nor a finish. Once it is finished, both came once,
the settlement right before the finish, and nothing came after them. -/
inductive Lifecycle (id : String) : InstanceState → List RuntimeEvent → Prop
  | active {state : InstanceState} {events : List RuntimeEvent} (hstate : state.isActive)
      (hevents : ∀ e ∈ events, e.isActivity) : Lifecycle id state events
  | finished {events : List RuntimeEvent} (settlement : SettlementContext)
      (hevents : ∀ e ∈ events, e.isActivity) :
      Lifecycle id .kFinished
        (events ++ [RuntimeEvent.buildSettlement id, .instanceFinished id settlement])

theorem Lifecycle.isActivity {id : String} {state : InstanceState} {events : List RuntimeEvent}
    (h : Lifecycle id state events) (hactive : state.isActive) : ∀ e ∈ events, e.isActivity := by
  cases h with
  | active _ hevents => exact hevents
  | finished settlement hevents => cases hactive

theorem Lifecycle.isActive {id : String} {state : InstanceState} {events : List RuntimeEvent}
    (h : Lifecycle id state events) (hfinished : state ≠ .kFinished) : state.isActive := by
  cases h with
  | active hstate _ => exact hstate
  | finished settlement _ => exact absurd rfl hfinished

namespace InstanceRuntime

variable {σ : Type}

/-- Every instance has a lifecycle so far, and nothing is seen of an id without an
instance. -/
structure Orderly (r : InstanceRuntime σ) : Prop where
  life : ∀ id inst, r.find id = some inst → Lifecycle id inst.state (life id r.log)
  quiet : ∀ id, r.find id = none → Realtime.life id r.log = []

/-- Where an instance is, its state is not behind the one it had. -/
def Forward (r r' : InstanceRuntime σ) : Prop :=
  ∀ id inst inst', r.find id = some inst → r'.find id = some inst' →
    inst.state.rank ≤ inst'.state.rank

theorem Forward.refl (r : InstanceRuntime σ) : r.Forward r := by
  intro id inst inst' h h'
  rw [h] at h'
  cases h'
  exact le_refl _

variable {r : InstanceRuntime σ}

theorem forward_put {id : String} {inst' : InternalInstance σ} {events : List RuntimeEvent}
    (h : ∀ inst, r.find id = some inst → inst.state.rank ≤ inst'.state.rank) :
    r.Forward (r.put id inst' events) := by
  intro id₁ inst₁ inst₂ h₁ h₂
  by_cases heq : id₁ = id
  · subst heq
    rw [find_put_self] at h₂
    cases h₂
    exact h inst₁ h₁
  · rw [find_put_of_ne r heq, h₁] at h₂
    cases h₂
    exact le_refl _

theorem rank_of_isActive {state : InstanceState} (h : state.isActive) : state.rank ≤ 2 := by
  cases state <;> simp_all [InstanceState.isActive, InstanceState.rank]

theorem Orderly.put (h : r.Orderly) {id : String}
    {inst : InternalInstance σ} {events : List RuntimeEvent} (hevents : ∀ e ∈ events, e.id = id)
    (hlife : Lifecycle id inst.state (Realtime.life id (r.log ++ events))) :
    (r.put id inst events).Orderly := by
  refine ⟨fun id' inst' hfind => ?_, fun id' hfind => ?_⟩
  · by_cases hid : id' = id
    · subst hid
      rw [find_put_self] at hfind
      cases hfind
      exact hlife
    · rw [find_put_of_ne r hid] at hfind
      rw [life_put_of_ne r hid inst hevents]
      exact h.life id' inst' hfind
  · by_cases hid : id' = id
    · subst hid
      rw [find_put_self] at hfind
      cases hfind
    · rw [find_put_of_ne r hid] at hfind
      rw [life_put_of_ne r hid inst hevents]
      exact h.quiet id' hfind

/-- An instance that goes on : what is seen of it in the section is activity. -/
theorem Orderly.put_active (h : r.Orderly) {id : String}
    {inst inst' : InternalInstance σ} {events : List RuntimeEvent} (hfind : r.find id = some inst)
    (hactive : inst.state.isActive) (hactive' : inst'.state.isActive)
    (hevents : ∀ e ∈ events, e.id = id ∧ e.isActivity) : (r.put id inst' events).Orderly := by
  refine h.put (fun e he => (hevents e he).1) (.active hactive' ?_)
  have hwithin : ∀ e ∈ events, e.id = id ∧ e.isWithin := by
    intro e he
    refine ⟨(hevents e he).1, ?_⟩
    have := (hevents e he).2
    cases e <;> simp_all [RuntimeEvent.isActivity, RuntimeEvent.isWithin]
  rw [life_append_of_within hwithin]
  intro e he
  rcases List.mem_append.mp he with he | he
  · exact (h.life id inst hfind).isActivity hactive e he
  · exact (hevents e he).2

theorem Orderly.createInstance (h : r.Orderly) (nowMs : ℤ)
    (args : CreateArgs) : (r.createInstance nowMs args).1.Orderly ∧
      r.Forward (r.createInstance nowMs args).1 := by
  rcases r.createInstance_cases nowMs args with heq | ⟨ctx, plugin, hfind, heq⟩
  · rw [heq]
    exact ⟨h, Forward.refl r⟩
  · rw [heq]
    refine ⟨h.put (by simp [RuntimeEvent.id]) ?_, forward_put (by simp [hfind])⟩
    rw [life_created]
    exact .active rfl (by simp)

theorem Orderly.destroyInstance (h : r.Orderly) (id : String) :
    (r.destroyInstance id).Orderly ∧ r.Forward (r.destroyInstance id) := by
  rcases r.destroyInstance_cases id with heq | heq
  · rw [heq]
    exact ⟨h, Forward.refl r⟩
  · have hfind : ∀ id', (r.destroyInstance id).find id' = if id' = id then none else r.find id' := by
      intro id'
      rw [heq]
      split_ifs with hid
      · rw [hid]
        exact AList.lookup_erase _ _
      · exact AList.lookup_erase_ne hid
    have hlog : ∀ id' ≠ id, Realtime.life id' (r.destroyInstance id).log =
        Realtime.life id' r.log := by
      intro id' hid
      rw [heq]
      exact life_append_of_ne (by simpa [RuntimeEvent.id] using Ne.symm hid)
    refine ⟨⟨fun id' inst h₁ => ?_, fun id' h₁ => ?_⟩, fun id' inst inst' h₁ h₂ => ?_⟩
    · rw [hfind] at h₁
      split_ifs at h₁ with hid
      rw [hlog id' hid]
      exact h.life id' inst h₁
    · rw [hfind] at h₁
      split_ifs at h₁ with hid
      · rw [heq, hid]
        exact life_destroyed id r.log
      · rw [hlog id' hid]
        exact h.quiet id' h₁
    · rw [hfind] at h₂
      split_ifs at h₂
      rw [h₁] at h₂
      cases h₂
      exact le_refl _

theorem Orderly.submitInput (h : r.Orderly) (input : InputEnvelope) :
    (r.submitInput input).1.Orderly ∧ r.Forward (r.submitInput input).1 := by
  rcases r.submitInput_cases input with ⟨heq, -⟩ | ⟨inst, hfind, hactive, -, -, heq⟩
  · rw [heq]
    exact ⟨h, Forward.refl r⟩
  · rw [heq]
    refine ⟨h.put_active hfind hactive hactive (by simp [RuntimeEvent.id, RuntimeEvent.isActivity]),
      forward_put ?_⟩
    simp [hfind]

theorem Orderly.getResumeSnapshot (h : r.Orderly) (id userId : String) :
    (r.getResumeSnapshot id userId).1.Orderly ∧ r.Forward (r.getResumeSnapshot id userId).1 := by
  rcases r.getResumeSnapshot_cases id userId with heq | ⟨inst, player, hfind, -, heq⟩
  · rw [heq]
    exact ⟨h, Forward.refl r⟩
  · rw [heq]
    refine ⟨h.put nofun ?_, forward_put ?_⟩
    · rw [List.append_nil]
      exact h.life id inst hfind
    · simp [hfind]

theorem Orderly.finishInstance (h : r.Orderly) (id : String) (reason : FinishReason) :
    (r.finishInstance id reason).Orderly ∧ r.Forward (r.finishInstance id reason) := by
  rcases r.finishInstance_cases id reason with ⟨heq, -⟩ | ⟨inst, hfind, hfinished, -, heq⟩
  · rw [heq]
    exact ⟨h, Forward.refl r⟩
  · rw [heq]
    have hlife := h.life id inst hfind
    have hactive : inst.state.isActive := hlife.isActive hfinished
    have hrank := rank_of_isActive hactive
    refine ⟨h.put (by simp [finished, RuntimeEvent.id]) ?_, forward_put ?_⟩
    · rw [life_append_of_within (by simp [finished, RuntimeEvent.id, RuntimeEvent.isWithin])]
      exact .finished _ (hlife.isActivity hactive)
    · intro inst' hinst'
      rw [hfind] at hinst'
      cases hinst'
      show inst.state.rank ≤ InstanceState.kFinished.rank
      exact le_trans hrank (by decide)

theorem Orderly.tickSection (h : r.Orderly) (id : String) (frameNumber : UInt32) (tickStartMs : ℤ) :
    (r.tickSection id frameNumber tickStartMs).1.Orderly ∧
      r.Forward (r.tickSection id frameNumber tickStartMs).1 := by
  rcases r.tickSection_cases id frameNumber tickStartMs with heq | ⟨inst, hfind, hactive, heq⟩
  · rw [heq]
    exact ⟨h, Forward.refl r⟩
  · rw [heq]
    refine ⟨h.put_active hfind hactive rfl ?_, forward_put ?_⟩
    · intro e he
      rcases mem_runFrame he with ⟨input, accepted, rfl⟩ | rfl | ⟨snapshot, rfl⟩ <;>
        exact ⟨rfl, rfl⟩
    · intro inst' hinst'
      rw [hfind] at hinst'
      cases hinst'
      exact rank_of_isActive hactive

end InstanceRuntime

namespace Hosting

variable {σ : Type}

theorem orderly_step {h h' : Hosting σ} {a : HostingAction} (hr : h.runtime.Orderly)
    (hs : h.step a = some h') : h'.runtime.Orderly ∧ h.runtime.Forward h'.runtime := by
  rcases step_cases hs with heq | ⟨nowMs, args, -, heq⟩ | ⟨id, -, heq⟩ | ⟨input, -, heq⟩ |
    ⟨id, userId, -, heq⟩ | ⟨id, reason, -, heq⟩ | ⟨i, call, id, frameNumber, rest, -, -, -, -, heq⟩
  all_goals rw [heq]
  · exact ⟨hr, Forward.refl _⟩
  · exact hr.createInstance nowMs args
  · exact hr.destroyInstance id
  · exact hr.submitInput input
  · exact hr.getResumeSnapshot id userId
  · exact hr.finishInstance id reason
  · exact hr.tickSection id frameNumber call.tickStartMs

/-- In every interleaving of the sections, whatever the plugins do, each instance has a
lifecycle, and its state only moves forward. -/
theorem lifecycle {h : Hosting σ} (hr : Reaches (fun _ _ => True) h) :
    (∀ id inst, h.runtime.find id = some inst →
      Lifecycle id inst.state (life id h.runtime.log)) ∧
    ∀ a h', h.step a = some h' → h.runtime.Forward h'.runtime := by
  have horderly : h.runtime.Orderly := by
    refine hr.invariant ?_ fun h a h' hi _ hs => (orderly_step hi hs).1
    rintro h ⟨maxInstances, pluginFactories, movedFrom, rfl⟩
    exact ⟨nofun, fun _ _ => rfl⟩
  exact ⟨horderly.life, fun a h' hs => (orderly_step horderly hs).2⟩

/-- A plugin that accepts every input and wants to finish at every tick. -/
def hastyPlugin : InstancePlugin Unit where
  onInstanceCreated ctx := some ctx
  onInput ctx input := (ctx, some { accepted := true, ackSeq := input.seq })
  onTick ctx frame := (ctx, some { frameNumber := frame.frameNumber, shouldFinish := true })
  buildSnapshot ctx := (ctx, some {})
  buildSettlement ctx _ := (ctx, some "")
  buildResumeSnapshot ctx _ := (ctx, some {})

/-- A runtime that has the plugin for every type of instance. -/
def hasty : Hosting Unit where
  runtime := { pluginFactories := fun _ => some (hastyPlugin, ()) }

/-- Two ticks want to finish an instance, and the second is executed before the first
does. -/
theorem lifecycle_hasty : ∃ h : Hosting Unit, Reaches (fun _ _ => True) h ∧
    life "b" h.runtime.log =
      [.onTick "b" 1, .snapshotAvailable "b" { frameNumber := 1 }, .onTick "b" 2,
        .snapshotAvailable "b" { frameNumber := 2 }, .buildSettlement "b",
        .instanceFinished "b" { instanceId := "b", roomId := "r", totalFrames := 2 }] ∧
    (∀ id inst, h.runtime.find id = some inst →
      Lifecycle id inst.state (life id h.runtime.log)) ∧
    ∀ a h', h.step a = some h' → h.runtime.Forward h'.runtime := by
  obtain ⟨h, hr, hlife⟩ : ∃ h : Hosting Unit, Reaches (fun _ _ => True) h ∧
      life "b" h.runtime.log =
        [.onTick "b" 1, .snapshotAvailable "b" { frameNumber := 1 }, .onTick "b" 2,
          .snapshotAvailable "b" { frameNumber := 2 }, .buildSettlement "b",
          .instanceFinished "b" { instanceId := "b", roomId := "r", totalFrames := 2 }] :=
    Reaches.exists_runWith (s := hasty) (.init ⟨_, _, _, rfl⟩)
      [.createInstance 0 { instanceId := "b", roomId := "r", instanceType := "t", players := [] },
        .tickInstance "b" 1 0, .tickInstance "b" 2 0, .proceed 0, .proceed 1, .proceed 0,
        .proceed 1, .submitInput { instanceId := "b", userId := "u" }]
      (by decide +kernel)
  exact ⟨h, hr, hlife, lifecycle hr⟩

end Hosting

end BoostGateway.Realtime
