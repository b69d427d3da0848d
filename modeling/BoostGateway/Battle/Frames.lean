import BoostGateway.Battle.View

/-!
# The frames of a battle under concurrent requests

The handlers of `battle_input` and `battle_state` run in the threads of the service. Each
reads the last frame number of the battle in one section, ticks the next frame in another,
and stores the number in a third, so two handlers may read the same number. `Handling` is a
service with handlers between their sections. The sections after the tick touch neither the
runtime nor the frame numbers and are one here; the other requests are handled at once.

`frames_in_order` : where no other handler ticks the battle between the read of a handler and
its own tick (`Undisturbed`), the frames executed are 1, 2, 3 and so on.
-/

namespace BoostGateway.Battle

open Realtime

/-- What a handler of an input does next, with what it has read. -/
inductive InputPhase
  | find
  | submit
  | read (ackSeq : UInt64)
  | tick (ackSeq : UInt64) (frame : UInt32)
  | store (ackSeq : UInt64) (stats : TickStats)
  | answer (ackSeq : UInt64) (stats : TickStats)

/-- What a handler of a query does next, with what it has read. -/
inductive StatePhase
  | find
  | read
  | due (frame : UInt32)
  | tick (frame : UInt32)
  | store (stats : TickStats)
  | answer (frame : UInt32) (ticked : Bool)

/-- Where a handler stands. -/
inductive Handler
  | input (nowMs : ℤ) (stored : Bool) (userId battleId inputData : String) (phase : InputPhase)
  | state (nowMs : ℤ) (battleId : String) (phase : StatePhase)

/-- A service with handlers under way. -/
structure Handling where
  backend : BattleBackend
  handlers : List Handler := []

/-- A request, or a turn of a handler. -/
inductive HandlingAction
  /-- A request comes in. -/
  | receive (req : BattleRequest)
  /-- The handler at the position runs its next section. -/
  | proceed (i : ℕ)

namespace Handler

def battleId : Handler → String
  | .input _ _ _ battleId _ _ | .state _ battleId _ => battleId

/-- The frame that the handler ticks next. -/
def ticking : Handler → Option UInt32
  | .input _ _ _ _ _ (.tick _ frame) | .state _ _ (.tick frame) => some frame
  | _ => none

/-- The frame that the handler has ticked and not stored. -/
def ticked : Handler → Option UInt32
  | .input _ _ _ _ _ (.store _ stats) | .state _ _ (.store stats) => some stats.frameNumber
  | _ => none

/-- The handler has not looked for its battle yet. -/
def isNew : Handler → Bool
  | .input _ _ _ _ _ .find | .state _ _ .find => true
  | _ => false

/-- The next section of a handler. A handler that has answered is gone. -/
def next (s : BattleBackend) : Handler → BattleBackend × Option Handler
  | .input nowMs stored userId battleId inputData phase =>
    let goOn := fun phase => some (input nowMs stored userId battleId inputData phase)
    match phase with
    | .find => (s, if (s.runtime.find battleId).isNone then none else goOn .submit)
    | .submit =>
      let (s, result) :=
        s.submitInput { instanceId := battleId, userId := userId, payload := inputData }
      (s, if result.accepted then goOn (.read result.ackSeq) else none)
    | .read ackSeq => (s, goOn (.tick ackSeq (s.getInstanceFrame battleId + 1)))
    | .tick ackSeq frame =>
      let (s, stats) := s.tickInstance battleId frame nowMs
      (s, goOn (.store ackSeq stats))
    | .store ackSeq stats =>
      (s.setInstanceFrame battleId stats.frameNumber, goOn (.answer ackSeq stats))
    | .answer ackSeq stats =>
      ((s.afterInput nowMs stored userId battleId inputData ackSeq stats).1, none)
  | .state nowMs battleId phase =>
    let goOn := fun phase => some (state nowMs battleId phase)
    match phase with
    | .find =>
      if battleId = "" then (s, none)
      else if (s.runtime.find battleId).isNone then
        ((s.afterState battleId false (s.getInstanceFrame battleId)).1, none)
      else (s, goOn .read)
    | .read => (s, goOn (.due (s.getInstanceFrame battleId)))
    | .due frame =>
      let (s, due) := s.shouldTickInstance battleId nowMs
      (s, goOn (if due then .tick (frame + 1) else .answer frame false))
    | .tick frame =>
      let (s, stats) := s.tickInstance battleId frame nowMs
      (s, goOn (.store stats))
    | .store stats =>
      (s.setInstanceFrame battleId stats.frameNumber, goOn (.answer stats.frameNumber true))
    | .answer frame ticked =>
      let s := if ticked then (s.takeSnapshot battleId frame none).1 else s
      ((s.afterState battleId true frame).1, none)

end Handler

namespace Handling

/-- A request starts a handler; the requests that drive no tick are handled at once. -/
def receive (h : Handling) (req : BattleRequest) : Handling :=
  match req.read with
  | .ok (.inr (.battleInput nowMs stored userId battleId inputData)) =>
    { h with handlers := h.handlers ++ [.input nowMs stored userId battleId inputData .find] }
  | .ok (.inr (.battleState nowMs battleId)) =>
    { h with handlers := h.handlers ++ [.state nowMs battleId .find] }
  | .ok (.inr c) => { h with backend := (h.backend.call c).1 }
  | _ => h

/-- The list with the element at the position replaced or gone. -/
def replaceAt {α : Type} (xs : List α) (i : ℕ) : Option α → List α
  | some x => xs.set i x
  | none => xs.eraseIdx i

def step (h : Handling) : HandlingAction → Option Handling
  | .receive req => some (h.receive req)
  | .proceed i => h.handlers[i]?.map fun handler =>
    let (backend, handler) := handler.next h.backend
    { backend := backend, handlers := replaceAt h.handlers i handler }

/-- The states a service reaches by actions that meet `ok`. -/
abbrev Reaches (ok : Handling → HandlingAction → Prop) : Handling → Prop :=
  BoostGateway.Reaches (fun h => ∃ lib maxInstances movedFrom instanceType hasReplayStorage,
    h = { backend := .initial lib maxInstances movedFrom instanceType hasReplayStorage }) step ok

/-- When a handler ticks an active battle, the frame number it read is still the one stored,
no other handler has ticked the battle without storing the number yet, and the number does
not overflow. -/
def Undisturbed (h : Handling) : HandlingAction → Prop
  | .receive _ => True
  | .proceed i => ∀ x ∈ h.handlers[i]?, ∀ frame ∈ x.ticking,
    (h.backend.runtime.find x.battleId).any (·.state.isActive) →
      frame = h.backend.getInstanceFrame x.battleId + 1 ∧ frame ≠ 0 ∧
      ∀ other ∈ h.handlers, other.battleId = x.battleId → other.ticked = none

/-- By the one frame there may be, not by all frame numbers. -/
instance (h : Handling) (x : Handler) : Decidable (∀ frame ∈ x.ticking,
    (h.backend.runtime.find x.battleId).any (·.state.isActive) →
      frame = h.backend.getInstanceFrame x.battleId + 1 ∧ frame ≠ 0 ∧
      ∀ other ∈ h.handlers, other.battleId = x.battleId → other.ticked = none) :=
  Option.decidableForallMem x.ticking

instance (h : Handling) : (a : HandlingAction) → Decidable (h.Undisturbed a)
  | .receive _ => .isTrue trivial
  | .proceed i => inferInstanceAs (Decidable (∀ x ∈ h.handlers[i]?, ∀ frame ∈ x.ticking,
    (h.backend.runtime.find x.battleId).any (·.state.isActive) →
      frame = h.backend.getInstanceFrame x.battleId + 1 ∧ frame ≠ 0 ∧
      ∀ other ∈ h.handlers, other.battleId = x.battleId → other.ticked = none))

end Handling

/-- The frame numbers passed to `on_tick` for the battle. -/
def frameNumbers (battleId : String) (log : List RuntimeEvent) : List UInt32 :=
  (life battleId log).filterMap fun
    | .onTick _ frame => some frame
    | _ => none

/-! ## Sections -/

theorem frameNumbers_append {battleId : String} {log events : List RuntimeEvent}
    (h : ∀ e ∈ events, e.id = battleId ∧ e.isWithin) :
    frameNumbers battleId (log ++ events) = frameNumbers battleId log ++ events.filterMap fun
      | .onTick _ frame => some frame
      | _ => none := by
  rw [frameNumbers, life_append_of_within h, List.filterMap_append]
  rfl

theorem filterMap_onTick_runTick {σ : Type} (movedFrom : String → String) (id : String)
    (inst : InternalInstance σ) (frameNumber : UInt32) (tickStartMs : ℤ) :
    ((InstanceRuntime.runTick movedFrom id inst frameNumber tickStartMs).2.2.filterMap fun
      | .onTick _ frame => some frame
      | _ => none) = [frameNumber] := by
  have hinputs : ∀ (inputs : List InputEnvelope) (accepted : List Bool),
      ((List.zipWith (RuntimeEvent.onInput id) inputs accepted).filterMap fun
        | .onTick _ frame => some frame
        | _ => none) = [] := by
    intro inputs
    induction inputs with
    | nil => exact fun _ => rfl
    | cons input inputs ih =>
      rintro (_ | ⟨accepted, rest⟩)
      · rfl
      · simpa using ih rest
  unfold InstanceRuntime.runTick InstanceRuntime.runFrame
  dsimp only
  split_ifs <;> simp [List.filterMap_append, hinputs, InstanceRuntime.finished]

namespace Handler

/-- What a section does to a service and its handler, as far as frames go. -/
inductive Progress (s s' : BattleBackend) (h : Handler) (h' : Option Handler) : Prop
  | quiet (hticking : h.ticking = none) (hticked : h.ticked = none)
      (hruntime : s'.runtime = s.runtime) (hlib : s'.lib = s.lib)
      (hframes : s'.instanceFrames = s.instanceFrames)
      (hnext : ∀ x, h' = some x → x.battleId = h.battleId ∧ x.ticked = none ∧
        (h.isNew → s.runtime.find h.battleId ≠ none))
  | submits {inst : InternalInstance (Option PluginState)} {input : InputEnvelope}
      (hticking : h.ticking = none) (hticked : h.ticked = none) (hnew : h.isNew = false)
      (hfind : s.runtime.find h.battleId = some inst)
      (hruntime : s'.runtime =
        s.runtime.put h.battleId (queued inst input) [.inputAccepted h.battleId input])
      (hlib : s'.lib = s.lib) (hframes : s'.instanceFrames = s.instanceFrames)
      (hnext : ∀ x, h' = some x → x.battleId = h.battleId ∧ x.ticked = none)
  | ticks {frame : UInt32} {nowMs : ℤ} {x : Handler} (hticking : h.ticking = some frame)
      (hticked : h.ticked = none) (hnew : h.isNew = false)
      (hs' : s' = (s.tickInstance h.battleId frame nowMs).1) (hnext : h' = some x)
      (hid : x.battleId = h.battleId)
      (hx : x.ticked = some (s.tickInstance h.battleId frame nowMs).2.frameNumber)
  | stores {frame : UInt32} {x : Handler} (hticking : h.ticking = none)
      (hticked : h.ticked = some frame) (hnew : h.isNew = false)
      (hs' : s' = s.setInstanceFrame h.battleId frame) (hnext : h' = some x)
      (hid : x.battleId = h.battleId) (hx : x.ticked = none)

theorem Progress.answers {s s' : BattleBackend} {h : Handler} (hticking : h.ticking = none)
    (hticked : h.ticked = none) (hcore : s'.runtime = s.runtime ∧ s'.lib = s.lib)
    (hframes : s'.instanceFrames = s.instanceFrames) : Progress s s' h none :=
  .quiet hticking hticked hcore.1 hcore.2 hframes fun _ hnone => by cases hnone

theorem progress_next (s : BattleBackend) (h : Handler) :
    Progress s (h.next s).1 h (h.next s).2 := by
  cases h with
  | input nowMs stored userId battleId inputData phase =>
    cases phase with
    | find =>
      refine .quiet rfl rfl rfl rfl rfl fun x hx => ?_
      simp only [next] at hx
      split_ifs at hx with hnone
      cases hx
      exact ⟨rfl, rfl, fun _ hfind => hnone (Option.isNone_iff_eq_none.mpr hfind)⟩
    | submit =>
      obtain ⟨input, hinput⟩ : ∃ input : InputEnvelope, input =
        { instanceId := battleId, userId := userId, payload := inputData } := ⟨_, rfl⟩
      have hid : input.instanceId = battleId := by rw [hinput]
      simp only [next, ← hinput]
      rcases s.submitInput_cases input with
        ⟨heq, hrefused⟩ | ⟨inst, hfind, hactive, haccepted, heq⟩
      · rw [heq, hrefused]
        exact .answers rfl rfl ⟨rfl, rfl⟩ rfl
      · rw [heq, haccepted]
        rw [hid] at hfind ⊢
        refine .submits rfl rfl rfl hfind rfl rfl rfl fun x hx => ?_
        cases hx
        exact ⟨rfl, rfl⟩
    | read ackSeq =>
      refine .quiet rfl rfl rfl rfl rfl fun x hx => ?_
      cases hx
      exact ⟨rfl, rfl, nofun⟩
    | tick ackSeq frame => exact .ticks rfl rfl rfl rfl rfl rfl rfl
    | store ackSeq stats => exact .stores rfl rfl rfl rfl rfl rfl rfl
    | answer ackSeq stats =>
      obtain ⟨payload, doc, hcore, -⟩ := s.afterInput_eq nowMs stored userId battleId inputData
        ackSeq stats
      have hframes := s.instanceFrames_afterInput nowMs stored userId battleId inputData ackSeq stats
      simp only [next]
      generalize (s.afterInput nowMs stored userId battleId inputData ackSeq stats).1 = s'
        at hcore hframes ⊢
      have hruntime := (congrArg Core.runtime hcore).trans (Core.runtime_record _ _ _ _ _)
      have hlib := (congrArg Core.lib hcore).trans (Core.lib_record _ _ _ _ _)
      exact .answers rfl rfl ⟨hruntime, hlib⟩ hframes
  | state nowMs battleId phase =>
    cases phase with
    | find =>
      simp only [next]
      split_ifs with hid hnone
      · exact .answers rfl rfl ⟨rfl, rfl⟩ rfl
      · have hcore := s.core_afterState battleId false (s.getInstanceFrame battleId)
        exact .answers rfl rfl ⟨congrArg Core.runtime hcore, congrArg Core.lib hcore⟩
          (BattleBackend.instanceFrames_afterState _ _ _ _)
      · refine .quiet rfl rfl rfl rfl rfl fun x hx => ?_
        cases hx
        exact ⟨rfl, rfl, fun _ hfind => hnone (Option.isNone_iff_eq_none.mpr hfind)⟩
    | read =>
      refine .quiet rfl rfl rfl rfl rfl fun x hx => ?_
      cases hx
      exact ⟨rfl, rfl, nofun⟩
    | due frame =>
      have hcore := s.core_shouldTickInstance battleId nowMs
      refine .quiet rfl rfl (congrArg Core.runtime hcore) (congrArg Core.lib hcore)
        (BattleBackend.instanceFrames_shouldTickInstance _ _ _) fun x hx => ?_
      cases hx
      refine ⟨rfl, ?_, nofun⟩
      dsimp only
      split_ifs <;> rfl
    | tick frame => exact .ticks rfl rfl rfl rfl rfl rfl rfl
    | store stats => exact .stores rfl rfl rfl rfl rfl rfl rfl
    | answer frame ticked =>
      have hcore : ((state nowMs battleId (.answer frame ticked)).next s).1.core = s.core ∧
          ((state nowMs battleId (.answer frame ticked)).next s).1.instanceFrames =
            s.instanceFrames := by
        simp only [next]
        split_ifs <;> simp
      exact .answers rfl rfl ⟨congrArg Core.runtime hcore.1, congrArg Core.lib hcore.1⟩ hcore.2

end Handler

namespace Handling

section

variable {α : Type} {xs : List α} {i : ℕ} {x y : α} {new : Option α}

theorem mem_replaceAt (h : x ∈ replaceAt xs i new) : new = some x ∨ x ∈ xs := by
  cases new with
  | none => exact .inr (List.mem_of_mem_eraseIdx h)
  | some z =>
    rcases List.mem_or_eq_of_mem_set h with h | rfl
    · exact .inr h
    · exact .inl rfl

theorem mem_or_mem_replaceAt (hy : xs[i]? = some y) (h : x ∈ xs) :
    x = y ∨ x ∈ replaceAt xs i new := by
  obtain ⟨j, hj, rfl⟩ := List.mem_iff_getElem.mp h
  obtain ⟨hi, rfl⟩ := List.getElem?_eq_some_iff.mp hy
  by_cases hij : j = i
  · subst hij
    exact .inl rfl
  · refine .inr ?_
    cases new with
    | none => exact List.mem_eraseIdx_iff_getElem.mpr ⟨j, hj, hij, rfl⟩
    | some z =>
      refine List.mem_iff_getElem.mpr ⟨j, ?_, List.getElem_set_ne (Ne.symm hij) _⟩
      simpa [replaceAt] using hj

theorem mem_replaceAt_self (hy : xs[i]? = some y) : x ∈ replaceAt xs i (some x) :=
  List.mem_set (List.getElem?_eq_some_iff.mp hy).1 x

end

/-! ## The frames of one battle -/

/-- What is true of a battle between two sections. -/
structure InOrder (battleId : String) (h : Handling) : Prop where
  known : ∀ x ∈ h.handlers, x.battleId = battleId → x.isNew = false →
    h.backend.runtime.find battleId ≠ none
  frames : ∃ n, (frameNumbers battleId h.backend.runtime.log).map UInt32.toNat = List.range' 1 n
  battle : ∀ inst, h.backend.runtime.find battleId = some inst → IsBattle h.backend.lib inst
  current : ∀ inst, h.backend.runtime.find battleId = some inst → inst.state.isActive →
    (frameNumbers battleId h.backend.runtime.log).map UInt32.toNat =
      List.range' 1 inst.currentFrame.toNat
  ticked : ∀ inst, h.backend.runtime.find battleId = some inst → inst.state.isActive →
    ∀ x ∈ h.handlers, x.battleId = battleId → ∀ frame, x.ticked = some frame →
      frame = inst.currentFrame
  stored : ∀ inst, h.backend.runtime.find battleId = some inst → inst.state.isActive →
    (∀ x ∈ h.handlers, x.battleId = battleId → x.ticked = none) →
      h.backend.getInstanceFrame battleId = inst.currentFrame

variable {battleId : String} {h h' : Handling}

/-- A step that executes no frame of the battle. -/
theorem InOrder.keep (hin : InOrder battleId h) (hlib : h'.backend.lib = h.backend.lib)
    (hlog : frameNumbers battleId h'.backend.runtime.log =
      frameNumbers battleId h.backend.runtime.log)
    (hfind : ∀ inst', h'.backend.runtime.find battleId = some inst' →
      ∃ inst, h.backend.runtime.find battleId = some inst ∧
        (IsBattle h.backend.lib inst → IsBattle h.backend.lib inst') ∧
        (inst'.state.isActive → inst.state.isActive ∧ inst'.currentFrame = inst.currentFrame ∧
          h'.backend.getInstanceFrame battleId = h.backend.getInstanceFrame battleId))
    (hfound : h.backend.runtime.find battleId ≠ none → h'.backend.runtime.find battleId ≠ none)
    (hnew : ∀ x ∈ h'.handlers, x.battleId = battleId → x ∈ h.handlers ∨
      (∀ inst, h.backend.runtime.find battleId = some inst → inst.state.isActive →
        x.ticked = none) ∧ (x.isNew = false → h.backend.runtime.find battleId ≠ none))
    (hold : ∀ x ∈ h.handlers, x.battleId = battleId → x.ticked = none ∨ x ∈ h'.handlers) :
    InOrder battleId h' := by
  refine ⟨fun x hx hid hn => ?_, ?_, fun inst' hinst' => ?_, fun inst' hinst' hactive => ?_,
    fun inst' hinst' hactive x hx hid frame hframe => ?_, fun inst' hinst' hactive hall => ?_⟩
  · rcases hnew x hx hid with hx | ⟨-, hx⟩
    · exact hfound (hin.known x hx hid hn)
    · exact hfound (hx hn)
  · rw [hlog]
    exact hin.frames
  · obtain ⟨inst, hinst, hbattle, -⟩ := hfind inst' hinst'
    rw [hlib]
    exact hbattle (hin.battle inst hinst)
  · obtain ⟨inst, hinst, -, hkept⟩ := hfind inst' hinst'
    obtain ⟨hactive', hcurrent, -⟩ := hkept hactive
    rw [hlog, hcurrent]
    exact hin.current inst hinst hactive'
  · obtain ⟨inst, hinst, -, hkept⟩ := hfind inst' hinst'
    obtain ⟨hactive', hcurrent, -⟩ := hkept hactive
    rw [hcurrent]
    rcases hnew x hx hid with hx | ⟨hx, -⟩
    · exact hin.ticked inst hinst hactive' x hx hid frame hframe
    · rw [hx inst hinst hactive'] at hframe
      cases hframe
  · obtain ⟨inst, hinst, -, hkept⟩ := hfind inst' hinst'
    obtain ⟨hactive', hcurrent, hstored⟩ := hkept hactive
    rw [hcurrent, hstored]
    refine hin.stored inst hinst hactive' fun x hx hid => ?_
    rcases hold x hx hid with hnone | hx
    · exact hnone
    · exact hall x hx hid

/-- A section that leaves the battle alone. -/
theorem InOrder.keep_same (hin : InOrder battleId h) (hlib : h'.backend.lib = h.backend.lib)
    (hlog : frameNumbers battleId h'.backend.runtime.log =
      frameNumbers battleId h.backend.runtime.log)
    (hfind : h'.backend.runtime.find battleId = h.backend.runtime.find battleId)
    (hframe : h'.backend.getInstanceFrame battleId = h.backend.getInstanceFrame battleId)
    (hnew : ∀ x ∈ h'.handlers, x.battleId = battleId → x ∈ h.handlers ∨
      (∀ inst, h.backend.runtime.find battleId = some inst → inst.state.isActive →
        x.ticked = none) ∧ (x.isNew = false → h.backend.runtime.find battleId ≠ none))
    (hold : ∀ x ∈ h.handlers, x.battleId = battleId → x.ticked = none ∨ x ∈ h'.handlers) :
    InOrder battleId h' :=
  hin.keep hlib hlog (fun inst' hinst' => ⟨inst', hfind ▸ hinst', id, fun hactive =>
    ⟨hactive, rfl, hframe⟩⟩) (fun hne => hfind ▸ hne) hnew hold

theorem frameNumbers_put_of_ne (r : InstanceRuntime (Option PluginState)) {battleId' : String}
    (hne : battleId ≠ battleId') (inst : InternalInstance (Option PluginState))
    {events : List RuntimeEvent} (hevents : ∀ e ∈ events, e.id = battleId') :
    frameNumbers battleId (r.put battleId' inst events).log = frameNumbers battleId r.log := by
  rw [frameNumbers, InstanceRuntime.life_put_of_ne r hne inst hevents]
  rfl

/-- A section of a handler of another battle. -/
theorem InOrder.proceed_of_ne (hin : InOrder battleId h) {i : ℕ} {x : Handler}
    (hx : h.handlers[i]? = some x) (hne : battleId ≠ x.battleId) {s' : BattleBackend}
    {x' : Option Handler} (hprogress : Handler.Progress h.backend s' x x') :
    InOrder battleId { backend := s', handlers := replaceAt h.handlers i x' } := by
  have hid' : ∀ y, x' = some y → y.battleId = x.battleId := by
    intro y hy
    cases hprogress with
    | quiet _ _ _ _ _ hnext => exact (hnext y hy).1
    | submits _ _ _ _ _ _ _ hnext => exact (hnext y hy).1
    | ticks _ _ _ _ hnext hid _ =>
      obtain rfl := Option.some.inj (hnext.symm.trans hy)
      exact hid
    | stores _ _ _ _ hnext hid _ =>
      obtain rfl := Option.some.inj (hnext.symm.trans hy)
      exact hid
  obtain ⟨hlib, hlog, hfind, hframe⟩ : s'.lib = h.backend.lib ∧
      frameNumbers battleId s'.runtime.log = frameNumbers battleId h.backend.runtime.log ∧
      s'.runtime.find battleId = h.backend.runtime.find battleId ∧
      s'.getInstanceFrame battleId = h.backend.getInstanceFrame battleId := by
    cases hprogress with
    | quiet _ _ hruntime hlib hframes _ =>
      exact ⟨hlib, by rw [hruntime], by rw [hruntime],
        by rw [BattleBackend.getInstanceFrame, hframes]; rfl⟩
    | submits _ _ _ _ hruntime hlib hframes _ =>
      rw [hruntime, frameNumbers_put_of_ne _ hne _ (by simp [RuntimeEvent.id]),
        InstanceRuntime.find_put_of_ne _ hne]
      exact ⟨hlib, rfl, rfl, by rw [BattleBackend.getInstanceFrame, hframes]; rfl⟩
    | @ticks frame nowMs _ _ _ _ hs' _ _ _ =>
      rw [hs']
      rcases h.backend.tickInstance_cases x.battleId frame nowMs with
        ⟨heq, -⟩ | ⟨inst, out, -, -, hout, hcore, -⟩
      · rw [heq]
        exact ⟨rfl, rfl, rfl, rfl⟩
      · have hr := congrArg Core.runtime hcore
        have hevents : ∀ e ∈ out.2.2, e.id = x.battleId := by
          rw [← hout]
          exact fun e he => (InstanceRuntime.mem_runTick he).1
        refine ⟨congrArg Core.lib hcore, ?_, ?_, rfl⟩
        · exact (congrArg (fun r => frameNumbers battleId r.log) hr).trans
            (frameNumbers_put_of_ne _ hne _ hevents)
        · exact (congrArg (InstanceRuntime.find · battleId) hr).trans
            (InstanceRuntime.find_put_of_ne _ hne _ _)
    | stores _ _ _ hs' _ _ _ =>
      rw [hs']
      refine ⟨rfl, rfl, rfl, ?_⟩
      simp [BattleBackend.getInstanceFrame, BattleBackend.setInstanceFrame,
        Function.update_of_ne hne]
  refine hin.keep_same hlib hlog hfind hframe (fun y hy hid => ?_) fun y hy hid => ?_
  · rcases mem_replaceAt hy with hy | hy
    · exact absurd ((hid' y hy).symm.trans hid) (Ne.symm hne)
    · exact .inl hy
  · rcases mem_or_mem_replaceAt hx hy with rfl | hy
    · exact absurd hid (Ne.symm hne)
    · exact .inr hy

/-- A tick of the battle goes on from the last frame, where the handler is undisturbed. -/
theorem InOrder.ticks (hin : InOrder battleId h) {i : ℕ} {x x' : Handler}
    (hx : h.handlers[i]? = some x) (hid : x.battleId = battleId) (hid' : x'.battleId = battleId)
    {frame : UInt32} {nowMs : ℤ} (hx' : x'.ticked =
      some (h.backend.tickInstance battleId frame nowMs).2.frameNumber) (hnew : x.isNew = false)
    (hok : (h.backend.runtime.find battleId).any (·.state.isActive) →
      frame = h.backend.getInstanceFrame battleId + 1 ∧ frame ≠ 0 ∧
      ∀ other ∈ h.handlers, other.battleId = battleId → other.ticked = none)
    (hnone : x.ticked = none) {next : Option Handler} (hnext : next = some x') :
    InOrder battleId
      { backend := (h.backend.tickInstance battleId frame nowMs).1
        handlers := replaceAt h.handlers i next } := by
  have hfound := hin.known x (List.mem_of_getElem? hx) hid hnew
  rcases h.backend.tickInstance_cases battleId frame nowMs with
    ⟨heq, hinactive⟩ | ⟨inst, out, hfind, hactive, hout, hcore, hstats⟩
  · rw [heq]
    refine hin.keep_same rfl rfl rfl rfl (fun y hy hidy => ?_) fun y hy hidy => ?_
    · rcases mem_replaceAt hy with hy | hy
      · refine .inr ⟨fun inst hinst hactive => ?_, fun _ => hfound⟩
        rw [hinactive inst hinst] at hactive
        cases hactive
      · exact .inl hy
    · rcases mem_or_mem_replaceAt hx hy with rfl | hy
      · exact .inl hnone
      · exact .inr hy
  obtain ⟨hframe, hzero, hquiet⟩ := hok (by simp [hfind, hactive])
  have hstored := hin.stored inst hfind hactive hquiet
  have hbattle := hin.battle inst hfind
  obtain ⟨hsame, hrests, -⟩ :=
    runTick_cases hbattle h.backend.runtime.movedFrom battleId frame nowMs
  rw [hout] at hsame hrests
  have hcurrent : out.1.currentFrame = frame := by
    rw [← hout, InstanceRuntime.runTick]
    dsimp only
    split_ifs <;> rfl
  have hnumber : (h.backend.tickInstance battleId frame nowMs).2.frameNumber = frame := by
    rw [hstats, hsame, frameNumber_runFrame hbattle]
  have hsucc : frame.toNat = inst.currentFrame.toNat + 1 := by
    rw [hstored] at hframe
    rw [hframe] at hzero ⊢
    have hne : inst.currentFrame.toNat + 1 ≠ 2 ^ 32 := by
      intro heq
      refine hzero (UInt32.toNat_inj.mp ?_)
      rw [UInt32.toNat_add]
      simp [heq]
    have hlt := inst.currentFrame.toNat_lt
    rw [UInt32.toNat_add]
    exact Nat.mod_eq_of_lt (by simp; omega)
  have hlog : (frameNumbers battleId (h.backend.tickInstance battleId frame nowMs).1.runtime.log).map
      UInt32.toNat = List.range' 1 frame.toNat := by
    have hr : (h.backend.tickInstance battleId frame nowMs).1.runtime.log =
        h.backend.runtime.log ++ out.2.2 := congrArg (fun c : Core => c.runtime.log) hcore
    rw [hr, frameNumbers_append (hout ▸ fun e he => InstanceRuntime.mem_runTick he), ← hout,
      filterMap_onTick_runTick, List.map_append, hin.current inst hfind hactive, hsucc,
      List.range'_concat]
    simp [hsucc, Nat.add_comm]
  have hfind' : (h.backend.tickInstance battleId frame nowMs).1.runtime.find battleId =
      some out.1 :=
    (congrArg (fun c : Core => c.runtime.find battleId) hcore).trans
      (InstanceRuntime.find_put_self _ _ _ _)
  have hlib : (h.backend.tickInstance battleId frame nowMs).1.lib = h.backend.lib :=
    congrArg Core.lib hcore
  refine ⟨fun _ _ _ _ => by simp [hfind'], ⟨_, hlog⟩, ?_, ?_, ?_, ?_⟩ <;> rw [hfind'] <;>
    rintro inst' ⟨⟩
  · rw [hlib]
    exact hrests.battle
  · intro _
    rw [hcurrent]
    exact hlog
  · intro _ y hy hidy frame' hframe'
    rw [hcurrent]
    rcases mem_replaceAt hy with hy | hy
    · obtain rfl := Option.some.inj (hnext.symm.trans hy)
      rw [hx', hnumber] at hframe'
      exact (Option.some.inj hframe').symm
    · rw [hquiet y hy hidy] at hframe'
      cases hframe'
  · intro _ hall
    have hself := hall x' (hnext ▸ mem_replaceAt_self hx) hid'
    rw [hx'] at hself
    cases hself

theorem InOrder.proceed (hin : InOrder battleId h) {i : ℕ} {x : Handler}
    (hx : h.handlers[i]? = some x) (hok : Undisturbed h (.proceed i)) {s' : BattleBackend}
    {x' : Option Handler} (hprogress : Handler.Progress h.backend s' x x') :
    InOrder battleId { backend := s', handlers := replaceAt h.handlers i x' } := by
  by_cases hne : battleId = x.battleId
  swap
  · exact hin.proceed_of_ne hx hne hprogress
  have hmem := List.mem_of_getElem? hx
  -- A handler that has not ticked may go, and one that has not ticked may come.
  have hnew (hticked : ∀ y, x' = some y → y.ticked = none ∧
      (x.isNew → h.backend.runtime.find battleId ≠ none)) : ∀ y ∈ replaceAt h.handlers i x',
      y.battleId = battleId → y ∈ h.handlers ∨
        (∀ inst, h.backend.runtime.find battleId = some inst → inst.state.isActive →
          y.ticked = none) ∧ (y.isNew = false → h.backend.runtime.find battleId ≠ none) := by
    intro y hy hid
    rcases mem_replaceAt hy with hy | hy
    · refine .inr ⟨fun _ _ _ => (hticked y hy).1, fun _ => ?_⟩
      cases hisnew : x.isNew with
      | true => exact (hticked y hy).2 hisnew
      | false => exact hin.known x hmem hne.symm hisnew
    · exact .inl hy
  have hold (hticked : x.ticked = none) : ∀ y ∈ h.handlers, y.battleId = battleId →
      y.ticked = none ∨ y ∈ replaceAt h.handlers i x' := by
    intro y hy _
    rcases mem_or_mem_replaceAt hx hy with rfl | hy
    · exact .inl hticked
    · exact .inr hy
  cases hprogress with
  | quiet hticking hticked hruntime hlib hframes hnext =>
    refine hin.keep_same hlib (by rw [hruntime]) (by rw [hruntime])
      (by rw [BattleBackend.getInstanceFrame, hframes]; rfl) (hnew fun y hy => ?_) (hold hticked)
    rw [hne]
    exact (hnext y hy).2
  | @submits inst input hticking hticked hisnew hfind hruntime hlib hframes hnext =>
    have hwithin : ∀ e ∈ [RuntimeEvent.inputAccepted battleId input],
        e.id = battleId ∧ e.isWithin := by simp [RuntimeEvent.id, RuntimeEvent.isWithin]
    rw [← hne] at hfind hruntime
    refine hin.keep hlib ?_ ?_ ?_ (hnew fun y hy => ⟨(hnext y hy).2, fun hn => ?_⟩) (hold hticked)
    · rw [hruntime]
      exact (frameNumbers_append hwithin).trans (List.append_nil _)
    · rw [hruntime, InstanceRuntime.find_put_self]
      rintro inst' ⟨⟩
      refine ⟨inst, hfind, fun hbattle => ⟨hbattle.plugin, hbattle.ready⟩, fun hactive =>
        ⟨hactive, rfl, by rw [BattleBackend.getInstanceFrame, hframes]; rfl⟩⟩
    · rw [hruntime, InstanceRuntime.find_put_self]
      rintro - ⟨⟩
    · rw [hisnew] at hn
      cases hn
  | @ticks frame nowMs y hticking hticked hisnew hs' hnext hid hy =>
    rw [hs', ← hne]
    rw [← hne] at hid hy
    refine hin.ticks hx hne.symm hid hy hisnew (fun hactive => ?_) hticked hnext
    have hundisturbed := hok x hx frame hticking
    rw [← hne] at hundisturbed
    exact hundisturbed hactive
  | @stores frame y hticking hticked hisnew hs' hnext hid hy =>
    rw [hs', ← hne]
    refine ⟨fun z hz hidz hn => ?_, hin.frames, hin.battle, hin.current,
      fun inst hinst hactive z hz hidz frame' hframe' => ?_, fun inst hinst hactive _ => ?_⟩
    · exact hin.known x hmem hne.symm hisnew
    · rcases mem_replaceAt hz with hz | hz
      · obtain rfl := Option.some.inj (hnext.symm.trans hz)
        rw [hy] at hframe'
        cases hframe'
      · exact hin.ticked inst hinst hactive z hz hidz frame' hframe'
    · have hcurrent := hin.ticked inst hinst hactive x hmem hne.symm frame hticked
      rw [← hcurrent]
      simp [BattleBackend.getInstanceFrame, BattleBackend.setInstanceFrame]

theorem ticked_eq_none_of_isNew {x : Handler} (hnew : x.isNew) : x.ticked = none := by
  cases x with
  | input _ _ _ _ _ phase => cases phase <;> first | rfl | cases hnew
  | state _ _ phase => cases phase <;> first | rfl | cases hnew

/-- A new battle has no frames yet. -/
theorem InOrder.create (hin : InOrder battleId h)
    (hnone : h.backend.runtime.find battleId = none)
    {inst : InternalInstance (Option PluginState)} (hnew : IsNew h.backend.lib inst)
    {s' : BattleBackend} (hlib : s'.lib = h.backend.lib)
    (hruntime : s'.runtime = h.backend.runtime.put battleId inst [.instanceCreated battleId])
    (hframe : s'.getInstanceFrame battleId = 0) : InOrder battleId { h with backend := s' } := by
  have hfind : s'.runtime.find battleId = some inst := by
    rw [hruntime, InstanceRuntime.find_put_self]
  have hlog : frameNumbers battleId s'.runtime.log = [] := by
    rw [hruntime, frameNumbers]
    exact congrArg (List.filterMap _) (life_created battleId h.backend.runtime.log)
  have hquiet : ∀ x ∈ h.handlers, x.battleId = battleId → x.ticked = none := by
    intro x hx hid
    refine ticked_eq_none_of_isNew (Bool.eq_true_of_not_eq_false fun hn => ?_)
    exact hin.known x hx hid hn hnone
  refine ⟨fun _ _ _ _ => by simp [hfind], ⟨0, by rw [hlog]; rfl⟩, ?_, ?_, ?_, ?_⟩ <;>
    rw [hfind] <;> rintro inst' ⟨⟩
  · rw [hlib]
    exact hnew.battle
  · intro _
    rw [hlog, hnew.currentFrame]
    rfl
  · intro _ x hx hid frame hticked
    rw [hquiet x hx hid] at hticked
    cases hticked
  · intro _ _
    rw [hframe, hnew.currentFrame]

theorem InOrder.battleFinish (hin : InOrder battleId h) (battleId' : String) (hasReason : Bool) :
    InOrder battleId { h with backend := (h.backend.battleFinish battleId' hasReason).1 } := by
  have hframes : (h.backend.battleFinish battleId' hasReason).1.instanceFrames =
      Function.update h.backend.instanceFrames battleId' none := rfl
  have hother (hne : battleId ≠ battleId') :
      (h.backend.battleFinish battleId' hasReason).1.getInstanceFrame battleId =
        h.backend.getInstanceFrame battleId := by
    rw [BattleBackend.getInstanceFrame, hframes, Function.update_of_ne hne]
    rfl
  rcases h.backend.battleFinish_cases battleId' hasReason with
    ⟨hcore, hdone, -⟩ | ⟨inst, out, hfind, hstate, hout, hcore, -⟩
  · have hr : (h.backend.battleFinish battleId' hasReason).1.runtime = h.backend.runtime :=
      congrArg Core.runtime hcore
    refine hin.keep (congrArg Core.lib hcore) (by rw [hr]) (fun inst hinst => ?_)
      (by rw [hr]; exact id) (fun x hx _ => .inl hx) fun x hx _ => .inr hx
    rw [hr] at hinst
    refine ⟨inst, hinst, id, fun hactive => ⟨hactive, rfl, hother fun hid => ?_⟩⟩
    subst hid
    rcases hdone inst hinst with hstate | hstate <;> rw [hstate] at hactive <;> cases hactive
  · have hr : (h.backend.battleFinish battleId' hasReason).1.runtime =
        h.backend.runtime.put battleId' out.1 out.2 := congrArg Core.runtime hcore
    have hevents : ∀ e ∈ out.2, e.id = battleId' ∧ e.isWithin := by
      rw [hout]
      simp [InstanceRuntime.finished, RuntimeEvent.id, RuntimeEvent.isWithin]
    by_cases hne : battleId = battleId'
    · subst hne
      refine hin.keep (congrArg Core.lib hcore) ?_ ?_ ?_ (fun x hx _ => .inl hx)
        fun x hx _ => .inr hx
      · rw [hr]
        refine (frameNumbers_append hevents).trans ?_
        rw [hout]
        exact List.append_nil _
      · rw [hr, InstanceRuntime.find_put_self]
        rintro inst' ⟨⟩
        refine ⟨inst, hfind, fun hbattle => hout ▸ hbattle.finished _ _, fun hactive => ?_⟩
        rw [hout] at hactive
        cases hactive
      · rw [hr, InstanceRuntime.find_put_self]
        rintro - ⟨⟩
    · refine hin.keep_same (congrArg Core.lib hcore) ?_ ?_ (hother hne) (fun x hx _ => .inl hx)
        fun x hx _ => .inr hx
      · rw [hr, frameNumbers_put_of_ne _ hne _ fun e he => (hevents e he).1]
      · rw [hr, InstanceRuntime.find_put_of_ne _ hne]

theorem InOrder.battleCreate (hin : InOrder battleId h) (hconf : h.backend.core.Configured)
    (nowMs : ℤ) {battleId' : String} (hid : battleId' ≠ "") (roomId : String)
    (playerIds : List String) (maxFrames : UInt32) : InOrder battleId
      { h with
        backend := (h.backend.battleCreate nowMs battleId' roomId playerIds maxFrames).1 } := by
  rcases BattleBackend.battleCreate_cases hconf nowMs battleId' roomId playerIds maxFrames with
    ⟨heq, -, -⟩ | ⟨inst, hnone, -, hnew, hcore, hset, -⟩
  · rw [heq]
    exact hin
  have hframes := (hset hid).1
  have hr : (h.backend.battleCreate nowMs battleId' roomId playerIds maxFrames).1.runtime =
      h.backend.runtime.put battleId' inst [.instanceCreated battleId'] :=
    congrArg Core.runtime hcore
  by_cases hne : battleId = battleId'
  · subst hne
    refine hin.create hnone hnew (congrArg Core.lib hcore) hr ?_
    rw [BattleBackend.getInstanceFrame, hframes, Function.update_self]
    rfl
  · refine hin.keep_same (congrArg Core.lib hcore) ?_ ?_ ?_ (fun x hx _ => .inl hx)
      fun x hx _ => .inr hx
    · rw [hr, frameNumbers_put_of_ne _ hne _ (by simp [RuntimeEvent.id])]
    · rw [hr, InstanceRuntime.find_put_of_ne _ hne]
    · rw [BattleBackend.getInstanceFrame, hframes, Function.update_of_ne hne]
      rfl

/-- A handler that has just started. -/
theorem InOrder.start (hin : InOrder battleId h) {x : Handler} (hnew : x.isNew) :
    InOrder battleId { h with handlers := h.handlers ++ [x] } := by
  refine hin.keep_same rfl rfl rfl rfl (fun y hy _ => ?_) fun y hy _ => .inr
    (List.mem_append_left _ hy)
  rcases List.mem_append.mp hy with hy | hy
  · exact .inl hy
  · rw [List.mem_singleton.mp hy]
    exact .inr ⟨fun _ _ _ => ticked_eq_none_of_isNew hnew, by simp [hnew]⟩

theorem InOrder.receive (hin : InOrder battleId h) (hconf : h.backend.core.Configured)
    (req : BattleRequest) : InOrder battleId (h.receive req) := by
  unfold Handling.receive
  rcases hread : req.read with e | reason | c
  · exact hin
  · exact hin
  cases c with
  | battleCreate nowMs battleId' roomId playerIds maxFrames =>
    exact hin.battleCreate hconf nowMs (read_battleCreate hread) roomId playerIds maxFrames
  | battleInput nowMs stored userId battleId' inputData => exact hin.start rfl
  | battleState nowMs battleId' => exact hin.start rfl
  | battleFinish battleId' hasReason => exact hin.battleFinish battleId' hasReason
  | replayLoad battleId' => exact hin

/-! ## Whole runs -/

theorem configured_iff {s s' : BattleBackend} (hlib : s'.lib = s.lib)
    (hplugins : s'.runtime.pluginFactories = s.runtime.pluginFactories)
    (hconf : s.core.Configured) : s'.core.Configured := by
  have hsame : s'.core.Configured ↔ s'.runtime.pluginFactories = fun type =>
    if type = "battle" then some (battleInstancePlugin s'.lib, none) else none := Iff.rfl
  rw [hsame, hplugins, hlib]
  exact hconf

theorem configured_progress {s s' : BattleBackend} {x : Handler} {x' : Option Handler}
    (hprogress : Handler.Progress s s' x x') (hconf : s.core.Configured) : s'.core.Configured := by
  cases hprogress with
  | quiet _ _ hruntime hlib _ _ => exact configured_iff hlib (by rw [hruntime]) hconf
  | submits _ _ _ _ hruntime hlib _ _ => exact configured_iff hlib (by rw [hruntime]; rfl) hconf
  | @ticks frame nowMs _ _ _ _ hs' _ _ _ =>
    rw [hs']
    rcases s.tickInstance_cases x.battleId frame nowMs with ⟨heq, -⟩ | ⟨_, _, -, -, -, hcore, -⟩
    · rwa [heq]
    · rw [hcore]
      exact hconf
  | stores _ _ _ hs' _ _ _ =>
    rw [hs']
    exact hconf

theorem inOrder {h : Handling} (hr : Reaches Undisturbed h) :
    h.backend.core.Configured ∧ ∀ battleId, InOrder battleId h := by
  refine hr.invariant (P := fun h => h.backend.core.Configured ∧ ∀ battleId, InOrder battleId h)
    ?_ ?_
  · rintro h ⟨lib, maxInstances, movedFrom, instanceType, hasReplayStorage, rfl⟩
    refine ⟨rfl, fun battleId => ⟨?_, ⟨0, rfl⟩, ?_, ?_, ?_, ?_⟩⟩ <;>
      simp [BattleBackend.initial, InstanceRuntime.find]
  · rintro h a h' ⟨hconf, hin⟩ hok hstep
    cases a with
    | receive req =>
      cases hstep
      refine ⟨?_, fun battleId => (hin battleId).receive hconf req⟩
      unfold receive
      split
      · exact hconf
      · exact hconf
      · exact BattleBackend.configured_call hconf _
      · exact hconf
    | proceed i =>
      obtain ⟨x, hx, rfl⟩ := Option.map_eq_some_iff.mp hstep
      have hprogress := Handler.progress_next h.backend x
      exact ⟨configured_progress hprogress hconf, fun battleId =>
        (hin battleId).proceed hx hok hprogress⟩

/-- Where no other handler ticks a battle between the read of a handler and its tick, the
frames executed are 1, 2, 3 and so on. -/
theorem frames_in_order {h : Handling} (hr : Reaches Undisturbed h) (battleId : String) :
    ∃ n, (frameNumbers battleId h.backend.runtime.log).map UInt32.toNat = List.range' 1 n :=
  ((inOrder hr).2 battleId).frames

/-- A service started without options that has a battle, and two inputs for it. -/
def racing : List HandlingAction :=
  [.receive (Serving.createRequest "b" 0), .receive (Serving.inputRequest "b" "move:1,1" 1),
   .receive (Serving.inputRequest "b" "move:2,2" 1)]

def start : Handling where
  backend := Serving.fresh.backend

/-- One input is handled after the other. -/
theorem frames_in_order_two : ∃ h : Handling, frameNumbers "b" h.backend.runtime.log = [1, 2] ∧
    ∃ n, (frameNumbers "b" h.backend.runtime.log).map UInt32.toNat = List.range' 1 n := by
  have hstart : Reaches Undisturbed start := .init ⟨_, _, _, _, _, rfl⟩
  obtain ⟨h, hr, hframes⟩ := hstart.exists_runWith
    (P := fun h => frameNumbers "b" h.backend.runtime.log = [1, 2])
    (racing ++ List.replicate 5 (HandlingAction.proceed 0) ++
      List.replicate 4 (HandlingAction.proceed 1)) (by decide +kernel)
  exact ⟨h, hframes, frames_in_order hr "b"⟩

/-- Both inputs read the frame number before either ticks. -/
theorem not_frames_in_order_race : ∃ h, Reaches (fun _ _ => True) h ∧
    (h.backend.runtime.find "b").any (·.state.isActive) ∧
    frameNumbers "b" h.backend.runtime.log = [1, 1] := by
  refine Reaches.exists_runWith (s := start) (.init ⟨_, _, _, _, _, rfl⟩)
    (racing ++ ([.proceed 0, .proceed 0, .proceed 0, .proceed 1, .proceed 1, .proceed 1,
      .proceed 0, .proceed 1] : List HandlingAction)) ?_
  decide +kernel

end Handling

end BoostGateway.Battle
