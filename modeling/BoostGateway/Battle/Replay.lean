import BoostGateway.Battle.View

/-!
# The replay of a battle

`handle_replay_load` answers with the frames that `handle_battle_input` recorded, or, where a
replay storage is configured and the battle was ended by an input, with the one entry that was
stored then. A recorded frame has the snapshot of the frame but not its inputs, and the frames
that queries drive are not recorded. `executed` reads off the events of a battle which frames
were executed and with which inputs, and `replayComplete_iff` compares the two : they agree
only where no frame was executed.
-/

namespace BoostGateway.Battle

open Realtime
open InstanceRuntime (drain runFrame runTick finished)

/-- The frames executed, each with the inputs that the plugin accepted in it, and the inputs
accepted since. -/
structure Executed where
  frames : List (UInt32 × List InputEnvelope) := []
  pending : List InputEnvelope := []

def Executed.observe (x : Executed) : RuntimeEvent → Executed
  | .onInput _ input true => { x with pending := x.pending ++ [input] }
  | .onTick _ frame => { frames := x.frames ++ [(frame, x.pending)] }
  | _ => x

def executed (events : List RuntimeEvent) : Executed := events.foldl Executed.observe {}

/-- The frames of a replay : the stored one is a frame by itself. -/
def replayFramesOf (replay : Json) : List Json :=
  match replay.find? "frames" with
  | some frames => elements frames
  | none => [replay]

/-- The number of a returned frame, and its inputs where they are the member `key`. -/
def returnedFrame (key : String) (frame : Json) : UInt64 × List Json :=
  (match frame.find? "frame_number" with
    | some (.unsigned n) => n
    | _ => 0,
   match frame.find? key with
    | some inputs => elements inputs
    | none => [])

def returnedFrames (key : String) : Reply → List (UInt64 × List Json)
  | .ok body => match body.find? "replay" with
    | some replay => (replayFramesOf replay).map (returnedFrame key)
    | none => []
  | .error _ _ => []

/-- `handle_replay_load` returns the executed frames, each once, in increasing order and with
its inputs. -/
def ReplayComplete (key : String) (encode : InputEnvelope → Json) (s : BattleBackend)
    (battleId : String) : Prop :=
  (returnedFrames key (s.replayLoad battleId)).Perm
      ((executed (life battleId s.runtime.log)).frames.map fun f =>
        (f.1.toUInt64, f.2.map encode)) ∧
    (returnedFrames key (s.replayLoad battleId)).Pairwise (·.1 < ·.1)

/-! ## Frames -/

theorem executed_append (events events' : List RuntimeEvent) :
    executed (events ++ events') = events'.foldl Executed.observe (executed events) :=
  List.foldl_append

/-- A whole tick is one frame with the inputs accepted in it. -/
theorem observe_runTick {σ : Type} (movedFrom : String → String) (id : String)
    (inst : InternalInstance σ) (frameNumber : UInt32) (tickStartMs : ℤ) (x : Executed) :
    (runTick movedFrom id inst frameNumber tickStartMs).2.2.foldl Executed.observe x =
      ((List.zipWith (RuntimeEvent.onInput id) inst.inputQueue
        (drain movedFrom inst.plugin frameNumber inst.ctx inst.playerInputState
          inst.inputQueue).2.2.2).foldl Executed.observe x).observe (.onTick id frameNumber) := by
  unfold runTick runFrame
  dsimp only
  split_ifs <;> simp [List.foldl_append, finished, Executed.observe]

theorem observe_runTick_of_nil {σ : Type} {inst : InternalInstance σ} (h : inst.inputQueue = [])
    (movedFrom : String → String) (id : String) (frameNumber : UInt32) (tickStartMs : ℤ)
    (x : Executed) : (runTick movedFrom id inst frameNumber tickStartMs).2.2.foldl
      Executed.observe x = { frames := x.frames ++ [(frameNumber, x.pending)] } := by
  rw [observe_runTick, h]
  rfl

theorem observe_runTick_queued {lib : Libraries} {inst : InternalInstance (Option PluginState)}
    (hbattle : IsBattle lib inst) (hqueue : inst.inputQueue = []) (hruns : worldRuns inst.ctx)
    (input : InputEnvelope) (movedFrom : String → String) (id : String) (frameNumber : UInt32)
    (tickStartMs : ℤ) (x : Executed) :
    (runTick movedFrom id (queued inst input) frameNumber tickStartMs).2.2.foldl
      Executed.observe x = { frames := x.frames ++ [(frameNumber, x.pending ++ [input])] } := by
  obtain ⟨result, hresult, haccepted⟩ := accepted_onInput lib hruns input
  have hdrain : (drain movedFrom (queued inst input).plugin frameNumber (queued inst input).ctx
      (queued inst input).playerInputState [input]).2.2.2 = [true] := by
    have hplugin : (queued inst input).plugin = battleInstancePlugin lib := hbattle.plugin
    have hctx : (queued inst input).ctx = inst.ctx := rfl
    rw [hplugin, hctx, drain]
    rcases hon : (battleInstancePlugin lib).onInput inst.ctx input with ⟨ctx, r⟩
    rw [hon] at hresult
    obtain rfl : r = some result := hresult
    simp [haccepted, drain]
  have hone : (queued inst input).inputQueue = [input] := by
    rw [queued, hqueue]
    rfl
  rw [observe_runTick, hone, hdrain]
  rfl

/-! ## Entries -/

theorem find?_replayEntry {key : String} (hkey : key ≠ "snapshot") (battleId : String)
    (frame : UInt32) (nowMs : ℤ) (doc : Option Json) :
    (BattleBackend.replayEntry battleId frame nowMs doc).find? key =
      (Json.ofMembers [("battle_id", .string battleId),
        ("frame_number", .unsigned frame.toUInt64), ("timestamp", intJson nowMs)]).find? key := by
  refine Json.find?_ofMembers_append fun m hm => ?_
  cases doc with
  | none => simp at hm
  | some doc =>
    obtain rfl : m = ("snapshot", doc) := by simpa using hm
    exact Ne.symm hkey

/-- An entry has no inputs, whatever their name would be. -/
theorem returnedFrame_replayEntry {key : String} (hkey : key ≠ "snapshot") (battleId : String)
    (frame : UInt32) (nowMs : ℤ) (doc : Option Json) :
    (returnedFrame key (BattleBackend.replayEntry battleId frame nowMs doc)).2 = [] ∧
    (returnedFrame key (BattleBackend.replayEntry battleId frame nowMs doc).asRead).2 = [] := by
  have hscalar : ∀ v, (BattleBackend.replayEntry battleId frame nowMs doc).find? key = some v →
      elements v = [] ∧ elements v.asRead = [] := by
    intro v hv
    rw [find?_replayEntry hkey, Json.find?_ofMembers] at hv
    obtain ⟨m, hm, rfl⟩ := Option.map_eq_some_iff.mp hv
    have hmem := List.mem_of_find?_eq_some hm
    simp only [List.mem_reverse, List.mem_cons, List.not_mem_nil, or_false] at hmem
    rcases hmem with rfl | rfl | rfl
    · exact ⟨rfl, by simp [Json.asRead, elements]⟩
    · exact ⟨rfl, by simp [Json.asRead, elements]⟩
    · refine ⟨rfl, ?_⟩
      simp only [intJson, Json.asRead]
      split_ifs <;> rfl
  cases hfind : (BattleBackend.replayEntry battleId frame nowMs doc).find? key with
  | none => simp [returnedFrame, Json.find?_asRead, hfind]
  | some v =>
    obtain ⟨hplain, hread⟩ := hscalar v hfind
    simp [returnedFrame, Json.find?_asRead, hfind, hplain, hread]

theorem replayFramesOf_replayEntry (battleId : String) (frame : UInt32) (nowMs : ℤ)
    (doc : Option Json) :
    replayFramesOf (BattleBackend.replayEntry battleId frame nowMs doc).asRead =
      [(BattleBackend.replayEntry battleId frame nowMs doc).asRead] := by
  have hnone : (BattleBackend.replayEntry battleId frame nowMs doc).asRead.find? "frames" =
      none := by
    rw [Json.find?_asRead, find?_replayEntry (by decide), Json.find?_ofMembers]
    simp
  rw [replayFramesOf, hnone]

/-- An entry of the replay of the battle. -/
def IsEntry (battleId : String) (entry : Json) : Prop :=
  ∃ frame nowMs doc, entry = BattleBackend.replayEntry battleId frame nowMs doc

/-- A reply with a replay. -/
theorem returnedFrames_makeOk (key battleId : String) (replay : Json) :
    returnedFrames key (makeOk [("battle_id", .string battleId), ("replay", replay)]) =
      (replayFramesOf replay).map (returnedFrame key) := by
  simp [returnedFrames, makeOk, Json.find?_ofMembers]

/-- What the view of a battle is when its frames are recorded. -/
structure Recorded (lib : Libraries) (battleId : String) (v : View) : Prop where
  absent : v.inst = none → v.seen = []
  rests : ∀ inst, v.inst = some inst → Rests lib inst
  pending : (executed v.seen).pending = []
  replay : ∀ entries, v.replay = some entries → (∀ e ∈ entries, IsEntry battleId e.frame) ∧
    ∃ f ∈ (executed v.seen).frames, f.2 ≠ []
  stored : ∀ doc, v.stored = some doc → (∃ entry, IsEntry battleId entry ∧ doc = entry.asRead) ∧
    ∃ f ∈ (executed v.seen).frames, f.2 ≠ []

section

variable {s : BattleBackend} {battleId : String}

/-- Frames are only returned where one was executed with inputs, and they have none. -/
theorem Recorded.returnedFrames (h : Recorded s.lib battleId (s.core.view battleId)) {key : String}
    (hkey : key ≠ "snapshot") :
    (∀ f ∈ returnedFrames key (s.replayLoad battleId), f.2 = []) ∧
    (returnedFrames key (s.replayLoad battleId) ≠ [] →
      ∃ f ∈ (executed (life battleId s.runtime.log)).frames, f.2 ≠ []) := by
  rcases s.replayLoad_cases battleId with ⟨code, reason, heq⟩ | ⟨replay, hreplay, heq⟩
  · rw [heq]
    exact ⟨by simp [Battle.returnedFrames], fun hne => absurd rfl hne⟩
  rw [heq, returnedFrames_makeOk]
  rcases hreplay with hstored | hcached
  · obtain ⟨⟨entry, ⟨frame, nowMs, snapshot, rfl⟩, rfl⟩, hinputs⟩ := h.stored replay hstored
    rw [replayFramesOf_replayEntry]
    refine ⟨?_, fun _ => hinputs⟩
    simpa using (returnedFrame_replayEntry hkey battleId frame nowMs snapshot).2
  · obtain ⟨entries, hentries, rfl⟩ := Option.map_eq_some_iff.mp hcached
    obtain ⟨hshape, hinputs⟩ := h.replay entries hentries
    refine ⟨fun f hf => ?_, fun _ => hinputs⟩
    simp only [replayFramesOf, Json.find?_ofMembers, List.reverse_cons, List.reverse_nil,
      List.nil_append, List.cons_append, decide_true, List.find?_cons_of_pos, Option.map_some,
      elements, List.map_map, List.mem_map, Function.comp_apply] at hf
    obtain ⟨e, he, rfl⟩ := hf
    obtain ⟨frame, nowMs, snapshot, hentry⟩ := hshape e he
    rw [hentry]
    exact (returnedFrame_replayEntry hkey battleId frame nowMs snapshot).1

end

/-! ## Whole runs -/

/-- What was recorded stays so while frames are added. -/
theorem Recorded.of_frames {lib : Libraries} {battleId : String} {v v' : View}
    (h : Recorded lib battleId v) {inst' : InternalInstance (Option PluginState)}
    (hinst' : v'.inst = some inst') (hrests : Rests lib inst')
    (frames : List (UInt32 × List InputEnvelope))
    (hseen : executed v'.seen = { frames := (executed v.seen).frames ++ frames })
    (hreplay : ∀ entries, v'.replay = some entries → v.replay = some entries ∨
      (∀ e ∈ entries, IsEntry battleId e.frame) ∧ ∃ f ∈ frames, f.2 ≠ [])
    (hstored : ∀ doc, v'.stored = some doc → v.stored = some doc ∨
      (∃ entry, IsEntry battleId entry ∧ doc = entry.asRead) ∧ ∃ f ∈ frames, f.2 ≠ []) :
    Recorded lib battleId v' := by
  have hleft : (∃ f ∈ (executed v.seen).frames, f.2 ≠ []) →
      ∃ f ∈ (executed v'.seen).frames, f.2 ≠ [] := by
    rw [hseen]
    rintro ⟨f, hf, hne⟩
    exact ⟨f, List.mem_append_left _ hf, hne⟩
  have hright : (∃ f ∈ frames, f.2 ≠ []) → ∃ f ∈ (executed v'.seen).frames, f.2 ≠ [] := by
    rw [hseen]
    rintro ⟨f, hf, hne⟩
    exact ⟨f, List.mem_append_right _ hf, hne⟩
  refine ⟨by simp [hinst'], ?_, by rw [hseen], fun entries he => ?_, fun doc hd => ?_⟩
  · rw [hinst']
    rintro inst ⟨⟩
    exact hrests
  · rcases hreplay entries he with hbefore | ⟨hshape, hinputs⟩
    · exact ⟨(h.replay entries hbefore).1, hleft (h.replay entries hbefore).2⟩
    · exact ⟨hshape, hright hinputs⟩
  · rcases hstored doc hd with hbefore | ⟨hshape, hinputs⟩
    · exact ⟨(h.stored doc hbefore).1, hleft (h.stored doc hbefore).2⟩
    · exact ⟨hshape, hright hinputs⟩

theorem Recorded.effect {s : BattleBackend} {battleId : String} {v v' : View} {pushes : List Json}
    {c : BattleCall} (h : Recorded s.lib battleId v) (he : Effect s battleId v v' pushes c) :
    Recorded s.lib battleId v' := by
  cases he with
  | other heq htold => rwa [heq]
  | create hinst hnew heq htold =>
    have hseen := h.absent hinst
    rw [heq]
    refine ⟨nofun, ?_, rfl, ?_, ?_⟩
    · rintro inst ⟨⟩
      exact hnew.rests
    · exact hseen ▸ h.replay
    · exact hseen ▸ h.stored
  | @input nowMs stored _ _ inst input frame _ _ doc out hinst hactive hout heq htold =>
    have hrest := h.rests inst hinst
    have hqueued : IsBattle s.lib (queued inst input) := ⟨hrest.battle.plugin, hrest.battle.ready⟩
    obtain ⟨-, hrests', -⟩ := runTick_cases hqueued s.runtime.movedFrom battleId frame nowMs
    rw [hout] at hrests'
    have hframe : out.2.2.foldl Executed.observe (executed v.seen) =
        { frames := (executed v.seen).frames ++ [(frame, [input])] } := by
      rw [← hout, observe_runTick_queued hrest.battle hrest.queue (hrest.runs hactive), h.pending,
        List.nil_append]
    have hentry : IsEntry battleId
        (BattleBackend.replayEntry battleId out.2.1.frameNumber nowMs doc) := ⟨_, _, _, rfl⟩
    refine h.of_frames (by rw [heq]; rfl) hrests' [(frame, [input])] ?_ ?_ ?_
    · rw [heq]
      exact (executed_append _ _).trans hframe
    · intro entries hentries
      have hsplit : entries = v.replay.getD [] ++ [⟨out.2.1.frameNumber,
          BattleBackend.replayEntry battleId out.2.1.frameNumber nowMs doc⟩] := by
        rw [heq] at hentries
        exact (Option.some.inj hentries).symm
      refine .inr ⟨fun e he => ?_, by simp⟩
      rw [hsplit] at he
      rcases List.mem_append.mp he with he | he
      · cases hbefore : v.replay with
        | none => simp [hbefore] at he
        | some entries' =>
          rw [hbefore] at he
          exact (h.replay entries' hbefore).1 e he
      · rw [List.mem_singleton.mp he]
        exact hentry
    · intro doc' hdoc
      rw [heq] at hdoc
      simp only [View.record] at hdoc
      split_ifs at hdoc
      · exact .inr ⟨⟨_, hentry, (Option.some.inj hdoc).symm⟩, by simp⟩
      · exact .inl hdoc
  | @state nowMs inst out hinst hactive hdue hout heq htold =>
    have hrest := h.rests inst hinst
    obtain ⟨-, hrests', -⟩ := runTick_cases hrest.battle s.runtime.movedFrom battleId
      (s.getInstanceFrame battleId + 1) nowMs
    rw [hout] at hrests'
    refine h.of_frames (by rw [heq]; rfl) hrests' [(s.getInstanceFrame battleId + 1, [])] ?_ ?_ ?_
    · rw [heq]
      refine (executed_append _ _).trans ?_
      rw [← hout, observe_runTick_of_nil hrest.queue, h.pending]
    · rw [heq]
      exact fun entries he => .inl he
    · rw [heq]
      exact fun doc hd => .inl hd
  | @finish _ inst _ _ out hinst hstate hout heq htold =>
    refine h.of_frames (by rw [heq]; rfl) (hout ▸ (h.rests inst hinst).finished _ _) [] ?_ ?_ ?_
    · rw [heq, List.append_nil]
      refine (executed_append _ _).trans ?_
      rw [← hout]
      have hpending := h.pending
      generalize executed v.seen = x at hpending ⊢
      obtain ⟨frames, pending⟩ := x
      obtain rfl : pending = [] := hpending
      rfl
    · rw [heq]
      exact fun entries he => .inl he
    · rw [heq]
      exact fun doc hd => .inl hd
  | again hdone heq htold =>
    rw [heq]
    exact ⟨h.absent, h.rests, h.pending, h.replay, h.stored⟩

namespace Serving

variable {s : Serving}

theorem recorded (hr : Reaches (fun _ _ => True) s) (battleId : String) :
    Recorded s.backend.lib battleId (s.backend.core.view battleId) := by
  refine (hr.invariant_call
    (P := fun s => Recorded s.backend.lib battleId (s.backend.core.view battleId)) ?_ ?_ ?_).2
  · intro lib maxInstances movedFrom instanceType hasReplayStorage
    refine ⟨fun _ => rfl, ?_, rfl, ?_, ?_⟩ <;>
      simp [BattleBackend.initial, BattleBackend.core, Core.view, InstanceRuntime.find]
  · exact fun _ _ h _ => h
  · intro s req c hconf h _ _
    have hlib : (s.backend.call c).1.lib = s.backend.lib :=
      (BattleBackend.runtime_call_cases hconf c).1
    have heffect := h.effect (BattleBackend.effect_call hconf battleId c)
    rwa [← hlib] at heffect

theorem not_replayComplete_of_frames (hr : Reaches (fun _ _ => True) s) {battleId key : String}
    (hkey : key ≠ "snapshot") (encode : InputEnvelope → Json)
    (hframes : (executed (life battleId s.backend.runtime.log)).frames ≠ []) :
    ¬ReplayComplete key encode s.backend battleId := by
  obtain ⟨hempty, hsome⟩ := (recorded hr battleId).returnedFrames hkey
  rintro ⟨hperm, -⟩
  have hinputs : ∃ f ∈ (executed (life battleId s.backend.runtime.log)).frames, f.2 ≠ [] := by
    refine hsome fun hnil => hframes ?_
    rw [hnil] at hperm
    exact List.map_eq_nil_iff.mp hperm.nil_eq.symm
  obtain ⟨f, hf, hne⟩ := hinputs
  have hmem : (f.1.toUInt64, f.2.map encode) ∈
      returnedFrames key (s.backend.replayLoad battleId) :=
    hperm.mem_iff.mpr (List.mem_map.mpr ⟨f, hf, rfl⟩)
  exact hne (List.map_eq_nil_iff.mp (hempty _ hmem))

/-- The replay of a battle is complete exactly when no frame of it was executed, under
whatever name and in whatever form a frame would have its inputs. -/
theorem replayComplete_iff (hr : Reaches (fun _ _ => True) s) (battleId : String) {key : String}
    (hkey : key ≠ "snapshot") (encode : InputEnvelope → Json) :
    ReplayComplete key encode s.backend battleId ↔
      (executed (life battleId s.backend.runtime.log)).frames = [] := by
  refine ⟨fun hcomplete => ?_, fun hframes => ?_⟩
  · by_contra hframes
    exact not_replayComplete_of_frames hr hkey encode hframes hcomplete
  · have hnil : returnedFrames key (s.backend.replayLoad battleId) = [] := by
      by_contra hne
      obtain ⟨f, hf, -⟩ := ((recorded hr battleId).returnedFrames hkey).2 hne
      rw [hframes] at hf
      cases hf
    rw [ReplayComplete, hframes, hnil]
    exact ⟨.nil, .nil⟩

/-- A battle that is finished before its first frame. -/
theorem replayComplete_unplayed : ∃ s inst, Reaches (fun _ _ => True) s ∧
    s.backend.runtime.find "b" = some inst ∧ inst.state = .kFinished ∧
    ReplayComplete "inputs" (fun input => .string input.payload) s.backend "b" := by
  obtain ⟨s₁, s₂, inst, hs₁, hs₂, hcore⟩ := create_finish (s := fresh) rfl rfl
    (show "b" ≠ "" by decide) rfl (by decide) 0
  have hr : Reaches (fun _ _ => True) s₂ :=
    .step (.step (.init ⟨_, _, _, _, _, rfl⟩) trivial hs₁) trivial hs₂
  have hfind : s₂.backend.core.runtime.find "b" =
      some (finished "b" inst .kUserRequested).1 := by
    rw [hcore]
    exact InstanceRuntime.find_put_self _ _ _ _
  have hlog : s₂.backend.core.runtime.log =
      .instanceCreated "b" :: (finished "b" inst .kUserRequested).2 := by
    rw [hcore]
    rfl
  refine ⟨s₂, _, hr, hfind, rfl, (replayComplete_iff hr "b" (by decide) _).mpr ?_⟩
  rw [show s₂.backend.runtime.log = _ from hlog]
  rfl

/-- Every frame executed is there. -/
theorem frames_ne_nil_of_onTick {events : List RuntimeEvent} {id : String} {frame : UInt32}
    (h : .onTick id frame ∈ events) : (executed events).frames ≠ [] := by
  induction events using List.reverseRecOn with
  | nil => cases h
  | append_singleton events e ih =>
    rw [executed_append]
    rcases List.mem_append.mp h with h | h
    · have hne := ih h
      cases e with
      | onInput id' input accepted => cases accepted <;> exact hne
      | onTick id' frame' => simp [Executed.observe]
      | _ => exact hne
    · rw [← List.mem_singleton.mp h]
      simp [Executed.observe]

/-- A battle whose only frame a query drives : the frame is not returned. -/
theorem not_replayComplete_polled : ∃ s inst, Reaches (fun _ _ => True) s ∧
    s.backend.runtime.find "b" = some inst ∧ inst.state = .kFinished ∧
    ¬ReplayComplete "inputs" (fun input => .string input.payload) s.backend "b" := by
  obtain ⟨s, inst, hr, hfind, hstate, htick, -⟩ := poll_to_end
  exact ⟨s, inst, hr, hfind, hstate,
    not_replayComplete_of_frames hr (by decide) _ (frames_ne_nil_of_onTick htick)⟩

end Serving

end BoostGateway.Battle
