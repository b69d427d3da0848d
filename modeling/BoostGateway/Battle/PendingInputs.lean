import Mathlib.Data.List.Nodup
import Mathlib.Logic.Function.Basic
import BoostGateway.Base.Run
import BoostGateway.Battle.World

/-!
# Inputs between two ticks

An accepted input goes to two places : a record at the end of the replay log, and the slot
of each participant of its user, from which `BattleInputSystem` takes it in the next tick.
The log grows, but a slot is overwritten, and it is passed over while its participant is
offline, so `SubmissionLog.Kept`, that no accepted input is dropped, is exactly
`SubmissionLog.Clean` (`SubmissionLog.kept_iff`).

`slot` remembers which input a user's slots were last given. `Tracked` says that it is the
last one accepted of that user, and that the slots still hold its text.
-/

namespace BoostGateway.Battle

/-- The call of `battle_world_process_input` that was accepted, and the number it returned. -/
structure Submission where
  userId : String
  inputData : String
  score : ℤ
  inputSeq : UInt64
  deriving DecidableEq

def BattleReplayInputRecord.submission (r : BattleReplayInputRecord) : Submission where
  userId := r.userId
  inputData := r.inputData
  score := r.score
  inputSeq := r.inputSeq

/-- `BattleInputSystem` takes a text out of the slot. -/
def BattleParticipantComponent.Executes (p : BattleParticipantComponent) : Prop :=
  p.pendingInputData ≠ "" ∧ p.applyInput.pendingInputData = ""

theorem executes_iff (p : BattleParticipantComponent) :
    p.Executes ↔ p.online = true ∧ p.pendingInputData ≠ "" := by
  unfold BattleParticipantComponent.Executes BattleParticipantComponent.applyInput
  split_ifs with hpass
  · constructor
    · rintro ⟨hne, heq⟩
      exact absurd heq hne
    · rintro ⟨honline, hne⟩
      rcases hpass with hoff | heq
      · simp [honline] at hoff
      · exact absurd heq hne
  · obtain ⟨honline, hne⟩ := not_or.mp hpass
    exact ⟨fun _ => ⟨Bool.eq_true_of_not_eq_false honline, hne⟩, fun _ => ⟨hne, rfl⟩⟩

/-- A battle world with what was submitted since the last tick. -/
structure SubmissionLog where
  world : BattleWorld
  /-- The replay log at the last tick. -/
  earlier : List Submission := []
  /-- The inputs accepted since then. -/
  accepted : List Submission := []
  /-- The place in `accepted` of the input that the slots of a user were given last. -/
  slot : String → Option ℕ := fun _ => none

/-- What the service does with a battle world. -/
inductive SubmissionAction
  | input (userId inputData : String) (score : ℤ) (submittedFrame : UInt32)
  | disconnect (userId : String)
  | setOnline (userId : String)
  | recordFrameAck (userId : String) (frameNumber : UInt32)
  | setLifecycle (lifecycle : BattleLifecycleState)
  | frame (nextFrame : UInt32) (trigger : String)

namespace SubmissionLog

def submissions (w : BattleWorld) : List Submission :=
  w.replayLog.replayInputs.map (·.submission)

/-- `battle_world_process_input`. -/
def submit (l : SubmissionLog) (userId inputData : String) (score : ℤ)
    (submittedFrame : UInt32) : SubmissionLog :=
  let r := l.world.processInput userId inputData score submittedFrame
  if r.2.accepted then
    { l with
      world := r.1
      accepted := l.accepted ++ [⟨userId, inputData, score, r.2.inputSeq⟩]
      slot := Function.update l.slot userId (some l.accepted.length) }
  else { l with world := r.1 }

/-- `battle_world_advance_frame`. -/
def frame (l : SubmissionLog) (nextFrame : UInt32) (trigger : String) : SubmissionLog :=
  let world := (l.world.advanceFrame nextFrame trigger).1
  { world := world, earlier := submissions world }

def step (l : SubmissionLog) : SubmissionAction → Option SubmissionLog
  | .input userId inputData score submittedFrame =>
    some (l.submit userId inputData score submittedFrame)
  | .disconnect userId => some { l with world := l.world.handleDisconnect userId }
  | .setOnline userId => some { l with world := l.world.setOnline userId }
  | .recordFrameAck userId frameNumber =>
    some { l with world := l.world.recordFrameAck userId frameNumber }
  | .setLifecycle lifecycle => some { l with world := l.world.setLifecycle lifecycle }
  | .frame nextFrame trigger => some (l.frame nextFrame trigger)

/-- The battles reached from new ones. -/
abbrev Reaches : SubmissionLog → Prop :=
  BoostGateway.Reaches
    (fun l => ∃ lib battleId roomId playerIds maxFrames,
      l = { world := createBattleWorld lib battleId roomId playerIds maxFrames })
    step fun _ _ => True

/-- The tick that comes now executes the input at this place. -/
def Executed (l : SubmissionLog) (n : ℕ) : Prop :=
  ∃ e ∈ l.world.participants, l.slot e.participant.userId = some n ∧ e.participant.Executes

/-- No accepted input is dropped when the next tick comes now : each is executed in it, the
replay log has grown by one record for each, and the numbers of a user increase. -/
structure Kept (l : SubmissionLog) : Prop where
  executed : ∀ n < l.accepted.length, l.Executed n
  recorded : submissions l.world = l.earlier ++ l.accepted
  increasing : ∀ userId, (l.accepted.filter (·.userId = userId)).Pairwise
    (·.inputSeq < ·.inputSeq)

/-- Each input accepted since the last tick has a text, is of a participant that is online
now, and is the only one of its user. -/
structure Clean (l : SubmissionLog) : Prop where
  text : ∀ a ∈ l.accepted, a.inputData ≠ ""
  online : ∀ a ∈ l.accepted,
    ∃ e ∈ l.world.participants, e.participant.userId = a.userId ∧ e.participant.online = true
  single : (l.accepted.map (·.userId)).Nodup

/-- What the slots hold, and what is recorded. -/
structure Tracked (l : SubmissionLog) : Prop where
  /-- A slot holds an input of its user. -/
  held : ∀ e ∈ l.world.participants, ∀ n, l.slot e.participant.userId = some n →
    ∃ a, l.accepted[n]? = some a ∧ a.inputData = e.participant.pendingInputData
  user : ∀ userId n, l.slot userId = some n → (l.accepted[n]?).map (·.userId) = some userId
  /-- It is the last one. -/
  last : ∀ (n : ℕ) a, l.accepted[n]? = some a → ∃ m, n ≤ m ∧ l.slot a.userId = some m
  recorded : submissions l.world = l.earlier ++ l.accepted

variable {l : SubmissionLog}

/-- What changes the participants, but not their slots, changes nothing. -/
theorem Tracked.of_slots (h : l.Tracked) {w : BattleWorld}
    (hslots : w.participants.map (fun e => (e.participant.userId, e.participant.pendingInputData))
      = l.world.participants.map fun e => (e.participant.userId, e.participant.pendingInputData))
    (hlog : w.replayLog = l.world.replayLog) : Tracked { l with world := w } := by
  refine ⟨fun e he n hn => ?_, h.user, h.last, ?_⟩
  · obtain ⟨e₁, he₁, heq⟩ := List.mem_map.mp (hslots ▸ List.mem_map_of_mem he)
    obtain ⟨huser, hdata⟩ := Prod.mk.inj heq
    obtain ⟨a, ha, htext⟩ := h.held e₁ he₁ n (huser ▸ hn)
    exact ⟨a, ha, htext.trans hdata⟩
  · unfold submissions
    rw [hlog]
    exact h.recorded

theorem slots_updateUser (w : BattleWorld) (userId : String)
    {f : BattleParticipantComponent → BattleParticipantComponent}
    (hf : ∀ p, (f p).userId = p.userId ∧ (f p).pendingInputData = p.pendingInputData) :
    (w.updateUser userId f).participants.map
        (fun e => (e.participant.userId, e.participant.pendingInputData)) =
      w.participants.map fun e => (e.participant.userId, e.participant.pendingInputData) := by
  unfold BattleWorld.updateUser
  dsimp only
  rw [List.map_map]
  refine List.map_congr_left fun e _ => ?_
  dsimp only [Function.comp]
  split_ifs
  · exact Prod.ext (hf _).1 (hf _).2
  · rfl

/-- An accepted input takes the slots of its user. -/
theorem Tracked.accept (h : l.Tracked) (userId inputData : String) (score : ℤ)
    (submittedFrame : UInt32) :
    Tracked
      { l with
        world := ((l.world.updateUser userId (·.submit inputData score submittedFrame))
          |>.appendReplayInput (l.world.frameNumber + 1) userId inputData score).1
        accepted := l.accepted ++ [⟨userId, inputData, score, l.world.metadata.nextInputSeq⟩]
        slot := Function.update l.slot userId (some l.accepted.length) } := by
  have hold : ∀ {n : ℕ} {a : Submission}, l.accepted[n]? = some a →
      ∀ b, (l.accepted ++ [b])[n]? = some a := by
    intro n a ha b
    rw [List.getElem?_append_left (List.getElem?_eq_some_iff.mp ha).1, ha]
  refine ⟨fun e' he' n hn => ?_, fun user n hn => ?_, fun n a ha => ?_, ?_⟩
  · obtain ⟨e, he, rfl⟩ := List.mem_map.mp he'
    dsimp only at hn ⊢
    by_cases huser : e.participant.userId = userId
    · rw [if_pos huser] at hn ⊢
      have hlast : some l.accepted.length = some n := by
        rw [← hn]
        exact (Function.update_apply ..).trans (if_pos huser) |>.symm
      obtain rfl := Option.some_inj.mp hlast
      exact ⟨_, List.getElem?_concat_length, rfl⟩
    · rw [if_neg huser] at hn ⊢
      rw [Function.update_of_ne huser] at hn
      obtain ⟨a, ha, htext⟩ := h.held e he n hn
      exact ⟨a, hold ha _, htext⟩
  · dsimp only at hn ⊢
    by_cases huser : user = userId
    · subst huser
      rw [Function.update_self] at hn
      obtain rfl := Option.some_inj.mp hn
      rw [List.getElem?_concat_length]
      rfl
    · rw [Function.update_of_ne huser] at hn
      obtain ⟨a, ha, hua⟩ := Option.map_eq_some_iff.mp (h.user user n hn)
      rw [hold ha, Option.map_some, hua]
  · dsimp only at ha ⊢
    have hn : n ≤ l.accepted.length := by
      have hlt := (List.getElem?_eq_some_iff.mp ha).1
      rw [List.length_append, List.length_singleton] at hlt
      omega
    by_cases huser : a.userId = userId
    · exact ⟨_, hn, by rw [huser, Function.update_self]⟩
    · rw [Function.update_of_ne huser]
      refine h.last n a ?_
      rcases Nat.lt_or_eq_of_le hn with hlt | rfl
      · rwa [List.getElem?_append_left hlt] at ha
      · rw [List.getElem?_concat_length] at ha
        obtain rfl := Option.some_inj.mp ha
        exact absurd rfl huser
  · have hlog : submissions (((l.world.updateUser userId (·.submit inputData score submittedFrame))
        |>.appendReplayInput (l.world.frameNumber + 1) userId inputData score).1) =
        submissions l.world ++ [⟨userId, inputData, score, l.world.metadata.nextInputSeq⟩] :=
      List.map_append
    rw [hlog, h.recorded, List.append_assoc]

theorem Tracked.submit (h : l.Tracked) (userId inputData : String) (score : ℤ)
    (submittedFrame : UInt32) : (l.submit userId inputData score submittedFrame).Tracked := by
  unfold SubmissionLog.submit
  obtain ⟨hsame, hrejected⟩ | ⟨-, -, heq⟩ :=
    l.world.processInput_cases userId inputData score submittedFrame
  · dsimp only
    rw [hrejected, if_neg Bool.false_ne_true, hsame]
    exact h
  · rw [heq]
    exact h.accept userId inputData score submittedFrame

/-- A log in which nothing was submitted since the last tick. -/
theorem tracked_new (w : BattleWorld) (earlier : List Submission)
    (hearlier : submissions w = earlier) : Tracked { world := w, earlier := earlier } := by
  refine ⟨fun e _ n hn => ?_, fun user n hn => ?_, fun n a ha => ?_, ?_⟩
  · cases hn
  · cases hn
  · cases ha
  · exact hearlier.trans (List.append_nil _).symm

theorem Tracked.step {l' : SubmissionLog} (h : l.Tracked) {a : SubmissionAction}
    (hs : l.step a = some l') : l'.Tracked := by
  cases a with
  | input userId inputData score submittedFrame =>
    obtain rfl := Option.some_inj.mp hs
    exact h.submit userId inputData score submittedFrame
  | disconnect userId =>
    obtain rfl := Option.some_inj.mp hs
    unfold BattleWorld.handleDisconnect
    split_ifs
    · exact h
    · exact h.of_slots (slots_updateUser _ _ fun _ => ⟨rfl, rfl⟩) rfl
  | setOnline userId =>
    obtain rfl := Option.some_inj.mp hs
    exact h.of_slots (slots_updateUser _ _ fun _ => ⟨rfl, rfl⟩) rfl
  | recordFrameAck userId frameNumber =>
    obtain rfl := Option.some_inj.mp hs
    exact h.of_slots (slots_updateUser _ _ fun _ => ⟨rfl, rfl⟩) rfl
  | setLifecycle lifecycle =>
    obtain rfl := Option.some_inj.mp hs
    exact h.of_slots rfl rfl
  | frame nextFrame trigger =>
    obtain rfl := Option.some_inj.mp hs
    exact tracked_new _ _ rfl

theorem Reaches.tracked (h : l.Reaches) : l.Tracked := by
  refine h.invariant (P := Tracked) ?_ fun _ _ _ hl _ hs => hl.step hs
  rintro l ⟨lib, battleId, roomId, playerIds, maxFrames, rfl⟩
  exact tracked_new _ _ rfl

/-! ## When inputs are kept -/

theorem Tracked.clean (h : l.Tracked) (hkept : l.Kept) : l.Clean := by
  have hheld : ∀ a ∈ l.accepted, ∃ e ∈ l.world.participants, e.participant.userId = a.userId ∧
      e.participant.online = true ∧ a.inputData ≠ "" := by
    intro a ha
    obtain ⟨n, hn, rfl⟩ := List.getElem_of_mem ha
    obtain ⟨e, he, hslot, hexec⟩ := hkept.executed n hn
    obtain ⟨honline, hne⟩ := (executes_iff _).mp hexec
    obtain ⟨a, ha, htext⟩ := h.held e he n hslot
    have huser := h.user _ n hslot
    rw [List.getElem?_eq_getElem hn] at ha huser
    obtain rfl := Option.some_inj.mp ha
    exact ⟨e, he, (Option.some_inj.mp huser).symm, honline, htext ▸ hne⟩
  refine ⟨fun a ha => ?_, fun a ha => ?_, ?_⟩
  · obtain ⟨-, -, -, -, hne⟩ := hheld a ha
    exact hne
  · obtain ⟨e, he, huser, honline, -⟩ := hheld a ha
    exact ⟨e, he, huser, honline⟩
  · refine List.pairwise_iff_getElem.mpr fun i j hi hj hij huser => ?_
    -- the slots of the user hold the later of the two inputs
    rw [List.getElem_map, List.getElem_map] at huser
    rw [List.length_map] at hi hj
    obtain ⟨m, hm, hslot⟩ := h.last j _ (List.getElem?_eq_getElem hj)
    obtain ⟨e, -, hfirst, -⟩ := hkept.executed i hi
    have hname := h.user _ i hfirst
    rw [List.getElem?_eq_getElem hi] at hname
    have hname : l.accepted[i].userId = e.participant.userId := Option.some_inj.mp hname
    have hslots : some i = some m := by rw [← hfirst, ← hslot, ← huser, hname]
    have := Option.some_inj.mp hslots
    omega

theorem Tracked.kept (h : l.Tracked) (hclean : l.Clean) : l.Kept := by
  refine ⟨fun n hn => ?_, h.recorded, fun userId => ?_⟩
  · obtain ⟨e, he, huser, honline⟩ := hclean.online _ (List.getElem_mem hn)
    obtain ⟨m, -, hslot⟩ := h.last n _ (List.getElem?_eq_getElem hn)
    obtain ⟨a, ha, hname⟩ := Option.map_eq_some_iff.mp (h.user _ m hslot)
    obtain ⟨hm, hget⟩ := List.getElem?_eq_some_iff.mp ha
    have hm' : m < (l.accepted.map (·.userId)).length := by rwa [List.length_map]
    have hn' : n < (l.accepted.map (·.userId)).length := by rwa [List.length_map]
    have hsame : (l.accepted.map (·.userId))[m] = (l.accepted.map (·.userId))[n] := by
      rw [List.getElem_map, List.getElem_map, hget, hname]
    have hmn : m = n := hclean.single.getElem_inj_iff.mp hsame
    subst hmn
    rw [← huser] at hslot
    refine ⟨e, he, hslot, (executes_iff _).mpr ⟨honline, ?_⟩⟩
    obtain ⟨b, hb, htext⟩ := h.held e he m hslot
    rw [← htext]
    exact hclean.text b (List.mem_of_getElem? hb)
  · have hne : l.accepted.Pairwise (·.userId ≠ ·.userId) := List.pairwise_map.mp hclean.single
    refine (hne.filter _).imp_of_mem fun ha hb hab => ?_
    have hua := of_decide_eq_true (List.mem_filter.mp ha).2
    have hub := of_decide_eq_true (List.mem_filter.mp hb).2
    exact absurd (hua.trans hub.symm) hab

/-- No accepted input is dropped exactly when each has a text, is of a participant that is
online when the tick comes, and is the only one of its user. -/
theorem kept_iff {l : SubmissionLog} (h : l.Reaches) : l.Kept ↔ l.Clean :=
  ⟨h.tracked.clean, h.tracked.kept⟩

/-- A new battle of two players. -/
def twoPlayers : SubmissionLog where
  world := createBattleWorld .plain "b" "r" ["owner", "member"] 0

theorem reaches_twoPlayers : twoPlayers.Reaches := .init ⟨_, _, _, _, _, rfl⟩

/-- Each of them moves. -/
theorem kept_iff_two : ∃ l : SubmissionLog, l.Reaches ∧
    l.accepted.map (·.inputSeq) = [1, 2] ∧ l.Kept := by
  obtain ⟨l, hl, hseqs, htext, honline, hsingle⟩ := reaches_twoPlayers.exists_runWith
    (P := fun l => l.accepted.map (·.inputSeq) = [1, 2] ∧ (∀ a ∈ l.accepted, a.inputData ≠ "") ∧
      (∀ a ∈ l.accepted, ∃ e ∈ l.world.participants,
        e.participant.userId = a.userId ∧ e.participant.online = true) ∧
      (l.accepted.map (·.userId)).Nodup)
    [.input "owner" "move:150,50" 0 0, .input "member" "move:50,150" 0 0] (by decide +kernel)
  exact ⟨l, hl, hseqs, (kept_iff hl).mpr ⟨htext, honline, hsingle⟩⟩

/-- Of two inputs of one player the first is overwritten. -/
theorem not_kept : ¬∀ l : SubmissionLog, l.Reaches → l.Kept := by
  intro hall
  obtain ⟨l, hl, hlength, hslots⟩ := reaches_twoPlayers.exists_runWith
    (P := fun l => l.accepted.length = 2 ∧
      ∀ e ∈ l.world.participants, l.slot e.participant.userId ≠ some 0)
    [.input "owner" "move:150,50" 0 0, .input "owner" "fire:1,0" 0 0] (by decide +kernel)
  obtain ⟨e, he, hslot, -⟩ := (hall l hl).executed 0 (by omega)
  exact hslots e he hslot

end SubmissionLog

end BoostGateway.Battle
