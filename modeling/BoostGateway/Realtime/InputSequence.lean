import BoostGateway.Realtime.InputDelivery
import Mathlib

/-!
# The sequence numbers of inputs

`submit_input` refuses a numbered input whose number is not above `last_seq` of its user,
and then sets `last_seq` to the number of any input that it accepts. An input without a
number is not checked, and it sets `last_seq` back to zero.

`SeqsIncreasing` : the numbers of the accepted inputs of each user increase.
`Hosting.seqs_increasing` : they do in every run in which no input without a number is
accepted from a user whose `last_seq` is not zero.
-/

namespace BoostGateway.Realtime

open InstanceRuntime

/-- The number of an accepted input of the user, where it has one. -/
def acceptedSeq (user : String) : RuntimeEvent → Option UInt64
  | .inputAccepted _ input => if input.userId = user ∧ input.seq ≠ 0 then some input.seq else none
  | .instanceCreated _ | .instanceDestroyed _ | .onInput .. | .onTick .. | .snapshotAvailable ..
  | .buildSettlement _ | .instanceFinished .. => none

/-- The numbers of the accepted inputs of each user are strictly increasing. -/
def SeqsIncreasing (events : List RuntimeEvent) : Prop :=
  ∀ user, (events.filterMap (acceptedSeq user)).Pairwise (· < ·)

variable {σ : Type}

/-- The input has no number and will be accepted from a user whose last one had. -/
def InstanceRuntime.resetsSeq (r : InstanceRuntime σ) (input : InputEnvelope) : Bool :=
  input.seq = 0 && (r.find input.instanceId).any fun inst =>
    inst.state.isActive && inst.inputQueue.length < inst.ctx.inputQueueLimit.toNat &&
      (inst.playerInputState input.userId).lastSeq != 0

/-- No accepted input resets the number of its user. -/
def Hosting.KeepsSeq (h : Hosting σ) : HostingAction → Prop
  | .submitInput input => h.runtime.resetsSeq input = false
  | .createInstance .. | .destroyInstance _ | .finishInstance .. | .getResumeSnapshot ..
  | .tickInstance .. | .tickAll .. | .proceed _ => True

instance (h : Hosting σ) : ∀ a, Decidable (h.KeepsSeq a)
  | .submitInput input => instDecidableEqBool (h.runtime.resetsSeq input) false
  | .createInstance .. | .destroyInstance _ | .finishInstance .. | .getResumeSnapshot ..
  | .tickInstance .. | .tickAll .. | .proceed _ => .isTrue trivial

/-- The numbers increase so far, up to the last number of each user. -/
structure Sequenced (inst : InternalInstance σ) (events : List RuntimeEvent) : Prop where
  increasing : SeqsIncreasing events
  le_lastSeq : ∀ user, ∀ n ∈ events.filterMap (acceptedSeq user),
    n ≤ (inst.playerInputState user).lastSeq

/-- What neither accepts inputs nor changes the last numbers. -/
theorem Sequenced.keep {inst inst' : InternalInstance σ} {events more : List RuntimeEvent}
    (h : Sequenced inst events)
    (hlast : ∀ user, (inst'.playerInputState user).lastSeq = (inst.playerInputState user).lastSeq)
    (hmore : ∀ user, ∀ e ∈ more, acceptedSeq user e = none) : Sequenced inst' (events ++ more) := by
  have heq : ∀ user, (events ++ more).filterMap (acceptedSeq user) =
      events.filterMap (acceptedSeq user) := by
    intro user
    rw [List.filterMap_append, List.filterMap_eq_nil_iff.mpr (hmore user), List.append_nil]
  constructor
  · intro user
    rw [heq]
    exact h.increasing user
  · intro user n hn
    rw [heq] at hn
    rw [hlast]
    exact h.le_lastSeq user n hn

/-- An input is accepted that has no number, and its user had none, or a number above the
last. -/
theorem Sequenced.accept {inst : InternalInstance σ} {events : List RuntimeEvent}
    (h : Sequenced inst events) {input : InputEnvelope} (id : String)
    (hreset : input.seq = 0 → (inst.playerInputState input.userId).lastSeq = 0)
    (hseq : input.seq ≠ 0 → (inst.playerInputState input.userId).lastSeq < input.seq)
    {inst' : InternalInstance σ} (hinst' : inst'.playerInputState =
      Function.update inst.playerInputState input.userId
        { inst.playerInputState input.userId with lastSeq := input.seq }) :
    Sequenced inst' (events ++ [.inputAccepted id input]) := by
  have hfilter : ∀ user,
      (events ++ [RuntimeEvent.inputAccepted id input]).filterMap (acceptedSeq user) =
      events.filterMap (acceptedSeq user) ++
        if input.userId = user ∧ input.seq ≠ 0 then [input.seq] else [] := by
    intro user
    rw [List.filterMap_append]
    congr 1
    by_cases hcase : input.userId = user ∧ input.seq ≠ 0
    · simp [acceptedSeq, hcase]
    · simp [acceptedSeq, hcase]
  constructor
  · intro user
    rw [hfilter]
    split_ifs with hcase
    · refine List.pairwise_append.mpr ⟨h.increasing user, List.pairwise_singleton _ _, ?_⟩
      intro n hn m hm
      obtain rfl := List.mem_singleton.mp hm
      exact UInt64.lt_of_le_of_lt (h.le_lastSeq user n hn) (hcase.1 ▸ hseq hcase.2)
    · simpa using h.increasing user
  · intro user n hn
    rw [hfilter] at hn
    rw [hinst']
    by_cases huser : user = input.userId
    · subst huser
      rw [Function.update_self]
      by_cases hzero : input.seq = 0
      · have hle := h.le_lastSeq input.userId n (by simpa [hzero] using hn)
        rw [hreset hzero] at hle
        show n ≤ input.seq
        rwa [hzero]
      · rw [if_pos ⟨rfl, hzero⟩] at hn
        rcases List.mem_append.mp hn with hn | hn
        · exact UInt64.le_of_lt (UInt64.lt_of_le_of_lt (h.le_lastSeq _ n hn) (hseq hzero))
        · rw [List.mem_singleton.mp hn]
          exact UInt64.le_refl _
    · rw [Function.update_of_ne huser]
      rw [if_neg fun hcase => huser hcase.1.symm, List.append_nil] at hn
      exact h.le_lastSeq user n hn

namespace InstanceRuntime

variable {r : InstanceRuntime σ}

/-- A numbered input that is accepted has a number above the last. -/
theorem lastSeq_lt_of_accepted {input : InputEnvelope}
    {inst : InternalInstance σ} (hfind : r.find input.instanceId = some inst)
    (haccepted : (r.submitInput input).2.accepted = true) (hseq : input.seq ≠ 0) :
    (inst.playerInputState input.userId).lastSeq < input.seq := by
  by_contra hle
  have hduplicate : 0 < input.seq ∧
      input.seq ≤ (inst.playerInputState input.userId).lastSeq :=
    ⟨UInt64.pos_iff_ne_zero.mpr hseq, UInt64.not_lt.mp hle⟩
  unfold submitInput at haccepted
  rw [hfind] at haccepted
  dsimp only at haccepted
  split_ifs at haccepted

theorem sequenced_submitInput (h : Each Sequenced r)
    {input : InputEnvelope} (hkeeps : r.resetsSeq input = false) :
    Each Sequenced (r.submitInput input).1 := by
  rcases r.submitInput_cases input with ⟨heq, -⟩ | ⟨inst, hfind, hactive, hlimit, haccepted, heq⟩
  · rwa [heq]
  · rw [heq]
    refine h.put (by simp [RuntimeEvent.id]) ?_
    rw [life_append_of_within (by simp [RuntimeEvent.id, RuntimeEvent.isWithin])]
    refine (h _ inst hfind).accept input.instanceId (fun hzero => ?_)
      (lastSeq_lt_of_accepted hfind haccepted) rfl
    simpa [resetsSeq, hzero, hfind, hactive, hlimit] using hkeeps

/-- A hook that changes the context of an instance, seen from outside only by `events`,
which accept nothing. -/
theorem sequenced_put_ctx (h : Each Sequenced r) {id : String}
    {inst : InternalInstance σ} (hfind : r.find id = some inst) (ctx : InstanceContext σ)
    (state : InstanceState) {events : List RuntimeEvent}
    (hid : ∀ e ∈ events, e.id = id ∧ e.isWithin)
    (hevents : ∀ user, ∀ e ∈ events, acceptedSeq user e = none) :
    Each Sequenced (r.put id { inst with ctx := ctx, state := state } events) := by
  refine h.put (fun e he => (hid e he).1) ?_
  rw [life_append_of_within hid]
  exact (h id inst hfind).keep (fun _ => rfl) hevents

theorem sequenced_finishInstance (h : Each Sequenced r) (id : String)
    (reason : FinishReason) : Each Sequenced (r.finishInstance id reason) := by
  rcases r.finishInstance_cases id reason with ⟨heq, -⟩ | ⟨inst, hfind, -, -, heq⟩
  · rwa [heq]
  · rw [heq]
    exact sequenced_put_ctx h hfind _ .kFinished
      (by simp [finished, RuntimeEvent.id, RuntimeEvent.isWithin])
      (by simp [finished, acceptedSeq])

theorem sequenced_getResumeSnapshot (h : Each Sequenced r)
    (id userId : String) : Each Sequenced (r.getResumeSnapshot id userId).1 := by
  rcases r.getResumeSnapshot_cases id userId with heq | ⟨inst, player, hfind, -, heq⟩
  · rwa [heq]
  · rw [heq]
    exact sequenced_put_ctx h hfind _ inst.state nofun fun _ => nofun

/-- The loop acknowledges frames and leaves the numbers alone. -/
theorem lastSeq_drain (movedFrom : String → String) (plugin : InstancePlugin σ)
    (frameNumber : UInt32) (ctx : InstanceContext σ) (players : String → PlayerInputState)
    (queue : List InputEnvelope) (user : String) :
    ((drain movedFrom plugin frameNumber ctx players queue).2.1 user).lastSeq =
      (players user).lastSeq := by
  induction queue generalizing ctx players with
  | nil => rfl
  | cons input queue ih =>
    rw [drain]
    split
    next ctx' result heq =>
      split_ifs
      · dsimp only
        rw [ih]
        by_cases huser : user = movedFrom input.userId
        · rw [huser, Function.update_self]
        · rw [Function.update_of_ne huser]
      · exact ih ctx' players
    next ctx' heq => exact ih ctx' players

theorem sequenced_tickSection (h : Each Sequenced r) (id : String)
    (frameNumber : UInt32) (tickStartMs : ℤ) :
    Each Sequenced (r.tickSection id frameNumber tickStartMs).1 := by
  rcases r.tickSection_cases id frameNumber tickStartMs with heq | ⟨inst, hfind, -, heq⟩
  · rwa [heq]
  · rw [heq]
    refine h.put (fun e he => (isWithin_runFrame he).1) ?_
    rw [life_append_of_within fun e he => isWithin_runFrame he]
    refine (h id inst hfind).keep (fun user => ?_) fun user e he => ?_
    · exact lastSeq_drain r.movedFrom inst.plugin frameNumber inst.ctx inst.playerInputState
        inst.inputQueue user
    · rcases mem_runFrame he with ⟨input, accepted, rfl⟩ | rfl | ⟨snapshot, rfl⟩ <;> rfl

end InstanceRuntime

namespace Hosting

theorem sequenced_step {h h' : Hosting σ} {a : HostingAction} (hi : Each Sequenced h.runtime)
    (hk : h.KeepsSeq a) (hs : h.step a = some h') : Each Sequenced h'.runtime := by
  rcases step_cases hs with heq | ⟨nowMs, args, -, heq⟩ | ⟨id, -, heq⟩ | ⟨input, rfl, heq⟩ |
    ⟨id, userId, -, heq⟩ | ⟨id, reason, -, heq⟩ | ⟨i, call, id, frameNumber, rest, -, -, -, -, heq⟩
  all_goals rw [heq]
  · exact hi
  · exact hi.createInstance nowMs args fun _ _ => ⟨fun _ => .nil, fun _ => nofun⟩
  · exact hi.destroyInstance id
  · exact sequenced_submitInput hi hk
  · exact sequenced_getResumeSnapshot hi id userId
  · exact sequenced_finishInstance hi id reason
  · exact sequenced_tickSection hi id frameNumber call.tickStartMs

/-- In every interleaving in which no accepted input resets the number of its user, the
numbers of the accepted inputs of each user of an instance increase. -/
theorem seqs_increasing {h : Hosting σ} (hr : Reaches KeepsSeq h) :
    ∀ id inst, h.runtime.find id = some inst → SeqsIncreasing (life id h.runtime.log) := by
  have hi : Each Sequenced h.runtime := by
    refine hr.invariant ?_ fun h a h' hi hk hs => sequenced_step hi hk hs
    rintro h ⟨maxInstances, pluginFactories, movedFrom, rfl⟩
    exact nofun
  exact fun id inst hfind => (hi id inst hfind).increasing

/-- An input without a number comes first, and the one numbered 5 is accepted once. -/
theorem seqs_increasing_duplicate : ∃ h : Hosting Unit, Reaches KeepsSeq h ∧
    (life "b" h.runtime.log).filterMap (acceptedSeq "u") = [5, 6] ∧
    ∀ id inst, h.runtime.find id = some inst → SeqsIncreasing (life id h.runtime.log) := by
  obtain ⟨h, hr, hseqs⟩ : ∃ h : Hosting Unit, Reaches KeepsSeq h ∧
      (life "b" h.runtime.log).filterMap (acceptedSeq "u") = [5, 6] :=
    Reaches.exists_runWith (s := accepting) (.init ⟨_, _, _, rfl⟩)
      [.createInstance 0 { instanceId := "b", roomId := "r", instanceType := "t", players := [] },
        .submitInput { instanceId := "b", userId := "u" },
        .submitInput { instanceId := "b", userId := "u", seq := 5 }, .tickInstance "b" 1 0,
        .proceed 0, .submitInput { instanceId := "b", userId := "u", seq := 5 },
        .submitInput { instanceId := "b", userId := "u", seq := 6 }]
      (by decide +kernel)
  exact ⟨h, hr, hseqs, seqs_increasing hr⟩

/-- Between two inputs with the number 5 comes one without a number, and all three are
accepted. -/
theorem not_seqs_increasing : ¬ ∀ h : Hosting Unit, Reaches (fun _ _ => True) h →
    ∀ id inst, h.runtime.find id = some inst → SeqsIncreasing (life id h.runtime.log) := by
  intro hall
  obtain ⟨h, hr, hseqs, hfind⟩ : ∃ h : Hosting Unit, Reaches (fun _ _ => True) h ∧
      (life "b" h.runtime.log).filterMap (acceptedSeq "u") = [5, 5] ∧
      (h.runtime.find "b").isSome :=
    Reaches.exists_runWith (s := accepting) (.init ⟨_, _, _, rfl⟩)
      [.createInstance 0 { instanceId := "b", roomId := "r", instanceType := "t", players := [] },
        .submitInput { instanceId := "b", userId := "u", seq := 5 },
        .submitInput { instanceId := "b", userId := "u" },
        .submitInput { instanceId := "b", userId := "u", seq := 5 }]
      (by decide +kernel)
  obtain ⟨inst, hinst⟩ := Option.isSome_iff_exists.mp hfind
  have hincreasing := hall h hr "b" inst hinst "u"
  rw [hseqs] at hincreasing
  exact absurd hincreasing (by decide)

end Hosting

end BoostGateway.Realtime
