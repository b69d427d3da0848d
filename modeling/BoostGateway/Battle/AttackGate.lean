import BoostGateway.Battle.Order

/-!
# Which attacks are let through

`CombatSystem` lets an attack through unless its participant has used up its attacks of the
frame, or an attack of it hit or fired too few frames ago. `CombatLog` : a world beside the
frames in which the attacks of each entity hit or fired. `Gated` : in a tick an attack is
let through exactly when the cooldown of its participant is over and fewer than
`kMaxAttacksPerFrame` of its attacks were let through in this frame.

`attacks_this_frame` counts the attacks let through and is never set back to zero.
`CombatLog.gated_iff` : in a run with increasing frames a tick gates attacks if and only if
no participant attacks that had an attack let through before and whose cooldown is over.
-/

namespace BoostGateway.Battle

open ParticipantEntity

/-- The attack hits someone, and so counts for the cooldown of its source. -/
def lands (es : List ParticipantEntity) (intent : AttackIntent) : Bool :=
  (es.find? (·.id = intent.source)).any fun source =>
    kMinDamage ≤ source.attack.damage ∧ source.attack.damage ≤ kMaxDamage ∧
      es.any (source.hits intent.targetUserId)

namespace BattleWorld

/-- The attacks that are let through in a tick. -/
def intents (w : BattleWorld) (frameNumber : UInt32) (trigger : String) : List AttackIntent :=
  (w.fighters frameNumber trigger).filterMap (·.intent frameNumber)

/-- The entities whose attacks fire or hit in a tick. -/
def attackers (w : BattleWorld) (frameNumber : UInt32) (trigger : String) : List ℕ :=
  let es := w.fighters frameNumber trigger
  (es.filter (·.fires frameNumber)).map (·.id) ++
    ((w.intents frameNumber trigger).filter (lands (es.map (·.act frameNumber)))).map (·.source)

end BattleWorld

/-- A world, and the frames in which attacks of entities fired or hit. -/
structure CombatLog where
  world : BattleWorld
  attacks : List (ℕ × UInt32) := []

namespace CombatLog

def step (l : CombatLog) (a : WorldAction) : Option CombatLog :=
  (l.world.step a).map fun w =>
    { world := w
      attacks := l.attacks ++ match a with
        | .tick frameNumber trigger =>
          (l.world.attackers frameNumber trigger).map (·, frameNumber)
        | .input .. => [] }

variable (l : CombatLog)

/-- The frames of the ticks increase. -/
def Increasing : WorldAction → Prop
  | .tick frameNumber _ => l.world.frameNumber < frameNumber
  | .input .. => True

instance (l : CombatLog) (a : WorldAction) : Decidable (l.Increasing a) :=
  match a with
  | .tick frameNumber _ => inferInstanceAs (Decidable (_ < frameNumber))
  | .input .. => isTrue trivial

/-- The logs of new worlds and what inputs and ticks with increasing frames make of them. -/
def Reaches : CombatLog → Prop :=
  BoostGateway.Reaches
    (fun l => ∃ lib battleId roomId playerIds maxFrames,
      l = { world := createBattleWorld lib battleId roomId playerIds maxFrames })
    step Increasing

/-- No attack of the participant hit before, or fires now, within its cooldown. -/
def CooledDown (frameNumber : UInt32) (e : ParticipantEntity) : Prop :=
  (∀ f, (e.id, f) ∈ l.attacks → e.cooldown.cooldownFrames ≤ frameNumber - f) ∧
    (e.fires frameNumber = true → e.cooldown.cooldownFrames = 0)

/-- In the tick the attack of an online participant is let through exactly when its cooldown
is over and it has attacks left in the frame. -/
def Gated (frameNumber : UInt32) (trigger : String) : Prop :=
  ∀ before e after, l.world.fighters frameNumber trigger = before ++ e :: after →
    e.participant.online = true → e.participant.pendingTargetUserId ≠ "" →
    ((e.intent frameNumber).isSome ↔ l.CooledDown frameNumber e ∧
      (before.filterMap (·.intent frameNumber)).countP (·.source = e.id) <
        kMaxAttacksPerFrame.toNat)

/-- No online participant attacks with its cooldown over that had an attack let through
before. -/
def Unspent (frameNumber : UInt32) (trigger : String) : Prop :=
  ∀ e ∈ l.world.fighters frameNumber trigger, e.participant.online = true →
    e.participant.pendingTargetUserId ≠ "" → l.CooledDown frameNumber e →
    e.cooldown.attacksThisFrame < kMaxAttacksPerFrame

end CombatLog

/-! ## Cooldowns in a tick -/

/-- What the systems other than `CombatSystem` leave alone. -/
def ParticipantEntity.gate (e : ParticipantEntity) : ℕ × AttackCooldownComponent :=
  (e.id, e.cooldown)

variable (e : ParticipantEntity)

theorem gate_move : e.move.gate = e.gate := by
  unfold ParticipantEntity.move
  dsimp only
  split_ifs <;> rfl

theorem gate_credit (userId : String) (points : ℤ) : (e.credit userId points).gate = e.gate := by
  unfold credit
  split_ifs <;> rfl

theorem gate_burn (frameNumber : UInt32) : (e.burn frameNumber).gate = e.gate := by
  unfold burn
  split
  · rfl
  · split_ifs <;> rfl

theorem gates_flyStraight (q : ProjectileEntity) (es : List ParticipantEntity) :
    (q.flyStraight es).2.map gate = es.map gate := by
  unfold ProjectileEntity.flyStraight
  dsimp only
  split
  · rw [List.map_map]
    refine List.map_congr_left fun e _ => ?_
    rw [Function.comp_apply, gate_credit]
    split_ifs <;> rfl
  · rfl

theorem gates_flyAimed (q : ProjectileEntity) (frameNumber : UInt32)
    (es : List ParticipantEntity) : (q.flyAimed frameNumber es).2.map gate = es.map gate := by
  unfold ProjectileEntity.flyAimed
  dsimp only
  split_ifs
  · unfold ProjectileComponent.impact
    rw [List.map_map]
    refine List.map_congr_left fun e _ => ?_
    rw [Function.comp_apply, gate_credit]
    split_ifs <;> rfl
  · unfold ProjectileComponent.burst ProjectileComponent.scorch
    rw [List.map_map]
    refine List.map_congr_left fun e _ => ?_
    dsimp only [Function.comp_apply]
    split_ifs <;> rfl
  · rfl

theorem gates_flyAll (frameNumber : UInt32) (qs : List ProjectileEntity)
    (es : List ParticipantEntity) : (flyAll frameNumber qs es).2.map gate = es.map gate := by
  induction qs generalizing es with
  | nil => rfl
  | cons q qs ih =>
    unfold flyAll
    dsimp only
    rw [ih]
    unfold ProjectileEntity.fly
    split_ifs
    · exact gates_flyStraight _ es
    · exact gates_flyAimed _ frameNumber es
    · rfl

namespace BattleWorld

theorem gates_runLifecycle (w : BattleWorld) :
    w.runLifecycle.participants.map gate = w.participants.map gate := by
  unfold runLifecycle
  dsimp only
  split
  · rfl
  · rw [List.map_map]
    rfl
  · split_ifs <;> rfl

/-- Nobody's cooldown changes before combat. -/
theorem gates_fighters (w : BattleWorld) (frameNumber : UInt32) (trigger : String) :
    (w.fighters frameNumber trigger).map gate = w.participants.map gate := by
  unfold fighters beforeCombat
  rw [gates_runLifecycle]
  unfold runMovement runInput runClock
  rw [List.map_map, List.map_map]
  exact List.map_congr_left fun e _ => gate_move _

/-- After combat nobody's cooldown changes. -/
theorem gates_tick (w : BattleWorld) (frameNumber : UInt32) (trigger : String) :
    (w.tick frameNumber trigger).participants.map gate =
      ((w.beforeCombat frameNumber trigger).runCombat frameNumber).participants.map gate := by
  have hburn : ∀ es : List ParticipantEntity,
      (es.map (·.burn frameNumber)).map gate = es.map gate := by
    intro es
    rw [List.map_map]
    exact List.map_congr_left fun e _ => gate_burn e frameNumber
  show (((flyAll frameNumber _ _).2.map (·.burn frameNumber)).map gate) = _
  rw [hburn, gates_flyAll]
  rfl

end BattleWorld

/-! ## Cooldowns in combat -/

/-- The cooldown once an attack has hit or fired in the frame, or not. -/
def AttackCooldownComponent.note (c : AttackCooldownComponent) (frameNumber : UInt32)
    (counts : Bool) : AttackCooldownComponent :=
  if counts then { c with lastAttackFrame := frameNumber } else c

variable (c : AttackCooldownComponent) (frameNumber : UInt32)

variable (counts : Bool)

theorem note_note (counts' : Bool) :
    (c.note frameNumber counts).note frameNumber counts' =
      c.note frameNumber (counts || counts') := by
  cases counts <;> cases counts' <;> rfl

@[simp] theorem cooldownFrames_note : (c.note frameNumber counts).cooldownFrames = c.cooldownFrames := by
  cases counts <;> rfl

@[simp] theorem attacksThisFrame_note : (c.note frameNumber counts).attacksThisFrame = c.attacksThisFrame := by
  cases counts <;> rfl

theorem lastAttackFrame_note : (c.note frameNumber counts).lastAttackFrame =
      if counts then frameNumber else c.lastAttackFrame := by
  cases counts <;> rfl

namespace ParticipantEntity

variable (e : ParticipantEntity)

/-- The cooldown once the participant has fired, or not. -/
theorem cooldown_fire (frameNumber : UInt32) :
    (e.fire 0 frameNumber).1.cooldown = e.cooldown.note frameNumber (e.fires frameNumber) := by
  unfold fires fire
  dsimp only
  split_ifs <;> rfl

theorem participant_fire (frameNumber : UInt32) :
    (e.fire 0 frameNumber).1.participant.online = e.participant.online ∧
      (e.fire 0 frameNumber).1.participant.pendingTargetUserId =
        e.participant.pendingTargetUserId := by
  unfold fire
  dsimp only
  split_ifs <;> exact ⟨rfl, rfl⟩

/-- The turn of a participant counts the attack that is let through. -/
theorem cooldown_act (frameNumber : UInt32) :
    ∃ attacks, (e.act frameNumber).cooldown =
      { e.cooldown.note frameNumber (e.fires frameNumber) with attacksThisFrame := attacks } := by
  rw [← cooldown_fire]
  unfold act intend
  dsimp only
  split_ifs <;> exact ⟨_, rfl⟩

theorem source_of_intent {e : ParticipantEntity} {frameNumber : UInt32} {i : AttackIntent}
    (h : e.intent frameNumber = some i) : i.source = e.id := by
  have hid : (e.fire 0 frameNumber).1.id = e.id := by
    unfold fire
    dsimp only
    split_ifs <;> rfl
  unfold intent intend at h
  dsimp only at h
  split_ifs at h
  obtain rfl := Option.some_inj.mp h
  exact hid

/-- The attack of a participant is let through by its counter and the last frame in which
one of its attacks hit or fired. -/
theorem intent_isSome_iff {e : ParticipantEntity} {frameNumber : UInt32}
    (honline : e.participant.online = true) (htarget : e.participant.pendingTargetUserId ≠ "") :
    (e.intent frameNumber).isSome ↔ e.cooldown.attacksThisFrame < kMaxAttacksPerFrame ∧
      ¬((e.fire 0 frameNumber).1.cooldown.lastAttackFrame ≠ 0 ∧
        frameNumber - (e.fire 0 frameNumber).1.cooldown.lastAttackFrame <
          e.cooldown.cooldownFrames) := by
  obtain ⟨honline', htarget'⟩ := e.participant_fire frameNumber
  have hcooldown := e.cooldown_fire frameNumber
  unfold intent intend
  dsimp only
  rw [honline', htarget', honline]
  rw [if_neg (by simpa using htarget)]
  have hattacks : (e.fire 0 frameNumber).1.cooldown.attacksThisFrame =
      e.cooldown.attacksThisFrame := by rw [hcooldown, attacksThisFrame_note]
  have hframes : (e.fire 0 frameNumber).1.cooldown.cooldownFrames = e.cooldown.cooldownFrames := by
    rw [hcooldown, cooldownFrames_note]
  rw [hattacks, hframes]
  split_ifs with hspent hcool
  · simp [UInt32.not_lt.mpr hspent]
  · simp [UInt32.pos_iff_ne_zero.mp hcool.1, hcool.2]
  · simp only [Option.isSome_some, true_iff]
    exact ⟨UInt32.not_le.mp hspent, fun h => hcool ⟨UInt32.pos_iff_ne_zero.mpr h.1, h.2⟩⟩

end ParticipantEntity

/-- An attack that lands counts for its source. -/
theorem gate_attacked (es : List ParticipantEntity) (i : AttackIntent)
    (e : ParticipantEntity) : (attacked frameNumber es i e).gate =
      (e.id, e.cooldown.note frameNumber (lands es i && i.source = e.id)) := by
  unfold attacked lands
  cases hfind : es.find? (·.id = i.source) with
  | none => rfl
  | some source =>
    have hsource : source.id = i.source := by simpa using List.find?_some hfind
    dsimp only [Option.any_some]
    by_cases hdamage : source.attack.damage < kMinDamage ∨ kMaxDamage < source.attack.damage
    · have hout : ¬(kMinDamage ≤ source.attack.damage ∧ source.attack.damage ≤ kMaxDamage ∧
          es.any (source.hits i.targetUserId) = true) := by
        rintro ⟨h₁, h₂, -⟩
        omega
      rw [if_pos hdamage, decide_eq_false hout]
      rfl
    · have hmark : (decide (kMinDamage ≤ source.attack.damage ∧
          source.attack.damage ≤ kMaxDamage ∧ es.any (source.hits i.targetUserId) = true) &&
          decide (i.source = e.id)) =
            decide (es.any (source.hits i.targetUserId) = true ∧ e.id = source.id) := by
        rw [not_or, not_lt, not_lt] at hdamage
        have hcomm : e.id = i.source ↔ i.source = e.id := eq_comm
        simp [hsource, hdamage, hcomm]
      rw [if_neg hdamage, hmark]
      by_cases h : es.any (source.hits i.targetUserId) = true ∧ e.id = source.id
      · rw [if_pos h, decide_eq_true h]
        split_ifs <;> rfl
      · rw [if_neg h, decide_eq_false h]
        split_ifs <;> rfl

/-- All attacks together count for those whose attacks land. -/
theorem gate_attackedAll (es : List ParticipantEntity)
    (intents : List AttackIntent) (e : ParticipantEntity) :
    (intents.foldl (fun e i => attacked frameNumber es i e) e).gate =
      (e.id, e.cooldown.note frameNumber
        (intents.any fun i => lands es i && i.source = e.id)) := by
  induction intents generalizing e with
  | nil => rfl
  | cons i intents ih =>
    have hgate := gate_attacked frameNumber es i e
    have hid : (attacked frameNumber es i e).id = e.id := congrArg Prod.fst hgate
    have hcooldown : (attacked frameNumber es i e).cooldown = _ := congrArg Prod.snd hgate
    rw [List.foldl_cons, ih, hid, hcooldown, note_note, List.any_cons]

namespace BattleWorld

/-- A tick keeps the participants, and notes the frame for those whose attacks fire or
hit. -/
theorem mem_tick {w : BattleWorld} (hids : (w.participants.map (·.id)).Nodup)
    {frameNumber : UInt32} {trigger : String} {e' : ParticipantEntity}
    (h : e' ∈ (w.tick frameNumber trigger).participants) :
    ∃ e ∈ w.participants, e'.id = e.id ∧
      e'.cooldown.cooldownFrames = e.cooldown.cooldownFrames ∧
      e'.cooldown.lastAttackFrame =
        if e.id ∈ w.attackers frameNumber trigger then frameNumber
        else e.cooldown.lastAttackFrame := by
  obtain ⟨hturns, hintents⟩ := takeTurns_eq frameNumber
    (w.beforeCombat frameNumber trigger).nextEntityId (w.fighters frameNumber trigger)
  have hcombat : ((w.beforeCombat frameNumber trigger).runCombat frameNumber).participants =
      ((w.fighters frameNumber trigger).map (·.act frameNumber)).map fun e =>
        (w.intents frameNumber trigger).foldl (fun e i => attacked frameNumber
          ((w.fighters frameNumber trigger).map (·.act frameNumber)) i e) e := by
    rw [← resolveAll_eq_map, ← hturns]
    unfold intents
    rw [← hintents]
    rfl
  have hgate : e'.gate ∈ (w.tick frameNumber trigger).participants.map gate :=
    List.mem_map_of_mem h
  rw [gates_tick, hcombat, List.map_map, List.map_map] at hgate
  obtain ⟨d, hd, hgate⟩ := List.mem_map.mp hgate
  rw [Function.comp_apply, Function.comp_apply, gate_attackedAll, id_act] at hgate
  have hgates := gates_fighters w frameNumber trigger
  obtain ⟨e, he, hgate'⟩ : ∃ e ∈ w.participants, e.gate = d.gate :=
    List.mem_map.mp (hgates ▸ List.mem_map_of_mem hd)
  have hid : e.id = d.id := congrArg Prod.fst hgate'
  have hsame : e.cooldown = d.cooldown := congrArg Prod.snd hgate'
  have hid' : d.id = e'.id := congrArg Prod.fst hgate
  have hcooldown : _ = e'.cooldown := congrArg Prod.snd hgate
  obtain ⟨attacks, hact⟩ := d.cooldown_act frameNumber
  have hmem : e.id ∈ w.attackers frameNumber trigger ↔ d.fires frameNumber = true ∨
      (w.intents frameNumber trigger).any (fun i => lands
        ((w.fighters frameNumber trigger).map (·.act frameNumber)) i && i.source = d.id) = true := by
    have hids' : ((w.fighters frameNumber trigger).map (·.id)).Nodup := by
      have hmap := congrArg (List.map Prod.fst) hgates
      rw [List.map_map, List.map_map] at hmap
      exact hmap ▸ hids
    unfold attackers
    rw [List.mem_append, List.mem_map, List.mem_map, List.any_eq_true, hid]
    refine or_congr ⟨?_, fun hfires => ⟨d, List.mem_filter.mpr ⟨hd, hfires⟩, rfl⟩⟩ ?_
    · rintro ⟨d', hd', heq⟩
      obtain ⟨hd', hfires⟩ := List.mem_filter.mp hd'
      rwa [← List.inj_on_of_nodup_map hids' hd' hd heq]
    · refine exists_congr fun i => ?_
      simp only [List.mem_filter, Bool.and_eq_true, decide_eq_true_eq, and_assoc]
  refine ⟨e, he, hid'.symm.trans hid.symm, ?_, ?_⟩
  · rw [← hcooldown, hsame, cooldownFrames_note, hact]
    exact cooldownFrames_note _ _ _
  · rw [← hcooldown, hsame, lastAttackFrame_note, hact]
    dsimp only
    rw [lastAttackFrame_note]
    simp only [hmem]
    cases d.fires frameNumber with
    | true => simp
    | false => simp

end BattleWorld

/-! ## Runs -/

namespace CombatLog

/-- The cooldown of a participant holds the last frame in which an attack of it fired or
hit, and 0 where none did. -/
structure Noted (l : CombatLog) (e : ParticipantEntity) : Prop where
  never : e.cooldown.lastAttackFrame = 0 → ∀ f, (e.id, f) ∉ l.attacks
  last : e.cooldown.lastAttackFrame ≠ 0 → (e.id, e.cooldown.lastAttackFrame) ∈ l.attacks ∧
    ∀ f, (e.id, f) ∈ l.attacks → f ≤ e.cooldown.lastAttackFrame

/-- What holds of the log. -/
structure Inv (l : CombatLog) : Prop where
  reaches : l.world.Reaches
  noted : ∀ e ∈ l.world.participants, l.Noted e
  past : ∀ id f, (id, f) ∈ l.attacks → f ≤ l.world.frameNumber

theorem mem_processInput {w : BattleWorld} {userId inputData : String} {score : ℤ}
    {submittedFrame : UInt32} {e' : ParticipantEntity}
    (h : e' ∈ (w.processInput userId inputData score submittedFrame).1.participants) :
    ∃ e ∈ w.participants, e'.gate = e.gate := by
  obtain ⟨heq, -⟩ | ⟨-, -, heq⟩ := w.processInput_cases userId inputData score submittedFrame
  · rw [heq] at h
    exact ⟨e', h, rfl⟩
  · rw [heq] at h
    obtain ⟨e, he, rfl⟩ := List.mem_map.mp h
    refine ⟨e, he, ?_⟩
    split_ifs <;> rfl

theorem frameNumber_processInput (w : BattleWorld) (userId inputData : String) (score : ℤ)
    (submittedFrame : UInt32) :
    (w.processInput userId inputData score submittedFrame).1.frameNumber = w.frameNumber := by
  obtain ⟨heq, -⟩ | ⟨-, -, heq⟩ := w.processInput_cases userId inputData score submittedFrame
  · rw [heq]
  · rw [heq]
    rfl

variable {l : CombatLog}

theorem Inv.step {l' : CombatLog} {a : WorldAction} (h : Inv l) (ha : l.Increasing a)
    (hs : l.step a = some l') : Inv l' := by
  obtain ⟨w, hw, rfl⟩ := Option.map_eq_some_iff.mp hs
  refine ⟨h.reaches.step trivial hw, ?_, ?_⟩
  · cases a with
    | input userId inputData score submittedFrame =>
      obtain rfl := Option.some_inj.mp hw
      intro e' he'
      obtain ⟨e, he, hgate⟩ := mem_processInput he'
      obtain ⟨hid, hcooldown⟩ := Prod.mk.inj hgate
      have hnoted := h.noted e he
      refine ⟨?_, ?_⟩
      · rw [hcooldown, hid, List.append_nil]
        exact hnoted.never
      · rw [hcooldown, hid, List.append_nil]
        exact hnoted.last
    | tick frameNumber trigger =>
      obtain rfl := Option.some_inj.mp hw
      have hlt : l.world.frameNumber < frameNumber := ha
      intro e' he'
      obtain ⟨e, he, hid, -, hlast⟩ := BattleWorld.mem_tick h.reaches.nodup_ids he'
      have hnoted := h.noted e he
      have hmem : ∀ f, (e.id, f) ∈ l.attacks ++
          (l.world.attackers frameNumber trigger).map (·, frameNumber) ↔
          (e.id, f) ∈ l.attacks ∨
            f = frameNumber ∧ e.id ∈ l.world.attackers frameNumber trigger := by
        intro f
        simp [List.mem_append, List.mem_map, eq_comm, and_comm]
      have hpos : frameNumber ≠ 0 := by
        rintro rfl
        exact absurd hlt (by simp)
      refine ⟨?_, ?_⟩
      · rw [hlast, hid]
        split_ifs with hattacks
        · exact fun h0 => absurd h0 hpos
        · intro h0 f hf
          rcases (hmem f).mp hf with hf | ⟨-, hf⟩
          · exact hnoted.never h0 f hf
          · exact hattacks hf
      · rw [hlast, hid]
        split_ifs with hattacks
        · intro _
          refine ⟨(hmem _).mpr (.inr ⟨rfl, hattacks⟩), fun f hf => ?_⟩
          rcases (hmem f).mp hf with hf | ⟨rfl, -⟩
          · exact UInt32.le_of_lt (UInt32.lt_of_le_of_lt (h.past _ f hf) hlt)
          · exact UInt32.le_refl _
        · intro h0
          obtain ⟨hin, hle⟩ := hnoted.last h0
          refine ⟨(hmem _).mpr (.inl hin), fun f hf => ?_⟩
          rcases (hmem f).mp hf with hf | ⟨-, hf⟩
          · exact hle f hf
          · exact absurd hf hattacks
  · cases a with
    | input userId inputData score submittedFrame =>
      obtain rfl := Option.some_inj.mp hw
      intro id f hf
      rw [List.append_nil] at hf
      rw [frameNumber_processInput]
      exact h.past id f hf
    | tick frameNumber trigger =>
      obtain rfl := Option.some_inj.mp hw
      have hlt : l.world.frameNumber < frameNumber := ha
      intro id f hf
      dsimp only
      rw [BattleWorld.frameNumber_tick]
      rcases List.mem_append.mp hf with hf | hf
      · exact UInt32.le_of_lt (UInt32.lt_of_le_of_lt (h.past id f hf) hlt)
      · obtain ⟨_, -, heq⟩ := List.mem_map.mp hf
        rw [← (Prod.mk.inj heq).2]
        exact UInt32.le_refl _

theorem Reaches.inv (h : l.Reaches) : Inv l := by
  refine BoostGateway.Reaches.invariant (P := Inv) h ?_ fun l a l' hi ha hs => hi.step ha hs
  rintro l ⟨lib, battleId, roomId, playerIds, maxFrames, rfl⟩
  refine ⟨.init ⟨lib, battleId, roomId, playerIds, maxFrames, rfl⟩, fun e he => ?_, nofun⟩
  obtain ⟨index, -, rfl⟩ := List.mem_mapIdx.mp ((lib.participantOrder_perm _).mem_iff.mp he)
  exact ⟨fun _ _ => nofun, fun h0 => absurd rfl h0⟩

/-- The distance to an earlier frame. -/
theorem le_sub_of_le {a b c n : UInt32} (hab : a ≤ b) (hbc : b < c) (h : n ≤ c - b) :
    n ≤ c - a := by
  have hab' := UInt32.le_iff_toNat_le.mp hab
  have hbc' := UInt32.lt_iff_toNat_lt.mp hbc
  have h' := UInt32.le_iff_toNat_le.mp h
  rw [UInt32.toNat_sub_of_le _ _ (UInt32.le_of_lt hbc)] at h'
  rw [UInt32.le_iff_toNat_le, UInt32.toNat_sub_of_le _ _
    (UInt32.le_of_lt (UInt32.lt_of_le_of_lt hab hbc))]
  omega

/-- The check of the cooldown says whether it is over. -/
theorem cooledDown_iff (h : Inv l) {frameNumber : UInt32} {trigger : String}
    (hframe : l.world.frameNumber < frameNumber) {e : ParticipantEntity}
    (he : e ∈ l.world.fighters frameNumber trigger) : l.CooledDown frameNumber e ↔
      ¬((e.fire 0 frameNumber).1.cooldown.lastAttackFrame ≠ 0 ∧
        frameNumber - (e.fire 0 frameNumber).1.cooldown.lastAttackFrame <
          e.cooldown.cooldownFrames) := by
  have hnoted : l.Noted e := by
    obtain ⟨d, hd, hgate⟩ : ∃ d ∈ l.world.participants, d.gate = e.gate :=
      List.mem_map.mp (BattleWorld.gates_fighters l.world frameNumber trigger ▸
        List.mem_map_of_mem he)
    obtain ⟨hid, hcooldown⟩ := Prod.mk.inj hgate
    have hd := h.noted d hd
    refine ⟨?_, ?_⟩
    · rw [← hid, ← hcooldown]
      exact hd.never
    · rw [← hid, ← hcooldown]
      exact hd.last
  rw [e.cooldown_fire, lastAttackFrame_note]
  unfold CooledDown
  have hpos : frameNumber ≠ 0 := by
    rintro rfl
    exact absurd hframe (by simp)
  cases hfires : e.fires frameNumber with
  | true =>
    rw [if_pos rfl, UInt32.sub_self]
    constructor
    · rintro ⟨-, hzero⟩ ⟨-, hlt⟩
      rw [hzero rfl] at hlt
      simp at hlt
    · intro hcool
      have hzero : e.cooldown.cooldownFrames = 0 :=
        by_contra fun hne => hcool ⟨hpos, UInt32.pos_iff_ne_zero.mpr hne⟩
      exact ⟨fun f _ => by simp [hzero], fun _ => hzero⟩
  | false =>
    simp only [Bool.false_eq_true, false_imp_iff, and_true, if_false]
    by_cases h0 : e.cooldown.lastAttackFrame = 0
    · exact iff_of_true (fun f hf => absurd hf (hnoted.never h0 f)) fun hlast => hlast.1 h0
    · obtain ⟨hin, hle⟩ := hnoted.last h0
      have hlt : e.cooldown.lastAttackFrame < frameNumber :=
        UInt32.lt_of_le_of_lt (h.past _ _ hin) hframe
      constructor
      · rintro hall ⟨-, hcool⟩
        exact UInt32.not_le.mpr hcool (hall _ hin)
      · intro hcool f hf
        exact le_sub_of_le (hle f hf) hlt
          (UInt32.not_lt.mp fun hlt' => hcool ⟨h0, hlt'⟩)

/-- Nobody else attacks for a participant. -/
theorem countP_before (h : Inv l) {frameNumber : UInt32} {trigger : String}
    {before after : List ParticipantEntity} {e : ParticipantEntity}
    (hsplit : l.world.fighters frameNumber trigger = before ++ e :: after) :
    (before.filterMap (·.intent frameNumber)).countP (·.source = e.id) = 0 := by
  have hids : ((l.world.fighters frameNumber trigger).map (·.id)).Nodup := by
    have hmap := congrArg (List.map Prod.fst)
      (BattleWorld.gates_fighters l.world frameNumber trigger)
    rw [List.map_map, List.map_map] at hmap
    exact hmap ▸ h.reaches.nodup_ids
  rw [hsplit, List.map_append, List.map_cons] at hids
  have hdisjoint := (List.nodup_append.mp hids).2.2
  rw [List.countP_eq_zero]
  intro i hi hsource
  obtain ⟨d, hd, hintent⟩ := List.mem_filterMap.mp hi
  refine hdisjoint d.id (List.mem_map_of_mem hd) e.id (.head _) ?_
  rw [← source_of_intent hintent]
  exact of_decide_eq_true hsource

/-- In every run with increasing frames, the next tick gates attacks if and only if nobody
attacks with the cooldown over who had an attack let through before. -/
theorem gated_iff {l : CombatLog} (h : l.Reaches) {frameNumber : UInt32}
    (hframe : l.world.frameNumber < frameNumber) (trigger : String) :
    l.Gated frameNumber trigger ↔ l.Unspent frameNumber trigger := by
  have hi := h.inv
  constructor
  · intro hgated e he honline htarget hcooled
    obtain ⟨before, after, hsplit⟩ := List.append_of_mem he
    have hcount := countP_before hi hsplit
    have hsome := (hgated before e after hsplit honline htarget).mpr
      ⟨hcooled, by rw [hcount]; decide⟩
    exact ((intent_isSome_iff honline htarget).mp hsome).1
  · intro hunspent before e after hsplit honline htarget
    have he : e ∈ l.world.fighters frameNumber trigger := by simp [hsplit]
    have hcount := countP_before hi hsplit
    rw [intent_isSome_iff honline htarget, ← cooledDown_iff hi hframe he, hcount]
    constructor
    · exact fun hsome => ⟨hsome.2, by decide⟩
    · exact fun hcooled => ⟨hunspent e he honline htarget hcooled.1, hcooled.1⟩

/-- The log of a battle of two players, who stand on one place. -/
def duelLog : CombatLog where
  world := createBattleWorld .plain "b" "r" ["owner", "member"] 0

theorem reaches_duelLog : duelLog.Reaches := .init ⟨_, _, _, _, _, rfl⟩

/-- A first attack is let through. -/
theorem gated_iff_first : ∃ l : CombatLog, l.Reaches ∧
    (l.world.intents 1 "tick").map (·.source) = [3] ∧ l.Gated 1 "tick" := by
  obtain ⟨l, hl, hframe, hintents, hunspent⟩ : ∃ l : CombatLog, l.Reaches ∧
      l.world.frameNumber < 1 ∧ (l.world.intents 1 "tick").map (·.source) = [3] ∧
      ∀ e ∈ l.world.fighters 1 "tick", e.cooldown.attacksThisFrame < kMaxAttacksPerFrame :=
    reaches_duelLog.exists_runWith [.input "owner" "attack:member" 0 0] (by decide +kernel)
  exact ⟨l, hl, hintents, (gated_iff hl hframe "tick").mpr fun e he _ _ _ => hunspent e he⟩

/-- The owner attacks in frame 1 and again four frames later. -/
theorem not_gated_second : ¬∀ l : CombatLog, l.Reaches → ∀ frameNumber,
    l.world.frameNumber < frameNumber → ∀ trigger, l.Gated frameNumber trigger := by
  intro hall
  obtain ⟨l, hl, hframe, hattacks, e, he, hid, honline, htarget, hintent, hfires, hcooldown⟩ :
      ∃ l : CombatLog, l.Reaches ∧ l.world.frameNumber < 5 ∧ l.attacks = [(3, 1)] ∧
        ∃ e ∈ l.world.fighters 5 "tick", e.id = 3 ∧ e.participant.online = true ∧
          e.participant.pendingTargetUserId ≠ "" ∧ (e.intent 5).isSome = false ∧
          e.fires 5 = false ∧ e.cooldown.cooldownFrames = 3 :=
    reaches_duelLog.exists_runWith
      [.input "owner" "attack:member" 0 0, .tick 1 "tick", .input "owner" "attack:member" 0 0]
      (by decide +kernel)
  obtain ⟨before, after, hsplit⟩ := List.append_of_mem he
  have hsome := (hall l hl 5 hframe "tick" before e after hsplit honline htarget).mpr ⟨⟨?_, ?_⟩, ?_⟩
  · simp [hintent] at hsome
  · intro f hf
    obtain ⟨-, rfl⟩ : e.id = 3 ∧ f = 1 := by simpa [hattacks] using hf
    rw [hcooldown]
    decide
  · simp [hfires]
  · rw [countP_before hl.inv hsplit]
    decide

end CombatLog

end BoostGateway.Battle
