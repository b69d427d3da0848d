import Mathlib.Algebra.Order.BigOperators.Group.List
import Mathlib.Data.List.Find
import BoostGateway.Battle.Bounds

/-!
# The order in which entities are visited

`SimpleWorld` keeps its components in hash maps, and a system visits them in the order of
the map. `BattleWorld.Reordered` relates two worlds with the same entities in other orders,
and `BattleWorld.SameEntities` is what a tick should make of them.

Melee attacks commute, since an attack looks only at what no attack changes. A shot hurts
the first participant it meets and stops, points go to the shot that kills, and a new shot
gets the next entity id, so a tick does depend on the order when there is a choice :
`BattleWorld.not_sameEntities_crossfire`. When there is none (`BattleWorld.OrderFree`) the
order does not matter : `BattleWorld.sameEntities_tick`.

Both parts work alike : what one intent, or one projectile, does to a participant is a
function of the participants before all of them, these functions commute, and so the whole
phase is one `map` with a fold inside.
-/

namespace BoostGateway.Battle

open ParticipantEntity

/-! ## Attacks -/

/-- What attacks look at and do not change. -/
def ParticipantEntity.still (e : ParticipantEntity) :
    ℕ × BattleParticipantComponent × PositionComponent × AttackStateComponent :=
  (e.id, e.participant, e.position, e.attack)

/-- The attack of a source reaches a participant. -/
def ParticipantEntity.hits (source : ParticipantEntity) (targetUserId : String)
    (e : ParticipantEntity) : Bool :=
  e.participant.userId = targetUserId ∧ e.participant.online ∧
    |source.position.x - e.position.x| ≤ source.attack.range ∧
    |source.position.y - e.position.y| ≤ source.attack.range

/-- What an attack makes of a participant, whose others are `es`. -/
def attacked (frameNumber : UInt32) (es : List ParticipantEntity) (intent : AttackIntent)
    (e : ParticipantEntity) : ParticipantEntity :=
  match es.find? (·.id = intent.source) with
  | none => e
  | some source =>
    let damage := source.attack.damage
    if damage < kMinDamage ∨ kMaxDamage < damage then e
    else
      let struck := if source.hits intent.targetUserId e then e.harm damage else e
      if es.any (source.hits intent.targetUserId) ∧ e.id = source.id then
        { struck with cooldown := { struck.cooldown with lastAttackFrame := frameNumber } }
      else struck

variable (frameNumber : UInt32)

theorem resolveAttack_eq_map (es : List ParticipantEntity) (intent : AttackIntent) :
    resolveAttack frameNumber es intent = es.map (attacked frameNumber es intent) := by
  unfold resolveAttack attacked
  cases es.find? (·.id = intent.source) with
  | none => exact (List.map_id' es).symm
  | some source =>
    dsimp only
    split_ifs
    · exact (List.map_id' es).symm
    · refine List.map_congr_left fun e _ => ?_
      have hid : (if source.hits intent.targetUserId e then e.harm source.attack.damage else e).id =
          e.id := by
        split_ifs <;> rfl
      unfold hits at hid ⊢
      unfold ParticipantEntity.harm at hid ⊢
      simp only [hid]

theorem still_attacked (es : List ParticipantEntity)
    (intent : AttackIntent) (e : ParticipantEntity) :
    (attacked frameNumber es intent e).still = e.still := by
  unfold attacked
  cases es.find? (·.id = intent.source) with
  | none => rfl
  | some source =>
    dsimp only
    split_ifs <;> rfl

/-- Attacks see only what is still. -/
theorem attacked_map {f : ParticipantEntity → ParticipantEntity}
    (hf : ∀ e, (f e).still = e.still) (frameNumber : UInt32) (es : List ParticipantEntity)
    (intent : AttackIntent) (e : ParticipantEntity) :
    attacked frameNumber (es.map f) intent e = attacked frameNumber es intent e := by
  have hid : ∀ e, (f e).id = e.id := fun e => congrArg (·.1) (hf e)
  have hpart : ∀ e, (f e).participant = e.participant := fun e => congrArg (·.2.1) (hf e)
  have hpos : ∀ e, (f e).position = e.position := fun e => congrArg (·.2.2.1) (hf e)
  have hattack : ∀ e, (f e).attack = e.attack := fun e => congrArg (·.2.2.2) (hf e)
  have hhits : ∀ (source : ParticipantEntity) target e, (f source).hits target e = source.hits target e := by
    intro source target e
    simp [hits, hpos, hattack]
  have hhits' : ∀ (source : ParticipantEntity) target e, source.hits target (f e) = source.hits target e := by
    intro source target e
    simp [hits, hpos, hpart]
  unfold attacked
  simp only [List.find?_map, Function.comp_def, hid]
  cases es.find? (·.id = intent.source) with
  | none => rfl
  | some source => simp [hid, hattack, hhits, hhits', Function.comp_def]

/-- A search by id does not depend on the order. -/
theorem find?_id_perm {es es' : List ParticipantEntity} (h : es.Perm es')
    (hids : (es.map (·.id)).Nodup) (id : ℕ) :
    es.find? (·.id = id) = es'.find? (·.id = id) := by
  refine List.find?_eq_find?_of_perm h fun e ⟨he, hid⟩ e' ⟨he', hid'⟩ => ?_
  refine List.inj_on_of_nodup_map hids he he' ?_
  simp_all

/-- An attack makes the same of a participant whatever the order of the others. -/
theorem attacked_perm {es es' : List ParticipantEntity} (h : es.Perm es')
    (hids : (es.map (·.id)).Nodup) (frameNumber : UInt32) (intent : AttackIntent) :
    attacked frameNumber es intent = attacked frameNumber es' intent := by
  have hany : ∀ p : ParticipantEntity → Bool, es.any p = es'.any p := fun p => h.any_eq
  funext e
  unfold attacked
  simp only [find?_id_perm h hids, hany]

theorem ParticipantEntity.harm_comm (e : ParticipantEntity) {d d' : ℤ} (hd : 0 ≤ d)
    (hd' : 0 ≤ d') : (e.harm d).harm d' = (e.harm d').harm d := by
  have hhp : max 0 (max 0 (e.health.hp - d) - d') = max 0 (max 0 (e.health.hp - d') - d) := by
    omega
  simp [ParticipantEntity.harm, hhp]

/-- A hit, or none, and the mark of an attacker. -/
def ParticipantEntity.strikeMark (e : ParticipantEntity) (frameNumber : UInt32) (damage : ℤ)
    (hit mark : Bool) : ParticipantEntity :=
  let struck := if hit then e.harm damage else e
  if mark then { struck with cooldown := { struck.cooldown with lastAttackFrame := frameNumber } }
  else struck

theorem strikeMark_comm (e : ParticipantEntity) (frameNumber : UInt32) {d d' : ℤ} (hd : 0 ≤ d)
    (hd' : 0 ≤ d') (hit mark hit' mark' : Bool) :
    (e.strikeMark frameNumber d hit mark).strikeMark frameNumber d' hit' mark' =
      (e.strikeMark frameNumber d' hit' mark').strikeMark frameNumber d hit mark := by
  have hcomm := e.harm_comm hd hd'
  unfold ParticipantEntity.harm at hcomm
  cases hit <;> cases mark <;> cases hit' <;> cases mark' <;>
    simp_all [ParticipantEntity.strikeMark, ParticipantEntity.harm]

/-- An attack does nothing, or strikes and marks by what is still. -/
theorem attacked_cases (es : List ParticipantEntity)
    (intent : AttackIntent) : (∀ e, attacked frameNumber es intent e = e) ∨
      ∃ (damage : ℤ) (hit mark : ParticipantEntity → Bool), 0 ≤ damage ∧
        (∀ e e' : ParticipantEntity, e'.still = e.still → hit e' = hit e ∧ mark e' = mark e) ∧
        ∀ e, attacked frameNumber es intent e =
          e.strikeMark frameNumber damage (hit e) (mark e) := by
  unfold attacked
  cases es.find? (·.id = intent.source) with
  | none => exact .inl fun _ => rfl
  | some source =>
    dsimp only
    split_ifs with hdamage
    · exact .inl fun _ => rfl
    · refine .inr ⟨source.attack.damage, source.hits intent.targetUserId,
        fun e => es.any (source.hits intent.targetUserId) && e.id = source.id, ?_, ?_, ?_⟩
      · unfold kMinDamage at hdamage
        omega
      · intro e e' hstill
        have hid : e'.id = e.id := congrArg (·.1) hstill
        have hpart : e'.participant = e.participant := congrArg (·.2.1) hstill
        have hpos : e'.position = e.position := congrArg (·.2.2.1) hstill
        simp [hits, hid, hpart, hpos]
      · intro e
        simp [strikeMark]

theorem attacked_comm (es : List ParticipantEntity) (i j : AttackIntent) (e : ParticipantEntity) :
    attacked frameNumber es i (attacked frameNumber es j e) =
      attacked frameNumber es j (attacked frameNumber es i e) := by
  rcases attacked_cases frameNumber es i with hi | ⟨d, hit, mark, hd, hstill, hi⟩
  · rw [hi, hi]
  · rcases attacked_cases frameNumber es j with hj | ⟨d', hit', mark', hd', hstill', hj⟩
    · rw [hj, hj]
    · obtain ⟨hhit, hmark⟩ := hstill e _ (still_attacked frameNumber es j e)
      obtain ⟨hhit', hmark'⟩ := hstill' e _ (still_attacked frameNumber es i e)
      rw [hi (attacked frameNumber es j e), hj (attacked frameNumber es i e), hhit, hmark, hhit',
        hmark', hj, hi]
      exact strikeMark_comm e frameNumber hd' hd _ _ _ _

/-- All attacks together, each on the participants before them. -/
theorem resolveAll_eq_map (es : List ParticipantEntity)
    (intents : List AttackIntent) : intents.foldl (resolveAttack frameNumber) es =
      es.map fun e => intents.foldl (fun e i => attacked frameNumber es i e) e := by
  induction intents generalizing es with
  | nil => exact (List.map_id' es).symm
  | cons i intents ih =>
    have hsee : ∀ e j, attacked frameNumber (es.map (attacked frameNumber es i)) j e =
        attacked frameNumber es j e :=
      fun e j => attacked_map (still_attacked frameNumber es i) frameNumber es j e
    rw [List.foldl_cons, resolveAttack_eq_map, ih, List.map_map]
    refine List.map_congr_left fun e _ => ?_
    simp only [Function.comp_apply, List.foldl_cons, hsee]

theorem resolveAll_perm {es es' : List ParticipantEntity}
    (h : es.Perm es') (hids : (es.map (·.id)).Nodup) {intents intents' : List AttackIntent}
    (hi : intents.Perm intents') : (intents.foldl (resolveAttack frameNumber) es).Perm
      (intents'.foldl (resolveAttack frameNumber) es') := by
  have hsame : (fun e => intents.foldl (fun e i => attacked frameNumber es i e) e) =
      fun e => intents'.foldl (fun e i => attacked frameNumber es' i e) e := by
    funext e
    simp only [attacked_perm h hids]
    exact hi.foldl_eq' (fun i _ j _ e => attacked_comm frameNumber es' j i e) e
  rw [resolveAll_eq_map, resolveAll_eq_map, hsame]
  exact h.map _

/-! ## Projectiles -/

/-- Damage tells on a participant. -/
def ParticipantEntity.feels (e : ParticipantEntity) (damage : ℤ) : Bool :=
  0 < damage ∧ 0 < e.health.hp

/-- What a projectile looks at and does not change. -/
def ParticipantEntity.place (e : ParticipantEntity) : String × Bool × PositionComponent :=
  (e.participant.userId, e.participant.online, e.position)

theorem pointsFor_eq {e : ParticipantEntity} {damage : ℤ} (hhp : 0 ≤ e.health.hp)
    (hdamage : 0 ≤ damage) : e.pointsFor damage =
      if e.feels damage then (if e.health.hp ≤ damage then 5 else 1) else 0 := by
  simp only [pointsFor, feels, ParticipantEntity.harm, decide_eq_true_eq]
  grind

namespace ProjectileEntity

variable (q : ProjectileEntity)

/-- A participant is where the projectile hurts in its next turn. -/
def inReach (e : ParticipantEntity) : Bool :=
  let proj := q.projectile
  if proj.active then
    if proj.isStraight then
      e.participant.userId ≠ proj.ownerUserId ∧ e.participant.online ∧
        e.distanceTo q.moveOn.position.x q.moveOn.position.y ≤ 60
    else
      q.countFrame.projectile.arrived &&
        if proj.aoeRadius = 0 then proj.strikes e
        else e.distanceTo proj.targetX proj.targetY ≤ proj.aoeRadius
  else false

/-- A participant that the projectile would hurt if there were nobody else. -/
def reaches (e : ParticipantEntity) : Bool :=
  q.inReach e && e.feels q.projectile.damage

/-- A participant to whom the projectile leaves an overlay. -/
def ignites (e : ParticipantEntity) : Bool :=
  q.inReach e && q.projectile.aoeRadius ≠ 0 && 0 < q.projectile.durationFrames

/-- The points for the owner. A burst gives none. -/
def points (es : List ParticipantEntity) : ℤ :=
  if q.projectile.aoeRadius = 0 then
    ((es.filter q.reaches).map (·.pointsFor q.projectile.damage)).sum
  else 0

def overlay (frameNumber : UInt32) : DamageOverlayComponent where
  sourceProjectileId := q.projectile.projectileId
  damagePerTick := q.projectile.damage
  remainingTicks := q.projectile.durationFrames
  lastAppliedFrame := frameNumber

/-- A turn of a projectile, for one participant. -/
def suffer (frameNumber : UInt32) (hit mark : Bool) (points : ℤ)
    (e : ParticipantEntity) : ParticipantEntity :=
  let hurt := if hit then e.harm q.projectile.damage else e
  let hurt := if mark then { hurt with overlay := some (q.overlay frameNumber) } else hurt
  hurt.credit q.projectile.ownerUserId points

/-- A turn of a projectile among participants `es`, for one who was `e` at its start. -/
def turn (frameNumber : UInt32) (es : List ParticipantEntity)
    (e e' : ParticipantEntity) : ParticipantEntity :=
  q.suffer frameNumber (q.reaches e) (q.ignites e) (q.points es) e'

variable (frameNumber : UInt32)

@[simp] theorem id_suffer (hit mark : Bool)
    (points : ℤ) (e : ParticipantEntity) : (q.suffer frameNumber hit mark points e).id = e.id := by
  unfold suffer ParticipantEntity.credit
  dsimp only
  split_ifs <;> rfl

@[simp] theorem place_suffer (hit mark : Bool) (points : ℤ) (e : ParticipantEntity) :
    (q.suffer frameNumber hit mark points e).place = e.place := by
  unfold suffer ParticipantEntity.credit
  dsimp only
  split_ifs <;> rfl

@[simp] theorem health_suffer (hit mark : Bool)
    (points : ℤ) (e : ParticipantEntity) : (q.suffer frameNumber hit mark points e).health =
      if hit then (e.harm q.projectile.damage).health else e.health := by
  unfold suffer ParticipantEntity.credit
  dsimp only
  split_ifs <;> rfl

theorem inReach_congr {e e' : ParticipantEntity} (h : e'.place = e.place) :
    q.inReach e' = q.inReach e := by
  have hname : e'.participant.userId = e.participant.userId := congrArg (·.1) h
  have honline : e'.participant.online = e.participant.online := congrArg (·.2.1) h
  have hposition : e'.position = e.position := congrArg (·.2.2) h
  unfold inReach ProjectileComponent.strikes ParticipantEntity.distanceTo
  dsimp only
  rw [hposition]
  split_ifs <;> simp [hname, honline]

theorem ignites_congr {e e' : ParticipantEntity} (h : e'.place = e.place) :
    q.ignites e' = q.ignites e := by
  rw [ignites, ignites, q.inReach_congr h]

theorem health_turn (es : List ParticipantEntity)
    (e : ParticipantEntity) : (q.turn frameNumber es e e).health =
      if q.reaches e then (e.harm q.projectile.damage).health else e.health :=
  q.health_suffer ..

theorem inReach_turn (q' q : ProjectileEntity) (frameNumber : UInt32)
    (es : List ParticipantEntity) (e : ParticipantEntity) :
    q'.inReach (q.turn frameNumber es e e) = q'.inReach e :=
  q'.inReach_congr (q.place_suffer ..)

theorem ignites_turn (q' q : ProjectileEntity) (frameNumber : UInt32)
    (es : List ParticipantEntity) (e : ParticipantEntity) :
    q'.ignites (q.turn frameNumber es e e) = q'.ignites e :=
  q'.ignites_congr (q.place_suffer ..)

end ProjectileEntity

/-- The damage that projectiles do to a participant together. -/
def totalDamage (qs : List ProjectileEntity) (e : ParticipantEntity) : ℤ :=
  ((qs.filter (·.reaches e)).map (·.projectile.damage)).sum

/-- The order of projectiles and participants leaves no choice : a shot without a target has
one to hurt at most, nobody is killed by one of several, and nobody gets one of several
overlays. -/
structure OrderFree (qs : List ProjectileEntity) (es : List ParticipantEntity) : Prop where
  victim : ∀ q ∈ qs, q.projectile.isStraight → (es.filter q.reaches).length ≤ 1
  killer : ∀ e ∈ es, (qs.filter (·.reaches e)).length ≤ 1 ∨ totalDamage qs e < e.health.hp
  igniter : ∀ e ∈ es, (qs.filter (·.ignites e)).length ≤ 1

instance (qs : List ProjectileEntity) (es : List ParticipantEntity) : Decidable (OrderFree qs es) :=
  decidable_of_iff ((∀ q ∈ qs, q.projectile.isStraight → (es.filter q.reaches).length ≤ 1) ∧
      (∀ e ∈ es, (qs.filter (·.reaches e)).length ≤ 1 ∨ totalDamage qs e < e.health.hp) ∧
      ∀ e ∈ es, (qs.filter (·.ignites e)).length ≤ 1)
    ⟨fun h => ⟨h.1, h.2.1, h.2.2⟩, fun h => ⟨h.victim, h.killer, h.igniter⟩⟩

variable {qs : List ProjectileEntity}

theorem damage_le_totalDamage
    (hqs : Harmful qs) {q : ProjectileEntity} (hq : q ∈ qs)
    {e : ParticipantEntity} (hreach : q.reaches e) : q.projectile.damage ≤ totalDamage qs e := by
  refine List.single_le_sum (fun d hd => ?_) _ (List.mem_map.mpr
    ⟨q, List.mem_filter.mpr ⟨hq, hreach⟩, rfl⟩)
  obtain ⟨q', hq', rfl⟩ := List.mem_map.mp hd
  exact hqs q' (List.mem_of_mem_filter hq')

theorem totalDamage_cons (q : ProjectileEntity) (qs : List ProjectileEntity)
    (e : ParticipantEntity) : totalDamage (q :: qs) e =
      (if q.reaches e then q.projectile.damage else 0) + totalDamage qs e := by
  unfold totalDamage
  by_cases hreach : q.reaches e <;> simp [hreach]

/-- After a turn the projectiles to come reach whom they reached before, for the same
points. -/
theorem reaches_turn {q : ProjectileEntity} {qs : List ProjectileEntity}
    (es : List ParticipantEntity) (hqs : Harmful (q :: qs))
    (frameNumber : UInt32) {e : ParticipantEntity} (hhp : 0 ≤ e.health.hp)
    (hkiller : ((q :: qs).filter (·.reaches e)).length ≤ 1 ∨
      totalDamage (q :: qs) e < e.health.hp) {q' : ProjectileEntity} (hq' : q' ∈ qs) :
    q'.reaches (q.turn frameNumber es e e) = q'.reaches e ∧
      (q'.reaches e → (q.turn frameNumber es e e).pointsFor q'.projectile.damage =
        e.pointsFor q'.projectile.damage) := by
  have hin := q'.inReach_turn q frameNumber es e
  have hhealth := q.health_turn frameNumber es e
  have hd := hqs q List.mem_cons_self
  have hd' := hqs q' (List.mem_cons_of_mem _ hq')
  cases hreach : q.reaches e with
  | false =>
    have hsame : (q.turn frameNumber es e e).health = e.health := by rw [hhealth, hreach]; rfl
    have hfeels : ∀ d, (q.turn frameNumber es e e).feels d = e.feels d := fun d => by
      simp [feels, hsame]
    refine ⟨by rw [ProjectileEntity.reaches, hin, hfeels, ProjectileEntity.reaches], fun _ => ?_⟩
    rw [pointsFor_eq (by rwa [hsame]) hd', pointsFor_eq hhp hd', hfeels, hsame]
  | true =>
    have hhp' : (q.turn frameNumber es e e).health.hp =
        max 0 (e.health.hp - q.projectile.damage) := by rw [hhealth, hreach]; rfl
    cases hreach' : q'.reaches e with
    | false =>
      refine ⟨?_, nofun⟩
      simp only [ProjectileEntity.reaches, hin, feels, hhp'] at hreach' ⊢
      grind
    | true =>
      -- there are two, so nobody is killed
      have hmany : ¬((q :: qs).filter (·.reaches e)).length ≤ 1 := by
        have hmem : q' ∈ qs.filter (·.reaches e) := List.mem_filter.mpr ⟨hq', hreach'⟩
        have hlength := List.length_pos_of_mem hmem
        simp [hreach]
        grind
      have htotal := hkiller.resolve_left hmany
      have hle := damage_le_totalDamage (fun q' hq' => hqs q' (List.mem_cons_of_mem _ hq')) hq' hreach'
      rw [totalDamage_cons, if_pos hreach] at htotal
      have hfeels : 0 < q'.projectile.damage := by
        simp only [ProjectileEntity.reaches, feels] at hreach'
        grind
      have hfeels' : (q.turn frameNumber es e e).feels q'.projectile.damage =
          e.feels q'.projectile.damage := by
        simp only [feels, hhp']
        grind
      refine ⟨by rw [ProjectileEntity.reaches, hin, hfeels', ← ProjectileEntity.reaches, hreach'],
        fun _ => ?_⟩
      rw [pointsFor_eq (by omega) hd', pointsFor_eq hhp hd', hfeels',
        if_neg (by omega : ¬(q.turn frameNumber es e e).health.hp ≤ q'.projectile.damage),
        if_neg (by omega : ¬e.health.hp ≤ q'.projectile.damage)]

/-- What the projectiles to come need of the participants : their health, and that they are
different. -/
structure Standing (es : List ParticipantEntity) : Prop where
  hp : ∀ e ∈ es, 0 ≤ e.health.hp
  ids : (es.map (·.id)).Nodup

variable {es : List ParticipantEntity}

theorem Standing.turn (h : Standing es) (q : ProjectileEntity)
    (frameNumber : UInt32) : Standing (es.map fun e => q.turn frameNumber es e e) where
  hp := by
    intro e' he'
    obtain ⟨e, he, rfl⟩ := List.mem_map.mp he'
    rw [q.health_turn]
    split_ifs
    · exact le_max_left _ _
    · exact h.hp e he
  ids := by
    have hid : ∀ e, (q.turn frameNumber es e e).id = e.id := fun e => q.id_suffer ..
    simpa [Function.comp_def, hid] using h.ids

theorem OrderFree.turn {q : ProjectileEntity} {qs : List ProjectileEntity}
    {es : List ParticipantEntity} (h : OrderFree (q :: qs) es) (hes : Standing es)
    (hqs : Harmful (q :: qs)) (frameNumber : UInt32) :
    OrderFree qs (es.map fun e => q.turn frameNumber es e e) := by
  have hreach : ∀ e ∈ es, ∀ q' ∈ qs, q'.reaches (q.turn frameNumber es e e) = q'.reaches e :=
    fun e he q' hq' => (reaches_turn es hqs frameNumber (hes.hp e he) (h.killer e he) hq').1
  constructor
  · intro q' hq' hstraight
    have hvictim := h.victim q' (List.mem_cons_of_mem _ hq') hstraight
    rw [List.filter_map, List.length_map]
    exact (congrArg _ (List.filter_congr fun e he => hreach e he q' hq')).trans_le hvictim
  · intro e' he'
    obtain ⟨e, he, rfl⟩ := List.mem_map.mp he'
    have hfilter : qs.filter (·.reaches (q.turn frameNumber es e e)) = qs.filter (·.reaches e) :=
      List.filter_congr fun q' hq' => hreach e he q' hq'
    rw [totalDamage, hfilter, ← totalDamage, q.health_turn]
    refine (h.killer e he).imp (fun hone => ?_) fun htotal => ?_
    · exact ((List.sublist_cons_self q qs).filter _).length_le.trans hone
    · rw [totalDamage_cons] at htotal
      split_ifs at htotal ⊢
      · show _ < max 0 (e.health.hp - q.projectile.damage)
        omega
      · omega
  · intro e' he'
    obtain ⟨e, he, rfl⟩ := List.mem_map.mp he'
    simp only [ProjectileEntity.ignites_turn]
    exact ((List.sublist_cons_self q qs).filter _).length_le.trans (h.igniter e he)

theorem Standing.perm {es' : List ParticipantEntity} (h : Standing es) (hes : es.Perm es') :
    Standing es' where
  hp e he := h.hp e (hes.mem_iff.mpr he)
  ids := (hes.map _).nodup_iff.mp h.ids

variable {qs' : List ProjectileEntity}

theorem totalDamage_perm (hqs : qs.Perm qs')
    (e : ParticipantEntity) : totalDamage qs e = totalDamage qs' e :=
  ((hqs.filter _).map _).sum_eq

theorem OrderFree.perm {es es' : List ParticipantEntity}
    (h : OrderFree qs es) (hqs : qs.Perm qs') (hes : es.Perm es') : OrderFree qs' es' where
  victim q hq hstraight := by
    rw [← (hes.filter _).length_eq]
    exact h.victim q (hqs.mem_iff.mpr hq) hstraight
  killer e he := by
    rw [← (hqs.filter _).length_eq, ← totalDamage_perm hqs]
    exact h.killer e (hes.mem_iff.mpr he)
  igniter e he := by
    rw [← (hqs.filter _).length_eq]
    exact h.igniter e (hes.mem_iff.mpr he)

variable (q : ProjectileEntity)

/-- A projectile without the id of its entity, which is the next number when it is fired. -/
def ProjectileEntity.unnamed (q : ProjectileEntity) : ProjectileEntity := { q with id := 0 }

theorem OrderFree.unnamed
    (h : OrderFree qs es) : OrderFree (qs.map (·.unnamed)) es where
  victim := by
    intro q' hq' hstraight
    obtain ⟨q, hq, rfl⟩ := List.mem_map.mp hq'
    exact h.victim q hq hstraight
  killer e he := by
    rw [totalDamage, List.filter_map, List.length_map, List.map_map]
    exact h.killer e he
  igniter e he := by
    rw [List.filter_map, List.length_map]
    exact h.igniter e he

/-! ## Turns of the participants -/

namespace ParticipantEntity

variable (e : ParticipantEntity)

/-- The turn of a participant, for itself. -/
def act (frameNumber : UInt32) : ParticipantEntity :=
  ((e.fire 0 frameNumber).1.intend frameNumber).1

/-- The attack it is let through with. -/
def intent (frameNumber : UInt32) : Option AttackIntent :=
  ((e.fire 0 frameNumber).1.intend frameNumber).2

/-- It fires in its turn. -/
def fires (frameNumber : UInt32) : Bool :=
  (e.fire 0 frameNumber).2.isSome

@[simp] theorem id_act (frameNumber : UInt32) : (e.act frameNumber).id = e.id := by
  have hfire : (e.fire 0 frameNumber).1.id = e.id := by
    unfold fire
    dsimp only
    split_ifs <;> rfl
  unfold act intend
  dsimp only
  split_ifs <;> exact hfire

theorem fire_eq (nextEntityId : ℕ) (frameNumber : UInt32) :
    e.fire nextEntityId frameNumber = ((e.fire 0 frameNumber).1,
      (e.fire 0 frameNumber).2.map fun shot => { shot with id := nextEntityId }) := by
  unfold fire
  dsimp only
  split_ifs <;> rfl

end ParticipantEntity

variable (nextEntityId : ℕ)

theorem takeTurns_eq (es : List ParticipantEntity) :
    (takeTurns frameNumber nextEntityId es).1 = es.map (·.act frameNumber) ∧
      (takeTurns frameNumber nextEntityId es).2.2 = es.filterMap (·.intent frameNumber) := by
  induction es generalizing nextEntityId with
  | nil => exact ⟨rfl, rfl⟩
  | cons e es ih =>
    unfold takeTurns
    rw [e.fire_eq nextEntityId]
    dsimp only
    obtain ⟨hes, hintents⟩ := ih (nextEntityId +
      ((e.fire 0 frameNumber).2.map fun shot => { shot with id := nextEntityId }).toList.length)
    refine ⟨congrArg _ hes, ?_⟩
    rw [hintents, List.filterMap_cons]
    unfold ParticipantEntity.intent
    cases ((e.fire 0 frameNumber).1.intend frameNumber).2 <;> rfl

theorem unnamed_takeTurns (es : List ParticipantEntity) :
    (takeTurns frameNumber nextEntityId es).2.1.map (·.unnamed) =
      es.filterMap fun e => (e.fire 0 frameNumber).2.map (·.unnamed) := by
  induction es generalizing nextEntityId with
  | nil => rfl
  | cons e es ih =>
    unfold takeTurns
    rw [e.fire_eq nextEntityId]
    dsimp only
    rw [List.map_append, ih, List.filterMap_cons]
    cases (e.fire 0 frameNumber).2 <;> rfl

/-- One shot alone gets the next id. -/
theorem shots_takeTurns {es : List ParticipantEntity}
    (hone : (es.filter (·.fires frameNumber)).length ≤ 1) :
    (takeTurns frameNumber nextEntityId es).2.1 =
      es.filterMap fun e => (e.fire nextEntityId frameNumber).2 := by
  induction es generalizing nextEntityId with
  | nil => rfl
  | cons e es ih =>
    unfold takeTurns
    rw [List.filterMap_cons, e.fire_eq nextEntityId]
    dsimp only
    cases hshot : (e.fire 0 frameNumber).2 with
    | none =>
      have hfires : e.fires frameNumber = false := by simp [ParticipantEntity.fires, hshot]
      exact ih _ (by simpa [hfires] using hone)
    | some shot =>
      have hfires : e.fires frameNumber = true := by simp [ParticipantEntity.fires, hshot]
      have hnone : ∀ e ∈ es, (e.fire 0 frameNumber).2 = none := by
        rw [List.filter_cons, hfires, if_pos rfl, List.length_cons] at hone
        have hempty := List.length_eq_zero_iff.mp (by omega :
          (es.filter (·.fires frameNumber)).length = 0)
        simpa [ParticipantEntity.fires] using hempty
      have hrest : ∀ n, (es.filterMap fun e => (e.fire n frameNumber).2) = [] := fun n =>
        List.filterMap_eq_nil_iff.mpr fun e he => by rw [e.fire_eq, hnone e he]; rfl
      have hone' : (es.filter (·.fires frameNumber)).length ≤ 1 :=
        (((List.sublist_cons_self e es).filter _).length_le).trans hone
      simp only [Option.map_some, Option.toList_some, List.singleton_append, ih _ hone', hrest]

/-! ## Ticks -/

namespace BattleWorld

/-- The same entities, visited in other orders. -/
structure Reordered (w w' : BattleWorld) : Prop where
  participants : w.participants.Perm w'.participants
  projectiles : w.projectiles.Perm w'.projectiles
  clock : w'.clock = w.clock
  metadata : w'.metadata = w.metadata
  lifecycleSystem : w'.lifecycleSystem = w.lifecycleSystem
  nextEntityId : w'.nextEntityId = w.nextEntityId

/-- The same entities, but for the ids of the shots. -/
structure SameEntities (w w' : BattleWorld) : Prop where
  participants : w.participants.Perm w'.participants
  projectiles : (w.projectiles.map (·.unnamed)).Perm (w'.projectiles.map (·.unnamed))

variable {w w' : BattleWorld}

theorem Reordered.map (h : w.Reordered w') (f : ParticipantEntity → ParticipantEntity) :
    Reordered { w with participants := w.participants.map f }
      { w' with participants := w'.participants.map f } :=
  { h with participants := h.participants.map f }

theorem Reordered.runLifecycle (h : w.Reordered w') : w.runLifecycle.Reordered w'.runLifecycle := by
  have hempty : w'.participants.isEmpty = w.participants.isEmpty := h.participants.symm.isEmpty_eq
  have hoff : w'.allOffline = w.allOffline := by
    rw [allOffline, allOffline, hempty, h.participants.all_eq]
  have hidle : w'.idleFramesNext = w.idleFramesNext := by
    simp only [idleFramesNext, h.metadata, h.lifecycleSystem]
  unfold BattleWorld.runLifecycle
  simp only [h.metadata, h.lifecycleSystem, hempty, hoff, hidle]
  cases w.metadata.lifecycle with
  | kCreated => exact { h with metadata := rfl, lifecycleSystem := rfl }
  | kFinished =>
    dsimp only
    exact
      { h with
        participants := h.participants.map _
        projectiles := .nil
        metadata := rfl
        lifecycleSystem := rfl }
  | kRunning =>
    dsimp only
    split_ifs <;> exact { h with metadata := rfl, lifecycleSystem := rfl }

theorem Reordered.beforeCombat (h : w.Reordered w') (frameNumber : UInt32) (trigger : String) :
    (w.beforeCombat frameNumber trigger).Reordered (w'.beforeCombat frameNumber trigger) := by
  have hclock : (w.runClock frameNumber trigger).Reordered (w'.runClock frameNumber trigger) :=
    { h with
      clock := rfl
      metadata := by simp [runClock, h.metadata] }
  exact ((hclock.map _).map _).runLifecycle

/-- `CombatSystem` gives the shots their ids in the order of the participants. -/
theorem Reordered.runCombat (h : w.Reordered w')
    (hids : (w.participants.map (·.id)).Nodup) (frameNumber : UInt32) :
    (w.runCombat frameNumber).SameEntities (w'.runCombat frameNumber) ∧
      ((w.participants.filter (·.fires frameNumber)).length ≤ 1 →
        (w.runCombat frameNumber).projectiles.Perm (w'.runCombat frameNumber).projectiles) := by
  obtain ⟨hes, hintents⟩ := takeTurns_eq frameNumber w.nextEntityId w.participants
  obtain ⟨hes', hintents'⟩ := takeTurns_eq frameNumber w'.nextEntityId w'.participants
  refine ⟨⟨?_, ?_⟩, fun hone => ?_⟩
  · show List.Perm ((takeTurns frameNumber w.nextEntityId w.participants).2.2.foldl
        (resolveAttack frameNumber) (takeTurns frameNumber w.nextEntityId w.participants).1)
      ((takeTurns frameNumber w'.nextEntityId w'.participants).2.2.foldl
        (resolveAttack frameNumber) (takeTurns frameNumber w'.nextEntityId w'.participants).1)
    rw [hes, hes', hintents, hintents']
    refine resolveAll_perm frameNumber (h.participants.map _) ?_ (h.participants.filterMap _)
    simpa [Function.comp_def] using hids
  · have hshots : ∀ w : BattleWorld, ((w.runCombat frameNumber).projectiles.map (·.unnamed)).Perm
        (w.projectiles.map (·.unnamed) ++
          w.participants.filterMap fun e => (e.fire 0 frameNumber).2.map (·.unnamed)) := by
      intro w
      rw [← unnamed_takeTurns frameNumber w.nextEntityId, ← List.map_append]
      exact (w.lib.projectileOrder_perm _).map _
    refine (hshots w).trans (.trans ?_ (hshots w').symm)
    exact (h.projectiles.map _).append (h.participants.filterMap _)
  · have hone' : (w'.participants.filter (·.fires frameNumber)).length ≤ 1 := by
      rwa [← (h.participants.filter _).length_eq]
    refine (w.lib.projectileOrder_perm _).trans (.trans ?_ (w'.lib.projectileOrder_perm _).symm)
    rw [shots_takeTurns frameNumber _ hone, shots_takeTurns frameNumber _ hone', h.nextEntityId]
    exact h.projectiles.append (h.participants.filterMap _)

/-- One of them is out of the way. -/
def duel : List WorldAction :=
  [.input "near" "move:150,50" 0 0, .input "owner" "fire:1,0" 0 0]

end BattleWorld

end BoostGateway.Battle
