import BoostGateway.Tank.TankWorld

/-!
# The invariant of the tanks

Ids are those of the first four players, and distinct. So `find_tank` and the loop of
`check_collisions`, which change the first tank they meet, change the only one
(`updateFirst_eq_map`), and what an operation does to the tanks is a function of one tank
(`TanksInv.map`).
-/

namespace BoostGateway.Tank

/-! ## One element of a list -/

section UpdateFirst

variable {α : Type*} {p : α → Bool} {as : List α}

/-- At most one element has the property. -/
def AtMostOne (p : α → Bool) (as : List α) : Prop :=
  as.Pairwise fun a b => ¬(p a = true ∧ p b = true)

theorem updateFirst_eq_map (h : AtMostOne p as) (f : α → α) :
    updateFirst p f as = as.map fun a => if p a then f a else a := by
  induction as with
  | nil => rfl
  | cons a as ih =>
    obtain ⟨ha, has⟩ := List.pairwise_cons.mp h
    rw [updateFirst, List.map_cons]
    split_ifs with hp
    · congr 1
      have hrest : ∀ b ∈ as, (if p b then f b else b) = b := fun b hb =>
        if_neg fun hpb => ha b hb ⟨hp, hpb⟩
      rw [List.map_congr_left hrest, List.map_id']
    · rw [ih has]

theorem map_updateFirst {β : Type*} {g : α → β} {f : α → α} (hf : ∀ a, g (f a) = g a)
    (p : α → Bool) (as : List α) : (updateFirst p f as).map g = as.map g := by
  induction as with
  | nil => rfl
  | cons a as ih =>
    rw [updateFirst]
    split_ifs
    · rw [List.map_cons, hf, List.map_cons]
    · rw [List.map_cons, ih, List.map_cons]

theorem countP_eq_one (h : AtMostOne p as) (hsome : ∃ a ∈ as, p a = true) : as.countP p = 1 := by
  obtain ⟨a, ha, hp⟩ := hsome
  have hpos : 0 < as.countP p := List.countP_pos_iff.mpr ⟨a, ha, hp⟩
  have hfilter : (as.filter p).length ≤ 1 := by
    have hpair : (as.filter p).Pairwise fun a b => ¬(p a = true ∧ p b = true) := h.filter _
    match hlist : as.filter p with
    | [] | [_] => exact Nat.le_of_ble_eq_true rfl
    | b :: c :: _ =>
      rw [hlist] at hpair
      have hmem (x : α) (hx : x ∈ as.filter p) : p x = true := (List.mem_filter.mp hx).2
      exact absurd ⟨hmem b (by simp [hlist]), hmem c (by simp [hlist])⟩
        ((List.pairwise_cons.mp hpair).1 c (by simp))
  rw [List.countP_eq_length_filter] at hpos ⊢
  omega

/-- A sum where the terms of the elements with the property grow. -/
theorem sum_map_ite (p : α → Bool) (g : α → ℤ) (c : ℤ) (as : List α) :
    (as.map fun a => if p a then g a + c else g a).sum = (as.map g).sum + c * as.countP p := by
  induction as with
  | nil => simp
  | cons a as ih =>
    rw [List.map_cons, List.sum_cons, ih, List.map_cons, List.sum_cons, List.countP_cons]
    split_ifs
    · push_cast
      ring
    · push_cast
      ring

end UpdateFirst

/-! ## The tanks -/

/-- What neither a hit nor a credit changes. -/
theorem map_collideAll {β : Type*} {g : TankState → β} (hhit : ∀ t, g t.hit = g t)
    (hcredit : ∀ t killed, g (t.credit killed) = g t) (frame : ℤ) (bullets : List BulletState)
    (tanks : List TankState) : (collideAll frame bullets tanks).2.1.map g = tanks.map g := by
  induction bullets generalizing tanks with
  | nil => rfl
  | cons b bs ih =>
    refine (ih _).trans ?_
    unfold collide
    split
    · rfl
    · dsimp only
      rw [map_updateFirst fun t => hcredit t _, map_updateFirst hhit]

/-- What holds of a tank, where `free` are the fields on which it may stand. -/
structure TankInv (free : Position → Prop) (t : TankState) : Prop where
  pos : free t.pos
  cooldown : 0 ≤ t.fireCooldownRemaining ∧ t.fireCooldownRemaining ≤ kFireCooldownTicks
  hp : ∃ hits : ℕ, t.hp = kInitialHp - kBulletDamage * hits
  hp_nonneg : 0 ≤ t.hp
  alive : t.alive = true ↔ 0 < t.hp
  deaths : t.deaths = if t.alive then 0 else 1
  credits : 0 ≤ t.kills ∧ 0 ≤ t.damageDealt

/-- What holds of the tanks. -/
structure TanksInv (free : Position → Prop) (ids : List String) (tanks : List TankState) : Prop where
  userIds : tanks.map (·.userId) = ids
  nodup : ids.Nodup
  tank : ∀ t ∈ tanks, TankInv free t
  /-- Two tanks that are alive stand on different fields. -/
  apart : tanks.Pairwise fun t u => t.alive = true → u.alive = true → t.pos ≠ u.pos
  damage : (tanks.map (·.damageDealt)).sum = (tanks.map fun t => kInitialHp - t.hp).sum
  kills : (tanks.map (·.kills)).sum = (tanks.map (·.deaths)).sum

section

variable {free : Position → Prop} {ids : List String} {tanks : List TankState} {userId : String}

theorem TanksInv.pairwise_ne (h : TanksInv free ids tanks) :
    tanks.Pairwise fun t u => t.userId ≠ u.userId :=
  List.pairwise_map.mp (h.userIds ▸ h.nodup)

theorem TanksInv.atMostOne (h : TanksInv free ids tanks) (userId : String) :
    AtMostOne (fun t : TankState => decide (t.userId = userId)) tanks :=
  h.pairwise_ne.imp fun hne heq =>
    hne ((of_decide_eq_true heq.1).trans (of_decide_eq_true heq.2).symm)

/-- Each tank changes for itself. -/
theorem TanksInv.map (h : TanksInv free ids tanks) {f : TankState → TankState}
    (hid : ∀ t, (f t).userId = t.userId)
    (hstats : ∀ t, (f t).hp = t.hp ∧ (f t).alive = t.alive ∧ (f t).kills = t.kills ∧
      (f t).deaths = t.deaths ∧ (f t).damageDealt = t.damageDealt)
    (hpos : ∀ t ∈ tanks, free (f t).pos)
    (hcooldown : ∀ t ∈ tanks, 0 ≤ (f t).fireCooldownRemaining ∧
      (f t).fireCooldownRemaining ≤ kFireCooldownTicks)
    (hapart : tanks.Pairwise fun t u => t.alive = true → u.alive = true → (f t).pos ≠ (f u).pos) :
    TanksInv free ids (tanks.map f) := by
  have hmap {β : Type} (g : TankState → β) (hg : ∀ t, g (f t) = g t) :
      (tanks.map f).map g = tanks.map g := by
    rw [List.map_map]
    exact List.map_congr_left fun t _ => hg t
  refine ⟨?_, h.nodup, ?_, ?_, ?_, ?_⟩
  · rw [hmap _ hid, h.userIds]
  · intro t' ht'
    obtain ⟨t, ht, rfl⟩ := List.mem_map.mp ht'
    obtain ⟨hhp, halive, hkills, hdeaths, hdamage⟩ := hstats t
    have htank := h.tank t ht
    refine ⟨hpos t ht, hcooldown t ht, ?_, ?_, ?_, ?_, ?_⟩
    · rw [hhp]
      exact htank.hp
    · rw [hhp]
      exact htank.hp_nonneg
    · rw [hhp, halive]
      exact htank.alive
    · rw [hdeaths, halive]
      exact htank.deaths
    · rw [hkills, hdamage]
      exact htank.credits
  · rw [List.pairwise_map]
    refine hapart.imp fun hne hta hua => ?_
    rw [(hstats _).2.1] at hta hua
    exact hne hta hua
  · rw [hmap _ fun t => (hstats t).2.2.2.2, hmap _ fun t => by rw [(hstats t).1], h.damage]
  · rw [hmap _ fun t => (hstats t).2.2.1, hmap _ fun t => (hstats t).2.2.2.1, h.kills]

/-- A bullet that hits meets one tank. -/
theorem TanksInv.atMostOne_hits (h : TanksInv free ids tanks) (b : BulletState) :
    AtMostOne b.hits tanks := by
  refine h.apart.imp fun {t u} hne hboth => ?_
  simp only [BulletState.hits, Bool.and_eq_true, beq_iff_eq] at hboth
  exact hne hboth.1.1.1 hboth.2.1.1 (hboth.1.2.symm.trans hboth.2.2)

/-- What `collide` makes of a tank. -/
def collided (b : BulletState) (killed : Bool) (t : TankState) : TankState :=
  let t := if b.hits t then t.hit else t
  if t.userId = b.ownerUserId then t.credit killed else t

theorem userId_hit (t : TankState) : t.hit.userId = t.userId := by
  unfold TankState.hit
  dsimp only
  split_ifs <;> rfl

theorem hit_hp (t : TankState) : t.hit.hp = t.hp - kBulletDamage := by
  unfold TankState.hit
  dsimp only
  split_ifs <;> rfl

/-- A tank that is hit is not the owner, so the damage and the credit go to different tanks. -/
theorem collide_cases (h : TanksInv free ids tanks) (frame : ℤ) (b : BulletState) :
    ((collide frame b tanks).tanks = tanks ∧ (collide frame b tanks).bullet = b) ∨
    ∃ t ∈ tanks, b.active = true ∧ b.hits t = true ∧
      (collide frame b tanks).tanks = tanks.map (collided b (decide (t.hit.hp ≤ 0))) ∧
      (collide frame b tanks).bullet = { b with active := false } := by
  unfold collide
  cases hactive : b.active with
  | false => exact .inl ⟨rfl, rfl⟩
  | true =>
    rw [if_pos rfl]
    cases hfind : tanks.find? b.hits with
    | none => exact .inl ⟨rfl, rfl⟩
    | some t =>
      refine .inr ⟨t, List.mem_of_find?_eq_some hfind, rfl, List.find?_some hfind, ?_, rfl⟩
      dsimp only
      rw [updateFirst_eq_map (h.atMostOne_hits b), updateFirst_eq_map, List.map_map]
      · refine List.map_congr_left fun u _ => ?_
        simp [collided]
      · rw [AtMostOne, List.pairwise_map]
        have hid (u : TankState) : (if b.hits u = true then u.hit else u).userId = u.userId := by
          split_ifs
          · exact userId_hit u
          · rfl
        simp only [hid]
        exact h.atMostOne b.ownerUserId

theorem eq_of_atMostOne {α : Type*} {p : α → Bool} {as : List α} (h : AtMostOne p as) {a b : α}
    (ha : a ∈ as) (hb : b ∈ as) (hpa : p a = true) (hpb : p b = true) : a = b := by
  have : Std.Symm fun a b : α => ¬(p a = true ∧ p b = true) :=
    ⟨fun _ _ hnot hboth => hnot hboth.symm⟩
  by_contra hne
  exact List.Pairwise.forall h ha hb hne ⟨hpa, hpb⟩

theorem TanksInv.pos_ne (h : TanksInv free ids tanks) {t u : TankState} (ht : t ∈ tanks)
    (hu : u ∈ tanks) (hne : t ≠ u) (hta : t.alive = true) (hua : u.alive = true) :
    t.pos ≠ u.pos := by
  have : Std.Symm fun t u : TankState => t.alive = true → u.alive = true → t.pos ≠ u.pos :=
    ⟨fun _ _ hpos hua hta => (hpos hta hua).symm⟩
  exact List.Pairwise.forall h.apart ht hu hne hta hua

theorem hits_iff (b : BulletState) (t : TankState) :
    b.hits t = true ↔ t.alive = true ∧ t.userId ≠ b.ownerUserId ∧ b.pos = t.pos := by
  simp only [BulletState.hits, Bool.and_eq_true, bne_iff_ne, ne_eq, beq_iff_eq, and_assoc]

theorem collided_of_hits {b : BulletState} {t : TankState} (h : b.hits t = true) (killed : Bool) :
    collided b killed t = t.hit := by
  unfold collided
  dsimp only
  rw [if_pos h, userId_hit, if_neg ((hits_iff b t).mp h).2.1]

theorem collided_of_not_hits {b : BulletState} {t : TankState} (h : ¬b.hits t = true)
    (killed : Bool) :
    collided b killed t = if t.userId = b.ownerUserId then t.credit killed else t := by
  unfold collided
  dsimp only
  rw [if_neg h]

/-- A tank that is hit loses hit points, and its life with the last of them. -/
theorem TankInv.hit {t : TankState} (h : TankInv free t) (halive : t.alive = true) :
    TankInv free t.hit := by
  obtain ⟨hits, hhits⟩ := h.hp
  have hpos := h.alive.mp halive
  have hdeaths := h.deaths
  rw [if_pos halive] at hdeaths
  have hrest : 0 ≤ t.hp - kBulletDamage := by
    simp only [kInitialHp, kBulletDamage] at hhits ⊢
    omega
  have hnext : t.hp - kBulletDamage = kInitialHp - kBulletDamage * (hits + 1 : ℕ) := by
    rw [hhits]
    push_cast
    ring
  unfold TankState.hit
  dsimp only
  split_ifs with hkilled
  · refine ⟨h.pos, h.cooldown, ⟨hits + 1, hnext⟩, hrest, ?_, ?_, h.credits⟩
    · exact iff_of_false Bool.false_ne_true (not_lt.mpr hkilled)
    · dsimp only
      rw [hdeaths]
      rfl
  · refine ⟨h.pos, h.cooldown, ⟨hits + 1, hnext⟩, hrest, ?_, ?_, h.credits⟩
    · exact iff_of_true halive (not_le.mp hkilled)
    · dsimp only
      rw [if_pos halive, hdeaths]

theorem TankInv.credit {t : TankState} (h : TankInv free t) (killed : Bool) :
    TankInv free (t.credit killed) := by
  refine ⟨h.pos, h.cooldown, h.hp, h.hp_nonneg, h.alive, h.deaths, ?_, ?_⟩
  · have hkills := h.credits.1
    unfold TankState.credit
    dsimp only
    split_ifs
    · omega
    · exact hkills
  · exact add_nonneg h.credits.2 (by decide)

theorem userId_collided (b : BulletState) (killed : Bool) (t : TankState) :
    (collided b killed t).userId = t.userId := by
  by_cases hhit : b.hits t = true
  · rw [collided_of_hits hhit, userId_hit]
  · rw [collided_of_not_hits hhit]
    split_ifs <;> rfl

theorem pos_collided (b : BulletState) (killed : Bool) (t : TankState) :
    (collided b killed t).pos = t.pos := by
  by_cases hhit : b.hits t = true
  · rw [collided_of_hits hhit]
    unfold TankState.hit
    dsimp only
    split_ifs <;> rfl
  · rw [collided_of_not_hits hhit]
    split_ifs <;> rfl

theorem alive_of_collided {b : BulletState} {killed : Bool} {t : TankState}
    (h : (collided b killed t).alive = true) : t.alive = true := by
  by_cases hhit : b.hits t = true
  · exact ((hits_iff b t).mp hhit).1
  · rw [collided_of_not_hits hhit] at h
    split_ifs at h
    · exact h
    · exact h

theorem TankInv.collided {t : TankState} (h : TankInv free t) (b : BulletState) (killed : Bool) :
    TankInv free (collided b killed t) := by
  by_cases hhit : b.hits t = true
  · rw [collided_of_hits hhit]
    exact h.hit ((hits_iff b t).mp hhit).1
  · rw [collided_of_not_hits hhit]
    split_ifs
    · exact h.credit killed
    · exact h

theorem damageDealt_collided (b : BulletState) (killed : Bool) (t : TankState) :
    (collided b killed t).damageDealt =
      if t.userId = b.ownerUserId then t.damageDealt + kBulletDamage else t.damageDealt := by
  by_cases hhit : b.hits t = true
  · rw [collided_of_hits hhit, if_neg ((hits_iff b t).mp hhit).2.1]
    unfold TankState.hit
    dsimp only
    split_ifs <;> rfl
  · rw [collided_of_not_hits hhit]
    split_ifs <;> rfl

theorem lostHp_collided (b : BulletState) (killed : Bool) (t : TankState) :
    kInitialHp - (collided b killed t).hp =
      if b.hits t = true then kInitialHp - t.hp + kBulletDamage else kInitialHp - t.hp := by
  by_cases hhit : b.hits t = true
  · rw [collided_of_hits hhit, hit_hp, if_pos hhit]
    ring
  · rw [collided_of_not_hits hhit, if_neg hhit]
    split_ifs <;> rfl

theorem kills_collided (b : BulletState) (killed : Bool) (t : TankState) :
    (collided b killed t).kills =
      if t.userId = b.ownerUserId then t.kills + (if killed then 1 else 0) else t.kills := by
  by_cases hhit : b.hits t = true
  · rw [collided_of_hits hhit, if_neg ((hits_iff b t).mp hhit).2.1]
    unfold TankState.hit
    dsimp only
    split_ifs <;> rfl
  · rw [collided_of_not_hits hhit]
    by_cases hid : t.userId = b.ownerUserId
    · rw [if_pos hid, if_pos hid]
      cases killed
      · exact (add_zero t.kills).symm
      · rfl
    · rw [if_neg hid, if_neg hid]

theorem deaths_collided {b : BulletState} {killed : Bool} {t : TankState}
    (h : b.hits t = true → decide (t.hit.hp ≤ 0) = killed) :
    (collided b killed t).deaths =
      if b.hits t = true then t.deaths + (if killed then 1 else 0) else t.deaths := by
  by_cases hhit : b.hits t = true
  · rw [collided_of_hits hhit, if_pos hhit, ← h hhit, hit_hp]
    unfold TankState.hit
    dsimp only
    split_ifs with h₁ h₂ h₂
    · rfl
    · exact absurd (decide_eq_true h₁) h₂
    · exact absurd (of_decide_eq_true h₂) h₁
    · exact (add_zero _).symm
  · rw [collided_of_not_hits hhit, if_neg hhit]
    split_ifs <;> rfl

/-- The tanks after a bullet of one of them hit. -/
theorem TanksInv.collided (h : TanksInv free ids tanks) {b : BulletState} {t : TankState}
    (howner : b.ownerUserId ∈ ids) (ht : t ∈ tanks) (hhit : b.hits t = true) :
    TanksInv free ids (tanks.map (collided b (decide (t.hit.hp ≤ 0)))) := by
  generalize hkilled : decide (t.hit.hp ≤ 0) = killed
  have hone := countP_eq_one (h.atMostOne_hits b) ⟨t, ht, hhit⟩
  have howners := countP_eq_one (h.atMostOne b.ownerUserId) (by
    rw [← h.userIds] at howner
    obtain ⟨u, hu, hid⟩ := List.mem_map.mp howner
    exact ⟨u, hu, decide_eq_true hid⟩)
  have hsum {g g' : TankState → ℤ} {p : TankState → Bool} {c : ℤ} (hp : tanks.countP p = 1)
      (hg : ∀ u ∈ tanks, g' (Tank.collided b killed u) = if p u then g u + c else g u) :
      ((tanks.map (Tank.collided b killed)).map g').sum = (tanks.map g).sum + c := by
    have hmap : tanks.map (g' ∘ Tank.collided b killed) =
        tanks.map fun u => if p u then g u + c else g u := List.map_congr_left hg
    rw [List.map_map, hmap, sum_map_ite, hp]
    push_cast
    ring
  refine ⟨?_, h.nodup, ?_, ?_, ?_, ?_⟩
  · rw [List.map_map, ← h.userIds]
    exact List.map_congr_left fun u _ => userId_collided b killed u
  · intro u' hu'
    obtain ⟨u, hu, rfl⟩ := List.mem_map.mp hu'
    exact (h.tank u hu).collided b killed
  · rw [List.pairwise_map]
    refine h.apart.imp fun {u v} hne hu hv => ?_
    rw [pos_collided, pos_collided]
    exact hne (alive_of_collided hu) (alive_of_collided hv)
  · rw [hsum (g := (·.damageDealt)) (c := kBulletDamage) howners,
      hsum (g := fun u => kInitialHp - u.hp) (c := kBulletDamage) hone, h.damage]
    · exact fun u _ => lostHp_collided b killed u
    · intro u _
      simp only [decide_eq_true_eq]
      exact damageDealt_collided b killed u
  · rw [hsum (g := (·.kills)) (c := if killed then 1 else 0) howners,
      hsum (g := (·.deaths)) (c := if killed then 1 else 0) hone, h.kills]
    · intro u hu
      refine deaths_collided fun hhits => ?_
      obtain rfl := eq_of_atMostOne (h.atMostOne_hits b) hu ht hhits hhit
      exact hkilled
    · intro u _
      simp only [decide_eq_true_eq]
      exact kills_collided b killed u

theorem TanksInv.collide (h : TanksInv free ids tanks) (frame : ℤ) {b : BulletState}
    (howner : b.ownerUserId ∈ ids) : TanksInv free ids (collide frame b tanks).tanks := by
  obtain ⟨htanks, -⟩ | ⟨t, ht, -, hhit, htanks, -⟩ := collide_cases h frame b
  · rw [htanks]
    exact h
  · rw [htanks]
    exact h.collided howner ht hhit

theorem TanksInv.collideAll (h : TanksInv free ids tanks) (frame : ℤ) {bullets : List BulletState}
    (howners : ∀ b ∈ bullets, b.ownerUserId ∈ ids) :
    TanksInv free ids (collideAll frame bullets tanks).2.1 := by
  induction bullets generalizing tanks with
  | nil => exact h
  | cons b bs ih =>
    obtain ⟨hb, hbs⟩ := List.forall_mem_cons.mp howners
    exact ih (h.collide frame hb) hbs

/-- The tank of one user changes. -/
theorem TanksInv.updateFirst (h : TanksInv free ids tanks) (userId : String)
    {f : TankState → TankState} (hid : ∀ t, (f t).userId = t.userId)
    (hstats : ∀ t, (f t).hp = t.hp ∧ (f t).alive = t.alive ∧ (f t).kills = t.kills ∧
      (f t).deaths = t.deaths ∧ (f t).damageDealt = t.damageDealt)
    (hpos : ∀ t ∈ tanks, t.userId = userId → free (f t).pos)
    (hcooldown : ∀ t ∈ tanks, t.userId = userId → 0 ≤ (f t).fireCooldownRemaining ∧
      (f t).fireCooldownRemaining ≤ kFireCooldownTicks)
    (hapart : ∀ t ∈ tanks, t.userId = userId → ∀ u ∈ tanks, u.userId ≠ userId →
      t.alive = true → u.alive = true → (f t).pos ≠ u.pos) :
    TanksInv free ids (updateFirst (·.userId = userId) f tanks) := by
  rw [updateFirst_eq_map (h.atMostOne userId)]
  simp only [decide_eq_true_eq]
  refine h.map (fun t => ?_) (fun t => ?_) (fun t ht => ?_) (fun t ht => ?_) ?_
  · split_ifs
    · exact hid t
    · rfl
  · split_ifs
    · exact hstats t
    · exact ⟨rfl, rfl, rfl, rfl, rfl⟩
  · split_ifs with hu
    · exact hpos t ht hu
    · exact (h.tank t ht).pos
  · split_ifs with hu
    · exact hcooldown t ht hu
    · exact (h.tank t ht).cooldown
  · refine (h.apart.and h.pairwise_ne).imp_of_mem fun {t u} ht hu hne hta hua => ?_
    split_ifs with htid huid huid
    · exact absurd (htid.trans huid.symm) hne.2
    · exact hapart t ht htid u hu huid hta hua
    · exact (hapart u hu huid t ht htid hua hta).symm
    · exact hne.1 hta hua

end

end BoostGateway.Tank
