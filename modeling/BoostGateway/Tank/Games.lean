import BoostGateway.Tank.Invariant

/-!
# The games of the tank world

What every tick and every action keep (`WorldInv`), from the spawn points on.
`TankWorld.reaches_inv` : in a game of different players on a map of at least six by six fields no two
tanks that are alive stand on one field, none stands in a wall, a tank lives as long as it has hit
points, and the damage dealt and the kills are those suffered.
-/

namespace BoostGateway.Tank

/-! ## The map -/

theorem mem_between {a b x : ℤ} : x ∈ between a b ↔ a ≤ x ∧ x < b := by
  simp only [between, List.mem_map, List.mem_range]
  constructor
  · rintro ⟨k, hk, rfl⟩
    omega
  · rintro ⟨ha, hb⟩
    exact ⟨(x - a).toNat, by omega, by omega⟩

theorem mem_generateWalls {mapWidth mapHeight : ℤ} {p : Position} :
    p ∈ generateWalls mapWidth mapHeight ↔
      ((0 ≤ p.x ∧ p.x < mapWidth) ∧ (p.y = 0 ∨ p.y = mapHeight - 1)) ∨
      ((0 ≤ p.y ∧ p.y < mapHeight) ∧ (p.x = 0 ∨ p.x = mapWidth - 1)) ∨
      ((3 ≤ p.y ∧ p.y < mapHeight - 3) ∧ (p.x = 5 ∨ p.x = 14)) ∨
      ((3 ≤ p.x ∧ p.x < mapWidth - 3) ∧ (p.y = 5 ∨ p.y = 9)) := by
  obtain ⟨x, y⟩ := p
  simp only [generateWalls, List.mem_append, List.mem_flatMap, mem_between, List.mem_cons,
    List.not_mem_nil, or_false, Position.mk.injEq, or_assoc]
  constructor
  · rintro (⟨z, hz, h⟩ | ⟨z, hz, h⟩ | ⟨z, hz, h⟩ | ⟨z, hz, h⟩) <;> omega
  · rintro (⟨h, hy⟩ | ⟨h, hx⟩ | ⟨h, hx⟩ | ⟨h, hy⟩)
    · exact .inl ⟨x, h, by omega⟩
    · exact .inr (.inl ⟨y, h, by omega⟩)
    · exact .inr (.inr (.inl ⟨y, h, by omega⟩))
    · exact .inr (.inr (.inr ⟨x, h, by omega⟩))

/-- A field of the map. -/
def OnMap (mapWidth mapHeight : ℤ) (p : Position) : Prop :=
  (0 ≤ p.x ∧ p.x < mapWidth) ∧ 0 ≤ p.y ∧ p.y < mapHeight

/-- A field on which a tank may stand. -/
def Free (mapWidth mapHeight : ℤ) (p : Position) : Prop :=
  OnMap mapWidth mapHeight p ∧ p ∉ generateWalls mapWidth mapHeight

section

variable {playerIds : List String} {maxFrames mapWidth mapHeight : ℤ}

/-- The border is a wall, so the fields next to a tank are on the map. -/
theorem Free.onMap_add {p : Position} (h : Free mapWidth mapHeight p) (d : Direction) :
    OnMap mapWidth mapHeight (p.add d.delta) := by
  obtain ⟨⟨hx, hy⟩, hwall⟩ := h
  rw [mem_generateWalls] at hwall
  cases d <;> simp only [OnMap, Position.add, Direction.delta] <;> omega

theorem free_of_mem_spawnPoints (hwidth : 6 ≤ mapWidth) (hheight : 6 ≤ mapHeight) {p : Position}
    (h : p ∈ spawnPoints mapWidth mapHeight) : Free mapWidth mapHeight p := by
  simp only [spawnPoints, List.mem_cons, List.not_mem_nil, or_false] at h
  obtain rfl | rfl | rfl | rfl := h <;>
    simp only [Free, OnMap, mem_generateWalls] <;> omega

theorem nodup_spawnPoints (hwidth : 6 ≤ mapWidth) (hheight : 6 ≤ mapHeight) :
    (spawnPoints mapWidth mapHeight).Nodup := by
  simp only [spawnPoints, List.nodup_cons, List.mem_cons, List.not_mem_nil, or_false,
    Position.mk.injEq, not_or, not_false_eq_true, List.nodup_nil, and_true]
  omega

theorem map_fst_zip_eq_take {α β : Type*} (as : List α) (bs : List β) :
    (as.zip bs).map Prod.fst = as.take bs.length := by
  induction as generalizing bs with
  | nil => rw [List.zip_nil_left, List.map_nil, List.take_nil]
  | cons a as ih =>
    cases bs with
    | nil => rfl
    | cons b bs => exact congrArg (a :: ·) (ih bs)

theorem tanksInv_assignSpawnPoints (hwidth : 6 ≤ mapWidth) (hheight : 6 ≤ mapHeight)
    (hnodup : (playerIds.take 4).Nodup) :
    TanksInv (Free mapWidth mapHeight) (playerIds.take 4)
      (assignSpawnPoints mapWidth mapHeight playerIds) := by
  have hnew : ∀ t ∈ assignSpawnPoints mapWidth mapHeight playerIds,
      ∃ userId, ∃ pos ∈ spawnPoints mapWidth mapHeight,
        t = { userId, pos, direction := .kDown } := by
    intro t ht
    obtain ⟨⟨userId, pos⟩, hmem, rfl⟩ := List.mem_map.mp ht
    exact ⟨userId, pos, (List.of_mem_zip hmem).2, rfl⟩
  refine ⟨?_, hnodup, fun t ht => ?_, ?_, ?_, ?_⟩
  · rw [assignSpawnPoints, List.map_map]
    exact map_fst_zip_eq_take playerIds (spawnPoints mapWidth mapHeight)
  · obtain ⟨userId, pos, hpos, rfl⟩ := hnew t ht
    have hcooldown : (0 : ℤ) ≤ kFireCooldownTicks := by decide
    have hhp : 0 < kInitialHp := by decide
    exact ⟨free_of_mem_spawnPoints hwidth hheight hpos, ⟨le_rfl, hcooldown⟩, ⟨0, rfl⟩, hhp.le,
      iff_of_true rfl hhp, rfl, le_rfl, le_rfl⟩
  · have hsnd : ((playerIds.zip (spawnPoints mapWidth mapHeight)).map Prod.snd).Nodup := by
      have hswap : (playerIds.zip (spawnPoints mapWidth mapHeight)).map Prod.snd =
          ((spawnPoints mapWidth mapHeight).zip playerIds).map Prod.fst := by
        rw [← List.zip_swap, List.map_map]
        rfl
      rw [hswap, map_fst_zip_eq_take]
      exact (nodup_spawnPoints hwidth hheight).sublist (List.take_sublist _ _)
    refine List.pairwise_map.mpr ((List.pairwise_map.mp hsnd).imp fun hne _ _ => hne)
  · refine congrArg List.sum (List.map_congr_left fun t ht => ?_)
    obtain ⟨userId, pos, -, rfl⟩ := hnew t ht
    rfl
  · refine congrArg List.sum (List.map_congr_left fun t ht => ?_)
    obtain ⟨userId, pos, -, rfl⟩ := hnew t ht
    rfl

/-! ## The bullets -/

/-- The bullet `k` frames later. -/
structure Flown (k : ℤ) (b b' : BulletState) : Prop where
  id : b'.id = b.id
  owner : b'.ownerUserId = b.ownerUserId
  delta : b'.delta = b.delta
  active : b'.active = true → b.active = true ∧
    b'.pos = ⟨b.pos.x + k * b.delta.x, b.pos.y + k * b.delta.y⟩

theorem Flown.refl (b : BulletState) : Flown 0 b b :=
  ⟨rfl, rfl, rfl, fun h => ⟨h, by rw [zero_mul, zero_mul, add_zero, add_zero]⟩⟩

theorem Flown.trans {k l : ℤ} {b₁ b₂ b₃ : BulletState} (h₁ : Flown k b₁ b₂) (h₂ : Flown l b₂ b₃) :
    Flown (k + l) b₁ b₃ := by
  refine ⟨h₂.id.trans h₁.id, h₂.owner.trans h₁.owner, h₂.delta.trans h₁.delta, fun h₃ => ?_⟩
  obtain ⟨hactive, hpos⟩ := h₂.active h₃
  obtain ⟨hactive, hpos'⟩ := h₁.active hactive
  refine ⟨hactive, ?_⟩
  rw [hpos, hpos', h₁.delta]
  congr 1 <;> ring

theorem Flown.inactive (b : BulletState) : Flown 0 b { b with active := false } :=
  ⟨rfl, rfl, rfl, fun h => absurd h (by simp)⟩

theorem exists_of_mem_right {α β : Type*} {R : α → β → Prop} {as : List α} {bs : List β}
    (h : List.Forall₂ R as bs) {b : β} (hb : b ∈ bs) : ∃ a ∈ as, R a b := by
  induction h with
  | nil => cases hb
  | cons hab _ ih =>
    obtain rfl | hb := List.mem_cons.mp hb
    · exact ⟨_, .head _, hab⟩
    · obtain ⟨a, ha, hab⟩ := ih hb
      exact ⟨a, .tail _ ha, hab⟩

theorem Flown.map_eq {β : Type*} {k : ℤ} {bs bs' : List BulletState} (f : BulletState → β)
    (hf : ∀ b b', Flown k b b' → f b' = f b) (h : List.Forall₂ (Flown k) bs bs') :
    bs'.map f = bs.map f := by
  induction h with
  | nil => rfl
  | cons hb _ ih => rw [List.map_cons, List.map_cons, ih, hf _ _ hb]

/-- A collision takes bullets away, and changes nothing else about them. -/
theorem flown_collideAll (frame : ℤ) (bullets : List BulletState) (tanks : List TankState) :
    List.Forall₂ (Flown 0) bullets (collideAll frame bullets tanks).1 := by
  induction bullets generalizing tanks with
  | nil => exact .nil
  | cons b bs ih =>
    refine .cons ?_ (ih _)
    unfold collide
    split
    · exact .refl b
    · exact .inactive b

theorem TankWorld.flown_moveBullet (w : TankWorld) (b : BulletState) :
    Flown 1 b (w.moveBullet b) := by
  unfold TankWorld.moveBullet
  split_ifs with hactive
  · dsimp only
    split_ifs
    · exact ⟨rfl, rfl, rfl, fun h => absurd h (by simp)⟩
    · refine ⟨rfl, rfl, rfl, fun _ => ⟨hactive, ?_⟩⟩
      rw [one_mul, one_mul]
      rfl
  · exact ⟨rfl, rfl, rfl, fun h => absurd h hactive⟩

theorem TankWorld.inBounds_moveBullet {w : TankWorld} {b : BulletState}
    (h : (w.moveBullet b).active = true) : w.inBounds (w.moveBullet b).pos = true := by
  unfold TankWorld.moveBullet at h ⊢
  by_cases hactive : b.active = true
  · rw [if_pos hactive] at h ⊢
    dsimp only at h ⊢
    split_ifs at h ⊢ with hout
    simp only [Bool.or_eq_true, Bool.not_eq_true', not_or, Bool.not_eq_false] at hout
    exact hout.1
  · rw [if_neg hactive] at h
    exact absurd h hactive

/-! ## The world -/

/-- What holds of a bullet. -/
structure BulletInv (ids : List String) (mapWidth mapHeight : ℤ) (b : BulletState) : Prop where
  owner : b.ownerUserId ∈ ids
  delta : ∃ d : Direction, b.delta = d.delta
  onMap : b.active = true → OnMap mapWidth mapHeight b.pos

/-- What holds of a world. -/
structure WorldInv (playerIds : List String) (maxFrames mapWidth mapHeight : ℤ) (w : TankWorld) :
    Prop where
  maxFrames_eq : w.maxFrames = maxFrames
  mapWidth_eq : w.mapWidth = mapWidth
  mapHeight_eq : w.mapHeight = mapHeight
  walls_eq : w.walls = generateWalls mapWidth mapHeight
  tanks : TanksInv (Free mapWidth mapHeight) (playerIds.take 4) w.tanks
  bullets : ∀ b ∈ w.bullets, BulletInv (playerIds.take 4) mapWidth mapHeight b
  /-- The bullets are numbered as they were fired. -/
  bulletIds : w.bullets.map (·.id) = List.range' 1 w.bullets.length ∧
    w.nextBulletId = w.bullets.length + 1

namespace TankWorld

variable {w : TankWorld}

/-- What `apply_action` does to a world. -/
theorem applyAction_cases (w : TankWorld) (userId : String) (action : InputAction) :
    (w.applyAction userId action).1 = w ∨
    ∃ tank ∈ w.tanks, tank.userId = userId ∧ tank.alive = true ∧
      ((∃ dx dy, w.validateMove tank dx dy = true ∧
        (w.applyAction userId action).1 = w.moveTank userId dx dy) ∨
      ∃ d, tank.fireCooldownRemaining ≤ 0 ∧
        (w.applyAction userId action).1 = w.fireBullet userId tank d) := by
  unfold applyAction findTank
  cases hfind : w.tanks.find? (·.userId = userId) with
  | none => exact .inl rfl
  | some tank =>
    have hmem := List.mem_of_find?_eq_some hfind
    have hid : tank.userId = userId := by simpa using List.find?_some hfind
    dsimp only
    cases halive : tank.alive with
    | false => exact .inl rfl
    | true =>
      rw [if_neg (by decide)]
      cases action with
      | stop => exact .inl rfl
      | move dx dy =>
        dsimp only
        split_ifs with hvalid
        · exact .inl rfl
        · exact .inr ⟨tank, hmem, hid, halive, .inl ⟨dx, dy, by simpa using hvalid, rfl⟩⟩
      | fire degrees =>
        dsimp only
        split_ifs with hvalid
        · exact .inl rfl
        · cases Direction.ofDegrees degrees with
          | none => exact .inl rfl
          | some d =>
            refine .inr ⟨tank, hmem, hid, halive, .inr ⟨d, ?_, rfl⟩⟩
            simpa [validateFire] using hvalid

theorem applyInputs_induct {P : TankWorld → Prop}
    (hstep : ∀ {w}, P w → ∀ userId action, P (w.applyAction userId action).1) (h : P w)
    (inputs : List PlayerInput) : P (w.applyInputs inputs) :=
  List.foldlRecOn inputs _ h fun _ hw input _ =>
    List.foldlRecOn input.actions _ hw fun _ hw action _ => hstep hw input.userId action

/-- The body of `tick` up to the check for the end. -/
def advance (w : TankWorld) (inputs : List PlayerInput) : TankWorld :=
  ({ w with currentFrame := w.currentFrame + 1, pendingEvents := [] }.applyInputs
    inputs).moveBullets.checkCollisions.coolDown

theorem tick_of_finished (h : w.finished = true) (inputs : List PlayerInput) :
    (w.tick inputs).1 = w := by
  rw [tick, if_pos h]

theorem tick_of_running (h : w.finished = false) (inputs : List PlayerInput) :
    (w.tick inputs).1 = (w.advance inputs).checkFinishCondition.buildSnapshot := by
  rw [tick, if_neg (by simp [h])]
  rfl

/-- A valid move leads to a field next to the tank, free of walls and of other tanks. -/
theorem validateMove_free {tank : TankState} {dx dy : ℤ} (h : w.validateMove tank dx dy = true) :
    w.inBounds (tank.pos.add ⟨dx, dy⟩) = true ∧ w.isWallAt (tank.pos.add ⟨dx, dy⟩) = false ∧
      w.isTankAt (tank.pos.add ⟨dx, dy⟩) tank.userId = false := by
  unfold validateMove at h
  split_ifs at h with h₁ h₂ h₃
  simpa [Bool.not_eq_true] using h

theorem isWallAt_eq_false {p : Position} : w.isWallAt p = false ↔ p ∉ w.walls := by
  rw [isWallAt, List.any_eq_false]
  refine ⟨fun h hp => h p hp (beq_self_eq_true p), fun h q hq heq => h ?_⟩
  rwa [← beq_iff_eq.mp heq]

theorem inBounds_iff {p : Position} :
    w.inBounds p = true ↔ OnMap w.mapWidth w.mapHeight p := by
  simp [inBounds, OnMap, and_assoc]

theorem ne_of_isTankAt_eq_false {p : Position} {userId : String}
    (h : w.isTankAt p userId = false) {t : TankState} (ht : t ∈ w.tanks) (halive : t.alive = true)
    (hid : t.userId ≠ userId) : t.pos ≠ p := by
  intro hpos
  refine List.any_eq_false.mp h t ht ?_
  simp only [halive, Bool.true_and, Bool.and_eq_true, bne_iff_ne, ne_eq, beq_iff_eq]
  exact ⟨hid, hpos⟩

end TankWorld

namespace WorldInv

variable {w : TankWorld}

section

variable (h : WorldInv playerIds maxFrames mapWidth mapHeight w)
include h

theorem moveTank {tank : TankState}
    (ht : tank ∈ w.tanks) {dx dy : ℤ} (hvalid : w.validateMove tank dx dy = true) :
    WorldInv playerIds maxFrames mapWidth mapHeight (w.moveTank tank.userId dx dy) := by
  obtain ⟨hmap, hwall, hfree⟩ := TankWorld.validateMove_free hvalid
  rw [TankWorld.inBounds_iff, h.mapWidth_eq, h.mapHeight_eq] at hmap
  rw [TankWorld.isWallAt_eq_false, h.walls_eq] at hwall
  have hone {t : TankState} (hmem : t ∈ w.tanks) (hid : t.userId = tank.userId) : t = tank :=
    eq_of_atMostOne (h.tanks.atMostOne tank.userId) hmem ht (decide_eq_true hid) (by simp)
  refine { h with tanks := ?_ }
  refine h.tanks.updateFirst tank.userId (fun _ => rfl) (fun _ => ⟨rfl, rfl, rfl, rfl, rfl⟩)
    ?_ ?_ ?_
  · intro t hmem hid
    obtain rfl := hone hmem hid
    exact ⟨hmap, hwall⟩
  · exact fun t hmem _ => (h.tanks.tank t hmem).cooldown
  · intro t hmem hid u hu huid _ halive
    obtain rfl := hone hmem hid
    exact (TankWorld.ne_of_isTankAt_eq_false hfree hu halive huid).symm

theorem fireBullet {tank : TankState} (ht : tank ∈ w.tanks) (d : Direction) :
    WorldInv playerIds maxFrames mapWidth mapHeight (w.fireBullet tank.userId tank d) := by
  refine { h with tanks := ?_, bullets := ?_, bulletIds := ?_ }
  · have hcooldown : (0 : ℤ) ≤ kFireCooldownTicks := by decide
    refine h.tanks.updateFirst tank.userId (fun _ => rfl) (fun _ => ⟨rfl, rfl, rfl, rfl, rfl⟩)
      (fun t hmem _ => (h.tanks.tank t hmem).pos) (fun _ _ _ => ⟨hcooldown, le_refl _⟩) ?_
    intro t hmem hid u hu huid hta hua
    have hne : t.pos ≠ u.pos := h.tanks.pos_ne hmem hu (fun heq => huid (heq ▸ hid)) hta hua
    exact hne
  · refine List.forall_mem_append.mpr ⟨h.bullets, List.forall_mem_singleton.mpr ?_⟩
    refine ⟨?_, ⟨d, rfl⟩, fun _ => (h.tanks.tank tank ht).pos.onMap_add d⟩
    rw [← h.tanks.userIds]
    exact List.mem_map_of_mem ht
  · obtain ⟨hids, hnext⟩ := h.bulletIds
    refine ⟨?_, ?_⟩
    · simp only [TankWorld.fireBullet, TankWorld.updateTank, List.map_append, hids, List.map_cons,
        List.map_nil, List.length_append, List.length_singleton, List.range'_concat, hnext]
      simp [Nat.add_comm]
    · simp [TankWorld.fireBullet, TankWorld.updateTank, hnext]

theorem applyAction (userId : String) (action : InputAction) :
    WorldInv playerIds maxFrames mapWidth mapHeight (w.applyAction userId action).1 := by
  obtain hsame | ⟨tank, ht, rfl, -, ⟨dx, dy, hvalid, hmove⟩ | ⟨d, -, hfire⟩⟩ :=
    w.applyAction_cases userId action
  · rw [hsame]
    exact h
  · rw [hmove]
    exact h.moveTank ht hvalid
  · rw [hfire]
    exact h.fireBullet ht d

/-- The bullets after some frames. -/
theorem flown {k : ℤ}
    {bullets : List BulletState} (hflown : List.Forall₂ (Flown k) w.bullets bullets)
    (hmap : ∀ b ∈ bullets, b.active = true → OnMap mapWidth mapHeight b.pos) :
    WorldInv playerIds maxFrames mapWidth mapHeight { w with bullets } := by
  refine { h with bullets := fun b' hb' => ?_, bulletIds := ?_ }
  · obtain ⟨b, hb, hbb'⟩ := exists_of_mem_right hflown hb'
    have hinv := h.bullets b hb
    refine ⟨?_, ?_, hmap b' hb'⟩
    · rw [hbb'.owner]
      exact hinv.owner
    · rw [hbb'.delta]
      exact hinv.delta
  · rw [Flown.map_eq (·.id) (fun _ _ hbb' => hbb'.id) hflown, ← hflown.length_eq]
    exact h.bulletIds

theorem checkCollisions : WorldInv playerIds maxFrames mapWidth mapHeight w.checkCollisions := by
  have hflown := flown_collideAll w.currentFrame w.bullets w.tanks
  have hbullets := h.flown hflown fun b' hb' hactive => by
    obtain ⟨b, hb, hbb'⟩ := exists_of_mem_right hflown hb'
    obtain ⟨hactive, hpos⟩ := hbb'.active hactive
    rw [hpos, zero_mul, zero_mul, add_zero, add_zero]
    exact (h.bullets b hb).onMap hactive
  exact { hbullets with
    tanks := h.tanks.collideAll w.currentFrame fun b hb => (h.bullets b hb).owner }

theorem moveBullets : WorldInv playerIds maxFrames mapWidth mapHeight w.moveBullets := by
  have hflown : List.Forall₂ (Flown 1) w.bullets (w.bullets.map w.moveBullet) :=
    List.forall₂_map_right_iff.mpr (List.forall₂_same.mpr fun b _ => w.flown_moveBullet b)
  have hbullets := h.flown hflown fun b' hb' hactive => by
    obtain ⟨b, -, rfl⟩ := List.mem_map.mp hb'
    rw [← h.mapWidth_eq, ← h.mapHeight_eq, ← TankWorld.inBounds_iff]
    exact TankWorld.inBounds_moveBullet hactive
  exact { hbullets with }

theorem coolDown : WorldInv playerIds maxFrames mapWidth mapHeight w.coolDown := by
  refine { h with tanks := ?_ }
  refine h.tanks.map (fun t => ?_) (fun t => ?_) (fun t ht => ?_) (fun t ht => ?_) ?_
  · split_ifs <;> rfl
  · split_ifs <;> exact ⟨rfl, rfl, rfl, rfl, rfl⟩
  · split_ifs <;> exact (h.tanks.tank t ht).pos
  · have hcooldown := (h.tanks.tank t ht).cooldown
    split_ifs
    · dsimp only
      omega
    · exact hcooldown
  · refine h.tanks.apart.imp fun hne hta hua => ?_
    split_ifs <;> exact hne hta hua

/-- Scores are of no account for what `WorldInv` says. -/
theorem scored (bonus : TankState → ℤ) :
    TanksInv (Free mapWidth mapHeight) (playerIds.take 4)
      (w.tanks.map fun t => TankWorld.scored t (bonus t)) :=
  h.tanks.map (fun _ => rfl) (fun _ => ⟨rfl, rfl, rfl, rfl, rfl⟩)
    (fun t ht => (h.tanks.tank t ht).pos) (fun t ht => (h.tanks.tank t ht).cooldown) h.tanks.apart

theorem checkFinishCondition :
    WorldInv playerIds maxFrames mapWidth mapHeight w.checkFinishCondition := by
  unfold TankWorld.checkFinishCondition
  split_ifs
  · exact { h with tanks := h.scored _ }
  · exact { h with tanks := h.scored _ }
  · exact h

theorem applyInputs
    (inputs : List PlayerInput) :
    WorldInv playerIds maxFrames mapWidth mapHeight (w.applyInputs inputs) :=
  TankWorld.applyInputs_induct (fun hw userId action => hw.applyAction userId action) h inputs

theorem advance
    (inputs : List PlayerInput) :
    WorldInv playerIds maxFrames mapWidth mapHeight (w.advance inputs) := by
  have hstart : WorldInv playerIds maxFrames mapWidth mapHeight
      { w with currentFrame := w.currentFrame + 1, pendingEvents := [] } := { h with }
  exact (hstart.applyInputs inputs).moveBullets.checkCollisions.coolDown

theorem tick (inputs : List PlayerInput) :
    WorldInv playerIds maxFrames mapWidth mapHeight (w.tick inputs).1 := by
  cases hfinished : w.finished with
  | true =>
    rw [TankWorld.tick_of_finished hfinished]
    exact h
  | false =>
    rw [TankWorld.tick_of_running hfinished]
    exact { (h.advance inputs).checkFinishCondition with }

end

theorem init (hwidth : 6 ≤ mapWidth) (hheight : 6 ≤ mapHeight)
    (hnodup : (playerIds.take 4).Nodup) (w : TankWorld) :
    WorldInv playerIds maxFrames mapWidth mapHeight
      (w.init playerIds maxFrames mapWidth mapHeight) :=
  ⟨rfl, rfl, rfl, rfl, tanksInv_assignSpawnPoints hwidth hheight hnodup, List.forall_mem_nil _,
    rfl, rfl⟩

end WorldInv

namespace TankWorld

variable {w : TankWorld}

theorem Reaches.worldInv (hwidth : 6 ≤ mapWidth) (hheight : 6 ≤ mapHeight)
    (hnodup : (playerIds.take 4).Nodup) (h : Reaches playerIds maxFrames mapWidth mapHeight w) :
    WorldInv playerIds maxFrames mapWidth mapHeight w := by
  refine BoostGateway.Reaches.invariant h ?_ ?_
  · rintro w rfl
    exact .init hwidth hheight hnodup {}
  · rintro w (⟨userId, action⟩ | ⟨inputs⟩) w' hw - hs
    · obtain rfl := Option.some_inj.mp hs
      exact hw.applyAction userId action
    · obtain rfl := Option.some_inj.mp hs
      exact hw.tick inputs

/-- In a game of different players there are as many tanks as there are players, at most four. A tank
is on the map and not in a wall, and alone on its field while it is alive, which it is as long as it
has hit points. It loses them in portions of `kBulletDamage`, each of which another tank dealt, as
each kill is the death of another. The bullets are numbered as they were fired, belong to players,
and those in flight are on the map. -/
theorem reaches_inv (hwidth : 6 ≤ mapWidth) (hheight : 6 ≤ mapHeight)
    (hnodup : (playerIds.take 4).Nodup) (h : Reaches playerIds maxFrames mapWidth mapHeight w) :
    w.tanks.map (·.userId) = playerIds.take 4 ∧
    (∀ t ∈ w.tanks, w.inBounds t.pos = true ∧ w.isWallAt t.pos = false ∧
      (t.alive = true → w.isTankAt t.pos t.userId = false) ∧
      (∃ hits : ℕ, t.hp = kInitialHp - kBulletDamage * hits) ∧ 0 ≤ t.hp ∧
      (t.alive = true ↔ 0 < t.hp) ∧ (t.deaths = if t.alive then 0 else 1) ∧
      0 ≤ t.fireCooldownRemaining ∧ t.fireCooldownRemaining ≤ kFireCooldownTicks) ∧
    (w.tanks.map (·.damageDealt)).sum = (w.tanks.map fun t => kInitialHp - t.hp).sum ∧
    (w.tanks.map (·.kills)).sum = (w.tanks.map (·.deaths)).sum ∧
    w.bullets.map (·.id) = List.range' 1 w.bullets.length ∧
    ∀ b ∈ w.bullets, b.ownerUserId ∈ playerIds.take 4 ∧
      (b.active = true → w.inBounds b.pos = true) := by
  have hw := h.worldInv hwidth hheight hnodup
  refine ⟨hw.tanks.userIds, fun t ht => ?_, hw.tanks.damage, hw.tanks.kills, hw.bulletIds.1,
    fun b hb => ⟨(hw.bullets b hb).owner, fun hactive => ?_⟩⟩
  · have htank := hw.tanks.tank t ht
    refine ⟨?_, ?_, fun halive => ?_, htank.hp, htank.hp_nonneg, htank.alive, htank.deaths,
      htank.cooldown.1, htank.cooldown.2⟩
    · rw [inBounds_iff, hw.mapWidth_eq, hw.mapHeight_eq]
      exact htank.pos.1
    · rw [isWallAt_eq_false, hw.walls_eq]
      exact htank.pos.2
    · refine List.any_eq_false.mpr fun u hu hat => ?_
      simp only [Bool.and_eq_true, bne_iff_ne, ne_eq, beq_iff_eq] at hat
      obtain ⟨⟨hualive, hid⟩, hpos⟩ := hat
      exact hw.tanks.pos_ne ht hu (fun heq => hid (heq ▸ rfl)) halive hualive hpos.symm
  · rw [inBounds_iff, hw.mapWidth_eq, hw.mapHeight_eq]
    exact (hw.bullets b hb).onMap hactive

/-- One of two players fires in every frame. -/
def duel (frames : ℕ) : List WorldAction :=
  List.replicate frames (.tick [{ userId := "alice", actions := [.fire 90] }])

/-- The fourth bullet that hits destroys the other tank. -/
theorem reaches_inv_duel : ∃ w : TankWorld, Reaches ["alice", "bob"] 0 kMapWidth kMapHeight w ∧
    w.tanks.map (·.hp) = [100, 0] ∧ (w.tanks.map (·.damageDealt)).sum = 100 ∧
    (w.tanks.map (·.kills)).sum = 1 ∧ w.bullets.map (·.id) = List.range' 1 w.bullets.length := by
  obtain ⟨w, hw, hhp, hdeaths⟩ : ∃ w : TankWorld,
      Reaches ["alice", "bob"] 0 kMapWidth kMapHeight w ∧ w.tanks.map (·.hp) = [100, 0] ∧
      (w.tanks.map (·.deaths)).sum = 1 :=
    BoostGateway.Reaches.exists_runWith (.init rfl) (duel 23) (by decide +kernel)
  obtain ⟨-, -, hdamage, hkills, hids, -⟩ :=
    reaches_inv (by decide) (by decide) (by decide) hw
  refine ⟨w, hw, hhp, ?_, hkills.trans hdeaths, hids⟩
  have hlost : (w.tanks.map fun t => kInitialHp - t.hp) =
      (w.tanks.map (·.hp)).map (kInitialHp - ·) := (List.map_map ..).symm
  rw [hdamage, hlost, hhp]
  rfl

end TankWorld

end

end BoostGateway.Tank
