import BoostGateway.Tank.Settlement

/-!
# Shots

From frame to frame a bullet in flight advances by one field (`Flown`), and the cooldown of a tank
falls by one at most. So bullets leave the map (`TankWorld.flights`), and no player fires more than
once in `kFireCooldownTicks` frames.
-/

namespace BoostGateway.Tank

namespace TankWorld

/-- The shots of a player till now. -/
def shotsOf (w : TankWorld) (userId : String) : ℤ := w.bullets.countP (·.ownerUserId = userId)

/-- A later world, where bullets had `flight` turns to move and cooldowns `cool` turns to fall. -/
structure Later (flight cool : ℤ) (w w' : TankWorld) : Prop where
  bullets : ∀ (i : ℕ) (b : BulletState), w.bullets[i]? = some b →
    ∃ b', w'.bullets[i]? = some b' ∧ Flown flight b b'
  tanks : List.Forall₂ (fun t t' => t'.userId = t.userId ∧
    kFireCooldownTicks * w'.shotsOf t.userId + t.fireCooldownRemaining ≤
      kFireCooldownTicks * w.shotsOf t.userId + cool + t'.fireCooldownRemaining) w.tanks w'.tanks

variable {w w' : TankWorld} {flight cool : ℤ}

theorem Later.refl (w : TankWorld) : Later 0 0 w w :=
  ⟨fun _ b hb => ⟨b, hb, .refl b⟩, List.forall₂_same.mpr fun t _ => ⟨rfl, by omega⟩⟩

theorem Later.trans {flight' cool' : ℤ} {w'' : TankWorld} (h : Later flight cool w w')
    (h' : Later flight' cool' w' w'') : Later (flight + flight') (cool + cool') w w'' := by
  refine ⟨fun i b hb => ?_, ?_⟩
  · obtain ⟨b', hb', hflown⟩ := h.bullets i b hb
    obtain ⟨b'', hb'', hflown'⟩ := h'.bullets i b' hb'
    exact ⟨b'', hb'', hflown.trans hflown'⟩
  · refine (List.forall₂_iff_get.mpr ⟨h.tanks.length_eq.trans h'.tanks.length_eq, ?_⟩)
    intro i hi hi''
    have hi' : i < w'.tanks.length := h.tanks.length_eq ▸ hi
    obtain ⟨hid, hle⟩ := (List.forall₂_iff_get.mp h.tanks).2 i hi hi'
    obtain ⟨hid', hle'⟩ := (List.forall₂_iff_get.mp h'.tanks).2 i hi' hi''
    refine ⟨hid'.trans hid, ?_⟩
    rw [hid] at hle'
    omega

theorem shotsOf_eq {k : ℤ} (h : List.Forall₂ (Flown k) w.bullets w'.bullets) (userId : String) :
    w'.shotsOf userId = w.shotsOf userId := by
  have howners := Flown.map_eq (·.ownerUserId) (fun _ _ hflown => hflown.owner) h
  have hcount (w : TankWorld) :
      w.shotsOf userId = (w.bullets.map (·.ownerUserId)).countP (· = userId) := by
    rw [List.countP_map]
    rfl
  rw [hcount, howners, ← hcount]

/-- No bullet is new. -/
theorem later_of_flown (hbullets : List.Forall₂ (Flown flight) w.bullets w'.bullets)
    (htanks : List.Forall₂ (fun t t' => t'.userId = t.userId ∧
      t.fireCooldownRemaining ≤ cool + t'.fireCooldownRemaining) w.tanks w'.tanks) :
    Later flight cool w w' := by
  refine ⟨fun i b hb => ?_, htanks.imp fun t t' ht => ⟨ht.1, ?_⟩⟩
  · obtain ⟨hi, rfl⟩ := List.getElem?_eq_some_iff.mp hb
    have hi' : i < w'.bullets.length := hbullets.length_eq ▸ hi
    exact ⟨_, List.getElem?_eq_getElem hi', (List.forall₂_iff_get.mp hbullets).2 i hi hi'⟩
  · rw [shotsOf_eq hbullets]
    have hle := ht.2
    omega

theorem flown_refl (bullets : List BulletState) : List.Forall₂ (Flown 0) bullets bullets :=
  List.forall₂_same.mpr fun b _ => .refl b

theorem later_moveBullets (w : TankWorld) : Later 1 0 w w.moveBullets :=
  later_of_flown
    (List.forall₂_map_right_iff.mpr (List.forall₂_same.mpr fun b _ => w.flown_moveBullet b))
    (List.forall₂_same.mpr fun _ _ => ⟨rfl, (zero_add _).ge⟩)

theorem cooldown_hit (t : TankState) :
    (t.hit.userId, t.hit.fireCooldownRemaining) = (t.userId, t.fireCooldownRemaining) := by
  unfold TankState.hit
  dsimp only
  split_ifs <;> rfl

theorem later_checkCollisions (w : TankWorld) : Later 0 0 w w.checkCollisions := by
  refine later_of_flown (flown_collideAll _ _ _) ?_
  have hmap := map_collideAll (g := fun t => (t.userId, t.fireCooldownRemaining)) cooldown_hit
    (fun _ _ => rfl) w.currentFrame w.bullets w.tanks
  rw [← List.forall₂_eq_eq_eq, List.forall₂_map_left_iff, List.forall₂_map_right_iff] at hmap
  refine hmap.flip.imp fun t t' heq => ?_
  obtain ⟨hid, hcooldown⟩ := Prod.mk.inj heq
  exact ⟨hid, by omega⟩

theorem later_coolDown (w : TankWorld) : Later 0 1 w w.coolDown := by
  refine later_of_flown (flown_refl _) ?_
  refine List.forall₂_map_right_iff.mpr (List.forall₂_same.mpr fun t _ => ?_)
  split_ifs
  · exact ⟨rfl, by dsimp only; omega⟩
  · exact ⟨rfl, by omega⟩

theorem later_moveTank {playerIds : List String} {maxFrames mapWidth mapHeight : ℤ}
    (hw : WorldInv playerIds maxFrames mapWidth mapHeight w) (userId : String) (dx dy : ℤ) :
    Later 0 0 w (w.moveTank userId dx dy) := by
  refine later_of_flown (flown_refl _) ?_
  rw [moveTank, updateTank, updateFirst_eq_map (hw.tanks.atMostOne userId)]
  refine List.forall₂_map_right_iff.mpr (List.forall₂_same.mpr fun t _ => ?_)
  split_ifs
  · exact ⟨rfl, (zero_add _).ge⟩
  · exact ⟨rfl, (zero_add _).ge⟩

/-- A shot counts as many frames as the cooldown rises. -/
theorem later_fireBullet {playerIds : List String} {maxFrames mapWidth mapHeight : ℤ}
    (hw : WorldInv playerIds maxFrames mapWidth mapHeight w) {tank : TankState}
    (ht : tank ∈ w.tanks) (hcooldown : tank.fireCooldownRemaining ≤ 0) (d : Direction) :
    Later 0 0 w (w.fireBullet tank.userId tank d) := by
  have hshots (userId : String) : (w.fireBullet tank.userId tank d).shotsOf userId =
      w.shotsOf userId + if tank.userId = userId then 1 else 0 := by
    simp only [shotsOf, fireBullet, updateTank, List.countP_append, List.countP_singleton,
      decide_eq_true_eq]
    split_ifs <;> rfl
  refine ⟨fun i b hb => ⟨b, ?_, .refl b⟩, ?_⟩
  · obtain ⟨hi, -⟩ := List.getElem?_eq_some_iff.mp hb
    exact (List.getElem?_append_left hi).trans hb
  · simp only [hshots]
    rw [fireBullet, updateTank, updateFirst_eq_map (hw.tanks.atMostOne tank.userId)]
    refine List.forall₂_map_right_iff.mpr (List.forall₂_same.mpr fun t hmem => ?_)
    simp only [decide_eq_true_eq]
    split_ifs with hid hid' hid'
    · refine ⟨rfl, ?_⟩
      obtain rfl := eq_of_atMostOne (hw.tanks.atMostOne tank.userId) hmem ht
        (decide_eq_true hid) (by simp)
      dsimp only
      rw [mul_add, mul_one]
      omega
    · exact absurd hid.symm hid'
    · exact absurd hid'.symm hid
    · refine ⟨rfl, ?_⟩
      rw [add_zero]
      omega

variable {playerIds : List String} {maxFrames mapWidth mapHeight : ℤ}

theorem later_applyAction (hw : WorldInv playerIds maxFrames mapWidth mapHeight w)
    (userId : String) (action : InputAction) : Later 0 0 w (w.applyAction userId action).1 := by
  obtain hsame | ⟨tank, ht, rfl, -, ⟨dx, dy, -, hmove⟩ | ⟨d, hcooldown, hfire⟩⟩ :=
    w.applyAction_cases userId action
  · rw [hsame]
    exact .refl w
  · rw [hmove]
    exact later_moveTank hw tank.userId dx dy
  · rw [hfire]
    exact later_fireBullet hw ht hcooldown d

theorem later_advance (hw : WorldInv playerIds maxFrames mapWidth mapHeight w)
    (inputs : List PlayerInput) : Later 1 1 w (w.advance inputs) := by
  have hstart : WorldInv playerIds maxFrames mapWidth mapHeight
      { w with currentFrame := w.currentFrame + 1, pendingEvents := [] } := { hw with }
  have hlater : Later 0 0 w { w with currentFrame := w.currentFrame + 1, pendingEvents := [] } :=
    ⟨(Later.refl w).bullets, (Later.refl w).tanks⟩
  obtain ⟨-, hinputs⟩ := applyInputs_induct (P := fun w₁ =>
      WorldInv playerIds maxFrames mapWidth mapHeight w₁ ∧ Later 0 0 w w₁)
    (fun h userId action =>
      ⟨h.1.applyAction userId action, h.2.trans (later_applyAction h.1 userId action)⟩)
    ⟨hstart, hlater⟩ inputs
  exact ((hinputs.trans (later_moveBullets _)).trans (later_checkCollisions _)).trans
    (later_coolDown _)

theorem later_checkFinishCondition (w : TankWorld) : Later 0 0 w w.checkFinishCondition := by
  have hscored (bonus : TankState → ℤ) :
      List.Forall₂ (fun t t' => t'.userId = t.userId ∧
        t.fireCooldownRemaining ≤ 0 + t'.fireCooldownRemaining) w.tanks
        (w.tanks.map fun t => scored t (bonus t)) :=
    List.forall₂_map_right_iff.mpr (List.forall₂_same.mpr fun _ _ => ⟨rfl, (zero_add _).ge⟩)
  unfold checkFinishCondition
  split_ifs
  · exact later_of_flown (flown_refl _) (hscored _)
  · exact later_of_flown (flown_refl _) (hscored _)
  · exact .refl w

/-- Till the end of a game a tick is a frame. -/
theorem later_tick (hw : WorldInv playerIds maxFrames mapWidth mapHeight w)
    (inputs : List PlayerInput) :
    ∃ frames : ℕ, (w.tick inputs).1.currentFrame = w.currentFrame + frames ∧
      Later frames frames w (w.tick inputs).1 := by
  cases hfinished : w.finished with
  | true =>
    rw [tick_of_finished hfinished]
    exact ⟨0, (add_zero _).symm, .refl w⟩
  | false =>
    rw [tick_of_running hfinished]
    refine ⟨1, ?_, ?_⟩
    · refine Eq.trans ?_ (w.advance_frame inputs).2.1
      unfold checkFinishCondition
      split_ifs <;> rfl
    · have hfinish := (later_advance hw inputs).trans (later_checkFinishCondition _)
      exact ⟨hfinish.bullets, hfinish.tanks⟩

/-- Over a run the frames are counted by `currentFrame`. -/
theorem later_of_run (hw : WorldInv playerIds maxFrames mapWidth mapHeight w)
    (hrun : BoostGateway.Reaches (· = w) step (fun _ _ => True) w') :
    WorldInv playerIds maxFrames mapWidth mapHeight w' ∧
      ∃ frames : ℕ, w'.currentFrame = w.currentFrame + frames ∧ Later frames frames w w' := by
  refine BoostGateway.Reaches.invariant (P := fun w' =>
    WorldInv playerIds maxFrames mapWidth mapHeight w' ∧
      ∃ frames : ℕ, w'.currentFrame = w.currentFrame + frames ∧ Later frames frames w w')
    hrun ?_ ?_
  · rintro w' rfl
    exact ⟨hw, 0, (add_zero _).symm, .refl w'⟩
  · rintro w₁ (⟨userId, action⟩ | ⟨inputs⟩) w₂ ⟨hw₁, frames, hframes, hlater⟩ - hs
    · obtain rfl := Option.some_inj.mp hs
      refine ⟨hw₁.applyAction userId action, frames, ?_, ?_⟩
      · rw [(sameFrame_applyAction w₁ userId action).currentFrame, hframes]
      · simpa using hlater.trans (later_applyAction hw₁ userId action)
    · obtain rfl := Option.some_inj.mp hs
      obtain ⟨more, hmore, hlater'⟩ := later_tick hw₁ inputs
      refine ⟨hw₁.tick inputs, frames + more, ?_, ?_⟩
      · rw [hmore, hframes]
        push_cast
        ring
      · have htrans := hlater.trans hlater'
        push_cast
        exact htrans

/-- A bullet that is on the map before and after its flight did not fly further than the map is
wide or high. -/
theorem lt_max_of_flown {b b' : BulletState} {frames : ℤ}
    (hb : BulletInv (playerIds.take 4) mapWidth mapHeight b)
    (hb' : BulletInv (playerIds.take 4) mapWidth mapHeight b') (hflown : Flown frames b b')
    (hactive : b'.active = true) : frames < max mapWidth mapHeight := by
  obtain ⟨hbefore, hpos⟩ := hflown.active hactive
  have hmap := hb.onMap hbefore
  have hmap' := hb'.onMap hactive
  obtain ⟨d, hdelta⟩ := hb.delta
  rw [hpos, hdelta] at hmap'
  rw [lt_max_iff]
  cases d <;> simp only [Direction.delta, OnMap] at hmap hmap' <;> omega

theorem shotsOf_eq_zero (hw : WorldInv playerIds maxFrames mapWidth mapHeight w) {userId : String}
    (h : userId ∉ playerIds.take 4) : w.shotsOf userId = 0 := by
  have hnone : w.bullets.countP (·.ownerUserId = userId) = 0 := by
    refine List.countP_eq_zero.mpr fun b hb howner => h ?_
    rw [← of_decide_eq_true howner]
    exact (hw.bullets b hb).owner
  rw [shotsOf, hnone, Nat.cast_zero]

/-- A bullet in flight is, as many frames later, as many fields further in its direction, and is gone
when the frames are those of the longer side of the map. Nobody fires more often than every third
frame. -/
theorem flights (hwidth : 6 ≤ mapWidth) (hheight : 6 ≤ mapHeight)
    (hnodup : (playerIds.take 4).Nodup) (h : Reaches playerIds maxFrames mapWidth mapHeight w)
    (hrun : BoostGateway.Reaches (· = w) step (fun _ _ => True) w') :
    ∃ frames : ℕ, w'.currentFrame = w.currentFrame + frames ∧
      (∀ (i : ℕ) (b : BulletState), w.bullets[i]? = some b → ∃ b', w'.bullets[i]? = some b' ∧
        b'.id = b.id ∧ b'.ownerUserId = b.ownerUserId ∧
        (b'.active = true → b.active = true ∧ frames < max mapWidth mapHeight ∧
          b'.pos = ⟨b.pos.x + frames * b.delta.x, b.pos.y + frames * b.delta.y⟩)) ∧
      ∀ userId, kFireCooldownTicks * (w'.shotsOf userId - w.shotsOf userId) ≤
        frames + kFireCooldownTicks := by
  have hw := h.worldInv hwidth hheight hnodup
  obtain ⟨hw', frames, hframes, hlater⟩ := later_of_run hw hrun
  refine ⟨frames, hframes, fun i b hb => ?_, fun userId => ?_⟩
  · obtain ⟨b', hb', hflown⟩ := hlater.bullets i b hb
    refine ⟨b', hb', hflown.id, hflown.owner, fun hactive => ?_⟩
    obtain ⟨hbefore, hpos⟩ := hflown.active hactive
    exact ⟨hbefore, lt_max_of_flown (hw.bullets b (List.mem_of_getElem? hb))
      (hw'.bullets b' (List.mem_of_getElem? hb')) hflown hactive, hpos⟩
  · by_cases hplayer : userId ∈ playerIds.take 4
    · rw [← hw.tanks.userIds] at hplayer
      obtain ⟨t, ht, rfl⟩ := List.mem_map.mp hplayer
      obtain ⟨t', ht', -, hle⟩ := exists_of_mem_right hlater.tanks.flip ht
      have hcooldown := (hw.tanks.tank t ht).cooldown.1
      have hcooldown' := (hw'.tanks.tank t' ht').cooldown.2
      rw [mul_sub]
      omega
    · rw [shotsOf_eq_zero hw hplayer, shotsOf_eq_zero hw' hplayer, sub_zero, mul_zero]
      exact add_nonneg (Nat.cast_nonneg _) (by decide)

/-- In the eight frames after its first shot the tank fires twice. -/
theorem flights_duel : ∃ w w' : TankWorld, Reaches ["alice", "bob"] 0 kMapWidth kMapHeight w ∧
    BoostGateway.Reaches (· = w) step (fun _ _ => True) w' ∧
    w'.currentFrame = w.currentFrame + 8 ∧ w.bullets.map (·.pos) = [⟨4, 2⟩] ∧
    w'.bullets.map (·.pos) = [⟨12, 2⟩, ⟨9, 2⟩, ⟨6, 2⟩] ∧
    kFireCooldownTicks * (w'.shotsOf "alice" - w.shotsOf "alice") ≤ 8 + kFireCooldownTicks := by
  let w : TankWorld := (((({} : TankWorld).init ["alice", "bob"] 0 kMapWidth kMapHeight).tick
    [{ userId := "alice", actions := [.fire 90] }]).1)
  have hw : Reaches ["alice", "bob"] 0 kMapWidth kMapHeight w :=
    .step (a := .tick [{ userId := "alice", actions := [.fire 90] }]) (.init rfl) trivial rfl
  obtain ⟨w', hrun, hframe, hpos⟩ : ∃ w' : TankWorld,
      BoostGateway.Reaches (· = w) step (fun _ _ => True) w' ∧
      w'.currentFrame = w.currentFrame + 8 ∧
      w'.bullets.map (·.pos) = [⟨12, 2⟩, ⟨9, 2⟩, ⟨6, 2⟩] :=
    BoostGateway.Reaches.exists_runWith (.init rfl) (duel 8) (by decide +kernel)
  obtain ⟨frames, hframes, -, hshots⟩ := flights (by decide) (by decide) (by decide) hw hrun
  have height : (frames : ℤ) = 8 := by omega
  exact ⟨w, w', hw, hrun, hframe, by decide +kernel, hpos, height ▸ hshots "alice"⟩

end TankWorld

end BoostGateway.Tank
