import BoostGateway.Tank.Games

/-!
# The end of a tank game

A game ends in the frame in which less than two of the tanks are left, or in the last frame
(`checkFinishCondition`), and not otherwise; the scores are written once. What happens to a world
after its end leaves its settlement as it is (`TankWorld.settlement_final`).
-/

namespace BoostGateway.Tank

/-- The tank without what moving and firing change. -/
def TankState.standing (t : TankState) : TankState :=
  { t with pos := {}, direction := .kUp, fireCooldownRemaining := 0 }

namespace TankWorld

variable {w w' : TankWorld}

/-- Two worlds of which one can follow the other without a frame between them. -/
structure SameFrame (w w' : TankWorld) : Prop where
  finished : w'.finished = w.finished
  currentFrame : w'.currentFrame = w.currentFrame
  maxFrames : w'.maxFrames = w.maxFrames
  snapshot : w'.snapshot = w.snapshot
  standings : w'.tanks.map TankState.standing = w.tanks.map TankState.standing

theorem SameFrame.refl (w : TankWorld) : SameFrame w w := ⟨rfl, rfl, rfl, rfl, rfl⟩

theorem SameFrame.trans {w₁ w₂ w₃ : TankWorld} (h₁ : SameFrame w₁ w₂) (h₂ : SameFrame w₂ w₃) :
    SameFrame w₁ w₃ :=
  ⟨h₂.finished.trans h₁.finished, h₂.currentFrame.trans h₁.currentFrame,
    h₂.maxFrames.trans h₁.maxFrames, h₂.snapshot.trans h₁.snapshot,
    h₂.standings.trans h₁.standings⟩

theorem sameFrame_applyAction (w : TankWorld) (userId : String) (action : InputAction) :
    SameFrame w (w.applyAction userId action).1 := by
  obtain hsame | ⟨tank, -, -, -, ⟨dx, dy, -, hmove⟩ | ⟨d, -, hfire⟩⟩ :=
    w.applyAction_cases userId action
  · rw [hsame]
    exact .refl w
  · rw [hmove]
    refine ⟨rfl, rfl, rfl, rfl, ?_⟩
    apply map_updateFirst
    exact fun _ => rfl
  · rw [hfire]
    refine ⟨rfl, rfl, rfl, rfl, ?_⟩
    apply map_updateFirst
    exact fun _ => rfl

/-- What does not depend on the places is the same. -/
theorem SameFrame.map_eq (h : SameFrame w w') {β : Type*} {g : TankState → β}
    (hg : ∀ t, g t.standing = g t) : w'.tanks.map g = w.tanks.map g := by
  have hmap (tanks : List TankState) : tanks.map g = (tanks.map TankState.standing).map g := by
    rw [List.map_map]
    exact List.map_congr_left fun t _ => (hg t).symm
  rw [hmap, h.standings, ← hmap]

theorem SameFrame.buildSettlement (h : SameFrame w w') :
    w'.buildSettlement = w.buildSettlement := by
  rw [TankWorld.buildSettlement, TankWorld.buildSettlement, h.snapshot, h.currentFrame]
  congr 1
  exact h.map_eq fun _ => rfl

/-! ## The winner -/

/-- The kills and then the damage decide. -/
def rank (t : TankState) : ℤ ×ₗ ℤ := toLex (t.kills, t.damageDealt)

/-- The player who is first among the best. -/
def IsBest (tanks : List TankState) (winner : String) : Prop :=
  ∃ before t after, tanks = before ++ t :: after ∧ t.userId = winner ∧
    (∀ u ∈ before, rank u < rank t) ∧ ∀ u ∈ after, rank u ≤ rank t

theorem bestPlayer_cases (tanks : List TankState) (best : ℤ × ℤ × String) :
    let after := tanks.foldl (fun (best : ℤ × ℤ × String) t =>
      if best.1 < t.kills ∨ t.kills = best.1 ∧ best.2.1 < t.damageDealt then
        (t.kills, t.damageDealt, t.userId)
      else best) best
    (after = best ∧ ∀ u ∈ tanks, rank u ≤ toLex (best.1, best.2.1)) ∨
    (∃ before t rest, tanks = before ++ t :: rest ∧ after = (t.kills, t.damageDealt, t.userId) ∧
      toLex (best.1, best.2.1) < rank t ∧ (∀ u ∈ before, rank u < rank t) ∧
      ∀ u ∈ rest, rank u ≤ rank t) := by
  induction tanks generalizing best with
  | nil => exact .inl ⟨rfl, List.forall_mem_nil _⟩
  | cons t tanks ih =>
    have hlt : toLex (best.1, best.2.1) < rank t ↔
        best.1 < t.kills ∨ t.kills = best.1 ∧ best.2.1 < t.damageDealt := by
      rw [rank, Prod.Lex.toLex_lt_toLex, eq_comm]
    rw [List.foldl_cons]
    split_ifs with hbetter
    · rw [← hlt] at hbetter
      refine .inr ?_
      obtain ⟨hafter, hle⟩ | ⟨before, u, rest, rfl, hafter, hu, hbefore, hrest⟩ :=
        ih (t.kills, t.damageDealt, t.userId)
      · exact ⟨[], t, tanks, rfl, hafter, hbetter, List.forall_mem_nil _, hle⟩
      · exact ⟨t :: before, u, rest, rfl, hafter, hbetter.trans hu,
          List.forall_mem_cons.mpr ⟨hu, hbefore⟩, hrest⟩
    · rw [← hlt, not_lt] at hbetter
      obtain ⟨hafter, hle⟩ | ⟨before, u, rest, rfl, hafter, hu, hbefore, hrest⟩ := ih best
      · exact .inl ⟨hafter, List.forall_mem_cons.mpr ⟨hbetter, hle⟩⟩
      · exact .inr ⟨t :: before, u, rest, rfl, hafter, hu,
          List.forall_mem_cons.mpr ⟨hbetter.trans_lt hu, hbefore⟩, hrest⟩

/-- With at least one tank there is a best player. -/
theorem isBest_bestPlayer {tanks : List TankState} (hne : tanks ≠ [])
    (hkills : ∀ t ∈ tanks, 0 ≤ t.kills) (winner : String) :
    IsBest tanks (bestPlayer tanks winner) := by
  obtain ⟨-, hle⟩ | ⟨before, t, rest, htanks, hafter, -, hbefore, hrest⟩ :=
    bestPlayer_cases tanks (-1, -1, winner)
  · obtain ⟨t, ht⟩ := List.exists_mem_of_ne_nil tanks hne
    have hkills := hkills t ht
    have hle := hle t ht
    rw [rank, Prod.Lex.toLex_le_toLex] at hle
    omega
  · exact ⟨before, t, rest, htanks, (congrArg (·.2.2) hafter).symm, hbefore, hrest⟩

/-- Between two frames of a game. -/
structure Running (w : TankWorld) : Prop where
  survivors : 2 ≤ w.tanks.length → 2 ≤ (w.tanks.filter (·.alive)).length
  frames : 0 < w.maxFrames → w.currentFrame < w.maxFrames
  scores : ∀ t ∈ w.tanks, t.score = 0

end TankWorld

/-! ## The settlement -/

/-- The score of a player without the bonus of the end. -/
def PlayerResult.points (p : PlayerResult) : ℤ :=
  p.kills * kKillScore + p.damage * kDamageScorePerHp

namespace Settlement

/-- The settlement of the last tank standing, if one is left. -/
structure LastStanding (s : Settlement) : Prop where
  reason : s.reason = "last_standing"
  players : 2 ≤ s.players.length
  survivor : ∃ p : Option PlayerResult, s.players.filter (·.deaths = 0) = p.toList ∧
    s.winnerUserId = (p.map (·.userId)).getD ""
  scores : ∀ p ∈ s.players,
    p.score = p.points + if p.deaths = 0 then kSurvivalBonus + kWinBonus else 0

/-- The settlement when the time is over. -/
structure TimeLimit (maxFrames : ℤ) (s : Settlement) : Prop where
  reason : s.reason = "time_limit"
  totalFrames : s.totalFrames = maxFrames
  survivors : 2 ≤ s.players.length → 2 ≤ (s.players.filter (·.deaths = 0)).length
  winner : s.players ≠ [] → ∃ before p after, s.players = before ++ p :: after ∧
    p.userId = s.winnerUserId ∧
    (∀ q ∈ before, toLex (q.kills, q.damage) < toLex (p.kills, p.damage)) ∧
    ∀ q ∈ after, toLex (q.kills, q.damage) ≤ toLex (p.kills, p.damage)
  scores : ∀ p ∈ s.players, p.score = p.points + (if p.deaths = 0 then kSurvivalBonus else 0) +
    if p.win then kWinBonus else 0

end Settlement

section

variable {playerIds : List String} {maxFrames mapWidth mapHeight : ℤ} {w : TankWorld}

theorem WorldInv.deaths_eq_zero (h : WorldInv playerIds maxFrames mapWidth mapHeight w)
    {t : TankState} (ht : t ∈ w.tanks) : t.deaths = 0 ↔ t.alive = true := by
  rw [(h.tanks.tank t ht).deaths]
  split_ifs with halive
  · exact iff_of_true rfl halive
  · exact iff_of_false (by decide) halive

/-- The results of the tanks that are left, after a change to the scores. -/
theorem WorldInv.filter_deaths (h : WorldInv playerIds maxFrames mapWidth mapHeight w)
    {f : TankState → PlayerResult} (hf : ∀ t ∈ w.tanks, (f t).deaths = t.deaths) :
    (w.tanks.map f).filter (·.deaths = 0) = (w.tanks.filter (·.alive)).map f := by
  rw [List.filter_map]
  refine congrArg (List.map f) (List.filter_congr fun t ht => ?_)
  rw [Function.comp_apply, hf t ht, Bool.eq_iff_iff, decide_eq_true_iff]
  exact h.deaths_eq_zero ht

theorem lastStanding_of_finish (h : WorldInv playerIds maxFrames mapWidth mapHeight w)
    (hscores : ∀ t ∈ w.tanks, t.score = 0)
    (hleft : (w.tanks.filter (·.alive)).length ≤ 1 ∧ 2 ≤ w.tanks.length) :
    w.checkFinishCondition.buildSnapshot.buildSettlement.LastStanding := by
  have hplayers : w.checkFinishCondition.buildSnapshot.buildSettlement.players =
      w.tanks.map fun t => (TankWorld.scored t
        (if t.alive then kSurvivalBonus + kWinBonus else 0)).result
          (TankWorld.lastAlive w.tanks) := by
    rw [TankWorld.checkFinishCondition, if_pos hleft]
    exact List.map_map ..
  have hsettlement : w.checkFinishCondition.buildSnapshot.buildSettlement.reason =
        "last_standing" ∧
      w.checkFinishCondition.buildSnapshot.buildSettlement.winnerUserId =
        TankWorld.lastAlive w.tanks := by
    rw [TankWorld.checkFinishCondition, if_pos hleft]
    exact ⟨rfl, rfl⟩
  refine ⟨hsettlement.1, ?_, ?_, ?_⟩
  · rw [hplayers, List.length_map]
    exact hleft.2
  · rw [hsettlement.2, hplayers, h.filter_deaths fun _ _ => rfl, TankWorld.lastAlive]
    have hone := hleft.1
    generalize w.tanks.filter (·.alive) = left at hone ⊢
    obtain _ | ⟨t, _ | ⟨u, rest⟩⟩ := left
    · exact ⟨none, rfl, rfl⟩
    · exact ⟨some _, rfl, rfl⟩
    · exact absurd hone (by simp)
  · rw [hplayers]
    intro p hp
    obtain ⟨t, ht, rfl⟩ := List.mem_map.mp hp
    simp only [TankState.result, TankWorld.scored, PlayerResult.points, hscores t ht, zero_add,
      h.deaths_eq_zero ht]

theorem timeLimit_of_finish (h : WorldInv playerIds maxFrames mapWidth mapHeight w)
    (hscores : ∀ t ∈ w.tanks, t.score = 0) (hframe : w.currentFrame = maxFrames)
    (hleft : ¬((w.tanks.filter (·.alive)).length ≤ 1 ∧ 2 ≤ w.tanks.length))
    (hframes : 0 < w.maxFrames ∧ w.maxFrames ≤ w.currentFrame) :
    w.checkFinishCondition.buildSnapshot.buildSettlement.TimeLimit maxFrames := by
  generalize hwinner : TankWorld.bestPlayer w.tanks w.snapshot.winnerUserId = winner
  have hplayers : w.checkFinishCondition.buildSnapshot.buildSettlement.players =
      w.tanks.map fun t => (TankWorld.scored t ((if t.alive then kSurvivalBonus else 0) +
        if t.userId = winner then kWinBonus else 0)).result winner := by
    rw [TankWorld.checkFinishCondition, if_neg hleft, if_pos hframes, ← hwinner]
    exact List.map_map ..
  have hsettlement : w.checkFinishCondition.buildSnapshot.buildSettlement.reason = "time_limit" ∧
      w.checkFinishCondition.buildSnapshot.buildSettlement.winnerUserId = winner ∧
      w.checkFinishCondition.buildSnapshot.buildSettlement.totalFrames = w.currentFrame := by
    rw [TankWorld.checkFinishCondition, if_neg hleft, if_pos hframes, ← hwinner]
    exact ⟨rfl, rfl, rfl⟩
  refine ⟨hsettlement.1, hsettlement.2.2.trans hframe, fun hplayer => ?_, fun hne => ?_, ?_⟩
  · rw [hplayers, List.length_map] at hplayer
    rw [hplayers, h.filter_deaths fun _ _ => rfl, List.length_map]
    omega
  · rw [hplayers, ne_eq, List.map_eq_nil_iff] at hne
    rw [hsettlement.2.1, hplayers, ← hwinner]
    obtain ⟨before, t, after, htanks, hid, hbefore, hafter⟩ :=
      TankWorld.isBest_bestPlayer hne (fun t ht => (h.tanks.tank t ht).credits.1)
        w.snapshot.winnerUserId
    rw [htanks, List.map_append, List.map_cons, ← htanks]
    refine ⟨_, _, _, rfl, hid, ?_, ?_⟩
    · rw [List.forall_mem_map]
      exact hbefore
    · rw [List.forall_mem_map]
      exact hafter
  · rw [hplayers]
    intro p hp
    obtain ⟨t, ht, rfl⟩ := List.mem_map.mp hp
    simp only [TankState.result, TankWorld.scored, PlayerResult.points, hscores t ht, zero_add,
      h.deaths_eq_zero ht, beq_iff_eq, add_assoc]

/-! ## The games -/

theorem score_hit (t : TankState) : t.hit.score = t.score := by
  unfold TankState.hit
  dsimp only
  split_ifs <;> rfl

theorem scores_eq_zero {tanks tanks' : List TankState}
    (hmap : tanks'.map (·.score) = tanks.map (·.score)) (h : ∀ t ∈ tanks, t.score = 0) :
    ∀ t ∈ tanks', t.score = 0 := by
  intro t' ht'
  have hmem : t'.score ∈ tanks.map (·.score) := hmap ▸ List.mem_map_of_mem ht'
  obtain ⟨t, ht, hscore⟩ := List.mem_map.mp hmem
  rw [← hscore]
  exact h t ht

namespace TankWorld

/-- A frame before its end changes neither the scores nor what is known of the end. -/
theorem advance_frame (w : TankWorld) (inputs : List PlayerInput) :
    (w.advance inputs).finished = w.finished ∧
    (w.advance inputs).currentFrame = w.currentFrame + 1 ∧
    (w.advance inputs).maxFrames = w.maxFrames ∧ (w.advance inputs).snapshot = w.snapshot ∧
    (w.advance inputs).tanks.map (·.score) = w.tanks.map (·.score) := by
  have hsame : SameFrame { w with currentFrame := w.currentFrame + 1, pendingEvents := [] }
      ({ w with currentFrame := w.currentFrame + 1, pendingEvents := [] }.applyInputs inputs) :=
    applyInputs_induct (fun h userId action => h.trans (sameFrame_applyAction _ userId action))
      (.refl _) inputs
  refine ⟨hsame.finished, hsame.currentFrame, hsame.maxFrames, hsame.snapshot, ?_⟩
  have hcool (tanks : List TankState) :
      (tanks.map fun t => if 0 < t.fireCooldownRemaining then
        { t with fireCooldownRemaining := t.fireCooldownRemaining - 1 } else t).map (·.score) =
        tanks.map (·.score) := by
    rw [List.map_map]
    refine List.map_congr_left fun t _ => ?_
    rw [Function.comp_apply]
    split_ifs <;> rfl
  rw [advance, coolDown, hcool]
  exact (map_collideAll score_hit (fun _ _ => rfl) _ _ _).trans (hsame.map_eq fun _ => rfl)

/-- What a game has come to. -/
def Ruled (w : TankWorld) : Prop :=
  (w.finished = false → w.Running) ∧
  (w.finished = true → w.buildSettlement.LastStanding ∨ w.buildSettlement.TimeLimit w.maxFrames)

theorem Running.sameFrame {w' : TankWorld} (h : w.Running) (hsame : SameFrame w w') :
    w'.Running := by
  have halive := hsame.map_eq (g := (·.alive)) fun _ => rfl
  have hcount (tanks : List TankState) :
      (tanks.filter (·.alive)).length = (tanks.map (·.alive)).countP id := by
    rw [List.countP_map, List.countP_eq_length_filter]
    rfl
  refine ⟨?_, ?_, ?_⟩
  · rw [hcount, halive, ← hcount, ← List.length_map (f := (·.alive)), halive, List.length_map]
    exact h.survivors
  · rw [hsame.maxFrames, hsame.currentFrame]
    exact h.frames
  · exact scores_eq_zero (hsame.map_eq fun _ => rfl) h.scores

theorem Ruled.applyAction (h : w.Ruled) (userId : String) (action : InputAction) :
    (w.applyAction userId action).1.Ruled := by
  have hsame := sameFrame_applyAction w userId action
  refine ⟨fun hrunning => (h.1 (hsame.finished ▸ hrunning)).sameFrame hsame, fun hfinished => ?_⟩
  rw [hsame.buildSettlement, hsame.maxFrames]
  exact h.2 (hsame.finished ▸ hfinished)

theorem Ruled.tick (hw : WorldInv playerIds maxFrames mapWidth mapHeight w) (h : w.Ruled)
    (inputs : List PlayerInput) : (w.tick inputs).1.Ruled := by
  cases hfinished : w.finished with
  | true =>
    rw [tick_of_finished hfinished]
    exact h
  | false =>
    rw [tick_of_running hfinished]
    have hrunning := h.1 hfinished
    obtain ⟨hfinish, hframe, hmax, -, hmap⟩ := w.advance_frame inputs
    have hscores := scores_eq_zero hmap hrunning.scores
    have hinv := hw.advance inputs
    generalize w.advance inputs = next at *
    by_cases hleft : (next.tanks.filter (·.alive)).length ≤ 1 ∧ 2 ≤ next.tanks.length
    · have hend := lastStanding_of_finish hinv hscores hleft
      refine ⟨fun hnot => ?_, fun _ => .inl hend⟩
      rw [checkFinishCondition, if_pos hleft] at hnot
      exact absurd hnot (by simp [buildSnapshot])
    · by_cases hframes : 0 < next.maxFrames ∧ next.maxFrames ≤ next.currentFrame
      · have hlast : next.currentFrame = maxFrames := by
          have hbefore := hrunning.frames (hmax ▸ hframes.1)
          have hmaxFrames := hinv.maxFrames_eq
          omega
        have hend := timeLimit_of_finish hinv hscores hlast hleft hframes
        rw [← hinv.checkFinishCondition.maxFrames_eq] at hend
        refine ⟨fun hnot => ?_, fun _ => .inr hend⟩
        rw [checkFinishCondition, if_neg hleft, if_pos hframes] at hnot
        exact absurd hnot (by simp [buildSnapshot])
      · rw [checkFinishCondition, if_neg hleft, if_neg hframes]
        refine ⟨fun _ => ⟨fun htwo => ?_, fun hpos => ?_, hscores⟩, fun hyes => ?_⟩
        · dsimp only [buildSnapshot] at htwo ⊢
          omega
        · dsimp only [buildSnapshot] at hpos ⊢
          omega
        · rw [buildSnapshot, hfinish, hfinished] at hyes
          exact absurd hyes (by simp)

theorem Ruled.init (w : TankWorld) : (w.init playerIds maxFrames mapWidth mapHeight).Ruled := by
  refine ⟨fun _ => ⟨fun htwo => ?_, id, fun t ht => ?_⟩, fun h => absurd h (by simp [TankWorld.init,
    buildSnapshot])⟩
  · refine htwo.trans_eq (congrArg List.length (List.filter_eq_self.mpr fun t ht => ?_)).symm
    obtain ⟨⟨userId, pos⟩, -, rfl⟩ := List.mem_map.mp ht
    rfl
  · obtain ⟨⟨userId, pos⟩, -, rfl⟩ := List.mem_map.mp ht
    rfl

theorem Reaches.ruled (hwidth : 6 ≤ mapWidth) (hheight : 6 ≤ mapHeight)
    (hnodup : (playerIds.take 4).Nodup) (h : Reaches playerIds maxFrames mapWidth mapHeight w) :
    w.Ruled := by
  induction h with
  | init h₀ =>
    obtain rfl := h₀
    exact .init {}
  | @step w w' a hw _ hs ih =>
    cases a with
    | applyAction userId action =>
      obtain rfl := Option.some_inj.mp hs
      exact ih.applyAction userId action
    | tick inputs =>
      obtain rfl := Option.some_inj.mp hs
      exact ih.tick (Reaches.worldInv hwidth hheight hnodup hw) inputs

theorem sameFrame_of_finished {w' : TankWorld} (h : w.finished = true)
    (hrun : BoostGateway.Reaches (· = w) step (fun _ _ => True) w') : SameFrame w w' := by
  refine BoostGateway.Reaches.invariant hrun ?_ ?_
  · rintro w' rfl
    exact .refl w'
  · rintro w₁ (⟨userId, action⟩ | ⟨inputs⟩) w₂ hw₁ - hs
    · obtain rfl := Option.some_inj.mp hs
      exact hw₁.trans (sameFrame_applyAction w₁ userId action)
    · obtain rfl := Option.some_inj.mp hs
      rw [tick_of_finished (hw₁.finished.trans h)]
      exact hw₁

/-- A game goes on as long as two tanks are left and the time is not over; nobody has a score till
then. It ends with the settlement of the last tank standing, which gets both bonuses, or with that of
the first player among those with most kills and, of these, most damage. Nothing that happens to the
world later changes the settlement. -/
theorem settlement_final (hwidth : 6 ≤ mapWidth) (hheight : 6 ≤ mapHeight)
    (hnodup : (playerIds.take 4).Nodup) (h : Reaches playerIds maxFrames mapWidth mapHeight w) :
    (w.finished = false → (2 ≤ w.tanks.length → 2 ≤ (w.tanks.filter (·.alive)).length) ∧
      (0 < maxFrames → w.currentFrame < maxFrames) ∧ ∀ t ∈ w.tanks, t.score = 0) ∧
    (w.finished = true →
      (w.buildSettlement.LastStanding ∨ w.buildSettlement.TimeLimit maxFrames) ∧
      ∀ w', BoostGateway.Reaches (· = w) step (fun _ _ => True) w' →
        w'.finished = true ∧ w'.buildSettlement = w.buildSettlement) := by
  have hruled := Reaches.ruled hwidth hheight hnodup h
  have hmax := (Reaches.worldInv hwidth hheight hnodup h).maxFrames_eq
  refine ⟨fun hrunning => ?_, fun hfinished => ⟨?_, fun w' hrun => ?_⟩⟩
  · obtain ⟨hsurvivors, hframes, hscores⟩ := hruled.1 hrunning
    exact ⟨hsurvivors, hmax ▸ hframes, hscores⟩
  · rw [← hmax]
    exact hruled.2 hfinished
  · have hsame := sameFrame_of_finished hfinished hrun
    exact ⟨hsame.finished.trans hfinished, hsame.buildSettlement⟩

/-- Two tanks are left when the time is over, and the one that hit the other wins. -/
theorem settlement_final_limit : ∃ w : TankWorld,
    Reaches ["alice", "bob"] 15 kMapWidth kMapHeight w ∧ w.finished = true ∧
      w.buildSettlement.TimeLimit 15 ∧ w.buildSettlement.players.map (·.score) = [275, 50] := by
  obtain ⟨w, hw, hfinished, hreason, hscores⟩ : ∃ w : TankWorld,
      Reaches ["alice", "bob"] 15 kMapWidth kMapHeight w ∧ w.finished = true ∧
      w.buildSettlement.reason = "time_limit" ∧
      w.buildSettlement.players.map (·.score) = [275, 50] :=
    BoostGateway.Reaches.exists_runWith (.init rfl) (duel 16) (by decide +kernel)
  obtain ⟨hstanding | hlimit, -⟩ :=
    (settlement_final (by decide) (by decide) (by decide) hw).2 hfinished
  · exact absurd (hstanding.reason.symm.trans hreason) (by decide)
  · exact ⟨w, hw, hfinished, hlimit, hscores⟩

end TankWorld

end

end BoostGateway.Tank
