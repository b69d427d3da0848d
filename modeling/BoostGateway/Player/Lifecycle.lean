import BoostGateway.Base.Run
import BoostGateway.Player.PlayerActor

/-!
# The lifecycle of a player

A player whose lifecycle says that it is online has a session, and it is `kInBattle` exactly
while it has a battle (`PlayerActor.Consistent`). Four messages write the lifecycle whatever
the player has : a login and a new room forget the battle, and a new room, a new battle and the
end of a battle, of which every player is told, put a player online that has no session
(`PlayerActor.Breaks`). `PlayerActor.lifecycle_iff` : nothing else makes the lifecycle wrong.
-/

namespace BoostGateway.Player

/-- The player is logged in. -/
def PlayerLifecycleState.online : PlayerLifecycleState → Bool
  | .kOnlineIdle | .kInRoom | .kInBattle => true
  | .kOffline | .kAuthenticating | .kSuspended => false

namespace PlayerActor

/-- The state fits the session. -/
structure Consistent (p : PlayerActor) : Prop where
  bound : p.lifecycle.online = true → p.binding.isSome = true
  battle : p.binding.isSome = true → p.lifecycle.online = true →
    (p.lifecycle = .kInBattle ↔ p.battleId.isSome = true)

/-- A session that resumes is told whether its player has a battle. -/
def Reports (p : PlayerActor) (events : List PlayerEvent) : Prop :=
  ∀ sessionId roomId inBattle, .sessionResumePush sessionId roomId inBattle ∈ events →
    inBattle = p.battleId.isSome

def step (p : PlayerActor) (m : PlayerMessage) : Option PlayerActor := some (p.onMessage m).1

abbrev Reaches (ok : PlayerActor → PlayerMessage → Prop) : PlayerActor → Prop :=
  BoostGateway.Reaches (· = {}) step ok

/-- The message writes a lifecycle that the session or the battle contradicts. -/
def Breaks (p : PlayerActor) : PlayerMessage → Bool
  | .loginRequest _ _ _ => p.battleId.isSome
  | .roomAssigned _ _ => p.binding.isNone || p.battleId.isSome
  | .battleAssigned _ _ => p.binding.isNone
  | .battleEnded battleId => p.binding.isNone && !p.battleId.any (· ≠ battleId)
  | _ => false

variable {p : PlayerActor} {m : PlayerMessage}

theorem online_idle (roomId : Option String) : (idle roomId).online = true := by
  unfold idle
  split_ifs <;> rfl

theorem idle_ne_inBattle (roomId : Option String) : idle roomId ≠ .kInBattle := by
  unfold idle
  split_ifs <;> exact PlayerLifecycleState.noConfusion

theorem Consistent.of_offline (h : p.lifecycle.online = false) : p.Consistent :=
  ⟨fun ho => absurd (h.symm.trans ho) Bool.false_ne_true,
    fun _ ho => absurd (h.symm.trans ho) Bool.false_ne_true⟩

/-- Online and without a battle. -/
theorem consistent_idle_iff (h : p.lifecycle.online = true) (hne : p.lifecycle ≠ .kInBattle) :
    p.Consistent ↔ p.binding.isSome = true ∧ p.battleId.isNone = true := by
  constructor
  · intro hp
    have hbound := hp.bound h
    refine ⟨hbound, ?_⟩
    have hnone : ¬p.battleId.isSome = true := fun hb => hne ((hp.battle hbound h).mpr hb)
    simpa using hnone
  · rintro ⟨hbound, hnone⟩
    exact ⟨fun _ => hbound, fun _ _ => iff_of_false hne (by simpa using hnone)⟩

theorem consistent_bindSession (h : p.Consistent) (sessionId connectionId : UInt64) :
    (p.handleBindSession sessionId connectionId).Consistent := by
  unfold handleBindSession
  dsimp only
  split_ifs
  · exact .of_offline rfl
  · exact .of_offline rfl
  · exact ⟨fun _ => rfl, fun _ ho => h.battle (h.bound ho) ho⟩
  · exact ⟨h.bound, h.battle⟩

theorem consistent_loginRequest (sessionId : UInt64) (userId : String)
    (displayName : Option String) :
    (p.handleLoginRequest sessionId userId displayName).1.Consistent ↔
      p.battleId.isNone = true := by
  rw [consistent_idle_iff (online_idle p.roomId) (idle_ne_inBattle p.roomId)]
  exact and_iff_right rfl

theorem consistent_roomAssigned (roomActorId : ℕ) (roomId : String) :
    (p.handleRoomAssigned roomActorId roomId).Consistent ↔
      p.binding.isSome = true ∧ p.battleId.isNone = true :=
  consistent_idle_iff rfl PlayerLifecycleState.noConfusion

theorem consistent_battleAssigned (battleActorId : ℕ) (battleId : String) :
    (p.handleBattleAssigned battleActorId battleId).Consistent ↔ p.binding.isSome = true :=
  ⟨fun h => h.bound rfl, fun h => ⟨fun _ => h, fun _ _ => iff_of_true rfl rfl⟩⟩

theorem consistent_battleSettlement (h : p.Consistent) (battleId reason : String) :
    (p.handleBattleSettlement battleId reason).1.Consistent := by
  unfold handleBattleSettlement
  split_ifs
  · exact h
  · exact ⟨h.bound, h.battle⟩

theorem consistent_battleEnded (h : p.Consistent) (battleId : String) :
    (p.handleBattleEnded battleId).Consistent ↔
      p.battleId.any (· ≠ battleId) = true ∨ p.binding.isSome = true := by
  unfold handleBattleEnded
  split_ifs with hother
  · exact iff_of_true h (.inl hother)
  · rw [consistent_idle_iff (online_idle p.roomId) (idle_ne_inBattle p.roomId)]
    exact ⟨fun hp => .inr hp.1, fun hp => ⟨hp.resolve_left hother, rfl⟩⟩

theorem consistent_sessionClosed (h : p.Consistent) (sessionId : UInt64) :
    (p.handleSessionClosed sessionId).Consistent := by
  unfold handleSessionClosed
  dsimp only
  split_ifs
  · exact h
  · exact .of_offline rfl
  · exact .of_offline rfl

theorem consistent_reconnectTimeout (h : p.Consistent) : p.handleReconnectTimeout.Consistent := by
  unfold handleReconnectTimeout
  dsimp only
  split_ifs
  · exact .of_offline rfl
  · exact ⟨h.bound, h.battle⟩

/-- A resumed session is told of no battle. -/
theorem inBattle_of_mem {sessionId : UInt64} {roomId : String} {inBattle : Bool}
    (h : .sessionResumePush sessionId roomId inBattle ∈ (p.onMessage m).2) :
    inBattle = false ∧ ∃ sessionId userId displayName,
      m = .loginRequest sessionId userId displayName := by
  cases m with
  | loginRequest s userId displayName =>
    refine ⟨?_, s, userId, displayName, rfl⟩
    change _ ∈ (p.handleLoginRequest s userId displayName).2 at h
    unfold handleLoginRequest kick at h
    dsimp only at h
    rw [List.mem_append, List.mem_cons] at h
    obtain hkick | hlogin | hresume := h
    · split at hkick
      · cases hkick
      · split_ifs at hkick <;> simp at hkick
    · cases hlogin
    · obtain ⟨room, -, heq⟩ : ∃ room, p.roomId = some room ∧
          PlayerEvent.sessionResumePush s room (decide (idle p.roomId = .kInBattle)) =
            .sessionResumePush sessionId roomId inBattle := by simpa using hresume
      injection heq with _ _ hin
      rw [← hin]
      exact decide_eq_false (idle_ne_inBattle p.roomId)
  | battleSettlement battleId reason =>
    rw [onMessage_battleSettlement] at h
    split_ifs at h <;> simp at h
  | tokenRefresh s userId =>
    change _ ∈ p.handleTokenRefresh s userId at h
    unfold handleTokenRefresh at h
    split_ifs at h <;> simp at h
  | _ => exact absurd h List.not_mem_nil

/-- One message keeps the lifecycle right exactly when it does not break it. -/
theorem consistent_onMessage_iff (h : p.Consistent) (m : PlayerMessage) :
    (p.onMessage m).1.Consistent ↔ p.Breaks m = false := by
  cases m with
  | bindSession sessionId connectionId =>
    exact iff_of_true (consistent_bindSession h sessionId connectionId) rfl
  | loginRequest sessionId userId displayName =>
    exact (consistent_loginRequest sessionId userId displayName).trans (by simp [Breaks])
  | roomAssigned roomActorId roomId =>
    refine (consistent_roomAssigned roomActorId roomId).trans ?_
    cases hb : p.binding <;> simp [Breaks, hb]
  | battleAssigned battleActorId battleId =>
    refine (consistent_battleAssigned battleActorId battleId).trans ?_
    cases hb : p.binding <;> simp [Breaks, hb]
  | battleSettlement battleId reason =>
    exact iff_of_true (consistent_battleSettlement h battleId reason) rfl
  | battleEnded battleId =>
    refine (consistent_battleEnded h battleId).trans ?_
    cases hb : p.binding <;> simp [Breaks, hb]
  | sessionClosed sessionId => exact iff_of_true (consistent_sessionClosed h sessionId) rfl
  | reconnectTimerExpired => exact iff_of_true (consistent_reconnectTimeout h) rfl
  | tokenRefresh sessionId userId => exact iff_of_true h rfl

theorem reports_onMessage (hm : p.Breaks m = false) :
    Reports (p.onMessage m).1 (p.onMessage m).2 := by
  intro sessionId roomId inBattle hmem
  obtain ⟨rfl, s, userId, displayName, rfl⟩ := inBattle_of_mem hmem
  exact hm.symm

theorem Reaches.consistent (h : p.Reaches fun p m => p.Breaks m = false) : p.Consistent := by
  refine h.invariant (P := Consistent) ?_ ?_
  · rintro p rfl
    exact .of_offline rfl
  · intro p m p' hp hm hs
    obtain rfl := Option.some.inj hs
    exact (consistent_onMessage_iff hp m).mpr hm

/-- In a run without such messages the lifecycle is right, and it stays so, with resumed
sessions told the truth, exactly as long as none comes. -/
theorem lifecycle_iff (h : p.Reaches fun p m => p.Breaks m = false) :
    p.Consistent ∧ ∀ m, (p.onMessage m).1.Consistent ∧
      Reports (p.onMessage m).1 (p.onMessage m).2 ↔ p.Breaks m = false := by
  have hp := h.consistent
  exact ⟨hp, fun m => ⟨fun h => (consistent_onMessage_iff hp m).mp h.1,
    fun hm => ⟨(consistent_onMessage_iff hp m).mpr hm, reports_onMessage hm⟩⟩⟩

/-- A player logs in and comes into a room and its battle. -/
theorem lifecycle_iff_inBattle : ∃ p, (Reaches (fun p m => p.Breaks m = false) p ∧
    p.lifecycle = .kInBattle) ∧ p.Consistent := by
  obtain ⟨p, hp, hbattle⟩ := (Reaches.init rfl :
      Reaches (fun p m => p.Breaks m = false) {}).exists_runWith
    (P := fun p => p.lifecycle = .kInBattle)
    [.bindSession 1 1, .loginRequest 1 "u" none, .roomAssigned 2 "r", .battleAssigned 3 "b"]
    (by decide +kernel)
  exact ⟨p, ⟨hp, hbattle⟩, (lifecycle_iff hp).1⟩

/-- A player in a battle that logs in again is put into its room. -/
theorem not_lifecycle : ¬∀ p, Reaches (fun _ _ => True) p → p.Consistent := by
  intro hall
  obtain ⟨p, hp, hroom, hbound, hbattle⟩ := (Reaches.init rfl :
      Reaches (fun _ _ => True) {}).exists_runWith
    (P := fun p => p.lifecycle = .kInRoom ∧ p.binding.isSome = true ∧ p.battleId.isSome = true)
    [.bindSession 1 1, .loginRequest 1 "u" none, .roomAssigned 2 "r", .battleAssigned 3 "b",
      .loginRequest 2 "u" none] (by decide +kernel)
  have hin := ((hall p hp).battle hbound (by rw [hroom]; rfl)).mpr hbattle
  rw [hroom] at hin
  cases hin

end PlayerActor

end BoostGateway.Player
