import BoostGateway.Gateway.OffloadedInput

/-!
# Room broadcasts and the bindings of the sessions

Whatever sequence of bindings and removals a `SessionLookup` went through
(`runtime_helpers.h`), its two maps between sessions and rooms are inverse to each other
(`SessionLookup.Sound` in every state). So a broadcast to a room is one message to each session
that is bound to it, and none to any other : `broadcast_reaches_bound`.
-/

namespace BoostGateway.Gateway

/-- The operations of a lookup on its sessions. -/
inductive LookupAction
  | setSessionUser (sessionId : SessionId) (userId : String)
  | setSessionRoom (sessionId : SessionId) (roomId : String)
  | eraseSession (sessionId : SessionId)
  | eraseSessionUser (sessionId : SessionId)
  | eraseSessionRoom (sessionId : SessionId)

namespace SessionLookup

def act (l : SessionLookup) : LookupAction → SessionLookup
  | .setSessionUser sessionId userId => l.setSessionUser sessionId userId
  | .setSessionRoom sessionId roomId => l.setSessionRoom sessionId roomId
  | .eraseSession sessionId => l.eraseSession sessionId
  | .eraseSessionUser sessionId => l.eraseSessionUser sessionId
  | .eraseSessionRoom sessionId => l.eraseSessionRoom sessionId

/-- An empty lookup after the operations. -/
def after (actions : List LookupAction) : SessionLookup := actions.foldl act {}

theorem Sound.act {l : SessionLookup} (h : l.Sound) (a : LookupAction) : (l.act a).Sound := by
  cases a with
  | setSessionUser sessionId userId => exact h.setSessionUser
  | setSessionRoom sessionId roomId => exact h.setSessionRoom sessionId roomId
  | eraseSession sessionId => exact h.eraseSession
  | eraseSessionUser sessionId => exact h.eraseSessionUser
  | eraseSessionRoom sessionId => exact h.eraseSessionRoom sessionId

theorem sound_after (actions : List LookupAction) : (after actions).Sound := by
  have hall : ∀ l : SessionLookup, l.Sound → (actions.foldl act l).Sound := by
    induction actions with
    | nil => exact fun l h => h
    | cons a actions ih => exact fun l h => ih (l.act a) (h.act a)
  exact hall {} Sound.empty

variable {l : SessionLookup} {s : SessionId} {r : String}

/-- Over all rooms a session is listed at most once. -/
theorem Sound.room_unique (h : l.Sound) {r' : String} {sessions sessions' : List SessionId}
    (hr : l.sessionsByRoomId r = some sessions) (hr' : l.sessionsByRoomId r' = some sessions')
    (hs : s ∈ sessions) (hs' : s ∈ sessions') : r = r' := by
  have hroom := (h.bound s r).mpr ⟨sessions, hr, hs⟩
  rw [(h.bound s r').mpr ⟨sessions', hr', hs'⟩, Option.some_inj] at hroom
  exact hroom.symm

theorem Sound.count_sessionsInRoom (h : l.Sound) (s : SessionId) (r : String) :
    (l.sessionsInRoom r).count s = if l.roomsBySessionId.lookup s = some r then 1 else 0 := by
  have hnodup : (l.sessionsInRoom r).Nodup := by
    rw [sessionsInRoom]
    cases hr : l.sessionsByRoomId r with
    | none => exact List.nodup_nil
    | some sessions => exact h.nodup r sessions hr
  split_ifs with hbound
  · exact List.count_eq_one_of_mem hnodup (h.mem_sessionsInRoom.mpr hbound)
  · exact List.count_eq_zero_of_not_mem fun hs => hbound (h.mem_sessionsInRoom.mp hs)

end SessionLookup

namespace BridgeRuntime

variable {W : Type*}

/-- The gateway with the lookup that the operations lead to. -/
def withLookup (g : BridgeRuntime W) (actions : List LookupAction) : BridgeRuntime W :=
  { g with
    lookup := SessionLookup.after actions
    lookupSound := SessionLookup.sound_after actions }

/-- The messages of a broadcast to a session are as many as its entries in the room. -/
theorem length_filter_broadcast (sessions : List SessionId) (messageId : UInt16) (body : String)
    (s : SessionId) :
    ((sessions.map fun t => ({ sessionId := t, protocolMessageId := messageId, body } :
      SessionWrite)).filter (·.sessionId = s)).length = sessions.count s := by
  induction sessions with
  | nil => rfl
  | cons t sessions ih =>
    rw [List.map_cons, List.filter_cons, List.count_cons]
    by_cases ht : t = s
    · simp [ht, ih]
    · simp [ht, ih]

/-- After any operations the two maps are inverse to each other, a session is listed at most
once over all rooms, no list is empty, and a broadcast is one message to each session bound to
the room. -/
theorem broadcast_reaches_bound (g : BridgeRuntime W) (actions : List LookupAction) :
    (∀ s r, (SessionLookup.after actions).roomsBySessionId.lookup s = some r ↔
      ∃ sessions, (SessionLookup.after actions).sessionsByRoomId r = some sessions ∧
        s ∈ sessions) ∧
    (∀ s r r' sessions sessions',
      (SessionLookup.after actions).sessionsByRoomId r = some sessions →
      (SessionLookup.after actions).sessionsByRoomId r' = some sessions' →
      s ∈ sessions → s ∈ sessions' → r = r' ∧ sessions.count s = 1) ∧
    (∀ r sessions, (SessionLookup.after actions).sessionsByRoomId r = some sessions →
      sessions ≠ []) ∧
    ∀ roomId messageId body, ∃ sent,
      ((g.withLookup actions).broadcastToRoom roomId messageId body).writes = g.writes ++ sent ∧
        ∀ s, (sent.filter (·.sessionId = s)).length =
          if (SessionLookup.after actions).roomsBySessionId.lookup s = some roomId then 1
          else 0 := by
  have h := SessionLookup.sound_after actions
  refine ⟨h.bound, fun s r r' sessions sessions' hr hr' hs hs' => ?_, h.nonempty,
    fun roomId messageId body => ⟨_, writes_broadcastToRoom _ _ _ _, fun s => ?_⟩⟩
  · exact ⟨h.room_unique hr hr' hs hs', List.count_eq_one_of_mem (h.nodup r sessions hr) hs⟩
  · rw [length_filter_broadcast]
    exact h.count_sessionsInRoom s roomId

end BridgeRuntime

end BoostGateway.Gateway
