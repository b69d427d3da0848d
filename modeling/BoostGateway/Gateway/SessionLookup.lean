import BoostGateway.Gateway.Protocol
import Mathlib.Data.List.AList
import Mathlib.Logic.Function.Basic

/-!
# Users and rooms of the sessions

`SessionLookup` (`runtime_helpers.h`) : which user and which room a session is bound to,
and which sessions are in a room. A user is looked for in the order in which the hash map
of the sessions is visited, which the library leaves open (`Platform`).

The two maps between sessions and rooms agree (`SessionLookup.Sound`), so a message to a
room reaches each session bound to it once.
-/

namespace BoostGateway.Gateway

/-- What the libraries leave open : the order in which the map of the sessions is visited,
and the text of a floating-point number. -/
structure Platform where
  userOrder : List (Sigma fun _ : SessionId => String) → List (Sigma fun _ : SessionId => String)
  userOrder_perm : ∀ es, (userOrder es).Perm es
  floatText : Float → List Char

/-- The platform that visits sessions from the last one bound. -/
def Platform.plain : Platform where
  userOrder es := es
  userOrder_perm _ := .refl _
  floatText _ := []

/-- The users and rooms of sessions. -/
structure SessionLookup where
  usersBySessionId : AList fun _ : SessionId => String := ∅
  roomsBySessionId : AList fun _ : SessionId => String := ∅
  sessionsByRoomId : String → Option (List SessionId) := fun _ => none

namespace SessionLookup

variable (l : SessionLookup)

def setSessionUser (sessionId : SessionId) (userId : String) : SessionLookup :=
  { l with usersBySessionId := l.usersBySessionId.insert sessionId userId }

/-- The list of a room without the session; an empty list is erased. -/
def withoutSession (sessionId : SessionId) (sessions : List SessionId) :
    Option (List SessionId) :=
  let sessions := sessions.filter (· ≠ sessionId)
  if sessions.isEmpty then none else some sessions

def eraseSessionRoom (sessionId : SessionId) : SessionLookup :=
  { l with
    roomsBySessionId := l.roomsBySessionId.erase sessionId
    sessionsByRoomId :=
      match l.roomsBySessionId.lookup sessionId with
      | some roomId => Function.update l.sessionsByRoomId roomId
          ((l.sessionsByRoomId roomId).bind (withoutSession sessionId))
      | none => l.sessionsByRoomId }

def setSessionRoom (sessionId : SessionId) (roomId : String) : SessionLookup :=
  let l := l.eraseSessionRoom sessionId
  { l with
    roomsBySessionId := l.roomsBySessionId.insert sessionId roomId
    sessionsByRoomId := Function.update l.sessionsByRoomId roomId
      (some ((l.sessionsByRoomId roomId).getD [] ++ [sessionId])) }

def eraseSessionUser (sessionId : SessionId) : SessionLookup :=
  { l with usersBySessionId := l.usersBySessionId.erase sessionId }

def eraseSession (sessionId : SessionId) : SessionLookup :=
  (l.eraseSessionUser sessionId).eraseSessionRoom sessionId

/-- The empty text where no user is bound. -/
def userIdFor (sessionId : SessionId) : String := (l.usersBySessionId.lookup sessionId).getD ""

def roomIdFor (sessionId : SessionId) : String := (l.roomsBySessionId.lookup sessionId).getD ""

def sessionForUser (p : Platform) (userId : String) : Option SessionId :=
  ((p.userOrder l.usersBySessionId.entries).find? fun e => e.2 = userId).map Sigma.fst

def sessionsInRoom (roomId : String) : List SessionId := (l.sessionsByRoomId roomId).getD []

/-! ## What the operations change -/

variable {l} {s t : SessionId} {u r : String}

@[simp] theorem userIdFor_setSessionUser :
    (l.setSessionUser s u).userIdFor t = if t = s then u else l.userIdFor t := by
  unfold userIdFor setSessionUser
  split_ifs with h
  · rw [h, AList.lookup_insert, Option.getD_some]
  · rw [AList.lookup_insert_ne h]

@[simp] theorem userIdFor_eraseSessionUser :
    (l.eraseSessionUser s).userIdFor t = if t = s then "" else l.userIdFor t := by
  unfold userIdFor eraseSessionUser
  split_ifs with h
  · rw [h, AList.lookup_erase, Option.getD_none]
  · rw [AList.lookup_erase_ne h]

@[simp] theorem userIdFor_eraseSessionRoom : (l.eraseSessionRoom s).userIdFor t = l.userIdFor t :=
  rfl

@[simp] theorem userIdFor_setSessionRoom : (l.setSessionRoom s r).userIdFor t = l.userIdFor t :=
  rfl

@[simp] theorem userIdFor_eraseSession :
    (l.eraseSession s).userIdFor t = if t = s then "" else l.userIdFor t := by
  rw [eraseSession, userIdFor_eraseSessionRoom, userIdFor_eraseSessionUser]

@[simp] theorem roomIdFor_eraseSessionUser : (l.eraseSessionUser s).roomIdFor t = l.roomIdFor t :=
  rfl

@[simp] theorem roomIdFor_eraseSessionRoom :
    (l.eraseSessionRoom s).roomIdFor t = if t = s then "" else l.roomIdFor t := by
  unfold roomIdFor eraseSessionRoom
  split_ifs with h
  · rw [h, AList.lookup_erase, Option.getD_none]
  · rw [AList.lookup_erase_ne h]

@[simp] theorem roomIdFor_setSessionRoom :
    (l.setSessionRoom s r).roomIdFor t = if t = s then r else l.roomIdFor t := by
  unfold roomIdFor setSessionRoom eraseSessionRoom
  split_ifs with h
  · rw [h, AList.lookup_insert, Option.getD_some]
  · rw [AList.lookup_insert_ne h, AList.lookup_erase_ne h]

@[simp] theorem roomIdFor_eraseSession :
    (l.eraseSession s).roomIdFor t = if t = s then "" else l.roomIdFor t := by
  rw [eraseSession, roomIdFor_eraseSessionRoom, roomIdFor_eraseSessionUser]

theorem lookup_of_roomIdFor (h : l.roomIdFor s ≠ "") :
    l.roomsBySessionId.lookup s = some (l.roomIdFor s) := by
  unfold roomIdFor at h ⊢
  cases hs : l.roomsBySessionId.lookup s with
  | none => simp [hs] at h
  | some r => rfl

theorem lookup_of_userIdFor (h : l.userIdFor s ≠ "") :
    l.usersBySessionId.lookup s = some (l.userIdFor s) := by
  unfold userIdFor at h ⊢
  cases hs : l.usersBySessionId.lookup s with
  | none => simp [hs] at h
  | some r => rfl

/-! ## Looking for a user -/

theorem sessionForUser_eq_some {p : Platform} (h : l.sessionForUser p u = some s) :
    l.usersBySessionId.lookup s = some u := by
  obtain ⟨e, he, rfl⟩ := Option.map_eq_some_iff.mp h
  have hu : e.2 = u := by simpa using List.find?_some he
  have hmem : e ∈ l.usersBySessionId.entries :=
    (p.userOrder_perm _).mem_iff.mp (List.mem_of_find?_eq_some he)
  rw [← hu]
  exact AList.mem_lookup_iff.mpr hmem

theorem sessionForUser_eq_none {p : Platform} (h : l.sessionForUser p u = none) (s : SessionId) :
    l.usersBySessionId.lookup s ≠ some u := by
  intro hs
  have hnone := List.find?_eq_none.mp (Option.map_eq_none_iff.mp h)
  have hmem : (⟨s, u⟩ : Sigma fun _ : SessionId => String) ∈ l.usersBySessionId.entries :=
    AList.mem_lookup_iff.mp hs
  exact hnone _ ((p.userOrder_perm _).mem_iff.mpr hmem) (by simp)

/-! ## The two maps agree -/

/-- A session is in the list of a room exactly when it is bound to the room; the lists have
no repetition, and an empty list is not kept. -/
structure Sound (l : SessionLookup) : Prop where
  bound : ∀ s r, l.roomsBySessionId.lookup s = some r ↔
    ∃ sessions, l.sessionsByRoomId r = some sessions ∧ s ∈ sessions
  nodup : ∀ r sessions, l.sessionsByRoomId r = some sessions → sessions.Nodup
  nonempty : ∀ r sessions, l.sessionsByRoomId r = some sessions → sessions ≠ []

theorem Sound.empty : Sound {} := ⟨by simp, by simp, by simp⟩

theorem withoutSession_eq_some {sessions left : List SessionId} :
    withoutSession s sessions = some left ↔
      left = sessions.filter (· ≠ s) ∧ left ≠ [] := by
  unfold withoutSession
  dsimp only
  split_ifs with h
  · simp only [false_iff, not_and, not_not]
    rintro rfl
    simpa using h
  · constructor
    · intro heq
      obtain rfl := Option.some.inj heq
      exact ⟨rfl, by simpa using h⟩
    · rintro ⟨rfl, -⟩
      rfl

theorem Sound.eraseSessionRoom (h : l.Sound) (s : SessionId) : (l.eraseSessionRoom s).Sound := by
  cases hs : l.roomsBySessionId.lookup s with
  | none =>
    have heq : l.eraseSessionRoom s =
        { l with roomsBySessionId := l.roomsBySessionId.erase s } := by
      rw [SessionLookup.eraseSessionRoom, hs]
    rw [heq]
    refine ⟨fun t r => ?_, h.nodup, h.nonempty⟩
    rw [← h.bound]
    by_cases ht : t = s
    · rw [ht, AList.lookup_erase, hs]
    · rw [AList.lookup_erase_ne ht]
  | some r₀ =>
    have heq : l.eraseSessionRoom s = { l with
        roomsBySessionId := l.roomsBySessionId.erase s
        sessionsByRoomId := Function.update l.sessionsByRoomId r₀
          ((l.sessionsByRoomId r₀).bind (withoutSession s)) } := by
      rw [SessionLookup.eraseSessionRoom, hs]
    have hleft : ∀ {left}, (l.sessionsByRoomId r₀).bind (withoutSession s) = some left →
        ∃ sessions, l.sessionsByRoomId r₀ = some sessions ∧
          left = sessions.filter (· ≠ s) ∧ left ≠ [] := fun hl =>
      (Option.bind_eq_some_iff.mp hl).imp fun _ hx => ⟨hx.1, withoutSession_eq_some.mp hx.2⟩
    rw [heq]
    refine ⟨fun t r => ?_, fun r sessions hr => ?_, fun r sessions hr => ?_⟩
    · have herase : (l.roomsBySessionId.erase s).lookup t = some r ↔
          t ≠ s ∧ l.roomsBySessionId.lookup t = some r := by
        by_cases ht : t = s
        · rw [ht, AList.lookup_erase]
          simp
        · simp [ht, AList.lookup_erase_ne ht]
      rw [herase]
      by_cases hr : r = r₀
      · subst hr
        simp only [Function.update_self]
        constructor
        · rintro ⟨ht, hroom⟩
          obtain ⟨sessions, hsess, hmem⟩ := (h.bound t r).mp hroom
          have hin : t ∈ sessions.filter (· ≠ s) := by simpa [ht] using hmem
          exact ⟨_, by rw [hsess, Option.bind_some]; exact
            withoutSession_eq_some.mpr ⟨rfl, List.ne_nil_of_mem hin⟩, hin⟩
        · rintro ⟨left, hl, hmem⟩
          obtain ⟨sessions, hsess, rfl, -⟩ := hleft hl
          obtain ⟨hmem, ht⟩ := List.mem_filter.mp hmem
          exact ⟨by simpa using ht, (h.bound t r).mpr ⟨sessions, hsess, hmem⟩⟩
      · simp only [Function.update_of_ne hr, ← h.bound]
        refine ⟨And.right, fun hroom => ⟨?_, hroom⟩⟩
        rintro rfl
        exact hr (Option.some.inj (hroom.symm.trans hs))
    · by_cases hr₀ : r = r₀
      · subst hr₀
        simp only [Function.update_self] at hr
        obtain ⟨sessions', hsess, rfl, -⟩ := hleft hr
        exact (h.nodup r sessions' hsess).filter _
      · simp only [Function.update_of_ne hr₀] at hr
        exact h.nodup r sessions hr
    · by_cases hr₀ : r = r₀
      · subst hr₀
        simp only [Function.update_self] at hr
        exact (hleft hr).choose_spec.2.2
      · simp only [Function.update_of_ne hr₀] at hr
        exact h.nonempty r sessions hr

/-- A session that was just erased is in no list. -/
theorem Sound.not_mem_eraseSessionRoom (h : l.Sound) {sessions : List SessionId}
    (hr : (l.eraseSessionRoom s).sessionsByRoomId r = some sessions) : s ∉ sessions := by
  intro hmem
  have := ((h.eraseSessionRoom s).bound s r).mpr ⟨sessions, hr, hmem⟩
  rw [SessionLookup.eraseSessionRoom, AList.lookup_erase] at this
  cases this

theorem Sound.setSessionRoom (h : l.Sound) (s : SessionId) (r : String) :
    (l.setSessionRoom s r).Sound := by
  have h' := h.eraseSessionRoom s
  have hfree : s ∉ ((l.eraseSessionRoom s).sessionsByRoomId r).getD [] := by
    cases hsess : (l.eraseSessionRoom s).sessionsByRoomId r with
    | none => simp
    | some sessions => exact h.not_mem_eraseSessionRoom hsess
  have hnone : (l.eraseSessionRoom s).roomsBySessionId.lookup s = none := by
    rw [SessionLookup.eraseSessionRoom, AList.lookup_erase]
  unfold SessionLookup.setSessionRoom
  generalize l.eraseSessionRoom s = l at h' hfree hnone ⊢
  refine ⟨fun t r' => ?_, fun r' sessions hr => ?_, fun r' sessions hr => ?_⟩
  · by_cases ht : t = s
    · subst ht
      simp only [AList.lookup_insert, Option.some.injEq]
      by_cases hr : r' = r
      · simp [hr]
      · simp only [Function.update_of_ne hr, ← h'.bound, hnone, reduceCtorEq, iff_false]
        exact Ne.symm hr
    · simp only [AList.lookup_insert_ne ht]
      rw [h'.bound]
      by_cases hr : r' = r
      · subst hr
        simp only [Function.update_self, Option.some.injEq, exists_eq_left', List.mem_append,
          List.mem_singleton, ht, or_false]
        cases l.sessionsByRoomId r' <;> simp
      · simp only [Function.update_of_ne hr]
  · by_cases hr' : r' = r
    · subst hr'
      simp only [Function.update_self, Option.some.injEq] at hr
      subst hr
      refine List.Nodup.append ?_ (List.nodup_singleton s) (by simpa using hfree)
      cases hsess : l.sessionsByRoomId r' with
      | none => exact List.nodup_nil
      | some sessions => exact h'.nodup r' sessions hsess
    · simp only [Function.update_of_ne hr'] at hr
      exact h'.nodup r' sessions hr
  · by_cases hr' : r' = r
    · subst hr'
      simp only [Function.update_self, Option.some.injEq] at hr
      subst hr
      simp
    · simp only [Function.update_of_ne hr'] at hr
      exact h'.nonempty r' sessions hr

theorem Sound.setSessionUser (h : l.Sound) : (l.setSessionUser s u).Sound :=
  ⟨h.bound, h.nodup, h.nonempty⟩

theorem Sound.eraseSessionUser (h : l.Sound) : (l.eraseSessionUser s).Sound :=
  ⟨h.bound, h.nodup, h.nonempty⟩

theorem Sound.eraseSession (h : l.Sound) : (l.eraseSession s).Sound :=
  h.eraseSessionUser.eraseSessionRoom s

theorem Sound.mem_sessionsInRoom (h : l.Sound) :
    s ∈ l.sessionsInRoom r ↔ l.roomsBySessionId.lookup s = some r := by
  rw [h.bound, sessionsInRoom]
  cases l.sessionsByRoomId r <;> simp

end SessionLookup

end BoostGateway.Gateway
