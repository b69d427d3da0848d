import BoostGateway.Gateway.GatewayActor
import BoostGateway.Gateway.LocalRuntime
import BoostGateway.Gateway.RoomBinding

/-!
# A user who logs in again

A user who logs in on a new session is handed over to it : the old session loses the user, so
that its end means nothing to the user. The sessions that logged in are recorded beside the
gateway (`Logins`), and in every run in which a user who is bound is handed over
(`LocalRuntime.HandsOver`, `BridgeRuntime.HandsOver`) the session to which a user is bound is the
last one that logged in (`HeldByNewest`).

The local path of `kLogin` binds the new session and leaves the old one bound; with backends
it rests on the answer of the login backend whether the old session is looked for.
-/

namespace BoostGateway.Gateway

open Service

/-! ## The sessions that logged in -/

/-- The latest login comes first. -/
abbrev Logins := List (SessionId × String)

namespace Logins

variable (logins : Logins)

def newest (userId : String) : Option SessionId := (logins.find? (·.2 = userId)).map Prod.fst

/-- The session logged in as the user, and another one did so later. -/
def Displaced (sessionId : SessionId) (userId : String) : Prop :=
  (sessionId, userId) ∈ logins ∧ logins.newest userId ≠ some sessionId

instance {sessionId : SessionId} {userId : String} :
    Decidable (logins.Displaced sessionId userId) :=
  inferInstanceAs (Decidable (_ ∧ _))

end Logins

namespace SessionLookup

/-- At most one session is bound to a user. -/
def Single (l : SessionLookup) : Prop :=
  ∀ s t, l.userIdFor s ≠ "" → l.userIdFor s = l.userIdFor t → s = t

/-- Another session is bound to the user. -/
def HeldByOther (l : SessionLookup) (sessionId : SessionId) (userId : String) : Prop :=
  ∃ e ∈ l.usersBySessionId.entries, e.1 ≠ sessionId ∧ e.2 = userId

instance {l : SessionLookup} {sessionId : SessionId} {userId : String} :
    Decidable (l.HeldByOther sessionId userId) :=
  decidable_of_iff (l.usersBySessionId.entries.any fun e => e.1 ≠ sessionId ∧ e.2 = userId)
    (by simp [HeldByOther])

/-- Who is bound to a user is the last session that logged in as it. -/
def HeldByNewest (l : SessionLookup) (logins : Logins) : Prop :=
  ∀ s, l.userIdFor s ≠ "" → logins.newest (l.userIdFor s) = some s

variable {l l' : SessionLookup} {logins : Logins} {s : SessionId} {u : String}

theorem userIdFor_ne_of_not_heldByOther (h : ¬l.HeldByOther s u) (hu : u ≠ "") {t : SessionId}
    (hne : t ≠ s) : l.userIdFor t ≠ u := by
  rintro rfl
  exact h ⟨⟨t, l.userIdFor t⟩, AList.mem_lookup_iff.mp (lookup_of_userIdFor hu), hne, rfl⟩

namespace HeldByNewest

theorem single (h : l.HeldByNewest logins) : l.Single := by
  intro s t hs heq
  have ht := h t (heq ▸ hs)
  rw [← heq, h s hs] at ht
  exact Option.some.inj ht

theorem ne_of_displaced (h : l.HeldByNewest logins) (hd : logins.Displaced s u) (hu : u ≠ "") :
    l.userIdFor s ≠ u := by
  rintro rfl
  exact hd.2 (h s hu)

/-- A session may lose its user. -/
theorem of_le (h : l.HeldByNewest logins)
    (hle : ∀ t, l'.userIdFor t = "" ∨ l'.userIdFor t = l.userIdFor t) :
    l'.HeldByNewest logins := by
  intro t ht
  have heq := (hle t).resolve_left ht
  rw [heq] at ht ⊢
  exact h t ht

/-- A login of a user to whom no other session is bound any more. -/
theorem login (h : l.HeldByNewest logins)
    (hle : ∀ t ≠ s, l'.userIdFor t = "" ∨ l'.userIdFor t = l.userIdFor t ∧ l.userIdFor t ≠ u)
    (hs : l'.userIdFor s = u) : l'.HeldByNewest ((s, u) :: logins) := by
  intro t ht
  by_cases hts : t = s
  · subst hts
    rw [hs, Logins.newest, List.find?_cons_of_pos (by simp)]
    rfl
  · obtain ⟨heq, hne⟩ := (hle t hts).resolve_left ht
    rw [heq] at ht ⊢
    rw [Logins.newest, List.find?_cons_of_neg (by simpa using hne.symm)]
    exact h t ht

end HeldByNewest

end SessionLookup

/-! ## A gateway without backends -/

namespace LocalRuntime

variable (g : LocalRuntime)

/-- The user as whom the command logs in. -/
def loginBy (c : GatewayCommand) : Option String :=
  if g.isSessionAllowed c = true ∧ c.type = .kLogin then
    (BridgeRuntime.loginBody c).map (·.userId)
  else none

/-- The user of whom the battle is told that it disconnected, when the session closes. -/
def disconnectedBy (sessionId : SessionId) : Option String :=
  let userId := g.lookup.userIdFor sessionId
  let roomId := g.lookup.roomIdFor sessionId
  if userId ≠ "" ∧ roomId ≠ "" ∧ (g.battlesByRoomId roomId).isSome then some userId else none

variable {g} {c : GatewayCommand} {p : Platform}

/-! Messages to rooms bind no session. -/

theorem frame_true : Frame fun _ _ => True := ⟨fun _ => trivial, fun _ _ => trivial⟩

theorem lookup_tell {a : ℕ} {m : Room.RoomMessage} : (g.tell a m).lookup = g.lookup :=
  (told_tell frame_true fun _ _ => trivial).lookup

theorem lookup_tellRoom {roomId : String} {m : Room.RoomMessage} :
    (g.tellRoom roomId m).lookup = g.lookup :=
  (told_tellRoom frame_true fun _ => trivial).lookup

theorem lookup_noticed {notices : List BattleNotice} : (g.noticed notices).lookup = g.lookup :=
  (told_noticed frame_true notices).lookup

/-- The sessions have the users that they had. -/
def KeepsUsers (g g' : LocalRuntime) : Prop :=
  ∀ t, g'.lookup.userIdFor t = g.lookup.userIdFor t

theorem KeepsUsers.of_lookup {g' : LocalRuntime} (h : g'.lookup = g.lookup) : KeepsUsers g g' :=
  fun t => by rw [h]

theorem KeepsUsers.trans {g' g'' : LocalRuntime} (h : KeepsUsers g g') (h' : KeepsUsers g' g'') :
    KeepsUsers g g'' :=
  fun t => (h' t).trans (h t)

theorem keepsUsers_foldl {ι : Type*} {f : LocalRuntime → ι → LocalRuntime}
    (hf : ∀ g x, KeepsUsers g (f g x)) (xs : List ι) : KeepsUsers g (xs.foldl f g) := by
  induction xs generalizing g with
  | nil => exact fun _ => rfl
  | cons x xs ih => exact (hf g x).trans ih

theorem keepsUsers_setSessionRoom {s : SessionId} {roomId : String} :
    KeepsUsers g (g.setSessionRoom s roomId) :=
  fun _ => SessionLookup.userIdFor_setSessionRoom

theorem keepsUsers_createRoomActor (roomId : String) :
    KeepsUsers g (g.createRoomActor roomId).1 :=
  fun _ => rfl

theorem keepsUsers_handle (h : c.type ≠ .kLogin) : KeepsUsers g (g.handle c) := by
  have hsame : KeepsUsers g g := fun _ => rfl
  unfold handle
  split_ifs
  · exact hsame
  · split
    next hlogin => exact absurd hlogin h
    · unfold roomCreate
      split
      · exact hsame
      · split_ifs
        · exact hsame
        · exact (keepsUsers_createRoomActor _).trans
            ((KeepsUsers.of_lookup lookup_tell).trans keepsUsers_setSessionRoom)
    · unfold roomJoin
      split
      · exact hsame
      · split_ifs
        · exact hsame
        · split
          · exact hsame
          · exact (KeepsUsers.of_lookup lookup_tell).trans keepsUsers_setSessionRoom
    · unfold roomReady
      split_ifs
      · exact hsame
      · split
        · exact hsame
        · exact .of_lookup lookup_tellRoom
    · unfold roomLeave
      split_ifs
      · exact hsame
      · split
        · exact hsame
        · exact (KeepsUsers.of_lookup lookup_tell).trans fun _ => rfl
    · unfold battleStart
      split_ifs
      · exact hsame
      · split
        · exact hsame
        · split_ifs
          · exact hsame
          · exact .of_lookup lookup_tellRoom
    · exact hsame

theorem keepsUsers_setUserRoom {userId roomId : String} :
    KeepsUsers g (g.setUserRoom p userId roomId) := by
  unfold setUserRoom
  split
  · exact fun _ => rfl
  · exact keepsUsers_setSessionRoom

theorem keepsUsers_joinMatched (actorId : ℕ) (roomId : String) (g : LocalRuntime)
    (userId : String) : KeepsUsers g (joinMatched p actorId roomId g userId) := by
  unfold joinMatched
  dsimp only
  split
  · exact keepsUsers_setUserRoom
  · exact keepsUsers_setUserRoom.trans (.of_lookup lookup_tell)

variable (result : Match.MatchResult)

theorem keepsUsers_createRoomFromMatch : KeepsUsers g (g.createRoomFromMatch p result).1 := by
  unfold createRoomFromMatch
  dsimp only
  split_ifs
  · exact fun _ => rfl
  · split
    · exact fun _ => rfl
    · dsimp only
      exact (keepsUsers_createRoomActor _).trans ((KeepsUsers.of_lookup lookup_tell).trans
        (keepsUsers_setUserRoom.trans (keepsUsers_foldl (keepsUsers_joinMatched _ _) _)))

theorem keepsUsers_readyAllPlayers (roomId : String) :
    KeepsUsers g (g.readyAllPlayers result roomId) :=
  keepsUsers_foldl (fun _ _ => KeepsUsers.of_lookup lookup_tellRoom) result.playerIds

theorem keepsUsers_onMatchFound : KeepsUsers g (g.onMatchFound p result) := by
  have hcreate := keepsUsers_createRoomFromMatch (g := g) (p := p) result
  unfold onMatchFound
  split_ifs
  · exact fun _ => rfl
  · split
    · exact fun _ => rfl
    next g₁ roomId hg₁ =>
      rw [hg₁] at hcreate
      dsimp only
      have hprocessed : KeepsUsers g₁
          { g₁ with processedMatchIds := result.matchId :: g₁.processedMatchIds } := fun _ => rfl
      refine hcreate.trans (hprocessed.trans ?_)
      split
      · exact fun _ => rfl
      · exact (keepsUsers_readyAllPlayers result roomId).trans
          (KeepsUsers.of_lookup lookup_tellRoom)

theorem lookup_getOrCreatePlayer (userId : String) :
    (g.getOrCreatePlayer userId).lookup = g.lookup := by
  unfold getOrCreatePlayer
  split <;> rfl

/-- Only a login that is accepted gives its session another user. -/
theorem userIdFor_handle (g : LocalRuntime) (c : GatewayCommand) (t : SessionId) :
    (g.handle c).lookup.userIdFor t = match g.loginBy c with
      | some u => if t = c.sessionId then u else g.lookup.userIdFor t
      | none => g.lookup.userIdFor t := by
  unfold loginBy
  by_cases hlogin : g.isSessionAllowed c = true ∧ c.type = .kLogin
  · rw [if_pos hlogin]
    unfold handle login BridgeRuntime.loginBody
    rw [hlogin.1, hlogin.2]
    cases parseLoginCommandBody c.body with
    | none => rfl
    | some body =>
      dsimp only
      cases hbody : validateLoginCommandBody body with
      | false => simp [Option.filter, hbody]
      | true => simp [Option.filter, hbody, lookup_getOrCreatePlayer]
  · rw [if_neg hlogin]
    by_cases htype : c.type = .kLogin
    · unfold handle
      rw [if_pos (by simpa [htype] using hlogin)]
    · exact keepsUsers_handle htype t

theorem ne_of_loginBy {u : String} (h : g.loginBy c = some u) : u ≠ "" := by
  unfold loginBy at h
  split_ifs at h
  obtain ⟨body, hbody, rfl⟩ := Option.map_eq_some_iff.mp h
  exact of_decide_eq_true (Option.filter_eq_some_iff.mp hbody).2

theorem lookup_onSessionClosed (s : SessionId) :
    (g.onSessionClosed s).lookup = g.lookup.eraseSession s := by
  unfold onSessionClosed
  dsimp only
  split_ifs
  · rw [lookup_tellRoom]
  · rfl

/-- The gateway, with the logins. -/
structure Handover where
  gateway : LocalRuntime := {}
  logins : Logins := []

namespace Handover

def loginsAfter (h : Handover) : Action → Logins
  | .command c _ =>
    match h.gateway.loginBy c with
    | some u => (c.sessionId, u) :: h.logins
    | none => h.logins
  | _ => h.logins

def step (p : Platform) (h : Handover) (a : Action) : Option Handover :=
  (h.gateway.step p a).map fun g => { gateway := g, logins := h.loginsAfter a }

abbrev Reaches (p : Platform) (ok : Handover → Action → Prop) : Handover → Prop :=
  BoostGateway.Reaches (· = {}) (step p) ok

/-- A login is of a user to whom no other session is bound. -/
def HandsOver (h : Handover) : Action → Prop
  | .command c _ => ∀ u ∈ h.gateway.loginBy c, ¬h.gateway.lookup.HeldByOther c.sessionId u
  | _ => True

/-- One session is bound to a user, and the end of a displaced one takes its user out of no
room and no battle. -/
structure HandedOver (h : Handover) : Prop where
  single : h.gateway.lookup.Single
  rooms : ∀ s u, h.logins.Displaced s u → ∀ roomId, u ∈ h.gateway.membersOf roomId →
    u ∈ (h.gateway.onSessionClosed s).membersOf roomId
  battles : ∀ s u, h.logins.Displaced s u → h.gateway.disconnectedBy s ≠ some u

/-- What every run keeps. -/
structure Newest (h : Handover) : Prop where
  sound : h.gateway.Sound
  held : h.gateway.lookup.HeldByNewest h.logins
  named : ∀ e ∈ h.logins, e.2 ≠ ""

variable {h h' : Handover}

theorem Newest.step {a : Action} (hn : h.Newest) (ha : h.HandsOver a)
    (hs : h.step p a = some h') : h'.Newest := by
  obtain ⟨g, hg, rfl⟩ := Option.map_eq_some_iff.mp hs
  have hsound := sound_step hn.sound hg
  cases a with
  | command c notices =>
    obtain rfl := Option.some.inj hg
    have husers : ∀ t, ((h.gateway.handle c).noticed notices).lookup.userIdFor t = _ := fun t =>
      (congrArg (·.userIdFor t) lookup_noticed).trans (userIdFor_handle h.gateway c t)
    cases hlogin : h.gateway.loginBy c with
    | none =>
      have hlogins : h.loginsAfter (.command c notices) = h.logins := by
        rw [loginsAfter, hlogin]
      simp only [hlogin] at husers
      rw [hlogins]
      exact ⟨hsound, hn.held.of_le fun t => .inr (husers t), hn.named⟩
    | some u =>
      have hlogins : h.loginsAfter (.command c notices) = (c.sessionId, u) :: h.logins := by
        rw [loginsAfter, hlogin]
      simp only [hlogin] at husers
      rw [hlogins]
      have hu := ne_of_loginBy hlogin
      refine ⟨hsound, hn.held.login (fun t ht => .inr ⟨?_, ?_⟩) ?_, ?_⟩
      · rw [husers, if_neg ht]
      · exact SessionLookup.userIdFor_ne_of_not_heldByOther (ha u hlogin) hu ht
      · rw [husers, if_pos rfl]
      · exact List.forall_mem_cons.mpr ⟨hu, hn.named⟩
  | sessionClosed s notices =>
    obtain rfl := Option.some.inj hg
    refine ⟨hsound, hn.held.of_le fun t => ?_, hn.named⟩
    show ((h.gateway.onSessionClosed s).noticed notices).lookup.userIdFor t = "" ∨ _
    rw [lookup_noticed, lookup_onSessionClosed, SessionLookup.userIdFor_eraseSession]
    split_ifs
    · exact .inl rfl
    · exact .inr rfl
  | sessionRole s role =>
    obtain rfl := Option.some.inj hg
    exact ⟨hsound, hn.held, hn.named⟩
  | matchFound result =>
    obtain rfl := Option.some.inj hg
    exact ⟨hsound, hn.held.of_le fun t => .inr (keepsUsers_onMatchFound result t), hn.named⟩
  | notices notices =>
    obtain rfl := Option.some.inj hg
    exact ⟨hsound, hn.held.of_le fun t => .inr (congrArg (·.userIdFor t) lookup_noticed), hn.named⟩

theorem Newest.handedOver (hn : h.Newest) : h.HandedOver where
  single := hn.held.single
  rooms s u hd roomId hu := by
    have hne := hn.held.ne_of_displaced hd (hn.named _ hd.1)
    exact passes_onSessionClosed.othersStay.stays roomId u hne.symm hu
  battles s u hd := by
    have hne := hn.held.ne_of_displaced hd (hn.named _ hd.1)
    unfold disconnectedBy
    dsimp only
    split_ifs
    · exact fun h => hne (Option.some.inj h)
    · exact (Option.some_ne_none u).symm

theorem Reaches.handedOver (hr : h.Reaches p HandsOver) : h.HandedOver := by
  refine (hr.invariant (P := Newest) ?_ fun _ _ _ hn ha hs => hn.step ha hs).handedOver
  rintro h rfl
  exact ⟨⟨fun _ _ h => absurd h nofun, fun _ h => absurd rfl h⟩, fun _ h => absurd rfl h,
    List.forall_mem_nil _⟩

end Handover

end LocalRuntime

/-! ## A gateway with backends -/

theorem acceptedLogin_eq_none {result : BackendRoutingResult}
    (h : ∀ resp, Accepts result resp → (BridgeRuntime.readLogin resp).toOption = none) :
    acceptedLogin result = none := by
  unfold acceptedLogin
  split_ifs with hs
  · split
    next resp hread => exact h resp ⟨hs, hread⟩
    · rfl
  · rfl

namespace BridgeRuntime

variable {W : Type} (p : Platform) (backend : W → BackendCall → W × BackendRoutingResult)

/-- The user as whom the command logs in, and whether the backend calls it a duplicate. -/
def loginBy (g : BridgeRuntime W) (c : GatewayCommand) : Option (Bool × String) :=
  if g.isSessionAllowed c.sessionId c.protocolMessageId = true ∧ c.type = .kLogin then
    (loginBody c).bind fun body =>
      if (schemaError loginSchema (p.dump (loginPayload body))).isSome then none
      else (acceptedLogin (backend g.world (loginCall p body)).2).map fun l => (l.1, body.userId)
  else none

/-- What sessions do. -/
inductive SessionEvent
  | command (c : GatewayCommand)
  | sessionClosed (sessionId : SessionId)
  | matchFound (result : Match.MatchResult)
  /-- A route worker runs the first task. -/
  | routeTask

def sessionStep (g : BridgeRuntime W) : SessionEvent → Option (BridgeRuntime W)
  | .command c => some (g.handle p backend c).1
  | .sessionClosed s => some (g.onSessionClosed p backend s)
  | .matchFound result => some (g.onMatchFound p backend result).1
  | .routeTask =>
    match g.battleRouteTasks with
    | [] => none
    | task :: tasks =>
      some ({ g with battleRouteTasks := tasks }.runBattleRouteTask p backend task).1

/-- The gateway, with the logins. -/
structure Handover (W : Type) where
  gateway : BridgeRuntime W
  logins : Logins := []

namespace Handover

variable (h : Handover W)

def loginsAfter : SessionEvent → Logins
  | .command c =>
    match h.gateway.loginBy p backend c with
    | some (_, u) => (c.sessionId, u) :: h.logins
    | none => h.logins
  | _ => h.logins

def step (h : Handover W) (event : SessionEvent) : Option (Handover W) :=
  (h.gateway.sessionStep p backend event).map fun g =>
    { gateway := g, logins := h.loginsAfter p backend event }

abbrev Reaches (ok : Handover W → SessionEvent → Prop) : Handover W → Prop :=
  BoostGateway.Reaches (fun h => ∃ world, h = { gateway := { world } }) (step p backend) ok

/-- A login that the backend does not call a duplicate is of a user to whom no other session
is bound. -/
def HandsOver : SessionEvent → Prop
  | .command c => ∀ l ∈ h.gateway.loginBy p backend c, l.1 = true ∨
      ¬h.gateway.lookup.HeldByOther c.sessionId l.2
  | _ => True

/-- One session is bound to a user, and at the end of a displaced one no backend is asked for
anything in the name of its user. -/
structure HandedOver : Prop where
  single : h.gateway.lookup.Single
  calls : ∀ s u, h.logins.Displaced s u →
    ∀ call ∈ (h.gateway.onSessionClosed p backend s).calls.drop h.gateway.calls.length,
      requestUser call ≠ some u

end Handover

variable {p backend} {g : BridgeRuntime W} {c : GatewayCommand}

/-- What an accepted login leaves of the users of the sessions. -/
def usersAfter (p : Platform) (l : SessionLookup) (s : SessionId) (login : Option (Bool × String))
    (t : SessionId) : String :=
  match login with
  | some (isDuplicate, u) =>
    if t = s then u
    else if isDuplicate ∧ l.sessionForUser p u = some t then "" else l.userIdFor t
  | none => l.userIdFor t

theorem userIdFor_login (hallowed : g.isSessionAllowed c.sessionId c.protocolMessageId = true)
    (htype : c.type = .kLogin) (t : SessionId) :
    (g.login p backend c).1.lookup.userIdFor t =
      usersAfter p g.lookup c.sessionId (g.loginBy p backend c) t := by
  unfold loginBy
  rw [if_pos ⟨hallowed, htype⟩]
  unfold login
  rw [show (parseLoginCommandBody c.body).filter validateLoginCommandBody = loginBody c from rfl]
  cases loginBody c with
  | none => rfl
  | some body =>
    dsimp only
    rw [Option.bind_some]
    cases schemaError loginSchema (p.dump (loginPayload body)) with
    | some error => rfl
    | none =>
      dsimp only
      rw [if_neg (show ¬(none : Option String).isSome = true by simp)]
      obtain ⟨hresult, hlookup⟩ : (g.route backend ⟨.login, "login_request",
          p.dump (loginPayload body)⟩).2 = (backend g.world (loginCall p body)).2 ∧
          (g.route backend ⟨.login, "login_request", p.dump (loginPayload body)⟩).1.lookup =
            g.lookup := ⟨rfl, rfl⟩
      rw [← hresult, ← hlookup]
      generalize g.route backend ⟨.login, "login_request", p.dump (loginPayload body)⟩ = r
      obtain ⟨g₁, result⟩ := r
      have hnone : (∀ resp, Accepts result resp → (readLogin resp).toOption = none) →
          usersAfter p g₁.lookup c.sessionId
            ((acceptedLogin result).map fun l => (l.1, body.userId)) t = g₁.lookup.userIdFor t :=
        fun h => by rw [acceptedLogin_eq_none h, Option.map_none, usersAfter]
      dsimp only
      split_ifs with hs
      · cases hanswer : readAnswer "auth_failed" result.responsePayload with
        | error e =>
          exact (hnone fun resp ha => absurd ha
            (not_accepts_of_readAnswer hanswer (fun _ => nofun) resp)).symm
        | ok answer =>
          cases answer with
          | refused reason =>
            exact (hnone fun resp ha => absurd ha
              (not_accepts_of_readAnswer hanswer (fun _ => nofun) resp)).symm
          | accepted resp =>
            have haccepts := accepts_of_readAnswer hs hanswer
            dsimp only
            cases hread : readLogin resp with
            | error e =>
              exact (hnone fun resp' ha => by rw [ha.unique haccepts, hread]; rfl).symm
            | ok l =>
              obtain ⟨isDuplicate, role⟩ := l
              rw [haccepts.acceptedLogin hread, Option.map_some, usersAfter]
              exact userIdFor_logIn c.sessionId body.userId isDuplicate role g₁ t
      · exact (hnone fun resp ha => absurd ha.1 hs).symm
      · exact (hnone fun resp ha => absurd ha.1 hs).symm

/-- The sessions have the users that they had. -/
def KeepsUsers (g g' : BridgeRuntime W) : Prop :=
  ∀ t, g'.lookup.userIdFor t = g.lookup.userIdFor t

variable {g₁ g₂ : BridgeRuntime W}

theorem KeepsUsers.of_lookup (h : g₁.lookup = g.lookup) : KeepsUsers g g₁ := fun t => by rw [h]

theorem KeepsUsers.trans (h : KeepsUsers g g₁) (h' : KeepsUsers g₁ g₂) : KeepsUsers g g₂ :=
  fun t => (h' t).trans (h t)

theorem Routed.keepsUsers {change : BridgeRuntime W → BridgeRuntime W} {call : BackendCall}
    (h : Routed backend change (g.route backend call) g₁)
    (hchange : ∀ g, KeepsUsers g (change g)) : KeepsUsers g g₁ := by
  cases h with
  | refused _ still => exact .of_lookup still.lookup
  | accepted _ still =>
    exact fun t => (congrArg (·.userIdFor t) still.lookup).trans (hchange _ t)

theorem Starts.keepsUsers {call : BackendCall} {roomId : String}
    (h : Starts p backend roomId (g.route backend call) g₁) : KeepsUsers g g₁ := by
  cases h with
  | refused _ still => exact .of_lookup still.lookup
  | unforwarded _ _ still => exact .of_lookup still.lookup
  | uncreated _ _ _ still => exact .of_lookup still.lookup
  | started _ _ _ _ still =>
    refine .of_lookup (still.lookup.trans ?_)
    unfold trackBattle
    split_ifs <;> rfl

theorem keepsUsers_handle_of_ne (h : c.type ≠ .kLogin) :
    KeepsUsers g (g.handle p backend c).1 := by
  by_cases hchanges : changes c.type = true
  · unfold handle
    split_ifs
    · cases htype : c.type <;>
        simp only [htype, changes, Bool.false_eq_true, not_true_eq_false, ne_eq] at hchanges h ⊢
      · rcases g.roomCreate_cases p backend c with h | ⟨-, -, h⟩
        · exact .of_lookup h.lookup
        · exact h.keepsUsers fun _ _ => SessionLookup.userIdFor_setSessionRoom
      · rcases g.roomJoin_cases p backend c with h | ⟨-, -, h⟩
        · exact .of_lookup h.lookup
        · exact h.keepsUsers fun _ _ => SessionLookup.userIdFor_setSessionRoom
      · rcases g.roomLeave_cases p backend c with h | ⟨-, -, h⟩
        · exact .of_lookup h.lookup
        · exact h.keepsUsers fun _ _ => SessionLookup.userIdFor_eraseSessionRoom
      · rcases g.battleStart_cases p backend c with h | ⟨-, -, h⟩
        · exact .of_lookup h.lookup
        · exact h.keepsUsers
      · exact .of_lookup (keepsSessions_battleInput (Q := fun _ => True) (fun _ _ _ => trivial)
          (fun _ _ => trivial) (fun _ _ _ _ => trivial) fun _ => trivial).lookup
    · exact fun _ => rfl
  · exact .of_lookup (g.quiet_handle (Bool.eq_false_iff.mpr hchanges)).lookup

/-- Only a login that is accepted gives its session another user. -/
theorem userIdFor_handle (g : BridgeRuntime W) (c : GatewayCommand) (t : SessionId) :
    (g.handle p backend c).1.lookup.userIdFor t =
      usersAfter p g.lookup c.sessionId (g.loginBy p backend c) t := by
  by_cases htype : c.type = .kLogin
  · by_cases hallowed : g.isSessionAllowed c.sessionId c.protocolMessageId = true
    · rw [← userIdFor_login hallowed htype, handle, if_pos hallowed, htype]
    · rw [handle, if_neg hallowed, loginBy, if_neg fun h => hallowed h.1]
      rfl
  · rw [loginBy, if_neg fun h => htype h.2]
    exact keepsUsers_handle_of_ne htype t

theorem keepsUsers_runBattleRouteTask (task : BattleRouteTask) :
    KeepsUsers g (g.runBattleRouteTask p backend task).1 :=
  .of_lookup (keepsSessions_runBattleRouteTask (Q := fun _ => True) trivial g).lookup

theorem keepsUsers_onMatchFound (result : Match.MatchResult) :
    KeepsUsers g (g.onMatchFound p backend result).1 := by
  have hroute : ∀ {α : Type} (f : α → BackendCall) (xs : List α) (g : BridgeRuntime W),
      AnyQuiet backend g (xs.foldl (fun g x => (g.route backend (f x)).1) g) :=
    fun f xs g => quiet_foldl (fun g x => g.quiet_route trivial) g xs
  have hpush : ∀ (g : BridgeRuntime W) (roomId : String),
      Still backend g (g.sendMatchFoundPushes p result roomId) :=
    fun g roomId => still_sendMatchFoundPushes g result roomId
  have hbind : ∀ (g : BridgeRuntime W) (roomId : String) (playerIds : List String),
      KeepsUsers g (g.bindPlayers p roomId playerIds) :=
    fun g roomId playerIds t => (lookup_bindPlayers g roomId playerIds t).1
  have hcreate : KeepsUsers g (g.createRoomFromMatch p backend result).1 := by
    unfold createRoomFromMatch
    dsimp only
    split
    · exact fun _ => rfl
    next ownerId others _ =>
      split_ifs
      · have hcreated : KeepsUsers g (g.route backend
            (roomCall p "room_create" ownerId ("room_" ++ result.matchId))).1 := fun _ => rfl
        exact (hcreated.trans (hbind _ _ _)).trans (.of_lookup (hroute _ _ _).lookup)
      · exact fun _ => rfl
  unfold onMatchFound
  split_ifs
  · exact fun _ => rfl
  · split <;> rename_i heq <;> rw [heq] at hcreate
    · exact hcreate
    · dsimp only
      refine hcreate.trans (KeepsUsers.trans ?_ (startBattleForRoom_cases ..).keepsUsers)
      exact .of_lookup ((hroute _ _ _).lookup.trans (hpush _ _).lookup)

theorem ne_of_loginBy {isDuplicate : Bool} {u : String}
    (h : g.loginBy p backend c = some (isDuplicate, u)) : u ≠ "" := by
  unfold loginBy at h
  split_ifs at h
  obtain ⟨body, hbody, h⟩ := Option.bind_eq_some_iff.mp h
  split_ifs at h
  obtain ⟨l, -, hl⟩ := Option.map_eq_some_iff.mp h
  rw [← (Prod.mk.inj hl).2]
  exact of_decide_eq_true (Option.filter_eq_some_iff.mp hbody).2

/-- The end of a session that is in a room asks for the leave of its user, and for nothing
else. -/
theorem calls_onSessionClosed (g : BridgeRuntime W) (s : SessionId) :
    (g.onSessionClosed p backend s).calls = if g.InRoom s then g.calls ++ [roomCall p "room_leave"
      (g.lookup.userIdFor s) (g.lookup.roomIdFor s)] else g.calls := by
  by_cases h : g.InRoom s
  · rw [if_pos h, onSessionClosed]
    dsimp only
    rw [if_pos (show g.lookup.userIdFor s ≠ "" ∧ g.lookup.roomIdFor s ≠ "" from h)]
    rfl
  · rw [if_neg h, onSessionClosed]
    dsimp only
    rw [if_neg (show ¬(g.lookup.userIdFor s ≠ "" ∧ g.lookup.roomIdFor s ≠ "") from h)]

namespace Handover

/-- What every run keeps. -/
structure Newest (h : Handover W) : Prop where
  held : h.gateway.lookup.HeldByNewest h.logins
  named : ∀ e ∈ h.logins, e.2 ≠ ""

variable {h h' : Handover W}

/-- After a login that hands over, no other session is bound to the user. -/
theorem Newest.login (hn : h.Newest) {isDuplicate : Bool} {s t : SessionId} {u : String}
    (hu : u ≠ "") (hover : isDuplicate = true ∨ ¬h.gateway.lookup.HeldByOther s u)
    (ht : t ≠ s) :
    usersAfter p h.gateway.lookup s (some (isDuplicate, u)) t = "" ∨
      usersAfter p h.gateway.lookup s (some (isDuplicate, u)) t = h.gateway.lookup.userIdFor t ∧
        h.gateway.lookup.userIdFor t ≠ u := by
  unfold usersAfter
  dsimp only
  rw [if_neg ht]
  split_ifs with hkicked
  · exact .inl rfl
  · refine .inr ⟨rfl, fun htu => ?_⟩
    rcases hover with rfl | hother
    · cases hold : h.gateway.lookup.sessionForUser p u with
      | none =>
        have hlookup := SessionLookup.lookup_of_userIdFor (htu.symm ▸ hu)
        exact SessionLookup.sessionForUser_eq_none hold t (htu ▸ hlookup)
      | some old =>
        have holdu : h.gateway.lookup.userIdFor old = u := by
          rw [SessionLookup.userIdFor, SessionLookup.sessionForUser_eq_some hold, Option.getD_some]
        have hsame := hn.held.single t old (htu.symm ▸ hu) (htu.trans holdu.symm)
        exact hkicked ⟨rfl, hsame ▸ hold⟩
    · exact SessionLookup.userIdFor_ne_of_not_heldByOther hother hu ht htu

theorem Newest.step {event : SessionEvent} (hn : h.Newest) (hover : h.HandsOver p backend event)
    (hs : h.step p backend event = some h') : h'.Newest := by
  obtain ⟨g, hg, rfl⟩ := Option.map_eq_some_iff.mp hs
  cases event with
  | command c =>
    obtain rfl := Option.some.inj hg
    have husers : ∀ t, (h.gateway.handle p backend c).1.lookup.userIdFor t = _ :=
      userIdFor_handle h.gateway c
    cases hlogin : h.gateway.loginBy p backend c with
    | none =>
      have hlogins : h.loginsAfter p backend (.command c) = h.logins := by
        rw [loginsAfter, hlogin]
      rw [hlogins]
      rw [hlogin] at husers
      exact ⟨hn.held.of_le fun t => .inr (husers t), hn.named⟩
    | some l =>
      obtain ⟨isDuplicate, u⟩ := l
      have hlogins : h.loginsAfter p backend (.command c) = (c.sessionId, u) :: h.logins := by
        rw [loginsAfter, hlogin]
      rw [hlogins]
      rw [hlogin] at husers
      have hu := ne_of_loginBy hlogin
      refine ⟨hn.held.login (fun t ht => ?_) ?_, List.forall_mem_cons.mpr ⟨hu, hn.named⟩⟩
      · rw [husers]
        exact hn.login hu (hover _ hlogin) ht
      · rw [husers, usersAfter, if_pos rfl]
  | sessionClosed s =>
    obtain rfl := Option.some.inj hg
    refine ⟨hn.held.of_le fun t => ?_, hn.named⟩
    show (h.gateway.onSessionClosed p backend s).lookup.userIdFor t = "" ∨ _
    rw [lookup_onSessionClosed, SessionLookup.userIdFor_eraseSession]
    split_ifs
    · exact .inl rfl
    · exact .inr rfl
  | matchFound result =>
    obtain rfl := Option.some.inj hg
    exact ⟨hn.held.of_le fun t => .inr (keepsUsers_onMatchFound result t), hn.named⟩
  | routeTask =>
    unfold sessionStep at hg
    dsimp only at hg
    split at hg
    · cases hg
    next task tasks _ =>
      obtain rfl := Option.some.inj hg
      exact ⟨hn.held.of_le fun t => .inr (keepsUsers_runBattleRouteTask task t), hn.named⟩

theorem Newest.handedOver (hn : h.Newest) : h.HandedOver p backend where
  single := hn.held.single
  calls s u hd call hcall := by
    have hne := hn.held.ne_of_displaced hd (hn.named _ hd.1)
    rw [calls_onSessionClosed] at hcall
    split_ifs at hcall
    · rw [List.drop_left, List.mem_singleton] at hcall
      rw [hcall, requestUser_roomCall]
      exact fun h => hne (Option.some.inj h)
    · rw [List.drop_length] at hcall
      exact absurd hcall List.not_mem_nil

theorem Reaches.handedOver (hr : h.Reaches p backend (HandsOver p backend)) :
    h.HandedOver p backend := by
  refine (hr.invariant (P := Newest) ?_ fun _ _ _ hn hover hs => hn.step hover hs).handedOver
  rintro h ⟨world, rfl⟩
  exact ⟨fun _ h => absurd rfl h, List.forall_mem_nil _⟩

end Handover

end BridgeRuntime

/-! ## In either mode -/

/-- In every run whose logins hand over, one session is bound to a user, and the end of a
displaced session means nothing to its user. -/
theorem handed_over (p : Platform) :
    (∀ h : LocalRuntime.Handover,
      h.Reaches p LocalRuntime.Handover.HandsOver → h.HandedOver) ∧
    ∀ (W : Type) (backend : W → BackendCall → W × BackendRoutingResult)
      (h : BridgeRuntime.Handover W),
      h.Reaches p backend (BridgeRuntime.Handover.HandsOver p backend) → h.HandedOver p backend :=
  ⟨fun _ hr => hr.handedOver, fun _ _ _ hr => hr.handedOver⟩

instance (h : LocalRuntime.Handover) : ∀ a, Decidable (h.HandsOver a)
  | .command _ _ => inferInstanceAs (Decidable (∀ u ∈ _, _))
  | .sessionClosed _ _ | .sessionRole _ _ | .matchFound _ | .notices _ => .isTrue trivial

instance {W : Type} (p : Platform) (backend : W → BackendCall → W × BackendRoutingResult)
    (h : BridgeRuntime.Handover W) : ∀ event, Decidable (h.HandsOver p backend event)
  | .command _ => inferInstanceAs (Decidable (∀ l ∈ _, _))
  | .sessionClosed _ | .matchFound _ | .routeTask => .isTrue trivial

/-- A login backend that finds every user logged in. -/
def knowsAll (w : Unit) (_ : BackendCall) : Unit × BackendRoutingResult :=
  (w, { success := true
        responsePayload := "\x7b\"status\":\"ok\",\"is_duplicate\":true\x7d" })

open LocalRuntime (loginOf)

theorem handed_over_again :
    (∃ h : LocalRuntime.Handover, h.logins.Displaced 1 "owner" ∧ h.HandedOver) ∧
      ∃ h : BridgeRuntime.Handover Unit, h.logins.Displaced 1 "owner" ∧
        h.HandedOver .plain knowsAll := by
  obtain ⟨h, hr, hd⟩ := (Reaches.init rfl : LocalRuntime.Handover.Reaches .plain
      LocalRuntime.Handover.HandsOver {}).exists_runWith
    (P := fun h => h.logins.Displaced 1 "owner")
    [.command (loginOf 1 "owner") [], .sessionClosed 1 [], .command (loginOf 2 "owner") []]
    (by decide +kernel)
  obtain ⟨h', hr', hd'⟩ := (Reaches.init ⟨(), rfl⟩ : BridgeRuntime.Handover.Reaches .plain
      knowsAll (BridgeRuntime.Handover.HandsOver .plain knowsAll)
        { gateway := { world := () } }).exists_runWith
    (P := fun h => h.logins.Displaced 1 "owner")
    [.command (loginOf 1 "owner|t"), .command (loginOf 2 "owner|t")] (by decide +kernel)
  exact ⟨⟨h, hd, (handed_over .plain).1 h hr⟩, h', hd', (handed_over .plain).2 _ _ h' hr'⟩

/-- Without backends a second login leaves the first session bound. -/
theorem not_handed_over : ¬((∀ (p : Platform) (h : LocalRuntime.Handover),
      h.Reaches p (fun _ _ => True) → h.HandedOver) ∧
    ∀ (W : Type) (p : Platform) (backend : W → BackendCall → W × BackendRoutingResult)
      (h : BridgeRuntime.Handover W),
      h.Reaches p backend (fun _ _ => True) → h.HandedOver p backend) := by
  rintro ⟨hlocal, -⟩
  obtain ⟨h, hr, hfirst, hsecond⟩ := (Reaches.init rfl : LocalRuntime.Handover.Reaches .plain
      (fun _ _ => True) {}).exists_runWith
    (P := fun h => h.gateway.lookup.userIdFor 1 = "owner" ∧
      h.gateway.lookup.userIdFor 2 = "owner")
    [.command (loginOf 1 "owner") [], .command (loginOf 2 "owner") []] (by decide +kernel)
  have hsame := (hlocal _ h hr).single 1 2 (by rw [hfirst]; decide) (hfirst.trans hsecond.symm)
  exact absurd hsame (by decide)

end BoostGateway.Gateway
