import BoostGateway.Gateway.OffloadedInput

/-!
# What a command changes

The commands that change the sessions or battles of a gateway call the backends first, and
only an answer that accepts the request leads to a change. For each of them one lemma says
how the command may end, up to messages (`Still`) : nothing was called, a call was not
accepted, or all were and the change is made.
-/

namespace BoostGateway.Gateway

open Json Battle Service

/-- The call succeeds and the status of the answer is `ok`. -/
def Accepts (result : BackendRoutingResult) (resp : Json) : Prop :=
  result.success = true ∧ readAccepted result.responsePayload = .ok (some resp)

variable {fallback : String}

theorem readAnswer_eq_accepted {payload : String} {resp : Json} :
    readAnswer fallback payload = .ok (.accepted resp) ↔
      readAccepted payload = .ok (some resp) := by
  unfold readAnswer readAccepted
  cases parseDocument payload with
  | none => simp
  | some doc =>
    cases hstatus : doc.value getString "status" "" with
    | error e => simp [hstatus, bind, Except.bind]
    | ok status =>
      by_cases hok : status = "ok"
      · simp [hstatus, hok, bind, Except.bind, pure, Except.pure]
      · cases hreason : doc.value getString "reason" fallback <;>
          simp [hstatus, hok, hreason, bind, Except.bind, pure, Except.pure]

variable {result : BackendRoutingResult}

theorem accepts_of_readAnswer {resp : Json} (hs : result.success = true)
    (h : readAnswer fallback result.responsePayload = .ok (.accepted resp)) :
    Accepts result resp :=
  ⟨hs, readAnswer_eq_accepted.mp h⟩

theorem not_accepts_of_readAnswer
    {answer : Except TypeError Answer} (h : readAnswer fallback result.responsePayload = answer)
    (hanswer : ∀ resp, answer ≠ .ok (.accepted resp)) (resp : Json) : ¬Accepts result resp :=
  fun ha => hanswer resp (h.symm.trans (readAnswer_eq_accepted.mpr ha.2))

theorem Accepts.unique {resp resp' : Json}
    (h : Accepts result resp) (h' : Accepts result resp') : resp = resp' :=
  Option.some.inj (Except.ok.inj (h.2.symm.trans h'.2))

/-- What a login that is accepted says of the user's other session and of the role. -/
def acceptedLogin (result : BackendRoutingResult) : Option (Bool × Role) :=
  if result.success then
    match readAccepted result.responsePayload with
    | .ok (some resp) => (BridgeRuntime.readLogin resp).toOption
    | _ => none
  else none

theorem Accepts.acceptedLogin {result : BackendRoutingResult} {resp : Json} {login : Bool × Role}
    (h : Accepts result resp) (hread : BridgeRuntime.readLogin resp = .ok login) :
    acceptedLogin result = some login := by
  rw [Gateway.acceptedLogin, if_pos h.1, h.2]
  simp only [hread]
  rfl

/-- The request of a user for a room. -/
def roomCall (p : Platform) (messageType userId roomId : String) : BackendCall :=
  ⟨.room, messageType, p.dump (BridgeRuntime.roomPayload userId roomId)⟩

namespace BridgeRuntime

variable {W : Type*} (p : Platform) (backend : W → BackendCall → W × BackendRoutingResult)

/-- Only messages were written. -/
abbrev Still (g g' : BridgeRuntime W) : Prop := Quiet backend (fun _ => False) g g'

/-- What follows a call that returned `r` : an answer that accepts it leads to a change. -/
inductive Routed (change : BridgeRuntime W → BridgeRuntime W)
    (r : BridgeRuntime W × BackendRoutingResult) (g' : BridgeRuntime W) : Prop
  | refused (h : ∀ resp, ¬Accepts r.2 resp) (still : Still backend r.1 g')
  | accepted {resp : Json} (h : Accepts r.2 resp) (still : Still backend (change r.1) g')

/-- The body of a login that goes to the login backend. -/
def loginBody (c : GatewayCommand) : Option ParsedLoginCommandBody :=
  (parseLoginCommandBody c.body).filter validateLoginCommandBody

def loginCall (body : ParsedLoginCommandBody) : BackendCall :=
  ⟨.login, "login_request", p.dump (loginPayload body)⟩

/-- What an accepted login changes. -/
def logIn (sessionId : SessionId) (userId : String) (isDuplicate : Bool) (role : Role)
    (g : BridgeRuntime W) : BridgeRuntime W :=
  let g := g.setSessionRole sessionId role
  (if isDuplicate then g.kickOldSession p userId else g).setSessionUser sessionId userId

/-- A login comes to nothing, or is accepted for the user of its body. -/
theorem login_cases (g : BridgeRuntime W) (c : GatewayCommand) :
    Still backend g (g.login p backend c).1 ∨
    ∃ body, loginBody c = some body ∧
      (Still backend (g.route backend (loginCall p body)).1 (g.login p backend c).1 ∨
        ∃ isDuplicate role,
          acceptedLogin (backend g.world (loginCall p body)).2 = some (isDuplicate, role) ∧
          Still backend (logIn p c.sessionId body.userId isDuplicate role
            (g.route backend (loginCall p body)).1) (g.login p backend c).1) := by
  unfold login
  split
  · exact .inl (quiet_replyError ..)
  · rename_i body hbody
    dsimp only
    split
    · exact .inl (quiet_replyError ..)
    · refine .inr ⟨body, hbody, ?_⟩
      have hresult : (backend g.world (loginCall p body)).2 =
        (g.route backend (loginCall p body)).2 := rfl
      rw [hresult]
      unfold loginCall
      generalize g.route backend _ = r
      split_ifs with hs
      · split
        · exact .inl (.refl _)
        · exact .inl (quiet_replyError ..)
        · rename_i resp hanswer
          split
          · exact .inl (.refl _)
          · rename_i isDuplicate role hread
            exact .inr ⟨isDuplicate, role, (accepts_of_readAnswer hs hanswer).acceptedLogin hread,
              quiet_emit ..⟩
      · exact .inl (quiet_replyError ..)
      · exact .inl (quiet_replyError ..)

theorem not_accepts_of_not_success {result : BackendRoutingResult} (h : ¬result.success = true)
    (resp : Json) : ¬Accepts result resp :=
  fun ha => h ha.1

theorem roomCreate_cases (g : BridgeRuntime W) (c : GatewayCommand) :
    Still backend g (g.roomCreate p backend c).1 ∨
    g.lookup.userIdFor c.sessionId ≠ "" ∧ c.body ≠ "" ∧
      Routed backend (·.setSessionRoom c.sessionId c.body)
        (g.route backend (roomCall p "room_create" (g.lookup.userIdFor c.sessionId) c.body))
        (g.roomCreate p backend c).1 := by
  unfold roomCreate parseRoomIdBody
  by_cases hbody : c.body = ""
  · simp only [hbody, if_true]
    exact .inl (quiet_replyError ..)
  · simp only [hbody, if_false]
    by_cases huser : g.lookup.userIdFor c.sessionId = ""
    · simp only [huser, if_true]
      exact .inl (quiet_replyError ..)
    · simp only [huser, if_false]
      split
      · exact .inl (quiet_replyError ..)
      · refine .inr ⟨huser, hbody, ?_⟩
        unfold bridgeRoute
        unfold roomCall
        dsimp only
        generalize g.route backend _ = r
        split_ifs with hs
        · split
          · rename_i hanswer
            exact .refused (not_accepts_of_readAnswer hanswer (by simp)) (.refl _)
          · rename_i resp hanswer
            exact .accepted (accepts_of_readAnswer hs hanswer) (quiet_emit ..)
          · rename_i hanswer
            exact .refused (not_accepts_of_readAnswer hanswer (by simp)) (quiet_replyError ..)
        · refine .refused (not_accepts_of_not_success hs) ?_
          split
          · exact .refl _
          · exact quiet_replyError ..

theorem roomJoin_cases (g : BridgeRuntime W) (c : GatewayCommand) :
    Still backend g (g.roomJoin p backend c).1 ∨
    g.lookup.userIdFor c.sessionId ≠ "" ∧ c.body ≠ "" ∧
      Routed backend (·.setSessionRoom c.sessionId c.body)
        (g.route backend (roomCall p "room_join" (g.lookup.userIdFor c.sessionId) c.body))
        (g.roomJoin p backend c).1 := by
  unfold roomJoin parseRoomIdBody
  by_cases hbody : c.body = ""
  · simp only [hbody, if_true]
    exact .inl (quiet_replyError ..)
  · simp only [hbody, if_false]
    by_cases huser : g.lookup.userIdFor c.sessionId = ""
    · simp only [huser, if_true]
      exact .inl (quiet_replyError ..)
    · simp only [huser, if_false]
      split
      · exact .inl (quiet_replyError ..)
      · refine .inr ⟨huser, hbody, ?_⟩
        unfold roomCall
        generalize g.route backend _ = r
        split_ifs with hs
        · split
          · rename_i hanswer
            exact .refused (not_accepts_of_readAnswer hanswer (by simp)) (.refl _)
          · rename_i resp hanswer
            exact .accepted (accepts_of_readAnswer hs hanswer) (quiet_emit ..)
          · rename_i hanswer
            exact .refused (not_accepts_of_readAnswer hanswer (by simp)) (quiet_replyError ..)
        · exact .refused (not_accepts_of_not_success hs) (quiet_roomFailure ..)

theorem roomLeave_cases (g : BridgeRuntime W) (c : GatewayCommand) :
    Still backend g (g.roomLeave p backend c).1 ∨
    g.lookup.userIdFor c.sessionId ≠ "" ∧ g.lookup.roomIdFor c.sessionId ≠ "" ∧
      Routed backend (·.eraseSessionRoom c.sessionId)
        (g.route backend (roomCall p "room_leave" (g.lookup.userIdFor c.sessionId)
          (g.lookup.roomIdFor c.sessionId)))
        (g.roomLeave p backend c).1 := by
  unfold roomLeave
  dsimp only
  by_cases hnone : g.lookup.userIdFor c.sessionId = "" ∨ g.lookup.roomIdFor c.sessionId = ""
  · simp only [hnone, if_true]
    exact .inl (.refl g)
  · simp only [hnone, if_false]
    split
    · exact .inl (quiet_replyError ..)
    · refine .inr ⟨(not_or.mp hnone).1, (not_or.mp hnone).2, ?_⟩
      unfold roomCall
      generalize g.route backend _ = r
      split_ifs with hs
      · split
        · rename_i hanswer
          exact .refused (not_accepts_of_readAnswer hanswer (by simp)) (.refl _)
        · rename_i resp hanswer
          exact .accepted (accepts_of_readAnswer hs hanswer) (quiet_emit ..)
        · rename_i hanswer
          exact .refused (not_accepts_of_readAnswer hanswer (by simp)) (quiet_replyError ..)
      · exact .refused (not_accepts_of_not_success hs) (quiet_replyError ..)

/-- What follows the call to start a battle that returned `r` : the room does not start it,
or does not say how to create it, or it is not created, or the room has a battle from now
on. -/
inductive Starts (roomId : String) (r : BridgeRuntime W × BackendRoutingResult)
    (g' : BridgeRuntime W) : Prop
  | refused (h : ∀ resp, ¬Accepts r.2 resp) (still : Still backend r.1 g')
  | unforwarded {resp : Json} (h : Accepts r.2 resp)
      (hforward : ∀ forward, readForward p resp ≠ .ok (some forward))
      (still : Still backend r.1 g')
  | uncreated {resp : Json} {messageType payload : String} (h : Accepts r.2 resp)
      (hforward : readForward p resp = .ok (some (messageType, payload)))
      (hcreate : ∀ resp battleId,
        Accepts (r.1.route backend ⟨.battle, messageType, payload⟩).2 resp →
          resp.value getString "battle_id" "" ≠ .ok battleId)
      (still : Still backend (r.1.route backend ⟨.battle, messageType, payload⟩).1 g')
  | started {resp created : Json} {messageType payload battleId : String} (h : Accepts r.2 resp)
      (hforward : readForward p resp = .ok (some (messageType, payload)))
      (hcreate : Accepts (r.1.route backend ⟨.battle, messageType, payload⟩).2 created)
      (hid : created.value getString "battle_id" "" = .ok battleId)
      (still : Still backend
        ((r.1.route backend ⟨.battle, messageType, payload⟩).1.trackBattle roomId battleId) g')

theorem accepts_of_readAccepted {result : BackendRoutingResult} {resp : Json}
    (h : (if result.success then readAccepted result.responsePayload else .ok none) =
      .ok (some resp)) : Accepts result resp := by
  split_ifs at h with hs
  · exact ⟨hs, h⟩
  · cases h

theorem not_accepts_of_readAccepted {result : BackendRoutingResult}
    {answer : Except TypeError (Option Json)}
    (h : (if result.success then readAccepted result.responsePayload else .ok none) = answer)
    (hanswer : ∀ resp, answer ≠ .ok (some resp)) (resp : Json) : ¬Accepts result resp := fun ha =>
  hanswer resp (h.symm.trans (by rw [if_pos ha.1, ha.2]))

/-- The gateway goes on to create the battle. -/
theorem starts_createBattle {r : BridgeRuntime W × BackendRoutingResult} {resp : Json}
    {messageType payload : String} (haccepts : Accepts r.2 resp)
    (hforward : readForward p resp = .ok (some (messageType, payload))) (c : GatewayCommand)
    {roomId : String} :
    Starts p backend roomId r (r.1.createBattle backend c roomId messageType payload).1 := by
  unfold createBattle
  dsimp only
  split
  · rename_i hcreate
    refine .uncreated haccepts hforward (fun resp battleId ha => ?_) (.refl _)
    exact absurd ha (not_accepts_of_readAccepted hcreate (by simp) resp)
  · rename_i hcreate
    refine .uncreated haccepts hforward (fun resp battleId ha => ?_) (quiet_replyError ..)
    exact absurd ha (not_accepts_of_readAccepted hcreate (by simp) resp)
  · rename_i created hcreate
    have hcreated := accepts_of_readAccepted hcreate
    split
    · rename_i hid
      refine .uncreated haccepts hforward (fun resp battleId ha => ?_) (.refl _)
      simp [ha.unique hcreated, hid]
    · rename_i battleId hid
      exact .started haccepts hforward hcreated hid
        ((quiet_emit ..).trans (quiet_eachPush (quiet_announceStarted _ _) _ _))

theorem battleStart_cases (g : BridgeRuntime W) (c : GatewayCommand) :
    Still backend g (g.battleStart p backend c).1 ∨
    g.lookup.userIdFor c.sessionId ≠ "" ∧ g.lookup.roomIdFor c.sessionId ≠ "" ∧
      Starts p backend (g.lookup.roomIdFor c.sessionId)
        (g.route backend (roomCall p "room_start_battle" (g.lookup.userIdFor c.sessionId)
          (g.lookup.roomIdFor c.sessionId)))
        (g.battleStart p backend c).1 := by
  unfold battleStart
  dsimp only
  by_cases hnone : g.lookup.userIdFor c.sessionId = "" ∨ g.lookup.roomIdFor c.sessionId = ""
  · simp only [hnone, if_true]
    exact .inl (.refl g)
  simp only [hnone, if_false]
  split
  · exact .inl (quiet_replyError ..)
  rename_i requested _
  by_cases hroom : requested.any (· ≠ g.lookup.roomIdFor c.sessionId) = true
  · rw [if_pos hroom]
    exact .inl (quiet_replyError ..)
  rw [if_neg hroom]
  split
  · exact .inl (quiet_replyError ..)
  refine .inr ⟨(not_or.mp hnone).1, (not_or.mp hnone).2, ?_⟩
  unfold roomCall
  generalize g.route backend _ = r
  split_ifs with hs
  · split
    · rename_i hanswer
      exact .refused (not_accepts_of_readAnswer hanswer (by simp)) (.refl _)
    · rename_i hanswer
      exact .refused (not_accepts_of_readAnswer hanswer (by simp)) (quiet_replyError ..)
    · rename_i resp hanswer
      have haccepts := accepts_of_readAnswer hs hanswer
      split
      · rename_i hforward
        exact .unforwarded haccepts (by simp [hforward]) (.refl _)
      · rename_i hforward
        exact .unforwarded haccepts (by simp [hforward]) (quiet_replyError ..)
      · rename_i messageType payload hforward
        exact starts_createBattle p backend haccepts hforward c
  · exact .refused (not_accepts_of_not_success hs) (quiet_roomFailure ..)

theorem startBattleForRoom_cases (g : BridgeRuntime W) (roomId userId : String) :
    Starts p backend roomId (g.route backend (roomCall p "room_start_battle" userId roomId))
      (g.startBattleForRoom p backend roomId userId).1 := by
  unfold startBattleForRoom roomCall
  dsimp only
  generalize g.route backend _ = r
  split
  · rename_i hstart
    exact .refused (not_accepts_of_readAccepted hstart (by simp)) (.refl _)
  · rename_i hstart
    exact .refused (not_accepts_of_readAccepted hstart (by simp)) (.refl _)
  · rename_i resp hstart
    have haccepts := accepts_of_readAccepted hstart
    split
    · rename_i hforward
      exact .unforwarded haccepts (by simp [hforward]) (.refl _)
    · rename_i hforward
      exact .unforwarded haccepts (by simp [hforward]) (.refl _)
    · rename_i messageType payload hforward
      split
      · rename_i hcreate
        refine .uncreated haccepts hforward (fun resp battleId ha => ?_) (.refl _)
        exact absurd ha (not_accepts_of_readAccepted hcreate (by simp) resp)
      · rename_i hcreate
        refine .uncreated haccepts hforward (fun resp battleId ha => ?_) (.refl _)
        exact absurd ha (not_accepts_of_readAccepted hcreate (by simp) resp)
      · rename_i created hcreate
        have hcreated := accepts_of_readAccepted hcreate
        split
        · rename_i hid
          refine .uncreated haccepts hforward (fun resp battleId ha => ?_) (.refl _)
          simp [ha.unique hcreated, hid]
        · rename_i battleId hid
          exact .started haccepts hforward hcreated hid (.refl _)

/-! ## What inputs leave alone -/

/-- The sessions keep their users and rooms, and every call is one of `Q`. -/
structure KeepsSessions (Q : BackendCall → Prop) (g g' : BridgeRuntime W) : Prop where
  lookup : g'.lookup = g.lookup
  calls : ∃ calls, (∀ call ∈ calls, Q call) ∧ g'.calls = g.calls ++ calls ∧
    g'.world = worldAfter backend g.world calls

variable {p backend} {Q : BackendCall → Prop} {g g₁ g₂ : BridgeRuntime W}

theorem Quiet.keepsSessions (h : Quiet backend Q g g₁) : KeepsSessions backend Q g g₁ :=
  ⟨h.lookup, h.calls⟩

theorem KeepsSessions.trans (h : KeepsSessions backend Q g g₁)
    (h' : KeepsSessions backend Q g₁ g₂) : KeepsSessions backend Q g g₂ := by
  obtain ⟨cs, hcs, hcalls, hworld⟩ := h.calls
  obtain ⟨cs', hcs', hcalls', hworld'⟩ := h'.calls
  refine ⟨h'.lookup.trans h.lookup, cs ++ cs', List.forall_mem_append.mpr ⟨hcs, hcs'⟩, ?_, ?_⟩
  · rw [hcalls', hcalls, List.append_assoc]
  · rw [hworld', hworld, worldAfter, worldAfter, worldAfter, List.foldl_append]

theorem keepsSessions_untrackBattle (g : BridgeRuntime W) (roomId : String) :
    KeepsSessions backend Q g (g.untrackBattle roomId) :=
  ⟨rfl, [], by simp, by simp [untrackBattle], rfl⟩

theorem keepsSessions_trackBattle (g : BridgeRuntime W) (roomId battleId : String) :
    KeepsSessions backend Q g (g.trackBattle roomId battleId) := by
  unfold trackBattle
  split_ifs
  · exact (Quiet.refl g).keepsSessions
  · exact ⟨rfl, [], by simp, by simp, rfl⟩

theorem keepsSessions_announceInline (hQ : HasSubmits p Q) (roomId : String) (g : BridgeRuntime W)
    (push : Json) : KeepsSessions backend Q g (announceInline p backend roomId g push).1 := by
  unfold announceInline
  split
  · exact (Quiet.refl g).keepsSessions
  · split_ifs
    · exact (quiet_announceFrame roomId g push).keepsSessions
    · have hsubmit : Quiet backend Q g
          (g.submitBattleFinishedPushToLeaderboard p backend push roomId).1 :=
        quiet_submitBattleFinishedPushToLeaderboard hQ g push roomId
      split <;> rename_i heq <;> rw [heq] at hsubmit
      · exact hsubmit.keepsSessions
      · exact (hsubmit.trans (quiet_broadcastToRoom ..)).keepsSessions.trans
          (keepsSessions_untrackBattle ..)
    · exact (Quiet.refl g).keepsSessions

/-- The call of a task. -/
def inputCall (task : BattleRouteTask) : BackendCall := ⟨.battle, "battle_input", task.payload⟩

def finishCall (p : Platform) (userId battleId : String) (reason : BattleFinishReason) :
    BackendCall :=
  ⟨.battle, "battle_finish", p.dump (.ofMembers
    [("user_id", .string userId), ("battle_id", .string battleId),
     ("reason", .string reason.toString)])⟩

theorem keepsSessions_battleInputInline {task : BattleRouteTask} (hinput : Q (inputCall task))
    (hsubmit : HasSubmits p Q) (g : BridgeRuntime W) :
    KeepsSessions backend Q g (g.battleInputInline p backend task).1 := by
  have hroute : KeepsSessions backend Q g (g.route backend (inputCall task)).1 :=
    (g.quiet_route hinput).keepsSessions
  unfold inputCall at hroute
  unfold battleInputInline afterInput
  dsimp only
  split_ifs
  · split
    · exact hroute
    · exact hroute.trans (quiet_emit ..).keepsSessions
    · split
      · exact hroute
      · exact (hroute.trans (quiet_emit ..).keepsSessions).trans
          (eachPush_induction (fun g => (Quiet.refl g).keepsSessions) .trans
            (keepsSessions_announceInline hsubmit _) _ _)
  · exact hroute.trans (quiet_emit ..).keepsSessions

theorem keepsSessions_battleFinish {userId battleId : String} {reason : BattleFinishReason}
    (hfinish : Q (finishCall p userId battleId reason)) (hsubmit : HasSubmits p Q)
    (hroom : ∀ payload, Q ⟨.room, "room_battle_finished", payload⟩) (g : BridgeRuntime W)
    (c : GatewayCommand) (roomId : String) :
    KeepsSessions backend Q g (g.battleFinish p backend c userId roomId battleId reason).1 := by
  have hroute : KeepsSessions backend Q g
      (g.route backend (finishCall p userId battleId reason)).1 :=
    (g.quiet_route hfinish).keepsSessions
  unfold finishCall at hroute
  unfold battleFinish
  dsimp only
  split
  · exact hroute
  · exact hroute.trans (quiet_replyError ..).keepsSessions
  · rename_i resp _
    generalize hemit : ((g.route backend _).1.emit _ _ _ _ _ : BridgeRuntime W) = g₁
    have hemitted : KeepsSessions backend Q g g₁ :=
      hemit ▸ hroute.trans (quiet_emit ..).keepsSessions
    have hpushes : KeepsSessions backend Q g₁
        (eachPush (announceFinished p backend roomId) g₁ (pushesOf resp)).1 :=
      (quiet_eachPush (quiet_announceFinished hsubmit roomId) g₁ _).keepsSessions
    split <;> rename_i heq <;> rw [heq] at hpushes
    · exact hemitted.trans hpushes
    · refine (hemitted.trans hpushes).trans (KeepsSessions.trans ?_ (keepsSessions_untrackBattle ..))
      exact (quiet_route (hroom _) _).keepsSessions

/-- The task of an input of a user. -/
def taskOf (p : Platform) (c : GatewayCommand) (userId roomId battleId : String)
    (input : ParsedBattleInputCommandBody) : BattleRouteTask :=
  { sessionId := c.sessionId, requestId := c.requestId, roomId
    payload := p.dump (inputPayload userId battleId input) }

theorem keepsSessions_battleInput {g : BridgeRuntime W} {c : GatewayCommand}
    (hinput : ∀ roomId battleId input,
      Q (inputCall (taskOf p c (g.lookup.userIdFor c.sessionId) roomId battleId input)))
    (hfinish : ∀ battleId reason,
      Q (finishCall p (g.lookup.userIdFor c.sessionId) battleId reason))
    (hsubmit : HasSubmits p Q) (hroom : ∀ payload, Q ⟨.room, "room_battle_finished", payload⟩) :
    KeepsSessions backend Q g (g.battleInput p backend c).1 := by
  unfold battleInput battleInputOn
  dsimp only
  by_cases hnone : g.lookup.userIdFor c.sessionId = "" ∨ g.lookup.roomIdFor c.sessionId = ""
  · rw [if_pos hnone]
    exact (Quiet.refl g).keepsSessions
  rw [if_neg hnone]
  split
  · exact (quiet_replyError ..).keepsSessions
  · rename_i input _
    split_ifs
    · exact keepsSessions_battleFinish (hfinish ..) hsubmit hroom ..
    · exact ⟨rfl, [], by simp, by simp [enqueueBattleRouteTask], rfl⟩
    · exact keepsSessions_battleInputInline (hinput (g.lookup.roomIdFor c.sessionId) _ input)
        hsubmit g
    · exact (quiet_replyError ..).keepsSessions

theorem keepsSessions_runBattleRouteTask {task : BattleRouteTask} (hinput : Q (inputCall task))
    (g : BridgeRuntime W) :
    KeepsSessions backend Q g (g.runBattleRouteTask p backend task).1 := by
  have hroute : KeepsSessions backend Q g (g.route backend (inputCall task)).1 :=
    (g.quiet_route hinput).keepsSessions
  unfold inputCall at hroute
  unfold runBattleRouteTask afterInput
  dsimp only
  split_ifs
  · split
    · exact hroute
    · exact hroute.trans (quiet_emit ..).keepsSessions
    · split
      · exact hroute
      · exact (hroute.trans (quiet_emit ..).keepsSessions).trans
          (quiet_eachPush (quiet_announceOffload _) _ _).keepsSessions
  · exact hroute.trans (quiet_emit ..).keepsSessions

/-! ## Tasks -/

theorem battleRouteTasks_logIn (sessionId : SessionId) (userId : String) (isDuplicate : Bool)
    (role : Role) (g : BridgeRuntime W) :
    (logIn p sessionId userId isDuplicate role g).battleRouteTasks = g.battleRouteTasks := by
  unfold logIn kickOldSession
  dsimp only
  split_ifs
  · split <;> rfl
  · rfl

theorem Routed.battleRouteTasks {change : BridgeRuntime W → BridgeRuntime W}
    {call : BackendCall} (h : Routed backend change (g.route backend call) g₁)
    (hchange : ∀ g, (change g).battleRouteTasks = g.battleRouteTasks) :
    g₁.battleRouteTasks = g.battleRouteTasks := by
  cases h with
  | refused _ still => exact still.battleRouteTasks
  | accepted _ still => exact still.battleRouteTasks.trans (hchange _)

theorem battleRouteTasks_trackBattle (g : BridgeRuntime W) (roomId battleId : String) :
    (g.trackBattle roomId battleId).battleRouteTasks = g.battleRouteTasks := by
  unfold trackBattle
  split_ifs <;> rfl

theorem Starts.battleRouteTasks {call : BackendCall} {roomId : String}
    (h : Starts p backend roomId (g.route backend call) g₁) :
    g₁.battleRouteTasks = g.battleRouteTasks := by
  cases h with
  | refused _ still => exact still.battleRouteTasks
  | unforwarded _ _ still => exact still.battleRouteTasks
  | uncreated _ _ _ still => exact still.battleRouteTasks
  | started _ _ _ _ still =>
    exact still.battleRouteTasks.trans (battleRouteTasks_trackBattle ..)

/-- Of all commands an input alone queues a task. -/
theorem battleRouteTasks_handle (g : BridgeRuntime W) {c : GatewayCommand}
    (h : c.type ≠ .kBattleInput) :
    (g.handle p backend c).1.battleRouteTasks = g.battleRouteTasks := by
  by_cases hchanges : changes c.type = true
  · unfold handle
    split_ifs
    · cases htype : c.type <;>
        simp only [htype, changes, Bool.false_eq_true, not_true_eq_false, ne_eq] at hchanges h ⊢
      · rcases g.login_cases p backend c with h | ⟨_, -, h | ⟨_, _, -, h⟩⟩
        · exact h.battleRouteTasks
        · exact h.battleRouteTasks
        · exact h.battleRouteTasks.trans (battleRouteTasks_logIn ..)
      · rcases g.roomCreate_cases p backend c with h | ⟨-, -, h⟩
        · exact h.battleRouteTasks
        · exact h.battleRouteTasks fun _ => rfl
      · rcases g.roomJoin_cases p backend c with h | ⟨-, -, h⟩
        · exact h.battleRouteTasks
        · exact h.battleRouteTasks fun _ => rfl
      · rcases g.roomLeave_cases p backend c with h | ⟨-, -, h⟩
        · exact h.battleRouteTasks
        · exact h.battleRouteTasks fun _ => rfl
      · rcases g.battleStart_cases p backend c with h | ⟨-, -, h⟩
        · exact h.battleRouteTasks
        · exact h.battleRouteTasks
    · rfl
  · exact (g.quiet_handle (Bool.eq_false_iff.mpr hchanges)).battleRouteTasks

theorem battleRouteTasks_bindPlayers (roomId : String) (playerIds : List String)
    (g : BridgeRuntime W) :
    (g.bindPlayers p roomId playerIds).battleRouteTasks = g.battleRouteTasks := by
  unfold bindPlayers
  induction playerIds generalizing g with
  | nil => rfl
  | cons userId playerIds ih =>
    rw [List.foldl_cons, ih]
    split <;> rfl

theorem battleRouteTasks_onMatchFound (g : BridgeRuntime W) (result : Match.MatchResult) :
    (g.onMatchFound p backend result).1.battleRouteTasks = g.battleRouteTasks := by
  have hroute : ∀ {α : Type} (f : α → BackendCall) (xs : List α) (g : BridgeRuntime W),
      AnyQuiet backend g (xs.foldl (fun g x => (g.route backend (f x)).1) g) :=
    fun f xs g => quiet_foldl (fun g x => g.quiet_route trivial) g xs
  have hpush : ∀ (g : BridgeRuntime W) (roomId : String),
      AnyQuiet backend g (g.sendMatchFoundPushes p result roomId) := by
    refine fun g roomId => quiet_foldl (fun g userId => ?_) g _
    split
    · exact quiet_emit ..
    · exact .refl g
  have hcreate : (g.createRoomFromMatch p backend result).1.battleRouteTasks =
      g.battleRouteTasks := by
    unfold createRoomFromMatch
    dsimp only
    split
    · rfl
    · split_ifs
      · exact (hroute _ _ _).battleRouteTasks.trans (battleRouteTasks_bindPlayers ..)
      · rfl
  unfold onMatchFound
  split_ifs
  · rfl
  · split <;> rename_i heq <;> rw [heq] at hcreate
    · exact hcreate
    · dsimp only
      refine (startBattleForRoom_cases ..).battleRouteTasks.trans ?_
      exact ((hroute _ _ _).battleRouteTasks.trans (hpush _ _).battleRouteTasks).trans hcreate

end BridgeRuntime

end BoostGateway.Gateway
