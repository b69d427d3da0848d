import BoostGateway.Login.LoginBackend

/-!
# Whose token a user holds

With a JWT validator `login_request` compares the subject of the token with the user it is
for. `token_refresh` only asks whether the token validates : a user who presents the token
of another gets it written under the own name (`not_owned_tokenOfA`).

What a request does to the tokens (`Outcome`) : it leaves them, or it is a login that
writes a token of its user, or a refresh that goes through. So the tokens written in a run
are all their users' exactly when every refresh that goes through presents one
(`owned_iff`).
-/

namespace BoostGateway.Login

open Room.RoomBackend (fields stringField)

/-- The token validates, with the user as its subject. -/
def Grant.Owned (v : JwtValidator) (g : Grant) : Prop :=
  ∃ payload, v.validateText g.now g.token = .ok (.valid payload) ∧ payload.sub = g.userId

namespace LoginBackend

/-- A refresh that goes through : it is for the user, whose account is not refused, and its
token validates with the payload. -/
structure Presents (v : JwtValidator) (s : LoginBackend) (r : Request) (userId token : String)
    (payload : JwtPayload) : Prop where
  kind_eq : r.kind = .tokenRefresh
  reads : ∃ doc, fields ["user_id", "token"] r.payload = some doc ∧
    stringField doc "user_id" = .ok userId ∧ stringField doc "token" = .ok token
  accountRefusal_eq : s.accountRefusal userId = none
  validates : v.validateText r.now token = .ok (.valid payload)

/-- If the request is a refresh that goes through, it presents a token of its user. -/
def OwnRefresh (v : JwtValidator) (s : LoginBackend) (r : Request) : Prop :=
  ∀ userId token payload, s.Presents v r userId token payload → payload.sub = userId

/-- Every token written is its user's. -/
def Owned (v : JwtValidator) (s : LoginBackend) : Prop := ∀ g ∈ s.grants, g.Owned v

/-- An `ok` of `token_refresh` names a token of the user it names. -/
def AnswersOwn (v : JwtValidator) (s : LoginBackend) (r : Request) : Prop :=
  r.kind = .tokenRefresh → ∀ body, (s.handle r).2 = .ok body →
    ∃ g : Grant, body.find? "user_id" = some (.string g.userId) ∧
      body.find? "new_token" = some (.string g.token) ∧ g.now = r.now ∧ g.Owned v

/-! ## What a request does to the tokens -/

/-- The validator and the tokens are the same. -/
structure SameTokens (s s' : LoginBackend) : Prop where
  jwtValidator_eq : s'.jwtValidator = s.jwtValidator
  userTokens_eq : s'.userTokens = s.userTokens
  grants_eq : s'.grants = s.grants

/-- The token is written and the validator is the same. -/
structure Writes (s : LoginBackend) (g : Grant) (s' : LoginBackend) : Prop where
  jwtValidator_eq : s'.jwtValidator = s.jwtValidator
  userTokens_eq : s'.userTokens = Function.update s.userTokens g.userId (some g.token)
  grants_eq : s'.grants = s.grants ++ [g]

variable {v : JwtValidator} {s s' : LoginBackend} {r : Request}

theorem SameTokens.refl (s : LoginBackend) : SameTokens s s := ⟨rfl, rfl, rfl⟩

theorem writes_setToken (s : LoginBackend) (now : ℤ) (userId token : String) :
    Writes s { userId, token, now } (s.setToken now userId token) := ⟨rfl, rfl, rfl⟩

/-- What a request does to the tokens. -/
inductive Outcome (v : JwtValidator) (s : LoginBackend) (r : Request) :
    LoginBackend × Reply → Prop
  | kept (s' : LoginBackend) (reply : Reply) (h : SameTokens s s')
      (hreply : r.kind = .tokenRefresh → ∀ body, reply ≠ .ok body) : Outcome v s r (s', reply)
  | loggedIn (s' : LoginBackend) (reply : Reply) (g : Grant) (h : Writes s g s')
      (howned : g.Owned v) (hkind : r.kind = .loginRequest) : Outcome v s r (s', reply)
  | refreshed (s' : LoginBackend) (userId token refreshToken : String) (payload : JwtPayload)
      (h : Writes s { userId, token, now := r.now } s')
      (hpresents : s.Presents v r userId token payload) :
      Outcome v s r (s', .ok (refreshBody userId token refreshToken))

/-- A request that changes nothing and is refused. -/
theorem outcome_error (s : LoginBackend) (r : Request) (code : ℤ) (reason : String) :
    Outcome v s r (s, .error code reason) :=
  .kept s _ (.refl s) fun _ _ => Reply.noConfusion

theorem outcome_of_kind_ne (h : SameTokens s s') (hkind : r.kind ≠ .tokenRefresh) (reply : Reply) :
    Outcome v s r (s', reply) :=
  .kept s' reply h fun hr => absurd hr hkind

/-! ## The checks of the tokens -/

theorem loginRole_eq_ok {now : ℤ} {userId token role : String} (hv : s.jwtValidator = some v)
    (h : s.loginRole now userId token = .ok (.ok role)) :
    ∃ payload, v.validateText now token = .ok (.valid payload) ∧ payload.sub = userId := by
  unfold loginRole at h
  rw [hv] at h
  dsimp only at h
  cases hvalid : v.validateText now token with
  | error e =>
    rw [hvalid] at h
    cases h
  | ok result =>
    rw [hvalid] at h
    cases result with
    | invalid error => cases h
    | valid payload =>
      by_cases hsub : payload.sub = userId
      · exact ⟨payload, rfl, hsub⟩
      · simp [bind, Except.bind, hsub, pure, Except.pure] at h

theorem refreshValid_eq_true {now : ℤ} {userId token : String} (hv : s.jwtValidator = some v)
    (h : s.refreshValid now userId token = .ok true) :
    ∃ payload, v.validateText now token = .ok (.valid payload) := by
  unfold refreshValid at h
  rw [hv] at h
  dsimp only at h
  cases hvalid : v.validateText now token with
  | error e =>
    rw [hvalid] at h
    cases h
  | ok result =>
    rw [hvalid] at h
    cases result with
    | invalid error => cases h
    | valid payload => exact ⟨payload, rfl⟩

/-- With a validator the new token is the one presented. -/
theorem acceptRefresh_of_validator (hv : s.jwtValidator = some v) (now nowMs : ℤ)
    (userId token : String) :
    s.acceptRefresh now nowMs userId token = (s.setToken now userId token,
      .ok (refreshBody userId token (userId ++ "_rt_" ++ toString nowMs))) := by
  simp [acceptRefresh, reissue, hv]

theorem find?_refreshBody_userId (userId newToken refreshToken : String) :
    (refreshBody userId newToken refreshToken).find? "user_id" = some (.string userId) := by
  simp [refreshBody, Json.find?_ofMembers]

theorem find?_refreshBody_newToken (userId newToken refreshToken : String) :
    (refreshBody userId newToken refreshToken).find? "new_token" = some (.string newToken) := by
  simp [refreshBody, Json.find?_ofMembers]

/-! ## The handlers -/

theorem outcome_acceptLogin {userId token : String} (hkind : r.kind = .loginRequest)
    (displayName role : String) (howned : Grant.Owned v ⟨userId, token, r.now⟩) :
    Outcome v s r (s.acceptLogin r.now userId token displayName role) := by
  unfold acceptLogin
  cases s.accountRefusal userId with
  | some reason => exact outcome_error s r _ _
  | none => exact .loggedIn _ _ _ ⟨rfl, rfl, rfl⟩ howned hkind

theorem outcome_loginRequest (hv : s.jwtValidator = some v) (hkind : r.kind = .loginRequest) :
    Ensures (Outcome v s r) (s.handleLoginRequest r) := by
  have hne : r.kind ≠ .tokenRefresh := by simp [hkind]
  unfold handleLoginRequest
  split
  · exact ensures_ok (outcome_error s r _ _)
  · split
    · exact ensures_ok (outcome_error s r _ _)
    · refine ensures_bind fun userId => ensures_bind fun token => ensures_bind fun name => ?_
      split_ifs
      · exact ensures_ok (outcome_error s r _ _)
      · exact ensures_ok (outcome_error s r _ _)
      · refine ensures_bind_of_eq fun checked hchecked => ?_
        cases checked with
        | error refusal => exact ensures_ok (outcome_of_kind_ne (.refl s) hne refusal)
        | ok role =>
          exact ensures_ok (outcome_acceptLogin hkind name role (loginRole_eq_ok hv hchecked))

theorem outcome_acceptRefresh {userId token : String} {payload : JwtPayload}
    (hv : s.jwtValidator = some v) (hpresents : s.Presents v r userId token payload) :
    Outcome v s r (s.acceptRefresh r.now r.nowMs userId token) := by
  rw [acceptRefresh_of_validator hv]
  exact .refreshed _ userId token _ payload (writes_setToken s _ _ _) hpresents

theorem outcome_tokenRefresh (hv : s.jwtValidator = some v) (hkind : r.kind = .tokenRefresh) :
    Ensures (Outcome v s r) (s.handleTokenRefresh r) := by
  unfold handleTokenRefresh
  split
  · exact ensures_ok (outcome_error s r _ _)
  · next doc hdoc =>
    refine ensures_bind_of_eq fun userId huser => ensures_bind_of_eq fun token htoken => ?_
    cases haccount : s.accountRefusal userId with
    | some reason => exact ensures_ok (outcome_error s r _ _)
    | none =>
      refine ensures_bind_of_eq fun tokenValid hvalid => ?_
      cases tokenValid with
      | false => exact ensures_ok (outcome_error s r _ _)
      | true =>
        obtain ⟨payload, hp⟩ := refreshValid_eq_true hv hvalid
        exact ensures_ok (outcome_acceptRefresh hv
          ⟨hkind, ⟨doc, hdoc, huser, htoken⟩, haccount, hp⟩)

theorem outcome_tokenValidate (hkind : r.kind = .tokenValidate) :
    Ensures (Outcome v s r) (s.handleTokenValidate r) := by
  have hne : r.kind ≠ .tokenRefresh := by simp [hkind]
  unfold handleTokenValidate
  split
  · exact ensures_ok (outcome_error s r _ _)
  · refine ensures_bind fun token => ensures_bind fun userId => ?_
    split_ifs
    · exact ensures_ok (outcome_of_kind_ne (.refl s) hne _)
    · exact ensures_bind fun valid => ensures_ok (outcome_of_kind_ne (.refl s) hne _)

theorem outcome_sessionBind (hkind : r.kind = .sessionBind) :
    Ensures (Outcome v s r) (s.handleSessionBind r) := by
  have hne : r.kind ≠ .tokenRefresh := by simp [hkind]
  unfold handleSessionBind
  split
  · exact ensures_ok (outcome_error s r _ _)
  · refine ensures_bind fun userId => ?_
    cases s.accountRefusal userId with
    | some reason => exact ensures_ok (outcome_error s r _ _)
    | none =>
      refine ensures_ok (outcome_of_kind_ne ?_ hne _)
      exact ⟨rfl, rfl, rfl⟩

theorem outcome_sessionClose (hkind : r.kind = .sessionClose) :
    Ensures (Outcome v s r) (s.handleSessionClose r) := by
  have hne : r.kind ≠ .tokenRefresh := by simp [hkind]
  unfold handleSessionClose
  split
  · exact ensures_ok (outcome_error s r _ _)
  · refine ensures_bind fun userId => ensures_ok (outcome_of_kind_ne ?_ hne _)
    exact ⟨rfl, rfl, rfl⟩

theorem outcome_guestLogin (hkind : r.kind = .guestLogin) :
    Ensures (Outcome v s r) (s.handleGuestLogin r) := by
  have hne : r.kind ≠ .tokenRefresh := by simp [hkind]
  unfold handleGuestLogin
  split
  · exact ensures_ok (outcome_error s r _ _)
  · refine ensures_bind fun displayName => ?_
    split
    · exact ensures_ok (outcome_error s r _ _)
    · refine ensures_ok (outcome_of_kind_ne ?_ hne _)
      exact ⟨rfl, rfl, rfl⟩

theorem ensures_outcome (hv : s.jwtValidator = some v) :
    Ensures (Outcome v s r) (s.handler r) := by
  unfold handler
  split
  · next hkind => exact outcome_loginRequest hv hkind
  · next hkind => exact outcome_tokenValidate hkind
  · next hkind => exact outcome_sessionBind hkind
  · next hkind => exact outcome_sessionClose hkind
  · next hkind => exact outcome_tokenRefresh hv hkind
  · next hkind => exact outcome_guestLogin hkind

theorem outcome_handle (hv : s.jwtValidator = some v) (r : Request) :
    Outcome v s r (s.handle r) := by
  unfold handle
  cases hresult : s.handler r with
  | ok result => exact ensures_outcome hv result hresult
  | error e => exact .kept s _ (.refl s) fun _ _ => Reply.noConfusion

/-- A refresh that goes through writes its token. -/
theorem handle_of_presents {userId token : String} {payload : JwtPayload}
    (hv : s.jwtValidator = some v) (h : s.Presents v r userId token payload) :
    Writes s { userId, token, now := r.now } (s.handle r).1 := by
  obtain ⟨doc, hdoc, huser, htoken⟩ := h.reads
  have hvalid : s.refreshValid r.now userId token = .ok true := by
    simp [refreshValid, hv, h.validates, Except.map, JwtResult.isValid]
  have hhandler : s.handler r = .ok (s.acceptRefresh r.now r.nowMs userId token) := by
    simp [handler, h.kind_eq, handleTokenRefresh, hdoc, huser, htoken, h.accountRefusal_eq, hvalid,
      bind, Except.bind, pure, Except.pure]
  rw [handle, hhandler, acceptRefresh_of_validator hv]
  exact writes_setToken s _ _ _

/-! ## A token of another user -/

def headerB64OfA : String := "eyJhbGciOiJIUzI1NiJ9"

def payloadB64OfA : String := "eyJzdWIiOiJhIn0"

def sigB64OfA : String := "rsahev8OhT3Gnu_it81faPzSiEqBX_4cbL9SMvQhW7s"

/-- A signed token of the user `a`. -/
def tokenOfA : String := headerB64OfA ++ "." ++ payloadB64OfA ++ "." ++ sigB64OfA

def validatorOfA : JwtValidator :=
  { secret := [107], issuer := "", verifyRs256 := fun _ _ _ => false }

def headerOfA : Json := .object [("alg", .string "HS256")]

def payloadOfA : Json := .object [("sub", .string "a")]

/-- The user `b` refreshes with the token of `a`. -/
def refreshOfA : Request :=
  { kind := .tokenRefresh
    payload := some (.object [("token", .string tokenOfA), ("user_id", .string "b")])
    now := 0
    nowMs := 0
    draws := fun _ _ => 0 }

def payloadReadOfA : JwtPayload :=
  { sub := "a", iss := "", aud := "", role := "player", displayName := "", iat := 0, exp := 0,
    extra := payloadOfA }

theorem parse_headerOfA :
    Json.parse true (base64urlDecode (encodeUtf8 headerB64OfA.toList)) = some headerOfA := by
  have htext : base64urlDecode (encodeUtf8 headerB64OfA.toList) =
      encodeUtf8 (Json.dump (fun _ => []) none 0 headerOfA) := by decide +kernel
  rw [htext, Json.parse_dump (by simp [headerOfA, Json.Plain, Json.PlainMembers])]
  rfl

theorem parse_payloadOfA :
    Json.parse true (base64urlDecode (encodeUtf8 payloadB64OfA.toList)) = some payloadOfA := by
  have htext : base64urlDecode (encodeUtf8 payloadB64OfA.toList) =
      encodeUtf8 (Json.dump (fun _ => []) none 0 payloadOfA) := by decide +kernel
  rw [htext, Json.parse_dump (by simp [payloadOfA, Json.Plain, Json.PlainMembers])]
  rfl

theorem checkSignature_tokenOfA :
    validatorOfA.checkSignature "HS256"
      (encodeUtf8 headerB64OfA.toList ++ [46] ++ encodeUtf8 payloadB64OfA.toList)
      (base64urlDecode (encodeUtf8 sigB64OfA.toList)) = none := by
  decide +kernel

theorem validateText_tokenOfA (now : ℤ) :
    validatorOfA.validateText now tokenOfA = .ok (.valid payloadReadOfA) := by
  have htext : encodeUtf8 tokenOfA.toList = encodeUtf8 headerB64OfA.toList ++
      46 :: (encodeUtf8 payloadB64OfA.toList ++ 46 :: encodeUtf8 sigB64OfA.toList) := by
    simp [tokenOfA, encodeUtf8, String.toList_append, String.utf8EncodeChar]
  have hheader : (46 : UInt8) ∉ encodeUtf8 headerB64OfA.toList :=
    notMem_encodeUtf8 (x := '.') (by decide) (by simp [headerB64OfA])
  have hpayload : (46 : UInt8) ∉ encodeUtf8 payloadB64OfA.toList :=
    notMem_encodeUtf8 (x := '.') (by decide) (by simp [payloadB64OfA])
  rw [JwtValidator.validateText, htext, JwtValidator.validate_of_parts hheader hpayload,
    JwtValidator.validateParts_of_signed parse_headerOfA rfl checkSignature_tokenOfA
      parse_payloadOfA rfl]
  rfl

/-! ## Every run -/

section

variable (hv : s.jwtValidator = some v)
include hv

theorem handle_jwtValidator (r : Request) : (s.handle r).1.jwtValidator = some v := by
  have h := outcome_handle hv r
  generalize s.handle r = result at h
  cases h with
  | kept s' reply h => exact h.jwtValidator_eq.trans hv
  | loggedIn s' reply g h => exact h.jwtValidator_eq.trans hv
  | refreshed s' userId token refreshToken payload h => exact h.jwtValidator_eq.trans hv

theorem handle_grants (r : Request) : s.grants <+: (s.handle r).1.grants := by
  have h := outcome_handle hv r
  generalize s.handle r = result at h
  cases h with
  | kept s' reply h => exact h.grants_eq ▸ List.prefix_rfl
  | loggedIn s' reply g h => exact h.grants_eq ▸ List.prefix_append _ _
  | refreshed s' userId token refreshToken payload h => exact h.grants_eq ▸ List.prefix_append _ _

theorem handle_owned (howned : s.Owned v) (hown : s.OwnRefresh v r) : (s.handle r).1.Owned v := by
  have h := outcome_handle hv r
  generalize s.handle r = result at h
  cases h with
  | kept s' reply h => exact fun g hg => howned g (h.grants_eq ▸ hg)
  | loggedIn s' reply g h hg =>
    intro g' hg'
    rcases List.mem_append.mp (h.grants_eq ▸ hg') with hold | hnew
    · exact howned g' hold
    · exact List.mem_singleton.mp hnew ▸ hg
  | refreshed s' userId token refreshToken payload h hpresents =>
    intro g' hg'
    rcases List.mem_append.mp (h.grants_eq ▸ hg') with hold | hnew
    · exact howned g' hold
    · exact List.mem_singleton.mp hnew ▸
        ⟨payload, hpresents.validates, hown userId token payload hpresents⟩

theorem answersOwn_of_ownRefresh (hown : s.OwnRefresh v r) : s.AnswersOwn v r := by
  intro hkind body hbody
  have h := outcome_handle hv r
  generalize s.handle r = result at h hbody
  cases h with
  | kept s' reply h hreply => exact absurd hbody (hreply hkind body)
  | loggedIn s' reply g h hg hlogin => simp [hkind] at hlogin
  | refreshed s' userId token refreshToken payload h hpresents =>
    cases hbody
    exact ⟨⟨userId, token, r.now⟩, find?_refreshBody_userId _ _ _, find?_refreshBody_newToken _ _ _,
      rfl, payload, hpresents.validates, hown userId token payload hpresents⟩

/-- If the tokens written are all their users', so was the one of this request. -/
theorem ownRefresh_of_owned (howned : (s.handle r).1.Owned v) : s.OwnRefresh v r := by
  intro userId token payload hpresents
  have hwrites := handle_of_presents hv hpresents
  have hmem : (⟨userId, token, r.now⟩ : Grant) ∈ (s.handle r).1.grants := by
    rw [hwrites.grants_eq]
    exact List.mem_append_right _ (List.mem_singleton_self _)
  obtain ⟨payload', hvalid, hsub⟩ := howned _ hmem
  cases hvalid.symm.trans hpresents.validates
  exact hsub

theorem afterRequests_jwtValidator (requests : List Request) :
    (s.afterRequests requests).jwtValidator = some v := by
  induction requests generalizing s with
  | nil => exact hv
  | cons r requests ih => exact ih (handle_jwtValidator hv r)

theorem afterRequests_grants (requests : List Request) :
    s.grants <+: (s.afterRequests requests).grants := by
  induction requests generalizing s with
  | nil => exact List.prefix_rfl
  | cons r requests ih => exact (handle_grants hv r).trans (ih (handle_jwtValidator hv r))

theorem afterRequests_owned (howned : s.Owned v) {requests : List Request}
    (hown : ∀ before r, before ++ [r] <+: requests → (s.afterRequests before).OwnRefresh v r) :
    (s.afterRequests requests).Owned v := by
  induction requests generalizing s with
  | nil => exact howned
  | cons r requests ih =>
    have hr : s.OwnRefresh v r := hown [] r (List.prefix_append [r] requests)
    exact ih (handle_jwtValidator hv r) (handle_owned hv howned hr) fun before r' hpre =>
      hown (r :: before) r' ((List.prefix_cons_inj r).mpr hpre)

end

/-- With a validator, the tokens written in a run and those an `ok` of `token_refresh`
names are all their users' exactly when every refresh that goes through presents a token
of its user. -/
theorem owned_iff (hv : s.jwtValidator = some v) (hgrants : s.grants = [])
    (requests : List Request) :
    ((s.afterRequests requests).Owned v ∧ ∀ before r, before ++ [r] <+: requests →
        (s.afterRequests before).AnswersOwn v r) ↔
      ∀ before r, before ++ [r] <+: requests → (s.afterRequests before).OwnRefresh v r := by
  constructor
  · rintro ⟨howned, -⟩ before r ⟨after, rfl⟩
    have hlater : s.afterRequests (before ++ [r] ++ after) =
        ((s.afterRequests before).handle r).1.afterRequests after := by
      simp [afterRequests]
    refine ownRefresh_of_owned (afterRequests_jwtValidator hv before) fun g hg => howned g ?_
    have hvr := handle_jwtValidator (afterRequests_jwtValidator hv before) r
    rw [hlater]
    exact (afterRequests_grants hvr after).subset hg
  · intro hown
    refine ⟨afterRequests_owned hv (by simp [Owned, hgrants]) hown, fun before r hpre => ?_⟩
    exact answersOwn_of_ownRefresh (afterRequests_jwtValidator hv before) (hown before r hpre)

theorem owned_iff_refreshOfA :
    (((afterRequests { jwtValidator := some validatorOfA } [refreshOfA]).Owned validatorOfA ∧
        ∀ before r, before ++ [r] <+: [refreshOfA] →
          (afterRequests { jwtValidator := some validatorOfA } before).AnswersOwn validatorOfA r) ↔
      ∀ before r, before ++ [r] <+: [refreshOfA] →
        (afterRequests { jwtValidator := some validatorOfA } before).OwnRefresh validatorOfA r) :=
  owned_iff rfl rfl [refreshOfA]

/-- `b` holds the token of `a`. -/
theorem not_owned_tokenOfA :
    ¬(afterRequests { jwtValidator := some validatorOfA } [refreshOfA]).Owned validatorOfA := by
  intro howned
  rw [afterRequests, List.foldl_cons, List.foldl_nil] at howned
  have hpresents : Presents validatorOfA { jwtValidator := some validatorOfA } refreshOfA "b"
      tokenOfA payloadReadOfA :=
    { kind_eq := rfl
      reads := ⟨.object [("token", .string tokenOfA), ("user_id", .string "b")],
        by simp [refreshOfA, fields, Json.find?], by simp [stringField, Json.find?, Json.getString],
        by simp [stringField, Json.find?, Json.getString]⟩
      accountRefusal_eq := rfl
      validates := validateText_tokenOfA 0 }
  have hsub : payloadReadOfA.sub = "b" := ownRefresh_of_owned rfl howned "b" _ _ hpresents
  exact absurd hsub (by decide)

end LoginBackend

end BoostGateway.Login
