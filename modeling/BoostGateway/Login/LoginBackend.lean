import Mathlib.Logic.Function.Basic
import BoostGateway.Login.JwtValidator
import BoostGateway.Room.RoomBackend

/-!
# The login service

The handlers of `login_backend_service.cpp` over the accounts, the sessions and the tokens
of the users. `grants` lists the writes of `user_tokens_`, which the code does not keep.

A request comes as the document `decode_handler_payload` gives, `none` where it gives
nothing. What `diag_wrap` catches is answered with the text of the exception, which is
left out.
-/

namespace BoostGateway.Login

open Json (value getString)
open Room.RoomBackend (fields stringField)

/-- An account. -/
structure AccountRecord where
  userId : String
  credentialHash : String := ""
  displayName : String
  status : String := "active"
  createdAtMs : ℤ := 0

/-- A write of `user_tokens_`, at the time `now`. -/
structure Grant where
  userId : String
  token : String
  now : ℤ

/-- The members of the service that its handlers use. -/
structure LoginBackend where
  jwtValidator : Option JwtValidator := none
  productionAuthRequired : Bool := false
  accounts : String → Option AccountRecord := fun _ => none
  activeSessions : String → Option String := fun _ => none
  userTokens : String → Option String := fun _ => none
  grants : List Grant := []

/-- What a handler answers. -/
inductive Reply
  | ok (body : Json)
  | error (code : ℤ) (reason : String)
  /-- The error -1005 for an exception. -/
  | raised (e : Json.TypeError)

/-- The registered handlers, less `register_account`. -/
inductive RequestKind
  | loginRequest
  | tokenValidate
  | sessionBind
  | sessionClose
  | tokenRefresh
  | guestLogin
  deriving DecidableEq

/-- A request with what its handler reads outside of the state : the time in seconds and
in milliseconds, and what `generate_guest_user_id` draws at its three attempts. -/
structure Request where
  kind : RequestKind
  payload : Option Json
  now : ℤ
  nowMs : ℤ
  draws : Fin 3 → Fin 16 → Fin 16

/-- What comes after the first colon; the whole text where there is none. -/
def afterColon (token : String) : String :=
  match token.toList.span (· ≠ ':') with
  | (_, []) => token
  | (_, _ :: rest) => String.ofList rest

def guestSuffix (draw : Fin 16 → Fin 16) : String :=
  String.ofList (List.ofFn fun i => Json.hexDigit (draw i))

/-- `generate_guest_user_id`. -/
def generateGuestUserId (draw : Fin 16 → Fin 16) : String := "guest_" ++ guestSuffix draw

namespace JwtValidator

/-- What `validate` says of a token as text. -/
def validateText (v : JwtValidator) (now : ℤ) (token : String) : Except Json.TypeError JwtResult :=
  v.validate now (encodeUtf8 token.toList)

end JwtValidator

namespace LoginBackend

variable (s : LoginBackend)

/-- The reason `login_request`, `session_bind` and `token_refresh` refuse an account for. -/
def accountRefusal (userId : String) : Option String :=
  (s.accounts userId).bind fun record =>
    if record.status = "disabled" then some "account_disabled"
    else if record.status = "banned" then some "account_banned"
    else none

/-- The user gets a token. -/
def setToken (now : ℤ) (userId token : String) : LoginBackend :=
  { s with
    userTokens := Function.update s.userTokens userId (some token)
    grants := s.grants ++ [{ userId, token, now }] }

/-- The token check of `login_request` : the role, or the reply that refuses. -/
def loginRole (now : ℤ) (userId token : String) : Except Json.TypeError (Except Reply String) :=
  match s.jwtValidator with
  | some v => do
    match ← v.validateText now token with
    | .valid payload =>
      if payload.sub ≠ userId then return .error (.error (-1003) "token_subject_mismatch")
      else return .ok payload.role
    | .invalid error => return .error (.error (-1003) error)
  | none =>
    if s.productionAuthRequired then .ok (.error (.error (-1003) "jwt_required"))
    else if afterColon token = "" then .ok (.error (.error (-1004) "invalid_token_format"))
    else .ok (.ok "player")

/-- The end of a login. -/
def acceptLogin (now : ℤ) (userId token displayName role : String) : LoginBackend × Reply :=
  match s.accountRefusal userId with
  | some reason => (s, .error (-1103) reason)
  | none =>
    let isDuplicate := (s.activeSessions userId).isSome
    ({ s with activeSessions := Function.update s.activeSessions userId (some userId) }.setToken
        now userId token,
      .ok (Json.ofMembers
        [("status", .string "ok"), ("user_id", .string userId),
          ("display_name", .string displayName), ("is_duplicate", .bool isDuplicate),
          ("role", .string role)]))

/-- `login_request`. -/
def handleLoginRequest (r : Request) : Except Json.TypeError (LoginBackend × Reply) :=
  if r.payload.isNone then .ok (s, .error (-1004) "empty_payload")
  else
    match fields ["user_id", "token"] r.payload with
    | none => .ok (s, .error (-1004) "invalid_json")
    | some doc => do
      let userId ← stringField doc "user_id"
      let token ← stringField doc "token"
      let displayName ← doc.value getString "display_name" userId
      if userId = "" then return (s, .error (-1004) "empty_user_id")
      else if token = "" then return (s, .error (-1004) "empty_token")
      else
        match ← s.loginRole r.now userId token with
        | .error refusal => return (s, refusal)
        | .ok role => return s.acceptLogin r.now userId token displayName role

def validBody (valid : Bool) : Reply := .ok (Json.ofMembers [("valid", .bool valid)])

/-- Whether `token_validate` takes a token. -/
def tokenValid (now : ℤ) (token : String) : Except Json.TypeError Bool :=
  match s.jwtValidator with
  | some v =>
    if token = "" then .ok false
    else (v.validateText now token).map JwtResult.isValid
  | none => .ok (token ≠ "" ∧ !s.productionAuthRequired)

/-- `token_validate`. -/
def handleTokenValidate (r : Request) : Except Json.TypeError (LoginBackend × Reply) :=
  match fields ["token"] r.payload with
  | none => .ok (s, .error (-1004) "invalid_json")
  | some doc => do
    let token ← stringField doc "token"
    let userId ← doc.value (fun j => j.getString.map some) "user_id" none
    if (userId.bind s.accountRefusal).isSome then return (s, validBody false)
    else
      let valid ← s.tokenValid r.now token
      return (s, validBody valid)

/-- `session_bind`. -/
def handleSessionBind (r : Request) : Except Json.TypeError (LoginBackend × Reply) :=
  match fields ["user_id"] r.payload with
  | none => .ok (s, .error (-1004) "invalid_json")
  | some doc => do
    let userId ← stringField doc "user_id"
    match s.accountRefusal userId with
    | some reason => return (s, .error (-1103) reason)
    | none =>
      return ({ s with activeSessions := Function.update s.activeSessions userId (some userId) },
        .ok (Json.ofMembers [("status", .string "ok"), ("action", .string "session_bound")]))

/-- `session_close`. -/
def handleSessionClose (r : Request) : Except Json.TypeError (LoginBackend × Reply) :=
  match fields ["user_id"] r.payload with
  | none => .ok (s, .error (-1004) "invalid_json")
  | some doc => do
    let userId ← stringField doc "user_id"
    return ({ s with activeSessions := Function.update s.activeSessions userId none },
      .ok (Json.ofMembers [("status", .string "ok"), ("action", .string "session_closed")]))

/-- Whether `token_refresh` takes a token. -/
def refreshValid (now : ℤ) (userId token : String) : Except Json.TypeError Bool :=
  match s.jwtValidator with
  | some v => (v.validateText now token).map JwtResult.isValid
  | none => .ok (!s.productionAuthRequired ∧ afterColon token = userId)

/-- The new token and the refresh token. -/
def reissue (nowMs : ℤ) (userId token : String) : String × String :=
  if s.jwtValidator.isSome then (token, userId ++ "_rt_" ++ toString nowMs)
  else ("refreshed:" ++ userId, userId ++ "_dev_rt")

def refreshBody (userId newToken refreshToken : String) : Json :=
  Json.ofMembers
    [("status", .string "ok"), ("user_id", .string userId), ("new_token", .string newToken),
      ("refresh_token", .string refreshToken), ("expires_at", .unsigned 0)]

/-- The end of a refresh. -/
def acceptRefresh (now nowMs : ℤ) (userId token : String) : LoginBackend × Reply :=
  let (newToken, refreshToken) := s.reissue nowMs userId token
  (s.setToken now userId newToken, .ok (refreshBody userId newToken refreshToken))

/-- `token_refresh`. -/
def handleTokenRefresh (r : Request) : Except Json.TypeError (LoginBackend × Reply) :=
  match fields ["user_id", "token"] r.payload with
  | none => .ok (s, .error (-1004) "invalid_json")
  | some doc => do
    let userId ← stringField doc "user_id"
    let token ← stringField doc "token"
    match s.accountRefusal userId with
    | some reason => return (s, .error (-1103) reason)
    | none =>
      let tokenValid ← s.refreshValid r.now userId token
      if !tokenValid then return (s, .error (-1003) "invalid_token")
      else return s.acceptRefresh r.now r.nowMs userId token

def guestDisplayName (doc : Json) : Except Json.TypeError String :=
  match doc with
  | .object _ => doc.value getString "display_name" ""
  | _ => .ok ""

/-- `guest_login`. -/
def handleGuestLogin (r : Request) : Except Json.TypeError (LoginBackend × Reply) :=
  match r.payload with
  | none => .ok (s, .error (-1004) "empty_payload")
  | some doc => do
    let displayName ← guestDisplayName doc
    match (List.ofFn r.draws).find? fun draw => (s.accounts (generateGuestUserId draw)).isNone with
    | none => return (s, .error (-1005) "internal_error")
    | some draw =>
      let userId := generateGuestUserId draw
      let displayName := if displayName = "" then "Guest_" ++ guestSuffix draw else displayName
      let record : AccountRecord :=
        { userId, displayName, status := "guest", createdAtMs := r.nowMs }
      return ({ s with accounts := Function.update s.accounts userId (some record) },
        .ok (Json.ofMembers
          [("status", .string "ok"), ("user_id", .string userId),
            ("display_name", .string displayName),
            ("token", .string ("guest_token:" ++ userId))]))

/-- The handler of a request. -/
def handler (r : Request) : Except Json.TypeError (LoginBackend × Reply) :=
  match r.kind with
  | .loginRequest => s.handleLoginRequest r
  | .tokenValidate => s.handleTokenValidate r
  | .sessionBind => s.handleSessionBind r
  | .sessionClose => s.handleSessionClose r
  | .tokenRefresh => s.handleTokenRefresh r
  | .guestLogin => s.handleGuestLogin r

/-- A handler under `diag_wrap`. -/
def handle (r : Request) : LoginBackend × Reply :=
  match s.handler r with
  | .ok result => result
  | .error e => (s, .raised e)

/-- The state after the requests. -/
def afterRequests (requests : List Request) : LoginBackend :=
  requests.foldl (fun s r => (s.handle r).1) s

end LoginBackend

end BoostGateway.Login
