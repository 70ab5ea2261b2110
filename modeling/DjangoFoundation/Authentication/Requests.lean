/-
What happens to a request before its view runs: Django's session and authentication
middleware, `UserSessionMiddleware` (`apps/authentication/middleware.py`), and the
authentication classes of the settings in their order, with those of
`apps/authentication/jwt.py` and `apps/api_keys/authentication.py`.

`request.user` is looked up once.  Flushing the session afterwards deletes its row and
its data, and leaves the user the request already has.
-/
import DjangoFoundation.Authentication.Services
import DjangoFoundation.ApiKeys.Services

namespace DjangoFoundation

/-- The settings consulted on the way. -/
structure Settings where
  enableAPIKeys : Bool := true
  apiKeyAvailableScopes : List String :=
    ["profile.read", "profile.write", "notifications.read", "notifications.write"]

/-- The JWT package: the claims of a token it accepts at a time, `none` where it raises. -/
structure Jwt where
  /-- `AccessToken(raw)["user_id"]`. -/
  access : (now : Int) → (raw : String) → Option UUID
  /-- `jti` and `user_id` of `RefreshToken(raw)`, but for the blacklist. -/
  refresh : (now : Int) → (raw : String) → Option (String × UUID)

/-- What a client sends to be recognised. -/
structure Request where
  /-- The session cookie. -/
  sessionCookie : Option String := none
  /-- The `X-API-Key` header. -/
  apiKey : Option String := none
  /-- The token of an `Authorization: Bearer` header. -/
  bearer : Option String := none
  /-- `enforce_csrf` finds what it asks for. -/
  csrf : Bool := false
  client : Client := {}

/-- `request.session`: its key, if it has one, and its data. -/
structure RequestSession where
  sessionKey : Option String := none
  data : SessionData := {}

/-- A request on its way to the view. -/
structure Received where
  /-- `request.user`, where it is authenticated. -/
  user : Option User
  session : RequestSession
  db : Database

variable (env : Environment) (jwt : Jwt) (settings : Settings) (now : Int)

/-! ### Sessions -/

/-- `SessionStore.load`: an unknown or expired key is given up. -/
def loadSession (db : Database) (cookie : Option String) : RequestSession :=
  match cookie.bind db.sessions.get? with
  | none => {}
  | some row => if row.expireDate > now then ⟨some row.sessionKey, row.data⟩ else {}

/-- `request.session.flush()`, of the rows. -/
def Database.flush (db : Database) (session : RequestSession) : Database :=
  match session.sessionKey with
  | none => db
  | some key => { db with sessions := db.sessions.erase key }

/-- `request.session.flush()`. -/
def Received.flush (r : Received) : Received :=
  { r with session := {}, db := r.db.flush r.session }

/-! ### Middleware -/

/-- `django.contrib.auth.get_user`, with the backend's `get_user`. -/
def getUser (db : Database) (session : RequestSession) : Received :=
  match session.data.userId.bind fun userId =>
      (db.users.get? userId).filter fun user => user.isActive with
  | none => { user := none, session := session, db := db }
  | some user =>
      if session.data.authHash = some (env.keyring.sessionAuthHash user.password) then
        { user := some user, session := session, db := db }
      else Received.flush { user := none, session := session, db := db }

/-- `UserSessionMiddleware.touch_interval`. -/
def touchInterval : Int := minutes 5

/-- `user_session.save(update_fields=["last_activity_at"])`. -/
def Database.touch (db : Database) (userSession : UserSession) : Database :=
  { db with userSessions := db.userSessions.modify userSession.sessionKeyHash fun row =>
    { row with lastActivityAt := now } }

/-- `UserSessionMiddleware.__call__`, up to the view. -/
def userSessionMiddleware (r : Received) : Received :=
  match r.user with
  | none => r
  | some user =>
      if r.session.sessionKey.isNone then r
      else if !canAuthenticateNow r.db.bans now user then r.flush
      else match SessionService.current env r.db r.session.sessionKey with
        | none => r
        | some userSession =>
            if userSession.revokedAt.isSome then r.flush
            else if userSession.lastActivityAt < now - touchInterval then
              { r with db := r.db.touch now userSession }
            else r

/-- The request as the view gets it. -/
def receive (db : Database) (request : Request) : Received :=
  userSessionMiddleware env now (getUser env db (loadSession now db request.sessionCookie))

/-! ### Authentication classes -/

inductive Credential
  | apiKey
  | jwt
  | session
  deriving DecidableEq, Repr

/-- What an authentication class raises. -/
inductive Refusal
  | authenticationFailed
  | permissionDenied
  /-- What the database raises under it. -/
  | dataError
  deriving DecidableEq, Repr

/-- `APIKeyAuthentication.authenticate`. -/
def apiKeyAuthentication (db : Database) (request : Request) :
    Except Refusal (Option User × Database) :=
  if !settings.enableAPIKeys then .ok (none, db)
  else match request.apiKey with
    | none | some "" => .ok (none, db)
    | some raw =>
        match APIKeyService.authenticate env now db raw request.client.ipAddress with
        | (.error _, _) => .error .dataError
        | (.ok none, _) => .error .authenticationFailed
        | (.ok (some (_, owner)), db) =>
            if !canAuthenticateNow db.bans now owner then .error .authenticationFailed
            else .ok (some owner, db)

/-- `ensure_account_available`. -/
def ensureAccountAvailable (db : Database) (user : User) : Except Refusal Unit :=
  if !canAuthenticateNow db.bans now user then .error .authenticationFailed else .ok ()

/-- `StatusAwareJWTAuthentication.authenticate`. -/
def jwtAuthentication (db : Database) (request : Request) : Except Refusal (Option User) :=
  match request.bearer with
  | none => .ok none
  | some raw =>
      match (jwt.access now raw).bind db.users.get? with
      | none => .error .authenticationFailed
      | some user => do
          if !user.isActive then throw .authenticationFailed
          ensureAccountAvailable now db user
          return some user

/-- `SessionAuthentication.authenticate`, of the user the request has. -/
def sessionAuthentication (user : Option User) (request : Request) :
    Except Refusal (Option User) :=
  match user with
  | none => .ok none
  | some user =>
      if !user.isActive then .ok none
      else if !request.csrf then .error .permissionDenied
      else .ok (some user)

/-- The first class that recognises the request, and the database after it. -/
def authenticate (r : Received) (request : Request) :
    Except Refusal (Option (User × Credential) × Database) := do
  let (owner, db) ← apiKeyAuthentication env settings now r.db request
  if let some user := owner then return (some (user, .apiKey), db)
  if let some user ← jwtAuthentication jwt now db request then return (some (user, .jwt), db)
  if let some user ← sessionAuthentication r.user request then return (some (user, .session), db)
  return (none, db)

/-- Whom a view behind `IsAuthenticated` runs for, if it runs. -/
def isAuthenticated (db : Database) (request : Request) : Option User :=
  match authenticate env jwt settings now (receive env now db request) request with
  | .ok (some (user, _), _) => some user
  | _ => none

/-- `StatusAwareTokenRefreshSerializer.validate`: whom new tokens are returned for. -/
def refreshed (db : Database) (rawToken : String) : Except Refusal User :=
  match jwt.refresh now rawToken with
  | none => .error .authenticationFailed
  | some (jti, userId) =>
      if (db.blacklistedTokens.get? jti).isSome then .error .authenticationFailed
      else match db.users.get? userId with
        | none => .error .authenticationFailed
        | some user => do
            ensureAccountAvailable now db user
            return user

/-- The two ways in: a view behind `IsAuthenticated`, with whatever credentials the
request carries, and the refresh view with its token. -/
inductive Access
  | view (request : Request)
  | refresh (rawToken : String)

/-- The authenticated principal, if there is one. -/
def Access.principal? (db : Database) : Access → Option User
  | .view request => isAuthenticated env jwt settings now db request
  | .refresh rawToken => (refreshed jwt now db rawToken).toOption

end DjangoFoundation
