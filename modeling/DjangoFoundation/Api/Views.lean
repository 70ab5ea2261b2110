/-
`LoginView`, `ChangePasswordView` and `LogoutView` (`apps/api/views/auth.py`), with what
Django's `login`, `update_session_auth_hash` and `logout` do to the session, and runs of
them by any number of clients.

A fresh session key is an argument, drawn by `cycle_key` or by the first `save`.  The
session middleware saves a session the view has changed; here that is part of the view.
-/
import DjangoFoundation.Lib.Run
import DjangoFoundation.Authentication.Requests

namespace DjangoFoundation

variable (env : Environment) (jwt : Jwt) (settings : Settings) (now : Int)

/-! ### Sessions -/

/-- `get_expiry_age`: two weeks, `SESSION_COOKIE_AGE`, unless the session says otherwise. -/
def SessionData.expiryAge (data : SessionData) : Int :=
  match data.expiry with
  | none | some 0 => seconds (60 * 60 * 24 * 14)
  | some age => seconds age

/-- `request.session.save()`, under its key. -/
def Database.saveSession (db : Database) (sessionKey : String) (data : SessionData) : Database :=
  let sessions := db.sessions.erase sessionKey
  let row : Session :=
    { sessionKey := sessionKey, data := data, expireDate := now + data.expiryAge }
  { db with sessions := (sessions.insert? row).getD sessions }

/-- `django.contrib.auth.login`: the session of anybody else is flushed, an anonymous one
gets a new key, and a session of the user's own is kept as it is. -/
def login (r : Received) (user : User) (newKey : String) : Received :=
  let authHash := env.keyring.sessionAuthHash user.password
  match r.session.data.userId with
  | some userId =>
      if userId ≠ user.pk ∨ r.session.data.authHash ≠ some authHash then
        { user := some user
          session := ⟨some newKey, { userId := some user.pk, authHash := some authHash }⟩
          db := r.db.flush r.session }
      else
        { user := some user
          session := ⟨some (r.session.sessionKey.getD newKey), r.session.data⟩
          db := r.db }
  | none =>
      { user := some user
        session := ⟨some newKey, { r.session.data with
          userId := some user.pk, authHash := some authHash }⟩
        db := r.db.flush r.session }

/-- `update_session_auth_hash`: a new key, and the hash of the new password. -/
def updateSessionAuthHash (r : Received) (user : User) (newKey : String) : Database :=
  (r.db.flush r.session).saveSession now newKey { r.session.data with
    authHash := some (env.keyring.sessionAuthHash user.password) }

/-! ### `LoginView` -/

/-- A device is known by an unrevoked session of the user with its user agent. -/
def SessionService.existingDevice (db : Database) (user : UUID) (userAgent : String) : Bool :=
  db.userSessions.rows.any fun session =>
    session.user = user ∧ session.userAgent = userAgent ∧ session.revokedAt = none

/-- `AuthenticationService.login`, from where its checks have let `user` through. -/
def AuthenticationService.login (r : Received) (user : User) (rememberMe : Bool)
    (newKey userAgent identifier : String) (nonce : Nat) : Database :=
  let r := DjangoFoundation.login env r user newKey
  let data := { r.session.data with expiry := some (if rememberMe then 60 * 60 * 24 * 30 else 0) }
  let sessionKey := r.session.sessionKey.getD newKey
  let isNewDevice := !SessionService.existingDevice r.db user.pk userAgent
  let db := SessionService.register env now r.db user.pk sessionKey userAgent identifier nonce
  let db := db.updateUser user.pk fun u => { u with lastLogin := some now, updatedAt := now }
  let db := db.securityEvent .loginSuccess user.pk
  let db := if isNewDevice then db.securityEvent .newDeviceLogin user.pk else db
  db.saveSession now sessionKey data

/-- `LoginView.post`; `admitted` is whom the credentials and the checks on them name. -/
def loginView (db : Database) (request : Request) (admitted : Option UUID) (rememberMe : Bool)
    (newKey userAgent identifier : String) (nonce : Nat) : Database :=
  let r := receive env now db request
  match authenticate env jwt settings now r request with
  | .error _ => r.db
  | .ok (_, db) =>
      match (admitted.bind db.users.get?).filter fun user =>
          canAuthenticateNow db.bans now user with
      | none => db
      | some user =>
          AuthenticationService.login env now { r with db := db } user rememberMe newKey userAgent
            identifier nonce

/-! ### `ChangePasswordView` and `LogoutView` -/

/-- The request as a view behind the default permissions gets it, and its principal.  A
view that declares no API key scopes has none by an API key (`HasAPIKeyScope`). -/
def principal (db : Database) (request : Request) : Option User × Received :=
  let r := receive env now db request
  match authenticate env jwt settings now r request with
  | .error _ => (none, r)
  | .ok (none, db) => (none, { r with db := db })
  | .ok (some (user, credential), db) =>
      (if credential = .apiKey then none else some user, { r with db := db })

/-- `ChangePasswordView.post`. -/
def changePasswordView (db : Database) (request : Request) (oldPassword newPassword salt : String)
    (newKey : String) : Database :=
  match principal env jwt settings now db request with
  | (none, r) => r.db
  | (some user, r) =>
      match AccountService.changePassword env now r.db user.pk oldPassword newPassword salt
          r.session.sessionKey with
      | .error _ => r.db
      | .ok db =>
          -- `request.user.refresh_from_db()`
          match db.users.get? user.pk with
          | none => db
          | some user => updateSessionAuthHash env now { r with db := db } user newKey

/-- `RefreshToken(raw_refresh).blacklist()`, where one is sent. -/
def blacklistRefresh (db : Database) : Option String → Except Exception Database
  | none | some "" => .ok db
  | some raw =>
      match jwt.refresh now raw with
      | none => .error TokenService.invalidToken
      | some (jti, _) =>
          match db.blacklistedTokens.insert? ⟨jti⟩ with
          | none => .error TokenService.invalidToken
          | some blacklisted => .ok { db with blacklistedTokens := blacklisted }

/-- `LogoutView.post`. -/
def logoutView (db : Database) (request : Request) (refresh : Option String) : Database :=
  match principal env jwt settings now db request with
  | (none, r) => r.db
  | (some user, r) =>
      match blacklistRefresh jwt now r.db refresh with
      | .error _ => r.db
      | .ok db =>
          let db := match SessionService.current env db r.session.sessionKey with
            | none => db
            | some session =>
                db.committed (SessionService.revoke env now db session (some user.pk))
          db.flush r.session

/-! ### Runs -/

namespace Sessions

inductive Call
  /-- A request to any other view. -/
  | visit (request : Request)
  | login (request : Request) (admitted : Option UUID) (rememberMe : Bool)
      (newKey userAgent identifier : String) (nonce : Nat)
  | changePassword (request : Request) (oldPassword newPassword salt newKey : String)
  | logout (request : Request) (refresh : Option String)
  | revoke (session : UserSession) (actor : Option UUID)
  | revokeAll (user : UUID) (actor : Option UUID) (sessionKey : Option String)
      (excludeCurrent : Bool)

def Call.run (db : Database) : Call → Database
  | .visit request => (principal env jwt settings now db request).2.db
  | .login request admitted rememberMe newKey userAgent identifier nonce =>
      loginView env jwt settings now db request admitted rememberMe newKey userAgent identifier
        nonce
  | .changePassword request oldPassword newPassword salt newKey =>
      changePasswordView env jwt settings now db request oldPassword newPassword salt newKey
  | .logout request refresh => logoutView env jwt settings now db request refresh
  | .revoke session actor => db.committed (SessionService.revoke env now db session actor)
  | .revokeAll user actor sessionKey excludeCurrent =>
      db.committed (SessionService.revokeAll env now db user actor sessionKey excludeCurrent)

/-- No session was ever saved or registered under the key. -/
def freshKey (db : Database) (newKey : String) : Bool :=
  (db.sessions.get? newKey).isNone && (db.userSessions.get? (SessionService.hash env newKey)).isNone

/-- Nobody's password was ever stored so, which the salt sees to. -/
def freshPassword (db : Database) (encoded : String) : Bool :=
  (db.users.rows.all fun user => user.password ≠ encoded) &&
    db.sessions.rows.all fun session =>
      session.data.authHash ≠ some (env.keyring.sessionAuthHash encoded)

/-- What a call draws at random was not drawn before. -/
def Call.fresh (db : Database) : Call → Bool
  | .login _ _ _ newKey _ _ _ => freshKey env db newKey
  | .changePassword _ _ newPassword salt newKey =>
      freshKey env db newKey && freshPassword env db (env.keyring.makePassword salt newPassword)
  | _ => true

/-- The database and the time of the last call. -/
structure State where
  clock : Int
  db : Database

def step (s : State) (e : Int × Call) : Option State :=
  if s.clock ≤ e.1 ∧ e.2.fresh env s.db then
    some { clock := e.1, db := e.2.run env jwt settings e.1 s.db }
  else none

end Sessions

end DjangoFoundation
