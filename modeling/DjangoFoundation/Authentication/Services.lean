/-
`apps/authentication/services.py`: one-time tokens, the session inventory, and the
account operations that start from a password or a token.

Values the code draws at random are arguments: raw tokens, salts, nonces.  `sessionKey`
is `request.session.session_key`.
-/
import DjangoFoundation.Common.Events
import DjangoFoundation.Database

namespace DjangoFoundation

variable (env : Environment) (now : Int)

/-! ### `TokenService` -/

namespace TokenService

def invalidToken : Exception :=
  .api { detail := "This token is invalid or expired.", code := "INVALID_TOKEN" }

/-- `keyed_hash(raw, purpose=f"one-time:{purpose}")`. -/
def tokenHash (rawToken : String) (purpose : TokenPurpose) : String :=
  env.keyring.keyedHash ("one-time:" ++ purpose.value) rawToken

def issue (db : Database) (user : UUID) (purpose : TokenPurpose) (ttl : Int)
    (metadata : List (String × String)) (raw : String) : Except Exception Database :=
  let tokens := db.oneTimeTokens.update
    (fun token => token.user = user ∧ token.purpose = purpose ∧ token.usedAt = none)
    fun token => { token with usedAt := some now }
  match tokens.insert? {
      tokenHash := tokenHash env raw purpose
      user := user
      purpose := purpose
      metadata := metadata
      createdAt := now
      expiresAt := now + ttl } with
  | some tokens => .ok { db with oneTimeTokens := tokens }
  | none => .error .integrity

/-- The token a raw value and a purpose name, if it can be used. -/
def usable? (db : Database) (rawToken : String) (purpose : TokenPurpose) : Option OneTimeToken :=
  (db.oneTimeTokens.get? (tokenHash env rawToken purpose)).filter fun token =>
    token.purpose = purpose && token.isUsable now

def consume (db : Database) (rawToken : String) (purpose : TokenPurpose) :
    Except Exception (OneTimeToken × Database) :=
  match usable? env now db rawToken purpose with
  | none => .error invalidToken
  | some token => .ok (token, { db with
      oneTimeTokens := db.oneTimeTokens.modify token.tokenHash fun t =>
        { t with usedAt := some now } })

/-- `BlacklistedToken.objects.get_or_create` for each outstanding token of the user. -/
def revokeAllJwt (db : Database) (user : UUID) : Database :=
  let outstanding := db.outstandingTokens.rows.filter fun token => token.user = user
  { db with
    blacklistedTokens := outstanding.foldl
      (fun blacklisted token => (blacklisted.insert? ⟨token.jti⟩).getD blacklisted)
      db.blacklistedTokens }

end TokenService

/-! ### `SessionService` -/

namespace SessionService

def hash (sessionKey : String) : String :=
  env.keyring.keyedHash "django-session" sessionKey

/-- `UserSession.objects.update_or_create(session_key_hash=.., defaults=..)`. -/
def register (db : Database) (user : UUID) (sessionKey userAgent identifier : String)
    (nonce : Nat) : Database :=
  let row : UserSession :=
    { sessionKeyHash := hash env sessionKey
      user := user
      identifier := identifier
      encryptedSessionKey := env.keyring.encryptValue "django-session" nonce sessionKey
      userAgent := userAgent
      lastActivityAt := now }
  match db.userSessions.insert? row with
  | some userSessions => { db with userSessions := userSessions }
  | none => { db with
      userSessions := db.userSessions.modify row.sessionKeyHash fun session => { session with
        user := row.user
        identifier := row.identifier
        encryptedSessionKey := row.encryptedSessionKey
        userAgent := row.userAgent
        lastActivityAt := row.lastActivityAt
        revokedAt := none } }

def current (db : Database) (sessionKey : Option String) : Option UserSession :=
  sessionKey.bind fun key => db.userSessions.get? (hash env key)

/-- What `revoke` does to a row that is not revoked yet. -/
def revokeLocked (db : Database) (locked : UserSession) (actor : Option UUID) : Database :=
  let db := { db with
    userSessions := db.userSessions.modify locked.sessionKeyHash fun session =>
      { session with revokedAt := some now } }
  let db := match env.keyring.decryptValue "django-session" locked.encryptedSessionKey with
    | some key => { db with sessions := db.sessions.erase key }
    | none => db -- logged, and left
  (db.securityEvent .sessionRevoked locked.user).audit "session.revoked" locked.identifier actor

def revoke (db : Database) (session : UserSession) (actor : Option UUID) :
    Except Exception Database :=
  match db.userSessions.get? session.sessionKeyHash with
  | none => .error .doesNotExist
  | some locked =>
      if locked.revokedAt.isSome then .ok db else .ok (revokeLocked env now db locked actor)

/-- The sessions `revoke_all` goes through. -/
def selected (db : Database) (user : UUID) (sessionKey : Option String)
    (excludeCurrent : Bool) : List UserSession :=
  let sessions := db.userSessions.rows.filter fun session =>
    session.user = user ∧ session.revokedAt = none
  match current env db sessionKey with
  | some session =>
      if excludeCurrent then sessions.filter fun s => s.sessionKeyHash ≠ session.sessionKeyHash
      else sessions
  | none => sessions

def revokeAll (db : Database) (user : UUID) (actor : Option UUID) (sessionKey : Option String)
    (excludeCurrent : Bool) : Except Exception Database :=
  (selected env db user sessionKey excludeCurrent).foldlM
    (fun db session => revoke env now db session actor) db

end SessionService

/-! ### `AccountService` -/

namespace AccountService

open TokenService SessionService

def authenticationFailed : Exception :=
  .api { detail := "Authentication failed.", code := "AUTHENTICATION_FAILED", statusCode := 401 }

def emailUnavailable : Exception :=
  .api { detail := "That email address is unavailable.", code := "CONFLICT", statusCode := 409 }

/-- Another account has the address or the name, up to the database's case. -/
def emailTaken (db : Database) (user : UUID) (email : String) : Bool :=
  db.users.rows.any fun other => other.pk ≠ user ∧ env.lowered other.email = env.lowered email

def usernameTaken (db : Database) (user : UUID) (username : String) : Bool :=
  db.users.rows.any fun other =>
    other.pk ≠ user ∧ env.lowered other.username = env.lowered username

/-- `UserSecuritySettings.objects.get_or_create(user=user)`, and the new time saved. -/
def stampPasswordChange (db : Database) (user : UUID) : Database :=
  let rows := (db.securitySettings.insert? { user := user }).getD db.securitySettings
  { db with securitySettings := rows.modify user fun s =>
      { s with passwordChangedAt := some now } }

/-- `user.set_password(raw)` and the save of that column. -/
def setPassword (db : Database) (user : UUID) (salt raw : String) : Database :=
  db.updateUser user fun u => { u with
    password := env.keyring.makePassword salt raw
    updatedAt := now }

def verifyEmail (db : Database) (rawToken : String) : Except Exception Database := do
  let (token, db) ← consume env now db rawToken .emailVerification
  let user ← db.getUser token.user
  if user.emailVerifiedAt.isSome then return db
  let db := db.updateUser user.pk fun u => { u with
    emailVerifiedAt := some now
    status := if u.status = .pending then .active else u.status
    updatedAt := now }
  return (db.audit "email.verified" (UUID.str user.pk) (some user.pk)).email "welcome" user.email

def resetPassword (db : Database) (rawToken newPassword salt : String)
    (sessionKey : Option String) : Except Exception Database := do
  let (token, db) ← consume env now db rawToken .passwordReset
  let user ← db.getUser token.user
  if !env.acceptsPassword newPassword user then throw .validation
  let db := setPassword env now db user.pk salt newPassword
  let db := stampPasswordChange now db user.pk
  let db ← revokeAll env now db user.pk (some user.pk) sessionKey false
  let db := revokeAllJwt db user.pk
  let db := db.securityEvent .passwordReset user.pk
  let db := db.audit "password.reset" (UUID.str user.pk) (some user.pk)
  return db.email "password_changed" user.email

def changePassword (db : Database) (user : UUID) (oldPassword newPassword salt : String)
    (sessionKey : Option String) : Except Exception Database := do
  let locked ← db.getUser user
  if !env.keyring.checkPassword oldPassword locked.password then throw authenticationFailed
  if !env.acceptsPassword newPassword locked then throw .validation
  let db := setPassword env now db locked.pk salt newPassword
  let db := stampPasswordChange now db locked.pk
  let db ← revokeAll env now db locked.pk (some locked.pk) sessionKey true
  let db := revokeAllJwt db locked.pk
  let db := db.securityEvent .passwordChanged locked.pk
  let db := db.audit "password.changed" (UUID.str locked.pk) (some locked.pk)
  return db.email "password_changed" locked.email

def confirmEmailChange (db : Database) (rawToken : String) (sessionKey : Option String) :
    Except Exception Database := do
  let (token, db) ← consume env now db rawToken .emailChange
  let user ← db.getUser token.user
  match token.metadata.lookup "new_email" with
  | none => throw (.keyError "new_email")
  | some newEmail =>
      if db.users.rows.any fun other => env.iexact other.email newEmail ∧ other.pk ≠ user.pk then
        throw emailUnavailable
      let email := env.unicode.normalizeEmailAddress newEmail
      if emailTaken env db user.pk email then throw .integrity
      let db := db.updateUser user.pk fun u => { u with
        email := email
        emailVerifiedAt := some now
        updatedAt := now }
      let db ← revokeAll env now db user.pk (some user.pk) sessionKey true
      let db := revokeAllJwt db user.pk
      let db := db.securityEvent .emailChanged user.pk
      let db := db.audit "email.changed" (UUID.str user.pk) (some user.pk)
      return db.email "email_changed" user.email

/-- The row `confirm_deletion` saves, before `save` normalises it. -/
def pseudonymised (user : User) (suffix : String) : User :=
  { user with
    email := "deleted-" ++ UUID.hex user.pk ++ "@invalid.local"
    username := "deleted-" ++ UUID.hex user.pk
    firstName := ""
    lastName := ""
    phone := ""
    avatar := ""
    status := .deleted
    isActive := false
    emailVerifiedAt := none
    phoneVerifiedAt := none
    password := unusablePassword suffix
    updatedAt := now }

/-- `user.save()` of a whole row. -/
def save (db : Database) (user : User) : Except Exception Database :=
  let email := env.unicode.normalizeEmailAddress user.email
  let username := env.unicode.stripped user.username
  if emailTaken env db user.pk email ∨ usernameTaken env db user.pk username then
    .error .integrity
  else .ok (db.updateUser user.pk fun u =>
    { user with pk := u.pk, email := email, username := username })

def confirmDeletion (db : Database) (rawToken passwordSuffix : String)
    (sessionKey : Option String) : Except Exception Database := do
  let (token, db) ← consume env now db rawToken .accountDeletion
  let user ← db.getUser token.user
  let db ← save env db (pseudonymised now user passwordSuffix)
  let db := { db with profiles := db.profiles.modify user.pk fun profile =>
    { profile with bio := "", website := "", location := "" } }
  let db ← revokeAll env now db user.pk (some user.pk) sessionKey false
  let db := revokeAllJwt db user.pk
  let db := db.securityEvent .accountDeleted user.pk
  let db := db.audit "account.deleted" (UUID.str user.pk) (some user.pk)
  return db.publish "account.deleted" user.pk

def accountDeleted (user : UUID) : Events.ApplicationEvent where
  name := "account.deleted"
  actorId := some (UUID.str user)
  targetType := "accounts.user"
  targetId := UUID.str user

/-- What `confirm_deletion` of a user gives `transaction.on_commit`. -/
def deletionCallbacks (user : User) : List Events.Callback :=
  (if user.avatar ≠ "" then [.deleteFile user.avatar] else []) ++ [.publish (accountDeleted user.pk)]

/-- `confirm_deletion`, with the callbacks it leaves to the commit. -/
def confirmDeletionCallbacks (db : Database) (rawToken passwordSuffix : String)
    (sessionKey : Option String) : Except Exception (Database × List Events.Callback) := do
  -- `avatar_name` and `user.pk` are read off the row before it is rewritten
  let (token, _) ← consume env now db rawToken .accountDeletion
  let user ← db.getUser token.user
  let db ← confirmDeletion env now db rawToken passwordSuffix sessionKey
  return (db, deletionCallbacks user)

end AccountService

end DjangoFoundation
