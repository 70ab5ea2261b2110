/-
`AuthenticationService.login` from its first check on, with `TwoFactorService.verify`, and
runs of it beside the cleanup of the throttle rows.

A login is not a transaction: what it has written when it raises stays written.  Its last
part, once everything is checked, is the `login` of the views.
-/
import DjangoFoundation.Security.Services
import DjangoFoundation.Api.Views

namespace DjangoFoundation

/-- What codes are checked with: pyotp, and Unicode's upper case outside ASCII. -/
structure TwoFactor where
  /-- `pyotp.TOTP(secret).verify(code, valid_window=1)`. -/
  verify : (secret code : String) → (now : Int) → Bool
  upperTable : Char → List Char

/-- An authenticator that shows no code. -/
def TwoFactor.plain : TwoFactor where
  verify _ _ _ := false
  upperTable c := [c]

/-- What a login is given; a fresh session key, identifier and nonce are drawn for it. -/
structure LoginRequest where
  identifier : String
  password : String
  code : String := ""
  rememberMe : Bool := false
  client : Client := {}
  session : RequestSession := {}
  newKey : String := ""
  sessionIdentifier : String := ""
  nonce : Nat := 0

variable (env : Environment) (twoFactor : TwoFactor) (settings : LoginSettings) (now : Int)

/-! ### `TwoFactorService` -/

namespace TwoFactorService

/-- `str.upper()`. -/
def upper (s : List Char) : List Char :=
  s.flatMap fun c => if Unicode.isAscii c then [c.toUpper] else twoFactor.upperTable c

/-- `code.strip().replace("-", "").upper()`. -/
def normalized (code : String) : String :=
  String.ofList (upper twoFactor ((env.unicode.strip code.toList).filter fun c => c ≠ '-'))

/-- `_recovery_hash`. -/
def recoveryHash (code : String) : String :=
  env.keyring.keyedHash "recovery-code"
    (String.ofList (upper twoFactor (env.unicode.strip code.toList)))

/-- `_consume_recovery_code`. -/
def consumeRecoveryCode (db : Database) (credential : TwoFactorCredential) (code : String) :
    Bool × Database :=
  let key := (credential.user, recoveryHash env twoFactor code)
  match (db.recoveryCodes.get? key).filter fun recovery => recovery.usedAt.isNone with
  | none => (false, db)
  | some _ =>
      let db := { db with recoveryCodes := db.recoveryCodes.modify key fun recovery =>
        { recovery with usedAt := some now } }
      (true, db.record { eventType := .recoveryCodeUsed, user := some credential.user })

def verify (db : Database) (user : UUID) (code : String) : Except Exception (Bool × Database) :=
  match db.twoFactorCredentials.get? user with
  | none => .ok (false, db)
  | some credential =>
      if !credential.isEnabled then .ok (false, db)
      else
        let normalized := normalized env twoFactor code
        match env.keyring.decryptValue "totp-secret" credential.encryptedSecret with
        | none => .error .valueError
        | some secret =>
            if twoFactor.verify secret normalized now then .ok (true, db)
            else .ok (consumeRecoveryCode env twoFactor now db credential normalized)

end TwoFactorService

/-! ### `AuthenticationService.login` -/

namespace AuthenticationService

def tooManyAttempts (retryAfter : Int) : APIException where
  detail := "Too many attempts. Try again later."
  code := "ACCOUNT_LOCKED"
  statusCode := 429
  fields := [("retry_after", retryAfter)]

def invalidCredentials (locked : Bool) : APIException where
  detail := "Invalid credentials."
  code := if locked then "ACCOUNT_LOCKED" else "AUTHENTICATION_FAILED"
  statusCode := if locked then 429 else 401

def accountBanned : APIException where
  detail := "This account is unavailable."
  code := "ACCOUNT_BANNED"
  statusCode := 403

def accountUnavailable : APIException where
  detail := "This account is unavailable."
  code := "AUTHENTICATION_FAILED"
  statusCode := 403

def twoFactorRequired : APIException where
  detail := "A two-factor code is required."
  code := "TWO_FACTOR_REQUIRED"
  statusCode := 401

/-- How a login ends, and what it leaves behind. -/
structure Attempt where
  outcome : Except Exception UUID
  db : Database
  protection : Protection

/-- The branch of nobody authenticated. -/
def refuse (db : Database) (p : Protection) (request : LoginRequest) : Attempt :=
  let (state, p) := LoginProtectionService.registerFailure env settings now p request.identifier
    request.client.ipAddress
  let db := db.record {
    eventType := .loginFailed
    user := none
    client := request.client
    metadata := [("identifier_hash", LoginProtectionService.digest env request.identifier)] }
  let db := if state.accountLocked then
      LoginProtectionService.lockKnownAccount env now db request.identifier state.retryAfter
        request.client
    else db
  { outcome := .error (.api (invalidCredentials state.locked)), db := db, protection := p }

/-- The account's own lock: in force, or over and taken off. -/
def takeOffLock (db : Database) (user : User) (client : Client) : Except APIException Database :=
  let securitySettings := db.securitySettings.ensure { user := user.pk }
  let db := { db with securitySettings := securitySettings }
  match (securitySettings.get? user.pk).bind fun row => row.lockedUntil with
  | none => .ok db
  | some lockedUntil =>
      if lockedUntil > now then
        .error (tooManyAttempts (max 1 ((lockedUntil - now) / 1000000)))
      else
        let db := { db with
          securitySettings := db.securitySettings.modify user.pk fun row =>
            { row with lockedUntil := none } }
        .ok (db.record { eventType := .accountUnlocked, user := some user.pk, client := client })

/-- Why the account cannot be logged in to, if it cannot. -/
def unavailable? (db : Database) (user : User) : Option APIException :=
  if user.status = .banned ∨ hasActiveBan db.bans now user.pk then some accountBanned
  else if user.status ≠ .active then some accountUnavailable
  else none

/-- The second factor, where the account has one. -/
def checkCode (db : Database) (p : Protection) (user : User) (request : LoginRequest) :
    Option Exception × Database × Protection :=
  if settings.enableTwoFactor &&
      (db.twoFactorCredentials.get? user.pk).any fun credential => credential.isEnabled then
    if request.code = "" then (some (.api twoFactorRequired), db, p)
    else match TwoFactorService.verify env twoFactor now db user.pk request.code with
      | .error exception => (some exception, db, p)
      | .ok (true, db) => (none, db, p)
      | .ok (false, db) =>
          (some (.api (invalidCredentials false)), db,
            (LoginProtectionService.registerFailure env settings now p request.identifier
              request.client.ipAddress).2)
  else (none, db, p)

/-- The mail a new device is worth. -/
def newDeviceLogin (db : Database) (user : User) : Database :=
  let preferences := db.preferences.ensure { user := user.pk }
  let securitySettings := db.securitySettings.ensure { user := user.pk }
  let db := { db with preferences := preferences, securitySettings := securitySettings }
  if ((preferences.get? user.pk).any fun row => row.securityEmails) ∧
      (securitySettings.get? user.pk).any fun row => row.notifyNewDevice then
    db.email "new_device_login" user.email
  else db

/-- The rest of a login, whose checks have let `user` through. -/
def succeed (db : Database) (user : User) (request : LoginRequest) : Database :=
  let isNewDevice := !SessionService.existingDevice db user.pk request.client.userAgent
  let db := login env now { user := none, session := request.session, db := db } user
    request.rememberMe request.newKey request.client.userAgent request.sessionIdentifier
    request.nonce
  let db := db.updateUser user.pk fun u => { u with lastLoginIp := request.client.ipAddress }
  if isNewDevice then newDeviceLogin db user else db

/-- `login`, whole. -/
def attempt (db : Database) (p : Protection) (request : LoginRequest) : Attempt :=
  let lockState := LoginProtectionService.check env settings now p request.identifier
    request.client.ipAddress
  if lockState.locked then
    { outcome := .error (.api (tooManyAttempts lockState.retryAfter)), db := db, protection := p }
  else match EmailOrUsernameBackend.authenticate env db request.identifier request.password with
    | none => refuse env settings now db p request
    | some user =>
        match takeOffLock now db user request.client with
        | .error exception => { outcome := .error (.api exception), db := db, protection := p }
        | .ok db =>
            match unavailable? now db user with
            | some exception => { outcome := .error (.api exception), db := db, protection := p }
            | none =>
                match checkCode env twoFactor settings now db p user request with
                | (some exception, db, p) =>
                    { outcome := .error exception, db := db, protection := p }
                | (none, db, p) =>
                    { outcome := .ok user.pk
                      db := succeed env now db user request
                      protection := LoginProtectionService.reset env settings p
                        request.identifier request.client.ipAddress }

/-- The account whose hash the password of a login is checked against, and what the check
says; `none` where no password is checked. -/
def evaluated (db : Database) (p : Protection) (request : LoginRequest) : Option (User × Bool) :=
  if (LoginProtectionService.check env settings now p request.identifier
      request.client.ipAddress).locked then none
  else EmailOrUsernameBackend.evaluated env db request.identifier request.password

end AuthenticationService

/-! ### Runs -/

namespace Logins

inductive Call
  | login (request : LoginRequest)
  | cleanupLoginAttempts

/-- The database, the throttle, and the time of the last call. -/
structure State where
  clock : Int
  db : Database
  protection : Protection

def Call.run (now : Int) (s : State) : Call → State
  | .login request =>
      let attempt := AuthenticationService.attempt env twoFactor settings now s.db s.protection
        request
      { clock := now, db := attempt.db, protection := attempt.protection }
  | .cleanupLoginAttempts =>
      { clock := now
        db := s.db
        protection := DjangoFoundation.cleanupLoginAttempts now s.protection }

def step (s : State) (e : Int × Call) : Option State :=
  if s.clock ≤ e.1 then some (e.2.run env twoFactor settings e.1 s) else none

/-- A guess at a password, from an address. -/
def guess (identifier ip : String) : Call :=
  .login { identifier := identifier, password := "guess", client := { ipAddress := some ip } }

/-- Accounts, and nothing counted yet. -/
def State.init (clock : Int) (db : Database) : State where
  clock := clock
  db := db
  protection := {}

end Logins

end DjangoFoundation
