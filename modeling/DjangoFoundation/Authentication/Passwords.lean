/-
Logins beside password changes: `LoginView.post` in the order of its steps, and
`reset_password` and `change_password`, each one transaction.

A login is no transaction.  It reads the account once, for the password check, and goes on
with that row; whatever else it reads is what is committed by then.  Its answer is the last of
its steps: the session is saved with it, and where a password change has taken the session away
the answer is a 400 and the refresh token is not in it.

A password change locks the row of its user to the end, so that there is one at a time for a
user, and a login that is to save its time in that row waits.  The refresh tokens it blacklists
are those of its query; the rest of what it writes is done in its commit.
-/
import DjangoFoundation.Lib.Locks
import DjangoFoundation.Authentication.Login

namespace DjangoFoundation

namespace Passwords

open AccountService SessionService TokenService

variable (env : Environment) (twoFactor : TwoFactor) (settings : LoginSettings)
  (refreshLifetime : Int) (now : Int)

/-! ### Password changes -/

inductive Call
  | resetPassword (rawToken newPassword salt : String) (sessionKey : Option String)
  | changePassword (user : UUID) (oldPassword newPassword salt : String)
      (sessionKey : Option String)
  deriving DecidableEq, Repr

namespace Call

/-- The service call. -/
def run (db : Database) : Call → Except Exception Database
  | .resetPassword rawToken newPassword salt sessionKey =>
      AccountService.resetPassword env now db rawToken newPassword salt sessionKey
  | .changePassword user oldPassword newPassword salt sessionKey =>
      AccountService.changePassword env now db user oldPassword newPassword salt sessionKey

/-- What comes before the first write to the account: the user, as locked, and the database
with the token of a reset consumed. -/
def checks (db : Database) : Call → Except Exception (User × Database)
  | .resetPassword rawToken newPassword _ _ => do
      let (token, db) ← consume env now db rawToken .passwordReset
      let user ← db.getUser token.user
      if !env.acceptsPassword newPassword user then throw .validation
      return (user, db)
  | .changePassword user oldPassword newPassword _ _ => do
      let locked ← db.getUser user
      if !env.keyring.checkPassword oldPassword locked.password then throw authenticationFailed
      if !env.acceptsPassword newPassword locked then throw .validation
      return (locked, db)

/-- The token a reset has consumed. -/
def consumed (oneTimeTokens : Table OneTimeToken) : Call → Table OneTimeToken
  | .resetPassword rawToken _ _ _ =>
      oneTimeTokens.modify (tokenHash env rawToken .passwordReset)
        (fun t => { t with usedAt := some now }) (used_pk now)
  | .changePassword _ _ _ _ _ => oneTimeTokens

/-- The sessions `revoke_all` goes through. -/
def revokedSessions (db : Database) (user : UUID) : Call → List UserSession
  | .resetPassword _ _ _ sessionKey => selected env db user sessionKey false
  | .changePassword _ _ _ _ sessionKey => selected env db user sessionKey true

/-- The outstanding tokens `revoke_all_jwt` goes through. -/
def outstanding (db : Database) (user : UUID) : List OutstandingToken :=
  db.outstandingTokens.rows.filter fun token => token.user = user

/-- `revoke_all_jwt`, of the tokens its query has found. -/
def blacklist (db : Database) (outstanding : List OutstandingToken) : Database :=
  { db with
    blacklistedTokens := outstanding.foldl
      (fun blacklisted token => (blacklisted.insert? ⟨token.jti⟩).getD blacklisted)
      db.blacklistedTokens }

/-- The writes to the account. -/
def write (db : Database) (user : User) (outstanding : List OutstandingToken) :
    Call → Except Exception Database
  | .resetPassword _ newPassword salt sessionKey => do
      let db := setPassword env now db user.pk salt newPassword
      let db := stampPasswordChange now db user.pk
      let db ← revokeAll env now db user.pk (some user.pk) sessionKey false
      let db := blacklist db outstanding
      let db := db.securityEvent .passwordReset user.pk
      let db := db.audit "password.reset" (UUID.str user.pk) (some user.pk)
      return db.email "password_changed" user.email
  | .changePassword _ _ newPassword salt sessionKey => do
      let db := setPassword env now db user.pk salt newPassword
      let db := stampPasswordChange now db user.pk
      let db ← revokeAll env now db user.pk (some user.pk) sessionKey true
      let db := blacklist db outstanding
      let db := db.securityEvent .passwordChanged user.pk
      let db := db.audit "password.changed" (UUID.str user.pk) (some user.pk)
      return db.email "password_changed" user.email

end Call

/-- A password change in progress. -/
structure Change where
  id : Nat
  call : Call
  began : Int
  user : User
  /-- What the query of `revoke_all_jwt` has found, once it has run. -/
  found : Option (List OutstandingToken) := none
  deriving DecidableEq, Repr

instance : Keyed Change Nat := ⟨Change.id⟩

/-- The rows of users it has locked. -/
def Change.locked (change : Change) : List UUID := [change.user.pk]

/-! ### Logins -/

inductive Phase
  /-- The password is right. -/
  | checked
  /-- The account can be used, and the code is right where there is one. -/
  | passed
  /-- There is a session; before `RefreshToken.for_user`. -/
  | entered
  /-- There is a refresh token; before the response. -/
  | minted
  deriving DecidableEq, Repr

/-- A login in progress. -/
structure Login where
  id : Nat
  request : LoginRequest
  /-- The row the password was checked against. -/
  user : User
  /-- How many password changes of the user were committed by then. -/
  version : Nat
  phase : Phase
  /-- The refresh token it has made. -/
  refresh : Option OutstandingToken := none

instance : Keyed Login Nat := ⟨Login.id⟩

/-- The key of the session a login is given, or keeps. -/
def Login.sessionKey (login : Login) : String :=
  let received := DjangoFoundation.login env
    { user := none, session := login.request.session, db := {} } login.user login.request.newKey
  received.session.sessionKey.getD login.request.newKey

/-- A refresh token that has left with the answer to a login. -/
structure HandedOut where
  token : OutstandingToken
  version : Nat
  deriving DecidableEq, Repr

/-! ### The system -/

/-- What is committed, the logins and password changes in progress, and as history the users
whose password was changed and the tokens handed out. -/
structure State where
  clock : Int := 0
  db : Database := {}
  protection : Protection := {}
  logins : Table Login := ∅
  changes : Table Change := ∅
  changed : List UUID := []
  handedOut : List HandedOut := []

inductive Event
  | login (id : Nat) (request : LoginRequest)
  | pass (id : Nat)
  | enter (id : Nat)
  | mint (id : Nat) (jti : String)
  | respond (id : Nat)
  | change (id : Nat) (call : Call)
  /-- `revoke_all_jwt` runs its query. -/
  | find (id : Nat)
  | commit (id : Nat)
  | abort (id : Nat)

namespace State

variable (s : State)

/-- The password changes of a user that have committed. -/
def version (user : UUID) : Nat := s.changed.count user

/-- `RefreshToken(raw)` raises nothing: the token has not expired and is not blacklisted. -/
def accepts (token : OutstandingToken) : Bool :=
  s.clock < token.expiresAt && (s.db.blacklistedTokens.get? token.jti).isNone

def login? (id : Nat) (phase : Phase) : Option Login :=
  (s.logins.get? id).filter fun login => login.phase = phase

def goOn (id : Nat) (phase : Phase) : State :=
  { s with logins := s.logins.modify id fun login => { login with phase := phase } }

def leave (id : Nat) : State := { s with logins := s.logins.erase id }

def close (id : Nat) : State := { s with changes := s.changes.erase id }

/-- The checks of the throttle and the password. -/
def begin (id : Nat) (request : LoginRequest) : Option State :=
  if (LoginProtectionService.check env settings now s.protection request.identifier
      request.client.ipAddress).locked then some s
  else match EmailOrUsernameBackend.authenticate env s.db request.identifier request.password with
    | none =>
        let attempt := AuthenticationService.refuse env settings now s.db s.protection request
        some { s with db := attempt.db, protection := attempt.protection }
    | some user =>
        (s.logins.insert? ⟨id, request, user, s.version user.pk, .checked, none⟩).map fun logins =>
          { s with logins := logins }

/-- The account's lock, its status, and the second factor. -/
def pass (login : Login) : State :=
  match AuthenticationService.takeOffLock now s.db login.user login.request.client with
  | .error _ => s.leave login.id
  | .ok db =>
      match AuthenticationService.unavailable? now db login.user with
      | some _ => { s.leave login.id with db := db }
      | none =>
          match AuthenticationService.checkCode env twoFactor settings now db s.protection
            login.user login.request with
          | (some _, db, p) => { s.leave login.id with db := db, protection := p }
          | (none, db, p) => { s.goOn login.id .passed with db := db, protection := p }

/-- The row of the user is locked by a password change. -/
def locked (user : UUID) : Bool := s.changes.rows.any fun change => change.user.pk = user

/-- The row of the session is deleted by a password change that has not committed. -/
def deleting (sessionKey : String) : Bool :=
  s.changes.rows.any fun change => change.found.isSome &&
    (change.call.revokedSessions env s.db change.user.pk).any fun session =>
      env.keyring.decryptValue "django-session" session.encryptedSessionKey = some sessionKey

/-- The throttle is reset and the session made. -/
def enter (login : Login) : State :=
  { s.goOn login.id .entered with
    db := AuthenticationService.succeed env now s.db login.user login.request
    protection := LoginProtectionService.reset env settings s.protection
      login.request.identifier login.request.client.ipAddress }

/-- `RefreshToken.for_user`. -/
def mint (login : Login) (jti : String) : State :=
  let token : OutstandingToken :=
    { jti := jti, user := login.user.pk, expiresAt := now + refreshLifetime }
  match s.db.outstandingTokens.insert? token with
  | none => s.leave login.id
  | some outstandingTokens => { s with
      db := { s.db with outstandingTokens := outstandingTokens }
      logins := s.logins.modify login.id fun login =>
        { login with phase := .minted, refresh := some token } }

/-- The session is saved, and the answer given; with its row gone that is `SessionInterrupted`. -/
def respond (login : Login) : State :=
  if (s.db.sessions.get? (login.sessionKey env)).isSome then
    { s.leave login.id with
      handedOut := s.handedOut ++ login.refresh.toList.map fun token => ⟨token, login.version⟩ }
  else s.leave login.id

/-- A password change starts; it waits for the row of its user. -/
def change (id : Nat) (call : Call) : Option State :=
  match call.checks env now s.db with
  | .error _ => some s
  | .ok (user, _) =>
      if Locks.free Change.locked s.changes id user.pk then
        (s.changes.insert? ⟨id, call, now, user, none⟩).map fun changes =>
          { s with changes := changes }
      else none

def find (change : Change) : State :=
  { s with changes := s.changes.modify change.id fun c =>
      { c with found := some (Call.outstanding s.db change.user.pk) } }

def commit (change : Change) (found : List OutstandingToken) : State :=
  let db := { s.db with oneTimeTokens := change.call.consumed env change.began s.db.oneTimeTokens }
  match change.call.write env now db change.user found with
  | .error _ => s.close change.id
  | .ok db => { s.close change.id with db := db, changed := s.changed ++ [change.user.pk] }

def move : Event → Option State
  | .login id request => s.begin env settings now id request
  | .pass id => (s.login? id .checked).map fun login => s.pass env twoFactor settings now login
  | .enter id => do
      let login ← s.login? id .passed
      if s.locked login.user.pk then none else some (s.enter env settings now login)
  | .mint id jti => (s.login? id .entered).map fun login => s.mint refreshLifetime now login jti
  | .respond id => do
      let login ← s.login? id .minted
      if s.deleting env (login.sessionKey env) then none else some (s.respond env login)
  | .change id call => s.change env now id call
  | .find id => ((s.changes.get? id).filter fun c => c.found.isNone).map s.find
  | .commit id => do
      let change ← s.changes.get? id
      let found ← change.found
      some (s.commit env now change found)
  | .abort id => (s.changes.get? id).map fun change => s.close change.id

end State

def step (s : State) (e : Int × Event) : Option State :=
  if s.clock ≤ e.1 then
    { s with clock := e.1 }.move env twoFactor settings refreshLifetime e.1 e.2
  else none

end Passwords

end DjangoFoundation
