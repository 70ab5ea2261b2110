/-
The requests of `AccountService` that are answered with a letter, `deactivate`, and runs of
them beside registrations, confirmations, renamings and bans.

A request for a letter is no transaction: `request.user`, or the row an address leads to, is
read first, and its token is issued and mailed some time later.  What is under way in between
is kept in the state with its copy of the row, so that anything can happen to the account
meanwhile.
-/
import DjangoFoundation.Accounts.Registration
import DjangoFoundation.Authentication.Tokens
import DjangoFoundation.Security.Services

namespace DjangoFoundation

variable (env : Environment) (validators : Validators) (timeout now : Int)

/-! ### What is asked for -/

/-- The arguments of a `TokenService.issue` and of the `EmailService.enqueue` after it. -/
structure Writing where
  issue : Tokens.Issue
  template : String
  recipient : String
  deriving DecidableEq, Repr

/-- `TokenService.issue`, and the letter that carries the token. -/
def Writing.send (db : Database) (w : Writing) (raw : String) : Except Exception Database := do
  let db ← TokenService.issue env now db w.issue.user w.issue.purpose w.issue.ttl w.issue.metadata
    raw
  return db.email w.template w.recipient

namespace AccountService

open LoginProtectionService SessionService TokenService

/-- `resend_verification`, up to its token; `none` where it returns without one. -/
def resendVerification (db : Database) (email : String) : Option (User × Writing) :=
  let address := env.unicode.stripped email
  (newest (db.users.rows.filter fun user =>
      env.iexact user.email address && user.emailVerifiedAt.isNone && user.isActive)).map
    fun user => (user, {
      issue := {
        user := user.pk
        purpose := .emailVerification
        ttl := minutes (60 * 24) }
      template := "email_verification"
      recipient := user.email })

/-- `request_password_reset`, up to its token; `timeout` is `PASSWORD_RESET_TIMEOUT`. -/
def requestPasswordReset (db : Database) (email : String) : Option (User × Writing) :=
  let address := env.unicode.stripped email
  (newest (db.users.rows.filter fun user => env.iexact user.email address && user.isActive)).map
    fun user => (user, {
      issue := {
        user := user.pk
        purpose := .passwordReset
        ttl := seconds timeout }
      template := "password_reset"
      recipient := user.email })

/-- `request_email_change` of `request.user`, up to its token. -/
def requestEmailChange (db : Database) (user : User) (password newEmail : String) :
    Except Exception Writing := do
  let normalized := env.unicode.normalizeEmailAddress newEmail
  if !env.keyring.checkPassword password user.password then throw authenticationFailed
  if db.users.rows.any fun other => env.iexact other.email normalized ∧ other.pk ≠ user.pk then
    throw emailUnavailable
  return {
    issue := {
      user := user.pk
      purpose := .emailChange
      ttl := minutes 60
      metadata := [("new_email", normalized)] }
    template := "email_verification"
    recipient := normalized }

/-- `request_deletion` of `request.user`, up to its token. -/
def requestDeletion (user : User) (password : String) : Except Exception Writing := do
  if !env.keyring.checkPassword password user.password then throw authenticationFailed
  return {
    issue := {
      user := user.pk
      purpose := .accountDeletion
      ttl := minutes 60 }
    template := "account_security_warning"
    recipient := user.email }

/-- The row of a user who leaves. -/
def deactivated (user : User) : User :=
  { user with status := .deactivated, isActive := false, updatedAt := now }

theorem deactivated_pk (user : User) : (deactivated now user).pk = user.pk := rfl

/-- `deactivate`; the security event, of a type of its own, is left out. -/
def deactivate (db : Database) (user : UUID) (password : String) (sessionKey : Option String) :
    Except Exception Database := do
  let locked ← db.getUser user
  if !env.keyring.checkPassword password locked.password then throw authenticationFailed
  let db := db.updateUser locked.pk (deactivated now) (deactivated_pk now)
  let db ← revokeAll env now db locked.pk (some locked.pk) sessionKey false
  let db := revokeAllJwt db locked.pk
  return db.audit "account.deactivated" (UUID.str locked.pk) (some locked.pk)

end AccountService

/-! ### Runs -/

namespace Letters

open AccountService

/-- A letter with a token in it. -/
structure Letter where
  user : UUID
  purpose : TokenPurpose
  recipient : String
  rawToken : String
  deriving DecidableEq, Repr

/-- A request for a letter: the row it has read and, from there on, what it is to send. -/
structure InFlight where
  request : Nat
  user : User
  writing : Option Writing := none
  deriving DecidableEq, Repr

instance : Keyed InFlight Nat := ⟨InFlight.request⟩

inductive Event
  | register (pk : UUID) (email username password salt firstName lastName raw : String)
  | resendVerification (request : Nat) (email : String)
  | requestPasswordReset (request : Nat) (email : String)
  /-- The credentials of a request are those of the user: `request.user` is read. -/
  | recognise (request : Nat) (user : UUID)
  | requestEmailChange (request : Nat) (password newEmail : String)
  | requestDeletion (request : Nat) (password : String)
  /-- The token of a request is issued and mailed. -/
  | send (request : Nat) (raw : String)
  | confirm (confirmation : Tokens.Confirmation)
  | changePassword (user : UUID) (oldPassword newPassword salt : String)
      (sessionKey : Option String)
  | changeUsername (user : UUID) (username : String)
  | deactivate (user : UUID) (password : String) (sessionKey : Option String)
  | ban (pk user : UUID) (reason : String) (actor : Option UUID) (startsAt expiresAt : Option Int)
      (sessionKey : Option String)
  | revoke (pk : UUID) (actor : Option UUID)
  | expireTemporaryBans

structure State where
  clock : Int := 0
  db : Database := {}
  letters : List Letter := []
  requests : Table InFlight := ∅

theorem request_writes (w : Writing) (r : InFlight) :
    Keyed.pk { r with writing := some w } = Keyed.pk r := rfl

/-- What an answer to a recognised request makes of it. -/
def State.answered (s : State) (r : InFlight) : Except Exception Writing → State
  | .ok w => { s with
      requests := s.requests.modify r.request (fun r => { r with writing := some w })
        (request_writes w) }
  | .error _ => { s with requests := s.requests.erase r.request }

/-- The request, once its lookup has found a user and something to send. -/
def State.found (s : State) (request : Nat) : Option (User × Writing) → Option State
  | none => some s
  | some (user, w) =>
      (s.requests.insert? ⟨request, user, some w⟩).map fun requests =>
        { s with requests := requests }

/-- The request that has been recognised, and no more. -/
def State.recognised? (s : State) (request : Nat) : Option InFlight :=
  (s.requests.get? request).filter fun r => r.writing.isNone

def apply (s : State) : Event → Option State
  | .register pk email username password salt firstName lastName raw =>
      match registerUser env validators now s.db pk email username password salt firstName
          lastName raw with
      | .error _ => some s
      | .ok db => some { s with
          db := db
          letters := s.letters ++ (db.users.get? pk).toList.map fun user =>
            ⟨pk, .emailVerification, user.email, raw⟩ }
  | .resendVerification request email =>
      s.found request (resendVerification env s.db email)
  | .requestPasswordReset request email =>
      s.found request (requestPasswordReset env timeout s.db email)
  | .recognise request user => do
      let row ← s.db.users.get? user
      let requests ← s.requests.insert? ⟨request, row, none⟩
      return { s with requests := requests }
  | .requestEmailChange request password newEmail => do
      let r ← s.recognised? request
      return s.answered r (requestEmailChange env s.db r.user password newEmail)
  | .requestDeletion request password => do
      let r ← s.recognised? request
      return s.answered r (requestDeletion env r.user password)
  | .send request raw => do
      let r ← s.requests.get? request
      let w ← r.writing
      let s := { s with requests := s.requests.erase request }
      match w.send env now s.db raw with
      | .error _ => return s
      | .ok db => return { s with
          db := db
          letters := s.letters ++ [⟨w.issue.user, w.issue.purpose, w.recipient, raw⟩] }
  | .confirm c => some { s with db := s.db.committed (c.run env now s.db) }
  | .changePassword user oldPassword newPassword salt sessionKey => some { s with
      db := s.db.committed
        (changePassword env now s.db user oldPassword newPassword salt sessionKey) }
  | .changeUsername user username => some { s with
      db := s.db.committed (changeUsername env validators now s.db user username) }
  | .deactivate user password sessionKey => some { s with
      db := s.db.committed (deactivate env now s.db user password sessionKey) }
  | .ban pk user reason actor startsAt expiresAt sessionKey => some { s with
      db := s.db.committed
        (BanService.ban env now s.db pk user reason actor startsAt expiresAt sessionKey) }
  | .revoke pk actor => some { s with db := s.db.committed (BanService.revoke now s.db pk actor) }
  | .expireTemporaryBans => some { s with
      db := s.db.committed (expireTemporaryBans env now s.db) }

def step (s : State) (e : Int × Event) : Option State :=
  if s.clock ≤ e.1 then apply env validators timeout e.1 { s with clock := e.1 } e.2 else none

/-- The token a request presents, with the purpose it is for. -/
def Event.presents? : Event → Option (TokenPurpose × String)
  | .confirm c => some (c.purpose, c.rawToken)
  | _ => none

/-- The password a request gives, and whose it is to be. -/
def Event.password? (s : State) : Event → Option (UUID × String)
  | .changePassword user oldPassword _ _ _ => some (user, oldPassword)
  | .deactivate user password _ => some (user, password)
  | .requestEmailChange request password _ =>
      (s.requests.get? request).map fun r => (r.user.pk, password)
  | .requestDeletion request password =>
      (s.requests.get? request).map fun r => (r.user.pk, password)
  | _ => none

end Letters

end DjangoFoundation
