/-
Runs of the calls that move an account through its states: one-time tokens, what their
confirmations do, and bans.

Each call is made at a time no earlier than the one before.  Its changes are committed
together when it returns and none of them is when it raises; `expire_temporary_bans`,
which has no transaction of its own, never raises.
-/
import DjangoFoundation.Lib.Run
import DjangoFoundation.Accounts.Services

namespace DjangoFoundation

namespace Lifecycle

inductive Call
  | issue (user : UUID) (purpose : TokenPurpose) (ttl : Int)
      (metadata : List (String × String)) (raw : String)
  | verifyEmail (rawToken : String)
  | resetPassword (rawToken newPassword salt : String) (sessionKey : Option String)
  | confirmEmailChange (rawToken : String) (sessionKey : Option String)
  | confirmDeletion (rawToken passwordSuffix : String) (sessionKey : Option String)
  | ban (pk user : UUID) (reason : String) (actor : Option UUID) (startsAt expiresAt : Option Int)
      (sessionKey : Option String)
  | revoke (pk : UUID) (actor : Option UUID)
  | expireTemporaryBans

variable (env : Environment)

def Call.run (now : Int) (db : Database) : Call → Except Exception Database
  | .issue user purpose ttl metadata raw =>
      TokenService.issue env now db user purpose ttl metadata raw
  | .verifyEmail rawToken => AccountService.verifyEmail env now db rawToken
  | .resetPassword rawToken newPassword salt sessionKey =>
      AccountService.resetPassword env now db rawToken newPassword salt sessionKey
  | .confirmEmailChange rawToken sessionKey =>
      AccountService.confirmEmailChange env now db rawToken sessionKey
  | .confirmDeletion rawToken passwordSuffix sessionKey =>
      AccountService.confirmDeletion env now db rawToken passwordSuffix sessionKey
  | .ban pk user reason actor startsAt expiresAt sessionKey =>
      BanService.ban env now db pk user reason actor startsAt expiresAt sessionKey
  | .revoke pk actor => BanService.revoke now db pk actor
  | .expireTemporaryBans => DjangoFoundation.expireTemporaryBans env now db

/-- The database and the time of the last call. -/
structure State where
  clock : Int
  db : Database

def step (s : State) (e : Int × Call) : Option State :=
  if s.clock ≤ e.1 then
    some { clock := e.1, db := s.db.committed (e.2.run env e.1 s.db) }
  else none

end Lifecycle

end DjangoFoundation
