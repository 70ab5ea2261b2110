/-
`cleanup_sessions` (`apps/authentication/tasks.py`), and runs of requests with it between
them.

The middleware lets a session through that has no row in the inventory, so what is deleted
here is what could refuse one.
-/
import DjangoFoundation.Lib.Select
import DjangoFoundation.Api.Views

namespace DjangoFoundation

/-- `cleanup_sessions`, with the number of rows it deletes. -/
def cleanupSessions (retentionDays : Nat) (now : Int) (db : Database) : Nat × Database :=
  let cutoff := now - seconds (86400 * retentionDays)
  let userSessions := db.userSessions.delete fun session =>
    session.revokedAt.any fun revokedAt => revokedAt < cutoff
  (db.userSessions.rows.length - userSessions.rows.length,
    { db with userSessions := userSessions })

/-! ### Runs -/

namespace Retention

inductive Event
  | call (call : Sessions.Call)
  | cleanupSessions

def Event.isCleanup : Event → Bool
  | .call _ => false
  | .cleanupSessions => true

variable (env : Environment) (jwt : Jwt) (settings : Settings) (retentionDays : Nat)

def step (s : Sessions.State) : Int × Event → Option Sessions.State
  | (now, .call call) => Sessions.step env jwt settings s (now, call)
  | (now, .cleanupSessions) =>
      if s.clock ≤ now then
        some { clock := now, db := (cleanupSessions retentionDays now s.db).2 }
      else none

/-- The request a call comes with. -/
def request? : Sessions.Call → Option Request
  | .visit request => some request
  | .login request _ _ _ _ _ _ => some request
  | .changePassword request _ _ _ _ => some request
  | .logout request _ => some request
  | .revoke _ _ => none
  | .revokeAll _ _ _ _ => none

/-- The database but for the inventory rows that are revoked. -/
def unrevoked (db : Database) : Database :=
  { db with userSessions := db.userSessions.select fun session => session.revokedAt.isNone }

/-- Whom a call runs for, and what it leaves behind. -/
structure Outcome where
  principal : Option User
  db : Database

/-- A cleanup has none. -/
def outcome (s : Sessions.State) : Int × Event → Option Outcome
  | (now, .call call) => some {
      principal := (request? call).bind fun request =>
        (principal env jwt settings now s.db request).1
      db := unrevoked (call.run env jwt settings now s.db) }
  | (_, .cleanupSessions) => none

end Retention

end DjangoFoundation
