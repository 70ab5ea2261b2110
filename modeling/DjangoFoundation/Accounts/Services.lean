/-
`BanService` (`apps/accounts/services.py`) and `expire_temporary_bans`
(`apps/accounts/tasks.py`).

A ban takes hold in the status column at once, or, when it starts later, in a run of the
hourly task; it is lifted by its revocation or, after it has expired, by another run.
-/
import DjangoFoundation.Authentication.Services

namespace DjangoFoundation

variable (env : Environment) (now : Int)

/-- The status column of a user, with the save's time. -/
def setStatus (db : Database) (user : UUID) (status : AccountStatus) : Database :=
  db.updateUser user fun u => { u with status := status, updatedAt := now }

namespace BanService

/-- Status, sessions and refresh tokens of a user whose ban takes hold. -/
def enforce (db : Database) (user : UUID) (actor : Option UUID) (sessionKey : Option String) :
    Except Exception Database := do
  let db := setStatus now db user .banned
  let db ← SessionService.revokeAll env now db user actor sessionKey false
  return TokenService.revokeAllJwt db user

/-- The row `ban` creates; `startsAt` falls back to the time of the call. -/
def newBan (pk user : UUID) (reason : String) (actor : Option UUID)
    (startsAt expiresAt : Option Int) : UserBan where
  pk := pk
  user := user
  reason := reason
  bannedBy := actor
  startsAt := startsAt.getD now
  expiresAt := expiresAt

def ban (db : Database) (pk user : UUID) (reason : String) (actor : Option UUID)
    (startsAt expiresAt : Option Int) (sessionKey : Option String) :
    Except Exception Database := do
  let locked ← db.getUser user
  let row := newBan now pk locked.pk reason actor startsAt expiresAt
  -- `acct_ban_expiry_after_start`
  if !row.unexpired row.startsAt then throw .integrity
  match db.bans.insert? row with
  | none => throw .integrity
  | some bans =>
      let db := { db with bans := bans }
      let db ← if row.startsAt ≤ now then enforce env now db locked.pk actor sessionKey
        else pure db
      return db.audit "account.banned" (UUID.str locked.pk) actor

def revoke (db : Database) (ban : UUID) (actor : Option UUID) : Except Exception Database :=
  match db.bans.get? ban with
  | none => .error .doesNotExist
  | some locked => do
      let user ← db.getUser locked.user
      if locked.revokedAt.isSome then return db
      let db := { db with bans := db.bans.modify ban fun b => { b with revokedAt := some now } }
      let stillBanned := hasActiveBan db.bans now user.pk
      let db := if !stillBanned ∧ user.status = .banned then setStatus now db user.pk .active
        else db
      return db.audit "account.ban_revoked" (UUID.str user.pk) actor

end BanService

/-! ### `expire_temporary_bans` -/

/-- The first query.  Its two `filter` calls join the bans twice: one ban has started and
is not revoked, and one, the same or another, has not expired. -/
def activates (db : Database) (user : User) : Bool :=
  user.status ≠ .banned ∧
    (db.bans.rows.any fun ban => ban.user = user.pk ∧ ban.started now) ∧
    db.bans.rows.any fun ban => ban.user = user.pk ∧ ban.unexpired now

/-- The second: one ban has expired and is not revoked. -/
def expires (db : Database) (user : User) : Bool :=
  user.status = .banned ∧
    db.bans.rows.any fun ban =>
      ban.user = user.pk ∧ ban.expiresAt.any (fun t => t ≤ now) ∧ ban.revokedAt = none

def activate (db : Database) (user : User) : Except Exception Database := do
  let db ← BanService.enforce env now db user.pk none none
  return db.audit "account.ban_activated" (UUID.str user.pk) none

def lift (db : Database) (user : User) : Database :=
  if hasActiveBan db.bans now user.pk then db else setStatus now db user.pk .active

def expireTemporaryBans (db : Database) : Except Exception Database := do
  let usersToActivate := db.users.rows.filter (activates now db)
  let db ← usersToActivate.foldlM (activate env now) db
  let users := db.users.rows.filter (expires now db)
  return users.foldl (lift now) db

/-- The second loop, with its `updated`. -/
def liftCount : Nat × Database → User → Nat × Database
  | (updated, db), user =>
      if hasActiveBan db.bans now user.pk then (updated, db)
      else (updated + 1, setStatus now db user.pk .active)

/-- The task with the number it returns. -/
def expireTemporaryBansCount (db : Database) : Except Exception (Nat × Database) := do
  let usersToActivate := db.users.rows.filter (activates now db)
  let db ← usersToActivate.foldlM (activate env now) db
  let users := db.users.rows.filter (expires now db)
  let (updated, db) := users.foldl (liftCount now) (0, db)
  return (updated + usersToActivate.length, db)

end DjangoFoundation
