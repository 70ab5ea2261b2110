/-
Bans and revocations in concurrent transactions, and `expire_temporary_bans` beside them,
query by query.

A transaction locks the rows it selects `FOR UPDATE` and keeps them to its end; what it
writes reaches the tables in its commit.  The task has no transaction: each of its queries
reads what is committed, and each `save` is committed at once, after whoever holds the row.
It writes the status of users it has read some time before.
-/
import DjangoFoundation.Lib.Run
import DjangoFoundation.Accounts.Services

namespace DjangoFoundation

namespace BanRaces

variable (env : Environment) (now : Int)

/-! ### Transactions -/

inductive Request
  | ban (pk user : UUID) (reason : String) (actor : Option UUID) (startsAt expiresAt : Option Int)
      (sessionKey : Option String)
  | revoke (pk : UUID) (actor : Option UUID)
  deriving DecidableEq, Repr

/-- The service call. -/
def Request.run (db : Database) : Request → Except Exception Database
  | .ban pk user reason actor startsAt expiresAt sessionKey =>
      BanService.ban env now db pk user reason actor startsAt expiresAt sessionKey
  | .revoke pk actor => BanService.revoke now db pk actor

/-- A row that is locked. -/
inductive Row
  | user (pk : UUID)
  | ban (pk : UUID)
  deriving DecidableEq, Repr

/-- The rows its `SELECT .. FOR UPDATE` finds; that of `revoke` joins the user. -/
def Request.rows? (db : Database) : Request → Option (List Row)
  | .ban _ user _ _ _ _ _ => (db.users.get? user).map fun row => [.user row.pk]
  | .revoke pk _ => (db.bans.get? pk).map fun row => [.ban row.pk, .user row.user]

structure Txn where
  id : Nat
  request : Request
  /-- What it has locked; nothing before its `SELECT`. -/
  locked : Option (List Row) := none
  deriving DecidableEq, Repr

instance : Keyed Txn Nat := ⟨Txn.id⟩

/-! ### The task -/

/-- Where a run of the task stands. -/
inductive Work
  /-- Before the first query. -/
  | begun
  /-- These are still to be activated; before the `save` of the first of them. -/
  | activating (users : List UUID)
  /-- The status of `user` is saved; before its sessions and tokens are revoked, which is one
  step here, as it touches neither users nor bans. -/
  | enforcing (user : UUID) (users : List UUID)
  /-- The second query has found these; before they are read. -/
  | expired (users : List UUID)
  /-- These are still to be looked at; before the query for a ban of the first. -/
  | lifting (users : List UUID)
  /-- `user` has no active ban; before its `save`. -/
  | lifted (user : UUID) (users : List UUID)
  deriving DecidableEq, Repr

structure Task where
  id : Nat
  /-- `now`, read once. -/
  startedAt : Int
  work : Work := .begun
  deriving DecidableEq, Repr

instance : Keyed Task Nat := ⟨Task.id⟩

/-! ### The system -/

structure State where
  clock : Int := 0
  db : Database := {}
  txns : Table Txn := ∅
  tasks : Table Task := ∅

inductive Event
  | begin (id : Nat) (request : Request)
  /-- `SELECT .. FOR UPDATE`. -/
  | lock (id : Nat)
  /-- The rest, with the commit. -/
  | finish (id : Nat)
  /-- Rolled back from outside: a connection lost, a deadlock. -/
  | abort (id : Nat)
  | start (id : Nat)
  /-- The task makes its next query or write. -/
  | advance (id : Nat)
  /-- The worker is gone. -/
  | die (id : Nat)
  deriving DecidableEq, Repr

namespace State

variable (s : State)

/-- Some transaction holds the row. -/
def held (row : Row) : Bool := s.txns.rows.any fun txn => row ∈ txn.locked.getD []

def close (id : Nat) : State := { s with txns := s.txns.erase id }

def lock (id : Nat) : Option State :=
  match s.txns.get? id with
  | some ⟨_, request, none⟩ =>
      match request.rows? s.db with
      | none => some (s.close id) -- `DoesNotExist`
      | some rows =>
          if rows.any s.held then none
          else some { s with txns := s.txns.modify id fun txn => { txn with locked := some rows } }
  | _ => none

def finish (id : Nat) : Option State :=
  match s.txns.get? id with
  | some ⟨_, request, some _⟩ =>
      some { s.close id with db := s.db.committed (request.run env now s.db) }
  | _ => none

def goOn (id : Nat) (work : Work) : State :=
  { s with tasks := s.tasks.modify id fun task => { task with work := work } }

def die (id : Nat) : State := { s with tasks := s.tasks.erase id }

/-- `user.save(update_fields=["status", "updated_at"])`, which raises where there is no row. -/
def save (id : Nat) (user : UUID) (status : AccountStatus) (work : Work) : Option State :=
  if s.held (.user user) then none
  else match s.db.users.get? user with
    | none => some (s.die id)
    | some _ => some { s.goOn id work with db := setStatus now s.db user status }

/-- The next query or write of a task that stands at `work`. -/
def advance (task : Task) : Option State :=
  match task.work with
  | .begun =>
      let users := s.db.users.rows.filter (activates task.startedAt s.db)
      some (s.goOn task.id (.activating (users.map User.pk)))
  | .activating (user :: users) => s.save now task.id user .banned (.enforcing user users)
  | .enforcing user users =>
      match SessionService.revokeAll env now s.db user none none false with
      | .error _ => some (s.die task.id)
      | .ok db => some { s.goOn task.id (.activating users) with
          db := (TokenService.revokeAllJwt db user).audit "account.ban_activated" (UUID.str user)
            none }
  | .activating [] =>
      let users := s.db.users.rows.filter (expires task.startedAt s.db)
      some (s.goOn task.id (.expired (users.map User.pk)))
  | .expired ids =>
      let users := s.db.users.rows.filter fun user => user.pk ∈ ids
      some (s.goOn task.id (.lifting (users.map User.pk)))
  | .lifting (user :: users) =>
      if hasActiveBan s.db.bans task.startedAt user then some (s.goOn task.id (.lifting users))
      else some (s.goOn task.id (.lifted user users))
  | .lifted user users => s.save now task.id user .active (.lifting users)
  | .lifting [] => some (s.die task.id)

def move : Event → Option State
  | .begin id request =>
      (s.txns.insert? ⟨id, request, none⟩).map fun txns => { s with txns := txns }
  | .lock id => s.lock id
  | .finish id => s.finish env now id
  | .abort id => (s.txns.get? id).map fun _ => s.close id
  | .start id => (s.tasks.insert? ⟨id, now, .begun⟩).map fun tasks => { s with tasks := tasks }
  | .advance id => (s.tasks.get? id).bind (s.advance env now)
  | .die id => (s.tasks.get? id).map fun _ => s.die id

/-- No operation is in progress. -/
def quiet : Bool := s.txns.rows = [] ∧ s.tasks.rows = []

end State

def step (s : State) (e : Int × Event) : Option State :=
  if s.clock ≤ e.1 then { s with clock := e.1 }.move env e.1 e.2 else none

end BanRaces

end DjangoFoundation
