/-
One-time tokens in concurrent transactions: `TokenService.issue`, statement by statement, and
the four confirmations, each one transaction that starts with `TokenService.consume`.

What a transaction writes is its own until it commits: it is kept in the transaction's work,
and reaches the tables in the commit or not at all.  A statement reads the rows committed
when it starts.  A row it updates or selects `FOR UPDATE` is locked from then on to the end of
the transaction; where another transaction holds it, the statement waits, and reads the row
again.
-/
import DjangoFoundation.Lib.Run
import DjangoFoundation.Lib.Locks
import DjangoFoundation.Authentication.Services

namespace DjangoFoundation

namespace Tokens

open AccountService SessionService TokenService

variable (env : Environment) (now : Int)

/-! ### Confirmations -/

inductive Confirmation
  | verifyEmail (rawToken : String)
  | resetPassword (rawToken newPassword salt : String) (sessionKey : Option String)
  | confirmEmailChange (rawToken : String) (sessionKey : Option String)
  | confirmDeletion (rawToken passwordSuffix : String) (sessionKey : Option String)
  deriving DecidableEq, Repr

namespace Confirmation

def rawToken : Confirmation → String
  | .verifyEmail rawToken => rawToken
  | .resetPassword rawToken _ _ _ => rawToken
  | .confirmEmailChange rawToken _ => rawToken
  | .confirmDeletion rawToken _ _ => rawToken

def purpose : Confirmation → TokenPurpose
  | .verifyEmail _ => .emailVerification
  | .resetPassword _ _ _ _ => .passwordReset
  | .confirmEmailChange _ _ => .emailChange
  | .confirmDeletion _ _ _ => .accountDeletion

/-- The service call. -/
def run (db : Database) : Confirmation → Except Exception Database
  | .verifyEmail rawToken => AccountService.verifyEmail env now db rawToken
  | .resetPassword rawToken newPassword salt sessionKey =>
      AccountService.resetPassword env now db rawToken newPassword salt sessionKey
  | .confirmEmailChange rawToken sessionKey =>
      AccountService.confirmEmailChange env now db rawToken sessionKey
  | .confirmDeletion rawToken passwordSuffix sessionKey =>
      AccountService.confirmDeletion env now db rawToken passwordSuffix sessionKey

/-! The saves of the services, each of the row it reads. -/

/-- The user of a verified address. -/
def verified (user : User) : User :=
  { user with
    emailVerifiedAt := some now
    status := if user.status = .pending then .active else user.status
    updatedAt := now }

/-- The user of a new address. -/
def readdressed (email : String) (user : User) : User :=
  { user with email := email, emailVerifiedAt := some now, updatedAt := now }

/-- The profile of a deleted user. -/
def blanked (profile : UserProfile) : UserProfile :=
  { profile with bio := "", website := "", location := "" }

theorem verified_pk (user : User) : (verified now user).pk = user.pk := rfl

theorem readdressed_pk (email : String) (user : User) :
    (readdressed now email user).pk = user.pk := rfl

theorem blanked_pk (profile : UserProfile) : Keyed.pk (blanked profile) = Keyed.pk profile := rfl

/-- What the service does with the token it has consumed. -/
def body (token : OneTimeToken) (db : Database) : Confirmation → Except Exception Database
  | .verifyEmail _ => do
      let user ← db.getUser token.user
      if user.emailVerifiedAt.isSome then return db
      let db := db.updateUser user.pk (verified now) (verified_pk now)
      return (db.audit "email.verified" (UUID.str user.pk) (some user.pk)).email
        "welcome" user.email
  | .resetPassword _ newPassword salt sessionKey => do
      let user ← db.getUser token.user
      if !env.acceptsPassword newPassword user then throw .validation
      let db := setPassword env now db user.pk salt newPassword
      let db := stampPasswordChange now db user.pk
      let db ← revokeAll env now db user.pk (some user.pk) sessionKey false
      let db := revokeAllJwt db user.pk
      let db := db.securityEvent .passwordReset user.pk
      let db := db.audit "password.reset" (UUID.str user.pk) (some user.pk)
      return db.email "password_changed" user.email
  | .confirmEmailChange _ sessionKey => do
      let user ← db.getUser token.user
      match token.metadata.lookup "new_email" with
      | none => throw (.keyError "new_email")
      | some newEmail =>
          if db.users.rows.any fun other =>
              env.iexact other.email newEmail ∧ other.pk ≠ user.pk then
            throw emailUnavailable
          let email := env.unicode.normalizeEmailAddress newEmail
          if emailTaken env db user.pk email then throw .integrity
          let db := db.updateUser user.pk (readdressed now email) (readdressed_pk now email)
          let db ← revokeAll env now db user.pk (some user.pk) sessionKey true
          let db := revokeAllJwt db user.pk
          let db := db.securityEvent .emailChanged user.pk
          let db := db.audit "email.changed" (UUID.str user.pk) (some user.pk)
          return db.email "email_changed" user.email
  | .confirmDeletion _ passwordSuffix sessionKey => do
      let user ← db.getUser token.user
      let db ← save env db (pseudonymised now user passwordSuffix)
      let db := { db with profiles := db.profiles.modify user.pk blanked blanked_pk }
      let db ← revokeAll env now db user.pk (some user.pk) sessionKey false
      let db := revokeAllJwt db user.pk
      let db := db.securityEvent .accountDeleted user.pk
      let db := db.audit "account.deleted" (UUID.str user.pk) (some user.pk)
      return db.publish "account.deleted" user.pk

/-- A confirmation consumes its token and goes on from there. -/
theorem run_eq (c : Confirmation) (db : Database) :
    c.run env now db = (do
      let (token, db) ← consume env now db c.rawToken c.purpose
      c.body env now token db) := by
  cases c <;> rfl

end Confirmation

/-! ### Transactions -/

/-- The arguments of `TokenService.issue`. -/
structure Issue where
  user : UUID
  purpose : TokenPurpose
  ttl : Int
  metadata : List (String × String) := []
  deriving DecidableEq, Repr

/-- The rows its `UPDATE` is about. -/
def Issue.supersedes (issue : Issue) (token : OneTimeToken) : Bool :=
  token.user = issue.user ∧ token.purpose = issue.purpose ∧ token.usedAt = none

/-- The row it creates; `now` was read when it began. -/
def Issue.token (issue : Issue) (began : Int) (raw : String) : OneTimeToken where
  tokenHash := tokenHash env raw issue.purpose
  user := issue.user
  purpose := issue.purpose
  metadata := issue.metadata
  createdAt := now
  expiresAt := began + issue.ttl

/-- Where a transaction stands, with what it has written. -/
inductive Work
  /-- Before the `UPDATE`. -/
  | issue (began : Int) (issue : Issue)
  /-- The `UPDATE` has found these rows and waits for those of them that are locked. -/
  | superseding (began : Int) (issue : Issue) (found : List String)
  /-- It has marked these; before the `INSERT`. -/
  | superseded (began : Int) (issue : Issue) (marked : List String)
  /-- Before the commit. -/
  | inserted (began : Int) (issue : Issue) (marked : List String) (raw : String)
      (token : OneTimeToken)
  /-- Before `consume`. -/
  | confirm (confirmation : Confirmation)
  /-- The token is locked and marked; before the rest and the commit. -/
  | consumed (confirmation : Confirmation) (token : OneTimeToken) (consumedAt : Int)
  deriving DecidableEq, Repr

/-- The rows of `OneTimeToken` a transaction has locked. -/
def Work.locked : Work → List String
  | .superseded _ _ marked => marked
  | .inserted _ _ marked _ _ => marked
  | .consumed _ token _ => [token.tokenHash]
  | _ => []

/-- The hashes of the rows it has inserted and not committed. -/
def Work.inserting : Work → List String
  | .inserted _ _ _ _ token => [token.tokenHash]
  | _ => []

structure Txn where
  id : Nat
  work : Work
  deriving DecidableEq, Repr

instance : Keyed Txn Nat := ⟨Txn.id⟩

def Txn.locked (txn : Txn) : List String := txn.work.locked

def Txn.inserting (txn : Txn) : List String := txn.work.inserting

/-! ### The system -/

/-- A raw token `issue` has returned. -/
structure Issued where
  raw : String
  user : UUID
  purpose : TokenPurpose
  expiresAt : Int
  deriving DecidableEq, Repr

/-- A confirmation that has committed. -/
structure Confirmed where
  raw : String
  purpose : TokenPurpose
  user : UUID
  consumedAt : Int
  deriving DecidableEq, Repr

/-- The committed tables and the open transactions, and as history what has committed. -/
structure State where
  clock : Int := 0
  db : Database := {}
  txns : Table Txn := ∅
  issued : List Issued := []
  confirmed : List Confirmed := []

inductive Start
  | issue (issue : Issue)
  | confirm (confirmation : Confirmation)
  deriving DecidableEq, Repr

def Start.work : Start → Work
  | .issue i => .issue now i
  | .confirm c => .confirm c

inductive Event
  | begin (id : Nat) (start : Start)
  /-- The `UPDATE` of `issue` starts.. -/
  | find (id : Nat)
  /-- ..and has every row it found. -/
  | supersede (id : Nat)
  | insert (id : Nat) (raw : String)
  | consume (id : Nat)
  /-- The last statement, with the commit. -/
  | finish (id : Nat)
  /-- Rolled back from outside: a connection lost, a deadlock. -/
  | abort (id : Nat)
  deriving DecidableEq, Repr

namespace State

variable (s : State)

def work? (id : Nat) : Option Work := (s.txns.get? id).map Txn.work

/-- No other transaction holds the row. -/
def free (id : Nat) (hash : String) : Bool := Locks.free Txn.locked s.txns id hash

/-- No other transaction has an uncommitted row under this hash. -/
def unclaimed (id : Nat) (hash : String) : Bool := Locks.free Txn.inserting s.txns id hash

def goOn (id : Nat) (work : Work) : State :=
  { s with txns := s.txns.modify id fun txn => { txn with work := work } }

/-- The transaction is over; what it held uncommitted goes with it. -/
def close (id : Nat) : State := { s with txns := s.txns.erase id }

def superseding (id : Nat) : Option State :=
  match s.work? id with
  | some (.issue began issue) => some (s.goOn id (.superseding began issue
      ((s.db.oneTimeTokens.rows.filter issue.supersedes).map OneTimeToken.tokenHash)))
  | _ => none

def supersede (id : Nat) : Option State :=
  match s.work? id with
  | some (.superseding began issue found) =>
      if found.all (s.free id) then
        some (s.goOn id (.superseded began issue (found.filter fun hash =>
          (s.db.oneTimeTokens.get? hash).any issue.supersedes)))
      else none
  | _ => none

/-- The unique constraint of `token_hash` waits for whoever is inserting the same, and
raises where it is there. -/
def insert (id : Nat) (raw : String) : Option State :=
  match s.work? id with
  | some (.superseded began issue marked) =>
      let token := issue.token env now began raw
      if !s.unclaimed id token.tokenHash then none
      else if (s.db.oneTimeTokens.get? token.tokenHash).isSome then some (s.close id)
      else some (s.goOn id (.inserted began issue marked raw token))
  | _ => none

def consume (id : Nat) : Option State :=
  match s.work? id with
  | some (.confirm c) =>
      let hash := tokenHash env c.rawToken c.purpose
      if (s.db.oneTimeTokens.get? hash).any fun token =>
          token.purpose = c.purpose ∧ s.free id hash = false then none
      else match usable? env now s.db c.rawToken c.purpose with
        | none => some (s.close id)
        | some token => some (s.goOn id (.consumed c token now))
  | _ => none

def finish (id : Nat) : Option State :=
  match s.work? id with
  | some (.inserted began issue marked raw token) =>
      let tokens := s.db.oneTimeTokens.update (fun t => t.tokenHash ∈ marked)
        (fun t => { t with usedAt := some began }) (used_pk began)
      match tokens.insert? token with
      | none => some (s.close id)
      | some tokens => some { s.close id with
          db := { s.db with oneTimeTokens := tokens }
          issued := s.issued ++ [⟨raw, issue.user, issue.purpose, token.expiresAt⟩] }
  | some (.consumed c token consumedAt) =>
      let tokens := s.db.oneTimeTokens.modify token.tokenHash
        (fun t => { t with usedAt := some consumedAt }) (used_pk consumedAt)
      match c.body env now token { s.db with oneTimeTokens := tokens } with
      | .error _ => some (s.close id)
      | .ok db => some { s.close id with
          db := db
          confirmed := s.confirmed ++ [⟨c.rawToken, c.purpose, token.user, consumedAt⟩] }
  | _ => none

def move : Event → Option State
  | .begin id start =>
      (s.txns.insert? ⟨id, start.work now⟩).map fun txns => { s with txns := txns }
  | .find id => s.superseding id
  | .supersede id => s.supersede id
  | .insert id raw => s.insert env now id raw
  | .consume id => s.consume env now id
  | .finish id => s.finish env now id
  | .abort id => (s.txns.get? id).map fun _ => s.close id

end State

def step (s : State) (e : Int × Event) : Option State :=
  if s.clock ≤ e.1 then { s with clock := e.1 }.move env e.1 e.2 else none

end Tokens

end DjangoFoundation
