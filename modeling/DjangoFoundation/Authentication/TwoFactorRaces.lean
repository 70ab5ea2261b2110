/-
The calls of `TwoFactorService` on one user in concurrent transactions, statement by statement.

What a transaction writes is its own until it commits.  A statement reads the rows committed when
it starts.  A row it deletes, updates or selects `FOR UPDATE` is locked from then on to the end of
the transaction; where another transaction holds it, the statement waits, and reads the row
again.

`delete()` of a credential is three statements: a query for its id, and a `DELETE` by that id of
its codes and of itself.  That a code's credential is there is checked in the commit.
-/
import DjangoFoundation.Lib.Run
import DjangoFoundation.Lib.Locks
import DjangoFoundation.Authentication.TwoFactor

namespace DjangoFoundation

namespace TwoFactorRaces

open TwoFactorService

variable (env : Environment) (twoFactor : TwoFactor) (user : User) (now : Int)

/-! ### Rows -/

/-- The credential of the user, with its id. -/
structure Credential where
  pk : UUID
  encryptedSecret : String
  confirmedAt : Option Int := none
  disabledAt : Option Int := none
  deriving DecidableEq, Repr

/-- `TwoFactorCredential.is_enabled`. -/
def Credential.isEnabled (credential : Credential) : Bool :=
  credential.confirmedAt.isSome && credential.disabledAt.isNone

/-- The id of a code's credential, and its hash. -/
abbrev CodeKey := UUID × String

/-- A row that is locked. -/
inductive Row
  | credential (pk : UUID)
  | code (key : CodeKey)
  deriving DecidableEq, Repr

/-- The row of a code, as it is locked. -/
def codeRow (code : RecoveryCode) : Row := .code (code.credential, code.codeHash)

/-! ### Transactions -/

inductive Call
  | beginSetup (password : String)
  | confirmSetup (code : String)
  /-- `verify`, from `login`: each of its statements is committed at once. -/
  | verify (code : String)
  | regenerateCodes (code : String)
  | disable (password code : String)
  deriving DecidableEq, Repr

/-- Whom a verification is for. -/
inductive Caller
  | login
  | regenerateCodes
  | disable
  deriving DecidableEq, Repr

/-- A code used up: its row, and what was hashed of it. -/
structure Consumed where
  key : CodeKey
  code : String
  usedAt : Int
  deriving DecidableEq, Repr

/-- Why the codes of a credential are replaced. -/
inductive Cause
  | confirmed (confirmedAt : Int)
  | regenerated (consumed : Option Consumed)
  deriving DecidableEq, Repr

/-- Where a transaction stands, with what it has written. -/
inductive Work
  | begun (call : Call)
  /-- `begin_setup` has found this credential; before the `DELETE` of its codes.. -/
  | pending (credential : UUID)
  /-- ..before the `DELETE` of the credential.. -/
  | emptied (credential : UUID) (deleted : List Row)
  /-- ..before the query for an enabled one.. -/
  | cleared (deleted : List Row)
  /-- ..and before the `INSERT`. -/
  | vacant (deleted : List Row)
  /-- Before `_consume_recovery_code` selects the code's row. -/
  | verifying (caller : Caller) (credential : UUID) (code : String)
  /-- `verify` has returned `True`; before the next statement, or the commit. -/
  | verified (caller : Caller) (consumed : Option Consumed)
  /-- The credential is locked; before the `DELETE` of `_replace_recovery_codes`.. -/
  | replacing (cause : Cause) (credential : UUID)
  /-- ..and before its `INSERT`. -/
  | replaced (cause : Cause) (credential : UUID) (deleted : List Row)
  /-- `disable` has marked its credential; before the `UPDATE` of its codes.. -/
  | disabling (credential : UUID) (consumed : Option Consumed) (disabledAt : Int)
  /-- ..and before the commit. -/
  | disabled (credential : UUID) (consumed : Option Consumed) (disabledAt : Int)
      (marked : List Row) (markedAt : Int)
  deriving DecidableEq, Repr

def consumedRows (consumed : Option Consumed) : List Row := (consumed.map (.code ·.key)).toList

def Cause.consumed : Cause → Option Consumed
  | .confirmed _ => none
  | .regenerated consumed => consumed

/-- The rows a transaction has locked. -/
def Work.locked : Work → List Row
  | .emptied _ deleted => deleted
  | .cleared deleted => deleted
  | .vacant deleted => deleted
  | .verified _ consumed => consumedRows consumed
  | .replacing cause credential => .credential credential :: consumedRows cause.consumed
  | .replaced cause credential deleted =>
      .credential credential :: (consumedRows cause.consumed ++ deleted)
  | .disabling credential consumed _ => .credential credential :: consumedRows consumed
  | .disabled credential consumed _ marked _ =>
      .credential credential :: (consumedRows consumed ++ marked)
  | _ => []

structure Txn where
  id : Nat
  work : Work
  /-- What its next statement has found and waits for. -/
  found : Option (List Row) := none
  deriving DecidableEq, Repr

instance : Keyed Txn Nat := ⟨Txn.id⟩

def Txn.locked (txn : Txn) : List Row := txn.work.locked

/-! ### What they write -/

/-- The codes without the deleted ones. -/
def dropped (deleted : List Row) (codes : Table RecoveryCode) : Table RecoveryCode :=
  codes.delete fun code => codeRow code ∈ deleted

/-- The codes with those of `rows` used. -/
def marked (rows : List Row) (usedAt : Int) (codes : Table RecoveryCode) : Table RecoveryCode :=
  codes.update (fun code => codeRow code ∈ rows) (fun code => { code with usedAt := some usedAt })
    (RecoveryCode.used_pk usedAt)

/-- The codes with the one consumed, if there is one, used. -/
def spent (consumed : Option Consumed) (codes : Table RecoveryCode) : Table RecoveryCode :=
  match consumed with
  | none => codes
  | some consumed => marked [.code consumed.key] consumed.usedAt codes

/-- What `confirm_setup` and `regenerate_codes` make of the credential they have locked. -/
def Cause.apply (locked : UUID) (credential : Credential) : Cause → Credential
  | .confirmed confirmedAt =>
      if credential.pk = locked then
        { credential with confirmedAt := some confirmedAt, disabledAt := none }
      else credential
  | .regenerated _ => credential

/-- What `disable` does. -/
def disabledBy (locked : UUID) (disabledAt : Int) (credential : Credential) : Credential :=
  if credential.pk = locked then { credential with disabledAt := some disabledAt } else credential

/-! ### The system -/

/-- The committed rows and the open transactions, and as history the sets of codes that were
returned, the last one first, and the codes that were accepted. -/
structure State where
  clock : Int := 0
  credential : Option Credential := none
  codes : Table RecoveryCode := ∅
  txns : Table Txn := ∅
  returned : List (List String) := []
  accepted : List String := []

inductive Event
  | begin (id : Nat) (call : Call)
  /-- A query that locks nothing. -/
  | read (id : Nat)
  /-- A statement that locks what it finds starts.. -/
  | find (id : Nat)
  /-- ..and has every row it found. -/
  | take (id : Nat)
  /-- The `INSERT` of `begin_setup`, with the commit. -/
  | create (id : Nat) (pk : UUID) (secret : String) (nonce : Nat)
  /-- That of `_replace_recovery_codes`, with the commit. -/
  | replace (id : Nat) (codes : RecoveryCodes)
  /-- The commit after a statement that was not the last to write. -/
  | finish (id : Nat)
  /-- Rolled back from outside: a connection lost, a deadlock. -/
  | abort (id : Nat)

namespace State

variable (s : State)

def txn? (id : Nat) : Option Txn := s.txns.get? id

/-- No other transaction holds the row. -/
def free (id : Nat) (row : Row) : Bool := Locks.free Txn.locked s.txns id row

def goOn (id : Nat) (work : Work) (found : Option (List Row)) : State :=
  { s with txns := s.txns.modify id fun txn => { txn with work := work, found := found } }

/-- The transaction is over; what it held uncommitted goes with it. -/
def close (id : Nat) : State := { s with txns := s.txns.erase id }

/-- It goes on, or raises. -/
def proceed (id : Nat) : Option Work → State
  | none => s.close id
  | some work => s.goOn id work none

/-! ### Queries -/

/-- The credential a query finds. -/
def credentialRow (p : Credential → Bool) : List Row :=
  ((s.credential.filter p).map (.credential ·.pk)).toList

/-- The codes it finds. -/
def codeRows (p : RecoveryCode → Bool) : List Row :=
  (s.codes.rows.filter p).map codeRow

/-- The rows the next statement of a transaction is about, if it locks any. -/
def finds : Work → Option (List Row)
  | .begun (.confirmSetup _) => some (s.credentialRow fun c => c.confirmedAt.isNone)
  | .pending credential => some (s.codeRows fun code => code.credential = credential)
  | .emptied credential _ => some (s.credentialRow fun c => c.pk = credential)
  | .verifying _ credential code =>
      some (s.codeRows fun row => row.credential = credential ∧
        row.codeHash = recoveryHash env twoFactor code ∧ row.usedAt = none)
  | .verified .regenerateCodes _ => some (s.credentialRow fun c => c.disabledAt.isNone)
  | .verified .disable _ => some (s.credentialRow fun _ => true)
  | .replacing _ credential => some (s.codeRows fun code => code.credential = credential)
  | .disabling credential consumed _ =>
      some (s.codeRows fun code => code.credential = credential ∧ code.usedAt = none ∧
        codeRow code ∉ consumedRows consumed)
  | _ => none

/-- `verify` up to its second statement. -/
def verify (caller : Caller) (code : String) : Option Work := do
  let credential ← s.credential
  if !credential.isEnabled then none
  else
    let secret ← env.keyring.decryptValue "totp-secret" credential.encryptedSecret
    let normalized := normalized env twoFactor code
    if twoFactor.verify secret normalized now then some (.verified caller none)
    else some (.verifying caller credential.pk normalized)

/-- A query that locks nothing, for a transaction that stands before one; `none` in the inner
place where the call ends there, with `False` or an exception. -/
def reads : Work → Option (Option Work)
  | .begun (.beginSetup password) =>
      if !checkPassword env user password then some none
      else match s.credential.filter fun c => c.confirmedAt.isNone with
        | none => some (some (.cleared []))
        | some credential => some (some (.pending credential.pk))
  | .begun (.verify code) => some (s.verify env twoFactor now .login code)
  | .begun (.regenerateCodes code) => some (s.verify env twoFactor now .regenerateCodes code)
  | .begun (.disable password code) =>
      if !checkPassword env user password then some none
      else some (s.verify env twoFactor now .disable code)
  | .cleared deleted =>
      if s.credential.any fun c => c.isEnabled ∧ .credential c.pk ∉ deleted then some none
      else some (some (.vacant deleted))
  | _ => none

/-- The credential among the rows a statement has locked. -/
def among (rows : List Row) : Option Credential :=
  s.credential.filter fun c => .credential c.pk ∈ rows

/-- What comes after a statement that has locked `rows`. -/
def taken (rows : List Row) : Work → Option Work
  | .begun (.confirmSetup code) => do
      let credential ← s.among rows
      let secret ← env.keyring.decryptValue "totp-secret" credential.encryptedSecret
      if twoFactor.verify secret code now then
        some (.replacing (.confirmed now) credential.pk)
      else none
  | .pending credential => some (.emptied credential rows)
  | .emptied _ deleted => some (.cleared (deleted ++ rows))
  | .verifying caller credential code =>
      let key := (credential, recoveryHash env twoFactor code)
      if .code key ∈ rows then
        some (.verified caller (some
          ⟨key, String.ofList (upper twoFactor (env.unicode.strip code.toList)), now⟩))
      else none
  | .verified .regenerateCodes consumed => do
      let credential ← s.among rows
      some (.replacing (.regenerated consumed) credential.pk)
  | .verified .disable consumed => do
      let credential ← s.among rows
      some (.disabling credential.pk consumed now)
  | .replacing cause credential => some (.replaced cause credential rows)
  | .disabling credential consumed disabledAt =>
      some (.disabled credential consumed disabledAt rows now)
  | _ => none

/-! ### Commits -/

/-- A commit, where every code has its credential; else it raises. -/
def commit (id : Nat) (credential : Option Credential) (codes : Table RecoveryCode)
    (consumed : Option Consumed) (returned : List (List String)) : State :=
  if codes.rows.all fun code => credential.any fun c => c.pk = code.credential then
    { s.close id with
      credential := credential
      codes := codes
      returned := returned ++ s.returned
      accepted := s.accepted ++ (consumed.map Consumed.code).toList }
  else s.close id

/-- The credential is one of a user who has none, but for what the transaction has deleted.  Its
id is one that no row has. -/
def create (id : Nat) (pk : UUID) (secret : String) (nonce : Nat) : Option State :=
  match (s.txn? id).map Txn.work with
  | some (.vacant deleted) =>
      if s.credential.any fun c => c.pk = pk then none
      else if s.credential.any fun c => .credential c.pk ∉ deleted then some (s.close id)
      else
        let credential : Credential :=
          { pk := pk, encryptedSecret := env.keyring.encryptValue "totp-secret" nonce secret }
        some (s.commit id (some credential) (dropped deleted s.codes) none [])
  | _ => none

/-- No code of these was returned before. -/
def fresh (codes : RecoveryCodes) : Bool :=
  codes.values.all fun code => s.returned.all fun set => code ∉ set

def replace (id : Nat) (codes : RecoveryCodes) : Option State :=
  match (s.txn? id).map Txn.work with
  | some (.replaced cause credential deleted) =>
      if !s.fresh codes then none
      else
        let left := dropped deleted (spent cause.consumed s.codes)
        match insertCodes env twoFactor credential codes left with
        | none => some (s.close id)
        | some rows => some (s.commit id (s.credential.map fun c => cause.apply credential c) rows
            cause.consumed [codes.values])
  | _ => none

def finish (id : Nat) : Option State :=
  match (s.txn? id).map Txn.work with
  | some (.verified .login consumed) =>
      some (s.commit id s.credential (spent consumed s.codes) consumed [])
  | some (.disabled credential consumed disabledAt rows markedAt) =>
      some (s.commit id (s.credential.map (disabledBy credential disabledAt))
        (marked rows markedAt (spent consumed s.codes)) consumed [])
  | _ => none

/-! ### Steps -/

def read (id : Nat) : Option State :=
  (s.txn? id).bind fun txn => (s.reads env twoFactor user now txn.work).map (s.proceed id)

def find (id : Nat) : Option State :=
  match s.txn? id with
  | some ⟨_, work, none⟩ => (s.finds env twoFactor work).map fun found =>
      s.goOn id work (some found)
  | _ => none

/-- A row that has gone, or is no longer what the statement is about, is not taken. -/
def take (id : Nat) : Option State :=
  match s.txn? id with
  | some ⟨_, work, some found⟩ =>
      if found.all (s.free id) then
        let rows := found.filter fun row => row ∈ (s.finds env twoFactor work).getD []
        some (s.proceed id (s.taken env twoFactor now rows work))
      else none
  | _ => none

def move : Event → Option State
  | .begin id call =>
      (s.txns.insert? ⟨id, .begun call, none⟩).map fun txns => { s with txns := txns }
  | .read id => s.read env twoFactor user now id
  | .find id => s.find env twoFactor id
  | .take id => s.take env twoFactor now id
  | .create id pk secret nonce => s.create env id pk secret nonce
  | .replace id codes => s.replace env twoFactor id codes
  | .finish id => s.finish id
  | .abort id => (s.txn? id).map fun _ => s.close id

end State

def step (s : State) (e : Int × Event) : Option State :=
  if s.clock ≤ e.1 then { s with clock := e.1 }.move env twoFactor user e.1 e.2 else none

end TwoFactorRaces

end DjangoFoundation
