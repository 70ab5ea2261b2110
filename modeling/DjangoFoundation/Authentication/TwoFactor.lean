/-
The calls of `TwoFactorService` (`apps/authentication/services.py`) that set two-factor
authentication up and take it down, and runs of them.

A user has one credential at most; its two nullable timestamps say where it stands.  `delete`
takes the recovery codes of a credential with it.
-/
import DjangoFoundation.Authentication.Login

namespace DjangoFoundation

/-- A value of `secrets.token_hex(5).upper()`. -/
def IsRecoveryCode (value : String) : Prop :=
  value.toList.length = 10 ∧ ∀ c ∈ value.toList, c ∈ "0123456789ABCDEF".toList

instance (value : String) : Decidable (IsRecoveryCode value) :=
  @instDecidableAnd _ _ _ (List.decidableBAll _ _)

/-- What `_replace_recovery_codes` draws: ten codes, no two of them the same. -/
structure RecoveryCodes where
  values : List String
  length_eq : values.length = 10
  nodup : values.Nodup
  code : ∀ value ∈ values, IsRecoveryCode value

/-- Ten digits. -/
def RecoveryCodes.plain : RecoveryCodes where
  values := ["0000000000", "1111111111", "2222222222", "3333333333", "4444444444", "5555555555",
    "6666666666", "7777777777", "8888888888", "9999999999"]
  length_eq := rfl
  nodup := by decide
  code := by decide

/-- An authenticator with one code, no recovery code. -/
def TwoFactor.oneCode : TwoFactor where
  verify _ code _ := code = "123456"
  upperTable c := [c]

variable (env : Environment) (twoFactor : TwoFactor) (now : Int)

namespace TwoFactorService

def authenticationFailed : Exception :=
  .api { detail := "Authentication failed.", code := "AUTHENTICATION_FAILED", statusCode := 401 }

def alreadyEnabled : Exception :=
  .api {
    detail := "Two-factor authentication is already enabled."
    code := "CONFLICT"
    statusCode := 409 }

def noPendingSetup : Exception :=
  .api {
    detail := "No pending two-factor setup exists."
    code := "RESOURCE_NOT_FOUND"
    statusCode := 404 }

def invalidCode : Exception :=
  .api {
    detail := "The authentication code is invalid."
    code := "AUTHENTICATION_FAILED"
    statusCode := 401 }

/-- `user.check_password(password)`. -/
def checkPassword (user : User) (password : String) : Bool :=
  env.keyring.checkPassword password user.password

/-- The credential of the user, locked, among those the filter lets through. -/
def credential? (db : Database) (user : UUID) (p : TwoFactorCredential → Bool) :
    Option TwoFactorCredential :=
  (db.twoFactorCredentials.get? user).filter p

/-- `TwoFactorCredential.objects.filter(user=user, confirmed_at__isnull=True).delete()`. -/
def deletePending (db : Database) (user : UUID) : Database :=
  match credential? db user fun credential => credential.confirmedAt.isNone with
  | none => db
  | some _ => { db with
      recoveryCodes := db.recoveryCodes.delete fun code => code.credential = user
      twoFactorCredentials := db.twoFactorCredentials.erase user }

/-- The secret and the provisioning URI, with the database after it. -/
def beginSetup (provisioningUri : (secret name : String) → String) (db : Database) (user : UUID)
    (password secret : String) (nonce : Nat) : Except Exception (String × String × Database) := do
  let user ← db.getUser user
  if !checkPassword env user password then throw authenticationFailed
  let db := deletePending db user.pk
  if (credential? db user.pk TwoFactorCredential.isEnabled).isSome then throw alreadyEnabled
  match db.twoFactorCredentials.insert? {
      user := user.pk
      encryptedSecret := env.keyring.encryptValue "totp-secret" nonce secret } with
  | none => throw .integrity
  | some credentials =>
      return (secret, provisioningUri secret user.email,
        { db with twoFactorCredentials := credentials })

/-- The row of a new code. -/
def newCode (credential : UUID) (code : String) : RecoveryCode where
  credential := credential
  codeHash := recoveryHash env twoFactor code

/-- `bulk_create` of the rows of new codes, where no two rows come to have one key. -/
def insertCodes (credential : UUID) (codes : RecoveryCodes) (rows : Table RecoveryCode) :
    Option (Table RecoveryCode) :=
  codes.values.foldlM (fun rows code => rows.insert? (newCode env twoFactor credential code)) rows

/-- `_replace_recovery_codes`. -/
def replaceRecoveryCodes (db : Database) (credential : UUID) (codes : RecoveryCodes) :
    Except Exception Database :=
  match insertCodes env twoFactor credential codes
      (db.recoveryCodes.delete fun code => code.credential = credential) with
  | none => .error .integrity
  | some rows => .ok { db with recoveryCodes := rows }

/-- The codes, with the database after it. -/
def confirmSetup (db : Database) (user : UUID) (code : String) (codes : RecoveryCodes) :
    Except Exception (List String × Database) := do
  let user ← db.getUser user
  match credential? db user.pk fun credential => credential.confirmedAt.isNone with
  | none => throw noPendingSetup
  | some credential =>
      match env.keyring.decryptValue "totp-secret" credential.encryptedSecret with
      | none => throw .valueError
      | some secret =>
          if !twoFactor.verify secret code now then throw invalidCode
          let db := { db with
            twoFactorCredentials := db.twoFactorCredentials.modify user.pk fun credential =>
              { credential with confirmedAt := some now, disabledAt := none } }
          let db ← replaceRecoveryCodes env twoFactor db user.pk codes
          let db := db.record { eventType := .twoFactorEnabled, user := some user.pk }
          let db := db.audit "two_factor.enabled" (UUID.str user.pk) (some user.pk)
          return (codes.values, db.email "two_factor_enabled" user.email)

def regenerateCodes (db : Database) (user : UUID) (code : String) (codes : RecoveryCodes) :
    Except Exception (List String × Database) := do
  let user ← db.getUser user
  let (valid, db) ← verify env twoFactor now db user.pk code
  if !valid then throw invalidCode
  match credential? db user.pk fun credential => credential.disabledAt.isNone with
  | none => throw .doesNotExist
  | some credential =>
      let db ← replaceRecoveryCodes env twoFactor db credential.user codes
      return (codes.values,
        db.audit "two_factor.recovery_codes_regenerated" (UUID.str user.pk) (some user.pk))

def disable (db : Database) (user : UUID) (password code : String) :
    Except Exception Database := do
  let user ← db.getUser user
  if !checkPassword env user password then throw authenticationFailed
  let (valid, db) ← verify env twoFactor now db user.pk code
  if !valid then throw invalidCode
  match credential? db user.pk fun _ => true with
  | none => throw .doesNotExist
  | some credential =>
      let db := { db with
        twoFactorCredentials := db.twoFactorCredentials.modify credential.user fun credential =>
          { credential with disabledAt := some now }
        recoveryCodes := db.recoveryCodes.update
          (fun code => code.credential = credential.user ∧ code.usedAt = none)
          (fun code => { code with usedAt := some now }) (RecoveryCode.used_pk now) }
      let db := db.record { eventType := .twoFactorDisabled, user := some user.pk }
      let db := db.audit "two_factor.disabled" (UUID.str user.pk) (some user.pk)
      return db.email "two_factor_disabled" user.email

end TwoFactorService

/-! ### Runs -/

namespace TwoFactorSetup

open TwoFactorService

inductive Call
  | beginSetup (user : UUID) (password secret : String) (nonce : Nat)
  | confirmSetup (user : UUID) (code : String) (codes : RecoveryCodes)
  | regenerateCodes (user : UUID) (code : String) (codes : RecoveryCodes)
  | disable (user : UUID) (password code : String)

variable (provisioningUri : (secret name : String) → String)

def Call.run (db : Database) : Call → Except Exception Database
  | .beginSetup user password secret nonce =>
      (TwoFactorService.beginSetup env provisioningUri db user password secret nonce).map fun
        (_, _, db) => db
  | .confirmSetup user code codes =>
      (TwoFactorService.confirmSetup env twoFactor now db user code codes).map fun (_, db) => db
  | .regenerateCodes user code codes =>
      (TwoFactorService.regenerateCodes env twoFactor now db user code codes).map fun (_, db) => db
  | .disable user password code =>
      TwoFactorService.disable env twoFactor now db user password code

/-- The database and the time of the last call. -/
structure State where
  clock : Int
  db : Database

def step (s : State) (e : Int × Call) : Option State :=
  if s.clock ≤ e.1 then
    some { clock := e.1, db := s.db.committed (e.2.run env twoFactor e.1 provisioningUri s.db) }
  else none

end TwoFactorSetup

end DjangoFoundation
