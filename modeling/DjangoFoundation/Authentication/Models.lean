/-
`apps/authentication/models.py`, and the rows of the packages beside it: Django's
sessions and the refresh tokens of the JWT package.

Sessions and tokens are looked up by a unique hash and never renamed; that hash is their
key here.
-/
import DjangoFoundation.Lib.Table
import DjangoFoundation.Common.Base

namespace DjangoFoundation

inductive TokenPurpose
  | emailVerification
  | passwordReset
  | emailChange
  | accountDeletion
  deriving DecidableEq, Repr

def TokenPurpose.value : TokenPurpose → String
  | .emailVerification => "email_verification"
  | .passwordReset => "password_reset"
  | .emailChange => "email_change"
  | .accountDeletion => "account_deletion"

structure OneTimeToken where
  tokenHash : String
  user : UUID
  purpose : TokenPurpose
  metadata : List (String × String)
  createdAt : Int
  expiresAt : Int
  usedAt : Option Int := none
  deriving DecidableEq, Repr

/-- `OneTimeToken.is_usable`. -/
def OneTimeToken.isUsable (token : OneTimeToken) (now : Int) : Bool :=
  token.usedAt = none ∧ token.expiresAt > now

structure UserSession where
  sessionKeyHash : String
  user : UUID
  identifier : String
  encryptedSessionKey : String
  userAgent : String
  lastActivityAt : Int
  revokedAt : Option Int := none
  deriving DecidableEq, Repr

/-- What the session framework keeps of a session that matters to authentication. -/
structure SessionData where
  /-- `_auth_user_id` -/
  userId : Option UUID := none
  /-- `_auth_user_hash` -/
  authHash : Option String := none
  /-- `_session_expiry`, in seconds -/
  expiry : Option Nat := none
  deriving DecidableEq, Repr

/-- A row of `django_session`. -/
structure Session where
  sessionKey : String
  data : SessionData
  expireDate : Int
  deriving DecidableEq, Repr

structure OutstandingToken where
  jti : String
  user : UUID
  expiresAt : Int
  deriving DecidableEq, Repr

structure BlacklistedToken where
  token : String
  deriving DecidableEq, Repr

/-- A row of `TwoFactorCredential`; a user has at most one. -/
structure TwoFactorCredential where
  user : UUID
  encryptedSecret : String
  confirmedAt : Option Int := none
  disabledAt : Option Int := none
  deriving DecidableEq, Repr

/-- `TwoFactorCredential.is_enabled`. -/
def TwoFactorCredential.isEnabled (credential : TwoFactorCredential) : Bool :=
  credential.confirmedAt.isSome && credential.disabledAt.isNone

structure RecoveryCode where
  credential : UUID
  codeHash : String
  usedAt : Option Int := none
  deriving DecidableEq, Repr

instance : Keyed OneTimeToken String := ⟨OneTimeToken.tokenHash⟩
instance : Keyed UserSession String := ⟨UserSession.sessionKeyHash⟩
instance : Keyed Session String := ⟨Session.sessionKey⟩
instance : Keyed OutstandingToken String := ⟨OutstandingToken.jti⟩
instance : Keyed BlacklistedToken String := ⟨BlacklistedToken.token⟩
instance : Keyed TwoFactorCredential UUID := ⟨TwoFactorCredential.user⟩
/-- `auth_recovery_code_unique`. -/
instance : Keyed RecoveryCode (UUID × String) := ⟨fun code => (code.credential, code.codeHash)⟩

theorem used_pk (now : Int) (token : OneTimeToken) :
    Keyed.pk { token with usedAt := some now } = Keyed.pk token := rfl

theorem RecoveryCode.used_pk (now : Int) (code : RecoveryCode) :
    Keyed.pk { code with usedAt := some now } = Keyed.pk code := rfl

end DjangoFoundation
