/-
`apps/accounts/models.py`: users, their bans, and what both come to at a time.
-/
import DjangoFoundation.Lib.Table
import DjangoFoundation.Common.Base

namespace DjangoFoundation

inductive AccountStatus
  | active
  | pending
  | suspended
  | banned
  | deactivated
  | deleted
  deriving DecidableEq, Repr

structure User where
  pk : UUID
  password : String
  email : String
  username : String
  firstName : String := ""
  lastName : String := ""
  avatar : String := ""
  phone : String := ""
  status : AccountStatus := .pending
  emailVerifiedAt : Option Int := none
  phoneVerifiedAt : Option Int := none
  isActive : Bool := true
  isSuperuser : Bool := false
  lastLogin : Option Int := none
  lastLoginIp : Option String := none
  createdAt : Int := 0
  updatedAt : Int := 0
  deriving DecidableEq, Repr

structure UserProfile where
  user : UUID
  bio : String
  website : String
  location : String
  deriving DecidableEq, Repr

structure UserPreferences where
  user : UUID
  securityEmails : Bool := true
  deriving DecidableEq, Repr

structure UserSecuritySettings where
  user : UUID
  passwordChangedAt : Option Int := none
  lockedUntil : Option Int := none
  notifyNewDevice : Bool := true
  deriving DecidableEq, Repr

structure UserBan where
  pk : UUID
  user : UUID
  reason : String
  bannedBy : Option UUID
  startsAt : Int
  expiresAt : Option Int
  revokedAt : Option Int := none
  deriving DecidableEq, Repr

instance : Keyed User UUID := ⟨User.pk⟩
instance : Keyed UserProfile UUID := ⟨UserProfile.user⟩
instance : Keyed UserPreferences UUID := ⟨UserPreferences.user⟩
instance : Keyed UserSecuritySettings UUID := ⟨UserSecuritySettings.user⟩
instance : Keyed UserBan UUID := ⟨UserBan.pk⟩

/-- `UserSecuritySettings.is_locked`. -/
def UserSecuritySettings.isLocked (row : UserSecuritySettings) (now : Int) : Bool :=
  row.lockedUntil.any fun t => t > now

/-- `Q(expires_at__isnull=True) | Q(expires_at__gt=now)`. -/
def UserBan.unexpired (ban : UserBan) (now : Int) : Bool :=
  ban.expiresAt.all fun t => t > now

/-- Not revoked, and its start has come. -/
def UserBan.started (ban : UserBan) (now : Int) : Bool :=
  ban.revokedAt = none ∧ ban.startsAt ≤ now

/-- `UserBan.is_active`. -/
def UserBan.isActive (ban : UserBan) (now : Int) : Bool :=
  ban.started now && ban.unexpired now

/-- `user.has_active_ban()`. -/
def hasActiveBan (bans : Table UserBan) (now : Int) (user : UUID) : Bool :=
  bans.rows.any fun ban => ban.user = user ∧ ban.isActive now

/-- `user.can_authenticate_now()`. -/
def canAuthenticateNow (bans : Table UserBan) (now : Int) (user : User) : Bool :=
  user.isActive && user.status = .active && !hasActiveBan bans now user.pk

theorem hasActiveBan_iff {bans : Table UserBan} {now : Int} {user : UUID} :
    hasActiveBan bans now user = true ↔
      ∃ ban ∈ bans, ban.user = user ∧ ban.isActive now = true := by
  simp only [hasActiveBan, List.any_eq_true, Bool.decide_and, Bool.and_eq_true,
    decide_eq_true_eq]
  exact Iff.rfl

theorem canAuthenticateNow_iff {bans : Table UserBan} {now : Int} {user : User} :
    canAuthenticateNow bans now user = true ↔
      user.isActive = true ∧ user.status = .active ∧ hasActiveBan bans now user.pk = false := by
  simp only [canAuthenticateNow, Bool.and_eq_true, decide_eq_true_eq, Bool.not_eq_true', and_assoc]

end DjangoFoundation
