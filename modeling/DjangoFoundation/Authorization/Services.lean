/-
`apps/authorization/`: permissions, roles, assignments, overrides, and the two functions
that resolve them.

`hasPermission` answers for one codename by a chain of tests; `permissionCodes` computes
a set by joins and set operations.  A join over a relation that may be empty is an outer
join, and gives a row with a null where it is: the elements of the set are nullable.
-/
import DjangoFoundation.Accounts.Models
import Mathlib.Data.Finset.Option
import Mathlib.Data.Finset.Sort
import Mathlib.Data.String.Basic

namespace DjangoFoundation.Authorization

structure Permission where
  pk : UUID
  codename : String
  deriving DecidableEq, Repr

structure Role where
  pk : UUID
  slug : String
  deriving DecidableEq, Repr

structure RolePermission where
  pk : UUID
  role : UUID
  permission : UUID
  deriving DecidableEq, Repr

structure UserRole where
  pk : UUID
  user : UUID
  role : UUID
  validFrom : Int
  validUntil : Option Int
  deriving DecidableEq, Repr

inductive OverrideEffect
  | allow
  | deny
  deriving DecidableEq, Repr

structure UserPermissionOverride where
  pk : UUID
  user : UUID
  permission : UUID
  effect : OverrideEffect
  deriving DecidableEq, Repr

instance : Keyed Permission UUID := ⟨Permission.pk⟩
instance : Keyed Role UUID := ⟨Role.pk⟩
instance : Keyed RolePermission UUID := ⟨RolePermission.pk⟩
instance : Keyed UserRole UUID := ⟨UserRole.pk⟩
instance : Keyed UserPermissionOverride UUID := ⟨UserPermissionOverride.pk⟩

/-- The tables, with the unique constraints and foreign keys the models declare. -/
structure Store where
  bans : Table UserBan
  permissions : Table Permission
  roles : Table Role
  rolePermissions : Table RolePermission
  userRoles : Table UserRole
  overrides : Table UserPermissionOverride
  codename_unique : ∀ p ∈ permissions, ∀ q ∈ permissions, p.codename = q.codename → p = q
  override_unique : ∀ a ∈ overrides, ∀ b ∈ overrides,
    a.user = b.user → a.permission = b.permission → a = b
  rolePermission_role : ∀ link ∈ rolePermissions, (roles.get? link.role).isSome
  rolePermission_permission : ∀ link ∈ rolePermissions,
    (permissions.get? link.permission).isSome
  userRole_role : ∀ assignment ∈ userRoles, (roles.get? assignment.role).isSome
  override_permission : ∀ override ∈ overrides,
    (permissions.get? override.permission).isSome

namespace Store

variable (store : Store)

/-- `permission__codename` through a foreign key. -/
def codename? (permission : UUID) : Option String :=
  (store.permissions.get? permission).map (·.codename)

/-- The assignments of a user that are valid at a time. -/
def validAssignments (now : Int) (user : UUID) : List UserRole :=
  store.userRoles.rows.filter fun assignment =>
    assignment.user = user ∧ assignment.validFrom ≤ now ∧
      assignment.validUntil.all fun t => t > now

/-- The rows that link a role to permissions. -/
def links (role : UUID) : List RolePermission :=
  store.rolePermissions.rows.filter fun link => link.role = role

/-- `role__permissions__codename` by an inner join. -/
def roleCodenames (role : UUID) : List String :=
  (store.links role).filterMap fun link => store.codename? link.permission

/-- `role__permissions__codename` by an outer join: a null where the role has no link. -/
def outerRoleCodenames (role : UUID) : List (Option String) :=
  match store.links role with
  | [] => [none]
  | link :: links => (link :: links).map fun link => store.codename? link.permission

/-- The override of a user for a codename, the first of a query that can have one row. -/
def override? (user : UUID) (codename : String) : Option OverrideEffect :=
  (store.overrides.rows.find? fun override =>
    override.user = user ∧ store.codename? override.permission = some codename).map (·.effect)

/-- `dict(user.permission_overrides.values_list("permission__codename", "effect"))`.  The
constraint on `(user, permission)` leaves one item for each codename. -/
def overrideItems (user : UUID) : List (String × OverrideEffect) :=
  (store.overrides.rows.filter fun override => override.user = user).filterMap fun override =>
    (store.codename? override.permission).map fun codename => (codename, override.effect)

/-- The codenames of a user's overrides with an effect. -/
def overrideCodes (user : UUID) (effect : OverrideEffect) : Finset (Option String) :=
  ((store.overrideItems user).filterMap fun (code, e) =>
    if e = effect then some (some code) else none).toFinset

/-- `user and user.is_authenticated and user.can_authenticate_now()`. -/
def admits (now : Int) : Option User → Bool
  | none => false
  | some user => canAuthenticateNow store.bans now user

end Store

/-! ### `PermissionService` -/

def hasPermission (store : Store) (now : Int) (user : Option User) (codename : String) : Bool :=
  match user with
  | none => false
  | some user =>
      if !canAuthenticateNow store.bans now user then false
      else match store.override? user.pk codename with
        | some .deny => false
        | some .allow => true
        | none =>
            if user.isSuperuser then true
            else (store.validAssignments now user.pk).any fun assignment =>
              (store.roleCodenames assignment.role).contains codename

def permissionCodes (store : Store) (now : Int) (user : Option User) : Finset (Option String) :=
  match user with
  | none => ∅
  | some user =>
      if !canAuthenticateNow store.bans now user then ∅
      else
        let roleCodes := ((store.validAssignments now user.pk).flatMap fun assignment =>
          store.outerRoleCodenames assignment.role).toFinset
        let roleCodes := if user.isSuperuser then
            (store.permissions.rows.map fun permission => some permission.codename).toFinset
          else roleCodes
        (roleCodes ∪ store.overrideCodes user.pk .allow) \ store.overrideCodes user.pk .deny

/-- `sorted` on nullable strings: `none` for the `TypeError` of comparing a null with a
string, which a set of one element does not come to. -/
def sorted (codes : Finset (Option String)) : Option (List (Option String)) :=
  if none ∈ codes then
    if codes.card = 1 then some [none] else none
  else some ((codes.eraseNone.sort (· ≤ ·)).map some)

/-- `UserSerializer.get_permissions`: the codes of the user who asks, for others nothing. -/
def getPermissions (store : Store) (now : Int) (requestUser : Option User) (obj : User) :
    Option (List (Option String)) :=
  if requestUser.map (·.pk) = some obj.pk then sorted (permissionCodes store now (some obj))
  else some []

end DjangoFoundation.Authorization
