/-
The `bootstrap` command (`apps/core/management/commands/bootstrap.py`): registered permissions,
the four roles, a setting and a flag are written to the database.

Tables are keyed by what rows are looked up by here.  The ids drawn for new rows, the time and
the order in which a set of codenames is gone through are arguments.

`register_permissions` looks at no length, and nothing is validated on the way to the database.
What becomes of a text that is too long for its column is up to the engine, of which the
settings know two.  The texts of the roles, of the setting and of the flag are constants that
fit, so only registered texts are put to it.
-/
import Mathlib.Data.List.Dedup
import DjangoFoundation.Authorization.Registry
import DjangoFoundation.Authorization.Services
import DjangoFoundation.Common.Exceptions
import DjangoFoundation.Core.Models

namespace DjangoFoundation

namespace Bootstrap

open Authorization (Registration Registry UserRole UserPermissionOverride)

structure Permission where
  pk : UUID
  codename : String
  description : String := ""
  isSystem : Bool := false
  createdAt : Int
  updatedAt : Int
  deriving DecidableEq, Repr

structure Role where
  pk : UUID
  name : String
  slug : String
  description : String := ""
  priority : Nat := 0
  isSystem : Bool := false
  createdAt : Int
  updatedAt : Int
  deriving DecidableEq, Repr

structure RolePermission where
  pk : UUID
  role : UUID
  permission : UUID
  createdAt : Int
  deriving DecidableEq, Repr

structure FeatureFlag where
  pk : UUID
  key : String
  enabled : Bool := false
  description : String := ""
  createdAt : Int
  updatedAt : Int
  deriving DecidableEq, Repr

instance : Keyed Permission String := ⟨Permission.codename⟩
instance : Keyed Role String := ⟨Role.slug⟩
instance : Keyed RolePermission (UUID × UUID) := ⟨fun link => (link.role, link.permission)⟩
instance : Keyed FeatureFlag String := ⟨FeatureFlag.key⟩

structure State where
  permissions : Table Permission := ∅
  roles : Table Role := ∅
  rolePermissions : Table RolePermission := ∅
  userRoles : Table UserRole := ∅
  overrides : Table UserPermissionOverride := ∅
  settings : Table Setting := ∅
  featureFlags : Table FeatureFlag := ∅

/-! ### Texts and the database -/

/-- `DATABASE_ENGINE`. -/
inductive DatabaseEngine
  | sqlite
  | postgresql
  deriving DecidableEq, Repr

namespace DatabaseEngine

/-- A text on its way to the database.  PostgreSQL takes none with a NUL in it. -/
def parameter (engine : DatabaseEngine) (text : String) : Except Exception String :=
  if engine = .postgresql ∧ '\x00' ∈ text.toList then .error .dataError else .ok text

/-- A text as a `CharField` stores it.  SQLite keeps it whatever its length; PostgreSQL refuses
it where more than blanks is beyond `max_length`, and drops such blanks. -/
def charField (engine : DatabaseEngine) (maxLength : Nat) (text : String) :
    Except Exception String := do
  let text ← engine.parameter text
  if engine = .sqlite ∨ text.length ≤ maxLength then return text
  else if (text.toList.drop maxLength).all (· = ' ') then
    return String.ofList (text.toList.take maxLength)
  else throw .dataError

end DatabaseEngine

/-- `Permission.codename`. -/
def codenameLength : Nat := 150

/-- `Permission.description`. -/
def descriptionLength : Nat := 255

/-! ### The definitions and a run -/

/-- An entry of `ROLE_DEFINITIONS`.  No list of permissions stands for `"*"`. -/
structure Definition where
  slug : String
  name : String
  description : String
  priority : Nat
  permissions : Option (List String)
  deriving DecidableEq, Repr

/-- `ROLE_DEFINITIONS`. -/
def roleDefinitions : List Definition := [
  ⟨"super-admin", "Super Admin", "Full registered application access.", 1000, none⟩,
  ⟨"admin", "Admin", "Administrative access except system role management.", 800, none⟩,
  ⟨"moderator", "Moderator", "User safety and audit visibility.", 500,
    some ["users.view", "users.update", "users.ban", "audit.view", "security_events.view"]⟩,
  ⟨"user", "User", "Default authenticated account role.", 100, some []⟩]

/-- One run of the command. -/
structure Execution where
  /-- `timezone.now()`, taken to be the same for all its writes. -/
  now : Int
  /-- The ids drawn, for whatever is new. -/
  permissionId : String → UUID
  roleId : String → UUID
  linkId : String → String → UUID
  settingId : UUID
  flagId : UUID
  /-- The elements of `set(..)`, in the order of its iteration. -/
  setOf : List String → List String
  setOf_perm : ∀ codenames, (setOf codenames).Perm codenames.dedup

namespace Execution

variable (x : Execution)

/-! ### Permissions -/

/-- A permission as it is created. -/
def permission (r : Registration) : Permission where
  pk := x.permissionId r.codename
  codename := r.codename
  description := r.description
  isSystem := true
  createdAt := x.now
  updatedAt := x.now

/-- A permission as it is updated. -/
def updatePermission (r : Registration) (row : Permission) : Permission :=
  { row with description := r.description, isSystem := true, updatedAt := x.now }

theorem codename_updatePermission (r : Registration) (row : Permission) :
    Keyed.pk (x.updatePermission r row) = Keyed.pk row := rfl

/-- `Permission.objects.update_or_create(codename=.., defaults=..)`: the instance, whose texts are
those it was given, and the table. -/
def updateOrCreatePermission (engine : DatabaseEngine) (permissions : Table Permission)
    (r : Registration) : Except Exception (Permission × Table Permission) := do
  let found := permissions.get? (← engine.parameter r.codename)
  match found with
  | some row =>
      let description ← engine.charField descriptionLength r.description
      return (x.updatePermission r row, permissions.modify r.codename
        (x.updatePermission { r with description := description })
        (x.codename_updatePermission _))
  | none =>
      let codename ← engine.charField codenameLength r.codename
      let description ← engine.charField descriptionLength r.description
      let stored : Permission :=
        { x.permission r with codename := codename, description := description }
      -- a codename that has lost its blanks may be there; the lookup does not find it
      match permissions.insert? stored with
      | some permissions => return (x.permission r, permissions)
      | none => throw .integrity

/-- An iteration of the first loop, on `permission_rows` and the table. -/
def syncPermission (engine : DatabaseEngine) (s : Table Permission × Table Permission)
    (r : Registration) : Except Exception (Table Permission × Table Permission) := do
  let (permission, permissions) ← x.updateOrCreatePermission engine s.2 r
  return (s.1.put permission, permissions)

/-! ### Roles -/

def role (d : Definition) : Role where
  pk := x.roleId d.slug
  name := d.name
  slug := d.slug
  description := d.description
  priority := d.priority
  isSystem := true
  createdAt := x.now
  updatedAt := x.now

def updateRole (d : Definition) (row : Role) : Role :=
  { row with
    name := d.name
    description := d.description
    priority := d.priority
    isSystem := true
    updatedAt := x.now }

theorem slug_updateRole (d : Definition) (row : Role) :
    Keyed.pk (x.updateRole d row) = Keyed.pk row := rfl

def link (d : Definition) (role : Role) (permission : Permission) : RolePermission where
  pk := x.linkId d.slug permission.codename
  role := role.pk
  permission := permission.pk
  createdAt := x.now

end Execution

/-- `permission_rows[codename]`. -/
def permissionRow (permissionRows : Table Permission) (codename : String) :
    Except Exception Permission :=
  (permissionRows.get? codename).elim (.error (.keyError codename)) .ok

/-- The codenames a role is linked to: all of the registry, or those listed. -/
def Definition.desired (registry : List Registration) (d : Definition) : List String :=
  d.permissions.getD (registry.map Registration.codename)

/-- The links of a role. -/
def linkAll (x : Execution) (registry : List Registration) (permissionRows : Table Permission)
    (d : Definition) (role : Role) (links : Table RolePermission) :
    Except Exception (Table RolePermission) :=
  (x.setOf (d.desired registry)).foldlM (fun links codename => do
    let permission ← permissionRow permissionRows codename
    return links.ensure (x.link d role permission)) links

def syncRole (x : Execution) (registry : List Registration) (permissionRows : Table Permission)
    (s : State) (d : Definition) : Except Exception State := do
  let (role, roles) := s.roles.updateOrCreate (x.role d) (x.updateRole d) (x.slug_updateRole d)
  let rolePermissions ← linkAll x registry permissionRows d role s.rolePermissions
  return { s with roles := roles, rolePermissions := rolePermissions }

/-- The setting that is created if there is none. -/
def registrationSetting (pk : UUID) (now : Int) : Setting where
  pk := pk
  key := "site.registration_enabled"
  value := .bool true
  valueType := .boolean
  group := "site"
  isPublic := true
  description := "Allow public user registration."
  createdAt := now
  updatedAt := now

def Execution.setting (x : Execution) : Setting := registrationSetting x.settingId x.now

def Execution.featureFlag (x : Execution) : FeatureFlag where
  pk := x.flagId
  key := "registration.enabled"
  enabled := true
  description := "Registration feature switch."
  createdAt := x.now
  updatedAt := x.now

/-- `Command.handle()`, in one transaction: where it raises nothing is written. -/
def handle (engine : DatabaseEngine) (x : Execution) (registry : Registry) (s : State) :
    Except Exception State := do
  let registry := registry.getRegisteredPermissions
  let (permissionRows, permissions) ← registry.foldlM (x.syncPermission engine) (∅, s.permissions)
  let s ← roleDefinitions.foldlM (syncRole x registry permissionRows)
    { s with permissions := permissions }
  return { s with
    settings := s.settings.ensure x.setting
    featureFlags := s.featureFlags.ensure x.featureFlag }

end Bootstrap

end DjangoFoundation
