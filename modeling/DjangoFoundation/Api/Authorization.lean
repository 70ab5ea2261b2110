/-
The `AuthorizationViewSet` family (`apps/api/views/authorization.py`), over the tables of
`apps/authorization/`.

A request is authenticated, has its permission checked by three queries, loads the row in its
path and writes it back or deletes it.  Nothing holds these together: every query and every
write is a step of its own, with the rows read so far kept in the request, and between two of
them other requests and anything that happens to accounts may come.  What a serializer makes of
a body is an argument, and a body that is refused ends the request.
-/
import DjangoFoundation.Accounts.Letters
import DjangoFoundation.ApiKeys.Permissions
import DjangoFoundation.Authorization.Services
import DjangoFoundation.Lib.Run

namespace DjangoFoundation.Authorization

/-! ### Tables -/

inductive Model
  | permission
  | role
  | rolePermission
  | userRole
  | userPermissionOverride
  deriving DecidableEq, Repr

/-- A row of any of them. -/
inductive Record
  | permission (row : Permission)
  | role (row : Role)
  | rolePermission (row : RolePermission)
  | userRole (row : UserRole)
  | userPermissionOverride (row : UserPermissionOverride)
  deriving DecidableEq, Repr

namespace Record

def model : Record → Model
  | .permission _ => .permission
  | .role _ => .role
  | .rolePermission _ => .rolePermission
  | .userRole _ => .userRole
  | .userPermissionOverride _ => .userPermissionOverride

def pk : Record → UUID
  | .permission row => row.pk
  | .role row => row.pk
  | .rolePermission row => row.pk
  | .userRole row => row.pk
  | .userPermissionOverride row => row.pk

/-- The user it refers to. -/
def user? : Record → Option UUID
  | .userRole row => some row.user
  | .userPermissionOverride row => some row.user
  | _ => none

end Record

/-- The rows of the five tables, and which permissions and roles have `is_system`: no serializer
writes that field. -/
structure Rows where
  permissions : Table Permission := ∅
  roles : Table Role := ∅
  rolePermissions : Table RolePermission := ∅
  userRoles : Table UserRole := ∅
  overrides : Table UserPermissionOverride := ∅
  system : List (Model × UUID) := []

namespace Rows

variable (rows : Rows)

/-- The row under a key. -/
def get? (pk : UUID) : Model → Option Record
  | .permission => (rows.permissions.get? pk).map .permission
  | .role => (rows.roles.get? pk).map .role
  | .rolePermission => (rows.rolePermissions.get? pk).map .rolePermission
  | .userRole => (rows.userRoles.get? pk).map .userRole
  | .userPermissionOverride => (rows.overrides.get? pk).map .userPermissionOverride

/-- `UPDATE`, or where that finds no row `INSERT`. -/
def put : Record → Rows
  | .permission row => { rows with permissions := rows.permissions.put row }
  | .role row => { rows with roles := rows.roles.put row }
  | .rolePermission row => { rows with rolePermissions := rows.rolePermissions.put row }
  | .userRole row => { rows with userRoles := rows.userRoles.put row }
  | .userPermissionOverride row => { rows with overrides := rows.overrides.put row }

/-- The rows without one, and without those that refer to it with `on_delete=CASCADE`. -/
def without : Record → Rows
  | .permission row => { rows with
      permissions := rows.permissions.erase row.pk
      rolePermissions := rows.rolePermissions.delete fun link => link.permission = row.pk
      overrides := rows.overrides.delete fun override => override.permission = row.pk }
  | .role row => { rows with
      roles := rows.roles.erase row.pk
      rolePermissions := rows.rolePermissions.delete fun link => link.role = row.pk }
  | .rolePermission row => { rows with rolePermissions := rows.rolePermissions.erase row.pk }
  | .userRole row => { rows with userRoles := rows.userRoles.erase row.pk }
  | .userPermissionOverride row => { rows with overrides := rows.overrides.erase row.pk }

/-- There is a row that refers to it with `on_delete=PROTECT`. -/
def protected? : Record → Bool
  | .role row => rows.userRoles.rows.any fun assignment => assignment.role = row.pk
  | _ => false

/-- The unique constraints, and the foreign keys among the five. -/
structure Consistent : Prop where
  codename_unique : ∀ p ∈ rows.permissions, ∀ q ∈ rows.permissions,
    p.codename = q.codename → p = q
  slug_unique : ∀ a ∈ rows.roles, ∀ b ∈ rows.roles, a.slug = b.slug → a = b
  rolePermission_unique : ∀ a ∈ rows.rolePermissions, ∀ b ∈ rows.rolePermissions,
    a.role = b.role → a.permission = b.permission → a = b
  userRole_unique : ∀ a ∈ rows.userRoles, ∀ b ∈ rows.userRoles,
    a.user = b.user → a.role = b.role → a = b
  override_unique : ∀ a ∈ rows.overrides, ∀ b ∈ rows.overrides,
    a.user = b.user → a.permission = b.permission → a = b
  rolePermission_role : ∀ link ∈ rows.rolePermissions, (rows.roles.get? link.role).isSome
  rolePermission_permission : ∀ link ∈ rows.rolePermissions,
    (rows.permissions.get? link.permission).isSome
  userRole_role : ∀ assignment ∈ rows.userRoles, (rows.roles.get? assignment.role).isSome
  override_permission : ∀ override ∈ rows.overrides,
    (rows.permissions.get? override.permission).isSome

scoped instance decidableAll {α κ : Type} [Keyed α κ] {p : α → Prop} [DecidablePred p] (t : Table α) :
    Decidable (∀ a ∈ t, p a) :=
  inferInstanceAs (Decidable (∀ a ∈ t.rows, p a))

instance : Decidable rows.Consistent :=
  decidable_of_iff
    ((∀ p ∈ rows.permissions, ∀ q ∈ rows.permissions, p.codename = q.codename → p = q) ∧
      (∀ a ∈ rows.roles, ∀ b ∈ rows.roles, a.slug = b.slug → a = b) ∧
      (∀ a ∈ rows.rolePermissions, ∀ b ∈ rows.rolePermissions,
        a.role = b.role → a.permission = b.permission → a = b) ∧
      (∀ a ∈ rows.userRoles, ∀ b ∈ rows.userRoles, a.user = b.user → a.role = b.role → a = b) ∧
      (∀ a ∈ rows.overrides, ∀ b ∈ rows.overrides,
        a.user = b.user → a.permission = b.permission → a = b) ∧
      (∀ link ∈ rows.rolePermissions, (rows.roles.get? link.role).isSome) ∧
      (∀ link ∈ rows.rolePermissions, (rows.permissions.get? link.permission).isSome) ∧
      (∀ assignment ∈ rows.userRoles, (rows.roles.get? assignment.role).isSome) ∧
      ∀ override ∈ rows.overrides, (rows.permissions.get? override.permission).isSome)
    ⟨fun ⟨h₁, h₂, h₃, h₄, h₅, h₆, h₇, h₈, h₉⟩ => ⟨h₁, h₂, h₃, h₄, h₅, h₆, h₇, h₈, h₉⟩,
      fun ⟨h₁, h₂, h₃, h₄, h₅, h₆, h₇, h₈, h₉⟩ => ⟨h₁, h₂, h₃, h₄, h₅, h₆, h₇, h₈, h₉⟩⟩

end Rows

/-- The tables as the database keeps them. -/
structure Tables extends Rows where
  consistent : toRows.Consistent

/-- What the resolvers read. -/
def Tables.store (tables : Tables) (bans : Table UserBan) : Store where
  bans := bans
  permissions := tables.permissions
  roles := tables.roles
  rolePermissions := tables.rolePermissions
  userRoles := tables.userRoles
  overrides := tables.overrides
  codename_unique := tables.consistent.codename_unique
  override_unique := tables.consistent.override_unique
  rolePermission_role := tables.consistent.rolePermission_role
  rolePermission_permission := tables.consistent.rolePermission_permission
  userRole_role := tables.consistent.userRole_role
  override_permission := tables.consistent.override_permission

/-- The rows a statement is to leave, if no constraint is against them. -/
def Tables.commit (rows : Rows) : Except Exception Tables :=
  if h : rows.Consistent then .ok ⟨rows, h⟩ else .error .integrity

/-! ### Actions -/

/-- `validated_data`, with the fields a body has. -/
inductive Attrs
  | permission (codename : Option String)
  | role (slug : Option String)
  | rolePermission (role permission : Option UUID)
  | userRole (user role : Option UUID) (validFrom : Option Int)
      (validUntil : Option (Option Int))
  | userPermissionOverride (user permission : Option UUID) (effect : Option OverrideEffect)
  deriving DecidableEq, Repr

def Attrs.model : Attrs → Model
  | .permission _ => .permission
  | .role _ => .role
  | .rolePermission _ _ => .rolePermission
  | .userRole _ _ _ _ => .userRole
  | .userPermissionOverride _ _ _ => .userPermissionOverride

/-- `setattr(instance, attr, value)` for each. -/
def setattr : Attrs → Record → Record
  | .permission codename, .permission row =>
      .permission { row with codename := codename.getD row.codename }
  | .role slug, .role row => .role { row with slug := slug.getD row.slug }
  | .rolePermission role permission, .rolePermission row =>
      .rolePermission { row with
        role := role.getD row.role
        permission := permission.getD row.permission }
  | .userRole user role validFrom validUntil, .userRole row =>
      .userRole { row with
        user := user.getD row.user
        role := role.getD row.role
        validFrom := validFrom.getD row.validFrom
        validUntil := validUntil.getD row.validUntil }
  | .userPermissionOverride user permission effect, .userPermissionOverride row =>
      .userPermissionOverride { row with
        user := user.getD row.user
        permission := permission.getD row.permission
        effect := effect.getD row.effect }
  | _, record => record

inductive Action
  /-- The instance a serializer builds, with its defaults and the id drawn. -/
  | create (record : Record)
  | update (pk : UUID) (attrs : Attrs)
  | destroy (model : Model) (pk : UUID)
  deriving DecidableEq, Repr

/-- `request.method`; of `PUT` and `PATCH` the latter. -/
def Action.method : Action → String
  | .create _ => "POST"
  | .update _ _ => "PATCH"
  | .destroy _ _ => "DELETE"

/-- What a view is about to do, with the row it has loaded. -/
inductive Write
  | insert (record : Record)
  | save (record : Record)
  | delete (record : Record)
  deriving DecidableEq, Repr

/-- `get_object()`, where the action has one. -/
def Action.load (rows : Rows) : Action → Option Write
  | .create record => some (.insert record)
  | .update pk attrs => (rows.get? pk attrs.model).map fun record => .save (setattr attrs record)
  | .destroy model pk => (rows.get? pk model).map .delete

namespace AuthorizationViewSet

/-- What permissions read of the view. -/
def view : View where
  handlers := ["get", "post", "put", "patch", "delete"]

def requiredPermission : String := "roles.manage"

def systemRecord : Exception :=
  .api { detail := "System authorization records cannot be deleted.", code := "CONFLICT",
         statusCode := 409 }

/-- The user a row refers to is there. -/
def knows (users : Table User) (record : Record) : Bool :=
  record.user?.all fun user => (users.get? user).isSome

/-- `perform_create`, but for the audit log. -/
def performCreate (users : Table User) (tables : Tables) (record : Record) :
    Except Exception Tables :=
  if (tables.get? record.pk record.model).isSome || !knows users record then .error .integrity
  else Tables.commit (tables.put record)

/-- `perform_update`, but for the audit log. -/
def performUpdate (users : Table User) (tables : Tables) (record : Record) :
    Except Exception Tables :=
  if !knows users record then .error .integrity else Tables.commit (tables.put record)

/-- `perform_destroy`, but for the audit log. -/
def performDestroy (tables : Tables) (record : Record) : Except Exception Tables :=
  if (record.model, record.pk) ∈ tables.system then .error systemRecord
  else if tables.protected? record then .error .integrity
  else Tables.commit (tables.without record)

end AuthorizationViewSet

open AuthorizationViewSet in
def Write.perform (users : Table User) (tables : Tables) : Write → Except Exception Tables
  | .insert record => performCreate users tables record
  | .save record => performUpdate users tables record
  | .delete record => performDestroy tables record

/-! ### Requests -/

/-- How far a request has come. -/
inductive Progress
  | recognised
  /-- `can_authenticate_now()` was true. -/
  | gated
  /-- There was no override, and the user is no superuser. -/
  | undecided
  | admitted
  | loaded (write : Write)
  deriving DecidableEq, Repr

structure InFlight where
  /-- `request.user`, as the authentication has read it. -/
  user : User
  /-- Which of the user's requests it is. -/
  number : Nat
  authAPIKey : Option APIKey
  action : Action
  progress : Progress := .recognised
  deriving DecidableEq, Repr

instance : Keyed InFlight (UUID × Nat) := ⟨fun r => (r.user.pk, r.number)⟩

structure State where
  accounts : Letters.State := {}
  tables : Tables
  requests : Table InFlight := ∅

inductive Event
  | account (e : Letters.Event)
  /-- A request comes, with credentials of the user. -/
  | recognise (user : UUID) (number : Nat) (authAPIKey : Option APIKey) (action : Action)
  /-- The request goes on to its next query or write. -/
  | advance (user : UUID) (number : Nat)
  /-- The request ends: its body is refused, or its worker is stopped. -/
  | refuse (user : UUID) (number : Nat)

namespace State

variable (s : State) (r : InFlight)

def reach (progress : Progress) : State :=
  { s with requests := s.requests.put { r with progress := progress } }

def drop : State := { s with requests := s.requests.erase (Keyed.pk r) }

/-- `HasPermission` has said yes, and `HasAPIKeyScope` is asked. -/
def proceed : State :=
  if HasAPIKeyScope.hasPermission r.authAPIKey r.action.method AuthorizationViewSet.view then
    s.reach r .admitted
  else s.drop r

/-- A valid assignment of the user grants the permission: the last query of `has_permission`. -/
def grants (now : Int) (user : UUID) : Bool :=
  let store := s.tables.store s.accounts.db.bans
  (store.validAssignments now user).any fun assignment =>
    (store.roleCodenames assignment.role).contains AuthorizationViewSet.requiredPermission

/-- The next query or write of a request. -/
def advance (now : Int) : State :=
  match r.progress with
  | .recognised =>
      if canAuthenticateNow s.accounts.db.bans now r.user then s.reach r .gated else s.drop r
  | .gated =>
      let store := s.tables.store s.accounts.db.bans
      match store.override? r.user.pk AuthorizationViewSet.requiredPermission with
      | some .deny => s.drop r
      | some .allow => s.proceed r
      | none => if r.user.isSuperuser then s.proceed r else s.reach r .undecided
  | .undecided => if s.grants now r.user.pk then s.proceed r else s.drop r
  | .admitted =>
      match r.action.load s.tables.toRows with
      | some write => s.reach r (.loaded write)
      | none => s.drop r
  | .loaded write =>
      match write.perform s.accounts.db.users s.tables with
      | .ok tables => { s.drop r with tables := tables }
      | .error _ => s.drop r

end State

variable (env : Environment) (validators : Validators) (timeout : Int)

def step (s : State) (e : Int × Event) : Option State :=
  match e.2 with
  | .account event => (Letters.step env validators timeout s.accounts (e.1, event)).map
      fun accounts => { s with accounts := accounts }
  | .recognise user number authAPIKey action => do
      let row ← s.accounts.db.users.get? user
      let requests ← s.requests.insert? ⟨row, number, authAPIKey, action, .recognised⟩
      return { s with requests := requests }
  | .advance user number => (s.requests.get? (user, number)).map fun r => s.advance r e.1
  | .refuse user number => (s.requests.get? (user, number)).map s.drop

/-- The user whose request it is. -/
def Event.user? : Event → Option UUID
  | .account _ => none
  | .recognise user _ _ _ => some user
  | .advance user _ => some user
  | .refuse user _ => some user

end DjangoFoundation.Authorization
