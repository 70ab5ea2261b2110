/-
The viewsets that audit what they write: `UserAdminViewSet` (`apps/api/views/accounts.py`), the
`AuthorizationViewSet` family, and `SettingViewSet` and `FeatureFlagViewSet`
(`apps/api/views/core.py`), with their serializers.

A request is a sequence of statements, each of them committed by itself where the view opens no
transaction, and any of them may fail: which do, and what they raise, is an argument.  So are
the values the fields of a serializer make of a body, and the id drawn for a new row; a body
that is refused is a validation that fails.  The refresh tokens revoked with the sessions of a
user are left out.
-/
import DjangoFoundation.Common.Exceptions
import DjangoFoundation.Audit.Services

namespace DjangoFoundation.Audited

inductive View
  | userAdmin
  | role
  | permission
  | rolePermission
  | userRole
  | userPermissionOverride
  | setting
  | featureFlag
  deriving DecidableEq, Repr

namespace View

/-- `queryset.model`. -/
def model : View → Model
  | .userAdmin => .user
  | .role => .role
  | .permission => .permission
  | .rolePermission => .rolePermission
  | .userRole => .userRole
  | .userPermissionOverride => .userPermissionOverride
  | .setting => .setting
  | .featureFlag => .featureFlag

/-- `audit_name`, or what stands in its place. -/
def auditName : View → String
  | .userAdmin => "user"
  | .role => "role"
  | .permission => "permission"
  | .rolePermission => "role_permission"
  | .userRole => "user_role"
  | .userPermissionOverride => "user_permission_override"
  | .setting => "setting"
  | .featureFlag => "feature_flag"

/-- The fields of the serializer that are not read-only. -/
def writable : View → List String
  | .userAdmin =>
      ["email", "username", "first_name", "last_name", "status", "email_verified_at",
        "phone_verified_at", "is_active", "is_staff"]
  | .role => ["name", "slug", "description", "priority"]
  | .permission => ["codename", "description"]
  | .rolePermission => ["role", "permission"]
  | .userRole => ["user", "role", "valid_from", "valid_until"]
  | .userPermissionOverride => ["user", "permission", "effect", "reason"]
  | .setting => ["key", "value", "value_type", "group", "is_public", "description"]
  | .featureFlag => ["key", "enabled", "description"]

def fields (view : View) : List (String × Kind) :=
  view.model.fields.filter fun field => field.1 ∈ view.writable

/-- `"granted_by" in serializer.fields`. -/
def granted : View → Bool
  | .userRole | .userPermissionOverride => true
  | _ => false

end View

/-! ### Statements -/

inductive Statement
  /-- `get_object()`. -/
  | select
  /-- `serializer.is_valid(raise_exception=True)`. -/
  | validate
  /-- `serializer.save()`. -/
  | save
  /-- `row.full_clean()`. -/
  | check
  /-- Those of `SessionService.revoke_all` and `TokenService.revoke_all_jwt`. -/
  | revoke
  /-- `AuditService.record`. -/
  | record
  /-- `instance.delete()`, which opens a transaction of its own. -/
  | delete
  deriving DecidableEq, Repr

/-- Code that changes the store as it goes, and may raise on the way. -/
structure Attempt (α : Type) where
  run : Store → Except Exception α × Store

namespace Attempt

instance : Monad Attempt where
  pure a := ⟨fun store => (.ok a, store)⟩
  bind x f := ⟨fun store =>
    match x.run store with
    | (.ok a, store) => (f a).run store
    | (.error e, store) => (.error e, store)⟩

def raise {α : Type} (e : Exception) : Attempt α := ⟨fun store => (.error e, store)⟩

/-- The rows as they are read here. -/
def rows : Attempt (Table Row) := ⟨fun store => (.ok store.rows, store)⟩

/-- `transaction.atomic`. -/
def atomic {α : Type} (x : Attempt α) : Attempt α := ⟨fun store =>
  match x.run store with
  | (.ok a, store) => (.ok a, store)
  | (.error e, _) => (.error e, store)⟩

end Attempt

/-! ### Requests -/

inductive Action (view : View)
  | create (attrs : Attrs view.fields)
  | update (attrs : Attrs view.fields)
  | destroy

structure Request where
  view : View
  /-- Of the row in the path, or drawn for the new one. -/
  pk : UUID
  action : Action view
  actor : UUID
  client : Client := {}
  faults : Statement → Option Exception := fun _ => none

/-- `getattr(serializer.instance, field)`, for each field of `validated_data`. -/
def Attrs.before {fields : List (String × Kind)} (attrs : Attrs fields) (rows : Table Row)
    (row : Row) : List (String × Item) :=
  attrs.items.map fun (name, _) => (name, row.attribute rows name)

/-- `validated_data`. -/
def Attrs.after {fields : List (String × Kind)} (attrs : Attrs fields) (rows : Table Row) :
    List (String × Item) :=
  attrs.items.map fun (name, column) => (name, column.attribute rows)

/-- `any(field in validated_data for field in {"email", "status", "is_active"})`. -/
def Attrs.endsSessions {fields : List (String × Kind)} (attrs : Attrs fields) : Bool :=
  attrs.items.any fun item => item.1 ∈ ["email", "status", "is_active"]

namespace Request

variable (unicode : Unicode) (now : Int) (request : Request)

/-- Runs a statement, if it does not fail. -/
def attempt {α : Type} (statement : Statement) (x : Attempt α) : Attempt α :=
  match request.faults statement with
  | some e => .raise e
  | none => x

def getObject : Attempt Row :=
  request.attempt .select ⟨fun store =>
    match store.rows.get? (request.view.model, request.pk) with
    | some row => (.ok row, store)
    | none => (.error .doesNotExist, store)⟩

/-- `validated_data`, once the methods that validate single fields have made it. -/
def validated (attrs : Attrs request.view.fields) : Attrs request.view.fields :=
  if request.view = .userAdmin then attrs.rewrite (cleanedUser unicode) else attrs

/-- `serializer.instance` after validation: the `validate` of settings has the new values on it
already. -/
def validatedInstance (attrs : Attrs request.view.fields) (row : Row) : Row :=
  if request.view = .setting then attrs.onto row else row

/-- The new instance `serializer.save()` builds, and `serializer.save(granted_by=actor)`. -/
def created (attrs : Attrs request.view.fields) : Row :=
  let row := attrs.onto (Row.new request.view.model request.pk now)
  let row := if request.view.granted then
      row.rewrite fun name column =>
        if name = "granted_by" then .foreignKey .user (some request.actor) else column
    else row
  row.saved unicode now

/-- Inserts it. -/
def insert (row : Row) : Attempt Row :=
  request.attempt .save ⟨fun store =>
    match store.rows.insert? row with
    | some rows => (.ok row, { store with rows := rows })
    | none => (.error .integrity, store)⟩

/-- `serializer.save()`, of an instance that is stored. -/
def save (attrs : Attrs request.view.fields) (row : Row) : Attempt Row :=
  request.attempt .save ⟨fun store =>
    let row := (attrs.onto row).saved unicode now
    (.ok row, { store with rows := store.rows.put row })⟩

/-- `SessionService.revoke_all(user=user, actor=actor, request=request)`. -/
def revokeAll (user : UUID) : Attempt Unit :=
  request.attempt .revoke ⟨fun store =>
    let (sessions, others) := store.sessions.partition fun session => session.user = user
    (.ok (), { store with
      sessions := others
      auditLogs := store.auditLogs ++
        sessions.map (Log.revoked now request.actor request.client) })⟩

/-- `AuditService.record(action=f"{audit_name}.{change}", target=row, ..)`. -/
def record (change : String) (row : Row) (before after : List (String × Item)) : Attempt Unit :=
  request.attempt .record ⟨fun store =>
    let action := request.view.auditName ++ "." ++ change
    let log := Log.of store.rows action row request.actor request.client before after
    (.ok (), { store with auditLogs := store.auditLogs ++ [log] })⟩

/-- A row that refers to this one with `on_delete=PROTECT`. -/
def protects (row other : Row) : Bool :=
  other.model = .userRole && other.refersTo row.model row.pk

/-- The rows without this one, and without those that refer to it. -/
def without (row : Row) (rows : Table Row) : Table Row :=
  rows.delete fun other =>
    (other.model, other.pk) = (row.model, row.pk) || other.refersTo row.model row.pk

/-- `instance.delete()`. -/
def delete (row : Row) : Attempt Unit :=
  request.attempt .delete ⟨fun store =>
    if store.rows.rows.any (protects row) then (.error .integrity, store)
    else (.ok (), { store with rows := without row store.rows })⟩

end Request

/-! ### The viewsets -/

variable (unicode : Unicode) (now : Int) (request : Request)

namespace UserAdminViewSet

def methodNotAllowed (detail : String) : Exception :=
  .api { detail := detail, code := "METHOD_NOT_ALLOWED", statusCode := 405 }

def performCreate : Attempt Unit :=
  .raise (methodNotAllowed "Use the registration or administrative account service.")

def performUpdate (row : Row) (attrs : Attrs request.view.fields) : Attempt Unit :=
  .atomic do
    let rows ← .rows
    let before := attrs.before rows row
    let user ← request.save unicode now attrs row
    if attrs.endsSessions then
      request.revokeAll now user.pk
    request.record "updated" user before (attrs.after rows)

def destroy : Attempt Unit := .raise (methodNotAllowed "Use the account deletion service.")

end UserAdminViewSet

namespace AuthorizationViewSet

def performCreate (attrs : Attrs request.view.fields) : Attempt Unit := do
  let rows ← .rows
  let row ← request.insert (request.created unicode now attrs)
  request.record "created" row [] (attrs.after rows)

def performUpdate (row : Row) (attrs : Attrs request.view.fields) : Attempt Unit := do
  let rows ← .rows
  let before := attrs.before rows row
  let row ← request.save unicode now attrs row
  request.record "updated" row before (attrs.after rows)

def systemRecord : Exception :=
  .api { detail := "System authorization records cannot be deleted.", code := "CONFLICT",
         statusCode := 409 }

def performDestroy (row : Row) : Attempt Unit := do
  if row.isSystem then
    Attempt.raise systemRecord
  request.record "deleted" row [] []
  request.delete row

end AuthorizationViewSet

namespace SettingViewSet

def performCreate (attrs : Attrs request.view.fields) : Attempt Unit := do
  let rows ← .rows
  let row ← request.insert (request.created unicode now attrs)
  request.attempt .check (pure ())
  request.record "created" row [] (attrs.after rows)

def performUpdate (row : Row) (attrs : Attrs request.view.fields) : Attempt Unit := do
  let rows ← .rows
  let before := attrs.before rows row
  let row ← request.save unicode now attrs row
  request.attempt .check (pure ())
  request.record "updated" row before (attrs.after rows)

end SettingViewSet

namespace FeatureFlagViewSet

def performCreate (attrs : Attrs request.view.fields) : Attempt Unit := do
  let rows ← .rows
  let row ← request.insert (request.created unicode now attrs)
  request.record "created" row [] (attrs.after rows)

def performUpdate (row : Row) (attrs : Attrs request.view.fields) : Attempt Unit := do
  let rows ← .rows
  let before := attrs.before rows row
  let row ← request.save unicode now attrs row
  request.record "updated" row before (attrs.after rows)

end FeatureFlagViewSet

/-! ### Dispatch -/

namespace Request

def performCreate (attrs : Attrs request.view.fields) : Attempt Unit :=
  match request.view with
  | .userAdmin => UserAdminViewSet.performCreate
  | .setting => SettingViewSet.performCreate unicode now request attrs
  | .featureFlag => FeatureFlagViewSet.performCreate unicode now request attrs
  | _ => AuthorizationViewSet.performCreate unicode now request attrs

def performUpdate (row : Row) (attrs : Attrs request.view.fields) : Attempt Unit :=
  match request.view with
  | .userAdmin => UserAdminViewSet.performUpdate unicode now request row attrs
  | .setting => SettingViewSet.performUpdate unicode now request row attrs
  | .featureFlag => FeatureFlagViewSet.performUpdate unicode now request row attrs
  | _ => AuthorizationViewSet.performUpdate unicode now request row attrs

/-- `ModelViewSet.perform_destroy`, where it is not overridden. -/
def performDestroy (row : Row) : Attempt Unit :=
  if request.view = .setting ∨ request.view = .featureFlag then request.delete row
  else AuthorizationViewSet.performDestroy request row

/-- `create`, `update` and `partial_update`, and `destroy`, of a `ModelViewSet`. -/
def dispatch : Attempt Unit :=
  match request.action with
  | .create attrs => do
      request.attempt .validate (pure ())
      request.performCreate unicode now (request.validated unicode attrs)
  | .update attrs => do
      let row ← request.getObject
      request.attempt .validate (pure ())
      let attrs := request.validated unicode attrs
      request.performUpdate unicode now (request.validatedInstance attrs row) attrs
  | .destroy =>
      if request.view = .userAdmin then UserAdminViewSet.destroy
      else do request.performDestroy (← request.getObject)

end Request

/-- Requests one after the other, each at its time. -/
def step (store : Store) (e : Int × Request) : Option Store :=
  some ((e.2.dispatch unicode e.1).run store).2

end DjangoFoundation.Audited
