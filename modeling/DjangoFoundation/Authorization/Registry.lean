/-
The registry of permissions (`apps/authorization/registry.py`): a dictionary of descriptions by
codename, built up in memory while the applications start.
-/
import DjangoFoundation.Lib.Sync
import Mathlib.Data.String.Basic

namespace DjangoFoundation.Authorization

/-- An entry of the registry. -/
structure Registration where
  codename : String
  description : String
  deriving DecidableEq, Repr

instance : Keyed Registration String := ⟨Registration.codename⟩

abbrev Registry := Table Registration

namespace Registry

/-- `BASE_PERMISSIONS`. -/
def base : Registry where
  rows := [
    ⟨"users.view", "View users"⟩,
    ⟨"users.create", "Create users"⟩,
    ⟨"users.update", "Update users"⟩,
    ⟨"users.delete", "Delete users"⟩,
    ⟨"users.ban", "Ban and unban users"⟩,
    ⟨"roles.view", "View roles and permissions"⟩,
    ⟨"roles.manage", "Manage roles and permission assignments"⟩,
    ⟨"settings.view", "View runtime settings"⟩,
    ⟨"settings.update", "Update runtime settings"⟩,
    ⟨"audit.view", "View audit logs"⟩,
    ⟨"security_events.view", "View security events"⟩,
    ⟨"notifications.manage", "Manage notifications"⟩,
    ⟨"api_keys.manage", "Manage API keys for other users"⟩,
    ⟨"feature_flags.view", "View feature flags"⟩,
    ⟨"feature_flags.update", "Update feature flags"⟩,
    ⟨"webhooks.manage", "Manage webhook endpoints"⟩,
    ⟨"files.manage", "Manage uploaded files"⟩]
  nodup := by decide +kernel

/-- `dict(permissions)`: of pairs with one codename the last counts, in the place of the first. -/
def dict (permissions : List Registration) : Registry :=
  permissions.foldl (fun items r =>
    (items.updateOrCreate r (fun old => { old with description := r.description })
      (fun _ => by rfl)).2) ∅

/-- What `register_permissions` raises: the codename is registered with another description. -/
structure Conflict where
  codename : String
  deriving DecidableEq, Repr

/-- The loop of `register_permissions`.  What it registered before it raises stays. -/
def register (registry : Registry) : List Registration → Except Conflict Unit × Registry
  | [] => (.ok (), registry)
  | r :: rest =>
      if (registry.get? r.codename).any fun old => old.description ≠ r.description then
        (.error ⟨r.codename⟩, registry)
      else register (registry.ensure r) rest

def registerPermissions (registry : Registry) (permissions : List Registration) :
    Except Conflict Unit × Registry :=
  registry.register (dict permissions).rows

/-- The registry after some calls, whether they raised or not. -/
def built (calls : List (List Registration)) : Registry :=
  calls.foldl (fun registry permissions => (registry.registerPermissions permissions).2) base

/-- `get_registered_permissions()`: the items by codename. -/
def getRegisteredPermissions (registry : Registry) : List Registration :=
  registry.rows.mergeSort fun a b => a.codename ≤ b.codename

/-! ### Lemmas -/

theorem mem_getRegisteredPermissions {registry : Registry} {r : Registration} :
    r ∈ registry.getRegisteredPermissions ↔ r ∈ registry := by
  rw [getRegisteredPermissions, List.mem_mergeSort, Table.mem_rows]

theorem nodup_getRegisteredPermissions (registry : Registry) :
    (registry.getRegisteredPermissions.map Registration.codename).Nodup :=
  ((List.mergeSort_perm _ _).map _).nodup_iff.mpr registry.nodup

/-- What is registered stays registered, with its description. -/
theorem get?_register {registry : Registry} {codename : String} {r : Registration}
    (h : registry.get? codename = some r) (permissions : List Registration) :
    (registry.register permissions).2.get? codename = some r := by
  induction permissions generalizing registry with
  | nil => exact h
  | cons r' rest ih =>
      unfold register
      split
      · exact h
      · exact ih (Table.get?_ensure_of_some h)

theorem get?_built {codename : String} {r : Registration} (h : base.get? codename = some r)
    (calls : List (List Registration)) : (built calls).get? codename = some r := by
  unfold built
  generalize base = registry at h
  induction calls generalizing registry with
  | nil => exact h
  | cons permissions calls ih => exact ih _ (get?_register h _)

end Registry

end DjangoFoundation.Authorization
