/-
`bootstrap` run again changes nothing, and run at all it takes nothing away.

Whatever has been registered on top of the base permissions, the command does not fail, as long
as the texts fit their columns or the engine is SQLite (`handle_eq`): the base permissions are
never unregistered, so each codename a role lists is found.  What it leaves is read off table by
table: a registered permission is the row that was there, brought up to its description, or a new
one; a role likewise; and a link, a setting or a flag that was there is as it was.

A text that does not fit is another matter.  It is registered without a word, and the command
fails on PostgreSQL at its row; as all of it is one transaction, the permissions before it in the
registry and the roles are not written either.

The registry is any that has the base permissions in it.  Codenames and slugs are unique, and
an update finds its row by them, so that ids are drawn for new rows only.
-/
import DjangoFoundation.Core.Bootstrap

namespace DjangoFoundation

namespace Bootstrap

open Authorization (Registration Registry)

variable {engine : DatabaseEngine} {x x' : Execution} {registry : Registry} {s t : State}
  {codename slug : String}
  {d : Definition}

/-! ### Statement -/

/-- The texts of a registration fit their columns. -/
structure Fits (r : Registration) : Prop where
  codename : r.codename.length ≤ codenameLength ∧ '\x00' ∉ r.codename.toList
  description : r.description.length ≤ descriptionLength ∧ '\x00' ∉ r.description.toList

instance (r : Registration) : Decidable (Fits r) :=
  decidable_of_iff (_ ∧ _) ⟨fun h => ⟨h.1, h.2⟩, fun h => ⟨h.1, h.2⟩⟩

def Permission.unstamped (row : Permission) : Permission := { row with updatedAt := 0 }

def Role.unstamped (row : Role) : Role := { row with updatedAt := 0 }

/-- The same rows, timestamps aside. -/
structure SameRows (s t : State) : Prop where
  permissions : ∀ codename, (t.permissions.get? codename).map Permission.unstamped =
    (s.permissions.get? codename).map Permission.unstamped
  roles : ∀ slug, (t.roles.get? slug).map Role.unstamped = (s.roles.get? slug).map Role.unstamped
  rolePermissions : ∀ pair, t.rolePermissions.get? pair = s.rolePermissions.get? pair
  userRoles : t.userRoles = s.userRoles
  overrides : t.overrides = s.overrides
  settings : ∀ key, t.settings.get? key = s.settings.get? key
  featureFlags : ∀ key, t.featureFlags.get? key = s.featureFlags.get? key

/-- No row is gone; a permission and a role keep their id, a link, a setting and a flag are kept
as they are, and so are assignments and overrides. -/
structure Kept (s t : State) : Prop where
  permissions : ∀ codename, ∀ row ∈ s.permissions.get? codename,
    ∃ row' ∈ t.permissions.get? codename, row'.pk = row.pk ∧ row'.createdAt = row.createdAt
  roles : ∀ slug, ∀ row ∈ s.roles.get? slug,
    ∃ row' ∈ t.roles.get? slug, row'.pk = row.pk ∧ row'.createdAt = row.createdAt
  rolePermissions : ∀ pair, ∀ row ∈ s.rolePermissions.get? pair, row ∈ t.rolePermissions.get? pair
  userRoles : t.userRoles = s.userRoles
  overrides : t.overrides = s.overrides
  settings : ∀ key, ∀ row ∈ s.settings.get? key, row ∈ t.settings.get? key
  featureFlags : ∀ key, ∀ row ∈ s.featureFlags.get? key, row ∈ t.featureFlags.get? key

/-- What is registered is a system permission, linked to the super-admin role. -/
def Complete (registry : Registry) (t : State) : Prop :=
  ∃ role ∈ t.roles.get? "super-admin", role.isSystem = true ∧
    ∀ r ∈ registry, ∃ row ∈ t.permissions.get? r.codename,
      row.isSystem = true ∧ row.description = r.description ∧
        (t.rolePermissions.get? (role.pk, row.pk)).isSome = true

/-- Only rows of the registry, of the four roles, the one setting and the one flag are written;
a new link is one of a defined role to a registered permission. -/
structure Untouched (registry : Registry) (s t : State) : Prop where
  permissions : ∀ codename, registry.get? codename = none →
    t.permissions.get? codename = s.permissions.get? codename
  roles : ∀ slug, slug ∉ roleDefinitions.map Definition.slug →
    t.roles.get? slug = s.roles.get? slug
  rolePermissions : ∀ pair, s.rolePermissions.get? pair = none →
    (t.rolePermissions.get? pair).isSome = true →
    (∃ d ∈ roleDefinitions, ∃ role ∈ t.roles.get? d.slug, pair.1 = role.pk) ∧
      ∃ r ∈ registry, ∃ row ∈ t.permissions.get? r.codename, pair.2 = row.pk
  settings : ∀ key, key ≠ "site.registration_enabled" →
    t.settings.get? key = s.settings.get? key
  featureFlags : ∀ key, key ≠ "registration.enabled" →
    t.featureFlags.get? key = s.featureFlags.get? key

/-! ### Texts that fit

PostgreSQL refuses a text that is longer than its column, SQLite takes it.  `charField` is the
only place where the engine matters.
-/

theorem parameter_eq {text : String} (h : engine = .postgresql → '\x00' ∉ text.toList) :
    engine.parameter text = .ok text :=
  if_neg fun hnul => h hnul.1 hnul.2

theorem charField_eq {maxLength : Nat} {text : String}
    (h : engine = .postgresql → text.length ≤ maxLength ∧ '\x00' ∉ text.toList) :
    engine.charField maxLength text = .ok text := by
  unfold DatabaseEngine.charField
  rw [parameter_eq fun hengine => (h hengine).2]
  cases engine with
  | sqlite => rfl
  | postgresql => exact if_pos (Or.inr (h rfl).1)

/-- Where its texts fit, a registration is updated or created as it is. -/
theorem updateOrCreatePermission_eq {r : Registration} (h : engine = .postgresql → Fits r)
    (permissions : Table Permission) :
    x.updateOrCreatePermission engine permissions r =
      .ok (permissions.updateOrCreate (x.permission r) (x.updatePermission r)
        (x.codename_updatePermission r)) := by
  have hdescription : engine.charField descriptionLength r.description = .ok r.description :=
    charField_eq fun hengine => (h hengine).description
  have hcodename : engine.charField codenameLength r.codename = .ok r.codename :=
    charField_eq fun hengine => (h hengine).codename
  have hpk : Keyed.pk (x.permission r) = r.codename := rfl
  unfold Execution.updateOrCreatePermission Table.updateOrCreate
  rw [parameter_eq fun hengine => (h hengine).codename.2, hdescription, hcodename, hpk]
  cases hget : permissions.get? r.codename with
  | some row =>
      simp only [bind, Except.bind, hget]
      rfl
  | none =>
      obtain ⟨permissions', hinsert⟩ := Table.exists_insert? (a := x.permission r)
        (Table.get?_eq_none.mp hget)
      have hensure : permissions.ensure (x.permission r) = permissions' := by
        rw [Table.ensure, hinsert, Option.getD_some]
      rw [hensure]
      simp only [bind, Except.bind, hget]
      rw [show permissions.insert? { x.permission r with
        codename := r.codename, description := r.description } = some permissions' from hinsert]
      rfl

/-! ### Permissions

The first loop goes through the registry in the order of codenames and keeps what it writes in
a dictionary.  Codenames are distinct, so no row is written twice.
-/

/-- The row of a registered permission, of the one found. -/
def Execution.permissionOf (x : Execution) (r : Registration) (found : Option Permission) :
    Permission :=
  (found.map (x.updatePermission r)).getD (x.permission r)

/-- The permissions after the first loop. -/
def Execution.permissions (x : Execution) (registry : Registry) (permissions : Table Permission) :
    Table Permission :=
  registry.getRegisteredPermissions.foldl (fun permissions r =>
    (permissions.updateOrCreate (x.permission r) (x.updatePermission r)
      (x.codename_updatePermission r)).2) permissions

theorem get?_sorted (registry : Registry) (codename : String) :
    (registry.getRegisteredPermissions.find? fun r => r.codename = codename) =
      registry.get? codename := by
  let sorted : Registry :=
    ⟨registry.getRegisteredPermissions, registry.nodup_getRegisteredPermissions⟩
  have hmem : ∀ r, r ∈ sorted ↔ r ∈ registry := fun r => registry.mem_getRegisteredPermissions
  exact Table.get?_congr hmem codename

theorem get?_permissions (x : Execution) (registry : Registry) (permissions : Table Permission)
    (codename : String) :
    (x.permissions registry permissions).get? codename =
      match registry.get? codename with
      | some r => some (x.permissionOf r (permissions.get? codename))
      | none => permissions.get? codename := by
  have hfold := Table.get?_foldl_updateOrCreate x.permission x.updatePermission
    x.codename_updatePermission registry.getRegisteredPermissions
    registry.nodup_getRegisteredPermissions permissions codename
  have hfind : (registry.getRegisteredPermissions.find? fun r =>
      Keyed.pk (x.permission r) = codename) = registry.get? codename := get?_sorted registry codename
  rw [hfind] at hfold
  cases hget : registry.get? codename with
  | none =>
      rw [hget] at hfold
      exact hfold
  | some r =>
      rw [hget] at hfold
      exact hfold

theorem get?_permissions_of_mem {r : Registration} (hr : r ∈ registry)
    (permissions : Table Permission) :
    (x.permissions registry permissions).get? r.codename =
      some (x.permissionOf r (permissions.get? r.codename)) := by
  rw [get?_permissions, show registry.get? r.codename = some r from Table.get?_of_mem hr]

/-- The dictionary has the rows of these codenames. -/
def Mirrors (permissionRows permissions : Table Permission) (codenames : List String) : Prop :=
  ∀ codename ∈ codenames, ∃ row, permissionRows.get? codename = some row ∧
    permissions.get? codename = some row

theorem mirrors_empty (permissions : Table Permission) : Mirrors ∅ permissions [] :=
  fun _ h => absurd h List.not_mem_nil

/-- The first loop. -/
theorem foldlM_syncPermission (x : Execution) {registry : List Registration}
    (hfits : engine = .postgresql → ∀ r ∈ registry, Fits r)
    {permissionRows permissions : Table Permission} {codenames : List String}
    (hmirrors : Mirrors permissionRows permissions codenames) :
    ∃ permissionRows', registry.foldlM (x.syncPermission engine) (permissionRows, permissions) =
        .ok (permissionRows', registry.foldl (fun permissions r =>
          (permissions.updateOrCreate (x.permission r) (x.updatePermission r)
            (x.codename_updatePermission r)).2) permissions) ∧
      ∀ codename, codename ∈ codenames ∨ codename ∈ registry.map Registration.codename →
        ∃ row, permissionRows'.get? codename = some row ∧
          (registry.foldl (fun permissions r =>
            (permissions.updateOrCreate (x.permission r) (x.updatePermission r)
              (x.codename_updatePermission r)).2) permissions).get? codename = some row := by
  induction registry generalizing permissionRows permissions codenames with
  | nil => exact ⟨_, rfl, fun codename h => hmirrors codename (h.resolve_right List.not_mem_nil)⟩
  | cons r rest ih =>
      have hrow := updateOrCreatePermission_eq (x := x)
        (fun hengine => hfits hengine r List.mem_cons_self) permissions
      have hkey : Keyed.pk (x.permission r) = r.codename := rfl
      have hpk : Keyed.pk (permissions.updateOrCreate (x.permission r) (x.updatePermission r)
          (x.codename_updatePermission r)).1 = r.codename := by
        rw [Table.updateOrCreate_fst, hkey]
        cases hget : permissions.get? r.codename with
        | none => rfl
        | some row => exact (x.codename_updatePermission r row).trans (Table.pk_of_get? hget)
      have hmirrors' : Mirrors
          (permissionRows.put (permissions.updateOrCreate (x.permission r) (x.updatePermission r)
            (x.codename_updatePermission r)).1)
          (permissions.updateOrCreate (x.permission r) (x.updatePermission r)
            (x.codename_updatePermission r)).2 (r.codename :: codenames) := by
        intro codename hcodename
        rw [Table.get?_put, Table.get?_updateOrCreate, hpk, hkey, Table.updateOrCreate_fst, hkey]
        by_cases hsame : r.codename = codename
        · subst hsame
          rw [if_pos rfl, if_pos rfl]
          exact ⟨_, rfl, rfl⟩
        · rw [if_neg hsame, if_neg hsame]
          exact hmirrors codename ((List.mem_cons.mp hcodename).resolve_left (Ne.symm hsame))
      obtain ⟨permissionRows', hrest, hall⟩ :=
        ih (fun hengine r' hr' => hfits hengine r' (List.mem_cons_of_mem _ hr')) hmirrors'
      refine ⟨permissionRows', ?_, fun codename hcodename => hall codename ?_⟩
      · rw [List.foldlM_cons, Execution.syncPermission, hrow]
        exact hrest
      · rcases hcodename with hold | hnew
        · exact Or.inl (List.mem_cons_of_mem _ hold)
        · rw [List.map_cons] at hnew
          rcases List.mem_cons.mp hnew with rfl | hlater
          · exact Or.inl List.mem_cons_self
          · exact Or.inr hlater

/-! ### Roles and links

A role is updated or created by its slug, then each of its links is got or created.  The
dictionary answers for every codename, as long as all that is listed is registered.
-/

/-- The row of a defined role, of the table. -/
def Execution.roleOf (x : Execution) (roles : Table Role) (d : Definition) : Role :=
  ((roles.get? d.slug).map (x.updateRole d)).getD (x.role d)

/-- The roles after the definitions. -/
def Execution.roles (x : Execution) (ds : List Definition) (roles : Table Role) : Table Role :=
  ds.foldl (fun roles d =>
    (roles.updateOrCreate (x.role d) (x.updateRole d) (x.slug_updateRole d)).2) roles

/-- The links of a role that are got or created. -/
def linksOf (x : Execution) (registry : List Registration) (permissions : Table Permission)
    (d : Definition) (role : Role) : List RolePermission :=
  ((x.setOf (d.desired registry)).filterMap permissions.get?).map (x.link d role)

/-- The dictionary has the rows of all codenames a definition asks for. -/
def Resolves (registry : List Registration) (permissionRows permissions : Table Permission)
    (d : Definition) : Prop :=
  Mirrors permissionRows permissions (d.desired registry)

theorem mem_setOf {codenames : List String} :
    codename ∈ x.setOf codenames ↔ codename ∈ codenames := by
  rw [(x.setOf_perm codenames).mem_iff, List.mem_dedup]

theorem foldlM_link {permissionRows permissions : Table Permission} {role : Role}
    {codenames : List String} (h : Mirrors permissionRows permissions codenames)
    (links : Table RolePermission) :
    codenames.foldlM (fun links codename => do
        let permission ← permissionRow permissionRows codename
        return links.ensure (x.link d role permission)) links =
      .ok (((codenames.filterMap permissions.get?).map (x.link d role)).foldl Table.ensure
        links) := by
  induction codenames generalizing links with
  | nil => rfl
  | cons codename rest ih =>
      obtain ⟨row, hfound, hrow⟩ := h codename List.mem_cons_self
      have hfound : permissionRow permissionRows codename = .ok row := by
        rw [permissionRow, hfound]
        rfl
      have hrest := ih (fun codename hmem => h codename (List.mem_cons_of_mem _ hmem))
        (links.ensure (x.link d role row))
      rw [List.foldlM_cons, hfound, List.filterMap_cons, hrow]
      exact hrest

theorem linkAll_eq {registry : List Registration} {permissionRows permissions : Table Permission}
    {role : Role} (h : Resolves registry permissionRows permissions d)
    (links : Table RolePermission) :
    linkAll x registry permissionRows d role links =
      .ok ((linksOf x registry permissions d role).foldl Table.ensure links) :=
  foldlM_link (fun codename hmem => h codename (mem_setOf.mp hmem)) links

theorem syncRole_eq {registry : List Registration} {permissionRows : Table Permission}
    (h : Resolves registry permissionRows s.permissions d) :
    syncRole x registry permissionRows s d = .ok { s with
      roles := (s.roles.updateOrCreate (x.role d) (x.updateRole d) (x.slug_updateRole d)).2
      rolePermissions := (linksOf x registry s.permissions d (x.roleOf s.roles d)).foldl
        Table.ensure s.rolePermissions } := by
  have hrole : (s.roles.updateOrCreate (x.role d) (x.updateRole d) (x.slug_updateRole d)).1 =
      x.roleOf s.roles d := Table.updateOrCreate_fst _ _ _ _
  show (do
    let rolePermissions ← linkAll x registry permissionRows d
      (s.roles.updateOrCreate (x.role d) (x.updateRole d) (x.slug_updateRole d)).1
      s.rolePermissions
    return { s with
      roles := (s.roles.updateOrCreate (x.role d) (x.updateRole d) (x.slug_updateRole d)).2
      rolePermissions := rolePermissions }) = _
  rw [hrole, linkAll_eq h]
  rfl

/-- The second loop, of definitions with distinct slugs. -/
theorem foldlM_syncRole {registry : List Registration} {permissionRows : Table Permission}
    {ds : List Definition} (hds : (ds.map Definition.slug).Nodup)
    (h : ∀ d ∈ ds, Resolves registry permissionRows s.permissions d) :
    ds.foldlM (syncRole x registry permissionRows) s = .ok { s with
      roles := x.roles ds s.roles
      rolePermissions := (ds.flatMap fun d =>
        linksOf x registry s.permissions d (x.roleOf s.roles d)).foldl Table.ensure
          s.rolePermissions } := by
  induction ds generalizing s with
  | nil => rfl
  | cons d ds ih =>
      rw [List.map_cons, List.nodup_cons] at hds
      rw [List.foldlM_cons, syncRole_eq (h d List.mem_cons_self)]
      have hrest := ih (s := { s with
        roles := (s.roles.updateOrCreate (x.role d) (x.updateRole d) (x.slug_updateRole d)).2
        rolePermissions := (linksOf x registry s.permissions d (x.roleOf s.roles d)).foldl
          Table.ensure s.rolePermissions }) hds.2 fun d' hd' => h d' (List.mem_cons_of_mem _ hd')
      -- the roles to come are as they were
      have hroles : ∀ d' ∈ ds, x.roleOf (s.roles.updateOrCreate (x.role d) (x.updateRole d)
          (x.slug_updateRole d)).2 d' = x.roleOf s.roles d' := by
        intro d' hd'
        have hslug : Keyed.pk (x.role d) ≠ d'.slug := by
          rintro (heq : d.slug = d'.slug)
          exact hds.1 (heq ▸ List.mem_map_of_mem hd')
        rw [Execution.roleOf, Execution.roleOf, Table.get?_updateOrCreate, if_neg hslug]
      have hlinks : (ds.flatMap fun d' => linksOf x registry s.permissions d'
          (x.roleOf (s.roles.updateOrCreate (x.role d) (x.updateRole d)
            (x.slug_updateRole d)).2 d')) =
          ds.flatMap fun d' => linksOf x registry s.permissions d' (x.roleOf s.roles d') :=
        List.flatMap_congr fun d' hd' => by rw [hroles d' hd']
      rw [List.flatMap_cons, List.foldl_append, ← hlinks]
      exact hrest

/-! ### The command

The loops put together.  `after` is the whole of what is left, written without them.
-/

/-- The links the command gets or creates. -/
def wanted (x : Execution) (registry : Registry) (s : State) : List RolePermission :=
  roleDefinitions.flatMap fun d => linksOf x registry.getRegisteredPermissions
    (x.permissions registry s.permissions) d (x.roleOf s.roles d)

/-- What the command leaves. -/
def after (x : Execution) (registry : Registry) (s : State) : State :=
  { s with
    permissions := x.permissions registry s.permissions
    roles := x.roles roleDefinitions s.roles
    rolePermissions := (wanted x registry s).foldl Table.ensure s.rolePermissions
    settings := s.settings.ensure x.setting
    featureFlags := s.featureFlags.ensure x.featureFlag }

@[simp] theorem after_permissions (x : Execution) (registry : Registry) (s : State) :
    (after x registry s).permissions = x.permissions registry s.permissions := rfl

@[simp] theorem after_roles (x : Execution) (registry : Registry) (s : State) :
    (after x registry s).roles = x.roles roleDefinitions s.roles := rfl

@[simp] theorem after_settings (x : Execution) (registry : Registry) (s : State) :
    (after x registry s).settings = s.settings.ensure x.setting := rfl

@[simp] theorem after_featureFlags (x : Execution) (registry : Registry) (s : State) :
    (after x registry s).featureFlags = s.featureFlags.ensure x.featureFlag := rfl

theorem nodup_slugs : (roleDefinitions.map Definition.slug).Nodup := by decide +kernel

/-- The codenames that are listed are base permissions. -/
theorem listed_base : ∀ d ∈ roleDefinitions, ∀ codenames ∈ d.permissions, ∀ codename ∈ codenames,
    (Registry.base.get? codename).isSome = true := by
  decide +kernel

/-- What a role is to have is registered. -/
theorem registered_of_desired (calls : List (List Registration)) (hd : d ∈ roleDefinitions)
    (h : codename ∈ d.desired (Registry.built calls).getRegisteredPermissions) :
    ∃ r ∈ Registry.built calls, r.codename = codename := by
  unfold Definition.desired at h
  cases hlist : d.permissions with
  | none =>
      rw [hlist, Option.getD_none] at h
      obtain ⟨r, hr, hcodename⟩ := List.mem_map.mp h
      exact ⟨r, Registry.mem_getRegisteredPermissions.mp hr, hcodename⟩
  | some codenames =>
      rw [hlist, Option.getD_some] at h
      obtain ⟨r, hr⟩ := Option.isSome_iff_exists.mp (listed_base d hd codenames hlist codename h)
      exact ⟨r, Table.get?_eq_some.mp (Registry.get?_built hr calls)⟩

theorem handle_eq (x : Execution) (calls : List (List Registration)) (s : State)
    (hfits : engine = .postgresql → ∀ r ∈ Registry.built calls, Fits r) :
    handle engine x (Registry.built calls) s = .ok (after x (Registry.built calls) s) := by
  have hsorted : engine = .postgresql →
      ∀ r ∈ (Registry.built calls).getRegisteredPermissions, Fits r :=
    fun hengine r hr => hfits hengine r (Registry.mem_getRegisteredPermissions.mp hr)
  obtain ⟨permissionRows, hfirst, hall⟩ :=
    foldlM_syncPermission x hsorted (mirrors_empty s.permissions)
  have hresolves : ∀ d ∈ roleDefinitions,
      Resolves (Registry.built calls).getRegisteredPermissions permissionRows
        (x.permissions (Registry.built calls) s.permissions) d := by
    intro d hd codename hcodename
    obtain ⟨r, hr, rfl⟩ := registered_of_desired calls hd hcodename
    exact hall r.codename
      (Or.inr (List.mem_map_of_mem (Registry.mem_getRegisteredPermissions.mpr hr)))
  have hloop := foldlM_syncRole (x := x)
    (s := { s with permissions := x.permissions (Registry.built calls) s.permissions })
    nodup_slugs hresolves
  unfold handle
  dsimp only
  rw [hfirst]
  show (do
    let s ← roleDefinitions.foldlM (syncRole x
      (Registry.built calls).getRegisteredPermissions permissionRows)
      { s with permissions := x.permissions (Registry.built calls) s.permissions }
    return { s with
      settings := s.settings.ensure x.setting
      featureFlags := s.featureFlags.ensure x.featureFlag }) = _
  rw [hloop]
  rfl

/-- One registration the database refuses: the command fails, and so writes nothing. -/
theorem handle_error {r : Registration} {e : Exception} (hr : r ∈ registry)
    (hothers : ∀ r' ∈ registry, r' ≠ r → Fits r') (hnew : s.permissions.get? r.codename = none)
    (hrefused : ∀ permissions : Table Permission, permissions.get? r.codename = none →
      x.updateOrCreatePermission engine permissions r = .error e) :
    handle engine x registry s = .error e := by
  obtain ⟨before, rest, hsorted⟩ :=
    List.append_of_mem (Registry.mem_getRegisteredPermissions.mpr hr)
  have hnodup := registry.nodup_getRegisteredPermissions
  rw [hsorted, List.map_append, List.map_cons, List.nodup_append] at hnodup
  -- those before it go through, and are other codenames
  have hne : ∀ r' ∈ before, r'.codename ≠ r.codename := fun r' hr' =>
    hnodup.2.2 _ (List.mem_map_of_mem hr') _ List.mem_cons_self
  have hfits : ∀ r' ∈ before, Fits r' := fun r' hr' =>
    hothers r' (Registry.mem_getRegisteredPermissions.mp
      (hsorted ▸ List.mem_append_left _ hr')) fun hsame => hne r' hr' (hsame ▸ rfl)
  obtain ⟨permissionRows, hbefore, -⟩ := foldlM_syncPermission x
    (fun _ : engine = .postgresql => hfits) (mirrors_empty s.permissions)
  have hget := Table.get?_foldl_updateOrCreate x.permission x.updatePermission
    x.codename_updatePermission before hnodup.1 s.permissions r.codename
  have hfind : (before.find? fun r' => Keyed.pk (x.permission r') = r.codename) = none :=
    List.find?_eq_none.mpr fun r' hr' hsame => hne r' hr' (of_decide_eq_true hsame)
  rw [hfind] at hget
  unfold handle
  dsimp only
  rw [hsorted, List.foldlM_append, hbefore]
  show ((r :: rest).foldlM (x.syncPermission engine) _ >>= _) = _
  rw [List.foldlM_cons, Execution.syncPermission, hrefused _ (hget.trans hnew)]
  rfl

/-! ### What it leaves

What a look at each table finds afterwards.
-/

theorem find?_slug : ∀ d ∈ roleDefinitions,
    (roleDefinitions.find? fun d' => d'.slug = d.slug) = some d := by
  decide +kernel

theorem get?_roles (x : Execution) (roles : Table Role) (slug : String) :
    (x.roles roleDefinitions roles).get? slug =
      match roleDefinitions.find? fun d => d.slug = slug with
      | some d => some (((roles.get? slug).map (x.updateRole d)).getD (x.role d))
      | none => roles.get? slug := by
  have hfold := Table.get?_foldl_updateOrCreate x.role x.updateRole x.slug_updateRole
    roleDefinitions nodup_slugs roles slug
  cases hfind : roleDefinitions.find? fun d => d.slug = slug with
  | none =>
      rw [show (roleDefinitions.find? fun d => Keyed.pk (x.role d) = slug) = none from hfind]
        at hfold
      exact hfold
  | some d =>
      rw [show (roleDefinitions.find? fun d => Keyed.pk (x.role d) = slug) = some d from hfind]
        at hfold
      exact hfold

theorem get?_roles_of_mem (hd : d ∈ roleDefinitions) (roles : Table Role) :
    (x.roles roleDefinitions roles).get? d.slug = some (x.roleOf roles d) := by
  rw [get?_roles, find?_slug d hd]
  rfl

theorem get?_links (x : Execution) (registry : Registry) (s : State) (pair : UUID × UUID) :
    (after x registry s).rolePermissions.get? pair =
      (s.rolePermissions.get? pair).or ((wanted x registry s).find? fun a => Keyed.pk a = pair) :=
  Table.get?_foldl_ensure _ _ _

/-- A link that is wanted joins a defined role to a permission it is to have. -/
theorem mem_wanted {a : RolePermission} :
    a ∈ wanted x registry s ↔ ∃ d ∈ roleDefinitions,
      ∃ codename ∈ d.desired registry.getRegisteredPermissions,
        ∃ row ∈ (x.permissions registry s.permissions).get? codename,
          a = x.link d (x.roleOf s.roles d) row := by
  simp only [wanted, linksOf, List.mem_flatMap, List.mem_map, List.mem_filterMap, mem_setOf]
  constructor
  · rintro ⟨d, hd, row, ⟨codename, hcodename, hrow⟩, rfl⟩
    exact ⟨d, hd, codename, hcodename, row, hrow, rfl⟩
  · rintro ⟨d, hd, codename, hcodename, row, hrow, rfl⟩
    exact ⟨d, hd, row, ⟨codename, hcodename, hrow⟩, rfl⟩

theorem isSome_of_wanted {a : RolePermission} (ha : a ∈ wanted x registry s) :
    ((after x registry s).rolePermissions.get? (Keyed.pk a)).isSome = true := by
  rw [get?_links, Option.isSome_or, Bool.or_eq_true, List.find?_isSome]
  exact Or.inr ⟨a, ha, by simp⟩

theorem setting_key (x : Execution) : Keyed.pk x.setting = "site.registration_enabled" := rfl

theorem featureFlag_key (x : Execution) : Keyed.pk x.featureFlag = "registration.enabled" := rfl

/-! ### Once more

A second run finds every row it would create, and writes what is there already; `updated_at` is
what remains different.
-/

theorem permissionOf_unstamped (x x' : Execution) (r : Registration) (found : Option Permission) :
    (x'.permissionOf r (some (x.permissionOf r found))).unstamped =
      (x.permissionOf r found).unstamped := by
  cases found with
  | none => rfl
  | some row => rfl

theorem roleOf_pk (x x' : Execution) (roles : Table Role) (hd : d ∈ roleDefinitions) :
    (x'.roleOf (x.roles roleDefinitions roles) d).pk = (x.roleOf roles d).pk := by
  rw [Execution.roleOf, get?_roles_of_mem hd]
  rfl

/-- The second run wants no other links than the first. -/
theorem wanted_again {a : RolePermission} (ha : a ∈ wanted x' registry (after x registry s)) :
    ∃ b ∈ wanted x registry s, Keyed.pk b = Keyed.pk a := by
  obtain ⟨d, hd, codename, hcodename, row, hrow, rfl⟩ := mem_wanted.mp ha
  have hfirst : ∃ row₁ ∈ (x.permissions registry s.permissions).get? codename,
      row₁.pk = row.pk := by
    rw [after_permissions, get?_permissions] at hrow
    cases hr : registry.get? codename with
    | none =>
        rw [hr] at hrow
        exact ⟨row, hrow, rfl⟩
    | some r =>
        have hold := get?_permissions x registry s.permissions codename
        rw [hr] at hrow hold
        rw [hold] at hrow ⊢
        refine ⟨_, rfl, ?_⟩
        rw [← Option.some.inj hrow]
        rfl
  obtain ⟨row₁, hrow₁, hpk⟩ := hfirst
  refine ⟨_, mem_wanted.mpr ⟨d, hd, codename, hcodename, row₁, hrow₁, rfl⟩, ?_⟩
  exact Prod.ext (roleOf_pk x x' s.roles hd).symm hpk

theorem permissions_again (x x' : Execution) (registry : Registry) (permissions : Table Permission)
    (codename : String) :
    ((x'.permissions registry (x.permissions registry permissions)).get? codename).map
        Permission.unstamped =
      ((x.permissions registry permissions).get? codename).map Permission.unstamped := by
  have hold := get?_permissions x registry permissions codename
  have hnew := get?_permissions x' registry (x.permissions registry permissions) codename
  cases hr : registry.get? codename with
  | none =>
      rw [hr] at hnew
      exact congrArg _ hnew
  | some r =>
      rw [hr] at hold hnew
      dsimp only at hold hnew
      rw [hnew, hold, Option.map_some, Option.map_some, permissionOf_unstamped]

theorem roles_again (x x' : Execution) (roles : Table Role) (slug : String) :
    ((x'.roles roleDefinitions (x.roles roleDefinitions roles)).get? slug).map Role.unstamped =
      ((x.roles roleDefinitions roles).get? slug).map Role.unstamped := by
  have hold := get?_roles x roles slug
  have hnew := get?_roles x' (x.roles roleDefinitions roles) slug
  cases hd : roleDefinitions.find? fun d => d.slug = slug with
  | none =>
      rw [hd] at hnew
      exact congrArg _ hnew
  | some d =>
      rw [hd] at hold hnew
      dsimp only at hold hnew
      rw [hnew, hold]
      cases roles.get? slug with
      | none => rfl
      | some row => rfl

theorem links_again (x x' : Execution) (registry : Registry) (s : State) (pair : UUID × UUID) :
    (after x' registry (after x registry s)).rolePermissions.get? pair =
      (after x registry s).rolePermissions.get? pair := by
  rw [get?_links x']
  cases hpair : (after x registry s).rolePermissions.get? pair with
  | some a => rfl
  | none =>
      rw [Option.none_or, List.find?_eq_none]
      intro a ha hkey
      obtain ⟨b, hb, hpk⟩ := wanted_again ha
      have hsome := isSome_of_wanted hb
      rw [hpk, of_decide_eq_true hkey, hpair] at hsome
      cases hsome

theorem sameRows (x x' : Execution) (registry : Registry) (s : State) :
    SameRows (after x registry s) (after x' registry (after x registry s)) where
  permissions := by
    intro codename
    rw [after_permissions, after_permissions]
    exact permissions_again x x' registry s.permissions codename
  roles := by
    intro slug
    rw [after_roles, after_roles]
    exact roles_again x x' s.roles slug
  rolePermissions := links_again x x' registry s
  userRoles := rfl
  overrides := rfl
  settings := by
    intro key
    have hkey : Keyed.pk x'.setting = Keyed.pk x.setting := rfl
    rw [after_settings, after_settings, s.settings.get?_ensure_ensure hkey]
  featureFlags := by
    intro key
    have hkey : Keyed.pk x'.featureFlag = Keyed.pk x.featureFlag := rfl
    rw [after_featureFlags, after_featureFlags, s.featureFlags.get?_ensure_ensure hkey]

/-! ### What was there before

No table loses a row, and what has no part in the registry or the definitions is not written at
all.
-/

theorem kept (x : Execution) (registry : Registry) (s : State) : Kept s (after x registry s) where
  permissions := by
    intro codename row hrow
    have hnew := get?_permissions x registry s.permissions codename
    rw [Option.mem_def.mp hrow] at hnew
    cases hr : registry.get? codename with
    | none =>
        rw [hr] at hnew
        exact ⟨row, hnew, rfl, rfl⟩
    | some r =>
        rw [hr] at hnew
        exact ⟨_, hnew, rfl, rfl⟩
  roles := by
    intro slug row hrow
    have hnew := get?_roles x s.roles slug
    rw [Option.mem_def.mp hrow] at hnew
    cases hd : roleDefinitions.find? fun d => d.slug = slug with
    | none =>
        rw [hd] at hnew
        exact ⟨row, hnew, rfl, rfl⟩
    | some d =>
        rw [hd] at hnew
        exact ⟨_, hnew, rfl, rfl⟩
  rolePermissions := by
    intro pair row hrow
    rw [get?_links, Option.mem_def.mp hrow]
    rfl
  userRoles := rfl
  overrides := rfl
  settings := fun _ _ hrow => Table.get?_ensure_of_some hrow
  featureFlags := fun _ _ hrow => Table.get?_ensure_of_some hrow

theorem untouched (x : Execution) (calls : List (List Registration)) (s : State) :
    Untouched (Registry.built calls) s (after x (Registry.built calls) s) where
  permissions := by
    intro codename hr
    have hnew := get?_permissions x (Registry.built calls) s.permissions codename
    rw [hr] at hnew
    exact hnew
  roles := by
    intro slug hslug
    have hnew := get?_roles x s.roles slug
    have hfind : (roleDefinitions.find? fun d => d.slug = slug) = none := by
      rw [List.find?_eq_none]
      intro d hd hsame
      exact hslug (of_decide_eq_true hsame ▸ List.mem_map_of_mem hd)
    rw [hfind] at hnew
    exact hnew
  rolePermissions := by
    intro pair hnone hsome
    rw [get?_links, hnone, Option.none_or] at hsome
    obtain ⟨a, hfind⟩ := Option.isSome_iff_exists.mp hsome
    have hkey : Keyed.pk a = pair := by simpa using List.find?_some hfind
    obtain ⟨d, hd, codename, hcodename, row, hrow, rfl⟩ :=
      mem_wanted.mp (List.mem_of_find?_eq_some hfind)
    obtain ⟨r, hr, rfl⟩ := registered_of_desired calls hd hcodename
    subst hkey
    exact ⟨⟨d, hd, _, get?_roles_of_mem hd s.roles, rfl⟩, r, hr, row, hrow, rfl⟩
  settings := by
    intro key hkey
    show (s.settings.ensure x.setting).get? key = _
    rw [Table.get?_ensure, setting_key, if_neg (Ne.symm hkey)]
  featureFlags := by
    intro key hkey
    show (s.featureFlags.ensure x.featureFlag).get? key = _
    rw [Table.get?_ensure, featureFlag_key, if_neg (Ne.symm hkey)]

/-! ### What is there after it

The first definition lists all that is registered, so its role ends up with a link to each.
-/

/-- The first definition, of all that is registered. -/
def superAdmin : Definition :=
  ⟨"super-admin", "Super Admin", "Full registered application access.", 1000, none⟩

theorem superAdmin_mem : superAdmin ∈ roleDefinitions := List.mem_cons_self

theorem complete (x : Execution) (registry : Registry) (s : State) :
    Complete registry (after x registry s) := by
  refine ⟨_, get?_roles_of_mem superAdmin_mem s.roles, ?_, ?_⟩
  · rw [Execution.roleOf]
    cases s.roles.get? superAdmin.slug with
    | none => rfl
    | some row => rfl
  · intro r hr
    have hrow := get?_permissions_of_mem (x := x) hr s.permissions
    refine ⟨_, hrow, ?_, ?_, ?_⟩
    · cases s.permissions.get? r.codename with
      | none => rfl
      | some row => rfl
    · cases s.permissions.get? r.codename with
      | none => rfl
      | some row => rfl
    · have hdesired : r.codename ∈ superAdmin.desired registry.getRegisteredPermissions :=
        List.mem_map_of_mem (Registry.mem_getRegisteredPermissions.mpr hr)
      exact isSome_of_wanted
        (mem_wanted.mpr ⟨superAdmin, superAdmin_mem, r.codename, hdesired, _, hrow, rfl⟩)

/-- **Bootstrap is idempotent and additive**, on every database and with every registry built on
the base permissions, where on PostgreSQL the registered texts fit their columns. -/
theorem bootstrap_idempotent_additive (engine : DatabaseEngine) (x x' : Execution)
    (calls : List (List Registration)) (s : State)
    (hfits : engine = .postgresql → ∀ r ∈ Registry.built calls, Fits r) :
    ∃ once twice, handle engine x (Registry.built calls) s = .ok once ∧
      handle engine x' (Registry.built calls) once = .ok twice ∧ SameRows once twice ∧
      Kept s once ∧ Complete (Registry.built calls) once ∧
      Untouched (Registry.built calls) s once :=
  ⟨_, _, handle_eq x calls s hfits, handle_eq x' calls _ hfits, sameRows x x' _ s, kept x _ s,
    complete x _ s, untouched x calls s⟩

/-- A run that numbers what is new. -/
def numbered (registry : Registry) : Execution where
  now := 0
  permissionId := fun codename => registry.rows.findIdx fun r => r.codename = codename
  roleId := fun slug => roleDefinitions.findIdx fun d => d.slug = slug
  linkId := fun slug codename =>
    (roleDefinitions.findIdx fun d => d.slug = slug) * registry.rows.length +
      registry.rows.findIdx fun r => r.codename = codename
  settingId := 0
  flagId := 0
  setOf := List.dedup
  setOf_perm := fun codenames => List.Perm.refl codenames.dedup

/-- A project's own permissions. -/
def reports : List Registration := [⟨"reports.view", "View reports"⟩]

/-- Run twice over them on an empty database. -/
theorem bootstrap_idempotent_additive_reports :
    ∃ once twice,
      handle .postgresql (numbered (.built [reports])) (.built [reports]) {} = .ok once ∧
      handle .postgresql (numbered (.built [reports])) (.built [reports]) once = .ok twice ∧
      SameRows once twice ∧ Kept {} once ∧ Complete (.built [reports]) once ∧
      Untouched (.built [reports]) {} once :=
  bootstrap_idempotent_additive .postgresql _ _ [reports] {} fun _ => by
    have hfits : ∀ r ∈ (Registry.built [reports]).rows, Fits r := by decide +kernel
    exact fun r hr => hfits r hr

/-- A codename of 151 characters. -/
def overlong : Registration :=
  ⟨"reports." ++ String.ofList (List.replicate 143 'x'), "View reports"⟩

/-- It is registered, and the command fails on PostgreSQL. -/
theorem overlong_codename_refused :
    (Registry.base.registerPermissions [overlong]).1 = .ok () ∧
      handle .postgresql (numbered (.built [[overlong]])) (.built [[overlong]]) {} =
        .error .dataError := by
  have hmem : overlong ∈ (Registry.built [[overlong]]).rows := by decide +kernel
  have hothers : ∀ r ∈ (Registry.built [[overlong]]).rows, r ≠ overlong → Fits r := by
    decide +kernel
  refine ⟨by decide +kernel, handle_error hmem hothers rfl fun permissions hnew => ?_⟩
  have hcodename : DatabaseEngine.postgresql.charField codenameLength overlong.codename =
      .error .dataError := by decide +kernel
  have hparameter : DatabaseEngine.postgresql.parameter overlong.codename =
      .ok overlong.codename := by decide +kernel
  rw [Execution.updateOrCreatePermission, hparameter]
  simp only [bind, Except.bind, hnew, hcodename]

end Bootstrap

end DjangoFoundation
