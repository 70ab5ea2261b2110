/-
The two permission resolvers against each other.

They read overrides and superuser status alike, so they can differ only in the role
part: an inner join there, an outer join here.  A role with at least one permission
gives the same codenames through both.  A role without any gives nothing through the one
and a null through the other, and that null is the whole difference: it is no codename,
and `sorted` cannot order it.

Nothing depends on how many roles a user has, or on what they grant, so there is no induction
here: it is a comparison of two joins, row by row.
-/
import DjangoFoundation.Authorization.Services

namespace DjangoFoundation.Authorization

variable {store : Store} {now : Int} {code : String}

/-! ### Registered codenames

Everything either resolver answers is a codename, and a codename is that of one row of
`Permission`.  Both can therefore be compared one codename at a time.
-/

/-- The codename of a row of `Permission`. -/
def Store.Registered (store : Store) (code : String) : Prop :=
  ∃ p ∈ store.permissions, p.codename = code

theorem codename?_eq_some {permission : UUID} :
    store.codename? permission = some code ↔
      ∃ p ∈ store.permissions, p.pk = permission ∧ p.codename = code := by
  unfold Store.codename?
  rw [Option.map_eq_some_iff]
  constructor
  · intro ⟨p, hget, hcode⟩
    exact ⟨p, Table.mem_of_get? hget, Table.pk_of_get? hget, hcode⟩
  · intro ⟨p, hp, hpk, hcode⟩
    exact ⟨p, Table.get?_eq_some.mpr ⟨hp, hpk⟩, hcode⟩

/-- One codename, one permission. -/
theorem codename?_inj {a b : UUID} (ha : store.codename? a = some code)
    (hb : store.codename? b = some code) : a = b := by
  obtain ⟨p, hp, rfl, hpc⟩ := codename?_eq_some.mp ha
  obtain ⟨q, hq, rfl, hqc⟩ := codename?_eq_some.mp hb
  rw [store.codename_unique p hp q hq (hpc.trans hqc.symm)]

theorem registered_of_codename? {permission : UUID} (h : store.codename? permission = some code) :
    store.Registered code := by
  obtain ⟨p, hp, _, hcode⟩ := codename?_eq_some.mp h
  exact ⟨p, hp, hcode⟩

/-! ### Overrides

The two read overrides in different ways, by a lookup there and from a dictionary of all of
them here.  An override is unique for a user and a permission, so that both come to the same
row.
-/

theorem override?_eq_some {user : UUID} {effect : OverrideEffect} :
    store.override? user code = some effect ↔
      ∃ o ∈ store.overrides, o.user = user ∧ store.codename? o.permission = some code ∧
        o.effect = effect := by
  unfold Store.override?
  rw [Option.map_eq_some_iff]
  constructor
  · intro ⟨o, hfind, heff⟩
    have hp := List.find?_some hfind
    rw [decide_eq_true_eq] at hp
    exact ⟨o, List.mem_of_find?_eq_some hfind, hp.1, hp.2, heff⟩
  · intro ⟨o, ho, huser, hcode, heff⟩
    cases hfind : store.overrides.rows.find? fun override =>
        override.user = user ∧ store.codename? override.permission = some code with
    | none =>
        have hno := List.find?_eq_none.mp hfind o ho
        rw [decide_eq_true_eq] at hno
        exact absurd ⟨huser, hcode⟩ hno
    | some o' =>
        -- the constraint leaves one override for the user and the permission
        have hp := List.find?_some hfind
        rw [decide_eq_true_eq] at hp
        have ho' : o' ∈ store.overrides := List.mem_of_find?_eq_some hfind
        have heq := store.override_unique o' ho' o ho (hp.1.trans huser.symm)
          (codename?_inj hp.2 hcode)
        exact ⟨o', rfl, heq ▸ heff⟩

theorem mem_overrideCodes {user : UUID} {effect : OverrideEffect} {c : Option String} :
    c ∈ store.overrideCodes user effect ↔
      ∃ code, c = some code ∧ store.override? user code = some effect := by
  simp only [Store.overrideCodes, Store.overrideItems, List.mem_toFinset, List.mem_filterMap,
    List.mem_filter, decide_eq_true_eq, Option.map_eq_some_iff]
  constructor
  · intro ⟨item, ⟨o, ⟨ho, huser⟩, code, hcode, hitem⟩, hc⟩
    subst hitem
    simp only at hc
    split at hc
    · rename_i heff
      cases hc
      exact ⟨code, rfl, override?_eq_some.mpr ⟨o, ho, huser, hcode, heff⟩⟩
    · cases hc
  · intro ⟨code, hc, hov⟩
    obtain ⟨o, ho, huser, hcode, heff⟩ := override?_eq_some.mp hov
    exact ⟨(code, o.effect), ⟨o, ⟨ho, huser⟩, code, hcode, rfl⟩, by simp [heff, hc]⟩

theorem registered_of_override? {user : UUID} {effect : OverrideEffect}
    (h : store.override? user code = some effect) : store.Registered code := by
  obtain ⟨_, _, _, hcode, _⟩ := override?_eq_some.mp h
  exact registered_of_codename? hcode

/-! ### Roles

This is where they differ.  The inner join drops an assignment to a role without permissions,
and the outer join keeps it, with a null for the codename it does not have.
-/

theorem mem_links {role : UUID} {link : RolePermission} :
    link ∈ store.links role ↔ link ∈ store.rolePermissions ∧ link.role = role := by
  rw [Store.links, List.mem_filter, decide_eq_true_eq]
  exact Iff.rfl

theorem mem_roleCodenames {role : UUID} :
    code ∈ store.roleCodenames role ↔
      ∃ link ∈ store.links role, store.codename? link.permission = some code := by
  rw [Store.roleCodenames, List.mem_filterMap]

/-- Strings come through the outer join as they do through the inner one. -/
theorem some_mem_outerRoleCodenames {role : UUID} :
    some code ∈ store.outerRoleCodenames role ↔ code ∈ store.roleCodenames role := by
  rw [mem_roleCodenames, Store.outerRoleCodenames]
  cases hlinks : store.links role with
  | nil => simp
  | cons link links =>
      show some code ∈ (link :: links).map _ ↔ _
      rw [List.mem_map]

/-- A null comes through it exactly for a role without permissions. -/
theorem none_mem_outerRoleCodenames {role : UUID} :
    none ∈ store.outerRoleCodenames role ↔ store.links role = [] := by
  rw [Store.outerRoleCodenames]
  cases hlinks : store.links role with
  | nil => simp
  | cons link links =>
      refine iff_of_false ?_ (by simp)
      show none ∉ (link :: links).map _
      rw [List.mem_map]
      intro ⟨l, hl, hnull⟩
      rw [← hlinks] at hl
      have hsome := store.rolePermission_permission l (mem_links.mp hl).1
      rw [Store.codename?, Option.map_eq_none_iff] at hnull
      rw [hnull] at hsome
      cases hsome

/-- A valid assignment of the user grants the codename. -/
def Store.Grants (store : Store) (now : Int) (user : UUID) (code : String) : Prop :=
  ∃ assignment ∈ store.validAssignments now user, code ∈ store.roleCodenames assignment.role

theorem Store.Grants.registered {user : UUID} (h : store.Grants now user code) :
    store.Registered code := by
  obtain ⟨assignment, _, hmem⟩ := h
  obtain ⟨link, _, hcode⟩ := mem_roleCodenames.mp hmem
  exact registered_of_codename? hcode

/-! ### Both resolvers past the gate

Once the account is let in, what is left on both sides is: an override that grants it, or a
role (or superuser status) with no override against it.  The null is taken along as an entry of
its own.
-/

/-- What holds a codename up where no override speaks of it. -/
def Store.Holds (store : Store) (now : Int) (user : User) (code : String) : Prop :=
  user.isSuperuser = true ∧ store.Registered code ∨
    user.isSuperuser = false ∧ store.Grants now user.pk code

/-- The user has a valid assignment of a role without permissions, and is no superuser. -/
def Store.NullEntry (store : Store) (now : Int) (user : User) : Prop :=
  user.isSuperuser = false ∧
    ∃ assignment ∈ store.validAssignments now user.pk, store.links assignment.role = []

theorem hasPermission_iff {user : User} (hgate : canAuthenticateNow store.bans now user = true)
    (hreg : store.Registered code) :
    hasPermission store now (some user) code = true ↔
      store.override? user.pk code = some .allow ∨
        (store.override? user.pk code = none ∧ store.Holds now user code) := by
  unfold hasPermission
  simp only [hgate, Bool.not_true, Bool.false_eq_true, if_false]
  cases hov : store.override? user.pk code with
  | some effect => cases effect <;> simp
  | none =>
      simp only [Store.Holds, Store.Grants]
      by_cases hsuper : user.isSuperuser = true
      · simp [hsuper, hreg]
      · simp [hsuper]

/-- The codenames in the set, before overrides take any away. -/
private theorem some_mem_roleCodes {user : User} :
    some code ∈ (if user.isSuperuser then
        (store.permissions.rows.map fun permission => some permission.codename).toFinset
      else ((store.validAssignments now user.pk).flatMap fun assignment =>
        store.outerRoleCodenames assignment.role).toFinset) ↔ store.Holds now user code := by
  unfold Store.Holds
  by_cases hsuper : user.isSuperuser = true
  · simp only [hsuper, if_true, List.mem_toFinset, List.mem_map, Option.some.injEq, true_and,
      Bool.true_eq_false, false_and, or_false]
    exact Iff.rfl
  · rw [Bool.not_eq_true] at hsuper
    simp only [hsuper, Bool.false_eq_true, if_false, List.mem_toFinset, List.mem_flatMap,
      false_and, true_and, false_or, some_mem_outerRoleCodenames]
    exact Iff.rfl

private theorem none_mem_roleCodes {user : User} :
    none ∈ (if user.isSuperuser then
        (store.permissions.rows.map fun permission => some permission.codename).toFinset
      else ((store.validAssignments now user.pk).flatMap fun assignment =>
        store.outerRoleCodenames assignment.role).toFinset) ↔ store.NullEntry now user := by
  unfold Store.NullEntry
  by_cases hsuper : user.isSuperuser = true
  · simp [hsuper]
  · rw [Bool.not_eq_true] at hsuper
    simp only [hsuper, Bool.false_eq_true, if_false, List.mem_toFinset, List.mem_flatMap,
      true_and, none_mem_outerRoleCodenames]

theorem some_mem_permissionCodes {user : User}
    (hgate : canAuthenticateNow store.bans now user = true) :
    some code ∈ permissionCodes store now (some user) ↔
      store.override? user.pk code = some .allow ∨
        (store.override? user.pk code = none ∧ store.Holds now user code) := by
  simp only [permissionCodes, hgate, Bool.not_true, Bool.false_eq_true, if_false,
    Finset.mem_sdiff, Finset.mem_union, some_mem_roleCodes, mem_overrideCodes,
    Option.some.injEq, exists_eq_left']
  cases hov : store.override? user.pk code with
  | some effect => cases effect <;> simp
  | none => simp

theorem none_mem_permissionCodes {user : User}
    (hgate : canAuthenticateNow store.bans now user = true) :
    none ∈ permissionCodes store now (some user) ↔ store.NullEntry now user := by
  simp only [permissionCodes, hgate, Bool.not_true, Bool.false_eq_true, if_false,
    Finset.mem_sdiff, Finset.mem_union, none_mem_roleCodes, mem_overrideCodes, reduceCtorEq,
    false_and, exists_false, or_false, not_false_eq_true, and_true]

/-- Past the gate, the strings of the set are the codenames `hasPermission` accepts. -/
theorem some_mem_permissionCodes_iff {user : User}
    (hgate : canAuthenticateNow store.bans now user = true) :
    some code ∈ permissionCodes store now (some user) ↔
      store.Registered code ∧ hasPermission store now (some user) code = true := by
  rw [some_mem_permissionCodes hgate]
  constructor
  · intro h
    have hreg : store.Registered code := by
      rcases h with hov | ⟨_, ⟨_, hreg⟩ | ⟨_, hgrants⟩⟩
      · exact registered_of_override? hov
      · exact hreg
      · exact hgrants.registered
    exact ⟨hreg, (hasPermission_iff hgate hreg).mpr h⟩
  · intro ⟨hreg, h⟩
    exact (hasPermission_iff hgate hreg).mp h

/-! ### Agreement

If the gate is closed both are empty.  If it is open, the strings agree by the section above,
and what remains is whether the null is there: it makes the set differ from the codenames the
other resolver accepts, and it makes `sorted` raise.
-/

/-- The two resolvers agree for a user, and the serializer can sort what they agree on. -/
structure ResolversAgree (store : Store) (now : Int) (user : Option User) : Prop where
  codes : ∀ c, c ∈ permissionCodes store now user ↔
    ∃ p ∈ store.permissions, c = some p.codename ∧
      hasPermission store now user p.codename = true
  sorts : ∀ requestUser obj, user = some obj →
    (getPermissions store now requestUser obj).isSome = true

/-- The gate is open to the user, and a role of theirs without permissions contributes a
null. -/
def NullContributed (store : Store) (now : Int) (user : Option User) : Prop :=
  ∃ u, user = some u ∧ canAuthenticateNow store.bans now u = true ∧ store.NullEntry now u

private theorem permissionCodes_closed {user : Option User}
    (h : store.admits now user = false) : permissionCodes store now user = ∅ := by
  cases user with
  | none => rfl
  | some u =>
      have hgate : canAuthenticateNow store.bans now u = false := h
      simp [permissionCodes, hgate]

private theorem hasPermission_closed {user : Option User} (h : store.admits now user = false) :
    hasPermission store now user code = false := by
  cases user with
  | none => rfl
  | some u =>
      have hgate : canAuthenticateNow store.bans now u = false := h
      simp [hasPermission, hgate]

private theorem getPermissions_isSome {requestUser : Option User} {obj : User}
    (h : none ∉ permissionCodes store now (some obj)) :
    (getPermissions store now requestUser obj).isSome = true := by
  unfold getPermissions
  split
  · rw [sorted, if_neg h]
    rfl
  · rfl

/-- **The resolvers agree exactly where no null is contributed**: for every store, time
and user, anonymous or not. -/
theorem resolversAgree_iff (store : Store) (now : Int) (user : Option User) :
    ResolversAgree store now user ↔ ¬NullContributed store now user := by
  cases hgate : store.admits now user with
  | false =>
      -- the gate answers for both
      have hcodes := permissionCodes_closed hgate
      refine iff_of_true ⟨fun c => ?_, fun requestUser obj hobj => ?_⟩ ?_
      · rw [hcodes]
        refine iff_of_false (Finset.notMem_empty c) ?_
        intro ⟨p, _, _, hp⟩
        rw [hasPermission_closed hgate] at hp
        cases hp
      · subst hobj
        refine getPermissions_isSome ?_
        rw [hcodes]
        exact Finset.notMem_empty none
      · intro ⟨u, hu, hopen, _⟩
        subst hu
        rw [show canAuthenticateNow store.bans now u = false from hgate] at hopen
        cases hopen
  | true =>
      cases user with
      | none => cases hgate
      | some u =>
          have hopen : canAuthenticateNow store.bans now u = true := hgate
          have hnull : NullContributed store now (some u) ↔
              none ∈ permissionCodes store now (some u) := by
            rw [none_mem_permissionCodes hopen]
            constructor
            · intro ⟨u', hu, _, hn⟩
              cases hu
              exact hn
            · intro hn
              exact ⟨u, rfl, hopen, hn⟩
          rw [hnull]
          constructor
          · intro h hmem
            obtain ⟨p, _, hp, _⟩ := (h.codes none).mp hmem
            cases hp
          · intro hnone
            refine ⟨fun c => ?_, fun requestUser obj hobj => ?_⟩
            · cases c with
              | none =>
                  refine iff_of_false hnone ?_
                  intro ⟨p, _, hp, _⟩
                  cases hp
              | some code =>
                  rw [some_mem_permissionCodes_iff hopen]
                  constructor
                  · intro ⟨⟨p, hp, hcode⟩, hperm⟩
                    exact ⟨p, hp, by rw [hcode], by rw [hcode]; exact hperm⟩
                  · intro ⟨p, hp, hcode, hperm⟩
                    cases hcode
                    exact ⟨⟨p, hp, rfl⟩, hperm⟩
            · cases hobj
              exact getPermissions_isSome hnone

/-- A store with one permission, granted by an override, and one role without any. -/
def emptyRoleStore : Store where
  bans := ∅
  permissions := ⟨[⟨1, "documents.view"⟩], List.nodup_singleton _⟩
  roles := ⟨[⟨2, "guest"⟩], List.nodup_singleton _⟩
  rolePermissions := ∅
  userRoles := ⟨[⟨3, 7, 2, 0, none⟩], List.nodup_singleton _⟩
  overrides := ⟨[⟨4, 7, 1, .allow⟩], List.nodup_singleton _⟩
  codename_unique := by
    intro p hp q hq _
    rw [List.mem_singleton.mp hp, List.mem_singleton.mp hq]
  override_unique := by
    intro a ha b hb _ _
    rw [List.mem_singleton.mp ha, List.mem_singleton.mp hb]
  rolePermission_role _ h := absurd h (Table.not_mem_empty _)
  rolePermission_permission _ h := absurd h (Table.not_mem_empty _)
  userRole_role := by
    intro a ha
    rw [List.mem_singleton.mp ha]
    rfl
  override_permission := by
    intro a ha
    rw [List.mem_singleton.mp ha]
    rfl

/-- An active user with that role. -/
def emptyRoleUser : User where
  pk := 7
  password := ""
  email := "user@example.com"
  username := "user"
  status := .active

/-- The set holds a null beside the codename, and sorting it for the user raises. -/
theorem empty_role_breaks_agreement :
    ¬ResolversAgree emptyRoleStore 0 (some emptyRoleUser) ∧
      permissionCodes emptyRoleStore 0 (some emptyRoleUser) = {none, some "documents.view"} ∧
      getPermissions emptyRoleStore 0 (some emptyRoleUser) emptyRoleUser = none := by
  have hcodes : permissionCodes emptyRoleStore 0 (some emptyRoleUser)
      = {none, some "documents.view"} := by decide
  have hraises : getPermissions emptyRoleStore 0 (some emptyRoleUser) emptyRoleUser = none := by
    show sorted (permissionCodes emptyRoleStore 0 (some emptyRoleUser)) = none
    rw [hcodes]
    decide
  refine ⟨fun h => ?_, hcodes, hraises⟩
  have hsome := h.sorts (some emptyRoleUser) emptyRoleUser rfl
  rw [hraises] at hsome
  cases hsome

end DjangoFoundation.Authorization
