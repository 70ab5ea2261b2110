/-
Who has a permission, and who can give it.

The resolver reads four tables for a user and a codename, and most rows of them have nothing to
do with the two.  What a row has to do with them is said by `Rows.concerns`; a write that
concerns them in none of the rows it stores, replaces or removes leaves the answer as it is.
For roles that rests on a constraint: a role somebody is assigned to is not deleted, so the
links that go with a role are nobody's.

That no request of a user without `roles.manage` changes anything is not said by the check
alone, since a request goes on with what it has read while the tables change.  What carries it
is that the rows an allowing answer needs are never there.

The tables are read at different times and a request takes several steps, so both results are
about interleavings of single statements.
-/
import DjangoFoundation.Api.Authorization
import DjangoFoundation.Lib.Select
import DjangoFoundation.Proofs.Letters.Moves
import DjangoFoundation.Proofs.Permissions

namespace DjangoFoundation.Authorization

open Run

variable {env : Environment} {validators : Validators} {timeout : Int} {users : Table User}
  {rows rows' : Rows} {tables tables' : Tables} {user : UUID} {code : String} {s t : State}
  {r : InFlight} {now : Int}

@[simp] theorem Tables.store_bans (tables : Tables) (bans : Table UserBan) :
    (tables.store bans).bans = bans := rfl

/-! ### What a row has to do with a permission

For a user and a codename the resolver looks at overrides of the one for the other, at
assignments of the one, and at links of assigned roles with the other.  A row concerns them if
it is of one of these kinds; all others could be anything.
-/

namespace Rows

/-- `permission__codename`. -/
def codename? (rows : Rows) (permission : UUID) : Option String :=
  (rows.permissions.get? permission).map Permission.codename

/-- What the row says takes part in whether the user has the permission. -/
def concerns (rows : Rows) (user : UUID) (code : String) : Record → Bool
  | .permission row => row.codename = code
  | .role _ => false
  | .rolePermission link => rows.codename? link.permission = some code ∧
      rows.userRoles.rows.any fun assignment =>
        assignment.user = user ∧ assignment.role = link.role
  | .userRole assignment => assignment.user = user ∧
      rows.rolePermissions.rows.any fun link =>
        link.role = assignment.role ∧ rows.codename? link.permission = some code
  | .userPermissionOverride override => override.user = user ∧
      rows.codename? override.permission = some code

end Rows

/-- The rows a write stores, replaces or removes. -/
def Write.touches (rows : Rows) : Write → List Record
  | .insert record => [record]
  | .save record => record :: (rows.get? record.pk record.model).toList
  | .delete record => (rows.get? record.pk record.model).toList

def Write.concerns (rows : Rows) (user : UUID) (code : String) (w : Write) : Bool :=
  (w.touches rows).any (rows.concerns user code)

/-- The rows that take part in whether the user has the permission are the same. -/
structure Agree (user : UUID) (code : String) (rows rows' : Rows) : Prop where
  codename : ∀ pk, rows'.codename? pk = some code ↔ rows.codename? pk = some code
  overrides : ∀ override : UserPermissionOverride, override.user = user →
    rows.codename? override.permission = some code →
    (override ∈ rows'.overrides ↔ override ∈ rows.overrides)
  roles : ∀ (assignment : UserRole) (link : RolePermission), assignment.user = user →
    link.role = assignment.role → rows.codename? link.permission = some code →
    (assignment ∈ rows'.userRoles ∧ link ∈ rows'.rolePermissions ↔
      assignment ∈ rows.userRoles ∧ link ∈ rows.rolePermissions)

theorem concerns_link {assignment : UserRole} {link : RolePermission}
    (huser : assignment.user = user) (hrole : link.role = assignment.role)
    (hcode : rows.codename? link.permission = some code) (hmem : assignment ∈ rows.userRoles) :
    rows.concerns user code (.rolePermission link) = true :=
  decide_eq_true ⟨hcode, List.any_eq_true.mpr
    ⟨assignment, hmem, decide_eq_true ⟨huser, hrole.symm⟩⟩⟩

theorem concerns_assignment {assignment : UserRole} {link : RolePermission}
    (huser : assignment.user = user) (hrole : link.role = assignment.role)
    (hcode : rows.codename? link.permission = some code) (hmem : link ∈ rows.rolePermissions) :
    rows.concerns user code (.userRole assignment) = true :=
  decide_eq_true ⟨huser, List.any_eq_true.mpr ⟨link, hmem, decide_eq_true ⟨hrole, hcode⟩⟩⟩

/-! ### What the resolver answers

Two tables that agree in the rows that concern a user and a codename give the same answer.
Links count only for roles that are assigned, so a link of somebody else's role may come and
go.
-/

theorem override?_of_agree {bans : Table UserBan}
    (h : Agree user code tables.toRows tables'.toRows) :
    (tables'.store bans).override? user code = (tables.store bans).override? user code := by
  refine Option.ext fun effect => ?_
  rw [override?_eq_some, override?_eq_some]
  constructor
  · rintro ⟨o, ho, huser, hcode, heffect⟩
    have hcode' := (h.codename o.permission).mp hcode
    exact ⟨o, (h.overrides o huser hcode').mp ho, huser, hcode', heffect⟩
  · rintro ⟨o, ho, huser, hcode, heffect⟩
    exact ⟨o, (h.overrides o huser hcode).mpr ho, huser, (h.codename o.permission).mpr hcode,
      heffect⟩

theorem grants_iff {store : Store} {now : Int} :
    ((store.validAssignments now user).any fun assignment =>
        (store.roleCodenames assignment.role).contains code) = true ↔
      ∃ assignment ∈ store.userRoles, ∃ link ∈ store.rolePermissions,
        (assignment.user = user ∧ assignment.validFrom ≤ now ∧
          assignment.validUntil.all (fun t => t > now) = true) ∧
        link.role = assignment.role ∧ store.codename? link.permission = some code := by
  simp only [List.any_eq_true, List.contains_iff_mem, mem_roleCodenames, mem_links,
    Store.validAssignments, List.mem_filter, decide_eq_true_eq, Table.mem_rows]
  constructor
  · rintro ⟨assignment, ⟨hmem, hvalid⟩, link, ⟨hlink, hrole⟩, hcode⟩
    exact ⟨assignment, hmem, link, hlink, hvalid, hrole, hcode⟩
  · rintro ⟨assignment, hmem, link, hlink, hvalid, hrole, hcode⟩
    exact ⟨assignment, ⟨hmem, hvalid⟩, link, ⟨hlink, hrole⟩, hcode⟩

theorem grants_of_agree {bans : Table UserBan} {now : Int}
    (h : Agree user code tables.toRows tables'.toRows) :
    (((tables'.store bans).validAssignments now user).any fun assignment =>
        ((tables'.store bans).roleCodenames assignment.role).contains code) =
      ((tables.store bans).validAssignments now user).any fun assignment =>
        ((tables.store bans).roleCodenames assignment.role).contains code := by
  rw [Bool.eq_iff_iff, grants_iff, grants_iff]
  constructor
  · rintro ⟨assignment, hmem, link, hlink, hvalid, hrole, hcode⟩
    have hcode' := (h.codename link.permission).mp hcode
    obtain ⟨hmem', hlink'⟩ := (h.roles assignment link hvalid.1 hrole hcode').mp ⟨hmem, hlink⟩
    exact ⟨assignment, hmem', link, hlink', hvalid, hrole, hcode'⟩
  · rintro ⟨assignment, hmem, link, hlink, hvalid, hrole, hcode⟩
    obtain ⟨hmem', hlink'⟩ := (h.roles assignment link hvalid.1 hrole hcode).mpr ⟨hmem, hlink⟩
    exact ⟨assignment, hmem', link, hlink', hvalid, hrole,
      (h.codename link.permission).mpr hcode⟩

theorem hasPermission_of_agree {row : User} {bans : Table UserBan} {now : Int}
    (h : Agree row.pk code tables.toRows tables'.toRows) :
    hasPermission (tables'.store bans) now (some row) code =
      hasPermission (tables.store bans) now (some row) code := by
  unfold hasPermission
  simp only [override?_of_agree h, grants_of_agree h]
  rfl

/-! ### Writes

A write stores, replaces or removes rows, and a deletion takes along what refers to the row.
The foreign keys that protect assignments keep that from reaching rows that concern anybody
else.
-/

/-- What a write that is done has left. -/
theorem perform_eq_ok {w : Write} (h : w.perform users tables = .ok tables') :
    (∃ record, record ∈ w.touches tables.toRows ∧
        (∀ old, tables.get? record.pk record.model = some old → old ∈ w.touches tables.toRows) ∧
        tables'.toRows = tables.put record) ∨
      ∃ record, w = .delete record ∧ tables.protected? record = false ∧
        tables'.toRows = tables.without record := by
  have hcommit : ∀ {rows : Rows}, Tables.commit rows = .ok tables' → tables'.toRows = rows := by
    intro rows hcommit
    unfold Tables.commit at hcommit
    split at hcommit
    · cases hcommit
      rfl
    · cases hcommit
  cases w with
  | insert record =>
      unfold Write.perform AuthorizationViewSet.performCreate at h
      dsimp only at h
      split at h
      · cases h
      · rename_i hnot
        rw [Bool.or_eq_true, not_or, Option.not_isSome_iff_eq_none] at hnot
        refine Or.inl ⟨record, List.mem_singleton_self _, fun old hold => ?_, hcommit h⟩
        rw [hnot.1] at hold
        cases hold
  | save record =>
      unfold Write.perform AuthorizationViewSet.performUpdate at h
      dsimp only at h
      split at h
      · cases h
      · refine Or.inl ⟨record, List.mem_cons_self, fun old hold => ?_, hcommit h⟩
        rw [Write.touches, hold]
        exact List.mem_cons_of_mem _ List.mem_cons_self
  | delete record =>
      unfold Write.perform AuthorizationViewSet.performDestroy at h
      dsimp only at h
      split at h
      · cases h
      · split at h
        · cases h
        · rename_i hprotected
          exact Or.inr ⟨record, rfl, Bool.eq_false_iff.mpr hprotected, hcommit h⟩

theorem agree_put {record : Record} (hnew : rows.concerns user code record = false)
    (hold : ∀ old, rows.get? record.pk record.model = some old →
      rows.concerns user code old = false) : Agree user code rows (rows.put record) := by
  cases record with
  | permission p =>
      refine ⟨fun pk => ?_, fun _ _ _ => Iff.rfl, fun _ _ _ _ _ => Iff.rfl⟩
      show ((rows.permissions.put p).get? pk).map _ = some code ↔ _
      rw [Table.get?_put]
      split
      · rename_i hpk
        refine iff_of_false (fun h => ?_) fun h => ?_
        · rw [Option.map_some, Option.some.injEq] at h
          exact of_decide_eq_false hnew h
        · obtain ⟨q, hq, hcode⟩ := Option.map_eq_some_iff.mp h
          rw [← hpk] at hq
          have hq' := hold (.permission q) (congrArg (Option.map Record.permission) hq)
          exact of_decide_eq_false hq' hcode
      · exact Iff.rfl
  | role r => exact ⟨fun _ => Iff.rfl, fun _ _ _ => Iff.rfl, fun _ _ _ _ _ => Iff.rfl⟩
  | rolePermission l =>
      refine ⟨fun _ => Iff.rfl, fun _ _ _ => Iff.rfl, fun assignment link huser hrole hcode => ?_⟩
      refine and_congr_right fun hassignment => ?_
      have hlink : rows.concerns user code (.rolePermission link) = true :=
        concerns_link huser hrole hcode hassignment
      refine Table.mem_put_of_ne ?_ fun hget => ?_
      · rintro rfl
        rw [hlink] at hnew
        cases hnew
      · have hl := hold (.rolePermission link) (congrArg (Option.map Record.rolePermission) hget)
        rw [hlink] at hl
        cases hl
  | userRole a =>
      refine ⟨fun _ => Iff.rfl, fun _ _ _ => Iff.rfl, fun assignment link huser hrole hcode => ?_⟩
      refine and_congr_left fun hlink => ?_
      have hassignment : rows.concerns user code (.userRole assignment) = true :=
        concerns_assignment huser hrole hcode hlink
      refine Table.mem_put_of_ne ?_ fun hget => ?_
      · rintro rfl
        rw [hassignment] at hnew
        cases hnew
      · have ha := hold (.userRole assignment) (congrArg (Option.map Record.userRole) hget)
        rw [hassignment] at ha
        cases ha
  | userPermissionOverride o =>
      refine ⟨fun _ => Iff.rfl, fun override huser hcode => ?_, fun _ _ _ _ _ => Iff.rfl⟩
      refine Table.mem_put_of_ne ?_ fun hget => ?_
      · rintro rfl
        exact of_decide_eq_false hnew ⟨huser, hcode⟩
      · have ho := hold (.userPermissionOverride override)
          (congrArg (Option.map Record.userPermissionOverride) hget)
        exact of_decide_eq_false ho ⟨huser, hcode⟩

theorem agree_without {record : Record} (hprotected : rows.protected? record = false)
    (hold : ∀ old, rows.get? record.pk record.model = some old →
      rows.concerns user code old = false) : Agree user code rows (rows.without record) := by
  cases record with
  | permission p =>
      have hne : rows.codename? p.pk ≠ some code := by
        intro h
        obtain ⟨q, hq, hcode⟩ := Option.map_eq_some_iff.mp h
        have hq' := hold (.permission q) (congrArg (Option.map Record.permission) hq)
        exact of_decide_eq_false hq' hcode
      refine ⟨fun pk => ?_, fun override huser hcode => ?_,
        fun assignment link huser hrole hcode => ?_⟩
      · show ((rows.permissions.erase p.pk).get? pk).map _ = some code ↔ _
        rw [Table.get?_erase]
        split
        · rename_i hpk
          exact iff_of_false (by rintro ⟨⟩) (hpk ▸ hne)
        · exact Iff.rfl
      · refine Table.mem_delete.trans (and_iff_left (decide_eq_false fun hpk => ?_))
        exact hne (hpk ▸ hcode)
      · refine and_congr_right fun _ => Table.mem_delete.trans (and_iff_left ?_)
        exact decide_eq_false fun hpk => hne (hpk ▸ hcode)
  | role r =>
      refine ⟨fun _ => Iff.rfl, fun _ _ _ => Iff.rfl, fun assignment link huser hrole hcode => ?_⟩
      refine and_congr_right fun hassignment => Table.mem_delete.trans (and_iff_left ?_)
      -- an assignment to the role would have protected it
      refine decide_eq_false fun hlink => ?_
      have hany := List.any_eq_false.mp hprotected assignment hassignment
      exact hany (decide_eq_true (hrole.symm.trans hlink))
  | rolePermission l =>
      refine ⟨fun _ => Iff.rfl, fun _ _ _ => Iff.rfl, fun assignment link huser hrole hcode => ?_⟩
      refine and_congr_right fun hassignment => Table.mem_erase_of_ne fun hget => ?_
      have hl := hold (.rolePermission link) (congrArg (Option.map Record.rolePermission) hget)
      rw [concerns_link huser hrole hcode hassignment] at hl
      cases hl
  | userRole a =>
      refine ⟨fun _ => Iff.rfl, fun _ _ _ => Iff.rfl, fun assignment link huser hrole hcode => ?_⟩
      refine and_congr_left fun hlink => Table.mem_erase_of_ne fun hget => ?_
      have ha := hold (.userRole assignment) (congrArg (Option.map Record.userRole) hget)
      rw [concerns_assignment huser hrole hcode hlink] at ha
      cases ha
  | userPermissionOverride o =>
      refine ⟨fun _ => Iff.rfl, fun override huser hcode => Table.mem_erase_of_ne fun hget => ?_,
        fun _ _ _ _ _ => Iff.rfl⟩
      have ho := hold (.userPermissionOverride override)
        (congrArg (Option.map Record.userPermissionOverride) hget)
      exact of_decide_eq_false ho ⟨huser, hcode⟩

/-- A write that has nothing to do with the permission leaves it to the user, or not. -/
theorem agree_of_perform {w : Write} (h : w.perform users tables = .ok tables')
    (hconcerns : w.concerns tables.toRows user code = false) :
    Agree user code tables.toRows tables'.toRows := by
  have hnone := List.any_eq_false.mp hconcerns
  rcases perform_eq_ok h with ⟨record, hnew, hold, hput⟩ | ⟨record, rfl, hprotected, hwithout⟩
  · rw [hput]
    exact agree_put (Bool.eq_false_iff.mpr (hnone record hnew)) fun old hget =>
      Bool.eq_false_iff.mpr (hnone old (hold old hget))
  · rw [hwithout]
    refine agree_without hprotected fun old hget => Bool.eq_false_iff.mpr (hnone old ?_)
    exact Option.mem_toList.mpr hget

/-! ### Steps

A request reads in several steps before it writes.  What it keeps of them is its user and where
it has got to, so a step is described by these and by the tables as they are then.
-/

/-- The write an event is about to do. -/
def State.write? (s : State) : Event → Option Write
  | .advance user number => (s.requests.get? (user, number)).bind fun r =>
      match r.progress with
      | .loaded write => some write
      | _ => none
  | _ => none

/-- The permission to manage roles has not been found. -/
def Progress.unadmitted : Progress → Bool
  | .recognised | .gated | .undecided => true
  | .admitted | .loaded _ => false

/-- What the next step of a request can be. -/
inductive Advances (now : Int) (s : State) (r : InFlight) : State → Prop
  | passes {progress : Progress} (hfrom : r.progress.unadmitted = true)
      (hto : progress.unadmitted = true) : Advances now s r (s.reach r progress)
  | admits (hfrom : r.progress.unadmitted = true)
      (hfound : (s.tables.store s.accounts.db.bans).override? r.user.pk
          AuthorizationViewSet.requiredPermission = some .allow ∨
        r.user.isSuperuser = true ∨ s.grants now r.user.pk = true) :
      Advances now s r (s.reach r .admitted)
  | loads {write : Write} (hfrom : r.progress = .admitted) :
      Advances now s r (s.reach r (.loaded write))
  | writes {write : Write} {tables : Tables} (hfrom : r.progress = .loaded write)
      (hperform : write.perform s.accounts.db.users s.tables = .ok tables) :
      Advances now s r { s.drop r with tables := tables }
  | drops : Advances now s r (s.drop r)

theorem advances_proceed (hfrom : r.progress.unadmitted = true)
    (hfound : (s.tables.store s.accounts.db.bans).override? r.user.pk
        AuthorizationViewSet.requiredPermission = some .allow ∨
      r.user.isSuperuser = true ∨ s.grants now r.user.pk = true) :
    Advances now s r (s.proceed r) := by
  unfold State.proceed
  split
  · exact .admits hfrom hfound
  · exact .drops

theorem advances (now : Int) (s : State) (r : InFlight) : Advances now s r (s.advance r now) := by
  unfold State.advance
  cases hat : r.progress with
  | recognised =>
      dsimp only
      split
      · exact .passes (by rw [hat]; rfl) rfl
      · exact .drops
  | gated =>
      have hfrom : r.progress.unadmitted = true := by rw [hat]; rfl
      dsimp only
      split
      · exact .drops
      · rename_i hallow
        exact advances_proceed hfrom (Or.inl hallow)
      · split
        · rename_i hsuper
          exact advances_proceed hfrom (Or.inr (Or.inl hsuper))
        · exact .passes hfrom rfl
  | undecided =>
      dsimp only
      split
      · rename_i hgrants
        exact advances_proceed (by rw [hat]; rfl) (Or.inr (Or.inr hgrants))
      · exact .drops
  | admitted =>
      dsimp only
      split
      · exact .loads hat
      · exact .drops
  | loaded write =>
      dsimp only
      split
      · rename_i tables hperform
        exact .writes hat hperform
      · exact .drops

/-- Nothing but the write of a request writes the tables. -/
theorem tables_step {e : Int × Event} (h : step env validators timeout s e = some t) :
    t.tables = s.tables ∨ ∃ w, s.write? e.2 = some w ∧
      w.perform s.accounts.db.users s.tables = .ok t.tables := by
  obtain ⟨now, e⟩ := e
  cases e with
  | account event =>
      obtain ⟨accounts, -, rfl⟩ := Option.map_eq_some_iff.mp h
      exact Or.inl rfl
  | recognise user number authAPIKey action =>
      obtain ⟨row, -, h⟩ := Option.bind_eq_some_iff.mp h
      obtain ⟨requests, -, h⟩ := Option.bind_eq_some_iff.mp h
      cases h
      exact Or.inl rfl
  | refuse user number =>
      obtain ⟨r, -, rfl⟩ := Option.map_eq_some_iff.mp h
      exact Or.inl rfl
  | advance user number =>
      obtain ⟨r, hget, rfl⟩ := Option.map_eq_some_iff.mp h
      have hadvances := advances now s r
      generalize s.advance r now = t at hadvances ⊢
      cases hadvances with
      | writes hfrom hperform =>
          refine Or.inr ⟨_, ?_, hperform⟩
          rw [State.write?, hget, Option.bind_some, hfrom]
      | _ => exact Or.inl rfl

/-! ### A check by itself

The steps of a check, with nothing in between, come to what `PermissionService` says.  That is
the tie between the requests here and the resolver.
-/

theorem reach_reach (s : State) (r : InFlight) (p q : Progress) :
    (s.reach r p).reach { r with progress := p } q = s.reach r q := by
  have hpk : Keyed.pk { r with progress := q } = Keyed.pk { r with progress := p } := rfl
  exact congrArg (fun requests => { s with requests := requests }) (Table.put_put _ hpk)

theorem drop_reach (s : State) (r : InFlight) (p : Progress) :
    (s.reach r p).drop { r with progress := p } = s.drop r :=
  congrArg (fun requests => { s with requests := requests }) (Table.erase_put _ _)

theorem proceed_reach (s : State) (r : InFlight) (p : Progress) :
    (s.reach r p).proceed { r with progress := p } = s.proceed r := by
  unfold State.proceed
  rw [reach_reach, drop_reach]

theorem get?_reach (s : State) (r : InFlight) (p : Progress) :
    (s.reach r p).requests.get? (r.user.pk, r.number) = some { r with progress := p } := by
  show (s.requests.put _).get? _ = _
  rw [Table.get?_put]
  exact if_pos rfl

/-- A request that goes on by itself. -/
theorem exec_alone (n : Nat) (hget : s.requests.get? (r.user.pk, r.number) = some r) :
    exec (step env validators timeout) s
        (List.replicate (n + 1) (now, .advance r.user.pk r.number)) =
      exec (step env validators timeout) (s.advance r now)
        (List.replicate n (now, .advance r.user.pk r.number)) := by
  have hstep : step env validators timeout s (now, .advance r.user.pk r.number) =
      some (s.advance r now) := by
    show Option.map _ _ = _
    rw [hget, Option.map_some]
  rw [List.replicate_succ, exec_cons, hstep, Option.bind_some]

/-- **A check that nothing interrupts is the one of `PermissionService`.** -/
theorem check_uninterrupted (hget : s.requests.get? (r.user.pk, r.number) = some r)
    (hat : r.progress = .recognised) :
    ∃ n, exec (step env validators timeout) s
        (List.replicate n (now, .advance r.user.pk r.number)) =
      some (if hasPermission (s.tables.store s.accounts.db.bans) now (some r.user)
        AuthorizationViewSet.requiredPermission then s.proceed r else s.drop r) := by
  by_cases hgate : canAuthenticateNow s.accounts.db.bans now r.user = true
  swap
  · refine ⟨1, (exec_alone 0 hget).trans ?_⟩
    rw [State.advance, hat, hasPermission]
    simp only [Tables.store_bans, hgate]
    rfl
  have hgated : s.advance r now = s.reach r .gated := by
    rw [State.advance, hat]
    exact if_pos hgate
  have hsecond := get?_reach s r .gated
  cases hover : (s.tables.store s.accounts.db.bans).override? r.user.pk
      AuthorizationViewSet.requiredPermission with
  | some effect =>
      have hperm : hasPermission (s.tables.store s.accounts.db.bans) now (some r.user)
          AuthorizationViewSet.requiredPermission = decide (effect = .allow) := by
        rw [hasPermission]
        simp only [Tables.store_bans, hgate, hover]
        cases effect with
        | deny => rfl
        | allow => rfl
      rw [hperm]
      refine ⟨2, (exec_alone 1 hget).trans ?_⟩
      rw [hgated]
      refine (exec_alone (r := { r with progress := .gated }) 0 hsecond).trans ?_
      rw [State.advance, List.replicate_zero, exec_nil]
      dsimp only
      rw [show ((s.reach r .gated).tables.store (s.reach r .gated).accounts.db.bans).override?
        r.user.pk AuthorizationViewSet.requiredPermission = some effect from hover]
      cases effect with
      | deny => exact congrArg some (drop_reach s r _)
      | allow => exact congrArg some (proceed_reach s r _)
  | none =>
      have hnext : (s.reach r .gated).advance { r with progress := .gated } now =
          if r.user.isSuperuser then s.proceed r else s.reach r .undecided := by
        rw [State.advance]
        dsimp only
        rw [show ((s.reach r .gated).tables.store (s.reach r .gated).accounts.db.bans).override?
          r.user.pk AuthorizationViewSet.requiredPermission = none from hover]
        dsimp only
        rw [proceed_reach, reach_reach]
      have hperm : hasPermission (s.tables.store s.accounts.db.bans) now (some r.user)
          AuthorizationViewSet.requiredPermission =
            if r.user.isSuperuser then true else s.grants now r.user.pk := by
        rw [hasPermission]
        simp only [Tables.store_bans, hgate, hover]
        rfl
      rw [hperm]
      by_cases hsuper : r.user.isSuperuser = true
      · refine ⟨2, (exec_alone 1 hget).trans ?_⟩
        rw [hgated]
        refine (exec_alone (r := { r with progress := .gated }) 0 hsecond).trans ?_
        rw [hnext, if_pos hsuper, hsuper]
        rfl
      · refine ⟨3, (exec_alone 2 hget).trans ?_⟩
        rw [hgated]
        refine (exec_alone (r := { r with progress := .gated }) 1 hsecond).trans ?_
        rw [hnext, if_neg hsuper]
        refine (exec_alone (r := { r with progress := .undecided }) 0 (get?_reach s r _)).trans ?_
        rw [State.advance, List.replicate_zero, exec_nil]
        dsimp only
        rw [proceed_reach, drop_reach, if_neg hsuper]
        rfl

/-- **A permission is kept by whatever does not concern it.**  Take any interleaving of requests
to the authorization views, step by step, and of what happens to accounts.  As long as no write
stores, replaces or removes an override of the user for the permission, an assignment of theirs
to a role that has it, its link to a role they are assigned to, or the permission itself, the
tables give it after the run where they gave it before; roles may be edited and deleted.  Both
sides are asked about one row of the user, at one instant and with one table of bans: what a ban
or a change of status does to the answer is the gate's matter, not that of the tables. -/
theorem permission_kept {row : User} {es : List (Int × Event)}
    (hkept : Steps (step env validators timeout)
      (fun s e _ => ∀ w ∈ s.write? e.2, w.concerns s.tables.toRows row.pk code = false) s es)
    (hrun : exec (step env validators timeout) s es = some t) (bans : Table UserBan) (now : Int) :
    hasPermission (t.tables.store bans) now (some row) code =
      hasPermission (s.tables.store bans) now (some row) code := by
  have hstep : ∀ (s' : State) (e : Int × Event) (t' : State),
      hasPermission (s'.tables.store bans) now (some row) code =
        hasPermission (s.tables.store bans) now (some row) code →
      step env validators timeout s' e = some t' →
      (∀ w ∈ s'.write? e.2, w.concerns s'.tables.toRows row.pk code = false) →
      hasPermission (t'.tables.store bans) now (some row) code =
        hasPermission (s.tables.store bans) now (some row) code := by
    intro s' e t' hinv hstep hwrite
    rcases tables_step hstep with hsame | ⟨w, hw, hperform⟩
    · rw [hsame, hinv]
    · rw [hasPermission_of_agree (agree_of_perform hperform (hwrite w hw)), hinv]
  exact exec_of_inv hstep rfl hkept hrun

/-- A user in good standing. -/
def member (pk : UUID) (username : String) : User where
  pk := pk
  password := ""
  email := username ++ "@example.org"
  username := username
  status := .active

/-- Ada manages roles, Bob views users, and Eve is nobody. -/
def office : State where
  accounts.db.users := ⟨[member 1 "ada", member 2 "bob", member 3 "eve"], by decide⟩
  tables := {
    permissions := ⟨[⟨1, "roles.manage"⟩, ⟨2, "users.view"⟩], by decide⟩
    roles := ⟨[⟨11, "admin"⟩, ⟨12, "viewer"⟩], by decide⟩
    rolePermissions := ⟨[⟨21, 11, 1⟩, ⟨22, 12, 2⟩], by decide⟩
    userRoles := ⟨[⟨31, 1, 11, 0, none⟩, ⟨32, 2, 12, 0, none⟩], by decide⟩
    consistent := by decide +kernel }

/-- Each step of a request, at one time. -/
def request (now : Int) (user : UUID) (number : Nat) (action : Action) (steps : Nat) :
    List (Int × Event) :=
  (now, .recognise user number none action) :: List.replicate steps (now, .advance user number)

/-- Ada sets up a role for editors and renames that of the viewers; Eve tries to have it. -/
def reorganise : List (Int × Event) :=
  request 5 1 0 (.create (.role ⟨13, "editor"⟩)) 5 ++
    request 6 3 0 (.create (.userRole ⟨33, 3, 12, 0, none⟩)) 3 ++
    request 7 1 1 (.update 12 (.role (some "reader"))) 5 ++
    request 8 1 2 (.create (.userRole ⟨34, 1, 13, 0, none⟩)) 5

theorem permission_kept_reorganise : ∃ t, exec (step .plain .plain 3600) office reorganise = some t ∧
    hasPermission (t.tables.store ∅) 9 (some (member 2 "bob")) "users.view" =
      hasPermission (office.tables.store ∅) 9 (some (member 2 "bob")) "users.view" := by
  obtain ⟨t, ht⟩ := Option.isSome_iff_exists.mp
    (show (exec (step .plain .plain 3600) office reorganise).isSome = true by decide +kernel)
  exact ⟨t, ht, permission_kept (by decide +kernel) ht ∅ 9⟩

/-! ### Outsiders

Whoever is allowed has had the permission at some step of the check.  For a group to whom no
row gives it, no step can find it, whatever the others do meanwhile.
-/

/-- No row gives one of these users the permission to manage roles: no override, and no
assignment, whenever it is to be valid. -/
def Withheld (outside : UUID → Bool) (rows : Rows) : Prop :=
  (∀ override ∈ rows.overrides, outside override.user = true → override.effect = .allow →
    rows.codename? override.permission ≠ some AuthorizationViewSet.requiredPermission) ∧
  ∀ assignment ∈ rows.userRoles, outside assignment.user = true →
    ∀ link ∈ rows.rolePermissions, link.role = assignment.role →
      rows.codename? link.permission ≠ some AuthorizationViewSet.requiredPermission

instance (outside : UUID → Bool) (rows : Rows) : Decidable (Withheld outside rows) :=
  inferInstanceAs (Decidable (_ ∧ _))

structure Outside (outside : UUID → Bool) (s : State) : Prop where
  plain : ∀ row ∈ s.accounts.db.users, outside row.pk = true → row.isSuperuser = false
  withheld : Withheld outside s.tables.toRows
  requests : ∀ r ∈ s.requests, outside r.user.pk = true →
    r.user.isSuperuser = false ∧ r.progress.unadmitted = true

/-- The state without the requests of these users. -/
def State.inside (outside : UUID → Bool) (s : State) : State :=
  { s with requests := s.requests.select fun r => !outside r.user.pk }

/-- The event belongs to a request of one of these users. -/
def Event.isOf (outside : UUID → Bool) (e : Event) : Bool := e.user?.any outside

variable {outside : UUID → Bool}

/-- No account becomes a superuser's. -/
theorem plain_step {a a' : Letters.State} {e : Int × Letters.Event}
    (hplain : ∀ row ∈ a.db.users, outside row.pk = true → row.isSuperuser = false)
    (h : Letters.step env validators timeout a e = some a') :
    ∀ row ∈ a'.db.users, outside row.pk = true → row.isSuperuser = false := by
  intro row hrow houtside
  have hget : a'.db.users.get? row.pk = some row := Table.get?_of_mem hrow
  cases Letters.moves_step h with
  | acts hrows hnone htokens =>
      cases hold : a.db.users.get? row.pk with
      | none =>
          rw [hnone _ hold] at hget
          cases hget
      | some old =>
          obtain ⟨row', hget', -, hsuper⟩ := hrows _ old hold
          rw [hget, Option.some.injEq] at hget'
          have hpk : old.pk = row.pk := Table.pk_of_get? hold
          rw [hget', hsuper]
          exact hplain old (Table.mem_of_get? hold) (hpk ▸ houtside)
  | registers hnew husers hunverified hplain' =>
      dsimp only at hget
      rw [husers] at hget
      split at hget
      · cases hget
        exact hplain'
      · exact hplain row (Table.mem_of_get? hget) houtside
  | asks hrequests => exact hplain row hrow houtside
  | sends hr hwriting husers htokens => exact hplain row (husers ▸ hrow) houtside

theorem inside_reach (hinside : outside r.user.pk = false) (progress : Progress) :
    (s.reach r progress).inside outside = (s.inside outside).reach r progress := by
  unfold State.inside State.reach
  dsimp only
  rw [Table.select_put]
  rw [hinside, Bool.not_false]

theorem inside_drop : (s.drop r).inside outside = (s.inside outside).drop r := by
  unfold State.inside State.drop Table.erase
  dsimp only
  rw [Table.select_delete]

theorem inside_proceed (hinside : outside r.user.pk = false) :
    (s.proceed r).inside outside = (s.inside outside).proceed r := by
  unfold State.proceed
  split
  · exact inside_reach hinside _
  · exact inside_drop

/-- A request goes on as if there were no others. -/
theorem inside_advance (hinside : outside r.user.pk = false) :
    (s.advance r now).inside outside = (s.inside outside).advance r now := by
  unfold State.advance
  cases r.progress with
  | recognised =>
      simp only [apply_ite (State.inside outside), inside_reach hinside, inside_drop]
      rfl
  | gated =>
      have htables : (s.inside outside).tables = s.tables := rfl
      have haccounts : (s.inside outside).accounts = s.accounts := rfl
      simp only [htables, haccounts]
      split
      · exact inside_drop
      · exact inside_proceed hinside
      · simp only [apply_ite (State.inside outside), inside_proceed hinside, inside_reach hinside]
  | undecided =>
      simp only [apply_ite (State.inside outside), inside_proceed hinside, inside_drop]
      rfl
  | admitted =>
      have htables : (s.inside outside).tables = s.tables := rfl
      simp only [htables]
      split
      · exact inside_reach hinside _
      · exact inside_drop
  | loaded write =>
      have htables : (s.inside outside).tables = s.tables := rfl
      have haccounts : (s.inside outside).accounts = s.accounts := rfl
      simp only [htables, haccounts]
      split
      · rw [← inside_drop]
        rfl
      · exact inside_drop

theorem inside_reach_of_outside (houtside : outside r.user.pk = true)
    (progress : Progress) : (s.reach r progress).inside outside = s.inside outside := by
  unfold State.inside State.reach
  dsimp only
  rw [Table.select_put_of_not]
  · rw [houtside, Bool.not_true]
  · intro other _ hpk
    have hsame : other.user.pk = r.user.pk := congrArg Prod.fst hpk
    rw [hsame, houtside, Bool.not_true]

theorem inside_drop_of_outside (houtside : outside r.user.pk = true) :
    (s.drop r).inside outside = s.inside outside := by
  unfold State.inside State.drop Table.erase
  dsimp only
  rw [Table.select_delete_of_not]
  intro other _ hpk
  have hsame : other.user.pk = r.user.pk := congrArg Prod.fst (of_decide_eq_true hpk)
  rw [hsame, houtside, Bool.not_true]

/-! ### Their requests

So each of their requests ends in the check, and until it does it has written nothing.
-/

/-- What is withheld is not found in the overrides. -/
theorem override?_of_withheld {bans : Table UserBan} (h : Withheld outside tables.toRows)
    (houtside : outside user = true) :
    (tables.store bans).override? user AuthorizationViewSet.requiredPermission ≠ some .allow := by
  intro hallow
  obtain ⟨o, ho, rfl, hcode, heffect⟩ := override?_eq_some.mp hallow
  exact h.1 o ho houtside heffect hcode

/-- And it is not found in the assignments. -/
theorem grants_of_withheld (h : Withheld outside s.tables.toRows) (houtside : outside user = true) :
    s.grants now user = false := by
  rw [Bool.eq_false_iff]
  intro hgrants
  obtain ⟨a, ha, link, hlink, ⟨rfl, -⟩, hrole, hcode⟩ := grants_iff.mp hgrants
  exact h.2 a ha houtside link hlink hrole hcode

/-- A request of theirs gets no further than the check. -/
theorem advances_of_outside (h : Outside outside s) (hr : r ∈ s.requests)
    (houtside : outside r.user.pk = true) :
    (∃ progress : Progress, progress.unadmitted = true ∧ s.advance r now = s.reach r progress) ∨
      s.advance r now = s.drop r := by
  obtain ⟨hplain, hprogress⟩ := h.requests r hr houtside
  have hadvances := advances now s r
  generalize s.advance r now = t at hadvances ⊢
  cases hadvances with
  | passes hfrom hto => exact Or.inl ⟨_, hto, rfl⟩
  | admits hfrom hfound =>
      rcases hfound with hallow | hsuper | hgrants
      · exact absurd hallow (override?_of_withheld h.withheld houtside)
      · rw [hplain] at hsuper
        cases hsuper
      · rw [grants_of_withheld h.withheld houtside] at hgrants
        cases hgrants
  | loads hfrom =>
      rw [hfrom] at hprogress
      cases hprogress
  | writes hfrom hperform =>
      rw [hfrom] at hprogress
      cases hprogress
  | drops => exact Or.inr rfl

/-- A request that goes on is the only one to change, and accounts are not changed by it. -/
theorem advance_frame (now : Int) (s : State) (r : InFlight) :
    (s.advance r now).accounts = s.accounts ∧ ∀ other ∈ (s.advance r now).requests,
      other ∈ s.requests ∨ other.user = r.user := by
  have hreach : ∀ {progress : Progress}, ∀ other ∈ (s.reach r progress).requests,
      other ∈ s.requests ∨ other.user = r.user := by
    intro progress other hmem
    rcases Table.mem_put.mp hmem with rfl | ⟨hmem, -⟩
    · exact Or.inr rfl
    · exact Or.inl hmem
  have hdrop : ∀ other ∈ (s.drop r).requests, other ∈ s.requests ∨ other.user = r.user :=
    fun other hmem => Or.inl (Table.mem_erase.mp hmem).1
  have hadvances := advances now s r
  generalize s.advance r now = t at hadvances ⊢
  cases hadvances with
  | passes _ _ => exact ⟨rfl, hreach⟩
  | admits _ _ => exact ⟨rfl, hreach⟩
  | loads _ => exact ⟨rfl, hreach⟩
  | writes _ _ => exact ⟨rfl, hdrop⟩
  | drops => exact ⟨rfl, hdrop⟩

/-! ### Runs without them

The state without their requests is followed along the run.  A step of theirs changes nothing
in it, and a step of anybody else's is the same step there.
-/

theorem outside_step {e : Int × Event} (h : Outside outside s)
    (hs : step env validators timeout s e = some t)
    (hwithheld : e.2.isOf outside = false → Withheld outside t.tables.toRows) :
    Outside outside t := by
  obtain ⟨now, e⟩ := e
  cases e with
  | account event =>
      obtain ⟨accounts, haccounts, rfl⟩ := Option.map_eq_some_iff.mp hs
      exact ⟨plain_step h.plain haccounts, h.withheld, h.requests⟩
  | recognise user number authAPIKey action =>
      obtain ⟨row, hrow, hs⟩ := Option.bind_eq_some_iff.mp hs
      obtain ⟨requests, hinsert, hs⟩ := Option.bind_eq_some_iff.mp hs
      cases hs
      refine ⟨h.plain, h.withheld, fun r hr houtside => ?_⟩
      rcases (Table.mem_insert? hinsert).mp hr with hold | rfl
      · exact h.requests r hold houtside
      · exact ⟨h.plain row (Table.mem_of_get? hrow) houtside, rfl⟩
  | refuse user number =>
      obtain ⟨r, -, rfl⟩ := Option.map_eq_some_iff.mp hs
      exact ⟨h.plain, h.withheld, fun other hmem => h.requests other (Table.mem_erase.mp hmem).1⟩
  | advance user number =>
      obtain ⟨r, hget, rfl⟩ := Option.map_eq_some_iff.mp hs
      have hr := Table.mem_of_get? hget
      have hpk : r.user.pk = user := congrArg Prod.fst (Table.pk_of_get? hget)
      by_cases houtside : outside user = true
      · rcases advances_of_outside h hr (hpk ▸ houtside) with ⟨progress, hto, heq⟩ | heq
        · rw [heq]
          refine ⟨h.plain, h.withheld, fun other hmem hother => ?_⟩
          rcases Table.mem_put.mp hmem with rfl | ⟨hmem, -⟩
          · exact ⟨(h.requests r hr hother).1, hto⟩
          · exact h.requests other hmem hother
        · rw [heq]
          exact ⟨h.plain, h.withheld, fun other hmem => h.requests other (Table.mem_erase.mp hmem).1⟩
      · rw [Bool.not_eq_true] at houtside
        obtain ⟨haccounts, hrequests⟩ := advance_frame now s r
        refine ⟨haccounts ▸ h.plain, hwithheld houtside, fun other hmem hother => ?_⟩
        rcases hrequests other hmem with hold | hsame
        · exact h.requests other hold hother
        · rw [hsame, hpk, houtside] at hother
          cases hother

/-- To who looks at the others' requests alone, an outsider's step is none. -/
theorem inside_of_outside {e : Int × Event} (h : Outside outside s)
    (hs : step env validators timeout s e = some t) (hof : e.2.isOf outside = true) :
    t.inside outside = s.inside outside := by
  obtain ⟨now, e⟩ := e
  cases e with
  | account event => cases hof
  | recognise user number authAPIKey action =>
      obtain ⟨row, hrow, hs⟩ := Option.bind_eq_some_iff.mp hs
      obtain ⟨requests, hinsert, hs⟩ := Option.bind_eq_some_iff.mp hs
      cases hs
      have hpk : row.pk = user := Table.pk_of_get? hrow
      have hside : outside row.pk = true := hpk ▸ hof
      unfold State.inside
      dsimp only
      rw [Table.select_insert?_of_not hinsert]
      rw [hside, Bool.not_true]
  | refuse user number =>
      obtain ⟨r, hget, rfl⟩ := Option.map_eq_some_iff.mp hs
      have hpk : r.user.pk = user := congrArg Prod.fst (Table.pk_of_get? hget)
      exact inside_drop_of_outside (hpk ▸ hof)
  | advance user number =>
      obtain ⟨r, hget, rfl⟩ := Option.map_eq_some_iff.mp hs
      have hpk : r.user.pk = user := congrArg Prod.fst (Table.pk_of_get? hget)
      rcases advances_of_outside h (Table.mem_of_get? hget) (hpk ▸ hof) with
        ⟨progress, -, heq⟩ | heq
      · rw [heq]
        exact inside_reach_of_outside (hpk ▸ hof) progress
      · rw [heq]
        exact inside_drop_of_outside (hpk ▸ hof)

/-- And a step of another's request is the same step there. -/
theorem inside_step {e : Int × Event} (hs : step env validators timeout s e = some t)
    (hof : e.2.isOf outside = false) :
    step env validators timeout (s.inside outside) e = some (t.inside outside) := by
  obtain ⟨now, e⟩ := e
  have hget : ∀ {user : UUID} {number : Nat} {r : InFlight}, outside user = false →
      s.requests.get? (user, number) = some r →
      (s.inside outside).requests.get? (user, number) = some r ∧ outside r.user.pk = false := by
    intro user number r hside hget
    have hpk : r.user.pk = user := congrArg Prod.fst (Table.pk_of_get? hget)
    refine ⟨?_, hpk ▸ hside⟩
    show (s.requests.select _).get? _ = _
    rw [Table.get?_select, hget, Option.filter_some_pos]
    rw [hpk, hside, Bool.not_false]
  cases e with
  | account event =>
      obtain ⟨accounts, haccounts, rfl⟩ := Option.map_eq_some_iff.mp hs
      exact Option.map_eq_some_iff.mpr ⟨accounts, haccounts, rfl⟩
  | recognise user number authAPIKey action =>
      obtain ⟨row, hrow, hs⟩ := Option.bind_eq_some_iff.mp hs
      obtain ⟨requests, hinsert, hs⟩ := Option.bind_eq_some_iff.mp hs
      cases hs
      have hpk : row.pk = user := Table.pk_of_get? hrow
      have hside : outside row.pk = false := hpk ▸ hof
      refine Option.bind_eq_some_iff.mpr ⟨row, hrow, Option.bind_eq_some_iff.mpr ⟨_, ?_, rfl⟩⟩
      refine Table.select_insert? hinsert ?_
      rw [hside, Bool.not_false]
  | refuse user number =>
      obtain ⟨r, hr, rfl⟩ := Option.map_eq_some_iff.mp hs
      exact Option.map_eq_some_iff.mpr ⟨r, (hget hof hr).1, inside_drop.symm⟩
  | advance user number =>
      obtain ⟨r, hr, rfl⟩ := Option.map_eq_some_iff.mp hs
      obtain ⟨hr', hside⟩ := hget hof hr
      exact Option.map_eq_some_iff.mpr ⟨r, hr', (inside_advance hside).symm⟩

/-- **Who may not manage roles changes nothing.**  Take a group of users, none of them a
superuser, to whom no row gives `roles.manage`, and any interleaving of everybody's requests to
the authorization views with what happens to accounts, in which no step of a request of others
gives it to one of them.  Then the run without all the requests of the group ends with the same
tables, the same accounts and the same other requests. -/
theorem outsiders_change_nothing {es : List (Int × Event)}
    (hplain : ∀ row ∈ s.accounts.db.users, outside row.pk = true → row.isSuperuser = false)
    (hwithheld : Withheld outside s.tables.toRows) (hrequests : s.requests = ∅)
    (hsteps : Steps (step env validators timeout)
      (fun _ e t => e.2.isOf outside = false → Withheld outside t.tables.toRows) s es)
    (hrun : exec (step env validators timeout) s es = some t) :
    exec (step env validators timeout) s (es.filter fun e => !e.2.isOf outside) =
      some (t.inside outside) := by
  have hinv : Outside outside s := by
    refine ⟨hplain, hwithheld, fun r hr => ?_⟩
    rw [hrequests] at hr
    exact absurd hr (Table.not_mem_empty r)
  have hstart : s.inside outside = s := by
    unfold State.inside
    rw [hrequests, Table.select_empty, ← hrequests]
  have hseen : ∀ s e t, Outside outside s → step env validators timeout s e = some t →
      (e.2.isOf outside = false → Withheld outside t.tables.toRows) →
      (!e.2.isOf outside) = true →
      step env validators timeout (s.inside outside) e = some (t.inside outside) ∧
        (none : Option Unit) = none := by
    intro s e t _ hs _ hsees
    rw [Bool.not_eq_true'] at hsees
    exact ⟨inside_step hs hsees, rfl⟩
  have hunseen : ∀ s e t, Outside outside s → step env validators timeout s e = some t →
      (e.2.isOf outside = false → Withheld outside t.tables.toRows) →
      (!e.2.isOf outside) = false → t.inside outside = s.inside outside := by
    intro s e t h hs _ hsees
    rw [Bool.not_eq_false'] at hsees
    exact inside_of_outside h hs hsees
  have hproj := @exec_proj _ _ _ _ Unit _ (fun _ _ => none) (fun _ _ => none)
    (State.inside outside) (fun e => !e.2.isOf outside) _ _ (fun _ _ _ => outside_step) hseen
    hunseen _ _ _ hinv hsteps hrun
  rw [hstart] at hproj
  exact hproj.1

theorem outsiders_change_nothing_reorganise :
    ∃ t, exec (step .plain .plain 3600) office reorganise = some t ∧
      exec (step .plain .plain 3600) office
        (reorganise.filter fun e => !e.2.isOf fun user => user = 3) =
          some (t.inside fun user => user = 3) := by
  obtain ⟨t, ht⟩ := Option.isSome_iff_exists.mp
    (show (exec (step .plain .plain 3600) office reorganise).isSome = true by decide +kernel)
  exact ⟨t, ht, outsiders_change_nothing (by decide +kernel) (by decide +kernel) rfl
    (by decide +kernel) ht⟩

end DjangoFoundation.Authorization
