/-
What is left of an account's status when a ban is lifted.

The status column keeps one value, and a ban that takes hold writes over it.  Both ways
of lifting a ban write `ACTIVE` back, whatever stood there.  So the status of before is
found again where it was `ACTIVE`, or where no ban took hold of the account at all; and
in every other run the lifted account is `ACTIVE` with a status of before that was not.

A ban writes `BANNED` over the status it finds and keeps no note of it, and lifting writes
`ACTIVE`.  So what an account was before is lost unless it was that.
-/
import DjangoFoundation.Proofs.Lifecycle

namespace DjangoFoundation.Lifecycle

open BanService

variable {env : Environment} {now : Int} {db db' : Database} {s s' : State} {e : Int × Call}
  {u : UUID} {row : User}

/-! ### Steps

The status column has room for one value, so the invariant (`Held`) cannot speak of what it was
before the ban.  It only says what the column says since: `BANNED` as long as a ban that took
hold can still be lifted, `ACTIVE` afterwards.  Every call either brings a ban of `u` into the
column or is quiet for it.
-/

/-- The call brings a ban of `u` into the status column. -/
def TakesHold (u : UUID) (s : State) (e : Int × Call) : Prop :=
  match e.2 with
  | .ban pk user reason actor startsAt expiresAt _ =>
      banned? e.1 s.db (newBan e.1 pk user reason actor startsAt expiresAt) = some u
  | .expireTemporaryBans => ∃ row, s.db.users.get? u = some row ∧ activates e.1 s.db row = true
  | _ => False

/-- The calls of `BanService` and of the hourly task. -/
def Call.ofBans : Call → Bool
  | .ban .. | .revoke .. | .expireTemporaryBans => true
  | _ => false

/-- No other call changes the status of `u`. -/
def OthersKeepStatus (u : UUID) (s : State) (e : Int × Call) (s' : State) : Prop :=
  e.2.ofBans = false → ∀ row row', s.db.users.get? u = some row →
    s'.db.users.get? u = some row' → row'.status = row.status

/-- Some ban of `u` has started and was not revoked. -/
def StartedBan (u : UUID) (s : State) : Prop :=
  ∃ ban ∈ s.db.bans, ban.user = u ∧ ban.started s.clock = true

theorem started_iff {ban : UserBan} :
    ban.started now = true ↔ ban.revokedAt = none ∧ ban.startsAt ≤ now := by
  simp [UserBan.started]

theorem started_mono {ban : UserBan} {now' : Int} (h : ban.started now = true)
    (hle : now ≤ now') : ban.started now' = true := by
  rw [started_iff] at h ⊢
  exact ⟨h.1, by omega⟩

theorem StartedBan.kept (h : StartedBan u s) (hbans : s'.db.bans = s.db.bans)
    (hle : s.clock ≤ s'.clock) : StartedBan u s' := by
  obtain ⟨ban, hban, huser, hstarted⟩ := h
  exact ⟨ban, hbans ▸ hban, huser, started_mono hstarted hle⟩

theorem activates_iff : activates now db row = true ↔ row.status ≠ .banned ∧
    (∃ ban ∈ db.bans, ban.user = row.pk ∧ ban.started now = true) ∧
      ∃ ban ∈ db.bans, ban.user = row.pk ∧ ban.unexpired now = true := by
  simp [activates]

theorem expires_iff : expires now db row = true ↔ row.status = .banned ∧
    ∃ ban ∈ db.bans, ban.user = row.pk ∧ (∃ t, ban.expiresAt = some t ∧ t ≤ now) ∧
      ban.revokedAt = none := by
  simp [expires, Option.any_eq_true]

theorem startedBan_of_active (h : hasActiveBan s.db.bans s.clock u = true) : StartedBan u s := by
  obtain ⟨ban, hban, huser, hactive⟩ := hasActiveBan_iff.mp h
  rw [UserBan.isActive, Bool.and_eq_true] at hactive
  exact ⟨ban, hban, huser, hactive.1⟩

/-- While a ban stands behind the status column, the column says `BANNED`; once lifted,
`ACTIVE`. -/
def Held (u : UUID) (s : State) (row : User) : Prop :=
  row.status = .active ∨ row.status = .banned ∧ StartedBan u s

/-- A call that brings a ban into the status column.. -/
theorem takesHold_step (hrow : s.db.users.get? u = some row) (hs : step env s e = some s')
    (hhold : TakesHold u s e) :
    ∃ row', s'.db.users.get? u = some row' ∧ row'.isActive = row.isActive ∧ Held u s' row' := by
  obtain ⟨hle, hclock, hdb⟩ := step_eq_some hs
  obtain ⟨now, call⟩ := e
  cases call with
  | ban pk user reason actor startsAt expiresAt sessionKey =>
      have hbanned : banned? now s.db (newBan now pk user reason actor startsAt expiresAt) =
          some u := hhold
      obtain ⟨huser, hstart⟩ := banned?_eq_some hbanned
      obtain ⟨bans, _, hinsert, hrewrite⟩ := rewrites_ban env now s.db pk
        user reason actor startsAt expiresAt sessionKey
      have hbans := hinsert (by rw [hbanned]; simp)
      refine ⟨withStatus now .banned row, ?_, rfl, Or.inr ⟨rfl, ?_⟩⟩
      · rw [hdb, Call.run, hrewrite.row_eq hrow, if_pos hbanned]
      · refine ⟨newBan now pk user reason actor startsAt expiresAt, ?_, huser, ?_⟩
        · rw [hdb, Call.run, hrewrite.bans]
          exact (Table.mem_insert? hbans).mpr (Or.inr rfl)
        · rw [hclock]
          exact started_iff.mpr ⟨rfl, hstart⟩
  | expireTemporaryBans =>
      obtain ⟨row', hrow', hactivate⟩ := hhold
      rw [hrow, Option.some.injEq] at hrow'
      subst hrow'
      obtain ⟨_, hbans, hget⟩ := step_expireTemporaryBans hs
      refine ⟨swept now s.db row, by rw [hget, hrow, Option.map_some], ?_, ?_⟩
      · simp only [swept, hactivate, if_true]
        split <;> rfl
      · simp only [swept, hactivate, if_true]
        split
        · exact Or.inl rfl
        · refine Or.inr ⟨rfl, ?_⟩
          -- it was activated for a ban that has started
          obtain ⟨_, ⟨ban, hban, huser, hstarted⟩, _⟩ := activates_iff.mp hactivate
          have hpk : row.pk = u := Table.pk_of_get? hrow
          exact ⟨ban, hbans ▸ hban, huser.trans hpk, hclock ▸ hstarted⟩
  | _ => cases hhold

/-- ..and one that does not: it keeps the status, or lifts a ban, and a row that stays
`BANNED` keeps a ban behind it. -/
structure Quiet (u : UUID) (s s' : State) (row row' : User) : Prop where
  stored : s'.db.users.get? u = some row'
  isActive : row'.isActive = true → row.isActive = true
  status : row'.status = row.status ∨ row.status = .banned ∧ row'.status = .active
  startedBan : row'.status = .banned → StartedBan u s → StartedBan u s'

/-- Calls that rewrite at most one row and leave the bans alone. -/
private theorem quiet_of_rewrites {target : Option UUID} {f : User → User}
    (hrow : s.db.users.get? u = some row) (hrewrite : Rewrites target f s.db s'.db)
    (hle : s.clock ≤ s'.clock) (hactive : (f row).isActive = true → row.isActive = true)
    (hstatus : ∀ row', s'.db.users.get? u = some row' → row'.status = row.status) :
    ∃ row', Quiet u s s' row row' := by
  have hrow' := hrewrite.row_eq hrow
  refine ⟨_, hrow', ?_, Or.inl (hstatus _ hrow'), fun _ h => h.kept hrewrite.bans hle⟩
  split
  · exact hactive
  · exact id

private theorem quiet_ban {pk user : UUID} {reason : String} {actor : Option UUID}
    {startsAt expiresAt : Option Int} {sessionKey : Option String}
    (hrow : s.db.users.get? u = some row)
    (hs : step env s (now, .ban pk user reason actor startsAt expiresAt sessionKey) = some s')
    (hhold : banned? now s.db (newBan now pk user reason actor startsAt expiresAt) ≠ some u) :
    ∃ row', Quiet u s s' row row' := by
  obtain ⟨hle, hclock, hdb⟩ := step_eq_some hs
  obtain ⟨bans, hbans, _, hrewrite⟩ := rewrites_ban env now s.db pk user reason actor startsAt
    expiresAt sessionKey
  have hrow' := hrewrite.row_eq hrow
  rw [if_neg hhold] at hrow'
  refine ⟨row, hdb ▸ hrow', id, Or.inl rfl, ?_⟩
  -- the new row is one more
  intro _ ⟨ban, hban, huser, hstarted⟩
  refine ⟨ban, ?_, huser, started_mono hstarted (hclock ▸ hle)⟩
  rw [hdb, Call.run, hrewrite.bans]
  rcases hbans with rfl | hinsert
  · exact hban
  · exact (Table.mem_insert? hinsert).mpr (Or.inl hban)

/-- The bans of `u` stand while a ban of somebody else is revoked. -/
private theorem StartedBan.revoked {pk : UUID} {ban : UserBan} (h : StartedBan u s)
    (hban : s.db.bans.get? pk = some ban) (hne : ban.user ≠ u)
    (hbans : s'.db.bans = revokedBans now s.db pk) (hle : s.clock ≤ s'.clock) :
    StartedBan u s' := by
  obtain ⟨other, hother, huser, hstarted⟩ := h
  refine ⟨other, ?_, huser, started_mono hstarted hle⟩
  rw [hbans]
  refine Table.mem_modify.mpr (Or.inr ⟨hother, fun hpk => hne ?_⟩)
  have hsame : other = ban := Table.eq_of_pk_eq hother (Table.mem_of_get? hban)
    (hpk.trans (Table.pk_of_get? hban).symm)
  rw [← hsame, huser]

private theorem quiet_revoke {pk : UUID} {actor : Option UUID}
    (hrow : s.db.users.get? u = some row) (hs : step env s (now, .revoke pk actor) = some s') :
    ∃ row', Quiet u s s' row row' := by
  obtain ⟨hle, hclock, hdb⟩ := step_eq_some hs
  have hle' : s.clock ≤ s'.clock := hclock ▸ hle
  rcases rewrites_revoke now s.db pk actor with
    ⟨hsame, _⟩ | ⟨ban, user, hban, huser, hpk, hrewrite⟩
  · have hdb' : s'.db = s.db := hdb.trans hsame
    exact ⟨row, hdb' ▸ hrow, id, Or.inl rfl, fun _ h => h.kept (by rw [hdb']) hle'⟩
  · have hbans : s'.db.bans = revokedBans now s.db pk := by
      rw [hdb, Call.run, hrewrite.bans]
    have hrow' := hrewrite.row_eq hrow
    by_cases hu : user.pk = u
    · -- a ban of `u` is revoked, and lifted if no other is active
      subst hu
      rw [hrow, Option.some.injEq] at huser
      subst huser
      by_cases hlift : hasActiveBan (revokedBans now s.db pk) now row.pk = false ∧
          row.status = .banned
      · rw [if_pos hlift, if_pos rfl] at hrow'
        refine ⟨withStatus now .active row, hdb ▸ hrow', id, Or.inr ⟨hlift.2, rfl⟩, ?_⟩
        intro hbanned
        cases hbanned
      · rw [if_neg hlift, if_neg (by simp)] at hrow'
        refine ⟨row, hdb ▸ hrow', id, Or.inl rfl, fun hbanned _ => startedBan_of_active ?_⟩
        rw [hbans, hclock, ← Bool.not_eq_false]
        exact fun hnone => hlift ⟨hnone, hbanned⟩
    · have htarget : (if hasActiveBan (revokedBans now s.db pk) now user.pk = false ∧
          user.status = .banned then some user.pk else none) ≠ some u := by
        split
        · simpa using hu
        · simp
      rw [if_neg htarget] at hrow'
      exact ⟨row, hdb ▸ hrow', id, Or.inl rfl, fun _ h => h.revoked hban (hpk ▸ hu) hbans hle'⟩

private theorem quiet_expireTemporaryBans (hrow : s.db.users.get? u = some row)
    (hs : step env s (now, .expireTemporaryBans) = some s')
    (hactivate : activates now s.db row = false) : ∃ row', Quiet u s s' row row' := by
  obtain ⟨hle, hclock, _⟩ := step_eq_some hs
  obtain ⟨_, hbans, hget⟩ := step_expireTemporaryBans hs
  have hswept : swept now s.db row =
      if expires now s.db row ∧ hasActiveBan s.db.bans now row.pk = false then
        withStatus now .active row else row := by
    simp [swept, hactivate]
  refine ⟨swept now s.db row, by rw [hget, hrow, Option.map_some], ?_, ?_, ?_⟩
  · rw [hswept]
    split <;> exact id
  · rw [hswept]
    split
    · rename_i hlift
      exact Or.inr ⟨(expires_iff.mp hlift.1).1, rfl⟩
    · exact Or.inl rfl
  · exact fun _ h => h.kept hbans (hclock ▸ hle)

theorem quiet_step (hrow : s.db.users.get? u = some row) (hs : step env s e = some s')
    (hhold : ¬TakesHold u s e) (hothers : OthersKeepStatus u s e s') :
    ∃ row', Quiet u s s' row row' := by
  obtain ⟨hle, hclock, hdb⟩ := step_eq_some hs
  obtain ⟨now, call⟩ := e
  have hle' : s.clock ≤ s'.clock := hclock ▸ hle
  have hstatus : call.ofBans = false →
      ∀ row', s'.db.users.get? u = some row' → row'.status = row.status :=
    fun hcall row' hrow' => hothers hcall row row' hrow hrow'
  cases call with
  | issue user purpose ttl metadata raw =>
      have hrewrite := rewrites_issue env now s.db user purpose ttl metadata raw id
      exact quiet_of_rewrites hrow (hdb ▸ hrewrite) hle' id (hstatus rfl)
  | verifyEmail rawToken =>
      have hrewrite := rewrites_verifyEmail env now s.db rawToken
      refine quiet_of_rewrites hrow (hdb ▸ hrewrite) hle' ?_ (hstatus rfl)
      unfold verified
      split
      · exact id
      · exact id
  | resetPassword rawToken newPassword salt sessionKey =>
      have hrewrite := rewrites_resetPassword env now s.db rawToken newPassword salt sessionKey
      exact quiet_of_rewrites hrow (hdb ▸ hrewrite) hle' id (hstatus rfl)
  | confirmEmailChange rawToken sessionKey =>
      have hrewrite := rewrites_confirmEmailChange env now s.db rawToken sessionKey
      exact quiet_of_rewrites hrow (hdb ▸ hrewrite) hle' id (hstatus rfl)
  | confirmDeletion rawToken suffix sessionKey =>
      have hrewrite := rewrites_confirmDeletion env now s.db rawToken suffix sessionKey
      refine quiet_of_rewrites hrow (hdb ▸ hrewrite) hle' ?_ (hstatus rfl)
      intro hactive
      cases hactive
  | ban pk user reason actor startsAt expiresAt sessionKey =>
      exact quiet_ban hrow hs hhold
  | revoke pk actor => exact quiet_revoke hrow hs
  | expireTemporaryBans =>
      refine quiet_expireTemporaryBans hrow hs ?_
      rw [← Bool.not_eq_true]
      exact fun h => hhold ⟨row, hrow, h⟩

/-! ### Runs

A run falls into two phases.  Before the first ban takes hold the row has the status it started
with, and from then on it is as `Held` says.  Where the run ends with nothing left to lift, the
second phase leaves `ACTIVE`, whatever the first one was.
-/

/-- Nothing is left to lift: `u` has no active ban, and none that has expired waits for
the task. -/
structure Settled (u : UUID) (s : State) : Prop where
  free : hasActiveBan s.db.bans s.clock u = false
  lifted : ∀ row, s.db.users.get? u = some row → expires s.clock s.db row = false

/-- `u` has the status it had, and can authenticate only where nothing but a ban was in
the way. -/
def Restored (before : User) (s : State) : Prop :=
  ∃ row, s.db.users.get? before.pk = some row ∧ row.status = before.status ∧
    (canAuthenticateNow s.db.bans s.clock row = true →
      before.isActive = true ∧ before.status = .active)

/-- A row that is `BANNED` with nothing left to lift has no ban behind it. -/
theorem Settled.not_held (h : Settled u s) (hrow : s.db.users.get? u = some row)
    (hbanned : row.status = .banned) : ¬StartedBan u s := by
  rintro ⟨ban, hban, huser, hstarted⟩
  have hpk : row.pk = u := Table.pk_of_get? hrow
  have hrevoked := (started_iff.mp hstarted).1
  cases hexpiry : ban.expiresAt with
  | none =>
      have hactive : hasActiveBan s.db.bans s.clock u = true :=
        hasActiveBan_iff.mpr ⟨ban, hban, huser, by simp [UserBan.isActive, hstarted,
          UserBan.unexpired, hexpiry]⟩
      rw [h.free] at hactive
      cases hactive
  | some t =>
      by_cases ht : t ≤ s.clock
      · have hexpires : expires s.clock s.db row = true :=
          expires_iff.mpr ⟨hbanned, ban, hban, huser.trans hpk.symm, ⟨t, hexpiry, ht⟩, hrevoked⟩
        rw [h.lifted row hrow] at hexpires
        cases hexpires
      · have hactive : hasActiveBan s.db.bans s.clock u = true :=
          hasActiveBan_iff.mpr ⟨ban, hban, huser, by
            simp [UserBan.isActive, hstarted, UserBan.unexpired, hexpiry]
            omega⟩
        rw [h.free] at hactive
        cases hactive

/-- A run of the task settles whom it leaves without an active ban.. -/
theorem settled_of_task (hs : step env s (now, .expireTemporaryBans) = some s')
    (hfree : hasActiveBan s'.db.bans s'.clock u = false) : Settled u s' := by
  obtain ⟨hclock, hbans, hget⟩ := step_expireTemporaryBans hs
  refine ⟨hfree, fun row' hrow' => ?_⟩
  rw [hget, Option.map_eq_some_iff] at hrow'
  obtain ⟨row, hrow, rfl⟩ := hrow'
  have hpk : row.pk = u := Table.pk_of_get? hrow
  -- the row the second query looks at
  obtain ⟨row₁, hpk₁, hswept⟩ : ∃ row₁ : User, row₁.pk = u ∧ swept now s.db row =
      if expires now s.db row₁ ∧ hasActiveBan s.db.bans now row₁.pk = false then
        withStatus now .active row₁ else row₁ := by
    refine ⟨if activates now s.db row then withStatus now .banned row else row, ?_, rfl⟩
    split <;> exact hpk
  have hsame : expires now s'.db = expires now s.db := by
    funext user
    rw [expires, expires, hbans]
  rw [hbans, hclock] at hfree
  rw [hswept, hclock, hsame, hpk₁, ← Bool.not_eq_true]
  split
  · intro hexpires
    cases (expires_iff.mp hexpires).1
  · rename_i hno
    exact fun hexpires => hno ⟨hexpires, hfree⟩

/-- ..and so does the revocation of a ban. -/
theorem settled_of_revoke {pk : UUID} {actor : Option UUID} {ban : UserBan}
    (hs : step env s (now, .revoke pk actor) = some s') (hban : s.db.bans.get? pk = some ban)
    (hlive : ban.revokedAt = none) (hrow : s.db.users.get? ban.user = some row)
    (hfree : hasActiveBan s'.db.bans s'.clock ban.user = false) : Settled ban.user s' := by
  obtain ⟨_, hclock, hdb⟩ := step_eq_some hs
  rcases rewrites_revoke now s.db pk actor with
    ⟨_, hrevoked⟩ | ⟨ban', user, hban', huser, hpk, hrewrite⟩
  · exact absurd hlive (hrevoked ban row hban hrow)
  · rw [hban, Option.some.injEq] at hban'
    subst hban'
    rw [hpk, hrow, Option.some.injEq] at huser
    subst huser
    have hrow' := hrewrite.row_eq hrow
    have hbans : s'.db.bans = revokedBans now s.db pk := by
      rw [hdb, Call.run, hrewrite.bans]
    rw [hbans, hclock] at hfree
    refine ⟨by rw [hbans, hclock]; exact hfree, fun row' hstored => ?_⟩
    rw [hdb, Call.run, hrow', Option.some.injEq] at hstored
    subst hstored
    rw [← Bool.not_eq_true]
    intro hexpires
    have hbanned := (expires_iff.mp hexpires).1
    rw [hpk, hfree] at hbanned
    by_cases hstatus : row.status = .banned
    · simp [hstatus] at hbanned
    · simp [hstatus] at hbanned

/-- No ban has taken hold of the account. -/
def Untaken (before : User) (s : State) : Prop :=
  ∃ row, s.db.users.get? before.pk = some row ∧ row.status = before.status ∧
    (row.isActive = true → before.isActive = true)

/-- One has, whether or not it was lifted since. -/
def Taken (before : User) (s : State) : Prop :=
  ∃ row, s.db.users.get? before.pk = some row ∧ (row.isActive = true → before.isActive = true) ∧
    Held before.pk s row

/-- The first ban to take hold is where a run leaves the one phase for the other. -/
theorem Untaken.next {before : User} (h : Untaken before s) (hstatus : before.status ≠ .banned)
    (hs : step env s e = some s') (hothers : OthersKeepStatus before.pk s e s') :
    (¬TakesHold before.pk s e → Untaken before s') ∧
      (¬¬TakesHold before.pk s e → Taken before s') := by
  obtain ⟨row, hrow, hsame, hactive⟩ := h
  constructor
  · intro hhold
    obtain ⟨row', hquiet⟩ := quiet_step hrow hs hhold hothers
    refine ⟨row', hquiet.stored, ?_, fun h => hactive (hquiet.isActive h)⟩
    rcases hquiet.status with hkept | ⟨hbanned, _⟩
    · exact hkept.trans hsame
    · exact absurd (hsame ▸ hbanned) hstatus
  · intro hhold
    obtain ⟨row', hrow', hactive', hheld⟩ := takesHold_step hrow hs (not_not.mp hhold)
    exact ⟨row', hrow', fun h => hactive (hactive' ▸ h), hheld⟩

theorem Taken.next {before : User} (h : Taken before s) (hs : step env s e = some s')
    (hothers : OthersKeepStatus before.pk s e s') : Taken before s' := by
  obtain ⟨row, hrow, hactive, hheld⟩ := h
  by_cases hhold : TakesHold before.pk s e
  · obtain ⟨row', hrow', hactive', hheld'⟩ := takesHold_step hrow hs hhold
    exact ⟨row', hrow', fun h => hactive (hactive' ▸ h), hheld'⟩
  · obtain ⟨row', hquiet⟩ := quiet_step hrow hs hhold hothers
    refine ⟨row', hquiet.stored, fun h => hactive (hquiet.isActive h), ?_⟩
    rcases hquiet.status with hkept | ⟨_, hlifted⟩
    · rcases hheld with hsame | ⟨hbanned, hban⟩
      · exact Or.inl (hkept.trans hsame)
      · exact Or.inr ⟨hkept.trans hbanned, hquiet.startedBan (hkept.trans hbanned) hban⟩
    · exact Or.inl hlifted

/-- The status of before is enough for the rest of it. -/
private theorem restored_of_status {before row : User}
    (hrow : s.db.users.get? before.pk = some row) (hsame : row.status = before.status)
    (hactive : row.isActive = true → before.isActive = true) : Restored before s := by
  refine ⟨row, hrow, hsame, fun hcan => ?_⟩
  obtain ⟨hisActive, hstatus, _⟩ := canAuthenticateNow_iff.mp hcan
  exact ⟨hactive hisActive, hsame ▸ hstatus⟩

/-- **Lifting restores the status exactly where it was `ACTIVE` or never taken.** -/
theorem restored_iff {before : User} (es : List (Int × Call)) {t : State}
    (hrow : s.db.users.get? before.pk = some before) (hstatus : before.status ≠ .banned)
    (hothers : Run.Steps (step env) (OthersKeepStatus before.pk) s es)
    (hrun : Run.exec (step env) s es = some t) (hsettled : Settled before.pk t) :
    Restored before t ↔ before.status = .active ∨
      Run.Steps (step env) (fun s e _ => ¬TakesHold before.pk s e) s es := by
  have hphases := Run.exec_phases (R := fun s e _ => ¬TakesHold before.pk s e)
    (fun _ _ _ h hs ho => Untaken.next h hstatus hs ho) (fun _ _ _ h hs ho => Taken.next h hs ho)
    (show Untaken before s from ⟨before, hrow, rfl, id⟩) hothers hrun
  obtain ⟨huntaken, htaken⟩ := hphases
  by_cases hquiet : Run.Steps (step env) (fun s e _ => ¬TakesHold before.pk s e) s es
  · obtain ⟨row, hrow', hsame, hactive⟩ := huntaken hquiet
    exact iff_of_true (restored_of_status hrow' hsame hactive) (Or.inr hquiet)
  · obtain ⟨row, hrow', hactive, hheld⟩ := htaken hquiet
    have hlifted : row.status = .active := by
      rcases hheld with hlifted | ⟨hbanned, hban⟩
      · exact hlifted
      · exact absurd hban (hsettled.not_held hrow' hbanned)
    constructor
    · rintro ⟨row', hrow'', hsame, _⟩
      rw [hrow', Option.some.injEq] at hrow''
      exact Or.inl (hsame ▸ hrow'' ▸ hlifted)
    · rintro (hbefore | hquiet')
      · exact restored_of_status hrow' (hlifted.trans hbefore.symm) hactive
      · exact absurd hquiet' hquiet

/-- Registered, the address not verified yet. -/
def unverified : User := { ada with status := .pending, emailVerifiedAt := none }

def oneUnverified : State where
  clock := 0
  db := { users := ⟨[unverified], by decide⟩ }

/-- A ban without end, taken back a second later. -/
def revokedRun : List (Int × Call) :=
  [(0, .ban 1 1 "spam" none none none none), (seconds 1, .revoke 1 none)]

private theorem revokedRun_othersKeepStatus :
    Run.Steps (step .plain) (OthersKeepStatus 1) oneUnverified revokedRun := by
  intro s _
  refine ⟨fun h => Bool.noConfusion h, fun s' _ => ⟨fun h => Bool.noConfusion h, trivial⟩⟩

private theorem revokedRun_end :
    ∃ t, Run.exec (step .plain) oneUnverified revokedRun = some t ∧ Settled 1 t ∧
      (t.db.users.get? 1).map (·.status) = some .active := by
  have hrun : (Run.exec (step .plain) oneUnverified revokedRun).map (fun t =>
      ((t.db.users.get? 1).map (·.status), hasActiveBan t.db.bans t.clock 1)) =
        some (some .active, false) := by decide
  obtain ⟨t, ht, hobs⟩ := Option.map_eq_some_iff.mp hrun
  rw [Prod.mk.injEq] at hobs
  refine ⟨t, ht, ⟨hobs.2, fun row hrow => ?_⟩, hobs.1⟩
  rw [hrow, Option.map_some, Option.some.injEq] at hobs
  simp [expires, hobs.1]

theorem restored_iff_revokedRun :
    ∃ t, Run.exec (step .plain) oneUnverified revokedRun = some t ∧
      (Restored unverified t ↔ unverified.status = .active ∨
        Run.Steps (step .plain) (fun s e _ => ¬TakesHold 1 s e) oneUnverified revokedRun) := by
  obtain ⟨t, ht, hsettled, _⟩ := revokedRun_end
  exact ⟨t, ht, restored_iff revokedRun (by decide) (by decide) revokedRun_othersKeepStatus ht
    hsettled⟩

/-- The ban over, the unverified account is active, and can authenticate. -/
theorem revoked_ban_activates_unverified :
    oneUnverified.db.users.get? 1 = some unverified ∧ unverified.status = .pending ∧
      Run.Steps (step .plain) (OthersKeepStatus 1) oneUnverified revokedRun ∧
      ∃ t, Run.exec (step .plain) oneUnverified revokedRun = some t ∧ Settled 1 t ∧
        ¬Restored unverified t := by
  obtain ⟨t, ht, hsettled, hactive⟩ := revokedRun_end
  refine ⟨by decide, by decide, revokedRun_othersKeepStatus, t, ht, hsettled, ?_⟩
  rintro ⟨row, hrow, hsame, _⟩
  rw [show unverified.pk = 1 from rfl] at hrow
  rw [hrow, Option.map_some, hsame] at hactive
  cases hactive

end DjangoFoundation.Lifecycle
