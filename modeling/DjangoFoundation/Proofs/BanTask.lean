/-
Whom `expire_temporary_bans` touches, and when a second run finds nothing to do.

The query for the users to ban joins the bans twice.  A user with one ban that has started
and run out, and another that has not run out, passes it without any ban in force; the
second loop lifts what the first has done, so the next run does it again.  Where the two
joins are met by a ban in force for every user who meets them, the task touches nobody
else and a second run finds nothing; and only there, since the user above makes every run
find something.

The number the task returns is followed too: a second run is to return zero, and to change
nothing.
-/
import DjangoFoundation.Proofs.Bans
import DjangoFoundation.Proofs.Passwords.Writes

namespace DjangoFoundation

open SessionService TokenService Lifecycle

variable {env : Environment} {now : Int} {db db' : Database}

/-! ### What the task comes to

The task returns how many accounts it has touched.  The count is kept beside the state and not
read, so the theorems about what the task does to users carry over.
-/

theorem foldl_liftCount (users : List User) (n : Nat) (db : Database) :
    users.foldl (liftCount now) (n, db) =
      (n + (users.filter fun user => !hasActiveBan db.bans now user.pk).length,
        users.foldl (lift now) db) := by
  induction users generalizing n db with
  | nil => rfl
  | cons user users ih =>
      rw [List.foldl_cons, List.foldl_cons, liftCount, lift]
      cases hactive : hasActiveBan db.bans now user.pk with
      | true =>
          rw [if_pos rfl, if_pos rfl, ih, List.filter_cons_of_neg (by simp [hactive])]
      | false =>
          rw [if_neg Bool.false_ne_true, if_neg Bool.false_ne_true, ih,
            List.filter_cons_of_pos (by simp [hactive]), List.length_cons, Nat.add_assoc,
            Nat.add_comm 1]
          rfl

/-- The number aside, it is the task. -/
theorem expireTemporaryBansCount_eq (h : expireTemporaryBans env now db = .ok db') :
    ∃ n, expireTemporaryBansCount env now db = .ok (n, db') ∧
      (db.users.rows.filter (activates now db)).length ≤ n := by
  unfold expireTemporaryBans at h
  unfold expireTemporaryBansCount
  obtain ⟨db₁, hfold, hrest⟩ := bind_eq_ok.mp h
  cases hrest
  simp only [hfold, bind, Except.bind, pure, Except.pure, foldl_liftCount]
  exact ⟨_, rfl, Nat.le_add_left _ _⟩

/-- Nobody to ban, and nobody whose bans are all over: nothing happens. -/
theorem expireTemporaryBansCount_idle
    (hban : ∀ user ∈ db.users, activates now db user = false)
    (hlift : ∀ user ∈ db.users, expires now db user = true →
      hasActiveBan db.bans now user.pk = true) :
    expireTemporaryBansCount env now db = .ok (0, db) := by
  have hnobody : db.users.rows.filter (activates now db) = [] := by
    rw [List.filter_eq_nil_iff]
    intro user huser
    simp [hban user huser]
  have hkept : ∀ users : List User, (∀ user ∈ users, hasActiveBan db.bans now user.pk = true) →
      users.foldl (liftCount now) (0, db) = (0, db) := by
    intro users husers
    induction users with
    | nil => rfl
    | cons user users ih =>
        rw [List.foldl_cons, liftCount, if_pos (husers user List.mem_cons_self)]
        exact ih fun user' huser' => husers user' (List.mem_cons_of_mem user huser')
  have hsecond := hkept (db.users.rows.filter (expires now db)) fun user huser =>
    hlift user (List.mem_filter.mp huser).1 (List.mem_filter.mp huser).2
  simp only [expireTemporaryBansCount, hnobody, List.foldlM_nil, pure, Except.pure, bind,
    Except.bind, hsecond, List.length_nil, Nat.add_zero]

/-! ### Whom the task touches

Touching somebody means more than a status: sessions and refresh tokens are revoked, and the
ban is put on record.  Each of these is of one user, and the loops only put them one after the
other.
-/

/-- The sessions and the refresh tokens of a user are as they were. -/
structure Spared (user : UUID) (db db' : Database) : Prop where
  sessions : ∀ hash row, row.user = user →
    (db'.userSessions.get? hash = some row ↔ db.userSessions.get? hash = some row)
  outstanding : db'.outstandingTokens = db.outstandingTokens
  tokens : ∀ token ∈ db.outstandingTokens, token.user = user →
    (db'.blacklistedTokens.get? token.jti).isNone = (db.blacklistedTokens.get? token.jti).isNone

/-- Bans taken hold of are put on record for some users only. -/
def Recorded (users : List UUID) (db db' : Database) : Prop :=
  ∃ added, db'.auditLogs = db.auditLogs ++ added ∧
    ∀ log ∈ added, log.action = "account.ban_activated" → ∃ user ∈ users, log.target = UUID.str user

theorem Spared.refl (user : UUID) (db : Database) : Spared user db db :=
  ⟨fun _ _ _ => Iff.rfl, rfl, fun _ _ _ => rfl⟩

theorem Recorded.refl (db : Database) : Recorded [] db db :=
  ⟨[], (List.append_nil _).symm, fun _ hlog => absurd hlog List.not_mem_nil⟩

theorem Spared.trans {user : UUID} {db₁ db₂ db₃ : Database} (h : Spared user db₁ db₂)
    (h' : Spared user db₂ db₃) : Spared user db₁ db₃ where
  sessions hash row huser := (h'.sessions hash row huser).trans (h.sessions hash row huser)
  outstanding := h'.outstanding.trans h.outstanding
  tokens token htoken huser :=
    (h'.tokens token (h.outstanding ▸ htoken) huser).trans (h.tokens token htoken huser)

theorem Recorded.trans {users users' : List UUID} {db₁ db₂ db₃ : Database}
    (h : Recorded users db₁ db₂) (h' : Recorded users' db₂ db₃) :
    Recorded (users ++ users') db₁ db₃ := by
  obtain ⟨added, hadded, hall⟩ := h
  obtain ⟨added', hadded', hall'⟩ := h'
  refine ⟨added ++ added', by rw [hadded', hadded, List.append_assoc], fun log hlog haction => ?_⟩
  rcases List.mem_append.mp hlog with hlog | hlog
  · obtain ⟨user, huser, htarget⟩ := hall log hlog haction
    exact ⟨user, List.mem_append_left _ huser, htarget⟩
  · obtain ⟨user, huser, htarget⟩ := hall' log hlog haction
    exact ⟨user, List.mem_append_right _ huser, htarget⟩

/-- Revoking puts revocations on record, and no ban. -/
theorem recorded_revokeAll {user : UUID} {actor : Option UUID} {sessionKey : Option String}
    {excludeCurrent : Bool}
    (h : revokeAll env now db user actor sessionKey excludeCurrent = .ok db') :
    Recorded [] db db' := by
  unfold revokeAll at h
  generalize selected env db user sessionKey excludeCurrent = rows at h
  induction rows generalizing db with
  | nil =>
      cases h
      exact .refl _
  | cons row rows ih =>
      rw [List.foldlM_cons] at h
      obtain ⟨db₁, hrevoke, hrest⟩ := bind_eq_ok.mp h
      have hone : Recorded [] db db₁ := by
        unfold revoke at hrevoke
        split at hrevoke
        · cases hrevoke
        · split at hrevoke
          · cases hrevoke
            exact .refl db
          · rename_i locked _ _
            cases hrevoke
            refine ⟨[{ action := "session.revoked", target := locked.identifier, actor := actor }],
              ?_, ?_⟩
            · unfold revokeLocked
              dsimp only
              split <;> rfl
            · intro log hlog haction
              rw [List.mem_singleton.mp hlog] at haction
              exact absurd haction (by simp)
      exact hone.trans (ih hrest)

theorem activate_eq_ok {other : User} (h : activate env now db other = .ok db') :
    ∃ db₁, revokeAll env now (setStatus now db other.pk .banned) other.pk none none false =
        .ok db₁ ∧
      db' = (revokeAllJwt db₁ other.pk).audit "account.ban_activated" (UUID.str other.pk) none := by
  unfold activate BanService.enforce at h
  obtain ⟨db₂, henforce, hrest⟩ := bind_eq_ok.mp h
  obtain ⟨db₁, hrevoke, hjwt⟩ := bind_eq_ok.mp henforce
  cases hrest
  cases hjwt
  exact ⟨db₁, hrevoke, rfl⟩

/-- A ban takes hold of one user.. -/
theorem spared_activate {user : UUID} {other : User} (hother : user ≠ other.pk)
    (h : activate env now db other = .ok db') : Spared user db db' := by
  obtain ⟨db₁, hrevoke, rfl⟩ := activate_eq_ok h
  obtain ⟨_, hok, hrevoked⟩ :=
    revokeAll_revoked env now (setStatus now db other.pk .banned) other.pk none none false
  rw [hrevoke] at hok
  cases hok
  have htokens := Passwords.sameTokens_revokeAll hrevoke
  have hselected : ∀ row ∈ selected env (setStatus now db other.pk .banned) other.pk none false,
      row.user ≠ user := fun row hrow huser => hother (huser.symm.trans (mem_selected.mp hrow).1.2.1)
  refine ⟨fun hash row huser => ?_, htokens.outstandingTokens, fun token htoken huser => ?_⟩
  · refine (iff_of_eq (congrArg (· = some row) (hrevoked.inventory hash))).trans ?_
    rw [Option.map_eq_some_iff]
    constructor
    · rintro ⟨r, hr, heq⟩
      by_cases hmem : r ∈ selected env (setStatus now db other.pk .banned) other.pk none false
      · rw [if_pos hmem] at heq
        have hsame : r.user = row.user := by rw [← heq]
        exact absurd (hsame.trans huser) (hselected r hmem)
      · rw [if_neg hmem] at heq
        exact heq ▸ hr
    · intro hr
      exact ⟨row, hr, if_neg fun hmem => hselected row hmem huser⟩
  · have hget : db₁.outstandingTokens.get? token.jti = some token := by
      rw [htokens.outstandingTokens]
      exact Table.get?_of_mem htoken
    have hblacklisted := Passwords.blacklisted_revokeAllJwt db₁ other.pk token.jti
    rw [htokens.blacklistedTokens] at hblacklisted
    refine Bool.eq_iff_iff.mpr ?_
    rw [Option.isNone_iff_eq_none, Option.isNone_iff_eq_none]
    refine hblacklisted.trans (and_iff_left fun token' hget' heq => ?_)
    rw [hget] at hget'
    cases hget'
    exact hother (huser.symm.trans heq)

/-- ..and is put on record for that one. -/
theorem recorded_activate {other : User} (h : activate env now db other = .ok db') :
    Recorded [other.pk] db db' := by
  obtain ⟨db₁, hrevoke, rfl⟩ := activate_eq_ok h
  obtain ⟨added, hadded, hall⟩ := recorded_revokeAll hrevoke
  refine ⟨added ++ [{
    action := "account.ban_activated", target := UUID.str other.pk, actor := none }], ?_, ?_⟩
  · show db₁.auditLogs ++ _ = _
    rw [hadded, List.append_assoc]
    rfl
  · intro log hlog haction
    rcases List.mem_append.mp hlog with hlog | hlog
    · obtain ⟨_, hnone, _⟩ := hall log hlog haction
      exact absurd hnone List.not_mem_nil
    · rw [List.mem_singleton.mp hlog]
      exact ⟨other.pk, List.mem_singleton_self _, rfl⟩

theorem spared_foldlM {user : UUID} {users : List User} (huser : user ∉ users.map User.pk)
    (h : users.foldlM (activate env now) db = .ok db') : Spared user db db' := by
  induction users generalizing db with
  | nil =>
      cases h
      exact .refl user _
  | cons other users ih =>
      rw [List.foldlM_cons] at h
      obtain ⟨db₁, hactivate, hrest⟩ := bind_eq_ok.mp h
      rw [List.map_cons, List.mem_cons, not_or] at huser
      exact (spared_activate huser.1 hactivate).trans (ih huser.2 hrest)

theorem recorded_foldlM {users : List User}
    (h : users.foldlM (activate env now) db = .ok db') : Recorded (users.map User.pk) db db' := by
  induction users generalizing db with
  | nil =>
      cases h
      exact .refl _
  | cons other users ih =>
      rw [List.foldlM_cons] at h
      obtain ⟨db₁, hactivate, hrest⟩ := bind_eq_ok.mp h
      exact (recorded_activate hactivate).trans (ih hrest)

/-- Lifting writes statuses. -/
theorem foldl_lift_spares (now : Int) (users : List User) (db : Database) :
    (∀ user, Spared user db (users.foldl (lift now) db)) ∧
      Recorded [] db (users.foldl (lift now) db) := by
  induction users generalizing db with
  | nil => exact ⟨fun user => .refl user db, .refl db⟩
  | cons other users ih =>
      have hone : (∀ user, Spared user db (lift now db other)) ∧
          Recorded [] db (lift now db other) := by
        unfold lift
        split
        · exact ⟨fun user => .refl user db, .refl db⟩
        · exact ⟨fun _ => ⟨fun _ _ _ => Iff.rfl, rfl, fun _ _ _ => rfl⟩, .refl db⟩
      obtain ⟨hspared, hrecorded⟩ := ih (lift now db other)
      exact ⟨fun user => (hone.1 user).trans (hspared user), hone.2.trans hrecorded⟩

/-- The task touches those its first query finds, and nobody else. -/
theorem expireTemporaryBans_spares (h : expireTemporaryBans env now db = .ok db') :
    (∀ user ∈ db.users, activates now db user = false → Spared user.pk db db') ∧
      Recorded ((db.users.rows.filter (activates now db)).map User.pk) db db' := by
  unfold expireTemporaryBans at h
  obtain ⟨db₁, hfold, hrest⟩ := bind_eq_ok.mp h
  cases hrest
  refine ⟨fun user huser hno => ?_, ?_⟩
  · have hmem : user.pk ∉ (db.users.rows.filter (activates now db)).map User.pk := by
      intro hmem
      have hyes := (Table.mem_pks_filter (Table.get?_of_mem huser) (activates now db)).mp hmem
      rw [hno] at hyes
      cases hyes
    exact (spared_foldlM hmem hfold).trans ((foldl_lift_spares now _ db₁).1 user.pk)
  · have hboth := (recorded_foldlM hfold).trans
      (foldl_lift_spares now (db₁.users.rows.filter (expires now db₁)) db₁).2
    rwa [List.append_nil] at hboth

/-! ### The two joins

Each chained `filter` over a relation makes a join of its own.  The query therefore asks for
some ban that has started and some ban that has not expired, and these need not be one.
-/

/-- Some ban of the user has started and is not revoked, and some ban of theirs has not
expired. -/
def Joined (now : Int) (db : Database) (user : UUID) : Prop :=
  (∃ ban ∈ db.bans, ban.user = user ∧ ban.started now = true) ∧
    ∃ ban ∈ db.bans, ban.user = user ∧ ban.unexpired now = true

/-- A ban in force that the status column does not show. -/
def due (now : Int) (db : Database) (user : User) : Bool :=
  user.status ≠ .banned && hasActiveBan db.bans now user.pk

theorem joined_of_active {user : UUID} (h : hasActiveBan db.bans now user = true) :
    Joined now db user := by
  obtain ⟨ban, hban, huser, hactive⟩ := hasActiveBan_iff.mp h
  obtain ⟨hstarted, hunexpired⟩ := Bool.and_eq_true_iff.mp hactive
  exact ⟨⟨ban, hban, huser, hstarted⟩, ban, hban, huser, hunexpired⟩

/-- A ban that has started and is not in force has run out. -/
theorem runOut_of_joined {user : UUID} (h : Joined now db user)
    (hnone : hasActiveBan db.bans now user = false) :
    ∃ ban ∈ db.bans, ban.user = user ∧ (∃ t, ban.expiresAt = some t ∧ t ≤ now) ∧
      ban.revokedAt = none := by
  obtain ⟨ban, hban, huser, hstarted⟩ := h.1
  refine ⟨ban, hban, huser, ?_, (started_iff.mp hstarted).1⟩
  have hover : ban.unexpired now = false := by
    by_contra hunexpired
    have hactive : hasActiveBan db.bans now user = true :=
      hasActiveBan_iff.mpr ⟨ban, hban, huser, by simpa [UserBan.isActive, hstarted] using hunexpired⟩
    rw [hnone] at hactive
    cases hactive
  unfold UserBan.unexpired at hover
  cases hexpires : ban.expiresAt with
  | none =>
      rw [hexpires] at hover
      cases hover
  | some t =>
      rw [hexpires] at hover
      exact ⟨t, rfl, by simpa using hover⟩

/-! ### The row of a user after the task

The two loops are read off together, for one row.  Whom the first loop bans without a ban in
force, the second lifts again, since it looks for those who are `BANNED` and have no active ban
left.
-/

section Swept

variable {user : User}

theorem activates_iff_joined :
    activates now db user = true ↔ user.status ≠ .banned ∧ Joined now db user.pk :=
  activates_iff

theorem swept_of_activates (h : activates now db user = true) :
    swept now db user =
      if expires now db (withStatus now .banned user) = true ∧
          hasActiveBan db.bans now user.pk = false then
        withStatus now .active (withStatus now .banned user)
      else withStatus now .banned user := by
  simp only [swept, h, if_true]
  rfl

theorem swept_of_not_activates (h : ¬activates now db user = true) :
    swept now db user =
      if expires now db user = true ∧ hasActiveBan db.bans now user.pk = false then
        withStatus now .active user
      else user := by
  simp only [swept, if_neg h]

theorem swept_pk (now : Int) (db : Database) (user : User) :
    (swept now db user).pk = user.pk := by
  by_cases h : activates now db user = true
  · rw [swept_of_activates h]
    split <;> rfl
  · rw [swept_of_not_activates h]
    split <;> rfl

/-- A ban in force is in the column afterwards. -/
theorem status_swept_of_active (h : hasActiveBan db.bans now user.pk = true) :
    (swept now db user).status = .banned := by
  by_cases hstatus : user.status = .banned
  · have hno : ¬activates now db user = true := fun hyes => (activates_iff_joined.mp hyes).1 hstatus
    rw [swept_of_not_activates hno, if_neg (by simp [h])]
    exact hstatus
  · have hyes := activates_iff_joined.mpr ⟨hstatus, joined_of_active h⟩
    rw [swept_of_activates hyes, if_neg (by simp [h])]
    rfl

/-- Without one, the second loop lifts whom the first has just banned. -/
theorem status_swept_of_joined (h : Joined now db user.pk)
    (hnone : hasActiveBan db.bans now user.pk = false) : (swept now db user).status = .active := by
  have hover := runOut_of_joined h hnone
  by_cases hstatus : user.status = .banned
  · have hno : ¬activates now db user = true := fun hyes => (activates_iff_joined.mp hyes).1 hstatus
    rw [swept_of_not_activates hno, if_pos ⟨expires_iff.mpr ⟨hstatus, hover⟩, hnone⟩]
    rfl
  · have hyes := activates_iff_joined.mpr ⟨hstatus, h⟩
    have hexpires : expires now db (withStatus now .banned user) = true :=
      expires_iff.mpr ⟨rfl, hover⟩
    rw [swept_of_activates hyes, if_pos ⟨hexpires, hnone⟩]
    rfl

/-- Whom nothing is to be done for is not `BANNED` afterwards, or has no ban that is over. -/
theorem expires_swept (h : ¬Joined now db user.pk)
    (hnone : hasActiveBan db.bans now user.pk = false) :
    expires now db (swept now db user) = false := by
  have hno : ¬activates now db user = true := fun hyes => h (activates_iff_joined.mp hyes).2
  by_contra hyes
  rw [Bool.not_eq_false] at hyes
  obtain ⟨hstatus, hover⟩ := expires_iff.mp hyes
  rw [swept_pk] at hover
  rw [swept_of_not_activates hno] at hstatus
  by_cases hexpires : expires now db user = true
  · rw [if_pos ⟨hexpires, hnone⟩] at hstatus
    cases hstatus
  · rw [if_neg fun hboth => hexpires hboth.1] at hstatus
    exact hexpires (expires_iff.mpr ⟨hstatus, hover⟩)

end Swept

/-! ### Two runs

What the second run finds depends on the bans alone, which the first does not change, and on
statuses, which are known by now.  A user who meets both joins by two different bans is banned
and lifted by each run.
-/

/-- One run touches only users with a ban in force that were not `BANNED`, and another right
after it changes nothing and returns zero. -/
def Synchronises (env : Environment) (now : Int) (db : Database) : Prop :=
  ∃ n db', expireTemporaryBansCount env now db = .ok (n, db') ∧
    (∀ user ∈ db.users, due now db user = false → Spared user.pk db db') ∧
    Recorded ((db.users.rows.filter (due now db)).map User.pk) db db' ∧
    expireTemporaryBansCount env now db' = .ok (0, db')

/-- Whoever meets both joins has one ban that does. -/
def JoinsAgree (now : Int) (db : Database) : Prop :=
  ∀ user ∈ db.users, Joined now db user.pk → hasActiveBan db.bans now user.pk = true

section Again

variable (hbans : db'.bans = db.bans)
  (hget : ∀ k, db'.users.get? k = (db.users.get? k).map (swept now db))

include hbans

theorem joined_swept_iff (user : UUID) : Joined now db' user ↔ Joined now db user := by
  rw [Joined, Joined, hbans]

theorem expires_of_bans : expires now db' = expires now db := by
  funext user
  rw [expires, expires, hbans]

include hget

/-- Where the joins agree, the second run finds nothing. -/
theorem idle_of_joinsAgree (hagree : JoinsAgree now db) :
    expireTemporaryBansCount env now db' = .ok (0, db') := by
  refine expireTemporaryBansCount_idle (fun user' huser' => ?_) fun user' huser' hover => ?_
  · obtain ⟨user, huser, _, rfl⟩ := mem_of_swept hget huser'
    by_contra hyes
    rw [Bool.not_eq_false] at hyes
    obtain ⟨hstatus, hj⟩ := activates_iff_joined.mp hyes
    rw [swept_pk, joined_swept_iff hbans] at hj
    exact hstatus (status_swept_of_active (hagree user huser hj))
  · obtain ⟨user, huser, _, rfl⟩ := mem_of_swept hget huser'
    rw [hbans, swept_pk]
    by_contra hnone
    rw [Bool.not_eq_true] at hnone
    have hnot : ¬Joined now db user.pk := by
      intro hj
      rw [hagree user huser hj] at hnone
      cases hnone
    rw [expires_of_bans hbans, expires_swept hnot hnone] at hover
    cases hover

/-- Where they do not, it bans the user again. -/
theorem not_idle_of_joined {user : User} (huser : user ∈ db.users) (hj : Joined now db user.pk)
    (hnone : hasActiveBan db.bans now user.pk = false) :
    expireTemporaryBansCount env now db' ≠ .ok (0, db') := by
  intro hidle
  have hrow : db'.users.get? user.pk = some (swept now db user) := by
    rw [hget, show db.users.get? user.pk = some user from Table.get?_of_mem huser]
    rfl
  have hagain : activates now db' (swept now db user) = true := by
    refine activates_iff_joined.mpr ⟨?_, ?_⟩
    · rw [status_swept_of_joined hj hnone]
      decide
    · rw [swept_pk, joined_swept_iff hbans]
      exact hj
  obtain ⟨db'', hok', _, _⟩ := expireTemporaryBans_ok env now db'
  obtain ⟨m, hm, hle⟩ := expireTemporaryBansCount_eq hok'
  rw [hm, Except.ok.injEq, Prod.mk.injEq] at hidle
  have hpos : 0 < (db'.users.rows.filter (activates now db')).length :=
    List.length_pos_of_mem (List.mem_filter.mpr ⟨Table.mem_of_get? hrow, hagain⟩)
  omega

end Again

/-- Where the joins agree, the first query finds whom it should. -/
theorem activates_eq_due (hagree : JoinsAgree now db) {user : User} (huser : user ∈ db.users) :
    activates now db user = due now db user := by
  refine Bool.eq_iff_iff.mpr (activates_iff_joined.trans ?_)
  rw [due, Bool.and_eq_true, decide_eq_true_eq]
  exact and_congr_right fun _ => ⟨hagree user huser, joined_of_active⟩

/-- **The task touches the right users, and a second run finds nothing,** exactly where nobody
has one ban that has started and another that has not expired without having a ban in
force. -/
theorem bans_synchronised_iff (env : Environment) (now : Int) (db : Database) :
    Synchronises env now db ↔ JoinsAgree now db := by
  obtain ⟨db', hok, hbans, hget⟩ := expireTemporaryBans_ok env now db
  obtain ⟨n, hcount, _⟩ := expireTemporaryBansCount_eq hok
  constructor
  · rintro ⟨n', db₁, hcount₁, _, _, hidle⟩ user huser hj
    rw [hcount, Except.ok.injEq, Prod.mk.injEq] at hcount₁
    rw [← hcount₁.2] at hidle
    by_contra hnone
    rw [Bool.not_eq_true] at hnone
    exact not_idle_of_joined hbans hget huser hj hnone hidle
  · intro hagree
    have hdue : ∀ user ∈ db.users, activates now db user = due now db user :=
      fun user huser => activates_eq_due hagree huser
    obtain ⟨hspared, hrecorded⟩ := expireTemporaryBans_spares hok
    refine ⟨n, db', hcount, fun user huser hno => ?_, ?_, idle_of_joinsAgree hbans hget hagree⟩
    · exact hspared user huser ((hdue user huser).trans hno)
    · rwa [List.filter_congr hdue] at hrecorded

/-- A ban that has run out, and one that is to come. -/
def betweenBans : Database where
  users := {ada}
  bans := ⟨[
    { pk := 1, user := 1, reason := "spam", bannedBy := none, startsAt := 0,
      expiresAt := some (seconds 5) },
    { pk := 2, user := 1, reason := "spam", bannedBy := none, startsAt := seconds 20,
      expiresAt := none }], by decide⟩
  userSessions := {
    { sessionKeyHash := "hash", user := 1, identifier := "laptop", encryptedSessionKey := "key",
      userAgent := "", lastActivityAt := 0 } }

/-- Between the two the task ends the session of a user who is not banned, each time it runs. -/
theorem between_bans_not_synchronised :
    ¬Synchronises .plain (seconds 10) betweenBans ∧
      ((expireTemporaryBansCount .plain (seconds 10) betweenBans).toOption.any fun r =>
        r.2.userSessions.rows.all fun row => row.revokedAt.isSome) = true := by
  refine ⟨?_, by decide +kernel⟩
  intro ⟨n, db', hfirst, _, _, hsecond⟩
  have htwo : ((expireTemporaryBansCount .plain (seconds 10) betweenBans).toOption.bind fun r =>
      (expireTemporaryBansCount .plain (seconds 10) r.2).toOption.map Prod.fst) = some 2 := by
    decide +kernel
  rw [hfirst] at htwo
  simp only [Except.toOption, Option.bind_some, hsecond, Option.map_some] at htwo
  cases htwo

end DjangoFoundation
