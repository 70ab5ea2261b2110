/-
What can still happen to a deleted account.

Deletion clears a row and leaves everything that pointed at it: tokens issued before,
scheduled bans.  None of the operations those lead to looks at the status before it
writes, and each writes a column deletion had cleared.  So a deleted account stays one
exactly as long as none of them reaches its row, which is `staysDeleted_iff`; the
operations that do no harm, and a second deletion among them, need no condition.
-/
import DjangoFoundation.Proofs.Lifecycle

namespace DjangoFoundation.Lifecycle

open AccountService BanService TokenService

variable {env : Environment} {now : Int} {db db' : Database} {u : UUID} {row : User}

/-! ### Deleted accounts

`Gone` names the columns deletion clears and nothing else, so that a second deletion, a ban
that does not take hold, or a change of bookkeeping columns leaves it true.
-/

/-- A row as deletion leaves it. -/
structure Gone (row : User) : Prop where
  status : row.status = .deleted
  email : row.email = pseudonymAddress row.pk
  username : row.username = pseudonym row.pk
  unverified : row.emailVerifiedAt = none
  unusable : usablePassword row.password = false

/-- The row of `u` is there, as deletion leaves it. -/
def Deleted (u : UUID) (db : Database) : Prop :=
  ∃ row, db.users.get? u = some row ∧ Gone row

theorem gone_pseudonymised (now : Int) (user : User) (suffix : String) :
    Gone (pseudonymised now user suffix) where
  status := rfl
  email := rfl
  username := rfl
  unverified := rfl
  unusable := usablePassword_unusablePassword suffix

theorem not_gone_verified (h : Gone row) : ¬Gone (verified now row) := by
  intro hgone
  have hverified : (verified now row).emailVerifiedAt = some now := by
    simp [verified, h.unverified]
  rw [hgone.unverified] at hverified
  cases hverified

theorem not_gone_withStatus {status : AccountStatus} (h : status ≠ .deleted) :
    ¬Gone (withStatus now status row) :=
  fun hgone => h hgone.status

theorem deleted_iff (hrow : db.users.get? u = some row) : Deleted u db ↔ Gone row := by
  constructor
  · intro ⟨row', hrow', hgone⟩
    rw [hrow, Option.some.injEq] at hrow'
    exact hrow' ▸ hgone
  · intro hgone
    exact ⟨row, hrow, hgone⟩

/-- A call whose writing to the row undoes the deletion must not reach it.. -/
private theorem deleted_iff_of_rewrites {target : Option UUID} {f : User → User}
    (h : Rewrites target f db db') (hrow : db.users.get? u = some row) (hgone : Gone row)
    (hf : ¬Gone (f row)) : Deleted u db' ↔ ¬target = some u := by
  rw [deleted_iff (h.row_eq hrow)]
  by_cases ht : target = some u
  · rw [if_pos ht]
    exact iff_of_false hf (fun hn => hn ht)
  · rw [if_neg ht]
    exact iff_of_true hgone ht

/-- ..and one whose writing does not may. -/
private theorem deleted_of_rewrites {target : Option UUID} {f : User → User}
    (h : Rewrites target f db db') (hrow : db.users.get? u = some row) (hgone : Gone row)
    (hf : target = some u → Gone (f row)) : Deleted u db' := by
  refine (deleted_iff (h.row_eq hrow)).mpr ?_
  by_cases ht : target = some u
  · rw [if_pos ht]
    exact hf ht
  · rw [if_neg ht]
    exact hgone

/-! ### Steps

Of the calls there are, four write one of those columns: the three confirmations by a token
that was issued before, and a ban that takes hold, by itself or through the task.  None of them
asks whether the account is deleted.
-/

/-- The call is accepted for `u` and writes over what deletion left: a token of `u` still
good to verify an address, set a password or change an address, or a ban of `u` that
takes hold. -/
def Revives (env : Environment) (u : UUID) (s : State) (e : Int × Call) : Prop :=
  match e.2 with
  | .verifyEmail rawToken => verification? env e.1 s.db rawToken = some u
  | .resetPassword rawToken newPassword _ _ =>
      passwordReset? env e.1 s.db rawToken newPassword = some u
  | .confirmEmailChange rawToken _ => (emailChange? env e.1 s.db rawToken).map (·.1) = some u
  | .ban pk user reason actor startsAt expiresAt _ =>
      banned? e.1 s.db (newBan e.1 pk user reason actor startsAt expiresAt) = some u
  | .expireTemporaryBans => ∃ row, s.db.users.get? u = some row ∧ activates e.1 s.db row = true
  | .issue .. | .confirmDeletion .. | .revoke .. => False

/-- The task leaves a deleted account alone unless it activates a ban of it. -/
theorem gone_swept_iff (hgone : Gone row) :
    Gone (swept now db row) ↔ activates now db row = false := by
  unfold swept
  by_cases hactivate : activates now db row
  · -- once banned, whether lifted again or not, it is not deleted
    rw [if_pos hactivate]
    refine iff_of_false ?_ (by simp [hactivate])
    dsimp only
    split
    · exact not_gone_withStatus (by simp)
    · exact not_gone_withStatus (by simp)
  · have hexpire : expires now db row = false := by
      simp [expires, hgone.status]
    rw [if_neg hactivate]
    dsimp only
    rw [if_neg (by simp [hexpire])]
    exact iff_of_true hgone (by simpa using hactivate)

theorem deleted_step_iff {s s' : State} {e : Int × Call} (hdel : Deleted u s.db)
    (hs : step env s e = some s') : Deleted u s'.db ↔ ¬Revives env u s e := by
  obtain ⟨row, hrow, hgone⟩ := hdel
  obtain ⟨_, _, hdb⟩ := step_eq_some hs
  obtain ⟨now, call⟩ := e
  cases call with
  | issue user purpose ttl metadata raw =>
      have hrewrite := rewrites_issue env now s.db user purpose ttl metadata raw id
      exact iff_of_true (deleted_of_rewrites (hdb ▸ hrewrite) hrow hgone (by simp)) id
  | verifyEmail rawToken =>
      have hrewrite := rewrites_verifyEmail env now s.db rawToken
      exact deleted_iff_of_rewrites (hdb ▸ hrewrite) hrow hgone (not_gone_verified hgone)
  | resetPassword rawToken newPassword salt sessionKey =>
      have hrewrite := rewrites_resetPassword env now s.db rawToken newPassword salt sessionKey
      refine deleted_iff_of_rewrites (hdb ▸ hrewrite) hrow hgone ?_
      intro hreset
      have husable := env.keyring.usablePassword_makePassword salt newPassword
      rw [hreset.unusable] at husable
      cases husable
  | confirmEmailChange rawToken sessionKey =>
      have hrewrite := rewrites_confirmEmailChange env now s.db rawToken sessionKey
      refine deleted_iff_of_rewrites (hdb ▸ hrewrite) hrow hgone ?_
      intro hchange
      cases hchange.unverified
  | confirmDeletion rawToken suffix sessionKey =>
      have hrewrite := rewrites_confirmDeletion env now s.db rawToken suffix sessionKey
      refine iff_of_true (deleted_of_rewrites (hdb ▸ hrewrite) hrow hgone ?_) id
      exact fun _ => gone_pseudonymised now row suffix
  | ban pk user reason actor startsAt expiresAt sessionKey =>
      obtain ⟨bans, _, _, hrewrite⟩ := rewrites_ban env now s.db pk user reason actor startsAt
        expiresAt sessionKey
      have hrewrite' : Rewrites _ _ { s.db with bans := bans } s'.db := hdb ▸ hrewrite
      exact deleted_iff_of_rewrites hrewrite' hrow hgone (not_gone_withStatus (by simp))
  | revoke pk actor =>
      refine iff_of_true ?_ id
      rcases rewrites_revoke now s.db pk actor with
        ⟨hsame, _⟩ | ⟨ban, user, _, huser, _, hrewrite⟩
      · have hdb' : s'.db = s.db := hdb.trans hsame
        exact ⟨row, hdb' ▸ hrow, hgone⟩
      · have hrewrite' : Rewrites _ _ { s.db with bans := _ } s'.db := hdb ▸ hrewrite
        refine deleted_of_rewrites hrewrite' hrow hgone ?_
        -- it writes to banned rows alone
        intro ht
        split at ht
        · rename_i hlift
          cases ht
          rw [hrow, Option.some.injEq] at huser
          rw [← huser, hgone.status] at hlift
          cases hlift.2
        · cases ht
  | expireTemporaryBans =>
      obtain ⟨_, _, hget⟩ := step_expireTemporaryBans hs
      have hrow' : s'.db.users.get? u = some (swept now s.db row) := by
        rw [hget, hrow, Option.map_some]
      refine (deleted_iff hrow').trans ((gone_swept_iff hgone).trans ?_)
      constructor
      · intro hno ⟨row', hrow'', hactivate⟩
        rw [hrow, Option.some.injEq] at hrow''
        rw [← hrow'', hno] at hactivate
        cases hactivate
      · intro hno
        rw [← Bool.not_eq_true]
        exact fun hactivate => hno ⟨row, hrow, hactivate⟩

/-! ### Runs

Both directions come from the step.  A run in which the account stays deleted has no reviving
step, and it is found out at the first one: the row is not as deletion left it right after.
-/

/-- **A deleted account stays deleted exactly in the runs that do not revive it.** -/
theorem staysDeleted_iff {rawToken suffix : String} {sessionKey : Option String}
    {token : OneTimeToken} (htoken : usable? env now db rawToken .accountDeletion = some token)
    (hcommit : confirmDeletion env now db rawToken suffix sessionKey = .ok db')
    (es : List (Int × Call)) :
    Run.Always (step env) (fun s => Deleted token.user s.db) ⟨now, db'⟩ es ↔
      Run.Steps (step env) (fun s e _ => ¬Revives env token.user s e) ⟨now, db'⟩ es := by
  have hstart : Deleted token.user db' := by
    rcases confirmDeletion_cases env now db rawToken suffix sessionKey
      with ⟨_, e, herr⟩ | ⟨db'', hsome, hok, hrewrite⟩
    · rw [hcommit] at herr
      cases herr
    · rw [hcommit] at hok
      cases hok
      obtain ⟨u, hu⟩ := Option.ne_none_iff_exists'.mp hsome
      obtain ⟨token', row, htoken', huser, hrow⟩ := deletion?_eq_some hu
      rw [htoken, Option.some.injEq] at htoken'
      rw [htoken', huser]
      refine ⟨_, hrewrite.row_eq hrow, ?_⟩
      rw [if_pos hu]
      exact gone_pseudonymised now row suffix
  refine (and_iff_right hstart).trans ?_
  have hstep : ∀ s e s', Deleted token.user s.db → step env s e = some s' →
      (Deleted token.user s'.db ↔ ¬Revives env token.user s e) :=
    fun _ _ _ hdel hs => deleted_step_iff hdel hs
  exact Run.steps_iff_of_inv hstep (fun _ _ _ _ _ h => h) hstart es

/-- A user who asked for another address, and for the deletion of the account. -/
def departing : Database where
  users := {ada}
  oneTimeTokens := ⟨[⟨"c", 1, .emailChange, [("new_email", "ada@example.net")], 0, 10, none⟩,
    ⟨"d", 1, .accountDeletion, [], 0, 10, none⟩], by decide⟩

theorem staysDeleted_iff_departing :
    ∃ db', confirmDeletion .plain 1 departing "d" "x" none = .ok db' ∧
      (Run.Always (step .plain) (fun s => Deleted 1 s.db) ⟨1, db'⟩
          [(2, .confirmEmailChange "c" none)] ↔
        Run.Steps (step .plain) (fun s e _ => ¬Revives .plain 1 s e) ⟨1, db'⟩
          [(2, .confirmEmailChange "c" none)]) := by
  have htoken : usable? .plain 1 departing "d" .accountDeletion =
      some ⟨"d", 1, .accountDeletion, [], 0, 10, none⟩ := by decide
  rcases confirmDeletion_cases .plain 1 departing "d" "x" none with
    ⟨hnone, _⟩ | ⟨db', _, hok, _⟩
  · have hsome : deletion? .plain 1 departing "d" ≠ none := by decide
    exact absurd hnone hsome
  · exact ⟨db', hok, staysDeleted_iff htoken hok _⟩

/-- The confirmation of the other address, sent before, is accepted after. -/
theorem deleted_account_regains_address :
    ∃ db', confirmDeletion .plain 1 departing "d" "x" none = .ok db' ∧
      ¬Run.Always (step .plain) (fun s => Deleted 1 s.db) ⟨1, db'⟩
        [(2, .confirmEmailChange "c" none)] := by
  have hrun : ((confirmDeletion .plain 1 departing "d" "x" none).toOption.bind fun db' =>
      (Run.exec (step .plain) ⟨1, db'⟩ [(2, .confirmEmailChange "c" none)]).map fun s =>
        (s.db.users.get? 1).map (·.emailVerifiedAt)) = some (some (some 2)) := by decide
  cases hdel : confirmDeletion .plain 1 departing "d" "x" none with
  | error e =>
      rw [hdel] at hrun
      cases hrun
  | ok db' =>
      simp only [hdel, Except.toOption, Option.bind_some, Option.map_eq_some_iff] at hrun
      obtain ⟨s, hs, row', hget', hverified⟩ := hrun
      refine ⟨db', rfl, fun halways => ?_⟩
      obtain ⟨row, hget, hgone⟩ := halways.exec hs
      rw [hget, Option.some.injEq] at hget'
      rw [← hget', hgone.unverified] at hverified
      cases hverified

end DjangoFoundation.Lifecycle
