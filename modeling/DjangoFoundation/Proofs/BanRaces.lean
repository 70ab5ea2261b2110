/-
A ban behind every banned status, whatever the interleaving.

Of all that writes a status only the task does so from an old read.  A ban writes `BANNED` in
the transaction that adds its row, and a revocation leaves `BANNED` where it finds another ban
active; so a user is left banned without an unrevoked ban by nothing but a `save` of the task
that comes after the revocation of what it had read.
-/
import DjangoFoundation.Accounts.BanRaces
import DjangoFoundation.Proofs.Lifecycle

namespace DjangoFoundation

namespace BanRaces

variable {env : Environment} {now : Int} {db db' : Database} {s s' : State}

/-- Some ban of the user is not revoked. -/
def HasBan (bans : Table UserBan) (user : UUID) : Prop :=
  ∃ ban ∈ bans, ban.user = user ∧ ban.revokedAt = none

/-- Every banned user has a ban that a revocation or a run of the task can still lift. -/
def Liftable (db : Database) : Prop :=
  ∀ user ∈ db.users, user.status = .banned → HasBan db.bans user.pk

instance (bans : Table UserBan) (user : UUID) : Decidable (HasBan bans user) :=
  inferInstanceAs (Decidable (∃ ban ∈ bans.rows, ban.user = user ∧ ban.revokedAt = none))

instance (db : Database) : Decidable (Liftable db) :=
  inferInstanceAs (Decidable (∀ user ∈ db.users.rows, user.status = .banned →
    HasBan db.bans user.pk))

/-- Whose status this step saves as `BANNED` for the task. -/
def activated? (s : State) (e : Int × Event) : Option UUID :=
  match e.2 with
  | .advance id => do
      let task ← s.tasks.get? id
      match task.work with
      | .activating (user :: _) => if (s.db.users.get? user).isSome then some user else none
      | _ => none
  | _ => none

/-- The user the task is about to ban is one with an unrevoked ban still. -/
def BanStands (s : State) (e : Int × Event) (_ : State) : Prop :=
  ∀ user ∈ activated? s e, HasBan s.db.bans user

instance (s : State) (e : Int × Event) (s' : State) : Decidable (BanStands s e s') :=
  inferInstanceAs (Decidable (∀ user ∈ activated? s e, HasBan s.db.bans user))

/-! ### What a step writes

Requests write in one transaction each, and the task user by user, from what it read when it
began.  Both come down to three parts: which rows get another status, what becomes of the bans,
and whom the step bans on an old read.  Nothing else of a step matters below.
-/

/-- The users and the bans after a step, and whom it bans on an old read. -/
inductive Writes (db : Database) : Option UUID → Database → Prop
  | nothing {f : User → User} {db' : Database} (h : Rewrites none f db db') : Writes db none db'
  /-- A ban is added, and may take hold at once. -/
  | bans {now : Int} {ban : UserBan} {target : Option UUID} {added : Table UserBan}
      {db' : Database} (hinsert : db.bans.insert? ban = some added)
      (hban : ban.revokedAt = none) (htarget : ∀ user, target = some user → ban.user = user)
      (h : Rewrites target (withStatus now .banned) { db with bans := added } db') :
      Writes db none db'
  /-- One is revoked, and its user may become active. -/
  | revokes {now : Int} {ban : UserBan} {user : User} {db' : Database}
      (hban : db.bans.get? ban.pk = some ban) (huser : db.users.get? user.pk = some user)
      (hpk : user.pk = ban.user)
      (h : Rewrites
        (if hasActiveBan (revokedBans now db ban.pk) now user.pk = false ∧ user.status = .banned
          then some user.pk else none)
        (withStatus now .active) { db with bans := revokedBans now db ban.pk } db') :
      Writes db none db'
  /-- The task lifts.. -/
  | lifts {now : Int} {row : User} {db' : Database}
      (h : Rewrites (some row.pk) (withStatus now .active) db db') : Writes db none db'
  /-- ..or brings a ban into the status column. -/
  | activates {now : Int} {row : User} {db' : Database} (hrow : db.users.get? row.pk = some row)
      (h : Rewrites (some row.pk) (withStatus now .banned) db db') : Writes db (some row.pk) db'

theorem writes_request (env : Environment) (now : Int) (db : Database) (request : Request) :
    Writes db none (db.committed (request.run env now db)) := by
  cases request with
  | ban pk user reason actor startsAt expiresAt sessionKey =>
      obtain ⟨bans, hbans, htakes, hrewrite⟩ := rewrites_ban env now db pk user reason actor
        startsAt expiresAt sessionKey
      by_cases hnone : banned? now db
          (BanService.newBan now pk user reason actor startsAt expiresAt) = none
      · rw [hnone] at hrewrite
        rcases hbans with rfl | hinsert
        · exact .nothing hrewrite
        · exact .bans hinsert rfl (fun _ hu => by cases hu) hrewrite
      · exact .bans (htakes hnone) rfl (fun u hu => (banned?_eq_some hu).1) hrewrite
  | revoke pk actor =>
      rcases rewrites_revoke now db pk actor with ⟨hsame, _⟩ | ⟨ban, user, hban, huser, hpk, h⟩
      · rw [Request.run, hsame]
        exact .nothing (f := id) (.nobody rfl rfl)
      · obtain rfl : ban.pk = pk := Table.pk_of_get? hban
        exact .revokes hban huser hpk h

/-- A save of the task, which goes through where nobody holds the row. -/
private theorem save_cases {id : Nat} {user : UUID} {status : AccountStatus} {work : Work}
    (h : s.save now id user status work = some s') :
    (s.db.users.get? user = none ∧ s'.db = s.db) ∨
      ∃ row, s.db.users.get? user = some row ∧ row.pk = user ∧
        Rewrites (some row.pk) (withStatus now status) s.db s'.db := by
  unfold State.save at h
  split at h
  · cases h
  · split at h
    · rename_i hnone
      cases h
      exact Or.inl ⟨hnone, rfl⟩
    · rename_i row hrow
      cases h
      obtain rfl : row.pk = user := Table.pk_of_get? hrow
      exact Or.inr ⟨row, hrow, rfl, .modified (withStatus_pk status) rfl rfl hrow rfl⟩

private theorem writes_advance {task : Task} (hs : s.advance env now task = some s') :
    Writes s.db
      (match task.work with
        | .activating (user :: _) => if (s.db.users.get? user).isSome then some user else none
        | _ => none) s'.db := by
  have hnothing : s'.db = s.db → Writes s.db none s'.db := by
    intro h
    exact .nothing (f := id) (.nobody (by rw [h]) (by rw [h]))
  unfold State.advance at hs
  split at hs
  · rename_i hwork
    cases hs
    rw [hwork]
    exact hnothing rfl
  · rename_i user users hwork
    rw [hwork]
    rcases save_cases hs with ⟨hnone, hsame⟩ | ⟨row, hrow, rfl, h⟩
    · simp only [hnone, Option.isSome_none, Bool.false_eq_true, if_false]
      exact hnothing hsame
    · simp only [hrow, Option.isSome_some, if_true]
      exact .activates hrow h
  · rename_i user users hwork
    rw [hwork]
    split at hs
    · cases hs
      exact hnothing rfl
    · rename_i db' hrevoke
      cases hs
      have hsame := SessionService.sameAccounts_revokeAll hrevoke
      exact .nothing (f := id) (.nobody hsame.users hsame.bans)
  · rename_i hwork
    cases hs
    rw [hwork]
    exact hnothing rfl
  · rename_i ids hwork
    cases hs
    rw [hwork]
    exact hnothing rfl
  · rename_i user users hwork
    rw [hwork]
    split at hs <;> cases hs <;> exact hnothing rfl
  · rename_i user users hwork
    rw [hwork]
    rcases save_cases hs with ⟨_, hsame⟩ | ⟨row, _, _, h⟩
    · exact hnothing hsame
    · exact .lifts h
  · rename_i hwork
    cases hs
    rw [hwork]
    exact hnothing rfl

theorem writes_step {e : Int × Event} (h : step env s e = some s') :
    Writes s.db (activated? s e) s'.db := by
  obtain ⟨now, event⟩ := e
  unfold step at h
  split at h
  case isFalse => cases h
  case isTrue =>
    have hnothing : s'.db = s.db → Writes s.db none s'.db := by
      intro h
      exact .nothing (f := id) (.nobody (by rw [h]) (by rw [h]))
    cases event with
    | begin id request =>
        obtain ⟨txns, _, rfl⟩ := Option.map_eq_some_iff.mp h
        exact hnothing rfl
    | lock id =>
        simp only [State.move, State.lock] at h
        split at h
        · split at h
          · cases h
            exact hnothing rfl
          · split at h
            · cases h
            · cases h
              exact hnothing rfl
        · cases h
    | finish id =>
        simp only [State.move, State.finish] at h
        split at h
        · rename_i request _ _
          cases h
          exact writes_request env now s.db request
        · cases h
    | abort id =>
        obtain ⟨_, _, rfl⟩ := Option.map_eq_some_iff.mp h
        exact hnothing rfl
    | start id =>
        obtain ⟨tasks, _, rfl⟩ := Option.map_eq_some_iff.mp h
        exact hnothing rfl
    | advance id =>
        obtain ⟨task, htask, hadvance⟩ := Option.bind_eq_some_iff.mp h
        have hwrites := writes_advance hadvance
        unfold activated?
        simp only [htask, bind, Option.bind_some]
        exact hwrites
    | die id =>
        obtain ⟨_, _, rfl⟩ := Option.map_eq_some_iff.mp h
        exact hnothing rfl

/-! ### What it keeps

A ban that is there keeps its user's status explained.  A step can take the last unrevoked ban
from a user only by revoking it, and a revocation that leaves no ban active lifts the status in
the same transaction.  So only a status written on an old read can be left unexplained.
-/

/-- A row after the step is one from before it, perhaps rewritten. -/
private theorem mem_rewrites {target : Option UUID} {f : User → User} {row' : User}
    (h : Rewrites target f db db') (hmem : row' ∈ db'.users) :
    ∃ row ∈ db.users, row.pk = row'.pk ∧ row' = if target = some row.pk then f row else row := by
  have hget : db'.users.get? row'.pk = some row' := Table.get?_of_mem hmem
  rw [h.users] at hget
  cases hrow : db.users.get? row'.pk with
  | none =>
      rw [hrow, Option.map_none, ite_self] at hget
      cases hget
  | some row =>
      have hpk : row.pk = row'.pk := Table.pk_of_get? hrow
      refine ⟨row, Table.mem_of_get? hrow, hpk, ?_⟩
      rw [hrow, Option.map_some, ← apply_ite some, Option.some.injEq] at hget
      rw [hpk]
      exact hget.symm

theorem HasBan.of_active {bans : Table UserBan} {user : UUID}
    (h : hasActiveBan bans now user = true) : HasBan bans user := by
  obtain ⟨ban, hban, huser, hactive⟩ := hasActiveBan_iff.mp h
  rw [UserBan.isActive, Bool.and_eq_true, UserBan.started, decide_eq_true_eq] at hactive
  exact ⟨ban, hban, huser, hactive.1.1⟩

/-- The revocation of somebody else's ban leaves one. -/
private theorem hasBan_revokedBans {ban : UserBan} {user : UUID}
    (hban : db.bans.get? ban.pk = some ban) (hne : user ≠ ban.user) (h : HasBan db.bans user) :
    HasBan (revokedBans now db ban.pk) user := by
  obtain ⟨other, hother, huser, hunrevoked⟩ := h
  refine ⟨other, Table.mem_modify.mpr (Or.inr ⟨hother, fun hpk => hne ?_⟩), huser, hunrevoked⟩
  have hsame : other = ban := Table.eq_of_pk_eq hother (Table.mem_of_get? hban) hpk
  rw [← huser, hsame]

/-- What a step writes keeps a ban behind every banned status, exactly if whom it bans on an old
read has one. -/
theorem Writes.liftable_iff {target : Option UUID} (hdb : Liftable db)
    (h : Writes db target db') :
    Liftable db' ↔ ∀ user, target = some user → HasBan db.bans user := by
  cases h with
  | nothing h =>
      refine iff_of_true ?_ (fun _ hu => by cases hu)
      intro row' hmem hstatus
      obtain ⟨row, hrow, _, rfl⟩ := mem_rewrites h hmem
      rw [h.bans]
      exact hdb row' hrow hstatus
  | @bans now ban target added _ hinsert hban htarget h =>
      refine iff_of_true ?_ (fun _ hu => by cases hu)
      intro row' hmem hstatus
      obtain ⟨row, hrow, hpk, hrow'⟩ := mem_rewrites h hmem
      rw [h.bans, ← hpk]
      by_cases htaken : target = some row.pk
      · exact ⟨ban, (Table.mem_insert? hinsert).mpr (Or.inr rfl), htarget row.pk htaken, hban⟩
      · rw [if_neg htaken] at hrow'
        obtain ⟨other, hother, hrest⟩ := hdb row hrow (hrow' ▸ hstatus)
        exact ⟨other, (Table.mem_insert? hinsert).mpr (Or.inl hother), hrest⟩
  | @revokes now ban user _ hban huser hpk h =>
      refine iff_of_true ?_ (fun _ hu => by cases hu)
      intro row' hmem hstatus
      obtain ⟨row, hrow, hpk', hrow'⟩ := mem_rewrites h hmem
      rw [h.bans, ← hpk']
      by_cases hown : row.pk = user.pk
      · -- still banned, it has another ban that is active
        obtain rfl : row = user := Table.eq_of_pk_eq hrow (Table.mem_of_get? huser) hown
        by_cases hlift : hasActiveBan (revokedBans now db ban.pk) now row.pk = false ∧
            row.status = .banned
        · rw [if_pos hlift, if_pos rfl] at hrow'
          rw [hrow'] at hstatus
          cases hstatus
        · rw [if_neg hlift, if_neg (by simp)] at hrow'
          have hactive : hasActiveBan (revokedBans now db ban.pk) now row.pk = true := by
            by_contra hnone
            exact hlift ⟨by simpa using hnone, hrow' ▸ hstatus⟩
          exact .of_active hactive
      · have hother : (if hasActiveBan (revokedBans now db ban.pk) now user.pk = false ∧
            user.status = .banned then some user.pk else none) ≠ some row.pk := by
          split
          · simpa using Ne.symm hown
          · simp
        rw [if_neg hother] at hrow'
        exact hasBan_revokedBans hban (hpk ▸ hown) (hdb row hrow (hrow' ▸ hstatus))
  | lifts h =>
      refine iff_of_true ?_ (fun _ hu => by cases hu)
      intro row' hmem hstatus
      obtain ⟨row, hrow, _, rfl⟩ := mem_rewrites h hmem
      split at hstatus
      · cases hstatus
      · rename_i hother
        rw [if_neg hother, h.bans]
        exact hdb row hrow hstatus
  | @activates now user _ huser h =>
      constructor
      · rintro hdb' _ ⟨⟩
        rw [← h.bans]
        have hstored := h.row_eq huser
        rw [if_pos rfl] at hstored
        exact hdb' (withStatus now .banned user) (Table.mem_of_get? hstored) rfl
      · intro hstands row' hmem hstatus
        obtain ⟨row, hrow, hpk, hrow'⟩ := mem_rewrites h hmem
        rw [h.bans, ← hpk]
        by_cases hown : some user.pk = some row.pk
        · exact hstands row.pk hown
        · rw [if_neg hown] at hrow'
          exact hdb row hrow (hrow' ▸ hstatus)

/-! ### Runs

The step lemma goes both ways, and so does what is proved of runs: where the invariant holds in
every state, no step has banned anybody whose bans were revoked, and the other way round.
-/

def State.start (clock : Int) (db : Database) : State := { clock := clock, db := db }

/-- **Every banned account has a ban that can be lifted** where the task bans nobody whose bans
were revoked since it read them, and in no other run. -/
theorem banned_has_ban (env : Environment) (clock : Int) {db : Database} (h : Liftable db)
    (es : List (Int × Event)) :
    (Run.Steps (step env) BanStands (.start clock db) es →
      Run.Always (step env) (fun s => s.quiet = true → Liftable s.db) (.start clock db) es) ∧
    (Run.Steps (step env) (fun _ _ s' => Liftable s'.db) (.start clock db) es ↔
      Run.Steps (step env) BanStands (.start clock db) es) := by
  have hstep : ∀ s e s', Liftable s.db → step env s e = some s' →
      (Liftable s'.db ↔ BanStands s e s') := by
    intro s e s' hdb hs
    exact (writes_step hs).liftable_iff hdb
  have hiff : Run.Steps (step env) (fun _ _ s' => Liftable s'.db) (.start clock db) es ↔
      Run.Steps (step env) BanStands (.start clock db) es :=
    Run.steps_iff_of_inv hstep (fun _ _ _ _ _ hdb' => hdb') h es
  refine ⟨fun hstands => ⟨fun _ => h, ?_⟩, hiff⟩
  refine (hiff.mpr hstands).imp ?_
  intro s e s' _ hdb' _
  exact hdb'

/-- A ban from time 10 on is revoked at time 12. -/
def bannedLater : List (Int × Event) :=
  [(0, .begin 0 (.ban 7 1 "spam" none (some 10) none none)), (0, .lock 0), (0, .finish 0)]

/-- The task runs in between. -/
def enforcedOnce : List (Int × Event) :=
  bannedLater ++ [(11, .start 0), (11, .advance 0), (11, .advance 0), (11, .advance 0),
    (11, .advance 0), (11, .advance 0), (11, .advance 0),
    (12, .begin 1 (.revoke 7 none)), (12, .lock 1), (12, .finish 1)]

theorem banned_has_ban_once :
    Run.Always (step .plain) (fun s => s.quiet = true → Liftable s.db)
      (.start 0 { users := {ada} }) enforcedOnce :=
  (banned_has_ban .plain 0 (by decide) enforcedOnce).1 (by decide)

/-- The task has read its user when the ban is revoked, and saves `BANNED` after that. -/
def enforcedLate : List (Int × Event) :=
  bannedLater ++ [(11, .start 0), (11, .advance 0),
    (12, .begin 1 (.revoke 7 none)), (12, .lock 1), (12, .finish 1),
    (13, .advance 0), (13, .advance 0), (13, .advance 0), (13, .advance 0), (13, .advance 0)]

/-- Nothing is in progress, the account is banned, and its one ban is revoked. -/
theorem banned_without_ban :
    ¬Run.Always (step .plain) (fun s => s.quiet = true → Liftable s.db)
      (.start 0 { users := {ada} }) enforcedLate := by
  intro h
  have hsteps := h.2
  revert hsteps
  decide

end BanRaces

end DjangoFoundation
