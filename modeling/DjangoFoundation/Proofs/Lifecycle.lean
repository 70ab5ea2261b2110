/-
What each call of a lifecycle does to the users.

A call rewrites the row of at most one user, or, for the hourly task, every row by one
function of the row.  The target is read off the tables the call finds: `verification?`
and its kin say whose row a raw token changes, if it is good for anything.  Each lemma
here gives the users after the call in full, whether it returned or raised, so nothing
below unfolds a service again.
-/
import DjangoFoundation.Accounts.Lifecycle
import DjangoFoundation.Proofs.Revocation

namespace DjangoFoundation

open AccountService BanService SessionService TokenService

variable {env : Environment} {now : Int} {db db' : Database}

/-- The row of `target`, if there is one, is rewritten by `f`; every other row is left, and
so are the bans. -/
structure Rewrites (target : Option UUID) (f : User → User) (db db' : Database) : Prop where
  users : ∀ k, db'.users.get? k =
    if target = some k then (db.users.get? k).map f else db.users.get? k
  bans : db'.bans = db.bans

namespace Rewrites

variable {f g : User → User} {target : Option UUID} {u : UUID} {row : User}

/-- What becomes of the row of one user. -/
theorem row_eq (h : Rewrites target f db db') (hrow : db.users.get? u = some row) :
    db'.users.get? u = some (if target = some u then f row else row) := by
  rw [h.users u, hrow]
  split <;> rfl

theorem nobody (h : db'.users = db.users) (hbans : db'.bans = db.bans) :
    Rewrites none f db db' where
  users k := by rw [h, if_neg (by simp)]
  bans := hbans

/-- A call that raises rewrites nobody's row. -/
theorem raised {result : Except Exception Database} (h : ∃ e, result = .error e) :
    Rewrites none f db (db.committed result) := by
  obtain ⟨e, rfl⟩ := h
  exact nobody rfl rfl

theorem fixed (h : db'.users = db.users) (hbans : db'.bans = db.bans)
    (hrow : db.users.get? row.pk = some row) (hfix : f row = row) :
    Rewrites (some row.pk) f db db' := by
  refine ⟨fun k => ?_, hbans⟩
  rw [h]
  split
  · rename_i hk
    cases hk
    rw [hrow, Option.map_some, hfix]
  · rfl

theorem modified (hg : ∀ u, (g u).pk = u.pk) (h : db'.users = db.users.modify row.pk g hg)
    (hbans : db'.bans = db.bans) (hrow : db.users.get? row.pk = some row) (hfg : g row = f row) :
    Rewrites (some row.pk) f db db' := by
  refine ⟨fun k => ?_, hbans⟩
  rw [h, Table.get?_modify]
  by_cases hk : k = row.pk
  · subst hk
    rw [if_pos rfl, if_pos rfl, hrow, Option.map_some, Option.map_some, hfg]
  · rw [if_neg hk, if_neg (by simpa [eq_comm] using hk)]

end Rewrites

/-! ### Reading a user -/

theorem getUser_of_some {user : UUID} {row : User} (h : db.users.get? user = some row) :
    db.getUser user = .ok row := by
  rw [Database.getUser, h]

theorem getUser_of_none {user : UUID} (h : db.users.get? user = none) :
    db.getUser user = .error .doesNotExist := by
  rw [Database.getUser, h]

theorem getUser_eq_ok {user : UUID} {row : User} (h : db.getUser user = .ok row) :
    db.users.get? user = some row := by
  unfold Database.getUser at h
  split at h
  · rename_i hget
    cases h
    exact hget
  · cases h

/-! ### Confirmations

Four services begin alike: a token is consumed, and its user is read.  Up to there they raise
or return together, so each of them is described by what it does for the bearer of a good
token.
-/

/-- The token a raw value names, if it can be used, and the user it was issued to. -/
def bearer? (env : Environment) (now : Int) (db : Database) (rawToken : String)
    (purpose : TokenPurpose) : Option (OneTimeToken × User) :=
  (usable? env now db rawToken purpose).bind fun token =>
    (db.users.get? token.user).map fun user => (token, user)

/-- The token, used. -/
def spend (now : Int) (db : Database) (token : OneTimeToken) : Database :=
  { db with
    oneTimeTokens := db.oneTimeTokens.modify token.tokenHash
      (fun t => { t with usedAt := some now }) (used_pk now) }

section Confirmations

variable {rawToken : String} {purpose : TokenPurpose} {token : OneTimeToken} {user : User}

private theorem consume_of_usable (h : usable? env now db rawToken purpose = some token) :
    consume env now db rawToken purpose = .ok (token, spend now db token) := by
  rw [consume, h, spend]

theorem bearer?_of_usable (htoken : usable? env now db rawToken purpose = some token)
    (huser : db.users.get? token.user = some user) :
    bearer? env now db rawToken purpose = some (token, user) := by
  rw [bearer?, htoken, Option.bind_some, huser, Option.map_some]

/-- A confirmation goes on for the bearer of its token.. -/
theorem confirm_of_some (h : bearer? env now db rawToken purpose = some (token, user)) :
    db.users.get? user.pk = some user ∧
      consume env now db rawToken purpose = .ok (token, spend now db token) ∧
      (spend now db token).getUser token.user = .ok user := by
  obtain ⟨token', htoken, hmap⟩ := Option.bind_eq_some_iff.mp h
  obtain ⟨user', huser, heq⟩ := Option.map_eq_some_iff.mp hmap
  cases heq
  have hpk : user.pk = token.user := Table.pk_of_get? huser
  exact ⟨hpk ▸ huser, consume_of_usable htoken, getUser_of_some huser⟩

/-- ..and raises where there is none, whatever would have come next. -/
theorem confirm_of_none {next : OneTimeToken × Database → Except Exception Database}
    (h : bearer? env now db rawToken purpose = none)
    (hnext : ∀ token db e, db.getUser token.user = .error e → next (token, db) = .error e) :
    ∃ e, (consume env now db rawToken purpose >>= next) = .error e := by
  cases htoken : usable? env now db rawToken purpose with
  | none =>
      refine ⟨invalidToken, ?_⟩
      rw [consume, htoken]
      rfl
  | some token =>
      rw [bearer?, htoken, Option.bind_some, Option.map_eq_none_iff] at h
      refine ⟨.doesNotExist, ?_⟩
      rw [consume_of_usable htoken]
      exact hnext token (spend now db token) .doesNotExist (getUser_of_none h)

end Confirmations

/-! ### `verify_email` -/

/-- Whose address a token verifies. -/
def verification? (env : Environment) (now : Int) (db : Database) (rawToken : String) :
    Option UUID :=
  (bearer? env now db rawToken .emailVerification).map fun b => b.2.pk

/-- The row after a verification. -/
def verified (now : Int) (user : User) : User :=
  if user.emailVerifiedAt.isSome then user
  else { user with
    emailVerifiedAt := some now
    status := if user.status = .pending then .active else user.status
    updatedAt := now }

theorem rewrites_verifyEmail (env : Environment) (now : Int) (db : Database) (rawToken : String) :
    Rewrites (verification? env now db rawToken) (verified now) db
      (db.committed (verifyEmail env now db rawToken)) := by
  unfold verification? verifyEmail
  cases hbearer : bearer? env now db rawToken .emailVerification with
  | none =>
      refine .raised (confirm_of_none hbearer ?_)
      intro token db' e herr
      simp only [bind, Except.bind, herr]
  | some b =>
      obtain ⟨token, user⟩ := b
      obtain ⟨hrow, hconsume, hget⟩ := confirm_of_some hbearer
      simp only [hconsume, bind, Except.bind, hget, Option.map_some]
      by_cases hverified : user.emailVerifiedAt.isSome
      · rw [if_pos hverified]
        exact .fixed rfl rfl hrow (by rw [verified, if_pos hverified])
      · rw [if_neg hverified]
        exact .modified (fun _ => by rfl) rfl rfl hrow (by rw [verified, if_neg hverified])

/-! ### `reset_password` -/

/-- Whose password a token resets to a new one. -/
def passwordReset? (env : Environment) (now : Int) (db : Database)
    (rawToken newPassword : String) : Option UUID :=
  (bearer? env now db rawToken .passwordReset).bind fun b =>
    if env.acceptsPassword newPassword b.2 then some b.2.pk else none

theorem rewrites_resetPassword (env : Environment) (now : Int) (db : Database)
    (rawToken newPassword salt : String) (sessionKey : Option String) :
    Rewrites (passwordReset? env now db rawToken newPassword)
      (fun user => { user with
        password := env.keyring.makePassword salt newPassword, updatedAt := now })
      db (db.committed (resetPassword env now db rawToken newPassword salt sessionKey)) := by
  unfold passwordReset? resetPassword
  cases hbearer : bearer? env now db rawToken .passwordReset with
  | none =>
      refine .raised (confirm_of_none hbearer ?_)
      intro token db' e herr
      simp only [bind, Except.bind, herr]
  | some b =>
      obtain ⟨token, user⟩ := b
      obtain ⟨hrow, hconsume, hget⟩ := confirm_of_some hbearer
      simp only [hconsume, bind, Except.bind, hget, Option.bind_some]
      by_cases haccept : env.acceptsPassword newPassword user
      · obtain ⟨db', hrevoke, hrev⟩ := revokeAll_revoked env now
          (stampPasswordChange now (setPassword env now (spend now db token) user.pk salt
            newPassword) user.pk) user.pk (some user.pk) sessionKey false
        rw [if_pos haccept]
        simp only [haccept, hrevoke, Bool.not_true, Bool.false_eq_true, if_false]
        exact .modified (fun _ => by rfl) hrev.accounts.users hrev.accounts.bans hrow rfl
      · rw [if_neg haccept]
        refine .raised ⟨.validation, ?_⟩
        simp only [haccept]
        rfl

/-! ### `confirm_email_change` -/

/-- Whose address a token changes, and to what. -/
def emailChange? (env : Environment) (now : Int) (db : Database) (rawToken : String) :
    Option (UUID × String) :=
  (bearer? env now db rawToken .emailChange).bind fun (token, user) =>
    (token.metadata.lookup "new_email").bind fun newEmail =>
      let email := env.unicode.normalizeEmailAddress newEmail
      if (db.users.rows.any fun other => env.iexact other.email newEmail ∧ other.pk ≠ user.pk) ∨
          emailTaken env db user.pk email then none
      else some (user.pk, email)

theorem rewrites_confirmEmailChange (env : Environment) (now : Int) (db : Database)
    (rawToken : String) (sessionKey : Option String) :
    Rewrites ((emailChange? env now db rawToken).map (·.1))
      (fun user => { user with
        email := ((emailChange? env now db rawToken).map (·.2)).getD user.email
        emailVerifiedAt := some now
        updatedAt := now })
      db (db.committed (confirmEmailChange env now db rawToken sessionKey)) := by
  unfold emailChange? confirmEmailChange
  cases hbearer : bearer? env now db rawToken .emailChange with
  | none =>
      refine .raised (confirm_of_none hbearer ?_)
      intro token db' e herr
      simp only [bind, Except.bind, herr]
  | some b =>
      obtain ⟨token, user⟩ := b
      obtain ⟨hrow, hconsume, hget⟩ := confirm_of_some hbearer
      simp only [hconsume, bind, Except.bind, hget, Option.bind_some]
      cases hlookup : token.metadata.lookup "new_email" with
      | none => exact .raised ⟨_, rfl⟩
      | some newEmail =>
          simp only [Option.bind_some]
          by_cases hiexact : db.users.rows.any fun other =>
              env.iexact other.email newEmail ∧ other.pk ≠ user.pk
          · rw [if_pos (Or.inl hiexact)]
            refine .raised ⟨emailUnavailable, ?_⟩
            exact if_pos hiexact
          · by_cases htaken : emailTaken env db user.pk (env.unicode.normalizeEmailAddress newEmail)
            · rw [if_pos (Or.inr htaken)]
              refine .raised ⟨.integrity, ?_⟩
              exact (if_neg hiexact).trans (if_pos htaken)
            · obtain ⟨db', hrevoke, hrev⟩ := revokeAll_revoked env now
                ((spend now db token).updateUser user.pk fun u => { u with
                  email := env.unicode.normalizeEmailAddress newEmail
                  emailVerifiedAt := some now
                  updatedAt := now })
                user.pk (some user.pk) sessionKey true
              rw [if_neg (not_or.mpr ⟨hiexact, htaken⟩)]
              have hclean : emailTaken env (spend now db token) user.pk
                  (env.unicode.normalizeEmailAddress newEmail) ≠ true := htaken
              have hfree : ((spend now db token).users.rows.any fun other =>
                  env.iexact other.email newEmail ∧ other.pk ≠ user.pk) ≠ true := hiexact
              simp only [if_neg hfree, if_neg hclean, hrevoke]
              exact .modified (fun _ => by rfl) hrev.accounts.users hrev.accounts.bans hrow rfl

/-! ### `confirm_deletion` -/

def pseudonym (user : UUID) : String := "deleted-" ++ UUID.hex user

def pseudonymAddress (user : UUID) : String := "deleted-" ++ UUID.hex user ++ "@invalid.local"

private theorem plain_append {s t : String} (hs : ∀ c ∈ s.toList, Unicode.Plain c)
    (ht : ∀ c ∈ t.toList, Unicode.Plain c) : ∀ c ∈ (s ++ t).toList, Unicode.Plain c := by
  intro c hc
  rw [String.toList_append, List.mem_append] at hc
  rcases hc with hc | hc
  · exact hs c hc
  · exact ht c hc

theorem plain_pseudonym (user : UUID) : ∀ c ∈ (pseudonym user).toList, Unicode.Plain c :=
  plain_append (by simp [Unicode.Plain, Unicode.isAscii]) (UUID.plain_hex user)

theorem plain_pseudonymAddress (user : UUID) :
    ∀ c ∈ (pseudonymAddress user).toList, Unicode.Plain c :=
  plain_append (plain_pseudonym user) (by simp [Unicode.Plain, Unicode.isAscii])

/-- Whose account a token deletes. -/
def deletion? (env : Environment) (now : Int) (db : Database) (rawToken : String) :
    Option UUID :=
  (bearer? env now db rawToken .accountDeletion).bind fun b =>
    if emailTaken env db b.2.pk (pseudonymAddress b.2.pk) ∨
        usernameTaken env db b.2.pk (pseudonym b.2.pk) then none
    else some b.2.pk

theorem deletion?_eq_some {rawToken : String} {u : UUID}
    (h : deletion? env now db rawToken = some u) :
    ∃ token row, usable? env now db rawToken .accountDeletion = some token ∧ token.user = u ∧
      db.users.get? u = some row := by
  obtain ⟨⟨token, user⟩, hbearer, hfree⟩ := Option.bind_eq_some_iff.mp h
  split at hfree
  · cases hfree
  · cases hfree
    obtain ⟨token', htoken, hmap⟩ := Option.bind_eq_some_iff.mp hbearer
    obtain ⟨user', huser, heq⟩ := Option.map_eq_some_iff.mp hmap
    cases heq
    have hpk : user.pk = token.user := Table.pk_of_get? huser
    exact ⟨token, user, htoken, hpk.symm, hpk ▸ huser⟩

/-- The pseudonyms are stored as they are. -/
theorem save_pseudonymised (db : Database) (user : User) (suffix : String) :
    save env db (pseudonymised now user suffix) =
      if emailTaken env db user.pk (pseudonymAddress user.pk) ∨
          usernameTaken env db user.pk (pseudonym user.pk) then .error .integrity
      else .ok (db.updateUser user.pk fun u =>
        { pseudonymised now user suffix with pk := u.pk }) := by
  have hemail : env.unicode.normalizeEmailAddress (pseudonymised now user suffix).email
      = pseudonymAddress user.pk :=
    Unicode.normalizeEmailAddress_plain (plain_pseudonymAddress user.pk)
  have husername : env.unicode.stripped (pseudonymised now user suffix).username
      = pseudonym user.pk :=
    Unicode.stripped_plain (plain_pseudonym user.pk)
  unfold save
  rw [hemail, husername]
  rfl

/-- A deletion commits exactly where its token deletes an account. -/
theorem confirmDeletion_cases (env : Environment) (now : Int) (db : Database)
    (rawToken suffix : String) (sessionKey : Option String) :
    (deletion? env now db rawToken = none ∧
      ∃ e, confirmDeletion env now db rawToken suffix sessionKey = .error e) ∨
    ∃ db', deletion? env now db rawToken ≠ none ∧
      confirmDeletion env now db rawToken suffix sessionKey = .ok db' ∧
      Rewrites (deletion? env now db rawToken) (fun user => pseudonymised now user suffix)
        db db' := by
  unfold deletion? confirmDeletion
  cases hbearer : bearer? env now db rawToken .accountDeletion with
  | none =>
      refine Or.inl ⟨rfl, confirm_of_none hbearer ?_⟩
      intro token db' e herr
      simp only [bind, Except.bind, herr]
  | some b =>
      obtain ⟨token, user⟩ := b
      obtain ⟨hrow, hconsume, hget⟩ := confirm_of_some hbearer
      simp only [hconsume, bind, Except.bind, hget, Option.bind_some, save_pseudonymised]
      by_cases htaken : emailTaken env db user.pk (pseudonymAddress user.pk) ∨
          usernameTaken env db user.pk (pseudonym user.pk)
      · have hraise : emailTaken env (spend now db token) user.pk (pseudonymAddress user.pk) ∨
            usernameTaken env (spend now db token) user.pk (pseudonym user.pk) := htaken
        rw [if_pos htaken, if_pos hraise]
        exact Or.inl ⟨rfl, .integrity, rfl⟩
      · have hfree : ¬(emailTaken env (spend now db token) user.pk (pseudonymAddress user.pk) ∨
            usernameTaken env (spend now db token) user.pk (pseudonym user.pk)) := htaken
        rw [if_neg htaken, if_neg hfree]
        obtain ⟨db', hrevoke, hrev⟩ := revokeAll_revoked env now
          { (spend now db token).updateUser user.pk fun u =>
              { pseudonymised now user suffix with pk := u.pk } with
            profiles := db.profiles.modify user.pk fun profile =>
              { profile with bio := "", website := "", location := "" } }
          user.pk (some user.pk) sessionKey false
        simp only [Database.updateUser, spend] at hrevoke ⊢
        rw [hrevoke]
        exact Or.inr ⟨_, by simp, rfl,
          .modified (fun _ => by rfl) hrev.accounts.users hrev.accounts.bans hrow rfl⟩

theorem rewrites_confirmDeletion (env : Environment) (now : Int) (db : Database)
    (rawToken suffix : String) (sessionKey : Option String) :
    Rewrites (deletion? env now db rawToken) (fun user => pseudonymised now user suffix)
      db (db.committed (confirmDeletion env now db rawToken suffix sessionKey)) := by
  rcases confirmDeletion_cases env now db rawToken suffix sessionKey with
    ⟨hnone, herr⟩ | ⟨db', _, hok, hdb'⟩
  · rw [hnone]
    exact .raised herr
  · rw [hok]
    exact hdb'

/-! ### Tokens issued -/

theorem rewrites_issue (env : Environment) (now : Int) (db : Database)
    (user : UUID) (purpose : TokenPurpose) (ttl : Int)
    (metadata : List (String × String)) (raw : String) (f : User → User) :
    Rewrites none f db (db.committed (issue env now db user purpose ttl metadata raw)) := by
  unfold issue
  dsimp only
  split
  · exact .nobody rfl rfl
  · exact .raised ⟨.integrity, rfl⟩

/-! ### Bans

A ban that has started by the time it is made takes hold at once, and the others wait for the
task.  A revocation lifts the status only if it leaves no ban active.
-/

/-- The row with another status, saved. -/
def withStatus (now : Int) (status : AccountStatus) (user : User) : User :=
  { user with status := status, updatedAt := now }

@[simp] theorem withStatus_status (status : AccountStatus) (user : User) :
    (withStatus now status user).status = status := rfl

theorem withStatus_pk (status : AccountStatus) (user : User) :
    Keyed.pk (withStatus now status user) = Keyed.pk user := rfl

theorem enforce_ok (env : Environment) (now : Int) (db : Database) (user : UUID)
    (actor : Option UUID) (sessionKey : Option String) :
    ∃ db', BanService.enforce env now db user actor sessionKey = .ok db' ∧
      db'.users = db.users.modify user (withStatus now .banned) (withStatus_pk .banned) ∧
      db'.bans = db.bans := by
  obtain ⟨db', hrevoke, hrev⟩ :=
    revokeAll_revoked env now (setStatus now db user .banned) user actor sessionKey false
  refine ⟨revokeAllJwt db' user, ?_, hrev.accounts.users, hrev.accounts.bans⟩
  simp only [BanService.enforce, hrevoke, bind, Except.bind]
  rfl

/-- Whom a ban takes hold of at once. -/
def banned? (now : Int) (db : Database) (row : UserBan) : Option UUID :=
  if (db.users.get? row.user).isSome ∧ row.unexpired row.startsAt ∧ (db.bans.insert? row).isSome ∧
      row.startsAt ≤ now then some row.user else none

theorem banned?_eq_some {row : UserBan} {u : UUID} (h : banned? now db row = some u) :
    row.user = u ∧ row.startsAt ≤ now := by
  unfold banned? at h
  split at h
  · rename_i hcond
    cases h
    exact ⟨rfl, hcond.2.2.2⟩
  · cases h

theorem rewrites_ban (env : Environment) (now : Int) (db : Database) (pk user : UUID)
    (reason : String) (actor : Option UUID)
    (startsAt expiresAt : Option Int) (sessionKey : Option String) :
    ∃ bans, (bans = db.bans ∨
        db.bans.insert? (newBan now pk user reason actor startsAt expiresAt) = some bans) ∧
      (banned? now db (newBan now pk user reason actor startsAt expiresAt) ≠ none →
        db.bans.insert? (newBan now pk user reason actor startsAt expiresAt) = some bans) ∧
      Rewrites (banned? now db (newBan now pk user reason actor startsAt expiresAt))
        (withStatus now .banned) { db with bans := bans }
        (db.committed (ban env now db pk user reason actor startsAt expiresAt sessionKey)) := by
  unfold banned? BanService.ban
  rw [show (newBan now pk user reason actor startsAt expiresAt).user = user from rfl]
  cases hrow : db.users.get? user with
  | none =>
      simp only [getUser_of_none hrow]
      exact ⟨db.bans, Or.inl rfl, by simp, .raised ⟨.doesNotExist, rfl⟩⟩
  | some locked =>
      obtain rfl : locked.pk = user := Table.pk_of_get? hrow
      simp only [getUser_of_some hrow, bind, Except.bind]
      generalize hnew : newBan now pk locked.pk reason actor startsAt expiresAt = row
      by_cases hspan : row.unexpired row.startsAt
      · cases hinsert : db.bans.insert? row with
        | none =>
            refine ⟨db.bans, Or.inl rfl, by simp, ?_⟩
            simp only [hspan]
            exact .raised ⟨.integrity, rfl⟩
        | some bans =>
            refine ⟨bans, Or.inr rfl, fun _ => rfl, ?_⟩
            by_cases hstart : row.startsAt ≤ now
            · obtain ⟨db', henforce, husers, hbans⟩ :=
                enforce_ok env now { db with bans := bans } locked.pk actor sessionKey
              simp only [hspan, hstart, henforce]
              exact .modified (fun _ => by rfl) husers hbans hrow rfl
            · simp only [hspan, hstart]
              exact .nobody rfl rfl
      · refine ⟨db.bans, Or.inl rfl, by simp [hspan], ?_⟩
        simp only [hspan]
        exact .raised ⟨.integrity, rfl⟩

theorem revoked_pk (now : Int) (ban : UserBan) :
    Keyed.pk { ban with revokedAt := some now } = Keyed.pk ban := rfl

/-- The bans after one of them is revoked. -/
def revokedBans (now : Int) (db : Database) (pk : UUID) : Table UserBan :=
  db.bans.modify pk (fun ban => { ban with revokedAt := some now }) (revoked_pk now)

/-- A revocation lifts a ban that is there and not revoked yet, or does nothing. -/
theorem rewrites_revoke (now : Int) (db : Database) (pk : UUID) (actor : Option UUID) :
    (db.committed (BanService.revoke now db pk actor) = db ∧
        ∀ ban user, db.bans.get? pk = some ban → db.users.get? ban.user = some user →
          ban.revokedAt ≠ none) ∨
      ∃ ban user, db.bans.get? pk = some ban ∧ db.users.get? user.pk = some user ∧
        user.pk = ban.user ∧
        Rewrites
          (if hasActiveBan (revokedBans now db pk) now user.pk = false ∧ user.status = .banned then
            some user.pk else none)
          (withStatus now .active) { db with bans := revokedBans now db pk }
          (db.committed (BanService.revoke now db pk actor)) := by
  unfold BanService.revoke
  cases hban : db.bans.get? pk with
  | none => exact Or.inl ⟨rfl, fun _ _ hsome => by cases hsome⟩
  | some ban =>
      cases hrow : db.users.get? ban.user with
      | none =>
          simp only [getUser_of_none hrow]
          refine Or.inl ⟨rfl, fun ban' user hsome huser => ?_⟩
          cases hsome
          rw [hrow] at huser
          cases huser
      | some user =>
          have hpk : user.pk = ban.user := Table.pk_of_get? hrow
          simp only [getUser_of_some hrow, bind, Except.bind]
          by_cases hrevoked : ban.revokedAt.isSome
          · rw [if_pos hrevoked]
            refine Or.inl ⟨rfl, fun ban' _ hsome _ hnone => ?_⟩
            cases hsome
            rw [hnone] at hrevoked
            cases hrevoked
          · rw [if_neg hrevoked]
            refine Or.inr ⟨ban, user, rfl, hpk ▸ hrow, hpk, ?_⟩
            by_cases hlift : hasActiveBan (revokedBans now db pk) now user.pk = false ∧
                user.status = .banned
            · rw [if_pos hlift]
              unfold revokedBans at hlift
              simp only [hlift]
              exact .modified (fun _ => by rfl) rfl rfl (hpk ▸ hrow) rfl
            · rw [if_neg hlift]
              unfold revokedBans at hlift
              simp only [Bool.not_eq_true', hlift]
              exact .nobody rfl rfl

/-! ### `expire_temporary_bans`

The task goes through users it has selected, and what it does to one of them does not change
what it finds of the next.  So its effect on the table is one function of the row, the bans
being given.
-/

/-- The row after a run of the task. -/
def swept (now : Int) (db : Database) (user : User) : User :=
  let user := if activates now db user then withStatus now .banned user else user
  if expires now db user ∧ hasActiveBan db.bans now user.pk = false then
    withStatus now .active user
  else user

private theorem foldlM_activate (env : Environment) (now : Int) (users : List User)
    (db : Database) :
    ∃ db', users.foldlM (activate env now) db = .ok db' ∧ db'.bans = db.bans ∧
      ∀ k, db'.users.get? k = if k ∈ users.map User.pk
        then (db.users.get? k).map (withStatus now .banned) else db.users.get? k := by
  induction users generalizing db with
  | nil => exact ⟨db, rfl, rfl, fun k => by simp⟩
  | cons user users ih =>
      obtain ⟨db₁, henforce, husers, hbans⟩ := enforce_ok env now db user.pk none none
      obtain ⟨db', hfold, hbans', hget⟩ :=
        ih (db₁.audit "account.ban_activated" (UUID.str user.pk) none)
      refine ⟨db', ?_, hbans'.trans hbans, ?_⟩
      · rw [List.foldlM_cons, activate, henforce]
        exact hfold
      · intro k
        have hfirst : (db₁.audit "account.ban_activated" (UUID.str user.pk) none).users.get? k =
            if k = user.pk then (db.users.get? k).map (withStatus now .banned)
            else db.users.get? k := by
          show db₁.users.get? k = _
          rw [husers, Table.get?_modify]
        rw [hget, hfirst, List.map_cons]
        by_cases hk : k = user.pk
        · -- a second time changes nothing more
          simp only [hk, if_true, List.mem_cons, true_or]
          cases db.users.get? user.pk <;> simp [withStatus]
        · simp [hk]

private theorem foldl_lift (now : Int) (users : List User) (db : Database) :
    (users.foldl (lift now) db).bans = db.bans ∧
      ∀ k, (users.foldl (lift now) db).users.get? k =
        if k ∈ users.map User.pk ∧ hasActiveBan db.bans now k = false
        then (db.users.get? k).map (withStatus now .active) else db.users.get? k := by
  induction users generalizing db with
  | nil => exact ⟨rfl, fun k => by simp⟩
  | cons user users ih =>
      have hlift : (lift now db user).bans = db.bans ∧ ∀ k, (lift now db user).users.get? k =
          if k = user.pk ∧ hasActiveBan db.bans now k = false
          then (db.users.get? k).map (withStatus now .active) else db.users.get? k := by
        unfold lift
        by_cases hactive : hasActiveBan db.bans now user.pk
        · rw [if_pos hactive]
          refine ⟨rfl, fun k => (if_neg ?_).symm⟩
          rintro ⟨rfl, hnot⟩
          rw [hactive] at hnot
          cases hnot
        · rw [if_neg hactive]
          refine ⟨rfl, fun k => ?_⟩
          show (db.users.modify user.pk (withStatus now .active) (withStatus_pk .active)).get? k = _
          rw [Table.get?_modify]
          by_cases hk : k = user.pk
          · subst hk
            simp [hactive]
          · simp [hk]
      obtain ⟨hbans, hget⟩ := ih (lift now db user)
      refine ⟨hbans.trans hlift.1, fun k => ?_⟩
      rw [List.foldl_cons, hget, hlift.1, hlift.2, List.map_cons]
      by_cases hk : k = user.pk
      · cases hactive : hasActiveBan db.bans now k with
        | true => simp
        | false =>
            simp only [hk, and_true, if_true, List.mem_cons, true_or]
            cases db.users.get? user.pk <;> simp [withStatus]
      · simp [hk]

/-- **The task returns**, with every row rewritten by `swept`. -/
theorem expireTemporaryBans_ok (env : Environment) (now : Int) (db : Database) :
    ∃ db', expireTemporaryBans env now db = .ok db' ∧ db'.bans = db.bans ∧
      ∀ k, db'.users.get? k = (db.users.get? k).map (swept now db) := by
  obtain ⟨db₁, hfold, hbans₁, hget₁⟩ :=
    foldlM_activate env now (db.users.rows.filter (activates now db)) db
  obtain ⟨hbans, hget⟩ := foldl_lift now (db₁.users.rows.filter (expires now db₁)) db₁
  refine ⟨_, ?_, hbans.trans hbans₁, fun k => ?_⟩
  · simp only [expireTemporaryBans, hfold, bind, Except.bind]
    rfl
  · rw [hget]
    cases hrow : db.users.get? k with
    | none => simp [hget₁, hrow]
    | some user =>
        have hpk : user.pk = k := Table.pk_of_get? hrow
        have hactivate : k ∈ (db.users.rows.filter (activates now db)).map User.pk ↔
            activates now db user = true := Table.mem_pks_filter hrow _
        have hrow₁ : db₁.users.get? k =
            some (if activates now db user then withStatus now .banned user else user) := by
          rw [hget₁, hrow]
          by_cases h : activates now db user
          · rw [if_pos (hactivate.mpr h), if_pos h, Option.map_some]
          · rw [if_neg (fun hc => h (hactivate.mp hc)), if_neg h]
        have hexpire : k ∈ (db₁.users.rows.filter (expires now db₁)).map User.pk ↔ _ :=
          Table.mem_pks_filter hrow₁ _
        have hsame : expires now db₁ = expires now db := by
          funext u
          rw [expires, expires, hbans₁]
        have hpk₁ : (if activates now db user then withStatus now .banned user else user).pk = k :=
          Table.pk_of_get? hrow₁
        rw [hsame] at hexpire
        rw [hrow₁, hsame, hbans₁]
        simp only [hexpire, Option.map_some, swept, hpk₁]
        exact (apply_ite some _ _ _).symm

/-- The rows afterwards are those before, swept. -/
theorem mem_of_swept (hget : ∀ k, db'.users.get? k = (db.users.get? k).map (swept now db))
    {user' : User} (h : user' ∈ db'.users) :
    ∃ user ∈ db.users, user.pk = user'.pk ∧ swept now db user = user' := by
  have hsome : db'.users.get? user'.pk = some user' := Table.get?_of_mem h
  rw [hget] at hsome
  obtain ⟨user, huser, heq⟩ := Option.map_eq_some_iff.mp hsome
  exact ⟨user, Table.mem_of_get? huser, Table.pk_of_get? huser, heq⟩

/-! ### Steps -/

namespace Lifecycle

variable {s s' : State} {e : Int × Call}

/-- A step is its call, made at its time. -/
theorem step_eq_some (hs : step env s e = some s') :
    s.clock ≤ e.1 ∧ s'.clock = e.1 ∧ s'.db = s.db.committed (e.2.run env e.1 s.db) := by
  unfold step at hs
  split at hs
  · rename_i hle
    cases hs
    exact ⟨hle, rfl, rfl⟩
  · cases hs

theorem step_expireTemporaryBans (hs : step env s (now, .expireTemporaryBans) = some s') :
    s'.clock = now ∧ s'.db.bans = s.db.bans ∧
      ∀ k, s'.db.users.get? k = (s.db.users.get? k).map (swept now s.db) := by
  obtain ⟨_, hclock, hdb⟩ := step_eq_some hs
  obtain ⟨db', hok, hbans, hget⟩ := expireTemporaryBans_ok env now s.db
  have hdb' : s'.db = db' := by
    rw [hdb, Call.run, hok]
    rfl
  rw [hdb']
  exact ⟨hclock, hbans, hget⟩

end Lifecycle

end DjangoFoundation
