/-
What an event may do to an account.

The columns that decide who can sign in are the password, the address, whether it is verified
and whether the account is active.  `moves_step` says once what becomes of them, of the tokens,
of the letters and of the requests under way: a confirmation saves them with a token of the
user's that is good, and whatever else does has been given the user's password.  Nothing after
this file unfolds an event again.

A request for a letter goes by a copy of the account's row, and the account may change before
the token is issued.  So the copies are part of the state, and what a step does is told of the
copy it was decided on as well as of the row.
-/
import DjangoFoundation.Accounts.Letters
import DjangoFoundation.Proofs.Identifiers
import DjangoFoundation.Proofs.Identity

namespace DjangoFoundation.Letters

open AccountService TokenService Run

variable {env : Environment} {validators : Validators} {timeout now : Int} {s t : State}
  {e : Event} {k : UUID} {row row' : User} {db db' : Database}

/-! ### What an event may do

The description is by what is the same afterwards.  A row is kept in the columns that matter,
or is new, or has been saved by somebody who had a token or the password; tokens and letters
only grow, but for being used.
-/

/-- The columns that decide who can sign in are as they were. -/
structure Guarded (row row' : User) : Prop where
  password : row'.password = row.password
  email : row'.email = row.email
  emailVerifiedAt : row'.emailVerifiedAt = row.emailVerifiedAt
  isActive : row'.isActive = row.isActive

theorem Guarded.refl (row : User) : Guarded row row := ⟨rfl, rfl, rfl, rfl⟩

theorem Guarded.trans {row'' : User} (h : Guarded row row') (h' : Guarded row' row'') :
    Guarded row row'' :=
  ⟨h'.password.trans h.password, h'.email.trans h.email,
    h'.emailVerifiedAt.trans h.emailVerifiedAt, h'.isActive.trans h.isActive⟩

/-- What a confirmation with a token makes of the row of its user. -/
inductive Confirms (env : Environment) (token : OneTimeToken) (row row' : User) :
    TokenPurpose → Prop
  | verifies (hunverified : row.emailVerifiedAt = none) (hemail : row'.email = row.email) :
      Confirms env token row row' .emailVerification
  | resets (hemail : row'.email = row.email)
      (hverified : row'.emailVerifiedAt = row.emailVerifiedAt)
      (hactive : row'.isActive = row.isActive) : Confirms env token row row' .passwordReset
  | readdresses {newEmail : String} (hlookup : token.metadata.lookup "new_email" = some newEmail)
      (hemail : row'.email = env.unicode.normalizeEmailAddress newEmail)
      (hverified : row'.emailVerifiedAt.isSome) : Confirms env token row row' .emailChange
  | deletes (hinactive : row'.isActive = false) : Confirms env token row row' .accountDeletion

/-- What an event may make of a row. -/
inductive Saves (env : Environment) (now : Int) (s : State) (e : Event) (k : UUID)
    (row row' : User) : Prop
  | keeps (h : Guarded row row')
  | confirms {c : Tokens.Confirmation} {token : OneTimeToken} (hevent : e = .confirm c)
      (husable : usable? env now s.db c.rawToken c.purpose = some token) (huser : token.user = k)
      (h : Confirms env token row row' c.purpose)
      (hactive : row'.isActive = true → row.isActive = true)
  | knows {password : String} (hgiven : e.password? s = some (k, password))
      (hcheck : env.keyring.checkPassword password row.password = true)
      (hemail : row'.email = row.email) (hverified : row'.emailVerifiedAt = row.emailVerifiedAt)
      (hactive : row'.isActive = true → row.isActive = true)

/-- A row of the tokens is one that was there, used now or not. -/
def Old (tokens : Table OneTimeToken) (token : OneTimeToken) : Prop :=
  ∃ old ∈ tokens, token.tokenHash = old.tokenHash ∧ token.user = old.user ∧
    token.purpose = old.purpose ∧ token.metadata = old.metadata ∧
    (token.usedAt = none → old.usedAt = none)

/-- What a request may be that was not there, or not so. -/
inductive Asked (env : Environment) (s : State) (e : Event) (r : InFlight) : Prop
  | recognised (huser : r.user ∈ s.db.users) (hnone : r.writing = none)
  | found {w : Writing} (huser : r.user ∈ s.db.users) (hwriting : r.writing = some w)
      (hissue : w.issue.user = r.user.pk) (hrecipient : w.recipient = r.user.email)
      (hpurpose : w.issue.purpose = .emailVerification ∧ r.user.emailVerifiedAt = none ∨
        w.issue.purpose = .passwordReset)
  | answered {old : InFlight} {w : Writing} {password : String} (hold : old ∈ s.requests)
      (huser : r.user = old.user) (hwriting : r.writing = some w)
      (hissue : w.issue.user = r.user.pk)
      (hgiven : e.password? s = some (r.user.pk, password))
      (hcheck : env.keyring.checkPassword password r.user.password = true)
      (hpurpose : w.issue.purpose = .emailChange ∧
          w.issue.metadata.lookup "new_email" = some w.recipient ∨
        w.issue.purpose = .accountDeletion ∧ w.recipient = r.user.email)

/-- What an event may do. -/
inductive Moves (env : Environment) (now : Int) (s : State) (e : Event) : State → Prop
  | acts {db' : Database}
      (hrow : ∀ k row, s.db.users.get? k = some row →
        ∃ row', db'.users.get? k = some row' ∧ Saves env now s e k row row' ∧
          row'.isSuperuser = row.isSuperuser)
      (hnone : ∀ k, s.db.users.get? k = none → db'.users.get? k = none)
      (htokens : ∀ token ∈ db'.oneTimeTokens, Old s.db.oneTimeTokens token) :
      Moves env now s e { s with clock := now, db := db' }
  | registers {user : User} {raw : String} {issue : Tokens.Issue} {db' : Database}
      (hnew : s.db.users.get? user.pk = none)
      (husers : ∀ k, db'.users.get? k = if k = user.pk then some user else s.db.users.get? k)
      (hunverified : user.emailVerifiedAt = none) (hplain : user.isSuperuser = false)
      (huser : issue.user = user.pk) (hpurpose : issue.purpose = .emailVerification)
      (htokens : ∀ token ∈ db'.oneTimeTokens,
        Old s.db.oneTimeTokens token ∨ token = issue.token env now now raw) :
      Moves env now s e { s with
        clock := now
        db := db'
        letters := s.letters ++ [⟨user.pk, .emailVerification, user.email, raw⟩] }
  | asks {requests : Table InFlight}
      (hrequests : ∀ r ∈ requests, r ∈ s.requests ∨ Asked env s e r) :
      Moves env now s e { s with clock := now, requests := requests }
  | sends {r : InFlight} {w : Writing} {raw : String} {db' : Database} (hr : r ∈ s.requests)
      (hwriting : r.writing = some w) (husers : db'.users = s.db.users)
      (htokens : ∀ token ∈ db'.oneTimeTokens,
        Old s.db.oneTimeTokens token ∨ token = w.issue.token env now now raw) :
      Moves env now s e {
        clock := now
        db := db'
        letters := s.letters ++ [⟨w.issue.user, w.issue.purpose, w.recipient, raw⟩]
        requests := s.requests.erase r.request }

/-! ### Rows

Services are known by how they rewrite the table of users.  A rewriting of one row gives the
rows one by one.
-/

theorem Old.refl {tokens : Table OneTimeToken} {token : OneTimeToken} (h : token ∈ tokens) :
    Old tokens token := ⟨token, h, rfl, rfl, rfl, rfl, id⟩

/-- Marking tokens makes no new ones. -/
theorem old_of_update {tokens : Table OneTimeToken} {p : OneTimeToken → Bool} {token : OneTimeToken}
    (h : token ∈ tokens.update p (fun t => { t with usedAt := some now }) (used_pk now)) :
    Old tokens token := by
  obtain ⟨old, hold, rfl⟩ := Table.mem_update.mp h
  split
  · exact ⟨old, hold, rfl, rfl, rfl, rfl, fun hused => by cases hused⟩
  · exact .refl hold

theorem bearer?_eq_some {rawToken : String} {purpose : TokenPurpose} {b : OneTimeToken × User}
    (h : bearer? env now db rawToken purpose = some b) :
    usable? env now db rawToken purpose = some b.1 ∧ db.users.get? b.1.user = some b.2 ∧
      b.2.pk = b.1.user := by
  obtain ⟨token, htoken, hmap⟩ := Option.bind_eq_some_iff.mp h
  obtain ⟨user, huser, rfl⟩ := Option.map_eq_some_iff.mp hmap
  exact ⟨htoken, huser, Table.pk_of_get? huser⟩

/-- The rows after an event, one by one. -/
def Rows (env : Environment) (now : Int) (s : State) (e : Event) (db' : Database) : Prop :=
  (∀ k row, s.db.users.get? k = some row →
    ∃ row', db'.users.get? k = some row' ∧ Saves env now s e k row row' ∧
      row'.isSuperuser = row.isSuperuser) ∧
  ∀ k, s.db.users.get? k = none → db'.users.get? k = none

theorem rows_of_rewrites {target : Option UUID} {f : User → User} {old : Database}
    (h : Rewrites target f old db') (hfrom : old.users = s.db.users)
    (hplain : ∀ row, (f row).isSuperuser = row.isSuperuser)
    (hf : ∀ k row, target = some k → s.db.users.get? k = some row →
      Saves env now s e k row (f row)) : Rows env now s e db' := by
  refine ⟨fun k row hrow => ⟨_, h.row_eq (hfrom ▸ hrow), ?_⟩, fun k hnone => ?_⟩
  · split
    · rename_i htarget
      exact ⟨hf k row htarget hrow, hplain row⟩
    · exact ⟨.keeps (.refl row), rfl⟩
  · rw [h.users k, hfrom, hnone]
    split <;> rfl

theorem rows_of_users (h : db'.users = s.db.users) : Rows env now s e db' := by
  refine ⟨fun k row hrow => ⟨row, by rw [h]; exact hrow, .keeps (.refl row), rfl⟩,
    fun k hnone => ?_⟩
  rw [h]
  exact hnone

/-- A call that raises does nothing. -/
theorem moves_of_committed {result : Except Exception Database}
    (hrows : Rows env now s e (s.db.committed result))
    (htokens : ∀ db', result = .ok db' → ∀ token ∈ db'.oneTimeTokens, Old s.db.oneTimeTokens token) :
    Moves env now s e { s with clock := now, db := s.db.committed result } := by
  refine .acts hrows.1 hrows.2 ?_
  cases result with
  | error _ => exact fun token htoken => .refl htoken
  | ok db' => exact htokens db' rfl

/-! ### Confirmations

The three confirmations differ in what they make of the row, and agree in what they need: a
token of the user's, for that purpose.
-/

theorem isSuperuser_verified (now : Int) (row : User) :
    (verified now row).isSuperuser = row.isSuperuser := by
  unfold verified
  split <;> rfl

theorem rows_confirm (c : Tokens.Confirmation) :
    Rows env now s (.confirm c) (s.db.committed (c.run env now s.db)) := by
  cases c with
  | verifyEmail rawToken =>
      refine rows_of_rewrites (rewrites_verifyEmail env now s.db rawToken) rfl
        (isSuperuser_verified now) fun k row htarget hrow => ?_
      obtain ⟨b, hb, rfl⟩ := Option.map_eq_some_iff.mp htarget
      obtain ⟨husable, huser, hpk⟩ := bearer?_eq_some hb
      rw [hpk, huser, Option.some.injEq] at hrow
      subst hrow
      unfold verified
      by_cases hverified : b.2.emailVerifiedAt.isSome
      · rw [if_pos hverified]
        exact .keeps (.refl _)
      · rw [if_neg hverified]
        exact .confirms rfl husable hpk.symm
          (.verifies (Option.not_isSome_iff_eq_none.mp hverified) rfl) id
  | resetPassword rawToken newPassword salt sessionKey =>
      refine rows_of_rewrites (rewrites_resetPassword env now s.db rawToken newPassword salt sessionKey)
        rfl (fun _ => rfl) fun k row htarget hrow => ?_
      obtain ⟨b, hb, hpassword⟩ := Option.bind_eq_some_iff.mp htarget
      obtain ⟨husable, huser, hpk⟩ := bearer?_eq_some hb
      split at hpassword
      · cases hpassword
        exact .confirms rfl husable hpk.symm (.resets rfl rfl rfl) id
      · cases hpassword
  | confirmEmailChange rawToken sessionKey =>
      refine rows_of_rewrites (rewrites_confirmEmailChange env now s.db rawToken sessionKey)
        rfl (fun _ => rfl) fun k row htarget hrow => ?_
      obtain ⟨⟨k', email⟩, hchange, rfl⟩ := Option.map_eq_some_iff.mp htarget
      obtain ⟨b, hb, hlookup⟩ := Option.bind_eq_some_iff.mp hchange
      obtain ⟨newEmail, hmetadata, hfree⟩ := Option.bind_eq_some_iff.mp hlookup
      obtain ⟨husable, huser, hpk⟩ := bearer?_eq_some hb
      dsimp only at hfree
      split at hfree
      · cases hfree
      · cases hfree
        rw [hchange, Option.map_some, Option.getD_some]
        exact .confirms rfl husable hpk.symm (.readdresses hmetadata rfl rfl) id
  | confirmDeletion rawToken suffix sessionKey =>
      refine rows_of_rewrites (rewrites_confirmDeletion env now s.db rawToken suffix sessionKey)
        rfl (fun _ => rfl) fun k row htarget hrow => ?_
      obtain ⟨token, _, husable, huser, _⟩ := deletion?_eq_some htarget
      exact .confirms rfl husable huser (.deletes rfl) fun hactive => by cases hactive

theorem moves_confirm (c : Tokens.Confirmation) : Moves env now s (.confirm c)
    { s with clock := now, db := s.db.committed (c.run env now s.db) } := by
  refine moves_of_committed (rows_confirm c) fun db' hok token htoken => ?_
  obtain ⟨used, _, htokens⟩ := Identity.tokens_confirm hok
  rw [htokens] at htoken
  exact old_of_update htoken

/-! ### What needs the password

Changing the password and deactivating the account both begin with a check of it.
-/

theorem moves_changePassword (user : UUID) (oldPassword newPassword salt : String)
    (sessionKey : Option String) :
    Moves env now s (.changePassword user oldPassword newPassword salt sessionKey)
      { s with
        clock := now
        db := s.db.committed
          (changePassword env now s.db user oldPassword newPassword salt sessionKey) } := by
  refine moves_of_committed ?_ fun db' hok token htoken => ?_
  · rcases Sessions.changePassword_cases env now s.db user oldPassword newPassword salt sessionKey
      with ⟨_, e, herr⟩ | ⟨⟨locked, hlocked, hcheck, _⟩, db₁, rows, hok, hrev⟩
    · rw [herr]
      exact rows_of_users rfl
    · rw [hok]
      have hrewrites : Rewrites (some locked.pk) (fun u => { u with
          password := env.keyring.makePassword salt newPassword, updatedAt := now }) s.db db₁ := by
        obtain rfl : locked.pk = user := Table.pk_of_get? hlocked
        exact .modified (fun _ => by rfl) hrev.accounts.users hrev.accounts.bans hlocked rfl
      refine rows_of_rewrites hrewrites rfl (fun _ => rfl) fun k row hk hrow => ?_
      obtain rfl : locked.pk = user := Table.pk_of_get? hlocked
      cases hk
      rw [hlocked, Option.some.injEq] at hrow
      subst hrow
      exact .knows rfl hcheck rfl rfl id
  · rw [Identity.tokens_changePassword hok] at htoken
    exact .refl htoken

theorem deactivate_eq_ok {user : UUID} {password : String} {sessionKey : Option String}
    (h : deactivate env now db user password sessionKey = .ok db') :
    ∃ locked, db.users.get? user = some locked ∧
      env.keyring.checkPassword password locked.password = true ∧
      Rewrites (some user) (deactivated now) db db' ∧ db'.oneTimeTokens = db.oneTimeTokens := by
  obtain ⟨locked, hlocked, hlater⟩ := bind_eq_ok.mp h
  have hrow := getUser_eq_ok hlocked
  obtain rfl : locked.pk = user := Table.pk_of_get? hrow
  split at hlater
  · cases hlater
  · rename_i hcheck
    obtain ⟨db₁, hrevoke, hlast⟩ := bind_eq_ok.mp hlater
    cases hlast
    have hsame := SessionService.sameAccounts_revokeAll hrevoke
    exact ⟨locked, hrow, by simpa using hcheck,
      .modified (deactivated_pk now) hsame.users hsame.bans hrow rfl, hsame.oneTimeTokens⟩

theorem moves_deactivate (user : UUID) (password : String) (sessionKey : Option String) :
    Moves env now s (.deactivate user password sessionKey)
      { s with
        clock := now
        db := s.db.committed (deactivate env now s.db user password sessionKey) } := by
  refine moves_of_committed ?_ fun db' hok token htoken => ?_
  · cases hresult : deactivate env now s.db user password sessionKey with
    | error _ => exact rows_of_users rfl
    | ok db' =>
        obtain ⟨locked, hlocked, hcheck, hrewrites, _⟩ := deactivate_eq_ok hresult
        refine rows_of_rewrites hrewrites rfl (fun _ => rfl) fun k row hk hrow => ?_
        cases hk
        rw [hlocked, Option.some.injEq] at hrow
        subst hrow
        exact .knows rfl hcheck rfl rfl fun hactive => by cases hactive
  · obtain ⟨_, _, _, _, htokens⟩ := deactivate_eq_ok hok
    rw [htokens] at htoken
    exact .refl htoken

/-! ### Names and bans

These write to rows too, but to none of the columns above: a ban sets a status, and a renaming
the username.
-/

theorem moves_changeUsername (user : UUID) (username : String) :
    Moves env now s (.changeUsername user username)
      { s with
        clock := now
        db := s.db.committed (changeUsername env validators now s.db user username) } := by
  refine moves_of_committed ?_ fun db' hok token htoken => ?_
  · cases hresult : changeUsername env validators now s.db user username with
    | error _ => exact rows_of_users rfl
    | ok db' =>
        obtain ⟨locked, _, _, hrewrites, _⟩ := changeUsername_eq_ok hresult
        exact rows_of_rewrites hrewrites rfl (fun _ => rfl) fun k row _ _ =>
          .keeps ⟨rfl, rfl, rfl, rfl⟩
  · obtain ⟨locked, _, h⟩ := bind_eq_ok.mp hok
    dsimp only at h
    split at h
    · cases h
    · split at h
      · cases h
      · cases h
        exact .refl htoken

/-- Another status is all a ban gives a row, or takes from it. -/
theorem guarded_withStatus (now : Int) (status : AccountStatus) (row : User) :
    Guarded row (withStatus now status row) := ⟨rfl, rfl, rfl, rfl⟩

theorem moves_ban (pk user : UUID) (reason : String) (actor : Option UUID)
    (startsAt expiresAt : Option Int) (sessionKey : Option String) :
    Moves env now s (.ban pk user reason actor startsAt expiresAt sessionKey)
      { s with
        clock := now
        db := s.db.committed
          (BanService.ban env now s.db pk user reason actor startsAt expiresAt sessionKey) } := by
  refine moves_of_committed ?_ fun db' hok token htoken => ?_
  · obtain ⟨bans, _, _, hrewrites⟩ :=
      rewrites_ban env now s.db pk user reason actor startsAt expiresAt sessionKey
    exact rows_of_rewrites hrewrites rfl (fun _ => rfl) fun k row _ _ =>
      .keeps (guarded_withStatus now _ row)
  · rw [Identity.tokens_ban hok] at htoken
    exact .refl htoken

theorem moves_revoke (pk : UUID) (actor : Option UUID) :
    Moves env now s (.revoke pk actor)
      { s with clock := now, db := s.db.committed (BanService.revoke now s.db pk actor) } := by
  refine moves_of_committed ?_ fun db' hok token htoken => ?_
  · rcases rewrites_revoke now s.db pk actor with ⟨hsame, _⟩ | ⟨ban, user, _, _, _, hrewrites⟩
    · exact rows_of_users (by rw [hsame])
    · exact rows_of_rewrites hrewrites rfl (fun _ => rfl) fun k row _ _ =>
        .keeps (guarded_withStatus now _ row)
  · rw [Identity.tokens_revoke hok] at htoken
    exact .refl htoken

theorem guarded_swept (now : Int) (db : Database) (row : User) :
    Guarded row (swept now db row) := by
  unfold swept
  dsimp only
  split_ifs
  · exact (guarded_withStatus now .banned row).trans (guarded_withStatus now .active _)
  · exact guarded_withStatus now .banned row
  · exact guarded_withStatus now .active row
  · exact .refl row

theorem isSuperuser_swept (now : Int) (db : Database) (row : User) :
    (swept now db row).isSuperuser = row.isSuperuser := by
  unfold swept
  dsimp only
  split_ifs <;> rfl

theorem moves_expireTemporaryBans : Moves env now s .expireTemporaryBans
    { s with clock := now, db := s.db.committed (expireTemporaryBans env now s.db) } := by
  obtain ⟨db', hok, -, hget⟩ := expireTemporaryBans_ok env now s.db
  refine moves_of_committed ?_ fun db' hok token htoken => ?_
  · rw [hok]
    refine ⟨fun k row hrow => ⟨swept now s.db row, ?_, .keeps (guarded_swept now s.db row),
      isSuperuser_swept now s.db row⟩, ?_⟩
    · rw [Database.committed, hget, hrow, Option.map_some]
    · intro k hnone
      rw [Database.committed, hget, hnone, Option.map_none]
  · rw [Identity.tokens_expireTemporaryBans hok] at htoken
    exact .refl htoken

/-! ### Letters

A request for a letter reads the row and answers later, with the token issued then.  In between
the row may have changed, so a request under way is remembered with what it has read.
-/

/-- A token that is issued is the only new one. -/
theorem tokens_of_issue {user : UUID} {purpose : TokenPurpose} {ttl : Int}
    {metadata : List (String × String)} {raw : String}
    (h : issue env now db user purpose ttl metadata raw = .ok db') :
    ∀ token ∈ db'.oneTimeTokens, Old db.oneTimeTokens token ∨
      token = Tokens.Issue.token env now ⟨user, purpose, ttl, metadata⟩ now raw := by
  unfold issue at h
  dsimp only at h
  split at h
  · rename_i hinsert
    cases h
    intro token htoken
    rcases (Table.mem_insert? hinsert).mp htoken with hold | rfl
    · exact Or.inl (old_of_update hold)
    · exact Or.inr rfl
  · cases h

theorem createUser_tokens {pk : UUID} {email username password salt firstName lastName : String}
    (h : createUser env validators now db pk email username password salt firstName lastName
      = .ok db') :
    ∃ user : User, db.users.insert? user = some db'.users ∧ user.pk = pk ∧
      user.emailVerifiedAt = none ∧ user.isSuperuser = false ∧
      db'.oneTimeTokens = db.oneTimeTokens := by
  unfold createUser at h
  dsimp only at h
  split at h
  · cases h
  · split at h
    · cases h
    · split at h
      · cases h
      · split at h
        · cases h
        · rename_i users hinsert
          cases h
          exact ⟨_, hinsert, rfl, rfl, rfl, rfl⟩

theorem createRows_tokens {user : UUID} (h : createRows db user = .ok db') :
    db'.users = db.users ∧ db'.oneTimeTokens = db.oneTimeTokens := by
  unfold createRows at h
  split at h
  · cases h
    exact ⟨rfl, rfl⟩
  · cases h

theorem registerUser_issues {pk : UUID}
    {email username password salt firstName lastName raw : String}
    (h : registerUser env validators now db pk email username password salt firstName lastName raw
      = .ok db') :
    ∃ user : User, db.users.insert? user = some db'.users ∧ user.pk = pk ∧
      user.emailVerifiedAt = none ∧ user.isSuperuser = false ∧
      ∀ token ∈ db'.oneTimeTokens, Old db.oneTimeTokens token ∨
        token = Tokens.Issue.token env now ⟨pk, .emailVerification, minutes (60 * 24), []⟩ now
          raw := by
  unfold registerUser at h
  by_cases haccept : validators.acceptsNewPassword password = true
  · simp only [haccept, Bool.not_true, Bool.false_eq_true, if_false] at h
    obtain ⟨db₁, hcreate, h₁⟩ := bind_eq_ok.mp h
    obtain ⟨user, hget, h₂⟩ := bind_eq_ok.mp h₁
    obtain ⟨db₂, hrows, h₃⟩ := bind_eq_ok.mp h₂
    obtain ⟨db₃, hissue, h₄⟩ := bind_eq_ok.mp h₃
    cases h₄
    obtain ⟨created, hinsert, hpk, hunverified, hplain, htokens⟩ := createUser_tokens hcreate
    have hsame : db₂.users = db₁.users ∧ db₂.oneTimeTokens = db₁.oneTimeTokens :=
      createRows_tokens hrows
    have husers : db₃.users = db₁.users := (users_issue hissue).trans hsame.1
    refine ⟨created, ?_, hpk, hunverified, hplain, fun token htoken => ?_⟩
    · exact husers ▸ hinsert
    · have huser : user.pk = pk := Table.pk_of_get? (getUser_eq_ok hget)
      rw [← huser, ← htokens, ← hsame.2]
      exact tokens_of_issue hissue token htoken
  · simp only [haccept] at h
    cases h

theorem mem_of_newest {users : List User} {user : User}
    (h : LoginProtectionService.newest users = some user) : user ∈ users := by
  induction users with
  | nil => cases h
  | cons first users ih =>
      rw [LoginProtectionService.newest] at h
      cases hrest : LoginProtectionService.newest users with
      | none =>
          simp only [hrest, Option.some.injEq] at h
          exact h ▸ List.mem_cons_self
      | some other =>
          simp only [hrest] at h
          split at h
          · exact List.mem_cons_of_mem _ (ih (hrest.trans h))
          · cases h
            exact List.mem_cons_self

/-- A request that has found whom to write to. -/
theorem moves_found {request : Nat} {result : Option (User × Writing)}
    (hfound : ∀ user w, result = some (user, w) → Asked env s e ⟨request, user, some w⟩)
    (h : State.found { s with clock := now } request result = some t) : Moves env now s e t := by
  cases result with
  | none =>
      cases h
      exact .asks fun r hr => Or.inl hr
  | some found =>
      obtain ⟨requests, hinsert, rfl⟩ := Option.map_eq_some_iff.mp h
      refine .asks fun r hr => ?_
      rcases (Table.mem_insert? hinsert).mp hr with hold | rfl
      · exact Or.inl hold
      · exact Or.inr (hfound _ _ rfl)

theorem asked_resendVerification {request : Nat} {email : String} {user : User} {w : Writing}
    (h : resendVerification env s.db email = some (user, w)) :
    Asked env s e ⟨request, user, some w⟩ := by
  obtain ⟨found, hnewest, heq⟩ := Option.map_eq_some_iff.mp h
  cases heq
  obtain ⟨hmem, hfilter⟩ := List.mem_filter.mp (mem_of_newest hnewest)
  simp only [Bool.and_eq_true, Option.isNone_iff_eq_none] at hfilter
  exact .found hmem rfl rfl rfl (Or.inl ⟨rfl, hfilter.1.2⟩)

theorem asked_requestPasswordReset {request : Nat} {email : String} {user : User} {w : Writing}
    (h : requestPasswordReset env timeout s.db email = some (user, w)) :
    Asked env s e ⟨request, user, some w⟩ := by
  obtain ⟨found, hnewest, heq⟩ := Option.map_eq_some_iff.mp h
  cases heq
  exact .found (List.mem_filter.mp (mem_of_newest hnewest)).1 rfl rfl rfl (Or.inr rfl)

/-- A request that was recognised is answered, or gone. -/
theorem moves_answered {r : InFlight} {password : String} {result : Except Exception Writing}
    (hr : s.requests.get? r.request = some r) (hgiven : e.password? s = some (r.user.pk, password))
    (hok : ∀ w, result = .ok w → env.keyring.checkPassword password r.user.password = true ∧
      w.issue.user = r.user.pk ∧
      (w.issue.purpose = .emailChange ∧
          w.issue.metadata.lookup "new_email" = some w.recipient ∨
        w.issue.purpose = .accountDeletion ∧ w.recipient = r.user.email)) :
    Moves env now s e (State.answered { s with clock := now } r result) := by
  cases result with
  | error _ => exact .asks fun r' hr' => Or.inl (Table.mem_erase.mp hr').1
  | ok w =>
      obtain ⟨hcheck, hissue, hpurpose⟩ := hok w rfl
      refine .asks fun r' hr' => ?_
      rcases Table.mem_modify.mp hr' with ⟨old, hold, hpk, rfl⟩ | ⟨hkept, _⟩
      · obtain rfl : old = r := Table.eq_of_pk_eq hold (Table.mem_of_get? hr) hpk
        exact Or.inr (.answered hold rfl rfl hissue hgiven hcheck hpurpose)
      · exact Or.inl hkept

theorem requestEmailChange_eq_ok {user : User} {password newEmail : String} {w : Writing}
    (h : requestEmailChange env db user password newEmail = .ok w) :
    env.keyring.checkPassword password user.password = true ∧ w.issue.user = user.pk ∧
      w.issue.purpose = .emailChange ∧
      w.issue.metadata.lookup "new_email" = some w.recipient := by
  unfold requestEmailChange at h
  by_cases hcheck : env.keyring.checkPassword password user.password = true
  · simp only [hcheck, Bool.not_true, Bool.false_eq_true, if_false] at h
    split at h
    · cases h
    · cases h
      exact ⟨hcheck, rfl, rfl, rfl⟩
  · simp only [hcheck] at h
    cases h

theorem requestDeletion_eq_ok {user : User} {password : String} {w : Writing}
    (h : requestDeletion env user password = .ok w) :
    env.keyring.checkPassword password user.password = true ∧ w.issue.user = user.pk ∧
      w.issue.purpose = .accountDeletion ∧ w.recipient = user.email := by
  unfold requestDeletion at h
  by_cases hcheck : env.keyring.checkPassword password user.password = true
  · simp only [hcheck, Bool.not_true, Bool.false_eq_true, if_false] at h
    cases h
    exact ⟨hcheck, rfl, rfl, rfl⟩
  · simp only [hcheck] at h
    cases h

/-! ### Steps -/

/-- **What a step may do.** -/
theorem moves_step {e : Int × Event} (h : step env validators timeout s e = some t) :
    Moves env e.1 s e.2 t := by
  obtain ⟨now, e⟩ := e
  unfold step at h
  split at h
  case isFalse => cases h
  cases e with
  | register pk email username password salt firstName lastName raw =>
      simp only [apply] at h
      cases hresult : registerUser env validators now s.db pk email username password salt firstName
          lastName raw with
      | error _ =>
          simp only [hresult, Option.some.injEq] at h
          subst h
          exact .asks fun r hr => Or.inl hr
      | ok db' =>
          simp only [hresult, Option.some.injEq] at h
          subst h
          obtain ⟨user, hinsert, rfl, hunverified, hplain, htokens⟩ := registerUser_issues hresult
          have hnew : s.db.users.get? user.pk = none := by
            rw [Table.get?_eq_none]
            exact (Table.insert?_eq_some hinsert).1
          have hself : db'.users.get? user.pk = some user := Table.get?_insert?_self hinsert
          rw [hself]
          refine .registers hnew (fun k => ?_) hunverified hplain rfl rfl htokens
          rw [Table.get?_insert? hinsert]
          exact if_congr eq_comm rfl rfl
  | resendVerification request email => exact moves_found (fun _ _ => asked_resendVerification) h
  | requestPasswordReset request email =>
      exact moves_found (fun _ _ => asked_requestPasswordReset) h
  | recognise request user =>
      obtain ⟨row, hrow, h⟩ := Option.bind_eq_some_iff.mp h
      obtain ⟨requests, hinsert, h⟩ := Option.bind_eq_some_iff.mp h
      cases h
      refine .asks fun r hr => ?_
      rcases (Table.mem_insert? hinsert).mp hr with hold | rfl
      · exact Or.inl hold
      · exact Or.inr (.recognised (Table.mem_of_get? hrow) rfl)
  | requestEmailChange request password newEmail =>
      obtain ⟨r, hr, h⟩ := Option.bind_eq_some_iff.mp h
      cases h
      have hget : s.requests.get? request = some r := (Option.filter_eq_some_iff.mp hr).1
      obtain rfl : r.request = request := Table.pk_of_get? hget
      refine moves_answered hget (by rw [Event.password?, hget]; rfl) fun w hok => ?_
      obtain ⟨hcheck, huser, hpurpose⟩ := requestEmailChange_eq_ok hok
      exact ⟨hcheck, huser, Or.inl hpurpose⟩
  | requestDeletion request password =>
      obtain ⟨r, hr, h⟩ := Option.bind_eq_some_iff.mp h
      cases h
      have hget : s.requests.get? request = some r := (Option.filter_eq_some_iff.mp hr).1
      obtain rfl : r.request = request := Table.pk_of_get? hget
      refine moves_answered hget (by rw [Event.password?, hget]; rfl) fun w hok => ?_
      obtain ⟨hcheck, huser, hpurpose⟩ := requestDeletion_eq_ok hok
      exact ⟨hcheck, huser, Or.inr hpurpose⟩
  | send request raw =>
      obtain ⟨r, hr, h⟩ := Option.bind_eq_some_iff.mp h
      obtain ⟨w, hw, h⟩ := Option.bind_eq_some_iff.mp h
      dsimp only at hr h
      obtain rfl : r.request = request := Table.pk_of_get? hr
      cases hsend : w.send env now s.db raw with
      | error _ =>
          rw [hsend] at h
          cases h
          exact .asks fun r' hr' => Or.inl (Table.mem_erase.mp hr').1
      | ok db' =>
          rw [hsend] at h
          cases h
          obtain ⟨db₁, hissue, hmail⟩ := bind_eq_ok.mp hsend
          cases hmail
          have husers : db₁.users = s.db.users := users_issue hissue
          have htokens := tokens_of_issue hissue
          exact .sends (Table.mem_of_get? hr) hw husers htokens
  | confirm c =>
      cases h
      exact moves_confirm c
  | changePassword user oldPassword newPassword salt sessionKey =>
      cases h
      exact moves_changePassword user oldPassword newPassword salt sessionKey
  | changeUsername user username =>
      cases h
      exact moves_changeUsername user username
  | deactivate user password sessionKey =>
      cases h
      exact moves_deactivate user password sessionKey
  | ban pk user reason actor startsAt expiresAt sessionKey =>
      cases h
      exact moves_ban pk user reason actor startsAt expiresAt sessionKey
  | revoke pk actor =>
      cases h
      exact moves_revoke pk actor
  | expireTemporaryBans =>
      cases h
      exact moves_expireTemporaryBans

end DjangoFoundation.Letters
