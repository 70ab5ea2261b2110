/-
What logins and password changes write to the tables of refresh tokens.

A login writes nothing to them before it is handed its token.  A password change blacklists
the tokens its query has found, and nothing else.
-/
import DjangoFoundation.Authentication.Passwords
import DjangoFoundation.Proofs.Lifecycle
import DjangoFoundation.Proofs.Logins.Writes

namespace DjangoFoundation

namespace Passwords

open AccountService SessionService TokenService

variable {env : Environment} {twoFactor : TwoFactor} {settings : LoginSettings} {now : Int}

/-! ### What leaves refresh tokens alone

One lemma for each service that a login or the checks of a password change pass through.
-/

/-- The tables of refresh tokens are the same. -/
structure SameTokens (db db' : Database) : Prop where
  outstandingTokens : db'.outstandingTokens = db.outstandingTokens
  blacklistedTokens : db'.blacklistedTokens = db.blacklistedTokens

theorem SameTokens.refl (db : Database) : SameTokens db db := ⟨rfl, rfl⟩

theorem SameTokens.trans {a b c : Database} (h : SameTokens a b) (h' : SameTokens b c) :
    SameTokens a c :=
  ⟨h'.outstandingTokens.trans h.outstandingTokens, h'.blacklistedTokens.trans h.blacklistedTokens⟩

section Frame

variable {db db' : Database}

theorem sameTokens_lockKnownAccount {identifier : String} {retryAfter : Int} {client : Client} :
    SameTokens db (LoginProtectionService.lockKnownAccount env now db identifier retryAfter
      client) := by
  unfold LoginProtectionService.lockKnownAccount
  split
  · exact .refl db
  · dsimp only
    split
    · exact ⟨rfl, rfl⟩
    · split <;> exact ⟨rfl, rfl⟩

theorem sameTokens_refuse {p : Protection} {request : LoginRequest} :
    SameTokens db (AuthenticationService.refuse env settings now db p request).db := by
  unfold AuthenticationService.refuse
  dsimp only
  split
  · obtain ⟨houtstanding, hblacklisted⟩ := @sameTokens_lockKnownAccount env now
      (db.record {
        eventType := .loginFailed
        user := none
        client := request.client
        metadata := [("identifier_hash",
          LoginProtectionService.digest env request.identifier)] })
      request.identifier
      (LoginProtectionService.registerFailure env settings now p request.identifier
        request.client.ipAddress).1.retryAfter request.client
    exact ⟨houtstanding, hblacklisted⟩
  · exact ⟨rfl, rfl⟩

theorem sameTokens_takeOffLock {user : User} {client : Client}
    (h : AuthenticationService.takeOffLock now db user client = .ok db') : SameTokens db db' := by
  unfold AuthenticationService.takeOffLock at h
  dsimp only at h
  split at h
  · cases h
    exact ⟨rfl, rfl⟩
  · split at h
    · cases h
    · cases h
      exact ⟨rfl, rfl⟩

theorem sameTokens_checkCode {p : Protection} {user : User} {request : LoginRequest} :
    SameTokens db (AuthenticationService.checkCode env twoFactor settings now db p user
      request).2.1 := by
  obtain ⟨_, _, hwrites⟩ := @checkCode_writes env twoFactor settings now db p user request
  rw [hwrites]
  exact ⟨rfl, rfl⟩

theorem sameTokens_succeed {user : User} {request : LoginRequest} :
    SameTokens db (AuthenticationService.succeed env now db user request) := by
  obtain ⟨_, ⟨_, _, _, _, rfl⟩, hsucceed | hsucceed⟩ := @succeed_writes env now db user request
  · rw [hsucceed]
    exact ⟨rfl, rfl⟩
  · obtain ⟨_, _, hdevice⟩ := newDeviceLogin_writes
    rw [hsucceed, hdevice]
    exact ⟨rfl, rfl⟩

theorem sameTokens_revoke {session : UserSession} {actor : Option UUID}
    (h : SessionService.revoke env now db session actor = .ok db') : SameTokens db db' := by
  unfold SessionService.revoke at h
  split at h
  · cases h
  · split at h
    · cases h
      exact .refl db
    · cases h
      unfold SessionService.revokeLocked
      dsimp only
      split <;> exact ⟨rfl, rfl⟩

theorem sameTokens_revokeAll {user : UUID} {actor : Option UUID} {sessionKey : Option String}
    {excludeCurrent : Bool}
    (h : revokeAll env now db user actor sessionKey excludeCurrent = .ok db') :
    SameTokens db db' := by
  unfold revokeAll at h
  generalize selected env db user sessionKey excludeCurrent = rows at h
  induction rows generalizing db with
  | nil =>
      cases h
      exact ⟨rfl, rfl⟩
  | cons row rows ih =>
      rw [List.foldlM_cons] at h
      obtain ⟨db₁, hrevoke, hrest⟩ := bind_eq_ok.mp h
      exact (sameTokens_revoke hrevoke).trans (ih hrest)

end Frame

/-! ### What a password change writes

`revoke_all_jwt` is a query and then a loop of `get_or_create`.  Taken apart, the second half
depends on the first only through the rows it found.
-/

section Change

variable {db db' : Database}

/-- A token is blacklisted where it was, or where it is among those found. -/
theorem blacklist_isNone (found : List OutstandingToken) (jti : String) :
    ((Call.blacklist db found).blacklistedTokens.get? jti).isNone = true ↔
      (db.blacklistedTokens.get? jti).isNone = true ∧ ∀ token ∈ found, token.jti ≠ jti := by
  have hfold : ∀ table : Table BlacklistedToken,
      ((found.foldl (fun blacklisted token => (blacklisted.insert? ⟨token.jti⟩).getD blacklisted)
        table).get? jti).isNone = true ↔
      (table.get? jti).isNone = true ∧ ∀ token ∈ found, token.jti ≠ jti := by
    induction found with
    | nil => simp
    | cons token found ih =>
        intro table
        have hget : (((table.insert? ⟨token.jti⟩).getD table).get? jti).isNone = true ↔
            (table.get? jti).isNone = true ∧ token.jti ≠ jti := by
          have hensure := Table.get?_ensure table ⟨token.jti⟩ jti
          rw [Table.ensure, show Keyed.pk (⟨token.jti⟩ : BlacklistedToken) = token.jti from rfl]
            at hensure
          rw [hensure]
          by_cases hjti : token.jti = jti
          · rw [if_pos hjti]
            simp [hjti]
          · rw [if_neg hjti]
            simp [hjti]
        rw [List.foldl_cons, ih, hget, List.forall_mem_cons, and_assoc]
  exact hfold db.blacklistedTokens

/-- `revoke_all_jwt` blacklists what is outstanding and the user's. -/
theorem blacklisted_revokeAllJwt (db : Database) (user : UUID) (jti : String) :
    (revokeAllJwt db user).blacklistedTokens.get? jti = none ↔
      db.blacklistedTokens.get? jti = none ∧
        ∀ token, db.outstandingTokens.get? jti = some token → token.user ≠ user := by
  have hblacklist := @blacklist_isNone db
    (db.outstandingTokens.rows.filter fun token => token.user = user) jti
  simp only [Option.isNone_iff_eq_none] at hblacklist
  refine hblacklist.trans (and_congr_right fun _ => ?_)
  constructor
  · intro hall token hget huser
    obtain ⟨hmem, hjti⟩ := Table.get?_eq_some.mp hget
    exact hall token (List.mem_filter.mpr ⟨hmem, by simpa using huser⟩) hjti
  · intro hall token htoken hjti
    obtain ⟨hmem, huser⟩ := List.mem_filter.mp htoken
    exact hall token (Table.get?_eq_some.mpr ⟨hmem, hjti⟩) (by simpa using huser)

/-- It returns, having blacklisted what it was given. -/
theorem write_ok (env : Environment) (now : Int) (db : Database) (user : User)
    (found : List OutstandingToken) (call : Call) :
    ∃ db', call.write env now db user found = .ok db' ∧
      db'.outstandingTokens = db.outstandingTokens ∧
      db'.blacklistedTokens = (Call.blacklist db found).blacklistedTokens := by
  cases call with
  | resetPassword rawToken newPassword salt sessionKey =>
      obtain ⟨db₁, hrevoke, _⟩ := revokeAll_revoked env now
        (stampPasswordChange now (setPassword env now db user.pk salt newPassword) user.pk)
        user.pk (some user.pk) sessionKey false
      have hsame := sameTokens_revokeAll hrevoke
      refine ⟨_, by simp only [Call.write, hrevoke, bind, Except.bind]; rfl, ?_, ?_⟩
      · exact hsame.outstandingTokens
      · show (Call.blacklist db₁ found).blacklistedTokens = _
        rw [Call.blacklist, hsame.blacklistedTokens]
        rfl
  | changePassword pk oldPassword newPassword salt sessionKey =>
      obtain ⟨db₁, hrevoke, _⟩ := revokeAll_revoked env now
        (stampPasswordChange now (setPassword env now db user.pk salt newPassword) user.pk)
        user.pk (some user.pk) sessionKey true
      have hsame := sameTokens_revokeAll hrevoke
      refine ⟨_, by simp only [Call.write, hrevoke, bind, Except.bind]; rfl, ?_, ?_⟩
      · exact hsame.outstandingTokens
      · show (Call.blacklist db₁ found).blacklistedTokens = _
        rw [Call.blacklist, hsame.blacklistedTokens]
        rfl

/-- The query of `revoke_all_jwt` finds what it would have found at the start. -/
theorem revokeAllJwt_eq {user : UUID} (h : db'.outstandingTokens = db.outstandingTokens) :
    revokeAllJwt db' user = Call.blacklist db' (Call.outstanding db user) := by
  rw [revokeAllJwt, Call.blacklist, Call.outstanding, h]

/-- A password change is its checks, and then its writes with the tokens outstanding. -/
theorem run_eq (env : Environment) (now : Int) (db : Database) (call : Call) :
    call.run env now db = (do
      let (user, db) ← call.checks env now db
      call.write env now db user (Call.outstanding db user.pk)) := by
  cases call with
  | resetPassword rawToken newPassword salt sessionKey =>
      simp only [Call.run, Call.checks, Call.write, resetPassword, bind, Except.bind]
      cases consume env now db rawToken .passwordReset with
      | error e => rfl
      | ok consumed =>
          obtain ⟨token, db₁⟩ := consumed
          dsimp only
          cases db₁.getUser token.user with
          | error e => rfl
          | ok user =>
              dsimp only
              by_cases haccept : env.acceptsPassword newPassword user = true
              · obtain ⟨db₂, hrevoke, _⟩ := revokeAll_revoked env now
                  (stampPasswordChange now (setPassword env now db₁ user.pk salt newPassword)
                    user.pk) user.pk (some user.pk) sessionKey false
                have hsame := (sameTokens_revokeAll hrevoke).outstandingTokens
                simp only [haccept, Bool.not_true, Bool.false_eq_true, if_false, pure, Except.pure,
                  hrevoke]
                rw [revokeAllJwt_eq hsame]
                rfl
              · simp only [haccept]
                rfl
  | changePassword pk oldPassword newPassword salt sessionKey =>
      simp only [Call.run, Call.checks, Call.write, changePassword, bind, Except.bind]
      cases db.getUser pk with
      | error e => rfl
      | ok user =>
          dsimp only
          by_cases hright : env.keyring.checkPassword oldPassword user.password = true
          · by_cases haccept : env.acceptsPassword newPassword user = true
            · obtain ⟨db₂, hrevoke, _⟩ := revokeAll_revoked env now
                (stampPasswordChange now (setPassword env now db user.pk salt newPassword)
                  user.pk) user.pk (some user.pk) sessionKey true
              have hsame := (sameTokens_revokeAll hrevoke).outstandingTokens
              simp only [hright, haccept, Bool.not_true, Bool.false_eq_true, if_false, pure,
                Except.pure, hrevoke]
              rw [revokeAllJwt_eq hsame]
              rfl
            · simp only [hright, haccept]
              rfl
          · simp only [hright]
            rfl

end Change

end Passwords

end DjangoFoundation
