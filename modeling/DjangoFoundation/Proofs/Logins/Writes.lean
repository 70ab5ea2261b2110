/-
What the two ends of a login write.

Checking a code can cost a recovery code, and opening the session writes sessions and the
user's row; beyond these a login that has authenticated somebody leaves nothing but events
and, from a new device, the rows its mail goes by.
-/
import DjangoFoundation.Authentication.Login

namespace DjangoFoundation

variable {env : Environment} {twoFactor : TwoFactor} {settings : LoginSettings} {now : Int}
variable {db db' : Database}

/-- What checking a code may write. -/
def WritesCodes (db db' : Database) : Prop :=
  ∃ recoveryCodes securityEvents,
    db' = { db with recoveryCodes := recoveryCodes, securityEvents := securityEvents }

theorem WritesCodes.refl (db : Database) : WritesCodes db db := ⟨_, _, rfl⟩

theorem verify_writes {user : UUID} {code : String} {valid : Bool}
    (h : TwoFactorService.verify env twoFactor now db user code = .ok (valid, db')) :
    WritesCodes db db' := by
  unfold TwoFactorService.verify at h
  split at h
  · cases h
    exact .refl db
  · split at h
    · cases h
      exact .refl db
    · dsimp only at h
      split at h
      · cases h
      · split at h
        · cases h
          exact .refl db
        · rw [Except.ok.injEq] at h
          unfold TwoFactorService.consumeRecoveryCode at h
          dsimp only at h
          split at h
          · cases h
            exact .refl db
          · cases h
            exact ⟨_, _, rfl⟩

theorem checkCode_writes {p : Protection} {user : User} {request : LoginRequest} :
    WritesCodes db (AuthenticationService.checkCode env twoFactor settings now db p user
      request).2.1 := by
  unfold AuthenticationService.checkCode
  split
  · split
    · exact .refl db
    · split
      · exact .refl db
      · rename_i db' hverify
        exact verify_writes hverify
      · rename_i db' hverify
        exact verify_writes hverify
  · exact .refl db

/-- What opening a session may write. -/
def WritesSession (db db' : Database) : Prop :=
  ∃ users userSessions sessions securityEvents,
    db' = { db with
      users := users
      userSessions := userSessions
      sessions := sessions
      securityEvents := securityEvents }

theorem WritesSession.refl (db : Database) : WritesSession db db := ⟨_, _, _, _, rfl⟩

theorem WritesSession.trans {a b c : Database} (h : WritesSession a b) (h' : WritesSession b c) :
    WritesSession a c := by
  obtain ⟨_, _, _, _, rfl⟩ := h
  obtain ⟨users, userSessions, sessions, securityEvents, rfl⟩ := h'
  exact ⟨users, userSessions, sessions, securityEvents, rfl⟩

theorem flush_writes {session : RequestSession} : WritesSession db (db.flush session) := by
  unfold Database.flush
  split <;> exact ⟨_, _, _, _, rfl⟩

theorem register_writes {user : UUID} {sessionKey userAgent identifier : String} {nonce : Nat} :
    WritesSession db (SessionService.register env now db user sessionKey userAgent identifier
      nonce) := by
  unfold SessionService.register
  dsimp only
  split <;> exact ⟨_, _, _, _, rfl⟩

theorem login_writes {r : Received} {user : User} {rememberMe : Bool}
    {newKey userAgent identifier : String} {nonce : Nat} :
    WritesSession r.db (AuthenticationService.login env now r user rememberMe newKey userAgent
      identifier nonce) := by
  have hlogin : WritesSession r.db (login env r user newKey).db := by
    unfold login
    dsimp only
    split
    · split
      · exact flush_writes
      · exact .refl r.db
    · exact flush_writes
  have hregister := @register_writes env now (login env r user newKey).db user.pk
    ((login env r user newKey).session.sessionKey.getD newKey) userAgent identifier nonce
  unfold AuthenticationService.login
  dsimp only
  split <;> exact hlogin.trans (hregister.trans ⟨_, _, _, _, rfl⟩)

theorem newDeviceLogin_writes {user : User} :
    ∃ preferences outbox, AuthenticationService.newDeviceLogin db user = { db with
      preferences := preferences
      securitySettings := db.securitySettings.ensure { user := user.pk }
      outbox := outbox } := by
  unfold AuthenticationService.newDeviceLogin
  dsimp only
  split <;> exact ⟨_, _, rfl⟩

/-- A login writes its session and, from a new device, what the mail about it takes. -/
theorem succeed_writes {user : User} {request : LoginRequest} :
    ∃ db', WritesSession db db' ∧
      (AuthenticationService.succeed env now db user request = db' ∨
        AuthenticationService.succeed env now db user request =
          AuthenticationService.newDeviceLogin db' user) := by
  have hsession := @login_writes env now { user := none, session := request.session, db := db }
    user request.rememberMe request.newKey request.client.userAgent request.sessionIdentifier
    request.nonce
  unfold AuthenticationService.succeed
  dsimp only
  split
  · refine ⟨_, ?_, Or.inr rfl⟩
    exact hsession.trans ⟨_, _, _, _, rfl⟩
  · refine ⟨_, ?_, Or.inl rfl⟩
    exact hsession.trans ⟨_, _, _, _, rfl⟩

end DjangoFoundation
