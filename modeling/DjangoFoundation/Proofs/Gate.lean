/-
Where the account gate stands, and where it does not.

Each credential has its own check of the account.  An API key and a token are refused by
the class that reads them, and nothing after that class runs.  A session is checked
earlier, in the middleware, and what the middleware does when it refuses one is delete
the session: the user has been looked up by then, and session authentication takes the
user.  So the gate holds for every request but one kind, which `StaleSession` names.

The reading of the middleware matters here.  It flushes the session of a user who may not
authenticate and goes on with the request, whose user it leaves as it is; a comment or a check
that expects an anonymous user afterwards would expect what the code does not do.
-/
import DjangoFoundation.Authentication.Requests

namespace DjangoFoundation

variable {env : Environment} {jwt : Jwt} {settings : Settings} {now : Int} {db : Database}
  {request : Request} {user : User}

/-! ### Sessions

A session is looked up by the key in the cookie, and whose it is is read off the session
itself: the user it names, and the hash that user's password had.  The account gate has no part
in this yet.  What is settled here is only which user the request carries when the middleware
gets it.
-/

/-- The session is live and says it is `u`'s, with the hash of the password `u` has. -/
def Authenticates (env : Environment) (now : Int) (db : Database) (session : Session)
    (u : UUID) : Prop :=
  session.expireDate > now ∧ session.data.userId = some u ∧ ∃ row, db.users.get? u = some row ∧
    session.data.authHash = some (env.keyring.sessionAuthHash row.password)

/-- The request's cookie names a session that authenticates an active user. -/
def SignedIn (env : Environment) (now : Int) (db : Database) (request : Request)
    (user : User) : Prop :=
  ∃ key session, request.sessionCookie = some key ∧ db.sessions.get? key = some session ∧
    Authenticates env now db session user.pk ∧ db.users.get? user.pk = some user ∧
    user.isActive = true

/-- A request has the session its cookie names, if that is live, or an empty one. -/
theorem loadSession_cases (now : Int) (db : Database)
    (cookie : Option String) :
    loadSession now db cookie = {} ∨ ∃ session, cookie = some session.sessionKey ∧
      session ∈ db.sessions ∧ session.expireDate > now ∧
      loadSession now db cookie = ⟨some session.sessionKey, session.data⟩ := by
  unfold loadSession
  cases hfind : cookie.bind db.sessions.get? with
  | none => exact Or.inl rfl
  | some session =>
      obtain ⟨key, hcookie, hget⟩ := Option.bind_eq_some_iff.mp hfind
      have hpk : session.sessionKey = key := Table.pk_of_get? hget
      by_cases hlive : session.expireDate > now
      · exact Or.inr ⟨session, hpk ▸ hcookie, Table.mem_of_get? hget, hlive, if_pos hlive⟩
      · exact Or.inl (if_neg hlive)

theorem getUser_eq_some {session : RequestSession} :
    (getUser env db session).user = some user ↔ session.data.userId = some user.pk ∧
      db.users.get? user.pk = some user ∧ user.isActive = true ∧
      session.data.authHash = some (env.keyring.sessionAuthHash user.password) := by
  unfold getUser
  cases hfind : session.data.userId.bind fun userId =>
      (db.users.get? userId).filter fun user => user.isActive with
  | none =>
      simp only [reduceCtorEq, false_iff]
      rintro ⟨huserId, hrow, hactive, _⟩
      rw [huserId, Option.bind_some, hrow, Option.filter_some_pos hactive] at hfind
      cases hfind
  | some row =>
      obtain ⟨userId, huserId, hrow⟩ := Option.bind_eq_some_iff.mp hfind
      rw [Option.filter_eq_some_iff] at hrow
      obtain rfl : row.pk = userId := Table.pk_of_get? hrow.1
      by_cases hhash : session.data.authHash = some (env.keyring.sessionAuthHash row.password)
      · simp only [hhash, if_true, Option.some.injEq]
        constructor
        · rintro rfl
          exact ⟨huserId, hrow.1, hrow.2, rfl⟩
        · rintro ⟨hsame, huser, _⟩
          rw [huserId, Option.some.injEq] at hsame
          rw [← hsame, hrow.1, Option.some.injEq] at huser
          exact huser
      · simp only [hhash, if_false, Received.flush, reduceCtorEq, false_iff]
        rintro ⟨hsame, huser, _, hother⟩
        rw [huserId, Option.some.injEq] at hsame
        rw [← hsame, hrow.1, Option.some.injEq] at huser
        exact hhash (huser ▸ hother)

/-- The user of a request is the one its session signs in. -/
theorem getUser_loadSession :
    (getUser env db (loadSession now db request.sessionCookie)).user = some user ↔
      SignedIn env now db request user := by
  rw [getUser_eq_some]
  constructor
  · rintro ⟨huserId, hrow, hactive, hhash⟩
    rcases loadSession_cases now db request.sessionCookie with
      hempty | ⟨session, hcookie, hmem, hlive, hload⟩
    · rw [hempty] at huserId
      cases huserId
    · rw [hload] at huserId hhash
      exact ⟨session.sessionKey, session, hcookie, Table.get?_of_mem hmem,
        ⟨hlive, huserId, user, hrow, hhash⟩, hrow, hactive⟩
  · rintro ⟨key, session, hcookie, hget, ⟨hlive, huserId, row, hrow, hhash⟩, huser, hactive⟩
    have hload : loadSession now db request.sessionCookie =
        ⟨some session.sessionKey, session.data⟩ := by
      simp only [loadSession, hcookie, Option.bind_some, hget, hlive, if_true]
    rw [huser, Option.some.injEq] at hrow
    rw [hload]
    exact ⟨huserId, huser, hactive, hrow ▸ hhash⟩

/-! ### The way to the view

The middleware writes to the database, and it may delete the very session it has just read.
Neither changes accounts, bans or keys, and the user that was looked up stays on the request.
So all that the classes after it need of the database is `Passed`.
-/

/-- The hash of the key under a prefix, where there is one. -/
def Database.keyHash? (db : Database) (keyPrefix : String) : Option String :=
  (db.apiKeys.get? keyPrefix).map APIKey.keyHash

/-- What the middleware leaves of a database: some sessions may be gone, some inventory
rows touched. -/
structure Passed (db db' : Database) : Prop where
  users : db'.users = db.users
  bans : db'.bans = db.bans
  sessions : ∀ session ∈ db'.sessions, session ∈ db.sessions
  inventory : ∀ hash row, db.userSessions.get? hash = some row →
    ∃ t, db'.userSessions.get? hash = some { row with lastActivityAt := t }
  absent : ∀ hash, db.userSessions.get? hash = none → db'.userSessions.get? hash = none
  keyHashes : ∀ keyPrefix, db'.keyHash? keyPrefix = db.keyHash? keyPrefix

theorem Passed.refl (db : Database) : Passed db db :=
  ⟨rfl, rfl, fun _ h => h, fun _ row h => ⟨row.lastActivityAt, h⟩, fun _ h => h, fun _ => rfl⟩

theorem Passed.trans {a b c : Database} (h : Passed a b) (h' : Passed b c) : Passed a c where
  users := h'.users.trans h.users
  bans := h'.bans.trans h.bans
  sessions session hs := h.sessions session (h'.sessions session hs)
  inventory hash row hrow := by
    obtain ⟨t, ht⟩ := h.inventory hash row hrow
    exact h'.inventory hash { row with lastActivityAt := t } ht
  absent hash hnone := h'.absent hash (h.absent hash hnone)
  keyHashes keyPrefix := (h'.keyHashes keyPrefix).trans (h.keyHashes keyPrefix)

theorem mem_flush {session : RequestSession} {row : Session} :
    row ∈ (db.flush session).sessions ↔
      row ∈ db.sessions ∧ session.sessionKey ≠ some row.sessionKey := by
  unfold Database.flush
  cases session.sessionKey with
  | none => simp
  | some key =>
      show row ∈ db.sessions.erase key ↔ _
      rw [Table.mem_erase, ne_eq, ne_eq, Option.some.injEq, eq_comm (a := key)]
      exact Iff.rfl

theorem passed_flush (db : Database) (session : RequestSession) : Passed db (db.flush session) := by
  have hsame : (db.flush session).users = db.users ∧ (db.flush session).bans = db.bans ∧
      (db.flush session).userSessions = db.userSessions ∧
      (db.flush session).apiKeys = db.apiKeys := by
    unfold Database.flush
    split
    · exact ⟨rfl, rfl, rfl, rfl⟩
    · exact ⟨rfl, rfl, rfl, rfl⟩
  obtain ⟨husers, hbans, hinventory, hkeys⟩ := hsame
  refine ⟨husers, hbans, fun row hrow => (mem_flush.mp hrow).1, fun hash row hrow => ?_,
    fun hash hnone => by rw [hinventory, hnone], fun _ => by simp only [Database.keyHash?, hkeys]⟩
  exact ⟨row.lastActivityAt, by rw [hinventory, hrow]⟩

theorem passed_touch (db : Database) (userSession : UserSession) :
    Passed db (db.touch now userSession) := by
  have hget : ∀ hash, (db.touch now userSession).userSessions.get? hash =
      if hash = userSession.sessionKeyHash then
        (db.userSessions.get? hash).map fun row => { row with lastActivityAt := now }
      else db.userSessions.get? hash := by
    intro hash
    unfold Database.touch
    rw [Table.get?_modify]
  refine ⟨rfl, rfl, fun _ h => h, fun hash row hrow => ?_, fun hash hnone => ?_, fun _ => rfl⟩
  · rw [hget, hrow]
    split
    · exact ⟨now, rfl⟩
    · exact ⟨row.lastActivityAt, rfl⟩
  · rw [hget, hnone]
    simp

/-- What the middleware does to a request it has looked up the user of. -/
theorem userSessionMiddleware_cases (env : Environment) (now : Int) (r : Received) :
    userSessionMiddleware env now r = r ∨ userSessionMiddleware env now r = r.flush ∨
      ∃ userSession, userSessionMiddleware env now r =
        { r with db := r.db.touch now userSession } := by
  unfold userSessionMiddleware
  repeat' split
  · exact Or.inl rfl
  · exact Or.inl rfl
  · exact Or.inr (Or.inl rfl)
  · exact Or.inl rfl
  · exact Or.inr (Or.inl rfl)
  · exact Or.inr (Or.inr ⟨_, rfl⟩)
  · exact Or.inl rfl

/-- Flushing the session leaves the user the request has. -/
theorem user_receive :
    (receive env now db request).user = some user ↔ SignedIn env now db request user := by
  rw [← getUser_loadSession, receive]
  rcases userSessionMiddleware_cases env now
    (getUser env db (loadSession now db request.sessionCookie)) with h | h | ⟨_, h⟩
  · rw [h]
  · rw [h, Received.flush]
  · rw [h]

theorem passed_getUser (env : Environment) (db : Database) (session : RequestSession) :
    Passed db (getUser env db session).db := by
  unfold getUser
  repeat' split
  · exact .refl db
  · exact .refl db
  · exact passed_flush db session

theorem passed_receive (env : Environment) (now : Int) (db : Database) (request : Request) :
    Passed db (receive env now db request).db := by
  have hget := passed_getUser env db (loadSession now db request.sessionCookie)
  rw [receive]
  rcases userSessionMiddleware_cases env now
    (getUser env db (loadSession now db request.sessionCookie)) with h | h | ⟨userSession, h⟩
  · rw [h]
    exact hget
  · rw [h]
    exact hget.trans (passed_flush _ _)
  · rw [h]
    exact hget.trans (passed_touch _ userSession)

/-! ### Authentication classes

The classes are tried in order, and the first that finds a credential of its kind decides.
Each case below says what a class has asked before it let somebody through.  Those of keys and
tokens ask the account gate; that of sessions asks only for an active user.
-/

/-- No API key is read from the request. -/
def NoAPIKey (settings : Settings) (request : Request) : Prop :=
  settings.enableAPIKeys = false ∨ request.apiKey = none ∨ request.apiKey = some ""

/-- The database with the use of an API key noted. -/
structure Noted (db db' : Database) : Prop extends Database.SameAccounts db db' where
  sessions : db'.sessions = db.sessions
  userSessions : db'.userSessions = db.userSessions
  keyHashes : ∀ keyPrefix, db'.keyHash? keyPrefix = db.keyHash? keyPrefix

theorem Noted.refl (db : Database) : Noted db db := ⟨.refl db, rfl, rfl, fun _ => rfl⟩

theorem Noted.passed {db' : Database} (h : Noted db db') : Passed db db' where
  users := h.users
  bans := h.bans
  sessions session hs := h.sessions ▸ hs
  inventory hash row hrow := ⟨row.lastActivityAt, by rw [h.userSessions, hrow]⟩
  absent hash hnone := by rw [h.userSessions, hnone]
  keyHashes := h.keyHashes

/-- A key rewritten but for its hash keeps it. -/
theorem keyHash?_modify (keyPrefix other : String) {f : APIKey → APIKey}
    (hf : ∀ key, Keyed.pk (f key) = Keyed.pk key) (hhash : ∀ key, (f key).keyHash = key.keyHash) :
    ({ db with apiKeys := db.apiKeys.modify keyPrefix f hf } : Database).keyHash? other =
      db.keyHash? other := by
  unfold Database.keyHash?
  rw [Table.get?_modify]
  split
  · rw [Option.map_map]
    exact congrArg (Option.map · _) (funext hhash)
  · rfl

theorem noted_authenticate {rawKey : String} {ipAddress : Option String} {key : APIKey}
    {db' : Database}
    (h : APIKeyService.authenticate env now db rawKey ipAddress = (.ok (some (key, user)), db')) :
    Noted db db' := by
  unfold APIKeyService.authenticate at h
  split at h
  · cases h
  · split at h
    · cases h
    · split at h
      · cases h
      · cases h
        exact ⟨⟨rfl, rfl, rfl⟩, rfl, rfl, fun other => keyHash?_modify _ other _ fun _ => rfl⟩

theorem apiKeyAuthentication_of_none (h : NoAPIKey settings request) :
    apiKeyAuthentication env settings now db request = .ok (none, db) := by
  unfold apiKeyAuthentication
  rcases h with h | h | h
  · simp [h]
  · simp [h]
  · simp [h]

theorem apiKeyAuthentication_ok {owner : Option User} {db' : Database}
    (h : apiKeyAuthentication env settings now db request = .ok (owner, db')) :
    Noted db db' ∧ (NoAPIKey settings request ∧ owner = none ∨
      ∃ user, owner = some user ∧ canAuthenticateNow db.bans now user = true) := by
  unfold apiKeyAuthentication at h
  split at h
  · rename_i hoff
    cases h
    exact ⟨.refl db, Or.inl ⟨Or.inl (by simpa using hoff), rfl⟩⟩
  · split at h
    · rename_i hnone
      cases h
      exact ⟨.refl db, Or.inl ⟨Or.inr (Or.inl hnone), rfl⟩⟩
    · rename_i hempty
      cases h
      exact ⟨.refl db, Or.inl ⟨Or.inr (Or.inr hempty), rfl⟩⟩
    · rename_i raw _ _
      split at h
      · cases h
      · cases h
      · rename_i key user db₁ hkey
        split at h
        · cases h
        · rename_i hcan
          cases h
          have hnoted := noted_authenticate hkey
          refine ⟨hnoted, Or.inr ⟨user, rfl, ?_⟩⟩
          rw [← hnoted.bans]
          simpa using hcan

theorem jwtAuthentication_ok {found : Option User}
    (h : jwtAuthentication jwt now db request = .ok found) :
    request.bearer = none ∧ found = none ∨
      ∃ user, found = some user ∧ canAuthenticateNow db.bans now user = true := by
  unfold jwtAuthentication at h
  split at h
  · rename_i hnone
    cases h
    exact Or.inl ⟨hnone, rfl⟩
  · split at h
    · cases h
    · rename_i user _
      unfold ensureAccountAvailable at h
      cases hactive : user.isActive with
      | false =>
          rw [hactive] at h
          cases h
      | true =>
          cases hcan : canAuthenticateNow db.bans now user with
          | false =>
              rw [hactive, hcan] at h
              cases h
          | true =>
              rw [hactive, hcan] at h
              cases h
              exact Or.inr ⟨user, rfl, hcan⟩

theorem sessionAuthentication_ok {signedIn found : Option User}
    (h : sessionAuthentication signedIn request = .ok found) :
    found = none ∨ request.csrf = true ∧ found = signedIn := by
  unfold sessionAuthentication at h
  split at h
  · cases h
    exact Or.inl rfl
  · split at h
    · cases h
      exact Or.inl rfl
    · split at h
      · cases h
      · rename_i hcsrf
        cases h
        exact Or.inr ⟨by simpa using hcsrf, rfl⟩

/-- Who gets through, and by which credential. -/
theorem authenticate_ok {r : Received} {found : Option (User × Credential)} {db' : Database}
    (h : authenticate env jwt settings now r request = .ok (found, db')) :
    Noted r.db db' ∧ ∀ user credential, found = some (user, credential) →
      credential ≠ .session ∧ canAuthenticateNow r.db.bans now user = true ∨
      credential = .session ∧ NoAPIKey settings request ∧ request.bearer = none ∧
        request.csrf = true ∧ r.user = some user := by
  unfold authenticate at h
  obtain ⟨⟨owner, db₁⟩, hkey, h⟩ := bind_eq_ok.mp h
  obtain ⟨hnoted, howner⟩ := apiKeyAuthentication_ok hkey
  rcases howner with ⟨hnokey, rfl⟩ | ⟨user, rfl, hcan⟩
  · simp only at h
    obtain ⟨token, hjwt, h⟩ := bind_eq_ok.mp h
    rcases jwtAuthentication_ok hjwt with ⟨hbearer, rfl⟩ | ⟨user, rfl, hcan⟩
    · simp only at h
      obtain ⟨signedIn, hsession, h⟩ := bind_eq_ok.mp h
      cases signedIn with
      | none =>
          cases h
          exact ⟨hnoted, fun _ _ hfound => by cases hfound⟩
      | some user =>
          cases h
          refine ⟨hnoted, fun _ _ hfound => ?_⟩
          cases hfound
          rcases sessionAuthentication_ok hsession with hnone | ⟨hcsrf, hsame⟩
          · cases hnone
          · exact Or.inr ⟨rfl, hnokey, hbearer, hcsrf, hsame.symm⟩
    · cases h
      refine ⟨hnoted, fun _ _ hfound => ?_⟩
      cases hfound
      exact Or.inl ⟨by simp, by rw [← hnoted.bans]; exact hcan⟩
  · cases h
    refine ⟨hnoted, fun _ _ hfound => ?_⟩
    cases hfound
    exact Or.inl ⟨by simp, hcan⟩

/-- With no other credential, the user the request has is who it runs for. -/
theorem authenticate_of_session {r : Received} (hkey : NoAPIKey settings request)
    (hbearer : request.bearer = none) (hcsrf : request.csrf = true) (huser : r.user = some user)
    (hactive : user.isActive = true) :
    authenticate env jwt settings now r request = .ok (some (user, .session), r.db) := by
  unfold authenticate
  rw [apiKeyAuthentication_of_none hkey]
  simp [jwtAuthentication, hbearer, sessionAuthentication, huser, hactive, hcsrf, bind, Except.bind,
    pure, Except.pure]

/-! ### The gate

With the cases above there is one way to a view that does not lead through the gate: by session
authentication, for a user the gate turns away and whom `is_active` does not.  `StaleSession`
is that, and no more.
-/

/-- A request with a session for its only credential, of an active user whom the account
gate turns away: by status, or by a ban the status column does not show yet. -/
structure StaleSession (env : Environment) (settings : Settings) (now : Int) (db : Database)
    (request : Request) (user : User) : Prop where
  noAPIKey : NoAPIKey settings request
  noBearer : request.bearer = none
  csrf : request.csrf = true
  signedIn : SignedIn env now db request user
  unavailable : canAuthenticateNow db.bans now user = false

theorem refreshed_ok {rawToken : String} (h : refreshed jwt now db rawToken = .ok user) :
    canAuthenticateNow db.bans now user = true := by
  unfold refreshed at h
  split at h
  · cases h
  · split at h
    · cases h
    · split at h
      · cases h
      · rename_i found _
        unfold ensureAccountAvailable at h
        cases hcan : canAuthenticateNow db.bans now found with
        | false =>
            rw [hcan] at h
            cases h
        | true =>
            rw [hcan] at h
            cases h
            exact hcan

theorem isAuthenticated_eq_some (h : isAuthenticated env jwt settings now db request = some user) :
    canAuthenticateNow db.bans now user = true ∨ StaleSession env settings now db request user := by
  unfold isAuthenticated at h
  split at h
  · rename_i found credential db' hauth
    cases h
    obtain ⟨_, hfound⟩ := authenticate_ok hauth
    rcases hfound user credential rfl with ⟨_, hcan⟩ | ⟨_, hkey, hbearer, hcsrf, huser⟩
    · rw [(passed_receive env now db request).bans] at hcan
      exact Or.inl hcan
    · cases hcan : canAuthenticateNow db.bans now user with
      | true => exact Or.inl rfl
      | false => exact Or.inr ⟨hkey, hbearer, hcsrf, user_receive.mp huser, hcan⟩
  · cases h

theorem StaleSession.isAuthenticated (h : StaleSession env settings now db request user) :
    isAuthenticated env jwt settings now db request = some user := by
  obtain ⟨_, _, _, _, _, _, hactive⟩ := h.signedIn
  unfold DjangoFoundation.isAuthenticated
  rw [authenticate_of_session h.noAPIKey h.noBearer h.csrf (user_receive.mpr h.signedIn) hactive]

/-- **The gate holds of a request exactly where it is no request with a stale session.** -/
theorem gate_iff (env : Environment) (jwt : Jwt) (settings : Settings) (now : Int)
    (db : Database) (access : Access) :
    (∀ user, access.principal? env jwt settings now db = some user →
        canAuthenticateNow db.bans now user = true) ↔
      ∀ request user, access = .view request → ¬StaleSession env settings now db request user := by
  cases access with
  | view request =>
      constructor
      · rintro hgate _ user ⟨⟩ hstale
        have hcan := hgate user hstale.isAuthenticated
        rw [hstale.unavailable] at hcan
        cases hcan
      · intro hno user huser
        rcases isAuthenticated_eq_some huser with hcan | hstale
        · exact hcan
        · exact absurd hstale (hno request user rfl)
  | refresh rawToken =>
      refine iff_of_true ?_ fun _ _ h => by cases h
      intro user huser
      have hok : refreshed jwt now db rawToken = .ok user := by
        simp only [Access.principal?] at huser
        cases hr : refreshed jwt now db rawToken with
        | error e =>
            rw [hr] at huser
            cases huser
        | ok found =>
            rw [hr] at huser
            cases huser
            rfl
      exact refreshed_ok hok

/-- No token is ever accepted. -/
def noJwt : Jwt := ⟨fun _ _ => none, fun _ _ => none⟩

/-- Signed in since before a ban that was scheduled for 0:10; the hourly task has not run
since. -/
def scheduledBan : Database where
  users := {ada}
  bans := {⟨1, 1, "spam", none, minutes 10, none, none⟩}
  sessions := {⟨"k", ⟨some 1, some "plain$salt$secret", some 0⟩, minutes 60⟩}
  userSessions := {⟨"k", 1, "i", "k", "", 0, none⟩}

/-- At 0:20 the middleware deletes the session, and the view runs for its user. -/
theorem scheduled_ban_passes_gate :
    ∃ user, (Access.view { sessionCookie := some "k", csrf := true }).principal? .plain
        noJwt {} (minutes 20) scheduledBan = some user ∧
      canAuthenticateNow scheduledBan.bans (minutes 20) user = false :=
  ⟨ada, by decide, by decide⟩

end DjangoFoundation
