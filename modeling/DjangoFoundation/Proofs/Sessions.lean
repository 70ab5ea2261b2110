/-
The session table and the inventory beside it.

Revoking everything a user is signed in with means going through the inventory, so it is
complete as long as every session that signs somebody in is in the inventory: under the
hash of its key, unrevoked, with a reference that decrypts to that key.  Signing in
registers the session, and nothing else that touches either table takes a registered
session out of the inventory and leaves it in the table.  A password change does: it
moves the session it came with to a new key, and registers nothing.

A session that signs nobody in may well be left out of the inventory: one of a visitor, or one
whose password hash is no longer the user's.  `complete_iff` is about the others.
-/
import DjangoFoundation.Api.Views
import DjangoFoundation.Proofs.Gate
import DjangoFoundation.Proofs.Revocation

namespace DjangoFoundation.Sessions

open SessionService

variable {env : Environment} {jwt : Jwt} {settings : Settings} {now now' : Int}
  {db db' : Database} {session : Session} {u : UUID}

/-! ### The inventory

Completeness is about sessions that sign somebody in.  An anonymous session, one whose user is
inactive, or one whose password hash is out of date needs no row, and none is asked of it.
That keeps the invariant true where the table has leftovers.
-/

/-- The session is in the inventory of `u`. -/
def Registered (env : Environment) (db : Database) (session : Session) (u : UUID) : Prop :=
  ∃ row, db.userSessions.get? (hash env session.sessionKey) = some row ∧ row.user = u ∧
    row.revokedAt = none ∧ reference env row = some session.sessionKey

/-- Every live session that authenticates somebody is in that user's inventory. -/
def Inventory (env : Environment) (now : Int) (db : Database) : Prop :=
  ∀ session ∈ db.sessions, ∀ u, Authenticates env now db session u → Registered env db session u

theorem hash_inj {a b : String} (h : hash env a = hash env b) : a = b :=
  env.keyring.keyedHash_injective "django-session" h

/-- What was signed in before, and still is, is in the inventory still. -/
theorem Inventory.kept (h : Inventory env now db)
    (hold : ∀ session ∈ db'.sessions, ∀ u, Authenticates env now' db' session u →
      session ∈ db.sessions ∧ Authenticates env now db session u)
    (hreg : ∀ session ∈ db'.sessions, ∀ u, Registered env db session u →
      Registered env db' session u) : Inventory env now' db' := by
  intro session hsession u hauth
  obtain ⟨hmem, hauth'⟩ := hold session hsession u hauth
  exact hreg session hsession u (h session hmem u hauth')

theorem authenticates_of_users (husers : db'.users = db.users) (hle : now ≤ now')
    (h : Authenticates env now' db' session u) : Authenticates env now db session u := by
  obtain ⟨hlive, huser, row, hrow, hhash⟩ := h
  exact ⟨by omega, huser, row, husers ▸ hrow, hhash⟩

/-- Time only takes sessions away. -/
theorem Inventory.later (h : Inventory env now db) (hle : now ≤ now') : Inventory env now' db :=
  h.kept (fun _ hs _ ha => ⟨hs, authenticates_of_users rfl hle ha⟩) fun _ _ _ hr => hr

theorem Inventory.passed (h : Inventory env now db) (hpass : Passed db db') :
    Inventory env now db' := by
  refine h.kept (fun session hs u ha => ⟨hpass.sessions session hs,
    authenticates_of_users hpass.users (Int.le_refl now) ha⟩) fun session _ u hreg => ?_
  obtain ⟨row, hget, huser, hlive, href⟩ := hreg
  obtain ⟨t, ht⟩ := hpass.inventory _ row hget
  exact ⟨_, ht, huser, hlive, href⟩

/-- A row that is revoked takes the session it leads to with it. -/
theorem Inventory.revoked {rows : List UserSession} (h : Inventory env now db)
    (hrev : Revoked env now rows db db') : Inventory env now db' := by
  refine h.kept (fun session hs u ha => ⟨((hrev.sessions session).mp hs).1,
    authenticates_of_users hrev.accounts.users (Int.le_refl now) ha⟩) fun session hs u hreg => ?_
  obtain ⟨row, hget, huser, hlive, href⟩ := hreg
  have hnot : row ∉ rows := fun hmem => ((hrev.sessions session).mp hs).2 row hmem href
  refine ⟨row, ?_, huser, hlive, href⟩
  rw [hrev.inventory, hget, Option.map_some, if_neg hnot]

/-- **Revoking everything of a user leaves no session that authenticates them.** -/
theorem Inventory.revokeAll (h : Inventory env now db) {sessionKey : Option String}
    (hrev : Revoked env now (selected env db u sessionKey false) db db') :
    ∀ session ∈ db'.sessions, ¬Authenticates env now db' session u := by
  intro session hs hauth
  obtain ⟨hmem, hgone⟩ := (hrev.sessions session).mp hs
  obtain ⟨row, hget, huser, hlive, href⟩ :=
    h session hmem u (authenticates_of_users hrev.accounts.users (Int.le_refl now) hauth)
  refine hgone row (mem_selected.mpr ⟨⟨Table.mem_of_get? hget, huser, hlive⟩, ?_⟩) href
  intro hfalse
  cases hfalse

/-! ### Saving and registering

A key is hashed before it is used as the key of an inventory row, and the hash is injective.
So registering one session finds no row but its own.
-/

theorem mem_saveSession {sessionKey : String} {data : SessionData} :
    session ∈ (db.saveSession now sessionKey data).sessions ↔
      (session ∈ db.sessions ∧ session.sessionKey ≠ sessionKey) ∨
        session = ⟨sessionKey, data, now + data.expiryAge⟩ := by
  obtain ⟨sessions, hinsert⟩ := Table.exists_insert? (t := db.sessions.erase sessionKey)
    (a := ⟨sessionKey, data, now + data.expiryAge⟩) fun row hrow => (Table.mem_erase.mp hrow).2
  have hsave : (db.saveSession now sessionKey data).sessions = sessions := by
    simp only [Database.saveSession, hinsert, Option.getD_some]
  rw [hsave, Table.mem_insert? hinsert, Table.mem_erase]
  exact Iff.rfl

/-- The row `register` leaves under the hash of the key. -/
theorem get?_register {sessionKey userAgent identifier : String} {nonce : Nat} (h : String) :
    (register env now db u sessionKey userAgent identifier nonce).userSessions.get? h =
      if hash env sessionKey = h then
        some ⟨hash env sessionKey, u, identifier,
          env.keyring.encryptValue "django-session" nonce sessionKey, userAgent, now, none⟩
      else db.userSessions.get? h := by
  unfold register
  dsimp only
  split
  · rename_i userSessions hinsert
    exact Table.get?_insert? hinsert h
  · rename_i hinsert
    obtain ⟨row, hrow⟩ := Table.exists_of_insert?_eq_none hinsert
    have hpk : row.sessionKeyHash = hash env sessionKey := Table.pk_of_get? hrow
    simp only [Table.get?_modify]
    by_cases hh : hash env sessionKey = h
    · subst hh
      have hrow : db.userSessions.get? (hash env sessionKey) = some row := hrow
      rw [if_pos rfl, if_pos rfl, hrow, Option.map_some, hpk]
    · rw [if_neg hh, if_neg fun heq => hh heq.symm]

theorem register_frame (env : Environment) (now : Int) (db : Database) (u : UUID)
    (sessionKey userAgent identifier : String) (nonce : Nat) :
    (register env now db u sessionKey userAgent identifier nonce).sessions = db.sessions ∧
      (register env now db u sessionKey userAgent identifier nonce).users = db.users := by
  unfold register
  dsimp only
  split
  · exact ⟨rfl, rfl⟩
  · exact ⟨rfl, rfl⟩

/-- A session saved under a key keeps the inventory if it is in it itself: the others are
found as before, under other hashes. -/
theorem Inventory.saved {sessionKey : String} {data : SessionData} (h : Inventory env now db)
    (hsessions : db'.sessions = db.sessions)
    (hother : ∀ k, k ≠ hash env sessionKey → db'.userSessions.get? k = db.userSessions.get? k)
    (hpassword : ∀ v row', db'.users.get? v = some row' →
      ∃ row, db.users.get? v = some row ∧ row.password = row'.password)
    (hnew : ∀ v, Authenticates env now db' ⟨sessionKey, data, now + data.expiryAge⟩ v →
      Registered env db' ⟨sessionKey, data, now + data.expiryAge⟩ v) :
    Inventory env now (db'.saveSession now sessionKey data) := by
  intro session hs v hauth
  rcases mem_saveSession.mp hs with ⟨hold, hkey⟩ | rfl
  · obtain ⟨hlive, huser, row', hrow', hhash⟩ := hauth
    obtain ⟨row, hrow, hsame⟩ := hpassword v row' hrow'
    obtain ⟨entry, hget, hentry⟩ :=
      h session (hsessions ▸ hold) v ⟨hlive, huser, row, hrow, hsame ▸ hhash⟩
    refine ⟨entry, ?_, hentry⟩
    show db'.userSessions.get? (hash env session.sessionKey) = some entry
    rw [hother _ fun heq => hkey (hash_inj heq), hget]
  · exact hnew v hauth

/-! ### Signing in

Django's `login` settles the key before the session is saved, and the service registers the
session under that key.  So what `login` puts in the one table it puts in the other.
-/

/-- Django's `login` leaves a session that says it is the user's. -/
theorem passed_login (env : Environment) (r : Received) (user : User) (newKey : String) :
    Passed r.db (login env r user newKey).db ∧
      (login env r user newKey).session.data.userId = some user.pk := by
  unfold login
  dsimp only
  split
  · rename_i userId huserId
    split
    · exact ⟨passed_flush r.db r.session, rfl⟩
    · rename_i hsame
      rw [not_or, not_not, not_not] at hsame
      exact ⟨.refl r.db, huserId.trans (by rw [hsame.1])⟩
  · exact ⟨passed_flush r.db r.session, rfl⟩

/-- **Signing in keeps the inventory**: what it saves, it registers. -/
theorem Inventory.login {r : Received} (h : Inventory env now r.db) (user : User)
    (rememberMe : Bool) (newKey userAgent identifier : String) (nonce : Nat) :
    Inventory env now (AuthenticationService.login env now r user rememberMe newKey userAgent
      identifier nonce) := by
  obtain ⟨hpass, huserId⟩ := passed_login env r user newKey
  have hinv := h.passed hpass
  unfold AuthenticationService.login
  dsimp only
  revert hinv huserId
  generalize DjangoFoundation.login env r user newKey = r₁
  intro huserId hinv
  generalize hkey : r₁.session.sessionKey.getD newKey = sessionKey
  obtain ⟨hsessions, husers⟩ := register_frame env now r₁.db user.pk sessionKey
    userAgent identifier nonce
  have hevents : ∀ (isNew : Bool) (db : Database),
      (if isNew then db.securityEvent .newDeviceLogin user.pk else db).sessions = db.sessions ∧
      (if isNew then db.securityEvent .newDeviceLogin user.pk else db).users = db.users ∧
      (if isNew then db.securityEvent .newDeviceLogin user.pk else db).userSessions =
        db.userSessions := by
    intro isNew db
    split <;> exact ⟨rfl, rfl, rfl⟩
  refine hinv.saved ?_ ?_ ?_ ?_
  · rw [(hevents _ _).1]
    exact hsessions
  · intro k hk
    rw [(hevents _ _).2.2]
    show (register env now r₁.db user.pk sessionKey userAgent identifier
      nonce).userSessions.get? k = _
    rw [get?_register, if_neg fun heq => hk heq.symm]
  · intro v row' hrow'
    rw [(hevents _ _).2.1] at hrow'
    simp only [Database.securityEvent, Database.updateUser, Table.get?_modify, husers] at hrow'
    split at hrow'
    · obtain ⟨row, hrow, rfl⟩ := Option.map_eq_some_iff.mp hrow'
      exact ⟨row, hrow, rfl⟩
    · exact ⟨row', hrow', rfl⟩
  · rintro v ⟨_, hv, _⟩
    change r₁.session.data.userId = some v at hv
    rw [huserId, Option.some.injEq] at hv
    subst hv
    refine ⟨⟨hash env sessionKey, user.pk, identifier,
      env.keyring.encryptValue "django-session" nonce sessionKey, userAgent, now, none⟩, ?_, rfl,
      rfl, env.keyring.decrypt_encrypt "django-session" nonce sessionKey⟩
    rw [(hevents _ _).2.2]
    show (register env now r₁.db user.pk sessionKey userAgent identifier
      nonce).userSessions.get? _ = _
    rw [get?_register, if_pos rfl]

/-! ### Revoking -/

/-- `revoke`, of one row. -/
theorem Inventory.revoke (h : Inventory env now db) (session : UserSession)
    (actor : Option UUID) : Inventory env now (db.committed (revoke env now db session actor)) := by
  unfold SessionService.revoke
  split
  · exact h
  · rename_i locked hget
    split
    · exact h
    · exact h.revoked (revoked_revokeLocked env now actor (Table.mem_of_get? hget))

/-! ### Changing a password

The change revokes the other sessions and then rotates the key of its own.  The inventory row
stays under the hash of the old key: what is live under the new one is found by nobody who goes
through the inventory.
-/

/-- A change of the password is accepted. -/
def Accepted (env : Environment) (db : Database) (user : UUID) (oldPassword newPassword : String) :
    Prop :=
  ∃ locked, db.users.get? user = some locked ∧
    env.keyring.checkPassword oldPassword locked.password = true ∧
    env.acceptsPassword newPassword locked = true

/-- `change_password` sets the password and revokes the other sessions, or raises. -/
theorem changePassword_cases (env : Environment) (now : Int) (db : Database) (user : UUID)
    (oldPassword newPassword salt : String) (sessionKey : Option String) :
    (¬Accepted env db user oldPassword newPassword ∧ ∃ e, AccountService.changePassword env now db
        user oldPassword newPassword salt sessionKey = .error e) ∨
      Accepted env db user oldPassword newPassword ∧ ∃ db' rows, AccountService.changePassword env
          now db user oldPassword newPassword salt sessionKey = .ok db' ∧
        Revoked env now rows (AccountService.setPassword env now db user salt newPassword) db' := by
  unfold AccountService.changePassword
  cases hrow : db.users.get? user with
  | none =>
      refine Or.inl ⟨?_, .doesNotExist, ?_⟩
      · rintro ⟨locked, hlocked, _⟩
        rw [hrow] at hlocked
        cases hlocked
      · simp only [Database.getUser, hrow]
        rfl
  | some locked =>
      have hpk : locked.pk = user := Table.pk_of_get? hrow
      subst hpk
      simp only [Database.getUser, hrow, bind, Except.bind]
      by_cases hcheck : env.keyring.checkPassword oldPassword locked.password
      · by_cases haccept : env.acceptsPassword newPassword locked
        · obtain ⟨db', hrevoke, hrev⟩ := revokeAll_revoked env now
            (AccountService.stampPasswordChange now
              (AccountService.setPassword env now db locked.pk salt newPassword) locked.pk)
            locked.pk (some locked.pk) sessionKey true
          simp only [hcheck, haccept, hrevoke]
          exact Or.inr ⟨⟨locked, hrow, hcheck, haccept⟩, _, _, rfl,
            ⟨hrev.accounts.users, hrev.accounts.bans, hrev.accounts.oneTimeTokens⟩,
            hrev.inventory, hrev.sessions⟩
        · refine Or.inl ⟨?_, .validation, ?_⟩
          · rintro ⟨locked', hlocked, _, hyes⟩
            rw [hrow, Option.some.injEq] at hlocked
            exact haccept (hlocked ▸ hyes)
          · simp only [hcheck, haccept]
            rfl
      · refine Or.inl ⟨?_, AccountService.authenticationFailed, ?_⟩
        · rintro ⟨locked', hlocked, hyes, _⟩
          rw [hrow, Option.some.injEq] at hlocked
          exact hcheck (hlocked ▸ hyes)
        · simp only [hcheck]
          rfl

theorem freshPassword_iff {encoded : String} : freshPassword env db encoded = true ↔
    (∀ user ∈ db.users, user.password ≠ encoded) ∧ ∀ session ∈ db.sessions,
      session.data.authHash ≠ some (env.keyring.sessionAuthHash encoded) := by
  simp only [freshPassword, Bool.and_eq_true, List.all_eq_true, decide_eq_true_eq]
  exact Iff.rfl

theorem freshPassword_of_passed {encoded : String} (hpass : Passed db db')
    (h : freshPassword env db encoded = true) : freshPassword env db' encoded = true := by
  rw [freshPassword_iff] at h ⊢
  refine ⟨?_, fun session hs => h.2 session (hpass.sessions session hs)⟩
  rw [hpass.users]
  exact h.1

theorem get?_setPassword {salt newPassword : String} (v : UUID) :
    (AccountService.setPassword env now db u salt newPassword).users.get? v =
      if v = u then (db.users.get? v).map fun row => { row with
        password := env.keyring.makePassword salt newPassword, updatedAt := now }
      else db.users.get? v := by
  unfold AccountService.setPassword Database.updateUser
  rw [Table.get?_modify]

/-- After a change the password is the user's, and nobody else's. -/
theorem changed_setPassword (now : Int) {salt newPassword : String} {locked : User}
    (hlocked : db.users.get? u = some locked)
    (hfresh : freshPassword env db (env.keyring.makePassword salt newPassword) = true) :
    ∃ changed, (AccountService.setPassword env now db u salt newPassword).users.get? u =
        some changed ∧ changed.pk = u ∧
      ∀ v row, (AccountService.setPassword env now db u salt newPassword).users.get? v = some row →
        row.password = changed.password → v = u := by
  have hpk : locked.pk = u := Table.pk_of_get? hlocked
  refine ⟨{ locked with
    password := env.keyring.makePassword salt newPassword, updatedAt := now }, ?_, hpk, ?_⟩
  · rw [get?_setPassword, if_pos rfl, hlocked, Option.map_some]
  · intro v row hv hsame
    by_cases heq : v = u
    · exact heq
    · rw [get?_setPassword, if_neg heq] at hv
      exact absurd hsame ((freshPassword_iff.mp hfresh).1 row (Table.mem_of_get? hv))

/-- Nobody is signed in under a password that was never stored before. -/
theorem Inventory.setPassword {salt newPassword : String} (h : Inventory env now db)
    (hfresh : freshPassword env db (env.keyring.makePassword salt newPassword) = true) :
    Inventory env now (AccountService.setPassword env now db u salt newPassword) := by
  refine h.kept (fun session hs v hauth => ⟨hs, ?_⟩) fun _ _ _ hreg => hreg
  obtain ⟨hlive, huser, row', hrow', hhash⟩ := hauth
  rw [get?_setPassword] at hrow'
  split at hrow'
  · obtain ⟨row, _, rfl⟩ := Option.map_eq_some_iff.mp hrow'
    exact absurd hhash ((freshPassword_iff.mp hfresh).2 session hs)
  · exact ⟨hlive, huser, row', hrow', hhash⟩

theorem expiryAge_pos (data : SessionData) : 0 < data.expiryAge := by
  unfold SessionData.expiryAge seconds
  split
  · decide
  · decide
  · rename_i age hne _
    have hpos : age ≠ 0 := fun hzero => hne hzero
    omega

/-- **The rotated session is in the inventory exactly where it signs nobody in.** -/
theorem inventory_updateSessionAuthHash {r : Received} {user : User} (newKey : String)
    (h : Inventory env now r.db) (hrow : r.db.users.get? user.pk = some user)
    (honly : ∀ v row, r.db.users.get? v = some row → row.password = user.password → v = user.pk)
    (hfresh : r.db.userSessions.get? (hash env newKey) = none) :
    Inventory env now (updateSessionAuthHash env now r user newKey) ↔
      r.session.data.userId ≠ some user.pk := by
  have hpass := passed_flush r.db r.session
  have hnone := hpass.absent _ hfresh
  unfold updateSessionAuthHash
  generalize hdata : ({ r.session.data with
    authHash := some (env.keyring.sessionAuthHash user.password) } : SessionData) = data
  constructor
  · intro hinv hown
    have hauth : Authenticates env now ((r.db.flush r.session).saveSession now newKey data)
        ⟨newKey, data, now + data.expiryAge⟩ user.pk := by
      have hpos := expiryAge_pos data
      refine ⟨by simp only; omega, by rw [← hdata]; exact hown, user, ?_, by rw [← hdata]⟩
      show (r.db.flush r.session).users.get? user.pk = some user
      rw [hpass.users, hrow]
    obtain ⟨row, hget, _⟩ := hinv _ (mem_saveSession.mpr (Or.inr rfl)) user.pk hauth
    change (r.db.flush r.session).userSessions.get? (hash env newKey) = some row at hget
    rw [hnone] at hget
    cases hget
  · intro hother
    refine (h.passed hpass).saved rfl (fun _ _ => rfl) (fun _ row hv => ⟨row, hv, rfl⟩) ?_
    -- the hash is the user's, so the session is nobody else's either
    rintro v ⟨_, hv, row, hrow', hhash⟩
    rw [← hdata] at hv hhash
    rw [hpass.users] at hrow'
    have hsame : user.password = row.password :=
      env.keyring.sessionAuthHash_injective (Option.some.inj hhash)
    exact absurd (hv.trans (by rw [honly v row hrow' hsame.symm])) hother

/-! ### Steps

Every view first goes through the middleware and the default permissions, which keep the
inventory.  What is left is the view itself, and only one of them can break it.
-/

/-- The request behind the default permissions. -/
theorem passed_principal (env : Environment) (jwt : Jwt) (settings : Settings) (now : Int)
    (db : Database) (request : Request) :
    Passed db (principal env jwt settings now db request).2.db := by
  have hreceive := passed_receive env now db request
  unfold principal
  dsimp only
  split
  · exact hreceive
  · rename_i hauth
    exact hreceive.trans (authenticate_ok hauth).1.passed
  · rename_i hauth
    exact hreceive.trans (authenticate_ok hauth).1.passed

/-- The call is an accepted change of password by a request whose own session, as the
middleware leaves it, is the user's. -/
def RotatesOwnSession (env : Environment) (jwt : Jwt) (settings : Settings) (s : State)
    (e : Int × Call) : Prop :=
  match e.2 with
  | .changePassword request oldPassword newPassword _ _ =>
      ∃ user r, principal env jwt settings e.1 s.db request = (some user, r) ∧
        Accepted env s.db user.pk oldPassword newPassword ∧
        r.session.data.userId = some user.pk
  | _ => False

/-- After the step the inventory holds, and if everything of a user was revoked, nothing
that is live authenticates the user. -/
def Complete (env : Environment) (_ : State) (e : Int × Call) (s' : State) : Prop :=
  Inventory env s'.clock s'.db ∧ ∀ u actor sessionKey, e.2 = .revokeAll u actor sessionKey false →
    ∀ session ∈ s'.db.sessions, ¬Authenticates env s'.clock s'.db session u

theorem inventory_changePasswordView (jwt : Jwt) (settings : Settings) (request : Request)
    (oldPassword newPassword salt newKey : String) (h : Inventory env now db)
    (hkey : freshKey env db newKey = true)
    (hpassword : freshPassword env db (env.keyring.makePassword salt newPassword) = true) :
    Inventory env now (changePasswordView env jwt settings now db request oldPassword newPassword
        salt newKey) ↔
      ¬∃ user r, principal env jwt settings now db request = (some user, r) ∧
        Accepted env db user.pk oldPassword newPassword ∧ r.session.data.userId = some user.pk := by
  have hpass := passed_principal env jwt settings now db request
  unfold changePasswordView
  generalize hprincipal : principal env jwt settings now db request = received at hpass
  obtain ⟨found, r⟩ := received
  cases found with
  | none =>
      refine iff_of_true (h.passed hpass) ?_
      rintro ⟨user, r', heq, _⟩
      cases heq
  | some user =>
      have hinv := h.passed hpass
      have hfresh := freshPassword_of_passed hpass hpassword
      have haccepted : Accepted env r.db user.pk oldPassword newPassword ↔
          Accepted env db user.pk oldPassword newPassword := by
        rw [Accepted, Accepted, hpass.users]
      have hcond : (∃ user' r', (some user, r) = (some user', r') ∧
          Accepted env db user'.pk oldPassword newPassword ∧
            r'.session.data.userId = some user'.pk) ↔
          Accepted env db user.pk oldPassword newPassword ∧
            r.session.data.userId = some user.pk := by
        constructor
        · rintro ⟨_, _, ⟨⟩, hboth⟩
          exact hboth
        · exact fun hboth => ⟨user, r, rfl, hboth⟩
      rw [hcond]
      rcases changePassword_cases env now r.db user.pk oldPassword newPassword salt
        r.session.sessionKey with ⟨hno, e, herr⟩ | ⟨hyes, db', rows, hok, hrev⟩
      · simp only [herr]
        exact iff_of_true hinv fun hboth => hno (haccepted.mpr hboth.1)
      · simp only [hok]
        have hinv' := (hinv.setPassword hfresh).revoked hrev
        have hyes' := haccepted.mp hyes
        obtain ⟨locked, hlocked, _⟩ := hyes
        obtain ⟨changed, hrow, hpk, honly⟩ := changed_setPassword now hlocked hfresh
        rw [← hrev.accounts.users] at hrow honly
        simp only [hrow]
        rw [← hpk] at hrow honly
        have hrotate := inventory_updateSessionAuthHash (r := { r with db := db' }) newKey hinv'
          hrow honly ?_
        · rw [hrotate, hpk]
          exact ⟨fun hne hown => hne hown.2, fun hno hown => hno ⟨hyes', hown⟩⟩
        · -- no row was ever registered under the new key
          rw [freshKey, Bool.and_eq_true, Option.isNone_iff_eq_none,
            Option.isNone_iff_eq_none] at hkey
          have hnone := hpass.absent _ hkey.2
          show db'.userSessions.get? (hash env newKey) = none
          rw [hrev.inventory]
          show (r.db.userSessions.get? _).map _ = none
          rw [hnone, Option.map_none]

theorem Inventory.loginView (h : Inventory env now db) (request : Request)
    (admitted : Option UUID) (rememberMe : Bool) (newKey userAgent identifier : String)
    (nonce : Nat) : Inventory env now (loginView env jwt settings now db request admitted rememberMe
      newKey userAgent identifier nonce) := by
  have hinv := h.passed (passed_receive env now db request)
  unfold DjangoFoundation.loginView
  dsimp only
  split
  · exact hinv
  · rename_i hauth
    have hinv' := hinv.passed (authenticate_ok hauth).1.passed
    split
    · exact hinv'
    · exact Inventory.login hinv' _ rememberMe newKey userAgent identifier nonce

theorem passed_blacklistRefresh {refresh : Option String}
    (h : blacklistRefresh jwt now db refresh = .ok db') : Passed db db' := by
  unfold blacklistRefresh at h
  repeat' split at h
  · cases h
    exact .refl db
  · cases h
    exact .refl db
  · cases h
  · cases h
  · cases h
    exact ⟨rfl, rfl, fun _ hs => hs, fun _ row hrow => ⟨row.lastActivityAt, hrow⟩,
      fun _ hnone => hnone, fun _ => rfl⟩

theorem Inventory.logoutView (h : Inventory env now db) (request : Request)
    (refresh : Option String) :
    Inventory env now (logoutView env jwt settings now db request refresh) := by
  have hpass := passed_principal env jwt settings now db request
  unfold DjangoFoundation.logoutView
  generalize principal env jwt settings now db request = received at hpass
  obtain ⟨found, r⟩ := received
  have hinv := h.passed hpass
  cases found with
  | none => exact hinv
  | some user =>
      dsimp only
      split
      · exact hinv
      · rename_i db' hblacklist
        have hinv' := hinv.passed (passed_blacklistRefresh hblacklist)
        refine Inventory.passed ?_ (passed_flush _ r.session)
        split
        · exact hinv'
        · exact hinv'.revoke _ _

theorem complete_step_iff {s s' : State} {e : Int × Call} (h : Inventory env s.clock s.db)
    (hs : step env jwt settings s e = some s') :
    Complete env s e s' ↔ ¬RotatesOwnSession env jwt settings s e := by
  obtain ⟨now, call⟩ := e
  unfold step at hs
  split at hs
  case isFalse => cases hs
  rename_i hcond
  obtain ⟨hle, hfresh⟩ := hcond
  cases hs
  have hinv : Inventory env now s.db := h.later hle
  cases call with
  | visit request =>
      refine iff_of_true ⟨hinv.passed (passed_principal env jwt settings now s.db request), ?_⟩ id
      intro u actor sessionKey hcall
      cases hcall
  | login request admitted rememberMe newKey userAgent identifier nonce =>
      refine iff_of_true ⟨hinv.loginView request admitted rememberMe newKey userAgent identifier
        nonce, ?_⟩ id
      intro u actor sessionKey hcall
      cases hcall
  | changePassword request oldPassword newPassword salt newKey =>
      have hboth : freshKey env s.db newKey = true ∧ freshPassword env s.db
          (env.keyring.makePassword salt newPassword) = true := by
        simpa [Call.fresh] using hfresh
      refine Iff.trans ?_ (inventory_changePasswordView jwt settings request oldPassword newPassword
        salt newKey hinv hboth.1 hboth.2)
      refine and_iff_left ?_
      intro u actor sessionKey hcall
      cases hcall
  | logout request refresh =>
      refine iff_of_true ⟨hinv.logoutView request refresh, ?_⟩ id
      intro u actor sessionKey hcall
      cases hcall
  | revoke session actor =>
      refine iff_of_true ⟨hinv.revoke session actor, ?_⟩ id
      intro u actor sessionKey hcall
      cases hcall
  | revokeAll user actor sessionKey excludeCurrent =>
      obtain ⟨db', hok, hrev⟩ := revokeAll_revoked env now s.db user actor sessionKey excludeCurrent
      have hdb' : s.db.committed (SessionService.revokeAll env now s.db user actor sessionKey
          excludeCurrent) = db' := by
        rw [hok]
        rfl
      refine iff_of_true ⟨?_, ?_⟩ id
      · show Inventory env now (s.db.committed _)
        rw [hdb']
        exact hinv.revoked hrev
      · intro u actor' sessionKey' hcall
        cases hcall
        show ∀ session ∈ (s.db.committed _).sessions,
          ¬Authenticates env now (s.db.committed _) session _
        rw [hdb']
        exact hinv.revokeAll hrev

/-! ### Runs

From any state in which the inventory is complete, a run keeps it up to the first rotation.
After that a revocation of everything leaves the rotated session.
-/

/-- **Revocation is complete exactly in the runs where no password change rotates the
user's own session.** -/
theorem complete_iff (env : Environment) (jwt : Jwt) (settings : Settings) {s : State}
    (h : Inventory env s.clock s.db) (es : List (Int × Call)) :
    Run.Steps (step env jwt settings) (Complete env) s es ↔
      Run.Steps (step env jwt settings) (fun s e _ => ¬RotatesOwnSession env jwt settings s e)
        s es := by
  have hstep : ∀ s e s', Inventory env s.clock s.db → step env jwt settings s e = some s' →
      (Complete env s e s' ↔ ¬RotatesOwnSession env jwt settings s e) :=
    fun _ _ _ hinv hs => complete_step_iff hinv hs
  have hkeep : ∀ s e s', Inventory env s.clock s.db → step env jwt settings s e = some s' →
      Complete env s e s' → Inventory env s'.clock s'.db :=
    fun _ _ _ _ _ hcomplete => hcomplete.1
  exact Run.steps_iff_of_inv hstep hkeep h es

/-- One user, signed in nowhere. -/
def oneUser : State where
  clock := 0
  db := { users := {ada} }

theorem inventory_oneUser : Inventory .plain oneUser.clock oneUser.db :=
  fun _ hs => absurd hs (Table.not_mem_empty _)

/-- Signs in, and changes the password from there. -/
def rotatedRun : List (Int × Call) :=
  [(0, .login {} (some 1) false "k" "" "i" 0),
    (seconds 1,
      .changePassword { sessionCookie := some "k", csrf := true } "secret" "better" "s" "l")]

theorem complete_iff_rotatedRun :
    Run.Steps (step .plain noJwt {}) (Complete .plain) oneUser rotatedRun ↔
      Run.Steps (step .plain noJwt {}) (fun s e _ => ¬RotatesOwnSession .plain noJwt {} s e)
        oneUser rotatedRun :=
  complete_iff .plain noJwt {} inventory_oneUser rotatedRun

/-- Then everything of the user is revoked, and the session of the new key is still there. -/
theorem rotated_session_survives_revokeAll :
    ¬Run.Steps (step .plain noJwt {}) (Complete .plain) oneUser
      (rotatedRun ++ [(seconds 2, .revokeAll 1 none none false)]) := by
  intro h
  obtain ⟨_, t, _, hobs, _, hnone⟩ := h.last (f := fun _ => ()) (a := ()) (by decide)
    (g := fun s => (s.clock, s.db.sessions.rows, (s.db.users.get? 1).map (·.password)))
    (b := (seconds 2, [⟨"l", ⟨some 1, some "plain$s$better", some 0⟩,
      seconds 1 + seconds (60 * 60 * 24 * 14)⟩], some "plain$s$better")) (by decide)
  rw [Prod.mk.injEq, Prod.mk.injEq] at hobs
  obtain ⟨hclock, hrows, hpassword⟩ := hobs
  obtain ⟨row, hrow, hrow'⟩ := Option.map_eq_some_iff.mp hpassword
  refine hnone 1 none none rfl ⟨"l", ⟨some 1, some "plain$s$better", some 0⟩,
    seconds 1 + seconds (60 * 60 * 24 * 14)⟩ ?_ ?_
  · show _ ∈ t.db.sessions.rows
    rw [hrows]
    exact List.mem_singleton.mpr rfl
  · rw [hclock]
    exact ⟨by decide, rfl, row, hrow, by rw [hrow']; rfl⟩

end DjangoFoundation.Sessions
