/-
Deleting the session inventory's old rows revives nobody.

A row that is revoked refuses the session it is about, and once it is deleted the
middleware finds no row and lets a session through.  Nothing is let through by that: a row
is revoked together with the session its reference leads to, so no session has the key of
a revoked row, and none gets it later, because keys are drawn and a flushed session is
given up.  `Settled` says so.

`forget` takes rows out of a database by their hashes.  Where every row it takes out is
revoked, each call does the same with and without it, so a run with cleanups is, to
everybody who makes requests, the run without.

The two runs are kept together by `Forgotten`: the second database is the first with revoked
rows taken out.  A call keeps the set of hashes, and a cleanup adds to it.
-/
import DjangoFoundation.Authentication.SessionCleanup
import DjangoFoundation.Proofs.Sessions

namespace DjangoFoundation.Retention

open Run SessionService
open Sessions (get?_register register_frame mem_saveSession)

variable {env : Environment} {jwt : Jwt} {settings : Settings} {retentionDays : Nat} {now : Int}
  {db db' : Database} {keep : String → Bool} {u : UUID} {r : Received}

/-! ### Revoked rows have no sessions

The invariant ties a row to the session of its hash, not to any session of its user.  It is
what makes a revoked row redundant: there is nothing left for it to refuse.
-/

/-- A row's reference leads to the session of its hash, and where the row is revoked there is
no such session. -/
structure Settled (env : Environment) (db : Database) : Prop where
  reference : ∀ row ∈ db.userSessions, ∃ key, reference env row = some key ∧
    hash env key = row.sessionKeyHash
  revoked : ∀ session ∈ db.sessions, ∀ row,
    db.userSessions.get? (hash env session.sessionKey) = some row → row.revokedAt = none

theorem Settled.of_eq (h : Settled env db) (hrows : db'.userSessions = db.userSessions)
    (hsessions : db'.sessions = db.sessions) : Settled env db' := by
  refine ⟨?_, ?_⟩
  · rw [hrows]
    exact h.reference
  · rw [hrows, hsessions]
    exact h.revoked

theorem Settled.passed (h : Settled env db) (hpass : Passed db db') : Settled env db' := by
  -- every row that is there was there, but for when it was last used
  have hback : ∀ k row', db'.userSessions.get? k = some row' →
      ∃ row, db.userSessions.get? k = some row ∧ ∃ t, row' = { row with lastActivityAt := t } := by
    intro k row' hrow'
    cases hrow : db.userSessions.get? k with
    | none =>
        rw [hpass.absent k hrow] at hrow'
        cases hrow'
    | some row =>
        obtain ⟨t, ht⟩ := hpass.inventory k row hrow
        rw [hrow', Option.some.injEq] at ht
        exact ⟨row, rfl, t, ht⟩
  refine ⟨fun row' hrow' => ?_, fun session hs row' hrow' => ?_⟩
  · obtain ⟨row, hrow, t, rfl⟩ := hback _ row' (Table.get?_of_mem hrow')
    exact h.reference row (Table.mem_of_get? hrow)
  · obtain ⟨row, hrow, t, rfl⟩ := hback _ row' hrow'
    exact h.revoked session (hpass.sessions session hs) row hrow

theorem Settled.of_revoked {rows : List UserSession} (h : Settled env db)
    (hrev : Revoked env now rows db db') : Settled env db' := by
  refine ⟨fun row' hrow' => ?_, fun session hs row' hrow' => ?_⟩
  · have hget := hrev.inventory row'.sessionKeyHash
    rw [show db'.userSessions.get? row'.sessionKeyHash = some row' from Table.get?_of_mem hrow',
      eq_comm, Option.map_eq_some_iff] at hget
    obtain ⟨row, hrow, heq⟩ := hget
    have href := h.reference row (Table.mem_of_get? hrow)
    split at heq
    · subst heq
      exact href
    · exact heq ▸ href
  · obtain ⟨hold, hgone⟩ := (hrev.sessions session).mp hs
    rw [hrev.inventory, Option.map_eq_some_iff] at hrow'
    obtain ⟨row, hrow, heq⟩ := hrow'
    split at heq
    · -- a row revoked just now has taken its session with it
      rename_i hmem
      obtain ⟨key, href, hkey⟩ := h.reference row (Table.mem_of_get? hrow)
      have hpk : row.sessionKeyHash = hash env session.sessionKey := Table.pk_of_get? hrow
      have hsame : key = session.sessionKey := Sessions.hash_inj (hkey.trans hpk)
      exact absurd (href.trans (by rw [hsame])) (hgone row hmem)
    · exact heq ▸ h.revoked session hold row hrow

/-- Signing in registers a row that is not revoked, with the key it is about. -/
theorem Settled.register (h : Settled env db) (now : Int) (u : UUID)
    (sessionKey userAgent identifier : String) (nonce : Nat) :
    Settled env (register env now db u sessionKey userAgent identifier nonce) := by
  obtain ⟨hsessions, _⟩ := register_frame env now db u sessionKey userAgent identifier nonce
  refine ⟨fun row hrow => ?_, fun session hs row hrow => ?_⟩
  · have hget : (SessionService.register env now db u sessionKey userAgent identifier
        nonce).userSessions.get? row.sessionKeyHash = some row := Table.get?_of_mem hrow
    rw [get?_register] at hget
    split at hget
    · cases hget
      exact ⟨sessionKey, env.keyring.decrypt_encrypt "django-session" nonce sessionKey, rfl⟩
    · exact h.reference row (Table.mem_of_get? hget)
  · rw [get?_register] at hrow
    split at hrow
    · cases hrow
      rfl
    · exact h.revoked session (hsessions ▸ hs) row hrow

/-- A session is saved under a key whose row, if it has one, is not revoked. -/
theorem Settled.saveSession (h : Settled env db) {sessionKey : String} (data : SessionData)
    (hrow : ∀ row, db.userSessions.get? (hash env sessionKey) = some row → row.revokedAt = none) :
    Settled env (db.saveSession now sessionKey data) := by
  refine ⟨h.reference, fun session hs row hget => ?_⟩
  rcases mem_saveSession.mp hs with ⟨hold, _⟩ | rfl
  · exact h.revoked session hold row hget
  · exact hrow row hget

/-! ### Rows taken out

`forget` is stated for any set of hashes.  What is needed of the set is `Spent`, that it holds
revoked rows only; then no row that a request could still need is missing.
-/

/-- The database without the inventory rows whose hashes `keep` rules out. -/
def forget (keep : String → Bool) (db : Database) : Database :=
  { db with userSessions := db.userSessions.select fun row => keep row.sessionKeyHash }

/-- Every hash ruled out is a revoked row's. -/
def Spent (keep : String → Bool) (db : Database) : Prop :=
  ∀ k, keep k = false → ∃ row, db.userSessions.get? k = some row ∧ row.revokedAt ≠ none

theorem Spent.keep_of_none (h : Spent keep db) {k : String}
    (hnone : db.userSessions.get? k = none) : keep k = true := by
  by_contra hgone
  obtain ⟨row, hrow, _⟩ := h k (by simpa using hgone)
  rw [hnone] at hrow
  cases hrow

theorem Spent.keep_of_live (h : Spent keep db) {k : String} {row : UserSession}
    (hrow : db.userSessions.get? k = some row) (hlive : row.revokedAt = none) :
    keep k = true := by
  by_contra hgone
  obtain ⟨row', hrow', hrevoked⟩ := h k (by simpa using hgone)
  rw [hrow, Option.some.injEq] at hrow'
  exact hrevoked (hrow' ▸ hlive)

theorem Spent.passed (h : Spent keep db) (hpass : Passed db db') : Spent keep db' := by
  intro k hk
  obtain ⟨row, hrow, hrevoked⟩ := h k hk
  obtain ⟨t, ht⟩ := hpass.inventory k row hrow
  exact ⟨_, ht, hrevoked⟩

theorem Spent.of_revoked {rows : List UserSession} (h : Spent keep db)
    (hrev : Revoked env now rows db db') : Spent keep db' := by
  intro k hk
  obtain ⟨row, hrow, hrevoked⟩ := h k hk
  refine ⟨_, by rw [hrev.inventory, hrow, Option.map_some], ?_⟩
  split
  · exact Option.some_ne_none now
  · exact hrevoked

theorem Spent.register (h : Spent keep db) (now : Int) (u : UUID) {sessionKey : String}
    (hkeep : keep (hash env sessionKey) = true) (userAgent identifier : String) (nonce : Nat) :
    Spent keep (register env now db u sessionKey userAgent identifier nonce) := by
  intro k hk
  rw [get?_register, if_neg]
  · exact h k hk
  · rintro rfl
    rw [hkeep] at hk
    cases hk

/-! ### What is left does the same

Lookups by a hash that is kept commute with taking others out, and so do updates of single
rows.  The lemmas about requests below are put together from these.
-/

theorem get?_forget (k : String) : (forget keep db).userSessions.get? k =
    if keep k then db.userSessions.get? k else none := by
  show (db.userSessions.select _).get? k = _
  rw [Table.get?_select]
  cases hget : db.userSessions.get? k with
  | none =>
      rw [ite_self]
      rfl
  | some row =>
      have hpk : row.sessionKeyHash = k := Table.pk_of_get? hget
      rw [Option.filter_some, hpk]

theorem flush_forget (session : RequestSession) :
    (forget keep db).flush session = forget keep (db.flush session) := by
  unfold Database.flush
  split <;> rfl

theorem modify_forget (k : String) (f : UserSession → UserSession)
    (hf : ∀ row, Keyed.pk (f row) = Keyed.pk row) :
    (forget keep db).userSessions.modify k f hf =
      (forget keep { db with userSessions := db.userSessions.modify k f hf }).userSessions := by
  show (db.userSessions.select _).update _ f hf = (db.userSessions.update _ f hf).select _
  rw [Table.select_update]
  exact fun row => congrArg keep (hf row)

theorem touch_forget (row : UserSession) :
    (forget keep db).touch now row = forget keep (db.touch now row) := by
  unfold Database.touch
  rw [modify_forget]
  rfl

/-! ### Requests

A request looks up the row of its own session.  By `Settled` that row is not revoked if the
session is live, so it is not among those taken out; and where there is no such session,
neither side looks further.
-/

/-- The same, of the database a request has. -/
def forgetting (keep : String → Bool) (r : Received) : Received :=
  { r with db := forget keep r.db }

/-- The session of a request, where it has a key, is in the table. -/
def Stored (r : Received) : Prop :=
  ∀ key, r.session.sessionKey = some key → ∃ session ∈ r.db.sessions, session.sessionKey = key

theorem Stored.flush (r : Received) : Stored r.flush := by
  intro key hkey
  cases hkey

theorem stored_getUser (env : Environment) (now : Int) (db : Database) (cookie : Option String) :
    Stored (getUser env db (loadSession now db cookie)) := by
  have hload : Stored { user := none, session := loadSession now db cookie, db := db } := by
    intro key hkey
    rcases loadSession_cases now db cookie with hempty | ⟨session, _, hmem, _, hload⟩
    · rw [hempty] at hkey
      cases hkey
    · rw [hload, Option.some.injEq] at hkey
      exact ⟨session, hmem, hkey⟩
  unfold getUser
  repeat' split
  · exact hload
  · exact hload
  · exact .flush _

theorem Settled.row_live (h : Settled env r.db) (hr : Stored r) {key : String} {row : UserSession}
    (hkey : r.session.sessionKey = some key)
    (hrow : r.db.userSessions.get? (hash env key) = some row) : row.revokedAt = none := by
  obtain ⟨session, hmem, rfl⟩ := hr key hkey
  exact h.revoked session hmem row hrow

theorem getUser_forget (session : RequestSession) :
    getUser env (forget keep db) session = forgetting keep (getUser env db session) := by
  have husers : (forget keep db).users = db.users := rfl
  unfold getUser
  rw [husers]
  generalize (session.data.userId.bind fun userId =>
    (db.users.get? userId).filter fun user => user.isActive) = found
  cases found with
  | none => rfl
  | some user =>
      dsimp only
      split
      · rfl
      · simp only [Received.flush, flush_forget]
        rfl

theorem userSessionMiddleware_forget (h : Settled env r.db) (hr : Stored r)
    (hspent : Spent keep r.db) : userSessionMiddleware env now (forgetting keep r) =
      forgetting keep (userSessionMiddleware env now r) := by
  have hcurrent : current env (forget keep r.db) r.session.sessionKey =
      current env r.db r.session.sessionKey := by
    cases hkey : r.session.sessionKey with
    | none => rfl
    | some key =>
        show (forget keep r.db).userSessions.get? _ = r.db.userSessions.get? _
        rw [get?_forget]
        cases hrow : r.db.userSessions.get? (hash env key) with
        | none => rw [ite_self]
        | some row => rw [if_pos (hspent.keep_of_live hrow (h.row_live hr hkey hrow))]
  obtain ⟨user, session, db⟩ := r
  have hbans : (forget keep db).bans = db.bans := rfl
  cases user with
  | none => rfl
  | some user =>
      simp only [userSessionMiddleware, forgetting, hcurrent, hbans]
      repeat' split
      · rfl
      · simp only [Received.flush, flush_forget]
      · rfl
      · simp only [Received.flush, flush_forget]
      · simp only [touch_forget]
      · rfl

theorem receive_forget (h : Settled env db) (hspent : Spent keep db) (request : Request) :
    receive env now (forget keep db) request = forgetting keep (receive env now db request) := by
  have hload : loadSession now (forget keep db) request.sessionCookie =
      loadSession now db request.sessionCookie := rfl
  have hpass := passed_getUser env db (loadSession now db request.sessionCookie)
  unfold receive
  rw [hload, getUser_forget, userSessionMiddleware_forget (h.passed hpass)
    (stored_getUser env now db request.sessionCookie) (hspent.passed hpass)]

theorem stored_receive (env : Environment) (now : Int) (db : Database) (request : Request) :
    Stored (receive env now db request) := by
  have hget := stored_getUser env now db request.sessionCookie
  rw [receive]
  rcases userSessionMiddleware_cases env now
    (getUser env db (loadSession now db request.sessionCookie)) with h | h | ⟨_, h⟩
  · rw [h]
    exact hget
  · rw [h]
    exact .flush _
  · rw [h]
    exact hget

theorem apiKeyService_authenticate_forget (raw : String) (ipAddress : Option String) :
    APIKeyService.authenticate env now (forget keep db) raw ipAddress =
      Prod.map id (forget keep) (APIKeyService.authenticate env now db raw ipAddress) := by
  have hadmitted (keyPrefix : String) :
      APIKeyService.admitted? env now (forget keep db) raw keyPrefix =
        APIKeyService.admitted? env now db raw keyPrefix := rfl
  unfold APIKeyService.authenticate
  cases APIKeyService.keyPrefix? raw with
  | none => rfl
  | some keyPrefix =>
      dsimp only
      rw [hadmitted]
      split
      · rfl
      · cases APIKeyService.admitted? env now db raw keyPrefix with
        | none => rfl
        | some found => rfl

theorem apiKeyAuthentication_forget (request : Request) :
    apiKeyAuthentication env settings now (forget keep db) request =
      (apiKeyAuthentication env settings now db request).map (Prod.map id (forget keep)) := by
  unfold apiKeyAuthentication
  split
  · rfl
  · split
    · rfl
    · rfl
    · rename_i raw _ _
      rw [apiKeyService_authenticate_forget]
      obtain ⟨outcome, db'⟩ := APIKeyService.authenticate env now db raw request.client.ipAddress
      cases outcome with
      | error e => rfl
      | ok found =>
          cases found with
          | none => rfl
          | some found =>
              show (if (!canAuthenticateNow db'.bans now found.2) = true then _ else _) =
                Except.map _ (if (!canAuthenticateNow db'.bans now found.2) = true then _ else _)
              split <;> rfl

theorem authenticate_forget (request : Request) :
    authenticate env jwt settings now (forgetting keep r) request =
      (authenticate env jwt settings now r request).map (Prod.map id (forget keep)) := by
  have hjwt : ∀ db, jwtAuthentication jwt now (forget keep db) request =
      jwtAuthentication jwt now db request := fun _ => rfl
  have hdb : (forgetting keep r).db = forget keep r.db := rfl
  have huser : (forgetting keep r).user = r.user := rfl
  unfold authenticate
  rw [hdb, huser, apiKeyAuthentication_forget]
  cases apiKeyAuthentication env settings now r.db request with
  | error e => rfl
  | ok found =>
      obtain ⟨owner, db⟩ := found
      cases owner with
      | some user => rfl
      | none =>
          simp only [Except.map, Prod.map, bind, Except.bind, hjwt, id]
          cases jwtAuthentication jwt now db request with
          | error e => rfl
          | ok token =>
              cases token with
              | some user => rfl
              | none =>
                  dsimp only
                  cases sessionAuthentication r.user request with
                  | error e => rfl
                  | ok signedIn => cases signedIn <;> rfl

/-- Who a request is for, and what it leaves of its session, is the same. -/
theorem principal_forget (h : Settled env db) (hspent : Spent keep db) (request : Request) :
    principal env jwt settings now (forget keep db) request =
      Prod.map id (forgetting keep) (principal env jwt settings now db request) := by
  unfold principal
  dsimp only
  rw [receive_forget h hspent, authenticate_forget]
  cases authenticate env jwt settings now (receive env now db request) request with
  | error e => rfl
  | ok found =>
      obtain ⟨found, db'⟩ := found
      cases found with
      | none => rfl
      | some found => rfl

theorem Stored.noted (hr : Stored r) (hnoted : Noted r.db db') : Stored { r with db := db' } := by
  intro key hkey
  obtain ⟨session, hmem, hsame⟩ := hr key hkey
  exact ⟨session, hnoted.sessions ▸ hmem, hsame⟩

/-! ### Revoking

Revoking is the one call that may address a row that was taken out.  There it finds nothing,
where the other side finds a row that is revoked already, and neither changes anything.
-/

theorem revoke_forget {row : UserSession} (hkeep : keep row.sessionKeyHash = true)
    (actor : Option UUID) : revoke env now (forget keep db) row actor =
      (revoke env now db row actor).map (forget keep) := by
  unfold SessionService.revoke
  rw [get?_forget, if_pos hkeep]
  cases db.userSessions.get? row.sessionKeyHash with
  | none => rfl
  | some locked =>
      dsimp only
      split
      · rfl
      · simp only [revokeLocked, modify_forget, Except.map]
        cases env.keyring.decryptValue "django-session" locked.encryptedSessionKey <;> rfl

/-- A row taken out was revoked, and revoking it again changes nothing. -/
theorem committed_revoke_forget (hspent : Spent keep db) (row : UserSession)
    (actor : Option UUID) :
    (forget keep db).committed (revoke env now (forget keep db) row actor) =
      forget keep (db.committed (revoke env now db row actor)) := by
  by_cases hkeep : keep row.sessionKeyHash = true
  · rw [revoke_forget hkeep]
    cases revoke env now db row actor <;> rfl
  · rw [Bool.not_eq_true] at hkeep
    obtain ⟨locked, hlocked, hrevoked⟩ := hspent _ hkeep
    unfold SessionService.revoke
    rw [get?_forget, hkeep, if_neg Bool.false_ne_true, hlocked]
    simp only [Option.isSome_iff_ne_none.mpr hrevoked, if_true, Database.committed]

theorem committed_revoke_of_revoked {row : UserSession} {k : String}
    (hrow : db.userSessions.get? k = some row) (hrevoked : row.revokedAt ≠ none)
    (actor : Option UUID) : db.committed (revoke env now db row actor) = db := by
  have hpk : row.sessionKeyHash = k := Table.pk_of_get? hrow
  simp only [SessionService.revoke, hpk, hrow, Option.isSome_iff_ne_none.mpr hrevoked, if_true,
    Database.committed]

/-- The row of a session is as it was, or it is a revoked one and taken out. -/
theorem current_forget (hspent : Spent keep db) (env : Environment) (sessionKey : Option String) :
    current env (forget keep db) sessionKey = current env db sessionKey ∨
      current env (forget keep db) sessionKey = none ∧ ∃ k row, current env db sessionKey = some row ∧
        db.userSessions.get? k = some row ∧ row.revokedAt ≠ none := by
  cases sessionKey with
  | none => exact Or.inl rfl
  | some key =>
      have hcurrent : current env (forget keep db) (some key) =
          if keep (hash env key) then current env db (some key) else none := get?_forget _
      by_cases hkeep : keep (hash env key) = true
      · rw [if_pos hkeep] at hcurrent
        exact Or.inl hcurrent
      · rw [if_neg hkeep] at hcurrent
        obtain ⟨row, hrow, hrevoked⟩ := hspent _ (by simpa using hkeep)
        exact Or.inr ⟨hcurrent, _, row, hrow, hrow, hrevoked⟩

theorem selected_forget (hspent : Spent keep db) (sessionKey : Option String)
    (excludeCurrent : Bool) : selected env (forget keep db) u sessionKey excludeCurrent =
      selected env db u sessionKey excludeCurrent := by
  have hrows : ((forget keep db).userSessions.rows.filter fun session =>
      session.user = u ∧ session.revokedAt = none) = db.userSessions.rows.filter fun session =>
        session.user = u ∧ session.revokedAt = none := by
    show List.filter _ (List.filter _ _) = _
    rw [List.filter_filter]
    refine List.filter_congr fun row hrow => ?_
    by_cases hlive : row.revokedAt = none
    · have hkeep : keep row.sessionKeyHash = true :=
        hspent.keep_of_live (Table.get?_of_mem hrow) hlive
      rw [hkeep, Bool.and_true]
    · simp [hlive]
  unfold selected
  rw [hrows]
  rcases current_forget hspent env sessionKey with hsame | ⟨hnone, k, row, hrow, hget, hrevoked⟩
  · rw [hsame]
  · -- the current row is revoked, so it is not among those to exclude it from
    rw [hnone, hrow]
    dsimp only
    split
    · symm
      rw [List.filter_eq_self]
      intro other hother
      obtain ⟨hmem, hlive⟩ := List.mem_filter.mp hother
      rw [decide_eq_true_eq]
      intro hsame
      have heq : other = row := Table.eq_of_pk_eq hmem (Table.mem_of_get? hget) hsame
      exact hrevoked (heq ▸ (of_decide_eq_true hlive).2)
    · rfl

theorem revokeAll_forget (hspent : Spent keep db) (actor : Option UUID)
    (sessionKey : Option String) (excludeCurrent : Bool) :
    revokeAll env now (forget keep db) u actor sessionKey excludeCurrent =
      (revokeAll env now db u actor sessionKey excludeCurrent).map (forget keep) := by
  have hkeep : ∀ row ∈ selected env db u sessionKey excludeCurrent,
      keep row.sessionKeyHash = true := by
    intro row hrow
    obtain ⟨hmem, _, hlive⟩ := (mem_selected.mp hrow).1
    exact hspent.keep_of_live (Table.get?_of_mem hmem) hlive
  unfold revokeAll
  rw [selected_forget hspent]
  clear hspent
  generalize selected env db u sessionKey excludeCurrent = rows at hkeep
  induction rows generalizing db with
  | nil => rfl
  | cons row rows ih =>
      rw [List.foldlM_cons, List.foldlM_cons, revoke_forget (hkeep row List.mem_cons_self)]
      cases SessionService.revoke env now db row actor with
      | error e => rfl
      | ok db₁ => exact ih fun row hrow => hkeep row (List.mem_cons_of_mem _ hrow)

/-! ### Signing in

Signing in registers a row, and before that looks for one of the same device.  The row it looks
for is one that is not revoked, so those taken out are none of them missed.
-/

theorem register_forget {sessionKey : String} (hkeep : keep (hash env sessionKey) = true)
    (userAgent identifier : String) (nonce : Nat) :
    register env now (forget keep db) u sessionKey userAgent identifier nonce =
      forget keep (register env now db u sessionKey userAgent identifier nonce) := by
  unfold SessionService.register
  dsimp only
  generalize hrow : ({
    sessionKeyHash := hash env sessionKey
    user := u
    identifier := identifier
    encryptedSessionKey := env.keyring.encryptValue "django-session" nonce sessionKey
    userAgent := userAgent
    lastActivityAt := now } : UserSession) = row
  have hkeep' : keep row.sessionKeyHash = true := by
    rw [← hrow]
    exact hkeep
  cases hinsert : db.userSessions.insert? row with
  | some userSessions =>
      have hsome : (forget keep db).userSessions.insert? row = _ :=
        Table.select_insert? hinsert hkeep'
      rw [hsome]
      rfl
  | none =>
      obtain ⟨old, hold⟩ := Table.exists_of_insert?_eq_none hinsert
      have hget : (forget keep db).userSessions.get? (Keyed.pk row) = some old := by
        rw [get?_forget, show keep (Keyed.pk row) = true from hkeep', if_pos rfl, hold]
      rw [Table.insert?_of_get? hget]
      dsimp only
      rw [modify_forget]
      rfl

theorem login_forget (user : User) (newKey : String) :
    DjangoFoundation.login env (forgetting keep r) user newKey =
      forgetting keep (DjangoFoundation.login env r user newKey) := by
  unfold DjangoFoundation.login
  simp only [forgetting, flush_forget]
  cases r.session.data.userId with
  | none => rfl
  | some userId =>
      dsimp only
      split <;> rfl

theorem existingDevice_forget (hspent : Spent keep db) (userAgent : String) :
    existingDevice (forget keep db) u userAgent = existingDevice db u userAgent := by
  unfold existingDevice
  rw [Bool.eq_iff_iff, List.any_eq_true, List.any_eq_true]
  constructor
  · rintro ⟨row, hrow, hyes⟩
    exact ⟨row, (List.mem_filter.mp hrow).1, hyes⟩
  · rintro ⟨row, hrow, hyes⟩
    refine ⟨row, List.mem_filter.mpr ⟨hrow, ?_⟩, hyes⟩
    exact hspent.keep_of_live (Table.get?_of_mem hrow) (of_decide_eq_true hyes).2.2

theorem Spent.keep_of_stored (hspent : Spent keep r.db) (h : Settled env r.db) (hr : Stored r)
    {newKey : String} (hfresh : r.db.userSessions.get? (hash env newKey) = none) :
    keep (hash env (r.session.sessionKey.getD newKey)) = true := by
  cases hkey : r.session.sessionKey with
  | none => exact hspent.keep_of_none hfresh
  | some key =>
      cases hrow : r.db.userSessions.get? (hash env key) with
      | none => exact hspent.keep_of_none hrow
      | some row => exact hspent.keep_of_live hrow (h.row_live hr hkey hrow)

/-- A user signs in under a new key, or the key the session has. -/
theorem login_sessionKey (env : Environment) (r : Received) (user : User) (newKey : String) :
    (DjangoFoundation.login env r user newKey).session.sessionKey = some newKey ∨
      (DjangoFoundation.login env r user newKey).session.sessionKey =
        some (r.session.sessionKey.getD newKey) := by
  unfold DjangoFoundation.login
  dsimp only
  split
  · split
    · exact Or.inl rfl
    · exact Or.inr rfl
  · exact Or.inl rfl

/-- A database, and the same with revoked rows taken out. -/
structure Forgotten (env : Environment) (keep : String → Bool) (db db' : Database) : Prop where
  settled : Settled env db
  spent : Spent keep db
  eq : db' = forget keep db

theorem forgotten_login (hr : Stored r) (h : Settled env r.db) (hspent : Spent keep r.db)
    (user : User) (rememberMe : Bool) {newKey : String} (userAgent identifier : String)
    (nonce : Nat) (hfresh : r.db.userSessions.get? (hash env newKey) = none) :
    Forgotten env keep
      (AuthenticationService.login env now r user rememberMe newKey userAgent identifier nonce)
      (AuthenticationService.login env now (forgetting keep r) user rememberMe newKey userAgent
        identifier nonce) := by
  have hpass := (Sessions.passed_login env r user newKey).1
  have hkeep : keep (hash env ((DjangoFoundation.login env r user newKey).session.sessionKey.getD
      newKey)) = true := by
    rcases login_sessionKey env r user newKey with hkey | hkey
    · rw [hkey]
      exact hspent.keep_of_none hfresh
    · rw [hkey]
      exact hspent.keep_of_stored h hr hfresh
  unfold AuthenticationService.login
  rw [login_forget]
  dsimp only
  have hsettled := h.passed hpass
  have hspent' := hspent.passed hpass
  generalize DjangoFoundation.login env r user newKey = r₁ at *
  simp only [forgetting]
  generalize r₁.session.sessionKey.getD newKey = sessionKey at *
  have hregistered := hsettled.register now user.pk sessionKey userAgent identifier nonce
  have hlive : ∀ row, (SessionService.register env now r₁.db user.pk sessionKey userAgent
      identifier nonce).userSessions.get? (hash env sessionKey) = some row →
      row.revokedAt = none := by
    intro row hrow
    rw [get?_register, if_pos rfl, Option.some.injEq] at hrow
    rw [← hrow]
  have hspent'' := hspent'.register now user.pk hkeep userAgent identifier nonce
  simp only [existingDevice_forget hspent', register_forget hkeep]
  cases existingDevice r₁.db user.pk userAgent with
  | false =>
      refine ⟨Settled.saveSession ?_ _ hlive, hspent'', rfl⟩
      exact hregistered.of_eq rfl rfl
  | true =>
      refine ⟨Settled.saveSession ?_ _ hlive, hspent'', rfl⟩
      exact hregistered.of_eq rfl rfl

/-! ### Changing a password

It writes the user's row and then revokes sessions, so it is what is known of the two in turn.
-/

theorem changePassword_forget (hspent : Spent keep db) (oldPassword newPassword salt : String)
    (sessionKey : Option String) :
    AccountService.changePassword env now (forget keep db) u oldPassword newPassword salt
        sessionKey =
      (AccountService.changePassword env now db u oldPassword newPassword salt sessionKey).map
        (forget keep) := by
  have hget : (forget keep db).getUser u = db.getUser u := rfl
  have hstamped : ∀ pk, AccountService.stampPasswordChange now
      (AccountService.setPassword env now (forget keep db) pk salt newPassword) pk =
        forget keep (AccountService.stampPasswordChange now
          (AccountService.setPassword env now db pk salt newPassword) pk) := fun _ => rfl
  have hspent' : ∀ pk, Spent keep (AccountService.stampPasswordChange now
      (AccountService.setPassword env now db pk salt newPassword) pk) := fun _ => hspent
  unfold AccountService.changePassword
  rw [hget]
  cases db.getUser u with
  | error e => rfl
  | ok locked =>
      simp only [bind, Except.bind]
      split
      · rfl
      · simp only [pure, Except.pure, hstamped, revokeAll_forget (hspent' locked.pk)]
        cases revokeAll env now (AccountService.stampPasswordChange now (AccountService.setPassword
          env now db locked.pk salt newPassword) locked.pk) locked.pk (some locked.pk) sessionKey
          true with
        | error e => split <;> rfl
        | ok db' => split <;> rfl

theorem updateSessionAuthHash_forget (user : User) (newKey : String) :
    updateSessionAuthHash env now (forgetting keep r) user newKey =
      forget keep (updateSessionAuthHash env now r user newKey) := by
  simp only [updateSessionAuthHash, forgetting, flush_forget]
  rfl

theorem Settled.updateSessionAuthHash (h : Settled env r.db) (user : User) {newKey : String}
    (hfresh : r.db.userSessions.get? (hash env newKey) = none) :
    Settled env (updateSessionAuthHash env now r user newKey) := by
  have hpass := passed_flush r.db r.session
  refine (h.passed hpass).saveSession _ fun row hrow => ?_
  rw [hpass.absent _ hfresh] at hrow
  cases hrow

theorem forgotten_changePasswordView (h : Settled env db) (hspent : Spent keep db)
    (request : Request) (oldPassword newPassword salt : String) {newKey : String}
    (hfresh : db.userSessions.get? (hash env newKey) = none) :
    Forgotten env keep
      (changePasswordView env jwt settings now db request oldPassword newPassword salt newKey)
      (changePasswordView env jwt settings now (forget keep db) request oldPassword newPassword
        salt newKey) := by
  have hpass := Sessions.passed_principal env jwt settings now db request
  unfold changePasswordView
  rw [principal_forget h hspent]
  generalize principal env jwt settings now db request = received at hpass
  obtain ⟨found, r⟩ := received
  have hsettled := h.passed hpass
  have hspent' := hspent.passed hpass
  cases found with
  | none => exact ⟨hsettled, hspent', rfl⟩
  | some user =>
      simp only [Prod.map, id, forgetting, changePassword_forget hspent']
      rcases Sessions.changePassword_cases env now r.db user.pk oldPassword newPassword salt
        r.session.sessionKey with ⟨_, e, herr⟩ | ⟨_, db', rows, hok, hrev⟩
      · simp only [herr, Except.map]
        exact ⟨hsettled, hspent', rfl⟩
      · have hsettled' : Settled env db' := by
          refine Settled.of_revoked ?_ hrev
          exact hsettled.of_eq rfl rfl
        have hspent'' : Spent keep db' := by
          refine Spent.of_revoked ?_ hrev
          exact hspent'
        simp only [hok, Except.map]
        have husers : (forget keep db').users = db'.users := rfl
        rw [husers]
        cases db'.users.get? user.pk with
        | none => exact ⟨hsettled', hspent'', rfl⟩
        | some changed =>
            have hnone : db'.userSessions.get? (hash env newKey) = none := by
              rw [hrev.inventory]
              show (r.db.userSessions.get? _).map _ = none
              rw [hpass.absent _ hfresh, Option.map_none]
            have hflushed := hspent''.passed (passed_flush db' r.session)
            refine ⟨Settled.updateSessionAuthHash (r := { r with db := db' }) hsettled' changed
              hnone, ?_, updateSessionAuthHash_forget (r := { r with db := db' }) changed newKey⟩
            exact hflushed

/-! ### Calls

Put together, one lemma for all calls.
-/

theorem forgotten_loginView (h : Settled env db) (hspent : Spent keep db) (request : Request)
    (admitted : Option UUID) (rememberMe : Bool) {newKey : String} (userAgent identifier : String)
    (nonce : Nat) (hfresh : db.userSessions.get? (hash env newKey) = none) :
    Forgotten env keep
      (loginView env jwt settings now db request admitted rememberMe newKey userAgent identifier
        nonce)
      (loginView env jwt settings now (forget keep db) request admitted rememberMe newKey userAgent
        identifier nonce) := by
  have hpass := passed_receive env now db request
  have hstored := stored_receive env now db request
  unfold loginView
  dsimp only
  rw [receive_forget h hspent, authenticate_forget]
  generalize receive env now db request = r at hpass hstored
  have hsettled := h.passed hpass
  have hspent' := hspent.passed hpass
  cases hauth : authenticate env jwt settings now r request with
  | error e => exact ⟨hsettled, hspent', rfl⟩
  | ok found =>
      obtain ⟨found, db₁⟩ := found
      obtain ⟨hnoted, _⟩ := authenticate_ok hauth
      have hsettled' := hsettled.passed hnoted.passed
      have hspent'' := hspent'.passed hnoted.passed
      have husers : (forget keep db₁).users = db₁.users := rfl
      have hbans : (forget keep db₁).bans = db₁.bans := rfl
      simp only [Except.map, Prod.map, id, husers, hbans]
      cases (admitted.bind db₁.users.get?).filter fun user =>
          canAuthenticateNow db₁.bans now user with
      | none => exact ⟨hsettled', hspent'', rfl⟩
      | some user =>
          exact forgotten_login (hstored.noted hnoted) hsettled' hspent'' user rememberMe userAgent
            identifier nonce (hnoted.passed.absent _ (hpass.absent _ hfresh))

theorem blacklistRefresh_forget (refresh : Option String) :
    blacklistRefresh jwt now (forget keep db) refresh =
      (blacklistRefresh jwt now db refresh).map (forget keep) := by
  have hblacklisted : (forget keep db).blacklistedTokens = db.blacklistedTokens := rfl
  unfold blacklistRefresh
  rw [hblacklisted]
  repeat' split
  all_goals rfl

theorem Settled.committed_revoke (h : Settled env db) (now : Int) (row : UserSession)
    (actor : Option UUID) : Settled env (db.committed (revoke env now db row actor)) := by
  unfold SessionService.revoke
  split
  · exact h
  · rename_i locked hget
    split
    · exact h
    · exact h.of_revoked (revoked_revokeLocked env now actor (Table.mem_of_get? hget))

theorem Spent.committed_revoke (h : Spent keep db) (env : Environment) (now : Int)
    (row : UserSession) (actor : Option UUID) :
    Spent keep (db.committed (revoke env now db row actor)) := by
  unfold SessionService.revoke
  split
  · exact h
  · rename_i locked hget
    split
    · exact h
    · exact h.of_revoked (revoked_revokeLocked env now actor (Table.mem_of_get? hget))

theorem forgotten_logoutView (h : Settled env db) (hspent : Spent keep db) (request : Request)
    (refresh : Option String) :
    Forgotten env keep (logoutView env jwt settings now db request refresh)
      (logoutView env jwt settings now (forget keep db) request refresh) := by
  have hpass := Sessions.passed_principal env jwt settings now db request
  unfold logoutView
  rw [principal_forget h hspent]
  generalize principal env jwt settings now db request = received at hpass
  obtain ⟨found, r⟩ := received
  have hsettled := h.passed hpass
  have hspent' := hspent.passed hpass
  cases found with
  | none => exact ⟨hsettled, hspent', rfl⟩
  | some user =>
      simp only [Prod.map, id, forgetting, blacklistRefresh_forget]
      cases hblacklist : blacklistRefresh jwt now r.db refresh with
      | error e => exact ⟨hsettled, hspent', rfl⟩
      | ok db₁ =>
          have hpass' := Sessions.passed_blacklistRefresh hblacklist
          have hsettled' := hsettled.passed hpass'
          have hspent'' := hspent'.passed hpass'
          simp only [Except.map]
          rcases current_forget hspent'' env r.session.sessionKey with
            hsame | ⟨hnone, k, row, hrow, hget, hrevoked⟩
          · rw [hsame]
            cases current env db₁ r.session.sessionKey with
            | none =>
                exact ⟨hsettled'.passed (passed_flush _ _), hspent''.passed (passed_flush _ _),
                  flush_forget _⟩
            | some row =>
                refine ⟨(hsettled'.committed_revoke now row _).passed (passed_flush _ _),
                  (hspent''.committed_revoke env now row _).passed (passed_flush _ _), ?_⟩
                dsimp only
                rw [committed_revoke_forget hspent'', flush_forget]
          · rw [hnone, hrow]
            dsimp only
            rw [committed_revoke_of_revoked hget hrevoked]
            exact ⟨hsettled'.passed (passed_flush _ _), hspent''.passed (passed_flush _ _),
              flush_forget _⟩

/-- **A call does the same where revoked rows have been taken out.** -/
theorem forgotten_call (h : Settled env db) (hspent : Spent keep db) {call : Sessions.Call}
    (hfresh : call.fresh env db = true) :
    Forgotten env keep (call.run env jwt settings now db)
      (call.run env jwt settings now (forget keep db)) := by
  have hkey : ∀ newKey, Sessions.freshKey env db newKey = true →
      db.userSessions.get? (hash env newKey) = none := by
    intro newKey hyes
    rw [Sessions.freshKey, Bool.and_eq_true, Option.isNone_iff_eq_none,
      Option.isNone_iff_eq_none] at hyes
    exact hyes.2
  cases call with
  | visit request =>
      have hpass := Sessions.passed_principal env jwt settings now db request
      refine ⟨h.passed hpass, hspent.passed hpass, ?_⟩
      show (principal env jwt settings now (forget keep db) request).2.db = _
      rw [principal_forget h hspent]
      rfl
  | login request admitted rememberMe newKey userAgent identifier nonce =>
      exact forgotten_loginView h hspent request admitted rememberMe userAgent identifier nonce
        (hkey newKey hfresh)
  | changePassword request oldPassword newPassword salt newKey =>
      have hboth : Sessions.freshKey env db newKey = true ∧ Sessions.freshPassword env db
          (env.keyring.makePassword salt newPassword) = true := by
        simpa [Sessions.Call.fresh] using hfresh
      exact forgotten_changePasswordView h hspent request oldPassword newPassword salt
        (hkey newKey hboth.1)
  | logout request refresh => exact forgotten_logoutView h hspent request refresh
  | revoke session actor =>
      exact ⟨h.committed_revoke now session actor, hspent.committed_revoke env now session actor,
        committed_revoke_forget hspent session actor⟩
  | revokeAll user actor sessionKey excludeCurrent =>
      obtain ⟨db', hok, hrev⟩ := revokeAll_revoked env now db user actor sessionKey excludeCurrent
      refine ⟨?_, ?_, ?_⟩
      · simp only [Sessions.Call.run, hok]
        exact h.of_revoked hrev
      · simp only [Sessions.Call.run, hok]
        exact hspent.of_revoked hrev
      · simp only [Sessions.Call.run, revokeAll_forget hspent, hok]
        rfl

/-! ### Runs

The two runs are kept together by a relation, and a cleanup moves only one of them.  The
relation allows for any rows taken out before, so cleanups may come as often as they like.
-/

theorem fresh_forget (hspent : Spent keep db) {call : Sessions.Call}
    (hfresh : call.fresh env db = true) : call.fresh env (forget keep db) = true := by
  have hkey : ∀ newKey, Sessions.freshKey env db newKey = true →
      Sessions.freshKey env (forget keep db) newKey = true := by
    intro newKey hyes
    unfold Sessions.freshKey at hyes ⊢
    rw [Bool.and_eq_true, Option.isNone_iff_eq_none, Option.isNone_iff_eq_none] at hyes ⊢
    refine ⟨hyes.1, ?_⟩
    rw [get?_forget, if_pos (hspent.keep_of_none hyes.2), hyes.2]
  cases call with
  | login _ _ _ newKey _ _ _ => exact hkey newKey hfresh
  | changePassword _ _ newPassword salt newKey =>
      simp only [Sessions.Call.fresh, Bool.and_eq_true] at hfresh ⊢
      exact ⟨hkey newKey hfresh.1, hfresh.2⟩
  | visit _ => rfl
  | logout _ _ => rfl
  | revoke _ _ => rfl
  | revokeAll _ _ _ _ => rfl

theorem unrevoked_forget (hspent : Spent keep db) : unrevoked (forget keep db) = unrevoked db := by
  have hrows : (forget keep db).userSessions.select (fun session => session.revokedAt.isNone) =
      db.userSessions.select fun session => session.revokedAt.isNone := by
    ext1
    show List.filter _ (List.filter _ _) = List.filter _ _
    rw [List.filter_filter]
    refine List.filter_congr fun row hrow => ?_
    cases hlive : row.revokedAt with
    | none =>
        have hkeep : keep row.sessionKeyHash = true :=
          hspent.keep_of_live (Table.get?_of_mem hrow) hlive
        rw [hkeep, Bool.and_true]
    | some _ => rfl
  unfold unrevoked
  rw [hrows]
  rfl

/-- The rows a cleanup deletes. -/
def Old (retentionDays : Nat) (now : Int) (session : UserSession) : Bool :=
  session.revokedAt.any fun revokedAt => revokedAt < now - seconds (86400 * retentionDays)

/-- **A cleanup takes out rows that are revoked**, and no others. -/
theorem Forgotten.cleanup (h : Forgotten env keep db db') (retentionDays : Nat) (now : Int) :
    Forgotten env
      (fun k => keep k && !(db.userSessions.get? k).any (Old retentionDays now)) db
      (cleanupSessions retentionDays now db').2 := by
  obtain ⟨hsettled, hspent, rfl⟩ := h
  refine ⟨hsettled, fun k hk => ?_, ?_⟩
  · rw [Bool.and_eq_false_iff, Bool.not_eq_false'] at hk
    rcases hk with hgone | hold
    · exact hspent k hgone
    · obtain ⟨row, hrow, hrevoked⟩ := (Option.any_eq_true _ _).mp hold
      refine ⟨row, hrow, fun hnone => ?_⟩
      rw [Old, hnone] at hrevoked
      cases hrevoked
  · show { db with userSessions := (forget keep db).userSessions.delete (Old retentionDays now) } =
      forget _ db
    unfold forget
    congr 1
    ext1
    show List.filter _ (List.filter _ _) = List.filter _ _
    rw [List.filter_filter]
    refine List.filter_congr fun row hrow => ?_
    have hget : db.userSessions.get? row.sessionKeyHash = some row := Table.get?_of_mem hrow
    dsimp only
    rw [hget, Option.any_some, Bool.and_comm]

theorem settled_of_empty (hsessions : db.sessions = ∅) (hrows : db.userSessions = ∅) :
    Settled env db := by
  refine ⟨fun row hrow => ?_, fun session hs => ?_⟩
  · rw [hrows] at hrow
    exact absurd hrow (Table.not_mem_empty row)
  · rw [hsessions] at hs
    exact absurd hs (Table.not_mem_empty session)

theorem forgotten_self (h : Settled env db) : Forgotten env (fun _ => true) db db := by
  have hnone : Spent (fun _ => true) db := fun k hk => by cases hk
  have hall : db.userSessions.select (fun _ => true) = db.userSessions := by
    ext1
    exact List.filter_eq_self.mpr fun _ _ => rfl
  refine ⟨h, hnone, ?_⟩
  show db = { db with userSessions := db.userSessions.select fun _ => true }
  rw [hall]

/-- The times still to come are in order. -/
def InOrder (s : Sessions.State) (es : List (Int × Event)) : Prop :=
  (s.clock :: es.map Prod.fst).IsChain (· ≤ ·)

theorem clock_of_step {s s' : Sessions.State} {e : Int × Event}
    (hstep : step env jwt settings retentionDays s e = some s') : s'.clock = e.1 := by
  obtain ⟨now, event⟩ := e
  cases event with
  | call call =>
      simp only [step, Sessions.step, Option.ite_none_right_eq_some, Option.some.injEq] at hstep
      rw [← hstep.2]
  | cleanupSessions =>
      simp only [step, Option.ite_none_right_eq_some, Option.some.injEq] at hstep
      rw [← hstep.2]

/-- The second state is the first with revoked rows taken out. -/
def Cleaned (env : Environment) (s t : Sessions.State) : Prop :=
  ∃ keep, Forgotten env keep s.db t.db

/-- A call that can be made in the one can be made in the other, with the same outcome. -/
theorem Cleaned.next {s s' t : Sessions.State} (h : Cleaned env s t) {call : Sessions.Call}
    (hle : t.clock ≤ now)
    (hstep : step env jwt settings retentionDays s (now, .call call) = some s') :
    ∃ t', step env jwt settings retentionDays t (now, .call call) = some t' ∧
      outcome env jwt settings t (now, .call call) = outcome env jwt settings s (now, .call call) ∧
        Cleaned env s' t' := by
  simp only [step, Sessions.step, Option.ite_none_right_eq_some, Option.some.injEq] at hstep
  obtain ⟨⟨_, hfresh⟩, rfl⟩ := hstep
  obtain ⟨keep, hsettled, hspent, heq⟩ := h
  obtain ⟨hsettled', hspent', heq'⟩ : Forgotten env keep (call.run env jwt settings now s.db)
      (call.run env jwt settings now (forget keep s.db)) := forgotten_call hsettled hspent hfresh
  have hfresh' : call.fresh env t.db = true := by
    rw [heq]
    exact fresh_forget hspent hfresh
  refine ⟨⟨now, call.run env jwt settings now t.db⟩, if_pos ⟨hle, hfresh'⟩, ?_, keep, hsettled',
    hspent', by rw [heq, heq']⟩
  have hprincipal : ∀ request, (principal env jwt settings now t.db request).1 =
      (principal env jwt settings now s.db request).1 := by
    intro request
    rw [heq, principal_forget hsettled hspent]
    rfl
  simp only [outcome, hprincipal]
  rw [heq, heq', unrevoked_forget hspent']

/-- **Deleting the rows of old revoked sessions is seen by nobody.**  Take any run of visits,
logins, password changes, logouts and revocations from where nobody is signed in, and put
cleanups in wherever the clock allows: the run goes on to its end, and every call runs for
whom it runs for in the run without and leaves what it leaves there, but for revoked rows. -/
theorem cleanup_sessions_unseen {s s' : Sessions.State} {es : List (Int × Event)}
    (hsessions : s.db.sessions = ∅) (hrows : s.db.userSessions = ∅)
    (htimes : (s.clock :: es.map Prod.fst).IsChain (· ≤ ·))
    (hrun : exec (step env jwt settings retentionDays) s (es.filter fun e => !e.2.isCleanup) =
      some s') :
    (∃ t', exec (step env jwt settings retentionDays) s es = some t') ∧
      collect (step env jwt settings retentionDays) (outcome env jwt settings) s es =
        collect (step env jwt settings retentionDays) (outcome env jwt settings) s
          (es.filter fun e => !e.2.isCleanup) := by
  have hT : ∀ t t' e es, InOrder t (e :: es) →
      step env jwt settings retentionDays t e = some t' → InOrder t' es := by
    intro t t' e es hes hstep
    unfold InOrder
    rw [clock_of_step hstep]
    exact (List.isChain_cons_cons.mp hes).2
  have hle : ∀ t e es, InOrder t (e :: es) → t.clock ≤ e.1 := by
    intro t e es hes
    exact (List.isChain_cons_cons.mp hes).1
  have hsilent : ∀ s t e es, Cleaned env s t → e.2.isCleanup = true →
      InOrder t (e :: es) → ∃ t', step env jwt settings retentionDays t e = some t' ∧
        outcome env jwt settings t e = none ∧ Cleaned env s t' := by
    rintro s t ⟨now, event⟩ es ⟨keep, h⟩ hcleanup hes
    cases event with
    | call call => cases hcleanup
    | cleanupSessions => exact ⟨_, if_pos (hle _ _ _ hes), rfl, _, h.cleanup retentionDays now⟩
  have hloud : ∀ s t s' e es, Cleaned env s t → e.2.isCleanup = false →
      InOrder t (e :: es) → step env jwt settings retentionDays s e = some s' →
        ∃ t', step env jwt settings retentionDays t e = some t' ∧
          outcome env jwt settings t e = outcome env jwt settings s e ∧ Cleaned env s' t' := by
    rintro s t s' ⟨now, event⟩ es h hcall hes hstep
    cases event with
    | cleanupSessions => cases hcall
    | call call => exact h.next (hle _ _ _ hes) hstep
  exact exec_of_filter hT hsilent hloud ⟨_, forgotten_self (settled_of_empty hsessions hrows)⟩
    htimes hrun

/-- Signs in, is signed out everywhere, and comes back with the old cookie and a new one,
with cleanups a month later and after it. -/
def signedOut : List (Int × Event) :=
  [(0, .call (.login {} (some 1) false "k" "" "i" 0)),
    (seconds 1, .call (.revokeAll 1 none none false)),
    (seconds 2, .call (.visit { sessionCookie := some "k", csrf := true })),
    (seconds 2700000, .cleanupSessions),
    (seconds 2700000, .call (.visit { sessionCookie := some "k", csrf := true })),
    (seconds 2700001, .call (.login {} (some 1) false "l" "" "j" 1)),
    (seconds 2700002, .cleanupSessions),
    (seconds 2700003, .call (.logout { sessionCookie := some "l", csrf := true } none))]

theorem cleanup_sessions_unseen_signedOut :
    (∃ t', exec (step .plain noJwt {} 30) Sessions.oneUser signedOut = some t') ∧
      collect (step .plain noJwt {} 30) (outcome .plain noJwt {}) Sessions.oneUser signedOut =
        collect (step .plain noJwt {} 30) (outcome .plain noJwt {}) Sessions.oneUser
          (signedOut.filter fun e => !e.2.isCleanup) := by
  obtain ⟨s', hs'⟩ : ∃ s', exec (step .plain noJwt {} 30) Sessions.oneUser
      (signedOut.filter fun e => !e.2.isCleanup) = some s' :=
    Option.isSome_iff_exists.mp (by decide +kernel)
  exact cleanup_sessions_unseen rfl rfl (by decide) hs'

end DjangoFoundation.Retention
