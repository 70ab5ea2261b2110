/-
What revoking sessions does to the tables.

`revoke_all` goes through inventory rows one at a time, each in its own update of two
tables.  Their sum is simple: the rows selected are revoked, and the sessions they name
are gone.  `Revoked` says so for any list of rows, and `revokeAll_revoked` that the
operation always comes to that; it never raises, because revoking keeps every row.
-/
import DjangoFoundation.Authentication.Services

namespace DjangoFoundation

variable {env : Environment} {now : Int} {db db' : Database}

namespace SessionService

/-- The session an inventory row leads to: the key its reference decrypts to. -/
def reference (env : Environment) (row : UserSession) : Option String :=
  env.keyring.decryptValue "django-session" row.encryptedSessionKey

/-- The inventory rows of `rows` are revoked, their sessions gone, and all else is there. -/
structure Revoked (env : Environment) (now : Int) (rows : List UserSession)
    (db db' : Database) : Prop where
  accounts : db.SameAccounts db'
  inventory : ∀ hash, db'.userSessions.get? hash = (db.userSessions.get? hash).map fun row =>
    if row ∈ rows then { row with revokedAt := some now } else row
  sessions : ∀ session, session ∈ db'.sessions ↔
    session ∈ db.sessions ∧ ∀ row ∈ rows, reference env row ≠ some session.sessionKey

theorem revoked_nil (db : Database) : Revoked env now [] db db where
  accounts := .refl db
  inventory hash := by simp
  sessions session := by simp

/-- Revoking one more row of other hash. -/
theorem Revoked.cons {row : UserSession} {rows : List UserSession} {db₁ : Database}
    (h : Revoked env now [row] db db₁) (h' : Revoked env now rows db₁ db')
    (hother : ∀ r ∈ rows, r.sessionKeyHash ≠ row.sessionKeyHash) :
    Revoked env now (row :: rows) db db' where
  accounts := h.accounts.trans h'.accounts
  inventory hash := by
    rw [h'.inventory, h.inventory, Option.map_map]
    congr 1
    funext r
    by_cases hr : r = row
    · have hnot : { r with revokedAt := some now } ∉ rows := fun hmem =>
        hother _ hmem (by rw [hr])
      subst hr
      simp [hnot]
    · simp [hr]
  sessions session := by
    rw [h'.sessions, h.sessions]
    simp only [List.mem_cons, List.not_mem_nil, or_false, forall_eq_or_imp, and_assoc, forall_eq]

/-! ### One row

A row of the selection is read again under a lock before it is revoked.  As its hash is in the
table and it is not revoked by then, neither early return is taken, and the update of the two
tables is the one of `Revoked` for a single row.
-/

theorem revoked_revokeLocked (env : Environment) (now : Int) {row : UserSession}
    (actor : Option UUID) (hmem : row ∈ db.userSessions) :
    Revoked env now [row] db (revokeLocked env now db row actor) := by
  have haccounts : db.SameAccounts (revokeLocked env now db row actor) ∧
      (revokeLocked env now db row actor).userSessions =
        db.userSessions.modify row.sessionKeyHash fun session =>
          { session with revokedAt := some now } := by
    simp only [revokeLocked]
    cases env.keyring.decryptValue "django-session" row.encryptedSessionKey with
    | none => exact ⟨⟨rfl, rfl, rfl⟩, rfl⟩
    | some key => exact ⟨⟨rfl, rfl, rfl⟩, rfl⟩
  refine ⟨haccounts.1, fun hash => ?_, fun session => ?_⟩
  · rw [haccounts.2, Table.get?_modify]
    cases hget : db.userSessions.get? hash with
    | none => simp
    | some r =>
        have hpk : r.sessionKeyHash = hash := Table.pk_of_get? hget
        by_cases hhash : hash = row.sessionKeyHash
        · have hr : r = row := Table.eq_of_pk_eq (Table.mem_of_get? hget) hmem (hpk.trans hhash)
          simp [hhash, hr]
        · have hr : r ≠ row := by
            rintro rfl
            exact hhash hpk.symm
          simp [hhash, hr]
  · simp only [List.mem_singleton, forall_eq, revokeLocked, reference]
    cases env.keyring.decryptValue "django-session" row.encryptedSessionKey with
    | none => simp [Database.audit, Database.securityEvent]
    | some key =>
        show session ∈ db.sessions.erase key ↔ _
        rw [Table.mem_erase, ne_eq, ne_eq, Option.some.injEq, eq_comm (a := key)]
        exact Iff.rfl

/-- A row that is in the inventory and not revoked is revoked by `revoke`. -/
theorem revoke_eq {row : UserSession} (actor : Option UUID) (hmem : row ∈ db.userSessions)
    (hlive : row.revokedAt = none) :
    revoke env now db row actor = .ok (revokeLocked env now db row actor) := by
  have hget : db.userSessions.get? row.sessionKeyHash = some row := Table.get?_of_mem hmem
  unfold revoke
  rw [hget]
  simp only [hlive]
  rfl

/-! ### `revoke_all`

The rows selected have different hashes, so each is still as it was selected when its turn
comes.  That is what lets the induction over the list go through: revoking one row leaves the
others as the selection found them.
-/

private theorem foldlM_revoke (actor : Option UUID) {rows : List UserSession}
    (hnodup : (rows.map UserSession.sessionKeyHash).Nodup)
    (hrows : ∀ row ∈ rows, row ∈ db.userSessions ∧ row.revokedAt = none) :
    ∃ db', rows.foldlM (fun db session => revoke env now db session actor) db = .ok db' ∧
      Revoked env now rows db db' := by
  induction rows generalizing db with
  | nil => exact ⟨db, rfl, revoked_nil db⟩
  | cons row rows ih =>
      obtain ⟨hmem, hlive⟩ := hrows row List.mem_cons_self
      rw [List.map_cons, List.nodup_cons] at hnodup
      have hone := revoked_revokeLocked env now actor hmem
      have hother : ∀ r ∈ rows, r.sessionKeyHash ≠ row.sessionKeyHash := by
        intro r hr heq
        exact hnodup.1 (heq ▸ List.mem_map_of_mem hr)
      -- the rows still to come are as they were
      have hrest : ∀ r ∈ rows,
          r ∈ (revokeLocked env now db row actor).userSessions ∧ r.revokedAt = none := by
        intro r hr
        obtain ⟨hrmem, hrlive⟩ := hrows r (List.mem_cons_of_mem _ hr)
        have hne : r ∉ [row] := fun h => hother r hr (by rw [List.mem_singleton.mp h])
        have hget := hone.inventory r.sessionKeyHash
        rw [show db.userSessions.get? r.sessionKeyHash = some r from Table.get?_of_mem hrmem,
          Option.map_some, if_neg hne] at hget
        exact ⟨Table.mem_of_get? hget, hrlive⟩
      obtain ⟨db', hfold, hrev⟩ := ih hnodup.2 hrest
      refine ⟨db', ?_, hone.cons hrev hother⟩
      rw [List.foldlM_cons, revoke_eq actor hmem hlive]
      exact hfold

theorem mem_selected {user : UUID} {sessionKey : Option String} {excludeCurrent : Bool}
    {row : UserSession} :
    row ∈ selected env db user sessionKey excludeCurrent ↔
      (row ∈ db.userSessions ∧ row.user = user ∧ row.revokedAt = none) ∧
        (excludeCurrent = true → ∀ session, current env db sessionKey = some session →
          row.sessionKeyHash ≠ session.sessionKeyHash) := by
  unfold selected
  cases hcur : current env db sessionKey with
  | none => simp
  | some session =>
      cases excludeCurrent with
      | false => simp
      | true =>
          simp
          tauto

private theorem nodup_selected {user : UUID} {sessionKey : Option String} {excludeCurrent : Bool} :
    ((selected env db user sessionKey excludeCurrent).map UserSession.sessionKeyHash).Nodup := by
  have hsub : (selected env db user sessionKey excludeCurrent).Sublist db.userSessions.rows := by
    unfold selected
    split
    · split
      · exact List.filter_sublist.trans List.filter_sublist
      · exact List.filter_sublist
    · exact List.filter_sublist
  exact db.userSessions.nodup.sublist (hsub.map _)

/-- **`revoke_all` returns**, with the selected rows revoked and their sessions gone. -/
theorem revokeAll_revoked (env : Environment) (now : Int) (db : Database) (user : UUID)
    (actor : Option UUID) (sessionKey : Option String) (excludeCurrent : Bool) :
    ∃ db', revokeAll env now db user actor sessionKey excludeCurrent = .ok db' ∧
      Revoked env now (selected env db user sessionKey excludeCurrent) db db' :=
  foldlM_revoke actor nodup_selected fun _ hrow =>
    have h := (mem_selected.mp hrow).1
    ⟨h.1, h.2.2⟩

theorem sameAccounts_revokeAll {user : UUID} {actor : Option UUID} {sessionKey : Option String}
    {excludeCurrent : Bool}
    (h : revokeAll env now db user actor sessionKey excludeCurrent = .ok db') :
    db.SameAccounts db' := by
  obtain ⟨db₁, hok, hrev⟩ := revokeAll_revoked env now db user actor sessionKey excludeCurrent
  rw [hok] at h
  cases h
  exact hrev.accounts

end SessionService

end DjangoFoundation
