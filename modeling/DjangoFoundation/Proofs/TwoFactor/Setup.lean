/-
Two-factor authentication set up again, after it was taken down.

`disable` leaves the credential, confirmed and disabled.  `begin_setup` deletes one that is not
confirmed and refuses one that is enabled; the one that is neither stands in the way of the row
it creates.

The refusal is an exception of the database.  `begin_setup` has no handler for it, and its
check looks for an enabled credential only, so a user who has disabled the second factor is in
for it at every later try, as `not_enableable_once_disabled` shows.
-/
import DjangoFoundation.Proofs.TwoFactor.Codes
import DjangoFoundation.Proofs.Lifecycle

namespace DjangoFoundation

namespace TwoFactorSetup

open TwoFactorService

variable {env : Environment} {twoFactor : TwoFactor} {now : Int} {db db' : Database}
  {provisioningUri : (secret name : String) → String} {u : UUID}

/-! ### Services

What each service of `TwoFactorService` comes to where its checks pass.  The row that
`begin_setup` creates is refused by the one-to-one constraint as long as another is there.
-/

theorem credential?_eq_some {p : TwoFactorCredential → Bool} {credential : TwoFactorCredential} :
    credential? db u p = some credential ↔
      db.twoFactorCredentials.get? u = some credential ∧ p credential = true := by
  rw [credential?, Option.filter_eq_some_iff]

/-- Whatever was pending is gone, and nothing else. -/
theorem get?_deletePending (db : Database) (user k : UUID) :
    (deletePending db user).twoFactorCredentials.get? k =
      if k = user then credential? db user fun credential => credential.confirmedAt.isSome
      else db.twoFactorCredentials.get? k := by
  unfold deletePending credential?
  by_cases hk : k = user
  · subst hk
    rw [if_pos rfl]
    cases hget : db.twoFactorCredentials.get? k with
    | none => rw [Option.filter_none, Option.filter_none, hget]
    | some credential =>
        cases hconfirmed : credential.confirmedAt with
        | none => simp [Option.filter_some, hconfirmed, Table.get?_erase]
        | some t => simp [Option.filter_some, hconfirmed, hget]
  · rw [if_neg hk]
    split
    · rfl
    · rw [Table.get?_erase, if_neg hk]

theorem users_deletePending (db : Database) (user : UUID) :
    (deletePending db user).users = db.users := by
  unfold deletePending
  split <;> rfl

/-- `verify` says yes to an enabled credential alone, and touches none. -/
theorem verify_ok {valid : Bool} {code : String}
    (h : TwoFactorService.verify env twoFactor now db u code = .ok (valid, db')) :
    db'.twoFactorCredentials = db.twoFactorCredentials ∧ db'.users = db.users ∧
      (valid = true → ∃ credential, db.twoFactorCredentials.get? u = some credential ∧
        credential.isEnabled = true) := by
  unfold TwoFactorService.verify at h
  split at h
  · cases h
    exact ⟨rfl, rfl, fun hvalid => by cases hvalid⟩
  · rename_i credential hget
    split at h
    · cases h
      exact ⟨rfl, rfl, fun hvalid => by cases hvalid⟩
    · rename_i henabled
      have hfound : ∃ credential, db.twoFactorCredentials.get? u = some credential ∧
          credential.isEnabled = true := ⟨credential, hget, by simpa using henabled⟩
      dsimp only at h
      split at h
      · cases h
      · split at h
        · cases h
          exact ⟨rfl, rfl, fun _ => hfound⟩
        · rw [Except.ok.injEq] at h
          unfold consumeRecoveryCode at h
          dsimp only at h
          split at h
          · cases h
            exact ⟨rfl, rfl, fun _ => hfound⟩
          · cases h
            exact ⟨rfl, rfl, fun _ => hfound⟩

/-- What `begin_setup` comes to with the right password. -/
theorem beginSetup_eq {row : User} {password : String} (secret : String) (nonce : Nat)
    (hrow : db.users.get? u = some row) (hpassword : checkPassword env row password = true) :
    beginSetup env provisioningUri db u password secret nonce =
      if (credential? (deletePending db u) u TwoFactorCredential.isEnabled).isSome then
        .error alreadyEnabled
      else match (deletePending db u).twoFactorCredentials.insert? {
          user := u, encryptedSecret := env.keyring.encryptValue "totp-secret" nonce secret } with
        | none => .error .integrity
        | some credentials => .ok (secret, provisioningUri secret row.email,
            { deletePending db u with twoFactorCredentials := credentials }) := by
  have hpk : row.pk = u := Table.pk_of_get? hrow
  unfold beginSetup
  simp only [getUser_of_some hrow, hpassword, hpk, bind, Except.bind]
  rfl

/-- It goes through where no confirmed credential is in its way.. -/
theorem beginSetup_ok {row : User} {password : String} (secret : String) (nonce : Nat)
    (hrow : db.users.get? u = some row) (hpassword : checkPassword env row password = true)
    (hfree : ∀ credential, db.twoFactorCredentials.get? u = some credential →
      credential.confirmedAt = none) :
    ∃ credentials, (deletePending db u).twoFactorCredentials.insert? {
        user := u, encryptedSecret := env.keyring.encryptValue "totp-secret" nonce secret } =
          some credentials ∧
      beginSetup env provisioningUri db u password secret nonce =
        .ok (secret, provisioningUri secret row.email,
          { deletePending db u with twoFactorCredentials := credentials }) := by
  have hgone : (deletePending db u).twoFactorCredentials.get? u = none := by
    rw [get?_deletePending, if_pos rfl, credential?, Option.filter_eq_none_iff]
    intro credential hget
    simp [hfree credential hget]
  obtain ⟨credentials, hinsert⟩ := Table.exists_insert?
    (a := ({ user := u, encryptedSecret := env.keyring.encryptValue "totp-secret" nonce secret } :
      TwoFactorCredential)) (Table.get?_eq_none.mp hgone)
  refine ⟨credentials, hinsert, ?_⟩
  rw [beginSetup_eq secret nonce hrow hpassword, hinsert, credential?, hgone]
  rfl

/-- ..and raises where one is. -/
theorem beginSetup_raises {row : User} {password : String} (secret : String) (nonce : Nat)
    (hrow : db.users.get? u = some row) (hpassword : checkPassword env row password = true)
    {credential : TwoFactorCredential} (hget : db.twoFactorCredentials.get? u = some credential)
    (hconfirmed : credential.confirmedAt.isSome = true) :
    ∃ e, beginSetup env provisioningUri db u password secret nonce = .error e := by
  have hleft : (deletePending db u).twoFactorCredentials.get? u = some credential := by
    rw [get?_deletePending, if_pos rfl, credential?_eq_some]
    exact ⟨hget, hconfirmed⟩
  rw [beginSetup_eq secret nonce hrow hpassword]
  split
  · exact ⟨_, rfl⟩
  · rw [Table.insert?_of_get? hleft]
    exact ⟨_, rfl⟩

/-- Distinct codes go in beside those of other credentials. -/
theorem replaceRecoveryCodes_ok (env : Environment) (twoFactor : TwoFactor) (db : Database)
    (credential : UUID) (codes : RecoveryCodes) :
    ∃ rows : Table RecoveryCode, replaceRecoveryCodes env twoFactor db credential codes =
        .ok { db with recoveryCodes := rows } ∧
      rows.rows = (db.recoveryCodes.delete fun code => code.credential = credential).rows ++
        codes.values.map (newCode env twoFactor credential) := by
  obtain ⟨rows, hrows, heq⟩ := exists_insertCodes env twoFactor codes fun row hrow =>
    of_decide_eq_false (Table.mem_delete.mp hrow).2
  refine ⟨rows, ?_, heq⟩
  rw [replaceRecoveryCodes, hrows]

/-- `confirm_setup` enables a pending credential, with new codes. -/
theorem confirmSetup_ok {row : User} {code secret : String} {credential : TwoFactorCredential}
    (codes : RecoveryCodes) (hrow : db.users.get? u = some row)
    (hget : db.twoFactorCredentials.get? u = some credential)
    (hpending : credential.confirmedAt = none)
    (hsecret : env.keyring.decryptValue "totp-secret" credential.encryptedSecret = some secret)
    (hcode : twoFactor.verify secret code now = true) :
    ∃ db', confirmSetup env twoFactor now db u code codes = .ok (codes.values, db') ∧
      db'.twoFactorCredentials = db.twoFactorCredentials.modify u (fun credential =>
        { credential with confirmedAt := some now, disabledAt := none }) (fun _ => rfl) ∧
      db'.recoveryCodes.rows = (db.recoveryCodes.delete fun code => code.credential = u).rows ++
        codes.values.map (newCode env twoFactor u) := by
  have hpk : row.pk = u := Table.pk_of_get? hrow
  have hfound : credential? db u (fun credential => credential.confirmedAt.isNone) =
      some credential := credential?_eq_some.mpr ⟨hget, by rw [hpending]; rfl⟩
  obtain ⟨rows, hreplace, heq⟩ := replaceRecoveryCodes_ok env twoFactor
    { db with twoFactorCredentials := db.twoFactorCredentials.modify u (fun credential =>
      { credential with confirmedAt := some now, disabledAt := none }) (fun _ => rfl) } u codes
  unfold confirmSetup
  simp only [getUser_of_some hrow, hpk, hfound, hsecret, hcode, hreplace, bind, Except.bind]
  exact ⟨_, rfl, rfl, heq⟩

/-! ### What a call leaves

Only `disable` writes `disabled_at`, and only of the credential it finds enabled.
-/

/-- The credential of the user, if there is one, was not disabled. -/
def NotDisabled (u : UUID) (db : Database) : Prop :=
  ∀ credential, db.twoFactorCredentials.get? u = some credential → credential.disabledAt = none

private theorem notDisabled_of_eq (h : db'.twoFactorCredentials = db.twoFactorCredentials)
    (hdb : NotDisabled u db) : NotDisabled u db' := by
  unfold NotDisabled
  rw [h]
  exact hdb

private theorem notDisabled_beginSetup {user : UUID} {password secret : String} {nonce : Nat}
    {result : String × String × Database} (hdb : NotDisabled u db)
    (h : beginSetup env provisioningUri db user password secret nonce = .ok result) :
    NotDisabled u result.2.2 := by
  obtain ⟨row, _, h⟩ := bind_eq_ok.mp h
  dsimp only at h
  split at h
  · cases h
  · split at h
    · cases h
    · split at h
      · cases h
      · rename_i credentials hinsert
        cases h
        intro credential hget
        rw [Table.get?_insert? hinsert, get?_deletePending] at hget
        split at hget
        · cases hget
          rfl
        · split at hget
          · rename_i hu
            exact hdb credential (hu ▸ (credential?_eq_some.mp hget).1)
          · exact hdb credential hget

private theorem replaceRecoveryCodes_eq_ok {credential : UUID} {codes : RecoveryCodes}
    (h : replaceRecoveryCodes env twoFactor db credential codes = .ok db') :
    db'.twoFactorCredentials = db.twoFactorCredentials := by
  obtain ⟨rows, hok, _⟩ := replaceRecoveryCodes_ok env twoFactor db credential codes
  rw [hok] at h
  cases h
  rfl

private theorem notDisabled_confirmSetup {user : UUID} {code : String} {codes : RecoveryCodes}
    {result : List String × Database} (hdb : NotDisabled u db)
    (h : confirmSetup env twoFactor now db user code codes = .ok result) :
    NotDisabled u result.2 := by
  obtain ⟨row, _, h⟩ := bind_eq_ok.mp h
  split at h
  · cases h
  · split at h
    · cases h
    · dsimp only at h
      split at h
      · cases h
      · obtain ⟨db₁, hreplace, h⟩ := bind_eq_ok.mp h
        cases h
        intro credential hget
        have hsame := replaceRecoveryCodes_eq_ok hreplace
        have hget' : db₁.twoFactorCredentials.get? u = some credential := hget
        rw [hsame, Table.get?_modify] at hget'
        split at hget'
        · obtain ⟨_, _, rfl⟩ := Option.map_eq_some_iff.mp hget'
          rfl
        · exact hdb credential hget'

private theorem notDisabled_regenerateCodes {user : UUID} {code : String} {codes : RecoveryCodes}
    {result : List String × Database} (hdb : NotDisabled u db)
    (h : regenerateCodes env twoFactor now db user code codes = .ok result) :
    NotDisabled u result.2 := by
  obtain ⟨row, _, h⟩ := bind_eq_ok.mp h
  obtain ⟨⟨valid, db₁⟩, hverify, h⟩ := bind_eq_ok.mp h
  dsimp only at h
  split at h
  · cases h
  · split at h
    · cases h
    · obtain ⟨db₂, hreplace, h⟩ := bind_eq_ok.mp h
      cases h
      have hsame := (replaceRecoveryCodes_eq_ok hreplace).trans (verify_ok hverify).1
      exact notDisabled_of_eq hsame hdb

/-- A `disable` that goes through leaves the credential it found enabled. -/
theorem disable_ok {user : UUID} {password code : String}
    (h : disable env twoFactor now db user password code = .ok db') :
    db'.users = db.users ∧ (∃ row, db.users.get? user = some row ∧
        checkPassword env row password = true) ∧
      (∃ credential, db.twoFactorCredentials.get? user = some credential ∧
        credential.isEnabled = true) ∧
      db'.twoFactorCredentials = db.twoFactorCredentials.modify user (fun credential =>
        { credential with disabledAt := some now }) (fun _ => rfl) := by
  obtain ⟨row, hrow, h⟩ := bind_eq_ok.mp h
  have hget : db.users.get? user = some row := getUser_eq_ok hrow
  have hpk : row.pk = user := Table.pk_of_get? hget
  dsimp only at h
  split at h
  · cases h
  · rename_i hpassword
    obtain ⟨⟨valid, db₁⟩, hverify, h⟩ := bind_eq_ok.mp h
    obtain ⟨hsame, husers, henabled⟩ := verify_ok hverify
    dsimp only at h
    split at h
    · cases h
    · rename_i hvalid
      split at h
      · cases h
      · rename_i credential hfound
        have hcredential : credential.user = row.pk :=
          Table.pk_of_get? (credential?_eq_some.mp hfound).1
        cases h
        refine ⟨husers, ⟨row, hget, by simpa using hpassword⟩, ?_, ?_⟩
        · exact hpk ▸ henabled (by simpa using hvalid)
        · simp only [Database.email, Database.audit, Database.record, hsame, hcredential, hpk]

/-! ### Runs

Where the user's credential has not been disabled it can be set up, and a call that disables it
is the end of that.
-/

/-- Two-factor authentication can be set up by the user: `begin_setup` with the right password
goes through, and a `confirm_setup` with a valid code after it leaves one credential, enabled,
with ten unused codes. -/
def CanSetUp (env : Environment) (twoFactor : TwoFactor)
    (provisioningUri : (secret name : String) → String) (u : UUID) (db : Database) : Prop :=
  ∀ row password secret nonce, db.users.get? u = some row →
    checkPassword env row password = true →
    ∃ db', beginSetup env provisioningUri db u password secret nonce =
        .ok (secret, provisioningUri secret row.email, db') ∧
      ∀ now code codes, twoFactor.verify secret code now = true →
        ∃ db'', confirmSetup env twoFactor now db' u code codes = .ok (codes.values, db'') ∧
          (∃ credential, (db''.twoFactorCredentials.rows.filter fun c => c.user = u) =
            [credential] ∧ credential.isEnabled = true) ∧
          (db''.recoveryCodes.rows.filter fun code =>
            code.credential = u ∧ code.usedAt = none).length = 10

/-- Where no credential of the user is enabled, one can be set up. -/
def Enableable (env : Environment) (twoFactor : TwoFactor)
    (provisioningUri : (secret name : String) → String) (u : UUID) (db : Database) : Prop :=
  (∀ credential, db.twoFactorCredentials.get? u = some credential →
    credential.isEnabled = false) → CanSetUp env twoFactor provisioningUri u db

/-- This call disables the credential of the user. -/
def disables (env : Environment) (twoFactor : TwoFactor) (u : UUID) (s : State)
    (e : Int × Call) : Bool :=
  match e.2 with
  | .disable user password code =>
      user = u && (disable env twoFactor e.1 s.db user password code).isOk
  | _ => false

theorem canSetUp_of_notConfirmed (hdb : ∀ credential,
    db.twoFactorCredentials.get? u = some credential → credential.confirmedAt = none) :
    CanSetUp env twoFactor provisioningUri u db := by
  intro row password secret nonce hrow hpassword
  obtain ⟨credentials, hinsert, hbegin⟩ := beginSetup_ok secret nonce hrow hpassword hdb
  refine ⟨_, hbegin, fun now code codes hcode => ?_⟩
  have hrow' : (deletePending db u).users.get? u = some row := by
    rw [users_deletePending]
    exact hrow
  obtain ⟨db'', hconfirm, hcredentials, hcodes⟩ := @confirmSetup_ok env twoFactor now
    { deletePending db u with twoFactorCredentials := credentials } u row code secret _ codes hrow'
    (Table.get?_insert?_self hinsert) rfl (env.keyring.decrypt_encrypt _ _ _) hcode
  refine ⟨db'', hconfirm, ?_, ?_⟩
  · have hget : db''.twoFactorCredentials.get? u = some {
        user := u
        encryptedSecret := env.keyring.encryptValue "totp-secret" nonce secret
        confirmedAt := some now } := by
      rw [hcredentials, Table.get?_modify, if_pos rfl]
      exact congrArg (Option.map _) (Table.get?_insert?_self hinsert)
    exact ⟨_, Table.filter_pk_of_get? hget, rfl⟩
  · rw [hcodes, List.filter_append, List.length_append, List.filter_eq_nil_iff.mpr,
      List.filter_eq_self.mpr, List.length_map, codes.length_eq]
    · rfl
    · intro row hrow
      obtain ⟨code, _, rfl⟩ := List.mem_map.mp hrow
      exact decide_eq_true ⟨rfl, rfl⟩
    · intro row hrow
      have hother := of_decide_eq_false (Table.mem_delete.mp hrow).2
      simp [hother]

theorem enableable_of_notDisabled (hdb : NotDisabled u db) :
    Enableable env twoFactor provisioningUri u db := by
  intro henabled
  refine canSetUp_of_notConfirmed fun credential hget => ?_
  have hnot := henabled credential hget
  simpa [TwoFactorCredential.isEnabled, hdb credential hget] using hnot

private theorem map_eq_ok {ε α β : Type} {x : Except ε α} {f : α → β} {b : β}
    (h : x.map f = .ok b) : ∃ a, x = .ok a ∧ f a = b := by
  cases x with
  | error e => cases h
  | ok a =>
      cases h
      exact ⟨a, rfl, rfl⟩

private theorem isOk_eq_true {ε α : Type} {x : Except ε α} (h : x.isOk = true) :
    ∃ a, x = .ok a := by
  cases x with
  | error e => cases h
  | ok a => exact ⟨a, rfl⟩

theorem step_eq_some {s s' : State} {e : Int × Call}
    (h : step env twoFactor provisioningUri s e = some s') :
    s'.db = s.db.committed (e.2.run env twoFactor e.1 provisioningUri s.db) := by
  unfold step at h
  split at h
  · cases h
    rfl
  · cases h

/-- No other call disables the credential of the user.. -/
theorem notDisabled_step {s s' : State} {e : Int × Call} (hdb : NotDisabled u s.db)
    (hs : step env twoFactor provisioningUri s e = some s')
    (hkeeps : disables env twoFactor u s e = false) : NotDisabled u s'.db := by
  rw [step_eq_some hs]
  obtain ⟨now, call⟩ := e
  cases hrun : call.run env twoFactor now provisioningUri s.db with
  | error _ => exact hdb
  | ok db' =>
      cases call with
      | beginSetup user password secret nonce =>
          obtain ⟨result, hresult, rfl⟩ := map_eq_ok hrun
          exact notDisabled_beginSetup hdb hresult
      | confirmSetup user code codes =>
          obtain ⟨result, hresult, rfl⟩ := map_eq_ok hrun
          exact notDisabled_confirmSetup hdb hresult
      | regenerateCodes user code codes =>
          obtain ⟨result, hresult, rfl⟩ := map_eq_ok hrun
          exact notDisabled_regenerateCodes hdb hresult
      | disable user password code =>
          have hrun' : disable env twoFactor now s.db user password code = .ok db' := hrun
          have hother : user ≠ u := by
            rintro rfl
            simp only [disables, hrun', decide_true, Bool.true_and] at hkeeps
            cases hkeeps
          obtain ⟨_, _, _, hcredentials⟩ := disable_ok hrun'
          intro credential hget
          have hget' : db'.twoFactorCredentials.get? u = some credential := hget
          rw [hcredentials, Table.get?_modify, if_neg hother.symm] at hget'
          exact hdb credential hget'

/-- ..and after one that does it cannot be set up any more. -/
theorem keeps_of_enableable {s s' : State} {e : Int × Call}
    (hs : step env twoFactor provisioningUri s e = some s')
    (hable : Enableable env twoFactor provisioningUri u s'.db) :
    disables env twoFactor u s e = false := by
  rw [step_eq_some hs] at hable
  rw [← Bool.not_eq_true]
  intro hdisables
  obtain ⟨now, call⟩ := e
  cases call with
  | disable user password code =>
      obtain ⟨huser, hok⟩ := Bool.and_eq_true_iff.mp hdisables
      obtain rfl := of_decide_eq_true huser
      obtain ⟨db', hrun⟩ := isOk_eq_true hok
      obtain ⟨husers, ⟨row, hrow, hpassword⟩, ⟨credential, hget, henabled⟩, hcredentials⟩ :=
        disable_ok hrun
      have hdb : s.db.committed ((Call.disable user password code).run env twoFactor now
          provisioningUri s.db) = db' := by
        rw [Call.run, hrun]
        rfl
      have hget' : db'.twoFactorCredentials.get? user =
          some { credential with disabledAt := some now } := by
        rw [hcredentials, Table.get?_modify, if_pos rfl, hget]
        rfl
      have hconfirmed : credential.confirmedAt.isSome = true :=
        (Bool.and_eq_true_iff.mp henabled).1
      rw [hdb] at hable
      obtain ⟨_, hbegin, _⟩ := hable (fun other hother => by
        rw [hget', Option.some.injEq] at hother
        rw [← hother]
        exact Bool.and_false _) row password "" 0 (husers ▸ hrow) hpassword
      obtain ⟨_, hraises⟩ := @beginSetup_raises env db' provisioningUri user row password "" 0
        (husers ▸ hrow) hpassword _ hget' hconfirmed
      rw [hraises] at hbegin
      cases hbegin
  | beginSetup | confirmSetup | regenerateCodes => cases hdisables

/-- **Two-factor authentication can be set up again** until the user disables it, and not
after that. -/
theorem enableable_until_disabled (env : Environment) (twoFactor : TwoFactor)
    (provisioningUri : (secret name : String) → String) (u : UUID) (clock : Int) {db : Database}
    (h : NotDisabled u db) (es : List (Int × Call)) :
    Run.Steps (step env twoFactor provisioningUri)
        (fun _ _ s' => Enableable env twoFactor provisioningUri u s'.db) ⟨clock, db⟩ es ↔
      Run.Steps (step env twoFactor provisioningUri)
        (fun s e _ => disables env twoFactor u s e = false) ⟨clock, db⟩ es := by
  have hiff : ∀ s e s', NotDisabled u s.db → step env twoFactor provisioningUri s e = some s' →
      (Enableable env twoFactor provisioningUri u s'.db ↔ disables env twoFactor u s e = false) := by
    intro s e s' hdb hs
    constructor
    · exact keeps_of_enableable hs
    · intro hkeeps
      exact enableable_of_notDisabled (notDisabled_step hdb hs hkeeps)
  have hkeep : ∀ s e s', NotDisabled u s.db → step env twoFactor provisioningUri s e = some s' →
      Enableable env twoFactor provisioningUri u s'.db → NotDisabled u s'.db := by
    intro s e s' hdb hs hable
    exact notDisabled_step hdb hs (keeps_of_enableable hs hable)
  exact Run.steps_iff_of_inv hiff hkeep h es

/-- Begun twice, and confirmed. -/
def setUpOnce : List (Int × Call) :=
  [(0, .beginSetup 1 "secret" "JBSW" 0), (1, .beginSetup 1 "secret" "Y3DP" 1),
    (2, .confirmSetup 1 "123456" .plain)]

theorem enableable_until_disabled_once :
    Run.Steps (step .plain .oneCode fun secret _ => secret)
      (fun _ _ s' => Enableable .plain .oneCode (fun secret _ => secret) 1 s'.db)
      ⟨0, { users := {ada} }⟩ setUpOnce :=
  (enableable_until_disabled .plain .oneCode (fun secret _ => secret) 1 0
    (by intro credential hget; cases hget) setUpOnce).mpr (by decide)

/-- Set up and disabled, it cannot be set up again. -/
theorem not_enableable_once_disabled :
    ¬Run.Steps (step .plain .oneCode fun secret _ => secret)
      (fun _ _ s' => Enableable .plain .oneCode (fun secret _ => secret) 1 s'.db)
      ⟨0, { users := {ada} }⟩ (setUpOnce ++ [(3, .disable 1 "secret" "123456")]) := by
  intro h
  have hkeeps : Run.Steps (step .plain .oneCode fun secret _ => secret)
      (fun s e _ => disables .plain .oneCode 1 s e = false) ⟨0, { users := {ada} }⟩
      (setUpOnce ++ [(3, .disable 1 "secret" "123456")]) := by
    refine h.imp ?_
    intro s e s' hs hable
    exact keeps_of_enableable hs hable
  revert hkeeps
  decide

end TwoFactorSetup

end DjangoFoundation
