/-
A login, and a password change, with nobody beside them.

Their steps, taken one after the other at one time, come to the calls of the services.
-/
import DjangoFoundation.Proofs.Passwords.Writes

namespace DjangoFoundation

namespace Passwords

open AccountService SessionService TokenService AuthenticationService

variable {env : Environment} {twoFactor : TwoFactor} {settings : LoginSettings}
  {refreshLifetime t : Int} {s : State} {id : Nat}

/-- A state with one login in progress, at a time. -/
def State.onlyLogin (s : State) (t : Int) (login : Login) : State :=
  { s with clock := t, logins := {login} }

theorem login?_onlyLogin {login : Login} :
    (s.onlyLogin t login).login? login.id login.phase = some login := by
  have hget : (s.onlyLogin t login).logins.get? login.id = some login :=
    Table.get?_singleton login
  rw [State.login?, hget, Option.filter_some_pos (by simp)]

theorem goOn_onlyLogin {login : Login} {phase : Phase} :
    (s.onlyLogin t login).goOn login.id phase =
      s.onlyLogin t { login with phase := phase } := by
  have hlogins : (s.onlyLogin t login).logins.modify login.id
      (fun login => { login with phase := phase }) (fun _ => rfl) =
        {{ login with phase := phase }} :=
    Table.modify_singleton login (fun login => { login with phase := phase }) fun _ => rfl
  rw [State.goOn, hlogins]
  rfl

theorem step_onlyLogin {login : Login} {e : Event} :
    step env twoFactor settings refreshLifetime (s.onlyLogin t login) (t, e) =
      (s.onlyLogin t login).move env twoFactor settings refreshLifetime t e :=
  if_pos (Int.le_refl t)

theorem pass_alone {login : Login} {db₁ db₂ : Database} {p : Protection}
    (hphase : login.phase = .checked)
    (hlock : takeOffLock t s.db login.user login.request.client = .ok db₁)
    (havailable : unavailable? t db₁ login.user = none)
    (hcode : checkCode env twoFactor settings t db₁ s.protection login.user login.request
      = (none, db₂, p)) :
    step env twoFactor settings refreshLifetime (s.onlyLogin t login) (t, .pass login.id) =
      some (({ s with db := db₂, protection := p } : State).onlyLogin t
        { login with phase := .passed }) := by
  have hlogin := @login?_onlyLogin t s login
  rw [hphase] at hlogin
  have hlock' : takeOffLock t (s.onlyLogin t login).db login.user login.request.client
      = .ok db₁ := hlock
  have hcode' : checkCode env twoFactor settings t db₁ (s.onlyLogin t login).protection login.user
      login.request = (none, db₂, p) := hcode
  rw [step_onlyLogin]
  simp only [State.move, hlogin, Option.map_some, State.pass, hlock', havailable, hcode',
    goOn_onlyLogin]
  rfl

theorem enter_alone {login : Login} (hphase : login.phase = .passed) (hfree : s.changes = ∅) :
    step env twoFactor settings refreshLifetime (s.onlyLogin t login) (t, .enter login.id) =
      some (({ s with
        db := succeed env t s.db login.user login.request
        protection := LoginProtectionService.reset env settings s.protection
          login.request.identifier login.request.client.ipAddress } : State).onlyLogin t
        { login with phase := .entered }) := by
  have hlogin := @login?_onlyLogin t s login
  rw [hphase] at hlogin
  have hunlocked : (s.onlyLogin t login).locked login.user.pk = false := by
    show s.changes.rows.any _ = false
    rw [hfree]
    rfl
  rw [step_onlyLogin]
  simp only [State.move, hlogin, Option.bind_eq_bind, Option.bind_some, hunlocked,
    Bool.false_eq_true, if_false, State.enter, goOn_onlyLogin]
  rfl

/-- A login that is let in has gone through its steps, and waits for its refresh token. -/
theorem login_alone {request : LoginRequest} {user : UUID} (hidle : s.logins = ∅)
    (hfree : s.changes = ∅) (hclock : s.clock ≤ t)
    (h : (attempt env twoFactor settings t s.db s.protection request).outcome = .ok user)
    (id : Nat) :
    ∃ s' login, Run.exec (step env twoFactor settings refreshLifetime) s
        [(t, .login id request), (t, .pass id), (t, .enter id)] = some s' ∧
      s'.db = (attempt env twoFactor settings t s.db s.protection request).db ∧
      s'.protection = (attempt env twoFactor settings t s.db s.protection request).protection ∧
      s'.logins = {login} ∧ login.user.pk = user ∧ login.phase = .entered := by
  unfold attempt at h ⊢
  dsimp only at h ⊢
  split at h
  · cases h
  · rename_i hunlocked
    split at h
    · cases h
    · rename_i found hfound
      split at h
      · cases h
      · rename_i db₁ hlock
        split at h
        · cases h
        · rename_i havailable
          split at h
          · cases h
          · rename_i db₂ p hcode
            cases h
            let login : Login := ⟨id, request, found, s.version found.pk, .checked, none⟩
            have hbegin : step env twoFactor settings refreshLifetime s (t, .login id request) =
                some (s.onlyLogin t login) := by
              rw [step, if_pos hclock]
              simp only [State.move, State.begin, hunlocked, hfound, hidle, Table.insert?_empty]
              rfl
            have hpass := @pass_alone env twoFactor settings refreshLifetime t s login db₁ db₂ p
              rfl hlock havailable hcode
            have henter := @enter_alone env twoFactor settings refreshLifetime t
              { s with db := db₂, protection := p } { login with phase := .passed } rfl hfree
            let entered : State := { s with
              db := succeed env t db₂ found request
              protection := LoginProtectionService.reset env settings p request.identifier
                request.client.ipAddress }
            refine ⟨entered.onlyLogin t { login with phase := .entered },
              { login with phase := .entered }, ?_, ?_, ?_, rfl, rfl, rfl⟩
            · rw [Run.exec_cons, hbegin, Option.bind_some, Run.exec_cons, hpass, Option.bind_some,
                Run.exec_cons, henter]
              rfl
            · rw [if_neg hunlocked]
              rfl
            · rw [if_neg hunlocked]
              rfl

/-! ### A password change

It is taken apart at the query of `revoke_all_jwt`.  With nobody beside it no token is handed
out between the query and the writes, so the steps together are the service call.
-/

/-- A state with one password change in progress, at a time. -/
def State.onlyChange (s : State) (t : Int) (change : Change) : State :=
  { s with clock := t, changes := {change} }

theorem step_onlyChange {change : Change} {e : Event} :
    step env twoFactor settings refreshLifetime (s.onlyChange t change) (t, e) =
      (s.onlyChange t change).move env twoFactor settings refreshLifetime t e :=
  if_pos (Int.le_refl t)

theorem change?_onlyChange {change : Change} :
    (s.onlyChange t change).changes.get? change.id = some change :=
  Table.get?_singleton change

theorem find_alone {change : Change} (hfound : change.found = none) :
    step env twoFactor settings refreshLifetime (s.onlyChange t change) (t, .find change.id) =
      some (s.onlyChange t { change with
        found := some (Call.outstanding s.db change.user.pk) }) := by
  have hchanges : (s.onlyChange t change).changes.modify change.id
      (fun c => { c with found := some (Call.outstanding s.db change.user.pk) }) (fun _ => rfl) =
        {{ change with found := some (Call.outstanding s.db change.user.pk) }} :=
    Table.modify_singleton change
      (fun c => { c with found := some (Call.outstanding s.db change.user.pk) }) fun _ => rfl
  rw [step_onlyChange]
  simp only [State.move, change?_onlyChange, Option.filter_some, hfound, Option.isNone_none,
    if_true, Option.map_some, State.find]
  rw [show (s.onlyChange t change).db = s.db from rfl, hchanges]
  rfl

/-- The checks of a password change write nothing but the use of its token. -/
theorem checks_db {call : Call} {db db₁ : Database} {user : User}
    (h : call.checks env t db = .ok (user, db₁)) :
    db₁ = { db with oneTimeTokens := call.consumed env t db.oneTimeTokens } := by
  cases call with
  | resetPassword rawToken newPassword salt sessionKey =>
      obtain ⟨⟨token, db₂⟩, hconsume, h⟩ := bind_eq_ok.mp h
      obtain ⟨user', _, h⟩ := bind_eq_ok.mp h
      split at h
      · cases h
      · cases h
        unfold TokenService.consume at hconsume
        split at hconsume
        · cases hconsume
        · rename_i husable
          cases hconsume
          have hpk : token.tokenHash = tokenHash env rawToken .passwordReset :=
            Table.pk_of_get? (Option.filter_eq_some_iff.mp husable).1
          rw [Call.consumed, hpk]
  | changePassword pk oldPassword newPassword salt sessionKey =>
      obtain ⟨locked, _, h⟩ := bind_eq_ok.mp h
      by_cases hright : env.keyring.checkPassword oldPassword locked.password = true
      · by_cases haccept : env.acceptsPassword newPassword locked = true
        · simp only [hright, haccept, Bool.not_true, Bool.false_eq_true, if_false] at h
          cases h
          rfl
        · simp only [hright, haccept] at h
          cases h
      · simp only [hright] at h
        cases h

theorem commit_alone {change : Change} {found : List OutstandingToken} {db : Database}
    (hfound : change.found = some found)
    (hwrite : change.call.write env t { s.db with
      oneTimeTokens := change.call.consumed env change.began s.db.oneTimeTokens }
        change.user found = .ok db) :
    step env twoFactor settings refreshLifetime (s.onlyChange t change) (t, .commit change.id) =
      some { s with
        clock := t, changes := ∅, db := db, changed := s.changed ++ [change.user.pk] } := by
  have hchanges : (s.onlyChange t change).changes.erase change.id = ∅ :=
    Table.erase_singleton change
  have hwrite' : change.call.write env t { (s.onlyChange t change).db with
      oneTimeTokens := change.call.consumed env change.began
        (s.onlyChange t change).db.oneTimeTokens } change.user found = .ok db := hwrite
  have hcommit : (s.onlyChange t change).commit env t change found = { s with
      clock := t, changes := ∅, db := db, changed := s.changed ++ [change.user.pk] } := by
    simp only [State.commit, hwrite', State.close, hchanges]
    rfl
  rw [step_onlyChange]
  simp only [State.move, change?_onlyChange, bind, Option.bind_some, hfound, hcommit]

/-- A password change with nobody beside it is the service call. -/
theorem change_alone {call : Call} {db : Database} (hidle : s.changes = ∅) (hclock : s.clock ≤ t)
    (h : call.run env t s.db = .ok db) (id : Nat) :
    ∃ s', Run.exec (step env twoFactor settings refreshLifetime) s
        [(t, .change id call), (t, .find id), (t, .commit id)] = some s' ∧
      s'.db = db ∧ s'.changes = ∅ := by
  rw [run_eq] at h
  obtain ⟨⟨user, db₁⟩, hchecks, hwrite⟩ := bind_eq_ok.mp h
  have hdb := checks_db hchecks
  subst hdb
  let change : Change := ⟨id, call, t, user, none⟩
  have hstart : step env twoFactor settings refreshLifetime s (t, .change id call) =
      some (s.onlyChange t change) := by
    rw [step, if_pos hclock]
    simp only [State.move, State.change, hchecks, hidle, Locks.free_empty, Table.insert?_empty]
    rfl
  have hfind := @find_alone env twoFactor settings refreshLifetime t s change rfl
  have hcommit := @commit_alone env twoFactor settings refreshLifetime t s
    { change with found := some (Call.outstanding s.db user.pk) } _ db rfl hwrite
  refine ⟨{ s with clock := t, changes := ∅, db := db, changed := s.changed ++ [user.pk] }, ?_,
    rfl, rfl⟩
  rw [Run.exec_cons, hstart, Option.bind_some, Run.exec_cons, hfind, Option.bind_some,
    Run.exec_cons, hcommit]
  rfl

end Passwords

end DjangoFoundation
