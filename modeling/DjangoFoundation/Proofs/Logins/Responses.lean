/-
What the answers to logins tell about accounts.

A refused login is answered from the throttle alone: what it does to the accounts on the
way, locking one or mailing it, no later refusal looks at.  So as long as every password is
wrong, two stores that share the throttle answer alike throughout, whoever is in them.

With the right password it is different.  An account's own lock is looked at once the
password has passed, and turns the login away in other words than a refusal has.
-/
import DjangoFoundation.Proofs.Logins.Attempts

namespace DjangoFoundation

open Run LoginProtectionService AuthenticationService

variable {env : Environment} {twoFactor : TwoFactor} {settings : LoginSettings}

namespace Logins

/-- A login and its answer. -/
def respond (env : Environment) (twoFactor : TwoFactor) (settings : LoginSettings) (s : State)
    (e : Int × LoginRequest) : Except Exception UUID × State :=
  let attempt := attempt env twoFactor settings e.1 s.db s.protection e.2
  (attempt.outcome, { clock := e.1, db := attempt.db, protection := attempt.protection })

/-- The password is not that of the account the identifier names, if it names one. -/
def Wrong (env : Environment) (users : Table User) (request : LoginRequest) : Prop :=
  ∀ user, EmailOrUsernameBackend.find? env { users := users } request.identifier = some user →
    env.keyring.checkPassword request.password user.password = false

/-- Logins at one time, under one identifier and from one address, with a wrong password
each for the users of its store. -/
structure Probes (env : Environment) (users users' : Table User) (e e' : Int × LoginRequest) :
    Prop where
  time : e.1 = e'.1
  identifier : e.2.identifier = e'.2.identifier
  ipAddress : e.2.client.ipAddress = e'.2.client.ipAddress
  wrong : Wrong env users e.2
  wrong' : Wrong env users' e'.2

/-- Two stores with the same throttle, whoever is in them. -/
structure SameThrottle (users users' : Table User) (s s' : State) : Prop where
  users : s.db.users = users
  users' : s'.db.users = users'
  protection : s.protection = s'.protection

end Logins

open Logins

/-! ### Refusals

Looking for the account, checking a password and locking an account all happen on the way to a
refusal.  None of it is in the answer, and the throttle, which is, does not depend on it.
-/

theorem users_lockKnownAccount {now : Int} {db : Database} {identifier : String} {retryAfter : Int}
    {client : Client} :
    (lockKnownAccount env now db identifier retryAfter client).users = db.users := by
  unfold lockKnownAccount
  split
  · rfl
  · dsimp only
    split
    · rfl
    · split <;> rfl

theorem users_refuse {now : Int} {db : Database} {p : Protection} {request : LoginRequest} :
    (refuse env settings now db p request).db.users = db.users := by
  unfold refuse
  dsimp only
  split
  · exact users_lockKnownAccount
  · rfl

theorem authenticate_of_wrong {db : Database} {request : LoginRequest}
    (h : Wrong env db.users request) :
    EmailOrUsernameBackend.authenticate env db request.identifier request.password = none := by
  cases hauth : EmailOrUsernameBackend.authenticate env db request.identifier request.password with
  | none => rfl
  | some user =>
      obtain ⟨heval, _⟩ := EmailOrUsernameBackend.authenticate_eq_some.mp hauth
      obtain ⟨_, _, hfind, hright⟩ := EmailOrUsernameBackend.evaluated_eq_some.mp heval
      rw [h user hfind] at hright
      cases hright

/-- A wrong password is answered from the throttle, and leaves the users as they are. -/
theorem attempt_of_wrong {now : Int} {db : Database} {p : Protection} {request : LoginRequest}
    (h : Wrong env db.users request) :
    let r := attempt env twoFactor settings now db p request
    let lockState := check env settings now p request.identifier request.client.ipAddress
    let failure := registerFailure env settings now p request.identifier request.client.ipAddress
    r.db.users = db.users ∧
      r.outcome = .error (.api (if lockState.locked then tooManyAttempts lockState.retryAfter
        else invalidCredentials failure.1.locked)) ∧
      r.protection = if lockState.locked then p else failure.2 := by
  intro r lockState failure
  cases hlocked : lockState.locked with
  | true =>
      have hr : r = _ := attempt_locked hlocked
      rw [hr]
      exact ⟨rfl, rfl, rfl⟩
  | false =>
      have hr : r = _ := attempt_refused hlocked (authenticate_of_wrong h)
      rw [hr]
      exact ⟨users_refuse, rfl, rfl⟩

theorem respond_of_probes {users users' : Table User} {s s' : State} {e e' : Int × LoginRequest}
    (hs : SameThrottle users users' s s') (he : Probes env users users' e e') :
    (respond env twoFactor settings s e).1 = (respond env twoFactor settings s' e').1 ∧
      SameThrottle users users' (respond env twoFactor settings s e).2
        (respond env twoFactor settings s' e').2 := by
  obtain ⟨now, request⟩ := e
  obtain ⟨now', request'⟩ := e'
  obtain ⟨htime, hidentifier, hip, hwrong, hwrong'⟩ := he
  obtain ⟨rfl, rfl, hprotection⟩ := hs
  simp only at htime hidentifier hip hwrong hwrong'
  subst htime
  obtain ⟨husers, hout, hp⟩ := @attempt_of_wrong env twoFactor settings now s.db s.protection
    request hwrong
  obtain ⟨husers', hout', hp'⟩ := @attempt_of_wrong env twoFactor settings now s'.db s'.protection
    request' hwrong'
  refine ⟨?_, husers, husers', ?_⟩
  · refine hout.trans (Eq.trans ?_ hout'.symm)
    rw [hprotection, hidentifier, hip]
  · refine hp.trans (Eq.trans ?_ hp'.symm)
    rw [hprotection, hidentifier, hip]

/-- **Refusals tell nothing about accounts.**  Two stores with the same throttle, each with
its own users, answer the same to logins under the same identifiers, from the same addresses
and at the same times, as long as every password is wrong in its store; and they end with the
same throttle. -/
theorem refusals_reveal_nothing {s s' : State} (hsame : s.protection = s'.protection)
    {es es' : List (Int × LoginRequest)}
    (hes : List.Forall₂ (Probes env s.db.users s'.db.users) es es') :
    (answers (respond env twoFactor settings) s es).1 =
        (answers (respond env twoFactor settings) s' es').1 ∧
      (answers (respond env twoFactor settings) s es).2.protection =
        (answers (respond env twoFactor settings) s' es').2.protection := by
  have hstart : SameThrottle s.db.users s'.db.users s s' := ⟨rfl, rfl, hsame⟩
  have hstep : ∀ t t' e e', SameThrottle s.db.users s'.db.users t t' →
      Probes env s.db.users s'.db.users e e' →
        (respond env twoFactor settings t e).1 = (respond env twoFactor settings t' e').1 ∧
          SameThrottle s.db.users s'.db.users (respond env twoFactor settings t e).2
            (respond env twoFactor settings t' e').2 :=
    fun _ _ _ _ ht he => respond_of_probes ht he
  obtain ⟨hanswers, hend⟩ := answers_eq_of_rel hstep hstart hes
  exact ⟨hanswers, hend.protection⟩

/-- Three guesses, of which the second locks and the third meets the lock. -/
def threeGuesses : List (Int × LoginRequest) :=
  [(0, { identifier := "ada", password := "guess" }),
    (1, { identifier := "ada", password := "again" }),
    (2, { identifier := "ada", password := "more" })]

theorem refusals_reveal_nothing_guesses :
    let s := State.init 0 { users := {ada} }
    let s' := State.init 0 {}
    (answers (respond .plain .plain { loginMaxAttempts := 2 }) s threeGuesses).1 =
        (answers (respond .plain .plain { loginMaxAttempts := 2 }) s' threeGuesses).1 ∧
      (answers (respond .plain .plain { loginMaxAttempts := 2 }) s threeGuesses).2.protection =
        (answers (respond .plain .plain { loginMaxAttempts := 2 }) s' threeGuesses).2.protection := by
  intro s s'
  have hfind : EmailOrUsernameBackend.find? .plain { users := {ada} } "ada" = some ada := by decide
  have hwrong : ∀ e ∈ threeGuesses, Wrong .plain s.db.users e.2 := by
    intro e he user h
    have hid : ∀ e ∈ threeGuesses, e.2.identifier = "ada" ∧
        Environment.plain.keyring.checkPassword e.2.password ada.password = false := by decide
    rw [(hid e he).1] at h
    have hada : user = ada := Option.some.inj (h.symm.trans hfind)
    rw [hada]
    exact (hid e he).2
  have hwrong' : ∀ e : Int × LoginRequest, Wrong .plain s'.db.users e.2 := by
    intro e user h
    cases h
  have hprobes : List.Forall₂ (Probes .plain s.db.users s'.db.users) threeGuesses threeGuesses :=
    List.forall₂_same.mpr fun e he => ⟨rfl, rfl, rfl, hwrong e he, hwrong' e⟩
  have hthrottle : s.protection = s'.protection := rfl
  exact refusals_reveal_nothing hthrottle hprobes

/-! ### The account's own lock

It is looked at after the password.  So the right password reaches a branch that the wrong one
does not, and the branch has words of its own.
-/

variable {now : Int} {db : Database} {p : Protection} {request : LoginRequest} {user : User}

/-- When the account's own lock ends, if it has one. -/
def lockEnd (db : Database) (user : UUID) : Option Int :=
  (db.securitySettings.get? user).bind fun row => row.lockedUntil

theorem takeOffLock_of_locked {client : Client}
    (h : (db.securitySettings.get? user.pk).any fun row => row.isLocked now) :
    ∃ t, lockEnd db user.pk = some t ∧
      takeOffLock now db user client = .error (tooManyAttempts (max 1 ((t - now) / 1000000))) := by
  cases hrow : db.securitySettings.get? user.pk with
  | none =>
      rw [hrow] at h
      cases h
  | some row =>
      rw [hrow, Option.any_some, UserSecuritySettings.isLocked] at h
      cases hlocked : row.lockedUntil with
      | none =>
          rw [hlocked] at h
          cases h
      | some t =>
          rw [hlocked, Option.any_some, decide_eq_true_eq] at h
          have hget : (db.securitySettings.ensure { user := user.pk }).get? user.pk = some row :=
            Table.get?_ensure_of_some hrow
          refine ⟨t, by rw [lockEnd, hrow, Option.bind_some, hlocked], ?_⟩
          simp only [takeOffLock, hget, Option.bind_some, hlocked, if_pos h]

/-- Past the throttle, the right password of a locked account that is active is turned away in
the words of the throttle. -/
theorem attempt_of_locked_account
    (hfree : (check env settings now p request.identifier request.client.ipAddress).locked = false)
    (hlocked : (db.securitySettings.get? user.pk).any fun row => row.isLocked now)
    (hright : EmailOrUsernameBackend.evaluated env db request.identifier request.password =
      some (user, true)) (hactive : user.isActive = true) :
    ∃ t, lockEnd db user.pk = some t ∧
      (attempt env twoFactor settings now db p request).outcome =
        .error (.api (tooManyAttempts (max 1 ((t - now) / 1000000)))) := by
  have hauth := EmailOrUsernameBackend.authenticate_eq_some.mpr ⟨hright, hactive⟩
  obtain ⟨t, hend, hlock⟩ := @takeOffLock_of_locked now db user request.client hlocked
  refine ⟨t, hend, ?_⟩
  simp only [attempt, hfree, hauth, hlock, Bool.false_eq_true, if_false]

theorem attempt_of_nobody
    (hfree : (check env settings now p request.identifier request.client.ipAddress).locked = false)
    (hnone : EmailOrUsernameBackend.authenticate env db request.identifier request.password =
      none) : (attempt env twoFactor settings now db p request).outcome =
      .error (.api (invalidCredentials (registerFailure env settings now p request.identifier
        request.client.ipAddress).1.locked)) := by
  rw [attempt_refused hfree hnone]
  rfl

/-- **What a locked account gives away.**  Let an account's own lock be in force, and let two
logins to it differ in their password alone, which one of them has right.  They are answered
alike exactly where the throttle has the request locked already or the account is not active:
otherwise the right password is told of the lock and how long it lasts, and the wrong one that
it is wrong. -/
theorem locked_account_answers_alike_iff {password : String}
    (hlocked : (db.securitySettings.get? user.pk).any fun row => row.isLocked now)
    (hright : EmailOrUsernameBackend.evaluated env db request.identifier request.password =
      some (user, true)) (hwrong : env.keyring.checkPassword password user.password = false) :
    ((attempt env twoFactor settings now db p request).outcome =
        (attempt env twoFactor settings now db p { request with password := password }).outcome ↔
      (check env settings now p request.identifier request.client.ipAddress).locked = true ∨
        user.isActive = false) ∧
    ((check env settings now p request.identifier request.client.ipAddress).locked = false →
      user.isActive = true →
      (∃ t, lockEnd db user.pk = some t ∧
        (attempt env twoFactor settings now db p request).outcome =
          .error (.api (tooManyAttempts (max 1 ((t - now) / 1000000))))) ∧
      (attempt env twoFactor settings now db p { request with password := password }).outcome =
        .error (.api (invalidCredentials (registerFailure env settings now p request.identifier
          request.client.ipAddress).1.locked))) := by
  have hnobody : EmailOrUsernameBackend.authenticate env db request.identifier password = none := by
    cases hauth : EmailOrUsernameBackend.authenticate env db request.identifier password with
    | none => rfl
    | some other =>
        obtain ⟨heval, _⟩ := EmailOrUsernameBackend.authenticate_eq_some.mp hauth
        obtain ⟨_, _, hfind, hyes⟩ := EmailOrUsernameBackend.evaluated_eq_some.mp heval
        obtain ⟨_, _, hfind', _⟩ := EmailOrUsernameBackend.evaluated_eq_some.mp hright
        have hsame : user = other := Option.some.inj (hfind'.symm.trans hfind)
        rw [← hsame, hwrong] at hyes
        cases hyes
  refine ⟨?_, fun hfree hactive =>
    ⟨attempt_of_locked_account hfree hlocked hright hactive, @attempt_of_nobody env twoFactor
      settings now db p { request with password := password } hfree hnobody⟩⟩
  cases hfree : (check env settings now p request.identifier request.client.ipAddress).locked with
  | true =>
      have houtcome : ∀ r : LoginRequest, r.identifier = request.identifier →
          r.client = request.client →
            (attempt env twoFactor settings now db p r).outcome = .error (.api (tooManyAttempts
              (check env settings now p request.identifier
                request.client.ipAddress).retryAfter)) := by
        intro r hid hclient
        rw [← hid, ← hclient] at hfree ⊢
        rw [attempt_locked hfree]
      have hother := houtcome { request with password := password } rfl rfl
      exact ⟨fun _ => Or.inl rfl, fun _ => (houtcome request rfl rfl).trans hother.symm⟩
  | false =>
      have hother := @attempt_of_nobody env twoFactor settings now db p
        { request with password := password } hfree hnobody
      rw [hother]
      by_cases hactive : user.isActive = true
      · obtain ⟨t, -, hturned⟩ := @attempt_of_locked_account env twoFactor settings now db p
          request user hfree hlocked hright hactive
        rw [hturned]
        simp [hactive, tooManyAttempts, invalidCredentials]
      · have hnone : EmailOrUsernameBackend.authenticate env db request.identifier
            request.password = none := by
          simp only [EmailOrUsernameBackend.authenticate, hright, if_neg hactive]
        rw [attempt_of_nobody hfree hnone]
        exact ⟨fun _ => Or.inr (by simpa using hactive), fun _ => rfl⟩

/-- Locked under the name, tried under the address. -/
def lockedRequest : LoginRequest where
  identifier := "ada@example.org"
  password := "secret"
  client := { ipAddress := some "10.0.0.2" }

theorem locked_account_answers_alike_iff_guessed :
    (∃ t, lockEnd guessed.db ada.pk = some t ∧
      (attempt .plain .plain { loginMaxAttempts := 1 } 5 guessed.db guessed.protection
        lockedRequest).outcome = .error (.api (tooManyAttempts (max 1 ((t - 5) / 1000000))))) ∧
    (attempt .plain .plain { loginMaxAttempts := 1 } 5 guessed.db guessed.protection
        { lockedRequest with password := "guess" }).outcome =
      .error (.api (invalidCredentials (registerFailure .plain { loginMaxAttempts := 1 } 5
        guessed.protection "ada@example.org" (some "10.0.0.2")).1.locked)) :=
  (locked_account_answers_alike_iff (by decide) (by decide) (by decide)).2 (by decide) (by decide)

/-- In a state a run reaches, the account is locked and its password can be told. -/
theorem locked_account_tells_password :
    Reachable (step .plain .plain { loginMaxAttempts := 1 }) (.init 0 { users := {ada} }) guessed ∧
      ((guessed.db.securitySettings.get? ada.pk).any fun row => row.isLocked 5) ∧
      EmailOrUsernameBackend.evaluated .plain guessed.db lockedRequest.identifier
        lockedRequest.password = some (ada, true) ∧
      EmailOrUsernameBackend.evaluated .plain guessed.db lockedRequest.identifier "guess" =
        some (ada, false) ∧
      (attempt .plain .plain { loginMaxAttempts := 1 } 5 guessed.db guessed.protection
          lockedRequest).outcome ≠
        (attempt .plain .plain { loginMaxAttempts := 1 } 5 guessed.db guessed.protection
          { lockedRequest with password := "guess" }).outcome :=
  ⟨⟨[(0, guess "ada" "10.0.0.1")], rfl⟩, by decide⟩

end DjangoFoundation
