/-
How a login attempt can go, and what it does to the throttle rows.

An attempt that finds a lock does nothing.  Any other either refuses the credentials,
which counts as a failure, or has authenticated somebody; it then ends in a success, which
resets the counters, or in an exception, after a failure has been counted or not.  On the
rows this comes to one statement about each dimension, `stored_attempt`, from which the
results about locks and about attempts are derived.
-/
import DjangoFoundation.Proofs.Logins.Throttle

namespace DjangoFoundation

open LoginProtectionService AuthenticationService

variable {env : Environment} {twoFactor : TwoFactor} {settings : LoginSettings} {now : Int}

namespace AuthenticationService

variable {db : Database} {p : Protection} {request : LoginRequest}

theorem attempt_locked
    (h : (check env settings now p request.identifier request.client.ipAddress).locked = true) :
    attempt env twoFactor settings now db p request =
      { outcome := .error (.api (tooManyAttempts
          (check env settings now p request.identifier request.client.ipAddress).retryAfter))
        db := db
        protection := p } := by
  simp only [attempt, h, if_true]

theorem attempt_refused
    (h : (check env settings now p request.identifier request.client.ipAddress).locked = false)
    (hnone : EmailOrUsernameBackend.authenticate env db request.identifier request.password =
      none) :
    attempt env twoFactor settings now db p request = refuse env settings now db p request := by
  simp only [attempt, h, hnone, Bool.false_eq_true, if_false]

theorem checkCode_protection (user : User) :
    (checkCode env twoFactor settings now db p user request).2.2 = p ∨
      (∃ exception, (checkCode env twoFactor settings now db p user request).1 = some exception) ∧
        (checkCode env twoFactor settings now db p user request).2.2 =
          (registerFailure env settings now p request.identifier request.client.ipAddress).2 := by
  unfold checkCode
  split
  · split
    · exact Or.inl rfl
    · split
      · exact Or.inl rfl
      · exact Or.inl rfl
      · exact Or.inr ⟨⟨_, rfl⟩, rfl⟩
  · exact Or.inl rfl

/-- Somebody authenticated: a success with its reset, or an exception. -/
theorem attempt_authenticated {user : User}
    (h : (check env settings now p request.identifier request.client.ipAddress).locked = false)
    (hsome : EmailOrUsernameBackend.authenticate env db request.identifier request.password =
      some user) :
    let r := attempt env twoFactor settings now db p request
    (r.outcome = .ok user.pk ∧
      r.protection = reset env settings p request.identifier request.client.ipAddress) ∨
    ((∃ exception, r.outcome = .error exception) ∧
      (r.protection = p ∨
        r.protection =
          (registerFailure env settings now p request.identifier request.client.ipAddress).2)) := by
  simp only [attempt, h, hsome, Bool.false_eq_true, if_false]
  split
  · exact Or.inr ⟨⟨_, rfl⟩, Or.inl rfl⟩
  · rename_i db' _
    split
    · exact Or.inr ⟨⟨_, rfl⟩, Or.inl rfl⟩
    · have hcode := @checkCode_protection env twoFactor settings now db' p request user
      split
      · rename_i e db'' p' heq
        rw [heq] at hcode
        refine Or.inr ⟨⟨e, rfl⟩, ?_⟩
        rcases hcode with hsame | ⟨_, hfailed⟩
        · exact Or.inl hsame
        · exact Or.inr hfailed
      · rename_i db'' p' heq
        rw [heq] at hcode
        rcases hcode with hsame | ⟨⟨e, hno⟩, _⟩
        · have hp : p' = p := hsame
          subst hp
          exact Or.inl ⟨rfl, rfl⟩
        · cases hno

theorem refuse_protection : (refuse env settings now db p request).protection =
    (registerFailure env settings now p request.identifier request.client.ipAddress).2 := rfl

/-- A wrong password is refused. -/
theorem attempt_wrong {user : User}
    (h : evaluated env settings now db p request = some (user, false)) :
    (check env settings now p request.identifier request.client.ipAddress).locked = false ∧
      attempt env twoFactor settings now db p request = refuse env settings now db p request := by
  cases hlocked :
      (check env settings now p request.identifier request.client.ipAddress).locked with
  | true =>
      simp only [evaluated, hlocked, if_true] at h
      cases h
  | false =>
      simp only [evaluated, hlocked, Bool.false_eq_true, if_false] at h
      have hnone : EmailOrUsernameBackend.authenticate env db request.identifier
          request.password = none := by
        simp only [EmailOrUsernameBackend.authenticate, h]
      exact ⟨rfl, attempt_refused hlocked hnone⟩

/-- What an attempt does to the row of a dimension: nothing, or, where the dimension is one
of its own and none of these is locked, one more failure or a removal. -/
theorem stored_attempt (hdb : settings.redisEnabled = false) (d : String) :
    let r := attempt env twoFactor settings now db p request
    stored env r.protection.rows d = stored env p.rows d ∨
    (d ∈ dimensions env request.identifier request.client.ipAddress ∧
      (check env settings now p request.identifier request.client.ipAddress).locked = false ∧
      (stored env r.protection.rows d =
          some (saved env settings now d (stored env p.rows d)) ∨
        (stored env r.protection.rows d = none ∧ ∃ user, r.outcome = .ok user))) := by
  intro r
  cases hlocked :
      (check env settings now p request.identifier request.client.ipAddress).locked with
  | true =>
      left
      show stored env (attempt env twoFactor settings now db p request).protection.rows d = _
      rw [attempt_locked hlocked]
  | false =>
      have hfailure : r.protection =
            (registerFailure env settings now p request.identifier request.client.ipAddress).2 →
          stored env r.protection.rows d = stored env p.rows d ∨
          (d ∈ dimensions env request.identifier request.client.ipAddress ∧
            stored env r.protection.rows d =
              some (saved env settings now d (stored env p.rows d))) := by
        intro hp
        rw [hp, stored_registerFailure hdb]
        by_cases hd : d ∈ dimensions env request.identifier request.client.ipAddress
        · exact Or.inr ⟨hd, if_pos hd⟩
        · exact Or.inl (if_neg hd)
      cases hauth : EmailOrUsernameBackend.authenticate env db request.identifier
          request.password with
      | none =>
          have hr : r.protection = _ := congrArg Attempt.protection (attempt_refused hlocked hauth)
          rcases hfailure (hr.trans refuse_protection) with hsame | ⟨hd, hsaved⟩
          · exact Or.inl hsame
          · exact Or.inr ⟨hd, rfl, Or.inl hsaved⟩
      | some user =>
          have hcases := @attempt_authenticated env twoFactor settings now db p request user
            hlocked hauth
          rcases hcases with ⟨hok, hreset⟩ | ⟨_, hp | hp⟩
          · show stored env
              (attempt env twoFactor settings now db p request).protection.rows d = _ ∨ _
            rw [hreset, stored_reset hdb]
            by_cases hd : d ∈ dimensions env request.identifier request.client.ipAddress
            · exact Or.inr ⟨hd, rfl, Or.inr ⟨if_pos hd, user.pk, hok⟩⟩
            · exact Or.inl (if_neg hd)
          · exact Or.inl (congrArg (fun p => stored env p.rows d) hp)
          · rcases hfailure hp with hsame | ⟨hd, hsaved⟩
            · exact Or.inl hsame
            · exact Or.inr ⟨hd, rfl, Or.inl hsaved⟩

end AuthenticationService

theorem Logins.step_eq_some {s s' : Logins.State} {e : Int × Logins.Call} :
    Logins.step env twoFactor settings s e = some s' ↔
      s.clock ≤ e.1 ∧ s' = e.2.run env twoFactor settings e.1 s := by
  unfold Logins.step
  rw [Option.ite_none_right_eq_some, Option.some.injEq, eq_comm]

/-- One guess at an account allowed, and made. -/
def Logins.guessed : Logins.State :=
  (Logins.guess "ada" "10.0.0.1").run .plain .plain { loginMaxAttempts := 1 } 0
    (.init 0 { users := {ada} })

end DjangoFoundation
