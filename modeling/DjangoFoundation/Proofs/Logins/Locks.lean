/-
A lock on a dimension stands until it is over.

While a dimension is locked, a login that shares it is turned away before anything is
checked or written, and one that does not share it leaves its row alone.  That leaves the
cleanup, which goes by `expires_at`; the invariant is that a row never expires before the
lock it holds is over (`LocksExpire`), the longest lock being no longer than the window a
failure counts for.
-/
import DjangoFoundation.Lib.Run
import DjangoFoundation.Proofs.Logins.Attempts

namespace DjangoFoundation

open Run LoginProtectionService AuthenticationService

variable {env : Environment} {twoFactor : TwoFactor} {settings : LoginSettings}

/-- No row expires before its lock is over. -/
def LocksExpire (env : Environment) (rows : Table LoginThrottleState) : Prop :=
  ∀ d row t, stored env rows d = some row → row.lockedUntil = some t → t ≤ row.expiresAt

theorem saved_lock_le {now : Int} {d : String} {row : Option LoginThrottleState} {t : Int}
    (h : (saved env settings now d row).lockedUntil = some t) :
    t ≤ (saved env settings now d row).expiresAt := by
  rw [saved_lockedUntil] at h
  rw [saved_expiresAt]
  by_cases hne : lockSeconds settings (counted now row + 1) ≠ 0
  · rw [if_pos hne, Option.some.injEq] at h
    have hle := lockSeconds_le _ hne
    simp only [window, seconds] at h ⊢
    omega
  · rw [if_neg hne] at h
    cases h

theorem LocksExpire.empty : LocksExpire env ∅ := by
  intro d row t hrow
  cases hrow

theorem LocksExpire.login (hdb : settings.redisEnabled = false) {now : Int} {db : Database}
    {p : Protection} {request : LoginRequest} (h : LocksExpire env p.rows) :
    LocksExpire env (attempt env twoFactor settings now db p request).protection.rows := by
  intro d row t hrow ht
  have hcases := @stored_attempt env twoFactor settings now db p request hdb d
  rcases hcases with hsame | ⟨_, _, hsaved | ⟨hnone, _⟩⟩
  · rw [hsame] at hrow
    exact h d row t hrow ht
  · rw [hsaved, Option.some.injEq] at hrow
    subst hrow
    exact saved_lock_le ht
  · rw [hnone] at hrow
    cases hrow

theorem LocksExpire.cleanup {now : Int} {p : Protection} (h : LocksExpire env p.rows) :
    LocksExpire env (cleanupLoginAttempts now p).rows := by
  intro d row t hrow ht
  rw [stored_cleanup, Option.filter_eq_some_iff] at hrow
  exact h d row t hrow.1 ht

theorem LocksExpire.next (hdb : settings.redisEnabled = false) {s s' : Logins.State}
    {e : Int × Logins.Call} (h : LocksExpire env s.protection.rows)
    (hstep : Logins.step env twoFactor settings s e = some s') :
    LocksExpire env s'.protection.rows := by
  obtain ⟨_, rfl⟩ := Logins.step_eq_some.mp hstep
  obtain ⟨now, call⟩ := e
  cases call with
  | login request => exact h.login hdb
  | cleanupLoginAttempts => exact h.cleanup

/-! ### One step under a lock

There are three ways a step could end a lock: writing the row, clearing it, or deleting it as
expired.  The first two are a login's, which is turned away; the third has to wait for
`expires_at`.
-/

/-- A login turned away: no password is checked, nothing is written. -/
def TurnedAway (env : Environment) (twoFactor : TwoFactor) (settings : LoginSettings)
    (s : Logins.State) (now : Int) (request : LoginRequest) : Prop :=
  evaluated env settings now s.db s.protection request = none ∧
    ∃ retryAfter, attempt env twoFactor settings now s.db s.protection request =
      { outcome := .error (.api (tooManyAttempts retryAfter))
        db := s.db
        protection := s.protection }

theorem turnedAway_of_locked {s : Logins.State} {now : Int} {request : LoginRequest}
    (h : (check env settings now s.protection request.identifier
      request.client.ipAddress).locked = true) :
    TurnedAway env twoFactor settings s now request := by
  refine ⟨?_, _, attempt_locked h⟩
  simp only [evaluated, h, if_true]

/-- Before `t` a lock until `t` stands, and a login that shares it is turned away. -/
def Stands (env : Environment) (twoFactor : TwoFactor) (settings : LoginSettings) (d : String)
    (t : Int) (s : Logins.State) (e : Int × Logins.Call) (s' : Logins.State) : Prop :=
  e.1 < t → lockedUntil env s'.protection.rows d = some t ∧
    ∀ request, e.2 = .login request →
      d ∈ dimensions env request.identifier request.client.ipAddress →
        TurnedAway env twoFactor settings s e.1 request

theorem lockedUntil_attempt (hdb : settings.redisEnabled = false) {s : Logins.State} {now t : Int}
    {request : LoginRequest} {d : String} (hd : lockedUntil env s.protection.rows d = some t)
    (hlt : now < t) :
    lockedUntil env (attempt env twoFactor settings now s.db s.protection request).protection.rows d
      = some t := by
  have hcases := @stored_attempt env twoFactor settings now s.db s.protection request hdb d
  rcases hcases with hsame | ⟨hmem, hfree, _⟩
  · rw [lockedUntil, hsame]
    exact hd
  · have hlocked := (check_locked hdb).mpr ⟨d, hmem, t, hd, hlt⟩
    rw [hfree] at hlocked
    cases hlocked

theorem lockedUntil_cleanup {p : Protection} {now t : Int} {d : String}
    (hexpire : LocksExpire env p.rows) (hd : lockedUntil env p.rows d = some t) (hlt : now < t) :
    lockedUntil env (cleanupLoginAttempts now p).rows d = some t := by
  obtain ⟨row, hrow, hlock⟩ := Option.bind_eq_some_iff.mp hd
  have hle := hexpire d row t hrow hlock
  have hunexpired : now ≤ row.expiresAt := by omega
  rw [lockedUntil, stored_cleanup, hrow, Option.filter_some_pos (by simpa using hunexpired)]
  exact hlock

theorem stands_step (hdb : settings.redisEnabled = false) {d : String} {t : Int}
    {s s' : Logins.State} {e : Int × Logins.Call} (hexpire : LocksExpire env s.protection.rows)
    (hd : s.clock < t → lockedUntil env s.protection.rows d = some t)
    (hstep : Logins.step env twoFactor settings s e = some s') :
    (s'.clock < t → lockedUntil env s'.protection.rows d = some t) ∧
      Stands env twoFactor settings d t s e s' := by
  obtain ⟨hle, rfl⟩ := Logins.step_eq_some.mp hstep
  obtain ⟨now, call⟩ := e
  have hclock : (call.run env twoFactor settings now s).clock = now := by
    cases call <;> rfl
  have hkept : now < t →
      lockedUntil env (call.run env twoFactor settings now s).protection.rows d = some t := by
    intro hlt
    have hlocked := hd (by omega : s.clock < t)
    cases call with
    | login request => exact lockedUntil_attempt hdb hlocked hlt
    | cleanupLoginAttempts => exact lockedUntil_cleanup hexpire hlocked hlt
  refine ⟨fun hlt => hkept (hclock ▸ hlt), fun hlt => ⟨hkept hlt, ?_⟩⟩
  intro request hlogin hmem
  have hlocked := hd (by omega : s.clock < t)
  exact turnedAway_of_locked ((check_locked hdb).mpr ⟨d, hmem, t, hlocked, hlt⟩)

/-- What every state of a run under a lock has. -/
structure UnderLock (env : Environment) (d : String) (t : Int) (s : Logins.State) : Prop where
  expire : LocksExpire env s.protection.rows
  locked : s.clock < t → lockedUntil env s.protection.rows d = some t

/-! ### Runs -/

/-- The latest `locked_until` among the dimensions of a request. -/
def latestLock (env : Environment) (p : Protection) (identifier : String) (ip : Option String) :
    Option Int :=
  ((dimensions env identifier ip).filterMap (lockedUntil env p.rows)).max?

theorem latestLock_of_locked (hdb : settings.redisEnabled = false) {p : Protection} {now : Int}
    {identifier : String} {ip : Option String}
    (h : (check env settings now p identifier ip).locked = true) :
    ∃ t, latestLock env p identifier ip = some t ∧ now < t := by
  obtain ⟨d, hmem, t, ht, hlt⟩ := (check_locked hdb).mp h
  have hin : t ∈ (dimensions env identifier ip).filterMap (lockedUntil env p.rows) :=
    List.mem_filterMap.mpr ⟨d, hmem, ht⟩
  cases hmax : latestLock env p identifier ip with
  | none =>
      rw [latestLock, List.max?_eq_none_iff] at hmax
      rw [hmax] at hin
      cases hin
  | some latest =>
      have hge := (List.max?_eq_some_iff.mp hmax).2 t hin
      exact ⟨latest, rfl, by omega⟩

/-- **A lock stands until it is over.**  In any state a run of logins and cleanups reaches,
if the check at some time finds a lock, and `t` is the latest end among its three
dimensions, then whatever logins and cleanups follow: before `t` the row of a dimension
locked until `t` stays so, and every login that shares the dimension is turned away. -/
theorem lock_stands (hdb : settings.redisEnabled = false) {clock now : Int} {db : Database}
    {s : Logins.State} {identifier : String} {ip : Option String}
    (hreach : Reachable (Logins.step env twoFactor settings) (.init clock db) s)
    (hlocked : (check env settings now s.protection identifier ip).locked) :
    ∃ t, latestLock env s.protection identifier ip = some t ∧ now < t ∧
      ∀ d ∈ dimensions env identifier ip, lockedUntil env s.protection.rows d = some t →
        ∀ es, Steps (Logins.step env twoFactor settings) (Stands env twoFactor settings d t)
          { s with clock := now } es := by
  have hexpire : LocksExpire env s.protection.rows := by
    have hnext : ∀ s e s', LocksExpire env s.protection.rows →
        Logins.step env twoFactor settings s e = some s' → LocksExpire env s'.protection.rows :=
      fun _ _ _ h hstep => h.next hdb hstep
    exact hreach.inv LocksExpire.empty hnext
  obtain ⟨t, hlatest, hlt⟩ := latestLock_of_locked hdb hlocked
  refine ⟨t, hlatest, hlt, ?_⟩
  intro d _ hd es
  have hfree : Steps (Logins.step env twoFactor settings) (fun _ _ _ => True)
      { s with clock := now } es := .of_forall (fun _ _ _ _ => trivial) _ es
  have hnext : ∀ s e s', UnderLock env d t s →
      Logins.step env twoFactor settings s e = some s' → True →
        UnderLock env d t s' ∧ Stands env twoFactor settings d t s e s' := by
    intro s e s' ⟨hexpire, hd⟩ hstep _
    obtain ⟨hkept, hstands⟩ := stands_step hdb hexpire hd hstep
    exact ⟨⟨hexpire.next hdb hstep, hkept⟩, hstands⟩
  exact Steps.of_inv hnext ⟨hexpire, fun _ => hd⟩ hfree

theorem lock_stands_guessed :
    ∃ t, latestLock .plain Logins.guessed.protection "ada" (some "10.0.0.2") = some t ∧ 5 < t ∧
      ∀ d ∈ dimensions .plain "ada" (some "10.0.0.2"),
        lockedUntil .plain Logins.guessed.protection.rows d = some t →
          ∀ es, Steps (Logins.step .plain .plain { loginMaxAttempts := 1 })
            (Stands .plain .plain { loginMaxAttempts := 1 } d t) { Logins.guessed with clock := 5 }
            es := by
  have hreach : Reachable (Logins.step .plain .plain { loginMaxAttempts := 1 })
      (.init 0 { users := {ada} }) Logins.guessed := ⟨[(0, Logins.guess "ada" "10.0.0.1")], rfl⟩
  exact lock_stands rfl hreach (by decide)

end DjangoFoundation
