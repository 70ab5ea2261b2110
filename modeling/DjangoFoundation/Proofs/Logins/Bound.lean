/-
How many wrong passwords can be tried in one lockout.

The counter of an identifier is kept under the digest of the text submitted.  In a window
shorter than the lockout, as long as no success resets it, the counter is at least as large
as the tries under the digest were many, it does not expire, and at the limit it locks the
digest for the rest of the window.  So the limit is one for each digest; an account, which
is found by its address and by its name, can be tried that often under either.
-/
import DjangoFoundation.Proofs.Logins.Attempts

namespace DjangoFoundation

open Run LoginProtectionService AuthenticationService

variable {env : Environment} {twoFactor : TwoFactor} {settings : LoginSettings}

namespace Logins

/-- The account a call checks a wrong password against. -/
def wrongFor (env : Environment) (settings : LoginSettings) (s : State) (e : Int × Call) :
    Option UUID :=
  match e.2 with
  | .cleanupLoginAttempts => none
  | .login request =>
      match evaluated env settings e.1 s.db s.protection request with
      | some (user, false) => some user.pk
      | _ => none

/-- The account a call logs in to. -/
def loggedIn (env : Environment) (twoFactor : TwoFactor) (settings : LoginSettings) (s : State)
    (e : Int × Call) : Option UUID :=
  match e.2 with
  | .cleanupLoginAttempts => none
  | .login request =>
      (attempt env twoFactor settings e.1 s.db s.protection request).outcome.toOption

/-- The digest of the identifier a call comes under. -/
def Call.digest? (env : Environment) : Call → Option String
  | .cleanupLoginAttempts => none
  | .login request => some (digest env request.identifier)

/-- How often a run checks a wrong password against an account. -/
def wrongCount (env : Environment) (twoFactor : TwoFactor) (settings : LoginSettings) (user : UUID)
    (s : State) (es : List (Int × Call)) : Nat :=
  (collect (step env twoFactor settings) (wrongFor env settings) s es).count user

/-- The account a call checks a wrong password against under the digest `d`. -/
def wrongUnder (env : Environment) (settings : LoginSettings) (d : String) (s : State)
    (e : Int × Call) : Option UUID :=
  if e.2.digest? env = some d then wrongFor env settings s e else none

/-- How often a run does so under the digest `d`. -/
def wrongCountUnder (env : Environment) (twoFactor : TwoFactor) (settings : LoginSettings)
    (user : UUID) (d : String) (s : State) (es : List (Int × Call)) : Nat :=
  (collect (step env twoFactor settings) (wrongUnder env settings d) s es).count user

/-- The call is no successful login of the account. -/
def NotIn (env : Environment) (twoFactor : TwoFactor) (settings : LoginSettings) (user : UUID)
    (s : State) (e : Int × Call) (_ : State) : Prop :=
  loggedIn env twoFactor settings s e ≠ some user

/-- The call is no successful login under the digest `d`. -/
def NoneUnder (env : Environment) (twoFactor : TwoFactor) (settings : LoginSettings) (d : String)
    (s : State) (e : Int × Call) (_ : State) : Prop :=
  e.2.digest? env = some d → loggedIn env twoFactor settings s e = none

instance (twoFactor : TwoFactor) (user : UUID) (s : State) (e : Int × Call) (s' : State) :
    Decidable (NotIn env twoFactor settings user s e s') :=
  inferInstanceAs (Decidable (_ ≠ _))

instance (twoFactor : TwoFactor) (d : String) (s : State) (e : Int × Call) (s' : State) :
    Decidable (NoneUnder env twoFactor settings d s e s') :=
  inferInstanceAs (Decidable (_ → _))

end Logins

open Logins

/-- At the limit the lock is as long as the setting says, but for the longest backoff. -/
theorem le_lockSeconds {n : Nat} (hmax : settings.loginMaxAttempts ≤ n)
    (hpos : 0 < settings.loginLockoutSeconds) :
    min settings.loginLockoutSeconds settings.loginMaxBackoffSeconds ≤ lockSeconds settings n := by
  have hpow : (1 : Int) ≤ 2 ^ (min ((n : Int) - settings.loginMaxAttempts) 6).toNat :=
    Int.pow_pos (by omega)
  have hmul := Int.mul_le_mul_of_nonneg_left hpow (by omega : 0 ≤ settings.loginLockoutSeconds)
  rw [Int.mul_one] at hmul
  unfold lockSeconds
  rw [if_neg (by omega)]
  exact Int.le_min.mpr ⟨Int.le_trans (Int.min_le_left _ _) hmul, Int.min_le_right _ _⟩

/-- The row of the digest has counted `k` failures, counts them until after `b`, and at the
limit is locked until after `b`. -/
structure Tallied (settings : LoginSettings) (b : Int) (k : Nat) (row : LoginThrottleState) :
    Prop where
  counts : k ≤ row.attemptCount
  kept : b < row.expiresAt
  locks : settings.loginMaxAttempts ≤ row.attemptCount →
    ∃ t, row.lockedUntil = some t ∧ b < t

/-- `k` wrong passwords were checked, within the limit, and the digest's row has them. -/
structure Tally (env : Environment) (settings : LoginSettings) (b : Int) (d : String) (k : Nat)
    (rows : Table LoginThrottleState) : Prop where
  bounded : (k : Int) ≤ settings.loginMaxAttempts
  row : k = 0 ∨ ∃ r, stored env rows ("id:" ++ d) = some r ∧ Tallied settings b k r

/-- A window from `a` to `b`, shorter than a lockout and than the longest backoff. -/
structure Window (settings : LoginSettings) (a b : Int) : Prop where
  lockout : b - a < seconds settings.loginLockoutSeconds
  backoff : b - a < seconds settings.loginMaxBackoffSeconds

section Steps

variable {a b : Int}

/-- One more failure in the window is one more in the tally. -/
theorem Tallied.saved (hwindow : Window settings a b) {now : Int} (hfrom : a ≤ now)
    (hto : now ≤ b) {k : Nat} {d : String} {row : Option LoginThrottleState}
    (h : k = 0 ∨ ∃ r, row = some r ∧ Tallied settings b k r) :
    Tallied settings b (k + 1) (saved env settings now d row) := by
  obtain ⟨hlockout, hbackoff⟩ := hwindow
  simp only [seconds] at hlockout hbackoff
  have hcounted : k ≤ counted now row := by
    rcases h with hzero | ⟨r, hrow, htallied⟩
    · omega
    · rw [hrow, counted, if_neg (by have := htallied.kept; omega)]
      exact htallied.counts
  refine ⟨?_, ?_, ?_⟩
  · rw [saved_attemptCount]
    omega
  · rw [saved_expiresAt]
    simp only [window, seconds]
    omega
  · intro hmax
    rw [saved_attemptCount] at hmax
    have hlock := le_lockSeconds hmax (by omega)
    rw [saved_lockedUntil, if_pos (by omega)]
    refine ⟨_, rfl, ?_⟩
    simp only [seconds]
    omega

theorem Tallied.mono {k k' : Nat} {row : LoginThrottleState} (h : Tallied settings b k row)
    (hle : k' ≤ k) : Tallied settings b k' row :=
  ⟨by have := h.counts; omega, h.kept, h.locks⟩

theorem Tally.keep {d : String} {k : Nat} {rows rows' : Table LoginThrottleState}
    (h : Tally env settings b d k rows)
    (hrow : ∀ r, stored env rows ("id:" ++ d) = some r → Tallied settings b k r →
      ∃ r', stored env rows' ("id:" ++ d) = some r' ∧ Tallied settings b k r') :
    Tally env settings b d k rows' := by
  refine ⟨h.bounded, ?_⟩
  rcases h.row with hzero | ⟨r, hr, htallied⟩
  · exact Or.inl hzero
  · exact Or.inr (hrow r hr htallied)

/-- A wrong password under the digest. -/
theorem Tally.wrong (hdb : settings.redisEnabled = false) (hwindow : Window settings a b)
    {now : Int} (hfrom : a ≤ now) (hto : now ≤ b) (hmax : 1 ≤ settings.loginMaxAttempts)
    {s : State} {k : Nat} {user : User} {request : LoginRequest}
    (h : Tally env settings b (digest env request.identifier) k s.protection.rows)
    (hwrong : evaluated env settings now s.db s.protection request = some (user, false)) :
    Tally env settings b (digest env request.identifier) (k + 1)
      (attempt env twoFactor settings now s.db s.protection request).protection.rows := by
  obtain ⟨hfree, hrefused⟩ := @attempt_wrong env twoFactor settings now s.db s.protection
    request user hwrong
  have hmem : "id:" ++ digest env request.identifier ∈
      dimensions env request.identifier request.client.ipAddress := id_mem_dimensions.mpr rfl
  constructor
  · rcases h.row with hzero | ⟨r, hr, htallied⟩
    · omega
    · -- at the limit the check would have found the lock
      have hbelow : ¬settings.loginMaxAttempts ≤ r.attemptCount := by
        intro hlimit
        obtain ⟨t, ht, hlt⟩ := htallied.locks hlimit
        have hlocked := (check_locked hdb).mpr ⟨_, hmem, t,
          Option.bind_eq_some_iff.mpr ⟨r, hr, ht⟩, (by omega : now < t)⟩
        rw [hfree] at hlocked
        cases hlocked
      have hcounted := htallied.counts
      omega
  · right
    have hmore : Tallied settings b (k + 1)
        (saved env settings now ("id:" ++ digest env request.identifier)
          (stored env s.protection.rows ("id:" ++ digest env request.identifier))) :=
      Tallied.saved hwindow hfrom hto h.row
    refine ⟨_, ?_, hmore⟩
    rw [hrefused, refuse_protection, stored_registerFailure hdb, if_pos hmem]

/-- Any other login, but for a success under the digest. -/
theorem Tally.other (hdb : settings.redisEnabled = false) (hwindow : Window settings a b)
    {now : Int} (hfrom : a ≤ now) (hto : now ≤ b) {s : State} {k : Nat} {d : String}
    {request : LoginRequest} (h : Tally env settings b d k s.protection.rows)
    (hnone : digest env request.identifier = d →
      loggedIn env twoFactor settings s (now, .login request) = none) :
    Tally env settings b d k
      (attempt env twoFactor settings now s.db s.protection request).protection.rows := by
  refine h.keep fun r hr htallied => ?_
  have hcases := @stored_attempt env twoFactor settings now s.db s.protection request hdb
    ("id:" ++ d)
  rcases hcases with hsame | ⟨hmem, _, hsaved | ⟨_, user, hok⟩⟩
  · exact ⟨r, hsame.trans hr, htallied⟩
  · refine ⟨_, hsaved, ?_⟩
    exact (Tallied.saved hwindow hfrom hto (Or.inr ⟨r, hr, htallied⟩)).mono (by omega)
  · -- a reset of the digest is a success under it
    have hlogged := hnone (id_mem_dimensions.mp hmem).symm
    simp only [loggedIn, hok] at hlogged
    cases hlogged

theorem Tally.cleanup {now : Int} (hto : now ≤ b) {p : Protection} {k : Nat} {d : String}
    (h : Tally env settings b d k p.rows) :
    Tally env settings b d k (cleanupLoginAttempts now p).rows := by
  refine h.keep fun r hr htallied => ⟨r, ?_, htallied⟩
  have hkept := htallied.kept
  have hunexpired : now ≤ r.expiresAt := by omega
  rw [stored_cleanup, hr, Option.filter_some_pos (by simpa using hunexpired)]

/-- What a step of the window meets. -/
def InWindow (env : Environment) (twoFactor : TwoFactor) (settings : LoginSettings) (a b : Int)
    (d : String) (s : State) (e : Int × Call) (s' : State) : Prop :=
  (a ≤ e.1 ∧ e.1 ≤ b) ∧ NoneUnder env twoFactor settings d s e s'

theorem Tally.next (hdb : settings.redisEnabled = false) (hmax : 1 ≤ settings.loginMaxAttempts)
    (hwindow : Window settings a b) {s s' : State} {e : Int × Call} {log : List UUID} {user : UUID}
    {d : String} (h : Tally env settings b d (log.count user) s.protection.rows)
    (hstep : step env twoFactor settings s e = some s')
    (hin : InWindow env twoFactor settings a b d s e s') :
    Tally env settings b d ((log ++ (wrongUnder env settings d s e).toList).count user)
      s'.protection.rows := by
  obtain ⟨_, rfl⟩ := step_eq_some.mp hstep
  obtain ⟨⟨hfrom, hto⟩, hnone⟩ := hin
  obtain ⟨now, call⟩ := e
  cases call with
  | cleanupLoginAttempts =>
      simp only [wrongUnder, wrongFor, ite_self, Option.toList_none, List.append_nil]
      exact h.cleanup hto
  | login request =>
      by_cases hwrong : wrongUnder env settings d s (now, .login request) = some user
      · rw [hwrong, Option.toList_some, List.count_append, List.count_singleton_self]
        simp only [wrongUnder, Call.digest?, Option.some.injEq] at hwrong
        split at hwrong
        · rename_i hd
          subst hd
          simp only [wrongFor] at hwrong
          split at hwrong
          · rename_i u heval
            exact h.wrong hdb hwindow hfrom hto hmax heval
          · cases hwrong
        · cases hwrong
      · have hcount :
            (wrongUnder env settings d s (now, .login request)).toList.count user = 0 := by
          rw [List.count_eq_zero, Option.mem_toList]
          exact hwrong
        rw [List.count_append, hcount, Nat.add_zero]
        exact h.other hdb hwindow hfrom hto fun hd => hnone (congrArg some hd)

end Steps

/-- **The bound, for each digest.**  In a window shorter than a lockout and than the longest
backoff, with no successful login under a digest in it, no more wrong passwords than the
limit are checked against an account under that digest, where the limit is at least one. -/
theorem wrong_passwords_bounded (hdb : settings.redisEnabled = false)
    (hmax : 1 ≤ settings.loginMaxAttempts) {s : State} {es : List (Int × Call)} {a b : Int}
    (hin : ∀ e ∈ es, a ≤ e.1 ∧ e.1 ≤ b) (hlockout : b - a < seconds settings.loginLockoutSeconds)
    (hbackoff : b - a < seconds settings.loginMaxBackoffSeconds) (user : UUID) {d : String}
    (hnone : Steps (step env twoFactor settings) (NoneUnder env twoFactor settings d) s es) :
    (wrongCountUnder env twoFactor settings user d s es : Int) ≤ settings.loginMaxAttempts := by
  have hwindow : Window settings a b := ⟨hlockout, hbackoff⟩
  have hsteps : Steps (step env twoFactor settings) (InWindow env twoFactor settings a b d) s es :=
    (Steps.of_labels hin s).and hnone
  have hstart : Tally env settings b d (List.count user []) s.protection.rows :=
    ⟨by simp only [List.count_nil]; omega, Or.inl rfl⟩
  have hnext : ∀ (s : State) (log : List UUID) (e : Int × Call) (s' : State),
      Tally env settings b d (log.count user) s.protection.rows →
        step env twoFactor settings s e = some s' →
          InWindow env twoFactor settings a b d s e s' →
            Tally env settings b d ((log ++ (wrongUnder env settings d s e).toList).count user)
              s'.protection.rows :=
    fun s log e s' h hstep hin => h.next hdb hmax hwindow hstep hin
  have hend : ∀ (s : State) (log : List UUID),
      Tally env settings b d (log.count user) s.protection.rows →
        (log.count user : Int) ≤ settings.loginMaxAttempts := fun _ _ h => h.bounded
  exact collect_of_inv hnext hend hstart hsteps

/-- Guesses at one account by its name, all of them allowed. -/
def guesses : List (Int × Call) :=
  [(0, guess "ada" "10.0.0.1"), (1, guess "ada" "10.0.0.1"), (2, guess "ada" "10.0.0.2"),
    (3, guess "ada" "10.0.0.2"), (4, guess "ada" "10.0.0.3")]

theorem wrong_passwords_bounded_guesses :
    (wrongCountUnder .plain .plain {} 1 "ada" (.init 0 { users := {ada} }) guesses : Int) ≤ 5 :=
  wrong_passwords_bounded rfl (by decide) (by decide : ∀ e ∈ guesses, 0 ≤ e.1 ∧ e.1 ≤ 5)
    (by decide) (by decide) 1 (by decide)

/-- At the limit by name, the account is tried once more by its address. -/
theorem account_tried_by_name_and_address :
    let es := guesses ++ [(5, guess "ada@example.org" "10.0.0.4")]
    let s := State.init 0 { users := {ada} }
    (∀ e ∈ es, 0 ≤ e.1 ∧ e.1 ≤ 5) ∧ 5 - 0 < seconds 300 ∧
      Steps (step .plain .plain {}) (NotIn .plain .plain {} 1) s es ∧
      ¬(wrongCount .plain .plain {} 1 s es : Int) ≤ 5 := by
  decide

end DjangoFoundation
