/-
The lock of an account itself.

A refused login that locks its identifier's dimension locks the account it names as well,
for the longest of the locks its three dimensions get (`lockedUntil_refuse`), and over
whatever lock the account has.  So the account's lock is that of the identifier's counter
only where neither other counter is ahead of it, and it can come to an end earlier than it
was to, several identifiers of one account counting apart.
-/
import DjangoFoundation.Proofs.Identifiers
import DjangoFoundation.Proofs.Logins.Attempts
import DjangoFoundation.Proofs.Logins.Counters
import DjangoFoundation.Proofs.Logins.Writes

namespace DjangoFoundation

open Run AuthenticationService
open LoginProtectionService hiding lockedUntil
open Accounts (lockedUntil lockedUntil_lockKnownAccount)

variable {env : Environment} {twoFactor : TwoFactor} {settings : LoginSettings} {now : Int}

namespace LoginProtectionService

/-! ### The longest of the locks

A failure returns the longest lock of its three dimensions, and whether that of the identifier
is one.  Both are accumulated in one loop, and the lemmas say what is in the accumulators at
its end.
-/

theorem longest_next_le_iff {l : Longest} {d : String} {lock m : Int} (hm : 0 ≤ m) :
    (l.next d lock).longest ≤ m ↔ l.longest ≤ m ∧ lock ≤ m := by
  unfold Longest.next
  by_cases hlock : lock = 0
  · rw [if_pos hlock]
    omega
  · rw [if_neg hlock]
    exact Int.max_le

theorem accountLongest_next_le_iff {l : Longest} {d : String} {lock m : Int} (hm : 0 ≤ m) :
    (l.next d lock).accountLongest ≤ m ↔
      l.accountLongest ≤ m ∧ (isIdentifier d = true → lock ≤ m) := by
  unfold Longest.next
  by_cases hlock : lock = 0
  · rw [if_pos hlock]
    exact (and_iff_left fun _ => by omega).symm
  · rw [if_neg hlock]
    dsimp only
    cases isIdentifier d with
    | true =>
        rw [if_pos rfl, Int.max_le]
        exact and_congr_right' ⟨fun h _ => h, fun h => h rfl⟩
    | false =>
        rw [if_neg Bool.false_ne_true]
        exact (and_iff_left fun h => absurd h Bool.false_ne_true).symm

/-- A bound of both accumulators is one of the locks that went into them. -/
theorem longestOf_le_iff {attempts : String → Nat} {dimensions : List String} {l : Longest}
    {m : Int} (hm : 0 ≤ m) :
    ((longestOf settings attempts dimensions l).longest ≤ m ↔
      l.longest ≤ m ∧ ∀ d ∈ dimensions, lockSeconds settings (attempts d) ≤ m) ∧
    ((longestOf settings attempts dimensions l).accountLongest ≤ m ↔
      l.accountLongest ≤ m ∧
        ∀ d ∈ dimensions, isIdentifier d = true → lockSeconds settings (attempts d) ≤ m) := by
  induction dimensions generalizing l with
  | nil =>
      constructor
      · exact ⟨fun h => ⟨h, fun d hd => absurd hd List.not_mem_nil⟩, fun h => h.1⟩
      · exact ⟨fun h => ⟨h, fun d hd => absurd hd List.not_mem_nil⟩, fun h => h.1⟩
  | cons d ds ih =>
      obtain ⟨hlongest, haccount⟩ := @ih (l.next d (lockSeconds settings (attempts d)))
      constructor
      · refine hlongest.trans ?_
        rw [longest_next_le_iff hm, List.forall_mem_cons, and_assoc]
      · refine haccount.trans ?_
        rw [accountLongest_next_le_iff hm, List.forall_mem_cons, and_assoc]

/-- What is in an accumulator stays a lower bound of it. -/
theorem le_longest_next {l : Longest} {d : String} {lock : Int} :
    l.longest ≤ (l.next d lock).longest ∧ l.accountLongest ≤ (l.next d lock).accountLongest := by
  unfold Longest.next
  split
  · exact ⟨Int.le_refl _, Int.le_refl _⟩
  · refine ⟨Int.le_max_left _ _, ?_⟩
    dsimp only
    split
    · exact Int.le_max_left _ _
    · exact Int.le_refl _

theorem le_longestOf {attempts : String → Nat} {dimensions : List String} {l : Longest} :
    l.longest ≤ (longestOf settings attempts dimensions l).longest ∧
      l.accountLongest ≤ (longestOf settings attempts dimensions l).accountLongest := by
  induction dimensions generalizing l with
  | nil => exact ⟨Int.le_refl _, Int.le_refl _⟩
  | cons d ds ih =>
      obtain ⟨hlongest, haccount⟩ := @le_longest_next l d (lockSeconds settings (attempts d))
      exact ⟨Int.le_trans hlongest ih.1, Int.le_trans haccount ih.2⟩

theorem isIdentifier_id (a : String) : isIdentifier ("id:" ++ a) = true := by
  simp [isIdentifier, String.toList_append]

theorem isIdentifier_iff {identifier d : String} {ip : Option String}
    (hd : d ∈ dimensions env identifier ip) :
    isIdentifier d = true ↔ d = "id:" ++ digest env identifier := by
  constructor
  · intro hid
    simp only [dimensions, List.mem_cons, List.not_mem_nil, or_false] at hd
    rcases hd with rfl | rfl | rfl
    · rfl
    · simp [isIdentifier, String.toList_append] at hid
    · simp [isIdentifier, String.toList_append] at hid
  · intro heq
    rw [heq]
    exact isIdentifier_id _

section Failure

variable {p : Protection} {identifier : String} {ip : Option String}

variable (env settings now) in
/-- The lock of a dimension with one more failure. -/
def lockWith (p : Protection) (d : String) : Int :=
  lockSeconds settings (attemptsWith env settings now p d)

theorem retryAfter_le_iff {m : Int} (hm : 0 ≤ m) :
    (registerFailure env settings now p identifier ip).1.retryAfter ≤ m ↔
      ∀ d ∈ dimensions env identifier ip, lockWith env settings now p d ≤ m := by
  rw [registerFailure_fst]
  refine (longestOf_le_iff hm).1.trans ?_
  exact and_iff_right hm

/-- The account is locked where the identifier is. -/
theorem accountLocked_iff :
    (registerFailure env settings now p identifier ip).1.accountLocked = true ↔
      0 < lockWith env settings now p ("id:" ++ digest env identifier) := by
  have hle : (longestOf settings (attemptsWith env settings now p) (dimensions env identifier ip)
      {}).accountLongest ≤ 0 ↔ lockWith env settings now p ("id:" ++ digest env identifier) ≤ 0 := by
    refine (longestOf_le_iff (Int.le_refl 0)).2.trans ?_
    constructor
    · intro h
      exact h.2 _ (id_mem_dimensions.mpr rfl) (isIdentifier_id _)
    · intro h
      refine ⟨Int.le_refl 0, fun d hd hid => ?_⟩
      rw [(isIdentifier_iff hd).mp hid]
      exact h
  have hnonneg : 0 ≤ (longestOf settings (attemptsWith env settings now p)
      (dimensions env identifier ip) {}).accountLongest := le_longestOf.2
  rw [registerFailure_fst, Longest.state, decide_eq_true_eq]
  omega

theorem lockWith_le_retryAfter {d : String} (hd : d ∈ dimensions env identifier ip) :
    lockWith env settings now p d ≤
      (registerFailure env settings now p identifier ip).1.retryAfter := by
  have hnonneg : 0 ≤ (registerFailure env settings now p identifier ip).1.retryAfter := by
    rw [registerFailure_fst]
    exact le_longestOf.1
  exact (retryAfter_le_iff hnonneg).mp (Int.le_refl _) d hd

/-- A lock there is comes from one of the dimensions. -/
theorem le_retryAfter_iff {m : Int} (hm : 0 < m) :
    m ≤ (registerFailure env settings now p identifier ip).1.retryAfter ↔
      ∃ d ∈ dimensions env identifier ip, m ≤ lockWith env settings now p d := by
  constructor
  · intro h
    by_contra hno
    have hle : (registerFailure env settings now p identifier ip).1.retryAfter ≤ m - 1 := by
      refine (retryAfter_le_iff (by omega)).mpr fun d hd => ?_
      by_contra hgt
      exact hno ⟨d, hd, by omega⟩
    omega
  · rintro ⟨d, hd, hle⟩
    exact Int.le_trans hle (lockWith_le_retryAfter hd)

end Failure

end LoginProtectionService

namespace Logins

variable {db : Database} {p : Protection} {request : LoginRequest}

/-! ### A refused login

The account is locked if the identifier's dimension is, and for the longest of the three.  That
is where the address comes in: its counter may be far ahead.
-/

variable (env settings now) in
/-- A login is refused, and locks the account. -/
structure LocksAccount (db : Database) (p : Protection) (request : LoginRequest) (user : UUID) :
    Prop where
  free : (check env settings now p request.identifier request.client.ipAddress).locked = false
  refused : EmailOrUsernameBackend.authenticate env db request.identifier request.password = none
  locks : 0 < lockWith env settings now p ("id:" ++ digest env request.identifier)
  account : (newest (db.identified env request.identifier)).map User.pk = some user

instance (user : UUID) : Decidable (LocksAccount env settings now db p request user) :=
  decidable_of_iff
    ((check env settings now p request.identifier request.client.ipAddress).locked = false ∧
      (EmailOrUsernameBackend.authenticate env db request.identifier request.password).isNone ∧
      0 < lockWith env settings now p ("id:" ++ digest env request.identifier) ∧
      (newest (db.identified env request.identifier)).map User.pk = some user)
    ⟨fun ⟨hfree, hrefused, hlocks, haccount⟩ =>
        ⟨hfree, Option.isNone_iff_eq_none.mp hrefused, hlocks, haccount⟩,
      fun h => ⟨h.free, Option.isNone_iff_eq_none.mpr h.refused, h.locks, h.account⟩⟩

theorem lockKnownAccount_of_none {identifier : String} {retryAfter : Int} {client : Client}
    (h : newest (db.identified env identifier) = none) :
    lockKnownAccount env now db identifier retryAfter client = db := by
  unfold lockKnownAccount
  rw [h]

theorem lockedUntil_refuse_of_locks {user : UUID}
    (h : LocksAccount env settings now db p request user) :
    lockedUntil (refuse env settings now db p request).db user = some (now + seconds
      (registerFailure env settings now p request.identifier
        request.client.ipAddress).1.retryAfter) := by
  obtain ⟨row, hrow, hpk⟩ := Option.map_eq_some_iff.mp h.account
  unfold refuse
  dsimp only
  rw [if_pos (accountLocked_iff.mpr h.locks)]
  refine (lockedUntil_lockKnownAccount ?_ _ _ _).trans (if_pos hpk.symm)
  exact hrow

theorem lockedUntil_refuse_of_not {user : UUID}
    (hfree : (check env settings now p request.identifier request.client.ipAddress).locked = false)
    (hrefused : EmailOrUsernameBackend.authenticate env db request.identifier request.password =
      none)
    (h : ¬LocksAccount env settings now db p request user) :
    lockedUntil (refuse env settings now db p request).db user = lockedUntil db user := by
  unfold refuse
  dsimp only
  by_cases hlocked : (registerFailure env settings now p request.identifier
      request.client.ipAddress).1.accountLocked = true
  · rw [if_pos hlocked]
    cases hnewest : newest (db.identified env request.identifier) with
    | none =>
        rw [lockKnownAccount_of_none]
        · rfl
        · exact hnewest
    | some row =>
        have hne : user ≠ row.pk := by
          intro heq
          refine h ⟨hfree, hrefused, accountLocked_iff.mp hlocked, ?_⟩
          rw [hnewest, heq]
          rfl
        refine (lockedUntil_lockKnownAccount ?_ _ _ _).trans (if_neg hne)
        exact hnewest
  · rw [if_neg hlocked]
    rfl

/-- **The lock of an account is that of its identifier's counter** exactly where neither of
the other two counters of the login leads to a longer one. -/
theorem account_lock_of_identifier_iff {user : User}
    (hfree : (check env settings now p request.identifier request.client.ipAddress).locked = false)
    (hrefused : EmailOrUsernameBackend.authenticate env db request.identifier request.password =
      none)
    (hlocks : (registerFailure env settings now p request.identifier
      request.client.ipAddress).1.accountLocked = true)
    (huser : newest (db.identified env request.identifier) = some user) :
    lockedUntil (attempt env twoFactor settings now db p request).db user.pk =
        some (now + seconds (lockSeconds settings
          (attemptsWith env settings now p ("id:" ++ digest env request.identifier)))) ↔
      ∀ d ∈ dimensions env request.identifier request.client.ipAddress,
        lockSeconds settings (attemptsWith env settings now p d) ≤
          lockSeconds settings
            (attemptsWith env settings now p ("id:" ++ digest env request.identifier)) := by
  have hpos := accountLocked_iff.mp hlocks
  have hlock : LocksAccount env settings now db p request user.pk := by
    refine ⟨hfree, hrefused, hpos, ?_⟩
    rw [huser]
    rfl
  have hle : lockWith env settings now p ("id:" ++ digest env request.identifier) ≤
      (registerFailure env settings now p request.identifier
        request.client.ipAddress).1.retryAfter :=
    lockWith_le_retryAfter (id_mem_dimensions.mpr rfl)
  rw [attempt_refused hfree hrefused, lockedUntil_refuse_of_locks hlock, Option.some.injEq]
  refine Iff.trans ?_ (retryAfter_le_iff (Int.le_of_lt hpos))
  unfold seconds lockWith at *
  omega

theorem account_lock_of_identifier_iff_ada :
    lockedUntil (attempt .plain .plain { loginMaxAttempts := 1 } 0 { users := {ada} } {}
        { identifier := "ada", password := "guess" }).db ada.pk = some (seconds 300) :=
  (account_lock_of_identifier_iff (by decide) (by decide) (by decide) (by decide)).mpr (by decide)

/-- Two guesses under another name, from the address of the third. -/
def sprayed : List (Int × Call) :=
  [(0, guess "bob" "10.0.0.1"), (seconds 300, guess "bob" "10.0.0.1")]

/-- A guess that locks the account of ada for longer than its own counter is worth. -/
def LockedByAddress (s : State) (now : Int) : Prop :=
  let settings : LoginSettings := { loginMaxAttempts := 1 }
  let request : LoginRequest :=
    { identifier := "ada", password := "guess", client := { ipAddress := some "10.0.0.1" } }
  LocksAccount .plain settings now s.db s.protection request ada.pk ∧
    attemptsWith .plain settings now s.protection ("id:" ++ digest .plain "ada") = 1 ∧
    lockSeconds settings 1 = 300 ∧
    lockedUntil (attempt .plain .plain settings now s.db s.protection request).db ada.pk =
      some (now + seconds 1200)

instance (s : State) (now : Int) : Decidable (LockedByAddress s now) :=
  inferInstanceAs (Decidable (_ ∧ _))

theorem account_locked_by_address :
    ∃ s, exec (step .plain .plain { loginMaxAttempts := 1 }) (.init 0 { users := {ada} }) sprayed =
      some s ∧ LockedByAddress s (seconds 900) := by
  have h : (exec (step .plain .plain { loginMaxAttempts := 1 }) (.init 0 { users := {ada} })
      sprayed).any (fun s => LockedByAddress s (seconds 900)) = true := by
    decide
  obtain ⟨s, hs, hlocked⟩ := (Option.any_eq_true _ _).mp h
  exact ⟨s, hs, of_decide_eq_true hlocked⟩

/-! ### Runs

A lock is overwritten, so it may be shortened.  Counters of different identifiers of one
account do not know of each other, and the one that is behind writes the shorter lock.
-/

/-- A lock in force on the account does not come to end any earlier. -/
def NotShortened (user : UUID) (s : State) (e : Int × Call) (s' : State) : Prop :=
  ∀ t, lockedUntil s.db user = some t → e.1 < t →
    ∃ t', lockedUntil s'.db user = some t' ∧ t ≤ t'

/-- Where a refused login locks the account again, one of its three dimensions is at enough
attempts for as long. -/
def LocksAsLong (env : Environment) (settings : LoginSettings) (user : UUID) (s : State)
    (e : Int × Call) (_ : State) : Prop :=
  ∀ t, lockedUntil s.db user = some t → e.1 < t → ∀ request, e.2 = .login request →
    LocksAccount env settings e.1 s.db s.protection request user →
      ∃ d ∈ dimensions env request.identifier request.client.ipAddress,
        t ≤ e.1 + seconds (lockWith env settings e.1 s.protection d)

theorem lockedUntil_ensure (user k : UUID) :
    lockedUntil { db with securitySettings := db.securitySettings.ensure { user := user } } k =
      lockedUntil db k := by
  unfold lockedUntil
  rw [Table.get?_ensure]
  cases db.securitySettings.get? k with
  | none => split <;> rfl
  | some row => split <;> rfl

/-- Taking a lock off once it is over leaves the locks in force. -/
theorem lockedUntil_takeOffLock {db' : Database} {user : User} {client : Client} {k : UUID} {t : Int}
    (h : takeOffLock now db user client = .ok db') (hk : lockedUntil db k = some t)
    (hlt : now < t) : lockedUntil db' k = some t := by
  have hkept := (@lockedUntil_ensure db user.pk k).trans hk
  unfold takeOffLock at h
  dsimp only at h
  split at h
  · cases h
    exact hkept
  · rename_i t' hlock
    split at h
    · cases h
    · rename_i hover
      have hne : k ≠ user.pk := by
        intro heq
        subst heq
        rw [lockedUntil] at hkept
        rw [hkept] at hlock
        cases hlock
        omega
      cases h
      refine Eq.trans (congrArg (fun row => Option.bind row _) ?_) hkept
      exact (Table.get?_modify _ _ _ _ (by intro _; rfl)).trans (if_neg hne)

theorem lockedUntil_checkCode (user : User) (k : UUID) :
    lockedUntil (checkCode env twoFactor settings now db p user request).2.1 k =
      lockedUntil db k := by
  obtain ⟨_, _, hwrites⟩ := @checkCode_writes env twoFactor settings now db p user request
  rw [hwrites]
  rfl

theorem lockedUntil_succeed (user : User) (k : UUID) :
    lockedUntil (succeed env now db user request) k = lockedUntil db k := by
  obtain ⟨_, ⟨_, _, _, _, rfl⟩, hsucceed | hsucceed⟩ := @succeed_writes env now db user request
  · rw [hsucceed]
    rfl
  · obtain ⟨_, _, hdevice⟩ := newDeviceLogin_writes
    rw [hsucceed, hdevice]
    exact lockedUntil_ensure user.pk k

/-- Once somebody has authenticated, a lock in force stays as it is. -/
theorem lockedUntil_attempt_of_some {user : User} {k : UUID} {t : Int}
    (hfree : (check env settings now p request.identifier request.client.ipAddress).locked = false)
    (hsome : EmailOrUsernameBackend.authenticate env db request.identifier request.password =
      some user) (hk : lockedUntil db k = some t) (hlt : now < t) :
    lockedUntil (attempt env twoFactor settings now db p request).db k = some t := by
  simp only [attempt, hfree, hsome, Bool.false_eq_true, if_false]
  split
  · exact hk
  · rename_i db' htaken
    have hk' := lockedUntil_takeOffLock htaken hk hlt
    split
    · exact hk'
    · have hcode := (@lockedUntil_checkCode env twoFactor settings now db' p request user k).trans
        hk'
      split
      · rename_i e db'' p' heq
        rw [heq] at hcode
        exact hcode
      · rename_i db'' p' heq
        rw [heq] at hcode
        exact (lockedUntil_succeed user k).trans hcode

theorem lockedUntil_attempt_of_not {user : UUID} {t : Int}
    (h : ¬LocksAccount env settings now db p request user) (ht : lockedUntil db user = some t)
    (hlt : now < t) :
    lockedUntil (attempt env twoFactor settings now db p request).db user = some t := by
  cases hfree : (check env settings now p request.identifier request.client.ipAddress).locked with
  | true =>
      rw [attempt_locked hfree]
      exact ht
  | false =>
      cases hauth : EmailOrUsernameBackend.authenticate env db request.identifier
          request.password with
      | none =>
          rw [attempt_refused hfree hauth, lockedUntil_refuse_of_not hfree hauth h]
          exact ht
      | some other => exact lockedUntil_attempt_of_some hfree hauth ht hlt

/-- The longest of the locks reaches a time to come where one of them does. -/
theorem retryAfter_reaches_iff {identifier : String} {ip : Option String} {t : Int}
    (hlt : now < t) :
    t ≤ now + seconds (registerFailure env settings now p identifier ip).1.retryAfter ↔
      ∃ d ∈ dimensions env identifier ip, t ≤ now + seconds (lockWith env settings now p d) := by
  have hceil : ∀ lock : Int, t ≤ now + seconds lock ↔ (t - now + 999999) / 1000000 ≤ lock := by
    intro lock
    unfold seconds
    omega
  simp only [hceil]
  exact le_retryAfter_iff (by omega)

/-- **One step.**  It shortens no lock of the account exactly where, refused, it locks it for
as long. -/
theorem notShortened_iff {user : UUID} {s s' : State} {e : Int × Call}
    (hstep : step env twoFactor settings s e = some s') :
    NotShortened user s e s' ↔ LocksAsLong env settings user s e s' := by
  obtain ⟨_, rfl⟩ := step_eq_some.mp hstep
  obtain ⟨now, call⟩ := e
  constructor
  · rintro h t ht hlt request rfl hlocks
    obtain ⟨t', ht', hle⟩ := h t ht hlt
    have hlock : lockedUntil (attempt env twoFactor settings now s.db s.protection request).db
        user = some t' := ht'
    rw [attempt_refused hlocks.free hlocks.refused, lockedUntil_refuse_of_locks hlocks,
      Option.some.injEq] at hlock
    exact (retryAfter_reaches_iff hlt).mp (hlock.symm ▸ hle)
  · intro h t ht hlt
    cases call with
    | cleanupLoginAttempts => exact ⟨t, ht, Int.le_refl t⟩
    | login request =>
        by_cases hlocks : LocksAccount env settings now s.db s.protection request user
        · have hreach := (retryAfter_reaches_iff hlt).mpr (h t ht hlt request rfl hlocks)
          refine ⟨_, ?_, hreach⟩
          show lockedUntil (attempt env twoFactor settings now s.db s.protection request).db
            user = _
          rw [attempt_refused hlocks.free hlocks.refused, lockedUntil_refuse_of_locks hlocks]
        · exact ⟨t, lockedUntil_attempt_of_not hlocks ht hlt, Int.le_refl t⟩

/-- **A lock of an account is not shortened by failures**, in a run of logins from any state,
exactly where every refused login that locks the account again, under whichever of its
identifiers, is on a dimension at enough attempts for what is left of the lock. -/
theorem lock_not_shortened_iff (user : UUID) (s : State) (es : List (Int × Call)) :
    Steps (step env twoFactor settings) (NotShortened user) s es ↔
      Steps (step env twoFactor settings) (LocksAsLong env settings user) s es := by
  constructor
  · exact Steps.imp fun _ _ _ hstep h => (notShortened_iff hstep).mp h
  · exact Steps.imp fun _ _ _ hstep h => (notShortened_iff hstep).mpr h

/-- Two guesses at one account. -/
def guessesByName : List (Int × Call) :=
  [(0, guess "ada" "10.0.0.1"), (seconds 300, guess "ada" "10.0.0.1")]

/-- A third, by its other name and from elsewhere, counts as the first of its own. -/
theorem lock_shortened_by_other_name :
    ¬Steps (step .plain .plain { loginMaxAttempts := 1 }) (NotShortened ada.pk)
      (.init 0 { users := {ada} })
      (guessesByName ++ [(seconds 301, guess "ada@example.org" "10.0.0.2")]) := by
  intro h
  obtain ⟨s, s', hs, hs', hkept⟩ := h.last (f := fun s => lockedUntil s.db ada.pk)
    (g := fun s => lockedUntil s.db ada.pk) (a := some (seconds 900)) (b := some (seconds 601))
    (by decide) (by decide)
  obtain ⟨t, ht, hle⟩ := hkept (seconds 900) hs (by decide)
  rw [hs', Option.some.injEq] at ht
  subst ht
  exact absurd hle (by decide)

end Logins

end DjangoFoundation
