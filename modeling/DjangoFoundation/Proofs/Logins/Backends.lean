/-
When the two backends of the login protection agree.

The database renews a row's expiry with every failure; the cache counts up a counter that
expires a window after its first failure.  `Paired` relates a row to the two entries of its
dimension: while the counter is kept it has the row's count, and at any time from now on
the lock is kept where the row is locked.  A failure keeps that, and leads to the same lock
in both, as long as the counter has not expired under an unexpired row.  That is the
condition `CountersKept`, and a failure without it is counted as the first by the cache and
as one more by the database.

The two are equal in what they answer, and not in what they keep: a row that has expired stays
in its table, an entry does not.  So the relation is about what is kept from now on, and not
about the tables.
-/
import DjangoFoundation.Lib.Run
import DjangoFoundation.Proofs.Logins.Throttle

namespace DjangoFoundation

open Run LoginProtectionService

variable {env : Environment} {settings : LoginSettings}

namespace Backends

inductive Call
  | registerFailure (identifier : String) (ipAddress : Option String)
  | check (identifier : String) (ipAddress : Option String)
  | reset (identifier : String) (ipAddress : Option String)

/-- The two protections, and the time of the last call. -/
structure State where
  clock : Int
  redis : Protection := {}
  database : Protection := {}

def Call.run (env : Environment) (settings : LoginSettings) (now : Int) (p : Protection) :
    Call → Protection
  | .registerFailure identifier ip =>
      (LoginProtectionService.registerFailure env settings now p identifier ip).2
  | .check _ _ => p
  | .reset identifier ip => LoginProtectionService.reset env settings p identifier ip

/-- The settings with `REDIS_ENABLED` as given. -/
def withRedis (settings : LoginSettings) (redisEnabled : Bool) : LoginSettings :=
  { settings with redisEnabled := redisEnabled }

def step (env : Environment) (settings : LoginSettings) (s : State) (e : Int × Call) :
    Option State :=
  if s.clock ≤ e.1 then
    some {
      clock := e.1
      redis := e.2.run env (withRedis settings true) e.1 s.redis
      database := e.2.run env (withRedis settings false) e.1 s.database }
  else none

/-- Both backends say the same to a call: a check whether there is a lock, a failure also how
long it is and whether it is the account's. -/
def Agrees (env : Environment) (settings : LoginSettings) (s : State) (e : Int × Call)
    (_ : State) : Prop :=
  match e.2 with
  | .registerFailure identifier ip =>
      (registerFailure env (withRedis settings true) e.1 s.redis identifier ip).1 =
        (registerFailure env (withRedis settings false) e.1 s.database identifier ip).1
  | .check identifier ip =>
      (check env (withRedis settings true) e.1 s.redis identifier ip).locked =
        (check env (withRedis settings false) e.1 s.database identifier ip).locked
  | .reset _ _ => True

/-- The row of a dimension has not expired. -/
def unexpired (env : Environment) (now : Int) (rows : Table LoginThrottleState) (d : String) :
    Bool :=
  (stored env rows d).any fun row => now < row.expiresAt

/-- No failure finds a counter expired whose row has not. -/
def CountersKept (env : Environment) (s : State) (e : Int × Call) (_ : State) : Prop :=
  match e.2 with
  | .registerFailure identifier ip =>
      ∀ d ∈ dimensions env identifier ip, unexpired env e.1 s.database.rows d = true →
        (s.redis.cache.live? e.1 (attemptsKey d)).isSome = true
  | _ => True

instance (s : State) (e : Int × Call) (s' : State) : Decidable (Agrees env settings s e s') :=
  match e with
  | (_, .registerFailure _ _) => inferInstanceAs (Decidable (_ = _))
  | (_, .check _ _) => inferInstanceAs (Decidable (_ = _))
  | (_, .reset _ _) => inferInstanceAs (Decidable True)

instance (s : State) (e : Int × Call) (s' : State) : Decidable (CountersKept env s e s') :=
  match e with
  | (_, .registerFailure _ _) => inferInstanceAs (Decidable (∀ d ∈ _, _))
  | (_, .check _ _) => inferInstanceAs (Decidable True)
  | (_, .reset _ _) => inferInstanceAs (Decidable True)

end Backends

open Backends

/-! ### Keys -/

theorem attemptsKey_injective : Function.Injective attemptsKey := by
  intro d d' h
  exact (String.append_right_inj _).mp h

theorem lockKey_injective : Function.Injective lockKey := by
  intro d d' h
  exact (String.append_right_inj _).mp h

theorem attemptsKey_ne_lockKey (d d' : String) : attemptsKey d ≠ lockKey d' := by
  intro h
  have hlist : ("login-protection:attempts:" ++ d).toList.take 18 =
      ("login-protection:lock:" ++ d').toList.take 18 := congrArg (fun s => s.toList.take 18) h
  have hdiffer : "login-protection:attempts:".toList.take 18 ≠
      "login-protection:lock:".toList.take 18 := by decide
  rw [String.toList_append, String.toList_append, List.take_append_of_le_length (by decide),
    List.take_append_of_le_length (by decide)] at hlist
  exact hdiffer hlist

/-! ### Locks -/

theorem lockSeconds_pos_iff {n : Nat} : 0 < lockSeconds settings n ↔
    settings.loginMaxAttempts ≤ n ∧ 0 < settings.loginLockoutSeconds ∧
      0 < settings.loginMaxBackoffSeconds := by
  have hpow : (0 : Int) < 2 ^ (min ((n : Int) - settings.loginMaxAttempts) 6).toNat :=
    Int.pow_pos (by omega)
  unfold lockSeconds
  by_cases hlt : (n : Int) < settings.loginMaxAttempts
  · rw [if_pos hlt]
    omega
  · rw [if_neg hlt]
    constructor
    · intro h
      have h' := Int.lt_min.mp h
      exact ⟨by omega, Int.pos_of_mul_pos_left h'.1 hpow, h'.2⟩
    · intro ⟨_, hlockout, hbackoff⟩
      exact Int.lt_min.mpr ⟨Int.mul_pos hlockout hpow, hbackoff⟩

/-! ### One dimension

The cache keeps a counter and a flag, each with an expiry of its own, and the database one row
with one expiry.  They are paired if they answer alike from now on, which is less than being
equal.
-/

/-- What the entries and the row of a dimension have to do with each other. -/
structure Paired (settings : LoginSettings) (clock : Int) (counter lock : Option (Nat × Int))
    (row : Option LoginThrottleState) : Prop where
  counts : ∀ e, counter = some e → clock < e.2 →
    ∃ r, row = some r ∧ e.1 = r.attemptCount ∧ e.2 ≤ r.expiresAt
  kept : ∀ e, counter = some e → e.2 ≤ clock + window settings
  flag : ∀ e, lock = some e → e.1 = 1
  locks : ∀ t, clock ≤ t →
    ((∃ e, lock = some e ∧ t < e.2) ↔ ∃ r u, row = some r ∧ r.lockedUntil = some u ∧ t < u)
  expires : ∀ r u, row = some r → r.lockedUntil = some u → u ≤ r.expiresAt
  atLimit : ∀ r u, row = some r → r.lockedUntil = some u → clock < u →
    0 < lockSeconds settings r.attemptCount

theorem Paired.none {clock : Int} : Paired settings clock none none none where
  counts _ h := by cases h
  kept _ h := by cases h
  flag _ h := by cases h
  locks t _ := by
    constructor
    · intro ⟨_, h, _⟩
      cases h
    · intro ⟨_, _, h, _⟩
      cases h
  expires _ _ h := by cases h
  atLimit _ _ h := by cases h

theorem Paired.later {clock now : Int} {counter lock : Option (Nat × Int)}
    {row : Option LoginThrottleState} (h : Paired settings clock counter lock row)
    (hle : clock ≤ now) : Paired settings now counter lock row where
  counts e he hlt := h.counts e he (by omega)
  kept e he := by
    have := h.kept e he
    omega
  flag := h.flag
  locks t ht := h.locks t (by omega)
  expires := h.expires
  atLimit r u hr hu hlt := h.atLimit r u hr hu (by omega)

/-- The counter of a dimension after one more failure. -/
def nextCounter (settings : LoginSettings) (now : Int) (counter : Option (Nat × Int)) : Nat × Int :=
  match counter.filter fun e => now < e.2 with
  | none => (1, now + window settings)
  | some (attempts, expiry) => (attempts + 1, expiry)

/-- The lock of a dimension after a failure that leads to one of `seconds`. -/
def nextLock (now lockSeconds : Int) (lock : Option (Nat × Int)) : Option (Nat × Int) :=
  if lockSeconds ≠ 0 then some (1, now + seconds lockSeconds) else lock

/-- Both count the same, where the counter is kept as long as the row. -/
theorem Paired.counted {now : Int} {counter lock : Option (Nat × Int)}
    {row : Option LoginThrottleState} (h : Paired settings now counter lock row)
    (hkept : (row.any fun r => now < r.expiresAt) = true →
      (counter.filter fun e => now < e.2).isSome = true) :
    (nextCounter settings now counter).1 = counted now row + 1 := by
  unfold nextCounter
  cases hlive : counter.filter fun e => now < e.2 with
  | some e =>
      obtain ⟨hsome, hlt⟩ := Option.filter_eq_some_iff.mp hlive
      rw [decide_eq_true_eq] at hlt
      obtain ⟨r, hr, hcount, hle⟩ := h.counts e hsome hlt
      rw [hr, LoginProtectionService.counted, if_neg (by omega), ← hcount]
  | none =>
      have hexpired : LoginProtectionService.counted now row = 0 := by
        cases row with
        | none => rfl
        | some r =>
            by_cases hlt : now < r.expiresAt
            · have hsome := hkept (by simpa using hlt)
              rw [hlive] at hsome
              cases hsome
            · rw [LoginProtectionService.counted, if_pos (by omega)]
      rw [hexpired]

/-- The failure locks both or neither: an older lock would be one of the row, which would be
locked again. -/
theorem Paired.locks_failure {now t : Int} {counter lock : Option (Nat × Int)}
    {row : Option LoginThrottleState} (d : String) (h : Paired settings now counter lock row)
    (ht : now ≤ t) :
    (∃ e, nextLock now (lockSeconds settings (LoginProtectionService.counted now row + 1)) lock =
        some e ∧ t < e.2) ↔
      ∃ r u, some (saved env settings now d row) = some r ∧ r.lockedUntil = some u ∧ t < u := by
  by_cases hzero : lockSeconds settings (LoginProtectionService.counted now row + 1) = 0
  · rw [nextLock, if_neg (not_not_intro hzero)]
    constructor
    · intro hlock
      obtain ⟨r, u, hr, hu, hlt⟩ := (h.locks t ht).mp hlock
      have hpos := h.atLimit r u hr hu (by omega)
      have hle := h.expires r u hr hu
      rw [hr, LoginProtectionService.counted, if_neg (by omega)] at hzero
      have hmore : 0 < lockSeconds settings (r.attemptCount + 1) := by
        rw [lockSeconds_pos_iff] at hpos ⊢
        omega
      omega
    · intro h'
      obtain ⟨r, u, hr, hu, _⟩ := h'
      rw [Option.some.injEq] at hr
      rw [← hr, saved_lockedUntil, if_neg (not_not_intro hzero)] at hu
      cases hu
  · rw [nextLock, if_pos hzero]
    constructor
    · intro h'
      obtain ⟨e, he, hlt⟩ := h'
      rw [Option.some.injEq] at he
      rw [← he] at hlt
      exact ⟨_, _, rfl, by rw [saved_lockedUntil, if_pos hzero], hlt⟩
    · intro h'
      obtain ⟨r, u, hr, hu, hlt⟩ := h'
      rw [Option.some.injEq] at hr
      rw [← hr, saved_lockedUntil, if_pos hzero, Option.some.injEq] at hu
      exact ⟨_, rfl, hu ▸ hlt⟩

theorem Paired.failure {now : Int} {counter lock : Option (Nat × Int)}
    {row : Option LoginThrottleState} {d : String} (h : Paired settings now counter lock row)
    (hkept : (row.any fun r => now < r.expiresAt) = true →
      (counter.filter fun e => now < e.2).isSome = true) :
    Paired settings now (some (nextCounter settings now counter))
      (nextLock now (lockSeconds settings (nextCounter settings now counter).1) lock)
      (some (saved env settings now d row)) := by
  have hcount := h.counted hkept
  have hexpiry : (nextCounter settings now counter).2 ≤ now + window settings := by
    unfold nextCounter
    split
    · exact Int.le_refl _
    · rename_i attempts expiry hlive
      exact h.kept (attempts, expiry) (Option.filter_eq_some_iff.mp hlive).1
  rw [hcount]
  refine ⟨?_, ?_, ?_, ?_, ?_, ?_⟩
  · intro e he _
    rw [Option.some.injEq] at he
    subst he
    exact ⟨_, rfl, by rw [saved_attemptCount, hcount], by rw [saved_expiresAt]; exact hexpiry⟩
  · intro e he
    rw [Option.some.injEq] at he
    exact he ▸ hexpiry
  · intro e he
    unfold nextLock at he
    split at he
    · rw [Option.some.injEq] at he
      rw [← he]
    · exact h.flag e he
  · intro t ht
    exact h.locks_failure d ht
  · intro r u hr hu
    rw [Option.some.injEq] at hr
    subst hr
    rw [saved_expiresAt]
    rw [saved_lockedUntil] at hu
    split at hu
    · rename_i hne
      rw [Option.some.injEq] at hu
      have hle := lockSeconds_le _ hne
      simp only [window, seconds] at hu ⊢
      omega
    · cases hu
  · intro r u hr hu hlt
    rw [Option.some.injEq] at hr
    subst hr
    rw [saved_attemptCount]
    rw [saved_lockedUntil] at hu
    split at hu
    · rw [Option.some.injEq] at hu
      simp only [seconds] at hu
      omega
    · cases hu

/-! ### The cache's entries after a failure -/

theorem countAttempt_eq {now : Int} (cache : Cache String) (key : String) :
    (countAttempt settings now cache key).1 = (nextCounter settings now (cache.entry key)).1 ∧
      ∀ j, (countAttempt settings now cache key).2.entry j =
        if j = key then some (nextCounter settings now (cache.entry key)) else cache.entry j := by
  unfold countAttempt Cache.add Cache.incr nextCounter
  cases hlive : cache.live? now key with
  | none =>
      have hfilter : (cache.entry key).filter (fun e => now < e.2) = none := hlive
      rw [hfilter]
      exact ⟨rfl, fun _ => rfl⟩
  | some e =>
      have hfilter : (cache.entry key).filter (fun e => now < e.2) = some e := hlive
      rw [hfilter]
      exact ⟨rfl, fun _ => rfl⟩

theorem cacheFailure_fst {now : Int} (d : String) (cache : Cache String) :
    (cacheFailure settings now d cache).1 =
      lockSeconds settings (nextCounter settings now (cache.entry (attemptsKey d))).1 := by
  show lockSeconds settings (countAttempt settings now cache (attemptsKey d)).1 = _
  rw [(countAttempt_eq cache (attemptsKey d)).1]

theorem cacheFailure_entry {now : Int} (d : String) (cache : Cache String) (j : String) :
    (cacheFailure settings now d cache).2.entry j =
      if j = lockKey d then
        nextLock now
          (lockSeconds settings (nextCounter settings now (cache.entry (attemptsKey d))).1)
          (cache.entry (lockKey d))
      else if j = attemptsKey d then some (nextCounter settings now (cache.entry (attemptsKey d)))
      else cache.entry j := by
  obtain ⟨hattempts, hentry⟩ := @countAttempt_eq settings now cache (attemptsKey d)
  simp only [cacheFailure, hattempts, nextLock]
  by_cases hzero :
      lockSeconds settings (nextCounter settings now (cache.entry (attemptsKey d))).1 ≠ 0
  · simp only [if_pos hzero, Cache.entry_set, hentry]
  · simp only [if_neg hzero, hentry]
    by_cases hj : j = lockKey d
    · rw [if_pos hj, hj, if_neg (Ne.symm (attemptsKey_ne_lockKey d d))]
    · rw [if_neg hj]

theorem databaseFailure_fst {now : Int} (d : String) (rows : Table LoginThrottleState) :
    (databaseFailure env settings now d rows).1 =
      lockSeconds settings (LoginProtectionService.counted now (stored env rows d) + 1) :=
  (failed_eq d (stored env rows d)).1

/-! ### All dimensions

Dimensions have separate keys and separate rows, so a failure on three of them is three
failures on one.
-/

/-- Every dimension's entries and row are paired. -/
def AllPaired (env : Environment) (settings : LoginSettings) (clock : Int) (cache : Cache String)
    (rows : Table LoginThrottleState) : Prop :=
  ∀ d, Paired settings clock (cache.entry (attemptsKey d)) (cache.entry (lockKey d))
    (stored env rows d)

/-- A failure on one dimension leads to the same lock and keeps the pairs. -/
theorem AllPaired.failure {now : Int} {cache : Cache String} {rows : Table LoginThrottleState}
    {d : String} (h : AllPaired env settings now cache rows)
    (hkept : unexpired env now rows d = true → (cache.live? now (attemptsKey d)).isSome = true) :
    (cacheFailure settings now d cache).1 = (databaseFailure env settings now d rows).1 ∧
      AllPaired env settings now (cacheFailure settings now d cache).2
        (databaseFailure env settings now d rows).2 := by
  constructor
  · rw [cacheFailure_fst, databaseFailure_fst, (h d).counted hkept]
  · intro d'
    rw [cacheFailure_entry, cacheFailure_entry, stored_databaseFailure,
      if_neg (attemptsKey_ne_lockKey d' d)]
    by_cases hd : d' = d
    · subst hd
      rw [if_pos rfl, if_pos rfl, if_pos rfl]
      exact (h d').failure hkept
    · rw [if_neg fun hkey => hd (attemptsKey_injective hkey),
        if_neg fun hkey => hd (lockKey_injective hkey),
        if_neg (Ne.symm (attemptsKey_ne_lockKey d d')), if_neg hd]
      exact h d'

/-- So does a failure on all of a request's. -/
theorem AllPaired.failures {now : Int} {dimensions : List String} (hnodup : dimensions.Nodup)
    {cache : Cache String} {rows : Table LoginThrottleState} (l : Longest)
    (h : AllPaired env settings now cache rows)
    (hkept : ∀ d ∈ dimensions, unexpired env now rows d = true →
      (cache.live? now (attemptsKey d)).isSome = true) :
    (failures (cacheFailure settings now) dimensions l cache).1 =
        (failures (databaseFailure env settings now) dimensions l rows).1 ∧
      AllPaired env settings now (failures (cacheFailure settings now) dimensions l cache).2
        (failures (databaseFailure env settings now) dimensions l rows).2 := by
  induction dimensions generalizing l cache rows with
  | nil => exact ⟨rfl, h⟩
  | cons d ds ih =>
      obtain ⟨hnew, hds⟩ := List.nodup_cons.mp hnodup
      obtain ⟨hlock, hnext⟩ := h.failure (hkept d List.mem_cons_self)
      simp only [LoginProtectionService.failures]
      rw [hlock]
      refine ih hds _ hnext fun d' hd' => ?_
      have hne : d' ≠ d := fun heq => hnew (heq ▸ hd')
      have hrow : unexpired env now (databaseFailure env settings now d rows).2 d' =
          unexpired env now rows d' := by
        rw [unexpired, stored_databaseFailure, if_neg hne, unexpired]
      have hentry : (cacheFailure settings now d cache).2.live? now (attemptsKey d') =
          cache.live? now (attemptsKey d') := by
        rw [Cache.live?, cacheFailure_entry, if_neg (attemptsKey_ne_lockKey d' d),
          if_neg fun hkey => hne (attemptsKey_injective hkey), Cache.live?]
      rw [hrow, hentry]
      exact hkept d' (List.mem_cons_of_mem d hd')

theorem AllPaired.later {clock now : Int} {cache : Cache String} {rows : Table LoginThrottleState}
    (h : AllPaired env settings clock cache rows) (hle : clock ≤ now) :
    AllPaired env settings now cache rows :=
  fun d => (h d).later hle

/-- A dimension cleared has neither of its entries. -/
theorem entry_cleared (hredis : settings.redisEnabled = true) (p : Protection)
    (dimensions : List String) (d : String) :
    ((cleared env settings p dimensions).cache.entry (attemptsKey d) =
      if d ∈ dimensions then none else p.cache.entry (attemptsKey d)) ∧
    ((cleared env settings p dimensions).cache.entry (lockKey d) =
      if d ∈ dimensions then none else p.cache.entry (lockKey d)) := by
  have hattempts : attemptsKey d ∈ dimensions.map attemptsKey ++ dimensions.map lockKey ↔
      d ∈ dimensions := by
    rw [List.mem_append, List.mem_map_of_injective attemptsKey_injective]
    refine or_iff_left ?_
    intro hmem
    obtain ⟨d', _, hkey⟩ := List.mem_map.mp hmem
    exact attemptsKey_ne_lockKey d d' hkey.symm
  have hlock : lockKey d ∈ dimensions.map attemptsKey ++ dimensions.map lockKey ↔
      d ∈ dimensions := by
    rw [List.mem_append, List.mem_map_of_injective lockKey_injective]
    refine or_iff_right ?_
    intro hmem
    obtain ⟨d', _, hkey⟩ := List.mem_map.mp hmem
    exact attemptsKey_ne_lockKey d' d hkey
  simp only [cleared, hredis, if_true, Cache.deleteMany, hattempts, hlock]
  exact ⟨trivial, trivial⟩

theorem entry_reset (hredis : settings.redisEnabled = true) (p : Protection) (identifier : String)
    (ip : Option String) (d : String) :
    ((reset env settings p identifier ip).cache.entry (attemptsKey d) =
      if d ∈ dimensions env identifier ip then none else p.cache.entry (attemptsKey d)) ∧
    ((reset env settings p identifier ip).cache.entry (lockKey d) =
      if d ∈ dimensions env identifier ip then none else p.cache.entry (lockKey d)) :=
  entry_cleared hredis p (dimensions env identifier ip) d

theorem AllPaired.reset {now : Int} {p q : Protection} (identifier : String) (ip : Option String)
    (h : AllPaired env settings now p.cache q.rows) :
    AllPaired env settings now (reset env (withRedis settings true) p identifier ip).cache
      (reset env (withRedis settings false) q identifier ip).rows := by
  intro d
  have hcache := @entry_reset env (withRedis settings true) rfl p identifier ip d
  rw [hcache.1, hcache.2, stored_reset rfl]
  by_cases hd : d ∈ dimensions env identifier ip
  · rw [if_pos hd, if_pos hd, if_pos hd]
    exact Paired.none
  · rw [if_neg hd, if_neg hd, if_neg hd]
    exact h d

/-! ### Checks

A check asks whether any of three locks is up.  Its answers are compared in that alone, since
the cache may not be able to tell how long a lock still lasts.
-/

/-- The largest of some values is positive where one is picked, all that are being so. -/
private theorem foldl_max_pos {α : Type} {live : α → Bool} {v : α → Int} {l : List α}
    (hpos : ∀ d ∈ l, live d = true → 0 < v d) {r : Int} (hr : 0 ≤ r) :
    0 ≤ l.foldl (fun r d => if live d then max r (v d) else r) r ∧
      (l.foldl (fun r d => if live d then max r (v d) else r) r ≠ 0 ↔
        r ≠ 0 ∨ ∃ d ∈ l, live d = true) := by
  induction l generalizing r with
  | nil => simpa using hr
  | cons d l ih =>
      have hrest : ∀ d' ∈ l, live d' = true → 0 < v d' :=
        fun d' hd' => hpos d' (List.mem_cons_of_mem d hd')
      simp only [List.foldl_cons, List.mem_cons, exists_eq_or_imp]
      by_cases hlive : live d = true
      · have hd := hpos d List.mem_cons_self hlive
        rw [if_pos hlive]
        obtain ⟨hge, hiff⟩ := ih hrest (by omega : 0 ≤ max r (v d))
        refine ⟨hge, hiff.trans ?_⟩
        have hne : max r (v d) ≠ 0 := by omega
        simp only [hne, hlive, ne_eq, not_false_eq_true, true_or, or_true]
      · rw [if_neg hlive]
        obtain ⟨hge, hiff⟩ := ih hrest hr
        refine ⟨hge, hiff.trans ?_⟩
        simp only [hlive, Bool.false_eq_true, false_or]

/-- The flag the cache keeps for a lock is up where the row is locked. -/
theorem AllPaired.live_iff {now : Int} {cache : Cache String} {rows : Table LoginThrottleState}
    (h : AllPaired env settings now cache rows) (d : String) :
    ((cache.get now (lockKey d)).any fun value => value ≠ 0) = true ↔
      ∃ t, lockedUntil env rows d = some t ∧ now < t := by
  have hrow : (∃ t, lockedUntil env rows d = some t ∧ now < t) ↔
      ∃ r u, stored env rows d = some r ∧ r.lockedUntil = some u ∧ now < u := by
    simp only [lockedUntil, Option.bind_eq_some_iff]
    constructor
    · intro h'
      obtain ⟨t, ⟨r, hr, ht⟩, hlt⟩ := h'
      exact ⟨r, t, hr, ht, hlt⟩
    · intro h'
      obtain ⟨r, t, hr, ht, hlt⟩ := h'
      exact ⟨t, ⟨r, hr, ht⟩, hlt⟩
  rw [hrow, ← (h d).locks now (Int.le_refl now)]
  constructor
  · intro hflag
    rw [Option.any_eq_true] at hflag
    obtain ⟨value, hget, _⟩ := hflag
    obtain ⟨e, he, _⟩ := Option.map_eq_some_iff.mp hget
    exact ⟨e, Cache.live?_eq_some.mp he⟩
  · intro h'
    obtain ⟨e, he, hlt⟩ := h'
    have hlive : cache.live? now (lockKey d) = some e := Cache.live?_eq_some.mpr ⟨he, hlt⟩
    have hone := (h d).flag e he
    simp [Cache.get, hlive, hone]

theorem AllPaired.checkCache_locked {now : Int} {cache : Cache String}
    {rows : Table LoginThrottleState} {dimensions : List String}
    (h : AllPaired env settings now cache rows) :
    (checkCache settings now cache dimensions).locked = true ↔
      ∃ d ∈ dimensions, ∃ t, lockedUntil env rows d = some t ∧ now < t := by
  have hpos : ∀ d ∈ dimensions, ((cache.get now (lockKey d)).any fun value => value ≠ 0) = true →
      0 < if ttl now cache (lockKey d) ≠ 0 then ttl now cache (lockKey d)
        else settings.loginLockoutSeconds := by
    intro d _ hlive
    obtain ⟨t, ht, hlt⟩ := (h.live_iff d).mp hlive
    obtain ⟨r, hr, hu⟩ := Option.bind_eq_some_iff.mp ht
    have hlockout := (lockSeconds_pos_iff.mp ((h d).atLimit r t hr hu hlt)).2.1
    have hleft : 0 ≤ ttl now cache (lockKey d) := by
      unfold ttl Cache.remaining
      cases hentry : cache.live? now (lockKey d) with
      | none => exact Int.le_refl 0
      | some e =>
          have := (Cache.live?_eq_some.mp hentry).2
          simp only [Option.map_some]
          omega
    split <;> omega
  obtain ⟨_, hiff⟩ := foldl_max_pos hpos (Int.le_refl 0)
  refine decide_eq_true_iff.trans (hiff.trans ?_)
  simp only [ne_eq, not_true_eq_false, false_or, h.live_iff]

/-! ### Runs

The pairing is kept by every call under the condition, and from it the answers agree.  Without
it a row is kept alive by failures within its window, while the counter, which is not prolonged,
runs out.
-/

theorem Backends.step_eq_some {s s' : Backends.State} {e : Int × Backends.Call} :
    Backends.step env settings s e = some s' ↔ s.clock ≤ e.1 ∧ s' = {
      clock := e.1
      redis := e.2.run env (withRedis settings true) e.1 s.redis
      database := e.2.run env (withRedis settings false) e.1 s.database } := by
  unfold Backends.step
  rw [Option.ite_none_right_eq_some, Option.some.injEq, eq_comm]

theorem AllPaired.next {s s' : Backends.State} {e : Int × Backends.Call}
    (h : AllPaired env settings s.clock s.redis.cache s.database.rows)
    (hstep : Backends.step env settings s e = some s') (hkept : CountersKept env s e s') :
    AllPaired env settings s'.clock s'.redis.cache s'.database.rows ∧
      Agrees env settings s e s' := by
  obtain ⟨hle, rfl⟩ := Backends.step_eq_some.mp hstep
  obtain ⟨now, call⟩ := e
  have hnow := h.later hle
  cases call with
  | registerFailure identifier ip =>
      obtain ⟨hanswer, hnext⟩ := hnow.failures (nodup_dimensions identifier ip) {} hkept
      exact ⟨hnext, hanswer⟩
  | check identifier ip =>
      refine ⟨hnow, ?_⟩
      have hredis := @AllPaired.checkCache_locked env settings now s.redis.cache s.database.rows
        (dimensions env identifier ip) hnow
      have hdatabase := @checkDatabase_locked env now s.database.rows (dimensions env identifier ip)
      exact Bool.eq_iff_iff.mpr (hredis.trans hdatabase.symm)
  | reset identifier ip => exact ⟨hnow.reset identifier ip, trivial⟩

/-- **The backends agree while counters are kept.**  From nothing counted, whatever calls come
at whatever times: as long as no failure finds a counter expired in the cache whose row has
not expired in the database, every answer is the same in both. -/
theorem backends_agree {clock : Int} {calls : List (Int × Backends.Call)}
    (hkept : Steps (Backends.step env settings) (CountersKept env) { clock := clock } calls) :
    Steps (Backends.step env settings) (Agrees env settings) { clock := clock } calls := by
  have hstart : AllPaired env settings clock ∅ ∅ := fun _ => Paired.none
  have hnext : ∀ s e s', AllPaired env settings s.clock s.redis.cache s.database.rows →
      Backends.step env settings s e = some s' → CountersKept env s e s' →
        AllPaired env settings s'.clock s'.redis.cache s'.database.rows ∧
          Agrees env settings s e s' :=
    fun _ _ _ h hstep hkept => h.next hstep hkept
  exact Steps.of_inv hnext hstart hkept

/-- Failures each within the window of the one before, the last of them not within that of
the first. -/
def spread (last : Int) : List (Int × Backends.Call) :=
  [(seconds 0, .registerFailure "ada" none), (seconds 1000, .registerFailure "ada" none),
    (seconds 2000, .registerFailure "ada" none), (seconds 3000, .registerFailure "ada" none),
    (seconds last, .registerFailure "ada" none)]

theorem backends_agree_spread :
    Steps (Backends.step .plain {}) (Agrees .plain {}) { clock := 0 } (spread 3500) :=
  backends_agree (by decide)

/-- The database locks at the fifth failure, which the cache counts as the first. -/
theorem backends_disagree_spread :
    ¬Steps (Backends.step .plain {}) (Agrees .plain {}) { clock := 0 } (spread 4000) := by
  decide

end DjangoFoundation
