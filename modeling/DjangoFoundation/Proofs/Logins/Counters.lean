/-
What the login protection makes of a dimension, in either backend.

A failure's answer comes from the attempts its three dimensions are at with it
(`registerFailure_fst`), and a check's from the locks still to come.  So two protections
that differ in nothing a later call can see of a dimension, `AlikeAt`, answer alike and
stay alike: a row taken out once it counts for nothing makes no difference, and a row
nobody asks for makes none either.
-/
import Mathlib.Order.Basic
import DjangoFoundation.Proofs.Logins.Backends

namespace DjangoFoundation

attribute [ext] LoginThrottleState

namespace LoginProtectionService

variable {env : Environment} {settings : LoginSettings} {now : Int}

/-! ### The answer to a failure

What a failure returns depends on the attempts of its dimensions, and on nothing else.
-/

variable (env settings now) in
/-- The attempts a dimension is at with one more failure. -/
def attemptsWith (p : Protection) (d : String) : Nat :=
  if settings.redisEnabled then (nextCounter settings now (p.cache.entry (attemptsKey d))).1
  else counted now (stored env p.rows d) + 1

variable (settings) in
/-- The longest locks of some dimensions, each at its attempts. -/
def longestOf (attempts : String → Nat) (dimensions : List String) (l : Longest) : Longest :=
  dimensions.foldl (fun l d => l.next d (lockSeconds settings (attempts d))) l

theorem longestOf_congr {attempts attempts' : String → Nat} {dimensions : List String}
    (h : ∀ d ∈ dimensions, attempts d = attempts' d) (l : Longest) :
    longestOf settings attempts dimensions l = longestOf settings attempts' dimensions l := by
  induction dimensions generalizing l with
  | nil => rfl
  | cons d ds ih =>
      have hrest : ∀ d' ∈ ds, attempts d' = attempts' d' :=
        fun d' hd' => h d' (List.mem_cons_of_mem d hd')
      show longestOf settings attempts ds (l.next d (lockSeconds settings (attempts d))) = _
      rw [h d List.mem_cons_self, ih hrest]
      rfl

/-- Where a failure leaves the attempts of the other dimensions alone, a loop over distinct
dimensions sees each at the attempts it started from. -/
theorem failures_fst {σ : Type} {failure : String → σ → Int × σ} {attempts : σ → String → Nat}
    (hlock : ∀ d s, (failure d s).1 = lockSeconds settings (attempts s d))
    (hframe : ∀ d s d', d' ≠ d → attempts (failure d s).2 d' = attempts s d')
    {dimensions : List String} (hnodup : dimensions.Nodup) (l : Longest) (s : σ) :
    (failures failure dimensions l s).1 = (longestOf settings (attempts s) dimensions l).state := by
  induction dimensions generalizing l s with
  | nil => rfl
  | cons d ds ih =>
      obtain ⟨hnew, hds⟩ := List.nodup_cons.mp hnodup
      have hsame : ∀ d' ∈ ds, attempts (failure d s).2 d' = attempts s d' := by
        intro d' hd'
        exact hframe d s d' fun heq => hnew (heq ▸ hd')
      simp only [failures]
      rw [ih hds, hlock, longestOf_congr hsame]
      rfl

theorem registerFailure_fst (p : Protection) (identifier : String) (ip : Option String) :
    (registerFailure env settings now p identifier ip).1 =
      (longestOf settings (attemptsWith env settings now p) (dimensions env identifier ip)
        {}).state := by
  have hnodup := @nodup_dimensions env identifier ip
  cases hredis : settings.redisEnabled with
  | true =>
      have hframe : ∀ d (cache : Cache String) d', d' ≠ d →
          (nextCounter settings now
            ((cacheFailure settings now d cache).2.entry (attemptsKey d'))).1 =
            (nextCounter settings now (cache.entry (attemptsKey d'))).1 := by
        intro d cache d' hne
        rw [cacheFailure_entry, if_neg (attemptsKey_ne_lockKey d' d),
          if_neg fun hkey => hne (attemptsKey_injective hkey)]
      have hattempts : attemptsWith env settings now p = fun d =>
          (nextCounter settings now (p.cache.entry (attemptsKey d))).1 := by
        funext d
        simp only [attemptsWith, hredis, if_true]
      have hloop := failures_fst (fun d cache => cacheFailure_fst d cache) hframe hnodup {} p.cache
      simp only [registerFailure, hredis, if_true]
      rw [hattempts]
      exact hloop
  | false =>
      have hframe : ∀ d (rows : Table LoginThrottleState) d', d' ≠ d →
          counted now (stored env (databaseFailure env settings now d rows).2 d') + 1 =
            counted now (stored env rows d') + 1 := by
        intro d rows d' hne
        rw [stored_databaseFailure, if_neg hne]
      have hattempts : attemptsWith env settings now p = fun d =>
          counted now (stored env p.rows d) + 1 := by
        funext d
        simp only [attemptsWith, hredis, Bool.false_eq_true, if_false]
      have hloop := failures_fst (fun d rows => databaseFailure_fst d rows) hframe hnodup {} p.rows
      simp only [registerFailure, hredis, Bool.false_eq_true, if_false]
      rw [hattempts]
      exact hloop

/-! ### What a failure leaves

A dimension of the failure gets one attempt more and the lock that goes with it.  Every other
dimension is left as it is.
-/

/-- A failure counts up the counters of its dimensions and sets the locks it leads to. -/
theorem entry_failures {dimensions : List String} (hnodup : dimensions.Nodup) (l : Longest)
    (cache : Cache String) (d : String) :
    ((failures (cacheFailure settings now) dimensions l cache).2.entry (attemptsKey d) =
      if d ∈ dimensions then some (nextCounter settings now (cache.entry (attemptsKey d)))
      else cache.entry (attemptsKey d)) ∧
    ((failures (cacheFailure settings now) dimensions l cache).2.entry (lockKey d) =
      if d ∈ dimensions then
        nextLock now (lockSeconds settings (nextCounter settings now
          (cache.entry (attemptsKey d))).1) (cache.entry (lockKey d))
      else cache.entry (lockKey d)) := by
  induction dimensions generalizing l cache with
  | nil => simp [failures]
  | cons d₀ ds ih =>
      obtain ⟨hnew, hds⟩ := List.nodup_cons.mp hnodup
      obtain ⟨hcounter, hlock⟩ := ih hds (l.next d₀ (cacheFailure settings now d₀ cache).1)
        (cacheFailure settings now d₀ cache).2
      simp only [failures]
      rw [hcounter, hlock, cacheFailure_entry, cacheFailure_entry,
        if_neg (attemptsKey_ne_lockKey d d₀)]
      by_cases hd : d = d₀
      · subst hd
        rw [if_neg hnew, if_neg hnew, if_pos List.mem_cons_self, if_pos List.mem_cons_self,
          if_pos rfl, if_pos rfl]
        exact ⟨rfl, rfl⟩
      · rw [if_neg fun hkey => hd (attemptsKey_injective hkey),
          if_neg fun hkey => hd (lockKey_injective hkey),
          if_neg (Ne.symm (attemptsKey_ne_lockKey d₀ d))]
        simp only [List.mem_cons, hd, false_or]
        exact ⟨trivial, trivial⟩

/-- A saved row is the count before it. -/
theorem saved_congr {d : String} {row row' : Option LoginThrottleState}
    (hrow : ∀ r, row = some r → r.dimensionHash = stateKey env d)
    (hrow' : ∀ r, row' = some r → r.dimensionHash = stateKey env d)
    (h : counted now row = counted now row') :
    saved env settings now d row = saved env settings now d row' := by
  have hhash : ∀ r : Option LoginThrottleState,
      (∀ s, r = some s → s.dimensionHash = stateKey env d) →
        (saved env settings now d r).dimensionHash = stateKey env d := by
    intro r hr
    rw [saved, failed_dimensionHash]
    cases r with
    | none => rfl
    | some s => exact hr s rfl
  have hupdated : ∀ r, (saved env settings now d r).updatedAt = now := fun _ => rfl
  ext1
  · rw [hhash row hrow, hhash row' hrow']
  · rw [saved_attemptCount, saved_attemptCount, h]
  · rw [saved_lockedUntil, saved_lockedUntil, h]
  · rw [saved_expiresAt, saved_expiresAt]
  · rw [hupdated, hupdated]

theorem stored_hash {rows : Table LoginThrottleState} {d : String} :
    ∀ r, stored env rows d = some r → r.dimensionHash = stateKey env d :=
  fun _ h => Table.pk_of_get? h

/-! ### Checks

A check looks at locks alone, and of these at the ones still to come.
-/

/-- Until when a row locks its dimension, seen from now on. -/
def lockAhead (now : Int) (row : Option LoginThrottleState) : Option Int :=
  (row.bind fun row => row.lockedUntil).filter fun t => now < t

/-- A check in the database sees nothing but the locks ahead of its dimensions. -/
theorem checkDatabase_congr {rows rows' : Table LoginThrottleState} {dimensions : List String}
    (h : ∀ d ∈ dimensions, lockAhead now (stored env rows d) = lockAhead now (stored env rows' d)) :
    checkDatabase env now rows dimensions = checkDatabase env now rows' dimensions := by
  have hahead : ∀ (rows : Table LoginThrottleState) d t,
      lockedUntil env rows d = some t ∧ now < t ↔ lockAhead now (stored env rows d) = some t := by
    intro rows d t
    rw [lockAhead, Option.filter_eq_some_iff, decide_eq_true_eq]
    rfl
  have hmem : ∀ t, t ∈ lockedUntilValues env now rows dimensions ↔
      t ∈ lockedUntilValues env now rows' dimensions := by
    intro t
    simp only [mem_lockedUntilValues, hahead]
    refine exists_congr fun d => and_congr_right fun hd => ?_
    rw [h d hd]
  have hmax : (lockedUntilValues env now rows dimensions).foldl
        (fun r t => max r (max 1 ((t - now) / 1000000))) 0 =
      (lockedUntilValues env now rows' dimensions).foldl
        (fun r t => max r (max 1 ((t - now) / 1000000))) 0 := by
    refine eq_of_forall_ge_iff fun m => ?_
    rw [foldl_max_le_iff fun t => (t - now) / 1000000,
      foldl_max_le_iff fun t => (t - now) / 1000000]
    simp only [hmem]
  simp only [checkDatabase, hmax]

/-- A check in the cache sees nothing but the lock entries of its dimensions. -/
theorem checkCache_congr {cache cache' : Cache String} {dimensions : List String}
    (h : ∀ d ∈ dimensions, cache.entry (lockKey d) = cache'.entry (lockKey d)) :
    checkCache settings now cache dimensions = checkCache settings now cache' dimensions := by
  have hfold : ∀ r : Int, dimensions.foldl (fun retryAfter dimension =>
        if (cache.get now (lockKey dimension)).any fun value => value ≠ 0 then
          max retryAfter (if ttl now cache (lockKey dimension) ≠ 0 then
            ttl now cache (lockKey dimension) else settings.loginLockoutSeconds)
        else retryAfter) r =
      dimensions.foldl (fun retryAfter dimension =>
        if (cache'.get now (lockKey dimension)).any fun value => value ≠ 0 then
          max retryAfter (if ttl now cache' (lockKey dimension) ≠ 0 then
            ttl now cache' (lockKey dimension) else settings.loginLockoutSeconds)
        else retryAfter) r := by
    intro r
    refine List.foldl_ext _ _ r fun r d hd => ?_
    have hlive : cache.live? now (lockKey d) = cache'.live? now (lockKey d) := by
      rw [Cache.live?, h d hd, Cache.live?]
    unfold Cache.get ttl Cache.remaining
    rw [hlive]
  simp only [checkCache, hfold]

/-! ### Two protections

Rows that count for nothing may differ or be missing.  The relation says from when on, so that
it holds all the more as time passes, and calls keep it.
-/

/-- Two rows of a dimension that no call from `clock` on tells apart. -/
def Alike (clock : Int) (row row' : Option LoginThrottleState) : Prop :=
  ∀ now, clock ≤ now → counted now row = counted now row' ∧ lockAhead now row = lockAhead now row'

/-- Two protections no call from `clock` on tells apart by what they have of a dimension. -/
structure AlikeAt (env : Environment) (clock : Int) (d : String) (p p' : Protection) : Prop where
  rows : Alike clock (stored env p.rows d) (stored env p'.rows d)
  attempts : p.cache.entry (attemptsKey d) = p'.cache.entry (attemptsKey d)
  lock : p.cache.entry (lockKey d) = p'.cache.entry (lockKey d)

namespace AlikeAt

variable {clock : Int} {d : String} {p p' : Protection}

theorem refl (p : Protection) : AlikeAt env clock d p p := ⟨fun _ _ => ⟨rfl, rfl⟩, rfl, rfl⟩

theorem later (h : AlikeAt env clock d p p') (hle : clock ≤ now) : AlikeAt env now d p p' :=
  ⟨fun t ht => h.rows t (by omega), h.attempts, h.lock⟩

theorem attemptsWith_eq (h : AlikeAt env now d p p') :
    attemptsWith env settings now p d = attemptsWith env settings now p' d := by
  simp only [attemptsWith, h.attempts, (h.rows now (Int.le_refl now)).1]

/-- A failure leaves the same row of its dimensions. -/
theorem stored_eq (hdb : settings.redisEnabled = false) {identifier : String} {ip : Option String}
    (h : AlikeAt env now d p p') (hd : d ∈ dimensions env identifier ip) :
    stored env (registerFailure env settings now p identifier ip).2.rows d =
      stored env (registerFailure env settings now p' identifier ip).2.rows d := by
  rw [stored_registerFailure hdb, stored_registerFailure hdb, if_pos hd, if_pos hd,
    saved_congr stored_hash stored_hash (h.rows now (Int.le_refl now)).1]

theorem registerFailure {identifier : String} {ip : Option String} (h : AlikeAt env now d p p') :
    AlikeAt env now d (registerFailure env settings now p identifier ip).2
      (LoginProtectionService.registerFailure env settings now p' identifier ip).2 := by
  have hnodup := @nodup_dimensions env identifier ip
  cases hredis : settings.redisEnabled with
  | true =>
      obtain ⟨hcounter, hlock⟩ := @entry_failures settings now _ hnodup {} p.cache d
      obtain ⟨hcounter', hlock'⟩ := @entry_failures settings now _ hnodup {} p'.cache d
      simp only [LoginProtectionService.registerFailure, hredis, if_true]
      refine ⟨h.rows, hcounter.trans ?_, hlock.trans ?_⟩
      · rw [h.attempts]
        exact hcounter'.symm
      · rw [h.attempts, h.lock]
        exact hlock'.symm
  | false =>
      have hcache : ∀ q : Protection,
          (LoginProtectionService.registerFailure env settings now q identifier ip).2.cache =
            q.cache := by
        intro q
        simp only [LoginProtectionService.registerFailure, hredis, Bool.false_eq_true, if_false]
      refine ⟨?_, ?_, ?_⟩
      · by_cases hd : d ∈ dimensions env identifier ip
        · rw [h.stored_eq hredis hd]
          exact fun _ _ => ⟨rfl, rfl⟩
        · rw [stored_registerFailure hredis, stored_registerFailure hredis, if_neg hd, if_neg hd]
          exact h.rows
      · rw [hcache, hcache]
        exact h.attempts
      · rw [hcache, hcache]
        exact h.lock

theorem reset {identifier : String} {ip : Option String} (h : AlikeAt env clock d p p') :
    AlikeAt env clock d (reset env settings p identifier ip)
      (LoginProtectionService.reset env settings p' identifier ip) := by
  cases hredis : settings.redisEnabled with
  | true =>
      obtain ⟨hcounter, hlock⟩ := @entry_reset env settings hredis p identifier ip d
      obtain ⟨hcounter', hlock'⟩ := @entry_reset env settings hredis p' identifier ip d
      have hrows : ∀ q : Protection,
          (LoginProtectionService.reset env settings q identifier ip).rows = q.rows := by
        intro q
        simp only [LoginProtectionService.reset, hredis, if_true]
      refine ⟨?_, ?_, ?_⟩
      · rw [hrows, hrows]
        exact h.rows
      · rw [hcounter, hcounter', h.attempts]
      · rw [hlock, hlock', h.lock]
  | false =>
      have hcache : ∀ q : Protection,
          (LoginProtectionService.reset env settings q identifier ip).cache = q.cache := by
        intro q
        simp only [LoginProtectionService.reset, hredis, Bool.false_eq_true, if_false]
      refine ⟨?_, ?_, ?_⟩
      · rw [stored_reset hredis, stored_reset hredis]
        by_cases hd : d ∈ dimensions env identifier ip
        · rw [if_pos hd, if_pos hd]
          exact fun _ _ => ⟨rfl, rfl⟩
        · rw [if_neg hd, if_neg hd]
          exact h.rows
      · rw [hcache, hcache]
        exact h.attempts
      · rw [hcache, hcache]
        exact h.lock

end AlikeAt

variable {p p' : Protection} {identifier : String} {ip : Option String}

theorem check_congr (h : ∀ d ∈ dimensions env identifier ip, AlikeAt env now d p p') :
    check env settings now p identifier ip = check env settings now p' identifier ip := by
  have hrows := @checkDatabase_congr env now p.rows p'.rows (dimensions env identifier ip)
    fun d hd => ((h d hd).rows now (Int.le_refl now)).2
  have hcache := @checkCache_congr settings now p.cache p'.cache (dimensions env identifier ip)
    fun d hd => (h d hd).lock
  simp only [check, hrows, hcache]

theorem registerFailure_congr (h : ∀ d ∈ dimensions env identifier ip, AlikeAt env now d p p') :
    (registerFailure env settings now p identifier ip).1 =
      (registerFailure env settings now p' identifier ip).1 := by
  rw [registerFailure_fst, registerFailure_fst,
    longestOf_congr fun d hd => (h d hd).attemptsWith_eq]

end LoginProtectionService

end DjangoFoundation
