/-
`LoginProtectionService` (`apps/security/services.py`), over `LoginThrottleState` and over
the cache.

A request counts on three dimensions: its identifier, its address, and both together.
The database keeps a row for each, the cache two entries: a counter and a lock.
-/
import DjangoFoundation.Lib.Cache
import DjangoFoundation.Authentication.Backends

namespace DjangoFoundation

structure LoginThrottleState where
  dimensionHash : String
  attemptCount : Nat := 0
  lockedUntil : Option Int := none
  expiresAt : Int
  updatedAt : Int := 0
  deriving DecidableEq, Repr

instance : Keyed LoginThrottleState String := ⟨LoginThrottleState.dimensionHash⟩

/-- The settings of a login, with their defaults. -/
structure LoginSettings where
  redisEnabled : Bool := false
  loginMaxAttempts : Int := 5
  loginLockoutSeconds : Int := 300
  loginMaxBackoffSeconds : Int := 3600
  enableTwoFactor : Bool := true

/-- Both places the counters can be kept in; a run uses one of them. -/
structure Protection where
  rows : Table LoginThrottleState := ∅
  cache : Cache String := ∅

structure LockoutState where
  locked : Bool
  retryAfter : Int := 0
  accountLocked : Bool := false
  deriving DecidableEq, Repr

variable (env : Environment) (settings : LoginSettings) (now : Int)

namespace LoginProtectionService

/-! ### Dimensions -/

/-- `_digest`. -/
def digest (value : String) : String :=
  env.keyring.sha256 (encode (String.ofList (env.unicode.casefold (env.unicode.strip value.toList))))

/-- `_dimensions`; an empty address is no address. -/
def dimensions (identifier : String) (ipAddress : Option String) : List String :=
  let identifierHash := digest env identifier
  let ipHash := digest env ((ipAddress.filter fun ip => ip ≠ "").getD "unknown")
  ["id:" ++ identifierHash, "ip:" ++ ipHash, "combo:" ++ identifierHash ++ ":" ++ ipHash]

/-- `dimension.startswith("id:")`. -/
def isIdentifier (dimension : String) : Bool := "id:".toList.isPrefixOf dimension.toList

/-- `_state_key`. -/
def stateKey (dimension : String) : String :=
  env.keyring.sha256 (encode ("login-protection:" ++ dimension))

def attemptsKey (dimension : String) : String := "login-protection:attempts:" ++ dimension

def lockKey (dimension : String) : String := "login-protection:lock:" ++ dimension

/-! ### Check -/

/-- `cache.ttl(key)`: whole seconds, to the nearest. -/
def ttl (cache : Cache String) (key : String) : Int :=
  match cache.remaining now key with
  | none => 0
  | some left => (left + 500000) / 1000000

/-- `_check_cache`. -/
def checkCache (cache : Cache String) (dimensions : List String) : LockoutState :=
  let retryAfter := dimensions.foldl (fun retryAfter dimension =>
    let ttl := ttl now cache (lockKey dimension)
    if (cache.get now (lockKey dimension)).any fun value => value ≠ 0 then
      max retryAfter (if ttl ≠ 0 then ttl else settings.loginLockoutSeconds)
    else retryAfter) 0
  { locked := retryAfter ≠ 0, retryAfter := retryAfter }

/-- The `locked_until` of the rows of some dimensions, where it is to come. -/
def lockedUntilValues (rows : Table LoginThrottleState) (dimensions : List String) : List Int :=
  let hashes := dimensions.map (stateKey env)
  rows.rows.filterMap fun row =>
    if row.dimensionHash ∈ hashes then row.lockedUntil.filter fun t => now < t else none

/-- `_check_database`. -/
def checkDatabase (rows : Table LoginThrottleState) (dimensions : List String) : LockoutState :=
  let retryAfter := (lockedUntilValues env now rows dimensions).foldl
    (fun retryAfter lockedUntil => max retryAfter (max 1 ((lockedUntil - now) / 1000000))) 0
  { locked := retryAfter ≠ 0, retryAfter := retryAfter }

def check (p : Protection) (identifier : String) (ipAddress : Option String) : LockoutState :=
  let dimensions := dimensions env identifier ipAddress
  if settings.redisEnabled then checkCache settings now p.cache dimensions
  else checkDatabase env now p.rows dimensions

/-! ### Register a failure -/

/-- `_lock_seconds`. -/
def lockSeconds (attempts : Nat) : Int :=
  if (attempts : Int) < settings.loginMaxAttempts then 0
  else
    let exponent := min ((attempts : Int) - settings.loginMaxAttempts) 6
    min (settings.loginLockoutSeconds * 2 ^ exponent.toNat) settings.loginMaxBackoffSeconds

/-- How long a failure counts. -/
def window : Int := seconds settings.loginMaxBackoffSeconds

/-- The counter after one more failure, as the cache counts it. -/
def countAttempt (cache : Cache String) (key : String) : Nat × Cache String :=
  match cache.add now key 1 (window settings) with
  | some cache => (1, cache)
  | none =>
      match cache.incr now key with
      | some (attempts, cache) => (attempts, cache)
      | none => (1, cache.set now key 1 (window settings))

/-- A failure on one dimension in the cache, with the lock it leads to. -/
def cacheFailure (dimension : String) (cache : Cache String) : Int × Cache String :=
  let (attempts, cache) := countAttempt settings now cache (attemptsKey dimension)
  let lockSeconds := lockSeconds settings attempts
  (lockSeconds,
    if lockSeconds ≠ 0 then cache.set now (lockKey dimension) 1 (seconds lockSeconds) else cache)

/-- The row of a dimension after one more failure, and the lock that leads to. -/
def failed (state : LoginThrottleState) : Int × LoginThrottleState :=
  let state := if state.expiresAt ≤ now then
      { state with attemptCount := 0, lockedUntil := none }
    else state
  let attemptCount := state.attemptCount + 1
  let lockSeconds := lockSeconds settings attemptCount
  (lockSeconds, { state with
    attemptCount := attemptCount
    lockedUntil := if lockSeconds ≠ 0 then some (now + seconds lockSeconds) else none
    expiresAt := now + window settings
    updatedAt := now })

/-- A failure on one dimension in the database. -/
def databaseFailure (dimension : String) (rows : Table LoginThrottleState) :
    Int × Table LoginThrottleState :=
  let created : LoginThrottleState :=
    { dimensionHash := stateKey env dimension, expiresAt := now + window settings }
  let (lockSeconds, saved) :=
    failed settings now ((rows.get? created.dimensionHash).getD created)
  (lockSeconds, (rows.ensure created).modify created.dimensionHash fun row => { row with
    attemptCount := saved.attemptCount
    lockedUntil := saved.lockedUntil
    expiresAt := saved.expiresAt
    updatedAt := saved.updatedAt })

/-- The longest locks a failure has led to so far, on any dimension and on the
identifier's. -/
structure Longest where
  longest : Int := 0
  accountLongest : Int := 0
  deriving DecidableEq

def Longest.next (l : Longest) (dimension : String) (lockSeconds : Int) : Longest :=
  if lockSeconds = 0 then l
  else
    { longest := max l.longest lockSeconds
      accountLongest :=
        if isIdentifier dimension then max l.accountLongest lockSeconds else l.accountLongest }

def Longest.state (l : Longest) : LockoutState where
  locked := l.longest ≠ 0
  retryAfter := l.longest
  accountLocked := l.accountLongest ≠ 0

/-- The loop over the dimensions, which both backends have. -/
def failures {σ : Type} (failure : String → σ → Int × σ) :
    List String → Longest → σ → LockoutState × σ
  | [], l, s => (l.state, s)
  | dimension :: dimensions, l, s =>
      let (lockSeconds, s) := failure dimension s
      failures failure dimensions (l.next dimension lockSeconds) s

/-- `_register_cache_failure`. -/
def registerCacheFailure (cache : Cache String) (dimensions : List String) :
    LockoutState × Cache String :=
  failures (cacheFailure settings now) dimensions {} cache

/-- `_register_database_failure`. -/
def registerDatabaseFailure (rows : Table LoginThrottleState) (dimensions : List String) :
    LockoutState × Table LoginThrottleState :=
  failures (databaseFailure env settings now) dimensions {} rows

def registerFailure (p : Protection) (identifier : String) (ipAddress : Option String) :
    LockoutState × Protection :=
  let dimensions := dimensions env identifier ipAddress
  if settings.redisEnabled then
    let (state, cache) := registerCacheFailure settings now p.cache dimensions
    (state, { p with cache := cache })
  else
    let (state, rows) := registerDatabaseFailure env settings now p.rows dimensions
    (state, { p with rows := rows })

/-! ### Reset -/

def reset (p : Protection) (identifier : String) (ipAddress : Option String) : Protection :=
  let dimensions := dimensions env identifier ipAddress
  if settings.redisEnabled then
    { p with cache := p.cache.deleteMany (dimensions.map attemptsKey ++ dimensions.map lockKey) }
  else
    let hashes := dimensions.map (stateKey env)
    { p with rows := p.rows.delete fun row => row.dimensionHash ∈ hashes }

/-! ### The account's own lock -/

/-- `.first()` in the users' order, latest creation first. -/
def newest : List User → Option User
  | [] => none
  | user :: users =>
      match newest users with
      | none => some user
      | some other => if user.createdAt < other.createdAt then some other else some user

def lockKnownAccount (db : Database) (identifier : String) (retryAfter : Int) (client : Client) :
    Database :=
  match newest (db.identified env identifier) with
  | none => db
  | some user =>
      let securitySettings := db.securitySettings.ensure { user := user.pk }
      let wasLocked := (securitySettings.get? user.pk).any fun row => row.isLocked now
      let db := { db with
        securitySettings := securitySettings.modify user.pk fun row =>
          { row with lockedUntil := some (now + seconds retryAfter) } }
      if wasLocked then db
      else
        let db := db.record { eventType := .accountLocked, user := some user.pk, client := client }
        let preferences := db.preferences.ensure { user := user.pk }
        let db := { db with preferences := preferences }
        if (preferences.get? user.pk).any fun row => row.securityEmails then
          db.email "account_locked" user.email
        else db

end LoginProtectionService

/-- `cleanup_login_attempts` (`apps/security/tasks.py`). -/
def cleanupLoginAttempts (p : Protection) : Protection :=
  { p with rows := p.rows.delete fun row => row.expiresAt < now }

end DjangoFoundation
