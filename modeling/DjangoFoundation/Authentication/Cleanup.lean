/-
`cleanup_tokens` (`apps/authentication/tasks.py`), and runs of what it and
`cleanup_login_attempts` clean up after: one-time tokens, refresh tokens and the login
protection.

Refresh tokens are the JWT package's.  It keeps a row for each it signs, with the expiry
the token carries, and one for each it has blacklisted.  `ROTATE_REFRESH_TOKENS` and
`BLACKLIST_AFTER_ROTATION` are on.
-/
import DjangoFoundation.Lib.Run
import DjangoFoundation.Security.Services
import DjangoFoundation.Api.Views

namespace DjangoFoundation

/-- The refresh tokens of the JWT package. -/
structure RefreshTokens where
  /-- What a raw token says of itself where its signature is right. -/
  claims : (raw : String) → Option OutstandingToken
  /-- `exp` is over. -/
  expired : (exp now : Int) → Bool
  expired_of_lt : ∀ exp now, exp < now → expired exp now = true
  /-- What a rotation leaves where it draws `token`. -/
  outstand : Database → (token : OutstandingToken) → Database
  outstand_eq : ∀ db token, outstand db token =
    { db with outstandingTokens := db.outstandingTokens.ensure token }
  /-- What it leaves where it blacklists `token`. -/
  blacklist : Database → (token : OutstandingToken) → Database
  blacklist_eq : ∀ db token, blacklist db token =
    { db with
      outstandingTokens := db.outstandingTokens.ensure token
      blacklistedTokens := db.blacklistedTokens.ensure ⟨token.jti⟩ }

/-- Tokens that are their own claims, accepted before `exp`. -/
def RefreshTokens.plain : RefreshTokens where
  claims raw := some { jti := raw, user := 1, expiresAt := seconds 10 }
  expired exp now := exp ≤ now
  expired_of_lt exp now h := by simpa using Int.le_of_lt h
  outstand db token := { db with outstandingTokens := db.outstandingTokens.ensure token }
  outstand_eq _ _ := rfl
  blacklist db token := { db with
    outstandingTokens := db.outstandingTokens.ensure token
    blacklistedTokens := db.blacklistedTokens.ensure ⟨token.jti⟩ }
  blacklist_eq _ _ := rfl

namespace RefreshTokens

variable (tokens : RefreshTokens) (now : Int)

/-- The claims of a token that is signed and not expired. -/
def verified (raw : String) : Option OutstandingToken :=
  (tokens.claims raw).filter fun token => !tokens.expired token.expiresAt now

/-- `RefreshToken(raw)`; access tokens are no part of this. -/
def jwt : Jwt where
  access _ _ := none
  refresh now raw := (tokens.verified now raw).map fun token => (token.jti, token.user)

@[simp] theorem jwt_refresh (raw : String) : tokens.jwt.refresh now raw =
    (tokens.verified now raw).map fun token => (token.jti, token.user) := rfl

/-- `TokenRefreshSerializer.validate`: a token it accepts of an active user is blacklisted, and
the one drawn for it is outstanding. -/
def rotate (db : Database) (raw newRaw : String) : Database :=
  match tokens.verified now raw with
  | none => db
  | some token =>
      if (db.blacklistedTokens.get? token.jti).isSome then db
      else if (db.users.get? token.user).any fun user => user.isActive then
        let db := tokens.blacklist db token
        match tokens.claims newRaw with
        | none => db
        | some new => tokens.outstand db new
      else db

end RefreshTokens

/-- `cleanup_tokens`, with the number of rows it deletes. -/
def cleanupTokens (retentionDays : Nat) (now : Int) (db : Database) : Nat × Database :=
  let cutoff := now - seconds (86400 * retentionDays)
  let expiredOutstanding := fun token : OutstandingToken => token.expiresAt < now
  let oneTimeTokens := db.oneTimeTokens.delete fun token => token.expiresAt < cutoff
  let blacklistedTokens := db.blacklistedTokens.delete fun blacklisted =>
    (db.outstandingTokens.get? blacklisted.token).any expiredOutstanding
  let outstandingTokens := db.outstandingTokens.delete expiredOutstanding
  ((db.oneTimeTokens.rows.length - oneTimeTokens.rows.length) +
      (db.blacklistedTokens.rows.length - blacklistedTokens.rows.length) +
      (db.outstandingTokens.rows.length - outstandingTokens.rows.length),
    { db with
      oneTimeTokens := oneTimeTokens
      blacklistedTokens := blacklistedTokens
      outstandingTokens := outstandingTokens })

/-! ### Runs -/

namespace Cleanup

open LoginProtectionService

inductive Call
  | issue (user : UUID) (purpose : TokenPurpose) (ttl : Int) (metadata : List (String × String))
      (raw : String)
  | consume (rawToken : String) (purpose : TokenPurpose)
  /-- `RefreshToken.for_user`, with the token it signs. -/
  | forUser (raw : String)
  | refresh (raw newRaw : String)
  /-- The refresh token sent to the logout view. -/
  | logout (raw : String)
  | revokeAllJwt (user : UUID)
  | check (identifier : String) (ipAddress : Option String)
  | registerFailure (identifier : String) (ipAddress : Option String)
  | reset (identifier : String) (ipAddress : Option String)
  | cleanupTokens
  | cleanupLoginAttempts

def Call.isCleanup : Call → Bool
  | .cleanupTokens => true
  | .cleanupLoginAttempts => true
  | _ => false

/-- The tables, and what has been drawn so far: the hashes of one-time tokens, and the refresh
tokens signed. -/
structure State where
  clock : Int
  db : Database
  protection : Protection
  hashes : List String
  signed : List OutstandingToken

/-- Any tables, and nothing counted yet. -/
def State.init (clock : Int) (db : Database) : State where
  clock := clock
  db := db
  protection := {}
  hashes := db.oneTimeTokens.rows.map OneTimeToken.tokenHash
  signed := db.outstandingTokens.rows

/-- What a call answers. -/
inductive Answer
  | issued (ok : Bool)
  | consumed (token : Except Exception OneTimeToken)
  | refreshed (user : Except Refusal User)
  | loggedOut (ok : Bool)
  | checked (state : LockoutState)
  | failed (state : LockoutState) (attempts : List (Option Nat))
  | done

variable (env : Environment) (tokens : RefreshTokens) (settings : LoginSettings)
  (retentionDays : Nat) (now : Int)

/-- The attempts a dimension is at. -/
def attemptCount (p : Protection) (dimension : String) : Option Nat :=
  if settings.redisEnabled then p.cache.get now (attemptsKey dimension)
  else (p.rows.get? (stateKey env dimension)).map LoginThrottleState.attemptCount

def Call.run (s : State) : Call → State
  | .issue user purpose ttl metadata raw => { s with
      db := s.db.committed (TokenService.issue env now s.db user purpose ttl metadata raw)
      hashes := TokenService.tokenHash env raw purpose :: s.hashes }
  | .consume rawToken purpose => { s with
      db := s.db.committed
        ((TokenService.consume env now s.db rawToken purpose).map Prod.snd) }
  | .forUser raw =>
      match tokens.claims raw with
      | none => s
      | some token => { s with
          db := tokens.outstand s.db token
          signed := token :: s.signed }
  | .refresh raw newRaw => { s with
      db := tokens.rotate now s.db raw newRaw
      signed := (tokens.claims newRaw).toList ++ s.signed }
  | .logout raw => { s with db := s.db.committed (blacklistRefresh tokens.jwt now s.db (some raw)) }
  | .revokeAllJwt user => { s with db := TokenService.revokeAllJwt s.db user }
  | .check _ _ => s
  | .registerFailure identifier ip =>
      { s with
        protection :=
          (LoginProtectionService.registerFailure env settings now s.protection identifier ip).2 }
  | .reset identifier ip =>
      { s with protection := LoginProtectionService.reset env settings s.protection identifier ip }
  | .cleanupTokens => { s with db := (DjangoFoundation.cleanupTokens retentionDays now s.db).2 }
  | .cleanupLoginAttempts =>
      { s with protection := DjangoFoundation.cleanupLoginAttempts now s.protection }

/-- A cleanup answers nothing. -/
def Call.answer (s : State) : Call → Option Answer
  | .issue user purpose ttl metadata raw =>
      some (.issued (TokenService.issue env now s.db user purpose ttl metadata raw).toOption.isSome)
  | .consume rawToken purpose =>
      some (.consumed ((TokenService.consume env now s.db rawToken purpose).map Prod.fst))
  | .refresh raw _ => some (.refreshed (refreshed tokens.jwt now s.db raw))
  | .logout raw =>
      some (.loggedOut (blacklistRefresh tokens.jwt now s.db (some raw)).toOption.isSome)
  | .check identifier ip =>
      some (.checked (LoginProtectionService.check env settings now s.protection identifier ip))
  | .registerFailure identifier ip =>
      let (state, protection) :=
        LoginProtectionService.registerFailure env settings now s.protection identifier ip
      some (.failed state ((dimensions env identifier ip).map
        (attemptCount env settings now protection)))
  | .forUser _ => some .done
  | .revokeAllJwt _ => some .done
  | .reset _ _ => some .done
  | .cleanupTokens => none
  | .cleanupLoginAttempts => none

/-- Only the server signs tokens. -/
def State.known (s : State) (raw : String) : Bool :=
  (tokens.claims raw).all fun token => token ∈ s.signed

/-- A token is signed with an identifier of its own. -/
def State.unsigned (s : State) (raw : String) : Bool :=
  (tokens.claims raw).any fun token => s.signed.all fun other => other.jti ≠ token.jti

/-- What a call draws at random was not drawn before, and what it is sent was. -/
def Call.possible (s : State) : Call → Bool
  | .issue _ purpose _ _ raw => TokenService.tokenHash env raw purpose ∉ s.hashes
  | .forUser raw => s.unsigned tokens raw
  | .refresh raw newRaw => s.known tokens raw && s.unsigned tokens newRaw
  | .logout raw => s.known tokens raw
  | _ => true

def step (s : State) (e : Int × Call) : Option State :=
  if s.clock ≤ e.1 ∧ e.2.possible env tokens s then
    some { e.2.run env tokens settings retentionDays e.1 s with clock := e.1 }
  else none

def answers (s : State) (e : Int × Call) : Option Answer :=
  e.2.answer env tokens settings e.1 s

end Cleanup

end DjangoFoundation
