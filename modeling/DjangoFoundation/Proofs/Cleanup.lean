/-
Cleaning up changes no answer.

The same calls are made twice, once with the cleanup tasks among them.  What the tasks
have taken out of the tables by then is dead (`Cleaned`): tokens past their expiry, which
no call accepts any more, the blacklist entries of such, and throttle rows that count as
none.  A call answers alike in both, and what it writes leaves the dead dead; a cleanup
only takes out rows that are, since a row never expires before the lock it holds.

One relation carries the whole: each call keeps it, and so does each cleanup, early or late.
-/
import DjangoFoundation.Lib.Prune
import DjangoFoundation.Authentication.Cleanup
import DjangoFoundation.Proofs.Logins.Counters
import DjangoFoundation.Proofs.Logins.Locks
import DjangoFoundation.Proofs.Passwords.Writes

namespace DjangoFoundation

open Run LoginProtectionService TokenService

variable {env : Environment} {tokens : RefreshTokens} {settings : LoginSettings}
  {retentionDays : Nat} {now : Int}

/-! ### Throttle rows

A throttle row is only looked at by what it says at the time.  Once it has expired it counts as
none, and it is deleted no earlier.
-/

namespace LoginProtectionService

theorem AlikeAt.trans {clock : Int} {d : String} {p q r : Protection} (h : AlikeAt env clock d p q)
    (h' : AlikeAt env clock d q r) : AlikeAt env clock d p r where
  rows t ht := ⟨(h.rows t ht).1.trans (h'.rows t ht).1, (h.rows t ht).2.trans (h'.rows t ht).2⟩
  attempts := h.attempts.trans h'.attempts
  lock := h.lock.trans h'.lock

/-- A row that has expired counts for nothing from then on, and its lock is over. -/
theorem alikeAt_cleanup {p : Protection} (h : LocksExpire env p.rows) (d : String) :
    AlikeAt env now d p (cleanupLoginAttempts now p) := by
  refine ⟨fun t ht => ?_, rfl, rfl⟩
  rw [stored_cleanup]
  cases hrow : stored env p.rows d with
  | none => exact ⟨rfl, rfl⟩
  | some row =>
      by_cases hexpired : row.expiresAt < now
      · rw [Option.filter_some_neg (by simpa using hexpired)]
        constructor
        · show (if row.expiresAt ≤ t then 0 else row.attemptCount) = 0
          rw [if_pos (by omega)]
        · show row.lockedUntil.filter _ = none
          cases hlock : row.lockedUntil with
          | none => rfl
          | some u =>
              have hle := h d row u hrow hlock
              have hover : u ≤ t := by omega
              exact Option.filter_some_neg (by simpa using hover)
      · rw [Option.filter_some_pos (by simpa using hexpired)]
        exact ⟨rfl, rfl⟩

end LoginProtectionService

theorem LocksExpire.registerFailure {p : Protection} (h : LocksExpire env p.rows)
    (identifier : String) (ip : Option String) :
    LocksExpire env (registerFailure env settings now p identifier ip).2.rows := by
  cases hredis : settings.redisEnabled with
  | true =>
      simp only [LoginProtectionService.registerFailure, hredis, if_true]
      exact h
  | false =>
      intro d row t hrow ht
      rw [stored_registerFailure hredis] at hrow
      by_cases hd : d ∈ dimensions env identifier ip
      · rw [if_pos hd, Option.some.injEq] at hrow
        subst hrow
        exact saved_lock_le ht
      · rw [if_neg hd] at hrow
        exact h d row t hrow ht

theorem LocksExpire.reset {p : Protection} (h : LocksExpire env p.rows) (identifier : String)
    (ip : Option String) : LocksExpire env (reset env settings p identifier ip).rows := by
  cases hredis : settings.redisEnabled with
  | true =>
      simp only [LoginProtectionService.reset, hredis, if_true]
      exact h
  | false =>
      intro d row t hrow ht
      rw [stored_reset hredis] at hrow
      by_cases hd : d ∈ dimensions env identifier ip
      · rw [if_pos hd] at hrow
        cases hrow
      · rw [if_neg hd] at hrow
        exact h d row t hrow ht

/-! ### What has been cleaned up

What is missing on one side is described by time: everything dead may be missing, whether or
not a cleanup has come by.  So a cleanup needs no bookkeeping, and time passing only makes more
of it dead.
-/

namespace Cleanup

/-- A refresh token past its expiry. -/
def Over (clock : Int) (token : OutstandingToken) : Prop := token.expiresAt < clock

/-- A one-time token past its expiry. -/
def Expired (clock : Int) (token : OneTimeToken) : Prop := token.expiresAt < clock

/-- The blacklist entry of one of some refresh tokens, past its expiry. -/
def Moot (signed : List OutstandingToken) (clock : Int) (row : BlacklistedToken) : Prop :=
  ∃ token ∈ signed, token.jti = row.token ∧ Over clock token

/-- The second state is the first but for what can be cleaned up by its time. -/
structure Cleaned (env : Environment) (s t : State) : Prop where
  clock : s.clock ≤ t.clock
  users : t.db.users = s.db.users
  bans : t.db.bans = s.db.bans
  hashes : t.hashes = s.hashes
  signed : t.signed = s.signed
  oneTime : Table.Pruned (Expired t.clock) s.db.oneTimeTokens t.db.oneTimeTokens
  outstanding : Table.Pruned (Over t.clock) s.db.outstandingTokens t.db.outstandingTokens
  blacklisted : Table.Pruned (Moot s.signed t.clock) s.db.blacklistedTokens t.db.blacklistedTokens
  protection : ∀ d, AlikeAt env t.clock d s.protection t.protection
  hashed : ∀ token ∈ s.db.oneTimeTokens, token.tokenHash ∈ s.hashes
  rows : ∀ token ∈ s.db.outstandingTokens, token ∈ s.signed
  distinct : ∀ a ∈ s.signed, ∀ b ∈ s.signed, a.jti = b.jti → a = b
  expire : LocksExpire env t.protection.rows

theorem Cleaned.init (clock : Int) (db : Database) :
    Cleaned env (.init clock db) (.init clock db) where
  clock := Int.le_refl clock
  users := rfl
  bans := rfl
  hashes := rfl
  signed := rfl
  oneTime := .refl _
  outstanding := .refl _
  blacklisted := .refl _
  protection _ := .refl _
  hashed _ htoken := List.mem_map_of_mem htoken
  rows _ h := h
  distinct _ ha _ hb hjti := Table.eq_of_pk_eq ha hb hjti
  expire := .empty

/-- Time passes. -/
theorem Cleaned.later {s t : State} (h : Cleaned env s t) (hle : t.clock ≤ now) :
    Cleaned env { s with clock := now } { t with clock := now } :=
  { h with
    clock := Int.le_refl now
    oneTime := h.oneTime.imp fun _ _ hlt => Int.lt_of_lt_of_le hlt hle
    outstanding := h.outstanding.imp fun _ _ hlt => Int.lt_of_lt_of_le hlt hle
    blacklisted := h.blacklisted.imp fun _ _ ⟨token, htoken, hjti, hlt⟩ =>
      ⟨token, htoken, hjti, Int.lt_of_lt_of_le hlt hle⟩
    protection := fun d => (h.protection d).later hle }

variable {s t : State}

/-! ### One-time tokens

Consuming asks for a token that has not expired, and issuing marks unused tokens of a user,
expired ones included.  Both look the same where expired ones are gone.
-/

/-- A token that can be used is no expired one. -/
theorem Cleaned.usable?_eq (h : Cleaned env s t) (hclock : t.clock = now) (raw : String)
    (purpose : TokenPurpose) :
    usable? env now t.db raw purpose = usable? env now s.db raw purpose := by
  refine h.oneTime.filter_eq fun token _ _ hexpired => ?_
  have hover : ¬token.expiresAt > now := by
    rw [Expired, hclock] at hexpired
    omega
  simp only [OneTimeToken.isUsable, hover, and_false, decide_false, Bool.and_false]

theorem Cleaned.consume (h : Cleaned env s t) (hclock : t.clock = now) (raw : String)
    (purpose : TokenPurpose) :
    (TokenService.consume env now t.db raw purpose).map Prod.fst =
        (TokenService.consume env now s.db raw purpose).map Prod.fst ∧
      Cleaned env
        { s with
          db := s.db.committed
            ((TokenService.consume env now s.db raw purpose).map Prod.snd) }
        { t with
          db := t.db.committed
            ((TokenService.consume env now t.db raw purpose).map Prod.snd) } := by
  unfold TokenService.consume
  rw [h.usable?_eq hclock]
  cases usable? env now s.db raw purpose with
  | none => exact ⟨rfl, h⟩
  | some token =>
      refine ⟨rfl, { h with
        oneTime := h.oneTime.modify token.tokenHash (used_pk now) fun _ hexpired => hexpired
        hashed := ?_ }⟩
      intro other hother
      have hmem : other ∈ s.db.oneTimeTokens.modify token.tokenHash
          (fun t => { t with usedAt := some now }) (used_pk now) := hother
      rcases Table.mem_modify.mp hmem with ⟨a, ha, _, rfl⟩ | ⟨ha, _⟩
      · exact h.hashed a ha
      · exact h.hashed other ha

theorem Cleaned.issue (h : Cleaned env s t) {user : UUID} {purpose : TokenPurpose} {ttl : Int}
    {metadata : List (String × String)} {raw : String}
    (hfresh : tokenHash env raw purpose ∉ s.hashes) :
    (TokenService.issue env now t.db user purpose ttl metadata raw).toOption.isSome =
        (TokenService.issue env now s.db user purpose ttl metadata raw).toOption.isSome ∧
      Cleaned env
        { s with
          db := s.db.committed (TokenService.issue env now s.db user purpose ttl metadata raw)
          hashes := tokenHash env raw purpose :: s.hashes }
        { t with
          db := t.db.committed (TokenService.issue env now t.db user purpose ttl metadata raw)
          hashes := tokenHash env raw purpose :: t.hashes } := by
  unfold TokenService.issue
  have hpruned := h.oneTime.update
    (fun token => token.user = user ∧ token.purpose = purpose ∧ token.usedAt = none)
    (used_pk now) fun _ hexpired => hexpired
  -- the tokens there are keep their hashes, all of them drawn before
  have hupdated : ∀ token ∈ s.db.oneTimeTokens.update
      (fun token => token.user = user ∧ token.purpose = purpose ∧ token.usedAt = none)
      (fun token => { token with usedAt := some now }) (used_pk now),
      token.tokenHash ∈ s.hashes := by
    intro token htoken
    obtain ⟨a, ha, rfl⟩ := Table.mem_update.mp htoken
    split
    · exact h.hashed a ha
    · exact h.hashed a ha
  have hfree : ∀ token ∈ s.db.oneTimeTokens.update
      (fun token => token.user = user ∧ token.purpose = purpose ∧ token.usedAt = none)
      (fun token => { token with usedAt := some now }) (used_pk now),
      token.tokenHash ≠ tokenHash env raw purpose := by
    intro token htoken heq
    exact hfresh (heq ▸ hupdated token htoken)
  obtain ⟨u, hu⟩ := Table.exists_insert? (a := ({
    tokenHash := tokenHash env raw purpose
    user := user
    purpose := purpose
    metadata := metadata
    createdAt := now
    expiresAt := now + ttl } : OneTimeToken)) hfree
  obtain ⟨u', hu', hafter⟩ := hpruned.insert? hu
  simp only [hu, hu']
  refine ⟨rfl, { h with
    hashes := congrArg (tokenHash env raw purpose :: ·) h.hashes
    oneTime := hafter
    hashed := ?_ }⟩
  intro token htoken
  rcases (Table.mem_insert? hu).mp htoken with htoken | rfl
  · exact List.mem_cons_of_mem _ (hupdated token htoken)
  · exact List.mem_cons_self

/-! ### Refresh tokens

A token that is accepted is signed and not expired, and its own blacklist entry is therefore
not among those that can be missing.  Signed tokens have identifiers of their own, so no other
token's entry can be mistaken for it.
-/

/-- What a token that is accepted is known by. -/
theorem verified_known {raw : String} {token : OutstandingToken}
    (hknown : s.known tokens raw = true) (hverified : tokens.verified now raw = some token) :
    token ∈ s.signed ∧ ¬Over now token := by
  obtain ⟨hclaims, hlive⟩ := Option.filter_eq_some_iff.mp hverified
  rw [State.known, hclaims, Option.all_some, decide_eq_true_eq] at hknown
  refine ⟨hknown, fun hover => ?_⟩
  rw [tokens.expired_of_lt _ _ hover] at hlive
  cases hlive

/-- Its own blacklist entry, if there is one, is not moot. -/
theorem Cleaned.blacklisted_eq (h : Cleaned env s t) (hclock : t.clock = now)
    {token : OutstandingToken} (htoken : token ∈ s.signed) (hlive : ¬Over now token) :
    t.db.blacklistedTokens.get? token.jti = s.db.blacklistedTokens.get? token.jti := by
  rcases h.blacklisted token.jti with hsame | ⟨_, row, hrow, other, hother, hjti, hover⟩
  · exact hsame
  · rw [hclock] at hover
    have heq : other = token :=
      h.distinct other hother token htoken (hjti.trans (Table.pk_of_get? hrow))
    exact absurd (heq ▸ hover) hlive

theorem Cleaned.refreshed_eq (h : Cleaned env s t) (hclock : t.clock = now) {raw : String}
    (hknown : s.known tokens raw = true) :
    refreshed tokens.jwt now t.db raw = refreshed tokens.jwt now s.db raw := by
  simp only [refreshed, RefreshTokens.jwt_refresh]
  cases hverified : tokens.verified now raw with
  | none => rfl
  | some token =>
      obtain ⟨htoken, hlive⟩ := verified_known hknown hverified
      simp only [Option.map_some, h.blacklisted_eq hclock htoken hlive, h.users,
        ensureAccountAvailable, h.bans]

/-- A token in force is blacklisted in both. -/
theorem Cleaned.blacklist (h : Cleaned env s t) (hclock : t.clock = now)
    {token : OutstandingToken} (htoken : token ∈ s.signed) (hlive : ¬Over now token) :
    Cleaned env { s with db := tokens.blacklist s.db token }
      { t with db := tokens.blacklist t.db token } := by
  rw [tokens.blacklist_eq, tokens.blacklist_eq]
  have hone : ∀ other ∈ s.signed, other.jti = token.jti → ¬Over t.clock other := by
    intro other hother hjti
    rw [hclock, h.distinct other hother token htoken hjti]
    exact hlive
  refine { h with
    outstanding := h.outstanding.ensure fun other hother hjti =>
      hone other (h.rows other hother) hjti
    blacklisted := h.blacklisted.ensure ?_
    rows := ?_ }
  · intro row _ hrow hmoot
    obtain ⟨other, hother, hjti, hover⟩ := hmoot
    exact hone other hother (hjti.trans hrow) hover
  · intro other hother
    rcases Table.mem_ensure hother with hother | rfl
    · exact h.rows other hother
    · exact htoken

/-- A token signed, and outstanding in neither. -/
theorem Cleaned.draw (h : Cleaned env s t) {token : OutstandingToken}
    (hnew : ∀ other ∈ s.signed, other.jti ≠ token.jti) :
    Cleaned env { s with signed := token :: s.signed } { t with signed := token :: t.signed } :=
  { h with
    signed := congrArg (token :: ·) h.signed
    blacklisted := h.blacklisted.imp fun _ _ ⟨other, hother, hjti, hover⟩ =>
      ⟨other, List.mem_cons_of_mem token hother, hjti, hover⟩
    rows := fun other hother => List.mem_cons_of_mem token (h.rows other hother)
    distinct := by
      intro a ha b hb hjti
      rcases List.mem_cons.mp ha with rfl | holda
      · rcases List.mem_cons.mp hb with rfl | holdb
        · rfl
        · exact absurd hjti.symm (hnew b holdb)
      · rcases List.mem_cons.mp hb with rfl | holdb
        · exact absurd hjti (hnew a holda)
        · exact h.distinct a holda b holdb hjti }

/-- A token that was just signed is outstanding in both. -/
theorem Cleaned.sign (h : Cleaned env s t) {token : OutstandingToken}
    (hnew : ∀ other ∈ s.signed, other.jti ≠ token.jti) :
    Cleaned env
      { s with
        db := tokens.outstand s.db token
        signed := token :: s.signed }
      { t with
        db := tokens.outstand t.db token
        signed := token :: t.signed } := by
  rw [tokens.outstand_eq, tokens.outstand_eq]
  exact { h.draw hnew with
    outstanding := h.outstanding.ensure fun other hother hjti =>
      absurd hjti (hnew other (h.rows other hother))
    rows := by
      intro other hother
      rcases Table.mem_ensure hother with hother | rfl
      · exact List.mem_cons_of_mem token (h.rows other hother)
      · exact List.mem_cons_self }

theorem unsigned_iff {raw : String} : s.unsigned tokens raw = true ↔
    ∃ token, tokens.claims raw = some token ∧ ∀ other ∈ s.signed, other.jti ≠ token.jti := by
  simp only [State.unsigned, Option.any_eq_true, List.all_eq_true, decide_eq_true_eq]

theorem Cleaned.refresh (h : Cleaned env s t) (hclock : t.clock = now) {raw newRaw : String}
    (hknown : s.known tokens raw = true) (hunsigned : s.unsigned tokens newRaw = true) :
    Cleaned env
      { s with
        db := tokens.rotate now s.db raw newRaw
        signed := (tokens.claims newRaw).toList ++ s.signed }
      { t with
        db := tokens.rotate now t.db raw newRaw
        signed := (tokens.claims newRaw).toList ++ t.signed } := by
  obtain ⟨new, hnew, hdistinct⟩ := unsigned_iff.mp hunsigned
  unfold RefreshTokens.rotate
  rw [hnew, Option.toList_some, List.singleton_append, List.singleton_append]
  cases hverified : tokens.verified now raw with
  | none => exact h.draw hdistinct
  | some token =>
      obtain ⟨htoken, hlive⟩ := verified_known hknown hverified
      simp only [h.blacklisted_eq hclock htoken hlive, h.users]
      split
      · exact h.draw hdistinct
      · split
        · exact (h.blacklist hclock htoken hlive).sign hdistinct
        · exact h.draw hdistinct

theorem Cleaned.logout (h : Cleaned env s t) (hclock : t.clock = now) {raw : String}
    (hknown : s.known tokens raw = true) :
    (blacklistRefresh tokens.jwt now t.db (some raw)).toOption.isSome =
        (blacklistRefresh tokens.jwt now s.db (some raw)).toOption.isSome ∧
      Cleaned env
        { s with db := s.db.committed (blacklistRefresh tokens.jwt now s.db (some raw)) }
        { t with db := t.db.committed (blacklistRefresh tokens.jwt now t.db (some raw)) } := by
  by_cases hempty : raw = ""
  · subst hempty
    exact ⟨rfl, h⟩
  · cases hverified : tokens.verified now raw with
    | none =>
        simp only [blacklistRefresh, RefreshTokens.jwt_refresh, hverified, Option.map_none]
        exact ⟨trivial, h⟩
    | some token =>
        obtain ⟨htoken, hlive⟩ := verified_known hknown hverified
        have hsame := h.blacklisted_eq hclock htoken hlive
        simp only [blacklistRefresh, RefreshTokens.jwt_refresh, hverified, Option.map_some]
        cases hins : s.db.blacklistedTokens.insert? ⟨token.jti⟩ with
        | none =>
            obtain ⟨row, hrow⟩ := Table.exists_of_insert?_eq_none hins
            have hins' : t.db.blacklistedTokens.insert? ⟨token.jti⟩ = none :=
              Table.insert?_of_get? (hsame.trans hrow)
            rw [hins']
            exact ⟨rfl, h⟩
        | some blacklisted =>
            obtain ⟨blacklisted', hins', hafter⟩ := h.blacklisted.insert? hins
            rw [hins']
            exact ⟨rfl, { h with blacklisted := hafter }⟩

/-- The tokens of a user that are outstanding in one only are over. -/
theorem Cleaned.revokeAllJwt (h : Cleaned env s t) (user : UUID) :
    Cleaned env { s with db := TokenService.revokeAllJwt s.db user }
      { t with db := TokenService.revokeAllJwt t.db user } := by
  refine { h with blacklisted := fun jti => ?_ }
  show (TokenService.revokeAllJwt t.db user).blacklistedTokens.get? jti =
      (TokenService.revokeAllJwt s.db user).blacklistedTokens.get? jti ∨
    (TokenService.revokeAllJwt t.db user).blacklistedTokens.get? jti = none ∧ ∃ row,
      (TokenService.revokeAllJwt s.db user).blacklistedTokens.get? jti = some row ∧
        Moot s.signed t.clock row
  have hs := Passwords.blacklisted_revokeAllJwt s.db user jti
  have ht := Passwords.blacklisted_revokeAllJwt t.db user jti
  -- an entry is its key
  have hentry : ∀ (table : Table BlacklistedToken) row, table.get? jti = some row → row = ⟨jti⟩ := by
    intro table row hget
    have hpk : row.token = jti := Table.pk_of_get? hget
    rw [← hpk]
  cases hafter : (TokenService.revokeAllJwt s.db user).blacklistedTokens.get? jti with
  | none =>
      obtain ⟨hnone, hother⟩ := hs.mp hafter
      refine Or.inl (ht.mpr ⟨?_, fun token htoken => ?_⟩)
      · rcases h.blacklisted jti with hsame | ⟨hgone, _⟩
        · exact hsame.trans hnone
        · exact hgone
      · exact hother token (h.outstanding.get?_of_some htoken)
  | some row =>
      rw [hentry _ row hafter]
      cases hafter' : (TokenService.revokeAllJwt t.db user).blacklistedTokens.get? jti with
      | some row' => exact Or.inl (congrArg some (hentry _ row' hafter'))
      | none =>
          obtain ⟨hnone', hother'⟩ := ht.mp hafter'
          refine Or.inr ⟨rfl, _, rfl, ?_⟩
          rcases h.blacklisted jti with hsame | ⟨_, row₀, hrow₀, hmoot⟩
          · rcases h.outstanding jti with hsame' | ⟨_, token, htoken, hover⟩
            · rw [hnone'] at hsame
              rw [hsame'] at hother'
              rw [hs.mpr ⟨hsame.symm, hother'⟩] at hafter
              cases hafter
            · exact ⟨token, h.rows token (Table.mem_of_get? htoken), Table.pk_of_get? htoken, hover⟩
          · rw [hentry _ row₀ hrow₀] at hmoot
            exact hmoot

/-! ### The tasks

Both delete by comparison with the present time.  What they take out is dead by the definitions
above, and with that the relation holds afterwards.
-/

/-- A token that is expired for longer than tokens are retained is expired, and the blacklist
entries that go are those of outstanding tokens that are over. -/
theorem Cleaned.cleanupTokens (h : Cleaned env s t) (hclock : t.clock = now) :
    Cleaned env s { t with db := (DjangoFoundation.cleanupTokens retentionDays now t.db).2 } := by
  refine { h with
    oneTime := h.oneTime.delete ?_
    outstanding := h.outstanding.delete ?_
    blacklisted := h.blacklisted.delete ?_ }
  · intro token _ hcutoff
    have hretention : 0 ≤ seconds (86400 * retentionDays) := by
      unfold seconds
      omega
    rw [decide_eq_true_eq] at hcutoff
    show token.expiresAt < t.clock
    omega
  · intro token _ hover
    show token.expiresAt < t.clock
    rw [hclock]
    exact of_decide_eq_true hover
  · intro row _ hover
    obtain ⟨token, htoken, hlt⟩ := (Option.any_eq_true _ _).mp hover
    obtain ⟨hmem, hjti⟩ := Table.get?_eq_some.mp (h.outstanding.get?_of_some htoken)
    refine ⟨token, h.rows token hmem, hjti, ?_⟩
    show token.expiresAt < t.clock
    rw [hclock]
    exact of_decide_eq_true hlt

theorem Cleaned.cleanupLoginAttempts (h : Cleaned env s t) (hclock : t.clock = now) :
    Cleaned env s
      { t with protection := DjangoFoundation.cleanupLoginAttempts now t.protection } :=
  { h with
    protection := fun d => (h.protection d).trans (hclock ▸ alikeAt_cleanup h.expire d)
    expire := h.expire.cleanup }

/-! ### Runs

A simulation with stuttering: a step of a cleanup is matched by no step on the other side, and
any other call by itself.  The times of the run without cleanups are those of the other one
with some left out, and still in order.
-/

theorem step_eq_some {s s' : State} {e : Int × Call} :
    step env tokens settings retentionDays s e = some s' ↔
      (s.clock ≤ e.1 ∧ e.2.possible env tokens s = true) ∧
        s' = { e.2.run env tokens settings retentionDays e.1 s with clock := e.1 } := by
  unfold step
  rw [Option.ite_none_right_eq_some, Option.some.injEq]
  exact and_congr_right fun _ => eq_comm

/-- What is drawn is as new in the one as in the other. -/
theorem Cleaned.possible_eq (h : Cleaned env s t) (call : Call) :
    call.possible env tokens t = call.possible env tokens s := by
  cases call <;> simp only [Call.possible, State.known, State.unsigned, h.hashes, h.signed]

/-- A failure is counted alike in both. -/
theorem attemptCount_congr {p p' : Protection} {identifier : String} {ip : Option String}
    (h : ∀ d, AlikeAt env now d p p') : ∀ d ∈ dimensions env identifier ip,
      attemptCount env settings now (registerFailure env settings now p identifier ip).2 d =
        attemptCount env settings now (registerFailure env settings now p' identifier ip).2 d := by
  intro d hd
  have hafter := @AlikeAt.registerFailure env settings now d p p' identifier ip (h d)
  unfold attemptCount
  cases hredis : settings.redisEnabled with
  | true =>
      rw [if_pos rfl, if_pos rfl, Cache.get, Cache.live?, hafter.attempts, Cache.get, Cache.live?]
  | false =>
      rw [if_neg Bool.false_ne_true, if_neg Bool.false_ne_true]
      exact congrArg (Option.map LoginThrottleState.attemptCount) ((h d).stored_eq hredis hd)

/-- A call that is no cleanup answers alike in both, and leaves them so. -/
theorem Cleaned.call (h : Cleaned env s t) (hclock : t.clock = now) {call : Call}
    (hloud : call.isCleanup = false) (hpossible : call.possible env tokens s = true) :
    call.answer env tokens settings now t = call.answer env tokens settings now s ∧
      Cleaned env (call.run env tokens settings retentionDays now s)
        (call.run env tokens settings retentionDays now t) := by
  have hprotection : ∀ d, AlikeAt env now d s.protection t.protection := hclock ▸ h.protection
  cases call with
  | issue user purpose ttl metadata raw =>
      obtain ⟨hanswer, hafter⟩ := h.issue (of_decide_eq_true hpossible)
      exact ⟨congrArg (fun ok => some (Answer.issued ok)) hanswer, hafter⟩
  | consume rawToken purpose =>
      obtain ⟨hanswer, hafter⟩ := h.consume hclock rawToken purpose
      exact ⟨congrArg (fun token => some (Answer.consumed token)) hanswer, hafter⟩
  | forUser raw =>
      obtain ⟨token, htoken, hdistinct⟩ := unsigned_iff.mp hpossible
      refine ⟨rfl, ?_⟩
      simp only [Call.run, htoken]
      exact h.sign hdistinct
  | refresh raw newRaw =>
      obtain ⟨hknown, hunsigned⟩ := Bool.and_eq_true_iff.mp hpossible
      refine ⟨?_, h.refresh hclock hknown hunsigned⟩
      exact congrArg (fun user => some (Answer.refreshed user)) (h.refreshed_eq hclock hknown)
  | logout raw =>
      obtain ⟨hanswer, hafter⟩ := h.logout hclock hpossible
      exact ⟨congrArg (fun ok => some (Answer.loggedOut ok)) hanswer, hafter⟩
  | revokeAllJwt user => exact ⟨rfl, h.revokeAllJwt user⟩
  | check identifier ip =>
      refine ⟨?_, h⟩
      simp only [Call.answer]
      rw [check_congr fun d _ => hprotection d]
  | registerFailure identifier ip =>
      refine ⟨?_, { h with
        protection := fun d => hclock ▸ (hprotection d).registerFailure
        expire := h.expire.registerFailure identifier ip }⟩
      have hcounts := List.map_congr_left
        (@attemptCount_congr env settings now _ _ identifier ip hprotection)
      simp only [Call.answer]
      rw [registerFailure_congr fun d _ => hprotection d, hcounts]
  | reset identifier ip =>
      exact ⟨rfl, { h with
        protection := fun d => (h.protection d).reset
        expire := h.expire.reset identifier ip }⟩
  | cleanupTokens => cases hloud
  | cleanupLoginAttempts => cases hloud

/-- A cleanup can always run, and takes out what is dead. -/
theorem Cleaned.cleanup (h : Cleaned env s t) {e : Int × Call} (hle : t.clock ≤ e.1)
    (hsilent : e.2.isCleanup = true) :
    ∃ t', step env tokens settings retentionDays t e = some t' ∧
      answers env tokens settings t e = none ∧ Cleaned env s t' := by
  obtain ⟨now, call⟩ := e
  have hnow := h.later hle
  have hclock : s.clock ≤ now := Int.le_trans h.clock hle
  cases call with
  | cleanupTokens =>
      refine ⟨_, step_eq_some.mpr ⟨⟨hle, rfl⟩, rfl⟩, rfl, ?_⟩
      exact { hnow.cleanupTokens rfl with clock := hclock }
  | cleanupLoginAttempts =>
      refine ⟨_, step_eq_some.mpr ⟨⟨hle, rfl⟩, rfl⟩, rfl, ?_⟩
      exact { hnow.cleanupLoginAttempts rfl with clock := hclock }
  | _ => cases hsilent

/-- A call does not look at the time of the last. -/
theorem run_clock (call : Call) (s : State) (clock : Int) :
    { call.run env tokens settings retentionDays now s with clock := clock } =
      call.run env tokens settings retentionDays now { s with clock := clock } := by
  cases call with
  | forUser raw =>
      simp only [Call.run]
      cases tokens.claims raw <;> rfl
  | _ => rfl

theorem answer_clock (call : Call) (s : State) (clock : Int) :
    call.answer env tokens settings now { s with clock := clock } =
      call.answer env tokens settings now s := by
  cases call <;> rfl

/-- Any other call that can be made in the one can be made in the other. -/
theorem Cleaned.next (h : Cleaned env s t) {s' : State} {e : Int × Call} (hle : t.clock ≤ e.1)
    (hloud : e.2.isCleanup = false) (hstep : step env tokens settings retentionDays s e = some s') :
    ∃ t', step env tokens settings retentionDays t e = some t' ∧
      answers env tokens settings t e = answers env tokens settings s e ∧ Cleaned env s' t' := by
  obtain ⟨⟨_, hpossible⟩, rfl⟩ := step_eq_some.mp hstep
  refine ⟨_, step_eq_some.mpr ⟨⟨hle, (h.possible_eq e.2).trans hpossible⟩, rfl⟩, ?_⟩
  obtain ⟨now, call⟩ := e
  have hpossible' : call.possible env tokens { s with clock := now } = true :=
    ((h.later hle).possible_eq call).symm.trans ((h.possible_eq call).trans hpossible)
  obtain ⟨hanswer, hafter⟩ := @Cleaned.call env tokens settings retentionDays now _ _ (h.later hle)
    rfl call hloud hpossible'
  rw [answer_clock, answer_clock] at hanswer
  rw [run_clock, run_clock]
  exact ⟨hanswer, hafter⟩

/-- The times still to come are in order. -/
def InOrder (s : State) (es : List (Int × Call)) : Prop :=
  (s.clock :: es.map Prod.fst).IsChain (· ≤ ·)

/-- **Cleaning up changes no answer.**  Take any run of calls and put cleanups in wherever the
clock allows: the run with them goes on to its end, and every call in it answers what it
answers in the run without. -/
theorem cleanup_unseen {clock : Int} {db : Database} {es : List (Int × Call)} {s' : State}
    (htimes : (clock :: es.map Prod.fst).IsChain (· ≤ ·))
    (hrun : exec (step env tokens settings retentionDays) (.init clock db)
      (es.filter fun e => !e.2.isCleanup) = some s') :
    (∃ t', exec (step env tokens settings retentionDays) (.init clock db) es = some t') ∧
      collect (step env tokens settings retentionDays) (answers env tokens settings)
          (.init clock db) es =
        collect (step env tokens settings retentionDays) (answers env tokens settings)
          (.init clock db) (es.filter fun e => !e.2.isCleanup) := by
  have hT : ∀ t t' e es, InOrder t (e :: es) →
      step env tokens settings retentionDays t e = some t' → InOrder t' es := by
    intro t t' e es hes hstep
    obtain ⟨_, rfl⟩ := step_eq_some.mp hstep
    exact (List.isChain_cons_cons.mp hes).2
  have hle : ∀ t e es, InOrder t (e :: es) → t.clock ≤ e.1 := by
    intro t e es hes
    exact (List.isChain_cons_cons.mp hes).1
  have hsilent : ∀ s t e es, Cleaned env s t → e.2.isCleanup = true → InOrder t (e :: es) →
      ∃ t', step env tokens settings retentionDays t e = some t' ∧
        answers env tokens settings t e = none ∧ Cleaned env s t' :=
    fun _ _ _ _ h hsilent hes => h.cleanup (hle _ _ _ hes) hsilent
  have hloud : ∀ s t s' e es, Cleaned env s t → e.2.isCleanup = false → InOrder t (e :: es) →
      step env tokens settings retentionDays s e = some s' →
        ∃ t', step env tokens settings retentionDays t e = some t' ∧
          answers env tokens settings t e = answers env tokens settings s e ∧ Cleaned env s' t' :=
    fun _ _ _ _ _ h hloud hes hstep => h.next (hle _ _ _ hes) hloud hstep
  exact exec_of_filter hT hsilent hloud (Cleaned.init clock db) htimes hrun

/-- Tokens and failures, and both cleanups after they are over. -/
def tidied : List (Int × Call) :=
  [(0, .issue 1 .emailVerification (seconds 5) [] "mail"), (0, .forUser "first"),
    (1, .registerFailure "ada" none), (2, .refresh "first" "second"), (seconds 3, .cleanupTokens),
    (seconds 4, .refresh "first" "third"), (seconds 4000, .cleanupTokens),
    (seconds 4000, .cleanupLoginAttempts), (seconds 4000, .consume "mail" .emailVerification),
    (seconds 4000, .refresh "second" "fourth"), (seconds 4000, .registerFailure "ada" none)]

theorem cleanup_unseen_tidied :
    (∃ t', exec (step .plain .plain {} 0) (.init 0 { users := {ada} }) tidied = some t') ∧
      collect (step .plain .plain {} 0) (answers .plain .plain {}) (.init 0 { users := {ada} })
          tidied =
        collect (step .plain .plain {} 0) (answers .plain .plain {}) (.init 0 { users := {ada} })
          (tidied.filter fun e => !e.2.isCleanup) := by
  obtain ⟨s', hs'⟩ : ∃ s', exec (step .plain .plain {} 0) (.init 0 { users := {ada} })
      (tidied.filter fun e => !e.2.isCleanup) = some s' :=
    Option.isSome_iff_exists.mp (by decide +kernel)
  exact cleanup_unseen (by decide) hs'

end Cleanup

end DjangoFoundation
