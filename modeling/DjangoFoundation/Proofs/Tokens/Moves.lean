/-
What the transactions on one-time tokens can do.

`Moves` lists what one step can come to: a transaction begins, goes on, ends without a trace,
or commits an issue or a confirmation.  Nothing after this file unfolds a step again.

An issue is two statements, the `UPDATE` that marks what is out and the `INSERT`; a
confirmation is the `SELECT ... FOR UPDATE`, the mark, and whatever the service does for its
user, in one transaction.
-/
import DjangoFoundation.Authentication.Tokens
import DjangoFoundation.Proofs.Lifecycle

namespace DjangoFoundation

namespace Tokens

open AccountService SessionService TokenService

variable {env : Environment} {now : Int} {s s' : State} {id : Nat}

/-! ### The rest of a confirmation

The four services differ in what they do to their user.  Here it matters only that they do it
to the user the token names.
-/

/-- It writes no token, and the row of no user but the token's. -/
structure ActsFor (user : UUID) (db db' : Database) : Prop where
  oneTimeTokens : db'.oneTimeTokens = db.oneTimeTokens
  users : ∀ k, k ≠ user → db'.users.get? k = db.users.get? k

section Body

variable {db db' : Database} {token : OneTimeToken}

private theorem actsFor_modify {user : User} {f : User → User} (hf : ∀ u, (f u).pk = u.pk)
    (huser : db.getUser token.user = .ok user) (husers : db'.users = db.users.modify user.pk f hf)
    (htokens : db'.oneTimeTokens = db.oneTimeTokens) : ActsFor token.user db db' := by
  have hpk : user.pk = token.user := Table.pk_of_get? (getUser_eq_ok huser)
  refine ⟨htokens, fun k hk => ?_⟩
  rw [husers, Table.get?_modify, if_neg (by rw [hpk]; exact hk)]

theorem body_actsFor {c : Confirmation} (h : c.body env now token db = .ok db') :
    ActsFor token.user db db' := by
  cases c with
  | verifyEmail rawToken =>
      obtain ⟨user, huser, h⟩ := bind_eq_ok.mp h
      split at h
      · cases h
        exact ⟨rfl, fun _ _ => rfl⟩
      · cases h
        exact actsFor_modify (Confirmation.verified_pk now) huser rfl rfl
  | resetPassword rawToken newPassword salt sessionKey =>
      obtain ⟨user, huser, h⟩ := bind_eq_ok.mp h
      split at h
      · cases h
      · obtain ⟨db₁, hrevoke, h⟩ := bind_eq_ok.mp h
        cases h
        have hsame := sameAccounts_revokeAll hrevoke
        exact actsFor_modify (fun _ => by rfl) huser hsame.users hsame.oneTimeTokens
  | confirmEmailChange rawToken sessionKey =>
      obtain ⟨user, huser, h⟩ := bind_eq_ok.mp h
      split at h
      · cases h
      · dsimp only at h
        split at h
        · cases h
        · split at h
          · cases h
          · obtain ⟨db₁, hrevoke, h⟩ := bind_eq_ok.mp h
            cases h
            have hsame := sameAccounts_revokeAll hrevoke
            exact actsFor_modify (Confirmation.readdressed_pk now _) huser hsame.users
              hsame.oneTimeTokens
  | confirmDeletion rawToken passwordSuffix sessionKey =>
      obtain ⟨user, huser, h⟩ := bind_eq_ok.mp h
      obtain ⟨db₁, hsave, h⟩ := bind_eq_ok.mp h
      obtain ⟨db₂, hrevoke, h⟩ := bind_eq_ok.mp h
      cases h
      rw [save_pseudonymised] at hsave
      split at hsave
      · cases hsave
      · cases hsave
        have hsame := sameAccounts_revokeAll hrevoke
        exact actsFor_modify (fun _ => by rfl) huser hsame.users hsame.oneTimeTokens

end Body

/-! ### What a step can do

A transaction waits for locks, so that what it has read of a row it is going to write is still
there when it writes it.
-/

/-- The unused tokens of its pair that an issue about to commit has not marked. -/
def State.missed (s : State) : Event → List OneTimeToken
  | .finish id =>
      match s.work? id with
      | some (.inserted _ issue marked _ _) =>
          s.db.oneTimeTokens.rows.filter fun token =>
            issue.supersedes token ∧ token.tokenHash ∉ marked
      | _ => []
  | _ => []

/-- What the open transactions rest on: a token consumed and not committed is there, as it was
read, and the row to be committed is its issue's, under a hash that is free. -/
def Work.Holds (env : Environment) (tokens : Table OneTimeToken) : Work → Prop
  | .consumed c token consumedAt =>
      tokens.get? (tokenHash env c.rawToken c.purpose) = some token ∧ token.purpose = c.purpose ∧
        token.usedAt = none ∧ consumedAt < token.expiresAt
  | .inserted began i _ raw token =>
      tokens.get? token.tokenHash = none ∧ ∃ now, token = i.token env now began raw
  | _ => True

/-- The rows marked and the rows new in a commit. -/
structure Commits (marked : List String) (usedAt : Int) (new : List OneTimeToken)
    (tokens tokens' : Table OneTimeToken) : Prop where
  old : ∀ hash token, tokens.get? hash = some token → tokens'.get? hash =
    some (if hash ∈ marked then { token with usedAt := some usedAt } else token)
  rows : ∀ token ∈ tokens', token ∈ new ∨ ∃ old ∈ tokens,
    token = if old.tokenHash ∈ marked then { old with usedAt := some usedAt } else old

/-- What a transaction does in one step. -/
inductive Moves (env : Environment) (now : Int) (s : State) : Event → State → Prop
  | begins {id : Nat} {start : Start} {txns : Table Txn}
      (h : s.txns.insert? ⟨id, start.work now⟩ = some txns) :
      Moves env now s (.begin id start) { s with txns := txns }
  | goesOn {e : Event} {id : Nat} {work work' : Work} (h : s.work? id = some work)
      (hlocks : ∀ hash ∈ work'.locked, hash ∈ work.locked ∨ s.free id hash = true)
      (hinserts : ∀ hash ∈ work'.inserting, s.unclaimed id hash = true)
      (hholds : work'.Holds env s.db.oneTimeTokens) (hmissed : s.missed e = []) :
      Moves env now s e (s.goOn id work')
  | closes {e : Event} {id : Nat} (hmissed : s.missed e = []) : Moves env now s e (s.close id)
  /-- The `INSERT` has seen to it that this does not happen. -/
  | clashes {id : Nat} {began : Int} {issue : Issue} {marked : List String} {raw : String}
      {token : OneTimeToken} (h : s.work? id = some (.inserted began issue marked raw token))
      (hinsert : (s.db.oneTimeTokens.update (fun t => t.tokenHash ∈ marked)
        fun t => { t with usedAt := some began }).insert? token = none) :
      Moves env now s (.finish id) (s.close id)
  | issues {id : Nat} {began : Int} {issue : Issue} {marked : List String} {raw : String}
      {token : OneTimeToken} {tokens : Table OneTimeToken}
      (h : s.work? id = some (.inserted began issue marked raw token))
      (hinsert : (s.db.oneTimeTokens.update (fun t => t.tokenHash ∈ marked)
        fun t => { t with usedAt := some began }).insert? token = some tokens) :
      Moves env now s (.finish id) { s.close id with
        db := { s.db with oneTimeTokens := tokens }
        issued := s.issued ++ [⟨raw, issue.user, issue.purpose, token.expiresAt⟩] }
  | confirms {id : Nat} {c : Confirmation} {token : OneTimeToken} {consumedAt : Int}
      {db : Database} (h : s.work? id = some (.consumed c token consumedAt))
      (hbody : c.body env now token { s.db with
        oneTimeTokens := s.db.oneTimeTokens.modify token.tokenHash
          fun t => { t with usedAt := some consumedAt } } = .ok db) :
      Moves env now s (.finish id) { s.close id with
        db := db
        confirmed := s.confirmed ++ [⟨c.rawToken, c.purpose, token.user, consumedAt⟩] }

theorem work?_eq_some {work : Work} :
    s.work? id = some work ↔ ∃ txn ∈ s.txns, txn.id = id ∧ txn.work = work := by
  rw [State.work?, Option.map_eq_some_iff]
  constructor
  · intro h
    obtain ⟨txn, hget, hwork⟩ := h
    exact ⟨txn, Table.mem_of_get? hget, Table.pk_of_get? hget, hwork⟩
  · intro h
    obtain ⟨txn, hmem, hid, hwork⟩ := h
    exact ⟨txn, Table.get?_eq_some.mpr ⟨hmem, hid⟩, hwork⟩

theorem mem_goOn {work : Work} {txn : Txn} : txn ∈ (s.goOn id work).txns ↔
    (∃ old ∈ s.txns, old.id = id ∧ txn = { old with work := work }) ∨
      (txn ∈ s.txns ∧ txn.id ≠ id) :=
  @Table.mem_modify _ _ _ _ s.txns id (fun txn => { txn with work := work }) (fun _ => rfl) txn

theorem mem_close {txn : Txn} : txn ∈ (s.close id).txns ↔ txn ∈ s.txns ∧ txn.id ≠ id :=
  Table.mem_erase

theorem usable?_eq_some {db : Database} {rawToken : String} {purpose : TokenPurpose}
    {token : OneTimeToken} (h : usable? env now db rawToken purpose = some token) :
    db.oneTimeTokens.get? (tokenHash env rawToken purpose) = some token ∧
      token.purpose = purpose ∧ token.usedAt = none ∧ now < token.expiresAt := by
  obtain ⟨hget, husable⟩ := Option.filter_eq_some_iff.mp h
  simp only [OneTimeToken.isUsable, Bool.and_eq_true, decide_eq_true_eq] at husable
  exact ⟨hget, husable⟩

/-- The `UPDATE` waits until it has every row it found. -/
private theorem moves_supersede (h : s.supersede id = some s') :
    Moves env now s (.supersede id) s' := by
  unfold State.supersede at h
  split at h
  · rename_i began issue found hwork
    split at h
    · rename_i hfree
      cases h
      refine .goesOn hwork (fun hash hhash => Or.inr ?_) (by simp [Work.inserting]) trivial rfl
      exact List.all_eq_true.mp hfree hash (List.mem_filter.mp hhash).1
    · cases h
  · cases h

private theorem moves_insert {raw : String} (h : s.insert env now id raw = some s') :
    Moves env now s (.insert id raw) s' := by
  unfold State.insert at h
  split at h
  · rename_i began issue marked hwork
    dsimp only at h
    split at h
    · cases h
    · rename_i hunclaimed
      split at h
      · cases h
        exact .closes rfl
      · rename_i hnew
        cases h
        refine .goesOn hwork (fun hash hhash => Or.inl hhash) (fun hash hhash => ?_)
          ⟨?_, now, rfl⟩
          rfl
        · rw [List.mem_singleton.mp hhash]
          simpa using hunclaimed
        · simpa using hnew
  · cases h

/-- The token consumed is one nobody else holds. -/
private theorem moves_consume (h : s.consume env now id = some s') :
    Moves env now s (.consume id) s' := by
  unfold State.consume at h
  split at h
  · rename_i c hwork
    dsimp only at h
    split at h
    · cases h
    · rename_i hfree
      split at h
      · cases h
        exact .closes rfl
      · rename_i token husable
        cases h
        have hholds := usable?_eq_some husable
        refine .goesOn hwork (fun hash hhash => Or.inr ?_) (by simp [Work.inserting]) hholds rfl
        have hhash' : hash = token.tokenHash := List.mem_singleton.mp hhash
        have hpk : token.tokenHash = tokenHash env c.rawToken c.purpose :=
          Table.pk_of_get? hholds.1
        rw [hholds.1, Option.any_some, decide_eq_true_eq] at hfree
        rw [hhash', hpk]
        by_contra hheld
        exact hfree ⟨hholds.2.1, Bool.not_eq_true _ ▸ hheld⟩
  · cases h

private theorem moves_finish (h : s.finish env now id = some s') :
    Moves env now s (.finish id) s' := by
  unfold State.finish at h
  split at h
  · rename_i hwork
    dsimp only at h
    split at h
    · rename_i hinsert
      cases h
      exact .clashes hwork hinsert
    · rename_i hinsert
      cases h
      exact .issues hwork hinsert
  · rename_i hwork
    dsimp only at h
    split at h
    · cases h
      exact .closes (by rw [State.missed, hwork])
    · rename_i hbody
      cases h
      exact .confirms hwork hbody
  · cases h

theorem move_cases {e : Event} (h : s.move env now e = some s') : Moves env now s e s' := by
  cases e with
  | begin id start =>
      obtain ⟨txns, hinsert, rfl⟩ := Option.map_eq_some_iff.mp h
      exact .begins hinsert
  | find id =>
      simp only [State.move, State.superseding] at h
      split at h
      · rename_i hwork
        cases h
        exact .goesOn hwork (by simp [Work.locked]) (by simp [Work.inserting]) trivial rfl
      · cases h
  | supersede id => exact moves_supersede h
  | insert id raw => exact moves_insert h
  | consume id => exact moves_consume h
  | finish id => exact moves_finish h
  | abort id =>
      obtain ⟨txn, hget, rfl⟩ := Option.map_eq_some_iff.mp h
      exact .closes rfl

/-! ### Commits

A commit puts its rows into the tables at once, and every other transaction sees them from then
on.
-/

section Commits

variable {tokens tokens' : Table OneTimeToken} {token : OneTimeToken}

/-- A hash that is free and not committed stays free. -/
theorem Commits.get?_eq_none {marked : List String} {usedAt : Int} {new : List OneTimeToken}
    (h : Commits marked usedAt new tokens tokens') {hash : String} (hnone : tokens.get? hash = none)
    (hnew : ∀ t ∈ new, t.tokenHash ≠ hash) : tokens'.get? hash = none := by
  refine Table.get?_eq_none.mpr fun t ht => ?_
  rcases h.rows t ht with hin | ⟨old, hold, rfl⟩
  · exact hnew t hin
  · have hne : old.tokenHash ≠ hash := Table.get?_eq_none.mp hnone old hold
    split <;> exact hne

theorem commits_issue {marked : List String} {began : Int}
    (h : (tokens.update (fun t => t.tokenHash ∈ marked)
      fun t => { t with usedAt := some began }).insert? token = some tokens') :
    Commits marked began [token] tokens tokens' := by
  constructor
  · intro hash old hold
    refine Table.get?_insert?_old h ?_
    have hpk : old.tokenHash = hash := Table.pk_of_get? hold
    rw [Table.get?_update, hold, Option.map_some]
    simp only [decide_eq_true_eq, hpk]
  · intro t ht
    rcases (Table.mem_insert? h).mp ht with hold | rfl
    · obtain ⟨old, hmem, heq⟩ := Table.mem_update.mp hold
      simp only [decide_eq_true_eq] at heq
      exact Or.inr ⟨old, hmem, heq⟩
    · exact Or.inl List.mem_cons_self

theorem commits_confirm (consumedAt : Int) :
    Commits [token.tokenHash] consumedAt [] tokens
      (tokens.modify token.tokenHash fun t => { t with usedAt := some consumedAt }) := by
  constructor
  · intro hash old hold
    rw [Table.get?_modify]
    by_cases hhash : hash = token.tokenHash
    · rw [if_pos hhash, hold, if_pos (List.mem_singleton.mpr hhash)]
      rfl
    · rw [if_neg hhash, hold, if_neg fun hmem => hhash (List.mem_singleton.mp hmem)]
  · intro t ht
    rcases Table.mem_modify.mp ht with ⟨old, hmem, hpk, heq⟩ | ⟨hmem, hpk⟩
    · have hin : old.tokenHash ∈ [token.tokenHash] := List.mem_singleton.mpr hpk
      refine Or.inr ⟨old, hmem, ?_⟩
      rw [if_pos hin, heq]
    · have hout : t.tokenHash ∉ [token.tokenHash] := fun hin => hpk (List.mem_singleton.mp hin)
      refine Or.inr ⟨t, hmem, ?_⟩
      rw [if_neg hout]

end Commits

theorem step_moves {e : Int × Event} (h : step env s e = some s') :
    Moves env e.1 { s with clock := e.1 } e.2 s' := by
  unfold step at h
  split at h
  · exact move_cases h
  · cases h

end Tokens

end DjangoFoundation
