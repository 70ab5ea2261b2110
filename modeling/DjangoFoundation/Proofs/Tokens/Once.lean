/-
A one-time token is consumed once.

A row is written by its issue and marked once: by a later issue of its pair, or by the
confirmation that consumes it.  Whoever marks it has held its lock since it was read, so no
two transactions mark one row, and a confirmation that commits is the first its token makes.

It holds without a condition on the order of steps.  Distinct raw tokens are asked for, which
is about the random generator; the rest is done by the row locks.
-/
import DjangoFoundation.Proofs.Tokens.Moves

namespace DjangoFoundation

namespace Tokens

open TokenService

variable {env : Environment} {now : Int} {s s' : State} {id : Nat}

/-! ### The invariant

Issues and confirmations are listed as they commit.  The invariant ties each row to the issue
that wrote it, and each confirmation to a row that is used.
-/

/-- The row of a token issued. -/
structure Issued.Names (env : Environment) (i : Issued) (token : OneTimeToken) : Prop where
  tokenHash : TokenService.tokenHash env i.raw i.purpose = token.tokenHash
  user : i.user = token.user
  purpose : i.purpose = token.purpose
  expiresAt : i.expiresAt = token.expiresAt

/-- The confirmation is one its issue allows. -/
structure Confirmed.Of (c : Confirmed) (i : Issued) : Prop where
  raw : c.raw = i.raw
  purpose : c.purpose = i.purpose
  user : c.user = i.user
  inTime : c.consumedAt < i.expiresAt

def Confirmed.key (c : Confirmed) : String × TokenPurpose := (c.raw, c.purpose)

structure Inv (env : Environment) (s : State) : Prop where
  /-- Every row has been issued. -/
  rows : ∀ token ∈ s.db.oneTimeTokens, ∃ i ∈ s.issued, i.Names env token
  exclusive : Locks.Exclusive Txn.locked s.txns
  claims : Locks.Exclusive Txn.inserting s.txns
  holds : ∀ txn ∈ s.txns, txn.work.Holds env s.db.oneTimeTokens
  /-- What a confirmation has consumed stays used.. -/
  used : ∀ c ∈ s.confirmed, ∃ token,
    s.db.oneTimeTokens.get? (tokenHash env c.raw c.purpose) = some token ∧ token.usedAt ≠ none
  /-- ..so it is consumed once. -/
  once : (s.confirmed.map Confirmed.key).Nodup
  confirmed : ∀ c ∈ s.confirmed, ∃ i ∈ s.issued, c.Of i

namespace Inv

theorem init {db : Database} (h : db.oneTimeTokens = ∅) : Inv env { db := db } where
  rows token htoken := by
    rw [h] at htoken
    exact absurd htoken (Table.not_mem_empty token)
  exclusive := Locks.exclusive_empty
  claims := Locks.exclusive_empty
  holds txn htxn := absurd htxn (Table.not_mem_empty txn)
  used c hc := absurd hc List.not_mem_nil
  once := List.nodup_nil
  confirmed c hc := absurd hc List.not_mem_nil

theorem begins {start : Start} {txns : Table Txn} (hinv : Inv env s)
    (h : s.txns.insert? ⟨id, start.work now⟩ = some txns) :
    Inv env { s with txns := txns } where
  rows := hinv.rows
  exclusive := hinv.exclusive.insert? h (by cases start <;> rfl)
  claims := hinv.claims.insert? h (by cases start <;> rfl)
  holds txn htxn := by
    rcases (Table.mem_insert? h).mp htxn with hold | rfl
    · exact hinv.holds txn hold
    · cases start <;> exact trivial
  used := hinv.used
  once := hinv.once
  confirmed := hinv.confirmed

theorem goesOn {work work' : Work} (hinv : Inv env s) (h : s.work? id = some work)
    (hlocks : ∀ hash ∈ work'.locked, hash ∈ work.locked ∨ s.free id hash = true)
    (hinserts : ∀ hash ∈ work'.inserting, s.unclaimed id hash = true)
    (hholds : work'.Holds env s.db.oneTimeTokens) : Inv env (s.goOn id work') where
  rows := hinv.rows
  exclusive := by
    obtain ⟨txn, htxn, hid, hwork⟩ := work?_eq_some.mp h
    refine hinv.exclusive.modify (fun _ => by rfl) fun a ha hk hash hhash => ?_
    have hsame : a = txn := Table.eq_of_pk_eq ha htxn (hk.trans hid.symm)
    rw [hsame, Txn.locked, hwork]
    exact hlocks hash hhash
  claims := hinv.claims.modify (fun _ => by rfl) fun a _ _ hash hhash =>
    Or.inr (hinserts hash hhash)
  holds txn htxn := by
    rcases mem_goOn.mp htxn with ⟨old, _, _, rfl⟩ | ⟨hold, _⟩
    · exact hholds
    · exact hinv.holds txn hold
  used := hinv.used
  once := hinv.once
  confirmed := hinv.confirmed

theorem close (hinv : Inv env s) (id : Nat) : Inv env (s.close id) where
  rows := hinv.rows
  exclusive := hinv.exclusive.erase id
  claims := hinv.claims.erase id
  holds txn htxn := hinv.holds txn (mem_close.mp htxn).1
  used := hinv.used
  once := hinv.once
  confirmed := hinv.confirmed

/-- What another transaction holds outlives a commit. -/
theorem holds_commit (hinv : Inv env s) {txn other : Txn} (htxn : txn ∈ s.txns)
    (hother : other ∈ s.txns) (hne : other.id ≠ txn.id) {marked : List String} {usedAt : Int}
    {new : List OneTimeToken} {tokens : Table OneTimeToken}
    (hmarked : ∀ hash ∈ marked, hash ∈ txn.locked)
    (hnew : ∀ token ∈ new, token.tokenHash ∈ txn.inserting)
    (hcommit : Commits marked usedAt new s.db.oneTimeTokens tokens) :
    other.work.Holds env tokens := by
  have hholds := hinv.holds other hother
  cases hwork : other.work with
  | consumed c token consumedAt =>
      rw [hwork] at hholds
      obtain ⟨hget, hrest⟩ := hholds
      have hpk : token.tokenHash = tokenHash env c.rawToken c.purpose := Table.pk_of_get? hget
      have hlock : tokenHash env c.rawToken c.purpose ∈ other.locked := by
        rw [Txn.locked, hwork, ← hpk]
        exact List.mem_cons_self
      have hfree : tokenHash env c.rawToken c.purpose ∉ marked := fun hmem =>
        hne (hinv.exclusive other hother txn htxn _ hlock (hmarked _ hmem))
      refine ⟨?_, hrest⟩
      rw [hcommit.old _ token hget, if_neg hfree]
  | inserted began issue _ raw token =>
      rw [hwork] at hholds
      obtain ⟨hnone, htoken⟩ := hholds
      refine ⟨hcommit.get?_eq_none hnone fun t ht heq => ?_, htoken⟩
      have hclaim : token.tokenHash ∈ other.inserting := by
        rw [Txn.inserting, hwork]
        exact List.mem_cons_self
      exact hne (hinv.claims other hother txn htxn _ hclaim (heq ▸ hnew t ht))
  | issue began issue => exact trivial
  | superseding began issue found => exact trivial
  | superseded began issue marked => exact trivial
  | confirm c => exact trivial

/-- A token used stays used. -/
theorem used_commit {marked : List String} {usedAt : Int} {new : List OneTimeToken}
    {tokens : Table OneTimeToken} (hcommit : Commits marked usedAt new s.db.oneTimeTokens tokens)
    {hash : String} (h : ∃ token, s.db.oneTimeTokens.get? hash = some token ∧ token.usedAt ≠ none) :
    ∃ token, tokens.get? hash = some token ∧ token.usedAt ≠ none := by
  obtain ⟨token, hget, hused⟩ := h
  refine ⟨_, hcommit.old hash token hget, ?_⟩
  split
  · simp
  · exact hused

theorem names_marked {i : Issued} {token : OneTimeToken} {marked : List String} {usedAt : Int}
    (h : i.Names env token) :
    i.Names env
      (if token.tokenHash ∈ marked then { token with usedAt := some usedAt } else token) := by
  split
  · exact ⟨h.tokenHash, h.user, h.purpose, h.expiresAt⟩
  · exact h

theorem issues {began : Int} {issue : Issue} {marked : List String} {raw : String}
    {token : OneTimeToken} {tokens : Table OneTimeToken} (hinv : Inv env s)
    (h : s.work? id = some (.inserted began issue marked raw token))
    (hinsert : (s.db.oneTimeTokens.update (fun t => t.tokenHash ∈ marked)
      fun t => { t with usedAt := some began }).insert? token = some tokens) :
    Inv env { s.close id with
      db := { s.db with oneTimeTokens := tokens }
      issued := s.issued ++ [⟨raw, issue.user, issue.purpose, token.expiresAt⟩] } := by
  obtain ⟨txn, htxn, rfl, hwork⟩ := work?_eq_some.mp h
  have hcommit := commits_issue hinsert
  constructor
  · intro t ht
    rcases hcommit.rows t ht with hnew | ⟨old, hold, heq⟩
    · refine ⟨_, List.mem_append_right _ List.mem_cons_self, ?_⟩
      have hholds := hinv.holds txn htxn
      rw [hwork] at hholds
      obtain ⟨_, now, htoken⟩ := hholds
      rw [List.mem_singleton.mp hnew, htoken]
      exact ⟨rfl, rfl, rfl, rfl⟩
    · obtain ⟨i, hi, hnames⟩ := hinv.rows old hold
      refine ⟨i, List.mem_append_left _ hi, ?_⟩
      rw [heq]
      exact names_marked hnames
  · exact hinv.exclusive.erase _
  · exact hinv.claims.erase _
  · intro other hother
    obtain ⟨hmem, hne⟩ := mem_close.mp hother
    refine hinv.holds_commit htxn hmem hne (fun hash hhash => ?_) (fun t ht => ?_) hcommit
    · rw [Txn.locked, hwork]
      exact hhash
    · rw [Txn.inserting, hwork, List.mem_singleton.mp ht]
      exact List.mem_cons_self
  · intro c hc
    exact used_commit hcommit (hinv.used c hc)
  · exact hinv.once
  · intro c hc
    obtain ⟨i, hi, hof⟩ := hinv.confirmed c hc
    exact ⟨i, List.mem_append_left _ hi, hof⟩

/-- What is unused has not been consumed by any confirmation that has committed. -/
theorem key_ne {raw : String} {purpose : TokenPurpose} {token : OneTimeToken} (hinv : Inv env s)
    (hget : s.db.oneTimeTokens.get? (tokenHash env raw purpose) = some token)
    (hunused : token.usedAt = none) {c : Confirmed} (hc : c ∈ s.confirmed) :
    c.key ≠ (raw, purpose) := by
  intro hkey
  obtain ⟨hraw, hpurpose⟩ := Prod.mk.inj hkey
  obtain ⟨used, hused, hmarked⟩ := hinv.used c hc
  rw [hraw, hpurpose, hget, Option.some.injEq] at hused
  rw [← hused] at hmarked
  exact hmarked hunused

/-- Consuming a token in time is a confirmation of the issue it comes from. -/
theorem of_consumed {raw : String} {purpose : TokenPurpose} {token : OneTimeToken}
    {consumedAt : Int} (hinv : Inv env s)
    (hget : s.db.oneTimeTokens.get? (tokenHash env raw purpose) = some token)
    (hpurpose : token.purpose = purpose) (htime : consumedAt < token.expiresAt) :
    ∃ i ∈ s.issued, Confirmed.Of ⟨raw, purpose, token.user, consumedAt⟩ i := by
  obtain ⟨i, hi, hnames⟩ := hinv.rows token (Table.mem_of_get? hget)
  have hip : i.purpose = purpose := hnames.purpose.trans hpurpose
  have hhash : tokenHash env i.raw i.purpose = tokenHash env raw purpose :=
    hnames.tokenHash.trans (Table.pk_of_get? hget)
  rw [hip] at hhash
  have hraw : i.raw = raw := env.keyring.keyedHash_injective ("one-time:" ++ purpose.value) hhash
  refine ⟨i, hi, hraw.symm, hip.symm, hnames.user.symm, ?_⟩
  rw [hnames.expiresAt]
  exact htime

theorem confirms {c : Confirmation} {token : OneTimeToken} {consumedAt : Int} {db : Database}
    (hinv : Inv env s) (h : s.work? id = some (.consumed c token consumedAt))
    (hbody : c.body env now token { s.db with
      oneTimeTokens := s.db.oneTimeTokens.modify token.tokenHash
        fun t => { t with usedAt := some consumedAt } } = .ok db) :
    Inv env { s.close id with
      db := db
      confirmed := s.confirmed ++ [⟨c.rawToken, c.purpose, token.user, consumedAt⟩] } := by
  obtain ⟨txn, htxn, rfl, hwork⟩ := work?_eq_some.mp h
  have htokens := (body_actsFor hbody).oneTimeTokens
  have hcommit : Commits [token.tokenHash] consumedAt [] s.db.oneTimeTokens db.oneTimeTokens := by
    rw [htokens]
    exact commits_confirm consumedAt
  have hholds := hinv.holds txn htxn
  rw [hwork] at hholds
  obtain ⟨hget, hpurpose, hunused, htime⟩ := hholds
  have hpk : token.tokenHash = tokenHash env c.rawToken c.purpose := Table.pk_of_get? hget
  constructor
  · intro t ht
    rcases hcommit.rows t ht with hnew | ⟨old, hold, heq⟩
    · cases hnew
    · obtain ⟨i, hi, hnames⟩ := hinv.rows old hold
      rw [heq]
      exact ⟨i, hi, names_marked hnames⟩
  · exact hinv.exclusive.erase _
  · exact hinv.claims.erase _
  · intro other hother
    obtain ⟨hmem, hne⟩ := mem_close.mp hother
    refine hinv.holds_commit htxn hmem hne (fun hash hhash => ?_) (fun t ht => ?_) hcommit
    · rw [Txn.locked, hwork]
      exact hhash
    · cases ht
  · intro c' hc'
    rcases List.mem_append.mp hc' with hold | hnew
    · exact used_commit hcommit (hinv.used c' hold)
    · rw [List.mem_singleton.mp hnew]
      refine ⟨_, hcommit.old _ token hget, ?_⟩
      rw [if_pos (List.mem_singleton.mpr hpk.symm)]
      simp
  · rw [List.map_append, List.nodup_append]
    refine ⟨hinv.once, List.nodup_singleton _, fun k hk k' hk' heq => ?_⟩
    obtain ⟨c', hc', hkey⟩ := List.mem_map.mp hk
    exact hinv.key_ne hget hunused hc' (hkey.trans (heq.trans (List.mem_singleton.mp hk')))
  · intro c' hc'
    rcases List.mem_append.mp hc' with hold | hnew
    · exact hinv.confirmed c' hold
    · rw [List.mem_singleton.mp hnew]
      exact hinv.of_consumed hget hpurpose htime

theorem moves {e : Event} (hinv : Inv env s) (h : Moves env now s e s') : Inv env s' := by
  cases h with
  | begins h => exact hinv.begins h
  | goesOn h hlocks hinserts hholds _ => exact hinv.goesOn h hlocks hinserts hholds
  | closes _ => exact hinv.close _
  | clashes _ _ => exact hinv.close _
  | issues h hinsert => exact hinv.issues h hinsert
  | confirms h hbody => exact hinv.confirms h hbody

end Inv

theorem Inv.tick (hinv : Inv env s) (now : Int) : Inv env { s with clock := now } :=
  ⟨hinv.rows, hinv.exclusive, hinv.claims, hinv.holds, hinv.used, hinv.once, hinv.confirmed⟩

theorem Inv.step {e : Int × Event} (hinv : Inv env s) (h : step env s e = some s') : Inv env s' :=
  (hinv.tick e.1).moves (step_moves h)

/-! ### A token is consumed once

Beside that, `Tidy` says what one step leaves of everyone else's: other accounts, the tables
where nothing commits, and the rows a transaction gives up as it ends.
-/

/-- How one step leaves the others' accounts and tokens. -/
structure Tidy (s s' : State) : Prop where
  /-- A confirmation commits for the user of its token alone.. -/
  commits : ∀ c, s'.confirmed = s.confirmed ++ [c] →
    ∀ k, k ≠ c.user → s'.db.users.get? k = s.db.users.get? k
  /-- ..and without a commit every table stays as it was.. -/
  rollback : s'.confirmed = s.confirmed → s'.issued = s.issued → s'.db = s.db
  /-- ..while a transaction that has ended has freed its rows. -/
  frees : ∀ txn ∈ s.txns, s'.txns.get? txn.id = none →
    ∀ hash ∈ txn.locked, ∀ id, s'.free id hash = true

private theorem frees_close (hinv : Inv env s) {txn : Txn} (htxn : txn ∈ s.txns)
    (hgone : (s.close id).txns.get? txn.id = none) :
    ∀ hash ∈ txn.locked, ∀ k, (s.close id).free k hash = true := by
  intro hash hhash k
  have hid : txn.id = id := by
    by_contra hne
    exact Table.get?_eq_none.mp hgone txn (mem_close.mpr ⟨htxn, hne⟩) rfl
  rw [← hid]
  exact hinv.exclusive.free_erase htxn hhash k

private theorem append_ne_self {α : Type} (l : List α) (a : α) : l ++ [a] ≠ l := by
  intro h
  have hlength := congrArg List.length h
  rw [List.length_append, List.length_singleton] at hlength
  omega

theorem tidy_moves {e : Event} (hinv : Inv env s) (h : Moves env now s e s') : Tidy s s' := by
  have hno : ∀ c, s.confirmed ≠ s.confirmed ++ [c] := fun c hc => append_ne_self _ _ hc.symm
  cases h with
  | begins hinsert =>
      refine ⟨fun c hc => absurd hc (hno c), fun _ _ => rfl, fun txn htxn hgone => ?_⟩
      have hthere := Table.get?_insert?_old hinsert (Table.get?_of_mem htxn)
      exact absurd (hthere.symm.trans hgone) (by simp)
  | goesOn hwork hlocks hinserts hholds hmissed =>
      refine ⟨fun c hc => absurd hc (hno c), fun _ _ => rfl, fun txn htxn hgone => ?_⟩
      have hget : s.txns.get? txn.id = some txn := Table.get?_of_mem htxn
      rw [State.goOn, Table.get?_modify, hget] at hgone
      split at hgone <;> cases hgone
  | closes hmissed =>
      exact ⟨fun c hc => absurd hc (hno c), fun _ _ => rfl, fun txn htxn => frees_close hinv htxn⟩
  | clashes hwork hinsert =>
      exact ⟨fun c hc => absurd hc (hno c), fun _ _ => rfl, fun txn htxn => frees_close hinv htxn⟩
  | issues hwork hinsert =>
      refine ⟨fun c hc => absurd hc (hno c), fun _ hissued => ?_,
        fun txn htxn => frees_close hinv htxn⟩
      exact absurd hissued (append_ne_self _ _)
  | confirms hwork hbody =>
      refine ⟨fun c hc k hk => ?_, fun hconfirmed _ => ?_, fun txn htxn => frees_close hinv htxn⟩
      · have hc' := List.append_cancel_left hc
        rw [List.cons.injEq] at hc'
        rw [← hc'.1] at hk
        exact (body_actsFor hbody).users k hk
      · exact absurd hconfirmed (append_ne_self _ _)

/-- **One-time tokens are single-use, purpose-bound and atomic**, over every order of the steps of
any transactions: a raw token and a purpose make one confirmation commit at most, which is of
an issue that has committed, for its purpose and its user, and in time. -/
theorem tokens_confirm_once {db : Database} (h : db.oneTimeTokens = ∅) (es : List (Int × Event)) :
    Run.Steps (step env) (fun s _ s' => Tidy s s') { db := db } es ∧
      ∀ s, Run.exec (step env) { db := db } es = some s →
        (s.confirmed.map Confirmed.key).Nodup ∧
        (∀ c ∈ s.confirmed, ∃ i ∈ s.issued, c.Of i) ∧
        -- as long as no raw token is drawn twice, it is for nothing but what it was issued for
        ((s.issued.map Issued.raw).Nodup →
          (s.confirmed.map Confirmed.raw).Nodup ∧
            ∀ i ∈ s.issued, ∀ c ∈ s.confirmed, c.raw = i.raw → c.Of i) := by
  have hfree : Run.Steps (step env) (fun _ _ _ => True) { db := db } es :=
    .of_forall (fun _ _ _ _ => trivial) _ _
  have hstep : ∀ s e s', Inv env s → step env s e = some s' → True → Inv env s' ∧ Tidy s s' := by
    intro s e s' hinv hs _
    have htidy := tidy_moves (hinv.tick e.1) (step_moves hs)
    exact ⟨hinv.step hs, htidy.commits, htidy.rollback, htidy.frees⟩
  refine ⟨Run.Steps.of_inv hstep (Inv.init h) hfree, fun s hs => ?_⟩
  have hinv : Inv env s :=
    Run.exec_of_inv (fun s e s' hinv he _ => hinv.step he) (Inv.init h) hfree hs
  refine ⟨hinv.once, hinv.confirmed, fun hraws => ?_⟩
  have hof : ∀ i ∈ s.issued, ∀ c ∈ s.confirmed, c.raw = i.raw → c.Of i := by
    intro i hi c hc hraw
    obtain ⟨j, hj, hcj⟩ := hinv.confirmed c hc
    have hij : i = j := List.inj_on_of_nodup_map hraws hi hj (hraw.symm.trans hcj.raw)
    exact hij ▸ hcj
  refine ⟨?_, hof⟩
  rw [List.nodup_map_iff_inj_on (List.Nodup.of_map _ hinv.once)]
  intro c hc d hd hraw
  obtain ⟨i, hi, hci⟩ := hinv.confirmed c hc
  have hdi : d.Of i := hof i hi d hd (hraw.symm.trans hci.raw)
  have hkey : c.key = d.key := by
    rw [Confirmed.key, Confirmed.key, hraw, hci.purpose, hdi.purpose]
  exact List.inj_on_of_nodup_map hinv.once hc hd hkey

/-- A password reset, confirmed twice at once with one token. -/
def resetTwice : List (Int × Event) :=
  [(0, .begin 1 (.issue { user := 1, purpose := .passwordReset, ttl := 100 })), (0, .find 1),
    (0, .supersede 1), (1, .insert 1 "raw"), (2, .finish 1),
    (3, .begin 1 (.confirm (.resetPassword "raw" "stronger" "salt" none))),
    (3, .begin 2 (.confirm (.resetPassword "raw" "weaker" "salt" none))),
    (4, .consume 2), (5, .abort 2), (6, .consume 1), (7, .finish 1),
    (8, .begin 3 (.confirm (.resetPassword "raw" "weaker" "salt" none))), (9, .consume 3)]

theorem tokens_confirm_once_reset :
    ∃ s, Run.exec (step .plain) { db := { users := {ada} } } resetTwice = some s ∧
      s.confirmed.map Confirmed.raw = ["raw"] ∧ ∀ c ∈ s.confirmed, ∃ i ∈ s.issued, c.Of i := by
  have h : (Run.exec (step .plain) { db := { users := {ada} } } resetTwice).any
      (fun s => s.confirmed.map Confirmed.raw = ["raw"]) = true := by
    decide
  obtain ⟨s, hs, hraw⟩ := (Option.any_eq_true _ _).mp h
  exact ⟨s, hs, of_decide_eq_true hraw, ((tokens_confirm_once rfl resetTwice).2 s hs).2.1⟩

end Tokens

end DjangoFoundation
