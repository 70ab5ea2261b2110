/-
What a change of password or address does to the one-time tokens already out.

Nothing but `issue` and `consume` writes a token, and `issue` marks those of its own user and
purpose alone.  So at most one token of a purpose is good for anything at a time; a reset or
a change of address uses up the one of its own purpose, and every other token outlives it.

Calls are made one at a time here.  What two issues at once can do is in
`Proofs/Tokens/Superseded.lean`.
-/
import DjangoFoundation.Accounts.Identity
import DjangoFoundation.Proofs.Sessions
import DjangoFoundation.Proofs.Tokens.Moves

namespace DjangoFoundation

namespace Identity

open TokenService

variable {env : Environment} {now : Int} {db db' : Database}

/-! ### What a call writes

Of all the calls only two kinds write the table of tokens: `issue`, and the confirmations,
through `consume`.  A call that raises leaves it as it is, since its transaction is rolled
back.
-/

/-- The tokens after a call. -/
inductive Writes (tokens : Table OneTimeToken) : Table OneTimeToken → Prop
  | nothing : Writes tokens tokens
  | consumes (hash : String) (now : Int) :
      Writes tokens (tokens.modify hash (fun t => { t with usedAt := some now }) (used_pk now))
  | issues {now : Int} {token : OneTimeToken} {tokens' : Table OneTimeToken}
      (h : (tokens.update
        (fun t => t.user = token.user ∧ t.purpose = token.purpose ∧ t.usedAt = none)
        (fun t => { t with usedAt := some now }) (used_pk now)).insert? token = some tokens') :
      Writes tokens tokens'

private theorem tokens_enforce {user : UUID} {actor : Option UUID} {sessionKey : Option String}
    (h : BanService.enforce env now db user actor sessionKey = .ok db') :
    db'.oneTimeTokens = db.oneTimeTokens := by
  obtain ⟨db₁, hrevoke, h⟩ := bind_eq_ok.mp h
  cases h
  exact (SessionService.sameAccounts_revokeAll hrevoke).oneTimeTokens

theorem tokens_ban {pk user : UUID} {reason : String} {actor : Option UUID}
    {startsAt expiresAt : Option Int} {sessionKey : Option String}
    (h : BanService.ban env now db pk user reason actor startsAt expiresAt sessionKey = .ok db') :
    db'.oneTimeTokens = db.oneTimeTokens := by
  obtain ⟨locked, _, h⟩ := bind_eq_ok.mp h
  dsimp only at h
  split at h
  · cases h
  · split at h
    · cases h
    · split at h
      · obtain ⟨db₁, henforce, h⟩ := bind_eq_ok.mp h
        cases h
        have htokens := tokens_enforce henforce
        exact htokens
      · cases h
        rfl

theorem tokens_revoke {ban : UUID} {actor : Option UUID}
    (h : BanService.revoke now db ban actor = .ok db') :
    db'.oneTimeTokens = db.oneTimeTokens := by
  unfold BanService.revoke at h
  split at h
  · cases h
  · obtain ⟨user, _, h⟩ := bind_eq_ok.mp h
    split at h
    · cases h
      rfl
    · cases h
      dsimp only [Database.audit]
      split <;> rfl

private theorem tokens_activate {users : List User}
    (h : users.foldlM (activate env now) db = .ok db') :
    db'.oneTimeTokens = db.oneTimeTokens := by
  induction users generalizing db with
  | nil =>
      cases h
      rfl
  | cons user users ih =>
      rw [List.foldlM_cons] at h
      obtain ⟨db₂, hactivate, h⟩ := bind_eq_ok.mp h
      obtain ⟨db₁, henforce, hactivate⟩ := bind_eq_ok.mp hactivate
      cases hactivate
      have hfirst := tokens_enforce henforce
      exact Eq.trans (ih h) hfirst

private theorem tokens_lift (users : List User) (db : Database) :
    (users.foldl (lift now) db).oneTimeTokens = db.oneTimeTokens := by
  induction users generalizing db with
  | nil => rfl
  | cons user users ih =>
      rw [List.foldl_cons, ih]
      unfold lift
      split <;> rfl

theorem tokens_expireTemporaryBans (h : expireTemporaryBans env now db = .ok db') :
    db'.oneTimeTokens = db.oneTimeTokens := by
  obtain ⟨db₁, hactivate, h⟩ := bind_eq_ok.mp h
  cases h
  exact (tokens_lift _ db₁).trans (tokens_activate hactivate)

/-- A confirmation that returns has used up a token that was good. -/
theorem tokens_confirm {c : Tokens.Confirmation} (h : c.run env now db = .ok db') :
    ∃ token, usable? env now db c.rawToken c.purpose = some token ∧ db'.oneTimeTokens =
      db.oneTimeTokens.modify token.tokenHash (fun t => { t with usedAt := some now })
        (used_pk now) := by
  rw [Tokens.Confirmation.run_eq] at h
  obtain ⟨⟨token, db₁⟩, hconsume, hbody⟩ := bind_eq_ok.mp h
  unfold consume at hconsume
  split at hconsume
  · cases hconsume
  · rename_i husable
    cases hconsume
    exact ⟨token, husable, (Tokens.body_actsFor hbody).oneTimeTokens⟩

theorem tokens_changePassword {user : UUID} {oldPassword newPassword salt : String}
    {sessionKey : Option String} (h : AccountService.changePassword env now db user oldPassword
      newPassword salt sessionKey = .ok db') : db'.oneTimeTokens = db.oneTimeTokens := by
  rcases Sessions.changePassword_cases env now db user oldPassword newPassword salt sessionKey with
    ⟨_, e, herr⟩ | ⟨_, db₁, rows, hok, hrev⟩
  · rw [herr] at h
    cases h
  · rw [hok] at h
    cases h
    exact hrev.accounts.oneTimeTokens

theorem writes_run {call : Call} (h : call.run env now db = .ok db') :
    Writes db.oneTimeTokens db'.oneTimeTokens := by
  have hconfirm : ∀ c : Tokens.Confirmation, c.run env now db = .ok db' →
      Writes db.oneTimeTokens db'.oneTimeTokens := by
    intro c hc
    obtain ⟨token, _, htokens⟩ := tokens_confirm hc
    exact htokens ▸ .consumes token.tokenHash now
  cases call with
  | changePassword user oldPassword newPassword salt sessionKey =>
      exact tokens_changePassword h ▸ .nothing
  | lifecycle call =>
      cases call with
      | issue user purpose ttl metadata raw =>
          simp only [Call.run, Lifecycle.Call.run, issue] at h
          split at h
          · rename_i hinsert
            cases h
            exact .issues hinsert
          · cases h
      | verifyEmail rawToken => exact hconfirm (.verifyEmail rawToken) h
      | resetPassword rawToken newPassword salt sessionKey =>
          exact hconfirm (.resetPassword rawToken newPassword salt sessionKey) h
      | confirmEmailChange rawToken sessionKey =>
          exact hconfirm (.confirmEmailChange rawToken sessionKey) h
      | confirmDeletion rawToken passwordSuffix sessionKey =>
          exact hconfirm (.confirmDeletion rawToken passwordSuffix sessionKey) h
      | ban pk user reason actor startsAt expiresAt sessionKey => exact tokens_ban h ▸ .nothing
      | revoke pk actor => exact tokens_revoke h ▸ .nothing
      | expireTemporaryBans => exact tokens_expireTemporaryBans h ▸ .nothing

theorem writes_step {s s' : State} {e : Int × Call} (h : step env s e = some s') :
    Writes s.db.oneTimeTokens s'.db.oneTimeTokens := by
  unfold step at h
  split at h
  · cases h
    cases hrun : e.2.run env e.1 s.db with
    | error _ => exact .nothing
    | ok db' => exact writes_run hrun
  · cases h

/-! ### What outlasts a run

Two facts about any later state are enough.  A token that was there is there, under its hash
and with its purpose, and used if it was used; and of a user and a purpose one at most is
unused.
-/

/-- Every token is still there, and used if it was. -/
def Outlasts (tokens tokens' : Table OneTimeToken) : Prop :=
  ∀ token ∈ tokens, ∃ token' ∈ tokens', token'.tokenHash = token.tokenHash ∧
    token'.purpose = token.purpose ∧ token'.expiresAt = token.expiresAt ∧
    (token'.usedAt = none → token.usedAt = none)

/-- Of the tokens of a user and a purpose one at most is unused. -/
def Single (tokens : Table OneTimeToken) : Prop :=
  ∀ a ∈ tokens, ∀ b ∈ tokens, a.user = b.user → a.purpose = b.purpose → a.usedAt = none →
    b.usedAt = none → a = b

theorem Outlasts.refl (tokens : Table OneTimeToken) : Outlasts tokens tokens :=
  fun token htoken => ⟨token, htoken, rfl, rfl, rfl, id⟩

theorem Outlasts.trans {a b c : Table OneTimeToken} (h : Outlasts a b) (h' : Outlasts b c) :
    Outlasts a c := by
  intro token htoken
  obtain ⟨t, ht, hhash, hpurpose, hexpires, hused⟩ := h token htoken
  obtain ⟨t', ht', hhash', hpurpose', hexpires', hused'⟩ := h' t ht
  exact ⟨t', ht', hhash'.trans hhash, hpurpose'.trans hpurpose, hexpires'.trans hexpires,
    hused ∘ hused'⟩

variable {tokens tokens' : Table OneTimeToken}

/-- Marking some of the tokens keeps them all. -/
private theorem outlasts_update (p : OneTimeToken → Bool) (now : Int) :
    Outlasts tokens (tokens.update p (fun t => { t with usedAt := some now }) (used_pk now)) := by
  intro token htoken
  refine ⟨_, Table.mem_update.mpr ⟨token, htoken, rfl⟩, ?_⟩
  split
  · exact ⟨rfl, rfl, rfl, fun h => by cases h⟩
  · exact ⟨rfl, rfl, rfl, id⟩

theorem Writes.outlasts (h : Writes tokens tokens') : Outlasts tokens tokens' := by
  cases h with
  | nothing => exact .refl tokens
  | consumes hash now => exact outlasts_update _ now
  | issues hinsert =>
      intro token htoken
      obtain ⟨t, ht, hrest⟩ := outlasts_update _ _ token htoken
      exact ⟨t, (Table.mem_insert? hinsert).mpr (Or.inl ht), hrest⟩

theorem Writes.single (hsingle : Single tokens) (h : Writes tokens tokens') : Single tokens' := by
  -- an unused token of a marked table is one that was there, and was not marked
  have hold : ∀ {p : OneTimeToken → Bool} {now : Int} {t : OneTimeToken},
      t ∈ tokens.update p (fun t => { t with usedAt := some now }) (used_pk now) →
      t.usedAt = none → t ∈ tokens ∧ p t = false := by
    intro p now t ht hunused
    obtain ⟨t', ht', rfl⟩ := Table.mem_update.mp ht
    split at hunused
    · cases hunused
    · rename_i hp
      rw [if_neg hp]
      exact ⟨ht', by simpa using hp⟩
  cases h with
  | nothing => exact hsingle
  | consumes hash now =>
      intro a ha b hb huser hpurpose hua hub
      exact hsingle a (hold ha hua).1 b (hold hb hub).1 huser hpurpose hua hub
  | @issues now token tokens' hinsert =>
      -- one of the new token's pair that was there is marked
      have hpair : ∀ t ∈ tokens.update
          (fun t => t.user = token.user ∧ t.purpose = token.purpose ∧ t.usedAt = none)
          (fun t => { t with usedAt := some now }) (used_pk now),
          t.usedAt = none → t.user = token.user → t.purpose ≠ token.purpose := by
        intro t ht hunused huser hpurpose
        have hnot := (hold ht hunused).2
        simp only [huser, hpurpose, hunused, decide_eq_false_iff_not, true_and, not_true] at hnot
      intro a ha b hb huser hpurpose hua hub
      rcases (Table.mem_insert? hinsert).mp ha with ha | rfl
      · rcases (Table.mem_insert? hinsert).mp hb with hb | rfl
        · exact hsingle a (hold ha hua).1 b (hold hb hub).1 huser hpurpose hua hub
        · exact absurd hpurpose (hpair a ha hua huser)
      · rcases (Table.mem_insert? hinsert).mp hb with hb | rfl
        · exact absurd hpurpose.symm (hpair b hb hub huser.symm)
        · rfl

/-! ### One change and what comes after

A change presents one token and uses it up.  By the two facts above, a token that confirms
later was unused at the change, and if it is of the same purpose it was the one unused token,
which is the one the change used up.
-/

/-- What a token that was out at a change must be for a later call to confirm with it. -/
structure Survives (change : Call) (tokens : Table OneTimeToken) (now : Int)
    (token : OneTimeToken) : Prop where
  otherPurpose : change.confirms?.map Prod.snd ≠ some token.purpose
  unused : token.usedAt = none
  unexpired : now < token.expiresAt
  /-- Of its user and purpose no other is unused. -/
  only : ∀ other ∈ tokens, other.user = token.user → other.purpose = token.purpose →
    other.usedAt = none → other = token

/-- The confirmation a call makes, if it makes one of a token. -/
private theorem confirms_run {call : Call} {rawToken : String} {purpose : TokenPurpose}
    (h : call.confirms? = some (rawToken, purpose)) :
    ∃ c : Tokens.Confirmation, c.rawToken = rawToken ∧ c.purpose = purpose ∧
      ∀ now db, call.run env now db = c.run env now db := by
  cases call with
  | changePassword _ _ _ _ _ => cases h
  | lifecycle call =>
      cases call <;> cases h
      · exact ⟨.resetPassword _ _ _ _, rfl, rfl, fun _ _ => rfl⟩
      · exact ⟨.confirmEmailChange _ _, rfl, rfl, fun _ _ => rfl⟩
      · exact ⟨.confirmDeletion _ _ _, rfl, rfl, fun _ _ => rfl⟩

private theorem commits_eq_true {call : Call} (h : call.commits env now db = true) :
    ∃ db', call.run env now db = .ok db' := by
  unfold Call.commits at h
  cases hrun : call.run env now db with
  | error e =>
      rw [hrun] at h
      cases h
  | ok db' => exact ⟨db', rfl⟩

/-- A call that confirms with a token finds it good. -/
private theorem usable_of_commits {call : Call} {token : OneTimeToken}
    (hpresents : call.presents env token = true) (hcommits : call.commits env now db = true) :
    ∃ row, row ∈ db.oneTimeTokens ∧ row.tokenHash = token.tokenHash ∧
      call.confirms?.map Prod.snd = some row.purpose ∧ row.usedAt = none ∧
      now < row.expiresAt := by
  obtain ⟨⟨rawToken, purpose⟩, hconfirms, hhash⟩ := (Option.any_eq_true _ _).mp hpresents
  obtain ⟨c, rfl, rfl, hrun⟩ := @confirms_run env call rawToken purpose hconfirms
  obtain ⟨db', hok⟩ := commits_eq_true hcommits
  obtain ⟨row, husable, _⟩ := tokens_confirm ((hrun now db).symm.trans hok)
  obtain ⟨hget, hpurpose, hunused, hunexpired⟩ := Tokens.usable?_eq_some husable
  refine ⟨row, Table.mem_of_get? hget, ?_, ?_, hunused, hunexpired⟩
  · exact (Table.pk_of_get? hget).trans (of_decide_eq_true hhash)
  · rw [hconfirms, Option.map_some, hpurpose]

/-- A change writes no token but the one it presents, and that one it uses up. -/
private theorem change_spares {call : Call} {u : UUID}
    (hchanges : call.changes? env now db = some u) (h : call.run env now db = .ok db') :
    (∀ token ∈ db.oneTimeTokens, call.presents env token = false → token ∈ db'.oneTimeTokens) ∧
      ∀ purpose, call.confirms?.map Prod.snd = some purpose → ∃ used ∈ db.oneTimeTokens,
        used.user = u ∧ used.purpose = purpose ∧ used.usedAt = none ∧
        ∀ token ∈ db'.oneTimeTokens, token.tokenHash = used.tokenHash → token.usedAt ≠ none := by
  have hconfirm : ∀ c : Tokens.Confirmation, c.run env now db = .ok db' →
      ((usable? env now db c.rawToken c.purpose).map fun token => token.user) = some u →
      (∀ token ∈ db.oneTimeTokens, tokenHash env c.rawToken c.purpose ≠ token.tokenHash →
        token ∈ db'.oneTimeTokens) ∧
      ∃ used ∈ db.oneTimeTokens, used.user = u ∧ used.purpose = c.purpose ∧ used.usedAt = none ∧
        ∀ token ∈ db'.oneTimeTokens, token.tokenHash = used.tokenHash → token.usedAt ≠ none := by
    intro c hc huser
    obtain ⟨used, husable, htokens⟩ := tokens_confirm hc
    rw [husable, Option.map_some, Option.some.injEq] at huser
    obtain ⟨hget, hpurpose, hunused, _⟩ := Tokens.usable?_eq_some husable
    have hpk : used.tokenHash = tokenHash env c.rawToken c.purpose := Table.pk_of_get? hget
    rw [htokens]
    refine ⟨fun token htoken hne => ?_, used, Table.mem_of_get? hget, huser, hpurpose, hunused, ?_⟩
    · exact Table.mem_modify.mpr (Or.inr ⟨htoken, fun hk => hne (hpk.symm.trans hk.symm)⟩)
    · intro token htoken hhash
      rcases Table.mem_modify.mp htoken with ⟨_, _, _, rfl⟩ | ⟨_, hk⟩
      · simp
      · exact absurd hhash hk
  cases call with
  | changePassword user oldPassword newPassword salt sessionKey =>
      refine ⟨fun token htoken _ => ?_, fun purpose hpurpose => by cases hpurpose⟩
      have hsame := tokens_changePassword h
      rw [hsame]
      exact htoken
  | lifecycle call =>
      cases call with
      | resetPassword rawToken newPassword salt sessionKey =>
          obtain ⟨hspared, hused⟩ :=
            hconfirm (.resetPassword rawToken newPassword salt sessionKey) h hchanges
          refine ⟨fun token htoken hnot => hspared token htoken (of_decide_eq_false hnot), ?_⟩
          rintro _ ⟨⟩
          exact hused
      | confirmEmailChange rawToken sessionKey =>
          obtain ⟨hspared, hused⟩ := hconfirm (.confirmEmailChange rawToken sessionKey) h hchanges
          refine ⟨fun token htoken hnot => hspared token htoken (of_decide_eq_false hnot), ?_⟩
          rintro _ ⟨⟩
          exact hused
      | issue | verifyEmail | confirmDeletion | ban | revoke | expireTemporaryBans =>
          cases hchanges

/-- What a change of the password or the address of `u` ends, and what it does not: it writes to
no token but the one it uses up, and of those out before it a later call confirms with none but
the only unused one of another purpose, in time. -/
def EndsOwnPurpose (env : Environment) (s : State) (e : Int × Call) (s' : State) : Prop :=
  ∀ u, e.2.changes? env e.1 s.db = some u → e.2.commits env e.1 s.db = true →
    (∀ token ∈ s.db.oneTimeTokens, e.2.presents env token = false →
      token ∈ s'.db.oneTimeTokens) ∧
    ∀ es, Run.Steps (step env) (fun t e' _ => ∀ token ∈ s.db.oneTimeTokens, token.user = u →
      e'.2.presents env token = true → e'.2.commits env e'.1 t.db = true →
      Survives e.2 s.db.oneTimeTokens e'.1 token) s' es

/-- **A change of password or address ends the tokens of its own purpose, and no others.** -/
theorem identity_change_ends_own_purpose (env : Environment) {db : Database}
    (h : db.oneTimeTokens = ∅) (clock : Int) (es : List (Int × Call)) :
    Run.Steps (step env) (EndsOwnPurpose env) { clock := clock, db := db } es := by
  have hinit : Single db.oneTimeTokens := by
    intro a ha
    rw [h] at ha
    exact absurd ha (Table.not_mem_empty a)
  have hfree : ∀ s es, Run.Steps (step env) (fun _ _ _ => True) s es :=
    Run.Steps.of_forall fun _ _ _ _ => trivial
  have hstep : ∀ s e s', Single s.db.oneTimeTokens → step env s e = some s' → True →
      Single s'.db.oneTimeTokens ∧ EndsOwnPurpose env s e s' := ?_
  · exact Run.Steps.of_inv hstep hinit (hfree _ es)
  intro s e s' hsingle hs _
  refine ⟨(writes_step hs).single hsingle, fun u hchanges hcommits => ?_⟩
  obtain ⟨db', hok⟩ := commits_eq_true hcommits
  have hdb : s'.db = db' := by
    unfold step at hs
    split at hs
    · cases hs
      rw [hok]
      rfl
    · cases hs
  obtain ⟨hspared, hused⟩ := change_spares hchanges hok
  refine ⟨hdb ▸ hspared, fun es' => ?_⟩
  -- whatever was out at the change is still there, and used if it was used right after it
  have hlater : ∀ t e' t', Outlasts s'.db.oneTimeTokens t.db.oneTimeTokens →
      step env t e' = some t' → True →
      Outlasts s'.db.oneTimeTokens t'.db.oneTimeTokens ∧ ∀ token ∈ s.db.oneTimeTokens,
        token.user = u → e'.2.presents env token = true →
        e'.2.commits env e'.1 t.db = true → Survives e.2 s.db.oneTimeTokens e'.1 token := ?_
  · exact Run.Steps.of_inv hlater (Outlasts.refl _) (hfree _ es')
  intro t e' t' hafter ht _
  refine ⟨hafter.trans (writes_step ht).outlasts, fun token htoken huser hpresents hlater => ?_⟩
  obtain ⟨row, hrow, hhash, _, hunused, hunexpired⟩ := usable_of_commits hpresents hlater
  obtain ⟨token₁, htoken₁, hhash₁, hpurpose₁, hexpires₁, hused₁⟩ :=
    (writes_step hs).outlasts token htoken
  obtain ⟨token₂, htoken₂, hhash₂, hpurpose₂, hexpires₂, hused₂⟩ := hafter token₁ htoken₁
  have hsame : row = token₂ := Table.eq_of_pk_eq hrow htoken₂
    (hhash.trans (hhash₂.trans hhash₁).symm)
  rw [hsame] at hunused hunexpired
  have hunused₁ : token₁.usedAt = none := hused₂ hunused
  have hunused₀ : token.usedAt = none := hused₁ hunused₁
  refine ⟨fun hpurpose => ?_, hunused₀, by rwa [← hexpires₁, ← hexpires₂], ?_⟩
  · -- the one token of the change's own purpose that was good is the one it used up
    obtain ⟨used, hmem, hu, hp, hu₀, hgone⟩ := hused token.purpose hpurpose
    have heq : used = token := hsingle used hmem token htoken (hu.trans huser.symm) hp hu₀ hunused₀
    exact hgone token₁ (hdb ▸ htoken₁) (heq ▸ hhash₁) hunused₁
  · intro other hother hou hop hounused
    exact hsingle other hother token htoken hou hop hounused hunused₀

/-- A reset token asked for twice; the second serves. -/
def resetOnce : List (Int × Call) :=
  [(0, .lifecycle (.issue 1 .passwordReset 100 [] "first")),
    (1, .lifecycle (.issue 1 .passwordReset 100 [] "second")),
    (2, .lifecycle (.resetPassword "second" "stronger" "salt" none)),
    (3, .lifecycle (.resetPassword "first" "weaker" "salt" none))]

theorem identity_change_ends_own_purpose_reset :
    Run.Steps (step .plain) (EndsOwnPurpose .plain) { clock := 0, db := { users := {ada} } }
      resetOnce :=
  identity_change_ends_own_purpose .plain rfl 0 resetOnce

/-- Every token that was out at a change is dead after it. -/
def InvalidatesAll (env : Environment) (s : State) (e : Int × Call) (s' : State) : Prop :=
  ∀ u, e.2.changes? env e.1 s.db = some u → e.2.commits env e.1 s.db = true →
    ∀ es, Run.Steps (step env) (fun t e' _ => ∀ token ∈ s.db.oneTimeTokens, token.user = u →
      e'.2.presents env token = true → e'.2.commits env e'.1 t.db = false) s' es

/-- A reset token mailed to the old address, and a change to a new one. -/
def resetMailed : List (Int × Call) :=
  [(0, .lifecycle (.issue 1 .passwordReset 100 [] "reset")),
    (1, .lifecycle (.issue 1 .emailChange 100 [("new_email", "ada@example.net")] "address"))]

/-- The new address is confirmed, and the password reset from the old one. -/
theorem reset_token_outlives_email_change :
    ¬Run.Steps (step .plain) (InvalidatesAll .plain) { clock := 0, db := { users := {ada} } }
      (resetMailed ++ [(2, .lifecycle (.confirmEmailChange "address" none))]) := by
  intro h
  have hall := h.mid rfl rfl 1 (by decide) (by decide)
    [(3, .lifecycle (.resetPassword "reset" "stronger" "salt" none))]
  revert hall
  decide

end Identity

end DjangoFoundation
