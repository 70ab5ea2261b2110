/-
What a password change does to the refresh tokens of logins under way.

A login carries the number of password changes its user had behind them when its password was
checked.  A change blacklists the tokens its query finds and takes the sessions away that it
finds, so a login that has its session by then gets no answer with a token in it, or one whose
token is blacklisted.  What escapes it is a login that makes its session later, with the password
checked before; and a token that is handed out beside the change and not found by its query.

Both kinds of escape come from one thing, that the login reads the password and mints the token
in different transactions, and that nothing it holds in between is what a password change waits
for.
-/
import DjangoFoundation.Proofs.Passwords.Writes

namespace DjangoFoundation

namespace Passwords

variable {env : Environment} {twoFactor : TwoFactor} {settings : LoginSettings}
  {refreshLifetime now : Int} {s s' : State} {id : Nat}

/-! ### What a step can do

One constructor of `Moves` for each thing that matters to refresh tokens.  Steps that hand none
out and blacklist none are all of one kind.
-/

/-- The tokens that outlive a password change once the step is taken: one handed out for a
password that has changed since it was checked, and those a commit finds that its query has
not. -/
def State.escaping (env : Environment) (s : State) : Event → List OutstandingToken
  | .respond id =>
      match s.login? id .minted with
      | none => []
      | some login =>
          login.refresh.toList.filter fun token =>
            login.version < s.version login.user.pk ∧ s.accepts token ∧
              (s.db.sessions.get? (login.sessionKey env)).isSome
  | .commit id =>
      match s.changes.get? id with
      | none => []
      | some change =>
          match change.found with
          | none => []
          | some found =>
              (s.handedOut.map HandedOut.token).filter fun token =>
                token.user = change.user.pk ∧ s.accepts token ∧ token ∉ found
  | _ => []

/-- The login has just been checked, or is one that was there. -/
def State.Follows (s : State) (login : Login) : Prop :=
  login.version = s.version login.user.pk ∧ login.refresh = none ∨
    ∃ old ∈ s.logins, old.user = login.user ∧ old.version = login.version ∧
      old.refresh = login.refresh

/-- What one step comes to, as far as refresh tokens go. -/
inductive Moves (env : Environment) (refreshLifetime now : Int) (s : State) : Event → State → Prop
  | keeps {e : Event} {db : Database} {p : Protection} {logins : Table Login}
      {changes : Table Change} (hsame : SameTokens s.db db)
      (hlogins : ∀ login ∈ logins, s.Follows login)
      (hchanges : ∀ change ∈ changes, ∀ found, change.found = some found →
        found = Call.outstanding s.db change.user.pk ∨
          ∃ old ∈ s.changes, old.user = change.user ∧ old.found = some found)
      (hescaping : s.escaping env e = []) :
      Moves env refreshLifetime now s e { s with
        db := db, protection := p, logins := logins, changes := changes }
  | mints {id : Nat} {jti : String} {login : Login} {tokens : Table OutstandingToken}
      (hlogin : s.login? id .entered = some login)
      (hinsert : s.db.outstandingTokens.insert? ⟨jti, login.user.pk, now + refreshLifetime⟩
        = some tokens) :
      Moves env refreshLifetime now s (.mint id jti) { s with
        db := { s.db with outstandingTokens := tokens }
        logins := s.logins.modify login.id fun old => { old with
          phase := .minted, refresh := some ⟨jti, login.user.pk, now + refreshLifetime⟩ } }
  | hands {id : Nat} {login : Login} {token : OutstandingToken}
      (hlogin : s.login? id .minted = some login) (htoken : login.refresh = some token)
      (hsession : (s.db.sessions.get? (login.sessionKey env)).isSome = true) :
      Moves env refreshLifetime now s (.respond id) { s.leave login.id with
        handedOut := s.handedOut ++ [⟨token, login.version⟩] }
  | commits {id : Nat} {change : Change} {found : List OutstandingToken} {db : Database}
      (hchange : s.changes.get? id = some change) (hfound : change.found = some found)
      (houtstanding : db.outstandingTokens = s.db.outstandingTokens)
      (hblacklisted : db.blacklistedTokens = (Call.blacklist s.db found).blacklistedTokens) :
      Moves env refreshLifetime now s (.commit id) { s.close change.id with
        db := db, changed := s.changed ++ [change.user.pk] }

private theorem old_logins (login : Login) (h : login ∈ s.logins) : s.Follows login :=
  Or.inr ⟨login, h, rfl, rfl, rfl⟩

private theorem left_logins (login : Login) (h : login ∈ (s.leave id).logins) :
    s.Follows login :=
  old_logins login (Table.mem_erase.mp h).1

private theorem gone_logins {phase : Phase} (login : Login) (h : login ∈ (s.goOn id phase).logins) :
    s.Follows login := by
  have hmem := (@Table.mem_modify _ _ _ _ s.logins id (fun login => { login with phase := phase })
    (fun _ => rfl) login).mp h
  rcases hmem with ⟨old, hold, _, rfl⟩ | ⟨hold, _⟩
  · exact Or.inr ⟨old, hold, rfl, rfl, rfl⟩
  · exact old_logins login hold

private theorem old_changes (change : Change) (h : change ∈ s.changes)
    (found : List OutstandingToken) (hfound : change.found = some found) :
    found = Call.outstanding s.db change.user.pk ∨
      ∃ old ∈ s.changes, old.user = change.user ∧ old.found = some found :=
  Or.inr ⟨change, h, rfl, hfound⟩

theorem begin_cases {request : LoginRequest} (h : s.begin env settings now id request = some s') :
    Moves env refreshLifetime now s (.login id request) s' := by
  unfold State.begin at h
  split at h
  · cases h
    exact .keeps (.refl s.db) old_logins old_changes rfl
  · split at h
    · cases h
      exact .keeps sameTokens_refuse old_logins old_changes rfl
    · obtain ⟨logins, hinsert, rfl⟩ := Option.map_eq_some_iff.mp h
      refine .keeps (.refl s.db) (fun login hlogin => ?_) old_changes rfl
      rcases (Table.mem_insert? hinsert).mp hlogin with hold | rfl
      · exact old_logins login hold
      · exact Or.inl ⟨rfl, rfl⟩

theorem pass_cases (login : Login) : Moves env refreshLifetime now s (.pass id)
    (s.pass env twoFactor settings now login) := by
  unfold State.pass
  split
  · exact .keeps (.refl s.db) left_logins old_changes rfl
  · rename_i db hlock
    have hsame := sameTokens_takeOffLock hlock
    split
    · exact .keeps hsame left_logins old_changes rfl
    · have hcode := @sameTokens_checkCode env twoFactor settings now db s.protection login.user
        login.request
      split
      · rename_i db' p hcheck
        rw [hcheck] at hcode
        exact .keeps (hsame.trans hcode) left_logins old_changes rfl
      · rename_i db' p hcheck
        rw [hcheck] at hcode
        exact .keeps (hsame.trans hcode) gone_logins old_changes rfl

theorem mint_cases {jti : String} {login : Login} (h : s.login? id .entered = some login) :
    Moves env refreshLifetime now s (.mint id jti) (s.mint refreshLifetime now login jti) := by
  unfold State.mint
  dsimp only
  split
  · exact .keeps (.refl s.db) left_logins old_changes rfl
  · rename_i tokens hinsert
    exact .mints h hinsert

theorem respond_cases {login : Login} (h : s.login? id .minted = some login) :
    Moves env refreshLifetime now s (.respond id) (s.respond env login) := by
  unfold State.respond
  cases htoken : login.refresh with
  | none =>
      have hescaping : s.escaping env (.respond id) = [] := by
        simp [State.escaping, h, htoken]
      split
      · rw [Option.toList_none, List.map_nil, List.append_nil]
        exact .keeps (.refl s.db) left_logins old_changes hescaping
      · exact .keeps (.refl s.db) left_logins old_changes hescaping
  | some token =>
      split
      · rename_i hsession
        exact .hands h htoken hsession
      · rename_i hsession
        refine .keeps (.refl s.db) left_logins old_changes ?_
        simp [State.escaping, h, htoken, hsession]

theorem change_cases {call : Call} (h : s.change env now id call = some s') :
    Moves env refreshLifetime now s (.change id call) s' := by
  unfold State.change at h
  split at h
  · cases h
    exact .keeps (.refl s.db) old_logins old_changes rfl
  · split at h
    · obtain ⟨changes, hinsert, rfl⟩ := Option.map_eq_some_iff.mp h
      refine .keeps (.refl s.db) old_logins (fun change hchange found hfound => ?_) rfl
      rcases (Table.mem_insert? hinsert).mp hchange with hold | rfl
      · exact old_changes change hold found hfound
      · cases hfound
    · cases h

theorem find_cases {change : Change} (h : change ∈ s.changes) :
    Moves env refreshLifetime now s (.find id) (s.find change) := by
  refine .keeps (.refl s.db) old_logins (fun c hc found hfound => ?_) rfl
  have hmem := (@Table.mem_modify _ _ _ _ s.changes change.id
    (fun c => { c with found := some (Call.outstanding s.db change.user.pk) })
    (fun _ => rfl) c).mp hc
  rcases hmem with ⟨old, hold, hid, rfl⟩ | ⟨hold, _⟩
  · have hsame : old = change := Table.eq_of_pk_eq hold h hid
    cases hfound
    rw [hsame]
    exact Or.inl rfl
  · exact old_changes c hold found hfound

theorem commit_cases {change : Change} {found : List OutstandingToken}
    (hchange : s.changes.get? id = some change) (hfound : change.found = some found) :
    Moves env refreshLifetime now s (.commit id) (s.commit env now change found) := by
  obtain ⟨db, hwrite, houtstanding, hblacklisted⟩ := write_ok env now
    { s.db with oneTimeTokens := change.call.consumed env change.began s.db.oneTimeTokens }
    change.user found change.call
  simp only [State.commit, hwrite]
  exact .commits hchange hfound houtstanding hblacklisted

theorem move_cases {e : Event} (h : s.move env twoFactor settings refreshLifetime now e = some s') :
    Moves env refreshLifetime now s e s' := by
  cases e with
  | login id request => exact begin_cases h
  | pass id =>
      obtain ⟨login, _, rfl⟩ := Option.map_eq_some_iff.mp h
      exact pass_cases login
  | enter id =>
      obtain ⟨login, _, h⟩ := Option.bind_eq_some_iff.mp h
      split at h
      · cases h
      · cases h
        exact .keeps sameTokens_succeed gone_logins old_changes rfl
  | mint id jti =>
      obtain ⟨login, hlogin, rfl⟩ := Option.map_eq_some_iff.mp h
      exact mint_cases hlogin
  | respond id =>
      obtain ⟨login, hlogin, h⟩ := Option.bind_eq_some_iff.mp h
      split at h
      · cases h
      · cases h
        exact respond_cases hlogin
  | change id call => exact change_cases h
  | find id =>
      obtain ⟨change, hchange, rfl⟩ := Option.map_eq_some_iff.mp h
      obtain ⟨hget, _⟩ := Option.filter_eq_some_iff.mp hchange
      exact find_cases (Table.mem_of_get? hget)
  | commit id =>
      obtain ⟨change, hchange, h⟩ := Option.bind_eq_some_iff.mp h
      obtain ⟨found, hfound, h⟩ := Option.bind_eq_some_iff.mp h
      cases h
      exact commit_cases hchange hfound
  | abort id =>
      obtain ⟨change, _, rfl⟩ := Option.map_eq_some_iff.mp h
      refine .keeps (.refl s.db) old_logins (fun c hc => ?_) rfl
      exact old_changes c (Table.mem_erase.mp hc).1

/-! ### The invariant

Tokens handed out, and those a login or a change holds, are rows of the table, and no version
is ahead of the number of changes.  With that, whether a token escapes can be read off the step
that hands it out or commits the change.
-/

structure Inv (s : State) : Prop where
  handedOut : ∀ m ∈ s.handedOut, s.db.outstandingTokens.get? m.token.jti = some m.token ∧
    m.version ≤ s.version m.token.user
  versions : ∀ login ∈ s.logins, login.version ≤ s.version login.user.pk
  refresh : ∀ login ∈ s.logins, ∀ token, login.refresh = some token →
    token.user = login.user.pk ∧ s.db.outstandingTokens.get? token.jti = some token
  found : ∀ change ∈ s.changes, ∀ found, change.found = some found →
    ∀ token ∈ found, s.db.outstandingTokens.get? token.jti = some token

/-- A token of a login whose password has changed since it was checked is not accepted. -/
def Invalidated (s : State) : Prop :=
  ∀ m ∈ s.handedOut, m.version < s.version m.token.user → s.accepts m.token = false

theorem login?_eq_some {phase : Phase} {login : Login} (h : s.login? id phase = some login) :
    login ∈ s.logins :=
  Table.mem_of_get? (Option.filter_eq_some_iff.mp h).1

theorem version_close (user other : UUID) (id : Nat) (db : Database) :
    ({ s.close id with db := db, changed := s.changed ++ [user] } : State).version other =
      s.version other + if user = other then 1 else 0 := by
  simp only [State.version, List.count_append, List.count_singleton, beq_iff_eq]

theorem inv_moves {e : Event} (hinv : Inv s) (h : Moves env refreshLifetime now s e s') :
    Inv s' := by
  cases h with
  | keeps hsame hlogins hchanges hescaping =>
      constructor
      · intro m hm
        rw [hsame.outstandingTokens]
        exact hinv.handedOut m hm
      · intro login hlogin
        rcases hlogins login hlogin with ⟨heq, _⟩ | ⟨old, hold, huser, hversion, _⟩
        · exact Nat.le_of_eq heq
        · have hle := hinv.versions old hold
          rw [huser, hversion] at hle
          exact hle
      · intro login hlogin token htoken
        rw [hsame.outstandingTokens]
        rcases hlogins login hlogin with ⟨_, hnone⟩ | ⟨old, hold, huser, _, hrefresh⟩
        · rw [hnone] at htoken
          cases htoken
        · rw [← huser]
          exact hinv.refresh old hold token (hrefresh.trans htoken)
      · intro change hchange found hfound token htoken
        rw [hsame.outstandingTokens]
        rcases hchanges change hchange found hfound with rfl | ⟨old, hold, _, hold'⟩
        · exact Table.get?_of_mem (List.mem_filter.mp htoken).1
        · exact hinv.found old hold found hold' token htoken
  | @mints id jti login tokens hlogin hinsert =>
      have hkept : ∀ {token : OutstandingToken},
          s.db.outstandingTokens.get? token.jti = some token → tokens.get? token.jti = some token :=
        fun hget => Table.get?_insert?_old hinsert hget
      have hlogins := fun other => @Table.mem_modify _ _ _ _ s.logins login.id
        (fun old => { old with
          phase := .minted, refresh := some ⟨jti, login.user.pk, now + refreshLifetime⟩ })
        (fun _ => rfl) other
      constructor
      · intro m hm
        obtain ⟨hget, hle⟩ := hinv.handedOut m hm
        exact ⟨hkept hget, hle⟩
      · intro other hother
        rcases (hlogins other).mp hother with ⟨old, hold, _, rfl⟩ | ⟨hold, _⟩
        · exact hinv.versions old hold
        · exact hinv.versions other hold
      · intro other hother token htoken
        rcases (hlogins other).mp hother with ⟨old, hold, hid, rfl⟩ | ⟨hold, _⟩
        · have hsame : old = login := Table.eq_of_pk_eq hold (login?_eq_some hlogin) hid
          cases htoken
          rw [hsame]
          exact ⟨rfl, Table.get?_insert?_self hinsert⟩
        · obtain ⟨huser, hget⟩ := hinv.refresh other hold token htoken
          exact ⟨huser, hkept hget⟩
      · intro change hchange found hfound token htoken
        exact hkept (hinv.found change hchange found hfound token htoken)
  | @hands id login token hlogin htoken hsession =>
      have hmem := login?_eq_some hlogin
      obtain ⟨huser, hget⟩ := hinv.refresh login hmem token htoken
      constructor
      · intro m hm
        rcases List.mem_append.mp hm with hold | hnew
        · exact hinv.handedOut m hold
        · rw [List.mem_singleton.mp hnew]
          refine ⟨hget, ?_⟩
          rw [huser]
          exact hinv.versions login hmem
      · intro other hother
        exact hinv.versions other (Table.mem_erase.mp hother).1
      · intro other hother
        exact hinv.refresh other (Table.mem_erase.mp hother).1
      · exact hinv.found
  | commits hchange hfound houtstanding hblacklisted =>
      constructor
      · intro m hm
        obtain ⟨hget, hle⟩ := hinv.handedOut m hm
        rw [houtstanding, version_close]
        exact ⟨hget, by omega⟩
      · intro login hlogin
        rw [version_close]
        have hle := hinv.versions login hlogin
        omega
      · intro login hlogin token htoken
        rw [houtstanding]
        exact hinv.refresh login hlogin token htoken
      · intro c hc found' hfound' token htoken
        rw [houtstanding]
        exact hinv.found c (Table.mem_erase.mp hc).1 found' hfound' token htoken

/-! ### What a password change leaves accepted

For each step that can break it the condition is exact: `Invalidated` holds afterwards where
nothing escapes, and fails where something does.
-/

theorem invalidated_hands_iff {login : Login} {token : OutstandingToken}
    (hinv : Inv s) (hbefore : Invalidated s) (hlogin : s.login? id .minted = some login)
    (htoken : login.refresh = some token)
    (hsession : (s.db.sessions.get? (login.sessionKey env)).isSome = true) :
    Invalidated { s.leave login.id with handedOut := s.handedOut ++ [⟨token, login.version⟩] } ↔
      s.escaping env (.respond id) = [] := by
  have huser := (hinv.refresh login (login?_eq_some hlogin) token htoken).1
  have hescaping : s.escaping env (.respond id) = [] ↔
      (login.version < s.version token.user → s.accepts token = false) := by
    simp [State.escaping, hlogin, htoken, hsession, huser]
  rw [hescaping]
  constructor
  · intro hafter hold
    exact hafter _ (List.mem_append_right _ (List.mem_singleton.mpr rfl)) hold
  · intro hno m hm hversion
    rcases List.mem_append.mp hm with hold | hnew
    · exact hbefore m hold hversion
    · rw [List.mem_singleton.mp hnew] at hversion ⊢
      exact hno hversion

theorem invalidated_commits_iff {change : Change} {found : List OutstandingToken} {db : Database}
    (hinv : Inv s) (hbefore : Invalidated s) (hchange : s.changes.get? id = some change)
    (hfound : change.found = some found)
    (hblacklisted : db.blacklistedTokens = (Call.blacklist s.db found).blacklistedTokens) :
    Invalidated { s.close change.id with db := db, changed := s.changed ++ [change.user.pk] } ↔
      s.escaping env (.commit id) = [] := by
  have hmem := Table.mem_of_get? hchange
  have haccepts : ∀ token : OutstandingToken,
      ({ s.close change.id with db := db, changed := s.changed ++ [change.user.pk] } :
        State).accepts token = true ↔ s.accepts token = true ∧ ∀ t ∈ found, t.jti ≠ token.jti := by
    intro token
    simp only [State.accepts, hblacklisted, Bool.and_eq_true, blacklist_isNone, and_assoc]
    exact Iff.rfl
  have hescaping : ∀ token, token ∈ s.escaping env (.commit id) ↔
      (∃ m ∈ s.handedOut, m.token = token) ∧ token.user = change.user.pk ∧
        s.accepts token = true ∧ token ∉ found := by
    intro token
    simp only [State.escaping, hchange, hfound, List.mem_filter, List.mem_map, decide_eq_true_eq]
  rw [List.eq_nil_iff_forall_not_mem]
  constructor
  · intro hafter token htoken
    obtain ⟨⟨m, hm, rfl⟩, huser, hyes, hmissed⟩ := (hescaping token).mp htoken
    obtain ⟨hget, hle⟩ := hinv.handedOut m hm
    have hno := hafter m hm (by
      rw [version_close, if_pos huser.symm]
      omega)
    have hstill := (haccepts m.token).mpr ⟨hyes, fun t ht heq => hmissed ?_⟩
    · exact absurd (hstill.symm.trans hno) (by simp)
    · have hfound' := hinv.found change hmem found hfound t ht
      rw [heq, hget, Option.some.injEq] at hfound'
      exact hfound' ▸ ht
  · intro hnone m hm hversion
    rw [Bool.eq_false_iff]
    intro hyes
    obtain ⟨hyes', hother⟩ := (haccepts m.token).mp hyes
    by_cases huser : m.token.user = change.user.pk
    · refine hnone m.token ((hescaping m.token).mpr ⟨⟨m, hm, rfl⟩, huser, hyes', fun hin => ?_⟩)
      exact hother m.token hin rfl
    · rw [version_close, if_neg (Ne.symm huser), Nat.add_zero] at hversion
      rw [hbefore m hm hversion] at hyes'
      cases hyes'

/-- **One step.**  It keeps the tokens of changed passwords out exactly where none escapes. -/
theorem invalidated_moves_iff {e : Event} (hinv : Inv s) (hbefore : Invalidated s)
    (h : Moves env refreshLifetime now s e s') :
    Invalidated s' ↔ s.escaping env e = [] := by
  cases h with
  | keeps hsame hlogins hchanges hescaping =>
      refine iff_of_true (fun m hm hversion => ?_) hescaping
      have hno := hbefore m hm hversion
      rw [State.accepts, ← hsame.blacklistedTokens] at hno
      exact hno
  | mints hlogin hinsert => exact iff_of_true hbefore rfl
  | hands hlogin htoken hsession => exact invalidated_hands_iff hinv hbefore hlogin htoken hsession
  | commits hchange hfound _ hblacklisted =>
      exact invalidated_commits_iff hinv hbefore hchange hfound hblacklisted

/-! ### Runs

Escaping is judged step by step, so both directions go through by induction on the run.
-/

/-- No token escapes a password change in this step. -/
def NoneEscapes (env : Environment) (s : State) (e : Int × Event) (_ : State) : Prop :=
  ({ s with clock := e.1 } : State).escaping env e.2 = []

instance (s : State) (e : Int × Event) (s' : State) :
    Decidable (NoneEscapes env s e s') :=
  inferInstanceAs (Decidable (_ = []))

theorem step_moves {e : Int × Event}
    (h : step env twoFactor settings refreshLifetime s e = some s') :
    s.clock ≤ e.1 ∧ Moves env refreshLifetime e.1 { s with clock := e.1 } e.2 s' := by
  unfold step at h
  split at h
  · rename_i hclock
    exact ⟨hclock, move_cases h⟩
  · cases h

theorem Inv.tick (hinv : Inv s) (now : Int) : Inv { s with clock := now } :=
  ⟨hinv.handedOut, hinv.versions, hinv.refresh, hinv.found⟩

/-- A token that is not accepted is not accepted later. -/
theorem Invalidated.tick (h : Invalidated s) (hclock : s.clock ≤ now) :
    Invalidated { s with clock := now } := by
  intro m hm hversion
  rw [Bool.eq_false_iff]
  intro hyes
  have hno := h m hm hversion
  simp only [State.accepts, Bool.and_eq_true, decide_eq_true_eq] at hyes
  have hlt : s.clock < m.token.expiresAt := by omega
  simp [State.accepts, hlt, hyes.2] at hno

/-- **A password change invalidates concurrent logins**, in every state of a run, exactly where
no login is answered with a token for a password that has changed since it was checked, and no
change commits beside a token that its query has not found. -/
theorem password_changes_invalidate_iff (clock : Int) (db : Database) (protection : Protection)
    (es : List (Int × Event)) :
    Run.Always (step env twoFactor settings refreshLifetime) Invalidated
        { clock := clock, db := db, protection := protection } es ↔
      Run.Steps (step env twoFactor settings refreshLifetime) (NoneEscapes env)
        { clock := clock, db := db, protection := protection } es := by
  have hinit : Inv { clock := clock, db := db, protection := protection } ∧
      Invalidated { clock := clock, db := db, protection := protection } := by
    refine ⟨⟨?_, ?_, ?_, ?_⟩, ?_⟩
    · exact fun m hm => absurd hm List.not_mem_nil
    · exact fun login hlogin => absurd hlogin (Table.not_mem_empty login)
    · exact fun login hlogin => absurd hlogin (Table.not_mem_empty login)
    · exact fun change hchange => absurd hchange (Table.not_mem_empty change)
    · exact fun m hm => absurd hm List.not_mem_nil
  have hiff : ∀ s e s', Inv s ∧ Invalidated s →
      step env twoFactor settings refreshLifetime s e = some s' →
      (Invalidated s' ↔ NoneEscapes env s e s') := by
    intro s e s' hs he
    obtain ⟨hclock, hmoves⟩ := step_moves he
    exact invalidated_moves_iff (hs.1.tick e.1) (hs.2.tick hclock) hmoves
  have hkeep : ∀ s e s', Inv s ∧ Invalidated s →
      step env twoFactor settings refreshLifetime s e = some s' → Invalidated s' →
      Inv s' ∧ Invalidated s' := by
    intro s e s' hs he hafter
    exact ⟨inv_moves (hs.1.tick e.1) (step_moves he).2, hafter⟩
  have hsteps := Run.steps_iff_of_inv hiff hkeep hinit es
  constructor
  · intro halways
    exact hsteps.mp halways.2
  · intro hnone
    exact ⟨hinit.2, hsteps.mpr hnone⟩

/-- The store of one user. -/
def adaStore : State where
  db := { users := {ada} }

/-- A login with the old password.. -/
def oldLogin : LoginRequest where
  identifier := "ada"
  password := "secret"
  newKey := "key"

/-- ..and a change to a new one. -/
def newPassword : Call := .changePassword 1 "secret" "better" "salt" none

/-- A login that has its session when the password is changed is answered without a token. -/
example : (Run.exec (step .plain .plain {} 100) adaStore
    [(0, .login 1 oldLogin), (1, .pass 1), (2, .enter 1), (3, .change 1 newPassword), (4, .find 1),
      (5, .commit 1), (6, .mint 1 "jti"), (7, .respond 1)]).map State.handedOut = some [] := by
  decide

/-- A login whose password is checked when the password is changed.. -/
def loginAcross : List (Int × Event) :=
  [(0, .login 1 oldLogin), (1, .change 1 newPassword), (2, .find 1), (3, .commit 1), (4, .pass 1),
    (5, .enter 1), (6, .mint 1 "jti"), (7, .respond 1)]

/-- ..is answered with a refresh token that is accepted. -/
theorem login_across_outlives_change :
    ∃ s, Run.exec (step .plain .plain {} 100) adaStore loginAcross = some s ∧
      ∃ m ∈ s.handedOut, m.version < s.version m.token.user ∧ s.accepts m.token = true := by
  have h : (Run.exec (step .plain .plain {} 100) adaStore loginAcross).any (fun s =>
      ∃ m ∈ s.handedOut, m.version < s.version m.token.user ∧ s.accepts m.token = true) = true := by
    decide
  obtain ⟨s, hs, hm⟩ := (Option.any_eq_true _ _).mp h
  exact ⟨s, hs, of_decide_eq_true hm⟩

end Passwords

end DjangoFoundation
