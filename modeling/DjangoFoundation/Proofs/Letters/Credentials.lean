/-
What it takes to change an account: its password, or a letter.

A token that is good was put in a letter.  So a confirmation that changes an account presents
what was in a letter about it, and everything else that changes it has been given its password.
As for where the letters went: one that verifies an address went there, because an address
changes only when it becomes verified; and one to another address than the account's has been
asked for with the password.

Letters are what the application sends, not what anybody reads: that a confirmation presents
what was in a letter is as much as can be said here of the person behind it.
-/
import DjangoFoundation.Proofs.Letters.Moves

namespace DjangoFoundation.Letters

open AccountService TokenService Run

variable {env : Environment} {validators : Validators} {timeout : Int} {s t : State}
  {e : Int × Event} {row row' : User} {token : OneTimeToken} {letter : Letter}

/-! ### Letters and tokens

A token is good if it is in the table, unused and in time, and its raw value hashes to what is
stored.  Such a value was put in a letter when the token was issued, and hashing keeps it apart
from every other.
-/

/-- The letter has the token in it. -/
structure Carries (env : Environment) (letter : Letter) (token : OneTimeToken) : Prop where
  user : letter.user = token.user
  purpose : letter.purpose = token.purpose
  hash : tokenHash env letter.rawToken letter.purpose = token.tokenHash
  newEmail : token.purpose = .emailChange →
    token.metadata.lookup "new_email" = some letter.recipient

theorem Carries.old {old : OneTimeToken} (h : Carries env letter old)
    (hhash : token.tokenHash = old.tokenHash) (huser : token.user = old.user)
    (hpurpose : token.purpose = old.purpose) (hmetadata : token.metadata = old.metadata) :
    Carries env letter token :=
  ⟨h.user.trans huser.symm, h.purpose.trans hpurpose.symm, h.hash.trans hhash.symm,
    fun hchange => by rw [hmetadata]; exact h.newEmail (hpurpose ▸ hchange)⟩

theorem carries_issue {issue : Tokens.Issue} {recipient raw : String} (now : Int)
    (h : issue.purpose = .emailChange → issue.metadata.lookup "new_email" = some recipient) :
    Carries env ⟨issue.user, issue.purpose, recipient, raw⟩ (issue.token env now now raw) :=
  ⟨rfl, rfl, rfl, h⟩

/-- Who presents a good token presents what was in its letter. -/
theorem Carries.presented {db : Database} {now : Int} {rawToken : String} {purpose : TokenPurpose}
    (h : Carries env letter token) (husable : usable? env now db rawToken purpose = some token) :
    letter.purpose = purpose ∧ letter.rawToken = rawToken := by
  obtain ⟨hget, hpurpose, -⟩ := Tokens.usable?_eq_some husable
  have hletter : letter.purpose = purpose := h.purpose.trans hpurpose
  have hhash : tokenHash env letter.rawToken purpose = tokenHash env rawToken purpose := by
    rw [← hletter, h.hash, hletter]
    exact Table.pk_of_get? hget
  exact ⟨hletter, env.keyring.keyedHash_injective _ hhash⟩

theorem mem_of_usable {db : Database} {now : Int} {rawToken : String} {purpose : TokenPurpose}
    (h : usable? env now db rawToken purpose = some token) : token ∈ db.oneTimeTokens :=
  Table.mem_of_get? (Tokens.usable?_eq_some h).1

/-! ### Verified addresses

While an account is unverified, all that could verify it has gone to the address it has.  That
is the invariant that matters, and it has to cover letters that are still to be sent by
requests under way, which read the row before.
-/

/-- The letter went to the address, up to the form it is stored in. -/
def Letter.Reaches (env : Environment) (letter : Letter) (address : String) : Prop :=
  letter.recipient = address ∨ env.unicode.normalizeEmailAddress letter.recipient = address

/-- Somebody who was sent a letter to the address of the account has presented its token. -/
def Proven (env : Environment) (letters : List Letter) (seen : List (TokenPurpose × String))
    (row : User) : Prop :=
  ∃ letter ∈ letters, letter.user = row.pk ∧ letter.Reaches env row.email ∧
    (letter.purpose, letter.rawToken) ∈ seen

/-- No letter that verifies the address of the account has gone, or will go, anywhere else. -/
structure Unverified (s : State) (row : User) : Prop where
  letters : ∀ letter ∈ s.letters, letter.user = row.pk → letter.purpose = .emailVerification →
    letter.recipient = row.email
  requests : ∀ r ∈ s.requests, r.user.pk = row.pk → ∀ w, r.writing = some w →
    w.issue.purpose = .emailVerification → w.recipient = row.email

structure Inv (env : Environment) (seen : List (TokenPurpose × String)) (s : State) : Prop where
  carried : ∀ token ∈ s.db.oneTimeTokens, ∃ letter ∈ s.letters, Carries env letter token
  issues : ∀ r ∈ s.requests, ∀ w, r.writing = some w → w.issue.user = r.user.pk ∧
    (w.issue.purpose = .emailChange →
      w.issue.metadata.lookup "new_email" = some w.recipient)
  letterUser : ∀ letter ∈ s.letters, (s.db.users.get? letter.user).isSome
  requestUser : ∀ r ∈ s.requests, (s.db.users.get? r.user.pk).isSome
  unverified : ∀ row ∈ s.db.users, row.isActive = true → row.emailVerifiedAt = none →
    Unverified s row
  verified : ∀ row ∈ s.db.users, row.isActive = true → row.emailVerifiedAt.isSome →
    Proven env s.letters seen row

/-- An account that is not verified was not, and has the address it had. -/
theorem Saves.unverified {now : Int} {e : Event} {k : UUID} (h : Saves env now s e k row row')
    (hactive : row'.isActive = true) (hnone : row'.emailVerifiedAt = none) :
    row.isActive = true ∧ row.emailVerifiedAt = none ∧ row'.email = row.email := by
  cases h with
  | keeps hguarded =>
      exact ⟨hguarded.isActive ▸ hactive, hguarded.emailVerifiedAt ▸ hnone, hguarded.email⟩
  | @confirms c token hevent husable huser hconfirms hback =>
      generalize hpurpose : c.purpose = purpose at hconfirms
      cases hconfirms with
      | verifies hunverified hemail => exact ⟨hback hactive, hunverified, hemail⟩
      | resets hemail hverified _ => exact ⟨hback hactive, hverified ▸ hnone, hemail⟩
      | readdresses _ _ hverified =>
          rw [hnone] at hverified
          cases hverified
      | deletes hinactive =>
          rw [hinactive] at hactive
          cases hactive
  | knows _ _ hemail hverified hback => exact ⟨hback hactive, hverified ▸ hnone, hemail⟩

/-- One that is verified was, with the address it has, or is now by a token. -/
theorem Saves.verified {now : Int} {e : Event} {k : UUID} (h : Saves env now s e k row row')
    (hactive : row'.isActive = true) (hsome : row'.emailVerifiedAt.isSome) :
    row.isActive = true ∧ (row.emailVerifiedAt.isSome ∧ row'.email = row.email ∨
      ∃ c token, e = .confirm c ∧ usable? env now s.db c.rawToken c.purpose = some token ∧
        token.user = k ∧
        (c.purpose = .emailVerification ∧ row.emailVerifiedAt = none ∧ row'.email = row.email ∨
          c.purpose = .emailChange ∧ ∃ newEmail, token.metadata.lookup "new_email" = some newEmail ∧
            row'.email = env.unicode.normalizeEmailAddress newEmail)) := by
  cases h with
  | keeps hguarded =>
      exact ⟨hguarded.isActive ▸ hactive,
        Or.inl ⟨hguarded.emailVerifiedAt ▸ hsome, hguarded.email⟩⟩
  | @confirms c token hevent husable huser hconfirms hback =>
      refine ⟨hback hactive, ?_⟩
      generalize hpurpose : c.purpose = purpose at hconfirms
      cases hconfirms with
      | verifies hunverified hemail =>
          exact Or.inr ⟨c, token, hevent, husable, huser, Or.inl ⟨hpurpose, hunverified, hemail⟩⟩
      | resets hemail hverified _ => exact Or.inl ⟨hverified ▸ hsome, hemail⟩
      | readdresses hlookup hemail _ =>
          exact Or.inr ⟨c, token, hevent, husable, huser, Or.inr ⟨hpurpose, _, hlookup, hemail⟩⟩
      | deletes hinactive =>
          rw [hinactive] at hactive
          cases hactive
  | knows _ _ hemail hverified hback => exact ⟨hback hactive, Or.inl ⟨hverified ▸ hsome, hemail⟩⟩

section Inv

variable {seen more : List (TokenPurpose × String)} {db' : Database}

theorem Proven.mono {letters : List Letter} (h : Proven env letters seen row)
    (hpk : row'.pk = row.pk) (hemail : row'.email = row.email)
    (hseen : ∀ {token}, token ∈ seen → token ∈ more) : Proven env letters more row' := by
  obtain ⟨letter, hletter, huser, hreaches, hpresented⟩ := h
  exact ⟨letter, hletter, hpk ▸ huser, hemail ▸ hreaches, hseen hpresented⟩

theorem Proven.letters {letters : List Letter} (h : Proven env letters seen row)
    (further : List Letter) : Proven env (letters ++ further) seen row := by
  obtain ⟨letter, hletter, hproven⟩ := h
  exact ⟨letter, List.mem_append_left _ hletter, hproven⟩

theorem Unverified.same (h : Unverified s row) (hpk : row'.pk = row.pk)
    (hemail : row'.email = row.email) : Unverified s row' :=
  ⟨fun letter hletter huser => hemail ▸ h.letters letter hletter (hpk ▸ huser),
    fun r hr huser => hemail ▸ h.requests r hr (hpk ▸ huser)⟩

/-- The token of a letter that went to an address, which it verifies, comes back. -/
theorem Inv.verifies {c : Tokens.Confirmation} {now : Int} (h : Inv env seen s)
    (hrow : row ∈ s.db.users) (hactive : row.isActive = true) (hnone : row.emailVerifiedAt = none)
    (husable : usable? env now s.db c.rawToken c.purpose = some token) (huser : token.user = row.pk)
    (hpurpose : c.purpose = .emailVerification) :
    Proven env s.letters [(c.purpose, c.rawToken)] row := by
  obtain ⟨letter, hletter, hcarries⟩ := h.carried token (mem_of_usable husable)
  obtain ⟨hsame, hraw⟩ := hcarries.presented husable
  have hpk : letter.user = row.pk := hcarries.user.trans huser
  refine ⟨letter, hletter, hpk, Or.inl ?_, ?_⟩
  · exact (h.unverified row hrow hactive hnone).letters letter hletter hpk (hsame.trans hpurpose)
  · rw [hsame, hraw]
    exact List.mem_singleton_self _

/-- So does that of a letter to a new address. -/
theorem Inv.readdresses {c : Tokens.Confirmation} {now : Int} {newEmail : String}
    (h : Inv env seen s) (husable : usable? env now s.db c.rawToken c.purpose = some token)
    (huser : token.user = row.pk) (hpurpose : c.purpose = .emailChange)
    (hlookup : token.metadata.lookup "new_email" = some newEmail)
    (hemail : row.email = env.unicode.normalizeEmailAddress newEmail) :
    Proven env s.letters [(c.purpose, c.rawToken)] row := by
  obtain ⟨letter, hletter, hcarries⟩ := h.carried token (mem_of_usable husable)
  obtain ⟨hsame, hraw⟩ := hcarries.presented husable
  have hrecipient := hcarries.newEmail (hcarries.purpose.symm.trans (hsame.trans hpurpose))
  rw [hlookup, Option.some.injEq] at hrecipient
  refine ⟨letter, hletter, hcarries.user.trans huser, Or.inr ?_, ?_⟩
  · rw [← hrecipient, hemail]
  · rw [hsame, hraw]
    exact List.mem_singleton_self _

theorem Inv.acts {now : Int} {e : Event} (h : Inv env seen s)
    (hrow : ∀ k row, s.db.users.get? k = some row →
      ∃ row', db'.users.get? k = some row' ∧ Saves env now s e k row row' ∧
        row'.isSuperuser = row.isSuperuser)
    (hnone : ∀ k, s.db.users.get? k = none → db'.users.get? k = none)
    (htokens : ∀ token ∈ db'.oneTimeTokens, Old s.db.oneTimeTokens token) :
    Inv env (seen ++ e.presents?.toList) { s with clock := now, db := db' } := by
  have hsome : ∀ k, (s.db.users.get? k).isSome → (db'.users.get? k).isSome := by
    intro k hk
    obtain ⟨row, hget⟩ := Option.isSome_iff_exists.mp hk
    obtain ⟨row', hget', -⟩ := hrow k row hget
    rw [hget']
    rfl
  have hback : ∀ row' ∈ db'.users, ∃ row ∈ s.db.users, row'.pk = row.pk ∧
      Saves env now s e row.pk row row' := by
    intro row' hrow'
    have hget' : db'.users.get? row'.pk = some row' := Table.get?_of_mem hrow'
    cases hget : s.db.users.get? row'.pk with
    | none =>
        rw [hnone _ hget] at hget'
        cases hget'
    | some row =>
        obtain ⟨row'', hget'', hsaves, -⟩ := hrow _ row hget
        rw [hget', Option.some.injEq] at hget''
        subst hget''
        have hpk : row.pk = row'.pk := Table.pk_of_get? hget
        exact ⟨row, Table.mem_of_get? hget, hpk.symm, hpk ▸ hsaves⟩
  refine ⟨fun token htoken => ?_, h.issues, fun letter hletter => hsome _ (h.letterUser letter hletter),
    fun r hr => hsome _ (h.requestUser r hr), fun row' hrow' hactive hunverified => ?_,
    fun row' hrow' hactive hverified => ?_⟩
  · obtain ⟨old, hold, hhash, huser, hpurpose, hmetadata, -⟩ := htokens token htoken
    obtain ⟨letter, hletter, hcarries⟩ := h.carried old hold
    exact ⟨letter, hletter, hcarries.old hhash huser hpurpose hmetadata⟩
  · obtain ⟨row, hmem, hpk, hsaves⟩ := hback row' hrow'
    obtain ⟨hrowActive, hrowNone, hemail⟩ := hsaves.unverified hactive hunverified
    have hsame := (h.unverified row hmem hrowActive hrowNone).same hpk hemail
    exact ⟨hsame.letters, hsame.requests⟩
  · obtain ⟨row, hmem, hpk, hsaves⟩ := hback row' hrow'
    obtain ⟨hrowActive, ⟨hrowVerified, hemail⟩ | ⟨c, token, rfl, husable, huser, hconfirmed⟩⟩ :=
      hsaves.verified hactive hverified
    · exact (h.verified row hmem hrowActive hrowVerified).mono hpk hemail (List.mem_append_left _)
    · refine Proven.mono ?_ rfl rfl fun hmem => List.mem_append_right seen hmem
      rcases hconfirmed with ⟨hpurpose, hrowNone, hemail⟩ | ⟨hpurpose, newEmail, hlookup, hemail⟩
      · exact (h.verifies hmem hrowActive hrowNone husable huser hpurpose).mono hpk hemail id
      · exact h.readdresses husable (huser.trans hpk.symm) hpurpose hlookup hemail

/-- A letter and its token, and the rows they are about. -/
theorem Inv.carried_issue {issue : Tokens.Issue} {recipient raw : String} {now : Int}
    (h : Inv env seen s)
    (hlookup : issue.purpose = .emailChange → issue.metadata.lookup "new_email" = some recipient)
    (htokens : ∀ token ∈ db'.oneTimeTokens,
      Old s.db.oneTimeTokens token ∨ token = issue.token env now now raw) :
    ∀ token ∈ db'.oneTimeTokens, ∃ letter ∈
      s.letters ++ [⟨issue.user, issue.purpose, recipient, raw⟩], Carries env letter token := by
  intro token htoken
  rcases htokens token htoken with ⟨old, hold, hhash, huser, hpurpose, hmetadata, -⟩ | rfl
  · obtain ⟨letter, hletter, hcarries⟩ := h.carried old hold
    exact ⟨letter, List.mem_append_left _ hletter, hcarries.old hhash huser hpurpose hmetadata⟩
  · exact ⟨_, List.mem_append_right _ (List.mem_singleton_self _), carries_issue now hlookup⟩

theorem Inv.registers {now : Int} {e : Event} {user : User} {raw : String} {issue : Tokens.Issue}
    (h : Inv env seen s) (hnew : s.db.users.get? user.pk = none)
    (husers : ∀ k, db'.users.get? k = if k = user.pk then some user else s.db.users.get? k)
    (hunverified : user.emailVerifiedAt = none)
    (huser : issue.user = user.pk) (hpurpose : issue.purpose = .emailVerification)
    (htokens : ∀ token ∈ db'.oneTimeTokens,
      Old s.db.oneTimeTokens token ∨ token = issue.token env now now raw) :
    Inv env (seen ++ e.presents?.toList) { s with
      clock := now
      db := db'
      letters := s.letters ++ [⟨user.pk, .emailVerification, user.email, raw⟩] } := by
  have hself : db'.users.get? user.pk = some user := by rw [husers, if_pos rfl]
  have hsome : ∀ k, (s.db.users.get? k).isSome → (db'.users.get? k).isSome := by
    intro k hk
    rw [husers]
    split
    · rfl
    · exact hk
  have hback : ∀ row ∈ db'.users, row = user ∨ row ∈ s.db.users ∧ row.pk ≠ user.pk := by
    intro row hrow
    have hget : db'.users.get? row.pk = some row := Table.get?_of_mem hrow
    rw [husers] at hget
    split at hget
    · exact Or.inl (Option.some.inj hget).symm
    · rename_i hne
      exact Or.inr ⟨Table.mem_of_get? hget, hne⟩
  -- nothing was known of the new user
  have hnobody : ∀ k, k = user.pk → ¬(s.db.users.get? k).isSome := by
    rintro _ rfl
    rw [hnew]
    exact Bool.false_ne_true
  refine ⟨?_, h.issues, fun letter hletter => ?_, fun r hr => hsome _ (h.requestUser r hr),
    fun row hrow hactive hnone => ?_, fun row hrow hactive hverified => ?_⟩
  · have hlookup : issue.purpose = .emailChange →
        issue.metadata.lookup "new_email" = some user.email := by
      rw [hpurpose]
      exact fun hno => by cases hno
    have hcarried := h.carried_issue hlookup htokens
    rw [huser, hpurpose] at hcarried
    exact hcarried
  · rcases List.mem_append.mp hletter with hold | hlast
    · exact hsome _ (h.letterUser letter hold)
    · rw [List.mem_singleton.mp hlast, hself]
      rfl
  · rcases hback row hrow with rfl | ⟨hmem, hne⟩
    · refine ⟨fun letter hletter hpk _ => ?_, fun r hr hpk => ?_⟩
      · rcases List.mem_append.mp hletter with hold | hlast
        · exact absurd (h.letterUser letter hold) (hnobody _ hpk)
        · rw [List.mem_singleton.mp hlast]
      · exact absurd (h.requestUser r hr) (hnobody _ hpk)
    · have hold := h.unverified row hmem hactive hnone
      refine ⟨fun letter hletter hpk hverifies => ?_, hold.requests⟩
      rcases List.mem_append.mp hletter with hbefore | hlast
      · exact hold.letters letter hbefore hpk hverifies
      · rw [List.mem_singleton.mp hlast] at hpk
        exact absurd hpk.symm hne
  · rcases hback row hrow with rfl | ⟨hmem, -⟩
    · rw [hunverified] at hverified
      cases hverified
    · exact ((h.verified row hmem hactive hverified).mono rfl rfl
        (List.mem_append_left _)).letters _

theorem Inv.asks {now : Int} {e : Event} {requests : Table InFlight} (h : Inv env seen s)
    (hrequests : ∀ r ∈ requests, r ∈ s.requests ∨ Asked env s e r) :
    Inv env (seen ++ e.presents?.toList) { s with clock := now, requests := requests } := by
  refine ⟨h.carried, fun r hr w hwriting => ?_, h.letterUser, fun r hr => ?_,
    fun row hrow hactive hnone => ?_, fun row hrow hactive hverified => ?_⟩
  · rcases hrequests r hr with hold | hasked
    · exact h.issues r hold w hwriting
    · cases hasked with
      | recognised _ hno =>
          rw [hno] at hwriting
          cases hwriting
      | found _ hw hissue _ hpurpose =>
          rw [hw, Option.some.injEq] at hwriting
          subst hwriting
          refine ⟨hissue, fun hchange => ?_⟩
          rcases hpurpose with ⟨hpurpose, _⟩ | hpurpose <;> rw [hpurpose] at hchange <;> cases hchange
      | answered _ _ hw hissue _ _ hpurpose =>
          rw [hw, Option.some.injEq] at hwriting
          subst hwriting
          refine ⟨hissue, fun hchange => ?_⟩
          rcases hpurpose with ⟨_, hlookup⟩ | ⟨hpurpose, _⟩
          · exact hlookup
          · rw [hpurpose] at hchange
            cases hchange
  · rcases hrequests r hr with hold | hasked
    · exact h.requestUser r hold
    · cases hasked with
      | recognised huser _ | found huser _ _ _ _ =>
          have hget : s.db.users.get? r.user.pk = some r.user := Table.get?_of_mem huser
          show (s.db.users.get? _).isSome
          rw [hget]
          rfl
      | @answered old _ _ hold huser _ _ _ _ _ =>
          rw [huser]
          exact h.requestUser old hold
  · have hold := h.unverified row hrow hactive hnone
    refine ⟨hold.letters, fun r hr hpk w hwriting hverifies => ?_⟩
    rcases hrequests r hr with hbefore | hasked
    · exact hold.requests r hbefore hpk w hwriting hverifies
    · cases hasked with
      | recognised _ hno =>
          rw [hno] at hwriting
          cases hwriting
      | found huser hw _ hrecipient _ =>
          rw [hw, Option.some.injEq] at hwriting
          rw [← hwriting, hrecipient, Table.eq_of_pk_eq huser hrow hpk]
      | answered _ _ hw _ _ _ hpurpose =>
          rw [hw, Option.some.injEq] at hwriting
          subst hwriting
          rcases hpurpose with ⟨hpurpose, _⟩ | ⟨hpurpose, _⟩ <;> rw [hpurpose] at hverifies <;>
            cases hverifies
  · exact (h.verified row hrow hactive hverified).mono rfl rfl (List.mem_append_left _)

theorem Inv.sends {now : Int} {e : Event} {r : InFlight} {w : Writing} {raw : String}
    (h : Inv env seen s) (hr : r ∈ s.requests) (hwriting : r.writing = some w)
    (husers : db'.users = s.db.users)
    (htokens : ∀ token ∈ db'.oneTimeTokens,
      Old s.db.oneTimeTokens token ∨ token = w.issue.token env now now raw) :
    Inv env (seen ++ e.presents?.toList) {
      clock := now
      db := db'
      letters := s.letters ++ [⟨w.issue.user, w.issue.purpose, w.recipient, raw⟩]
      requests := s.requests.erase r.request } := by
  obtain ⟨huser, hlookup⟩ := h.issues r hr w hwriting
  refine ⟨h.carried_issue hlookup htokens, fun r' hr' => h.issues r' (Table.mem_erase.mp hr').1,
    fun letter hletter => ?_, fun r' hr' => ?_, fun row hrow hactive hnone => ?_,
    fun row hrow hactive hverified => ?_⟩
  · show (db'.users.get? _).isSome
    rw [husers]
    rcases List.mem_append.mp hletter with hold | hlast
    · exact h.letterUser letter hold
    · rw [List.mem_singleton.mp hlast, huser]
      exact h.requestUser r hr
  · show (db'.users.get? _).isSome
    rw [husers]
    exact h.requestUser r' (Table.mem_erase.mp hr').1
  · have hold := h.unverified row (husers ▸ hrow) hactive hnone
    refine ⟨fun letter hletter hpk hverifies => ?_,
      fun r' hr' => hold.requests r' (Table.mem_erase.mp hr').1⟩
    rcases List.mem_append.mp hletter with hbefore | hlast
    · exact hold.letters letter hbefore hpk hverifies
    · rw [List.mem_singleton.mp hlast] at hpk hverifies ⊢
      exact hold.requests r hr (huser.symm.trans hpk) w hwriting hverifies
  · exact ((h.verified row (husers ▸ hrow) hactive hverified).mono rfl rfl
      (List.mem_append_left _)).letters _

theorem inv_step (h : Inv env seen s) (hs : step env validators timeout s e = some t) :
    Inv env (seen ++ e.2.presents?.toList) t := by
  cases moves_step hs with
  | acts hrow hnone htokens => exact h.acts hrow hnone htokens
  | registers hnew husers hunverified _ huser hpurpose htokens =>
      exact h.registers hnew husers hunverified huser hpurpose htokens
  | asks hrequests => exact h.asks hrequests
  | sends hr hwriting husers htokens => exact h.sends hr hwriting husers htokens

theorem inv_exec {es : List (Int × Event)} (h : Inv env seen s)
    (ht : exec (step env validators timeout) s es = some t) :
    Inv env (seen ++ es.filterMap fun e => e.2.presents?) t := by
  induction es generalizing s seen with
  | nil =>
      cases ht
      rw [List.filterMap_nil, List.append_nil]
      exact h
  | cons e es ih =>
      obtain ⟨s', hs', hrest⟩ := Option.bind_eq_some_iff.mp ht
      have hend := ih (inv_step h hs') hrest
      rw [List.append_assoc] at hend
      rw [List.filterMap_cons]
      cases hpresents : e.2.presents? with
      | none => rwa [hpresents] at hend
      | some token => rwa [hpresents] at hend

end Inv

theorem inv_init : Inv env [] {} where
  carried token htoken := absurd htoken (Table.not_mem_empty token)
  issues r hr := absurd hr (Table.not_mem_empty r)
  letterUser letter hletter := by cases hletter
  requestUser r hr := absurd hr (Table.not_mem_empty r)
  unverified row hrow := absurd hrow (Table.not_mem_empty row)
  verified row hrow := absurd hrow (Table.not_mem_empty row)

/-- **A verified address is proven.**  Whatever is registered, asked for, confirmed, changed and
banned in whatever order, an active account whose address is verified has an address that a letter
about this account went to, and the token in it has been presented. -/
theorem verified_address_proven {es : List (Int × Event)}
    (ht : exec (step env validators timeout) {} es = some t) :
    ∀ row ∈ t.db.users, row.isActive = true → row.emailVerifiedAt.isSome →
      Proven env t.letters (es.filterMap fun e => e.2.presents?) row := by
  have hinv := inv_exec inv_init ht
  rw [List.nil_append] at hinv
  exact hinv.verified

def registerAda : Int × Event :=
  (0, .register 1 "Ada@Example.org" "ada" "secret" "s" "" "" "v")

/-- She verifies her address, and moves to another. -/
def moveAda : List (Int × Event) :=
  [registerAda, (1, .confirm (.verifyEmail "v")), (2, .recognise 0 1),
    (3, .requestEmailChange 0 "secret" "Ada@New.org"), (4, .send 0 "c"),
    (5, .confirm (.confirmEmailChange "c" none))]

theorem verified_address_proven_moveAda :
    ∃ t, exec (step .plain .plain 3600) {} moveAda = some t ∧
      ∃ row ∈ t.db.users, row.email = "ada@new.org" ∧
        Proven .plain t.letters (moveAda.filterMap fun e => e.2.presents?) row := by
  obtain ⟨t, ht⟩ := Option.isSome_iff_exists.mp
    (show (exec (step .plain .plain 3600) {} moveAda).isSome = true by decide +kernel)
  have hrow : (exec (step .plain .plain 3600) {} moveAda).any (fun t => t.db.users.rows.any fun row =>
      row.isActive && row.emailVerifiedAt.isSome && row.email = "ada@new.org") = true := by
    decide +kernel
  rw [ht, Option.any_some, List.any_eq_true] at hrow
  obtain ⟨row, hmem, hrow⟩ := hrow
  simp only [Bool.and_eq_true, decide_eq_true_eq] at hrow
  exact ⟨t, ht, row, hmem, hrow.2, verified_address_proven ht row hmem hrow.1.1 hrow.1.2⟩

/-! ### Nothing without the password or the mail

The other invariant is about one account from its registration on: what is out about it goes to
its address.  As long as nobody speaks for the account, no event can do to it what it takes the
password or the mail to do.
-/

/-- A request speaks for the account: it gives its password, or presents what a letter to its
address has brought. -/
def Speaks (env : Environment) (row : User) (s : State) (e : Event) : Prop :=
  (∃ password, e.password? s = some (row.pk, password) ∧
    env.keyring.checkPassword password row.password = true) ∨
  ∃ letter ∈ s.letters, letter.user = row.pk ∧ letter.recipient = row.email ∧
    e.presents? = some (letter.purpose, letter.rawToken)

/-- What is out about the account went, or will go, to its address, and is not about another. -/
structure Quiet (env : Environment) (row : User) (s : State) : Prop where
  tokens : ∀ token ∈ s.db.oneTimeTokens, token.user = row.pk → token.usedAt = none →
    token.purpose ≠ .emailChange ∧
      ∃ letter ∈ s.letters, Carries env letter token ∧ letter.recipient = row.email
  copies : ∀ r ∈ s.requests, r.user.pk = row.pk →
    r.user.password = row.password ∧ r.user.email = row.email
  writings : ∀ r ∈ s.requests, ∀ w, r.writing = some w → w.issue.user = r.user.pk ∧
    (r.user.pk = row.pk → w.issue.purpose ≠ .emailChange ∧ w.recipient = row.email)

/-- The account is there, as it was. -/
def Kept (row : User) (s : State) : Prop :=
  ∃ row', s.db.users.get? row.pk = some row' ∧ Guarded row row'

theorem Quiet.old (h : Quiet env row s) (hold : Old s.db.oneTimeTokens token)
    (huser : token.user = row.pk) (hunused : token.usedAt = none) :
    token.purpose ≠ .emailChange ∧
      ∃ letter ∈ s.letters, Carries env letter token ∧ letter.recipient = row.email := by
  obtain ⟨old, hmem, hhash, hsame, hpurpose, hmetadata, hused⟩ := hold
  obtain ⟨hchange, letter, hletter, hcarries, hrecipient⟩ :=
    h.tokens old hmem (hsame.symm.trans huser) (hused hunused)
  exact ⟨hpurpose ▸ hchange, letter, hletter, hcarries.old hhash hsame hpurpose hmetadata,
    hrecipient⟩

/-- A row changes by who speaks for it. -/
theorem guarded_of_saves {now : Int} {e : Event} (hquiet : Quiet env row s)
    (hguarded : Guarded row row') {row'' : User} (hsilent : ¬Speaks env row s e)
    (h : Saves env now s e row.pk row' row'') : Guarded row' row'' := by
  cases h with
  | keeps h => exact h
  | @confirms c token hevent husable huser _ _ =>
      obtain ⟨hget, -, hunused, -⟩ := Tokens.usable?_eq_some husable
      obtain ⟨-, letter, hletter, hcarries, hrecipient⟩ :=
        hquiet.tokens token (Table.mem_of_get? hget) huser hunused
      obtain ⟨hpurpose, hraw⟩ := hcarries.presented husable
      refine absurd (Or.inr ⟨letter, hletter, hcarries.user.trans huser, hrecipient, ?_⟩) hsilent
      rw [hevent, hpurpose, hraw]
      rfl
  | @knows password hgiven hcheck _ _ _ =>
      exact absurd (Or.inl ⟨password, hgiven, hguarded.password ▸ hcheck⟩) hsilent

theorem Quiet.asked {e : Event} {r : InFlight} (h : Quiet env row s) (hkept : Kept row s)
    (hsilent : ¬Speaks env row s e) (hasked : Asked env s e r) :
    (r.user.pk = row.pk → r.user.password = row.password ∧ r.user.email = row.email) ∧
      ∀ w, r.writing = some w → w.issue.user = r.user.pk ∧
        (r.user.pk = row.pk → w.issue.purpose ≠ .emailChange ∧ w.recipient = row.email) := by
  have hcopy : r.user ∈ s.db.users → r.user.pk = row.pk →
      r.user.password = row.password ∧ r.user.email = row.email := by
    intro huser hpk
    obtain ⟨row', hrow', hguarded⟩ := hkept
    have hget : s.db.users.get? r.user.pk = some r.user := Table.get?_of_mem huser
    rw [hpk, hrow', Option.some.injEq] at hget
    exact ⟨hget ▸ hguarded.password, hget ▸ hguarded.email⟩
  cases hasked with
  | recognised huser hno =>
      refine ⟨hcopy huser, fun w hwriting => ?_⟩
      rw [hno] at hwriting
      cases hwriting
  | found huser hw hissue hrecipient hpurpose =>
      refine ⟨hcopy huser, fun w hwriting => ?_⟩
      rw [hw, Option.some.injEq] at hwriting
      subst hwriting
      refine ⟨hissue, fun hpk => ⟨?_, hrecipient.trans (hcopy huser hpk).2⟩⟩
      rcases hpurpose with ⟨hpurpose, _⟩ | hpurpose <;> rw [hpurpose] <;>
        exact TokenPurpose.noConfusion
  | @answered old w password hold huser hw hissue hgiven hcheck _ =>
      have hsame : r.user.pk = row.pk →
          r.user.password = row.password ∧ r.user.email = row.email := by
        rw [huser]
        exact h.copies old hold
      refine ⟨hsame, fun w' hwriting => ?_⟩
      rw [hw, Option.some.injEq] at hwriting
      subst hwriting
      -- an answer that is about this account was given its password
      refine ⟨hissue, fun hpk => absurd (Or.inl ⟨password, hpk ▸ hgiven, ?_⟩) hsilent⟩
      rw [← (hsame hpk).1]
      exact hcheck

theorem kept_step (hquiet : Quiet env row s) (hkept : Kept row s)
    (hs : step env validators timeout s e = some t) (hsilent : ¬Speaks env row s e.2) :
    Quiet env row t ∧ Kept row t := by
  obtain ⟨row', hrow', hguarded⟩ := hkept
  cases moves_step hs with
  | acts hrow hnone htokens =>
      obtain ⟨row'', hrow'', hsaves, -⟩ := hrow _ row' hrow'
      exact ⟨⟨fun token htoken huser hunused => hquiet.old (htokens token htoken) huser hunused,
        hquiet.copies, hquiet.writings⟩,
        row'', hrow'', hguarded.trans (guarded_of_saves hquiet hguarded hsilent hsaves)⟩
  | @registers user raw issue db' hnew husers hunverified _ huser hpurpose htokens =>
      have hne : row.pk ≠ user.pk := by
        rintro heq
        rw [← heq, hrow'] at hnew
        cases hnew
      refine ⟨⟨fun token htoken hpk hunused => ?_, hquiet.copies, hquiet.writings⟩, row', ?_, hguarded⟩
      · rcases htokens token htoken with hold | rfl
        · obtain ⟨hchange, letter, hletter, hcarries⟩ := hquiet.old hold hpk hunused
          exact ⟨hchange, letter, List.mem_append_left _ hletter, hcarries⟩
        · exact absurd (hpk.symm.trans huser) hne
      · show db'.users.get? _ = _
        rw [husers, if_neg hne, hrow']
  | asks hrequests =>
      refine ⟨⟨hquiet.tokens, fun r hr hpk => ?_, fun r hr w hwriting => ?_⟩, row', hrow', hguarded⟩
      · rcases hrequests r hr with hold | hasked
        · exact hquiet.copies r hold hpk
        · exact (hquiet.asked ⟨row', hrow', hguarded⟩ hsilent hasked).1 hpk
      · rcases hrequests r hr with hold | hasked
        · exact hquiet.writings r hold w hwriting
        · exact (hquiet.asked ⟨row', hrow', hguarded⟩ hsilent hasked).2 w hwriting
  | @sends r w raw db' hr hwriting husers htokens =>
      obtain ⟨huser, hwritten⟩ := hquiet.writings r hr w hwriting
      refine ⟨⟨fun token htoken hpk hunused => ?_,
        fun r' hr' => hquiet.copies r' (Table.mem_erase.mp hr').1,
        fun r' hr' => hquiet.writings r' (Table.mem_erase.mp hr').1⟩, row', ?_, hguarded⟩
      · rcases htokens token htoken with hold | rfl
        · obtain ⟨hchange, letter, hletter, hcarries⟩ := hquiet.old hold hpk hunused
          exact ⟨hchange, letter, List.mem_append_left _ hletter, hcarries⟩
        · obtain ⟨hchange, hrecipient⟩ := hwritten (huser.symm.trans hpk)
          exact ⟨hchange, _, List.mem_append_right _ (List.mem_singleton_self _),
            carries_issue _ fun hno => absurd hno hchange, hrecipient⟩
      · show db'.users.get? _ = _
        rw [husers, hrow']

theorem kept_exec {es : List (Int × Event)} (hquiet : Quiet env row s) (hkept : Kept row s)
    (hsilent : Steps (step env validators timeout) (fun s e _ => ¬Speaks env row s e.2) s es)
    (ht : exec (step env validators timeout) s es = some t) : Quiet env row t ∧ Kept row t := by
  have hstep : ∀ s e t, (Quiet env row s ∧ Kept row s) →
      step env validators timeout s e = some t → ¬Speaks env row s e.2 →
      Quiet env row t ∧ Kept row t := fun s e t h hs hsilent => kept_step h.1 h.2 hs hsilent
  exact exec_of_inv hstep ⟨hquiet, hkept⟩ hsilent ht

/-- What is out about an account that has just been registered is the letter to its address. -/
theorem quiet_registered {seen : List (TokenPurpose × String)} (h : Inv env seen s)
    (hs : step env validators timeout s e = some t) (hnew : s.db.users.get? row.pk = none)
    (hrow : t.db.users.get? row.pk = some row) : Quiet env row t := by
  have hletter : ∀ letter ∈ s.letters, letter.user ≠ row.pk := by
    intro letter hmem hpk
    have hsome := h.letterUser letter hmem
    rw [hpk, hnew] at hsome
    cases hsome
  have hrequest : ∀ r ∈ s.requests, r.user.pk ≠ row.pk := by
    intro r hr hpk
    have hsome := h.requestUser r hr
    rw [hpk, hnew] at hsome
    cases hsome
  cases moves_step hs with
  | acts _ hnone _ =>
      rw [hnone _ hnew] at hrow
      cases hrow
  | asks _ =>
      rw [hnew] at hrow
      cases hrow
  | sends _ _ husers _ =>
      rw [husers, hnew] at hrow
      cases hrow
  | @registers user raw issue db' _ husers hunverified _ huser hpurpose htokens =>
      rw [husers] at hrow
      split at hrow
      · cases hrow
        refine ⟨fun token htoken hpk _ => ?_, fun r hr hpk => absurd hpk (hrequest r hr),
          fun r hr w hwriting => ⟨(h.issues r hr w hwriting).1,
            fun hpk => absurd hpk (hrequest r hr)⟩⟩
        rcases htokens token htoken with ⟨old, hold, -, hsame, -⟩ | rfl
        · obtain ⟨letter, hmem, hcarries⟩ := h.carried old hold
          exact absurd (hcarries.user.trans (hsame.symm.trans hpk)) (hletter letter hmem)
        · have hchange : issue.purpose ≠ .emailChange := by
            rw [hpurpose]
            exact TokenPurpose.noConfusion
          refine ⟨hchange, _, List.mem_append_right _ (List.mem_singleton_self _), ?_, rfl⟩
          rw [← huser, ← hpurpose]
          exact carries_issue _ fun hno => absurd hno hchange
      · rw [hnew] at hrow
        cases hrow

/-- **An account changes by its password or its mail.**  From its registration on, as long as no
request gives the password of an account or presents what a letter to its address has brought,
nothing else, whoever does it and in whatever order, has any effect on its password, its address,
whether that is verified and whether it is active. -/
theorem account_keeps {before after : List (Int × Event)} {s' : State}
    (hbefore : exec (step env validators timeout) {} before = some s)
    (hs : step env validators timeout s e = some s') (hnew : s.db.users.get? row.pk = none)
    (hrow : s'.db.users.get? row.pk = some row)
    (hsilent : Steps (step env validators timeout) (fun s e _ => ¬Speaks env row s e.2) s' after)
    (ht : exec (step env validators timeout) s' after = some t) : Kept row t := by
  have hinv := inv_exec inv_init hbefore
  have hquiet := quiet_registered hinv hs hnew hrow
  exact (kept_exec hquiet ⟨row, hrow, .refl row⟩ hsilent ht).2

instance decidableSpeaks (env : Environment) (row : User) (s : State) (e : Event) :
    Decidable (Speaks env row s e) :=
  decidable_of_iff
    ((∃ given ∈ e.password? s, given.1 = row.pk ∧
        env.keyring.checkPassword given.2 row.password = true) ∨
      ∃ letter ∈ s.letters, letter.user = row.pk ∧ letter.recipient = row.email ∧
        e.presents? = some (letter.purpose, letter.rawToken)) <| by
    refine or_congr ⟨?_, ?_⟩ Iff.rfl
    · rintro ⟨⟨_, password⟩, hgiven, rfl, hcheck⟩
      exact ⟨password, hgiven, hcheck⟩
    · rintro ⟨password, hgiven, hcheck⟩
      exact ⟨_, hgiven, rfl, hcheck⟩

/-- What anybody can do without her password and her letters. -/
def intrude : List (Int × Event) :=
  [(1, .register 2 "bob@example.org" "bob" "hunter2" "t" "" "" "w"),
    (2, .requestPasswordReset 0 "ada@example.org"), (3, .send 0 "r"),
    (4, .confirm (.resetPassword "w" "better" "x" none)), (5, .recognise 1 1),
    (6, .requestEmailChange 1 "guess" "bob@example.org"),
    (7, .changePassword 1 "guess" "better" "x" none),
    (8, .ban 5 1 "spam" none none none none), (9, .revoke 5 none)]

def registeredAda : User where
  pk := 1
  password := "plain$s$secret"
  email := "ada@example.org"
  username := "ada"

/-- After her registration. -/
def registered : State := (step .plain .plain 3600 {} registerAda).get (by decide +kernel)

theorem account_keeps_intrude :
    ∃ t, exec (step .plain .plain 3600) registered intrude = some t ∧ Kept registeredAda t := by
  obtain ⟨t, ht⟩ := Option.isSome_iff_exists.mp
    (show (exec (step .plain .plain 3600) registered intrude).isSome = true by decide +kernel)
  refine ⟨t, ht, ?_⟩
  exact account_keeps (exec_nil _) (Option.some_get _).symm rfl (by decide +kernel)
    (by decide +kernel) ht

end DjangoFoundation.Letters
