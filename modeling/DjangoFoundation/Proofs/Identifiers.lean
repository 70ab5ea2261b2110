/-
Who a login identifier names.

Each of the two columns is unique up to `LOWER`, and every call that writes one of them
keeps it so.  The login looks in both at once, with `iexact`: what no constraint speaks of
is an address that is another account's username.

The constraints speak of each column by itself, so that each is unique in every run needs no
condition (`Distinct`).  For the two together the condition is on the call that names an
account: `NamesApart` asks that `iexact` takes neither of its names for one that another
account has.  It is decided at that step, and once two accounts are named apart nothing that
does not name them anew brings them together.

A registration under the address of somebody else as username passes the validators,
which is `username_of_anothers_address`; nobody is let in under that address any more.
-/
import DjangoFoundation.Accounts.Registration
import DjangoFoundation.Security.Services
import DjangoFoundation.Proofs.Lifecycle

namespace DjangoFoundation

open AccountService TokenService

variable {env : Environment} {validators : Validators} {now : Int} {db db' : Database}

/-- No identifier finds two accounts. -/
def OneAccount (env : Environment) (db : Database) : Prop :=
  ∀ identifier, ∀ u ∈ db.users, ∀ v ∈ db.users,
    u.hasIdentifier env identifier = true → v.hasIdentifier env identifier = true → u = v

/-! ### One column

Uniqueness of a column is kept by a rule that is the same for both: a call writes it in one
row, with a value that no row has up to `LOWER`.  `Writes` states the rule, and the constraint
of the database is what the services' checks come to.
-/

/-- No two accounts share a column up to `LOWER`, and the column is found by itself. -/
structure Unique (env : Environment) (column : User → String) (db : Database) : Prop where
  unique : ∀ u ∈ db.users, ∀ v ∈ db.users,
    env.lowered (column u) = env.lowered (column v) → u.pk = v.pk
  trimmed : ∀ u ∈ db.users, env.unicode.stripped (column u) = column u

/-- The row was there, with this column. -/
def Kept (column : User → String) (db : Database) (user : User) : Prop :=
  ∃ old ∈ db.users, old.pk = user.pk ∧ column old = column user

/-- A call writes the column of one account at most, with a value that is free. -/
def Writes (env : Environment) (column : User → String) (db db' : Database) : Prop :=
  ∃ target : Option UUID, ∀ user ∈ db'.users, Kept column db user ∨
    target = some user.pk ∧ env.unicode.stripped (column user) = column user ∧
      ∀ other ∈ db.users, other.pk ≠ user.pk →
        env.lowered (column other) ≠ env.lowered (column user)

section Column

variable {column : User → String}

theorem Writes.kept (h : ∀ user ∈ db'.users, Kept column db user) : Writes env column db db' :=
  ⟨none, fun user huser => Or.inl (h user huser)⟩

theorem Writes.raised {result : Except Exception Database} (h : ∃ e, result = .error e) :
    Writes env column db (db.committed result) := by
  obtain ⟨e, rfl⟩ := h
  exact .kept fun user huser => ⟨user, huser, rfl, rfl⟩

theorem Unique.writes (h : Unique env column db) (hw : Writes env column db db') :
    Unique env column db' := by
  obtain ⟨target, hw⟩ := hw
  constructor
  · intro u hu v hv huv
    rcases hw u hu with ⟨u', hu', hupk, hucol⟩ | ⟨hut, _, hufree⟩
    · rcases hw v hv with ⟨v', hv', hvpk, hvcol⟩ | ⟨_, _, hvfree⟩
      · rw [← hupk, ← hvpk]
        refine h.unique u' hu' v' hv' ?_
        rw [hucol, hvcol, huv]
      · by_contra hne
        refine hvfree u' hu' ?_ ?_
        · rwa [hupk]
        · rw [hucol, huv]
    · rcases hw v hv with ⟨v', hv', hvpk, hvcol⟩ | ⟨hvt, _, _⟩
      · by_contra hne
        refine hufree v' hv' ?_ ?_
        · rw [hvpk]
          exact Ne.symm hne
        · rw [hvcol, huv]
      · exact Option.some.inj (hut.symm.trans hvt)
  · intro u hu
    rcases hw u hu with ⟨u', hu', _, hucol⟩ | ⟨_, htrim, _⟩
    · rw [← hucol]
      exact h.trimmed u' hu'
    · exact htrim

/-- A row after a call was there before it, rewritten if it is the target's. -/
theorem Rewrites.mem {target : Option UUID} {f : User → User} {user : User}
    (h : Rewrites target f db db') (huser : user ∈ db'.users) :
    ∃ old ∈ db.users, old.pk = user.pk ∧
      user = if target = some user.pk then f old else old := by
  have hget : db'.users.get? user.pk = some user := Table.get?_of_mem huser
  rw [h.users] at hget
  by_cases htarget : target = some user.pk
  · rw [if_pos htarget] at hget
    obtain ⟨old, hold, hf⟩ := Option.map_eq_some_iff.mp hget
    refine ⟨old, Table.mem_of_get? hold, Table.pk_of_get? hold, ?_⟩
    rw [if_pos htarget, hf]
  · rw [if_neg htarget] at hget
    refine ⟨user, Table.mem_of_get? hget, rfl, ?_⟩
    rw [if_neg htarget]

/-- A call that leaves a column alone keeps it in every row. -/
theorem Rewrites.writes {target : Option UUID} {f : User → User} (h : Rewrites target f db db')
    (hf : ∀ user, column (f user) = column user) : Writes env column db db' := by
  refine .kept fun user huser => ?_
  obtain ⟨old, hold, hpk, heq⟩ := h.mem huser
  refine ⟨old, hold, hpk, ?_⟩
  rw [heq]
  split
  · exact (hf old).symm
  · rfl

/-- A call that writes a free value into the column of its target. -/
theorem Rewrites.writes_free {target : Option UUID} {f : User → User}
    (h : Rewrites target f db db')
    (hf : ∀ user, target = some user.pk →
      env.unicode.stripped (column (f user)) = column (f user) ∧
        ∀ other ∈ db.users, other.pk ≠ user.pk →
          env.lowered (column other) ≠ env.lowered (column (f user))) :
    Writes env column db db' := by
  refine ⟨target, fun user huser => ?_⟩
  obtain ⟨old, hold, hpk, heq⟩ := h.mem huser
  by_cases htarget : target = some user.pk
  · rw [if_pos htarget] at heq
    have hfree := hf old (by rw [hpk]; exact htarget)
    rw [← heq, hpk] at hfree
    exact Or.inr ⟨htarget, hfree⟩
  · rw [if_neg htarget] at heq
    exact Or.inl ⟨old, hold, hpk, by rw [heq]⟩

end Column

theorem emailTaken_eq_false {user : UUID} {email : String}
    (h : emailTaken env db user email ≠ true) :
    ∀ other ∈ db.users, other.pk ≠ user → env.lowered other.email ≠ env.lowered email := by
  intro other hother hpk heq
  refine h (List.any_eq_true.mpr ⟨other, hother, ?_⟩)
  exact decide_eq_true ⟨hpk, heq⟩

theorem usernameTaken_eq_false {user : UUID} {username : String}
    (h : usernameTaken env db user username ≠ true) :
    ∀ other ∈ db.users, other.pk ≠ user → env.lowered other.username ≠ env.lowered username := by
  intro other hother hpk heq
  refine h (List.any_eq_true.mpr ⟨other, hother, ?_⟩)
  exact decide_eq_true ⟨hpk, heq⟩

/-! ### What each call writes

Services that write neither column satisfy the rule for nothing.  Those that do are a confirmed
change of address and a deletion, whose pseudonyms are checked like any other name.
-/

/-- A call writes both columns as `Writes` has it. -/
structure Renames (env : Environment) (db db' : Database) : Prop where
  email : Writes env User.email db db'
  username : Writes env User.username db db'

theorem Renames.raised {result : Except Exception Database} (h : ∃ e, result = .error e) :
    Renames env db (db.committed result) :=
  ⟨.raised h, .raised h⟩

theorem emailChange?_eq_some {rawToken : String} {user : UUID} {email : String}
    (h : emailChange? env now db rawToken = some (user, email)) :
    (∃ newEmail, email = env.unicode.normalizeEmailAddress newEmail) ∧
      emailTaken env db user email ≠ true := by
  obtain ⟨⟨token, row⟩, _, hlookup⟩ := Option.bind_eq_some_iff.mp h
  obtain ⟨newEmail, _, hfree⟩ := Option.bind_eq_some_iff.mp hlookup
  dsimp only at hfree
  split at hfree
  · cases hfree
  · rename_i hno
    cases hfree
    exact ⟨⟨newEmail, rfl⟩, fun htaken => hno (Or.inr htaken)⟩

theorem renames_confirmEmailChange (hink : env.unicode.KeepsInk) (rawToken : String)
    (sessionKey : Option String) :
    Renames env db (db.committed (confirmEmailChange env now db rawToken sessionKey)) := by
  have h := rewrites_confirmEmailChange env now db rawToken sessionKey
  refine ⟨h.writes_free ?_, h.writes fun _ => rfl⟩
  intro user htarget
  obtain ⟨⟨pk, email⟩, hchange, hpk⟩ := Option.map_eq_some_iff.mp htarget
  obtain rfl : pk = user.pk := hpk
  obtain ⟨⟨newEmail, hemail⟩, hfree⟩ := emailChange?_eq_some hchange
  simp only [hchange, Option.map_some, Option.getD_some]
  refine ⟨?_, emailTaken_eq_false hfree⟩
  rw [hemail, Unicode.stripped_normalizeEmailAddress hink]

theorem deletion?_free {rawToken : String} {user : UUID}
    (h : deletion? env now db rawToken = some user) :
    emailTaken env db user (pseudonymAddress user) ≠ true ∧
      usernameTaken env db user (pseudonym user) ≠ true := by
  obtain ⟨⟨token, row⟩, _, hfree⟩ := Option.bind_eq_some_iff.mp h
  split at hfree
  · cases hfree
  · rename_i hno
    cases hfree
    exact not_or.mp hno

theorem renames_confirmDeletion (rawToken suffix : String) (sessionKey : Option String) :
    Renames env db (db.committed (confirmDeletion env now db rawToken suffix sessionKey)) := by
  have h := rewrites_confirmDeletion env now db rawToken suffix sessionKey
  constructor
  · refine h.writes_free fun user htarget => ?_
    exact ⟨Unicode.stripped_plain (plain_pseudonymAddress user.pk),
      emailTaken_eq_false (deletion?_free htarget).1⟩
  · refine h.writes_free fun user htarget => ?_
    exact ⟨Unicode.stripped_plain (plain_pseudonym user.pk),
      usernameTaken_eq_false (deletion?_free htarget).2⟩

theorem Rewrites.renames {target : Option UUID} {f : User → User} (h : Rewrites target f db db')
    (hf : ∀ user, (f user).email = user.email ∧ (f user).username = user.username) :
    Renames env db db' :=
  ⟨h.writes fun user => (hf user).1, h.writes fun user => (hf user).2⟩

theorem swept_names (user : User) :
    (swept now db user).email = user.email ∧ (swept now db user).username = user.username := by
  unfold swept
  dsimp only
  split <;> split <;> exact ⟨rfl, rfl⟩

theorem renames_expireTemporaryBans :
    Renames env db (db.committed (expireTemporaryBans env now db)) := by
  obtain ⟨db', hok, _, hget⟩ := expireTemporaryBans_ok env now db
  rw [hok]
  constructor
  · refine .kept fun user huser => ?_
    obtain ⟨old, hold, hpk, heq⟩ := mem_of_swept hget huser
    exact ⟨old, hold, hpk, by rw [← heq, (swept_names old).1]⟩
  · refine .kept fun user huser => ?_
    obtain ⟨old, hold, hpk, heq⟩ := mem_of_swept hget huser
    exact ⟨old, hold, hpk, by rw [← heq, (swept_names old).2]⟩

theorem renames_lifecycle (hink : env.unicode.KeepsInk) (call : Lifecycle.Call) :
    Renames env db (db.committed (call.run env now db)) := by
  cases call with
  | issue user purpose ttl metadata raw =>
      exact (rewrites_issue env now db user purpose ttl metadata raw id).renames
        fun _ => ⟨rfl, rfl⟩
  | verifyEmail rawToken =>
      refine (rewrites_verifyEmail env now db rawToken).renames fun user => ?_
      unfold verified
      split <;> exact ⟨rfl, rfl⟩
  | resetPassword rawToken newPassword salt sessionKey =>
      exact (rewrites_resetPassword env now db rawToken newPassword salt sessionKey).renames
        fun _ => ⟨rfl, rfl⟩
  | confirmEmailChange rawToken sessionKey =>
      exact renames_confirmEmailChange hink rawToken sessionKey
  | confirmDeletion rawToken suffix sessionKey =>
      exact renames_confirmDeletion rawToken suffix sessionKey
  | ban pk user reason actor startsAt expiresAt sessionKey =>
      obtain ⟨bans, _, _, h⟩ :=
        rewrites_ban env now db pk user reason actor startsAt expiresAt sessionKey
      obtain ⟨hemail, husername⟩ := @Rewrites.renames env _ _ _ _ h fun _ => ⟨rfl, rfl⟩
      exact ⟨hemail, husername⟩
  | revoke pk actor =>
      rcases rewrites_revoke now db pk actor with ⟨hsame, _⟩ | ⟨_, _, _, _, _, h⟩
      · show Renames env db (db.committed (BanService.revoke now db pk actor))
        rw [hsame]
        exact ⟨.kept fun user huser => ⟨user, huser, rfl, rfl⟩,
          .kept fun user huser => ⟨user, huser, rfl, rfl⟩⟩
      · obtain ⟨hemail, husername⟩ := @Rewrites.renames env _ _ _ _ h fun _ => ⟨rfl, rfl⟩
        exact ⟨hemail, husername⟩
  | expireTemporaryBans => exact renames_expireTemporaryBans

/-! ### Registration and renaming

The other two take a name from the user.  Both fail where the name is taken, by the validation
before and by the constraint at the save.
-/

section Registration

variable {pk : UUID} {email username password salt firstName lastName raw : String}

/-- An account that is created has both columns free, in the form `save` gives them. -/
theorem createUser_eq_ok
    (h : createUser env validators now db pk email username password salt firstName lastName
      = .ok db') :
    ∃ user : User, db.users.insert? user = some db'.users ∧ user.pk = pk ∧
      user.email = env.unicode.normalizeEmailAddress
        (validators.nfkc (env.unicode.normalizeEmailAddress email)) ∧
      user.username = env.unicode.stripped (env.unicode.stripped username) ∧
      emailTaken env db user.pk user.email ≠ true ∧
      usernameTaken env db user.pk user.username ≠ true := by
  unfold createUser at h
  dsimp only at h
  split at h
  · cases h
  · split at h
    · cases h
    · split at h
      · cases h
      · rename_i hfree
        split at h
        · cases h
        · rename_i users hinsert
          cases h
          obtain ⟨hemail, husername⟩ := not_or.mp hfree
          exact ⟨_, hinsert, rfl, rfl, rfl, hemail, husername⟩

theorem users_createRows {user : UUID} (h : createRows db user = .ok db') :
    db'.users = db.users := by
  unfold createRows at h
  split at h
  · cases h
    rfl
  · cases h

theorem users_issue {user : UUID} {purpose : TokenPurpose} {ttl : Int}
    {metadata : List (String × String)}
    (h : issue env now db user purpose ttl metadata raw = .ok db') : db'.users = db.users := by
  unfold issue at h
  dsimp only at h
  split at h
  · cases h
    rfl
  · cases h

theorem renames_insert {user : User} {users : Table User} (hink : env.unicode.KeepsInk)
    (hinsert : db.users.insert? user = some users) (husers : db'.users = users)
    (hemail : ∃ address, user.email = env.unicode.normalizeEmailAddress address)
    (husername : ∃ name, user.username = env.unicode.stripped name)
    (hefree : emailTaken env db user.pk user.email ≠ true)
    (hufree : usernameTaken env db user.pk user.username ≠ true) : Renames env db db' := by
  obtain ⟨address, hemail⟩ := hemail
  obtain ⟨name, husername⟩ := husername
  have hmem : ∀ u ∈ db'.users, u ∈ db.users ∨ u = user := by
    intro u hu
    rw [husers] at hu
    exact (Table.mem_insert? hinsert).mp hu
  constructor
  · refine ⟨some user.pk, fun u hu => ?_⟩
    rcases hmem u hu with hold | rfl
    · exact Or.inl ⟨u, hold, rfl, rfl⟩
    · refine Or.inr ⟨rfl, ?_, emailTaken_eq_false hefree⟩
      rw [hemail, Unicode.stripped_normalizeEmailAddress hink]
  · refine ⟨some user.pk, fun u hu => ?_⟩
    rcases hmem u hu with hold | rfl
    · exact Or.inl ⟨u, hold, rfl, rfl⟩
    · refine Or.inr ⟨rfl, ?_, usernameTaken_eq_false hufree⟩
      rw [husername, Unicode.stripped_stripped]

theorem registerUser_eq_ok
    (h : registerUser env validators now db pk email username password salt firstName lastName raw
      = .ok db') :
    ∃ user : User, db.users.insert? user = some db'.users ∧ user.pk = pk ∧
      user.email = env.unicode.normalizeEmailAddress
        (validators.nfkc (env.unicode.normalizeEmailAddress email)) ∧
      user.username = env.unicode.stripped (env.unicode.stripped username) ∧
      emailTaken env db user.pk user.email ≠ true ∧
      usernameTaken env db user.pk user.username ≠ true := by
  unfold registerUser at h
  by_cases haccept : validators.acceptsNewPassword password = true
  · simp only [haccept, Bool.not_true, Bool.false_eq_true, if_false] at h
    obtain ⟨db₁, hcreate, h⟩ := bind_eq_ok.mp h
    obtain ⟨_, _, h⟩ := bind_eq_ok.mp h
    obtain ⟨db₂, hrows, h⟩ := bind_eq_ok.mp h
    obtain ⟨db₃, hissue, h⟩ := bind_eq_ok.mp h
    cases h
    have husers : db₃.users = db₁.users := (users_issue hissue).trans (users_createRows hrows)
    obtain ⟨user, hinsert, hcreated⟩ := createUser_eq_ok hcreate
    rw [← husers] at hinsert
    exact ⟨user, hinsert, hcreated⟩
  · simp only [haccept] at h
    cases h

theorem renames_registerUser (hink : env.unicode.KeepsInk) :
    Renames env db (db.committed (registerUser env validators now db pk email username password
      salt firstName lastName raw)) := by
  cases hresult : registerUser env validators now db pk email username password salt firstName
      lastName raw with
  | error e => exact .raised ⟨e, rfl⟩
  | ok db' =>
      obtain ⟨user, hinsert, _, hemail, husername, hefree, hufree⟩ := registerUser_eq_ok hresult
      exact renames_insert hink hinsert rfl ⟨_, hemail⟩ ⟨_, husername⟩ hefree hufree

/-- A username that is changed is free, in the form `save` gives it. -/
theorem changeUsername_eq_ok {user : UUID}
    (h : changeUsername env validators now db user username = .ok db') :
    ∃ locked : User, locked.pk = user ∧ db.users.get? locked.pk = some locked ∧
      Rewrites (some locked.pk)
        (fun u => { u with username := env.unicode.stripped (env.unicode.stripped username),
                           updatedAt := now }) db db' ∧
      usernameTaken env db locked.pk (env.unicode.stripped (env.unicode.stripped username)) ≠
        true := by
  unfold changeUsername at h
  obtain ⟨locked, hlocked, h⟩ := bind_eq_ok.mp h
  dsimp only at h
  split at h
  · cases h
  · split at h
    · cases h
    · rename_i hfree
      cases h
      have hpk : locked.pk = user := Table.pk_of_get? (getUser_eq_ok hlocked)
      have hrow : db.users.get? locked.pk = some locked := by
        rw [hpk]
        exact getUser_eq_ok hlocked
      exact ⟨locked, hpk, hrow, .modified (fun _ => by rfl) rfl rfl hrow rfl, hfree⟩

theorem renames_changeUsername {user : UUID} :
    Renames env db (db.committed (changeUsername env validators now db user username)) := by
  cases hresult : changeUsername env validators now db user username with
  | error e => exact .raised ⟨e, rfl⟩
  | ok db' =>
      obtain ⟨locked, _, _, h, hfree⟩ := changeUsername_eq_ok hresult
      refine ⟨h.writes fun _ => rfl, h.writes_free fun u hu => ?_⟩
      obtain hpk : locked.pk = u.pk := Option.some.inj hu
      refine ⟨Unicode.stripped_stripped _, ?_⟩
      rw [← hpk]
      exact usernameTaken_eq_false hfree

end Registration

/-! ### Both columns at once

No constraint compares an address with a username.  What the constraints leave open about two
accounts is `Apart`, and with it and the two columns' uniqueness no identifier finds both.
-/

namespace Accounts

/-- Two accounts no identifier confuses, as far as the constraints do not see to it.
`folded` is what `iexact` makes of a text. -/
structure Apart (env : Environment) (folded : String → String) (u v : User) : Prop where
  emailUsername : folded u.email ≠ folded v.username
  usernameEmail : folded u.username ≠ folded v.email
  /-- What `LOWER` tells apart, `iexact` does. -/
  emails : env.lowered u.email ≠ env.lowered v.email → folded u.email ≠ folded v.email
  usernames :
    env.lowered u.username ≠ env.lowered v.username → folded u.username ≠ folded v.username

theorem apart_iff {folded : String → String} {u v : User} : Apart env folded u v ↔
    (folded u.email ≠ folded v.username ∧ folded u.username ≠ folded v.email) ∧
      (env.lowered u.email ≠ env.lowered v.email → folded u.email ≠ folded v.email) ∧
      (env.lowered u.username ≠ env.lowered v.username →
        folded u.username ≠ folded v.username) :=
  ⟨fun h => ⟨⟨h.emailUsername, h.usernameEmail⟩, h.emails, h.usernames⟩,
    fun h => ⟨h.1.1, h.1.2, h.2.1, h.2.2⟩⟩

instance (folded : String → String) (u v : User) : Decidable (Apart env folded u v) :=
  decidable_of_iff _ apart_iff.symm

/-- The row was there, under both names. -/
def Standing (db : Database) (user : User) : Prop :=
  ∃ old ∈ db.users.rows, old.pk = user.pk ∧ old.email = user.email ∧ old.username = user.username

instance (db : Database) (user : User) : Decidable (Standing db user) :=
  inferInstanceAs (Decidable (∃ old ∈ db.users.rows, _))

/-- An account the step names, or names anew, is named apart from every other. -/
def NamesApart (env : Environment) (folded : String → String) (s : State) (_ : Int × Call)
    (s' : State) : Prop :=
  ∀ u ∈ s'.db.users.rows, ¬Standing s.db u →
    ∀ v ∈ s'.db.users.rows, u.pk ≠ v.pk → Apart env folded u v

instance (folded : String → String) (s : State) (e : Int × Call) (s' : State) :
    Decidable (NamesApart env folded s e s') :=
  inferInstanceAs (Decidable (∀ u ∈ s'.db.users.rows, _))

/-- Both columns are unique. -/
structure Distinct (env : Environment) (db : Database) : Prop where
  email : Unique env User.email db
  username : Unique env User.username db

theorem Distinct.renames (h : Distinct env db) (hrenames : Renames env db db') :
    Distinct env db' :=
  ⟨h.email.writes hrenames.email, h.username.writes hrenames.username⟩

section Lookup

variable {folded : String → String} (hfold : ∀ c v, env.iexact c v = decide (folded c = folded v))

include hfold

theorem hasIdentifier_iff {user : User} {identifier : String} :
    user.hasIdentifier env identifier = true ↔
      folded user.email = folded (env.unicode.stripped identifier) ∨
        folded user.username = folded (env.unicode.stripped identifier) := by
  simp only [User.hasIdentifier, hfold, Bool.or_eq_true, decide_eq_true_eq]

theorem hasIdentifier_email (h : Distinct env db) {user : User} (huser : user ∈ db.users) :
    user.hasIdentifier env user.email = true := by
  rw [hasIdentifier_iff hfold, h.email.trimmed user huser]
  exact Or.inl rfl

theorem hasIdentifier_username (h : Distinct env db) {user : User} (huser : user ∈ db.users) :
    user.hasIdentifier env user.username = true := by
  rw [hasIdentifier_iff hfold, h.username.trimmed user huser]
  exact Or.inr rfl

/-- Two accounts kept apart by the constraints and by `Apart` have no identifier between
them. -/
theorem Apart.not_both (h : Distinct env db) {u v : User} (hu : u ∈ db.users) (hv : v ∈ db.users)
    (hne : u.pk ≠ v.pk) (hapart : Apart env folded u v) {identifier : String}
    (hui : u.hasIdentifier env identifier = true) : v.hasIdentifier env identifier ≠ true := by
  rw [hasIdentifier_iff hfold] at hui
  rw [Ne, hasIdentifier_iff hfold]
  intro hvi
  rcases hui with hui | hui
  · rcases hvi with hvi | hvi
    · refine hapart.emails (fun hlow => hne ?_) (hui.trans hvi.symm)
      exact h.email.unique u hu v hv hlow
    · exact hapart.emailUsername (hui.trans hvi.symm)
  · rcases hvi with hvi | hvi
    · exact hapart.usernameEmail (hui.trans hvi.symm)
    · refine hapart.usernames (fun hlow => hne ?_) (hui.trans hvi.symm)
      exact h.username.unique u hu v hv hlow

/-- Where no identifier finds two accounts, any two of them are apart. -/
theorem apart_of_oneAccount (h : Distinct env db) (hone : OneAccount env db) {u v : User}
    (hu : u ∈ db.users) (hv : v ∈ db.users) (hne : u.pk ≠ v.pk) : Apart env folded u v := by
  have hclash : ∀ identifier, u.hasIdentifier env identifier = true →
      v.hasIdentifier env identifier = true → False := by
    intro identifier hui hvi
    exact hne (congrArg User.pk (hone identifier u hu v hv hui hvi))
  have huemail := hasIdentifier_email hfold h hu
  have huname := hasIdentifier_username hfold h hu
  constructor
  · intro heq
    refine hclash u.email huemail ((hasIdentifier_iff hfold).mpr (Or.inr ?_))
    rw [h.email.trimmed u hu, heq]
  · intro heq
    refine hclash u.username huname ((hasIdentifier_iff hfold).mpr (Or.inl ?_))
    rw [h.username.trimmed u hu, heq]
  · intro _ heq
    refine hclash u.email huemail ((hasIdentifier_iff hfold).mpr (Or.inl ?_))
    rw [h.email.trimmed u hu, heq]
  · intro _ heq
    refine hclash u.username huname ((hasIdentifier_iff hfold).mpr (Or.inr ?_))
    rw [h.username.trimmed u hu, heq]

/-! ### Runs

A step is judged by the names it gives: whom it names must be apart from everybody else
afterwards.  Everybody else was so before.
-/

variable {s s' : State} {e : Int × Call}

omit hfold in
theorem renames_step (hink : env.unicode.KeepsInk) (hs : step env validators s e = some s') :
    Renames env s.db s'.db := by
  obtain ⟨now, call⟩ := e
  unfold step at hs
  split at hs
  · cases hs
    cases call with
    | register pk email username password salt firstName lastName raw =>
        exact renames_registerUser hink
    | changeUsername user username => exact renames_changeUsername
    | lifecycle call => exact renames_lifecycle hink call
  · cases hs

/-- **One step.**  It lets no identifier find two accounts exactly where it names no
account as another is named. -/
theorem oneAccount_step_iff (hdistinct : Distinct env s'.db) (hone : OneAccount env s.db) :
    OneAccount env s'.db ↔ NamesApart env folded s e s' := by
  constructor
  · intro hone' u hu _ v hv hne
    exact apart_of_oneAccount hfold hdistinct hone' hu hv hne
  · intro hnames identifier u hu v hv hui hvi
    by_cases hne : u.pk = v.pk
    · exact Table.eq_of_pk_eq hu hv hne
    · by_cases hustanding : Standing s.db u
      · by_cases hvstanding : Standing s.db v
        · obtain ⟨u', hu', hupk, huemail, huname⟩ := hustanding
          obtain ⟨v', hv', hvpk, hvemail, hvname⟩ := hvstanding
          -- both were there under these names, and were one account then
          have heq : u' = v' := by
            refine hone identifier u' hu' v' hv' ?_ ?_
            · rw [User.hasIdentifier, huemail, huname]
              exact hui
            · rw [User.hasIdentifier, hvemail, hvname]
              exact hvi
          rw [← hupk, ← hvpk, heq] at hne
          exact absurd rfl hne
        · have hapart := hnames v hv hvstanding u hu (Ne.symm hne)
          exact absurd hui (hapart.not_both hfold hdistinct hv hu (Ne.symm hne) hvi)
      · have hapart := hnames u hu hustanding v hv hne
        exact absurd hvi (hapart.not_both hfold hdistinct hu hv hne hui)

end Lookup

/-! ### The account an identifier belongs to

Where an identifier finds at most one account, a login under one's own address finds oneself,
and a lock under an identifier falls on the account it belongs to.  Both are consequences,
proved for the states of such runs.
-/

/-- What a lock of the account itself says. -/
def lockedUntil (db : Database) (user : UUID) : Option Int :=
  (db.securitySettings.get? user).bind fun row => row.lockedUntil

theorem identified_eq (hone : OneAccount env db) {user : User} (huser : user ∈ db.users)
    {identifier : String} (hid : user.hasIdentifier env identifier = true) :
    db.identified env identifier = [user] := by
  have hnodup : (db.identified env identifier).Nodup :=
    (List.Nodup.of_map _ db.users.nodup).filter _
  have hmem : ∀ v, v ∈ db.identified env identifier ↔ v = user := by
    intro v
    rw [Database.identified, List.mem_filter]
    constructor
    · intro hv
      exact hone identifier v hv.1 user huser hv.2 hid
    · intro hv
      rw [hv]
      exact ⟨huser, hid⟩
  exact List.perm_singleton.mp ((List.perm_ext_iff_of_nodup hnodup (List.nodup_singleton _)).mpr
    fun v => (hmem v).trans List.mem_singleton.symm)

theorem lockedUntil_lockKnownAccount {identifier : String} {user : User}
    (h : LoginProtectionService.newest (db.identified env identifier) = some user)
    (retryAfter : Int) (client : Client) (k : UUID) :
    lockedUntil
        (LoginProtectionService.lockKnownAccount env now db identifier retryAfter client) k =
      if k = user.pk then some (now + seconds retryAfter) else lockedUntil db k := by
  have hget : ((((db.securitySettings.ensure { user := user.pk }).modify user.pk
      fun row => { row with lockedUntil := some (now + seconds retryAfter) }).get? k).bind
        fun row => row.lockedUntil) =
      if k = user.pk then some (now + seconds retryAfter) else lockedUntil db k := by
    rw [Table.get?_modify, Table.get?_ensure]
    by_cases hk : k = user.pk
    · subst hk
      rw [if_pos rfl, if_pos rfl]
      exact congrArg (fun row => (Option.map _ row).bind _) (if_pos rfl)
    · have hpk : Keyed.pk ({ user := user.pk } : UserSecuritySettings) ≠ k := Ne.symm hk
      rw [if_neg hk, if_neg hk, if_neg hpk]
      rfl
  unfold LoginProtectionService.lockKnownAccount
  rw [h]
  dsimp only
  split
  · exact hget
  · split <;> exact hget

theorem authenticate_own_email {user : User} {password : String}
    (h : db.identified env user.email = [user]) (hemail : user.email ≠ "") (hactive : user.isActive)
    (hpassword : password ≠ "") (hright : env.keyring.checkPassword password user.password) :
    EmailOrUsernameBackend.authenticate env db user.email password = some user := by
  refine EmailOrUsernameBackend.authenticate_eq_some.mpr ⟨?_, hactive⟩
  refine EmailOrUsernameBackend.evaluated_eq_some.mpr ⟨hemail, hpassword, ?_, hright⟩
  exact EmailOrUsernameBackend.find?_eq_some.mpr h

/-- **A login identifier names at most one account**, in every state of a run, exactly where
no step names an account as another is named; each of the two columns is unique in any run.
An active account is then let in by its own address and password, and the account an identifier
belongs to is the one it locks. -/
theorem identifiers_name_one_account {folded : String → String} (hink : env.unicode.KeepsInk)
    (hfold : ∀ c v, env.iexact c v = decide (folded c = folded v)) (es : List (Int × Call)) :
    Run.Always (step env validators) (fun s => Distinct env s.db) {} es ∧
      (Run.Always (step env validators) (fun s => OneAccount env s.db) {} es ↔
        Run.Steps (step env validators) (NamesApart env folded) {} es) ∧
      ∀ s, Run.exec (step env validators) {} es = some s →
        Run.Steps (step env validators) (NamesApart env folded) {} es →
        ∀ user ∈ s.db.users,
          (∀ password, user.isActive → user.email ≠ "" → password ≠ "" →
            env.keyring.checkPassword password user.password →
            EmailOrUsernameBackend.authenticate env s.db user.email password = some user) ∧
          ∀ identifier, user.hasIdentifier env identifier = true →
            ∀ now retryAfter client k,
              lockedUntil (LoginProtectionService.lockKnownAccount env now s.db identifier
                retryAfter client) k =
              if k = user.pk then some (now + seconds retryAfter) else lockedUntil s.db k := by
  have hinit : Distinct env ({} : State).db ∧ OneAccount env ({} : State).db := by
    refine ⟨⟨⟨?_, ?_⟩, ⟨?_, ?_⟩⟩, ?_⟩
    · exact fun u hu => absurd hu (Table.not_mem_empty u)
    · exact fun u hu => absurd hu (Table.not_mem_empty u)
    · exact fun u hu => absurd hu (Table.not_mem_empty u)
    · exact fun u hu => absurd hu (Table.not_mem_empty u)
    · exact fun _ u hu => absurd hu (Table.not_mem_empty u)
  have hdistinct : ∀ s e s', Distinct env s.db → step env validators s e = some s' →
      Distinct env s'.db := by
    intro s e s' hs he
    exact hs.renames (renames_step hink he)
  have hsteps : Run.Steps (step env validators) (fun _ _ s' => OneAccount env s'.db) {} es ↔
      Run.Steps (step env validators) (NamesApart env folded) {} es := by
    have hiff : ∀ s e s', Distinct env s.db ∧ OneAccount env s.db →
        step env validators s e = some s' →
        (OneAccount env s'.db ↔ NamesApart env folded s e s') :=
      fun s e s' hs he => oneAccount_step_iff hfold (hdistinct s e s' hs.1 he) hs.2
    have hkeep : ∀ s e s', Distinct env s.db ∧ OneAccount env s.db →
        step env validators s e = some s' → OneAccount env s'.db →
        Distinct env s'.db ∧ OneAccount env s'.db :=
      fun s e s' hs he hone => ⟨hdistinct s e s' hs.1 he, hone⟩
    exact Run.steps_iff_of_inv hiff hkeep hinit es
  have halways : Run.Always (step env validators) (fun s => OneAccount env s.db) {} es ↔
      Run.Steps (step env validators) (NamesApart env folded) {} es := by
    constructor
    · intro h
      exact hsteps.mp h.2
    · intro h
      exact ⟨hinit.2, hsteps.mpr h⟩
  have hcolumns : Run.Always (step env validators) (fun s => Distinct env s.db) {} es := by
    have hfree : Run.Steps (step env validators) (fun _ _ _ => True) {} es :=
      .of_forall (fun _ _ _ _ => trivial) _ _
    have hkept : ∀ s e s', Distinct env s.db → step env validators s e = some s' → True →
        Distinct env s'.db ∧ Distinct env s'.db :=
      fun s e s' hs he _ => ⟨hdistinct s e s' hs he, hdistinct s e s' hs he⟩
    exact ⟨hinit.1, Run.Steps.of_inv hkept hinit.1 hfree⟩
  refine ⟨hcolumns, halways, fun s hs hC user huser => ?_⟩
  have hone : OneAccount env s.db := (halways.mpr hC).exec hs
  have hd : Distinct env s.db := hcolumns.exec hs
  constructor
  · intro password hactive hemail hpassword hright
    exact authenticate_own_email (identified_eq hone huser (hasIdentifier_email hfold hd huser))
      hemail hactive hpassword hright
  · intro identifier hid now retryAfter client k
    have hnewest : LoginProtectionService.newest (s.db.identified env identifier) = some user := by
      rw [identified_eq hone huser hid]
      rfl
    exact lockedUntil_lockKnownAccount hnewest retryAfter client k

theorem keepsInk_plain : Environment.plain.unicode.KeepsInk := by
  have hlower : ∀ n < 128, Environment.plain.unicode.charIsSpace (Char.ofNat n) = false →
      Environment.plain.unicode.charIsSpace (Char.ofNat n).toLower = false := by
    decide
  have hink : ∀ c, Environment.plain.unicode.charIsSpace c = false →
      ∀ d ∈ Environment.plain.unicode.charLower c,
        Environment.plain.unicode.charIsSpace d = false := by
    intro c hc d hd
    unfold Unicode.charLower at hd
    split at hd
    · rename_i hascii
      have h := hlower c.toNat (of_decide_eq_true hascii)
      rw [Char.ofNat_toNat] at h
      rw [List.mem_singleton.mp hd]
      exact h hc
    · rw [List.mem_singleton.mp hd]
      exact hc
  have hne : ∀ c, Environment.plain.unicode.charLower c ≠ [] := by
    intro c
    unfold Unicode.charLower
    split <;> exact List.cons_ne_nil _ _
  exact ⟨fun c hc => ⟨hne c, hink c hc⟩, fun c hc => ⟨hne c, hink c hc⟩⟩

def registerAda : Int × Call :=
  (1, .register 1 "ada@example.org" "ada" "secret" "salt" "Ada" "" "t1")

def registerBob : Int × Call :=
  (2, .register 2 "bob@example.org" "bob" "hunter2" "salt" "Bob" "" "t2")

theorem identifiers_name_one_account_renamed :
    Run.Always (step .plain .plain) (fun s => OneAccount .plain s.db) {}
      [registerAda, registerBob, (3, .changeUsername 2 " rob ")] :=
  (identifiers_name_one_account keepsInk_plain (fun _ _ => rfl) _).2.1.mpr (by decide)

/-- An identifier of two accounts, which is the address of one and lets nobody in. -/
def Confuses (db : Database) (identifier password : String) : Prop :=
  ∃ u ∈ db.users.rows, ∃ v ∈ db.users.rows, u.pk ≠ v.pk ∧ u.email = identifier ∧ u.isActive ∧
    Environment.plain.keyring.checkPassword password u.password ∧
    u.hasIdentifier .plain identifier ∧ v.hasIdentifier .plain identifier ∧
    EmailOrUsernameBackend.authenticate .plain db identifier password = none

instance (db : Database) (identifier password : String) :
    Decidable (Confuses db identifier password) :=
  inferInstanceAs (Decidable (∃ u ∈ db.users.rows, _))

/-- A username may be another account's address. -/
theorem username_of_anothers_address :
    ∃ s, Run.exec (step .plain .plain) {}
        [registerAda, registerBob, (3, .changeUsername 2 "ada@example.org")] = some s ∧
      Confuses s.db "ada@example.org" "secret" := by
  have h : (Run.exec (step .plain .plain) {}
      [registerAda, registerBob, (3, .changeUsername 2 "ada@example.org")]).any
        (fun s => Confuses s.db "ada@example.org" "secret") = true := by
    decide
  obtain ⟨s, hs, hclash⟩ := (Option.any_eq_true _ _).mp h
  exact ⟨s, hs, of_decide_eq_true hclash⟩

end Accounts

end DjangoFoundation
