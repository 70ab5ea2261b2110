/-
Whether a confirmed deletion can be blocked.

`confirm_deletion` renames the account to a pseudonym made of its id, in the columns users
choose their names for.  Every call renames one account at most, so all that is told of the
database here is what each account is called.  A deletion gives a name no other account's
deletion asks for: the digits of an id are its own.  The other calls give any name that is
free, and the pseudonym of an account that is still there is free.
-/
import Mathlib.Logic.Function.Basic
import DjangoFoundation.Proofs.Identifiers

namespace DjangoFoundation

namespace Accounts

open AccountService TokenService

variable {env : Environment} {validators : Validators} {now : Int} {db db' : Database}

/-! ### What accounts are called

All of the database that a deletion can fail on is two columns.  `directory` keeps these, by
id, and forgets the rest; a name is held if it is equal to the pseudonym up to letter case,
which is how the constraint compares.
-/

structure Names where
  email : String
  username : String

def namesOf (user : User) : Names := ⟨user.email, user.username⟩

/-- What the account of each id is called. -/
def directory (db : Database) (k : UUID) : Option Names := (db.users.get? k).map namesOf

/-- One of the names is, in some letter case, what the deletion of the account `k` asks for. -/
def Holds (env : Environment) (names : Names) (k : UUID) : Prop :=
  env.lowered names.email = env.lowered (pseudonymAddress k) ∨
    env.lowered names.username = env.lowered (pseudonym k)

instance (names : Names) (k : UUID) : Decidable (Holds env names k) :=
  inferInstanceAs (Decidable (_ ∨ _))

/-- No account is called what the deletion of another asks for. -/
def Unheld (env : Environment) (d : UUID → Option Names) : Prop :=
  ∀ j k names, d j = some names → (d k).isSome → j ≠ k → ¬Holds env names k

/-- The names of one account, at most, are others now. -/
def renamed (named : Option (UUID × Names)) (d : UUID → Option Names) : UUID → Option Names :=
  match named with
  | some (i, names) => Function.update d i (some names)
  | none => d

theorem unheld_update_iff {d : UUID → Option Names} (h : Unheld env d) (i : UUID)
    (names : Names) :
    Unheld env (Function.update d i (some names)) ↔
      ∀ j other, d j = some other → j ≠ i → ¬Holds env names j ∧ ¬Holds env other i := by
  have hi : Function.update d i (some names) i = some names := Function.update_self i _ d
  have hj : ∀ j, j ≠ i → Function.update d i (some names) j = d j :=
    fun j hne => Function.update_of_ne hne _ d
  constructor
  · intro hunheld j other hother hne
    have hsome : Function.update d i (some names) j = some other := (hj j hne).trans hother
    constructor
    · exact hunheld i j names hi (by rw [hsome, Option.isSome_some]) (Ne.symm hne)
    · exact hunheld j i other hsome (by rw [hi, Option.isSome_some]) hne
  · intro hfree j k other hother hk hne
    by_cases hji : j = i
    · subst hji
      rw [hi, Option.some.injEq] at hother
      rw [hj k (Ne.symm hne)] at hk
      obtain ⟨third, hthird⟩ := Option.isSome_iff_exists.mp hk
      rw [← hother]
      exact (hfree k third hthird (Ne.symm hne)).1
    · rw [hj j hji] at hother
      by_cases hki : k = i
      · rw [hki]
        exact (hfree j other hother hji).2
      · rw [hj k hki] at hk
        exact h j k other hother hk hne

/-- No two ids have one pseudonym. -/
theorem not_holds_pseudonym
    (hlower : ∀ s : String, (∀ c ∈ s.toList, Unicode.Plain c) → env.lowered s = s) {i k : UUID}
    (hi : i < 2 ^ 128) (hk : k < 2 ^ 128) (hne : i ≠ k) :
    ¬Holds env ⟨pseudonymAddress i, pseudonym i⟩ k := by
  have hhex : UUID.hex i ≠ UUID.hex k := fun h => hne (UUID.hex_injective hi hk h)
  rintro (h | h)
  · rw [hlower _ (plain_pseudonymAddress i), hlower _ (plain_pseudonymAddress k)] at h
    exact hhex ((String.append_right_inj _).mp ((String.append_left_inj _).mp h))
  · rw [hlower _ (plain_pseudonym i), hlower _ (plain_pseudonym k)] at h
    exact hhex ((String.append_right_inj _).mp h)

/-! ### Whom a call names

Each call is described by the entry of the directory it writes, if any.  Confirmations, the
task and the bans come from what is known of the rows; registering and renaming give a name
that was free.
-/

/-- Whom a call names, and how, if it goes through. -/
def Call.names? (env : Environment) (validators : Validators) (now : Int) (db : Database) :
    Call → Option (UUID × Names)
  | .register pk email username password salt firstName lastName raw =>
      if (registerUser env validators now db pk email username password salt firstName lastName
          raw).isOk then
        some (pk, {
          email := env.unicode.normalizeEmailAddress
            (validators.nfkc (env.unicode.normalizeEmailAddress email))
          username := env.unicode.stripped (env.unicode.stripped username) })
      else none
  | .changeUsername user username =>
      if (AccountService.changeUsername env validators now db user username).isOk then
        (directory db user).map fun names =>
          (user, { names with username := env.unicode.stripped (env.unicode.stripped username) })
      else none
  | .lifecycle (.confirmEmailChange rawToken _) =>
      (emailChange? env now db rawToken).bind fun (user, email) =>
        (directory db user).map fun names => (user, { names with email := email })
  | .lifecycle (.confirmDeletion rawToken _ _) =>
      (deletion? env now db rawToken).map fun user =>
        (user, ⟨pseudonymAddress user, pseudonym user⟩)
  | .lifecycle _ => none

theorem directory_eq_some {user : User} (h : db.users.get? user.pk = some user) :
    directory db user.pk = some (namesOf user) := by
  rw [directory, h, Option.map_some]

theorem isSome_directory {user : User} (h : db.users.get? user.pk = some user) :
    (directory db user.pk).isSome := by
  rw [directory_eq_some h, Option.isSome_some]

/-- A rewriting that leaves the names. -/
theorem map_namesOf {f : User → User}
    (hf : ∀ user, (f user).email = user.email ∧ (f user).username = user.username)
    (row : Option User) : (row.map f).map namesOf = row.map namesOf := by
  have hsame : ∀ user, namesOf (f user) = namesOf user := by
    intro user
    rw [namesOf, (hf user).1, (hf user).2, namesOf]
  rw [Option.map_map]
  exact Option.map_congr fun user _ => hsame user

/-- A call that renames nobody. -/
theorem directory_same {target : Option UUID} {f : User → User} (h : Rewrites target f db db')
    (hf : ∀ user, (f user).email = user.email ∧ (f user).username = user.username) :
    directory db' = directory db := by
  funext k
  rw [directory, directory, h.users k]
  split
  · exact map_namesOf hf _
  · rfl

/-- A call that rewrites one account. -/
theorem directory_rewrites {f : User → User} {user : User} (h : Rewrites (some user.pk) f db db')
    (hrow : db.users.get? user.pk = some user) :
    directory db' = Function.update (directory db) user.pk (some (namesOf (f user))) := by
  funext k
  by_cases hk : k = user.pk
  · subst hk
    rw [Function.update_self, directory, h.row_eq hrow, if_pos rfl, Option.map_some]
  · have hother : ¬some user.pk = some k := fun heq => hk (Option.some.inj heq).symm
    rw [Function.update_of_ne hk, directory, directory, h.users k, if_neg hother]

theorem emailChange?_user {rawToken : String} {k : UUID} {email : String}
    (h : emailChange? env now db rawToken = some (k, email)) :
    ∃ user : User, user.pk = k ∧ db.users.get? user.pk = some user := by
  obtain ⟨⟨token, user⟩, hbearer, hlookup⟩ := Option.bind_eq_some_iff.mp h
  obtain ⟨newEmail, _, hfree⟩ := Option.bind_eq_some_iff.mp hlookup
  dsimp only at hfree
  split at hfree
  · cases hfree
  · cases hfree
    exact ⟨user, rfl, (confirm_of_some hbearer).1⟩

theorem directory_confirmEmailChange (rawToken : String) (sessionKey : Option String) :
    directory (db.committed (confirmEmailChange env now db rawToken sessionKey)) =
      renamed ((Call.lifecycle (.confirmEmailChange rawToken sessionKey)).names? env validators now
        db) (directory db) := by
  have h := rewrites_confirmEmailChange env now db rawToken sessionKey
  rw [Call.names?]
  cases hchange : emailChange? env now db rawToken with
  | none =>
      rw [hchange] at h
      exact directory_same h fun user => ⟨rfl, rfl⟩
  | some change =>
      obtain ⟨k, email⟩ := change
      obtain ⟨user, rfl, hrow⟩ := emailChange?_user hchange
      rw [hchange] at h
      rw [Option.bind_some]
      dsimp only
      rw [directory_eq_some hrow]
      exact directory_rewrites h hrow

theorem directory_confirmDeletion (rawToken suffix : String) (sessionKey : Option String) :
    directory (db.committed (confirmDeletion env now db rawToken suffix sessionKey)) =
      renamed ((Call.lifecycle (.confirmDeletion rawToken suffix sessionKey)).names? env validators
        now db) (directory db) := by
  have h := rewrites_confirmDeletion env now db rawToken suffix sessionKey
  rw [Call.names?]
  cases hdel : deletion? env now db rawToken with
  | none =>
      rw [hdel] at h
      funext k
      rw [directory, h.users k, if_neg (by simp)]
      rfl
  | some k =>
      obtain ⟨_, user, _, _, hrow⟩ := deletion?_eq_some hdel
      obtain rfl : user.pk = k := Table.pk_of_get? hrow
      rw [hdel] at h
      exact directory_rewrites h hrow

theorem directory_expireTemporaryBans :
    directory (db.committed (expireTemporaryBans env now db)) = directory db := by
  obtain ⟨db', hok, _, hget⟩ := expireTemporaryBans_ok env now db
  rw [hok]
  funext k
  show (db'.users.get? k).map namesOf = (db.users.get? k).map namesOf
  rw [hget k]
  exact map_namesOf swept_names _

theorem directory_lifecycle (call : Lifecycle.Call) :
    directory (db.committed (call.run env now db)) =
      renamed ((Call.lifecycle call).names? env validators now db) (directory db) := by
  cases call with
  | issue user purpose ttl metadata raw =>
      exact directory_same (rewrites_issue env now db user purpose ttl metadata raw id)
        fun _ => ⟨rfl, rfl⟩
  | verifyEmail rawToken =>
      refine directory_same (rewrites_verifyEmail env now db rawToken) fun user => ?_
      unfold verified
      split <;> exact ⟨rfl, rfl⟩
  | resetPassword rawToken newPassword salt sessionKey =>
      exact directory_same (rewrites_resetPassword env now db rawToken newPassword salt sessionKey)
        fun _ => ⟨rfl, rfl⟩
  | confirmEmailChange rawToken sessionKey => exact directory_confirmEmailChange rawToken sessionKey
  | confirmDeletion rawToken suffix sessionKey =>
      exact directory_confirmDeletion rawToken suffix sessionKey
  | ban pk user reason actor startsAt expiresAt sessionKey =>
      obtain ⟨bans, _, _, h⟩ :=
        rewrites_ban env now db pk user reason actor startsAt expiresAt sessionKey
      have hsame := directory_same h fun _ => ⟨rfl, rfl⟩
      exact hsame
  | revoke pk actor =>
      rcases rewrites_revoke now db pk actor with ⟨hsame, _⟩ | ⟨_, _, _, _, _, h⟩
      · show directory (db.committed (BanService.revoke now db pk actor)) = directory db
        rw [hsame]
      · have hsame := directory_same h fun _ => ⟨rfl, rfl⟩
        exact hsame
  | expireTemporaryBans => exact directory_expireTemporaryBans

theorem directory_registerUser
    {pk : UUID} {email username password salt firstName lastName raw : String} :
    directory (db.committed (registerUser env validators now db pk email username password salt
        firstName lastName raw)) =
      renamed ((Call.register pk email username password salt firstName lastName raw).names? env
        validators now db) (directory db) := by
  rw [Call.names?]
  cases hresult : registerUser env validators now db pk email username password salt firstName
      lastName raw with
  | error e => rfl
  | ok db' =>
      obtain ⟨user, hinsert, rfl, hemail, husername, _, _⟩ := registerUser_eq_ok hresult
      rw [← hemail, ← husername]
      funext k
      show (db'.users.get? k).map namesOf =
        Function.update (directory db) user.pk (some (namesOf user)) k
      rw [Table.get?_insert? hinsert k, show Keyed.pk user = user.pk from rfl]
      by_cases hk : user.pk = k
      · subst hk
        rw [Function.update_self, if_pos rfl, Option.map_some]
      · rw [Function.update_of_ne (Ne.symm hk), if_neg hk, directory]

theorem directory_changeUsername {user : UUID} {username : String} :
    directory (db.committed (AccountService.changeUsername env validators now db user username)) =
      renamed ((Call.changeUsername user username).names? env validators now db)
        (directory db) := by
  rw [Call.names?]
  cases hresult : AccountService.changeUsername env validators now db user username with
  | error e => rfl
  | ok db' =>
      obtain ⟨locked, rfl, hrow, h, _⟩ := changeUsername_eq_ok hresult
      rw [directory_eq_some hrow]
      exact directory_rewrites h hrow

variable {s s' : State} {e : Int × Call}

theorem directory_step (hs : step env validators s e = some s') :
    directory s'.db = renamed (e.2.names? env validators e.1 s.db) (directory s.db) := by
  obtain ⟨now, call⟩ := e
  unfold step at hs
  split at hs
  · cases hs
    cases call with
    | register pk email username password salt firstName lastName raw =>
        exact directory_registerUser
    | changeUsername user username => exact directory_changeUsername
    | lifecycle call => exact directory_lifecycle call
  · cases hs

/-! ### Deletions

With a good token a deletion raises only where the constraint refuses the pseudonym.  So
deletability is a statement about names.
-/

/-- No account is kept from being deleted: every usable token deletes its user's, and no other
account is called what that asks for. -/
structure Deletable (env : Environment) (db : Database) : Prop where
  unheld : Unheld env (directory db)
  commits : ∀ now rawToken suffix sessionKey token user,
    usable? env now db rawToken .accountDeletion = some token →
    db.users.get? token.user = some user →
    ∃ db', confirmDeletion env now db rawToken suffix sessionKey = .ok db'

theorem not_taken (h : Unheld env (directory db)) {user : User}
    (hrow : db.users.get? user.pk = some user) :
    ¬(emailTaken env db user.pk (pseudonymAddress user.pk) ∨
      usernameTaken env db user.pk (pseudonym user.pk)) := by
  have hfree : ∀ other ∈ db.users, other.pk ≠ user.pk →
      ¬Holds env (namesOf other) user.pk := by
    intro other hother hne
    refine h other.pk user.pk (namesOf other) ?_ ?_ hne
    · exact directory_eq_some (Table.get?_of_mem hother)
    · exact isSome_directory hrow
  rintro (htaken | htaken)
  · obtain ⟨other, hother, hheld⟩ := List.any_eq_true.mp htaken
    obtain ⟨hne, heq⟩ := of_decide_eq_true hheld
    exact hfree other hother hne (Or.inl heq)
  · obtain ⟨other, hother, hheld⟩ := List.any_eq_true.mp htaken
    obtain ⟨hne, heq⟩ := of_decide_eq_true hheld
    exact hfree other hother hne (Or.inr heq)

theorem deletable_iff : Deletable env db ↔ Unheld env (directory db) := by
  constructor
  · intro h
    exact h.unheld
  · intro h
    refine ⟨h, fun now rawToken suffix sessionKey token user htoken hrow => ?_⟩
    rcases confirmDeletion_cases env now db rawToken suffix sessionKey with
      ⟨hnone, _⟩ | ⟨db', _, hok, _⟩
    · have hown : db.users.get? user.pk = some user :=
        Table.get?_of_mem (Table.mem_of_get? hrow)
      rw [deletion?, bearer?_of_usable htoken hrow, Option.bind_some,
        if_neg (not_taken h hown)] at hnone
      cases hnone
    · exact ⟨db', hok⟩

/-! ### Runs

A deletion gives its account the pseudonym of its own id, which is no other account's.  Every
other call gives a name somebody chose, and that is where the condition is.
-/

/-- A confirmed deletion. -/
def Call.deletes : Call → Bool
  | .lifecycle (.confirmDeletion _ _ _) => true
  | _ => false

/-- A call of users' own choice of names gives an account one that the deletion of another
asks for, or opens an account that is to be called, once deleted, as another already is. -/
def TakesPseudonym (env : Environment) (validators : Validators) (s : State) (e : Int × Call) :
    Prop :=
  e.2.deletes = false ∧ ∃ named ∈ e.2.names? env validators e.1 s.db, ∃ user ∈ s.db.users.rows,
    user.pk ≠ named.1 ∧ (Holds env named.2 user.pk ∨ Holds env (namesOf user) named.1)

instance (s : State) (e : Int × Call) : Decidable (TakesPseudonym env validators s e) :=
  inferInstanceAs (Decidable (_ ∧ ∃ named ∈ e.2.names? env validators e.1 s.db, _))

/-- An id that is registered has 128 bits. -/
def Call.Fits : Call → Prop
  | .register pk _ _ _ _ _ _ _ => pk < 2 ^ 128
  | _ => True

def Fit (d : UUID → Option Names) : Prop := ∀ k, (d k).isSome → k < 2 ^ 128

/-- A call names an account that is there, or one it registers. -/
theorem fits_of_names? {call : Call} {i : UUID} {names : Names}
    (h : call.names? env validators now db = some (i, names)) (hfits : call.Fits)
    (hfit : Fit (directory db)) : i < 2 ^ 128 := by
  cases call with
  | register pk email username password salt firstName lastName raw =>
      rw [Call.names?] at h
      split at h
      · cases h
        exact hfits
      · cases h
  | changeUsername user username =>
      rw [Call.names?] at h
      split at h
      · obtain ⟨old, hold, heq⟩ := Option.map_eq_some_iff.mp h
        cases heq
        exact hfit i (Option.isSome_of_eq_some hold)
      · cases h
  | lifecycle call =>
      cases call with
      | confirmEmailChange rawToken sessionKey =>
          rw [Call.names?, Option.bind_eq_some_iff] at h
          obtain ⟨⟨user, email⟩, _, h⟩ := h
          obtain ⟨old, hold, heq⟩ := Option.map_eq_some_iff.mp h
          cases heq
          exact hfit i (Option.isSome_of_eq_some hold)
      | confirmDeletion rawToken suffix sessionKey =>
          rw [Call.names?, Option.map_eq_some_iff] at h
          obtain ⟨user, hdel, heq⟩ := h
          cases heq
          obtain ⟨_, row, _, _, hrow⟩ := deletion?_eq_some hdel
          obtain rfl : row.pk = i := Table.pk_of_get? hrow
          exact hfit row.pk (isSome_directory hrow)
      | _ => cases h

theorem Fit.step (hfit : Fit (directory s.db)) (hfits : e.2.Fits)
    (hs : Accounts.step env validators s e = some s') : Fit (directory s'.db) := by
  rw [directory_step hs]
  cases hnamed : e.2.names? env validators e.1 s.db with
  | none => exact hfit
  | some named =>
      obtain ⟨i, names⟩ := named
      intro k hk
      by_cases hki : k = i
      · rw [hki]
        exact fits_of_names? hnamed hfits hfit
      · refine hfit k ?_
        have hsame : renamed (some (i, names)) (directory s.db) k = directory s.db k :=
          Function.update_of_ne hki _ _
        rw [← hsame]
        exact hk

theorem names?_of_deletes {call : Call} {i : UUID} {names : Names}
    (h : call.names? env validators now db = some (i, names)) (hdel : call.deletes = true) :
    names = ⟨pseudonymAddress i, pseudonym i⟩ ∧ (directory db i).isSome := by
  unfold Call.deletes at hdel
  split at hdel
  · rw [Call.names?, Option.map_eq_some_iff] at h
    obtain ⟨user, hdeletion, heq⟩ := h
    cases heq
    obtain ⟨_, row, _, _, hrow⟩ := deletion?_eq_some hdeletion
    obtain rfl : row.pk = i := Table.pk_of_get? hrow
    exact ⟨rfl, isSome_directory hrow⟩
  · cases hdel

section Deletions

variable (hlower : ∀ s : String, (∀ c ∈ s.toList, Unicode.Plain c) → env.lowered s = s)

include hlower

/-- **One step.**  A deletion leaves every pseudonym unheld; another call does exactly where it
takes none. -/
theorem deletable_step_iff (hfit : Fit (directory s.db)) (hunheld : Unheld env (directory s.db))
    (hs : step env validators s e = some s') :
    Deletable env s'.db ↔ ¬TakesPseudonym env validators s e := by
  rw [deletable_iff, directory_step hs]
  cases hnamed : e.2.names? env validators e.1 s.db with
  | none =>
      constructor
      · rintro - ⟨-, named, hmem, -⟩
        rw [hnamed] at hmem
        cases hmem
      · intro _
        exact hunheld
  | some named =>
      obtain ⟨i, names⟩ := named
      refine (unheld_update_iff hunheld i names).trans ?_
      constructor
      · rintro hfree ⟨-, named, hmem, user, huser, hne, hheld⟩
        rw [hnamed, Option.mem_some] at hmem
        subst hmem
        have hrow := directory_eq_some (Table.get?_of_mem huser)
        obtain ⟨hnew, hold⟩ := hfree user.pk (namesOf user) hrow hne
        exact hheld.elim hnew hold
      · intro htakes j other hother hne
        by_cases hdel : e.2.deletes = true
        · obtain ⟨rfl, hi⟩ := names?_of_deletes hnamed hdel
          have hj : (directory s.db j).isSome := Option.isSome_of_eq_some hother
          exact ⟨not_holds_pseudonym hlower (hfit i hi) (hfit j hj) (Ne.symm hne),
            hunheld j i other hother hi hne⟩
        · obtain ⟨user, hrow, rfl⟩ := Option.map_eq_some_iff.mp hother
          obtain rfl : user.pk = j := Table.pk_of_get? hrow
          have hfree : ¬(Holds env names user.pk ∨ Holds env (namesOf user) i) := fun hheld =>
            htakes ⟨eq_false_of_ne_true hdel, (i, names), hnamed, user, Table.mem_of_get? hrow,
              hne, hheld⟩
          exact not_or.mp hfree

/-- **No confirmed deletion is blocked**, in any state of a run, exactly where no registration,
renaming or change of address takes an account's pseudonym for another. -/
theorem deletable_iff_pseudonyms_left (es : List (Int × Call)) (hfits : ∀ e ∈ es, e.2.Fits) :
    Run.Always (step env validators) (fun s => Deletable env s.db) {} es ↔
      Run.Steps (step env validators) (fun s e _ => ¬TakesPseudonym env validators s e) {} es := by
  have hinit : Fit (directory ({} : State).db) ∧ Deletable env ({} : State).db := by
    constructor
    · exact fun k hk => absurd hk Bool.false_ne_true
    · exact deletable_iff.mpr fun j k names hnames => by cases hnames
  have hiff : ∀ s e s', e.2.Fits → Fit (directory s.db) ∧ Deletable env s.db →
      step env validators s e = some s' →
      (Deletable env s'.db ↔ ¬TakesPseudonym env validators s e) :=
    fun s e s' _ hs hstep => deletable_step_iff hlower hs.1 hs.2.unheld hstep
  have hkeep : ∀ s e s', e.2.Fits → Fit (directory s.db) ∧ Deletable env s.db →
      step env validators s e = some s' → Deletable env s'.db →
      Fit (directory s'.db) ∧ Deletable env s'.db :=
    fun s e s' he hs hstep hdel => ⟨hs.1.step he hstep, hdel⟩
  refine (and_iff_right hinit.2).trans ?_
  exact Run.steps_iff_of_labels (L := fun e => e.2.Fits) hiff hkeep hfits hinit

end Deletions

/-- Ada asks for the deletion of her account. -/
def requestDeletion : Int × Call := (3, .lifecycle (.issue 1 .accountDeletion 3600 [] "d"))

/-- Two accounts, and the deletion of the first. -/
def departure : List (Int × Call) :=
  [registerAda, registerBob, requestDeletion, (4, .lifecycle (.confirmDeletion "d" "x" none))]

theorem deletable_iff_pseudonyms_left_departure :
    Run.Always (step .plain .plain) (fun s => Deletable .plain s.db) {} departure := by
  have hfits : ∀ e ∈ departure, e.2.Fits := by
    intro e he
    simp only [departure, List.mem_cons, List.not_mem_nil, or_false] at he
    rcases he with rfl | rfl | rfl | rfl
    · show (1 : Nat) < 2 ^ 128
      decide
    · show (2 : Nat) < 2 ^ 128
      decide
    · trivial
    · trivial
  exact (deletable_iff_pseudonyms_left (fun _ _ => rfl) departure hfits).mpr (by decide +kernel)

/-- Bob registers under the name ada's account is to have once it is deleted. -/
def registerAsDeleted : Int × Call :=
  (2, .register 2 "bob@example.org" (pseudonym 1) "hunter2" "salt" "Bob" "" "t2")

/-- The raw token is good for the deletion of the account, which raises. -/
def Blocked (now : Int) (db : Database) (rawToken : String) (user : UUID) : Prop :=
  (usable? .plain now db rawToken .accountDeletion).map OneTimeToken.user = some user ∧
    (db.users.get? user).isSome ∧
    ∀ suffix sessionKey, ∃ e,
      confirmDeletion .plain now db rawToken suffix sessionKey = .error e

/-- A deletion is blocked by whoever takes the pseudonym first. -/
theorem deletion_blocked_by_username :
    ∃ s, Run.exec (step .plain .plain) {} [registerAda, registerAsDeleted, requestDeletion] =
        some s ∧ Blocked 4 s.db "d" 1 := by
  have h : (Run.exec (step .plain .plain) {}
      [registerAda, registerAsDeleted, requestDeletion]).any (fun s =>
        ((usable? .plain 4 s.db "d" .accountDeletion).map OneTimeToken.user = some 1 ∧
          (s.db.users.get? 1).isSome ∧ deletion? .plain 4 s.db "d" = none : Bool)) = true := by
    decide +kernel
  obtain ⟨s, hs, hclash⟩ := (Option.any_eq_true _ _).mp h
  obtain ⟨htoken, huser, hnone⟩ := of_decide_eq_true hclash
  refine ⟨s, hs, htoken, huser, fun suffix sessionKey => ?_⟩
  rcases confirmDeletion_cases .plain 4 s.db "d" suffix sessionKey with
    ⟨_, herr⟩ | ⟨_, hsome, _, _⟩
  · exact herr
  · exact absurd hnone hsome

end Accounts

end DjangoFoundation
