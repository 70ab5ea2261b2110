/-
Keys authenticate the string they were issued with, and nothing else.  What is no key may also
raise, where the database does not take what the parser has cut out of it.

The parser of `authenticate` cuts at the first underscore and the first dot; a prefix has
neither, so whatever characters follow it the row it finds is the one `create` wrote with that
prefix.  The hash of a row is of the string its `create` returned, which no call changes.
-/
import Mathlib.Data.Bool.AllAny
import DjangoFoundation.Lib.Run
import DjangoFoundation.Proofs.ApiKeys.Rehash

namespace DjangoFoundation

namespace IssuedKeys

open APIKeyService APIKeys

variable {env : Environment} {now : Int} {s : State}

/-! ### Runs -/

inductive Call
  | create (owner actor : UUID) (client : Client) (fields : KeyFields) (pk : UUID)
      (keyPrefix : KeyPrefix) (secret : String)
  | revoke (pk actor : UUID) (client : Client)
  | authenticate (raw : String) (ipAddress : Option String)
  /-- Anything that happens to the other tables. -/
  | elsewhere (db : Database)

structure State where
  db : Database
  /-- The keys made so far, each with the string `create` returned. -/
  issued : List (UUID × String) := []

/-- A call that raises leaves nothing behind. -/
def State.run (env : Environment) (now : Int) (s : State) : Call → State
  | .create owner actor client fields pk keyPrefix secret =>
      match APIKeyService.create env now s.db owner actor client fields pk keyPrefix secret with
      | .error _ => s
      | .ok (key, raw, db) => { db := db, issued := s.issued ++ [(key.pk, raw)] }
  | .revoke pk actor client =>
      { s with db := s.db.committed (APIKeyService.revoke now s.db pk actor client) }
  | .authenticate raw ipAddress =>
      { s with db := (APIKeyService.authenticate env now s.db raw ipAddress).2 }
  | .elsewhere db => { s with db := { db with apiKeys := s.db.apiKeys } }

def step (env : Environment) (s : State) (e : Int × Call) : Option State :=
  some (s.run env e.1 e.2)

/-! ### What a key keeps

The invariant keeps, for each row, the string it was returned with.  A call that rewrites rows
rewrites nothing of what that depends on: not the prefix, and not the hash.
-/

/-- `raw` is what `create` returned for the key, and nothing else is. -/
def Returned (s : State) (key : APIKey) (raw : String) : Prop :=
  ∀ other, (key.pk, other) ∈ s.issued ↔ other = raw

structure Inv (env : Environment) (s : State) : Prop where
  /-- Two keys have two ids. -/
  eq_of_pk : ∀ key ∈ s.db.apiKeys, ∀ other ∈ s.db.apiKeys, key.pk = other.pk → key = other
  /-- What was issued is there. -/
  kept : ∀ p ∈ s.issued, ∃ key ∈ s.db.apiKeys, key.pk = p.1
  /-- A row has the prefix and the hash of what was returned for it. -/
  returned : ∀ key ∈ s.db.apiKeys, ∃ (keyPrefix : KeyPrefix) (secret : String),
    key.keyPrefix = keyPrefix.value ∧ key.keyHash = hash env (rawKey keyPrefix secret) ∧
      Returned s key (rawKey keyPrefix secret)

theorem inv_start {db : Database} (h : db.apiKeys = ∅) : Inv env { db := db } := by
  refine ⟨?_, ?_, ?_⟩
  · intro key hkey
    rw [h] at hkey
    exact absurd hkey (Table.not_mem_empty key)
  · intro p hp
    exact absurd hp List.not_mem_nil
  · intro key hkey
    rw [h] at hkey
    exact absurd hkey (Table.not_mem_empty key)

/-- Rows rewritten in nothing a key is known by. -/
theorem Inv.modify {db : Database} (h : Inv env s) {keyPrefix : String} {f : APIKey → APIKey}
    (hf : ∀ key, Keyed.pk (f key) = Keyed.pk key) (hpk : ∀ key, (f key).pk = key.pk)
    (hhash : ∀ key, (f key).keyHash = key.keyHash)
    (hdb : db.apiKeys = s.db.apiKeys.modify keyPrefix f hf) : Inv env { s with db := db } := by
  have hold : ∀ key' ∈ db.apiKeys, ∃ key ∈ s.db.apiKeys, key'.pk = key.pk ∧
      key'.keyPrefix = key.keyPrefix ∧ key'.keyHash = key.keyHash := by
    intro key' hkey'
    rw [hdb] at hkey'
    rcases Table.mem_modify.mp hkey' with ⟨key, hkey, _, rfl⟩ | ⟨hkey, _⟩
    · exact ⟨key, hkey, hpk key, hf key, hhash key⟩
    · exact ⟨key', hkey, rfl, rfl, rfl⟩
  refine ⟨?_, ?_, ?_⟩
  · intro key' hkey' other' hother' hsame
    obtain ⟨key, hkey, hpk₁, hname₁, _⟩ := hold key' hkey'
    obtain ⟨other, hother, hpk₂, hname₂, _⟩ := hold other' hother'
    have heq : key = other := h.eq_of_pk key hkey other hother (hpk₁ ▸ hpk₂ ▸ hsame)
    exact Table.eq_of_pk_eq hkey' hother' (hname₁.trans (heq ▸ hname₂.symm))
  · intro p hp
    obtain ⟨key, hkey, hkept⟩ := h.kept p hp
    show ∃ key' ∈ db.apiKeys, _
    rw [hdb]
    by_cases htaken : Keyed.pk key = keyPrefix
    · exact ⟨f key, Table.mem_modify.mpr (Or.inl ⟨key, hkey, htaken, rfl⟩),
        (hpk key).trans hkept⟩
    · exact ⟨key, Table.mem_modify.mpr (Or.inr ⟨hkey, htaken⟩), hkept⟩
  · intro key' hkey'
    obtain ⟨key, hkey, hpk', hname, hhash'⟩ := hold key' hkey'
    obtain ⟨keyPrefix, secret, hname₀, hhash₀, hreturned⟩ := h.returned key hkey
    refine ⟨keyPrefix, secret, hname.trans hname₀, hhash'.trans hhash₀, ?_⟩
    intro other
    rw [hpk']
    exact hreturned other

theorem inv_create (h : Inv env s) (owner actor : UUID) (client : Client) (fields : KeyFields)
    (pk : UUID) (keyPrefix : KeyPrefix) (secret : String) :
    Inv env (s.run env now (.create owner actor client fields pk keyPrefix secret)) := by
  unfold State.run
  dsimp only
  split
  · exact h
  · rename_i key raw db hcreate
    unfold APIKeyService.create at hcreate
    dsimp only at hcreate
    split at hcreate
    · cases hcreate
    · rename_i db₁ hinsert
      cases hcreate
      unfold APIKeyService.insert? at hinsert
      split at hinsert
      · cases hinsert
      · rename_i hfree
        obtain ⟨apiKeys, hrow, rfl⟩ := Option.map_eq_some_iff.mp hinsert
        have hnew : ∀ other ∈ s.db.apiKeys, other.pk ≠ pk := by
          intro other hother hpk
          refine hfree (List.find?_isSome.mpr ⟨other, hother, ?_⟩)
          exact decide_eq_true hpk
        refine ⟨?_, ?_, ?_⟩
        · intro a ha b hb hab
          rcases (Table.mem_insert? hrow).mp ha with ha | rfl
          · rcases (Table.mem_insert? hrow).mp hb with hb | rfl
            · exact h.eq_of_pk a ha b hb hab
            · exact absurd hab (hnew a ha)
          · rcases (Table.mem_insert? hrow).mp hb with hb | rfl
            · exact absurd hab.symm (hnew b hb)
            · rfl
        · intro p hp
          rcases List.mem_append.mp hp with hp | hp
          · obtain ⟨key, hkey, hpk⟩ := h.kept p hp
            exact ⟨key, (Table.mem_insert? hrow).mpr (Or.inl hkey), hpk⟩
          · obtain rfl := List.mem_singleton.mp hp
            exact ⟨_, (Table.mem_insert? hrow).mpr (Or.inr rfl), rfl⟩
        · intro key hkey
          rcases (Table.mem_insert? hrow).mp hkey with hkey | rfl
          · obtain ⟨keyPrefix₀, secret₀, hname, hhash, hreturned⟩ := h.returned key hkey
            refine ⟨keyPrefix₀, secret₀, hname, hhash, ?_⟩
            intro other
            rw [← hreturned other, List.mem_append, List.mem_singleton, or_iff_left]
            exact fun heq => hnew key hkey (congrArg Prod.fst heq)
          · refine ⟨keyPrefix, secret, rfl, rfl, ?_⟩
            intro other
            rw [List.mem_append, List.mem_singleton, or_iff_right]
            · exact ⟨fun heq => congrArg Prod.snd heq, fun heq => congrArg (Prod.mk pk) heq⟩
            · intro hissued
              obtain ⟨key, hkey, hpk⟩ := h.kept _ hissued
              exact hnew key hkey hpk

theorem inv_revoke (h : Inv env s) (pk actor : UUID) (client : Client) :
    Inv env (s.run env now (.revoke pk actor client)) := by
  unfold State.run
  dsimp only
  unfold APIKeyService.revoke
  split
  · exact h
  · split
    · exact h
    · exact h.modify (fun key => revoked_key_pk key now) (fun _ => rfl) (fun _ => rfl) rfl

/-! ### Authentication

The string is cut in two before anything is looked up, and only its prefix goes into the query.
Where the database refuses that, the call raises before it has read a row.  Otherwise one row
at most has the prefix, and its hash decides.
-/

/-- What a key needs beside the right string. -/
def Usable (db : Database) (now : Int) (key : APIKey) (owner : User) : Prop :=
  key.revokedAt = none ∧ (∀ t, key.expiresAt = some t → t > now) ∧
    db.users.get? key.owner = some owner ∧ canAuthenticateNow db.bans now owner = true

theorem isActive_iff {key : APIKey} :
    key.isActive now = true ↔ key.revokedAt = none ∧ ∀ t, key.expiresAt = some t → t > now := by
  rw [APIKey.isActive, Bool.and_eq_true, decide_eq_true_eq, Option.all_eq_true]
  simp only [decide_eq_true_eq]

theorem admitted?_eq_some {db : Database} {raw keyPrefix : String} {key : APIKey} {owner : User} :
    admitted? env now db raw keyPrefix = some (key, owner) ↔
      key.keyPrefix = keyPrefix ∧ key ∈ db.apiKeys ∧ key.keyHash = hash env raw ∧
        Usable db now key owner := by
  unfold admitted? Usable
  rw [← and_assoc (a := key.revokedAt = none), ← isActive_iff]
  constructor
  · intro h
    obtain ⟨found, hfound, h⟩ := Option.bind_eq_some_iff.mp h
    obtain ⟨user, huser, h⟩ := Option.bind_eq_some_iff.mp h
    split at h
    · cases h
    · rename_i hpass
      simp only [Bool.or_eq_true, Bool.not_eq_true', decide_eq_true_eq, not_or,
        Bool.not_eq_false, not_not] at hpass
      cases h
      exact ⟨Table.pk_of_get? hfound, Table.mem_of_get? hfound, hpass.2,
        ⟨hpass.1.1, huser, hpass.1.2⟩⟩
  · rintro ⟨rfl, hmem, hhash, ⟨hactive, huser, hcan⟩⟩
    have hfound : db.apiKeys.get? key.keyPrefix = some key := Table.get?_of_mem hmem
    simp [hfound, huser, hactive, hcan, hhash]

/-- The prefix a string is cut to, if it is of the form of a key, is text the database takes. -/
def Takes (env : Environment) (raw : String) : Prop :=
  ∀ keyPrefix, keyPrefix? raw = some keyPrefix → env.stores keyPrefix = true

/-- What authentication comes to: a key of the store is found, nobody is, or it raises. -/
inductive Outcome (env : Environment) (now : Int) (db : Database) (raw : String)
    (ipAddress : Option String) : Except Exception (Option (APIKey × User)) × Database → Prop
  | found {key owner} (hname : keyPrefix? raw = some key.keyPrefix) (hmem : key ∈ db.apiKeys)
      (hhash : key.keyHash = hash env raw) (husable : Usable db now key owner)
      (htakes : Takes env raw) :
      Outcome env now db raw ipAddress (.ok (some (key, owner)), noteUse now db key ipAddress)
  | nobody (hnone : ∀ key ∈ db.apiKeys, ∀ owner, keyPrefix? raw = some key.keyPrefix →
        key.keyHash = hash env raw → ¬Usable db now key owner) (htakes : Takes env raw) :
      Outcome env now db raw ipAddress (.ok none, db)
  | raised (hrefused : ¬Takes env raw) :
      Outcome env now db raw ipAddress (.error .dataError, db)

theorem outcome_authenticate (env : Environment) (now : Int) (db : Database) (raw : String)
    (ipAddress : Option String) :
    Outcome env now db raw ipAddress (APIKeyService.authenticate env now db raw ipAddress) := by
  unfold APIKeyService.authenticate
  cases hname : keyPrefix? raw with
  | none =>
      refine .nobody (fun key _ _ h => ?_) (fun keyPrefix h => ?_)
      · rw [hname] at h
        cases h
      · rw [hname] at h
        cases h
  | some keyPrefix =>
      by_cases hstores : env.stores keyPrefix = true
      · have htakes : Takes env raw := by
          intro other hother
          rw [hname, Option.some.injEq] at hother
          exact hother ▸ hstores
        simp only [hstores, Bool.not_true, Bool.false_eq_true, if_false]
        cases hadmitted : admitted? env now db raw keyPrefix with
        | none =>
            refine .nobody (fun key hmem owner h hhash husable => ?_) htakes
            rw [hname, Option.some.injEq] at h
            rw [admitted?_eq_some.mpr ⟨h.symm, hmem, hhash, husable⟩] at hadmitted
            cases hadmitted
        | some found =>
            obtain ⟨hkey, hmem, hhash, husable⟩ := admitted?_eq_some.mp hadmitted
            exact .found (hkey ▸ hname) hmem hhash husable htakes
      · simp only [hstores, Bool.not_false, if_true]
        exact .raised fun htakes => hstores (htakes keyPrefix hname)

theorem inv_authenticate (h : Inv env s) (raw : String) (ipAddress : Option String) :
    Inv env (s.run env now (.authenticate raw ipAddress)) := by
  unfold State.run
  dsimp only
  have houtcome := outcome_authenticate env now s.db raw ipAddress
  generalize APIKeyService.authenticate env now s.db raw ipAddress = result at houtcome ⊢
  cases houtcome with
  | found =>
      exact h.modify (fun key => used_key_pk key now ipAddress) (fun _ => rfl) (fun _ => rfl) rfl
  | nobody => exact h
  | raised => exact h

theorem inv_run (h : Inv env s) (call : Call) : Inv env (s.run env now call) := by
  cases call with
  | create owner actor client fields pk keyPrefix secret =>
      exact inv_create h owner actor client fields pk keyPrefix secret
  | revoke pk actor client => exact inv_revoke h pk actor client
  | authenticate raw ipAddress => exact inv_authenticate h raw ipAddress
  | elsewhere db => exact ⟨h.eq_of_pk, h.kept, h.returned⟩

/-- A row is found and its hash agrees for the string returned for it alone. -/
theorem Inv.returned_iff (h : Inv env s) {key : APIKey} (hkey : key ∈ s.db.apiKeys)
    (raw : String) :
    Returned s key raw ↔ keyPrefix? raw = some key.keyPrefix ∧ key.keyHash = hash env raw := by
  obtain ⟨keyPrefix, secret, hname, hhash, hreturned⟩ := h.returned key hkey
  constructor
  · intro hraw
    obtain rfl : raw = rawKey keyPrefix secret := (hreturned raw).mp ((hraw raw).mpr rfl)
    exact ⟨hname ▸ keyPrefix?_rawKey keyPrefix secret, hhash⟩
  · rintro ⟨-, hsame⟩
    rw [hhash] at hsame
    exact env.keyring.keyedHash_injective _ hsame ▸ hreturned

/-- A string opens the key it was returned for, and nothing else, while that is usable; it raises
nothing, and where it opens nothing no row is changed. -/
structure OpensIssued (env : Environment) (s : State) (now : Int) (raw : String)
    (ipAddress : Option String) : Prop where
  opens : ∀ key, (∃ owner, (APIKeyService.authenticate env now s.db raw ipAddress).1 =
      .ok (some (key, owner))) ↔
    key ∈ s.db.apiKeys ∧ Returned s key raw ∧ ∃ owner, Usable s.db now key owner
  returns : ∃ found, (APIKeyService.authenticate env now s.db raw ipAddress).1 = .ok found
  unchanged : (∀ key owner, (APIKeyService.authenticate env now s.db raw ipAddress).1 ≠
      .ok (some (key, owner))) →
    (APIKeyService.authenticate env now s.db raw ipAddress).2 = s.db

/-- **A key is what its own string opens**, while it is neither revoked nor expired and its
owner may authenticate, and any other string opens nothing and changes nothing: for exactly the
strings whose prefix the database takes as a parameter.  Of the others the query raises. -/
theorem authenticate_iff_returned {db : Database} (h : db.apiKeys = ∅)
    (hs : Run.Reachable (step env) { db := db } s) (now : Int) (raw : String)
    (ipAddress : Option String) :
    OpensIssued env s now raw ipAddress ↔ Takes env raw := by
  have hinv : Inv env s := by
    refine hs.inv (inv_start h) ?_
    intro s e s' hs hstep
    cases hstep
    exact inv_run hs e.2
  have houtcome := outcome_authenticate env now s.db raw ipAddress
  constructor
  · intro hopens htaken
    obtain ⟨found, hfound⟩ := hopens.returns
    generalize APIKeyService.authenticate env now s.db raw ipAddress = result at houtcome hfound
    cases houtcome with
    | found _ _ _ _ htakes => exact htakes htaken
    | nobody _ htakes => exact htakes htaken
    | raised => cases hfound
  · intro htakes
    constructor
    all_goals
      generalize APIKeyService.authenticate env now s.db raw ipAddress = result at houtcome ⊢
    · intro key
      cases houtcome with
      | @found key' owner hname hmem hhash husable _ =>
          constructor
          · rintro ⟨owner', heq⟩
            cases heq
            exact ⟨hmem, (hinv.returned_iff hmem raw).mpr ⟨hname, hhash⟩, owner, husable⟩
          · rintro ⟨hmem', hreturned, -⟩
            obtain ⟨hname', -⟩ := (hinv.returned_iff hmem' raw).mp hreturned
            have hsame : key.keyPrefix = key'.keyPrefix :=
              Option.some.inj (hname'.symm.trans hname)
            rw [Table.eq_of_pk_eq hmem' hmem hsame]
            exact ⟨owner, rfl⟩
      | nobody hnone _ =>
          refine iff_of_false (fun ⟨_, heq⟩ => by cases heq) ?_
          rintro ⟨hmem, hreturned, owner, husable⟩
          obtain ⟨hname, hhash⟩ := (hinv.returned_iff hmem raw).mp hreturned
          exact hnone key hmem owner hname hhash husable
      | raised hrefused => exact absurd htakes hrefused
    · cases houtcome with
      | found => exact ⟨_, rfl⟩
      | nobody => exact ⟨_, rfl⟩
      | raised hrefused => exact absurd htakes hrefused
    · intro hnobody
      cases houtcome with
      | found => exact absurd rfl (hnobody _ _)
      | nobody => rfl
      | raised => rfl

/-- A key is made whose secret has an underscore and a dot, and another one is revoked. -/
def issuedTwice : List (Int × Call) :=
  [(0, .create 1 1 {} ⟨"ci", [], some 60⟩ 7
      ⟨"0123456789ab", rfl, List.all_iff_forall_prop.mp (by decide)⟩ "a_b.c"),
    (1, .create 1 1 {} ⟨"old", [], none⟩ 8
      ⟨"ba9876543210", rfl, List.all_iff_forall_prop.mp (by decide)⟩ "secret"),
    (2, .revoke 8 1 {})]

theorem authenticate_iff_returned_twice :
    ∃ s, Run.exec (step .plain) { db := { users := {ada} } } issuedTwice = some s ∧
      s.issued = [(7, "dk_0123456789ab.a_b.c"), (8, "dk_ba9876543210.secret")] ∧
      OpensIssued .plain s 59 "dk_0123456789ab.a_b.c" none ∧
      OpensIssued .plain s 59 "dk_ba9876543210.secret" none := by
  have htakes : ∀ raw ∈ ["dk_0123456789ab.a_b.c", "dk_ba9876543210.secret"],
      (keyPrefix? raw).all Environment.plain.stores = true := by decide
  have hall {raw : String} (h : (keyPrefix? raw).all Environment.plain.stores = true) :
      Takes .plain raw := fun keyPrefix hname => by simpa [hname] using h
  refine ⟨_, rfl, rfl, ?_, ?_⟩
  · exact (authenticate_iff_returned rfl ⟨issuedTwice, rfl⟩ 59 _ none).mpr
      (hall (htakes _ List.mem_cons_self))
  · exact (authenticate_iff_returned rfl ⟨issuedTwice, rfl⟩ 59 _ none).mpr
      (hall (htakes _ (List.mem_cons_of_mem _ List.mem_cons_self)))

/-- A NUL in the place of the prefix. -/
theorem authenticate_raises_nul :
    (APIKeyService.authenticate .plain 0 { users := {ada} } "dk_\x00.x" none).1 =
        .error .dataError ∧
      ¬OpensIssued .plain { db := { users := {ada} } } 0 "dk_\x00.x" none := by
  have hraised : (APIKeyService.authenticate .plain 0 { users := {ada} } "dk_\x00.x" none).1 =
      .error .dataError := by decide
  refine ⟨hraised, fun h => ?_⟩
  obtain ⟨found, hfound⟩ := h.returns
  rw [hraised] at hfound
  cases hfound

end IssuedKeys

end DjangoFoundation
