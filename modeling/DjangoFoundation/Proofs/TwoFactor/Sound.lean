/-
Recovery codes over whole runs.

A row of a code is consumed, replaced or marked by whoever holds its lock, and codes are added to
a credential by whoever holds the lock of that.  So the codes that stand are those of the last
set returned, and each is accepted once.  That they stand for an enabled credential alone is lost
in one place: `regenerate_codes` verifies on one credential and locks, without asking whether it
is confirmed, whichever one the user has by then.

The invariant needs nothing but the locks.  It is about two tables, so most of its lemmas come
in pairs, one for the credential and one for the codes, and `Frame` says for both at once that
a commit leaves alone what somebody else has locked.

`codes_of_pending_credential` is the run in which the last part is lost: a second `begin_setup`
deletes the credential it found after that one has been confirmed, and a `regenerate_codes`
that the old credential has let in then locks the new one.
-/
import DjangoFoundation.Proofs.TwoFactor.Moves

namespace DjangoFoundation

namespace TwoFactorRaces

open TwoFactorService

variable {env : Environment} {twoFactor : TwoFactor} {user : User} {now : Int} {s s' : State}
  {id : Nat} {work : Work} {credential : Option Credential} {codes : Table RecoveryCode}
  {consumed : Option Consumed} {returned : List (List String)}

/-! ### The invariant

It says which codes the table can hold and what the open transactions rest on, and that no two
hold one row.
-/

structure Inv (env : Environment) (s : State) : Prop where
  exclusive : Locks.Exclusive Txn.locked s.txns
  /-- Every code has its credential. -/
  referred : ∀ code ∈ s.codes, ∃ c, s.credential = some c ∧ c.pk = code.credential
  secret : ∀ c, s.credential = some c →
    ∃ secret, env.keyring.decryptValue "totp-secret" c.encryptedSecret = some secret
  holds : ∀ txn ∈ s.txns, txn.Holds env s
  drawn : ∀ set ∈ s.returned, ∀ code ∈ set, IsRecoveryCode code
  /-- Every row is of the last set returned. -/
  latest : ∀ row ∈ s.codes, ∃ code ∈ s.returned.headD [],
    row.codeHash = env.keyring.keyedHash "recovery-code" code
  /-- What was accepted stays used.. -/
  used : ∀ code ∈ s.accepted, (∃ set ∈ s.returned, code ∈ set) ∧
    ∀ row ∈ s.codes, row.codeHash = env.keyring.keyedHash "recovery-code" code → row.usedAt ≠ none
  /-- ..so it is accepted once. -/
  once : s.accepted.Nodup

theorem inv_init (env : Environment) (clock : Int) : Inv env { clock := clock } where
  exclusive := Locks.exclusive_empty
  referred code hcode := absurd hcode (Table.not_mem_empty code)
  secret c hc := by cases hc
  holds txn htxn := absurd htxn (Table.not_mem_empty txn)
  drawn set hset := absurd hset List.not_mem_nil
  latest row hrow := absurd hrow (Table.not_mem_empty row)
  used code hcode := absurd hcode List.not_mem_nil
  once := List.nodup_nil

/-! ### What a commit writes

The rows afterwards are those that were there, perhaps used, or ten new ones in the place of
all before.
-/

theorem codeRow_eq {row old : RecoveryCode} (h : Keyed.pk row = Keyed.pk old) :
    codeRow row = codeRow old :=
  congrArg Row.code h

theorem mem_marked {row : RecoveryCode} {rows : List Row} {markedAt : Int}
    (h : row ∈ marked rows markedAt codes) :
    ∃ old ∈ codes, Keyed.pk row = Keyed.pk old ∧ (old.usedAt ≠ none → row.usedAt ≠ none) ∧
      (codeRow row ∈ rows → row.usedAt ≠ none) := by
  obtain ⟨old, hold, rfl⟩ := Table.mem_update.mp h
  refine ⟨old, hold, ?_, ?_, ?_⟩
  · split <;> rfl
  · split
    · exact fun _ => Option.some_ne_none _
    · exact id
  · split
    · exact fun _ => Option.some_ne_none _
    · rename_i hout
      intro hin
      exact absurd (decide_eq_true hin) hout

theorem mem_spent {row : RecoveryCode} (h : row ∈ spent consumed codes) :
    ∃ old ∈ codes, Keyed.pk row = Keyed.pk old ∧ (old.usedAt ≠ none → row.usedAt ≠ none) ∧
      ∀ c ∈ consumed, c.key = Keyed.pk row → row.usedAt ≠ none := by
  cases consumed with
  | none => exact ⟨row, h, rfl, id, fun _ hc => by cases hc⟩
  | some c =>
      obtain ⟨old, hold, hkey, hused, hmarked⟩ := mem_marked h
      refine ⟨old, hold, hkey, hused, ?_⟩
      rintro _ ⟨⟩ hpk
      exact hmarked (List.mem_singleton.mpr (congrArg Row.code hpk.symm))

/-- A transaction about to replace the codes has deleted them all. -/
theorem dropped_replaced {cause : Cause} {pk : UUID} {deleted : List Row} (hinv : Inv env s)
    (hholds : (Work.replaced cause pk deleted).Holds env s.credential s.codes none) :
    (dropped deleted (spent cause.consumed s.codes)).rows = [] := by
  obtain ⟨⟨c, hc, hpk, _⟩, _, hcovers⟩ := hholds
  refine List.eq_nil_iff_forall_not_mem.mpr fun row hrow => ?_
  obtain ⟨hmem, hkept⟩ := Table.mem_delete.mp hrow
  obtain ⟨old, hold, hkey, _, _⟩ := mem_spent hmem
  obtain ⟨c', hc', hpk'⟩ := hinv.referred old hold
  rw [hc, Option.some.injEq] at hc'
  have hown : old.credential = pk := by rw [← hpk', ← hc', hpk]
  exact of_decide_eq_false hkept (codeRow_eq hkey ▸ hcovers old hold hown)

/-- All that is left after it is what it returns. -/
theorem rows_replaced {cause : Cause} {pk : UUID} {deleted : List Row} (hinv : Inv env s)
    (hholds : (Work.replaced cause pk deleted).Holds env s.credential s.codes none)
    (values : RecoveryCodes) :
    ∃ rows : Table RecoveryCode, insertCodes env twoFactor pk values
        (dropped deleted (spent cause.consumed s.codes)) = some rows ∧
      rows.rows = values.values.map (newCode env twoFactor pk) := by
  have hempty := dropped_replaced hinv hholds
  have hfree : ∀ row ∈ dropped deleted (spent cause.consumed s.codes), row.credential ≠ pk := by
    intro row hrow
    rw [← Table.mem_rows, hempty] at hrow
    cases hrow
  obtain ⟨rows, hrows, heq⟩ := exists_insertCodes env twoFactor values hfree
  rw [hempty, List.nil_append] at heq
  exact ⟨rows, hrows, heq⟩

/-- The rows after a commit are the rows before it, perhaps used, or the codes returned. -/
theorem Commits.rows (hinv : Inv env s) (hholds : work.Holds env s.credential s.codes none)
    (h : Commits env twoFactor s work credential codes consumed returned) :
    ∀ row ∈ codes,
      (returned = [] ∧ ∃ old ∈ s.codes, Keyed.pk row = Keyed.pk old ∧
        (old.usedAt ≠ none → row.usedAt ≠ none) ∧
        ∀ c ∈ consumed, c.key = Keyed.pk row → row.usedAt ≠ none) ∨
      ∃ cause pk deleted values, work = .replaced cause pk deleted ∧
        returned = [RecoveryCodes.values values] ∧ s.fresh values = true ∧
        ∃ code ∈ values.values, row = newCode env twoFactor pk code := by
  intro row hrow
  cases h with
  | creates hfree hfresh hsecret =>
      refine Or.inl ⟨rfl, row, (Table.mem_delete.mp hrow).1, rfl, id, fun _ hc => by cases hc⟩
  | @replaces cause pk deleted values rows hfresh hrows =>
      obtain ⟨rows', hrows', heq⟩ := @rows_replaced env twoFactor s cause pk deleted hinv hholds values
      rw [hrows, Option.some.injEq] at hrows'
      subst hrows'
      rw [← Table.mem_rows, heq] at hrow
      obtain ⟨code, hcode, rfl⟩ := List.mem_map.mp hrow
      exact Or.inr ⟨cause, pk, deleted, values, rfl, rfl, hfresh, code, hcode, rfl⟩
  | accepts =>
      obtain ⟨old, hold, hrest⟩ := mem_spent hrow
      exact Or.inl ⟨rfl, old, hold, hrest⟩
  | disables =>
      obtain ⟨mid, hmid, hkey, hused, _⟩ := mem_marked hrow
      obtain ⟨old, hold, hkey', hused', hconsumed⟩ := mem_spent hmid
      refine Or.inl ⟨rfl, old, hold, hkey.trans hkey', hused ∘ hused', fun c hc hpk => ?_⟩
      exact hused (hconsumed c hc (hpk.trans hkey))

/-- The code a commit accepts is there until then, unused. -/
theorem Commits.consumedStands (hholds : work.Holds env s.credential s.codes none)
    (h : Commits env twoFactor s work credential codes consumed returned) :
    ConsumedStands env s.codes consumed := by
  cases h with
  | creates => exact fun _ hc => by cases hc
  | replaces => exact hholds.2.1
  | accepts => exact hholds
  | disables => exact hholds.2.1

theorem Commits.drawn (h : Commits env twoFactor s work credential codes consumed returned) :
    ∀ set ∈ returned, ∀ code ∈ set, IsRecoveryCode code := by
  intro set hset code hcode
  cases h with
  | @replaces _ _ _ values =>
      rw [List.mem_singleton.mp hset] at hcode
      exact values.code code hcode
  | creates | accepts | disables => cases hset

theorem Commits.secret (hinv : Inv env s)
    (h : Commits env twoFactor s work credential codes consumed returned) :
    ∀ c, credential = some c →
      ∃ secret, env.keyring.decryptValue "totp-secret" c.encryptedSecret = some secret := by
  intro c hc
  cases h with
  | creates hfree hfresh hsecret =>
      cases hc
      exact ⟨_, hsecret⟩
  | @replaces cause pk deleted values rows hfresh hrows =>
      obtain ⟨old, hold, rfl⟩ := Option.map_eq_some_iff.mp hc
      have hsame : (cause.apply pk old).encryptedSecret = old.encryptedSecret := by
        cases cause with
        | confirmed =>
            simp only [Cause.apply]
            split <;> rfl
        | regenerated => rfl
      rw [hsame]
      exact hinv.secret old hold
  | accepts => exact hinv.secret c hc
  | disables =>
      obtain ⟨old, hold, rfl⟩ := Option.map_eq_some_iff.mp hc
      unfold disabledBy
      split <;> exact hinv.secret old hold

/-! ### What it leaves alone

A commit writes to rows its transaction has locked.  What the others rest on they have locked
themselves, so it outlives the commit.
-/

/-- Whatever was not locked is as it was: the credential, with its codes, and the codes. -/
structure Frame (locked : List Row) (s : State) (credential : Option Credential)
    (codes : Table RecoveryCode) : Prop where
  credential : ∀ c, s.credential = some c → .credential c.pk ∉ locked → credential = some c
  old : ∀ c, s.credential = some c → .credential c.pk ∉ locked → ∀ row ∈ codes,
    ∃ old ∈ s.codes, Keyed.pk row = Keyed.pk old ∧ (row.usedAt = none → old.usedAt = none)
  kept : ∀ key row, s.codes.get? key = some row → .code key ∉ locked → codes.get? key = some row

theorem get?_marked {rows : List Row} {markedAt : Int} {key : CodeKey} {row : RecoveryCode}
    (hget : codes.get? key = some row) (hout : .code key ∉ rows) :
    (marked rows markedAt codes).get? key = some row := by
  have hpk : codeRow row = .code key := congrArg Row.code (Table.pk_of_get? hget)
  unfold marked
  rw [Table.get?_update, hget, Option.map_some, if_neg]
  rw [hpk]
  simpa using hout

theorem get?_spent {key : CodeKey} {row : RecoveryCode} (hget : codes.get? key = some row)
    (hout : .code key ∉ consumedRows consumed) : (spent consumed codes).get? key = some row := by
  cases consumed with
  | none => exact hget
  | some c => exact get?_marked hget hout

theorem Commits.frame (hinv : Inv env s) (hholds : work.Holds env s.credential s.codes none)
    (h : Commits env twoFactor s work credential codes consumed returned) :
    Frame work.locked s credential codes := by
  have hrows := h.rows hinv hholds
  -- a transaction that changes the credential, or adds codes, has it locked
  have hlocked : ∀ {pk p c}, Stands s.credential pk p → s.credential = some c →
      .credential pk ∈ work.locked → .credential c.pk ∈ work.locked := by
    rintro pk p c ⟨c', hc', rfl, _⟩ hc hin
    rw [hc, Option.some.injEq] at hc'
    exact hc' ▸ hin
  refine ⟨?_, ?_, ?_⟩
  · intro c hc hout
    cases h with
    | creates hfree => exact absurd (hfree c hc) hout
    | replaces => exact absurd (hlocked hholds.1 hc List.mem_cons_self) hout
    | accepts => exact hc
    | disables => exact absurd (hlocked hholds.1 hc List.mem_cons_self) hout
  · intro c hc hout row hrow
    rcases hrows row hrow with ⟨_, old, hold, hkey, hused, _⟩ | ⟨cause, pk, deleted, _, rfl, _⟩
    · refine ⟨old, hold, hkey, fun hunused => ?_⟩
      by_contra hold'
      exact hused hold' hunused
    · exact absurd (hlocked hholds.1 hc List.mem_cons_self) hout
  · intro key row hget hout
    cases h with
    | creates =>
        have hpk : codeRow row = .code key := congrArg Row.code (Table.pk_of_get? hget)
        unfold dropped
        rw [Table.get?_delete, hget, Option.filter_some_pos]
        rw [hpk]
        simpa [Work.locked] using hout
    | @replaces cause pk deleted values rows hfresh hrows =>
        -- every code is one it has deleted
        obtain ⟨⟨c, hc, hpk, _⟩, _, hcovers⟩ := hholds
        obtain ⟨c', hc', hpk'⟩ := hinv.referred row (Table.mem_of_get? hget)
        rw [hc, Option.some.injEq] at hc'
        have hown : row.credential = pk := by rw [← hpk', ← hc', hpk]
        have hin := hcovers row (Table.mem_of_get? hget) hown
        have hcode : codeRow row = .code key := congrArg Row.code (Table.pk_of_get? hget)
        exact absurd (List.mem_cons_of_mem _ (List.mem_append_right _ (hcode ▸ hin))) hout
    | accepts => exact get?_spent hget hout
    | disables =>
        have hnot := fun hin => hout (List.mem_cons_of_mem _ hin)
        exact get?_marked (get?_spent hget fun hin => hnot (List.mem_append_left _ hin))
          fun hin => hnot (List.mem_append_right _ hin)

theorem ConsumedStands.frame {locked : List Row} (hframe : Frame locked s credential codes)
    (hout : ∀ row ∈ consumedRows consumed, row ∉ locked)
    (h : ConsumedStands env s.codes consumed) : ConsumedStands env codes consumed := by
  intro c hc
  obtain ⟨hhash, row, hget, hunused⟩ := h c hc
  refine ⟨hhash, row, hframe.kept c.key row hget (hout _ ?_), hunused⟩
  cases hc
  exact List.mem_cons_self

/-- What another transaction rests on, it has locked. -/
theorem Work.Holds.frame {locked : List Row} {found : Option (List Row)}
    (hframe : Frame locked s credential codes) (hout : ∀ row ∈ work.locked, row ∉ locked)
    (h : work.Holds env s.credential s.codes found) : work.Holds env credential codes found := by
  have hstands : ∀ {pk p}, .credential pk ∈ work.locked → Stands s.credential pk p →
      Stands credential pk p := by
    rintro pk p hin ⟨c, hc, rfl, hp⟩
    exact ⟨c, hframe.credential c hc (hout _ hin), rfl, hp⟩
  have hcovers : ∀ {pk p rows}, .credential pk ∈ work.locked → Stands s.credential pk p →
      Covers s.codes (fun code => code.credential = pk) rows →
      Covers codes (fun code => code.credential = pk) rows := by
    rintro pk p rows hin ⟨c, hc, rfl, _⟩ hcovers code hcode hpk
    obtain ⟨old, hold, hkey, _⟩ := hframe.old c hc (hout _ hin) code hcode
    rw [codeRow_eq hkey]
    exact hcovers old hold ((congrArg Prod.fst hkey).symm.trans hpk)
  have hmarks : ∀ {pk p consumed rows}, .credential pk ∈ work.locked →
      Stands s.credential pk p → Covers s.codes (Unmarked pk consumed) rows →
      Covers codes (Unmarked pk consumed) rows := by
    rintro pk p consumed rows hin ⟨c, hc, rfl, _⟩ hcovers code hcode ⟨hpk, hunused, hother⟩
    obtain ⟨old, hold, hkey, hunused'⟩ := hframe.old c hc (hout _ hin) code hcode
    rw [codeRow_eq hkey] at hother ⊢
    exact hcovers old hold ⟨(congrArg Prod.fst hkey).symm.trans hpk, hunused' hunused, hother⟩
  cases work with
  | verified caller consumed => exact h.frame hframe hout
  | replacing cause pk =>
      refine ⟨hstands List.mem_cons_self h.1,
        h.2.1.frame hframe fun row hrow => hout row (List.mem_cons_of_mem _ hrow), ?_⟩
      exact fun rows hrows => hcovers List.mem_cons_self h.1 (h.2.2 rows hrows)
  | replaced cause pk deleted =>
      refine ⟨hstands List.mem_cons_self h.1, h.2.1.frame hframe fun row hrow =>
        hout row (List.mem_cons_of_mem _ (List.mem_append_left _ hrow)), ?_⟩
      exact hcovers List.mem_cons_self h.1 h.2.2
  | disabling pk consumed disabledAt =>
      refine ⟨hstands List.mem_cons_self h.1,
        h.2.1.frame hframe fun row hrow => hout row (List.mem_cons_of_mem _ hrow), ?_⟩
      exact fun rows hrows => hmarks List.mem_cons_self h.1 (h.2.2 rows hrows)
  | disabled pk consumed disabledAt rows markedAt =>
      refine ⟨hstands List.mem_cons_self h.1, h.2.1.frame hframe fun row hrow =>
        hout row (List.mem_cons_of_mem _ (List.mem_append_left _ hrow)), ?_⟩
      exact hmarks List.mem_cons_self h.1 h.2.2
  | _ => exact trivial

theorem Work.Holds.begun {found : Option (List Row)}
    (h : work.Holds env s.credential s.codes found) :
    work.Holds env s.credential s.codes none := by
  cases work with
  | replacing => exact ⟨h.1, h.2.1, fun _ hnone => by cases hnone⟩
  | disabling => exact ⟨h.1, h.2.1, fun _ hnone => by cases hnone⟩
  | _ => exact h

/-! ### Steps

Going on and ending touch no row, and a commit keeps the invariant by the two parts above.
-/

theorem mem_goOn {found : Option (List Row)} {txn : Txn} : txn ∈ (s.goOn id work found).txns ↔
    (∃ old ∈ s.txns, old.id = id ∧ txn = { old with work := work, found := found }) ∨
      (txn ∈ s.txns ∧ txn.id ≠ id) :=
  @Table.mem_modify _ _ _ _ s.txns id (fun txn => { txn with work := work, found := found })
    (fun _ => rfl) txn

theorem Inv.goesOn {txn : Txn} {found : Option (List Row)} (hinv : Inv env s)
    (h : s.txn? id = some txn)
    (hlocks : ∀ row ∈ work.locked, row ∈ txn.locked ∨ s.free id row = true)
    (hholds : txn.Holds env s → work.Holds env s.credential s.codes found) :
    Inv env (s.goOn id work found) where
  exclusive := by
    refine hinv.exclusive.modify (fun _ => by rfl) fun a ha hk row hrow => ?_
    have hsame : a = txn := Table.eq_of_pk_eq ha (Table.mem_of_get? h)
      (hk.trans (Table.pk_of_get? h).symm)
    rw [hsame]
    exact hlocks row hrow
  referred := hinv.referred
  secret := hinv.secret
  holds other hother := by
    rcases mem_goOn.mp hother with ⟨old, _, _, rfl⟩ | ⟨hold, _⟩
    · exact hholds (hinv.holds txn (Table.mem_of_get? h))
    · exact hinv.holds other hold
  drawn := hinv.drawn
  latest := hinv.latest
  used := hinv.used
  once := hinv.once

theorem Inv.close (hinv : Inv env s) (id : Nat) : Inv env (s.close id) where
  exclusive := hinv.exclusive.erase id
  referred := hinv.referred
  secret := hinv.secret
  holds txn htxn := hinv.holds txn (Table.mem_erase.mp htxn).1
  drawn := hinv.drawn
  latest := hinv.latest
  used := hinv.used
  once := hinv.once

/-- A code consumed is of the last set, and was not accepted before. -/
theorem consumed_latest (hinv : Inv env s) (h : ConsumedStands env s.codes consumed) :
    ∀ c ∈ consumed, c.code ∈ s.returned.headD [] ∧ c.code ∉ s.accepted := by
  intro c hc
  obtain ⟨hhash, row, hget, hunused⟩ := h c hc
  have hrow : row ∈ s.codes := Table.mem_of_get? hget
  have hkey : row.codeHash = env.keyring.keyedHash "recovery-code" c.code :=
    (congrArg Prod.snd (Table.pk_of_get? hget)).trans hhash
  obtain ⟨code, hcode, hlatest⟩ := hinv.latest row hrow
  have hsame : c.code = code := env.keyring.keyedHash_injective _ (hkey.symm.trans hlatest)
  exact ⟨hsame ▸ hcode, fun haccepted => (hinv.used c.code haccepted).2 row hrow hkey hunused⟩

/-- A code of the last set is of some set. -/
private theorem mem_returned {code : String} (h : code ∈ s.returned.headD []) :
    ∃ set ∈ s.returned, code ∈ set := by
  cases hreturned : s.returned with
  | nil =>
      rw [hreturned] at h
      cases h
  | cons set sets =>
      rw [hreturned] at h
      exact ⟨set, List.mem_cons_self, h⟩

private theorem not_mem_of_fresh {values : RecoveryCodes} {code : String}
    (h : s.fresh values = true) (hcode : code ∈ values.values) : ∀ set ∈ s.returned, code ∉ set := by
  intro set hset
  simpa using List.all_eq_true.mp (List.all_eq_true.mp h code hcode) set hset

theorem newCode_hash {pk : UUID} {values : RecoveryCodes} {code : String}
    (hcode : code ∈ values.values) :
    (newCode env twoFactor pk code).codeHash = env.keyring.keyedHash "recovery-code" code :=
  recoveryHash_code (values.code code hcode)

theorem Inv.commits {txn : Txn} (hinv : Inv env s) (h : s.txn? id = some txn)
    (hcommit : Commits env twoFactor s txn.work credential codes consumed returned)
    (hcredential : ∀ code ∈ codes, ∃ c, credential = some c ∧ c.pk = code.credential) :
    Inv env { s.close id with
      credential := credential
      codes := codes
      returned := returned ++ s.returned
      accepted := s.accepted ++ (consumed.map Consumed.code).toList } := by
  have htxn : txn ∈ s.txns := Table.mem_of_get? h
  have hholds := (hinv.holds txn htxn).begun
  have hrows := hcommit.rows hinv hholds
  have hframe := hcommit.frame hinv hholds
  have hstands := hcommit.consumedStands hholds
  have hlatest := consumed_latest hinv hstands
  constructor
  · exact hinv.exclusive.erase id
  · exact hcredential
  · exact hcommit.secret hinv
  · intro other hother
    obtain ⟨hmem, hid⟩ := Table.mem_erase.mp hother
    refine (hinv.holds other hmem).frame hframe fun row hrow hlocked => hid ?_
    have hpk : txn.id = id := Table.pk_of_get? h
    exact (hinv.exclusive other hmem txn htxn row hrow hlocked).trans hpk
  · intro set hset code hcode
    rcases List.mem_append.mp hset with hset | hset
    · exact hcommit.drawn set hset code hcode
    · exact hinv.drawn set hset code hcode
  · intro row hrow
    rcases hrows row hrow with ⟨hnone, old, hold, hkey, _⟩ |
      ⟨_, pk, _, values, _, hreturned, _, code, hcode, rfl⟩
    · rw [hnone, List.nil_append, show row.codeHash = old.codeHash from congrArg Prod.snd hkey]
      exact hinv.latest old hold
    · exact ⟨code, by rw [hreturned]; exact hcode, newCode_hash hcode⟩
  · intro code hcode
    rcases List.mem_append.mp hcode with haccepted | hconsumed
    · obtain ⟨⟨set, hset, hin⟩, hused⟩ := hinv.used code haccepted
      refine ⟨⟨set, List.mem_append_right _ hset, hin⟩, fun row hrow hhash => ?_⟩
      rcases hrows row hrow with ⟨_, old, hold, hkey, hkept, _⟩ |
        ⟨_, pk, _, values, _, _, hfresh, new, hnew, rfl⟩
      · exact hkept (hused old hold ((congrArg Prod.snd hkey).symm.trans hhash))
      · rw [newCode_hash hnew] at hhash
        have hsame : new = code := env.keyring.keyedHash_injective _ hhash
        exact absurd hin (not_mem_of_fresh hfresh (hsame ▸ hnew) set hset)
    · obtain ⟨c, hc, rfl⟩ := Option.map_eq_some_iff.mp (Option.mem_toList.mp hconsumed)
      obtain ⟨set, hset, hin⟩ := mem_returned (hlatest c hc).1
      refine ⟨⟨set, List.mem_append_right _ hset, hin⟩, fun row hrow hhash => ?_⟩
      rcases hrows row hrow with ⟨_, old, hold, hkey, _, hspent⟩ |
        ⟨_, pk, _, values, _, _, hfresh, new, hnew, rfl⟩
      · -- a hash is of one row: both are of the one credential
        obtain ⟨hhash', row', hget', _⟩ := hstands c hc
        obtain ⟨c₁, hc₁, hpk₁⟩ := hinv.referred old hold
        obtain ⟨c₂, hc₂, hpk₂⟩ := hinv.referred row' (Table.mem_of_get? hget')
        rw [hc₁, Option.some.injEq] at hc₂
        have hkey' : (row'.credential, row'.codeHash) = c.key := Table.pk_of_get? hget'
        have hrowCredential : row.credential = old.credential := congrArg Prod.fst hkey
        refine hspent c hc (Prod.ext ?_ (hhash'.trans hhash.symm))
        rw [← hkey', ← hpk₂, ← hc₂, hpk₁]
        exact hrowCredential.symm
      · rw [newCode_hash hnew] at hhash
        have hsame : new = c.code := env.keyring.keyedHash_injective _ hhash
        exact absurd hin (not_mem_of_fresh hfresh (hsame ▸ hnew) set hset)
  · refine List.nodup_append.mpr ⟨hinv.once, ?_, ?_⟩
    · cases consumed <;> simp
    · intro code hcode code' hcode' hsame
      obtain ⟨c, hc, rfl⟩ := Option.map_eq_some_iff.mp (Option.mem_toList.mp hcode')
      exact (hlatest c hc).2 (hsame ▸ hcode)

/-! ### Enabled credentials

This part is no invariant.  `regenerate_codes` asks for a credential that is not disabled, and
one not yet confirmed is not disabled either.
-/

/-- An unused code is one of an enabled credential. -/
def Enabled (credential : Option Credential) (codes : Table RecoveryCode) : Prop :=
  ∀ row ∈ codes, row.usedAt = none →
    ∃ c, credential = some c ∧ c.pk = row.credential ∧ c.isEnabled = true

instance (credential : Option Credential) (codes : Table RecoveryCode) :
    Decidable (Enabled credential codes) :=
  decidable_of_iff (∀ row ∈ codes.rows, row.usedAt = none →
      (credential.any fun c => c.pk = row.credential ∧ c.isEnabled = true) = true) (by
    simp only [Enabled, Option.any_eq_true, decide_eq_true_eq]
    exact Iff.rfl)

theorem isEnabled_iff {c : Credential} :
    c.isEnabled = true ↔ c.confirmedAt ≠ none ∧ c.disabledAt = none := by
  rw [Credential.isEnabled, Bool.and_eq_true, Option.isSome_iff_ne_none, Option.isNone_iff_eq_none]

/-- Ten codes are some code. -/
private theorem exists_value (values : RecoveryCodes) : ∃ code, code ∈ values.values := by
  have hlength := values.length_eq
  cases hvalues : values.values with
  | nil =>
      rw [hvalues] at hlength
      cases hlength
  | cons code rest => exact ⟨code, List.mem_cons_self⟩

/-- A commit keeps them so, exactly if the credential that codes are regenerated for is one that
was confirmed. -/
theorem Commits.enabled_iff (hinv : Inv env s)
    (hholds : work.Holds env s.credential s.codes none)
    (hcredential : ∀ code ∈ codes, ∃ c, credential = some c ∧ c.pk = code.credential)
    (henabled : Enabled s.credential s.codes)
    (h : Commits env twoFactor s work credential codes consumed returned) :
    Enabled credential codes ↔ ∀ pk, (∃ consumed deleted,
      work = .replaced (.regenerated consumed) pk deleted) →
      ∀ c, s.credential = some c → c.pk = pk → c.confirmedAt ≠ none := by
  cases h with
  | creates hfree hfresh hsecret =>
      refine iff_of_true (fun row hrow _ => ?_) (by rintro _ ⟨_, _, hwork⟩; cases hwork)
      -- no code is left: it would be one of the credential before
      obtain ⟨_, ⟨⟩, hpk⟩ := hcredential row hrow
      obtain ⟨c, hc, hpk'⟩ := hinv.referred row (Table.mem_delete.mp hrow).1
      exact absurd (hpk'.trans hpk.symm) (hfresh c hc)
  | @replaces cause pk deleted values _ hfresh hrows =>
      obtain ⟨c, hc, hpk, hfits⟩ := hholds.1
      cases cause with
      | confirmed confirmedAt =>
          refine iff_of_true (fun row hrow _ => ?_) (by rintro _ ⟨_, _, hwork⟩; cases hwork)
          obtain ⟨c', hc', hpk'⟩ := hcredential row hrow
          refine ⟨c', hc', hpk', ?_⟩
          rw [hc, Option.map_some, Option.some.injEq, Cause.apply, if_pos hpk] at hc'
          rw [← hc']
          rfl
      | regenerated consumed =>
          have hsame : s.credential.map (fun c => Cause.apply pk c (.regenerated consumed)) =
              s.credential := Option.map_id'
          constructor
          · rintro hafter _ ⟨_, _, ⟨⟩⟩ c₁ hc₁ _
            obtain ⟨code, hcode⟩ := exists_value values
            obtain ⟨rows', hrows', heq⟩ :=
              @rows_replaced env twoFactor s (.regenerated consumed) pk deleted hinv hholds values
            rw [hrows, Option.some.injEq] at hrows'
            have hnew : newCode env twoFactor pk code ∈ codes := by
              rw [← Table.mem_rows, hrows', heq]
              exact List.mem_map_of_mem hcode
            obtain ⟨c₂, hc₂, _, henabled₂⟩ := hafter _ hnew rfl
            rw [hsame, hc₁, Option.some.injEq] at hc₂
            exact hc₂ ▸ (isEnabled_iff.mp henabled₂).1
          · intro hconfirmed row hrow _
            obtain ⟨c', hc', hpk'⟩ := hcredential row hrow
            refine ⟨c', hc', hpk', ?_⟩
            rw [hsame, hc, Option.some.injEq] at hc'
            rw [← hc']
            exact isEnabled_iff.mpr ⟨hconfirmed pk ⟨consumed, deleted, rfl⟩ c hc hpk, hfits⟩
  | accepts =>
      refine iff_of_true (fun row hrow hunused => ?_) (by rintro _ ⟨_, _, hwork⟩; cases hwork)
      obtain ⟨old, hold, hkey, hused, _⟩ := mem_spent hrow
      obtain ⟨c, hc, hpk, henabled⟩ :=
        henabled old hold (by by_contra hold'; exact hused hold' hunused)
      exact ⟨c, hc, hpk.trans (congrArg Prod.fst hkey).symm, henabled⟩
  | @disables pk consumed disabledAt rows markedAt =>
      refine iff_of_true (fun row hrow hunused => ?_) (by rintro _ ⟨_, _, hwork⟩; cases hwork)
      -- every code is used now
      exfalso
      obtain ⟨⟨c, hc, hpk, _⟩, _, hcovers⟩ := hholds
      obtain ⟨mid, hmid, hkey, hused, hmarked⟩ := mem_marked hrow
      obtain ⟨old, hold, hkey', hused', hspent⟩ := mem_spent hmid
      have hmidUnused : mid.usedAt = none := by by_contra hmid'; exact hused hmid' hunused
      have holdUnused : old.usedAt = none := by by_contra hold'; exact hused' hold' hmidUnused
      obtain ⟨c', hc', hpk'⟩ := hinv.referred old hold
      rw [hc, Option.some.injEq] at hc'
      have hown : old.credential = pk := by rw [← hpk', ← hc', hpk]
      refine hmarked ?_ hunused
      rw [codeRow_eq (hkey.trans hkey')]
      refine hcovers old hold ⟨hown, holdUnused, fun hin => ?_⟩
      obtain ⟨k, hk, hrow⟩ := Option.map_eq_some_iff.mp (Option.mem_toList.mp hin)
      exact hspent k hk ((Row.code.inj hrow).trans hkey'.symm) hmidUnused

/-! ### A code that stands

What it means that a code is good: whoever comes next with it, however it is typed, is let in.
-/

/-- A `verify` from `login`, all of it. -/
def verification (id : Nat) (raw : String) : List Event :=
  [.begin id (.verify raw), .read id, .find id, .take id, .finish id]

/-- A code returned whose row is unused, and nobody else's to use, is accepted however it is spelt,
as long as the credential is enabled. -/
def Recognised (env : Environment) (twoFactor : TwoFactor) (user : User) (s : State) : Prop :=
  ∀ set ∈ s.returned, ∀ code ∈ set, ∀ c row, s.credential = some c → c.isEnabled = true →
    s.codes.get? (c.pk, recoveryHash env twoFactor code) = some row → row.usedAt = none →
    (∀ txn ∈ s.txns, codeRow row ∉ txn.locked) →
    ∀ raw, Spells env.unicode raw code → ∀ id now, s.txns.get? id = none → s.clock ≤ now →
      (Run.exec (step env twoFactor user) s ((verification id raw).map fun e => (now, e))).map
        State.accepted = some (s.accepted ++ [code])

theorem txn?_goOn {txn : Txn} {found : Option (List Row)} (h : s.txn? id = some txn) :
    (s.goOn id work found).txn? id = some ⟨id, work, found⟩ := by
  have hid : txn.id = id := Table.pk_of_get? h
  have hget : s.txns.get? id = some txn := h
  simp only [State.txn?, State.goOn, Table.get?_modify, hget, Option.map_some, if_true, hid]

theorem step_eq (h : s.clock ≤ now) (e : Event) :
    step env twoFactor user s (now, e) = { s with clock := now }.move env twoFactor user now e :=
  if_pos h

/-- Nobody else comes to hold a row as a transaction goes on. -/
theorem free_goOn {found : Option (List Row)} {row : Row} (h : s.free id row = true) :
    (s.goOn id work found).free id row = true := by
  refine Locks.free_iff.mpr fun txn htxn hid => ?_
  rcases mem_goOn.mp htxn with ⟨old, _, hold, rfl⟩ | ⟨hmem, _⟩
  · exact absurd hold hid
  · exact Locks.free_iff.mp h txn hmem hid

theorem recognised_of_inv (hTotp : ∀ secret code now, IsRecoveryCode code →
      twoFactor.verify secret code now = false) (hinv : Inv env s) :
    Recognised env twoFactor user s := by
  intro set hset code hcode c row hc henabled hget hunused hfree raw hraw id now hid hle
  have hvalue : IsRecoveryCode code := hinv.drawn set hset code hcode
  obtain ⟨secret, hsecret⟩ := hinv.secret c hc
  obtain ⟨txns, hinsert⟩ := Table.exists_insert? (a := (⟨id, .begun (.verify raw), none⟩ : Txn))
    (Table.get?_eq_none.mp hid)
  have hkey : codeRow row = .code (c.pk, recoveryHash env twoFactor code) :=
    congrArg Row.code (Table.pk_of_get? hget)
  let s₁ : State := { s with clock := now, txns := txns }
  let verifying : Work := .verifying .login c.pk code
  let s₂ : State := s₁.goOn id verifying none
  let found : List Row := s₂.codeRows fun row => row.credential = c.pk ∧
    row.codeHash = recoveryHash env twoFactor code ∧ row.usedAt = none
  let s₃ : State := s₂.goOn id verifying (some found)
  let consumed : Consumed := ⟨(c.pk, recoveryHash env twoFactor code), code, now⟩
  let s₄ : State := s₃.goOn id (.verified .login (some consumed)) none
  have htxn₁ : s₁.txn? id = some ⟨id, .begun (.verify raw), none⟩ :=
    Table.get?_insert?_self hinsert
  have hbegin : step env twoFactor user s (now, .begin id (.verify raw)) = some s₁ := by
    rw [step_eq hle, State.move, hinsert]
    rfl
  have hread : step env twoFactor user s₁ (now, .read id) = some s₂ := by
    rw [step_eq (le_refl now)]
    have hverify : s₁.verify env twoFactor now .login raw = some verifying := by
      unfold State.verify
      simp only [show s₁.credential = some c from hc, bind, Option.bind_some, henabled, hsecret,
        normalized_of_spells hvalue hraw, hTotp secret code now hvalue]
      rfl
    show (s₁.txn? id).bind _ = _
    rw [htxn₁, Option.bind_some]
    show (some (s₁.verify env twoFactor now .login raw)).map _ = _
    rw [hverify]
    rfl
  have hfind : step env twoFactor user s₂ (now, .find id) = some s₃ := by
    rw [step_eq (le_refl now)]
    show s₂.find env twoFactor id = _
    rw [State.find, txn?_goOn htxn₁]
    rfl
  have htxn₃ : s₃.txn? id = some ⟨id, verifying, some found⟩ := txn?_goOn (txn?_goOn htxn₁)
  -- the row is found, and nothing else is
  have hfound : codeRow row ∈ found :=
    mem_codeRows.mpr ⟨row, Table.mem_of_get? hget, decide_eq_true
      ⟨congrArg Prod.fst (Table.pk_of_get? hget), congrArg Prod.snd (Table.pk_of_get? hget),
        hunused⟩, rfl⟩
  have honly : ∀ other ∈ found, other = codeRow row := by
    intro other hother
    obtain ⟨found', _, hp, rfl⟩ := mem_codeRows.mp hother
    obtain ⟨hpk, hhash, _⟩ := of_decide_eq_true hp
    rw [hkey]
    exact congrArg Row.code (Prod.ext hpk hhash)
  have hfree₁ : s₁.free id (codeRow row) = true := by
    refine Locks.free_iff.mpr fun txn htxn hne => ?_
    rcases (Table.mem_insert? hinsert).mp htxn with hold | rfl
    · exact hfree txn hold
    · exact absurd rfl hne
  have htake : step env twoFactor user s₃ (now, .take id) = some s₄ := by
    rw [step_eq (le_refl now)]
    show s₃.take env twoFactor now id = _
    have hall : found.all (s₃.free id) = true := by
      refine List.all_eq_true.mpr fun other hother => ?_
      rw [honly other hother]
      exact free_goOn (free_goOn hfree₁)
    have hin : Row.code (c.pk, recoveryHash env twoFactor code) ∈ found.filter fun row =>
        row ∈ (s₃.finds env twoFactor verifying).getD [] := by
      rw [← hkey]
      exact List.mem_filter.mpr ⟨hfound, decide_eq_true hfound⟩
    simp only [State.take, htxn₃, hall, if_true, State.taken, verifying, hin, hashed_code hvalue]
    rfl
  have hfinish : (step env twoFactor user s₄ (now, .finish id)).map State.accepted =
      some (s.accepted ++ [code]) := by
    rw [step_eq (le_refl now)]
    show (s₄.finish id).map _ = _
    have hreferred : ((spent (some consumed) s₄.codes).rows.all fun row =>
        s₄.credential.any fun c => c.pk = row.credential) = true := by
      refine List.all_eq_true.mpr fun row hrow => ?_
      obtain ⟨old, hold, hpk, _⟩ := mem_spent hrow
      obtain ⟨c', hc', hpk'⟩ := hinv.referred old hold
      rw [show s₄.credential = some c' from hc', Option.any_some, decide_eq_true_eq, hpk']
      exact (congrArg Prod.fst hpk).symm
    have htxn₄ : s₄.txn? id = some ⟨id, .verified .login (some consumed), none⟩ :=
      txn?_goOn htxn₃
    have hcommit : s₄.finish id =
        some (s₄.commit id s₄.credential (spent (some consumed) s₄.codes) (some consumed) []) := by
      rw [State.finish, htxn₄]
      rfl
    rw [hcommit, State.commit, if_pos hreferred]
    rfl
  simp only [verification, List.map_cons, List.map_nil, Run.exec_cons, Run.exec_nil, hbegin, hread,
    hfind, htake, Option.bind_some]
  simpa using hfinish

/-! ### Runs

The invariant goes through every run.  With it, each step keeps the codes to enabled
credentials exactly where it regenerates none for another.
-/

/-- What is asked of the recovery codes when a step leads to `s'`. -/
structure Sound (env : Environment) (twoFactor : TwoFactor) (user : User) (s s' : State) :
    Prop where
  once : s'.accepted.Nodup
  /-- A code accepted is one of the last set returned. -/
  latest : ∀ code ∈ s'.accepted, code ∈ s.accepted ∨ code ∈ s.returned.headD []
  enabled : Enabled s'.credential s'.codes
  recognised : Recognised env twoFactor user s'

/-- The credential whose new codes a `regenerate_codes` is about to commit is confirmed. -/
def RegeneratesConfirmed (s : State) (e : Int × Event) : Prop :=
  ∀ pk ∈ s.regenerates? e.2, ∀ c ∈ s.credential, c.pk = pk → c.confirmedAt ≠ none

instance (s : State) (e : Int × Event) : Decidable (RegeneratesConfirmed s e) :=
  inferInstanceAs (Decidable (∀ pk ∈ s.regenerates? e.2, ∀ c ∈ s.credential, c.pk = pk →
    c.confirmedAt ≠ none))

theorem step_moves {e : Int × Event} (h : step env twoFactor user s e = some s') :
    Moves env twoFactor { s with clock := e.1 } e.2 s' := by
  unfold step at h
  split at h
  · exact move_cases h
  · cases h

theorem Inv.tick (hinv : Inv env s) (clock : Int) : Inv env { s with clock := clock } where
  exclusive := hinv.exclusive
  referred := hinv.referred
  secret := hinv.secret
  holds := hinv.holds
  drawn := hinv.drawn
  latest := hinv.latest
  used := hinv.used
  once := hinv.once

theorem Inv.begins {call : Call} {txns : Table Txn} (hinv : Inv env s)
    (h : s.txns.insert? ⟨id, .begun call, none⟩ = some txns) : Inv env { s with txns := txns } where
  exclusive := hinv.exclusive.insert? h rfl
  referred := hinv.referred
  secret := hinv.secret
  holds txn htxn := by
    rcases (Table.mem_insert? h).mp htxn with hold | rfl
    · exact hinv.holds txn hold
    · exact trivial
  drawn := hinv.drawn
  latest := hinv.latest
  used := hinv.used
  once := hinv.once

/-- The codes drawn always go in, and the commit finds their credential. -/
theorem not_fails {codes : RecoveryCodes} {txn : Txn} {cause : Cause} {pk : UUID}
    {deleted : List Row} (hinv : Inv env s) (h : s.txn? id = some txn)
    (hwork : txn.work = .replaced cause pk deleted)
    (hrows : ∀ rows, insertCodes env twoFactor pk codes
        (dropped deleted (spent cause.consumed s.codes)) = some rows →
      ∃ code ∈ rows, ¬∃ c, s.credential.map (fun c => cause.apply pk c) = some c ∧
        c.pk = code.credential) : False := by
  have hholds : txn.work.Holds env s.credential s.codes none :=
    (hinv.holds txn (Table.mem_of_get? h)).begun
  rw [hwork] at hholds
  obtain ⟨rows, hinsert, heq⟩ := @rows_replaced env twoFactor s cause pk deleted hinv hholds codes
  obtain ⟨row, hrow, hdangling⟩ := hrows rows hinsert
  obtain ⟨c, hc, hpk, _⟩ := hholds.1
  rw [← Table.mem_rows, heq] at hrow
  obtain ⟨code, _, rfl⟩ := List.mem_map.mp hrow
  refine hdangling ⟨cause.apply pk c, by rw [hc, Option.map_some], ?_⟩
  cases cause with
  | confirmed =>
      rw [Cause.apply, if_pos hpk]
      exact hpk
  | regenerated => exact hpk

/-- A step keeps the invariant; it leaves an unused code to an enabled credential alone, exactly
if it does not regenerate the codes of one that is not confirmed. -/
theorem moves_inv {e : Int × Event} (hinv : Inv env s) (henabled : Enabled s.credential s.codes)
    (h : Moves env twoFactor s e.2 s') :
    Inv env s' ∧ (∀ code ∈ s'.accepted, code ∈ s.accepted ∨ code ∈ s.returned.headD []) ∧
      (Enabled s'.credential s'.codes ↔ RegeneratesConfirmed s e) := by
  have hquiet : s.regenerates? e.2 = none → RegeneratesConfirmed s e := by
    intro hnone pk hpk
    rw [Option.mem_def, hnone] at hpk
    cases hpk
  obtain ⟨now, e⟩ := e
  cases h with
  | begins h =>
      exact ⟨hinv.begins h, fun _ hcode => Or.inl hcode, iff_of_true henabled (hquiet rfl)⟩
  | goesOn h hregenerates hlocks hholds =>
      exact ⟨hinv.goesOn h hlocks hholds, fun _ hcode => Or.inl hcode,
        iff_of_true henabled (hquiet hregenerates)⟩
  | closes hregenerates =>
      exact ⟨hinv.close _, fun _ hcode => Or.inl hcode,
        iff_of_true henabled (hquiet hregenerates)⟩
  | @commits _ id txn credential codes consumed returned h hregenerates hcommit hcredential =>
      have hholds := (hinv.holds txn (Table.mem_of_get? h)).begun
      refine ⟨hinv.commits h hcommit hcredential, ?_, ?_⟩
      · intro code hcode
        rcases List.mem_append.mp hcode with hold | hnew
        · exact Or.inl hold
        · obtain ⟨c, hc, rfl⟩ := Option.map_eq_some_iff.mp (Option.mem_toList.mp hnew)
          exact Or.inr (consumed_latest hinv (hcommit.consumedStands hholds) c hc).1
      · refine (hcommit.enabled_iff hinv hholds hcredential henabled).trans ?_
        refine forall_congr' fun pk => ?_
        rw [← hregenerates pk]
        exact Iff.rfl
  | fails h hwork hrows => exact (not_fails hinv h hwork hrows).elim

/-- **Recovery codes are sound**, in every run in which `regenerate_codes` commits codes for no
credential but a confirmed one, and in no other. -/
theorem recovery_codes_sound_iff (env : Environment) (twoFactor : TwoFactor) (user : User)
    (hTotp : ∀ secret code now, IsRecoveryCode code → twoFactor.verify secret code now = false)
    (clock : Int) (es : List (Int × Event)) :
    Run.Steps (step env twoFactor user) (fun s _ s' => Sound env twoFactor user s s')
        { clock := clock } es ↔
      Run.Steps (step env twoFactor user) (fun s e _ => RegeneratesConfirmed s e)
        { clock := clock } es := by
  have hiff : ∀ s e s', Inv env s ∧ Enabled s.credential s.codes →
      step env twoFactor user s e = some s' →
      (Sound env twoFactor user s s' ↔ RegeneratesConfirmed s e) := by
    rintro s e s' ⟨hinv, henabled⟩ hs
    obtain ⟨hinv', hlatest, hcondition⟩ := moves_inv (hinv.tick e.1) henabled (step_moves hs)
    constructor
    · intro hsound
      exact hcondition.mp hsound.enabled
    · intro hconfirmed
      exact ⟨hinv'.once, hlatest, hcondition.mpr hconfirmed, recognised_of_inv hTotp hinv'⟩
  have hkeep : ∀ s e s', Inv env s ∧ Enabled s.credential s.codes →
      step env twoFactor user s e = some s' → Sound env twoFactor user s s' →
      Inv env s' ∧ Enabled s'.credential s'.codes := by
    rintro s e s' ⟨hinv, henabled⟩ hs hsound
    exact ⟨(moves_inv (hinv.tick e.1) henabled (step_moves hs)).1, hsound.enabled⟩
  have hinit : Enabled (none : Option Credential) (∅ : Table RecoveryCode) :=
    fun row hrow => absurd hrow (Table.not_mem_empty row)
  exact Run.steps_iff_of_inv hiff hkeep ⟨inv_init env clock, hinit⟩ es

theorem oneCode_verify (secret code : String) (now : Int) (h : IsRecoveryCode code) :
    TwoFactor.oneCode.verify secret code now = false := by
  refine decide_eq_false ?_
  rintro rfl
  exact absurd h.1 (by decide)

/-- Ten more codes. -/
def secondCodes : RecoveryCodes where
  values := ["A000000000", "A111111111", "A222222222", "A333333333", "A444444444", "A555555555",
    "A666666666", "A777777777", "A888888888", "A999999999"]
  length_eq := rfl
  nodup := by decide
  code := by decide

/-- Set up, by `begin_setup` to its end and `confirm_setup` to its commit. -/
def setUp : List (Int × Event) :=
  [(0, .begin 0 (.beginSetup "secret")), (0, .read 0), (0, .read 0), (0, .create 0 10 "JBSW" 0)]

def confirmed : List (Int × Event) :=
  [(2, .begin 2 (.confirmSetup "123456")), (2, .find 2), (2, .take 2), (2, .find 2), (2, .take 2),
    (2, .replace 2 .plain)]

/-- A code is used once, and refused after that. -/
def usedTwice : List (Int × Event) :=
  setUp ++ confirmed ++ (verification 3 " 11111-11111 ").map (fun e => (3, e)) ++
    [(4, .begin 4 (.verify "1111111111")), (4, .read 4), (4, .find 4), (4, .take 4)]

theorem recovery_codes_sound_used :
    Run.Steps (step .plain .oneCode ada) (fun s _ s' => Sound .plain .oneCode ada s s')
      { clock := 0 } usedTwice :=
  (recovery_codes_sound_iff .plain .oneCode ada oneCode_verify 0 usedTwice).mpr (by decide)

/-- A second `begin_setup` has found the credential when it is confirmed, and deletes it after
that; in between `regenerate_codes` verifies on it. -/
def regeneratedLate : List (Int × Event) :=
  setUp ++ [(1, .begin 1 (.beginSetup "secret")), (1, .read 1)] ++ confirmed ++
    [(3, .begin 3 (.regenerateCodes "123456")), (3, .read 3),
      (4, .find 1), (4, .take 1), (4, .find 1), (4, .take 1), (4, .read 1),
      (4, .create 1 11 "Y3DP" 1),
      (5, .find 3), (5, .take 3), (5, .find 3), (5, .take 3), (5, .replace 3 secondCodes)]

/-- Ten codes stand for a credential that nobody has confirmed. -/
theorem codes_of_pending_credential :
    ¬Run.Steps (step .plain .oneCode ada) (fun s _ s' => Sound .plain .oneCode ada s s')
      { clock := 0 } regeneratedLate := by
  intro h
  have henabled : Run.Steps (step .plain .oneCode ada)
      (fun _ _ s' => Enabled s'.credential s'.codes) { clock := 0 } regeneratedLate := by
    refine h.imp ?_
    intro s e s' _ hsound
    exact hsound.enabled
  revert henabled
  decide

end TwoFactorRaces

end DjangoFoundation
