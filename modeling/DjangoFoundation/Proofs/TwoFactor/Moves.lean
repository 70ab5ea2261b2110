/-
What the transactions on a user's second factor can do.

`Moves` lists what one step can come to: a transaction begins, goes on, ends without a trace, or
commits.  `Work.Holds` is what an open transaction rests on; the locks it has keep it so.

A statement with `select_for_update` is two steps here, finding the rows and taking their
locks, since others may commit in between.  A row that has been changed by then is looked at
again, and one that no longer fits is left out, as the database does.
-/
import DjangoFoundation.Authentication.TwoFactorRaces
import DjangoFoundation.Proofs.TwoFactor.Codes

namespace DjangoFoundation

namespace TwoFactorRaces

open TwoFactorService

variable {env : Environment} {twoFactor : TwoFactor} {user : User} {now : Int} {s s' : State}
  {id : Nat} {credential : Option Credential} {codes : Table RecoveryCode}

/-! ### What a transaction rests on

The statements of a transaction are apart in time, and each goes by what an earlier one has
found.  `Work.Holds` says, for each place a transaction can stand at, which of that must still
be so.
-/

/-- The code consumed is there, unused. -/
def ConsumedStands (env : Environment) (codes : Table RecoveryCode)
    (consumed : Option Consumed) : Prop :=
  ∀ c ∈ consumed, c.key.2 = env.keyring.keyedHash "recovery-code" c.code ∧
    ∃ row, codes.get? c.key = some row ∧ row.usedAt = none

/-- The credential locked is there, with a property of it. -/
def Stands (credential : Option Credential) (pk : UUID) (p : Credential → Prop) : Prop :=
  ∃ c, credential = some c ∧ c.pk = pk ∧ p c

/-- All the codes with the property are among the rows. -/
def Covers (codes : Table RecoveryCode) (p : RecoveryCode → Prop) (rows : List Row) : Prop :=
  ∀ code ∈ codes, p code → codeRow code ∈ rows

/-- What the query for it asks of the credential. -/
def Cause.Fits : Cause → Credential → Prop
  | .confirmed _, c => c.confirmedAt = none
  | .regenerated _, c => c.disabledAt = none

/-- The codes that a `disable` has left to mark. -/
def Unmarked (pk : UUID) (consumed : Option Consumed) (code : RecoveryCode) : Prop :=
  code.credential = pk ∧ code.usedAt = none ∧ codeRow code ∉ consumedRows consumed

def Work.Holds (env : Environment) (credential : Option Credential)
    (codes : Table RecoveryCode) (found : Option (List Row)) : Work → Prop
  | .verified _ consumed => ConsumedStands env codes consumed
  | .replacing cause pk => Stands credential pk cause.Fits ∧
      ConsumedStands env codes cause.consumed ∧
      ∀ rows ∈ found, Covers codes (fun code => code.credential = pk) rows
  | .replaced cause pk deleted => Stands credential pk cause.Fits ∧
      ConsumedStands env codes cause.consumed ∧
      Covers codes (fun code => code.credential = pk) deleted
  | .disabling pk consumed _ => Stands credential pk (fun _ => True) ∧
      ConsumedStands env codes consumed ∧ ∀ rows ∈ found, Covers codes (Unmarked pk consumed) rows
  | .disabled pk consumed _ rows _ => Stands credential pk (fun _ => True) ∧
      ConsumedStands env codes consumed ∧ Covers codes (Unmarked pk consumed) rows
  | _ => True

def Txn.Holds (env : Environment) (s : State) (txn : Txn) : Prop :=
  txn.work.Holds env s.credential s.codes txn.found

/-! ### What a step can do

A transaction that goes on has taken only locks that were free, and rests on what the state
bears out.  All writes are in `Commits`.
-/

/-- What the commit of a transaction that stands at a work leaves: the credential, the codes,
the code accepted and the codes returned. -/
inductive Commits (env : Environment) (twoFactor : TwoFactor) (s : State) :
    Work → Option Credential → Table RecoveryCode → Option Consumed → List (List String) → Prop
  | creates {deleted : List Row} {credential : Credential} {secret : String}
      (hfree : ∀ c ∈ s.credential, .credential c.pk ∈ deleted)
      (hfresh : ∀ c ∈ s.credential, c.pk ≠ credential.pk)
      (hsecret : env.keyring.decryptValue "totp-secret" credential.encryptedSecret = some secret) :
      Commits env twoFactor s (.vacant deleted) (some credential) (dropped deleted s.codes) none []
  | replaces {cause : Cause} {pk : UUID} {deleted : List Row} {codes : RecoveryCodes}
      {rows : Table RecoveryCode} (hfresh : s.fresh codes = true)
      (hrows : insertCodes env twoFactor pk codes (dropped deleted (spent cause.consumed s.codes)) =
        some rows) :
      Commits env twoFactor s (.replaced cause pk deleted)
        (s.credential.map fun c => cause.apply pk c) rows cause.consumed [codes.values]
  | accepts {consumed : Option Consumed} :
      Commits env twoFactor s (.verified .login consumed) s.credential (spent consumed s.codes)
        consumed []
  | disables {pk : UUID} {consumed : Option Consumed} {disabledAt : Int} {rows : List Row}
      {markedAt : Int} :
      Commits env twoFactor s (.disabled pk consumed disabledAt rows markedAt)
        (s.credential.map (disabledBy pk disabledAt)) (marked rows markedAt (spent consumed s.codes))
        consumed []

/-- The credential whose codes a `regenerate_codes` is about to commit. -/
def State.regenerates? (s : State) : Event → Option UUID
  | .replace id _ =>
      match (s.txn? id).map Txn.work with
      | some (.replaced (.regenerated _) pk _) => some pk
      | _ => none
  | _ => none

/-- What a transaction does in one step. -/
inductive Moves (env : Environment) (twoFactor : TwoFactor) (s : State) : Event → State → Prop
  | begins {id : Nat} {call : Call} {txns : Table Txn}
      (h : s.txns.insert? ⟨id, .begun call, none⟩ = some txns) :
      Moves env twoFactor s (.begin id call) { s with txns := txns }
  | goesOn {e : Event} {id : Nat} {txn : Txn} {work : Work} {found : Option (List Row)}
      (h : s.txn? id = some txn) (hregenerates : s.regenerates? e = none)
      (hlocks : ∀ row ∈ work.locked, row ∈ txn.locked ∨ s.free id row = true)
      (hholds : txn.Holds env s → work.Holds env s.credential s.codes found) :
      Moves env twoFactor s e (s.goOn id work found)
  | closes {e : Event} {id : Nat} (hregenerates : s.regenerates? e = none) :
      Moves env twoFactor s e (s.close id)
  | commits {e : Event} {id : Nat} {txn : Txn} {credential : Option Credential}
      {codes : Table RecoveryCode} {consumed : Option Consumed} {returned : List (List String)}
      (h : s.txn? id = some txn)
      (hregenerates : ∀ pk, s.regenerates? e = some pk ↔ ∃ consumed deleted,
        txn.work = .replaced (.regenerated consumed) pk deleted)
      (hcommit : Commits env twoFactor s txn.work credential codes consumed returned)
      (hcredential : ∀ code ∈ codes, ∃ c, credential = some c ∧ c.pk = code.credential) :
      Moves env twoFactor s e { s.close id with
        credential := credential
        codes := codes
        returned := returned ++ s.returned
        accepted := s.accepted ++ (consumed.map Consumed.code).toList }
  /-- The locks see to it that this does not happen. -/
  | fails {id : Nat} {codes : RecoveryCodes} {txn : Txn} {cause : Cause} {pk : UUID}
      {deleted : List Row} (h : s.txn? id = some txn) (hwork : txn.work = .replaced cause pk deleted)
      (hrows : ∀ rows, insertCodes env twoFactor pk codes
          (dropped deleted (spent cause.consumed s.codes)) = some rows →
        ∃ code ∈ rows, ¬∃ c, s.credential.map (fun c => cause.apply pk c) = some c ∧
          c.pk = code.credential) :
      Moves env twoFactor s (.replace id codes) (s.close id)

/-! ### Rows found

Credentials and codes are rows of two tables with one set of locks, so a row found is either.
-/

theorem mem_credentialRow {p : Credential → Bool} {row : Row} : row ∈ s.credentialRow p ↔
    ∃ c, s.credential = some c ∧ p c = true ∧ row = .credential c.pk := by
  rw [State.credentialRow, Option.mem_toList, Option.map_eq_some_iff]
  simp only [Option.filter_eq_some_iff, and_assoc, eq_comm]

theorem mem_codeRows {p : RecoveryCode → Bool} {row : Row} : row ∈ s.codeRows p ↔
    ∃ code ∈ s.codes, p code = true ∧ row = codeRow code := by
  simp only [State.codeRows, List.mem_map, List.mem_filter, Table.mem_rows, and_assoc, eq_comm]

theorem among_eq_some {rows : List Row} {c : Credential} :
    s.among rows = some c ↔ s.credential = some c ∧ .credential c.pk ∈ rows := by
  rw [State.among, Option.filter_eq_some_iff, decide_eq_true_eq]

private theorem consumedStands_none : ConsumedStands env codes none :=
  fun _ hc => by cases hc

/-! ### Steps

One lemma for each kind of statement: a query, one with a lock on what it finds, the lock
taken, and the writes at the end.
-/

private theorem verify_eq_some {caller : Caller} {code : String} {work : Work}
    (h : s.verify env twoFactor now caller code = some work) :
    work.locked = [] ∧ work.Holds env s.credential s.codes none := by
  obtain ⟨c, _, h⟩ := Option.bind_eq_some_iff.mp h
  split at h
  · cases h
  · obtain ⟨secret, _, h⟩ := Option.bind_eq_some_iff.mp h
    dsimp only at h
    split at h
    · cases h
      exact ⟨rfl, consumedStands_none⟩
    · cases h
      exact ⟨rfl, trivial⟩

/-- A query that locks nothing takes nothing for granted. -/
private theorem reads_eq_some {work work' : Work}
    (h : s.reads env twoFactor user now work = some (some work')) :
    (∀ row ∈ work'.locked, row ∈ work.locked) ∧
      work'.Holds env s.credential s.codes none := by
  have hverify : ∀ {caller code}, s.verify env twoFactor now caller code = some work' →
      (∀ row ∈ work'.locked, row ∈ work.locked) ∧
        work'.Holds env s.credential s.codes none := by
    intro caller code hcode
    obtain ⟨hlocked, hholds⟩ := verify_eq_some hcode
    exact ⟨fun row hrow => absurd hrow (hlocked ▸ List.not_mem_nil), hholds⟩
  unfold State.reads at h
  split at h
  · split at h
    · cases h
    · split at h
      · cases h
        exact ⟨fun row hrow => absurd hrow List.not_mem_nil, trivial⟩
      · cases h
        exact ⟨fun row hrow => absurd hrow List.not_mem_nil, trivial⟩
  · exact hverify (Option.some.inj h)
  · exact hverify (Option.some.inj h)
  · split at h
    · cases h
    · exact hverify (Option.some.inj h)
  · split at h
    · cases h
    · cases h
      exact ⟨fun row hrow => hrow, trivial⟩
  · cases h

private theorem moves_read (h : s.read env twoFactor user now id = some s') :
    Moves env twoFactor s (.read id) s' := by
  obtain ⟨txn, htxn, h⟩ := Option.bind_eq_some_iff.mp h
  obtain ⟨next, hnext, rfl⟩ := Option.map_eq_some_iff.mp h
  cases next with
  | none => exact .closes rfl
  | some work =>
      obtain ⟨hlocks, hholds⟩ := reads_eq_some hnext
      exact .goesOn htxn rfl (fun row hrow => Or.inl (hlocks row hrow)) (fun _ => hholds)

/-- What a statement has found is all there is to find. -/
private theorem holds_find {work : Work} {found : List Row}
    (h : s.finds env twoFactor work = some found)
    (hholds : work.Holds env s.credential s.codes none) :
    work.Holds env s.credential s.codes (some found) := by
  cases work with
  | replacing cause pk =>
      cases h
      refine ⟨hholds.1, hholds.2.1, ?_⟩
      rintro _ ⟨⟩ code hcode hpk
      exact mem_codeRows.mpr ⟨code, hcode, decide_eq_true hpk, rfl⟩
  | disabling pk consumed disabledAt =>
      cases h
      refine ⟨hholds.1, hholds.2.1, ?_⟩
      rintro _ ⟨⟩ code hcode hunmarked
      exact mem_codeRows.mpr ⟨code, hcode, decide_eq_true hunmarked, rfl⟩
  | _ => exact hholds

private theorem moves_find (h : s.find env twoFactor id = some s') :
    Moves env twoFactor s (.find id) s' := by
  unfold State.find at h
  split at h
  · rename_i work htxn
    obtain ⟨found, hfound, rfl⟩ := Option.map_eq_some_iff.mp h
    exact .goesOn htxn rfl (fun row hrow => Or.inl hrow) (fun hholds => holds_find hfound hholds)
  · cases h

/-- What comes after a statement rests on the rows it has locked. -/
private theorem taken_eq_some {work work' : Work} {found rows : List Row}
    (h : s.taken env twoFactor now rows work = some work')
    (hrows : rows = found.filter fun row => row ∈ (s.finds env twoFactor work).getD []) :
    (∀ row ∈ work'.locked, row ∈ work.locked ∨ row ∈ rows) ∧
      (work.Holds env s.credential s.codes (some found) →
        work'.Holds env s.credential s.codes none) := by
  -- a row locked is one the statement finds still
  have hfinds : ∀ row ∈ rows, row ∈ (s.finds env twoFactor work).getD [] := by
    intro row hrow
    rw [hrows] at hrow
    exact of_decide_eq_true (List.mem_filter.mp hrow).2
  have hnew : ∀ {row : Row}, row ∈ found → row ∈ (s.finds env twoFactor work).getD [] →
      row ∈ rows := by
    intro row hrow hfind
    rw [hrows]
    exact List.mem_filter.mpr ⟨hrow, decide_eq_true hfind⟩
  cases work with
  | begun call =>
      cases call with
      | confirmSetup code =>
          obtain ⟨c, hamong, h⟩ := Option.bind_eq_some_iff.mp h
          obtain ⟨secret, _, h⟩ := Option.bind_eq_some_iff.mp h
          split at h
          · cases h
            obtain ⟨hc, hrow⟩ := among_eq_some.mp hamong
            refine ⟨fun row hlocked => Or.inr ?_, fun _ => ⟨⟨c, hc, rfl, ?_⟩,
              consumedStands_none, fun _ hnone => by cases hnone⟩⟩
            · rw [List.mem_singleton.mp hlocked]
              exact hrow
            · obtain ⟨c', hc', hpending, _⟩ := mem_credentialRow.mp (hfinds _ hrow)
              rw [hc, Option.some.injEq] at hc'
              rw [← hc'] at hpending
              exact Option.isNone_iff_eq_none.mp hpending
          · cases h
      | beginSetup | verify | regenerateCodes | disable => cases h
  | pending pk =>
      cases h
      exact ⟨fun row hlocked => Or.inr hlocked, fun _ => trivial⟩
  | emptied pk deleted =>
      cases h
      exact ⟨fun row hlocked => List.mem_append.mp hlocked, fun _ => trivial⟩
  | verifying caller pk code =>
      simp only [State.taken] at h
      split at h
      · rename_i hrow
        cases h
        refine ⟨fun row hlocked => Or.inr ?_, ?_⟩
        · rw [List.mem_singleton.mp hlocked]
          exact hrow
        · rintro _ _ ⟨⟩
          obtain ⟨row, hmem, hp, hkey⟩ := mem_codeRows.mp (hfinds _ hrow)
          obtain ⟨hpk, hhash, hunused⟩ := of_decide_eq_true hp
          refine ⟨rfl, row, Table.get?_eq_some.mpr ⟨hmem, ?_⟩, hunused⟩
          exact Prod.ext hpk hhash
      · cases h
  | verified caller consumed =>
      cases caller with
      | login => cases h
      | regenerateCodes =>
          obtain ⟨c, hamong, h⟩ := Option.bind_eq_some_iff.mp h
          cases h
          obtain ⟨hc, hrow⟩ := among_eq_some.mp hamong
          refine ⟨fun row hlocked => ?_, fun hholds => ⟨⟨c, hc, rfl, ?_⟩, hholds,
            fun _ hnone => by cases hnone⟩⟩
          · rcases List.mem_cons.mp hlocked with rfl | hlocked
            · exact Or.inr hrow
            · exact Or.inl hlocked
          · obtain ⟨c', hc', hdisabled, _⟩ := mem_credentialRow.mp (hfinds _ hrow)
            rw [hc, Option.some.injEq] at hc'
            rw [← hc'] at hdisabled
            exact Option.isNone_iff_eq_none.mp hdisabled
      | disable =>
          obtain ⟨c, hamong, h⟩ := Option.bind_eq_some_iff.mp h
          cases h
          obtain ⟨hc, hrow⟩ := among_eq_some.mp hamong
          refine ⟨fun row hlocked => ?_, fun hholds => ⟨⟨c, hc, rfl, trivial⟩, hholds,
            fun _ hnone => by cases hnone⟩⟩
          rcases List.mem_cons.mp hlocked with rfl | hlocked
          · exact Or.inr hrow
          · exact Or.inl hlocked
  | replacing cause pk =>
      cases h
      refine ⟨fun row hlocked => ?_, fun hholds => ⟨hholds.1, hholds.2.1, ?_⟩⟩
      · rcases List.mem_cons.mp hlocked with rfl | hlocked
        · exact Or.inl List.mem_cons_self
        · rcases List.mem_append.mp hlocked with hconsumed | hdeleted
          · exact Or.inl (List.mem_cons_of_mem _ hconsumed)
          · exact Or.inr hdeleted
      · intro code hcode hpk
        refine hnew (hholds.2.2 found rfl code hcode hpk) ?_
        exact mem_codeRows.mpr ⟨code, hcode, decide_eq_true hpk, rfl⟩
  | disabling pk consumed disabledAt =>
      cases h
      refine ⟨fun row hlocked => ?_, fun hholds => ⟨hholds.1, hholds.2.1, ?_⟩⟩
      · rcases List.mem_cons.mp hlocked with rfl | hlocked
        · exact Or.inl List.mem_cons_self
        · rcases List.mem_append.mp hlocked with hconsumed | hmarked
          · exact Or.inl (List.mem_cons_of_mem _ hconsumed)
          · exact Or.inr hmarked
      · intro code hcode hunmarked
        refine hnew (hholds.2.2 found rfl code hcode hunmarked) ?_
        exact mem_codeRows.mpr ⟨code, hcode, decide_eq_true hunmarked, rfl⟩
  | cleared | vacant | replaced | disabled => cases h

private theorem moves_take (h : s.take env twoFactor now id = some s') :
    Moves env twoFactor s (.take id) s' := by
  unfold State.take at h
  split at h
  · rename_i work found htxn
    split at h
    · rename_i hfree
      cases h
      cases hnext : s.taken env twoFactor now
          (found.filter fun row => row ∈ (s.finds env twoFactor work).getD []) work with
      | none => exact .closes rfl
      | some work' =>
          obtain ⟨hlocks, hholds⟩ := taken_eq_some hnext rfl
          refine .goesOn htxn rfl (fun row hrow => ?_) hholds
          rcases hlocks row hrow with hold | hrow
          · exact Or.inl hold
          · exact Or.inr (List.all_eq_true.mp hfree row (List.mem_filter.mp hrow).1)
    · cases h
  · cases h

/-- Every code has its credential. -/
private theorem referred_iff :
    (codes.rows.all fun code => credential.any fun c => c.pk = code.credential) = true ↔
      ∀ code ∈ codes, ∃ c, credential = some c ∧ c.pk = code.credential := by
  simp only [List.all_eq_true, Option.any_eq_true, decide_eq_true_eq]
  exact Iff.rfl

private theorem txn_of_work {work : Work} (h : (s.txn? id).map Txn.work = some work) :
    ∃ txn, s.txn? id = some txn ∧ txn.work = work :=
  Option.map_eq_some_iff.mp h

private theorem moves_create {pk : UUID} {secret : String} {nonce : Nat}
    (h : s.create env id pk secret nonce = some s') :
    Moves env twoFactor s (.create id pk secret nonce) s' := by
  unfold State.create at h
  split at h
  · rename_i deleted hwork
    obtain ⟨txn, htxn, hwork⟩ := txn_of_work hwork
    split at h
    · cases h
    · rename_i hfresh
      split at h
      · cases h
        exact .closes rfl
      · rename_i hfree
        cases h
        unfold State.commit
        split
        · rename_i hreferred
          refine .commits htxn ?_ (hwork ▸ .creates ?_ ?_ (env.keyring.decrypt_encrypt _ _ secret))
            (referred_iff.mp hreferred)
          · intro pk
            refine iff_of_false (by intro h; cases h) ?_
            rintro ⟨_, _, hreplaced⟩
            rw [hwork] at hreplaced
            cases hreplaced
          · intro c hc
            by_contra hkept
            rw [hc] at hfree
            exact hfree (by simpa using hkept)
          · intro c hc
            rw [hc] at hfresh
            simpa using hfresh
        · exact .closes rfl
  · cases h

private theorem moves_replace {codes : RecoveryCodes}
    (h : s.replace env twoFactor id codes = some s') :
    Moves env twoFactor s (.replace id codes) s' := by
  unfold State.replace at h
  split at h
  · rename_i cause pk deleted hwork
    have hregenerates : s.regenerates? (.replace id codes) =
        match cause with | .regenerated _ => some pk | .confirmed _ => none := by
      simp only [State.regenerates?, hwork]
      cases cause <;> rfl
    obtain ⟨txn, htxn, hwork⟩ := txn_of_work hwork
    split at h
    · cases h
    · rename_i hfresh
      dsimp only at h
      split at h
      · rename_i hnone
        cases h
        exact .fails htxn hwork fun rows hrows => by rw [hnone] at hrows; cases hrows
      · rename_i rows hrows
        cases h
        unfold State.commit
        split
        · rename_i hreferred
          refine .commits htxn (fun pk' => ?_)
            (hwork ▸ .replaces (by simpa using hfresh) hrows) (referred_iff.mp hreferred)
          rw [hregenerates, hwork]
          cases cause with
          | confirmed confirmedAt => simp
          | regenerated consumed => simp
        · rename_i hdangling
          refine .fails htxn hwork fun rows' hrows' => ?_
          rw [hrows, Option.some.injEq] at hrows'
          rw [← hrows']
          rw [referred_iff] at hdangling
          simpa only [not_forall, exists_prop] using hdangling
  · cases h

private theorem moves_finish (h : s.finish id = some s') :
    Moves env twoFactor s (.finish id) s' := by
  have hcommits : ∀ {txn credential codes consumed}, s.txn? id = some txn →
      (∀ cause pk deleted, txn.work ≠ .replaced cause pk deleted) →
      Commits env twoFactor s txn.work credential codes consumed [] →
      Moves env twoFactor s (.finish id) (s.commit id credential codes consumed []) := by
    intro txn credential codes consumed htxn hother hcommit
    unfold State.commit
    split
    · rename_i hreferred
      refine .commits htxn (fun pk => ?_) hcommit (referred_iff.mp hreferred)
      refine iff_of_false (by intro h; cases h) ?_
      rintro ⟨_, _, hreplaced⟩
      exact hother _ _ _ hreplaced
    · exact .closes rfl
  unfold State.finish at h
  split at h
  · rename_i consumed hwork
    obtain ⟨txn, htxn, hwork⟩ := txn_of_work hwork
    cases h
    exact hcommits htxn (by rw [hwork]; intros; simp) (hwork ▸ .accepts)
  · rename_i pk consumed disabledAt rows markedAt hwork
    obtain ⟨txn, htxn, hwork⟩ := txn_of_work hwork
    cases h
    exact hcommits htxn (by rw [hwork]; intros; simp) (hwork ▸ .disables)
  · cases h

theorem move_cases {e : Event} (h : s.move env twoFactor user now e = some s') :
    Moves env twoFactor s e s' := by
  cases e with
  | begin id call =>
      obtain ⟨txns, hinsert, rfl⟩ := Option.map_eq_some_iff.mp h
      exact .begins hinsert
  | read id => exact moves_read h
  | find id => exact moves_find h
  | take id => exact moves_take h
  | create id pk secret nonce => exact moves_create h
  | replace id codes => exact moves_replace h
  | finish id => exact moves_finish h
  | abort id =>
      obtain ⟨txn, _, rfl⟩ := Option.map_eq_some_iff.mp h
      exact .closes rfl

end TwoFactorRaces

end DjangoFoundation
