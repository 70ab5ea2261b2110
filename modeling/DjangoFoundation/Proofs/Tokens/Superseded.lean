/-
What an issue leaves unused.

An issue marks the unused tokens its `UPDATE` finds, and locks no more than those.  A token
another issue commits between the two statements is not among them: both are unused after.
-/
import DjangoFoundation.Proofs.Tokens.Once

namespace DjangoFoundation

namespace Tokens

open TokenService

variable {env : Environment} {now : Int} {s s' : State} {id : Nat}

/-- The issue for a user and a purpose that committed last. -/
def State.lastIssued? (s : State) (user : UUID) (purpose : TokenPurpose) : Option Issued :=
  (s.issued.filter fun i => i.user = user ∧ i.purpose = purpose).getLast?

/-- A user has one unused token of a purpose at most, that of the last issue to commit. -/
structure Superseded (env : Environment) (s : State) : Prop where
  one : ∀ t ∈ s.db.oneTimeTokens, ∀ t' ∈ s.db.oneTimeTokens, t.usedAt = none → t'.usedAt = none →
    t.user = t'.user → t.purpose = t'.purpose → t = t'
  last : ∀ t ∈ s.db.oneTimeTokens, t.usedAt = none →
    ∃ i, s.lastIssued? t.user t.purpose = some i ∧ i.Names env t

/-- An issue that commits has marked every unused token of its pair. -/
def SeesAll (s : State) (e : Int × Event) (_ : State) : Prop := s.missed e.2 = []

instance (s : State) (e : Int × Event) (s' : State) : Decidable (SeesAll s e s') :=
  inferInstanceAs (Decidable (s.missed e.2 = []))

theorem superseded_of_last (h : ∀ t ∈ s.db.oneTimeTokens, t.usedAt = none →
    ∃ i, s.lastIssued? t.user t.purpose = some i ∧ i.Names env t) : Superseded env s := by
  refine ⟨fun t ht t' ht' hunused hunused' huser hpurpose => ?_, h⟩
  obtain ⟨i, hi, hnames⟩ := h t ht hunused
  obtain ⟨i', hi', hnames'⟩ := h t' ht' hunused'
  rw [← huser, ← hpurpose, hi, Option.some.injEq] at hi'
  rw [← hi'] at hnames'
  exact Table.eq_of_pk_eq ht ht' (hnames.tokenHash.symm.trans hnames'.tokenHash)

theorem lastIssued?_append (i : Issued) (user : UUID) (purpose : TokenPurpose) :
    ({ s with issued := s.issued ++ [i] } : State).lastIssued? user purpose =
      if i.user = user ∧ i.purpose = purpose then some i else s.lastIssued? user purpose := by
  simp only [State.lastIssued?, List.filter_append]
  split
  · rename_i hpair
    simp [hpair]
  · rename_i hpair
    simp [hpair]

section Commit

variable {began : Int} {issue : Issue} {marked : List String} {raw : String} {token : OneTimeToken}

theorem mem_missed (h : s.work? id = some (.inserted began issue marked raw token))
    {t : OneTimeToken} : t ∈ s.missed (.finish id) ↔
      t ∈ s.db.oneTimeTokens ∧ issue.supersedes t = true ∧ t.tokenHash ∉ marked := by
  rw [State.missed, h, List.mem_filter, decide_eq_true_iff]
  exact Iff.rfl

theorem supersedes_iff {t : OneTimeToken} : issue.supersedes t = true ↔
    t.user = issue.user ∧ t.purpose = issue.purpose ∧ t.usedAt = none :=
  decide_eq_true_iff

/-- **The commit of an issue.** -/
theorem superseded_issues_iff {tokens : Table OneTimeToken} (hinv : Inv env s)
    (hbefore : Superseded env s) (h : s.work? id = some (.inserted began issue marked raw token))
    (hinsert : (s.db.oneTimeTokens.update (fun t => t.tokenHash ∈ marked)
      fun t => { t with usedAt := some began }).insert? token = some tokens) :
    Superseded env { s.close id with
        db := { s.db with oneTimeTokens := tokens }
        issued := s.issued ++ [⟨raw, issue.user, issue.purpose, token.expiresAt⟩] } ↔
      s.missed (.finish id) = [] := by
  obtain ⟨txn, htxn, _, hwork⟩ := work?_eq_some.mp h
  have hcommit := commits_issue hinsert
  have hholds := hinv.holds txn htxn
  rw [hwork] at hholds
  obtain ⟨hnew, now, htoken⟩ := hholds
  constructor
  · intro hafter
    rw [List.eq_nil_iff_forall_not_mem]
    intro t ht
    obtain ⟨hmem, hsupersedes, hunmarked⟩ := (mem_missed h).mp ht
    obtain ⟨huser, hpurpose, hunused⟩ := supersedes_iff.mp hsupersedes
    have hstill := hcommit.old t.tokenHash t (Table.get?_of_mem hmem)
    rw [if_neg hunmarked] at hstill
    -- it would be beside the token just issued
    have hsame : t = token := by
      refine hafter.one t (Table.mem_of_get? hstill) token ?_ hunused ?_ ?_ ?_
      · exact (Table.mem_insert? hinsert).mpr (Or.inr rfl)
      · rw [htoken]
        rfl
      · rw [htoken]
        exact huser
      · rw [htoken]
        exact hpurpose
    rw [hsame] at hmem
    exact Table.get?_eq_none.mp hnew token hmem rfl
  · intro hmissed
    refine superseded_of_last fun t ht hunused => ?_
    have hlast := @lastIssued?_append (s.close id)
      ⟨raw, issue.user, issue.purpose, token.expiresAt⟩ t.user t.purpose
    rcases hcommit.rows t ht with hin | ⟨old, hold, heq⟩
    · have ht' : t = token := List.mem_singleton.mp hin
      have hnames : (⟨raw, issue.user, issue.purpose, token.expiresAt⟩ : Issued).Names env t := by
        rw [ht', htoken]
        exact ⟨rfl, rfl, rfl, rfl⟩
      refine ⟨_, ?_, hnames⟩
      rw [if_pos ⟨hnames.user, hnames.purpose⟩] at hlast
      exact hlast
    · by_cases hmarked : old.tokenHash ∈ marked
      · rw [if_pos hmarked] at heq
        rw [heq] at hunused
        cases hunused
      · rw [if_neg hmarked] at heq
        subst heq
        have hother : ¬(issue.user = t.user ∧ issue.purpose = t.purpose) := by
          intro hpair
          have hin : t ∈ s.missed (.finish id) :=
            (mem_missed h).mpr ⟨hold, supersedes_iff.mpr ⟨hpair.1.symm, hpair.2.symm, hunused⟩,
              hmarked⟩
          rw [hmissed] at hin
          cases hin
        obtain ⟨i, hi, hnames⟩ := hbefore.last t hold hunused
        rw [if_neg hother] at hlast
        exact ⟨i, hlast.trans hi, hnames⟩

end Commit

/-- What a confirmation leaves unused was unused before it. -/
theorem superseded_confirms {c : Confirmation} {token : OneTimeToken} {consumedAt : Int}
    {db : Database} {confirmed : List Confirmed} (hbefore : Superseded env s)
    (hbody : c.body env now token { s.db with
      oneTimeTokens := s.db.oneTimeTokens.modify token.tokenHash
        fun t => { t with usedAt := some consumedAt } } = .ok db) :
    Superseded env { s.close id with db := db, confirmed := confirmed } := by
  have hcommit : Commits [token.tokenHash] consumedAt [] s.db.oneTimeTokens db.oneTimeTokens := by
    rw [(body_actsFor hbody).oneTimeTokens]
    exact commits_confirm consumedAt
  refine superseded_of_last fun t ht hunused => ?_
  rcases hcommit.rows t ht with hin | ⟨old, hold, heq⟩
  · cases hin
  · split at heq
    · rw [heq] at hunused
      cases hunused
    · subst heq
      exact hbefore.last t hold hunused

/-- **One step.**  It keeps the tokens superseded exactly where no issue commits beside an
unused token it has not marked. -/
theorem superseded_moves_iff {e : Event} (hinv : Inv env s) (hbefore : Superseded env s)
    (h : Moves env now s e s') : Superseded env s' ↔ s.missed e = [] := by
  cases h with
  | begins hinsert => exact iff_of_true ⟨hbefore.one, hbefore.last⟩ rfl
  | goesOn _ _ _ _ hmissed => exact iff_of_true ⟨hbefore.one, hbefore.last⟩ hmissed
  | closes hmissed => exact iff_of_true ⟨hbefore.one, hbefore.last⟩ hmissed
  | clashes hwork hinsert =>
      obtain ⟨txn, htxn, _, heq⟩ := work?_eq_some.mp hwork
      have hholds := hinv.holds txn htxn
      rw [heq] at hholds
      obtain ⟨clash, hclash⟩ := Table.exists_of_insert?_eq_none hinsert
      rw [Table.get?_update] at hclash
      have hnone := hholds.1
      rw [show Keyed.pk _ = OneTimeToken.tokenHash _ from rfl, hnone] at hclash
      cases hclash
  | issues hwork hinsert => exact superseded_issues_iff hinv hbefore hwork hinsert
  | confirms hwork hbody =>
      refine iff_of_true (superseded_confirms hbefore hbody) ?_
      rw [State.missed, hwork]

/-- **Issuing supersedes**, in every state of a run, exactly where each issue that commits has
marked every unused token of its pair. -/
theorem issues_supersede_iff {db : Database} (h : db.oneTimeTokens = ∅) (es : List (Int × Event)) :
    Run.Always (step env) (Superseded env) { db := db } es ↔
      Run.Steps (step env) SeesAll { db := db } es := by
  have hinit : Superseded env { db := db } := by
    refine superseded_of_last fun t ht _ => ?_
    rw [h] at ht
    exact absurd ht (Table.not_mem_empty t)
  have hiff : ∀ s e s', Inv env s ∧ Superseded env s → step env s e = some s' →
      (Superseded env s' ↔ SeesAll s e s') := by
    intro s e s' hs he
    have hmoves := superseded_moves_iff (hs.1.tick e.1) ⟨hs.2.one, hs.2.last⟩ (step_moves he)
    exact hmoves
  have hkeep : ∀ s e s', Inv env s ∧ Superseded env s → step env s e = some s' →
      Superseded env s' → Inv env s' ∧ Superseded env s' :=
    fun s e s' hs he hafter => ⟨hs.1.step he, hafter⟩
  have hsteps := Run.steps_iff_of_inv hiff hkeep ⟨Inv.init h, hinit⟩ es
  constructor
  · intro halways
    exact hsteps.mp halways.2
  · intro hsees
    exact ⟨hinit, hsteps.mpr hsees⟩

/-- Two password resets asked for one after the other. -/
def resetsInTurn : List (Int × Event) :=
  [(0, .begin 1 (.issue { user := 1, purpose := .passwordReset, ttl := 100 })), (0, .find 1),
    (1, .supersede 1), (2, .insert 1 "first"), (3, .finish 1),
    (4, .begin 2 (.issue { user := 1, purpose := .passwordReset, ttl := 100 })), (4, .find 2),
    (5, .supersede 2), (6, .insert 2 "second"), (7, .finish 2)]

theorem issues_supersede_iff_reset :
    (Run.exec (step .plain) { db := { users := {ada} } } resetsInTurn).isSome = true ∧
      Run.Always (step .plain) (Superseded .plain) { db := { users := {ada} } } resetsInTurn :=
  ⟨by decide, (issues_supersede_iff rfl resetsInTurn).mpr (by decide)⟩

/-- Two password resets asked for at once. -/
def resetsAtOnce : List (Int × Event) :=
  [(0, .begin 1 (.issue { user := 1, purpose := .passwordReset, ttl := 100 })),
    (0, .begin 2 (.issue { user := 1, purpose := .passwordReset, ttl := 100 })),
    (1, .find 1), (1, .find 2), (2, .supersede 1), (2, .supersede 2),
    (3, .insert 1 "first"), (3, .insert 2 "second"), (4, .finish 1), (5, .finish 2)]

/-- Both leave a token that can be used. -/
theorem resets_at_once_both_stand :
    ∃ s, Run.exec (step .plain) { db := { users := {ada} } } resetsAtOnce = some s ∧
      s.txns.rows = [] ∧
      ∃ t ∈ s.db.oneTimeTokens.rows, ∃ t' ∈ s.db.oneTimeTokens.rows, t ≠ t' ∧
        t.user = t'.user ∧ t.purpose = t'.purpose ∧ t.usedAt = none ∧ t'.usedAt = none := by
  have h : (Run.exec (step .plain) { db := { users := {ada} } } resetsAtOnce).any (fun s =>
      s.txns.rows = [] ∧ ∃ t ∈ s.db.oneTimeTokens.rows, ∃ t' ∈ s.db.oneTimeTokens.rows, t ≠ t' ∧
        t.user = t'.user ∧ t.purpose = t'.purpose ∧ t.usedAt = none ∧ t'.usedAt = none) = true := by
    decide
  obtain ⟨s, hs, hboth⟩ := (Option.any_eq_true _ _).mp h
  exact ⟨s, hs, of_decide_eq_true hboth⟩

end Tokens

end DjangoFoundation
