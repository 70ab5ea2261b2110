/-
One transaction with nobody beside it.

Its statements, run one after the other at one time, come to the service call.
-/
import DjangoFoundation.Proofs.Tokens.Moves

namespace DjangoFoundation

namespace Tokens

open TokenService

variable {env : Environment} {now : Int} {s s' : State} {id : Nat}

/-- A state with one open transaction, at a time. -/
def State.only (s : State) (t : Int) (id : Nat) (work : Work) : State :=
  { s with clock := t, txns := {⟨id, work⟩} }

section Alone

variable {t : Int} {work work' : Work}

theorem work?_only : (s.only t id work).work? id = some work := by
  have hget : (s.only t id work).txns.get? id = some ⟨id, work⟩ :=
    Table.get?_singleton (⟨id, work⟩ : Txn)
  rw [State.work?, hget]
  rfl

theorem goOn_only : (s.only t id work).goOn id work' = s.only t id work' := by
  have htxns : (s.only t id work).txns.modify id (fun txn => { txn with work := work' })
      (fun _ => rfl) = {⟨id, work'⟩} :=
    Table.modify_singleton (⟨id, work⟩ : Txn) (fun txn => { txn with work := work' }) fun _ => rfl
  rw [State.goOn, htxns]
  rfl

theorem close_only : (s.only t id work).close id = { s with clock := t, txns := ∅ } := by
  have htxns : (s.only t id work).txns.erase id = ∅ := Table.erase_singleton (⟨id, work⟩ : Txn)
  rw [State.close, htxns]
  rfl

theorem free_only {hash : String} : (s.only t id work).free id hash = true :=
  Locks.free_singleton Txn.locked ⟨id, work⟩ hash

theorem unclaimed_only {hash : String} : (s.only t id work).unclaimed id hash = true :=
  Locks.free_singleton Txn.inserting ⟨id, work⟩ hash

theorem begin_only (hidle : s.txns = ∅) (hclock : s.clock ≤ t) (start : Start) :
    step env s (t, .begin id start) = some (s.only t id (start.work t)) := by
  rw [step, if_pos hclock]
  simp only [State.move, hidle, Table.insert?_empty, Option.map_some]
  rfl

theorem step_only {e : Event} : step env (s.only t id work) (t, e) =
    (s.only t id work).move env t e :=
  if_pos (Int.le_refl t)

/-- A confirmation with nobody beside it is the service call. -/
theorem confirm_alone (hidle : s.txns = ∅) (hclock : s.clock ≤ t) {c : Confirmation} {db : Database}
    (h : c.run env t s.db = .ok db) (id : Nat) :
    ∃ s', Run.exec (step env) s [(t, .begin id (.confirm c)), (t, .consume id), (t, .finish id)]
      = some s' ∧ s'.db = db ∧ s'.txns = ∅ := by
  rw [c.run_eq] at h
  obtain ⟨⟨token, db₁⟩, hconsume, hbody⟩ := bind_eq_ok.mp h
  unfold TokenService.consume at hconsume
  split at hconsume
  · cases hconsume
  · rename_i husable
    cases hconsume
    refine ⟨{ s with
      clock := t
      txns := ∅
      db := db
      confirmed := s.confirmed ++ [⟨c.rawToken, c.purpose, token.user, t⟩] }, ?_, rfl, rfl⟩
    have hconsume : (s.only t id (.confirm c)).move env t (.consume id) =
        some (s.only t id (.consumed c token t)) := by
      have hfree : ((s.only t id (.confirm c)).db.oneTimeTokens.get?
          (tokenHash env c.rawToken c.purpose)).any (fun token =>
            token.purpose = c.purpose ∧ (s.only t id (.confirm c)).free id
              (tokenHash env c.rawToken c.purpose) = false) = false := by
        simp [free_only]
      have husable' : usable? env t (s.only t id (.confirm c)).db c.rawToken c.purpose
          = some token := husable
      simp only [State.move, State.consume, work?_only, hfree, husable', goOn_only]
      rfl
    have hfinish : (s.only t id (.consumed c token t)).move env t (.finish id) = some { s with
        clock := t
        txns := ∅
        db := db
        confirmed := s.confirmed ++ [⟨c.rawToken, c.purpose, token.user, t⟩] } := by
      have hbody' : c.body env t token { (s.only t id (.consumed c token t)).db with
          oneTimeTokens := (s.only t id (.consumed c token t)).db.oneTimeTokens.modify
            token.tokenHash fun t' => { t' with usedAt := some t } } = .ok db := hbody
      simp only [State.move, State.finish, work?_only, hbody', close_only]
      rfl
    rw [Run.exec_cons, begin_only hidle hclock, Option.bind_some, Run.exec_cons, step_only]
    rw [show Start.work t (.confirm c) = .confirm c from rfl, hconsume, Option.bind_some,
      Run.exec_cons, step_only, hfinish]
    rfl

/-- The rows an issue would mark, were it alone. -/
def State.outstanding (s : State) (i : Issue) : List String :=
  (s.db.oneTimeTokens.rows.filter i.supersedes).map OneTimeToken.tokenHash

theorem mem_outstanding {i : Issue} {token : OneTimeToken} (h : token ∈ s.db.oneTimeTokens) :
    token.tokenHash ∈ s.outstanding i ↔ i.supersedes token = true :=
  Table.mem_pks_filter (Table.get?_of_mem h) i.supersedes

theorem outstanding_filter {i : Issue} : ((s.outstanding i).filter fun hash =>
    (s.db.oneTimeTokens.get? hash).any i.supersedes) = s.outstanding i := by
  rw [List.filter_eq_self]
  intro hash hhash
  obtain ⟨token, htoken, rfl⟩ := List.mem_map.mp hhash
  obtain ⟨hmem, hsupersedes⟩ := List.mem_filter.mp htoken
  have hget : s.db.oneTimeTokens.get? token.tokenHash = some token := Table.get?_of_mem hmem
  rw [hget, Option.any_some, hsupersedes]

theorem find_only {i : Issue} : (s.only t id (.issue t i)).move env t (.find id) =
    some (s.only t id (.superseding t i (s.outstanding i))) := by
  simp only [State.move, State.superseding, work?_only, goOn_only]
  rfl

theorem supersede_only {i : Issue} :
    (s.only t id (.superseding t i (s.outstanding i))).move env t (.supersede id) =
      some (s.only t id (.superseded t i (s.outstanding i))) := by
  have hall : (s.outstanding i).all
      ((s.only t id (.superseding t i (s.outstanding i))).free id) = true :=
    List.all_eq_true.mpr fun _ _ => free_only
  simp only [State.move, State.supersede, work?_only, hall, goOn_only, if_true]
  rw [show (s.only t id (.superseding t i (s.outstanding i))).db = s.db from rfl,
    outstanding_filter]

theorem insert_only {i : Issue} {raw : String} {marked : List String}
    (hnew : s.db.oneTimeTokens.get? (i.token env t t raw).tokenHash = none) :
    (s.only t id (.superseded t i marked)).move env t (.insert id raw) =
      some (s.only t id (.inserted t i marked raw (i.token env t t raw))) := by
  have hnew' : (s.only t id (.superseded t i marked)).db.oneTimeTokens.get?
      (i.token env t t raw).tokenHash = none := hnew
  simp only [State.move, State.insert, work?_only, unclaimed_only, hnew', goOn_only]
  rfl

/-- An issue with nobody beside it is `TokenService.issue`. -/
theorem issue_alone (hidle : s.txns = ∅) (hclock : s.clock ≤ t) {i : Issue} {raw : String}
    {db : Database}
    (h : TokenService.issue env t s.db i.user i.purpose i.ttl i.metadata raw = .ok db)
    (id : Nat) :
    ∃ s', Run.exec (step env) s [(t, .begin id (.issue i)), (t, .find id), (t, .supersede id),
        (t, .insert id raw), (t, .finish id)] = some s' ∧ s'.db = db ∧ s'.txns = ∅ := by
  unfold TokenService.issue at h
  dsimp only at h
  split at h
  · rename_i tokens hinsert
    cases h
    have hupdate : s.db.oneTimeTokens.update (fun token => token.tokenHash ∈ s.outstanding i)
          (fun token => { token with usedAt := some t }) (fun _ => rfl) =
        s.db.oneTimeTokens.update (fun token => token.user = i.user ∧ token.purpose = i.purpose ∧
          token.usedAt = none) (fun token => { token with usedAt := some t }) (fun _ => rfl) := by
      refine Table.update_congr fun token htoken => ?_
      rw [Bool.eq_iff_iff, decide_eq_true_iff, mem_outstanding htoken]
      exact Iff.rfl
    have hnew : s.db.oneTimeTokens.get? (i.token env t t raw).tokenHash = none := by
      refine Table.get?_eq_none.mpr fun token htoken heq => ?_
      refine (Table.insert?_eq_some hinsert).1 _ (Table.mem_update.mpr ⟨token, htoken, rfl⟩) ?_
      split <;> exact heq
    let s' : State := { s with
      clock := t
      txns := ∅
      db := { s.db with oneTimeTokens := tokens }
      issued := s.issued ++ [⟨raw, i.user, i.purpose, (i.token env t t raw).expiresAt⟩] }
    have hfinish : (s.only t id (.inserted t i (s.outstanding i) raw (i.token env t t raw))).move
        env t (.finish id) = some s' := by
      have hinsert' : ((s.only t id (.inserted t i (s.outstanding i) raw
          (i.token env t t raw))).db.oneTimeTokens.update
            (fun token => token.tokenHash ∈ s.outstanding i)
            (fun token => { token with usedAt := some t }) (fun _ => rfl)).insert?
          (i.token env t t raw) = some tokens := by
        rw [show (s.only t id (.inserted t i (s.outstanding i) raw (i.token env t t raw))).db = s.db
          from rfl, hupdate]
        exact hinsert
      simp only [State.move, State.finish, work?_only, hinsert', close_only]
      rfl
    refine ⟨s', ?_, rfl, rfl⟩
    rw [Run.exec_cons, begin_only hidle hclock, Option.bind_some, Run.exec_cons, step_only,
      show Start.work t (.issue i) = .issue t i from rfl, find_only, Option.bind_some,
      Run.exec_cons, step_only, supersede_only, Option.bind_some, Run.exec_cons, step_only,
      insert_only hnew, Option.bind_some, Run.exec_cons, step_only, hfinish]
    rfl
  · cases h

end Alone

end Tokens

end DjangoFoundation
