/-
A call of `idempotent()` that runs alone.

`idempotent` is the decorator without interleaving.  It is a run of the system of calls all
the same (`exec_of_idempotent`): the call arrives where no other is open, and takes its steps
one after the other.  What else is said here is how its result comes about
(`idempotent_ok`), and that it does not look at what its method works on.
-/
import DjangoFoundation.Proofs.Idempotency

namespace DjangoFoundation.Idempotency

variable {J D : Type} {keyring : Keyring} {ttl now : Int} {request : Request} {pk : UUID}
  {method : D → Except Exception (Response J × D)} {records records' : Table (IdempotencyRecord J)}
  {db db' : D} {outcome : Outcome J}

/-! ### What a result comes from

A call that returns has been replayed, or it has run its method and stored the response, or it
had no key to begin with.  `Ends` has a case for each, with what the database was in between.
-/

/-- How a call comes to an end without an exception. -/
inductive Ends (keyring : Keyring) (ttl now : Int) (request : Request) (pk : UUID)
    (method : D → Except Exception (Response J × D)) (records : Table (IdempotencyRecord J))
    (db : D) : Outcome J → Table (IdempotencyRecord J) → D → Prop
  | unguarded {response db'} (hkey : request.idempotencyKey = "")
      (hmethod : method db = .ok (response, db')) :
      Ends keyring ttl now request pk method records db (.unguarded response) records db'
  | replayed {response user record} (hopening : opening (J := J) (W := D) request = .ok .lookup)
      (huser : request.user = some user)
      (hrecord : record? records user (request.keyHash keyring) = some record)
      (hanswer : answer keyring request record = .replayed response) :
      Ends keyring ttl now request pk method records db (.replayed response) records db
  | executed {response user opened db'} (hopening : opening (J := J) (W := D) request = .ok .lookup)
      (huser : request.user = some user)
      (hrecord : record? records user (request.keyHash keyring) = none)
      (hinsert : records.insert? (request.record keyring ttl now user pk) = some opened)
      (hmethod : method db = .ok (response, db')) (hdata : response.data.isSome) :
      Ends keyring ttl now request pk method records db (.executed response)
        (opened.modify pk (IdempotencyRecord.answered response) (answered_pk response)) db'

theorem opening_lookup {W : Type} (h : opening (J := J) (W := W) request = .ok .lookup) :
    request.idempotencyKey ≠ "" ∧ ¬request.idempotencyKey.length > 255 := by
  unfold opening at h
  split at h
  · cases h
  · rename_i hkey
    split at h
    · cases h
    · split at h
      · cases h
      · rename_i hlength
        exact ⟨hkey, hlength⟩

theorem answer_cases (keyring : Keyring) (request : Request) (record : IdempotencyRecord J) :
    (∃ exception, answer keyring request record = .refused exception) ∨
      ∃ response, answer keyring request record = .replayed response := by
  unfold answer
  split
  · exact Or.inl ⟨_, rfl⟩
  · split
    · exact Or.inl ⟨_, rfl⟩
    · exact Or.inr ⟨_, rfl⟩

theorem idempotent_ok (h : idempotent keyring ttl now request pk method records db =
    .ok (outcome, records', db')) :
    Ends keyring ttl now request pk method records db outcome records' db' := by
  unfold idempotent at h
  split at h
  · rename_i hkey
    obtain ⟨⟨response, made⟩, hmethod, h⟩ := bind_eq_ok.mp h
    cases h
    exact .unguarded hkey hmethod
  · rename_i hkey
    split at h
    · cases h
    · rename_i user huser
      split at h
      · cases h
      · rename_i hlength
        have hopening : opening (J := J) (W := D) request = .ok .lookup := by
          simp [opening, hkey, huser, hlength]
        split at h
        · rename_i record hrecord
          rcases answer_cases keyring request record with ⟨exception, hanswer⟩ | ⟨response, hanswer⟩
          · rw [hanswer] at h
            cases h
          · rw [hanswer] at h
            cases h
            exact .replayed hopening huser hrecord hanswer
        · rename_i hrecord
          split at h
          · cases h
          · rename_i opened hinsert
            obtain ⟨⟨response, made⟩, hmethod, h⟩ := bind_eq_ok.mp h
            dsimp only at h
            split at h
            · cases h
            · rename_i hdata
              cases h
              exact .executed hopening huser hrecord hinsert hmethod
                (Option.isSome_iff_ne_none.mpr (by simpa using hdata))

theorem idempotent_of_ends (h : Ends keyring ttl now request pk method records db outcome records'
    db') :
    idempotent keyring ttl now request pk method records db = .ok (outcome, records', db') := by
  unfold idempotent
  cases h with
  | unguarded hkey hmethod =>
      rw [if_pos hkey, hmethod]
      rfl
  | replayed hopening huser hrecord hanswer =>
      obtain ⟨hkey, hlength⟩ := opening_lookup hopening
      rw [if_neg hkey, huser]
      dsimp only
      rw [if_neg hlength, hrecord]
      dsimp only
      rw [hanswer]
      rfl
  | executed hopening huser hrecord hinsert hmethod hdata =>
      obtain ⟨hkey, hlength⟩ := opening_lookup hopening
      rw [if_neg hkey, huser]
      dsimp only
      rw [if_neg hlength, hrecord]
      dsimp only
      rw [hinsert]
      dsimp only
      rw [hmethod]
      show (if Option.isNone _ = true then _ else _) = _
      rw [if_neg (by simpa [Option.isSome_iff_ne_none] using hdata)]
      rfl

/-- A method that does to `f db` what it does to `db` does so inside the decorator too. -/
theorem idempotent_map {f : D → D} {method' : D → Except Exception (Response J × D)}
    (h : method' (f db) = (method db).map fun made => (made.1, f made.2)) :
    idempotent keyring ttl now request pk method' records (f db) =
      (idempotent keyring ttl now request pk method records db).map fun ended =>
        (ended.1, ended.2.1, f ended.2.2) := by
  unfold idempotent
  rw [h]
  split
  · cases method db with
    | error exception => rfl
    | ok made => rfl
  · split
    · rfl
    · split
      · rfl
      · split
        · rename_i record _
          rcases answer_cases keyring request record with ⟨exception, hanswer⟩ | ⟨response, hanswer⟩
          · rw [hanswer]
            rfl
          · rw [hanswer]
            rfl
        · split
          · rfl
          · cases method db with
            | error exception => rfl
            | ok made =>
                obtain ⟨⟨statusCode, data⟩, made⟩ := made
                cases data with
                | none => rfl
                | some data => rfl

/-! ### One run of the system

With no other call open no insert has to wait and no record can come in between, so the steps
of the system are those of the decorator.  This is what ties the theorems about one call alone
to those about all interleavings.
-/

section Alone

variable {s : State J D} {call : UUID}

/-- Nothing is open but one call. -/
private def serving (s : State J D) (call : UUID) (request : Request) (phase : Phase J D) :
    State J D :=
  { s with calls := {⟨call, request, phase⟩} }

private theorem arriveCall_alone {phase : Phase J D} (hcalls : s.calls = ∅)
    (hnew : s.finished.get? call = none) (hopening : opening request = .ok phase) :
    arriveCall s call request = some (serving s call request phase) := by
  have hcall : s.calls.get? call = none := by
    rw [hcalls]
    rfl
  unfold arriveCall
  rw [hnew, hcall, hopening, hcalls]
  rfl

private theorem get?_serving (phase : Phase J D) :
    (serving s call request phase).calls.get? call = some ⟨call, request, phase⟩ :=
  Table.get?_singleton (⟨call, request, phase⟩ : Call J D)

private theorem proceed_serving (phase phase' : Phase J D) :
    (serving s call request phase).proceed call phase' = serving s call request phase' :=
  congrArg (fun calls => { s with calls := calls })
    (Table.modify_singleton (⟨call, request, phase⟩ : Call J D) _ _)

private theorem step_lookup {user : UUID} (huser : request.user = some user) :
    step keyring ttl (serving s call request .lookup) (.lookup call) =
      lookupCall keyring (serving s call request .lookup) ⟨call, request, .lookup⟩ user := by
  simp only [step, get?_serving, bind, Option.bind_some, huser]

private theorem step_lookup_found {user : UUID} {record : IdempotencyRecord J}
    (huser : request.user = some user)
    (hrecord : record? s.records user (request.keyHash keyring) = some record) :
    step keyring ttl (serving s call request .lookup) (.lookup call) =
      (serving s call request .lookup).finish ⟨call, request, .lookup⟩
        (answer keyring request record) := by
  rw [step_lookup huser, lookupCall]
  dsimp only [serving]
  rw [hrecord]

private theorem step_lookup_none {user : UUID} (huser : request.user = some user)
    (hrecord : record? s.records user (request.keyHash keyring) = none) :
    step keyring ttl (serving s call request .lookup) (.lookup call) =
      some (serving s call request .insert) := by
  rw [step_lookup huser, lookupCall]
  dsimp only [serving]
  rw [hrecord]
  exact congrArg some (proceed_serving _ _)

/-- Nobody else holds a record, so the insert does not wait. -/
private theorem step_insert {user : UUID} (huser : request.user = some user)
    (hrecord : record? s.records user (request.keyHash keyring) = none) :
    step keyring ttl (serving s call request .insert) (.insert call pk now) =
      some (serving s call request (.method (request.record keyring ttl now user pk))) := by
  have hblocked : (serving s call request .insert).blocked user (request.keyHash keyring) =
      false := rfl
  have hfree : record? (serving s call request .insert).records user
      (request.keyHash keyring) = none := hrecord
  simp only [step, get?_serving, bind, Option.bind_some, huser, insertCall, hblocked, hfree,
    Option.isSome_none, Bool.false_eq_true, if_false]
  exact congrArg some (proceed_serving _ _)

private theorem step_method {record : IdempotencyRecord J} {response : Response J}
    (hdata : response.data.isSome) (writes : List D) :
    step keyring ttl (serving s call request (.method record))
        (.method call (.returned response writes)) =
      some (serving s call request (.save record response writes)) := by
  obtain ⟨data, hdata⟩ := Option.isSome_iff_exists.mp hdata
  simp only [step, get?_serving, bind, Option.bind_some, methodCall, hdata]
  exact congrArg some (proceed_serving _ _)

/-- The states a call that was alone leaves. -/
structure Served (s : State J D) (call : UUID) (request : Request) (outcome : Outcome J)
    (records : Table (IdempotencyRecord J)) (s' : State J D) : Prop where
  records : s'.records = records
  finished : s'.finished.get? call = some ⟨call, request, outcome⟩
  calls : s'.calls = ∅

private theorem served_finish (request : Request) (phase : Phase J D)
    (hnew : s.finished.get? call = none) (outcome : Outcome J) :
    ∃ s', (serving s call request phase).finish ⟨call, request, phase⟩ outcome = some s' ∧
      Served s call request outcome s.records s' := by
  obtain ⟨finished, hins⟩ := Table.exists_insert?
    (t := s.finished) (a := ⟨call, request, outcome⟩) (Table.get?_eq_none.mp hnew)
  refine ⟨_, congrArg (Option.bind · _) hins, rfl, Table.get?_insert?_self hins, ?_⟩
  exact Table.erase_singleton (⟨call, request, phase⟩ : Call J D)

/-- **The decorator alone is a run of its system.** -/
theorem exec_of_idempotent (hcalls : s.calls = ∅) (hnew : s.finished.get? call = none)
    (h : idempotent keyring ttl now request pk method s.records db =
      .ok (outcome, records', db')) :
    ∃ es s', Run.exec (step keyring ttl) s es = some s' ∧
      Served s call request outcome records' s' := by
  have harrive : ∀ phase, opening request = .ok phase →
      step keyring ttl s (.arrive call request) = some (serving s call request phase) :=
    fun phase => arriveCall_alone hcalls hnew
  cases idempotent_ok h with
  | @unguarded response _ hkey hmethod =>
      have hopening : opening (J := J) (W := D) request = .ok .unguarded := by
        simp [opening, hkey]
      let written : State J D := { s with writes := s.writes ++ [Batch.mk call [db']] }
      have hwritten : written.finished.get? call = none := hnew
      obtain ⟨s', hs', hserved⟩ := served_finish request .unguarded hwritten (.unguarded response)
      refine ⟨[.arrive call request, .method call (.returned response [db'])], s', ?_, ?_⟩
      · rw [Run.exec_cons, harrive _ hopening, Option.bind_some, Run.exec_cons, step,
          get?_serving]
        exact (congrArg (Option.bind · some) hs').trans rfl
      · exact ⟨hserved.records, hserved.finished, hserved.calls⟩
  | @replayed response user record hopening huser hrecord hanswer =>
      obtain ⟨s', hs', hserved⟩ := served_finish request .lookup hnew (.replayed response)
      have hlookup : step keyring ttl (serving s call request .lookup) (.lookup call) =
          some s' := by
        rw [step_lookup_found huser hrecord, hanswer]
        exact hs'
      refine ⟨[.arrive call request, .lookup call], s', ?_, hserved⟩
      simp only [Run.exec_cons, harrive _ hopening, Option.bind_some, hlookup, Run.exec_nil]
  | @executed response user opened _ hopening huser hrecord hinsert hmethod hdata =>
      let record : IdempotencyRecord J := request.record keyring ttl now user pk
      have hinserted : step keyring ttl (serving s call request .insert) (.insert call pk now) =
          some (serving s call request (.method record)) := step_insert huser hrecord
      have hanswered : s.records.insert? (record.answered response) =
          some (opened.modify pk (IdempotencyRecord.answered response) (answered_pk response)) := by
        rw [Table.insert?_rewritten _ _ (answered_pk response), hinsert]
        rfl
      let committed : State J D := { s with
        records := opened.modify pk (IdempotencyRecord.answered response) (answered_pk response)
        writes := s.writes ++ [Batch.mk call [db']]
        commits := s.commits ++
          [Commit.mk call request (record.answered response) response [db']] }
      have hcommitted : committed.finished.get? call = none := hnew
      obtain ⟨s', hs', hserved⟩ := served_finish request (.save record response [db']) hcommitted
        (.executed response)
      have hsaved : step keyring ttl (serving s call request (.save record response [db']))
          (.save call) = some s' := by
        simp only [step, get?_serving, bind, Option.bind_some]
        exact (congrArg (Option.bind · _) hanswered).trans hs'
      refine ⟨[.arrive call request, .lookup call, .insert call pk now,
        .method call (.returned response [db']), .save call], s', ?_, ?_⟩
      · simp only [Run.exec_cons, harrive _ hopening, Option.bind_some,
          step_lookup_none huser hrecord, hinserted, step_method hdata, hsaved, Run.exec_nil]
      · exact ⟨hserved.records, hserved.finished, hserved.calls⟩

end Alone

end DjangoFoundation.Idempotency
