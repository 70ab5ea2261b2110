/-
At most one committed run for each user and key.

Two facts carry everything: a transaction that holds an uncommitted record is the only
one that does for its user and key (`alone`), and no record is committed for them while
it does (`free`).  The insert establishes both, the unique constraint keeps both, and
the commit turns them into the uniqueness of the committed run.  A replay reads a
committed record, and a committed record is the response of its run.

The insert of a record waits for whoever holds one of the same user and key uncommitted, and
fails if that one commits.  If it rolls back, the waiting insert goes through and its method is
run; so a method may be started more than once, and what happens at most once is that it is
committed.
-/
import DjangoFoundation.Core.Idempotency

namespace DjangoFoundation.Idempotency

variable {J W : Type} {keyring : Keyring} {ttl : Int} {s s' : State J W}

/-- The record is one for this request's user and key. -/
structure IdempotencyRecord.For (record : IdempotencyRecord J) (keyring : Keyring)
    (request : Request) : Prop where
  user : request.user = some record.user
  keyHash : record.keyHash = request.keyHash keyring

/-- Two requests of one user under one key. -/
structure Request.SameKey (a b : Request) : Prop where
  user : a.user = b.user
  key : a.idempotencyKey = b.idempotencyKey

/-- Records of one user under one key hash belong to requests under one key. -/
theorem IdempotencyRecord.For.sameKey {record record' : IdempotencyRecord J} {a b : Request}
    (h : record.For keyring a) (h' : record'.For keyring b) (huser : record.user = record'.user)
    (hkey : record.keyHash = record'.keyHash) : a.SameKey b := by
  refine ⟨?_, ?_⟩
  · rw [h.user, h'.user, huser]
  · rw [h.keyHash, h'.keyHash] at hkey
    exact keyring.keyedHash_injective _ hkey

theorem IdempotencyRecord.For.congr {record : IdempotencyRecord J} {a b : Request}
    (h : record.For keyring a) (hab : a.SameKey b) : record.For keyring b := by
  refine ⟨hab.user ▸ h.user, ?_⟩
  rw [h.keyHash, Request.keyHash, Request.keyHash, hab.key]

/-! ### The steps

Every event is one call going on, and there is not much it can do to the rest: come in, end,
proceed to its next phase, insert a record, or commit one with what its method wrote.  `Move`
lists these, and what follows is proved of moves.
-/

theorem record?_eq_some {records : Table (IdempotencyRecord J)} {user : UUID} {keyHash : String}
    {record : IdempotencyRecord J} (h : record? records user keyHash = some record) :
    record ∈ records ∧ record.user = user ∧ record.keyHash = keyHash := by
  have hp := List.find?_some h
  rw [decide_eq_true_eq] at hp
  exact ⟨List.mem_of_find?_eq_some h, hp⟩

theorem record?_eq_none {records : Table (IdempotencyRecord J)} {user : UUID} {keyHash : String}
    (h : record? records user keyHash = none) {record : IdempotencyRecord J}
    (hmem : record ∈ records) : ¬(record.user = user ∧ record.keyHash = keyHash) := by
  have hp := List.find?_eq_none.mp h record hmem
  rwa [decide_eq_true_eq] at hp

theorem not_blocked {user : UUID} {keyHash : String} (h : s.blocked user keyHash = false)
    {call : Call J W} (hmem : call ∈ s.calls) {record : IdempotencyRecord J}
    (hrec : call.phase.record? = some record) :
    ¬(record.user = user ∧ record.keyHash = keyHash) := by
  intro hsame
  rw [State.blocked, List.any_eq_false] at h
  apply h call hmem
  rw [hrec, Option.any_some, decide_eq_true_eq]
  exact hsame

theorem finish_eq_some {call : Call J W} {outcome : Outcome J}
    (h : s.finish call outcome = some s') :
    ∃ finished, s.finished.insert? ⟨call.pk, call.request, outcome⟩ = some finished ∧
      s' = { s with calls := s.calls.erase call.pk, finished := finished } := by
  simp only [State.finish, Option.bind_eq_bind, Option.bind_eq_some_iff, Option.some.injEq] at h
  obtain ⟨finished, hins, rfl⟩ := h
  exact ⟨finished, hins, rfl⟩

/-- What an outcome that commits nothing says of the committed records. -/
def Outcome.Backed (keyring : Keyring) (s : State J W) (request : Request) : Outcome J → Prop
  | .replayed response => ∃ record ∈ s.records, record.For keyring request ∧
      record.requestHash = request.requestHash keyring ∧
      record.responseStatus = some response.statusCode ∧ record.responseBody = response.data
  | .refused exception => exception.code = "CONFLICT" →
      ∃ record ∈ s.records, record.For keyring request
  | .raised _ => True
  | .lost => True
  | .executed _ => False
  | .unguarded _ => False

/-- The outcomes of a step. -/
inductive Move (keyring : Keyring) (s : State J W) : State J W → Prop
  | arrived {call request phase calls} (hnew : s.finished.get? call = none)
      (hrec : phase.record? = none) (hbare : phase = .unguarded → request.idempotencyKey = "")
      (hins : s.calls.insert? ⟨call, request, phase⟩ = some calls) :
      Move keyring s { s with calls := calls }
  | ended {call : Call J W} {outcome finished}
      (hback : Outcome.Backed keyring s call.request outcome)
      (hins : s.finished.insert? ⟨call.pk, call.request, outcome⟩ = some finished) :
      Move keyring s { s with calls := s.calls.erase call.pk, finished := finished }
  /-- A bare method ends; what it wrote stays. -/
  | bare {call : Call J W} {outcome finished rows} (hcall : call ∈ s.calls)
      (hphase : call.phase = .unguarded) (hexec : ∀ r, outcome ≠ .executed r)
      (hrep : ∀ r, outcome ≠ .replayed r) (href : ∀ e, outcome ≠ .refused e)
      (hins : s.finished.insert? ⟨call.pk, call.request, outcome⟩ = some finished) :
      Move keyring s { s with
        writes := s.writes ++ [Batch.mk call.pk rows]
        calls := s.calls.erase call.pk
        finished := finished }
  | proceeded {call phase} (hcall : call ∈ s.calls) (hrec : phase.record? = call.phase.record?)
      (hbare : phase ≠ .unguarded) : Move keyring s (s.proceed call.pk phase)
  | inserted {call record} (hcall : call ∈ s.calls) (hfor : record.For keyring call.request)
      (hhash : record.requestHash = call.request.requestHash keyring)
      (hblocked : s.blocked record.user record.keyHash = false)
      (hnone : record? s.records record.user record.keyHash = none) :
      Move keyring s (s.proceed call.pk (.method record))
  | saved {call : Call J W} {record response rows records finished} (hcall : call ∈ s.calls)
      (hphase : call.phase = .save record response rows)
      (hrec : s.records.insert? { record with
        responseStatus := some response.statusCode
        responseBody := response.data } = some records)
      (hins : s.finished.insert? ⟨call.pk, call.request, .executed response⟩ = some finished) :
      Move keyring s { s with
        records := records
        writes := s.writes ++ [Batch.mk call.pk rows]
        calls := s.calls.erase call.pk
        finished := finished
        commits := s.commits ++ [Commit.mk call.pk call.request { record with
          responseStatus := some response.statusCode
          responseBody := response.data } response rows] }

private theorem Move.of_finish {call : Call J W} {outcome : Outcome J}
    (h : s.finish call outcome = some s')
    (hback : Outcome.Backed keyring s call.request outcome) : Move keyring s s' := by
  obtain ⟨finished, hins, rfl⟩ := finish_eq_some h
  exact .ended hback hins

private theorem Move.of_arrive {call : UUID} {request : Request}
    (h : arriveCall s call request = some s') : Move keyring s s' := by
  unfold arriveCall at h
  split at h
  · cases h
  rename_i hnew
  rw [not_or, Option.isSome_iff_ne_none, not_not] at hnew
  split at h
  · rename_i exception hopening
    refine Move.of_finish h ?_
    -- neither of the two checks answers with a conflict
    intro hcode
    unfold opening at hopening
    split at hopening
    · cases hopening
    split at hopening
    · cases hopening
      exact absurd hcode (by decide)
    split at hopening
    · cases hopening
      exact absurd hcode (by decide)
    · cases hopening
  · rename_i phase hopening
    simp only [Option.bind_eq_bind, Option.bind_eq_some_iff, Option.some.injEq] at h
    obtain ⟨calls, hins, rfl⟩ := h
    unfold opening at hopening
    split at hopening
    · rename_i hkey
      cases hopening
      exact .arrived hnew.1 rfl (fun _ => hkey) hins
    split at hopening
    · cases hopening
    split at hopening
    · cases hopening
    · cases hopening
      exact .arrived hnew.1 rfl (fun h => by cases h) hins

private theorem backed_answer {request : Request} {user : UUID} {record : IdempotencyRecord J}
    (huser : request.user = some user)
    (h : record? s.records user (request.keyHash keyring) = some record) :
    Outcome.Backed keyring s request (answer keyring request record) := by
  obtain ⟨hmem, hu, hk⟩ := record?_eq_some h
  have hfor : record.For keyring request := ⟨huser.trans (congrArg some hu.symm), hk⟩
  unfold answer
  split
  · exact fun _ => ⟨record, hmem, hfor⟩
  rename_i hhash
  split
  · exact fun _ => ⟨record, hmem, hfor⟩
  · rename_i status hst
    exact ⟨record, hmem, hfor, not_not.mp hhash, hst, rfl⟩

private theorem Move.of_lookupCall {call : Call J W} {user : UUID} (hcall : call ∈ s.calls)
    (hphase : call.phase = .lookup) (huser : call.request.user = some user)
    (h : lookupCall keyring s call user = some s') : Move keyring s s' := by
  unfold lookupCall at h
  split at h
  · rename_i record hrec
    exact .of_finish h (backed_answer huser hrec)
  · cases h
    exact .proceeded hcall (by rw [hphase]; rfl) (fun h => by cases h)

private theorem Move.of_insertCall {call : Call J W} {user record : UUID} {now : Int}
    (hcall : call ∈ s.calls) (huser : call.request.user = some user)
    (h : insertCall keyring ttl s call user record now = some s') : Move keyring s s' := by
  simp only [insertCall] at h
  split at h
  · cases h
  rename_i hblocked
  rw [Bool.not_eq_true] at hblocked
  split at h
  · rename_i hsome
    refine Move.of_finish h fun _ => ?_
    obtain ⟨record, hrec⟩ := Option.isSome_iff_exists.mp hsome
    obtain ⟨hr, hu, hk⟩ := record?_eq_some hrec
    exact ⟨record, hr, huser.trans (congrArg some hu.symm), hk⟩
  · rename_i hnone
    rw [Option.not_isSome_iff_eq_none] at hnone
    cases h
    exact .inserted hcall ⟨huser, rfl⟩ rfl hblocked hnone

private theorem Move.of_methodCall {call : Call J W} {record : IdempotencyRecord J}
    {result : MethodResult J W} (hcall : call ∈ s.calls) (hphase : call.phase = .method record)
    (h : methodCall s call record result = some s') : Move keyring s s' := by
  cases result with
  | raised exception writes => exact .of_finish h trivial
  | returned response writes =>
      simp only [methodCall] at h
      split at h
      · exact .of_finish h trivial
      · cases h
        exact .proceeded hcall (by rw [hphase]; rfl) (fun h => by cases h)

private theorem Move.of_unguardedCall {call : Call J W} {result : MethodResult J W}
    (hcall : call ∈ s.calls) (hphase : call.phase = .unguarded)
    (h : unguardedCall s call result = some s') : Move keyring s s' := by
  cases result with
  | raised exception writes =>
      obtain ⟨finished, hins, rfl⟩ := finish_eq_some h
      exact .bare hcall hphase (fun r h => by cases h) (fun r h => by cases h)
        (fun e h => by cases h) hins
  | returned response writes =>
      obtain ⟨finished, hins, rfl⟩ := finish_eq_some h
      exact .bare hcall hphase (fun r h => by cases h) (fun r h => by cases h)
        (fun e h => by cases h) hins

private theorem Move.of_saveCall {call : Call J W} {record : IdempotencyRecord J}
    {response : Response J} {writes : List W} (hcall : call ∈ s.calls)
    (hphase : call.phase = .save record response writes)
    (h : saveCall s call record response writes = some s') : Move keyring s s' := by
  simp only [saveCall, Option.bind_eq_bind, Option.bind_eq_some_iff] at h
  obtain ⟨records, hrec, h⟩ := h
  obtain ⟨finished, hins, rfl⟩ := finish_eq_some h
  exact .saved hcall hphase hrec hins

/-- **Every step is a move.** -/
theorem Move.of_step {e : Event J W} (h : step keyring ttl s e = some s') :
    Move keyring s s' := by
  cases e with
  | arrive call request => exact .of_arrive h
  | lookup call =>
      simp only [step, Option.bind_eq_bind, Option.bind_eq_some_iff] at h
      obtain ⟨call, hget, user, huser, h⟩ := h
      split at h
      · rename_i hphase
        exact .of_lookupCall (Table.mem_of_get? hget) hphase huser h
      · cases h
  | insert call pk now =>
      simp only [step, Option.bind_eq_bind, Option.bind_eq_some_iff] at h
      obtain ⟨call, hget, user, huser, h⟩ := h
      split at h
      · exact .of_insertCall (Table.mem_of_get? hget) huser h
      · cases h
  | method call result =>
      simp only [step, Option.bind_eq_bind, Option.bind_eq_some_iff] at h
      obtain ⟨call, hget, h⟩ := h
      split at h
      · rename_i record hphase
        exact .of_methodCall (Table.mem_of_get? hget) hphase h
      · rename_i hphase
        exact .of_unguardedCall (Table.mem_of_get? hget) hphase h
      · cases h
  | save call =>
      simp only [step, Option.bind_eq_bind, Option.bind_eq_some_iff] at h
      obtain ⟨call, hget, h⟩ := h
      split at h
      · rename_i record response rows hphase
        exact .of_saveCall (Table.mem_of_get? hget) hphase h
      · cases h
  | lose call =>
      simp only [step, Option.bind_eq_bind, Option.bind_eq_some_iff] at h
      obtain ⟨call, _, h⟩ := h
      exact .of_finish h trivial

/-! ### Records

A call that has its record in but has not committed keeps others of its user and key waiting,
in the insert.  So uncommitted records are alone, and when one is committed there is none of
its user and key yet.  A method that raises takes with it no more than what its call alone
held.
-/

/-- The record of a committed run is one for its request, and stores its response. -/
structure Commit.Faithful (c : Commit J W) (keyring : Keyring) : Prop where
  isFor : c.record.For keyring c.request
  requestHash : c.record.requestHash = c.request.requestHash keyring
  responseStatus : c.record.responseStatus = some c.response.statusCode
  responseBody : c.record.responseBody = c.response.data

/-- The call's transaction holds `record` uncommitted. -/
def State.Holds (s : State J W) (call : Call J W) (record : IdempotencyRecord J) : Prop :=
  call ∈ s.calls ∧ call.phase.record? = some record

/-- Committed records are those of the committed runs, one for each user and key; and an
uncommitted record is alone for its own. -/
structure Exclusive (keyring : Keyring) (s : State J W) : Prop where
  faithful : ∀ c ∈ s.commits, c.record ∈ s.records ∧ c.Faithful keyring
  recorded : ∀ record ∈ s.records, ∃ c ∈ s.commits, c.record = record
  once : s.commits.Pairwise fun a b => ¬a.request.SameKey b.request
  holds : ∀ call record, s.Holds call record →
    record.For keyring call.request ∧ record.requestHash = call.request.requestHash keyring
  free : ∀ call record, s.Holds call record →
    ∀ r ∈ s.records, ¬(r.user = record.user ∧ r.keyHash = record.keyHash)
  alone : ∀ call call' record record', s.Holds call record → s.Holds call' record' →
    record.user = record'.user → record.keyHash = record'.keyHash → call.pk = call'.pk

/-- A step that commits nothing and adds no uncommitted record keeps all of it. -/
private theorem Exclusive.keep (h : Exclusive keyring s) (hrecords : s'.records = s.records)
    (hcommits : s'.commits = s.commits)
    (hholds : ∀ call' record, s'.Holds call' record →
      ∃ call, s.Holds call record ∧ call.pk = call'.pk ∧ call.request = call'.request) :
    Exclusive keyring s' := by
  refine ⟨?_, ?_, ?_, ?_, ?_, ?_⟩
  · rw [hcommits, hrecords]
    exact h.faithful
  · rw [hcommits, hrecords]
    exact h.recorded
  · rw [hcommits]
    exact h.once
  · intro call' record hh
    obtain ⟨call, hh, _, hreq⟩ := hholds call' record hh
    rw [← hreq]
    exact h.holds call record hh
  · intro call' record hh
    obtain ⟨call, hh, _, _⟩ := hholds call' record hh
    rw [hrecords]
    exact h.free call record hh
  · intro a' b' record record' ha hb huser hkey
    obtain ⟨a, ha, hapk, _⟩ := hholds a' record ha
    obtain ⟨b, hb, hbpk, _⟩ := hholds b' record' hb
    rw [← hapk, ← hbpk]
    exact h.alone a b record record' ha hb huser hkey

private theorem holds_of_erase {call call' : Call J W} {record : IdempotencyRecord J}
    {s' : State J W} (hcalls : s'.calls = s.calls.erase call.pk) (h : s'.Holds call' record) :
    s.Holds call' record ∧ call'.pk ≠ call.pk := by
  obtain ⟨hmem, hrec⟩ := h
  rw [hcalls] at hmem
  obtain ⟨hmem, hne⟩ := Table.mem_erase.mp hmem
  exact ⟨⟨hmem, hrec⟩, hne⟩

/-- After a call proceeds, it holds what its new phase holds and the others what they did. -/
private theorem holds_of_proceed {call call' : Call J W} {phase : Phase J W}
    {record : IdempotencyRecord J} (hcall : call ∈ s.calls)
    (h : (s.proceed call.pk phase).Holds call' record) :
    (call'.pk = call.pk ∧ call'.request = call.request ∧ phase.record? = some record) ∨
      (s.Holds call' record ∧ call'.pk ≠ call.pk) := by
  obtain ⟨hmem, hrec⟩ := h
  have hmem : call' ∈ s.calls.modify call.pk fun c => { c with phase := phase } := hmem
  rcases Table.mem_modify.mp hmem with ⟨a, ha, hpk, rfl⟩ | ⟨hmem, hne⟩
  · have heq : a = call := Table.eq_of_pk_eq ha hcall hpk
    subst heq
    exact Or.inl ⟨rfl, rfl, hrec⟩
  · exact Or.inr ⟨⟨hmem, hrec⟩, hne⟩

/-- The insert: nobody holds a conflicting record, and none is committed. -/
private theorem Exclusive.inserted (h : Exclusive keyring s) {call : Call J W}
    {record : IdempotencyRecord J} (hcall : call ∈ s.calls) (hfor : record.For keyring call.request)
    (hhash : record.requestHash = call.request.requestHash keyring)
    (hblocked : s.blocked record.user record.keyHash = false)
    (hnone : record? s.records record.user record.keyHash = none) :
    Exclusive keyring (s.proceed call.pk (.method record)) := by
  have hnew : ∀ call' record', (s.proceed call.pk (.method record)).Holds call' record' →
      (call'.pk = call.pk ∧ call'.request = call.request ∧ record' = record) ∨
        (s.Holds call' record' ∧
          ¬(record'.user = record.user ∧ record'.keyHash = record.keyHash)) := by
    intro call' record' hh
    rcases holds_of_proceed hcall hh with ⟨hpk, hreq, hsome⟩ | ⟨hh, _⟩
    · cases hsome
      exact Or.inl ⟨hpk, hreq, rfl⟩
    · exact Or.inr ⟨hh, not_blocked hblocked hh.1 hh.2⟩
  refine ⟨h.faithful, h.recorded, h.once, ?_, ?_, ?_⟩
  · intro call' record' hh
    rcases hnew call' record' hh with ⟨_, hreq, rfl⟩ | ⟨hh, _⟩
    · rw [hreq]
      exact ⟨hfor, hhash⟩
    · exact h.holds call' record' hh
  · intro call' record' hh
    rcases hnew call' record' hh with ⟨_, _, rfl⟩ | ⟨hh, _⟩
    · exact fun r hr => record?_eq_none hnone hr
    · exact h.free call' record' hh
  · intro a b ra rb ha hb huser hkey
    rcases hnew a ra ha with ⟨hpka, _, rfl⟩ | ⟨ha, hna⟩ <;>
      rcases hnew b rb hb with ⟨hpkb, _, rfl⟩ | ⟨hb, hnb⟩
    · rw [hpka, hpkb]
    · exact absurd ⟨huser.symm, hkey.symm⟩ hnb
    · exact absurd ⟨huser, hkey⟩ hna
    · exact h.alone a b ra rb ha hb huser hkey

/-- The commit: the record a call held alone becomes the only committed one. -/
private theorem Exclusive.committed (h : Exclusive keyring s) {call : Call J W}
    {record : IdempotencyRecord J} {c : Commit J W} (hheld : s.Holds call record)
    (huser : c.record.user = record.user) (hkey : c.record.keyHash = record.keyHash)
    (hfaith : c.Faithful keyring) (hrec : s.records.insert? c.record = some s'.records)
    (hcalls : s'.calls = s.calls.erase call.pk) (hcommits : s'.commits = s.commits ++ [c]) :
    Exclusive keyring s' := by
  have hmem := fun r => Table.mem_insert? (b := r) hrec
  have hcommit : ∀ c', c' ∈ s'.commits ↔ c' ∈ s.commits ∨ c' = c := by
    intro c'
    rw [hcommits, List.mem_append, List.mem_singleton]
  refine ⟨?_, ?_, ?_, ?_, ?_, ?_⟩
  · intro c' hc
    rcases (hcommit c').mp hc with hc | rfl
    · exact ⟨(hmem _).mpr (Or.inl (h.faithful c' hc).1), (h.faithful c' hc).2⟩
    · exact ⟨(hmem _).mpr (Or.inr rfl), hfaith⟩
  · intro r hr
    rcases (hmem r).mp hr with hr | rfl
    · obtain ⟨c', hc, hcr⟩ := h.recorded r hr
      exact ⟨c', (hcommit c').mpr (Or.inl hc), hcr⟩
    · exact ⟨c, (hcommit c).mpr (Or.inr rfl), rfl⟩
  · rw [hcommits]
    refine List.pairwise_append.mpr ⟨h.once, List.pairwise_singleton _ _, ?_⟩
    intro c₁ hc₁ c₂ hc₂ hsame
    rw [List.mem_singleton.mp hc₂] at hsame
    obtain ⟨hr₁, hfaith₁⟩ := h.faithful c₁ hc₁
    have hfor := hfaith₁.isFor.congr hsame
    refine h.free call record hheld c₁.record hr₁ ⟨?_, ?_⟩
    · exact (Option.some.inj (hfor.user.symm.trans hfaith.isFor.user)).trans huser
    · rw [hfor.keyHash, ← hfaith.isFor.keyHash, hkey]
  · intro call' record' hh
    exact h.holds call' record' (holds_of_erase hcalls hh).1
  · intro call' record' hh r hr
    obtain ⟨hh, hne⟩ := holds_of_erase hcalls hh
    rcases (hmem r).mp hr with hr | rfl
    · exact h.free call' record' hh r hr
    · intro hsame
      exact hne (h.alone call' call record' record hh hheld (hsame.1.symm.trans huser)
        (hsame.2.symm.trans hkey))
  · intro a b ra rb ha hb
    exact h.alone a b ra rb (holds_of_erase hcalls ha).1 (holds_of_erase hcalls hb).1

theorem Exclusive.next (h : Exclusive keyring s) (hmove : Move keyring s s') :
    Exclusive keyring s' := by
  cases hmove with
  | arrived _ hrec _ hins =>
      refine h.keep rfl rfl fun call' record hh => ⟨call', ⟨?_, hh.2⟩, rfl, rfl⟩
      rcases (Table.mem_insert? hins).mp hh.1 with hmem | rfl
      · exact hmem
      · have hsome : _ = some record := hh.2
        rw [hrec] at hsome
        cases hsome
  | ended =>
      exact h.keep rfl rfl fun call' record hh => ⟨call', (holds_of_erase rfl hh).1, rfl, rfl⟩
  | bare =>
      exact h.keep rfl rfl fun call' record hh => ⟨call', (holds_of_erase rfl hh).1, rfl, rfl⟩
  | @proceeded call phase hcall hrec _ =>
      refine h.keep rfl rfl fun call' record hh => ?_
      rcases holds_of_proceed hcall hh with ⟨hpk, hreq, hsome⟩ | ⟨hh, _⟩
      · exact ⟨call, ⟨hcall, hrec ▸ hsome⟩, hpk.symm, hreq.symm⟩
      · exact ⟨call', hh, rfl, rfl⟩
  | inserted hcall hfor hhash hblocked hnone => exact h.inserted hcall hfor hhash hblocked hnone
  | @saved call record response rows records _ hcall hphase hrec _ =>
      have hheld : s.Holds call record := ⟨hcall, by rw [hphase]; rfl⟩
      obtain ⟨hfor, hhash⟩ := h.holds call record hheld
      exact h.committed hheld rfl rfl ⟨⟨hfor.user, hfor.keyHash⟩, hhash, rfl, rfl⟩ hrec rfl rfl

/-! ### History

The promise speaks of what calls were told, and of how often the method has run.  That is not
in the tables, so the state keeps it beside them, and this section ties the two together: an
answer that was replayed is that of a committed run.
-/

/-- The committed run behind an outcome. -/
def Finished.Accounted (f : Finished J) (s : State J W) : Prop :=
  match f.outcome with
  | .executed response =>
      ∃ c ∈ s.commits, c.call = f.pk ∧ c.request = f.request ∧ c.response = response
  | .replayed response => ∃ c ∈ s.commits, c.request.SameKey f.request ∧
      c.request.content = f.request.content ∧ c.response = response
  | .refused exception =>
      exception.code = "CONFLICT" → ∃ c ∈ s.commits, c.request.SameKey f.request
  | _ => True

/-- Calls in progress, calls that have ended and committed runs fit together. -/
structure History (s : State J W) : Prop where
  bare : ∀ call ∈ s.calls, call.phase = .unguarded → call.request.idempotencyKey = ""
  running : ∀ call ∈ s.calls, s.finished.get? call.pk = none
  ended : ∀ c ∈ s.commits, s.finished.get? c.call = some ⟨c.call, c.request, .executed c.response⟩
  accounted : ∀ f ∈ s.finished, f.Accounted s
  written : ∀ b ∈ s.writes, (∃ c ∈ s.commits, c.call = b.call ∧ c.writes = b.rows) ∨
    ∃ f, s.finished.get? b.call = some f ∧ f.request.idempotencyKey = ""

private theorem Finished.Accounted.mono {f : Finished J} (h : f.Accounted s)
    (hsub : ∀ c ∈ s.commits, c ∈ s'.commits) : f.Accounted s' := by
  unfold Accounted at h ⊢
  split at h
  · obtain ⟨c, hc, hrest⟩ := h
    exact ⟨c, hsub c hc, hrest⟩
  · obtain ⟨c, hc, hrest⟩ := h
    exact ⟨c, hsub c hc, hrest⟩
  · intro hcode
    obtain ⟨c, hc, hrest⟩ := h hcode
    exact ⟨c, hsub c hc, hrest⟩
  · trivial

/-- What the committed records say is what the committed runs say. -/
private theorem Exclusive.accounted (h : Exclusive keyring s) {f : Finished J}
    (hback : Outcome.Backed keyring s f.request f.outcome) : f.Accounted s := by
  have hrun : ∀ record ∈ s.records, record.For keyring f.request →
      ∃ c ∈ s.commits, c.record = record ∧ c.Faithful keyring ∧ c.request.SameKey f.request := by
    intro record hrec hfor
    obtain ⟨c, hc, hcr⟩ := h.recorded record hrec
    have hfaith := (h.faithful c hc).2
    exact ⟨c, hc, hcr, hfaith, hfaith.isFor.sameKey hfor (by rw [hcr]) (by rw [hcr])⟩
  obtain ⟨pk, request, outcome⟩ := f
  cases outcome with
  | unguarded response => cases hback
  | executed response => cases hback
  | replayed response =>
      obtain ⟨record, hrec, hfor, hhash, hst, hbody⟩ := hback
      obtain ⟨c, hc, rfl, hfaith, hsame⟩ := hrun record hrec hfor
      refine ⟨c, hc, hsame, ?_, ?_⟩
      · exact keyring.sha256_injective (hfaith.requestHash.symm.trans hhash)
      · have hstatus := Option.some.inj (hfaith.responseStatus.symm.trans hst)
        have hdata := hfaith.responseBody.symm.trans hbody
        show c.response = response
        obtain ⟨statusCode, data⟩ := response
        rw [← show c.response.statusCode = statusCode from hstatus,
          ← show c.response.data = data from hdata]
  | refused exception =>
      intro hcode
      obtain ⟨record, hrec, hfor⟩ := hback hcode
      obtain ⟨c, hc, _, _, hsame⟩ := hrun record hrec hfor
      exact ⟨c, hc, hsame⟩
  | raised exception => trivial
  | lost => trivial

private theorem History.running_of_erase (h : History s) {call : Call J W} {outcome : Outcome J}
    {finished : Table (Finished J)}
    (hins : s.finished.insert? ⟨call.pk, call.request, outcome⟩ = some finished) :
    ∀ c ∈ s.calls.erase call.pk, finished.get? c.pk = none := by
  intro c hc
  obtain ⟨hmem, hne⟩ := Table.mem_erase.mp hc
  rw [Table.get?_insert? hins, if_neg fun hk => hne hk.symm, h.running c hmem]

/-- What was written stays accounted for when one more call has ended. -/
private theorem History.written_of_insert (h : History s) {f : Finished J}
    {finished : Table (Finished J)} (hins : s.finished.insert? f = some finished) {b : Batch W}
    (hb : b ∈ s.writes) : (∃ c ∈ s.commits, c.call = b.call ∧ c.writes = b.rows) ∨
      ∃ f, finished.get? b.call = some f ∧ f.request.idempotencyKey = "" := by
  rcases h.written b hb with hrun | ⟨f, hf, hkey⟩
  · exact Or.inl hrun
  · exact Or.inr ⟨f, Table.get?_insert?_old hins hf, hkey⟩

private theorem History.proceed (h : History s) {call : Call J W} {phase : Phase J W}
    (hcall : call ∈ s.calls) (hbare : phase ≠ .unguarded) :
    History (s.proceed call.pk phase) := by
  have hmem : ∀ c ∈ (s.proceed call.pk phase).calls,
      (c.pk = call.pk ∧ c.phase ≠ .unguarded) ∨ c ∈ s.calls := by
    intro c hc
    have hc : c ∈ s.calls.modify call.pk fun c => { c with phase := phase } := hc
    rcases Table.mem_modify.mp hc with ⟨a, _, hpk, rfl⟩ | ⟨hc, _⟩
    · exact Or.inl ⟨hpk, hbare⟩
    · exact Or.inr hc
  refine ⟨fun c hc hphase => ?_, fun c hc => ?_, h.ended,
    fun f hf => (h.accounted f hf).mono fun _ hc => hc, h.written⟩
  · rcases hmem c hc with ⟨_, hne⟩ | hc
    · exact absurd hphase hne
    · exact h.bare c hc hphase
  · rcases hmem c hc with ⟨hpk, _⟩ | hc
    · rw [hpk]
      exact h.running call hcall
    · exact h.running c hc

theorem History.next (h : History s) (hex : Exclusive keyring s) (hmove : Move keyring s s') :
    History s' := by
  have hbare_erase : ∀ k, ∀ c ∈ s.calls.erase k, c.phase = .unguarded →
      c.request.idempotencyKey = "" := fun k c hc => h.bare c (Table.mem_erase.mp hc).1
  cases hmove with
  | @arrived call request phase calls hnew _ hbare hins =>
      refine ⟨fun c hc hphase => ?_, fun c hc => ?_, h.ended,
        fun f hf => (h.accounted f hf).mono fun _ hc => hc, h.written⟩
      · rcases (Table.mem_insert? hins).mp hc with hc | rfl
        · exact h.bare c hc hphase
        · exact hbare hphase
      · rcases (Table.mem_insert? hins).mp hc with hc | rfl
        · exact h.running c hc
        · exact hnew
  | @ended call outcome finished hback hins =>
      refine ⟨hbare_erase _, h.running_of_erase hins,
        fun c hc => Table.get?_insert?_old hins (h.ended c hc), fun f hf => ?_,
        fun b hb => h.written_of_insert hins hb⟩
      rcases (Table.mem_insert? hins).mp hf with hf | rfl
      · exact (h.accounted f hf).mono fun _ hc => hc
      · have hacc : Finished.Accounted ⟨call.pk, call.request, outcome⟩ s := hex.accounted hback
        exact hacc.mono fun _ hc => hc
  | @bare call outcome finished rows hcall hphase hexec hrep href hins =>
      refine ⟨hbare_erase _, h.running_of_erase hins,
        fun c hc => Table.get?_insert?_old hins (h.ended c hc), fun f hf => ?_, fun b hb => ?_⟩
      · rcases (Table.mem_insert? hins).mp hf with hf | rfl
        · exact (h.accounted f hf).mono fun _ hc => hc
        · cases outcome with
          | executed response => exact absurd rfl (hexec response)
          | replayed response => exact absurd rfl (hrep response)
          | refused exception => exact absurd rfl (href exception)
          | _ => trivial
      · rcases List.mem_append.mp hb with hb | hb
        · exact h.written_of_insert hins hb
        · rw [List.mem_singleton.mp hb]
          exact Or.inr ⟨_, Table.get?_insert?_self hins, h.bare call hcall hphase⟩
  | proceeded hcall _ hbare => exact h.proceed hcall hbare
  | inserted hcall _ _ _ _ => exact h.proceed hcall fun hphase => by cases hphase
  | @saved call record response rows records finished hcall hphase hrec hins =>
      have hsub : ∀ c ∈ s.commits, ∀ l, c ∈ s.commits ++ l :=
        fun c hc l => List.mem_append_left l hc
      refine ⟨hbare_erase _, h.running_of_erase hins, fun c hc => ?_, fun f hf => ?_,
        fun b hb => ?_⟩
      · rcases List.mem_append.mp hc with hc | hc
        · exact Table.get?_insert?_old hins (h.ended c hc)
        · rw [List.mem_singleton.mp hc]
          exact Table.get?_insert?_self hins
      · rcases (Table.mem_insert? hins).mp hf with hf | rfl
        · exact (h.accounted f hf).mono fun c hc => hsub c hc _
        · exact ⟨_, List.mem_append_right _ (List.mem_singleton_self _), rfl, rfl, rfl⟩
      · rcases List.mem_append.mp hb with hb | hb
        · rcases h.written_of_insert hins hb with ⟨c, hc, hrest⟩ | hbare
          · exact Or.inl ⟨c, hsub c hc _, hrest⟩
          · exact Or.inr hbare
        · rw [List.mem_singleton.mp hb]
          exact Or.inl ⟨_, List.mem_append_right _ (List.mem_singleton_self _), rfl, rfl⟩

/-! ### Runs

The conclusion is assembled from the two invariants at the state reached.  Nothing is asked of
the order of events, and calls whose connection is lost at any point are among them.
-/

/-- What the decorator promises of a state: the runs committed so far, and what calls
have been told of them. -/
structure AtMostOnce (keyring : Keyring) (s : State J W) : Prop where
  /-- No two committed runs are for one user and key. -/
  once : s.commits.Pairwise fun a b => ¬a.request.SameKey b.request
  /-- A response is that of the committed run of its user and key; and where it is not a
  replay, the run is the call's own. -/
  response : ∀ f ∈ s.finished, ∀ response,
    f.outcome = .executed response ∨ f.outcome = .replayed response →
    ∃ c ∈ s.commits, c.request.SameKey f.request ∧ c.request.content = f.request.content ∧
      c.response = response ∧ (f.outcome = .executed response → c.call = f.pk)
  /-- A call under a key that ends otherwise has committed no run and no row. -/
  failed : ∀ f ∈ s.finished, f.request.idempotencyKey ≠ "" →
    (∀ response, f.outcome ≠ .executed response) →
    (∀ c ∈ s.commits, c.call ≠ f.pk) ∧ ∀ b ∈ s.writes, b.call ≠ f.pk
  /-- A record is that of a committed run, of the user it is kept for. -/
  record : ∀ record ∈ s.records,
    ∃ c ∈ s.commits, c.record = record ∧ c.request.user = some record.user
  /-- A conflict is with a committed run of the same user and key. -/
  conflict : ∀ f ∈ s.finished, ∀ exception, f.outcome = .refused exception →
    exception.code = "CONFLICT" → ∃ c ∈ s.commits, c.request.SameKey f.request

private theorem History.failed (h : History s) {f : Finished J} (hf : f ∈ s.finished)
    (hkey : f.request.idempotencyKey ≠ "") (hexec : ∀ response, f.outcome ≠ .executed response) :
    (∀ c ∈ s.commits, c.call ≠ f.pk) ∧ ∀ b ∈ s.writes, b.call ≠ f.pk := by
  have hget : s.finished.get? f.pk = some f := Table.get?_of_mem hf
  have hcommit : ∀ c ∈ s.commits, c.call ≠ f.pk := by
    intro c hc hpk
    have hended := h.ended c hc
    rw [hpk, hget, Option.some.injEq] at hended
    exact hexec c.response (by rw [hended])
  refine ⟨hcommit, fun b hb hpk => ?_⟩
  rcases h.written b hb with ⟨c, hc, hcall, _⟩ | ⟨f', hf', hkey'⟩
  · exact hcommit c hc (hcall.trans hpk)
  · rw [hpk, hget, Option.some.injEq] at hf'
    subst hf'
    exact hkey hkey'

theorem exclusive_init (keyring : Keyring) : Exclusive keyring (State.init J W) := by
  refine ⟨fun c hc => ?_, fun r hr => ?_, List.Pairwise.nil, fun _ _ hh => ?_, fun _ _ hh => ?_,
    fun _ _ _ _ hh => ?_⟩
  · cases hc
  · cases hr
  · cases hh.1
  · cases hh.1
  · cases hh.1

theorem history_init : History (State.init J W) := by
  refine ⟨fun c hc => ?_, fun c hc => ?_, fun c hc => ?_, fun f hf => ?_, fun b hb => ?_⟩
  · cases hc
  · cases hc
  · cases hc
  · cases hf
  · cases hb

/-- **A key runs its method at most once.**  In every state the wrapped calls can reach,
in whatever order their steps came, what was committed and what was answered are as
`AtMostOnce` says. -/
theorem at_most_once (keyring : Keyring) (ttl : Int) (s : State J W)
    (h : Run.Reachable (step keyring ttl) (State.init J W) s) : AtMostOnce keyring s := by
  have hinit : Exclusive keyring (State.init J W) ∧ History (State.init J W) :=
    ⟨exclusive_init keyring, history_init⟩
  have hstep : ∀ s e s', Exclusive keyring s ∧ History s → step keyring ttl s e = some s' →
      Exclusive (J := J) (W := W) keyring s' ∧ History s' := by
    intro s e s' hinv hs
    have hmove := Move.of_step hs
    exact ⟨hinv.1.next hmove, hinv.2.next hinv.1 hmove⟩
  obtain ⟨hex, hhist⟩ := h.inv hinit hstep
  refine ⟨hex.once, ?_, fun f hf hkey hexec => hhist.failed hf hkey hexec, ?_, ?_⟩
  · intro f hf response hout
    have hsame : ∀ c : Commit J W, c.request = f.request → c.request.SameKey f.request :=
      fun c hreq => ⟨by rw [hreq], by rw [hreq]⟩
    have hacc := hhist.accounted f hf
    rcases hout with hout | hout
    · rw [Finished.Accounted, hout] at hacc
      obtain ⟨c, hc, hcall, hreq, hres⟩ := hacc
      exact ⟨c, hc, hsame c hreq, by rw [hreq], hres, fun _ => hcall⟩
    · rw [Finished.Accounted, hout] at hacc
      obtain ⟨c, hc, hsame, hcontent, hres⟩ := hacc
      exact ⟨c, hc, hsame, hcontent, hres, fun h => by rw [hout] at h; cases h⟩
  · intro record hrec
    obtain ⟨c, hc, hcr⟩ := hex.recorded record hrec
    exact ⟨c, hc, hcr, hcr ▸ (hex.faithful c hc).2.isFor.user⟩
  · intro f hf exception hout hcode
    have hacc := hhist.accounted f hf
    rw [Finished.Accounted, hout] at hacc
    exact hacc hcode

/-- A user sends one request twice under one key; both look the key up before either
inserts, and the second insert waits for the first commit. -/
def racingCalls : List (Event Nat String) :=
  let request : Request :=
    { user := some 7, idempotencyKey := "retry-1", method := [80], path := [47], body := [] }
  [.arrive 1 request, .arrive 2 request, .lookup 1, .lookup 2, .insert 1 11 0,
    .method 1 (.returned ⟨201, some 5⟩ ["api key"]), .save 1, .insert 2 12 1]

theorem at_most_once_racingCalls :
    ∃ s, Run.exec (step Keyring.plain 0) (State.init Nat String) racingCalls = some s ∧
      (s.finished.get? 2).map (·.outcome) = some (.refused inProgress) ∧
      AtMostOnce Keyring.plain s := by
  obtain ⟨s, hs, hout⟩ := Option.map_eq_some_iff.mp
    (show (Run.exec (step Keyring.plain 0) (State.init Nat String) racingCalls).map
        (fun s => (s.finished.get? 2).map (·.outcome)) = some (some (.refused inProgress)) by
      decide)
  exact ⟨s, hs, hout, at_most_once Keyring.plain 0 s ⟨racingCalls, hs⟩⟩

end DjangoFoundation.Idempotency
