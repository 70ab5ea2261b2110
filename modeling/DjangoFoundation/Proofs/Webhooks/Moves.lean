/-
What one step of the webhook system can do.

`step` is a nest of lookups and branches; `Move` lists its outcomes, each with what
must have been true for it to happen, and `Move.of_step` is the only place the nest
is taken apart.  Everything proved about runs splits on a `Move`.

Beside it stand the functions a step is made of: `reserve_eq_some` says which rows a
task takes and what it writes, `settled_of_settle` and `saved?_eq_none` how an execution
can end, `mem_dispatchPendingWebhooks` which rows a round selects, `free_of_selects` that
no early return meets them later, and `Emitted` that new deliveries arrive pending and
disturb nothing.

What the database refuses is one of the outcomes: a reservation beyond the column of its
count is a task that has missed, and a last save with a text it does not take is an
execution that is lost, like one whose exception escapes.
-/
import DjangoFoundation.Webhooks.Tasks

namespace DjangoFoundation.Webhooks

variable {settings : Settings} {now : Int} {s s' : State}

/-! ### The reservation

It has three outcomes: nothing, where one of the early returns is taken; an exception, where
the count has no room; and the row with one attempt more.
-/

/-- No early return stands in the way of a reservation: the row is unfinished, and no
reservation of the last fifteen minutes holds it. -/
structure WebhookDelivery.Free (now : Int) (row : WebhookDelivery) : Prop where
  notFinished : ¬row.status.Finished
  age : row.status = .processing → ∀ t, row.lastAttemptAt = some t → t ≤ now - reservationAge

/-- The count of attempts has room for one more. -/
def WebhookDelivery.HasRoom (settings : Settings) (row : WebhookDelivery) : Prop :=
  settings.counts (row.attemptCount + 1) = true

instance (row : WebhookDelivery) : Decidable (row.HasRoom settings) :=
  inferInstanceAs (Decidable (_ = true))

theorem hasRoom_of_lt {row : WebhookDelivery} (h : row.attemptCount < maxAttemptCount) :
    row.HasRoom .postgresql :=
  decide_eq_true h

/-- The row a reservation saves. -/
def WebhookDelivery.attempted (now : Int) (row : WebhookDelivery) : WebhookDelivery :=
  { row with
    attemptCount := row.attemptCount + 1
    lastAttemptAt := some now
    status := .processing }

theorem reserve_of_not_free {row : WebhookDelivery} (h : ¬row.Free now) :
    reserve settings now row = .ok none := by
  unfold reserve
  split
  · rfl
  · rename_i hfin
    rw [if_pos]
    by_contra hheld
    refine h ⟨hfin, fun hproc t ht => ?_⟩
    by_contra hlt
    exact hheld ⟨hproc, (Option.any_eq_true _ _).mpr ⟨t, ht, by simpa using hlt⟩⟩

theorem reserve_of_free {row : WebhookDelivery} (h : row.Free now) :
    reserve settings now row =
      if row.HasRoom settings then .ok (some (row.attempted now)) else .error DataError := by
  have hfin : ¬(row.status = .succeeded ∨ row.status = .abandoned) := h.notFinished
  unfold reserve
  rw [if_neg hfin, if_neg]
  · by_cases hroom : row.HasRoom settings
    · rw [if_pos hroom, if_neg (by rw [show settings.counts _ = true from hroom]; decide)]
      rfl
    · rw [if_neg hroom, if_pos (by rw [Bool.eq_false_iff.mpr hroom]; rfl)]
  rintro ⟨hproc, hany⟩
  obtain ⟨t, ht, hlt⟩ := (Option.any_eq_true _ _).mp hany
  have := h.age hproc t ht
  have : now - reservationAge < t := by simpa using hlt
  omega

/-- A reservation goes through exactly on a free row whose count has room, and it counts the
attempt and stamps the row. -/
theorem reserve_eq_some {row copy : WebhookDelivery} :
    reserve settings now row = .ok (some copy) ↔
      row.Free now ∧ row.HasRoom settings ∧ copy = row.attempted now := by
  by_cases hfree : row.Free now
  · rw [reserve_of_free hfree]
    split
    · rename_i hroom
      rw [Except.ok.injEq, Option.some.injEq]
      exact ⟨fun h => ⟨hfree, hroom, h.symm⟩, fun h => h.2.2.symm⟩
    · rename_i hfull
      exact iff_of_false (fun h => by cases h) fun h => hfull h.2.1
  · rw [reserve_of_not_free hfree]
    exact iff_of_false (fun h => by cases h) fun h => hfree h.1

/-- It raises on a free row whose count is full, and on no other. -/
theorem reserve_eq_error {row : WebhookDelivery} {exception : Exception} :
    reserve settings now row = .error exception ↔
      row.Free now ∧ ¬row.HasRoom settings ∧ exception = DataError := by
  by_cases hfree : row.Free now
  · rw [reserve_of_free hfree]
    split
    · rename_i hroom
      exact iff_of_false (fun h => by cases h) fun h => h.2.1 hroom
    · rename_i hfull
      rw [Except.error.injEq]
      exact ⟨fun h => ⟨hfree, hfull, h.symm⟩, fun h => h.2.2.symm⟩
  · rw [reserve_of_not_free hfree]
    exact iff_of_false (fun h => by cases h) fun h => hfree h.1

section Reserve

variable {row copy : WebhookDelivery} (h : reserve settings now row = .ok (some copy))
include h

theorem not_finished_of_reserve : ¬row.status.Finished :=
  (reserve_eq_some.mp h).1.notFinished

theorem age_of_reserve (hproc : row.status = .processing) {t : Int}
    (ht : row.lastAttemptAt = some t) : t ≤ now - reservationAge :=
  (reserve_eq_some.mp h).1.age hproc t ht

theorem reserve_pk : copy.pk = row.pk := by
  rw [(reserve_eq_some.mp h).2.2, WebhookDelivery.attempted]

theorem reserve_attemptCount : copy.attemptCount = row.attemptCount + 1 := by
  rw [(reserve_eq_some.mp h).2.2, WebhookDelivery.attempted]

theorem reserve_lastAttemptAt : copy.lastAttemptAt = some now := by
  rw [(reserve_eq_some.mp h).2.2, WebhookDelivery.attempted]

theorem reserve_status : copy.status = .processing := by
  rw [(reserve_eq_some.mp h).2.2, WebhookDelivery.attempted]

end Reserve

/-! ### The end of an execution

The exchange succeeds, fails or escapes, and what is to be saved of the first two may still be
refused.  `Lost` takes the ways together that leave the row as the reservation left it.
-/

/-- The HTTP exchange got a 2xx answer. -/
def Attempt.Succeeds : Attempt → Prop
  | .response statusCode _ => 200 ≤ statusCode ∧ statusCode < 300
  | .raised _ => False

/-- It ended in an exception that no handler names. -/
def Attempt.Escapes : Attempt → Prop
  | .raised (.other _) => True
  | _ => False

/-- It ended in the handler: a non-2xx answer or one of the two exceptions named. -/
def Attempt.Fails (attempt : Attempt) : Prop :=
  ¬attempt.Succeeds ∧ ¬attempt.Escapes

/-- There is an answer, and the row can hold no text like the answer's. -/
def Attempt.Refused (settings : Settings) (delivery : WebhookDelivery) : Attempt → Prop
  | .response _ text =>
      storedBody text ≠ delivery.responseBody ∧ settings.stores (storedBody text) = false
  | .raised _ => False

/-- Nothing is saved of it: an exception escapes the handler, or the last save raises one. -/
def Attempt.Lost (settings : Settings) (delivery : WebhookDelivery) (attempt : Attempt) : Prop :=
  attempt.Escapes ∨ attempt.Refused settings delivery

instance (attempt : Attempt) : Decidable attempt.Succeeds :=
  match attempt with
  | .response statusCode _ => inferInstanceAs (Decidable (200 ≤ statusCode ∧ statusCode < 300))
  | .raised _ => inferInstanceAs (Decidable False)

instance (attempt : Attempt) : Decidable attempt.Escapes :=
  match attempt with
  | .raised (.other _) => inferInstanceAs (Decidable True)
  | .raised .httpError => inferInstanceAs (Decidable False)
  | .raised .validationError => inferInstanceAs (Decidable False)
  | .response _ _ => inferInstanceAs (Decidable False)

instance (attempt : Attempt) : Decidable attempt.Fails :=
  inferInstanceAs (Decidable (_ ∧ _))

/-- The columns an execution never writes after its reservation. -/
structure SameAttempt (copy delivery : WebhookDelivery) : Prop where
  pk : copy.pk = delivery.pk
  attemptCount : copy.attemptCount = delivery.attemptCount
  lastAttemptAt : copy.lastAttemptAt = delivery.lastAttemptAt

/-- What an execution leaves in memory where it does not escape. -/
inductive Settled (now : Int) (delivery copy : WebhookDelivery) (attempt : Attempt) : Prop
  | succeeded (h : attempt.Succeeds) (hs : copy.status = .succeeded)
      (hn : copy.nextRetryAt = none)
  | abandoned (h : attempt.Fails) (hc : 8 ≤ delivery.attemptCount)
      (hs : copy.status = .abandoned) (hn : copy.nextRetryAt = none)
  | failed (h : attempt.Fails) (hc : delivery.attemptCount < 8) (hs : copy.status = .failed)
      (hn : copy.nextRetryAt = some (now + seconds (backoffSeconds delivery.attemptCount)))

theorem settle_eq_none (now : Int) (delivery : WebhookDelivery) {attempt : Attempt} :
    settle now delivery attempt = none ↔ attempt.Escapes := by
  cases attempt with
  | response statusCode text =>
      simp only [settle, Attempt.Escapes]
      split <;> simp
  | raised exception => cases exception <;> simp [settle, Attempt.Escapes]

private theorem handleFailure_settled {delivery copy : WebhookDelivery} {attempt : Attempt}
    (hc : copy.attemptCount = delivery.attemptCount) (h : attempt.Fails) :
    Settled now delivery (handleFailure now copy) attempt := by
  unfold handleFailure
  split
  · exact .abandoned h (by omega) rfl rfl
  · exact .failed h (by omega) rfl (by rw [hc])

private theorem handleFailure_sameAttempt (now : Int) (copy : WebhookDelivery) :
    SameAttempt (handleFailure now copy) copy := by
  unfold handleFailure
  split <;> exact ⟨rfl, rfl, rfl⟩

theorem sameAttempt_of_settle {delivery copy : WebhookDelivery} {attempt : Attempt}
    (h : settle now delivery attempt = some copy) : SameAttempt copy delivery := by
  unfold settle at h
  split at h
  · split at h
    · cases h
      exact ⟨rfl, rfl, rfl⟩
    · cases h
      obtain ⟨hpk, hcount, htime⟩ := handleFailure_sameAttempt now { delivery with
        responseCode := some _
        responseBody := _ }
      exact ⟨hpk, hcount, htime⟩
  · cases h
    exact handleFailure_sameAttempt now delivery
  · cases h
    exact handleFailure_sameAttempt now delivery
  · cases h

/-- The three ways an execution can end with something to save. -/
theorem settled_of_settle {delivery copy : WebhookDelivery} {attempt : Attempt}
    (h : settle now delivery attempt = some copy) : Settled now delivery copy attempt := by
  have hesc : ¬attempt.Escapes := by
    rw [← settle_eq_none now delivery, h]
    simp
  unfold settle at h
  split at h
  · split at h
    · rename_i hcode
      cases h
      exact .succeeded hcode rfl rfl
    · rename_i hcode
      cases h
      exact handleFailure_settled rfl ⟨hcode, hesc⟩
  · cases h
    exact handleFailure_settled rfl ⟨id, hesc⟩
  · cases h
    exact handleFailure_settled rfl ⟨id, hesc⟩
  · cases h

/-- The text a row has after the attempt: the answer's, if there was one. -/
def Attempt.body (stored : String) : Attempt → String
  | .response _ text => storedBody text
  | .raised _ => stored

private theorem handleFailure_responseBody (now : Int) (delivery : WebhookDelivery) :
    (handleFailure now delivery).responseBody = delivery.responseBody := by
  unfold handleFailure
  split
  · rfl
  · rfl

theorem settle_responseBody {delivery copy : WebhookDelivery} {attempt : Attempt}
    (h : settle now delivery attempt = some copy) :
    copy.responseBody = attempt.body delivery.responseBody := by
  unfold settle at h
  split at h
  · split at h
    · cases h
      rfl
    · cases h
      exact handleFailure_responseBody now _
  · cases h
    exact handleFailure_responseBody now delivery
  · cases h
    exact handleFailure_responseBody now delivery
  · cases h

/-- The last save is refused where there is an answer whose text the row cannot hold. -/
theorem saveRaises_iff {delivery copy : WebhookDelivery} {attempt : Attempt}
    (h : settle now delivery attempt = some copy) :
    saveRaises settings delivery copy = true ↔ attempt.Refused settings delivery := by
  rw [saveRaises, Bool.and_eq_true, decide_eq_true_iff, Bool.not_eq_true', settle_responseBody h]
  cases attempt with
  | response statusCode text => exact Iff.rfl
  | raised exception => simp [Attempt.body, Attempt.Refused]

/-- An execution saves what it has come to, unless it is lost. -/
theorem saved?_eq_some {delivery copy : WebhookDelivery} {attempt : Attempt} :
    saved? settings now delivery attempt = some copy ↔
      settle now delivery attempt = some copy ∧ ¬attempt.Refused settings delivery := by
  rw [saved?, Option.filter_eq_some_iff]
  refine and_congr_right fun h => ?_
  rw [Bool.not_eq_true', ← saveRaises_iff h, Bool.not_eq_true]

theorem settle_of_saved? {delivery copy : WebhookDelivery} {attempt : Attempt}
    (h : saved? settings now delivery attempt = some copy) :
    settle now delivery attempt = some copy :=
  (saved?_eq_some.mp h).1

theorem saved?_eq_none (now : Int) {delivery : WebhookDelivery} {attempt : Attempt} :
    saved? settings now delivery attempt = none ↔ attempt.Lost settings delivery := by
  rw [Attempt.Lost, ← settle_eq_none now delivery]
  cases h : settle now delivery attempt with
  | none => simp [saved?, h]
  | some copy => simp [saved?, h, saveRaises_iff h]

theorem not_lost_of_saved? {delivery copy : WebhookDelivery} {attempt : Attempt}
    (h : saved? settings now delivery attempt = some copy) : ¬attempt.Lost settings delivery := by
  rw [← saved?_eq_none now, h]
  exact Option.some_ne_none copy

/-! ### Emission

A row as `emit` creates it is pending and has no attempt.  Deliveries arrive in no other way.
-/

/-- A row as `emit` creates it. -/
structure WebhookDelivery.IsFresh (delivery : WebhookDelivery) : Prop where
  status : delivery.status = .pending
  attemptCount : delivery.attemptCount = 0
  lastAttemptAt : delivery.lastAttemptAt = none
  nextRetryAt : delivery.nextRetryAt = none

/-- A deliveries table grown by fresh rows. -/
structure Grows (t t' : Table WebhookDelivery) : Prop where
  kept : ∀ k d, t.get? k = some d → t'.get? k = some d
  fresh : ∀ k d, t'.get? k = some d → t.get? k = some d ∨ (t.get? k = none ∧ d.IsFresh)

theorem Grows.refl (t : Table WebhookDelivery) : Grows t t :=
  ⟨fun _ _ h => h, fun _ _ h => Or.inl h⟩

private theorem Grows.insert {t u u' : Table WebhookDelivery} {row : WebhookDelivery}
    (hg : Grows t u) (hrow : row.IsFresh) (h : u.insert? row = some u') : Grows t u' := by
  have hnew : u.get? (Keyed.pk row) = none :=
    Table.get?_eq_none.mpr (Table.insert?_eq_some h).1
  constructor
  · intro k d hk
    rw [Table.get?_insert? h, if_neg, hg.kept k d hk]
    intro hpk
    rw [hpk, hg.kept k d hk] at hnew
    cases hnew
  · intro k d hk
    rw [Table.get?_insert? h] at hk
    split at hk
    · rename_i hpk
      cases hk
      refine Or.inr ⟨?_, hrow⟩
      cases ht : t.get? k with
      | none => rfl
      | some d =>
          rw [hpk, hg.kept k d ht] at hnew
          cases hnew
    · exact hg.fresh k d hk

private theorem Grows.foldlM {event : UUID} {draw : UUID → UUID} {t u u' : Table WebhookDelivery}
    (endpoints : List WebhookEndpoint) (hg : Grows t u)
    (h : endpoints.foldlM (fun (t : Table WebhookDelivery) endpoint =>
      t.insert? { pk := draw endpoint.pk, endpoint := endpoint.pk, event := event }) u
        = some u') : Grows t u' := by
  induction endpoints generalizing u with
  | nil =>
      cases h
      exact hg
  | cons endpoint endpoints ih =>
      rw [List.foldlM_cons, Option.bind_eq_bind, Option.bind_eq_some_iff] at h
      obtain ⟨v, hv, hrest⟩ := h
      exact ih (hg.insert ⟨rfl, rfl, rfl, rfl⟩ hv) hrest

/-- What an `emit` leaves alone, and what it adds. -/
structure Emitted (s s' : State) : Prop where
  endpoints : s'.endpoints = s.endpoints
  queue : s'.queue = s.queue
  executions : s'.executions = s.executions
  clock : s'.clock = s.clock
  deliveries : Grows s.deliveries s'.deliveries

theorem emitted_of_emit {event : WebhookEvent} {draw : UUID → UUID}
    (h : emit s event draw = some s') : Emitted s s' := by
  unfold emit at h
  simp only [Option.bind_eq_bind, Option.bind_eq_some_iff, Option.some.injEq] at h
  obtain ⟨events, _, deliveries, hdel, rfl⟩ := h
  exact ⟨rfl, rfl, rfl, rfl, Grows.foldlM _ (Grows.refl _) hdel⟩

/-! ### Selection

Selected by status and by one column each; `free_of_selects` is where the two time limits of
the code meet.
-/

/-- Whether a round at `now` would select the row, the limit of a round aside. -/
def State.Selects (s : State) (now : Int) (delivery : WebhookDelivery) : Prop :=
  s.selectsPending delivery = true ∨ s.selectsFailed now delivery = true ∨
    s.selectsStale now delivery = true

theorem mem_dispatchPendingWebhooks {delivery : WebhookDelivery}
    (h : delivery ∈ dispatchPendingWebhooks settings now s) :
    delivery ∈ s.deliveries ∧ s.Selects now delivery := by
  unfold dispatchPendingWebhooks at h
  split at h
  · simp only [List.mem_append] at h
    rcases h with (h | h) | h
    · obtain ⟨hmem, hsel⟩ := List.mem_filter.mp (List.mem_of_mem_take h)
      exact ⟨hmem, Or.inl hsel⟩
    · obtain ⟨hmem, hsel⟩ := List.mem_filter.mp (List.mem_of_mem_take h)
      exact ⟨hmem, Or.inr (Or.inl hsel)⟩
    · obtain ⟨hmem, hsel⟩ := List.mem_filter.mp (List.mem_of_mem_take h)
      exact ⟨hmem, Or.inr (Or.inr hsel)⟩
  · cases h

/-- The rows selected at a time, by status and the column that goes with it. -/
theorem selects_iff {now : Int} {row : WebhookDelivery} (hactive : s.endpointActive row = true) :
    s.Selects now row ↔
      row.status = .pending ∧ row.nextRetryAt = none ∨
      (row.status = .failed ∧ ∃ t, row.nextRetryAt = some t ∧ t ≤ now) ∨
      (row.status = .processing ∧ ∃ t, row.lastAttemptAt = some t ∧ t < now - reservationAge) := by
  simp [State.Selects, State.selectsPending, State.selectsFailed, State.selectsStale, hactive,
    Option.any_eq_true]

/-- Only rows of active endpoints are selected. -/
theorem active_of_selects {row : WebhookDelivery} (h : s.Selects now row) :
    s.endpointActive row = true := by
  simp only [State.Selects, State.selectsPending, State.selectsFailed, State.selectsStale,
    decide_eq_true_eq] at h
  rcases h with ⟨-, hactive, -⟩ | ⟨-, -, hactive⟩ | ⟨-, -, hactive⟩
  · exact hactive
  · exact hactive
  · exact hactive

/-- What is selected at one time is free at any later one: the age a round asks for and the
age a task refuses leave no row between them. -/
theorem free_of_selects {t t' : Int} {row : WebhookDelivery}
    (hactive : s.endpointActive row = true) (h : s.Selects t row) (hle : t ≤ t') :
    row.Free t' := by
  refine ⟨?_, ?_⟩
  · intro hfin
    rcases (selects_iff hactive).mp h with ⟨hst, _⟩ | ⟨hst, _⟩ | ⟨hst, _⟩ <;>
      · rw [hst] at hfin
        rcases hfin with hfin | hfin <;> cases hfin
  · intro hproc t₁ ht₁
    rcases (selects_iff hactive).mp h with ⟨hst, _⟩ | ⟨hst, _⟩ | ⟨_, t₂, ht₂, hlt⟩
    · rw [hproc] at hst
      cases hst
    · rw [hproc] at hst
      cases hst
    · rw [ht₁, Option.some.injEq] at ht₂
      omega

/-! ### The moves

Seven outcomes, and the clock is set in each.
-/

/-- The outcomes of a step at `now`. -/
inductive Move (settings : Settings) (now : Int) (s : State) : Event → State → Prop
  | emitted {event draw s'} (h : Emitted { s with clock := now } s') :
      Move settings now s (.emit event draw) s'
  | dispatched :
      Move settings now s .dispatch { s with
        clock := now
        queue := s.queue ++ (dispatchPendingWebhooks settings now s).map fun d => ⟨d.pk, d⟩ }
  /-- The row is gone, finished, held or full: the message is used up. -/
  | missed {i x} (hres : reserved? settings s (now, .start i x) = none) :
      Move settings now s (.start i x) { s with clock := now, queue := s.queue.eraseIdx i }
  | reserved {i x message row copy executions} (hq : s.queue[i]? = some message)
      (hrow : s.deliveries.get? message.deliveryId = some row)
      (hres : reserve settings now row = .ok (some copy))
      (hx : s.executions.insert? ⟨x, message, copy⟩ = some executions) :
      Move settings now s (.start i x) { s with
        clock := now
        queue := s.queue.eraseIdx i
        deliveries := s.deliveries.modify message.deliveryId fun d => { d with
          attemptCount := copy.attemptCount
          lastAttemptAt := copy.lastAttemptAt
          status := copy.status }
        executions := executions }
  /-- An exception leaves the task: nothing is saved. -/
  | dropped {x attempt running} (hx : s.executions.get? x = some running)
      (hlost : attempt.Lost settings running.delivery) :
      Move settings now s (.finish x attempt) { s with
        clock := now
        executions := s.executions.erase x }
  | saved {x attempt running copy} (hx : s.executions.get? x = some running)
      (hcopy : saved? settings now running.delivery attempt = some copy) :
      Move settings now s (.finish x attempt) { s with
        clock := now
        executions := s.executions.erase x
        deliveries := s.deliveries.modify copy.pk (saveResult copy) }
  | crashed {x running redelivered} (hx : s.executions.get? x = some running) :
      Move settings now s (.crash x redelivered) { s with
        clock := now
        executions := s.executions.erase x
        queue := if redelivered then s.queue ++ [running.message] else s.queue }

private theorem Move.of_start {i : Nat} {x : UUID}
    (h : startDelivery settings now { s with clock := now } i x = some s') :
    Move settings now s (.start i x) s' := by
  unfold startDelivery at h
  simp only [Option.bind_eq_bind, Option.bind_eq_some_iff] at h
  obtain ⟨message, hq, h⟩ := h
  cases hrow : s.deliveries.get? message.deliveryId with
  | none =>
      simp only [hrow, Option.some.injEq] at h
      subst h
      exact .missed (by simp [reserved?, hq, hrow])
  | some row =>
      simp only [hrow] at h
      cases hres : reserve settings now row with
      | error exception =>
          simp only [hres, Option.some.injEq] at h
          subst h
          exact .missed (by simp [reserved?, hq, hrow, hres, Except.toOption])
      | ok copy =>
          cases copy with
          | none =>
              simp only [hres, Option.some.injEq] at h
              subst h
              exact .missed (by simp [reserved?, hq, hrow, hres, Except.toOption])
          | some copy =>
              simp only [hres, Option.bind_eq_some_iff, Option.some.injEq] at h
              obtain ⟨executions, hx, rfl⟩ := h
              exact .reserved hq hrow hres hx

private theorem Move.of_finish {x : UUID} {attempt : Attempt}
    (h : finishDelivery settings now { s with clock := now } x attempt = some s') :
    Move settings now s (.finish x attempt) s' := by
  unfold finishDelivery at h
  simp only [Option.bind_eq_bind, Option.bind_eq_some_iff] at h
  obtain ⟨running, hx, h⟩ := h
  cases hcopy : saved? settings now running.delivery attempt with
  | none =>
      simp only [hcopy, Option.some.injEq] at h
      subst h
      exact .dropped hx ((saved?_eq_none _).mp hcopy)
  | some copy =>
      simp only [hcopy, Option.some.injEq] at h
      subst h
      exact .saved hx hcopy

/-- **Every step is a move**, and the clock does not go back. -/
theorem Move.of_step {event : Event} (h : step settings s (now, event) = some s') :
    s.clock ≤ now ∧ Move settings now s event s' := by
  simp only [step] at h
  split at h
  · rename_i hclock
    refine ⟨hclock, ?_⟩
    cases event with
    | emit event draw => exact .emitted (emitted_of_emit h)
    | dispatch =>
        cases h
        exact .dispatched
    | start i x => exact .of_start h
    | finish x attempt => exact .of_finish h
    | crash x redelivered =>
        simp only [apply, Option.bind_eq_bind, Option.bind_eq_some_iff, Option.some.injEq] at h
        obtain ⟨running, hx, rfl⟩ := h
        exact .crashed hx
  · cases h

theorem Move.clock {event : Event} (h : Move settings now s event s') : s'.clock = now := by
  cases h with
  | emitted h => exact h.clock
  | _ => rfl

/-! ### What a move leaves in the tables

Reservations and saves write to one row, and it is the row of the execution they belong to.
-/

theorem pk_of_row {k : UUID} {row : WebhookDelivery} (h : s.deliveries.get? k = some row) :
    row.pk = k :=
  Table.pk_of_get? h

/-- After a reservation the row is the copy the execution holds. -/
theorem get?_reserved {k : UUID} {row copy : WebhookDelivery}
    (hrow : s.deliveries.get? k = some row) (hres : reserve settings now row = .ok (some copy))
    (j : UUID) :
    (s.deliveries.modify k fun d => { d with
      attemptCount := copy.attemptCount
      lastAttemptAt := copy.lastAttemptAt
      status := copy.status }).get? j = if j = k then some copy else s.deliveries.get? j := by
  rw [Table.get?_modify]
  split
  · rename_i hj
    rw [hj, hrow, Option.map_some, (reserve_eq_some.mp hres).2.2]
    rfl
  · rfl

/-- After a save the row has the copy's outcome and keeps its own attempt. -/
theorem get?_saved {copy : WebhookDelivery} (t : Table WebhookDelivery) (j : UUID) :
    (t.modify copy.pk (saveResult copy)).get? j
      = if j = copy.pk then (t.get? j).map (saveResult copy) else t.get? j :=
  Table.get?_modify ..

theorem reserved?_start {i : Nat} {x : UUID} {message : Message} {row copy : WebhookDelivery}
    (hq : s.queue[i]? = some message) (hrow : s.deliveries.get? message.deliveryId = some row)
    (hres : reserve settings now row = .ok (some copy)) :
    reserved? settings s (now, .start i x) = some copy := by
  simp only [reserved?, hq, hrow, hres, Option.bind_eq_bind, Option.bind_some, Except.toOption,
    Option.join_some]

/-- A step that reserves a delivery is a task that starts on its row. -/
theorem reserved?_eq_some {event : Event} {copy : WebhookDelivery}
    (h : reserved? settings s (now, event) = some copy) :
    ∃ i x message row, event = .start i x ∧ s.queue[i]? = some message ∧
      message.deliveryId = copy.pk ∧ s.deliveries.get? copy.pk = some row ∧
      reserve settings now row = .ok (some copy) := by
  cases event with
  | start i x =>
      simp only [reserved?, Option.bind_eq_bind, Option.bind_eq_some_iff] at h
      obtain ⟨message, hq, row, hrow, hres⟩ := h
      have hres : reserve settings now row = .ok (some copy) := by
        cases hr : reserve settings now row with
        | error exception => simp [hr, Except.toOption] at hres
        | ok reserved => simpa [hr, Except.toOption] using hres
      have hpk : message.deliveryId = copy.pk := ((reserve_pk hres).trans (pk_of_row hrow)).symm
      exact ⟨i, x, message, row, rfl, hq, hpk, hpk ▸ hrow, hres⟩
  | _ => cases h

/-- An execution that has something to save saves it. -/
theorem Move.saves {x : UUID} {attempt : Attempt} {running : Execution} {copy : WebhookDelivery}
    (h : Move settings now s (.finish x attempt) s') (hx : s.executions.get? x = some running)
    (hcopy : saved? settings now running.delivery attempt = some copy) :
    s'.executions = s.executions.erase x ∧
      s'.deliveries = s.deliveries.modify copy.pk (saveResult copy) := by
  cases h with
  | dropped hx' hlost =>
      rw [hx, Option.some.injEq] at hx'
      subst hx'
      exact absurd hlost (not_lost_of_saved? hcopy)
  | saved hx' hcopy' =>
      rw [hx, Option.some.injEq] at hx'
      subst hx'
      rw [hcopy, Option.some.injEq] at hcopy'
      subst hcopy'
      exact ⟨rfl, rfl⟩

/-! ### One delivery

Seen from one delivery there are three: its row and executions are untouched, or it is
reserved, or an execution of it saves.
-/

/-- What a move means for delivery `k` and the executions of it. -/
inductive Effect (settings : Settings) (k : UUID) (now : Int) (s : State) :
    Event → State → Prop
  | untouched {event s'}
      (hrow : s'.deliveries.get? k = s.deliveries.get? k ∨
        s.deliveries.get? k = none ∧ ∃ row, s'.deliveries.get? k = some row ∧ row.IsFresh)
      (hx : ∀ y ∈ s'.executions, y.delivery.pk = k → y ∈ s.executions) :
      Effect settings k now s event s'
  | reserved {i x message row copy s'} (hq : s.queue[i]? = some message)
      (hk : message.deliveryId = k) (hrow : s.deliveries.get? k = some row)
      (hres : reserve settings now row = .ok (some copy)) (hrow' : s'.deliveries.get? k = some copy)
      (hx : ∀ y ∈ s'.executions, y ∈ s.executions ∨ y = ⟨x, message, copy⟩) :
      Effect settings k now s (.start i x) s'
  | saved {x attempt running copy s'} (hget : s.executions.get? x = some running)
      (hk : running.delivery.pk = k)
      (hcopy : saved? settings now running.delivery attempt = some copy)
      (hrow' : s'.deliveries.get? k = (s.deliveries.get? k).map (saveResult copy))
      (hx : ∀ y ∈ s'.executions, y ∈ s.executions ∧ y ≠ running) :
      Effect settings k now s (.finish x attempt) s'

theorem Move.effect {event : Event} (k : UUID) (h : Move settings now s event s') :
    Effect settings k now s event s' := by
  cases h with
  | emitted he =>
      refine .untouched ?_ fun y hy _ => ?_
      · cases hget : s.deliveries.get? k with
        | some row => exact Or.inl (he.deliveries.kept k row hget)
        | none =>
            cases hget' : s'.deliveries.get? k with
            | none => exact Or.inl rfl
            | some row =>
                rcases he.deliveries.fresh k row hget' with hold | ⟨_, hfresh⟩
                · have hold : s.deliveries.get? k = some row := hold
                  rw [hget] at hold
                  cases hold
                · exact Or.inr ⟨rfl, row, rfl, hfresh⟩
      · rw [he.executions] at hy
        exact hy
  | dispatched => exact .untouched (Or.inl rfl) fun _ hy _ => hy
  | missed => exact .untouched (Or.inl rfl) fun _ hy _ => hy
  | @reserved i x message row copy executions hq hrow hres hins =>
      by_cases hk : message.deliveryId = k
      · subst hk
        refine .reserved hq rfl hrow hres ?_ fun y hy => (Table.mem_insert? hins).mp hy
        rw [get?_reserved hrow hres, if_pos rfl]
      · refine .untouched (Or.inl ?_) fun y hy hyk => ?_
        · rw [get?_reserved hrow hres, if_neg fun h => hk h.symm]
        · rcases (Table.mem_insert? hins).mp hy with hy | rfl
          · exact hy
          · have hpk : copy.pk = message.deliveryId := (reserve_pk hres).trans (pk_of_row hrow)
            exact absurd (hpk.symm.trans hyk) hk
  | dropped => exact .untouched (Or.inl rfl) fun _ hy _ => (Table.mem_erase.mp hy).1
  | @saved x attempt running copy hx hcopy =>
      have hpk : copy.pk = running.delivery.pk := (sameAttempt_of_settle (settle_of_saved? hcopy)).pk
      by_cases hk : running.delivery.pk = k
      · refine .saved hx hk hcopy ?_ fun y hy => ?_
        · rw [get?_saved, if_pos (hpk.trans hk).symm]
        · obtain ⟨hmem, hne⟩ := Table.mem_erase.mp hy
          refine ⟨hmem, fun h => hne ?_⟩
          rw [h]
          exact Table.pk_of_get? hx
      · refine .untouched (Or.inl ?_) fun _ hy _ => (Table.mem_erase.mp hy).1
        rw [get?_saved, if_neg fun h => hk (hpk ▸ h.symm)]
  | crashed => exact .untouched (Or.inl rfl) fun _ hy _ => (Table.mem_erase.mp hy).1

/-- An active endpoint that declares one event type. -/
def oneEndpoint : Table WebhookEndpoint :=
  ⟨[⟨1, "https://hooks.example", ["user.created"], "", true⟩], List.nodup_singleton _⟩

end DjangoFoundation.Webhooks
