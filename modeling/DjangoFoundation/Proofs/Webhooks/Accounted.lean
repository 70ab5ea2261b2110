/-
What the rows of deliveries say is what has happened.

Deliveries are made by `emit` alone and never taken away, so the table is, row for row, the
events with the endpoints subscribed to each.  The columns of a row are written by two kinds of
steps with a gap between them, and by executions that may be long past: the count of attempts is
kept by the reservations, and a row says that it was delivered only where the exchange behind
its last save said so.
-/
import DjangoFoundation.Proofs.Webhooks.Moves

namespace DjangoFoundation.Webhooks

open Run

variable {settings : Settings} {endpoints : Table WebhookEndpoint} {now clock : Int} {k : UUID}
  {s s' : State}

/-! ### Subscriptions

`emit` goes through the active endpoints in order and creates a row for each that has the type.
No other step creates one, and none removes any.
-/

/-- The endpoints an event is for. -/
def subscribed (endpoints : Table WebhookEndpoint) (event : WebhookEvent) :
    List WebhookEndpoint :=
  endpoints.rows.filter fun endpoint =>
    endpoint.isActive && endpoint.eventTypes.contains event.eventType

/-- The event and the endpoint of a delivery. -/
def WebhookDelivery.route (delivery : WebhookDelivery) : UUID × UUID :=
  (delivery.event, delivery.endpoint)

/-- The deliveries are, in order, those of the events to the endpoints each is for. -/
structure Mirrors (endpoints : Table WebhookEndpoint) (s : State) : Prop where
  same : s.endpoints = endpoints
  routes : s.deliveries.rows.map WebhookDelivery.route =
    s.events.rows.flatMap fun event =>
      (subscribed endpoints event).map fun endpoint => (event.pk, endpoint.pk)

theorem mirrors_init (endpoints : Table WebhookEndpoint) (clock : Int) :
    Mirrors endpoints (State.init endpoints clock) := ⟨rfl, rfl⟩

/-- A change of other columns. -/
theorem routes_modify (t : Table WebhookDelivery) (k : UUID)
    {f : WebhookDelivery → WebhookDelivery} (hf : ∀ d, Keyed.pk (f d) = Keyed.pk d)
    (hroute : ∀ d, (f d).route = d.route) :
    (t.modify k f hf).rows.map WebhookDelivery.route = t.rows.map WebhookDelivery.route := by
  show List.map _ (List.map _ t.rows) = _
  rw [List.map_map]
  refine List.map_congr_left fun d _ => ?_
  simp only [Function.comp_apply]
  split
  · exact hroute d
  · rfl

theorem emit_eq_some {event : WebhookEvent} {draw : UUID → UUID}
    (h : emit s event draw = some s') :
    s'.endpoints = s.endpoints ∧ s'.events.rows = s.events.rows ++ [event] ∧
      s'.deliveries.rows = s.deliveries.rows ++ (subscribed s.endpoints event).map fun endpoint =>
        { pk := draw endpoint.pk, endpoint := endpoint.pk, event := event.pk } := by
  unfold emit at h
  simp only [Option.bind_eq_bind, Option.bind_eq_some_iff, Option.some.injEq] at h
  obtain ⟨events, hevents, deliveries, hdeliveries, rfl⟩ := h
  exact ⟨rfl, (Table.insert?_eq_some hevents).2, Table.rows_of_foldlM_insert? hdeliveries⟩

theorem Mirrors.next {e : Int × Event} (h : Mirrors endpoints s)
    (hs : step settings s e = some s') : Mirrors endpoints s' := by
  obtain ⟨now, event⟩ := e
  obtain ⟨hclock, hmove⟩ := Move.of_step hs
  cases hmove with
  | @emitted event draw s' he =>
      rw [step, if_pos hclock] at hs
      obtain ⟨hsame, hevents, hdeliveries⟩ := emit_eq_some hs
      refine ⟨hsame.trans h.same, ?_⟩
      rw [hdeliveries, hevents, List.map_append, List.flatMap_append, List.flatMap_singleton,
        List.map_map, ← h.same]
      rw [← h.same] at h
      exact congrArg (· ++ _) h.routes
  | dispatched => exact ⟨h.same, h.routes⟩
  | missed => exact ⟨h.same, h.routes⟩
  | reserved =>
      refine ⟨h.same, Eq.trans ?_ h.routes⟩
      apply routes_modify
      · exact fun _ => rfl
      · exact fun _ => rfl
  | dropped => exact ⟨h.same, h.routes⟩
  | saved =>
      refine ⟨h.same, Eq.trans ?_ h.routes⟩
      apply routes_modify
      · exact fun _ => rfl
      · exact fun _ => rfl
  | crashed => exact ⟨h.same, h.routes⟩

/-! ### What happens to a delivery

The log of a run has what the rows are compared with: reservations, and ends of executions.
-/

inductive Mark
  | reserved (delivery : WebhookDelivery)
  /-- An exchange has come to an end. -/
  | ended (delivery : WebhookDelivery) (attempt : Attempt)
  deriving DecidableEq, Repr

/-- What a step does to some delivery. -/
def mark? (settings : Settings) (s : State) (e : Int × Event) : Option Mark :=
  match e.2 with
  | .start _ _ => (reserved? settings s e).map .reserved
  | .finish x attempt => (s.executions.get? x).map fun running => .ended running.delivery attempt
  | _ => none

theorem mark?_finish {x : UUID} {attempt : Attempt} {running : Execution}
    (hx : s.executions.get? x = some running) :
    mark? settings s (now, .finish x attempt) = some (.ended running.delivery attempt) := by
  simp only [mark?, hx, Option.map_some]

def Mark.reserves (k : UUID) : Mark → Bool
  | .reserved delivery => delivery.pk = k
  | .ended _ _ => false

def Mark.ends (k : UUID) : Mark → Bool
  | .reserved _ => false
  | .ended delivery _ => delivery.pk = k

/-- The answer a success was saved for. -/
def Answered (k : UUID) (row : WebhookDelivery) (log : List Mark) : Prop :=
  ∃ delivery code text, .ended delivery (.response code text) ∈ log ∧ delivery.pk = k ∧
    200 ≤ code ∧ code < 300 ∧ row.responseCode = some code ∧
    row.responseBody = storedBody text

/-- What the row of a delivery says of the marks made so far. -/
structure Accounted (k : UUID) (s : State) (log : List Mark) : Prop where
  count : ∀ row, s.deliveries.get? k = some row → row.attemptCount = log.countP (Mark.reserves k)
  absent : s.deliveries.get? k = none → log.countP (Mark.reserves k) = 0
  /-- An exchange ends once for each reservation at most. -/
  ended : log.countP (Mark.ends k) + s.executions.rows.countP (fun y => y.delivery.pk = k) ≤
    log.countP (Mark.reserves k)
  succeeded : ∀ row, s.deliveries.get? k = some row → row.status = .succeeded →
    Answered k row log

theorem Answered.mono {row : WebhookDelivery} {log : List Mark} (h : Answered k row log)
    (marks : List Mark) : Answered k row (log ++ marks) := by
  obtain ⟨delivery, code, text, hmem, hrest⟩ := h
  exact ⟨delivery, code, text, List.mem_append_left _ hmem, hrest⟩

theorem accounted_init (k : UUID) (endpoints : Table WebhookEndpoint) (clock : Int) :
    Accounted k (State.init endpoints clock) [] where
  count row hrow := by cases hrow
  absent _ := rfl
  ended := Nat.le_refl 0
  succeeded row hrow := by cases hrow

theorem settle_succeeded {delivery copy : WebhookDelivery} {attempt : Attempt}
    (h : settle now delivery attempt = some copy) (hstatus : copy.status = .succeeded) :
    ∃ code text, attempt = .response code text ∧ 200 ≤ code ∧ code < 300 ∧
      copy.responseCode = some code ∧
      copy.responseBody = storedBody text := by
  have hsucceeds : attempt.Succeeds := by
    rcases settled_of_settle h with ⟨hsucceeds, _, _⟩ | ⟨_, _, hs, _⟩ | ⟨_, _, hs, _⟩
    · exact hsucceeds
    · rw [hs] at hstatus
      cases hstatus
    · rw [hs] at hstatus
      cases hstatus
  cases attempt with
  | response code text =>
      have hcode : 200 ≤ code ∧ code < 300 := hsucceeds
      rw [settle, if_pos hcode] at h
      cases h
      exact ⟨code, text, rfl, hsucceeds.1, hsucceeds.2, rfl, rfl⟩
  | raised exception => cases hsucceeds

/-! ### One step

`Accounted` keeps the row and the log together over each of the three kinds of steps.
-/

section Step

variable {log : List Mark}

/-- A step that leaves no mark: the row stays, or has just been made. -/
theorem Accounted.unmarked (h : Accounted k s log)
    (hrow : ∀ row, s'.deliveries.get? k = some row →
      s.deliveries.get? k = some row ∨ (s.deliveries.get? k = none ∧ row.IsFresh))
    (hkept : ∀ row, s.deliveries.get? k = some row → s'.deliveries.get? k = some row)
    (hexecutions : s'.executions.rows.countP (fun y => y.delivery.pk = k) ≤
      s.executions.rows.countP fun y => y.delivery.pk = k) : Accounted k s' log where
  count row hget := by
    rcases hrow row hget with hold | ⟨hnone, hfresh⟩
    · exact h.count row hold
    · rw [hfresh.attemptCount, h.absent hnone]
  absent hget := by
    refine h.absent ?_
    cases hold : s.deliveries.get? k with
    | none => rfl
    | some row =>
        rw [hkept row hold] at hget
        cases hget
  ended := Nat.le_trans (Nat.add_le_add_left hexecutions _) h.ended
  succeeded row hget hstatus := by
    rcases hrow row hget with hold | ⟨-, hfresh⟩
    · exact h.succeeded row hold hstatus
    · rw [hfresh.status] at hstatus
      cases hstatus

/-- A reservation: the count of the row goes up with that of the log. -/
theorem Accounted.reserve {execution : Execution} {row copy : WebhookDelivery}
    (h : Accounted k s log) (hget : s.deliveries.get? copy.pk = some row)
    (hres : reserve settings now row = .ok (some copy)) (hcopy : execution.delivery = copy)
    (hdeliveries : ∀ j, s'.deliveries.get? j =
      if j = copy.pk then some copy else s.deliveries.get? j)
    (hexecutions : s'.executions.rows = s.executions.rows ++ [execution]) :
    Accounted k s' (log ++ [Mark.reserved copy]) := by
  have hended := h.ended
  by_cases hk : copy.pk = k
  · subst hk
    have hself : s'.deliveries.get? copy.pk = some copy := by rw [hdeliveries, if_pos rfl]
    refine ⟨fun row' hrow' => ?_, fun hnone => ?_, ?_, fun row' hrow' hstatus => ?_⟩
    · rw [hself, Option.some.injEq] at hrow'
      rw [← hrow', reserve_attemptCount hres, h.count row hget]
      simp [Mark.reserves]
    · rw [hself] at hnone
      cases hnone
    · rw [hexecutions]
      simp [Mark.reserves, Mark.ends, hcopy] at hended ⊢
      omega
    · rw [hself, Option.some.injEq] at hrow'
      rw [← hrow', reserve_status hres] at hstatus
      cases hstatus
  · have hother : s'.deliveries.get? k = s.deliveries.get? k := by
      rw [hdeliveries, if_neg fun h => hk h.symm]
    have hmark : (log ++ [Mark.reserved copy]).countP (Mark.reserves k) =
        log.countP (Mark.reserves k) := by
      simp [Mark.reserves, hk]
    refine ⟨fun row' hrow' => ?_, fun hnone => ?_, ?_, fun row' hrow' hstatus => ?_⟩
    · rw [hmark]
      exact h.count row' (hother ▸ hrow')
    · rw [hmark]
      exact h.absent (hother ▸ hnone)
    · rw [hmark, hexecutions]
      simpa [Mark.ends, hcopy, hk] using hended
    · exact (h.succeeded row' (hother ▸ hrow') hstatus).mono _

/-- The end of an execution: what it saves is no attempt, and a success only with its answer. -/
theorem Accounted.finish {x : UUID} {running : Execution} {attempt : Attempt}
    (h : Accounted k s log) (now : Int) (hx : s.executions.get? x = some running)
    (hexecutions : s'.executions = s.executions.erase x)
    (hrow : ∀ row', s'.deliveries.get? k = some row' → ∃ row, s.deliveries.get? k = some row ∧
      row'.attemptCount = row.attemptCount ∧
      (row' = row ∨ (running.delivery.pk = k ∧ ∃ copy,
        settle now running.delivery attempt = some copy ∧ row' = saveResult copy row)))
    (hnone : s'.deliveries.get? k = none → s.deliveries.get? k = none) :
    Accounted k s' (log ++ [Mark.ended running.delivery attempt]) := by
  have hmark : (log ++ [Mark.ended running.delivery attempt]).countP (Mark.reserves k) =
      log.countP (Mark.reserves k) := by
    simp [Mark.reserves]
  refine ⟨fun row' hget => ?_, fun hget => ?_, ?_, fun row' hget hstatus => ?_⟩
  · obtain ⟨row, hold, hcount, -⟩ := hrow row' hget
    rw [hmark, hcount]
    exact h.count row hold
  · rw [hmark]
    exact h.absent (hnone hget)
  · have hended := h.ended
    have herase := Table.countP_erase hx fun y => y.delivery.pk = k
    rw [hmark, hexecutions, List.countP_append, List.countP_singleton]
    by_cases hk : running.delivery.pk = k
    · simp only [Mark.ends, hk, decide_true, if_true] at herase ⊢
      omega
    · simp only [Mark.ends, hk, decide_false, Bool.false_eq_true, if_false] at herase ⊢
      omega
  · obtain ⟨row, hold, -, hsame | ⟨hk, copy, hcopy, hsaved⟩⟩ := hrow row' hget
    · rw [hsame] at hstatus ⊢
      exact (h.succeeded row hold hstatus).mono _
    · rw [hsaved] at hstatus ⊢
      obtain ⟨code, text, rfl, hle, hlt, hcode, hbody⟩ := settle_succeeded hcopy hstatus
      exact ⟨running.delivery, code, text, List.mem_append_right _ List.mem_cons_self, hk, hle, hlt,
        hcode, hbody⟩

theorem Accounted.next {e : Int × Event} (h : Accounted k s log)
    (hs : step settings s e = some s') : Accounted k s' (log ++ (mark? settings s e).toList) := by
  obtain ⟨now, event⟩ := e
  obtain ⟨-, hmove⟩ := Move.of_step hs
  cases hmove with
  | emitted he =>
      rw [mark?, Option.toList_none, List.append_nil]
      exact h.unmarked (he.deliveries.fresh k) (he.deliveries.kept k)
        (Nat.le_of_eq (by rw [he.executions]))
  | dispatched =>
      rw [mark?, Option.toList_none, List.append_nil]
      exact h.unmarked (fun _ => Or.inl) (fun _ => id) (Nat.le_refl _)
  | missed hres =>
      rw [mark?, hres, Option.map_none, Option.toList_none, List.append_nil]
      exact h.unmarked (fun _ => Or.inl) (fun _ => id) (Nat.le_refl _)
  | @reserved i x message row copy executions hq hrow hres hins =>
      have hpk : message.deliveryId = copy.pk := ((reserve_pk hres).trans (pk_of_row hrow)).symm
      rw [mark?, reserved?_start hq hrow hres]
      refine h.reserve (hpk ▸ hrow) hres rfl (fun j => ?_) (Table.insert?_eq_some hins).2
      rw [get?_reserved hrow hres, hpk]
  | @dropped x attempt running hx hesc =>
      rw [mark?_finish hx]
      refine h.finish now hx rfl (fun row hget => ?_) id
      exact ⟨row, hget, rfl, Or.inl rfl⟩
  | @saved x attempt running copy hx hsaved =>
      have hcopy := settle_of_saved? hsaved
      rw [mark?_finish hx]
      have hpk : copy.pk = running.delivery.pk := (sameAttempt_of_settle hcopy).pk
      refine h.finish now hx rfl (fun row' hget => ?_) fun hget => ?_
      · rw [get?_saved] at hget
        split at hget
        · rename_i hk
          obtain ⟨row, hold, rfl⟩ := Option.map_eq_some_iff.mp hget
          exact ⟨row, hold, rfl, Or.inr ⟨hpk.symm.trans hk.symm, copy, hcopy, rfl⟩⟩
        · exact ⟨row', hget, rfl, Or.inl rfl⟩
      · rw [get?_saved] at hget
        split at hget
        · exact Option.map_eq_none_iff.mp hget
        · exact hget
  | @crashed x running redelivered hx =>
      rw [mark?, Option.toList_none, List.append_nil]
      have herase := Table.countP_erase hx fun y => y.delivery.pk = k
      refine h.unmarked (fun _ => Or.inl) (fun _ => id) ?_
      show (s.executions.erase x).rows.countP _ ≤ _
      omega

end Step

/-! ### Whole runs

None of it needs a condition on the order of steps.
-/

/-- **Deliveries account for what was sent.**  After any run the table of deliveries is, row for
row, the events with the endpoints subscribed to each; the count of a row is the number of times
it was reserved, no fewer than the exchanges that have come to an end; and where a row says that
it was delivered, one of these ended in the success whose answer the row shows. -/
theorem deliveries_accounted (settings : Settings) (endpoints : Table WebhookEndpoint)
    (clock : Int) (es : List (Int × Event))
    (hrun : exec (step settings) (State.init endpoints clock) es = some s) :
    (s.deliveries.rows.map WebhookDelivery.route =
      s.events.rows.flatMap fun event =>
        (subscribed endpoints event).map fun endpoint => (event.pk, endpoint.pk)) ∧
    ∀ row ∈ s.deliveries,
      let log := collect (step settings) (mark? settings) (State.init endpoints clock) es
      row.attemptCount = log.countP (Mark.reserves row.pk) ∧
      log.countP (Mark.ends row.pk) ≤ row.attemptCount ∧
      (row.status = .succeeded → Answered row.pk row log) := by
  constructor
  · have hmirrors : Mirrors endpoints s :=
      Reachable.inv ⟨es, hrun⟩ (mirrors_init endpoints clock) fun _ _ _ h hs => h.next hs
    exact hmirrors.routes
  · intro row hrow log
    have hget : s.deliveries.get? row.pk = some row := Table.get?_of_mem hrow
    have haccounted : Accounted row.pk s ([] ++ log) :=
      exec_collect_of_inv (fun _ _ _ _ h hs => h.next hs)
        (accounted_init row.pk endpoints clock) hrun
    rw [List.nil_append] at haccounted
    have hcount := haccounted.count row hget
    have hended := haccounted.ended
    exact ⟨hcount, by omega, haccounted.succeeded row hget⟩

/-- One event, refused by the endpoint at first and then taken. -/
def retriedRun : List (Int × Event) :=
  [(0, .emit ⟨1, "user.created", "", 0⟩ id), (0, .dispatch), (0, .start 0 1),
   (1, .finish 1 (.response 500 "later")), (seconds 31, .dispatch), (seconds 31, .start 0 2),
   (seconds 32, .finish 2 (.response 204 "taken"))]

theorem deliveries_accounted_retried : ∃ s,
    exec (step .postgresql) (State.init oneEndpoint 0) retriedRun = some s ∧
    s.deliveries.rows.map (fun row => (row.route, row.status, row.attemptCount, row.responseCode)) =
      [((1, 1), .succeeded, 2, some 204)] ∧
    ∀ row ∈ s.deliveries,
      let log := collect (step .postgresql) (mark? .postgresql) (State.init oneEndpoint 0) retriedRun
      row.attemptCount = log.countP (Mark.reserves row.pk) ∧
      log.countP (Mark.ends row.pk) ≤ row.attemptCount ∧
      (row.status = .succeeded → Answered row.pk row log) := by
  have hrows : (exec (step .postgresql) (State.init oneEndpoint 0) retriedRun).map (fun s =>
      s.deliveries.rows.map fun row => (row.route, row.status, row.attemptCount, row.responseCode)) =
        some [((1, 1), .succeeded, 2, some 204)] := by decide +kernel
  obtain ⟨s, hs, hrows⟩ := Option.map_eq_some_iff.mp hrows
  exact ⟨s, hs, hrows, (deliveries_accounted .postgresql oneEndpoint 0 retriedRun hs).2⟩

end DjangoFoundation.Webhooks
