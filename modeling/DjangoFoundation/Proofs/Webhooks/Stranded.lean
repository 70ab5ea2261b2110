/-
No unfinished delivery drops out of sight, and which ones are looked at in vain.

The three selections of a round ask for a status and for one column that goes with it:
a pending row has no retry time, a failed one has one, a processing one has the time of
its attempt.  Saves write status and retry time together and reservations status and
attempt time, so whatever order they come in, the column is as its status needs it.

A task then gets past both early returns, and the reservation is made if the count of
attempts has room.  Nothing ends the attempts of a delivery that escapes the handler, so
there are runs that fill it, where the column has an end; the row is selected round after
round from then on, and no task can take it.
-/
import DjangoFoundation.Proofs.Webhooks.Retries

namespace DjangoFoundation.Webhooks

variable {settings : Settings} {s s' : State}

/-- The column each status is selected by is filled in as the selection expects. -/
structure WebhookDelivery.Selectable (row : WebhookDelivery) : Prop where
  pending : row.status = .pending → row.nextRetryAt = none
  failed : row.status = .failed → ∃ t, row.nextRetryAt = some t
  processing : row.status = .processing → ∃ t, row.lastAttemptAt = some t

/-! ### The invariant

No step needs to know the order of those before it: each writes the status together with the
column it needs.
-/

private theorem selectable_of_fresh {row : WebhookDelivery} (h : row.IsFresh) :
    row.Selectable := by
  refine ⟨fun _ => h.nextRetryAt, fun hst => ?_, fun hst => ?_⟩ <;>
    · rw [h.status] at hst
      cases hst

private theorem selectable_of_reserve {now : Int} {row copy : WebhookDelivery}
    (h : reserve settings now row = .ok (some copy)) : copy.Selectable := by
  have hproc := reserve_status h
  refine ⟨fun hst => ?_, fun hst => ?_, fun _ => ⟨now, reserve_lastAttemptAt h⟩⟩ <;>
    · rw [hproc] at hst
      cases hst

private theorem selectable_of_settle {now : Int} {delivery copy row : WebhookDelivery}
    {attempt : Attempt} (h : settle now delivery attempt = some copy) :
    (saveResult copy row).Selectable := by
  have hstatus : (saveResult copy row).status = copy.status := rfl
  have hnext : (saveResult copy row).nextRetryAt = copy.nextRetryAt := rfl
  rcases settled_of_settle h with ⟨_, hs, hn⟩ | ⟨_, _, hs, hn⟩ | ⟨_, _, hs, hn⟩
  · refine ⟨?_, ?_, ?_⟩ <;> simp [hstatus, hs]
  · refine ⟨?_, ?_, ?_⟩ <;> simp [hstatus, hs]
  · refine ⟨?_, ?_, ?_⟩ <;> simp [hstatus, hs, hnext, hn]

/-- Every delivery of a state can be selected by its status. -/
def State.AllSelectable (s : State) : Prop :=
  ∀ k row, s.deliveries.get? k = some row → row.Selectable

theorem State.AllSelectable.next {e : Int × Event} (hinv : s.AllSelectable)
    (hs : step settings s e = some s') : s'.AllSelectable := by
  obtain ⟨now, event⟩ := e
  obtain ⟨_, hmove⟩ := Move.of_step hs
  intro k row hrow
  cases hmove.effect k with
  | untouched hsame hx =>
      rcases hsame with hsame | ⟨_, row', hrow', hfresh⟩
      · exact hinv k row (hsame.symm.trans hrow)
      · rw [hrow, Option.some.injEq] at hrow'
        exact selectable_of_fresh (hrow' ▸ hfresh)
  | reserved _ _ _ hres hrow' _ =>
      rw [hrow, Option.some.injEq] at hrow'
      exact selectable_of_reserve (hrow' ▸ hres)
  | saved _ _ hcopy hrow' _ =>
      rw [hrow, eq_comm, Option.map_eq_some_iff] at hrow'
      obtain ⟨row₀, _, rfl⟩ := hrow'
      exact selectable_of_settle (settle_of_saved? hcopy)

theorem allSelectable_of_reachable {endpoints : Table WebhookEndpoint} {clock : Int}
    (h : Run.Reachable (step settings) (State.init endpoints clock) s) : s.AllSelectable := by
  refine h.inv ?_ fun _ _ _ hinv hs => hinv.next hs
  intro k row hrow
  cases hrow

/-! ### Selection and reservation

That a row is selected is a matter of waiting.  That its task then reserves it hangs on the
count alone.
-/

/-- From some time on an unfinished row is selected in every state that still has it. -/
private theorem selects_eventually {row : WebhookDelivery} (h : row.Selectable)
    (hopen : ¬row.status.Finished) :
    ∃ since : Int, ∀ (s : State) (t : Int), s.endpointActive row = true → since ≤ t →
      s.Selects t row := by
  cases hst : row.status with
  | pending =>
      refine ⟨0, fun s t hactive _ => (selects_iff hactive).mpr ?_⟩
      exact Or.inl ⟨hst, h.pending hst⟩
  | failed =>
      obtain ⟨t₀, ht₀⟩ := h.failed hst
      refine ⟨t₀, fun s t hactive hle => (selects_iff hactive).mpr ?_⟩
      exact Or.inr (Or.inl ⟨hst, t₀, ht₀, hle⟩)
  | processing =>
      obtain ⟨t₀, ht₀⟩ := h.processing hst
      refine ⟨t₀ + reservationAge + 1, fun s t hactive hle => (selects_iff hactive).mpr ?_⟩
      exact Or.inr (Or.inr ⟨hst, t₀, ht₀, by omega⟩)
  | succeeded => exact absurd (Or.inl hst) hopen
  | abandoned => exact absurd (Or.inr hst) hopen

/-- A delivery that is left as it is, is selected from some time on. -/
def SelectedEventually (k : UUID) (row : WebhookDelivery) : Prop :=
  ∃ since : Int, ∀ (s : State) (t : Int), s.deliveries.get? k = some row →
    s.endpointActive row = true → since ≤ t → s.Selects t row

/-- A task that finds the row as a round selected it reserves it. -/
def ReservedWhenSelected (settings : Settings) (k : UUID) (row : WebhookDelivery) : Prop :=
  ∀ (s s' : State) (t t' : Int) (i : Nat) (x : UUID) (message : Message),
    s.deliveries.get? k = some row → s.Selects t row → t ≤ t' → s'.queue[i]? = some message →
    message.deliveryId = k → s'.deliveries.get? k = some row →
    (reserved? settings s' (t', .start i x)).isSome = true

private theorem reservedWhenSelected_of_hasRoom {k : UUID} {row : WebhookDelivery}
    (hroom : row.HasRoom settings) : ReservedWhenSelected settings k row := by
  intro s s' t t' i x message _ hs hle hq hk hrow'
  have hfree := free_of_selects (active_of_selects hs) hs hle
  rw [reserved?_start hq (hk ▸ hrow') (reserve_eq_some.mpr ⟨hfree, hroom, rfl⟩)]
  rfl

/-- Of a full row no task makes a reservation, whatever else has happened. -/
private theorem not_reserved_of_full {k : UUID} {row : WebhookDelivery}
    (hfull : ¬row.HasRoom settings) (s : State) (e : Int × Event)
    (hrow : s.deliveries.get? k = some row) :
    ∀ copy, reserved? settings s e = some copy → copy.pk ≠ k := by
  intro copy hcopy hk
  obtain ⟨now, event⟩ := e
  obtain ⟨_, _, _, row', _, _, _, hrow', hres⟩ := reserved?_eq_some hcopy
  rw [hk, hrow, Option.some.injEq] at hrow'
  subst hrow'
  exact hfull (reserve_eq_some.mp hres).2.1

private theorem reserved?_of_full {k : UUID} {row : WebhookDelivery} {t : Int} {i : Nat} {x : UUID}
    (hfull : ¬row.HasRoom settings) (hrow : s.deliveries.get? k = some row)
    (hqueue : s.queue = [⟨k, row⟩]) : reserved? settings s (t, .start i x) = none := by
  refine Option.eq_none_iff_forall_ne_some.mpr fun copy hcopy => ?_
  obtain ⟨_, _, message, _, _, hq, hid, _, _⟩ := reserved?_eq_some hcopy
  have hmessage : message ∈ s.queue := List.mem_of_getElem? hq
  rw [hqueue, List.mem_singleton] at hmessage
  rw [hmessage] at hid
  exact not_reserved_of_full hfull s _ hrow copy hcopy hid.symm

/-- The task of a round that has just selected a full row makes none. -/
private theorem not_reservedWhenSelected {k : UUID} {row : WebhookDelivery} {t : Int}
    (hfull : ¬row.HasRoom settings) (hrow : s.deliveries.get? k = some row)
    (hs : s.Selects t row) : ¬ReservedWhenSelected settings k row := by
  intro hreserved
  let queued := { s with queue := [⟨k, row⟩] }
  have hsome := hreserved s queued t t 0 0 ⟨k, row⟩ hrow hs (Int.le_refl t) rfl rfl hrow
  rw [reserved?_of_full (s := queued) hfull hrow rfl] at hsome
  cases hsome

/-- **No delivery is stranded whose count has room, and every full one is.**  In every
reachable state, an unfinished delivery is selected from some time on by every round that
finds it unchanged and its endpoint active; and a task that finds it as a round selected it
reserves it exactly if the column of its count holds one attempt more. -/
theorem no_delivery_stranded_iff {endpoints : Table WebhookEndpoint} {clock : Int} {k : UUID}
    {row : WebhookDelivery}
    (h : Run.Reachable (step settings) (State.init endpoints clock) s)
    (hrow : s.deliveries.get? k = some row) (hopen : ¬row.status.Finished)
    (hactive : s.endpointActive row = true) :
    (SelectedEventually k row ∧ ReservedWhenSelected settings k row ↔ row.HasRoom settings) ∧
    SelectedEventually k row ∧
    (¬row.HasRoom settings → ∀ (s' : State) (e : Int × Event),
      s'.deliveries.get? k = some row →
        ∀ copy, reserved? settings s' e = some copy → copy.pk ≠ k) := by
  have hsel := allSelectable_of_reachable h k row hrow
  obtain ⟨since, hsince⟩ := selects_eventually hsel hopen
  have hseen : SelectedEventually k row := ⟨since, fun s' t _ hact hle => hsince s' t hact hle⟩
  refine ⟨⟨fun ⟨_, hreserved⟩ => ?_, fun hroom => ⟨hseen, reservedWhenSelected_of_hasRoom hroom⟩⟩,
    hseen, fun hfull s' e hrow' => not_reserved_of_full hfull s' e hrow'⟩
  by_contra hfull
  exact not_reservedWhenSelected hfull hrow (hsince s since hactive (Int.le_refl since)) hreserved

theorem no_delivery_stranded_emitted :
    ∃ s row, Run.exec (step .postgresql) (State.init oneEndpoint 0)
        [(0, .emit ⟨1, "user.created", "", 0⟩ fun _ => 1)] = some s ∧
      s.deliveries.get? 1 = some row ∧ SelectedEventually 1 row ∧
      ReservedWhenSelected .postgresql 1 row := by
  obtain ⟨s, hs, hobs⟩ := Option.map_eq_some_iff.mp
    (show (Run.exec (step .postgresql) (State.init oneEndpoint 0)
        [(0, .emit ⟨1, "user.created", "", 0⟩ fun _ => 1)]).map
        (fun s =>
          (s.deliveries.get? 1, s.endpointActive ⟨1, 1, 1, .pending, 0, none, "", none, none⟩))
        = some (some ⟨1, 1, 1, .pending, 0, none, "", none, none⟩, true) by decide)
  rw [Prod.mk.injEq] at hobs
  have hrow := (no_delivery_stranded_iff ⟨_, hs⟩ hobs.1 (by decide) hobs.2).1.mpr
    (hasRoom_of_lt (by decide))
  exact ⟨s, _, hs, hobs.1, hrow⟩

/-! ### A run that fills the count

Sixteen minutes are enough for a round to take up a reservation that has come to nothing, and a
delivery that escapes comes to nothing each time.  One round is stated for any count and any
two times far enough apart.
-/

section Full

variable {n : Nat} {t t' : Int} {x : UUID}

/-- The one delivery, processing since its reservation number `n`. -/
def escapedRow (n : Nat) (t : Int) : WebhookDelivery where
  pk := 1
  endpoint := 1
  event := 1
  status := .processing
  attemptCount := n
  lastAttemptAt := some t

/-- With nothing in flight but what is named. -/
def escapedState (n : Nat) (t clock : Int) (queue : List Message) (executions : Table Execution) :
    State where
  endpoints := oneEndpoint
  events := {⟨1, "user.created", "", 0⟩}
  deliveries := {escapedRow n t}
  queue := queue
  executions := executions
  clock := clock

/-- A later round selects the row, whatever it has counted to. -/
theorem dispatch_escapedState (h : t < t' - reservationAge) :
    dispatchPendingWebhooks .postgresql t' (escapedState n t t' [] ∅) = [escapedRow n t] := by
  have hrows : (escapedState n t t' [] ∅).deliveries.rows = [escapedRow n t] := rfl
  have hactive : (escapedState n t t' [] ∅).endpointActive (escapedRow n t) = true := rfl
  have hpending : (escapedState n t t' [] ∅).selectsPending (escapedRow n t) = false := by
    simp [State.selectsPending, escapedRow]
  have hfailed : (escapedState n t t' [] ∅).selectsFailed t' (escapedRow n t) = false := by
    simp [State.selectsFailed, escapedRow]
  have hstale : (escapedState n t t' [] ∅).selectsStale t' (escapedRow n t) = true := by
    rw [State.selectsStale, hactive]
    simp [escapedRow, h]
  simp [dispatchPendingWebhooks, Settings.postgresql, hrows, hpending, hfailed, hstale]

theorem reserve_escapedRow (h : t < t' - reservationAge) (hn : n < maxAttemptCount) :
    reserve .postgresql t' (escapedRow n t) = .ok (some (escapedRow (n + 1) t')) := by
  refine reserve_eq_some.mpr ⟨⟨?_, ?_⟩, hasRoom_of_lt hn, rfl⟩
  · rintro (h | h) <;> cases h
  · rintro - _ ⟨⟩
    exact Int.le_of_lt h

theorem step_of_le {settings : Settings} {s : State} {now : Int} (event : Event)
    (h : s.clock ≤ now) :
    step settings s (now, event) = apply settings now { s with clock := now } event :=
  if_pos h

theorem step_dispatch (h : t < t' - reservationAge) :
    step .postgresql (escapedState n t t [] ∅) (t', .dispatch) =
      some (escapedState n t t' [⟨1, escapedRow n t⟩] ∅) := by
  have hclock : (escapedState n t t [] ∅).clock ≤ t' := by
    have : 0 ≤ reservationAge := by decide
    show t ≤ t'
    omega
  have hsel := dispatch_escapedState (n := n) h
  rw [step_of_le _ hclock]
  show apply .postgresql t' (escapedState n t t' [] ∅) .dispatch = _
  rw [apply, hsel]
  rfl

theorem step_start (h : t < t' - reservationAge) (hn : n < maxAttemptCount) :
    step .postgresql (escapedState n t t' [⟨1, escapedRow n t⟩] ∅) (t', .start 0 x) =
      some (escapedState (n + 1) t' t' [] {⟨x, ⟨1, escapedRow n t⟩, escapedRow (n + 1) t'⟩}) := by
  rw [step_of_le _ (Int.le_refl t')]
  show startDelivery .postgresql t' (escapedState n t t' [⟨1, escapedRow n t⟩] ∅) 0 x = _
  have hrow : ({escapedRow n t} : Table WebhookDelivery).get? 1 = some (escapedRow n t) := rfl
  have hmodify (f : WebhookDelivery → WebhookDelivery) (hf) :
      ({escapedRow n t} : Table WebhookDelivery).modify 1 f hf = {f (escapedRow n t)} :=
    Table.modify_singleton (escapedRow n t) f hf
  simp only [startDelivery, escapedState, List.getElem?_cons_zero, Option.bind_eq_bind,
    Option.bind_some, hrow, reserve_escapedRow h hn, hmodify, Table.insert?_empty]
  rfl

theorem step_finish :
    step .postgresql (escapedState (n + 1) t' t' [] {⟨x, ⟨1, escapedRow n t⟩, escapedRow (n + 1) t'⟩})
      (t', .finish x (.raised (.other "ValueError"))) =
      some (escapedState (n + 1) t' t' [] ∅) := by
  rw [step_of_le _ (Int.le_refl t')]
  rw [apply]
  have hx := Table.get?_singleton (⟨x, ⟨1, escapedRow n t⟩, escapedRow (n + 1) t'⟩ : Execution)
  have herase := Table.erase_singleton
    (⟨x, ⟨1, escapedRow n t⟩, escapedRow (n + 1) t'⟩ : Execution)
  have hpk : Keyed.pk (⟨x, ⟨1, escapedRow n t⟩, escapedRow (n + 1) t'⟩ : Execution) = x := rfl
  rw [hpk] at hx herase
  simp only [finishDelivery, escapedState, hx, Option.bind_eq_bind, Option.bind_some, herase,
    saved?, settle, Option.filter_none]

/-- One round more. -/
theorem exec_escapingRound (h : t < t' - reservationAge) (hn : n < maxAttemptCount) :
    Run.exec (step .postgresql) (escapedState n t t [] ∅)
      [(t', .dispatch), (t', .start 0 x), (t', .finish x (.raised (.other "ValueError")))] =
      some (escapedState (n + 1) t' t' [] ∅) := by
  simp only [Run.exec_cons, step_dispatch h, step_start h hn, step_finish, Option.bind_some,
    Run.exec_nil]

theorem exec_escapingRun_one :
    Run.exec (step .postgresql) (State.init oneEndpoint 0) (escapingRun 1) =
      some (escapedState 1 0 0 [] ∅) := by
  have hemit : step .postgresql (State.init oneEndpoint 0)
      (0, .emit ⟨1, "user.created", "", 0⟩ fun _ => 1) = some {
        State.init oneEndpoint 0 with
        events := {⟨1, "user.created", "", 0⟩}
        deliveries := {({ pk := 1, endpoint := 1, event := 1 } : WebhookDelivery)} } := rfl
  have hzero : minutes (16 * ((0 : Nat) : Int)) = 0 := rfl
  simp only [escapingRun, List.range_succ, List.range_zero, List.nil_append, List.flatMap_cons,
    List.flatMap_nil, List.append_nil, hzero, Run.exec_cons, hemit, Option.bind_some]
  rfl

/-- After `n + 1` rounds the row has counted to `n + 1`, as long as it can. -/
theorem exec_escapingRun (hn : n < maxAttemptCount) :
    Run.exec (step .postgresql) (State.init oneEndpoint 0) (escapingRun (n + 1)) =
      some (escapedState (n + 1) (minutes (16 * n)) (minutes (16 * n)) [] ∅) := by
  induction n with
  | zero => exact exec_escapingRun_one
  | succ n ih =>
      have hrounds : escapingRun (n + 1 + 1) = escapingRun (n + 1) ++
          [(minutes (16 * (n + 1 : Nat)), .dispatch), (minutes (16 * (n + 1 : Nat)), .start 0 (n + 1)),
            (minutes (16 * (n + 1 : Nat)), .finish (n + 1) (.raised (.other "ValueError")))] := by
        rw [escapingRun, List.range_succ, List.flatMap_append, List.flatMap_singleton]
        rfl
      have hlate : minutes (16 * n) < minutes (16 * (n + 1 : Nat)) - reservationAge := by
        simp only [minutes, seconds, reservationAge]
        push_cast
        omega
      rw [hrounds, Run.exec_append, ih (by omega), Option.bind_some,
        exec_escapingRound hlate (by omega)]

/-- The round after the last one there is room for selects the row, and its task is in vain. -/
theorem escaping_delivery_stranded :
    ∃ s s' row, Run.exec (step .postgresql) (State.init oneEndpoint 0)
        (escapingRun maxAttemptCount) = some s ∧
      s.deliveries.get? 1 = some row ∧ ¬row.status.Finished ∧ s.endpointActive row = true ∧
      step .postgresql s (minutes (16 * maxAttemptCount), .dispatch) = some s' ∧
      s'.queue = [⟨1, row⟩] ∧
      reserved? .postgresql s' (minutes (16 * maxAttemptCount), .start 0 0) = none ∧
      ¬(SelectedEventually 1 row ∧ ReservedWhenSelected .postgresql 1 row) := by
  have hrun : Run.exec (step .postgresql) (State.init oneEndpoint 0) (escapingRun maxAttemptCount) =
      some (escapedState maxAttemptCount (minutes (16 * 32766)) (minutes (16 * 32766)) [] ∅) :=
    exec_escapingRun (n := 32766) (by decide)
  have hlate : minutes (16 * 32766) < minutes (16 * maxAttemptCount) - reservationAge := by decide
  generalize minutes (16 * 32766) = t at hrun hlate
  generalize minutes (16 * maxAttemptCount) = t' at hlate
  have hselected := dispatch_escapedState (n := maxAttemptCount) hlate
  have hsel := (mem_dispatchPendingWebhooks (hselected ▸ List.mem_singleton_self _)).2
  have hrow (clock : Int) (queue : List Message) :
      (escapedState maxAttemptCount t clock queue ∅).deliveries.get? 1 =
        some (escapedRow maxAttemptCount t) := rfl
  have hfull : ¬(escapedRow maxAttemptCount t).HasRoom .postgresql :=
    fun hroom => Nat.lt_irrefl maxAttemptCount (of_decide_eq_true hroom)
  refine ⟨_, _, _, hrun, hrow t [], ?_, rfl, step_dispatch hlate, rfl, ?_, fun h => ?_⟩
  · rintro (h | h) <;> cases h
  · exact reserved?_of_full hfull (hrow t' _) rfl
  · exact not_reservedWhenSelected hfull (hrow t' []) hsel h.2

end Full

end DjangoFoundation.Webhooks
