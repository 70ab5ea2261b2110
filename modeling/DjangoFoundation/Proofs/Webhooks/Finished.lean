/-
A finished delivery and the executions that outlive it.

The lock of `deliver_webhook` ends with its reservation, and a reservation older than
fifteen minutes is handed to a second task while the first may still be running.
Whichever of them saves last writes the row, finished or not: the status of a finished
delivery stays exactly as long as nothing saves a different one over it.

The second half says when that cannot come up.  As long as no task starts while an
execution older than a reservation's age is still in flight, at most one execution of
a delivery runs at a time, and none of a finished one.
-/
import DjangoFoundation.Proofs.Webhooks.Moves

namespace DjangoFoundation.Webhooks

variable {settings : Settings} {k : UUID} {s s' : State} {now : Int} {event : Event}

/-- Delivery `k`, once finished, keeps its status and is not reserved. -/
def StaysFinished (settings : Settings) (k : UUID) (s : State) (e : Int × Event) (s' : State) :
    Prop :=
  ∀ row, s.deliveries.get? k = some row → row.status.Finished →
    (∃ row', s'.deliveries.get? k = some row' ∧ row'.status = row.status) ∧
    ∀ copy, reserved? settings s e = some copy → copy.pk ≠ k

/-- An execution that holds `delivery` and ends so leaves a row of this status as it is: it
saves nothing, or the same status again. -/
def Repeats (settings : Settings) (delivery : WebhookDelivery) (attempt : Attempt)
    (status : DeliveryStatus) : Prop :=
  attempt.Lost settings delivery ∨ (attempt.Succeeds ∧ status = .succeeded) ∨
    (attempt.Fails ∧ 8 ≤ delivery.attemptCount ∧ status = .abandoned)

/-- An execution of delivery `k` that gets to its end after the row was finished has
come to the outcome the row already has. -/
def NoConflictingSave (settings : Settings) (k : UUID) (s : State) (e : Int × Event)
    (_ : State) : Prop :=
  ∀ x attempt, e.2 = .finish x attempt →
    ∀ running, s.executions.get? x = some running → running.delivery.pk = k →
    ∀ row, s.deliveries.get? k = some row → row.status.Finished →
      Repeats settings running.delivery attempt row.status

/-! ### One step

Of all moves only a save can change the status of a finished row, and no task reserves one.
-/

/-- A save over a finished row keeps the status exactly where it repeats it. -/
private theorem status_eq_iff_repeats {attempt : Attempt} {delivery copy row : WebhookDelivery}
    (h : saved? settings now delivery attempt = some copy) (hfin : row.status.Finished) :
    copy.status = row.status ↔ Repeats settings delivery attempt row.status := by
  have hlost := not_lost_of_saved? h
  unfold Repeats
  rcases settled_of_settle (settle_of_saved? h) with
    ⟨hok, hs, _⟩ | ⟨hfail, hc, hs, _⟩ | ⟨hfail, hc, hs, _⟩
  · simp only [hs, hlost, hok, Attempt.Fails, eq_comm, false_or, not_true_eq_false, false_and,
      or_false, true_and]
  · simp only [hs, hlost, hfail, hfail.1, hc, eq_comm, false_or, false_and, true_and]
  · have hlt : ¬8 ≤ delivery.attemptCount := by omega
    simp only [hs, hlost, hfail.1, hlt, false_and, and_false, or_false, iff_false]
    intro hst
    rw [← hst] at hfin
    rcases hfin with h | h <;> cases h

/-- A step that leaves the row of `k` alone and reserves nothing is harmless to it. -/
private theorem staysFinished_of_same (hrow : s'.deliveries.get? k = s.deliveries.get? k)
    (hres : reserved? settings s (now, event) = none) :
    StaysFinished settings k s (now, event) s' := by
  intro row hk _
  refine ⟨⟨row, hrow.trans hk, rfl⟩, fun copy hcopy => ?_⟩
  rw [hres] at hcopy
  cases hcopy

/-- **One step.**  A finished delivery stays as it is exactly when no conflicting save
lands on it. -/
theorem staysFinished_step {e : Int × Event} (h : step settings s e = some s') :
    StaysFinished settings k s e s' ↔ NoConflictingSave settings k s e s' := by
  obtain ⟨now, event⟩ := e
  obtain ⟨_, hmove⟩ := Move.of_step h
  cases hmove with
  | emitted h =>
      refine iff_of_true ?_ (by intro x attempt he; cases he)
      intro row hk _
      exact ⟨⟨row, h.deliveries.kept k row hk, rfl⟩, fun copy hcopy => by cases hcopy⟩
  | dispatched =>
      exact iff_of_true (staysFinished_of_same rfl rfl) (by intro x attempt he; cases he)
  | missed hres =>
      exact iff_of_true (staysFinished_of_same rfl hres) (by intro x attempt he; cases he)
  | @reserved i x message row₀ copy _ hq hrow₀ hres _ =>
      refine iff_of_true ?_ (by intro x attempt he; cases he)
      intro row hk hfin
      have hne : k ≠ message.deliveryId := by
        intro hkm
        rw [hkm, hrow₀] at hk
        cases hk
        exact not_finished_of_reserve hres hfin
      refine ⟨⟨row, ?_, rfl⟩, fun copy' hcopy' => ?_⟩
      · rw [get?_reserved hrow₀ hres, if_neg hne, hk]
      · rw [reserved?_start hq hrow₀ hres] at hcopy'
        cases hcopy'
        rw [reserve_pk hres, pk_of_row hrow₀]
        exact hne.symm
  | @dropped x attempt running hx hlost =>
      refine iff_of_true (staysFinished_of_same rfl rfl) ?_
      intro x' attempt' he running' hx' _ row _ _
      cases he
      rw [hx, Option.some.injEq] at hx'
      subst hx'
      exact Or.inl hlost
  | @saved x attempt running copy hx hcopy =>
      have hpk : copy.pk = running.delivery.pk := (sameAttempt_of_settle (settle_of_saved? hcopy)).pk
      by_cases hk : running.delivery.pk = k
      · constructor
        · intro hstay x' attempt' he running' hx' _ row hrow hfin
          cases he
          rw [hx] at hx'
          cases hx'
          obtain ⟨⟨row', hrow', hst⟩, _⟩ := hstay row hrow hfin
          rw [get?_saved, if_pos (hpk.trans hk).symm, hrow] at hrow'
          cases hrow'
          exact (status_eq_iff_repeats hcopy hfin).mp hst
        · intro hcond row hrow hfin
          refine ⟨⟨saveResult copy row, ?_, ?_⟩, fun copy' hcopy' => by cases hcopy'⟩
          · rw [get?_saved, if_pos (hpk.trans hk).symm, hrow]
            rfl
          · exact (status_eq_iff_repeats hcopy hfin).mpr
              (hcond x attempt rfl running hx hk row hrow hfin)
      · refine iff_of_true (staysFinished_of_same ?_ rfl) ?_
        · rw [get?_saved, if_neg fun h => hk (hpk ▸ h.symm)]
        · intro x' attempt' he running' hx' hk'
          cases he
          rw [hx] at hx'
          cases hx'
          exact absurd hk' hk
  | crashed =>
      exact iff_of_true (staysFinished_of_same rfl rfl) (by intro x attempt he; cases he)

/-! ### Runs

The condition speaks of the step that saves and the row it saves over, so the equivalence goes
through step by step.
-/

/-- **A finished delivery stays finished exactly in the runs without a conflicting
save**, whatever state they start from. -/
theorem staysFinished_iff (settings : Settings) (k : UUID) (s : State)
    (es : List (Int × Event)) :
    Run.Steps (step settings) (StaysFinished settings k) s es ↔
      Run.Steps (step settings) (NoConflictingSave settings k) s es := by
  have hstep : ∀ s e s', True → step settings s e = some s' →
      (StaysFinished settings k s e s' ↔ NoConflictingSave settings k s e s') :=
    fun _ _ _ _ h => staysFinished_step h
  exact Run.steps_iff_of_inv hstep (fun _ _ _ _ _ _ => trivial) trivial es

/-- One endpoint, one event; a first worker takes over fifteen minutes, the recovery
round hands the delivery to a second one, which succeeds. -/
def recoveredRun : List (Int × Event) :=
  [(0, .emit ⟨1, "user.created", "", 0⟩ fun _ => 1), (0, .dispatch), (0, .start 0 1),
    (minutes 16, .dispatch), (minutes 16, .start 0 2),
    (minutes 17, .finish 2 (.response 200 ""))]

/-- The first worker then times out and saves its failure over the success. -/
theorem recovered_delivery_reverts :
    ¬Run.Steps (step .postgresql) (StaysFinished .postgresql 1) (State.init oneEndpoint 0)
      (recoveredRun ++ [(minutes 18, .finish 1 (.raised .httpError))]) := by
  intro h
  obtain ⟨t, t', hrow, hrow', hstay⟩ := h.last
    (f := fun s => (s.deliveries.get? 1).map (·.status)) (a := some .succeeded) (by decide)
    (g := fun s => (s.deliveries.get? 1).map (·.status)) (b := some .failed) (by decide)
  obtain ⟨row, hget, hst⟩ := Option.map_eq_some_iff.mp hrow
  obtain ⟨⟨row', hget', hst'⟩, _⟩ := hstay row hget (Or.inl hst)
  have : DeliveryStatus.failed = .succeeded := by
    rw [← Option.some.injEq, ← hrow', hget', Option.map_some, hst', hst]
  cases this

/-! ### Executions that end in time

A recovery looks for rows whose reservation is fifteen minutes old.  As long as no execution is
older than that when a task starts, there is never a second one.
-/

/-- Where a task starts, the executions of `k` in flight hold reservations younger than
a reservation's age. -/
def Prompt (k : UUID) (s : State) (e : Int × Event) (_ : State) : Prop :=
  ∀ i x, e.2 = .start i x → ∀ y ∈ s.executions, y.delivery.pk = k →
    ∀ t, y.delivery.lastAttemptAt = some t → e.1 - reservationAge < t

/-- At most one execution of `k` is in flight, and the row is as that one reserved it. -/
structure Solo (k : UUID) (s : State) : Prop where
  alone : ∀ x ∈ s.executions, ∀ y ∈ s.executions,
    x.delivery.pk = k → y.delivery.pk = k → x = y
  held : ∀ x ∈ s.executions, x.delivery.pk = k →
    ∃ row, s.deliveries.get? k = some row ∧ row.status = .processing ∧
      row.lastAttemptAt = x.delivery.lastAttemptAt ∧ row.lastAttemptAt ≠ none

theorem solo_init (k : UUID) (endpoints : Table WebhookEndpoint) (clock : Int) :
    Solo k (State.init endpoints clock) :=
  ⟨fun _ hx => absurd hx (Table.not_mem_empty _), fun _ hx => absurd hx (Table.not_mem_empty _)⟩

/-- While an execution of `k` holds a young reservation, no task reserves `k`. -/
private theorem Solo.not_reserve {row copy : WebhookDelivery} {y : Execution} (h : Solo k s)
    (hrow : s.deliveries.get? k = some row) (hy : y ∈ s.executions) (hk : y.delivery.pk = k)
    (hage : ∀ t, y.delivery.lastAttemptAt = some t → now - reservationAge < t) :
    reserve settings now row ≠ .ok (some copy) := by
  intro hres
  obtain ⟨row', hget, hproc, hlast, hne⟩ := h.held y hy hk
  rw [hrow, Option.some.injEq] at hget
  subst hget
  obtain ⟨t, ht⟩ := Option.ne_none_iff_exists'.mp hne
  have hyoung := hage t (hlast ▸ ht)
  have hold := age_of_reserve hres hproc ht
  omega

theorem Solo.next {e : Int × Event} (h : Solo k s) (hs : step settings s e = some s')
    (hprompt : Prompt k s e s') : Solo k s' := by
  obtain ⟨now, event⟩ := e
  obtain ⟨_, hmove⟩ := Move.of_step hs
  cases hmove.effect k with
  | untouched hrow hx =>
      refine ⟨fun y hy z hz hyk hzk => h.alone y (hx y hy hyk) z (hx z hz hzk) hyk hzk, ?_⟩
      intro y hy hyk
      obtain ⟨row, hget, hrest⟩ := h.held y (hx y hy hyk) hyk
      rcases hrow with hsame | ⟨hnone, _⟩
      · exact ⟨row, hsame.trans hget, hrest⟩
      · rw [hnone] at hget
        cases hget
  | @reserved i x message row copy _ hq hk hrow hres hrow' hx =>
      -- the row was free, so the new execution is the only one
      have honly : ∀ y ∈ s'.executions, y.delivery.pk = k → y = ⟨x, message, copy⟩ := by
        intro y hy hyk
        rcases hx y hy with hy | hy
        · exact absurd hres (h.not_reserve hrow hy hyk (hprompt i x rfl y hy hyk))
        · exact hy
      refine ⟨fun y hy z hz hyk hzk => (honly y hy hyk).trans (honly z hz hzk).symm, ?_⟩
      intro y hy hyk
      refine ⟨copy, hrow', reserve_status hres, ?_, ?_⟩
      · rw [honly y hy hyk]
      · rw [reserve_lastAttemptAt hres]
        simp
  | @saved x attempt running copy _ hget hk hcopy hrow' hx =>
      -- it was the only one
      have hnone : ∀ y ∈ s'.executions, y.delivery.pk ≠ k := by
        intro y hy hyk
        obtain ⟨hmem, hne⟩ := hx y hy
        exact hne (h.alone y hmem running (Table.mem_of_get? hget) hyk hk)
      exact ⟨fun y hy _ _ hyk => absurd hyk (hnone y hy), fun y hy hyk => absurd hyk (hnone y hy)⟩

/-- **Executions that end within a reservation's age cannot disturb each other.** -/
theorem staysFinished_of_prompt (settings : Settings) (k : UUID)
    (endpoints : Table WebhookEndpoint) (clock : Int) (es : List (Int × Event))
    (hprompt : Run.Steps (step settings) (Prompt k) (State.init endpoints clock) es) :
    Run.Steps (step settings) (StaysFinished settings k) (State.init endpoints clock) es := by
  refine Run.Steps.of_inv ?_ (solo_init k endpoints clock) hprompt
  intro s e s' hsolo hs hp
  refine ⟨hsolo.next hs hp, (staysFinished_step hs).mpr ?_⟩
  -- a save on a finished row would be of an execution that finds it processing
  intro x attempt _ running hx hk row hrow hfin
  obtain ⟨row', hget, hproc, _⟩ := hsolo.held running (Table.mem_of_get? hx) hk
  rw [hrow, Option.some.injEq] at hget
  subst hget
  rw [hproc] at hfin
  rcases hfin with h | h <;> cases h

end DjangoFoundation.Webhooks
