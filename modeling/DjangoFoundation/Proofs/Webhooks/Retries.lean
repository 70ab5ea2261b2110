/-
How often a delivery is attempted.

The reservation counts attempts; only the handler that follows the HTTP exchange
compares the count with eight.  Everything that leaves the code between the two, a
worker that dies or an exception the handler does not name, leaves a row that recovery
reserves again whatever it has counted to.  So does a last save that the database
refuses: it comes after the `try` statement, and the row is processing still.  The bound
holds as long as the eighth attempt gets through its save, in time, and no earlier one
saves a failure after it began.
-/
import DjangoFoundation.Proofs.Webhooks.Moves

namespace DjangoFoundation.Webhooks

variable {settings : Settings} {k : UUID} {s s' : State} {e : Int × Event}

/-- Delivery `k` counts at most eight attempts, and none is added to eight. -/
structure AttemptsBounded (settings : Settings) (k : UUID) (s : State) (e : Int × Event)
    (s' : State) : Prop where
  count : ∀ row, s'.deliveries.get? k = some row → row.attemptCount ≤ 8
  last : ∀ row, s.deliveries.get? k = some row → row.attemptCount = 8 →
    ∀ copy, reserved? settings s e = some copy → copy.pk ≠ k

/-- Delivery `k` stands at its eighth attempt or beyond. -/
def AtLimit (k : UUID) (s : State) : Prop :=
  ∃ row, s.deliveries.get? k = some row ∧ 8 ≤ row.attemptCount

/-- The same, and it is not finished. -/
def OpenAtLimit (k : UUID) (s : State) : Prop :=
  ∃ row, s.deliveries.get? k = some row ∧ 8 ≤ row.attemptCount ∧ ¬row.status.Finished

/-- An execution of the eighth attempt at `k`, or of a later one. -/
def Execution.Eighth (k : UUID) (y : Execution) : Prop :=
  y.delivery.pk = k ∧ 8 ≤ y.delivery.attemptCount

/-- The eighth attempt at `k` gets through its save undisturbed. -/
structure EighthSaves (settings : Settings) (k : UUID) (s : State) (e : Int × Event)
    (_ : State) : Prop where
  /-- Its worker does not die. -/
  survives : ∀ x redelivered y, e.2 = .crash x redelivered → s.executions.get? x = some y →
    y.Eighth k → ¬OpenAtLimit k s
  /-- It leaves by no exception but the two the handler names, and the database takes the
  text of its answer. -/
  handled : ∀ x attempt y, e.2 = .finish x attempt → s.executions.get? x = some y →
    y.Eighth k → OpenAtLimit k s → ¬attempt.Lost settings y.delivery
  /-- No task for the delivery starts after its reservation has aged. -/
  inTime : ∀ i x message, e.2 = .start i x → s.queue[i]? = some message →
    message.deliveryId = k → OpenAtLimit k s →
    ∀ y ∈ s.executions, y.Eighth k → ∀ t, y.delivery.lastAttemptAt = some t →
      e.1 - reservationAge < t
  /-- No earlier execution saves a failure any more. -/
  noneEarlier : ∀ x attempt y, e.2 = .finish x attempt → s.executions.get? x = some y →
    y.delivery.pk = k → y.delivery.attemptCount < 8 → AtLimit k s → attempt.Fails →
    attempt.Lost settings y.delivery

/-- The eighth attempt is under way: the row is as its execution reserved it. -/
def Underway (k : UUID) (s : State) (row : WebhookDelivery) : Prop :=
  row.status = .processing ∧ ∃ y ∈ s.executions, y.Eighth k ∧
    ∃ t, row.lastAttemptAt = some t ∧ y.delivery.lastAttemptAt = some t

/-- A delivery that has counted to eight is finished or in its last attempt. -/
def Capped (k : UUID) (s : State) : Prop :=
  ∀ row, s.deliveries.get? k = some row → row.attemptCount ≤ 8 ∧
    (row.attemptCount = 8 → row.status.Finished ∨ Underway k s row)

/-- Steps that leave the row alone keep the invariant where they keep the execution of
an eighth attempt under way. -/
private theorem Capped.keep (h : Capped k s) (hrow : s'.deliveries.get? k = s.deliveries.get? k)
    (hx : OpenAtLimit k s → ∀ y ∈ s.executions, y.Eighth k → y ∈ s'.executions) :
    Capped k s' := by
  intro row hget
  rw [hrow] at hget
  obtain ⟨hle, hlast⟩ := h row hget
  refine ⟨hle, fun h8 => ?_⟩
  by_cases hfin : row.status.Finished
  · exact Or.inl hfin
  · rcases hlast h8 with hfin' | ⟨hproc, y, hy, hy8, ht⟩
    · exact absurd hfin' hfin
    · exact Or.inr ⟨hproc, y, hx ⟨row, hget, by omega, hfin⟩ y hy hy8, hy8, ht⟩

/-- A task that reserves `k` finds fewer than eight attempts. -/
private theorem Capped.lt_of_reserve {now : Int} {i : Nat} {x : UUID} {message : Message}
    {row copy : WebhookDelivery} (h : Capped k s) (hq : s.queue[i]? = some message)
    (hk : message.deliveryId = k) (hrow : s.deliveries.get? k = some row)
    (hres : reserve settings now row = .ok (some copy))
    (hc : EighthSaves settings k s (now, .start i x) s') :
    row.attemptCount < 8 := by
  obtain ⟨hle, hlast⟩ := h row hrow
  have hopen := not_finished_of_reserve hres
  by_contra hge
  rcases hlast (by omega) with hfin | ⟨hproc, y, hy, hy8, t, ht, hyt⟩
  · exact hopen hfin
  · -- its reservation is young, so this one cannot have gone through
    have hyoung := hc.inTime i x message rfl hq hk ⟨row, hrow, by omega, hopen⟩ y hy hy8 t hyt
    have hold := age_of_reserve hres hproc ht
    omega

theorem Capped.next (h : Capped k s) (hs : step settings s e = some s')
    (hc : EighthSaves settings k s e s') : Capped k s' := by
  obtain ⟨now, event⟩ := e
  obtain ⟨_, hmove⟩ := Move.of_step hs
  cases hmove with
  | emitted he =>
      intro row hget
      rcases he.deliveries.fresh k row hget with hold | ⟨_, hfresh⟩
      · obtain ⟨hle, hlast⟩ := h row hold
        refine ⟨hle, fun h8 => (hlast h8).imp_right ?_⟩
        rintro ⟨hproc, y, hy, hrest⟩
        refine ⟨hproc, y, ?_, hrest⟩
        rw [he.executions]
        exact hy
      · rw [hfresh.attemptCount]
        omega
  | dispatched => exact h.keep rfl fun _ _ hy _ => hy
  | missed => exact h.keep rfl fun _ _ hy _ => hy
  | @reserved i x message row copy executions hq hrow hres hins =>
      by_cases hk : message.deliveryId = k
      · subst hk
        have hlt := h.lt_of_reserve hq rfl hrow hres hc
        have hcount := reserve_attemptCount hres
        intro row' hget
        rw [get?_reserved hrow hres, if_pos rfl, Option.some.injEq] at hget
        subst hget
        refine ⟨by omega, fun h8 => Or.inr ⟨reserve_status hres, ⟨x, message, copy⟩, ?_, ?_, now,
          ?_⟩⟩
        · exact (Table.mem_insert? hins).mpr (Or.inr rfl)
        · exact ⟨(reserve_pk hres).trans (pk_of_row hrow), Nat.le_of_eq h8.symm⟩
        · exact ⟨reserve_lastAttemptAt hres, reserve_lastAttemptAt hres⟩
      · refine h.keep ?_ fun _ y hy _ => (Table.mem_insert? hins).mpr (Or.inl hy)
        rw [get?_reserved hrow hres, if_neg fun h => hk h.symm]
  | @dropped x attempt running hx hlost =>
      refine h.keep rfl fun hopen y hy hy8 => Table.mem_erase.mpr ⟨hy, ?_⟩
      rintro rfl
      have hget : s.executions.get? y.pk = some y := Table.get?_of_mem hy
      rw [show s.executions.get? (Keyed.pk y) = some y from hget, Option.some.injEq] at hx
      subst hx
      exact hc.handled y.pk attempt y rfl hget hy8 hopen hlost
  | @saved x attempt running copy hx hcopy =>
      obtain ⟨hpk, _, _⟩ := sameAttempt_of_settle (settle_of_saved? hcopy)
      by_cases hk : running.delivery.pk = k
      · intro row' hget
        rw [get?_saved, if_pos (hpk.trans hk).symm, Option.map_eq_some_iff] at hget
        obtain ⟨row, hrow, rfl⟩ := hget
        refine ⟨(h row hrow).1, fun h8 => Or.inl ?_⟩
        have h8 : row.attemptCount = 8 := h8
        show copy.status.Finished
        rcases settled_of_settle (settle_of_saved? hcopy) with
          ⟨_, hst, _⟩ | ⟨_, _, hst, _⟩ | ⟨hfail, hlt, _, _⟩
        · exact Or.inl hst
        · exact Or.inr hst
        · have hlimit : AtLimit k s := ⟨row, hrow, Nat.le_of_eq h8.symm⟩
          have hlost := hc.noneEarlier x attempt running rfl hx hk hlt hlimit hfail
          exact absurd hlost (not_lost_of_saved? hcopy)
      · refine h.keep ?_ fun _ y hy hy8 => Table.mem_erase.mpr ⟨hy, ?_⟩
        · rw [get?_saved, if_neg fun h => hk (hpk ▸ h.symm)]
        · rintro rfl
          rw [show s.executions.get? (Keyed.pk y) = some y from Table.get?_of_mem hy] at hx
          cases hx
          exact hk hy8.1
  | @crashed x running redelivered hx =>
      refine h.keep rfl fun hopen y hy hy8 => Table.mem_erase.mpr ⟨hy, ?_⟩
      rintro rfl
      exact hc.survives y.pk redelivered y rfl (Table.get?_of_mem hy) hy8 hopen

/-! ### Runs

The bound is read off the invariant at each state, and the absence of a ninth attempt at each
step.
-/

private theorem Capped.bounded (h : Capped k s) (h' : Capped k s')
    (hs : step settings s e = some s') (hc : EighthSaves settings k s e s') :
    AttemptsBounded settings k s e s' := by
  refine ⟨fun row hrow => (h' row hrow).1, fun row hrow h8 copy hcopy hk => ?_⟩
  obtain ⟨now, event⟩ := e
  obtain ⟨i, x, message, row', rfl, hq, hid, hrow', hres⟩ := reserved?_eq_some hcopy
  rw [hk, hrow, Option.some.injEq] at hrow'
  subst hrow'
  have := h.lt_of_reserve hq (hid.trans hk) hrow hres hc
  omega

/-- One event for one endpoint, and `n` attempts at delivering it, sixteen minutes
apart, that each end in an exception the handler does not name. -/
def escapingRun (n : Nat) : List (Int × Event) :=
  (0, .emit ⟨1, "user.created", "", 0⟩ fun _ => 1) ::
    (List.range n).flatMap fun (i : Nat) =>
      [(minutes (16 * i), .dispatch), (minutes (16 * i), .start 0 i),
        (minutes (16 * i), .finish i (.raised (.other "ValueError")))]

end DjangoFoundation.Webhooks
