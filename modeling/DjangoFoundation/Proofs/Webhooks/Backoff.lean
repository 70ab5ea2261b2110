/-
How long a failed delivery is left alone.

`next_retry_at` is looked at where a round selects deliveries, and nowhere else: the
task that runs later reserves a failed row whatever its time.  So the wait is kept by
runs in which a task that finds a failed row finds it as the round that queued the task
did, and it is the right wait where a failure is saved by the latest attempt.

The second statement, on the distance between failed attempts, is about the history
of a run; `Behind` is what a failed attempt of that history means for every state after
it.
-/
import DjangoFoundation.Proofs.Webhooks.Moves

namespace DjangoFoundation.Webhooks

variable {settings : Settings} {k : UUID} {s s' : State} {e : Int × Event}

/-- No task reserves delivery `k` failed and before its time. -/
def NotBeforeRetry (settings : Settings) (k : UUID) (s : State) (e : Int × Event) (_ : State) :
    Prop :=
  ∀ row copy, s.deliveries.get? k = some row → reserved? settings s e = some copy → copy.pk = k →
    row.status = .failed → ∀ t, row.nextRetryAt = some t → t ≤ e.1

/-- The failed attempt at `k` that a step saves, if it saves one. -/
def failedIn (settings : Settings) (k : UUID) (s : State) : Int × Event → Option WebhookDelivery
  | (now, .finish x attempt) => do
      let running ← s.executions.get? x
      let copy ← saved? settings now running.delivery attempt
      if copy.pk = k ∧ copy.status ≠ .succeeded then some copy else none
  | _ => none

/-- The failed attempts at `k` in a run, in the order they were saved in. -/
def failedAttempts (settings : Settings) (k : UUID) : State → List (Int × Event) →
    List WebhookDelivery :=
  Run.collect (step settings) (failedIn settings k)

/-- The wait a failed attempt number `n` calls for. -/
def backoff (n : Nat) : Int :=
  seconds (30 * 2 ^ (n - 1))

/-- `b` was reserved no earlier than the wait after `a` allows. -/
def Spaced (a b : WebhookDelivery) : Prop :=
  ∃ ta tb, a.lastAttemptAt = some ta ∧ b.lastAttemptAt = some tb ∧
    ta + backoff a.attemptCount ≤ tb

/-- The backoff of `k` is respected in a run. -/
structure BackoffRespected (settings : Settings) (k : UUID) (s : State)
    (es : List (Int × Event)) : Prop where
  reservations : Run.Steps (step settings) (NotBeforeRetry settings k) s es
  spaced : ∀ a ∈ failedAttempts settings k s es, ∀ b ∈ failedAttempts settings k s es,
    a.attemptCount < b.attemptCount → Spaced a b

/-- Tasks and failures of `k` come in the order the code expects them in. -/
structure InOrder (settings : Settings) (k : UUID) (s : State) (e : Int × Event)
    (_ : State) : Prop where
  /-- A task that starts on a failed row finds it as the round that queued it did. -/
  current : ∀ i x message row, e.2 = .start i x → s.queue[i]? = some message →
    message.deliveryId = k → s.deliveries.get? k = some row → row.status = .failed →
    message.selected.status = .failed ∧ message.selected.nextRetryAt = row.nextRetryAt
  /-- A failure that is saved is that of the attempt the row was last reserved for. -/
  latest : ∀ x attempt y row, e.2 = .finish x attempt → s.executions.get? x = some y →
    y.delivery.pk = k → s.deliveries.get? k = some row → attempt.Fails →
    ¬attempt.Lost settings y.delivery → y.delivery.attemptCount = row.attemptCount

/-! ### Messages

A message carries the row as the round saw it.  A failed row that has not been written since is
due when its task comes, as time only goes on.
-/

/-- A message that found its delivery failed found it due. -/
def Message.Due (clock : Int) (message : Message) : Prop :=
  message.selected.status = .failed →
    ∀ t, message.selected.nextRetryAt = some t → t ≤ clock

/-- Every message on the queue, or in the hands of a worker, was due. -/
structure Dated (s : State) : Prop where
  queued : ∀ message ∈ s.queue, message.Due s.clock
  held : ∀ y ∈ s.executions, y.message.Due s.clock

theorem dated_init (endpoints : Table WebhookEndpoint) (clock : Int) :
    Dated (State.init endpoints clock) :=
  ⟨fun _ h => absurd h List.not_mem_nil, fun _ h => absurd h (Table.not_mem_empty _)⟩

private theorem Message.Due.later {clock now : Int} {message : Message}
    (h : message.Due clock) (hle : clock ≤ now) : message.Due now := by
  intro hst t ht
  have := h hst t ht
  omega

private theorem due_of_selects {now : Int} {row : WebhookDelivery} (h : s.Selects now row) :
    Message.Due now ⟨row.pk, row⟩ := by
  intro hst t ht
  have hst : row.status = .failed := hst
  have ht : row.nextRetryAt = some t := ht
  rcases h with h | h | h
  · simp [State.selectsPending, hst] at h
  · simp only [State.selectsFailed, ht, Option.any_some, decide_eq_true_eq] at h
    exact h.2.1
  · simp [State.selectsStale, hst] at h

theorem Dated.next (h : Dated s) (hs : step settings s e = some s') : Dated s' := by
  obtain ⟨now, event⟩ := e
  obtain ⟨hclock, hmove⟩ := Move.of_step hs
  have hqueue : ∀ message ∈ s.queue, message.Due now :=
    fun message hm => (h.queued message hm).later hclock
  have hheld : ∀ y ∈ s.executions, y.message.Due now :=
    fun y hy => (h.held y hy).later hclock
  have hsub : ∀ x, ∀ y ∈ s.executions.erase x, y.message.Due now :=
    fun x y hy => hheld y (Table.mem_erase.mp hy).1
  cases hmove with
  | emitted he =>
      refine ⟨fun message hm => ?_, fun y hy => ?_⟩
      · rw [he.clock]
        exact hqueue message (he.queue ▸ hm)
      · rw [he.clock]
        exact hheld y (he.executions ▸ hy)
  | dispatched =>
      refine ⟨fun message hm => ?_, hheld⟩
      rcases List.mem_append.mp hm with hm | hm
      · exact hqueue message hm
      · obtain ⟨row, hrow, rfl⟩ := List.mem_map.mp hm
        exact due_of_selects (mem_dispatchPendingWebhooks hrow).2
  | missed => exact ⟨fun m hm => hqueue m (List.mem_of_mem_eraseIdx hm), hheld⟩
  | reserved hq hrow hres hins =>
      refine ⟨fun m hm => hqueue m (List.mem_of_mem_eraseIdx hm), fun y hy => ?_⟩
      rcases (Table.mem_insert? hins).mp hy with hy | rfl
      · exact hheld y hy
      · exact hqueue _ (List.mem_of_getElem? hq)
  | dropped => exact ⟨hqueue, hsub _⟩
  | saved => exact ⟨hqueue, hsub _⟩
  | @crashed x running redelivered hx =>
      refine ⟨fun message hm => ?_, hsub x⟩
      have hm : message ∈ if redelivered then s.queue ++ [running.message] else s.queue := hm
      split at hm
      · rcases List.mem_append.mp hm with hm | hm
        · exact hqueue message hm
        · rw [List.mem_singleton.mp hm]
          exact hheld running (Table.mem_of_get? hx)
      · exact hqueue message hm

/-- A task that finds a failed row as it was queued finds it due. -/
theorem Dated.notBeforeRetry (h : Dated s) (hs : step settings s e = some s')
    (hc : InOrder settings k s e s') : NotBeforeRetry settings k s e s' := by
  obtain ⟨now, event⟩ := e
  obtain ⟨hclock, _⟩ := Move.of_step hs
  intro row copy hrow hcopy hk hst t ht
  obtain ⟨i, x, message, _, rfl, hq, hid, _, _⟩ := reserved?_eq_some hcopy
  obtain ⟨hsel, hnext⟩ := hc.current i x message row rfl hq (hid.trans hk) hrow hst
  have hdue := h.queued message (List.mem_of_getElem? hq) hsel t (hnext.trans ht)
  show t ≤ now
  omega

/-! ### Executions

The number of a reservation tells the executions of a delivery apart.
-/

/-- The executions of `k` are for different attempts, all counted by the row, and
reserved at times the clock has reached. -/
structure Counted (k : UUID) (s : State) : Prop where
  stamped : ∀ y ∈ s.executions, y.delivery.pk = k →
    ∃ t, y.delivery.lastAttemptAt = some t ∧ t ≤ s.clock
  below : ∀ y ∈ s.executions, y.delivery.pk = k →
    ∃ row, s.deliveries.get? k = some row ∧ y.delivery.attemptCount ≤ row.attemptCount
  distinct : ∀ y ∈ s.executions, ∀ z ∈ s.executions, y.delivery.pk = k → z.delivery.pk = k →
    y.delivery.attemptCount = z.delivery.attemptCount → y = z

theorem counted_init (k : UUID) (endpoints : Table WebhookEndpoint) (clock : Int) :
    Counted k (State.init endpoints clock) :=
  ⟨fun _ h => absurd h (Table.not_mem_empty _), fun _ h => absurd h (Table.not_mem_empty _),
    fun _ h => absurd h (Table.not_mem_empty _)⟩

theorem Counted.next (h : Counted k s) (hs : step settings s e = some s') : Counted k s' := by
  obtain ⟨now, event⟩ := e
  obtain ⟨hle, hmove⟩ := Move.of_step hs
  have hclock := hmove.clock
  cases hmove.effect k with
  | untouched hrow hx =>
      refine ⟨fun y hy hk => ?_, fun y hy hk => ?_, fun y hy z hz hyk hzk =>
        h.distinct y (hx y hy hyk) z (hx z hz hzk) hyk hzk⟩
      · obtain ⟨t, ht, hpast⟩ := h.stamped y (hx y hy hk) hk
        exact ⟨t, ht, by omega⟩
      · obtain ⟨row, hget, hcount⟩ := h.below y (hx y hy hk) hk
        rcases hrow with hsame | ⟨hnone, _⟩
        · exact ⟨row, hsame.trans hget, hcount⟩
        · rw [hnone] at hget
          cases hget
  | @reserved i x message row copy _ hq hk hrow hres hrow' hx =>
      have hcount := reserve_attemptCount hres
      have hbelow : ∀ y ∈ s.executions, y.delivery.pk = k →
          y.delivery.attemptCount < copy.attemptCount := by
        intro y hy hyk
        obtain ⟨row', hget, hle⟩ := h.below y hy hyk
        rw [hrow, Option.some.injEq] at hget
        subst hget
        omega
      refine ⟨fun y hy hyk => ?_, fun y hy hyk => ?_, fun y hy z hz hyk hzk heq => ?_⟩
      · rcases hx y hy with hy | rfl
        · obtain ⟨t, ht, hpast⟩ := h.stamped y hy hyk
          exact ⟨t, ht, by omega⟩
        · exact ⟨now, reserve_lastAttemptAt hres, by omega⟩
      · rcases hx y hy with hy | rfl
        · exact ⟨copy, hrow', Nat.le_of_lt (hbelow y hy hyk)⟩
        · exact ⟨copy, hrow', Nat.le_refl _⟩
      · rcases hx y hy with hy | rfl
        · rcases hx z hz with hz | rfl
          · exact h.distinct y hy z hz hyk hzk heq
          · have := hbelow y hy hyk
            have heq : y.delivery.attemptCount = copy.attemptCount := heq
            omega
        · rcases hx z hz with hz | rfl
          · have := hbelow z hz hzk
            have heq : copy.attemptCount = z.delivery.attemptCount := heq
            omega
          · rfl
  | @saved x attempt running copy _ hget hk hcopy hrow' hx =>
      refine ⟨fun y hy hyk => ?_, fun y hy hyk => ?_, fun y hy z hz =>
        h.distinct y (hx y hy).1 z (hx z hz).1⟩
      · obtain ⟨t, ht, hpast⟩ := h.stamped y (hx y hy).1 hyk
        exact ⟨t, ht, by omega⟩
      · obtain ⟨row, hrow, hcount⟩ := h.below y (hx y hy).1 hyk
        rw [hrow] at hrow'
        exact ⟨saveResult copy row, hrow', hcount⟩

/-! ### A failed attempt and what follows it

A failure saved by the latest attempt puts its wait on the row.  Until the row is reserved
again, nothing takes the wait off.
-/

/-- The row of an attempt that failed: finished, or waiting at least as long as the
attempt, reserved at `ta`, calls for. -/
def Waits (ta : Int) (n : Nat) (row : WebhookDelivery) : Prop :=
  row.status.Finished ∨
    row.status = .failed ∧ ∃ t, row.nextRetryAt = some t ∧ ta + backoff n ≤ t

/-- What the failed attempt `a`, reserved at `ta`, means for a later state. -/
structure Behind (k : UUID) (s : State) (a : WebhookDelivery) (ta : Int) : Prop where
  row : ∃ row, s.deliveries.get? k = some row ∧ a.attemptCount ≤ row.attemptCount ∧
    (a.attemptCount = row.attemptCount → Waits ta a.attemptCount row) ∧
    (a.attemptCount < row.attemptCount → ta + backoff a.attemptCount ≤ s.clock)
  done : ∀ y ∈ s.executions, y.delivery.pk = k → y.delivery.attemptCount ≠ a.attemptCount
  after : ∀ y ∈ s.executions, y.delivery.pk = k → a.attemptCount < y.delivery.attemptCount →
    ∃ t, y.delivery.lastAttemptAt = some t ∧ ta + backoff a.attemptCount ≤ t

/-- Up to the seventh attempt the wait is not cut short by its maximum of an hour. -/
private theorem backoffSeconds_eq {n : Nat} (h : n < 8) :
    backoffSeconds n = 30 * 2 ^ (n - 1) := by
  unfold backoffSeconds
  have hpow : 2 ^ (n - 1) ≤ 2 ^ 6 := Nat.pow_le_pow_right (by omega) (by omega)
  omega

private theorem Behind.next {a : WebhookDelivery} {ta : Int} (h : Behind k s a ta)
    (hs : step settings s e = some s') (hc : InOrder settings k s e s')
    (hw : NotBeforeRetry settings k s e s') :
    Behind k s' a ta := by
  obtain ⟨now, event⟩ := e
  obtain ⟨hle, hmove⟩ := Move.of_step hs
  have hclock := hmove.clock
  obtain ⟨row, hget, hcount, hlast, hpast⟩ := h.row
  cases hmove.effect k with
  | untouched hrow hx =>
      refine ⟨⟨row, ?_, hcount, hlast, fun hlt => ?_⟩, fun y hy hk => h.done y (hx y hy hk) hk,
        fun y hy hk => h.after y (hx y hy hk) hk⟩
      · rcases hrow with hsame | ⟨hnone, _⟩
        · exact hsame.trans hget
        · rw [hnone] at hget
          cases hget
      · have := hpast hlt
        omega
  | @reserved i x message row₀ copy _ hq hk hrow hres hrow' hx =>
      rw [hget, Option.some.injEq] at hrow
      subst hrow
      have hnew := reserve_attemptCount hres
      -- the wait is over: later attempts have seen to it, or the row's own time has
      have hover : ta + backoff a.attemptCount ≤ now := by
        rcases Nat.lt_or_eq_of_le hcount with hlt | heq
        · have := hpast hlt
          omega
        · rcases hlast heq with hfin | ⟨hst, t, ht, hwait⟩
          · exact absurd hfin (not_finished_of_reserve hres)
          · have hid : copy.pk = k := (reserve_pk hres).trans (pk_of_row hget)
            have hrow : s.deliveries.get? message.deliveryId = some row := hk ▸ hget
            have := hw row copy hget (reserved?_start hq hrow hres) hid hst t ht
            have : t ≤ now := this
            omega
      refine ⟨⟨copy, hrow', by omega, fun heq => by omega, fun _ => by omega⟩, ?_, ?_⟩
      · intro y hy hyk
        rcases hx y hy with hy | rfl
        · exact h.done y hy hyk
        · show copy.attemptCount ≠ a.attemptCount
          omega
      · intro y hy hyk hlt
        rcases hx y hy with hy | rfl
        · exact h.after y hy hyk hlt
        · exact ⟨now, reserve_lastAttemptAt hres, hover⟩
  | @saved x attempt running copy _ hrun hk hcopy hrow' hx =>
      rw [hget] at hrow'
      refine ⟨⟨saveResult copy row, hrow', hcount, fun heq => ?_, fun hlt => ?_⟩,
        fun y hy => h.done y (hx y hy).1, fun y hy => h.after y (hx y hy).1⟩
      · have heq : a.attemptCount = row.attemptCount := heq
        have hfail : ¬attempt.Fails := by
          intro hfail
          have := hc.latest x attempt running row rfl hrun hk hget hfail (not_lost_of_saved? hcopy)
          exact h.done running (Table.mem_of_get? hrun) hk (this.trans heq.symm)
        rcases settled_of_settle (settle_of_saved? hcopy) with
          ⟨_, hst, _⟩ | ⟨hf, _, _, _⟩ | ⟨hf, _, _, _⟩
        · exact Or.inl (Or.inl hst)
        · exact absurd hf hfail
        · exact absurd hf hfail
      · have hlt : a.attemptCount < row.attemptCount := hlt
        have := hpast hlt
        omega

theorem failedIn_eq_some {now : Int} {event : Event} {b : WebhookDelivery}
    (h : failedIn settings k s (now, event) = some b) :
    ∃ x attempt running, event = .finish x attempt ∧ s.executions.get? x = some running ∧
      saved? settings now running.delivery attempt = some b ∧ b.pk = k ∧ b.status ≠ .succeeded := by
  cases event with
  | finish x attempt =>
      simp only [failedIn, Option.bind_eq_bind, Option.bind_eq_some_iff] at h
      obtain ⟨running, hx, copy, hcopy, h⟩ := h
      split at h
      · rename_i hfail
        cases h
        exact ⟨x, attempt, running, rfl, hx, hcopy, hfail.1, hfail.2⟩
      · cases h
  | _ => cases h

/-- A failure saved by the latest attempt: the row waits for it, and it was the last of
its attempts. -/
private theorem behind_of_failedIn {b : WebhookDelivery} (h : Counted k s)
    (hs : step settings s e = some s') (hc : InOrder settings k s e s')
    (hb : failedIn settings k s e = some b) :
    (∃ tb, b.lastAttemptAt = some tb ∧ Behind k s' b tb) ∧
    ∃ y ∈ s.executions, y.delivery.pk = k ∧ y.delivery.attemptCount = b.attemptCount ∧
      y.delivery.lastAttemptAt = b.lastAttemptAt ∧
      ∃ row, s.deliveries.get? k = some row ∧ b.attemptCount = row.attemptCount := by
  obtain ⟨now, event⟩ := e
  obtain ⟨hle, hmove⟩ := Move.of_step hs
  obtain ⟨x, attempt, running, rfl, hx, hcopy, hpk, hst⟩ := failedIn_eq_some hb
  have hsettle := settle_of_saved? hcopy
  obtain ⟨hpk', hcount, htime⟩ := sameAttempt_of_settle hsettle
  have hk : running.delivery.pk = k := hpk'.symm.trans hpk
  have hmem := Table.mem_of_get? hx
  obtain ⟨tb, htb, hpast⟩ := h.stamped running hmem hk
  obtain ⟨row, hrow, _⟩ := h.below running hmem hk
  have hfail : attempt.Fails := by
    rcases settled_of_settle hsettle with ⟨_, hs, _⟩ | ⟨hf, _, _, _⟩ | ⟨hf, _, _, _⟩
    · exact absurd hs hst
    · exact hf
    · exact hf
  have hlatest := hc.latest x attempt running row rfl hx hk hrow hfail
    (not_lost_of_saved? hcopy)
  refine ⟨⟨tb, htime.trans htb, ?_⟩, running, hmem, hk, hcount.symm, htime.symm, row, hrow,
    hcount.trans hlatest⟩
  obtain ⟨hexec, hdel⟩ := hmove.saves hx hcopy
  have hrow' : s'.deliveries.get? k = some (saveResult b row) := by
    rw [hdel, get?_saved, if_pos hpk.symm, hrow]
    rfl
  have heq : b.attemptCount = row.attemptCount := hcount.trans hlatest
  have hold : ∀ y ∈ s'.executions, y ∈ s.executions ∧ y ≠ running := by
    intro y hy
    rw [hexec] at hy
    obtain ⟨hmem, hne⟩ := Table.mem_erase.mp hy
    exact ⟨hmem, fun h => hne (h ▸ Table.pk_of_get? hx)⟩
  refine ⟨⟨saveResult b row, hrow', Nat.le_of_eq heq, fun _ => ?_, fun hlt => ?_⟩, ?_, ?_⟩
  · rcases settled_of_settle hsettle with ⟨_, hs, _⟩ | ⟨_, _, hs, _⟩ | ⟨_, hlt, hs, hn⟩
    · exact absurd hs hst
    · exact Or.inl (Or.inr hs)
    · refine Or.inr ⟨hs, _, hn, ?_⟩
      rw [backoffSeconds_eq hlt, hcount]
      unfold backoff
      push_cast
      omega
  · have hlt : b.attemptCount < row.attemptCount := hlt
    omega
  · intro y hy hyk hyb
    obtain ⟨hmem', hne⟩ := hold y hy
    exact hne (h.distinct y hmem' running hmem hyk hk (hyb.trans hcount))
  · intro y hy hyk hlt
    obtain ⟨row', hget, hbelow⟩ := h.below y (hold y hy).1 hyk
    rw [hrow, Option.some.injEq] at hget
    subst hget
    omega

/-! ### Runs

The list of failed attempts grows at its end, and each new one is `Behind` all before it.
-/

/-- The invariant, over the state and the failed attempts saved so far. -/
structure Paced (k : UUID) (s : State) (log : List WebhookDelivery) : Prop where
  dated : Dated s
  counted : Counted k s
  behind : ∀ a ∈ log, ∃ ta, a.lastAttemptAt = some ta ∧ Behind k s a ta
  spaced : ∀ a ∈ log, ∀ b ∈ log, a.attemptCount < b.attemptCount → Spaced a b

theorem Paced.next {log : List WebhookDelivery} (h : Paced k s log)
    (hs : step settings s e = some s') (hc : InOrder settings k s e s') :
    Paced k s' (log ++ (failedIn settings k s e).toList) := by
  have hbehind : ∀ a ∈ log, ∃ ta, a.lastAttemptAt = some ta ∧ Behind k s' a ta := by
    intro a ha
    obtain ⟨ta, hta, hb⟩ := h.behind a ha
    exact ⟨ta, hta, hb.next hs hc (h.dated.notBeforeRetry hs hc)⟩
  have hdated := h.dated.next hs
  have hcounted := h.counted.next hs
  cases hb : failedIn settings k s e with
  | none =>
      rw [Option.toList_none, List.append_nil]
      exact ⟨hdated, hcounted, hbehind, h.spaced⟩
  | some b =>
      obtain ⟨hnew, y, hy, hyk, hycount, hytime, row, hrow, heq⟩ :=
        behind_of_failedIn h.counted hs hc hb
      -- the attempts before `b` are spaced from the execution that saves it
      have hbefore : ∀ a ∈ log, a.attemptCount < b.attemptCount → Spaced a b := by
        intro a ha hlt
        obtain ⟨ta, hta, hpast⟩ := h.behind a ha
        obtain ⟨t, ht, hle⟩ := hpast.after y hy hyk (by omega)
        exact ⟨ta, t, hta, hytime.symm.trans ht, hle⟩
      have hnone : ∀ a ∈ log, ¬b.attemptCount < a.attemptCount := by
        intro a ha hlt
        obtain ⟨ta, _, hpast⟩ := h.behind a ha
        obtain ⟨row', hget, hcount, _⟩ := hpast.row
        rw [hrow, Option.some.injEq] at hget
        subst hget
        omega
      rw [Option.toList_some]
      refine ⟨hdated, hcounted, fun a ha => ?_, fun a ha c hc' hlt => ?_⟩
      · rcases List.mem_append.mp ha with ha | ha
        · exact hbehind a ha
        · rw [List.mem_singleton.mp ha]
          exact hnew
      · rcases List.mem_append.mp ha with ha | ha <;> rcases List.mem_append.mp hc' with hc' | hc'
        · exact h.spaced a ha c hc' hlt
        · rw [List.mem_singleton.mp hc'] at hlt ⊢
          exact hbefore a ha hlt
        · rw [List.mem_singleton.mp ha] at hlt
          exact absurd hlt (hnone c hc')
        · rw [List.mem_singleton.mp ha, List.mem_singleton.mp hc'] at hlt
          omega

/-- **The backoff is respected in every run that keeps tasks and failures in order.** -/
theorem backoff_respected (settings : Settings) (k : UUID) (endpoints : Table WebhookEndpoint)
    (clock : Int) (es : List (Int × Event))
    (h : Run.Steps (step settings) (InOrder settings k) (State.init endpoints clock) es) :
    BackoffRespected settings k (State.init endpoints clock) es := by
  have hpaced : Paced k (State.init endpoints clock) [] :=
    ⟨dated_init endpoints clock, counted_init k endpoints clock,
      fun _ ha => absurd ha List.not_mem_nil, fun _ ha => absurd ha List.not_mem_nil⟩
  constructor
  · refine Run.Steps.of_inv ?_ hpaced.dated h
    intro s e s' hdated hs hc
    exact ⟨hdated.next hs, hdated.notBeforeRetry hs hc⟩
  · exact Run.collect_of_inv (fun _ _ _ _ hinv hs hc => hinv.next hs hc)
      (fun _ _ hinv => hinv.spaced) hpaced h

/-- Two rounds queue the delivery of one event, and the first of the two tasks fails. -/
def twiceQueuedRun : List (Int × Event) :=
  [(0, .emit ⟨1, "user.created", "", 0⟩ fun _ => 1), (0, .dispatch), (0, .dispatch),
    (0, .start 0 1), (0, .finish 1 (.raised .httpError))]

theorem backoff_respected_twiceQueuedRun :
    BackoffRespected .postgresql 1 (State.init oneEndpoint 0) twiceQueuedRun := by
  refine backoff_respected .postgresql 1 oneEndpoint 0 twiceQueuedRun ?_
  have hfirst : Run.Steps (step .postgresql)
      (fun s _ _ => (s.deliveries.get? 1).all (fun row => row.status ≠ .failed ∧
        s.executions.rows.all fun y => y.delivery.attemptCount = row.attemptCount) = true)
      (State.init oneEndpoint 0) twiceQueuedRun := by decide
  refine hfirst.imp fun s e s' _ h => ⟨?_, ?_⟩
  · intro i x message row _ _ _ hrow hst
    simp [hrow, hst] at h
  · intro x attempt y row _ hy _ hrow _ _
    simp only [hrow, Option.all_some, decide_eq_true_eq, List.all_eq_true] at h
    exact h.2 y (Table.mem_of_get? hy)

/-- The second task then starts a second after the failure, not thirty. -/
theorem twice_queued_delivery_not_delayed :
    ¬BackoffRespected .postgresql 1 (State.init oneEndpoint 0)
      (twiceQueuedRun ++ [(seconds 1, .start 0 2)]) := by
  intro h
  obtain ⟨t, _, hobs, _, hstep⟩ := h.reservations.last
    (f := fun s => (s.deliveries.get? 1, reserved? .postgresql s (seconds 1, .start 0 2)))
    (a := (some
      { pk := 1, endpoint := 1, event := 1, status := .failed, attemptCount := 1,
        lastAttemptAt := some 0, nextRetryAt := some (seconds 30) },
      some
      { pk := 1, endpoint := 1, event := 1, status := .processing, attemptCount := 2,
        lastAttemptAt := some (seconds 1), nextRetryAt := some (seconds 30) })) (by decide)
    (g := fun _ => ()) (b := ()) (by decide)
  rw [Prod.mk.injEq] at hobs
  have : seconds 30 ≤ seconds 1 :=
    hstep _ _ hobs.1 hobs.2 rfl rfl _ rfl
  exact absurd this (by decide)

end DjangoFoundation.Webhooks
