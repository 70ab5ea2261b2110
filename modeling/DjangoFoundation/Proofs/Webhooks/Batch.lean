/-
How far a round of deliveries gets where each is made inline.

The handler of `deliver_webhook` turns an `httpx.HTTPError` and a `ValidationError` into a failed
delivery, and the round goes on.  `Uncaught` lists what is neither: what a delivery that meets
one of these raises ends the round and reaches whoever started it.  It has been attempted by
then, unless what it meets is that its count of attempts is full.

The condition on a delivery is decided before its turn, by its row, its endpoint and what its
exchange would come to.  Earlier deliveries of the round leave all of these as they are, which
is `uncaught_congr`.
-/
import Mathlib.Data.List.Nodup
import DjangoFoundation.Proofs.Webhooks.Moves
import DjangoFoundation.Webhooks.Synchronous

namespace DjangoFoundation.Webhooks

variable {env : Environment} {settings : Settings} {exchange : UUID → Exchange} {x : Exchange}
  {s s' : State} {endpoint : WebhookEndpoint} {delivery d : WebhookDelivery} {now : Int}

/-! ### Statement

Whether a delivery meets something uncaught is asked of the state the round starts from.  What
an earlier delivery of the round does has no part in it.
-/

/-- What a delivery can meet that its handler does not name. -/
inductive Uncaught (env : Environment) (settings : Settings) (x : Exchange)
    (endpoint : WebhookEndpoint) (d : WebhookDelivery) : Prop
  /-- The reservation counts further than its column holds. -/
  | count (hfull : ¬d.HasRoom settings)
  | url (h : Url.urlparse env.urls endpoint.url = none)
  | port {parsed} (h : Url.urlparse env.urls endpoint.url = some parsed)
      (haccepts : accepts env parsed = true) (hport : parsed.port = none)
  | resolver {parsed port name} (h : Url.urlparse env.urls endpoint.url = some parsed)
      (haccepts : accepts env parsed = true) (hport : parsed.port = some port)
      (hresolve : resolve env x parsed port = .other name)
  | secret (hvalid : validateUrl env x endpoint.url = .ok ())
      (hsecret : env.keyring.decryptValue "webhook-secret" endpoint.encryptedSecret = none)
  | client {secret name} (hvalid : validateUrl env x endpoint.url = .ok ())
      (hsecret : env.keyring.decryptValue "webhook-secret" endpoint.encryptedSecret = some secret)
      (hpost : x.post (request env x endpoint d.event secret) = .raised (.other name))
  /-- The last save has a text that the database does not take. -/
  | text {secret statusCode text} (hvalid : validateUrl env x endpoint.url = .ok ())
      (hsecret : env.keyring.decryptValue "webhook-secret" endpoint.encryptedSecret = some secret)
      (hpost : x.post (request env x endpoint d.event secret) = .response statusCode text)
      (hnew : storedBody text ≠ d.responseBody)
      (hrefused : settings.stores (storedBody text) = false)

/-- The attempt at this delivery meets something uncaught. -/
def State.Uncaught (s : State) (env : Environment) (settings : Settings)
    (exchange : UUID → Exchange) (d : WebhookDelivery) : Prop :=
  ∃ endpoint ∈ s.endpoints.get? d.endpoint,
    Webhooks.Uncaught env settings (exchange d.pk) endpoint d

/-- An attempt at the delivery has been counted. -/
def Attempted (d : WebhookDelivery) (s : State) : Prop :=
  ∃ row ∈ s.deliveries.get? d.pk, row.attemptCount = d.attemptCount + 1

/-! ### One attempt

The attempt runs in a `try` with two handlers, and its last save stands behind them.  So there
are three ways out with an exception: one from inside that is not named, one from the save, and
one from the reservation before.
-/

theorem uncaught_of_validateUrl {name : String}
    (h : validateUrl env x endpoint.url = .error (.other name)) :
    Uncaught env settings x endpoint d := by
  unfold validateUrl at h
  cases hurl : Url.urlparse env.urls endpoint.url with
  | none => exact .url hurl
  | some parsed =>
      rw [hurl] at h
      by_cases haccepts : accepts env parsed = true
      · cases hport : parsed.port with
        | none => exact .port hurl haccepts hport
        | some port =>
            cases hresolve : resolve env x parsed port with
            | other name' => exact .resolver hurl haccepts hport hresolve
            | gaierror => simp [haccepts, hport, hresolve] at h
            | addresses isGlobal =>
                by_cases hglobal : isGlobal.all id = true
                · simp [haccepts, hport, hresolve, hglobal] at h
                · simp [haccepts, hport, hresolve, hglobal] at h
      · simp [haccepts] at h

/-- Where the attempt ends in an exception that is not named, it has met one of those listed. -/
theorem uncaught_of_escapes (h : (attempt env x endpoint d.event).Escapes) :
    Uncaught env settings x endpoint d := by
  unfold attempt at h
  cases hvalid : validateUrl env x endpoint.url with
  | error exception =>
      rw [hvalid] at h
      cases exception with
      | other name => exact uncaught_of_validateUrl hvalid
      | httpError => exact absurd h id
      | validationError => exact absurd h id
  | ok =>
      rw [hvalid] at h
      cases hsecret : env.keyring.decryptValue "webhook-secret" endpoint.encryptedSecret with
      | none => exact .secret hvalid hsecret
      | some secret =>
          simp only [hsecret] at h
          cases hpost : x.post (request env x endpoint d.event secret) with
          | response statusCode text =>
              rw [hpost] at h
              exact absurd h id
          | raised exception =>
              rw [hpost] at h
              cases exception with
              | other name => exact .client hvalid hsecret hpost
              | httpError => exact absurd h id
              | validationError => exact absurd h id

/-- So has one whose answer the row cannot hold. -/
theorem uncaught_of_refused (h : (attempt env x endpoint d.event).Refused settings d) :
    Uncaught env settings x endpoint d := by
  unfold attempt at h
  cases hvalid : validateUrl env x endpoint.url with
  | error exception =>
      rw [hvalid] at h
      exact absurd h id
  | ok =>
      rw [hvalid] at h
      cases hsecret : env.keyring.decryptValue "webhook-secret" endpoint.encryptedSecret with
      | none =>
          rw [hsecret] at h
          exact absurd h id
      | some secret =>
          simp only [hsecret] at h
          cases hpost : x.post (request env x endpoint d.event secret) with
          | response statusCode text =>
              rw [hpost] at h
              exact .text hvalid hsecret hpost h.1 h.2
          | raised exception =>
              rw [hpost] at h
              exact absurd h id

/-- What is listed, but for a full count, loses the attempt. -/
theorem lost_or_full (h : Uncaught env settings x endpoint d) :
    (attempt env x endpoint d.event).Lost settings d ∨ ¬d.HasRoom settings := by
  unfold attempt
  cases h with
  | count hfull => exact Or.inr hfull
  | url h =>
      have hvalid : validateUrl env x endpoint.url = .error ValueError := by
        rw [validateUrl, h]
      rw [hvalid]
      exact Or.inl (Or.inl trivial)
  | port h haccepts hport =>
      have hvalid : validateUrl env x endpoint.url = .error ValueError := by
        simp [validateUrl, h, haccepts, hport]
      rw [hvalid]
      exact Or.inl (Or.inl trivial)
  | @resolver parsed port name h haccepts hport hresolve =>
      have hvalid : validateUrl env x endpoint.url = .error (.other name) := by
        simp [validateUrl, h, haccepts, hport, hresolve]
      rw [hvalid]
      exact Or.inl (Or.inl trivial)
  | secret hvalid hsecret =>
      rw [hvalid, hsecret]
      exact Or.inl (Or.inl trivial)
  | client hvalid hsecret hpost =>
      simp only [hvalid, hsecret, hpost]
      exact Or.inl (Or.inl trivial)
  | text hvalid hsecret hpost hnew hrefused =>
      simp only [hvalid, hsecret, hpost]
      exact Or.inl (Or.inr ⟨hnew, hrefused⟩)

/-- **An attempt is lost exactly where it meets what is listed.** -/
theorem uncaught_iff :
    Uncaught env settings x endpoint d ↔
      (attempt env x endpoint d.event).Lost settings d ∨ ¬d.HasRoom settings := by
  refine ⟨lost_or_full, ?_⟩
  rintro ((hescapes | hrefused) | hfull)
  · exact uncaught_of_escapes hescapes
  · exact uncaught_of_refused hrefused
  · exact .count hfull

/-! ### One delivery

The turn of a delivery is written out twice, for a full count and for one with room.  In either
case it writes to its own row only.
-/

theorem deliverReserved_fst :
    (deliverReserved env settings x s endpoint delivery).1 = none ↔
      ¬(attempt env x endpoint delivery.event).Lost settings delivery := by
  rw [← saved?_eq_none s.clock]
  unfold deliverReserved
  dsimp only
  cases saved? settings s.clock delivery (attempt env x endpoint delivery.event) with
  | none => simp
  | some copy => simp

/-- Nothing else is written than columns of the one row, and time goes on. -/
structure Delivered (k : UUID) (s s' : State) : Prop where
  endpoints : s'.endpoints = s.endpoints
  clock : s.clock ≤ s'.clock
  others : ∀ j, j ≠ k → s'.deliveries.get? j = s.deliveries.get? j

theorem Delivered.trans {k : UUID} {t : State} (h : Delivered k s t) (h' : Delivered k t s') :
    Delivered k s s' where
  endpoints := h'.endpoints.trans h.endpoints
  clock := Int.le_trans h.clock h'.clock
  others := fun j hj => (h'.others j hj).trans (h.others j hj)

/-- After its reservation a delivery writes to its own row, and no count. -/
theorem delivered_deliverReserved (env : Environment) (settings : Settings) (x : Exchange)
    (s : State) (endpoint : WebhookEndpoint) (delivery : WebhookDelivery) :
    Delivered delivery.pk s (deliverReserved env settings x s endpoint delivery).2 ∧
      ((deliverReserved env settings x s endpoint delivery).2.deliveries.get? delivery.pk).map
        WebhookDelivery.attemptCount =
      (s.deliveries.get? delivery.pk).map WebhookDelivery.attemptCount := by
  unfold deliverReserved
  dsimp only
  cases hsaved : saved? settings s.clock delivery (attempt env x endpoint delivery.event) with
  | none => exact ⟨⟨rfl, Int.le_refl _, fun _ _ => rfl⟩, rfl⟩
  | some copy =>
      have hpk : copy.pk = delivery.pk := (sameAttempt_of_settle (settle_of_saved? hsaved)).pk
      refine ⟨⟨rfl, Int.le_refl _, fun j hj => ?_⟩, ?_⟩
      · rw [get?_saved, hpk, if_neg hj]
      · rw [get?_saved, if_pos hpk.symm, Option.map_map]
        rfl

/-- A selected delivery whose turn has not come: its row is as selected, its endpoint is there
and no early return is in the way. -/
structure Ready (s : State) (d : WebhookDelivery) : Prop where
  row : s.deliveries.get? d.pk = some d
  endpoint : ∃ endpoint, s.endpoints.get? d.endpoint = some endpoint
  free : ∀ now, s.clock ≤ now → d.Free now

/-- The turn of a delivery whose count is full: its reservation raises. -/
theorem deliverWebhook_full (h : Ready s d) (hfull : ¬d.HasRoom settings) (env : Environment)
    (x : Exchange) :
    deliverWebhook env settings x s d.pk =
      (some DataError, { s with clock := s.clock + x.waited }) := by
  obtain ⟨endpoint, hendpoint⟩ := h.endpoint
  have herror : reserve settings (s.clock + x.waited) d = .error DataError :=
    reserve_eq_error.mpr ⟨h.free _ (by omega), hfull, rfl⟩
  unfold deliverWebhook
  simp only [h.row, hendpoint, herror]

/-- The turn of one whose count has room. -/
theorem deliverWebhook_room (h : Ready s d) (hroom : d.HasRoom settings) (env : Environment)
    (x : Exchange) :
    Delivered d.pk s (deliverWebhook env settings x s d.pk).2 ∧
      Attempted d (deliverWebhook env settings x s d.pk).2 ∧
      ((deliverWebhook env settings x s d.pk).1 = none ↔
        ∀ endpoint, s.endpoints.get? d.endpoint = some endpoint →
          ¬(attempt env x endpoint d.event).Lost settings d) := by
  obtain ⟨endpoint, hendpoint⟩ := h.endpoint
  have hfree := h.free (s.clock + x.waited) (by omega)
  have hcopy : reserve settings (s.clock + x.waited) d =
      .ok (some (d.attempted (s.clock + x.waited))) :=
    reserve_eq_some.mpr ⟨hfree, hroom, rfl⟩
  generalize hc : d.attempted (s.clock + x.waited) = copy at hcopy
  have hrows (j : UUID) : (s.deliveries.modify d.pk (saveReservation copy)
      (pk_saveReservation copy)).get? j = if j = d.pk then some copy else s.deliveries.get? j :=
    get?_reserved h.row hcopy j
  let reserved : State := { s with
    clock := s.clock + x.waited + x.took
    deliveries := s.deliveries.modify d.pk (saveReservation copy) (pk_saveReservation copy) }
  have hreserved : Delivered d.pk s reserved := by
    refine ⟨rfl, ?_, fun j hj => (hrows j).trans (if_neg hj)⟩
    show s.clock ≤ s.clock + x.waited + x.took
    omega
  have hrow : reserved.deliveries.get? d.pk = some copy := (hrows d.pk).trans (if_pos rfl)
  obtain ⟨hdelivered, hcount⟩ := delivered_deliverReserved env settings x reserved endpoint copy
  rw [reserve_pk hcopy] at hdelivered hcount
  rw [hrow, Option.map_some] at hcount
  unfold deliverWebhook
  simp only [h.row, hendpoint, hcopy]
  refine ⟨hreserved.trans hdelivered, ?_, ?_⟩
  · obtain ⟨row, hget, hcounted⟩ := Option.map_eq_some_iff.mp hcount
    exact ⟨row, hget, hcounted.trans (reserve_attemptCount hcopy)⟩
  · have hlost (outcome : Attempt) : outcome.Lost settings copy ↔ outcome.Lost settings d := by
      rw [← hc]
      exact Iff.rfl
    have hevent : copy.event = d.event := by
      rw [← hc]
      rfl
    rw [deliverReserved_fst, hlost, hevent]
    constructor
    · rintro hcaught _ ⟨⟩
      exact hcaught
    · intro hcaught
      exact hcaught endpoint rfl

/-- **What the turn of a delivery comes to.**  It raises exactly what is listed, and leaves the
delivery attempted if its count has room. -/
theorem deliverWebhook_ready (h : Ready s d) (env : Environment) (settings : Settings)
    (x : Exchange) :
    Delivered d.pk s (deliverWebhook env settings x s d.pk).2 ∧
      (d.HasRoom settings → Attempted d (deliverWebhook env settings x s d.pk).2) ∧
      ((deliverWebhook env settings x s d.pk).1 = none ↔
        ∀ endpoint, s.endpoints.get? d.endpoint = some endpoint →
          ¬Uncaught env settings x endpoint d) := by
  by_cases hroom : d.HasRoom settings
  · obtain ⟨hdelivered, hattempted, hfst⟩ := deliverWebhook_room h hroom env x
    refine ⟨hdelivered, fun _ => hattempted, ?_⟩
    simp only [hfst, uncaught_iff, hroom, not_true_eq_false, or_false]
  · rw [deliverWebhook_full h hroom env x]
    refine ⟨⟨rfl, ?_, fun _ _ => rfl⟩, fun h => absurd h hroom, ?_⟩
    · show s.clock ≤ s.clock + x.waited
      omega
    · refine iff_of_false (Option.some_ne_none _) fun hcaught => ?_
      obtain ⟨endpoint, hendpoint⟩ := h.endpoint
      exact hcaught endpoint hendpoint (.count hroom)

/-! ### A round

Induction on the deliveries still to come, which stay ready because each turn leaves the other
rows alone.
-/

theorem Ready.of_delivered {k : UUID} (h : Ready s d) (hs : Delivered k s s') (hk : d.pk ≠ k) :
    Ready s' d where
  row := by rw [hs.others d.pk hk, h.row]
  endpoint := by
    rw [hs.endpoints]
    exact h.endpoint
  free := fun now hnow => h.free now (Int.le_trans hs.clock hnow)

theorem Attempted.of_delivered {k : UUID} (h : Attempted d s) (hs : Delivered k s s')
    (hk : d.pk ≠ k) : Attempted d s' := by
  obtain ⟨row, hrow, hcount⟩ := h
  exact ⟨row, (hs.others d.pk hk).trans hrow, hcount⟩

theorem uncaught_congr (h : s'.endpoints = s.endpoints) :
    s'.Uncaught env settings exchange d ↔ s.Uncaught env settings exchange d := by
  rw [State.Uncaught, State.Uncaught, h]

theorem not_uncaught_iff :
    ¬s.Uncaught env settings exchange d ↔ ∀ endpoint, s.endpoints.get? d.endpoint = some endpoint →
      ¬Uncaught env settings (exchange d.pk) endpoint d := by
  rw [State.Uncaught, not_exists]
  exact forall_congr' fun endpoint => not_and

/-- The turn of one delivery leaves the others of its round ready. -/
theorem ready_rest {ds : List WebhookDelivery} (hds : ∀ b ∈ d :: ds, Ready s b)
    (hd : d.pk ∉ ds.map WebhookDelivery.pk) (hturn : Delivered d.pk s s') :
    ∀ b ∈ ds, Ready s' b := by
  intro b hb
  refine (hds b (List.mem_cons_of_mem d hb)).of_delivered hturn ?_
  exact fun hpk => hd (hpk ▸ List.mem_map_of_mem hb)

/-- A delivery attempted, and not selected again, stays attempted. -/
theorem attempted_deliverAll {ds : List WebhookDelivery} (hds : ∀ d ∈ ds, Ready s d)
    (hnodup : (ds.map WebhookDelivery.pk).Nodup) (hd : d.pk ∉ ds.map WebhookDelivery.pk)
    (h : Attempted d s) :
    Attempted d (deliverAll env settings exchange s (ds.map WebhookDelivery.pk)).2 := by
  induction ds generalizing s with
  | nil => exact h
  | cons d' ds ih =>
      rw [List.map_cons, List.nodup_cons] at hnodup
      rw [List.map_cons, List.mem_cons, not_or] at hd
      have hturn := deliverWebhook_ready (hds d' List.mem_cons_self) env settings (exchange d'.pk)
      have hkept := h.of_delivered hturn.1 hd.1
      rw [List.map_cons, deliverAll]
      cases hresult : deliverWebhook env settings (exchange d'.pk) s d'.pk with
      | mk raised t =>
          rw [hresult] at hturn hkept
          cases raised with
          | some exception => exact hkept
          | none => exact ih (ready_rest hds hnodup.1 hturn.1) hnodup.2 hd.2 hkept

/-- **A round goes on up to the first delivery that meets something uncaught**, and raises if
there is one. -/
theorem deliverAll_ready {ds : List WebhookDelivery} (hds : ∀ d ∈ ds, Ready s d)
    (hnodup : (ds.map WebhookDelivery.pk).Nodup) :
    ((deliverAll env settings exchange s (ds.map WebhookDelivery.pk)).1 = none ↔
      ∀ d ∈ ds, ¬s.Uncaught env settings exchange d) ∧
    ∀ before d after, ds = before ++ d :: after →
      (∀ b ∈ before, ¬s.Uncaught env settings exchange b) →
      d.HasRoom settings →
      Attempted d (deliverAll env settings exchange s (ds.map WebhookDelivery.pk)).2 := by
  induction ds generalizing s with
  | nil =>
      refine ⟨iff_of_true rfl fun d hd => absurd hd List.not_mem_nil, ?_⟩
      intro before d after hsplit
      exact absurd hsplit (by simp)
  | cons d' ds ih =>
      rw [List.map_cons, List.nodup_cons] at hnodup
      obtain ⟨hturn, hattempted, hfst⟩ :=
        deliverWebhook_ready (hds d' List.mem_cons_self) env settings (exchange d'.pk)
      rw [← not_uncaught_iff] at hfst
      have hrest := ready_rest hds hnodup.1 hturn
      rw [List.map_cons, deliverAll]
      cases hresult : deliverWebhook env settings (exchange d'.pk) s d'.pk with
      | mk raised t =>
          rw [hresult] at hturn hattempted hfst hrest
          dsimp only at hturn hattempted hfst hrest
          cases raised with
          | some exception =>
              have huncaught : s.Uncaught env settings exchange d' := by
                rw [iff_false_left (Option.some_ne_none exception), not_not] at hfst
                exact hfst
              refine ⟨iff_of_false (Option.some_ne_none exception) fun hall =>
                hall d' List.mem_cons_self huncaught, ?_⟩
              intro before d after hsplit hbefore hroom
              cases before with
              | nil =>
                  rw [List.nil_append, List.cons.injEq] at hsplit
                  rw [← hsplit.1] at hroom ⊢
                  exact hattempted hroom
              | cons b before =>
                  rw [List.cons_append, List.cons.injEq] at hsplit
                  exact absurd (hsplit.1 ▸ huncaught) (hbefore b List.mem_cons_self)
          | none =>
              have hcaught : ¬s.Uncaught env settings exchange d' := hfst.mp rfl
              obtain ⟨ihfst, ihattempted⟩ := ih hrest hnodup.2
              have hcongr : ∀ d, t.Uncaught env settings exchange d ↔
                  s.Uncaught env settings exchange d := fun d => uncaught_congr hturn.endpoints
              simp only [hcongr] at ihfst ihattempted
              refine ⟨?_, ?_⟩
              · rw [ihfst, List.forall_mem_cons, and_iff_right hcaught]
              · intro before d after hsplit hbefore hroom
                cases before with
                | nil =>
                    rw [List.nil_append, List.cons.injEq] at hsplit
                    rw [← hsplit.1] at hroom ⊢
                    exact attempted_deliverAll hrest hnodup.2 hnodup.1 (hattempted hroom)
                | cons b before =>
                    rw [List.cons_append, List.cons.injEq] at hsplit
                    exact ihattempted before d after hsplit.2
                      (fun b' hb' => hbefore b' (List.mem_cons_of_mem b hb')) hroom

/-! ### What a round selects

The rows selected are those of active endpoints, and each has the column that its status is
selected by.
-/

theorem endpoint_of_selects (h : s.Selects now d) :
    ∃ endpoint, s.endpoints.get? d.endpoint = some endpoint := by
  obtain ⟨endpoint, hendpoint, -⟩ := (Option.any_eq_true _ _).mp (active_of_selects h)
  exact ⟨endpoint, hendpoint⟩

theorem ready_of_selected (h : d ∈ dispatchPendingWebhooks settings s.clock s) : Ready s d := by
  obtain ⟨hmem, hselects⟩ := mem_dispatchPendingWebhooks h
  refine ⟨Table.get?_of_mem hmem, endpoint_of_selects hselects, fun _ hnow => ?_⟩
  exact free_of_selects (active_of_selects hselects) hselects hnow

/-- No delivery is selected twice: the three selections are of different states. -/
theorem nodup_selected (settings : Settings) (now : Int) (s : State) :
    ((dispatchPendingWebhooks settings now s).map WebhookDelivery.pk).Nodup := by
  have hrows : s.deliveries.rows.Nodup := List.Nodup.of_map _ s.deliveries.nodup
  have hinj : ∀ a ∈ dispatchPendingWebhooks settings now s,
      ∀ b ∈ dispatchPendingWebhooks settings now s, a.pk = b.pk → a = b := by
    intro a ha b hb hpk
    exact Table.eq_of_pk_eq (mem_dispatchPendingWebhooks ha).1
      (mem_dispatchPendingWebhooks hb).1 hpk
  refine List.Nodup.map_on hinj ?_
  unfold dispatchPendingWebhooks
  split
  · have htake : ∀ (p : WebhookDelivery → Bool) n, ((s.deliveries.rows.filter p).take n).Nodup :=
      fun p n => (hrows.filter p).sublist (List.take_sublist n _)
    have hstatus : ∀ {p : WebhookDelivery → Bool} {n a}, a ∈ (s.deliveries.rows.filter p).take n →
        p a = true := fun ha => (List.mem_filter.mp (List.mem_of_mem_take ha)).2
    dsimp only
    refine List.Nodup.append (List.Nodup.append (htake _ _) (htake _ _) ?_) (htake _ _) ?_
    · intro a hpending hfailed
      have hpending := hstatus hpending
      have hfailed := hstatus hfailed
      simp only [State.selectsPending, State.selectsFailed, decide_eq_true_eq] at hpending hfailed
      rw [hpending.1] at hfailed
      exact absurd hfailed.1 (by decide)
    · intro a hearlier hstale
      have hstale := hstatus hstale
      simp only [State.selectsStale, decide_eq_true_eq] at hstale
      rcases List.mem_append.mp hearlier with hpending | hfailed
      · have hpending := hstatus hpending
        simp only [State.selectsPending, decide_eq_true_eq] at hpending
        rw [hpending.1] at hstale
        exact absurd hstale.1 (by decide)
      · have hfailed := hstatus hfailed
        simp only [State.selectsFailed, decide_eq_true_eq] at hfailed
        rw [hfailed.1] at hstale
        exact absurd hstale.1 (by decide)
  · exact List.nodup_nil

/-! ### Rounds and emissions

`emit` queues its deliveries in a callback after the commit.  Made inline, they are a round
over the rows just created.
-/

theorem dispatchInline_fst (env : Environment) (settings : Settings) (exchange : UUID → Exchange)
    (s : State) :
    (dispatchInline env settings exchange s).1 = none ↔
      ∀ d ∈ dispatchPendingWebhooks settings s.clock s, ¬s.Uncaught env settings exchange d :=
  (deliverAll_ready (fun _ hd => ready_of_selected hd) (nodup_selected settings s.clock s)).1

theorem dispatchInline_attempts (env : Environment) (settings : Settings)
    (exchange : UUID → Exchange) (s : State) {before after : List WebhookDelivery}
    (hsplit : dispatchPendingWebhooks settings s.clock s = before ++ d :: after)
    (hbefore : ∀ b ∈ before, ¬s.Uncaught env settings exchange b)
    (hroom : d.HasRoom settings) :
    Attempted d (dispatchInline env settings exchange s).2 :=
  (deliverAll_ready (fun _ hd => ready_of_selected hd) (nodup_selected settings s.clock s)).2
    before d after hsplit hbefore hroom

theorem emitInline_of_emit {event : WebhookEvent} {draw : UUID → UUID}
    (h : emit s event draw = some s') (env : Environment) (settings : Settings)
    (exchange : UUID → Exchange) :
    emitInline env settings exchange s event draw =
      some (if settings.enableWebhooks && s.hasSubscribers event then
        dispatchInline env settings exchange s' else (none, s')) := by
  rw [emitInline, h, Option.map_some]

/-- **Rounds and emissions, inline.**  A delivery whose count has room, and before which none
meets anything uncaught, is attempted; and a round raises, into the caller of the `emit` that
started it too, if and only if one does. -/
theorem round_goes_on (env : Environment) (settings : Settings) (exchange : UUID → Exchange)
    (s : State) :
    (∀ before d after, dispatchPendingWebhooks settings s.clock s = before ++ d :: after →
      (∀ b ∈ before, ¬s.Uncaught env settings exchange b) → d.HasRoom settings →
      Attempted d (dispatchInline env settings exchange s).2) ∧
    ((dispatchInline env settings exchange s).1 = none ↔
      ∀ d ∈ dispatchPendingWebhooks settings s.clock s, ¬s.Uncaught env settings exchange d) ∧
    ∀ event draw s', emit s event draw = some s' →
      ∃ raised t, emitInline env settings exchange s event draw = some (raised, t) ∧
        (raised = none ↔ (settings.enableWebhooks && s.hasSubscribers event) = true →
          ∀ d ∈ dispatchPendingWebhooks settings s'.clock s',
            ¬s'.Uncaught env settings exchange d) := by
  refine ⟨fun _ _ _ => dispatchInline_attempts env settings exchange s,
    dispatchInline_fst env settings exchange s, ?_⟩
  intro event draw s' hemit
  have hrun := emitInline_of_emit hemit env settings exchange
  by_cases hhook : (settings.enableWebhooks && s.hasSubscribers event) = true
  · rw [if_pos hhook] at hrun
    refine ⟨_, _, hrun, ?_⟩
    rw [forall_prop_of_true hhook]
    exact dispatchInline_fst env settings exchange s'
  · rw [if_neg hhook] at hrun
    exact ⟨none, s', hrun, iff_of_true rfl fun h => absurd h hhook⟩

/-- Secrets are encrypted under a new key. -/
def rotated : Keyring where
  __ := Keyring.plain
  encryptValue _ _ value := "new:" ++ value
  decryptValue _ value :=
    if "new:".toList.isPrefixOf value.toList then some (String.ofList (value.toList.drop 4))
    else none
  decrypt_encrypt _ _ value := by
    rw [String.toList_append, if_pos (by simp), List.drop_left' (by rfl), String.ofList_toList]

def afterRotation : Environment where
  production := true
  appName := "App"
  unicode := ⟨fun _ => false, fun c => [c], fun c => [c]⟩
  urls := ⟨id, fun _ => false⟩
  keyring := rotated
  serializeEvent _ := ""
  hmac _ message := message

/-- The host is found, and everything is taken. -/
def reachable : Exchange where
  waited := 0
  took := 0
  timestamp := 0
  getaddrinfo _ _ := .addresses [true]
  post _ := .response 200 "ok"

/-- The secret of the first endpoint is still under the old key. -/
def twoEndpoints : Table WebhookEndpoint :=
  ⟨[⟨1, "https://a.example/", ["user.created"], "old:a", true⟩,
    ⟨2, "https://b.example/", ["user.created"], "new:b", true⟩], by decide⟩

/-- Its delivery raises into the caller of `emit`, and the second is not attempted. -/
theorem emit_raises_lost_secret :
    (emitInline afterRotation .postgresql (fun _ => reachable) (.init twoEndpoints 0)
        ⟨7, "user.created", "", 0⟩ id).map (fun result => (result.1,
          result.2.deliveries.rows.map fun d => (d.pk, d.status, d.attemptCount))) =
      some (some ValueError, [(1, .processing, 1), (2, .pending, 0)]) := by
  decide +kernel

end DjangoFoundation.Webhooks
